import JvmAttach.AttachFault
import JvmAttach.Text.Blank
import JvmAttach.Text.Numeral
import JvmAttach.Wire.Source

/-! Replies of an attach listener. The first line is a completion status, an integer. Behind a
status of zero a load has a second line with what the agent's entry point returned, either bare
or after a label; behind any other status comes a message for people. -/
namespace JvmAttach.Wire.Reply

/-- The status of a listener that speaks another version of the protocol. -/
def versionMismatch : Int := 101

def resultLabel : List Char := "return code: ".toList

def prematureEnd : AttachFault := .protocol "Premature EOF"

def notNumeric (line : List Char) : AttachFault :=
  .protocol s!"Non-numeric value found - int expected, got '{String.ofList line}'"

def mismatch : AttachFault := .protocol "Protocol mismatch with target VM"

def noResponse : AttachFault := .agentLoad "Target VM did not respond"

def refusal : String := "Failed to load agent library"

/-- The error for a status other than zero that came with a message. -/
def failure (status : Int) (text : List Char) : AttachFault :=
  if status = versionMismatch then mismatch
  else .agentLoad (if text.isEmpty then refusal else refusal ++ ": " ++ String.ofList text)

def integer (line : List Char) : Except Text.NumeralFault Int := Text.integer32 (Text.trim line)

def withoutLabel (line : List Char) : List Char :=
  if resultLabel.isPrefixOf line then line.drop resultLabel.length else line

/-- What the entry point's line says. A line that holds no integer is an error text itself. -/
def result (line : List Char) : Except AttachFault Unit :=
  match integer (withoutLabel line) with
  | .error _ => .error (.agentLoad (String.ofList line))
  | .ok 0 => .ok ()
  | .ok code => .error (.agentInitialization AttachFault.entryPointFailed code)

def readLine : Act AttachFault Source (Option (List Char)) := Source.readLine.mapError .io

def readStatus : Act AttachFault Source Int := do
  match ← readLine with
  | none => Act.fail prematureEnd
  | some line =>
    match integer line with
    | .error _ => Act.fail (notNumeric line)
    | .ok status => return status

/-- The whole reply to a load. -/
def readLoad : Act AttachFault Source Unit := do
  let status ← readStatus
  if status ≠ 0 then
    let text ← Source.readRemaining.mapError .io
    Act.fail (failure status text)
  else
    match ← readLine with
    | none => Act.fail noResponse
    | some line => Act.ofExcept (result line)

end JvmAttach.Wire.Reply
