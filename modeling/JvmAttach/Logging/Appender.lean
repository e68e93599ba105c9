import JvmAttach.Host.Basic

/-! A writer for log files that are named by their days. It opens the file of the day at once and crashes if
it cannot. -/
namespace JvmAttach.LogFile

def dated (directory : Path) (name : Bytes) (date : String) : Path :=
  directory.join ⟨name ++ Path.dot :: Text.bytesOf date⟩

def openingFailed : String := "initializing rolling file appender failed"

/-- Open the file of the day, at a second try behind making its directory. -/
def openToday (directory : Path) (name : Bytes) : Act Empty Host Unit := do
  let path := dated directory name (← Act.look Host.date)
  match ← (Host.appendFile path).attempt (δ := Empty) with
  | .ok () => return ()
  | .error _ =>
    let again : Act SystemFault Host Unit := do
      match path.parent? with
      | some parent => Host.makeDirectories parent
      | none => return ()
      Host.appendFile path
    match ← again.attempt (δ := Empty) with
    | .ok () => return ()
    | .error _ => Act.crash openingFailed

end JvmAttach.LogFile
