import JvmAttach.Command.Run
import Std.Time.Format

/-! The command as a program. It looks at what is around it, runs the command on that, and does
outside what the run did: directories are made, the log file is written, and the report goes to
the standard output and the standard error. Neither signals nor Unix sockets are within reach of
this layer, so the run finds that signals cannot be sent. -/
namespace JvmAttach.Program

open Command

/-- A host with a working directory and, if it is there, a library. -/
def seen (working : Path) (library : Option Path) (date : String) : Host :=
  let start := Host.alone .bare 1 Host.Machine.rootInode date
  let housed := ((Host.makeDirectories working).run start).state
  let stocked := match library with
    | some path => ((do
        match path.parent? with
        | some directory => Host.makeDirectories directory
        | none => return ()
        Host.createFile path : Act SystemFault Host Unit).run housed).state
    | none => housed
  let directory := match stocked.machine.find stocked.caller true working with
    | .ok spot =>
      match spot.place? with
      | some (.node i) => i
      | _ => Host.Machine.rootInode
    | .error _ => Host.Machine.rootInode
  { stocked with directory, journal := [], signalsBarred := some Errno.notImplemented }

def isThere (path : Path) : IO Bool := do
  try
    let _ ← IO.FS.Handle.mk path.shown .read
    return true
  catch _ => return false

/-- The library that the arguments ask for, if there is one. -/
def libraryOf (arguments : List Bytes) (working : Path) : IO (Option Path) := do
  match parse arguments with
  | .run options =>
    match (library options).resolve (.ok working) with
    | .ok path => return if ← isThere path then some path else none
    | .error _ => return none
  | _ => return none

def environment : IO Environment := do
  let names := [Logging.formatVariable, Logging.fileVariable, Logging.filterVariable]
  let values ← names.mapM fun name => do
    return (← IO.getEnv name).map fun value => (name, Text.bytesOf value)
  return values.filterMap id

def today : IO String := do
  let now ← Std.Time.Timestamp.now
  return toString (Std.Time.PlainDate.ofEpochDay now.toDaysSinceUnixEpoch)

/-- Do outside what a run did to files. -/
def carryOut (events : List Host.Event) (lines : List String) : IO Unit :=
  events.forM fun event => match event with
    | .madeDirectory path => IO.FS.createDirAll path.shown
    | .opened path => do
      let file ← IO.FS.Handle.mk path.shown .append
      lines.forM fun line => file.putStrLn line
    | _ => return ()

end JvmAttach.Program

open JvmAttach in
def main (arguments : List String) : IO UInt32 := do
  let given := arguments.map Text.bytesOf
  let working := Path.ofString (← IO.currentDir).toString
  let host := Program.seen working (← Program.libraryOf given working) (← Program.today)
  let (report, after) := Command.run given (← Program.environment) host
  Program.carryOut after.journal report.lines
  report.lines.forM fun line => IO.eprintln line
  report.complaint.forM fun complaint => IO.eprintln complaint
  IO.print report.output
  return UInt32.ofNat report.exit
