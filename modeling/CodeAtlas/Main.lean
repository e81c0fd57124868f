import CodeAtlas.Command.Run
import Std.Time.DateTime.Timestamp

/-!
# The program

The disk of the machine as a file system, and the command line of the program.
-/

namespace CodeAtlas

/-- The text of an error of the machine. -/
def machineText : IO.Error → String
  | .otherError code details | .resourceBusy code details | .resourceVanished code details
  | .unsupportedOperation code details | .hardwareFault code details
  | .unsatisfiedConstraints code details | .illegalOperation code details
  | .protocolError code details | .timeExpired code details | .interrupted _ code details
  | .noFileOrDirectory _ code details | .alreadyExists _ code details
  | .invalidArgument _ code details | .permissionDenied _ code details
  | .resourceExhausted _ code details | .inappropriateType _ code details
  | .noSuchThing _ code details => details ++ " (os error " ++ toString code ++ ")"
  | .unexpectedEof => "unexpected end of file"
  | .userError reason => reason

/-- The refusal behind an error of the machine. -/
def Refusal.ofMachine : IO.Error → Refusal
  | .noFileOrDirectory .. => .notFound
  | .alreadyExists .. => .alreadyExists
  | .inappropriateType _ 20 _ => .notDirectory
  | .inappropriateType _ 21 _ => .isDirectory
  | .invalidArgument _ 36 _ => .nameTooLong
  | e => .other (machineText e)

namespace Machine

/-- Whether the machine carries out an operation on a path, or why not. -/
def attempt {α : Type} (path : String) (operation : IO α) : IO (Except Refusal α) := do
  if path.toList.contains '\x00' then return .error .zeroInName
  return (← operation.toBaseIO).mapError Refusal.ofMachine

/-- The text of a file. -/
def read (path : String) : IO (Except Refusal String) := do
  match ← attempt path (IO.FS.readBinFile path) with
  | .error refusal => return .error refusal
  | .ok content =>
    match String.fromUTF8? content with
    | some text => return .ok text
    | none => return .error .notText

/-- The result of a task if it ends within so many milliseconds. -/
def within {α : Type} (milliseconds : Nat) (task : Task (Except IO.Error α)) : IO (Option α) := do
  for _ in [0:milliseconds] do
    if ← IO.hasFinished task then break
    IO.sleep 1
  if ← IO.hasFinished task then return some (← IO.ofExcept task.get) else return none

/-- What a path leads to. -/
def kind? (path : String) : IO (Option EntryKind) := do
  let whole := (← IO.currentDir) / path
  if ← whole.isDir then return some .directory
  else if ← whole.pathExists then return some .file
  else return none

/-- Writes a file beside the one that is meant and then puts it in its place. -/
def publish (path text : String) : IO (Except Refusal Unit) := do
  let draft := path ++ ".tmp"
  match ← attempt draft (IO.FS.writeFile draft text) with
  | .ok () => attempt path (IO.FS.rename draft path)
  | .error refusal =>
    let _ ← attempt draft (IO.FS.removeFile draft)
    return .error refusal

/-- The time. -/
def now : IO Instant :=
  return ⟨(← Std.Time.Timestamp.now).toNanosecondsSinceUnixEpoch.val.toNat⟩

/-- How the program is run. -/
def surroundings : IO Surroundings := do
  let paint := Paint.ofEnvironment (← IO.getEnv "CLICOLOR_FORCE") (← IO.getEnv "NO_COLOR")
    (← IO.getEnv "CLICOLOR") (← (← IO.getStdout).isTty)
  return { workspace := (← IO.currentDir).toString, now := ← now, paint := paint }

end Machine

instance : FileSystem IO where
  read := Machine.read
  readWithin milliseconds path := do
    Machine.within milliseconds (← IO.asTask (Machine.read path) .dedicated)
  kind? := Machine.kind?
  makeDirectory path := Machine.attempt path (IO.FS.createDir path)
  write path text := Machine.attempt path (IO.FS.writeFile path text)
  publish := Machine.publish

end CodeAtlas

/-- Runs a command line. -/
def main (arguments : List String) : IO UInt32 := do
  let outcome ← CodeAtlas.Outcome.ofArguments (← CodeAtlas.Machine.surroundings) arguments
  (← IO.getStdout).putStr outcome.output
  (← IO.getStderr).putStr outcome.errors
  return outcome.exit.toUInt32
