import CodeAtlas.Command.Arguments
import CodeAtlas.Command.Page
import CodeAtlas.Workspace

/-!
# Running commands

A command opens its workspace, does what it is for, and prints a page. If it fails it prints nothing
but the reason, and a command line that asks for no command runs none.
-/

namespace CodeAtlas

/-- What a run leaves behind. -/
structure Outcome where
  /-- Zero if all went well, one if the command failed, two if there was none. -/
  exit : UInt8 := 0
  output : String := ""
  errors : String := ""
deriving DecidableEq, Repr

/-- What a run is given besides its arguments. -/
structure Surroundings where
  /-- The workspace unless one is given. -/
  workspace : String
  /-- The time of the run. -/
  now : Instant
  paint : Paint := {}
deriving DecidableEq, Repr

namespace Command

variable {m : Type → Type} [Monad m] [FileSystem m]

/-- Opens a workspace, perhaps with another directory of findings. -/
def openIn (root : String) (findings : Option String) : ExceptT Error m Workspace := do
  let workspace ← Workspace.load root
  return match findings with
    | some directory => workspace.withFindings directory
    | none => workspace

/-- The snapshot of a build, if it leaves one. -/
def snapshotOf (workspace : Workspace) (now : Instant) (context : Context) (wanted : Bool) :
    ExceptT Error m (Option String) := do
  if wanted && workspace.config.snapshotEnabled then
    return some (← workspace.writeSnapshot now context)
  else return none

/-- What answers the questions of the command line: the answers carry a summary. -/
def responder (config : Config) : Responder :=
  { config.responder with explain := Explainer.summary }

/-- The page of an analysis. -/
def pageOf (style : PageStyle) (now : Instant) (workspace : Workspace) (context : Context) :
    Analysis → ExceptT Error m (List String)
  | .build withSnapshot => do
    let snapshot ← snapshotOf workspace now context withSnapshot
    return Page.build style context.report context.graph.counts snapshot
  | .query question =>
    return Page.answer style ((responder workspace.config).answer context question)
  | .reach target => return Page.reach style context.graph target
  | .central limit => return Page.central style context.graph limit
  | .important limit => return Page.important style workspace.config.weights context.graph limit
  | .cycles => return Page.cycles style context.graph
  | .find name => return Page.find style context.graph name
  | .chain source target => return Page.chain style context.graph source target
  | .stats =>
    return Page.stats style workspace.findings now.timestamp context.report context.graph.counts

/-- Runs a command and gives its page. -/
def run (around : Surroundings) (asked : Invocation) : ExceptT Error m (List String) := do
  let root := asked.workspace.getD around.workspace
  match asked.command with
  | .init =>
    let configuration ← Workspace.init root
    let workspace ← openIn root asked.findings
    return Page.init around.paint configuration workspace.findings
  | .analysis wanted =>
    let workspace ← openIn root asked.findings
    let context ← workspace.analyze
    pageOf ⟨asked.json, around.paint⟩ around.now workspace context wanted

end Command

/-! ## Outcomes -/

/-- Lines as one text. -/
def unlines (lines : List String) : String := String.join (lines.map (· ++ "\n"))

namespace Outcome

/-- The name of the program. -/
def program : String := "cartograph"

/-- The version of the program. -/
def version : String := "0.1.0"

/-- How the program is used. -/
def usage : String := unlines [
  "Usage: cartograph [OPTIONS] <COMMAND>",
  "",
  "Commands: " ++ ", ".intercalate (CommandName.all.map CommandName.word ++ ["help"]),
  "",
  "Options:",
  "  -w, --workspace <PATH>  Workspace root directory (defaults to current directory)",
  "  -f, --findings <PATH>   Findings directory (defaults to the configured one)",
  "      --json              Print machine-readable JSON instead of formatted text",
  "  -v, --verbose           Verbose output (can be repeated)",
  "  -h, --help              Print help",
  "  -V, --version           Print version"]

/-- The outcome of a command line that runs no command. -/
def ofNotice : Notice → Outcome
  | .help _ => { output := usage }
  | .version command =>
    let name := match command with
      | none => program
      | some command => program ++ "-" ++ command.word
    { output := unlines [name ++ " " ++ version] }
  | .misuse => { exit := 2, errors := usage }

/-- The lines that say why a command failed. -/
def errorLines (paint : Paint) (e : Error) : List String :=
  (paint.strong .red "error" ++ ": " ++ e.message) ::
    e.causes.map fun cause => "  " ++ paint.dimmed "caused by" ++ ": " ++ cause

/-- The outcome of a command. -/
def ofResult (paint : Paint) : Except Error (List String) → Outcome
  | .ok page => { output := unlines page }
  | .error e => { exit := 1, errors := unlines (errorLines paint e) }

/-- The outcome of a command line. -/
def ofArguments {m : Type → Type} [Monad m] [FileSystem m] (around : Surroundings)
    (arguments : List String) : m Outcome :=
  match Invocation.parse arguments with
  | .error notice => return ofNotice notice
  | .ok asked => do return ofResult around.paint (← (Command.run around asked).run)

end Outcome

end CodeAtlas
