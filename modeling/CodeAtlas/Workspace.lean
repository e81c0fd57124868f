import CodeAtlas.Collect
import CodeAtlas.Config.Reader
import CodeAtlas.FileSystem.Basic
import CodeAtlas.Finding.Record
import CodeAtlas.Instant
import CodeAtlas.Json.Printer
import CodeAtlas.Session
import CodeAtlas.Yaml.Printer

/-!
# Workspaces

A workspace is a directory with a configuration of its own, which may be missing, and a directory of
findings, one file for each kind. Nothing but the configuration and snapshots is ever written.
-/

namespace CodeAtlas

/-- A workspace that is open. -/
structure Workspace where
  /-- The path of its directory. -/
  root : String
  config : Config
  /-- The directory that findings are read from. -/
  findings : String

namespace Workspace

variable {m : Type → Type} [Monad m] [FileSystem m]

/-- An operation of the file system, which fails if it is refused. -/
def granted {α : Type} (operation : m (Except Refusal α)) : ExceptT Error m α :=
  ExceptT.mk do return (← operation).mapError fun refusal => .io refusal.message

/-! ## Opening -/

/-- A workspace with a given configuration. -/
def ofConfig (root : String) (config : Config) : Workspace :=
  ⟨root, config, config.findingsPath root⟩

/-- A workspace with another directory of findings. -/
def withFindings (w : Workspace) (directory : String) : Workspace :=
  { w with findings := directory }

/-- The configuration of a workspace. Without a file every choice keeps its default. -/
def loadConfig (root : String) : ExceptT Error m Config :=
  ExceptT.mk do
    match ← FileSystem.read (Config.pathIn root) with
    | .ok text => return Config.parse text
    | .error .notFound => return .ok {}
    | .error refusal => return .error (.io refusal.message)

/-- Opens a workspace. -/
def load (root : String) : ExceptT Error m Workspace := ofConfig root <$> loadConfig root

/-- Writes the default configuration of a workspace unless there is one, makes the directory of
findings, and gives the path of the configuration. -/
def init (root : String) : ExceptT Error m String := do
  granted (FileSystem.ensureDirectories (Path.join root Config.directoryName))
  granted (FileSystem.ensureDirectories (({} : Config).findingsPath root))
  let path := Config.pathIn root
  if (← ExceptT.lift (FileSystem.kind? path)).isNone then
    granted (FileSystem.write path (Yaml.print ({} : Config).document))
  return path

/-! ## Findings -/

/-- The file of each kind of finding. -/
def sources (w : Workspace) : List (FindingKind × String) :=
  FindingKind.all.map fun kind => (kind, Path.join w.findings (kind.name ++ ".json"))

/-- What the file of a finding hands over once it was read. -/
def handedOver (kind : FindingKind) (path : String) :
    Except Refusal String → Except Failure Finding
  | .error refusal => .error ⟨kind, .io refusal.message⟩
  | .ok text =>
    (Finding.parse kind text).mapError fun problem =>
      ⟨kind, .malformed (path ++ ": " ++ problem.message)⟩

/-- The milliseconds that a collaborator may take. -/
def deadline (w : Workspace) : Nat := 1000 * w.config.timeoutSecs.toNat

/-- The file of a finding as a collaborator. -/
def collaborator (deadline : Nat) (source : FindingKind × String) : m Collaborator := do
  match ← FileSystem.readWithin deadline source.2 with
  | some content => return ⟨source.1, .sends 0 (handedOver source.1 source.2 content)⟩
  | none => return ⟨source.1, .hangs⟩

/-- Collects the findings of a workspace. -/
def collect (w : Workspace) : m Collection := do
  return Collection.run w.deadline (← w.sources.mapM (collaborator w.deadline))

/-! ## Analysis -/

/-- The context of the findings of a workspace. -/
def analyze (w : Workspace) : ExceptT Error m Context :=
  ExceptT.mk do return w.config.contextOf (← w.collect).findings

/-- A session that starts from the findings of a workspace. -/
def session (w : Workspace) : ExceptT Error m Session :=
  return ⟨← w.analyze, w.config.responder⟩

/-- The file name of a snapshot. -/
def snapshotName (now : Instant) : String := "graph-" ++ now.stamp ++ ".json"

/-- Writes a snapshot of a context and gives its path. -/
def writeSnapshot (w : Workspace) (now : Instant) (context : Context) : ExceptT Error m String := do
  let directory := w.config.snapshotPath w.root
  granted (FileSystem.ensureDirectories directory)
  let path := Path.join directory (snapshotName now)
  granted (FileSystem.publish path context.graph.document.compact)
  return path

end Workspace

end CodeAtlas
