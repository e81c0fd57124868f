import CodeAtlas.Build.Batch
import CodeAtlas.Build.Calls
import CodeAtlas.Error
import CodeAtlas.Finding.Store
import CodeAtlas.Json.Basic

/-!
# Building a graph from findings

A build goes through the findings in four layers: folders and files become nodes; functions become
nodes, each with an edge from the file that defines it if there is such a file; calls that mean a
function become edges; imports between files become edges. Only the first layer is required. What
an edge would lack an end for is counted and left out.
-/

namespace CodeAtlas

/-- What a build did. -/
structure Report where
  /-- The files reported. -/
  files : Nat := 0
  /-- The folders reported. -/
  folders : Nat := 0
  /-- The functions reported. -/
  functions : Nat := 0
  /-- The functions whose file is not known. -/
  orphanFunctions : Nat := 0
  callsResolved : Nat := 0
  callsUnresolved : Nat := 0
  imports : Nat := 0
  /-- The imports one of whose ends is not a known file. -/
  importsDropped : Nat := 0
  /-- The kinds of findings that there were none of. -/
  missing : List FindingKind := []
deriving DecidableEq, Repr

/-- A graph and the report of how it was built. -/
structure Build where
  graph : Graph
  report : Report

/-- A reported function as a node. -/
def FunctionRecord.node (f : FunctionRecord) : Node :=
  .function f.id ⟨f.name, f.file, f.startLine, f.calls⟩

namespace Build

/-- The layer of folders and files. -/
def ofInventory (missing : List FindingKind) (inventory : Inventory) : Build where
  graph :=
    (Graph.empty.addNodes (inventory.folders.map Node.folder)).addNodes
      (inventory.files.map Node.file)
  report := {
    files := inventory.files.length
    folders := inventory.folders.length
    missing := missing }

/-- Adds a function and the edge from the file that defines it. -/
def addFunction (b : Build) (f : FunctionRecord) : Build :=
  let graph := b.graph.addNode (f.node)
  let functions := b.report.functions + 1
  if graph.hasKind .file f.file then
    { graph := graph.addEdge ⟨f.file, f.id, .defines⟩
      report := { b.report with functions } }
  else
    { graph
      report := { b.report with functions, orphanFunctions := b.report.orphanFunctions + 1 } }

/-- The layer of functions. -/
def addFunctions (size : Nat) (b : Build) (functions : List FunctionRecord) : Build :=
  (batches size functions).foldl (fun b batch => batch.foldl addFunction b) b

/-- The calls by a function node in order, each as its edge if its name means a function. -/
def callsBy (index : CallIndex) (node : Node) : List (Option Edge) :=
  ((node.function?.map FunctionInfo.calls).getD []).map fun name =>
    (index.resolve name).map fun callee => ⟨callee, node.id, .calls⟩

/-- The calls between the functions of a graph in order. -/
def callsIn (size : Nat) (g : Graph) : List (Option Edge) :=
  let functions := g.nodesOf .function
  let index := CallIndex.ofNodes functions
  (batches size functions).flatMap fun batch => batch.flatMap (callsBy index)

/-- The layer of calls. -/
def addCalls (size : Nat) (b : Build) : Build :=
  let calls := callsIn size b.graph
  { graph := b.graph.addEdges (calls.filterMap id)
    report := { b.report with
      callsResolved := calls.countP Option.isSome
      callsUnresolved := calls.countP Option.isNone } }

/-- Adds an import between two files. -/
def addImport (b : Build) (pair : ImportPair) : Build :=
  if b.graph.hasKind .file pair.source && b.graph.hasKind .file pair.target then
    { graph := b.graph.addEdge ⟨pair.source, pair.target, .imports⟩
      report := { b.report with imports := b.report.imports + 1 } }
  else { b with report := { b.report with importsDropped := b.report.importsDropped + 1 } }

/-- The layers of functions and calls, if functions were extracted. -/
def addExtraction (size : Nat) (b : Build) : Option (List FunctionRecord) → Build
  | none => b
  | some functions => (b.addFunctions size functions).addCalls size

/-- The layer of imports, if imports were found. -/
def addImports (b : Build) : Option (List ImportPair) → Build
  | none => b
  | some pairs => pairs.foldl addImport b

end Build

/-- Builds a graph from findings, working off so many functions at a time. -/
def Findings.build (size : Nat) (fs : Findings) : Except Error Build :=
  match fs.structural with
  | none => .error (.noWorkspace .structural)
  | some inventory =>
    .ok <|
      (Build.ofInventory fs.missing inventory.data
        |>.addExtraction size (fs.extraction.map Envelope.data)
        |>.addImports (fs.dependencies.map Envelope.data))

/-- A report as JSON. -/
def Report.document (r : Report) : Json :=
  .object [
    ("files", .nat r.files), ("folders", .nat r.folders), ("functions", .nat r.functions),
    ("orphanFunctions", .nat r.orphanFunctions), ("callsResolved", .nat r.callsResolved),
    ("callsUnresolved", .nat r.callsUnresolved), ("imports", .nat r.imports),
    ("importsDropped", .nat r.importsDropped),
    ("missing", .texts (r.missing.map FindingKind.name))]

end CodeAtlas
