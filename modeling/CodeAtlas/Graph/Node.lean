import CodeAtlas.Path

/-!
# Nodes and edges

A code base is seen as files, folders and functions, joined by three kinds of edges.
-/

namespace CodeAtlas

/-- What a node stands for. -/
inductive NodeKind where
  | file
  | folder
  | function
deriving DecidableEq, Repr

namespace NodeKind

/-- All kinds. -/
def all : List NodeKind := [file, folder, function]

/-- The name of a kind. -/
def name : NodeKind → String
  | file => "file"
  | folder => "folder"
  | function => "function"

end NodeKind

/-- What an edge says about its two ends. -/
inductive EdgeKind where
  /-- The source imports the target. -/
  | imports
  /-- The source defines the target. -/
  | defines
  /-- The source is called by the target: the edge points the way a change spreads. -/
  | calls
deriving DecidableEq, Repr

namespace EdgeKind

/-- All kinds. -/
def all : List EdgeKind := [imports, defines, calls]

/-- The name of a kind. -/
def name : EdgeKind → String
  | imports => "IMPORTS"
  | defines => "DEFINES"
  | calls => "CALLS"

end EdgeKind

/-- Where a file or folder lies and what it is called. -/
structure Place where
  path : String
  name : String
deriving DecidableEq, Repr

/-- A function: its name, the file that defines it, its first line, and the names it calls. -/
structure FunctionInfo where
  name : String
  file : String
  startLine : UInt32
  calls : List String
deriving DecidableEq, Repr

/-- What is known about a node, by kind. -/
inductive NodeData where
  | file (place : Place)
  | folder (place : Place)
  | function (info : FunctionInfo)
deriving DecidableEq, Repr

/-- The kind of a node with this data. -/
def NodeData.kind : NodeData → NodeKind
  | .file _ => .file
  | .folder _ => .folder
  | .function _ => .function

/-- A node. -/
structure Node where
  id : String
  data : NodeData
deriving DecidableEq, Repr

namespace Node

/-- The file at a path. -/
def file (path : String) : Node := ⟨path, .file ⟨path, Path.lastPart path⟩⟩

/-- The folder at a path. -/
def folder (path : String) : Node := ⟨path, .folder ⟨path, Path.lastPart path⟩⟩

/-- A function. -/
def function (id : String) (info : FunctionInfo) : Node := ⟨id, .function info⟩

/-- The kind of a node. -/
def kind (node : Node) : NodeKind := node.data.kind

/-- What a node is called. -/
def label (node : Node) : String :=
  match node.data with
  | .file place => place.name
  | .folder place => place.name
  | .function info => info.name

/-- What is known about a function. -/
def function? (node : Node) : Option FunctionInfo :=
  match node.data with
  | .function info => some info
  | _ => none

@[simp] theorem kind_file (path : String) : (file path).kind = .file := rfl

@[simp] theorem kind_folder (path : String) : (folder path).kind = .folder := rfl

@[simp] theorem kind_function (id : String) (info : FunctionInfo) :
    (function id info).kind = .function := rfl

theorem kind_eq_function_iff (node : Node) :
    node.kind = .function ↔ ∃ info, node.function? = some info := by
  obtain ⟨id, data⟩ := node
  cases data <;> simp [kind, NodeData.kind, function?]

end Node

/-- An edge between two ids, which need not be ids of nodes. -/
structure Edge where
  source : String
  target : String
  kind : EdgeKind
deriving DecidableEq, Repr

end CodeAtlas
