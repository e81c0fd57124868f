import CodeAtlas.Graph.Basic

/-!
# Direct look-ups

Functions by name, the neighbours of an id along edges of one kind, and the file that a path
given by a person means. A call edge runs from the called function to its caller, so the callers
are the targets of an id's edges and the called functions the sources.
-/

namespace CodeAtlas.Graph

/-- The functions with a name, in order. -/
def functionsNamed (g : Graph) (name : String) : List Node :=
  (g.nodesOf .function).filter fun node => node.function?.any (·.name == name)

/-- What is known about the function with an id. -/
def function? (g : Graph) (id : String) : Option FunctionInfo :=
  (g.find? id).bind Node.function?

/-- The file that defines a function: the one that the function names, and for an id that is no
function the source of the first edge that defines it. -/
def definingFile (g : Graph) (id : String) : Option String :=
  match g.function? id with
  | some info => some info.file
  | none => (g.sources .defines id).head?

/-- The functions that call a function directly, each once. -/
def callers (g : Graph) (id : String) : List String := (g.targets .calls id).eraseDups

/-- The functions that a function calls directly, each once. -/
def callees (g : Graph) (id : String) : List String := (g.sources .calls id).eraseDups

/-- The functions that a file defines, each once. -/
def functionsIn (g : Graph) (id : String) : List String := (g.targets .defines id).eraseDups

/-- The files that a file imports, each once. -/
def importsOf (g : Graph) (id : String) : List String := (g.targets .imports id).eraseDups

/-- The files that import a file, each once. -/
def importersOf (g : Graph) (id : String) : List String := (g.sources .imports id).eraseDups

/-- The file that a path means: the one with that id, or else the first whose id has the path as
its last parts, or else the first with that name. Every leading `./` of the path is dropped. -/
def resolveFile (g : Graph) (path : String) : Option String :=
  let target := Path.plain path
  if g.hasKind .file target then some target
  else
    let files := g.nodesOf .file
    ((files.find? fun node => Path.endsWith node.id ("/" ++ target)).or
      (files.find? fun node => node.label == target)).map Node.id

theorem mem_targets_iff (g : Graph) (kind : EdgeKind) (x y : String) :
    y ∈ g.targets kind x ↔ ⟨x, y, kind⟩ ∈ g.edges.toList := by
  rw [targets, leavingOf, leaving_eq]
  simp only [List.mem_map, List.mem_filter, beq_iff_eq]
  constructor
  · rintro ⟨⟨_, _, _⟩, ⟨⟨hm, rfl⟩, rfl⟩, rfl⟩
    exact hm
  · intro hm
    exact ⟨_, ⟨⟨hm, rfl⟩, rfl⟩, rfl⟩

theorem mem_sources_iff (g : Graph) (kind : EdgeKind) (x y : String) :
    y ∈ g.sources kind x ↔ ⟨y, x, kind⟩ ∈ g.edges.toList := by
  rw [sources, enteringOf, entering_eq]
  simp only [List.mem_map, List.mem_filter, beq_iff_eq]
  constructor
  · rintro ⟨⟨_, _, _⟩, ⟨⟨hm, rfl⟩, rfl⟩, rfl⟩
    exact hm
  · intro hm
    exact ⟨_, ⟨⟨hm, rfl⟩, rfl⟩, rfl⟩

end CodeAtlas.Graph
