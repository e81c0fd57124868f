import CodeAtlas.Decimal.Binary64
import CodeAtlas.Graph.Neighbours

/-!
# Rankings

Functions are ranked by the number of call edges at them and files by what they define and how many
files import them. The higher score comes first, and of equal scores the lower id.
-/

namespace CodeAtlas

/-- The call edges at a function. -/
structure Centrality where
  id : String
  name : String
  file : String
  /-- The call edges that enter the function: what it calls. -/
  inDegree : Nat
  /-- The call edges that leave the function: what calls it. -/
  outDegree : Nat
deriving DecidableEq, Repr

namespace Centrality

/-- The number of call edges at the function; one to itself counts twice. -/
def score (c : Centrality) : Nat := c.inDegree + c.outDegree

/-- Whether `a` is listed at or before `b`. -/
def before (a b : Centrality) : Bool := b.score < a.score || (a.score == b.score && a.id ≤ b.id)

end Centrality

/-- What a function that a file defines and a file that imports it add to the score of the file. -/
structure Weights where
  define : Float := 1.0
  importer : Float := 2.0
deriving DecidableEq

/-- The defined functions and the importers of a file. -/
structure Importance where
  id : String
  functionCount : Nat
  importerCount : Nat
  score : Float
deriving DecidableEq

namespace Importance

/-- Whether `a` is listed at or before `b`. -/
def before (a b : Importance) : Bool :=
  let ra := Decimal.totalRank a.score
  let rb := Decimal.totalRank b.score
  decide (rb < ra) || (ra == rb && a.id ≤ b.id)

end Importance

namespace Graph

/-- The call edges at a function node. -/
def centralityOf (g : Graph) (node : Node) : Centrality :=
  { id := node.id
    name := node.label
    file := (node.function?.map FunctionInfo.file).getD ""
    inDegree := (g.sources .calls node.id).length
    outDegree := (g.targets .calls node.id).length }

/-- The functions by the number of call edges at them. -/
def centralities (g : Graph) : List Centrality :=
  ((g.nodesOf .function).map g.centralityOf).mergeSort Centrality.before

/-- The score of a file with so many functions and importers. -/
def importanceScore (weights : Weights) (functions importers : Nat) : Float :=
  weights.define * functions.toFloat + weights.importer * importers.toFloat

/-- The defined functions and the importers of a file node. -/
def importanceOf (g : Graph) (weights : Weights) (node : Node) : Importance :=
  let functions := (g.targets .defines node.id).length
  let importers := (g.importersOf node.id).length
  { id := node.id
    functionCount := functions
    importerCount := importers
    score := importanceScore weights functions importers }

/-- The files by what they define and how many files import them. -/
def importances (g : Graph) (weights : Weights) : List Importance :=
  ((g.nodesOf .file).map (g.importanceOf weights)).mergeSort Importance.before

end Graph

end CodeAtlas
