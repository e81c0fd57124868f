import CodeAtlas.Graph.Counts
import CodeAtlas.Graph.Cycle
import CodeAtlas.Graph.Ranking
import CodeAtlas.Graph.Reach
import CodeAtlas.Json.Basic

/-!
# Graphs as JSON

A snapshot lists the nodes, each with what is known about it beside its id, label and type, and the
edges as links. Links keep the direction of their edges.
-/

namespace CodeAtlas

/-- What is known about a node, as the members of an object. -/
def NodeData.members : NodeData → List (String × Json)
  | .file place | .folder place => [("path", .text place.path), ("name", .text place.name)]
  | .function info => [
      ("name", .text info.name), ("file", .text info.file),
      ("startLine", .nat info.startLine.toNat), ("calls", .texts info.calls)]

/-- A node of a snapshot. -/
def Node.document (node : Node) : Json :=
  .object ([
    ("id", .text node.id), ("label", .text node.label), ("type", .text node.kind.name)] ++
    node.data.members)

/-- A link of a snapshot. -/
def Edge.document (edge : Edge) : Json :=
  .object [
    ("source", .text edge.source), ("target", .text edge.target), ("type", .text edge.kind.name)]

/-- The snapshot of a graph. -/
def Graph.document (g : Graph) : Json :=
  .object [
    ("nodes", .array (g.nodes.toList.map Node.document)),
    ("links", .array (g.edges.toList.map Edge.document))]

/-- Counts as JSON. -/
def Counts.document (c : Counts) : Json :=
  .object [
    ("files", .nat c.files), ("folders", .nat c.folders), ("functions", .nat c.functions),
    ("imports", .nat c.imports), ("defines", .nat c.defines), ("calls", .nat c.calls)]

/-- The reach of a change as JSON. -/
def Reach.document (r : Reach) : Json :=
  .object [
    ("affectedFunctions", .texts r.functions), ("affectedFiles", .texts r.files),
    ("depth", .nat r.depth)]

/-- The call edges at a function as JSON. -/
def Centrality.document (c : Centrality) : Json :=
  .object [
    ("id", .text c.id), ("name", .text c.name), ("file", .text c.file),
    ("inDegree", .nat c.inDegree), ("outDegree", .nat c.outDegree), ("centrality", .nat c.score)]

/-- The importance of a file as JSON. -/
def Importance.document (i : Importance) : Json :=
  .object [
    ("id", .text i.id), ("functionCount", .nat i.functionCount),
    ("importerCount", .nat i.importerCount), ("importance", .float i.score)]

/-- A cycle as JSON. -/
def Cycle.document (c : Cycle) : Json := .object [("nodes", .texts c.nodes)]

end CodeAtlas
