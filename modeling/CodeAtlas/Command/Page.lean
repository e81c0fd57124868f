import CodeAtlas.Command.Display
import CodeAtlas.Decimal.Fixed
import CodeAtlas.Graph.Chain
import CodeAtlas.Graph.Document
import CodeAtlas.Json.Printer
import CodeAtlas.Query.Respond

/-!
# Pages

What the commands print, as lines: of JSON if it is asked for, and else for a reader. Some answers
that a target is not known are lines for a reader in both cases.
-/

namespace CodeAtlas

/-- How a page is printed. -/
structure PageStyle where
  json : Bool := false
  paint : Paint := {}
deriving DecidableEq, Repr

namespace Page

/-- The lines of a JSON value. -/
def ofJson (value : Json) : List String := [value.pretty]

/-- The line for a label and what it is the label of. -/
def labelled (label text : String) : String := "  " ++ label ++ ": " ++ text

/-- The page about a new workspace. -/
def init (paint : Paint) (configuration findings : String) : List String := [
  paint.strong .green "Initialized" ++ " " ++ configuration,
  labelled (paint.dimmed "Findings directory") findings,
  "  " ++ paint.dimmed
    ("Place structure.json, extraction.json, dependencies.json, history.json and risks.json " ++
      "there.")]

/-- The names of kinds of findings in a row. -/
def kindNames (kinds : List FindingKind) : String := ", ".intercalate (kinds.map FindingKind.name)

/-- The page about a build. -/
def build (style : PageStyle) (report : Report) (counts : Counts) (snapshot : Option String) :
    List String :=
  if style.json then
    ofJson (Json.object [
      ("report", report.document), ("stats", counts.document),
      ("snapshot", .text? snapshot)]).sorted
  else
    let paint := style.paint
    let green (n : Nat) : String := paint.shaded .green (toString n)
    let dropped := 0 < report.callsUnresolved || 0 < report.importsDropped ||
      0 < report.orphanFunctions
    [paint.strong .green "Graph built", "",
      labelled (paint.strong .white "Nodes")
        (green report.files ++ " files, " ++ green report.folders ++ " folders, " ++
          green report.functions ++ " functions"),
      labelled (paint.strong .white "Edges")
        (green report.callsResolved ++ " calls resolved, " ++
          green report.imports ++ " imports")] ++
    (if dropped then
      [labelled (paint.strong .yellow "Dropped")
        (toString report.callsUnresolved ++ " unresolved calls, " ++
          toString report.importsDropped ++ " imports outside the workspace, " ++
          toString report.orphanFunctions ++ " functions in unknown files")]
    else []) ++
    (if report.missing.isEmpty then []
    else [labelled (paint.strong .yellow "Missing findings") (kindNames report.missing)]) ++
    match snapshot with
    | some path => ["", labelled (paint.dimmed "Snapshot") path]
    | none => []

/-- The facts of an answer that are neither lists nor dictionaries. -/
def scalars (a : Answer) : List (String × Json) :=
  match a.metadata with
  | .object members => members.filter fun member =>
    match member.2 with
    | .array _ | .object _ => false
    | _ => true
  | _ => []

/-- The page of an answer. -/
def answer (style : PageStyle) (a : Answer) : List String :=
  if style.json then ofJson a.document
  else
    let paint := style.paint
    let head := (paint.dimmed "Intent:" ++ " " ++ paint.strong .cyan a.intent) :: a.preview.toList
    match a.error? with
    | some reason => head ++ [paint.shaded .yellow reason]
    | none =>
      let facts := (scalars a).map fun fact => labelled (paint.dimmed fact.1) fact.2.compact
      head ++ [""] ++ Display.titled paint "Files" a.files ++
        Display.titled paint "Functions" a.functions ++
        if facts.isEmpty then [] else "" :: facts

/-- The function that a target means: the one with that id, or else the first with that name. -/
def functionOf? (g : Graph) (target : String) : Option String :=
  if g.hasKind .function target then some target
  else (g.functionsNamed target).head?.map Node.id

/-- The page about what a change to a function affects. -/
def reach (style : PageStyle) (g : Graph) (target : String) : List String :=
  let paint := style.paint
  match functionOf? g target with
  | none => ["Function \"" ++ paint.shaded .cyan target ++ "\" not found"]
  | some id =>
    let affected := g.reach id
    if style.json then ofJson affected.document
    else if affected.isEmpty then ["Nothing depends on \"" ++ paint.shaded .cyan id ++ "\""]
    else
      let green (n : Nat) : String := paint.shaded .green (toString n)
      ["Blast radius of \"" ++ paint.strong .cyan id ++ "\":", ""] ++
      Display.titled paint "Affected functions" affected.functions ++
      Display.titled paint "Affected files" affected.files ++
      ["",
        paint.dimmed "Total" ++ ": " ++ green affected.functions.length ++ " functions, " ++
          green affected.files.length ++ " files, depth " ++
          paint.shaded .yellow (toString affected.depth)]

/-- The lines of a ranking: each entry with its place, its name and a remark. -/
def ranking (paint : Paint) (title : String) (entries : List (String × String)) : List String :=
  [paint.strong .cyan title, ""] ++
    (entries.zipIdx 1).map fun ((name, remark), place) =>
      "  " ++ Display.rank place ++ ". " ++ paint.strong .white name ++ " " ++
        paint.dimmed remark

/-- The page of the functions with the most calls. -/
def central (style : PageStyle) (g : Graph) (limit : Nat) : List String :=
  let entries := g.centralities.take limit
  if style.json then ofJson (.array (entries.map Centrality.document))
  else if entries.isEmpty then [style.paint.dimmed "No functions in the graph."]
  else
    ranking style.paint "Most central functions" <| entries.map fun entry =>
      (entry.name, "(" ++ toString entry.inDegree ++ " in, " ++
        toString entry.outDegree ++ " out) " ++ entry.file)

/-- The page of the files by importance. -/
def important (style : PageStyle) (weights : Weights) (g : Graph) (limit : Nat) : List String :=
  let entries := (g.importances weights).take limit
  if style.json then ofJson (.array (entries.map Importance.document))
  else if entries.isEmpty then [style.paint.dimmed "No files in the graph."]
  else
    ranking style.paint "Most important files" <| entries.map fun entry =>
      (entry.id, "(score " ++ Decimal.fixed 1 entry.score ++ ": " ++
        toString entry.functionCount ++ " functions, " ++ toString entry.importerCount ++
        " importers)")

/-- Ids with arrows between them. -/
def arrows (ids : List String) : String := " → ".intercalate ids

/-- The page of the circular imports. -/
def cycles (style : PageStyle) (g : Graph) : List String :=
  let paint := style.paint
  let found := g.cycles
  if style.json then ofJson (.array (found.map Cycle.document))
  else if found.isEmpty then [paint.shaded .green "No circular imports detected."]
  else
    ["Found " ++ paint.strong .red (toString found.length) ++ " circular imports:", ""] ++
      (found.zipIdx 1).flatMap fun (cycle, place) => [
        "  " ++ paint.strong .yellow "Cycle" ++ " " ++ toString place ++ ":",
        "    " ++ paint.dimmed (arrows cycle.nodes)]

/-- The page of the functions of a name. -/
def find (style : PageStyle) (g : Graph) (name : String) : List String :=
  let paint := style.paint
  let found := (g.functionsNamed name).filterMap fun node =>
    node.function?.map fun info => (node.id, info)
  if style.json then
    ofJson (Json.array (found.map fun (id, info) => .object [
      ("id", .text id), ("file", .text info.file),
      ("startLine", .nat info.startLine.toNat)])).sorted
  else if found.isEmpty then ["No function named \"" ++ paint.shaded .cyan name ++ "\""]
  else
    ["Functions named \"" ++ paint.strong .cyan name ++ "\":", ""] ++
      found.flatMap fun (id, info) => [
        "  " ++ Display.bullet paint ++ " " ++ paint.strong .white info.file ++ ":" ++
          toString info.startLine.toNat,
        "      " ++ paint.dimmed id]

/-- The page of the shortest chain of imports from one file to another. -/
def chain (style : PageStyle) (g : Graph) (source target : String) : List String :=
  let paint := style.paint
  match g.resolveFile source, g.resolveFile target with
  | some first, some last =>
    let way := g.chain first last
    if style.json then ofJson ((way.map Json.texts).getD .null)
    else
      match way with
      | some ids => [
          "Import chain (" ++ paint.shaded .green (toString (ids.length - 1)) ++ " hops):",
          "    " ++ arrows ids]
      | none => [paint.shaded .cyan first ++ " does not depend on " ++ paint.shaded .cyan last]
  | _, _ => [paint.shaded .yellow "Both files must exist in the graph."]

/-- The page of what there is. -/
def stats (style : PageStyle) (findings builtAt : String) (report : Report) (counts : Counts) :
    List String :=
  let paint := style.paint
  if style.json then
    ofJson (Json.object [
      ("stats", counts.document), ("missing", .texts (report.missing.map FindingKind.name)),
      ("builtAt", .text builtAt)]).sorted
  else
    let total (title : String) (n : Nat) : String :=
      labelled (paint.strong .white title) (paint.shaded .green (toString n) ++ " total")
    let part (title : String) (n : Nat) : String :=
      "  " ++ labelled (paint.dimmed title) (toString n)
    [paint.strong .cyan "Cartograph Graph Statistics", "",
      labelled (paint.strong .white "Findings") findings, "",
      total "Nodes" counts.nodes, part "Files" counts.files, part "Folders" counts.folders,
      part "Functions" counts.functions, "",
      total "Edges" counts.edges, part "Imports" counts.imports, part "Defines" counts.defines,
      part "Calls" counts.calls] ++
    if report.missing.isEmpty then []
    else ["",
      labelled (paint.strong .yellow "Warning")
        (paint.dimmed ("no " ++ kindNames report.missing ++ " findings; those layers are empty"))]

end Page

end CodeAtlas
