import CodeAtlas.Build.Basic
import CodeAtlas.Finding.Document
import CodeAtlas.Graph.Document
import CodeAtlas.Query.Grammar
import CodeAtlas.Query.Keywords
import CodeAtlas.Query.Preview

/-!
# Answering questions

A question of a known form is answered by its intent, any other by its plan. The lists of an answer
are then cut, and last the explainer sees the answer and may add a preview; a failure of the
explainer leaves the answer as it is.
-/

namespace CodeAtlas

/-- What questions are answered from: a graph, the findings, and the report of the build. -/
structure Context where
  graph : Graph
  findings : Findings
  report : Report := {}

namespace Context

/-- The context of findings. -/
def build (size : Nat) (findings : Findings) : Except Error Context := do
  let built ← findings.build size
  return { graph := built.graph, findings := findings, report := built.report }

end Context

namespace Graph

/-- The functions that a target means: the one with that id, or else all with that name. -/
def functionIds (g : Graph) (target : String) : List String :=
  if g.hasKind .function target then [target] else (g.functionsNamed target).map Node.id

end Graph

/-- How questions are answered. -/
structure Responder where
  /-- How many files and functions an answer lists; at least one. -/
  limit : Nat
  /-- The weights by which files are ranked. -/
  weights : Weights
  /-- Plans the questions without a known form. -/
  plan : String → Plan := Query.plan
  explain : Explainer := Explainer.silent

namespace Query

/-- The answer that a file is not known. -/
def noFile (intent : Intent) (target : String) : Answer :=
  .notFound intent.name ("file not found: " ++ target)

/-- The answer that neither a function nor a file is known. -/
def noTarget (intent : Intent) (target : String) : Answer :=
  .notFound intent.name ("no function or file named " ++ target)

/-- The answer that a function is not known. -/
def noFunction (operation : Operation) (name : String) : Answer :=
  .notFound operation.name ("function not found: " ++ name)

/-! ## By intent -/

/-- What a file imports and defines. -/
def dependencies (g : Graph) (file : String) : Answer :=
  let imports := g.importsOf file
  let functions := g.functionsIn file
  { intent := Intent.dependencies.name, files := imports, functions := functions : Answer }
    |>.withFacts [
      ("file", .text file), ("importCount", .nat imports.length),
      ("functionCount", .nat functions.length)]

/-- The callers of the functions with these ids, each once. -/
def callersOfAll (g : Graph) (ids : List String) : List String :=
  (ids.flatMap g.callers).eraseDups

/-- What calls a function or imports a file. -/
def usage (g : Graph) (target : String) : Answer :=
  let found := g.functionIds target
  let file := g.resolveFile target
  if found.isEmpty && file.isNone then noTarget .usage target
  else
    let callers := callersOfAll g found
    let files := callers.filterMap g.definingFile ++ (file.map g.importersOf).getD []
    { intent := Intent.usage.name, functions := callers : Answer }
      |>.addFiles files
      |>.withFacts (file.map fun f => ("file", Json.text f)).toList
      |>.withFacts [("matches", .texts found), ("callerCount", .nat callers.length)]

/-- The commits that touched a file. -/
def history (fs : Findings) (file : String) : Answer :=
  { intent := Intent.history.name, files := [file] : Answer }
    |>.withFact "file" (.text file)
    |>.withFacts
      (match fs.historyFor file with
      | none => [("available", .bool false)]
      | some commits => [
          ("commitCount", .nat commits.length),
          ("commits", .array (commits.map Commit.document))])

/-- The risks seen in a file. -/
def risks (fs : Findings) (file : String) : Answer :=
  { intent := Intent.risks.name, files := [file] : Answer }
    |>.withFact "file" (.text file)
    |>.withFacts
      (match fs.risksFor file with
      | none => [("available", .bool false)]
      | some risks => [
          ("riskCount", .nat risks.length), ("risks", .array (risks.map Risk.document))])

/-- A summary of a function. -/
def explainFunction (g : Graph) (id : String) : Answer :=
  let file := g.definingFile id
  { intent := Intent.explain.name, files := file.toList, functions := [id] : Answer }
    |>.withFacts [
      ("kind", .text NodeKind.function.name), ("id", .text id), ("file", .text? file),
      ("callers", .texts (g.callers id)), ("callees", .texts (g.callees id))]

/-- A summary of a file. -/
def explainFile (g : Graph) (file : String) : Answer :=
  let defines := g.functionsIn file
  let imports := g.importsOf file
  { intent := Intent.explain.name, functions := defines : Answer }
    |>.addFiles (file :: imports)
    |>.withFacts [
      ("kind", .text NodeKind.file.name), ("id", .text file), ("defines", .texts defines),
      ("imports", .texts imports), ("importers", .texts (g.importersOf file))]

/-- A summary of the first function that a target means, or else of the file. -/
def explain (g : Graph) (target : String) : Answer :=
  match g.functionIds target with
  | id :: _ => explainFunction g id
  | [] =>
    match g.resolveFile target with
    | some file => explainFile g file
    | none => noTarget .explain target

/-- The answer about the file that a target means. -/
def onFile (intent : Intent) (g : Graph) (target : String) (about : String → Answer) : Answer :=
  match g.resolveFile target with
  | some file => about file
  | none => noFile intent target

/-- The answer to a request. -/
def answerRequest (context : Context) (r : Request) : Answer :=
  let g := context.graph
  let answer := match r.intent with
    | .dependencies => onFile .dependencies g r.target (dependencies g)
    | .usage => usage g r.target
    | .history => onFile .history g r.target (history context.findings)
    | .risks => onFile .risks g r.target (risks context.findings)
    | .explain => explain g r.target
  answer.withFact "confidence" (.float r.confidence.value)

/-! ## By plan -/

/-- What a change to the function of a name affects. -/
def reach (g : Graph) (name : String) : Answer :=
  match g.functionIds name with
  | [] => noFunction .reach name
  | id :: others =>
    let affected := g.reach id
    { intent := Operation.reach.name
      files := affected.files
      functions := affected.functions : Answer }
      |>.withFacts [
        ("function", .text id), ("depth", .nat affected.depth),
        ("affectedCount", .nat affected.functions.length)]
      |>.withFacts (if others.isEmpty then [] else [("otherMatches", .texts others)])

/-- Where a function is, as JSON. -/
def location (node : Node) : Option Json :=
  node.function?.map fun info =>
    .object [
      ("id", .text node.id), ("file", .text info.file), ("startLine", .nat info.startLine.toNat)]

/-- The functions of a name. -/
def find (g : Graph) (name : String) : Answer :=
  let nodes := g.functionsNamed name
  if nodes.isEmpty then noFunction .find name
  else
    { intent := Operation.find.name, functions := nodes.map Node.id : Answer }
      |>.addFiles (nodes.filterMap fun node => node.function?.map FunctionInfo.file)
      |>.withFact "locations" (.array (nodes.filterMap location))

/-- The functions with the most calls. -/
def central (limit : Nat) (g : Graph) : Answer :=
  let ranking := g.centralities
  { intent := Operation.central.name, functions := ranking.map Centrality.id : Answer }
    |>.addFiles ((ranking.map Centrality.file).filter (!·.isEmpty))
    |>.withFact "ranking" (.array ((ranking.take limit).map Centrality.document))

/-- The files by importance. -/
def important (limit : Nat) (weights : Weights) (g : Graph) : Answer :=
  let ranking := g.importances weights
  { intent := Operation.important.name : Answer }
    |>.addFiles (ranking.map Importance.id)
    |>.withFact "ranking" (.array ((ranking.take limit).map Importance.document))

/-- What there is, and what can be asked. -/
def general (g : Graph) : Answer :=
  { intent := Operation.unknown.name : Answer }
    |>.withFacts [
      ("stats", g.counts.document),
      ("hint", .text
        ("try: dependencies of <file>, who calls <function>, history of <file>, " ++
          "risks in <file>, explain <file or function>"))]

/-- The answer that a plan lacks the name of a function. -/
def noName (operation : Operation) : Answer :=
  .notFound operation.name "no function name in question"

end Query

namespace Responder

/-- The answer of a plan. -/
def answerPlan (r : Responder) (g : Graph) (plan : Plan) : Answer :=
  match plan.operation, plan.function with
  | .reach, some name => Query.reach g name
  | .find, some name => Query.find g name
  | .reach, none => Query.noName .reach
  | .find, none => Query.noName .find
  | .central, _ => Query.central r.limit g
  | .important, _ => Query.important r.limit r.weights g
  | .unknown, _ => Query.general g

/-- The facts that answer a question, before their lists are cut. -/
def facts (r : Responder) (context : Context) (question : String) : Answer :=
  match Query.parse? question with
  | some request => Query.answerRequest context request
  | none => r.answerPlan context.graph (r.plan question)

/-- The preview of an answer. -/
def preview (r : Responder) (question : String) (a : Answer) : Option String :=
  match r.explain question a with
  | .ok text => text
  | .error _ => none

/-- The answer to a question. -/
def answer (r : Responder) (context : Context) (question : String) : Answer :=
  let a := (r.facts context question).cut r.limit
  { a with preview := r.preview question a }

end Responder

end CodeAtlas
