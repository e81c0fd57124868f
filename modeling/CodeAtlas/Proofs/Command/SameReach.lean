import CodeAtlas.Proofs.Command.Output
import CodeAtlas.Proofs.Graph.Queue
import CodeAtlas.Proofs.Query.Refusals

/-!
# The same reach told twice

What a change to a function affects is told by a command and by an answer. Each chooses a function of
its own accord, the command the first one that is meant and the answer the first of all that are, and
the answer adds the files one after the other. `Command.reach_tells_answer` says that the page of
the command can be written from the answer.

1. `Query.reach_eq_inTurn`: the answer, put together step by step.
2. `Query.get?_reach`: what the answer tells of a function that is known.
-/

namespace CodeAtlas

namespace Query

open Answer

/-! ## The answer -/

/-- The answer about the reach of a function, put together one file and one fact after the other. -/
def reachInTurn (g : Graph) (name : String) : Answer :=
  match g.functionIds name with
  | [] => noFunction .reach name
  | id :: others =>
    let affected := g.swept id
    let filed := affected.files.foldl addFile { intent := Operation.reach.name }
    let told := ((filed.withFact "function" (.text id)).withFact "depth" (.nat affected.depth)).withFact
      "affectedCount" (.nat affected.functions.length)
    let all := if others.isEmpty then told else told.withFact "otherMatches" (.texts others)
    { all with functions := affected.functions }

theorem reach_eq_inTurn (g : Graph) (name : String) : reach g name = reachInTurn g name := by
  unfold reach reachInTurn
  cases g.functionIds name with
  | nil => rfl
  | cons id others =>
    have filed : (g.reach id).files.foldl addFile { intent := Operation.reach.name } =
        { intent := Operation.reach.name, files := (g.reach id).files : Answer } := by
      have kept := files_addFiles_of_nodup (a := { intent := Operation.reach.name })
        (g.nodup_files_reach id)
      exact (addFiles_eq _ _).trans (by rw [kept]; rfl)
    dsimp only
    rw [← g.reach_eq_swept, filed]
    cases others <;> rfl

/-- An answer that lists what is affected, before its facts. -/
def affecting (affected : Reach) : Answer :=
  { intent := Operation.reach.name, files := affected.files, functions := affected.functions }

section Known

variable {g : Graph} {name id : String} {others : List String}
  (known : g.functionIds name = id :: others)

include known

theorem reach_of_known : reach g name =
    ((affecting (g.reach id)).withFacts [
      ("function", .text id), ("depth", .nat (g.reach id).depth),
      ("affectedCount", .nat (g.reach id).functions.length)]).withFacts
      (if others.isEmpty then [] else [("otherMatches", .texts others)]) := by
  rw [reach, known]
  rfl

theorem lists_reach : (reach g name).functions = (g.reach id).functions ∧
    (reach g name).files = (g.reach id).files := by
  rw [reach_of_known known, functions_withFacts, functions_withFacts, files_withFacts,
    files_withFacts]
  exact ⟨rfl, rfl⟩

/-- The answer names the function that was chosen and the number of levels. -/
theorem get?_reach : (reach g name).metadata.get? "function" = some (.text id) ∧
    (reach g name).metadata.get? "depth" = some (.nat (g.reach id).depth) := by
  have start : (affecting (g.reach id)).HasFacts := ⟨[], rfl⟩
  have facts := start.withFacts [
    ("function", .text id), ("depth", .nat (g.reach id).depth),
    ("affectedCount", .nat (g.reach id).functions.length)]
  rw [reach_of_known known, facts.get?_withFacts, facts.get?_withFacts, start.get?_withFacts,
    start.get?_withFacts]
  split <;> exact ⟨rfl, rfl⟩

end Known

end Query

/-! ## The page -/

namespace Page

/-- The line that a function is not known. -/
def unknownFunction (paint : Paint) (target : String) : String :=
  "Function \"" ++ paint.shaded .cyan target ++ "\" not found"

/-- The page that tells of a function which others a change to it affects, in which files and in how
many levels. -/
def ofReach (style : PageStyle) (id : String) (functions files : List String) (depth : Nat) :
    List String :=
  let paint := style.paint
  let green (n : Nat) : String := paint.shaded .green (toString n)
  if style.json then
    ofJson (.object [
      ("affectedFunctions", .texts functions), ("affectedFiles", .texts files),
      ("depth", .nat depth)])
  else if functions = [] then ["Nothing depends on \"" ++ paint.shaded .cyan id ++ "\""]
  else
    ["Blast radius of \"" ++ paint.strong .cyan id ++ "\":", ""] ++
    Display.titled paint "Affected functions" functions ++
    Display.titled paint "Affected files" files ++
    ["",
      paint.dimmed "Total" ++ ": " ++ green functions.length ++ " functions, " ++
        green files.length ++ " files, depth " ++ paint.shaded .yellow (toString depth)]

theorem reach_of_functionOf? {g : Graph} {target id : String} (known : functionOf? g target = some id)
    (style : PageStyle) : reach style g target =
      ofReach style id (g.reach id).functions (g.reach id).files (g.reach id).depth := by
  unfold reach ofReach
  rw [known]
  dsimp only [Reach.isEmpty]
  simp only [List.isEmpty_iff]
  rfl

theorem reach_of_unknown {g : Graph} {target : String} (unknown : functionOf? g target = none)
    (style : PageStyle) : reach style g target = [unknownFunction style.paint target] := by
  unfold reach
  rw [unknown]
  rfl

end Page

namespace Command

variable {m : Type → Type} [Monad m] [FileSystem m]

theorem pageOf_reach (style : PageStyle) (now : Instant) (workspace : Workspace) (context : Context)
    (target : String) : (pageOf style now workspace context (.reach target) :
      ExceptT Error m (List String)) = pure (Page.reach style context.graph target) := rfl

/-- **The same reach told twice.** Whatever the graph and the target, the command and the answer to a
plan both say that the function is not known, or they choose the same function and the command prints
the functions, files and depth of the answer before its lists are cut. -/
theorem reach_tells_answer (r : Responder) (now : Instant) (workspace : Workspace)
    (context : Context) (target : String) :
    let page := fun style => (pageOf style now workspace context (.reach target) :
      ExceptT Error m (List String))
    let a := r.answerPlan context.graph ⟨.reach, some target⟩
    a = Query.reachInTurn context.graph target ∧
    ((Page.functionOf? context.graph target = none ∧
        (∀ style, page style = pure [Page.unknownFunction style.paint target]) ∧
        a.error? = some ("function not found: " ++ target)) ∨
      ∃ id depth, Page.functionOf? context.graph target = some id ∧
        (context.graph.functionsMeant target).head? = some id ∧ a.error? = none ∧
        a.metadata.get? "function" = some (.text id) ∧
        a.metadata.get? "depth" = some (.nat depth) ∧
        ∀ style, page style = pure (Page.ofReach style id a.functions a.files depth)) := by
  intro page a
  refine ⟨Query.reach_eq_inTurn context.graph target, ?_⟩
  have refused : a.error? = _ := Query.error?_reach context.graph target
  have chosen := Page.functionOf?_eq context.graph target
  rw [refused, ← Graph.functionIds_eq]
  cases known : context.graph.functionIds target with
  | nil =>
    rw [known] at chosen
    refine Or.inl ⟨chosen, fun style => ?_, if_pos rfl⟩
    exact (pageOf_reach ..).trans (congrArg pure (Page.reach_of_unknown chosen style))
  | cons id others =>
    rw [known] at chosen
    obtain ⟨function, depth⟩ := Query.get?_reach known
    obtain ⟨functions, files⟩ := Query.lists_reach known
    refine Or.inr ⟨id, _, chosen, rfl, if_neg (List.cons_ne_nil _ _), function, depth,
      fun style => ?_⟩
    have told : a.functions = _ ∧ a.files = _ := ⟨functions, files⟩
    rw [told.1, told.2]
    exact (pageOf_reach ..).trans (congrArg pure (Page.reach_of_functionOf? chosen style))

end Command

end CodeAtlas
