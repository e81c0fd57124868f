import CodeAtlas.Command.Run
import CodeAtlas.Proofs.Collect.Degradation
import CodeAtlas.Proofs.Json.Grammar

/-!
# Output for programs

What an analysis prints where JSON is asked for. It is one JSON document, but for two commands: what
a change affects and what chains of imports there are is told of known functions and files only, and
where they are not known a line says so that is no JSON.

1. `isDocument_page_iff`: when the page of an analysis is a document.
2. `page_of_run`: a command that succeeds prints the page of its analysis.
3. `isDocument_output_iff`: when the output of a command line is a document.
-/

namespace CodeAtlas

/-- Whether what an analysis is about is known: the function that a change is made to, or the two
files at the ends of a chain. -/
def Analysis.Known (g : Graph) : Analysis → Prop
  | .reach target => g.functionIds target ≠ []
  | .chain source target => ∃ first last, g.resolveFile source = some first ∧
      g.resolveFile target = some last
  | _ => True

/-! ## Lines -/

theorem isDocument_ofJson (v : Json) : Json.IsDocument (unlines (Page.ofJson v)) := by
  have line : unlines (Page.ofJson v) = v.pretty ++ "\n" := by simp [unlines, Page.ofJson]
  rw [line]
  exact Json.isDocument_pretty v

theorem Page.functionOf?_eq (g : Graph) (target : String) :
    functionOf? g target = (g.functionIds target).head? := by
  unfold functionOf? Graph.functionIds
  split
  · rfl
  · rw [List.head?_map]

/-- A line that begins with one of these letters, or with the codes of a painted one, is no
document. -/
theorem not_isDocument_line {line : String} {c : Char} {rest : List Char}
    (first : line.toList = c :: rest) (other : c = 'F' ∨ c = 'B' ∨ c = '\x1b') :
    ¬ Json.IsDocument (unlines [line]) := by
  have all : (unlines [line]).toList = c :: (rest ++ ['\n']) := by simp [unlines, first]
  have visible : ¬ Json.Grammar.Gap [c] ∧ ¬ Json.BeginsValue c := by
    unfold Json.Grammar.Gap Json.BeginsValue
    obtain rfl | rfl | rfl := other <;> simp [Char.isDigit]
  exact Json.not_isDocument_of_head all visible.1 visible.2

theorem Look.opening_eq_cons (look : Look) : ∃ rest, look.opening = '\x1b' :: rest := by
  rw [opening, String.toList_append, String.toList_append]
  exact ⟨_, rfl⟩

/-- A painted text begins as it does unpainted, or with the codes of its look. -/
theorem Paint.shaded_eq_cons (paint : Paint) (shade : Shade) {text : String} {c : Char}
    {rest : List Char} (first : text.toList = c :: rest) :
    ∃ d ds, (paint.shaded shade text).toList = d :: ds ∧ (d = c ∨ d = '\x1b') := by
  unfold shaded apply
  split
  · obtain ⟨codes, opening⟩ := Look.opening_eq_cons { shade := some shade }
    rw [String.toList_ofList, opening]
    exact ⟨'\x1b', codes ++ Look.reopen ('\x1b' :: codes) text.toList ++ Look.closing, rfl,
      .inr rfl⟩
  · exact ⟨c, rest, first, .inl rfl⟩

namespace Command

/-! ## Pages -/

theorem isDocument_reach_iff (paint : Paint) (g : Graph) (target : String) :
    Json.IsDocument (unlines (Page.reach ⟨true, paint⟩ g target)) ↔ g.functionIds target ≠ [] := by
  unfold Page.reach
  rw [Page.functionOf?_eq]
  cases g.functionIds target with
  | nil =>
    have line : ("Function \"" ++ paint.shaded .cyan target ++ "\" not found").toList =
        'F' :: ("unction \"" ++ paint.shaded .cyan target ++ "\" not found").toList := by simp
    exact iff_of_false (not_isDocument_line line (.inl rfl)) (by simp)
  | cons id ids => exact iff_of_true (isDocument_ofJson _) (by simp)

theorem isDocument_chain_iff (paint : Paint) (g : Graph) (source target : String) :
    Json.IsDocument (unlines (Page.chain ⟨true, paint⟩ g source target)) ↔
      ∃ first last, g.resolveFile source = some first ∧ g.resolveFile target = some last := by
  have unknown : ¬ Json.IsDocument
      (unlines [paint.shaded .yellow "Both files must exist in the graph."]) := by
    have text : "Both files must exist in the graph.".toList =
        'B' :: "oth files must exist in the graph.".toList := rfl
    obtain ⟨d, ds, line, first⟩ := paint.shaded_eq_cons .yellow text
    exact not_isDocument_line line (.inr first)
  unfold Page.chain
  cases g.resolveFile source with
  | none => exact iff_of_false unknown (by simp)
  | some first =>
    cases g.resolveFile target with
    | none => exact iff_of_false unknown (by simp)
    | some last => exact iff_of_true (isDocument_ofJson _) (by simp)

section Run

variable {σ : Type} {s s' : σ}

theorem run_bind_ok {α β : Type} {x : ExceptT Error (StateM σ) α}
    {f : α → ExceptT Error (StateM σ) β} {b : β} (h : (x >>= f).run.run s = (.ok b, s')) :
    ∃ a s₁, x.run.run s = (.ok a, s₁) ∧ (f a).run.run s₁ = (.ok b, s') := by
  rw [ExceptT.run_bind, StateT.run_bind] at h
  obtain ⟨result, s₁, ran⟩ : ∃ result s₁, x.run.run s = (result, s₁) := ⟨_, _, rfl⟩
  rw [ran] at h
  cases result with
  | ok a => exact ⟨a, s₁, ran, h⟩
  | error e => cases h

theorem run_bind_of_ok {α β : Type} {x : ExceptT Error (StateM σ) α} {a : α} {s₁ : σ}
    (h : x.run.run s = (.ok a, s₁)) (f : α → ExceptT Error (StateM σ) β) :
    (x >>= f).run.run s = (f a).run.run s₁ := by
  rw [ExceptT.run_bind, StateT.run_bind, h]
  rfl

variable [FileSystem (StateM σ)]

/-- The page of an analysis is a JSON document if and only if what it is about is known. -/
theorem isDocument_page_iff {paint : Paint} {now : Instant} {workspace : Workspace}
    {context : Context} {wanted : Analysis} {page : List String}
    (h : (pageOf ⟨true, paint⟩ now workspace context wanted :
      ExceptT Error (StateM σ) (List String)).run.run s = (.ok page, s')) :
    Json.IsDocument (unlines page) ↔ wanted.Known context.graph := by
  cases wanted with
  | build withSnapshot =>
    obtain ⟨snapshot, s₁, -, printed⟩ := run_bind_ok h
    cases printed
    exact iff_of_true (isDocument_ofJson _) trivial
  | reach target =>
    cases h
    exact isDocument_reach_iff ..
  | chain source target =>
    cases h
    exact isDocument_chain_iff ..
  | _ =>
    cases h
    exact iff_of_true (isDocument_ofJson _) trivial

/-- What an analysis prints that was asked for and succeeds. -/
theorem page_of_run {around : Surroundings} {asked : Invocation} {wanted : Analysis}
    {page : List String} (command : asked.command = .analysis wanted)
    (h : (run around asked : ExceptT Error (StateM σ) (List String)).run.run s = (.ok page, s')) :
    ∃ workspace context s₁ s₂,
      (openIn (asked.workspace.getD around.workspace) asked.findings :
        ExceptT Error (StateM σ) Workspace).run.run s = (.ok workspace, s₁) ∧
      (workspace.analyze : ExceptT Error (StateM σ) Context).run.run s₁ = (.ok context, s₂) ∧
      (pageOf ⟨asked.json, around.paint⟩ around.now workspace context wanted :
        ExceptT Error (StateM σ) (List String)).run.run s₂ = (.ok page, s') := by
  unfold run at h
  rw [command] at h
  obtain ⟨workspace, s₁, opened, h⟩ := run_bind_ok h
  obtain ⟨context, s₂, analyzed, printed⟩ := run_bind_ok h
  exact ⟨workspace, context, s₁, s₂, opened, analyzed, printed⟩

end Run

end Command

namespace Outcome

variable {σ : Type} [FileSystem (StateM σ)] {s s' : σ} {around : Surroundings}
  {arguments : List String} {asked : Invocation} {outcome : Outcome}

theorem run_ofArguments (parsed : Invocation.parse arguments = .ok asked) :
    (ofArguments around arguments : StateM σ Outcome).run s =
      (ofResult around.paint
        ((Command.run around asked : ExceptT Error (StateM σ) (List String)).run.run s).1,
        ((Command.run around asked : ExceptT Error (StateM σ) (List String)).run.run s).2) := by
  unfold ofArguments
  rw [parsed]
  rfl

/-- A command that succeeds prints its page. -/
theorem ofResult_of_exit {paint : Paint} {result : Except Error (List String)}
    (succeeded : (ofResult paint result).exit = 0) :
    ∃ page, result = .ok page ∧ (ofResult paint result).output = unlines page := by
  cases result with
  | ok page => exact ⟨page, rfl, rfl⟩
  | error e => cases succeeded

/-! ## A workspace of one file -/

/-- A disk on which the only finding is an inventory of one file. -/
def oneFile : Disk :=
  ({} : Disk).putBelow [".cartograph", "findings", "structure.json"]
    (.file Workspace.walked.document.compact.toUTF8)

/-- The outcome of a command line on that disk. -/
def onOneFile (arguments : List String) : Outcome × Disk :=
  (ofArguments ⟨"/", ⟨0⟩, {}⟩ arguments : StateM Disk Outcome).run oneFile

theorem openIn_oneFile :
    (Command.openIn "/" none : ExceptT Error (StateM Disk) Workspace).run.run oneFile =
      (.ok ⟨"/", {}, "/.cartograph/findings"⟩, oneFile) := by
  have config : Config.pathIn "/" = "/.cartograph/config.yaml" := by decide +kernel
  have findings : ({} : Config).findingsPath "/" = "/.cartograph/findings" := by decide +kernel
  unfold Command.openIn Workspace.load Workspace.loadConfig
  rw [config, ← findings]
  rfl

theorem analyze_oneFile : ∃ context,
    ((⟨"/", {}, "/.cartograph/findings"⟩ : Workspace).analyze :
      ExceptT Error (StateM Disk) Context).run.run oneFile = (.ok context, oneFile) ∧
    context.graph.resolveFile "a.rs" = some "a.rs" ∧ context.graph.resolveFile "b.rs" = none := by
  generalize hw : (⟨"/", {}, "/.cartograph/findings"⟩ : Workspace) = w
  have timely : w.deadline ≠ 0 := by
    subst hw
    decide
  have files : w.fileOf = fun kind => "/.cartograph/findings/" ++ kind.name ++ ".json" := by
    subst hw
    funext kind
    cases kind <;> decide +kernel
  have parsed : Finding.parse .structural Workspace.walked.document.compact =
      .ok Workspace.walked := by
    rw [Finding.parse, Json.read_compact Workspace.walked.exact_document]
    rfl
  have found : (w.collected fun kind => oneFile.read (w.fileOf kind)).findings =
      Findings.empty.insert Workspace.walked := by
    refine Findings.ext_get? fun kind => ?_
    rw [w.get?_collected, files]
    cases kind with
    | structural => exact FindingKind.held?_eq_some.2 ⟨_, rfl, parsed⟩
    | _ => rfl
  rw [Workspace.run_analyze (Workspace.holds_disk timely oneFile), found, ← hw]
  exact ⟨_, rfl, rfl, rfl⟩

/-- What is printed on that disk about a chain of imports. -/
theorem chain_oneFile {arguments : List String} {target : String}
    (parsed : Invocation.parse arguments =
      .ok { command := .analysis (.chain "a.rs" target), json := true }) :
    ∃ context : Context, context.graph.resolveFile "b.rs" = none ∧ onOneFile arguments =
      ({ output := unlines (Page.chain ⟨true, {}⟩ context.graph "a.rs" target) }, oneFile) := by
  obtain ⟨context, analyzed, -, unknown⟩ := analyze_oneFile
  refine ⟨context, unknown, ?_⟩
  rw [onOneFile, run_ofArguments parsed, Command.run]
  dsimp only [Option.getD_none]
  rw [Command.run_bind_of_ok openIn_oneFile, Command.run_bind_of_ok analyzed]
  rfl

/-! ## JSON output -/

/-- **JSON output.** If an analysis that is asked for as JSON succeeds, then its output is exactly
one JSON document if and only if the function or the two files that it is about are known; analyses
that are about none always print one. -/
theorem isDocument_output_iff {wanted : Analysis}
    (parsed : Invocation.parse arguments = .ok asked) (command : asked.command = .analysis wanted)
    (json : asked.json = true)
    (ran : (ofArguments around arguments : StateM σ Outcome).run s = (outcome, s'))
    (succeeded : outcome.exit = 0) :
    ∃ workspace context s₁ s₂,
      (Command.openIn (asked.workspace.getD around.workspace) asked.findings :
        ExceptT Error (StateM σ) Workspace).run.run s = (.ok workspace, s₁) ∧
      (workspace.analyze : ExceptT Error (StateM σ) Context).run.run s₁ = (.ok context, s₂) ∧
      (Json.IsDocument outcome.output ↔ wanted.Known context.graph) := by
  rw [run_ofArguments parsed] at ran
  obtain ⟨rfl, rfl⟩ := Prod.mk.inj ran
  obtain ⟨page, result, output⟩ := ofResult_of_exit succeeded
  obtain ⟨workspace, context, s₁, s₂, opened, analyzed, printed⟩ :=
    Command.page_of_run command (Prod.ext result rfl)
  refine ⟨workspace, context, s₁, s₂, opened, analyzed, ?_⟩
  rw [output]
  rw [json] at printed
  exact Command.isDocument_page_iff printed

/-- Between known files the output is a document. -/
theorem isDocument_output_iff_chain :
    (onOneFile ["chain", "a.rs", "a.rs", "--json"]).1.exit = 0 ∧
      Json.IsDocument (onOneFile ["chain", "a.rs", "a.rs", "--json"]).1.output := by
  have parsed : Invocation.parse ["chain", "a.rs", "a.rs", "--json"] =
      .ok { command := .analysis (.chain "a.rs" "a.rs"), json := true } := by decide +kernel
  obtain ⟨_, -, printed⟩ := chain_oneFile parsed
  rw [printed]
  unfold onOneFile at printed
  obtain ⟨workspace, context, s₁, s₂, opened, analyzed, iff⟩ :=
    isDocument_output_iff parsed rfl rfl printed rfl
  obtain ⟨context', analyzed', known, -⟩ := analyze_oneFile
  cases openIn_oneFile.symm.trans opened
  cases analyzed'.symm.trans analyzed
  exact ⟨rfl, iff.2 ⟨_, _, known, known⟩⟩

/-- That a file is not there is told in words, although JSON is asked for. -/
theorem not_isDocument_chain :
    Invocation.parse ["chain", "a.rs", "b.rs", "--json"] =
        .ok { command := .analysis (.chain "a.rs" "b.rs"), json := true } ∧
      onOneFile ["chain", "a.rs", "b.rs", "--json"] =
        ({ output := "Both files must exist in the graph.\n" }, oneFile) ∧
      ¬ Json.IsDocument (onOneFile ["chain", "a.rs", "b.rs", "--json"]).1.output := by
  have parsed : Invocation.parse ["chain", "a.rs", "b.rs", "--json"] =
      .ok { command := .analysis (.chain "a.rs" "b.rs"), json := true } := by decide +kernel
  obtain ⟨context, unknown, printed⟩ := chain_oneFile parsed
  have page : ¬ Json.IsDocument
      (unlines (Page.chain ⟨true, {}⟩ context.graph "a.rs" "b.rs")) := by
    rw [Command.isDocument_chain_iff, unknown]
    rintro ⟨_, _, -, known⟩
    cases known
  have line : unlines (Page.chain ⟨true, {}⟩ context.graph "a.rs" "b.rs") =
      "Both files must exist in the graph.\n" := by
    rw [Page.chain, unknown]
    cases context.graph.resolveFile "a.rs" <;> rfl
  rw [line] at page printed
  rw [printed]
  exact ⟨parsed, rfl, page⟩

end Outcome

end CodeAtlas
