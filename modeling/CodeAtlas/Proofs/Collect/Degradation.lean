import CodeAtlas.FileSystem.Disk
import CodeAtlas.Proofs.Collect.Contributions
import CodeAtlas.Proofs.Finding.RoundTrip
import CodeAtlas.Workspace

/-!
# Findings that are missing or broken

An analysis depends on the files of findings through what each of them holds, and a file that cannot
be read or decoded holds as little as one that is not there. Only the inventory of files and folders
is required.

1. `run_collect`, `get?_collected`, `kinds_of_failures_collected`: what is collected is what each
   file holds, and each other file is reported.
2. `run_analyze`: an analysis is the context of what was collected.
3. `analyze_degrades`: when an analysis succeeds, and what a broken file changes.
-/

namespace CodeAtlas

/-! ## What a file holds -/

/-- The finding that a file of a kind holds, by what reading the file comes to: none if the file
cannot be read or its text is no finding of the kind. -/
def FindingKind.held? (kind : FindingKind) : Except Refusal String → Option Finding
  | .ok text => (Finding.parse kind text).toOption
  | .error _ => none

theorem FindingKind.held?_eq_some {kind : FindingKind} {file : Except Refusal String}
    {finding : Finding} :
    kind.held? file = some finding ↔
      ∃ text, file = .ok text ∧ Finding.parse kind text = .ok finding := by
  unfold held?
  cases file with
  | error refusal => simp
  | ok text => cases parsed : Finding.parse kind text <;> simp [Except.toOption, parsed]

theorem Finding.kind_of_read {kind : FindingKind} {item : Json.Outline} {finding : Finding}
    (h : read kind item = .ok finding) : finding.kind = kind := by
  have wrapped {α : Type} {read : Except Json.Problem α} {wrap : α → Finding}
      (h : read.map wrap = .ok finding) : ∃ a, wrap a = finding := by
    cases read with
    | error problem => cases h
    | ok a => exact ⟨a, Except.ok.inj h⟩
  cases kind <;> (obtain ⟨_, rfl⟩ := wrapped h; rfl)

theorem Finding.kind_of_parse {kind : FindingKind} {text : String} {finding : Finding}
    (h : parse kind text = .ok finding) : finding.kind = kind := by
  unfold parse Json.Document.read? at h
  cases hr : read kind (Json.Document.read text).root with
  | error problem =>
    rw [hr] at h
    cases h
  | ok found =>
    rw [hr] at h
    dsimp only [bind, Except.bind] at h
    split at h
    · cases h
    · cases h
      exact kind_of_read hr

namespace Workspace

/-- What reading the file of each kind of finding comes to: its text, or why it cannot be read. -/
abbrev Contents : Type := FindingKind → Except Refusal String

/-- The file of a kind of finding. -/
def fileOf (w : Workspace) (kind : FindingKind) : String :=
  Path.join w.findings (kind.name ++ ".json")

/-- The file of a kind as a collaborator that hands over what the file holds. -/
def reader (w : Workspace) (contents : Contents) (kind : FindingKind) : Collaborator :=
  ⟨kind, .sends 0 (handedOver kind (w.fileOf kind) (contents kind))⟩

/-- What is collected from files with these contents. -/
def collected (w : Workspace) (contents : Contents) : Collection :=
  Collection.run w.deadline (FindingKind.all.map (w.reader contents))

variable (w : Workspace) {contents : Contents}

/-- A collaborator that reads a file contributes what the file holds. -/
theorem offer?_reader (kind : FindingKind) :
    (w.reader contents kind).offer? w.deadline = kind.held? (contents kind) := by
  refine Option.ext fun finding => ?_
  rw [Collaborator.offer?_eq_some]
  unfold reader handedOver FindingKind.held?
  cases contents kind with
  | error refusal => simp
  | ok text =>
    dsimp only
    cases parsed : Finding.parse kind text with
    | error problem => simp [Except.mapError, Except.toOption]
    | ok found =>
      constructor
      · rintro ⟨-, _, -, sent⟩
        cases sent
        rfl
      · intro held
        cases held
        exact ⟨Finding.kind_of_parse parsed, 0, Nat.zero_le _, rfl⟩

/-- Of each kind what its file holds is collected. -/
theorem get?_collected (kind : FindingKind) :
    (w.collected contents).findings.get? kind = kind.held? (contents kind) := by
  have alone : (FindingKind.all.map (w.reader contents)).filter (·.kind = kind) =
      [w.reader contents kind] := by cases kind <;> rfl
  rw [collected, (Collection.accounts_run _).findings, alone, List.filterMap_cons, offer?_reader]
  cases kind.held? (contents kind) <;> rfl

/-- A file that hands over no finding names its own kind. -/
theorem kind_of_handedOver {kind : FindingKind} {path : String} {file : Except Refusal String}
    {failure : Failure} (h : handedOver kind path file = .error failure) : failure.kind = kind := by
  unfold handedOver at h
  cases file with
  | error refusal =>
    cases h
    rfl
  | ok text =>
    dsimp only at h
    cases parsed : Finding.parse kind text with
    | error problem =>
      rw [parsed] at h
      cases h
      rfl
    | ok finding =>
      rw [parsed] at h
      cases h

/-- A failure is reported for each kind whose file holds nothing, in the order of the kinds. -/
theorem kinds_of_failures_collected : (w.collected contents).failures.map Failure.kind =
    FindingKind.all.filter fun kind => (kind.held? (contents kind)).isNone := by
  have own : ∀ a ∈ FindingKind.all.map (w.reader contents), ∀ told,
      a.excuse? w.deadline = some told → told.kind = a.kind := by
    intro a mem told excuse
    obtain ⟨kind, -, rfl⟩ := List.mem_map.1 mem
    obtain ⟨_, -, sent⟩ := Collaborator.excuse?_eq_some.1 excuse
    exact kind_of_handedOver (Behaviour.sends.inj sent).2
  have idle : (fun c : Collaborator => (c.offer? w.deadline).isNone) ∘ w.reader contents =
      fun kind => (kind.held? (contents kind)).isNone :=
    funext fun kind => congrArg Option.isNone (w.offer?_reader kind)
  rw [collected, (Collection.accounts_run _).kinds_of_failures.2 own, List.filter_map, idle,
    List.map_map]
  exact List.map_id _

/-- Something of a kind is collected if its file can be read and decoded. -/
theorem isSome_get?_collected (kind : FindingKind) :
    ((w.collected contents).findings.get? kind).isSome ↔
      ∃ text finding, contents kind = .ok text ∧ Finding.parse kind text = .ok finding := by
  rw [get?_collected, Option.isSome_iff_exists]
  simp only [FindingKind.held?_eq_some]
  exact exists_comm

/-- What is collected does not depend on why a file holds no finding. -/
theorem findings_collected_update (contents : Contents) {kind : FindingKind}
    {file : Except Refusal String} (useless : kind.held? file = none) :
    (w.collected (Function.update contents kind file)).findings =
      (w.collected (Function.update contents kind (.error .notFound))).findings := by
  refine Findings.ext_get? fun other => ?_
  rw [get?_collected, get?_collected]
  by_cases own : other = kind
  · subst own
    rw [Function.update_self, Function.update_self, useless]
    rfl
  · rw [Function.update_of_ne own, Function.update_of_ne own]

/-! ## Reading the files -/

theorem run_mapM {σ α β : Type} {s : σ} {f : α → StateM σ β} {g : α → β} (items : List α)
    (h : ∀ a ∈ items, (f a).run s = (g a, s)) : (items.mapM f).run s = (items.map g, s) := by
  induction items with
  | nil => rfl
  | cons a items ih =>
    have rest := ih fun b hb => h b (List.mem_cons_of_mem _ hb)
    rw [List.mapM_cons, StateT.run_bind, h a List.mem_cons_self]
    show ((items.mapM f >>= fun bs => pure (g a :: bs)) : StateM σ (List β)).run s = _
    rw [StateT.run_bind, rest]
    rfl

section Run

variable {σ : Type} [FileSystem (StateM σ)] {s : σ}

/-- Whether in a state the files of a workspace have these contents, each can be read in time, and
reading changes nothing. -/
def Holds (s : σ) (contents : Contents) : Prop :=
  ∀ kind, (FileSystem.readWithin w.deadline (w.fileOf kind) :
    StateM σ (Option (Except Refusal String))).run s = (some (contents kind), s)

/-- On a disk that is a value the files have the contents that the disk gives them. -/
theorem holds_disk {w : Workspace} (h : w.deadline ≠ 0) (d : Disk) :
    w.Holds d fun kind => d.read (w.fileOf kind) := by
  intro kind
  show (if w.deadline = 0 then none else some (d.read (w.fileOf kind)), d) = _
  rw [if_neg h]

theorem run_collect {w : Workspace} (h : w.Holds s contents) :
    (w.collect : StateM σ Collection).run s = (w.collected contents, s) := by
  have asked : ∀ kind ∈ FindingKind.all,
      (collaborator w.deadline (kind, w.fileOf kind) : StateM σ Collaborator).run s =
        (w.reader contents kind, s) := by
    intro kind _
    unfold collaborator
    rw [StateT.run_bind, h kind]
    rfl
  have all : (w.sources.mapM (collaborator w.deadline) : StateM σ (List Collaborator)).run s =
      (FindingKind.all.map (w.reader contents), s) := by
    rw [sources, List.mapM_map]
    exact run_mapM _ asked
  unfold collect
  rw [StateT.run_bind, all]
  rfl

/-- The findings that are collected in a state. -/
def findingsAt (s : σ) : Findings := ((w.collect : StateM σ Collection).run s).1.findings

/-- What an analysis in a state comes to. -/
def analysisAt (s : σ) : Except Error Context :=
  ((w.analyze : ExceptT Error (StateM σ) Context).run.run s).1

/-- An analysis is the context of what is collected. -/
theorem run_analyze {w : Workspace} (h : w.Holds s contents) :
    (w.analyze : ExceptT Error (StateM σ) Context).run.run s =
      (w.config.contextOf (w.collected contents).findings, s) := by
  unfold analyze
  rw [ExceptT.run_mk, StateT.run_bind, run_collect h]
  rfl

theorem findingsAt_eq {w : Workspace} (h : w.Holds s contents) :
    w.findingsAt s = (w.collected contents).findings := by
  rw [findingsAt, run_collect h]

theorem analysisAt_eq {w : Workspace} (h : w.Holds s contents) :
    w.analysisAt s = w.config.contextOf (w.collected contents).findings := by
  rw [analysisAt, run_analyze h]

end Run

end Workspace

/-! ## Analyses -/

/-- An inventory is all that a context needs. -/
theorem Config.contextOf_cases (c : Config) (fs : Findings) :
    (fs.get? .structural = none ∧ c.contextOf fs = .error (.noWorkspace .structural)) ∨
      (fs.get? .structural).isSome ∧ ∃ context, c.contextOf fs = .ok context := by
  unfold contextOf Context.build Findings.build Findings.get?
  cases fs.structural with
  | none => exact .inl ⟨rfl, rfl⟩
  | some inventory => exact .inr ⟨rfl, _, rfl⟩

namespace Workspace

variable {σ : Type} [FileSystem (StateM σ)]

/-- An inventory of one file. -/
def walked : Finding := .structural ⟨"walker", 0, ⟨[], ["a.rs"]⟩⟩

/-- A disk with that inventory as the only finding. -/
def plain : Disk :=
  (({} : Disk).put ["f"] .directory).put ["f", "structure.json"]
    (.file walked.document.compact.toUTF8)

/-- The same disk with a history that is not even text. -/
def garbled : Disk := plain.put ["f", "history.json"] (.file ⟨#[0xff]⟩)

/-- **Degrade, do not fail.** Whatever the files of findings are, an analysis fails only if there is
no inventory to be read and decoded, and it says so. A file of any other kind that cannot be read or
decoded counts as much as a file that is not there, and leaves the findings of the other kinds as
they are. -/
theorem analyze_degrades (w : Workspace) {s : σ} {contents : Contents}
    (holds : w.Holds s contents) :
    ((∃ context, w.analysisAt s = .ok context) ↔
        ∃ text finding, contents .structural = .ok text ∧
          Finding.parse .structural text = .ok finding) ∧
      ((∃ context, w.analysisAt s = .ok context) ∨
        w.analysisAt s = .error (.noWorkspace .structural)) ∧
      ∀ kind ≠ .structural, ∀ file, kind.held? file = none → ∀ broken removed : σ,
        w.Holds broken (Function.update contents kind file) →
        w.Holds removed (Function.update contents kind (.error .notFound)) →
        w.analysisAt broken = w.analysisAt removed ∧ w.findingsAt broken = w.findingsAt removed ∧
          (w.findingsAt broken).get? kind = none ∧
          ∀ other ≠ kind, (w.findingsAt broken).get? other = (w.findingsAt s).get? other := by
  refine ⟨?_, ?_, ?_⟩
  · rw [← w.isSome_get?_collected .structural, analysisAt_eq holds]
    obtain ⟨missing, failed⟩ | ⟨there, made⟩ := w.config.contextOf_cases
      (w.collected contents).findings
    · rw [failed, missing]
      simp
    · exact ⟨fun _ => there, fun _ => made⟩
  · rw [analysisAt_eq holds]
    obtain ⟨-, failed⟩ | ⟨-, made⟩ := w.config.contextOf_cases (w.collected contents).findings
    · exact .inr failed
    · exact .inl made
  · intro kind required file useless broken removed hb hr
    have same := w.findings_collected_update contents useless
    rw [analysisAt_eq hb, analysisAt_eq hr, findingsAt_eq hb, findingsAt_eq hr, findingsAt_eq holds]
    refine ⟨by rw [same], same, ?_, ?_⟩
    · rw [get?_collected, Function.update_self, useless]
    · intro other own
      rw [get?_collected, get?_collected, Function.update_of_ne own]

/-- The analysis goes on with the inventory alone, just as if there was no history. -/
theorem analyze_degrades_history :
    let w : Workspace := ⟨"", {}, "f"⟩
    garbled.read (w.fileOf .history) = .error .notText ∧
      (∃ context, w.analysisAt garbled = .ok context) ∧
      w.analysisAt garbled = w.analysisAt plain ∧
      (w.findingsAt garbled).get? .structural = some walked := by
  intro w
  have files : w.fileOf = fun kind => "f/" ++ kind.name ++ ".json" := by
    funext kind
    cases kind <;> decide +kernel
  have reads : plain.read (w.fileOf .structural) = .ok walked.document.compact := by
    rw [files]
    rfl
  have unread : garbled.read (w.fileOf .history) = .error .notText := by
    rw [files]
    rfl
  have parsed : Finding.parse .structural walked.document.compact = .ok walked := by
    rw [Finding.parse, Json.read_compact walked.exact_document]
    rfl
  have timely : w.deadline ≠ 0 := by decide
  have holds := holds_disk timely plain
  have before : (fun kind => plain.read (w.fileOf kind)) =
      Function.update (fun kind => plain.read (w.fileOf kind)) .history (.error .notFound) := by
    rw [files]
    funext kind
    cases kind <;> rfl
  have after : (fun kind => garbled.read (w.fileOf kind)) =
      Function.update (fun kind => plain.read (w.fileOf kind)) .history (.error .notText) := by
    rw [files]
    funext kind
    cases kind <;> rfl
  obtain ⟨succeeds, -, degrades⟩ := w.analyze_degrades holds
  obtain ⟨same, -, -, others⟩ := degrades .history (by decide) (.error .notText) rfl garbled plain
    (after ▸ holds_disk timely garbled) (before ▸ holds)
  obtain ⟨context, made⟩ := succeeds.2 ⟨_, _, reads, parsed⟩
  refine ⟨unread, ⟨context, same.trans made⟩, same, ?_⟩
  rw [others .structural (by decide), findingsAt_eq holds, get?_collected]
  exact FindingKind.held?_eq_some.2 ⟨_, reads, parsed⟩

end Workspace

end CodeAtlas
