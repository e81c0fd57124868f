import CodeAtlas.Collect
import Mathlib.Data.List.Forall2
import Mathlib.Data.List.Induction

/-!
# Contributions

Each collaborator that is asked either contributes a finding of its own kind, which it sent in time,
or fails. What was collected is accounted for by this alone.

1. `offer?`, `FailsWith`: what a collaborator contributes, and what is reported of it otherwise.
2. `contribution_cases`: a collaborator does one of the two.
3. `accounts_run`: the failures are those of the others, in order, and the last contribution of each
   kind is kept.
4. `kinds_of_failures`: each failure is of the kind of its collaborator exactly if the collaborators
   that tell a failure themselves tell one of their own kind.
-/

namespace CodeAtlas

namespace Findings

@[simp] theorem get?_empty (kind : FindingKind) : empty.get? kind = none := by cases kind <;> rfl

/-- Findings are the same if each kind has the same one. -/
theorem ext_get? {fs other : Findings} (h : ∀ kind, fs.get? kind = other.get? kind) :
    fs = other := by
  have structural := h .structural
  have extraction := h .extraction
  have dependencies := h .dependencies
  have history := h .history
  have risks := h .risks
  obtain ⟨_, _, _, _, _⟩ := fs
  obtain ⟨_, _, _, _, _⟩ := other
  simp only [get?] at structural extraction dependencies history risks
  rw [Option.map_injective (fun _ _ => Finding.structural.inj) structural,
    Option.map_injective (fun _ _ => Finding.extraction.inj) extraction,
    Option.map_injective (fun _ _ => Finding.dependencies.inj) dependencies,
    Option.map_injective (fun _ _ => Finding.history.inj) history,
    Option.map_injective (fun _ _ => Finding.risks.inj) risks]

end Findings

/-- Whether nothing is heard of a collaborator within a time. -/
def Behaviour.Silent (deadline : Nat) : Behaviour → Prop
  | .unstarted _ => False
  | .sends after _ | .exits after => deadline < after
  | .hangs => True

namespace Collaborator

/-- The finding that a collaborator contributes: one of its own kind that it sends in time. -/
def offer? (deadline : Nat) (c : Collaborator) : Option Finding :=
  match c.behaviour with
  | .sends after (.ok finding) =>
    if after ≤ deadline ∧ finding.kind = c.kind then some finding else none
  | _ => none

/-- The failure that a collaborator tells itself: it sends it in time. -/
def excuse? (deadline : Nat) (c : Collaborator) : Option Failure :=
  match c.behaviour with
  | .sends after (.error failure) => if after ≤ deadline then some failure else none
  | _ => none

/-- Why a collaborator contributes nothing, and the failure that is reported for it. -/
inductive FailsWith (deadline : Nat) (c : Collaborator) : Failure → Prop where
  | unstarted {reason : String} (behaves : c.behaviour = .unstarted reason) :
      FailsWith deadline c ⟨c.kind, .io reason⟩
  /-- It told the failure itself, and of whatever kind that is, nothing is changed. -/
  | told {after : Nat} {failure : Failure} (inTime : after ≤ deadline)
      (behaves : c.behaviour = .sends after (.error failure)) : FailsWith deadline c failure
  | foreign {after : Nat} {finding : Finding} (inTime : after ≤ deadline)
      (behaves : c.behaviour = .sends after (.ok finding)) (other : finding.kind ≠ c.kind) :
      FailsWith deadline c
        ⟨c.kind, .malformed ("produced a " ++ finding.kind.name ++ " finding")⟩
  | gone {after : Nat} (inTime : after ≤ deadline) (behaves : c.behaviour = .exits after) :
      FailsWith deadline c ⟨c.kind, .malformed "collaborator exited without a result"⟩
  | late (silent : c.behaviour.Silent deadline) : FailsWith deadline c ⟨c.kind, .timedOut⟩

variable {deadline : Nat} {c : Collaborator}

theorem offer?_eq_some {finding : Finding} :
    c.offer? deadline = some finding ↔
      finding.kind = c.kind ∧ ∃ after ≤ deadline, c.behaviour = .sends after (.ok finding) := by
  unfold offer?
  split
  · rename_i after sent hb
    rw [hb]
    constructor
    · intro h
      split at h
      · rename_i own
        cases h
        exact ⟨own.2, after, own.1, rfl⟩
      · cases h
    · rintro ⟨own, _, inTime, same⟩
      cases same
      exact if_pos ⟨inTime, own⟩
  · rename_i other
    constructor
    · intro h
      cases h
    · rintro ⟨-, after, -, hb⟩
      exact absurd hb (other after finding)

theorem excuse?_eq_some {failure : Failure} :
    c.excuse? deadline = some failure ↔
      ∃ after ≤ deadline, c.behaviour = .sends after (.error failure) := by
  unfold excuse?
  split
  · rename_i after told hb
    by_cases h : after ≤ deadline
    · simp [hb, h]
    · simp [hb, h]
  · rename_i other
    constructor
    · intro h
      cases h
    · rintro ⟨after, -, hb⟩
      exact absurd hb (other after failure)

theorem ne_sends_of_silent (silent : c.behaviour.Silent deadline) {after : Nat}
    (inTime : after ≤ deadline) (message : Except Failure Finding) :
    c.behaviour ≠ .sends after message := by
  intro sent
  rw [sent] at silent
  exact Nat.not_lt.2 inTime silent

/-- A collaborator that fails offers nothing. -/
theorem FailsWith.offer?_eq_none {failure : Failure} (h : c.FailsWith deadline failure) :
    c.offer? deadline = none := by
  refine Option.eq_none_iff_forall_not_mem.2 fun finding offered => ?_
  obtain ⟨own, after, inTime, sent⟩ := offer?_eq_some.1 offered
  cases h with
  | unstarted behaves => cases sent.symm.trans behaves
  | told _ behaves => cases sent.symm.trans behaves
  | foreign _ behaves other =>
    cases sent.symm.trans behaves
    exact other own
  | gone _ behaves => cases sent.symm.trans behaves
  | late silent => exact ne_sends_of_silent silent inTime _ sent

/-- A collaborator contributes a finding of its kind, or it fails. -/
theorem contribution_cases (deadline : Nat) (c : Collaborator) :
    (∃ finding, c.contribution deadline = .ok finding ∧ c.offer? deadline = some finding) ∨
      ∃ failure, c.contribution deadline = .error failure ∧ c.FailsWith deadline failure := by
  unfold contribution
  cases behaves : c.behaviour with
  | unstarted reason => exact .inr ⟨_, rfl, .unstarted behaves⟩
  | sends after message =>
    rw [Behaviour.received]
    by_cases inTime : after ≤ deadline
    · rw [if_pos inTime]
      cases message with
      | error failure => exact .inr ⟨failure, rfl, .told inTime behaves⟩
      | ok finding =>
        by_cases own : finding.kind = c.kind
        · exact .inl ⟨finding, if_pos own, offer?_eq_some.2 ⟨own, after, inTime, behaves⟩⟩
        · exact .inr ⟨_, if_neg own, .foreign inTime behaves own⟩
    · rw [if_neg inTime]
      exact .inr ⟨_, rfl, .late (behaves ▸ Nat.lt_of_not_le inTime)⟩
  | exits after =>
    rw [Behaviour.received]
    by_cases inTime : after ≤ deadline
    · rw [if_pos inTime]
      exact .inr ⟨_, rfl, .gone inTime behaves⟩
    · rw [if_neg inTime]
      exact .inr ⟨_, rfl, .late (behaves ▸ Nat.lt_of_not_le inTime)⟩
  | hangs => exact .inr ⟨_, rfl, .late (behaves ▸ trivial)⟩

/-- The failure of a collaborator is of its kind unless it told one of another kind. -/
theorem FailsWith.kind_eq_iff {failure : Failure} (h : c.FailsWith deadline failure) :
    failure.kind = c.kind ↔ ∀ told, c.excuse? deadline = some told → told.kind = c.kind := by
  cases h with
  | unstarted behaves => simp [excuse?, behaves]
  | told inTime behaves => simp [excuse?_eq_some.2 ⟨_, inTime, behaves⟩]
  | foreign _ behaves _ => simp [excuse?, behaves]
  | gone _ behaves => simp [excuse?, behaves]
  | late silent =>
    have untold (told : Failure) : c.excuse? deadline ≠ some told := by
      intro excuse
      obtain ⟨_, inTime, sent⟩ := excuse?_eq_some.1 excuse
      exact ne_sends_of_silent silent inTime _ sent
    simp [untold]

/-- A collaborator that contributes a finding tells no failure. -/
theorem excuse?_of_offer? {finding : Finding} (offered : c.offer? deadline = some finding) :
    c.excuse? deadline = none := by
  obtain ⟨-, _, -, hb⟩ := offer?_eq_some.1 offered
  rw [excuse?, hb]

end Collaborator

namespace Collection

variable {deadline : Nat}

/-- What was collected, in terms of what each collaborator contributes. -/
structure Accounts (deadline : Nat) (asked : List Collaborator) (c : Collection) : Prop where
  /-- Each collaborator fails or contributes. -/
  number : c.failures.length + (asked.filterMap (·.offer? deadline)).length = asked.length
  /-- The failures are those of the collaborators that offer nothing, in their order. -/
  failures : List.Forall₂ (Collaborator.FailsWith deadline)
    (asked.filter fun a => (a.offer? deadline).isNone) c.failures
  /-- Of each kind the last contribution is kept, and nothing else. -/
  findings : ∀ kind, c.findings.get? kind =
    ((asked.filter (·.kind = kind)).filterMap (·.offer? deadline)).getLast?

theorem run_concat (asked : List Collaborator) (a : Collaborator) :
    run deadline (asked ++ [a]) = (run deadline asked).add deadline a := by
  rw [run, List.foldl_append, List.foldl_cons, List.foldl_nil, ← run]

theorem accounts_add {asked : List Collaborator} {c : Collection} (h : c.Accounts deadline asked)
    (a : Collaborator) : (c.add deadline a).Accounts deadline (asked ++ [a]) := by
  obtain ⟨finding, contributed, offered⟩ | ⟨failure, failed, fails⟩ :=
    a.contribution_cases deadline
  · have own := (Collaborator.offer?_eq_some.1 offered).1
    simp only [add, contributed]
    refine ⟨?_, ?_, ?_⟩
    · rw [List.filterMap_append, List.filterMap_cons_some offered, List.length_append,
        List.length_append, ← Nat.add_assoc, h.number]
      rfl
    · rw [List.filter_append]
      simpa [offered] using h.failures
    · intro kind
      rw [Findings.get?_insert, List.filter_append, List.filterMap_append, h.findings]
      by_cases hk : finding.kind = kind
      · simp [← own, hk, offered]
      · simp [← own, hk]
  · have idle := fails.offer?_eq_none
    simp only [add, failed]
    refine ⟨?_, ?_, ?_⟩
    · rw [List.filterMap_append, List.filterMap_cons_none idle, List.filterMap_nil,
        List.append_nil, List.length_append, List.length_append, ← h.number]
      exact Nat.add_right_comm ..
    · have last : [a].filter (fun a => (a.offer? deadline).isNone) = [a] := by simp [idle]
      rw [List.filter_append, last]
      exact List.rel_append h.failures (.cons fails .nil)
    · intro kind
      rw [List.filter_append, List.filterMap_append, h.findings]
      by_cases hk : a.kind = kind
      · simp [hk, idle]
      · simp [hk]

/-- What is collected from collaborators asked one after the other. -/
theorem accounts_run (asked : List Collaborator) :
    (run deadline asked).Accounts deadline asked := by
  induction asked using List.reverseRecOn with
  | nil => exact ⟨rfl, .nil, Findings.get?_empty⟩
  | append_singleton asked a ih =>
    rw [run_concat]
    exact accounts_add ih a

theorem map_kind_eq_iff {asked : List Collaborator} {failures : List Failure}
    (h : List.Forall₂ (Collaborator.FailsWith deadline) asked failures) :
    failures.map Failure.kind = asked.map Collaborator.kind ↔
      ∀ a ∈ asked, ∀ told, a.excuse? deadline = some told → told.kind = a.kind := by
  induction h with
  | nil => simp
  | cons fails _ ih =>
    rw [List.map_cons, List.map_cons, List.cons.injEq, List.forall_mem_cons, ih,
      fails.kind_eq_iff]

/-- The failures are of the kinds of their collaborators exactly if no collaborator tells a failure
of another kind than its own. -/
theorem Accounts.kinds_of_failures {asked : List Collaborator} {c : Collection}
    (h : c.Accounts deadline asked) :
    c.failures.map Failure.kind =
        (asked.filter fun a => (a.offer? deadline).isNone).map Collaborator.kind ↔
      ∀ a ∈ asked, ∀ told, a.excuse? deadline = some told → told.kind = a.kind := by
  rw [map_kind_eq_iff h.failures]
  refine ⟨fun own a mem told excuse => ?_, fun own a mem => own a (List.mem_filter.1 mem).1⟩
  refine own a (List.mem_filter.2 ⟨mem, ?_⟩) told excuse
  rw [Option.isNone_iff_eq_none, Option.eq_none_iff_forall_not_mem]
  intro finding offered
  rw [Collaborator.excuse?_of_offer? offered] at excuse
  cases excuse

/-- A failure that names another kind is reported as it was told. -/
example : (run 0 [⟨.history, .sends 0 (.error ⟨.risks, .malformed "odd"⟩)⟩]).failures =
    [⟨.risks, .malformed "odd"⟩] := rfl

end Collection

end CodeAtlas
