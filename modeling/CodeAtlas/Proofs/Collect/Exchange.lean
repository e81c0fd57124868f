import CodeAtlas.Proofs.Collect.Contributions
import Mathlib.Logic.Function.Basic

/-!
# Collecting under any timing

Each collaborator that is asked and can be started works on its own. It may end at any time, with a
message or without one, and what it sends takes any time to arrive. They are asked one after the other, and each is
waited for until it is heard of or its time is up. A worker that was given up goes on: its message
may still be on its way, or arrive, while another is waited for.

1. `Step`, `Run`: what may happen, and all that happened from the start on.
2. `observed`: how each collaborator behaved as far as it was heard of.
3. `tracked_step`, `tracked_run`: what is no longer received came too late, so the order in which
   messages arrive does not matter.
4. `accounts_of_run`: what was collected is accounted for by what arrived in time, failures of the
   wrong kind included.
5. `collects_iff`: all timings together come to what `Collection.run` collects.
-/

namespace CodeAtlas

/-! ## What may happen -/

/-- How a worker ends. -/
inductive Parting where
  | sending (message : Except Failure Finding)
  /-- It ends without having sent anything. -/
  | silently

/-- The behaviour of a collaborator whose end is noticed after some time. -/
def Parting.behaviour (after : Nat) : Parting → Behaviour
  | .sending message => .sends after message
  | .silently => .exits after

/-- The worker of a collaborator. -/
inductive Worker where
  | idle
  | working
  /-- It has ended, and this has not been noticed yet: its message is in flight. -/
  | left (parting : Parting)
  /-- It has ended, and this is known. -/
  | ended

/-- The collaborators by their places, who works for each of them, and what was collected. -/
structure Exchange where
  clock : Nat := 0
  /-- The collaborator that is waited for, or the one to be asked next. -/
  turn : Nat := 0
  waiting : Bool := false
  askedAt : Nat → Nat := fun _ => 0
  worker : Nat → Worker := fun _ => .idle
  collection : Collection := {}

namespace Exchange

/-- What happens. -/
inductive Event where
  | ticks
  | asks (who : Nat)
  | leaves (who : Nat) (parting : Parting)
  /-- What was sent arrives, some time after it was asked for. -/
  | arrives (who after : Nat) (parting : Parting)
  | expires (who : Nat)
  /-- No worker can be started. -/
  | unstarted (who : Nat) (reason : String)

/-- The time since a collaborator was asked. -/
def elapsed (s : Exchange) (who : Nat) : Nat := s.clock - s.askedAt who

/-- Whether a collaborator has been asked. -/
def Asked (s : Exchange) (who : Nat) : Prop := who < s.turn ∨ who = s.turn ∧ s.waiting = true

/-- Whether a collaborator is being waited for and has time left. -/
def Listens (deadline : Nat) (s : Exchange) (who : Nat) : Prop :=
  s.waiting = true ∧ s.turn = who ∧ s.elapsed who ≤ deadline

def setWorker (s : Exchange) (who : Nat) (worker : Worker) : Exchange :=
  { s with worker := Function.update s.worker who worker }

/-- Asks the next collaborator. -/
def ask (s : Exchange) : Exchange :=
  { s.setWorker s.turn .working with
    waiting := true
    askedAt := Function.update s.askedAt s.turn s.clock }

/-- Stops waiting for a collaborator, which is seen to have behaved in some way. -/
def settle (deadline : Nat) (s : Exchange) (c : Collaborator) : Exchange :=
  { s with turn := s.turn + 1, waiting := false, collection := s.collection.add deadline c }

/-- What may happen next, if the collaborators are of these kinds. -/
inductive Step (deadline : Nat) (kinds : List FindingKind) :
    Exchange → Event → Exchange → Prop where
  | ticks (s : Exchange) : Step deadline kinds s .ticks { s with clock := s.clock + 1 }
  | asks {s : Exchange} (free : s.waiting = false) (more : s.turn < kinds.length) :
      Step deadline kinds s (.asks s.turn) s.ask
  | leaves {s : Exchange} {who : Nat} (works : s.worker who = .working) (parting : Parting) :
      Step deadline kinds s (.leaves who parting) (s.setWorker who (.left parting))
  | received {s : Exchange} {who : Nat} {parting : Parting} {kind : FindingKind}
      (flies : s.worker who = .left parting) (listens : s.Listens deadline who)
      (place : kinds[who]? = some kind) :
      Step deadline kinds s (.arrives who (s.elapsed who) parting)
        ((s.setWorker who .ended).settle deadline ⟨kind, parting.behaviour (s.elapsed who)⟩)
  /-- Nobody receives it any more. -/
  | lost {s : Exchange} {who : Nat} {parting : Parting}
      (flies : s.worker who = .left parting) (deaf : ¬ s.Listens deadline who) :
      Step deadline kinds s (.arrives who (s.elapsed who) parting) (s.setWorker who .ended)
  | expires {s : Exchange} {kind : FindingKind} (waits : s.waiting = true)
      (late : deadline < s.elapsed s.turn) (place : kinds[s.turn]? = some kind) :
      Step deadline kinds s (.expires s.turn) (s.settle deadline ⟨kind, .hangs⟩)
  | unstarted {s : Exchange} {kind : FindingKind} (free : s.waiting = false)
      (place : kinds[s.turn]? = some kind) (reason : String) :
      Step deadline kinds s (.unstarted s.turn reason)
        ((s.setWorker s.turn .ended).settle deadline ⟨kind, .unstarted reason⟩)

/-- What happened from the start on, in order, and what it led to. -/
inductive Run (deadline : Nat) (kinds : List FindingKind) : List Event → Exchange → Prop where
  | start : Run deadline kinds [] {}
  | next {es : List Event} {e : Event} {s s' : Exchange} (run : Run deadline kinds es s)
      (step : Step deadline kinds s e s') : Run deadline kinds (es ++ [e]) s'

/-- Whether all collaborators have been asked, and none is waited for any more. -/
def Finished (kinds : List FindingKind) (s : Exchange) : Prop :=
  s.turn = kinds.length ∧ s.waiting = false

/-! ## What was seen -/

/-- How the end of a collaborator's worker is noticed. -/
def Event.endOf? (who : Nat) : Event → Option Behaviour
  | .arrives other after parting => if other = who then some (parting.behaviour after) else none
  | .unstarted other reason => if other = who then some (.unstarted reason) else none
  | _ => none

/-- What was noticed of the end of a collaborator's worker. -/
def seen (es : List Event) (who : Nat) : Option Behaviour := es.findSome? (·.endOf? who)

/-- How a collaborator behaved: it hangs for all that is known if it was not heard of. -/
def behaviourOf (es : List Event) (who : Nat) : Behaviour := (seen es who).getD .hangs

/-- The collaborators of these kinds, as they were seen to behave. -/
def observed (kinds : List FindingKind) (es : List Event) : List Collaborator :=
  kinds.mapIdx fun who kind => ⟨kind, behaviourOf es who⟩

variable {deadline : Nat} {kinds : List FindingKind} {es es' : List Event} {e : Event}
  {s s' : Exchange} {who : Nat}

theorem Event.endOf?_arrives (who after : Nat) (parting : Parting) :
    (Event.arrives who after parting).endOf? who = some (parting.behaviour after) := if_pos rfl

theorem Event.cases_of_endOf? {b : Behaviour} (h : e.endOf? who = some b) :
    (∃ after parting, e = .arrives who after parting ∧ parting.behaviour after = b) ∨
      ∃ reason, e = .unstarted who reason ∧ .unstarted reason = b := by
  cases e with
  | arrives other after parting =>
    obtain ⟨rfl, rfl⟩ : other = who ∧ parting.behaviour after = b := by simpa [endOf?] using h
    exact .inl ⟨after, parting, rfl, rfl⟩
  | unstarted other reason =>
    obtain ⟨rfl, rfl⟩ : other = who ∧ .unstarted reason = b := by simpa [endOf?] using h
    exact .inr ⟨reason, rfl, rfl⟩
  | _ => cases h

/-- What happens to one collaborator is not the end of another. -/
theorem Event.endOf?_of_ne {b : Behaviour} {other : Nat} (noticed : e.endOf? who = some b)
    (ne : other ≠ who) : e.endOf? other = none := by
  obtain ⟨_, _, rfl, -⟩ | ⟨_, rfl, -⟩ := cases_of_endOf? noticed
  · exact if_neg ne.symm
  · exact if_neg ne.symm

theorem seen_concat (es : List Event) (e : Event) (who : Nat) :
    seen (es ++ [e]) who = (seen es who).or (e.endOf? who) := by
  simp [seen, List.findSome?_append]

theorem seen_concat_of_none (h : e.endOf? who = none) : seen (es ++ [e]) who = seen es who := by
  rw [seen_concat, h, Option.or_none]

theorem behaviourOf_concat_of_none (h : e.endOf? who = none) :
    behaviourOf (es ++ [e]) who = behaviourOf es who := by
  rw [behaviourOf, behaviourOf, seen_concat_of_none h]

theorem behaviourOf_concat {b : Behaviour} (unheard : seen es who = none)
    (noticed : e.endOf? who = some b) : behaviourOf (es ++ [e]) who = b := by
  rw [behaviourOf, seen_concat, unheard, noticed]
  rfl

theorem observed_concat (kind : FindingKind) :
    observed (kinds ++ [kind]) es = observed kinds es ++ [⟨kind, behaviourOf es kinds.length⟩] :=
  List.mapIdx_concat

/-- A collection depends on collaborators through what is received from them. -/
theorem add_congr {b b' : Behaviour} (c : Collection) (kind : FindingKind)
    (h : b.received deadline = b'.received deadline) :
    c.add deadline ⟨kind, b⟩ = c.add deadline ⟨kind, b'⟩ := by
  unfold Collection.add Collaborator.contribution
  rw [h]

theorem run_observed_congr
    (h : ∀ who < kinds.length,
      (behaviourOf es who).received deadline = (behaviourOf es' who).received deadline) :
    Collection.run deadline (observed kinds es) = Collection.run deadline (observed kinds es') := by
  induction kinds using List.reverseRecOn with
  | nil => rfl
  | append_singleton kinds kind ih =>
    rw [List.length_append, List.length_singleton] at h
    have earlier := ih fun who lt => h who (Nat.lt_succ_of_lt lt)
    rw [observed_concat, observed_concat, Collection.run_concat, Collection.run_concat, earlier,
      add_congr _ kind (h _ (Nat.lt_succ_self _))]

/-- What comes too late is not received, whatever it is. -/
theorem received_late {after : Nat} (late : deadline < after) (parting : Parting) :
    (parting.behaviour after).received deadline = Behaviour.hangs.received deadline := by
  have notInTime : ¬ after ≤ deadline := Nat.not_le.2 late
  funext kind
  cases parting <;> simp [Parting.behaviour, Behaviour.received, notInTime]

/-! ## What a run keeps -/

/-- What is known after some events. -/
structure Tracked (deadline : Nat) (kinds : List FindingKind) (es : List Event) (s : Exchange) :
    Prop where
  /-- Collaborators that have not been asked do not work. -/
  idle : ∀ who, ¬ s.Asked who → s.worker who = .idle
  /-- A collaborator that is no longer waited for has been heard of, or its time is up. -/
  settled : ∀ who < s.turn, s.worker who = .ended ∨ deadline < s.elapsed who
  /-- Nothing was noticed of those whose end is not known. -/
  unheard : ∀ who, s.worker who ≠ .ended → seen es who = none
  /-- Each end is noticed once. -/
  heard : ∀ e ∈ es, ∀ who b, e.endOf? who = some b → seen es who = some b
  /-- Nothing has been received from those still to be settled. -/
  pending : ∀ who, s.turn ≤ who →
    (behaviourOf es who).received deadline = Behaviour.hangs.received deadline
  /-- What was collected comes from those that are settled, as they were seen to behave. -/
  collected : s.collection = Collection.run deadline (observed (kinds.take s.turn) es)

theorem tracked_start : Tracked deadline kinds [] {} where
  idle _ _ := rfl
  settled _ lt := absurd lt (Nat.not_lt_zero _)
  unheard _ _ := rfl
  heard _ mem := absurd mem List.not_mem_nil
  pending _ _ := rfl
  collected := by
    rw [List.take_zero]
    rfl

namespace Tracked

/-- What is noticed of those that were not heard of before is noticed once. -/
theorem heard_concat (h : Tracked deadline kinds es s)
    (fresh : ∀ who, seen es who = none ∨ e.endOf? who = none) :
    ∀ e' ∈ es ++ [e], ∀ who b, e'.endOf? who = some b → seen (es ++ [e]) who = some b := by
  intro e' mem who b noticed
  rw [seen_concat]
  obtain before | now := List.mem_append.1 mem
  · rw [h.heard e' before who b noticed, Option.some_or]
  · obtain rfl := List.mem_singleton.1 now
    obtain unheard | nothing := fresh who
    · rw [unheard, noticed, Option.none_or]
    · rw [noticed] at nothing
      cases nothing

/-- A worker that has left had been asked, and if nobody listens to it any more it is late. -/
theorem late_of_left (h : Tracked deadline kinds es s) {parting : Parting}
    (flies : s.worker who = .left parting) (deaf : ¬ s.Listens deadline who) :
    deadline < s.elapsed who := by
  have asked : s.Asked who := by
    by_contra unasked
    rw [h.idle who unasked] at flies
    cases flies
  obtain before | ⟨now, waits⟩ := asked
  · obtain ended | late := h.settled who before
    · rw [ended] at flies
      cases flies
    · exact late
  · exact Nat.not_le.1 fun inTime => deaf ⟨waits, now.symm, inTime⟩

/-- An event that is no arrival leaves what was seen as it is. -/
theorem quiet (h : Tracked deadline kinds es s) (nothing : ∀ who, e.endOf? who = none)
    (turn : s'.turn = s.turn) (collection : s'.collection = s.collection)
    (idle : ∀ who, ¬ s'.Asked who → s'.worker who = .idle)
    (settled : ∀ who < s'.turn, s'.worker who = .ended ∨ deadline < s'.elapsed who)
    (ended : ∀ who, s.worker who = .ended → s'.worker who = .ended) :
    Tracked deadline kinds (es ++ [e]) s' := by
  have same : seen (es ++ [e]) = seen es := funext fun who => seen_concat_of_none (nothing who)
  refine ⟨idle, settled, ?_, h.heard_concat fun who => .inr (nothing who), ?_, ?_⟩
  · intro who known
    rw [same]
    exact h.unheard who fun before => known (ended who before)
  · intro who unsettled
    rw [behaviourOf_concat_of_none (nothing who), h.pending who (turn ▸ unsettled)]
  · rw [collection, h.collected, turn]
    exact run_observed_congr fun who _ => by rw [behaviourOf_concat_of_none (nothing who)]

end Tracked

theorem setWorker_worker_of_ne {worker : Worker} {other : Nat} (ne : other ≠ who) :
    (s.setWorker who worker).worker other = s.worker other := Function.update_of_ne ne ..

theorem ended_setWorker {worker : Worker} {other : Nat} (left : s.worker who ≠ .ended)
    (ended : s.worker other = .ended) : (s.setWorker who worker).worker other = .ended := by
  have ne : other ≠ who := by
    rintro rfl
    exact left ended
  rw [setWorker_worker_of_ne ne, ended]

/-- One more collaborator is settled. -/
theorem run_observed_take {kind : FindingKind} {n : Nat} (place : kinds[n]? = some kind) :
    Collection.run deadline (observed (kinds.take (n + 1)) es) =
      (Collection.run deadline (observed (kinds.take n) es)).add deadline
        ⟨kind, behaviourOf es n⟩ := by
  obtain ⟨inside, -⟩ := List.getElem?_eq_some_iff.1 place
  have length : (kinds.take n).length = n := by
    rw [List.length_take]
    exact Nat.min_eq_left (Nat.le_of_lt inside)
  rw [List.take_add_one, place, Option.toList_some, observed_concat, Collection.run_concat, length]

/-- Who is still to be asked after a turn comes later. -/
theorem turn_lt_of_settle {c : Collaborator} (unasked : ¬ (s.settle deadline c).Asked who) :
    s.turn < who := Nat.not_le.1 fun le => unasked (.inl (Nat.lt_succ_of_le le))

namespace Tracked

/-- Setting the worker of one that is not idle leaves the idle ones idle. -/
theorem idle_setWorker (h : Tracked deadline kinds es s) {worker : Worker}
    (busy : s.worker who ≠ .idle) (other : Nat) (unasked : ¬ s.Asked other) :
    (s.setWorker who worker).worker other = .idle := by
  have idle := h.idle other unasked
  rw [setWorker_worker_of_ne (by rintro rfl; exact busy idle), idle]

theorem unheard_ended (h : Tracked deadline kinds es s) {b : Behaviour}
    (noticed : e.endOf? who = some b) (other : Nat)
    (known : (s.setWorker who .ended).worker other ≠ .ended) : seen (es ++ [e]) other = none := by
  have ne : other ≠ who := by
    rintro rfl
    exact known (Function.update_self ..)
  rw [setWorker_worker_of_ne ne] at known
  rw [seen_concat_of_none (Event.endOf?_of_ne noticed ne), h.unheard other known]

theorem heard_ended (h : Tracked deadline kinds es s) {b : Behaviour}
    (unheard : seen es who = none) (noticed : e.endOf? who = some b) :
    ∀ e' ∈ es ++ [e], ∀ other b', e'.endOf? other = some b' →
      seen (es ++ [e]) other = some b' := by
  refine h.heard_concat fun other => ?_
  by_cases same : other = who
  · exact .inl (same ▸ unheard)
  · exact .inr (Event.endOf?_of_ne noticed same)

/-- The collaborator whose turn it was is settled as it was seen to behave, if nothing else that was
received changes. -/
theorem collected_settle (h : Tracked deadline kinds es s) {kind : FindingKind} {b : Behaviour}
    (place : kinds[s.turn]? = some kind)
    (now : (behaviourOf es' s.turn).received deadline = b.received deadline)
    (before : ∀ who < s.turn,
      (behaviourOf es' who).received deadline = (behaviourOf es who).received deadline) :
    s.collection.add deadline ⟨kind, b⟩ =
      Collection.run deadline (observed (kinds.take (s.turn + 1)) es') := by
  have earlier : Collection.run deadline (observed (kinds.take s.turn) es') = s.collection := by
    rw [h.collected]
    refine run_observed_congr fun who lt => before who ?_
    exact Nat.lt_of_lt_of_le lt (List.length_take_le ..)
  rw [run_observed_take place, earlier, add_congr _ kind now]

theorem ticks (h : Tracked deadline kinds es s) :
    Tracked deadline kinds (es ++ [.ticks]) { s with clock := s.clock + 1 } := by
  refine h.quiet (fun _ => rfl) rfl rfl h.idle (fun who before => ?_) fun _ ended => ended
  refine (h.settled who before).imp_right fun late => Nat.lt_of_lt_of_le late ?_
  exact Nat.sub_le_sub_right (Nat.le_succ _) _

theorem asks (h : Tracked deadline kinds es s) (free : s.waiting = false) :
    Tracked deadline kinds (es ++ [.asks s.turn]) s.ask := by
  have idle := h.idle s.turn (by simp [Asked, free])
  have ended (other : Nat) (ended : s.worker other = .ended) : s.ask.worker other = .ended :=
    ended_setWorker (by rw [idle]; nofun) ended
  refine h.quiet (fun _ => rfl) rfl rfl ?_ ?_ ended
  · intro who unasked
    have ne : who ≠ s.turn := fun same => unasked (.inr ⟨same, rfl⟩)
    have before : ¬ s.Asked who := fun asked => unasked (asked.imp_right fun now => ⟨now.1, rfl⟩)
    exact (setWorker_worker_of_ne ne).trans (h.idle who before)
  · intro who before
    have ne : who ≠ s.turn := Nat.ne_of_lt before
    have since : s.ask.elapsed who = s.elapsed who := by
      simp only [elapsed, ask, setWorker]
      rw [Function.update_of_ne ne]
    rw [since]
    exact (h.settled who before).imp_left (ended who)

theorem leaves (h : Tracked deadline kinds es s) (works : s.worker who = .working)
    (parting : Parting) :
    Tracked deadline kinds (es ++ [.leaves who parting]) (s.setWorker who (.left parting)) := by
  have ended (other : Nat) (ended : s.worker other = .ended) :
      (s.setWorker who (.left parting)).worker other = .ended :=
    ended_setWorker (by rw [works]; nofun) ended
  refine h.quiet (fun _ => rfl) rfl rfl (h.idle_setWorker (by rw [works]; nofun)) ?_ ended
  exact fun other before => (h.settled other before).imp_left (ended other)

theorem idle_of_turn_lt (h : Tracked deadline kinds es s) (later : s.turn < who) :
    s.worker who = .idle := by
  refine h.idle who ?_
  rintro (before | ⟨now, -⟩)
  · exact Nat.lt_asymm before later
  · exact Nat.ne_of_gt later now

/-- The end of the worker whose turn it is settles its collaborator. -/
theorem ended (h : Tracked deadline kinds es s) {kind : FindingKind} {b : Behaviour}
    (place : kinds[s.turn]? = some kind) (unheard : seen es s.turn = none)
    (noticed : e.endOf? s.turn = some b) :
    Tracked deadline kinds (es ++ [e])
      ((s.setWorker s.turn .ended).settle deadline ⟨kind, b⟩) := by
  have others {who : Nat} (ne : who ≠ s.turn) : behaviourOf (es ++ [e]) who = behaviourOf es who :=
    behaviourOf_concat_of_none (Event.endOf?_of_ne noticed ne)
  refine ⟨?_, ?_, h.unheard_ended noticed, h.heard_ended unheard noticed, ?_, ?_⟩
  · intro who unasked
    have later := turn_lt_of_settle unasked
    exact (setWorker_worker_of_ne (Nat.ne_of_gt later)).trans (h.idle_of_turn_lt later)
  · intro who before
    obtain earlier | rfl := Nat.lt_or_eq_of_le (Nat.le_of_lt_succ before)
    · exact (h.settled who earlier).imp_left
        (setWorker_worker_of_ne (Nat.ne_of_lt earlier)).trans
    · exact .inl (Function.update_self ..)
  · intro who unsettled
    rw [others (Nat.ne_of_gt unsettled)]
    exact h.pending who (Nat.le_of_lt unsettled)
  · refine h.collected_settle place ?_ fun who before => ?_
    · rw [behaviourOf_concat unheard noticed]
    · rw [others (Nat.ne_of_lt before)]

theorem received (h : Tracked deadline kinds es s) {parting : Parting} {kind : FindingKind}
    (flies : s.worker s.turn = .left parting) (place : kinds[s.turn]? = some kind) (after : Nat) :
    Tracked deadline kinds (es ++ [.arrives s.turn after parting])
      ((s.setWorker s.turn .ended).settle deadline ⟨kind, parting.behaviour after⟩) :=
  h.ended place (h.unheard s.turn (by rw [flies]; nofun)) (Event.endOf?_arrives ..)

theorem unstarted (h : Tracked deadline kinds es s) {kind : FindingKind} (free : s.waiting = false)
    (place : kinds[s.turn]? = some kind) (reason : String) :
    Tracked deadline kinds (es ++ [.unstarted s.turn reason])
      ((s.setWorker s.turn .ended).settle deadline ⟨kind, .unstarted reason⟩) := by
  have idle := h.idle s.turn (by simp [Asked, free])
  exact h.ended place (h.unheard s.turn (by rw [idle]; nofun)) (if_pos rfl)

theorem lost (h : Tracked deadline kinds es s) {parting : Parting}
    (flies : s.worker who = .left parting) (deaf : ¬ s.Listens deadline who) :
    Tracked deadline kinds (es ++ [.arrives who (s.elapsed who) parting])
      (s.setWorker who .ended) := by
  have unheard := h.unheard who (by rw [flies]; nofun)
  have late := h.late_of_left flies deaf
  have noticed := Event.endOf?_arrives who (s.elapsed who) parting
  have same (other : Nat) :
      (behaviourOf (es ++ [.arrives who (s.elapsed who) parting]) other).received deadline =
        (behaviourOf es other).received deadline := by
    by_cases ne : other = who
    · subst ne
      rw [behaviourOf_concat unheard noticed, received_late late, behaviourOf, unheard]
      rfl
    · rw [behaviourOf_concat_of_none (Event.endOf?_of_ne noticed ne)]
  refine ⟨h.idle_setWorker (by rw [flies]; nofun), ?_, h.unheard_ended noticed,
    h.heard_ended unheard noticed, ?_, ?_⟩
  · intro other before
    exact (h.settled other before).imp_left (ended_setWorker (by rw [flies]; nofun))
  · intro other unsettled
    rw [same, h.pending other unsettled]
  · refine h.collected.trans (run_observed_congr fun other _ => ?_)
    rw [same]

theorem expires (h : Tracked deadline kinds es s) {kind : FindingKind}
    (late : deadline < s.elapsed s.turn) (place : kinds[s.turn]? = some kind) :
    Tracked deadline kinds (es ++ [.expires s.turn]) (s.settle deadline ⟨kind, .hangs⟩) := by
  have same (who : Nat) : behaviourOf (es ++ [.expires s.turn]) who = behaviourOf es who :=
    behaviourOf_concat_of_none rfl
  refine ⟨fun who unasked => h.idle_of_turn_lt (turn_lt_of_settle unasked), ?_, ?_,
    h.heard_concat fun _ => .inr rfl, ?_, ?_⟩
  · intro who before
    obtain earlier | rfl := Nat.lt_or_eq_of_le (Nat.le_of_lt_succ before)
    · exact h.settled who earlier
    · exact .inr late
  · exact fun who known => (seen_concat_of_none rfl).trans (h.unheard who known)
  · intro who unsettled
    rw [same, h.pending who (Nat.le_of_lt unsettled)]
  · show s.collection.add deadline ⟨kind, .hangs⟩ = _
    refine h.collected_settle place ?_ fun who _ => ?_
    · rw [same, h.pending s.turn (Nat.le_refl _)]
    · rw [same]

end Tracked

/-- What may happen next keeps what is known. -/
theorem tracked_step (h : Tracked deadline kinds es s) (step : Step deadline kinds s e s') :
    Tracked deadline kinds (es ++ [e]) s' := by
  cases step with
  | ticks => exact h.ticks
  | asks free => exact h.asks free
  | leaves works parting => exact h.leaves works parting
  | received flies listens place =>
    obtain ⟨-, rfl, -⟩ := listens
    exact h.received flies place _
  | lost flies deaf => exact h.lost flies deaf
  | expires _ late place => exact h.expires late place
  | unstarted free place reason => exact h.unstarted free place reason

theorem tracked_run (run : Run deadline kinds es s) : Tracked deadline kinds es s := by
  induction run with
  | start => exact tracked_start
  | next _ step ih => exact tracked_step ih step

/-! ## What is collected -/

theorem map_kind_observed : (observed kinds es).map Collaborator.kind = kinds := by
  refine List.ext_getElem? fun who => ?_
  rw [List.getElem?_map, observed, List.getElem?_mapIdx, Option.map_map]
  exact congrFun Option.map_id kinds[who]?

theorem Step.append (step : Step deadline kinds s e s') (more : List FindingKind) :
    Step deadline (kinds ++ more) s e s' := by
  have place {who : Nat} {kind : FindingKind} (h : kinds[who]? = some kind) :
      (kinds ++ more)[who]? = some kind := by
    rw [List.getElem?_append_left (List.getElem?_eq_some_iff.1 h).1, h]
  cases step with
  | ticks => exact .ticks s
  | asks free lt => exact .asks free (Nat.lt_of_lt_of_le lt (by simp))
  | leaves works parting => exact .leaves works parting
  | received flies listens there => exact .received flies listens (place there)
  | lost flies deaf => exact .lost flies deaf
  | expires waits late there => exact .expires waits late (place there)
  | unstarted free there reason => exact .unstarted free (place there) reason

theorem Run.append (run : Run deadline kinds es s) (more : List FindingKind) :
    Run deadline (kinds ++ more) es s := by
  induction run with
  | start => exact .start
  | next _ step ih => exact ih.next (step.append more)

/-- Time may pass while nothing else happens. -/
theorem Run.wait (run : Run deadline kinds es s) (n : Nat) :
    ∃ es', Run deadline kinds es' { s with clock := s.clock + n } := by
  induction n with
  | zero => exact ⟨es, run⟩
  | succ n ih =>
    obtain ⟨_, run⟩ := ih
    exact ⟨_, run.next (.ticks _)⟩

/-- Whoever is waited for can be given up. -/
theorem Run.giveUp {kind : FindingKind} (run : Run deadline kinds es s) (waits : s.waiting = true)
    (since : s.askedAt s.turn = s.clock) (place : kinds[s.turn]? = some kind) :
    ∃ es' s', Run deadline kinds es' s' ∧ s'.turn = s.turn + 1 ∧ s'.waiting = false ∧
      s'.collection = s.collection.add deadline ⟨kind, .hangs⟩ := by
  obtain ⟨_, waited⟩ := run.wait (deadline + 1)
  have late : deadline < { s with clock := s.clock + (deadline + 1) }.elapsed s.turn := by
    simp only [elapsed, since]
    omega
  exact ⟨_, _, waited.next (.expires waits late place), rfl, rfl, rfl⟩

/-- Whoever is waited for can be heard of in time. -/
theorem Run.hear {kind : FindingKind} (run : Run deadline kinds es s) (waits : s.waiting = true)
    (since : s.askedAt s.turn = s.clock) (works : s.worker s.turn = .working)
    (place : kinds[s.turn]? = some kind) {after : Nat} (inTime : after ≤ deadline)
    (parting : Parting) :
    ∃ es' s', Run deadline kinds es' s' ∧ s'.turn = s.turn + 1 ∧ s'.waiting = false ∧
      s'.collection = s.collection.add deadline ⟨kind, parting.behaviour after⟩ := by
  obtain ⟨_, waited⟩ := run.wait after
  have passed : { s with clock := s.clock + after }.elapsed s.turn = after := by
    simp only [elapsed, since]
    omega
  have sent := waited.next
    (@Step.leaves deadline kinds { s with clock := s.clock + after } s.turn works parting)
  have received := sent.next (.received (Function.update_self ..)
    ⟨waits, rfl, Nat.le_trans (Nat.le_of_eq passed) inTime⟩ place)
  refine ⟨_, _, received, rfl, rfl, ?_⟩
  exact congrArg (fun time => s.collection.add deadline ⟨kind, parting.behaviour time⟩) passed

theorem received_cases (deadline : Nat) (b : Behaviour) :
    (∃ reason, .unstarted reason = b) ∨
      (∃ parting : Parting, ∃ after ≤ deadline, parting.behaviour after = b) ∨
      b.received deadline = Behaviour.hangs.received deadline := by
  cases b with
  | unstarted reason => exact .inl ⟨reason, rfl⟩
  | sends after message =>
    by_cases inTime : after ≤ deadline
    · exact .inr (.inl ⟨.sending message, after, inTime, rfl⟩)
    · exact .inr (.inr (received_late (Nat.not_le.1 inTime) (.sending message)))
  | exits after =>
    by_cases inTime : after ≤ deadline
    · exact .inr (.inl ⟨.silently, after, inTime, rfl⟩)
    · exact .inr (.inr (received_late (Nat.not_le.1 inTime) .silently))
  | hangs => exact .inr (.inr rfl)

/-- However collaborators behave, what is collected from them can be collected under some timing. -/
theorem exists_run (deadline : Nat) (cs : List Collaborator) :
    ∃ es s, Run deadline (cs.map Collaborator.kind) es s ∧
      s.Finished (cs.map Collaborator.kind) ∧ s.collection = Collection.run deadline cs := by
  induction cs using List.reverseRecOn with
  | nil => exact ⟨[], {}, .start, ⟨rfl, rfl⟩, rfl⟩
  | append_singleton cs c ih =>
    obtain ⟨es, s, run, ⟨turn, free⟩, collected⟩ := ih
    rw [List.map_append, List.map_singleton, Collection.run_concat, ← collected]
    have place : (cs.map Collaborator.kind ++ [c.kind])[s.turn]? = some c.kind := by
      rw [turn, List.getElem?_concat_length]
    have before := run.append [c.kind]
    have asked := before.next (.asks free (List.getElem?_eq_some_iff.1 place).1)
    have since : s.ask.askedAt s.turn = s.clock := Function.update_self ..
    obtain ⟨_, s', run', turn', free', collected'⟩ : ∃ es' s',
        Run deadline (cs.map Collaborator.kind ++ [c.kind]) es' s' ∧ s'.turn = s.turn + 1 ∧
          s'.waiting = false ∧ s'.collection = s.collection.add deadline c := by
      obtain ⟨reason, behaviour⟩ | ⟨parting, after, inTime, behaviour⟩ | timedOut :=
        received_cases deadline c.behaviour
      · have refused := before.next (.unstarted free place reason)
        rw [behaviour] at refused
        exact ⟨_, _, refused, rfl, rfl, rfl⟩
      · have works : s.ask.worker s.turn = .working := Function.update_self ..
        have heard := asked.hear rfl since works place inTime parting
        rwa [behaviour] at heard
      · have same : s.collection.add deadline ⟨c.kind, .hangs⟩ = s.collection.add deadline c :=
          add_congr _ c.kind timedOut.symm
        exact same ▸ asked.giveUp rfl since place
    refine ⟨_, s', run', ⟨?_, free'⟩, collected'⟩
    rw [turn', turn, List.length_append, List.length_singleton]

/-- What collaborators of some kinds come to under all timings is what is collected from all
collaborators of these kinds. -/
theorem collects_iff {c : Collection} :
    (∃ es s, Run deadline kinds es s ∧ s.Finished kinds ∧ s.collection = c) ↔
      ∃ cs, cs.map Collaborator.kind = kinds ∧ Collection.run deadline cs = c := by
  constructor
  · rintro ⟨es, s, run, finished, rfl⟩
    refine ⟨observed kinds es, map_kind_observed, ?_⟩
    rw [(tracked_run run).collected, finished.1, List.take_length]
  · rintro ⟨cs, rfl, rfl⟩
    exact exists_run deadline cs

end Exchange

end CodeAtlas
