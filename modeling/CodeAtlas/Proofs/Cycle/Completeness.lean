import CodeAtlas.Proofs.Cycle.Stack
import Mathlib.Logic.Relation

/-!
# No cycle is missed

A pair is open while no found cycle ends with it. Once an id is left, every walk along open pairs
from it comes to an end (`Grounded`): each successor was on the path, so that the pair closed a
cycle, or was left before, or was entered and left in between. After the search all ids were left,
so the open pairs have no cycle.

1. `Explored`: what holds of the ids that were left and of the successors that were tried.
2. `Explored.step`, `explored_whole`: every step keeps it, and so does the whole search.
3. `acyclic_kept`: without the pairs that end a cycle there is no cycle.
4. `exists_connected_cycle`: every component with a cycle has one that is found.
-/

namespace CodeAtlas

open Relation (TransGen ReflTransGen)

namespace Pairs

/-- Whether a pair of the relation is the last hop of no cycle that is found. -/
def Kept (pairs : Pairs) (x y : String) : Prop :=
  (x, y) ∈ pairs ∧ ∀ c ∈ cycles pairs, ¬ c.EndsWith x y

/-- Whether two ids lie in one strongly connected component. -/
def Connected (pairs : Pairs) (x y : String) : Prop :=
  ReflTransGen (fun a b => (a, b) ∈ pairs) x y ∧ ReflTransGen (fun a b => (a, b) ∈ pairs) y x

end Pairs

/-- Whether a relation has no cycle. -/
def Acyclic (rel : String → String → Prop) : Prop := ∀ x, ¬ TransGen rel x x

theorem not_rel_self_of_acc {rel : String → String → Prop} {x : String} (h : Acc rel x) :
    ¬ rel x x := by
  induction h with
  | intro x _ ih => exact fun hx => ih x hx hx

namespace Search

variable {pairs : Pairs}

/-! ## Open pairs -/

/-- Whether a pair is the last hop of no cycle found so far. -/
def Open (s : Search pairs) (x y : String) : Prop :=
  (x, y) ∈ pairs ∧ ∀ c ∈ s.found, ¬ c.EndsWith x y

/-- Whether every walk along open pairs from an id comes to an end. -/
def Grounded (s : Search pairs) (id : String) : Prop := Acc (fun y x => s.Open x y) id

theorem Grounded.mono {s t : Search pairs} (h : ∀ x y, t.Open x y → s.Open x y) {id : String}
    (hid : s.Grounded id) : t.Grounded id := by
  induction hid with
  | intro x _ ih => exact Acc.intro x fun y hy => ih y (h x y hy)

/-- Of each frame, deepest first: a successor is not yet tried, or is the one that is being explored
above the frame, or is grounded unless the pair closed a cycle. -/
def Settled (s : Search pairs) (pending : Option String) : List Frame → Prop
  | [] => True
  | frame :: below =>
    (∀ y ∈ Pairs.successors pairs frame.id,
      y ∈ frame.rest ∨ pending = some y ∨ (s.Open frame.id y → s.Grounded y)) ∧
    Settled s (some frame.id) below

theorem Settled.mono {s t : Search pairs} (h : ∀ x y, t.Open x y → s.Open x y)
    {frames : List Frame} {pending : Option String} (hs : Settled s pending frames) :
    Settled t pending frames := by
  induction frames generalizing pending with
  | nil => trivial
  | cons frame below ih =>
    refine ⟨fun y hy => ?_, ih hs.2⟩
    rcases hs.1 y hy with hr | hp | hg
    · exact Or.inl hr
    · exact Or.inr (Or.inl hp)
    · exact Or.inr (Or.inr fun ho => (hg (h _ _ ho)).mono h)

/-- The pending id is settled for the frame below it. -/
theorem Settled.settle {s : Search pairs} {frames : List Frame} {id : String}
    (hs : Settled s (some id) frames)
    (hid : ∀ frame ∈ frames.head?, s.Open frame.id id → s.Grounded id) :
    Settled s none frames := by
  cases frames with
  | nil => trivial
  | cons frame below =>
    refine ⟨fun y hy => ?_, hs.2⟩
    rcases hs.1 y hy with hr | hp | hg
    · exact Or.inl hr
    · obtain rfl := Option.some.inj hp
      exact Or.inr (Or.inr (hid frame rfl))
    · exact Or.inr (Or.inr hg)

/-! ## Explored ids -/

/-- What holds of the ids that were left and of the successors that were tried, but for the pending
one. -/
structure Explored (s : Search pairs) (pending : Option String) : Prop where
  left : ∀ id ∈ s.visited, id ∉ s.path → s.Grounded id
  tried : Settled s pending s.frames

theorem explored_start : Explored (start : Search pairs) none := by
  refine ⟨fun id h => ?_, trivial⟩
  exact absurd h Std.ExtTreeSet.not_mem_empty

section Steps

variable {s : Search pairs} {id next : String} {rest : List String} {below : List Frame}

theorem Explored.leave (h : Explored s none) (hs : Coherent s)
    (hf : s.frames = ⟨id, []⟩ :: below) : Explored (s.leave hf) none := by
  have tried := h.tried
  rw [hf] at tried
  have grounded : s.Grounded id := by
    refine Acc.intro id fun y hy => ?_
    rcases tried.1 y (Pairs.mem_successors.2 hy.1) with hr | hp | hg
    · cases hr
    · cases hp
    · exact hg hy
  have same : ∀ x y, (s.leave hf).Open x y → s.Open x y := fun x y ho => ho
  refine ⟨?_, ?_⟩
  · intro x hx off
    refine Grounded.mono same ?_
    by_cases he : x = id
    · rwa [he]
    · refine h.left x hx fun hm => off ?_
      rw [hs.path_of_frames hf, List.mem_cons] at hm
      show x ∈ s.path.tail
      rw [hs.path_of_frames hf]
      exact hm.resolve_left he
  · exact (tried.2.settle fun _ _ _ => grounded).mono same

theorem Explored.advance (h : Explored s none) (hf : s.frames = ⟨id, next :: rest⟩ :: below) :
    Explored (s.advance hf) (some next) := by
  have tried := h.tried
  rw [hf] at tried
  have same : ∀ x y, (s.advance hf).Open x y → s.Open x y := fun x y ho => ho
  refine ⟨fun x hx off => (h.left x hx off).mono same, ?_⟩
  refine Settled.mono same ⟨fun y hy => ?_, tried.2⟩
  rcases tried.1 y hy with hr | hp | hg
  · rcases List.mem_cons.1 hr with rfl | hr
    · exact Or.inr (Or.inl rfl)
    · exact Or.inl hr
  · cases hp
  · exact Or.inr (Or.inr hg)

theorem Explored.enter (h : Explored s (some id)) : Explored (s.enter id) none := by
  have same : ∀ x y, (s.enter id).Open x y → s.Open x y := fun x y ho => ho
  refine ⟨?_, ?_⟩
  · intro x hx off
    have hne : x ≠ id := fun he => off (by rw [he]; exact List.mem_cons_self ..)
    have hx := (mem_insert.1 hx).resolve_left hne
    exact (h.left x hx fun hm => off (List.mem_cons_of_mem _ hm)).mono same
  · exact ⟨fun y hy => Or.inl hy, h.tried.mono same⟩

/-- The three outcomes of an attempt settle the pending id: the pair to it closes a cycle, or it is
grounded, or it is the one that is explored next. -/
theorem Explored.attempt (h : Explored s (some id)) (hs : Coherent s) {deep : Frame}
    (hf : s.frames = deep :: below) : Explored (s.attempt id) none := by
  obtain ⟨-, c, closes, he⟩ | ⟨off, seen, he⟩ | ⟨-, he⟩ := hs.attempt_cases id
  · rw [he]
    have fewer : ∀ x y, Open { s with found := s.found.push c } x y → s.Open x y :=
      fun x y ho => ⟨ho.1, fun c' hc' => ho.2 c' (Array.mem_push_of_mem _ hc')⟩
    refine ⟨fun x hx off => (h.left x hx off).mono fewer, ?_⟩
    refine (h.tried.mono fewer).settle fun frame hfr ho => ?_
    have hd : deep = frame := by
      rw [hf] at hfr
      exact Option.some.inj hfr
    rw [hs.path_of_frames hf, hd] at closes
    exact absurd closes.endsWith (ho.2 c (Array.mem_push_self ..))
  · rw [he]
    exact ⟨h.left, h.tried.settle fun _ _ _ => h.left id seen off⟩
  · rw [he]
    exact h.enter

end Steps

theorem Explored.step {s t : Search pairs} (h : Explored s none) (hs : Coherent s)
    (ht : s.step? = some t) : Explored t none := by
  obtain ⟨id, below, hf, rfl⟩ | ⟨id, next, rest, below, hf, rfl⟩ := step_cases ht
  · exact h.leave hs hf
  · exact (h.advance hf).attempt (hs.advance hf) rfl

theorem Explored.enter_root {s : Search pairs} (h : Explored s none) (idle : s.frames = [])
    (root : String) : Explored (s.enter root) none := by
  refine Explored.enter ⟨h.left, ?_⟩
  rw [idle]
  trivial

theorem explored_whole (pairs : Pairs) : Explored (whole pairs) none := by
  have both : Coherent (whole pairs) ∧ Explored (whole pairs) none := by
    refine whole_induction (motive := fun s => Coherent s ∧ Explored s none)
      ⟨coherent_start, explored_start⟩ fun s root idle h => ?_
    refine explore_induction (motive := fun s => Coherent s ∧ Explored s none) ?_ ?_ h
    · exact fun new => ⟨h.1.enter_root idle new, h.2.enter_root idle root⟩
    · exact fun s t ht h => ⟨h.1.step ht, h.2.step h.1 ht⟩
  exact both.2

end Search

namespace Pairs

variable {pairs : Pairs}

theorem open_whole_iff (x y : String) : (Search.whole pairs).Open x y ↔ Kept pairs x y := by
  unfold Search.Open Kept
  simp only [mem_cycles]

/-- No walk along kept pairs comes back to its start. -/
theorem acyclic_kept (pairs : Pairs) : Acyclic (Kept pairs) := by
  intro x hx
  obtain ⟨y, hy, -⟩ := TransGen.head'_iff.1 hx
  have known : x ∈ ids pairs := mem_ids.2 ⟨(x, y), hy.1, Or.inl rfl⟩
  have idle : (Search.whole pairs).path = [] :=
    (Search.coherent_whole pairs).path_of_idle (Search.frames_whole pairs)
  have grounded : (Search.whole pairs).Grounded x :=
    (Search.explored_whole pairs).left x (Search.visited_whole known) (by rw [idle]; simp)
  have acc : Acc (fun b a => Kept pairs a b) x := by
    unfold Search.Grounded at grounded
    simpa only [open_whole_iff] using grounded
  exact not_rel_self_of_acc acc.transGen (Relation.transGen_swap.2 hx)

/-! ## Components -/

/-- On an elementary cycle every id reaches every id. -/
theorem transGen_of_isElementary {c : Cycle} (h : c.IsElementary pairs) {x y : String}
    (hx : x ∈ c.nodes) (hy : y ∈ c.nodes) : TransGen (fun a b => (a, b) ∈ pairs) x y := by
  obtain ⟨first, mid, hn⟩ := h.exists_eq
  have reach : c.nodes.Pairwise (TransGen fun a b => (a, b) ∈ pairs) :=
    (h.hops.imp fun _ _ hop => TransGen.single hop).pairwise
  rw [hn, List.pairwise_cons, List.pairwise_append] at reach
  obtain ⟨fromFirst, -, -, toLast⟩ := reach
  have toFirst : ∀ z ∈ mid, TransGen (fun a b => (a, b) ∈ pairs) z first :=
    fun z hz => toLast z hz first (by simp)
  have back : TransGen (fun a b => (a, b) ∈ pairs) first first := fromFirst first (by simp)
  rw [hn, List.mem_cons, List.mem_append, List.mem_singleton] at hx hy
  have left : TransGen (fun a b => (a, b) ∈ pairs) x first := by
    rcases hx with rfl | hx | rfl
    · exact back
    · exact toFirst x hx
    · exact back
  have right : TransGen (fun a b => (a, b) ∈ pairs) first y := by
    rcases hy with rfl | hy | rfl
    · exact back
    · exact fromFirst y (by simp [hy])
    · exact back
  exact left.trans right

/-- A pair that ends a cycle lies in the component of that cycle. -/
theorem connected_of_endsWith {c : Cycle} (h : c.IsElementary pairs) {a b x y : String}
    (ends : c.EndsWith a b) (ha : ReflTransGen (fun a b => (a, b) ∈ pairs) x a)
    (hb : ReflTransGen (fun a b => (a, b) ∈ pairs) b x) (hy : y ∈ c.nodes) :
    Connected pairs x y := by
  have memA : a ∈ c.nodes := ends.subset (by simp)
  have memB : b ∈ c.nodes := ends.subset (by simp)
  exact ⟨ha.trans (transGen_of_isElementary h memA hy).to_reflTransGen,
    (transGen_of_isElementary h hy memB).to_reflTransGen.trans hb⟩

/-- Every component with a cycle has all ids of a cycle that is found: otherwise all of its pairs
would be kept. -/
theorem exists_connected_cycle {x : String} (hx : TransGen (fun a b => (a, b) ∈ pairs) x x) :
    ∃ c ∈ cycles pairs, c.nodes ≠ [] ∧ ∀ y ∈ c.nodes, Connected pairs x y := by
  by_contra none
  have kept : ∀ a b, (a, b) ∈ pairs → ReflTransGen (fun a b => (a, b) ∈ pairs) x a →
      ReflTransGen (fun a b => (a, b) ∈ pairs) b x → Kept pairs a b := by
    intro a b hab ha hb
    refine ⟨hab, fun c hc ends => none ⟨c, hc, ?_, fun y hy => ?_⟩⟩
    · exact List.ne_nil_of_mem (ends.subset (List.mem_cons_self ..))
    · exact connected_of_endsWith (isElementary_of_mem_cycles hc) ends ha hb hy
  -- a way back is carried along, since only the pairs of a closed walk are kept
  have walk : ∀ y, TransGen (fun a b => (a, b) ∈ pairs) x y →
      ReflTransGen (fun a b => (a, b) ∈ pairs) y x → TransGen (Kept pairs) x y := by
    intro y hy
    induction hy with
    | single hop => exact fun back => TransGen.single (kept _ _ hop .refl back)
    | tail before hop ih =>
      intro back
      exact (ih (back.head hop)).tail (kept _ _ hop before.to_reflTransGen back)
  exact acyclic_kept pairs x (walk x hx .refl)

/-- Nothing is found exactly if there is no cycle. -/
theorem cycles_eq_nil_iff (pairs : Pairs) :
    cycles pairs = [] ↔ Acyclic fun x y => (x, y) ∈ pairs := by
  constructor
  · intro h x hx
    have all : ∀ a b, (a, b) ∈ pairs → Kept pairs a b := by
      refine fun a b hab => ⟨hab, fun c hc => ?_⟩
      rw [h] at hc
      cases hc
    exact acyclic_kept pairs x (TransGen.mono all x x hx)
  · intro h
    refine List.eq_nil_iff_forall_not_mem.2 fun c hc => ?_
    have elementary := isElementary_of_mem_cycles hc
    obtain ⟨first, mid, hn⟩ := elementary.exists_eq
    have mem : first ∈ c.nodes := by rw [hn]; exact List.mem_cons_self ..
    exact h first (transGen_of_isElementary elementary mem mem)

/-- **Completeness.** Without the pairs that are the last hop of a cycle that is found, no cycle is
left. So nothing is found exactly if there is no cycle, and every strongly connected component with
a cycle has all ids of one that is found. -/
theorem cycles_complete (pairs : Pairs) :
    Acyclic (Kept pairs) ∧
    (cycles pairs = [] ↔ Acyclic fun x y => (x, y) ∈ pairs) ∧
    ∀ x, TransGen (fun a b => (a, b) ∈ pairs) x x →
      ∃ c ∈ cycles pairs, c.nodes ≠ [] ∧ ∀ y ∈ c.nodes, Connected pairs x y :=
  ⟨acyclic_kept pairs, cycles_eq_nil_iff pairs, fun _ hx => exists_connected_cycle hx⟩

/-- Two ids on a cycle behind an entry that lies on none. -/
theorem cycles_complete_entry :
    TransGen (fun a b => (a, b) ∈ ([("e", "a"), ("a", "b"), ("b", "a")] : Pairs)) "a" "a" ∧
    ∃ c ∈ cycles [("e", "a"), ("a", "b"), ("b", "a")], c.nodes ≠ [] ∧
      ∀ y ∈ c.nodes, Connected [("e", "a"), ("a", "b"), ("b", "a")] "a" y := by
  have loop : TransGen (fun a b => (a, b) ∈ ([("e", "a"), ("a", "b"), ("b", "a")] : Pairs)) "a" "a" :=
    TransGen.head (b := "b") (by simp) (TransGen.single (by simp))
  exact ⟨loop, (cycles_complete _).2.2 "a" loop⟩

end Pairs

end CodeAtlas
