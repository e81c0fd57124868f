import CodeAtlas.Graph.Chain
import CodeAtlas.Proofs.Graph.Distance
import CodeAtlas.Proofs.Graph.HeapOrder

/-!
# Shortest chains of imports

A search for a chain takes the nearest open id and opens what it imports. Since every import is one
step long, the ids are closed in order of their distance: what is open is at most one step further
away than the id that is looked at, so an id that is reached for the first time is reached on a
shortest way.

1. `Leads`: a list of ids along edges of a kind, and the walk that it stands for.
2. `Charts`: what a search knows. `Charts.visit`, `Charts.pop` and `Charts.step` say that each move
   keeps it.
3. `Charts.wayTo`: the ids before each other lead back to the start.
4. `Charts.settles`: what the search comes to.
-/

namespace CodeAtlas

open Relation (TransGen)

namespace Graph

variable {g : Graph} {kind : EdgeKind} {x y : String} {ids : List String}

/-- Whether a list of ids leads from `x` to `y`, each id joined to the next by an edge of a kind. -/
structure Leads (g : Graph) (kind : EdgeKind) (x y : String) (ids : List String) : Prop where
  head : ids.head? = some x
  last : ids.getLast? = some y
  joins : ids.IsChain (g.Joins kind)

theorem leads_singleton (g : Graph) (kind : EdgeKind) (x : String) : Leads g kind x x [x] :=
  ⟨rfl, rfl, List.isChain_singleton x⟩

/-- A list of ids that leads to `y` may be continued by an edge that leaves `y`. -/
theorem Leads.concat {z : String} (h : Leads g kind x y ids) (joins : g.Joins kind y z) :
    Leads g kind x z (ids ++ [z]) := by
  refine ⟨?_, List.getLast?_concat, ?_⟩
  · rw [List.head?_append, h.head]
    rfl
  · rw [List.isChain_append]
    refine ⟨h.joins, List.isChain_singleton z, fun w hw v hv => ?_⟩
    rw [h.last] at hw
    obtain rfl := Option.some.inj hw
    obtain rfl := Option.some.inj hv
    exact joins

/-- A list of ids stands for a walk with an edge less than there are ids. -/
theorem Leads.walk (h : Leads g kind x y ids) : ∃ n, ids.length = n + 1 ∧ Walk g kind x n y := by
  induction ids using List.reverseRecOn generalizing y with
  | nil => cases h.head
  | append_singleton front z ih =>
    obtain rfl : z = y := by simpa using h.last
    obtain ⟨chain, -, link⟩ := List.isChain_append.1 h.joins
    rcases List.eq_nil_or_concat front with rfl | ⟨init, w, rfl⟩
    · obtain rfl : z = x := by simpa using h.head
      exact ⟨0, rfl, .here⟩
    · rw [List.concat_eq_append] at *
      have last : (init ++ [w]).getLast? = some w := List.getLast?_concat
      have head : (init ++ [w]).head? = some x := by
        have := h.head
        rw [List.head?_append] at this
        cases init <;> simpa using this
      obtain ⟨n, hn, walk⟩ := ih ⟨head, last, chain⟩
      refine ⟨n + 1, ?_, .edge walk (link w last z rfl)⟩
      rw [List.length_append, hn]
      rfl

end Graph

namespace ChainSearch

open CodeAtlas.Graph (Walk IsDistance Leads)

/-! ## What a search knows -/

/-- The open ids of a search. -/
def openIds (s : ChainSearch) : List String := s.frontier.items.map Prod.snd

/-- Whether an id was reached at a distance from another id. -/
def Reaches (s : ChainSearch) (id : String) (n : Nat) (previous : Option String) : Prop :=
  s.reached[id]? = some ⟨n, previous⟩

/-- The search with one more id reached, from an id at a distance, and open. -/
def discover (s : ChainSearch) (d : Nat) (id next : String) : ChainSearch :=
  ⟨s.reached.insert next ⟨d + 1, some id⟩, s.frontier.push (d + 1) next⟩

/-- What a search from `source` for `goal` knows when all open ids are at distance `d` at least. One
id may be pending: it is at distance `d`, no longer open, and not all that it imports is reached. -/
structure Charts (g : Graph) (source goal : String) (pending : Option String) (d : Nat)
    (s : ChainSearch) : Prop where
  ordered : Heap.Ordered s.frontier.entries
  nodup : s.openIds.Nodup
  origin : s.Reaches source 0 none
  open_reached : ∀ n id, (n, id) ∈ s.frontier.items → ∃ p, s.Reaches id n p
  le_open : ∀ n id, (n, id) ∈ s.frontier.items → d ≤ n
  reached_le : ∀ id n p, s.Reaches id n p → n ≤ d + 1
  shortest : ∀ id n p, s.Reaches id n p → IsDistance g .imports source id n
  previous : ∀ id n p, s.Reaches id (n + 1) p →
    ∃ before q, p = some before ∧ s.Reaches before n q ∧ g.Joins .imports before id
  pending_reached : ∀ id, pending = some id → ∃ p, s.Reaches id d p
  pending_closed : ∀ id, pending = some id → id ∉ s.openIds
  /-- A closed id is not the goal, and what it imports is reached. -/
  closed : ∀ id ∈ s.reached, pending ≠ some id → id ∉ s.openIds →
    id ≠ goal ∧ ∀ next, g.Joins .imports id next → next ∈ s.reached

variable {g : Graph} {source goal id next : String} {pending : Option String} {d : Nat}
  {s : ChainSearch}

theorem mem_reached_iff : id ∈ s.reached ↔ ∃ n p, s.Reaches id n p := by
  rw [Std.ExtTreeMap.mem_iff_isSome_getElem?, Option.isSome_iff_exists]
  constructor
  · rintro ⟨⟨n, p⟩, h⟩
    exact ⟨n, p, h⟩
  · rintro ⟨n, p, h⟩
    exact ⟨_, h⟩

theorem Reaches.unique {n m : Nat} {p q : Option String} (h : s.Reaches id n p)
    (h' : s.Reaches id m q) : n = m ∧ p = q :=
  Step.mk.inj (Option.some.inj (Eq.trans (Eq.symm h) h'))

theorem visit_of_mem (h : next ∈ s.reached) : visit d id s next = s := if_pos h

theorem visit_of_not_mem (h : next ∉ s.reached) : visit d id s next = s.discover d id next :=
  if_neg h

/-- At the start only the source is reached, and it is open. -/
theorem charts_start (g : Graph) (source goal : String) :
    Charts g source goal none 0 (start source) := by
  have reaches : ∀ id n p, (start source).Reaches id n p ↔ id = source ∧ n = 0 ∧ p = none := by
    intro id n p
    unfold Reaches start
    rw [getElem?_insert_eq]
    by_cases same : source = id
    · simp [same, eq_comm]
    · simp [same, Ne.symm same]
  have items : (start source).frontier.items = [(0, source)] :=
    List.perm_singleton.1 (Heap.items_push Heap.empty 0 source)
  refine
    { ordered := ?_
      nodup := ?_
      origin := (reaches source 0 none).2 ⟨rfl, rfl, rfl⟩
      open_reached := ?_
      le_open := fun n _ _ => Nat.zero_le n
      reached_le := ?_
      shortest := ?_
      previous := ?_
      pending_reached := nofun
      pending_closed := nofun
      closed := ?_ }
  · exact Heap.ordered_empty.push 0 source
  · rw [openIds, items]
    exact List.nodup_singleton source
  · intro n id h
    rw [items] at h
    obtain ⟨rfl, rfl⟩ := Prod.mk.inj (List.mem_singleton.1 h)
    exact ⟨none, (reaches id 0 none).2 ⟨rfl, rfl, rfl⟩⟩
  · intro id n p h
    obtain ⟨-, rfl, -⟩ := (reaches id n p).1 h
    exact Nat.zero_le _
  · intro id n p h
    obtain ⟨rfl, rfl, -⟩ := (reaches id n p).1 h
    exact Graph.isDistance_zero_iff.2 rfl
  · intro id n p h
    cases ((reaches id _ p).1 h).2.1
  · intro id h _ hopen
    obtain ⟨n, p, hid⟩ := mem_reached_iff.1 h
    rw [((reaches id n p).1 hid).1, openIds, items] at hopen
    exact absurd (List.mem_singleton.2 rfl) hopen

/-- An open id is at distance `d` at least. -/
theorem Charts.le_of_mem_openIds (h : Charts g source goal pending d s) (hopen : id ∈ s.openIds)
    {n : Nat} {p : Option String} (hid : s.Reaches id n p) : d ≤ n := by
  obtain ⟨⟨m, _⟩, he, rfl⟩ := List.mem_map.1 hopen
  obtain ⟨q, hq⟩ := h.open_reached m _ he
  rw [(hid.unique hq).1]
  exact h.le_open m _ he

/-- Every id up to distance `d` is reached: the one before it on a walk is nearer, so it is closed. -/
theorem Charts.mem_reached (h : Charts g source goal pending d s) {n : Nat}
    (walk : Walk g .imports source n id) (near : n ≤ d) : id ∈ s.reached := by
  induction walk with
  | here => exact mem_reached_iff.2 ⟨_, _, h.origin⟩
  | @edge n y z walk joins ih =>
    have reached := ih (Nat.le_of_succ_le near)
    obtain ⟨m, p, hy⟩ := mem_reached_iff.1 reached
    have nearer : m < d := Nat.lt_of_le_of_lt ((h.shortest y m p hy).le n walk) near
    refine (h.closed y reached ?_ ?_).2 z joins
    · intro hp
      obtain ⟨q, hq⟩ := h.pending_reached y hp
      exact absurd (hy.unique hq).1 (Nat.ne_of_lt nearer)
    · intro hopen
      exact absurd (h.le_of_mem_openIds hopen hy) (Nat.not_le_of_lt nearer)

/-! ## The moves of a search -/

theorem reaches_discover_iff (new : next ∉ s.reached) {x : String} {n : Nat} {p : Option String} :
    (s.discover d id next).Reaches x n p ↔
      (x = next ∧ n = d + 1 ∧ p = some id) ∨ s.Reaches x n p := by
  unfold Reaches discover
  rw [getElem?_insert_eq]
  split
  · rename_i same
    subst same
    have unreached : ¬ s.Reaches next n p := fun h => new (mem_reached_iff.2 ⟨n, p, h⟩)
    unfold Reaches at unreached
    simp [unreached, eq_comm]
  · rename_i other
    simp [Ne.symm other]

theorem mem_reached_discover_iff {x : String} :
    x ∈ (s.discover d id next).reached ↔ x = next ∨ x ∈ s.reached := by
  unfold discover
  rw [Std.ExtTreeMap.mem_insert, Std.compare_eq_iff_eq, eq_comm]

theorem items_discover : (s.discover d id next).frontier.items.Perm
    ((d + 1, next) :: s.frontier.items) := Heap.items_push s.frontier (d + 1) next

theorem openIds_discover : (s.discover d id next).openIds.Perm (next :: s.openIds) :=
  items_discover.map Prod.snd

/-- An id that the pending one imports is reached for the first time. A shorter way to it would have
reached it before. -/
theorem Charts.discover (h : Charts g source goal (some id) d s) (joins : g.Joins .imports id next)
    (new : next ∉ s.reached) : Charts g source goal (some id) d (s.discover d id next) := by
  obtain ⟨before, hid⟩ := h.pending_reached id rfl
  have keeps : ∀ {x n p}, s.Reaches x n p → (s.discover d id next).Reaches x n p :=
    fun hx => (reaches_discover_iff new).2 (Or.inr hx)
  have item : ∀ {n x}, (n, x) ∈ (s.discover d id next).frontier.items →
      (n = d + 1 ∧ x = next) ∨ (n, x) ∈ s.frontier.items := by
    intro n x hx
    rwa [items_discover.mem_iff, List.mem_cons, Prod.mk.injEq] at hx
  refine
    { ordered := h.ordered.push (d + 1) next
      nodup := openIds_discover.nodup_iff.2 (List.nodup_cons.2 ⟨fun hopen => ?_, h.nodup⟩)
      origin := keeps h.origin
      open_reached := fun n x hx => ?_
      le_open := fun n x hx => ?_
      reached_le := fun x n p hx => ?_
      shortest := fun x n p hx => ?_
      previous := fun x n p hx => ?_
      pending_reached := ?_
      pending_closed := ?_
      closed := fun x hx hp hopen => ?_ }
  · obtain ⟨⟨n, _⟩, he, rfl⟩ := List.mem_map.1 hopen
    obtain ⟨p, hp⟩ := h.open_reached n _ he
    exact new (mem_reached_iff.2 ⟨n, p, hp⟩)
  · rcases item hx with ⟨rfl, rfl⟩ | hx
    · exact ⟨some id, (reaches_discover_iff new).2 (Or.inl ⟨rfl, rfl, rfl⟩)⟩
    · obtain ⟨p, hp⟩ := h.open_reached n x hx
      exact ⟨p, keeps hp⟩
  · rcases item hx with ⟨rfl, -⟩ | hx
    · exact Nat.le_succ d
    · exact h.le_open n x hx
  · rcases (reaches_discover_iff new).1 hx with ⟨-, rfl, -⟩ | hx
    · exact Nat.le_refl _
    · exact h.reached_le x n p hx
  · rcases (reaches_discover_iff new).1 hx with ⟨rfl, rfl, -⟩ | hx
    · refine ⟨(h.shortest id d before hid).walk.edge joins, fun m walk => ?_⟩
      exact Nat.lt_of_not_le fun near => new (h.mem_reached walk near)
    · exact h.shortest x n p hx
  · rcases (reaches_discover_iff new).1 hx with ⟨rfl, hn, rfl⟩ | hx
    · obtain rfl := Nat.succ.inj hn
      exact ⟨id, before, rfl, keeps hid, joins⟩
    · obtain ⟨y, q, rfl, hy, link⟩ := h.previous x n p hx
      exact ⟨y, q, rfl, keeps hy, link⟩
  · rintro x ⟨⟩
    exact ⟨before, keeps hid⟩
  · rintro x ⟨⟩ hopen
    rcases List.mem_cons.1 (openIds_discover.mem_iff.1 hopen) with rfl | hopen
    · exact new (mem_reached_iff.2 ⟨d, before, hid⟩)
    · exact h.pending_closed id rfl hopen
  · rw [openIds_discover.mem_iff, List.mem_cons, not_or] at hopen
    obtain ⟨other, hopen⟩ := hopen
    have old := (mem_reached_discover_iff.1 hx).resolve_left other
    obtain ⟨hne, onward⟩ := h.closed x old hp hopen
    exact ⟨hne, fun y link => mem_reached_discover_iff.2 (Or.inr (onward y link))⟩

/-- An id that the pending one imports is reached, and nothing that was reached is lost. -/
theorem Charts.visit (h : Charts g source goal (some id) d s) (joins : g.Joins .imports id next) :
    Charts g source goal (some id) d (visit d id s next) ∧
      next ∈ (ChainSearch.visit d id s next).reached ∧
      ∀ x ∈ s.reached, x ∈ (ChainSearch.visit d id s next).reached := by
  by_cases known : next ∈ s.reached
  · rw [visit_of_mem known]
    exact ⟨h, known, fun x hx => hx⟩
  · rw [visit_of_not_mem known]
    exact ⟨h.discover joins known, mem_reached_discover_iff.2 (Or.inl rfl),
      fun x hx => mem_reached_discover_iff.2 (Or.inr hx)⟩

theorem Charts.visits {ids : List String} (h : Charts g source goal (some id) d s)
    (joins : ∀ next ∈ ids, g.Joins .imports id next) :
    Charts g source goal (some id) d (ids.foldl (ChainSearch.visit d id) s) ∧
      (∀ next ∈ ids, next ∈ (ids.foldl (ChainSearch.visit d id) s).reached) ∧
      ∀ x ∈ s.reached, x ∈ (ids.foldl (ChainSearch.visit d id) s).reached := by
  induction ids generalizing s with
  | nil => exact ⟨h, fun _ hn => absurd hn List.not_mem_nil, fun x hx => hx⟩
  | cons next rest ih =>
    obtain ⟨first, found, kept⟩ := h.visit (joins next List.mem_cons_self)
    obtain ⟨all, founds, keeps⟩ := ih first fun y hy => joins y (List.mem_cons_of_mem _ hy)
    refine ⟨all, fun y hy => ?_, fun x hx => keeps x (kept x hx)⟩
    rcases List.mem_cons.1 hy with rfl | hy
    · exact keeps y found
    · exact founds y hy

/-- The nearest open id is taken off and is pending. What was reached is at most one step further. -/
theorem Charts.pop (h : Charts g source goal none d s) {n : Nat} {rest : Heap String}
    (hp : s.frontier.pop? = some ((n, id), rest)) :
    Charts g source goal (some id) n ⟨s.reached, rest⟩ := by
  have taken := Heap.mem_items_of_pop? hp
  have ids : s.openIds.Perm (id :: rest.items.map Prod.snd) := (Heap.items_pop hp).map Prod.snd
  obtain ⟨closed, nodup⟩ := List.nodup_cons.1 (ids.nodup_iff.1 h.nodup)
  refine
    { ordered := h.ordered.pop hp
      nodup := nodup
      origin := h.origin
      open_reached := fun m x hx => h.open_reached m x (Heap.mem_items_of_rest hp hx)
      le_open := fun m x hx => h.ordered.least hp _ (Heap.mem_items_of_rest hp hx)
      reached_le := fun x m p hx => ?_
      shortest := h.shortest
      previous := h.previous
      pending_reached := ?_
      pending_closed := ?_
      closed := fun x hx hpend hopen => ?_ }
  · exact Nat.le_trans (h.reached_le x m p hx) (Nat.succ_le_succ (h.le_open n id taken))
  · rintro x ⟨⟩
    exact h.open_reached n id taken
  · rintro x ⟨⟩
    exact closed
  · refine h.closed x hx nofun fun held => ?_
    rcases List.mem_cons.1 (ids.mem_iff.1 held) with rfl | held
    · exact hpend rfl
    · exact hopen held

/-- When all that it imports is reached, an id that is not the goal is closed. -/
theorem Charts.close (h : Charts g source goal (some id) d s) (other : id ≠ goal)
    (onward : ∀ next, g.Joins .imports id next → next ∈ s.reached) :
    Charts g source goal none d s :=
  { h with
    pending_reached := nofun
    pending_closed := nofun
    closed := fun x hx _ hopen => by
      by_cases same : x = id
      · subst same
        exact ⟨other, onward⟩
      · exact h.closed x hx (fun hp => same (Option.some.inj hp).symm) hopen }

theorem mem_importsOf_reverse : next ∈ (g.importsOf id).reverse ↔ g.Joins .imports id next := by
  rw [List.mem_reverse, Graph.importsOf, List.mem_eraseDups, Graph.mem_targets_iff]
  rfl

/-- One step of a search: an id is taken off, opens what it imports, and is closed. -/
theorem Charts.step (h : Charts g source goal none d s) {n : Nat} {rest : Heap String}
    (hp : s.frontier.pop? = some ((n, id), rest)) (other : id ≠ goal) :
    Charts g source goal none n
      ((g.importsOf id).reverse.foldl (ChainSearch.visit n id) ⟨s.reached, rest⟩) := by
  obtain ⟨visited, found, -⟩ := (h.pop hp).visits fun next hn => mem_importsOf_reverse.1 hn
  exact visited.close other fun next link => found next (mem_importsOf_reverse.2 link)

/-! ## The way to an id -/

/-- The ids before each other lead back to the start, each one step nearer. -/
theorem Charts.wayTo (h : Charts g source goal pending d s) {n : Nat} {p : Option String}
    (hid : s.Reaches id n p) :
    Leads g .imports source id (wayTo s.reached n id) ∧
      (ChainSearch.wayTo s.reached n id).length = n + 1 ∧
      (ChainSearch.wayTo s.reached n id).Nodup ∧
      ∀ x ∈ ChainSearch.wayTo s.reached n id, ∃ m ≤ n, ∃ q, s.Reaches x m q := by
  induction n generalizing id p with
  | zero =>
    obtain rfl := Graph.isDistance_zero_iff.1 (h.shortest id 0 p hid)
    refine ⟨Graph.leads_singleton g .imports id, rfl, List.nodup_singleton id, fun x hx => ?_⟩
    obtain rfl := List.mem_singleton.1 hx
    exact ⟨0, Nat.le_refl 0, p, hid⟩
  | succ n ih =>
    obtain ⟨before, q, rfl, hbefore, joins⟩ := h.previous id n p hid
    have way : ChainSearch.wayTo s.reached (n + 1) id =
        ChainSearch.wayTo s.reached n before ++ [id] := by
      have found : s.reached[id]? = some ⟨n + 1, some before⟩ := hid
      rw [ChainSearch.wayTo, found]
      rfl
    obtain ⟨leads, length, nodup, near⟩ := ih hbefore
    rw [way]
    refine ⟨leads.concat joins, by rw [List.length_append, length]; rfl, ?_, fun x hx => ?_⟩
    · rw [List.nodup_append]
      refine ⟨nodup, List.nodup_singleton id, ?_⟩
      rintro x hx y hy rfl
      -- the ids before are nearer than the id itself
      obtain ⟨m, hm, r, hr⟩ := near x hx
      obtain rfl := List.mem_singleton.1 hy
      have := (hid.unique hr).1
      omega
    · rcases List.mem_append.1 hx with hx | hx
      · obtain ⟨m, hm, r, hr⟩ := near x hx
        exact ⟨m, Nat.le_succ_of_le hm, r, hr⟩
      · obtain rfl := List.mem_singleton.1 hx
        exact ⟨n + 1, Nat.le_refl _, _, hid⟩

end ChainSearch

namespace Graph

/-- Whether a chain leads from one id to another without a repeated id, and none has fewer ids. -/
structure IsShortest (g : Graph) (x y : String) (ids : List String) : Prop where
  leads : Leads g .imports x y ids
  nodup : ids.Nodup
  length_le : ∀ other, Leads g .imports x y other → ids.length ≤ other.length

/-- What a search for a chain may come to. -/
def Settles (g : Graph) (x y : String) : Option (List String) → Prop
  | none => ∀ n, ¬ Walk g .imports x n y
  | some ids => IsShortest g x y ids

end Graph

namespace ChainSearch

open CodeAtlas.Graph (Walk IsDistance Leads IsShortest Settles)

variable {g : Graph} {source goal id : String} {d n : Nat} {s : ChainSearch}

/-- When no id is open, all ids that a walk leads to are reached and closed, and none is the goal. -/
theorem Charts.not_walk (h : Charts g source goal none d s) (done : s.frontier.pop? = none) :
    ¬ Walk g .imports source n goal := by
  have closed : ∀ x, x ∉ s.openIds := by
    intro x
    rw [openIds, Heap.pop?_eq_none_iff.1 done]
    exact List.not_mem_nil
  have reached : ∀ {n x}, Walk g .imports source n x → x ∈ s.reached := by
    intro n x walk
    induction walk with
    | here => exact mem_reached_iff.2 ⟨_, _, h.origin⟩
    | edge _ joins ih => exact (h.closed _ ih nofun (closed _)).2 _ joins
  exact fun walk => (h.closed goal (reached walk) nofun (closed goal)).1 rfl

/-- The way to the nearest open id is a shortest one. -/
theorem Charts.isShortest_wayTo (h : Charts g source goal none d s) {rest : Heap String}
    (hp : s.frontier.pop? = some ((n, id), rest)) :
    IsShortest g source id (ChainSearch.wayTo s.reached n id) := by
  obtain ⟨p, hid⟩ := h.open_reached n id (Heap.mem_items_of_pop? hp)
  obtain ⟨leads, length, nodup, -⟩ := h.wayTo hid
  refine ⟨leads, nodup, fun other hother => ?_⟩
  obtain ⟨m, hm, walk⟩ := hother.walk
  rw [length, hm]
  exact Nat.succ_le_succ ((h.shortest id n p hid).le m walk)

/-- A search under way settles whether there is a chain. -/
theorem Charts.settles (h : Charts g source goal none d s) :
    Settles g source goal (g.searchChain goal s) := by
  fun_induction g.searchChain goal s generalizing d with
  | case1 s done => exact fun n => h.not_walk done
  | case2 s n rest hp => exact h.isShortest_wayTo hp
  | case3 s n id rest hp other ih => exact ih (h.step hp other)

end ChainSearch

namespace Graph

variable {g : Graph} {x y : String}

theorem settles_chain (h : x ≠ y) : Settles g x y (g.chain x y) := by
  unfold chain
  rw [if_neg h]
  exact (ChainSearch.charts_start g x y).settles

theorem isShortest_of_chain {ids : List String} (h : x ≠ y) (hc : g.chain x y = some ids) :
    IsShortest g x y ids := by
  have settles := settles_chain (g := g) h
  rwa [hc] at settles

/-- A list of ids that leads to another id stands for a walk with an edge at least. -/
theorem Leads.transGen {ids : List String} {kind : EdgeKind} (h : Leads g kind x y ids)
    (hne : x ≠ y) : TransGen (g.Joins kind) x y := by
  obtain ⟨n, -, walk⟩ := h.walk
  cases n with
  | zero =>
    cases walk
    exact absurd rfl hne
  | succ n => exact walk.transGen

/-- There is a chain exactly where imports lead. -/
theorem chain_isSome_iff (h : x ≠ y) :
    (g.chain x y).isSome ↔ TransGen (g.Joins .imports) x y := by
  cases hc : g.chain x y with
  | some ids => exact iff_of_true rfl ((isShortest_of_chain h hc).leads.transGen h)
  | none =>
    have settles := settles_chain (g := g) h
    rw [hc] at settles
    refine iff_of_false Bool.false_ne_true fun reached => ?_
    obtain ⟨n, walk⟩ := exists_walk reached
    exact settles _ walk

end Graph

end CodeAtlas
