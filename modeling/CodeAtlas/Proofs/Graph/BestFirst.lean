import CodeAtlas.Proofs.Graph.ImportTable
import CodeAtlas.Proofs.Graph.ShortestChain

/-!
# The chain by a best-first search

A chain may also be found by a search that knows nothing of its distances beforehand: it works on
the numbers of a table, takes the number with the least score off a heap, passes over one that was
expanded with no higher score, and gives each neighbour that is not yet scored as low a new score
and a new predecessor. The way is read off the predecessors, from the goal back. Because all edges
are one step long, no score is ever lowered and nothing is taken off twice, and this search finds
what the search by ids finds.

1. `Finds`: the search as a relation between where it stands and what it comes to.
   `Finds.unique` says that it comes to one result only.
2. `Mirrors`: both searches stand at the same place. `Mirrors.relax` and `Mirrors.expand` say that
   each move keeps it so.
3. `Mirrors.finds`: the search ends with the chain.
4. `findsChain_iff`: what this says of a graph.
-/

namespace CodeAtlas

theorem getElem?_insert_number (map : Std.ExtTreeMap Nat Nat) (key n value : Nat) :
    (map.insert key value)[n]? = if key = n then some value else map[n]? := by
  rw [Std.ExtTreeMap.getElem?_insert]
  simp only [Std.compare_eq_iff_eq]

/-- A best-first search between numbers under way. -/
structure BestFirst where
  /-- The lowest score found of each number. -/
  scores : Std.ExtTreeMap Nat Nat
  /-- The score with which a number was expanded. -/
  expanded : Std.ExtTreeMap Nat Nat
  /-- The number from which the lowest score comes. -/
  previous : Std.ExtTreeMap Nat Nat
  /-- The numbers to expand, some of them perhaps with a score that was lowered since. -/
  frontier : Heap Nat

namespace BestFirst

/-- The search at its start. -/
def start (n : Nat) : BestFirst :=
  ⟨(∅ : Std.ExtTreeMap Nat Nat).insert n 0, ∅, ∅, Heap.empty.push 0 n⟩

/-- Scores a neighbour of a number, unless its score is as low. -/
def relax (score n : Nat) (s : BestFirst) (next : Nat) : BestFirst :=
  if (s.scores[next]?).any (· ≤ score + 1) then s
  else
    { s with
      scores := s.scores.insert next (score + 1)
      previous := s.previous.insert next n
      frontier := s.frontier.push (score + 1) next }

/-- The search with a number taken off. -/
def withFrontier (s : BestFirst) (rest : Heap Nat) : BestFirst := { s with frontier := rest }

/-- Notes the score with which a number was taken off, and scores its neighbours. -/
def expand (t : ImportTable) (taken score n : Nat) (s : BestFirst) : BestFirst :=
  (t.neighbours n).foldl (relax score n) { s with expanded := s.expanded.insert n taken }

/-- Whether the predecessors of a number lead back along a way. -/
inductive Traces (previous : Std.ExtTreeMap Nat Nat) : Nat → List Nat → Prop where
  | start {n : Nat} (first : previous[n]? = none) : Traces previous n [n]
  | back {n m : Nat} {way : List Nat} (link : previous[n]? = some m)
      (rest : Traces previous m way) : Traces previous n (way ++ [n])

/-- Whether a search for a number comes to a way, or to none. -/
inductive Finds (t : ImportTable) (goal : Nat) : BestFirst → Option (List Nat) → Prop where
  /-- There is nothing to expand. -/
  | exhausted {s : BestFirst} (done : s.frontier.pop? = none) : Finds t goal s none
  /-- The goal is taken off. -/
  | found {s : BestFirst} {taken : Nat} {rest : Heap Nat} {way : List Nat}
      (pop : s.frontier.pop? = some ((taken, goal), rest)) (trace : Traces s.previous goal way) :
      Finds t goal s (some way)
  /-- A number is taken off that was expanded with no higher score. -/
  | stale {s : BestFirst} {taken n : Nat} {rest : Heap Nat} {result : Option (List Nat)}
      (pop : s.frontier.pop? = some ((taken, n), rest)) (other : n ≠ goal)
      (old : (s.expanded[n]?).any (· ≤ taken) = true)
      (further : Finds t goal (s.withFrontier rest) result) : Finds t goal s result
  /-- A number is taken off and expanded. -/
  | expand {s : BestFirst} {taken score n : Nat} {rest : Heap Nat} {result : Option (List Nat)}
      (pop : s.frontier.pop? = some ((taken, n), rest)) (other : n ≠ goal)
      (new : (s.expanded[n]?).any (· ≤ taken) = false) (scored : s.scores[n]? = some score)
      (further : Finds t goal ((s.withFrontier rest).expand t taken score n) result) :
      Finds t goal s result

variable {t : ImportTable} {goal n m next : Nat} {s : BestFirst}

theorem Traces.unique {previous : Std.ExtTreeMap Nat Nat} {way other : List Nat}
    (h : Traces previous n way) (h' : Traces previous n other) : way = other := by
  induction h generalizing other with
  | start first =>
    cases h' with
    | start => rfl
    | back link => rw [first] at link; cases link
  | back link _ ih =>
    cases h' with
    | start first => rw [first] at link; cases link
    | back link' rest' =>
      rw [link] at link'
      obtain rfl := Option.some.inj link'
      rw [ih rest']

/-- A search comes to one result. -/
theorem Finds.unique {result other : Option (List Nat)} (h : Finds t goal s result)
    (h' : Finds t goal s other) : result = other := by
  induction h generalizing other with
  | exhausted done => cases h' <;> grind
  | found pop trace => cases h' <;> grind [Traces.unique]
  | stale pop hne old further ih => cases h' <;> grind
  | expand pop hne new scored further ih => cases h' <;> grind

/-! ## Two searches at the same place -/

/-- Whether a search by numbers stands where a search by ids does. -/
structure Mirrors (t : ImportTable) (s : BestFirst) (c : ChainSearch) : Prop where
  frontier : s.frontier.map t.name = c.frontier
  frontier_lt : ∀ e ∈ s.frontier.items, e.2 < t.ids.size
  scores : ∀ n < t.ids.size, s.scores[n]? = (c.reached[t.name n]?).map Step.distance
  previous : ∀ n < t.ids.size,
    (s.previous[n]?).map t.name = (c.reached[t.name n]?).bind Step.previous
  previous_lt : ∀ n m : Nat, s.previous[n]? = some m → m < t.ids.size
  /-- What was expanded is closed. -/
  expanded : ∀ n ∈ s.expanded, n < t.ids.size ∧ t.name n ∈ c.reached ∧ t.name n ∉ c.openIds

open ChainSearch (Charts visit)

variable {g : Graph} {source goalId : String} {d : Nat} {c : ChainSearch}
  {pairs : List (String × String)}

theorem relax_of_scored {score known : Nat} (h : s.scores[next]? = some known)
    (low : known ≤ score + 1) : s.relax score n next = s := by
  rw [relax, h]
  exact if_pos (decide_eq_true low)

theorem relax_of_not_scored {score : Nat} (h : s.scores[next]? = none) :
    s.relax score n next =
      { s with
        scores := s.scores.insert next (score + 1)
        previous := s.previous.insert next n
        frontier := s.frontier.push (score + 1) next } := by
  rw [relax, h]
  exact if_neg Bool.false_ne_true

/-- A neighbour is scored when its id is reached for the first time, and its score is as low as the
new one when it was reached before. -/
theorem Mirrors.relax (h : Mirrors t s c) (table : t.Tabulates pairs)
    (charts : Charts g source goalId (some (t.name n)) d c) (hn : n < t.ids.size)
    (hnext : next < t.ids.size) :
    Mirrors t (s.relax d n next) (visit d (t.name n) c (t.name next)) := by
  by_cases known : t.name next ∈ c.reached
  · obtain ⟨k, p, hk⟩ := ChainSearch.mem_reached_iff.1 known
    have scored : s.scores[next]? = some k := by
      rw [h.scores next hnext]
      exact congrArg (Option.map Step.distance) hk
    rwa [ChainSearch.visit_of_mem known, relax_of_scored scored (charts.reached_le _ k p hk)]
  · have unreached : c.reached[t.name next]? = none := by
      rwa [← Option.not_isSome_iff_eq_none, ← Std.ExtTreeMap.mem_iff_isSome_getElem?]
    have unscored : s.scores[next]? = none := by
      rw [h.scores next hnext, unreached]
      rfl
    rw [ChainSearch.visit_of_not_mem known, relax_of_not_scored unscored]
    have same : ∀ k < t.ids.size, t.name next = t.name k ↔ next = k := fun k hk =>
      table.name_inj hnext hk
    refine
      { frontier := ?_
        frontier_lt := fun e he => ?_
        scores := fun k hk => ?_
        previous := fun k hk => ?_
        previous_lt := fun k m hm => ?_
        expanded := fun k hk => ?_ }
    · show (s.frontier.push (d + 1) next).map t.name = c.frontier.push (d + 1) (t.name next)
      rw [← h.frontier, Heap.push_map]
    · rcases List.mem_cons.1 ((Heap.items_push _ _ _).mem_iff.1 he) with rfl | he
      · exact hnext
      · exact h.frontier_lt e he
    · show (s.scores.insert next (d + 1))[k]? =
        ((c.reached.insert (t.name next) ⟨d + 1, some (t.name n)⟩)[t.name k]?).map Step.distance
      rw [getElem?_insert_number, getElem?_insert_eq, h.scores k hk]
      simp only [same k hk]
      split <;> rfl
    · show ((s.previous.insert next n)[k]?).map t.name =
        ((c.reached.insert (t.name next) ⟨d + 1, some (t.name n)⟩)[t.name k]?).bind Step.previous
      rw [getElem?_insert_number, getElem?_insert_eq]
      simp only [same k hk]
      split
      · rfl
      · exact h.previous k hk
    · have hm : (s.previous.insert next n)[k]? = some m := hm
      rw [getElem?_insert_number] at hm
      split at hm
      · exact Option.some.inj hm ▸ hn
      · exact h.previous_lt k m hm
    · obtain ⟨hlt, reached, closed⟩ := h.expanded k hk
      refine ⟨hlt, ChainSearch.mem_reached_discover_iff.2 (Or.inr reached), fun hopen => ?_⟩
      rcases List.mem_cons.1 (ChainSearch.openIds_discover.mem_iff.1 hopen) with he | hopen
      · exact known (he ▸ reached)
      · exact closed hopen

theorem Mirrors.relaxes {ms : List Nat} (h : Mirrors t s c) (table : t.Tabulates pairs)
    (charts : Charts g source goalId (some (t.name n)) d c) (hn : n < t.ids.size)
    (links : ∀ m ∈ ms, m < t.ids.size ∧ g.Joins .imports (t.name n) (t.name m)) :
    Mirrors t (ms.foldl (BestFirst.relax d n) s)
      ((ms.map t.name).foldl (visit d (t.name n)) c) := by
  induction ms generalizing s c with
  | nil => exact h
  | cons m rest ih =>
    obtain ⟨hm, joins⟩ := links m List.mem_cons_self
    exact ih (h.relax table charts hn hm) (charts.visit joins).1
      fun k hk => links k (List.mem_cons_of_mem _ hk)

/-- Both searches take off the same. -/
theorem Mirrors.pop (h : Mirrors t s c) {id : String} {rest : Heap String}
    (hp : c.frontier.pop? = some ((d, id), rest)) :
    ∃ k others, s.frontier.pop? = some ((d, k), others) ∧ k < t.ids.size ∧ t.name k = id ∧
      others.map t.name = rest := by
  rw [← h.frontier, Heap.pop?_map] at hp
  obtain ⟨⟨⟨e, k⟩, others⟩, pop, same⟩ := Option.map_eq_some_iff.1 hp
  obtain ⟨top, rfl⟩ := Prod.mk.inj same
  obtain ⟨rfl, rfl⟩ := Prod.mk.inj top
  exact ⟨k, others, pop, h.frontier_lt _ (Heap.mem_items_of_pop? pop), rfl, rfl⟩

/-- The predecessors lead back along the way that the ids lead. -/
theorem Mirrors.traces (h : Mirrors t s c) (charts : Charts g source goalId none d c) {k : Nat}
    {p : Option String} (hn : n < t.ids.size) (reached : c.Reaches (t.name n) k p) :
    ∃ way, Traces s.previous n way ∧ way.map t.name = ChainSearch.wayTo c.reached k (t.name n) := by
  induction k generalizing n p with
  | zero =>
    have first : t.name n = source := Graph.isDistance_zero_iff.1 (charts.shortest _ 0 p reached)
    rw [first] at reached
    have none_before : (s.previous[n]?).map t.name = none := by
      rw [h.previous n hn, first]
      exact congrArg (Option.bind · Step.previous) charts.origin
    exact ⟨[n], .start (Option.map_eq_none_iff.1 none_before), rfl⟩
  | succ k ih =>
    obtain ⟨before, q, rfl, hbefore, -⟩ := charts.previous _ k p reached
    have found : c.reached[t.name n]? = some ⟨k + 1, some before⟩ := reached
    have link := h.previous n hn
    rw [found] at link
    obtain ⟨m, hm, rfl⟩ := Option.map_eq_some_iff.1 link
    obtain ⟨way, trace, same⟩ := ih (h.previous_lt n m hm) hbefore
    refine ⟨way ++ [n], .back hm trace, ?_⟩
    rw [List.map_append, same, ChainSearch.wayTo, found]
    rfl

/-- The number that is taken off was not expanded, and its neighbours are what its id imports. -/
theorem Mirrors.expand (h : Mirrors g.importTable s c) (charts : Charts g source goalId none d c)
    {k : Nat} {others : Heap Nat} {rest : Heap String}
    (hk : k < g.importTable.ids.size) (same : others.map g.importTable.name = rest)
    (pop : s.frontier.pop? = some ((m, k), others))
    (hp : c.frontier.pop? = some ((m, g.importTable.name k), rest)) :
    s.expanded[k]? = none ∧ s.scores[k]? = some m ∧
      Mirrors g.importTable ((s.withFrontier others).expand g.importTable m m k)
        ((g.importsOf (g.importTable.name k)).reverse.foldl (visit m (g.importTable.name k))
          ⟨c.reached, rest⟩) := by
  have next := charts.pop hp
  obtain ⟨p, reached⟩ := next.pending_reached _ rfl
  have held : g.importTable.name k ∈ c.openIds := List.mem_map_of_mem (Heap.mem_items_of_pop? hp)
  have start : Mirrors g.importTable
      { (s.withFrontier others) with expanded := s.expanded.insert k m } ⟨c.reached, rest⟩ :=
    { frontier := same
      frontier_lt := fun e he => h.frontier_lt e (Heap.mem_items_of_rest pop he)
      scores := h.scores
      previous := h.previous
      previous_lt := h.previous_lt
      expanded := fun j hj => by
        rcases Std.ExtTreeMap.mem_insert.1 hj with he | hj
        · obtain rfl := Std.compare_eq_iff_eq.1 he
          exact ⟨hk, ChainSearch.mem_reached_iff.2 ⟨m, p, reached⟩, next.pending_closed _ rfl⟩
        · obtain ⟨hlt, known, closed⟩ := h.expanded j hj
          refine ⟨hlt, known, fun hopen => closed ?_⟩
          exact ((Heap.items_pop hp).map Prod.snd).mem_iff.2 (List.mem_cons_of_mem _ hopen) }
  refine ⟨?_, ?_, ?_⟩
  · rw [← Option.not_isSome_iff_eq_none, ← Std.ExtTreeMap.mem_iff_isSome_getElem?]
    exact fun old => (h.expanded k old).2.2 held
  · rw [h.scores k hk]
    exact congrArg (Option.map Step.distance) reached
  · rw [← g.map_neighbours hk]
    refine start.relaxes g.tabulates_importTable next hk fun j hj => ?_
    refine ⟨g.tabulates_importTable.neighbours_lt hj, ChainSearch.mem_importsOf_reverse.1 ?_⟩
    rw [← g.map_neighbours hk]
    exact List.mem_map_of_mem hj

/-- The search by numbers ends, and comes to the chain that the search by ids comes to. -/
theorem Mirrors.finds (h : Mirrors g.importTable s c)
    (charts : Charts g source (g.importTable.name goal) none d c)
    (hgoal : goal < g.importTable.ids.size) :
    ∃ result, Finds g.importTable goal s result ∧
      result.map (List.map g.importTable.name) =
        g.searchChain (g.importTable.name goal) c := by
  fun_induction g.searchChain (g.importTable.name goal) c generalizing s d with
  | case1 c done =>
    rw [← h.frontier, Heap.pop?_map] at done
    exact ⟨none, .exhausted (Option.map_eq_none_iff.1 done), rfl⟩
  | case2 c n rest hp =>
    obtain ⟨k, others, pop, hk, same, -⟩ := h.pop hp
    obtain rfl := (g.tabulates_importTable.name_inj hk hgoal).1 same
    obtain ⟨p, reached⟩ := charts.open_reached n _ (Heap.mem_items_of_pop? hp)
    obtain ⟨way, trace, named⟩ := h.traces charts hgoal reached
    exact ⟨some way, .found pop trace, congrArg some named⟩
  | case3 c n id rest hp other ih =>
    obtain ⟨k, others, pop, hk, rfl, same⟩ := h.pop hp
    obtain ⟨new, scored, mirrors⟩ := h.expand charts hk same pop hp
    obtain ⟨result, further, named⟩ := ih mirrors (charts.step hp other)
    refine ⟨result, .expand pop ?_ ?_ scored further, named⟩
    · rintro rfl
      exact other rfl
    · rw [new]
      rfl

theorem mirrors_start {id : String} (table : t.Tabulates pairs) (hid : t.numbers[id]? = some n) :
    Mirrors t (start n) (.start id) := by
  have hn := table.number_lt hid
  obtain rfl : t.name n = id := ImportTable.name_eq ((table.numbers_iff id n).1 hid)
  have same : ∀ k < t.ids.size, t.name n = t.name k ↔ n = k := fun k hk => table.name_inj hn hk
  refine
    { frontier := by rw [start, ← Heap.push_map, Heap.map_empty]; rfl
      frontier_lt := fun e he => ?_
      scores := fun k hk => ?_
      previous := fun k hk => ?_
      previous_lt := fun k m hm => by simp [start] at hm
      expanded := fun k hk => by simp [start] at hk }
  · rcases List.mem_cons.1 ((Heap.items_push _ _ _).mem_iff.1 he) with rfl | he
    · exact hn
    · cases he
  · unfold start ChainSearch.start
    rw [getElem?_insert_number, getElem?_insert_eq]
    simp only [same k hk]
    split
    · rfl
    · simp
  · unfold start ChainSearch.start
    rw [getElem?_insert_eq]
    split <;> simp

end BestFirst

namespace Graph

open Relation (TransGen)

/-- Whether the search by numbers comes to a chain from one id to another, or to none. -/
def FindsChain (g : Graph) (x y : String) (result : Option (List String)) : Prop :=
  if x = y then result = if g.contains x then some [x] else none
  else
    match g.importTable.numbers[x]?, g.importTable.numbers[y]? with
    | some source, some goal =>
      ∃ way, BestFirst.Finds g.importTable goal (.start source) way ∧
        result = way.map (List.map g.importTable.name)
    | _, _ => result = none

variable {g : Graph} {x y : String}

/-- An id without a number is the end of no import, so that no chain leads from it or to it. -/
theorem chain_eq_none_of_numbers (hne : x ≠ y)
    (h : g.importTable.numbers[x]? = none ∨ g.importTable.numbers[y]? = none) :
    g.chain x y = none := by
  rw [← Option.not_isSome_iff_eq_none, chain_isSome_iff hne]
  intro reached
  obtain ⟨_, first, -⟩ := Relation.TransGen.head'_iff.1 reached
  obtain ⟨_, -, last⟩ := Relation.TransGen.tail'_iff.1 reached
  obtain ⟨n, hn⟩ := (numbers_of_import first).1
  obtain ⟨m, hm⟩ := (numbers_of_import last).2
  rw [hn, hm] at h
  rcases h with h | h <;> cases h

/-- The search by numbers comes to the chain, and to nothing else. -/
theorem findsChain_iff (g : Graph) (x y : String) (result : Option (List String)) :
    g.FindsChain x y result ↔ result = g.chain x y := by
  unfold FindsChain
  by_cases hxy : x = y
  · rw [if_pos hxy, chain, if_pos hxy]
  rw [if_neg hxy]
  cases hx : g.importTable.numbers[x]? with
  | none => rw [chain_eq_none_of_numbers hxy (Or.inl hx)]
  | some source =>
    cases hy : g.importTable.numbers[y]? with
    | none => rw [chain_eq_none_of_numbers hxy (Or.inr hy)]
    | some goal =>
      have table := g.tabulates_importTable
      obtain rfl := ImportTable.name_eq ((table.numbers_iff y goal).1 hy)
      obtain ⟨way, finds, named⟩ := (BestFirst.mirrors_start table hx).finds
        (ChainSearch.charts_start g x _) (table.number_lt hy)
      have same : way.map (List.map g.importTable.name) = g.chain x (g.importTable.name goal) := by
        rw [named, chain, if_neg hxy]
      constructor
      · rintro ⟨other, found, rfl⟩
        rw [← same, found.unique finds]
      · rintro rfl
        exact ⟨way, finds, same.symm⟩

/-- **Shortest chains.** The search by numbers comes to one result, and that is the chain. There is a
chain from an id to another exactly if imports lead there, and then it is a shortest one. -/
theorem chain_shortest (g : Graph) {x y : String} (h : x ≠ y) :
    (∀ result, g.FindsChain x y result ↔ result = g.chain x y) ∧
    ((g.chain x y).isSome ↔ TransGen (g.Joins .imports) x y) ∧
    ∀ ids, g.chain x y = some ids → IsShortest g x y ids :=
  ⟨g.findsChain_iff x y, chain_isSome_iff h, fun _ hc => isShortest_of_chain h hc⟩

/-- Imports with a loop, a way back and one import twice, and two chains of the least length. -/
def tangled : Graph :=
  (empty.addNodes [.file "a", .file "e"]).addEdges
    [⟨"a", "a", .imports⟩, ⟨"a", "b", .imports⟩, ⟨"a", "c", .imports⟩, ⟨"a", "b", .imports⟩,
      ⟨"b", "d", .imports⟩, ⟨"c", "d", .imports⟩, ⟨"d", "a", .imports⟩, ⟨"d", "e", .imports⟩]

theorem chain_shortest_tangled :
    "a" ≠ "e" ∧ tangled.chain "a" "e" = some ["a", "c", "d", "e"] ∧
    (∀ result, tangled.FindsChain "a" "e" result ↔ result = tangled.chain "a" "e") ∧
    ((tangled.chain "a" "e").isSome ↔ TransGen (tangled.Joins .imports) "a" "e") ∧
    ∀ ids, tangled.chain "a" "e" = some ids → IsShortest tangled "a" "e" ids :=
  ⟨by decide, by decide +kernel, chain_shortest tangled (by decide)⟩

end Graph

end CodeAtlas
