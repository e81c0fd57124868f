import CodeAtlas.Proofs.Cycle.Recursion

/-!
# Repeated pairs

A pair that occurs again leads from an id to a successor that was tried before. If it closed a cycle
then, it closes the same cycle again, for the path to the id is still the same; otherwise the
successor is passed over. So a repeated pair only repeats a report, and no two pairs share one.

1. `Pairs.found_cases`: a report ends with a hop from the end of the path, or from an id that is
   visited on the way.
2. `Pairs.descend_filter_seen`, `Pairs.descend_filter_closing`: what a successor adds that was tried
   before.
3. `Pairs.descend_eraseDups`: each successor is tried once.
4. `Pairs.count_closing`, `Pairs.count_found`: how often a cycle is reported.
-/

namespace CodeAtlas

namespace Cycle

variable {c : Cycle} {path : List String} {x y : String}

/-- A cycle has one last hop only. -/
theorem EndsWith.unique (h : c.EndsWith x y) {x' y' : String} (h' : c.EndsWith x' y') :
    x = x' ∧ y = y' := by
  have same : [x, y] = [x', y'] :=
    (List.suffix_of_suffix_length_le h h' (Nat.le_refl 2)).eq_of_length rfl
  exact ⟨(List.cons.inj same).1, List.singleton_inj.1 (List.cons.inj same).2⟩

/-- The last hop of a cycle that is closed leads from the end of the path. -/
theorem endsWith_closing (on : y ∈ path ++ [x]) : (closing (path ++ [x]) y).EndsWith x y := by
  obtain ⟨before, inner, hp, first⟩ := List.eq_append_cons_of_mem on
  have last : (y :: inner).getLast? = some x := by
    have := congrArg List.getLast? hp
    rw [List.getLast?_concat, List.getLast?_append_of_ne_nil _ (List.cons_ne_nil _ _)] at this
    exact this.symm
  obtain ⟨init, hi⟩ := List.getLast?_eq_some_iff.1 last
  refine ⟨init, ?_⟩
  rw [hp, closing_append inner first, hi, List.append_assoc]
  rfl

/-- Different ids close different cycles. -/
theorem closing_inj : closing path x = closing path y ↔ x = y := by
  constructor
  · intro h
    exact List.singleton_inj.1 (List.append_inj' (congrArg nodes h) rfl).2
  · exact congrArg (closing path)

end Cycle

namespace Pairs

variable {pairs : Pairs} {path : List String} {visited : Std.ExtTreeSet String} {id x y : String}

/-! ## Where a report comes from -/

theorem exists_endsWith_closing (inside : ∀ id ∈ path, id ∈ visited) (on : y ∈ path) :
    ∃ x ∈ visited, (Cycle.closing path y).EndsWith x y := by
  rcases List.eq_nil_or_concat path with rfl | ⟨above, x, rfl⟩
  · cases on
  · rw [List.concat_eq_append] at on inside ⊢
    exact ⟨x, inside x (by simp), Cycle.endsWith_closing on⟩

/-- What a nested call reports on its own path ends with a hop from the id that it is made for. -/
theorem exists_endsWith_nested {c : Cycle} {later : Std.ExtTreeSet String} (new : id ∉ visited)
    (mem : id ∈ later)
    (h : (∃ y ∈ path ++ [id], c = Cycle.closing (path ++ [id]) y) ∨
      ∃ x y, c.EndsWith x y ∧ x ∉ visited.insert id ∧ x ∈ later) :
    ∃ x y, c.EndsWith x y ∧ x ∉ visited ∧ x ∈ later := by
  rcases h with ⟨y, on, rfl⟩ | ⟨x, y, ends, fresh, found⟩
  · exact ⟨id, y, Cycle.endsWith_closing on, new, mem⟩
  · exact ⟨x, y, ends, fun hx => fresh (Search.mem_insert.2 (Or.inr hx)), found⟩

/-- A report is closed by a tried id, or its last hop leads from an id that is visited on the
way. -/
theorem found_cases {todo : List String} {c : Cycle}
    (hc : c ∈ (descend pairs path visited todo).found) :
    (∃ y ∈ path, c = Cycle.closing path y) ∨
      ∃ x y, c.EndsWith x y ∧ x ∉ visited ∧ x ∈ (descend pairs path visited todo).visited := by
  induction path, visited, todo using descend_induction pairs with
  | nil path visited =>
    rw [descend_nil] at hc
    cases hc
  | closing path visited id rest on ih =>
    rw [descend_closing rest on] at hc ⊢
    rcases List.mem_cons.1 hc with rfl | hc
    · exact Or.inl ⟨id, on, rfl⟩
    · exact ih hc
  | seen path visited id rest off seen ih =>
    rw [descend_seen rest off seen] at hc ⊢
    exact ih hc
  | new path visited id rest off new ihDeep ih =>
    rw [descend_new rest off new] at hc ⊢
    have grows := (descend pairs path (descendFrom pairs path visited id).visited rest).mem_visited
    rcases List.mem_append.1 hc with hc | hc
    · obtain ⟨x, y, ends, fresh, found⟩ := exists_endsWith_nested new mem_descendFrom (ihDeep hc)
      exact Or.inr ⟨x, y, ends, fresh, grows x found⟩
    · rcases ih hc with ⟨y, on, rfl⟩ | ⟨x, y, ends, fresh, found⟩
      · exact Or.inl ⟨y, on, rfl⟩
      · exact Or.inr ⟨x, y, ends, fun hx => fresh (Descent.mem_visited _ x hx), found⟩

/-- The last hop of a report of a nested call leads from an id that is visited by it. -/
theorem exists_endsWith_descendFrom {c : Cycle} (new : id ∉ visited)
    (hc : c ∈ (descendFrom pairs path visited id).found) :
    ∃ x y, c.EndsWith x y ∧ x ∉ visited ∧ x ∈ (descendFrom pairs path visited id).visited := by
  rw [found_descendFrom] at hc
  exact exists_endsWith_nested new mem_descendFrom (found_cases hc)

/-- A nested call reports no cycle that is closed on the path above it. -/
theorem closing_not_mem_descendFrom (inside : ∀ id ∈ path, id ∈ visited) (on : y ∈ path)
    (new : id ∉ visited) :
    Cycle.closing path y ∉ (descendFrom pairs path visited id).found := by
  intro hc
  obtain ⟨x, hx, ends⟩ := exists_endsWith_closing inside on
  obtain ⟨x', y', ends', fresh, -⟩ := exists_endsWith_descendFrom new hc
  obtain ⟨rfl, -⟩ := ends.unique ends'
  exact fresh hx

/-- What is tried after a nested call reports no cycle that the call reports. -/
theorem disjoint_descendFrom (rest : List String) (inside : ∀ id ∈ path, id ∈ visited)
    (new : id ∉ visited) {c : Cycle} (hc : c ∈ (descendFrom pairs path visited id).found) :
    c ∉ (descend pairs path (descendFrom pairs path visited id).visited rest).found := by
  intro again
  rcases found_cases again with ⟨y, on, rfl⟩ | ⟨x, y, ends, fresh, -⟩
  · exact closing_not_mem_descendFrom inside on new hc
  · obtain ⟨x', y', ends', -, found⟩ := exists_endsWith_descendFrom new hc
    obtain ⟨rfl, -⟩ := ends.unique ends'
    exact fresh found

theorem inside_append (inside : ∀ id ∈ path, id ∈ visited) (id : String) :
    ∀ x ∈ path ++ [id], x ∈ visited.insert id := by
  intro x hx
  rcases List.mem_append.1 hx with hx | hx
  · exact Search.mem_insert.2 (Or.inr (inside x hx))
  · exact Search.mem_insert.2 (Or.inl (List.mem_singleton.1 hx))

theorem inside_descendFrom (inside : ∀ id ∈ path, id ∈ visited) (id : String) :
    ∀ x ∈ path, x ∈ (descendFrom pairs path visited id).visited :=
  fun x hx => (descendFrom pairs path visited id).mem_visited x (inside x hx)

/-! ## What was tried before -/

/-- An id off the path that was visited adds nothing. -/
theorem descend_filter_seen (todo : List String) (off : x ∉ path) (seen : x ∈ visited) :
    descend pairs path visited (todo.filter (!· == x)) = descend pairs path visited todo := by
  induction todo generalizing visited with
  | nil => rfl
  | cons id rest ih =>
    by_cases he : id = x
    · subst he
      rw [List.filter_cons_of_neg (by simp), ih seen, descend_seen rest off seen]
    · rw [List.filter_cons_of_pos (by simpa using he)]
      by_cases on : id ∈ path
      · rw [descend_closing _ on, descend_closing _ on, ih seen]
      · by_cases known : id ∈ visited
        · rw [descend_seen _ on known, descend_seen _ on known, ih seen]
        · rw [descend_new _ on known, descend_new _ on known,
            ih ((descendFrom pairs path visited id).mem_visited x seen)]

/-- An id on the path adds the reports of the cycle that it closes. -/
theorem descend_filter_closing (pairs : Pairs) (todo : List String) (on : x ∈ path)
    (inside : ∀ id ∈ path, id ∈ visited) :
    (descend pairs path visited (todo.filter (!· == x))).visited =
        (descend pairs path visited todo).visited ∧
      (descend pairs path visited (todo.filter (!· == x))).found =
        (descend pairs path visited todo).found.filter (!· == Cycle.closing path x) := by
  induction todo generalizing visited with
  | nil => exact ⟨rfl, by rw [List.filter_nil, descend_nil]; rfl⟩
  | cons id rest ih =>
    by_cases he : id = x
    · subst he
      rw [List.filter_cons_of_neg (by simp), descend_closing rest on]
      rw [Descent.visited_report, Descent.found_report, List.filter_cons_of_neg (by simp)]
      exact ih inside
    · rw [List.filter_cons_of_pos (by simpa using he)]
      by_cases closes : id ∈ path
      · rw [descend_closing _ closes, descend_closing _ closes]
        rw [Descent.visited_report, Descent.visited_report, Descent.found_report,
          Descent.found_report, List.filter_cons_of_pos (by simpa [Cycle.closing_inj] using he)]
        exact ⟨(ih inside).1, congrArg (List.cons _) (ih inside).2⟩
      · by_cases known : id ∈ visited
        · rw [descend_seen _ closes known, descend_seen _ closes known]
          exact ih inside
        · rw [descend_new _ closes known, descend_new _ closes known]
          obtain ⟨later, found⟩ := ih (inside_descendFrom inside id)
          have kept : (descendFrom pairs path visited id).found.filter
              (!· == Cycle.closing path x) = (descendFrom pairs path visited id).found := by
            refine List.filter_eq_self.2 fun c hc => ?_
            rw [Bool.not_eq_true', beq_eq_false_iff_ne]
            rintro rfl
            exact closing_not_mem_descendFrom inside on known hc
          rw [Descent.found_andThen, Descent.found_andThen, List.filter_append, kept, found]
          exact ⟨later, rfl⟩

/-! ## Pairs kept once -/

theorem ids_eraseDups (pairs : Pairs) : ids pairs.eraseDups = ids pairs := eraseDups_flatMap _ _

theorem successors_eraseDups (pairs : Pairs) (id : String) :
    successors pairs.eraseDups id = (successors pairs id).eraseDups := by
  unfold successors
  rw [← eraseDups_filter, eraseDups_map]
  rintro ⟨a, b⟩ ha ⟨c, d⟩ hc rfl
  have source := beq_iff_eq.1 (List.mem_filter.1 ha).2
  have source' := beq_iff_eq.1 (List.mem_filter.1 hc).2
  exact Prod.ext (source.trans source'.symm) rfl

theorem count_successors (pairs : Pairs) (x y : String) :
    (successors pairs x).count y = pairs.count (x, y) := by
  unfold successors
  rw [List.count, List.countP_map, List.countP_filter, List.count]
  refine List.countP_congr fun p _ => ?_
  simp [Prod.ext_iff, and_comm]

/-- With each pair and each id tried once the search goes the same way and reports each cycle
once. -/
theorem descend_eraseDups (todo : List String) (inside : ∀ id ∈ path, id ∈ visited) :
    (descend pairs.eraseDups path visited todo.eraseDups).visited =
        (descend pairs path visited todo).visited ∧
      (descend pairs.eraseDups path visited todo.eraseDups).found =
        (descend pairs path visited todo).found.eraseDups := by
  induction path, visited, todo using descend_induction pairs with
  | nil path visited =>
    rw [List.eraseDups_nil, descend_nil, descend_nil]
    exact ⟨rfl, rfl⟩
  | closing path visited id rest on ih =>
    obtain ⟨later, found⟩ := ih inside
    obtain ⟨later', found'⟩ :=
      descend_filter_closing pairs.eraseDups rest.eraseDups on inside
    rw [List.eraseDups_cons, eraseDups_filter, descend_closing _ on, descend_closing _ on,
      Descent.found_report, Descent.found_report, List.eraseDups_cons, eraseDups_filter, found',
      found]
    exact ⟨later'.trans later, rfl⟩
  | seen path visited id rest off seen ih =>
    rw [List.eraseDups_cons, eraseDups_filter, descend_seen _ off seen, descend_seen _ off seen,
      descend_filter_seen _ off seen]
    exact ih inside
  | new path visited id rest off new ihDeep ih =>
    obtain ⟨same, once⟩ := ihDeep (inside_append inside id)
    obtain ⟨later, found⟩ := ih (inside_descendFrom inside id)
    rw [← successors_eraseDups, ← visited_descendFrom, ← visited_descendFrom] at same
    rw [← successors_eraseDups, ← found_descendFrom, ← found_descendFrom] at once
    have apart : (descend pairs path (descendFrom pairs path visited id).visited
        rest).found.removeAll (descendFrom pairs path visited id).found =
        (descend pairs path (descendFrom pairs path visited id).visited rest).found := by
      refine List.filter_eq_self.2 fun c hc => ?_
      have fresh := fun deep => disjoint_descendFrom rest inside new deep hc
      simpa only [List.elem_eq_mem, Bool.not_eq_true', decide_eq_false_iff_not] using fresh
    rw [List.eraseDups_cons, eraseDups_filter, descend_new _ off new, descend_new _ off new,
      descend_filter_seen _ off mem_descendFrom, Descent.visited_andThen, Descent.visited_andThen,
      Descent.found_andThen, Descent.found_andThen, same, once, later, found,
      List.eraseDups_append, apart]
    exact ⟨rfl, rfl⟩

/-! ## How often a cycle is reported -/

/-- The cycle that an id on the path closes is reported each time the id is tried. -/
theorem count_closing (todo : List String) (on : y ∈ path) (inside : ∀ id ∈ path, id ∈ visited) :
    (descend pairs path visited todo).found.count (Cycle.closing path y) = todo.count y := by
  induction todo generalizing visited with
  | nil =>
    rw [descend_nil]
    rfl
  | cons id rest ih =>
    by_cases closes : id ∈ path
    · rw [descend_closing _ closes, Descent.found_report, List.count_cons, List.count_cons,
        ih inside]
      simp only [beq_iff_eq, Cycle.closing_inj]
    · have differ : id ≠ y := fun he => closes (he ▸ on)
      rw [List.count_cons_of_ne differ]
      by_cases known : id ∈ visited
      · rw [descend_seen _ closes known]
        exact ih inside
      · rw [descend_new _ closes known, Descent.found_andThen, List.count_append,
          List.count_eq_zero_of_not_mem (closing_not_mem_descendFrom inside on known), Nat.zero_add]
        exact ih (inside_descendFrom inside id)

/-- A cycle whose last hop leads from an id that is visited on the way is reported once for each
pair that is this hop: all of them are tried when the search is at that id. -/
theorem count_found {todo : List String} {c : Cycle} (inside : ∀ id ∈ path, id ∈ visited)
    (hc : c ∈ (descend pairs path visited todo).found) (ends : c.EndsWith x y)
    (later : x ∉ visited) :
    (descend pairs path visited todo).found.count c = pairs.count (x, y) := by
  induction path, visited, todo using descend_induction pairs with
  | nil path visited =>
    rw [descend_nil] at hc
    cases hc
  | closing path visited id rest on ih =>
    obtain ⟨x', hx', ends'⟩ := exists_endsWith_closing inside on
    have differ : Cycle.closing path id ≠ c := by
      rintro rfl
      exact later ((ends.unique ends').1 ▸ hx')
    rw [descend_closing rest on, Descent.found_report] at hc ⊢
    rw [List.count_cons_of_ne differ]
    exact ih inside ((List.mem_cons.1 hc).resolve_left (Ne.symm differ)) later
  | seen path visited id rest off seen ih =>
    rw [descend_seen rest off seen] at hc ⊢
    exact ih inside hc later
  | new path visited id rest off new ihDeep ih =>
    rw [descend_new rest off new, Descent.found_andThen] at hc ⊢
    rw [List.count_append]
    rcases List.mem_append.1 hc with deep | after
    · have none := List.count_eq_zero_of_not_mem (disjoint_descendFrom rest inside new deep)
      rw [none, Nat.add_zero]
      rw [found_descendFrom] at deep ⊢
      by_cases he : x = id
      · subst he
        rcases found_cases deep with ⟨y', on, rfl⟩ | ⟨x', y', ends', fresh, -⟩
        · obtain ⟨-, rfl⟩ := ends.unique (Cycle.endsWith_closing on)
          rw [count_closing _ on (inside_append inside x), count_successors]
        · exact absurd (Search.mem_insert.2 (Or.inl (ends.unique ends').1.symm)) fresh
      · exact ihDeep (inside_append inside id) deep
          fun hx => (Search.mem_insert.1 hx).elim he later
    · have none := List.count_eq_zero_of_not_mem
        fun deep => disjoint_descendFrom rest inside new deep after
      rw [none, Nat.zero_add]
      refine ih (inside_descendFrom inside id) after fun hx => ?_
      rcases found_cases after with ⟨y', on, rfl⟩ | ⟨x', y', ends', fresh, -⟩
      · obtain ⟨x', hx', ends'⟩ := exists_endsWith_closing inside on
        exact later ((ends.unique ends').1 ▸ hx')
      · exact fresh ((ends.unique ends').1 ▸ hx)

/-- **Repeated pairs only repeat reports.** The cycles of the pairs kept once are the cycles kept
once, and each cycle is reported as often as its last hop is a pair. -/
theorem cycles_eraseDups (pairs : Pairs) :
    (cycles pairs).eraseDups = cycles pairs.eraseDups ∧
      ∀ c ∈ cycles pairs, ∃ x y, c.EndsWith x y ∧ (cycles pairs).count c = pairs.count (x, y) := by
  have recursion : ∀ ps : Pairs, cycles ps = (descend ps [] ∅ (ids ps)).found := fun ps =>
    (Search.whole_eq_descend ps).2
  have inside : ∀ id ∈ ([] : List String), id ∈ (∅ : Std.ExtTreeSet String) := fun _ h => nomatch h
  constructor
  · have once : (ids pairs).eraseDups = ids pairs := eraseDups_eraseDups _
    rw [recursion, recursion, ids_eraseDups, ← (descend_eraseDups (ids pairs) inside).2, once]
  · intro c hc
    rw [recursion] at hc ⊢
    rcases found_cases hc with ⟨_, on, -⟩ | ⟨x, y, ends, new, -⟩
    · cases on
    · exact ⟨x, y, ends, count_found inside hc ends new⟩

/-- Two ids on a cycle, each pair given twice. -/
theorem cycles_eraseDups_doubled :
    ⟨["a", "b", "a"]⟩ ∈ cycles [("a", "b"), ("b", "a"), ("a", "b"), ("b", "a")] ∧
    ∃ x y, Cycle.EndsWith ⟨["a", "b", "a"]⟩ x y ∧
      (cycles [("a", "b"), ("b", "a"), ("a", "b"), ("b", "a")]).count ⟨["a", "b", "a"]⟩ =
        [("a", "b"), ("b", "a"), ("a", "b"), ("b", "a")].count (x, y) := by
  have reported :
      ⟨["a", "b", "a"]⟩ ∈ cycles [("a", "b"), ("b", "a"), ("a", "b"), ("b", "a")] := by
    decide +kernel
  exact ⟨reported, (cycles_eraseDups _).2 _ reported⟩

end Pairs

end CodeAtlas
