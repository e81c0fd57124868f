import CodeAtlas.Proofs.Cycle.Stack
import CodeAtlas.Proofs.List.Occurrences

/-!
# The search in depth as a recursion

A search in depth is plainest as a recursion: the successors of an id are tried one after the other,
and one that was not visited is searched, from a path that is longer by that id, before the next one
is tried. The stack of frames of `Search` does the same without nested calls, for what a frame still
holds is what the call for its id has still to try.

1. `Pairs.descend`: the recursion, and `Pairs.depthFirst`, the cycles that it reports.
2. `Search.resume`: what the recursion still has to do for the frames of a search.
3. `Search.outcome_step`: a step does what comes first of that, so it changes nothing in the end.
4. `Search.whole_eq_descend`: the search and the recursion visit the same ids and report the same
   cycles.
-/

namespace CodeAtlas

/-- What a search comes to that starts from a set of visited ids. -/
structure Descent (start : Std.ExtTreeSet String) where
  /-- The ids that are visited in the end. -/
  visited : Std.ExtTreeSet String
  /-- The cycles that are reported on the way. -/
  found : List Cycle
  mem_visited : ∀ id ∈ start, id ∈ visited

namespace Descent

variable {start : Std.ExtTreeSet String}

/-- Nothing is left to try. -/
def stay (start : Std.ExtTreeSet String) : Descent start := ⟨start, [], fun _ h => h⟩

/-- A cycle is reported first. -/
def report (c : Cycle) (d : Descent start) : Descent start := { d with found := c :: d.found }

/-- An id is visited first. -/
def through (id : String) (d : Descent (start.insert id)) : Descent start where
  visited := d.visited
  found := d.found
  mem_visited x hx := d.mem_visited x (Search.mem_insert.2 (Or.inr hx))

/-- Another search goes on where the first one ends. -/
def andThen (d : Descent start) (e : Descent d.visited) : Descent start where
  visited := e.visited
  found := d.found ++ e.found
  mem_visited x hx := e.mem_visited x (d.mem_visited x hx)

@[simp] theorem visited_report (c : Cycle) (d : Descent start) :
    (d.report c).visited = d.visited := rfl

@[simp] theorem found_report (c : Cycle) (d : Descent start) :
    (d.report c).found = c :: d.found := rfl

@[simp] theorem visited_andThen (d : Descent start) (e : Descent d.visited) :
    (d.andThen e).visited = e.visited := rfl

@[simp] theorem found_andThen (d : Descent start) (e : Descent d.visited) :
    (d.andThen e).found = d.found ++ e.found := rfl

end Descent

/-- The cycle that an id on a path closes: the path from that id on, and the id again. -/
def Cycle.closing (path : List String) (id : String) : Cycle :=
  ⟨path.dropWhile (· != id) ++ [id]⟩

theorem Cycle.closing_append {before : List String} {id : String} (inner : List String)
    (first : id ∉ before) : closing (before ++ id :: inner) id = ⟨id :: inner ++ [id]⟩ := by
  have differ : ∀ x ∈ before, (x != id) = true := fun x hx =>
    bne_iff_ne.2 fun he => first (he ▸ hx)
  unfold closing
  rw [List.dropWhile_append_of_pos differ, List.dropWhile_cons_of_neg (by simp)]

namespace Pairs

/-! ## The recursion -/

/-- How many pairs leave ids that are not visited. -/
def fresh (pairs : Pairs) (visited : Std.ExtTreeSet String) : Nat :=
  pairs.countP fun p => p.1 ∉ visited

theorem fresh_le {pairs : Pairs} {start visited : Std.ExtTreeSet String}
    (h : ∀ id ∈ start, id ∈ visited) : fresh pairs visited ≤ fresh pairs start := by
  refine List.countP_mono_left fun p _ hp => ?_
  rw [decide_eq_true_eq] at hp ⊢
  exact fun hs => hp (h p.1 hs)

theorem fresh_insert_lt {pairs : Pairs} {visited : Std.ExtTreeSet String} {id : String}
    (new : id ∉ visited) (leaves : successors pairs id ≠ []) :
    fresh pairs (visited.insert id) < fresh pairs visited := by
  obtain ⟨y, hy⟩ := List.exists_mem_of_ne_nil _ leaves
  refine countP_lt_countP (fun p _ hp => ?_) (mem_successors.1 hy) (by simp) (by simpa using new)
  rw [decide_eq_true_eq] at hp ⊢
  exact fun seen => hp (Search.mem_insert.2 (Or.inr seen))

/-- Tries ids one after the other at the end of a path: one on the path closes a cycle, one visited
before is passed over, and any other is visited and its successors are tried from there. -/
def descend (pairs : Pairs) (path : List String) (visited : Std.ExtTreeSet String) :
    List String → Descent visited
  | [] => .stay visited
  | id :: rest =>
    if id ∈ path then (descend pairs path visited rest).report (Cycle.closing path id)
    else if id ∈ visited then descend pairs path visited rest
    else
      let deep := (descend pairs (path ++ [id]) (visited.insert id) (successors pairs id)).through id
      deep.andThen (descend pairs path deep.visited rest)
termination_by todo => (fresh pairs visited, todo.length)
decreasing_by
  · exact Prod.Lex.right' _ (Nat.le_refl _) (Nat.lt_succ_self _)
  · exact Prod.Lex.right' _ (Nat.le_refl _) (Nat.lt_succ_self _)
  · rename_i new
    -- an id without successors is no source, so visiting it leaves the count as it is
    by_cases leaves : successors pairs id = []
    · refine Prod.Lex.right' _ (fresh_le fun x hx => Search.mem_insert.2 (Or.inr hx)) ?_
      rw [leaves]
      exact Nat.succ_pos _
    · exact Prod.Lex.left _ _ (fresh_insert_lt new leaves)
  · exact Prod.Lex.right' _ (fresh_le deep.mem_visited) (Nat.lt_succ_self _)

/-- The cycles that the recursion reports. The ids are tried in order of first appearance, each as a
start, for no id is on the empty path. -/
def depthFirst (pairs : Pairs) : List Cycle := (descend pairs [] ∅ (ids pairs)).found

/-- The call for an id that was not visited. -/
def descendFrom (pairs : Pairs) (path : List String) (visited : Std.ExtTreeSet String)
    (id : String) : Descent visited :=
  (descend pairs (path ++ [id]) (visited.insert id) (successors pairs id)).through id

@[simp] theorem visited_descendFrom (pairs : Pairs) (path : List String)
    (visited : Std.ExtTreeSet String) (id : String) :
    (descendFrom pairs path visited id).visited =
      (descend pairs (path ++ [id]) (visited.insert id) (successors pairs id)).visited := rfl

@[simp] theorem found_descendFrom (pairs : Pairs) (path : List String)
    (visited : Std.ExtTreeSet String) (id : String) :
    (descendFrom pairs path visited id).found =
      (descend pairs (path ++ [id]) (visited.insert id) (successors pairs id)).found := rfl

section Equations

variable {pairs : Pairs} {path : List String} {visited : Std.ExtTreeSet String} {id : String}

theorem descend_nil : descend pairs path visited [] = .stay visited := by rw [descend]

theorem descend_closing (rest : List String) (on : id ∈ path) :
    descend pairs path visited (id :: rest) =
      (descend pairs path visited rest).report (Cycle.closing path id) := by
  rw [descend, if_pos on]

theorem descend_seen (rest : List String) (off : id ∉ path) (seen : id ∈ visited) :
    descend pairs path visited (id :: rest) = descend pairs path visited rest := by
  rw [descend, if_neg off, if_pos seen]

theorem descend_new (rest : List String) (off : id ∉ path) (new : id ∉ visited) :
    descend pairs path visited (id :: rest) =
      (descendFrom pairs path visited id).andThen
        (descend pairs path (descendFrom pairs path visited id).visited rest) := by
  rw [descend, if_neg off, if_neg new]
  rfl

theorem mem_descendFrom : id ∈ (descendFrom pairs path visited id).visited :=
  (descend pairs (path ++ [id]) (visited.insert id) (successors pairs id)).mem_visited id
    (Search.mem_insert.2 (Or.inl rfl))

end Equations

/-- Induction along the recursion. -/
@[elab_as_elim]
theorem descend_induction (pairs : Pairs)
    {motive : List String → Std.ExtTreeSet String → List String → Prop}
    (nil : ∀ path visited, motive path visited [])
    (closing : ∀ path visited id rest, id ∈ path → motive path visited rest →
      motive path visited (id :: rest))
    (seen : ∀ path visited id rest, id ∉ path → id ∈ visited → motive path visited rest →
      motive path visited (id :: rest))
    (new : ∀ path visited id rest, id ∉ path → id ∉ visited →
      motive (path ++ [id]) (visited.insert id) (successors pairs id) →
      motive path (descendFrom pairs path visited id).visited rest →
      motive path visited (id :: rest))
    (path : List String) (visited : Std.ExtTreeSet String) (todo : List String) :
    motive path visited todo :=
  descend.induct pairs motive nil closing seen new path visited todo

end Pairs

namespace Search

variable {pairs : Pairs}

/-! ## What the frames still hold -/

/-- The path from the start to the deepest of some frames. -/
def pathTo (frames : List Frame) : List String := (frames.map Frame.id).reverse

theorem pathTo_cons (frame : Frame) (below : List Frame) :
    pathTo (frame :: below) = pathTo below ++ [frame.id] := by
  unfold pathTo
  rw [List.map_cons, List.reverse_cons]

/-- What a search comes to if the recursion does what its frames still hold, the deepest first. -/
def resume (pairs : Pairs) (visited : Std.ExtTreeSet String) (found : List Cycle) :
    List Frame → Std.ExtTreeSet String × List Cycle
  | [] => (visited, found)
  | frame :: below =>
    let first := Pairs.descend pairs (pathTo below ++ [frame.id]) visited frame.rest
    resume pairs first.visited (found ++ first.found) below

/-- What a search comes to in the end. -/
def outcome (s : Search pairs) : Std.ExtTreeSet String × List Cycle :=
  resume pairs s.visited s.found.toList s.frames

/-- On a path without repeats an id closes one cycle only. -/
theorem Closes.eq_closing {path : List String} {id : String} {c : Cycle} (h : Closes path id c)
    (nodup : path.Nodup) : c = Cycle.closing path.reverse id := by
  obtain ⟨before, inner, hp, hc⟩ := h
  have first : id ∉ before := by
    intro hm
    rw [← List.nodup_reverse, hp, List.nodup_append] at nodup
    exact nodup.2.2 id hm id List.mem_cons_self rfl
  rw [hp, Cycle.closing_append inner first, ← hc]

/-! ## Steps -/

section Steps

variable {s : Search pairs} {id next : String} {rest : List String} {below : List Frame}

theorem Coherent.path_reverse (h : Coherent s) (hf : s.frames = ⟨id, rest⟩ :: below) :
    s.path.reverse = pathTo below ++ [id] := by
  rw [h.path_of_frames hf, List.reverse_cons]
  rfl

/-- An id without a successor left adds nothing. -/
theorem outcome_leave (hf : s.frames = ⟨id, []⟩ :: below) : (s.leave hf).outcome = s.outcome := by
  show resume pairs s.visited s.found.toList below = resume pairs s.visited s.found.toList s.frames
  rw [hf, resume, Pairs.descend_nil]
  show _ = resume pairs s.visited (s.found.toList ++ []) below
  rw [List.append_nil]

/-- The next successor is the first one that the recursion tries. -/
theorem outcome_attempt (h : Coherent s) (hf : s.frames = ⟨id, next :: rest⟩ :: below) :
    ((s.advance hf).attempt next).outcome = s.outcome := by
  have path : s.path.reverse = pathTo below ++ [id] := h.path_reverse hf
  have whole : s.outcome = resume pairs s.visited s.found.toList (⟨id, next :: rest⟩ :: below) := by
    rw [outcome, hf]
  rw [whole, resume]
  obtain ⟨on, c, closes, he⟩ | ⟨off, seen, he⟩ | ⟨new, he⟩ := (h.advance hf).attempt_cases next
  · have on : next ∈ pathTo below ++ [id] := path ▸ List.mem_reverse.2 on
    have hc : c = Cycle.closing (pathTo below ++ [id]) next := path ▸ closes.eq_closing h.nodup
    rw [he, Pairs.descend_closing rest on, ← hc]
    show resume pairs s.visited (s.found.push c).toList (⟨id, rest⟩ :: below) = _
    rw [resume, Array.toList_push, List.append_assoc]
    rfl
  · have off : next ∉ pathTo below ++ [id] := path ▸ mt List.mem_reverse.1 off
    have seen : next ∈ s.visited := seen
    rw [he, Pairs.descend_seen rest off seen]
    rfl
  · have off : next ∉ pathTo below ++ [id] :=
      path ▸ fun on => new (h.visited_of_path next (List.mem_reverse.1 on))
    have new : next ∉ s.visited := new
    rw [he, Pairs.descend_new rest off new]
    show resume pairs (s.visited.insert next) s.found.toList
      (⟨next, Pairs.successors pairs next⟩ :: ⟨id, rest⟩ :: below) = _
    rw [resume, pathTo_cons, resume, List.append_assoc s.found.toList]
    rfl

end Steps

/-- A step changes nothing in the end. -/
theorem outcome_step {s t : Search pairs} (h : Coherent s) (ht : s.step? = some t) :
    t.outcome = s.outcome := by
  obtain ⟨id, below, hf, rfl⟩ | ⟨id, next, rest, below, hf, rfl⟩ := step_cases ht
  · exact outcome_leave hf
  · exact outcome_attempt h hf

/-! ## Runs -/

/-- A run comes to what the recursion makes of its first frames. -/
theorem outcome_run {s : Search pairs} (h : Coherent s) :
    (s.run.visited, s.run.found.toList) = s.outcome := by
  have both : Coherent s.run ∧ s.run.outcome = s.outcome :=
    run_induction (motive := fun t => Coherent t ∧ t.outcome = s.outcome)
      (fun _ _ ht ⟨coherent, same⟩ => ⟨coherent.step ht, (outcome_step coherent ht).trans same⟩)
      s ⟨h, rfl⟩
  rw [← both.2, outcome, frames_run]
  rfl

theorem Coherent.run {s : Search pairs} (h : Coherent s) : Coherent s.run :=
  run_induction (fun _ _ ht h => h.step ht) s h

/-- The search from an id that was not visited is the one that the recursion calls for it. -/
theorem run_enter {s : Search pairs} (h : Coherent s) (idle : s.frames = []) {root : String}
    (new : root ∉ s.visited) :
    (s.enter root).run.visited = (Pairs.descendFrom pairs [] s.visited root).visited ∧
      (s.enter root).run.found.toList =
        s.found.toList ++ (Pairs.descendFrom pairs [] s.visited root).found := by
  have all := outcome_run (h.enter_root idle new)
  have frames : (s.enter root).frames = [⟨root, Pairs.successors pairs root⟩] := by
    rw [← idle]
    rfl
  rw [outcome, frames, resume, resume] at all
  exact Prod.mk.inj all

/-- The searches from several starts are what the recursion does with the starts. -/
theorem foldl_explore (roots : List String) {s : Search pairs} (h : Coherent s)
    (idle : s.frames = []) :
    (roots.foldl explore s).visited = (Pairs.descend pairs [] s.visited roots).visited ∧
      (roots.foldl explore s).found.toList =
        s.found.toList ++ (Pairs.descend pairs [] s.visited roots).found := by
  induction roots generalizing s with
  | nil =>
    rw [Pairs.descend_nil]
    exact ⟨rfl, (List.append_nil _).symm⟩
  | cons root rest ih =>
    rw [List.foldl_cons]
    by_cases seen : root ∈ s.visited
    · rw [explore, if_pos seen, Pairs.descend_seen rest List.not_mem_nil seen]
      exact ih h idle
    · obtain ⟨visited, found⟩ := run_enter h idle seen
      have further := ih (h.enter_root idle seen).run (frames_run _)
      rw [visited, found, List.append_assoc] at further
      rw [explore, if_neg seen, Pairs.descend_new rest List.not_mem_nil seen]
      exact further

/-- In the end the two searches have visited the same ids and reported the same cycles. -/
theorem whole_eq_descend (pairs : Pairs) :
    (whole pairs).visited = (Pairs.descend pairs [] ∅ (Pairs.ids pairs)).visited ∧
      (whole pairs).found.toList = Pairs.depthFirst pairs :=
  foldl_explore (Pairs.ids pairs) coherent_start rfl

end Search

namespace Pairs

/-- **The stack in place of nested calls.** The search with frames reports the cycles that the
recursion reports, in the same order. -/
theorem cycles_eq_depthFirst (pairs : Pairs) : cycles pairs = depthFirst pairs :=
  (Search.whole_eq_descend pairs).2

/-- The successors of `"a"` are tried on after the nested call for `"b"` is over. -/
example : depthFirst [("a", "b"), ("b", "c"), ("c", "b"), ("a", "c"), ("a", "a")] =
    [⟨["b", "c", "b"]⟩, ⟨["a", "a"]⟩] := by
  cbv

end Pairs

end CodeAtlas
