import CodeAtlas.Graph.Reach
import CodeAtlas.Proofs.List.Occurrences

/-!
# The reach by a queue

A reach may also be found id by id. A queue holds the ids whose callers are still to be found, each
with its level; the first one is taken off, and each of its callers that was not visited is listed
and put at the end. The queue never holds more than two levels, so taking off the ids of one level
puts the next one in their place.

1. `Sweep.run`: the search with a queue.
2. `Sweep.foldl_discover`: what the callers of one id add, and `Graph.nextLevel_cons`: a level one id
   after the other.
3. `Sweep.run_level`: what the ids of a level add.
4. `Graph.reach_eq_swept`: the search finds the reach.
-/

namespace CodeAtlas

/-- A search in breadth under way. -/
structure Sweep where
  /-- The ids to go on from, each with its level. -/
  queue : List (String × Nat)
  /-- The ids that were found, and the start. -/
  visited : List String
  /-- What is known to be affected. -/
  found : Reach

namespace Sweep

variable (g : Graph)

/-- The files with one more, unless it is among them. -/
def keep (files : List String) : Option String → List String
  | none => files
  | some file => if file ∈ files then files else files ++ [file]

/-- Lists an id at a level and puts it at the end of the queue. -/
def push (level : Nat) (s : Sweep) (id : String) : Sweep where
  queue := s.queue ++ [(id, level)]
  visited := s.visited ++ [id]
  found :=
    { functions := s.found.functions ++ [id]
      files := keep s.found.files (g.definingFile id)
      depth := max s.found.depth level }

/-- Passes over an id that was visited and lists any other. -/
def discover (level : Nat) (s : Sweep) (id : String) : Sweep :=
  if id ∈ s.visited then s else s.push g level id

/-- The same search with another queue. -/
def withQueue (s : Sweep) (queue : List (String × Nat)) : Sweep := { s with queue := queue }

@[simp] theorem visited_withQueue (s : Sweep) (queue : List (String × Nat)) :
    (s.withQueue queue).visited = s.visited := rfl

/-- Takes the first id off the queue and looks at its callers. -/
def step? (s : Sweep) : Option Sweep :=
  match s.queue with
  | [] => none
  | (id, level) :: rest =>
    some ((g.targets .calls id).foldl (discover g (level + 1)) (s.withQueue rest))

/-! ## The steps end -/

/-- A bound on the steps that are left: an id in the queue costs one, and so does one to be found. -/
def work (s : Sweep) : Nat := g.unseenEdges s.visited + s.queue.length

theorem work_discover_le {level : Nat} (s : Sweep) {x y : String}
    (h : ⟨x, y, .calls⟩ ∈ g.edges.toList) : (s.discover g level y).work g ≤ s.work g := by
  unfold discover
  split
  · exact Nat.le_refl _
  · rename_i new
    have fewer : g.unseenEdges (s.visited ++ [y]) < g.unseenEdges s.visited :=
      Graph.unseenEdges_append_lt h new (List.mem_singleton_self y)
    simp only [work, push, List.length_append, List.length_singleton]
    omega

theorem work_foldl_le {level : Nat} {x : String} {ids : List String}
    (h : ∀ y ∈ ids, ⟨x, y, .calls⟩ ∈ g.edges.toList) (s : Sweep) :
    (ids.foldl (discover g level) s).work g ≤ s.work g := by
  induction ids generalizing s with
  | nil => exact Nat.le_refl _
  | cons y rest ih =>
    exact Nat.le_trans (ih (fun z hz => h z (List.mem_cons_of_mem _ hz)) _)
      (work_discover_le g s (h y List.mem_cons_self))

theorem work_step_lt {s t : Sweep} (h : s.step? g = some t) : t.work g < s.work g := by
  unfold step? at h
  split at h
  · cases h
  · rename_i id level rest hq
    obtain rfl := Option.some.inj h
    refine Nat.lt_of_le_of_lt
      (work_foldl_le g (fun y hy => (g.mem_targets_iff .calls id y).1 hy) _) ?_
    simp only [work, withQueue, hq, List.length_cons]
    omega

/-- Steps until the queue is empty. -/
def run (s : Sweep) : Sweep :=
  match _h : s.step? g with
  | none => s
  | some t => run t
termination_by s.work g
decreasing_by exact work_step_lt g _h

theorem run_of_none {s : Sweep} (h : s.step? g = none) : s.run g = s := by
  rw [run]
  split
  · rfl
  · rename_i t ht
    rw [h] at ht
    cases ht

theorem run_of_some {s t : Sweep} (h : s.step? g = some t) : s.run g = t.run g := by
  rw [run]
  split
  · rename_i hn
    rw [h] at hn
    cases hn
  · rename_i t' ht
    rw [h] at ht
    rw [Option.some.inj ht]

end Sweep

namespace Graph

/-- The reach of a function by a queue. -/
def swept (g : Graph) (id : String) : Reach :=
  if g.hasKind .function id then (Sweep.run g ⟨[(id, 0)], [id], {}⟩).found else {}

/-! ## A level, one id after the other -/

/-- What the callers of the first id add is seen when the others are looked at. -/
theorem nextLevel_cons (g : Graph) (seen : List String) (id : String) (rest : List String) :
    g.nextLevel seen (id :: rest) =
      g.nextLevel seen [id] ++ g.nextLevel (seen ++ g.nextLevel seen [id]) rest := by
  unfold nextLevel
  rw [List.flatMap_cons, List.flatMap_singleton, List.filter_append, List.eraseDups_append]
  congr 2
  unfold List.removeAll
  rw [List.filter_filter]
  refine List.filter_congr fun y _ => ?_
  simp only [List.elem_eq_mem, List.mem_append, List.mem_eraseDups, ← Bool.not_or, Bool.decide_or,
    Bool.or_comm]

end Graph

namespace Sweep

variable (g : Graph)

/-- Of the callers of an id those that were not visited are listed, each once. -/
theorem foldl_discover {level : Nat} (ids : List String) (s : Sweep) :
    ids.foldl (discover g level) s =
      ((ids.filter (!s.visited.contains ·)).eraseDups).foldl (push g level) s := by
  induction ids generalizing s with
  | nil => rfl
  | cons id rest ih =>
    rw [List.foldl_cons, ih]
    by_cases seen : id ∈ s.visited
    · rw [List.filter_cons_of_neg (by simpa using seen), discover, if_pos seen]
    · have later : rest.filter (!(s.push g level id).visited.contains ·) =
          (rest.filter (!s.visited.contains ·)).filter (!· == id) := by
        rw [List.filter_filter]
        refine List.filter_congr fun y _ => ?_
        simp only [push, List.contains_eq_mem, List.mem_append, List.mem_singleton,
          Bool.decide_or, Bool.not_or, Bool.and_comm]
        rfl
      rw [List.filter_cons_of_pos (by simpa using seen), List.eraseDups_cons, List.foldl_cons,
        discover, if_neg seen, later]

theorem step?_of_queue {s : Sweep} {id : String} {level : Nat} {rest : List (String × Nat)}
    (hq : s.queue = (id, level) :: rest) :
    s.step? g =
      some ((g.nextLevel s.visited [id]).foldl (push g (level + 1)) (s.withQueue rest)) := by
  unfold step? Graph.nextLevel
  rw [hq, List.flatMap_singleton]
  exact congrArg some (foldl_discover g _ _)

/-! ## What is listed -/

section Push

variable {level : Nat} (ids : List String) (s : Sweep)

/-- A list that grows by one entry with each listed id. -/
theorem foldl_push_append {β : Type} (field : Sweep → List β) {entry : String → β}
    (grows : ∀ s id, field (push g level s id) = field s ++ [entry id]) :
    field (ids.foldl (push g level) s) = field s ++ ids.map entry := by
  induction ids generalizing s with
  | nil => exact (List.append_nil _).symm
  | cons id rest ih =>
    rw [List.foldl_cons, ih, grows, List.append_assoc]
    rfl

@[simp] theorem queue_foldl_push :
    (ids.foldl (push g level) s).queue = s.queue ++ ids.map (·, level) :=
  foldl_push_append g ids s queue fun _ _ => rfl

@[simp] theorem visited_foldl_push :
    (ids.foldl (push g level) s).visited = s.visited ++ ids :=
  (foldl_push_append g ids s visited fun _ _ => rfl).trans (by rw [List.map_id'])

@[simp] theorem functions_foldl_push :
    (ids.foldl (push g level) s).found.functions = s.found.functions ++ ids :=
  (foldl_push_append g ids s (·.found.functions) fun _ _ => rfl).trans (by rw [List.map_id'])

theorem depth_foldl_push (some : ids ≠ []) :
    (ids.foldl (push g level) s).found.depth = max s.found.depth level := by
  induction ids generalizing s with
  | nil => exact absurd rfl some
  | cons id rest ih =>
    rw [List.foldl_cons]
    by_cases more : rest = []
    · rw [more]
      rfl
    · rw [ih _ more]
      simp only [push]
      omega

/-- What is listed does not depend on what else is in the queue. -/
theorem foldl_push_queue (queue : List (String × Nat)) :
    ids.foldl (push g level) (s.withQueue queue) =
      (ids.foldl (push g level) s).withQueue (queue ++ ids.map (·, level)) := by
  induction ids generalizing s queue with
  | nil =>
    rw [List.map_nil, List.append_nil]
    rfl
  | cons id rest ih =>
    rw [List.foldl_cons, List.foldl_cons, List.map_cons, List.append_cons]
    exact ih (s.push g level id) (queue ++ [(id, level)])

end Push

/-- The ids of a level that are in the queue add the next level to its end. -/
theorem run_level {k : Nat} (level : List String) {s : Sweep} (queue : List (String × Nat))
    (hq : s.queue = level.map (·, k) ++ queue) :
    s.run g =
      ((g.nextLevel s.visited level).foldl (push g (k + 1)) (s.withQueue queue)).run g := by
  induction level generalizing s queue with
  | nil =>
    have same : s.withQueue queue = s := by
      rw [List.map_nil, List.nil_append] at hq
      rw [withQueue, ← hq]
    rw [same]
    rfl
  | cons id rest ih =>
    have first : s.queue = (id, k) :: (rest.map (·, k) ++ queue) := hq
    rw [run_of_some g (step?_of_queue g first), g.nextLevel_cons s.visited id rest,
      List.foldl_append, foldl_push_queue, foldl_push_queue]
    refine (ih _ (List.append_assoc _ _ _)).trans ?_
    rw [visited_withQueue, visited_foldl_push]
    rfl

/-- From a queue that holds one level the search lists the levels that follow. -/
theorem run_levels (seen level : List String) {k : Nat} {s : Sweep}
    (hq : s.queue = level.map (·, k)) (hv : s.visited = seen) (hd : s.found.depth = k) :
    (s.run g).found.functions = s.found.functions ++ (g.levels seen level).flatten ∧
      (s.run g).found.depth = k + (g.levels seen level).length := by
  fun_induction g.levels seen level generalizing k s with
  | case1 seen level last =>
    rw [run_level g level [] (by rw [hq, List.append_nil]), hv, last, List.foldl_nil,
      run_of_none g rfl]
    exact ⟨(List.append_nil _).symm, hd⟩
  | case2 seen level more ih =>
    rw [run_level g level [] (by rw [hq, List.append_nil]), hv]
    obtain ⟨functions, depth⟩ := ih
      (s := (g.nextLevel seen level).foldl (push g (k + 1)) (s.withQueue [])) (k := k + 1)
      (by rw [queue_foldl_push]; rfl)
      (by rw [visited_foldl_push, ← hv]; rfl)
      (by
        rw [depth_foldl_push g _ _ more]
        show max s.found.depth (k + 1) = k + 1
        omega)
    rw [functions, depth, functions_foldl_push, List.flatten_cons, List.length_cons,
      List.append_assoc]
    exact ⟨rfl, by omega⟩

/-! ## The files -/

/-- Whether the files are those of the listed functions, each once. -/
def Filed (s : Sweep) : Prop :=
  s.found.files = (s.found.functions.filterMap g.definingFile).eraseDups

variable {g}

theorem Filed.push {s : Sweep} (h : s.Filed g) (level : Nat) (id : String) :
    (s.push g level id).Filed g := by
  unfold Filed at h ⊢
  show keep s.found.files (g.definingFile id) = _
  rw [Sweep.push, List.filterMap_append]
  cases hf : g.definingFile id with
  | none =>
    rw [List.filterMap_cons_none hf, List.filterMap_nil, List.append_nil]
    exact h
  | some file =>
    rw [List.filterMap_cons_some hf, List.filterMap_nil, eraseDups_concat, ← h, keep]
    simp only [h, List.mem_eraseDups]

theorem Filed.foldl_discover {s : Sweep} (h : s.Filed g) (level : Nat) (ids : List String) :
    (ids.foldl (discover g level) s).Filed g := by
  induction ids generalizing s with
  | nil => exact h
  | cons id rest ih =>
    refine ih ?_
    unfold discover
    split
    · exact h
    · exact h.push level id

theorem Filed.step {s t : Sweep} (h : s.Filed g) (ht : s.step? g = some t) : t.Filed g := by
  unfold step? at ht
  split at ht
  · cases ht
  · rename_i id level rest hq
    obtain rfl := Option.some.inj ht
    exact Filed.foldl_discover (s := s.withQueue rest) h _ _

theorem Filed.run {s : Sweep} (h : s.Filed g) : (s.run g).Filed g := by
  fun_induction s.run g with
  | case1 s last => exact h
  | case2 s t ht ih => exact ih (h.step ht)

end Sweep

namespace Graph

/-- The search with a queue finds the reach of a function. -/
theorem reach_eq_swept (g : Graph) (id : String) : g.reach id = g.swept id := by
  unfold reach swept
  split
  · obtain ⟨functions, depth⟩ :=
      Sweep.run_levels g [id] [id] (k := 0) (s := ⟨[(id, 0)], [id], {}⟩) rfl rfl rfl
    have files := Sweep.Filed.run (g := g) (s := ⟨[(id, 0)], [id], {}⟩) rfl
    rw [List.nil_append] at functions
    rw [Nat.zero_add] at depth
    simp only [← functions, ← depth]
    rw [← files]
  · rfl

end Graph

end CodeAtlas
