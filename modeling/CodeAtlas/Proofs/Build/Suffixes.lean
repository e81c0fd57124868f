import CodeAtlas.Proofs.Build.Callees
import Mathlib.Data.List.Induction

/-!
# The ends of ids

A name that no function has means the first function whose id has the name right after a separator.
Separators are found from left to right, and of two that overlap only the left one is found. A dot
overlaps nothing, but of colons in a row the pairs are found from the first colon on. So a name is
found after a dot and after an even number of colons, and it is missed after an odd number of three
or more, although such an id too ends in a separator and the name.

1. `suffix_replicate_iff`: a run of one character before the end of a text.
2. `mem_afterEach_replicate_iff`: what a search for runs of a character finds.
3. `mem_idSuffixes_iff`, `endsIn_iff`: the names under which an id is filed, and those that are
   missed.
4. `resolve_by_end`: what a name means that no function has.
5. `not_first_tripled`: a name is missed after three colons.
-/

namespace CodeAtlas

/-! ## Runs of a character -/

/-- Whether a text ends in a run of so many of a character, and no more, and what follows it. -/
def FollowsRun (c : Char) (count : Nat) (text after : List Char) : Prop :=
  ∃ front, front.getLast? ≠ some c ∧ text = front ++ (List.replicate count c ++ after)

variable {c : Char} {n : Nat} {text after : List Char}

theorem replicate_ne_nil (c : Char) (pos : 0 < n) : List.replicate n c ≠ [] := by
  rw [Ne, List.replicate_eq_nil_iff]
  omega

/-- A run of some separators of one length starts with the first of them. -/
theorem replicate_mul_succ (n more : Nat) (c : Char) :
    List.replicate (n * (more + 1)) c = List.replicate n c ++ List.replicate (n * more) c := by
  rw [Nat.mul_succ, Nat.add_comm, List.replicate_add]

/-- Every text has a longest run of a character at its end, which may be empty. -/
theorem exists_run (c : Char) (text : List Char) :
    ∃ front count, front.getLast? ≠ some c ∧ text = front ++ List.replicate count c := by
  induction text using List.reverseRecOn with
  | nil => exact ⟨[], 0, by simp, rfl⟩
  | append_singleton text d ih =>
    by_cases hd : d = c
    · obtain ⟨front, count, apart, rfl⟩ := ih
      refine ⟨front, count + 1, apart, ?_⟩
      rw [hd, List.replicate_succ', List.append_assoc]
    · refine ⟨text ++ [d], 0, ?_, (List.append_nil _).symm⟩
      rw [List.getLast?_concat]
      exact fun same => hd (Option.some.inj same)

/-- A text that ends in some of a character and what follows them has a longest run of them
there. -/
theorem suffix_replicate_iff (n : Nat) :
    List.replicate n c ++ after <:+ text ↔ ∃ count, n ≤ count ∧ FollowsRun c count text after := by
  constructor
  · rintro ⟨before, rfl⟩
    obtain ⟨front, more, apart, rfl⟩ := exists_run c before
    refine ⟨more + n, by omega, front, apart, ?_⟩
    rw [List.replicate_add]
    simp only [List.append_assoc]
  · rintro ⟨count, enough, front, -, rfl⟩
    obtain ⟨more, rfl⟩ := Nat.exists_eq_add_of_le' enough
    refine ⟨front ++ List.replicate more c, ?_⟩
    rw [List.replicate_add]
    simp only [List.append_assoc]

/-! ## What a search finds -/

/-- A text whose last character is another one does not change what is found after it. -/
theorem mem_afterEach_append {front : List Char} (pos : 0 < n) (apart : front.getLast? ≠ some c)
    (h : after ∈ afterEach (List.replicate n c) text) :
    after ∈ afterEach (List.replicate n c) (front ++ text) := by
  have some_char := replicate_ne_nil c pos
  revert apart
  refine afterEach_induction (fun _ => h) (fun later ih apart => ?_)
    (fun d rest passed ih apart => ?_)
    some_char front
  · rw [List.append_assoc, afterEach_separator some_char]
    refine List.mem_cons_of_mem _ (ih fun last => apart ?_)
    rw [List.getLast?_append, last]
    rfl
  · have none_here : ¬ List.replicate n c <+: d :: (rest ++ text) := by
      intro found
      -- a separator that stands here ends before the text or in it
      rcases List.prefix_or_prefix_of_prefix found (List.prefix_append (d :: rest) text) with
        inside | across
      · exact passed inside
      · apply apart
        rw [(List.prefix_replicate_iff.1 across).2, List.getLast?_replicate]
        rfl
    rw [List.cons_append, afterEach_of_apart none_here]
    refine ih fun last => apart ?_
    rw [List.getLast?_cons, last]
    rfl

/-- A run holds the separators that fit into it, from its first character on. -/
theorem mem_afterEach_run (pos : 0 < n) (after : List Char) (more : Nat) :
    after ∈ afterEach (List.replicate n c) (List.replicate (n * (more + 1)) c ++ after) := by
  have some_char := replicate_ne_nil c pos
  induction more with
  | zero =>
    rw [Nat.zero_add, Nat.mul_one, afterEach_separator some_char]
    exact List.mem_cons_self
  | succ more ih =>
    rw [replicate_mul_succ, List.append_assoc, afterEach_separator some_char]
    exact List.mem_cons_of_mem _ ih

/-- What is found ends the text after a run of a whole number of separators. -/
theorem followsRun_of_mem_afterEach (pos : 0 < n)
    (h : after ∈ afterEach (List.replicate n c) text) :
    ∃ more, FollowsRun c (n * (more + 1)) text after := by
  have some_char := replicate_ne_nil c pos
  revert h
  refine afterEach_induction (fun h => ?_) (fun later ih h => ?_) (fun d rest passed ih h => ?_)
    some_char text
  · rw [afterEach] at h
    cases h
  · rw [afterEach_separator some_char] at h
    rcases List.mem_cons.1 h with rfl | further
    · exact ⟨0, [], by simp, by simp⟩
    · obtain ⟨more, front, apart, rfl⟩ := ih further
      cases front with
      | nil =>
        refine ⟨more + 1, [], by simp, ?_⟩
        rw [replicate_mul_succ n (more + 1), List.nil_append, List.nil_append, List.append_assoc]
      | cons d front =>
        refine ⟨more, List.replicate n c ++ d :: front, ?_, by simp only [List.append_assoc]⟩
        rwa [List.getLast?_append_of_ne_nil _ (List.cons_ne_nil d front)]
  · rw [afterEach_of_apart passed] at h
    obtain ⟨more, front, apart, rfl⟩ := ih h
    refine ⟨more, d :: front, ?_, rfl⟩
    cases front with
    | nil =>
      -- the character before the run is another one, or a separator would stand there
      intro same
      obtain rfl : d = c := by simpa using same
      apply passed
      have fits : n * (more + 1) + 1 = n + (n * more + 1) := by
        rw [Nat.mul_succ]
        omega
      rw [List.nil_append, ← List.cons_append, ← List.replicate_succ, fits, List.replicate_add,
        List.append_assoc]
      exact List.prefix_append _ _
    | cons e front => rwa [List.getLast?_cons_cons]

/-- A search for runs of a character finds what follows a whole number of them. -/
theorem mem_afterEach_replicate_iff (pos : 0 < n) :
    after ∈ afterEach (List.replicate n c) text ↔
      ∃ more, FollowsRun c (n * (more + 1)) text after := by
  refine ⟨followsRun_of_mem_afterEach pos, ?_⟩
  rintro ⟨more, front, apart, rfl⟩
  exact mem_afterEach_append pos apart (mem_afterEach_run pos after more)

/-! ## The names of an id -/

/-- Whether an id has a name right after an even number of colons or right after a dot. -/
def Filed (id name : String) : Prop :=
  (∃ more, FollowsRun ':' (2 * (more + 1)) id.toList name.toList) ∨
    Path.endsWith id ("." ++ name) = true

/-- Whether an id has a name right after an odd number of three or more colons. -/
def OddColons (id name : String) : Prop :=
  ∃ more, FollowsRun ':' (2 * (more + 1) + 1) id.toList name.toList

variable {id name : String}

/-- The run of a character before the end of a text has one length. -/
theorem FollowsRun.unique {count other : Nat} (h : FollowsRun c count text after)
    (h' : FollowsRun c other text after) : count = other := by
  have no_more : ∀ {front rest : List Char} {count more : Nat}, front.getLast? ≠ some c →
      front ++ List.replicate count c = rest ++ List.replicate (count + more) c → more = 0 := by
    intro front rest count more apart same
    rw [Nat.add_comm, List.replicate_add, ← List.append_assoc] at same
    have cut := List.append_cancel_right same
    cases more with
    | zero => rfl
    | succ more =>
      rw [cut, List.replicate_succ', ← List.append_assoc, List.getLast?_concat] at apart
      exact absurd rfl apart
  obtain ⟨front, apart, rfl⟩ := h
  obtain ⟨rest, apart', same⟩ := h'
  rw [← List.append_assoc, ← List.append_assoc] at same
  have cut := List.append_cancel_right same
  rcases Nat.le_total count other with le | le
  · obtain ⟨more, rfl⟩ := Nat.exists_eq_add_of_le le
    rw [no_more apart cut, Nat.add_zero]
  · obtain ⟨more, rfl⟩ := Nat.exists_eq_add_of_le le
    rw [no_more apart' cut.symm, Nat.add_zero]

theorem endsWith_dot_iff :
    Path.endsWith id ("." ++ name) = true ↔ List.replicate 1 '.' ++ name.toList <:+ id.toList := by
  unfold Path.endsWith
  rw [List.isSuffixOf_iff_suffix, String.toList_append]
  rfl

theorem endsWith_colons_iff :
    Path.endsWith id ("::" ++ name) = true ↔
      List.replicate 2 ':' ++ name.toList <:+ id.toList := by
  unfold Path.endsWith
  rw [List.isSuffixOf_iff_suffix, String.toList_append]
  rfl

/-- What stands after a dot does not stand after a colon. -/
theorem not_followsRun_of_endsWith_dot (h : Path.endsWith id ("." ++ name) = true) (more : Nat) :
    ¬ FollowsRun ':' (more + 1) id.toList name.toList := by
  rintro ⟨front, -, same⟩
  obtain ⟨before, hb⟩ := endsWith_dot_iff.1 h
  have colon : List.replicate (more + 1) ':' = List.replicate more ':' ++ [':'] :=
    List.replicate_succ'
  rw [← hb, colon, List.replicate_one, ← List.append_assoc, ← List.append_assoc,
    ← List.append_assoc] at same
  have last := congrArg List.getLast? (List.append_cancel_right same)
  rw [List.getLast?_concat, List.getLast?_concat] at last
  exact absurd last (by decide)

/-- Of the ids that end in a separator and a name those with an odd number of colons before it are
left out. -/
theorem filed_iff : Filed id name ↔ EndsIn id name ∧ ¬ OddColons id name := by
  constructor
  · rintro (⟨more, run⟩ | dot)
    · refine ⟨Or.inl (endsWith_colons_iff.2 ((suffix_replicate_iff 2).2 ⟨_, by omega, run⟩)), ?_⟩
      rintro ⟨other, odd⟩
      have same := run.unique odd
      omega
    · refine ⟨Or.inr dot, ?_⟩
      rintro ⟨more, odd⟩
      exact not_followsRun_of_endsWith_dot dot _ odd
  · rintro ⟨colons | dot, even⟩
    · obtain ⟨count, two, run⟩ := (suffix_replicate_iff 2).1 (endsWith_colons_iff.1 colons)
      obtain ⟨half, rfl | rfl⟩ : ∃ half, count = 2 * (half + 1) ∨ count = 2 * (half + 1) + 1 :=
        ⟨count / 2 - 1, by omega⟩
      · exact Or.inl ⟨half, run⟩
      · exact absurd ⟨half, run⟩ even
    · exact Or.inr dot

/-- The searches for the two separators find the names of an id. -/
theorem mem_flatMap_afterEach_iff :
    name.toList ∈ namespaceSeparators.flatMap (afterEach · id.toList) ↔ Filed id name := by
  have separators : namespaceSeparators = [List.replicate 2 ':', List.replicate 1 '.'] := rfl
  rw [separators, List.flatMap_cons, List.flatMap_singleton, List.mem_append,
    mem_afterEach_replicate_iff (by omega), mem_afterEach_replicate_iff (by omega)]
  refine or_congr_right ?_
  rw [endsWith_dot_iff, suffix_replicate_iff]
  constructor
  · rintro ⟨more, run⟩
    exact ⟨_, by omega, run⟩
  · rintro ⟨count, one, run⟩
    obtain ⟨more, rfl⟩ := Nat.exists_eq_add_of_le' one
    exact ⟨more, by rwa [Nat.one_mul]⟩

instance (id name : String) : Decidable (Filed id name) :=
  decidable_of_iff _ mem_flatMap_afterEach_iff

instance (id name : String) : Decidable (EndsIn id name) := inferInstanceAs (Decidable (_ ∨ _))

/-- The index files an id under the names that it has after a separator. -/
theorem mem_idSuffixes_iff (some_char : name ≠ "") : name ∈ idSuffixes id ↔ Filed id name := by
  have kept : (!name.toList.isEmpty) = true := by
    rw [Bool.not_eq_true', List.isEmpty_eq_false_iff]
    exact fun none => some_char (String.toList_inj.1 none)
  rw [← mem_flatMap_afterEach_iff, idSuffixes, List.mem_map]
  constructor
  · rintro ⟨after, found, rfl⟩
    rw [String.toList_ofList]
    obtain ⟨separator, hs, ha⟩ := List.mem_flatMap.1 found
    exact List.mem_flatMap.2 ⟨separator, hs, (List.mem_filter.1 ha).1⟩
  · intro found
    obtain ⟨separator, hs, ha⟩ := List.mem_flatMap.1 found
    exact ⟨name.toList, List.mem_flatMap.2 ⟨separator, hs, List.mem_filter.2 ⟨ha, kept⟩⟩,
      String.ofList_toList⟩

/-! ## The function that a name means -/

namespace CallIndex

variable {nodes : List Node}

/-- The look-up by the end of an id finds the first node that is filed under the name. -/
theorem lookup_bySuffix (some_char : name ≠ "") :
    (ofNodes nodes).bySuffix.lookup name =
      (nodes.find? fun node => Filed node.id name).map Node.id := by
  have own : ∀ (names : List String) (id : String),
      (names.map (·, id)).lookup name = if name ∈ names then some id else none := by
    intro names id
    induction names with
    | nil => rfl
    | cons first rest ih =>
      rw [List.map_cons, List.lookup_cons, ih]
      by_cases same : name = first
      · simp [same]
      · simp [same, beq_false_of_ne same]
  unfold ofNodes
  induction nodes with
  | nil => rfl
  | cons node rest ih =>
    rw [List.flatMap_cons, List.lookup_append, own, ih, List.find?_cons]
    by_cases filed : Filed node.id name
    · rw [if_pos ((mem_idSuffixes_iff some_char).2 filed), decide_eq_true filed]
      rfl
    · rw [if_neg fun h => filed ((mem_idSuffixes_iff some_char).1 h), decide_eq_false filed]
      rfl

/-- How what a name means follows from the ends of ids. -/
structure MeansByEnd (nodes : List Node) (name : String) (meant : Option String) : Prop where
  /-- The first node with the name after a dot or an even number of colons is meant. -/
  first_filed : meant = (nodes.find? fun node => Filed node.id name).map Node.id
  /-- These are the nodes whose id ends in a separator and the name, but for those with an odd
  number of colons. -/
  filed_iff : ∀ node ∈ nodes, Filed node.id name ↔ EndsIn node.id name ∧ ¬ OddColons node.id name
  /-- Where there is no odd number of colons, the first node whose id ends in a separator and the
  name is meant, and nothing if there is no such node. -/
  first_endsIn : (∀ node ∈ nodes, ¬ OddColons node.id name) →
    meant = (nodes.find? fun node => EndsIn node.id name).map Node.id

/-- **The end of an id.** A name that no function has means the first function that is filed under
it, and only an odd number of colons keeps a function from being filed under what it ends in. -/
theorem resolve_by_end (some_char : name ≠ "")
    (unnamed : ∀ node ∈ nodes, ∀ info, node.function? = some info → info.name ≠ name) :
    MeansByEnd nodes name ((ofNodes nodes).resolve name) := by
  have none_named : (ofNodes nodes).byName.lookup name = none := by
    rw [lookup_byName, Option.map_eq_none_iff, List.head?_eq_none_iff, List.filter_eq_nil_iff]
    intro node hn named
    obtain ⟨info, hi, same⟩ := (Option.any_eq_true _ _).1 named
    exact unnamed node hn info hi (eq_of_beq same)
  have first : (ofNodes nodes).resolve name =
      (nodes.find? fun node => Filed node.id name).map Node.id := by
    rw [resolve, none_named, Option.none_or, lookup_bySuffix some_char]
  refine ⟨first, fun node _ => CodeAtlas.filed_iff, fun even => ?_⟩
  rw [first]
  refine congrArg _ (List.find?_congr fun node hn => ?_)
  rw [decide_eq_decide, CodeAtlas.filed_iff]
  exact and_iff_left (even node hn)

/-- A function with the name after three colons and one with the name after a dot. -/
def tripled : List Node :=
  [.function "utils:::head" ⟨"utils:::head", "utils.R", 1, []⟩,
    .function "shell.head" ⟨"peek", "shell.R", 1, []⟩]

theorem resolve_by_end_tripled :
    "head" ≠ "" ∧ (∀ node ∈ tripled, ∀ info, node.function? = some info → info.name ≠ "head") ∧
    (ofNodes tripled).resolve "head" = some "shell.head" ∧
    MeansByEnd tripled "head" ((ofNodes tripled).resolve "head") := by
  have some_char : "head" ≠ "" := by decide
  have unnamed : ∀ node ∈ tripled, ∀ info, node.function? = some info → info.name ≠ "head" := by
    simp [tripled, Node.function, Node.function?]
  refine ⟨some_char, unnamed, by decide +kernel, resolve_by_end some_char unnamed⟩

/-- The first of the two ends in a separator and the name, and yet the other one is meant. -/
theorem not_first_tripled :
    EndsIn "utils:::head" "head" ∧
    (tripled.find? fun node => EndsIn node.id "head").map Node.id = some "utils:::head" ∧
    (ofNodes tripled).resolve "head" = some "shell.head" ∧
    (ofNodes (tripled.take 1)).resolve "head" = none := by
  decide +kernel

end CallIndex

end CodeAtlas
