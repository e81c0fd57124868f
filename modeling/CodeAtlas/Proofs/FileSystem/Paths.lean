import CodeAtlas.Path
import Mathlib.Data.List.Basic

/-!
# Paths and the directories above them

The paths of the directories above a path are made of its parts, put together again. So they have
these parts and no others, and none of them ends in a slash.

1. `join_ne_empty`, `dropSlashes_join`: a path that is joined to a base ends as it did.
2. `parts_intercalate`: parts that are put together are the parts of the whole.
3. `exists_isAbove_of_mem_ancestors`: the paths of the directories above a path.
   `IsAbove.filter_parts`, `IsAbove.isAbsolute_eq`, `IsAbove.dropSlashes_eq` say how they lead on.
-/

namespace CodeAtlas.Path

variable {base path : String}

/-! ## Ends of paths -/

theorem suffix_join (base path : String) : path.toList <:+ (join base path).toList := by
  unfold join
  split
  · exact List.suffix_rfl
  · split
    · exact List.suffix_rfl
    · rw [String.toList_append]
      exact List.suffix_append _ _
    · rw [String.toList_append]
      exact List.suffix_append _ _

theorem dropSlashes_eq_self {c : Char} (last : path.toList.getLast? = some c) (other : c ≠ '/') :
    dropSlashes path = path := by
  unfold dropSlashes
  cases chars : path.toList with
  | nil => rw [chars] at last; cases last
  | cons first rest =>
    rw [chars] at last
    have kept : rest.reverse.dropWhile (· == '/') = rest.reverse := by
      cases reversed : rest.reverse with
      | nil => rfl
      | cons final others =>
        have ends : rest = others.reverse ++ [final] := by
          rw [← List.reverse_reverse rest, reversed, List.reverse_cons]
        rw [ends, ← List.cons_append, List.getLast?_concat, Option.some_inj] at last
        exact List.dropWhile_cons_of_neg (by simpa [last] using other)
    dsimp only
    rw [kept, List.reverse_reverse, ← chars, String.ofList_toList]

/-- A path that does not end in a slash does not do so below a base. -/
theorem dropSlashes_join {c : Char} (last : path.toList.getLast? = some c) (other : c ≠ '/') :
    dropSlashes (join base path) = join base path := by
  obtain ⟨before, whole⟩ := suffix_join base path
  refine dropSlashes_eq_self (c := c) ?_ other
  rw [← whole, List.getLast?_append, last]
  rfl

theorem join_ne_empty (h : path ≠ "") : join base path ≠ "" := by
  intro empty
  obtain ⟨before, whole⟩ := suffix_join base path
  rw [empty] at whole
  exact h (String.toList_eq_nil_iff.1 (List.append_eq_nil_iff.1 whole).2)

/-! ## Parts -/

theorem pieces_append {piece : List Char} (h : '/' ∉ piece) (rest : List Char) :
    pieces (piece ++ '/' :: rest) = piece :: pieces rest := by
  induction piece with
  | nil => rfl
  | cons c piece ih =>
    rw [List.mem_cons, not_or] at h
    rw [List.cons_append, pieces, if_neg (Ne.symm h.1), ih h.2]

theorem pieces_eq_singleton {piece : List Char} (h : '/' ∉ piece) : pieces piece = [piece] := by
  induction piece with
  | nil => rfl
  | cons c piece ih =>
    rw [List.mem_cons, not_or] at h
    rw [pieces, if_neg (Ne.symm h.1), ih h.2]

theorem not_mem_of_mem_pieces {piece chars : List Char} (h : piece ∈ pieces chars) :
    '/' ∉ piece := by
  fun_induction pieces chars generalizing piece with
  | case1 => simp_all
  | case2 rest ih =>
    rcases List.mem_cons.1 h with rfl | h
    · exact List.not_mem_nil
    · exact ih h
  | case3 c rest other none ih =>
    rw [List.mem_singleton.1 h, List.mem_singleton]
    exact Ne.symm other
  | case4 c rest other first others split ih =>
    rcases List.mem_cons.1 h with rfl | h
    · rw [List.mem_cons, not_or]
      exact ⟨Ne.symm other, ih (split ▸ List.mem_cons_self)⟩
    · exact ih (split ▸ List.mem_cons_of_mem _ h)

theorem pieces_ne_nil (chars : List Char) : pieces chars ≠ [] := by
  fun_cases pieces chars <;> exact List.cons_ne_nil _ _

theorem pieces_concat (chars : List Char) : pieces (chars ++ ['/']) = pieces chars ++ [[]] := by
  induction chars with
  | nil => rfl
  | cons c chars ih =>
    obtain ⟨first, others, split⟩ := List.exists_cons_of_ne_nil (pieces_ne_nil chars)
    rw [List.cons_append, pieces, pieces, ih, split]
    split <;> rfl

theorem empty_mem_parts_of_isAbsolute (h : isAbsolute path = true) : "" ∈ parts path := by
  unfold isAbsolute at h
  cases chars : path.toList with
  | nil => rw [chars] at h; cases h
  | cons c rest =>
    rw [chars] at h
    have slash : c = '/' := by simpa using h
    rw [parts, chars, slash, pieces, if_pos rfl]
    exact List.mem_cons_self

theorem getLast?_parts_of_slash (h : path.toList.getLast? = some '/') :
    (parts path).getLast? = some "" := by
  obtain ⟨before, split⟩ := List.getLast?_eq_some_iff.1 h
  rw [parts, split, pieces_concat, List.map_append]
  exact List.getLast?_concat

theorem not_mem_of_mem_parts {part : String} (h : part ∈ parts path) : '/' ∉ part.toList := by
  obtain ⟨piece, mem, rfl⟩ := List.mem_map.1 h
  rw [String.toList_ofList]
  exact not_mem_of_mem_pieces mem

/-- Parts that are put together are the parts of the whole. -/
theorem parts_intercalate {items : List String} (some_items : items ≠ [])
    (plain : ∀ part ∈ items, '/' ∉ part.toList) : parts ("/".intercalate items) = items := by
  induction items with
  | nil => exact absurd rfl some_items
  | cons part rest ih =>
    have here := plain part List.mem_cons_self
    cases rest with
    | nil =>
      rw [String.intercalate_singleton, parts, pieces_eq_singleton here]
      simp
    | cons next rest =>
      have others := ih (List.cons_ne_nil _ _) fun p hp => plain p (List.mem_cons_of_mem _ hp)
      rw [String.intercalate_cons_of_ne_nil (List.cons_ne_nil _ _), parts, String.toList_append,
        String.toList_append, List.append_assoc]
      show (pieces (part.toList ++ '/' :: ("/".intercalate (next :: rest)).toList)).map _ = _
      rw [pieces_append here, List.map_cons, String.ofList_toList]
      exact congrArg (part :: ·) others

/-! ## Directories above -/

theorem exists_ancestors_eq_cons (h : path ≠ "") : ∃ above, ancestors path = path :: above := by
  rw [ancestors, if_neg (by simpa using h)]
  exact ⟨_, rfl⟩

/-- Whether a part leads on. -/
def LeadsOn (part : String) : Bool := part != "" && part != "."

/-- A path of some of the first parts of another that lead on, but not of all. -/
structure IsAbove (path above : String) (items rest : List String) : Prop where
  split : (parts path).filter LeadsOn = items ++ rest
  some_items : items ≠ []
  some_rest : rest ≠ []
  whole : above = (if isAbsolute path then "/" else "") ++ "/".intercalate items

theorem exists_isAbove_of_mem_ancestors {above : String} (h : above ∈ ancestors path) :
    above = path ∨ ∃ items rest, IsAbove path above items rest := by
  unfold ancestors at h
  split at h
  · cases h
  · rcases List.mem_cons.1 h with rfl | h
    · exact .inl rfl
    · obtain ⟨items, mem, rfl⟩ := List.mem_map.1 h
      obtain ⟨n, hn, rfl⟩ := List.mem_map.1 (List.mem_reverse.1 mem)
      have fewer : n < ((parts path).filter LeadsOn).length - 1 := List.mem_range.1 hn
      refine .inr ⟨_, _, (List.take_append_drop (n + 1) _).symm, ?_, ?_, rfl⟩
      · exact List.ne_nil_of_length_pos (by rw [List.length_take]; omega)
      · exact List.ne_nil_of_length_pos (by rw [List.length_drop]; omega)

namespace IsAbove

variable {above : String} {items rest : List String}

theorem plain (h : IsAbove path above items rest) {part : String} (mem : part ∈ items) :
    '/' ∉ part.toList ∧ part ≠ "" := by
  have kept : part ∈ (parts path).filter LeadsOn := h.split ▸ List.mem_append_left rest mem
  obtain ⟨mem, leads⟩ := List.mem_filter.1 kept
  refine ⟨not_mem_of_mem_parts mem, ?_⟩
  rintro rfl
  cases leads

theorem parts_eq (h : IsAbove path above items rest) :
    parts above = (if isAbsolute path then [""] else []) ++ items := by
  rw [h.whole]
  have together := parts_intercalate h.some_items fun part mem => (h.plain mem).1
  split
  · rw [parts, String.toList_append]
    show (pieces ('/' :: ("/".intercalate items).toList)).map String.ofList = _
    rw [pieces, if_pos rfl, List.map_cons]
    exact congrArg (_ :: ·) together
  · rw [String.empty_append, together, List.nil_append]

/-- The parts of a directory above that lead on are the first of those of the path. -/
theorem filter_parts (h : IsAbove path above items rest) :
    (parts above).filter LeadsOn = items := by
  have kept : items.filter LeadsOn = items := by
    refine List.filter_eq_self.2 fun part mem => ?_
    exact List.of_mem_filter (h.split ▸ List.mem_append_left rest mem)
  rw [h.parts_eq, List.filter_append, kept]
  split <;> rfl

theorem isAbsolute_eq (h : IsAbove path above items rest) :
    isAbsolute above = isAbsolute path := by
  cases absolute : isAbsolute path with
  | true =>
    rw [h.whole, absolute, if_pos rfl, isAbsolute, String.toList_append]
    rfl
  | false =>
    by_contra other
    have mem := empty_mem_parts_of_isAbsolute (eq_true_of_ne_false other)
    rw [h.parts_eq, absolute] at mem
    exact (h.plain mem).2 rfl

/-- A directory above does not end in a slash. -/
theorem dropSlashes_eq (h : IsAbove path above items rest) : dropSlashes above = above := by
  cases last : above.toList.getLast? with
  | none =>
    rw [List.getLast?_eq_none_iff, String.toList_eq_nil_iff] at last
    rw [last]
    rfl
  | some c =>
    refine dropSlashes_eq_self last ?_
    rintro rfl
    obtain ⟨before, part, split⟩ := (List.eq_nil_or_concat' items).resolve_left h.some_items
    have ends := getLast?_parts_of_slash last
    rw [h.parts_eq, split, ← List.append_assoc, List.getLast?_concat, Option.some_inj] at ends
    exact (h.plain (split ▸ List.mem_append_right before List.mem_cons_self)).2 ends

end IsAbove

end CodeAtlas.Path
