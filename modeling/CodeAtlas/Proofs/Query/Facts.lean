import CodeAtlas.Proofs.Json.Sorted
import CodeAtlas.Proofs.List.Occurrences
import CodeAtlas.Query.Answer
import Mathlib.Data.List.Nodup

/-!
# The facts of answers

What the steps by which an answer is put together do to its two lists and to its facts. Facts are
kept by name: a fact changes the look-up of its own name and of no other.

1. `files_addFiles`: files that are added one after the other.
2. `get?_withFact_of_ne`, `HasFacts.get?_withFacts`: the facts that are added one after the other.
3. `get?_totalFiles_cut`, `get?_totalFunctions_cut`, `get?_cut_of_ne`: the facts of a cut answer.
-/

namespace CodeAtlas

namespace Answer

variable (a : Answer)

/-! ## Files -/

/-- Adding files changes nothing else. -/
theorem addFiles_eq (files : List String) :
    a.addFiles files = { a with files := (a.addFiles files).files } := by
  unfold addFiles
  induction files generalizing a with
  | nil => rfl
  | cons file rest ih =>
    have step : ∃ kept, a.addFile file = { a with files := kept } := by
      unfold addFile
      split
      · exact ⟨a.files, rfl⟩
      · exact ⟨a.files ++ [file], rfl⟩
    obtain ⟨kept, hk⟩ := step
    rw [List.foldl_cons, hk, ih]

@[simp] theorem functions_addFiles (files : List String) :
    (a.addFiles files).functions = a.functions := by rw [addFiles_eq]

@[simp] theorem metadata_addFiles (files : List String) :
    (a.addFiles files).metadata = a.metadata := by rw [addFiles_eq]

@[simp] theorem intent_addFiles (files : List String) :
    (a.addFiles files).intent = a.intent := by rw [addFiles_eq]

theorem files_addFile (file : String) :
    (a.addFile file).files = if file ∈ a.files then a.files else a.files ++ [file] := by
  unfold addFile
  rw [← List.elem_eq_contains]
  by_cases known : file ∈ a.files
  · simp [known]
  · simp [known]

theorem addFiles_append (files more : List String) :
    a.addFiles (files ++ more) = (a.addFiles files).addFiles more := List.foldl_append

variable {a}

/-- Of the files that are added, each is kept where it occurs first. -/
theorem files_addFiles (h : a.files.Nodup) (files : List String) :
    (a.addFiles files).files = (a.files ++ files).eraseDups := by
  unfold addFiles
  induction files generalizing a with
  | nil => rw [List.foldl_nil, List.append_nil, eraseDups_eq_self h]
  | cons file rest ih =>
    have step : (a.addFile file).files = (a.files ++ [file]).eraseDups := by
      rw [files_addFile, eraseDups_concat, eraseDups_eq_self h]
    rw [List.foldl_cons, ih (step ▸ nodup_eraseDups _), step, eraseDups_eraseDups_append,
      List.append_assoc, List.singleton_append]

theorem nodup_files_addFiles (h : a.files.Nodup) (files : List String) :
    (a.addFiles files).files.Nodup := by
  rw [files_addFiles h]
  exact nodup_eraseDups _

/-- Files that are pairwise different and new are all kept. -/
theorem files_addFiles_of_nodup {files : List String} (h : (a.files ++ files).Nodup) :
    (a.addFiles files).files = a.files ++ files := by
  rw [files_addFiles (List.nodup_append.1 h).1, eraseDups_eq_self h]

/-! ## Facts -/

variable (a)

/-- Facts change nothing else. -/
theorem withFacts_eq (facts : List (String × Json)) :
    a.withFacts facts = { a with metadata := (a.withFacts facts).metadata } := by
  unfold withFacts
  induction facts generalizing a with
  | nil => rfl
  | cons fact rest ih => rw [List.foldl_cons, ih]; rfl

@[simp] theorem intent_withFacts (facts : List (String × Json)) :
    (a.withFacts facts).intent = a.intent := by rw [withFacts_eq]

@[simp] theorem files_withFacts (facts : List (String × Json)) :
    (a.withFacts facts).files = a.files := by rw [withFacts_eq]

@[simp] theorem functions_withFacts (facts : List (String × Json)) :
    (a.withFacts facts).functions = a.functions := by rw [withFacts_eq]

theorem get?_withFact_of_ne {name other : String} (h : other ≠ name) (value : Json) :
    (a.withFact name value).metadata.get? other = a.metadata.get? other :=
  Json.get?_set_of_ne h _ _

theorem error?_withFact_of_ne {name : String} (h : "error" ≠ name) (value : Json) :
    (a.withFact name value).error? = a.error? := by
  unfold error?
  rw [get?_withFact_of_ne a h]

/-! ## Dictionaries -/

/-- Whether the facts of an answer are a dictionary. -/
def HasFacts : Prop := ∃ members, a.metadata = .object members

variable {a}

theorem HasFacts.withFact (h : a.HasFacts) (name : String) (value : Json) :
    (a.withFact name value).HasFacts := by
  obtain ⟨members, hm⟩ := h
  refine ⟨Json.insertMember name value.sorted members, ?_⟩
  show a.metadata.set name value.sorted = _
  rw [hm]
  rfl

theorem HasFacts.withFacts (h : a.HasFacts) (facts : List (String × Json)) :
    (a.withFacts facts).HasFacts := by
  unfold Answer.withFacts
  induction facts generalizing a with
  | nil => exact h
  | cons fact rest ih => exact ih (h.withFact fact.1 fact.2)

theorem HasFacts.get?_withFact (h : a.HasFacts) (name : String) (value : Json) :
    (a.withFact name value).metadata.get? name = some value.sorted := by
  obtain ⟨members, hm⟩ := h
  show (a.metadata.set name value.sorted).get? name = _
  rw [hm]
  exact Json.lookup_insertMember_self _ _ _

/-- Of several facts of one name the last is kept. -/
theorem HasFacts.get?_withFacts (h : a.HasFacts) (facts : List (String × Json)) (name : String) :
    (a.withFacts facts).metadata.get? name =
      ((facts.reverse.lookup name).map Json.sorted).or (a.metadata.get? name) := by
  unfold Answer.withFacts
  induction facts generalizing a with
  | nil => rw [List.foldl_nil, List.reverse_nil, List.lookup_nil, Option.map_none, Option.none_or]
  | cons fact rest ih =>
    obtain ⟨key, value⟩ := fact
    rw [List.foldl_cons, ih (h.withFact key value), List.reverse_cons, List.lookup_append]
    cases rest.reverse.lookup name with
    | some later => rfl
    | none =>
      rw [Option.none_or, Option.map_none, Option.none_or]
      by_cases hk : name = key
      · subst hk
        rw [h.get?_withFact, Json.lookup_cons_of_eq]
        rfl
      · rw [get?_withFact_of_ne a hk, Json.lookup_cons_of_ne hk]
        rfl

/-! ## Cutting -/

variable (limit : Nat)

theorem files_cut : (a.cut limit).files = a.files.take limit := by
  have step : (a.cut limit).files = (a.cutFiles limit).files := by
    unfold cut cutFunctions
    split <;> rfl
  rw [step]
  unfold cutFiles
  split
  · rfl
  · exact (List.take_of_length_le (by omega)).symm

theorem functions_cutFiles : (a.cutFiles limit).functions = a.functions := by
  unfold cutFiles
  split <;> rfl

theorem functions_cut : (a.cut limit).functions = a.functions.take limit := by
  unfold cut cutFunctions
  rw [functions_cutFiles]
  split
  · rfl
  · rw [functions_cutFiles]
    exact (List.take_of_length_le (by omega)).symm

theorem intent_cut : (a.cut limit).intent = a.intent := by
  have step : (a.cutFiles limit).intent = a.intent := by
    unfold cutFiles
    split <;> rfl
  rw [← step]
  unfold cut cutFunctions
  split <;> rfl

theorem get?_cutFiles_of_ne {name : String} (h : name ≠ "totalFiles") :
    (a.cutFiles limit).metadata.get? name = a.metadata.get? name := by
  unfold cutFiles
  split
  · exact get?_withFact_of_ne a h _
  · rfl

theorem get?_cutFunctions_of_ne {name : String} (h : name ≠ "totalFunctions") :
    (a.cutFunctions limit).metadata.get? name = a.metadata.get? name := by
  unfold cutFunctions
  split
  · exact get?_withFact_of_ne a h _
  · rfl

/-- A cut leaves all facts but the two totals alone. -/
theorem get?_cut_of_ne {name : String} (files : name ≠ "totalFiles")
    (functions : name ≠ "totalFunctions") :
    (a.cut limit).metadata.get? name = a.metadata.get? name := by
  unfold cut
  rw [get?_cutFunctions_of_ne limit functions, get?_cutFiles_of_ne limit files]

theorem error?_cut : (a.cut limit).error? = a.error? := by
  unfold error?
  rw [get?_cut_of_ne limit (by decide) (by decide)]

theorem HasFacts.cutFiles (h : a.HasFacts) : (a.cutFiles limit).HasFacts := by
  unfold Answer.cutFiles
  split
  · exact h.withFact _ _
  · exact h

/-- The number of files is kept where some are cut. -/
theorem HasFacts.get?_totalFiles_cut (h : a.HasFacts)
    (none_yet : a.metadata.get? "totalFiles" = none) :
    (a.cut limit).metadata.get? "totalFiles" =
      if limit < a.files.length then some (.nat a.files.length) else none := by
  unfold cut
  rw [get?_cutFunctions_of_ne limit (by decide)]
  unfold Answer.cutFiles
  split
  · exact h.get?_withFact _ _
  · exact none_yet

/-- The number of functions is kept where some are cut. -/
theorem HasFacts.get?_totalFunctions_cut (h : a.HasFacts)
    (none_yet : a.metadata.get? "totalFunctions" = none) :
    (a.cut limit).metadata.get? "totalFunctions" =
      if limit < a.functions.length then some (.nat a.functions.length) else none := by
  unfold cut cutFunctions
  rw [functions_cutFiles]
  split
  · exact (h.cutFiles limit).get?_withFact _ _
  · rw [get?_cutFiles_of_ne limit (by decide)]
    exact none_yet

end Answer

end CodeAtlas
