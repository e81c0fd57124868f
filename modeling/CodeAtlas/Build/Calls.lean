import CodeAtlas.Graph.Neighbours

/-!
# Resolving calls

A call names what it calls. The name means the first function of that name, or else the first
function whose id has the name right after a separator of namespaces. Separators are found from
left to right without overlap, so `a:::b` has one, and what follows it is `:b`.
-/

namespace CodeAtlas

/-- What follows each place where a separator stands, found from left to right without overlap. -/
def afterEach (separator : List Char) : List Char → List (List Char)
  | [] => []
  | c :: rest =>
    if separator.isPrefixOf (c :: rest) then
      let after := rest.drop (separator.length - 1)
      after :: afterEach separator after
    else afterEach separator rest
termination_by text => text.length
decreasing_by
  all_goals simp only [List.length_drop, List.length_cons]; omega

section AfterEach

variable {separator : List Char}

theorem afterEach_separator (some_char : separator ≠ []) (after : List Char) :
    afterEach separator (separator ++ after) = after :: afterEach separator after := by
  obtain ⟨c, others, rfl⟩ := List.exists_cons_of_ne_nil some_char
  have found : (c :: others).isPrefixOf (c :: (others ++ after)) = true :=
    List.isPrefixOf_iff_prefix.2 (List.prefix_append (c :: others) after)
  have rest : (others ++ after).drop ((c :: others).length - 1) = after := List.drop_left' rfl
  rw [List.cons_append, afterEach, if_pos found, rest]

theorem afterEach_of_apart {c : Char} {rest : List Char} (h : ¬ separator <+: c :: rest) :
    afterEach separator (c :: rest) = afterEach separator rest := by
  rw [afterEach, if_neg fun found => h (List.isPrefixOf_iff_prefix.1 found)]

/-- Induction along the search for a separator: it stands in front or the first character is passed
over. -/
@[elab_as_elim]
theorem afterEach_induction {motive : List Char → Prop} (nil : motive [])
    (found : ∀ after, motive after → motive (separator ++ after))
    (passed : ∀ c rest, ¬ separator <+: c :: rest → motive rest → motive (c :: rest))
    (some_char : separator ≠ []) (text : List Char) : motive text := by
  generalize hn : text.length = n
  induction n using Nat.strongRecOn generalizing text with
  | ind n ih =>
    by_cases h : separator <+: text
    · obtain ⟨after, rfl⟩ := h
      have pos : 0 < separator.length := List.length_pos_iff.2 some_char
      rw [List.length_append] at hn
      exact found after (ih after.length (by omega) after rfl)
    · cases text with
      | nil => exact nil
      | cons c rest =>
        rw [List.length_cons] at hn
        exact passed c rest h (ih rest.length (by omega) rest rfl)

end AfterEach

/-- The separators of namespaces. -/
def namespaceSeparators : List (List Char) := [[':', ':'], ['.']]

/-- The names by which the end of an id can be meant. -/
def idSuffixes (id : String) : List String :=
  (namespaceSeparators.flatMap fun separator =>
    (afterEach separator id.toList).filter (!·.isEmpty)).map String.ofList

/-- The functions that calls can mean, by name and by the end of the id, earlier ones first. -/
structure CallIndex where
  byName : List (String × String)
  bySuffix : List (String × String)

namespace CallIndex

/-- The index of a list of nodes. -/
def ofNodes (nodes : List Node) : CallIndex where
  byName := nodes.filterMap fun node => node.function?.map fun info => (info.name, node.id)
  bySuffix := nodes.flatMap fun node => (idSuffixes node.id).map (·, node.id)

/-- The function that a name means. -/
def resolve (index : CallIndex) (name : String) : Option String :=
  (index.byName.lookup name).or (index.bySuffix.lookup name)

end CallIndex

end CodeAtlas
