import CodeAtlas.Json.Basic

/-!
# Values up to the order of their members

Sorting the members of its objects leaves of a value what it says and drops the order in which it
says so.

1. `get?_set_of_ne`: a member that is set changes no other.
2. `lookup_sortedMembers`, `get?_sorted_object`: sorting keeps the last member of each name.
3. `sorted_texts`: a list of texts has nothing to sort.
-/

namespace CodeAtlas

namespace Json

theorem get?_set_of_ne {name other : String} (h : other ≠ name) (json value : Json) :
    (json.set name value).get? other = json.get? other := by
  cases json with
  | object members => exact lookup_insertMember_of_ne h value members
  | _ => rfl

theorem sortedItems_eq_map (items : List Json) : sortedItems items = items.map sorted := by
  induction items with
  | nil => rfl
  | cons item rest ih => rw [sortedItems, ih, List.map_cons]

/-- Of several members of one name the last is kept. -/
theorem lookup_sortedMembers (name : String) (done members : List (String × Json)) :
    (sortedMembers done members).lookup name =
      ((members.reverse.lookup name).map sorted).or (done.lookup name) := by
  induction members generalizing done with
  | nil => rw [sortedMembers, List.reverse_nil, List.lookup_nil, Option.map_none, Option.none_or]
  | cons member rest ih =>
    obtain ⟨key, value⟩ := member
    rw [sortedMembers, ih, List.reverse_cons, List.lookup_append]
    cases rest.reverse.lookup name with
    | some later => rfl
    | none =>
      rw [Option.none_or, Option.map_none, Option.none_or]
      by_cases hk : name = key
      · rw [hk, lookup_insertMember_self, lookup_cons_of_eq]
        rfl
      · rw [lookup_insertMember_of_ne hk, lookup_cons_of_ne hk]
        rfl

theorem get?_sorted_object (members : List (String × Json)) (name : String) :
    (Json.object members).sorted.get? name = (members.reverse.lookup name).map sorted := by
  rw [sorted]
  show (sortedMembers [] members).lookup name = _
  rw [lookup_sortedMembers, List.lookup_nil, Option.or_none]

theorem sorted_array (items : List Json) : (array items).sorted = array (items.map sorted) := by
  rw [sorted, sortedItems_eq_map]

theorem sorted_texts (ss : List String) : (texts ss).sorted = texts ss := by
  rw [texts, sorted_array, List.map_map]
  rfl

/-- Objects that differ at most in the order of their members have the same values by name. -/
theorem sorted_eq_of_lookup (name : String) {members others : List (String × Json)}
    (h : (Json.object members).sorted = (Json.object others).sorted) {value other : Json}
    (hm : members.reverse.lookup name = some value)
    (ho : others.reverse.lookup name = some other) : value.sorted = other.sorted := by
  have same := get?_sorted_object members name
  rw [h, get?_sorted_object, hm, ho] at same
  exact (Option.some.inj same).symm

end Json

end CodeAtlas
