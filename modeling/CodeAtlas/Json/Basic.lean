/-!
# JSON values

Numbers are integers or doubles, and the two are different values even where they are equal as
numbers: `1` is written without a point and `1.0` with one. The members of an object are a list, so
that a record keeps the order of its declaration; a dictionary keeps its members sorted by name.
-/

namespace CodeAtlas

inductive Json where
  | null
  | bool (value : Bool)
  | int (value : Int)
  | float (value : Float)
  | text (value : String)
  | array (items : List Json)
  | object (members : List (String × Json))
deriving Inhabited

namespace Json

/-- A natural number. -/
def nat (n : Nat) : Json := .int n

/-- A list of texts. -/
def texts (ss : List String) : Json := .array (ss.map .text)

/-- A text, or null where there is none. -/
def text? : Option String → Json
  | none => .null
  | some s => .text s

/-- Puts a member into a list sorted by name, replacing the one of that name if there is one. -/
def insertMember (name : String) (value : Json) : List (String × Json) → List (String × Json)
  | [] => [(name, value)]
  | (key, old) :: rest =>
    if name = key then (name, value) :: rest
    else if name < key then (name, value) :: (key, old) :: rest
    else (key, old) :: insertMember name value rest

/-- Sets a member of a dictionary; a value that is no object has no members and stays as it is. -/
def set (json : Json) (name : String) (value : Json) : Json :=
  match json with
  | .object members => .object (insertMember name value members)
  | other => other

/-- The value of the first member with a name, for an object that has one. -/
def get? (json : Json) (name : String) : Option Json :=
  match json with
  | .object members => members.lookup name
  | _ => none

/-- The text, for a value that is one. -/
def asText? : Json → Option String
  | .text s => some s
  | _ => none

mutual

/-- The value with the members of every object in it sorted by name, the last of a name kept. -/
def sorted : Json → Json
  | .array items => .array (sortedItems items)
  | .object members => .object (sortedMembers [] members)
  | other => other

/-- The values of a list, each sorted. -/
def sortedItems : List Json → List Json
  | [] => []
  | item :: items => item.sorted :: sortedItems items

/-- Puts members, each sorted, into a sorted list one after the other. -/
def sortedMembers (done : List (String × Json)) : List (String × Json) → List (String × Json)
  | [] => done
  | (name, value) :: rest => sortedMembers (insertMember name value.sorted done) rest

end

theorem lookup_cons_of_eq (name : String) (value : Json) (members : List (String × Json)) :
    ((name, value) :: members).lookup name = some value := by
  rw [List.lookup_cons_self]

theorem lookup_cons_of_ne {name other : String} (h : other ≠ name) (value : Json)
    (members : List (String × Json)) :
    ((name, value) :: members).lookup other = members.lookup other := by
  rw [List.lookup_cons, beq_false_of_ne h]

theorem lookup_insertMember_self (name : String) (value : Json) (members : List (String × Json)) :
    (insertMember name value members).lookup name = some value := by
  induction members with
  | nil => rw [insertMember, lookup_cons_of_eq]
  | cons m rest ih =>
    obtain ⟨key, old⟩ := m
    rw [insertMember]
    split
    · rw [lookup_cons_of_eq]
    · rename_i h
      split
      · rw [lookup_cons_of_eq]
      · rw [lookup_cons_of_ne h, ih]

theorem lookup_insertMember_of_ne {name other : String} (h : other ≠ name) (value : Json)
    (members : List (String × Json)) :
    (insertMember name value members).lookup other = members.lookup other := by
  induction members with
  | nil => rw [insertMember, lookup_cons_of_ne h]
  | cons m rest ih =>
    obtain ⟨key, old⟩ := m
    rw [insertMember]
    split
    · rename_i hk
      rw [lookup_cons_of_ne h, lookup_cons_of_ne (hk ▸ h)]
    · split
      · rw [lookup_cons_of_ne h]
      · by_cases ho : other = key
        · rw [ho, lookup_cons_of_eq, lookup_cons_of_eq]
        · rw [lookup_cons_of_ne ho, lookup_cons_of_ne ho, ih]

end Json

end CodeAtlas
