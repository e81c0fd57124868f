import CodeAtlas.Json.Basic

/-!
# Outlines of JSON texts

A text is read into an outline before anything is known about the type it should have. The outline
of a broken text ends where the text breaks, with the fault that breaks it; so whoever walks the
outline in the order of the text meets its faults and the mismatches with a type in the order in
which they stand in the text, and the first one decides.

Reading a scalar and passing over it are different things: a number too large for a double and half
a surrogate pair are faults only of the reading.

* `Outline.fault?` is the first fault on passing over a value.
* `Outline.value?` is the value, for a text without a fault.
* `Outline.of` is the outline of a value, and `value?_of` says that nothing is lost in it.
-/

namespace CodeAtlas.Json

/-- How a text breaks: it ends too early, or something stands where it cannot stand. -/
inductive Fault where
  | ended
  | malformed
deriving DecidableEq, Repr

/-- A scalar that is no text. -/
inductive Atom where
  | null
  | bool (value : Bool)
  | int (value : Int)
  | float (value : Float)

/-- As much of a value as its text gives. -/
inductive Outline where
  /-- A quoted text: what it reads as, and the fault on passing over it. -/
  | text (reading : Except Fault String) (passing : Option Fault)
  /-- Any other scalar: what it reads as, and the fault on passing over it. -/
  | atom (reading : Except Fault Atom) (passing : Option Fault)
  /-- A place where a value belongs and none begins. -/
  | absent (fault : Fault)
  /-- The items of a list, and the fault after the last of them if the list is not closed. -/
  | array (items : List Outline) (ending : Option Fault)
  /-- The members of an object, and the fault after the last of them if it is not closed. Whatever
  stands in the place of a name is kept. -/
  | object (members : List (Outline × Outline)) (ending : Option Fault)

/-- A whole text: its value, and whether something follows the value. -/
structure Document where
  root : Outline
  trailing : Bool

/-- The fault on passing over a name; only a text can be one. -/
def Outline.nameFault? : Outline → Option Fault
  | .text _ passing => passing
  | .absent fault => some fault
  | _ => some .malformed

/-- The name of a member. -/
def Outline.name : Outline → Except Fault String
  | .text reading _ => reading
  | .absent fault => .error fault
  | _ => .error .malformed

mutual

/-- The first fault on passing over a value. -/
def Outline.fault? : Outline → Option Fault
  | .text _ passing => passing
  | .atom _ passing => passing
  | .absent fault => some fault
  | .array items ending => Outline.itemsFault? ending items
  | .object members ending => Outline.membersFault? ending members

/-- The first fault in a list of values that ends with `ending`. -/
def Outline.itemsFault? (ending : Option Fault) : List Outline → Option Fault
  | [] => ending
  | item :: items =>
    match item.fault? with
    | some fault => some fault
    | none => Outline.itemsFault? ending items

/-- The first fault in a list of members that ends with `ending`. -/
def Outline.membersFault? (ending : Option Fault) : List (Outline × Outline) → Option Fault
  | [] => ending
  | (name, value) :: rest =>
    match name.nameFault? with
    | some fault => some fault
    | none =>
      match value.fault? with
      | some fault => some fault
      | none => Outline.membersFault? ending rest

end

/-- Fails with a fault if there is one. -/
def orFault : Option Fault → Except Fault Unit
  | none => .ok ()
  | some fault => .error fault

/-- A scalar as a value. -/
def Atom.value : Atom → Json
  | .null => .null
  | .bool b => .bool b
  | .int n => .int n
  | .float x => .float x

mutual

/-- The value of an outline. The members of its objects are sorted by name, and the last of a name
counts. -/
def Outline.value? : Outline → Except Fault Json
  | .text reading _ => reading.map .text
  | .atom reading _ => reading.map Atom.value
  | .absent fault => .error fault
  | .array items ending => do
    let values ← Outline.values? items
    orFault ending
    return .array values
  | .object members ending => do
    let dictionary ← Outline.dictionary? [] members
    orFault ending
    return .object dictionary

/-- The values of a list of outlines. -/
def Outline.values? : List Outline → Except Fault (List Json)
  | [] => .ok []
  | item :: items => do
    let value ← item.value?
    let values ← Outline.values? items
    return value :: values

/-- Puts the values of members into a dictionary one after the other. -/
def Outline.dictionary? (done : List (String × Json)) :
    List (Outline × Outline) → Except Fault (List (String × Json))
  | [] => .ok done
  | (name, value) :: rest => do
    let key ← name.name
    let value ← value.value?
    Outline.dictionary? (insertMember key value done) rest

end

/-- The value of a whole text. -/
def Document.value? (document : Document) : Except Fault Json := do
  let value ← document.root.value?
  if document.trailing then .error .malformed else return value

/-! ## The outline of a value -/

mutual

/-- The outline of the text of a value. -/
def Outline.of : Json → Outline
  | .null => .atom (.ok .null) none
  | .bool b => .atom (.ok (.bool b)) none
  | .int n => .atom (.ok (.int n)) none
  | .float x => .atom (.ok (.float x)) none
  | .text s => .text (.ok s) none
  | .array items => .array (Outline.ofItems items) none
  | .object members => .object (Outline.ofMembers members) none

/-- The outlines of the items of a list. -/
def Outline.ofItems : List Json → List Outline
  | [] => []
  | item :: items => Outline.of item :: Outline.ofItems items

/-- The outlines of the members of an object. -/
def Outline.ofMembers : List (String × Json) → List (Outline × Outline)
  | [] => []
  | (name, value) :: rest => (.text (.ok name) none, Outline.of value) :: Outline.ofMembers rest

end

mutual

/-- The outline of a value has no fault. -/
theorem Outline.fault?_of : (value : Json) → (Outline.of value).fault? = none
  | .null | .bool _ | .int _ | .float _ | .text _ => by simp [Outline.of, Outline.fault?]
  | .array items => by
    simp [Outline.of, Outline.fault?, Outline.itemsFault?_ofItems items]
  | .object members => by
    simp [Outline.of, Outline.fault?, Outline.membersFault?_ofMembers members]

theorem Outline.itemsFault?_ofItems :
    (items : List Json) → Outline.itemsFault? none (Outline.ofItems items) = none
  | [] => by simp [Outline.ofItems, Outline.itemsFault?]
  | item :: items => by
    simp [Outline.ofItems, Outline.itemsFault?, Outline.fault?_of item,
      Outline.itemsFault?_ofItems items]

theorem Outline.membersFault?_ofMembers :
    (members : List (String × Json)) →
      Outline.membersFault? none (Outline.ofMembers members) = none
  | [] => by simp [Outline.ofMembers, Outline.membersFault?]
  | (name, value) :: rest => by
    simp [Outline.ofMembers, Outline.membersFault?, Outline.nameFault?, Outline.fault?_of value,
      Outline.membersFault?_ofMembers rest]

end

mutual

/-- Reading the outline of a value gives the value back, with its members sorted. -/
theorem Outline.value?_of : (value : Json) → (Outline.of value).value? = .ok value.sorted
  | .null | .bool _ | .int _ | .float _ | .text _ => by
    simp [Outline.of, Outline.value?, sorted, Except.map, Atom.value]
  | .array items => by
    simp [Outline.of, Outline.value?, sorted, Outline.values?_ofItems items, orFault, bind,
      Except.bind, pure, Except.pure]
  | .object members => by
    simp [Outline.of, Outline.value?, sorted, Outline.dictionary?_ofMembers [] members, orFault,
      bind, Except.bind, pure, Except.pure]

theorem Outline.values?_ofItems :
    (items : List Json) → Outline.values? (Outline.ofItems items) = .ok (sortedItems items)
  | [] => by simp [Outline.ofItems, Outline.values?, sortedItems]
  | item :: items => by
    simp [Outline.ofItems, Outline.values?, sortedItems, Outline.value?_of item,
      Outline.values?_ofItems items, bind, Except.bind, pure, Except.pure]

theorem Outline.dictionary?_ofMembers (done : List (String × Json)) :
    (members : List (String × Json)) →
      Outline.dictionary? done (Outline.ofMembers members) = .ok (sortedMembers done members)
  | [] => by simp [Outline.ofMembers, Outline.dictionary?, sortedMembers]
  | (name, value) :: rest => by
    simp [Outline.ofMembers, Outline.dictionary?, Outline.name, Outline.value?_of value,
      sortedMembers, Outline.dictionary?_ofMembers (insertMember name value.sorted done) rest, bind,
      Except.bind]

end

end CodeAtlas.Json
