import CodeAtlas.Json.Printer
import CodeAtlas.Json.Outline
import CodeAtlas.Mismatch

/-!
# Reading typed data from JSON

Readers walk an outline in the order of its text, so the first fault or mismatch decides. A record
may be given as an object, in any order and with members of other names, or as the list of its
fields in their declared order.
-/

namespace CodeAtlas.Json

/-- Why a text does not give data of a type. -/
inductive Problem where
  | fault (fault : Fault)
  | mismatch (mismatch : Mismatch)

/-- The wording of mismatches in JSON. -/
def wording : Wording := ⟨"null", numberLayout⟩

/-- The message of a problem. All faults have one message. -/
def Problem.message : Problem → String
  | .fault _ => "syntax"
  | .mismatch m => m.message wording

/-- The problem of a fault. -/
def faulty {α : Type} (fault : Fault) : Except Problem α := .error (.fault fault)

/-- The problem of something of another type. -/
def unexpected {α : Type} (found : Found) (expected : String) : Except Problem α :=
  .error (.mismatch (.invalidType found expected))

/-- What a scalar is, in a mismatch. -/
def Atom.found : Atom → Found
  | .null => .null
  | .bool b => .bool b
  | .int n => .int n
  | .float x => .float x

/-- The problem of an outline that is not of the expected type. -/
def Outline.refuse {α : Type} (expected : String) : Outline → Except Problem α
  | .text (.ok s) _ => unexpected (.text s) expected
  | .text (.error fault) _ => faulty fault
  | .atom (.ok a) _ => unexpected a.found expected
  | .atom (.error fault) _ => faulty fault
  | .absent fault => faulty fault
  | .array .. => unexpected .sequence expected
  | .object .. => unexpected .map expected

/-- Reads a text. -/
def Outline.readText : Outline → Except Problem String
  | .text (.ok s) _ => .ok s
  | other => other.refuse "a string"

/-- Reads an integer from `least` up to `greatest`. -/
def Outline.readInt (typeName : String) (least greatest : Int) : Outline → Except Problem Int
  | .atom (.ok (.int n)) _ =>
    if least ≤ n ∧ n ≤ greatest then .ok n
    else .error (.mismatch (.invalidValue (.int n) typeName))
  | other => other.refuse typeName

/-- Reads null or a value. -/
def Outline.readOptional {α : Type} (read : Outline → Except Problem α) :
    Outline → Except Problem (Option α)
  | .atom (.ok .null) _ => .ok none
  | other => (read other).map some

/-- Reads values one after the other. -/
def readEach {α : Type} (read : Outline → Except Problem α) :
    List Outline → Except Problem (List α)
  | [] => .ok []
  | item :: items => do
    let value ← read item
    let values ← readEach read items
    return value :: values

/-- Fails with the fault that ends a list or an object, if there is one. -/
def ending : Option Fault → Except Problem Unit
  | none => .ok ()
  | some fault => faulty fault

/-- Reads a list. -/
def Outline.readList {α : Type} (read : Outline → Except Problem α) :
    Outline → Except Problem (List α)
  | .array items fault => do
    let values ← readEach read items
    ending fault
    return values
  | other => other.refuse "a sequence"

/-- Reads one of a list of named constants: its name, or an object whose one member has the name
and the value null. Where neither begins the text is broken, whatever stands there. -/
def Outline.readChoice {α : Type} (choices : List (String × α)) :
    Outline → Except Problem α
  | .text reading _ => do
    match reading with
    | .ok name => choose name
    | .error fault => faulty fault
  | .object [] fault => faulty (fault.getD .malformed)
  | .object ((key, content) :: others) fault => do
    let choice ← match key with
      | .text (.ok name) _ => choose name
      | other => other.refuse "variant identifier"
    match content with
    | .atom (.ok .null) _ => pure ()
    | other => other.refuse "unit"
    if others.isEmpty then ending fault else faulty .malformed
    return choice
  | .absent fault => faulty fault
  | _ => faulty .malformed
where
  /-- The constant of a name. -/
  choose (name : String) : Except Problem α :=
    match choices.lookup name with
    | some choice => .ok choice
    | none => .error (.mismatch (.unknownVariant name (choices.map (·.1))))

/-! ## Records -/

/-- A field of a record that is filled in step by step. -/
structure Field (σ : Type) where
  name : String
  /-- A list of fields may not end before this field. -/
  required : Bool
  filled : σ → Bool
  fill : Outline → σ → Except Problem σ

/-- A record: its name, its fields in their declared order, and how the fields give the record. The
name of the first required field without a value is given back if there is one. -/
structure Record (σ α : Type) where
  name : String
  fields : List (Field σ)
  empty : σ
  finish : σ → Except String α

/-- Fills in members. A field may have one value only, and members of other names are passed
over. -/
def fillMembers {σ : Type} (fields : List (Field σ)) (slots : σ) :
    List (Outline × Outline) → Except Problem σ
  | [] => .ok slots
  | (key, content) :: rest =>
    match key.name with
    | .error fault => faulty fault
    | .ok name =>
      match fields.find? (·.name == name) with
      | none =>
        match content.fault? with
        | some fault => faulty fault
        | none => fillMembers fields slots rest
      | some field =>
        if field.filled slots then .error (.mismatch (.duplicateField name))
        else do
          let slots ← field.fill content slots
          fillMembers fields slots rest

/-- Fills in the fields of the record named `title`, in their order, from a list that ends with
`fault`. -/
def fillItems {σ : Type} (title : String) (fault : Option Fault) (count : Nat) (slots : σ) :
    List (Field σ) → List Outline → Except Problem σ
  | [], [] => do
    ending fault
    return slots
  | [], _ :: _ => faulty .malformed
  | field :: fields, [] => do
    ending fault
    if field.required then .error (.mismatch (.invalidLength count title))
    else fillItems title fault count slots fields []
  | field :: fields, item :: items => do
    let slots ← field.fill item slots
    fillItems title fault (count + 1) slots fields items

/-- The name of a record as a list of so many items. -/
def Record.title {σ α : Type} (record : Record σ α) : String :=
  let count := record.fields.length
  "struct " ++ record.name ++ " with " ++ toString count ++
    (if count = 1 then " element" else " elements")

/-- Reads a record. -/
def Record.read {σ α : Type} (record : Record σ α) : Outline → Except Problem α
  | .object members fault => do
    let slots ← fillMembers record.fields record.empty members
    ending fault
    finish slots
  | .array items fault => do
    let slots ← fillItems record.title fault 0 record.empty record.fields items
    finish slots
  | other => other.refuse ("struct " ++ record.name)
where
  /-- The record, or the mismatch of a missing field. -/
  finish (slots : σ) : Except Problem α :=
    match record.finish slots with
    | .ok value => .ok value
    | .error name => .error (.mismatch (.missingField name))

/-- Reads a whole text. -/
def Document.read? {α : Type} (read : Outline → Except Problem α) (document : Document) :
    Except Problem α := do
  let value ← read document.root
  if document.trailing then faulty .malformed else return value

end CodeAtlas.Json
