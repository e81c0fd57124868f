import CodeAtlas.Yaml.Resolve

/-!
# Reading typed data from YAML

Readers walk an outline in the order of its text, so the first break or mismatch decides. A mismatch
is reported with the names on the way to it.
-/

namespace CodeAtlas.Yaml

/-- Why a text does not give data of a type. -/
inductive Problem where
  /-- The text breaks. -/
  | broken
  /-- Something at the end of a way of names is of another type. -/
  | mismatch (way : List String) (mismatch : Mismatch)

/-- The wording of mismatches in YAML. -/
def wording : Wording := ⟨"unit value", Decimal.messageLayout⟩

/-- The message of a problem. All breaks have one message. -/
def Problem.message : Problem → String
  | .broken => "syntax"
  | .mismatch [] m => m.message wording
  | .mismatch way m => ".".intercalate way ++ ": " ++ m.message wording

/-- The value behind an alias, and any other value itself. -/
def Document.follow (d : Document) : Outline → Outline
  | .alias n => (d.anchored.lookup n).getD .broken
  | other => other

/-- The problem of a value that is not of the expected type. -/
def Outline.refuse {α : Type} (way : List String) (expected : String) :
    Outline → Except Problem α
  | .scalar s => .error (.mismatch way (s.mismatch expected))
  | .sequence .. => .error (.mismatch way (.invalidType .sequence expected))
  | .mapping .. => .error (.mismatch way (.invalidType .map expected))
  | .alias _ | .broken => .error .broken

/-- Reads the values of one type from a document, each at the end of a way of names. -/
abbrev Reader (α : Type) : Type := Document → List String → Outline → Except Problem α

/-- Reads a scalar by its meaning. -/
def readScalar {α : Type} (tag expected : String) (mean : List Char → Option α) : Reader α :=
  fun d way o =>
    match d.follow o with
    | .scalar s =>
      match if s.canMean tag then mean s.text else none with
      | some value => .ok value
      | none => Outline.refuse way expected (.scalar s)
    | other => other.refuse way expected

/-- Reads a truth value. -/
def readBool : Reader Bool := readScalar "bool" "a boolean" boolOf?

/-- Reads an integer of 64 bits without a sign, of the type with this name. -/
def readWord (typeName : String) : Reader UInt64 :=
  readScalar "int" typeName fun cs => (natUpTo? (Nat.pow 2 64 - 1) cs).map UInt64.ofNat

/-- Reads a double. -/
def readFloat : Reader Float := readScalar "float" "f64" floatOf?

/-- Reads the text of a path; every scalar has one. -/
def readPath : Reader String := fun d way o =>
  match d.follow o with
  | .scalar s => .ok (String.ofList s.text)
  | other => other.refuse way "path string"

/-- A field of a record, which changes the record. -/
structure Field (α : Type) where
  name : String
  read : Document → List String → Outline → α → Except Problem α

/-- The field that puts what a reader reads into the record. -/
def Field.of {α β : Type} (name : String) (read : Reader β) (put : α → β → α) : Field α :=
  ⟨name, fun d way o record => (read d way o).map (put record)⟩

/-- The name of a field at the end of a way. -/
def readName (d : Document) (way : List String) (o : Outline) : Except Problem String :=
  match d.follow o with
  | .scalar s => .ok (String.ofList s.text)
  | other => other.refuse way "field identifier"

/-- What is read under a key. A key that is an alias is no name on the way, so a mismatch under it
counts as a break. -/
def underKey {α : Type} (key : Outline) (result : Except Problem α) : Except Problem α :=
  match key with
  | .alias _ => result.mapError fun _ => .broken
  | _ => result

/-- Changes a record by the entries of a map. A field may be given once, and other entries are
passed over. -/
def readEntries {α : Type} (fields : List (Field α)) (d : Document) (way seen : List String)
    (record : α) : List (Outline × Outline) → Except Problem α
  | [] => .ok record
  | (key, content) :: rest => do
    let name ← readName d way key
    match fields.find? (·.name == name) with
    | none =>
      if content.isWhole then readEntries fields d way seen record rest else .error .broken
    | some field =>
      if seen.contains name then .error (.mismatch way (.duplicateField name))
      else
        let record ← underKey key (field.read d (way ++ [name]) content record)
        readEntries fields d way (name :: seen) record rest

/-- Changes a record by a map; an empty plain scalar is a map without entries. -/
def readRecord {α : Type} (title : String) (fields : List (Field α)) (d : Document)
    (way : List String) (o : Outline) (record : α) : Except Problem α :=
  match d.follow o with
  | .mapping entries whole => do
    let record ← readEntries fields d way [] record entries
    if whole then return record else .error .broken
  | .scalar s =>
    if s.text.isEmpty && s.style == .plain then .ok record
    else Outline.refuse way ("struct " ++ title) (.scalar s)
  | other => other.refuse way ("struct " ++ title)

/-- Changes a record by a whole text. -/
def readText {α : Type} (title : String) (fields : List (Field α)) (text : String) (record : α) :
    Except Problem α := do
  let d := Document.read text
  let record ← readRecord title fields d [] d.root record
  if d.whole then return record else .error .broken

end CodeAtlas.Yaml
