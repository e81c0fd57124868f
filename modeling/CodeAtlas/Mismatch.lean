import CodeAtlas.Decimal.Layout
import CodeAtlas.Text.Quoted

/-!
# Mismatches between data and types

Data of the right grammar may still not be of the type that is wanted. A mismatch says what was
found and what was wanted; formats share the wording up to the name of the null value and the
layout of doubles.
-/

namespace CodeAtlas

/-- What was found where something else was wanted. -/
inductive Found where
  | null
  | bool (value : Bool)
  | int (value : Int)
  /-- An integer beyond 64 bits, said to be one of the wider type `wide`. -/
  | wideInt (value : Int) (wide : String)
  | float (value : Float)
  | text (value : String)
  | sequence
  | map

/-- Why data is not of a type. -/
inductive Mismatch where
  | invalidType (found : Found) (expected : String)
  | invalidValue (found : Found) (expected : String)
  | invalidLength (length : Nat) (expected : String)
  | missingField (name : String)
  | duplicateField (name : String)
  | unknownVariant (name : String) (known : List String)

/-- How a format words what was found. -/
structure Wording where
  null : String
  floats : Decimal.Layout

/-- A word between grave accents. -/
def ticked (s : String) : String := "`" ++ s ++ "`"

/-- What was found, in words. -/
def Found.describe (wording : Wording) : Found → String
  | .null => wording.null
  | .bool b => "boolean " ++ ticked (if b then "true" else "false")
  | .int n => "integer " ++ ticked (toString n)
  | .wideInt n wide => "integer " ++ ticked (toString n) ++ " as " ++ wide
  | .float x => "floating point " ++ ticked (wording.floats.write x)
  | .text s => "string " ++ Text.quoted s
  | .sequence => "sequence"
  | .map => "map"

/-- The message of a mismatch. -/
def Mismatch.message (wording : Wording) : Mismatch → String
  | .invalidType found expected =>
    "invalid type: " ++ found.describe wording ++ ", expected " ++ expected
  | .invalidValue found expected =>
    "invalid value: " ++ found.describe wording ++ ", expected " ++ expected
  | .invalidLength length expected =>
    "invalid length " ++ toString length ++ ", expected " ++ expected
  | .missingField name => "missing field " ++ ticked name
  | .duplicateField name => "duplicate field " ++ ticked name
  | .unknownVariant name known => 
    "unknown variant " ++ ticked name ++ ", expected one of " ++
      ", ".intercalate (known.map ticked)

end CodeAtlas
