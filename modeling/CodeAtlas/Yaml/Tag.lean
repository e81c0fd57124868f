import CodeAtlas.Yaml.Scalar

/-!
# Tags

The tag of a value is a handle, which stands for the beginning of a name, and a suffix. An octet of
the name can be written as a percent sign and two hexadecimal digits; octets beyond ASCII must begin
and go on as in UTF-8. A name ends before a null octet.
-/

namespace CodeAtlas.Yaml

/-- Whether a character can stand in a name. -/
def isNameChar (c : Char) : Bool := c.isAlphanum || c == '_' || c == '-'

/-- Whether a character can stand in the suffix of a tag; commas and brackets only in one that is
written out. -/
def isTagChar (written : Bool) (c : Char) : Bool :=
  isNameChar c || ";/?:@&=+$.!~*'()%".toList.contains c ||
    (written && ",[]".toList.contains c)

/-- How many octets follow the first one of a character. -/
def octetsAfter? (first : Nat) : Option Nat :=
  if first < 0x80 then some 0
  else if first < 0xC0 then none
  else if first < 0xE0 then some 1
  else if first < 0xF0 then some 2
  else if first < 0xF8 then some 3
  else none

/-- How many octets of a character are still to come after one more, where `due` were to come
before it. -/
def octetsLeft? (due octet : Nat) : Option Nat :=
  if due = 0 then octetsAfter? octet
  else if 0x80 ≤ octet ∧ octet < 0xC0 then some (due - 1)
  else none

/-- The part of a tag at the front, octet by octet where percent signs are, and the marks after it.
`due` is the number of octets to come of the character that has begun. -/
def readTagPart (written : Bool) (due : Nat) : List Mark → Option (List Char × List Mark)
  | [] => some ([], [])
  | m :: ms =>
    if m.char == '%' then
      match hexNumber? 2 0 ms, ms with
      | some octet, _ :: _ :: rest =>
        match octetsLeft? due octet with
        | some due =>
          (readTagPart written due rest).map fun (part, after) => (Char.ofNat octet :: part, after)
        | none => none
      | _, _ => none
    else if due != 0 then none
    else if isTagChar written m.char then
      (readTagPart written 0 ms).map fun (part, after) => (m.char :: part, after)
    else some ([], m :: ms)

/-- The part of a tag at the front, which must not be empty, and the marks after it. -/
def readSuffix (written : Bool) (ms : List Mark) : Option (List Char × List Mark) :=
  (readTagPart written 0 ms).filter fun (part, _) => !part.isEmpty

/-- The handle after the exclamation mark at the front, and the marks after it. The handle is closed
by another exclamation mark if one stands right after its name. -/
def readHandle (ms : List Mark) : List Char × List Mark :=
  let name := (ms.drop 1).takeWhile (isNameChar ·.char)
  let after := ms.drop (1 + name.length)
  let opened := '!' :: name.map Mark.char
  if front after == '!' then (opened ++ ['!'], after.drop 1) else (opened, after)

/-- Whether a handle has an exclamation mark at its end as well as at its start. -/
def isClosed (handle : List Char) : Bool := 1 < handle.length && handle.getLast? == some '!'

/-- A name up to its first null octet. -/
def upToNull (name : List Char) : List Char := name.takeWhile (· != '\x00')

/-- A tag at the front: its handle, its suffix, and the marks after it. A tag between angle brackets
is written out and has an empty handle, and so has a single exclamation mark. -/
def readTag (ms : List Mark) : Option (List Char × List Char × List Mark) :=
  if second ms == '<' then
    match readSuffix true (ms.drop 2) with
    | some (suffix, rest) =>
      if front rest == '>' then some ([], upToNull suffix, rest.drop 1) else none
    | none => none
  else
    let (handle, after) := readHandle ms
    if isClosed handle then
      (readSuffix false after).map fun (suffix, rest) => (handle, upToNull suffix, rest)
    else
      (readTagPart false 0 after).map fun (part, rest) =>
        let suffix := upToNull (handle.drop 1 ++ part)
        if suffix.isEmpty then ([], ['!'], rest) else (['!'], suffix, rest)

end CodeAtlas.Yaml
