import CodeAtlas.Json.Number

/-!
# Reading JSON

The text of a value is read from left to right into an outline. What is left after a value is at
most as long as the text, and shorter by every bracket, comma and colon, so the reading ends.
-/

namespace CodeAtlas.Json

/-- Whether a character may stand between the parts of a text. -/
def isGap (c : Char) : Bool := c = ' ' || c = '\n' || c = '\t' || c = '\r'

/-- The fault of something else standing, or nothing standing, in a place. -/
def faultAt : List Char → Fault
  | [] => .ended
  | _ => .malformed

/-! ## Quoted texts -/

/-- A piece of a quoted text: a character, or a UTF-16 unit given by number. -/
inductive Piece where
  | char (c : Char)
  | unit (n : Nat)

/-- The value of a hexadecimal digit. -/
def hexValue? (c : Char) : Option Nat :=
  if '0' ≤ c ∧ c ≤ '9' then some (c.toNat - '0'.toNat)
  else if 'a' ≤ c ∧ c ≤ 'f' then some (c.toNat - 'a'.toNat + 10)
  else if 'A' ≤ c ∧ c ≤ 'F' then some (c.toNat - 'A'.toNat + 10)
  else none

/-- The fault of a number that is not four hexadecimal digits: the text has ended if not even four
bytes are left. -/
def hexFault (cs : List Char) : Fault :=
  if (String.ofList (cs.take 4)).utf8ByteSize < 4 then .ended else .malformed

/-- The character that a backslash and `c` stand for. -/
def escaped? (c : Char) : Option Char :=
  match c with
  | '"' => some '"'
  | '\\' => some '\\'
  | '/' => some '/'
  | 'b' => some '\x08'
  | 'f' => some '\x0c'
  | 'n' => some '\n'
  | 'r' => some '\r'
  | 't' => some '\t'
  | _ => none

/-- The pieces up to the closing quote, the fault that breaks them, and what is left. -/
def pieces : List Char → List Piece × Option Fault × List Char
  | [] => ([], some .ended, [])
  | '"' :: cs => ([], none, cs)
  | '\\' :: 'u' :: a :: b :: c :: d :: cs =>
    match hexValue? a, hexValue? b, hexValue? c, hexValue? d with
    | some p, some q, some r, some s =>
      let (found, fault, rest) := pieces cs
      (.unit (((p * 16 + q) * 16 + r) * 16 + s) :: found, fault, rest)
    | _, _, _, _ => ([], some (hexFault (a :: b :: c :: d :: cs)), [])
  | '\\' :: 'u' :: cs => ([], some (hexFault cs), [])
  | '\\' :: c :: cs =>
    match escaped? c with
    | some e =>
      let (found, fault, rest) := pieces cs
      (.char e :: found, fault, rest)
    | none => ([], some .malformed, [])
  | '\\' :: [] => ([], some .ended, [])
  | c :: cs =>
    if c.toNat < 32 then ([], some .malformed, [])
    else
      let (found, fault, rest) := pieces cs
      (.char c :: found, fault, rest)

/-- Whether a unit begins a surrogate pair. -/
def isHigh (n : Nat) : Bool := 0xD800 ≤ n && n ≤ 0xDBFF

/-- Whether a unit ends a surrogate pair. -/
def isLow (n : Nat) : Bool := 0xDC00 ≤ n && n ≤ 0xDFFF

/-- The characters of pieces that break with `fault`, if they break. The two units of a surrogate
pair follow one another. -/
def assemble (fault : Option Fault) : List Piece → Except Fault (List Char)
  | [] => match fault with
    | none => .ok []
    | some f => .error f
  | .char c :: found => (assemble fault found).map (c :: ·)
  | .unit n :: found =>
    if isHigh n then
      match found with
      | .unit m :: found =>
        if isLow m then
          (assemble fault found).map
            (Char.ofNat (0x10000 + (n - 0xD800) * 0x400 + (m - 0xDC00)) :: ·)
        else .error .malformed
      | [] => .error (fault.getD .malformed)
      | _ => .error .malformed
    else if isLow n then .error .malformed
    else (assemble fault found).map (Char.ofNat n :: ·)

theorem pieces_length (cs : List Char) : (pieces cs).2.2.length ≤ cs.length := by
  fun_induction pieces cs <;> simp_all <;> omega

/-! ## Other scalars -/

/-- Whether a character is a decimal digit. -/
def isDigit (c : Char) : Bool := c.isDigit

/-- The digits at the front of a text, by value, and what is left. -/
def digits (cs : List Char) : List Nat × List Char :=
  ((cs.takeWhile isDigit).map fun c => c.toNat - '0'.toNat, cs.dropWhile isDigit)

theorem length_dropWhile_le (p : Char → Bool) (cs : List Char) :
    (cs.dropWhile p).length ≤ cs.length :=
  (List.dropWhile_sublist p).length_le

/-- Whether a minus sign stands at the front of a text, and the text after it. -/
def sign : List Char → Bool × List Char
  | '-' :: rest => (true, rest)
  | rest => (false, rest)

/-- The digits of a fraction at the front of a text, if there is one, and what is left. -/
def fraction? : List Char → Except Fault (Option (List Nat)) × List Char
  | '.' :: rest =>
    let (ds, rest) := digits rest
    (if ds.isEmpty then .error (faultAt rest) else .ok (some ds), rest)
  | rest => (.ok none, rest)

/-- The exponent at the front of a text, if there is one, and what is left. -/
def exponent? : List Char → Except Fault (Option (Bool × List Nat)) × List Char
  | 'e' :: rest | 'E' :: rest =>
    let (down, rest) := match rest with
      | '+' :: rest => (false, rest)
      | rest => sign rest
    let (ds, rest) := digits rest
    (if ds.isEmpty then .error (faultAt rest) else .ok (some (down, ds)), rest)
  | rest => (.ok none, rest)

/-- The number at the front of a text, and what is left. A number has no leading zeros. -/
def number (cs : List Char) : Except Fault NumberText × List Char :=
  let signed := sign cs
  let whole := digits signed.2
  if whole.1.isEmpty then (.error (faultAt whole.2), whole.2)
  else if whole.1.head? = some 0 ∧ whole.1.length ≠ 1 then (.error .malformed, whole.2)
  else
    let fraction := fraction? whole.2
    let exponent := exponent? fraction.2
    (do return ⟨signed.1, whole.1, ← fraction.1, ← exponent.1⟩, exponent.2)

theorem sign_length (cs : List Char) : (sign cs).2.length ≤ cs.length := by
  unfold sign
  split <;> simp

theorem digits_length (cs : List Char) : (digits cs).2.length ≤ cs.length :=
  length_dropWhile_le isDigit cs

theorem fraction?_length (cs : List Char) : (fraction? cs).2.length ≤ cs.length := by
  unfold fraction?
  split
  · rename_i rest
    exact Nat.le_succ_of_le (digits_length rest)
  · exact Nat.le_refl _

theorem exponent?_length (cs : List Char) : (exponent? cs).2.length ≤ cs.length := by
  have mark : ∀ cs : List Char, (match cs with
      | '+' :: rest => (false, rest)
      | rest => sign rest).2.length ≤ cs.length := by
    intro cs
    split
    · exact Nat.le_succ _
    · exact sign_length _
  unfold exponent?
  split
  · rename_i rest
    exact Nat.le_succ_of_le (Nat.le_trans (digits_length _) (mark rest))
  · rename_i rest
    exact Nat.le_succ_of_le (Nat.le_trans (digits_length _) (mark rest))
  · exact Nat.le_refl _

theorem number_length (cs : List Char) : (number cs).2.length ≤ cs.length := by
  have whole := Nat.le_trans (digits_length (sign cs).2) (sign_length cs)
  unfold number
  simp only
  split
  · exact whole
  · split
    · exact whole
    · exact Nat.le_trans (exponent?_length _) (Nat.le_trans (fraction?_length _) whole)

/-- The word at the front of a text, letter by letter, and what is left. -/
def keyword (atom : Atom) : List Char → List Char → Except Fault Atom × List Char
  | [], cs => (.ok atom, cs)
  | _ :: _, [] => (.error .ended, [])
  | w :: ws, c :: cs => if w = c then keyword atom ws cs else (.error .malformed, cs)

theorem keyword_length (atom : Atom) (word cs : List Char) :
    (keyword atom word cs).2.length ≤ cs.length := by
  induction word generalizing cs with
  | nil => exact Nat.le_refl _
  | cons w ws ih =>
    cases cs with
    | nil => exact Nat.le_refl _
    | cons c cs =>
      unfold keyword
      split
      · exact Nat.le_succ_of_le (ih cs)
      · exact Nat.le_succ _

/-! ## Values -/

/-- What is found at the front of a text: its outline, the fault on passing over it, and what is
left of the text. -/
structure Front (α : Type) (cs : List Char) where
  found : α
  fault : Option Fault
  rest : List Char
  rest_le : rest.length ≤ cs.length

/-- The fault of passing over a scalar of which only the grammar matters. -/
def passingFault {α : Type} (fault : Fault → Fault) : Except Fault α → Option Fault
  | .ok _ => none
  | .error f => some (fault f)

/-- The text without the gap at its front. -/
def skipGap (cs : List Char) : List Char := cs.dropWhile isGap

theorem skipGap_length (cs : List Char) : (skipGap cs).length ≤ cs.length :=
  length_dropWhile_le isGap cs

theorem rest_lt_of_skipGap {cs front rest : List Char} {c : Char} (h : skipGap front = c :: rest)
    (hle : front.length ≤ cs.length) : rest.length < cs.length := by
  have := skipGap_length front
  rw [h] at this
  exact Nat.lt_of_lt_of_le this hle

/-- What is found at the front of a part of a text as what is found at the front of the whole. -/
def Front.widen {α β : Type} {cs part : List Char} (f : Front α part) (found : β)
    (hle : part.length ≤ cs.length) : Front β cs :=
  ⟨found, f.fault, f.rest, Nat.le_trans f.rest_le hle⟩

/-- A quoted text after its opening quote. -/
def quotedText (cs : List Char) : Front Outline cs :=
  let read := pieces cs
  { found := .text ((assemble read.2.1 read.1).map String.ofList) read.2.1
    fault := read.2.1
    rest := read.2.2
    rest_le := pieces_length cs }

/-- A word that stands for a value. -/
def keywordAtom (atom : Atom) (word cs : List Char) : Front Outline cs :=
  let read := keyword atom word cs
  { found := .atom read.1 (passingFault id read.1)
    fault := passingFault id read.1
    rest := read.2
    rest_le := keyword_length atom word cs }

/-- A number. On passing over it, its end within the text and its size do not matter. -/
def numberAtom (cs : List Char) : Front Outline cs :=
  let read := number cs
  let value : Except Fault Atom := do
    let text ← read.1
    match text.value? with
    | some atom => .ok atom
    | none => .error .malformed
  { found := .atom value (passingFault (fun _ => .malformed) read.1)
    fault := passingFault (fun _ => .malformed) read.1
    rest := read.2
    rest_le := number_length cs }

/-- A place where no value begins. -/
def nothing (fault : Fault) (cs : List Char) : Front Outline cs :=
  ⟨.absent fault, some fault, cs, Nat.le_refl _⟩

mutual

/-- The value at the front of a text. -/
def value (cs : List Char) : Front Outline cs :=
  match h : skipGap cs with
  | [] => nothing .ended cs
  | c :: rest =>
    have hr : rest.length < cs.length := rest_lt_of_skipGap h (Nat.le_refl _)
    if c = '"' then
      let text := quotedText rest
      text.widen text.found (Nat.le_of_lt hr)
    else if c = '\x5b' then
      let list := items rest
      list.widen (.array list.found list.fault) (Nat.le_of_lt hr)
    else if c = '\x7b' then
      let object := members rest
      object.widen (.object object.found object.fault) (Nat.le_of_lt hr)
    else if c = 'n' then
      let word := keywordAtom .null "ull".toList rest
      word.widen word.found (Nat.le_of_lt hr)
    else if c = 't' then
      let word := keywordAtom (.bool true) "rue".toList rest
      word.widen word.found (Nat.le_of_lt hr)
    else if c = 'f' then
      let word := keywordAtom (.bool false) "alse".toList rest
      word.widen word.found (Nat.le_of_lt hr)
    else if c = '-' ∨ isDigit c then
      let number := numberAtom (c :: rest)
      number.widen number.found hr
    else nothing .malformed cs
termination_by (cs.length, 0)

/-- The items of a list after its opening bracket. -/
def items (cs : List Char) : Front (List Outline) cs :=
  match h : skipGap cs with
  | [] => ⟨[], some .ended, [], Nat.zero_le _⟩
  | c :: rest =>
    if c = '\x5d' then
      ⟨[], none, rest, Nat.le_of_lt (rest_lt_of_skipGap h (Nat.le_refl _))⟩
    else moreItems cs
termination_by (cs.length, 2)

/-- The items of a list from an item on. -/
def moreItems (cs : List Char) : Front (List Outline) cs :=
  let item := value cs
  match item.fault with
  | some fault => ⟨[item.found], some fault, item.rest, item.rest_le⟩
  | none =>
    match h : skipGap item.rest with
    | [] => ⟨[item.found], some .ended, [], Nat.zero_le _⟩
    | c :: rest =>
      have hr : rest.length < cs.length := rest_lt_of_skipGap h item.rest_le
      if c = ',' then
        let others := moreItems rest
        others.widen (item.found :: others.found) (Nat.le_of_lt hr)
      else if c = '\x5d' then ⟨[item.found], none, rest, Nat.le_of_lt hr⟩
      else ⟨[item.found], some .malformed, rest, Nat.le_of_lt hr⟩
termination_by (cs.length, 1)

/-- The members of an object after its opening brace. -/
def members (cs : List Char) : Front (List (Outline × Outline)) cs :=
  match h : skipGap cs with
  | [] => ⟨[], some .ended, [], Nat.zero_le _⟩
  | c :: rest =>
    if c = '\x7d' then
      ⟨[], none, rest, Nat.le_of_lt (rest_lt_of_skipGap h (Nat.le_refl _))⟩
    else moreMembers cs
termination_by (cs.length, 2)

/-- The members of an object from a name on. -/
def moreMembers (cs : List Char) : Front (List (Outline × Outline)) cs :=
  let name := value cs
  match name.found, name.fault with
  | .text reading passing, none =>
    match h : skipGap name.rest with
    | [] => ⟨[(.text reading passing, .absent .ended)], some .ended, [], Nat.zero_le _⟩
    | c :: rest =>
      have hr : rest.length < cs.length := rest_lt_of_skipGap h name.rest_le
      if c = ':' then
        let content := value rest
        let member := (Outline.text reading passing, content.found)
        match content.fault with
        | some fault =>
          ⟨[member], some fault, content.rest, Nat.le_trans content.rest_le (Nat.le_of_lt hr)⟩
        | none =>
          match h' : skipGap content.rest with
          | [] => ⟨[member], some .ended, [], Nat.zero_le _⟩
          | d :: rest' =>
            have hr' : rest'.length < cs.length :=
              rest_lt_of_skipGap h' (Nat.le_trans content.rest_le (Nat.le_of_lt hr))
            if d = ',' then
              let others := moreMembers rest'
              others.widen (member :: others.found) (Nat.le_of_lt hr')
            else if d = '\x7d' then ⟨[member], none, rest', Nat.le_of_lt hr'⟩
            else ⟨[member], some .malformed, rest', Nat.le_of_lt hr'⟩
      else
        ⟨[(.text reading passing, .absent .malformed)], some .malformed, rest, Nat.le_of_lt hr⟩
  | found, fault =>
    let fault := if let .text _ _ := found then fault else if let .absent f := found then some f
      else some .malformed
    ⟨[(found, .absent (fault.getD .malformed))], some (fault.getD .malformed), name.rest,
      name.rest_le⟩
termination_by (cs.length, 1)

end

/-- The outline of a whole text. -/
def Document.read (text : String) : Document :=
  let root := value text.toList
  ⟨root.found, !(skipGap root.rest).isEmpty⟩

/-- The value of a whole text. -/
def parse? (text : String) : Except Fault Json := (Document.read text).value?

end CodeAtlas.Json
