import CodeAtlas.Proofs.Json.Scalars

/-!
# The grammar of JSON

What a JSON document is, said without a reader or a writer: one value with blanks around it. Every
value is written as such a document, doubles included.

1. `Grammar.Value`, `IsDocument`: the grammar.
2. `number_toString`, `number_writeFloat`, `quoted_writeText`: numbers and texts are written by it.
3. `value_prettyAt`, `isDocument_pretty`: and so is every value.
4. `not_isDocument_of_head`: what does not begin like a value is no document.
-/

namespace CodeAtlas.Json

namespace Grammar

/-! ## The grammar -/

/-- Blanks between the parts of a document. -/
def Gap (cs : List Char) : Prop := ∀ c ∈ cs, c = ' ' ∨ c = '\t' ∨ c = '\n' ∨ c = '\r'

/-- A run of digits. -/
def Digits (cs : List Char) : Prop := cs ≠ [] ∧ ∀ c ∈ cs, c.isDigit = true

/-- The part of a number before the point: it has no zero before other digits. -/
inductive Whole : List Char → Prop where
  | zero : Whole ['0']
  | digits {c : Char} {cs : List Char} (first : c ≠ '0') (run : Digits (c :: cs)) : Whole (c :: cs)

/-- The part of a number after the whole, if there is one. -/
inductive Fraction : List Char → Prop where
  | none : Fraction []
  | digits {cs : List Char} (run : Digits cs) : Fraction ('.' :: cs)

/-- The power of ten of a number, if there is one. -/
inductive Exponent : List Char → Prop where
  | none : Exponent []
  | digits {e : Char} {sign cs : List Char} (mark : e = 'e' ∨ e = 'E')
      (signed : sign = [] ∨ sign = ['+'] ∨ sign = ['-']) (run : Digits cs) :
      Exponent (e :: sign ++ cs)

/-- A number without a sign. -/
def Magnitude (cs : List Char) : Prop :=
  ∃ whole fraction exponent, Whole whole ∧ Fraction fraction ∧ Exponent exponent ∧
    cs = whole ++ fraction ++ exponent

inductive Number : List Char → Prop where
  | positive {cs : List Char} (magnitude : Magnitude cs) : Number cs
  | negative {cs : List Char} (magnitude : Magnitude cs) : Number ('-' :: cs)

def IsHex (c : Char) : Prop :=
  c.isDigit = true ∨ c ∈ ['a', 'b', 'c', 'd', 'e', 'f'] ∨ c ∈ ['A', 'B', 'C', 'D', 'E', 'F']

/-- A character of a text as it stands between the quotes. -/
inductive Character : List Char → Prop where
  | plain {c : Char} (visible : 32 ≤ c.toNat) (quote : c ≠ '"') (backslash : c ≠ '\\') :
      Character [c]
  | escaped {c : Char} (known : c ∈ ['"', '\\', '/', 'b', 'f', 'n', 'r', 't']) :
      Character ['\\', c]
  | numbered {a b c d : Char} (ha : IsHex a) (hb : IsHex b) (hc : IsHex c) (hd : IsHex d) :
      Character ['\\', 'u', a, b, c, d]

/-- A text between its quotes. -/
def Quoted (cs : List Char) : Prop :=
  ∃ parts : List (List Char), (∀ part ∈ parts, Character part) ∧
    cs = '"' :: parts.flatten ++ ['"']

mutual

inductive Value : List Char → Prop where
  | null : Value ['n', 'u', 'l', 'l']
  | true : Value ['t', 'r', 'u', 'e']
  | false : Value ['f', 'a', 'l', 's', 'e']
  | number {cs : List Char} (number : Number cs) : Value cs
  | text {cs : List Char} (quoted : Quoted cs) : Value cs
  | emptyArray {cs : List Char} (gap : Gap cs) : Value ('\x5b' :: cs ++ ['\x5d'])
  | array {cs : List Char} (items : Items cs) : Value ('\x5b' :: cs ++ ['\x5d'])
  | emptyObject {cs : List Char} (gap : Gap cs) : Value ('\x7b' :: cs ++ ['\x7d'])
  | object {cs : List Char} (members : Members cs) : Value ('\x7b' :: cs ++ ['\x7d'])

/-- A value with blanks around it. -/
inductive Padded : List Char → Prop where
  | intro {before cs after : List Char} (front : Gap before) (value : Value cs)
      (back : Gap after) : Padded (before ++ cs ++ after)

/-- Values with commas between them. -/
inductive Items : List Char → Prop where
  | one {cs : List Char} (item : Padded cs) : Items cs
  | more {cs rest : List Char} (item : Padded cs) (items : Items rest) : Items (cs ++ ',' :: rest)

/-- A name and a value. -/
inductive Member : List Char → Prop where
  | intro {before name after cs : List Char} (front : Gap before) (quoted : Quoted name)
      (back : Gap after) (value : Padded cs) : Member (before ++ name ++ after ++ ':' :: cs)

/-- Names and values with commas between them. -/
inductive Members : List Char → Prop where
  | one {cs : List Char} (member : Member cs) : Members cs
  | more {cs rest : List Char} (member : Member cs) (members : Members rest) :
      Members (cs ++ ',' :: rest)

end

end Grammar

/-- Whether a text is one JSON value, with blanks around it perhaps, and nothing else. -/
def IsDocument (text : String) : Prop := Grammar.Padded text.toList

namespace Grammar

/-! ## Numbers -/

theorem digits_toDigits (n : Nat) : Digits (Nat.toDigits 10 n) :=
  ⟨Nat.toDigits_ne_nil, fun _ => Nat.isDigit_of_mem_toDigits (by decide) (by decide)⟩

theorem digits_append {cs ds : List Char} (h : Digits cs) (all : ∀ c ∈ ds, c.isDigit = true) :
    Digits (cs ++ ds) := by
  refine ⟨by simp [h.1], fun c mem => ?_⟩
  obtain mem | mem := List.mem_append.1 mem
  · exact h.2 c mem
  · exact all c mem

theorem isDigit_of_mem_zeros {n : Nat} {c : Char} (h : c ∈ List.replicate n '0') :
    c.isDigit = true := by
  rw [List.eq_of_mem_replicate h]
  rfl

/-- The digits of a number have no zero in front, unless it is zero. -/
theorem toDigits_eq_cons {n : Nat} (h : n ≠ 0) :
    ∃ c cs, Nat.toDigits 10 n = c :: cs ∧ c ≠ '0' ∧ Digits (c :: cs) := by
  cases digits : Nat.toDigits 10 n with
  | nil => exact absurd digits Nat.toDigits_ne_nil
  | cons c cs =>
    refine ⟨c, cs, rfl, ?_, digits ▸ digits_toDigits n⟩
    rintro rfl
    exact h (eq_zero_of_head_toDigits (by rw [digits]; rfl))

theorem whole_toDigits (n : Nat) : Whole (Nat.toDigits 10 n) := by
  by_cases h : n = 0
  · subst h
    exact .zero
  · obtain ⟨c, cs, digits, first, run⟩ := toDigits_eq_cons h
    rw [digits]
    exact .digits first run

theorem number_toString (n : Int) : Number (toString n).toList := by
  have magnitude : Magnitude (Nat.toDigits 10 n.natAbs) :=
    ⟨_, [], [], whole_toDigits _, .none, .none, by rw [List.append_nil, List.append_nil]⟩
  rw [toList_toString]
  split
  · exact .negative magnitude
  · exact .positive magnitude

/-- The digits before the point of a decimal in full begin as all of its digits do. -/
theorem magnitude_inFull {c : Char} {cs : List Char} (first : c ≠ '0') (run : Digits (c :: cs))
    (point : Int) : Magnitude (Decimal.inFull (c :: cs) point) := by
  have all : ∀ d ∈ cs, d.isDigit = true := fun d mem => run.2 d (List.mem_cons_of_mem _ mem)
  unfold Decimal.inFull
  split
  · have fraction : Digits (List.replicate (-point).toNat '0' ++ c :: cs) := by
      refine ⟨by simp, fun d mem => ?_⟩
      obtain mem | mem := List.mem_append.1 mem
      · exact isDigit_of_mem_zeros mem
      · exact run.2 d mem
    exact ⟨_, _, [], .zero, .digits fraction, .none, by simp⟩
  · rename_i positive
    obtain ⟨n, hn⟩ : ∃ n, point.toNat = n + 1 := Nat.exists_eq_succ_of_ne_zero (by omega)
    dsimp only
    split
    · rename_i inside
      have whole : Digits (c :: cs.take n) := by
        refine ⟨by simp, fun d mem => ?_⟩
        obtain rfl | mem := List.mem_cons.1 mem
        · exact run.2 d List.mem_cons_self
        · exact all d (List.mem_of_mem_take mem)
      have fraction : Digits (cs.drop n) := by
        refine ⟨?_, fun d mem => all d (List.mem_of_mem_drop mem)⟩
        rw [hn, List.length_cons] at inside
        simp only [ne_eq, List.drop_eq_nil_iff]
        omega
      exact ⟨_, _, [], .digits first whole, .digits fraction, .none, by simp [hn]⟩
    · have zeros (d : Char) (mem : d ∈ List.replicate (point.toNat - (c :: cs).length) '0') :
          d.isDigit = true := isDigit_of_mem_zeros mem
      have whole := digits_append run zeros
      exact ⟨_, _, [], .digits first whole, .digits (digits_toDigits 0), .none, by simp⟩

theorem magnitude_withExponent {c : Char} {cs : List Char} (first : c ≠ '0')
    (run : Digits (c :: cs)) (plusSign : Bool) (point : Int) :
    Magnitude (Decimal.withExponent plusSign (c :: cs) point) := by
  have whole : Whole [c] :=
    .digits first ⟨by simp, fun d mem => run.2 d (List.mem_singleton.1 mem ▸ List.mem_cons_self)⟩
  have signed : (if point - 1 < 0 then ['-'] else if plusSign then ['+'] else []) = [] ∨
      (if point - 1 < 0 then ['-'] else if plusSign then ['+'] else []) = ['+'] ∨
      (if point - 1 < 0 then ['-'] else if plusSign then ['+'] else []) = ['-'] := by
    split
    · simp
    · split <;> simp
  have exponent := Exponent.digits (.inl rfl) signed (digits_toDigits (point - 1).natAbs)
  unfold Decimal.withExponent
  cases cs with
  | nil => exact ⟨[c], [], _, whole, .none, exponent, by simp⟩
  | cons d ds =>
    have fraction : Digits (d :: ds) :=
      ⟨by simp, fun e mem => run.2 e (List.mem_cons_of_mem _ mem)⟩
    exact ⟨[c], _, _, whole, .digits fraction, exponent, by simp⟩

theorem magnitude_writeScaled (layout : Decimal.Layout) (s : Decimal.Scaled) :
    Magnitude (layout.writeScaled s) := by
  unfold Decimal.Layout.writeScaled
  split
  · exact ⟨_, _, [], .zero, .digits (digits_toDigits 0), .none, by simp⟩
  · rename_i nonzero
    obtain ⟨c, cs, digits, first, run⟩ := toDigits_eq_cons nonzero
    rw [digits]
    dsimp only
    split
    · split
      · exact magnitude_inFull first run _
      · exact magnitude_withExponent first run _ _
    · exact magnitude_inFull first run _

/-- A double is written as a number if it is one, and as null otherwise. -/
theorem value_writeFloat (x : Float) : Value (writeFloat x).toList := by
  unfold writeFloat
  split
  · rename_i finite
    unfold Decimal.isNumber at finite
    unfold Decimal.Layout.write
    cases parts : Decimal.Parts.of x with
    | finite negative magnitude =>
      have body := magnitude_writeScaled numberLayout (Decimal.shortest magnitude)
      refine .number ?_
      cases negative with
      | false => simpa using Number.positive body
      | true => simpa using Number.negative body
    | infinite =>
      rw [parts] at finite
      cases finite
    | undefined =>
      rw [parts] at finite
      cases finite
  · exact .null

/-! ## Texts -/

theorem isHex_digitChar : ∀ n < 16, IsHex (Nat.digitChar n) := by
  unfold IsHex
  decide

theorem character_writeChar (c : Char) : Character (writeChar c) := by
  unfold writeChar
  split
  · exact .escaped (by simp)
  split
  · exact .escaped (by simp)
  split
  · exact .escaped (by simp)
  split
  · exact .escaped (by simp)
  split
  · exact .escaped (by simp)
  split
  · exact .escaped (by simp)
  split
  · exact .escaped (by simp)
  split
  · rename_i control
    dsimp only
    rw [List.append_assoc, hexDigits_control c.toNat control]
    have zero : IsHex '0' := .inl rfl
    exact .numbered zero zero (isHex_digitChar _ (by omega)) (isHex_digitChar _ (by omega))
  · rename_i quote backslash _ _ _ _ _ control
    exact .plain (Nat.not_lt.1 control) quote backslash

theorem quoted_writeText (s : String) : Quoted (writeText s).toList := by
  refine ⟨s.toList.map writeChar, fun part mem => ?_, ?_⟩
  · obtain ⟨c, -, rfl⟩ := List.mem_map.1 mem
    exact character_writeChar c
  · rw [writeText, String.toList_ofList, List.flatMap_def]

end Grammar

/-! ## Values -/

open Grammar

theorem gap_nil : Gap [] := fun _ mem => absurd mem List.not_mem_nil

theorem gap_newLine (level : Nat) : Gap (newLine level).toList := by
  intro c mem
  have line : (newLine level).toList = '\n' :: List.replicate (2 * level) ' ' := by
    simp [newLine]
  obtain rfl | mem := List.mem_cons.1 (line ▸ mem)
  · exact .inr (.inr (.inl rfl))
  · exact .inl (List.eq_of_mem_replicate mem)

theorem prettyItems_comma (level : Nat) (item : Json) (items : List Json) :
    (prettyItems level "," (item :: items)).toList =
      ',' :: (prettyItems level "" (item :: items)).toList := by
  simp [prettyItems]

theorem prettyMembers_comma (level : Nat) (name : String) (v : Json)
    (members : List (String × Json)) :
    (prettyMembers level "," ((name, v) :: members)).toList =
      ',' :: (prettyMembers level "" ((name, v) :: members)).toList := by
  simp [prettyMembers]

/-- An item on a line of its own. -/
theorem padded_line {cs after : List Char} (level : Nat) (h : Value cs) (back : Gap after) :
    Padded ((newLine level).toList ++ cs ++ after) := .intro (gap_newLine level) h back

/-- A member on a line of its own. -/
theorem member_line {cs after : List Char} (level : Nat) (name : String) (h : Value cs)
    (back : Gap after) :
    Member ((newLine level).toList ++ (writeText name).toList ++ [] ++
      ':' :: ([' '] ++ cs ++ after)) := by
  have blank : Gap [' '] := fun c mem => .inl (List.mem_singleton.1 mem)
  exact .intro (gap_newLine level) (quoted_writeText name) gap_nil (.intro blank h back)

mutual

theorem value_prettyAt (level : Nat) : (v : Json) → Value (v.prettyAt level).toList
  | .null => show Value "null".toList from .null
  | .bool true => show Value "true".toList from .true
  | .bool false => show Value "false".toList from .false
  | .int n => .number (number_toString n)
  | .float x => value_writeFloat x
  | .text s => .text (quoted_writeText s)
  | .array [] => show Value "[]".toList from .emptyArray gap_nil
  | .array (item :: items) => by
    have inside := items_prettyItems (level + 1) (item :: items) (by simp) (gap_newLine level)
    simpa [prettyAt] using Value.array inside
  | .object [] => show Value "\x7b\x7d".toList from .emptyObject gap_nil
  | .object ((name, v) :: members) => by
    have inside := members_prettyMembers (level + 1) ((name, v) :: members) (by simp)
      (gap_newLine level)
    simpa [prettyAt] using Value.object inside

theorem items_prettyItems (level : Nat) :
    (items : List Json) → items ≠ [] → {after : List Char} → Gap after →
      Items ((prettyItems level "" items).toList ++ after)
  | [], h, _, _ => absurd rfl h
  | [item], _, _, back => by
    have line := padded_line level (value_prettyAt level item) back
    simpa [prettyItems] using Items.one line
  | item :: next :: items, _, after, back => by
    have line := padded_line level (value_prettyAt level item) gap_nil
    have rest := items_prettyItems level (next :: items) (by simp) back
    rw [prettyItems, String.toList_append, prettyItems_comma]
    simpa using Items.more line rest

theorem members_prettyMembers (level : Nat) :
    (members : List (String × Json)) → members ≠ [] → {after : List Char} → Gap after →
      Members ((prettyMembers level "" members).toList ++ after)
  | [], h, _, _ => absurd rfl h
  | [(name, v)], _, _, back => by
    have line := member_line level name (value_prettyAt level v) back
    simpa [prettyMembers] using Members.one line
  | (name, v) :: (other, w) :: members, _, after, back => by
    have line := member_line level name (value_prettyAt level v) gap_nil
    have rest := members_prettyMembers level ((other, w) :: members) (by simp) back
    rw [prettyMembers, String.toList_append, prettyMembers_comma]
    simpa using Members.more line rest

end

/-- The pretty text of a value, on lines of their own, is a document. -/
theorem isDocument_pretty (v : Json) : IsDocument (v.pretty ++ "\n") := by
  have blank : Gap ['\n'] := fun c mem => .inr (.inr (.inl (List.mem_singleton.1 mem)))
  have padded := Padded.intro gap_nil (value_prettyAt 0 v) blank
  simpa [IsDocument, pretty] using padded

/-! ## What is no document -/

/-- What a value begins with. -/
def BeginsValue (c : Char) : Prop :=
  c ∈ ['n', 't', 'f', '"', '-', '\x5b', '\x7b'] ∨ c.isDigit = true

theorem eq_cons_of_value {cs : List Char} (h : Value cs) :
    ∃ c rest, cs = c :: rest ∧ BeginsValue c := by
  cases h with
  | null => exact ⟨_, _, rfl, .inl (by simp)⟩
  | true => exact ⟨_, _, rfl, .inl (by simp)⟩
  | false => exact ⟨_, _, rfl, .inl (by simp)⟩
  | number number =>
    have digit {cs : List Char} (h : Magnitude cs) :
        ∃ c rest, cs = c :: rest ∧ c.isDigit = true := by
      obtain ⟨whole, fraction, exponent, starts, -, -, rfl⟩ := h
      cases starts with
      | zero => exact ⟨'0', _, rfl, rfl⟩
      | digits _ run => exact ⟨_, _, rfl, run.2 _ List.mem_cons_self⟩
    cases number with
    | positive magnitude =>
      obtain ⟨c, rest, rfl, begins⟩ := digit magnitude
      exact ⟨c, rest, rfl, .inr begins⟩
    | negative => exact ⟨_, _, rfl, .inl (by simp)⟩
  | text quoted =>
    obtain ⟨parts, -, rfl⟩ := quoted
    exact ⟨_, _, rfl, .inl (by simp)⟩
  | emptyArray | array | emptyObject | object => exact ⟨_, _, rfl, .inl (by simp)⟩

/-- A text that begins neither with a blank nor like a value is no document. -/
theorem not_isDocument_of_head {text : String} {c : Char} {rest : List Char}
    (first : text.toList = c :: rest) (visible : ¬ Gap [c]) (other : ¬ BeginsValue c) :
    ¬ IsDocument text := by
  intro document
  rw [IsDocument, first] at document
  generalize whole : c :: rest = cs at document
  cases document with
  | @intro before value after front value' back =>
    cases before with
    | nil =>
      obtain ⟨d, ds, rfl, begins⟩ := eq_cons_of_value value'
      obtain rfl := (List.cons.inj whole).1
      exact other begins
    | cons d ds =>
      obtain rfl := (List.cons.inj whole).1
      exact visible fun e mem => front e (List.mem_singleton.1 mem ▸ List.mem_cons_self)

end CodeAtlas.Json
