/-!
# Letter case against ASCII words

Two ways of ignoring case when a text is compared with words that are spelled in lowercase ASCII
letters. The only characters outside ASCII that can equal an ASCII letter there are the long s, the
Kelvin sign and the dotted capital i, and both maps leave all other characters outside ASCII alone.
-/

namespace CodeAtlas.Text

/-- The Kelvin sign, which is a capital k. -/
def kelvinSign : Char := '\u212A'

/-- The long s, which folds to s but is a small letter already. -/
def longS : Char := '\u017F'

/-- The capital i with a dot, whose small form is an i and a combining dot. -/
def dottedCapitalI : Char := '\u0130'

/-- Simple case folding: two characters that fold alike match when case is ignored. -/
def fold (c : Char) : Char :=
  if c = kelvinSign then 'k' else if c = longS then 's' else c.toLower

/-- The small form of a character, which may be two characters. -/
def lowerChar (c : Char) : List Char :=
  if c = kelvinSign then ['k'] else if c = dottedCapitalI then ['i', '\u0307'] else [c.toLower]

/-- A text in small letters. -/
def lower (cs : List Char) : List Char := cs.flatMap lowerChar

/-- Whether `part` stands somewhere in a text. -/
def holds (part : List Char) : List Char → Bool
  | [] => part.isEmpty
  | c :: cs => part.isPrefixOf (c :: cs) || holds part cs

theorem holds_iff (part cs : List Char) : holds part cs ↔ part <:+: cs := by
  induction cs with
  | nil => simp [holds]
  | cons c cs ih => rw [holds, Bool.or_eq_true, List.isPrefixOf_iff_prefix, ih,
      List.infix_cons_iff]

end CodeAtlas.Text
