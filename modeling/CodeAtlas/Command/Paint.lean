/-!
# Painted text

Texts for a terminal that shows colours. A painted text starts with the codes of its look and ends
by going back to the plain look; where the text itself goes back to the plain look, its own look is
taken up again.
-/

namespace CodeAtlas

/-- The colours of texts. -/
inductive Shade where
  | red
  | green
  | yellow
  | cyan
  | white
deriving DecidableEq, Repr

/-- The code of a colour. -/
def Shade.code : Shade → String
  | red => "31"
  | green => "32"
  | yellow => "33"
  | cyan => "36"
  | white => "37"

/-- How a text looks. -/
structure Look where
  bold : Bool := false
  dimmed : Bool := false
  shade : Option Shade := none
deriving DecidableEq, Repr

namespace Look

/-- The codes of a look. -/
def codes (look : Look) : List String :=
  (if look.bold then ["1"] else []) ++ (if look.dimmed then ["2"] else []) ++
    (look.shade.map Shade.code).toList

/-- The characters that go back to the plain look. -/
def closing : List Char := ['\x1b', '[', '0', 'm']

/-- The characters that take up a look. -/
def opening (look : Look) : List Char := ("\x1b[" ++ ";".intercalate look.codes ++ "m").toList

/-- A text that takes up a look after every place where it goes back to the plain one. -/
def reopen (look : List Char) : List Char → List Char
  | '\x1b' :: '[' :: '0' :: 'm' :: rest => closing ++ look ++ reopen look rest
  | c :: rest => c :: reopen look rest
  | [] => []

end Look

/-- Whether texts are painted. -/
structure Paint where
  active : Bool := false
deriving DecidableEq, Repr

namespace Paint

/-- Whether a setting of the environment is switched on: all values but a zero do that. -/
def isOn (setting : String) : Bool := setting != "0"

/-- Whether the environment asks for painted texts: it can demand them, else refuse them, and else
a terminal gets them unless it is switched off. -/
def ofEnvironment (demanded refused switch : Option String) (terminal : Bool) : Paint :=
  ⟨if demanded.any isOn then true
    else if refused.isSome then false
    else (switch.map isOn).getD true && terminal⟩

/-- A text with a look. -/
def apply (paint : Paint) (look : Look) (text : String) : String :=
  if paint.active && !look.codes.isEmpty then
    String.ofList (look.opening ++ Look.reopen look.opening text.toList ++ Look.closing)
  else text

/-- A text in the background. -/
def dimmed (paint : Paint) (text : String) : String := paint.apply { dimmed := true } text

/-- A text in a colour. -/
def shaded (paint : Paint) (shade : Shade) (text : String) : String :=
  paint.apply { shade := some shade } text

/-- A bold text in a colour. -/
def strong (paint : Paint) (shade : Shade) (text : String) : String :=
  paint.apply { bold := true, shade := some shade } text

end Paint

example : Look.opening { bold := true, shade := some .cyan } = "\x1b[1;36m".toList := by
  decide +kernel

end CodeAtlas
