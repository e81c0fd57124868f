import CodeAtlas.Command.Paint

/-!
# Displayed lists

The lines for a list of texts, of which only so many are shown, and for a section of output with a
title and a list.
-/

namespace CodeAtlas.Display

/-- How many items of a list are shown. -/
def longest : Nat := 10

/-- The mark before an item. -/
def bullet (paint : Paint) : String := paint.dimmed "•"

/-- The lines for a list of texts. -/
def list (paint : Paint) (items : List String) : List String :=
  if items.isEmpty then ["    " ++ paint.dimmed "(none)"]
  else
    (items.take longest).map (fun item => "    " ++ bullet paint ++ " " ++ item) ++
      if longest < items.length then
        ["    " ++ bullet paint ++ " ... and " ++ toString (items.length - longest) ++ " more"]
      else []

/-- The lines for a list with a title. -/
def titled (paint : Paint) (title : String) (items : List String) : List String :=
  ("  " ++ paint.strong .white title ++ " (" ++
      paint.shaded .green (toString items.length) ++ "):") :: list paint items

/-- A number with blanks before it up to a width of three. -/
def rank (n : Nat) : String :=
  let text := toString n
  String.ofList (List.replicate (3 - text.length) ' ') ++ text

example : (list {} ["a"]) = ["    • a"] := by decide +kernel
example : rank 7 = "  7" := by decide +kernel

end CodeAtlas.Display
