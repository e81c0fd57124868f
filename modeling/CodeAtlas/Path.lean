/-!
# Paths

Paths are texts whose parts are parted by slashes. They are joined and compared as texts; nothing
here asks a file system.
-/

namespace CodeAtlas.Path

/-- Whether a path starts at the root. -/
def isAbsolute (path : String) : Bool := path.toList.head? == some '/'

/-- A path below a base: an absolute path replaces the base, and otherwise one slash stands between
the two unless the base is empty. -/
def join (base path : String) : String :=
  if isAbsolute path then path
  else
    match base.toList.getLast? with
    | none => path
    | some '/' => base ++ path
    | some _ => base ++ "/" ++ path

/-- Whether a text ends with another. -/
def endsWith (whole ending : String) : Bool := ending.toList.isSuffixOf whole.toList

/-- Whether `path` is `whole` or its last parts. -/
def isTail (whole path : String) : Bool := whole == path || endsWith whole ("/" ++ path)

/-- The characters of a path after every leading `./`. -/
def dropHere : List Char → List Char
  | '.' :: '/' :: rest => dropHere rest
  | path => path

/-- A path without any leading `./`. -/
def plain (path : String) : String := String.ofList (dropHere path.toList)

/-- Whether a character parts a path; both slashes do. -/
def isSeparator (c : Char) : Bool := c == '/' || c == '\\'

/-- The last part of a path, whatever separators end it. -/
def lastPart (path : String) : String :=
  String.ofList
    (((path.toList.reverse.dropWhile isSeparator).takeWhile (!isSeparator ·)).reverse)

/-- The pieces of a path between its slashes; some may be empty. -/
def pieces : List Char → List (List Char)
  | [] => [[]]
  | c :: rest =>
    if c = '/' then [] :: pieces rest
    else
      match pieces rest with
      | [] => [[c]]
      | piece :: others => (c :: piece) :: others

/-- The parts of a path between its slashes; some may be empty. -/
def parts (path : String) : List String := (pieces path.toList).map String.ofList

/-- A path without the slashes at its end, but never without its first character. -/
def dropSlashes (path : String) : String :=
  match path.toList with
  | [] => ""
  | c :: rest => String.ofList (c :: (rest.reverse.dropWhile (· == '/')).reverse)

/-- The lists that start a list, from the longest without the last item to the one of one item. -/
def shorter {α : Type} (items : List α) : List (List α) :=
  ((List.range (items.length - 1)).map fun n => items.take (n + 1)).reverse

/-- A path and the paths of the directories above it, each followed by the one that holds it. Parts
that stay in place are left out of those above. -/
def ancestors (path : String) : List String :=
  if path.isEmpty then []
  else
    let root := if isAbsolute path then "/" else ""
    path :: (shorter ((parts path).filter fun part => part != "" && part != ".")).map
      fun above => root ++ "/".intercalate above

example : join "/ws" "a" = "/ws/a" := by decide +kernel
example : join "ws/" "/a" = "/a" := by decide +kernel
example : join "/ws" "" = "/ws/" := by decide +kernel
example : parts "/a//b" = ["", "a", "", "b"] := by decide +kernel
example : ancestors "/a/./b/c" = ["/a/./b/c", "/a/b", "/a"] := by decide +kernel

end CodeAtlas.Path
