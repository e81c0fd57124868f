import CodeAtlas.FileSystem.Basic
import Std.Data.ExtTreeMap

/-!
# Disks as values

A disk says what is at each location, that is, behind the names that lead there from the root. A
path is followed part by part, and every part needs a directory to start from; what lies below
something else is out of reach. The root is always a directory. Reading takes some time, but less
than a millisecond.
-/

namespace CodeAtlas

/-- The names that lead to an entry from the root. -/
abbrev Location : Type := List String

/-- What is at a location. -/
inductive Entry where
  | file (content : ByteArray)
  | directory

/-- The kind of an entry. -/
def Entry.kind : Entry → EntryKind
  | file _ => .file
  | directory => .directory

/-- A disk and the working directory on it. -/
structure Disk where
  entries : Std.ExtTreeMap Location Entry := ∅
  here : Location := []

namespace Disk

/-- The most bytes that a name may have. -/
def longestName : Nat := 255

/-- The most bytes that a path may have. -/
def longestPath : Nat := 4095

/-- What is at a location. -/
def entryAt (d : Disk) (location : Location) : Option Entry :=
  if location = [] then some .directory else d.entries[location]?

/-- The location to which one part of a path leads from another location. -/
def follow (d : Disk) (location : Location) (part : String) : Except Refusal Location :=
  match d.entryAt location with
  | none => .error .notFound
  | some (.file _) => .error .notDirectory
  | some .directory =>
    if part = "" ∨ part = "." then .ok location
    else if part = ".." then .ok location.dropLast
    else if longestName < part.utf8ByteSize then .error .nameTooLong
    else .ok (location ++ [part])

/-- The location to which a path leads; only what is above it need be there. -/
def locate (d : Disk) (path : String) : Except Refusal Location :=
  if path.isEmpty then .error .notFound
  else if path.toList.contains '\x00' then .error .zeroInName
  else if longestPath < path.utf8ByteSize then .error .nameTooLong
  else (Path.parts path).foldlM d.follow (if Path.isAbsolute path then [] else d.here)

/-- What a path leads to. -/
def find (d : Disk) (path : String) : Except Refusal Entry := do
  match d.entryAt (← d.locate path) with
  | some entry => return entry
  | none => throw .notFound

/-- The text of a file. -/
def read (d : Disk) (path : String) : Except Refusal String := do
  match ← d.find path with
  | .directory => throw .isDirectory
  | .file content =>
    match String.fromUTF8? content with
    | some text => return text
    | none => throw .notText

/-- The kind of what a path leads to. -/
def kind? (d : Disk) (path : String) : Option EntryKind :=
  match d.find path with
  | .ok entry => some entry.kind
  | .error _ => none

/-- The disk with one more entry. -/
def put (d : Disk) (location : Location) (entry : Entry) : Disk :=
  { d with entries := d.entries.insert location entry }

theorem entryAt_put_self (d : Disk) {location : Location} (h : location ≠ []) (entry : Entry) :
    (d.put location entry).entryAt location = some entry := by
  rw [entryAt, if_neg h, put, Std.ExtTreeMap.getElem?_insert_self]

theorem entryAt_put_of_ne (d : Disk) {location other : Location} (h : other ≠ location)
    (entry : Entry) : (d.put location entry).entryAt other = d.entryAt other := by
  rw [entryAt, entryAt, put, Std.ExtTreeMap.getElem?_insert,
    if_neg fun heq => h (Std.compare_eq_iff_eq.1 heq).symm]

/-- The disk with one more directory. -/
def makeDirectory (d : Disk) (path : String) : Except Refusal Disk := do
  let location ← d.locate (Path.dropSlashes path)
  match d.entryAt location with
  | some _ => throw .alreadyExists
  | none => return d.put location .directory

/-- The disk with a text in a file. -/
def write (d : Disk) (path text : String) : Except Refusal Disk := do
  let location ← d.locate path
  match d.entryAt location with
  | some .directory => throw .isDirectory
  | _ => return d.put location (.file text.toUTF8)

/-- The disk with an entry at a location, and with directories above it where nothing is. -/
def putBelow (d : Disk) (location : Location) (entry : Entry) : Disk :=
  let below := (Path.shorter location).reverse.foldl
    (fun d above => if (d.entryAt above).isSome then d else d.put above .directory) d
  below.put location entry

/-- Goes on with another disk unless an operation is refused. -/
def commit (change : Disk → Except Refusal Disk) : StateM Disk (Except Refusal Unit) := fun d =>
  match change d with
  | .ok changed => (.ok (), changed)
  | .error refusal => (.error refusal, d)

end Disk

instance : FileSystem (StateM Disk) where
  read path := fun d => (d.read path, d)
  readWithin milliseconds path := fun d =>
    (if milliseconds = 0 then none else some (d.read path), d)
  kind? path := fun d => (d.kind? path, d)
  makeDirectory path := Disk.commit (·.makeDirectory path)
  write path text := Disk.commit (·.write path text)
  publish path text := Disk.commit (·.write path text)

end CodeAtlas
