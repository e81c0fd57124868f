import CodeAtlas.Path

/-!
# File systems

What is asked of a file system, and why it may refuse. Paths are texts; one that does not start at
the root starts at the working directory. Everything above is written against these operations
alone, so that it runs on the disk of a machine and on a disk that is a value.
-/

namespace CodeAtlas

/-- Why a file system refuses an operation. -/
inductive Refusal where
  /-- There is nothing with that path. -/
  | notFound
  /-- There is something with that path already. -/
  | alreadyExists
  /-- The path goes through something that is no directory. -/
  | notDirectory
  /-- The path leads to a directory. -/
  | isDirectory
  /-- A part of the path is longer than names may be. -/
  | nameTooLong
  /-- The path holds the character that ends names. -/
  | zeroInName
  /-- The content is not text. -/
  | notText
  /-- Another reason. -/
  | other (reason : String)
deriving DecidableEq, Repr

/-- The text of a refusal. -/
def Refusal.message : Refusal → String
  | notFound => "No such file or directory (os error 2)"
  | alreadyExists => "File exists (os error 17)"
  | notDirectory => "Not a directory (os error 20)"
  | isDirectory => "Is a directory (os error 21)"
  | nameTooLong => "File name too long (os error 36)"
  | zeroInName => "file name contained an unexpected NUL byte"
  | notText => "stream did not contain valid UTF-8"
  | other reason => reason

/-- What a path can lead to. -/
inductive EntryKind where
  | file
  | directory
deriving DecidableEq, Repr

/-- The operations of a file system. -/
class FileSystem (m : Type → Type) where
  /-- The text of a file. -/
  read : String → m (Except Refusal String)
  /-- The text of a file unless reading it takes longer than so many milliseconds. -/
  readWithin : Nat → String → m (Option (Except Refusal String))
  /-- What a path leads to. -/
  kind? : String → m (Option EntryKind)
  /-- Makes one directory. -/
  makeDirectory : String → m (Except Refusal Unit)
  /-- Writes a file. -/
  write : String → String → m (Except Refusal Unit)
  /-- Writes a file such that nobody sees a part of it. -/
  publish : String → String → m (Except Refusal Unit)

namespace FileSystem

variable {m : Type → Type} [Monad m] [FileSystem m]

/-- Makes a directory unless it is there. -/
def ensureDirectory (path : String) : m (Except Refusal Unit) := do
  match ← makeDirectory path with
  | .ok () => return .ok ()
  | .error refusal =>
    match ← kind? path with
    | some .directory => return .ok ()
    | _ => return .error refusal

/-- Makes the first directory of a list unless it is there. If what holds it is missing, the rest of
the list, the directories above it, is made before. -/
def ensureFirst : List String → m (Except Refusal Unit)
  | [] => return .ok ()
  | path :: above => do
    match ← ensureDirectory path with
    | .error .notFound =>
      match ← ensureFirst above with
      | .ok () => ensureDirectory path
      | .error refusal => return .error refusal
    | result => return result

/-- Makes a directory and those above it unless they are there. -/
def ensureDirectories (path : String) : m (Except Refusal Unit) := ensureFirst (Path.ancestors path)

end FileSystem

end CodeAtlas
