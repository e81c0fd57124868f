import CodeAtlas.Json.Basic

/-!
# Answers

An answer lists files and functions and keeps further facts by name. A preview in prose may be added
to it; nothing else of an answer is prose.
-/

namespace CodeAtlas

/-- The answer to a question. -/
structure Answer where
  /-- The name of the intent or operation that answers. -/
  intent : String
  files : List String := []
  functions : List String := []
  /-- The other facts, a dictionary unless it is replaced by some other value. -/
  metadata : Json := .object []
  preview : Option String := none

namespace Answer

/-- The answer with one more fact. The members of the fact are sorted by name at every level. -/
def withFact (a : Answer) (name : String) (value : Json) : Answer :=
  { a with metadata := a.metadata.set name value.sorted }

/-- The answer with more facts. -/
def withFacts (a : Answer) (facts : List (String × Json)) : Answer :=
  facts.foldl (fun a fact => a.withFact fact.1 fact.2) a

/-- The answer that its target is not known. -/
def notFound (intent reason : String) : Answer :=
  { intent := intent : Answer }.withFact "error" (.text reason)

/-- Why there is nothing to answer. -/
def error? (a : Answer) : Option String := (a.metadata.get? "error").bind Json.asText?

/-- The answer with a file after the others, unless it is one of them. -/
def addFile (a : Answer) (file : String) : Answer :=
  if a.files.contains file then a else { a with files := a.files ++ [file] }

/-- The answer with files added one after the other. -/
def addFiles (a : Answer) (files : List String) : Answer := files.foldl addFile a

/-- The answer with its files cut to a number, and the number they had if some were cut. -/
def cutFiles (limit : Nat) (a : Answer) : Answer :=
  if limit < a.files.length then
    { a.withFact "totalFiles" (.nat a.files.length) with files := a.files.take limit }
  else a

/-- The answer with its functions cut to a number, and the number they had if some were cut. -/
def cutFunctions (limit : Nat) (a : Answer) : Answer :=
  if limit < a.functions.length then
    { a.withFact "totalFunctions" (.nat a.functions.length) with
      functions := a.functions.take limit }
  else a

/-- The answer with its two lists cut to a number. -/
def cut (limit : Nat) (a : Answer) : Answer := (a.cutFiles limit).cutFunctions limit

/-- An answer as JSON. -/
def document (a : Answer) : Json :=
  .object (
    [("intent", .text a.intent), ("files", .texts a.files), ("functions", .texts a.functions),
      ("metadata", a.metadata)] ++
    (a.preview.map fun text => ("contextPreview", Json.text text)).toList)

end Answer

end CodeAtlas
