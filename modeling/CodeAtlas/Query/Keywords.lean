import CodeAtlas.Query.Candidate
import CodeAtlas.Query.Intent

/-!
# Plans by keywords

A question without a known form is planned by the words it holds, wherever they stand.
-/

namespace CodeAtlas.Query

/-- What asks for the reach of a change. -/
def reachKeywords : List String :=
  ["blast radius", "impact", "affect", "break", "ripple", "what depends on"]

/-- What asks for the functions with the most calls. -/
def centralKeywords : List String := [
  "central", "most called", "most used", "hotspot", "hot spot", "core function", "key function",
  "important function"]

/-- What asks for the files by importance. -/
def importantKeywords : List String := [
  "important file", "key file", "critical file", "main file", "core file", "important modules"]

/-- What asks for a function by its name. -/
def findKeywords : List String := ["find", "where is", "locate", "defined", "definition"]

/-- The plan of an operation on a function, or no plan without one. -/
def planFor (operation : Operation) : Option String → Plan
  | some name => ⟨operation, some name⟩
  | none => ⟨.unknown, none⟩

/-- The plan of a question. -/
def plan (question : String) : Plan :=
  let text := Text.lower question.toList
  let holdsOne (keywords : List String) : Bool := keywords.any fun k => Text.holds k.toList text
  if holdsOne reachKeywords then planFor .reach (candidate? question)
  else if holdsOne centralKeywords then ⟨.central, none⟩
  else if holdsOne importantKeywords || (holdsOne ["file"] && holdsOne ["important", "top"]) then
    ⟨.important, none⟩
  else if holdsOne findKeywords then planFor .find (candidate? question)
  else ⟨.unknown, none⟩

end CodeAtlas.Query
