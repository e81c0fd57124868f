/-!
# What a question is after

A question of a known form has an intent and a target. Any other question is planned: it is answered
by one of a few operations on the graph, some of which need the name of a function.
-/

namespace CodeAtlas

/-- What a question of a known form asks about its target. -/
inductive Intent where
  /-- What a file imports and defines. -/
  | dependencies
  /-- What calls a function or imports a file. -/
  | usage
  /-- The commits that touched a file. -/
  | history
  /-- The risks seen in a file. -/
  | risks
  /-- A summary of a function or file. -/
  | explain
deriving DecidableEq, Repr

namespace Intent

/-- All intents, those that are tried first in front. -/
def all : List Intent := [dependencies, usage, history, risks, explain]

/-- The name of an intent. -/
def name : Intent → String
  | dependencies => "DEPENDENCIES"
  | usage => "USAGE"
  | history => "HISTORY"
  | risks => "RISKS"
  | explain => "EXPLAIN"

end Intent

/-- How sure the form of a question makes its intent. -/
inductive Confidence where
  /-- The form has a phrase with a verb. -/
  | strict
  /-- The form is a shorthand. -/
  | loose
deriving DecidableEq, Repr

/-- The confidence as a number. -/
def Confidence.value : Confidence → Float
  | strict => 0.9
  | loose => 0.8

/-- A question of a known form. -/
structure Request where
  intent : Intent
  /-- The file or function asked about, in the letters of the question. -/
  target : String
  confidence : Confidence
deriving DecidableEq, Repr

/-- What can be asked of the graph in any other form. -/
inductive Operation where
  /-- What a change to a function affects. -/
  | reach
  /-- The functions with the most calls. -/
  | central
  /-- The files by importance. -/
  | important
  /-- The functions of a name. -/
  | find
  /-- Nothing in particular. -/
  | unknown
deriving DecidableEq, Repr

namespace Operation

/-- All operations. -/
def all : List Operation := [reach, central, important, find, unknown]

/-- The name of an operation. -/
def name : Operation → String
  | reach => "blast_radius"
  | central => "central_functions"
  | important => "important_files"
  | find => "find_function"
  | unknown => "unknown"

end Operation

/-- An operation and the name of the function that it is about, if it is about one. -/
structure Plan where
  operation : Operation
  function : Option String := none
deriving DecidableEq, Repr

end CodeAtlas
