import CodeAtlas.Config.Basic
import CodeAtlas.Query.Respond

/-!
# Sessions

A session answers questions from its current context. A context never changes: a rebuild makes a new
one and puts it in place of the old, and whoever took the old one goes on with it.
-/

namespace CodeAtlas

/-- How a configuration has questions answered. -/
def Config.responder (c : Config) : Responder :=
  { limit := max 1 c.maxResults.toNat, weights := c.weights }

/-- The context of findings under a configuration. -/
def Config.contextOf (c : Config) (findings : Findings) : Except Error Context :=
  Context.build c.batchSize.toNat findings

/-- A current context, and how questions are answered from it. -/
structure Session where
  current : Context
  responder : Responder

namespace Session

/-- Puts a context in place of the current one, which is given back. -/
def replace (s : Session) (context : Context) : Context × Session :=
  (s.current, { s with current := context })

/-- Puts the context of findings in place of the current one. If there is none, the session stays as
it is. -/
def rebuild (s : Session) (config : Config) (findings : Findings) : Except Error Session := do
  let context ← config.contextOf findings
  return (s.replace context).2

/-- The answer to a question from the current context. -/
def answer (s : Session) (question : String) : Answer := s.responder.answer s.current question

end Session

end CodeAtlas
