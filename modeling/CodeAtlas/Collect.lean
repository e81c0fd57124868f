import CodeAtlas.Error
import CodeAtlas.Finding.Store

/-!
# Collecting findings

Collaborators are asked one after the other, and each has the same time to answer. What arrives in
time and is a finding of the collaborator's own kind is kept; everything else is a failure of that
collaborator alone. A failure that it tells itself is reported as it was told. A message that arrives
later has no receiver any more.
-/

namespace CodeAtlas

/-- What a collaborator does once it is asked; times are in milliseconds. -/
inductive Behaviour where
  /-- It cannot be started, with the reason. -/
  | unstarted (reason : String)
  /-- It sends a finding, or the failure to produce one, after some time. -/
  | sends (after : Nat) (message : Except Failure Finding)
  /-- It ends after some time without having sent anything. -/
  | exits (after : Nat)
  /-- It never sends anything and never ends. -/
  | hangs

/-- A collaborator. -/
structure Collaborator where
  kind : FindingKind
  behaviour : Behaviour

/-- What was collected. -/
structure Collection where
  findings : Findings := {}
  /-- The failures in the order of their collaborators. -/
  failures : List Failure := []

/-- What is received within a time from a collaborator of a kind. What it sends is received as it is,
and a failure among it may name another kind. -/
def Behaviour.received (deadline : Nat) (b : Behaviour) (kind : FindingKind) :
    Except Failure Finding :=
  match b with
  | .unstarted reason => .error ⟨kind, .io reason⟩
  | .sends after message => if after ≤ deadline then message else .error ⟨kind, .timedOut⟩
  | .exits after =>
    if after ≤ deadline then .error ⟨kind, .malformed "collaborator exited without a result"⟩
    else .error ⟨kind, .timedOut⟩
  | .hangs => .error ⟨kind, .timedOut⟩

/-- What a collaborator contributes within a time: a finding of its own kind, or a failure. -/
def Collaborator.contribution (deadline : Nat) (c : Collaborator) : Except Failure Finding :=
  match c.behaviour.received deadline c.kind with
  | .error failure => .error failure
  | .ok finding =>
    if finding.kind = c.kind then .ok finding
    else .error ⟨c.kind, .malformed ("produced a " ++ finding.kind.name ++ " finding")⟩

namespace Collection

/-- Adds what a collaborator contributes. -/
def add (deadline : Nat) (collection : Collection) (c : Collaborator) : Collection :=
  match c.contribution deadline with
  | .ok finding => { collection with findings := collection.findings.insert finding }
  | .error failure => { collection with failures := collection.failures ++ [failure] }

/-- Asks collaborators one after the other. -/
def run (deadline : Nat) (collaborators : List Collaborator) : Collection :=
  collaborators.foldl (add deadline) {}

end Collection

end CodeAtlas
