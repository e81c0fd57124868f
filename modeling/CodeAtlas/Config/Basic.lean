import CodeAtlas.Build.Batch
import CodeAtlas.Error
import CodeAtlas.Graph.Ranking
import CodeAtlas.Json.Basic
import CodeAtlas.Path

/-!
# Configuration

What a workspace can choose: how functions are worked off, where snapshots go, how long answers may
be, how files are weighed, and where findings come from. Everything has a default.
-/

namespace CodeAtlas

/-- The choices of a workspace. -/
structure Config where
  /-- How many functions a build works off at a time. -/
  batchSize : UInt64 := Build.defaultBatchSize
  /-- Whether a build leaves a snapshot. -/
  snapshotEnabled : Bool := true
  /-- Where snapshots go, from the workspace on. -/
  snapshotDirectory : String := ".cartograph/snapshots"
  /-- How many files and functions an answer lists. -/
  maxResults : UInt64 := 50
  /-- The weights by which files are ranked. -/
  weights : Weights := {}
  /-- How many seconds a collaborator may take. -/
  timeoutSecs : UInt64 := 120
  /-- Where findings come from, from the workspace on. -/
  findingsDirectory : String := ".cartograph/findings"
deriving DecidableEq

namespace Config

/-- The directory of a workspace that holds its configuration. -/
def directoryName : String := ".cartograph"

/-- The name of the file with the configuration. -/
def fileName : String := "config.yaml"

/-- The path of the configuration of a workspace. -/
def pathIn (workspace : String) : String :=
  Path.join (Path.join workspace directoryName) fileName

/-- Where the snapshots of a workspace go. -/
def snapshotPath (c : Config) (workspace : String) : String :=
  Path.join workspace c.snapshotDirectory

/-- Where the findings of a workspace come from. -/
def findingsPath (c : Config) (workspace : String) : String :=
  Path.join workspace c.findingsDirectory

/-- Whether a weight can be used: a number that is not below zero. -/
def isWeight (x : Float) : Bool := Decimal.isNumber x && !(x < 0)

/-- What is wrong with the first choice that cannot be used. -/
def fault? (c : Config) : Option String :=
  if c.batchSize = 0 then some "build.batch_size must be positive"
  else if c.maxResults = 0 then some "query.max_results must be positive"
  else if !isWeight c.weights.define then
    some "importance.define_weight must be a finite, non-negative number"
  else if !isWeight c.weights.importer then
    some "importance.importer_weight must be a finite, non-negative number"
  else none

/-- The configuration if all of it can be used. -/
def checked (c : Config) : Except Error Config :=
  match c.fault? with
  | some reason => .error (.config reason)
  | none => .ok c

/-- A configuration as sections of choices. -/
def document (c : Config) : Json :=
  .object [
    ("build", .object [("batch_size", .nat c.batchSize.toNat)]),
    ("snapshot", .object [
      ("enabled", .bool c.snapshotEnabled), ("directory", .text c.snapshotDirectory)]),
    ("query", .object [("max_results", .nat c.maxResults.toNat)]),
    ("importance", .object [
      ("define_weight", .float c.weights.define), ("importer_weight", .float c.weights.importer)]),
    ("collaborators", .object [
      ("timeout_secs", .nat c.timeoutSecs.toNat), ("findings_dir", .text c.findingsDirectory)])]

end Config

end CodeAtlas
