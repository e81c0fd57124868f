import CodeAtlas.Config.Basic
import CodeAtlas.Text.Blank
import CodeAtlas.Yaml.Record

/-!
# Reading a configuration

A configuration is a map of sections, and each section a map of choices. What is left out keeps its
default, and what has another name is passed over.
-/

namespace CodeAtlas.Config

/-- The choices of the section about builds. -/
def buildFields : List (Yaml.Field Config) :=
  [.of "batch_size" (Yaml.readWord "usize") fun c n => { c with batchSize := n }]

/-- The choices of the section about snapshots. -/
def snapshotFields : List (Yaml.Field Config) := [
  .of "enabled" Yaml.readBool fun c b => { c with snapshotEnabled := b },
  .of "directory" Yaml.readPath fun c path => { c with snapshotDirectory := path }]

/-- The choices of the section about queries. -/
def queryFields : List (Yaml.Field Config) :=
  [.of "max_results" (Yaml.readWord "usize") fun c n => { c with maxResults := n }]

/-- The choices of the section about the ranking of files. -/
def importanceFields : List (Yaml.Field Config) := [
  .of "define_weight" Yaml.readFloat fun c x =>
    { c with weights := { c.weights with define := x } },
  .of "importer_weight" Yaml.readFloat fun c x =>
    { c with weights := { c.weights with importer := x } }]

/-- The choices of the section about collaborators. -/
def collaboratorFields : List (Yaml.Field Config) := [
  .of "timeout_secs" (Yaml.readWord "u64") fun c n => { c with timeoutSecs := n },
  .of "findings_dir" Yaml.readPath fun c path => { c with findingsDirectory := path }]

/-- A section of choices. -/
def sectionOf (name title : String) (fields : List (Yaml.Field Config)) : Yaml.Field Config :=
  ⟨name, Yaml.readRecord title fields⟩

/-- The sections. -/
def sections : List (Yaml.Field Config) := [
  sectionOf "build" "BuildConfig" buildFields,
  sectionOf "snapshot" "SnapshotConfig" snapshotFields,
  sectionOf "query" "QueryConfig" queryFields,
  sectionOf "importance" "ImportanceWeights" importanceFields,
  sectionOf "collaborators" "CollaboratorConfig" collaboratorFields]

/-- Reads a configuration and checks it. A text of blanks only leaves every default. -/
def parse (text : String) : Except Error Config :=
  if text.toList.all Text.isBlank then .ok {}
  else
    match Yaml.readText "CartographConfig" sections text ({} : Config) with
    | .error problem => .error (.config problem.message)
    | .ok c => c.checked

end CodeAtlas.Config
