import CodeAtlas.Config.Reader
import CodeAtlas.Proofs.Yaml.Records
import CodeAtlas.Yaml.Printer

/-!
# Choices that are written down

A workspace may choose some things and leave others out. What it leaves out keeps its default, and
the first choice that cannot be used is reported.

1. `Choices`: some of the choices of a workspace.
2. `Choices.WrittenBy`: the texts that write these choices down, in any order and among others.
3. `Choices.parse_of_written`: what reading such a text comes to.
4. `parse_print`: a configuration that is printed is read back.
5. `parse_choices`: choices replace defaults and nothing else.
-/

namespace CodeAtlas.Config

/-- Some of the choices of a workspace. -/
structure Choices where
  batchSize : Option UInt64 := none
  snapshotEnabled : Option Bool := none
  snapshotDirectory : Option String := none
  maxResults : Option UInt64 := none
  defineWeight : Option Float := none
  importerWeight : Option Float := none
  timeoutSecs : Option UInt64 := none
  findingsDirectory : Option String := none
deriving DecidableEq

namespace Choices

/-- A configuration with these choices in the place of its own. -/
def overlay (p : Choices) (c : Config) : Config where
  batchSize := p.batchSize.getD c.batchSize
  snapshotEnabled := p.snapshotEnabled.getD c.snapshotEnabled
  snapshotDirectory := p.snapshotDirectory.getD c.snapshotDirectory
  maxResults := p.maxResults.getD c.maxResults
  weights.define := p.defineWeight.getD c.weights.define
  weights.importer := p.importerWeight.getD c.weights.importer
  timeoutSecs := p.timeoutSecs.getD c.timeoutSecs
  findingsDirectory := p.findingsDirectory.getD c.findingsDirectory

/-- What is wrong with the first of these choices that cannot be used. -/
def complaint? (p : Choices) : Option String :=
  if p.batchSize = some 0 then some "build.batch_size must be positive"
  else if p.maxResults = some 0 then some "query.max_results must be positive"
  else if p.defineWeight.any (!isWeight ·) then
    some "importance.define_weight must be a finite, non-negative number"
  else if p.importerWeight.any (!isWeight ·) then
    some "importance.importer_weight must be a finite, non-negative number"
  else none

/-- What a workspace with these choices comes to. -/
def outcome (p : Choices) : Except Error Config :=
  match p.complaint? with
  | some reason => .error (.config reason)
  | none => .ok (p.overlay {})

/-- The demands that these choices and no others are made in a document. -/
def demands (p : Choices) (d : Yaml.Document) : List Yaml.Demand := [
  ("build", d.isSection [("batch_size", d.isChoice (p.batchSize.map (.nat ·.toNat)))]),
  ("snapshot", d.isSection [
    ("enabled", d.isChoice (p.snapshotEnabled.map .bool)),
    ("directory", d.isChoice (p.snapshotDirectory.map .text))]),
  ("query", d.isSection [("max_results", d.isChoice (p.maxResults.map (.nat ·.toNat)))]),
  ("importance", d.isSection [
    ("define_weight", d.isChoice (p.defineWeight.map .float)),
    ("importer_weight", d.isChoice (p.importerWeight.map .float))]),
  ("collaborators", d.isSection [
    ("timeout_secs", d.isChoice (p.timeoutSecs.map (.nat ·.toNat))),
    ("findings_dir", d.isChoice (p.findingsDirectory.map .text))])]

/-- Whether a document writes down these choices and no others. Sections and choices may come in any
order and with others between them, and a section without choices may be left out. -/
def writtenIn (p : Choices) (d : Yaml.Document) : Bool := d.whole && d.gives (p.demands d) d.root

/-- Whether a text writes down these choices and no others. A text of blanks writes down none. -/
def WrittenBy (p : Choices) (text : String) : Prop :=
  if text.toList.all Text.isBlank then p = {} else p.writtenIn (Yaml.Document.read text) = true

instance (p : Choices) (text : String) : Decidable (p.WrittenBy text) :=
  inferInstanceAs (Decidable (if text.toList.all Text.isBlank then _ else _))

/-! ## Reading the choices -/

/-- What the choice of a name does. -/
def put (p : Choices) : String → Config → Config
  | "batch_size", c => { c with batchSize := p.batchSize.getD c.batchSize }
  | "enabled", c => { c with snapshotEnabled := p.snapshotEnabled.getD c.snapshotEnabled }
  | "directory", c => { c with snapshotDirectory := p.snapshotDirectory.getD c.snapshotDirectory }
  | "max_results", c => { c with maxResults := p.maxResults.getD c.maxResults }
  | "define_weight", c =>
    { c with weights := { c.weights with define := p.defineWeight.getD c.weights.define } }
  | "importer_weight", c =>
    { c with weights := { c.weights with importer := p.importerWeight.getD c.weights.importer } }
  | "timeout_secs", c => { c with timeoutSecs := p.timeoutSecs.getD c.timeoutSecs }
  | "findings_dir", c =>
    { c with findingsDirectory := p.findingsDirectory.getD c.findingsDirectory }
  | _, c => c

/-- What the section of a name does. -/
def putSection (p : Choices) : String → Config → Config
  | "build", c => p.put "batch_size" c
  | "snapshot", c => p.put "directory" (p.put "enabled" c)
  | "query", c => p.put "max_results" c
  | "importance", c => p.put "importer_weight" (p.put "define_weight" c)
  | "collaborators", c => p.put "findings_dir" (p.put "timeout_secs" c)
  | _, c => c

variable {p : Choices} {d : Yaml.Document}

theorem commute_put (p : Choices) (a b : String) : Function.Commute (p.put a) (p.put b) := by
  intro c
  unfold put
  split <;> split <;> rfl

theorem commute_putSection (p : Choices) (a b : String) :
    Function.Commute (p.putSection a) (p.putSection b) := by
  intro c
  unfold putSection
  split <;> split <;> rfl

open Yaml (fills_of fills_section)

/-- Every section takes its step. -/
theorem fills_sections (p : Choices) (d : Yaml.Document) :
    List.Forall₂ (Yaml.Field.Fills d p.putSection) Config.sections (p.demands d) := by
  refine .cons ?build (.cons ?snapshot (.cons ?query (.cons ?importance
    (.cons ?collaborators .nil))))
  case build =>
    refine fills_section ?_ (by decide) p.commute_put (fun _ => rfl) _
    refine .cons ?_ .nil
    exact fills_of Config.batchSize (Yaml.readWord_of_denotes _) (fun _ => rfl) (fun _ => rfl)
  case snapshot =>
    refine fills_section ?_ (by decide) p.commute_put (fun _ => rfl) _
    refine .cons ?_ (.cons ?_ .nil)
    · exact fills_of Config.snapshotEnabled Yaml.readBool_of_denotes (fun _ => rfl) (fun _ => rfl)
    · exact fills_of Config.snapshotDirectory Yaml.readPath_of_denotes (fun _ => rfl) (fun _ => rfl)
  case query =>
    refine fills_section ?_ (by decide) p.commute_put (fun _ => rfl) _
    refine .cons ?_ .nil
    exact fills_of Config.maxResults (Yaml.readWord_of_denotes _) (fun _ => rfl) (fun _ => rfl)
  case importance =>
    refine fills_section ?_ (by decide) p.commute_put (fun _ => rfl) _
    refine .cons ?_ (.cons ?_ .nil)
    · exact fills_of (·.weights.define) Yaml.readFloat_of_denotes (fun _ => rfl) (fun _ => rfl)
    · exact fills_of (·.weights.importer) Yaml.readFloat_of_denotes (fun _ => rfl) (fun _ => rfl)
  case collaborators =>
    refine fills_section ?_ (by decide) p.commute_put (fun _ => rfl) _
    refine .cons ?_ (.cons ?_ .nil)
    · exact fills_of Config.timeoutSecs (Yaml.readWord_of_denotes _) (fun _ => rfl) (fun _ => rfl)
    · exact fills_of Config.findingsDirectory Yaml.readPath_of_denotes (fun _ => rfl) (fun _ => rfl)

/-- The default configuration is read with these choices in the place of its own. -/
theorem readRecord_of_gives (gives : d.gives (p.demands d) d.root = true) :
    Yaml.readRecord "CartographConfig" Config.sections d [] d.root ({} : Config) =
      .ok (p.overlay {}) :=
  Yaml.readRecord_of_gives (p.fills_sections d) (by decide) p.commute_putSection gives _ _ _

/-! ## Checking the choices -/

theorem getD_eq_zero_iff {n? : Option UInt64} {n : UInt64} (positive : n ≠ 0) :
    n?.getD n = 0 ↔ n? = some 0 := by
  cases n? with
  | none => simp [positive]
  | some m => simp

theorem isWeight_getD {x? : Option Float} {x : Float} (valid : isWeight x = true) :
    (!isWeight (x?.getD x)) = x?.any (!isWeight ·) := by
  cases x? with
  | none => simp [valid]
  | some y => rfl

/-- The defaults can be used, so what cannot be used is one of the choices. -/
theorem fault?_overlay_default (p : Choices) : (p.overlay {}).fault? = p.complaint? := by
  have batch : (p.overlay {}).batchSize = 0 ↔ p.batchSize = some 0 := getD_eq_zero_iff (by decide)
  have most : (p.overlay {}).maxResults = 0 ↔ p.maxResults = some 0 := getD_eq_zero_iff (by decide)
  have define : (!isWeight (p.overlay {}).weights.define) = p.defineWeight.any (!isWeight ·) :=
    isWeight_getD (by decide +kernel)
  have importer :
      (!isWeight (p.overlay {}).weights.importer) = p.importerWeight.any (!isWeight ·) :=
    isWeight_getD (by decide +kernel)
  simp only [fault?, complaint?, batch, most, define, importer]

theorem checked_overlay_default (p : Choices) : (p.overlay {}).checked = p.outcome := by
  rw [checked, fault?_overlay_default]
  rfl

theorem parse_of_written {text : String} (written : p.WrittenBy text) : parse text = p.outcome := by
  unfold WrittenBy at written
  unfold parse
  split
  · rw [if_pos ‹_›] at written
    rw [written]
    rfl
  · rw [if_neg ‹_›, writtenIn, Bool.and_eq_true] at written
    obtain ⟨whole, gives⟩ := written
    have read : Yaml.readText "CartographConfig" Config.sections text ({} : Config) =
        .ok (p.overlay {}) := by
      rw [Yaml.readText, readRecord_of_gives gives]
      exact if_pos whole
    rw [read]
    exact p.checked_overlay_default

/-! ## Configurations that are printed -/

/-- All choices, as a configuration has them. -/
def all (c : Config) : Choices where
  batchSize := c.batchSize
  snapshotEnabled := c.snapshotEnabled
  snapshotDirectory := c.snapshotDirectory
  maxResults := c.maxResults
  defineWeight := c.weights.define
  importerWeight := c.weights.importer
  timeoutSecs := c.timeoutSecs
  findingsDirectory := c.findingsDirectory

theorem outcome_all {c : Config} (valid : c.fault? = none) : (all c).outcome = .ok c := by
  have same : (all c).overlay {} = c := rfl
  rw [← checked_overlay_default, same, checked, valid]

theorem gives_of_denotes_document {c : Config}
    (stands : Yaml.denotes d c.document d.root = true) :
    d.gives ((all c).demands d) d.root = true := by
  refine Yaml.gives_of_denotes (.cons ⟨rfl, ?build⟩ (.cons ⟨rfl, ?snapshot⟩
    (.cons ⟨rfl, ?query⟩ (.cons ⟨rfl, ?importance⟩ (.cons ⟨rfl, ?collaborators⟩ .nil)))))
    (by simp [demands]) stands
  case build | query =>
    exact fun content => Yaml.gives_of_denotes (.cons ⟨rfl, fun _ => id⟩ .nil) (by simp)
  case snapshot | importance | collaborators =>
    exact fun content => Yaml.gives_of_denotes
      (.cons ⟨rfl, fun _ => id⟩ (.cons ⟨rfl, fun _ => id⟩ .nil)) (by simp)

theorem mem_writeEntries {letter : Char} {key : String} (mem : letter ∈ key.toList) (level : Nat)
    (value : Json) (rest : List (String × Json)) :
    letter ∈ (Yaml.writeEntries level ((key, value) :: rest)).toList := by
  unfold Yaml.writeEntries
  simp only [String.toList_append, List.mem_append]
  exact .inl (.inl (.inl (.inr mem)))

theorem print_document_ne_blank (c : Config) :
    (Yaml.print c.document).toList.all Text.isBlank = false := by
  have letter : 'b' ∈ "build".toList := by decide
  exact List.all_eq_false.2 ⟨'b', mem_writeEntries letter 0 _ _, by decide⟩

/-- A configuration is read back from its printed text, if the text stands for what is printed. -/
theorem written_of_standsFor {c : Config}
    (stands : (Yaml.Document.read (Yaml.print c.document)).standsFor c.document = true) :
    (all c).WrittenBy (Yaml.print c.document) := by
  obtain ⟨whole, denoted⟩ := Bool.and_eq_true_iff.1 stands
  rw [WrittenBy, print_document_ne_blank, if_neg nofun, writtenIn, whole,
    gives_of_denotes_document denoted]
  rfl

end Choices

theorem parse_print {c : Config} (valid : c.fault? = none)
    (stands : (Yaml.Document.read (Yaml.print c.document)).standsFor c.document = true) :
    parse (Yaml.print c.document) = .ok c :=
  (Choices.parse_of_written (Choices.written_of_standsFor stands)).trans (Choices.outcome_all valid)

/-- **Choices replace defaults and nothing else.** A text that writes down some choices, in any
order and with others between them, gives the default configuration with these choices in the place
of its own, or the complaint about the first of them that cannot be used. So a configuration that
can be used is read back from its printed text, if that text stands for what is printed. -/
theorem parse_choices :
    (∀ (p : Choices) (text : String), p.WrittenBy text → parse text = p.outcome) ∧
      ∀ c : Config, c.fault? = none →
        (Yaml.Document.read (Yaml.print c.document)).standsFor c.document = true →
          parse (Yaml.print c.document) = .ok c :=
  ⟨fun _ _ => Choices.parse_of_written, fun _ => parse_print⟩

theorem print_default : Yaml.print ({} : Config).document =
    "build:\n  batch_size: 256\n" ++
    "snapshot:\n  enabled: true\n  directory: .cartograph/snapshots\n" ++
    "query:\n  max_results: 50\n" ++
    "importance:\n  define_weight: 1.0\n  importer_weight: 2.0\n" ++
    "collaborators:\n  timeout_secs: 120\n  findings_dir: .cartograph/findings\n" := by
  simp only [document, Yaml.print, Yaml.writeEntries, Json.nat]
  decide +kernel

theorem standsFor_default :
    (Yaml.Document.read (Yaml.print ({} : Config).document)).standsFor ({} : Config).document =
      true := by
  rw [print_default]
  simp only [String.reduceAppend]
  rw [Yaml.Document.read_ofList]
  decide +kernel

/-- A configuration without any default. One of its paths needs quotes, and the other a block. -/
def foreign : Config where
  batchSize := 7
  snapshotEnabled := false
  snapshotDirectory := "no: #1"
  maxResults := 3
  weights := ⟨0.1, 1e300⟩
  timeoutSecs := 0
  findingsDirectory := "it's\nhere"

theorem print_foreign : Yaml.print foreign.document =
    "build:\n  batch_size: 7\n" ++
    "snapshot:\n  enabled: false\n  directory: 'no: #1'\n" ++
    "query:\n  max_results: 3\n" ++
    "importance:\n  define_weight: 0.1\n  importer_weight: 1e300\n" ++
    "collaborators:\n  timeout_secs: 0\n  findings_dir: |-\n    it's\n    here\n" := by
  simp only [document, Yaml.print, Yaml.writeEntries, Json.nat]
  decide +kernel

theorem standsFor_foreign :
    (Yaml.Document.read (Yaml.print foreign.document)).standsFor foreign.document = true := by
  rw [print_foreign]
  simp only [String.reduceAppend]
  rw [Yaml.Document.read_ofList]
  decide +kernel

/-- Sections and choices in another order and with others between them, once with a weight that
cannot be used; and a configuration without any default, which is printed and read back. -/
theorem parse_choices_reordered :
    parse "query:\n  depth: [1, 2]\n  max_results: 7\nsnapshot:\nnotes: ~\nbuild: \x7b\x7d\n" =
        .ok { maxResults := 7 } ∧
      parse "importance:\n  importer_weight: .inf\n  define_weight: -1\n" =
        .error (.config "importance.define_weight must be a finite, non-negative number") ∧
      parse (Yaml.print foreign.document) = .ok foreign := by
  obtain ⟨written, printed⟩ := parse_choices
  refine ⟨?_, ?_, printed _ (by decide +kernel) standsFor_foreign⟩
  · exact written { maxResults := some 7 } _ (by decide +kernel)
  · exact written { defineWeight := some (-1), importerWeight := some (1 / 0) } _
      (by decide +kernel)

end CodeAtlas.Config
