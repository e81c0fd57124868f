import CodeAtlas.Finding.Document
import CodeAtlas.Finding.Record
import CodeAtlas.Proofs.Json.RoundTrip

/-!
# Findings survive being written

A type of data has a document and a reader, and the reader gives back what the document was made
of. This is said of each type once, and a type that is made of others takes it over from them.

1. `Lawful.list`, `Lawful.envelope`: lists and envelopes of data that is read back.
2. `FunctionRecord.lawful`, `Risk.lawful` and so on: the records.
3. `Finding.parse_compact`: the text of a finding is read back as the finding.
-/

namespace CodeAtlas

open Json (Outline Problem)

/-- Whether data is read back from its documents, which hold no doubles. -/
structure Lawful {α : Type} (document : α → Json) (read : Outline → Except Problem α) : Prop where
  exact : ∀ a, (document a).Exact
  read_of : ∀ a, read (Outline.of (document a)) = .ok a

/-! ## Scalars and lists -/

theorem lawful_text : Lawful Json.text Outline.readText where
  exact := Json.exact_text
  read_of := by
    intro s
    simp [Outline.of, Outline.readText]

theorem lawful_line : Lawful (fun line : UInt32 => Json.nat line.toNat) readLine where
  exact := Json.exact_line
  read_of := by
    intro line
    have := line.toNat_lt
    have bounds : (0 : Int) ≤ line.toNat ∧ (line.toNat : Int) ≤ 4294967295 := by omega
    simp [Json.nat, Outline.of, readLine, Outline.readInt, bounds, Except.map]

theorem lawful_timestamp :
    Lawful (fun timestamp : Int64 => Json.int timestamp.toInt) readTimestamp where
  exact := by
    intro timestamp
    have := timestamp.le_toInt
    have := timestamp.toInt_lt
    exact .int ⟨by omega, by omega⟩
  read_of := by
    intro timestamp
    have least := timestamp.le_toInt
    have greatest := timestamp.toInt_lt
    have bounds : -9223372036854775808 ≤ timestamp.toInt ∧
        timestamp.toInt ≤ 9223372036854775807 := by omega
    simp [Outline.of, readTimestamp, Outline.readInt, bounds, Except.map]

theorem Severity.lawful : Lawful (fun severity : Severity => Json.text severity.name)
    Severity.read where
  exact := fun severity => .text severity.name
  read_of := by
    intro severity
    cases severity <;> rfl

theorem Lawful.list {α : Type} {document : α → Json} {read : Outline → Except Problem α}
    (h : Lawful document read) :
    Lawful (fun items : List α => Json.array (items.map document)) (Outline.readList read) where
  exact := by simp [h.exact]
  read_of := by
    intro items
    have each : Json.readEach read (Outline.ofItems (items.map document)) = .ok items := by
      induction items with
      | nil => rfl
      | cons a items ih =>
        simp [Outline.ofItems, Json.readEach, h.read_of, ih, bind, Except.bind, pure, Except.pure]
    simp [Outline.of, Outline.readList, each, Json.ending, bind, Except.bind, pure, Except.pure]

theorem lawful_texts : Lawful Json.texts readTexts := lawful_text.list

/-! ## Records -/

namespace Json

/-- A written member fills the slot of the field with its name, if the slot is empty. -/
theorem fillMembers_slot {σ β : Type} {fields : List (Field σ)} {name : String} {required : Bool}
    {get : σ → Option β} {put : σ → β → σ} {read : Outline → Except Problem β}
    (declared : fields.find? (·.name == name) = some (.slot name required get put read))
    {slots : σ} (free : get slots = none) {content : Json} {value : β}
    (h : read (Outline.of content) = .ok value) (rest : List (String × Json)) :
    fillMembers fields slots (Outline.ofMembers ((name, content) :: rest)) =
      fillMembers fields (put slots value) (Outline.ofMembers rest) := by
  rw [Outline.ofMembers, fillMembers]
  simp only [Outline.name, declared, Field.slot, free, h, Option.isSome_none, Bool.false_eq_true,
    if_false]
  rfl

theorem Record.read_members {σ α : Type} {record : Record σ α} {members : List (String × Json)}
    (slots : σ) {a : α}
    (filled : fillMembers record.fields record.empty (Outline.ofMembers members) = .ok slots)
    (finish : record.finish slots = .ok a) :
    record.read (Outline.of (.object members)) = .ok a := by
  rw [Outline.of, Record.read, filled]
  show Record.read.finish record slots = .ok a
  rw [Record.read.finish, finish]

end Json

open Json (Record fillMembers_slot)

theorem Inventory.lawful : Lawful Inventory.document Inventory.record.read where
  exact := by simp [Inventory.document]
  read_of := by
    intro data
    refine Record.read_members ⟨some data.folders, some data.files⟩ ?_ rfl
    rw [fillMembers_slot rfl rfl (lawful_texts.read_of data.folders),
      fillMembers_slot rfl rfl (lawful_texts.read_of data.files)]
    rfl

theorem FunctionRecord.lawful : Lawful FunctionRecord.document FunctionRecord.record.read where
  exact := by simp [FunctionRecord.document]
  read_of := by
    intro f
    refine Record.read_members
      ⟨some f.id, some f.name, some f.file, some f.startLine, some f.calls⟩ ?_ rfl
    rw [fillMembers_slot rfl rfl (lawful_text.read_of f.id),
      fillMembers_slot rfl rfl (lawful_text.read_of f.name),
      fillMembers_slot rfl rfl (lawful_text.read_of f.file),
      fillMembers_slot rfl rfl (lawful_line.read_of f.startLine),
      fillMembers_slot rfl rfl (lawful_texts.read_of f.calls)]
    rfl

theorem ImportPair.lawful : Lawful ImportPair.document ImportPair.record.read where
  exact := by simp [ImportPair.document]
  read_of := by
    intro pair
    refine Record.read_members ⟨some pair.source, some pair.target⟩ ?_ rfl
    rw [fillMembers_slot rfl rfl (lawful_text.read_of pair.source),
      fillMembers_slot rfl rfl (lawful_text.read_of pair.target)]
    rfl

theorem Commit.lawful : Lawful Commit.document Commit.record.read where
  exact := by simp [Commit.document]
  read_of := by
    intro c
    refine Record.read_members
      ⟨some c.file, some c.commit, some c.author, some c.date, some c.message⟩ ?_ rfl
    rw [fillMembers_slot rfl rfl (lawful_text.read_of c.file),
      fillMembers_slot rfl rfl (lawful_text.read_of c.commit),
      fillMembers_slot rfl rfl (lawful_text.read_of c.author),
      fillMembers_slot rfl rfl (lawful_text.read_of c.date),
      fillMembers_slot rfl rfl (lawful_text.read_of c.message)]
    rfl

/-- A line that is written is a line, and not null. -/
theorem readOptional_line (line : UInt32) :
    Outline.readOptional readLine (Outline.of (.nat line.toNat)) = .ok (some line) := by
  show (readLine (Outline.of (.nat line.toNat))).map some = _
  rw [lawful_line.read_of]
  rfl

/-- The line of a risk is left out if there is none, and a slot that stays empty is no line. -/
theorem Risk.lawful : Lawful Risk.document Risk.record.read where
  exact := by
    rintro ⟨file, category, severity, message, line⟩
    cases line <;> simp [Risk.document]
  read_of := by
    rintro ⟨file, category, severity, message, line⟩
    cases line with
    | none =>
      refine Record.read_members
        ⟨some file, some category, some severity, some message, none⟩ ?_ rfl
      simp only [Option.map_none, Option.toList_none, List.append_nil]
      rw [fillMembers_slot rfl rfl (lawful_text.read_of file),
        fillMembers_slot rfl rfl (lawful_text.read_of category),
        fillMembers_slot rfl rfl (Severity.lawful.read_of severity),
        fillMembers_slot rfl rfl (lawful_text.read_of message)]
      rfl
    | some line =>
      refine Record.read_members
        ⟨some file, some category, some severity, some message, some (some line)⟩ ?_ rfl
      simp only [Option.map_some, Option.toList_some, List.cons_append, List.nil_append]
      rw [fillMembers_slot rfl rfl (lawful_text.read_of file),
        fillMembers_slot rfl rfl (lawful_text.read_of category),
        fillMembers_slot rfl rfl (Severity.lawful.read_of severity),
        fillMembers_slot rfl rfl (lawful_text.read_of message),
        fillMembers_slot rfl rfl (readOptional_line line)]
      rfl

/-! ## Findings -/

theorem Lawful.listRecord {α : Type} {document : α → Json} {read : Outline → Except Problem α}
    (h : Lawful document read) (name field : String) :
    Lawful (listDocument field document) (listRecord name field read).read where
  exact := by simp [listDocument, h.exact]
  read_of := by
    intro items
    have declared : (CodeAtlas.listRecord name field read).fields.find? (·.name == field) =
        some (.slot field false id (fun _ v => some v) (Outline.readList read)) := by
      simp [CodeAtlas.listRecord, Json.Field.slot]
    refine Record.read_members (some items) ?_ rfl
    exact fillMembers_slot declared rfl (h.list.read_of items) []

theorem Lawful.envelope {α : Type} {document : α → Json} {read : Outline → Except Problem α}
    (h : Lawful document read) :
    Lawful (Envelope.document document) (Envelope.record read).read where
  exact := by simp [Envelope.document, lawful_timestamp.exact, h.exact]
  read_of := by
    intro e
    refine Record.read_members ⟨some e.source, some e.timestamp, some e.data⟩ ?_ rfl
    rw [fillMembers_slot rfl rfl (lawful_text.read_of e.source),
      fillMembers_slot rfl rfl (lawful_timestamp.read_of e.timestamp),
      fillMembers_slot rfl rfl (h.read_of e.data)]
    rfl

theorem lawful_functions :
    Lawful (listDocument "functions" FunctionRecord.document) readFunctions :=
  FunctionRecord.lawful.listRecord _ _

theorem lawful_imports :
    Lawful (listDocument "dependencies" ImportPair.document) readImports :=
  ImportPair.lawful.listRecord _ _

theorem lawful_commits : Lawful (listDocument "entries" Commit.document) readCommits :=
  Commit.lawful.listRecord _ _

theorem lawful_risks : Lawful (listDocument "risks" Risk.document) readRisks :=
  Risk.lawful.listRecord _ _

/-- What is read back may be wrapped up. -/
theorem Lawful.map_read_of {α β : Type} {document : α → Json} {read : Outline → Except Problem α}
    (h : Lawful document read) (wrap : α → β) (a : α) :
    (read (Outline.of (document a))).map wrap = .ok (wrap a) := by
  rw [h.read_of]
  rfl

namespace Finding

theorem exact_document (finding : Finding) : finding.document.Exact := by
  cases finding with
  | structural e => exact Inventory.lawful.envelope.exact e
  | extraction e => exact lawful_functions.envelope.exact e
  | dependencies e => exact lawful_imports.envelope.exact e
  | history e => exact lawful_commits.envelope.exact e
  | risks e => exact lawful_risks.envelope.exact e

theorem read_document (finding : Finding) :
    read finding.kind (Outline.of finding.document) = .ok finding := by
  cases finding with
  | structural e => exact Inventory.lawful.envelope.map_read_of structural e
  | extraction e => exact lawful_functions.envelope.map_read_of extraction e
  | dependencies e => exact lawful_imports.envelope.map_read_of dependencies e
  | history e => exact lawful_commits.envelope.map_read_of history e
  | risks e => exact lawful_risks.envelope.map_read_of risks e

/-- **Findings survive being written.** The text of a finding, read as one of its kind, is the
finding again. -/
theorem parse_compact (finding : Finding) :
    parse finding.kind finding.document.compact = .ok finding := by
  rw [parse, Json.read_compact finding.exact_document, Json.Document.read?, read_document]
  rfl

end Finding

end CodeAtlas
