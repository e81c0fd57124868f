import CodeAtlas.Proofs.Finding.RoundTrip
import CodeAtlas.Proofs.Json.Rearrangement

/-!
# Findings whose members are rearranged

The members of every structure of a finding may come in any order and with others between them.

1. `FindingKind.Rearranged`: the rearrangements of a finding.
2. `Record.keeps` of each structure: it is read from its rearrangements as it was.
3. `Finding.parse_rearranged`: so is a finding from its rearranged text.
-/

namespace CodeAtlas

open Json (Outline Problem Record Form EachOf RecordOf Keeps Declares)

/-! ## Rearrangements

Scalars, severities and lists of texts have no members and stay as they are.
-/

def Inventory.Rearranged : Form :=
  RecordOf [("folders", Eq), ("files", Eq)]

def FunctionRecord.Rearranged : Form :=
  RecordOf [("id", Eq), ("name", Eq), ("file", Eq), ("startLine", Eq), ("calls", Eq)]

def ImportPair.Rearranged : Form :=
  RecordOf [("from", Eq), ("to", Eq)]

def Commit.Rearranged : Form :=
  RecordOf [("file", Eq), ("commit", Eq), ("author", Eq), ("date", Eq), ("message", Eq)]

def Risk.Rearranged : Form :=
  RecordOf [("file", Eq), ("category", Eq), ("severity", Eq), ("message", Eq), ("line", Eq)]

/-- Rearrangements of an envelope around data with rearrangements of its own. -/
def Envelope.Rearranged (data : Form) : Form :=
  RecordOf [("source", Eq), ("timestamp", Eq), ("data", data)]

/-- Rearrangements of a finding of a kind. -/
def FindingKind.Rearranged : FindingKind → Form
  | structural => Envelope.Rearranged Inventory.Rearranged
  | extraction => Envelope.Rearranged (RecordOf [("functions", EachOf FunctionRecord.Rearranged)])
  | dependencies => Envelope.Rearranged (RecordOf [("dependencies", EachOf ImportPair.Rearranged)])
  | history => Envelope.Rearranged (RecordOf [("entries", EachOf Commit.Rearranged)])
  | risks => Envelope.Rearranged (RecordOf [("risks", EachOf Risk.Rearranged)])

/-! ## The structures -/

theorem Inventory.keeps : Keeps Inventory.record.read Inventory.Rearranged := by
  refine Record.keeps ⟨?_, ?_⟩ ?_ <;> simp [Inventory.record, Declares]

theorem FunctionRecord.keeps : Keeps FunctionRecord.record.read FunctionRecord.Rearranged := by
  refine Record.keeps ⟨?_, ?_⟩ ?_ <;> simp [FunctionRecord.record, Declares]

theorem ImportPair.keeps : Keeps ImportPair.record.read ImportPair.Rearranged := by
  refine Record.keeps ⟨?_, ?_⟩ ?_ <;> simp [ImportPair.record, Declares]

theorem Commit.keeps : Keeps Commit.record.read Commit.Rearranged := by
  refine Record.keeps ⟨?_, ?_⟩ ?_ <;> simp [Commit.record, Declares]

theorem Risk.keeps : Keeps Risk.record.read Risk.Rearranged := by
  refine Record.keeps ⟨?_, ?_⟩ ?_ <;> simp [Risk.record, Declares]

section

variable {α : Type} {read : Outline → Except Problem α} {form : Form}

theorem keeps_listRecord (h : Keeps read form) (name field : String) :
    Keeps (listRecord name field read).read (RecordOf [(field, EachOf form)]) := by
  refine Record.keeps ⟨?_, ?_⟩ ?_ <;> simp [listRecord, Declares, h.list]

theorem Envelope.keeps (h : Keeps read form) :
    Keeps (Envelope.record read).read (Envelope.Rearranged form) := by
  refine Record.keeps ⟨?_, ?_⟩ ?_ <;> simp [Envelope.record, Declares, h]

end

/-! ## Findings -/

namespace Finding

theorem keeps_read (kind : FindingKind) : Keeps (read kind) kind.Rearranged := by
  cases kind with
  | structural => exact (Envelope.keeps Inventory.keeps).map structural
  | extraction => exact (Envelope.keeps (keeps_listRecord FunctionRecord.keeps _ _)).map extraction
  | dependencies => exact (Envelope.keeps (keeps_listRecord ImportPair.keeps _ _)).map dependencies
  | history => exact (Envelope.keeps (keeps_listRecord Commit.keeps _ _)).map history
  | risks => exact (Envelope.keeps (keeps_listRecord Risk.keeps _ _)).map risks

/-- **The order of members and unknown members do not matter.** A text that is read as a finding of
a kind may have the members of its structures put into another order, and any valid values put
between them under names that are no field's: it is read as the same finding. -/
theorem parse_rearranged {kind : FindingKind} {text other : String} {finding : Finding}
    (accepted : parse kind text = .ok finding)
    (rearranged : kind.Rearranged (Json.Document.read text).root (Json.Document.read other).root)
    (whole : (Json.Document.read other).trailing = false) :
    parse kind other = .ok finding := by
  obtain ⟨reading, _⟩ := Json.Document.read?_eq_ok.1 accepted
  exact Json.Document.read?_eq_ok.2 ⟨keeps_read kind rearranged reading, whole⟩

/-- The members of the second text stand in reverse, with one more in the data and in the function.
The latter gives the function no line, since `start_line` is not the name of a field. -/
theorem parse_rearranged_extraction :
    let plain : Json := .object [("source", .text "ast"), ("timestamp", .int 5),
      ("data", .object [("functions", .array [
        .object [("id", .text "f"), ("name", .text "f"), ("file", .text "a.rs")]])])]
    let other : Json := .object [
      ("data", .object [("note", .null), ("functions", .array [
        .object [("start_line", .int 7), ("file", .text "a.rs"), ("name", .text "f"),
          ("id", .text "f")]])]),
      ("timestamp", .int 5), ("source", .text "ast")]
    let finding : Finding := .extraction ⟨"ast", 5, [⟨"f", "f", "a.rs", 0, []⟩]⟩
    parse .extraction plain.compact = .ok finding ∧
      parse .extraction other.compact = .ok finding := by
  intro plain other finding
  have plain_text : Json.Document.read plain.compact = ⟨Outline.of plain, false⟩ :=
    Json.read_compact (by simp [plain, Json.IsWord])
  have other_text : Json.Document.read other.compact = ⟨Outline.of other, false⟩ :=
    Json.read_compact (by simp [other, Json.IsWord])
  have accepted : parse .extraction plain.compact = .ok finding := by
    rw [parse, plain_text]
    rfl
  refine ⟨accepted, parse_rearranged accepted ?_ (by rw [other_text])⟩
  rw [plain_text, other_text]
  refine @RecordOf.intro _ _ _ [] _
    (.cons (.same _) (.cons (.same _) (.cons (.field rfl rfl ?_) .nil)))
    (List.forall_mem_nil _) (List.reverse_perm _).symm
  refine @RecordOf.intro _ _ _ [(.text (.ok "note") none, Outline.of .null)] _
    (.cons (.field rfl rfl ⟨.cons ?_ .nil⟩) .nil)
    (List.forall_mem_singleton.2 ⟨⟨_, rfl, rfl⟩, rfl⟩) (List.reverse_perm _).symm
  exact @RecordOf.intro _ _ _ [(.text (.ok "start_line") none, Outline.of (.int 7))] _
    (List.forall₂_refl _) (List.forall_mem_singleton.2 ⟨⟨_, rfl, rfl⟩, rfl⟩)
    (List.reverse_perm _).symm

end Finding

end CodeAtlas
