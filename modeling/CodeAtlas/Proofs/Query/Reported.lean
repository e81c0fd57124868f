import CodeAtlas.Proofs.Query.WellFormed

/-!
# Reported paths

Collaborators report commits and risks by path, and a path is matched with files in two places: a
record counts for a file whose id is the path or ends with it after a slash, and the path of a
question is resolved to one file of the graph. A path that matches some file is resolved to a file
that it matches. So every record of a file of the graph can be asked for by its own path, and the
answer tells how many records that file has, however short its lists are cut.

1. `Path.endsWith_slash_iff`, `Findings.sameFile_iff`: the two ways to look for the slash.
2. `Graph.resolveFile_of_sameFile`: a path that matches a file is resolved to one that it matches.
3. `Answer.Tells`, `Answer.tells_answer`: what an answer about a file tells of its records.
4. `Context.allInReach`: every record of a file is found by its own path.
-/

namespace CodeAtlas

/-! ## Matching -/

/-- A slash before the path ends what stands in front of the path. -/
theorem Path.endsWith_slash_iff {whole path : String} :
    Path.endsWith whole ("/" ++ path) = true ↔
      ∃ front : List Char, whole.toList = front ++ path.toList ∧ front.getLast? = some '/' := by
  unfold Path.endsWith
  rw [List.isSuffixOf_iff_suffix, String.toList_append]
  constructor
  · rintro ⟨front, hf⟩
    refine ⟨front ++ ['/'], ?_, List.getLast?_concat⟩
    rw [← hf, List.append_assoc]
    rfl
  · rintro ⟨front, hw, last⟩
    obtain ⟨before, rfl⟩ := List.getLast?_eq_some_iff.1 last
    refine ⟨before, ?_⟩
    rw [hw, List.append_assoc]
    rfl

namespace Findings

/-- A reported path means a file if it is the id, or if taking it off the end of the id leaves a
text that ends with a slash. -/
theorem sameFile_iff {id reported : String} :
    sameFile id reported = true ↔
      id = Path.plain reported ∨
        ∃ front : List Char, id.toList = front ++ (Path.plain reported).toList ∧
          front.getLast? = some '/' := by
  unfold sameFile Path.isTail
  rw [Bool.or_eq_true, beq_iff_eq, Path.endsWith_slash_iff]

theorem sameFile_plain (path : String) : sameFile (Path.plain path) path = true :=
  sameFile_iff.2 (Or.inl rfl)

end Findings

/-- **The two matchings agree.** A path that matches a file of the graph is resolved to a file of
the graph that it matches. -/
theorem Graph.resolveFile_of_sameFile {g : Graph} {id path : String}
    (file : g.hasKind .file id = true) (same : Findings.sameFile id path = true) :
    ∃ found, g.resolveFile path = some found ∧ g.hasKind .file found = true ∧
      Findings.sameFile found path = true := by
  unfold resolveFile
  dsimp only
  split
  · rename_i plain
    exact ⟨_, rfl, plain, Findings.sameFile_plain path⟩
  · rename_i other
    obtain ⟨node, mem, rfl⟩ := (g.hasKind_iff .file id).1 file
    -- the id is not the path itself, which is no file
    have behind : Path.endsWith node.id ("/" ++ Path.plain path) = true := by
      rcases Findings.sameFile_iff.1 same with equal | front
      · exact absurd (equal ▸ file) other
      · exact Path.endsWith_slash_iff.2 front
    have some_behind : ((g.nodesOf .file).find? fun n =>
        Path.endsWith n.id ("/" ++ Path.plain path)).isSome = true :=
      List.find?_isSome.2 ⟨node, mem, behind⟩
    obtain ⟨first, hf⟩ := Option.isSome_iff_exists.1 some_behind
    have also_behind := List.find?_some hf
    refine ⟨first.id, ?_, ?_, ?_⟩
    · rw [hf]
      rfl
    · exact (g.hasKind_iff .file _).2 ⟨first, List.mem_of_find?_eq_some hf, rfl⟩
    · exact Findings.sameFile_iff.2 (Or.inr (Path.endsWith_slash_iff.1 also_behind))

/-! ## Answers to a request -/

/-- The answers to a request, cut to some limit and with or without a preview. -/
def Context.Answers (context : Context) (request : Request) (a : Answer) : Prop :=
  ∃ limit preview, a = { (Query.answerRequest context request).cut limit with preview }

/-- Whoever responds, a question of a known form is given an answer to its request. -/
theorem Responder.answers_answer (r : Responder) (context : Context) {question : String}
    {request : Request} (h : Query.parse? question = some request) :
    context.Answers request (r.answer context question) := by
  refine ⟨r.limit, r.preview question ((r.facts context question).cut r.limit), ?_⟩
  unfold Responder.answer Responder.facts
  rw [h]

/-! ## Kinds of records -/

/-- The names of the facts that are added to what a handler gave. -/
def Reporting.added : List String := ["confidence", "totalFiles", "totalFunctions"]

/-- The names of the facts that an answer about a file may have besides its records. -/
def Reporting.taken : List String := "file" :: "error" :: added

/-- How the records of a kind are asked for and told of. -/
structure Reporting (α : Type) where
  intent : Intent
  /-- The path that is reported with a record. -/
  path : α → String
  /-- The name of the fact that tells how many records a file has. -/
  count : String
  /-- The name of the fact that tells which they are. -/
  list : String
  document : α → Json
  free : count ∉ Reporting.taken ∧ list ∉ Reporting.taken
  apart : count ≠ list

namespace Reporting

/-- The commits of a history. -/
def commits : Reporting Commit where
  intent := .history
  path := Commit.file
  count := "commitCount"
  list := "commits"
  document := Commit.document
  free := by decide
  apart := by decide

/-- The risks of a scan. -/
def risks : Reporting Risk where
  intent := .risks
  path := Risk.file
  count := "riskCount"
  list := "risks"
  document := Risk.document
  free := by decide
  apart := by decide

variable {α : Type} (k : Reporting α)

/-- The records of a file. -/
def recordsOf (records : List α) (file : String) : List α :=
  records.filter fun r => Findings.sameFile file (k.path r)

/-- The answer that tells of the records of a file. -/
def answer (file : String) (records : List α) : Answer :=
  { intent := k.intent.name, files := [file] : Answer }
    |>.withFact "file" (.text file)
    |>.withFacts [
      (k.count, .nat records.length), (k.list, .array (records.map k.document))]

end Reporting

namespace Answer

variable {α : Type} {k : Reporting α} {file : String} {records : List α} {a : Answer}

/-- Whether an answer about a file tells of all of its records: it is no error, and it has their
number and each of them. -/
structure Tells (k : Reporting α) (file : String) (records : List α) (a : Answer) : Prop where
  file : a.metadata.get? "file" = some (.text file)
  no_error : a.error? = none
  count : a.metadata.get? k.count = some (.nat records.length)
  list : ∃ listed : List α, listed.Perm records ∧
    a.metadata.get? k.list = some (.array (listed.map fun r => (k.document r).sorted))

theorem tells_answer (k : Reporting α) (file : String) (records : List α) :
    (k.answer file records).Tells k file records := by
  have named : ({ intent := k.intent.name, files := [file] : Answer }.withFact "file"
      (.text file)).HasFacts := HasFacts.withFact ⟨[], rfl⟩ _ _
  have facts : ∀ name, (k.answer file records).metadata.get? name =
      (([(k.list, Json.array (records.map k.document)),
          (k.count, .nat records.length)].lookup name).map Json.sorted).or
        (({ intent := k.intent.name, files := [file] : Answer }.withFact "file"
          (.text file)).metadata.get? name) :=
    named.get?_withFacts _
  have others : ∀ name ∈ Reporting.taken, (k.answer file records).metadata.get? name =
      ({ intent := k.intent.name, files := [file] : Answer }.withFact "file"
        (.text file)).metadata.get? name := by
    intro name taken
    have list : name ≠ k.list := fun same => k.free.2 (same ▸ taken)
    have count : name ≠ k.count := fun same => k.free.1 (same ▸ taken)
    rw [facts, Json.lookup_cons_of_ne list, Json.lookup_cons_of_ne count]
    rfl
  refine ⟨?_, ?_, ?_, records, List.Perm.refl _, ?_⟩
  · rw [others "file" (by decide)]
    rfl
  · unfold error?
    rw [others "error" (by decide)]
    rfl
  · rw [facts, Json.lookup_cons_of_ne k.apart, Json.lookup_cons_of_eq]
    rfl
  · rw [facts, Json.lookup_cons_of_eq]
    show some (Json.array _).sorted = _
    rw [Json.sorted_array, List.map_map]
    rfl

/-- The order in which the records are told of does not matter. -/
theorem Tells.perm {others : List α} (h : a.Tells k file records) (same : records.Perm others) :
    a.Tells k file others := by
  obtain ⟨listed, perm, list⟩ := h.list
  exact ⟨h.file, h.no_error, same.length_eq ▸ h.count, listed, perm.trans same, list⟩

/-- A confidence, a cut and a preview leave what is told as it is. -/
theorem Tells.answers {context : Context} {request : Request} {given : Answer} {confidence : Json}
    (h : given.Tells k file records)
    (answered : Query.answerRequest context request = given.withFact "confidence" confidence)
    (ha : context.Answers request a) : a.Tells k file records := by
  obtain ⟨limit, preview, rfl⟩ := ha
  have kept : ∀ name ∉ Reporting.added,
      ((Query.answerRequest context request).cut limit).metadata.get? name =
        given.metadata.get? name := by
    intro name new
    have ne : ∀ other ∈ Reporting.added, name ≠ other := fun other mem same => new (same ▸ mem)
    rw [get?_cut_of_ne limit (ne _ (by decide)) (ne _ (by decide)), answered,
      get?_withFact_of_ne given (ne _ (by decide))]
  have free : ∀ name ∉ Reporting.taken, name ∉ Reporting.added := fun name new mem =>
    new (List.mem_cons_of_mem _ (List.mem_cons_of_mem _ mem))
  obtain ⟨listed, perm, list⟩ := h.list
  refine ⟨?_, ?_, ?_, listed, perm, ?_⟩
  · exact (kept "file" (by decide)).trans h.file
  · show (((Query.answerRequest context request).cut limit).metadata.get? "error").bind _ = none
    rw [kept "error" (by decide)]
    exact h.no_error
  · exact (kept k.count (free _ k.free.1)).trans h.count
  · exact (kept k.list (free _ k.free.2)).trans list

end Answer

namespace Query

variable {fs : Findings} {file : String}

theorem history_eq {e : Envelope (List Commit)} (h : fs.history = some e) (file : String) :
    history fs file =
      Reporting.commits.answer file (Reporting.commits.recordsOf e.data file) := by
  unfold history Findings.historyFor
  rw [h]
  rfl

theorem risks_eq {e : Envelope (List Risk)} (h : fs.risks = some e) (file : String) :
    risks fs file = Reporting.risks.answer file
      ((Reporting.risks.recordsOf e.data file).mergeSort fun a b =>
        b.severity.rank ≤ a.severity.rank) := by
  unfold risks Findings.risksFor
  rw [h]
  rfl

end Query

/-! ## In reach -/

namespace Context

variable {α : Type}

/-- Whether records can all be asked for: for each that matches some file of the graph, every answer
about its own path is about a file that it matches, and tells of all records of that file. -/
def InReach (context : Context) (k : Reporting α) (records : List α) : Prop :=
  ∀ r ∈ records, ∀ id, context.graph.hasKind .file id = true →
    Findings.sameFile id (k.path r) = true →
    ∀ confidence a, context.Answers ⟨k.intent, k.path r, confidence⟩ a →
      ∃ found, context.graph.hasKind .file found = true ∧
        r ∈ k.recordsOf records found ∧ a.Tells k found (k.recordsOf records found)

/-- Records are in reach if the answer about a file tells of all records of the file. -/
theorem inReach_of_tells {context : Context} {k : Reporting α} {records : List α}
    {about : String → Answer}
    (asked : ∀ path confidence, Query.answerRequest context ⟨k.intent, path, confidence⟩ =
      (Query.onFile k.intent context.graph path about).withFact "confidence"
        (.float confidence.value))
    (tells : ∀ file, (about file).Tells k file (k.recordsOf records file)) :
    context.InReach k records := by
  intro r mem id file same confidence a ha
  obtain ⟨found, resolved, found_file, found_same⟩ := Graph.resolveFile_of_sameFile file same
  refine ⟨found, found_file, List.mem_filter.2 ⟨mem, found_same⟩, ?_⟩
  have answered := asked (k.path r) confidence
  unfold Query.onFile at answered
  rw [resolved] at answered
  exact (tells found).answers answered ha

/-- What can be asked about the files of the graph by a path that was reported. -/
structure AllInReach (context : Context) : Prop where
  /-- A path that matches a file is resolved to a file that it matches. -/
  resolved : ∀ id path, context.graph.hasKind .file id = true →
    Findings.sameFile id path = true →
    ∃ found, context.graph.resolveFile path = some found ∧
      context.graph.hasKind .file found = true ∧ Findings.sameFile found path = true
  commits : ∀ e, context.findings.history = some e → context.InReach .commits e.data
  risks : ∀ e, context.findings.risks = some e → context.InReach .risks e.data

/-- **Nothing reported is out of reach.** Whatever the graph and the findings, a commit or risk that
matches some file of the graph is among those that are told for its own path, all of which are
counted. -/
theorem allInReach (context : Context) : context.AllInReach where
  resolved := fun _ _ => Graph.resolveFile_of_sameFile
  commits := by
    intro e he
    refine inReach_of_tells (fun _ _ => rfl) fun file => ?_
    rw [Query.history_eq he]
    exact Answer.tells_answer _ _ _
  risks := by
    intro e he
    refine inReach_of_tells (fun _ _ => rfl) fun file => ?_
    rw [Query.risks_eq he]
    exact (Answer.tells_answer _ _ _).perm (List.mergeSort_perm _ _)

/-- Commits that touched two files, the first of them under its path and under the end of it. -/
def touches : List Commit := [
  ⟨"/w/a.rs", "1", "", "", "one"⟩, ⟨"b/a.rs", "2", "", "", "two"⟩,
  ⟨"././a.rs", "3", "", "", "three"⟩]

/-- The two files, both with that end, and a folder whose id it is. -/
def tracked : Context where
  graph := Graph.empty.addNodes [.folder "a.rs", .file "/w/a.rs", .file "/w/b/a.rs"]
  findings := { history := some ⟨"git", 0, touches⟩ }

theorem allInReach_tracked :
    Query.parse? "history of ././a.rs" = some ⟨.history, "././a.rs", .strict⟩ ∧
    tracked.graph.hasKind .file "/w/b/a.rs" = true ∧
    Findings.sameFile "/w/b/a.rs" "././a.rs" = true ∧
    ∃ found, tracked.graph.hasKind .file found = true ∧
      (({ maxResults := 1 } : Config).responder.answer tracked "history of ././a.rs").Tells
        .commits found (Reporting.commits.recordsOf touches found) := by
  have parsed : Query.parse? "history of ././a.rs" = some ⟨.history, "././a.rs", .strict⟩ := by
    decide +kernel
  have file : tracked.graph.hasKind .file "/w/b/a.rs" = true := by decide +kernel
  have same : Findings.sameFile "/w/b/a.rs" "././a.rs" = true := by decide +kernel
  refine ⟨parsed, file, same, ?_⟩
  obtain ⟨found, found_file, -, tells⟩ := (allInReach tracked).commits _ rfl
    ⟨"././a.rs", "3", "", "", "three"⟩ (by decide) "/w/b/a.rs" file same .strict _
    (Responder.answers_answer _ tracked parsed)
  exact ⟨found, found_file, tells⟩

end Context

end CodeAtlas
