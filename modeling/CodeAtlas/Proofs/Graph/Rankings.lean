import CodeAtlas.Graph.Ranking
import CodeAtlas.Proofs.Decimal.TotalOrder
import CodeAtlas.Proofs.Graph.Distinct
import Mathlib.Data.Prod.Lex
import Mathlib.Data.Set.Card

/-!
# Rankings

A ranking lists each node of a kind once, the higher score first and of equal scores the lower id.
No two nodes have the same id, so the sort never meets entries that it may not tell apart, and there
is one ranking only. All that it says is counted over the edges or looked up by id, so it does not
depend on the order in which nodes and edges were inserted.

1. `pairwise_outranks_mergeSort`, `eq_of_outranks`: a sort by score and id, and no other order.
2. `sameContents_iff`: graphs with the same contents have the same nodes and edges in some order.
3. `ranksFunctions_iff`, `centralities_faithful`: the functions.
4. `ranksFiles_iff`, `importances_faithful`: the files.
-/

namespace CodeAtlas

attribute [ext] Node Centrality Importance

/-! ## Ranked lists -/

section Ranked

variable {α κ : Type} [LinearOrder κ]

/-- Whether an entry stands before another: by a higher score, or by a lower id at the same score. -/
def Outranks (score : α → κ) (id : α → String) (a b : α) : Prop :=
  score b < score a ∨ score a = score b ∧ id a < id b

/-- What a ranking goes by: the score, of which the higher comes first, and then the id. -/
def place (score : α → κ) (id : α → String) (a : α) : κᵒᵈ ×ₗ String :=
  toLex (OrderDual.toDual (score a), id a)

variable {score : α → κ} {id : α → String}

theorem place_lt_iff {a b : α} : place score id a < place score id b ↔ Outranks score id a b :=
  Prod.Lex.toLex_lt_toLex

theorem place_le_iff {a b : α} : place score id a ≤ place score id b ↔
    score b < score a ∨ score a = score b ∧ id a ≤ id b :=
  Prod.Lex.toLex_le_toLex

theorem Outranks.asymm {a b : α} (h : Outranks score id a b) : ¬ Outranks score id b a :=
  fun h' => lt_asymm (place_lt_iff.2 h) (place_lt_iff.2 h')

/-- A sort by score and id leaves no ties if the ids are pairwise different. -/
theorem pairwise_outranks_mergeSort {before : α → α → Bool} {entries : List α}
    (before_iff : ∀ a b, before a b = true ↔ score b < score a ∨ score a = score b ∧ id a ≤ id b)
    (nodup : (entries.map id).Nodup) :
    (entries.mergeSort before).Pairwise (Outranks score id) := by
  have le_iff : ∀ a b, before a b = true ↔ place score id a ≤ place score id b :=
    fun a b => (before_iff a b).trans place_le_iff.symm
  have sorted : (entries.mergeSort before).Pairwise fun a b => before a b = true := by
    refine List.pairwise_mergeSort (fun a b c hab hbc => ?_) (fun a b => ?_) entries
    · exact (le_iff a c).2 (((le_iff a b).1 hab).trans ((le_iff b c).1 hbc))
    · rw [Bool.or_eq_true, le_iff, le_iff]
      exact le_total _ _
  have apart : (entries.mergeSort before).Pairwise fun a b => id a ≠ id b :=
    List.pairwise_map.1 (((List.mergeSort_perm entries before).map id).nodup_iff.2 nodup)
  refine sorted.imp₂ (fun a b hab hne => ?_) apart
  rcases (before_iff a b).1 hab with higher | ⟨same, le⟩
  · exact Or.inl higher
  · exact Or.inr ⟨same, lt_of_le_of_ne le hne⟩

/-- Two rankings of the same entries are equal. -/
theorem eq_of_outranks {l m : List α} (hl : l.Pairwise (Outranks score id))
    (hm : m.Pairwise (Outranks score id)) (same : ∀ a, a ∈ l ↔ a ∈ m) : l = m := by
  have nodup : ∀ {ranked : List α}, ranked.Pairwise (Outranks score id) → ranked.Nodup := by
    intro ranked h
    refine h.imp ?_
    rintro a _ self rfl
    exact self.asymm self
  exact List.Perm.eq_of_pairwise (fun a b _ _ hab hba => absurd hba hab.asymm) hl hm
    ((List.perm_ext_iff_of_nodup (nodup hl) (nodup hm)).2 same)

end Ranked

namespace Graph

/-! ## Contents -/

/-- Whether two graphs know the same of each id and have the same edges, in whatever order. -/
structure SameContents (g h : Graph) : Prop where
  data : ∀ id, (g.find? id).map Node.data = (h.find? id).map Node.data
  edges : g.edges.toList.Perm h.edges.toList

variable {g h : Graph}

namespace SameContents

theorem find? (same : g.SameContents h) (id : String) : g.find? id = h.find? id := by
  have data := same.data id
  cases hg : g.find? id with
  | none =>
    rw [hg] at data
    exact (Option.map_eq_none_iff.1 data.symm).symm
  | some node =>
    rw [hg] at data
    obtain ⟨other, hh, equal⟩ := Option.map_eq_some_iff.1 data.symm
    have ids : node.id = other.id := (id_of_find? hg).trans (id_of_find? hh).symm
    rw [hh, Node.ext ids equal.symm]

theorem hasKind (same : g.SameContents h) (kind : NodeKind) (id : String) :
    g.hasKind kind id = h.hasKind kind id := by
  rw [Graph.hasKind, same.find?]
  rfl

theorem function? (same : g.SameContents h) (id : String) : g.function? id = h.function? id := by
  rw [Graph.function?, same.find?]
  rfl

end SameContents

/-- Graphs with the same contents have the same nodes and the same edges, each in some order. -/
theorem sameContents_iff : g.SameContents h ↔
    g.nodes.toList.Perm h.nodes.toList ∧ g.edges.toList.Perm h.edges.toList := by
  constructor
  · intro same
    refine ⟨?_, same.edges⟩
    rw [List.perm_ext_iff_of_nodup g.nodup_ids.of_map h.nodup_ids.of_map]
    intro node
    have mem_iff : ∀ k : Graph, node ∈ k.nodes.toList ↔ k.find? node.id = some node := by
      intro k
      rw [find?_eq_some_iff]
      simp
    rw [mem_iff, mem_iff, same.find?]
  · rintro ⟨nodes, edges⟩
    refine ⟨fun id => congrArg (Option.map Node.data) ?_, edges⟩
    ext node
    rw [find?_eq_some_iff, find?_eq_some_iff, nodes.mem_iff]

/-- A graph in which an id is inserted again with other data, and edges are equal or dangle. -/
def told : Graph :=
  (empty.addNodes [.function "b" ⟨"run", "x.rs", 3, []⟩, .file "x.rs", .file "y.rs",
    .function "a" ⟨"old", "y.rs", 1, []⟩, .function "a" ⟨"stop", "x.rs", 9, ["run"]⟩]).addEdges
    [⟨"a", "b", .calls⟩, ⟨"b", "b", .calls⟩, ⟨"a", "b", .calls⟩, ⟨"x.rs", "a", .defines⟩,
      ⟨"y.rs", "x.rs", .imports⟩, ⟨"lost.rs", "x.rs", .imports⟩, ⟨"y.rs", "x.rs", .imports⟩]

/-- The same contents in another order. -/
def retold : Graph :=
  (empty.addEdges
    [⟨"y.rs", "x.rs", .imports⟩, ⟨"y.rs", "x.rs", .imports⟩, ⟨"a", "b", .calls⟩,
      ⟨"x.rs", "a", .defines⟩, ⟨"a", "b", .calls⟩, ⟨"lost.rs", "x.rs", .imports⟩,
      ⟨"b", "b", .calls⟩]).addNodes
    [.file "y.rs", .function "a" ⟨"stop", "x.rs", 9, ["run"]⟩, .file "x.rs",
      .function "b" ⟨"run", "x.rs", 3, []⟩]

theorem sameContents_retold : told.SameContents retold := by
  rw [sameContents_iff]
  decide +kernel

/-! ## Rankings of nodes -/

section Nodes

variable {α κ : Type} [LinearOrder κ] {score : α → κ} {key : α → String} {kind : NodeKind}
  {entry : Node → α} {before : α → α → Bool}

theorem count_ids_nodesOf (g : Graph) (kind : NodeKind) (id : String) :
    ((g.nodesOf kind).map Node.id).count id = if g.hasKind kind id then 1 else 0 := by
  rw [(g.nodup_ids_nodesOf kind).count]
  simp only [List.mem_map, hasKind_iff]

/-- What is listed as often as there are nodes of a kind is the entry of one. -/
theorem exists_node_of_mem {g : Graph} {ranked : List α}
    (once : ∀ id, (ranked.map key).count id = if g.hasKind kind id then 1 else 0) {a : α}
    (ha : a ∈ ranked) : ∃ node ∈ g.nodesOf kind, node.id = key a := by
  rw [← hasKind_iff]
  by_contra unknown
  have absent := once (key a)
  rw [if_neg unknown, List.count_eq_zero] at absent
  exact absent (List.mem_map_of_mem ha)

/-- The sorted entries of the nodes of a kind are the only list in which each node has one entry and
all entries are in order. -/
theorem eq_mergeSort_iff (g : Graph)
    (before_iff : ∀ a b, before a b = true ↔ score b < score a ∨ score a = score b ∧ key a ≤ key b)
    (key_entry : ∀ node, key (entry node) = node.id) (ranked : List α) :
    ranked = ((g.nodesOf kind).map entry).mergeSort before ↔
      (∀ id, (ranked.map key).count id = if g.hasKind kind id then 1 else 0) ∧
      (∀ a ∈ ranked, ∃ node ∈ g.nodesOf kind, a = entry node) ∧
      ranked.Pairwise (Outranks score key) := by
  have perm := List.mergeSort_perm ((g.nodesOf kind).map entry) before
  have keys : ((g.nodesOf kind).map entry).map key = (g.nodesOf kind).map Node.id := by
    rw [List.map_map]
    exact List.map_congr_left fun node _ => key_entry node
  have sorted : (((g.nodesOf kind).map entry).mergeSort before).Pairwise (Outranks score key) :=
    pairwise_outranks_mergeSort before_iff (keys ▸ g.nodup_ids_nodesOf kind)
  constructor
  · rintro rfl
    refine ⟨fun id => ?_, fun a ha => ?_, sorted⟩
    · rw [(perm.map key).count_eq, keys, count_ids_nodesOf]
    · obtain ⟨node, mem, rfl⟩ := List.mem_map.1 (perm.mem_iff.1 ha)
      exact ⟨node, mem, rfl⟩
  · rintro ⟨once, entries, ordered⟩
    apply eq_of_outranks ordered sorted
    intro a
    rw [perm.mem_iff, List.mem_map]
    constructor
    · intro ha
      obtain ⟨node, mem, rfl⟩ := entries a ha
      exact ⟨node, mem, rfl⟩
    · rintro ⟨node, mem, rfl⟩
      -- the node has an entry, which is that of the only node with its id
      have listed : node.id ∈ ranked.map key := by
        rw [← List.count_pos_iff, once, if_pos ((g.hasKind_iff kind _).2 ⟨node, mem, rfl⟩)]
        exact Nat.one_pos
      obtain ⟨a, ha, same⟩ := List.mem_map.1 listed
      obtain ⟨other, mem_other, rfl⟩ := entries a ha
      have ids : other.id = node.id := (key_entry other).symm.trans same
      have found := ((g.mem_nodesOf_iff kind other).1 mem_other).1
      rw [ids, ((g.mem_nodesOf_iff kind node).1 mem).1] at found
      rwa [Option.some.inj found]

end Nodes

/-! ## Functions -/

/-- Whether a list ranks the functions of a graph by the call edges at them. -/
structure RanksFunctions (g : Graph) (ranked : List Centrality) : Prop where
  /-- Each function is listed once, and nothing else is. -/
  once : ∀ id, (ranked.map Centrality.id).count id = if g.hasKind .function id then 1 else 0
  /-- The name and the file are those of the function. -/
  info : ∀ c ∈ ranked, ∃ info, g.function? c.id = some info ∧ c.name = info.name ∧ c.file = info.file
  /-- The degrees count edges, so an equal edge counts again and a call to itself counts in both. -/
  inDegree : ∀ c ∈ ranked,
    c.inDegree = g.edges.toList.countP fun e => e.target == c.id && e.kind == .calls
  outDegree : ∀ c ∈ ranked,
    c.outDegree = g.edges.toList.countP fun e => e.source == c.id && e.kind == .calls
  /-- More calls come first, and of equally many the lower id. -/
  sorted : ranked.Pairwise (Outranks Centrality.score Centrality.id)

theorem length_sources_eq_countP (g : Graph) (kind : EdgeKind) (id : String) :
    (g.sources kind id).length =
      g.edges.toList.countP fun e => e.target == id && e.kind == kind := by
  rw [length_sources, List.count, List.countP_map, edgesOf, List.countP_filter]
  rfl

theorem length_targets_eq_countP (g : Graph) (kind : EdgeKind) (id : String) :
    (g.targets kind id).length =
      g.edges.toList.countP fun e => e.source == id && e.kind == kind := by
  rw [length_targets, List.count, List.countP_map, edgesOf, List.countP_filter]
  rfl

/-- The name and the file of a function are listed. -/
theorem info_of_mem_nodesOf {node : Node} (h : node ∈ g.nodesOf .function) :
    ∃ info, g.function? node.id = some info ∧ (g.centralityOf node).name = info.name ∧
      (g.centralityOf node).file = info.file := by
  obtain ⟨found, kind⟩ := (g.mem_nodesOf_iff .function node).1 h
  obtain ⟨id, data⟩ := node
  cases data with
  | function info =>
    refine ⟨info, ?_, rfl, rfl⟩
    rw [Graph.function?, found]
    rfl
  | file => cases kind
  | folder => cases kind

theorem centrality_before_iff (a b : Centrality) : a.before b = true ↔
    b.score < a.score ∨ a.score = b.score ∧ a.id ≤ b.id := by
  simp [Centrality.before]

/-- There is one ranking of the functions. -/
theorem ranksFunctions_iff (g : Graph) (ranked : List Centrality) :
    g.RanksFunctions ranked ↔ ranked = g.centralities := by
  unfold centralities
  rw [g.eq_mergeSort_iff centrality_before_iff fun _ => rfl]
  constructor
  · intro h
    refine ⟨h.once, fun c hc => ?_, h.sorted⟩
    obtain ⟨node, mem, same⟩ := exists_node_of_mem h.once hc
    obtain ⟨info, found, name, file⟩ := info_of_mem_nodesOf mem
    obtain ⟨info', found', name', file'⟩ := h.info c hc
    rw [← same, found] at found'
    obtain rfl : info = info' := Option.some.inj found'
    refine ⟨node, mem, Centrality.ext same.symm (name'.trans name.symm) (file'.trans file.symm) ?_ ?_⟩
    · rw [h.inDegree c hc, ← same, ← length_sources_eq_countP]
      rfl
    · rw [h.outDegree c hc, ← same, ← length_targets_eq_countP]
      rfl
  · rintro ⟨once, entries, sorted⟩
    refine ⟨once, fun c hc => ?_, fun c hc => ?_, fun c hc => ?_, sorted⟩
    · obtain ⟨node, mem, rfl⟩ := entries c hc
      exact info_of_mem_nodesOf mem
    · obtain ⟨node, -, rfl⟩ := entries c hc
      exact g.length_sources_eq_countP .calls node.id
    · obtain ⟨node, -, rfl⟩ := entries c hc
      exact g.length_targets_eq_countP .calls node.id

/-- What a ranking of the functions says does not depend on any order. -/
theorem RanksFunctions.congr {ranked : List Centrality} (ranks : g.RanksFunctions ranked)
    (same : g.SameContents h) : h.RanksFunctions ranked where
  once := fun id => (ranks.once id).trans (by rw [same.hasKind])
  info := fun c hc => by
    rw [← same.function?]
    exact ranks.info c hc
  inDegree := fun c hc => (ranks.inDegree c hc).trans (same.edges.countP_eq _)
  outDegree := fun c hc => (ranks.outDegree c hc).trans (same.edges.countP_eq _)
  sorted := ranks.sorted

/-- **Central functions.** The functions are listed once each, by the call edges at them and then by
id, which is possible in one way only, and graphs with the same contents have the same ranking. -/
theorem centralities_faithful (g : Graph) :
    (∀ ranked, g.RanksFunctions ranked ↔ ranked = g.centralities) ∧
    ∀ h, g.SameContents h → g.centralities = h.centralities := by
  refine ⟨g.ranksFunctions_iff, fun h same => ?_⟩
  have ranks : g.RanksFunctions g.centralities := (g.ranksFunctions_iff _).2 rfl
  exact (h.ranksFunctions_iff _).1 (ranks.congr same)

theorem centralities_faithful_retold :
    told.SameContents retold ∧ told.nodes ≠ retold.nodes ∧ told.edges ≠ retold.edges ∧
    retold.RanksFunctions told.centralities ∧ told.centralities = retold.centralities := by
  have same : told.centralities = retold.centralities :=
    (centralities_faithful told).2 retold sameContents_retold
  have ranks : retold.RanksFunctions told.centralities :=
    ((centralities_faithful retold).1 told.centralities).2 same
  refine ⟨sameContents_retold, ?_, ?_, ranks, same⟩ <;> decide +kernel

/-! ## Files -/

/-- Whether a list ranks the files of a graph by what they define and how many files import them. -/
structure RanksFiles (g : Graph) (weights : Weights) (ranked : List Importance) : Prop where
  /-- Each file is listed once, and nothing else is. -/
  once : ∀ id, (ranked.map Importance.id).count id = if g.hasKind .file id then 1 else 0
  /-- An equal edge counts again. -/
  functionCount : ∀ i ∈ ranked,
    i.functionCount = g.edges.toList.countP fun e => e.source == i.id && e.kind == .defines
  /-- An importer counts once, however many edges it has. -/
  importerCount : ∀ i ∈ ranked,
    i.importerCount = {source | ⟨source, i.id, .imports⟩ ∈ g.edges.toList}.ncard
  score : ∀ i ∈ ranked, i.score = importanceScore weights i.functionCount i.importerCount
  /-- The score that stands later in the total order comes first, and of equal scores the lower
  id. -/
  sorted : ranked.Pairwise fun i j =>
    Decimal.Precedes j.score i.score ∨ i.score.toBits = j.score.toBits ∧ i.id < j.id

theorem importance_before_iff (a b : Importance) : a.before b = true ↔
    Decimal.totalRank b.score < Decimal.totalRank a.score ∨
      Decimal.totalRank a.score = Decimal.totalRank b.score ∧ a.id ≤ b.id := by
  simp [Importance.before]

theorem outranks_importance_iff {i j : Importance} :
    Outranks (fun i => Decimal.totalRank i.score) Importance.id i j ↔
      Decimal.Precedes j.score i.score ∨ i.score.toBits = j.score.toBits ∧ i.id < j.id := by
  unfold Outranks
  rw [Decimal.totalRank_lt_iff, Decimal.totalRank_eq_iff]

theorem length_importersOf (g : Graph) (id : String) :
    (g.importersOf id).length = {source | ⟨source, id, .imports⟩ ∈ g.edges.toList}.ncard := by
  have importers : {source | ⟨source, id, .imports⟩ ∈ g.edges.toList} =
      ((g.importersOf id).toFinset : Set String) := by
    ext source
    rw [Finset.mem_coe, List.mem_toFinset, importersOf, List.mem_eraseDups, mem_sources_iff]
    rfl
  rw [importers, Set.ncard_coe_finset]
  exact (List.toFinset_card_of_nodup (nodup_eraseDups _)).symm

/-- There is one ranking of the files. -/
theorem ranksFiles_iff (g : Graph) (weights : Weights) (ranked : List Importance) :
    g.RanksFiles weights ranked ↔ ranked = g.importances weights := by
  unfold importances
  rw [g.eq_mergeSort_iff importance_before_iff fun _ => rfl]
  constructor
  · intro h
    refine ⟨h.once, fun i hi => ?_, h.sorted.imp outranks_importance_iff.2⟩
    obtain ⟨node, mem, same⟩ := exists_node_of_mem h.once hi
    have functions : i.functionCount = (g.targets .defines node.id).length := by
      rw [h.functionCount i hi, ← same, length_targets_eq_countP]
    have importers : i.importerCount = (g.importersOf node.id).length := by
      rw [h.importerCount i hi, ← same, length_importersOf]
    refine ⟨node, mem, Importance.ext same.symm functions importers ?_⟩
    rw [h.score i hi, functions, importers]
    rfl
  · rintro ⟨once, entries, sorted⟩
    refine ⟨once, fun i hi => ?_, fun i hi => ?_, fun i hi => ?_,
      sorted.imp outranks_importance_iff.1⟩
    · obtain ⟨node, -, rfl⟩ := entries i hi
      exact g.length_targets_eq_countP .defines node.id
    · obtain ⟨node, -, rfl⟩ := entries i hi
      exact g.length_importersOf node.id
    · obtain ⟨node, -, rfl⟩ := entries i hi
      rfl

/-- What a ranking of the files says does not depend on any order. -/
theorem RanksFiles.congr {weights : Weights} {ranked : List Importance}
    (ranks : g.RanksFiles weights ranked) (same : g.SameContents h) :
    h.RanksFiles weights ranked where
  once := fun id => (ranks.once id).trans (by rw [same.hasKind])
  functionCount := fun i hi => (ranks.functionCount i hi).trans (same.edges.countP_eq _)
  importerCount := fun i hi => by
    rw [ranks.importerCount i hi]
    simp only [same.edges.mem_iff]
  score := ranks.score
  sorted := ranks.sorted

/-- The scores of a ranking do not rise as numbers. -/
theorem RanksFiles.descending {weights : Weights} {ranked : List Importance}
    (ranks : g.RanksFiles weights ranked) : ranked.Pairwise fun i j => ∀ u v,
      (Decimal.Parts.of i.score).value = some u → (Decimal.Parts.of j.score).value = some v →
      v ≤ u := by
  refine ranks.sorted.imp fun {i j} ahead u v hu hv => ?_
  by_contra rises
  have lower := Decimal.totalRank_lt_of_value_lt hu hv (not_le.1 rises)
  rcases outranks_importance_iff.2 ahead with higher | ⟨equal, -⟩
  · exact lt_asymm lower higher
  · exact lower.ne equal

/-- **Important files.** The files are listed once each, by what they define and how many import
them and then by id, which is possible in one way only; the scores do not rise, and graphs with the
same contents have the same ranking. -/
theorem importances_faithful (g : Graph) (weights : Weights) :
    (∀ ranked, g.RanksFiles weights ranked ↔ ranked = g.importances weights) ∧
    ((g.importances weights).Pairwise fun i j => ∀ u v,
      (Decimal.Parts.of i.score).value = some u → (Decimal.Parts.of j.score).value = some v →
      v ≤ u) ∧
    ∀ h, g.SameContents h → g.importances weights = h.importances weights := by
  have ranks : g.RanksFiles weights (g.importances weights) := (g.ranksFiles_iff weights _).2 rfl
  refine ⟨g.ranksFiles_iff weights, ranks.descending, fun h same => ?_⟩
  exact (h.ranksFiles_iff weights _).1 (ranks.congr same)

theorem importances_faithful_retold :
    told.SameContents retold ∧ told.nodes ≠ retold.nodes ∧ told.edges ≠ retold.edges ∧
    retold.RanksFiles {} (told.importances {}) ∧
    told.importances {} = retold.importances {} := by
  have same : told.importances {} = retold.importances {} :=
    (importances_faithful told {}).2.2 retold sameContents_retold
  have ranks : retold.RanksFiles {} (told.importances {}) :=
    ((importances_faithful retold {}).1 (told.importances {})).2 same
  refine ⟨sameContents_retold, ?_, ?_, ranks, same⟩ <;> decide +kernel

end Graph

end CodeAtlas
