import CodeAtlas.Proofs.Build.Endpoints
import CodeAtlas.Proofs.Graph.ShortestChain

/-!
# Chains between unknown ids

An import may name an id that is no node. The chain from an id to itself asks whether the id is
known, but the chain from one id to another follows the imports and asks nothing, so it may start or
end at an id that is unknown. Then an import dangles there; where none does, as in every build,
unknown ids have no chain.

1. `chain_eq_none_iff`: when there is no chain from one id to another.
2. `exists_import_of_chain`, `ImportsJoinNodes.chain_eq_none`: the ends of a chain are ends of
   imports.
3. `chain_unknown`: what chains unknown ids have.
4. `not_unknown_dangling`: an unknown id may have a chain.
5. `chain_graph_eq_none`: in a build it has none.
-/

namespace CodeAtlas

namespace Graph

open Relation (TransGen)

variable {g : Graph} {x y : String}

theorem chain_eq_none_iff (h : x ≠ y) :
    g.chain x y = none ↔ ¬ TransGen (g.Joins .imports) x y := by
  rw [← chain_isSome_iff h, Option.not_isSome_iff_eq_none]

/-- A chain from an id to another begins and ends with an import. -/
theorem exists_import_of_chain (h : x ≠ y) {ids : List String} (found : g.chain x y = some ids) :
    (∃ e ∈ g.edges, e.kind = .imports ∧ e.source = x) ∧
      ∃ e ∈ g.edges, e.kind = .imports ∧ e.target = y := by
  have reached : TransGen (g.Joins .imports) x y := (chain_isSome_iff h).1 (by rw [found]; rfl)
  obtain ⟨second, first, -⟩ := TransGen.head'_iff.1 reached
  obtain ⟨beforeLast, -, last⟩ := TransGen.tail'_iff.1 reached
  exact ⟨⟨_, Array.mem_toList_iff.1 first, rfl, rfl⟩, ⟨_, Array.mem_toList_iff.1 last, rfl, rfl⟩⟩

/-- There is no chain from an unknown id to itself. -/
theorem chain_self_eq_none (unknown : g.contains x = false) : g.chain x x = none := by
  rw [chain, if_pos rfl, if_neg (by simp [unknown])]

/-- Whether every import of a graph joins nodes. -/
def ImportsJoinNodes (g : Graph) : Prop :=
  ∀ e ∈ g.edges, e.kind = .imports → g.contains e.source = true ∧ g.contains e.target = true

theorem ImportsJoinNodes.chain_eq_none (joins : g.ImportsJoinNodes)
    (unknown : g.contains x = false ∨ g.contains y = false) : g.chain x y = none := by
  by_cases same : x = y
  · subst same
    exact chain_self_eq_none (unknown.elim id id)
  · by_contra some_chain
    obtain ⟨ids, found⟩ := Option.ne_none_iff_exists'.1 some_chain
    obtain ⟨⟨first, hf, kind, rfl⟩, last, hl, kind', rfl⟩ := exists_import_of_chain same found
    have begins := (joins first hf kind).1
    have ends := (joins last hl kind').2
    rw [begins, ends] at unknown
    rcases unknown with h | h <;> cases h

/-- **Unknown ends.** If an end is no node, there is a chain only where imports lead from one id to
another. So there is none from an unknown id to itself, none from an id at which no import begins or
to one at which none ends, and none at all where the imports join nodes. -/
theorem chain_unknown (unknown : g.contains x = false ∨ g.contains y = false) :
    (g.chain x y = none ↔ x = y ∨ ¬ TransGen (g.Joins .imports) x y) ∧
      (∀ ids, g.chain x y = some ids →
        (∃ e ∈ g.edges, e.kind = .imports ∧ e.source = x) ∧
          ∃ e ∈ g.edges, e.kind = .imports ∧ e.target = y) ∧
      (g.ImportsJoinNodes → g.chain x y = none) := by
  refine ⟨?_, fun ids found => ?_, fun joins => joins.chain_eq_none unknown⟩
  · by_cases same : x = y
    · subst same
      exact iff_of_true (chain_self_eq_none (unknown.elim id id)) (.inl rfl)
    · rw [chain_eq_none_iff same, or_iff_right same]
  · have different : x ≠ y := by
      rintro rfl
      rw [chain_self_eq_none (unknown.elim id id)] at found
      cases found
    exact exists_import_of_chain different found

/-- A file, and two ids that imports name but that are no nodes. -/
def dangling : Graph :=
  (empty.addNode (.file "a.rs")).addEdges
    [⟨"a.rs", "ghost", .imports⟩, ⟨"ghost", "lost", .imports⟩, ⟨"lost", "a.rs", .calls⟩]

/-- From the last of them no import leads anywhere. -/
theorem chain_unknown_dangling :
    dangling.contains "lost" = false ∧ dangling.chain "lost" "a.rs" = none ∧
      dangling.chain "lost" "lost" = none := by
  have unknown : dangling.contains "lost" = false := by decide +kernel
  have leaves : ¬ ∃ e ∈ dangling.edges, e.kind = .imports ∧ e.source = "lost" := by
    decide +kernel
  refine ⟨unknown, ?_, (chain_unknown (.inl unknown)).1.2 (.inl rfl)⟩
  by_contra some_chain
  obtain ⟨ids, found⟩ := Option.ne_none_iff_exists'.1 some_chain
  exact leaves ((chain_unknown (.inl unknown)).2.1 ids found).1

/-- There is a chain to an id that is no node, and one between two such ids. -/
theorem not_unknown_dangling :
    dangling.contains "ghost" = false ∧ dangling.contains "lost" = false ∧
      dangling.chain "a.rs" "ghost" = some ["a.rs", "ghost"] ∧
      dangling.chain "ghost" "lost" = some ["ghost", "lost"] := by
  decide +kernel

end Graph

namespace Findings

/-- The imports of a build join nodes, so in a build unknown ids have no chain. -/
theorem chain_graph_eq_none (fs : Findings) {x y : String}
    (unknown : fs.graph.contains x = false ∨ fs.graph.contains y = false) :
    fs.graph.chain x y = none := by
  have joins : fs.graph.ImportsJoinNodes := fun _ he _ => ⟨(ends_graph he).1, (ends_graph he).2.1⟩
  exact joins.chain_eq_none unknown

end Findings

end CodeAtlas
