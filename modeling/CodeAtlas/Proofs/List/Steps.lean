import Mathlib.Data.List.Perm.Basic

/-!
# Steps that may fail

A run of steps, each of which may fail, succeeds if every step does. The order of the steps does not
matter if any two of them may change places.

1. `bind_eq_ok`, `map_eq_ok`: what success of the whole says of the parts.
2. `foldlM_perm`: steps that may change places are taken in any order.
-/

namespace CodeAtlas

theorem bind_eq_ok {ε α β : Type} {x : Except ε α} {f : α → Except ε β} {b : β} :
    (x >>= f) = .ok b ↔ ∃ a, x = .ok a ∧ f a = .ok b := by
  cases x <;> simp [bind, Except.bind]

theorem map_eq_ok {ε α β : Type} {x : Except ε α} {f : α → β} {b : β} :
    x.map f = .ok b ↔ ∃ a, x = .ok a ∧ f a = b := by
  cases x <;> simp [Except.map]

/-- A run that succeeds has the same end in any order of its steps, if of any two steps in a row the
second may come first. -/
theorem foldlM_perm {σ ι ε : Type} {step : σ → ι → Except ε σ}
    (swap : ∀ ⦃s t u i j⦄, step s i = .ok t → step t j = .ok u →
      ∃ t', step s j = .ok t' ∧ step t' i = .ok u)
    {steps others : List ι} (h : steps.Perm others) :
    ∀ {s u}, steps.foldlM step s = .ok u → others.foldlM step s = .ok u := by
  induction h with
  | nil => exact id
  | cons i _ ih =>
    intro s u run
    rw [List.foldlM_cons, bind_eq_ok] at run ⊢
    obtain ⟨t, first, run⟩ := run
    exact ⟨t, first, ih run⟩
  | swap i j rest =>
    intro s u run
    simp only [List.foldlM_cons, bind_eq_ok] at run ⊢
    obtain ⟨t, first, v, second, run⟩ := run
    obtain ⟨t', hi, hj⟩ := swap first second
    exact ⟨t', hi, v, hj, run⟩
  | trans _ _ ih ih' => exact fun run => ih' (ih run)

end CodeAtlas
