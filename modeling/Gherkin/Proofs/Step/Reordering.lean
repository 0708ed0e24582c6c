import Gherkin.Proofs.Step.Candidates
import Gherkin.Proofs.Step.Lookup
import Mathlib.Logic.Equiv.Basic

/-!
# Looking up in another order

All patterns are tried on a step text, so nothing depends on which comes first. Two registries with
the same definitions in different orders find the same for every text (`Reordered.find`): a match
with the same definition, which has another position only, or the same fault, because candidates are
sorted.
-/

namespace Gherkin

/-- The match with the step counted at another position. -/
def Match.rename (σ : Nat → Nat) (m : Match) : Match := { m with handler := σ m.handler }

/-! ## Positions in a permuted list -/

/-- The permutation of positions one further on. -/
def afterFirst (σ : Equiv.Perm Nat) : Equiv.Perm Nat where
  toFun
    | 0 => 0
    | i + 1 => σ i + 1
  invFun
    | 0 => 0
    | i + 1 => σ.symm i + 1
  left_inv i := by
    cases i with
    | zero => rfl
    | succ i => exact congrArg (· + 1) (σ.symm_apply_apply i)
  right_inv i := by
    cases i with
    | zero => rfl
    | succ i => exact congrArg (· + 1) (σ.apply_symm_apply i)

/-- The elements of a permuted list are found at permuted positions. -/
theorem exists_perm_getElem? {α : Type} {l l' : List α} (h : l.Perm l') :
    ∃ σ : Equiv.Perm Nat, ∀ i, l'[σ i]? = l[i]? := by
  induction h with
  | nil => exact ⟨Equiv.refl Nat, fun _ => rfl⟩
  | cons a _ ih =>
    obtain ⟨σ, hσ⟩ := ih
    refine ⟨afterFirst σ, fun i => ?_⟩
    cases i with
    | zero => rfl
    | succ i => exact hσ i
  | swap a b rest =>
    refine ⟨Equiv.swap 0 1, fun i => ?_⟩
    match i with
    | 0 => rw [Equiv.swap_apply_left]; rfl
    | 1 => rw [Equiv.swap_apply_right]; rfl
    | i + 2 => rw [Equiv.swap_apply_of_ne_of_ne (by omega) (by omega)]; rfl
  | trans _ _ ih₁ ih₂ =>
    obtain ⟨σ₁, hσ₁⟩ := ih₁
    obtain ⟨σ₂, hσ₂⟩ := ih₂
    exact ⟨σ₁.trans σ₂, fun i => (hσ₂ (σ₁ i)).trans (hσ₁ i)⟩

namespace Registry

variable {W : Type} {reg reg' : Registry W} {σ : Equiv.Perm Nat}

/-- The second registry has the definitions of the first, at the positions that `σ` says. -/
def Reordered (σ : Equiv.Perm Nat) (reg reg' : Registry W) : Prop :=
  ∀ i, reg'.definitions[σ i]? = reg.definitions[i]?

namespace Reordered

theorem shapes? (h : Reordered σ reg reg') (i : Nat) : reg'.shapes? (σ i) = reg.shapes? i := by
  unfold Registry.shapes?
  rw [h i]

/-- The same definitions match, at the other positions. -/
theorem perm_matching (h : Reordered σ reg reg') (text : Text) :
    (matching text 0 reg'.definitions).Perm
      ((matching text 0 reg.definitions).map fun c => (σ c.1, c.2)) := by
  have hnodup (ds : List (Definition W)) : (matching text 0 ds).Nodup := by
    refine (pairwise_matching 0 ds).imp ?_
    rintro c _ hlt rfl
    exact Nat.lt_irrefl c.1 hlt
  have hinjective : Function.Injective fun c : Nat × Definition W × List Text => (σ c.1, c.2) := by
    rintro ⟨i, c⟩ ⟨j, c'⟩ heq
    obtain ⟨hi, rfl⟩ := Prod.mk.inj heq
    obtain rfl : i = j := σ.injective hi
    rfl
  refine (List.perm_ext_iff_of_nodup (hnodup _) ((hnodup _).map hinjective)).mpr ?_
  rintro ⟨j, d, captures⟩
  rw [mem_matching, List.mem_map]
  simp only [Nat.zero_add]
  constructor
  · rintro ⟨_, rfl, hd, hcaptures⟩
    -- the position it has in the one order comes from one in the other
    rw [← σ.apply_symm_apply j, h] at hd
    refine ⟨(σ.symm j, d, captures), ?_, by rw [σ.apply_symm_apply]⟩
    exact (mem_matching _ 0 _).mpr ⟨σ.symm j, (Nat.zero_add _).symm, hd, hcaptures⟩
  · rintro ⟨⟨i, d', captures'⟩, hmem, heq⟩
    obtain ⟨rfl, rfl, rfl⟩ : σ i = j ∧ d' = d ∧ captures' = captures := by simpa using heq
    obtain ⟨k, hk, hd, hcaptures⟩ := (mem_matching _ 0 _).mp hmem
    obtain rfl : i = k := hk.trans (Nat.zero_add k)
    exact ⟨σ i, rfl, (h i).trans hd, hcaptures⟩

/-- **A text finds the same in another order**, but for the position of the match. -/
theorem find (h : Reordered σ reg reg') (text : Text) :
    reg'.find text = (reg.find text).map (·.rename σ) := by
  have hperm := h.perm_matching text
  unfold Registry.find
  match hmatching : matching text 0 reg.definitions with
  | [] =>
    rw [hmatching] at hperm
    rw [hperm.eq_nil]
    rfl
  | [(i, d, captures)] =>
    rw [hmatching] at hperm
    rw [hperm.eq_singleton]
    rfl
  | a :: b :: rest =>
    rw [hmatching] at hperm
    have hcandidates := LinearOn.candidates.mergeSort_eq_of_perm
      (hperm.map fun m => (m.2.1.pattern.source, m.2.1.location))
    match hmatching' : matching text 0 reg'.definitions with
    | [] => exact absurd (hmatching' ▸ hperm).length_eq (by simp)
    | [_] => exact absurd (hmatching' ▸ hperm).length_eq (by simp)
    | a' :: b' :: rest' =>
      rw [hmatching', List.map_map] at hcandidates
      dsimp only
      rw [hcandidates]
      rfl

end Reordered

end Registry

end Gherkin
