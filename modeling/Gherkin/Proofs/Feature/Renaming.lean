import Gherkin.Proofs.Feature.Relabelling
import Gherkin.Proofs.Step.Reordering

/-!
# Reading with the steps registered in another order

A reading keeps, with every step, the position at which its definition is registered, and looks at
it only for the shapes of the handler. So a text is read in another order as it is in the one, and
all positions are renamed (`Feature.read_rename`). A feature that is rejected is rejected with the
same fault and the same listing.

Renaming is a relabelling that leaves the lines alone (`Reading.relabel_renaming`), and what is
found in the one order is replaced by what is found in the other (`Reordered.fits`).
-/

namespace Gherkin

/-- The step with its definition at another position. -/
def Step.rename (σ : Nat → Nat) (s : Step) : Step := { s with found := s.found.rename σ }

/-- The item with the definition of its step at another position. -/
def Item.rename (σ : Nat → Nat) : Item → Item
  | .marker m => .marker m
  | .step s => .step (s.rename σ)

/-- The background with the definitions of its steps at other positions. -/
def Background.rename (σ : Nat → Nat) (b : Background) : Background :=
  { b with steps := b.steps.map (Step.rename σ) }

/-- The feature with all definitions at other positions. -/
def Feature.rename (σ : Nat → Nat) (f : Feature) : Feature :=
  { f with
    background := f.background.map (Background.rename σ)
    items := f.items.map (Item.rename σ) }

/-- The reading with all definitions at other positions. -/
def Reading.rename (σ : Nat → Nat) (r : Reading) : Reading :=
  { r with
    background := r.background.map (Background.rename σ)
    items := r.items.map (Item.rename σ) }

/-! ## Renaming as a relabelling -/

/-- Definitions stand at other positions, and lines stay. -/
def Relabelling.renaming (σ : Nat → Nat) : Relabelling := { position := σ }

/-- What is found in another order has another position only. -/
theorem Registry.Reordered.fits {W : Type} {reg reg' : Registry W} {σ : Equiv.Perm Nat}
    (h : Registry.Reordered σ reg reg') : (Relabelling.renaming σ).Fits reg reg' where
  find := h.find
  shapes? := h.shapes?

theorem Item.relabel_renaming (σ : Nat → Nat) :
    Item.relabel (.renaming σ) = Item.rename σ := by
  funext item
  cases item <;> rfl

/-- The steps among renamed items are the renamed steps. -/
theorem Item.filterMap_step?_rename (σ : Nat → Nat) (items : List Item) :
    (items.map (Item.rename σ)).filterMap Item.step?
      = (items.filterMap Item.step?).map (Step.rename σ) := by
  rw [← Item.relabel_renaming]
  exact Item.filterMap_step?_relabel (.renaming σ) items

namespace Reading

variable {W : Type} {reg reg' : Registry W} {σ : Equiv.Perm Nat}

/-- **Renaming is a relabelling.** -/
theorem relabel_renaming (τ : Nat → Nat) (r : Reading) : r.relabel (.renaming τ) = r.rename τ := by
  rw [relabel_of_line rfl, Item.relabel_renaming]
  rfl

theorem take_rename (h : Registry.Reordered σ reg reg') (r : Reading) (line : Nat) (raw : Text) :
    (r.rename σ).take reg' line raw = (r.take reg line raw).map (rename σ) := by
  unfold take
  cases hline : r.readLine reg line raw with
  | ok read =>
    have hread : Reads reg' line raw (r.relabel (.renaming σ)) (read.1.relabel (.renaming σ))
      read.2 := (readLine_eq_ok_iff.mp hline).relabel h.fits
    rw [relabel_renaming, relabel_renaming] at hread
    rw [readLine_eq_ok_iff.mpr hread]
    rfl
  | error fault =>
    have hbackground : (r.rename σ).background.isSome = r.background.isSome := Option.isSome_map
    have hfaults : Faults line raw (r.rename σ) (fault.renumber id) :=
      (readLine_eq_error_iff.mp hline).congr id rfl hbackground rfl
    rw [FeatureFault.renumber_id] at hfaults
    rw [readLine_eq_error_iff.mpr hfaults]
    rfl

/-- Lines are read in another order as they are in the one. -/
theorem takeLines_rename (h : Registry.Reordered σ reg reg') (r : Reading) (line : Nat)
    (lines : List Text) :
    takeLines reg' (r.rename σ) line lines = (takeLines reg r line lines).map (rename σ) := by
  induction lines generalizing r line with
  | nil => rfl
  | cons raw rest ih =>
    rw [takeLines, takeLines, take_rename h]
    cases r.take reg line raw with
    | error rejection => rfl
    | ok r₁ => exact ih r₁ (line + 1)

theorem finish_rename (h : Registry.Reordered σ reg reg') (r : Reading) :
    (r.rename σ).finish reg' = (r.finish reg).map (Feature.rename σ) := by
  have hclose : (r.rename σ).close = r.close.rename σ := by
    rw [← relabel_renaming, close_relabel, relabel_renaming]
  -- what is reported does not say where a definition is registered
  have hverdict : (r.close.rename σ).verdict? reg' = r.close.verdict? reg := by
    have hid : FeatureFault.renumber id = id := funext FeatureFault.renumber_id
    rw [← relabel_renaming, verdict?_relabel h.fits strictMono_id]
    exact (congrArg (Option.map · _) hid).trans (congrFun Option.map_id _)
  have hannotated : (r.close.rename σ).annotated reg' = r.close.annotated reg := by
    unfold annotated
    rw [← relabel_renaming, stepsRead_relabel, arityFaults_relabel h.fits]
    show List.foldl _ _ (List.map (Prod.map id id) _) = _
    rw [Prod.map_id, List.map_id]
    rfl
  rw [finish_eq_verdict, finish_eq_verdict, hclose, hverdict, hannotated]
  cases r.close.verdict? reg <;> rfl

end Reading

/-- **A text is read in another order as it is in the one**: as the same feature with its
definitions at other positions, or to the same rejection. -/
theorem Feature.read_rename {W : Type} {reg reg' : Registry W} {σ : Equiv.Perm Nat}
    (h : Registry.Reordered σ reg reg') (text : Text) :
    Feature.read reg' text = (Feature.read reg text).map (Feature.rename σ) := by
  have hlines := Reading.takeLines_rename h {} 1 (Text.lines text)
  unfold Feature.read
  show (Reading.takeLines reg' (Reading.rename σ {}) 1 (Text.lines text) >>= _) = _
  rw [hlines]
  cases Reading.takeLines reg {} 1 (Text.lines text) with
  | error rejection => rfl
  | ok r => exact Reading.finish_rename h r

end Gherkin
