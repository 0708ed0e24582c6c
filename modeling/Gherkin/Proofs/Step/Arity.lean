import Gherkin.Step.Arity

/-!
# The numbers of arguments that are accepted

`Arity.check` compares a number of arguments with the shapes that take one, and looks through the
shapes that are left over. That amounts to an interval (`check_eq_ok_iff_between`): from `fewest`,
with which the last shape that is no text has its argument, to `most`, with which every shape has
its own. A text before the last shape that is no text cannot go without.

What is left over starts at the number of arguments, and must not start beyond the end. `check?`
looks at it in the order of `check` and has no answer if it does. It always has an answer, because
too great a number is refused before.

Both ends are those of the shapes that take an argument. So it does not matter which parameters are
supplied by the run, or where they stand (`Resupplied.check_eq`).
-/

namespace Gherkin

namespace Arity

variable {shapes shapes' required : List Shape} {step : Text} {groups i : Nat}

/-- How many shapes there are up to the last one that is no text. -/
def needed : List Shape → Nat
  | [] => 0
  | s :: rest => if s = .text ∧ needed rest = 0 then 0 else needed rest + 1

/-- The least number of arguments that is accepted. -/
def fewest (shapes : List Shape) : Nat := needed (argumentShapes shapes)

/-- The greatest number of arguments that is accepted: one for each shape that takes one. -/
def most (shapes : List Shape) : Nat := shapes.countP fun s => !s.isSupplied

/-- The shape at `i` is the last one that is no text. -/
def LastNonText (required : List Shape) (i : Nat) : Prop :=
  ∃ s, required[i]? = some s ∧ s ≠ .text ∧ ∀ s' ∈ required.drop (i + 1), s' = .text

/-- The shapes that are left over after a number of arguments, if there are as many shapes. -/
def leftOver? (required : List Shape) (groups : Nat) : Option (List Shape) :=
  if groups ≤ required.length then some (required.drop groups) else none

/-- Checks a number of arguments as `check` does, as long as every access is within the shapes. -/
def check? (step : Text) (shapes : List Shape) (groups : Nat) :
    Option (Except ArityFault Unit) := do
  let required := argumentShapes shapes
  let refused ←
    if groups > required.length then some true
    else (leftOver? required groups).map fun rest => rest.any (· != .text)
  some (if refused then .error { step, groups, required := required.length } else .ok ())

/-- Shapes that the run supplies are put in anywhere or taken out, one after another. -/
inductive Resupplied (shapes : List Shape) : List Shape → Prop
  | refl : Resupplied shapes shapes
  | insert (before after : List Shape) (s : Shape) (hs : s.isSupplied = true)
    (h : Resupplied shapes (before ++ after)) : Resupplied shapes (before ++ s :: after)
  | remove (before after : List Shape) (s : Shape) (hs : s.isSupplied = true)
    (h : Resupplied shapes (before ++ s :: after)) : Resupplied shapes (before ++ after)

/-! ## The ends of the interval -/

/-- A number is as great as is needed if only texts are left over after it. -/
theorem needed_le_iff : needed required ≤ groups ↔ ∀ s ∈ required.drop groups, s = .text := by
  induction required generalizing groups with
  | nil => simp [needed]
  | cons s rest ih =>
    rw [needed]
    cases groups with
    | zero =>
      have hrest : needed rest = 0 ↔ ∀ s' ∈ rest, s' = .text := by
        rw [← Nat.le_zero, ih, List.drop_zero]
      rw [List.drop_zero, List.forall_mem_cons, ← hrest]
      split
      next h => exact ⟨fun _ => h, fun _ => Nat.le_refl 0⟩
      next h => exact ⟨fun hle => absurd hle (by omega), fun hall => absurd hall h⟩
    | succ groups =>
      rw [List.drop_succ_cons, ← ih]
      split <;> omega

/-- Nothing is needed by texts alone. -/
theorem needed_eq_zero_iff : needed required = 0 ↔ ∀ s ∈ required, s = .text := by
  rw [← Nat.le_zero, needed_le_iff, List.drop_zero]

/-- What is needed ends with the last shape that is no text. -/
theorem needed_eq_succ_iff : needed required = i + 1 ↔ LastNonText required i := by
  constructor
  · intro h
    have hlater : ∀ s ∈ required.drop (i + 1), s = .text := needed_le_iff.mp (by omega)
    have hnot : ¬ ∀ s ∈ required.drop i, s = .text := fun hall => by
      have hle := needed_le_iff.mpr hall
      omega
    -- among the shapes from `i` on, those after the first are texts, so the first one is not
    cases hs : required[i]? with
    | none =>
      rw [List.drop_eq_nil_of_le (List.getElem?_eq_none_iff.mp hs)] at hnot
      exact absurd (fun s hs => nomatch hs) hnot
    | some s =>
      obtain ⟨hlt, hget⟩ := List.getElem?_eq_some_iff.mp hs
      rw [List.drop_eq_getElem_cons hlt, hget, List.forall_mem_cons] at hnot
      exact ⟨s, hs, fun htext => hnot ⟨htext, hlater⟩, hlater⟩
  · intro h
    obtain ⟨s, hs, hne, hlater⟩ := h
    have hle : needed required ≤ i + 1 := needed_le_iff.mpr hlater
    have hlt : ¬ needed required ≤ i := fun hle' => by
      have hmem : s ∈ required.drop i := by
        refine List.mem_of_getElem? (i := 0) ?_
        rw [List.getElem?_drop]
        exact hs
      exact hne (needed_le_iff.mp hle' s hmem)
    omega

theorem length_eq_most (shapes : List Shape) : (argumentShapes shapes).length = most shapes :=
  List.countP_eq_length_filter.symm

/-- Where every shape has its argument, none is left over. -/
theorem fewest_le_most (shapes : List Shape) : fewest shapes ≤ most shapes := by
  rw [fewest, needed_le_iff, ← length_eq_most, List.drop_length]
  exact fun s hs => nomatch hs

/-! ## The check -/

/-- A number of arguments is accepted if it is between the ends. -/
theorem check_eq_ok_iff_between :
    check step shapes groups = .ok () ↔ fewest shapes ≤ groups ∧ groups ≤ most shapes := by
  rw [check_eq_ok_iff, length_eq_most, ← needed_le_iff]
  exact And.comm

/-- A number that is refused is told with the number that there are parameters for. -/
theorem eq_of_check_eq_error {e : ArityFault} (h : check step shapes groups = .error e) :
    e = { step, groups, required := most shapes } := by
  unfold check at h
  dsimp only at h
  split at h
  next => rw [← Except.error.inj h, length_eq_most]
  next => exact absurd h (by simp)

/-- No shape is looked for beyond the end. -/
theorem check?_eq_some (step : Text) (shapes : List Shape) (groups : Nat) :
    check? step shapes groups = some (check step shapes groups) := by
  unfold check? check
  dsimp only
  by_cases h : groups > (argumentShapes shapes).length
  · -- the number is refused, and what is left over is not asked for
    rw [if_pos h, decide_eq_true h]
    rfl
  · rw [if_neg h, decide_eq_false h, leftOver?, if_pos (Nat.le_of_not_lt h)]
    rfl

/-- What the run supplies is not among the shapes that take an argument. -/
theorem argumentShapes_insert {s : Shape} (hs : s.isSupplied = true) (before after : List Shape) :
    argumentShapes (before ++ s :: after) = argumentShapes (before ++ after) := by
  unfold argumentShapes
  rw [List.filter_append, List.filter_append, List.filter_cons_of_neg (by simp [hs])]

/-- However the run is made to supply more or less, the same shapes take an argument. -/
theorem Resupplied.argumentShapes_eq (h : Resupplied shapes shapes') :
    argumentShapes shapes' = argumentShapes shapes := by
  induction h with
  | refl => rfl
  | insert before after s hs _ ih => rw [argumentShapes_insert hs, ih]
  | remove before after s hs _ ih => rw [← argumentShapes_insert hs, ih]

/-- What the run supplies does not matter to the check. -/
theorem Resupplied.check_eq (h : Resupplied shapes shapes') (step : Text) (groups : Nat) :
    check step shapes' groups = check step shapes groups := by
  unfold check
  rw [h.argumentShapes_eq]

/-- **The accepted numbers of arguments form an interval.** Among the shapes that take an argument,
the least is one more than the position of the last that is no text, and the greatest is how many
there are. Any other number is refused and told together with the greatest, the check stays within
the shapes, and what the run supplies changes nothing. -/
theorem accepts_interval (step : Text) (shapes : List Shape) :
    (fewest shapes = 0 ↔ ∀ s ∈ argumentShapes shapes, s = .text) ∧
      (∀ i, fewest shapes = i + 1 ↔ LastNonText (argumentShapes shapes) i) ∧
      fewest shapes ≤ most shapes ∧
      ∀ groups,
        (check step shapes groups = .ok () ↔ fewest shapes ≤ groups ∧ groups ≤ most shapes) ∧
          (∀ e, check step shapes groups = .error e →
            e = { step, groups, required := most shapes }) ∧
          check? step shapes groups = some (check step shapes groups) ∧
          ∀ shapes', Resupplied shapes shapes' →
            check step shapes' groups = check step shapes groups := by
  refine ⟨needed_eq_zero_iff, fun _ => needed_eq_succ_iff, fewest_le_most shapes, ?_⟩
  intro groups
  exact ⟨check_eq_ok_iff_between, fun _ => eq_of_check_eq_error, check?_eq_some step shapes groups,
    fun _ h => h.check_eq step groups⟩

/-- The text before the integer needs its argument and the one after it does not. So two arguments
are enough, and one is not, wherever the context and the reporter stand or are left out. -/
theorem accepts_interval_sample :
    Resupplied [.reporter, .text, .integer, .isolation, .text]
        [.text, .isolation, .integer, .text] ∧
      LastNonText [.text, .integer, .text] 1 ∧
      check "count".toList [.reporter, .text, .integer, .isolation, .text] 2 = .ok () ∧
      check "count".toList [.text, .isolation, .integer, .text] 2 = .ok () ∧
      ∃ e, check "count".toList [.text, .isolation, .integer, .text] 1 = .error e ∧
        e = { step := "count".toList, groups := 1, required := 3 } := by
  obtain ⟨-, hlast, -, hcheck⟩ :=
    accepts_interval "count".toList [.reporter, .text, .integer, .isolation, .text]
  have hsupplied : Resupplied [.reporter, .text, .integer, .isolation, .text]
      [.text, .isolation, .integer, .text] :=
    .insert [.text] [.integer, .text] .isolation rfl <|
      .remove [.text, .integer] [.text] .isolation rfl <|
        .remove [] [.text, .integer, .isolation, .text] .reporter rfl .refl
  obtain ⟨htwo, -, -, hsame⟩ := hcheck 2
  obtain ⟨-, hone, -, hsame'⟩ := hcheck 1
  have haccepted := htwo.mpr ⟨Nat.le_refl 2, Nat.le_succ 2⟩
  exact ⟨hsupplied, (hlast 1).mp rfl, haccepted, (hsame _ hsupplied).trans haccepted,
    _, (hsame' _ hsupplied).trans rfl, hone _ rfl⟩

end Arity

end Gherkin
