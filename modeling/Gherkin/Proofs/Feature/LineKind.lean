import Gherkin.Feature.LineKind

/-!
# How lines are recognised

`LineKind.ofLine` tries one beginning of a line after another. These are the facts about it that do
not depend on the order: what a line with a given beginning is, that three quotes alone make
a delimiter, and how a line that is a step was written.
-/

namespace Gherkin.LineKind

/-- What follows a word stands after it in the line, without the white space between. -/
theorem eq_of_afterWord? {word line text : Text} (h : afterWord? word line = some text) :
    ∃ rest, line = word ++ rest ∧ text = Text.trimStart rest := by
  unfold afterWord? at h
  obtain ⟨rest, hrest, hword⟩ := Option.bind_eq_some_iff.mp h
  refine ⟨rest, Text.eq_append_of_after? hrest, ?_⟩
  cases rest with
  | nil => exact (Option.some.inj hword).symm
  | cons c rest =>
    dsimp only at hword
    split at hword
    next hblank =>
      rw [Text.trimStart, List.dropWhile_cons_of_pos hblank]
      exact (Option.some.inj hword).symm
    next => exact absurd hword (by simp)

/-- A line read as a step begins with its keyword or with `And`. -/
theorem step?_eq_some {line : Text} {kind : LineKind} (h : step? line = some kind) :
    (∃ keyword text, kind = .step keyword text ∧ afterWord? keyword.display line = some text) ∨
      ∃ text, kind = .conjunction text ∧ afterWord? "And".toList line = some text := by
  unfold step? at h
  simp only [Option.orElse_eq_orElse, Option.orElse_eq_or, Option.or_eq_some_iff,
    Option.map_eq_some_iff] at h
  rcases h with ⟨text, ht, rfl⟩ | ⟨-, ⟨text, ht, rfl⟩ | ⟨-, ⟨text, ht, rfl⟩ | ⟨-, text, ht, rfl⟩⟩⟩
  · exact Or.inl ⟨.given, text, rfl, ht⟩
  · exact Or.inl ⟨.when, text, rfl, ht⟩
  · exact Or.inl ⟨.then, text, rfl, ht⟩
  · exact Or.inr ⟨text, rfl, ht⟩

/-- Each question that comes before steps has an answer of its own. -/
theorem ofLine_eq_or (line : Text) :
    (ofLine line = .delimiter ∧ (Text.after? quotes line).isSome = true) ∨
      ((∀ keyword text, ofLine line ≠ .step keyword text) ∧
        (∀ text, ofLine line ≠ .conjunction text) ∧ ofLine line ≠ .delimiter) ∨
      ofLine line = (step? line).getD (.other (Text.firstWord line)) := by
  unfold ofLine
  split
  next => exact Or.inr (Or.inl ⟨by simp, by simp, by simp⟩)
  split
  next hquotes => exact Or.inl ⟨rfl, hquotes⟩
  split
  next => exact Or.inr (Or.inl ⟨by simp, by simp, by simp⟩)
  split
  next => exact Or.inr (Or.inl ⟨by simp, by simp, by simp⟩)
  split
  next => exact Or.inr (Or.inl ⟨by simp, by simp, by simp⟩)
  split
  next => exact Or.inr (Or.inl ⟨by simp, by simp, by simp⟩)
  split
  next => exact Or.inr (Or.inl ⟨by simp, by simp, by simp⟩)
  next => exact Or.inr (Or.inr rfl)

/-- A line that begins with three quotes is a delimiter, and no other line is. -/
theorem ofLine_eq_delimiter_iff {line : Text} :
    ofLine line = .delimiter ↔ (Text.after? quotes line).isSome = true := by
  constructor
  · intro h
    rcases ofLine_eq_or line with ⟨-, hquotes⟩ | ⟨-, -, hne⟩ | heq
    · exact hquotes
    · exact absurd h hne
    · rw [heq] at h
      cases hstep : step? line with
      | none => simp [hstep] at h
      | some kind =>
        rw [hstep, Option.getD_some] at h
        rcases step?_eq_some hstep with ⟨keyword, text, rfl, -⟩ | ⟨text, rfl, -⟩
        · exact absurd h (by simp)
        · exact absurd h (by simp)
  · intro h
    obtain ⟨rest, hrest⟩ := Option.isSome_iff_exists.mp h
    rw [Text.eq_append_of_after? hrest]
    rfl

/-- A line that is a step was read as one. -/
theorem step?_of_ofLine {line : Text} {kind : LineKind} (h : ofLine line = kind)
    (hkind : (∃ keyword text, kind = .step keyword text) ∨ ∃ text, kind = .conjunction text) :
    step? line = some kind := by
  have hstep : ofLine line = (step? line).getD (.other (Text.firstWord line)) := by
    rcases ofLine_eq_or line with ⟨heq, -⟩ | ⟨hnoStep, hnoConjunction, -⟩ | heq
    · rcases hkind with ⟨keyword, text, rfl⟩ | ⟨text, rfl⟩
      · exact absurd (heq.symm.trans h) (by simp)
      · exact absurd (heq.symm.trans h) (by simp)
    · rcases hkind with ⟨keyword, text, rfl⟩ | ⟨text, rfl⟩
      · exact absurd h (hnoStep keyword text)
      · exact absurd h (hnoConjunction text)
    · exact heq
  rw [h] at hstep
  cases hread : step? line with
  | some kind' =>
    rw [hread] at hstep
    rw [hstep, Option.getD_some]
  | none =>
    -- then the line is of no kind, and no step
    rw [hread] at hstep
    rcases hkind with ⟨keyword, text, rfl⟩ | ⟨text, rfl⟩
    · exact absurd hstep (by simp)
    · exact absurd hstep (by simp)

/-- How a step with a keyword of its own is written. -/
theorem eq_of_ofLine_step {line text : Text} {keyword : Keyword}
    (h : ofLine line = .step keyword text) :
    ∃ rest, line = keyword.display ++ rest ∧ text = Text.trimStart rest := by
  rcases step?_eq_some (step?_of_ofLine h (Or.inl ⟨keyword, text, rfl⟩)) with
    ⟨keyword', text', heq, hword⟩ | ⟨text', heq, -⟩
  · obtain ⟨rfl, rfl⟩ := LineKind.step.inj heq
    exact eq_of_afterWord? hword
  · exact absurd heq (by simp)

/-- How a step with `And` is written. -/
theorem eq_of_ofLine_conjunction {line text : Text} (h : ofLine line = .conjunction text) :
    ∃ rest, line = "And".toList ++ rest ∧ text = Text.trimStart rest := by
  rcases step?_eq_some (step?_of_ofLine h (Or.inr ⟨text, rfl⟩)) with
    ⟨keyword, text', heq, -⟩ | ⟨text', heq, hword⟩
  · exact absurd heq (by simp)
  · obtain rfl := LineKind.conjunction.inj heq
    exact eq_of_afterWord? hword

/-- A step with a keyword of its own, as it is written. -/
theorem ofLine_step (keyword : Keyword) (text : Text) :
    ofLine (keyword.display ++ ' ' :: text) = .step keyword (Text.trimStart text) := by
  cases keyword <;> rfl

end Gherkin.LineKind
