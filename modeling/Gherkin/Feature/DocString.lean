import Gherkin.Text.Basic

/-!
# Doc strings

A doc string is what stands between two lines of three quotes. Its lines lose the indentation of
the quotes as far as they have it, and then the indentation that all lines with text still have in
common. Only white space is lost: the rest of every line, trailing white space included, stays.
-/

namespace Gherkin

/-- A line without its first `n` white space characters, or all of them if it has fewer. -/
def Text.dedent (n : Nat) (line : Text) : Text := line.drop (min (Text.indent line) n)

/-- A line loses white space only. -/
theorem Text.exists_dedent (n : Nat) (line : Text) :
    ∃ lost : Text, (∀ c ∈ lost, isBlank c = true) ∧ line = lost ++ Text.dedent n line := by
  refine ⟨line.take (min (Text.indent line) n), fun c hc => ?_, ?_⟩
  · have hpre : line.take (min (Text.indent line) n) <+: line.takeWhile isBlank := by
      have h := List.takeWhile_append_dropWhile (p := isBlank) (l := line)
      have hle : min (Text.indent line) n ≤ (line.takeWhile isBlank).length :=
        Nat.min_le_left ..
      have heq : line.take (min (Text.indent line) n)
          = (line.takeWhile isBlank).take (min (Text.indent line) n) := by
        rw [← List.take_append_of_le_length hle, h]
      rw [heq]
      exact List.take_prefix ..
    have hall := List.all_takeWhile (p := isBlank) (l := line)
    exact List.all_eq_true.mp hall c (hpre.subset hc)
  · exact (List.take_append_drop ..).symm

/-- The least number of the list; 0 if it is empty. -/
def least : List Nat → Nat
  | [] => 0
  | [n] => n
  | n :: rest => min n (least rest)

/-- The indentation that all lines with text have in common. -/
def commonIndent (lines : List Text) : Nat :=
  least ((lines.filter fun l => Text.trim l != []).map Text.indent)

/-- A doc string whose lines are being read, for a step that `α` names. -/
structure DocString (α : Type) where
  /-- The indentation of the opening quotes. -/
  column : Nat
  /-- The step that the block belongs to, if there is one. -/
  target : Option α
  lines : List Text := []
  deriving DecidableEq, Repr

namespace DocString

variable {α : Type}

/-- The block with one more line, as it stands in the feature. -/
def push (b : DocString α) (raw : Text) : DocString α :=
  { b with lines := b.lines ++ [Text.dedent b.column raw] }

/-- The text of the block. -/
def text (b : DocString α) : Text :=
  Text.join ['\n'] (b.lines.map fun l => l.drop (commonIndent b.lines))

end DocString

end Gherkin
