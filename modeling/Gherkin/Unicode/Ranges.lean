/-!
# Sets of code points by their ranges

A Unicode property is a set of code points, and its tables list that set as ranges. Ranges are kept
in ascending order, which lets a search stop at the first range that begins beyond the code point
it looks for.
-/

namespace Gherkin.Unicode

/-- A set of code points as its ranges in ascending order, both ends included. -/
abbrev Ranges := List (Nat × Nat)

/-- Whether some range holds the code point. The ranges after one that begins beyond it begin
further beyond, so the search ends there. -/
def Ranges.contains : Ranges → Nat → Bool
  | [], _ => false
  | (first, last) :: rest, n =>
    if n < first then false
    else n ≤ last || Ranges.contains rest n

theorem Ranges.contains_singleton (first last n : Nat) :
    Ranges.contains [(first, last)] n = true ↔ first ≤ n ∧ n ≤ last := by
  simp only [Ranges.contains]
  split <;> simp <;> omega

/-- The ranges with those that overlap or touch made one; `first` and `last` bound the range that
the next one may extend. -/
def Ranges.joinFrom (first last : Nat) : Ranges → Ranges
  | [] => [(first, last)]
  | (a, b) :: rest =>
    if a ≤ last + 1 then joinFrom first (max last b) rest
    else (first, last) :: joinFrom a b rest

/-- The fewest ranges that hold what either set holds. -/
def Ranges.union (r s : Ranges) : Ranges :=
  match List.merge r s fun a b => a.1 ≤ b.1 with
  | [] => []
  | (first, last) :: rest => joinFrom first last rest

theorem Ranges.union_nil (r : Ranges) :
    r.union [] = match r with
      | [] => []
      | (first, last) :: rest => joinFrom first last rest := by
  rw [union, List.merge_right]
  cases r <;> rfl

/-- The ranges between those of the set, from `start` up to the last code point. -/
def Ranges.gapsFrom (start : Nat) : Ranges → Ranges
  | [] => if start ≤ 0x10FFFF then [(start, 0x10FFFF)] else []
  | (first, last) :: rest =>
    (if start < first then [(start, first - 1)] else []) ++ gapsFrom (last + 1) rest

/-- The code points outside the set. -/
def Ranges.compl (r : Ranges) : Ranges := gapsFrom 0 r

end Gherkin.Unicode
