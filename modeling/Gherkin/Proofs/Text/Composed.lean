import Gherkin.Text.Lines

/-!
# Texts put together from others

Numbers, joined texts and filled up texts are put together from parts. A character that is in none
of the parts is not in the whole, and a text in which there is nothing to replace stays as it is.
-/

namespace Gherkin.Text

variable {t : Text} {c : Char}

/-- A number is written in digits only. -/
theorem not_mem_ofNat (hc : c.isDigit = false) (n : Nat) : c ∉ ofNat n := fun hmem =>
  absurd (Nat.isDigit_of_mem_toDigits (by decide) (by decide) hmem) (by simp [hc])

theorem not_mem_spaces (hc : c ≠ ' ') (n : Nat) : c ∉ spaces n := fun hmem =>
  hc (List.eq_of_mem_replicate hmem)

theorem replace_of_not_mem {new : Text} (h : c ∉ t) : replace c new t = t := by
  unfold replace
  induction t with
  | nil => rfl
  | cons d t ih =>
    obtain ⟨hd, ht⟩ := List.ne_and_not_mem_of_not_mem_cons h
    rw [List.flatMap_cons, if_neg hd.symm, ih ht]
    rfl

theorem not_mem_join {sep : Text} (hsep : c ∉ sep) :
    ∀ {ts : List Text}, (∀ t ∈ ts, c ∉ t) → c ∉ join sep ts
  | [], _ => List.not_mem_nil
  | [t], h => h t (List.mem_singleton_self t)
  | t :: u :: rest, h => by
    obtain ⟨ht, hrest⟩ := List.forall_mem_cons.mp h
    rw [join_cons_cons, List.mem_append, List.mem_append, not_or, not_or]
    exact ⟨⟨ht, hsep⟩, not_mem_join hsep hrest⟩

/-- Lines are texts joined by line feeds, and one line feed more. -/
theorem unlines_eq_join : ∀ {ts : List Text}, ts ≠ [] → unlines ts = join ['\n'] ts ++ ['\n']
  | [_], _ => List.append_nil _
  | t :: u :: rest, _ => by
    have hrest : unlines (u :: rest) = join ['\n'] (u :: rest) ++ ['\n'] :=
      unlines_eq_join (by simp)
    unfold unlines at hrest ⊢
    rw [List.flatMap_cons, hrest, join_cons_cons, List.append_assoc (t ++ ['\n'])]

theorem unlines_append (ts us : List Text) : unlines (ts ++ us) = unlines ts ++ unlines us :=
  List.flatMap_append

end Gherkin.Text
