import Gherkin.Proofs.Step.Registration

/-!
# Looking up after one more registration

A step that is registered comes last, and positions of steps stay as they are. A text that the new
pattern does not match is looked up as before (`find_of_not_isMatch`). A text that had been found
becomes ambiguous if the new pattern matches it too (`find_of_isMatch`): it is never found with the
new step instead, wherever that comes from and however much closer it fits.
-/

namespace Gherkin

/-- The ambiguity of a text that two patterns match, which are named in the order of their texts. -/
def Ambiguity.between (step : Text) (a b : Text × Location) : Ambiguity :=
  { step, candidates := if Text.le a.1 b.1 then [a, b] else [b, a] }

/-- Candidates with different patterns are sorted by these. -/
theorem Ambiguity.mergeSort_pair {a b : Text × Location} (h : a.1 ≠ b.1) :
    [a, b].mergeSort Ambiguity.le = if Text.le a.1 b.1 then [a, b] else [b, a] := by
  have hle : Ambiguity.le a b = Text.le a.1 b.1 := by
    unfold Ambiguity.le
    rw [if_neg h]
  rw [← hle]
  simp [List.mergeSort, List.MergeSort.Internal.splitInTwo, List.merge]

namespace Registry

variable {W : Type} {reg reg' : Registry W} {text pattern : Text} {location : Location}
  {handler : Handler W} {p : Pattern} {m : Match}

theorem matching_append (text : Text) (first : Nat) (ds ds' : List (Definition W)) :
    matching text first (ds ++ ds')
      = matching text first ds ++ matching text (first + ds.length) ds' := by
  induction ds generalizing first with
  | nil => rfl
  | cons d ds ih =>
    have hlength : first + 1 + ds.length = first + (d :: ds).length := by
      rw [List.length_cons]
      omega
    rw [List.cons_append, matching, matching, ih, hlength]
    split
    next => rfl
    next => rfl

/-- The pattern that a text was found with is registered. -/
theorem pattern_mem_of_find (h : reg.find text = .ok m) : m.pattern ∈ reg.patterns := by
  obtain ⟨d, hd, hpattern, -⟩ := (find_eq_ok_iff.mp h).definition
  rw [hpattern]
  exact List.mem_map_of_mem (List.mem_of_getElem? hd)

/-- A registration changes no handler that is there. -/
theorem shapes?_of_register (h : reg.register pattern location handler = .ok reg') {i : Nat}
    (hi : i < reg.definitions.length) : reg'.shapes? i = reg.shapes? i := by
  obtain ⟨p, -, hdefinitions⟩ := definitions_of_register h
  unfold shapes?
  rw [hdefinitions, List.getElem?_append_left hi]

/-- **What the new pattern does not match is looked up as before.** -/
theorem find_of_not_isMatch (h : reg.register pattern location handler = .ok reg')
    (hp : Pattern.ofText? pattern = some p) (hmatch : p.isMatch text = false) :
    reg'.find text = reg.find text := by
  obtain ⟨p', hp', hdefinitions⟩ := definitions_of_register h
  obtain rfl : p = p' := Option.some.inj (hp.symm.trans hp')
  have hcaptures : p.captures? text = none := by
    rw [Option.eq_none_iff_forall_ne_some]
    intro captures hc
    exact absurd ((isMatch_iff_captures? p text).mpr ⟨captures, hc⟩) (by simp [hmatch])
  have hmatching : matching text 0 reg'.definitions = matching text 0 reg.definitions := by
    rw [hdefinitions, matching_append, matching, hcaptures]
    exact List.append_nil _
  unfold find
  rw [hmatching]

/-- **What was found and the new pattern matches becomes ambiguous.** -/
theorem find_of_isMatch (h : reg.register pattern location handler = .ok reg')
    (hp : Pattern.ofText? pattern = some p) (hfind : reg.find text = .ok m)
    (hmatch : p.isMatch text = true) :
    reg'.find text
      = .error (.ambiguous (.between text (m.pattern, m.location) (pattern, location))) := by
  obtain ⟨hnew, p', hp', hdefinitions⟩ := register_eq_ok_iff.mp h
  obtain rfl : p = p' := Option.some.inj (hp.symm.trans hp')
  obtain ⟨captures, hcaptures⟩ := (isMatch_iff_captures? p text).mp hmatch
  obtain ⟨d, hone, hpattern, hlocation, -⟩ := matching_of_find hfind
  have hmatching : matching text 0 reg'.definitions
      = [(m.handler, d, m.captures),
          (reg.definitions.length, { pattern := p, location, handler }, captures)] := by
    rw [hdefinitions, matching_append, hone, matching, hcaptures, Nat.zero_add]
    rfl
  have hne : m.pattern ≠ pattern := fun heq => hnew (heq ▸ pattern_mem_of_find hfind)
  have hsorted := Ambiguity.mergeSort_pair (a := (m.pattern, m.location)) (b := (pattern, location))
    hne
  unfold find Ambiguity.between
  rw [hmatching]
  dsimp only
  rw [List.map_cons, List.map_singleton]
  dsimp only
  rw [← hpattern, ← hlocation, Pattern.source_of_ofText? hp, hsorted]

end Registry

end Gherkin
