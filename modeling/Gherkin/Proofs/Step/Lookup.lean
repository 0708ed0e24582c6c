import Gherkin.Step.Registry

/-!
# Looking up a step text

`Registry.find` collects the definitions that match a text, with their positions, and answers by
how many they are. `Registry.OnlyMatch` says without a list what the good answer means: the match
is with a definition of the registry that matches the text, and no other position has one that does.

* `find_eq_ok_iff` — a match is found if and only if it is the only one.
* `find_eq_notFound_iff`, `find_eq_ambiguous_iff` — the two faults, by how many definitions match.
* `text_of_find`, `definition_of_find` — what a found match is, for those who need no more.
-/

namespace Gherkin

namespace Registry

variable {W : Type} {reg : Registry W} {text : Text} {m : Match}

/-- The match is with the one definition that matches the text. -/
structure OnlyMatch (reg : Registry W) (text : Text) (m : Match) : Prop where
  text_eq : m.text = text
  definition : ∃ d, reg.definitions[m.handler]? = some d ∧ m.pattern = d.pattern.source ∧
    m.location = d.location ∧ d.pattern.captures? text = some m.captures
  only : ∀ i d, reg.definitions[i]? = some d → d.pattern.isMatch text = true → i = m.handler

/-- A pattern captures where it matches. -/
theorem isMatch_iff_captures? (p : Pattern) (text : Text) :
    p.isMatch text = true ↔ ∃ captures, p.captures? text = some captures := by
  unfold Pattern.isMatch Pattern.captures? Pattern.Program.isMatch Pattern.Program.captures?
  rw [← Option.isSome_iff_exists, Option.isSome_map]

/-- What is collected is what matches, with its position counted from `first`. -/
theorem mem_matching (c : Nat × Definition W × List Text) :
    ∀ (first : Nat) (definitions : List (Definition W)),
      c ∈ matching text first definitions ↔
        ∃ k, c.1 = first + k ∧ definitions[k]? = some c.2.1 ∧
          c.2.1.pattern.captures? text = some c.2.2
  | _, [] => by simp [matching]
  | first, e :: rest => by
    -- either the definition at hand is meant or one of the rest
    have hsplit : (∃ k, c.1 = first + k ∧ (e :: rest)[k]? = some c.2.1 ∧
          c.2.1.pattern.captures? text = some c.2.2) ↔
        (c.1 = first ∧ e = c.2.1 ∧ c.2.1.pattern.captures? text = some c.2.2) ∨
          ∃ k, c.1 = first + 1 + k ∧ rest[k]? = some c.2.1 ∧
            c.2.1.pattern.captures? text = some c.2.2 := by
      constructor
      · rintro ⟨k, hk, hd, hc⟩
        cases k with
        | zero => exact Or.inl ⟨hk, Option.some.inj hd, hc⟩
        | succ k => exact Or.inr ⟨k, by omega, hd, hc⟩
      · rintro (⟨hk, he, hc⟩ | ⟨k, hk, hd, hc⟩)
        · exact ⟨0, hk, congrArg some he, hc⟩
        · exact ⟨k + 1, by omega, hd, hc⟩
    rw [hsplit, ← mem_matching c (first + 1) rest, matching]
    cases hcaptures : e.pattern.captures? text with
    | none =>
      dsimp only
      constructor
      · exact Or.inr
      · rintro (⟨-, he, hc⟩ | h)
        · rw [← he, hcaptures] at hc
          exact absurd hc (by simp)
        · exact h
    | some captures =>
      rw [List.mem_cons]
      apply or_congr_left
      obtain ⟨i, d, found⟩ := c
      constructor
      · intro h
        obtain ⟨rfl, rfl, rfl⟩ : i = first ∧ d = e ∧ found = captures := by simpa using h
        exact ⟨rfl, rfl, hcaptures⟩
      · rintro ⟨rfl, rfl, hc⟩
        rw [Option.some.inj (hcaptures.symm.trans hc)]

/-- The positions collected increase, so none comes twice. -/
theorem pairwise_matching : ∀ (first : Nat) (definitions : List (Definition W)),
    (matching text first definitions).Pairwise fun a b => a.1 < b.1
  | _, [] => List.Pairwise.nil
  | first, e :: rest => by
    rw [matching]
    split
    next captures _ =>
      refine List.Pairwise.cons ?_ (pairwise_matching (first + 1) rest)
      intro c hc
      obtain ⟨k, hk, -⟩ := (mem_matching c (first + 1) rest).mp hc
      show first < c.1
      omega
    next => exact pairwise_matching (first + 1) rest

/-- A text that is found matches one definition and nothing else. -/
theorem matching_of_find (h : reg.find text = .ok m) :
    ∃ d, matching text 0 reg.definitions = [(m.handler, d, m.captures)] ∧
      m.pattern = d.pattern.source ∧ m.location = d.location ∧ m.text = text := by
  unfold find at h
  split at h
  next => exact absurd h (by simp)
  next i d captures hone =>
    obtain rfl := Except.ok.inj h
    exact ⟨d, hone, rfl, rfl, rfl⟩
  next => exact absurd h (by simp)

/-- **A match is found if and only if it is the only one.** -/
theorem find_eq_ok_iff : reg.find text = .ok m ↔ reg.OnlyMatch text m := by
  constructor
  · intro h
    obtain ⟨d, hone, hpattern, hlocation, htext⟩ := matching_of_find h
    have hmem : (m.handler, d, m.captures) ∈ matching text 0 reg.definitions := by
      rw [hone]
      exact List.mem_singleton_self _
    obtain ⟨k, hk, hd, hc⟩ := (mem_matching _ 0 reg.definitions).mp hmem
    obtain rfl : m.handler = k := by simpa using hk
    refine ⟨htext, ⟨d, hd, hpattern, hlocation, hc⟩, ?_⟩
    intro j d' hd' hmatch
    obtain ⟨captures', hc'⟩ := (isMatch_iff_captures? _ _).mp hmatch
    have hmem' : (j, d', captures') ∈ matching text 0 reg.definitions :=
      (mem_matching _ 0 reg.definitions).mpr ⟨j, (Nat.zero_add j).symm, hd', hc'⟩
    rw [hone, List.mem_singleton] at hmem'
    exact congrArg Prod.fst hmem'
  · rintro ⟨rfl, ⟨d, hd, hpattern, hlocation, hc⟩, honly⟩
    have hmem : (m.handler, d, m.captures) ∈ matching m.text 0 reg.definitions :=
      (mem_matching _ 0 reg.definitions).mpr ⟨m.handler, (Nat.zero_add _).symm, hd, hc⟩
    have hall : ∀ c ∈ matching m.text 0 reg.definitions, c.1 = m.handler := by
      intro c hmemc
      obtain ⟨k, hk, hdk, hck⟩ := (mem_matching c 0 reg.definitions).mp hmemc
      rw [Nat.zero_add] at hk
      rw [hk]
      exact honly k c.2.1 hdk ((isMatch_iff_captures? _ _).mpr ⟨_, hck⟩)
    have hpairwise : (matching m.text 0 reg.definitions).Pairwise fun a b => a.1 < b.1 :=
      pairwise_matching 0 reg.definitions
    -- one position at most, because the positions increase
    have hone : matching m.text 0 reg.definitions = [(m.handler, d, m.captures)] := by
      cases hl : matching m.text 0 reg.definitions with
      | nil => exact absurd (hl ▸ hmem) (by simp)
      | cons a rest =>
        cases rest with
        | nil => rw [hl, List.mem_singleton] at hmem; rw [hmem]
        | cons b rest =>
          rw [hl] at hall hpairwise
          have ha := hall a (by simp)
          have hb := hall b (by simp)
          have hab := (List.pairwise_cons.mp hpairwise).1 b (by simp)
          omega
    unfold find
    rw [hone]
    dsimp only
    rw [← hpattern, ← hlocation]

/-- A match carries the text that was looked up. -/
theorem text_of_find (h : reg.find text = .ok m) : m.text = text :=
  (find_eq_ok_iff.mp h).text_eq

/-- The handler of a match is registered. -/
theorem definition_of_find (h : reg.find text = .ok m) :
    ∃ d, reg.definitions[m.handler]? = some d := by
  obtain ⟨d, hd, -⟩ := (find_eq_ok_iff.mp h).definition
  exact ⟨d, hd⟩

/-! ## Faults -/

/-- The definitions that match a text. -/
def candidates (reg : Registry W) (text : Text) : List (Definition W) :=
  reg.definitions.filter fun d => d.pattern.isMatch text

/-- The text as one that all definitions matching it are candidates for, in the order of their
texts. -/
def ambiguity (reg : Registry W) (text : Text) : Ambiguity :=
  { step := text
    candidates :=
      ((reg.candidates text).map fun d => (d.pattern.source, d.location)).mergeSort Ambiguity.le }

/-- What is collected are the definitions that match. -/
theorem map_matching (text : Text) : ∀ (first : Nat) (ds : List (Definition W)),
    (matching text first ds).map (fun c => c.2.1) = ds.filter fun d => d.pattern.isMatch text
  | _, [] => rfl
  | first, d :: rest => by
    rw [matching]
    cases hcaptures : d.pattern.captures? text with
    | none =>
      have hmatch : ¬ d.pattern.isMatch text = true := by
        rw [isMatch_iff_captures?, hcaptures]
        simp
      rw [List.filter_cons, if_neg hmatch]
      exact map_matching text (first + 1) rest
    | some captures =>
      have hmatch : d.pattern.isMatch text = true :=
        (isMatch_iff_captures? _ _).mpr ⟨captures, hcaptures⟩
      rw [List.filter_cons, if_pos hmatch, ← map_matching text (first + 1) rest]
      rfl

/-- What a text is found with is the one candidate. -/
theorem candidates_of_find (h : reg.find text = .ok m) :
    ∃ d, reg.candidates text = [d] ∧ m.pattern = d.pattern.source ∧ m.location = d.location := by
  obtain ⟨d, hone, hpattern, hlocation, -⟩ := matching_of_find h
  refine ⟨d, ?_, hpattern, hlocation⟩
  unfold candidates
  rw [← map_matching text 0, hone]
  rfl

/-- **Nothing is found if and only if nothing matches.** -/
theorem find_eq_notFound_iff : reg.find text = .error .notFound ↔ reg.candidates text = [] := by
  unfold candidates
  rw [← map_matching text 0, List.map_eq_nil_iff]
  unfold find
  split
  next hnil => simp [hnil]
  next hone => simp [hone]
  next several hnil _ => exact iff_of_false (by simp) hnil

/-- **A text is ambiguous if and only if two definitions match or more**, and all of them are
candidates. -/
theorem find_eq_ambiguous_iff {e : Ambiguity} :
    reg.find text = .error (.ambiguous e) ↔
      2 ≤ (reg.candidates text).length ∧ e = reg.ambiguity text := by
  unfold ambiguity candidates
  rw [← map_matching text 0, List.length_map, List.map_map]
  unfold find
  split
  next hnil => simp [hnil]
  next hone => simp [hone]
  next several hnil hone =>
    have hlength : 2 ≤ (matching text 0 reg.definitions).length := by
      match hm : matching text 0 reg.definitions with
      | [] => exact absurd hm hnil
      | [(i, d, captures)] => exact absurd hm (hone i d captures)
      | _ :: _ :: _ => simp
    simp only [Except.error.injEq, LookupFault.ambiguous.injEq, hlength, true_and]
    exact eq_comm

end Registry

end Gherkin
