import Gherkin.Proofs.Pattern.Captures
import Gherkin.Proofs.Pattern.Simplified
import Gherkin.Proofs.Step.Candidates
import Gherkin.Proofs.Step.History
import Mathlib.Logic.ExistsUnique

/-!
# A step is found exactly

What a lookup answers is said here by the patterns that were registered and by what they mean as
they are written, with no program and no list of what was tried (`Registry.FindsExactly`). The
patterns of a registry are searched for with programs that were made of their texts, so a definition
matches where its pattern does (`Pattern.isMatch_iff`) and captures what one of its matches does
(`Pattern.captured_of_captures?`).

There is one capture for each group of the pattern, in the order in which the groups open, up to the
last group that is kept. The groups of a part that is repeated no times are not: they capture
nothing if a group that is kept comes after them, and otherwise have no capture at all
(`Registry.captures_without_lost_group`).

* `Registry.find_exactly` — nothing is found if no pattern matches, a match if exactly one does, and
  otherwise all those that do are named.
-/

namespace Gherkin

namespace Pattern

/-- The pattern that is written as `source` matches the text, from some position of it. -/
def MatchesIn (source text : Text) : Prop :=
  ∃ n i j cs, Node.written? source = some n ∧ i ≤ text.length ∧ n.Matches text i j cs

/-- The texts are what the groups of the pattern capture where it matches between the positions. -/
structure CapturesAt (source text : Text) (captures : List Text) (n : Node) (i j : Nat)
    (cs : List Capture) : Prop where
  written : Node.written? source = some n
  inText : i ≤ j ∧ j ≤ text.length
  matched : n.Matches text i j cs
  /-- The groups that are written have the numbers from 1 on, from left to right. -/
  numbers_eq : n.numbers = List.range' 1 n.groups
  /-- Every number has its text up to the last group that is kept, whatever was matched and how. -/
  length_eq : captures.length = n.lastKept
  complete : n.KeepsGroups → captures.length = n.groups
  text_eq : ∀ k < n.lastKept, captures[k]? = some (captureText text cs (k + 1))
  part : ∀ c ∈ captures, c <:+: text
  absent : ∀ k < n.lastKept, (∀ c ∈ cs, c.group ≠ k + 1) → captures[k]? = some []

/-- The texts are what the groups of the pattern capture in some match of it. -/
def CapturesIn (source text : Text) (captures : List Text) : Prop :=
  ∃ n i j cs, CapturesAt source text captures n i j cs

variable {source : Text} {p : Pattern}

/-- A pattern is searched for in the simplified form of what is written. -/
theorem written_of_ofText? (h : ofText? source = some p) :
    ∃ n, Node.written? source = some n ∧ p.program = .ofNode n.simplified := by
  obtain ⟨read, hread, rfl⟩ := Option.map_eq_some_iff.mp h
  obtain ⟨n, hn, rfl⟩ := Node.exists_written_of_read? hread
  exact ⟨n, hn, rfl⟩

/-- **A pattern that was read matches where its text says so.** -/
theorem isMatch_iff (h : ofText? source = some p) (text : Text) :
    p.isMatch text = true ↔ MatchesIn source text := by
  obtain ⟨n, hn, hprogram⟩ := written_of_ofText? h
  obtain ⟨-, hbounded⟩ := Node.numbered_of_written? hn
  obtain ⟨hnumbered', hbounded'⟩ := Node.numbered_simplified hn
  unfold isMatch
  rw [hprogram, Program.isMatch_ofNode hnumbered' hbounded']
  constructor
  · intro h
    obtain ⟨i, j, cs, hi, hmatches⟩ := h
    obtain ⟨ds, hwritten, -⟩ := Node.matches_of_simplified hbounded hmatches
    exact ⟨n, i, j, ds, hn, hi, hwritten⟩
  · intro h
    obtain ⟨n', i, j, ds, hn', hi, hwritten⟩ := h
    obtain rfl : n = n' := Option.some.inj (hn.symm.trans hn')
    obtain ⟨cs, hmatches, -⟩ := n.exists_matches_simplified text hwritten
    exact ⟨i, j, cs, hi, hmatches⟩

/-- **A pattern that was read captures what one of its matches does.** -/
theorem captured_of_captures? (h : ofText? source = some p) {text : Text} {captures : List Text}
    (hcaptures : p.captures? text = some captures) : CapturesIn source text captures := by
  obtain ⟨n, hn, hprogram⟩ := written_of_ofText? h
  obtain ⟨hnumbers, hbounded⟩ := Node.numbered_of_written? hn
  obtain ⟨hnumbered', hbounded'⟩ := Node.numbered_simplified hn
  unfold captures? at hcaptures
  rw [hprogram] at hcaptures
  obtain ⟨i, j, cs, hi, hmatches, rfl⟩ :=
    Program.exists_of_captures? hnumbered' hbounded' text hcaptures
  obtain ⟨ds, hwritten, hagree⟩ := Node.matches_of_simplified hbounded hmatches
  obtain ⟨hij, hj, -⟩ := n.within_matches text hwritten
  have hlength : (n.simplified.captureTexts text cs).length = n.lastKept := by
    rw [Node.length_captureTexts, Node.groups_simplified hbounded]
  have hentry : ∀ k < n.lastKept,
      (n.simplified.captureTexts text cs)[k]? = some (captureText text ds (k + 1)) := by
    intro k hk
    rw [Node.captureTexts, Node.groups_simplified hbounded, List.getElem?_map,
      List.getElem?_range hk, Option.map_some, captureText, hagree (k + 1)]
    rfl
  refine ⟨n, i, j, ds, hn, ⟨hij, hj hi⟩, hwritten, hnumbers, hlength, ?_, hentry, ?_, ?_⟩
  · intro hkeeps
    rw [hlength, Node.lastKept_eq_groups hkeeps]
  · intro c hc
    obtain ⟨k, -, rfl⟩ := List.mem_map.mp hc
    exact captureText_isInfix text cs (k + 1)
  · intro k hk hno
    rw [hentry k hk, captureText_of_no_part hno]

end Pattern

namespace Registration

variable {W : Type} {s : Registration W} {d : Definition W}

theorem isMatch_iff (h : s.definition? = some d) (text : Text) :
    d.pattern.isMatch text = true ↔ Pattern.MatchesIn s.pattern text := by
  obtain ⟨p, hp, rfl⟩ := Option.map_eq_some_iff.mp h
  exact Pattern.isMatch_iff hp text

theorem captured (h : s.definition? = some d) {text : Text} {captures : List Text}
    (hcaptures : d.pattern.captures? text = some captures) :
    Pattern.CapturesIn s.pattern text captures := by
  obtain ⟨p, hp, rfl⟩ := Option.map_eq_some_iff.mp h
  exact Pattern.captured_of_captures? hp hcaptures

end Registration

namespace Registry

variable {W : Type} {reg : Registry W} {steps : List (Registration W)} {text : Text}

/-- The pattern of the step that was registered at the position matches the text. -/
def MatchesAt (steps : List (Registration W)) (text : Text) (i : Nat) : Prop :=
  ∃ s, steps[i]? = some s ∧ Pattern.MatchesIn s.pattern text

/-- What a lookup in the registry of these steps answers. -/
structure FindsExactly (steps : List (Registration W)) (reg : Registry W) (text : Text) : Prop where
  notFound_iff : reg.find text = .error .notFound ↔ ∀ i, ¬ MatchesAt steps text i
  ok_iff : (∃ m, reg.find text = .ok m) ↔ ∃! i, MatchesAt steps text i
  ambiguous_iff : (∃ e, reg.find text = .error (.ambiguous e)) ↔
    ∃ i j, i < j ∧ MatchesAt steps text i ∧ MatchesAt steps text j
  /-- A match is with the step at the position, as it was registered there. -/
  found : ∀ m, reg.find text = .ok m → m.text = text ∧
    ∃ s d, steps[m.handler]? = some s ∧ reg.definitions[m.handler]? = some d ∧
      s.definition? = some d ∧ Pattern.MatchesIn s.pattern text ∧ m.pattern = s.pattern ∧
      m.location = s.location ∧ Pattern.CapturesIn s.pattern text m.captures
  /-- An ambiguity names every step that matches, and none twice, in the order of the patterns. -/
  named : ∀ e, reg.find text = .error (.ambiguous e) → e.step = text ∧
    (∀ pattern location, (pattern, location) ∈ e.candidates ↔
      ∃ s ∈ steps, s.pattern = pattern ∧ s.location = location ∧ Pattern.MatchesIn s.pattern text) ∧
    e.candidates.Pairwise fun a b => Text.le a.1 b.1 = true ∧ a.1 ≠ b.1

/-! ## Steps and definitions -/

section Definitions

variable (hdefinitions : steps.map Registration.definition? = reg.definitions.map some)

include hdefinitions

/-- The definition at a position is that of the step that was registered there. -/
theorem definition_at_iff (i : Nat) (d : Definition W) :
    reg.definitions[i]? = some d ↔ ∃ s, steps[i]? = some s ∧ s.definition? = some d := by
  have hi := congrArg (·[i]?) hdefinitions
  simp only [List.getElem?_map] at hi
  constructor
  · intro hd
    rw [hd, Option.map_some] at hi
    exact Option.map_eq_some_iff.mp hi
  · intro h
    obtain ⟨s, hs, hsd⟩ := h
    rw [hs, Option.map_some, hsd] at hi
    obtain ⟨d', hd', hsome⟩ := Option.map_eq_some_iff.mp hi.symm
    rw [hd', Option.some.inj hsome]

/-- A definition matches the text where the pattern of its step does. -/
theorem matchesAt_iff (i : Nat) :
    MatchesAt steps text i ↔
      ∃ d, reg.definitions[i]? = some d ∧ d.pattern.isMatch text = true := by
  constructor
  · intro h
    obtain ⟨s, hs, hmatches⟩ := h
    have hread : ∃ d, s.definition? = some d := by
      have hsome := List.mem_map_of_mem (f := Registration.definition?) (List.mem_of_getElem? hs)
      rw [hdefinitions] at hsome
      obtain ⟨d, -, hd⟩ := List.mem_map.mp hsome
      exact ⟨d, hd.symm⟩
    obtain ⟨d, hsd⟩ := hread
    exact ⟨d, (definition_at_iff hdefinitions i d).mpr ⟨s, hs, hsd⟩,
      (Registration.isMatch_iff hsd text).mpr hmatches⟩
  · intro h
    obtain ⟨d, hd, hmatch⟩ := h
    obtain ⟨s, hs, hsd⟩ := (definition_at_iff hdefinitions i d).mp hd
    exact ⟨s, hs, (Registration.isMatch_iff hsd text).mp hmatch⟩

theorem notFound_iff_matchesAt :
    reg.find text = .error .notFound ↔ ∀ i, ¬ MatchesAt steps text i := by
  rw [find_eq_notFound_iff, candidates, List.filter_eq_nil_iff]
  constructor
  · intro hnone i hi
    obtain ⟨d, hd, hmatch⟩ := (matchesAt_iff hdefinitions i).mp hi
    exact hnone d (List.mem_of_getElem? hd) hmatch
  · intro hnone d hd hmatch
    obtain ⟨i, hi⟩ := List.getElem?_of_mem hd
    exact hnone i ((matchesAt_iff hdefinitions i).mpr ⟨d, hi, hmatch⟩)

theorem ok_iff_matchesAt :
    (∃ m, reg.find text = .ok m) ↔ ∃! i, MatchesAt steps text i := by
  constructor
  · intro h
    obtain ⟨m, hm⟩ := h
    obtain ⟨-, ⟨d, hd, -, -, hcaptures⟩, honly⟩ := find_eq_ok_iff.mp hm
    have hmatch : d.pattern.isMatch text = true := (isMatch_iff_captures? _ _).mpr ⟨_, hcaptures⟩
    refine ⟨m.handler, (matchesAt_iff hdefinitions _).mpr ⟨d, hd, hmatch⟩, ?_⟩
    intro j hj
    obtain ⟨d', hd', hmatch'⟩ := (matchesAt_iff hdefinitions j).mp hj
    exact honly j d' hd' hmatch'
  · intro h
    obtain ⟨i, hi, honly⟩ := h
    obtain ⟨d, hd, hmatch⟩ := (matchesAt_iff hdefinitions i).mp hi
    obtain ⟨captures, hcaptures⟩ := (isMatch_iff_captures? _ _).mp hmatch
    let m : Match :=
      { handler := i, pattern := d.pattern.source, location := d.location, captures, text }
    refine ⟨m, find_eq_ok_iff.mpr ⟨rfl, ⟨d, hd, rfl, rfl, hcaptures⟩, ?_⟩⟩
    intro j d' hd' hmatch'
    exact honly j ((matchesAt_iff hdefinitions j).mpr ⟨d', hd', hmatch'⟩)

/-- What is neither nothing nor one is two at least. -/
theorem ambiguous_iff_matchesAt :
    (∃ e, reg.find text = .error (.ambiguous e)) ↔
      ∃ i j, i < j ∧ MatchesAt steps text i ∧ MatchesAt steps text j := by
  constructor
  · intro h
    obtain ⟨e, he⟩ := h
    have hsome : ¬ ∀ i, ¬ MatchesAt steps text i := by
      rw [← notFound_iff_matchesAt hdefinitions, he]
      simp
    have hmany : ¬ ∃! i, MatchesAt steps text i := by
      rw [← ok_iff_matchesAt hdefinitions, he]
      simp
    obtain ⟨i, hi⟩ := not_forall_not.mp hsome
    obtain ⟨j, hj, hne⟩ : ∃ j, MatchesAt steps text j ∧ j ≠ i := by
      by_contra hno
      exact hmany ⟨i, hi, fun j hj => by_contra fun hne => hno ⟨j, hj, hne⟩⟩
    rcases Nat.lt_or_gt_of_ne hne with hlt | hlt
    · exact ⟨j, i, hlt, hj, hi⟩
    · exact ⟨i, j, hlt, hi, hj⟩
  · intro h
    obtain ⟨i, j, hlt, hi, hj⟩ := h
    cases hfind : reg.find text with
    | ok m =>
      obtain ⟨k, -, honly⟩ := (ok_iff_matchesAt hdefinitions).mp ⟨m, hfind⟩
      have hik := honly i hi
      have hjk := honly j hj
      omega
    | error fault =>
      cases fault with
      | notFound => exact absurd hi ((notFound_iff_matchesAt hdefinitions).mp hfind i)
      | ambiguous e => exact ⟨e, rfl⟩

end Definitions

/-! ## The candidates of an ambiguity -/

theorem mem_candidates_iff (reg : Registry W) (text : Text) (c : Text × Location) :
    c ∈ (reg.ambiguity text).candidates ↔
      ∃ d ∈ reg.definitions, d.pattern.isMatch text = true ∧
        (d.pattern.source, d.location) = c := by
  unfold ambiguity candidates
  dsimp only
  rw [List.mem_mergeSort, List.mem_map]
  simp only [List.mem_filter, and_assoc]

/-- Candidates stand in the order of their patterns, which are different. -/
theorem pairwise_candidates (h : reg.patterns.Nodup) (text : Text) :
    (reg.ambiguity text).candidates.Pairwise fun a b => Text.le a.1 b.1 = true ∧ a.1 ≠ b.1 := by
  let found := (reg.candidates text).map fun d => (d.pattern.source, d.location)
  have hperm : (found.mergeSort Ambiguity.le).Perm found := List.mergeSort_perm ..
  have hsorted : (found.mergeSort Ambiguity.le).Pairwise fun a b => Ambiguity.le a b = true :=
    List.pairwise_mergeSort LinearOn.candidates.trans LinearOn.candidates.total found
  have hdifferent : (found.mergeSort Ambiguity.le).Pairwise fun a b => a.1 ≠ b.1 := by
    have hnodup : (found.map Prod.fst).Nodup := by
      show (((reg.definitions.filter _).map _).map _).Nodup
      rw [List.map_map]
      exact h.sublist (List.filter_sublist.map _)
    exact List.pairwise_map.mp ((hperm.map Prod.fst).nodup_iff.mpr hnodup)
  refine (hsorted.and hdifferent).imp ?_
  intro a b h
  obtain ⟨hle, hne⟩ := h
  unfold Ambiguity.le at hle
  rw [if_neg hne] at hle
  exact ⟨hle, hne⟩

/-- **A step is found exactly**: nothing is found if no pattern matches, a match if exactly one
does, and otherwise all those that do are named. -/
theorem find_exactly (os : List (Operation W)) (text : Text) :
    FindsExactly (registered {} os) (afterAll {} os) text := by
  have hhistory := history_of_operations os
  have hdefinitions := hhistory.definitions
  refine ⟨notFound_iff_matchesAt hdefinitions, ok_iff_matchesAt hdefinitions,
    ambiguous_iff_matchesAt hdefinitions, ?found, ?named⟩
  case found =>
    intro m hm
    obtain ⟨htext, ⟨d, hd, hpattern, hlocation, hcaptures⟩, -⟩ := find_eq_ok_iff.mp hm
    obtain ⟨s, hs, hsd⟩ := (definition_at_iff hdefinitions _ d).mp hd
    obtain ⟨hsource, hplace⟩ := Registration.of_definition? hsd
    have hmatch : d.pattern.isMatch text = true := (isMatch_iff_captures? _ _).mpr ⟨_, hcaptures⟩
    exact ⟨htext, s, d, hs, hd, hsd, (Registration.isMatch_iff hsd text).mp hmatch,
      hpattern.trans hsource, hlocation.trans hplace, Registration.captured hsd hcaptures⟩
  case named =>
    intro e he
    obtain ⟨-, rfl⟩ := find_eq_ambiguous_iff.mp he
    refine ⟨rfl, ?_, pairwise_candidates hhistory.distinct text⟩
    intro pattern location
    rw [mem_candidates_iff]
    constructor
    · intro h
      obtain ⟨d, hd, hmatch, hc⟩ := h
      obtain ⟨i, hi⟩ := List.getElem?_of_mem hd
      obtain ⟨s, hs, hsd⟩ := (definition_at_iff hdefinitions i d).mp hi
      obtain ⟨hsource, hplace⟩ := Registration.of_definition? hsd
      obtain ⟨hpattern, hlocation⟩ := Prod.mk.inj hc
      exact ⟨s, List.mem_of_getElem? hs, hsource.symm.trans hpattern, hplace.symm.trans hlocation,
        (Registration.isMatch_iff hsd text).mp hmatch⟩
    · intro h
      obtain ⟨s, hs, rfl, rfl, hmatches⟩ := h
      obtain ⟨i, hi⟩ := List.getElem?_of_mem hs
      obtain ⟨d, hd, hmatch⟩ := (matchesAt_iff hdefinitions i).mp ⟨s, hi, hmatches⟩
      obtain ⟨s', hs', hsd⟩ := (definition_at_iff hdefinitions i d).mp hd
      obtain rfl : s' = s := Option.some.inj (hs'.symm.trans hi)
      obtain ⟨hsource, hplace⟩ := Registration.of_definition? hsd
      exact ⟨d, List.mem_of_getElem? hd, hmatch, Prod.ext hsource hplace⟩

namespace Sample

/-- A step whose only group is in a part that is repeated no times. -/
def lostGroup : Registration Unit :=
  { pattern := "(a)\x7b0\x7db".toList
    location := { path := "steps.rs".toList, line := 1, column := 1 }
    handler :=
      { params := []
        run := fun _ w => { world := w, logs := [], errors := [], ending := .finished } } }

/-- Its pattern, as it is written. -/
def lostNode : Pattern.Node :=
  .seq (.iterate (.group 1 (.one (.singleton 'a'))) 0 (some 0) true) (.one (.singleton 'b'))

/-- Its pattern, with the program that searches for it. -/
def lostPattern : Pattern := { source := lostGroup.pattern, program := .ofNode lostNode.simplified }

end Sample

/-- A step is found and has no capture, though one group is written. -/
theorem captures_without_lost_group :
    ∃ m n, (afterAll {} [.register Sample.lostGroup]).find "b".toList = .ok m ∧
      Pattern.Node.written? m.pattern = some n ∧ n.numbers.length = 1 ∧ m.captures.length = 0 := by
  have hwritten : Pattern.Node.written? Sample.lostGroup.pattern = some Sample.lostNode := by
    decide +kernel
  have hcost : Pattern.Reader.fixedCost + Sample.lostNode.simplified.cost
      ≤ Pattern.Reader.maxCost := by
    show Pattern.Reader.fixedCost + (32 + (CharSet.singleton 'b').cost) ≤ Pattern.Reader.maxCost
    rw [CharSet.cost_singleton]
    decide
  have hread : Pattern.ofText? Sample.lostGroup.pattern = some Sample.lostPattern := by
    unfold Pattern.ofText?
    rw [Pattern.Node.read?_of_written? hwritten hcost]
    rfl
  have hafter : afterAll {} [.register Sample.lostGroup]
      = { definitions := [⟨Sample.lostPattern, Sample.lostGroup.location,
          Sample.lostGroup.handler⟩] } := by
    show ((Registering.register Sample.lostGroup.pattern _ _).on {}).2 = _
    rw [Registering.register_on]
    unfold register
    rw [hread]
    rfl
  rw [hafter]
  exact ⟨_, Sample.lostNode, rfl, hwritten, rfl, rfl⟩

end Registry

end Gherkin
