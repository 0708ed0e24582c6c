import Gherkin.Pattern.Basic
import Gherkin.Proofs.Feature.LineKind
import Gherkin.Proofs.Pattern.Answer
import Gherkin.Proofs.Pattern.Simplified
import Gherkin.Proofs.Text.Word
import Mathlib.Data.List.TakeWhile

/-!
# Lines by their patterns

How a scenario or a step begins can be said by a pattern as well. `LineKind.scenarioName?` and
`LineKind.step?` read a line from left to right and never go back, while the patterns leave open
where their white space ends and whether `Outline` belongs to the keyword. On a line, which has no
line feed in it, they come to the same.

* `LineKind.scenarioName?_eq_captures` — a scenario is named by what its pattern captures.
* `LineKind.step?_eq_captures` — a step is read by what its pattern captures.
-/

namespace Gherkin

open Pattern Pattern.Node

/-! ## Reading the patterns -/

/-- White space in patterns is white space in texts. -/
theorem CharSet.contains_space (c : Char) : CharSet.space.contains c = isBlank c := by
  rw [Bool.eq_iff_iff]
  simp only [space, contains, containsCode, Unicode.Property.whiteSpace, Unicode.Ranges.contains,
    isBlank, Bool.or_eq_true, Bool.and_eq_true, decide_eq_true_eq, beq_iff_eq,
    Bool.if_false_left, Bool.not_eq_true', decide_eq_false_iff_not,
    Bool.false_eq_true, or_false]
  omega

theorem CharSet.cost_space : space.cost = 680 := by
  simp only [cost, space, extent, Unicode.Ranges.union_nil]
  rfl

theorem CharSet.cost_compl_newline : (compl (singleton '\n')).cost = 1000 := by
  simp only [cost, singleton, extent, Unicode.Ranges.union_nil]
  rfl

/-- A pattern is read if its text is, up to the end, and if it is not too large. -/
theorem Pattern.Node.read?_of_run {source : Text} {n : Node}
    (h : ((Reader.State.run (source.length + 1) {} source).map fun st =>
        (st.outer.isEmpty, decide (st.level.close.depth ≤ Reader.maxDepth),
          st.level.close.node.simplified))
      = some (true, true, n))
    (hcost : Reader.fixedCost + n.cost ≤ Reader.maxCost) : read? source = some n := by
  obtain ⟨st, hrun, hst⟩ := Option.map_eq_some_iff.mp h
  simp only [Prod.mk.injEq, decide_eq_true_eq] at hst
  obtain ⟨houter, hdepth, rfl⟩ := hst
  have hwritten : written? source = some st.level.close.node := by
    unfold written?
    simp only [hrun, Option.bind_eq_bind, Option.bind_some, houter]
    exact if_pos hdepth
  exact read?_of_written? hwritten hcost

namespace LineKind

/-- White space, at least so many characters of it. -/
def blanks (least : Nat) : Node := .iterate (.one .space) least none true

/-- A group of what is left of the line. -/
def remainder (k : Nat) : Node :=
  .group k (.iterate (.one (.compl (.singleton '\n'))) 0 none true)

/-- The parts of `scenarioPattern` after its keyword. -/
def nameParts : List Node :=
  [.alt (.one (.singleton ':')) (.alt (.one .space) (.assertion .textEnd)), blanks 0, remainder 1,
    .assertion .textEnd]

/-- The parts of `scenarioPattern` after the start of the text. -/
def scenarioParts : List Node :=
  spelled "Scenario".toList ++
    .iterate (Node.sequence (blanks 1 :: spelled "Outline".toList)) 0 (some 1) true :: nameParts

/-- The parts of `stepPattern` after its keyword. -/
def textParts : List Node :=
  [.iterate (Node.sequence [blanks 1, remainder 2]) 0 (some 1) true, .assertion .textEnd]

/-- The parts of `stepPattern` after the start of the text. -/
def stepParts : List Node :=
  .group 1
    (.alt (Node.sequence (spelled "Given".toList))
      (.alt (Node.sequence (spelled "When".toList))
        (.alt (Node.sequence (spelled "Then".toList)) (Node.sequence (spelled "And".toList)))))
    :: textParts

/-- How the line of a scenario is written. -/
def scenarioPattern : Text := "^Scenario(?:\\s+Outline)?(?::|\\s|$)\\s*(.*)$".toList

/-- How the line of a step is written. -/
def stepPattern : Text := "^(Given|When|Then|And)(?:\\s+(.*))?$".toList

theorem read?_scenarioPattern :
    Node.read? scenarioPattern = some (Node.sequence (.assertion .textStart :: scenarioParts)) := by
  refine read?_of_run rfl ?_
  simp [Node.sequence, scenarioParts, nameParts, spelled, blanks, remainder, Node.cost,
    Node.isChoice, Node.nullable, CharSet.cost_singleton, CharSet.cost_space, CharSet.cost_compl_newline]
  decide

theorem read?_stepPattern :
    Node.read? stepPattern = some (Node.sequence (.assertion .textStart :: stepParts)) := by
  refine read?_of_run rfl ?_
  simp [Node.sequence, stepParts, textParts, spelled, blanks, remainder, Node.cost,
    Node.isChoice, Node.nullable, CharSet.cost_singleton, CharSet.cost_space, CharSet.cost_compl_newline]
  decide

/-! ## Parts in common -/

section Parts

variable {α : Type} {t : Text} (f : List Capture → α) (i : Nat)

/-- Where white space comes to an end. -/
theorem drop_runEnd_space : t.drop (runEnd t i .space) = Text.trimStart (t.drop i) := by
  rw [drop_runEnd, funext CharSet.contains_space, Text.trimStart]

/-- A line is taken to its end. -/
theorem takeWhile_newline (hline : '\n' ∉ t) :
    (t.drop i).takeWhile (CharSet.compl (.singleton '\n')).contains = t.drop i := by
  refine List.takeWhile_eq_self_iff.mpr fun c hc => ?_
  have hne : c ≠ '\n' := fun h => hline (h ▸ List.mem_of_mem_drop hc)
  rw [CharSet.contains_compl, Bool.not_eq_true', ← Bool.not_eq_true, CharSet.contains_singleton]
  exact hne

/-- The capture of all that is left of the line. -/
def leftAfter (t : Text) (k i : Nat) : Capture :=
  ⟨k, i, runEnd t i (.compl (.singleton '\n'))⟩

theorem text_leftAfter (hline : '\n' ∉ t) (k : Nat) : (leftAfter t k i).text t = t.drop i := by
  rw [Capture.text, leftAfter, runEnd, Nat.add_sub_cancel_left, takeWhile_newline i hline,
    List.take_length]

theorem answer_end (h : t.drop i = []) : answer t [.assertion .textEnd] f i = some (f []) := by
  rw [answer_assertion, getElem?_of_nil h]
  rfl

/-- What is left of the line is captured up to its end. -/
theorem answer_remainder (hline : '\n' ∉ t) (k : Nat) :
    answer t [remainder k, .assertion .textEnd] f i = some (f [leftAfter t k i]) := by
  refine answer_group_star t _ f i k _ (answer_end _ _ ?_)
  rw [drop_runEnd]
  have hsplit := List.takeWhile_append_dropWhile (p := (CharSet.compl (.singleton '\n')).contains)
    (l := t.drop i)
  rw [takeWhile_newline i hline] at hsplit
  exact List.append_right_eq_self.mp hsplit

/-- Before what is left of the line, white space is passed over. -/
theorem answer_blanks_remainder (hline : '\n' ∉ t) (k : Nat) :
    answer t [blanks 0, remainder k, .assertion .textEnd] f i
      = some (f [leftAfter t k (runEnd t i .space)]) := by
  have hlast := answer_remainder f (runEnd t i .space) hline k
  rw [blanks, answer_star t _ f i .space fun _ _ _ => by rw [hlast]; rfl]
  exact hlast

end Parts

/-! ## Scenarios -/

section Scenario

variable {t : Text} (hline : '\n' ∉ t)

/-- The name that is captured. -/
def nameOf (t : Text) (cs : List Capture) : Text := Text.trim (captureText t cs 1)

include hline

theorem answer_nameParts (i : Nat) :
    answer t nameParts (nameOf t) i = afterBreak? (t.drop i) := by
  have hname (j : Nat) : answer t [blanks 0, remainder 1, .assertion .textEnd] (nameOf t) j
      = some (Text.trim (t.drop j)) := by
    have hcapture : captureText t [leftAfter t 1 (runEnd t j .space)] 1
        = (leftAfter t 1 (runEnd t j .space)).text t := rfl
    rw [answer_blanks_remainder _ _ hline, nameOf, hcapture, text_leftAfter _ hline,
      drop_runEnd_space, Text.trim_trimStart]
  unfold nameParts
  rw [answer_alt, answer_alt, answer_one, answer_one, answer_assertion, hname, hname]
  cases hdrop : t.drop i with
  | nil =>
    rw [getElem?_of_nil hdrop]
    rfl
  | cons c rest =>
    rw [getElem?_of_cons hdrop, drop_succ_of_cons hdrop, Option.any_some, Option.any_some,
      CharSet.contains_space, afterBreak?]
    by_cases hcolon : c = ':'
    · simp [hcolon, (CharSet.contains_singleton ':' ':').mpr rfl]
    · have hcolon' : (CharSet.singleton ':').contains c = false := by
        rw [← Bool.not_eq_true, CharSet.contains_singleton]
        exact hcolon
      simp [hcolon, hcolon', Assertion.holds]

/-- White space and `Outline` are passed over only together. -/
theorem answer_outline (i : Nat) :
    answer t (blanks 1 :: spelled "Outline".toList ++ nameParts) (nameOf t) i
      = (afterOutline? (t.drop i)).bind afterBreak? := by
  -- `Outline` does not begin with white space, so it is tried where the white space ends only
  have hsolid (j : Nat) (hj : t[j]?.any CharSet.space.contains = true) :
      answer t (spelled "Outline".toList ++ nameParts) (nameOf t) j = none := by
    obtain ⟨c, hc, hblank⟩ := (Option.any_eq_true ..).mp hj
    rw [answer_spelled]
    cases hafter : Text.after? "Outline".toList (t.drop j) with
    | none => rfl
    | some after =>
      rw [getElem?_of_cons (Text.eq_append_of_after? hafter)] at hc
      obtain rfl : 'O' = c := Option.some.inj hc
      exact absurd hblank (by decide)
  have hlongest (k j : Nat) (hj : t[j]?.any CharSet.space.contains = true)
      (hsome : (answer t (spelled "Outline".toList ++ nameParts) (nameOf t) j).isSome = true) :
      (answer t (spelled "Outline".toList ++ nameParts) (nameOf t) k).isSome = true := by
    rw [hsolid j hj] at hsome
    cases hsome
  rw [List.cons_append, blanks, answer_plus, answer_one]
  cases hdrop : t.drop i with
  | nil =>
    rw [getElem?_of_nil hdrop]
    rfl
  | cons c rest =>
    rw [getElem?_of_cons hdrop, Option.any_some, CharSet.contains_space, afterOutline?,
      answer_star t _ _ _ .space (hlongest _), answer_spelled, drop_runEnd_space,
      drop_succ_of_cons hdrop]
    have hwhere : Text.trimStart rest = t.drop (runEnd t (i + 1) .space) := by
      rw [drop_runEnd_space, drop_succ_of_cons hdrop]
    split
    next =>
      cases hafter : Text.after? "Outline".toList (Text.trimStart rest) with
      | none => rfl
      | some after =>
        rw [hwhere] at hafter
        rw [Option.bind_some, Option.bind_some, answer_nameParts hline, drop_of_after? hafter]
    next => rfl

theorem answer_scenarioParts : answer t scenarioParts (nameOf t) 0 = scenarioName? t := by
  unfold scenarioParts scenarioName?
  rw [answer_spelled, List.drop_zero]
  cases hrest : Text.after? "Scenario".toList t with
  | none => rw [Option.bind_none, Option.bind_eq_bind, Option.bind_none]
  | some rest =>
    have hdrop := drop_of_after? (i := 0) hrest
    rw [Option.bind_some, answer_optional, answer_nameParts hline, answer_outline hline, hdrop]
    simp only [Option.bind_eq_bind, Option.bind_some, Option.orElse_eq_orElse,
      Option.orElse_eq_or]

end Scenario

/-- **A scenario is named by what its pattern captures**, without the white space around it. -/
theorem scenarioName?_eq_captures :
    ∃ p, Pattern.ofText? scenarioPattern = some p ∧ ∀ line : Text, '\n' ∉ line →
      scenarioName? line
        = (p.captures? line).map fun captures => Text.trim (captures.headD []) := by
  refine ⟨_, congrArg _ read?_scenarioPattern, fun line hline => ?_⟩
  obtain ⟨hnumbered, hbounded⟩ := Node.numbered_of_read? read?_scenarioPattern
  unfold captures?
  have hgroups : (Node.sequence (.assertion .textStart :: scenarioParts)).groups = 1 := by decide
  have hcaptures (cs : List Capture) :
      Node.captureTexts (Node.sequence (.assertion .textStart :: scenarioParts)) line cs
        = [captureText line cs 1] := by
    rw [Node.captureTexts, hgroups]
    rfl
  rw [Program.captures?_anchored rfl hnumbered hbounded (by decide), answer, Option.map_map,
    ← answer_scenarioParts hline, answer]
  simp only [Function.comp_def, hcaptures]
  rfl

/-! ## Steps -/

/-- The step that a keyword and the text after it make. -/
def ofWord (word text : Text) : LineKind :=
  if word = "Given".toList then .step .given text
  else if word = "When".toList then .step .when text
  else if word = "Then".toList then .step .then text
  else .conjunction text

theorem ofWord_given : ofWord "Given".toList = .step .given := funext fun _ => if_pos rfl

theorem ofWord_when : ofWord "When".toList = .step .when :=
  funext fun _ => (if_neg (by decide)).trans (if_pos rfl)

theorem ofWord_then : ofWord "Then".toList = .step .then :=
  funext fun _ => (if_neg (by decide)).trans ((if_neg (by decide)).trans (if_pos rfl))

theorem ofWord_and : ofWord "And".toList = .conjunction :=
  funext fun _ => (if_neg (by decide)).trans ((if_neg (by decide)).trans (if_neg (by decide)))

section Step

variable {t : Text} (hline : '\n' ∉ t)

/-- The step that is captured. -/
def stepOf (t : Text) (cs : List Capture) : LineKind :=
  ofWord (captureText t cs 1) (captureText t cs 2)

include hline

/-- After its keyword a step has a text only if white space stands between. -/
theorem answer_textParts {word rest : Text} (hafter : Text.after? word t = some rest) :
    answer t textParts (fun cs => stepOf t (⟨1, 0, word.length⟩ :: cs)) word.length
      = (afterWord? word t).map (ofWord word) := by
  have ht := Text.eq_append_of_after? hafter
  rw [afterWord?, hafter, Option.bind_eq_bind, Option.bind_some]
  have hrest : t.drop word.length = rest := by rw [ht, List.drop_left]
  have hword : (⟨1, 0, word.length⟩ : Capture).text t = word := by
    rw [Capture.text, Nat.sub_zero, List.drop_zero, ht, List.take_left]
  unfold textParts
  rw [answer_optional, List.cons_append, List.cons_append, List.nil_append, blanks, answer_plus,
    answer_one]
  have htext := answer_blanks_remainder
    (fun cs => stepOf t (⟨1, 0, word.length⟩ :: cs)) (word.length + 1) hline 2
  rw [blanks] at htext
  rw [htext]
  cases rest with
  | nil =>
    rw [answer_end _ _ hrest, getElem?_of_nil hrest]
    exact congrArg (fun word => some (ofWord word [])) hword
  | cons c rest =>
    have hhead : t[word.length]? = some c := getElem?_of_cons hrest
    have hleft : (leftAfter t 2 (runEnd t (word.length + 1) .space)).text t
        = Text.trimStart rest := by
      rw [text_leftAfter _ hline, drop_runEnd_space, drop_succ_of_cons hrest]
    have hend : answer t [.assertion .textEnd]
        (fun cs => stepOf t (⟨1, 0, word.length⟩ :: cs)) word.length = none := by
      rw [answer_assertion, hhead]
      rfl
    rw [hend, Option.or_none, hhead, Option.any_some, CharSet.contains_space]
    dsimp only
    split
    next => exact congrArg some (congrArg₂ ofWord hword hleft)
    next => rfl

theorem answer_stepParts : answer t stepParts (stepOf t) 0 = step? t := by
  have hparts (word : Text) :
      answer t (.group 1 (Node.sequence (spelled word)) :: textParts) (stepOf t) 0
        = (afterWord? word t).map (ofWord word) := by
    rw [answer_group_spelled, List.drop_zero, Nat.zero_add]
    cases hafter : Text.after? word t with
    | none =>
      rw [afterWord?, hafter]
      rfl
    | some rest =>
      rw [Option.bind_some]
      exact answer_textParts hline hafter
  unfold stepParts step?
  rw [answer_group_alt, answer_group_alt, answer_group_alt, hparts, hparts, hparts, hparts,
    ofWord_given, ofWord_when, ofWord_then, ofWord_and]
  simp only [Option.orElse_eq_orElse, Option.orElse_eq_or]

end Step

/-- **A step is read by what its pattern captures**: its keyword and its text. -/
theorem step?_eq_captures :
    ∃ p, Pattern.ofText? stepPattern = some p ∧ ∀ line : Text, '\n' ∉ line →
      step? line = (p.captures? line).map fun captures =>
        ofWord (captures.headD []) (captures.getD 1 []) := by
  refine ⟨_, congrArg _ read?_stepPattern, fun line hline => ?_⟩
  obtain ⟨hnumbered, hbounded⟩ := Node.numbered_of_read? read?_stepPattern
  unfold captures?
  have hgroups : (Node.sequence (.assertion .textStart :: stepParts)).groups = 2 := by decide
  have hcaptures (cs : List Capture) :
      Node.captureTexts (Node.sequence (.assertion .textStart :: stepParts)) line cs
        = [captureText line cs 1, captureText line cs 2] := by
    rw [Node.captureTexts, hgroups]
    rfl
  rw [Program.captures?_anchored rfl hnumbered hbounded (by decide), answer, Option.map_map,
    ← answer_stepParts hline, answer]
  simp only [Function.comp_def, hcaptures]
  rfl

end LineKind

end Gherkin
