import Gherkin.Proofs.Feature.LineKind
import Gherkin.Proofs.Text.Word

/-!
# The grammar of lines

`LineKind.ofLine` asks one question of a line after another, and answers with the first that is met.
The order does not matter: no line begins in two of the ways that are asked for
(`Form.eq_of_begins`), because no opening begins another. So a line can be recognised by its first
word or by how it begins, one kind at a time, and `LineKind.FollowsGrammar` says how. That a
scenario and a step are also what their patterns capture is said in `Proofs.Feature.LinePatterns`.

* `LineKind.ofLine_follows_grammar` — every trimmed line is recognised as the grammar says.
-/

namespace Gherkin

namespace LineKind

/-! ## Openings -/

/-- The forms of lines of a known kind. -/
inductive Form where
  | blank
  | comment
  | delimiter
  | feature
  | background
  | scenario
  | examples
  | step (keyword : Keyword)
  | conjunction
  deriving DecidableEq, Repr

namespace Form

/-- What a line of the form begins with. -/
def opening : Form → Text
  | blank => []
  | comment => ['#']
  | delimiter => quotes
  | feature => "Feature:".toList
  | background => "Background:".toList
  | scenario => "Scenario".toList
  | examples => "Examples:".toList
  | step keyword => keyword.display
  | conjunction => "And".toList

/-- How a line of the form is recognised. -/
def Begins (line : Text) : Form → Prop
  | blank => line = []
  | comment => line.head? = some '#'
  | delimiter => delimiter.opening <+: line
  | feature => feature.opening <+: line
  | background => background.opening <+: line
  | scenario => "Scenario:".toList <+: line ∨ Text.firstWord line = scenario.opening
  | examples => examples.opening <+: line
  | step keyword => Text.firstWord line = (step keyword).opening
  | conjunction => Text.firstWord line = conjunction.opening

/-- No two openings begin with the same character. -/
theorem head?_opening_injective : Function.Injective fun form : Form => form.opening.head? := by
  intro f g h
  rcases f with _ | _ | _ | _ | _ | _ | _ | (_ | _ | _) | _ <;>
    rcases g with _ | _ | _ | _ | _ | _ | _ | (_ | _ | _) | _ <;>
    first
      | rfl
      | exact absurd h (by decide)

variable {line : Text} {f g : Form}

/-- A line begins as its form does. -/
theorem head?_of_begins (hline : Text.Trimmed line) (h : f.Begins line) :
    line.head? = f.opening.head? := by
  have hword {word : Text} (hfirst : Text.firstWord line = word) (hne : word ≠ []) :
      line.head? = word.head? := by
    obtain ⟨rest, hrest⟩ := hline.exists_rest
    rw [hfirst] at hrest
    exact Text.head?_eq_of_prefix ⟨rest, hrest.symm⟩ hne
  cases f with
  | blank =>
    rw [Begins] at h
    rw [h]
    rfl
  | comment => exact h
  | delimiter | feature | background | examples =>
    unfold Begins at h
    exact Text.head?_eq_of_prefix h (by decide)
  | scenario =>
    rcases h with hcolon | hfirst
    · exact (Text.head?_eq_of_prefix hcolon (by decide)).trans rfl
    · exact hword hfirst (by decide)
  | step keyword => exact hword h (by cases keyword <;> decide)
  | conjunction => exact hword h (by decide)

/-- **No line begins in two ways.** -/
theorem eq_of_begins (hline : Text.Trimmed line) (hf : f.Begins line) (hg : g.Begins line) :
    f = g :=
  head?_opening_injective ((head?_of_begins hline hf).symm.trans (head?_of_begins hline hg))

/-! ## Asking for one form -/

/-- What a line is if it is of the form. -/
def read? (line : Text) : Form → Option LineKind
  | blank => if line = [] then some .blank else none
  | comment => if line.head? = some '#' then some .comment else none
  | delimiter => (Text.after? delimiter.opening line).map fun _ => .delimiter
  | feature => (Text.after? feature.opening line).map fun rest => .feature (Text.trim rest)
  | background =>
    (Text.after? background.opening line).map fun rest => .background (Text.trim rest)
  | scenario => (scenarioName? line).map .scenario
  | examples => (Text.after? examples.opening line).map fun _ => .examples
  | step keyword => (afterWord? keyword.display line).map (.step keyword)
  | conjunction => (afterWord? conjunction.opening line).map .conjunction

/-- The forms of steps, in the order in which they are asked for. -/
def steps : List Form := [step .given, step .when, step .then, conjunction]

/-- All forms in the order in which they are asked for. -/
def all : List Form :=
  [blank, delimiter, comment, feature, background, scenario, examples] ++ steps

theorem mem_all (form : Form) : form ∈ all := by
  rcases form with _ | _ | _ | _ | _ | _ | _ | (_ | _ | _) | _ <;> simp [all, steps]

end Form

/-- A line is of the first form, or else it is asked for the others. -/
theorem findSome?_cons_eq_or (line : Text) (form : Form) (forms : List Form) :
    ((form :: forms).findSome? fun form => form.read? line)
      = (form.read? line).or (forms.findSome? fun form => form.read? line) := by
  rw [List.findSome?_cons]
  cases form.read? line <;> rfl

/-- Steps are asked for one keyword after another. -/
theorem step?_eq_findSome? (line : Text) :
    step? line = Form.steps.findSome? fun form => form.read? line := by
  unfold step? Form.steps
  simp only [Option.orElse_eq_orElse, Option.orElse_eq_or]
  rw [findSome?_cons_eq_or, findSome?_cons_eq_or, findSome?_cons_eq_or, findSome?_cons_eq_or,
    List.findSome?_nil, Option.or_none]
  rfl

/-- **A line is of the first form that it is asked for and is of.** -/
theorem ofLine_eq_findSome? (line : Text) :
    ofLine line
      = (Form.all.findSome? fun form => form.read? line).getD (.other (Text.firstWord line)) := by
  have hit (form : Form) (forms : List Form) {kind : LineKind} (h : form.read? line = some kind) :
      kind = ((form :: forms).findSome? fun form => form.read? line).getD
        (.other (Text.firstWord line)) := by
    rw [findSome?_cons_eq_or, h, Option.some_or, Option.getD_some]
  have miss (form : Form) (forms : List Form) (h : form.read? line = none) :
      ((form :: forms).findSome? fun form => form.read? line)
        = forms.findSome? fun form => form.read? line := by
    rw [findSome?_cons_eq_or, h, Option.none_or]
  unfold ofLine Form.all
  rw [List.cons_append, List.cons_append, List.cons_append, List.cons_append, List.cons_append,
    List.cons_append, List.cons_append, List.nil_append]
  split
  next hblank => exact hit .blank _ (if_pos hblank)
  next hblank =>
  rw [miss .blank _ (if_neg hblank)]
  split
  next hquotes =>
    obtain ⟨rest, hrest⟩ := Option.isSome_iff_exists.mp hquotes
    exact hit .delimiter _ (congrArg (Option.map _) hrest)
  next hquotes =>
  rw [miss .delimiter _ (congrArg (Option.map _) (Option.not_isSome_iff_eq_none.mp hquotes))]
  split
  next hhead => exact hit .comment _ (if_pos hhead)
  next hhead =>
  rw [miss .comment _ (if_neg hhead)]
  split
  next rest hfeature => exact hit .feature _ (congrArg (Option.map _) hfeature)
  next hfeature =>
  rw [miss .feature _ (congrArg (Option.map _) hfeature)]
  split
  next rest hbackground => exact hit .background _ (congrArg (Option.map _) hbackground)
  next hbackground =>
  rw [miss .background _ (congrArg (Option.map _) hbackground)]
  split
  next name hscenario => exact hit .scenario _ (congrArg (Option.map _) hscenario)
  next hscenario =>
  rw [miss .scenario _ (congrArg (Option.map _) hscenario)]
  split
  next hexamples =>
    obtain ⟨rest, hrest⟩ := Option.isSome_iff_exists.mp hexamples
    exact hit .examples _ (congrArg (Option.map _) hrest)
  next hexamples =>
  rw [miss .examples _ (congrArg (Option.map _) (Option.not_isSome_iff_eq_none.mp hexamples)),
    step?_eq_findSome?]

/-! ## What the questions ask -/

section Questions

variable {line rest word name text : Text}

/-- **A step is asked for by the first word of the line.** -/
theorem afterWord?_eq_some_iff (hline : Text.Trimmed line)
    (hword : word.IsSolid) :
    afterWord? word line = some text ↔
      Text.firstWord line = word ∧ text = Text.trim (line.drop word.length) := by
  have hfound {rest : Text} (hrest : line = word ++ rest) :
      afterWord? word line = some text ↔
        (∀ c, rest.head? = some c → isBlank c = true) ∧ text = Text.trimStart rest := by
    rw [hrest, afterWord?, Text.after?_append, Option.bind_eq_bind, Option.bind_some]
    cases rest with
    | nil => exact ⟨fun h => ⟨nofun, (Option.some.inj h).symm⟩, fun h => congrArg some h.2.symm⟩
    | cons c rest =>
      dsimp only
      split
      next hc =>
        have hstart : Text.trimStart (c :: rest) = Text.trimStart rest :=
          List.dropWhile_cons_of_pos hc
        rw [hstart]
        refine ⟨fun h => ⟨?_, (Option.some.inj h).symm⟩, fun h => congrArg some h.2.symm⟩
        rintro _ ⟨⟩
        exact hc
      next hc => exact iff_of_false (by simp) fun h => hc (h.1 c rfl)
  have hends {rest : Text} (hrest : line = word ++ rest) :
      Text.trimStart rest = Text.trim (line.drop word.length) := by
    rw [hrest, List.drop_left, hline.trim_suffix ⟨word, hrest.symm⟩]
  constructor
  · intro h
    obtain ⟨rest, hrest, -⟩ := eq_of_afterWord? h
    obtain ⟨hbreak, htext⟩ := (hfound hrest).mp h
    refine ⟨?_, htext.trans (hends hrest)⟩
    rw [hrest] at hline ⊢
    exact (hline.firstWord_append_iff hword).mpr hbreak
  · rintro ⟨hfirst, htext⟩
    obtain ⟨rest, hrest⟩ := hline.exists_rest
    rw [hfirst] at hrest
    refine (hfound hrest).mpr ⟨?_, htext.trans (hends hrest).symm⟩
    rw [hrest] at hline hfirst
    exact (hline.firstWord_append_iff hword).mp hfirst

/-- A word ends before the text: at a colon, at white space, or because nothing follows. -/
def EndsWord (t : Text) : Prop := ∀ c, t.head? = some c → c = ':' ∨ isBlank c = true

/-- White space, the word `Outline` and what follows that word. -/
def OutlineThen (rest after : Text) : Prop :=
  ∃ space : Text, space ≠ [] ∧ space.IsSpace ∧ rest = space ++ "Outline".toList ++ after ∧
    EndsWord after

/-- What a scenario is called, by what follows the word `Scenario`. -/
inductive Names (rest : Text) : Text → Prop
  /-- `Outline` belongs to the keyword. -/
  | outline {after : Text} (h : OutlineThen rest after) : Names rest (Text.trim (after.drop 1))
  | plain (h : ¬ ∃ after, OutlineThen rest after) : Names rest (Text.trim (rest.drop 1))

theorem afterBreak?_eq_some_iff :
    afterBreak? rest = some name ↔ EndsWord rest ∧ name = Text.trim (rest.drop 1) := by
  unfold afterBreak?
  cases rest with
  | nil => exact ⟨fun h => ⟨nofun, (Option.some.inj h).symm⟩, fun h => congrArg some h.2.symm⟩
  | cons c rest =>
    dsimp only
    split
    next hc =>
      refine ⟨fun h => ⟨?_, (Option.some.inj h).symm⟩, fun h => congrArg some h.2.symm⟩
      rintro _ ⟨⟩
      exact hc
    next hc => exact iff_of_false (by simp) fun h => hc (h.1 c rfl)

theorem afterOutline?_eq_some_iff {after : Text} :
    afterOutline? rest = some after ↔
      ∃ space : Text, space ≠ [] ∧ space.IsSpace ∧ rest = space ++ "Outline".toList ++ after := by
  constructor
  · intro h
    unfold afterOutline? at h
    split at h
    next => exact absurd h (by simp)
    next c rest =>
      split at h
      next hblank =>
        refine ⟨c :: rest.takeWhile isBlank, by simp, ?_, ?_⟩
        · exact List.forall_mem_cons.mpr ⟨hblank, fun d hd => List.mem_takeWhile_imp hd⟩
        · have hsplit := List.takeWhile_append_dropWhile (p := isBlank) (l := rest)
          have hafter : rest.dropWhile isBlank = "Outline".toList ++ after :=
            Text.eq_append_of_after? h
          rw [List.cons_append, List.cons_append, List.append_assoc, ← hafter, hsplit]
      next => exact absurd h (by simp)
  · rintro ⟨space, hne, hspace, rfl⟩
    cases space with
    | nil => exact absurd rfl hne
    | cons c space =>
      obtain ⟨hc, hspace⟩ := List.forall_mem_cons.mp hspace
      have hstart : Text.trimStart (space ++ "Outline".toList ++ after)
          = "Outline".toList ++ after := by
        rw [Text.trimStart, List.append_assoc, List.dropWhile_append_of_pos hspace]
        rfl
      show (if isBlank c = true then _ else none) = some after
      rw [if_pos hc]
      exact (congrArg (Text.after? _) hstart).trans (Text.after?_append ..)

/-- The word `Scenario` ends before the white space before `Outline`. -/
theorem OutlineThen.endsWord {after : Text} (h : OutlineThen rest after) : EndsWord rest := by
  obtain ⟨space, hne, hspace, rfl, -⟩ := h
  cases space with
  | nil => exact absurd rfl hne
  | cons c space =>
    rintro _ ⟨⟩
    exact Or.inr (hspace c (List.mem_cons_self ..))

/-- What follows `Outline` is the same, wherever it is looked for. -/
theorem outlineThen_iff {after : Text} :
    OutlineThen rest after ↔ afterOutline? rest = some after ∧ EndsWord after := by
  rw [afterOutline?_eq_some_iff]
  constructor
  · rintro ⟨space, hne, hspace, hrest, hends⟩
    exact ⟨⟨space, hne, hspace, hrest⟩, hends⟩
  · rintro ⟨⟨space, hne, hspace, hrest⟩, hends⟩
    exact ⟨space, hne, hspace, hrest, hends⟩

/-- **A scenario is asked for by the word `Scenario`**, where it ends. -/
theorem scenarioName?_eq_some_iff :
    scenarioName? line = some name ↔
      ∃ rest, line = "Scenario".toList ++ rest ∧ EndsWord rest ∧ Names rest name := by
  have hrest (rest : Text) :
      ((afterOutline? rest).bind afterBreak?).or (afterBreak? rest) = some name ↔
        EndsWord rest ∧ Names rest name := by
    rw [Option.or_eq_some_iff, Option.bind_eq_some_iff, Option.bind_eq_none_iff]
    constructor
    · rintro (⟨after, hafter, hname⟩ | ⟨hnone, hname⟩)
      · obtain ⟨hends, rfl⟩ := afterBreak?_eq_some_iff.mp hname
        have houtline := outlineThen_iff.mpr ⟨hafter, hends⟩
        exact ⟨houtline.endsWord, .outline houtline⟩
      · obtain ⟨hends, rfl⟩ := afterBreak?_eq_some_iff.mp hname
        refine ⟨hends, .plain ?_⟩
        rintro ⟨after, houtline⟩
        obtain ⟨hafter, hends'⟩ := outlineThen_iff.mp houtline
        have hsome := afterBreak?_eq_some_iff.mpr ⟨hends', rfl⟩
        exact absurd ((hnone after hafter).symm.trans hsome) (by simp)
    · rintro ⟨hends, ⟨houtline⟩ | ⟨hnone⟩⟩
      · obtain ⟨hafter, hends'⟩ := outlineThen_iff.mp houtline
        exact Or.inl ⟨_, hafter, afterBreak?_eq_some_iff.mpr ⟨hends', rfl⟩⟩
      · refine Or.inr ⟨?_, afterBreak?_eq_some_iff.mpr ⟨hends, rfl⟩⟩
        intro after hafter
        cases hbreak : afterBreak? after with
        | none => rfl
        | some name =>
          exact absurd ⟨after, outlineThen_iff.mpr ⟨hafter, (afterBreak?_eq_some_iff.mp hbreak).1⟩⟩
            hnone
  unfold scenarioName?
  rw [Option.bind_eq_bind, Option.bind_eq_some_iff]
  simp only [Text.after?_eq_some_iff, Option.orElse_eq_orElse, Option.orElse_eq_or, hrest]

/-- A line that begins with the word `Scenario`, where that ends, has the colon after it or is its
first word. -/
theorem begins_scenario_iff (hline : Text.Trimmed line) :
    Form.scenario.Begins line ↔ ∃ rest, line = "Scenario".toList ++ rest ∧ EndsWord rest := by
  have hword : Text.IsSolid "Scenario".toList := by decide
  constructor
  · rintro (⟨rest, rfl⟩ | hfirst)
    · refine ⟨':' :: rest, rfl, ?_⟩
      rintro _ ⟨⟩
      exact Or.inl rfl
    · obtain ⟨rest, hrest⟩ := hline.exists_rest
      rw [hfirst] at hrest
      refine ⟨rest, hrest, fun c hc => Or.inr ?_⟩
      rw [hrest] at hline hfirst
      exact (hline.firstWord_append_iff hword).mp hfirst c hc
  · rintro ⟨rest, rfl, hends⟩
    cases rest with
    | nil => exact Or.inr ((hline.firstWord_append_iff hword).mpr nofun)
    | cons c rest =>
      rcases hends c rfl with rfl | hblank
      · exact Or.inl ⟨rest, rfl⟩
      · refine Or.inr ((hline.firstWord_append_iff hword).mpr ?_)
        rintro _ ⟨⟩
        exact hblank

/-- Every scenario has a name, be it empty. -/
theorem exists_names (rest : Text) : ∃ name, Names rest name := by
  by_cases h : ∃ after, OutlineThen rest after
  · obtain ⟨after, hafter⟩ := h
    exact ⟨_, .outline hafter⟩
  · exact ⟨_, .plain h⟩

end Questions

/-! ## The answer -/

namespace Form

variable {line : Text} {form : Form} {kind : LineKind}

/-- The keywords of steps have no white space in them. -/
theorem isSolid_display (keyword : Keyword) : keyword.display.IsSolid := by
  cases keyword <;> decide

/-- **A line is of a form if it begins so.** -/
theorem isSome_read?_iff (hline : Text.Trimmed line) :
    (form.read? line).isSome = true ↔ form.Begins line := by
  cases form with
  | blank | comment =>
    rw [read?, Begins]
    split
    next h => exact iff_of_true rfl h
    next h => exact iff_of_false (by simp) h
  | delimiter | feature | background | examples =>
    rw [read?, Begins, Option.isSome_map, Text.isSome_after?_iff]
  | scenario =>
    rw [read?, Option.isSome_map, begins_scenario_iff hline, Option.isSome_iff_exists]
    simp only [scenarioName?_eq_some_iff]
    constructor
    · rintro ⟨name, rest, hrest, hends, -⟩
      exact ⟨rest, hrest, hends⟩
    · rintro ⟨rest, hrest, hends⟩
      obtain ⟨name, hname⟩ := exists_names rest
      exact ⟨name, rest, hrest, hends, hname⟩
  | step keyword =>
    rw [read?, Begins, Option.isSome_map, Option.isSome_iff_exists]
    simp only [afterWord?_eq_some_iff hline (isSolid_display keyword), exists_and_left, exists_eq,
      and_true]
    rfl
  | conjunction =>
    rw [read?, Begins, Option.isSome_map, Option.isSome_iff_exists]
    simp only [afterWord?_eq_some_iff hline (by decide : Text.IsSolid (opening .conjunction)),
      exists_and_left, exists_eq, and_true]

end Form

/-- The form of a line of a known kind. -/
def form? : LineKind → Option Form
  | blank => some .blank
  | comment => some .comment
  | delimiter => some .delimiter
  | feature _ => some .feature
  | background _ => some .background
  | scenario _ => some .scenario
  | examples => some .examples
  | step keyword _ => some (.step keyword)
  | conjunction _ => some .conjunction
  | other _ => none

theorem form?_of_read? {line : Text} {form : Form} {kind : LineKind}
    (h : form.read? line = some kind) : kind.form? = some form := by
  cases form with
  | blank | comment =>
    obtain ⟨-, hkind⟩ := Option.ite_none_right_eq_some.mp h
    rw [← Option.some.inj hkind]
    rfl
  | _ =>
    obtain ⟨_, -, rfl⟩ := Option.map_eq_some_iff.mp h
    rfl

section Answer

variable {line : Text} {form : Form} {kind : LineKind} (hline : Text.Trimmed line)

include hline

/-- Whatever is asked for before, what a line is found to be is what it is. -/
theorem findSome?_eq_some_iff :
    (Form.all.findSome? fun form => form.read? line) = some kind ↔
      ∃ form : Form, form.read? line = some kind := by
  constructor
  · intro h
    obtain ⟨form, -, hread⟩ := List.exists_of_findSome?_eq_some h
    exact ⟨form, hread⟩
  · rintro ⟨form, hform⟩
    have hsome : (Form.all.findSome? fun form => form.read? line).isSome = true :=
      List.findSome?_isSome_iff.mpr ⟨form, Form.mem_all form, by rw [hform]; rfl⟩
    obtain ⟨found, hfind⟩ := Option.isSome_iff_exists.mp hsome
    obtain ⟨first, -, hfirst⟩ := List.exists_of_findSome?_eq_some hfind
    -- the line is of one form only
    obtain rfl : first = form := Form.eq_of_begins hline
      ((Form.isSome_read?_iff hline).mp (by rw [hfirst]; rfl))
      ((Form.isSome_read?_iff hline).mp (by rw [hform]; rfl))
    exact hfind.trans (hfirst.symm.trans hform)

/-- **A line is of a known kind if its form says so.** -/
theorem ofLine_eq_iff (hform : kind.form? = some form) :
    ofLine line = kind ↔ form.read? line = some kind := by
  have hread : (∃ form : Form, form.read? line = some kind) ↔ form.read? line = some kind := by
    refine ⟨?_, fun h => ⟨form, h⟩⟩
    rintro ⟨asked, h⟩
    obtain rfl := Option.some.inj ((form?_of_read? h).symm.trans hform)
    exact h
  rw [ofLine_eq_findSome?, Option.getD_eq_iff, findSome?_eq_some_iff hline, hread, or_iff_left]
  rintro ⟨-, hother⟩
  rw [← hother] at hform
  exact absurd hform (by simp [form?])

/-- **A line that is of no form is named by its first word.** -/
theorem ofLine_eq_other_iff {word : Text} :
    ofLine line = .other word ↔
      (∀ form : Form, ¬ form.Begins line) ∧ word = Text.firstWord line := by
  have hnone : (Form.all.findSome? fun form => form.read? line) = none ↔
      ∀ form : Form, ¬ form.Begins line := by
    simp only [List.findSome?_eq_none_iff, Form.mem_all, forall_true_left,
      ← Form.isSome_read?_iff hline, Option.not_isSome_iff_eq_none]
  rw [ofLine_eq_findSome?, Option.getD_eq_iff, findSome?_eq_some_iff hline, hnone, or_iff_right]
  · rw [LineKind.other.injEq, eq_comm (a := word)]
  · rintro ⟨form, h⟩
    exact absurd (form?_of_read? h) (by simp [form?])

end Answer

/-! ## The grammar -/

/-- The text that a kind has with it: a name, the text of a step, or the first word. -/
def text? : LineKind → Option Text
  | blank | comment | delimiter | examples => none
  | feature name | background name | scenario name => some name
  | step _ text | conjunction text => some text
  | other word => some word

/-- **The grammar of lines**, one kind at a time. -/
structure FollowsGrammar (line : Text) : Prop where
  blank : ofLine line = .blank ↔ line = []
  comment : ofLine line = .comment ↔ ['#'] <+: line
  delimiter : ofLine line = .delimiter ↔ ['"', '"', '"'] <+: line
  feature : ∀ name, ofLine line = .feature name ↔
    ∃ rest, line = "Feature:".toList ++ rest ∧ name = Text.trim rest
  background : ∀ name, ofLine line = .background name ↔
    ∃ rest, line = "Background:".toList ++ rest ∧ name = Text.trim rest
  scenario : ∀ name, ofLine line = .scenario name ↔
    ("Scenario:".toList <+: line ∨ Text.firstWord line = "Scenario".toList) ∧
      Names (line.drop "Scenario".length) name
  examples : ofLine line = .examples ↔ "Examples:".toList <+: line
  step : ∀ keyword text, ofLine line = .step keyword text ↔
    Text.firstWord line = keyword.display ∧ text = Text.trim (line.drop keyword.display.length)
  conjunction : ∀ text, ofLine line = .conjunction text ↔
    Text.firstWord line = "And".toList ∧ text = Text.trim (line.drop "And".length)
  other : ∀ word, ofLine line = .other word ↔
    (∀ form : Form, ¬ form.Begins line) ∧ word = Text.firstWord line
  /-- What makes a line of one kind makes it of no other. -/
  exclusive : ∀ f g : Form, f.Begins line → g.Begins line → f = g
  trimmed : ∀ text, (ofLine line).text? = some text → Text.Trimmed text

theorem Names.trimmed {rest name : Text} (h : Names rest name) : Text.Trimmed name := by
  cases h with
  | outline => exact Text.trimmed_trim _
  | plain => exact Text.trimmed_trim _

/-- A name is asked for by what stands before it. -/
theorem map_after?_eq_some_iff {kind : Text → LineKind} (hkind : Function.Injective kind)
    (start line name : Text) :
    ((Text.after? start line).map fun rest => kind (Text.trim rest)) = some (kind name) ↔
      ∃ rest, line = start ++ rest ∧ name = Text.trim rest := by
  rw [Option.map_eq_some_iff]
  simp only [Text.after?_eq_some_iff, hkind.eq_iff, eq_comm (b := name)]

/-- What has no name is asked for by how it begins. -/
theorem map_const_after?_eq_some_iff (kind : LineKind) (start line : Text) :
    ((Text.after? start line).map fun _ => kind) = some kind ↔ start <+: line := by
  rw [← Text.isSome_after?_iff, Option.map_eq_some_iff, Option.isSome_iff_exists]
  simp only [and_true]

/-- What a form has with it is trimmed. -/
theorem trimmed_of_read? {line text : Text} {form : Form} {kind : LineKind}
    (hline : Text.Trimmed line) (h : form.read? line = some kind)
    (htext : kind.text? = some text) : Text.Trimmed text := by
  cases form with
  | blank | comment =>
    obtain ⟨-, hkind⟩ := Option.ite_none_right_eq_some.mp h
    rw [← Option.some.inj hkind] at htext
    exact absurd htext (by simp [text?])
  | delimiter | examples =>
    obtain ⟨_, -, rfl⟩ := Option.map_eq_some_iff.mp h
    exact absurd htext (by simp [text?])
  | feature | background =>
    obtain ⟨rest, -, rfl⟩ := Option.map_eq_some_iff.mp h
    obtain rfl := Option.some.inj htext
    exact Text.trimmed_trim rest
  | scenario =>
    obtain ⟨name, hname, rfl⟩ := Option.map_eq_some_iff.mp h
    obtain rfl := Option.some.inj htext
    obtain ⟨_, -, -, hnames⟩ := scenarioName?_eq_some_iff.mp hname
    exact hnames.trimmed
  | step keyword =>
    obtain ⟨rest, hrest, rfl⟩ := Option.map_eq_some_iff.mp h
    obtain rfl := Option.some.inj htext
    obtain ⟨-, rfl⟩ := (afterWord?_eq_some_iff hline (Form.isSolid_display keyword)).mp hrest
    exact Text.trimmed_trim _
  | conjunction =>
    obtain ⟨rest, hrest, rfl⟩ := Option.map_eq_some_iff.mp h
    obtain rfl := Option.some.inj htext
    obtain ⟨-, rfl⟩ := (afterWord?_eq_some_iff hline (by decide)).mp hrest
    exact Text.trimmed_trim _

/-- **Every trimmed line is recognised as the grammar says.** -/
theorem ofLine_follows_grammar {line : Text} (hline : Text.Trimmed line) : FollowsGrammar line where
  blank := by
    rw [ofLine_eq_iff hline rfl, Form.read?]
    simp
  comment := by
    rw [ofLine_eq_iff hline rfl, Form.read?]
    cases line with
    | nil => simp
    | cons c rest => simp [List.cons_prefix_cons, eq_comm]
  delimiter := by
    rw [ofLine_eq_iff hline rfl, Form.read?]
    exact map_const_after?_eq_some_iff ..
  feature name := by
    rw [ofLine_eq_iff hline rfl, Form.read?]
    exact map_after?_eq_some_iff (fun _ _ => LineKind.feature.inj) ..
  background name := by
    rw [ofLine_eq_iff hline rfl, Form.read?]
    exact map_after?_eq_some_iff (fun _ _ => LineKind.background.inj) ..
  scenario name := by
    rw [ofLine_eq_iff hline rfl, Form.read?, Option.map_eq_some_iff]
    simp only [LineKind.scenario.injEq, exists_eq_right]
    refine scenarioName?_eq_some_iff.trans (Iff.trans ?_ (and_congr_left'
      (begins_scenario_iff hline).symm))
    constructor
    · rintro ⟨rest, rfl, hends, hname⟩
      exact ⟨⟨rest, rfl, hends⟩, hname⟩
    · rintro ⟨⟨rest, rfl, hends⟩, hname⟩
      exact ⟨rest, rfl, hends, hname⟩
  examples := by
    rw [ofLine_eq_iff hline rfl, Form.read?]
    exact map_const_after?_eq_some_iff ..
  step keyword text := by
    rw [ofLine_eq_iff hline rfl, Form.read?, Option.map_eq_some_iff]
    simp only [afterWord?_eq_some_iff hline (Form.isSolid_display keyword), LineKind.step.injEq,
      true_and, exists_eq_right]
  conjunction text := by
    rw [ofLine_eq_iff hline rfl, Form.read?, Option.map_eq_some_iff]
    simp only [LineKind.conjunction.injEq, exists_eq_right]
    exact afterWord?_eq_some_iff hline (by decide)
  other word := ofLine_eq_other_iff hline
  exclusive f g := Form.eq_of_begins hline
  trimmed text h := by
    cases hform : (ofLine line).form? with
    | some form => exact trimmed_of_read? hline ((ofLine_eq_iff hline hform).mp rfl) h
    | none =>
      cases hkind : ofLine line with
      | other word =>
        obtain ⟨-, rfl⟩ := (ofLine_eq_other_iff hline).mp hkind
        rw [hkind] at h
        obtain rfl := Option.some.inj h
        exact (Text.isSolid_firstWord line).trimmed
      | _ =>
        rw [hkind] at hform
        exact absurd hform (by simp [form?])

/-- A step with wide space before its text, and a scenario whose keyword goes on with `Outline`. -/
theorem ofLine_follows_grammar_sample :
    ofLine "When  spaced".toList = .step .when "spaced".toList ∧
      ofLine "Scenario Outline: eating".toList = .scenario "eating".toList := by
  refine ⟨((ofLine_follows_grammar (by decide)).step .when _).mpr ⟨by decide, by decide⟩,
    ((ofLine_follows_grammar (by decide)).scenario _).mpr ⟨Or.inr (by decide), ?_⟩⟩
  have houtline : OutlineThen " Outline: eating".toList ": eating".toList := by
    refine ⟨[' '], by decide, by decide, by decide, ?_⟩
    rintro _ ⟨⟩
    exact Or.inl rfl
  exact .outline houtline

/-- A word that only begins with a keyword is none, and `Outlines` belongs to the name. -/
example : ofLine "Givenness x".toList = .other "Givenness".toList ∧
    ofLine "Scenario Outlines x".toList = .scenario "Outlines x".toList ∧
    ofLine "Scenario : x".toList = .scenario ": x".toList := by decide

end LineKind

end Gherkin
