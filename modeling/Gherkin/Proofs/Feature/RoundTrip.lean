import Gherkin.Proofs.Feature.Acceptance
import Gherkin.Proofs.Feature.Becomes
import Gherkin.Proofs.Feature.Draft

/-!
# What is written is read back

A draft that is printed is read as the feature it stands for (`Draft.read_print`). The proof follows
the text from the top: for each part of a draft there is one lemma that says what reading the lines
of that part makes of *any* reading that stands where such a part may come.

Those lemmas are stated with `Reading.Becomes`. The parts and their lemmas:

* a doc string — `becomes_doc`, by `becomes_verbatim` for its lines;
* a step — `becomes_stepDraft`, and a list of them — `becomes_stepDrafts`;
* the name with the free text — `becomes_writeName`;
* the background — `becomes_writeBackground`;
* the scenarios — `becomes_scenarios`.
-/

namespace Gherkin

/-- What has to hold of every step of a feature: it carries its match, its arguments are the
captures and the doc string, and its handler accepts them. -/
structure Step.Bound {W : Type} (reg : Registry W) (s : Step) : Prop where
  found : reg.find s.text = .ok s.found
  arguments : s.arguments = s.found.captures ++ s.docString.toList
  accepted : ∀ d, reg.definitions[s.found.handler]? = some d →
    Arity.check s.text d.handler.shapes s.arguments.length = .ok ()

/-- The step that the line of a draft becomes, if it matches so. -/
def StepDraft.bare (d : StepDraft) (line : Nat) (m : Match) : Step :=
  { keyword := d.keyword
    conjunction := d.conjunction
    line
    found := m
    arguments := m.captures
    docString := none }

/-- The step that a draft becomes, with its doc string. -/
def StepDraft.bind (d : StepDraft) (line : Nat) (m : Match) : Step :=
  { keyword := d.keyword
    conjunction := d.conjunction
    line
    found := m
    arguments := m.captures ++ (d.doc.map DocDraft.text).toList
    docString := d.doc.map DocDraft.text }

namespace Reading

variable {W : Type} {reg : Registry W} {r r₁ r₂ : Reading} {n : Nat} {raw : Text}
  {lines more : List Text} {modes : List Mode}

/-! ## Doc strings -/

/-- A line that does not end a doc string is read into it. -/
theorem reads_verbatim {block : DocString StepPlace} (hmode : r.mode = .docString)
    (hblock : r.docString = some block) (hkind : LineKind.ofLine (Text.trim raw) ≠ .delimiter) :
    Reads reg n raw r { r with docString := some (block.push raw) } none := by
  have hread : Reads reg n raw r _ none := .verbatim hmode hkind
  rw [hblock] at hread
  exact hread

/-- Lines that do not end a doc string are read into it, without the indentation they were written
with. -/
theorem becomes_verbatim (reg : Registry W) (column : Nat) (lines : List Text)
    (hlines : ∀ l ∈ lines, Text.after? LineKind.quotes (Text.trim l) = none) (r : Reading) (n : Nat)
    (block : DocString StepPlace) (hmode : r.mode = .docString) (hblock : r.docString = some block)
    (hcolumn : block.column = column) :
    Becomes reg r n (lines.map (Text.spaces column ++ ·))
      { r with docString := some { block with lines := block.lines ++ lines } } := by
  induction lines generalizing r n block with
  | nil =>
    rw [List.append_nil, ← hblock]
    exact .nil reg r n
  | cons l lines ih =>
    obtain ⟨hl, hlines⟩ := List.forall_mem_cons.mp hlines
    have hkind : LineKind.ofLine (Text.trim (Text.spaces column ++ l)) ≠ .delimiter := by
      rw [Text.trim_spaces_append]
      intro hdelimiter
      have hquotes := LineKind.ofLine_eq_delimiter_iff.mp hdelimiter
      rw [hl] at hquotes
      exact absurd hquotes (by simp)
    -- exactly the indentation that was written is taken away again
    have hdedent : Text.dedent column (Text.spaces column ++ l) = l := by
      unfold Text.dedent
      rw [Text.indent_spaces_append, Nat.min_eq_right (Nat.le_add_right ..)]
      exact List.drop_left' (Text.length_spaces column)
    have hrest := ih hlines { r with docString := some (block.push (Text.spaces column ++ l)) }
      (n + 1) (block.push (Text.spaces column ++ l)) hmode rfl hcolumn
    have hlines' : (block.push (Text.spaces column ++ l)).lines = block.lines ++ [l] := by
      unfold DocString.push
      rw [hcolumn, hdedent]
    rw [hlines', List.append_assoc, List.singleton_append] at hrest
    exact .cons (reads_verbatim hmode hblock hkind) hrest

/-- The last of the items is changed. -/
theorem modify_append_singleton {α : Type} (f : α → α) (l : List α) (a : α) :
    (l ++ [a]).modify l.length f = l ++ [f a] := by
  induction l with
  | nil => rfl
  | cons b l ih =>
    rw [List.cons_append, List.length_cons, List.modify_succ_cons, ih, List.cons_append]

/-- A doc string that ends is put into the last item, if that is its step. -/
theorem reads_endDocString {block : DocString StepPlace} {items : List Item} {s : Step}
    (hmode : r.mode = .docString) (hblock : r.docString = some block)
    (htarget : block.target = some (.item items.length)) (hitems : r.items = items ++ [.step s])
    (hkind : LineKind.ofLine (Text.trim raw) = .delimiter) :
    Reads reg n raw r
      { r with
        modes := r.modes.tail
        docString := none
        items := items ++ [.step (s.withDocString block.text)]
        lastStep := none } none := by
  have hread : Reads reg n raw r r.endDocString none := .endDocString hmode hkind
  have hmodes : r.modesAfterDocString = r.modes.tail := if_pos hmode
  rw [endDocString_of_some hblock, htarget, hmodes] at hread
  unfold attach at hread
  dsimp only at hread
  rw [hitems, modify_append_singleton] at hread
  exact hread

/-- **A doc string that is written after a step is read into it.** -/
theorem becomes_doc {d : DocDraft} (hd : d.Writable) {items : List Item} {s : Step} (n : Nat)
    (houtside : Outside r.modes) (hnone : r.docString = none)
    (hitems : r.items = items ++ [.step s]) (hlast : r.lastStep = some (.item items.length)) :
    Becomes reg r n d.write
      { r with items := items ++ [.step (s.withDocString d.text)], lastStep := none } := by
  have hindent : Text.indent d.delimiter = d.column := by
    unfold DocDraft.delimiter
    rw [Text.indent_spaces_append]
    rfl
  have hbegin : Reads reg n d.delimiter r
      { r with
        modes := .docString :: r.modes
        docString := some { column := d.column, target := r.lastStep } } none := by
    refine houtside.reads ?_
    rw [LineKind.ofLine_written_delimiter, ← hindent]
    exact .beginDocString houtside.examples
  -- the lines have no indentation in common, so nothing more is taken away at the end
  have htext : ({ column := d.column, target := r.lastStep, lines := d.lines } :
      DocString StepPlace).text = d.text := by
    unfold DocString.text DocDraft.text
    dsimp only
    rw [hd.commonIndent_eq]
    congr 1
    exact List.map_id'' (fun l => List.drop_zero) d.lines
  rw [← htext, hnone]
  exact .cons hbegin (.append
    (becomes_verbatim reg d.column d.lines hd.noQuotes _ (n + 1) _ rfl rfl rfl)
    (.single (reads_endDocString rfl rfl hlast hitems (LineKind.ofLine_written_delimiter d))))

/-! ## Steps -/

/-- The modes while steps are read: the run of the keyword before, if there is one, in a background
or a declaration. -/
def stepModes (before : Option Keyword) (outer : List Mode) : List Mode :=
  before.elim outer (.steps · :: outer)

/-- Steps may be read next: a background or a declaration has been begun. -/
def Begun (modes : List Mode) : Prop :=
  modes.head? = some .declaration ∨ modes.head? = some .background

theorem Begun.outside (h : Begun modes) (before : Option Keyword) :
    Outside (stepModes before modes) := by
  cases before with
  | some keyword => exact ⟨by simp [stepModes], by simp [stepModes], by simp [stepModes]⟩
  | none =>
    cases modes with
    | nil => exact absurd h (by simp [Begun])
    | cons m rest =>
      rcases h with h | h
      · obtain rfl : m = .declaration := Option.some.inj h
        exact ⟨by simp [stepModes], by simp [stepModes], by simp [stepModes]⟩
      · obtain rfl : m = .background := Option.some.inj h
        exact ⟨by simp [stepModes], by simp [stepModes], by simp [stepModes]⟩

theorem Begun.keyword? {before : Option Keyword} (h : Begun modes)
    (hmodes : r.modes = stepModes before modes) : r.mode.keyword? = before := by
  unfold mode
  rw [hmodes]
  cases before with
  | some keyword => rfl
  | none =>
    cases modes with
    | nil => rfl
    | cons m rest =>
      rcases h with h | h
      · obtain rfl : m = .declaration := Option.some.inj h
        rfl
      · obtain rfl : m = .background := Option.some.inj h
        rfl

/-- A line that is a step is read as one, and its step is added to the items. -/
theorem reads_line {before : Option Keyword} {m : Match} (d : StepDraft) (hbegun : Begun modes)
    (hmodes : r.modes = stepModes before modes) (htext : d.text.Inline)
    (hfind : reg.find d.text = .ok m)
    (hconjunction : d.conjunction = true → before = some d.keyword) :
    ∃ remark, Reads reg n d.line r
      { r with
        modes := stepModes (some d.keyword) modes
        lastStep := some (.item r.items.length)
        items := r.items ++ [.step (d.bare n m)] } remark := by
  have hkeyword := hbegun.keyword? hmodes
  have houtside : Outside r.modes := hmodes ▸ hbegun.outside before
  have hread : ∃ remark, ReadsOutside reg n d.line (Text.trim d.line) r
      (LineKind.ofLine (Text.trim d.line))
      (r.step reg n d.keyword d.conjunction d.text).1 remark := by
    rw [LineKind.ofLine_written_step d htext.trimmed]
    by_cases hand : d.conjunction = true
    · rw [if_pos hand, hand]
      exact ⟨_, .conjunction (hkeyword.trans (hconjunction hand))⟩
    · have hfalse : d.conjunction = false := by simpa using hand
      rw [if_neg hand, hfalse]
      exact ⟨_, .step houtside.examples⟩
  have hafter : r.modesAfterStep d.keyword = stepModes (some d.keyword) modes := by
    unfold modesAfterStep
    rw [hkeyword, hmodes]
    cases before <;> rfl
  rw [step_of_ok hfind, hafter] at hread
  obtain ⟨remark, hread⟩ := hread
  exact ⟨remark, houtside.reads hread⟩

/-- **A step that is written is read**, with its doc string. -/
theorem becomes_stepDraft {before : Option Keyword} {d : StepDraft} (hd : d.Writable reg) (n : Nat)
    (hbegun : Begun modes) (hmodes : r.modes = stepModes before modes) (hnone : r.docString = none)
    (hconjunction : d.conjunction = true → before = some d.keyword) :
    ∃ (s : Step) (lastStep : Option StepPlace), s.outline = d.outline ∧ s.Bound reg ∧
      Becomes reg r n d.write
        { r with
          modes := stepModes (some d.keyword) modes, items := r.items ++ [.step s], lastStep } := by
  obtain ⟨m, honly, haccepted⟩ := hd.accepted
  have hfind : reg.find d.text = .ok m := Registry.find_eq_ok_iff.mpr honly
  have htext : (d.bind n m).text = d.text := honly.text_eq
  have hbound : (d.bind n m).Bound reg := by
    refine ⟨?_, rfl, ?_⟩
    · rw [htext]
      exact hfind
    · rw [htext]
      exact haccepted
  have houtline : (d.bind n m).outline = d.outline := by
    unfold Step.outline
    rw [htext]
    rfl
  obtain ⟨remark, hread⟩ := reads_line (n := n) d hbegun hmodes hd.text hfind hconjunction
  cases hdoc : d.doc with
  | none =>
    refine ⟨d.bind n m, some (.item r.items.length), houtline, hbound, ?_⟩
    -- the step is complete with its line
    have hbare : d.bind n m = d.bare n m := by
      unfold StepDraft.bind StepDraft.bare
      rw [hdoc, Option.map_none, Option.toList_none, List.append_nil]
    unfold StepDraft.write
    rw [hdoc, hbare]
    exact .single hread
  | some doc =>
    have hwritable : doc.Writable := hd.doc doc (by rw [hdoc]; rfl)
    refine ⟨d.bind n m, none, houtline, hbound, ?_⟩
    -- the doc string is the last argument
    have hdocString : d.bind n m = (d.bare n m).withDocString doc.text := by
      unfold StepDraft.bind
      rw [hdoc]
      rfl
    unfold StepDraft.write
    rw [hdoc, hdocString]
    refine .cons hread (becomes_doc hwritable (n + 1) ?_ ?_ rfl rfl)
    · exact hbegun.outside (some d.keyword)
    · exact hnone

/-- **Steps that are written are read**, one after another. -/
theorem becomes_stepDrafts {steps : List StepDraft} {before : Option Keyword} (n : Nat)
    (hbegun : Begun modes) (hmodes : r.modes = stepModes before modes) (hnone : r.docString = none)
    (hsteps : ∀ d ∈ steps, d.Writable reg) (hcontinue : StepDraft.Continue before steps) :
    ∃ (bound : List Step) (last : Option Keyword) (lastStep : Option StepPlace),
      bound.map Step.outline = steps.map StepDraft.outline ∧ (∀ s ∈ bound, s.Bound reg) ∧
      Becomes reg r n (steps.flatMap StepDraft.write)
        { r with
          modes := stepModes last modes, items := r.items ++ bound.map .step, lastStep } := by
  induction steps generalizing r before n with
  | nil =>
    refine ⟨[], before, r.lastStep, rfl, by simp, ?_⟩
    rw [List.map_nil, List.append_nil, ← hmodes]
    exact .nil reg r n
  | cons d steps ih =>
    obtain ⟨hd, hsteps⟩ := List.forall_mem_cons.mp hsteps
    obtain ⟨hconjunction, hcontinue⟩ := hcontinue
    obtain ⟨s, lastStep, houtline, hs, hfirst⟩ :=
      becomes_stepDraft hd n hbegun hmodes hnone hconjunction
    obtain ⟨bound, last, lastStep', houtlines, hbound, hrest⟩ :=
      ih (r := { r with
        modes := stepModes (some d.keyword) modes, items := r.items ++ [.step s], lastStep })
        (n + d.write.length) rfl hnone hsteps hcontinue
    refine ⟨s :: bound, last, lastStep', ?_, List.forall_mem_cons.mpr ⟨hs, hbound⟩, ?_⟩
    · rw [List.map_cons, List.map_cons, houtline, houtlines]
    · rw [List.flatMap_cons, List.map_cons, ← List.singleton_append, ← List.append_assoc]
      exact .append hfirst hrest

/-! ## The parts of a draft -/

/-- Free text is read into the narrative. -/
theorem becomes_narrative {lines : List Text} (n : Nat) (hmode : r.mode = .narrative)
    (hlines : ∀ l ∈ lines, l.Inline ∧ ((∃ word, LineKind.ofLine l = .other word) ∨
      ∃ text, LineKind.ofLine l = .conjunction text)) :
    Becomes reg r n lines { r with narrative := r.narrative ++ lines } := by
  induction lines generalizing r n with
  | nil =>
    rw [List.append_nil]
    exact .nil reg r n
  | cons l lines ih =>
    obtain ⟨⟨hinline, hkind⟩, hlines⟩ := List.forall_mem_cons.mp hlines
    have htrim : Text.trim l = l := hinline.trimmed
    have hcontinues : continuesNarrative (LineKind.ofLine (Text.trim l)) = true := by
      rw [htrim]
      rcases hkind with ⟨word, hword⟩ | ⟨text, htext⟩
      · rw [hword]
        rfl
      · rw [htext]
        rfl
    have hread : Reads reg n l r _ none := .narrative hmode hcontinues
    rw [htrim] at hread
    have hrest := ih (r := { r with narrative := r.narrative ++ [l] }) (n + 1) hmode hlines
    rw [List.append_assoc, List.singleton_append] at hrest
    exact .cons hread hrest

/-- **The name and the free text are read**, up to the blank line after them. -/
theorem becomes_writeName {d : Draft} (hd : d.Writable reg) :
    Becomes reg {} 1 d.writeName { name := d.name, narrative := d.narrative } := by
  unfold Draft.writeName
  cases hname : d.name with
  | none =>
    have hnarrative : d.narrative = [] := by
      by_cases hnil : d.narrative = []
      · exact hnil
      · exact absurd (hd.named hnil) (by simp [hname])
    rw [hnarrative]
    exact .nil reg {} 1
  | some name =>
    obtain ⟨hne, hinline⟩ := hd.name name (by rw [hname]; rfl)
    have hfirst : Reads reg 1 ("Feature:".toList ++ ' ' :: name) {}
        { modes := [.narrative, .declaration], name := some name } none :=
      Outside.reads_kind ⟨by simp, by simp, by simp⟩
        (LineKind.ofLine_written_feature hinline.trimmed) (.feature hne)
    have hblank : ∀ m, Reads reg m []
        { modes := [.narrative, .declaration], name := some name, narrative := d.narrative }
        { name := some name, narrative := d.narrative } none := by
      intro m
      exact .outside (by simp [mode]) (fun _ => ⟨rfl, by decide⟩) .blank
    exact .cons hfirst (.append (becomes_narrative _ rfl hd.narrative) (.single (hblank _)))

/-- A blank line ends a background, and its marker and its steps are cut out of the items. -/
theorem reads_blank {last : Option Keyword} {items : List Item} {m : Marker} {steps : List Step}
    (hmodes : r.modes = stepModes last (.background :: modes))
    (hopen : r.openBackground = some items.length)
    (hitems : r.items = items ++ .marker m :: steps.map .step) :
    Reads reg n [] r
      { r with
        modes
        openBackground := none
        items
        lastStep := movedStep r.items items.length r.lastStep
        background := some { name := m.name, line := m.line, steps } } none := by
  have haround : aroundBackground? r.modes = some modes := by
    rw [hmodes]
    cases last <;> rfl
  have hbegun : Begun (.background :: modes) := Or.inr rfl
  have hread : Reads reg n [] r r.endBackground none := by
    have houtside : Outside r.modes := hmodes ▸ hbegun.outside last
    exact houtside.reads_kind rfl .blank
  have hsteps : (steps.map Item.step).filterMap Item.step? = steps := by
    rw [List.filterMap_map]
    exact List.filterMap_some
  have hbackground : Background.ofItems (r.items.drop items.length)
      = { name := m.name, line := m.line, steps } := by
    rw [hitems, List.drop_left]
    show ({ name := m.name, line := m.line, steps := (steps.map Item.step).filterMap Item.step? } :
      Background) = _
    rw [hsteps]
  have htake : r.items.take items.length = items := by rw [hitems, List.take_left]
  rw [endBackground_of_some haround hopen, hbackground, htake] at hread
  exact hread

/-- **The background is read**, up to the blank line after it. -/
theorem becomes_writeBackground {d : Draft} (hd : d.Writable reg) (n : Nat)
    (houtside : Outside r.modes) (hnone : r.docString = none) (hclosed : r.background = none)
    (hopen : r.openBackground = none) :
    ∃ (background : Option Background) (lastStep : Option StepPlace),
      (background.map fun b => (b.name, b.steps.map Step.outline)) = d.outline.background ∧
      (∀ b ∈ background, ∀ s ∈ b.steps, s.Bound reg) ∧
      Becomes reg r n d.writeBackground { r with background, lastStep } := by
  unfold Draft.writeBackground Draft.outline
  cases hbackground : d.background with
  | none =>
    refine ⟨none, r.lastStep, rfl, by simp, ?_⟩
    rw [← hclosed]
    exact .nil reg r n
  | some b =>
    have hb : b.Writable reg := hd.background b (by rw [hbackground]; rfl)
    have hfirst : Reads reg n ("Background:".toList ++ ' ' :: b.name) r
        { r with
          modes := .background :: r.modes
          openBackground := some r.items.length
          lastStep := none
          items := r.items ++ [.marker { kind := .background, name := b.name, line := n }] } none :=
      houtside.reads_kind (LineKind.ofLine_written_background hb.name.trimmed)
        (.background hclosed hopen)
    have hbegun : Begun (.background :: r.modes) := Or.inr rfl
    obtain ⟨bound, last, lastStep, houtline, hbound, hsteps⟩ := becomes_stepDrafts (r := { r with
        modes := .background :: r.modes
        openBackground := some r.items.length
        lastStep := none
        items := r.items ++ [.marker { kind := .background, name := b.name, line := n }] })
      (n + 1) hbegun rfl hnone hb.steps hb.continuing
    dsimp only at hsteps
    rw [List.append_assoc, List.singleton_append] at hsteps
    -- the blank line cuts the marker and the steps out of the items
    have hread : Becomes reg r n (b.write "Background:".toList ++ [[]]) _ :=
      .append (.cons hfirst hsteps) (.single (reads_blank rfl rfl rfl))
    rw [← hopen] at hread
    refine ⟨some { name := b.name, line := n, steps := bound }, _, ?_, ?_, hread⟩
    · rw [Option.map_some, Option.map_some, houtline]
    · intro b' hb'
      obtain rfl := Option.some.inj hb'
      exact hbound

/-- **A scenario is read.** -/
theorem becomes_scenario {c : SectionDraft} (hc : c.Writable reg) (n : Nat)
    (houtside : Outside r.modes) (hnone : r.docString = none) (hopen : r.openBackground = none) :
    ∃ (modes : List Mode) (items : List Item) (lastStep : Option StepPlace),
      Outside modes ∧ items.map Item.outline = c.outline ∧
      (∀ s, Item.step s ∈ items → s.Bound reg) ∧
      Becomes reg r n (c.write "Scenario:".toList)
        { r with modes, items := r.items ++ items, lastStep } := by
  have hfirst : Reads reg n ("Scenario:".toList ++ ' ' :: c.name) r
      { r with
        modes := .declaration :: r.modes
        lastStep := none
        items := r.items ++ [.marker { kind := .scenario, name := c.name, line := n }] } none := by
    have hread : Reads reg n ("Scenario:".toList ++ ' ' :: c.name) r _ none :=
      houtside.reads_kind (LineKind.ofLine_written_scenario hc.name.trimmed) .scenario
    rw [endBackground_of_none hopen] at hread
    exact hread
  have hbegun : Begun (.declaration :: r.modes) := Or.inl rfl
  obtain ⟨bound, last, lastStep, houtline, hbound, hsteps⟩ := becomes_stepDrafts (r := { r with
      modes := .declaration :: r.modes
      lastStep := none
      items := r.items ++ [.marker { kind := .scenario, name := c.name, line := n }] })
    (n + 1) hbegun rfl hnone hc.steps hc.continuing
  dsimp only at hsteps
  rw [List.append_assoc, List.singleton_append] at hsteps
  refine ⟨_, _, lastStep, hbegun.outside last, ?_, ?_, .cons hfirst hsteps⟩
  · unfold SectionDraft.outline
    rw [← houtline, List.map_cons, List.map_map, List.map_map]
    rfl
  · intro s hs
    rcases List.mem_cons.mp hs with hs | hs
    · exact absurd hs (by simp)
    · obtain ⟨s', hs', hstep⟩ := List.mem_map.mp hs
      exact Item.step.inj hstep ▸ hbound s' hs'

/-- **Scenarios are read**, one after another. -/
theorem becomes_scenarios {scenarios : List SectionDraft} (n : Nat)
    (hscenarios : ∀ c ∈ scenarios, c.Writable reg) (houtside : Outside r.modes)
    (hnone : r.docString = none) (hopen : r.openBackground = none) :
    ∃ (modes : List Mode) (items : List Item) (lastStep : Option StepPlace),
      items.map Item.outline = scenarios.flatMap SectionDraft.outline ∧
      (∀ s, Item.step s ∈ items → s.Bound reg) ∧
      Becomes reg r n (scenarios.flatMap (SectionDraft.write "Scenario:".toList))
        { r with modes, items := r.items ++ items, lastStep } := by
  induction scenarios generalizing r n with
  | nil =>
    refine ⟨r.modes, [], r.lastStep, rfl, by simp, ?_⟩
    rw [List.append_nil]
    exact .nil reg r n
  | cons c scenarios ih =>
    obtain ⟨hc, hscenarios⟩ := List.forall_mem_cons.mp hscenarios
    obtain ⟨modes, items, lastStep, houtside', houtline, hbound, hfirst⟩ :=
      becomes_scenario hc n houtside hnone hopen
    obtain ⟨modes', items', lastStep', houtlines, hbounds, hrest⟩ :=
      ih (r := { r with modes, items := r.items ++ items, lastStep })
        (n + (c.write "Scenario:".toList).length) hscenarios houtside' hnone hopen
    refine ⟨modes', items ++ items', lastStep', ?_, ?_, ?_⟩
    · rw [List.map_append, houtline, houtlines, List.flatMap_cons]
    · intro s hs
      rcases List.mem_append.mp hs with hs | hs
      · exact hbound s hs
      · exact hbounds s hs
    · rw [List.flatMap_cons, ← List.append_assoc]
      exact .append hfirst hrest

/-- No handler refuses the number of arguments of a step that is bound. -/
theorem arityFaults_eq_nil {steps : List Step} (h : ∀ s ∈ steps, s.Bound reg) :
    arityFaults reg steps = [] := by
  refine List.filterMap_eq_nil_iff.mpr fun s hs => ?_
  unfold Registry.shapes?
  cases hd : reg.definitions[s.found.handler]? with
  | none => rfl
  | some d =>
    rw [Option.map_some]
    dsimp only
    rw [(h s hs).accepted d hd]

/-- The lines of a draft are read, and make what the draft says. -/
theorem exists_takeLines_of_writable {d : Draft} (hd : d.Writable reg) :
    ∃ r, takeLines reg {} 1 (d.writeName ++ (d.writeBackground ++ d.writeScenarios)) = .ok r ∧
      r.openBackground = none ∧ r.docString = none ∧ r.gathered = ⟨d.name, d.narrative, [], []⟩ ∧
      r.unsupported = none ∧
      (r.background.map fun b => (b.name, b.steps.map Step.outline)) = d.outline.background ∧
      r.items.map Item.outline = d.outline.items ∧ r.EachStep fun s => s.Bound reg := by
  have hname := becomes_writeName hd
  have houtside : Outside [.declaration] := ⟨by simp, by simp, by simp⟩
  obtain ⟨background, lastStep, houtline, hbound, hbackground⟩ :=
    becomes_writeBackground (r := { name := d.name, narrative := d.narrative }) hd
      (1 + d.writeName.length) houtside rfl rfl rfl
  obtain ⟨modes, items, lastStep', houtlines, hbounds, hscenarios⟩ :=
    becomes_scenarios
      (r := { name := d.name, narrative := d.narrative, background, lastStep })
      (1 + d.writeName.length + d.writeBackground.length) hd.scenarios houtside rfl rfl
  obtain ⟨listing, htake⟩ := hname.append (hbackground.append hscenarios) {}
  refine ⟨_, htake, rfl, rfl, rfl, rfl, houtline, ?_, ?_⟩
  · exact houtlines
  · refine eachStep_iff.mpr ⟨hbound, ?_⟩
    rintro item hitem s rfl
    exact hbounds s hitem

end Reading

/-- **A draft that is printed is read as what it says.** Every step of the feature carries the match
of the only pattern that matches it, and its arguments are the captures with the doc string after
them. -/
theorem Draft.read_print {W : Type} {reg : Registry W} {d : Draft} (hd : d.Writable reg) :
    ∃ f, Feature.read reg d.print = .ok f ∧ f.outline = d.outline ∧
      ∀ s ∈ f.steps, reg.OnlyMatch s.text s.found ∧
        s.arguments = s.found.captures ++ s.docString.toList := by
  obtain ⟨r, htake, hopen, hnone, hgathered, hunsupported, hbackground, hitems, hbound⟩ :=
    Reading.exists_takeLines_of_writable hd
  have hclose : r.close = r := by
    unfold Reading.close
    rw [hnone]
    exact Reading.endBackground_of_none hopen
  have hfinish : r.finish reg = .ok
      { name := r.name, narrative := r.narrative, background := r.background, items := r.items
        listing := r.listing } := by
    rw [Reading.finish_eq_ok_iff, hclose]
    exact ⟨hunsupported, congrArg Gathered.ambiguous hgathered,
      congrArg Gathered.missing hgathered, Reading.arityFaults_eq_nil hbound, rfl⟩
  refine ⟨_, Feature.read_eq_ok_iff.mpr ⟨r, ?_, hfinish⟩, ?_, ?_⟩
  · rw [hd.lines_print]
    exact htake
  · unfold Feature.outline
    dsimp only
    rw [hbackground, hitems]
    have hname : r.name = d.name := congrArg Gathered.name hgathered
    have hnarrative : r.narrative = d.narrative := congrArg Gathered.narrative hgathered
    rw [hname, hnarrative]
    rfl
  · intro s hs
    rw [Feature.steps_eq_elim] at hs
    have h := hbound s hs
    exact ⟨Registry.find_eq_ok_iff.mp h.found, h.arguments⟩

/-! ## A sample -/

namespace Sample

/-- A step that the sample registry knows. -/
def stepDraft (conjunction : Bool) (key : Char) (doc : Option DocDraft) : StepDraft :=
  { indent := 2, keyword := .when, conjunction, text := "press ".toList ++ [key], doc }

/-- A doc string with a blank line, and with a line that is indented and looks like a step. -/
def docDraft : DocDraft :=
  { column := 4, lines := ["first".toList, [], "  Given press 9".toList] }

/-- A draft with every part that a draft may have. -/
def draft : Draft :=
  { name := some "Sums".toList
    narrative := ["As a user".toList, "And more than that".toList]
    background :=
      some
        { name := "keys".toList
          steps := [stepDraft false '1' none, stepDraft true '2' docDraft] }
    scenarios :=
      [{ name := "one".toList, steps := [stepDraft false '3' docDraft, stepDraft true '4' none] },
        { name := [], steps := [] }] }

theorem docDraft_writable : docDraft.Writable := by decide

/-- The keys of the sample draft are pressed by steps that the sample registry knows. -/
theorem stepDraft_writable {conjunction : Bool} {key : Char} {doc : Option DocDraft}
    (hkey : key ∈ "1234".toList) (hdoc : ∀ d ∈ doc, d.Writable) :
    (stepDraft conjunction key doc).Writable registry := by
  -- a test of the list, because a claim for all of its characters would be tried on all there are
  have hall : ("1234".toList.all fun key =>
      decide (Text.Inline ("press ".toList ++ [key]) ∧
        (registry.find ("press ".toList ++ [key])).toOption.map (·.captures) = some [[key]]))
      = true := by decide +kernel
  obtain ⟨hinline, hcaptures⟩ := of_decide_eq_true (List.all_eq_true.mp hall key hkey)
  refine ⟨hinline, hdoc, ?_⟩
  show ∃ m, registry.OnlyMatch ("press ".toList ++ [key]) m ∧ _
  cases hm : registry.find ("press ".toList ++ [key]) with
  | error e =>
    rw [hm] at hcaptures
    exact absurd hcaptures (by simp [Except.toOption])
  | ok m =>
    rw [hm] at hcaptures
    obtain hcaptures : m.captures = [[key]] := Option.some.inj hcaptures
    refine ⟨m, Registry.find_eq_ok_iff.mp hm, ?_⟩
    intro d hd
    obtain rfl := List.mem_singleton.mp (List.mem_of_getElem? hd)
    rw [Arity.check_eq_ok_iff, hcaptures]
    cases doc with
    | none =>
      have htext : ∀ s ∈ [Shape.text], s = .text := by simp
      exact ⟨Nat.le_succ 1, htext⟩
    | some doc =>
      have htext : ∀ s ∈ ([] : List Shape), s = .text := by simp
      exact ⟨Nat.le_refl 2, htext⟩

theorem draft_writable : draft.Writable registry := by
  have hnone : ∀ doc ∈ (none : Option DocDraft), doc.Writable := by simp
  have hsome : ∀ doc ∈ some docDraft, doc.Writable := by
    intro doc hdoc
    exact Option.some.inj hdoc ▸ docDraft_writable
  have hfirst : ∀ s ∈ [stepDraft false '1' none, stepDraft true '2' docDraft],
      s.Writable registry := by
    refine List.forall_mem_cons.mpr ⟨?_, List.forall_mem_singleton.mpr ?_⟩
    · exact stepDraft_writable (by simp) hnone
    · exact stepDraft_writable (by simp) hsome
  have hsecond : ∀ s ∈ [stepDraft false '3' docDraft, stepDraft true '4' none],
      s.Writable registry := by
    refine List.forall_mem_cons.mpr ⟨?_, List.forall_mem_singleton.mpr ?_⟩
    · exact stepDraft_writable (by simp) hsome
    · exact stepDraft_writable (by simp) hnone
  have hnames : ∀ name ∈ ["Sums".toList, "keys".toList, "one".toList, []], Text.Inline name := by
    decide
  refine ⟨?_, fun _ => rfl, ?_, ?_, ?_⟩
  · intro name hname
    obtain rfl := Option.some.inj hname
    exact ⟨by simp, hnames _ (by simp)⟩
  · -- both lines are free text: one is of no kind, and one would continue a step
    have hinline : ∀ l ∈ draft.narrative, l.Inline := by decide
    obtain ⟨hfirst, hsecond⟩ := List.forall_mem_cons.mp hinline
    refine List.forall_mem_cons.mpr ⟨⟨hfirst, ?_⟩, List.forall_mem_singleton.mpr
      ⟨List.forall_mem_singleton.mp hsecond, ?_⟩⟩
    · exact Or.inl ⟨"As".toList, rfl⟩
    · exact Or.inr ⟨"more than that".toList, rfl⟩
  · intro b hb
    obtain rfl := Option.some.inj hb
    exact ⟨hnames _ (by simp), hfirst, by simp [StepDraft.Continue, stepDraft]⟩
  · refine List.forall_mem_cons.mpr ⟨⟨hnames _ (by simp), hsecond, ?_⟩,
      List.forall_mem_singleton.mpr ⟨hnames _ (by simp), by simp, trivial⟩⟩
    simp [StepDraft.Continue, stepDraft]

end Sample

/-- The sample draft has a background with an `And`, free text that looks like an `And`, and doc
strings with indented and with blank lines. -/
theorem Draft.read_print_sample :
    Sample.draft.Writable Sample.registry ∧
      ∃ f, Feature.read Sample.registry Sample.draft.print = .ok f ∧
        f.outline = Sample.draft.outline ∧
        ∀ s ∈ f.steps, Sample.registry.OnlyMatch s.text s.found ∧
          s.arguments = s.found.captures ++ s.docString.toList :=
  ⟨Sample.draft_writable, Draft.read_print Sample.draft_writable⟩

end Gherkin
