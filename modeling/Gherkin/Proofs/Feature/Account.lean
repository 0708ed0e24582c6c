import Gherkin.Proofs.Feature.Acceptance

/-!
# What becomes of the lines of an accepted feature

Steps are matched, given doc strings and moved to a background, and still a feature that is read
has exactly the steps of its text. This file says so of whole texts: `keepsLines_of_read` follows
every line to the place where it is kept, and `background_of_read` says which of the steps are those
of the background.

Both compare the feature with `Entry.ofText`, which knows nothing of registered steps, of modes or
of moving. Behind both is `Parts`: all lines are divided between the background and the items, and
the lists of a feature are what `Parts` says, in the order of the lines.
-/

namespace Gherkin

namespace Parts

variable {es items : List Entry} {background : Option (Entry × List Entry)}

/-- Every step is an item. -/
theorem isItem_of_isStep {e : Entry} (h : e.isStep = true) : e.isItem = true := by
  obtain ⟨n, role⟩ := e
  cases role with
  | step keyword text => rfl
  | _ => exact absurd h (by simp [Entry.isStep])

/-- The steps among items are the steps among the lines. -/
theorem filter_isStep_filter_isItem (es : List Entry) :
    (es.filter Entry.isItem).filter Entry.isStep = es.filter Entry.isStep := by
  rw [List.filter_filter]
  refine List.filter_congr fun e _ => ?_
  cases hstep : e.isStep with
  | false => rfl
  | true => rw [isItem_of_isStep hstep]; rfl

/-- **The steps of the background and those of the items are the steps of the lines.** -/
theorem perm_steps (h : Parts es background items) :
    (background.elim [] (·.2) ++ items.filter Entry.isStep).Perm (es.filter Entry.isStep) := by
  cases h with
  | plain hnone =>
    rw [filter_isStep_filter_isItem]
    exact List.Perm.refl _
  | withBackground before inside after line name hes honly hinside hafter =>
    -- the steps of the background come first, those before it in the text second
    have hmoved : (inside.filter Entry.isStep
        ++ (before.filter Entry.isStep ++ after.filter Entry.isStep)).Perm
          (before.filter Entry.isStep
            ++ (inside.filter Entry.isStep ++ after.filter Entry.isStep)) := by
      rw [← List.append_assoc, ← List.append_assoc]
      exact List.Perm.append_right _ List.perm_append_comm
    rw [filter_isStep_filter_isItem, List.filter_append, hes, List.filter_append,
      List.filter_cons_of_neg (by simp [Entry.isStep]), List.filter_append]
    exact hmoved

/-- The items stand in the order of the lines. -/
theorem sublist_items (h : Parts es background items) : items.Sublist es := by
  cases h with
  | plain hnone => exact List.filter_sublist
  | withBackground before inside after line name hes honly hinside hafter =>
    rw [hes]
    refine List.filter_sublist.trans (List.Sublist.append_left ?_ before)
    exact ((List.sublist_append_right inside after).cons _)

/-- The steps of the background stand in the order of the lines. -/
theorem sublist_background (h : Parts es background items) :
    (background.elim [] (·.2)).Sublist es := by
  cases h with
  | plain hnone => exact List.nil_sublist _
  | withBackground before inside after line name hes honly hinside hafter =>
    rw [hes]
    refine List.filter_sublist.trans (List.Sublist.trans ?_ (List.sublist_append_right before _))
    exact ((List.sublist_append_left inside after).cons _)

/-- Every item is a step or begins a scenario. -/
theorem isItem_of_mem (h : Parts es background items) {e : Entry} (he : e ∈ items) :
    e.isItem = true := by
  cases h with
  | plain hnone => exact (List.mem_filter.mp he).2
  | withBackground => exact (List.mem_filter.mp he).2

end Parts

/-- What a feature keeps of the lines of its text. -/
structure Feature.KeepsLines {W : Type} (reg : Registry W) (text : Text) (f : Feature) : Prop where
  /-- Every line has one role, and the roles are in the order of the lines. -/
  lines : (Entry.ofText text).map Entry.line = List.range' 1 (Text.lines text).length
  /-- Every role is one of those that a feature is made of. -/
  noStray : ∀ e ∈ Entry.ofText text, e.role ≠ .stray
  /-- Free text is what comes after the feature's name, looks like free text and is parted from the
  name by nothing else. -/
  freeText : ∀ before e after, Entry.ofText text = before ++ e :: after →
    ((∃ t, e.role = .narrative t) ↔
      Entry.EndInNarrative before ∧ ∃ raw, (Text.lines text)[before.length]? = some raw ∧
        ((∃ word, LineKind.ofLine (Text.trim raw) = .other word) ∨
          ∃ t, LineKind.ofLine (Text.trim raw) = .conjunction t))
  /-- The steps are those of the lines: each of them once, with its keyword or `And`, and with its
  text. -/
  steps : (f.steps.map Step.entry).Perm ((Entry.ofText text).filter Entry.isStep)
  nodup : (f.steps.map Step.line).Nodup
  /-- A step's line is its keyword or `And`, white space and the text of the step. -/
  written : ∀ s ∈ f.steps, ∃ raw rest, (Text.lines text)[s.line - 1]? = some raw ∧
    Text.trim raw = s.written ++ rest ∧ s.text = Text.trimStart rest
  /-- A step carries the match of the only pattern that matches it. -/
  found : ∀ s ∈ f.steps, reg.OnlyMatch s.text s.found
  items : (f.items.map Item.line).Pairwise (· < ·)
  background : (f.backgroundSteps.map Step.line).Pairwise (· < ·)
  narrative : f.narrative = (Entry.ofText text).filterMap Entry.narrative?
  /-- The last line that names the feature counts. -/
  name : f.name = ((Entry.ofText text).filterMap Entry.featureName?).getLast?

namespace Feature

variable {W : Type} {reg : Registry W} {text : Text} {f : Feature}

/-- The lines that the steps of the background were written as. -/
theorem map_entry_backgroundSteps (f : Feature) :
    f.backgroundSteps.map Step.entry = (f.background.map Background.entries).elim [] (·.2) := by
  unfold backgroundSteps
  cases f.background <;> rfl

/-- Lists whose entries stand in the order of the lines have increasing lines. -/
theorem pairwise_line_of_sublist {α : Type} {l : List α} {line : α → Nat} {entry : α → Entry}
    (hline : ∀ a, (entry a).line = line a) (h : (l.map entry).Sublist (Entry.ofText text)) :
    (l.map line).Pairwise (· < ·) := by
  have hpairwise := (Entry.pairwise_line_ofText text).sublist h
  rw [List.pairwise_map] at hpairwise ⊢
  simpa only [hline] using hpairwise

/-- A step that is a line of the text is a line of its kind there. -/
theorem kind_of_mem {s : Step} (h : s.entry ∈ Entry.ofText text) :
    ∃ raw, (Text.lines text)[s.line - 1]? = some raw ∧
      LineKind.ofLine (Text.trim raw)
        = if s.conjunction then .conjunction s.text else .step s.keyword s.text := by
  obtain ⟨before, after, hsplit⟩ := List.append_of_mem h
  obtain ⟨raw, hraw, hentry⟩ := Entry.eq_of_ofLines_eq_append hsplit
  obtain ⟨hline, hrole⟩ := Entry.mk.inj hentry
  refine ⟨raw, ?_, ?_⟩
  · rw [hline, Nat.add_sub_cancel_left]
    exact hraw
  · rw [Place.kind_of_role_step hrole.symm]
    split <;> rfl

/-- A step that is a line of the text is written there with its keyword and its text. -/
theorem written_of_mem {s : Step} (h : s.entry ∈ Entry.ofText text) :
    ∃ raw rest, (Text.lines text)[s.line - 1]? = some raw ∧
      Text.trim raw = s.written ++ rest ∧ s.text = Text.trimStart rest := by
  obtain ⟨raw, hraw, hkind⟩ := kind_of_mem h
  have hwritten : ∃ rest, Text.trim raw = s.written ++ rest ∧ s.text = Text.trimStart rest := by
    unfold Step.written
    by_cases hconjunction : s.conjunction = true
    · rw [if_pos hconjunction] at hkind ⊢
      exact LineKind.eq_of_ofLine_conjunction hkind
    · rw [if_neg hconjunction] at hkind ⊢
      exact LineKind.eq_of_ofLine_step hkind
  obtain ⟨rest, htrim, htext⟩ := hwritten
  exact ⟨raw, rest, hraw, htrim, htext⟩

/-- The steps of an accepted feature are those of the lines, each of them once. -/
theorem Accepted.perm_steps {es : List Entry} (h : f.Accepted reg es) :
    (f.steps.map Step.entry).Perm (es.filter Entry.isStep) := by
  rw [steps, List.map_append, map_entry_backgroundSteps, Item.map_entry_filterMap_step?]
  exact h.parts.perm_steps

/-- **No line of a feature that is read gets lost, comes twice or changes its place.** -/
theorem keepsLines_of_read (h : Feature.read reg text = .ok f) : f.KeepsLines reg text := by
  have haccepted := accepted_of_read h
  have hsteps : (f.steps.map Step.entry).Perm ((Entry.ofText text).filter Entry.isStep) :=
    haccepted.perm_steps
  refine ⟨Entry.map_line_ofLines .., haccepted.noStray, fun _ _ _ => Entry.exists_narrative_iff,
    hsteps, ?_, ?_, ?_, ?_, ?_, haccepted.narrative, haccepted.name⟩
  -- lines that increase in the text differ in any order
  · have hlines : ((f.steps.map Step.entry).map Entry.line).Perm
        (((Entry.ofText text).filter Entry.isStep).map Entry.line) := hsteps.map _
    have hincreasing : (((Entry.ofText text).filter Entry.isStep).map Entry.line).Pairwise
        (· < ·) :=
      List.pairwise_map.mpr ((Entry.pairwise_line_ofText text).sublist List.filter_sublist)
    have hnodup := hlines.nodup_iff.mpr (hincreasing.imp Nat.ne_of_lt)
    rw [List.map_map] at hnodup
    exact hnodup
  · intro s hs
    have hmem : s.entry ∈ (Entry.ofText text).filter Entry.isStep :=
      hsteps.subset (List.mem_map_of_mem hs)
    exact written_of_mem (List.mem_filter.mp hmem).1
  · intro s hs
    exact Registry.find_eq_ok_iff.mp (haccepted.found s hs)
  · exact pairwise_line_of_sublist Item.entry_line haccepted.parts.sublist_items
  · have hsublist : (f.backgroundSteps.map Step.entry).Sublist (Entry.ofText text) := by
      rw [map_entry_backgroundSteps]
      exact haccepted.parts.sublist_background
    exact pairwise_line_of_sublist Step.entry_line hsublist

/-- What a text keeps of the lines holds of a text with all kinds of lines, whose background stands
in the middle of a scenario. -/
theorem keepsLines_sample :
    ∃ f, Feature.read Sample.registry Sample.text = .ok f ∧
      f.steps.map Step.line = [9, 10, 7, 17, 19] ∧ f.KeepsLines Sample.registry Sample.text := by
  obtain ⟨f, hread, hsteps, -⟩ := Sample.exists_read
  exact ⟨f, hread, hsteps, keepsLines_of_read hread⟩

/-- No item begins a background if none of the lines of the items does. -/
theorem kind_of_mem_items {items : List Item} {m : Marker}
    (h : ∀ e ∈ items.map Item.entry, e.isBackground = false) (hm : Item.marker m ∈ items) :
    m.kind = .scenario := by
  obtain ⟨kind, name, line⟩ := m
  cases kind with
  | scenario => rfl
  | background =>
    have hbegins := h _ (List.mem_map_of_mem hm)
    exact absurd hbegins (by simp [Item.entry, Entry.isBackground])

/-- **The background of a feature that is read is what its line begins**: the steps from that line
to the first blank line or scenario. All other steps stay among the items, between the scenarios
where they were written, and nothing of the background is left there. -/
theorem background_of_read (h : Feature.read reg text = .ok f) :
    (f.background.isSome = true ↔ ∃ e ∈ Entry.ofText text, e.isBackground = true) ∧
    (∀ m, Item.marker m ∈ f.items → m.kind = .scenario) ∧
    (f.background = none → f.items.map Item.entry = (Entry.ofText text).filter Entry.isItem) ∧
    ∀ b, f.background = some b →
      ∃ before inside after,
        Entry.ofText text
          = before ++ { line := b.line, role := .background b.name } :: (inside ++ after) ∧
        (∀ e ∈ before ++ (inside ++ after), e.isBackground = false) ∧
        (∀ e ∈ inside, e.endsBackground = false) ∧
        (∀ e ∈ after.head?, e.endsBackground = true) ∧
        b.steps.map Step.entry = inside.filter Entry.isStep ∧
        f.items.map Item.entry = (before ++ after).filter Entry.isItem := by
  have hparts := (accepted_of_read h).parts
  have hkind : ∀ m, Item.marker m ∈ f.items → m.kind = .scenario := by
    intro m hm
    refine kind_of_mem_items ?_ hm
    intro e he
    have hitem : e.isItem = true := hparts.isItem_of_mem he
    cases hbegins : e.isBackground with
    | false => rfl
    | true => exact absurd hitem (by simp [Entry.isItem_of_isBackground hbegins])
  generalize hbackground : f.background.map Background.entries = background at hparts
  generalize hitems : f.items.map Item.entry = items at hparts
  cases hparts with
  | plain hnone =>
    have hf : f.background = none := Option.map_eq_none_iff.mp hbackground
    refine ⟨?_, hkind, fun _ => rfl, fun b hb => absurd (hf.symm.trans hb) (by simp)⟩
    rw [hf]
    constructor
    · intro hsome
      exact absurd hsome (by simp)
    · rintro ⟨e, he, hbegins⟩
      exact absurd hbegins (by simp [hnone e he])
  | withBackground before inside after line name hes honly hinside hafter =>
    obtain ⟨b, hb, hentries⟩ := Option.map_eq_some_iff.mp hbackground
    obtain ⟨hline, hsteps⟩ := Prod.mk.inj hentries
    refine ⟨?_, hkind, fun hnone => absurd (hb.symm.trans hnone) (by simp), ?_⟩
    · rw [hb, hes]
      exact ⟨fun _ => ⟨_, List.mem_append_right before (List.mem_cons_self ..), rfl⟩, fun _ => rfl⟩
    · intro b' hb'
      obtain rfl : b = b' := Option.some.inj (hb.symm.trans hb')
      refine ⟨before, inside, after, ?_, honly, hinside, hafter, hsteps, rfl⟩
      rw [hes, hline]

/-- The background of a text in which it stands in the middle of a scenario, and has a doc string
with a blank line and with a line that looks like a step. -/
theorem background_sample :
    ∃ f, Feature.read Sample.registry Sample.text = .ok f ∧
      f.background.map (·.steps.map Step.line) = some [9, 10] ∧
      ((f.background.isSome = true ↔
          ∃ e ∈ Entry.ofText Sample.text, e.isBackground = true) ∧
        (∀ m, Item.marker m ∈ f.items → m.kind = .scenario) ∧
        (f.background = none →
          f.items.map Item.entry = (Entry.ofText Sample.text).filter Entry.isItem) ∧
        ∀ b, f.background = some b →
          ∃ before inside after,
            Entry.ofText Sample.text
              = before ++ { line := b.line, role := .background b.name } :: (inside ++ after) ∧
            (∀ e ∈ before ++ (inside ++ after), e.isBackground = false) ∧
            (∀ e ∈ inside, e.endsBackground = false) ∧
            (∀ e ∈ after.head?, e.endsBackground = true) ∧
            b.steps.map Step.entry = inside.filter Entry.isStep ∧
            f.items.map Item.entry = (before ++ after).filter Entry.isItem) := by
  obtain ⟨f, hread, -, hbackground⟩ := Sample.exists_read
  exact ⟨f, hread, hbackground, background_of_read hread⟩

end Feature

end Gherkin
