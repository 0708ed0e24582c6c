import Gherkin.Proofs.Feature.Survey
import Mathlib.Data.List.TakeWhile

/-!
# Readings are consistent

A reading is a handful of values that change one at a time: a stack of modes, the place where a
background is open, the doc string that is being read, and the places of steps. `Consistent` says
what holds between them after every line: how the modes are stacked, that an open background is a
marker and steps after it, and that a place always has a step.

Where the next line stands and which line a doc string belongs to is known already (`At`, `Owns`).
What those do not say is `Anchored`: the outermost mode is a declaration, a background is a mode
once and only while it is open, it keeps its marker, and a doc string goes to the last step. Every
operation keeps it, so every line does (`Anchored.reads`), and so do any number of lines
(`anchored_of_takeLines`). The three together make a reading consistent (`Anchored.consistent`).
-/

namespace Gherkin

/-- Whether the mode is one that a search for the open background ends at. -/
def Mode.isSection : Mode → Bool
  | background | declaration => true
  | narrative | steps _ | docString | examples => false

namespace Reading

variable {W : Type} {reg : Registry W} {r r' : Reading} {line : Nat} {raw text : Text}
  {kind : LineKind} {remark : Option Remark} {modes outer : List Mode} {start : Nat}
  {items : List Item}

/-- The modes from the innermost background or declaration outwards. -/
def sectionModes (modes : List Mode) : List Mode := modes.dropWhile fun m => !m.isSection

/-- The step at the place. -/
def stepAt (r : Reading) : StepPlace → Option Step
  | .item i => r.items[i]?.bind Item.step?
  | .background i => r.background.bind (·.steps[i]?)

theorem lineAt_eq_map_stepAt (p : StepPlace) : r.lineAt p = (r.stepAt p).map Step.line := by
  cases p <;> rfl

/-- The items from `start` on are the marker of a background and steps after it. -/
structure IsRegion (items : List Item) (start : Nat) : Prop where
  marker : ∃ m, items[start]? = some (.marker m) ∧ m.kind = .background
  steps : ∀ i item, start < i → items[i]? = some item → ∃ s, item = .step s

/-- **What holds between the parts of a reading.** -/
structure Consistent (r : Reading) : Prop where
  /-- There are modes, the outermost of which is a declaration. -/
  bottom : r.modes.getLast? = some .declaration
  /-- Free text and doc strings are the innermost mode, and no other. -/
  innermost : ∀ m ∈ r.modes.tail, m ≠ .narrative ∧ m ≠ .docString
  docString : r.docString.isSome ↔ r.mode = .docString
  once : r.modes.count .background ≤ 1
  opened : r.openBackground.isSome ↔ (sectionModes r.modes).head? = some .background
  region : ∀ start, r.openBackground = some start → IsRegion r.items start
  unclosed : ∀ start, r.openBackground = some start → r.background = none
  last : ∀ p, r.lastStep = some p → (r.stepAt p).isSome
  target : ∀ p, r.target = some p → (r.stepAt p).isSome
  /-- While a background is open the last step is one of its steps. -/
  inside : ∀ start p, r.openBackground = some start → r.lastStep = some p →
    ∃ i, p = .item i ∧ start < i

/-! ### Modes -/

/-- The modes around the innermost background are found from the innermost section. -/
theorem aroundBackground?_eq_some_iff :
    aroundBackground? modes = some outer ↔ sectionModes modes = .background :: outer := by
  unfold sectionModes
  induction modes with
  | nil => simp [aroundBackground?]
  | cons m rest ih =>
    cases m with
    | background => simp [aroundBackground?, Mode.isSection]
    | declaration => simp [aroundBackground?, Mode.isSection]
    | _ =>
      rw [List.dropWhile_cons_of_pos rfl]
      exact ih

/-- No background is open once it has ended. -/
theorem openBackground_endBackground
    (hopened : r.openBackground.isSome = (aroundBackground? r.modes).isSome) :
    r.endBackground.openBackground = none := by
  cases hopen : r.openBackground with
  | none => rw [endBackground_of_none hopen, hopen]
  | some start =>
    obtain ⟨outer, houter⟩ := exists_outer_of_open hopened hopen
    rw [endBackground_of_some houter hopen]

/-- The modes are those inside the innermost section, and that section with what is around it. -/
theorem exists_append_sectionModes (modes : List Mode) :
    ∃ inner, modes = inner ++ sectionModes modes :=
  ⟨_, (List.takeWhile_append_dropWhile (p := fun m : Mode => !m.isSection)).symm⟩

/-- Where a declaration is the outermost mode, the search for the innermost section finds one. -/
theorem exists_sectionModes (h : modes.getLast? = some .declaration) :
    ∃ outer, sectionModes modes = .background :: outer ∨
      sectionModes modes = .declaration :: outer := by
  have hfind : modes.find? Mode.isSection = (sectionModes modes).head? :=
    List.find?_eq_head?_dropWhile_not ..
  cases hfrom : sectionModes modes with
  | nil =>
    rw [hfrom] at hfind
    exact absurd rfl (List.find?_eq_none.mp hfind .declaration (List.mem_of_getLast? h))
  | cons m outer =>
    rw [hfrom] at hfind
    have hsection : m.isSection = true := List.find?_some hfind
    refine ⟨outer, ?_⟩
    cases m with
    | background => exact Or.inl rfl
    | declaration => exact Or.inr rfl
    | _ => exact absurd hsection (by simp [Mode.isSection])

/-- What the modes stand on is not left with a mode on top of it. -/
theorem getLast?_of_cons {m : Mode} (h : (m :: modes).getLast? = some .declaration)
    (hm : m ≠ .declaration) : modes.getLast? = some .declaration := by
  cases modes with
  | nil => exact absurd (Option.some.inj h) hm
  | cons _ _ => rwa [List.getLast?_cons_cons] at h

/-- The modes stand on a declaration, and have a background once, if it is open. -/
structure Stacked (modes : List Mode) (openBackground : Option Nat) : Prop where
  bottom : modes.getLast? = some .declaration
  once : modes.count .background ≤ 1
  closed : openBackground = none → .background ∉ modes

namespace Stacked

variable {openBackground : Option Nat} {m : Mode}

/-- A mode other than a background is entered. -/
theorem push (h : Stacked modes openBackground) (hm : m ≠ .background) :
    Stacked (m :: modes) openBackground where
  bottom := by simp [List.getLast?_cons, h.bottom]
  once := by
    rw [List.count_cons_of_ne hm]
    exact h.once
  closed hnone := by simp [h.closed hnone, hm.symm]

/-- A mode other than a background or a declaration is left. -/
theorem pop (h : Stacked (m :: modes) openBackground) (hm : m ≠ .background)
    (hdeclaration : m ≠ .declaration) : Stacked modes openBackground where
  bottom := getLast?_of_cons h.bottom hdeclaration
  once := by
    have honce := h.once
    rwa [List.count_cons_of_ne hm] at honce
  closed hnone hmem := h.closed hnone (List.mem_cons_of_mem _ hmem)

/-- A background is entered where none is open. -/
theorem enter (h : Stacked modes none) (start : Nat) :
    Stacked (.background :: modes) (some start) where
  bottom := by simp [List.getLast?_cons, h.bottom]
  once := by simp [List.count_eq_zero_of_not_mem (h.closed rfl)]
  closed hnone := absurd hnone (by simp)

/-- The background is left with all modes inside of it. -/
theorem leave (h : Stacked modes openBackground) (houter : aroundBackground? modes = some outer) :
    Stacked outer none := by
  obtain ⟨inner, hmodes⟩ := exists_append_sectionModes modes
  rw [aroundBackground?_eq_some_iff.mp houter] at hmodes
  have hbottom := h.bottom
  have honce := h.once
  rw [hmodes, List.getLast?_append_of_ne_nil _ (by simp)] at hbottom
  rw [hmodes, List.count_append, List.count_cons_self] at honce
  -- no other background is left
  have hzero : outer.count .background = 0 := by omega
  exact ⟨getLast?_of_cons hbottom (by simp), by omega, fun _ => List.count_eq_zero.mp hzero⟩

end Stacked

/-! ### The items of an open background -/

namespace IsRegion

/-- A background begins with its marker. -/
theorem begin (items : List Item) (name : Text) (line : Nat) :
    IsRegion (items ++ [.marker { kind := .background, name, line }]) items.length where
  marker := ⟨_, List.getElem?_concat_length, rfl⟩
  steps i item hi hitem := by
    have hlt := (List.getElem?_eq_some_iff.mp hitem).1
    rw [List.length_append, List.length_singleton] at hlt
    omega

theorem lt_length (h : IsRegion items start) : start < items.length := by
  obtain ⟨m, hm, -⟩ := h.marker
  exact (List.getElem?_eq_some_iff.mp hm).1

/-- It goes on with a step. -/
theorem concat (h : IsRegion items start) (s : Step) : IsRegion (items ++ [.step s]) start where
  marker := by
    rw [List.getElem?_append_left h.lt_length]
    exact h.marker
  steps i item hi hitem := by
    by_cases hlt : i < items.length
    · rw [List.getElem?_append_left hlt] at hitem
      exact h.steps i item hi hitem
    · rw [List.getElem?_append_right (by omega)] at hitem
      obtain rfl := List.mem_singleton.mp (List.mem_of_getElem? hitem)
      exact ⟨s, rfl⟩

/-- A doc string makes no step a marker, and no marker a step. -/
theorem attach (h : IsRegion r.items start) (target : Option StepPlace) (doc : Text) :
    IsRegion (r.attach target doc).items start := by
  match target with
  | none => exact h
  | some (.background i) => exact h
  | some (.item i) =>
    unfold Reading.attach
    dsimp only
    refine ⟨?_, fun j item hj hitem => ?_⟩
    · obtain ⟨m, hm, hkind⟩ := h.marker
      refine ⟨m, ?_, hkind⟩
      rw [List.getElem?_modify, hm]
      split <;> rfl
    · rw [List.getElem?_modify] at hitem
      obtain ⟨item', hitem', rfl⟩ := Option.map_eq_some_iff.mp hitem
      obtain ⟨s, rfl⟩ := h.steps j item' hj hitem'
      split
      next => exact ⟨_, rfl⟩
      next => exact ⟨_, rfl⟩

/-- The items from the marker on. -/
theorem exists_drop (h : IsRegion items start) :
    ∃ m rest, items.drop start = .marker m :: rest ∧ m.kind = .background ∧
      ∀ item ∈ rest, ∃ s, item = .step s := by
  obtain ⟨m, hm, hkind⟩ := h.marker
  obtain ⟨hlt, hget⟩ := List.getElem?_eq_some_iff.mp hm
  refine ⟨m, items.drop (start + 1), ?_, hkind, fun item hitem => ?_⟩
  · rw [List.drop_eq_getElem_cons hlt, hget]
  · obtain ⟨i, hi⟩ := List.mem_iff_getElem?.mp hitem
    rw [List.getElem?_drop] at hi
    exact h.steps _ item (by omega) hi

end IsRegion

/-! ### What every line keeps -/

/-- What is open is held where it began: the modes by a declaration, the background by its marker,
the doc string by the last step. -/
structure Anchored (r : Reading) : Prop where
  stack : Stacked r.modes r.openBackground
  region : ∀ start, r.openBackground = some start → IsRegion r.items start
  target : ∀ block, r.docString = some block → block.target = r.lastStep

namespace Anchored

variable {s : Site} {o : Ownership} {n : Nat}

/-- Before the first line. -/
theorem initial : Anchored {} where
  stack := ⟨rfl, by decide, fun _ => by decide⟩
  region _ h := absurd h (by simp)
  target _ h := absurd h (by simp)

theorem list (h : Anchored r) : Anchored (r.list line raw remark) := ⟨h.stack, h.region, h.target⟩

/-- A background that ends takes its modes and its items with it. -/
theorem endBackground (h : Anchored r) (hdoc : r.docString = none)
    (hopened : r.openBackground.isSome = (aroundBackground? r.modes).isSome) :
    Anchored r.endBackground := by
  cases hopen : r.openBackground with
  | none =>
    rw [endBackground_of_none hopen]
    exact h
  | some start =>
    obtain ⟨outer, houter⟩ := exists_outer_of_open hopened hopen
    rw [endBackground_of_some houter hopen]
    refine ⟨h.stack.leave houter, fun _ h => absurd h (by simp), fun block hblock => ?_⟩
    exact absurd (hdoc.symm.trans hblock) (by simp)

/-- A marker comes where no background is open, or begins one. -/
theorem mark (hdoc : r.docString = none) {openBackground : Option Nat}
    (hstack : Stacked modes openBackground) {kind : Section} {name : Text} {line : Nat}
    (hregion : ∀ start, openBackground = some start →
      IsRegion (r.items ++ [.marker { kind, name, line }]) start) :
    Anchored ({ r with modes, openBackground }.mark kind name line) :=
  ⟨hstack, hregion, fun block hblock => absurd (hdoc.symm.trans hblock) (by simp)⟩

/-- A step continues a run, which it takes the place of, or begins one. -/
theorem stacked_modesAfterStep (h : Anchored r) (keyword : Keyword) :
    Stacked (r.modesAfterStep keyword) r.openBackground := by
  unfold modesAfterStep
  split
  next hkeyword =>
    obtain ⟨previous, hprevious⟩ : ∃ previous, r.mode = .steps previous := by
      cases hmode : r.mode with
      | steps previous => exact ⟨previous, rfl⟩
      | _ => exact absurd hkeyword (by simp [hmode, Mode.keyword?])
    obtain ⟨outer, hmodes⟩ := exists_modes_eq_cons hprevious (by simp)
    rw [hmodes, List.tail_cons]
    exact ((hmodes ▸ h.stack).pop (by simp) (by simp)).push (by simp)
  next => exact h.stack.push (by simp)

theorem step (h : Anchored r) (hdoc : r.docString = none) (keyword : Keyword) (conjunction : Bool) :
    Anchored (r.step reg line keyword conjunction text).1 := by
  have hstack := h.stacked_modesAfterStep keyword
  have htarget {p : Option StepPlace} (block : DocString StepPlace)
      (hblock : r.docString = some block) : block.target = p :=
    absurd (hdoc.symm.trans hblock) (by simp)
  cases hfind : reg.find text with
  | ok found =>
    rw [step_of_ok hfind]
    exact ⟨hstack, fun start hopen => (h.region start hopen).concat _, htarget⟩
  | error e =>
    cases e with
    | notFound =>
      rw [step_of_notFound hfind]
      exact ⟨hstack, h.region, htarget⟩
    | ambiguous e =>
      rw [step_of_ambiguous hfind]
      exact ⟨hstack, h.region, htarget⟩

/-- The narrative is left. -/
theorem leaveNarrative (h : Anchored r) : Anchored r.leaveNarrative := by
  by_cases hmode : r.mode = .narrative
  · obtain ⟨outer, hmodes⟩ := exists_modes_eq_cons hmode (by simp)
    rw [leaveNarrative_of_mode hmode, hmodes]
    exact ⟨(hmodes ▸ h.stack).pop (by simp) (by simp), h.region, h.target⟩
  · rw [leaveNarrative_of_mode_ne hmode]
    exact h

/-- A doc string that ends changes a step. -/
theorem endDocString (h : Anchored r) (hmode : r.mode = .docString)
    (hdoc : r.docString.isSome = true) : Anchored r.endDocString := by
  obtain ⟨outer, hmodes⟩ := exists_modes_eq_cons hmode (by simp)
  obtain ⟨block, hblock⟩ := Option.isSome_iff_exists.mp hdoc
  refine ⟨?_, fun start hopen => ?_, fun block hblock => ?_⟩
  · rw [modes_endDocString, openBackground_endDocString, modesAfterDocString, if_pos hmode, hmodes]
    exact (hmodes ▸ h.stack).pop (by simp) (by simp)
  · rw [openBackground_endDocString] at hopen
    rw [endDocString_of_some hblock]
    exact IsRegion.attach
      (r := { r with modes := r.modesAfterDocString, docString := none }) (h.region start hopen) _ _
  · exact absurd (docString_endDocString.symm.trans hblock) (by simp)

/-- A line outside doc strings and free text. -/
theorem readsOutside (h : Anchored r) (hat : r.At s) (hs : s.place = .outside)
    (hread : ReadsOutside reg line raw text r kind r' remark) : Anchored r' := by
  have hdoc : r.docString = none := hat.docString_eq_none (hat.mode_ne_docString hs)
  have hended := h.endBackground hdoc hat.opened
  cases hread with
  | blank => exact hended
  | comment => exact h
  | beginDocString hmode =>
    refine ⟨h.stack.push (by simp), h.region, fun block hblock => ?_⟩
    rw [← Option.some.inj hblock]
  | feature hname => exact ⟨h.stack.push (by simp), h.region, h.target⟩
  | background hclosed hopen =>
    refine mark hdoc ((hopen ▸ h.stack).enter _) fun start hstart => ?_
    rw [← Option.some.inj hstart]
    exact .begin ..
  | scenario =>
    have hat' := hat.endBackground hs
    have hnone := openBackground_endBackground hat.opened
    refine mark (hat'.docString_eq_none (hat'.mode_ne_docString rfl))
      (hended.stack.push (by simp)) fun start hstart => ?_
    exact absurd (hnone.symm.trans hstart) (by simp)
  | step hmode => exact h.step hdoc _ false
  | conjunction hkeyword => exact h.step hdoc _ true
  | examples hmode => exact ⟨h.stack.push (by simp), h.region, h.target⟩
  | refused hmode hkind => exact ⟨h.stack, h.region, h.target⟩

/-- **Every line that is read keeps what is open where it began.** -/
theorem reads (h : Anchored r) (hat : r.At s) (hread : Reads reg line raw r r' remark) :
    Anchored r' := by
  cases hread with
  | endDocString hmode hkind =>
    exact h.endDocString hmode (hat.reading.trans (decide_eq_true hmode))
  | verbatim hmode hkind =>
    refine ⟨h.stack, h.region, fun block hblock => ?_⟩
    obtain ⟨block', hblock', rfl⟩ := Option.map_eq_some_iff.mp hblock
    exact h.target block' hblock'
  | narrative hmode hkind => exact ⟨h.stack, h.region, h.target⟩
  | narrativeComment hmode hkind => exact h
  | outside hdoc hfree hread =>
    exact h.leaveNarrative.readsOutside (hat.leaveNarrative hdoc) rfl hread

/-- **A reading that is anchored is consistent**, by where it stands and what its doc strings
belong to. -/
theorem consistent (h : Anchored r) (hat : r.At s) (howns : r.Owns o n) : Consistent r := by
  have hlined {p : StepPlace} (hline : (r.lineAt p).isSome = true) :
      (r.stepAt p).isSome = true := by
    rwa [lineAt_eq_map_stepAt, Option.isSome_map] at hline
  refine
    { bottom := h.stack.bottom
      innermost := fun m hm => ?_
      docString := by rw [hat.reading, decide_eq_true_iff]
      once := h.stack.once
      opened := ?_
      region := h.region
      unclosed := fun start hopen => (howns.opened start hopen).1
      last := fun p hp => ?_
      target := fun p hp => hlined (howns.placed p hp)
      inside := fun start p hopen => (howns.opened start hopen).2.2 p }
  · have houtside := hat.below m hm
    exact ⟨by rintro rfl; simp [Place.ofMode] at houtside,
      by rintro rfl; simp [Place.ofMode] at houtside⟩
  · rw [hat.opened]
    constructor
    · intro hsome
      obtain ⟨outer, houter⟩ := Option.isSome_iff_exists.mp hsome
      rw [aroundBackground?_eq_some_iff.mp houter]
      rfl
    · intro hhead
      obtain ⟨outer, hfrom⟩ := List.head?_eq_some_iff.mp hhead
      rw [aroundBackground?_eq_some_iff.mpr hfrom]
      rfl
  · cases hdoc : r.docString with
    | none =>
      obtain ⟨k, hk, -⟩ := howns.exists_last hdoc hp
      exact hlined (Option.isSome_iff_exists.mpr ⟨k, hk⟩)
    | some block =>
      -- the doc string that is being read goes to the last step
      refine hlined (howns.placed p ?_)
      rw [Reading.target, hdoc, Option.bind_some, h.target block hdoc, hp]

end Anchored

/-- **Any number of lines keep what is open where it began.** -/
theorem anchored_of_takeLines {lines : List Text} {s : Site}
    (h : takeLines reg r line lines = .ok r') (hat : r.At s) (hanchored : Anchored r) :
    Anchored r' := by
  induction lines generalizing r line s with
  | nil => exact Except.ok.inj h ▸ hanchored
  | cons raw rest ih =>
    obtain ⟨r₁, htake, hrest⟩ := takeLines_cons_eq_ok_iff.mp h
    obtain ⟨r₂, remark, hread, rfl⟩ := take_eq_ok_iff.mp htake
    exact ih hrest (hat.reads hread).list (hanchored.reads hat hread).list

end Reading

end Gherkin
