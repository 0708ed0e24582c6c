import Mathlib.Data.List.Chain
import Gherkin.Proofs.Feature.Account
import Gherkin.Proofs.Feature.Survey

/-!
# Where `And` has its keyword from

`And` is read by the innermost mode, which tells the keyword of the run of steps that it continues.
The modes are a stack, and free text, doc strings and a background are put on top of a run and taken
off again. The steps themselves go to a list that knows nothing of modes, and a background is cut
out of it. So that the step before an `And` has the keyword of the `And` is a matter of two lists
that are kept in step.

What matters of the items is how they open (`Item.opening?`): a step with its keyword, be it written
or not, and a marker with nothing. `Linked` says of such a list that no `And` is without a step of
its keyword before it, and `Reading.InStep` that the items are linked and go on where the modes say.
Every line keeps that, as long as all steps are found (`InStep.reads`), and so it holds of a feature
that is read (`Feature.continues_of_read`).
-/

namespace Gherkin

/-- The keyword of a step, and whether it is written `And`. -/
def Step.opening (s : Step) : Keyword × Bool := (s.keyword, s.conjunction)

/-- How the item opens, if it is a step. -/
def Item.opening? : Item → Option (Keyword × Bool)
  | .marker _ => none
  | .step s => some s.opening

/-- After the one comes the other: `And` only after a step of its keyword. -/
def Follows (a b : Option (Keyword × Bool)) : Prop :=
  ∀ keyword, b = some (keyword, true) → a.map Prod.fst = some keyword

/-- Every `And` comes after a step of its keyword. Before the first item there is none. -/
def Linked (openings : List (Option (Keyword × Bool))) : Prop := (none :: openings).IsChain Follows

/-- The last item is a step of the keyword. -/
def EndsIn (keyword : Keyword) (openings : List (Option (Keyword × Bool))) : Prop :=
  (openings.getLast?.getD none).map Prod.fst = some keyword

section Linked

variable {openings before : List (Option (Keyword × Bool))} {opening : Option (Keyword × Bool)}
  {keyword : Keyword} {items : List Item} {steps : List Step}

theorem linked_nil : Linked [] := List.isChain_singleton none

theorem endsIn_concat (conjunction : Bool) :
    EndsIn keyword (openings ++ [some (keyword, conjunction)]) := by
  unfold EndsIn
  rw [List.getLast?_concat]
  rfl

/-- One more item is linked if it is no `And`, or the items end in its keyword. -/
theorem Linked.concat (h : Linked openings)
    (hfollows : ∀ keyword, opening = some (keyword, true) → EndsIn keyword openings) :
    Linked (openings ++ [opening]) := by
  unfold Linked
  rw [← List.cons_append]
  refine h.append (List.isChain_singleton _) ?_
  intro a ha b hb
  obtain rfl : opening = b := Option.some.inj hb
  rw [List.getLast?_cons] at ha
  obtain rfl := Option.some.inj ha
  exact hfollows

/-- A marker parts items that are linked for themselves. -/
theorem Linked.after_marker (h : Linked (before ++ none :: openings)) : Linked openings := by
  have hchain : (none :: before ++ none :: openings).IsChain Follows := h
  exact hchain.right_of_append

theorem Linked.of_append (h : Linked (before ++ openings)) : Linked before := by
  have hchain : (none :: before ++ openings).IsChain Follows := h
  exact hchain.left_of_append

/-- The steps among items open like the items that are steps. -/
theorem map_opening_filterMap_step? (items : List Item) :
    (items.filterMap Item.step?).map Step.opening = (items.map Item.opening?).filterMap id := by
  have hopening (item : Item) : item.opening? = item.step?.map Step.opening := by
    cases item <;> rfl
  rw [List.map_filterMap, List.filterMap_map]
  exact List.filterMap_congr fun item _ => (hopening item).symm

end Linked

/-- Every step written `And` goes on with the keyword of the steps before it. -/
structure Item.Continue (items : List Item) : Prop where
  /-- An `And` is never the first item, and directly before it stands a step of its keyword. -/
  before : ∀ (i : Nat) (s : Step), items[i]? = some (Item.step s) → s.conjunction = true →
    ∃ (j : Nat) (p : Step), i = j + 1 ∧ items[j]? = some (Item.step p) ∧ p.keyword = s.keyword
  /-- Back from any step there are only steps written `And`, up to one written with its keyword. -/
  origin : ∀ (i : Nat) (s : Step), items[i]? = some (Item.step s) →
    ∃ (j : Nat) (o : Step), j ≤ i ∧ items[j]? = some (Item.step o) ∧ o.conjunction = false ∧
      o.keyword = s.keyword ∧
      ∀ k, j < k → k ≤ i →
        ∃ t : Step, items[k]? = some (Item.step t) ∧ t.conjunction = true ∧ t.keyword = s.keyword

/-- **Items that are linked continue**, one `And` after another back to the written keyword. -/
theorem Linked.continues {items : List Item} (h : Linked (items.map Item.opening?)) :
    Item.Continue items := by
  have hbefore : ∀ (i : Nat) (s : Step), items[i]? = some (Item.step s) → s.conjunction = true →
      ∃ (j : Nat) (p : Step), i = j + 1 ∧ items[j]? = some (Item.step p) ∧
        p.keyword = s.keyword := by
    intro i s hi hconjunction
    obtain ⟨hlt, hget⟩ := List.getElem?_eq_some_iff.mp hi
    have hfollows := List.isChain_iff_getElem.mp h i (by simpa using hlt)
    rw [List.getElem_cons_succ, List.getElem_map, hget] at hfollows
    have hkeyword := hfollows s.keyword (by rw [← hconjunction]; rfl)
    cases i with
    | zero => exact absurd hkeyword (by simp)
    | succ j =>
      have hj : j < items.length := Nat.lt_of_succ_lt hlt
      rw [List.getElem_cons_succ, List.getElem_map] at hkeyword
      have hitem : items[j]? = some items[j] := List.getElem?_eq_getElem hj
      cases hp : items[j] with
      | marker m =>
        rw [hp] at hkeyword
        exact absurd hkeyword (by simp [Item.opening?])
      | step p =>
        rw [hp] at hkeyword hitem
        exact ⟨j, p, rfl, hitem, Option.some.inj hkeyword⟩
  refine ⟨hbefore, fun i => ?_⟩
  induction i with
  | zero =>
    intro s hs
    cases hconjunction : s.conjunction with
    | false => exact ⟨0, s, Nat.le_refl 0, hs, hconjunction, rfl, by omega⟩
    | true =>
      obtain ⟨j, p, hj, -⟩ := hbefore 0 s hs hconjunction
      exact absurd hj (by omega)
  | succ i ih =>
    intro s hs
    cases hconjunction : s.conjunction with
    | false => exact ⟨i + 1, s, Nat.le_refl _, hs, hconjunction, rfl, by omega⟩
    | true =>
      -- the step before has the same keyword, and so has its origin
      obtain ⟨j, p, hj, hp, hkeyword⟩ := hbefore (i + 1) s hs hconjunction
      obtain rfl : i = j := Nat.succ.inj hj
      obtain ⟨j, o, hle, ho, hwritten, horigin, hbetween⟩ := ih p hp
      refine ⟨j, o, Nat.le_succ_of_le hle, ho, hwritten, horigin.trans hkeyword, ?_⟩
      intro k hlt hk
      rcases Nat.le_succ_iff.mp hk with hk | rfl
      · obtain ⟨t, ht, hand, htkeyword⟩ := hbetween k hlt hk
        exact ⟨t, ht, hand, htkeyword.trans hkeyword⟩
      · exact ⟨s, hs, hconjunction, rfl⟩

namespace Reading

variable {W : Type} {reg : Registry W} {r r' : Reading} {s : Site} {line : Nat} {raw text : Text}
  {kind : LineKind} {remark : Option Remark}

/-- How the items read so far open. -/
def openings (r : Reading) : List (Option (Keyword × Bool)) := r.items.map Item.opening?

/-- How the steps of the background open that has been read. -/
def backgroundOpenings (r : Reading) : List (Option (Keyword × Bool)) :=
  (r.background.elim [] (·.steps)).map fun s => some s.opening

/-- The keyword that `And` stands for once the doc string or the free text has been left that is
being read. -/
def continued? (modes : List Mode) : Option Keyword := (outerMode modes).keyword?

/-- The items are linked, and go on with the keyword that the modes tell. -/
structure InStep (r : Reading) : Prop where
  items : Linked r.openings
  background : Linked r.backgroundOpenings
  run : ∀ keyword, continued? r.modes = some keyword → EndsIn keyword r.openings
  /-- Where a background is being read, only steps come after its marker, and when it ends the items
  before it go on with the keyword that the modes around it tell. -/
  opened : ∀ start, r.openBackground = some start →
    ∃ (before : List (Option (Keyword × Bool))) (inside : List (Keyword × Bool)),
      r.openings = before ++ none :: inside.map some ∧ before.length = start ∧
      ∀ outer keyword, aroundBackground? r.modes = some outer →
        continued? outer = some keyword → EndsIn keyword before

/-! ### Operations -/

theorem aroundBackground?_modesAfterStep (keyword : Keyword) :
    aroundBackground? (r.modesAfterStep keyword) = aroundBackground? r.modes := by
  have hmodes : r.modes.headD .declaration = r.mode := rfl
  unfold modesAfterStep
  split
  next hkeyword =>
    -- the step continues a run, which it takes the place of
    cases hm : r.modes with
    | nil =>
      rw [hm] at hmodes
      rw [← hmodes] at hkeyword
      exact absurd hkeyword (by simp [Mode.keyword?])
    | cons m outer =>
      rw [hm] at hmodes
      obtain rfl : m = r.mode := hmodes
      cases hmode : r.mode with
      | steps previous => rfl
      | _ => exact absurd hkeyword (by simp [hmode, Mode.keyword?])
  next => rfl

/-- Free text and doc strings stand on top of what goes on after them. -/
theorem continued?_of_covered {m : Mode} (hm : Place.ofMode m ≠ .outside) (outer : List Mode) :
    continued? (m :: outer) = (outer.headD .declaration).keyword? := by
  unfold continued? outerMode
  exact congrArg Mode.keyword? (if_neg hm)

theorem aroundBackground?_of_covered {m : Mode} (hm : Place.ofMode m ≠ .outside)
    (outer : List Mode) : aroundBackground? (m :: outer) = aroundBackground? outer := by
  cases m with
  | narrative => rfl
  | docString => rfl
  | _ => exact absurd rfl hm

theorem continued?_of_outside {modes : List Mode} (h : ∀ m ∈ modes, Place.ofMode m = .outside) :
    continued? modes = (modes.headD .declaration).keyword? := by
  unfold continued? outerMode
  rw [if_pos (place_headD h)]

/-- A doc string changes nothing of how steps open. -/
theorem openings_attach (target : Option StepPlace) (doc : Text) :
    (r.attach target doc).openings = r.openings ∧
      (r.attach target doc).backgroundOpenings = r.backgroundOpenings := by
  match target with
  | none => exact ⟨rfl, rfl⟩
  | some (.item i) =>
    refine ⟨map_modify_of_eq ?_ r.items i, rfl⟩
    intro item
    cases item <;> rfl
  | some (.background i) =>
    refine ⟨rfl, ?_⟩
    unfold attach backgroundOpenings
    cases r.background with
    | none => rfl
    | some b =>
      have hopening (s : Step) : some (s.withDocString doc).opening = some s.opening := rfl
      exact map_modify_of_eq hopening b.steps i

theorem openings_endDocString :
    r.endDocString.openings = r.openings ∧
      r.endDocString.backgroundOpenings = r.backgroundOpenings := by
  cases hblock : r.docString with
  | none =>
    rw [endDocString_of_none hblock]
    exact ⟨rfl, rfl⟩
  | some block =>
    rw [endDocString_of_some hblock]
    exact openings_attach (r := { r with modes := r.modesAfterDocString, docString := none })
      block.target block.text

namespace InStep

/-- Before the first line. -/
theorem initial : InStep {} where
  items := linked_nil
  background := linked_nil
  run := by simp [continued?, outerMode, Place.ofMode, Mode.keyword?]
  opened := by simp

/-- Only the openings and what the modes tell matter. -/
theorem congr (h : r.InStep) (hitems : r'.openings = r.openings)
    (hbackground : r'.backgroundOpenings = r.backgroundOpenings)
    (hopen : r'.openBackground = r.openBackground)
    (hrun : ∀ keyword, continued? r'.modes = some keyword → continued? r.modes = some keyword)
    (haround : aroundBackground? r'.modes = aroundBackground? r.modes) : r'.InStep where
  items := hitems ▸ h.items
  background := hbackground ▸ h.background
  run keyword hkeyword := hitems ▸ h.run keyword (hrun keyword hkeyword)
  opened start hstart := by
    rw [hitems, haround]
    exact h.opened start (hopen ▸ hstart)

/-- A mode that `And` does not continue has been entered. -/
theorem enter (h : r.InStep) {m : Mode} (hm : continued? (m :: r.modes) = none)
    (haround : aroundBackground? (m :: r.modes) = aroundBackground? r.modes)
    (hmodes : r'.modes = m :: r.modes) (hitems : r'.openings = r.openings)
    (hbackground : r'.backgroundOpenings = r.backgroundOpenings)
    (hopen : r'.openBackground = r.openBackground) : r'.InStep := by
  refine h.congr hitems hbackground hopen ?_ (hmodes ▸ haround)
  intro keyword hkeyword
  rw [hmodes, hm] at hkeyword
  exact absurd hkeyword (by simp)

/-- Free text or a doc string begins on top of the modes. -/
theorem cover (h : r.InStep) (hoff : ∀ m ∈ r.modes, Place.ofMode m = .outside) {m : Mode}
    (hm : Place.ofMode m ≠ .outside) (hmodes : r'.modes = m :: r.modes)
    (hitems : r'.openings = r.openings) (hbackground : r'.backgroundOpenings = r.backgroundOpenings)
    (hopen : r'.openBackground = r.openBackground) : r'.InStep := by
  refine h.congr hitems hbackground hopen ?_ ?_
  · intro keyword hkeyword
    rw [hmodes, continued?_of_covered hm] at hkeyword
    rw [continued?_of_outside hoff]
    exact hkeyword
  · rw [hmodes, aroundBackground?_of_covered hm]

/-- Free text or a doc string is taken off the modes. -/
theorem uncover (h : r.InStep) (hat : r.At s) {m : Mode} {outer : List Mode}
    (hm : Place.ofMode m ≠ .outside) (hmodes : r.modes = m :: outer) (hmodes' : r'.modes = outer)
    (hitems : r'.openings = r.openings) (hbackground : r'.backgroundOpenings = r.backgroundOpenings)
    (hopen : r'.openBackground = r.openBackground) : r'.InStep := by
  have hoff : ∀ m ∈ outer, Place.ofMode m = .outside := fun m hmem =>
    hat.below m (by rw [hmodes]; exact hmem)
  refine h.congr hitems hbackground hopen ?_ ?_
  · intro keyword hkeyword
    rw [hmodes', continued?_of_outside hoff] at hkeyword
    rw [hmodes, continued?_of_covered hm]
    exact hkeyword
  · rw [hmodes', hmodes, aroundBackground?_of_covered hm]

theorem endDocString (h : r.InStep) (hat : r.At s) (hmode : r.mode = .docString) :
    r.endDocString.InStep := by
  obtain ⟨outer, hmodes⟩ := exists_modes_eq_cons hmode (by simp)
  refine h.uncover hat (m := .docString) (by simp [Place.ofMode]) hmodes ?_
    openings_endDocString.1 openings_endDocString.2 openBackground_endDocString
  rw [modes_endDocString, modesAfterDocString, if_pos hmode, hmodes]
  rfl

theorem leaveNarrative (h : r.InStep) (hat : r.At s) : r.leaveNarrative.InStep := by
  by_cases hmode : r.mode = .narrative
  · obtain ⟨outer, hmodes⟩ := exists_modes_eq_cons hmode (by simp)
    rw [leaveNarrative_of_mode hmode]
    refine h.uncover hat (m := .narrative) (by simp [Place.ofMode]) hmodes ?_ rfl rfl rfl
    rw [hmodes]
    rfl
  · rw [leaveNarrative_of_mode_ne hmode]
    exact h

/-- **A background that ends keeps its steps in step**, and the items go on as before it. -/
theorem endBackground (h : r.InStep) (hat : r.At s) : r.endBackground.InStep := by
  cases hopen : r.openBackground with
  | none =>
    rw [endBackground_of_none hopen]
    exact h
  | some start =>
    obtain ⟨outer, houter⟩ := exists_outer_of_open hat.opened hopen
    obtain ⟨before, inside, hsplit, hlength, hends⟩ := h.opened start hopen
    have htake : (r.items.take start).map Item.opening? = before := by
      rw [List.map_take, ← hlength]
      exact (congrArg (List.take before.length) hsplit).trans List.take_left
    have hdrop : (r.items.drop start).map Item.opening? = none :: inside.map some := by
      rw [List.map_drop, ← hlength]
      exact (congrArg (List.drop before.length) hsplit).trans List.drop_left
    have hinside : ((r.items.drop start).tail.filterMap Item.step?).map Step.opening = inside := by
      rw [map_opening_filterMap_step?, List.map_tail, hdrop, List.tail_cons]
      simp
    have hlinked : Linked (before ++ none :: inside.map some) := hsplit ▸ h.items
    have hsteps : ((r.items.drop start).tail.filterMap Item.step?).map (fun s => some s.opening)
        = inside.map some := by
      rw [← hinside, List.map_map]
      rfl
    rw [endBackground_of_some houter hopen]
    refine ⟨?_, ?_, ?_, by simp⟩
    · show Linked ((r.items.take start).map Item.opening?)
      rw [htake]
      exact hlinked.of_append
    · show Linked (((r.items.drop start).tail.filterMap Item.step?).map fun s => some s.opening)
      rw [hsteps]
      exact hlinked.after_marker
    · intro keyword hkeyword
      show EndsIn keyword ((r.items.take start).map Item.opening?)
      rw [htake]
      exact hends outer keyword houter hkeyword

/-- A marker begins a background, which goes on top of the modes. -/
theorem begin (h : r.InStep) (name : Text) (line : Nat) :
    ({ r with
        modes := .background :: r.modes
        openBackground := some r.items.length }.mark .background name line).InStep where
  items := by
    unfold openings mark
    rw [List.map_append]
    exact h.items.concat (by simp [Item.opening?])
  background := h.background
  run keyword hkeyword := absurd hkeyword (by simp [continued?, outerMode, Place.ofMode, mark,
    Mode.keyword?])
  opened start hstart := by
    refine ⟨r.openings, [], List.map_append, ?_, ?_⟩
    · rw [openings, List.length_map]
      exact Option.some.inj hstart
    · intro outer keyword houter hkeyword
      obtain rfl : r.modes = outer := Option.some.inj houter
      exact h.run keyword hkeyword

/-- A marker begins a scenario when no background is being read. -/
theorem scenario (h : r.InStep) (hopen : r.openBackground = none) (name : Text) (line : Nat) :
    ({ r with modes := .declaration :: r.modes }.mark .scenario name line).InStep where
  items := by
    unfold openings mark
    rw [List.map_append]
    exact h.items.concat (by simp [Item.opening?])
  background := h.background
  run keyword hkeyword := absurd hkeyword (by simp [continued?, outerMode, Place.ofMode, mark,
    Mode.keyword?])
  opened start hstart := absurd (hopen.symm.trans hstart) (by simp)

/-- **A step that is found continues the run of its keyword**, or begins one. -/
theorem push (h : r.InStep) {keyword : Keyword} {step : Step} (hkeyword : step.keyword = keyword)
    (hfollows : step.conjunction = true → continued? r.modes = some keyword)
    {lastStep : Option StepPlace} :
    InStep
      { r with
        modes := r.modesAfterStep keyword
        lastStep
        items := r.items ++ [.step step] } := by
  subst hkeyword
  have hadded : (r.items ++ [Item.step step]).map Item.opening?
      = r.openings ++ [some (step.keyword, step.conjunction)] := List.map_append
  refine ⟨?_, h.background, ?_, ?_⟩
  · show Linked ((r.items ++ [Item.step step]).map Item.opening?)
    rw [hadded]
    refine h.items.concat ?_
    intro keyword hkeyword
    obtain ⟨rfl, hconjunction⟩ := Prod.mk.inj (Option.some.inj hkeyword)
    exact h.run _ (hfollows hconjunction)
  · intro keyword hkeyword
    obtain rfl : step.keyword = keyword := Option.some.inj hkeyword
    show EndsIn step.keyword ((r.items ++ [Item.step step]).map Item.opening?)
    rw [hadded]
    exact endsIn_concat step.conjunction
  · intro start hstart
    obtain ⟨before, inside, hsplit, hlength, hends⟩ := h.opened start hstart
    refine ⟨before, inside ++ [(step.keyword, step.conjunction)], ?_, hlength, ?_⟩
    · show (r.items ++ [Item.step step]).map Item.opening? = _
      rw [hadded, hsplit, List.map_append, List.append_assoc, List.cons_append]
      rfl
    · rw [aroundBackground?_modesAfterStep]
      exact hends

/-- A step that is read without a fault is found. -/
theorem step (h : r.InStep) {keyword : Keyword} {conjunction : Bool}
    (hfollows : conjunction = true → continued? r.modes = some keyword)
    (hmissing : (r.step reg line keyword conjunction text).1.missing = [])
    (hambiguous : (r.step reg line keyword conjunction text).1.ambiguous = []) :
    (r.step reg line keyword conjunction text).1.InStep := by
  cases hfind : reg.find text with
  | ok found =>
    rw [step_of_ok hfind]
    refine h.push ?_ ?_
    · rfl
    · exact hfollows
  | error e =>
    cases e with
    | notFound =>
      rw [step_of_notFound hfind] at hmissing
      exact absurd hmissing (by simp)
    | ambiguous e =>
      rw [step_of_ambiguous hfind] at hambiguous
      exact absurd hambiguous (by simp)

/-! ### Lines -/

/-- **A line outside keeps the items in step with the modes.** -/
theorem readsOutside (h : r.InStep) (hat : r.At s) (hs : s.place = .outside)
    (hread : ReadsOutside reg line raw text r kind r' remark) (hmissing : r'.missing = [])
    (hambiguous : r'.ambiguous = []) : r'.InStep := by
  have hoff := hat.outside hs
  have hended := h.endBackground hat
  have hmode : continued? r.modes = r.mode.keyword? := continued?_of_outside hoff
  cases hread with
  | blank => exact hended
  | comment => exact h
  | beginDocString => exact h.cover hoff (m := .docString) (by simp [Place.ofMode]) rfl rfl rfl rfl
  | feature => exact h.cover hoff (m := .narrative) (by simp [Place.ofMode]) rfl rfl rfl rfl
  | background hclosed hopen => exact h.begin _ _
  | scenario =>
    have hclosed := (hat.endBackground hs).opened
    rw [(hat.endBackground hs).aroundBackground?_eq_none rfl] at hclosed
    exact hended.scenario (by simpa using hclosed) _ _
  | step => exact h.step (by simp) hmissing hambiguous
  | conjunction hkeyword => exact h.step (fun _ => hmode.trans hkeyword) hmissing hambiguous
  | examples => exact h.enter rfl rfl rfl rfl rfl rfl
  | refused => exact h.congr rfl rfl rfl (fun _ => id) rfl

/-- **Every line keeps the items in step with the modes**, if all steps so far are found. -/
theorem reads (h : r.InStep) (hat : r.At s) (hread : Reads reg line raw r r' remark)
    (hmissing : r'.missing = []) (hambiguous : r'.ambiguous = []) : r'.InStep := by
  cases hread with
  | endDocString hmode hkind => exact h.endDocString hat hmode
  | verbatim => exact h.congr rfl rfl rfl (fun _ => id) rfl
  | narrative => exact h.congr rfl rfl rfl (fun _ => id) rfl
  | narrativeComment => exact h
  | outside hdoc hfree hread =>
    exact (h.leaveNarrative hat).readsOutside (hat.leaveNarrative hdoc) rfl hread hmissing
      hambiguous

theorem close (h : r.InStep) (hat : r.At s) : r.close.InStep := by
  obtain ⟨q, s', hclose, hat', -, hq⟩ := hat.exists_close
  rw [hclose]
  rcases hq with rfl | ⟨hmode, rfl⟩
  · exact h.endBackground hat'
  · exact (h.endDocString hat hmode).endBackground hat'

end InStep

/-- **All lines of a text keep the items in step with the modes**, if all steps are found. -/
theorem inStep_of_takeLines {lines : List Text} (h : takeLines reg {} 1 lines = .ok r)
    (hmissing : r.missing = []) (hambiguous : r.ambiguous = []) : r.InStep := by
  refine takeLines_induction (P := fun _ r => r.InStep) ?_ h hmissing hambiguous rfl
    Surveys.initial .initial
  intro s ls r r' raw remark hsurveys hr hread hmissing hambiguous
  exact (hr.reads hsurveys.at_site hread hmissing hambiguous).congr rfl rfl rfl (fun _ => id) rfl

end Reading

/-- How the steps of a feature come by their keywords. -/
structure Feature.Continues (text : Text) (f : Feature) : Prop where
  items : Item.Continue f.items
  background : Item.Continue (f.backgroundSteps.map Item.step)
  /-- The line of a step is written `And`, or with the keyword of the step. -/
  written : ∀ s ∈ f.steps, ∃ raw, (Text.lines text)[s.line - 1]? = some raw ∧
    LineKind.ofLine (Text.trim raw)
      = if s.conjunction then .conjunction s.text else .step s.keyword s.text

namespace Feature

variable {W : Type} {reg : Registry W} {text : Text} {f : Feature}

/-- **Every `And` of a feature that is read has its keyword from the step before it**, among the
items and among the steps of the background alike. -/
theorem continues_of_read (h : Feature.read reg text = .ok f) : f.Continues text := by
  have hwritten : ∀ s ∈ f.steps, s.entry ∈ Entry.ofText text := fun s hs =>
    (List.mem_filter.mp ((accepted_of_read h).perm_steps.subset (List.mem_map_of_mem hs))).1
  obtain ⟨r, htake, hfinish⟩ := read_eq_ok_iff.mp h
  obtain ⟨-, hambiguous, hmissing, -, rfl⟩ := Reading.finish_eq_ok_iff.mp hfinish
  have hgathered := r.gathered_close
  have hinStep : r.InStep := Reading.inStep_of_takeLines htake
    ((congrArg Gathered.missing hgathered).symm.trans hmissing)
    ((congrArg Gathered.ambiguous hgathered).symm.trans hambiguous)
  have hclosed := hinStep.close (Reading.takeLines_surveys htake rfl Surveys.initial).at_site
  refine ⟨hclosed.items.continues, Linked.continues ?_, fun s hs => kind_of_mem (hwritten s hs)⟩
  have hbackground := hclosed.background
  unfold Reading.backgroundOpenings at hbackground
  rw [List.map_map]
  unfold backgroundSteps
  cases hb : r.close.background with
  | none => exact linked_nil
  | some b =>
    rw [hb] at hbackground
    exact hbackground

end Feature

/-- A text in which one `And` comes after a doc string, and another after a background that stands
in the middle of a scenario. -/
def Sample.interrupted : Text :=
  Text.unlines <| List.map String.toList
    ["Scenario: one", "  Given press 1",
      "  Background:", "  When press 2", "    \"\"\"", "    Then", "    \"\"\"", "  And press 3",
      "", "  And press 4"]

/-- The `And` after the background goes on with the step before the background. -/
theorem Feature.continues_interrupted :
    ∃ f, Feature.read Sample.registry Sample.interrupted = .ok f ∧
      f.steps.map (fun s => (s.line, s.keyword, s.conjunction))
        = [(4, .when, false), (8, .when, true), (2, .given, false), (10, .given, true)] ∧
      f.Continues Sample.interrupted := by
  have h : (match Feature.read Sample.registry Sample.interrupted with
      | .ok f => decide (f.steps.map (fun s => (s.line, s.keyword, s.conjunction))
          = [(4, .when, false), (8, .when, true), (2, .given, false), (10, .given, true)])
      | .error _ => false) = true := by decide +kernel
  split at h
  next f hread => exact ⟨f, hread, of_decide_eq_true h, continues_of_read hread⟩
  next => exact absurd h (by simp)

end Gherkin
