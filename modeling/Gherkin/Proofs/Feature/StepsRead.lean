import Gherkin.Proofs.Feature.Transition
import Gherkin.Proofs.Step.Lookup

/-!
# What holds of every step that is read

A property of steps that no doc string can change, and that every step has when it is read, holds of
all steps of the reading: steps are moved about and given doc strings, but never made in any other
way (`takeLines_eachStep`, `close_eachStep`). Above all every step carries what its text was found
to match (`found_of_takeLines`).
-/

namespace Gherkin

/-- A step as it is read: it carries what its text was found to match, with the captures for
arguments and without a doc string. -/
structure Step.Fresh {W : Type} (reg : Registry W) (s : Step) : Prop where
  found : reg.find s.text = .ok s.found
  arguments : s.arguments = s.found.captures
  docString : s.docString = none

namespace Reading

variable {W : Type} {reg : Registry W} {r r' : Reading} {line : Nat} {raw text : Text}
  {remark : Option Remark} {P : Step → Prop}

/-- Every step read so far, in the background or not, has the property. -/
def EachStep (P : Step → Prop) (r : Reading) : Prop := ∀ s ∈ r.stepsRead, P s

theorem mem_filterMap_step? {items : List Item} {s : Step} :
    s ∈ items.filterMap Item.step? ↔ Item.step s ∈ items := by
  rw [List.mem_filterMap]
  constructor
  · rintro ⟨item, hmem, hs⟩
    cases item with
    | marker m => exact absurd hs (by simp [Item.step?])
    | step t => exact Option.some.inj hs ▸ hmem
  · exact fun hmem => ⟨.step s, hmem, rfl⟩

/-- The steps read are those of the background and those of the items. -/
theorem eachStep_iff :
    r.EachStep P ↔
      (∀ b, r.background = some b → ∀ s ∈ b.steps, P s) ∧
        ∀ item ∈ r.items, ∀ s, item = .step s → P s := by
  unfold EachStep stepsRead
  rw [List.forall_mem_append]
  refine and_congr ?_ ⟨?_, ?_⟩
  · cases r.background with
    | none => simp
    | some b => simp
  · rintro h item hitem s rfl
    exact h s (mem_filterMap_step?.mpr hitem)
  · intro h s hs
    exact h _ (mem_filterMap_step?.mp hs) s rfl

/-- What every element has, and the change keeps, every element has after a change. -/
theorem forall_mem_modify {α : Type} {Q : α → Prop} {f : α → α} (hf : ∀ a, Q a → Q (f a)) :
    ∀ (l : List α) (i : Nat), (∀ a ∈ l, Q a) → ∀ a ∈ l.modify i f, Q a
  | [], _, _ => by simp
  | a :: l, 0, h => by
    rw [List.modify_zero_cons]
    obtain ⟨ha, hl⟩ := List.forall_mem_cons.mp h
    exact List.forall_mem_cons.mpr ⟨hf a ha, hl⟩
  | a :: l, i + 1, h => by
    rw [List.modify_succ_cons]
    obtain ⟨ha, hl⟩ := List.forall_mem_cons.mp h
    exact List.forall_mem_cons.mpr ⟨ha, forall_mem_modify hf l i hl⟩

theorem eachStep_attach (hdoc : ∀ s doc, P s → P (s.withDocString doc)) (h : r.EachStep P)
    (target : Option StepPlace) (doc : Text) : (r.attach target doc).EachStep P := by
  obtain ⟨hbackground, hitems⟩ := eachStep_iff.mp h
  rw [eachStep_iff]
  match target with
  | none => exact ⟨hbackground, hitems⟩
  | some (.item i) =>
    refine ⟨hbackground, forall_mem_modify ?_ r.items i hitems⟩
    intro item hitem s hs
    cases item with
    | marker m => exact absurd hs (by simp)
    | step t =>
      obtain rfl := Item.step.inj hs
      exact hdoc t doc (hitem t rfl)
  | some (.background i) =>
    refine ⟨?_, hitems⟩
    intro b hb
    obtain ⟨b', hb', rfl⟩ := Option.map_eq_some_iff.mp hb
    exact forall_mem_modify (fun s => hdoc s doc) b'.steps i (hbackground b' hb')

theorem eachStep_endDocString (hdoc : ∀ s doc, P s → P (s.withDocString doc))
    (h : r.EachStep P) : r.endDocString.EachStep P := by
  cases hblock : r.docString with
  | none =>
    rw [endDocString_of_none hblock]
    exact h
  | some block =>
    rw [endDocString_of_some hblock]
    exact eachStep_attach (r := { r with modes := r.modesAfterDocString, docString := none }) hdoc h
      block.target block.text

/-- Steps that are moved out of the items are steps of the items. -/
theorem eachStep_endBackground (h : r.EachStep P) : r.endBackground.EachStep P := by
  obtain ⟨-, hitems⟩ := eachStep_iff.mp h
  rcases r.endBackground_eq_or with heq | ⟨outer, start, houter, hopen⟩
  · rw [heq]
    exact h
  · rw [endBackground_of_some houter hopen, eachStep_iff]
    refine ⟨?_, fun item hitem => hitems item (List.mem_of_mem_take hitem)⟩
    intro b hb s hs
    obtain rfl := Option.some.inj hb
    -- a step of the new background was an item after its marker
    have hstep : Item.step s ∈ (r.items.drop start).tail := mem_filterMap_step?.mp hs
    exact hitems _ (List.mem_of_mem_drop (List.mem_of_mem_tail hstep)) s rfl

/-- Only a step that is found is new. -/
theorem eachStep_step (hnew : ∀ s : Step, s.Fresh reg → P s) (h : r.EachStep P)
    (keyword : Keyword) (conjunction : Bool) :
    (r.step reg line keyword conjunction text).1.EachStep P := by
  cases hfind : reg.find text with
  | error e =>
    cases e with
    | notFound =>
      rw [step_of_notFound hfind]
      exact h
    | ambiguous e =>
      rw [step_of_ambiguous hfind]
      exact h
  | ok found =>
    rw [step_of_ok hfind]
    obtain ⟨hbackground, hitems⟩ := eachStep_iff.mp h
    rw [eachStep_iff]
    refine ⟨hbackground, List.forall_mem_append.mpr ⟨hitems, List.forall_mem_singleton.mpr ?_⟩⟩
    rintro s hs
    obtain rfl := Item.step.inj hs
    refine hnew _ ⟨?_, rfl, rfl⟩
    show reg.find found.text = .ok found
    rw [Registry.text_of_find hfind]
    exact hfind

/-- Reading a line keeps the property. -/
theorem eachStep_reads (hdoc : ∀ s doc, P s → P (s.withDocString doc))
    (hnew : ∀ s : Step, s.Fresh reg → P s)
    (hread : Reads reg line raw r r' remark) (h : r.EachStep P) : r'.EachStep P := by
  cases hread with
  | endDocString => exact eachStep_endDocString hdoc h
  | verbatim => exact h
  | narrative => exact h
  | narrativeComment => exact h
  | outside _ _ hread =>
    have hleft : r.leaveNarrative.EachStep P := by
      unfold leaveNarrative
      split
      next => exact h
      next => exact h
    generalize LineKind.ofLine (Text.trim raw) = kind at hread
    generalize r.leaveNarrative = q at hread hleft
    -- a marker is no step
    have hmark : ∀ (q : Reading) (kind : Section) (name : Text), q.EachStep P →
        (q.mark kind name line).EachStep P := by
      intro q kind name hq
      obtain ⟨hbackground, hitems⟩ := eachStep_iff.mp hq
      exact eachStep_iff.mpr ⟨hbackground, List.forall_mem_append.mpr
        ⟨hitems, List.forall_mem_singleton.mpr fun s hs => absurd hs (by simp)⟩⟩
    cases hread with
    | blank => exact eachStep_endBackground hleft
    | comment => exact hleft
    | beginDocString => exact hleft
    | feature => exact hleft
    | background => exact hmark _ _ _ hleft
    | scenario => exact hmark _ _ _ (eachStep_endBackground hleft)
    | step => exact eachStep_step hnew hleft _ _
    | conjunction => exact eachStep_step hnew hleft _ _
    | examples => exact hleft
    | refused => exact hleft

/-- **Reading lines keeps the property.** -/
theorem takeLines_eachStep (hdoc : ∀ s doc, P s → P (s.withDocString doc))
    (hnew : ∀ s : Step, s.Fresh reg → P s) {lines : List Text}
    (h : takeLines reg r line lines = .ok r') (hr : r.EachStep P) : r'.EachStep P := by
  induction lines generalizing r line with
  | nil =>
    rw [← Except.ok.inj h]
    exact hr
  | cons raw rest ih =>
    obtain ⟨r₁, htake, hrest⟩ := takeLines_cons_eq_ok_iff.mp h
    obtain ⟨r₂, remark, hread, rfl⟩ := take_eq_ok_iff.mp htake
    have hr₂ : r₂.EachStep P := eachStep_reads hdoc hnew hread hr
    exact ih hrest hr₂

theorem close_eachStep (hdoc : ∀ s doc, P s → P (s.withDocString doc)) (h : r.EachStep P) :
    r.close.EachStep P := by
  unfold close
  apply eachStep_endBackground
  split
  next => exact eachStep_endDocString hdoc h
  next => exact h

/-- **Every step carries what its text was found to match.** -/
theorem found_of_takeLines {lines : List Text} (h : takeLines reg {} line lines = .ok r) :
    r.close.EachStep fun s => reg.find s.text = .ok s.found :=
  close_eachStep (fun _ _ hs => hs)
    (takeLines_eachStep (fun _ _ hs => hs) (fun _ hs => hs.found) h (by simp [EachStep, stepsRead]))

end Reading

end Gherkin
