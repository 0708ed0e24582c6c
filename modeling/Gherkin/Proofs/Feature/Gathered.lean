import Gherkin.Proofs.Feature.Role
import Gherkin.Proofs.Feature.Transition

/-!
# What a reading gathers

Besides its background and its items a reading gathers the name of the feature, the free text and
the steps that are missing or ambiguous. All of it comes from one line at a time and stays:
`Gathered.add` says what a line gives, and nothing that a reading does with steps it has read takes
anything of it back. That is the second half of this file, and it says the same of what else those
operations leave alone.
-/

namespace Gherkin

/-- What the line leaves missing: a step that matches nothing. -/
def Entry.missing? {W : Type} (reg : Registry W) (e : Entry) : Option MissingStep :=
  match e.role with
  | .step _ text =>
    match reg.find text with
    | .error .notFound => some { line := e.line, text }
    | _ => none
  | _ => none

/-- The ambiguity of the line: a step that several patterns match. -/
def Entry.ambiguous? {W : Type} (reg : Registry W) (e : Entry) : Option (Nat × Ambiguity) :=
  match e.role with
  | .step _ text =>
    match reg.find text with
    | .error (.ambiguous a) => some (e.line, a)
    | _ => none
  | _ => none

/-- One line gives one thing at most. -/
theorem filterMap_singleton {α β : Type} (f : α → Option β) (a : α) :
    [a].filterMap f = (f a).toList := by
  cases hf : f a with
  | none => rw [List.filterMap_cons_none hf]; rfl
  | some b => rw [List.filterMap_cons_some hf]; rfl

/-- The first thing that ordered lines give comes from the first line that gives one. -/
theorem exists_first_of_filterMap {α β : Type} {line : β → Nat} {give : β → Option α}
    {es : List β} {a : α} {rest : List α} (hordered : es.Pairwise fun e e' => line e < line e')
    (h : es.filterMap give = a :: rest) :
    ∃ e ∈ es, give e = some a ∧ ∀ e' ∈ es, ∀ a', give e' = some a' → line e ≤ line e' := by
  obtain ⟨before, e, after, rfl, hbefore, hgive, -⟩ := List.filterMap_eq_cons_iff.mp h
  refine ⟨e, List.mem_append_right _ (List.mem_cons_self ..), hgive, ?_⟩
  intro e' he' a' hgive'
  rcases List.mem_append.mp he' with hin | hin
  · exact absurd ((hbefore e' hin).symm.trans hgive') (by simp)
  · obtain ⟨-, hfrom, -⟩ := List.pairwise_append.mp hordered
    rcases List.mem_cons.mp hin with rfl | hlater
    · exact Nat.le_refl _
    · exact Nat.le_of_lt ((List.pairwise_cons.mp hfrom).1 e' hlater)

/-- What a reading gathers besides the background and the items. -/
structure Gathered where
  name : Option Text
  narrative : List Text
  missing : List MissingStep
  ambiguous : List (Nat × Ambiguity)

namespace Gathered

variable {W : Type} {reg : Registry W} {e : Entry} {g : Gathered}

/-- One more line. The last name given to the feature is the one that counts. -/
def add (reg : Registry W) (g : Gathered) (e : Entry) : Gathered :=
  { name := e.featureName?.or g.name
    narrative := g.narrative ++ e.narrative?.toList
    missing := g.missing ++ (e.missing? reg).toList
    ambiguous := g.ambiguous ++ (e.ambiguous? reg).toList }

/-- What the entries have to give. -/
def ofEntries (reg : Registry W) (es : List Entry) : Gathered :=
  { name := (es.filterMap Entry.featureName?).getLast?
    narrative := es.filterMap Entry.narrative?
    missing := es.filterMap (Entry.missing? reg)
    ambiguous := es.filterMap (Entry.ambiguous? reg) }

theorem ofEntries_concat (es : List Entry) (e : Entry) :
    ofEntries reg (es ++ [e]) = (ofEntries reg es).add reg e := by
  have hlast : (e.featureName?.toList).getLast? = e.featureName? := by
    cases e.featureName? <;> rfl
  unfold ofEntries add
  rw [List.filterMap_append, List.filterMap_append, List.filterMap_append, List.filterMap_append,
    filterMap_singleton, filterMap_singleton, filterMap_singleton, filterMap_singleton,
    List.getLast?_append, hlast]

/-- A line that has nothing to give. -/
theorem add_of_none (hname : e.featureName? = none) (hnarrative : e.narrative? = none)
    (hmissing : e.missing? reg = none) (hambiguous : e.ambiguous? reg = none) :
    g.add reg e = g := by
  unfold add
  rw [hname, hnarrative, hmissing, hambiguous, Option.toList_none, Option.toList_none,
    Option.toList_none, List.append_nil, List.append_nil, List.append_nil, Option.none_or]

end Gathered

namespace Reading

variable {W : Type} {reg : Registry W} {r : Reading} {line : Nat} {text : Text}

/-! ## What operations leave alone -/

/-- Ending a background changes nothing but where steps stand. -/
theorem endBackground_eq_with (r : Reading) :
    ∃ modes background openBackground items lastStep,
      r.endBackground = { r with modes, background, openBackground, items, lastStep } := by
  rcases r.endBackground_eq_or with h | ⟨outer, start, houter, hopen⟩
  · exact ⟨_, _, _, _, _, h⟩
  · exact ⟨_, _, _, _, _, endBackground_of_some houter hopen⟩

/-- A doc string changes nothing but the steps. -/
theorem attach_eq_with (r : Reading) (target : Option StepPlace) (doc : Text) :
    ∃ background items, r.attach target doc = { r with background, items } := by
  unfold attach
  split
  next => exact ⟨_, _, rfl⟩
  next => exact ⟨_, _, rfl⟩
  next => exact ⟨_, _, rfl⟩

/-- Ending a doc string changes nothing but the modes and the steps. -/
theorem endDocString_eq_with (r : Reading) :
    ∃ background items docString lastStep,
      r.endDocString
        = { r with
            modes := r.modesAfterDocString
            background, items, docString, lastStep } := by
  cases hblock : r.docString with
  | none => exact ⟨_, _, _, _, endDocString_of_none hblock⟩
  | some block =>
    obtain ⟨background, items, hattach⟩ := attach_eq_with
      { r with modes := r.modesAfterDocString, docString := none } block.target block.text
    refine ⟨background, items, none, none, ?_⟩
    rw [endDocString_of_some hblock, hattach]

theorem mem_of_aroundBackground? {m : Mode} : ∀ {modes outer : List Mode},
    aroundBackground? modes = some outer → m ∈ outer → m ∈ modes
  | [], _, h, _ => absurd h (by simp [aroundBackground?])
  | first :: rest, outer, h, hm => by
    apply List.mem_cons_of_mem
    cases first with
    | background =>
      rw [Option.some.inj h]
      exact hm
    | declaration => exact absurd h (by simp [aroundBackground?])
    | _ => exact mem_of_aroundBackground? h hm

/-- Ending a background leaves modes that were there before. -/
theorem mem_modes_of_mem_endBackground {m : Mode} (h : m ∈ r.endBackground.modes) :
    m ∈ r.modes := by
  rcases r.endBackground_eq_or with heq | ⟨outer, start, houter, hopen⟩
  · exact heq ▸ h
  · rw [endBackground_of_some houter hopen] at h
    exact mem_of_aroundBackground? houter h

/-- What the reading has gathered. -/
def gathered (r : Reading) : Gathered :=
  { name := r.name
    narrative := r.narrative
    missing := r.missing
    ambiguous := r.ambiguous }

theorem gathered_endBackground : r.endBackground.gathered = r.gathered := by
  obtain ⟨_, _, _, _, _, h⟩ := r.endBackground_eq_with
  rw [h]
  rfl

theorem unsupported_endBackground : r.endBackground.unsupported = r.unsupported := by
  obtain ⟨_, _, _, _, _, h⟩ := r.endBackground_eq_with
  rw [h]

theorem gathered_endDocString : r.endDocString.gathered = r.gathered := by
  obtain ⟨_, _, _, _, h⟩ := r.endDocString_eq_with
  rw [h]
  rfl

theorem unsupported_endDocString : r.endDocString.unsupported = r.unsupported := by
  obtain ⟨_, _, _, _, h⟩ := r.endDocString_eq_with
  rw [h]

theorem modes_endDocString : r.endDocString.modes = r.modesAfterDocString := by
  obtain ⟨_, _, _, _, h⟩ := r.endDocString_eq_with
  rw [h]

theorem unsupported_leaveNarrative : r.leaveNarrative.unsupported = r.unsupported := by
  unfold leaveNarrative
  split
  next => rfl
  next => rfl

theorem modes_step {keyword : Keyword} {conjunction : Bool} :
    (r.step reg line keyword conjunction text).1.modes = r.modesAfterStep keyword := by
  cases hfind : reg.find text with
  | ok found => rw [step_of_ok hfind]
  | error e =>
    cases e with
    | notFound => rw [step_of_notFound hfind]
    | ambiguous e => rw [step_of_ambiguous hfind]

theorem unsupported_step {keyword : Keyword} {conjunction : Bool} :
    (r.step reg line keyword conjunction text).1.unsupported = r.unsupported := by
  cases hfind : reg.find text with
  | ok found => rw [step_of_ok hfind]
  | error e =>
    cases e with
    | notFound => rw [step_of_notFound hfind]
    | ambiguous e => rw [step_of_ambiguous hfind]

/-- A step that is not found is gathered as a fault. -/
theorem gathered_step (keyword : Keyword) (conjunction : Bool) :
    (r.step reg line keyword conjunction text).1.gathered
      = r.gathered.add reg
          { line, role := .step (if conjunction then none else some keyword) text } := by
  unfold gathered Gathered.add Entry.missing? Entry.ambiguous?
  cases hfind : reg.find text with
  | ok found => simp [step_of_ok hfind, hfind, Entry.featureName?, Entry.narrative?]
  | error e =>
    cases e with
    | notFound => simp [step_of_notFound hfind, hfind, Entry.featureName?, Entry.narrative?]
    | ambiguous e => simp [step_of_ambiguous hfind, hfind, Entry.featureName?, Entry.narrative?]

end Reading

end Gherkin
