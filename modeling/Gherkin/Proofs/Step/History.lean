import Gherkin.Proofs.Step.Registration
import Mathlib.Data.List.Nodup

/-!
# A registry and its history

A registry is built by one operation after another, and goes on when one of them is refused. What it
is at any time can be said by the operations so far (`Registry.History`): it has the steps that went
through, in their order, and no pattern twice; which operation is refused next, and why; that a
refusal leaves it as it is; and that whatever comes later, a step that was found stays where it is.

* `Operation.on_eq_error_iff`, `Operation.on_eq_ok_iff` — what one operation does.
* `nodup_patterns_afterAll`, `definitions_afterAll` — what any number of them do: they add to the
  end, and no pattern that is there.
* `history_of_operations` — what that comes to for a registry that was empty at first.
-/

namespace Gherkin

/-- An operation on a registry. -/
inductive Operation (W : Type) where
  | register (step : Registration W)
  | given (step : Registration W)
  | when (step : Registration W)
  | then (step : Registration W)

namespace Operation

variable {W : Type} {reg reg' : Registry W} {o : Operation W}

/-- The step that is offered. -/
def step : Operation W → Registration W
  | register s | given s | when s | .then s => s

/-- The operation as a program. -/
def program : Operation W → Registering W Unit
  | register s => .register s.pattern s.location s.handler
  | given s => .given s.pattern s.location s.handler
  | when s => .when s.pattern s.location s.handler
  | .then s => .then s.pattern s.location s.handler

/-- The keyword that a step is offered for makes no difference. -/
theorem program_on (o : Operation W) (reg : Registry W) :
    o.program.on reg
      = match reg.register o.step.pattern o.step.location o.step.handler with
        | .ok reg' => (.ok (), reg')
        | .error fault => (.error fault, reg) := by
  cases o <;> exact Registering.register_on ..

/-- **A step goes through if its pattern is new and can be read**, and comes last. -/
theorem on_eq_ok_iff :
    o.program.on reg = (.ok (), reg') ↔
      o.step.pattern ∉ reg.patterns ∧
        ∃ d, o.step.definition? = some d ∧ reg'.definitions = reg.definitions ++ [d] := by
  have hregister : o.program.on reg = (.ok (), reg') ↔
      reg.register o.step.pattern o.step.location o.step.handler = .ok reg' := by
    rw [program_on]
    cases reg.register o.step.pattern o.step.location o.step.handler with
    | ok reg₁ => simp
    | error fault => simp
  rw [hregister, Registry.register_eq_ok_iff]
  apply and_congr_right
  intro _
  simp [Registration.definition?]

/-- **A step is refused if its pattern is there**, whatever else is new about it, and otherwise if
its pattern cannot be read. The registry is left as it is. -/
theorem on_eq_error_iff {fault : RegistrationFault} :
    o.program.on reg = (.error fault, reg') ↔
      reg' = reg ∧
        ((∃ d, reg.definitions.find? (fun d => d.pattern.source = o.step.pattern) = some d ∧
            fault = .duplicate o.step.pattern d.location o.step.location) ∨
          (o.step.pattern ∉ reg.patterns ∧ Pattern.ofText? o.step.pattern = none ∧
            fault = .invalidPattern)) := by
  rw [program_on, ← Registry.find?_eq_none_iff]
  unfold Registry.register
  cases reg.definitions.find? fun d => d.pattern.source = o.step.pattern with
  | some d => simp [eq_comm, and_comm]
  | none =>
    cases Pattern.ofText? o.step.pattern with
    | some p => simp
    | none => simp [eq_comm, and_comm]

end Operation

/-- Definitions have the patterns of the steps that they were made of. -/
theorem Registration.map_source_of_map_definition? {W : Type} {steps : List (Registration W)}
    {ds : List (Definition W)} (h : steps.map Registration.definition? = ds.map some) :
    ds.map (fun d => d.pattern.source) = steps.map Registration.pattern := by
  induction steps generalizing ds with
  | nil => rw [List.map_eq_nil_iff.mp h.symm, List.map_nil, List.map_nil]
  | cons s steps ih =>
    obtain ⟨d, ds, rfl, hd, hds⟩ := List.map_eq_cons_iff.mp h.symm
    rw [List.map_cons, List.map_cons, ih hds.symm, (Registration.of_definition? hd.symm).1]

namespace Registry

variable {W : Type} {reg : Registry W}

/-- The registry after an operation. -/
def after (reg : Registry W) (o : Operation W) : Registry W := (o.program.on reg).2

/-- The registry after operations one after another. -/
def afterAll (reg : Registry W) (os : List (Operation W)) : Registry W := os.foldl after reg

/-- The steps that went through, in their order. -/
def registered (reg : Registry W) : List (Operation W) → List (Registration W)
  | [] => []
  | o :: os =>
    match o.program.on reg with
    | (.ok (), reg) => o.step :: reg.registered os
    | (.error _, reg) => reg.registered os

/-! ## What operations keep -/

theorem nodup_patterns_after (h : reg.patterns.Nodup) (o : Operation W) :
    (reg.after o).patterns.Nodup := by
  unfold after
  cases hon : o.program.on reg with
  | mk result reg' =>
    cases result with
    | error fault =>
      obtain ⟨rfl, -⟩ := Operation.on_eq_error_iff.mp hon
      exact h
    | ok _ =>
      obtain ⟨hnew, d, hd, hdefinitions⟩ := Operation.on_eq_ok_iff.mp hon
      show reg'.patterns.Nodup
      unfold patterns
      rw [hdefinitions, List.map_append, List.map_singleton, (Registration.of_definition? hd).1,
        ← List.concat_eq_append]
      exact h.concat hnew

/-- **No pattern comes twice.** -/
theorem nodup_patterns_afterAll (h : reg.patterns.Nodup) (os : List (Operation W)) :
    (reg.afterAll os).patterns.Nodup := by
  induction os generalizing reg with
  | nil => exact h
  | cons o os ih => exact ih (nodup_patterns_after h o)

/-- **Operations add the steps that go through**, at the end and in their order, and leave what is
there. -/
theorem definitions_afterAll (reg : Registry W) (os : List (Operation W)) :
    ∃ ds, (reg.registered os).map Registration.definition? = ds.map some ∧
      (reg.afterAll os).definitions = reg.definitions ++ ds := by
  induction os generalizing reg with
  | nil => exact ⟨[], rfl, (List.append_nil _).symm⟩
  | cons o os ih =>
    obtain ⟨ds, hds, hdefinitions⟩ := ih (reg.after o)
    have hall : reg.afterAll (o :: os) = (reg.after o).afterAll os := rfl
    unfold registered
    rw [hall, hdefinitions]
    unfold after at hds ⊢
    cases hon : o.program.on reg with
    | mk result reg' =>
      rw [hon] at hds
      cases result with
      | error fault =>
        obtain ⟨rfl, -⟩ := Operation.on_eq_error_iff.mp hon
        exact ⟨ds, hds, rfl⟩
      | ok _ =>
        obtain ⟨-, d, hd, hadded⟩ := Operation.on_eq_ok_iff.mp hon
        refine ⟨d :: ds, by rw [List.map_cons, List.map_cons, hd, hds], ?_⟩
        show reg'.definitions ++ ds = _
        rw [hadded, List.append_assoc]
        rfl

/-- What a registry is by the operations on it so far. -/
structure History (os : List (Operation W)) (reg : Registry W) : Prop where
  distinct : reg.patterns.Nodup
  /-- The patterns are those that went through, in that order. -/
  patterns : reg.patterns = (registered {} os).map Registration.pattern
  /-- Each definition is what was offered: its pattern can be read, and its location and its handler
  are those of the operation. -/
  definitions : (registered {} os).map Registration.definition? = reg.definitions.map some
  /-- An operation is refused if its pattern went through before, and names both places; and
  otherwise if its pattern cannot be read. -/
  refused : ∀ (o : Operation W) (fault : RegistrationFault),
    (o.program.on reg).1 = .error fault ↔
      (∃ first ∈ registered {} os, first.pattern = o.step.pattern ∧
        fault = .duplicate o.step.pattern first.location o.step.location) ∨
      (o.step.pattern ∉ reg.patterns ∧ Pattern.ofText? o.step.pattern = none ∧
        fault = .invalidPattern)
  /-- A refusal leaves all as it is. -/
  unchanged : ∀ (o : Operation W) (fault : RegistrationFault),
    (o.program.on reg).1 = .error fault → (o.program.on reg).2 = reg
  /-- What a text was found with stays where it is. -/
  kept : ∀ (later : List (Operation W)) (text : Text) (m : Match), reg.find text = .ok m →
    ∃ d, (reg.afterAll later).definitions[m.handler]? = some d ∧ d.pattern.source = m.pattern ∧
      d.location = m.location ∧ reg.shapes? m.handler = some d.handler.shapes ∧
      (reg.afterAll later).shapes? m.handler = some d.handler.shapes

/-- A definition is found by its pattern where no pattern comes twice. -/
theorem find?_eq_some_of_mem (hnodup : reg.patterns.Nodup) {d : Definition W}
    (hd : d ∈ reg.definitions) :
    reg.definitions.find? (fun e => e.pattern.source = d.pattern.source) = some d := by
  cases hfind : reg.definitions.find? fun e => e.pattern.source = d.pattern.source with
  | none => exact absurd (List.mem_map_of_mem hd) (find?_eq_none_iff.mp hfind)
  | some e =>
    have hsource : e.pattern.source = d.pattern.source := by simpa using List.find?_some hfind
    rw [List.inj_on_of_nodup_map hnodup (List.mem_of_find?_eq_some hfind) hd hsource]

/-- **The history of a registry that was empty at first.** -/
theorem history_of_operations (os : List (Operation W)) : History os (afterAll {} os) := by
  obtain ⟨ds, hds, hdefinitions⟩ := definitions_afterAll {} os
  rw [List.nil_append] at hdefinitions
  subst hdefinitions
  have hnodup : (afterAll ({} : Registry W) os).patterns.Nodup :=
    nodup_patterns_afterAll (by simp [Registry.patterns]) os
  have hmem (d : Definition W) : d ∈ (afterAll {} os).definitions ↔
      ∃ s ∈ registered {} os, s.definition? = some d := by
    rw [← List.mem_map, hds, List.mem_map]
    simp
  refine ⟨hnodup, ?patterns, hds, ?refused, ?unchanged, ?kept⟩
  case patterns => exact Registration.map_source_of_map_definition? hds
  case refused =>
    intro o fault
    have hresult : (o.program.on (afterAll {} os)).1 = .error fault ↔
        o.program.on (afterAll {} os) = (.error fault, afterAll {} os) := by
      rw [o.program_on]
      split <;> simp
    rw [hresult, Operation.on_eq_error_iff, and_iff_right rfl]
    apply or_congr_left
    constructor
    · rintro ⟨d, hfind, rfl⟩
      obtain ⟨s, hs, hd⟩ := (hmem d).mp (List.mem_of_find?_eq_some hfind)
      obtain ⟨hpattern, hlocation⟩ := Registration.of_definition? hd
      have hsource : d.pattern.source = o.step.pattern := by simpa using List.find?_some hfind
      exact ⟨s, hs, hpattern.symm.trans hsource, by rw [hlocation]⟩
    · rintro ⟨s, hs, hpattern, rfl⟩
      obtain ⟨d, hd⟩ : ∃ d, s.definition? = some d := by
        have hsome := List.mem_map_of_mem (f := Registration.definition?) hs
        rw [hds] at hsome
        obtain ⟨d, -, hd⟩ := List.mem_map.mp hsome
        exact ⟨d, hd.symm⟩
      obtain ⟨hsource, hlocation⟩ := Registration.of_definition? hd
      refine ⟨d, ?_, by rw [hlocation]⟩
      rw [← hpattern, ← hsource]
      exact find?_eq_some_of_mem hnodup ((hmem d).mpr ⟨s, hs, hd⟩)
  case unchanged =>
    intro o fault herror
    rw [o.program_on] at herror ⊢
    split at herror
    next => exact absurd herror (by simp)
    next => rfl
  case kept =>
    intro later text m hfind
    obtain ⟨d, hd, hpattern, hlocation, -⟩ := (find_eq_ok_iff.mp hfind).definition
    obtain ⟨more, -, hmore⟩ := definitions_afterAll (afterAll {} os) later
    have hkept : ((afterAll {} os).afterAll later).definitions[m.handler]? = some d := by
      rw [hmore, List.getElem?_append_left (List.getElem?_eq_some_iff.mp hd).1]
      exact hd
    refine ⟨d, hkept, hpattern.symm, hlocation.symm, ?_, ?_⟩
    · unfold shapes?
      rw [hd]
      rfl
    · unfold shapes?
      rw [hkept]
      rfl

end Registry

end Gherkin
