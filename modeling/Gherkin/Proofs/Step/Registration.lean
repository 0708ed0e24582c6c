import Gherkin.Proofs.Step.Lookup
import Mathlib.Data.List.Perm.Basic

/-!
# What it takes to register steps

A step is registered if its pattern can be read and is not there yet, and then it comes last
(`register_eq_ok_iff`). For steps one after another this comes to a condition that does not speak
of their order any more: all patterns can be read, and no two are the same
(`registerAll_eq_ok_iff`). So steps that can be registered in one order can be registered in any
(`exists_registerAll_of_perm`).
-/

namespace Gherkin

/-- A step as it is handed in for registration. -/
structure Registration (W : Type) where
  pattern : Text
  location : Location
  handler : Handler W

/-- The definition that is registered, if the pattern can be read. -/
def Registration.definition? {W : Type} (s : Registration W) : Option (Definition W) :=
  (Pattern.ofText? s.pattern).map fun p =>
    { pattern := p, location := s.location, handler := s.handler }

/-- A pattern keeps the text that it was read from. -/
theorem Pattern.source_of_ofText? {source : Text} {p : Pattern}
    (h : Pattern.ofText? source = some p) : p.source = source := by
  unfold Pattern.ofText? at h
  obtain ⟨n, -, rfl⟩ := Option.map_eq_some_iff.mp h
  rfl

/-- A definition has the pattern and the location of the step that it was made of. -/
theorem Registration.of_definition? {W : Type} {s : Registration W} {d : Definition W}
    (h : s.definition? = some d) : d.pattern.source = s.pattern ∧ d.location = s.location := by
  obtain ⟨p, hp, rfl⟩ := Option.map_eq_some_iff.mp h
  exact ⟨Pattern.source_of_ofText? hp, rfl⟩

namespace Sample

/-- A step to register whose handler does nothing. -/
def registration (pattern : Text) (line : Nat) : Registration Unit :=
  { pattern
    location := { path := "steps.rs".toList, line, column := 1 }
    handler :=
      { params := []
        run := fun _ _ => { world := (), logs := [], errors := [], ending := .finished } } }

/-- A step for every text. -/
def everyText : Registration Unit := registration [] 1

/-- A step for the empty text. -/
def emptyText : Registration Unit := registration "^$".toList 2

end Sample

namespace Registry

variable {W : Type} {reg reg' : Registry W}

/-- No definition has the pattern if it is none of the registered ones. -/
theorem find?_eq_none_iff {pattern : Text} :
    reg.definitions.find? (fun e => e.pattern.source = pattern) = none ↔
      pattern ∉ reg.patterns := by
  rw [List.find?_eq_none, patterns, List.mem_map, not_exists]
  simp only [decide_eq_true_eq, not_and]

/-- **A step is registered if and only if its pattern is new and can be read**, and comes last. -/
theorem register_eq_ok_iff {pattern : Text} {location : Location} {handler : Handler W} :
    reg.register pattern location handler = .ok reg' ↔
      pattern ∉ reg.patterns ∧ ∃ p, Pattern.ofText? pattern = some p ∧
        reg'.definitions = reg.definitions ++ [{ pattern := p, location, handler }] := by
  constructor
  · intro h
    refine ⟨?_, definitions_of_register h |>.imp fun p hp => ⟨hp.1, hp.2⟩⟩
    rw [← find?_eq_none_iff]
    unfold register at h
    cases hfind : reg.definitions.find? fun e => e.pattern.source = pattern with
    | none => rfl
    | some e =>
      rw [hfind] at h
      exact absurd h (by simp)
  · rintro ⟨hpattern, p, hp, hdefinitions⟩
    unfold register
    rw [find?_eq_none_iff.mpr hpattern, hp]
    dsimp only
    rw [← hdefinitions]

/-- A registration adds its pattern. -/
theorem patterns_of_register {pattern : Text} {location : Location} {handler : Handler W}
    (h : reg.register pattern location handler = .ok reg') :
    reg'.patterns = reg.patterns ++ [pattern] := by
  obtain ⟨-, p, hp, hdefinitions⟩ := register_eq_ok_iff.mp h
  unfold patterns
  rw [hdefinitions, List.map_append, List.map_singleton, Pattern.source_of_ofText? hp]

/-- Registers steps one after another, up to one that is refused. -/
def registerAll (reg : Registry W) : List (Registration W) → Except RegistrationFault (Registry W)
  | [] => .ok reg
  | s :: rest =>
    match reg.register s.pattern s.location s.handler with
    | .error fault => .error fault
    | .ok reg => reg.registerAll rest

theorem registerAll_cons_eq_ok_iff {s : Registration W} {rest : List (Registration W)} :
    reg.registerAll (s :: rest) = .ok reg' ↔
      ∃ reg₁, reg.register s.pattern s.location s.handler = .ok reg₁ ∧
        reg₁.registerAll rest = .ok reg' := by
  rw [registerAll]
  cases reg.register s.pattern s.location s.handler with
  | error fault => simp
  | ok reg₁ => simp

/-- **Steps can be registered if and only if their patterns can be read and are new**, each of
them also among themselves. Then they come last, in their order. -/
theorem registerAll_eq_ok_iff {steps : List (Registration W)} :
    reg.registerAll steps = .ok reg' ↔
      (steps.map (·.pattern)).Nodup ∧ (∀ s ∈ steps, s.pattern ∉ reg.patterns) ∧
        ∃ ds, List.Forall₂ (fun s d => s.definition? = some d) steps ds ∧
          reg'.definitions = reg.definitions ++ ds := by
  induction steps generalizing reg with
  | nil =>
    constructor
    · intro h
      obtain rfl := Except.ok.inj h
      exact ⟨List.nodup_nil, fun _ hs => absurd hs List.not_mem_nil, [], .nil,
        (List.append_nil _).symm⟩
    · rintro ⟨-, -, ds, hds, hdefinitions⟩
      cases hds
      rw [List.append_nil] at hdefinitions
      have hsame : reg' = reg := congrArg Registry.mk hdefinitions
      rw [hsame]
      rfl
  | cons s rest ih =>
    rw [registerAll_cons_eq_ok_iff, List.map_cons, List.nodup_cons, List.forall_mem_cons]
    constructor
    · rintro ⟨reg₁, hregister, hall⟩
      obtain ⟨hnew, p, hp, hreg₁⟩ := register_eq_ok_iff.mp hregister
      obtain ⟨hnodup, hrest, ds, hds, hreg'⟩ := ih.mp hall
      rw [patterns_of_register hregister] at hrest
      refine ⟨⟨?_, hnodup⟩, ⟨hnew, ?_⟩, _ :: ds, .cons (congrArg (Option.map _) hp) hds, ?_⟩
      · intro hmem
        obtain ⟨s', hs', heq⟩ := List.mem_map.mp hmem
        exact hrest s' hs' (heq ▸ List.mem_append_right _ (List.mem_singleton_self _))
      · intro s' hs' hmem
        exact hrest s' hs' (List.mem_append_left _ hmem)
      · rw [hreg', hreg₁, List.append_assoc]
        rfl
    · rintro ⟨⟨hnotin, hnodup⟩, ⟨hnew, hrest⟩, _, hds, hreg'⟩
      obtain _ | ⟨hd, hds⟩ := hds
      obtain ⟨p, hp, rfl⟩ := Option.map_eq_some_iff.mp hd
      have hregister : reg.register s.pattern s.location s.handler = .ok ⟨reg.definitions ++ [_]⟩ :=
        register_eq_ok_iff.mpr ⟨hnew, p, hp, rfl⟩
      refine ⟨_, hregister, ih.mpr ⟨hnodup, ?_, _, hds, ?_⟩⟩
      · rw [patterns_of_register hregister]
        intro s' hs' hmem
        rcases List.mem_append.mp hmem with hold | hfirst
        · exact hrest s' hs' hold
        · exact hnotin (List.mem_singleton.mp hfirst ▸ List.mem_map_of_mem hs')
      · rw [hreg', List.append_assoc]
        rfl

/-- **Steps that can be registered can be registered in any order**, and are the same then but for
the order. -/
theorem exists_registerAll_of_perm {steps steps' : List (Registration W)}
    (hperm : steps.Perm steps') (h : reg.registerAll steps = .ok reg') :
    ∃ reg'', reg.registerAll steps' = .ok reg'' ∧ reg'.definitions.Perm reg''.definitions := by
  obtain ⟨hnodup, hnew, ds, hds, hreg'⟩ := registerAll_eq_ok_iff.mp h
  obtain ⟨ds', hds', hpermDs⟩ := List.perm_comp_forall₂ hperm.symm hds
  refine ⟨{ definitions := reg.definitions ++ ds' },
    registerAll_eq_ok_iff.mpr ⟨?_, ?_, ds', hds', rfl⟩, ?_⟩
  · exact (hperm.map _).nodup_iff.mp hnodup
  · exact fun s hs => hnew s (hperm.mem_iff.mpr hs)
  · rw [hreg']
    exact hpermDs.symm.append_left reg.definitions

end Registry

end Gherkin
