import Gherkin.Proofs.Run.Reports
import Gherkin.Proofs.Feature.Acceptance
import Gherkin.Proofs.Step.Binding

/-!
# The steps of a run

Whatever the handlers do and whatever the options are, a run tells of a step only what came of that
step: it was skipped, or its handler was called with the step's own arguments in some context
(`ran_of_mem_run`). Which steps come, how often and in which order is not said here.

With that, what reading has checked of every step holds in every run. Reading counted the arguments
of each step when its doc string was there already, so no run finds a number of arguments that the
handler does not accept; all that is left to go wrong is an argument that is no integer
(`binds_of_read`).
-/

namespace Gherkin

namespace Course

variable {W : Type} {reg : Registry W}

/-- A step fails for the reason that its outcome gives. -/
theorem StepOutcome.status_eq_failed_iff {o : StepOutcome W} {e : Failure} :
    o.status = .failed e ↔ o.failure = some e := by
  unfold status
  cases o.failure with
  | none => simp
  | some e' => simp

/-- A handler that was called never fails for a reason of binding. -/
theorem failure?_ne_bind (reply : Reply W) (e : BindingFault) :
    failure? reply ≠ some (.bind e) := by
  unfold failure?
  cases reply.ending with
  | finished => by_cases herrors : reply.errors = [] <;> simp [herrors]
  | failed message => simp
  | panicked message => simp

/-- What a run may tell of a step. -/
inductive Ran (reg : Registry W) (s : Step) :
    StepResult → List Text → Option (Invocation W) → Prop
  | skipped : Ran reg s .skipped [] none
  | invoked (world : W) :
    Ran reg s (invoke reg s world).status (invoke reg s world).logs (invoke reg s world).invocation

/-- The report of every step is one that a run may tell of it. -/
theorem ran_of_mem_zip_reports {world : W} {failed : Bool} {steps : List Step}
    {p : Step × StepReport W} (h : p ∈ steps.zip (reports reg world failed steps)) :
    Ran reg p.1 p.2.status p.2.logs p.2.invocation := by
  induction steps generalizing world failed with
  | nil => exact absurd h List.not_mem_nil
  | cons s rest ih =>
    cases failed with
    | true =>
      rcases List.mem_cons.mp h with rfl | hrest
      · exact .skipped
      · exact ih hrest
    | false =>
      rcases List.mem_cons.mp h with rfl | hrest
      · exact .invoked world
      · exact ih hrest

/-- A block tells of its steps, and of each what came of it. -/
theorem ran_of_mem_runBlock {world : W} {b : Block} {s : Step} {background : Bool}
    {status : StepResult} {logs : List Text} {invocation : Option (Invocation W)}
    (h : .step s background status logs invocation ∈ (runBlock reg world b).events) :
    s ∈ b.background ++ b.steps ∧ Ran reg s status logs invocation := by
  rw [runBlock_eq] at h
  dsimp only at h
  rw [List.append_assoc, List.singleton_append, List.mem_cons, List.mem_append,
    List.mem_singleton] at h
  rcases h with hstarted | hstep | hfinished
  · cases hstarted
  · rw [← List.map_uncurry_zip_eq_zipWith] at hstep
    obtain ⟨⟨⟨background', s'⟩, r⟩, hp, hevent⟩ := List.mem_map.mp hstep
    obtain ⟨rfl, rfl, rfl, rfl, rfl⟩ := Event.step.inj hevent
    have hpair : (s', r) ∈ (b.background ++ b.steps).zip (b.reports reg world) := by
      rw [← b.map_snd_sequence, List.zip_map_left]
      exact List.mem_map_of_mem hp
    exact ⟨(List.of_mem_zip hpair).1, ran_of_mem_zip_reports hpair⟩
  · cases hfinished

end Course

namespace Feature

variable {W : Type} {reg : Registry W} {f : Feature}

/-- The blocks have the steps of the feature and no others. -/
theorem mem_steps_of_mem_blocks {b : Block} {s : Step} (hb : b ∈ f.blocks)
    (hs : s ∈ b.background ++ b.steps) : s ∈ f.steps := by
  unfold steps
  rcases List.mem_append.mp hs with hbackground | hsteps
  · refine List.mem_append_left _ ?_
    unfold blocks at hb
    rcases List.mem_append.mp hb with hleading | hscenario
    · split at hleading
      next => exact absurd hleading (by simp)
      -- the steps before the first scenario run without the background
      next =>
        rw [List.mem_singleton.mp hleading] at hbackground
        exact absurd hbackground (by simp)
    · obtain ⟨scenario, -, rfl⟩ := List.mem_map.mp hscenario
      exact hbackground
  · refine List.mem_append_right _ ?_
    rw [← f.steps_blocks]
    exact List.mem_flatMap.mpr ⟨b, hb, hsteps⟩

/-- **A run tells of the steps of the feature, and of each what came of it.** -/
theorem ran_of_mem_run {fresh : Nat → W} {o : Options} {contexts : Nat} {s : Step}
    {background : Bool} {status : StepResult} {logs : List Text}
    {invocation : Option (Invocation W)}
    (h : .step s background status logs invocation ∈ (Course.run reg fresh o contexts f).events) :
    s ∈ f.steps ∧ Course.Ran reg s status logs invocation := by
  obtain ⟨ran, hsub, -, hrun⟩ :=
    Course.exists_runBlocks_eq reg fresh o contexts f.blocks
  rw [Course.run_eq_runBlocks, hrun] at h
  rcases List.mem_cons.mp h with hstarted | hmem
  · cases hstarted
  · obtain ⟨outcome, houtcome, hevent⟩ := List.mem_flatMap.mp hmem
    obtain ⟨i, hi, rfl⟩ := List.mem_mapIdx.mp houtcome
    obtain ⟨hs, hran⟩ := Course.ran_of_mem_runBlock hevent
    exact ⟨mem_steps_of_mem_blocks (hsub.subset (List.getElem_mem hi)) hs, hran⟩

/-- The handler of every step of a feature that was read is there and accepts the number of its
arguments. -/
theorem Accepted.accepts {es : List Entry} (h : f.Accepted reg es) {s : Step} (hs : s ∈ f.steps) :
    ∃ d, reg.definitions[s.found.handler]? = some d ∧
      Arity.check s.text d.handler.shapes s.arguments.length = .ok () := by
  obtain ⟨d, hd⟩ := Registry.definition_of_find (h.found s hs)
  refine ⟨d, hd, ?_⟩
  have hnone := List.filterMap_eq_nil_iff.mp h.arity s hs
  have hshapes : reg.shapes? s.found.handler = some d.handler.shapes := by
    unfold Registry.shapes?
    rw [hd]
    rfl
  rw [hshapes] at hnone
  dsimp only at hnone
  split at hnone
  next hok => exact hok
  next => exact absurd hnone (by simp)

/-- **Whatever is run of a feature that was read, its steps bind by shape.** Every step has its
handler, and the number of its arguments is accepted. A handler that is called receives a value for
each parameter, and of an integer or a boolean from an argument of the step that is there. If none
is called, the step was skipped or has an argument that is no integer. -/
theorem binds_of_read {text : Text} (h : Feature.read reg text = .ok f) {fresh : Nat → W}
    {o : Options} {contexts : Nat} {s : Step} {background : Bool} {status : StepResult}
    {logs : List Text} {invocation : Option (Invocation W)}
    (hevent : .step s background status logs invocation
      ∈ (Course.run reg fresh o contexts f).events) :
    (∀ e, status ≠ .failed (.bind (.arity e))) ∧
    ∃ d, reg.definitions[s.found.handler]? = some d ∧
      (invocation = none → status = .skipped ∨ ∃ e, status = .failed (.bind e)) ∧
      (∀ e, status = .failed (.bind e) →
        ∃ c, e = .coercion c ∧ d.handler.Refuses s.text s.arguments c) ∧
      (∀ i, invocation = some i → d.handler.Enters s.arguments i.values) := by
  obtain ⟨hs, hran⟩ := ran_of_mem_run hevent
  obtain ⟨d, hd, haccepts⟩ := (accepted_of_read h).accepts hs
  have hbinds : (invocation = none → status = .skipped ∨ ∃ e, status = .failed (.bind e)) ∧
      (∀ e, status = .failed (.bind e) →
        ∃ c, e = .coercion c ∧ d.handler.Refuses s.text s.arguments c) ∧
      (∀ i, invocation = some i → d.handler.Enters s.arguments i.values) := by
    cases hran with
    | skipped => exact ⟨fun _ => Or.inl rfl, fun e he => absurd he (by simp), by simp⟩
    | invoked world =>
      simp only [Course.StepOutcome.status_eq_failed_iff]
      unfold Course.invoke
      rw [hd]
      dsimp only
      rcases Handler.bind_of_accepted haccepts with ⟨values, hbind, henters⟩ | ⟨c, hbind, hrefuses⟩
      · rw [hbind]
        refine ⟨fun hnone => absurd hnone (by simp), ?_, ?_⟩
        · intro e he
          exact absurd he (Course.failure?_ne_bind _ e)
        · intro i hi
          obtain rfl := Option.some.inj hi
          exact henters
      · rw [hbind]
        refine ⟨fun _ => Or.inr ⟨_, rfl⟩, ?_, fun i hi => absurd hi (by simp)⟩
        intro e he
        obtain rfl := Failure.bind.inj (Option.some.inj he)
        exact ⟨c, rfl, hrefuses⟩
  refine ⟨?_, d, hd, hbinds⟩
  intro e he
  obtain ⟨c, hc, -⟩ := hbinds.2.1 _ he
  exact absurd hc (by simp)

/-- A step of the sample has an argument that is no integer. Its handler has a parameter for a doc
string too, but that is not why it fails. -/
theorem binds_sample :
    ∃ f s logs, ∃ background status invocation,
      Feature.read Sample.registry Sample.text = .ok f ∧
      .step s background status logs invocation
        ∈ (Course.run Sample.registry (fun _ => ()) {} 0 f).events ∧
      s.line = 17 ∧ status.isFailed = true ∧
      ((∀ e, status ≠ .failed (.bind (.arity e))) ∧
        ∃ d, Sample.registry.definitions[s.found.handler]? = some d ∧
          (invocation = none → status = .skipped ∨ ∃ e, status = .failed (.bind e)) ∧
          (∀ e, status = .failed (.bind e) →
            ∃ c, e = .coercion c ∧ d.handler.Refuses s.text s.arguments c) ∧
          (∀ i, invocation = some i → d.handler.Enters s.arguments i.values)) := by
  have hrun : (match Feature.read Sample.registry Sample.text with
      | .error _ => false
      | .ok f =>
        (Course.run Sample.registry (fun _ => ()) {} 0 f).events.any fun
          | .step s _ status _ _ => s.line == 17 && status.isFailed
          | _ => false) = true := by decide +kernel
  split at hrun
  next => exact absurd hrun (by simp)
  next f hread =>
    obtain ⟨e, hmem, he⟩ := List.any_eq_true.mp hrun
    cases e with
    | step s background status logs invocation =>
      obtain ⟨hline, hfailed⟩ := Bool.and_eq_true_iff.mp he
      exact ⟨f, s, logs, background, status, invocation, hread, hmem, beq_iff_eq.mp hline, hfailed,
        binds_of_read hread hmem⟩
    | _ => exact absurd he (by simp)

end Feature

end Gherkin
