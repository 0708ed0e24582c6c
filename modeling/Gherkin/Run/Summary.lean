import Gherkin.Text.Basic

/-!
# What a run adds up to

A tally counts scenarios or steps by how they ended. A summary holds both tallies of a run together
with the number of features and of those that were rejected. Summaries of several features add up
part by part.
-/

namespace Gherkin

/-- Counts by how things ended. -/
structure Tally where
  passed : Nat := 0
  skipped : Nat := 0
  failed : Nat := 0
  deriving DecidableEq, Repr

namespace Tally

@[ext] theorem ext {a b : Tally} (hpassed : a.passed = b.passed)
    (hskipped : a.skipped = b.skipped) (hfailed : a.failed = b.failed) : a = b := by
  obtain ⟨p, s, f⟩ := a
  obtain ⟨p', s', f'⟩ := b
  obtain rfl : p = p' := hpassed
  obtain rfl : s = s' := hskipped
  obtain rfl : f = f' := hfailed
  rfl

/-- How many there are in all. -/
def total (t : Tally) : Nat := t.passed + t.skipped + t.failed

/-- The counts of both. -/
def add (a b : Tally) : Tally :=
  { passed := a.passed + b.passed
    skipped := a.skipped + b.skipped
    failed := a.failed + b.failed }

instance : Add Tally := ⟨add⟩

@[simp] theorem passed_add (a b : Tally) : (a + b).passed = a.passed + b.passed := rfl
@[simp] theorem skipped_add (a b : Tally) : (a + b).skipped = a.skipped + b.skipped := rfl
@[simp] theorem failed_add (a b : Tally) : (a + b).failed = a.failed + b.failed := rfl

end Tally

/-- What a run adds up to. -/
structure Summary where
  features : Nat := 0
  parsingErrors : Nat := 0
  scenarios : Tally := {}
  steps : Tally := {}
  deriving DecidableEq, Repr

namespace Summary

@[ext] theorem ext {a b : Summary} (hfeatures : a.features = b.features)
    (herrors : a.parsingErrors = b.parsingErrors) (hscenarios : a.scenarios = b.scenarios)
    (hsteps : a.steps = b.steps) : a = b := by
  obtain ⟨f, e, sc, st⟩ := a
  obtain ⟨f', e', sc', st'⟩ := b
  obtain rfl : f = f' := hfeatures
  obtain rfl : e = e' := herrors
  obtain rfl : sc = sc' := hscenarios
  obtain rfl : st = st' := hsteps
  rfl

/-- Whether every feature was read and no step failed. -/
def passed (s : Summary) : Bool := s.parsingErrors == 0 && s.steps.failed == 0

/-- Whether a feature was rejected or a step failed. -/
def failed (s : Summary) : Bool := !s.passed

/-- The sums of both summaries, part by part. -/
def add (a b : Summary) : Summary :=
  { features := a.features + b.features
    parsingErrors := a.parsingErrors + b.parsingErrors
    scenarios := a.scenarios + b.scenarios
    steps := a.steps + b.steps }

instance : Add Summary := ⟨add⟩

@[simp] theorem features_add (a b : Summary) : (a + b).features = a.features + b.features := rfl
@[simp] theorem parsingErrors_add (a b : Summary) :
    (a + b).parsingErrors = a.parsingErrors + b.parsingErrors := rfl
@[simp] theorem scenarios_add (a b : Summary) : (a + b).scenarios = a.scenarios + b.scenarios := rfl
@[simp] theorem steps_add (a b : Summary) : (a + b).steps = a.steps + b.steps := rfl

/-- The summary of one feature that was rejected. -/
def rejected : Summary := { features := 1, parsingErrors := 1 }

end Summary

end Gherkin
