import Gherkin.Proofs.Feature.Becomes
import Gherkin.Proofs.Feature.ByRole
import Gherkin.Proofs.Feature.Relabelling

/-!
# The same at other lines

Two readings, or what becomes of them, may be the same but for where the lines stand. A
`Renumbering` says what the numbers of the lines in the one become in the other. `SameVerdict` says
that both come to the same, and of what is listed that every line that stays is listed with the same
text and the same remark.

Readings that are the same at other lines stay so when the same lines are read
(`Reading.Moved.takeLines`), and come to the same end (`Reading.Moved.finish`).
-/

namespace Gherkin

/-- What becomes of the numbers of lines when lines are put in and taken out. -/
structure Renumbering where
  /-- The new number of a line, unless it goes. -/
  line? : Nat → Option Nat
  /-- There is no line 0, neither before nor after. -/
  zero : line? 0 = some 0

namespace Renumbering

/-- All lines stay where they are. -/
def refl : Renumbering := ⟨some, rfl⟩

/-- One after the other. -/
def trans (ρ σ : Renumbering) : Renumbering where
  line? n := (ρ.line? n).bind σ.line?
  zero := by
    rw [ρ.zero]
    exact σ.zero

/-- A line is put in after the first `i`. -/
def inserted (i : Nat) : Renumbering where
  line? n := some (if n ≤ i then n else n + 1)
  zero := congrArg some (if_pos i.zero_le)

/-- The line after the first `i` is taken out. -/
def deleted (i : Nat) : Renumbering where
  line? n := if n ≤ i then some n else if n = i + 1 then none else some (n - 1)
  zero := if_pos i.zero_le

/-- The new number of a line. One that goes has none, that is 0. -/
def line (ρ : Renumbering) (n : Nat) : Nat := (ρ.line? n).getD 0

/-- Lines have new numbers, and definitions stay. -/
def relabelling (ρ : Renumbering) : Relabelling where
  line := ρ.line
  zero := by
    unfold line
    rw [ρ.zero]
    rfl

/-- What is found does not depend on lines. -/
theorem fits {W : Type} (ρ : Renumbering) (reg : Registry W) : ρ.relabelling.Fits reg reg where
  find text := by
    have hid : (fun m : Match => m.rename ρ.relabelling.position) = id := rfl
    rw [hid]
    cases reg.find text <;> rfl
  shapes? _ := rfl

theorem line_trans (ρ σ : Renumbering) : σ.line ∘ ρ.line = (ρ.trans σ).line := by
  funext n
  rw [Function.comp_apply]
  unfold line trans
  dsimp only
  cases ρ.line? n with
  | some m => rfl
  | none => exact σ.relabelling.zero

/-- The lines before one that is put in stay where they are. -/
theorem line_inserted_of_le {i n : Nat} (h : n ≤ i) : (inserted i).line n = n := if_pos h

theorem line_inserted_of_lt {i n : Nat} (h : i < n) : (inserted i).line n = n + 1 :=
  if_neg (Nat.not_le.mpr h)

/-- The line that is put in takes no other's place. -/
theorem line?_inserted_ne (i n : Nat) : (inserted i).line? n ≠ some (1 + i) := by
  intro h
  have hline : (if n ≤ i then n else n + 1) = 1 + i := Option.some.inj h
  split at hline <;> omega

/-- A line that is put in can be taken out again. -/
theorem line?_deleted_iff {i n m : Nat} :
    (deleted i).line? m = some n ↔ (inserted i).line? n = some m := by
  unfold deleted inserted
  dsimp only
  constructor
  · intro h
    split at h
    next hle =>
      obtain rfl := Option.some.inj h
      rw [if_pos hle]
    next hlt =>
      split at h
      next => exact absurd h (by simp)
      next hne =>
        obtain rfl := Option.some.inj h
        rw [if_neg (by omega), Nat.sub_add_cancel (by omega)]
  · intro h
    obtain rfl := Option.some.inj h
    by_cases hle : n ≤ i
    · rw [if_pos hle, if_pos hle]
    · rw [if_neg hle, if_neg (by omega), if_neg (by omega), Nat.add_sub_cancel]

theorem line_deleted_inserted (i : Nat) : (deleted i).line ∘ (inserted i).line = id := by
  funext n
  rw [Function.comp_apply]
  have h : (deleted i).line? ((inserted i).line n) = some n := line?_deleted_iff.mpr rfl
  unfold line at h ⊢
  rw [h]
  rfl

/-- All lines stay, and stay in order. -/
structure Keeps (ρ : Renumbering) : Prop where
  line? : ∀ n, ρ.line? n = some (ρ.line n)
  mono : StrictMono ρ.line

theorem keeps_refl : refl.Keeps := ⟨fun _ => rfl, strictMono_id⟩

theorem keeps_inserted (i : Nat) : (inserted i).Keeps where
  line? _ := rfl
  mono := by
    intro n m hlt
    show (if n ≤ i then n else n + 1) < if m ≤ i then m else m + 1
    split <;> split <;> omega

/-- Lines that stay are told apart by their new numbers. -/
theorem Keeps.eq_iff {ρ : Renumbering} (h : ρ.Keeps) {n n' : Nat} (hn : ρ.line? n = some n')
    (k : Nat) : ρ.line k = n' ↔ k = n := by
  obtain rfl : ρ.line n = n' := Option.some.inj ((h.line? n).symm.trans hn)
  exact h.mono.injective.eq_iff

end Renumbering

/-- The feature with its lines at other places. -/
def Feature.renumber (ρ : Renumbering) (f : Feature) : Feature := f.relabel ρ.relabelling

theorem Feature.renumber_renumber (ρ σ : Renumbering) (f : Feature) :
    (f.renumber ρ).renumber σ = f.renumber (ρ.trans σ) :=
  relabel_relabel (ρ.line_trans σ) rfl f

/-- A line that is put in and taken out again leaves the feature as it was. -/
theorem Feature.renumber_inserted_deleted (i : Nat) (f : Feature) :
    (f.renumber (.inserted i)).renumber (.deleted i) = f := by
  rw [renumber_renumber]
  refine relabel_eq_self ?_ rfl f
  exact (Renumbering.line_trans _ _).symm.trans (Renumbering.line_deleted_inserted i)

/-- The fault, with other numbers for the lines it names. -/
def FeatureFault.move (ρ : Renumbering) (fault : FeatureFault) : FeatureFault :=
  fault.renumber ρ.line

/-! ## Listings -/

/-- What is listed of a line, but for where it stands. -/
def ListedLine.content (d : ListedLine) : Text × Option Remark := (d.text, d.remark)

/-- Every line that stays is listed in both, or in neither, with the same text and remark. -/
def Listing.Moved (ρ : Renumbering) (l l' : Listing) : Prop :=
  ∀ n n', ρ.line? n = some n' →
    (l'.line? n').map ListedLine.content = (l.line? n).map ListedLine.content

namespace Listing

variable {ρ σ : Renumbering} {l l' l'' : Listing} {d d' : ListedLine}

theorem line?_push_eq_or (l : Listing) (d : ListedLine) (n : Nat) :
    (l.push d).line? n = (l.line? n).or (if d.number = n then some d else none) := by
  unfold line?
  rw [lines_push, List.find?_append, List.find?_singleton]
  simp

/-- A remark on a line is found at that line. -/
theorem line?_annotate (l : Listing) (k : Nat) (remark : Remark) (n : Nat) :
    (l.annotate k remark).line? n
      = if k = n then (l.line? n).map fun d => { d with remark := some remark } else l.line? n := by
  unfold line? annotate
  dsimp only
  induction l.lines with
  | nil => simp [annotateLines]
  | cons d rest ih =>
    rw [annotateLines]
    by_cases hk : d.number = k
    · rw [if_pos hk, List.find?_cons, List.find?_cons]
      by_cases hn : d.number = n
      · simp [hn, hk.symm.trans hn]
      · have hkn : k ≠ n := fun h => hn (hk.trans h)
        simp [hn, hkn]
    · rw [if_neg hk, List.find?_cons, List.find?_cons]
      by_cases hn : d.number = n
      · have hkn : k ≠ n := fun h => hk (hn.trans h.symm)
        simp [hn, hkn]
      · simp only [hn, decide_false]
        exact ih

namespace Moved

theorem refl (l : Listing) : Moved .refl l l := by
  intro n n' hn
  rw [Option.some.inj hn]

theorem trans (h : Moved ρ l l') (h' : Moved σ l' l'') : Moved (ρ.trans σ) l l'' := by
  intro n n'' hn
  obtain ⟨n', hn, hn'⟩ := Option.bind_eq_some_iff.mp hn
  exact (h' n' n'' hn').trans (h n n' hn)

/-- The other way round, if the lines that come back are the lines that went. -/
theorem symm (h : Moved ρ l l') (hinverse : ∀ n n', σ.line? n' = some n → ρ.line? n = some n') :
    Moved σ l' l := fun n' n hn => (h n n' (hinverse n n' hn)).symm

/-- The same line is listed in both. -/
theorem push (hρ : ρ.Keeps) (h : Moved ρ l l') (hnumber : d'.number = ρ.line d.number)
    (hcontent : d'.content = d.content) : Moved ρ (l.push d) (l'.push d') := by
  intro n n' hn
  rw [line?_push_eq_or, line?_push_eq_or, Option.map_or, Option.map_or, h n n' hn, hnumber]
  congr 1
  by_cases hd : d.number = n
  · rw [if_pos hd, if_pos ((hρ.eq_iff hn _).mpr hd)]
    exact congrArg some hcontent
  · rw [if_neg hd, if_neg fun hd' => hd ((hρ.eq_iff hn _).mp hd')]

/-- A line that takes no other's place is listed in one only. -/
theorem push_right (h : Moved ρ l l') (hnumber : ∀ n, ρ.line? n ≠ some d'.number) :
    Moved ρ l (l'.push d') := by
  intro n n' hn
  have hne : d'.number ≠ n' := fun hd => hnumber n (hn.trans (congrArg some hd.symm))
  rw [line?_push_eq_or, if_neg hne, Option.or_none]
  exact h n n' hn

/-- The same remark is put on a line in both. -/
theorem annotate (hρ : ρ.Keeps) (h : Moved ρ l l') (k : Nat) (remark : Remark) :
    Moved ρ (l.annotate k remark) (l'.annotate (ρ.line k) remark) := by
  intro n n' hn
  have hline := h n n' hn
  rw [line?_annotate, line?_annotate]
  by_cases hk : k = n
  · rw [if_pos hk, if_pos ((hρ.eq_iff hn k).mpr hk), Option.map_map, Option.map_map]
    have hnoted : (ListedLine.content ∘ fun d => { d with remark := some remark })
        = (fun c => (c.1, some remark)) ∘ ListedLine.content := rfl
    rw [hnoted, ← Option.map_map, ← Option.map_map, hline]
  · rw [if_neg hk, if_neg fun hk' => hk ((hρ.eq_iff hn k).mp hk')]
    exact hline

/-- The faults of handlers are put on their lines in both. -/
theorem foldl_annotate (hρ : ρ.Keeps) (h : Moved ρ l l') (faults : List (Nat × ArityFault)) :
    Moved ρ
      (faults.foldl (fun l fault => l.annotate fault.1 (.failed fault.2.message)) l)
      ((faults.map (Prod.map ρ.line id)).foldl
        (fun l fault => l.annotate fault.1 (.failed fault.2.message)) l') := by
  induction faults generalizing l l' with
  | nil => exact h
  | cons fault faults ih => exact ih (h.annotate hρ fault.1 _)

end Moved

end Listing

/-! ## Verdicts -/

/-- The rejections are the same but for where lines stand. -/
structure Rejection.Moved (ρ : Renumbering) (e e' : Rejection) : Prop where
  fault : e'.fault = e.fault.move ρ
  listing : e.listing.Moved ρ e'.listing

/-- The features are the same but for where lines stand, and but for what is listed of lines that
are put in or taken out, and of indentations. -/
structure Feature.Moved (ρ : Renumbering) (f f' : Feature) : Prop where
  same : f' = { f.renumber ρ with listing := f'.listing }
  listing : f.listing.Moved ρ f'.listing

/-- The readings are the same but for where lines stand, as features are. -/
structure Reading.Moved (ρ : Renumbering) (r r' : Reading) : Prop where
  same : r' = { r.relabel ρ.relabelling with listing := r'.listing }
  listing : r.listing.Moved ρ r'.listing

/-- Both come to the same, or are rejected for the same. -/
inductive SameVerdict {α : Type} (ρ : Renumbering) (Same : α → α → Prop) :
    Except Rejection α → Except Rejection α → Prop
  | accepted {a a' : α} (h : Same a a') : SameVerdict ρ Same (.ok a) (.ok a')
  | rejected {e e' : Rejection} (h : e.Moved ρ e') : SameVerdict ρ Same (.error e) (.error e')

namespace Rejection.Moved

variable {ρ σ : Renumbering} {e e' e'' : Rejection}

theorem refl (e : Rejection) : e.Moved .refl e := ⟨e.fault.renumber_id.symm, .refl _⟩

theorem trans (h : e.Moved ρ e') (h' : e'.Moved σ e'') : e.Moved (ρ.trans σ) e'' where
  fault := by
    rw [h'.fault, h.fault]
    unfold FeatureFault.move
    rw [FeatureFault.renumber_renumber, ρ.line_trans σ]
  listing := h.listing.trans h'.listing

/-- A line that is put in, and the rejection without it. -/
theorem deleted {i : Nat} (h : e.Moved (.inserted i) e') : e'.Moved (.deleted i) e where
  fault := by
    rw [h.fault]
    unfold FeatureFault.move
    rw [FeatureFault.renumber_renumber, Renumbering.line_deleted_inserted,
      FeatureFault.renumber_id]
  listing := h.listing.symm fun _ _ => Renumbering.line?_deleted_iff.mp

end Rejection.Moved

namespace Feature.Moved

variable {ρ σ : Renumbering} {f f' f'' : Feature}

theorem trans (h : f.Moved ρ f') (h' : f'.Moved σ f'') : f.Moved (ρ.trans σ) f'' where
  same := by
    have hsame : f'.renumber σ = { (f.renumber ρ).renumber σ with listing := f'.listing } := by
      rw [h.same]
      rfl
    have hsame' := h'.same
    rw [hsame, renumber_renumber] at hsame'
    exact hsame'
  listing := h.listing.trans h'.listing

theorem refl (f : Feature) : f.Moved .refl f where
  same := by
    have hsame : f.renumber .refl = f := relabel_eq_self rfl rfl f
    rw [hsame]
  listing := .refl _

/-- A line that is put in, and the feature without it. -/
theorem deleted {i : Nat} (h : f.Moved (.inserted i) f') : f'.Moved (.deleted i) f where
  same := by
    have hsame : f'.renumber (.deleted i)
        = { (f.renumber (.inserted i)).renumber (.deleted i) with listing := f'.listing } := by
      rw [h.same]
      rfl
    rw [hsame, renumber_inserted_deleted]
  listing := h.listing.symm fun _ _ => Renumbering.line?_deleted_iff.mp

end Feature.Moved

namespace SameVerdict

variable {α β : Type} {ρ σ : Renumbering} {Same : α → α → Prop} {x x' x'' : Except Rejection α}

theorem trans {Same' Same'' : α → α → Prop}
    (htrans : ∀ a a' a'', Same a a' → Same' a' a'' → Same'' a a'') (h : SameVerdict ρ Same x x')
    (h' : SameVerdict σ Same' x' x'') : SameVerdict (ρ.trans σ) Same'' x x'' := by
  cases h with
  | accepted h =>
    cases h' with
    | accepted h' => exact .accepted (htrans _ _ _ h h')
  | rejected h =>
    cases h' with
    | rejected h' => exact .rejected (h.trans h')

theorem refl (x : Except Rejection Feature) : SameVerdict .refl (Feature.Moved .refl) x x := by
  cases x with
  | ok f => exact .accepted (.refl f)
  | error e => exact .rejected (.refl e)

/-- A line that is put in, and the verdict without it. -/
theorem deleted {i : Nat} {x x' : Except Rejection Feature}
    (h : SameVerdict (.inserted i) (Feature.Moved (.inserted i)) x x') :
    SameVerdict (.deleted i) (Feature.Moved (.deleted i)) x' x := by
  cases h with
  | accepted h => exact .accepted h.deleted
  | rejected h => exact .rejected h.deleted

/-- What is the same, and goes on to the same, comes to the same. -/
theorem bind {Same' : β → β → Prop} {f f' : α → Except Rejection β} (h : SameVerdict ρ Same x x')
    (hf : ∀ a a', Same a a' → SameVerdict ρ Same' (f a) (f' a')) :
    SameVerdict ρ Same' (x >>= f) (x' >>= f') := by
  cases h with
  | accepted h => exact hf _ _ h
  | rejected h => exact .rejected h

end SameVerdict

namespace Reading

variable {W : Type} {reg : Registry W} {ρ : Renumbering} {r r' r₁ : Reading} {n n' : Nat}
  {raw raw' : Text} {lines : List Text} {remark : Option Remark} {fault : FeatureFault}

theorem close_withListing (r : Reading) (listing : Listing) :
    ({ r with listing } : Reading).close = { r.close with listing } := by
  unfold close
  dsimp only
  rw [endDocString_withListing]
  split
  next => exact endBackground_withListing r.endDocString listing
  next => exact endBackground_withListing r listing

namespace Moved

/-- Nothing has been read yet. -/
theorem initial (ρ : Renumbering) : Moved ρ {} {} := ⟨rfl, fun _ _ _ => rfl⟩

theorem refl (r : Reading) : Moved .refl r r where
  same := by rw [relabel_eq_self rfl rfl]
  listing := .refl _

/-- The line is listed in both. White space around it does not matter. -/
theorem list (hρ : ρ.Keeps) (h : Moved ρ r r') (htrim : Text.trim raw' = Text.trim raw) :
    Moved ρ (r.list n raw remark) (r'.list (ρ.line n) raw' remark) where
  same := by
    rw [h.same]
    rfl
  listing := h.listing.push hρ rfl (congrArg (·, remark) htrim)

/-- A line that takes no other's place is listed in one only. -/
theorem list_right (h : Moved ρ r r') (hnumber : ∀ k, ρ.line? k ≠ some n) :
    Moved ρ r (r'.list n raw remark) where
  same := by
    rw [h.same]
    rfl
  listing := h.listing.push_right hnumber

/-- What reads a line reads it at another place. -/
theorem reads (h : Moved ρ r r') (hread : Reads reg n raw r r₁ remark) :
    ∃ r₁', Reads reg (ρ.line n) raw r' r₁' remark ∧ Moved ρ r₁ r₁' := by
  have hread' := (hread.relabel (ρ.fits reg)).withListing r'.listing
  rw [← h.same] at hread'
  refine ⟨_, hread', rfl, ?_⟩
  rw [(tells_reads hread).listing]
  exact h.listing

/-- What does not read a line does not read it at another place. -/
theorem faults (h : Moved ρ r r') (hfaults : Faults n raw r fault) :
    Faults (ρ.line n) raw r' (fault.move ρ) := by
  rw [h.same]
  exact hfaults.congr ρ.line rfl Option.isSome_map rfl

/-- **A line is read at another place as it is at the one.** -/
theorem take (hρ : ρ.Keeps) (h : Moved ρ r r') (reg : Registry W) (n : Nat) (raw : Text) :
    SameVerdict ρ (Moved ρ) (r.take reg n raw) (r'.take reg (ρ.line n) raw) := by
  cases htake : r.take reg n raw with
  | ok r₂ =>
    obtain ⟨r₁, remark, hread, rfl⟩ := take_eq_ok_iff.mp htake
    obtain ⟨r₁', hread', hmoved⟩ := h.reads hread
    rw [take_eq_ok_iff.mpr ⟨r₁', remark, hread', rfl⟩]
    exact .accepted (hmoved.list hρ rfl)
  | error e =>
    obtain ⟨fault, hfaults, rfl⟩ := take_eq_error_iff.mp htake
    have hfaults' := h.faults hfaults
    rw [take_eq_error_iff.mpr ⟨_, hfaults', rfl⟩]
    have hmessage : (fault.move ρ).message = fault.message := hfaults.message_renumber ρ.line
    refine .rejected ⟨rfl, ?_⟩
    rw [hmessage]
    exact (h.list hρ rfl).listing

/-- **Lines are read at other places as at the one**, if they stand one after another there, too. -/
theorem takeLines (hρ : ρ.Keeps) (h : Moved ρ r r') (reg : Registry W)
    (hline : ∀ j < lines.length, ρ.line (n + j) = n' + j) :
    SameVerdict ρ (Moved ρ) (takeLines reg r n lines) (takeLines reg r' n' lines) := by
  induction lines generalizing r r' n n' with
  | nil => exact .accepted h
  | cons raw rest ih =>
    obtain rfl : ρ.line n = n' := hline 0 (Nat.succ_pos _)
    refine (h.take hρ reg n raw).bind fun r₁ r₁' h₁ => ih h₁ fun j hj => ?_
    have hnext := hline (j + 1) (Nat.succ_lt_succ hj)
    rwa [Nat.add_comm j 1, ← Nat.add_assoc, ← Nat.add_assoc] at hnext

/-- **Readings that are the same at other lines come to the same end.** -/
theorem finish (hρ : ρ.Keeps) (h : Moved ρ r r') (reg : Registry W) :
    SameVerdict ρ (Feature.Moved ρ) (r.finish reg) (r'.finish reg) := by
  have hclose : r'.close = { r.close.relabel ρ.relabelling with listing := r'.listing } := by
    rw [h.same, close_withListing, close_relabel]
  have hverdict : r'.close.verdict? reg = (r.close.verdict? reg).map (FeatureFault.move ρ) := by
    rw [hclose]
    exact verdict?_relabel (ρ.fits reg) hρ.mono r.close
  have hlisting : (r.close.annotated reg).Moved ρ (r'.close.annotated reg) := by
    have hclosed : r.close.listing.Moved ρ r'.listing := by
      rw [listing_close]
      exact h.listing
    have hfaults : arityFaults reg r'.close.stepsRead
        = (arityFaults reg r.close.stepsRead).map (Prod.map ρ.line id) := by
      rw [hclose]
      show arityFaults reg (r.close.relabel ρ.relabelling).stepsRead = _
      rw [stepsRead_relabel, arityFaults_relabel (ρ.fits reg)]
      rfl
    unfold annotated
    rw [hfaults, hclose]
    exact hclosed.foldl_annotate hρ _
  rw [finish_eq_verdict, finish_eq_verdict, hverdict]
  cases r.close.verdict? reg with
  | some fault => exact .rejected ⟨rfl, hlisting⟩
  | none =>
    refine .accepted ⟨?_, hlisting⟩
    rw [hclose]
    rfl

end Moved

end Reading

end Gherkin
