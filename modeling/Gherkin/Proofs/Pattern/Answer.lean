import Gherkin.Proofs.Pattern.Ways

/-!
# The first way through parts in a row

A search leaves each part of a pattern in the first of its ways from which there is a way through
the rest (`answer_cons`). What the parts before have captured is kept in the function that is
applied to the captures in the end, so the answer of the rest is the same wherever the rest stands.

* `Node.answer_star` — a greedy repetition of one character takes all it can, if a way through the
  rest from an earlier place means that there is one from there.
* `Program.captures?_anchored` — a pattern that is bound to the start of the text captures what the
  first way from there does.
-/

namespace Gherkin.Pattern

theorem Ways.atMost_succ_greedy (w : Ways) (count i : Nat) :
    w.atMost true (count + 1) i = w.andThen (w.atMost true count) i ++ [(i, [])] := rfl

/-- Where there is no first round, there is none at all. -/
theorem Ways.atMost_of_nil {w : Ways} {i : Nat} (h : w i = []) (count : Nat) :
    w.atMost true count i = [(i, [])] := by
  cases count with
  | zero => rfl
  | succ count =>
    rw [atMost_succ_greedy, andThen, h]
    rfl

theorem Ways.rounds_one (w : Ways) : w.rounds 1 = w := nothing_andThen w

theorem Ways.andThen_nothing (a : Ways) : a.andThen nothing = a := by
  funext i
  simp [nothing, andThen]

namespace Node

section Answers

variable {α : Type} (t : Text)

theorem ways_sequence_cons (n : Node) (ns : List Node) :
    (sequence (n :: ns)).ways t = (n.ways t).andThen ((sequence ns).ways t) := by
  cases ns with
  | nil => exact (Ways.andThen_nothing _).symm
  | cons _ _ => rfl

theorem ways_sequence_append (ms ns : List Node) :
    (sequence (ms ++ ns)).ways t = ((sequence ms).ways t).andThen ((sequence ns).ways t) := by
  induction ms with
  | nil => exact (Ways.nothing_andThen _).symm
  | cons m ms ih =>
    rw [List.cons_append, ways_sequence_cons, ways_sequence_cons, ih, Ways.andThen_assoc]

/-- What is made of the captures of the first way through the parts, if there is a way. -/
def answer (ns : List Node) (f : List Capture → α) (i : Nat) : Option α :=
  ((sequence ns).ways t i).head?.map fun way => f way.2

variable (ns : List Node) (f : List Capture → α) (i : Nat)

/-- The first way through a row begins with the first way of its first part from which there is a
way through the rest. -/
theorem answer_eq_findSome? {n m : Node}
    (h : n.ways t = (m.ways t).andThen ((sequence ns).ways t)) :
    ((n.ways t i).head?.map fun way => f way.2)
      = (m.ways t i).findSome? fun first =>
          answer t ns (fun cs => f (first.2 ++ cs)) first.1 := by
  rw [h, Ways.andThen]
  induction m.ways t i with
  | nil => rfl
  | cons first rest ih =>
    rw [List.flatMap_cons, List.findSome?_cons, ← ih, answer, List.head?_append]
    cases (sequence ns).ways t first.1 <;> rfl

theorem answer_cons (n : Node) :
    answer t (n :: ns) f i = (n.ways t i).findSome? fun first =>
      answer t ns (fun cs => f (first.2 ++ cs)) first.1 :=
  answer_eq_findSome? t ns f i (ways_sequence_cons t n ns)

theorem answer_sequence_cons (ms : List Node) :
    answer t (sequence ms :: ns) f i = answer t (ms ++ ns) f i := by
  rw [answer_cons]
  exact (answer_eq_findSome? t ns f i (ways_sequence_append t ms ns)).symm

/-! ### One part after another -/

section One

variable {t i} {set : CharSet} {c : Char} {rest : Text}

theorem drop_succ_of_cons (h : t.drop i = c :: rest) : t.drop (i + 1) = rest := by
  rw [List.drop_add_one_eq_tail_drop, h, List.tail_cons]

theorem getElem?_of_nil (h : t.drop i = []) : t[i]? = none := by
  rw [← List.head?_drop, h, List.head?_nil]

theorem getElem?_of_cons (h : t.drop i = c :: rest) : t[i]? = some c := by
  rw [← List.head?_drop, h, List.head?_cons]

theorem ways_one_of_nil (h : t.drop i = []) : (one set).ways t i = [] := by
  simp [ways, getElem?_of_nil h]

theorem ways_one_of_cons (h : t.drop i = c :: rest) :
    (one set).ways t i = if set.contains c then [(i + 1, [])] else [] := by
  simp only [ways, getElem?_of_cons h, Option.any_some]

end One

theorem answer_one (set : CharSet) :
    answer t (one set :: ns) f i
      = if t[i]?.any set.contains then answer t ns f (i + 1) else none := by
  rw [answer_cons, ways]
  by_cases h : t[i]?.any set.contains = true <;> simp [h]

theorem answer_assertion (a : Assertion) :
    answer t (assertion a :: ns) f i
      = if a.holds (charBefore t i) t[i]? then answer t ns f i else none := by
  rw [answer_cons, ways]
  by_cases h : a.holds (charBefore t i) t[i]? = true <;> simp [h]

theorem answer_alt (a b : Node) :
    answer t (alt a b :: ns) f i
      = (answer t (a :: ns) f i).or (answer t (b :: ns) f i) := by
  rw [answer_cons, ways, List.findSome?_append, answer_cons, answer_cons]

/-- What a group captures comes after the captures in it. -/
theorem answer_group (k : Nat) (body : Node) :
    answer t (group k body :: ns) f i = (body.ways t i).findSome? fun first =>
      answer t ns
        (fun cs => f (first.2 ++ [{ group := k, start := i, stop := first.1 }] ++ cs)) first.1 := by
  rw [answer_cons, ways, List.findSome?_map]
  rfl

theorem answer_group_alt (k : Nat) (a b : Node) :
    answer t (group k (alt a b) :: ns) f i
      = (answer t (group k a :: ns) f i).or (answer t (group k b :: ns) f i) := by
  rw [answer_group, ways, List.findSome?_append, answer_group, answer_group]

/-- A part that may be left out is tried first. -/
theorem answer_optional (ms : List Node) :
    answer t (.iterate (sequence ms) 0 (some 1) true :: ns) f i
      = (answer t (ms ++ ns) f i).or (answer t ns f i) := by
  have hways : (Node.iterate (sequence ms) 0 (some 1) true).ways t i
      = (sequence ms).ways t i ++ [(i, [])] := by
    rw [ways, Ways.rounds, Ways.nothing_andThen]
    exact congrArg (· ++ _) (congrFun (Ways.andThen_nothing _) i)
  rw [answer_cons, hways, List.findSome?_append, ← answer_sequence_cons, answer_cons]
  exact congrArg _ List.findSome?_singleton

/-! ### Words -/

/-- The characters of a text, one after another. -/
def spelled (word : Text) : List Node := word.map fun c => one (.singleton c)

/-- There is a way through a word where the text goes on with the word. -/
theorem ways_spelled (word : Text) :
    (sequence (spelled word)).ways t i
      = ((Text.after? word (t.drop i)).map fun _ => (i + word.length, [])).toList := by
  induction word generalizing i with
  | nil => rfl
  | cons c word ih =>
    rw [spelled, List.map_cons, ways_sequence_cons, Ways.andThen]
    cases hdrop : t.drop i with
    | nil =>
      rw [ways_one_of_nil hdrop]
      rfl
    | cons d rest =>
      rw [ways_one_of_cons hdrop, Text.after?]
      by_cases hd : c = d
      · have hlater := ih (i + 1)
        rw [drop_succ_of_cons hdrop, Nat.add_right_comm] at hlater
        rw [if_pos ((CharSet.contains_singleton c d).mpr hd.symm), if_pos hd,
          List.flatMap_singleton]
        exact (List.map_id _).trans hlater
      · rw [if_neg ((CharSet.contains_singleton c d).not.mpr (Ne.symm hd)), if_neg hd]
        rfl

/-- What follows a word stands after it. -/
theorem drop_of_after? {t word rest : Text} {i : Nat}
    (h : Text.after? word (t.drop i) = some rest) : t.drop (i + word.length) = rest := by
  rw [← List.drop_drop, Text.eq_append_of_after? h, List.drop_left]

theorem answer_spelled (word : Text) :
    answer t (spelled word ++ ns) f i
      = (Text.after? word (t.drop i)).bind fun _ => answer t ns f (i + word.length) := by
  rw [← answer_sequence_cons, answer_cons, ways_spelled]
  cases Text.after? word (t.drop i) <;> simp

theorem answer_group_spelled (k : Nat) (word : Text) :
    answer t (group k (sequence (spelled word)) :: ns) f i
      = (Text.after? word (t.drop i)).bind fun _ =>
          answer t ns (fun cs => f ({ group := k, start := i, stop := i + word.length } :: cs))
            (i + word.length) := by
  rw [answer_group, ways_spelled]
  cases Text.after? word (t.drop i) <;> simp

/-! ### Greedy repetitions -/

/-- Where the characters of the set come to an end, from a position on. -/
def runEnd (set : CharSet) : Nat := i + ((t.drop i).takeWhile set.contains).length

theorem drop_runEnd (set : CharSet) :
    t.drop (runEnd t i set) = (t.drop i).dropWhile set.contains := by
  have hsplit := List.takeWhile_append_dropWhile (p := set.contains) (l := t.drop i)
  rw [runEnd, ← List.drop_drop]
  nth_rewrite 2 [← hsplit]
  exact List.drop_left

section Run

variable {t i} {set : CharSet} {c : Char} {rest : Text}

theorem runEnd_of_nil (h : t.drop i = []) : runEnd t i set = i := by
  rw [runEnd, h]
  rfl

theorem runEnd_of_pos (h : t.drop i = c :: rest) (hc : set.contains c = true) :
    runEnd t i set = runEnd t (i + 1) set := by
  rw [runEnd, runEnd, h, drop_succ_of_cons h, List.takeWhile_cons_of_pos hc, List.length_cons,
    Nat.add_assoc, Nat.add_comm 1]

theorem runEnd_of_neg (h : t.drop i = c :: rest) (hc : ¬ set.contains c = true) :
    runEnd t i set = i := by
  rw [runEnd, h, List.takeWhile_cons_of_neg hc]
  rfl

end Run

/-- A greedy repetition of one character first takes all it can, and then less and less. -/
theorem ways_star (set : CharSet) {count : Nat} (h : t.length ≤ i + count) :
    ∃ shorter : List (Nat × List Capture),
      ((one set).ways t).atMost true count i = (runEnd t i set, []) :: shorter ∧
      ∀ way ∈ shorter, way.2 = [] ∧ t[way.1]?.any set.contains = true := by
  induction count generalizing i with
  | zero =>
    rw [runEnd_of_nil (List.drop_eq_nil_of_le (Nat.add_zero i ▸ h))]
    exact ⟨[], rfl, nofun⟩
  | succ count ih =>
    cases hdrop : t.drop i with
    | nil =>
      rw [runEnd_of_nil hdrop]
      exact ⟨[], Ways.atMost_of_nil (ways_one_of_nil hdrop) _, nofun⟩
    | cons c rest =>
      have hone : (one set).ways t i = if set.contains c then [(i + 1, [])] else [] :=
        ways_one_of_cons hdrop
      by_cases hc : set.contains c = true
      · obtain ⟨shorter, heq, hshorter⟩ := ih (i + 1) (by omega)
        rw [if_pos hc] at hone
        have hlater : ((one set).ways t).andThen (((one set).ways t).atMost true count) i
            = ((one set).ways t).atMost true count (i + 1) := by
          rw [Ways.andThen, hone, List.flatMap_singleton]
          exact List.map_id _
        refine ⟨shorter ++ [(i, [])], ?_, ?_⟩
        · rw [Ways.atMost_succ_greedy, hlater, heq, runEnd_of_pos hdrop hc, List.cons_append]
        · intro way hway
          rcases List.mem_append.mp hway with hway | hway
          · exact hshorter way hway
          · obtain rfl := List.mem_singleton.mp hway
            exact ⟨rfl, by rw [getElem?_of_cons hdrop]; exact hc⟩
      · rw [if_neg hc] at hone
        rw [runEnd_of_neg hdrop hc]
        exact ⟨[], Ways.atMost_of_nil hone _, nofun⟩

/-- The repetition takes all it can, if a way through the rest from an earlier place means that
there is one from there too. -/
theorem answer_star (set : CharSet)
    (h : ∀ j, t[j]?.any set.contains = true → (answer t ns f j).isSome = true →
      (answer t ns f (runEnd t i set)).isSome = true) :
    answer t (.iterate (one set) 0 none true :: ns) f i = answer t ns f (runEnd t i set) := by
  obtain ⟨shorter, hways, hshorter⟩ := ways_star t i set (Nat.le_add_left t.length i)
  rw [answer_cons, ways, Ways.rounds, Ways.nothing_andThen, Option.map_none, Option.getD_none,
    hways, List.findSome?_cons]
  simp only [List.nil_append]
  cases hlongest : answer t ns f (runEnd t i set) with
  | some a => rfl
  | none =>
    refine List.findSome?_eq_none_iff.mpr fun way hway => ?_
    obtain ⟨hnothing, hchar⟩ := hshorter way hway
    rw [hlongest] at h
    rw [hnothing]
    exact Option.not_isSome_iff_eq_none.mp fun hsome => absurd (h way.1 hchar hsome) (by simp)

/-- A group captures all that the repetition in it can take, if there is a way from there. -/
theorem answer_group_star (k : Nat) (set : CharSet) {a : α}
    (h : answer t ns (fun cs => f (⟨k, i, runEnd t i set⟩ :: cs)) (runEnd t i set) = some a) :
    answer t (group k (.iterate (one set) 0 none true) :: ns) f i = some a := by
  obtain ⟨shorter, hways, -⟩ := ways_star t i set (Nat.le_add_left t.length i)
  rw [answer_group, ways, Ways.rounds, Ways.nothing_andThen, Option.map_none, Option.getD_none,
    hways, List.findSome?_cons]
  simp only [List.nil_append, List.cons_append, h]

/-- Once or more is once and then any number of times. -/
theorem answer_plus (body : Node) (greedy : Bool) :
    answer t (.iterate body 1 none greedy :: ns) f i
      = answer t (body :: .iterate body 0 none greedy :: ns) f i := by
  have hways : (Node.iterate body 1 none greedy).ways t
      = (sequence [body, .iterate body 0 none greedy]).ways t := by
    rw [ways_sequence_cons, sequence, ways, ways, Ways.rounds_one, Ways.rounds,
      Ways.nothing_andThen]
    rfl
  rw [answer_cons, hways, ← answer_cons, answer_sequence_cons]
  rfl

end Answers

end Node

/-- **A pattern that is bound to the start of the text captures what the first way from there
does.** -/
theorem Program.captures?_anchored {ns : List Node} {n : Node}
    (hn : n = .sequence (.assertion .textStart :: ns)) (hnumbered : n.Numbered)
    (hbounded : n.Bounded) (hsteady : n.steady = true) (t : Text) :
    (ofNode n).captures? t = Node.answer t ns (n.captureTexts t) 0 := by
  have hanswer (i : Nat) : ((n.ways t i).head?.map fun way => n.captureTexts t way.2)
      = if (charBefore t i).isNone then Node.answer t ns (n.captureTexts t) i else none := by
    have hstart := Node.answer_assertion t ns (n.captureTexts t) i .textStart
    rw [Node.answer, ← hn] at hstart
    exact hstart
  have hlater : ((List.range t.length).map Nat.succ).findSome?
      (Option.map (fun way => n.captureTexts t way.2) ∘ fun i => (n.ways t i).head?) = none := by
    refine List.findSome?_eq_none_iff.mpr fun i hi => ?_
    obtain ⟨k, hk, rfl⟩ := List.mem_map.mp hi
    have hlt := List.mem_range.mp hk
    have hbefore : charBefore t (k + 1) = some t[k] := List.getElem?_eq_getElem hlt
    refine (hanswer (k + 1)).trans (if_neg ?_)
    rw [hbefore]
    exact Bool.false_ne_true
  have hhere : (Option.map (fun way => n.captureTexts t way.2) ∘ fun i => (n.ways t i).head?) 0
      = Node.answer t ns (n.captureTexts t) 0 := (hanswer 0).trans (if_pos rfl)
  rw [captures?_ofNode hnumbered hbounded hsteady, List.map_findSome?, List.range_succ_eq_map,
    List.findSome?_cons, hhere, hlater]
  cases Node.answer t ns (n.captureTexts t) 0 <;> rfl

end Gherkin.Pattern
