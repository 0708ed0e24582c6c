import Gherkin.Console.Report
import Gherkin.Proofs.Text.Composed

/-!
# The console shows a listing as its table

A listing is laid out twice. As a table it is joined from rows, and all remarks are treated alike.
The console writes it line by line and paints the remarks, and it indents what goes on below only
for what is wrong with a line, not for where a line was matched. Without colours both come to the
same, as long as no location goes on below, and a location does only if its path has a line feed.

* `Console.writes_listing_as_table` — what is written for a listing, wherever it is written, is its
  table.
-/

namespace Gherkin

/-- A location is shown in one row if its path is. -/
theorem Location.newline_not_mem_display {location : Location} (h : '\n' ∉ location.path) :
    '\n' ∉ location.display := by
  have hline := Text.not_mem_ofNat (c := '\n') rfl location.line
  have hcolumn := Text.not_mem_ofNat (c := '\n') rfl location.column
  unfold display
  simp [h, hline, hcolumn]

namespace Listing

/-- Whether every location that is remarked can be shown in one row. -/
def LocationsInRow (l : Listing) : Prop :=
  ∀ d ∈ l.lines, ∀ location, d.remark = some (.matched location) → '\n' ∉ location.path

/-- The table of a listing as a text of its own: ended by a line feed, unless there is none. -/
def ended (l : Listing) : Text := if l.lines = [] then [] else l.display ++ ['\n']

end Listing

namespace Console

variable {c : Console} {l : Listing}

/-- Without colours a line is written as it stands in the table. -/
theorem listedLine_eq_row (hplain : c.styles.painting = false) (width : Nat) {d : ListedLine}
    (h : ∀ location, d.remark = some (.matched location) → '\n' ∉ location.path) :
    c.listedLine width d = Listing.row width d := by
  unfold listedLine Listing.row
  cases hremark : d.remark with
  | none => rfl
  | some remark =>
    cases remark with
    | matched location =>
      -- only the table would indent further rows, and there are none
      have hrow : '\n' ∉ (Remark.matched location).display := by
        have hlocation := Location.newline_not_mem_display (h location hremark)
        simp [Remark.display, hlocation]
      dsimp only
      rw [Palette.paint_of_not_painting hplain, Text.replace_of_not_mem hrow]
    | failed message =>
      dsimp only
      rw [Palette.paint_of_not_painting hplain]
      rfl

/-- Without colours the lines of a listing are those of its table. -/
theorem unlines_listing (hplain : c.styles.painting = false) (h : l.LocationsInRow) :
    Text.unlines (c.listing l) = l.ended := by
  have hrows : c.listing l = l.lines.map (Listing.row l.width) :=
    List.map_congr_left fun d hd => listedLine_eq_row hplain l.width (h d hd)
  rw [hrows, Listing.ended]
  split
  next hnil => simp [hnil, Text.unlines]
  next hne => exact Text.unlines_eq_join (by simpa using hne)

/-- Events are written one after another. -/
theorem render_cons {W : Type} (c : Console) (event : Event W) (rest : List (Event W)) :
    c.render (event :: rest) = Text.unlines (c.event event) ++ c.render rest := by
  unfold render
  rw [List.flatMap_cons, Text.unlines_append]

/-- **Without colours a listing is written as its table**, ended by a line feed: for a feature that
was only checked; before the message for one that was rejected; and, if asked for, before a blank
line and the name of one that is run. -/
theorem writes_listing_as_table {W : Type} (hplain : c.styles.painting = false)
    (hlocations : l.LocationsInRow) (rest : List (Event W)) :
    (∀ f : Feature, f.listing = l →
      c.render (.linted f :: rest) = l.ended ++ c.render rest) ∧
    (∀ r : Rejection, r.listing = l →
      c.render (.parsingFailed r :: rest)
        = l.ended ++ ("Failed to parse: ".toList ++ r.message ++ ['\n']) ++ c.render rest) ∧
    (∀ f : Feature, f.listing = l → 2 ≤ c.verbosity →
      c.render (.started f :: rest)
        = l.ended ++ ['\n'] ++ Text.unlines (f.name.map ("Feature: ".toList ++ ·)).toList
          ++ c.render rest) := by
  have hlisting := unlines_listing hplain hlocations
  refine ⟨?linted, ?failed, ?started⟩
  case linted =>
    rintro f rfl
    rw [render_cons, event, hlisting]
  case failed =>
    rintro r rfl
    rw [render_cons, event, Text.unlines_append, hlisting, Palette.paint_of_not_painting hplain,
      Text.unlines, List.flatMap_singleton]
  case started =>
    rintro f rfl hverbosity
    have hverbose : c.verbosity > 1 := hverbosity
    rw [render_cons, event, if_pos hverbose]
    simp only [Palette.paint_of_not_painting hplain, Text.unlines_append, hlisting]
    rfl

/-- A remark of two rows is written under its own beginning, and all remarks in one column. -/
theorem writes_listing_as_table_sample :
    let matched : ListedLine :=
      { number := 1, indent := 0, text := "Given x".toList
        remark := some (.matched { path := "steps".toList, line := 7, column := 1 }) }
    let failed : ListedLine :=
      { number := 2, indent := 2, text := "When y".toList, remark := some (.failed "a\nb".toList) }
    let rejection : Rejection :=
      { fault := .strayConjunction 2, listing := { lines := [matched, failed] } }
    ({} : Console).render [(.parsingFailed rejection : Event Unit)]
      = "Given x   ✔ steps:7:1\n  When y  ✘ a\n            b\n".toList
        ++ ("Failed to parse: ".toList ++ rejection.message ++ ['\n']) := by
  intro matched failed rejection
  have hlocations : rejection.listing.LocationsInRow := by
    intro d hd location hremark
    rcases List.mem_cons.mp hd with rfl | hd
    · obtain rfl := Remark.matched.inj (Option.some.inj hremark)
      decide
    · obtain rfl := List.mem_singleton.mp hd
      exact absurd (Option.some.inj hremark) (by simp)
  have hended : rejection.listing.ended
      = "Given x   ✔ steps:7:1\n  When y  ✘ a\n            b\n".toList := by decide +kernel
  have hwritten :=
    (writes_listing_as_table (W := Unit) (c := {}) rfl hlocations []).2.1 rejection rfl
  rw [hwritten, hended]
  exact List.append_nil _

end Console

end Gherkin
