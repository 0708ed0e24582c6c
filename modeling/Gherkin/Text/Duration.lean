import Gherkin.Text.Basic

/-!
# Durations in words

A duration is written as its parts from years down to milliseconds, those that are zero left out. A
year counts as 365.25 days and a month as 30.44 days. Years, months and days are counted in words,
the smaller units by their letters.
-/

namespace Gherkin.Duration

/-- How many milliseconds a second has, and so on for the larger units. -/
def second : Nat := 1000
def minute : Nat := 60 * second
def hour : Nat := 60 * minute
def day : Nat := 24 * hour
def month : Nat := 2630016 * second
def year : Nat := 31557600 * second

/-- A number of units in a word, which takes an `s` for more than one; nothing for none. -/
def counted (n : Nat) (word : String) : List Text :=
  if n = 0 then []
  else [Text.ofNat n ++ word.toList ++ if n = 1 then [] else ['s']]

/-- A number of units by their letters; nothing for none. -/
def lettered (n : Nat) (unit : String) : List Text :=
  if n = 0 then [] else [Text.ofNat n ++ unit.toList]

/-- A duration of so many milliseconds. -/
def display (milliseconds : Nat) : Text :=
  if milliseconds = 0 then "0s".toList
  else
    let inYear := milliseconds % year
    let inMonth := inYear % month
    let inDay := inMonth % day
    Text.join [' '] <|
      counted (milliseconds / year) "year" ++ counted (inYear / month) "month"
        ++ counted (inMonth / day) "day" ++ lettered (inDay / hour) "h"
        ++ lettered (inDay % hour / minute) "m" ++ lettered (inDay % minute / second) "s"
        ++ lettered (inDay % second) "ms"

end Gherkin.Duration
