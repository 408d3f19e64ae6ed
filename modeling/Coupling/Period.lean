import Coupling.Rounding
import Coupling.Text.Numeral

/-!
# Coupling periods

A period in seconds is shown in the largest fitting unit: days above a day and a half, hours
above an hour and a half, minutes otherwise, with at most two decimals.
-/

namespace Coupling.Period

/-- The unit a period is shown in. -/
inductive Scale where
  | days | hours | minutes
  deriving DecidableEq, Repr

/-- Days above 129600 seconds, hours above 5400, minutes otherwise. -/
def scale (seconds : Nat) : Scale :=
  if 129600 < seconds then .days else if 5400 < seconds then .hours else .minutes

/-- The seconds in one unit. -/
def Scale.seconds : Scale → Nat
  | .days => 86400
  | .hours => 3600
  | .minutes => 60

def Scale.letter : Scale → Char
  | .days => 'd'
  | .hours => 'h'
  | .minutes => 'm'

/-- A number of hundredths as a decimal without trailing zeros or a trailing point. -/
def amount (hundredths : Nat) : List Char :=
  let whole := Text.decimal (hundredths / 100)
  let tenth := hundredths / 10 % 10
  let hundredth := hundredths % 10
  if hundredth ≠ 0 then whole ++ ['.', tenth.digitChar, hundredth.digitChar]
  else if tenth ≠ 0 then whole ++ ['.', tenth.digitChar]
  else whole

/-- A period as its amount and unit, such as `2.5h`. -/
def label (seconds : Nat) : String :=
  let unit := scale seconds
  let shown :=
    if seconds % unit.seconds = 0 then Text.decimal (seconds / unit.seconds)
    else amount (Rounding.hundredths seconds unit.seconds)
  String.ofList (shown ++ [unit.letter])

end Coupling.Period
