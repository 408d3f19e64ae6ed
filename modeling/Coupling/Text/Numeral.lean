/-!
# Numerals

Decimal numerals, read and written:

* `digits?` reads a non-empty run of ASCII digits, leading zeros allowed;
* `natural?` allows a leading plus and `integer?` a leading plus or minus; both refuse a number
  outside the stated range;
* `decimal` writes a natural number and `padded` fills it with zeros up to a width, so a longer
  number keeps all its digits.
-/

namespace Coupling.Text

/-- The value of a non-empty run of ASCII digits. -/
def digits? (s : List Char) : Option Nat :=
  if s ≠ [] ∧ s.all Char.isDigit then
    some (s.foldl (fun n c => 10 * n + (c.toNat - '0'.toNat)) 0)
  else none

/-- A natural number below `bound`, with an optional plus sign. -/
def natural? (bound : Nat) (s : List Char) : Option Nat :=
  let body := match s with
    | '+' :: rest => rest
    | _ => s
  (digits? body).filter (· < bound)

/-- An integer from `lo` to `hi`, with an optional sign. -/
def integer? (lo hi : Int) (s : List Char) : Option Int :=
  let value : Option Int := match s with
    | '+' :: rest => (digits? rest).map Int.ofNat
    | '-' :: rest => (digits? rest).map fun n => -(n : Int)
    | _ => (digits? s).map Int.ofNat
  value.filter fun n => lo ≤ n ∧ n ≤ hi

def uint32? (s : String) : Option UInt32 := (natural? UInt32.size s.toList).map UInt32.ofNat

def int32? (s : String) : Option Int :=
  integer? Int32.minValue.toInt Int32.maxValue.toInt s.toList

def int64? (s : String) : Option Int64 :=
  (integer? Int64.minValue.toInt Int64.maxValue.toInt s.toList).map Int64.ofInt

def decimal (n : Nat) : List Char := Nat.toDigits 10 n

/-- The decimal digits of `n`, with zeros in front up to `width` characters. -/
def padded (width n : Nat) : List Char := (decimal n).leftpad width '0'

/-- An integer in decimal, with a minus sign below zero. -/
def signed : Int → List Char
  | .ofNat n => decimal n
  | .negSucc n => '-' :: decimal (n + 1)

end Coupling.Text
