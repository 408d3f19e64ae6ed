/-!
# Rounding a quotient

Quotients of natural numbers rounded in exact arithmetic:

* `halfEven num den` is the nearest integer to `num / den`, a half going to the even neighbour;
* `binary num den` is the quotient at 53 significant bits, the precision at which periods are
  divided, as a numerator over a power of two;
* `hundredths num den` is that binary value in hundredths, rounded once more.
-/

namespace Coupling.Rounding

/-- The integer nearest to `num / den`; a half goes to the even neighbour. -/
def halfEven (num den : Nat) : Nat :=
  let whole := num / den
  let twice := 2 * (num % den)
  if twice < den then whole
  else if den < twice then whole + 1
  else whole + whole % 2

/-- A number `significand / 2 ^ shift`. -/
structure Binary where
  significand : Nat
  shift : Nat
  deriving DecidableEq, Repr

/-- How far `num / den` is shifted so that its integer part has 53 bits. -/
def shift (num den : Nat) : Nat :=
  let e := 52 + den.log2 - num.log2
  if num <<< e < den <<< 52 then e + 1 else e

/-- `num / den` rounded to 53 significant bits. -/
def binary (num den : Nat) : Binary :=
  let e := shift num den
  ⟨halfEven (num <<< e) den, e⟩

/-- `num / den` in hundredths, by way of its 53-bit value. -/
def hundredths (num den : Nat) : Nat :=
  let q := binary num den
  halfEven (100 * q.significand) (1 <<< q.shift)

end Coupling.Rounding
