/-!
# Blanks

Which characters count as blank when a declaration is read, and how outer characters of one
kind are stripped:

* `isBlank` is the White_Space property, 25 characters;
* `strip` takes the outer characters of a class off both ends and leaves inner ones alone;
* `trim` strips blanks.
-/

namespace Coupling.Text

/-- The characters with the White_Space property: the controls from tab to carriage return,
the space, and the separators outside ASCII. -/
def isBlank (c : Char) : Bool :=
  let n := c.toNat
  (0x09 ≤ n && n ≤ 0x0D) || n == 0x20 || n == 0x85 || n == 0xA0 || n == 0x1680 ||
    (0x2000 ≤ n && n ≤ 0x200A) || n == 0x2028 || n == 0x2029 || n == 0x202F || n == 0x205F ||
    n == 0x3000

/-- The text without the outer characters that `outer` accepts. -/
def strip (outer : Char → Bool) (s : List Char) : List Char :=
  ((s.dropWhile outer).reverse.dropWhile outer).reverse

/-- The text without outer blanks. -/
def trim (s : String) : String := String.ofList (strip isBlank s.toList)

end Coupling.Text
