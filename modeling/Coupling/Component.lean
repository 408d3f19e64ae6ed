import Coupling.Error
import Coupling.Text.Blank

/-!
# Components

The models that exchange fields, in the order in which tables list them. A fifth value stands for
an end that is not known yet: only the expansion of `default` couplings fills it in.
-/

namespace Coupling

/-- A model component taking part in coupling. -/
inductive Component where
  /-- The primary atmosphere. -/
  | atmosphere
  /-- The secondary atmosphere of hybrid couplings. -/
  | junior
  /-- Ocean and sea ice. -/
  | ocean
  /-- River routing. -/
  | river
  /-- An end that is not known yet. -/
  | unresolved
  deriving DecidableEq, Repr, Inhabited

namespace Component

def all : List Component := [.atmosphere, .junior, .ocean, .river, .unresolved]

/-- The components a resolved coupling can join. -/
def models : List Component := [.atmosphere, .junior, .ocean, .river]

/-- The tag in declarations, field names and written files. -/
def tag : Component → String
  | .atmosphere => "ATM"
  | .junior => "JNR"
  | .ocean => "OCN"
  | .river => "RIV"
  | .unresolved => "?"

/-- The component with exactly this tag. -/
def ofTag? (tag : String) : Option Component := all.find? (·.tag = tag)

/-- The letter that tells the two atmospheres apart in hybrid field names. -/
def hybridMarker : Component → Option Char
  | .atmosphere => some 'A'
  | .junior => some 'J'
  | _ => none

/-- The overlap written in the grid lines. -/
def periodicity : Component → Nat
  | .ocean => 2
  | _ => 0

/-- Whether the component is one of the atmospheres. -/
def isAtmosphere : Component → Bool
  | .atmosphere | .junior => true
  | _ => false

def rank : Component → Nat
  | .atmosphere => 0
  | .junior => 1
  | .ocean => 2
  | .river => 3
  | .unresolved => 4

theorem rank_injective {a b : Component} (h : a.rank = b.rank) : a = b := by
  revert h
  cases a <;> cases b <;> decide

instance : Ord Component := ⟨compareOn rank⟩

instance : Std.TransOrd Component := inferInstanceAs (Std.TransCmp (compareOn rank))

instance : Std.LawfulEqOrd Component where
  eq_of_compare h := rank_injective (Std.LawfulEqOrd.eq_of_compare h)

/-- A tag as people write it: outer blanks and the case of ASCII letters do not matter. -/
def normalised (text : String) : String :=
  String.ofList ((Text.strip Text.isBlank text.toList).map Char.toUpper)

/-- Reads a tag as people write it. -/
def read (text : String) : Except Error Component :=
  let tag := normalised text
  match ofTag? tag with
  | some component => .ok component
  | none => .error (.of .wrongFormat s!"unknown component '{tag}'")

end Component

instance : ToString Component := ⟨Component.tag⟩

end Coupling
