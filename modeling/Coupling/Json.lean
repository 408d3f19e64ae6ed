import Coupling.Digest.Sha256
import Coupling.Table
import Coupling.Text.Numeral

/-!
# JSON values

The values in which records are kept and hashed, and their canonical text: object keys in order,
no blanks, and no escape that is not needed. `canonical` sorts the keys at every level, `write`
prints a value as it stands, and `text` is the printed canonical form.
-/

namespace Coupling

/-- A JSON value whose numbers are integers. -/
inductive Json where
  | null
  | bool (value : Bool)
  | int (value : Int)
  | str (value : String)
  | arr (items : List Json)
  | obj (entries : List (String × Json))
  deriving Repr, Inhabited

namespace Json

def escape (c : Char) : List Char :=
  match c with
  | '"' => ['\\', '"']
  | '\\' => ['\\', '\\']
  | '\x08' => ['\\', 'b']
  | '\t' => ['\\', 't']
  | '\n' => ['\\', 'n']
  | '\x0c' => ['\\', 'f']
  | '\r' => ['\\', 'r']
  | c =>
    if c.toNat < 0x20 then
      ['\\', 'u', '0', '0', (c.toNat / 16).digitChar, (c.toNat % 16).digitChar]
    else [c]

def quote (s : String) : List Char := '"' :: s.toList.flatMap escape ++ ['"']

mutual

def write : Json → List Char
  | .null => ['n', 'u', 'l', 'l']
  | .bool true => ['t', 'r', 'u', 'e']
  | .bool false => ['f', 'a', 'l', 's', 'e']
  | .int n => Text.signed n
  | .str s => quote s
  | .arr [] => ['[', ']']
  | .arr (item :: items) => '[' :: write item ++ writeItems items
  | .obj [] => ['\x7b', '\x7d']
  | .obj ((key, value) :: entries) =>
    '\x7b' :: quote key ++ ':' :: write value ++ writeEntries entries

/-- The items after the first, and the closing bracket. -/
def writeItems : List Json → List Char
  | [] => [']']
  | item :: items => ',' :: write item ++ writeItems items

/-- The entries after the first, and the closing brace. -/
def writeEntries : List (String × Json) → List Char
  | [] => ['\x7d']
  | (key, value) :: entries => ',' :: quote key ++ ':' :: write value ++ writeEntries entries

end

mutual

/-- The same value with the keys of every object in order; of equal keys the last counts. -/
def canonical : Json → Json
  | .arr items => .arr (canonicalItems items)
  | .obj entries => .obj (Table.ofList (canonicalEntries entries)).entries
  | .null => .null
  | .bool b => .bool b
  | .int n => .int n
  | .str s => .str s

/-- Every item in canonical form. -/
def canonicalItems : List Json → List Json
  | [] => []
  | item :: items => canonical item :: canonicalItems items

def canonicalEntries : List (String × Json) → List (String × Json)
  | [] => []
  | (key, value) :: entries => (key, canonical value) :: canonicalEntries entries

end

def text (j : Json) : String := String.ofList (write (canonical j))

/-- The SHA-256 digest of the canonical text, in hexadecimal. -/
def digest (j : Json) : String := Digest.Sha256.hex j.text

/-- A value that may be absent, as `null` when it is. -/
def ofOption {α : Type} (toJson : α → Json) : Option α → Json
  | some a => toJson a
  | none => .null

def objOfPresent (entries : List (String × Option Json)) : Json :=
  .obj (entries.filterMap fun (key, value) => value.map (key, ·))

end Json

end Coupling
