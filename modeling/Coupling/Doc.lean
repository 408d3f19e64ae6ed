import Coupling.Json

/-!
# Documents

What a reader of a configuration file hands over, before it is known which types are wanted. A
document keeps repeated keys, since a record must refuse them while a table takes the last one.
The rest of the module says which documents a wanted type accepts:

* quoted text is text; `plain` text is what the place it stands in wants it to be;
* `unusable` stands where the syntax is right but no type takes the value, such as a fraction;
* a record names each of its fields at most once, may omit optional ones, and ignores others.
-/

namespace Coupling

/-- A document. A key that is not a text is kept as `none`. -/
inductive Doc where
  | null
  | bool (value : Bool)
  | int (value : Int)
  | text (value : String)
  | plain (value : String)
  | unusable
  | list (items : List Doc)
  | record (entries : List (Option String × Doc))
  deriving Repr, Inhabited

namespace Doc

def asText? : Doc → Option String
  | .text s => some s
  | .plain s => some s
  | _ => none

/-- A truth value. Plain text has three spellings of each. -/
def asBool? : Doc → Option Bool
  | .bool b => some b
  | .plain s =>
    if s ∈ ["true", "True", "TRUE"] then some true
    else if s ∈ ["false", "False", "FALSE"] then some false
    else none
  | _ => none

/-- A digit of a base up to sixteen, in either case. -/
def digitValue? (base : Nat) (c : Char) : Option Nat :=
  let value :=
    if c.isDigit then c.toNat - '0'.toNat
    else if 'a' ≤ c ∧ c ≤ 'f' then c.toNat - 'a'.toNat + 10
    else if 'A' ≤ c ∧ c ≤ 'F' then c.toNat - 'A'.toNat + 10
    else base
  if value < base then some value else none

/-- The value of a non-empty run of digits. -/
def inBase? (base : Nat) (s : List Char) : Option Nat :=
  if s = [] then none
  else s.foldlM (fun n c => (digitValue? base c).map (base * n + ·)) 0

/-- A plain natural number: hexadecimal after `0x`, octal after `0o`, binary after `0b`, and
otherwise decimal without leading zeros; a plus sign may stand in front. -/
def plainNat? (s : List Char) : Option Nat :=
  let body := match s with
    | '+' :: rest => rest
    | _ => s
  match body with
  | '0' :: 'x' :: rest => inBase? 16 rest
  | '0' :: 'o' :: rest => inBase? 8 rest
  | '0' :: 'b' :: rest => inBase? 2 rest
  | '0' :: _ :: _ => none
  | _ => inBase? 10 body

def asNat? (bound : Nat) : Doc → Option Nat
  | .int (.ofNat n) => if n < bound then some n else none
  | .plain s => (plainNat? s.toList).filter (· < bound)
  | _ => none

/-- An integer from `lo` to `hi`. Signed numbers never come as plain text. -/
def asInt? (lo hi : Int) : Doc → Option Int
  | .int n => if lo ≤ n ∧ n ≤ hi then some n else none
  | _ => none

def asUInt8? (d : Doc) : Option UInt8 := (d.asNat? UInt8.size).map UInt8.ofNat

def asUInt32? (d : Doc) : Option UInt32 := (d.asNat? UInt32.size).map UInt32.ofNat

def asUInt64? (d : Doc) : Option UInt64 := (d.asNat? UInt64.size).map UInt64.ofNat

def asInt64? (d : Doc) : Option Int64 :=
  (d.asInt? Int64.minValue.toInt Int64.maxValue.toInt).map Int64.ofInt

def asChar? (d : Doc) : Option Char :=
  match d.asText?.map String.toList with
  | some [c] => some c
  | _ => none

/-- The name of one of several cases: a text, or a record whose only entry is that name without
a value. -/
def asCase? : Doc → Option String
  | .record [(some name, .null)] => some name
  | d => d.asText?

/-- A list; a plain empty value is the empty one. -/
def asList? : Doc → Option (List Doc)
  | .list items => some items
  | .plain "" => some []
  | _ => none

/-- The entries of a table; a plain empty value has none. -/
def asEntries? : Doc → Option (List (Option String × Doc))
  | .record entries => some entries
  | .plain "" => some []
  | _ => none

def asListOf? {α : Type} (read : Doc → Option α) (d : Doc) : Option (List α) :=
  d.asList? >>= fun items => items.mapM read

/-- A table; of several entries with one key the last counts. -/
def asTable? {κ ν : Type} [Ord κ] [Std.TransOrd κ] (readKey : String → Option κ)
    (readValue : Doc → Option ν) (d : Doc) : Option (Table κ ν) := do
  let entries ← d.asEntries?
  let entries ← entries.mapM fun (key, value) => return (← readKey (← key), ← readValue value)
  return Table.ofList entries

/-- Whether the document stands for an absent value. -/
def isAbsent : Doc → Bool
  | .null => true
  | .plain s => s ∈ ["", "~", "null", "Null", "NULL"]
  | _ => false

def asOption? {α : Type} (read : Doc → Option α) (d : Doc) : Option (Option α) :=
  if d.isAbsent then some none else (read d).map some

/-- The named entries of a record, each of the `known` names occurring at most once. -/
def asFields? (known : List String) : Doc → Option (List (String × Doc))
  | .record entries => do
    let named ← entries.mapM fun (key, value) => key.map (·, value)
    if known.all fun name => named.countP (·.1 = name) ≤ 1 then some named else none
  | _ => none

def required? {α : Type} (fields : List (String × Doc)) (name : String) (read : Doc → Option α) :
    Option α :=
  fields.lookup name >>= read

/-- A field that has a value of its own when it is missing. -/
def defaulted? {α : Type} (fields : List (String × Doc)) (name : String) (missing : α)
    (read : Doc → Option α) : Option α :=
  match fields.lookup name with
  | some d => read d
  | none => some missing

def optional? {α : Type} (fields : List (String × Doc)) (name : String) (read : Doc → Option α) :
    Option (Option α) :=
  defaulted? fields name none (asOption? read)

end Doc

mutual

def Json.toDoc : Json → Doc
  | .null => .null
  | .bool b => .bool b
  | .int n => .int n
  | .str s => .text s
  | .arr items => .list (Json.toDocs items)
  | .obj entries => .record (Json.toDocEntries entries)

def Json.toDocs : List Json → List Doc
  | [] => []
  | item :: items => item.toDoc :: Json.toDocs items

/-- The documents of several values, under their keys. -/
def Json.toDocEntries : List (String × Json) → List (Option String × Doc)
  | [] => []
  | (key, value) :: entries => (some key, value.toDoc) :: Json.toDocEntries entries

end

mutual

/-- The JSON value that a document reads as, if it is one. -/
def Doc.toJson? : Doc → Option Json
  | .null => some .null
  | .bool b => some (.bool b)
  | .int n => some (.int n)
  | .text s => some (.str s)
  | .list items => (Doc.toJsons? items).map .arr
  | .record entries => (Doc.toJsonEntries? entries).map .obj
  | .plain _ | .unusable => none

def Doc.toJsons? : List Doc → Option (List Json)
  | [] => some []
  | item :: items => do return (← item.toJson?) :: (← Doc.toJsons? items)

/-- The values of several documents, under keys that are texts. -/
def Doc.toJsonEntries? : List (Option String × Doc) → Option (List (String × Json))
  | [] => some []
  | (key, value) :: entries => do
    return (← key, ← value.toJson?) :: (← Doc.toJsonEntries? entries)

end

mutual

def Doc.depth : Doc → Nat
  | .list items => Doc.depthOfItems items + 1
  | .record entries => Doc.depthOfEntries entries + 1
  | _ => 0

def Doc.depthOfItems : List Doc → Nat
  | [] => 0
  | item :: items => max item.depth (Doc.depthOfItems items)

/-- The greatest depth among the values of entries. -/
def Doc.depthOfEntries : List (Option String × Doc) → Nat
  | [] => 0
  | (_, value) :: entries => max value.depth (Doc.depthOfEntries entries)

end

end Coupling
