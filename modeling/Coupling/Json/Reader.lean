import Coupling.Doc

/-!
# Reading JSON

Reads the whole of a JSON text as a document. Where the value of a number or of a string cannot
be held (a fraction, an exponent, a minus zero, a number beyond 64 bits, an unpaired surrogate),
the document is `unusable`, which only an ignored field may be.
-/

namespace Coupling.Json.Reader

/-- What is left after the blanks in front. -/
def skipBlanks (s : List Char) : List Char :=
  s.dropWhile fun c => c = ' ' || c = '\n' || c = '\t' || c = '\r'

def hexDigit? (c : Char) : Option Nat := Doc.digitValue? 16 c

def hexQuad? (a b c d : Char) : Option Nat := do
  return 4096 * (← hexDigit? a) + 256 * (← hexDigit? b) + 16 * (← hexDigit? c) + (← hexDigit? d)

/-- The character a one-letter escape stands for. -/
def simpleEscape? : Char → Option Char
  | '"' => some '"'
  | '\\' => some '\\'
  | '/' => some '/'
  | 'b' => some '\x08'
  | 'f' => some '\x0c'
  | 'n' => some '\n'
  | 'r' => some '\r'
  | 't' => some '\t'
  | _ => none

/-- Reads a string after its opening quote: the code units it is made of, in reverse in front of
`units`, and what follows the closing quote. A character counts as one unit, an escape too. -/
def string (units : List Nat) : List Char → Option (List Nat × List Char)
  | [] => none
  | '"' :: rest => some (units.reverse, rest)
  | '\\' :: 'u' :: a :: b :: c :: d :: rest =>
    match hexQuad? a b c d with
    | some unit => string (unit :: units) rest
    | none => none
  | '\\' :: c :: rest =>
    match simpleEscape? c with
    | some e => string (e.toNat :: units) rest
    | none => none
  | c :: rest => if c.toNat < 0x20 ∨ c = '\\' then none else string (c.toNat :: units) rest

/-- The characters that code units stand for, after the reversed `chars`: a high and a low
surrogate join to one, and a surrogate on its own stands for none. -/
def join (chars : List Char) : List Nat → Option (List Char)
  | [] => some chars.reverse
  | high :: rest =>
    if 0xD800 ≤ high ∧ high < 0xDC00 then
      match rest with
      | low :: rest =>
        if 0xDC00 ≤ low ∧ low < 0xE000 then
          join (Char.ofNat (0x10000 + 0x400 * (high - 0xD800) + (low - 0xDC00)) :: chars) rest
        else none
      | [] => none
    else if 0xDC00 ≤ high ∧ high < 0xE000 then none
    else join (Char.ofNat high :: chars) rest

/-- The text of code units, if there is one. -/
def textOf (units : List Nat) : Option String := (join [] units).map String.ofList

/-- A fraction after the integer part, if there is one: whether there was, and the rest. -/
def fraction : List Char → Option (Bool × List Char)
  | '.' :: rest =>
    if (rest.takeWhile Char.isDigit).isEmpty then none
    else some (true, rest.dropWhile Char.isDigit)
  | rest => some (false, rest)

/-- An exponent, if there is one: whether there was, and the rest. -/
def exponent : List Char → Option (Bool × List Char)
  | [] => some (false, [])
  | c :: rest =>
    if c = 'e' ∨ c = 'E' then
      let digits := match rest with
        | '+' :: rest => rest
        | '-' :: rest => rest
        | _ => rest
      if (digits.takeWhile Char.isDigit).isEmpty then none
      else some (true, digits.dropWhile Char.isDigit)
    else some (false, c :: rest)

/-- The integer part: a zero, or digits that do not start with one. -/
def whole : List Char → Option (Nat × List Char)
  | '0' :: rest => some (0, rest)
  | s => (Text.digits? (s.takeWhile Char.isDigit)).map (·, s.dropWhile Char.isDigit)

/-- The document of a number without fraction and exponent. -/
def integer (negative : Bool) (n : Nat) : Doc :=
  if negative then
    if n = 0 ∨ -(n : Int) < Int64.minValue.toInt then .unusable else .int (-n)
  else if n < UInt64.size then .int n else .unusable

def number (s : List Char) : Option (Doc × List Char) := do
  let (negative, body) := match s with
    | '-' :: rest => (true, rest)
    | _ => (false, s)
  let (n, rest) ← whole body
  let (fractional, rest) ← fraction rest
  let (scaled, rest) ← exponent rest
  return (if fractional || scaled then .unusable else integer negative n, rest)

mutual

/-- One value, and what follows it. The first argument bounds the number of steps. -/
def value : Nat → List Char → Option (Doc × List Char)
  | 0, _ => none
  | steps + 1, s =>
    match skipBlanks s with
    | '\x7b' :: rest =>
      match skipBlanks rest with
      | '\x7d' :: rest => some (.record [], rest)
      | rest => (members steps rest).map fun (entries, rest) => (.record entries, rest)
    | '[' :: rest =>
      match skipBlanks rest with
      | ']' :: rest => some (.list [], rest)
      | rest => (elements steps rest).map fun (items, rest) => (.list items, rest)
    | '"' :: rest =>
      (string [] rest).map fun (units, rest) =>
        (match textOf units with
          | some s => .text s
          | none => .unusable, rest)
    | 't' :: 'r' :: 'u' :: 'e' :: rest => some (.bool true, rest)
    | 'f' :: 'a' :: 'l' :: 's' :: 'e' :: rest => some (.bool false, rest)
    | 'n' :: 'u' :: 'l' :: 'l' :: rest => some (.null, rest)
    | rest => number rest

def elements : Nat → List Char → Option (List Doc × List Char)
  | 0, _ => none
  | steps + 1, s =>
    match value steps s with
    | none => none
    | some (item, rest) =>
      match skipBlanks rest with
      | ',' :: rest => (elements steps rest).map fun (items, rest) => (item :: items, rest)
      | ']' :: rest => some ([item], rest)
      | _ => none

def members : Nat → List Char → Option (List (Option String × Doc) × List Char)
  | 0, _ => none
  | steps + 1, s =>
    match skipBlanks s with
    | '"' :: rest =>
      match string [] rest with
      | none => none
      | some (units, rest) =>
        match skipBlanks rest with
        | ':' :: rest =>
          match value steps rest with
          | none => none
          | some (item, rest) =>
            let entry := (textOf units, item)
            match skipBlanks rest with
            | ',' :: rest =>
              (members steps rest).map fun (entries, rest) => (entry :: entries, rest)
            | '\x7d' :: rest => some ([entry], rest)
            | _ => none
        | _ => none
    | _ => none

end

/-- The document that the whole text is, blanks around it aside. -/
def document (s : List Char) : Option Doc :=
  match value (s.length + 1) s with
  | some (d, rest) => if skipBlanks rest = [] then some d else none
  | none => none

end Reader

def read? (text : String) : Option Doc := Reader.document text.toList

/-- A value is nested too deeply when 128 lists and objects stand inside each other. -/
def maxDepth : Nat := 127

/-- The value of a JSON text, unless it is nested too deeply. -/
def parse? (text : String) : Option Json :=
  match read? text with
  | some d => if d.depth ≤ maxDepth then d.toJson? else none
  | none => none

end Coupling.Json
