import Coupling.Doc

/-!
# YAML tokens

A YAML text as a sequence of tokens. Indentation, which decides the structure of block lists and
maps, is turned into explicit opening and closing tokens, and the key of a map entry is marked
although only the colon after it shows that it is one:

* `Cursor` is a place in the text with its line and column;
* `Gap` is the white space inside a scalar, which is folded where lines break;
* `Scanner` holds the open block levels and, for each flow level, the place where a key may have
  started;
* `scan?` turns the whole text into tokens, `none` where the syntax is wrong.
-/

namespace Coupling.Yaml

/-- A token. Opening and closing tokens of block lists and maps have no text of their own. -/
inductive Token where
  | documentStart
  | documentEnd
  | blockList
  | blockMap
  | blockEnd
  | flowList
  | flowListEnd
  | flowMap
  | flowMapEnd
  /-- A dash in front of an item. -/
  | item
  | comma
  /-- What follows is a key. -/
  | key
  /-- A colon: what follows is a value. -/
  | value
  | anchor (name : String)
  | alias (name : String)
  /-- A scalar without quotes. -/
  | plain (text : String)
  /-- A scalar with quotes, or a block of lines. -/
  | text (text : String)
  deriving DecidableEq, Repr

def isBreak (c : Char) : Bool := c = '\n' || c = '\u2028' || c = '\u2029'

def isSpace (c : Char) : Bool := c = ' ' || c = '\t'

/-- Whether the character may stand in a text at all. -/
def isAllowed (c : Char) : Bool :=
  let n := c.toNat
  n = 0x09 || n = 0x0A || n = 0x0D || (0x20 ≤ n && n ≤ 0x7E) || n = 0x85 ||
    (0xA0 ≤ n && n ≤ 0xD7FF) || (0xE000 ≤ n && n ≤ 0xFFFD) || 0x10000 ≤ n

/-- The text with every line break of one character, and ordinary breaks as line feeds. The
result is reversed in front of `done`. -/
def unifyBreaks (done : List Char) : List Char → List Char
  | [] => done.reverse
  | '\r' :: '\n' :: rest => unifyBreaks ('\n' :: done) rest
  | c :: rest => unifyBreaks ((if c = '\r' ∨ c = '\u0085' then '\n' else c) :: done) rest

/-- A place in the text. -/
structure Cursor where
  rest : List Char
  line : Nat := 0
  column : Nat := 0
  /-- The number of characters before this place. -/
  index : Nat := 0

namespace Cursor

def peek? (c : Cursor) : Option Char := c.rest.head?

/-- Whether the character `i` places ahead is white, or the text ends there. -/
def whiteAt (c : Cursor) (i : Nat) : Bool :=
  match c.rest[i]? with
  | some ch => isSpace ch || isBreak ch
  | none => true

def skip (c : Cursor) (n : Nat) : Cursor :=
  { c with rest := c.rest.drop n, column := c.column + n, index := c.index + n }

/-- Moves past the characters of one line that `p` accepts. -/
def skipWhile (p : Char → Bool) (c : Cursor) : Cursor :=
  let n := (c.rest.takeWhile p).length
  { c with rest := c.rest.dropWhile p, column := c.column + n, index := c.index + n }

def nextLine (c : Cursor) : Cursor :=
  { rest := c.rest.drop 1, line := c.line + 1, column := 0, index := c.index + 1 }

/-- The mark that starts or ends a document, alone at the start of a line. -/
def documentMark? (c : Cursor) : Option Token :=
  if c.column ≠ 0 then none
  else match c.rest with
    | '-' :: '-' :: '-' :: _ => if c.whiteAt 3 then some .documentStart else none
    | '.' :: '.' :: '.' :: _ => if c.whiteAt 3 then some .documentEnd else none
    | _ => none

/-- Moves past blanks, comments and line breaks to the next token. A tab counts as a blank where
no key may start. In a block a new line lets a key start. -/
def toToken (flow : Bool) : Nat → Bool → Cursor → Cursor × Bool
  | 0, keyAllowed, c => (c, keyAllowed)
  | steps + 1, keyAllowed, c =>
    let c := c.skipWhile fun ch => ch = ' ' || ((flow || !keyAllowed) && ch = '\t')
    let c := if c.peek? = some '#' then c.skipWhile fun ch => !isBreak ch else c
    if c.peek?.any isBreak then toToken flow steps (keyAllowed || !flow) c.nextLine
    else (c, keyAllowed)

end Cursor

/-- White space inside a scalar: blanks of one line, or the first line break and those after it.
Blanks and later breaks are kept in reverse. -/
structure Gap where
  blanks : List Char := []
  broken : Bool := false
  firstBreak : Option Char := none
  breaks : List Char := []

namespace Gap

/-- The reversed characters that the gap stands for: a single ordinary line break becomes a
space, of several the first is dropped. -/
def fold (g : Gap) : List Char :=
  if g.broken then
    match g.firstBreak with
    | some '\n' => if g.breaks = [] then [' '] else g.breaks
    | some c => g.breaks ++ [c]
    | none => g.breaks
  else g.blanks

/-- Reads blanks and line breaks. A tab to the left of `indent` at the start of a line is an
error. -/
def read (indent : Int) : Nat → Gap → Cursor → Option (Gap × Cursor)
  | 0, g, c => some (g, c)
  | steps + 1, g, c =>
    match c.peek? with
    | none => some (g, c)
    | some ch =>
      if isSpace ch then
        if g.broken then
          if ch = '\t' ∧ (c.column : Int) < indent then none else read indent steps g (c.skip 1)
        else read indent steps { g with blanks := ch :: g.blanks } (c.skip 1)
      else if isBreak ch then
        if g.broken then read indent steps { g with breaks := ch :: g.breaks } c.nextLine
        else read indent steps { broken := true, firstBreak := some ch } c.nextLine
      else some (g, c)

end Gap

/-- The characters that may not follow a colon inside a plain scalar of a flow. -/
def afterColon : List Char := [',', '?', '[', ']', '\x7b', '\x7d']

/-- Reads the black characters of a plain scalar onto the reversed `done`. A colon before white
space ends it; in a flow, so do commas and brackets, and a colon right before one is an error. -/
def plainWord (flow : Bool) : Nat → List Char → Cursor → Option (List Char × Cursor)
  | 0, done, c => some (done, c)
  | steps + 1, done, c =>
    match c.peek? with
    | none => some (done, c)
    | some ch =>
      if c.whiteAt 0 then some (done, c)
      else if flow ∧ ch = ':' ∧ c.rest[1]?.any (· ∈ afterColon) then none
      else if ch = ':' ∧ c.whiteAt 1 then some (done, c)
      else if flow ∧ ch ∈ [',', '[', ']', '\x7b', '\x7d'] then some (done, c)
      else plainWord flow steps (ch :: done) (c.skip 1)

/-- Reads a plain scalar whose continuation lines start at `indent` or beyond: the reversed text,
whether the last gap broke a line, and the place after it. -/
def plainScalar (flow : Bool) (indent : Int) :
    Nat → List Char → Gap → Cursor → Option (List Char × Bool × Cursor)
  | 0, done, g, c => some (done, g.broken, c)
  | steps + 1, done, g, c =>
    if c.documentMark?.isSome ∨ c.peek? = some '#' then some (done, g.broken, c)
    else do
      let (word, c) ← plainWord flow (steps + 1) [] c
      let (done, g) := if word = [] then (done, g) else (word ++ (g.fold ++ done), {})
      if c.rest = [] ∨ !c.whiteAt 0 then return (done, g.broken, c)
      let (g, c) ← g.read indent (steps + 1) c
      if !flow ∧ (c.column : Int) < indent then return (done, g.broken, c)
      plainScalar flow indent steps done g c

def hexCode? (n : Nat) (s : List Char) : Option Nat :=
  if (s.take n).length = n then Doc.inBase? 16 (s.take n) else none

/-- The character that the escape `\` with `c` stands for. -/
def escaped? (c : Char) : Option Char :=
  match c with
  | '0' => some '\x00'
  | 'a' => some '\x07'
  | 'b' => some '\x08'
  | 't' => some '\t'
  | '\t' => some '\t'
  | 'n' => some '\n'
  | 'v' => some '\x0b'
  | 'f' => some '\x0c'
  | 'r' => some '\r'
  | 'e' => some '\x1b'
  | ' ' => some ' '
  | '"' => some '"'
  | '/' => some '/'
  | '\\' => some '\\'
  | 'N' => some '\u0085'
  | '_' => some '\u00a0'
  | 'L' => some '\u2028'
  | 'P' => some '\u2029'
  | _ => none

/-- The number of hexadecimal digits after the escape `\` with `c`, if it takes any. -/
def codeLength? (c : Char) : Option Nat :=
  match c with
  | 'x' => some 2
  | 'u' => some 4
  | 'U' => some 8
  | _ => none

/-- The character of an escaped code point. -/
def codePoint? (n : Nat) : Option Char := if n.isValidChar then some (Char.ofNat n) else none

/-- Reads the black characters of a quoted scalar onto the reversed `done`: whether an escaped
line break ended them, and the place after them. -/
def quotedWord (quote : Char) : Nat → List Char → Cursor → Option (List Char × Bool × Cursor)
  | 0, done, c => some (done, false, c)
  | steps + 1, done, c =>
    if c.whiteAt 0 then some (done, false, c)
    else match c.rest with
      | '\'' :: '\'' :: _ =>
        if quote = '\'' then quotedWord quote steps ('\'' :: done) (c.skip 2)
        else quotedWord quote steps ('\'' :: done) (c.skip 1)
      | '\\' :: e :: rest =>
        if quote = '\'' then quotedWord quote steps ('\\' :: done) (c.skip 1)
        else if isBreak e then some (done, true, (c.skip 1).nextLine)
        else match codeLength? e with
          | some n => do
            let ch ← hexCode? n rest >>= codePoint?
            quotedWord quote steps (ch :: done) (c.skip (2 + n))
          | none => do
            let ch ← escaped? e
            quotedWord quote steps (ch :: done) (c.skip 2)
      | ch :: _ =>
        if ch = quote then some (done, false, c)
        else if ch = '\\' ∧ quote ≠ '\'' then none
        else quotedWord quote steps (ch :: done) (c.skip 1)
      | [] => some (done, false, c)

/-- Reads a quoted scalar after its opening quote: the reversed text and the place after the
closing quote. -/
def quotedScalar (quote : Char) : Nat → List Char → Cursor → Option (List Char × Cursor)
  | 0, _, _ => none
  | steps + 1, done, c =>
    if c.documentMark?.isSome ∨ c.rest = [] then none
    else do
      let (done, broken, c) ← quotedWord quote (steps + 1) done c
      if c.peek? = some quote then return (done, c.skip 1)
      let (g, c) ← Gap.read 0 (steps + 1) { broken } c
      quotedScalar quote steps (g.fold ++ done) c

/-- How a block scalar treats the line breaks at its end. -/
inductive Chomping where
  | strip | clip | keep
  deriving DecidableEq

/-- The state of a block scalar: its indentation once it is known, the reversed text, the break
after the last line, the reversed breaks of the empty lines that follow, and whether the last
line started with a blank. -/
structure BlockText where
  done : List Char := []
  lineBreak : List Char := []
  breaks : List Char := []
  blankLine : Bool := false

/-- Moves past indentation and empty lines: the indentation (`none` while it is not known), the
widest indentation seen, the reversed breaks, and the place. -/
def blockBreaks (indent : Option Nat) :
    Nat → Nat → List Char → Cursor → Option (Nat × List Char × Cursor)
  | 0, widest, breaks, c => some (widest, breaks, c)
  | steps + 1, widest, breaks, c =>
    let spaces := (c.rest.takeWhile (· = ' ')).length
    let c := c.skip (match indent with
      | some n => min spaces (n - c.column)
      | none => spaces)
    let widest := max widest c.column
    let inside := indent.all (c.column < ·)
    if inside ∧ c.peek? = some '\t' then none
    else if c.peek?.any isBreak then
      blockBreaks indent steps widest (c.rest.take 1 ++ breaks) c.nextLine
    else some (widest, breaks, c)

/-- Reads the lines of a block scalar at column `indent`. A folded block joins lines that neither
start with a blank nor have an empty line between them by a space. -/
def blockLines (literal : Bool) (indent : Nat) :
    Nat → BlockText → Cursor → Option (BlockText × Cursor)
  | 0, b, c => some (b, c)
  | steps + 1, b, c =>
    if c.column ≠ indent ∨ c.rest = [] then some (b, c)
    else do
      let blank := c.peek?.any isSpace
      let joint :=
        if !literal ∧ b.lineBreak = ['\n'] ∧ !b.blankLine ∧ !blank then
          if b.breaks = [] then [' '] else []
        else b.lineBreak
      let line := c.rest.takeWhile fun ch => !isBreak ch
      let c := c.skipWhile fun ch => !isBreak ch
      let done := line.reverse ++ (b.breaks ++ (joint ++ b.done))
      let lineBreak := c.rest.take 1
      let c := if c.rest = [] then c else c.nextLine
      let (_, breaks, c) ← blockBreaks (some indent) (steps + 1) 0 [] c
      blockLines literal indent steps { done, lineBreak, breaks, blankLine := blank } c

/-- The chomping and the indentation after the sign of a block scalar, in either order. -/
def blockHeader? (c : Cursor) : Option (Chomping × Option Nat × Cursor) :=
  let chomping? (c : Cursor) : Option (Chomping × Cursor) :=
    match c.peek? with
    | some '+' => some (.keep, c.skip 1)
    | some '-' => some (.strip, c.skip 1)
    | _ => none
  let width? (c : Cursor) : Option (Option Nat × Cursor) :=
    match c.peek? with
    | some ch =>
      if ch = '0' then none
      else if ch.isDigit then some (some (ch.toNat - '0'.toNat), c.skip 1)
      else some (none, c)
    | none => some (none, c)
  match chomping? c with
  | some (chomping, c) => (width? c).map fun (width, c) => (chomping, width, c)
  | none => do
    let (width, c) ← width? c
    if width.isNone then return (.clip, width, c)
    match chomping? c with
    | some (chomping, c) => return (chomping, width, c)
    | none => return (.clip, width, c)

/-- Reads a block scalar after its sign, inside a block at column `parent`. -/
def blockScalar (literal : Bool) (parent : Int) (steps : Nat) (c : Cursor) :
    Option (String × Cursor) := do
  let (chomping, width, c) ← blockHeader? c
  let c := c.skipWhile isSpace
  let c := if c.peek? = some '#' then c.skipWhile fun ch => !isBreak ch else c
  if !c.whiteAt 0 then none
  let c := if c.rest = [] then c else c.nextLine
  let known := width.map fun n => parent.toNat + n
  let (widest, breaks, c) ← blockBreaks known steps 0 [] c
  let indent := known.getD (max widest (max (parent + 1).toNat 1))
  let (b, c) ← blockLines literal indent steps { breaks } c
  let text := match chomping with
    | .strip => b.done
    | .clip => b.lineBreak ++ b.done
    | .keep => b.breaks ++ (b.lineBreak ++ b.done)
  return (String.ofList text.reverse, c)

/-- A place where a key may have started. -/
structure KeyStart where
  /-- Whether nothing but a key can stand there. -/
  required : Bool
  /-- The number of tokens before it. -/
  position : Nat
  line : Nat
  column : Nat
  index : Nat

/-- The state of scanning. -/
structure Scanner where
  cursor : Cursor
  tokens : Array Token := #[]
  /-- The column of the innermost open block, -1 outside all blocks. -/
  indent : Int := -1
  /-- The columns of the blocks around it. -/
  outer : List Int := []
  /-- Whether a key may start here. -/
  keyAllowed : Bool := true
  /-- The possible start of a key at each flow level, innermost first. -/
  starts : List (Option KeyStart) := [none]

namespace Scanner

/-- Whether the place is inside brackets or braces. -/
def inFlow (s : Scanner) : Bool := 1 < s.starts.length

def emit (s : Scanner) (t : Token) : Scanner := { s with tokens := s.tokens.push t }

def take (s : Scanner) (n : Nat) (t : Token) : Scanner :=
  { s.emit t with cursor := s.cursor.skip n }

/-- Puts a token in front of those from `position` on. -/
def insertAt (s : Scanner) (position : Nat) (t : Token) : Scanner :=
  { s with tokens := s.tokens.insertIdxIfInBounds position t }

/-- Closes the blocks that are further in than `column`. -/
def closeTo (column : Int) : Nat → Scanner → Scanner
  | 0, s => s
  | steps + 1, s =>
    if s.inFlow ∨ s.indent ≤ column then s
    else closeTo column steps
      { s.emit .blockEnd with indent := s.outer.headD (-1), outer := s.outer.drop 1 }

/-- Closes blocks; there is at most one open block for each stored column. -/
def close (s : Scanner) (column : Int) : Scanner := closeTo column (s.outer.length + 1) s

def opensAt (s : Scanner) (column : Nat) : Bool := !s.inFlow && s.indent < (column : Int)

def enter (s : Scanner) (column : Nat) : Scanner :=
  { s with indent := column, outer := s.indent :: s.outer }

/-- Opens a block at `column`, unless it is open already. -/
def openBlock (s : Scanner) (column : Nat) (t : Token) : Scanner :=
  if s.opensAt column then (s.emit t).enter column else s

/-- Gives up the possible key at this flow level; a required one may not be given up. -/
def dropStart (s : Scanner) : Option Scanner :=
  match s.starts with
  | some start :: rest => if start.required then none else some { s with starts := none :: rest }
  | _ => some s

def saveStart (s : Scanner) : Option Scanner :=
  if s.keyAllowed then do
    let s ← s.dropStart
    let start : KeyStart := {
      required := !s.inFlow && s.indent = (s.cursor.column : Int)
      position := s.tokens.size
      line := s.cursor.line
      column := s.cursor.column
      index := s.cursor.index }
    return { s with starts := some start :: s.starts.drop 1 }
  else some s

/-- Whether a key that started at `start` is too far back: on another line, or more than 1024
characters away. -/
def isStale (s : Scanner) (start : KeyStart) : Bool :=
  start.line < s.cursor.line || start.index + 1024 < s.cursor.index

/-- Gives up all possible keys that are too far back. -/
def dropStale (s : Scanner) : Option Scanner :=
  let stale := s.starts.filterMap fun start => start.filter s.isStale
  if stale.any KeyStart.required then none
  else some { s with starts := s.starts.map fun start => start.filter fun k => !s.isStale k }

/-- A mark between documents. -/
def fetchDocumentMark (s : Scanner) (t : Token) : Option Scanner := do
  let s ← (s.close (-1)).dropStart
  return { s.take 3 t with keyAllowed := false }

def fetchFlowStart (s : Scanner) (t : Token) : Option Scanner := do
  let s ← s.saveStart
  return { s.take 1 t with starts := none :: s.starts, keyAllowed := true }

def fetchFlowEnd (s : Scanner) (t : Token) : Option Scanner := do
  let s ← s.dropStart
  let starts := if s.inFlow then s.starts.drop 1 else s.starts
  return { s.take 1 t with starts, keyAllowed := false }

def fetchComma (s : Scanner) : Option Scanner := do
  let s ← s.dropStart
  return { s.take 1 .comma with keyAllowed := true }

def fetchItem (s : Scanner) : Option Scanner := do
  if !s.inFlow ∧ !s.keyAllowed then none
  let s := s.openBlock s.cursor.column .blockList
  let s ← s.dropStart
  return { s.take 1 .item with keyAllowed := true }

def fetchKey (s : Scanner) : Option Scanner := do
  if !s.inFlow ∧ !s.keyAllowed then none
  let s := s.openBlock s.cursor.column .blockMap
  let s ← s.dropStart
  return { s.take 1 .key with keyAllowed := !s.inFlow }

/-- A colon: a possible key before it is one, and opens a map at its column. -/
def fetchValue (s : Scanner) : Option Scanner :=
  match s.starts with
  | some start :: rest =>
    let s := { s with starts := none :: rest, keyAllowed := false }
    let s := s.insertAt start.position .key
    let s :=
      if s.opensAt start.column then (s.insertAt start.position .blockMap).enter start.column
      else s
    some (s.take 1 .value)
  | _ =>
    if s.inFlow then some { s.take 1 .value with keyAllowed := false }
    else if s.keyAllowed then some ((s.openBlock s.cursor.column .blockMap).take 1 .value)
    else none

/-- Whether a character may stand in the name of an anchor. -/
def isNameChar (c : Char) : Bool := c.isAlphanum || c = '_' || c = '-'

def fetchName (s : Scanner) (make : String → Token) : Option Scanner := do
  let s ← s.saveStart
  let c := s.cursor.skip 1
  let name := c.rest.takeWhile isNameChar
  let c := c.skipWhile isNameChar
  let ends := c.whiteAt 0 || c.peek?.any (· ∈ ['?', ':', ',', ']', '\x7d', '%', '@', '\x60'])
  if name = [] ∨ !ends then none
  return { s.emit (make (String.ofList name)) with cursor := c, keyAllowed := false }

def fetchBlockScalar (s : Scanner) (literal : Bool) (steps : Nat) : Option Scanner := do
  let s ← s.dropStart
  let (text, c) ← blockScalar literal s.indent steps (s.cursor.skip 1)
  return { s.emit (.text text) with cursor := c, keyAllowed := true }

def fetchQuoted (s : Scanner) (quote : Char) (steps : Nat) : Option Scanner := do
  let s ← s.saveStart
  let (text, c) ← quotedScalar quote steps [] (s.cursor.skip 1)
  return { s.emit (.text (String.ofList text.reverse)) with cursor := c, keyAllowed := false }

/-- A scalar without quotes. After a line break a key may start. -/
def fetchPlain (s : Scanner) (steps : Nat) : Option Scanner := do
  let s ← s.saveStart
  let (text, broken, c) ← plainScalar s.inFlow (s.indent + 1) steps [] {} s.cursor
  return { s.emit (.plain (String.ofList text.reverse)) with cursor := c, keyAllowed := broken }

/-- Whether a plain scalar may start with the character `ch` here. -/
def startsPlain (s : Scanner) (ch : Char) : Bool :=
  let indicators := ['-', '?', ':', ',', '[', ']', '\x7b', '\x7d', '#', '&', '*', '!', '|', '>',
    '\'', '"', '%', '@', '\x60']
  !(isSpace ch || ch ∈ indicators) || (ch = '-' && !(s.cursor.rest[1]?.any isSpace)) ||
    (!s.inFlow && (ch = '?' || ch = ':') && !s.cursor.whiteAt 1)

/-- Reads the token that starts with the character `ch`. -/
def fetch (s : Scanner) (ch : Char) (steps : Nat) : Option Scanner :=
  let c := s.cursor
  match c.documentMark? with
  | some mark => s.fetchDocumentMark mark
  | none =>
    if c.column = 0 ∧ ch = '%' then none
    else if ch = '[' then s.fetchFlowStart .flowList
    else if ch = '\x7b' then s.fetchFlowStart .flowMap
    else if ch = ']' then s.fetchFlowEnd .flowListEnd
    else if ch = '\x7d' then s.fetchFlowEnd .flowMapEnd
    else if ch = ',' then s.fetchComma
    else if ch = '-' ∧ c.whiteAt 1 then s.fetchItem
    else if ch = '?' ∧ (s.inFlow ∨ c.whiteAt 1) then s.fetchKey
    else if ch = ':' ∧ (s.inFlow ∨ c.whiteAt 1) then s.fetchValue
    else if ch = '*' then s.fetchName .alias
    else if ch = '&' then s.fetchName .anchor
    else if ch = '|' ∧ !s.inFlow then s.fetchBlockScalar true steps
    else if ch = '>' ∧ !s.inFlow then s.fetchBlockScalar false steps
    else if ch = '\'' ∨ ch = '"' then s.fetchQuoted ch steps
    else if s.startsPlain ch then s.fetchPlain steps
    else none

def run (steps : Nat) : Nat → Scanner → Option (Array Token)
  | 0, _ => none
  | rounds + 1, s => do
    let (c, keyAllowed) := s.cursor.toToken s.inFlow steps s.keyAllowed
    let s ← { s with cursor := c, keyAllowed : Scanner }.dropStale
    match c.peek? with
    | none =>
      let s ← (s.close (-1)).dropStart
      return s.tokens
    | some ch =>
      let s ← (s.close c.column).fetch ch steps
      run steps rounds s

end Scanner

/-- The text without a byte-order mark in front, and with unified line breaks. -/
def prepare (s : List Char) : List Char :=
  unifyBreaks [] (match s with
    | '\ufeff' :: rest => rest
    | _ => s)

def scan? (s : List Char) : Option (List Token) :=
  if s.all isAllowed then
    let s := prepare s
    let steps := s.length + 1
    (Scanner.run steps steps { cursor := { rest := s } }).map Array.toList
  else none

end Coupling.Yaml
