import Coupling.Yaml.Token

/-!
# Reading YAML

The document that a sequence of tokens describes. Block and flow forms give the same documents,
an alias stands for the document that its anchor marks, and where a value is left out an empty
plain scalar stands. A text holds exactly one document.
-/

namespace Coupling.Yaml

namespace Reader

/-- The documents that anchors mark, the latest first. -/
abbrev Anchors := List (String × Doc)

/-- The anchors with the one that has `older` others before it set anew. -/
def setAnchor (anchors : Anchors) (older : Nat) (anchor : String × Doc) : Anchors :=
  anchors.set (anchors.length - older - 1) anchor

/-- The document of a value that is left out. -/
def empty : Doc := .plain ""

def keyText (d : Doc) : Option String := d.asText?

/-- Whether a key or value of a block map is left out in front of these tokens. -/
def mapGap : List Token → Bool
  | .key :: _ | .value :: _ | .blockEnd :: _ => true
  | _ => false

/-- Whether an item of a block list is left out. -/
def itemGap : List Token → Bool
  | .item :: _ | .blockEnd :: _ => true
  | _ => false

/-- Whether an item of a list in the column of its map is left out. -/
def columnItemGap (tokens : List Token) : Bool := itemGap tokens || mapGap tokens

/-- Whether the key of a pair inside brackets is left out. -/
def pairKeyGap : List Token → Bool
  | .value :: _ | .comma :: _ | .flowListEnd :: _ => true
  | _ => false

/-- Whether the value of a pair inside brackets is left out. -/
def pairValueGap : List Token → Bool
  | .comma :: _ | .flowListEnd :: _ => true
  | _ => false

/-- Whether the key of an entry inside braces is left out. -/
def flowKeyGap : List Token → Bool
  | .value :: _ | .comma :: _ | .flowMapEnd :: _ => true
  | _ => false

/-- Whether the value of an entry inside braces is left out. -/
def flowValueGap : List Token → Bool
  | .comma :: _ | .flowMapEnd :: _ => true
  | _ => false

mutual

/-- One node. `block` allows block lists and maps, `column` a list in the column of its map. The
first argument bounds the number of steps. An anchor is known inside its own node, where an alias
of it stands for nothing that can be used. -/
def node : Nat → (block column : Bool) → Anchors → List Token →
    Option (Doc × Anchors × List Token)
  | 0, _, _, _, _ => none
  | steps + 1, block, column, anchors, tokens =>
    match tokens with
    | .alias name :: rest => (anchors.lookup name).map (·, anchors, rest)
    | .anchor name :: rest =>
      match content steps block column true ((name, .unusable) :: anchors) rest with
      | some (d, known, rest) => some (d, setAnchor known anchors.length (name, d), rest)
      | none => none
    | _ => content steps block column false anchors tokens

/-- A node without its anchor; only an anchored one may be left out. -/
def content : Nat → (block column anchored : Bool) → Anchors → List Token →
    Option (Doc × Anchors × List Token)
  | 0, _, _, _, _, _ => none
  | steps + 1, block, column, anchored, anchors, tokens =>
    match tokens with
    | .plain s :: rest => some (.plain s, anchors, rest)
    | .text s :: rest => some (.text s, anchors, rest)
    | .flowList :: rest =>
      (flowItems steps true anchors rest).map fun (items, r) => (.list items, r)
    | .flowMap :: rest =>
      (flowEntries steps true anchors rest).map fun (entries, r) => (.record entries, r)
    | .item :: _ =>
      if column then
        (columnItems steps anchors tokens).map fun (items, r) => (.list items, r)
      else if anchored then some (empty, anchors, tokens) else none
    | .blockList :: rest =>
      if block then (blockItems steps anchors rest).map fun (items, r) => (.list items, r)
      else if anchored then some (empty, anchors, tokens) else none
    | .blockMap :: rest =>
      if block then (blockEntries steps anchors rest).map fun (entries, r) => (.record entries, r)
      else if anchored then some (empty, anchors, tokens) else none
    | _ => if anchored then some (empty, anchors, tokens) else none

def blockItems : Nat → Anchors → List Token → Option (List Doc × Anchors × List Token)
  | 0, _, _ => none
  | steps + 1, anchors, tokens =>
    match tokens with
    | .item :: rest => do
      let (d, anchors, rest) ←
        if itemGap rest then some (empty, anchors, rest) else node steps true false anchors rest
      let (items, anchors, rest) ← blockItems steps anchors rest
      return (d :: items, anchors, rest)
    | .blockEnd :: rest => some ([], anchors, rest)
    | _ => none

/-- The items of a list in the column of its map, up to the first other token. -/
def columnItems : Nat → Anchors → List Token → Option (List Doc × Anchors × List Token)
  | 0, _, _ => none
  | steps + 1, anchors, tokens =>
    match tokens with
    | .item :: rest => do
      let (d, anchors, rest) ←
        if columnItemGap rest then some (empty, anchors, rest)
        else node steps true false anchors rest
      let (items, anchors, rest) ← columnItems steps anchors rest
      return (d :: items, anchors, rest)
    | _ => some ([], anchors, tokens)

def blockEntries : Nat → Anchors → List Token →
    Option (List (Option String × Doc) × Anchors × List Token)
  | 0, _, _ => none
  | steps + 1, anchors, tokens =>
    match tokens with
    | .key :: rest => do
      let (key, anchors, rest) ←
        if mapGap rest then some (empty, anchors, rest) else node steps true true anchors rest
      let (d, anchors, rest) ←
        match rest with
        | .value :: rest =>
          if mapGap rest then some (empty, anchors, rest) else node steps true true anchors rest
        | _ => some (empty, anchors, rest)
      let (entries, anchors, rest) ← blockEntries steps anchors rest
      return ((keyText key, d) :: entries, anchors, rest)
    | .blockEnd :: rest => some ([], anchors, rest)
    | _ => none

/-- The items between brackets; each but the first needs a comma in front of it. -/
def flowItems : Nat → (first : Bool) → Anchors → List Token →
    Option (List Doc × Anchors × List Token)
  | 0, _, _, _ => none
  | steps + 1, first, anchors, tokens =>
    match tokens with
    | .flowListEnd :: rest => some ([], anchors, rest)
    | _ => do
      let tokens ←
        if first then some tokens
        else match tokens with
          | .comma :: rest => some rest
          | _ => none
      match tokens with
      | .flowListEnd :: rest => some ([], anchors, rest)
      | .key :: rest => do
        let (key, anchors, rest) ←
          if pairKeyGap rest then some (empty, anchors, rest)
          else node steps false false anchors rest
        let (d, anchors, rest) ←
          match rest with
          | .value :: rest =>
            if pairValueGap rest then some (empty, anchors, rest)
            else node steps false false anchors rest
          | _ => some (empty, anchors, rest)
        let (items, anchors, rest) ← flowItems steps false anchors rest
        return (.record [(keyText key, d)] :: items, anchors, rest)
      | _ => do
        let (d, anchors, rest) ← node steps false false anchors tokens
        let (items, anchors, rest) ← flowItems steps false anchors rest
        return (d :: items, anchors, rest)

/-- The entries between braces; each but the first needs a comma in front of it. -/
def flowEntries : Nat → (first : Bool) → Anchors → List Token →
    Option (List (Option String × Doc) × Anchors × List Token)
  | 0, _, _, _ => none
  | steps + 1, first, anchors, tokens =>
    match tokens with
    | .flowMapEnd :: rest => some ([], anchors, rest)
    | _ => do
      let tokens ←
        if first then some tokens
        else match tokens with
          | .comma :: rest => some rest
          | _ => none
      match tokens with
      | .flowMapEnd :: rest => some ([], anchors, rest)
      | .key :: rest => do
        let (key, anchors, rest) ←
          if flowKeyGap rest then some (empty, anchors, rest)
          else node steps false false anchors rest
        let (d, anchors, rest) ←
          match rest with
          | .value :: rest =>
            if flowValueGap rest then some (empty, anchors, rest)
            else node steps false false anchors rest
          | _ => some (empty, anchors, rest)
        let (entries, anchors, rest) ← flowEntries steps false anchors rest
        return ((keyText key, d) :: entries, anchors, rest)
      | _ => do
        let (key, anchors, rest) ← node steps false false anchors tokens
        let (entries, anchors, rest) ← flowEntries steps false anchors rest
        return ((keyText key, empty) :: entries, anchors, rest)

end

/-- The only document of a text, and nothing but end marks after it. -/
def document (tokens : List Token) : Option Doc := do
  let steps := 4 * tokens.length + 4
  let (d, _, rest) ← match tokens with
    | .documentStart :: rest =>
      match rest with
      | [] | .documentStart :: _ | .documentEnd :: _ => some (empty, [], rest)
      | _ => node steps true false [] rest
    | _ => node steps true false [] tokens
  if rest.all (· = .documentEnd) then some d else none

end Reader

def read? (text : String) : Option Doc := scan? text.toList >>= Reader.document

end Coupling.Yaml
