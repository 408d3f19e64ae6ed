/-!
# Cutting text

* `cut?` finds the first occurrence of a word and returns what stands before and after it;
* `replaceFirst` puts another word in its place;
* `split` separates a text at every occurrence of one character, so `split c` always has one
  piece more than the text has `c`s.
-/

namespace Coupling.Text

/-- The parts before and after the first occurrence of `word`, `none` when there is none. -/
def cut? (word : List Char) : List Char → Option (List Char × List Char)
  | [] => if word = [] then some ([], []) else none
  | c :: cs =>
    if word.isPrefixOf (c :: cs) then some ([], (c :: cs).drop word.length)
    else (cut? word cs).map fun (before, after) => (c :: before, after)

/-- `text` with the first occurrence of `word` replaced by `other`. -/
def replaceFirst (word other text : List Char) : List Char :=
  match cut? word text with
  | some (before, after) => before ++ other ++ after
  | none => text

/-- The pieces between the occurrences of `sep`, the first one after the reversed `piece`. -/
def splitFrom (sep : Char) (piece : List Char) : List Char → List (List Char)
  | [] => [piece.reverse]
  | c :: cs =>
    if c = sep then piece.reverse :: splitFrom sep [] cs else splitFrom sep (c :: piece) cs

/-- The pieces between the occurrences of `sep`, empty ones included. -/
def split (sep : Char) (s : List Char) : List (List Char) := splitFrom sep [] s

def splitAt (sep : Char) (s : String) : List String := (split sep s.toList).map String.ofList

end Coupling.Text
