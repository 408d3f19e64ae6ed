import Coupling.Proofs.Codes
import Coupling.Proofs.Declaration
import Coupling.Proofs.Levels

/-!
# Words and names

What a reader that goes by blanks and colons makes of a text:

* `Text.words` are the runs between blanks. A blank anywhere separates words
  (`words_append_blank`), and a text that has one but neither begins nor ends with one is more than
  a word (`Trimmed.two_le_words`);
* the names of the levels are read back between colons exactly when the name that they come from
  has no colon (`namesBetween_levelNames`, `length_namesBetween_levelNames`);
* `Field.Declared.wellNamed`: the grammar takes a name without its outer blanks and takes no empty
  one, and it looks at nothing else.
-/

namespace Coupling

namespace Text

/-- The runs of characters between blanks. -/
def words (s : List Char) : List (List Char) := (s.splitOnP isBlank).filter (· ≠ [])

/-- The pieces between colons, empty ones included. -/
def namesBetween (s : List Char) : List (List Char) := s.splitOn ':'

/-- Neither a blank nor a colon is in the text. -/
def Plain (s : List Char) : Prop := ∀ c ∈ s, isBlank c = false ∧ c ≠ ':'

-- The characters of the text are looked at, not all there are.
instance : DecidablePred Plain := fun s =>
  List.decidableBAll (fun c => isBlank c = false ∧ c ≠ ':') s

theorem plain_of_digits {s : List Char} (h : ∀ c ∈ s, c.isDigit = true) : Plain s := by
  intro c member
  refine ⟨isBlank_of_isDigit (h c member), ?_⟩
  rintro rfl
  exact absurd (h ':' member) (by decide)

theorem Plain.append {s t : List Char} (h : Plain s) (h' : Plain t) : Plain (s ++ t) := by
  intro c member
  rcases List.mem_append.1 member with member | member
  · exact h c member
  · exact h' c member

theorem words_append_blank (s t : List Char) {c : Char} (blank : isBlank c = true) :
    words (s ++ c :: t) = words s ++ words t := by
  rw [words, List.splitOnP_append_cons s t blank, List.filter_append]
  rfl

theorem words_cons_blank {c : Char} (s : List Char) (blank : isBlank c = true) :
    words (c :: s) = words s :=
  words_append_blank [] s blank

/-- A text without blanks is one word. -/
theorem words_of_blankless {s : List Char} (filled : s ≠ []) (h : ∀ c ∈ s, isBlank c = false) :
    words s = [s] := by
  rw [words, List.splitOnP_eq_singleton h, List.filter_cons_of_pos (by simpa using filled),
    List.filter_nil]

theorem words_ne_nil {s : List Char} {c : Char} (member : c ∈ s) (solid : isBlank c = false) :
    words s ≠ [] := by
  induction s with
  | nil => simp at member
  | cons d s ih =>
    by_cases blank : isBlank d = true
    · have later : c ∈ s := by
        rcases List.mem_cons.1 member with rfl | later
        · simp [solid] at blank
        · exact later
      rw [words_cons_blank s blank]
      exact ih later
    · obtain ⟨piece, pieces, split⟩ := List.exists_cons_of_ne_nil (List.splitOnP_ne_nil isBlank s)
      rw [words, List.splitOnP_cons_eq_if_modifyHead, if_neg blank, split, List.modifyHead_cons,
        List.filter_cons_of_pos (by simp)]
      exact List.cons_ne_nil _ _

/-- The text neither begins nor ends with a blank. -/
structure Trimmed (s : List Char) : Prop where
  first : ∀ c ∈ s.head?, isBlank c = false
  last : ∀ c ∈ s.getLast?, isBlank c = false

section
variable {outer : Char → Bool} {s : List Char} {c : Char}

theorem inner_of_head?_dropWhile (h : c ∈ (s.dropWhile outer).head?) : outer c = false := by
  have stops := List.head?_dropWhile_not outer s
  rw [Option.mem_def] at h
  simpa only [h] using stops

/-- Stripping takes outer characters off both ends. -/
theorem exists_strip (outer : Char → Bool) (s : List Char) :
    ∃ front back, s = front ++ (strip outer s ++ back) ∧
      (∀ c ∈ front, outer c = true) ∧ ∀ c ∈ back, outer c = true := by
  have front := List.takeWhile_append_dropWhile (p := outer) (l := s)
  have back := List.takeWhile_append_dropWhile (p := outer) (l := (s.dropWhile outer).reverse)
  have ends := congrArg List.reverse back
  rw [List.reverse_append, List.reverse_reverse] at ends
  refine ⟨s.takeWhile outer, ((s.dropWhile outer).reverse.takeWhile outer).reverse, ?_, ?_, ?_⟩
  · rw [strip, ends, front]
  · exact List.all_eq_true.1 List.all_takeWhile
  · intro c member
    exact List.all_eq_true.1 List.all_takeWhile c (List.mem_reverse.1 member)

theorem isInfix_strip (outer : Char → Bool) (s : List Char) : strip outer s <:+: s := by
  obtain ⟨front, back, whole, -⟩ := exists_strip outer s
  exact ⟨front, back, by rw [List.append_assoc, ← whole]⟩

theorem inner_of_head?_strip (h : c ∈ (strip outer s).head?) : outer c = false := by
  rw [strip, List.head?_reverse] at h
  obtain ⟨front, back⟩ := List.dropWhile_suffix outer (l := (s.dropWhile outer).reverse)
  refine inner_of_head?_dropWhile (s := s) ?_
  rw [← List.getLast?_reverse, ← back, List.getLast?_append_of_ne_nil]
  · exact h
  · rintro empty
    simp [empty] at h

theorem inner_of_getLast?_strip (h : c ∈ (strip outer s).getLast?) : outer c = false := by
  rw [strip, List.getLast?_reverse] at h
  exact inner_of_head?_dropWhile h

end

theorem trimmed_strip (s : List Char) : Trimmed (strip isBlank s) :=
  ⟨fun _ => inner_of_head?_strip, fun _ => inner_of_getLast?_strip⟩

/-- A blank inside a trimmed text separates two words, whatever follows the text. -/
theorem Trimmed.two_le_words {s : List Char} (h : Trimmed s) {c : Char} (member : c ∈ s)
    (blank : isBlank c = true) (rest : List Char) : 2 ≤ (words (s ++ rest)).length := by
  obtain ⟨front, back, rfl⟩ := List.append_of_mem member
  have before : words front ≠ [] := by
    cases front with
    | nil => simp [h.first c rfl] at blank
    | cons d front => exact words_ne_nil List.mem_cons_self (h.first d rfl)
  have after : words (back ++ rest) ≠ [] := by
    cases last : back.getLast? with
    | none =>
      obtain rfl := List.getLast?_eq_none_iff.1 last
      simp [h.last c (by simp)] at blank
    | some d =>
      have member : d ∈ back ++ rest := List.mem_append_left _ (List.mem_of_getLast? last)
      refine words_ne_nil member (h.last d ?_)
      rw [Option.mem_def, List.getLast?_append, List.getLast?_cons, last]
      rfl
  rw [List.append_assoc, List.cons_append, words_append_blank _ _ blank, List.length_append]
  have := List.length_pos_iff.2 before
  have := List.length_pos_iff.2 after
  omega

theorem mem_intercalate {sep c : Char} {parts : List (List Char)}
    (h : c ∈ [sep].intercalate parts) : c = sep ∨ ∃ part ∈ parts, c ∈ part := by
  induction parts with
  | nil => simp at h
  | cons part parts ih =>
    cases parts with
    | nil => exact .inr ⟨part, List.mem_cons_self, by simpa using h⟩
    | cons next parts =>
      rw [List.intercalate_cons_cons, List.append_assoc, List.singleton_append, List.mem_append,
        List.mem_cons] at h
      rcases h with member | same | member
      · exact .inr ⟨part, List.mem_cons_self, member⟩
      · exact .inl same
      · rcases ih member with same | ⟨other, listed, member⟩
        · exact .inl same
        · exact .inr ⟨other, List.mem_cons_of_mem _ listed, member⟩

/-- What was joined by colons falls into the pieces of its parts. -/
theorem namesBetween_intercalate {parts : List (List Char)} (h : parts ≠ []) :
    namesBetween ([':'].intercalate parts) = parts.flatMap namesBetween := by
  induction parts with
  | nil => exact absurd rfl h
  | cons part parts ih =>
    cases parts with
    | nil => simp [List.intercalate_singleton]
    | cons next parts =>
      rw [List.intercalate_cons_cons, List.append_assoc, List.singleton_append, namesBetween,
        List.splitOn, List.splitOnP_append_cons _ _ (by decide), List.flatMap_cons,
        ← ih (List.cons_ne_nil _ _)]
      rfl

theorem namesBetween_ne_nil (s : List Char) : namesBetween s ≠ [] := List.splitOn_ne_nil ':' s

theorem two_le_namesBetween {s : List Char} (h : ':' ∈ s) : 2 ≤ (namesBetween s).length := by
  obtain ⟨front, back, rfl⟩ := List.append_of_mem h
  have apart : namesBetween (front ++ ':' :: back) = namesBetween front ++ namesBetween back :=
    List.splitOnP_append_cons _ _ (by decide)
  rw [apart, List.length_append]
  have := List.length_pos_iff.2 (namesBetween_ne_nil front)
  have := List.length_pos_iff.2 (namesBetween_ne_nil back)
  omega

theorem length_le_flatMap_namesBetween (parts : List (List Char)) :
    parts.length ≤ (parts.flatMap namesBetween).length := by
  induction parts with
  | nil => simp
  | cons part parts ih =>
    have := List.length_pos_iff.2 (namesBetween_ne_nil part)
    rw [List.flatMap_cons, List.length_append, List.length_cons]
    omega

end Text

/-! ## The names of the levels -/

theorem toList_levelNames (base : String) (levels : UInt32) :
    (levelNames base levels).toList =
      [':'].intercalate ((namesOfLevels base levels).map String.toList) := by
  rw [levelNames_eq, String.toList_intercalate]
  rfl

/-- The first level has the bare name. -/
theorem namesOfLevels_eq_cons (base : String) (levels : UInt32) :
    ∃ others, namesOfLevels base levels = base :: others := by
  obtain ⟨n, count⟩ : ∃ n, max levels.toNat 1 = n + 1 := ⟨max levels.toNat 1 - 1, by omega⟩
  have first : String.ofList (levelName base.toList (0 + 1)) = base := by
    rw [levelName, if_pos rfl, String.ofList_toList]
  rw [namesOfLevels, count, List.range_succ_eq_map, List.map_cons, first]
  exact ⟨_, rfl⟩

/-- A level adds digits to the name, and nothing else. -/
theorem mem_levelName {base : List Char} {level : Nat} {c : Char} (h : c ∈ levelName base level) :
    c ∈ base ∨ c.isDigit = true := by
  unfold levelName at h
  split at h
  · exact .inl h
  · rcases List.mem_append.1 h with h | h
    · exact .inl h
    · exact .inr (Text.isDigit_of_mem_padded h)

theorem mem_namesOfLevels {base name : String} {levels : UInt32}
    (h : name ∈ namesOfLevels base levels) {c : Char} (member : c ∈ name.toList) :
    c ∈ base.toList ∨ c.isDigit = true := by
  obtain ⟨i, -, rfl⟩ := List.mem_map.1 h
  rw [String.toList_ofList] at member
  exact mem_levelName member

/-- All names follow the first one, so the joined names begin with it. -/
theorem toList_levelNames_eq_append (base : String) (levels : UInt32) :
    ∃ rest, (levelNames base levels).toList = base.toList ++ rest := by
  obtain ⟨others, names⟩ := namesOfLevels_eq_cons base levels
  rw [toList_levelNames, names, List.map_cons]
  cases others with
  | nil => exact ⟨[], by rw [List.map_nil, List.intercalate_singleton, List.append_nil]⟩
  | cons next others =>
    rw [List.map_cons, List.intercalate_cons_cons, List.append_assoc]
    exact ⟨_, rfl⟩

/-- Joining adds colons and digits, so no blank comes in. -/
theorem isBlank_of_mem_levelNames {base : String} {levels : UInt32}
    (h : ∀ c ∈ base.toList, Text.isBlank c = false) :
    ∀ c ∈ (levelNames base levels).toList, Text.isBlank c = false := by
  intro c member
  rw [toList_levelNames] at member
  rcases Text.mem_intercalate member with rfl | ⟨part, listed, member⟩
  · decide
  · obtain ⟨name, named, rfl⟩ := List.mem_map.1 listed
    rcases mem_namesOfLevels named member with member | digit
    · exact h c member
    · exact Text.isBlank_of_isDigit digit

theorem namesBetween_levelNames {base : String} {levels : UInt32} (h : ':' ∉ base.toList) :
    Text.namesBetween (levelNames base levels).toList =
      (namesOfLevels base levels).map String.toList := by
  obtain ⟨others, names⟩ := namesOfLevels_eq_cons base levels
  rw [toList_levelNames]
  refine List.splitOn_intercalate ':' ?_ (by simp [names])
  intro part listed colon
  obtain ⟨name, member, rfl⟩ := List.mem_map.1 listed
  rcases mem_namesOfLevels member colon with colon | digit
  · exact h colon
  · exact absurd digit (by decide)

/-- A colon in the name makes the names of the levels fall apart into more than they are. -/
theorem length_lt_namesBetween_levelNames {base : String} {levels : UInt32}
    (h : ':' ∈ base.toList) :
    (namesOfLevels base levels).length <
      (Text.namesBetween (levelNames base levels).toList).length := by
  obtain ⟨others, names⟩ := namesOfLevels_eq_cons base levels
  rw [toList_levelNames, Text.namesBetween_intercalate (by simp [names]), names, List.map_cons,
    List.flatMap_cons, List.length_append, List.length_cons]
  have first := Text.two_le_namesBetween h
  have rest := Text.length_le_flatMap_namesBetween (others.map String.toList)
  rw [List.length_map] at rest
  omega

/-! ## What the grammar says about names -/

/-- The name is not empty, and nothing blank is at its ends. -/
structure Field.WellNamed (f : Field) : Prop where
  filled : f.name.toList ≠ []
  trimmed : Text.Trimmed f.name.toList

namespace Spec

theorem trimmed_of_mem_pieces {text piece : String} (h : piece ∈ pieces text) :
    Text.Trimmed piece.toList := by
  obtain ⟨raw, -, rfl⟩ := List.mem_map.1 h
  rw [String.toList_ofList]
  exact Text.trimmed_strip raw

theorem name_of_read {origin : Component} {inherited : Inherited} {text : String} {spec : Spec}
    (h : read origin inherited text = .ok spec) :
    spec.name ≠ "" ∧ Text.Trimmed spec.name.toList := by
  obtain ⟨_, _, _, _, _, _, parts⟩ := exists_piecesOf h
  exact ⟨parts.filled, trimmed_of_mem_pieces (parts.pieces ▸ List.mem_cons_self)⟩

end Spec

/-- The grammar cuts the blanks around a name off and refuses an empty one. -/
theorem Field.Declared.wellNamed {f : Field} (h : f.Declared) : f.WellNamed := by
  obtain ⟨sender, texts, declared⟩ := h
  cases declared with
  | placeholder =>
    have mark (c : Char) (end_ : some '?' = some c) : Text.isBlank c = false := by
      obtain rfl := Option.some.inj end_
      decide
    exact ⟨by decide, mark, mark⟩
  | placed written =>
    obtain ⟨_, -, _, reads⟩ := written
    obtain ⟨filled, trimmed⟩ := Spec.name_of_read reads
    exact ⟨fun empty => filled (String.toList_injective empty), trimmed⟩

end Coupling
