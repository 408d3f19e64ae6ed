import Coupling.Proofs.Kinds
import Coupling.Proofs.LineProtocol
import Coupling.Proofs.Records
import Coupling.Proofs.WrittenOut

/-!
# Directions as keys

The schedules of a run are kept under directions, and a direction can be spelled in many ways:

* `Component.SpellsTag` is a tag with blanks around it and its ASCII letters in either case, said
  without the function that takes the blanks off (`Component.read_eq_ok_iff_spellsTag`);
* `Direction.Spells` are two such tags around the first `2`, which no tag contains. Every direction
  that is read is spelled by its text (`Direction.read_eq_ok_iff`);
* `Direction.text_injective`: the normal form is read back, so it tells directions apart, and an
  entry of a table is replaced under the texts that have its normal form
  (`Direction.get?_ofList_two`);
* `Direction.rejected_with_text`: what is refused is an invalid input, and where there is a `2` the
  whole text is noted as it was written;
* `Direction.read_up_to_spelling` says all this of one text, and which texts mean the same key.
-/

namespace Coupling

namespace Text

/-- A blank is no letter, so it has no upper case of its own. -/
theorem toUpper_of_isBlank {c : Char} (blank : isBlank c = true) : c.toUpper = c := by
  unfold Char.toUpper
  rw [dif_neg]
  rintro ⟨low, high⟩
  have low : 97 ≤ c.toNat := low
  have high : c.toNat ≤ 122 := high
  have solid : isBlank c = false := isBlank_of_graphic (by omega) (by omega)
  exact absurd blank (by rw [solid]; decide)

/-- Outer characters around a text do not matter to what is left of it. -/
theorem strip_append {outer : Char → Bool} {front back : List Char}
    (outerFront : ∀ c ∈ front, outer c = true) (outerBack : ∀ c ∈ back, outer c = true)
    (s : List Char) : strip outer (front ++ (s ++ back)) = strip outer s := by
  have outerBack' : ∀ c ∈ back.reverse, outer c = true :=
    fun c member => outerBack c (List.mem_reverse.1 member)
  rw [strip, strip, List.dropWhile_append_of_pos outerFront, List.dropWhile_append]
  by_cases none_ : s.dropWhile outer = []
  · have gone : back.dropWhile outer = [] := List.dropWhile_eq_nil_iff.2 outerBack
    simp [none_, gone]
  · rw [if_neg (by simpa using none_), List.reverse_append,
      List.dropWhile_append_of_pos outerBack']

end Text

namespace Component

/-- The tags that people write, in upper case. -/
def tags : List String := ["ATM", "JNR", "OCN", "RIV", "?"]

/-- A tag with blanks around it, its ASCII letters in upper or lower case. -/
def SpellsTag (part : List Char) (tag : String) : Prop :=
  ∃ front inner back, part = front ++ (inner ++ back) ∧
    (∀ c ∈ front, Text.isBlank c = true) ∧ (∀ c ∈ back, Text.isBlank c = true) ∧
    inner.map Char.toUpper = tag.toList

theorem mem_tags_iff {tag : String} : tag ∈ tags ↔ ∃ c : Component, c.tag = tag := by
  constructor
  · intro listed
    have known : ∀ tag ∈ tags, (ofTag? tag).isSome = true := by decide
    obtain ⟨c, found⟩ := Option.isSome_iff_exists.1 (known tag listed)
    exact ⟨c, (ofTag?_eq_some_iff.1 found).symm⟩
  · rintro ⟨c, rfl⟩
    cases c <;> decide

/-- No tag has a blank, not even after its letters were changed. -/
theorem isBlank_of_toUpper_mem_tag (component : Component) {c : Char}
    (member : c.toUpper ∈ component.tag.toList) : Text.isBlank c = false := by
  apply eq_false_of_ne_true
  intro blank
  rw [Text.toUpper_of_isBlank blank] at member
  have solid := (component.plain_tag c member).1
  exact absurd blank (by rw [solid]; decide)

theorem normalised_eq_tag_iff {text : String} {c : Component} :
    normalised text = c.tag ↔ SpellsTag text.toList c.tag := by
  constructor
  · intro same
    obtain ⟨front, back, whole, blankFront, blankBack⟩ :=
      Text.exists_strip Text.isBlank text.toList
    refine ⟨front, _, back, whole, blankFront, blankBack, ?_⟩
    rw [← same, normalised, String.toList_ofList]
  · rintro ⟨front, inner, back, whole, blankFront, blankBack, letters⟩
    have solid : ∀ x ∈ inner, Text.isBlank x = false := by
      intro x member
      apply c.isBlank_of_toUpper_mem_tag
      rw [← letters]
      exact List.mem_map_of_mem member
    have kept := (Text.trimmed_of_blankless solid).strip_eq
    rw [normalised, whole, Text.strip_append blankFront blankBack, kept, letters,
      String.ofList_toList]

theorem read_eq_ok_iff_spellsTag {text : String} {c : Component} :
    read text = .ok c ↔ SpellsTag text.toList c.tag := by
  rw [(read_answers text).eq_ok_iff, ofTag?_eq_some_iff, normalised_eq_tag_iff]

end Component

namespace Direction

/-- Two tags around the first `2` of the text. -/
def Spells (text : String) (d : Direction) : Prop :=
  ∃ before after, text.toList = before ++ '2' :: after ∧ '2' ∉ before ∧
    Component.SpellsTag before d.origin.tag ∧ Component.SpellsTag after d.dest.tag

variable {text : String} {d : Direction} {e : Error}

theorem readEnd_eq_ok_iff {whole : String} {part : List Char} {c : Component} :
    readEnd whole (String.ofList part) = .ok c ↔ Component.SpellsTag part c.tag := by
  have component : Component.read (String.ofList part) = .ok c ↔
      Component.SpellsTag (String.ofList part).toList c.tag := Component.read_eq_ok_iff_spellsTag
  rw [String.toList_ofList] at component
  rw [← component, readEnd]
  cases Component.read (String.ofList part) with
  | ok c' => rfl
  | error e => exact ⟨nofun, nofun⟩

theorem read_eq_ok_iff : read text = .ok d ↔ Spells text d := by
  unfold read
  cases cut : Text.cut? ['2'] text.toList with
  | none =>
    have absent := Text.cut?_eq_none_iff.1 cut
    constructor
    · nofun
    · rintro ⟨before, after, whole, -, -, -⟩
      exact absurd (by simp [whole]) absent
  | some parts =>
    obtain ⟨before, after⟩ := parts
    obtain ⟨whole, fresh⟩ := Text.cut?_eq_some_iff.1 cut
    simp only [bind_eq_ok, pure_eq_ok, readEnd_eq_ok_iff]
    constructor
    · rintro ⟨origin, first, dest, second, rfl⟩
      exact ⟨before, after, whole, fresh, first, second⟩
    · -- There is one first `2`, so the tags that are spelled are the parts that are read.
      rintro ⟨before', after', whole', fresh', first, second⟩
      have cut' := Text.cut?_eq_some_iff.2 ⟨whole', fresh'⟩
      obtain ⟨rfl, rfl⟩ : before = before' ∧ after = after' := by simpa [cut] using cut'
      exact ⟨d.origin, first, d.dest, second, rfl⟩

/-- Any two tags make a direction. -/
theorem exists_spells_iff : (∃ d, Spells text d) ↔
    ∃ before after, text.toList = before ++ '2' :: after ∧ '2' ∉ before ∧
      (∃ tag ∈ Component.tags, Component.SpellsTag before tag) ∧
      ∃ tag ∈ Component.tags, Component.SpellsTag after tag := by
  constructor
  · rintro ⟨d, before, after, whole, fresh, first, second⟩
    exact ⟨before, after, whole, fresh, ⟨_, Component.mem_tags_iff.2 ⟨d.origin, rfl⟩, first⟩,
      _, Component.mem_tags_iff.2 ⟨d.dest, rfl⟩, second⟩
  · rintro ⟨before, after, whole, fresh, ⟨tag, listed, first⟩, tag', listed', second⟩
    obtain ⟨origin, rfl⟩ := Component.mem_tags_iff.1 listed
    obtain ⟨dest, rfl⟩ := Component.mem_tags_iff.1 listed'
    exact ⟨⟨origin, dest⟩, before, after, whole, fresh, first, second⟩

theorem read_text (d : Direction) : read d.text = .ok d := by
  have back := Persists.direction_read d
  cases outcome : read d.text with
  | ok d' =>
    rw [outcome] at back
    rw [Option.some.inj back]
  | error e =>
    rw [outcome] at back
    cases back

theorem text_injective {a b : Direction} (same : a.text = b.text) : a = b := by
  have back := read_text a
  rw [same, read_text b] at back
  exact (Except.ok.inj back).symm

/-- The later of two entries counts where both directions have one normal form. -/
theorem get?_ofList_two {ν : Type} (d d' : Direction) (a b : ν) :
    (Table.ofList [(d, a), (d', b)]).get? d = some (if d.text = d'.text then b else a) := by
  have entries : [(d, a), (d', b)].reverse = [(d', b), (d, a)] := rfl
  rw [Table.get?_ofList, entries]
  by_cases same : d.text = d'.text
  · rw [if_pos same, text_injective same, List.find?_cons_of_pos (by simp)]
    rfl
  · have other : d' ≠ d := by
      rintro rfl
      exact same rfl
    rw [if_neg same, List.find?_cons_of_neg (by simpa using other),
      List.find?_cons_of_pos (by simp)]
    rfl

theorem error_of_readEnd {whole part : String} (h : readEnd whole part = .error e) :
    e.OfKind .invalidInput ∧ e.context.get? "direction" = some whole := by
  unfold readEnd at h
  split at h
  · cases h
  · cases h
    exact ⟨⟨rfl, rfl⟩, Table.get?_insert _ _ _⟩

/-- Whichever end is refused, the note has the text of both. -/
theorem rejected_with_text (h : read text = .error e) :
    e.OfKind .invalidInput ∧
      ('2' ∈ text.toList → e.context.get? "direction" = some text) := by
  unfold read at h
  cases cut : Text.cut? ['2'] text.toList with
  | none =>
    rw [cut] at h
    cases h
    exact ⟨⟨rfl, rfl⟩, fun present => absurd present (Text.cut?_eq_none_iff.1 cut)⟩
  | some parts =>
    rw [cut] at h
    simp only [bind_eq_error] at h
    have noted : e.OfKind .invalidInput ∧ e.context.get? "direction" = some text := by
      rcases h with first | ⟨origin, -, second | ⟨dest, -, done⟩⟩
      · exact error_of_readEnd first
      · exact error_of_readEnd second
      · cases done
    exact ⟨noted.1, fun _ => noted.2⟩

/-- A text is read exactly if it spells a tag on either side of its first `2`. What is read is
written in the normal form of these tags, which is read as the same direction, so texts stand for
one key of a table exactly if they have one normal form. Everything else is refused as an invalid
input, with the text in a note if there is a `2` in it. -/
theorem read_up_to_spelling (text : String) :
    ((∃ d, read text = .ok d) ↔
      ∃ before after, text.toList = before ++ '2' :: after ∧ '2' ∉ before ∧
        (∃ tag ∈ Component.tags, Component.SpellsTag before tag) ∧
        ∃ tag ∈ Component.tags, Component.SpellsTag after tag) ∧
      (∀ d, read text = .ok d → Spells text d ∧ read d.text = .ok d) ∧
      (∀ (other : String) (d d' : Direction), read text = .ok d → read other = .ok d' →
        (d = d' ↔ d.text = d'.text) ∧ ∀ (ν : Type) (a b : ν),
          (Table.ofList [(d, a), (d', b)]).get? d = some (if d.text = d'.text then b else a)) ∧
      ∀ e, read text = .error e → e.OfKind .invalidInput ∧
        ('2' ∈ text.toList → e.context.get? "direction" = some text) := by
  refine ⟨?_, ?_, ?_, ?_⟩
  · simp only [read_eq_ok_iff, exists_spells_iff]
  · intro d reads
    exact ⟨read_eq_ok_iff.1 reads, read_text d⟩
  · intro other d d' _ _
    exact ⟨⟨congrArg Direction.text, text_injective⟩, fun _ => get?_ofList_two d d'⟩
  · intro e fails
    exact rejected_with_text fails

example : (read " atm 2\tOcn").toOption = some ⟨.atmosphere, .ocean⟩ := by decide

end Direction

end Coupling
