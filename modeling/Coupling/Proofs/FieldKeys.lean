import Coupling.Proofs.Attempts
import Coupling.Proofs.LineProtocol

/-!
# Keys of field names

A field between atmosphere and ocean or rivers is named with the tag of its sender in it, and with
a category suffix if it is one of several. The key of its CF name has neither:

* `Text.FirstAt` says where a word stands in a text for the first time; a cut is made there
  (`cut?_eq_some_iff_firstAt`) and fails only where the word does not stand
  (`cut?_eq_none_iff_absent`). More text behind it changes nothing (`FirstAt.append`);
* `exists_replaceFirst_append`: a tag is taken out in front of a mark or behind it, never across it,
  since no tag has a character of the mark;
* `Text.upTo` is the text before the first mark. What follows a mark does not matter to it
  (`upTo_append`), since the character that a mark begins with does not come back in it;
* `Field.cfKey_and_counterpart`: a key ignores every category, and both the key and the name on the
  receiving side are made at the first place where the tag stands.
-/

namespace Coupling

namespace Text

variable {word other text x y before after : List Char}

/-! ## Where a word stands first -/

/-- The word stands behind `before`, and nowhere earlier. -/
structure FirstAt (word text before after : List Char) : Prop where
  here : text = before ++ (word ++ after)
  first : ∀ front back, text = front ++ (word ++ back) → before.length ≤ front.length

theorem FirstAt.unique {before' after' : List Char} (h : FirstAt word text before after)
    (h' : FirstAt word text before' after') : before = before' ∧ after = after' := by
  have same : before.length = before'.length :=
    Nat.le_antisymm (h.first _ _ h'.here) (h'.first _ _ h.here)
  obtain ⟨rfl, rest⟩ := List.append_inj (h.here.symm.trans h'.here) same
  exact ⟨rfl, List.append_cancel_left rest⟩

theorem firstAt_of_cut? (h : cut? word text = some (before, after)) :
    FirstAt word text before after := by
  constructor
  · exact cut?_eq_some h
  · induction text generalizing before with
    | nil =>
      intro front back split
      have ends := cut?_eq_some h
      obtain ⟨rfl, -⟩ := List.append_eq_nil_iff.1 ends.symm
      exact Nat.zero_le _
    | cons c text ih =>
      intro front back split
      rw [cut?] at h
      split at h
      · obtain ⟨rfl, -⟩ : [] = before ∧ _ := by simpa using h
        exact Nat.zero_le _
      · next later =>
        obtain ⟨⟨before, _⟩, found, ends⟩ := Option.map_eq_some_iff.1 h
        obtain ⟨rfl, rfl⟩ : c :: before = _ ∧ _ = after := by simpa using ends
        cases front with
        | nil => exact absurd (List.isPrefixOf_iff_prefix.2 ⟨back, split.symm⟩) later
        | cons d front =>
          rw [List.cons_append, List.cons.injEq] at split
          have := ih found front back split.2
          simp only [List.length_cons]
          omega

theorem cut?_eq_none_iff_absent : cut? word text = none ↔ ¬ word <:+: text := by
  induction text with
  | nil =>
    rw [cut?, List.infix_nil]
    split <;> simp_all
  | cons c text ih =>
    rw [cut?, List.infix_cons_iff, ← List.isPrefixOf_iff_prefix]
    split <;> simp_all

theorem cut?_eq_some_iff_firstAt :
    cut? word text = some (before, after) ↔ FirstAt word text before after := by
  constructor
  · exact firstAt_of_cut?
  · intro h
    cases cut : cut? word text with
    | none => exact absurd ⟨before, after, by simp [h.here]⟩ (cut?_eq_none_iff_absent.1 cut)
    | some parts =>
      obtain ⟨rfl, rfl⟩ := (firstAt_of_cut? cut).unique h
      rfl

theorem exists_firstAt (h : word <:+: text) : ∃ before after, FirstAt word text before after := by
  cases cut : cut? word text with
  | none => exact absurd h (cut?_eq_none_iff_absent.1 cut)
  | some parts => exact ⟨_, _, firstAt_of_cut? cut⟩

theorem replaceFirst_of_firstAt (h : FirstAt word text before after) (other : List Char) :
    replaceFirst word other text = before ++ (other ++ after) := by
  unfold replaceFirst
  rw [cut?_eq_some_iff_firstAt.2 h]
  exact List.append_assoc before other after

theorem replaceFirst_of_absent (h : ¬ word <:+: text) (other : List Char) :
    replaceFirst word other text = text := by
  unfold replaceFirst
  rw [cut?_eq_none_iff_absent.2 h]

/-- Nothing that starts before the first place reaches beyond it, so more text changes nothing. -/
theorem FirstAt.append (h : FirstAt word x before after) (y : List Char) :
    FirstAt word (x ++ y) before (after ++ y) := by
  constructor
  · rw [h.here, List.append_assoc, List.append_assoc]
  · intro front back split
    by_contra earlier
    have fits : (front ++ word).length ≤ x.length := by
      have := congrArg List.length h.here
      simp only [List.length_append] at this ⊢
      omega
    rw [← List.append_assoc] at split
    obtain ⟨rest, whole⟩ : front ++ word <+: x :=
      List.prefix_of_prefix_length_le ⟨back, split.symm⟩ (List.prefix_append x y) fits
    exact earlier (h.first front rest (by rw [← whole, List.append_assoc]))

/-! ## Words behind a mark -/

section
variable {mark : Char}

/-- A word that reaches beyond `x` has the character that stands there. -/
theorem prefix_of_prefix_append_cons (fresh : mark ∉ word) (h : word <+: x ++ mark :: y) :
    word <+: x := by
  have upToMark : x ++ [mark] <+: x ++ mark :: y := ⟨y, by simp⟩
  rcases List.prefix_or_prefix_of_prefix h upToMark with inside | ⟨rest, beyond⟩
  · rcases List.prefix_concat_iff.1 inside with rfl | inside
    · exact absurd (List.mem_append_right x List.mem_cons_self) fresh
    · exact inside
  · exact absurd (by simp [← beyond]) fresh

/-- A word that is not in front of a mark, nor has it, stands behind the mark. -/
theorem exists_behind_mark {front back : List Char} (filled : word ≠ []) (fresh : mark ∉ word)
    (absent : ¬ word <:+: x) (h : x ++ mark :: y = front ++ (word ++ back)) :
    ∃ gap, front = x ++ mark :: gap ∧ y = gap ++ (word ++ back) := by
  rcases List.append_eq_append_iff.1 h with ⟨gap, rfl, rest⟩ | ⟨tail, rfl, rest⟩
  · cases gap with
    | nil =>
      obtain ⟨c, word, rfl⟩ := List.exists_cons_of_ne_nil filled
      obtain ⟨rfl, -⟩ := List.cons.inj rest
      exact absurd List.mem_cons_self fresh
    | cons c gap =>
      obtain ⟨rfl, below⟩ := List.cons.inj rest
      exact ⟨gap, rfl, below⟩
  · have inside : word <+: tail := prefix_of_prefix_append_cons fresh ⟨back, rest⟩
    exact absurd (inside.isInfix.trans (List.suffix_append front tail).isInfix) absent

theorem replaceFirst_append_cons (filled : word ≠ []) (fresh : mark ∉ word)
    (absent : ¬ word <:+: x) (other y : List Char) :
    replaceFirst word other (x ++ mark :: y) = x ++ mark :: replaceFirst word other y := by
  by_cases later : word <:+: y
  · obtain ⟨before, after, found⟩ := exists_firstAt later
    have behind : FirstAt word (x ++ mark :: y) (x ++ mark :: before) after := by
      constructor
      · simp [found.here]
      · intro front back split
        obtain ⟨gap, rfl, rest⟩ := exists_behind_mark filled fresh absent split
        have := found.first gap back rest
        simp only [List.length_append, List.length_cons]
        omega
    rw [replaceFirst_of_firstAt behind, replaceFirst_of_firstAt found, List.append_assoc,
      List.cons_append]
  · have nowhere : ¬ word <:+: x ++ mark :: y := by
      rintro ⟨front, back, whole⟩
      rw [List.append_assoc] at whole
      obtain ⟨gap, -, rest⟩ := exists_behind_mark filled fresh absent whole.symm
      exact later ⟨gap, back, by rw [rest, List.append_assoc]⟩
    rw [replaceFirst_of_absent nowhere, replaceFirst_of_absent later]

/-- Characters that the word does not have are passed by. -/
theorem replaceFirst_append_of_disjoint (filled : word ≠ []) {marks : List Char}
    (fresh : ∀ c ∈ marks, c ∉ word) (other y : List Char) :
    replaceFirst word other (marks ++ y) = marks ++ replaceFirst word other y := by
  induction marks with
  | nil => rfl
  | cons c marks ih =>
    rw [List.forall_mem_cons] at fresh
    have absent : ¬ word <:+: [] := fun h => filled (List.infix_nil.1 h)
    have step := replaceFirst_append_cons filled fresh.1 absent other (marks ++ y)
    rw [List.nil_append, List.nil_append] at step
    rw [List.cons_append, step, ih fresh.2, List.cons_append]

/-- A replacement in front of a mark leaves the mark, and so does one behind it. -/
theorem exists_replaceFirst_append (filled : word ≠ []) {marks : List Char} (some_ : marks ≠ [])
    (fresh : ∀ c ∈ marks, c ∉ word) (other x y : List Char) :
    ∃ rest, replaceFirst word other (x ++ (marks ++ y)) =
      replaceFirst word other x ++ (marks ++ rest) := by
  by_cases early : word <:+: x
  · obtain ⟨before, after, found⟩ := exists_firstAt early
    refine ⟨y, ?_⟩
    rw [replaceFirst_of_firstAt (found.append _), replaceFirst_of_firstAt found]
    simp only [List.append_assoc]
  · obtain ⟨c, marks, rfl⟩ := List.exists_cons_of_ne_nil some_
    rw [List.forall_mem_cons] at fresh
    refine ⟨replaceFirst word other y, ?_⟩
    rw [List.cons_append, replaceFirst_append_cons filled fresh.1 early,
      replaceFirst_append_of_disjoint filled fresh.2, replaceFirst_of_absent early]
    rfl

end

/-! ## The text before a mark -/

/-- The text before the first place where the word stands, all of it if there is none. -/
def upTo (word text : List Char) : List Char :=
  match cut? word text with
  | some (before, _) => before
  | none => text

theorem upTo_of_firstAt (h : FirstAt word text before after) : upTo word text = before := by
  rw [upTo, cut?_eq_some_iff_firstAt.2 h]

theorem upTo_of_absent (h : ¬ word <:+: text) : upTo word text = text := by
  rw [upTo, cut?_eq_none_iff_absent.2 h]

theorem absent_upTo (filled : word ≠ []) (text : List Char) : ¬ word <:+: upTo word text := by
  by_cases found : word <:+: text
  · obtain ⟨before, after, place⟩ := exists_firstAt found
    rw [upTo_of_firstAt place]
    rintro ⟨front, back, rfl⟩
    have := place.first front (back ++ (word ++ after)) (by simp [place.here])
    have := List.length_pos_iff.2 filled
    simp only [List.length_append] at *
    omega
  · rwa [upTo_of_absent found]

/-- A word whose first character does not come back in it stands first where it is put behind a
text without it. -/
theorem firstAt_append_self {mark : Char} {marks : List Char} (fresh : mark ∉ marks)
    (absent : ¬ mark :: marks <:+: x) (y : List Char) :
    FirstAt (mark :: marks) (x ++ (mark :: marks ++ y)) x y := by
  refine ⟨rfl, ?_⟩
  intro front back split
  rcases List.append_eq_append_iff.1 split with ⟨gap, rfl, -⟩ | ⟨tail, rfl, rest⟩
  · simp
  · cases tail with
    | nil => simp
    | cons c tail =>
      obtain ⟨rfl, below⟩ := List.cons.inj rest
      obtain ⟨last, rfl⟩ : marks <+: tail := prefix_of_prefix_append_cons fresh ⟨back, below⟩
      exact absurd ⟨front, last, by simp⟩ absent

/-- What follows a mark, and the mark itself, do not matter to the text before the first one. -/
theorem upTo_append {mark : Char} {marks : List Char} (fresh : mark ∉ marks) (x y : List Char) :
    upTo (mark :: marks) (x ++ (mark :: marks ++ y)) = upTo (mark :: marks) x := by
  by_cases found : mark :: marks <:+: x
  · obtain ⟨before, after, place⟩ := exists_firstAt found
    rw [upTo_of_firstAt (place.append _), upTo_of_firstAt place]
  · rw [upTo_of_firstAt (firstAt_append_self fresh found y), upTo_of_absent found]

end Text

/-! ## Field names -/

namespace Field

theorem cfKey_eq (name : String) (origin : Component) :
    (cfKey name origin).toList = Text.strip (· = '_')
      (Text.upTo categoryMark.toList (Text.replaceFirst origin.tag.toList [] name.toList)) := by
  rw [cfKey, String.toList_ofList]
  rfl

theorem tag_filled (component : Component) : component.tag.toList ≠ [] := by
  cases component <;> decide

/-- No tag has a character of the mark. -/
theorem categoryMark_fresh (component : Component) :
    ∀ c ∈ categoryMark.toList, c ∉ component.tag.toList := by
  have apart : categoryMark.toList.all (fun c => c ∉ component.tag.toList) = true := by
    cases component <;> decide
  intro c member
  exact of_decide_eq_true (List.all_eq_true.1 apart c member)

theorem cfKey_append_category (name suffix : String) (origin : Component) :
    cfKey (name ++ categoryMark ++ suffix) origin = cfKey name origin := by
  apply String.toList_injective
  obtain ⟨rest, kept⟩ := Text.exists_replaceFirst_append (tag_filled origin) (by decide)
    (categoryMark_fresh origin) [] name.toList suffix.toList
  have once : '_' ∉ ['c', 'a', 't'] := by decide
  have same := Text.upTo_append once
    (Text.replaceFirst origin.tag.toList [] name.toList) rest
  rw [cfKey_eq, cfKey_eq, String.toList_append, String.toList_append, List.append_assoc, kept]
  exact congrArg (Text.strip (· = '_')) same

/-- A key has no mark, and no underscore at either end. -/
structure Bare (key : List Char) : Prop where
  unmarked : ¬ categoryMark.toList <:+: key
  first : key.head? ≠ some '_'
  last : key.getLast? ≠ some '_'

theorem bare_cfKey (name : String) (origin : Component) : Bare (cfKey name origin).toList := by
  rw [cfKey_eq]
  generalize Text.replaceFirst origin.tag.toList [] name.toList = text
  constructor
  · intro marked
    have inside := Text.isInfix_strip (· = '_') (Text.upTo categoryMark.toList text)
    exact Text.absent_upTo (by decide) text (marked.trans inside)
  · intro underscore
    simpa using Text.inner_of_head?_strip underscore
  · intro underscore
    simpa using Text.inner_of_getLast?_strip underscore

section
variable {name : String} {origin : Component} {before after : List Char}

theorem toList_counterpart (place : Text.FirstAt origin.tag.toList name.toList before after)
    (dest : Component) :
    (counterpart name origin dest).toList = before ++ (dest.tag.toList ++ after) := by
  rw [counterpart, String.toList_ofList, Text.replaceFirst_of_firstAt place]

/-- Without a mark, a key lacks nothing but the tag and underscores around the rest. -/
theorem underscores_around_cfKey (place : Text.FirstAt origin.tag.toList name.toList before after)
    (unmarked : ¬ categoryMark.toList <:+: before ++ after) :
    ∃ j k, before ++ after =
      List.replicate j '_' ++ ((cfKey name origin).toList ++ List.replicate k '_') := by
  rw [cfKey_eq, Text.replaceFirst_of_firstAt place, List.nil_append,
    Text.upTo_of_absent unmarked]
  obtain ⟨front, back, whole, outerFront, outerBack⟩ :=
    Text.exists_strip (· = '_') (before ++ after)
  refine ⟨front.length, back.length, ?_⟩
  have sameFront : front = List.replicate front.length '_' :=
    List.eq_replicate_of_mem fun c member => by simpa using outerFront c member
  have sameBack : back = List.replicate back.length '_' :=
    List.eq_replicate_of_mem fun c member => by simpa using outerBack c member
  rw [← sameFront, ← sameBack]
  exact whole

end

/-- A key does not depend on the category and is bare. Where the tag of the sender stands in the
name, the key comes from what is around its first place, and the receiver's tag is put in this
place. These are the key and the name that a field which is not hybrid resolves to. -/
theorem cfKey_and_counterpart (name suffix : String) (origin dest : Component) :
    cfKey (name ++ categoryMark ++ suffix) origin = cfKey name origin ∧
      Bare (cfKey name origin).toList ∧
      (origin.tag.toList <:+: name.toList →
        ∃ before after, Text.FirstAt origin.tag.toList name.toList before after) ∧
      (∀ before after, Text.FirstAt origin.tag.toList name.toList before after →
        (counterpart name origin dest).toList = before ++ (dest.tag.toList ++ after) ∧
          (¬ categoryMark.toList <:+: before ++ after →
            ∃ j k, before ++ after =
              List.replicate j '_' ++ ((cfKey name origin).toList ++ List.replicate k '_'))) ∧
      ∀ (f : Field) (ctx : RunContext) (read : FileReader) (catalogue : StashCatalogue),
        f.name = name → f.origin = origin → f.dest = dest → f.hybrid = false →
          ∃ names, (f.resolve ctx read catalogue).names.result = .ok names ∧
            names.cfKey = cfKey name origin ∧ names.target = counterpart name origin dest := by
  refine ⟨cfKey_append_category name suffix origin, bare_cfKey name origin, Text.exists_firstAt,
    ?_, ?_⟩
  · intro before after place
    exact ⟨toList_counterpart place dest, underscores_around_cfKey place⟩
  · rintro f ctx read catalogue rfl rfl rfl plain
    refine ⟨f.tagged.names, ?_, rfl, rfl⟩
    rw [resolve_of_tagged plain]

example : cfKey "OCN_ICEFRC_cat03" .ocean = "ICEFRC" := by decide

end Field

end Coupling
