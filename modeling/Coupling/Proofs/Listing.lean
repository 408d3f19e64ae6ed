import Coupling.CommandLine
import Coupling.Proofs.LineProtocol

/-!
# The lines of a listing

A listing shows each field on a line of its own and their number on another, as far as names do not
break lines:

* `lineBreaks_summaryLine`: beside the break at its end, the line of a field breaks only in names;
* `Summary.NamedLine`: of a compiled field only the name that it is declared with can break it;
* `Compiled.lineBreaks_listing_eq_iff`: so the listing of a compilation has a line for each field
  and one for their number exactly when no name of a field breaks a line.
-/

namespace Coupling

/-- The number of line breaks in a text. -/
def lineBreaks (text : String) : Nat := text.toList.count '\n'

theorem lineBreaks_append (s t : String) : lineBreaks (s ++ t) = lineBreaks s + lineBreaks t := by
  rw [lineBreaks, String.toList_append, List.count_append]
  rfl

theorem lineBreaks_eq_zero_iff {s : String} : lineBreaks s = 0 ↔ '\n' ∉ s.toList :=
  List.count_eq_zero

theorem newline_not_mem_decimal (n : Nat) : '\n' ∉ Text.decimal n :=
  fun member => absurd (Text.isDigit_of_mem_decimal member) (by decide)

theorem newline_not_mem_signed (n : Int) : '\n' ∉ Text.signed n := by
  cases n with
  | ofNat n => exact newline_not_mem_decimal n
  | negSucc n =>
    intro member
    rcases List.mem_cons.1 member with minus | member
    · exact absurd minus (by decide)
    · exact newline_not_mem_decimal _ member

theorem lineBreaks_toString (n : Nat) : lineBreaks (toString n) = 0 := by
  rw [lineBreaks_eq_zero_iff, Text.toList_toString]
  exact newline_not_mem_decimal n

theorem Component.lineBreaks_tag (c : Component) : lineBreaks c.tag = 0 := by
  cases c <;> decide

namespace CommandLine

theorem lineBreaks_rightAligned (width : Nat) {s : List Char} (h : '\n' ∉ s) :
    lineBreaks (rightAligned width s) = 0 := by
  rw [lineBreaks_eq_zero_iff, rightAligned, String.toList_ofList, List.leftpad, List.mem_append]
  rintro (blank | member)
  · exact absurd (List.eq_of_mem_replicate blank) (by decide)
  · exact h member

theorem lineBreaks_leftAligned (width : Nat) {s : List Char} (h : '\n' ∉ s) :
    lineBreaks (leftAligned width s) = 0 := by
  rw [lineBreaks_eq_zero_iff, leftAligned, String.toList_ofList, List.rightpad, List.mem_append]
  rintro (member | blank)
  · exact h member
  · exact absurd (List.eq_of_mem_replicate blank) (by decide)

/-- Beside its end, only names break the line of a field. -/
theorem lineBreaks_summaryLine {s : Summary} (grid : s.grid ≠ '\n') :
    lineBreaks (summaryLine s) = lineBreaks s.source + lineBreaks s.target + 1 := by
  have mapping : lineBreaks (toString s.mapping) = 0 := by cases s.mapping <;> decide
  have letter : lineBreaks (toString s.grid) = 0 := by
    have single : (toString s.grid).toList = [s.grid] := String.toList_singleton s.grid
    rw [lineBreaks_eq_zero_iff, single, List.mem_singleton]
    exact grid.symm
  have origin : lineBreaks (toString s.origin) = 0 := s.origin.lineBreaks_tag
  have dest : lineBreaks (toString s.dest) = 0 := s.dest.lineBreaks_tag
  have index := lineBreaks_rightAligned 4 (newline_not_mem_decimal s.index.toNat)
  have weight := lineBreaks_rightAligned 6 (newline_not_mem_signed s.weight.toInt)
  have seq := lineBreaks_leftAligned 2 (newline_not_mem_decimal s.seq.toNat)
  have levels := lineBreaks_toString s.levels.toNat
  have period := lineBreaks_toString s.period.toNat
  obtain ⟨blank, sequence, arrow, cross, every, last⟩ :
      lineBreaks " " = 0 ∧ lineBreaks " seq=" = 0 ∧ lineBreaks " -> " = 0 ∧
        lineBreaks "x" = 0 ∧ lineBreaks " every " = 0 ∧ lineBreaks "s\n" = 1 := by decide
  unfold summaryLine
  simp only [lineBreaks_append, toString_string]
  omega

theorem lineBreaks_join (texts : List String) :
    lineBreaks (String.join texts) = (texts.map lineBreaks).sum := by
  induction texts with
  | nil => rfl
  | cons text texts ih => rw [String.join_cons, lineBreaks_append, ih, List.map_cons, List.sum_cons]

/-- Every field has a line, and line breaks in its names make more. -/
theorem lineBreaks_listing {fields : List Summary} (grid : ∀ s ∈ fields, s.grid ≠ '\n') :
    lineBreaks (listing fields) =
      (fields.map fun s => lineBreaks s.source + lineBreaks s.target).sum + fields.length + 1 := by
  have count : lineBreaks s!"{fields.length} fields\n" = 1 := by
    have last : lineBreaks " fields\n" = 1 := by decide
    have number := lineBreaks_toString fields.length
    simp only [lineBreaks_append, toString_string]
    omega
  have lines : ((fields.map summaryLine).map lineBreaks).sum =
      (fields.map fun s => lineBreaks s.source + lineBreaks s.target).sum + fields.length := by
    clear count
    induction fields with
    | nil => rfl
    | cons s fields ih =>
      rw [List.forall_mem_cons] at grid
      simp only [List.map_cons, List.sum_cons, lineBreaks_summaryLine grid.1, ih grid.2,
        List.length_cons]
      omega
  rw [listing, lineBreaks_append, lineBreaks_join, lines, count]

/-- A listing is as many lines as it has fields and one more, exactly when no name breaks a line. -/
theorem lineBreaks_listing_eq_iff {fields : List Summary} (grid : ∀ s ∈ fields, s.grid ≠ '\n') :
    lineBreaks (listing fields) = fields.length + 1 ↔
      ∀ s ∈ fields, '\n' ∉ s.source.toList ∧ '\n' ∉ s.target.toList := by
  have unbroken : (fields.map fun s => lineBreaks s.source + lineBreaks s.target).sum = 0 ↔
      ∀ s ∈ fields, '\n' ∉ s.source.toList ∧ '\n' ∉ s.target.toList := by
    simp only [List.sum_eq_zero_iff_forall_eq_nat, List.forall_mem_map, Nat.add_eq_zero_iff,
      lineBreaks_eq_zero_iff]
  rw [lineBreaks_listing grid, ← unbroken]
  omega

end CommandLine

/-! ## Compiled fields -/

namespace Field

variable {ctx : RunContext} {lookup : StashCode → Except Error StashEntry} {f : Field}
  {r : Resolved}

/-- The catalogue gives a letter for the grid. -/
theorem grid_ne_newline (h : (f.resolveWith ctx lookup).result = .ok r) (declared : f.Declared) :
    r.field.grid ≠ '\n' := by
  by_cases hybrid : f.hybrid = true
  · rw [resolveWith, if_pos hybrid, Logged.result_of] at h
    obtain ⟨_, _, _, kind, _, -, -, -, -, rfl⟩ := resolveHybrid_eq_ok_iff.1 h
    show kind.letter ≠ '\n'
    cases kind <;> decide
  · rw [resolveWith, if_neg hybrid, resolveTagged_result] at h
    obtain rfl : f.tagged = r := Except.ok.inj h
    show f.grid ≠ '\n'
    intro newline
    rcases declared.grid with letter | mark
    · rw [newline] at letter
      exact absurd letter (by decide)
    · rw [newline] at mark
      exact absurd mark (by decide)

/-- A tag or a code breaks no line, so the receiver's name has its line breaks from the sender's. -/
theorem newline_mem_of_target (h : (f.resolveWith ctx lookup).result = .ok r)
    (newline : '\n' ∈ r.names.target.toList) : '\n' ∈ f.name.toList := by
  by_cases hybrid : f.hybrid = true
  · obtain ⟨marker, digits, target, solid⟩ := target_of_hybrid hybrid h
    rw [target] at newline
    exact absurd (solid _ newline).1 (by decide)
  · rw [target_of_tagged hybrid h] at newline
    rcases Text.mem_replaceFirst newline with member | member
    · exact member
    · exact absurd (f.dest.plain_tag _ member).1 (by decide)

end Field

/-- Nothing but the name that it is sent under can break the line of the field. -/
structure Summary.NamedLine (s : Summary) : Prop where
  grid : s.grid ≠ '\n'
  target : '\n' ∈ s.target.toList → '\n' ∈ s.source.toList

theorem Stages.namedLine {read : FileReader} {ctx : RunContext} {requests : List Request}
    {explicit records : List Field} {c : Compiled}
    (h : Stages read ctx requests explicit records c) : ∀ s ∈ c.rendered.fields, s.NamedLine := by
  obtain ⟨p, written, out⟩ := render_eq_ok_iff.1 h.rendered
  have same : c.rendered.fields = p.summaries := by
    rw [out]
    rfl
  intro s listed
  obtain ⟨i, hs⟩ := List.mem_iff_getElem?.1 listed
  rw [same] at hs
  have inside : i < (retained c.fields).length :=
    written.lengths.1 ▸ (List.getElem?_eq_some_iff.1 hs).1
  have hf := List.getElem?_eq_getElem inside
  obtain ⟨e, -, of, place, -⟩ := written.emission hf
  obtain rfl : s = e.summary := Option.some.inj (hs.symm.trans place)
  have declared := h.declared_of_retained _ (List.mem_of_getElem? hf)
  constructor
  · exact Field.grid_ne_newline of.resolved declared
  · intro newline
    have name : e.summary.source = _ := of.describes.source
    rw [name]
    exact Field.newline_mem_of_target of.resolved newline

/-- The listing of a compilation is as many lines as it has fields and one more, exactly when the
fields are declared with names that break no line. -/
theorem Compiled.lineBreaks_listing_eq_iff {read : FileReader} {ctx : RunContext}
    {requests : List Request} {c : Compiled} (h : (compile read ctx requests).result = .ok c) :
    lineBreaks (CommandLine.listing c.rendered.fields) = c.rendered.fields.length + 1 ↔
      ∀ s ∈ c.rendered.fields, '\n' ∉ s.source.toList := by
  obtain ⟨explicit, records, stages⟩ := compile_eq_ok_iff.1 h
  have named := stages.namedLine
  rw [CommandLine.lineBreaks_listing_eq_iff fun s listed => (named s listed).grid]
  constructor
  · exact fun unbroken s listed => (unbroken s listed).1
  · exact fun unbroken s listed =>
      ⟨unbroken s listed, fun newline => unbroken s listed ((named s listed).target newline)⟩

end Coupling
