import Coupling.Proofs.Tables
import Coupling.Stash.Master
import Mathlib.Algebra.Group.Nat.Even
import Mathlib.Data.List.DropRight

/-!
# Records that a catalogue reads

A header uses up the line after it, so it depends on the lines before a record whether its header
is looked at as one:

* `openRun`: how many header lines stand at the end of some lines in a row. Lines in front that
  themselves end in an even run do not change whether it is even (`even_openRun_append`), such as a
  header and the line that it uses up (`even_openRun_cons_cons`);
* `mem_pairs_iff`: a header and the body on the next line are read together exactly after an even
  run of headers;
* `entry_iff_even_run`: so a catalogue has an entry for a code exactly when one of the records for
  it stands there;
* `entry_hidden`: a header without a body hides the record that follows it.
-/

namespace Coupling

namespace Stashmaster

theorem after?_eq_some_iff {number : Char} {line rest : List Char} :
    after? number line = some rest ↔ line = number :: '|' :: rest := by
  unfold after?
  split
  · next c rest' =>
    by_cases same : c = number
    · simp [same]
    · simp [same]
  · next other =>
    refine ⟨nofun, ?_⟩
    rintro rfl
    exact absurd rfl (other number rest)

/-- Whether the line has the form of a header. -/
def opens (line : List Char) : Bool := (after? '1' line).isSome

/-- The number of headers, one after the other, with which the lines end. -/
def openRun (lines : List (List Char)) : Nat := (lines.rtakeWhile opens).length

/-- After the lines `before` stand a header and, on the next line, a body. -/
def RecordAfter (lines before : List (List Char)) (header body : List Char) : Prop :=
  ∃ after, lines = before ++ ('1' :: '|' :: header) :: ('2' :: '|' :: body) :: after

section
variable {line next : List Char} {lines : List (List Char)} {header body : List Char}

theorem openRun_nil : openRun [] = 0 := by rw [openRun, List.rtakeWhile_nil, List.length_nil]

theorem openRun_concat (lines : List (List Char)) (line : List Char) :
    openRun (lines ++ [line]) = if opens line then openRun lines + 1 else 0 := by
  rw [openRun, List.rtakeWhile_concat]
  split
  · rw [List.length_append, List.length_singleton, openRun]
  · rfl

theorem openRun_singleton (line : List Char) : openRun [line] = if opens line then 1 else 0 := by
  rw [← List.nil_append [line], openRun_concat, openRun_nil]

/-- Lines that end in an even run of headers do not change whether a later run is even. -/
theorem even_openRun_append (before lines : List (List Char)) (even : Even (openRun before)) :
    Even (openRun (before ++ lines)) ↔ Even (openRun lines) := by
  induction lines using List.reverseRecOn with
  | nil =>
    rw [List.append_nil, openRun_nil]
    exact iff_of_true even Even.zero
  | append_singleton lines last ih =>
    rw [← List.append_assoc, openRun_concat, openRun_concat]
    split
    · rw [Nat.even_add_one, Nat.even_add_one]
      exact not_congr ih
    · rfl

theorem even_openRun_cons (closed : opens line = false) (lines : List (List Char)) :
    Even (openRun (line :: lines)) ↔ Even (openRun lines) := by
  refine even_openRun_append [line] lines ?_
  rw [openRun_singleton, closed]
  exact Even.zero

/-- A header uses up the line after it, and what follows these two is read as without them. -/
theorem even_openRun_cons_cons (opening : opens line = true) (next : List Char)
    (lines : List (List Char)) :
    Even (openRun (line :: next :: lines)) ↔ Even (openRun lines) := by
  refine even_openRun_append ([line] ++ [next]) lines ?_
  rw [openRun_concat, openRun_singleton, if_pos opening]
  split <;> decide

/-- A header and its body stand after an even run of headers, so the header is not used up. -/
def RecordInTurn (lines : List (List Char)) (header body : List Char) : Prop :=
  ∃ before, RecordAfter lines before header body ∧ Even (openRun before)

theorem recordInTurn_cons_of_closed (closed : after? '1' line = none) :
    RecordInTurn (line :: lines) header body ↔ RecordInTurn lines header body := by
  have noHeader : opens line = false := by rw [opens, closed]; rfl
  constructor
  · rintro ⟨before, ⟨after, parts⟩, even⟩
    cases before with
    | nil =>
      obtain ⟨rfl, -⟩ := List.cons.inj parts
      cases closed
    | cons first before =>
      obtain ⟨rfl, rest⟩ := List.cons.inj parts
      exact ⟨before, ⟨after, rest⟩, (even_openRun_cons noHeader before).1 even⟩
  · rintro ⟨before, ⟨after, rfl⟩, even⟩
    exact ⟨line :: before, ⟨after, rfl⟩, (even_openRun_cons noHeader before).2 even⟩

theorem recordInTurn_cons_cons {opened : List Char} (opening : after? '1' line = some opened) :
    RecordInTurn (line :: next :: lines) header body ↔
      header = opened ∧ after? '2' next = some body ∨ RecordInTurn lines header body := by
  have isHeader : opens line = true := by rw [opens, opening]; rfl
  rw [after?_eq_some_iff] at opening ⊢
  constructor
  · rintro ⟨before, ⟨after, parts⟩, even⟩
    match before, parts with
    | [], parts =>
      obtain ⟨own, rest⟩ := List.cons.inj parts
      have same := own.symm.trans opening
      simp only [List.cons.injEq, true_and] at same
      exact .inl ⟨same, (List.cons.inj rest).1⟩
    | [first], parts =>
      -- the body would be a header that the first line uses up
      obtain ⟨rfl, -⟩ := List.cons.inj parts
      rw [openRun_singleton, if_pos isHeader] at even
      exact absurd even (by decide)
    | first :: second :: before, parts =>
      obtain ⟨rfl, later⟩ := List.cons.inj parts
      obtain ⟨rfl, rest⟩ := List.cons.inj later
      exact .inr ⟨before, ⟨after, rest⟩, (even_openRun_cons_cons isHeader _ before).1 even⟩
  · rintro (⟨rfl, closing⟩ | ⟨before, ⟨after, rfl⟩, even⟩)
    · exact ⟨[], ⟨lines, by rw [opening, closing, List.nil_append]⟩, openRun_nil ▸ Even.zero⟩
    · exact ⟨line :: next :: before, ⟨after, rfl⟩,
        (even_openRun_cons_cons isHeader next before).2 even⟩

/-- What is read together is a header and its body, where the header is not used up. -/
theorem mem_pairs_iff : (header, body) ∈ pairs lines ↔ RecordInTurn lines header body := by
  fun_induction pairs lines with
  | case1 =>
    refine iff_of_false List.not_mem_nil ?_
    rintro ⟨before, ⟨after, parts⟩, -⟩
    exact List.append_ne_nil_of_right_ne_nil before (List.cons_ne_nil _ _) parts.symm
  | case2 line rest closed ih => rw [recordInTurn_cons_of_closed closed, ih]
  | case3 line opened opening =>
    refine iff_of_false List.not_mem_nil ?_
    rintro ⟨before, ⟨after, parts⟩, -⟩
    have count := congrArg List.length parts
    simp only [List.length_append, List.length_cons, List.length_nil] at count
    omega
  | case4 line opened opening next rest closed closing ih =>
    rw [recordInTurn_cons_cons opening, closing, List.mem_cons, Prod.mk.injEq, Option.some.injEq,
      ih, eq_comm (a := closed)]
  | case5 line opened opening next rest noBody ih =>
    rw [recordInTurn_cons_cons opening, noBody, ih]
    simp

end

/-- **Whether a record counts.** A catalogue has an entry for a code exactly when its text has,
somewhere, a header and on the next line a body that together can be read as a record for the code,
and an even number of headers stands directly before them, one after the other. Lines that are no
headers make no difference, whatever they are. -/
theorem entry_iff_even_run (text : String) (code : StashCode) :
    (∃ entry, (parse text).entries.get? code = some entry) ↔
      ∃ before header body entry, RecordAfter (lines text) before header body ∧
        record? header body = some (code, entry) ∧ Even (openRun before) := by
  rw [parse, Table.exists_get?_ofList_iff]
  constructor
  · rintro ⟨entry, listed⟩
    obtain ⟨⟨header, body⟩, together, record⟩ := List.mem_filterMap.1 listed
    obtain ⟨before, stands, even⟩ := mem_pairs_iff.1 together
    exact ⟨before, header, body, entry, stands, record, even⟩
  · rintro ⟨before, header, body, entry, stands, record, even⟩
    have together := mem_pairs_iff.2 ⟨before, stands, even⟩
    exact ⟨entry, List.mem_filterMap.2 ⟨_, together, record⟩⟩

/-- The header of a diagnostic that lacks its body, and the complete record of another one. -/
def crowdedMaster : String :=
  "1|1|0|5|OROGRAPHIC GRADIENT|\n1|1|3|236|TEMPERATURE AT 1.5M|\n2|2|0|1|1|5|-1|-1|\n"

/-- The header without a body uses up the header of the record, and the record is lost. -/
theorem entry_hidden :
    (∃ before header body entry, RecordAfter (lines crowdedMaster) before header body ∧
      record? header body = some (⟨3, 236⟩, entry)) ∧
    (parse crowdedMaster).entries.get? ⟨3, 236⟩ = none := by
  refine ⟨⟨["1|1|0|5|OROGRAPHIC GRADIENT|".toList], "1|3|236|TEMPERATURE AT 1.5M|".toList,
    "2|0|1|1|5|-1|-1|".toList, ⟨"TEMPERATURE AT 1.5M", 1, -1, -1⟩, ⟨[[]], ?_⟩, ?_⟩, ?_⟩
  · decide
  · decide
  · decide

end Stashmaster

end Coupling
