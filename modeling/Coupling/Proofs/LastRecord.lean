import Coupling.Proofs.Header
import Coupling.Proofs.RecordLines
import Mathlib.Data.Nat.Find

/-!
# The record that counts

What a catalogue holds, record by record:

* `Tells`: what a header and a body say when they are read together. They can be read as a record
  exactly when they say something (`record?_eq_some_iff`);
* `ReadAfter`: behind some lines a record is read. Lines that end in an even run of headers are
  read apart from what follows them (`pairs_append`);
* `LastReadAfter`: of the records that are read for a code it is the last. It is what the catalogue
  says about the code (`get?_parse_eq_some_iff`);
* `Ended`: a text ends in a whole line that is no header. What is appended to such a text is read
  as if it stood alone, and its entries override those of the text (`get?_parse_append`);
* `last_record_counts` puts this together.
-/

namespace Coupling

namespace Stashmaster

theorem code?_eq_some_iff {n : Int} {k : UInt16} : code? n = some k ↔ n = k.toNat := by
  have small : k.toNat < UInt16.size := k.toNat_lt
  unfold code?
  constructor
  · split
    · next within =>
      rintro ⟨⟩
      rw [UInt16.toNat_ofNat_of_lt' (by omega)]
      omega
    · rintro ⟨⟩
  · rintro rfl
    rw [if_pos (by omega)]
    simp

/-- What a header and a body say together: the header has the model, which is the atmosphere, the
section, the item and the name, and the body the grid code and the markers of the levels. -/
structure Tells (header body : List Char) (code : StashCode) (entry : StashEntry) : Prop where
  model : numberAt? (columns header) 0 = some 1
  sectionNo : numberAt? (columns header) 1 = some code.sectionNo.toNat
  itemNo : numberAt? (columns header) 2 = some code.itemNo.toNat
  longName : (columns header)[3]? = some entry.longName
  grid : numberAt? (columns body) 3 = some entry.grid
  firstLevel : numberAt? (columns body) 5 = some entry.firstLevel
  lastLevel : numberAt? (columns body) 6 = some entry.lastLevel

section
variable {header body : List Char} {lines before : List (List Char)}
  {code : StashCode} {entry : StashEntry}

theorem record?_eq_some_iff : record? header body = some (code, entry) ↔
    Tells header body code entry := by
  unfold record?
  simp only [Option.bind_eq_bind, Option.bind_eq_some_iff]
  constructor
  · rintro ⟨model, hmodel, sectionNo, ⟨_, hsection, inSection⟩, itemNo, ⟨_, hitem, inItem⟩, rest⟩
    obtain rfl := code?_eq_some_iff.1 inSection
    obtain rfl := code?_eq_some_iff.1 inItem
    split at rest
    · cases rest
    · next atmosphere =>
      obtain rfl := not_not.1 atmosphere
      simp only [Option.bind_eq_some_iff, Option.pure_def, Option.some.injEq,
        Prod.mk.injEq] at rest
      obtain ⟨longName, hname, grid, hgrid, first, hfirst, last, hlast, rfl, rfl⟩ := rest
      exact ⟨hmodel, hsection, hitem, hname, hgrid, hfirst, hlast⟩
  · intro h
    refine ⟨1, h.model, code.sectionNo, ⟨_, h.sectionNo, code?_eq_some_iff.2 rfl⟩, code.itemNo,
      ⟨_, h.itemNo, code?_eq_some_iff.2 rfl⟩, ?_⟩
    simp [h.longName, h.grid, h.firstLevel, h.lastLevel]

/-! ## Reading in order -/

/-- Lines that end in an even run of headers are read apart from those behind them. -/
theorem pairs_append (even : Even (openRun before)) (lines : List (List Char)) :
    pairs (before ++ lines) = pairs before ++ pairs lines := by
  fun_induction pairs before with
  | case1 => rfl
  | case2 line rest closed ih =>
    have noHeader : opens line = false := by rw [opens, closed]; rfl
    rw [List.cons_append, pairs, closed]
    exact ih ((even_openRun_cons noHeader rest).1 even)
  | case3 line opened opening =>
    have isHeader : opens line = true := by rw [opens, opening]; rfl
    rw [openRun_singleton, if_pos isHeader] at even
    exact absurd even (by decide)
  | case4 line opened opening next rest closed closing ih =>
    have isHeader : opens line = true := by rw [opens, opening]; rfl
    have rest := ih ((even_openRun_cons_cons isHeader next rest).1 even)
    simp only [List.cons_append, pairs, opening, closing, rest]
  | case5 line opened opening next rest noBody ih =>
    have isHeader : opens line = true := by rw [opens, opening]; rfl
    have rest := ih ((even_openRun_cons_cons isHeader next rest).1 even)
    simp only [List.cons_append, pairs, opening, noBody, rest]

/-- The records of some lines, in the order in which they are read. -/
def records (lines : List (List Char)) : List (StashCode × StashEntry) :=
  (pairs lines).filterMap fun (header, body) => record? header body

theorem entries_parse (text : String) :
    (parse text).entries = Table.ofList (records (Stashmaster.lines text)) := rfl

theorem records_append (even : Even (openRun before)) (lines : List (List Char)) :
    records (before ++ lines) = records before ++ records lines := by
  rw [records, pairs_append even, List.filterMap_append]
  rfl

/-- Directly behind the lines `before` a record is read: they end in an even run of headers, and
the next two lines are a header and a body that together say `entry` about `code`. -/
def ReadAfter (lines before : List (List Char)) (code : StashCode) (entry : StashEntry) : Prop :=
  ∃ header body, RecordAfter lines before header body ∧ Even (openRun before) ∧
    Tells header body code entry

theorem mem_records_iff : (code, entry) ∈ records lines ↔
    ∃ before, ReadAfter lines before code entry := by
  rw [records, List.mem_filterMap]
  constructor
  · rintro ⟨⟨header, body⟩, together, record⟩
    obtain ⟨before, stands, even⟩ := mem_pairs_iff.1 together
    exact ⟨before, header, body, stands, even, record?_eq_some_iff.1 record⟩
  · rintro ⟨before, header, body, stands, even, tells⟩
    exact ⟨(header, body), mem_pairs_iff.2 ⟨before, stands, even⟩, record?_eq_some_iff.2 tells⟩

/-- A record is read after those before it and before those behind it. -/
theorem records_of_readAfter (h : ReadAfter lines before code entry) :
    ∃ after, records lines = records before ++ (code, entry) :: records after ∧
      ∀ later entry', ReadAfter after later code entry' →
        ∃ before', ReadAfter lines before' code entry' ∧ before.length < before'.length := by
  obtain ⟨header, body, ⟨after, rfl⟩, even, tells⟩ := h
  have closing : after? '2' ('2' :: '|' :: body) = some body := after?_eq_some_iff.2 rfl
  have opening : after? '1' ('1' :: '|' :: header) = some header := after?_eq_some_iff.2 rfl
  refine ⟨after, ?_, ?_⟩
  · have next : records (('1' :: '|' :: header) :: ('2' :: '|' :: body) :: after) =
        (code, entry) :: records after := by
      simp only [records, pairs, opening, closing, List.filterMap_cons,
        record?_eq_some_iff.2 tells]
    rw [records_append even, next]
  · rintro later entry' ⟨header', body', ⟨rest, rfl⟩, even', tells'⟩
    have isHeader : opens ('1' :: '|' :: header) = true := by rw [opens, opening]; rfl
    have own := (even_openRun_cons_cons isHeader ('2' :: '|' :: body) later).2 even'
    refine ⟨before ++ ('1' :: '|' :: header) :: ('2' :: '|' :: body) :: later,
      ⟨header', body', ⟨rest, by simp⟩, (even_openRun_append before _ even).2 own, tells'⟩, ?_⟩
    simp only [List.length_append, List.length_cons]
    omega

/-- No record that is read for the code stands further down than the one behind `before`. -/
structure LastReadAfter (lines before : List (List Char)) (code : StashCode)
    (entry : StashEntry) : Prop where
  read : ReadAfter lines before code entry
  last : ∀ before' entry', ReadAfter lines before' code entry' → before'.length ≤ before.length

/-- Where records are read for a code, one of them is the last. -/
theorem exists_lastReadAfter (h : ReadAfter lines before code entry) :
    ∃ before entry, LastReadAfter lines before code entry := by
  classical
  let reads (n : Nat) : Prop :=
    ∃ before entry, ReadAfter lines before code entry ∧ before.length = n
  have within : ∀ {before entry}, ReadAfter lines before code entry →
      before.length ≤ lines.length := by
    rintro before entry ⟨header, body, ⟨after, rfl⟩, -, -⟩
    simp
  obtain ⟨last, entry', read, longest⟩ : reads (Nat.findGreatest reads lines.length) :=
    Nat.findGreatest_spec (within h) ⟨before, entry, h, rfl⟩
  refine ⟨last, entry', read, fun before' entry'' read' => ?_⟩
  rw [longest]
  exact Nat.le_findGreatest (within read') ⟨before', entry'', read', rfl⟩

end

section
variable {text : String} {before : List (List Char)} {code : StashCode} {entry : StashEntry}

theorem exists_get?_parse_iff : (∃ entry, (parse text).entries.get? code = some entry) ↔
    ∃ before entry, ReadAfter (lines text) before code entry := by
  rw [entries_parse, Table.exists_get?_ofList_iff]
  simp only [mem_records_iff]
  exact exists_comm

/-- The last record that is read for a code is what the catalogue says about it. -/
theorem LastReadAfter.get?_parse (h : LastReadAfter (lines text) before code entry) :
    (parse text).entries.get? code = some entry := by
  obtain ⟨after, order, later⟩ := records_of_readAfter h.read
  have none_ : (Table.ofList (records after)).get? code = none := by
    rw [Option.eq_none_iff_forall_ne_some]
    intro entry' found
    obtain ⟨entry', listed⟩ := Table.exists_get?_ofList_iff.1 ⟨entry', found⟩
    obtain ⟨behind, read⟩ := mem_records_iff.1 listed
    obtain ⟨before', read', longer⟩ := later behind entry' read
    exact absurd (h.last before' entry' read') (by omega)
  rw [entries_parse, order, List.append_cons, Table.get?_ofList_append, Table.ofList_concat,
    Table.get?_insert, none_, Option.none_or]

theorem get?_parse_eq_some_iff : (parse text).entries.get? code = some entry ↔
    ∃ before, LastReadAfter (lines text) before code entry := by
  constructor
  · intro found
    obtain ⟨before, entry', read⟩ := exists_get?_parse_iff.1 ⟨entry, found⟩
    obtain ⟨before, entry', last⟩ := exists_lastReadAfter read
    obtain rfl := Option.some.inj (last.get?_parse.symm.trans found)
    exact ⟨before, last⟩
  · rintro ⟨before, last⟩
    exact last.get?_parse

end

/-! ## Texts behind each other -/

/-- The text is empty, or it ends in a line break and its last line is no header. -/
def Ended (text : String) : Prop :=
  text = "" ∨ ∃ before, text = before ++ "\n" ∧
    ∀ header, (lines before).getLast? ≠ some ('1' :: '|' :: header)

theorem lines_append_break (text later : String) :
    lines (text ++ "\n" ++ later) = lines text ++ lines later := by
  have parts : (text ++ "\n" ++ later).toList = text.toList ++ '\n' :: later.toList := by simp
  rw [lines, parts, Text.split_append_sep, List.map_append]
  rfl

theorem records_empty : records (lines "") = [] := by decide

/-- An ended text leaves nothing open for the text behind it. -/
theorem Ended.records_append {text : String} (h : Ended text) (later : String) :
    records (lines (text ++ later)) = records (lines text) ++ records (lines later) := by
  rcases h with rfl | ⟨before, rfl, last⟩
  · rw [records_empty, String.empty_append, List.nil_append]
  · have even : Even (openRun (lines before)) := by
      rcases List.eq_nil_or_concat (lines before) with none_ | ⟨others, line, split⟩
      · rw [none_, openRun_nil]
        exact Even.zero
      · have noHeader : opens line ≠ true := by
          intro opening
          obtain ⟨header, opening⟩ := Option.isSome_iff_exists.1 opening
          rw [after?_eq_some_iff] at opening
          exact last header (by rw [split, opening]; simp)
        rw [split, List.concat_eq_append, openRun_concat, if_neg noHeader]
        exact Even.zero
    have alone : records (lines (before ++ "\n")) = records (lines before) := by
      have whole := lines_append_break before ""
      rw [String.append_empty] at whole
      rw [whole, Stashmaster.records_append even, records_empty, List.append_nil]
    rw [lines_append_break, Stashmaster.records_append even, alone]

theorem get?_parse_append {text : String} (h : Ended text) (later : String) (code : StashCode) :
    (parse (text ++ later)).entries.get? code =
      ((parse later).entries.get? code).or ((parse text).entries.get? code) := by
  rw [entries_parse, h.records_append, Table.get?_ofList_append]
  rfl

/-- **The last record counts.** A catalogue has, for each code, the entry of the last record that is
read for it, and nothing else. So it has as many entries as there are codes for which a record is
read, and the entries of a text behind an ended one override those of the ended one. -/
theorem last_record_counts (text : String) :
    (∀ code entry, (parse text).entries.get? code = some entry ↔
      ∃ before, LastReadAfter (lines text) before code entry) ∧
    (∃ codes : List StashCode, codes.Nodup ∧ (parse text).entries.size = codes.length ∧
      ∀ code, code ∈ codes ↔ ∃ before entry, ReadAfter (lines text) before code entry) ∧
    (Ended text → ∀ later code, (parse (text ++ later)).entries.get? code =
      ((parse later).entries.get? code).or ((parse text).entries.get? code)) := by
  refine ⟨fun code entry => get?_parse_eq_some_iff, ?_, fun h => get?_parse_append h⟩
  refine ⟨(parse text).entries.keys, (parse text).entries.keys_nodup, ?_, ?_⟩
  · rw [Table.size, Table.keys, List.length_map]
  · intro code
    rw [Table.mem_keys_iff, exists_get?_parse_iff]

/-- The records of a temperature and of a wind, whose lines end in different ways. -/
def windMaster : String :=
  "1|1|3|236|SCREEN|\n2|2|0|1|1|5|-1|-1|\n1|1|0|2|WIND|\r\n2|2|0|1|18|1|1|2|\r"

/-- Another record of the temperature. -/
def updateMaster : String := "1|1|3|236|TEMPERATURE AT 1.5M|\n2|2|0|1|1|5|-1|-1|"

/-- The update replaces what the catalogue says about the temperature and keeps the wind. -/
theorem last_record_counts_update : Ended (windMaster ++ "\n") ∧
    (parse (windMaster ++ "\n" ++ updateMaster)).entries.get? ⟨3, 236⟩ =
      some ⟨"TEMPERATURE AT 1.5M", 1, -1, -1⟩ ∧
    (parse (windMaster ++ "\n" ++ updateMaster)).entries.get? ⟨0, 2⟩ =
      some ⟨"WIND", 18, 1, 2⟩ := by
  have ended : Ended (windMaster ++ "\n") := by
    refine .inr ⟨windMaster, rfl, fun header last => ?_⟩
    have body : (lines windMaster).getLast? = some "2|2|0|1|18|1|1|2|".toList := by decide
    cases body.symm.trans last
  obtain ⟨-, -, append⟩ := last_record_counts (windMaster ++ "\n")
  refine ⟨ended, ?_, ?_⟩
  · rw [append ended]
    decide
  · rw [append ended]
    decide

end Stashmaster

end Coupling
