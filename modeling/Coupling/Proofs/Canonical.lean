import Coupling.Proofs.JsonText
import Coupling.Proofs.Tables

/-!
# Canonical values

What is read back from the canonical text of a value:

* `Json.doc` is the document of the canonical form. `read?_text` says that the canonical text reads
  as it, so values with one text have one document (`doc_eq_of_text_eq`);
* `doc_arr` and `doc_obj`: a list keeps its items in order, and an object keeps its entries in the
  order of their keys.
-/

namespace Coupling.Json

theorem canonicalItems_eq_map (items : List Json) : canonicalItems items = items.map canonical := by
  induction items with
  | nil => rfl
  | cons item items ih => rw [canonicalItems, ih, List.map_cons]

theorem canonicalEntries_eq_map (entries : List (String × Json)) :
    canonicalEntries entries = entries.map fun e => (e.1, canonical e.2) := by
  induction entries with
  | nil => rfl
  | cons e entries ih => rw [canonicalEntries, ih, List.map_cons]

theorem toDocs_eq_map (items : List Json) : toDocs items = items.map toDoc := by
  induction items with
  | nil => rfl
  | cons item items ih => rw [toDocs, ih, List.map_cons]

theorem toDocEntries_eq_map (entries : List (String × Json)) :
    toDocEntries entries = entries.map fun e => (some e.1, e.2.toDoc) := by
  induction entries with
  | nil => rfl
  | cons e entries ih => rw [toDocEntries, ih, List.map_cons]

theorem heldItems_iff {items : List Json} : HeldItems items ↔ ∀ item ∈ items, item.Held := by
  induction items with
  | nil => simp [HeldItems]
  | cons item items ih => simp [HeldItems, ih]

theorem heldEntries_iff {entries : List (String × Json)} :
    HeldEntries entries ↔ ∀ e ∈ entries, e.2.Held := by
  induction entries with
  | nil => simp [HeldEntries]
  | cons e entries ih => simp [HeldEntries, ih]

/-- Induction on a value, whose items or entries come before it. -/
@[elab_as_elim]
theorem byParts {P : Json → Prop} (null : P .null) (bool : ∀ b, P (.bool b))
    (int : ∀ n, P (.int n)) (str : ∀ s, P (.str s))
    (arr : ∀ items, (∀ item ∈ items, P item) → P (.arr items))
    (obj : ∀ entries, (∀ e ∈ entries, P e.2) → P (.obj entries)) (j : Json) : P j :=
  @Json.rec P (fun items => ∀ item ∈ items, P item) (fun entries => ∀ e ∈ entries, P e.2)
    (fun e => P e.2) null bool int str arr obj nofun
    (fun _ _ first others => List.forall_mem_cons.2 ⟨first, others⟩) nofun
    (fun _ _ first others => List.forall_mem_cons.2 ⟨first, others⟩) (fun _ _ value => value) j

theorem Held.canonical (j : Json) (h : j.Held) : j.canonical.Held := by
  induction j using byParts with
  | null | bool | str => trivial
  | int => exact h
  | arr items ih =>
    rw [Json.canonical, canonicalItems_eq_map]
    refine heldItems_iff.2 (List.forall_mem_map.2 ?_)
    exact fun item member => ih item member (heldItems_iff.1 h item member)
  | obj entries ih =>
    rw [Json.canonical, canonicalEntries_eq_map, Table.ofList_map]
    refine heldEntries_iff.2 (List.forall_mem_map.2 ?_)
    intro e member
    have listed := Table.mem_ofList member
    exact ih e listed (heldEntries_iff.1 h e listed)

/-- What the canonical text of a value reads as. -/
def doc (j : Json) : Doc := j.canonical.toDoc

theorem read?_text (j : Json) (held : j.Held) : read? j.text = some j.doc := by
  have read := Reader.document_spells (spells_write j.canonical) (Held.canonical j held)
    Reader.blanks_nil Reader.blanks_nil
  rw [List.nil_append, List.append_nil] at read
  rw [read?, text, String.toList_ofList, read, doc]

theorem doc_eq_of_text_eq {j k : Json} (hj : j.Held) (hk : k.Held) (same : j.text = k.text) :
    j.doc = k.doc :=
  Option.some.inj ((read?_text j hj).symm.trans (same ▸ read?_text k hk))

theorem doc_int (n : Int) : (int n).doc = .int n := rfl

theorem doc_arr (items : List Json) : (arr items).doc = .list (items.map doc) := by
  rw [doc, canonical, toDoc, canonicalItems_eq_map, toDocs_eq_map, List.map_map]
  rfl

/-- An object keeps its entries, in the order of their keys. -/
theorem doc_obj (entries : List (String × Json)) : (obj entries).doc =
    .record ((Table.ofList entries).entries.map fun e => (some e.1, e.2.doc)) := by
  rw [doc, canonical, toDoc, canonicalEntries_eq_map, Table.ofList_map, toDocEntries_eq_map,
    List.map_map]
  rfl

end Coupling.Json
