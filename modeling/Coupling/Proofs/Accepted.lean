import Coupling.Proofs.Canonical

/-!
# Accepted texts

Which texts are accepted, and as which values:

* `Doc.Held d`: 64 bits hold every integer of the document `d`. The reader makes no other document
  (`Reader.value_held`, by induction on its steps), so no other value is accepted (`parse?_held`);
* `toJson?_eq_some_iff`: a document reads as a value exactly when it is the document of that value,
  so a text is accepted exactly when it is read as such a document that is not nested too deeply
  (`parse?_eq_some_iff`);
* `parse?_spells`: every text is accepted that spells a value, whatever blanks it has;
* `parse?_text`: the canonical text of an accepted value is accepted as the canonical value.
-/

namespace Coupling

/-- 64 bits hold every integer in the document. -/
inductive Doc.Held : Doc → Prop
  | null : Held .null
  | bool (b : Bool) : Held (.bool b)
  | int {n : Int} (fits : Json.Reader.Fits n) : Held (.int n)
  | text (s : String) : Held (.text s)
  | plain (s : String) : Held (.plain s)
  | unusable : Held .unusable
  | list {items : List Doc} (each : ∀ item ∈ items, Held item) : Held (.list items)
  | record {entries : List (Option String × Doc)} (each : ∀ e ∈ entries, Held e.2) :
      Held (.record entries)

namespace Json

namespace Reader

/-! ## What is read -/

theorem integer_held (negative : Bool) (n : Nat) : (integer negative n).Held := by
  have lower : Int64.minValue.toInt ≤ 0 := by decide
  have upper : (0 : Int) < UInt64.size := by decide
  unfold integer
  split
  · split
    · exact .unusable
    · next held => exact .int ⟨by omega, by omega⟩
  · split
    · next small => exact .int ⟨by omega, Int.ofNat_lt.2 small⟩
    · exact .unusable

theorem number_held {s rest : List Char} {d : Doc} (h : number s = some (d, rest)) : d.Held := by
  simp only [number, Option.bind_eq_bind, Option.bind_eq_some_iff, Option.pure_def,
    Option.some.injEq, Prod.mk.injEq] at h
  obtain ⟨⟨n, _⟩, -, ⟨fractional, _⟩, -, ⟨scaled, _⟩, -, rfl, -⟩ := h
  dsimp only
  split
  · exact .unusable
  · exact integer_held _ _

/-- What a bounded number of steps reads is held by 64 bits. -/
structure ReadsHeld (steps : Nat) : Prop where
  value : ∀ {s rest : List Char} {d : Doc}, value steps s = some (d, rest) → d.Held
  elements : ∀ {s rest : List Char} {items : List Doc},
    elements steps s = some (items, rest) → ∀ item ∈ items, item.Held
  members : ∀ {s rest : List Char} {entries : List (Option String × Doc)},
    members steps s = some (entries, rest) → ∀ e ∈ entries, e.2.Held

section
variable {steps : Nat} {s rest : List Char}

theorem value_held_succ (ih : ReadsHeld steps) {d : Doc}
    (h : value (steps + 1) s = some (d, rest)) : d.Held := by
  rw [value] at h
  split at h
  · split at h
    · obtain ⟨⟩ := h
      exact .record (List.forall_mem_nil _)
    · obtain ⟨⟨entries, _⟩, read, ⟨⟩⟩ := Option.map_eq_some_iff.1 h
      exact .record (ih.members read)
  · split at h
    · obtain ⟨⟩ := h
      exact .list (List.forall_mem_nil _)
    · obtain ⟨⟨items, _⟩, read, ⟨⟩⟩ := Option.map_eq_some_iff.1 h
      exact .list (ih.elements read)
  · obtain ⟨⟨units, _⟩, -, ⟨⟩⟩ := Option.map_eq_some_iff.1 h
    cases textOf units with
    | some s => exact .text s
    | none => exact .unusable
  · obtain ⟨⟩ := h
    exact .bool true
  · obtain ⟨⟩ := h
    exact .bool false
  · obtain ⟨⟩ := h
    exact .null
  · exact number_held h

theorem elements_held_succ (ih : ReadsHeld steps) {items : List Doc}
    (h : elements (steps + 1) s = some (items, rest)) : ∀ item ∈ items, item.Held := by
  rw [elements] at h
  split at h
  · cases h
  · next item _ first =>
    split at h
    · obtain ⟨⟨items, _⟩, read, ⟨⟩⟩ := Option.map_eq_some_iff.1 h
      exact List.forall_mem_cons.2 ⟨ih.value first, ih.elements read⟩
    · obtain ⟨⟩ := h
      exact List.forall_mem_cons.2 ⟨ih.value first, List.forall_mem_nil _⟩
    · cases h

theorem members_held_succ (ih : ReadsHeld steps) {entries : List (Option String × Doc)}
    (h : members (steps + 1) s = some (entries, rest)) : ∀ e ∈ entries, e.2.Held := by
  rw [members] at h
  split at h
  · split at h
    · cases h
    · split at h
      · split at h
        · cases h
        · next item _ first =>
          dsimp only at h
          split at h
          · obtain ⟨⟨entries, _⟩, read, ⟨⟩⟩ := Option.map_eq_some_iff.1 h
            exact List.forall_mem_cons.2 ⟨ih.value first, ih.members read⟩
          · obtain ⟨⟩ := h
            exact List.forall_mem_cons.2 ⟨ih.value first, List.forall_mem_nil _⟩
          · cases h
      · cases h
  · cases h

end

theorem readsHeld (steps : Nat) : ReadsHeld steps := by
  induction steps with
  | zero => exact ⟨nofun, nofun, nofun⟩
  | succ steps ih =>
    exact ⟨value_held_succ ih, elements_held_succ ih, members_held_succ ih⟩

end Reader

theorem read?_held {text : String} {d : Doc} (h : read? text = some d) : d.Held := by
  rw [read?, Reader.document] at h
  split at h
  · next d' _ read =>
    obtain ⟨-, ⟨⟩⟩ := Option.ite_none_right_eq_some.1 h
    exact (Reader.readsHeld _).value read
  · cases h

/-! ## What it stands for -/

theorem held_of_toDoc (j : Json) (h : j.toDoc.Held) : j.Held := by
  induction j using byParts with
  | null | bool | str => trivial
  | int n =>
    cases h with
    | int fits => exact fits
  | arr items ih =>
    rw [toDoc, toDocs_eq_map] at h
    cases h with
    | list each =>
      exact heldItems_iff.2 fun item member =>
        ih item member (each _ (List.mem_map_of_mem member))
  | obj entries ih =>
    rw [toDoc, toDocEntries_eq_map] at h
    cases h with
    | record each =>
      exact heldEntries_iff.2 fun e member => ih e member (each _ (List.mem_map_of_mem member))

theorem toJsons?_eq_some_iff {items : List Json}
    (each : ∀ item ∈ items, ∀ d : Doc, d.toJson? = some item ↔ d = item.toDoc) (ds : List Doc) :
    Doc.toJsons? ds = some items ↔ ds = toDocs items := by
  induction items generalizing ds with
  | nil => cases ds <;> simp [Doc.toJsons?, toDocs, Option.bind_eq_some_iff]
  | cons item items ih =>
    obtain ⟨first, others⟩ := List.forall_mem_cons.1 each
    cases ds with
    | nil => simp [Doc.toJsons?, toDocs]
    | cons d ds => simp [Doc.toJsons?, toDocs, Option.bind_eq_some_iff, first, ih others]

theorem toJsonEntries?_eq_some_iff {entries : List (String × Json)}
    (each : ∀ e ∈ entries, ∀ d : Doc, d.toJson? = some e.2 ↔ d = e.2.toDoc)
    (ds : List (Option String × Doc)) :
    Doc.toJsonEntries? ds = some entries ↔ ds = toDocEntries entries := by
  induction entries generalizing ds with
  | nil => cases ds <;> simp [Doc.toJsonEntries?, toDocEntries, Option.bind_eq_some_iff]
  | cons e entries ih =>
    obtain ⟨first, others⟩ := List.forall_mem_cons.1 each
    obtain ⟨key, value⟩ := e
    cases ds with
    | nil => simp [Doc.toJsonEntries?, toDocEntries]
    | cons d ds =>
      obtain ⟨name, d⟩ := d
      simp [Doc.toJsonEntries?, toDocEntries, Option.bind_eq_some_iff, first, ih others, and_assoc]

/-- A document reads as the value that it is the document of. -/
theorem toJson?_eq_some_iff {d : Doc} {j : Json} : d.toJson? = some j ↔ d = j.toDoc := by
  induction j using byParts generalizing d with
  | null | bool | int | str => cases d <;> simp [Doc.toJson?, toDoc]
  | arr items ih =>
    cases d <;> simp [Doc.toJson?, toDoc, toJsons?_eq_some_iff fun item member d => ih item member]
  | obj entries ih =>
    cases d <;> simp [Doc.toJson?, toDoc, toJsonEntries?_eq_some_iff fun e member d => ih e member]

theorem parse?_eq_some_iff {text : String} {j : Json} :
    parse? text = some j ↔ read? text = some j.toDoc ∧ j.toDoc.depth ≤ maxDepth := by
  rw [parse?]
  cases read? text with
  | none => simp
  | some d =>
    simp only [Option.ite_none_right_eq_some, toJson?_eq_some_iff, Option.some.injEq]
    constructor
    · rintro ⟨shallow, rfl⟩
      exact ⟨rfl, shallow⟩
    · rintro ⟨rfl, shallow⟩
      exact ⟨shallow, rfl⟩

theorem parse?_held {text : String} {j : Json} (h : parse? text = some j) : j.Held :=
  held_of_toDoc j (read?_held (parse?_eq_some_iff.1 h).1)

theorem depthOfItems_le_iff {items : List Doc} {n : Nat} :
    Doc.depthOfItems items ≤ n ↔ ∀ item ∈ items, item.depth ≤ n := by
  induction items with
  | nil => simp [Doc.depthOfItems]
  | cons item items ih => rw [Doc.depthOfItems, Nat.max_le, ih, List.forall_mem_cons]

theorem depthOfEntries_le_iff {entries : List (Option String × Doc)} {n : Nat} :
    Doc.depthOfEntries entries ≤ n ↔ ∀ e ∈ entries, e.2.depth ≤ n := by
  induction entries with
  | nil => simp [Doc.depthOfEntries]
  | cons e entries ih => rw [Doc.depthOfEntries, Nat.max_le, ih, List.forall_mem_cons]

/-- Leaving out repeated keys does not nest a value deeper. -/
theorem depth_doc_le (j : Json) : j.doc.depth ≤ j.toDoc.depth := by
  induction j using byParts with
  | null | bool | int | str => exact Nat.le_refl _
  | arr items ih =>
    rw [doc_arr, toDoc, toDocs_eq_map, Doc.depth, Doc.depth]
    have bound := depthOfItems_le_iff.1 (Nat.le_refl (Doc.depthOfItems (items.map toDoc)))
    refine Nat.succ_le_succ (depthOfItems_le_iff.2 (List.forall_mem_map.2 ?_))
    exact fun item member => Nat.le_trans (ih item member) (bound _ (List.mem_map_of_mem member))
  | obj entries ih =>
    rw [doc_obj, toDoc, toDocEntries_eq_map, Doc.depth, Doc.depth]
    have bound := depthOfEntries_le_iff.1 (Nat.le_refl
      (Doc.depthOfEntries (entries.map fun e => (some e.1, e.2.toDoc))))
    refine Nat.succ_le_succ (depthOfEntries_le_iff.2 (List.forall_mem_map.2 ?_))
    intro e member
    have listed := Table.mem_ofList member
    exact Nat.le_trans (ih e listed) (bound _ (List.mem_map_of_mem listed))

theorem parse?_text {text : String} {j : Json} (h : parse? text = some j) :
    parse? j.text = some j.canonical := by
  have shallow := (parse?_eq_some_iff.1 h).2
  exact parse?_eq_some_iff.2 ⟨read?_text j (parse?_held h), Nat.le_trans (depth_doc_le j) shallow⟩

end Json

end Coupling
