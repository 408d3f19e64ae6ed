import Coupling.Proofs.Canonical

/-!
# Reading values back

Values are kept as canonical texts, and reading a text gives back what was written:

* `Persists write read`: whatever is written is read back, and 64 bits hold its integers. So what
  is written tells values apart (`Persists.text_injective`);
* texts, numbers, lists and tables persist, the last two if what they hold does;
* `asFields?_objOfPresent`: a record finds each field under its name, and nothing where an optional
  field was left out.
-/

namespace Coupling

/-- What is written is read back from the canonical text. -/
structure Persists {α : Type} (write : α → Json) (read : Doc → Option α) : Prop where
  held : ∀ a, (write a).Held
  back : ∀ a, read (write a).doc = some a

section
variable {α β : Type}

/-- Where the elements are read back, the list is. -/
theorem mapM_map_eq_some {write : α → β} {read : β → Option α} (back : ∀ a, read (write a) = some a)
    (as : List α) : (as.map write).mapM read = some as := by
  induction as with
  | nil => rfl
  | cons a as ih =>
    rw [List.map_cons, List.mapM_cons, back, ih]
    rfl

/-- A list in another order is read as the same elements in another order. -/
theorem mapM_perm {f : α → Option β} {as as' : List α} {bs : List β} (h : as.Perm as')
    (read : as'.mapM f = some bs) : ∃ bs', as.mapM f = some bs' ∧ bs'.Perm bs := by
  induction h generalizing bs with
  | nil => exact ⟨bs, read, .refl _⟩
  | cons a _ ih =>
    simp only [List.mapM_cons, Option.bind_eq_bind, Option.bind_eq_some_iff] at read ⊢
    obtain ⟨b, first, rest, others, same⟩ := read
    obtain ⟨rest', others', perm⟩ := ih others
    obtain rfl := Option.some.inj same
    exact ⟨_, ⟨b, first, rest', others', rfl⟩, perm.cons b⟩
  | swap a a' as =>
    simp only [List.mapM_cons, Option.bind_eq_bind, Option.bind_eq_some_iff] at read ⊢
    obtain ⟨b, first, _, ⟨b', second, rest, others, inner⟩, outer⟩ := read
    obtain rfl := Option.some.inj inner
    obtain rfl := Option.some.inj outer
    exact ⟨_, ⟨b', second, _, ⟨b, first, rest, others, rfl⟩, rfl⟩, .swap b b' rest⟩
  | trans _ _ ih ih' =>
    obtain ⟨middle, readMiddle, perm⟩ := ih' read
    obtain ⟨first, readFirst, perm'⟩ := ih readMiddle
    exact ⟨first, readFirst, perm'.trans perm⟩

end

namespace Persists

variable {α : Type} {write : α → Json} {read : Doc → Option α}

theorem text_injective (h : Persists write read) {a b : α}
    (same : (write a).text = (write b).text) : a = b := by
  have docs := Json.doc_eq_of_text_eq (h.held a) (h.held b) same
  have back := h.back a
  rw [docs, h.back b] at back
  exact (Option.some.inj back).symm

theorem str : Persists Json.str Doc.asText? where
  held _ := trivial
  back _ := rfl

theorem bool : Persists Json.bool Doc.asBool? where
  held _ := trivial
  back _ := rfl

theorem fits_natCast {n : Nat} (h : n < UInt64.size) : Json.Reader.Fits n := by
  have lower : Int64.minValue.toInt ≤ 0 := by decide
  exact ⟨by omega, Int.ofNat_lt.2 h⟩

theorem asNat?_int {n bound : Nat} (h : n < bound) : (Doc.int n).asNat? bound = some n :=
  if_pos h

theorem uint32 : Persists (fun n : UInt32 => .int n.toNat) Doc.asUInt32? where
  held n := fits_natCast (Nat.lt_trans n.toNat_lt (by decide))
  back n := by
    rw [Json.doc_int, Doc.asUInt32?, asNat?_int n.toNat_lt, Option.map_some, UInt32.ofNat_toNat]

theorem uint64 : Persists (fun n : UInt64 => .int n.toNat) Doc.asUInt64? where
  held n := fits_natCast n.toNat_lt
  back n := by
    rw [Json.doc_int, Doc.asUInt64?, asNat?_int n.toNat_lt, Option.map_some, UInt64.ofNat_toNat]

theorem uint8 : Persists (fun n : UInt8 => .int n.toNat) Doc.asUInt8? where
  held n := fits_natCast (Nat.lt_trans n.toNat_lt (by decide))
  back n := by
    rw [Json.doc_int, Doc.asUInt8?, asNat?_int n.toNat_lt, Option.map_some, UInt8.ofNat_toNat]

theorem int64 : Persists (fun n : Int64 => .int n.toInt) Doc.asInt64? where
  held n := ⟨Int64.minValue_le_toInt n, Int.lt_trans n.toInt_lt (by decide)⟩
  back n := by
    have within : Int64.minValue.toInt ≤ n.toInt ∧ n.toInt ≤ Int64.maxValue.toInt :=
      ⟨Int64.minValue_le_toInt n, Int64.toInt_le n⟩
    rw [Json.doc_int, Doc.asInt64?, Doc.asInt?, if_pos within, Option.map_some, Int64.ofInt_toInt]

theorem char : Persists (fun c : Char => .str c.toString) Doc.asChar? where
  held _ := trivial
  back c := by
    have single : c.toString.toList = [c] := by
      rw [Char.toString_eq_singleton, String.toList_singleton]
    show Doc.asChar? (.text c.toString) = some c
    rw [Doc.asChar?, Doc.asText?, Option.map_some, single]

/-- What may be absent persists, unless one of its values stands for an absent one. -/
theorem option (h : Persists write read) (present : ∀ a, (write a).doc.isAbsent = false) :
    Persists (Json.ofOption write) (Doc.asOption? read) where
  held o := by
    cases o with
    | none => trivial
    | some a => exact h.held a
  back o := by
    cases o with
    | none => rfl
    | some a =>
      show Doc.asOption? read (write a).doc = some (some a)
      rw [Doc.asOption?, present, h.back]
      rfl

theorem list (h : Persists write read) :
    Persists (fun as => .arr (as.map write)) (Doc.asListOf? read) where
  held as := by
    refine Json.heldItems_iff.2 ?_
    intro j hj
    obtain ⟨a, -, rfl⟩ := List.mem_map.1 hj
    exact h.held a
  back as := by
    rw [Json.doc_arr, List.map_map]
    exact mapM_map_eq_some h.back as

/-- A table persists whose keys and values are read back. -/
theorem table {κ : Type} [Ord κ] [Std.TransOrd κ] [Std.LawfulEqOrd κ] {writeKey : κ → String}
    {readKey : String → Option κ} (h : Persists write read)
    (keys : ∀ key, readKey (writeKey key) = some key) :
    Persists (fun t : Table κ α => .obj (t.entries.map fun e => (writeKey e.1, write e.2)))
      (Doc.asTable? readKey read) where
  held t := by
    refine Json.heldEntries_iff.2 ?_
    intro e he
    obtain ⟨entry, -, rfl⟩ := List.mem_map.1 he
    exact h.held entry.2
  back t := by
    let entry (e : κ × α) : Option String × Doc := (some (writeKey e.1), (write e.2).doc)
    let readEntry (e : Option String × Doc) : Option (κ × α) := do
      return (← readKey (← e.1), ← read e.2)
    have injective : Function.Injective writeKey := by
      intro key key' same
      exact Option.some.inj ((keys key).symm.trans (same ▸ keys key'))
    have distinct : ((t.entries.map fun e => (writeKey e.1, write e.2)).map Prod.fst).Nodup := by
      have named := t.keys_nodup.map injective
      rw [List.map_map] at named ⊢
      exact named
    have perm := (Table.ofList_perm distinct).map fun e => (some e.1, e.2.doc)
    rw [List.map_map] at perm
    have back : ∀ e : κ × α, readEntry (entry e) = some e := by
      intro e
      simp only [readEntry, entry, Option.bind_eq_bind, Option.bind_some, keys, h.back]
      rfl
    obtain ⟨entries, found, same⟩ := mapM_perm perm (mapM_map_eq_some back t.entries)
    rw [Json.doc_obj]
    show (List.mapM readEntry _ >>= fun entries => some (Table.ofList entries)) = some t
    rw [found]
    exact congrArg some (Table.ofList_of_perm same)

end Persists

/-! ## Records -/

section
variable {β : Type} {entries others : List (String × β)}

theorem lookup_eq_some_iff (distinct : (entries.map Prod.fst).Nodup) {key : String} {value : β} :
    entries.lookup key = some value ↔ (key, value) ∈ entries := by
  induction entries with
  | nil => simp
  | cons e entries ih =>
    obtain ⟨k, v⟩ := e
    rw [List.map_cons, List.nodup_cons] at distinct
    obtain ⟨fresh, distinct⟩ := distinct
    by_cases same : key = k
    · subst same
      have unlisted : (key, value) ∉ entries := fun member =>
        fresh (List.mem_map.2 ⟨_, member, rfl⟩)
      simp [unlisted, eq_comm]
    · have other : (key == k) = false := beq_eq_false_iff_ne.2 same
      rw [List.lookup_cons, other, ih distinct]
      simp [same]

theorem lookup_perm (h : entries.Perm others) (distinct : (others.map Prod.fst).Nodup)
    (key : String) : entries.lookup key = others.lookup key := by
  have distinct' := (h.map Prod.fst).nodup_iff.2 distinct
  ext value
  rw [lookup_eq_some_iff distinct, lookup_eq_some_iff distinct', h.mem_iff]

theorem lookup_map {γ : Type} (f : β → γ) (entries : List (String × β)) (key : String) :
    (entries.map fun e => (e.1, f e.2)).lookup key = (entries.lookup key).map f := by
  induction entries with
  | nil => rfl
  | cons e entries ih =>
    rw [List.map_cons, List.lookup_cons, List.lookup_cons, ih]
    cases key == e.1 <;> rfl

/-- The entries that are present. -/
theorem keys_present_sublist (entries : List (String × Option β)) :
    ((entries.filterMap fun (k, value) => value.map (k, ·)).map Prod.fst).Sublist
      (entries.map Prod.fst) := by
  induction entries with
  | nil => exact .slnil
  | cons e entries ih =>
    obtain ⟨k, value⟩ := e
    cases value with
    | none => exact ih.cons k
    | some v => exact ih.cons_cons k

/-- What is present in a list is found, as long as no key is repeated. -/
theorem lookup_present {entries : List (String × Option β)}
    (distinct : (entries.map Prod.fst).Nodup) (key : String) :
    (entries.filterMap fun (k, value) => value.map (k, ·)).lookup key =
      (entries.lookup key).join := by
  induction entries with
  | nil => rfl
  | cons e entries ih =>
    obtain ⟨k, value⟩ := e
    rw [List.map_cons, List.nodup_cons] at distinct
    obtain ⟨fresh, distinct⟩ := distinct
    rw [List.lookup_cons]
    cases value with
    | none =>
      show List.lookup key (entries.filterMap _) = _
      by_cases same : key = k
      · subst same
        have unlisted := fun listed => fresh ((keys_present_sublist entries).subset listed)
        rw [beq_self_eq_true, List.lookup_eq_none_iff.2]
        · rfl
        · intro e member
          exact bne_iff_ne.2 fun same => unlisted (List.mem_map.2 ⟨e, member, same.symm⟩)
      · rw [beq_eq_false_iff_ne.2 same, ih distinct]
    | some v =>
      show List.lookup key ((k, v) :: entries.filterMap _) = _
      rw [List.lookup_cons, ih distinct]
      cases key == k <;> rfl

end

/-- A record finds each field under its name. -/
theorem asFields?_obj (known : List String) {entries : List (String × Json)}
    (distinct : (entries.map Prod.fst).Nodup) :
    ∃ fields, (Json.obj entries).doc.asFields? known = some fields ∧
      ∀ name, fields.lookup name = (entries.lookup name).map Json.doc := by
  let fields := (Table.ofList entries).entries.map fun e => (e.1, e.2.doc)
  have keys : (fields.map Prod.fst).Nodup := by
    rw [List.map_map]
    exact (Table.ofList entries).keys_nodup
  have once : (known.all fun name => fields.countP (·.1 = name) ≤ 1) = true := by
    rw [List.all_eq_true]
    intro name _
    have count := List.nodup_iff_count_le_one.1 keys name
    rw [List.count_eq_countP, List.countP_map] at count
    simpa [Function.comp_def, beq_eq_decide] using count
  let entry (e : String × Doc) : Option String × Doc := (some e.1, e.2)
  let name? (e : Option String × Doc) : Option (String × Doc) := e.1.map (·, e.2)
  have shape : (Json.obj entries).doc = .record (fields.map entry) := by
    rw [Json.doc_obj, List.map_map]
    rfl
  have back : ∀ e, name? (entry e) = some e := fun _ => rfl
  refine ⟨fields, ?_, ?_⟩
  · rw [shape]
    show ((fields.map entry).mapM name? >>= fun named => _) = _
    rw [mapM_map_eq_some back]
    exact if_pos once
  · intro name
    rw [lookup_map, lookup_perm (Table.ofList_perm distinct) distinct]

/-- A record finds nothing under the name of a field that was left out. -/
theorem asFields?_objOfPresent (known : List String) {entries : List (String × Option Json)}
    (distinct : (entries.map Prod.fst).Nodup) :
    ∃ fields, (Json.objOfPresent entries).doc.asFields? known = some fields ∧
      ∀ name, fields.lookup name = (entries.lookup name).join.map Json.doc := by
  have present := distinct.sublist (keys_present_sublist entries)
  obtain ⟨fields, read, lookup⟩ := asFields?_obj known present
  refine ⟨fields, read, ?_⟩
  intro name
  rw [lookup, lookup_present distinct]

end Coupling
