import Coupling.Table
import Mathlib.Data.List.Induction
import Mathlib.Data.List.Nodup

/-!
# Entries of tables

What a table holds, in terms of the entries that it was made from:

* `get?_insert`: an inserted entry is found under its key, and stands in the place of the one that
  was there before (`entries_insert_of_split`);
* `ofList_perm`: a list without repeated keys holds the entries of its table, in some order;
* `ext_perm`: tables with the same entries in any order are equal, so the table of the entries of a
  table is that table, whatever order they come in (`ofList_of_perm`);
* `ext_get?`: tables that hold the same under every key are equal, and a table made from a list
  holds under a key what the last entry of the list says (`get?_ofList`), so it holds something
  there exactly when the list has an entry for the key (`exists_get?_ofList_iff`), and the entries
  of a second list override those of the first (`get?_ofList_append`).
-/

namespace Coupling

namespace Table

variable {κ ν : Type} [Ord κ]

section
variable [Std.TransOrd κ] [DecidableEq κ]

theorem find?_insertEntry (entries : List (κ × ν)) (key : κ) (value : ν) :
    (insertEntry key value entries).find? (fun e => e.1 = key) = some (key, value) := by
  induction entries with
  | nil => simp [insertEntry]
  | cons head rest ih =>
    obtain ⟨k, v⟩ := head
    rw [insertEntry]
    split
    · simp
    · simp
    · next after =>
      have different : k ≠ key := by
        rintro rfl
        have same : compare k k = .eq := Std.ReflCmp.compare_self
        exact absurd (same.symm.trans after) (by decide)
      rw [List.find?_cons_of_neg (by simpa using different), ih]

theorem get?_insert (t : Table κ ν) (key : κ) (value : ν) :
    (t.insert key value).get? key = some value := by
  rw [get?, insert, find?_insertEntry, Option.map_some]

end

theorem get?_mapValues [DecidableEq κ] {μ : Type} (f : κ → ν → μ) (t : Table κ ν) (key : κ) :
    (t.mapValues f).get? key = (t.get? key).map (f key) := by
  obtain ⟨entries, sorted⟩ := t
  induction entries with
  | nil => rfl
  | cons e entries ih =>
    have rest := ih (List.pairwise_cons.1 sorted).2
    simp only [get?, mapValues, List.map_cons, List.find?_cons] at rest ⊢
    by_cases same : e.1 = key
    · simp [same]
    · simpa [same] using rest

theorem insertEntry_map {μ : Type} (f : ν → μ) (entries : List (κ × ν)) (key : κ) (value : ν) :
    insertEntry key (f value) (entries.map fun e => (e.1, f e.2)) =
      (insertEntry key value entries).map fun e => (e.1, f e.2) := by
  induction entries with
  | nil => rfl
  | cons head rest ih =>
    rw [List.map_cons, insertEntry, insertEntry]
    cases compare key head.1 with
    | lt => rfl
    | eq => rfl
    | gt => rw [ih, List.map_cons]

section
variable [Std.TransOrd κ]

theorem insertEntry_of_split {before after : List (κ × ν)} {key : κ} {old : ν}
    (sorted : SortedByKey (before ++ (key, old) :: after)) (value : ν) :
    insertEntry key value (before ++ (key, old) :: after) = before ++ (key, value) :: after := by
  induction before with
  | nil =>
    have same : compare key key = .eq := Std.ReflCmp.compare_self
    rw [List.nil_append, List.nil_append, insertEntry, same]
  | cons head before ih =>
    obtain ⟨below, later⟩ := List.pairwise_cons.1 sorted
    have above : compare key head.1 = .gt :=
      Std.OrientedCmp.gt_iff_lt.2 (below _ (List.mem_append_right _ List.mem_cons_self))
    rw [List.cons_append, insertEntry, above, ih later, List.cons_append]

/-- A value takes the place of the one that is there under its key. -/
theorem entries_insert_of_split {t : Table κ ν} {before after : List (κ × ν)} {key : κ} {old : ν}
    (split : t.entries = before ++ (key, old) :: after) (value : ν) :
    (t.insert key value).entries = before ++ (key, value) :: after := by
  have sorted := t.sorted
  rw [split] at sorted
  show insertEntry key value t.entries = _
  rw [split]
  exact insertEntry_of_split sorted value

theorem ofList_concat (entries : List (κ × ν)) (e : κ × ν) :
    ofList (entries ++ [e]) = (ofList entries).insert e.1 e.2 := by
  rw [ofList, List.foldl_append]
  rfl

/-- Changing the values commutes with making a table. -/
theorem ofList_map {μ : Type} (f : ν → μ) (entries : List (κ × ν)) :
    (ofList (entries.map fun e => (e.1, f e.2))).entries =
      (ofList entries).entries.map fun e => (e.1, f e.2) := by
  induction entries using List.reverseRecOn with
  | nil => rfl
  | append_singleton entries e ih =>
    rw [List.map_append, List.map_singleton, ofList_concat, ofList_concat]
    show insertEntry _ _ _ = (insertEntry _ _ _).map _
    rw [ih]
    exact insertEntry_map f _ e.1 e.2

theorem mem_ofList {entries : List (κ × ν)} {e : κ × ν} (h : e ∈ (ofList entries).entries) :
    e ∈ entries := by
  induction entries using List.reverseRecOn with
  | nil => exact h
  | append_singleton entries last ih =>
    rw [ofList_concat] at h
    rcases mem_insertEntry h with rfl | h
    · exact List.mem_append_right _ (List.mem_singleton_self _)
    · exact List.mem_append_left _ (ih h)

/-- The entries are sorted, so there is one way only to order them. -/
theorem ext_perm {a b : Table κ ν} (h : a.entries.Perm b.entries) : a = b := by
  refine ext (h.eq_of_pairwise ?_ a.sorted b.sorted)
  intro x y _ _ below above
  have after : compare y.1 x.1 = .gt := Std.OrientedCmp.gt_iff_lt.2 below
  exact absurd (above.symm.trans after) (by decide)

end

section
variable [Std.LawfulEqOrd κ]

theorem keys_nodup (t : Table κ ν) : (t.entries.map Prod.fst).Nodup := by
  rw [List.Nodup, List.pairwise_map]
  refine t.sorted.imp ?_
  intro a b below same
  rw [same] at below
  have equal : compare b.1 b.1 = .eq := Std.ReflCmp.compare_self
  exact absurd (equal.symm.trans below) (by decide)

theorem insertEntry_perm {entries : List (κ × ν)} {key : κ} (value : ν)
    (fresh : key ∉ entries.map Prod.fst) :
    (insertEntry key value entries).Perm ((key, value) :: entries) := by
  induction entries with
  | nil => exact .refl _
  | cons head rest ih =>
    obtain ⟨k, v⟩ := head
    rw [List.map_cons, List.mem_cons, not_or] at fresh
    rw [insertEntry]
    split
    · exact .refl _
    · next same => exact absurd (Std.LawfulEqOrd.eq_of_compare same) fresh.1
    · exact ((ih fresh.2).cons (k, v)).trans (.swap _ _ _)

variable [Std.TransOrd κ]

theorem ofList_perm {entries : List (κ × ν)} (distinct : (entries.map Prod.fst).Nodup) :
    (ofList entries).entries.Perm entries := by
  induction entries using List.reverseRecOn with
  | nil => exact .refl _
  | append_singleton entries e ih =>
    rw [List.map_append, List.map_singleton, List.nodup_append] at distinct
    obtain ⟨distinct, -, fresh⟩ := distinct
    have before := ih distinct
    have unknown : e.1 ∉ (ofList entries).entries.map Prod.fst := by
      intro member
      have listed := (before.map Prod.fst).mem_iff.1 member
      exact fresh e.1 listed e.1 (List.mem_singleton_self _) rfl
    have last := List.perm_append_singleton e entries
    rw [ofList_concat]
    exact (insertEntry_perm e.2 unknown).trans ((before.cons e).trans last.symm)

theorem ofList_of_perm {entries : List (κ × ν)} {t : Table κ ν} (h : entries.Perm t.entries) :
    ofList entries = t := by
  have distinct : (entries.map Prod.fst).Nodup := (h.map Prod.fst).nodup_iff.2 t.keys_nodup
  exact ext_perm ((ofList_perm distinct).trans h)

end

section
variable [Std.LawfulEqOrd κ] [DecidableEq κ]

theorem find?_insertEntry_of_ne (entries : List (κ × ν)) {key other : κ} (value : ν)
    (different : other ≠ key) :
    (insertEntry key value entries).find? (fun e => e.1 = other) =
      entries.find? fun e => e.1 = other := by
  have skip (v : ν) (rest : List (κ × ν)) : ((key, v) :: rest).find? (fun e => e.1 = other) =
      rest.find? fun e => e.1 = other :=
    List.find?_cons_of_neg (by simpa using different.symm)
  induction entries with
  | nil => exact skip value []
  | cons head rest ih =>
    obtain ⟨k, v⟩ := head
    rw [insertEntry]
    split
    · exact skip value _
    · next same =>
      obtain rfl := Std.LawfulEqOrd.eq_of_compare same
      rw [skip, skip]
    · rw [List.find?_cons, List.find?_cons, ih]

/-- A table holds under a key what its entry for that key says. -/
theorem mem_entries_iff {t : Table κ ν} {key : κ} {value : ν} :
    (key, value) ∈ t.entries ↔ t.get? key = some value := by
  rw [get?, Option.map_eq_some_iff]
  constructor
  · intro member
    have listed : (t.entries.find? fun e => e.1 = key).isSome := by
      rw [List.find?_isSome]
      exact ⟨_, member, by simp⟩
    obtain ⟨e, found⟩ := Option.isSome_iff_exists.1 listed
    have same : e.1 = key := by simpa using List.find?_some found
    have only := List.inj_on_of_nodup_map t.keys_nodup (List.mem_of_find?_eq_some found) member same
    exact ⟨e, found, congrArg Prod.snd only⟩
  · rintro ⟨e, found, rfl⟩
    have same : e.1 = key := by simpa using List.find?_some found
    exact same ▸ List.mem_of_find?_eq_some found

theorem mem_keys_iff {t : Table κ ν} {key : κ} :
    key ∈ t.keys ↔ ∃ value, t.get? key = some value := by
  simp [keys, mem_entries_iff]

variable [Std.TransOrd κ]

/-- Of several entries with one key the last counts. -/
theorem get?_ofList (entries : List (κ × ν)) (key : κ) : (ofList entries).get? key =
    (entries.reverse.find? fun e => e.1 = key).map Prod.snd := by
  induction entries using List.reverseRecOn with
  | nil => rfl
  | append_singleton entries e ih =>
    obtain ⟨k, v⟩ := e
    rw [ofList_concat, List.reverse_concat]
    by_cases same : k = key
    · subst same
      rw [get?_insert, List.find?_cons_of_pos (by simp)]
      rfl
    · have kept := find?_insertEntry_of_ne (ofList entries).entries v (Ne.symm same)
      rw [List.find?_cons_of_neg (by simpa using same), ← ih, get?, insert, kept, get?]

/-- Later entries override earlier ones. -/
theorem get?_ofList_append (entries others : List (κ × ν)) (key : κ) :
    (ofList (entries ++ others)).get? key =
      ((ofList others).get? key).or ((ofList entries).get? key) := by
  rw [get?_ofList, get?_ofList, get?_ofList, List.reverse_append, List.find?_append,
    Option.map_or]

/-- A table made from a list has something under every key of the list. -/
theorem exists_get?_ofList_iff {entries : List (κ × ν)} {key : κ} :
    (∃ value, (ofList entries).get? key = some value) ↔ ∃ value, (key, value) ∈ entries := by
  simp only [get?_ofList, Option.map_eq_some_iff]
  constructor
  · rintro ⟨value, e, found, rfl⟩
    have same : e.1 = key := by simpa using List.find?_some found
    exact ⟨e.2, same ▸ List.mem_reverse.1 (List.mem_of_find?_eq_some found)⟩
  · rintro ⟨value, member⟩
    have listed : (entries.reverse.find? fun e => e.1 = key).isSome := by
      rw [List.find?_isSome]
      exact ⟨_, List.mem_reverse.2 member, by simp⟩
    obtain ⟨e, found⟩ := Option.isSome_iff_exists.1 listed
    exact ⟨e.2, e, found, rfl⟩

end

end Table

end Coupling
