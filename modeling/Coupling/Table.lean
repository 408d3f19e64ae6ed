/-!
# Tables

A `Table` maps keys to values and keeps its entries in strictly increasing key order, so two
tables with the same entries are equal:

* `insert` puts an entry in its place, replacing the value of a key that is already there;
* `ofList` inserts from first to last, so a later entry of a key wins;
* `mapValues` changes values and leaves the keys alone.
-/

namespace Coupling

/-- Entries are in strictly increasing key order. -/
def SortedByKey {κ ν : Type} [Ord κ] (entries : List (κ × ν)) : Prop :=
  entries.Pairwise fun a b => compare a.1 b.1 = .lt

def insertEntry {κ ν : Type} [Ord κ] (key : κ) (value : ν) : List (κ × ν) → List (κ × ν)
  | [] => [(key, value)]
  | (k, v) :: rest =>
    match compare key k with
    | .lt => (key, value) :: (k, v) :: rest
    | .eq => (key, value) :: rest
    | .gt => (k, v) :: insertEntry key value rest

section
variable {κ ν : Type} [Ord κ]

theorem mem_insertEntry {key : κ} {value : ν} {entries : List (κ × ν)} {e : κ × ν}
    (h : e ∈ insertEntry key value entries) : e = (key, value) ∨ e ∈ entries := by
  induction entries with
  | nil => simpa [insertEntry] using h
  | cons head rest ih =>
    simp only [insertEntry] at h
    split at h
    · simpa using h
    · rcases List.mem_cons.1 h with rfl | h
      · exact .inl rfl
      · exact .inr (List.mem_cons_of_mem _ h)
    · rcases List.mem_cons.1 h with rfl | h
      · exact .inr List.mem_cons_self
      · exact (ih h).imp_right (List.mem_cons_of_mem _)

theorem SortedByKey.insertEntry [Std.TransOrd κ] {key : κ} {value : ν} {entries : List (κ × ν)}
    (sorted : SortedByKey entries) : SortedByKey (insertEntry key value entries) := by
  induction entries with
  | nil => simp [SortedByKey, Coupling.insertEntry]
  | cons head rest ih =>
    obtain ⟨above, tail⟩ := List.pairwise_cons.1 sorted
    simp only [Coupling.insertEntry]
    split
    next first =>
      refine List.pairwise_cons.2 ⟨?_, sorted⟩
      intro e he
      rcases List.mem_cons.1 he with rfl | he
      · exact first
      · exact Std.TransCmp.lt_trans first (above e he)
    next same =>
      refine List.pairwise_cons.2 ⟨?_, tail⟩
      exact fun e he => Std.TransCmp.lt_of_eq_of_lt same (above e he)
    next after =>
      refine List.pairwise_cons.2 ⟨?_, ih tail⟩
      intro e he
      rcases mem_insertEntry he with rfl | he
      · exact Std.OrientedCmp.gt_iff_lt.1 after
      · exact above e he

end

/-- A finite map whose entries are kept in key order. -/
structure Table (κ ν : Type) [Ord κ] where
  entries : List (κ × ν)
  sorted : SortedByKey entries

namespace Table
variable {κ ν : Type} [Ord κ]

@[ext] theorem ext {a b : Table κ ν} (h : a.entries = b.entries) : a = b := by
  cases a; cases b; simp_all

instance [DecidableEq κ] [DecidableEq ν] : DecidableEq (Table κ ν) := fun a b =>
  decidable_of_iff (a.entries = b.entries) ⟨ext, fun h => h ▸ rfl⟩

def empty : Table κ ν := ⟨[], List.Pairwise.nil⟩

instance : EmptyCollection (Table κ ν) := ⟨empty⟩
instance : Inhabited (Table κ ν) := ⟨empty⟩

def get? [DecidableEq κ] (t : Table κ ν) (key : κ) : Option ν :=
  (t.entries.find? fun e => e.1 = key).map Prod.snd

def contains [DecidableEq κ] (t : Table κ ν) (key : κ) : Bool := (t.get? key).isSome

def keys (t : Table κ ν) : List κ := t.entries.map Prod.fst

def size (t : Table κ ν) : Nat := t.entries.length

def insert [Std.TransOrd κ] (t : Table κ ν) (key : κ) (value : ν) : Table κ ν :=
  ⟨insertEntry key value t.entries, t.sorted.insertEntry⟩

/-- The table of some entries; of several entries with one key the last counts. -/
def ofList [Std.TransOrd κ] (entries : List (κ × ν)) : Table κ ν :=
  entries.foldl (fun t e => t.insert e.1 e.2) empty

def mapValues {μ : Type} (f : κ → ν → μ) (t : Table κ ν) : Table κ μ where
  entries := t.entries.map fun e => (e.1, f e.1 e.2)
  sorted := by simpa only [SortedByKey, List.pairwise_map] using t.sorted

end Table

/-- A set of names, kept in order. -/
abbrev NameSet := Table String Unit

namespace NameSet

def ofNames (names : List String) : NameSet := Table.ofList (names.map (·, ()))

def names (s : NameSet) : List String := Table.keys s

end NameSet

end Coupling
