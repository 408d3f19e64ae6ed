import Coupling.Proofs.Layout
import Mathlib.Data.List.Basic
import Mathlib.Data.List.Forall2
import Mathlib.Data.List.Induction
import Mathlib.Data.List.Nodup

/-!
# Rows of CF names

The table is searched and extended while fields are written; what comes of it is said here by
the keys alone:

* `rowOf keys key` is one more than the number of distinct keys before the first `key`. It is the
  place of `key` among the distinct keys (`rowOf_eq`), so it tells keys apart (`rowOf_inj`), and
  keys that follow do not change it (`rowOf_append`);
* `CfTable.Tabulates resolved t`: the rows of `t` are the distinct keys of the resolved fields, each
  with the name that its first field resolved to. Every insertion keeps this up
  (`Tabulates.insert`) and returns the row of the key (`Tabulates.index`);
* `cfIndex_firstSeen`: so the written indices and rows are those of the keys first seen.
-/

namespace Coupling

/-- One more than the number of distinct keys before the first occurrence of `key`. -/
def rowOf (keys : List String) (key : String) : Nat :=
  (keys.takeWhile (· ≠ key)).eraseDups.length + 1

section
variable {keys others : List String} {key : String}

/-- A further key is distinct from the ones before it or one of them. -/
theorem eraseDups_concat (keys : List String) (key : String) :
    (keys ++ [key]).eraseDups =
      if key ∈ keys then keys.eraseDups else keys.eraseDups ++ [key] := by
  rw [List.eraseDups_append, List.cons_removeAll, List.nil_removeAll]
  by_cases seen : key ∈ keys
  · rw [if_pos seen, if_neg (by simpa using seen), List.eraseDups_nil, List.append_nil]
  · rw [if_neg seen, if_pos (by simpa using seen), List.eraseDups_cons, List.filter_nil,
      List.eraseDups_nil]

theorem nodup_eraseDups (keys : List String) : keys.eraseDups.Nodup := by
  induction keys using List.reverseRecOn with
  | nil => exact List.nodup_nil
  | append_singleton keys key ih =>
    rw [eraseDups_concat]
    by_cases seen : key ∈ keys
    · rwa [if_pos seen]
    · rw [if_neg seen, List.nodup_append]
      refine ⟨ih, List.pairwise_singleton _ key, ?_⟩
      rintro k hk _ hkey rfl
      obtain rfl := List.mem_singleton.1 hkey
      exact seen (List.mem_eraseDups.1 hk)

theorem takeWhile_ne (fresh : key ∉ keys) :
    (keys ++ key :: others).takeWhile (· ≠ key) = keys := by
  have different : ∀ k ∈ keys, decide (k ≠ key) = true := by
    intro k hk
    exact decide_eq_true fun same => fresh (same ▸ hk)
  rw [List.takeWhile_append_of_pos different, List.takeWhile_cons_of_neg (by simp),
    List.append_nil]

/-- The row of a key is its place among the distinct keys. -/
theorem rowOf_eq (h : key ∈ keys) : rowOf keys key = keys.eraseDups.idxOf key + 1 := by
  obtain ⟨before, rest, rfl, fresh⟩ := List.eq_append_cons_of_mem h
  have unseen : key ∉ before.eraseDups := fun member => fresh (List.mem_eraseDups.1 member)
  have kept : (key :: rest).removeAll before = key :: rest.removeAll before := by
    rw [List.cons_removeAll, if_pos (by simpa using fresh)]
  rw [rowOf, takeWhile_ne fresh, List.eraseDups_append, kept, List.eraseDups_cons,
    List.idxOf_append, if_neg unseen, List.idxOf_cons_self, Nat.zero_add]

theorem rowOf_concat (fresh : key ∉ keys) :
    rowOf (keys ++ [key]) key = keys.eraseDups.length + 1 := by
  rw [rowOf, takeWhile_ne fresh]

/-- Later keys do not move the row of a key. -/
theorem rowOf_append (h : key ∈ keys) : rowOf (keys ++ others) key = rowOf keys key := by
  have listed : key ∈ keys.eraseDups := List.mem_eraseDups.2 h
  rw [rowOf_eq h, rowOf_eq (List.mem_append_left _ h), List.eraseDups_append, List.idxOf_append,
    if_pos listed]

theorem rowOf_le (h : key ∈ keys) : rowOf keys key ≤ keys.eraseDups.length := by
  have inside := List.idxOf_lt_length_iff.2 (List.mem_eraseDups.2 h)
  rw [rowOf_eq h]
  omega

theorem rowOf_inj {other : String} (h : key ∈ keys) (h' : other ∈ keys) :
    rowOf keys key = rowOf keys other ↔ key = other := by
  rw [rowOf_eq h, rowOf_eq h', Nat.add_right_cancel_iff]
  exact List.idxOf_inj (List.mem_eraseDups.2 h)

/-- Every row up to the number of distinct keys is the row of a key. -/
theorem exists_rowOf_eq {n : Nat} (positive : 1 ≤ n) (bound : n ≤ keys.eraseDups.length) :
    ∃ key ∈ keys, rowOf keys key = n := by
  have inside : n - 1 < keys.eraseDups.length := by omega
  have member : keys.eraseDups[n - 1] ∈ keys := List.mem_eraseDups.1 (List.getElem_mem inside)
  refine ⟨keys.eraseDups[n - 1], member, ?_⟩
  rw [rowOf_eq member, (nodup_eraseDups keys).idxOf_getElem]
  omega

theorem eraseDups_of_nodup (distinct : keys.Nodup) : keys.eraseDups = keys := by
  induction keys with
  | nil => rfl
  | cons key keys ih =>
    obtain ⟨fresh, distinct⟩ := List.nodup_cons.1 distinct
    have others : keys.filter (fun k => !k == key) = keys := by
      rw [List.filter_eq_self]
      intro k hk
      simpa using fun same : k = key => fresh (same ▸ hk)
    rw [List.eraseDups_cons, others, ih distinct]

/-- Where no key is repeated, every key stands in a row of its own. -/
theorem rowOf_getElem? (distinct : keys.Nodup) {i : Nat} (h : keys[i]? = some key) :
    rowOf keys key = i + 1 := by
  obtain ⟨inside, rfl⟩ := List.getElem?_eq_some_iff.1 h
  rw [rowOf_eq (List.getElem_mem inside), eraseDups_of_nodup distinct,
    distinct.idxOf_getElem i inside]

end

/-- The key under which a resolved field stands in the table. -/
def Resolved.key (r : Resolved) : String := r.names.cfKey

namespace CfTable

/-- The rows are those of the distinct keys of the resolved fields, in the order in which the keys
are first seen, each with the name that the first field of its key resolved to. -/
structure Tabulates (resolved : List Resolved) (t : CfTable) : Prop where
  keys : t.rows.map Prod.fst = (resolved.map Resolved.key).eraseDups
  names : ∀ row ∈ t.rows, ∃ r, resolved.find? (·.key = row.1) = some r ∧ row.2 = r.names.cf

theorem index?_eq (t : CfTable) (key : String) :
    t.index? key = ((t.rows.map Prod.fst).idxOf? key).map (· + 1) := by
  rw [index?, List.idxOf?, List.findIdx?_map]
  rfl

namespace Tabulates

variable {resolved : List Resolved} {t : CfTable}

theorem start : Tabulates [] {} where
  keys := rfl
  names := nofun

theorem length (h : Tabulates resolved t) :
    t.rows.length = (resolved.map Resolved.key).eraseDups.length := by
  rw [← h.keys, List.length_map]

theorem index?_of_mem (h : Tabulates resolved t) {key : String}
    (seen : key ∈ resolved.map Resolved.key) :
    t.index? key = some (rowOf (resolved.map Resolved.key) key) := by
  have listed := List.idxOf_lt_length_iff.2 (List.mem_eraseDups.2 seen)
  have found := List.findIdx?_eq_some_iff_findIdx_eq.2 ⟨listed, rfl⟩
  rw [index?_eq, h.keys, List.idxOf?, found, rowOf_eq seen]
  rfl

theorem index?_of_not_mem (h : Tabulates resolved t) {key : String}
    (fresh : key ∉ resolved.map Resolved.key) : t.index? key = none := by
  have unlisted : key ∉ (resolved.map Resolved.key).eraseDups :=
    fun listed => fresh (List.mem_eraseDups.1 listed)
  rw [index?_eq, h.keys, List.idxOf?_eq_none_iff.2 unlisted]
  rfl

/-- Where no key is repeated, the rows are those of the fields. -/
theorem rows_eq (h : Tabulates resolved t) (distinct : (resolved.map Resolved.key).Nodup) :
    t.rows = resolved.map fun r => (r.key, r.names.cf) := by
  have keys := h.keys
  rw [eraseDups_of_nodup distinct] at keys
  refine List.ext_getElem (by simpa using congrArg List.length keys) ?_
  intro i hi hi'
  rw [List.length_map] at hi'
  have key : t.rows[i].1 = resolved[i].key := by
    have both := congrArg (·[i]?) keys
    simpa [hi, hi'] using both
  obtain ⟨r, found, name⟩ := h.names t.rows[i] (List.getElem_mem hi)
  have same : r.key = t.rows[i].1 := by simpa using List.find?_some found
  have only : r = resolved[i] := List.inj_on_of_nodup_map distinct (List.mem_of_find?_eq_some found)
    (List.getElem_mem hi') (same.trans key)
  rw [List.getElem_map, ← only]
  exact Prod.ext same.symm name

/-- A field is given the row of its key, and the table that results has it too. -/
theorem insert (h : Tabulates resolved t) (r : Resolved) :
    (t.insert r.key r.names.cf).1 = rowOf ((resolved ++ [r]).map Resolved.key) r.key ∧
      Tabulates (resolved ++ [r]) (t.insert r.key r.names.cf).2 := by
  have keys : (resolved ++ [r]).map Resolved.key = resolved.map Resolved.key ++ [r.key] := by
    rw [List.map_append, List.map_singleton]
  have earlier : ∀ row ∈ t.rows,
      ∃ q, (resolved ++ [r]).find? (·.key = row.1) = some q ∧ row.2 = q.names.cf := by
    intro row hrow
    obtain ⟨first, found, name⟩ := h.names row hrow
    exact ⟨first, by rw [List.find?_append, found, Option.some_or], name⟩
  by_cases seen : r.key ∈ resolved.map Resolved.key
  · rw [CfTable.insert, h.index?_of_mem seen]
    refine ⟨?_, ?_, earlier⟩
    · rw [keys, rowOf_append seen]
    · rw [h.keys, keys, eraseDups_concat, if_pos seen]
  · have unseen : resolved.find? (·.key = r.key) = none := by
      rw [List.find?_eq_none]
      intro q hq same
      exact seen (of_decide_eq_true same ▸ List.mem_map_of_mem hq)
    rw [CfTable.insert, h.index?_of_not_mem seen]
    refine ⟨?_, ?_, ?_⟩
    · rw [keys, rowOf_concat seen, h.length]
    · rw [List.map_append, h.keys, keys, eraseDups_concat, if_neg seen, List.map_singleton]
    · intro row hrow
      rcases List.mem_append.1 hrow with before | last
      · exact earlier row before
      · obtain rfl := List.mem_singleton.1 last
        exact ⟨r, by rw [List.find?_append, unseen, Option.none_or]; simp, rfl⟩

end Tabulates

theorem rows_prefix_insert (t : CfTable) (key : String) (name : CfName) :
    t.rows <+: (t.insert key name).2.rows := by
  unfold insert
  cases t.index? key with
  | some index => exact List.prefix_rfl
  | none => exact List.prefix_append _ _

end CfTable

/-- The written table is made of these rows: their number twice, a comment, and a line for each. -/
def Rendered.HasRows (out : Rendered) (rows : List CfName) : Prop :=
  out.cfTable = unlines (s!"{rows.length} {rows.length}" :: "# index 'long name' 'unit'" ::
    rows.mapIdx fun j row => s!"{j + 1} '{row.longName}' '{row.unit}'")

theorem CfTable.row_eq (index : Nat) (name : CfName) :
    row index name = s!"{index} '{name.longName}' '{name.unit}'" ++ "\n" := by
  apply String.toList_injective
  simp [row]

theorem CfTable.render_eq_unlines (t : CfTable) :
    t.render = unlines (s!"{t.rows.length} {t.rows.length}" :: "# index 'long name' 'unit'" ::
      (t.rows.map Prod.snd).mapIdx fun j row => s!"{j + 1} '{row.longName}' '{row.unit}'") := by
  have lines : (t.rows.mapIdx fun j entry => row (j + 1) entry.2) =
      ((t.rows.map Prod.snd).mapIdx fun j row =>
        s!"{j + 1} '{row.longName}' '{row.unit}'").map (· ++ "\n") := by
    rw [List.mapIdx_eq_iff]
    intro j
    simp only [List.getElem?_map, List.getElem?_mapIdx, Option.map_map, row_eq]
    rfl
  rw [unlines_cons, unlines_cons, unlines, ← lines, render]
  apply String.toList_injective
  simp

theorem Progress.hasRows (p : Progress) (ctx : RunContext) :
    (p.finish ctx).HasRows (p.table.rows.map Prod.snd) := by
  rw [Rendered.HasRows, List.length_map]
  exact p.table.render_eq_unlines

/-- The summaries carry the rows of the keys of the resolved fields, and each row has the name of
the first field of its key. -/
structure Rendered.NumbersKeys (out : Rendered) (resolved : List Resolved)
    (rows : List CfName) : Prop where
  indices : out.fields.map Summary.cfIndex =
    resolved.map fun r => UInt64.ofNat (rowOf (resolved.map Resolved.key) r.key)
  count : rows.length = (resolved.map Resolved.key).eraseDups.length
  names : ∀ (j : Nat) (key : String) (row : CfName),
    (resolved.map Resolved.key).eraseDups[j]? = some key → rows[j]? = some row →
    ∃ r, resolved.find? (·.key = key) = some r ∧ row = r.names.cf
  text : out.HasRows rows

section
variable {ctx : RunContext} {lookup : StashCode → Except Error StashEntry}

namespace Written

theorem numbersKeys {fields : List Field} {p : Progress} (h : Written ctx lookup fields p) :
    ∃ resolved,
      List.Forall₂ (fun f r => (f.resolveWith ctx lookup).result = .ok r) fields resolved ∧
      p.table.Tabulates resolved ∧ p.summaries.map Summary.cfIndex =
        resolved.map fun r => UInt64.ofNat (rowOf (resolved.map Resolved.key) r.key) := by
  induction h with
  | start => exact ⟨[], .nil, .start, rfl⟩
  | @next fields f e _ of ih =>
    obtain ⟨resolved, each, table, indices⟩ := ih
    obtain ⟨index, more⟩ := table.insert e.resolved
    refine ⟨resolved ++ [e.resolved], List.rel_append each (.cons of.resolved .nil), more, ?_⟩
    have earlier : e.before.summaries.map Summary.cfIndex = resolved.map fun r =>
        UInt64.ofNat (rowOf ((resolved ++ [e.resolved]).map Resolved.key) r.key) := by
      rw [indices]
      refine List.map_congr_left ?_
      intro r hr
      rw [List.map_append, rowOf_append (List.mem_map_of_mem hr)]
    have last : e.summary.cfIndex =
        UInt64.ofNat (rowOf ((resolved ++ [e.resolved]).map Resolved.key) e.resolved.key) :=
      congrArg UInt64.ofNat index
    rw [Emission.after, List.map_append, List.map_append, earlier, List.map_singleton,
      List.map_singleton, last]

/-- What was written for the first fields is what they are rendered to by themselves, and their
rows are the first rows. -/
theorem take {fields : List Field} {p : Progress} (h : Written ctx lookup fields p) (n : Nat) :
    ∃ q, Written ctx lookup (fields.take n) q ∧ q.summaries = p.summaries.take n ∧
      q.table.rows <+: p.table.rows := by
  induction h with
  | start => exact ⟨{}, by simpa using .start, by simp, List.prefix_rfl⟩
  | @next fields f e before of ih =>
    by_cases all : fields.length < n
    · refine ⟨e.after, ?_, ?_, List.prefix_rfl⟩
      · rw [List.take_of_length_le (by simp; omega)]
        exact before.next of
      · rw [List.take_of_length_le]
        rw [(before.next of).lengths.1]
        simp
        omega
    · obtain ⟨q, written, summaries, rows⟩ := ih
      refine ⟨q, ?_, ?_, rows.trans (e.before.table.rows_prefix_insert _ _)⟩
      · rwa [List.take_append_of_le_length (by omega)]
      · rw [summaries, Emission.after, List.take_append_of_le_length]
        rw [before.lengths.1]
        omega

end Written

/-- Where the number of keys can be counted, a summary holds the row of its key exactly. -/
theorem toNat_cfIndex {summaries : List Summary} {resolved : List Resolved}
    (indices : summaries.map Summary.cfIndex =
      resolved.map fun r => UInt64.ofNat (rowOf (resolved.map Resolved.key) r.key))
    (room : (resolved.map Resolved.key).eraseDups.length < UInt64.size) {i : Nat} {r : Resolved}
    {s : Summary} (hr : resolved[i]? = some r) (hs : summaries[i]? = some s) :
    s.cfIndex.toNat = rowOf (resolved.map Resolved.key) r.key := by
  have row : s.cfIndex = UInt64.ofNat (rowOf (resolved.map Resolved.key) r.key) := by
    have both := congrArg (·[i]?) indices
    simpa [hr, hs] using both
  have bound : rowOf (resolved.map Resolved.key) r.key ≤
      (resolved.map Resolved.key).eraseDups.length :=
    rowOf_le (List.mem_map_of_mem (List.mem_of_getElem? hr))
  rw [row, UInt64.toNat_ofNat_of_lt' (Nat.lt_of_le_of_lt bound room)]

/-- Where the number of keys can be counted, the summaries hold the rows of the keys exactly: equal
ones for equal keys only, and every one from the first to the last. -/
structure Rendered.TellsKeysApart (out : Rendered) (resolved : List Resolved) : Prop where
  row : ∀ (i : Nat) (r : Resolved) (s : Summary), resolved[i]? = some r →
    out.fields[i]? = some s → s.cfIndex.toNat = rowOf (resolved.map Resolved.key) r.key
  shared : ∀ (i j : Nat) (r q : Resolved) (s t : Summary), resolved[i]? = some r →
    resolved[j]? = some q → out.fields[i]? = some s → out.fields[j]? = some t →
    (s.cfIndex = t.cfIndex ↔ r.key = q.key)
  used : ∀ n, (∃ s ∈ out.fields, s.cfIndex.toNat = n) ↔
    1 ≤ n ∧ n ≤ (resolved.map Resolved.key).eraseDups.length

theorem Rendered.NumbersKeys.tellsKeysApart {out : Rendered} {resolved : List Resolved}
    {rows : List CfName} (h : out.NumbersKeys resolved rows)
    (room : (resolved.map Resolved.key).eraseDups.length < UInt64.size) :
    out.TellsKeysApart resolved := by
  let row (r : Resolved) := rowOf (resolved.map Resolved.key) r.key
  have bound {r : Resolved} (hr : r ∈ resolved) :
      row r ≤ (resolved.map Resolved.key).eraseDups.length := rowOf_le (List.mem_map_of_mem hr)
  have fits {r : Resolved} (hr : r ∈ resolved) : (UInt64.ofNat (row r)).toNat = row r :=
    UInt64.toNat_ofNat_of_lt' (Nat.lt_of_le_of_lt (bound hr) room)
  have number {i : Nat} {r : Resolved} {s : Summary} (hr : resolved[i]? = some r)
      (hs : out.fields[i]? = some s) : s.cfIndex.toNat = row r :=
    toNat_cfIndex h.indices room hr hs
  refine ⟨fun i r s hr hs => number hr hs, ?_, ?_⟩
  · intro i j r q s t hr hq hs ht
    rw [← UInt64.toNat_inj, number hr hs, number hq ht]
    exact rowOf_inj (List.mem_map_of_mem (List.mem_of_getElem? hr))
      (List.mem_map_of_mem (List.mem_of_getElem? hq))
  · intro n
    constructor
    · rintro ⟨s, hs, rfl⟩
      have listed : s.cfIndex ∈ resolved.map fun r => UInt64.ofNat (row r) :=
        h.indices ▸ List.mem_map_of_mem hs
      obtain ⟨r, hr, index⟩ := List.mem_map.1 listed
      rw [← index, fits hr]
      exact ⟨Nat.le_add_left 1 _, bound hr⟩
    · rintro ⟨positive, inside⟩
      obtain ⟨key, hkey, place⟩ := exists_rowOf_eq positive inside
      obtain ⟨r, hr, rfl⟩ := List.mem_map.1 hkey
      have listed : UInt64.ofNat (row r) ∈ out.fields.map Summary.cfIndex :=
        h.indices ▸ List.mem_map_of_mem hr
      obtain ⟨s, hs, index⟩ := List.mem_map.1 listed
      exact ⟨s, hs, by rw [index, fits hr, ← place]⟩

theorem retained_take (fields : List Field) (n : Nat) :
    retained ((retained fields).take n) = (retained fields).take n := by
  refine List.filter_eq_self.2 ?_
  intro f hf
  exact (List.mem_filter.1 (List.mem_of_mem_take hf)).2

/-- The keys that the retained fields resolve to are numbered as they are first seen, in the
summaries as in the written table, and what follows a field changes neither its number nor the rows
before it. -/
theorem cfIndex_firstSeen {fields : List Field} {out : Rendered}
    (h : (render ctx lookup fields).result = .ok out) :
    ∃ resolved rows,
      List.Forall₂ (fun f r => (f.resolveWith ctx lookup).result = .ok r) (retained fields)
        resolved ∧
      out.NumbersKeys resolved rows ∧
      ((resolved.map Resolved.key).eraseDups.length < UInt64.size → out.TellsKeysApart resolved) ∧
      ∀ n, ∃ first firstRows, (render ctx lookup ((retained fields).take n)).result = .ok first ∧
        first.fields = out.fields.take n ∧ first.HasRows firstRows ∧ firstRows <+: rows := by
  obtain ⟨p, written, rfl⟩ := render_eq_ok_iff.1 h
  obtain ⟨resolved, each, table, indices⟩ := written.numbersKeys
  have numbers : (p.finish ctx).NumbersKeys resolved (p.table.rows.map Prod.snd) := by
    refine ⟨indices, by rw [List.length_map, table.length], ?_, p.hasRows ctx⟩
    intro j key row hkey hrow
    rw [List.getElem?_map, Option.map_eq_some_iff] at hrow
    obtain ⟨⟨key', name⟩, entry, rfl⟩ := hrow
    rw [← table.keys, List.getElem?_map, entry] at hkey
    obtain rfl : key' = key := Option.some.inj hkey
    exact table.names _ (List.mem_of_getElem? entry)
  refine ⟨resolved, p.table.rows.map Prod.snd, each, numbers, numbers.tellsKeysApart, ?_⟩
  intro n
  obtain ⟨q, part, summaries, rows⟩ := written.take n
  refine ⟨q.finish ctx, q.table.rows.map Prod.snd, ?_, summaries, q.hasRows ctx, rows.map _⟩
  rw [render_eq_ok_iff, retained_take]
  exact ⟨q, part, rfl⟩

end

/-- The wind stress is sent twice, with another field in between. -/
def repeatedStress : List Field :=
  [windStress, surfaceTemperature, { windStress with weight := 8 }]

theorem cfIndex_firstSeen_stress :
    ∃ out, (render exchangeRun noCatalogue repeatedStress).result = .ok out ∧
      out.fields.map Summary.cfIndex = [1, 2, 1] ∧ ∃ resolved rows,
        resolved.map Resolved.key = ["TAUX", "SST", "TAUX"] ∧ out.NumbersKeys resolved rows ∧
        out.TellsKeysApart resolved := by
  obtain ⟨out, rendered, indices⟩ :
      ∃ out, (render exchangeRun noCatalogue repeatedStress).result = .ok out ∧
        out.fields.map Summary.cfIndex = [1, 2, 1] := ⟨_, rfl, rfl⟩
  obtain ⟨resolved, rows, each, numbers, apart, -⟩ := cfIndex_firstSeen rendered
  have keys : resolved.map Resolved.key = ["TAUX", "SST", "TAUX"] := by
    obtain ⟨first, _, hfirst, others, rfl⟩ := List.forall₂_cons_left_iff.1 each
    obtain ⟨second, _, hsecond, last, rfl⟩ := List.forall₂_cons_left_iff.1 others
    obtain ⟨third, _, hthird, none_, rfl⟩ := List.forall₂_cons_left_iff.1 last
    obtain rfl := List.forall₂_nil_left_iff.1 none_
    obtain rfl : windStress.tagged = first := Except.ok.inj hfirst
    obtain rfl : surfaceTemperature.tagged = second := Except.ok.inj hsecond
    obtain rfl : Field.tagged { windStress with weight := 8 } = third := Except.ok.inj hthird
    rfl
  exact ⟨out, rendered, indices, resolved, rows, keys, numbers, apart (by rw [keys]; decide)⟩

end Coupling
