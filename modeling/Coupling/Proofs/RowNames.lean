import Coupling.Proofs.CfRows
import Coupling.Proofs.Codes

/-!
# Rows that describe their fields

A field points to the row of its key, and the row holds the name that the first field of that key
resolved to:

* `Resolved.Sourced` says where the name of a resolved field comes from, and under which key. Fields
  that are resolved in the same way and share a key share their name (`Sourced.cf_eq_of_same`);
* `Resolved.Clashes`: a field by its tag and a field by its code share a key. The first is named
  like the label of the second, and nothing is known about it, while the catalogue has a name for
  the second;
* `row_describes_iff`: a row describes a field that points to it exactly when the first field of the
  key does not clash with it;
* `row_describes_fails`: such a clash is written.
-/

namespace Coupling

/-- Where the name of a resolved field comes from: for a field by its tag from the names of the
usual fields, for a field by its code from the catalogue. -/
inductive Resolved.Sourced (lookup : StashCode → Except Error StashEntry) (r : Resolved) : Prop
  | usual (plain : r.field.hybrid = false)
      (name : r.names.cf = (CfName.lookup? r.key).getD .unknown)
  | catalogued {code : StashCode} {entry : StashEntry} (hybrid : r.field.hybrid = true)
      (found : lookup code = .ok entry) (label : r.key = code.label)
      (name : r.names.cf = ⟨entry.longName, CfName.unknownWord⟩)

/-- One field is hybrid with a long name that the catalogue knows, and the other is not hybrid. -/
def Resolved.Clashes (r q : Resolved) : Prop :=
  (r.field.hybrid = true ∧ q.field.hybrid = false ∧ r.names.cf.longName ≠ CfName.unknownWord) ∨
    (r.field.hybrid = false ∧ q.field.hybrid = true ∧ q.names.cf.longName ≠ CfName.unknownWord)

/-- What stands at a place of the second list is related to what stands there in the first. -/
theorem getElem?_of_forall₂ {α β : Type} {R : α → β → Prop} {as : List α} {bs : List β}
    (h : List.Forall₂ R as bs) {i : Nat} {b : β} (hb : bs[i]? = some b) :
    ∃ a, as[i]? = some a ∧ R a b := by
  obtain ⟨inside, rfl⟩ := List.getElem?_eq_some_iff.1 hb
  have inside' : i < as.length := h.length_eq ▸ inside
  exact ⟨as[i], List.getElem?_eq_getElem inside', h.get inside' inside⟩

section
variable {ctx : RunContext} {lookup : StashCode → Except Error StashEntry}

theorem Field.sourced_of_resolveWith {f : Field} {r : Resolved}
    (h : (f.resolveWith ctx lookup).result = .ok r) : r.Sourced lookup := by
  by_cases hybrid : f.hybrid = true
  · rw [resolveWith, if_pos hybrid, Logged.result_of] at h
    obtain ⟨dest, code, entry, kind, extent, -, found, -, -, rfl⟩ := resolveHybrid_eq_ok_iff.1 h
    exact .catalogued hybrid found rfl rfl
  · rw [resolveWith, if_neg hybrid, resolveTagged_result] at h
    obtain rfl : f.tagged = r := by simpa using h
    exact .usual (eq_false_of_ne_true hybrid) (by simp only [Field.tagged, Resolved.key])

namespace Resolved.Sourced

variable {r q : Resolved}

/-- A name that is the label of a code is not one of a usual field. -/
theorem unknown_of_label {code : StashCode}
    (name : r.names.cf = (CfName.lookup? r.key).getD .unknown) (label : r.key = code.label) :
    r.names.cf = .unknown := by
  rw [name, label, CfName.lookup?_label]
  rfl

/-- Among fields that are resolved in the same way, the key determines the name. -/
theorem cf_eq_of_same (h : r.Sourced lookup) (h' : q.Sourced lookup) (key : r.key = q.key)
    (same : r.field.hybrid = q.field.hybrid) : r.names.cf = q.names.cf := by
  cases h with
  | usual plain name =>
    cases h' with
    | usual _ name' => rw [name, name', key]
    | catalogued hybrid => simp [plain, hybrid] at same
  | catalogued hybrid found label name =>
    cases h' with
    | usual plain => simp [hybrid, plain] at same
    | catalogued _ found' label' name' =>
      obtain rfl := StashCode.label_injective (label.symm.trans (key.trans label'))
      obtain rfl := Except.ok.inj (found.symm.trans found')
      rw [name, name']

/-- Of two fields that share a key, one by its code and one by its tag, only the first can have a
long name that is known. -/
theorem cf_eq_iff_unknown (h : r.Sourced lookup) (h' : q.Sourced lookup) (key : r.key = q.key)
    (hybrid : r.field.hybrid = true) (plain : q.field.hybrid = false) :
    r.names.cf = q.names.cf ↔ r.names.cf.longName = CfName.unknownWord := by
  cases h with
  | usual plain' => simp [hybrid] at plain'
  | catalogued _ _ label name =>
    cases h' with
    | catalogued hybrid' => simp [plain] at hybrid'
    | usual _ name' =>
      rw [unknown_of_label name' (key.symm.trans label), name, CfName.unknown, CfName.mk.injEq]
      exact and_iff_left rfl

theorem cf_eq_iff (h : r.Sourced lookup) (h' : q.Sourced lookup) (key : r.key = q.key) :
    r.names.cf = q.names.cf ↔ ¬ r.Clashes q := by
  cases hybrid : r.field.hybrid <;> cases hybrid' : q.field.hybrid
  · simp [h.cf_eq_of_same h' key (hybrid.trans hybrid'.symm), Clashes, hybrid, hybrid']
  · rw [eq_comm, h'.cf_eq_iff_unknown h key.symm hybrid' hybrid]
    simp [Clashes, hybrid, hybrid']
  · rw [h.cf_eq_iff_unknown h' key hybrid hybrid']
    simp [Clashes, hybrid, hybrid']
  · simp [h.cf_eq_of_same h' key (hybrid.trans hybrid'.symm), Clashes, hybrid, hybrid']

end Resolved.Sourced

/-- The row of a key holds the name of the first field of that key. -/
theorem CfTable.Tabulates.name_of_mem {resolved : List Resolved} {t : CfTable}
    (h : t.Tabulates resolved) {r : Resolved} (hr : r ∈ resolved) :
    ∃ first, resolved.find? (·.key = r.key) = some first ∧
      (t.rows.map Prod.snd)[rowOf (resolved.map Resolved.key) r.key - 1]? =
        some first.names.cf := by
  have member : r.key ∈ resolved.map Resolved.key := List.mem_map_of_mem hr
  have place := rowOf_eq member
  have inside := List.idxOf_lt_length_iff.2 (List.mem_eraseDups.2 member)
  have key : (t.rows.map Prod.fst)[rowOf (resolved.map Resolved.key) r.key - 1]? = some r.key := by
    rw [h.keys, place, Nat.add_sub_cancel, List.getElem?_eq_getElem inside,
      List.getElem_idxOf inside]
  rw [List.getElem?_map, Option.map_eq_some_iff] at key
  obtain ⟨⟨key, name⟩, entry, rfl⟩ := key
  obtain ⟨first, found, name⟩ := h.names _ (List.mem_of_getElem? entry)
  refine ⟨first, found, ?_⟩
  rw [List.getElem?_map, entry, ← name]
  rfl

theorem forall_sourced {fields : List Field} {resolved : List Resolved}
    (each : List.Forall₂ (fun f r => (f.resolveWith ctx lookup).result = .ok r) fields resolved) :
    ∀ r ∈ resolved, r.Sourced lookup := by
  intro r hr
  obtain ⟨i, place⟩ := List.getElem?_of_mem hr
  obtain ⟨f, -, resolves⟩ := getElem?_of_forall₂ each place
  exact Field.sourced_of_resolveWith resolves

/-- The block of a field begins with the banner of what the field resolves to. -/
theorem Written.begins_with_banner {fields : List Field} {resolved : List Resolved} {p : Progress}
    (h : Written ctx lookup fields p)
    (each : List.Forall₂ (fun f r => (f.resolveWith ctx lookup).result = .ok r) fields resolved)
    {i : Nat} {r : Resolved} {s : Summary} {block : String} (hr : resolved[i]? = some r)
    (hs : p.summaries[i]? = some s) (hblock : p.blocks[i]? = some block) :
    ∃ below, block = unlines (r.bannerLines s.numbers ++ below) := by
  obtain ⟨f, hf, resolves⟩ := getElem?_of_forall₂ each hr
  obtain ⟨q, g, resolves', -, -, -, text, -⟩ := h.writtenAs hf hs hblock
  obtain rfl := Except.ok.inj (resolves.symm.trans resolves')
  exact ⟨_, text⟩

/-- The row that the summary points to holds this name. -/
def Summary.PointsTo (s : Summary) (rows : List CfName) (name : CfName) : Prop :=
  1 ≤ s.cfIndex.toNat ∧ rows[s.cfIndex.toNat - 1]? = some name

/-- A field points to the row of the first field that has its key. The row holds the long name and
the unit of the field itself, and so the long name that its banner begins with, exactly when the two
do not clash. -/
theorem row_describes_iff {fields : List Field} {out : Rendered}
    (h : (render ctx lookup fields).result = .ok out) :
    ∃ resolved rows blocks,
      List.Forall₂ (fun f r => (f.resolveWith ctx lookup).result = .ok r) (retained fields)
        resolved ∧
      out.HasRows rows ∧ out.Blocks ctx blocks ∧
      ((resolved.map Resolved.key).eraseDups.length < UInt64.size →
        ∀ (i : Nat) (r : Resolved) (s : Summary) (block : String), resolved[i]? = some r →
          out.fields[i]? = some s → blocks[i]? = some block →
          (∃ below, block = unlines (r.bannerLines s.numbers ++ below)) ∧
          ∃ first, resolved.find? (·.key = r.key) = some first ∧
            s.PointsTo rows first.names.cf ∧ (s.PointsTo rows r.names.cf ↔ ¬ first.Clashes r)) := by
  obtain ⟨p, written, rfl⟩ := render_eq_ok_iff.1 h
  obtain ⟨resolved, each, table, indices⟩ := written.numbersKeys
  refine ⟨resolved, p.table.rows.map Prod.snd, p.blocks, each, p.hasRows ctx, written.blocks, ?_⟩
  intro room i r s block hr hs hblock
  have member : r ∈ resolved := List.mem_of_getElem? hr
  obtain ⟨first, found, name⟩ := table.name_of_mem member
  have index := toNat_cfIndex indices room hr hs
  have points : s.PointsTo (p.table.rows.map Prod.snd) first.names.cf := by
    rw [Summary.PointsTo, index]
    exact ⟨Nat.le_add_left 1 _, name⟩
  have sourced := forall_sourced each
  have key : first.key = r.key := by simpa using List.find?_some found
  have same := (sourced first (List.mem_of_find?_eq_some found)).cf_eq_iff (sourced r member) key
  refine ⟨written.begins_with_banner each hr hs hblock, first, found, points, ?_⟩
  rw [← same]
  constructor
  · intro own
    exact Option.some.inj (points.2.symm.trans own.2)
  · intro equal
    exact equal ▸ points

end

/-- A run of two atmospheres and an ocean. -/
def temperatureRun : RunContext where
  components := Table.ofList [
    (.atmosphere, { grid := "n96", resolution := some (192, 144), modelLevels := some 85 }),
    (.junior, { grid := "n48", resolution := some (96, 72), modelLevels := some 85 }),
    (.ocean, { grid := "orca1", resolution := some (360, 290) })]
  schedules := Table.ofList [
    (⟨.atmosphere, .junior⟩, ⟨3600, none⟩), (⟨.atmosphere, .ocean⟩, ⟨3600, none⟩)]
  runtime := 86400
  startDate := "19790101"

def temperatureMaster : String := "1|1|3|236|TEMPERATURE AT 1.5M|\n2|2|0|1|1|5|-1|-1|\n"

def temperatureLookup : StashCode → Except Error StashEntry :=
  (Stashmaster.parse temperatureMaster).find

/-- The air temperature by its code. -/
def airTemperature : Field :=
  { windStress with
    name := "A03236", number := 236, grid := 't', dest := .junior, levels := none, order := none,
    weight := 10, hybrid := true }

/-- A field to the ocean that is named like the label of the air temperature. -/
def namesake : Field :=
  { airTemperature with
    name := "m01s03i236", number := 1, dest := .ocean, weight := 20, hybrid := false }

def temperatureName : CfName := ⟨"TEMPERATURE AT 1.5M", "unknown"⟩

theorem row_describes_iff_temperature :
    ∃ out s t rows, (render temperatureRun temperatureLookup [airTemperature, namesake]).result =
        .ok out ∧ out.fields = [s, t] ∧ out.HasRows rows ∧
      s.PointsTo rows temperatureName ∧ t.PointsTo rows temperatureName ∧
        ¬ t.PointsTo rows .unknown := by
  obtain ⟨out, s, t, rendered, fields⟩ :
      ∃ out s t, (render temperatureRun temperatureLookup [airTemperature, namesake]).result =
        .ok out ∧ out.fields = [s, t] := ⟨_, _, _, rfl, rfl⟩
  obtain ⟨resolved, rows, blocks, each, table, parts, points⟩ := row_describes_iff rendered
  obtain ⟨r, _, first, others, rfl⟩ := List.forall₂_cons_left_iff.1 each
  obtain ⟨q, _, second, none_, rfl⟩ := List.forall₂_cons_left_iff.1 others
  obtain rfl := List.forall₂_nil_left_iff.1 none_
  obtain ⟨r', resolves, key, name, hybrid⟩ :
      ∃ r', (airTemperature.resolveWith temperatureRun temperatureLookup).result = .ok r' ∧
        r'.key = "m01s03i236" ∧ r'.names.cf = temperatureName ∧ r'.field.hybrid = true :=
    ⟨_, rfl, by decide, rfl, rfl⟩
  obtain rfl := Except.ok.inj (first.symm.trans resolves)
  obtain rfl : namesake.tagged = q := Except.ok.inj second
  have key' : namesake.tagged.key = "m01s03i236" := by decide
  have room : ([r, namesake.tagged].map Resolved.key).eraseDups.length < UInt64.size := by
    rw [List.map_cons, List.map_singleton, key, key']
    decide
  have found : ∀ k, k = "m01s03i236" → [r, namesake.tagged].find? (·.key = k) = some r := by
    rintro _ rfl
    exact List.find?_cons_of_pos (decide_eq_true key)
  have two : blocks.length = 2 := by rw [parts.length, fields]; rfl
  have hs : out.fields[0]? = some s := by rw [fields]; rfl
  have ht : out.fields[1]? = some t := by rw [fields]; rfl
  obtain ⟨-, q, hq, own, -⟩ :=
    points room 0 r s _ rfl hs (List.getElem?_eq_getElem (by omega))
  obtain rfl := Option.some.inj (hq.symm.trans (found _ key))
  obtain ⟨-, q', hq', shared, clashes⟩ :=
    points room 1 namesake.tagged t _ rfl ht (List.getElem?_eq_getElem (by omega))
  obtain rfl := Option.some.inj (hq'.symm.trans (found _ key'))
  rw [name] at own shared
  refine ⟨out, s, t, rows, rendered, fields, table, own, shared, ?_⟩
  intro described
  refine clashes.1 described (.inl ⟨hybrid, rfl, ?_⟩)
  rw [name]
  decide

/-- The field to the ocean, of which nothing is known, points to a row with the name of the air
temperature. -/
theorem row_describes_fails :
    ∃ out r s, (render temperatureRun temperatureLookup [airTemperature, namesake]).result =
        .ok out ∧
      (namesake.resolveWith temperatureRun temperatureLookup).result = .ok r ∧
      r.names.cf = .unknown ∧ out.fields[1]? = some s ∧ s.cfIndex = 1 ∧
      out.HasRows [temperatureName] ∧ ¬ s.PointsTo [temperatureName] r.names.cf := by
  obtain ⟨out, s, rendered, field, index, table⟩ :
      ∃ out s, (render temperatureRun temperatureLookup [airTemperature, namesake]).result =
          .ok out ∧ out.fields[1]? = some s ∧ s.cfIndex = 1 ∧ out.HasRows [temperatureName] :=
    ⟨_, _, rfl, rfl, rfl, rfl⟩
  have unknown : namesake.tagged.names.cf = .unknown := rfl
  refine ⟨out, namesake.tagged, s, rendered, rfl, unknown, field, index, table, ?_⟩
  rintro ⟨-, row⟩
  rw [index, unknown] at row
  exact absurd row (by decide)

end Coupling
