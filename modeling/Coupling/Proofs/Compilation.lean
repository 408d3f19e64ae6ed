import Coupling.Proofs.Expansion
import Coupling.Proofs.Header
import Coupling.Proofs.Schedules
import Coupling.Proofs.Weights

/-!
# Compilations

The stages of a compilation put together:

* `Stages` are the fields that one stage hands to the next and what each stage checks;
  `compile_eq_ok_iff` says that a compilation succeeds exactly when it has stages;
* `written_once`: every retained field is written exactly once, in strict order of weight, at the
  place that its summary gives;
* `compile_request_order`: the same requests in another order compile to the same texts, or fail
  as well.
-/

namespace Coupling

/-- The catalogue as the files of a run give it. -/
def catalogue (read : FileReader) (ctx : RunContext) (code : StashCode) : Except Error StashEntry :=
  Stashmaster.load read ctx >>= fun m => m.find code

theorem renderWith_eq (read : FileReader) (ctx : RunContext) (fields : List Field) :
    renderWith read ctx fields = render ctx (catalogue read ctx) fields := rfl

/-- Rendering does not see the fields that are not written. -/
theorem renderWith_congr (read : FileReader) (ctx : RunContext) {fields others : List Field}
    (h : retained fields = retained others) :
    renderWith read ctx fields = renderWith read ctx others := by
  unfold renderWith render
  rw [h]

theorem check_result (ctx : RunContext) (fields : List Field) :
    (ctx.check fields).outcome.result = ctx.checkLevels >>= fun _ => checkWeights fields := by
  unfold RunContext.check
  cases ctx.checkLevels <;> rfl

theorem check_context {ctx : RunContext} (h : ctx.checkLevels = .ok ()) (fields : List Field) :
    (ctx.check fields).context = ctx.tighten := by
  simp only [RunContext.check, h, ctx.tightening_eq]

/-- A compilation as the sequence of its stages, without what they report. -/
theorem compile_result (read : FileReader) (ctx : RunContext) (requests : List Request) :
    (compile read ctx requests).result = (do
      let explicit ← Request.buildAll requests
      let records ← (expandDefaults ctx explicit).result
      ctx.checkLevels
      checkWeights records
      let rendered ← (renderWith read ctx.tighten (orderByWeight records)).result
      return ⟨ctx.tighten, orderByWeight records, rendered, .of ctx.tighten requests⟩) := by
  simp only [compile, Logged.result_bind, Logged.result_of, check_result]
  cases levels : ctx.checkLevels with
  | error e => rfl
  | ok =>
    simp only [check_context levels]
    rfl

/-- What the stages of a successful compilation make of its requests. -/
structure Stages (read : FileReader) (ctx : RunContext) (requests : List Request)
    (explicit records : List Field) (c : Compiled) : Prop where
  built : Request.buildAll requests = .ok explicit
  expanded : (expandDefaults ctx explicit).result = .ok records
  levels : ctx.checkLevels = .ok ()
  weights : checkWeights records = .ok ()
  context : c.context = ctx.tighten
  fields : c.fields = orderByWeight records
  rendered : (render c.context (catalogue read c.context) c.fields).result = .ok c.rendered
  provenance : c.provenance = .of c.context requests

theorem compile_eq_ok_iff {read : FileReader} {ctx : RunContext} {requests : List Request}
    {c : Compiled} :
    (compile read ctx requests).result = .ok c ↔
      ∃ explicit records, Stages read ctx requests explicit records c := by
  simp only [compile_result, bind_eq_ok, pure_eq_ok, renderWith_eq]
  constructor
  · rintro ⟨explicit, built, records, expanded, _, levels, _, weights, out, rendered, rfl⟩
    exact ⟨explicit, records, built, expanded, levels, weights, rfl, rfl, rendered, rfl⟩
  · rintro ⟨explicit, records, s⟩
    obtain ⟨context, fields, out, provenance⟩ := c
    obtain rfl : context = ctx.tighten := s.context
    obtain rfl : fields = orderByWeight records := s.fields
    obtain rfl : provenance = .of ctx.tighten requests := s.provenance
    exact ⟨explicit, s.built, records, s.expanded, (), s.levels, (), s.weights, out, s.rendered, rfl⟩

/-- Fields that are declared explicitly, in order of weight, are rendered as they are. -/
theorem compile_of_sorted {read : FileReader} {ctx : RunContext} {requests : List Request}
    {records : List Field} {out : Rendered} (built : Request.buildAll requests = .ok records)
    (explicit : records.any Field.isPlaceholder = false)
    (sorted : records.Pairwise fun a b => a.weight ≤ b.weight)
    (levels : ctx.checkLevels = .ok ()) (weights : checkWeights records = .ok ())
    (rendered : (render ctx.tighten (catalogue read ctx.tighten) records).result = .ok out) :
    (compile read ctx requests).result =
      .ok ⟨ctx.tighten, records, out, .of ctx.tighten requests⟩ := by
  have expanded : (expandDefaults ctx records).result = .ok records := by
    rw [expandDefaults_eq_ok_iff, explicit]
    rfl
  exact compile_eq_ok_iff.2 ⟨records, records, built, expanded, levels, weights, rfl,
    (orderByWeight_of_sorted sorted).symm, rendered, rfl⟩

/-- The summary carries the attributes of its field over. -/
structure Summary.Describes (s : Summary) (f : Field) : Prop where
  source : s.source = f.name
  origin : s.origin = f.origin
  dest : s.dest = f.dest
  mapping : s.mapping = f.mapping
  weight : s.weight = f.weight

theorem Emission.Of.describes {ctx : RunContext} {lookup : StashCode → Except Error StashEntry}
    {f : Field} {e : Emission} (of : e.Of ctx lookup f) : e.summary.Describes f := by
  obtain ⟨source, _, _, _, filled⟩ := Field.fills_of_resolveWith of.resolved
  constructor
  · exact source
  all_goals simp [summary, Progress.summary, filled]

/-- Where a field stands among the written ones, its summary stands with that number. -/
theorem Written.summary {ctx : RunContext} {lookup : StashCode → Except Error StashEntry}
    {fields : List Field} {p : Progress} (h : Written ctx lookup fields p) {i : Nat} {f : Field}
    {s : Summary} (hf : fields[i]? = some f) (hs : p.summaries[i]? = some s) :
    s.index = UInt64.ofNat (i + 1) ∧ s.Describes f := by
  obtain ⟨e, before, of, place, -⟩ := h.emission hf
  obtain rfl : s = e.summary := Option.some.inj (hs.symm.trans place)
  have inside : i < fields.length := (List.getElem?_eq_some_iff.1 hf).1
  have count : e.before.summaries.length = i := by
    rw [before.lengths.1, List.length_take, Nat.min_eq_left (Nat.le_of_lt inside)]
  exact ⟨congrArg (fun n => UInt64.ofNat (n + 1)) count, of.describes⟩

namespace Stages

variable {read : FileReader} {ctx : RunContext} {requests : List Request}
  {explicit records : List Field} {c : Compiled}

theorem fields_perm (s : Stages read ctx requests explicit records c) : c.fields.Perm records :=
  s.fields ▸ orderByWeight_perm records

theorem retained_strict (s : Stages read ctx requests explicit records c) :
    (retained c.fields).Pairwise fun a b => a.weight < b.weight :=
  s.fields ▸ Coupling.retained_strict (checkWeights_eq_ok_iff.1 s.weights)

theorem declared (s : Stages read ctx requests explicit records c) :
    ∀ f ∈ records, f.Declared :=
  expandDefaults_declared s.expanded (Request.declared_of_buildAll s.built)

theorem declared_of_retained (s : Stages read ctx requests explicit records c) :
    ∀ f ∈ retained c.fields, f.Declared := by
  intro f kept
  exact s.declared f (s.fields_perm.mem_iff.1 (List.mem_filter.1 kept).1)

theorem resolved (s : Stages read ctx requests explicit records c) :
    ∀ f ∈ c.fields, f.isPlaceholder = false :=
  fun f hf => expandDefaults_resolved s.expanded f (s.fields_perm.mem_iff.1 hf)

/-- There are never so many fields that their numbers run over. -/
theorem retained_lt (s : Stages read ctx requests explicit records c) :
    (retained c.fields).length < UInt64.size := by
  rw [(retained_perm s.fields_perm).length_eq]
  refine length_lt_of_distinct (checkWeights_eq_ok_iff.1 s.weights) ?_
  exact fun f hf => (s.declared f (List.mem_filter.1 hf).1).hasRoom

/-- The written fields and their summaries, place for place. -/
theorem summary (s : Stages read ctx requests explicit records c) :
    c.rendered.fields.length = (retained c.fields).length ∧
      ∀ (i : Nat) (f : Field) (t : Summary), (retained c.fields)[i]? = some f →
        c.rendered.fields[i]? = some t → t.index.toNat = i + 1 ∧ t.Describes f := by
  obtain ⟨p, written, out⟩ := render_eq_ok_iff.1 s.rendered
  rw [out]
  refine ⟨written.lengths.1, ?_⟩
  intro i f t hf ht
  obtain ⟨index, describes⟩ := written.summary hf ht
  have inside : i < (retained c.fields).length := (List.getElem?_eq_some_iff.1 hf).1
  have bound := s.retained_lt
  refine ⟨?_, describes⟩
  rw [index, UInt64.toNat_ofNat_of_lt' (by omega)]

theorem summary_strict (s : Stages read ctx requests explicit records c) :
    c.rendered.fields.Pairwise fun t u => t.weight < u.weight := by
  obtain ⟨total, each⟩ := s.summary
  rw [List.pairwise_iff_getElem]
  intro i j hi hj below
  have first := (each i _ _ (List.getElem?_eq_getElem (total ▸ hi))
    (List.getElem?_eq_getElem hi)).2.weight
  have second := (each j _ _ (List.getElem?_eq_getElem (total ▸ hj))
    (List.getElem?_eq_getElem hj)).2.weight
  rw [first, second]
  exact List.pairwise_iff_getElem.1 s.retained_strict i j _ _ below

end Stages

/-- A run of the rivers and an ocean. -/
def riverRun : RunContext where
  components := Table.ofList [
    (.ocean, { grid := "orca1", resolution := some (360, 290) }),
    (.river, { grid := "rivers", resolution := some (720, 360) })]
  schedules := Table.ofList [(⟨.river, .ocean⟩, ⟨10800, none⟩)]
  runtime := 86400
  startDate := "19790101"

/-- The usual fields, and a runoff that is dropped once and sent once with the same weight. -/
def riverRequests : List Request := [
  ⟨{ origin := .river }, [" default "]⟩,
  ⟨{ origin := .river }, ["RIV_RUNOFF;1;t;OCN;;remove;4", "RIV_RUNOFF;2;t;OCN;2;0D;4"]⟩]

/-- A run without hybrid fields reads no files. -/
def noFiles : FileReader := fun _ => .error .notFound

theorem compile_river : ∃ c, (compile noFiles riverRun riverRequests).result = .ok c := by
  obtain ⟨explicit, records, built, expanded, sorted, weights, out, rendered⟩ :
      ∃ explicit records, Request.buildAll riverRequests = .ok explicit ∧
        (expandDefaults riverRun explicit).result = .ok records ∧
        (records.Pairwise fun a b => a.weight ≤ b.weight) ∧ checkWeights records = .ok () ∧
        ∃ out, (render riverRun.tighten (catalogue noFiles riverRun.tighten) records).result =
          .ok out :=
    ⟨_, _, rfl, rfl, by decide, rfl, _, rfl⟩
  refine ⟨⟨riverRun.tighten, records, out, .of riverRun.tighten riverRequests⟩, ?_⟩
  rw [compile_eq_ok_iff]
  exact ⟨explicit, records, built, expanded, rfl, weights, rfl,
    (orderByWeight_of_sorted sorted).symm, rendered, rfl⟩

/-- Of `records`, nothing is lost, repeated or added on the way into the output. -/
structure Compiled.Holds (c : Compiled) (records : List Field) : Prop where
  perm : c.fields.Perm records
  sorted : c.fields.Pairwise fun a b => a.weight ≤ b.weight
  stable : ∀ w, c.fields.filter (·.weight = w) = records.filter (·.weight = w)
  resolved : ∀ f ∈ c.fields, f.isPlaceholder = false
  written : (retained c.fields).Perm (retained records)
  total : c.rendered.fields.length = (retained c.fields).length
  summary : ∀ (i : Nat) (f : Field) (s : Summary), (retained c.fields)[i]? = some f →
    c.rendered.fields[i]? = some s → s.index.toNat = i + 1 ∧ s.Describes f
  strict : c.rendered.fields.Pairwise fun s t => s.weight < t.weight
  announced : fieldCount? c.rendered.namcouple = some c.rendered.fields.length

/-- The fields that the requests come to are the fields of the compilation, and those of them that
are not removed are written once each, numbered in strict order of weight. -/
theorem written_once {read : FileReader} {ctx : RunContext} {requests : List Request}
    {c : Compiled} (h : (compile read ctx requests).result = .ok c) :
    ∃ explicit records, Request.buildAll requests = .ok explicit ∧
      (expandDefaults ctx explicit).result = .ok records ∧ c.Holds records := by
  obtain ⟨explicit, records, s⟩ := compile_eq_ok_iff.1 h
  obtain ⟨total, summary⟩ := s.summary
  refine ⟨explicit, records, s.built, s.expanded, s.fields_perm, ?_, ?_, s.resolved,
    retained_perm s.fields_perm, total, summary, s.summary_strict, fieldCount_of_render s.rendered⟩
  · exact s.fields ▸ orderByWeight_sorted records
  · intro w
    rw [s.fields]
    exact orderByWeight_stable records w

theorem written_once_river :
    ∃ c, (compile noFiles riverRun riverRequests).result = .ok c ∧
      ∃ explicit records, Request.buildAll riverRequests = .ok explicit ∧
        (expandDefaults riverRun explicit).result = .ok records ∧ c.Holds records := by
  obtain ⟨c, compiled⟩ := compile_river
  exact ⟨c, compiled, written_once compiled⟩

/-- A compilation of the same requests in another order differs only where weights tie, and no
two written fields tie. -/
structure Compiled.SameOutput (c d : Compiled) : Prop where
  namcouple : c.rendered.namcouple = d.rendered.namcouple
  cfTable : c.rendered.cfTable = d.rendered.cfTable
  summaries : c.rendered.fields = d.rendered.fields
  context : c.context = d.context
  fields : c.fields.Perm d.fields
  weights : c.fields.map Field.weight = d.fields.map Field.weight
  written : retained c.fields = retained d.fields

theorem compile_agree (read : FileReader) (ctx : RunContext) {requests others : List Request}
    (h : requests.Perm others) :
    Agree Compiled.SameOutput (compile read ctx requests).result
      (compile read ctx others).result := by
  rw [compile_result, compile_result]
  refine (Request.buildAll_agree h).bind ?_
  intro explicit explicit' declared
  refine (expandDefaults_agree ctx declared).bind ?_
  intro records records' perm
  refine Agree.bind_same ctx.checkLevels ?_
  intro _
  refine (checkWeights_agree perm).bind ?_
  intro _ _ same
  rw [renderWith_congr read ctx.tighten same]
  refine Agree.bind_same _ ?_
  intro out
  exact ⟨rfl, rfl, rfl, rfl, orderByWeight_congr perm, orderByWeight_weights_eq perm, same⟩

/-- The order of the requests decides neither whether they compile nor what is written. -/
theorem compile_request_order (read : FileReader) (ctx : RunContext)
    {requests others : List Request} (h : requests.Perm others) :
    ((∃ c, (compile read ctx requests).result = .ok c) ↔
        ∃ d, (compile read ctx others).result = .ok d) ∧
      ∀ c d, (compile read ctx requests).result = .ok c →
        (compile read ctx others).result = .ok d → c.SameOutput d :=
  Agree.iff_ok.1 (compile_agree read ctx h)

theorem compile_request_order_river :
    riverRequests.Perm riverRequests.reverse ∧
      ∃ c d, (compile noFiles riverRun riverRequests).result = .ok c ∧
        (compile noFiles riverRun riverRequests.reverse).result = .ok d ∧ c.SameOutput d := by
  have perm : riverRequests.Perm riverRequests.reverse := riverRequests.reverse_perm.symm
  obtain ⟨success, same⟩ := compile_request_order noFiles riverRun perm
  obtain ⟨c, hc⟩ := compile_river
  obtain ⟨d, hd⟩ := success.1 ⟨c, hc⟩
  exact ⟨perm, c, d, hc, hd, same c d hc hd⟩

end Coupling
