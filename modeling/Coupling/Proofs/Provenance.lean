import Coupling.Proofs.Levels
import Coupling.Proofs.Records

/-!
# Provenance

A compilation keeps the digests of what it was made from. The texts under these digests decide what
it writes:

* `compile_tighten`: a run context compiles as its tightened form does;
* `render_baseDirectory`: the base directory is used for nothing but finding the catalogue, and the
  catalogue for nothing but hybrid fields (`render_congr`);
* `rendered_determined`: with the same tightened run context, the same requests and, where a hybrid
  field is written, the same catalogue, two compilations write the same.
-/

namespace Coupling

/-! ## Tightening -/

/-- No schedule is added or dropped. -/
theorem RunContext.activeDirections_tighten (ctx : RunContext) :
    ctx.tighten.activeDirections = ctx.activeDirections := by
  unfold activeDirections
  rw [keys_tighten]
  rfl

/-- The defaults depend on the active directions only. -/
theorem expandDefaults_congr {ctx ctx' : RunContext}
    (h : ctx.activeDirections = ctx'.activeDirections) (fields : List Field) :
    expandDefaults ctx fields = expandDefaults ctx' fields := by
  unfold expandDefaults
  rw [h]

/-- A run context compiles as its tightened form does. -/
theorem compile_tighten (read : FileReader) (ctx : RunContext) (requests : List Request) :
    (compile read ctx.tighten requests).result = (compile read ctx requests).result := by
  rw [compile_result, compile_result, ctx.tighten_tighten]
  simp only [expandDefaults_congr ctx.activeDirections_tighten]
  rfl

/-! ## Base directories and catalogues -/

section
variable {ctx : RunContext} {lookup lookup' : StashCode → Except Error StashEntry}

theorem addAll_baseDirectory (base : String) (p : Progress) (fields : List Field) :
    p.addAll { ctx with baseDirectory := base } lookup fields = p.addAll ctx lookup fields := by
  induction fields generalizing p with
  | nil => rfl
  | cons f fields ih =>
    show (p.add ctx lookup f >>= fun q => q.addAll _ lookup fields) = _
    simp only [ih]
    rfl

theorem render_baseDirectory (ctx : RunContext) (base : String) (fields : List Field) :
    render { ctx with baseDirectory := base } lookup fields = render ctx lookup fields := by
  unfold render
  rw [addAll_baseDirectory]
  rfl

theorem add_tagged (p : Progress) {f : Field} (tagged : ¬ f.hybrid = true) :
    p.add ctx lookup f = p.add ctx lookup' f := by
  unfold Progress.add Field.resolveWith
  rw [if_neg tagged, if_neg tagged]

theorem addAll_tagged (p : Progress) {fields : List Field}
    (tagged : ∀ f ∈ fields, ¬ f.hybrid = true) :
    p.addAll ctx lookup fields = p.addAll ctx lookup' fields := by
  induction fields generalizing p with
  | nil => rfl
  | cons f fields ih =>
    obtain ⟨first, others⟩ := List.forall_mem_cons.1 tagged
    have added : p.add ctx lookup f = p.add ctx lookup' f := add_tagged p first
    unfold Progress.addAll
    rw [added]
    simp only [fun q => ih q others]

/-- The catalogue is consulted for hybrid fields only. -/
theorem render_congr {fields : List Field}
    (h : (∃ f ∈ retained fields, f.hybrid = true) → lookup = lookup') :
    render ctx lookup fields = render ctx lookup' fields := by
  by_cases hybrid : ∃ f ∈ retained fields, f.hybrid = true
  · rw [h hybrid]
  · unfold render
    have tagged : ∀ f ∈ retained fields, ¬ f.hybrid = true :=
      fun f hf marked => hybrid ⟨f, hf, marked⟩
    rw [addAll_tagged {} tagged]

end

/-- Where a hybrid field is written, the catalogue has been read. -/
theorem hasMaster_of_render {read : FileReader} {ctx : RunContext} {fields : List Field}
    {out : Rendered} (h : (render ctx (catalogue read ctx) fields).result = .ok out)
    (hybrid : ∃ f ∈ retained fields, f.hybrid = true) : ∃ text, ctx.HasMaster read text := by
  obtain ⟨f, member, hybrid⟩ := hybrid
  obtain ⟨p, written, -⟩ := render_eq_ok_iff.1 h
  obtain ⟨i, place⟩ := List.mem_iff_getElem?.1 member
  obtain ⟨e, -, of, -, -⟩ := written.emission place
  have resolved := of.resolved
  rw [Field.resolveWith, if_pos hybrid, Logged.result_of] at resolved
  obtain ⟨_, code, entry, _, _, -, found, -⟩ := Field.resolveHybrid_eq_ok_iff.1 resolved
  obtain ⟨m, loaded, -⟩ := bind_eq_ok.1 found
  obtain ⟨text, master, -⟩ := Stashmaster.load_eq_ok_iff_hasMaster.1 loaded
  exact ⟨text, master⟩

/-- The base directory shows in a rendering through the catalogue only. -/
theorem render_elsewhere {read read' : FileReader} {ctx : RunContext} {base : String}
    {fields : List Field}
    (h : (∃ f ∈ retained fields, f.hybrid = true) →
      catalogue read ctx = catalogue read' { ctx with baseDirectory := base }) :
    render { ctx with baseDirectory := base } (catalogue read' { ctx with baseDirectory := base })
      fields = render ctx (catalogue read ctx) fields := by
  rw [render_baseDirectory, render_congr h]

/-! ## Two compilations -/

namespace Compiled

def WritesHybrid (c : Compiled) : Prop := ∃ f ∈ retained c.fields, f.hybrid = true

/-- What is written is decided by the texts that the provenance has the digests of and, where a
hybrid field is written, by the text of the catalogue. -/
structure DeterminedBy (c : Compiled) (read : FileReader) (ctx : RunContext)
    (requests : List Request) : Prop where
  contextDigest : c.provenance.context = Digest.Sha256.hex ctx.tighten.toJson.text
  requestsDigest : c.provenance.requests = Digest.Sha256.hex (Request.listToJson requests).text
  /-- Another compilation from the same texts writes the same. -/
  texts : ∀ (read' : FileReader) (ctx' : RunContext) (requests' : List Request) (d : Compiled),
    (compile read' ctx' requests').result = .ok d →
    ctx.tighten.toJson.text = ctx'.tighten.toJson.text →
    (Request.listToJson requests).text = (Request.listToJson requests').text →
    (c.WritesHybrid → ∀ text text', ctx.HasMaster read text → ctx'.HasMaster read' text' →
      text = text') →
    c.rendered = d.rendered
  /-- From another base directory the same is written, as long as the catalogue is found there. -/
  elsewhere : ∀ (read' : FileReader) (base : String),
    (c.WritesHybrid → ∃ text, ctx.HasMaster read text ∧
      { ctx with baseDirectory := base }.HasMaster read' text) →
    ∃ d, (compile read' { ctx with baseDirectory := base } requests).result = .ok d ∧
      c.rendered = d.rendered
  /-- Primary periods above the period of the statistics make no difference. -/
  tightened : (compile read ctx.tighten requests).result = .ok c

end Compiled

namespace Stages

variable {read : FileReader} {ctx : RunContext} {requests : List Request}
  {explicit records : List Field} {c : Compiled}

theorem hasMaster (s : Stages read ctx requests explicit records c) (hybrid : c.WritesHybrid) :
    ∃ text, ctx.HasMaster read text := by
  obtain ⟨text, master⟩ := hasMaster_of_render s.rendered hybrid
  rw [s.context] at master
  exact ⟨text, RunContext.hasMaster_tighten.1 master⟩

theorem catalogue_eq (s : Stages read ctx requests explicit records c) {text : String}
    (master : ctx.HasMaster read text) :
    catalogue read c.context = (Stashmaster.parse text).find := by
  rw [s.context]
  exact catalogue_of_hasMaster (RunContext.hasMaster_tighten.2 master)

theorem texts (s : Stages read ctx requests explicit records c) {read' : FileReader}
    {ctx' : RunContext} {requests' : List Request} {explicit' records' : List Field} {d : Compiled}
    (s' : Stages read' ctx' requests' explicit' records' d)
    (contexts : ctx.tighten.toJson.text = ctx'.tighten.toJson.text)
    (lists : (Request.listToJson requests).text = (Request.listToJson requests').text)
    (catalogues : c.WritesHybrid → ∀ text text', ctx.HasMaster read text →
      ctx'.HasMaster read' text' → text = text') :
    c.rendered = d.rendered := by
  obtain rfl := Persists.requests.text_injective lists
  obtain rfl : explicit = explicit' := Except.ok.inj (s.built.symm.trans s'.built)
  have apart := RunContext.eq_of_text_eq contexts
  have active : ctx.activeDirections = ctx'.activeDirections := by
    rw [← ctx.activeDirections_tighten, ← ctx'.activeDirections_tighten, apart]
    rfl
  obtain rfl : records = records' := by
    have expanded := s.expanded
    rw [expandDefaults_congr active] at expanded
    exact Except.ok.inj (expanded.symm.trans s'.expanded)
  have fields : d.fields = c.fields := s'.fields.trans s.fields.symm
  have context : d.context = { c.context with baseDirectory := d.context.baseDirectory } := by
    rw [s.context, s'.context]
    exact apart
  have found : c.WritesHybrid → catalogue read c.context = catalogue read' d.context := by
    intro hybrid
    obtain ⟨text, master⟩ := s.hasMaster hybrid
    obtain ⟨text', master'⟩ := s'.hasMaster (by rwa [Compiled.WritesHybrid, fields])
    obtain rfl := catalogues hybrid text text' master master'
    rw [s.catalogue_eq master, s'.catalogue_eq master']
  have rendered := s'.rendered
  rw [fields, context, render_elsewhere (context ▸ found), s.rendered] at rendered
  exact Except.ok.inj rendered

theorem elsewhere (s : Stages read ctx requests explicit records c) {read' : FileReader}
    {base : String}
    (catalogues : c.WritesHybrid → ∃ text, ctx.HasMaster read text ∧
      { ctx with baseDirectory := base }.HasMaster read' text) :
    ∃ d, (compile read' { ctx with baseDirectory := base } requests).result = .ok d ∧
      c.rendered = d.rendered := by
  let ctx' := { c.context with baseDirectory := base }
  have context : ctx' = { ctx with baseDirectory := base }.tighten := by
    show { c.context with baseDirectory := base } = _
    rw [s.context]
    rfl
  have found : c.WritesHybrid → catalogue read c.context = catalogue read' ctx' := by
    intro hybrid
    obtain ⟨text, master, master'⟩ := catalogues hybrid
    rw [s.catalogue_eq master, context,
      catalogue_of_hasMaster (RunContext.hasMaster_tighten.2 master')]
  refine ⟨⟨ctx', c.fields, c.rendered, .of ctx' requests⟩, compile_eq_ok_iff.2 ?_, rfl⟩
  refine ⟨explicit, records, s.built, ?_, s.levels, s.weights, context, s.fields, ?_, rfl⟩
  · rw [← s.expanded]
    rfl
  · rw [render_elsewhere found, s.rendered]

end Stages

/-- The provenance of a compilation, with the catalogue where one is used, decides what is
written. -/
theorem rendered_determined {read : FileReader} {ctx : RunContext} {requests : List Request}
    {c : Compiled} (h : (compile read ctx requests).result = .ok c) :
    c.DeterminedBy read ctx requests := by
  obtain ⟨explicit, records, s⟩ := compile_eq_ok_iff.1 h
  have provenance : c.provenance = .of ctx.tighten requests := s.context ▸ s.provenance
  refine ⟨?_, ?_, ?_, fun _ _ => s.elsewhere, ?_⟩
  · rw [provenance]
    rfl
  · rw [provenance]
    rfl
  · intro read' ctx' requests' d compiled
    obtain ⟨_, _, s'⟩ := compile_eq_ok_iff.1 compiled
    exact s.texts s'
  · rw [compile_tighten, h]

/-- A hybrid run that is found in some directory, with statistics every hour. -/
def hourlyRun (primary : UInt32) (base : String) : RunContext :=
  { soilRun 4 with
    schedules := Table.ofList [(⟨.atmosphere, .junior⟩, ⟨primary, some 3600⟩)]
    baseDirectory := base }

def filesUnder (base : String) : FileReader := fun path =>
  if path = Path.join (Path.join base "stash") "STASHmaster_A" then .ok soilMaster.toUTF8
  else .error .notFound

theorem hourlyRun_hasMaster (primary : UInt32) (base : String) :
    (hourlyRun primary base).HasMaster (filesUnder base) soilMaster :=
  ⟨_, rfl, if_pos rfl⟩

theorem compile_hourly {primary : UInt32} {base : String}
    (tight : (hourlyRun primary base).tighten = hourlyRun 3600 base) :
    ∃ c, (compile (filesUnder base) (hourlyRun primary base) soilRequests).result = .ok c ∧
      c.WritesHybrid := by
  obtain ⟨records, built, explicit, sorted, weights, hybrid, out, rendered⟩ :
      ∃ records, Request.buildAll soilRequests = .ok records ∧
        records.any Field.isPlaceholder = false ∧
        (records.Pairwise fun a b => a.weight ≤ b.weight) ∧ checkWeights records = .ok () ∧
        (∃ f ∈ retained records, f.hybrid = true) ∧
        ∃ out, (render (hourlyRun 3600 "") (Stashmaster.parse soilMaster).find records).result =
          .ok out :=
    ⟨_, rfl, rfl, by decide, rfl, ⟨_, .head _, rfl⟩, _, rfl⟩
  have same : (render (hourlyRun primary base).tighten
      (catalogue (filesUnder base) (hourlyRun primary base).tighten) records).result = .ok out := by
    rw [tight, catalogue_of_hasMaster (hourlyRun_hasMaster 3600 base), ← rendered]
    exact congrArg Logged.result (render_baseDirectory (hourlyRun 3600 "") base records)
  exact ⟨_, compile_of_sorted built explicit sorted rfl weights same, hybrid⟩

/-- Neither a longer primary period nor another directory shows. -/
theorem rendered_determined_hourly :
    ∃ c d, (compile (filesUnder "") (hourlyRun 7200 "") soilRequests).result = .ok c ∧
      (compile (filesUnder "/jobs") (hourlyRun 3600 "/jobs") soilRequests).result = .ok d ∧
      c.WritesHybrid ∧ c.rendered = d.rendered := by
  have loose : (hourlyRun 7200 "").tighten = hourlyRun 3600 "" := by decide
  have tight : (hourlyRun 3600 "/jobs").tighten = hourlyRun 3600 "/jobs" := by decide
  obtain ⟨c, hc, hybrid⟩ := compile_hourly loose
  obtain ⟨d, hd, -⟩ := compile_hourly tight
  refine ⟨c, d, hc, hd, hybrid, (rendered_determined hc).texts _ _ _ d hd ?_ rfl ?_⟩
  · rw [loose, tight]
    rfl
  · intro _ text text' master master'
    rw [master.unique (hourlyRun_hasMaster 7200 ""),
      master'.unique (hourlyRun_hasMaster 3600 "/jobs")]

end Coupling
