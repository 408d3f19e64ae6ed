import Coupling.Proofs.FirstReading

/-!
# Attempts to resolve a field

An attempt to resolve a field fills attributes of the field in, and it may read the catalogue:

* `StashCatalogue.Uses m`: look-ups are answered from the catalogue `m`, which is loaded or will be.
  The look-up that finds a code leaves it loaded (`Uses.lookup_eq`);
* `resolve_of_tagged` and `resolve_of_hybrid`: what an attempt comes to that succeeds, for each of
  the two ways of resolving. There are no other successes (`exists_of_resolve`);
* `Field.InPlace`: an attempt changes grid, levels and soil flag at most, and only where the field
  resolves; made again on what it left, it changes nothing more;
* `resolve_in_place`: every attempt is like this.
-/

namespace Coupling

theorem Logged.bind_of_ok {α β : Type} {x : Logged α} {a : α} (h : x.result = .ok a)
    (next : α → Logged β) : x >>= next = ⟨(next a).result, x.events ++ (next a).events⟩ := by
  show andThen x next = _
  simp only [andThen, h]

/-! ## The catalogue in use -/

namespace StashCatalogue

/-- Look-ups are answered from the catalogue `m`: it is loaded, or what is on file. -/
def Uses (c : StashCatalogue) (read : FileReader) (ctx : RunContext) (m : Stashmaster) : Prop :=
  c.loaded = some m ∨ c.loaded = none ∧ Stashmaster.load read ctx = .ok m

variable {c : StashCatalogue} {read : FileReader} {ctx : RunContext} {m : Stashmaster}
  {code : StashCode}

/-- A catalogue in use is loaded after the first look-up. -/
theorem Uses.lookup_eq (h : c.Uses read ctx m) (code : StashCode) :
    c.lookup read ctx code = (m.find code, ⟨some m⟩) := by
  obtain ⟨loaded⟩ := c
  rcases h with rfl | ⟨rfl, onFile⟩
  · exact lookup_of_loaded rfl code
  · simp only [lookup, onFile]

theorem Uses.unique {m' : Stashmaster} (h : c.Uses read ctx m) (h' : c.Uses read ctx m') :
    m = m' := by
  have same := (h.lookup_eq ⟨0, 0⟩).symm.trans (h'.lookup_eq ⟨0, 0⟩)
  simpa using congrArg Prod.snd same

theorem exists_uses_of_lookup {entry : StashEntry} (h : (c.lookup read ctx code).1 = .ok entry) :
    ∃ m, c.Uses read ctx m ∧ m.find code = .ok entry := by
  cases loaded : c.loaded with
  | some m =>
    rw [lookup_of_loaded loaded] at h
    exact ⟨m, .inl loaded, h⟩
  | none =>
    cases onFile : Stashmaster.load read ctx with
    | ok m =>
      have uses : c.Uses read ctx m := .inr ⟨loaded, onFile⟩
      rw [uses.lookup_eq] at h
      exact ⟨m, uses, h⟩
    | error e => simp [lookup, loaded, onFile] at h

/-- A look-up leaves the catalogue alone, or it loads the one on file. -/
theorem lookup_leaves (c : StashCatalogue) (read : FileReader) (ctx : RunContext)
    (code : StashCode) : (c.lookup read ctx code).2 = c ∨
      c.loaded = none ∧ ∃ text, ctx.HasMaster read text ∧
        (c.lookup read ctx code).2.loaded = some (Stashmaster.parse text) := by
  cases loaded : c.loaded with
  | some m => exact .inl (by rw [lookup_of_loaded loaded])
  | none =>
    by_cases found : ∃ text, ctx.HasMaster read text
    · obtain ⟨text, master⟩ := found
      exact .inr ⟨rfl, text, master, by rw [lookup_of_hasMaster loaded master]⟩
    · obtain ⟨e, outcome, -⟩ := lookup_of_not_hasMaster loaded (not_exists.1 found) code
      exact .inl (by rw [outcome])

end StashCatalogue

/-! ## Attempts that succeed -/

namespace Field

/-- The field with other values for what resolving fills in. -/
def fill (f : Field) (grid : Char) (levels : Option UInt32) (soil : Option Bool) : Field :=
  { f with grid := grid, levels := levels, soil := soil }

variable {f : Field} {ctx : RunContext} {read : FileReader} {c : StashCatalogue}

theorem resolveTagged_eq (f : Field) :
    f.resolveTagged = ⟨.ok f.tagged, (metadata f.name (cfKey f.name f.origin)).events⟩ := by
  apply (Logged.bind_of_ok (metadata_result f.name (cfKey f.name f.origin)) _).trans
  exact congrArg (Logged.mk (.ok f.tagged)) (List.append_nil _)

theorem resolve_of_tagged (plain : f.hybrid = false) :
    f.resolve ctx read c =
      ⟨⟨.ok f.tagged.names, (metadata f.name (cfKey f.name f.origin)).events⟩, f.tagged.field,
        c⟩ := by
  simp only [resolve, resolveWith, catalogueAfter, plain, Bool.false_eq_true, if_false,
    resolveTagged_eq, Except.map]

/-- Any catalogue in use is as good as the one it holds. -/
theorem names_of_hybrid {m : Stashmaster} (hybrid : f.hybrid = true) (uses : c.Uses read ctx m) :
    (f.resolve ctx read c).names.result = (f.resolveHybrid ctx m.find).map Resolved.names := by
  simp only [resolve, resolveWith, hybrid, if_true, uses.lookup_eq, Logged.result_of]

section
variable {dest : Char} {code : StashCode} {m : Stashmaster} {entry : StashEntry} {kind : GridKind}
  {extent : Extent}

theorem resolve_of_hybrid (hybrid : f.hybrid = true) (parts : f.hybridParts = .ok (dest, code))
    (uses : c.Uses read ctx m) (found : m.find code = .ok entry)
    (grid : GridKind.ofCode entry.grid = .ok kind)
    (levels : Extent.resolve kind entry.firstLevel entry.lastLevel f.origin ctx = .ok extent) :
    f.resolve ctx read c =
      ⟨⟨.ok (f.catalogued dest code entry kind extent).names, []⟩,
        (f.catalogued dest code entry kind extent).field, ⟨some m⟩⟩ := by
  have resolved : f.resolveHybrid ctx m.find = .ok (f.catalogued dest code entry kind extent) :=
    resolveHybrid_eq_ok_iff.2 ⟨dest, code, entry, kind, extent, parts, found, grid, levels, rfl⟩
  simp only [resolve, resolveWith, catalogueAfter, hybrid, if_true, parts, uses.lookup_eq,
    resolved, Logged.of, Except.map]

end

theorem exists_of_resolve (hybrid : f.hybrid = true) {names : Names}
    (h : (f.resolve ctx read c).names.result = .ok names) :
    ∃ dest code m entry kind extent, f.hybridParts = .ok (dest, code) ∧ c.Uses read ctx m ∧
      m.find code = .ok entry ∧ GridKind.ofCode entry.grid = .ok kind ∧
      Extent.resolve kind entry.firstLevel entry.lastLevel f.origin ctx = .ok extent ∧
      f.resolve ctx read c =
        ⟨⟨.ok (f.catalogued dest code entry kind extent).names, []⟩,
          (f.catalogued dest code entry kind extent).field, ⟨some m⟩⟩ := by
  have resolved : ∃ r, f.resolveHybrid ctx (fun code => (c.lookup read ctx code).1) = .ok r := by
    simp only [resolve, resolveWith, hybrid, if_true, Logged.result_of] at h
    cases outcome : f.resolveHybrid ctx (fun code => (c.lookup read ctx code).1) with
    | ok r => exact ⟨r, rfl⟩
    | error e => simp [outcome, Except.map] at h
  obtain ⟨r, resolved⟩ := resolved
  obtain ⟨dest, code, entry, kind, extent, parts, found, grid, levels, -⟩ :=
    resolveHybrid_eq_ok_iff.1 resolved
  obtain ⟨m, uses, found⟩ := StashCatalogue.exists_uses_of_lookup found
  exact ⟨dest, code, m, entry, kind, extent, parts, uses, found, grid, levels,
    resolve_of_hybrid hybrid parts uses found grid levels⟩

theorem resolve_failed {e : Error} (h : (f.resolve ctx read c).names.result = .error e) :
    (f.resolve ctx read c).field = f := by
  simp only [resolve] at h ⊢
  cases outcome : (f.resolveWith ctx fun code => (c.lookup read ctx code).1).result with
  | ok r => simp [outcome, Except.map] at h
  | error e' => rfl

theorem catalogueAfter_leaves (f : Field) (ctx : RunContext) (read : FileReader)
    (c : StashCatalogue) : f.catalogueAfter ctx read c = c ∨
      c.loaded = none ∧ ∃ text, ctx.HasMaster read text ∧
        (f.catalogueAfter ctx read c).loaded = some (Stashmaster.parse text) := by
  unfold catalogueAfter
  by_cases hybrid : f.hybrid = true
  · rw [if_pos hybrid]
    cases f.hybridParts with
    | ok parts => exact c.lookup_leaves read ctx parts.2
    | error e => exact .inl rfl
  · rw [if_neg hybrid]
    exact .inl rfl

/-! ## What an attempt changes -/

/-- What an attempt `a` to resolve a field does to it and to the catalogue. -/
structure InPlace (f : Field) (ctx : RunContext) (read : FileReader) (c : StashCatalogue)
    (a : Attempt) : Prop where
  frame : ∃ grid levels soil, a.field = f.fill grid levels soil
  failed : ∀ e, a.names.result = .error e → a.field = f
  /-- A catalogue that is loaded stays, and one that is not is loaded from file or not at all. -/
  catalogue : a.catalogue = c ∨ c.loaded = none ∧ ∃ text, ctx.HasMaster read text ∧
    a.catalogue.loaded = some (Stashmaster.parse text)
  /-- A field by its tag always resolves, and keeps the levels and the soil flag that it has. -/
  tagged : f.hybrid = false → (∃ names, a.names.result = .ok names) ∧
    a.field = f.fill f.grid (some (f.levels.getD 1)) (some (f.soil.getD false)) ∧ a.catalogue = c
  /-- A hybrid field takes all three from the entry for its code. -/
  catalogued : f.hybrid = true → ∀ names, a.names.result = .ok names →
    ∃ m code entry kind extent, a.catalogue.loaded = some m ∧ f.NamesCode code ∧
      m.entries.get? code = some entry ∧ GridKind.ofCode entry.grid = .ok kind ∧
      Extent.Extents ctx f.origin entry.firstLevel entry.lastLevel kind extent ∧
      a.field = f.fill kind.letter (some extent.levels) (some extent.soil)
  /-- What a hybrid field held before makes no difference. -/
  overwritten : f.hybrid = true → ∀ names, a.names.result = .ok names →
    ∀ grid levels soil, (f.fill grid levels soil).resolve ctx read c = a
  /-- The resolved field resolves to the same again, and no file is needed any more. -/
  again : ∀ names, a.names.result = .ok names → ∀ read', a.field.resolve ctx read' a.catalogue = a

theorem inPlace_of_tagged (plain : f.hybrid = false) :
    f.InPlace ctx read c (f.resolve ctx read c) := by
  have again (read' : FileReader) : f.tagged.field.resolve ctx read' c = f.resolve ctx read c := by
    rw [resolve_of_tagged plain]
    exact resolve_of_tagged plain
  have marked {P : Prop} (hybrid : f.hybrid = true) : P := by simp [plain] at hybrid
  rw [resolve_of_tagged plain] at again ⊢
  exact {
    frame := ⟨_, _, _, rfl⟩
    failed := nofun
    catalogue := .inl rfl
    tagged := fun _ => ⟨⟨_, rfl⟩, rfl, rfl⟩
    catalogued := fun hybrid => marked hybrid
    overwritten := fun hybrid => marked hybrid
    again := fun _ _ => again }

theorem inPlace_of_hybrid (hybrid : f.hybrid = true) {names : Names}
    (h : (f.resolve ctx read c).names.result = .ok names) :
    f.InPlace ctx read c (f.resolve ctx read c) := by
  have leaves := f.catalogueAfter_leaves ctx read c
  obtain ⟨dest, code, m, entry, kind, extent, parts, uses, found, grid, levels, attempt⟩ :=
    exists_of_resolve hybrid h
  have overwritten (g : Char) (l : Option UInt32) (s : Option Bool) :
      (f.fill g l s).resolve ctx read c = f.resolve ctx read c := by
    rw [attempt]
    exact resolve_of_hybrid hybrid parts uses found grid levels
  -- the names do not depend on what is filled in, so the field that was filled has them too
  have again (read' : FileReader) : (f.resolve ctx read c).field.resolve ctx read'
      (f.resolve ctx read c).catalogue = f.resolve ctx read c := by
    rw [attempt]
    exact resolve_of_hybrid hybrid parts (.inl rfl) found grid levels
  refine ⟨?_, ?_, leaves, ?_, ?_, fun _ _ _ => overwritten, fun _ _ => again⟩
  · rw [attempt]
    exact ⟨_, _, _, rfl⟩
  · intro e failed
    exact resolve_failed failed
  · intro plain
    simp [plain] at hybrid
  · intro _ _ _
    rw [attempt]
    exact ⟨m, code, entry, kind, extent, rfl, namesCode_of_hybridParts parts,
      Stashmaster.find_eq_ok_iff.1 found, grid, Extent.resolve_eq_ok_iff.1 levels, rfl⟩

/-- An attempt to resolve a field fills in what it found, and leaves a field that cannot be resolved
as it was. -/
theorem resolve_in_place (f : Field) (ctx : RunContext) (read : FileReader) (c : StashCatalogue) :
    f.InPlace ctx read c (f.resolve ctx read c) := by
  cases hybrid : f.hybrid with
  | false => exact inPlace_of_tagged hybrid
  | true =>
    cases outcome : (f.resolve ctx read c).names.result with
    | ok names => exact inPlace_of_hybrid hybrid outcome
    | error e =>
      have unchanged := resolve_failed outcome
      have refused {P : Prop} (names : Names)
          (h : (f.resolve ctx read c).names.result = .ok names) : P := by
        rw [outcome] at h
        cases h
      refine ⟨?_, fun _ _ => unchanged, f.catalogueAfter_leaves ctx read c, ?_, ?_, ?_, refused⟩
      · exact ⟨f.grid, f.levels, f.soil, unchanged⟩
      · intro plain
        simp [plain] at hybrid
      · exact fun _ => refused
      · exact fun _ => refused

end Field

end Coupling
