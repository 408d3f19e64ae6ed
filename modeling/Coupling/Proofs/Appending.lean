import Coupling.Proofs.CfRows
import Coupling.Proofs.Levels

/-!
# Appended fields

What is written for some fields stays as it is when others follow them:

* `Progress.Begins p q`: the rows, blocks and summaries of `p` are the first ones of `q`. Adding a
  field only appends to what there is (`Progress.begins_of_add`), and so does adding any number of
  fields (`Progress.begins_of_addAll`);
* `renderWith_append`: where fields are rendered together with others after them, they are also
  rendered by themselves, and what is written then is the beginning of what is written for all.
-/

namespace Coupling

/-- What `p` has written is the beginning of what `q` has written. -/
structure Progress.Begins (p q : Progress) : Prop where
  rows : p.table.rows <+: q.table.rows
  blocks : p.blocks <+: q.blocks
  summaries : p.summaries <+: q.summaries

namespace Progress

theorem Begins.refl (p : Progress) : p.Begins p :=
  ⟨List.prefix_rfl, List.prefix_rfl, List.prefix_rfl⟩

theorem Begins.trans {p q r : Progress} (h : p.Begins q) (h' : q.Begins r) : p.Begins r :=
  ⟨h.rows.trans h'.rows, h.blocks.trans h'.blocks, h.summaries.trans h'.summaries⟩

section
variable {ctx : RunContext} {lookup : StashCode → Except Error StashEntry}

/-- A field is written after what there is. -/
theorem begins_of_add {p q : Progress} {f : Field} (h : (p.add ctx lookup f).result = .ok q) :
    p.Begins q := by
  obtain ⟨e, -, rfl, rfl⟩ := add_eq_ok_iff.1 h
  exact ⟨e.before.table.rows_prefix_insert _ _, List.prefix_append _ _, List.prefix_append _ _⟩

theorem begins_of_addAll {p q : Progress} {fields : List Field}
    (h : (p.addAll ctx lookup fields).result = .ok q) : p.Begins q := by
  induction fields generalizing p with
  | nil =>
    simp only [addAll, Logged.result_pure, Except.ok.injEq] at h
    exact h ▸ .refl p
  | cons f fields ih =>
    simp only [addAll, Logged.result_bind, bind_eq_ok] at h
    obtain ⟨p', first, rest⟩ := h
    exact (begins_of_add first).trans (ih rest)

end

end Progress

theorem retained_append (fields others : List Field) :
    retained (fields ++ others) = retained fields ++ retained others :=
  List.filter_append fields others

section
variable {ctx : RunContext} {lookup : StashCode → Except Error StashEntry}

/-- Where fields are written before others, they can be written alone, and the others are added to
what was written for them. -/
theorem Written.of_append {fields others : List Field} {q : Progress}
    (h : Written ctx lookup (fields ++ others) q) :
    ∃ p, Written ctx lookup fields p ∧ p.Begins q := by
  have all := h.addAll
  rw [addAll_append, bind_eq_ok] at all
  obtain ⟨p, first, rest⟩ := all
  exact ⟨p, addAll_eq_ok_iff.1 first, Progress.begins_of_addAll rest⟩

end

/-- The written blocks are those of the fields, each with the numbers of its summary. -/
structure Rendered.Writes (out : Rendered) (ctx : RunContext)
    (lookup : StashCode → Except Error StashEntry) (fields : List Field)
    (blocks : List String) : Prop where
  parts : out.Blocks ctx blocks
  each : ∀ (i : Nat) (f : Field) (s : Summary) (block : String), fields[i]? = some f →
    out.fields[i]? = some s → blocks[i]? = some block → f.WrittenAs ctx lookup s block

theorem Written.writes {ctx : RunContext} {lookup : StashCode → Except Error StashEntry}
    {fields : List Field} {p : Progress} (h : Written ctx lookup fields p) :
    (p.finish ctx).Writes ctx lookup fields p.blocks where
  parts := h.blocks
  each _ _ _ _ hf hs hblock := h.writtenAs hf hs hblock

/-- Fields that follow others change nothing of what is written for those: not whether they can be
written, nor their summaries, their rows of CF names or their blocks. -/
theorem renderWith_append {read : FileReader} {ctx : RunContext} {fields others : List Field}
    {out : Rendered} (h : (renderWith read ctx (fields ++ others)).result = .ok out) :
    ∃ first, (renderWith read ctx fields).result = .ok first ∧ first.fields <+: out.fields ∧
      (∃ firstRows rows, first.HasRows firstRows ∧ out.HasRows rows ∧ firstRows <+: rows) ∧
      ∃ firstBlocks blocks,
        first.Writes ctx (catalogue read ctx) (retained fields) firstBlocks ∧
        out.Writes ctx (catalogue read ctx) (retained (fields ++ others)) blocks ∧
        firstBlocks <+: blocks := by
  -- The catalogue is a function of the run, so it does not matter which field reads it first.
  rw [renderWith_eq] at h
  obtain ⟨q, all, rfl⟩ := render_eq_ok_iff.1 h
  obtain ⟨p, written, begins⟩ := Written.of_append (retained_append fields others ▸ all)
  refine ⟨p.finish ctx, render_eq_ok_iff.2 ⟨p, written, rfl⟩, begins.summaries, ?_, ?_⟩
  · exact ⟨_, _, p.hasRows ctx, q.hasRows ctx, begins.rows.map Prod.snd⟩
  · exact ⟨_, _, written.writes, all.writes, begins.blocks⟩

/-- A wind stress between the two atmospheres, for which no catalogue is needed. -/
def sharedStress : Field :=
  { windStress with dest := .junior, grid := 't', order := none }

def soilMoisture : Field :=
  { sharedStress with name := "A08223", weight := 4, hybrid := true }

/-- The catalogue is first read for the field that is appended. -/
theorem renderWith_append_soil :
    ∃ out, (renderWith soilFiles (soilRun 4) ([sharedStress] ++ [soilMoisture])).result = .ok out ∧
      out.fields.length = 2 ∧
      ∃ first, (renderWith soilFiles (soilRun 4) [sharedStress]).result = .ok first ∧
        first.fields.length = 1 ∧ first.fields <+: out.fields := by
  obtain ⟨out, rendered, two⟩ :
      ∃ out, (render (soilRun 4) (Stashmaster.parse soilMaster).find
        ([sharedStress] ++ [soilMoisture])).result = .ok out ∧ out.fields.length = 2 :=
    ⟨_, rfl, rfl⟩
  rw [← catalogue_of_hasMaster (soilRun_hasMaster 4)] at rendered
  obtain ⟨first, alone, begins, -, blocks, -, writes, -⟩ := renderWith_append rendered
  have one : (retained [sharedStress]).length = 1 := rfl
  obtain ⟨p, written, rfl⟩ := render_eq_ok_iff.1 alone
  exact ⟨out, rendered, two, _, alone, written.lengths.1.trans one, begins⟩

end Coupling
