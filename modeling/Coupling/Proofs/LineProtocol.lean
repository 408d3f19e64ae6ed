import Coupling.Proofs.Words

/-!
# The protocol of the connection line

The coupler reads a connection line as seven words between blanks, of which the first two are names
between colons. The writer puts the name of a field into the line as it stands:

* `Resolved.connectionWords` are the parts of the line, each after a blank;
* `Summary.ObeysProtocol` says what the coupler has to find in the line;
* `obeysProtocol_iff`: it finds it exactly when the name of the field has neither a blank nor a
  colon. The grammar demands neither;
* `obeysProtocol_fails`: a name with blanks is accepted and written.
-/

namespace Coupling

/-! ## The name on the receiving side -/

theorem Text.cut?_eq_some {word text before after : List Char}
    (h : cut? word text = some (before, after)) : text = before ++ (word ++ after) := by
  induction text generalizing before after with
  | nil =>
    unfold cut? at h
    split at h
    · next empty =>
      obtain ⟨rfl, rfl⟩ : [] = before ∧ [] = after := by simpa using h
      rw [empty]
      rfl
    · cases h
  | cons c text ih =>
    unfold cut? at h
    split at h
    · next start =>
      obtain ⟨rest, whole⟩ := List.isPrefixOf_iff_prefix.1 start
      obtain ⟨rfl, rfl⟩ : [] = before ∧ (c :: text).drop word.length = after := by simpa using h
      rw [← whole, List.drop_left, List.nil_append]
    · obtain ⟨⟨front, back⟩, found, ends⟩ := Option.map_eq_some_iff.1 h
      obtain ⟨rfl, rfl⟩ : c :: front = before ∧ back = after := by simpa using ends
      rw [ih found, List.cons_append]

/-- A replaced word brings its own characters in and leaves the others of the text. -/
theorem Text.mem_replaceFirst {word other text : List Char} {c : Char}
    (h : c ∈ replaceFirst word other text) : c ∈ text ∨ c ∈ other := by
  unfold replaceFirst at h
  split at h
  · next before after found =>
    rw [cut?_eq_some found]
    simp only [List.mem_append] at h ⊢
    tauto
  · exact .inl h

/-- Either nothing is replaced, or the other word is in. -/
theorem Text.replaceFirst_eq_or (word other text : List Char) :
    replaceFirst word other text = text ∨ ∀ c ∈ other, c ∈ replaceFirst word other text := by
  unfold replaceFirst
  split
  · exact .inr fun c member => List.mem_append_left _ (List.mem_append_right _ member)
  · exact .inl rfl

theorem Component.plain_tag (component : Component) : Text.Plain component.tag.toList := by
  cases component <;> decide

theorem Component.plain_of_hybridMarker {component : Component} {marker : Char}
    (h : component.hybridMarker = some marker) : Text.Plain [marker] := by
  cases component <;> cases h <;> decide

theorem StashCode.plain_text (code : StashCode) : Text.Plain code.text.toList := by
  rw [text, String.toList_ofList]
  exact (Text.plain_of_digits fun _ => Text.isDigit_of_mem_padded).append
    (Text.plain_of_digits fun _ => Text.isDigit_of_mem_padded)

namespace Field

variable {ctx : RunContext} {lookup : StashCode → Except Error StashEntry} {f : Field}
  {r : Resolved}

/-- The receiver's name of a hybrid field is a letter and digits. -/
theorem target_of_hybrid (hybrid : f.hybrid = true)
    (h : (f.resolveWith ctx lookup).result = .ok r) :
    ∃ marker digits, r.names.target.toList = marker :: digits ∧ Text.Plain (marker :: digits) := by
  rw [resolveWith, if_pos hybrid, Logged.result_of] at h
  obtain ⟨dest, code, entry, kind, extent, parts, -, -, -, rfl⟩ := resolveHybrid_eq_ok_iff.1 h
  obtain ⟨⟨origin, dest'⟩, ends, code', -, same⟩ := by
    simpa only [hybridParts, bind_eq_ok, pure_eq_ok] using parts
  obtain ⟨rfl, rfl⟩ : dest' = dest ∧ code' = code := by simpa using same
  have marker := Component.plain_of_hybridMarker (hybridEnds_eq_ok_iff.1 ends).2
  exact ⟨dest', code'.text.toList, String.toList_ofList, marker.append code'.plain_text⟩

theorem target_of_tagged (plain : ¬ f.hybrid = true)
    (h : (f.resolveWith ctx lookup).result = .ok r) :
    r.names.target.toList =
      Text.replaceFirst f.origin.tag.toList f.dest.tag.toList f.name.toList := by
  rw [resolveWith, if_neg plain, resolveTagged_result] at h
  obtain rfl : f.tagged = r := Except.ok.inj h
  exact String.toList_ofList

theorem plain_target (h : (f.resolveWith ctx lookup).result = .ok r)
    (plain : Text.Plain f.name.toList) : Text.Plain r.names.target.toList := by
  by_cases hybrid : f.hybrid = true
  · obtain ⟨marker, digits, target, solid⟩ := target_of_hybrid hybrid h
    exact target ▸ solid
  · rw [target_of_tagged hybrid h]
    intro c member
    rcases Text.mem_replaceFirst member with member | member
    · exact plain c member
    · exact f.dest.plain_tag c member

/-- Something on the receiving side is not blank, whatever the field is called. -/
theorem exists_solid_target (named : f.WellNamed) (h : (f.resolveWith ctx lookup).result = .ok r) :
    ∃ c ∈ r.names.target.toList, Text.isBlank c = false := by
  by_cases hybrid : f.hybrid = true
  · obtain ⟨marker, digits, target, solid⟩ := target_of_hybrid hybrid h
    rw [target]
    exact ⟨marker, List.mem_cons_self, (solid marker List.mem_cons_self).1⟩
  · rw [target_of_tagged hybrid h]
    rcases Text.replaceFirst_eq_or f.origin.tag.toList f.dest.tag.toList f.name.toList with
      same | inside
    · obtain ⟨c, rest, name⟩ := List.exists_cons_of_ne_nil named.filled
      rw [same]
      refine ⟨c, name ▸ List.mem_cons_self, named.trimmed.first c ?_⟩
      rw [name]
      rfl
    · obtain ⟨c, rest, tag⟩ : ∃ c rest, f.dest.tag.toList = c :: rest := by
        cases f.dest <;> exact ⟨_, _, rfl⟩
      have member : c ∈ f.dest.tag.toList := tag ▸ List.mem_cons_self
      exact ⟨c, inside c member, (f.dest.plain_tag c member).1⟩

end Field

/-! ## The words of the line -/

/-- Words, each after a blank. -/
def spaced (words : List String) : String := String.join (words.map (" " ++ ·))

theorem toList_spaced_cons (word : String) (words : List String) :
    (spaced (word :: words)).toList = ' ' :: (word.toList ++ (spaced words).toList) := by
  simp [spaced]

/-- A text in front of what is spaced does not run into its first word. -/
theorem words_append_spaced (text : List Char) (words : List String) :
    Text.words (text ++ (spaced words).toList) =
      Text.words text ++ Text.words (spaced words).toList := by
  cases words with
  | nil => simp [spaced, Text.words]
  | cons word words =>
    rw [toList_spaced_cons, Text.words_append_blank _ _ (by decide),
      Text.words_cons_blank _ (by decide)]

/-- What is spaced is read as the words of its parts. -/
theorem words_spaced (words : List String) :
    Text.words (spaced words).toList = words.flatMap fun word => Text.words word.toList := by
  induction words with
  | nil => rfl
  | cons word words ih =>
    rw [List.flatMap_cons, ← ih, toList_spaced_cons, Text.words_cons_blank _ (by decide),
      words_append_spaced]

theorem mem_spaced {words : List String} {c : Char} (h : c ∈ (spaced words).toList) :
    c = ' ' ∨ ∃ word ∈ words, c ∈ word.toList := by
  induction words with
  | nil => simp [spaced] at h
  | cons word words ih =>
    rw [toList_spaced_cons, List.mem_cons, List.mem_append] at h
    rcases h with blank | member | later
    · exact .inl blank
    · exact .inr ⟨word, List.mem_cons_self, member⟩
    · rcases ih later with blank | ⟨other, listed, member⟩
      · exact .inl blank
      · exact .inr ⟨other, List.mem_cons_of_mem _ listed, member⟩

/-- The modes that a field is sent in. -/
def outputModes : List String := ["EXPORTED", "EXPOUT"]

namespace Resolved

variable (r : Resolved) (ctx : RunContext) (s : Summary)

/-- The numbers and marks that follow the names in the connection line. -/
def connectionMarks : List String :=
  [s!"{s.cfIndex.toNat}", s!"{s.period.toNat}", s!"{r.field.transformations ctx}", "rstrt.nc",
    if ctx.exported.contains r.field.name then "EXPOUT" else "EXPORTED"]

/-- What stands in the connection line. -/
def connectionWords : List String :=
  levelNames s.source s.levels :: levelNames s.target s.levels :: r.connectionMarks ctx s

theorem connection_eq : r.connection ctx s = spaced (r.connectionWords ctx s) ++ "\n" := by
  unfold connection
  apply String.toList_injective
  simp [spaced, connectionWords, connectionMarks]

/-- The marks are solid words, whatever the field is called. -/
theorem connectionMarks_solid : ∀ word ∈ r.connectionMarks ctx s,
    word.toList ≠ [] ∧ ∀ c ∈ word.toList, Text.isBlank c = false := by
  have number (n : Nat) : (s!"{n}").toList ≠ [] ∧ ∀ c ∈ (s!"{n}").toList,
      Text.isBlank c = false := by
    have digits : (s!"{n}").toList = Text.decimal n := by simp [Text.decimal]
    rw [digits]
    exact ⟨Nat.toDigits_ne_nil, fun c member =>
      Text.isBlank_of_isDigit (Text.isDigit_of_mem_decimal member)⟩
  have fixed (word : String) (known : word ∈ "rstrt.nc" :: outputModes) : word.toList ≠ [] ∧
      ∀ c ∈ word.toList, Text.isBlank c = false := by
    have solid : ∀ word ∈ "rstrt.nc" :: outputModes,
        word.toList ≠ [] ∧ Text.Plain word.toList := by decide
    obtain ⟨filled, plain⟩ := solid word known
    exact ⟨filled, fun c member => (plain c member).1⟩
  intro word listed
  simp only [connectionMarks, List.mem_cons, List.not_mem_nil, or_false] at listed
  rcases listed with rfl | rfl | rfl | rfl | rfl
  · exact number _
  · exact number _
  · exact number _
  · exact fixed _ (by decide)
  · split <;> exact fixed _ (by decide)

theorem words_connectionMarks :
    (r.connectionMarks ctx s).flatMap (fun word => Text.words word.toList) =
      (r.connectionMarks ctx s).map String.toList := by
  rw [List.map_eq_flatMap]
  refine List.flatMap_congr ?_
  intro word listed
  obtain ⟨filled, solid⟩ := r.connectionMarks_solid ctx s word listed
  exact Text.words_of_blankless filled solid

theorem words_connectionWords : Text.words (spaced (r.connectionWords ctx s)).toList =
    Text.words (levelNames s.source s.levels).toList ++
      (Text.words (levelNames s.target s.levels).toList ++
        (r.connectionMarks ctx s).map String.toList) := by
  rw [words_spaced, connectionWords, List.flatMap_cons, List.flatMap_cons, words_connectionMarks]

theorem connectionMarks_eq : ∃ mode ∈ outputModes, (r.connectionMarks ctx s).map String.toList =
    [Text.decimal s.cfIndex.toNat, Text.decimal s.period.toNat,
      Text.decimal (r.field.transformations ctx), "rstrt.nc".toList, mode.toList] := by
  refine ⟨if ctx.exported.contains r.field.name then "EXPOUT" else "EXPORTED", ?_, ?_⟩
  · split <;> decide
  · simp [connectionMarks, Text.decimal]

end Resolved

/-! ## What the coupler reads -/

/-- The coupler reads one line of seven words: the names on both sides, the row of the CF name, the
period, the number of transformations, the restart file and the mode of the output. -/
structure Summary.ReadAs (s : Summary) (transformations : Nat) (line : String)
    (sent received : List String) : Prop where
  oneLine : '\n' ∉ line.toList
  seven : ∃ source target mode, mode ∈ outputModes ∧
    Text.words line.toList = [source, target, Text.decimal s.cfIndex.toNat,
      Text.decimal s.period.toNat, Text.decimal transformations, "rstrt.nc".toList, mode.toList] ∧
    Text.namesBetween source = sent.map String.toList ∧
    Text.namesBetween target = received.map String.toList

/-- The coupler reads as many names on each side as the field is exchanged under. -/
def Summary.ObeysProtocol (s : Summary) (transformations : Nat) (line : String) : Prop :=
  ∃ sent received, s.ReadAs transformations line sent received ∧
    sent.length = (namesOfLevels s.source s.levels).length ∧
    received.length = (namesOfLevels s.target s.levels).length

theorem levelNames_ne_nil {base : String} (levels : UInt32) (filled : base.toList ≠ []) :
    (levelNames base levels).toList ≠ [] := by
  obtain ⟨rest, names⟩ := toList_levelNames_eq_append base levels
  rw [names]
  exact List.append_ne_nil_of_left_ne_nil filled _

theorem words_levelNames {base : String} (levels : UInt32) (filled : base.toList ≠ [])
    (solid : ∀ c ∈ base.toList, Text.isBlank c = false) :
    Text.words (levelNames base levels).toList = [(levelNames base levels).toList] :=
  Text.words_of_blankless (levelNames_ne_nil levels filled) (isBlank_of_mem_levelNames solid)

namespace Resolved

variable {r : Resolved} {ctx : RunContext} {s : Summary}

/-- Plain names are read as they were meant. -/
theorem readAs (source : Text.Plain s.source.toList) (sourceFilled : s.source.toList ≠ [])
    (target : Text.Plain s.target.toList) (targetFilled : s.target.toList ≠ []) :
    s.ReadAs (r.field.transformations ctx) (spaced (r.connectionWords ctx s))
      (namesOfLevels s.source s.levels) (namesOfLevels s.target s.levels) := by
  have sourceSolid : ∀ c ∈ s.source.toList, Text.isBlank c = false := fun c h => (source c h).1
  have targetSolid : ∀ c ∈ s.target.toList, Text.isBlank c = false := fun c h => (target c h).1
  constructor
  · intro newline
    rcases mem_spaced newline with blank | ⟨word, listed, member⟩
    · exact absurd blank (by decide)
    · have solid : Text.isBlank '\n' = false := by
        rcases List.mem_cons.1 listed with rfl | listed
        · exact isBlank_of_mem_levelNames sourceSolid _ member
        rcases List.mem_cons.1 listed with rfl | listed
        · exact isBlank_of_mem_levelNames targetSolid _ member
        · exact (r.connectionMarks_solid ctx s word listed).2 _ member
      exact absurd solid (by decide)
  · obtain ⟨mode, known, marks⟩ := r.connectionMarks_eq ctx s
    refine ⟨_, _, mode, known, ?_, namesBetween_levelNames fun colon => (source ':' colon).2 rfl,
      namesBetween_levelNames fun colon => (target ':' colon).2 rfl⟩
    rw [words_connectionWords, words_levelNames _ sourceFilled sourceSolid,
      words_levelNames _ targetFilled targetSolid, marks]
    rfl

/-- A blank in a name makes a word too many, and a colon makes a name too many. -/
theorem plain_of_readAs {transformations : Nat} {sent received : List String}
    (filled : s.source.toList ≠ []) (trimmed : Text.Trimmed s.source.toList)
    (target : Text.words (levelNames s.target s.levels).toList ≠ [])
    (h : s.ReadAs transformations (spaced (r.connectionWords ctx s)) sent received)
    (count : sent.length = (namesOfLevels s.source s.levels).length) :
    Text.Plain s.source.toList := by
  obtain ⟨source, _, mode, -, seven, names, -⟩ := h.seven
  rw [words_connectionWords] at seven
  obtain ⟨mode', -, marks⟩ := r.connectionMarks_eq ctx s
  have total := congrArg List.length seven
  have received := List.length_pos_iff.2 target
  simp only [List.length_append, marks, List.length_cons, List.length_nil] at total
  have solid : ∀ c ∈ s.source.toList, Text.isBlank c = false := by
    intro c member
    by_contra blank
    obtain ⟨rest, text⟩ := toList_levelNames_eq_append s.source s.levels
    have words := trimmed.two_le_words member (eq_true_of_ne_false blank) rest
    rw [← text] at words
    omega
  rw [words_levelNames _ filled solid] at seven
  obtain rfl : (levelNames s.source s.levels).toList = source := (List.cons.inj seven).1
  intro c member
  refine ⟨solid c member, ?_⟩
  rintro rfl
  have more : (namesOfLevels s.source s.levels).length <
      (Text.namesBetween (levelNames s.source s.levels).toList).length :=
    length_lt_namesBetween_levelNames member
  rw [names, List.length_map] at more
  omega

end Resolved

theorem Field.WrittenAs.obeys_iff_plain {ctx : RunContext}
    {lookup : StashCode → Except Error StashEntry} {f : Field} {s : Summary} {block : String}
    (h : f.WrittenAs ctx lookup s block) (named : f.WellNamed) :
    ∃ r line below, (f.resolveWith ctx lookup).result = .ok r ∧
      r.connection ctx s = line ++ "\n" ∧
      block = r.banner s ++ r.connection ctx s ++ below ∧
      (s.ObeysProtocol (r.field.transformations ctx) line ↔ Text.Plain f.name.toList) ∧
      (Text.Plain f.name.toList → s.ReadAs (r.field.transformations ctx) line
        (namesOfLevels s.source s.levels) (namesOfLevels s.target s.levels)) := by
  obtain ⟨r, g, resolved, numbered, written, -⟩ := h
  obtain ⟨below, -, text⟩ := by simpa only [Resolved.block, bind_eq_ok, pure_eq_ok] using written
  rw [← numbered] at text
  have source : s.source = f.name := by
    rw [numbered]
    exact (Field.fills_of_resolveWith resolved).source
  have target : s.target = r.names.target := by
    rw [numbered]
    rfl
  have sourceFilled : s.source.toList ≠ [] := source ▸ named.filled
  obtain ⟨c, member, solid⟩ := exists_solid_target named resolved
  rw [← target] at member
  have read (plain : Text.Plain f.name.toList) :
      s.ReadAs (r.field.transformations ctx) (spaced (r.connectionWords ctx s))
        (namesOfLevels s.source s.levels) (namesOfLevels s.target s.levels) :=
    Resolved.readAs (source ▸ plain) sourceFilled (target ▸ plain_target resolved plain)
      (List.ne_nil_of_mem member)
  refine ⟨r, spaced (r.connectionWords ctx s), below, resolved, r.connection_eq ctx s, text.symm,
    ⟨?_, ?_⟩, read⟩
  · rintro ⟨sent, received, read, count, -⟩
    obtain ⟨rest, names⟩ := toList_levelNames_eq_append s.target s.levels
    have words : Text.words (levelNames s.target s.levels).toList ≠ [] :=
      Text.words_ne_nil (names ▸ List.mem_append_left rest member) solid
    rw [← source]
    exact Resolved.plain_of_readAs sourceFilled (source ▸ named.trimmed) words read count
  · intro plain
    exact ⟨_, _, read plain, rfl, rfl⟩

/-- The connection line of a written field obeys the protocol exactly when the name of the field
has neither a blank nor a colon, and is then read as the names of its levels. -/
theorem obeysProtocol_iff {read : FileReader} {ctx : RunContext} {requests : List Request}
    {c : Compiled} (h : (compile read ctx requests).result = .ok c) :
    (retained c.fields).length = c.rendered.fields.length ∧
      ∃ blocks, c.rendered.Blocks c.context blocks ∧
        ∀ (i : Nat) (f : Field) (s : Summary) (block : String), (retained c.fields)[i]? = some f →
          c.rendered.fields[i]? = some s → blocks[i]? = some block →
          ∃ r line below,
            (f.resolveWith c.context (catalogue read c.context)).result = .ok r ∧
            r.connection c.context s = line ++ "\n" ∧
            block = r.banner s ++ r.connection c.context s ++ below ∧
            (s.ObeysProtocol (r.field.transformations c.context) line ↔
              Text.Plain f.name.toList) ∧
            (Text.Plain f.name.toList → s.ReadAs (r.field.transformations c.context) line
              (namesOfLevels s.source s.levels) (namesOfLevels s.target s.levels)) := by
  obtain ⟨explicit, records, stages⟩ := compile_eq_ok_iff.1 h
  obtain ⟨p, written, out⟩ := render_eq_ok_iff.1 stages.rendered
  rw [out]
  refine ⟨written.lengths.1.symm, p.blocks, written.blocks, ?_⟩
  intro i f s block hf hs hblock
  have declared := stages.declared_of_retained f (List.mem_of_getElem? hf)
  exact (written.writtenAs hf hs hblock).obeys_iff_plain declared.wellNamed

/-- A run of an atmosphere and an ocean that sends one field. -/
def windRun : RunContext where
  components := Table.ofList [
    (.atmosphere, { grid := "n96", resolution := some (192, 144) }),
    (.ocean, { grid := "orca1", resolution := some (360, 290) })]
  schedules := Table.ofList [(⟨.atmosphere, .ocean⟩, ⟨3600, none⟩)]
  runtime := 86400
  startDate := "19790101"

/-- The wind stress under some name and on some levels. -/
def windRequests (name levels : String) : List Request :=
  [⟨{ origin := .atmosphere }, [s!"{name};11;u;OCN;{levels};Bi;10"]⟩]

def windField (name : String) (levels : UInt32) : Field :=
  { windStress with
    name := name, grid := 'u', levels := some levels, order := none, weight := 10 }

theorem compile_of_wind {read : FileReader} {name levels : String} {count : UInt32} {out : Rendered}
    (built : Request.buildAll (windRequests name levels) = .ok [windField name count])
    (rendered : (render windRun.tighten (catalogue read windRun.tighten)
      [windField name count]).result = .ok out) :
    (compile read windRun (windRequests name levels)).result = .ok
      ⟨windRun.tighten, [windField name count], out,
        .of windRun.tighten (windRequests name levels)⟩ :=
  compile_of_sorted built rfl (List.pairwise_singleton _ _) rfl rfl rendered

theorem obeysProtocol_iff_wind :
    ∃ (c : Compiled) (s : Summary) (r : Resolved) (line : String),
      (compile noFiles windRun (windRequests "ATM_TAUX" "2")).result = .ok c ∧
      c.rendered.fields = [s] ∧ r.connection c.context s = line ++ "\n" ∧
      s.ObeysProtocol (r.field.transformations c.context) line ∧
      s.ReadAs (r.field.transformations c.context) line ["ATM_TAUX", "ATM_TAUX002"]
        ["OCN_TAUX", "OCN_TAUX002"] := by
  obtain ⟨out, s, rendered, fields, sent, received⟩ :
      ∃ out s, (render windRun.tighten (catalogue noFiles windRun.tighten)
          [windField "ATM_TAUX" 2]).result = .ok out ∧ out.fields = [s] ∧
        namesOfLevels s.source s.levels = ["ATM_TAUX", "ATM_TAUX002"] ∧
        namesOfLevels s.target s.levels = ["OCN_TAUX", "OCN_TAUX002"] :=
    ⟨_, _, rfl, rfl, by decide, by decide⟩
  have built : Request.buildAll (windRequests "ATM_TAUX" "2") = .ok [windField "ATM_TAUX" 2] := rfl
  have compiled := compile_of_wind built rendered
  obtain ⟨-, blocks, parts, each⟩ := obeysProtocol_iff compiled
  have one : blocks.length = 1 := by rw [parts.length, fields]; rfl
  have hs : out.fields[0]? = some s := by rw [fields]; rfl
  obtain ⟨r, line, -, -, connection, -, obeys, names⟩ :=
    each 0 _ s _ rfl hs (List.getElem?_eq_getElem (by omega))
  have plain : Text.Plain "ATM_TAUX".toList := by decide
  exact ⟨_, s, r, line, compiled, fields, connection, obeys.2 plain, sent ▸ received ▸ names plain⟩

/-- The line of a field with two blanks in its name has eleven words. -/
theorem obeysProtocol_fails :
    ∃ (c : Compiled) (s : Summary) (r : Resolved) (line : String),
      (compile noFiles windRun (windRequests "ATM WIND STRESS" "1")).result = .ok c ∧
      c.rendered.fields = [s] ∧
      ((windField "ATM WIND STRESS" 1).resolveWith c.context (catalogue noFiles c.context)).result =
        .ok r ∧
      r.connection c.context s = line ++ "\n" ∧
      (Text.words line.toList).length = 11 ∧
      ¬ s.ObeysProtocol (r.field.transformations c.context) line := by
  obtain ⟨out, s, rendered, fields, line, connection, eleven⟩ :
      ∃ out s, (render windRun.tighten (catalogue noFiles windRun.tighten)
          [windField "ATM WIND STRESS" 1]).result = .ok out ∧ out.fields = [s] ∧
        ∃ line, (windField "ATM WIND STRESS" 1).tagged.connection windRun.tighten s =
          line ++ "\n" ∧ (Text.words line.toList).length = 11 :=
    ⟨_, _, rfl, rfl, _, Resolved.connection_eq _ _ _, by decide⟩
  have built : Request.buildAll (windRequests "ATM WIND STRESS" "1") =
      .ok [windField "ATM WIND STRESS" 1] := rfl
  refine ⟨_, s, _, line, compile_of_wind built rendered, fields, rfl, connection,
    eleven, ?_⟩
  rintro ⟨sent, received, read, -⟩
  obtain ⟨source, target, mode, -, seven, -⟩ := read.seven
  rw [seven] at eleven
  simp at eleven

end Coupling
