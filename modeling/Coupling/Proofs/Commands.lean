import Coupling.Proofs.Kinds
import Coupling.Proofs.Listing
import Coupling.Proofs.Writing

/-!
# Checking and generating

Two commands compile the same files. One shows the result, the other writes it:

* `Inputs.StopsAt` and `Inputs.CompilesTo`: what the files come to, which is always one of the two
  (`Inputs.stopsAt_or_compilesTo`), whatever decodes them;
* `Command.Compiles`: the command compiles its files and nothing else can stop it before it writes.
  Such a command fails with the error of its files and has then done nothing (`Refusal`);
* `check_agrees_with_generate`: so both commands refuse the same files with the same error, and what
  the one shows is what the other keeps in its manifest;
* `line_per_field_fails`: a name with a line break is accepted and shown on more than one line.
-/

namespace Coupling.CommandLine

/-! ## What the files come to -/

namespace Inputs

/-- What stops the compilation of the files. -/
inductive StopsAt (inputs : Inputs) (decoders : Decoders) (read : FileReader) (e : Error) : Prop
  | context (fails : RunContext.load decoders.context read inputs.context = .error e)
  | couplings {ctx : RunContext}
      (loaded : RunContext.load decoders.context read inputs.context = .ok ctx)
      (fails : Request.load decoders.requests read inputs.couplings = .error e)
  | compilation {ctx : RunContext} {requests : List Request}
      (loaded : RunContext.load decoders.context read inputs.context = .ok ctx)
      (listed : Request.load decoders.requests read inputs.couplings = .ok requests)
      (fails : (Coupling.compile read ctx requests).result = .error e)

/-- Both files can be loaded, and the compilation succeeds. -/
def CompilesTo (inputs : Inputs) (decoders : Decoders) (read : FileReader) (c : Compiled) : Prop :=
  ∃ ctx requests, RunContext.load decoders.context read inputs.context = .ok ctx ∧
    Request.load decoders.requests read inputs.couplings = .ok requests ∧
    (Coupling.compile read ctx requests).result = .ok c

variable {inputs : Inputs} {decoders : Decoders} {read : FileReader}

theorem compile_eq_ok_iff {c : Compiled} :
    (inputs.compile decoders read).result = .ok c ↔ inputs.CompilesTo decoders read c := by
  simp only [compile_result, bind_eq_ok, CompilesTo]
  constructor
  · rintro ⟨ctx, loaded, requests, listed, compiled⟩
    exact ⟨ctx, requests, loaded, listed, compiled⟩
  · rintro ⟨ctx, requests, loaded, listed, compiled⟩
    exact ⟨ctx, loaded, requests, listed, compiled⟩

theorem compile_eq_error_iff {e : Error} :
    (inputs.compile decoders read).result = .error e ↔ inputs.StopsAt decoders read e := by
  simp only [compile_result, bind_eq_error]
  constructor
  · rintro (fails | ⟨ctx, loaded, fails | ⟨requests, listed, fails⟩⟩)
    · exact .context fails
    · exact .couplings loaded fails
    · exact .compilation loaded listed fails
  · rintro (fails | ⟨loaded, fails⟩ | ⟨loaded, listed, fails⟩)
    · exact .inl fails
    · exact .inr ⟨_, loaded, .inl fails⟩
    · exact .inr ⟨_, loaded, .inr ⟨_, listed, fails⟩⟩

theorem stopsAt_or_compilesTo (inputs : Inputs) (decoders : Decoders) (read : FileReader) :
    (∃ e, inputs.StopsAt decoders read e) ∨ ∃ c, inputs.CompilesTo decoders read c := by
  cases outcome : (inputs.compile decoders read).result with
  | error e => exact .inl ⟨e, compile_eq_error_iff.1 outcome⟩
  | ok c => exact .inr ⟨c, compile_eq_ok_iff.1 outcome⟩

end Inputs

/-! ## What the commands do -/

/-- The command compiles the files, and what it does then depends on the compilation alone. -/
def Command.Compiles (command : Command) (inputs : Inputs) (next : Compiled → Plan) : Prop :=
  ∀ decoders read, (command.plan decoders read).result =
    (inputs.compile decoders read).result >>= fun c => pure (next c)

theorem Command.check_compiles (inputs : Inputs) :
    (Command.check inputs).Compiles inputs fun c => { stdout := listing c.rendered.fields } :=
  fun _ _ => Logged.result_bind _ _

theorem Command.generate_compiles (inputs : Inputs) (directory : String) (regenerate : Bool) :
    (Command.generate inputs directory regenerate).Compiles inputs
      (generation directory regenerate) :=
  fun _ _ => Logged.result_bind _ _

/-- A run has stopped with an error and done nothing else: the exit code is that of the error,
nothing is printed on standard output, no program is to be started, and the tree is as it was. -/
structure Refusal (e : Error) (t : FileTree) (outcome : FileTree × Report) : Prop where
  tree : outcome.1 = t
  exitCode : ∃ kind, e.kind? = some kind ∧ outcome.2.exitCode = kind.exitCode
  failure : outcome.2.exitCode ≠ 0 ∧ outcome.2.exitCode ≠ 1
  stdout : outcome.2.stdout = ""
  stderr : outcome.2.stderr = Report.errorLines e
  program : outcome.2.program = none

/-- A run has shown a compilation and done nothing else. It is shown on a line for each field and
one more, exactly when no field is declared with a name that breaks a line. -/
structure Shown (c : Compiled) (t : FileTree) (outcome : FileTree × Report) : Prop where
  tree : outcome.1 = t
  exitCode : outcome.2.exitCode = 0
  stdout : outcome.2.stdout = listing c.rendered.fields
  lines : lineBreaks outcome.2.stdout = c.rendered.fields.length + 1 ↔
    ∀ s ∈ c.rendered.fields, '\n' ∉ s.source.toList

section
variable {args : List String} {command : Command} {verbosity : Nat} {inputs : Inputs}
  {next : Compiled → Plan} {decoders : Decoders} {t : FileTree}

theorem run_eq (read : Invocation.read? args = some ⟨command, verbosity⟩) (decoders : Decoders)
    (t : FileTree) : run decoders args t = command.run decoders t := by
  rw [run, read]

/-- What the files come to stops the command before its first step. -/
theorem refusal_of_stopsAt (read : Invocation.read? args = some ⟨command, verbosity⟩)
    (compiles : command.Compiles inputs next) {e : Error}
    (stops : inputs.StopsAt decoders t.read e) : Refusal e t (run decoders args t) := by
  have failed := Inputs.compile_eq_error_iff.2 stops
  have planned : (command.plan decoders t.read).result = .error e := by
    rw [compiles, failed]
    rfl
  have outcome : run decoders args t =
      (t, .failure e (command.plan decoders t.read).events) := by
    rw [run_eq read, Command.run]
    simp only [planned]
  obtain ⟨kind, known⟩ := inputs.compile_classified decoders t.read e failed
  obtain ⟨code, failure⟩ := Error.exitCode_of_kind known
  rw [← code] at failure
  rw [outcome]
  exact ⟨rfl, ⟨kind, known, code⟩, failure, rfl, rfl, rfl⟩

/-- The steps of a command are done once its files are compiled. -/
theorem run_of_compilesTo (read : Invocation.read? args = some ⟨command, verbosity⟩)
    (compiles : command.Compiles inputs next) {c : Compiled}
    (compiled : inputs.CompilesTo decoders t.read c) :
    (run decoders args t).1 = (OutputStep.performAll (next c).steps t).1 ∧
      ∃ before, (run decoders args t).2 =
        (next c).report before (OutputStep.performAll (next c).steps t).2 := by
  have planned : (command.plan decoders t.read).result = .ok (next c) := by
    rw [compiles, Inputs.compile_eq_ok_iff.2 compiled]
    rfl
  rw [run_eq read, Command.run]
  simp only [planned]
  exact ⟨trivial, _, rfl⟩

/-- Checking never touches a file. -/
theorem tree_of_check (checks : Invocation.read? args = some ⟨.check inputs, verbosity⟩)
    (decoders : Decoders) (t : FileTree) : (run decoders args t).1 = t := by
  have compiles := Command.check_compiles inputs
  rcases inputs.stopsAt_or_compilesTo decoders t.read with ⟨e, stops⟩ | ⟨c, compiled⟩
  · exact (refusal_of_stopsAt checks compiles stops).tree
  · exact (run_of_compilesTo checks compiles compiled).1

theorem shown_of_check {c : Compiled}
    (checks : Invocation.read? args = some ⟨.check inputs, verbosity⟩)
    (compiled : inputs.CompilesTo decoders t.read c) : Shown c t (run decoders args t) := by
  obtain ⟨tree, before, report⟩ :=
    run_of_compilesTo checks (Command.check_compiles inputs) compiled
  obtain ⟨ctx, requests, -, -, succeeds⟩ := compiled
  constructor
  · exact tree
  · rw [report]
    rfl
  · rw [report]
    rfl
  · rw [report]
    exact Compiled.lineBreaks_listing_eq_iff succeeds

end

theorem performAll_classified (steps : List OutputStep) (t : FileTree) :
    Classified (OutputStep.performAll steps t).2 :=
  (OutputStep.performAll_owned steps t).classified

/-- An error of a known kind never looks like a success. -/
theorem Plan.exitCode_report_eq_zero_iff (p : Plan) (before : List Event)
    {outcome : Except Error Unit} (known : Classified outcome) :
    (p.report before outcome).exitCode = 0 ↔ outcome = .ok () := by
  cases outcome with
  | ok => exact iff_of_true rfl rfl
  | error e =>
    obtain ⟨kind, listed⟩ := known e rfl
    obtain ⟨code, notZero, -⟩ := Error.exitCode_of_kind listed
    have failure : (p.report before (.error e)).exitCode = kind.exitCode := code
    rw [failure]
    constructor
    · intro zero
      exact absurd zero notZero
    · intro same
      cases same

/-- What generating leaves on the disk is what writing the compilation leaves, and it ends well
exactly when writing does. -/
theorem write_of_generate {args : List String} {inputs : Inputs} {directory : String}
    {regenerate : Bool} {verbosity : Nat} {decoders : Decoders} {t : FileTree} {c : Compiled}
    (generates : Invocation.read? args = some ⟨.generate inputs directory regenerate, verbosity⟩)
    (compiled : inputs.CompilesTo decoders t.read c) :
    (run decoders args t).1 = (c.write directory t).1 ∧
      ((run decoders args t).2.exitCode = 0 ↔
        ∃ paths, (c.write directory t).2.result = .ok paths) := by
  obtain ⟨tree, before, report⟩ := run_of_compilesTo generates
    (Command.generate_compiles inputs directory regenerate) compiled
  refine ⟨tree, ?_⟩
  rw [report, Plan.exitCode_report_eq_zero_iff _ _ (performAll_classified _ _)]
  constructor
  · intro done
    exact ⟨_, Compiled.write_eq_ok_iff.2 ⟨done, rfl⟩⟩
  · rintro ⟨paths, written⟩
    exact (Compiled.write_eq_ok_iff.1 written).1

/-- However the files are decoded, checking touches none of them. Files that cannot be compiled are
refused by both commands with the same error; otherwise checking shows the fields that generating
keeps in its manifest. -/
theorem check_agrees_with_generate {args others : List String} {inputs : Inputs}
    {directory : String} {regenerate : Bool} {verbosity verbosity' : Nat}
    (generates : Invocation.read? args = some ⟨.generate inputs directory regenerate, verbosity⟩)
    (checks : Invocation.read? others = some ⟨.check inputs, verbosity'⟩) (decoders : Decoders)
    (t : FileTree) :
    (run decoders others t).1 = t ∧
    ((∃ e, inputs.StopsAt decoders t.read e) ∨ ∃ c, inputs.CompilesTo decoders t.read c) ∧
    (∀ e, inputs.StopsAt decoders t.read e →
      Refusal e t (run decoders args t) ∧ Refusal e t (run decoders others t)) ∧
    ∀ c, inputs.CompilesTo decoders t.read c → Shown c t (run decoders others t) ∧
      (run decoders args t).1 = (c.write directory t).1 ∧
      ((run decoders args t).2.exitCode = 0 ↔
        ∃ paths, (c.write directory t).2.result = .ok paths) ∧
      ((run decoders args t).2.exitCode = 0 → ∃ m : Manifest, m.fields = c.rendered.fields ∧
        ∀ complaint, Manifest.load (Format.json.decoder complaint Manifest.ofDoc?)
          (run decoders args t).1.read (OutputPaths.inDirectory directory).manifest = .ok m) := by
  refine ⟨tree_of_check checks decoders t, inputs.stopsAt_or_compilesTo decoders t.read, ?_, ?_⟩
  · intro e stops
    exact ⟨refusal_of_stopsAt generates (Command.generate_compiles _ _ _) stops,
      refusal_of_stopsAt checks (Command.check_compiles _) stops⟩
  · intro c compiled
    obtain ⟨tree, succeeds⟩ := write_of_generate generates compiled
    refine ⟨shown_of_check checks compiled, tree, succeeds, ?_⟩
    intro zero
    obtain ⟨paths, written⟩ := succeeds.1 zero
    rcases c.write_cases directory t with ⟨-, run⟩ | ⟨_, _, _, _, failed, -⟩
    · rw [tree]
      exact ⟨_, rfl, (Compiled.installed_of_runs run).manifest⟩
    · rw [failed] at written
      cases written

/-! ## One field sent by an atmosphere -/

/-- The run of `windRun`, as it is written down. -/
def windContextText : String :=
  "components:\n" ++
  "  ATM: \x7b grid: n96, resolution: [192, 144] \x7d\n" ++
  "  OCN: \x7b grid: orca1, resolution: [360, 290] \x7d\n" ++
  "coupling_frequencies:\n  ATM2OCN: [3600]\nruntime: 86400\ninidate: '19790101'\n"

/-- A request of one field whose name is spelled in a quoted text. -/
def windCouplingsText (spelled : String) : String :=
  s!"requests:\n  - origin: ATM\n    specs: [\"{spelled};11;u;OCN;1;Bi;10\"]\n"

def windInputs : Inputs := ⟨"run_info.yaml", "couplings.yaml"⟩

/-- A directory with both files. -/
def windTree (spelled : String) : FileTree :=
  ⟨[(["run_info.yaml"], .file windContextText.toUTF8),
    (["couplings.yaml"], .file (windCouplingsText spelled).toUTF8)]⟩

def checkArguments : List String :=
  ["check", "--run-info", "run_info.yaml", "--couplings", "couplings.yaml"]

def generateArguments : List String :=
  ["generate", "--out", "out", "--run-info", "run_info.yaml", "--couplings", "couplings.yaml"]

theorem read_checkArguments :
    Invocation.read? checkArguments = some ⟨.check windInputs, 0⟩ := by decide +kernel

theorem read_generateArguments :
    Invocation.read? generateArguments = some ⟨.generate windInputs "out" true, 0⟩ := by
  decide +kernel

theorem loadYaml_of_text {α : Type} {read : FileReader} {ofDoc? : Doc → Option α} {path : String}
    {text : String} {a : α} (found : read path = .ok text.toUTF8)
    (reads : (Yaml.read? text >>= ofDoc?) = some a) :
    loadYaml (Format.yaml.decoder Format.yaml.complaint ofDoc?) read path = .ok a := by
  rw [loadYaml, found]
  exact noting_eq_ok.2 (Format.decode_toUTF8_eq_ok_iff.2 reads)

theorem load_windContext (spelled : String) :
    RunContext.load Decoders.yaml.context (windTree spelled).read "run_info.yaml" =
      .ok windRun := by
  have reads : (Yaml.read? windContextText >>= RunContext.ofDoc?) = some windRun := by
    decide +kernel
  have found : (windTree spelled).read "run_info.yaml" = .ok windContextText.toUTF8 := rfl
  rw [RunContext.load, Decoders.yaml, loadYaml_of_text found reads]
  rfl

theorem compilesTo_of_wind {spelled name : String} {out : Rendered}
    (reads : (Yaml.read? (windCouplingsText spelled) >>= Request.listOfDoc?) =
      some (windRequests name "1"))
    (built : Request.buildAll (windRequests name "1") = .ok [windField name 1])
    (rendered : (render windRun.tighten (catalogue (windTree spelled).read windRun.tighten)
      [windField name 1]).result = .ok out) :
    windInputs.CompilesTo .yaml (windTree spelled).read
      ⟨windRun.tighten, [windField name 1], out, .of windRun.tighten (windRequests name "1")⟩ := by
  have found : (windTree spelled).read "couplings.yaml" =
      .ok (windCouplingsText spelled).toUTF8 := rfl
  exact ⟨windRun, windRequests name "1", load_windContext spelled, loadYaml_of_text found reads,
    compile_of_wind built rendered⟩

/-- One field is shown and kept, and without the files both commands do nothing. -/
theorem check_agrees_with_generate_wind :
    ∃ (c : Compiled) (s : Summary), windInputs.CompilesTo .yaml (windTree "ATM_TAUX").read c ∧
      c.rendered.fields = [s] ∧
      Shown c (windTree "ATM_TAUX") (run .yaml checkArguments (windTree "ATM_TAUX")) ∧
      lineBreaks (run .yaml checkArguments (windTree "ATM_TAUX")).2.stdout = 2 ∧
      (∃ m : Manifest, m.fields = [s] ∧
        ∀ complaint, Manifest.load (Format.json.decoder complaint Manifest.ofDoc?)
          (run .yaml generateArguments (windTree "ATM_TAUX")).1.read
          (OutputPaths.inDirectory "out").manifest = .ok m) ∧
      ∃ e, windInputs.StopsAt .yaml (FileTree.read {}) e ∧
        Refusal e {} (run .yaml generateArguments {}) ∧
        Refusal e {} (run .yaml checkArguments {}) := by
  obtain ⟨out, s, rendered, fields, source⟩ :
      ∃ out s, (render windRun.tighten (catalogue (windTree "ATM_TAUX").read windRun.tighten)
          [windField "ATM_TAUX" 1]).result = .ok out ∧ out.fields = [s] ∧ s.source = "ATM_TAUX" :=
    ⟨_, _, rfl, rfl, rfl⟩
  have reads : (Yaml.read? (windCouplingsText "ATM_TAUX") >>= Request.listOfDoc?) =
      some (windRequests "ATM_TAUX" "1") := by
    decide +kernel
  have compiled := compilesTo_of_wind reads rfl rendered
  obtain ⟨-, -, -, each⟩ := check_agrees_with_generate read_generateArguments read_checkArguments
    .yaml (windTree "ATM_TAUX")
  obtain ⟨shown, -, succeeds, kept⟩ := each _ compiled
  have lines : lineBreaks (run .yaml checkArguments (windTree "ATM_TAUX")).2.stdout = 2 := by
    have one := shown.lines.2
    rw [fields] at one
    refine one ?_
    rw [List.forall_mem_singleton, source]
    decide
  have made : (windTree "ATM_TAUX").makeDirectories "out" =
      .ok ⟨(windTree "ATM_TAUX").entries ++ [(["out"], .directory)]⟩ := rfl
  have zero : (run .yaml generateArguments (windTree "ATM_TAUX")).2.exitCode = 0 := by
    refine succeeds.2 (Compiled.write_succeeds_iff.2 ⟨_, made, ?_⟩)
    intro name known blocked
    simp only [Compiled.fileNames, List.mem_cons, List.not_mem_nil, or_false] at known
    rcases known with rfl | rfl | rfl <;> cases blocked
  obtain ⟨m, same, loaded⟩ := kept zero
  obtain ⟨-, either, refused, -⟩ :=
    check_agrees_with_generate read_generateArguments read_checkArguments .yaml {}
  obtain ⟨e, stops⟩ : ∃ e, windInputs.StopsAt .yaml (FileTree.read {}) e := by
    rcases either with stops | ⟨c, ctx, -, found, -⟩
    · exact stops
    · cases found
  obtain ⟨generated, checked⟩ := refused e stops
  exact ⟨_, s, compiled, fields, shown, lines, ⟨m, same.trans fields, loaded⟩, e, stops, generated,
    checked⟩

/-- A field whose name has a line break is accepted, and shown on three lines. -/
theorem line_per_field_fails :
    ∃ (c : Compiled) (s : Summary),
      windInputs.CompilesTo .yaml (windTree "WIND\\nSTRESS").read c ∧
      c.rendered.fields = [s] ∧ s.source = "WIND\nSTRESS" ∧
      (run .yaml checkArguments (windTree "WIND\\nSTRESS")).2.exitCode = 0 ∧
      lineBreaks (run .yaml checkArguments (windTree "WIND\\nSTRESS")).2.stdout = 4 := by
  obtain ⟨out, s, rendered, fields, source, lines⟩ :
      ∃ out s, (render windRun.tighten (catalogue (windTree "WIND\\nSTRESS").read windRun.tighten)
          [windField "WIND\nSTRESS" 1]).result = .ok out ∧ out.fields = [s] ∧
        s.source = "WIND\nSTRESS" ∧ lineBreaks (listing [s]) = 4 :=
    ⟨_, _, rfl, rfl, rfl, by decide +kernel⟩
  have reads : (Yaml.read? (windCouplingsText "WIND\\nSTRESS") >>= Request.listOfDoc?) =
      some (windRequests "WIND\nSTRESS" "1") := by
    decide +kernel
  have compiled := compilesTo_of_wind reads rfl rendered
  have shown := shown_of_check read_checkArguments compiled
  refine ⟨_, s, compiled, fields, source, shown.exitCode, ?_⟩
  rw [shown.stdout]
  exact fields ▸ lines

end Coupling.CommandLine
