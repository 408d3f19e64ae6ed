import Coupling.Output
import Coupling.Proofs.Checking
import Coupling.Proofs.Compilation
import Coupling.Proofs.FileTrees
import Coupling.Proofs.RoundTrip

/-!
# What is on disk

What a tree holds after a compilation was written into a directory of it:

* `OutputStep.Runs`: steps that are done one after another. `performAll_cases` says that all steps
  run, or those before the first that fails;
* a run keeps directories, touches only the targets of its steps and the way to the directory, and
  leaves the files readable that it wrote, as long as no two steps write the same file
  (`Runs.read`);
* `write_outcome`: after a success the three files are there and the manifest is read back, and
  after a failure the files of the steps before it are there and those of the steps after it are as
  they were.
-/

namespace Coupling

open FileTree

/-- The digest of some bytes, in hexadecimal. -/
def Digest.Sha256.ofBytes (bytes : ByteArray) : String :=
  String.ofList ((digest bytes.toList).flatMap hexByte)

namespace OutputStep

/-- Where the step writes a file. -/
def targets (s : OutputStep) : List Location :=
  match s.action with
  | .makeDirectory => []
  | .write _ => [destination s.path]

/-- Where the step can change anything. -/
def places (s : OutputStep) : List Location :=
  match s.action with
  | .makeDirectory => way (start s.path) (segments s.path)
  | .write _ => [destination s.path]

theorem kind?_error (s : OutputStep) (fault : FileFault) :
    (s.error fault).kind? = some .output := by
  simp [error, FileFault.error]

/-- Every step is done, from the first to the last. -/
inductive Runs : List OutputStep → FileTree → FileTree → Prop
  | nothing {t : FileTree} : Runs [] t t
  | next {s : OutputStep} {steps : List OutputStep} {t u t' : FileTree}
      (first : s.perform t = .ok u) (later : Runs steps u t') : Runs (s :: steps) t t'

/-- Either all steps run, or the first one that fails stops the rest. -/
theorem performAll_cases (steps : List OutputStep) (t : FileTree) :
    (∃ t', performAll steps t = (t', .ok ()) ∧ Runs steps t t') ∨
      ∃ done s later t' fault, steps = done ++ s :: later ∧ Runs done t t' ∧
        s.perform t' = .error fault ∧ performAll steps t = (t', .error (s.error fault)) := by
  induction steps generalizing t with
  | nil => exact .inl ⟨t, rfl, .nothing⟩
  | cons s steps ih =>
    cases first : s.perform t with
    | error fault =>
      refine .inr ⟨[], s, steps, t, fault, rfl, .nothing, first, ?_⟩
      simp only [performAll, first]
    | ok u =>
      have go : performAll (s :: steps) t = performAll steps u := by
        simp only [performAll, first]
      rw [go]
      rcases ih u with ⟨t', all, run⟩ | ⟨done, failing, later, t', fault, split, run, fails, stops⟩
      · exact .inl ⟨t', all, .next first run⟩
      · refine .inr ⟨s :: done, failing, later, t', fault, ?_, .next first run, fails, stops⟩
        rw [split, List.cons_append]

section
variable {s : OutputStep} {steps : List OutputStep} {t t' : FileTree}

/-! ## One step -/

theorem perform_keeps (h : s.perform t = .ok t') : Keeps t t' := by
  unfold perform at h
  split at h
  · exact (makeDirectories_grows h).keeps
  · obtain ⟨-, free, -, rfl⟩ := write_eq_ok_iff.1 h
    exact keeps_put _ free

theorem perform_get? (h : s.perform t = .ok t') {l : Location} (other : l ∉ s.places) :
    t'.get? l = t.get? l := by
  unfold perform at h
  unfold places at other
  split at h
  · next made =>
    simp only [made] at other
    rcases makeDirectories_grows h l with same | ⟨member, -⟩
    · exact same
    · exact absurd member other
  · next content written =>
    simp only [written, List.mem_singleton] at other
    obtain ⟨-, -, -, rfl⟩ := write_eq_ok_iff.1 h
    exact get?_put_of_ne _ other

/-- A directory that is made is no file, so it changes none. -/
theorem perform_file? (h : s.perform t = .ok t') {l : Location} (other : l ∉ s.targets) :
    t'.file? l = t.file? l := by
  unfold perform at h
  unfold targets at other
  split at h
  · exact (makeDirectories_grows h).file? l
  · next content written =>
    simp only [written, List.mem_singleton] at other
    obtain ⟨-, -, -, rfl⟩ := write_eq_ok_iff.1 h
    exact file?_congr (get?_put_of_ne _ other)

/-! ## A run of steps -/

theorem performAll_of_runs (h : Runs steps t t') : performAll steps t = (t', .ok ()) := by
  induction h with
  | nothing => rfl
  | next first _ ih => simp only [performAll, first, ih]

/-- Steps that write different files run if no directory stands in the way of any. -/
theorem exists_runs (writes : ∀ s ∈ steps, ∃ content, s.action = .write content)
    (located : ∀ s ∈ steps, t.locate s.path = .ok (destination s.path))
    (plain : ∀ s ∈ steps, meansDirectory s.path = false)
    (free : ∀ s ∈ steps, t.get? (destination s.path) ≠ some .directory)
    (apart : (steps.flatMap targets).Nodup) : ∃ t', Runs steps t t' := by
  induction steps generalizing t with
  | nil => exact ⟨t, .nothing⟩
  | cons s steps ih =>
    rw [List.forall_mem_cons] at writes located plain free
    obtain ⟨⟨content, action⟩, writes⟩ := writes
    rw [List.flatMap_cons, List.nodup_append] at apart
    obtain ⟨-, later, disjoint⟩ := apart
    have written : s.perform t = .ok (t.put (destination s.path) (.file content)) := by
      simp only [perform, action]
      exact write_eq_ok_iff.2 ⟨located.1, free.1, plain.1, rfl⟩
    have elsewhere : ∀ q ∈ steps, destination q.path ≠ destination s.path := by
      intro q member same
      obtain ⟨content', action'⟩ := writes q member
      refine disjoint (destination s.path) ?_ (destination q.path) ?_ same.symm
      · simp [targets, action]
      · exact List.mem_flatMap.2 ⟨q, member, by simp [targets, action']⟩
    obtain ⟨t', run⟩ := ih writes
      (fun q member => (perform_keeps written).locate (located.2 q member)) plain.2
      (fun q member => by rw [get?_put_of_ne _ (elsewhere q member)]; exact free.2 q member) later
    exact ⟨t', .next written run⟩

namespace Runs

/-- Where a step wrote no directory stood, not even before the run. -/
theorem free (h : Runs steps t t') : ∀ s ∈ steps, ∀ content, s.action = .write content →
    t.get? (destination s.path) ≠ some .directory := by
  induction h with
  | nothing => simp
  | @next s steps t u t' first _ ih =>
    intro q member content action directory
    rcases List.mem_cons.1 member with rfl | member
    · have written : t.write q.path content = .ok u := by simpa only [perform, action] using first
      exact (write_eq_ok_iff.1 written).2.1 directory
    · exact ih q member content action (perform_keeps first _ directory)

theorem keeps (h : Runs steps t t') : Keeps t t' := by
  induction h with
  | nothing => exact fun _ there => there
  | next first _ ih => exact fun l there => ih l (perform_keeps first l there)

theorem get? (h : Runs steps t t') {l : Location} (other : l ∉ steps.flatMap places) :
    t'.get? l = t.get? l := by
  induction h with
  | nothing => rfl
  | next first _ ih =>
    rw [List.flatMap_cons, List.mem_append, not_or] at other
    rw [ih other.2, perform_get? first other.1]

theorem file? (h : Runs steps t t') {l : Location} (other : l ∉ steps.flatMap targets) :
    t'.file? l = t.file? l := by
  induction h with
  | nothing => rfl
  | next first _ ih =>
    rw [List.flatMap_cons, List.mem_append, not_or] at other
    rw [ih other.2, perform_file? first other.1]

/-- What a step wrote is read at its path in the end, if no other step writes there. -/
theorem read (h : Runs steps t t') (apart : (steps.flatMap targets).Nodup) :
    ∀ s ∈ steps, ∀ content, s.action = .write content → t'.read s.path = .ok content := by
  induction h with
  | nothing => simp
  | @next s steps t u t' first run ih =>
    rw [List.flatMap_cons, List.nodup_append] at apart
    obtain ⟨-, later, disjoint⟩ := apart
    intro q member content action
    rcases List.mem_cons.1 member with rfl | member
    · have written : t.write q.path content = .ok u := by simpa only [perform, action] using first
      obtain ⟨located, free, plain, rfl⟩ := write_eq_ok_iff.1 written
      have target : destination q.path ∈ q.targets := by simp [targets, action]
      have kept := run.file? fun again => disjoint _ target _ again rfl
      refine read_eq_ok_iff.2 ⟨run.keeps.locate ((perform_keeps first).locate located), ?_, plain⟩
      rw [kept, file?_eq_some_iff]
      exact get?_put_self _ free
    · exact ih later q member content action

end Runs

end

end OutputStep

/-! ## Writing a compilation -/

namespace Compiled

variable (c : Compiled) (directory : String) (t t' : FileTree)

/-- What holds once all files are written: the three files have the texts and the manifest of the
compilation, whose digests are those of the bytes there, and no other file has changed. -/
structure Installed : Prop where
  namcouple : t'.read (OutputPaths.inDirectory directory).namcouple =
    .ok c.rendered.namcouple.toUTF8
  cfTable : t'.read (OutputPaths.inDirectory directory).cfTable = .ok c.rendered.cfTable.toUTF8
  manifest : ∀ complaint, Manifest.load (Format.json.decoder complaint Manifest.ofDoc?) t'.read
    (OutputPaths.inDirectory directory).manifest = .ok (.of c.provenance c.rendered)
  namcoupleDigest : (Manifest.of c.provenance c.rendered).namcouple =
    Digest.Sha256.ofBytes c.rendered.namcouple.toUTF8
  cfTableDigest : (Manifest.of c.provenance c.rendered).cfTable =
    Digest.Sha256.ofBytes c.rendered.cfTable.toUTF8
  others : ∀ l, l ∉ (OutputPaths.inDirectory directory).toList.map destination →
    t'.file? l = t.file? l

/-- What holds once a step has failed: the error says which one, and the files of the steps before
it are written. No other file has changed, those of the steps after it included. Where those would
be written nothing at all has changed, unless the directory's path leads through a place there and
up again, so that a directory was made where nothing was. -/
structure StoppedAt (done : List OutputStep) (s : OutputStep) (later : List OutputStep)
    (e : Error) : Prop where
  order : c.steps directory = done ++ s :: later
  before : OutputStep.Runs done t t'
  fault : ∃ fault, s.perform t' = .error fault ∧ e = s.error fault
  kind : e.kind? = some .output
  stage : e.context.get? "stage" = some s.stage
  path : e.context.get? "path" = some s.path
  written : ∀ q ∈ done, ∀ content, q.action = .write content → t'.read q.path = .ok content
  others : ∀ l, l ∉ done.flatMap OutputStep.targets → t'.file? l = t.file? l
  after : ∀ q ∈ later, t'.file? (destination q.path) = t.file? (destination q.path)
  untouched : ∀ q ∈ later, t'.get? (destination q.path) = t.get? (destination q.path) ∨
    (".." ∈ segments directory ∧ t.get? (destination q.path) = none ∧
      t'.get? (destination q.path) = some .directory)

/-- The steps after the first. -/
def writes : List OutputStep :=
  let paths := OutputPaths.inDirectory directory
  [⟨"namcouple-write", paths.namcouple, .write c.rendered.namcouple.toUTF8⟩,
   ⟨"cf-table-write", paths.cfTable, .write c.rendered.cfTable.toUTF8⟩,
   ⟨"manifest-write", paths.manifest, .write c.manifestText.toUTF8⟩]

theorem steps_eq : c.steps directory =
    ⟨"mkdir", directory, .makeDirectory⟩ :: c.writes directory := rfl

/-- The names of the three files. -/
def fileNames : List String := ["namcouple", "cf_name_table.txt", "namcouple.manifest.json"]

theorem plainName_of_mem {name : String} (h : name ∈ fileNames) : PlainName name := by
  simp only [fileNames, List.mem_cons, List.not_mem_nil, or_false] at h
  rcases h with rfl | rfl | rfl
  all_goals constructor <;> decide

theorem exists_name_of_mem_writes {q : OutputStep} (h : q ∈ c.writes directory) :
    (∃ name ∈ fileNames, q.path = Path.join directory name) ∧
      ∃ content, q.action = .write content := by
  simp only [writes, List.mem_cons, List.not_mem_nil, or_false] at h
  rcases h with rfl | rfl | rfl
  all_goals exact ⟨⟨_, by simp [fileNames], rfl⟩, _, rfl⟩

theorem targets_writes : (c.writes directory).flatMap OutputStep.targets =
    fileNames.map fun name => destination directory ++ [name] := by
  have target : ∀ name ∈ fileNames,
      destination (Path.join directory name) = destination directory ++ [name] :=
    fun name member => destination_join (plainName_of_mem member)
  rw [← List.map_congr_left target]
  rfl

theorem nodup_targets_writes : ((c.writes directory).flatMap OutputStep.targets).Nodup := by
  rw [targets_writes]
  refine List.Nodup.map ?_ (by decide)
  intro name name' same
  simpa using same

variable {c directory t t'}

theorem not_mem_targets_of_split {done later : List OutputStep} {s : OutputStep}
    (split : c.writes directory = done ++ s :: later) {q : OutputStep} (member : q ∈ later) :
    destination q.path ∉ done.flatMap OutputStep.targets := by
  have listed : q ∈ c.writes directory := by
    rw [split]
    exact List.mem_append_right _ (List.mem_cons_of_mem _ member)
  obtain ⟨-, content, action⟩ := c.exists_name_of_mem_writes directory listed
  have target : destination q.path ∈ (s :: later).flatMap OutputStep.targets :=
    List.mem_flatMap.2 ⟨q, List.mem_cons_of_mem _ member, by simp [OutputStep.targets, action]⟩
  have apart := c.nodup_targets_writes directory
  rw [split, List.flatMap_append, List.nodup_append] at apart
  exact fun twice => apart.2.2 _ twice _ target rfl

/-- Only making the directory can change a place where a later step would write, and only if the
way there leads up again. -/
theorem get?_of_split {done later : List OutputStep} {s : OutputStep} {u : FileTree}
    (split : c.writes directory = done ++ s :: later) (made : t.makeDirectories directory = .ok u)
    (run : OutputStep.Runs done u t') {q : OutputStep} (member : q ∈ later) :
    t'.get? (destination q.path) = t.get? (destination q.path) ∨
      (".." ∈ segments directory ∧ t.get? (destination q.path) = none ∧
        t'.get? (destination q.path) = some .directory) := by
  have listed (p : OutputStep) (h : p ∈ done ∨ p ∈ s :: later) : p ∈ c.writes directory := by
    rw [split]
    exact List.mem_append.2 h
  have files : done.flatMap OutputStep.places = done.flatMap OutputStep.targets := by
    refine List.flatMap_congr ?_
    intro p before
    obtain ⟨-, content, action⟩ := c.exists_name_of_mem_writes directory (listed p (.inl before))
    simp only [OutputStep.places, OutputStep.targets, action]
  have kept : t'.get? (destination q.path) = u.get? (destination q.path) :=
    run.get? (files ▸ not_mem_targets_of_split split member)
  rcases makeDirectories_grows made (destination q.path) with same | ⟨passed, absent, directory⟩
  · exact .inl (kept.trans same)
  · refine .inr ⟨?_, absent, kept.trans directory⟩
    obtain ⟨⟨name, known, place⟩, -⟩ :=
      c.exists_name_of_mem_writes _ (listed q (.inr (List.mem_cons_of_mem _ member)))
    rw [place] at passed
    by_contra down
    exact destination_join_not_mem_way (plainName_of_mem known) down passed

theorem load_of_read {read : FileReader} {path : String}
    (h : read path = .ok c.manifestText.toUTF8) (complaint : ByteArray → String) :
    Manifest.load (Format.json.decoder complaint Manifest.ofDoc?) read path = .ok c.manifest := by
  rw [Manifest.load, h]
  exact noting_eq_ok.2 (Persists.manifest.decode complaint c.manifest)

theorem installed_of_runs (h : OutputStep.Runs (c.steps directory) t t') :
    c.Installed directory t t' := by
  have read := h.read (c.nodup_targets_writes directory)
  rw [steps_eq] at read
  simp only [writes, List.forall_mem_cons] at read
  obtain ⟨-, namcouple, cfTable, manifest, -⟩ := read
  constructor
  · exact namcouple _ rfl
  · exact cfTable _ rfl
  · exact load_of_read (manifest _ rfl)
  · rfl
  · rfl
  · intro l other
    exact h.file? other

theorem stoppedAt_of_runs {done later : List OutputStep} {s : OutputStep} {fault : FileFault}
    (order : c.steps directory = done ++ s :: later) (run : OutputStep.Runs done t t')
    (fails : s.perform t' = .error fault) :
    c.StoppedAt directory t t' done s later (s.error fault) := by
  have kind := s.kind?_error fault
  have stage : (s.error fault).context.get? "stage" = some s.stage := by
    rfl
  have path : (s.error fault).context.get? "path" = some s.path := Table.get?_insert _ _ _
  cases done with
  | nil =>
    -- The directory could not be made, and nothing has been done.
    cases run
    exact ⟨order, .nothing, ⟨fault, fails, rfl⟩, kind, stage, path, by simp, fun _ _ => rfl,
      fun _ _ => rfl, fun _ _ => .inl rfl⟩
  | cons first done =>
    obtain ⟨rfl, split⟩ : ⟨"mkdir", directory, .makeDirectory⟩ = first ∧
        c.writes directory = done ++ s :: later := by
      rw [steps_eq, List.cons_append] at order
      exact List.cons.inj order
    have apart := c.nodup_targets_writes directory
    rw [split, List.flatMap_append, List.nodup_append] at apart
    refine ⟨order, run, ⟨fault, fails, rfl⟩, kind, stage, path, run.read apart.1,
      fun l other => run.file? other, ?_, ?_⟩
    · intro q member
      exact run.file? (not_mem_targets_of_split split member)
    · intro q member
      cases run with
      | next made rest => exact get?_of_split split made rest member

theorem destination_of_mem_writes {q : OutputStep} (h : q ∈ c.writes directory) :
    ∃ name ∈ fileNames, destination q.path = destination directory ++ [name] ∧
      meansDirectory q.path = false ∧ ∀ t u : FileTree, t.makeDirectories directory = .ok u →
        u.locate q.path = .ok (destination q.path) := by
  obtain ⟨⟨name, known, path⟩, -⟩ := c.exists_name_of_mem_writes directory h
  have plain := plainName_of_mem known
  rw [path]
  exact ⟨name, known, destination_join plain, meansDirectory_join plain,
    fun _ _ made => locate_join plain made⟩

/-- All steps run exactly when the directory can be made and no directory stands where a file is to
be. -/
theorem exists_runs_iff : (∃ t', OutputStep.Runs (c.steps directory) t t') ↔
    ∃ u, t.makeDirectories directory = .ok u ∧
      ∀ name ∈ fileNames, u.get? (destination directory ++ [name]) ≠ some .directory := by
  rw [steps_eq]
  constructor
  · rintro ⟨t', run⟩
    cases run with
    | @next _ _ _ u _ made later =>
      refine ⟨u, made, ?_⟩
      intro name known
      have target : destination directory ++ [name] ∈
          (c.writes directory).flatMap OutputStep.targets := by
        rw [targets_writes]
        exact List.mem_map_of_mem known
      obtain ⟨q, listed, place⟩ := List.mem_flatMap.1 target
      obtain ⟨-, content, action⟩ := c.exists_name_of_mem_writes directory listed
      rw [OutputStep.targets, action] at place
      rw [List.mem_singleton.1 place]
      exact later.free q listed content action
  · rintro ⟨u, made, free⟩
    obtain ⟨t', later⟩ : ∃ t', OutputStep.Runs (c.writes directory) u t' := by
      refine OutputStep.exists_runs ?_ ?_ ?_ ?_ (c.nodup_targets_writes directory)
      · exact fun q listed => (c.exists_name_of_mem_writes directory listed).2
      · intro q listed
        obtain ⟨-, -, -, -, located⟩ := destination_of_mem_writes listed
        exact located t u made
      · intro q listed
        obtain ⟨-, -, -, plain, -⟩ := destination_of_mem_writes listed
        exact plain
      · intro q listed
        obtain ⟨name, known, place, -⟩ := destination_of_mem_writes listed
        exact place ▸ free name known
    exact ⟨t', .next made later⟩

theorem write_eq_ok_iff {paths : OutputPaths} : (c.write directory t).2.result = .ok paths ↔
    (OutputStep.performAll (c.steps directory) t).2 = .ok () ∧ paths = .inDirectory directory := by
  have result : (c.write directory t).2.result =
      (OutputStep.performAll (c.steps directory) t).2 >>=
        fun _ => pure (.inDirectory directory) := by
    unfold write
    exact Logged.result_bind _ _
  rw [result, bind_eq_ok]
  constructor
  · rintro ⟨_, done, same⟩
    exact ⟨done, (pure_eq_ok.1 same).symm⟩
  · rintro ⟨done, same⟩
    exact ⟨(), done, pure_eq_ok.2 same.symm⟩

/-- Either all steps run, or one of them stops the rest. -/
theorem write_cases (c : Compiled) (directory : String) (t : FileTree) :
    ((c.write directory t).2.result = .ok (.inDirectory directory) ∧
        OutputStep.Runs (c.steps directory) t (c.write directory t).1) ∨
      ∃ done s later fault, (c.write directory t).2.result = .error (s.error fault) ∧
        c.StoppedAt directory t (c.write directory t).1 done s later (s.error fault) := by
  rcases OutputStep.performAll_cases (c.steps directory) t with
    ⟨t', all, run⟩ | ⟨done, s, later, t', fault, order, run, fails, stops⟩
  · rw [write, all]
    exact .inl ⟨rfl, run⟩
  · rw [write, stops]
    exact .inr ⟨done, s, later, fault, rfl, stoppedAt_of_runs order run fails⟩

theorem write_succeeds_iff : (∃ paths, (c.write directory t).2.result = .ok paths) ↔
    ∃ u, t.makeDirectories directory = .ok u ∧
      ∀ name ∈ fileNames, u.get? (destination directory ++ [name]) ≠ some .directory := by
  rw [← c.exists_runs_iff]
  constructor
  · rintro ⟨paths, written⟩
    rcases c.write_cases directory t with ⟨-, run⟩ | ⟨_, _, _, _, failed, -⟩
    · exact ⟨_, run⟩
    · simp [failed] at written
  · rintro ⟨t', run⟩
    refine ⟨.inDirectory directory, ?_⟩
    rw [write, OutputStep.performAll_of_runs run]
    rfl

end Compiled

/-- Writing either installs the three files and changes no other, or it stops at the first step that
fails, with the files of the steps before it written and all others as they were. -/
theorem write_outcome (c : Compiled) (directory : String) (t : FileTree) :
    (∀ paths, (c.write directory t).2.result = .ok paths →
      paths = .inDirectory directory ∧ c.Installed directory t (c.write directory t).1) ∧
    ∀ e, (c.write directory t).2.result = .error e →
      ∃ done s later, c.StoppedAt directory t (c.write directory t).1 done s later e := by
  rcases c.write_cases directory t with ⟨written, run⟩ | ⟨done, s, later, fault, failed, stopped⟩
  · rw [written]
    refine ⟨?_, nofun⟩
    intro paths same
    exact ⟨(Except.ok.inj same).symm, Compiled.installed_of_runs run⟩
  · rw [failed]
    refine ⟨nofun, ?_⟩
    intro e same
    obtain rfl := Except.error.inj same
    exact ⟨done, s, later, stopped⟩

/-- A directory stands where the manifest should be. -/
def blockedTree : FileTree :=
  ⟨[(["out"], .directory), (["out", "namcouple.manifest.json"], .directory),
    (["out", "notes"], .file "keep".toUTF8)]⟩

theorem write_outcome_river : ∃ c, (compile noFiles riverRun riverRequests).result = .ok c ∧
    (∃ paths, (c.write "out" {}).2.result = .ok paths ∧
      c.Installed "out" {} (c.write "out" {}).1) ∧
    ∃ e, (c.write "out" blockedTree).2.result = .error e ∧
      ∃ done s later,
        c.StoppedAt "out" blockedTree (c.write "out" blockedTree).1 done s later e := by
  obtain ⟨c, compiled⟩ := compile_river
  have place : destination "out" = ["out"] := rfl
  obtain ⟨paths, written⟩ : ∃ paths, (c.write "out" {}).2.result = .ok paths := by
    rw [Compiled.write_succeeds_iff, place]
    refine ⟨⟨[(["out"], .directory)]⟩, rfl, ?_⟩
    simp only [Compiled.fileNames, List.forall_mem_cons]
    exact ⟨nofun, nofun, nofun, nofun⟩
  obtain ⟨e, failed⟩ : ∃ e, (c.write "out" blockedTree).2.result = .error e := by
    cases outcome : (c.write "out" blockedTree).2.result with
    | error e => exact ⟨e, rfl⟩
    | ok paths =>
      obtain ⟨u, made, free⟩ := Compiled.write_succeeds_iff.1 ⟨paths, outcome⟩
      obtain rfl : blockedTree = u := Except.ok.inj made
      exact absurd rfl (free "namcouple.manifest.json" (by simp [Compiled.fileNames]))
  exact ⟨c, compiled, ⟨paths, written, ((write_outcome c "out" {}).1 paths written).2⟩,
    e, failed, (write_outcome c "out" blockedTree).2 e failed⟩

end Coupling
