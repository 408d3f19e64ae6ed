import Coupling.Proofs.Levels

/-!
# The first reading of a catalogue

A catalogue is in use while files change around it and look-ups come from different runs:

* `StashCatalogue.Step` is what can happen, a `Scene` the files and the catalogue at one moment, and
  `Scene.after` the scene that a history of steps leads to. Files never depend on the catalogue
  (`Scene.files_after`);
* `Unread`: no look-up of a history found the text of a catalogue, as the files were then;
* `Scene.AnswersFrom text`: the catalogue is loaded, and every look-up is answered from `text`.
  Every step keeps this (`AnswersFrom.step`), so every history does (`AnswersFrom.after`);
* `first_text_answers`: a catalogue stays unloaded until a look-up finds a text, and from then on
  answers from this text, whatever happens to the files.
-/

namespace Coupling

namespace StashCatalogue

/-- What can happen while a catalogue is in use. -/
inductive Step where
  | lookup (ctx : RunContext) (code : StashCode)
  | write (path : String) (content : ByteArray)
  | makeDirectories (path : String)
  | remove (path : String)

/-- The files after a step. What cannot be done to them is not done. -/
def Step.files (t : FileTree) : Step → FileTree
  | .lookup _ _ => t
  | .write path content => (t.write path content).toOption.getD t
  | .makeDirectories path => (t.makeDirectories path).toOption.getD t
  | .remove path => t.remove path

/-- The files after a history of steps. -/
def filesAfter (t : FileTree) (steps : List Step) : FileTree := steps.foldl Step.files t

/-- A catalogue and the files around it. -/
structure Scene where
  files : FileTree
  catalogue : StashCatalogue := {}

namespace Scene

/-- What a look-up is answered. -/
def answer (s : Scene) (ctx : RunContext) (code : StashCode) : Except Error StashEntry :=
  (s.catalogue.lookup s.files.read ctx code).1

def step (s : Scene) (a : Step) : Scene where
  files := a.files s.files
  catalogue :=
    match a with
    | .lookup ctx code => (s.catalogue.lookup s.files.read ctx code).2
    | _ => s.catalogue

def after (s : Scene) (steps : List Step) : Scene := steps.foldl step s

/-- A catalogue that has not been used. -/
def fresh (t : FileTree) : Scene := { files := t }

theorem after_append (s : Scene) (steps later : List Step) :
    s.after (steps ++ later) = (s.after steps).after later :=
  List.foldl_append

/-- What happens to the files does not depend on the catalogue. -/
theorem files_after (s : Scene) (steps : List Step) :
    (s.after steps).files = filesAfter s.files steps := by
  induction steps generalizing s with
  | nil => rfl
  | cons a steps ih => exact ih (s.step a)

theorem files_fresh (t : FileTree) (steps : List Step) :
    ((fresh t).after steps).files = filesAfter t steps :=
  files_after (fresh t) steps

end Scene

/-- No look-up of the history found a text, as the files were when it came. -/
def Unread (t : FileTree) (steps : List Step) : Prop :=
  ∀ before ctx code later, steps = before ++ .lookup ctx code :: later →
    ∀ text, ¬ ctx.HasMaster (filesAfter t before).read text

/-- The last step of an unread history is no look-up that finds a text. -/
theorem unread_concat_iff {t : FileTree} {steps : List Step} {a : Step} :
    Unread t (steps ++ [a]) ↔ Unread t steps ∧ ∀ ctx code, a = .lookup ctx code →
      ∀ text, ¬ ctx.HasMaster (filesAfter t steps).read text := by
  constructor
  · intro h
    refine ⟨?_, ?_⟩
    · rintro before ctx code rest rfl
      exact h before ctx code (rest ++ [a]) (by simp)
    · rintro ctx code rfl
      exact h steps ctx code [] rfl
  · rintro ⟨earlier, last⟩ before ctx code later split
    rcases List.eq_nil_or_concat later with rfl | ⟨rest, b, rfl⟩
    · obtain ⟨rfl, same⟩ := List.append_inj' split rfl
      exact last ctx code (List.singleton_inj.1 same)
    · have regrouped : steps ++ [a] = (before ++ .lookup ctx code :: rest) ++ [b] := by
        rw [split, List.concat_eq_append, List.append_assoc, List.cons_append]
      exact earlier before ctx code rest (List.append_inj' regrouped rfl).1

/-! ## One look-up -/

section
variable {c : StashCatalogue} {read : FileReader} {ctx : RunContext} {text : String}

/-- A catalogue that is loaded looks at no file. -/
theorem lookup_of_loaded {m : Stashmaster} (loaded : c.loaded = some m) (code : StashCode) :
    c.lookup read ctx code = (m.find code, c) := by
  rw [lookup, loaded]

theorem lookup_of_hasMaster (unloaded : c.loaded = none) (master : ctx.HasMaster read text)
    (code : StashCode) :
    c.lookup read ctx code =
      ((Stashmaster.parse text).find code, ⟨some (Stashmaster.parse text)⟩) := by
  have load := Stashmaster.load_eq_ok_iff_hasMaster.2 ⟨text, master, rfl⟩
  simp only [lookup, unloaded, load]

/-- A look-up that finds no text reports that and leaves nothing behind. -/
theorem lookup_of_not_hasMaster (unloaded : c.loaded = none)
    (absent : ∀ text, ¬ ctx.HasMaster read text) (code : StashCode) :
    ∃ e, c.lookup read ctx code = (.error e, c) ∧ e.kind? = some .missingStashmaster := by
  cases load : Stashmaster.load read ctx with
  | ok m =>
    obtain ⟨text, master, -⟩ := Stashmaster.load_eq_ok_iff_hasMaster.1 load
    exact absurd master (absent text)
  | error e =>
    obtain ⟨q, first, reported⟩ := Stashmaster.load_checks.error e load
    obtain rfl := List.mem_singleton.1 first.mem
    exact ⟨e, by simp only [lookup, unloaded, load], reported⟩

end

namespace Scene

/-- The catalogue is loaded, and every look-up is answered from `text`: with its entry for the
code, or by saying that it has none. -/
structure AnswersFrom (s : Scene) (text : String) : Prop where
  loaded : s.catalogue.loaded = some (Stashmaster.parse text)
  answer : ∀ ctx code, s.answer ctx code = (Stashmaster.parse text).find code
  entry : ∀ ctx code,
    Answers ((Stashmaster.parse text).entries.get? code) .unknownStashCode (s.answer ctx code)

theorem answersFrom_of_loaded {s : Scene} {text : String}
    (loaded : s.catalogue.loaded = some (Stashmaster.parse text)) : s.AnswersFrom text := by
  have answer (ctx : RunContext) (code : StashCode) :
      s.answer ctx code = (Stashmaster.parse text).find code := by
    rw [Scene.answer, lookup_of_loaded loaded]
  exact ⟨loaded, answer, fun ctx code => answer ctx code ▸ Stashmaster.find_answers _ code⟩

theorem AnswersFrom.step {s : Scene} {text : String} (h : s.AnswersFrom text) (a : Step) :
    (s.step a).AnswersFrom text := by
  refine answersFrom_of_loaded ?_
  cases a with
  | lookup ctx code =>
    show (s.catalogue.lookup s.files.read ctx code).2.loaded = _
    rw [lookup_of_loaded h.loaded]
    exact h.loaded
  | write | makeDirectories | remove => exact h.loaded

/-- Nothing takes a text back that a catalogue has been read from. -/
theorem AnswersFrom.after {s : Scene} {text : String} (h : s.AnswersFrom text)
    (steps : List Step) : (s.after steps).AnswersFrom text := by
  induction steps generalizing s with
  | nil => exact h
  | cons a steps ih => exact ih (h.step a)

/-- Looking up loads the text that is found. -/
theorem answersFrom_of_lookup {s : Scene} {ctx : RunContext} {text : String}
    (unloaded : s.catalogue.loaded = none) (master : ctx.HasMaster s.files.read text)
    (code : StashCode) : (s.step (.lookup ctx code)).AnswersFrom text := by
  refine answersFrom_of_loaded ?_
  show (s.catalogue.lookup s.files.read ctx code).2.loaded = _
  rw [lookup_of_hasMaster unloaded master]

/-- Without a text nothing is loaded. The induction is on the end of the history, where the last
look-up sees the files that all steps before it have left. -/
theorem unloaded_of_unread {t : FileTree} {steps : List Step} (h : Unread t steps) :
    ((fresh t).after steps).catalogue.loaded = none := by
  induction steps using List.reverseRecOn with
  | nil => rfl
  | append_singleton steps a ih =>
    obtain ⟨earlier, last⟩ := unread_concat_iff.1 h
    have unloaded := ih earlier
    rw [after_append]
    cases a with
    | lookup ctx code =>
      have absent := last ctx code rfl
      rw [← files_fresh] at absent
      obtain ⟨e, outcome, -⟩ := lookup_of_not_hasMaster unloaded absent code
      show (((fresh t).after steps).catalogue.lookup _ ctx code).2.loaded = none
      rw [outcome]
      exact unloaded
    | write | makeDirectories | remove => exact unloaded

end Scene

/-- A history is unread, or it has a first look-up that found a text. -/
theorem unread_or_found (t : FileTree) (steps : List Step) :
    Unread t steps ∨ ∃ before ctx code later text, steps = before ++ .lookup ctx code :: later ∧
      Unread t before ∧ ctx.HasMaster (filesAfter t before).read text := by
  induction steps using List.reverseRecOn with
  | nil =>
    refine .inl ?_
    intro before ctx code later split
    simp at split
  | append_singleton steps a ih =>
    rcases ih with unread | ⟨before, ctx, code, later, text, rfl, unread, master⟩
    · by_cases found : ∃ ctx code text, a = .lookup ctx code ∧
          ctx.HasMaster (filesAfter t steps).read text
      · obtain ⟨ctx, code, text, rfl, master⟩ := found
        exact .inr ⟨steps, ctx, code, [], text, rfl, unread, master⟩
      · refine .inl (unread_concat_iff.2 ⟨unread, ?_⟩)
        intro ctx code same text master
        exact found ⟨ctx, code, text, same, master⟩
    · exact .inr ⟨before, ctx, code, later ++ [a], text, by simp, unread, master⟩

/-- As long as no look-up finds a text, the catalogue is unloaded and every look-up reports that it
cannot be read; each of them looks at the files as they are then. The first text that one finds
answers it and every later look-up, whatever is done to the files and whichever run asks. -/
theorem first_text_answers (t : FileTree) (steps : List Step) :
    (((Scene.fresh t).after steps).catalogue.loaded = none ↔ Unread t steps) ∧
    ∀ before ctx code later, steps = before ++ .lookup ctx code :: later → Unread t before →
      ((∀ text, ¬ ctx.HasMaster (filesAfter t before).read text) →
        ∃ e, ((Scene.fresh t).after before).answer ctx code = .error e ∧
          e.kind? = some .missingStashmaster) ∧
      ∀ text, ctx.HasMaster (filesAfter t before).read text →
        ((Scene.fresh t).after before).answer ctx code = (Stashmaster.parse text).find code ∧
        ((Scene.fresh t).after steps).AnswersFrom text := by
  have answers : ∀ before ctx code later, steps = before ++ .lookup ctx code :: later →
      Unread t before → ∀ text, ctx.HasMaster (filesAfter t before).read text →
        ((Scene.fresh t).after before).answer ctx code = (Stashmaster.parse text).find code ∧
        ((Scene.fresh t).after steps).AnswersFrom text := by
    rintro before ctx code later rfl unread text master
    have unloaded := Scene.unloaded_of_unread unread
    rw [← Scene.files_fresh] at master
    refine ⟨?_, ?_⟩
    · rw [Scene.answer, lookup_of_hasMaster unloaded master]
    · rw [Scene.after_append]
      exact (Scene.answersFrom_of_lookup unloaded master code).after later
  refine ⟨⟨?_, Scene.unloaded_of_unread⟩, ?_⟩
  · intro unloaded
    rcases unread_or_found t steps with
      unread | ⟨before, ctx, code, later, text, split, unread, master⟩
    · exact unread
    · have loaded := (answers before ctx code later split unread text master).2.loaded
      rw [unloaded] at loaded
      cases loaded
  · intro before ctx code later split unread
    refine ⟨?_, answers before ctx code later split unread⟩
    intro absent
    rw [← Scene.files_fresh] at absent
    obtain ⟨e, outcome, reported⟩ :=
      lookup_of_not_hasMaster (Scene.unloaded_of_unread unread) absent code
    exact ⟨e, by rw [Scene.answer, outcome], reported⟩

/-- The file of the catalogue is missing at first, then it is no text, then it is one. -/
def soilMasterArrives : List Step :=
  [.lookup (soilRun 4) ⟨8, 223⟩, .makeDirectories "stash",
   .write "stash/STASHmaster_A" ⟨#[255]⟩, .lookup (soilRun 4) ⟨8, 223⟩,
   .write "stash/STASHmaster_A" soilMaster.toUTF8]

/-- A look-up for a code that is not listed loads the catalogue, and the file can go. -/
theorem first_text_answers_soil :
    Unread {} soilMasterArrives ∧
    (soilRun 4).HasMaster (filesAfter {} soilMasterArrives).read soilMaster ∧
    ∃ e, ((Scene.fresh {}).after soilMasterArrives).answer (soilRun 4) ⟨0, 1⟩ = .error e ∧
      e.kind? = some .unknownStashCode ∧
      ((Scene.fresh {}).after (soilMasterArrives ++ .lookup (soilRun 4) ⟨0, 1⟩ ::
        [.remove "stash/STASHmaster_A"])).answer riverRun ⟨8, 223⟩ =
          .ok ⟨"SOIL MOISTURE CONTENT", 21, 8, 9⟩ := by
  have unread : Unread {} soilMasterArrives :=
    (first_text_answers {} soilMasterArrives).1.1 rfl
  have master : (soilRun 4).HasMaster (filesAfter {} soilMasterArrives).read soilMaster :=
    ⟨_, rfl, rfl⟩
  obtain ⟨-, found⟩ := (first_text_answers {} (soilMasterArrives ++ .lookup (soilRun 4) ⟨0, 1⟩ ::
    [.remove "stash/STASHmaster_A"])).2 _ _ _ _ rfl unread
  obtain ⟨first, later⟩ := found soilMaster master
  refine ⟨unread, master, _, first.trans rfl, by decide, ?_⟩
  rw [later.answer]
  rfl

end StashCatalogue

end Coupling
