import Coupling.Proofs.FanOut

/-!
# Splitting a list of specifications

What one part of a list of texts has to do with the parts before it:

* `Inherited.after`: what fields leave to the texts behind them is read off the last record among
  them. This is all that these texts see of the ones before (`buildFrom_append_of_ok`), and texts
  that fail hide what is behind them (`buildFrom_append_of_error`);
* `Spec.Restarts`: a specification with a mapping and a weight of its own does not look at what it
  inherits (`read_of_restarts`), so a list that begins with one, after words for the defaults at
  most, is built the same wherever it stands (`buildFrom_of_restarts`);
* `Spec.build_append`: such a list can be built apart from the texts before it, and any other list
  depends on them through their last record alone.
-/

namespace Coupling

/-- What is inherited behind some fields: mapping, order and next weight of the last record among
them, and where there is none, what was inherited in front of them. -/
def Inherited.after (inherited : Inherited) (fields : List Field) : Inherited :=
  match (fields.filter (· ≠ .placeholder)).getLast? with
  | none => inherited
  | some f => ⟨some ⟨f.mapping, f.order⟩, some (f.weight + 2)⟩

theorem Inherited.after_append (inherited : Inherited) (fields others : List Field) :
    (inherited.after fields).after others = inherited.after (fields ++ others) := by
  simp only [after, List.filter_append, List.getLast?_append]
  cases (others.filter (· ≠ .placeholder)).getLast? with
  | none => rfl
  | some f => rfl

namespace Spec

/-- The text writes its mapping and its weight itself. -/
structure Restarts (text : String) : Prop where
  mapping : piece text 5 ≠ ""
  weight : piece text 6 ≠ ""

/-- The first text that is not the word for the defaults, without its outer blanks. -/
def firstSpecification (texts : List String) : Option String :=
  (texts.map Text.trim).find? (· ≠ defaultWord)

section
variable {sender : Sender} {inherited next left : Inherited} {text : String}
  {texts : List String} {group fields : List Field} {groups : List (List Field)} {e : Error}

theorem Adds.leaves_eq (h : Adds sender inherited text group next) :
    next = inherited.after group := by
  cases h with
  | placeholder word => rfl
  | fan different spelled room =>
    obtain ⟨f, last, -, leaves⟩ := getLast?_fan sender spelled.dests_ne_nil room
    rw [Inherited.after, spelled.filter_fan, last, leaves]

theorem Builds.leaves_eq (h : Builds sender inherited texts groups left) :
    left = inherited.after groups.flatten := by
  induction h with
  | nil => rfl
  | cons adds rest ih => rw [ih, adds.leaves_eq, Inherited.after_append, List.flatten_cons]

/-- The texts behind others see what the fields of these leave, and nothing else. -/
theorem buildFrom_append_of_ok (h : buildFrom sender inherited texts = .ok fields)
    (later : List String) : buildFrom sender inherited (texts ++ later) =
      (do return fields ++ (← buildFrom sender (inherited.after fields) later)) := by
  obtain ⟨groups, left, builds, rfl⟩ := buildFrom_eq_ok_iff.1 h
  rw [builds.buildFrom_append, builds.leaves_eq]

theorem buildFrom_append_of_error (h : buildFrom sender inherited texts = .error e)
    (later : List String) : buildFrom sender inherited (texts ++ later) = .error e := by
  obtain ⟨before, text, after, groups, left, rfl, builds, rejects⟩ := buildFrom_eq_error_iff.1 h
  exact buildFrom_eq_error_iff.2
    ⟨before, text, after ++ later, groups, left, by simp, builds, rejects⟩

theorem read_of_restarts (h : Restarts text) (origin : Component) (inherited other : Inherited) :
    read origin inherited text = read origin other text := by
  unfold read
  split
  · rfl
  · split
    · next name number grid dests levels mapping rest parts =>
      have said (i : Nat) : piece text i =
          (name :: number :: grid :: dests :: levels :: mapping :: rest).getD i "" := by
        rw [piece, parts]
      have writesMapping : mapping ≠ "" := fun blank => h.mapping ((said 5).trans blank)
      have writesWeight : rest.getD 0 "" ≠ "" := fun blank => h.weight ((said 6).trans blank)
      simp only [chooseMapping, chooseWeight, if_neg writesMapping, if_neg writesWeight]
    · rfl

/-- Behind words for the defaults, a specification with its own mapping and weight makes what came
before unobservable, also to the texts that follow it. -/
theorem buildFrom_of_restarts
    (h : ∀ text, firstSpecification texts = some text → Restarts text) (sender : Sender)
    (inherited other : Inherited) :
    buildFrom sender inherited texts = buildFrom sender other texts := by
  induction texts with
  | nil => rfl
  | cons text texts ih =>
    by_cases word : Text.trim text = defaultWord
    · have rest : firstSpecification (text :: texts) = firstSpecification texts :=
        List.find?_cons_of_neg (by simpa using word)
      rw [buildFrom, buildFrom, if_pos word, if_pos word, ih (rest ▸ h)]
    · have first : firstSpecification (text :: texts) = some (Text.trim text) :=
        List.find?_cons_of_pos (by simpa using word)
      have same : expand sender inherited (Text.trim text) =
          expand sender other (Text.trim text) := by
        rw [expand, expand, read_of_restarts (h _ first) sender.origin inherited other]
      rw [buildFrom, buildFrom, if_neg word, if_neg word, same]

/-- A list that begins so is built the same wherever it stands. -/
theorem build_append_of_restarts {later : List String}
    (h : ∀ text, firstSpecification later = some text → Restarts text) :
    build sender (texts ++ later) =
      (do return (← build sender texts) ++ (← build sender later)) := by
  cases outcome : build sender texts with
  | ok first =>
    rw [build, buildFrom_append_of_ok outcome, buildFrom_of_restarts h sender _ {}]
    rfl
  | error e => exact buildFrom_append_of_error outcome later

end

/-- **Splitting is harmless.** Where the first specification of `later` writes its mapping and its
weight, `texts ++ later` is accepted exactly when both parts are, with the fields of the one and
then those of the other; and it fails with the error of `texts` if that fails and with the error of
`later` otherwise. In any case `later` sees of `texts` what the last record of their fields leaves:
its mapping and order, and the weight after its own. -/
theorem build_append (sender : Sender) (texts later : List String) :
    ((∀ text, firstSpecification later = some text → Restarts text) →
      (∀ fields, build sender (texts ++ later) = .ok fields ↔
        ∃ first second, build sender texts = .ok first ∧ build sender later = .ok second ∧
          fields = first ++ second) ∧
      (∀ e, build sender (texts ++ later) = .error e ↔
        build sender texts = .error e ∨
          (∃ first, build sender texts = .ok first) ∧ build sender later = .error e)) ∧
    (∀ e, build sender texts = .error e → build sender (texts ++ later) = .error e) ∧
    ∀ first, build sender texts = .ok first →
      build sender (texts ++ later) =
        (do return first ++ (← buildFrom sender (Inherited.after {} first) later)) := by
  refine ⟨?_, fun e fails => buildFrom_append_of_error fails later,
    fun first built => buildFrom_append_of_ok built later⟩
  intro restarts
  rw [build_append_of_restarts restarts]
  constructor
  · intro fields
    simp only [bind_eq_ok, pure_eq_ok]
    constructor
    · rintro ⟨first, built, second, built', rfl⟩
      exact ⟨first, second, built, built', rfl⟩
    · rintro ⟨first, second, built, built', rfl⟩
      exact ⟨first, built, second, built', rfl⟩
  · intro e
    simp only [bind_eq_error, pure, Except.pure, reduceCtorEq, and_false, exists_false, or_false,
      exists_and_right]

/-- Two destinations, and a mapping with an order that the words for the defaults pass on. -/
def firstTexts : List String := ["default", "heat;5;t;OCN&RIV;;CF&2;7", "default"]

/-- A mapping without an order and a weight, behind a word for the defaults. -/
def freshTexts : List String := ["default", "salt;6;t;OCN;;NN;40", "flux;8;u;RIV;;;"]

/-- A specification that takes both from the texts before it. -/
def openTexts : List String := ["flux;8;u;RIV;;;"]

/-- The second list brings its own mapping and weight; the third one goes on from the first. -/
theorem build_append_fresh :
    (∃ first second, build { origin := .atmosphere } firstTexts = .ok first ∧
      build { origin := .atmosphere } freshTexts = .ok second ∧
      build { origin := .atmosphere } (firstTexts ++ freshTexts) = .ok (first ++ second) ∧
      second.map (fun f => (f.mapping, f.order, f.weight)) =
        [(.remove, none, 0), (.nearest, none, 40), (.nearest, none, 42)]) ∧
    (∃ e, build { origin := .atmosphere } openTexts = .error e) ∧
    ∃ first second, build { origin := .atmosphere } firstTexts = .ok first ∧
      build { origin := .atmosphere } (firstTexts ++ openTexts) = .ok (first ++ second) ∧
      second.map (fun f => (f.mapping, f.order, f.weight)) =
        [(.conserveFraction, some 2, 11)] := by
  obtain ⟨first, built⟩ : ∃ first, build { origin := .atmosphere } firstTexts = .ok first :=
    ⟨_, rfl⟩
  have restarts : ∀ text, firstSpecification freshTexts = some text → Restarts text := by
    have begins : firstSpecification freshTexts = some "salt;6;t;OCN;;NN;40" := by decide
    rw [begins]
    rintro _ ⟨⟩
    exact ⟨by decide, by decide⟩
  refine ⟨?_, ⟨_, rfl⟩, ?_⟩
  · obtain ⟨second, built', shown⟩ : ∃ second,
        build { origin := .atmosphere } freshTexts = .ok second ∧
          second.map (fun f => (f.mapping, f.order, f.weight)) =
            [(.remove, none, 0), (.nearest, none, 40), (.nearest, none, 42)] := ⟨_, rfl, rfl⟩
    have whole := ((build_append { origin := .atmosphere } firstTexts freshTexts).1 restarts).1
    exact ⟨first, second, built, built', (whole _).2 ⟨first, second, built, built', rfl⟩, shown⟩
  · have whole := (build_append { origin := .atmosphere } firstTexts openTexts).2.2 first built
    obtain rfl := Except.ok.inj built
    exact ⟨_, _, built, whole, rfl⟩

end Spec

end Coupling
