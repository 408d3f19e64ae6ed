import Coupling.Proofs.Outcome
import Mathlib.Data.List.Forall2

/-!
# Computations that check requirements

A computation that may fail checks one thing after another, and stops at the first that is wrong:

* a `Requirement` is a condition together with the kind of error that reports its violation;
* `FirstFailing good as a`: `a` is the first element of `as` that is not good;
* `Checks x reqs`: `x` checks `reqs` in their order. It succeeds only when all of them hold and
  otherwise fails with the kind of the first that does not. A sequence checks what its parts check,
  one list after the other (`Checks.bind`);
* `Answers found kind x`: `x` hands out what is found, and checks that something is
  (`Answers.checks`);
* `Finds x kind good`: `x` yields exactly what is good, and fails with the kind where nothing is.
  A sequence finds what its parts find, one after the other (`Finds.bind`);
* `FailAlike x y`: where one of the two fails, the other fails with the same error.
-/

namespace Coupling

namespace Kind

@[simp] theorem ofCode?_code (kind : Kind) : ofCode? kind.code = some kind := by
  cases kind <;> decide

end Kind

namespace ErrorInfo

@[simp] theorem code_of (code message : String) : (of code message).code = code := rfl

@[simp] theorem code_note (i : ErrorInfo) (key value : String) : (i.note key value).code = i.code :=
  rfl

end ErrorInfo

namespace Error

/-- The kind of an error is told by its code, whatever the kind is that its family is from. -/
@[simp] theorem kind?_wrap (kind : Kind) (i : ErrorInfo) :
    (wrap kind i).kind? = Kind.ofCode? i.code := rfl

@[simp] theorem kind?_of (kind : Kind) (message : String) : (of kind message).kind? = some kind :=
  kind.ofCode?_code

@[simp] theorem kind?_note (e : Error) (key value : String) : (e.note key value).kind? = e.kind? :=
  rfl

@[simp] theorem kind?_advise (e : Error) (hint : String) : (e.advise hint).kind? = e.kind? := rfl

end Error

/-- `a` stands in the list, is not good, and everything before it is. -/
def FirstFailing {α : Type} (good : α → Prop) (as : List α) (a : α) : Prop :=
  ∃ before after, as = before ++ a :: after ∧ (∀ b ∈ before, good b) ∧ ¬ good a

namespace FirstFailing

variable {α : Type} {good : α → Prop} {as others : List α} {a : α}

theorem mem (h : FirstFailing good as a) : a ∈ as := by
  obtain ⟨before, after, rfl, -, -⟩ := h
  exact List.mem_append_right _ List.mem_cons_self

theorem bad (h : FirstFailing good as a) : ¬ good a := by
  obtain ⟨-, -, -, -, bad⟩ := h
  exact bad

theorem head (bad : ¬ good a) : FirstFailing good (a :: as) a := ⟨[], as, rfl, nofun, bad⟩

theorem append_right (h : FirstFailing good as a) : FirstFailing good (as ++ others) a := by
  obtain ⟨before, after, rfl, earlier, bad⟩ := h
  exact ⟨before, after ++ others, by simp, earlier, bad⟩

theorem append_left (h : FirstFailing good as a) (fine : ∀ b ∈ others, good b) :
    FirstFailing good (others ++ as) a := by
  obtain ⟨before, after, rfl, earlier, bad⟩ := h
  refine ⟨others ++ before, after, by simp, ?_, bad⟩
  intro b hb
  rcases List.mem_append.1 hb with hb | hb
  · exact fine b hb
  · exact earlier b hb

theorem cons {b : α} (h : FirstFailing good as a) (fine : good b) :
    FirstFailing good (b :: as) a := by
  obtain ⟨before, after, rfl, earlier, bad⟩ := h
  exact ⟨b :: before, after, rfl, List.forall_mem_cons.2 ⟨fine, earlier⟩, bad⟩

end FirstFailing

/-- A condition, and the kind of error that says it is violated. -/
structure Requirement where
  kind : Kind
  holds : Prop

/-- The computation succeeds only where all requirements hold, and fails only with the kind of the
first that does not. -/
structure Checks {α : Type} (x : Except Error α) (reqs : List Requirement) : Prop where
  ok : ∀ a, x = .ok a → ∀ q ∈ reqs, q.holds
  error : ∀ e, x = .error e → ∃ q, FirstFailing Requirement.holds reqs q ∧ e.kind? = some q.kind

namespace Checks

variable {α β : Type} {x : Except Error α} {reqs others : List Requirement}

/-- Nothing fails without a requirement that is violated. -/
theorem succeeds (h : Checks x reqs) (fine : ∀ q ∈ reqs, q.holds) : ∃ a, x = .ok a := by
  cases outcome : x with
  | ok a => exact ⟨a, rfl⟩
  | error e =>
    obtain ⟨q, first, -⟩ := h.error e outcome
    exact absurd (fine q first.mem) first.bad

theorem exists_ok_iff (h : Checks x reqs) : (∃ a, x = .ok a) ↔ ∀ q ∈ reqs, q.holds := by
  constructor
  · rintro ⟨a, outcome⟩
    exact h.ok a outcome
  · exact h.succeeds

theorem passed (a : α) (fine : ∀ q ∈ reqs, q.holds) : Checks (.ok a) reqs where
  ok _ _ := fine
  error := nofun

theorem failed {kind : Kind} {holds : Prop} {e : Error} (bad : ¬ holds)
    (reported : e.kind? = some kind) :
    Checks (.error e : Except Error α) (⟨kind, holds⟩ :: reqs) where
  ok := nofun
  error := by
    rintro _ ⟨⟩
    exact ⟨_, .head bad, reported⟩

/-- A single check. -/
theorem single {kind : Kind} {holds : Prop} (ok : ∀ a, x = .ok a → holds)
    (error : ∀ e, x = .error e → ¬ holds ∧ e.kind? = some kind) : Checks x [⟨kind, holds⟩] := by
  cases x with
  | ok a =>
    refine passed a ?_
    intro q hq
    obtain rfl := List.mem_singleton.1 hq
    exact ok a rfl
  | error e =>
    obtain ⟨bad, reported⟩ := error e rfl
    exact failed bad reported

theorem congr {kind : Kind} {holds holds' : Prop} (h : Checks x [⟨kind, holds⟩])
    (same : holds ↔ holds') : Checks x [⟨kind, holds'⟩] :=
  propext same ▸ h

/-- Requirements that hold anyway may come first. -/
theorem after (h : Checks x reqs) (fine : ∀ q ∈ others, q.holds) : Checks x (others ++ reqs) where
  ok := by
    intro a succeeds q hq
    rcases List.mem_append.1 hq with hq | hq
    · exact fine q hq
    · exact h.ok a succeeds q hq
  error := by
    intro e fails
    obtain ⟨q, first, kind⟩ := h.error e fails
    exact ⟨q, first.append_left fine, kind⟩

theorem cons {kind : Kind} {holds : Prop} (fine : holds) (h : Checks x reqs) :
    Checks x (⟨kind, holds⟩ :: reqs) := by
  have first : ∀ q ∈ [Requirement.mk kind holds], q.holds := by
    intro q hq
    obtain rfl := List.mem_singleton.1 hq
    exact fine
  exact h.after first

/-- Requirements that hold anyway may come last. -/
theorem before (h : Checks x reqs) (fine : ∀ q ∈ others, q.holds) : Checks x (reqs ++ others) where
  ok := by
    intro a succeeds q hq
    rcases List.mem_append.1 hq with hq | hq
    · exact h.ok a succeeds q hq
    · exact fine q hq
  error := by
    intro e fails
    obtain ⟨q, first, kind⟩ := h.error e fails
    exact ⟨q, first.append_right, kind⟩

/-- What follows the first step is checked where the first step succeeds. -/
theorem bind {f : α → Except Error β} (h : Checks x reqs)
    (next : ∀ a, x = .ok a → Checks (f a) others) : Checks (x >>= f) (reqs ++ others) := by
  cases outcome : x with
  | ok a => exact (next a outcome).after (h.ok a outcome)
  | error e =>
    obtain ⟨q, first, kind⟩ := h.error e outcome
    refine ⟨nofun, ?_⟩
    rintro _ ⟨⟩
    exact ⟨q, first.append_right, kind⟩

theorem map {f : α → β} (h : Checks x reqs) : Checks (x >>= fun a => pure (f a)) reqs := by
  have last := h.bind fun a _ => passed (f a) (List.forall_mem_nil _)
  rwa [List.append_nil] at last

/-- Where all that can be wrong is of one kind, there is one requirement. -/
theorem only {kind : Kind} {holds : Prop} (h : Checks x reqs)
    (all : (∀ q ∈ reqs, q.holds) → holds)
    (each : ∀ q ∈ reqs, q.holds ∨ q.kind = kind ∧ (holds → q.holds)) :
    Checks x [⟨kind, holds⟩] := by
  refine .single (fun a succeeds => all (h.ok a succeeds)) ?_
  intro e fails
  obtain ⟨q, first, reported⟩ := h.error e fails
  obtain ⟨same, enough⟩ := (each q first.mem).resolve_left first.bad
  exact ⟨fun fine => first.bad (enough fine), same ▸ reported⟩

theorem noting {key value : String} (h : Checks x reqs) :
    Checks (Coupling.noting key value x) reqs := by
  cases x with
  | ok a => exact h
  | error e =>
    refine ⟨nofun, ?_⟩
    rintro _ ⟨⟩
    exact h.error e rfl

end Checks

/-- `x` is what is looked up, or an error of a kind where there is nothing. -/
def Answers {α : Type} (found : Option α) (kind : Kind) (x : Except Error α) : Prop :=
  match found with
  | some a => x = .ok a
  | none => ∃ e, x = .error e ∧ e.kind? = some kind

namespace Answers

variable {α : Type} {found : Option α} {kind : Kind} {x : Except Error α}

theorem eq_ok_iff (h : Answers found kind x) {a : α} : x = .ok a ↔ found = some a := by
  cases found with
  | some b =>
    have succeeds : x = .ok b := h
    rw [succeeds, Except.ok.injEq, Option.some.injEq]
  | none =>
    obtain ⟨e, fails, -⟩ := h
    simp [fails]

theorem kind?_of_error (h : Answers found kind x) {e : Error} (fails : x = .error e) :
    e.kind? = some kind := by
  cases found with
  | some b => exact absurd (fails.symm.trans h) nofun
  | none =>
    obtain ⟨e', fails', reported⟩ := h
    obtain rfl : e = e' := Except.error.inj (fails.symm.trans fails')
    exact reported

theorem checks (h : Answers found kind x) : Checks x [⟨kind, ∃ a, found = some a⟩] := by
  refine .single ?_ ?_
  · intro a succeeds
    exact ⟨a, h.eq_ok_iff.1 succeeds⟩
  · intro e fails
    refine ⟨?_, h.kind?_of_error fails⟩
    rintro ⟨a, found⟩
    exact absurd (fails.symm.trans (h.eq_ok_iff.2 found)) nofun

end Answers

/-- `x` yields what is good, and where nothing is, it fails with an error of the kind. -/
structure Finds {α : Type} (x : Except Error α) (kind : Kind) (good : α → Prop) : Prop where
  ok_iff : ∀ a, x = .ok a ↔ good a
  error : ∀ e, x = .error e → e.kind? = some kind

theorem Answers.finds {α : Type} {found : Option α} {kind : Kind} {x : Except Error α}
    (h : Answers found kind x) : Finds x kind fun a => found = some a :=
  ⟨fun _ => h.eq_ok_iff, fun _ => h.kind?_of_error⟩

namespace Finds

variable {α β : Type} {x : Except Error α} {kind : Kind} {good good' : α → Prop}

theorem checks (h : Finds x kind good) : Checks x [⟨kind, ∃ a, good a⟩] := by
  refine .single ?_ ?_
  · intro a succeeds
    exact ⟨a, (h.ok_iff a).1 succeeds⟩
  · intro e fails
    refine ⟨?_, h.error e fails⟩
    rintro ⟨a, fine⟩
    exact absurd (fails.symm.trans ((h.ok_iff a).2 fine)) nofun

theorem congr (h : Finds x kind good) (same : ∀ a, good a ↔ good' a) : Finds x kind good' :=
  ⟨fun a => (h.ok_iff a).trans (same a), h.error⟩

theorem ok (a : α) : Finds (.ok a) kind fun b => a = b :=
  ⟨fun _ => by rw [Except.ok.injEq], nofun⟩

theorem failed {e : Error} (reported : e.kind? = some kind) (nothing : ∀ a, ¬ good a) :
    Finds (.error e) kind good where
  ok_iff a := ⟨nofun, fun fine => absurd fine (nothing a)⟩
  error := by
    rintro _ ⟨⟩
    exact reported

theorem refusing {p : Prop} [Decidable p] {e : Error} (a : α) (reported : e.kind? = some kind) :
    Finds (if p then .error e else .ok a) kind fun b => ¬ p ∧ a = b := by
  split
  · next bad => exact .failed reported fun _ fine => fine.1 bad
  · next fine => exact (ok a).congr fun b => by simp [fine]

theorem bind {f : α → Except Error β} {next : α → β → Prop} (h : Finds x kind good)
    (then_ : ∀ a, Finds (f a) kind (next a)) :
    Finds (x >>= f) kind fun b => ∃ a, good a ∧ next a b where
  ok_iff b := by simp only [bind_eq_ok, h.ok_iff, (then_ _).ok_iff]
  error e fails := by
    rcases bind_eq_error.1 fails with fails | ⟨a, -, fails⟩
    · exact h.error e fails
    · exact (then_ a).error e fails

theorem mapM {f : α → Except Error β} {good : α → β → Prop} (as : List α)
    (each : ∀ a, Finds (f a) kind (good a)) :
    Finds (as.mapM f) kind fun bs => List.Forall₂ good as bs := by
  induction as with
  | nil => exact (ok []).congr fun bs => by rw [List.forall₂_nil_left_iff, eq_comm]
  | cons a as ih =>
    rw [List.mapM_cons]
    refine ((each a).bind fun b => ih.bind fun bs => ok (b :: bs)).congr fun bs => ?_
    rw [List.forall₂_cons_left_iff]
    constructor
    · rintro ⟨b, fine, rest, later, rfl⟩
      exact ⟨b, rest, fine, later, rfl⟩
    · rintro ⟨b, rest, fine, later, rfl⟩
      exact ⟨b, fine, rest, later, rfl⟩

end Finds

/-- Both computations fail alike: with the same errors, if at all. -/
def FailAlike {α β : Type} (x : Except Error α) (y : Except Error β) : Prop :=
  ∀ e, x = .error e ↔ y = .error e

namespace FailAlike

variable {α β γ : Type}

theorem ok (a : α) (b : β) : FailAlike (.ok a : Except Error α) (.ok b : Except Error β) :=
  fun _ => ⟨nofun, nofun⟩

theorem error (e : Error) :
    FailAlike (.error e : Except Error α) (.error e : Except Error β) := by
  intro e'
  rw [Except.error.injEq, Except.error.injEq]

theorem bind {f : α → Except Error β} {g : α → Except Error γ} (x : Except Error α)
    (next : ∀ a, FailAlike (f a) (g a)) : FailAlike (x >>= f) (x >>= g) := by
  cases x with
  | ok a => exact next a
  | error e => exact error e

section
variable {x : Except Error α} {y : Except Error β}

theorem map {δ : Type} {f : α → γ} {g : β → δ} (h : FailAlike x y) :
    FailAlike (x >>= fun a => pure (f a)) (y >>= fun b => pure (g b)) := by
  cases x with
  | ok a =>
    cases y with
    | ok b => exact ok (f a) (g b)
    | error e => exact absurd ((h e).2 rfl) nofun
  | error e =>
    obtain rfl := (h e).1 rfl
    exact error e

theorem noting (key value : String) (h : FailAlike x y) :
    FailAlike (Coupling.noting key value x) (Coupling.noting key value y) := by
  cases x with
  | ok a =>
    cases y with
    | ok b => exact ok a b
    | error e => exact absurd ((h e).2 rfl) nofun
  | error e =>
    obtain rfl := (h e).1 rfl
    exact error (e.note key value)

end

end FailAlike

end Coupling
