import Coupling.Event

/-!
# Outcomes of computations

Taking apart computations that may fail, and comparing two of them:

* `bind_eq_ok`, `mapM_cons_eq_ok`: a sequence succeeds when each of its steps does, and fails with
  the error of the first that does not (`bind_eq_error`);
* notes and events change no successful result;
* `Agree R`: both computations fail, or both succeed with results that `R` relates. Sequences of
  agreeing steps agree (`Agree.bind`), and so do the results of one step on two lists that are
  permutations of each other (`mapM_agree`).
-/

namespace Coupling

section
variable {α β : Type}

theorem bind_eq_ok {x : Except Error α} {next : α → Except Error β} {b : β} :
    x >>= next = .ok b ↔ ∃ a, x = .ok a ∧ next a = .ok b := by
  cases x <;> simp [bind, Except.bind]

theorem bind_eq_error {x : Except Error α} {next : α → Except Error β} {e : Error} :
    x >>= next = .error e ↔ x = .error e ∨ ∃ a, x = .ok a ∧ next a = .error e := by
  cases x <;> simp [bind, Except.bind]

theorem pure_eq_ok {a b : α} : (pure a : Except Error α) = .ok b ↔ a = b := by
  simp [pure, Except.pure]

theorem noting_eq_ok {key value : String} {x : Except Error α} {a : α} :
    noting key value x = .ok a ↔ x = .ok a := by
  cases x <;> simp [noting]

namespace Logged

@[simp] theorem result_of (x : Except Error α) : (Logged.of x).result = x := rfl

@[simp] theorem result_noting (key value : String) (x : Logged α) :
    (x.noting key value).result = Coupling.noting key value x.result := rfl

end Logged

theorem mapM_nil_eq_ok {f : α → Except Error β} {bs : List β} :
    [].mapM f = .ok bs ↔ bs = [] := by
  simp only [List.mapM_nil, pure_eq_ok]
  exact eq_comm

theorem mapM_cons_eq_ok {f : α → Except Error β} {a : α} {as : List α} {bs : List β} :
    (a :: as).mapM f = .ok bs ↔ ∃ c cs, f a = .ok c ∧ as.mapM f = .ok cs ∧ bs = c :: cs := by
  simp only [List.mapM_cons, bind_eq_ok, pure_eq_ok]
  constructor
  · rintro ⟨c, hc, cs, hcs, rfl⟩
    exact ⟨c, cs, hc, hcs, rfl⟩
  · rintro ⟨c, cs, hc, hcs, rfl⟩
    exact ⟨c, hc, cs, hcs, rfl⟩

/-- What every result of `f` has, every element of a list of results has. -/
theorem forall_mem_of_mapM {f : α → Except Error β} {P : β → Prop} {as : List α} {bs : List β}
    (h : as.mapM f = .ok bs) (each : ∀ a ∈ as, ∀ b, f a = .ok b → P b) : ∀ b ∈ bs, P b := by
  induction as generalizing bs with
  | nil =>
    obtain rfl := mapM_nil_eq_ok.1 h
    simp
  | cons a as ih =>
    obtain ⟨c, cs, hc, hcs, rfl⟩ := mapM_cons_eq_ok.1 h
    intro b hb
    rcases List.mem_cons.1 hb with rfl | hb
    · exact each a List.mem_cons_self b hc
    · exact ih hcs (fun a ha => each a (List.mem_cons_of_mem _ ha)) b hb

end

/-- Two outcomes agree: both are errors, or both are values that `R` relates. -/
def Agree {α β : Type} (R : α → β → Prop) : Except Error α → Except Error β → Prop
  | .ok a, .ok b => R a b
  | .error _, .error _ => True
  | _, _ => False

namespace Agree

section
variable {α β γ δ : Type} {R : α → β → Prop} {S : γ → δ → Prop}

/-- What agrees succeeds on the same side as its partner, with related values. -/
theorem iff_ok {x : Except Error α} {y : Except Error β} :
    Agree R x y ↔
      ((∃ a, x = .ok a) ↔ ∃ b, y = .ok b) ∧ ∀ a b, x = .ok a → y = .ok b → R a b := by
  cases x <;> cases y <;> simp [Agree]

/-- Agreeing first steps with agreeing continuations make agreeing sequences. -/
theorem bind {x : Except Error α} {y : Except Error β}
    {f : α → Except Error γ} {g : β → Except Error δ} (h : Agree R x y)
    (next : ∀ a b, R a b → Agree S (f a) (g b)) : Agree S (x >>= f) (y >>= g) := by
  cases x with
  | error e =>
    cases y with
    | error e' => trivial
    | ok b => exact h.elim
  | ok a =>
    cases y with
    | error e' => exact h.elim
    | ok b => exact next a b h

/-- After one first step, what follows it has to agree. -/
theorem bind_same {ε : Type} {f : ε → Except Error γ} {g : ε → Except Error δ}
    (x : Except Error ε) (next : ∀ e, Agree S (f e) (g e)) : Agree S (x >>= f) (x >>= g) := by
  cases x with
  | error e => trivial
  | ok e => exact next e

end

section
variable {α : Type}

theorem refl {R : α → α → Prop} (reflexive : ∀ a, R a a) (x : Except Error α) : Agree R x x := by
  cases x with
  | error e => trivial
  | ok a => exact reflexive a

theorem trans {R : α → α → Prop} (transitive : ∀ a b c, R a b → R b c → R a c)
    {x y z : Except Error α} (h : Agree R x y) (h' : Agree R y z) : Agree R x z := by
  rw [iff_ok] at h h' ⊢
  refine ⟨h.1.trans h'.1, ?_⟩
  intro a c ha hc
  obtain ⟨b, hb⟩ := h.1.1 ⟨a, ha⟩
  exact transitive a b c (h.2 a b ha hb) (h'.2 b c hb hc)

end

end Agree

/-- The order of a list decides only the order of the results, not whether there are any. -/
theorem mapM_agree {α β : Type} (f : α → Except Error β) {as as' : List α} (h : as.Perm as') :
    Agree List.Perm (as.mapM f) (as'.mapM f) := by
  induction h with
  | nil => exact .refl List.Perm.refl _
  | cons a _ ih =>
    simp only [List.mapM_cons]
    refine Agree.bind_same (f a) ?_
    intro b
    refine ih.bind ?_
    intro bs bs' perm
    exact perm.cons b
  | swap a a' as =>
    simp only [List.mapM_cons]
    cases f a with
    | error e => cases f a' <;> trivial
    | ok b =>
      cases f a' with
      | error e => trivial
      | ok b' =>
        cases as.mapM f with
        | error e => trivial
        | ok bs => exact List.Perm.swap b b' bs
  | trans _ _ ih ih' => exact ih.trans (fun _ _ _ first second => first.trans second) ih'

end Coupling
