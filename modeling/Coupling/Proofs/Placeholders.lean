import Coupling.Proofs.FanOut
import Coupling.Proofs.RoundTrip
import Coupling.Proofs.UsualFields

/-!
# Placeholders and what is declared

A field is taken for a placeholder when its sender is not known yet. A request may name such a
sender itself:

* `Spec.Adds.eq_placeholder_iff` and `Spec.Adds.isPlaceholder_iff`: only the word for the defaults
  adds the placeholder, but every field that an unknown sender declares is taken for one;
* `Spec.Recognised`: what is taken for a placeholder comes from that word. This is so exactly where
  the request names its sender, or asks for the defaults alone (`Spec.Builds.recognised_iff`);
* `recognises_placeholders_iff`: exactly then nothing that is declared explicitly gets lost when the
  defaults are expanded, and nothing is added where no defaults are asked for;
* `recognises_placeholders_fails`: otherwise a field disappears and the defaults take its place.
-/

namespace Coupling

theorem Field.isPlaceholder_placeholder : placeholder.isPlaceholder = true := rfl

namespace Spec

/-- What is taken for a placeholder are the fields of the word for the defaults. -/
def Recognised (texts : List String) (groups : List (List Field)) : Prop :=
  List.Forall₂ (fun text group =>
    ∀ f ∈ group, (f.isPlaceholder = true ↔ Text.trim text = defaultWord)) texts groups

section
variable {sender : Sender} {inherited next left : Inherited} {text : String}
  {texts : List String} {f : Field} {group : List Field} {groups : List (List Field)}

theorem Adds.ne_nil (h : Adds sender inherited text group next) : group ≠ [] := by
  cases h with
  | placeholder => exact List.cons_ne_nil _ _
  | @fan spec other spelled room =>
    intro none_
    have dests : (spec.fan sender).map Field.dest = spec.dests := map_dest_fan
    rw [none_, List.map_nil] at dests
    exact spelled.dests_ne_nil dests.symm

/-- The placeholder itself is told apart from every declared field. -/
theorem Adds.eq_placeholder_iff (h : Adds sender inherited text group next) (member : f ∈ group) :
    f = .placeholder ↔ Text.trim text = defaultWord := by
  cases h with
  | placeholder word => exact iff_of_true (List.mem_singleton.1 member) word
  | fan other spelled room =>
    refine iff_of_false ?_ other
    rintro rfl
    rw [← spelled.filter_fan, List.mem_filter] at member
    simp at member

theorem Adds.isPlaceholder_iff (h : Adds sender inherited text group next) (member : f ∈ group) :
    f.isPlaceholder = true ↔ Text.trim text = defaultWord ∨ sender.origin = .unresolved := by
  cases h with
  | placeholder word =>
    obtain rfl := List.mem_singleton.1 member
    exact iff_of_true rfl (.inl word)
  | fan other spelled room =>
    obtain ⟨dest, -, weight, rfl⟩ := mem_fan member
    rw [Field.isPlaceholder, decide_eq_true_eq]
    exact (or_iff_right other).symm

/-- The test on the sender recognises the placeholder, and takes nothing else for one. -/
theorem Builds.recognised_iff_eq (h : Builds sender inherited texts groups left) :
    Recognised texts groups ↔
      ∀ f ∈ groups.flatten, f.isPlaceholder = true → f = .placeholder := by
  unfold Recognised
  induction h with
  | nil => simp
  | cons adds rest ih =>
    rw [List.forall₂_cons, ih, List.flatten_cons, List.forall_mem_append]
    refine and_congr_left' (forall₂_congr fun f member => ?_)
    rw [← adds.eq_placeholder_iff member]
    exact ⟨Iff.mp, fun told => ⟨told, fun same => same ▸ Field.isPlaceholder_placeholder⟩⟩

theorem Builds.recognised_iff (h : Builds sender inherited texts groups left) :
    Recognised texts groups ↔
      sender.origin ≠ .unresolved ∨ ∀ text ∈ texts, Text.trim text = defaultWord := by
  unfold Recognised
  induction h with
  | nil => simp
  | cons adds rest ih =>
    rw [List.forall₂_cons, ih, List.forall_mem_cons, or_and_left]
    refine and_congr_left' ?_
    constructor
    · intro told
      obtain ⟨f, member⟩ := List.exists_mem_of_ne_nil _ adds.ne_nil
      refine or_iff_not_imp_left.2 fun unknown => (told f member).1 ?_
      exact (adds.isPlaceholder_iff member).2 (.inr (not_not.1 unknown))
    · rintro named f member
      rw [adds.isPlaceholder_iff member]
      rcases named with known | word
      · exact or_iff_left known
      · exact iff_of_true (.inl word) word

end

end Spec

namespace Request

/-- The request names a model as its sender, or asks for the defaults alone. -/
def NamesSender (r : Request) : Prop :=
  r.sender.origin ≠ .unresolved ∨ ∀ text ∈ r.specs, Text.trim text = defaultWord

/-- The request without the words for the defaults. -/
def explicit (r : Request) : Request :=
  { r with specs := r.specs.filter fun text => Text.trim text ≠ defaultWord }

variable {r : Request} {requests : List Request} {fields : List Field}

/-- What a request builds, text by text. -/
theorem builds_of_build (h : r.build = .ok fields) :
    ∃ groups left, Spec.Builds r.sender {} r.specs groups left ∧ fields = groups.flatten := by
  rw [build, noting_eq_ok] at h
  exact Spec.buildFrom_eq_ok_iff.1 h

theorem build_explicit (h : r.build = .ok fields) :
    r.explicit.build = .ok (fields.filter (· ≠ .placeholder)) := by
  obtain ⟨groups, left, builds, rfl⟩ := builds_of_build h
  obtain ⟨kept, builds, same⟩ := builds.without_default
  rw [build, noting_eq_ok]
  exact Spec.buildFrom_eq_ok_iff.2 ⟨kept, left, builds, same.symm⟩

theorem buildAll_cons_eq_ok_iff : buildAll (r :: requests) = .ok fields ↔
    ∃ first others, r.build = .ok first ∧ buildAll requests = .ok others ∧
      fields = first ++ others := by
  simp only [buildAll_eq_ok_iff, mapM_cons_eq_ok]
  constructor
  · rintro ⟨_, ⟨first, groups, built, later, rfl⟩, rfl⟩
    exact ⟨first, groups.flatten, built, ⟨groups, later, rfl⟩, List.flatten_cons⟩
  · rintro ⟨first, _, built, ⟨groups, later, rfl⟩, rfl⟩
    exact ⟨first :: groups, ⟨first, groups, built, later, rfl⟩, List.flatten_cons⟩

/-- Without the words for the defaults the placeholders are missing, and nothing else. -/
theorem buildAll_explicit (h : buildAll requests = .ok fields) :
    buildAll (requests.map explicit) = .ok (fields.filter (· ≠ .placeholder)) := by
  induction requests generalizing fields with
  | nil =>
    obtain rfl : [] = fields := Except.ok.inj h
    rfl
  | cons r requests ih =>
    obtain ⟨first, others, built, later, rfl⟩ := buildAll_cons_eq_ok_iff.1 h
    exact buildAll_cons_eq_ok_iff.2
      ⟨_, _, build_explicit built, ih later, List.filter_append first others⟩

/-- Where every sender is named, the placeholder is all that is taken for one. -/
theorem forall_namesSender_iff (h : buildAll requests = .ok fields) :
    (∀ r ∈ requests, r.NamesSender) ↔
      ∀ f ∈ fields, f.isPlaceholder = true → f = .placeholder := by
  induction requests generalizing fields with
  | nil =>
    obtain rfl : [] = fields := Except.ok.inj h
    simp
  | cons r requests ih =>
    obtain ⟨first, others, built, later, rfl⟩ := buildAll_cons_eq_ok_iff.1 h
    obtain ⟨groups, left, builds, rfl⟩ := builds_of_build built
    rw [List.forall_mem_cons, List.forall_mem_append, ih later, ← builds.recognised_iff_eq,
      builds.recognised_iff, NamesSender]

theorem explicit_eq_self (h : ∀ text ∈ r.specs, Text.trim text ≠ defaultWord) :
    r.explicit = r := by
  rw [explicit, List.filter_eq_self.2 fun text written => decide_eq_true (h text written)]

theorem ne_placeholder_of_buildAll (h : buildAll requests = .ok fields)
    (noDefaults : ∀ r ∈ requests, ∀ text ∈ r.specs, Text.trim text ≠ defaultWord) :
    ∀ f ∈ fields, f ≠ .placeholder := by
  have same : requests.map explicit = requests :=
    (List.map_congr_left fun r member => explicit_eq_self (noDefaults r member)).trans
      (List.map_id requests)
  have kept := buildAll_explicit h
  rw [same, h, Except.ok.injEq] at kept
  intro f member
  rw [kept] at member
  exact of_decide_eq_true (List.mem_filter.1 member).2

theorem exists_build_of_mem (h : buildAll requests = .ok fields) (member : r ∈ requests) :
    ∃ own, r.build = .ok own := by
  induction requests generalizing fields with
  | nil => simp at member
  | cons first requests ih =>
    obtain ⟨own, others, built, later, rfl⟩ := buildAll_cons_eq_ok_iff.1 h
    rcases List.mem_cons.1 member with rfl | member
    · exact ⟨own, built⟩
    · exact ih later member

end Request

section
variable {ctx : RunContext} {fields out : List Field}

/-- What is taken for a placeholder is dropped, be it the placeholder or not. -/
theorem sublist_expandDefaults_iff (h : (expandDefaults ctx fields).result = .ok out) :
    (fields.filter (· ≠ .placeholder)).Sublist out ↔
      ∀ f ∈ fields, f.isPlaceholder = true → f = .placeholder := by
  constructor
  · intro kept f member taken
    by_contra other
    have listed : f ∈ fields.filter (· ≠ .placeholder) :=
      List.mem_filter.2 ⟨member, decide_eq_true other⟩
    have resolved := expandDefaults_resolved h f (kept.subset listed)
    exact absurd (taken.symm.trans resolved) (by decide)
  · intro told
    have same : fields.filter (· ≠ .placeholder) = fields.filter fun f => !f.isPlaceholder := by
      refine List.filter_congr fun f member => ?_
      rw [decide_not, Bool.not_inj_iff, Bool.eq_iff_iff, decide_eq_true_iff]
      exact ⟨fun same => same ▸ Field.isPlaceholder_placeholder, told f member⟩
    rw [expandDefaults_eq, Except.ok.injEq] at h
    rw [← h]
    split
    · rw [same]
      exact List.sublist_append_left _ _
    · exact List.filter_sublist

/-- Where the placeholder does not stand, the fields stay as they are unless one is taken for it. -/
theorem expandDefaults_eq_self_iff (h : (expandDefaults ctx fields).result = .ok out)
    (noDefaults : ∀ f ∈ fields, f ≠ .placeholder) :
    out = fields ↔ ∀ f ∈ fields, f.isPlaceholder = true → f = .placeholder := by
  constructor
  · rintro rfl f member taken
    have resolved := expandDefaults_resolved h f member
    exact absurd (taken.symm.trans resolved) (by decide)
  · intro told
    have none_ : fields.any Field.isPlaceholder = false := by
      rw [List.any_eq_false]
      exact fun f member taken => noDefaults f member (told f member taken)
    rw [expandDefaults_eq, none_, Except.ok.injEq] at h
    exact h.symm

end

/-- **Placeholders are recognised where senders are named.** What a request declares is taken for a
placeholder exactly where its text is the word for the defaults, if and only if the request names a
model as its sender or asks for the defaults alone. If and only if all requests do, everything that
they declare explicitly is kept, in its order, when the defaults are expanded, and if and only if
all do, requests that do not ask for the defaults keep their fields and get no others. -/
theorem recognises_placeholders_iff {requests : List Request} {fields : List Field}
    (h : Request.buildAll requests = .ok fields) :
    (∀ r ∈ requests, ∃ groups left, Spec.Builds r.sender {} r.specs groups left ∧
      r.build = .ok groups.flatten ∧ (Spec.Recognised r.specs groups ↔ r.NamesSender)) ∧
    ∃ explicit, Request.buildAll (requests.map Request.explicit) = .ok explicit ∧
      ∀ ctx, ∃ out, (expandDefaults ctx fields).result = .ok out ∧
        (explicit.Sublist out ↔ ∀ r ∈ requests, r.NamesSender) ∧
        ((∀ r ∈ requests, ∀ text ∈ r.specs, Text.trim text ≠ defaultWord) →
          (out = fields ↔ ∀ r ∈ requests, r.NamesSender)) := by
  constructor
  · intro r member
    obtain ⟨own, built⟩ := Request.exists_build_of_mem h member
    obtain ⟨groups, left, builds, rfl⟩ := Request.builds_of_build built
    exact ⟨groups, left, builds, built, builds.recognised_iff⟩
  · refine ⟨_, Request.buildAll_explicit h, fun ctx => ⟨_, expandDefaults_eq ctx fields, ?_⟩⟩
    rw [Request.forall_namesSender_iff h]
    refine ⟨sublist_expandDefaults_iff (expandDefaults_eq ctx fields), ?_⟩
    intro noDefaults
    exact expandDefaults_eq_self_iff (expandDefaults_eq ctx fields)
      (Request.ne_placeholder_of_buildAll h noDefaults)

/-- A run whose ocean gets fields from the atmosphere every hour. -/
def oceanRun : RunContext where
  components := Table.ofList [
    (.atmosphere, { grid := "n96", resolution := some (192, 144) }),
    (.ocean, { grid := "orca1", resolution := some (360, 290) })]
  schedules := Table.ofList [(⟨.atmosphere, .ocean⟩, ⟨3600, none⟩)]
  runtime := 86400
  startDate := "19790101"

/-- One request for the defaults alone, and one that declares two fields around them. -/
def namedRequests : List Request :=
  [⟨{ origin := .unresolved }, ["default"]⟩,
   ⟨{ origin := .atmosphere }, ["ATM_TAUX;11;u;OCN;1;Bi;10", " default", "heat;5;t;OCN;;;"]⟩]

theorem recognises_placeholders_named :
    ∃ fields explicit out, Request.buildAll namedRequests = .ok fields ∧
      Request.buildAll (namedRequests.map Request.explicit) = .ok explicit ∧
      (expandDefaults oceanRun fields).result = .ok out ∧
      explicit.map Field.name = ["ATM_TAUX", "heat"] ∧ explicit.Sublist out := by
  have named : ∀ r ∈ namedRequests, r.NamesSender := by
    refine List.forall_mem_cons.2 ⟨.inr (by decide), List.forall_mem_cons.2 ⟨.inl ?_, nofun⟩⟩
    decide
  obtain ⟨fields, built⟩ : ∃ fields, Request.buildAll namedRequests = .ok fields := ⟨_, rfl⟩
  obtain ⟨-, explicit, declared, expands⟩ := recognises_placeholders_iff built
  obtain ⟨out, expanded, kept, -⟩ := expands oceanRun
  refine ⟨fields, explicit, out, built, declared, expanded, ?_, kept.2 named⟩
  obtain rfl := Except.ok.inj declared
  rfl

/-- A request that does not say who its sender is. -/
def strayRequest : Request := ⟨{ origin := .unresolved }, ["heat;5;t;OCN;1;Bi;10"]⟩

/-- The request can be read and built, but its field is lost and eight others take its place. -/
theorem recognises_placeholders_fails :
    (∀ complaint, Format.json.decode (Format.json.decoder complaint Request.ofDoc?)
      strayRequest.toJson.text.toUTF8 = .ok strayRequest) ∧
    (∀ text ∈ strayRequest.specs, Text.trim text ≠ defaultWord) ∧
    ∃ f out, Request.buildAll [strayRequest] = .ok [f] ∧ f.isPlaceholder = true ∧
      (expandDefaults oceanRun [f]).result = .ok out ∧ f ∉ out ∧ out.length = 8 := by
  have back (complaint : ByteArray → String) := Persists.request.decode complaint strayRequest
  refine ⟨back, by decide, _, _, rfl, rfl, rfl, ?_, rfl⟩
  decide

end Coupling
