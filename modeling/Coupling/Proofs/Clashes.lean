import Coupling.Proofs.Weights

/-!
# Clashing weights

Which fields the check of the weights reports:

* `ClashAt`: two written fields at different places have one weight. Weights are distinct exactly
  where there is no clash (`nodup_iff_no_clash`);
* `FirstClash`: the clash whose later field comes first. Its earlier field is the only one of that
  weight before the later one (`FirstClash.unique`);
* `checkWeights_eq_error_iff`: the check reports the fields of the first clash;
* `checkWeights_first_clash` puts this together.
-/

namespace Coupling

/-- Two written fields of one weight, at the places `i` and `j`. -/
structure ClashAt (fields : List Field) (i j : Nat) (f g : Field) : Prop where
  order : i < j
  earlier : fields[i]? = some f
  later : fields[j]? = some g
  earlierWritten : f.isRemoved = false
  laterWritten : g.isRemoved = false
  weight : f.weight = g.weight

/-- No clash ends before the one at `i` and `j`, and its later field clashes with `f` only. -/
structure FirstClash (fields : List Field) (i j : Nat) (f g : Field) : Prop where
  clash : ClashAt fields i j f g
  least : ∀ i' j' f' g', ClashAt fields i' j' f' g' → j ≤ j'
  unique : ∀ i' f' g', ClashAt fields i' j f' g' → i' = i

section
variable {fields before after : List Field} {i j : Nat} {f g : Field} {e : Error}

theorem nodup_iff_no_clash : ((retained fields).map Field.weight).Nodup ↔
    ∀ i j f g, ¬ ClashAt fields i j f g := by
  rw [List.Nodup, List.pairwise_map, retained, List.pairwise_filter, List.pairwise_iff_getElem]
  constructor
  · intro apart i j f g h
    obtain ⟨hi, rfl⟩ := List.getElem?_eq_some_iff.1 h.earlier
    obtain ⟨hj, rfl⟩ := List.getElem?_eq_some_iff.1 h.later
    exact apart i j hi hj h.order (by simp [h.earlierWritten]) (by simp [h.laterWritten]) h.weight
  · intro none_ i j hi hj order written written' same
    exact none_ i j _ _ ⟨order, List.getElem?_eq_getElem hi, List.getElem?_eq_getElem hj,
      by simpa using written, by simpa using written', same⟩

/-- What clashes before a place clashes in the list up to it. -/
theorem ClashAt.of_append (h : ClashAt (before ++ after) i j f g) (inside : j < before.length) :
    ClashAt before i j f g := { h with
  earlier := (List.getElem?_append_left (h.order.trans inside)).symm.trans h.earlier
  later := (List.getElem?_append_left inside).symm.trans h.later }

/-- Two clashes of one later field would make the earlier fields clash. -/
theorem ClashAt.firstClash (h : ClashAt fields i j f g)
    (least : ∀ i' j' f' g', ClashAt fields i' j' f' g' → j ≤ j') :
    FirstClash fields i j f g := by
  refine ⟨h, least, fun i' f' g' h' => ?_⟩
  obtain rfl := Option.some.inj (h.later.symm.trans h'.later)
  have same := h.weight.trans h'.weight.symm
  rcases Nat.lt_trichotomy i i' with below | rfl | above
  · have sooner := least i i' f f' ⟨below, h.earlier, h'.earlier, h.earlierWritten,
      h'.earlierWritten, same⟩
    exact absurd sooner (Nat.not_le.2 h'.order)
  · rfl
  · have sooner := least i' i f' f ⟨above, h'.earlier, h.earlier, h'.earlierWritten,
      h.earlierWritten, same.symm⟩
    exact absurd sooner (Nat.not_le.2 h.order)

/-- A field whose weight is that of a written field before it, with distinct weights up to there,
ends the first clash. -/
theorem exists_firstClash (distinct : ((retained before).map Field.weight).Nodup)
    (member : f ∈ retained before) (written : g.isRemoved = false) (same : f.weight = g.weight)
    (after : List Field) : ∃ i, FirstClash (before ++ g :: after) i before.length f g := by
  obtain ⟨member, kept⟩ := List.mem_filter.1 member
  obtain ⟨i, hi, rfl⟩ := List.mem_iff_getElem.1 member
  have clash : ClashAt (before ++ g :: after) i before.length before[i] g := ⟨hi,
    (List.getElem?_append_left hi).trans (List.getElem?_eq_getElem hi), by simp,
    by simpa using kept, written, same⟩
  refine ⟨i, clash.firstClash fun i' j' f' g' h => Nat.le_of_not_lt fun inside => ?_⟩
  exact nodup_iff_no_clash.1 distinct i' j' f' g' (h.of_append inside)

/-- There is one first clash at most. -/
theorem FirstClash.eq {i' j' : Nat} {f' g' : Field} (h : FirstClash fields i j f g)
    (h' : FirstClash fields i' j' f' g') : f = f' ∧ g = g' := by
  obtain rfl : j = j' := Nat.le_antisymm (h.least _ _ _ _ h'.clash) (h'.least _ _ _ _ h.clash)
  obtain rfl : i' = i := h.unique _ _ _ h'.clash
  exact ⟨Option.some.inj (h.clash.earlier.symm.trans h'.clash.earlier),
    Option.some.inj (h.clash.later.symm.trans h'.clash.later)⟩

/-! ## The check -/

/-- The check stops at a field that has the weight of one before it, and the weights up to there
are distinct. -/
theorem stop_of_checkWeightsAfter {seen rest : List Field}
    (distinct : (seen.map Field.weight).Nodup) (h : checkWeightsAfter seen rest = .error e) :
    ∃ before g after f, rest = before ++ g :: after ∧
      ((before.reverse ++ seen).map Field.weight).Nodup ∧ f ∈ before.reverse ++ seen ∧
      f.weight = g.weight ∧ e = clash f g := by
  induction rest generalizing seen with
  | nil => cases h
  | cons next rest ih =>
    unfold checkWeightsAfter at h
    cases found : seen.find? fun f => f.weight = next.weight with
    | some previous =>
      have member := List.mem_of_find?_eq_some found
      have same : previous.weight = next.weight := by simpa using List.find?_some found
      rw [found] at h
      exact ⟨[], next, rest, previous, rfl, distinct, member, same, (Except.error.inj h).symm⟩
    | none =>
      have fresh : ∀ f ∈ seen, f.weight ≠ next.weight := by simpa using found
      have distinct' : ((next :: seen).map Field.weight).Nodup := by
        rw [List.map_cons, List.nodup_cons, List.mem_map]
        refine ⟨?_, distinct⟩
        rintro ⟨f, member, same⟩
        exact fresh f member same
      rw [found] at h
      obtain ⟨before, g, after, f, rfl, apart, member, same, rfl⟩ := ih distinct' h
      exact ⟨next :: before, g, after, f, rfl, by simpa using apart, by simpa using member, same,
        rfl⟩

theorem exists_of_retained_eq (h : retained fields = before ++ g :: after) : ∃ first rest,
    fields = first ++ g :: rest ∧ retained first = before ∧ g.isRemoved = false := by
  obtain ⟨first, others, rfl, rfl, kept⟩ := List.filter_eq_append_iff.1 h
  obtain ⟨removed, rest, rfl, skipped, written, -⟩ := List.filter_eq_cons_iff.1 kept
  have none_ : retained removed = [] := List.filter_eq_nil_iff.2 skipped
  refine ⟨first ++ removed, rest, by simp, ?_, by simpa using written⟩
  rw [retained, List.filter_append]
  exact (congrArg (retained first ++ ·) none_).trans (List.append_nil _)

theorem firstClash_of_checkWeights (h : checkWeights fields = .error e) :
    ∃ i j f g, FirstClash fields i j f g ∧ e = clash f g := by
  have start : (([] : List Field).map Field.weight).Nodup := List.nodup_nil
  obtain ⟨before, g, _, f, parts, distinct, member, same, rfl⟩ :=
    stop_of_checkWeightsAfter start h
  obtain ⟨first, rest, rfl, rfl, written⟩ := exists_of_retained_eq parts
  rw [List.append_nil, List.map_reverse, List.nodup_reverse] at distinct
  rw [List.append_nil, List.mem_reverse] at member
  obtain ⟨i, found⟩ := exists_firstClash distinct member written same rest
  exact ⟨i, _, f, g, found, rfl⟩

theorem checkWeights_eq_error_iff : checkWeights fields = .error e ↔
    ∃ i j f g, FirstClash fields i j f g ∧ e = clash f g := by
  refine ⟨firstClash_of_checkWeights, ?_⟩
  rintro ⟨i, j, f, g, first, rfl⟩
  cases outcome : checkWeights fields with
  | ok =>
    have apart := nodup_iff_no_clash.1 (checkWeights_eq_ok_iff.1 outcome)
    exact absurd first.clash (apart i j f g)
  | error e =>
    obtain ⟨i', j', f', g', first', rfl⟩ := firstClash_of_checkWeights outcome
    obtain ⟨rfl, rfl⟩ := first.eq first'
    rfl

end

/-- A field as reports name it. -/
def Field.shown (f : Field) : String := s!"{f.name} ({f.direction})"

/-- **The first clash is reported.** The check passes exactly when no two written fields have one
weight, so neither their order nor the removed fields matter. It fails with the first clash, and
says which weight it is and, in their order, which two fields have it. -/
theorem checkWeights_first_clash (fields : List Field) :
    (checkWeights fields = .ok () ↔ ((retained fields).map Field.weight).Nodup) ∧
    (∀ others, (retained others).Perm (retained fields) →
      (checkWeights others = .ok () ↔ checkWeights fields = .ok ())) ∧
    ∀ e, checkWeights fields = .error e ↔ ∃ i j f g, FirstClash fields i j f g ∧ e = {
      family := .consistency
      code := "DUPLICATE_WEIGHTING"
      message := s!"weight {g.weight.toInt} is used by both {f.shown} and {g.shown}"
      context := Table.ofList [("weight", s!"{g.weight.toInt}")]
      hint := none } := by
  refine ⟨checkWeights_eq_ok_iff, fun others same => ?_, fun e => checkWeights_eq_error_iff⟩
  rw [checkWeights_eq_ok_iff, checkWeights_eq_ok_iff]
  exact (same.map Field.weight).nodup_iff

/-- A field that is sent to the ocean. -/
def oceanField (name : String) (origin : Component) (mapping : Mapping) (weight : Int64) : Field :=
  { Field.placeholder with
    name := name, origin := origin, dest := .ocean, mapping := mapping, weight := weight }

def runoff : Field := oceanField "runoff" .river .bilinear 800

def flux : Field := oceanField "flux" .atmosphere .nearest 800

/-- A removed field has the weight of the runoff, the flux has it too, and two others clash. -/
def clashingFields : List Field :=
  [runoff, oceanField "heat" .atmosphere .remove 800, oceanField "salt" .river .bilinear 4, flux,
   oceanField "melt" .river .bilinear 4]

/-- The runoff and the flux clash before the other two do, and no order of the fields helps. -/
theorem checkWeights_first_clash_runoff :
    (∃ e, checkWeights clashingFields = .error e ∧
      e.message = "weight 800 is used by both runoff (RIV2OCN) and flux (ATM2OCN)" ∧
      e.context.entries = [("weight", "800")]) ∧
    checkWeights (retained clashingFields).reverse ≠ .ok () := by
  obtain ⟨distinct, alike, fails⟩ := checkWeights_first_clash clashingFields
  have unequal : checkWeights clashingFields ≠ .ok () := by
    rw [Ne, distinct]
    decide
  constructor
  · have apart : ((retained (clashingFields.take 3)).map Field.weight).Nodup := by decide
    have member : runoff ∈ retained (clashingFields.take 3) := by decide
    have same : runoff.weight = flux.weight := rfl
    obtain ⟨i, first⟩ : ∃ i, FirstClash clashingFields i 3 runoff flux :=
      exists_firstClash apart member rfl same (clashingFields.drop 4)
    exact ⟨_, (fails _).2 ⟨i, 3, _, _, first, rfl⟩, by decide, by decide⟩
  · rw [Ne, alike _ (by decide)]
    exact unequal

end Coupling
