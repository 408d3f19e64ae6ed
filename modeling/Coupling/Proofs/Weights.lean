import Coupling.Proofs.Declaration
import Mathlib.Data.Int.Interval

/-!
# Weights

The order of the output and the check that makes it strict:

* `orderByWeight` permutes the fields into ascending order (`orderByWeight_perm`,
  `orderByWeight_sorted`), and fields of one weight keep their order (`orderByWeight_stable`);
* `checkWeights_eq_ok_iff`: the check passes exactly when the weights of the retained fields are
  distinct, whatever the removed ones weigh;
* a list that passes is in strict order once it is ordered and its removed fields are dropped
  (`retained_strict`), so nothing is left of the order it came in (`retained_orderByWeight_eq`);
* distinct weights with room above them can be counted in 64 bits (`length_lt_of_distinct`).
-/

namespace Coupling

theorem weight_le_trans (a b c : Field) (h : decide (a.weight ≤ b.weight) = true)
    (h' : decide (b.weight ≤ c.weight) = true) : decide (a.weight ≤ c.weight) = true := by
  simp only [decide_eq_true_eq] at h h' ⊢
  exact Int64.le_trans h h'

theorem weight_le_total (a b : Field) :
    (decide (a.weight ≤ b.weight) || decide (b.weight ≤ a.weight)) = true := by
  simpa using Int64.le_total a.weight b.weight

theorem orderByWeight_perm (fields : List Field) : (orderByWeight fields).Perm fields :=
  List.mergeSort_perm fields _

theorem orderByWeight_congr {fields others : List Field} (h : fields.Perm others) :
    (orderByWeight fields).Perm (orderByWeight others) :=
  (orderByWeight_perm fields).trans (h.trans (orderByWeight_perm others).symm)

theorem orderByWeight_sorted (fields : List Field) :
    (orderByWeight fields).Pairwise fun a b => a.weight ≤ b.weight := by
  have sorted := List.pairwise_mergeSort weight_le_trans weight_le_total fields
  unfold orderByWeight
  simpa only [decide_eq_true_eq] using sorted

theorem orderByWeight_of_sorted {fields : List Field}
    (h : fields.Pairwise fun a b => a.weight ≤ b.weight) : orderByWeight fields = fields :=
  List.mergeSort_of_pairwise (by simpa only [decide_eq_true_eq] using h)

/-- Fields of one weight keep their order. -/
theorem orderByWeight_stable (fields : List Field) (w : Int64) :
    (orderByWeight fields).filter (·.weight = w) = fields.filter (·.weight = w) := by
  have level : (fields.filter (·.weight = w)).Pairwise
      fun a b => decide (a.weight ≤ b.weight) = true := by
    refine List.pairwise_of_forall_mem_list ?_
    intro a ha b hb
    simp only [List.mem_filter, decide_eq_true_eq] at ha hb
    simp [ha.2, hb.2]
  have kept := List.sublist_mergeSort weight_le_trans weight_le_total level List.filter_sublist
  have inside : (fields.filter (·.weight = w)).Sublist
      ((orderByWeight fields).filter (·.weight = w)) := by
    unfold orderByWeight
    simpa only [List.filter_filter, Bool.and_self] using kept.filter (·.weight = w)
  have size := ((orderByWeight_perm fields).filter (·.weight = w)).length_eq
  exact (inside.eq_of_length size.symm).symm

/-- The check passes when weights differ from each other and from those of the fields before. -/
theorem checkWeightsAfter_eq_ok_iff {seen rest : List Field} :
    checkWeightsAfter seen rest = .ok () ↔
      (rest.map Field.weight).Nodup ∧ ∀ f ∈ rest, ∀ g ∈ seen, g.weight ≠ f.weight := by
  induction rest generalizing seen with
  | nil => simp [checkWeightsAfter]
  | cons f rest ih =>
    cases found : seen.find? fun g => g.weight = f.weight with
    | some g =>
      have member := List.mem_of_find?_eq_some found
      have same : g.weight = f.weight := by simpa using List.find?_some found
      simp only [checkWeightsAfter, found, reduceCtorEq, false_iff, not_and]
      intro _ fresh
      exact fresh f List.mem_cons_self g member same
    | none =>
      have fresh : ∀ g ∈ seen, g.weight ≠ f.weight := by simpa using found
      simp only [checkWeightsAfter, found, ih, List.map_cons, List.nodup_cons, List.mem_map]
      constructor
      · rintro ⟨distinct, apart⟩
        refine ⟨⟨?_, distinct⟩, ?_⟩
        · rintro ⟨g, hg, same⟩
          exact apart g hg f List.mem_cons_self same.symm
        · intro g hg
          rcases List.mem_cons.1 hg with rfl | hg
          · exact fresh
          · exact fun s hs => apart g hg s (List.mem_cons_of_mem _ hs)
      · rintro ⟨⟨alone, distinct⟩, apart⟩
        refine ⟨distinct, ?_⟩
        intro g hg s hs
        rcases List.mem_cons.1 hs with rfl | hs
        · exact fun same => alone ⟨g, hg, same.symm⟩
        · exact apart g (List.mem_cons_of_mem _ hg) s hs

theorem checkWeights_eq_ok_iff {fields : List Field} :
    checkWeights fields = .ok () ↔ ((retained fields).map Field.weight).Nodup := by
  simp [checkWeights, checkWeightsAfter_eq_ok_iff]

theorem retained_perm {fields others : List Field} (h : fields.Perm others) :
    (retained fields).Perm (retained others) :=
  h.filter _

theorem retained_strict {fields : List Field}
    (distinct : ((retained fields).map Field.weight).Nodup) :
    (retained (orderByWeight fields)).Pairwise fun a b => a.weight < b.weight := by
  have sorted : (retained (orderByWeight fields)).Pairwise fun a b => a.weight ≤ b.weight :=
    (orderByWeight_sorted fields).filter _
  have apart : (retained (orderByWeight fields)).Pairwise fun a b => a.weight ≠ b.weight := by
    have perm := (retained_perm (orderByWeight_perm fields)).map Field.weight
    exact List.pairwise_map.1 (perm.nodup_iff.2 distinct)
  refine (sorted.and apart).imp ?_
  rintro a b ⟨le, ne⟩
  exact Int64.lt_iff_le_and_ne.2 ⟨le, ne⟩

/-- Where the retained weights are distinct, ordering forgets the order in which fields came. -/
theorem retained_orderByWeight_eq {fields others : List Field} (h : fields.Perm others)
    (distinct : ((retained fields).map Field.weight).Nodup) :
    retained (orderByWeight fields) = retained (orderByWeight others) := by
  have distinct' : ((retained others).map Field.weight).Nodup :=
    ((retained_perm h).map Field.weight).nodup_iff.1 distinct
  have perm : (retained (orderByWeight fields)).Perm (retained (orderByWeight others)) :=
    retained_perm (orderByWeight_congr h)
  refine perm.eq_of_pairwise ?_ (retained_strict distinct) (retained_strict distinct')
  intro a b _ _ below above
  exact (Int64.lt_irrefl (Int64.lt_trans below above)).elim

/-- The check does not see the order of the fields, and where it passes nobody sees it in the
ordered list either. -/
theorem checkWeights_agree {fields others : List Field} (h : fields.Perm others) :
    Agree (fun _ _ => retained (orderByWeight fields) = retained (orderByWeight others))
      (checkWeights fields) (checkWeights others) := by
  have same : checkWeights fields = .ok () ↔ checkWeights others = .ok () := by
    rw [checkWeights_eq_ok_iff, checkWeights_eq_ok_iff]
    exact ((retained_perm h).map Field.weight).nodup_iff
  rw [Agree.iff_ok]
  refine ⟨⟨fun ⟨_, ok⟩ => ⟨_, same.1 ok⟩, fun ⟨_, ok⟩ => ⟨_, same.2 ok⟩⟩, ?_⟩
  intro _ _ passed _
  exact retained_orderByWeight_eq h (checkWeights_eq_ok_iff.1 passed)

/-- Position for position, ordering gives the same weights whatever order the fields came in. -/
theorem orderByWeight_weights_eq {fields others : List Field} (h : fields.Perm others) :
    (orderByWeight fields).map Field.weight = (orderByWeight others).map Field.weight := by
  have sorted (fields : List Field) :
      ((orderByWeight fields).map Field.weight).Pairwise fun v w => v ≤ w :=
    List.pairwise_map.2 (orderByWeight_sorted fields)
  refine ((orderByWeight_congr h).map Field.weight).eq_of_pairwise ?_ (sorted fields) (sorted others)
  intro v w _ _ le ge
  exact Int64.le_antisymm le ge

/-- Distinct weights with room above them are fewer than the numbers of 64 bits. -/
theorem length_lt_of_distinct {fields : List Field} (distinct : (fields.map Field.weight).Nodup)
    (room : ∀ f ∈ fields, f.HasRoom) : fields.length < UInt64.size := by
  let numbers := (fields.map Field.weight).map Int64.toInt
  have nodup : numbers.Nodup := distinct.map fun _ _ => Int64.toInt_inj.1
  have inside : numbers.toFinset ⊆ Finset.Ico Int64.minValue.toInt Int64.maxValue.toInt := by
    intro n hn
    simp only [numbers, List.mem_toFinset, List.mem_map] at hn
    obtain ⟨_, ⟨f, hf, rfl⟩, rfl⟩ := hn
    have above : f.weight.toInt + 2 ≤ Int64.maxValue.toInt := room f hf
    have below := f.weight.minValue_le_toInt
    exact Finset.mem_Ico.2 ⟨below, by omega⟩
  have count := Finset.card_le_card inside
  rw [List.toFinset_card_of_nodup nodup, List.length_map, List.length_map, Int.card_Ico] at count
  have size : (Int64.maxValue.toInt - Int64.minValue.toInt).toNat < UInt64.size := by decide
  omega

end Coupling
