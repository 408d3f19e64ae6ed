import Coupling.Proofs.Grammar

/-!
# What a list of specifications declares

The fields that are built, told from the texts alone:

* `Spec.lastRecord`: the record that a further specification goes on from, the last one that stands
  before it, placeholders apart;
* `Spec.FansOut`: one field for each destination of a text. They differ only in destination and
  weight, and what the text leaves empty is taken from the record before;
* `Spec.Carries`: what is inherited is what that record says, and `Carries.step` keeps this from
  one text to the next;
* `Spec.build_fans_out`: so each text has its own group among the fields, and the placeholders
  change nothing in the other groups.
-/

namespace Coupling

namespace Spec

/-- The last record before a specification: the last one of the last text that declares its own. -/
def lastRecord (done : List (String × List Field)) : Option Field :=
  (done.filter fun entry => Text.trim entry.1 ≠ defaultWord).getLast?.bind fun entry =>
    entry.2.getLast?

/-- The field says what its text and its sender say, whatever its destination and its weight. -/
structure FieldOf (sender : Sender) (text : String) (f : Field) : Prop where
  name : f.name = piece text 0
  number : Text.SpellsInt64 (piece text 1) f.number
  grid : SpellsGrid (piece text 2) f.grid
  levels : Optional SpellsLevels (piece text 4) f.levels
  period : Optional Text.SpellsUInt32 (piece text 7) f.period
  origin : f.origin = sender.origin
  hybrid : f.hybrid = sender.hybrid
  selector : f.selector = sender.selector

/-- The fields of one text, after `previous`. -/
structure FansOut (sender : Sender) (previous : Option Field) (text : String)
    (group : List Field) : Prop where
  each : ∀ f ∈ group, FieldOf sender text f
  alike : ∀ f ∈ group, ∀ g ∈ group, { f with dest := g.dest, weight := g.weight } = g
  dests : List.Forall₂ (SpellsDest sender.origin) (Text.splitAt '&' (piece text 3))
    (group.map Field.dest)
  mapping : ∀ f ∈ group,
    if piece text 5 = "" then
      ∃ last, previous = some last ∧ f.mapping = last.mapping ∧ f.order = last.order
    else SpellsMapping (piece text 5) ⟨f.mapping, f.order⟩
  weights : ∃ first : Int64,
    (if piece text 6 = "" then
      ∃ last, previous = some last ∧ first.toInt = last.weight.toInt + 2
    else Text.SpellsInt64 (piece text 6) first) ∧
    ∀ (j : Nat) (f : Field), group[j]? = some f → f.weight.toInt = first.toInt + 2 * j

section
variable {spec : Spec} {sender : Sender} {inherited next left : Inherited} {text : String}
  {texts : List String} {f : Field} {group : List Field} {groups : List (List Field)}

theorem getElem?_fan {j : Nat} (h : (spec.fan sender)[j]? = some f) :
    j < spec.dests.length ∧
      ∃ dest ∈ spec.dests, f = spec.field sender dest (raised spec.weight j) := by
  rw [fan, List.getElem?_mapIdx] at h
  obtain ⟨dest, found, rfl⟩ := Option.map_eq_some_iff.1 h
  exact ⟨(List.getElem?_eq_some_iff.1 found).1, dest, List.mem_of_getElem? found, rfl⟩

theorem mem_fan (h : f ∈ spec.fan sender) :
    ∃ dest ∈ spec.dests, ∃ weight, f = spec.field sender dest weight := by
  obtain ⟨j, found⟩ := List.mem_iff_getElem?.1 h
  obtain ⟨-, dest, member, rfl⟩ := getElem?_fan found
  exact ⟨dest, member, _, rfl⟩

theorem map_dest_fan : (spec.fan sender).map Field.dest = spec.dests := by
  refine List.ext_getElem? fun j => ?_
  rw [List.getElem?_map, fan, List.getElem?_mapIdx, Option.map_map]
  exact congrFun Option.map_id _

/-- The last field of a specification tells what it leaves to the next. -/
theorem getLast?_fan (sender : Sender) (filled : spec.dests ≠ []) (room : spec.HasRoom) :
    ∃ f, (spec.fan sender).getLast? = some f ∧ f.HasRoom ∧
      spec.leaves = ⟨some ⟨f.mapping, f.order⟩, some (f.weight + 2)⟩ := by
  obtain ⟨front, dest, split⟩ := List.eq_nil_or_concat spec.dests |>.resolve_left filled
  have count : spec.dests.length = front.length + 1 := by rw [split]; simp
  have last : (spec.fan sender).getLast? =
      some (spec.field sender dest (raised spec.weight front.length)) := by
    rw [fan, split]
    simp
  unfold HasRoom at room
  refine ⟨_, last, ?_, ?_⟩
  · have below : (raised spec.weight front.length).toInt = spec.weight.toInt + 2 * front.length :=
      toInt_raised (by omega)
    show (raised spec.weight front.length).toInt + 2 ≤ Int64.maxValue.toInt
    omega
  · rw [leaves, count, ← raised_add_two]
    rfl

theorem Spells.dests_ne_nil (h : Spells sender.origin inherited text spec) : spec.dests ≠ [] := by
  intro none_
  have dests := h.dests
  rw [none_, List.forall₂_nil_right_iff] at dests
  exact Text.splitAt_ne_nil _ dests

/-- What is inherited is what the last record leaves, and there is room above that record. -/
structure Carries (done : List (String × List Field)) (inherited : Inherited) : Prop where
  mapping : inherited.mapping = (lastRecord done).map fun f => ⟨f.mapping, f.order⟩
  weight : inherited.weight = (lastRecord done).map fun f => f.weight + 2
  room : ∀ f, lastRecord done = some f → f.HasRoom

theorem lastRecord_nil : lastRecord [] = none := rfl

theorem Carries.start : Carries [] {} where
  mapping := by rw [lastRecord_nil]; rfl
  weight := by rw [lastRecord_nil]; rfl
  room f found := absurd (lastRecord_nil.symm.trans found) nofun

variable {done : List (String × List Field)}

theorem Carries.step (h : Carries done inherited) (adds : Adds sender inherited text group next) :
    Carries (done ++ [(text, group)]) next := by
  cases adds with
  | placeholder word =>
    have same : lastRecord (done ++ [(text, [.placeholder])]) = lastRecord done := by
      simp [lastRecord, word]
    exact ⟨same ▸ h.mapping, same ▸ h.weight, same ▸ h.room⟩
  | @fan spec other spelled room =>
    obtain ⟨f, last, above, leaves⟩ := getLast?_fan sender spelled.dests_ne_nil room
    have record : lastRecord (done ++ [(text, spec.fan sender)]) = some f := by
      simp [lastRecord, other, last]
    rw [leaves]
    refine ⟨by rw [record]; rfl, by rw [record]; rfl, ?_⟩
    intro g found
    obtain rfl : f = g := Option.some.inj (record.symm.trans found)
    exact above

theorem Carries.fansOut (h : Carries done inherited)
    (spelled : Spells sender.origin inherited text spec) (room : spec.HasRoom) :
    FansOut sender (lastRecord done) text (spec.fan sender) where
  each f member := by
    obtain ⟨dest, -, weight, rfl⟩ := mem_fan member
    exact ⟨spelled.name.symm, spelled.number, spelled.grid, spelled.levels, spelled.period, rfl,
      rfl, rfl⟩
  alike f member g member' := by
    obtain ⟨dest, -, weight, rfl⟩ := mem_fan member
    obtain ⟨dest', -, weight', rfl⟩ := mem_fan member'
    rfl
  dests := by
    rw [map_dest_fan]
    exact spelled.dests
  mapping f member := by
    obtain ⟨dest, -, weight, rfl⟩ := mem_fan member
    have chosen := spelled.mapping
    unfold Chosen at chosen
    split
    · next blank =>
      rw [if_pos blank, h.mapping] at chosen
      obtain ⟨last, record, same⟩ := Option.map_eq_some_iff.1 chosen
      obtain ⟨mapping, order⟩ := MappingChoice.mk.inj same
      exact ⟨last, record, mapping.symm, order.symm⟩
    · next written =>
      rw [if_neg written] at chosen
      exact chosen
  weights := by
    refine ⟨spec.weight, ?_, ?_⟩
    · have chosen := spelled.weight
      unfold Chosen at chosen
      split
      · next blank =>
        rw [if_pos blank, h.weight] at chosen
        obtain ⟨last, record, same⟩ := Option.map_eq_some_iff.1 chosen
        exact ⟨last, record, same ▸ toInt_add_two (h.room last record)⟩
      · next written =>
        rw [if_neg written] at chosen
        exact chosen
    · intro j f found
      obtain ⟨bound, dest, -, rfl⟩ := getElem?_fan found
      unfold HasRoom at room
      exact toInt_raised (by omega)

/-- Each text has its group, after what the texts before it and `done` added. -/
theorem Builds.group_at (h : Builds sender inherited texts groups left)
    (carries : Carries done inherited) {i : Nat} (written : texts[i]? = some text)
    (added : groups[i]? = some group) :
    (Text.trim text = defaultWord → group = [.placeholder]) ∧
      (Text.trim text ≠ defaultWord → FansOut sender
        (lastRecord (done ++ (texts.zip groups).take i)) (Text.trim text) group) := by
  -- each step moves its text from the list that is left to what is done
  induction h generalizing done i with
  | nil => cases written
  | cons adds rest ih =>
    cases i with
    | zero =>
      obtain rfl := Option.some.inj written
      obtain rfl := Option.some.inj added
      rw [List.take_zero, List.append_nil]
      cases adds with
      | placeholder word => exact ⟨fun _ => rfl, fun other => absurd word other⟩
      | fan other spelled room =>
        exact ⟨fun word => absurd word other, fun _ => carries.fansOut spelled room⟩
    | succ i =>
      have later := ih (carries.step adds) written added
      rwa [List.append_assoc] at later

theorem Builds.length_eq (h : Builds sender inherited texts groups left) :
    groups.length = texts.length := by
  induction h with
  | nil => rfl
  | cons _ _ ih => rw [List.length_cons, List.length_cons, ih]

theorem Spells.spellsDest (h : Spells sender.origin inherited text spec) :
    ∀ dest ∈ spec.dests, ∃ raw, SpellsDest sender.origin raw dest := by
  have each := h.dests.flip.imp fun _ raw spelled => And.intro (Exists.intro raw spelled) spelled
  exact ((List.forall₂_and_left _ _).1 each).1

theorem Spells.known (h : Spells sender.origin inherited text spec) :
    ∀ dest ∈ spec.dests, dest ≠ .unresolved := by
  intro dest listed
  obtain ⟨_, spelled⟩ := h.spellsDest dest listed
  exact spelled.known

/-- No field of a specification is the placeholder, whoever sends it. -/
theorem Spells.filter_fan (h : Spells sender.origin inherited text spec) :
    (spec.fan sender).filter (· ≠ .placeholder) = spec.fan sender := by
  refine List.filter_eq_self.2 fun f member => ?_
  obtain ⟨dest, listed, weight, rfl⟩ := mem_fan member
  refine decide_eq_true fun same => ?_
  exact h.known dest listed (congrArg Field.dest same)

/-- The words for the defaults can be struck out, and then only the placeholders are missing. -/
theorem Builds.without_default (h : Builds sender inherited texts groups left) :
    ∃ kept, Builds sender inherited
        (texts.filter fun text => Text.trim text ≠ defaultWord) kept left ∧
      kept.flatten = groups.flatten.filter (· ≠ .placeholder) := by
  induction h with
  | nil => exact ⟨[], .nil, rfl⟩
  | cons adds rest ih =>
    obtain ⟨kept, builds, same⟩ := ih
    cases adds with
    | placeholder word =>
      refine ⟨kept, ?_, ?_⟩
      · rwa [List.filter_cons_of_neg (by simp [word])]
      · rw [same]
        rfl
    | @fan spec other spelled room =>
      refine ⟨spec.fan sender :: kept, ?_, ?_⟩
      · rw [List.filter_cons_of_pos (by simp [other])]
        exact .cons (.fan other spelled room) builds
      · rw [List.flatten_cons, List.flatten_cons, List.filter_append, spelled.filter_fan, same]

end

/-- **Specifications fan out.** The fields that are built are one group for each text, in their
order: a placeholder for the word that stands for the defaults, and otherwise one field for each
destination, two apart in weight. What a text leaves empty it takes from the last record of the
texts before it that are not that word, and without that word all other fields are the same. -/
theorem build_fans_out {sender : Sender} {texts : List String} {fields : List Field}
    (h : build sender texts = .ok fields) :
    (∃ groups : List (List Field), groups.length = texts.length ∧ fields = groups.flatten ∧
      ∀ i text group, texts[i]? = some text → groups[i]? = some group →
        (Text.trim text = defaultWord → group = [.placeholder]) ∧
        (Text.trim text ≠ defaultWord →
          FansOut sender (lastRecord ((texts.zip groups).take i)) (Text.trim text) group)) ∧
    build sender (texts.filter fun text => Text.trim text ≠ defaultWord) =
      .ok (fields.filter (· ≠ .placeholder)) := by
  obtain ⟨groups, left, builds, rfl⟩ := buildFrom_eq_ok_iff.1 h
  constructor
  · refine ⟨groups, builds.length_eq, rfl, ?_⟩
    intro i text group written added
    exact builds.group_at .start written added
  · obtain ⟨kept, builds, same⟩ := builds.without_default
    exact buildFrom_eq_ok_iff.2 ⟨kept, left, builds, same.symm⟩

/-- Two destinations with a mapping of second order, which a mapping without an order replaces. -/
def heatTexts : List String :=
  ["default", " heat;5;t;OCN & riv;; CF & 2 ;7", "default", "salt; +6; T; OCN; 3; NN; ",
   "flux;-1;u;riv;;;;3600"]

/-- Destination, mapping, order and weight of the fields that these texts declare. -/
def heatFields : List (Component × Mapping × Option UInt8 × Int64) :=
  [(.unresolved, .remove, none, 0), (.ocean, .conserveFraction, some 2, 7),
   (.river, .conserveFraction, some 2, 9), (.unresolved, .remove, none, 0),
   (.ocean, .nearest, none, 11), (.river, .nearest, none, 13)]

theorem build_fans_out_heat :
    ∃ fields, build { origin := .atmosphere } heatTexts = .ok fields ∧
      fields.map (fun f => (f.dest, f.mapping, f.order, f.weight)) = heatFields ∧
      (∃ groups : List (List Field), groups.length = heatTexts.length ∧
        fields = groups.flatten) ∧
      build { origin := .atmosphere }
          (heatTexts.filter fun text => Text.trim text ≠ defaultWord) =
        .ok (fields.filter (· ≠ .placeholder)) := by
  have built : ∃ fields, build { origin := .atmosphere } heatTexts = .ok fields ∧
      fields.map (fun f => (f.dest, f.mapping, f.order, f.weight)) = heatFields := ⟨_, rfl, rfl⟩
  obtain ⟨fields, built, shown⟩ := built
  obtain ⟨⟨groups, count, all, -⟩, without⟩ := build_fans_out built
  exact ⟨fields, built, shown, ⟨groups, count, all⟩, without⟩

end Spec

end Coupling
