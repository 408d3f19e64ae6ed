import Coupling.Compiled
import Coupling.Proofs.Outcome

/-!
# Declared fields

What a declaration can yield, whatever its texts say:

* `Spec.Declares sender texts f`: `f` is the placeholder, which only the word `default` puts
  there, or a field of a specification that one of the texts reads as, with a weight that has room
  for the next one;
* `Spec.declares_of_build`: every field that is built is declared in this sense, and so every field
  of a list of requests is `Declared` (`Request.declared_of_buildAll`);
* `Spec.exists_piecesOf`: what reads as a specification has a piece for each part of it;
* `Field.Declared.hasRoom`, `Field.Declared.levels`, `Field.Declared.grid`: its weight has room
  above it, its number of levels is positive where one is given, and its grid is a letter;
* `Direction.resolved_of_defaultFields`: so the usual fields of a direction are not placeholders.
-/

namespace Coupling

/-- Another field can stand two above the weight of `f`. -/
def Field.HasRoom (f : Field) : Prop := f.weight.toInt + 2 ≤ Int64.maxValue.toInt

namespace Spec

theorem nextWeight_eq_ok_iff {weight next : Int64} :
    nextWeight weight = .ok next ↔
      weight.toInt + 2 ≤ Int64.maxValue.toInt ∧ next = weight + 2 := by
  unfold nextWeight
  by_cases room : weight.toInt + 2 ≤ Int64.maxValue.toInt
  · simp only [room, if_true, Except.ok.injEq, true_and]
    exact eq_comm
  · simp [room]

/-- The fields that texts can declare for a sender. -/
inductive Declares (sender : Sender) (texts : List String) : Field → Prop
  | placeholder (written : ∃ text ∈ texts, Text.trim text = defaultWord) :
      Declares sender texts .placeholder
  | placed {spec : Spec} {dest : Component} {weight : Int64}
      (written : ∃ text ∈ texts, ∃ inherited,
        read sender.origin inherited (Text.trim text) = .ok spec)
      (listed : dest ∈ spec.dests) (room : (spec.field sender dest weight).HasRoom) :
      Declares sender texts (spec.field sender dest weight)

theorem Declares.cons {sender : Sender} {texts : List String} {f : Field} (text : String)
    (h : Declares sender texts f) : Declares sender (text :: texts) f := by
  cases h with
  | placeholder written =>
    obtain ⟨word, member, trimmed⟩ := written
    exact .placeholder ⟨word, List.mem_cons_of_mem _ member, trimmed⟩
  | placed written listed room =>
    obtain ⟨word, member, spec⟩ := written
    exact .placed ⟨word, List.mem_cons_of_mem _ member, spec⟩ listed room

/-- A field is placed for each destination, and each has room above it. -/
theorem forall_mem_place {make : Component → Int64 → Field} {P : Field → Prop}
    {dests : List Component} {weight last : Int64} {fields : List Field}
    (h : place make dests weight = .ok (fields, last))
    (each : ∀ dest ∈ dests, ∀ weight : Int64, weight.toInt + 2 ≤ Int64.maxValue.toInt →
      P (make dest weight)) : ∀ f ∈ fields, P f := by
  induction dests generalizing weight fields with
  | nil =>
    simp only [place, Except.ok.injEq, Prod.mk.injEq] at h
    simp [← h.1]
  | cons dest dests ih =>
    simp only [place, bind_eq_ok, pure_eq_ok, nextWeight_eq_ok_iff, Prod.mk.injEq] at h
    obtain ⟨next, ⟨room, rfl⟩, ⟨rest, end_⟩, placed, rfl, rfl⟩ := h
    intro f hf
    rcases List.mem_cons.1 hf with rfl | hf
    · exact each dest List.mem_cons_self weight room
    · exact ih placed (fun d hd => each d (List.mem_cons_of_mem _ hd)) f hf

theorem declares_of_expand {sender : Sender} {inherited left : Inherited} {text : String}
    {texts : List String} {fields : List Field} (member : text ∈ texts)
    (h : expand sender inherited (Text.trim text) = .ok (fields, left)) :
    ∀ f ∈ fields, Declares sender texts f := by
  simp only [expand, bind_eq_ok, pure_eq_ok, Prod.mk.injEq] at h
  obtain ⟨spec, reads, ⟨fields, next⟩, placed, rfl, -⟩ := h
  exact forall_mem_place placed fun _ listed _ room =>
    .placed ⟨text, member, inherited, reads⟩ listed room

/-- What is inherited decides which fields a text declares, but not what kind they are. -/
theorem declares_of_buildFrom {sender : Sender} {inherited : Inherited} {texts : List String}
    {fields : List Field} (h : buildFrom sender inherited texts = .ok fields) :
    ∀ f ∈ fields, Declares sender texts f := by
  induction texts generalizing inherited fields with
  | nil =>
    simp only [buildFrom, Except.ok.injEq] at h
    simp [← h]
  | cons text texts ih =>
    by_cases word : Text.trim text = defaultWord
    · simp only [buildFrom, word, if_true, bind_eq_ok, pure_eq_ok] at h
      obtain ⟨rest, built, rfl⟩ := h
      intro f hf
      rcases List.mem_cons.1 hf with rfl | hf
      · exact .placeholder ⟨text, List.mem_cons_self, word⟩
      · exact (ih built f hf).cons text
    · simp only [buildFrom, word, if_false, bind_eq_ok, noting_eq_ok, pure_eq_ok] at h
      obtain ⟨⟨first, left⟩, expanded, rest, built, rfl⟩ := h
      intro f hf
      rcases List.mem_append.1 hf with hf | hf
      · exact declares_of_expand List.mem_cons_self expanded f hf
      · exact (ih built f hf).cons text

theorem declares_of_build {sender : Sender} {texts : List String} {fields : List Field}
    (h : build sender texts = .ok fields) : ∀ f ∈ fields, Declares sender texts f :=
  declares_of_buildFrom h

/-- A written number of levels is positive. -/
theorem readLevels_ne_zero {raw : String} {levels : Option UInt32}
    (h : readLevels raw = .ok levels) : levels ≠ some 0 := by
  unfold readLevels at h
  split at h
  · cases h
    exact nofun
  · obtain ⟨n, -, h⟩ := bind_eq_ok.1 h
    split at h
    · cases h
    · next positive =>
      cases h
      simpa using positive

/-- What the pieces of a text say when it reads as a specification. -/
structure PiecesOf (spec : Spec) (origin : Component) (inherited : Inherited) (text : String)
    (number grid dests levels mapping : String) (rest : List String) : Prop where
  pieces : pieces text = spec.name :: number :: grid :: dests :: levels :: mapping :: rest
  few : rest.length ≤ 2
  filled : spec.name ≠ ""
  number : readNumber Text.int64? "field_id" number = .ok spec.number
  grid : readGrid grid = .ok spec.grid
  dests : readDests origin dests = .ok spec.dests
  levels : readLevels levels = .ok spec.levels
  mapping : chooseMapping inherited mapping = .ok spec.mapping
  weight : chooseWeight inherited (rest.getD 0 "") = .ok spec.weight
  period : readPeriod (rest.getD 1 "") = .ok spec.period

theorem exists_piecesOf {origin : Component} {inherited : Inherited} {text : String} {spec : Spec}
    (h : read origin inherited text = .ok spec) :
    ∃ number grid dests levels mapping rest,
      spec.PiecesOf origin inherited text number grid dests levels mapping rest := by
  unfold read at h
  split at h
  · cases h
  · split at h
    · next name number grid dests levels mapping rest parts =>
      split at h
      · cases h
      · next few =>
        split at h
        · cases h
        · next filled =>
          simp only [bind_eq_ok, pure_eq_ok] at h
          obtain ⟨_, hnumber, _, hgrid, _, hdests, _, hlevels, _, hmapping, _, hweight, _, hperiod,
            rfl⟩ := h
          exact ⟨number, grid, dests, levels, mapping, rest, parts, Nat.le_of_not_lt few, filled,
            hnumber, hgrid, hdests, hlevels, hmapping, hweight, hperiod⟩
    · cases h

theorem levels_of_read {origin : Component} {inherited : Inherited} {text : String} {spec : Spec}
    (h : read origin inherited text = .ok spec) : spec.levels ≠ some 0 := by
  obtain ⟨_, _, _, _, _, _, parts⟩ := exists_piecesOf h
  exact readLevels_ne_zero parts.levels

/-- A grid is read as a small letter. -/
theorem isLower_of_readGrid {raw : String} {grid : Char} (h : readGrid raw = .ok grid) :
    grid.isLower = true := by
  unfold readGrid at h
  split at h
  · next c _ =>
    split at h
    · next letter =>
      obtain rfl : c.toLower = grid := Except.ok.inj h
      have isLower (d : Char) :
          d.isLower = (decide (d.val ≥ 'a'.val) && decide (d.val ≤ 'z'.val)) := rfl
      have isAlpha : c.isAlpha = (decide (c.val ≥ 'A'.val ∧ c.val ≤ 'Z'.val) || c.isLower) := rfl
      simp only [isAlpha, isLower, Bool.or_eq_true, Bool.and_eq_true, decide_eq_true_eq, ge_iff_le,
        UInt32.le_iff_toNat_le, Char.reduceVal, UInt32.reduceToNat] at letter ⊢
      unfold Char.toLower
      split
      · next upper =>
        simp only [UInt32.toNat_add, ge_iff_le, UInt32.le_iff_toNat_le, Char.reduceVal,
          UInt32.reduceToNat, UInt32.reduceSub] at upper ⊢
        omega
      · next upper =>
        simp only [ge_iff_le, UInt32.le_iff_toNat_le, Char.reduceVal, UInt32.reduceToNat] at upper
        omega
    · cases h
  · cases h

end Spec

/-- Some sender declares the field. -/
def Field.Declared (f : Field) : Prop := ∃ sender texts, Spec.Declares sender texts f

namespace Field.Declared

theorem hasRoom {f : Field} (h : f.Declared) : f.HasRoom := by
  obtain ⟨sender, texts, declared⟩ := h
  cases declared with
  | placeholder =>
    unfold Field.HasRoom
    decide
  | placed _ _ room => exact room

theorem levels {f : Field} (h : f.Declared) : f.levels ≠ some 0 := by
  obtain ⟨sender, texts, declared⟩ := h
  cases declared with
  | placeholder => exact nofun
  | placed written =>
    obtain ⟨_, -, _, reads⟩ := written
    exact Spec.levels_of_read reads

/-- The grid of a field is a small letter, or the mark of the placeholder. -/
theorem grid {f : Field} (h : f.Declared) : f.grid.isLower = true ∨ f.grid = '?' := by
  obtain ⟨sender, texts, declared⟩ := h
  cases declared with
  | placeholder => exact .inr rfl
  | placed written =>
    obtain ⟨_, -, _, reads⟩ := written
    obtain ⟨_, _, _, _, _, _, parts⟩ := Spec.exists_piecesOf reads
    exact .inl (Spec.isLower_of_readGrid parts.grid)

end Field.Declared

namespace Request

theorem buildAll_eq_ok_iff {requests : List Request} {fields : List Field} :
    buildAll requests = .ok fields ↔
      ∃ groups, requests.mapM build = .ok groups ∧ groups.flatten = fields := by
  simp only [buildAll, bind_eq_ok, pure_eq_ok]

theorem declared_of_build {r : Request} {fields : List Field} (h : r.build = .ok fields) :
    ∀ f ∈ fields, f.Declared := by
  rw [build, noting_eq_ok] at h
  exact fun f hf => ⟨r.sender, r.specs, Spec.declares_of_build h f hf⟩

theorem declared_of_buildAll {requests : List Request} {fields : List Field}
    (h : buildAll requests = .ok fields) : ∀ f ∈ fields, f.Declared := by
  obtain ⟨groups, built, rfl⟩ := buildAll_eq_ok_iff.1 h
  have each : ∀ group ∈ groups, ∀ f ∈ group, f.Declared :=
    forall_mem_of_mapM built fun _ _ _ => declared_of_build
  intro f hf
  obtain ⟨group, member, hf⟩ := List.mem_flatten.1 hf
  exact each group member f hf

/-- The order of the requests is the order of their fields and decides nothing else. -/
theorem buildAll_agree {requests others : List Request} (h : requests.Perm others) :
    Agree List.Perm (buildAll requests) (buildAll others) := by
  refine (mapM_agree build h).bind ?_
  intro groups groups' perm
  exact perm.flatten

end Request

namespace Direction

/-- The usual specifications of a direction do not ask for usual fields themselves. -/
theorem defaultSpecs_ne_defaultWord (d : Direction) :
    ∀ text ∈ d.defaultSpecs, Text.trim text ≠ defaultWord := by
  unfold defaultSpecs
  split <;> decide

theorem defaultSpecs_unresolved {d : Direction} (h : d.origin = .unresolved) :
    d.defaultSpecs = [] := by
  simp [defaultSpecs, h]

/-- The usual fields are declared ones with a sender. -/
theorem resolved_of_defaultFields {d : Direction} {fields : List Field}
    (h : d.defaultFields = .ok fields) : ∀ f ∈ fields, f.isPlaceholder = false ∧ f.Declared := by
  intro f hf
  by_cases unresolved : d.origin = .unresolved
  · rw [defaultFields, defaultSpecs_unresolved unresolved] at h
    obtain rfl : [] = fields := Except.ok.inj h
    simp at hf
  · have declared := Spec.declares_of_build h f hf
    refine ⟨?_, _, _, declared⟩
    cases declared with
    | placeholder written =>
      obtain ⟨text, member, word⟩ := written
      exact absurd word (d.defaultSpecs_ne_defaultWord text member)
    | placed => exact decide_eq_false unresolved

end Direction

end Coupling
