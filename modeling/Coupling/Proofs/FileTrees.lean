import Coupling.FileTree
import Coupling.Proofs.Header

/-!
# Places in a file tree

Where paths lead, and what reading and writing at a path does to the rest of a tree:

* `FileTree.destination` is the only location that a path can lead to. Under a directory it is that
  of the directory and one name more (`destination_join`), so different names lead to different
  places;
* `read_eq_ok_iff` and `write_eq_ok_iff` say when a file is read and written, and `Grows` what
  making directories changes: some of the places on the way, where nothing was;
* directories stay under all of this (`Keeps`), so a path that led somewhere leads there still.
-/

namespace Coupling

namespace FileTree

variable {t t' : FileTree}

/-! ## What stands where -/

def file? (t : FileTree) (l : Location) : Option ByteArray :=
  match t.get? l with
  | some (.file content) => some content
  | _ => none

theorem file?_eq_some_iff {l : Location} {content : ByteArray} :
    t.file? l = some content ↔ t.get? l = some (.file content) := by
  unfold file?
  split
  · next found => simp [found]
  · next none_ => exact ⟨nofun, fun found => absurd found (none_ content)⟩

theorem file?_congr {l l' : Location} (h : t'.get? l' = t.get? l) : t'.file? l' = t.file? l := by
  unfold file?
  rw [h]

/-- What is put where no directory is stands there. -/
theorem get?_put_self {l : Location} (entry : Entry) (free : t.get? l ≠ some .directory) :
    (t.put l entry).get? l = some entry := by
  unfold get? at free ⊢
  split
  · next fixed => exact absurd (if_pos fixed) free
  · have gone : (t.erase l).entries.find? (fun e => e.1 = l) = none := by
      rw [List.find?_eq_none]
      intro e member
      simpa [erase] using (List.mem_filter.1 member).2
    rw [put, List.find?_append, gone]
    simp

theorem get?_put_of_ne {l l' : Location} (entry : Entry) (h : l' ≠ l) :
    (t.put l entry).get? l' = t.get? l' := by
  unfold get?
  split
  · rfl
  · have same : (t.erase l).entries.find? (fun e => e.1 = l') =
        t.entries.find? fun e => e.1 = l' := by
      rw [erase, List.find?_filter]
      congr 1
      funext e
      by_cases there : e.1 = l'
      · simp [there, h]
      · simp [there]
    rw [put, List.find?_append, same, List.find?_singleton]
    simp [Ne.symm h]

/-! ## Where paths lead -/

/-- The location that names lead to. -/
def destination (path : String) : Location := (segments path).foldl step (start path)

theorem follow_eq_foldl {here l : Location} {names : List String}
    (h : t.follow here names = .ok l) : l = names.foldl step here := by
  induction names generalizing here with
  | nil => exact (Except.ok.inj h).symm
  | cons name names ih =>
    cases names with
    | nil => exact (Except.ok.inj h).symm
    | cons next names =>
      rw [follow] at h
      split at h
      · cases h
      · cases h
      · exact ih h
      · simp

theorem locate_eq_destination {path : String} {l : Location} (h : t.locate path = .ok l) :
    l = destination path := by
  unfold locate at h
  split at h
  · cases h
  · exact follow_eq_foldl h

/-- The directories of one tree are directories of the other. -/
def Keeps (t t' : FileTree) : Prop :=
  ∀ l, t.get? l = some .directory → t'.get? l = some .directory

theorem Keeps.follow (keeps : Keeps t t') {here l : Location} {names : List String}
    (h : t.follow here names = .ok l) : t'.follow here names = .ok l := by
  induction names generalizing here with
  | nil => exact h
  | cons name names ih =>
    cases names with
    | nil => exact h
    | cons next names =>
      rw [FileTree.follow] at h ⊢
      · split at h
        · cases h
        · cases h
        · next there =>
          rw [keeps _ there]
          exact ih h
      · simp
      · simp

/-- A path that leads somewhere leads there as long as directories stay. -/
theorem Keeps.locate (keeps : Keeps t t') {path : String} {l : Location}
    (h : t.locate path = .ok l) : t'.locate path = .ok l := by
  unfold FileTree.locate at h ⊢
  split at h
  · cases h
  · next named =>
    rw [if_neg named]
    exact keeps.follow h

/-! ## Reading and writing -/

theorem read_eq_ok_iff {path : String} {content : ByteArray} :
    t.read path = .ok content ↔ t.locate path = .ok (destination path) ∧
      t.file? (destination path) = some content ∧ meansDirectory path = false := by
  unfold read
  cases located : t.locate path with
  | error fault => simp [bind, Except.bind]
  | ok l =>
    obtain rfl := locate_eq_destination located
    rw [file?_eq_some_iff]
    simp only [bind, Except.bind]
    split
    · next none_ => simp [none_]
    · next there => simp [there]
    · next there => cases directory : meansDirectory path <;> simp [there]

/-- Writing puts the file where the path leads, unless a directory stands there or is asked for. -/
theorem write_eq_ok_iff {path : String} {content : ByteArray} :
    t.write path content = .ok t' ↔ t.locate path = .ok (destination path) ∧
      t.get? (destination path) ≠ some .directory ∧ meansDirectory path = false ∧
      t' = t.put (destination path) (.file content) := by
  unfold write
  cases located : t.locate path with
  | error fault => simp [bind, Except.bind]
  | ok l =>
    obtain rfl := locate_eq_destination located
    simp only [bind, Except.bind]
    split
    · next there => simp [there]
    · next there => cases directory : meansDirectory path <;> simp [there, eq_comm]
    · next none_ => cases directory : meansDirectory path <;> simp [none_, eq_comm]

theorem keeps_put {l : Location} (entry : Entry) (free : t.get? l ≠ some .directory) :
    Keeps t (t.put l entry) := by
  intro l' there
  have different : l' ≠ l := fun same => free (same ▸ there)
  rw [get?_put_of_ne entry different, there]

/-! ## Making directories -/

/-- Every place that names pass on the way. -/
def way : Location → List String → List Location
  | _, [] => []
  | here, name :: names => step here name :: way (step here name) names

/-- Where nothing was, some of the places have become directories. -/
def Grows (places : List Location) (t t' : FileTree) : Prop :=
  ∀ l, t'.get? l = t.get? l ∨ (l ∈ places ∧ t.get? l = none ∧ t'.get? l = some .directory)

theorem Grows.keeps {places : List Location} (h : Grows places t t') : Keeps t t' := by
  intro l there
  rcases h l with same | ⟨-, none_, -⟩
  · rw [same, there]
  · simp [there] at none_

theorem Grows.file? {places : List Location} (h : Grows places t t') (l : Location) :
    t'.file? l = t.file? l := by
  rcases h l with same | ⟨-, none_, directory⟩
  · exact file?_congr same
  · simp only [FileTree.file?, none_, directory]

theorem descend_grows {there made : Bool} {here : Location} {names : List String}
    (h : t.descend there made here names = .ok t') : Grows (way here names) t t' := by
  induction names generalizing t here made with
  | nil =>
    obtain rfl : t = t' := Except.ok.inj h
    exact fun l => .inl rfl
  | cons name names ih =>
    have later {u : FileTree} (grows : Grows (way (step here name) names) u t') (l : Location) :
        t'.get? l = u.get? l ∨
          (l ∈ way here (name :: names) ∧ u.get? l = none ∧ t'.get? l = some .directory) :=
      (grows l).imp_right fun ⟨member, change⟩ => ⟨List.mem_cons_of_mem _ member, change⟩
    rw [descend] at h
    split at h
    · next none_ =>
      split at h
      · cases h
      · intro l
        have free : t.get? (step here name) ≠ some .directory := by simp [none_]
        by_cases place : l = step here name
        · -- The place itself: it has just become a directory, and directories stay.
          rw [place]
          exact .inr ⟨List.mem_cons_self, none_, (ih h).keeps _ (get?_put_self _ free)⟩
        · have change := later (ih h) l
          rwa [get?_put_of_ne _ place] at change
    · exact later (ih h)
    · cases h

/-- Along directories that were made one comes to any name in the last of them. -/
theorem follow_of_descend {there made : Bool} {here : Location} {names : List String}
    (h : t.descend there made here names = .ok t') (name : String) :
    t'.follow here (names ++ [name]) = .ok (step (names.foldl step here) name) := by
  induction names generalizing t here made with
  | nil => rfl
  | cons next names ih =>
    have passed {u : FileTree} {made : Bool} (directory : u.get? (step here next) = some .directory)
        (later : u.descend there made (step here next) names = .ok t') :
        t'.follow here (next :: names ++ [name]) =
          .ok (step ((next :: names).foldl step here) name) := by
      rw [List.cons_append, follow, (descend_grows later).keeps _ directory]
      · exact ih later
      · simp
    rw [descend] at h
    split at h
    · next none_ =>
      split at h
      · cases h
      · exact passed (get?_put_self _ (by simp [none_])) h
    · next directory => exact passed directory h
    · cases h

theorem makeDirectories_grows {path : String} (h : t.makeDirectories path = .ok t') :
    Grows (way (start path) (segments path)) t t' :=
  descend_grows h

theorem step_of_ne_up {here : Location} {name : String} (h : name ≠ "..") :
    step here name = here ++ [name] :=
  if_neg fun up => h up.1

theorem foldl_step {here : Location} {names : List String} (h : ".." ∉ names) :
    names.foldl step here = here ++ names := by
  induction names generalizing here with
  | nil => simp
  | cons name names ih =>
    have down : name ≠ ".." := fun up => h (up ▸ List.mem_cons_self)
    have later : ".." ∉ names := fun member => h (List.mem_cons_of_mem _ member)
    rw [List.foldl_cons, ih later, step_of_ne_up down, List.append_assoc, List.singleton_append]

/-- On a way that goes down only, no place is deeper than the end. -/
theorem length_le_of_mem_way {here l : Location} {names : List String} (h : ".." ∉ names)
    (member : l ∈ way here names) : l.length ≤ here.length + names.length := by
  induction names generalizing here with
  | nil => simp [way] at member
  | cons name names ih =>
    have down : name ≠ ".." := fun up => h (up ▸ List.mem_cons_self)
    have later : ".." ∉ names := fun up => h (List.mem_cons_of_mem _ up)
    rw [way, step_of_ne_up down] at member
    rcases List.mem_cons.1 member with rfl | member
    · simp
    · have bound := ih later member
      simp only [List.length_append, List.length_cons, List.length_nil] at bound ⊢
      omega

/-! ## Paths in a directory -/

/-- A name that can stand for one file in a directory. -/
structure PlainName (name : String) : Prop where
  whole : '/' ∉ name.toList
  filled : name ≠ ""
  here : name ≠ "."
  up : name ≠ ".."

namespace PlainName

variable {name : String}

theorem splitAt_eq (plain : PlainName name) : Text.splitAt '/' name = [name] := by
  rw [Text.splitAt, Text.split_of_not_mem plain.whole, List.map_singleton, String.ofList_toList]

theorem segments_eq (plain : PlainName name) : segments name = [name] := by
  rw [segments, plain.splitAt_eq, List.filter_cons_of_pos (by simp [plain.filled, plain.here]),
    List.filter_nil]

theorem isAbsolute_eq (plain : PlainName name) : Path.isAbsolute name = false := by
  refine decide_eq_false ?_
  intro slash
  exact plain.whole (List.mem_of_head? slash)

theorem segments_slash (plain : PlainName name) (front : List Char) :
    segments (String.ofList (front ++ '/' :: name.toList)) =
      segments (String.ofList front) ++ [name] := by
  rw [← plain.segments_eq]
  simp only [segments, Text.splitAt, String.toList_ofList, Text.split_append_sep, List.map_append,
    List.filter_append]

end PlainName

/-- A path in a directory, whether or not the directory's path ends in a slash. -/
theorem toList_join {directory name : String} (plain : PlainName name) (given : directory ≠ "") :
    ∃ front, (Path.join directory name).toList = front ++ '/' :: name.toList ∧
      segments directory = segments (String.ofList front) ∧
      (directory.toList = front ∨ directory.toList = front ++ ['/']) := by
  rw [Path.join, plain.isAbsolute_eq]
  simp only [Bool.false_or, decide_eq_true_eq, if_neg given]
  split
  · next slash =>
    obtain ⟨front, ends⟩ := List.getLast?_eq_some_iff.1 slash
    refine ⟨front, ?_, ?_, .inr ends⟩
    · simp [ends]
    · have pieces : Text.split '/' directory.toList = Text.split '/' front ++ [[]] := by
        rw [ends, Text.split_append_sep]
        rfl
      simp [segments, Text.splitAt, pieces]
  · exact ⟨directory.toList, by simp, by simp, .inl rfl⟩

theorem segments_join {directory name : String} (plain : PlainName name) :
    segments (Path.join directory name) = segments directory ++ [name] := by
  by_cases given : directory = ""
  · rw [given, Path.join, plain.isAbsolute_eq]
    exact plain.segments_eq
  · obtain ⟨front, text, same, -⟩ := toList_join plain given
    rw [same, ← plain.segments_slash, ← text, String.ofList_toList]

theorem start_join {directory name : String} (plain : PlainName name) :
    start (Path.join directory name) = start directory := by
  by_cases given : directory = ""
  · have bare : Path.join directory name = name := by
      rw [given, Path.join, plain.isAbsolute_eq]
      rfl
    rw [bare, given, start, plain.isAbsolute_eq]
    rfl
  · obtain ⟨front, text, -, ends⟩ := toList_join plain given
    have filled : directory.toList ≠ [] := fun empty => given (String.toList_injective empty)
    have first : (Path.join directory name).toList.head? = directory.toList.head? := by
      rw [text]
      rcases ends with whole | slash
      · obtain ⟨c, rest, begins⟩ := List.exists_cons_of_ne_nil (whole ▸ filled)
        rw [whole, begins]
        rfl
      · rw [slash]
        cases front <;> rfl
    rw [start, start, Path.isAbsolute, Path.isAbsolute, first]

/-- The location of a file in a directory is that of the directory and its name. -/
theorem destination_join {directory name : String} (plain : PlainName name) :
    destination (Path.join directory name) = destination directory ++ [name] := by
  rw [destination, segments_join plain, start_join plain, List.foldl_append, destination]
  exact step_of_ne_up plain.up

theorem meansDirectory_join {directory name : String} (plain : PlainName name) :
    meansDirectory (Path.join directory name) = false := by
  obtain ⟨rest, last⟩ :
      ∃ rest, (Text.splitAt '/' (Path.join directory name)).reverse = name :: rest := by
    by_cases given : directory = ""
    · refine ⟨[], ?_⟩
      rw [given, Path.join, plain.isAbsolute_eq]
      exact congrArg List.reverse plain.splitAt_eq
    · obtain ⟨front, text, -, -⟩ := toList_join plain given
      rw [Text.splitAt, text, Text.split_append_sep, Text.split_of_not_mem plain.whole]
      simp
  rw [meansDirectory, last]
  cases rest <;> simp [plain.filled, plain.here]

/-- Once its directory is made, a path in it leads to its place. -/
theorem locate_join {directory name : String} (plain : PlainName name)
    (h : t.makeDirectories directory = .ok t') :
    t'.locate (Path.join directory name) = .ok (destination (Path.join directory name)) := by
  have named : Path.join directory name ≠ "" := by
    intro empty
    have names : segments (Path.join directory name) = segments directory ++ [name] :=
      segments_join plain
    rw [empty] at names
    simp [segments, Text.splitAt, Text.split, Text.splitFrom] at names
  rw [locate, if_neg named, destination, segments_join plain, start_join plain, List.foldl_append]
  exact follow_of_descend h name

/-- A file in a directory is not on the way there, unless the way goes up again. -/
theorem destination_join_not_mem_way {directory name : String} (plain : PlainName name)
    (down : ".." ∉ segments directory) :
    destination (Path.join directory name) ∉ way (start directory) (segments directory) := by
  intro member
  have bound := length_le_of_mem_way down member
  rw [destination_join plain, destination, foldl_step down] at bound
  simp only [List.length_append, List.length_cons, List.length_nil] at bound
  omega

end FileTree

end Coupling
