import Mooring.Proofs.Files.LastName
import Mooring.Proofs.Files.Walk

/-! Paths seen from the working directory. Such a path leaves out dots and says where the working directory is, and it
leads where the path led that it was made of. -/

namespace Mooring

namespace Path

def Plain (name : String) : Prop := name.toList ≠ [] ∧ '/' ∉ name.toList

def solid (path : String) : List String := ((pieces path.toList).filter (fun piece => !piece.isEmpty)).map String.ofList

theorem names_eq (path : String) :
    names path = if endsWithSlash path && !(solid path).isEmpty then solid path ++ ["."] else solid path := rfl

theorem pieces_ne_nil (text : List Char) : pieces text ≠ [] := by
  obtain ⟨init, last, split, -⟩ := pieces_append text [] List.not_mem_nil
  rw [split]
  exact List.append_ne_nil_of_right_ne_nil _ (List.cons_ne_nil _ _)

theorem pieces_append_slash (front text : List Char) : pieces (front ++ '/' :: text) = pieces front ++ pieces text := by
  induction front with
  | nil => rfl
  | cons c rest ih =>
    simp only [List.cons_append, pieces, ih]
    split
    next => rfl
    next =>
      cases same : pieces rest with
      | nil => exact absurd same (pieces_ne_nil rest)
      | cons piece more => rfl

theorem pieces_whole {text : List Char} (whole : '/' ∉ text) : pieces text = [text] := by
  obtain ⟨init, last, empty, split⟩ := pieces_append [] text whole
  obtain ⟨rfl, same⟩ := List.append_inj' (show [] ++ [[]] = init ++ [last] from empty) rfl
  cases same
  exact split

theorem solid_append_slash (front text : String) : solid (front ++ "/" ++ text) = solid front ++ solid text := by
  unfold solid
  rw [String.toList_append, String.toList_append, List.append_assoc,
    show "/".toList ++ text.toList = '/' :: text.toList from rfl,
    pieces_append_slash, List.filter_append, List.map_append]

theorem solid_plain {name : String} (plain : Plain name) : solid name = [name] := by
  unfold solid
  rw [pieces_whole plain.2]
  simp [plain.1]

theorem names_plain {name : String} (plain : Plain name) : names name = [name] := by
  have open_ : endsWithSlash name = false :=
    decide_eq_false_iff_not.mpr (fun last => plain.2 (List.mem_of_getLast? last))
  simp [names_eq, open_, solid_plain plain]

theorem solid_empty : solid "" = [] := rfl

theorem exists_of_endsWithSlash {base : String} (slash : endsWithSlash base = true) : ∃ front, base = front ++ "/" := by
  obtain ⟨front, same⟩ := List.getLast?_eq_some_iff.mp (of_decide_eq_true slash)
  exact ⟨String.ofList front, String.toList_inj.mp (by simpa using same)⟩

theorem join_plain (base : String) {name : String} (plain : Plain name) :
    join base name = if base.isEmpty || endsWithSlash base then base ++ name else base ++ "/" ++ name := by
  unfold join
  rw [isAbsolute_of_whole plain.2]
  rfl

theorem solid_join (base : String) {name : String} (plain : Plain name) :
    solid (join base name) = solid base ++ [name] := by
  rw [join_plain base plain, ← solid_plain plain]
  split
  next ends =>
    rcases (Bool.or_eq_true ..).mp ends with empty | slash
    · rw [String.isEmpty_iff.mp empty, String.empty_append]
      rfl
    · obtain ⟨front, rfl⟩ := exists_of_endsWithSlash slash
      have plainly : solid (front ++ "/") = solid front ++ solid "" := by
        rw [← solid_append_slash, String.append_empty]
      rw [solid_append_slash, plainly, solid_empty, List.append_nil]
  next => exact solid_append_slash base name

theorem endsWithSlash_join (base : String) {name : String} (plain : Plain name) :
    endsWithSlash (join base name) = false := by
  rw [join_plain base plain]
  split
  next => exact endsWithSlash_append base plain.1 plain.2
  next => exact endsWithSlash_append (base ++ "/") plain.1 plain.2

theorem isAbsolute_append_of_front {front : String} (whole : isAbsolute front = true) (text : String) :
    isAbsolute (front ++ text) = true := by
  unfold isAbsolute at whole ⊢
  split at whole
  next rest same => rw [String.toList_append, same]; rfl
  next => cases whole

theorem isAbsolute_join {base name : String} (whole : isAbsolute base = true) : isAbsolute (join base name) = true := by
  unfold join
  split
  next absolute => exact absolute
  next =>
    split
    next => exact isAbsolute_append_of_front whole name
    next => exact isAbsolute_append_of_front (isAbsolute_append_of_front whole "/") name

theorem mem_toList_join {base name : String} {c : Char} (among : c ∈ (join base name).toList) :
    c = '/' ∨ c ∈ base.toList ∨ c ∈ name.toList := by
  unfold join at among
  split at among
  next => exact .inr (.inr among)
  next =>
    split at among
    next => exact .inr (List.mem_append.mp (String.toList_append ▸ among))
    next =>
      rw [String.toList_append, String.toList_append, List.mem_append, List.mem_append] at among
      rcases among with (front | slash) | back
      · exact .inr (.inl front)
      · exact .inl (List.mem_singleton.mp slash)
      · exact .inr (.inr back)

def below (base : String) (names : List String) : String := names.foldl join base

section
variable {base : String} {names : List String} (plain : ∀ name ∈ names, Plain name)
include plain

theorem solid_below : solid (below base names) = solid base ++ names := by
  induction names generalizing base with
  | nil => exact (List.append_nil _).symm
  | cons name rest ih =>
    rw [List.forall_mem_cons] at plain
    rw [show below base (name :: rest) = below (join base name) rest from rfl, ih plain.2, solid_join base plain.1,
      List.append_assoc, List.singleton_append]

theorem endsWithSlash_below (some : names ≠ []) : endsWithSlash (below base names) = false := by
  obtain ⟨front, last, rfl⟩ := List.eq_nil_or_concat names |>.resolve_left some
  rw [List.concat_eq_append, below, List.foldl_append]
  exact endsWithSlash_join _ (plain last (by simp))

end

theorem isAbsolute_below {base : String} (whole : isAbsolute base = true) (names : List String) :
    isAbsolute (below base names) = true := by
  induction names generalizing base with
  | nil => exact whole
  | cons name rest ih => exact ih (isAbsolute_join whole)

theorem mem_toList_below {base : String} {names : List String} {c : Char} (among : c ∈ (below base names).toList) :
    c = '/' ∨ c ∈ base.toList ∨ ∃ name ∈ names, c ∈ name.toList := by
  induction names generalizing base with
  | nil => exact .inr (.inl among)
  | cons name rest ih =>
    rcases ih among with slash | front | ⟨other, listed, inside⟩
    · exact .inl slash
    · rcases mem_toList_join front with slash | inside | inside
      · exact .inl slash
      · exact .inr (.inl inside)
      · exact .inr (.inr ⟨name, List.mem_cons_self, inside⟩)
    · exact .inr (.inr ⟨other, List.mem_cons_of_mem _ listed, inside⟩)

end Path

open Mooring.Path

theorem Host.Place.text_eq_below {place : Host.Place} (plain : ∀ name ∈ place, Plain name) :
    Host.Place.text place = below "/" place := by
  have onward (base : String) (rest : List String) (open_ : (base.isEmpty || endsWithSlash base) = false)
      (plain : ∀ name ∈ rest, Plain name) : below base rest = base ++ String.join (rest.map ("/" ++ ·)) := by
    induction rest generalizing base with
    | nil => simp [below]
    | cons name more ih =>
      rw [List.forall_mem_cons] at plain
      have here : join base name = base ++ "/" ++ name := by rw [join_plain base plain.1, open_]; rfl
      rw [show below base (name :: more) = below (join base name) more from rfl, ih _ ?_ plain.2, here, List.map_cons,
        String.join_cons]
      · simp only [String.append_assoc]
      · rw [endsWithSlash_join base plain.1, Bool.or_false, here]
        simp
  cases place with
  | nil => rfl
  | cons name rest =>
    rw [List.forall_mem_cons] at plain
    have here : join "/" name = "/" ++ name := by rw [join_plain "/" plain.1]; rfl
    rw [show below "/" (name :: rest) = below (join "/" name) rest from rfl, onward _ _ ?_ plain.2, here]
    · simp [Host.Place.text, String.join_cons]
    · rw [endsWithSlash_join "/" plain.1, Bool.or_false, here]
      simp

namespace Path

def busy (path : String) : List String := (solid path).filter (fun name => decide (name ≠ "."))

def fromRoot (workDir : Host.Place) (path : String) : List String :=
  (if isAbsolute path then [] else workDir) ++ busy path

theorem mem_pieces {text piece : List Char} (among : piece ∈ pieces text) : '/' ∉ piece ∧ ∀ c ∈ piece, c ∈ text := by
  induction text generalizing piece with
  | nil =>
    obtain rfl := List.mem_singleton.mp among
    exact ⟨List.not_mem_nil, fun _ inside => absurd inside List.not_mem_nil⟩
  | cons first rest ih =>
    have onward {other : List Char} (later : other ∈ pieces rest) : '/' ∉ other ∧ ∀ c ∈ other, c ∈ first :: rest :=
      ⟨(ih later).1, fun c inside => List.mem_cons_of_mem _ ((ih later).2 c inside)⟩
    unfold pieces at among
    split at among
    next slash =>
      rcases List.mem_cons.mp among with rfl | later
      · exact ⟨List.not_mem_nil, fun _ inside => absurd inside List.not_mem_nil⟩
      · exact onward later
    next letter =>
      split at among
      next none => exact absurd none (pieces_ne_nil rest)
      next head more split =>
        rcases List.mem_cons.mp among with rfl | later
        · obtain ⟨whole, inside⟩ := onward (split ▸ List.mem_cons_self)
          exact ⟨List.not_mem_cons_of_ne_of_not_mem (Ne.symm letter) whole,
            List.forall_mem_cons.mpr ⟨List.mem_cons_self, inside⟩⟩
        · exact onward (split ▸ List.mem_cons_of_mem _ later)

theorem mem_solid {path name : String} (among : name ∈ solid path) :
    Plain name ∧ ∀ c ∈ name.toList, c ∈ path.toList := by
  obtain ⟨piece, listed, rfl⟩ := List.mem_map.mp among
  obtain ⟨inside, some⟩ := List.mem_filter.mp listed
  rw [Plain, String.toList_ofList]
  exact ⟨⟨by simpa using some, (mem_pieces inside).1⟩, (mem_pieces inside).2⟩

theorem busy_eq (path : String) :
    busy path = ((pieces path.toList).filter (fun piece => !isIdle piece)).map String.ofList := by
  unfold busy solid
  rw [List.filter_map, List.filter_filter]
  refine congrArg (List.map String.ofList) (List.filter_congr fun piece _ => ?_)
  have dot : String.ofList piece = "." ↔ piece = ['.'] := by
    rw [← String.toList_inj, String.toList_ofList]
    rfl
  simp [isIdle, dot, Bool.and_comm]

theorem absoluteFrom_eq {workDir : Host.Place} (plain : ∀ name ∈ workDir, Plain name) (path : String) :
    ∃ base, (base = "/" ∨ base = "//") ∧
      absoluteFrom (Host.Place.text workDir) path =
        if endsWithSlash path then join (below base (fromRoot workDir path)) "" else below base
          (fromRoot workDir path) := by
  obtain ⟨front, either, same⟩ : ∃ front, (front = "/" ∨ front = "//") ∧
      (if path.toList.take 2 = ['/', '/'] ∧ path.toList.take 3 ≠ ['/', '/', '/'] then "//" else "/") = front := by
    split
    next => exact ⟨"//", .inr rfl, rfl⟩
    next => exact ⟨"/", .inl rfl, rfl⟩
  unfold absoluteFrom fromRoot
  simp only [← busy_eq, same]
  by_cases whole : isAbsolute path = true
  · exact ⟨front, either, by simp only [if_pos whole, below, List.nil_append]⟩
  · exact ⟨"/", .inl rfl, by simp only [if_neg whole, Host.Place.text_eq_below plain, below, List.foldl_append]⟩

/-- Names with some dots left out. -/
inductive Thins : List String → List String → Prop
  | done : Thins [] []
  | keep (name : String) {names fewer : List String} : Thins names fewer → Thins (name :: names) (name :: fewer)
  | skip {names fewer : List String} : Thins names fewer → Thins ("." :: names) fewer

namespace Thins
variable {names fewer more others : List String}

theorem refl (names : List String) : Thins names names := by
  induction names with
  | nil => exact .done
  | cons name rest ih => exact .keep name ih

theorem append (one : Thins names fewer) (two : Thins more others) : Thins (names ++ more) (fewer ++ others) := by
  induction one with
  | done => exact two
  | keep name _ ih => exact .keep name ih
  | skip _ ih => exact .skip ih

theorem filter (names : List String) : Thins names (names.filter (fun name => decide (name ≠ "."))) := by
  induction names with
  | nil => exact .done
  | cons name rest ih =>
    by_cases dot : name = "."
    · subst dot
      exact .skip ih
    · rw [List.filter_cons_of_pos (by simpa using dot)]
      exact .keep name ih

theorem eq_nil (thins : Thins [] fewer) : fewer = [] := by
  cases thins
  rfl

end Thins

theorem plain_fromRoot {workDir : Host.Place} (plain : ∀ name ∈ workDir, Plain name) (path : String) :
    ∀ name ∈ fromRoot workDir path, Plain name := by
  intro name among
  rcases List.mem_append.mp among with above | own
  · split at above
    next => exact absurd above List.not_mem_nil
    next => exact plain name above
  · exact (mem_solid (List.mem_filter.mp own).1).1

theorem names_join_empty (path : String) :
    names (join path "") = if (solid path).isEmpty then [] else solid path ++ ["."] := by
  unfold join
  rw [if_neg (show ¬ isAbsolute "" = true by decide)]
  split
  next ends =>
    rw [String.append_empty, names_eq]
    rcases (Bool.or_eq_true ..).mp ends with empty | slash
    · rw [String.isEmpty_iff.mp empty]
      rfl
    · rw [slash]
      cases solid path <;> rfl
  next =>
    have slash : endsWithSlash (path ++ "/" ++ "") = true := by
      rw [String.append_empty, endsWithSlash, String.toList_append]
      simp
    rw [names_eq, slash, solid_append_slash, solid_empty, List.append_nil]
    cases solid path <;> rfl

theorem names_absoluteFrom {workDir : Host.Place} (plain : ∀ name ∈ workDir, Plain name) (path : String) :
    names (absoluteFrom (Host.Place.text workDir) path) =
      if endsWithSlash path && !(fromRoot workDir path).isEmpty then fromRoot workDir path ++ ["."]
      else fromRoot workDir path := by
  obtain ⟨base, either, same⟩ := absoluteFrom_eq plain path
  have nothing : solid base = [] := by rcases either with rfl | rfl <;> rfl
  have here : solid (below base (fromRoot workDir path)) = fromRoot workDir path := by
    rw [solid_below (plain_fromRoot plain path), nothing, List.nil_append]
  rw [same]
  by_cases slash : endsWithSlash path = true
  · rw [if_pos slash, names_join_empty, here, slash]
    cases fromRoot workDir path <;> rfl
  · rw [if_neg slash, names_eq, here]
    cases leads : fromRoot workDir path with
    | nil => simp
    | cons name rest =>
      have open_ : endsWithSlash (below base (fromRoot workDir path)) = false :=
        endsWithSlash_below (plain_fromRoot plain path) (by rw [leads]; exact List.cons_ne_nil _ _)
      rw [leads] at open_
      simp [open_, slash]

theorem isAbsolute_of_solid_nil {path : String} (some : path ≠ "") (none : solid path = []) :
    isAbsolute path = true := by
  unfold isAbsolute
  unfold solid at none
  cases text : path.toList with
  | nil => exact absurd (String.toList_inj.mp text) some
  | cons c rest =>
    have slash : c = '/' := by
      refine Decidable.byContradiction fun letter => ?_
      rw [text, List.map_eq_nil_iff, List.filter_eq_nil_iff] at none
      obtain ⟨piece, more, split⟩ := List.exists_cons_of_ne_nil (pieces_ne_nil rest)
      exact none (c :: piece) (by simp [pieces, letter, split]) rfl
    rw [slash]
    rfl

theorem thins_names_absoluteFrom {workDir : Host.Place} (plain : ∀ name ∈ workDir, Plain name) {path : String}
    (some : path ≠ "") :
    ∃ fewer, names (absoluteFrom (Host.Place.text workDir) path) = (if isAbsolute path then [] else workDir) ++ fewer ∧
      Thins (names path) fewer := by
  have thins : Thins (solid path) (busy path) := .filter _
  rw [names_absoluteFrom plain, names_eq]
  by_cases slash : endsWithSlash path = true
  · by_cases none : solid path = []
    · have whole := isAbsolute_of_solid_nil some none
      have idle : busy path = [] := by rw [busy, none]; rfl
      exact ⟨[], by simp [fromRoot, whole, idle], by simpa [none] using Thins.done⟩
    · simp only [slash, Bool.true_and, Bool.not_eq_true', List.isEmpty_eq_false_iff, ne_eq, none,
        not_false_eq_true, if_true]
      by_cases empty : fromRoot workDir path = []
      · have idle := (List.append_eq_nil_iff.mp empty).2
        refine ⟨[], ?_, ?_⟩
        · rw [if_neg (not_not_intro empty), List.append_nil, empty]
          exact (List.append_eq_nil_iff.mp empty).1.symm
        · exact (idle ▸ thins).append (.skip .done)
      · refine ⟨busy path ++ ["."], ?_, thins.append (.refl _)⟩
        rw [if_pos empty, fromRoot, List.append_assoc]
  · exact ⟨busy path, by simp [slash, fromRoot], by simpa [slash] using thins⟩

end Path

namespace Host

namespace FileTree

section
variable {atLink atLink' : Place → String → List String → Except Fault Spot} {place : Place} {node : Node}

/-- A walk that ends at an entry ends there without some of the dots. -/
theorem walkToLink_thins (tree : FileTree)
    (links : ∀ start target rest fewer, Thins rest fewer → atLink start target rest = .ok (.taken place node) →
      atLink' start target fewer = .ok (.taken place node))
    {path fewer : List String} (thins : Thins path fewer) (start : Place)
    (ends : tree.walkToLink true atLink start path = .ok (.taken place node)) :
    tree.walkToLink true atLink' start fewer = .ok (.taken place node) := by
  induction thins generalizing start with
  | done => exact ends
  | skip _ ih =>
    rw [walkToLink, if_pos rfl] at ends
    exact ih start ends
  | keep name further ih =>
    rw [walkToLink] at ends ⊢
    split
    next dot => exact ih start (by rwa [if_pos dot] at ends)
    next noDot =>
      rw [if_neg noDot] at ends
      split
      next up => exact ih start.dropLast (by rwa [if_pos up] at ends)
      next noUp =>
        rw [if_neg noUp] at ends
        split
        next long => rw [if_pos long] at ends; cases ends
        next short =>
          rw [if_neg short] at ends
          cases here : tree.nodeAt (start ++ [name]) with
          | none =>
            simp only [here] at ends
            split at ends <;> cases ends
          | some entry =>
            simp only [here] at ends ⊢
            cases entry with
            | file content mode accessed =>
              simp only at ends ⊢
              split at ends
              next last =>
                -- Nothing follows the file, so nothing was left out behind it.
                rw [List.isEmpty_iff.mp last] at further
                rw [further.eq_nil]
                exact ends
              next => cases ends
            | directory mode accessed => exact ih (start ++ [name]) ends
            | link target =>
              simp only [Bool.not_true, Bool.and_false, Bool.false_eq_true, if_false] at ends ⊢
              exact links start target _ _ further ends

end

theorem walk_thins (tree : FileTree) {place : Place} {node : Node} (links : Nat) {path fewer : List String}
    (thins : Thins path fewer) (start : Place) (ends : tree.walk true links start path = .ok (.taken place node)) :
    tree.walk true links start fewer = .ok (.taken place node) := by
  induction links generalizing path fewer start with
  | zero => exact tree.walkToLink_thins (fun _ _ _ _ _ ends => by cases ends) thins start ends
  | succ links ih =>
    refine tree.walkToLink_thins (fun start target rest fewer thins ends => ?_) thins start ends
    split at ends
    next => cases ends
    next somewhere =>
      rw [if_neg somewhere]
      exact ih ((Thins.refl _).append thins) _ ends

theorem walkToLink_passing (tree : FileTree) {atLink : Place → String → List String → Except Fault Spot} {follow : Bool}
    (start : Place) {names : List String} (rest : List String) (proper : ∀ name ∈ names, Proper name)
    (passable : ∀ front, front <+: names → front ≠ [] → tree.kindAt (start ++ front) = some .directory) :
    tree.walkToLink follow atLink start (names ++ rest) = tree.walkToLink follow atLink (start ++ names) rest := by
  induction names generalizing start with
  | nil => rw [List.append_nil, List.nil_append]
  | cons name more ih =>
    rw [List.forall_mem_cons] at proper
    obtain ⟨⟨noDot, noUp, short⟩, others⟩ := proper
    have first := passable [name] (List.prefix_append [name] more) (List.cons_ne_nil _ _)
    have onward := ih (start ++ [name]) others fun front leads some => by
      rw [List.append_assoc]
      exact passable (name :: front) (List.cons_prefix_cons.mpr ⟨rfl, leads⟩) (List.cons_ne_nil _ _)
    rw [List.cons_append, walkToLink, if_neg noDot, if_neg noUp, if_neg (Nat.not_lt.mpr short)]
    obtain ⟨entry, there, isDirectory⟩ := Option.map_eq_some_iff.mp first
    simp only [there]
    cases entry with
    | directory mode accessed => rw [onward, List.append_assoc, List.singleton_append]
    | file content mode accessed => cases isDirectory
    | link target => cases isDirectory

theorem walk_passing (tree : FileTree) (links : Nat) (start : Place) {names : List String} (rest : List String)
    (proper : ∀ name ∈ names, Proper name)
    (passable : ∀ front, front <+: names → front ≠ [] → tree.kindAt (start ++ front) = some .directory) :
    tree.walk true links start (names ++ rest) = tree.walk true links (start ++ names) rest := by
  cases links with
  | zero => exact tree.walkToLink_passing start rest proper passable
  | succ links => exact tree.walkToLink_passing start rest proper passable

theorem byteLength_le (text : String) : byteLength text ≤ 4 * text.toList.length := by
  unfold byteLength Utf8.ofString Utf8.encode
  induction text.toList with
  | nil => exact Nat.zero_le _
  | cons c rest ih =>
    have small := c.utf8Size_le_four
    rw [List.flatMap_cons, List.length_append, String.length_utf8EncodeChar, List.length_cons]
    omega

end FileTree

/-- The working directory is where the system says it is: its names lead there from the root through directories. -/
structure Moored (host : Host) : Prop where
  proper : ∀ name ∈ host.workDir, FileTree.Proper name
  plain : ∀ name ∈ host.workDir, Plain name
  clear : ∀ name ∈ host.workDir, Char.ofNat 0 ∉ name.toList
  passable : ∀ front, front <+: host.workDir → front ≠ [] → host.files.kindAt front = some .directory

theorem pathFault?_eq_none {path : String} :
    FileTree.pathFault? path = none ↔
      Char.ofNat 0 ∉ path.toList ∧ path ≠ "" ∧ FileTree.byteLength path < FileTree.pathLimit := by
  unfold FileTree.pathFault?
  split
  next zero => simp_all
  next whole =>
    split
    next empty => simp_all
    next => split <;> simp_all

theorem isAbsolute_absoluteFrom {workDir : Place} (plain : ∀ name ∈ workDir, Plain name) (path : String) :
    isAbsolute (absoluteFrom (Place.text workDir) path) = true := by
  obtain ⟨base, either, same⟩ := absoluteFrom_eq plain path
  have root : isAbsolute base = true := by rcases either with rfl | rfl <;> rfl
  rw [same]
  split
  next => exact isAbsolute_join (isAbsolute_below root _)
  next => exact isAbsolute_below root _

theorem mem_absoluteFrom {workDir : Place} (plain : ∀ name ∈ workDir, Plain name) {path : String} {c : Char}
    (among : c ∈ (absoluteFrom (Place.text workDir) path).toList) :
    c = '/' ∨ c ∈ path.toList ∨ ∃ name ∈ workDir, c ∈ name.toList := by
  obtain ⟨base, either, same⟩ := absoluteFrom_eq plain path
  have whole (inside : c ∈ (below base (fromRoot workDir path)).toList) :
      c = '/' ∨ c ∈ path.toList ∨ ∃ name ∈ workDir, c ∈ name.toList := by
    rcases mem_toList_below inside with slash | front | ⟨name, listed, here⟩
    · exact .inl slash
    · refine .inl ?_
      rcases either with rfl | rfl
      · exact List.mem_singleton.mp front
      · exact (List.mem_cons.mp front).elim id List.mem_singleton.mp
    · rcases List.mem_append.mp listed with above | own
      · split at above
        next => exact absurd above List.not_mem_nil
        next => exact .inr (.inr ⟨name, above, here⟩)
      · exact .inr (.inl ((mem_solid (List.mem_filter.mp own).1).2 c here))
  rw [same] at among
  split at among
  next =>
    rcases mem_toList_join among with slash | inside | nowhere
    · exact .inl slash
    · exact whole inside
    · exact absurd nowhere List.not_mem_nil
  next => exact whole among

theorem absoluteFrom_of_isAbsolute {path : String} (whole : isAbsolute path = true) (one other : String) :
    absoluteFrom one path = absoluteFrom other path := by
  unfold absoluteFrom
  simp only [whole, if_true]

theorem entry?_eq_ok {host : Host} {path : String} {place : Place} {node : Node} :
    host.entry? path = .ok (place, node) ↔ host.find true path = .ok (.taken place node) := by
  unfold entry?
  split
  next there => simp [there]
  next there => simp [there]
  next there => simp [there]

/-- A path that is seen from the working directory leads to the same entry, unless it is too long. -/
theorem entry?_absoluteFrom {host : Host} {path : String} {place : Place} {node : Node}
    (found : host.entry? path = .ok (place, node)) (moored : isAbsolute path = false → host.Moored)
    (short : FileTree.byteLength (absoluteFrom host.workDirText path) < FileTree.pathLimit) :
    host.entry? (absoluteFrom host.workDirText path) = .ok (place, node) := by
  -- An absolute path starts at the root, whatever the working directory is; both cases go on from the names in front.
  obtain ⟨front, starts, own, text, plain, clear, proper, passable⟩ : ∃ front : Place,
      FileTree.start host.workDir path = front ∧ (if isAbsolute path then [] else front) = front ∧
      absoluteFrom host.workDirText path = absoluteFrom (Place.text front) path ∧
      (∀ name ∈ front, Plain name) ∧ (∀ name ∈ front, Char.ofNat 0 ∉ name.toList) ∧
      (∀ name ∈ front, FileTree.Proper name) ∧
      ∀ part, part <+: front → part ≠ [] → host.files.kindAt part = some .directory := by
    cases whole : isAbsolute path with
    | true =>
      refine ⟨[], by simp [FileTree.start, whole], by simp, absoluteFrom_of_isAbsolute whole _ _,
        by simp, by simp, by simp, ?_⟩
      intro part leads some
      exact absurd (List.prefix_nil.mp leads) some
    | false =>
      obtain ⟨proper, plain, clear, passable⟩ := moored whole
      exact ⟨host.workDir, by simp [FileTree.start, whole], by simp, rfl, plain, clear, proper, passable⟩
  rw [entry?_eq_ok, find, FileTree.find] at found ⊢
  rw [text] at short ⊢
  cases fault : FileTree.pathFault? path with
  | some fault' => rw [fault] at found; cases found
  | none =>
    simp only [fault, starts] at found
    obtain ⟨zero, some, -⟩ := pathFault?_eq_none.mp fault
    have whole := isAbsolute_absoluteFrom plain path
    have noFault : FileTree.pathFault? (absoluteFrom (Place.text front) path) = none := by
      refine pathFault?_eq_none.mpr ⟨fun among => ?_, fun empty => ?_, short⟩
      · rcases mem_absoluteFrom plain among with slash | inside | ⟨name, listed, inside⟩
        · exact absurd slash (by decide)
        · exact zero inside
        · exact clear name listed inside
      · rw [empty] at whole
        cases whole
    obtain ⟨fewer, names, thins⟩ := thins_names_absoluteFrom plain some
    rw [own] at names
    simp only [noFault, names, FileTree.start, whole, if_true]
    rw [FileTree.walk_passing _ _ [] _ proper passable]
    exact host.files.walk_thins _ thins front found

theorem isFile_absoluteFrom {host : Host} {path : String} (isFile : host.isFile path = true)
    (moored : isAbsolute path = false → host.Moored)
    (short : FileTree.byteLength (absoluteFrom host.workDirText path) < FileTree.pathLimit) :
    host.isFile (absoluteFrom host.workDirText path) = true := by
  unfold Host.isFile at isFile
  split at isFile
  next place node found =>
    unfold Host.isFile
    rw [entry?_absoluteFrom found moored short]
    exact isFile
  next => cases isFile

theorem pathFault?_name {name : String} (plain : Plain name) (proper : FileTree.Proper name)
    (noNul : Char.ofNat 0 ∉ name.toList) : FileTree.pathFault? name = none := by
  have solid : name ≠ "" := by
    rintro rfl
    exact plain.1 rfl
  exact pathFault?_eq_none.mpr ⟨noNul, solid, Nat.lt_of_le_of_lt proper.2.2 (by decide)⟩

theorem FileTree.placeOf?_name {tree : FileTree} {name : String} (plain : Plain name) (proper : Proper name)
    (noNul : Char.ofNat 0 ∉ name.toList) (root : tree.kindAt [] = some .directory) :
    tree.placeOf? [] name = some [name] := by
  have noSlash : Path.endsWithSlash name = false := by
    rw [← @String.empty_append name, Path.endsWithSlash_append "" plain.1 plain.2]
  rw [placeOf?_eq_some]
  refine ⟨[], name, rfl, pathFault?_name plain proper noNul, noSlash, ?_, proper, ?_⟩
  · rw [names_plain plain]
    rfl
  · rw [names_plain plain, start, ite_self, linkLimit, walk]
    exact (walkToLink_nil_reaches tree []).mpr ⟨rfl, root⟩

theorem pathExists_name {host : Host} {name : String} (plain : Plain name) (proper : FileTree.Proper name)
    (noNul : Char.ofNat 0 ∉ name.toList) (atRoot : host.workDir = [])
    (known : ∀ node, host.files.nodeAt [name] = some node → node.kind = .file) :
    host.pathExists name = (host.files.nodeAt [name]).isSome := by
  have found : host.find true name = host.files.walk true FileTree.linkLimit [] [name] := by
    rw [find, FileTree.find, pathFault?_name plain proper noNul, names_plain plain, atRoot, FileTree.start, ite_self]
  rw [FileTree.linkLimit, FileTree.walk, FileTree.walkToLink, if_neg proper.1, if_neg proper.2.1,
    if_neg (Nat.not_lt.mpr proper.2.2)] at found
  cases there : host.files.nodeAt [name] with
  | none => simp [pathExists, entry?, found, there, Except.toBool]
  | some node =>
    have isFile := known node there
    cases node with
    | file content mode accessed => simp [pathExists, entry?, found, there, Except.toBool]
    | directory mode accessed => cases isFile
    | link target => cases isFile

end Host

end Mooring
