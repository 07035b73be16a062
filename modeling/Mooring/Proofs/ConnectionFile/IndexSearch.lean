import Mathlib.Data.Nat.Digits.Defs
import Mooring.Proofs.ConnectionFile.Validity
import Mooring.Proofs.Files.Absolute
import Mooring.Proofs.Files.SocketPaths

/-! The search for open indexes and the counter that it moves on. The counter has 16 bits, and it goes on behind the
last index that is found, so the search is right only as long as it stays short of the end. -/

namespace Mooring

namespace ConnectionFile

open Credentials (socketPath)

def increment? (index : UInt16) : Option UInt16 := if index.toNat + 1 < UInt16.size then some (index + 1) else none

def nextChecked? (host : Host) (ip : String) : Nat → UInt16 → Option UInt16
  | 0, _ => none
  | fuel + 1, next =>
    if host.pathExists (socketPath ip next) then (increment? next).bind (nextChecked? host ip fuel) else some next

/-- The counter goes on once more behind each index that is found. -/
def freeChecked? (host : Host) (ip : String) : Nat → UInt16 → Option (List UInt16)
  | 0, _ => some []
  | count + 1, next =>
    match nextChecked? host ip UInt16.size next with
    | none => none
    | some index => (increment? index).bind (fun next => (freeChecked? host ip count next).map (index :: ·))

theorem eq_of_increment? {index next : UInt16} (more : increment? index = some next) : next = index + 1 := by
  unfold increment? at more
  split at more
  next => exact (Option.some.inj more).symm
  next => cases more

theorem nextIndex?_of_checked {host : Host} {ip : String} {fuel : Nat} {next index : UInt16}
    (found : nextChecked? host ip fuel next = some index) : nextIndex? host ip fuel next = some index := by
  induction fuel generalizing next with
  | zero => cases found
  | succ fuel ih =>
    unfold nextChecked? at found
    unfold nextIndex?
    split at found
    next taken =>
      obtain ⟨after, more, later⟩ := Option.bind_eq_some_iff.mp found
      rw [if_pos taken, ← eq_of_increment? more]
      exact ih later
    next free => rwa [if_neg free]

theorem freeIndexes?_of_checked {host : Host} {ip : String} {count : Nat} {next : UInt16} {indexes : List UInt16}
    (found : freeChecked? host ip count next = some indexes) : freeIndexes? host ip count next = some indexes := by
  induction count generalizing next indexes with
  | zero => exact found
  | succ count ih =>
    unfold freeChecked? at found
    unfold freeIndexes?
    split at found
    next => cases found
    next index first =>
      obtain ⟨after, more, later⟩ := Option.bind_eq_some_iff.mp found
      obtain ⟨others, rest, rfl⟩ := Option.map_eq_some_iff.mp later
      rw [nextIndex?_of_checked first]
      simp only
      rw [← eq_of_increment? more, ih rest]
      rfl

/-- These are the lowest indexes above zero whose paths are free, in order. -/
structure Lowest (host : Host) (ip : String) (count : Nat) (indexes : List UInt16) : Prop where
  length : indexes.length = count
  increasing : indexes.Pairwise (· < ·)
  positive : ∀ index ∈ indexes, index ≠ 0
  free : ∀ index ∈ indexes, host.pathExists (socketPath ip index) = false
  lowest : ∀ other, other ≠ 0 → host.pathExists (socketPath ip other) = false → other ∉ indexes →
    ∀ index ∈ indexes, index < other

theorem mem_indexesFrom_zero (index : UInt16) : index ∈ indexesFrom 0 := by
  refine List.mem_map.mpr ⟨index.toNat, ?_, UInt16.ofNat_toNat⟩
  rw [List.mem_range'_1]
  exact ⟨Nat.zero_le _, by simpa using index.toNat_lt_size⟩

section
variable (host : Host) (ip : String)

theorem increment?_ofNat {first : Nat} (below : first < UInt16.size) :
    increment? (.ofNat first) = if first + 1 < UInt16.size then some (.ofNat (first + 1)) else none := by
  unfold increment?
  rw [UInt16.toNat_ofNat_of_lt' below, UInt16.ofNat_add]
  rfl

/-- A counter that may not run over comes to the first open index, or there is none. -/
theorem nextChecked?_eq {fuel first : Nat} (below : first < UInt16.size) (enough : UInt16.size ≤ fuel + first) :
    nextChecked? host ip fuel (.ofNat first) = (openIndexes host ip first).head? := by
  induction fuel generalizing first with
  | zero => omega
  | succ fuel ih =>
    rw [nextChecked?, openIndexes_step host ip below]
    split
    next =>
      rw [increment?_ofNat below]
      split
      next more => exact ih more (by omega)
      next last =>
        rw [show first + 1 = UInt16.size by omega, openIndexes_end]
        rfl
    next => rfl

theorem openIndexes_cons {first : Nat} {index : UInt16} {rest : List UInt16} (below : first ≤ UInt16.size)
    (found : openIndexes host ip first = index :: rest) : openIndexes host ip (index.toNat + 1) = rest :=
  (nextIndex?_of_open found (Nat.le_add_right UInt16.size first) below).2.1

def roomyIndexes (first : Nat) : List UInt16 :=
  (openIndexes host ip first).filter (fun index => index.toNat + 1 < UInt16.size)

theorem freeChecked?_eq (count first : Nat) (below : first < UInt16.size) :
    freeChecked? host ip count (.ofNat first) =
      if count ≤ (roomyIndexes host ip first).length then some ((openIndexes host ip first).take count) else none := by
  induction count generalizing first with
  | zero => simp [freeChecked?]
  | succ count ih =>
    unfold freeChecked? roomyIndexes
    rw [nextChecked?_eq host ip below (Nat.le_add_right _ _)]
    cases found : openIndexes host ip first with
    | nil => simp
    | cons index rest =>
      have others := openIndexes_cons host ip (Nat.le_of_lt below) found
      simp only [List.head?_cons]
      by_cases more : index.toNat + 1 < UInt16.size
      · have next : increment? index = some (.ofNat (index.toNat + 1)) := by
          rw [← UInt16.ofNat_toNat (x := index), increment?_ofNat index.toNat_lt_size, UInt16.ofNat_toNat, if_pos more]
        rw [next, Option.bind_some, ih _ more, roomyIndexes, others, List.filter_cons_of_pos (by simpa using more)]
        simp only [List.length_cons, Nat.add_le_add_iff_right, List.take_succ_cons]
        split <;> rfl
      · -- Behind the last index of all, no other can be open.
        have none_ : rest = [] := by
          rw [← others, show index.toNat + 1 = UInt16.size by have := index.toNat_lt_size; omega, openIndexes_end]
        have stops : increment? index = none := if_neg more
        rw [stops, none_]
        simp [more]

theorem lowest_take {count : Nat} (enough : count ≤ (openIndexes host ip 1).length) :
    Lowest host ip count ((openIndexes host ip 1).take count) where
  length := List.length_take_of_le enough
  increasing := (openIndexes_increasing host ip 1).sublist (List.take_sublist _ _)
  positive index among := ((mem_openIndexes host ip index).mp (List.mem_of_mem_take among)).1
  free index among := ((mem_openIndexes host ip index).mp (List.mem_of_mem_take among)).2
  lowest other positive free spared index among := by
    have apart := openIndexes_increasing host ip 1
    rw [← List.take_append_drop count (openIndexes host ip 1), List.pairwise_append] at apart
    have listed : other ∈ openIndexes host ip 1 := (mem_openIndexes host ip other).mpr ⟨positive, free⟩
    rw [← List.take_append_drop count (openIndexes host ip 1), List.mem_append] at listed
    exact apart.2.2 index among other (listed.resolve_left spared)

theorem Lowest.enough {host : Host} {ip : String} {count : Nat} {indexes : List UInt16}
    (lowest : Lowest host ip count indexes) :
    count ≤ (openIndexes host ip 1).length := by
  have nodup : indexes.Nodup := lowest.increasing.imp UInt16.ne_of_lt
  rw [← lowest.length]
  apply nodup.length_le_of_subset
  intro index among
  exact (mem_openIndexes host ip index).mpr ⟨lowest.positive index among, lowest.free index among⟩

theorem nextIndex?_of_taken {count fuel : Nat} {first : UInt16}
    (taken : ∀ k < count, host.pathExists (socketPath ip (first + .ofNat k)) = true) :
    nextIndex? host ip (count + fuel) first = nextIndex? host ip fuel (first + .ofNat count) := by
  induction count generalizing first with
  | zero => simp
  | succ count ih =>
    have shift (k : Nat) : first + 1 + .ofNat k = first + .ofNat (k + 1) := by
      rw [UInt16.ofNat_add, UInt16.add_comm (.ofNat k), ← UInt16.add_assoc]
      rfl
    have here : host.pathExists (socketPath ip first) = true := by
      have start := taken 0 (Nat.zero_lt_succ count)
      rwa [show first + .ofNat 0 = first from UInt16.add_zero first] at start
    rw [show count + 1 + fuel = (count + fuel) + 1 by omega, nextIndex?, if_pos here, ih, shift]
    intro k less
    rw [shift]
    exact taken (k + 1) (Nat.succ_lt_succ less)

theorem nextIndex?_eq_none {fuel : Nat} {first : UInt16} (missed : nextIndex? host ip fuel first = none) :
    ∀ k < fuel, host.pathExists (socketPath ip (first + .ofNat k)) = true := by
  induction fuel generalizing first with
  | zero => exact fun k less => absurd less (Nat.not_lt_zero k)
  | succ fuel ih =>
    unfold nextIndex? at missed
    split at missed
    next taken =>
      intro k less
      cases k with
      | zero => rwa [show first + .ofNat 0 = first from UInt16.add_zero first]
      | succ k =>
        have later := ih missed k (Nat.lt_of_succ_lt_succ less)
        rwa [UInt16.add_assoc, UInt16.add_comm 1,
          show UInt16.ofNat k + 1 = .ofNat (k + 1) by rw [UInt16.ofNat_add]; rfl]
          at later
    next => cases missed

theorem nextIndex?_eq_none_iff {first : UInt16} :
    nextIndex? host ip UInt16.size first = none ↔ ∀ index, host.pathExists (socketPath ip index) = true := by
  constructor
  · intro missed index
    have there := nextIndex?_eq_none host ip missed (index - first).toNat (index - first).toNat_lt_size
    rwa [UInt16.ofNat_toNat, UInt16.add_comm, UInt16.sub_add_cancel] at there
  · intro all
    have passed : nextIndex? host ip (UInt16.size + 0) first = _ := nextIndex?_of_taken host ip (fun k _ => all _)
    exact passed

theorem freeIndexes?_eq_none_iff {count : Nat} {first : UInt16} :
    freeIndexes? host ip count first = none ↔ 0 < count ∧ ∀ index, host.pathExists (socketPath ip index) = true := by
  induction count generalizing first with
  | zero => simp [freeIndexes?]
  | succ count ih =>
    unfold freeIndexes?
    cases found : nextIndex? host ip UInt16.size first with
    | none => simpa using (nextIndex?_eq_none_iff host ip).mp found
    | some index =>
      have free := nextIndex?_free found
      have one : ¬ ∀ index, host.pathExists (socketPath ip index) = true := by
        intro all
        rw [all index] at free
        cases free
      simp only [Option.map_eq_none_iff, ih, one, and_false]

/-- The search gives the lowest open indexes exactly if there are as many as are wanted. Its counter gets by with 16
bits exactly if there are as many below the last index. It goes on for good exactly if no path is free. -/
theorem search_lowest_iff (count : Nat) :
    ((∃ indexes, freeIndexes? host ip count 1 = some indexes ∧ Lowest host ip count indexes) ↔
      count ≤ (openIndexes host ip 1).length) ∧
    ((∃ indexes, freeIndexes? host ip count 1 = some indexes ∧ Lowest host ip count indexes ∧
        freeChecked? host ip count 1 = some indexes) ↔ count ≤ (roomyIndexes host ip 1).length) ∧
    (freeIndexes? host ip count 1 = none ↔ 0 < count ∧ ∀ index, host.pathExists (socketPath ip index) = true) := by
  have right (enough : count ≤ (openIndexes host ip 1).length) :
      freeIndexes? host ip count (.ofNat 1) = some ((openIndexes host ip 1).take count) :=
    freeIndexes?_of_open enough (by decide)
  have checked : freeChecked? host ip count 1 = _ := freeChecked?_eq host ip count 1 (by decide)
  refine ⟨⟨?_, ?_⟩, ⟨?_, ?_⟩, freeIndexes?_eq_none_iff host ip⟩
  · rintro ⟨indexes, -, lowest⟩
    exact lowest.enough
  · intro enough
    exact ⟨_, right enough, lowest_take host ip enough⟩
  · rintro ⟨indexes, -, -, ran⟩
    rw [checked] at ran
    by_contra few
    rw [if_neg few] at ran
    cases ran
  · intro enough
    have ran := checked.trans (if_pos enough)
    have fits : count ≤ (openIndexes host ip 1).length := Nat.le_trans enough (List.length_filter_le _ _)
    exact ⟨_, freeIndexes?_of_checked ran, lowest_take host ip fits, ran⟩

end

def takenRows (taken : UInt16 → Bool) : List (Host.Place × Host.Node) :=
  ((indexesFrom 0).filter taken).map (fun index => ([socketPath "k" index], .file [] 0o644 0))

def crowd (taken : UInt16 → Bool) : Host :=
  { Host.Isolated.machine [] [] with files := .ofList (takenRows taken) }

theorem takenRows_apart (taken : UInt16 → Bool) :
    (takenRows taken).Pairwise (fun one two => ¬ compare one.1 two.1 = .eq) := by
  refine List.pairwise_map.mpr (((indexesFrom_increasing 0).filter taken).imp fun less same => ?_)
  have paths := (List.cons.inj (Std.LawfulEqCmp.eq_of_compare same)).1
  exact UInt16.ne_of_lt less ((Credentials.socketPath_eq_iff _ _ _ _).mp paths).2

theorem nodeAt_crowd (taken : UInt16 → Bool) (index : UInt16) :
    (crowd taken).files.nodeAt [socketPath "k" index] = if taken index then some (.file [] 0o644 0) else none := by
  unfold crowd Host.FileTree.ofList Host.FileTree.nodeAt
  by_cases there : taken index = true
  · have listed : ([socketPath "k" index], .file [] 0o644 0) ∈ takenRows taken :=
      List.mem_map.mpr ⟨index, List.mem_filter.mpr ⟨mem_indexesFrom_zero index, there⟩, rfl⟩
    rw [Std.TreeMap.getElem?_ofList_of_mem Std.ReflCmp.compare_self (takenRows_apart taken) listed, if_pos there]
  · have missing : ((takenRows taken).map Prod.fst).contains [socketPath "k" index] = false := by
      rw [takenRows, List.map_map, List.contains_eq_mem, decide_eq_false_iff_not, List.mem_map]
      rintro ⟨other, among, same⟩
      obtain ⟨-, rfl⟩ := (Credentials.socketPath_eq_iff _ _ _ _).mp (List.cons.inj same).1
      exact there (List.mem_filter.mp among).2
    rw [Std.TreeMap.getElem?_ofList_of_contains_eq_false missing, if_neg there]
    rfl

theorem nodeAt_crowd_other (taken : UInt16 → Bool) {place : Host.Place}
    (other : ∀ index, place ≠ [socketPath "k" index]) :
    (crowd taken).files.nodeAt place = if place.isEmpty then some (.directory 0o755 0) else none := by
  have missing : ((takenRows taken).map Prod.fst).contains place = false := by
    rw [takenRows, List.map_map, List.contains_eq_mem, decide_eq_false_iff_not, List.mem_map]
    rintro ⟨index, -, same⟩
    exact other index same.symm
  unfold crowd Host.FileTree.ofList Host.FileTree.nodeAt
  rw [Std.TreeMap.getElem?_ofList_of_contains_eq_false missing]

theorem toList_socketPath (index : UInt16) :
    (socketPath "k" index).toList = 'k' :: '-' :: (toString index.toNat).toList := by
  simp [socketPath, String.toList_append]

theorem not_mem_socketPath {c : Char} (noDigit : c.isDigit = false) (other : c ≠ 'k' ∧ c ≠ '-') (index : UInt16) :
    c ∉ (socketPath "k" index).toList := by
  rw [toList_socketPath, List.mem_cons, List.mem_cons]
  rintro (k | dash | digit)
  · exact other.1 k
  · exact other.2 dash
  · exact Credentials.not_mem_index noDigit index digit

theorem socketPath_proper (index : UInt16) : Host.FileTree.Proper (socketPath "k" index) := by
  have noDot : '.' ∉ (socketPath "k" index).toList := not_mem_socketPath (by decide) (by decide) index
  refine ⟨?_, ?_, ?_⟩
  · intro dot
    exact noDot (dot ▸ by decide)
  · intro dots
    exact noDot (dots ▸ by decide)
  · have digits : (toString index.toNat).toList.length ≤ 5 := by
      rw [Credentials.toList_index]
      exact Nat.toDigits_length 10 _ 5 (by decide) (Nat.lt_trans index.toNat_lt (by decide))
    have bytes := Host.FileTree.byteLength_le (socketPath "k" index)
    rw [toList_socketPath, List.length_cons, List.length_cons] at bytes
    exact Nat.le_trans bytes (by rw [Host.FileTree.nameLimit]; omega)

theorem pathExists_socketPath {host : Host} (atRoot : host.workDir = []) {taken : UInt16 → Bool} {index : UInt16}
    (known : host.files.nodeAt [socketPath "k" index] = if taken index then some (.file [] 0o644 0) else none) :
    host.pathExists (socketPath "k" index) = taken index := by
  have plain : Path.Plain (socketPath "k" index) :=
    ⟨by rw [toList_socketPath]; exact List.cons_ne_nil _ _, not_mem_socketPath (by decide) (by decide) index⟩
  have isFile : ∀ node, host.files.nodeAt [socketPath "k" index] = some node → node.kind = .file := by
    intro node there
    rw [known] at there
    split at there
    next =>
      cases there
      rfl
    next => cases there
  rw [Host.pathExists_name plain (socketPath_proper index)
    (not_mem_socketPath (by decide) (by decide) index) atRoot isFile,
    known]
  cases taken index <;> rfl

theorem pathExists_crowd (taken : UInt16 → Bool) (index : UInt16) :
    (crowd taken).pathExists (socketPath "k" index) = taken index :=
  pathExists_socketPath rfl (nodeAt_crowd taken index)

theorem search_wraps {host : Host} {ip : String}
    (taken : ∀ index, index ≠ 0 → host.pathExists (socketPath ip index) = true)
    (free : host.pathExists (socketPath ip 0) = false) : freeIndexes? host ip 1 1 = some [0] := by
  have passes : nextIndex? host ip UInt16.size 1 = some 0 := by
    rw [show UInt16.size = 65535 + 1 from rfl, nextIndex?_of_taken]
    · rw [show (1 : UInt16) + .ofNat 65535 = 0 from rfl, nextIndex?, free]
      rfl
    · intro k less
      apply taken
      intro zero
      have numbers := congrArg UInt16.toNat zero
      rw [UInt16.toNat_add, UInt16.toNat_ofNat_of_lt' (by simp [UInt16.size]; omega)] at numbers
      simp at numbers
      omega
  rw [freeIndexes?, passes]
  rfl

/-- Where only the indexes zero and one are free, the search goes round between them. -/
theorem search_circles {host : Host} {ip : String}
    (known : ∀ index, host.pathExists (socketPath ip index) = decide (index ≠ 0 ∧ index ≠ 1)) (count : Nat) :
    freeIndexes? host ip (count + 2) 1 = (freeIndexes? host ip count 1).map (fun rest => 1 :: 0 :: rest) := by
  have first : nextIndex? host ip UInt16.size 1 = some 1 := by
    rw [show UInt16.size = 65535 + 1 from rfl, nextIndex?, known]
    rfl
  have second : nextIndex? host ip UInt16.size 2 = some 0 := by
    rw [show UInt16.size = 65534 + 2 from rfl, nextIndex?_of_taken]
    · rw [show (2 : UInt16) + .ofNat 65534 = 0 from rfl, nextIndex?, known]
      rfl
    · intro k less
      have number : ((2 : UInt16) + .ofNat k).toNat = k + 2 := by
        rw [UInt16.toNat_add, UInt16.toNat_ofNat_of_lt' (by simp [UInt16.size]; omega),
          show (2 : UInt16).toNat = 2 from rfl]
        omega
      rw [known, decide_eq_true_iff]
      constructor
      all_goals
        intro same
        rw [same] at number
        simp at number
  rw [freeIndexes?, first]
  simp only
  rw [freeIndexes?, show (1 : UInt16) + 1 = 2 from rfl, second]
  simp only
  rw [show (0 : UInt16) + 1 = 1 from rfl, Option.map_map]
  rfl

theorem openIndexes_eq_singleton {host : Host} {ip : String} {index : UInt16}
    (only : ∀ other, other ≠ 0 ∧ host.pathExists (socketPath ip other) = false ↔ other = index) :
    openIndexes host ip 1 = [index] := by
  apply List.perm_singleton.mp
  rw [List.perm_ext_iff_of_nodup (nodup_openIndexes host ip 1) (List.nodup_singleton index)]
  intro other
  rw [mem_openIndexes, List.mem_singleton]
  exact only other

/-- Where only index zero is open, that index is given out, which stands for no index. Where the last index is the only
open one above zero, it is found, but the counter runs over behind it. -/
theorem search_overflows :
    (freeIndexes? (crowd (fun index => index ≠ 0)) "k" 1 1 = some [0] ∧
      ¬ Lowest (crowd (fun index => index ≠ 0)) "k" 1 [0]) ∧
    freeIndexes? (crowd (fun index => index ≠ 65535)) "k" 1 1 = some [65535] ∧
      freeChecked? (crowd (fun index => index ≠ 65535)) "k" 1 1 = none := by
  have wraps : freeIndexes? (crowd (fun index => index ≠ 0)) "k" 1 1 = some [0] := by
    apply search_wraps
    · intro index positive
      rw [pathExists_crowd]
      exact decide_eq_true positive
    · rw [pathExists_crowd]
      rfl
  have lastOnly : openIndexes (crowd (fun index => index ≠ 65535)) "k" 1 = [65535] := by
    apply openIndexes_eq_singleton
    intro other
    rw [pathExists_crowd, decide_eq_false_iff_not, not_not]
    constructor
    · exact And.right
    · rintro rfl
      exact ⟨by decide, rfl⟩
  refine ⟨⟨wraps, fun lowest => lowest.positive 0 List.mem_cons_self rfl⟩, ?_, ?_⟩
  · have found : freeIndexes? (crowd (fun index => index ≠ 65535)) "k" 1 (.ofNat 1) = _ :=
      freeIndexes?_of_open (by rw [lastOnly]; exact Nat.le_refl 1) (by decide)
    rw [lastOnly] at found
    exact found
  · have ran := freeChecked?_eq (crowd (fun index => index ≠ 65535)) "k" 1 1 (by decide)
    rw [roomyIndexes, lastOnly] at ran
    exact ran

end ConnectionFile
end Mooring
