import Mooring.Proofs.Files.LastName
import Mooring.Proofs.Files.Requests

/-! The paths of socket files. An address and an index can be read off such a path again, and the address
that stands beside the file of a kernel tells the kernel. -/

namespace Mooring

namespace Path

/-- A front ends where a piece begins. -/
def EndsPiece (front : String) : Prop := front = "" ∨ ∃ before, front.toList = before ++ ['/']

theorem join_front (base : String) :
    ∃ front : String, EndsPiece front ∧ ∀ name : String, '/' ∉ name.toList → join base name = front ++ name := by
  by_cases plain : (base.isEmpty || endsWithSlash base) = true
  · refine ⟨base, ?_, fun name whole => ?_⟩
    · rw [Bool.or_eq_true] at plain
      rcases plain with empty | slash
      · exact .inl (String.isEmpty_iff.mp empty)
      · obtain ⟨before, same⟩ := List.getLast?_eq_some_iff.mp (of_decide_eq_true slash)
        exact .inr ⟨before, same⟩
    · rw [join, isAbsolute_of_whole whole, plain]
      rfl
  · refine ⟨base ++ "/", .inr ⟨base.toList, String.toList_append⟩, fun name whole => ?_⟩
    rw [join, isAbsolute_of_whole whole]
    simp [plain]

theorem joinPieces_cons (c : Char) (piece : List Char) (more : List (List Char)) :
    joinPieces ((c :: piece) :: more) = c :: joinPieces (piece :: more) := by
  cases more <;> rfl

theorem joinPieces_pieces (text : List Char) : joinPieces (pieces text) = text := by
  induction text with
  | nil => rfl
  | cons c rest ih =>
    obtain ⟨init, last, split, -⟩ := pieces_append rest [] List.not_mem_nil
    obtain ⟨piece, more, same⟩ : ∃ piece more, pieces rest = piece :: more := by
      rw [split]
      cases init with
      | nil => exact ⟨last, [], rfl⟩
      | cons first others => exact ⟨first, others ++ [last], rfl⟩
    rw [same] at ih
    unfold pieces
    rw [same]
    by_cases slash : c = '/'
    · rw [if_pos slash, slash]
      exact congrArg ('/' :: ·) ih
    · rw [if_neg slash]
      simp only
      rw [joinPieces_cons, ih]

theorem EndsPiece.pieces {front : String} (ends : EndsPiece front) :
    ∃ init, ∀ text, '/' ∉ text → Path.pieces (front.toList ++ text) = init ++ [text] := by
  obtain ⟨init, split⟩ : ∃ init, Path.pieces front.toList = init ++ [[]] := by
    rcases ends with rfl | ⟨before, same⟩
    · exact ⟨[], rfl⟩
    · obtain ⟨first, init, split⟩ := pieces_slash before
      exact ⟨first :: init, same ▸ split⟩
  refine ⟨init, fun text whole => ?_⟩
  obtain ⟨init', last, before, after⟩ := pieces_append front.toList text whole
  rw [before] at split
  obtain ⟨rfl, none⟩ := List.append_inj' split rfl
  cases none
  exact after

theorem reversedPieces_front {path : String} {init : List (List Char)} {name : List Char}
    (split : pieces path.toList = init ++ [name]) (busy : isIdle name = false) :
    reversedPieces path = name :: init.reverse := by
  rw [reversedPieces, split, List.reverse_append, List.reverse_singleton, List.singleton_append]
  cases init.reverse with
  | nil => rfl
  | cons next rest =>
    rw [dropIdle, busy]
    rfl

theorem EndsPiece.fileName? {front : String} (ends : EndsPiece front) {name : String} (whole : '/' ∉ name.toList)
    (busy : isIdle name.toList = false) (down : isUp name.toList = false) :
    Path.fileName? (front ++ name) = some name := by
  obtain ⟨init, split⟩ := ends.pieces
  have reversed : reversedPieces (front ++ name) = name.toList :: init.reverse :=
    reversedPieces_front (String.toList_append ▸ split _ whole) busy
  simp only [Path.fileName?, reversed, busy, down, Bool.or_self, Bool.false_eq_true, if_false, String.ofList_toList]

theorem fileName?_join (base : String) {name : String} (whole : '/' ∉ name.toList) (busy : isIdle name.toList = false)
    (down : isUp name.toList = false) : Path.fileName? (join base name) = some name := by
  obtain ⟨front, ends, joined⟩ := join_front base
  rw [joined name whole]
  exact ends.fileName? whole busy down

theorem splitExtension_dot {stem extension : List Char} (solid : stem ≠ []) (plain : '.' ∉ extension) :
    splitExtension (stem ++ '.' :: extension) = (stem, some extension) := by
  have taken : ((stem ++ '.' :: extension).reverse.takeWhile (· ≠ '.')).reverse = extension := by
    rw [List.reverse_append, List.reverse_cons, List.append_assoc, List.singleton_append,
      List.takeWhile_append_of_pos (fun c among => by
        simp only [ne_eq, decide_eq_true_eq]
        rintro rfl
        exact plain (List.mem_reverse.mp among)),
      List.takeWhile_cons_of_neg (by decide), List.append_nil, List.reverse_reverse]
  have front : (stem ++ '.' :: extension).take ((stem ++ '.' :: extension).length - extension.length - 1) = stem := by
    rw [show (stem ++ '.' :: extension).length - extension.length - 1 = stem.length by simp; omega,
      List.take_left]
  unfold splitExtension
  simp only [taken, front]
  rw [if_neg (by simpa using solid)]

theorem not_idle_up {name : List Char} (long : 2 < name.length) : isIdle name = false ∧ isUp name = false := by
  refine ⟨?_, ?_⟩ <;> simp only [isIdle, isUp, Bool.or_eq_false_iff, decide_eq_false_iff_not]
  · refine ⟨by cases name <;> simp_all, ?_⟩
    rintro rfl
    simp at long
  · rintro rfl
    simp at long

theorem toList_append_dot (front : String) (stem extension : List Char) :
    (front ++ String.ofList (stem ++ '.' :: extension)).toList = front.toList ++ (stem ++ '.' :: extension) := by
  rw [String.toList_append, String.toList_ofList]

theorem withoutExtension_front {front : String} (ends : EndsPiece front) (stem extension : List Char)
    (long : 2 < stem.length) (whole : '/' ∉ stem) (wholeExtension : '/' ∉ extension) (plain : '.' ∉ extension) :
    withoutExtension (front ++ String.ofList (stem ++ '.' :: extension)) = front ++ String.ofList stem := by
  obtain ⟨init, split⟩ := ends.pieces
  have solid : stem ≠ [] := by
    rintro rfl
    simp at long
  have named (extension : List Char) (wholeExtension : '/' ∉ extension) :
      reversedPieces (front ++ String.ofList (stem ++ '.' :: extension)) =
        (stem ++ '.' :: extension) :: init.reverse := by
    refine reversedPieces_front ?_ (not_idle_up (by simp; omega)).1
    rw [toList_append_dot]
    exact split _ (by simp [whole, wholeExtension])
  have cut : String.ofList ((front ++ String.ofList (stem ++ '.' :: extension)).toList.take
      ((front ++ String.ofList (stem ++ '.' :: extension)).toList.length - extension.length)) =
        front ++ String.ofList (stem ++ '.' :: []) := by
    rw [← String.toList_inj, String.toList_ofList, toList_append_dot, toList_append_dot,
      show front.toList ++ (stem ++ '.' :: extension) = (front.toList ++ (stem ++ ['.'])) ++ extension by simp,
      List.length_append, Nat.add_sub_cancel, List.take_left]
  unfold withoutExtension
  rw [named extension wholeExtension]
  simp only [splitExtension_dot solid plain, not_idle_up (show 2 < (stem ++ '.' :: extension).length by simp; omega),
    Bool.or_self, Bool.false_eq_true, if_false]
  rw [cut]
  unfold stemOnly
  rw [named [] List.not_mem_nil]
  simp only [splitExtension_dot solid List.not_mem_nil,
    not_idle_up (show 2 < (stem ++ '.' :: []).length by simp; omega), Bool.or_self, Bool.false_eq_true, if_false]
  have text : textOf (stem :: init.reverse) = String.ofList (joinPieces (init ++ [stem])) := by
    unfold textOf
    split
    next same => exact absurd (List.cons.inj same).1 solid
    next => rw [List.reverse_cons, List.reverse_reverse]
  rw [text, ← split stem whole, joinPieces_pieces, ← String.toList_inj, String.toList_append, String.toList_ofList]
  simp

theorem getLast?_names_front (front : String) : ∃ last, ∀ tail : String, tail.toList ≠ [] → '/' ∉ tail.toList →
    (names (front ++ tail)).getLast? = some (String.ofList (last ++ tail.toList)) := by
  obtain ⟨init, last, split, -⟩ := pieces_append front.toList [] List.not_mem_nil
  refine ⟨last, fun tail solid whole => ?_⟩
  obtain ⟨init', last', before, after⟩ := pieces_append front.toList tail.toList whole
  rw [before] at split
  obtain ⟨rfl, same⟩ := List.append_inj' split rfl
  cases same
  exact getLast?_names (endsWithSlash_append front solid whole) (String.toList_append ▸ after)
    (fun none => solid (List.append_eq_nil_iff.mp none).2)

theorem names_front_injective {front one two : String} (oneSolid : one.toList ≠ []) (oneWhole : '/' ∉ one.toList)
    (twoSolid : two.toList ≠ []) (twoWhole : '/' ∉ two.toList)
    (same : (names (front ++ one)).getLast? = (names (front ++ two)).getLast?) : one = two := by
  obtain ⟨last, named⟩ := getLast?_names_front front
  rw [named one oneSolid oneWhole, named two twoSolid twoWhole, Option.some.injEq, String.ofList_inj,
    List.append_cancel_left_eq] at same
  exact String.toList_inj.mp same

end Path

namespace Credentials

theorem toList_index (index : UInt16) : (toString index.toNat).toList = Nat.toDigits 10 index.toNat := by
  rw [Nat.toString_eq_ofList_toDigits, String.toList_ofList]

theorem not_mem_index {c : Char} (noDigit : c.isDigit = false) (index : UInt16) :
    c ∉ (toString index.toNat).toList := by
  intro among
  rw [toList_index] at among
  have isDigit := Nat.isDigit_of_mem_toDigits (by decide) (by decide) among
  rw [noDigit] at isDigit
  cases isDigit

theorem index_injective {one two : UInt16} (same : (toString one.toNat).toList = (toString two.toNat).toList) :
    one = two := by
  rw [toList_index, toList_index] at same
  have numbers := congrArg (fun digits => Nat.ofDigitChars 10 digits 0) same
  simp only [Nat.ofDigitChars_ten_toDigits] at numbers
  exact UInt16.toNat_inj.mp numbers

theorem eq_of_separator_eq {separator : Char} {front other digits more : List Char} (digitsClear : separator ∉ digits)
    (moreClear : separator ∉ more) (same : front ++ separator :: digits = other ++ separator :: more) :
    front = other ∧ digits = more := by
  rcases List.append_eq_append_iff.mp same with ⟨between, rfl, rest⟩ | ⟨between, rfl, rest⟩
  · cases between with
    | nil =>
      rw [List.nil_append, List.cons.injEq] at rest
      exact ⟨(List.append_nil front).symm, rest.2⟩
    | cons c others =>
      rw [List.cons_append, List.cons.injEq] at rest
      exact absurd (rest.2 ▸ List.mem_append_right _ List.mem_cons_self) digitsClear
  · cases between with
    | nil =>
      rw [List.nil_append, List.cons.injEq] at rest
      exact ⟨List.append_nil other, rest.2.symm⟩
    | cons c others =>
      rw [List.cons_append, List.cons.injEq] at rest
      exact absurd (rest.2 ▸ List.mem_append_right _ List.mem_cons_self) moreClear

theorem socketPath_eq_iff (ip other : String) (index otherIndex : UInt16) :
    socketPath ip index = socketPath other otherIndex ↔ ip = other ∧ index = otherIndex := by
  constructor
  · intro same
    have lists := congrArg String.toList same
    simp only [socketPath, String.toList_append, List.append_assoc] at lists
    obtain ⟨ips, indexes⟩ := eq_of_separator_eq (not_mem_index (by decide) index)
        (not_mem_index (by decide) otherIndex) lists
    exact ⟨String.toList_inj.mp ips, index_injective indexes⟩
  · rintro ⟨rfl, rfl⟩
    rfl

/-- With a common front and plain middles, socket paths have one last name only if they are the same. -/
theorem socketPath_of_names_eq {front middle other : String} (whole : '/' ∉ middle.toList)
    (otherWhole : '/' ∉ other.toList)
    {index otherIndex : UInt16} (same : (Path.names (socketPath (front ++ middle) index)).getLast? =
      (Path.names (socketPath (front ++ other) otherIndex)).getLast?) :
    socketPath (front ++ middle) index = socketPath (front ++ other) otherIndex := by
  have solid (middle : String) (index : UInt16) : (middle ++ ("-" ++ toString index.toNat)).toList ≠ [] := by
    simp [String.toList_append]
  have plain {middle : String} (whole : '/' ∉ middle.toList) (index : UInt16) :
      '/' ∉ (middle ++ ("-" ++ toString index.toNat)).toList := by
    simp only [String.toList_append, List.mem_append, not_or]
    exact ⟨whole, by decide, not_mem_index (by decide) index⟩
  simp only [socketPath, String.append_assoc] at same ⊢
  rw [Path.names_front_injective (solid _ _) (plain whole _) (solid _ _) (plain otherWhole _) same]

end Credentials

namespace Host

def NoFileAt (host : Host) (path : String) : Prop := ∀ place, host.placeOf? path = some place → ¬ host.hasFile place

theorem removeFile_ways (host : Host) (path : String) : (host.removeFile path).2.files.KeepsWays host.files := by
  intro place kind solid known
  rcases removeFile_cases host path with ⟨fault, same⟩ | ⟨gone, leads, -, -, same⟩
  · rwa [same] at known
  · rw [same, withoutNode, FileTree.kindAt_erase _ (FileTree.placeOf?_ne_nil leads)] at known
    split at known
    next => cases known
    next => exact known

theorem placeOf?_of_removeFile {host : Host} {path other : String} {place : Place}
    (leads : (host.removeFile path).2.placeOf? other = some place) : host.placeOf? other = some place := by
  have dir : (host.removeFile path).2.workDir = host.workDir := (host.removeFile_spares path).workDir
  rw [placeOf?, dir] at leads
  exact FileTree.placeOf?_keepsWays (host.removeFile_ways path) leads

theorem NoFileAt.removeFile {host : Host} {path : String} (none : host.NoFileAt path) (other : String) :
    (host.removeFile other).2.NoFileAt path :=
  fun place leads there => none place (placeOf?_of_removeFile leads) (hasFile_of_removeFile host other place there)

theorem removeFile_noFileAt (host : Host) (path : String) : (host.removeFile path).2.NoFileAt path := by
  intro place leads there
  have led := placeOf?_of_removeFile leads
  rw [removeFile_of_hasFile led (hasFile_of_removeFile host path place there),
    hasFile_withoutNode host (FileTree.placeOf?_ne_nil led)] at there
  exact there.1 rfl

end Host

theorem Connection.cleanupSockets_noFileAt {connection : Connection} (ipc : connection.transport = .ipc) (host : Host)
    (channel : Channel) : (connection.cleanupSockets host).NoFileAt (connection.credentials.ipcPath channel) := by
  have stays (channels : List Channel) (host : Host) {path : String} (none : host.NoFileAt path) :
      (channels.foldl (fun host channel => (host.removeFile (connection.credentials.ipcPath channel)).2) host).NoFileAt
        path := by
    induction channels generalizing host with
    | nil => exact none
    | cons first rest ih => exact ih _ (none.removeFile _)
  have goes (channels : List Channel) (among : channel ∈ channels) (host : Host) :
      (channels.foldl (fun host channel => (host.removeFile (connection.credentials.ipcPath channel)).2) host).NoFileAt
        (connection.credentials.ipcPath channel) := by
    induction channels generalizing host with
    | nil => exact absurd among List.not_mem_nil
    | cons first rest ih =>
      rcases List.mem_cons.mp among with rfl | later
      · exact stays rest _ (Host.removeFile_noFileAt host _)
      · exact ih later _
  rw [cleanupSockets, ipc]
  exact goes Channel.all (Channel.mem_all channel) host

end Mooring
