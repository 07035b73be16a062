import Mooring.Connector.Operations

/-! The last names of paths. That of a kernel file tells the kernel, and no socket file has such a name. -/

namespace Mooring

namespace Path

theorem pieces_append (front tail : List Char) (whole : '/' ∉ tail) :
    ∃ init last, pieces front = init ++ [last] ∧ pieces (front ++ tail) = init ++ [last ++ tail] := by
  induction front with
  | nil =>
    refine ⟨[], [], rfl, ?_⟩
    induction tail with
    | nil => rfl
    | cons c rest ih =>
      rw [List.mem_cons, not_or] at whole
      have more : pieces rest = [rest] := ih whole.2
      simp [pieces, Ne.symm whole.1, more]
  | cons c rest ih =>
    obtain ⟨init, last, before, after⟩ := ih
    by_cases slash : c = '/'
    · exact ⟨[] :: init, last, by simp [pieces, slash, before], by simp [pieces, slash, after]⟩
    · cases init with
      | nil => exact ⟨[], c :: last, by simp [pieces, slash, before], by simp [pieces, slash, after]⟩
      | cons first init =>
        exact ⟨(c :: first) :: init, last, by simp [pieces, slash, before], by simp [pieces, slash, after]⟩

theorem pieces_slash (front : List Char) : ∃ first init, pieces (front ++ ['/']) = first :: (init ++ [[]]) := by
  induction front with
  | nil => exact ⟨[], [], rfl⟩
  | cons c rest ih =>
    obtain ⟨first, init, same⟩ := ih
    by_cases slash : c = '/'
    · exact ⟨[], first :: init, by simp [pieces, slash, same]⟩
    · exact ⟨c :: first, init, by simp [pieces, slash, same]⟩

theorem getLast?_append_solid {α : Type} (front : List α) {tail : List α} (solid : tail ≠ []) :
    (front ++ tail).getLast? = tail.getLast? := by
  rw [List.getLast?_append, List.getLast?_eq_some_getLast solid, Option.some_or]

theorem getLast?_names {path : String} {init : List (List Char)} {last : List Char} (open_ : endsWithSlash path = false)
    (split : pieces path.toList = init ++ [last]) (solid : last ≠ []) :
    (names path).getLast? = some (String.ofList last) := by
  unfold names
  rw [open_, split]
  simp [solid]

theorem endsWithSlash_append (front : String) {tail : String} (solid : tail.toList ≠ []) (whole : '/' ∉ tail.toList) :
    endsWithSlash (front ++ tail) = false := by
  unfold endsWithSlash
  rw [String.toList_append, getLast?_append_solid _ solid, decide_eq_false_iff_not]
  exact fun last => whole (List.mem_of_getLast? last)

theorem isAbsolute_of_whole {name : String} (whole : '/' ∉ name.toList) : isAbsolute name = false := by
  unfold isAbsolute
  split
  next rest same => exact absurd (same ▸ List.mem_cons_self) whole
  next => rfl

theorem getLast?_names_join (base : String) {name : String} (solid : name.toList ≠ []) (whole : '/' ∉ name.toList) :
    (names (join base name)).getLast? = some name := by
  have relative := isAbsolute_of_whole whole
  have last (front : List Char) (clear : ∃ init, pieces front = init ++ [[]]) :
      ∃ init, pieces (front ++ name.toList) = init ++ [name.toList] := by
    obtain ⟨init, last, before, after⟩ := pieces_append front name.toList whole
    obtain ⟨init', empty⟩ := clear
    rw [before] at empty
    obtain ⟨rfl, none⟩ := List.append_inj' empty rfl
    cases none
    exact ⟨init, after⟩
  unfold join
  rw [relative]
  simp only [Bool.false_eq_true, if_false]
  split
  next plain =>
    obtain ⟨init, split⟩ := last base.toList (by
      rw [Bool.or_eq_true] at plain
      rcases plain with empty | slash
      · rw [String.isEmpty_iff] at empty
        rw [empty]
        exact ⟨[], rfl⟩
      · obtain ⟨front, same⟩ := List.getLast?_eq_some_iff.mp (of_decide_eq_true slash)
        obtain ⟨first, init, pieces⟩ := pieces_slash front
        exact ⟨first :: init, same ▸ pieces⟩)
    rw [← String.toList_append] at split
    rw [getLast?_names (endsWithSlash_append base solid whole) split solid, String.ofList_toList]
  next =>
    obtain ⟨init, split⟩ := last (base ++ "/").toList (by
      obtain ⟨first, init, pieces⟩ := pieces_slash base.toList
      exact ⟨first :: init, String.toList_append ▸ pieces⟩)
    rw [← String.toList_append] at split
    rw [getLast?_names (endsWithSlash_append (base ++ "/") solid whole) split solid, String.ofList_toList]

theorem getLast?_names_append (front : String) {tail : String} (solid : tail.toList ≠ []) (whole : '/' ∉ tail.toList) :
    ∃ name, (names (front ++ tail)).getLast? = some name ∧ name.toList.getLast? = tail.toList.getLast? := by
  obtain ⟨init, last, _, split⟩ := pieces_append front.toList tail.toList whole
  refine ⟨String.ofList (last ++ tail.toList), ?_, ?_⟩
  · exact getLast?_names (endsWithSlash_append front solid whole) (String.toList_append ▸ split)
      (fun none => solid (List.append_eq_nil_iff.mp none).2)
  · rw [String.toList_ofList, getLast?_append_solid _ solid]

end Path

theorem Credentials.socketPath_getLast? (ip : String) (index : UInt16) :
    ∃ name, (Path.names (socketPath ip index)).getLast? = some name ∧
    ∃ c, name.toList.getLast? = some c ∧ c.isDigit := by
  have digits : (toString index.toNat).toList = Nat.toDigits 10 index.toNat := by
    rw [Nat.toString_eq_ofList_toDigits, String.toList_ofList]
  have isDigit : ∀ c ∈ (toString index.toNat).toList, c.isDigit := by
    rw [digits]
    exact fun c => Nat.isDigit_of_mem_toDigits (by decide) (by decide)
  have solid : (toString index.toNat).toList ≠ [] := by
    rw [digits]
    exact Nat.toDigits_ne_nil
  have whole : '/' ∉ (toString index.toNat).toList := fun slash => absurd (isDigit _ slash) (by decide)
  obtain ⟨name, last, ends⟩ := Path.getLast?_names_append (ip ++ "-") solid whole
  refine ⟨name, last, (toString index.toNat).toList.getLast solid, ?_, isDigit _ (List.getLast_mem solid)⟩
  rw [ends, List.getLast?_eq_some_getLast solid]

namespace World

theorem toList_fileName (id : String) : (fileName id).toList = "kernel-".toList ++ (id.toList ++ ".json".toList) := by
  simp [fileName, String.toList_append]

theorem fileName_injective {one two : String} (same : fileName one = fileName two) : one = two := by
  have lists := congrArg String.toList same
  rw [toList_fileName, toList_fileName, List.append_cancel_left_eq, List.append_cancel_right_eq] at lists
  exact String.toList_inj.mp lists

theorem fileName_solid (id : String) : (fileName id).toList ≠ [] := by
  rw [toList_fileName]
  simp

theorem clear_of_isValidId {id : String} (valid : isValidId id = true) : '/' ∉ id.toList := by
  simp only [isValidId, Bool.and_eq_true, Bool.not_eq_true', List.contains_eq_mem, decide_eq_false_iff_not] at valid
  exact valid.1.2

theorem fileName_whole {id : String} (valid : isValidId id = true) : '/' ∉ (fileName id).toList := by
  rw [toList_fileName]
  simp [clear_of_isValidId valid]

/-- The file of a kernel is called after it. -/
theorem getLast?_kernelPath (directory : String) {id : String} (valid : isValidId id = true) :
    (Path.names (Path.join directory (fileName id))).getLast? = some (fileName id) :=
  Path.getLast?_names_join directory (fileName_solid id) (fileName_whole valid)

theorem kernelPath_ne_empty (directory : String) {id : String} (valid : isValidId id = true) :
    Path.join directory (fileName id) ≠ "" := by
  intro empty
  have named := getLast?_kernelPath directory valid
  rw [empty] at named
  cases named

theorem socketPath_ne_fileName (ip : String) (index : UInt16) (id : String) :
    (Path.names (Credentials.socketPath ip index)).getLast? ≠ some (fileName id) := by
  intro same
  obtain ⟨name, last, c, ends, digit⟩ := Credentials.socketPath_getLast? ip index
  rw [same] at last
  cases last
  have letter : (fileName id).toList.getLast? = some 'n' := by
    rw [toList_fileName, ← List.append_assoc, Path.getLast?_append_solid _ (by decide)]
    rfl
  rw [letter] at ends
  cases ends
  exact absurd digit (by decide)

end World
end Mooring
