import Mooring.Connection.Basic
import Mooring.Proofs.Files.SocketPaths
import Mooring.Proofs.Text.Utf8

/-! Paths that need not be text. A path that ends in plain text is read like one of text, and it is shown with that text
at its end, but what stands in front of it is shown as it is only if it is text. -/

namespace Mooring

open Utf8 (ofString lossy)

namespace RawPath

theorem toList_spelled (path : RawPath) : path.spelled.toList = path.map Char.ofUInt8 := String.toList_ofList

@[simp] theorem ofSpelled_spelled (path : RawPath) : ofSpelled path.spelled = path := by
  have back (byte : UInt8) : (Char.ofUInt8 byte).toUInt8 = byte := UInt8.toUInt8_toUInt32 byte
  rw [ofSpelled, toList_spelled, List.map_map]
  exact (List.map_congr_left fun byte _ => back byte).trans (List.map_id path)

theorem spelled_injective {one two : RawPath} (same : one.spelled = two.spelled) : one = two := by
  rw [← ofSpelled_spelled one, same, ofSpelled_spelled]

theorem spelled_append (front back : RawPath) : spelled (front ++ back) = front.spelled ++ back.spelled := by
  rw [← String.toList_inj, String.toList_append, toList_spelled, toList_spelled, toList_spelled, List.map_append]

theorem ofString_append (front back : String) : ofString (front ++ back) = ofString front ++ ofString back := by
  simp [ofString, Utf8.encode]

theorem ofString_injective {one two : String} (same : ofString one = ofString two) : one = two := by
  have texts := congrArg lossy same
  rw [ofString, ofString, Utf8.lossy_encode, Utf8.lossy_encode] at texts
  exact String.toList_inj.mp texts

theorem length_le_ofString (text : String) : text.toList.length ≤ (ofString text).length := by
  rw [ofString]
  induction text.toList with
  | nil => exact Nat.zero_le _
  | cons char rest ih =>
    have some_ : 0 < (String.utf8EncodeChar char).length := by
      rw [String.length_utf8EncodeChar]
      exact Char.utf8Size_pos char
    rw [Utf8.encode, List.flatMap_cons, ← Utf8.encode, List.length_append, List.length_cons]
    omega

theorem spelled_whole {text : String} (whole : '/' ∉ text.toList) : '/' ∉ (spelled (ofString text)).toList := by
  rw [toList_spelled, List.mem_map]
  rintro ⟨byte, among, slash⟩
  obtain ⟨char, listed, part⟩ := List.mem_flatMap.mp among
  have isSlash : byte = 0x2F := by
    rw [← UInt8.toUInt8_toUInt32 byte]
    exact congrArg Char.toUInt8 slash
  have small := Utf8.mem_encodeChar part (isSlash ▸ by decide)
  have same : char = '/' := Char.toNat_inj.mp (small.symm.trans (isSlash ▸ rfl))
  exact whole (same ▸ listed)

/-- The path is the encoding of some text. -/
def IsText (path : RawPath) : Prop := ∃ text, path = ofString text

theorem isText_iff (path : RawPath) : path.IsText ↔ Utf8.encode (lossy path) = path := by
  rw [Utf8.encode_lossy_iff]
  constructor
  · rintro ⟨text, same⟩
    exact ⟨text.toList, same⟩
  · rintro ⟨text, same⟩
    exact ⟨String.ofList text, by rw [same, ofString, String.toList_ofList]⟩

def EndsPiece (front : RawPath) : Prop := front = [] ∨ ∃ before, front = before ++ [0x2F]

namespace EndsPiece
variable {front : RawPath}

theorem spelled (ends : front.EndsPiece) : Path.EndsPiece front.spelled := by
  rcases ends with rfl | ⟨before, rfl⟩
  · exact .inl rfl
  · refine .inr ⟨(RawPath.spelled before).toList, ?_⟩
    rw [spelled_append, String.toList_append]
    rfl

theorem ofString {front : String} (ends : Path.EndsPiece front) : EndsPiece (Utf8.ofString front) := by
  rcases ends with rfl | ⟨before, same⟩
  · exact .inl rfl
  · refine .inr ⟨Utf8.encode before, ?_⟩
    rw [Utf8.ofString, same, Utf8.encode, List.flatMap_append]
    rfl

theorem lossy_append (ends : front.EndsPiece) (text : String) :
    lossy (front ++ Utf8.ofString text) = lossy front ++ text.toList := by
  rcases ends with rfl | ⟨before, rfl⟩
  · exact Utf8.lossy_encode text.toList
  · rw [List.append_assoc, List.singleton_append, Utf8.lossy_slash, Utf8.lossy_slash, Utf8.ofString, Utf8.lossy_encode]
    simp [lossy]

end EndsPiece

def join (base path : RawPath) : RawPath := ofSpelled (Path.join base.spelled path.spelled)

theorem isText_slash (path : RawPath) : IsText (path ++ [0x2F]) ↔ path.IsText := by
  have shown : Utf8.encode (lossy (path ++ [0x2F])) = Utf8.encode (lossy path) ++ [0x2F] := by
    rw [Utf8.lossy_slash, Utf8.encode, List.flatMap_append, ← Utf8.encode]
    rfl
  rw [isText_iff, isText_iff, shown, List.append_left_inj]

/-- A name without slashes is put behind a front that does not depend on it, and that is text exactly when the path
is. -/
theorem join_front (base : RawPath) : ∃ front : RawPath, front.EndsPiece ∧ (front.IsText ↔ base.IsText) ∧
    ∀ name : RawPath, '/' ∉ name.spelled.toList → Path.join base.spelled name.spelled = spelled (front ++ name) := by
  by_cases plain : (base.spelled.isEmpty || Path.endsWithSlash base.spelled) = true
  · refine ⟨base, ?_, Iff.rfl, fun name whole => ?_⟩
    · rw [Bool.or_eq_true] at plain
      rcases plain with empty | slash
      · exact .inl (spelled_injective (String.isEmpty_iff.mp empty))
      · obtain ⟨before, same⟩ := List.getLast?_eq_some_iff.mp (of_decide_eq_true slash)
        rw [toList_spelled, List.map_eq_append_iff] at same
        obtain ⟨front, last, rfl, -, single⟩ := same
        obtain ⟨byte, rfl, isSlash⟩ := List.map_eq_singleton_iff.mp single
        refine .inr ⟨front, ?_⟩
        rw [← UInt8.toUInt8_toUInt32 byte]
        exact congrArg (fun char => front ++ [char.toUInt8]) isSlash
    · rw [Path.join, Path.isAbsolute_of_whole whole, plain, spelled_append]
      rfl
  · refine ⟨base ++ [0x2F], .inr ⟨base, rfl⟩, isText_slash base, fun name whole => ?_⟩
    rw [Path.join, Path.isAbsolute_of_whole whole, spelled_append, spelled_append]
    simp only [Bool.false_eq_true, if_false, if_neg plain]
    rfl

theorem solid_spelled {text : String} (solid : text.toList ≠ []) : (spelled (ofString text)).toList ≠ [] := by
  have long := length_le_ofString text
  intro empty
  rw [toList_spelled, List.map_eq_nil_iff] at empty
  rw [empty, List.length_nil, Nat.le_zero, List.length_eq_zero_iff] at long
  exact solid long

theorem endsWithSlash_spelled (text : String) :
    Path.endsWithSlash (spelled (ofString text)) = Path.endsWithSlash text := by
  by_cases slash : Path.endsWithSlash text = true
  · obtain ⟨before, same⟩ := List.getLast?_eq_some_iff.mp (of_decide_eq_true slash)
    rw [slash, Path.endsWithSlash, toList_spelled, ofString, same, Utf8.encode, List.flatMap_append, List.map_append,
      List.getLast?_append]
    rfl
  · rcases List.eq_nil_or_concat text.toList with empty | ⟨before, last, same⟩
    · rw [String.toList_eq_nil_iff.mp empty]
      rfl
    · have other : last ≠ '/' := by
        rintro rfl
        exact slash (decide_eq_true (List.getLast?_eq_some_iff.mpr ⟨before, List.concat_eq_append ▸ same⟩))
      have split : text = String.ofList before ++ String.singleton last := by
        rw [← String.toList_inj, same]
        simp
      have whole : '/' ∉ (String.singleton last).toList := by simpa using Ne.symm other
      rw [split, ofString_append, spelled_append, Path.endsWithSlash_append _ (by simp) whole,
        Path.endsWithSlash_append _ (solid_spelled (by simp)) (spelled_whole whole)]

theorem join_ofString (base : String) {name : String} (whole : '/' ∉ name.toList) :
    join (ofString base) (ofString name) = ofString (Path.join base name) := by
  have empty : (spelled (ofString base)).isEmpty = base.isEmpty := by
    rw [Bool.eq_iff_iff, String.isEmpty_iff, String.isEmpty_iff]
    constructor
    · intro none
      by_cases nil : base.toList = []
      · exact String.toList_eq_nil_iff.mp nil
      · exact absurd (String.toList_eq_nil_iff.mpr none) (solid_spelled nil)
    · rintro rfl
      rfl
  rw [join, Path.join, Path.join, Path.isAbsolute_of_whole whole, Path.isAbsolute_of_whole (spelled_whole whole), empty,
    endsWithSlash_spelled]
  simp only [Bool.false_eq_true, if_false]
  split
  next => rw [← spelled_append, ofSpelled_spelled, ofString_append]
  next =>
    rw [show "/" = spelled (ofString "/") from rfl, ← spelled_append, ← spelled_append, ofSpelled_spelled,
      ← ofString_append, ← ofString_append]
    rfl

end RawPath

namespace Connection

theorem ipBeside_front {front : RawPath} (ends : front.EndsPiece) (stem : String) (long : 2 < stem.toList.length)
    (whole : '/' ∉ stem.toList) :
    ipBeside (front ++ ofString (stem ++ ".json")) = String.ofList (lossy front) ++ (stem ++ "-ipc") := by
  have spelling : RawPath.spelled (front ++ ofString (stem ++ ".json")) =
      front.spelled ++ String.ofList ((RawPath.spelled (ofString stem)).toList ++ '.' :: "json".toList) := by
    rw [RawPath.spelled_append, RawPath.ofString_append, RawPath.spelled_append, String.ofList_append,
      String.ofList_toList]
    rfl
  have longer : 2 < (RawPath.spelled (ofString stem)).toList.length := by
    rw [RawPath.toList_spelled, List.length_map]
    exact Nat.lt_of_lt_of_le long (RawPath.length_le_ofString stem)
  have cut : RawPath.withoutExtension (front ++ ofString (stem ++ ".json")) = front ++ ofString stem := by
    rw [RawPath.withoutExtension, spelling,
      Path.withoutExtension_front ends.spelled _ _ longer (RawPath.spelled_whole whole)
      (by decide) (by decide), String.ofList_toList, ← RawPath.spelled_append, RawPath.ofSpelled_spelled]
  rw [ipBeside, cut, RawPath.shown, ends.lossy_append, ← String.toList_inj]
  simp [String.toList_append]

end Connection
end Mooring
