import Mooring.Text.Utf8

/-! Text as bytes. Decoding undoes encoding, and it refuses all bytes that no text is encoded as. Bytes are shown as
they are exactly when some text is encoded as them. -/

namespace Mooring.Utf8

theorem isTail_iff (b : UInt8) : isTail b = true ↔ 0x80 ≤ b.toNat ∧ b.toNat ≤ 0xBF := by
  simp [isTail, UInt8.le_iff_toNat_le]

theorem isSecond_iff (a b : UInt8) : isSecond a b = true ↔
    (0x80 ≤ b.toNat ∧ b.toNat ≤ 0xBF) ∧ (a.toNat = 0xE0 → 0xA0 ≤ b.toNat) ∧ (a.toNat = 0xED → b.toNat ≤ 0x9F) ∧
      (a.toNat = 0xF0 → 0x90 ≤ b.toNat) ∧ (a.toNat = 0xF4 → b.toNat ≤ 0x8F) := by
  unfold isSecond
  simp only [← UInt8.toNat_inj]
  split
  next first =>
    simp [UInt8.le_iff_toNat_le] at first ⊢
    omega
  next notE0 =>
    split
    next first =>
      simp [UInt8.le_iff_toNat_le] at first ⊢
      omega
    next notED =>
      split
      next first =>
        simp [UInt8.le_iff_toNat_le] at first ⊢
        omega
      next notF0 =>
        split
        next first =>
          simp [UInt8.le_iff_toNat_le] at first ⊢
          omega
        next notF4 =>
          simp at notE0 notED notF0 notF4
          simp [isTail_iff, notE0, notED, notF0, notF4]

theorem toNat_ofNat {n : Nat} (small : n < 256) : (UInt8.ofNat n).toNat = n := UInt8.toNat_ofNat_of_lt' small

section Front
variable {a b c d : UInt8} (at_ : Nat) (rest : Bytes)

theorem decodeAt_one (first : a.toNat < 0x80) :
    decodeAt at_ (a :: rest) = (decodeAt (at_ + 1) rest).map (charOf a.toNat :: ·) := by
  rw [decodeAt.eq_def]
  simp only [UInt8.lt_iff_toNat_lt, UInt8.reduceToNat, first, if_true]

theorem decodeAt_two (first : 0xC2 ≤ a.toNat ∧ a.toNat < 0xE0) (second : isTail b = true) :
    decodeAt at_ (a :: b :: rest) =
      (decodeAt (at_ + 2) rest).map (charOf ((a.toNat - 0xC0) * 64 + (b.toNat - 0x80)) :: ·) := by
  rw [decodeAt.eq_def]
  simp only [UInt8.lt_iff_toNat_lt, UInt8.reduceToNat, second, if_true]
  rw [if_neg (by omega), if_neg (by omega), if_pos (by omega)]

theorem decodeAt_three (first : 0xE0 ≤ a.toNat ∧ a.toNat < 0xF0) (second : isSecond a b = true)
    (third : isTail c = true) : decodeAt at_ (a :: b :: c :: rest) =
      (decodeAt (at_ + 3) rest).map
        (charOf ((a.toNat - 0xE0) * 4096 + (b.toNat - 0x80) * 64 + (c.toNat - 0x80)) :: ·) := by
  rw [decodeAt.eq_def]
  simp only [UInt8.lt_iff_toNat_lt, UInt8.le_iff_toNat_le, UInt8.reduceToNat, second, third, not_true_eq_false,
    if_false]
  rw [if_neg (by omega), if_neg (by omega), if_neg (by omega), if_neg (by omega), if_pos (by omega)]

theorem decodeAt_four (first : 0xF0 ≤ a.toNat ∧ a.toNat < 0xF5) (second : isSecond a b = true)
    (third : isTail c = true) (fourth : isTail d = true) : decodeAt at_ (a :: b :: c :: d :: rest) =
      (decodeAt (at_ + 4) rest).map
        (charOf ((a.toNat - 0xF0) * 262144 + (b.toNat - 0x80) * 4096 + (c.toNat - 0x80) * 64
          + (d.toNat - 0x80)) :: ·) := by
  rw [decodeAt.eq_def]
  simp only [UInt8.lt_iff_toNat_lt, UInt8.le_iff_toNat_le, UInt8.reduceToNat, second, third, fourth,
    not_true_eq_false, if_false, if_true]
  rw [if_neg (by omega), if_neg (by omega), if_neg (by omega), if_neg (by omega), if_neg (by omega)]

end Front

/-- A character takes one step to decode. -/
theorem decodeAt_encodeChar (at_ : Nat) (char : Char) (rest : Bytes) :
    ∃ next, decodeAt at_ (String.utf8EncodeChar char ++ rest) = (decodeAt next rest).map (char :: ·) := by
  have valid : char.val.toNat < 0xD800 ∨ 0xDFFF < char.val.toNat ∧ char.val.toNat < 0x110000 := char.valid
  have back : charOf char.val.toNat = char := Char.ofNat_toNat char
  unfold String.utf8EncodeChar
  simp only
  generalize char.val.toNat = code at valid back
  split
  next one =>
    refine ⟨at_ + 1, ?_⟩
    rw [List.singleton_append, decodeAt_one at_ rest (by rw [toNat_ofNat (by omega)]; omega),
      toNat_ofNat (by omega), back]
  next =>
    split
    next two =>
      refine ⟨at_ + 2, ?_⟩
      rw [List.cons_append, List.singleton_append,
        decodeAt_two at_ rest (by rw [toNat_ofNat (by omega)]; omega)
          (by rw [isTail_iff, toNat_ofNat (by omega)]; omega),
        toNat_ofNat (by omega), toNat_ofNat (by omega),
        show (code / 64 % 32 + 192 - 0xC0) * 64 + (code % 64 + 128 - 0x80) = code by omega, back]
    next =>
      split
      next three =>
        refine ⟨at_ + 3, ?_⟩
        simp only [List.cons_append, List.nil_append]
        rw [decodeAt_three at_ rest (by rw [toNat_ofNat (by omega)]; omega)
            (by rw [isSecond_iff, toNat_ofNat (by omega), toNat_ofNat (by omega)]; omega)
            (by rw [isTail_iff, toNat_ofNat (by omega)]; omega),
          toNat_ofNat (by omega), toNat_ofNat (by omega), toNat_ofNat (by omega),
          show (code / 4096 % 16 + 224 - 0xE0) * 4096 + (code / 64 % 64 + 128 - 0x80) * 64 + (code % 64 + 128 - 0x80)
            = code by omega, back]
      next four =>
        refine ⟨at_ + 4, ?_⟩
        simp only [List.cons_append, List.nil_append]
        rw [decodeAt_four at_ rest (by rw [toNat_ofNat (by omega)]; omega)
            (by rw [isSecond_iff, toNat_ofNat (by omega), toNat_ofNat (by omega)]; omega)
            (by rw [isTail_iff, toNat_ofNat (by omega)]; omega)
            (by rw [isTail_iff, toNat_ofNat (by omega)]; omega),
          toNat_ofNat (by omega), toNat_ofNat (by omega), toNat_ofNat (by omega), toNat_ofNat (by omega),
          show (code / 262144 % 8 + 240 - 0xF0) * 262144 + (code / 4096 % 64 + 128 - 0x80) * 4096
            + (code / 64 % 64 + 128 - 0x80) * 64 + (code % 64 + 128 - 0x80) = code by omega, back]

theorem decodeAt_encode_append (text : List Char) (at_ : Nat) (rest : Bytes) :
    ∃ next, decodeAt at_ (encode text ++ rest) = (decodeAt next rest).map (text ++ ·) := by
  induction text generalizing at_ with
  | nil =>
    refine ⟨at_, ?_⟩
    cases decoded : decodeAt at_ rest <;> simp [encode, decoded, Except.map]
  | cons char more ih =>
    obtain ⟨after, step⟩ := decodeAt_encodeChar at_ char (encode more ++ rest)
    obtain ⟨next, others⟩ := ih after
    refine ⟨next, ?_⟩
    rw [encode, List.flatMap_cons, ← encode, List.append_assoc, step, others]
    cases decodeAt next rest <;> rfl

theorem decodeAt_encode (text : List Char) : ∀ at_, decodeAt at_ (encode text) = .ok text := by
  intro at_
  obtain ⟨next, read⟩ := decodeAt_encode_append text at_ []
  rw [List.append_nil] at read
  rw [read, decodeAt, Except.map, List.append_nil]

theorem decode_encode (text : List Char) : decode (encode text) = .ok text := decodeAt_encode text 0

theorem prefix_of_encode {text whole : List Char} {back : Bytes} (same : encode text ++ back = encode whole) :
    text <+: whole := by
  obtain ⟨next, read⟩ := decodeAt_encode_append text 0 back
  rw [same, decodeAt_encode] at read
  cases later : decodeAt next back with
  | error fault => simp [later, Except.map] at read
  | ok others =>
    rw [later] at read
    exact ⟨others, (Except.ok.inj read).symm⟩

/-- No text begins inside of a character. -/
theorem encode_ne_inside {char : Char} {text whole : List Char} {front inside back : Bytes} (nonempty : text ≠ [])
    (started : front ≠ []) (cut : inside ≠ []) (split : String.utf8EncodeChar char = front ++ inside) :
    encode text ++ back ≠ inside ++ encode whole := by
  intro same
  obtain ⟨first, others, rfl⟩ := List.exists_cons_of_ne_nil nonempty
  obtain ⟨byte, bytes, rfl⟩ := List.exists_cons_of_ne_nil cut
  have length : front.length < (String.utf8EncodeChar char).length := by simp [split]
  have inner : (String.utf8EncodeChar char)[front.length] = byte := by simp [split]
  have outer : (String.utf8EncodeChar first)[0]? = some byte := by
    have heads := congrArg List.head? same
    rw [encode, List.flatMap_cons, List.append_assoc, List.head?_append, List.head?_eq_getElem?] at heads
    have sized : 0 < (String.utf8EncodeChar first).length := by
      rw [String.length_utf8EncodeChar]
      exact Char.utf8Size_pos first
    simpa [List.getElem?_eq_getElem sized] using heads
  obtain ⟨_, byteIs⟩ := List.getElem?_eq_some_iff.mp outer
  have isFirst : byte.IsUTF8FirstByte := byteIs ▸ UInt8.isUTF8FirstByte_getElem_zero_utf8EncodeChar
  rw [← inner, UInt8.isUTF8FirstByte_getElem_utf8EncodeChar] at isFirst
  exact started (List.length_eq_zero_iff.mp isFirst)

theorem encode_infix_iff {text whole : List Char} : encode text <:+: encode whole ↔ text <:+: whole := by
  constructor
  · rintro ⟨front, back, same⟩
    by_cases empty : text = []
    · exact empty ▸ List.nil_infix
    rw [List.append_assoc] at same
    induction whole generalizing front with
    | nil =>
      rw [show encode [] = [] from rfl, List.append_eq_nil_iff] at same
      exact (prefix_of_encode (show encode text ++ back = encode [] from same.2)).isInfix
    | cons char others ih =>
      cases front with
      | nil => exact (prefix_of_encode same).isInfix
      | cons byte bytes =>
        -- What stands in front ends inside of the first character, or behind it.
        rw [show encode (char :: others) = String.utf8EncodeChar char ++ encode others from rfl,
          List.append_eq_append_iff] at same
        rcases same with ⟨inside, split, inner⟩ | ⟨later, -, outer⟩
        · by_cases aligned : inside = []
          · rw [aligned, List.nil_append] at inner
            exact (ih [] inner).trans (List.suffix_cons char others).isInfix
          · exact absurd inner (encode_ne_inside empty (List.cons_ne_nil byte bytes) aligned split)
        · exact (ih later outer.symm).trans (List.suffix_cons char others).isInfix
  · rintro ⟨front, back, rfl⟩
    exact ⟨encode front, encode back, by simp [encode]⟩

theorem val_charOf {code : Nat} (valid : code < 0xD800 ∨ 0xDFFF < code ∧ code < 0x110000) :
    (charOf code).val.toNat = code := by
  unfold charOf Char.ofNat
  rw [dif_pos valid]
  rfl

theorem ofNat_eq (byte : UInt8) {n : Nat} (same : n = byte.toNat) : UInt8.ofNat n = byte := by
  rw [same, UInt8.ofNat_toNat]

section Front
variable {a b c d : UInt8}

theorem encodeChar_one (first : a.toNat < 0x80) : String.utf8EncodeChar (charOf a.toNat) = [a] := by
  unfold String.utf8EncodeChar
  rw [val_charOf (by omega)]
  simp only
  rw [if_pos (by omega), UInt8.ofNat_toNat]

theorem encodeChar_two (first : 0xC2 ≤ a.toNat ∧ a.toNat < 0xE0) (second : isTail b = true) :
    String.utf8EncodeChar (charOf ((a.toNat - 0xC0) * 64 + (b.toNat - 0x80))) = [a, b] := by
  rw [isTail_iff] at second
  unfold String.utf8EncodeChar
  rw [val_charOf (by omega)]
  simp only
  rw [if_neg (by omega), if_pos (by omega), ofNat_eq a (by omega), ofNat_eq b (by omega)]

theorem encodeChar_three (first : 0xE0 ≤ a.toNat ∧ a.toNat < 0xF0) (second : isSecond a b = true)
    (third : isTail c = true) : String.utf8EncodeChar
      (charOf ((a.toNat - 0xE0) * 4096 + (b.toNat - 0x80) * 64 + (c.toNat - 0x80))) = [a, b, c] := by
  rw [isSecond_iff] at second
  rw [isTail_iff] at third
  unfold String.utf8EncodeChar
  rw [val_charOf (by omega)]
  simp only
  rw [if_neg (by omega), if_neg (by omega), if_pos (by omega)]
  rw [ofNat_eq a (by omega), ofNat_eq b (by omega), ofNat_eq c (by omega)]

theorem encodeChar_four (first : 0xF0 ≤ a.toNat ∧ a.toNat < 0xF5) (second : isSecond a b = true)
    (third : isTail c = true) (fourth : isTail d = true) : String.utf8EncodeChar
      (charOf ((a.toNat - 0xF0) * 262144 + (b.toNat - 0x80) * 4096 + (c.toNat - 0x80) * 64 + (d.toNat - 0x80)))
        = [a, b, c, d] := by
  rw [isSecond_iff] at second
  rw [isTail_iff] at third fourth
  unfold String.utf8EncodeChar
  rw [val_charOf (by omega)]
  simp only
  rw [if_neg (by omega), if_neg (by omega), if_neg (by omega)]
  rw [ofNat_eq a (by omega), ofNat_eq b (by omega), ofNat_eq c (by omega),
    ofNat_eq d (by omega)]

end Front

theorem encode_of_front {char : Char} {result : Except Fault (List Char)} {front rest : Bytes} {text : List Char}
    (same : String.utf8EncodeChar char = front)
    (later : ∀ {text : List Char}, result = .ok text → encode text = rest)
    (done : result.map (char :: ·) = .ok text) : encode text = front ++ rest := by
  cases result with
  | error fault => simp [Except.map] at done
  | ok others =>
    simp only [Except.map, Except.ok.injEq] at done
    rw [← done, encode, List.flatMap_cons, ← encode, same, later rfl]

theorem encode_of_decodeAt {at_ : Nat} {bytes : Bytes} {text : List Char} (done : decodeAt at_ bytes = .ok text) :
    encode text = bytes := by
  fun_induction decodeAt at_ bytes generalizing text
  all_goals simp only [UInt8.lt_iff_toNat_lt, UInt8.le_iff_toNat_le, UInt8.reduceToNat, Except.ok.injEq,
    reduceCtorEq] at *
  case case1 => rw [← done, encode, List.flatMap_nil]
  case case2 later first => exact encode_of_front (encodeChar_one first) later done
  case case6 second later notOne notLow first =>
    exact encode_of_front (encodeChar_two ⟨by omega, first⟩ second) later done
  case case12 second _ _ third later notOne notLow notTwo notHigh first =>
    exact encode_of_front
      (encodeChar_three ⟨by omega, first⟩ (Decidable.not_not.mp second) (Decidable.not_not.mp third)) later done
  case case14 second _ third _ _ fourth later notOne notLow notTwo notHigh notThree =>
    exact encode_of_front
      (encodeChar_four ⟨by omega, by omega⟩ (Decidable.not_not.mp second) (Decidable.not_not.mp third) fourth)
      later done

theorem encode_of_decode {bytes : Bytes} {text : List Char} (done : decode bytes = .ok text) : encode text = bytes :=
  encode_of_decodeAt done

theorem decode_isOk_iff (bytes : Bytes) :
    (∃ text, decode bytes = .ok text) ↔ bytes.toByteArray.IsValidUTF8 := by
  constructor
  next =>
    rintro ⟨text, done⟩
    refine ⟨text, ?_⟩
    rw [← encode_of_decode done]
    rfl
  next =>
    rintro ⟨text, same⟩
    refine ⟨text, ?_⟩
    have bytesSame : bytes = encode text := by
      have := congrArg (fun array => array.data.toList) same
      simpa [List.utf8Encode, encode] using this
    rw [bytesSame, decode_encode]

theorem eq_cons_of_map {char : Char} {result : Except Fault (List Char)} {text others : List Char}
    (later : ∀ {text}, result = .ok text → others = text) (done : result.map (char :: ·) = .ok text) :
    char :: others = text := by
  cases result with
  | error fault => simp [Except.map] at done
  | ok rest =>
    simp only [Except.map, Except.ok.injEq] at done
    rw [← done, later rfl]

theorem lossy_of_decodeAt {at_ : Nat} {bytes : Bytes} {text : List Char} (done : decodeAt at_ bytes = .ok text) :
    lossy bytes = text := by
  fun_induction decodeAt at_ bytes generalizing text
  case case1 => rw [← Except.ok.inj done, lossy]
  case case2 first later =>
    rw [lossy.eq_def]
    simp only [if_pos first]
    exact eq_cons_of_map later done
  case case6 notOne notLow second rest two tail later =>
    rw [lossy.eq_def]
    simp only [if_neg notOne, if_neg notLow, if_pos two, if_pos tail]
    exact eq_cons_of_map later done
  case case12 notOne notLow second notTwo notHigh isSecond third rest isTail three later =>
    rw [lossy.eq_def]
    simp only [if_neg notOne, if_neg notLow, if_neg notTwo, if_neg notHigh, if_neg isSecond, if_neg isTail,
      if_pos three]
    exact eq_cons_of_map later done
  case case14 notOne notLow second notTwo notHigh isSecond third isTail notThree fourth rest last later =>
    rw [lossy.eq_def]
    simp only [if_neg notOne, if_neg notLow, if_neg notTwo, if_neg notHigh, if_neg isSecond, if_neg isTail,
      if_neg notThree, if_pos last]
    exact eq_cons_of_map later done
  all_goals cases done

theorem lossy_encode (text : List Char) : lossy (encode text) = text := lossy_of_decodeAt (decode_encode text)

theorem isSecond_slash (first : UInt8) : isSecond first 0x2F = false := by
  rw [← Bool.not_eq_true, isSecond_iff]
  rintro ⟨⟨low, -⟩, -⟩
  exact absurd low (by decide)

theorem lossy_slash (front rest : Bytes) : lossy (front ++ 0x2F :: rest) = lossy front ++ '/' :: lossy rest := by
  have slash : lossy (0x2F :: rest) = '/' :: lossy rest := by
    rw [lossy.eq_def]
    rfl
  have noTail : isTail 0x2F = false := rfl
  fun_induction lossy front
  case case1 => exact slash
  all_goals
    simp only [List.cons_append, List.nil_append] at *
    rw [lossy.eq_def]
    simp only [*, isSecond_slash, if_true, if_false, ite_self, Bool.false_eq_true, not_false_eq_true]
theorem encode_lossy_iff (bytes : Bytes) : encode (lossy bytes) = bytes ↔ ∃ text, bytes = encode text := by
  constructor
  · intro same
    exact ⟨_, same.symm⟩
  · rintro ⟨text, rfl⟩
    rw [lossy_encode]

theorem mem_encodeChar {char : Char} {byte : UInt8} (among : byte ∈ String.utf8EncodeChar char)
    (small : byte.toNat < 0x80) : byte.toNat = char.toNat := by
  have valid : char.val.toNat < 0xD800 ∨ 0xDFFF < char.val.toNat ∧ char.val.toNat < 0x110000 := char.valid
  rw [Char.toNat]
  unfold String.utf8EncodeChar at among
  simp only at among
  generalize char.val.toNat = code at valid among
  split at among
  next one =>
    rw [List.mem_singleton] at among
    rw [among, toNat_ofNat (by omega)]
  next =>
    -- Every byte of a longer character is at least 0x80.
    exfalso
    split at among
    all_goals try split at among
    all_goals
      simp only [List.mem_cons, List.not_mem_nil, or_false] at among
      rcases among with rfl | rfl | rfl | rfl
      all_goals
        rw [toNat_ofNat (by omega)] at small
        omega

end Mooring.Utf8
