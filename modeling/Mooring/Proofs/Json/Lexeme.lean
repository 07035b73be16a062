import Mooring.Json.Reader

/-! What the readers do with the smallest parts of a text: strings character by character, and the
numbers and strings that a printer writes. -/

namespace Mooring.Json

section Results
variable {α β : Type}

@[simp] theorem mapResult_ok (f : α → β) (value : α) (rest : List Char) :
    mapResult f (.ok (value, rest)) = .ok (f value, rest) := rfl

theorem mapResult_eq_ok {f : α → β} {result : Except Fault (α × List Char)} {mapped : β} {rest : List Char}
    (done : mapResult f result = .ok (mapped, rest)) : ∃ value, result = .ok (value, rest) ∧ mapped = f value := by
  cases result with
  | error fault => cases done
  | ok pair =>
    cases done
    exact ⟨pair.1, rfl, rfl⟩

theorem withRest_eq_ok {value given : α} {result : Except Fault (List Char)} {rest : List Char}
    (done : withRest given result = .ok (value, rest)) : result = .ok rest ∧ value = given := by
  cases result with
  | error fault => cases done
  | ok left =>
    cases done
    exact ⟨rfl, rfl⟩

end Results

theorem readBody_quote (rest : List Char) : readBody ('"' :: rest) = .ok ([], rest) := by rw [readBody]

theorem readBody_escape {c : Char} {text more : List Char} (read : readEscape text = .ok (c, more)) :
    readBody ('\\' :: text) = mapResult (c :: ·) (readBody more) := by
  rw [readBody]
  split
  next fault failed =>
    rw [read] at failed
    cases failed
  next again =>
    rw [read] at again
    cases again
    cases readBody more with
    | error fault => rfl
    | ok pair => rfl

theorem readBody_plain {c : Char} (notQuote : c ≠ '"') (notMark : c ≠ '\\') (printable : ¬ c.toNat < 0x20)
    (rest : List Char) : readBody (c :: rest) = mapResult (c :: ·) (readBody rest) := by
  rw [readBody, if_neg printable]
  case x => exact notQuote
  case x_1 => exact notMark
  cases readBody rest with
  | error fault => rfl
  | ok pair => rfl

theorem readEscape_simple {letter c : Char} (notUnit : letter ≠ 'u') (meaning : simpleEscape? letter = some c)
    (rest : List Char) : readEscape (letter :: rest) = .ok (c, rest) := by
  unfold readEscape
  split
  next same => cases same
  next same =>
    cases same
    exact absurd rfl notUnit
  next same =>
    cases same
    rw [meaning]

theorem unitOf_controlEscape : ∀ code < 0x20,
    controlEscape code = ['\\', 'u', '0', '0', Nat.digitChar (code / 16), Nat.digitChar (code % 16)] ∧
      unitOf? '0' '0' (Nat.digitChar (code / 16)) (Nat.digitChar (code % 16)) = some code := by
  decide +kernel

theorem readEscape_control {c : Char} (control : c.toNat < 0x20) (rest : List Char) :
    ∃ escape, controlEscape c.toNat = '\\' :: escape ∧ readEscape (escape ++ rest) = .ok (c, rest) := by
  obtain ⟨written, unit⟩ := unitOf_controlEscape c.toNat control
  refine ⟨_, written, ?_⟩
  have notTrailing : isTrailing c.toNat = false := by
    simp only [isTrailing, Bool.and_eq_false_iff, decide_eq_false_iff_not]
    omega
  have notLeading : isLeading c.toNat = false := by
    simp only [isLeading, Bool.and_eq_false_iff, decide_eq_false_iff_not]
    omega
  simp [readEscape, readUnit, unit, notTrailing, notLeading]

theorem readBody_escaped (c : Char) (rest : List Char) :
    readBody (escaped c ++ rest) = mapResult (c :: ·) (readBody rest) := by
  have mark (letter : Char) (notUnit : letter ≠ 'u') (meaning : simpleEscape? letter = some c) :
      readBody (['\\', letter] ++ rest) = mapResult (c :: ·) (readBody rest) :=
    readBody_escape (readEscape_simple notUnit meaning rest)
  have ofCode {code : Nat} (same : c.toNat = code) : some (Char.ofNat code) = some c := by
    rw [← same, Char.ofNat_toNat]
  unfold escaped
  split
  next same => exact mark '"' (by decide) (by rw [same]; rfl)
  next notQuote =>
  split
  next same => exact mark '\\' (by decide) (by rw [same]; rfl)
  next notMark =>
  split
  next same => exact mark 'b' (by decide) (ofCode same)
  next =>
  split
  next same => exact mark 'f' (by decide) (ofCode same)
  next =>
  split
  next same => exact mark 'n' (by decide) (by rw [same]; rfl)
  next =>
  split
  next same => exact mark 'r' (by decide) (by rw [same]; rfl)
  next =>
  split
  next same => exact mark 't' (by decide) (by rw [same]; rfl)
  next =>
  split
  next control =>
    obtain ⟨escape, written, read⟩ := readEscape_control control rest
    rw [written, List.cons_append]
    exact readBody_escape read
  next printable => exact readBody_plain notQuote notMark printable rest

theorem readBody_printed (text rest : List Char) :
    readBody (text.flatMap escaped ++ '"' :: rest) = .ok (text, rest) := by
  induction text with
  | nil => exact readBody_quote rest
  | cons c others ih => rw [List.flatMap_cons, List.append_assoc, readBody_escaped, ih, mapResult_ok]

/-- The text does not go on with what could belong to a number. -/
def EndsNumber (text : List Char) : Prop :=
  ∀ c, text.head? = some c → Text.digit? c = none ∧ c ≠ '.' ∧ isExponentMark c = false

theorem digit_digitChar : ∀ d < 10, Text.digit? (Nat.digitChar d) = some d := by decide

theorem digitChars_digits (n : Nat) : ∃ digits : List Nat, Decimal.digitChars n = digits.map Nat.digitChar ∧
    (∀ d ∈ digits, d < 10) ∧ digits.foldl (fun value d => value * 10 + d) 0 = n ∧
      ∃ first others, digits = first :: others ∧ (first = 0 → n = 0 ∧ others = []) := by
  unfold Decimal.digitChars
  induction n using Nat.strongRecOn with
  | ind n ih =>
    by_cases single : n < 10
    · refine ⟨[n], ?_, ?_, ?_, n, [], rfl, fun zero => ⟨zero, rfl⟩⟩
      · rw [Nat.toDigits_of_lt_base single, List.map_singleton]
      · simpa using single
      · simp
    · obtain ⟨digits, written, small, value, first, others, split, leading⟩ := ih (n / 10) (by omega)
      refine ⟨digits ++ [n % 10], ?_, ?_, ?_, first, others ++ [n % 10], ?_, ?_⟩
      · rw [Nat.toDigits_of_base_le (by omega) (by omega), written, List.map_append, List.map_singleton]
      · intro d among
        rcases List.mem_append.mp among with earlier | last
        · exact small d earlier
        · rw [List.mem_singleton.mp last]
          omega
      · rw [List.foldl_append, value]
        simp only [List.foldl_cons, List.foldl_nil]
        omega
      · rw [split, List.cons_append]
      · intro zero
        have := (leading zero).1
        omega

theorem takeDigits_of_ends {text : List Char} (ends : EndsNumber text) : takeDigits text = ([], text) := by
  cases text with
  | nil => rfl
  | cons c rest => rw [takeDigits, (ends c rfl).1]

theorem takeDigits_printed {digits : List Nat} (small : ∀ d ∈ digits, d < 10) {rest : List Char}
    (ends : EndsNumber rest) : takeDigits (digits.map Nat.digitChar ++ rest) = (digits, rest) := by
  induction digits with
  | nil => exact takeDigits_of_ends ends
  | cons d others ih =>
    rw [List.map_cons, List.cons_append, takeDigits, digit_digitChar d (small d List.mem_cons_self)]
    simp only [ih (fun d among => small d (List.mem_cons_of_mem _ among))]

theorem le_foldl_digits (digits : List Nat) (value : Nat) :
    value ≤ digits.foldl (fun value d => value * 10 + d) value := by
  induction digits generalizing value with
  | nil => exact Nat.le_refl value
  | cons d rest ih => exact Nat.le_trans (by omega) (ih (value * 10 + d))

theorem gather_of_lt {digits : List Nat} {value : Nat}
    (small : digits.foldl (fun value d => value * 10 + d) value < wordLimit) :
    gather value digits = (digits.foldl (fun value d => value * 10 + d) value, 0) := by
  induction digits generalizing value with
  | nil => rfl
  | cons d rest ih =>
    have below : value * 10 + d < wordLimit := Nat.lt_of_le_of_lt (le_foldl_digits rest (value * 10 + d)) small
    rw [gather, if_pos below, ih small, List.foldl_cons]

theorem readFraction_of_ends {text : List Char} (ends : EndsNumber text) : readFraction text = .ok ([], text) := by
  unfold readFraction
  split
  next rest => exact absurd rfl (ends '.' rfl).2.1
  next => rfl

theorem readExponent_of_ends {text : List Char} (ends : EndsNumber text) : readExponent text = .ok (none, text) := by
  cases text with
  | nil => rfl
  | cons c rest =>
    show (if isExponentMark c = true then _ else _) = _
    exact if_neg (by simp [(ends c rfl).2.2])

theorem startsNumber_cases {c : Char} (starts : startsNumber c = true) :
    isBlank c = false ∧ c ≠ 'n' ∧ c ≠ 't' ∧ c ≠ 'f' ∧ c ≠ '"' ∧ c ≠ '[' ∧ c ≠ openBrace := by
  have among : ∀ code < 0x80, startsNumber (Char.ofNat code) = true →
      isBlank (Char.ofNat code) = false ∧ Char.ofNat code ≠ 'n' ∧ Char.ofNat code ≠ 't' ∧ Char.ofNat code ≠ 'f' ∧
        Char.ofNat code ≠ '"' ∧ Char.ofNat code ≠ '[' ∧ Char.ofNat code ≠ openBrace := by
    decide +kernel
  have small : c.toNat < 0x80 := by
    simp only [startsNumber, Text.isDigit, Text.digit?, Bool.or_eq_true, decide_eq_true_eq] at starts
    rcases starts with rfl | digit
    · decide
    · split at digit
      next range =>
        have upper : c.toNat ≤ '9'.toNat := range.2
        exact Nat.lt_of_le_of_lt upper (by decide)
      next => cases digit
  have checked := among c.toNat small
  rw [Char.ofNat_toNat] at checked
  exact checked starts

theorem startsNumber_digitChar : ∀ d < 10, startsNumber (Nat.digitChar d) = true ∧ Nat.digitChar d ≠ '-' := by decide

theorem readNumberText_whole {text rest : List Char} {digits : List Nat} (unsigned : text.head? ≠ some '-')
    (whole : readWhole text = .ok (digits, rest)) (ends : EndsNumber rest) :
    readNumberText text = .ok (⟨false, digits, [], none⟩, rest) := by
  unfold readNumberText
  split
  next negative left taken =>
    have noSign : negative = false ∧ left = text := by
      split at taken
      next more => exact absurd rfl unsigned
      next =>
        cases taken
        exact ⟨rfl, rfl⟩
    obtain ⟨rfl, rfl⟩ := noSign
    simp only [whole, readFraction_of_ends ends, readExponent_of_ends ends]

theorem digitChars_head (n : Nat) :
    ∃ c rest, Decimal.digitChars n = c :: rest ∧ startsNumber c = true ∧ c ≠ '-' := by
  obtain ⟨digits, written, small, -, first, others, same, -⟩ := digitChars_digits n
  subst same
  have starts := startsNumber_digitChar first (small first List.mem_cons_self)
  exact ⟨_, _, by rw [written, List.map_cons], starts⟩

theorem readNumber_printed {n : Nat} (small : n < wordLimit) {rest : List Char} (ends : EndsNumber rest) :
    readNumber (Decimal.digitChars n ++ rest) = .ok (.natural n, rest) := by
  obtain ⟨digits, written, below, value, first, others, same, leading⟩ := digitChars_digits n
  obtain ⟨c, tail, head, -, unsigned⟩ := digitChars_head n
  have whole : readWhole (Decimal.digitChars n ++ rest) = .ok (digits, rest) := by
    unfold readWhole
    rw [written, takeDigits_printed below ends, same]
    cases first with
    | succ d => rfl
    | zero =>
      cases (leading rfl).2
      rfl
  have text : readNumberText (Decimal.digitChars n ++ rest) = .ok (⟨false, digits, [], none⟩, rest) :=
    readNumberText_whole (by simp [head, unsigned]) whole ends
  have gathered : gather 0 digits = (n, 0) := by
    rw [gather_of_lt (by rw [value]; exact small), value]
  have exact_ : NumberText.value? ⟨false, digits, [], none⟩ = some (.natural n) := by
    simp [NumberText.value?, gathered]
  simp only [readNumber, text, exact_]

end Mooring.Json
