import Mathlib.Data.List.Basic
import Mooring.Proofs.Json.Lexeme
import Mooring.Ssh.Target

/-! Reading a printed target again. The user ends at the last `@`, and the host and the port are told apart by the
brackets around a host with colons, so a host that has brackets of its own may be taken for another one. -/

namespace Mooring.Ssh

section
variable {separator : Char} {text front rest : List Char}

theorem splitFirst_eq_none : splitFirst separator text = none ↔ separator ∉ text := by
  induction text with
  | nil => simp [splitFirst]
  | cons c others ih =>
    by_cases same : c = separator
    · simp [splitFirst, same]
    · simp [splitFirst, same, Ne.symm same, ih]

theorem splitFirst_append (clear : separator ∉ front) (rest : List Char) :
    splitFirst separator (front ++ separator :: rest) = some (front, rest) := by
  induction front with
  | nil => simp [splitFirst]
  | cons c others ih =>
    rw [List.mem_cons, not_or] at clear
    rw [List.cons_append, splitFirst, if_neg (Ne.symm clear.1), ih clear.2]
    rfl

theorem splitFirst_eq_some (split : splitFirst separator text = some (front, rest)) :
    text = front ++ separator :: rest ∧ separator ∉ front := by
  induction text generalizing front with
  | nil => cases split
  | cons c others ih =>
    unfold splitFirst at split
    split at split
    next same =>
      cases split
      exact ⟨same ▸ rfl, List.not_mem_nil⟩
    next different =>
      obtain ⟨⟨before, after⟩, later, same⟩ := Option.map_eq_some_iff.mp split
      cases same
      obtain ⟨whole, clear⟩ := ih later
      refine ⟨whole ▸ rfl, ?_⟩
      rw [List.mem_cons, not_or]
      exact ⟨Ne.symm different, clear⟩

theorem splitLast_append (front : List Char) (clear : separator ∉ rest) :
    splitLast separator (front ++ separator :: rest) = some (front, rest) := by
  have reversed : (front ++ separator :: rest).reverse = rest.reverse ++ separator :: front.reverse := by simp
  have split := splitFirst_append (mt List.mem_reverse.mp clear) front.reverse
  rw [splitLast, reversed, split]
  simp

theorem splitLast_eq_some (split : splitLast separator text = some (front, rest)) :
    text = front ++ separator :: rest ∧ separator ∉ rest := by
  obtain ⟨⟨after, before⟩, found, same⟩ := Option.map_eq_some_iff.mp split
  cases same
  obtain ⟨whole, clear⟩ := splitFirst_eq_some found
  refine ⟨?_, mt List.mem_reverse.mp clear⟩
  rw [← text.reverse_reverse, whole]
  simp

end

theorem mapM_digit {digits : List Nat} (small : ∀ d ∈ digits, d < 10) :
    (digits.map Nat.digitChar).mapM Text.digit? = some digits := by
  induction digits with
  | nil => rfl
  | cons d rest ih =>
    rw [List.forall_mem_cons] at small
    rw [List.map_cons, List.mapM_cons, Json.digit_digitChar d small.1, ih small.2]
    rfl

theorem mapM_digit_eq_none {text : List Char} {c : Char} (among : c ∈ text) (noDigit : Text.digit? c = none) :
    text.mapM Text.digit? = none := by
  induction text with
  | nil => cases among
  | cons first rest ih =>
    rw [List.mapM_cons]
    cases read : Text.digit? first with
    | none => rfl
    | some d =>
      have later : c ∈ rest := (List.mem_cons.mp among).resolve_left fun same => by
        rw [same, read] at noDigit
        cases noDigit
      rw [ih later]
      rfl

theorem readPort_eq_none {text : List Char} {c : Char} (among : c ∈ text) (noDigit : Text.digit? c = none)
    (noSign : c ≠ '+') : readPort text = none := by
  have none_ : Text.natural? text = none := by
    unfold Text.natural?
    split
    next rest =>
      have later : c ∈ rest := (List.mem_cons.mp among).resolve_left noSign
      simp [mapM_digit_eq_none later noDigit]
    next => simp [mapM_digit_eq_none among noDigit]
  rw [readPort, none_]

theorem readPort_digitChars (port : UInt16) : readPort (Decimal.digitChars port.toNat) = some port := by
  obtain ⟨digits, written, small, value, first, others, split, -⟩ := Json.digitChars_digits port.toNat
  have unsigned : Nat.digitChar first ≠ '+' := by
    have below : first < 10 := small first (split ▸ List.mem_cons_self)
    have signless : ∀ d < 10, Nat.digitChar d ≠ '+' := by decide
    exact signless first below
  have read : Text.natural? (Decimal.digitChars port.toNat) = some port.toNat := by
    unfold Text.natural?
    rw [written]
    split
    next rest same =>
      rw [split, List.map_cons] at same
      exact absurd (List.cons.inj same).1 unsigned
    next =>
      simp only [mapM_digit small]
      simp [split, Text.valueOfDigits, ← value]
  rw [readPort, read]
  simp only
  rw [if_pos port.toNat_lt, UInt16.ofNat_toNat]

theorem not_mem_digitChars {c : Char} (noDigit : c.isDigit = false) (n : Nat) : c ∉ Decimal.digitChars n := by
  intro among
  have isDigit := Nat.isDigit_of_mem_toDigits (by decide) (by decide) among
  rw [noDigit] at isDigit
  cases isDigit

namespace Target

def shownHost (host : List Char) : List Char := if ':' ∈ host then '[' :: host ++ [']'] else host

/-- A printed host can be told from its port: one with colons is put in brackets, so it may not close any, and one
without colons may not begin with a bracket. -/
def Legible (host : List Char) : Prop := if ':' ∈ host then ']' ∉ host else host.head? ≠ some '['

instance (host : List Char) : Decidable (Legible host) :=
  inferInstanceAs (Decidable (if ':' ∈ host then ']' ∉ host else host.head? ≠ some '['))

section
variable {host : List Char} (port : UInt16)

theorem readHostPort_bracketed (closed : ']' ∉ host) :
    readHostPort ('[' :: host ++ [']'] ++ ':' :: Decimal.digitChars port.toNat) = some (host, port) := by
  have split := splitFirst_append closed (':' :: Decimal.digitChars port.toNat)
  simp only [List.cons_append, List.append_assoc, List.nil_append, readHostPort, split,
    readPort_digitChars, Option.map_some]

theorem readHostPort_closed (closing : ']' ∈ host) :
    readHostPort ('[' :: host ++ [']'] ++ ':' :: Decimal.digitChars port.toNat) = none := by
  obtain ⟨front, back, whole, clear⟩ := List.eq_append_cons_of_mem closing
  have split := splitFirst_append clear (back ++ ']' :: ':' :: Decimal.digitChars port.toNat)
  have same : '[' :: host ++ [']'] ++ ':' :: Decimal.digitChars port.toNat =
      '[' :: (front ++ ']' :: (back ++ ']' :: ':' :: Decimal.digitChars port.toNat)) := by
    simp [whole]
  rw [same, readHostPort, split]
  cases back with
  | nil => rfl
  | cons c rest =>
    by_cases colon : c = ':'
    · subst colon
      have noPort : readPort (rest ++ ']' :: ':' :: Decimal.digitChars port.toNat) = none :=
        readPort_eq_none (List.mem_append_right rest List.mem_cons_self) (by decide) (by decide)
      simp only [List.cons_append, noPort, Option.map_none]
    · simp [colon]

theorem readHostPort_plain (plain : ':' ∉ host) (open_ : host.head? ≠ some '[') :
    readHostPort (host ++ ':' :: Decimal.digitChars port.toNat) = some (host, port) := by
  have split := splitFirst_append plain (Decimal.digitChars port.toNat)
  have onlyColon : (Decimal.digitChars port.toNat).contains ':' = false := by
    simpa using not_mem_digitChars (by decide) port.toNat
  unfold readHostPort
  split
  next bracketed same =>
    cases host with
    | nil => cases same
    | cons c rest => exact absurd (congrArg some (List.cons.inj same).1) open_
  next =>
    simp only [split, onlyColon, readPort_digitChars, Option.map_some]
    rfl

theorem readHostPort_open (begins : host.head? = some '[') (closed : ']' ∉ host) :
    readHostPort (host ++ ':' :: Decimal.digitChars port.toNat) = none := by
  obtain ⟨rest, rfl⟩ := List.head?_eq_some_iff.mp begins
  have never : splitFirst ']' (rest ++ ':' :: Decimal.digitChars port.toNat) = none := by
    rw [splitFirst_eq_none]
    simp only [List.mem_append, List.mem_cons, not_or]
    rw [List.mem_cons, not_or] at closed
    exact ⟨closed.2, by decide, not_mem_digitChars (by decide) port.toNat⟩
  rw [List.cons_append, readHostPort, never]

theorem readHostPort_shown (half : ']' ∉ host ∨ host.head? ≠ some '[') :
    readHostPort (shownHost host ++ ':' :: Decimal.digitChars port.toNat) =
      if Legible host then some (host, port) else none := by
  unfold shownHost Legible
  by_cases colon : ':' ∈ host
  · rw [if_pos colon]
    by_cases closing : ']' ∈ host
    · simp only [colon, closing, not_true_eq_false, if_true, if_false]
      exact readHostPort_closed port closing
    · simp only [colon, closing, not_false_eq_true, if_true]
      exact readHostPort_bracketed port closing
  · rw [if_neg colon]
    by_cases begins : host.head? = some '['
    · simp only [colon, begins, ne_eq, not_true_eq_false, if_false]
      exact readHostPort_open port begins (half.resolve_right (not_not_intro begins))
    · simp only [colon, begins, ne_eq, not_false_eq_true, if_true, if_false]
      exact readHostPort_plain port colon begins

end

/-- A host that is read is a part of the text, and it does not both begin with a bracket and close one. -/
theorem readHostPort_eq_some {text host : List Char} {port : UInt16} (read : readHostPort text = some (host, port)) :
    (∀ c ∈ host, c ∈ text) ∧ (']' ∉ host ∨ host.head? ≠ some '[') := by
  unfold readHostPort at read
  split at read
  next bracketed =>
    split at read
    next => cases read
    next inside port split =>
      obtain ⟨rfl, closed⟩ := splitFirst_eq_some split
      obtain ⟨_, -, same⟩ := Option.map_eq_some_iff.mp read
      cases same
      exact ⟨fun c among => List.mem_cons_of_mem _ (List.mem_append_left _ among), .inl closed⟩
    next inside split =>
      obtain ⟨rfl, closed⟩ := splitFirst_eq_some split
      cases read
      exact ⟨fun c among => List.mem_cons_of_mem _ (List.mem_append_left _ among), .inl closed⟩
    next => cases read
  next noBracket =>
    have open_ {front rest : List Char} (whole : text = front ++ rest) : front.head? ≠ some '[' := by
      intro begins
      obtain ⟨others, rfl⟩ := List.head?_eq_some_iff.mp begins
      exact noBracket _ whole
    split at read
    next front rest split =>
      obtain ⟨whole, -⟩ := splitFirst_eq_some split
      split at read
      next =>
        cases read
        exact ⟨fun c among => among, .inr (open_ (List.append_nil _).symm)⟩
      next =>
        obtain ⟨_, -, same⟩ := Option.map_eq_some_iff.mp read
        cases same
        exact ⟨fun c among => whole ▸ List.mem_append_left _ among, .inr (open_ whole)⟩
    next =>
      cases read
      exact ⟨fun c among => among, .inr (open_ (List.append_nil _).symm)⟩

theorem readUser_append {user rest : List Char} (named : user ≠ []) (clear : '@' ∉ rest) :
    readUser (user ++ '@' :: rest) = some (some user, rest) := by
  have split := splitLast_append user clear
  unfold readUser
  rw [split]
  cases user with
  | nil => exact absurd rfl named
  | cons c others => rfl

theorem not_mem_of_readUser {text rest : List Char} {user : Option (List Char)}
    (read : readUser text = some (user, rest)) :
    '@' ∉ rest := by
  unfold readUser at read
  split at read
  next => cases read
  next front behind _ split =>
    cases read
    exact (splitLast_eq_some split).2
  next split =>
    cases read
    rw [splitLast, Option.map_eq_none_iff, splitFirst_eq_none] at split
    exact mt List.mem_reverse.mpr split

theorem toList_text (target : Target) : target.text.toList =
    target.user.toList ++ '@' :: (shownHost target.host.toList ++ ':' :: Decimal.digitChars target.port.toNat) := by
  unfold text shownHost
  by_cases colon : ':' ∈ target.host.toList
  · simp [String.toList_append, colon, Decimal.digitChars]
  · simp [String.toList_append, colon, Decimal.digitChars]

/-- What is known about every target that was read. -/
theorem parseWith_eq_ok {defaultUser : Option String} {server : String} {target : Target}
    (read : parseWith defaultUser server = .ok target) :
    target.user ≠ "" ∧ target.host ≠ "" ∧ '@' ∉ target.host.toList ∧
      (']' ∉ target.host.toList ∨ target.host.toList.head? ≠ some '[') := by
  simp only [parseWith] at read
  split at read
  next => cases read
  next user rest userRead =>
    split at read
    next => cases read
    next => cases read
    next host port solid hostRead =>
      split at read
      next => cases read
      next name found =>
        cases read
        obtain ⟨within, half⟩ := readHostPort_eq_some hostRead
        have named := (Option.filter_eq_some_iff.mp found).2
        simp only [String.toList_ofList]
        refine ⟨?_, ?_, ?_, half⟩
        · rintro rfl
          cases named
        · intro empty
          exact solid (String.ofList_inj.mp empty)
        · exact fun sign => not_mem_of_readUser userRead (within _ sign)

/-- A target that was read and printed reads as that target again, whatever the user is by default, exactly when its
host is legible. Otherwise the text that was printed is no target at all. -/
theorem parseWith_text {defaultUser : Option String} {server : String} {target : Target}
    (read : parseWith defaultUser server = .ok target) (other : Option String) :
    parseWith other target.text =
      if Legible target.host.toList then .ok target else .error (.invalidAddress target.text) := by
  obtain ⟨named, solid, clear, half⟩ := parseWith_eq_ok read
  have behind : '@' ∉ shownHost target.host.toList ++ ':' :: Decimal.digitChars target.port.toNat := by
    rw [List.mem_append, not_or, List.mem_cons, not_or]
    refine ⟨?_, by decide, not_mem_digitChars (by decide) _⟩
    unfold shownHost
    split
    next => simpa using clear
    next => exact clear
  have user : readUser target.text.toList = some (some target.user.toList, _) :=
    toList_text target ▸ readUser_append (fun empty => named (String.toList_eq_nil_iff.mp empty)) behind
  simp only [parseWith, user, readHostPort_shown target.port half]
  by_cases legible : Legible target.host.toList
  · obtain ⟨c, rest, whole⟩ := List.exists_cons_of_ne_nil (fun empty => solid (String.toList_eq_nil_iff.mp empty))
    have back : String.ofList (c :: rest) = target.host := by rw [← whole, String.ofList_toList]
    have kept : (some target.user).filter (fun user => !user.isEmpty) = some target.user :=
      Option.filter_eq_some_iff.mpr ⟨rfl, by simpa using named⟩
    rw [if_pos legible, if_pos legible, whole]
    simp [kept, back]
  · rw [if_neg legible, if_neg legible]

theorem parseWith_text_bracketed :
    parseWith none "a@b@[fe80::1]:2200" = .ok ⟨"a@b", "fe80::1", 2200⟩ ∧
      parseWith (some "c") (text ⟨"a@b", "fe80::1", 2200⟩) = .ok ⟨"a@b", "fe80::1", 2200⟩ := by
  have read : parseWith none "a@b@[fe80::1]:2200" = .ok ⟨"a@b", "fe80::1", 2200⟩ := by decide +kernel
  refine ⟨read, ?_⟩
  rw [parseWith_text read (some "c"), if_pos (by decide +kernel)]

/-- A bracket inside brackets is printed without them, and a closing bracket in a bare address with colons is printed
inside brackets. Neither text is a target. -/
theorem text_not_read :
    (parseWith none "u@[[x]" = .ok ⟨"u", "[x", 22⟩ ∧ text ⟨"u", "[x", 22⟩ = "u@[x:22" ∧
      parseWith none "u@[x:22" = .error (.invalidAddress "u@[x:22")) ∧
    parseWith none "u@a:b]:c" = .ok ⟨"u", "a:b]:c", 22⟩ ∧ text ⟨"u", "a:b]:c", 22⟩ = "u@[a:b]:c]:22" ∧
      parseWith none "u@[a:b]:c]:22" = .error (.invalidAddress "u@[a:b]:c]:22") := by
  decide +kernel

end Target

end Mooring.Ssh
