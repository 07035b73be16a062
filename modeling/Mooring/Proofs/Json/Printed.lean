import Mooring.Proofs.Json.Lexeme

/-! Reading what a printer wrote. Blanks between the parts of a value do not matter, and an object
gives its members back one by one, in their order. -/

namespace Mooring.Json

theorem skipBlank_cons {c : Char} (notBlank : isBlank c = false) (rest : List Char) :
    skipBlank (c :: rest) = c :: rest := by
  rw [skipBlank, List.dropWhile_cons_of_neg (by rw [notBlank]; decide)]

def AllBlank (blanks : List Char) : Prop := ∀ c ∈ blanks, isBlank c = true

theorem skipBlank_append {blanks : List Char} (blank : AllBlank blanks) (text : List Char) :
    skipBlank (blanks ++ text) = skipBlank text :=
  List.dropWhile_append_of_pos blank

theorem skipBlank_append_cons {blanks : List Char} (blank : AllBlank blanks) {c : Char} (notBlank : isBlank c = false)
    (rest : List Char) : skipBlank (blanks ++ c :: rest) = c :: rest := by
  rw [skipBlank_append blank, skipBlank_cons notBlank]

theorem quoted_append (text : String) (rest : List Char) :
    quoted text ++ rest = '"' :: (text.toList.flatMap escaped ++ '"' :: rest) := by
  simp [quoted, quotedChars]

theorem readString_quoted {blanks : List Char} (blank : AllBlank blanks) (text : String) (rest : List Char) :
    readString (blanks ++ quoted text ++ rest) = .ok (text, rest) := by
  unfold readString
  rw [List.append_assoc, quoted_append, skipBlank_append_cons blank (by decide)]
  simp only [readBody_printed, mapResult_ok, String.ofList_toList]

theorem readValue_startsNumber {text : List Char} {c : Char} {rest : List Char} (found : skipBlank text = c :: rest)
    (starts : startsNumber c = true) (fuel depth : Nat) :
    readValue (fuel + 1) depth text = mapResult .number (readNumber (c :: rest)) := by
  obtain ⟨-, notN, notT, notF, notQuote, -, -⟩ := startsNumber_cases starts
  rw [readValue, found]
  simp only [notN, notT, notF, notQuote, starts, if_false, if_true]

theorem readValue_natural {blanks : List Char} (blank : AllBlank blanks) {n : Nat} (small : n < wordLimit)
    {rest : List Char} (ends : EndsNumber rest) (fuel depth : Nat) :
    readValue (fuel + 1) depth (blanks ++ Decimal.digitChars n ++ rest) = .ok (.natural n, rest) := by
  obtain ⟨c, others, written, starts, -⟩ := digitChars_head n
  have found : skipBlank (blanks ++ Decimal.digitChars n ++ rest) = c :: (others ++ rest) := by
    rw [List.append_assoc, written, List.cons_append, skipBlank_append_cons blank (startsNumber_cases starts).1]
  rw [readValue_startsNumber found starts, ← List.cons_append, ← written, readNumber_printed small ends]
  rfl

def laidOut (line gap : List Char) (shown : Value → List Char) (first : Bool) : Members → List Char
  | [] => []
  | (name, value) :: rest =>
    (if first then [] else [',']) ++ line ++ quoted name ++ ':' :: (gap ++ shown value)
      ++ laidOut line gap shown false rest

theorem prettyMembers_eq_laidOut (depth : Nat) (first : Bool) (members : Members) :
    Value.prettyMembers depth first members =
      laidOut (Value.indent depth) [' '] (Value.prettyChars depth) first members := by
  induction members generalizing first with
  | nil => rfl
  | cons member rest ih =>
    obtain ⟨name, value⟩ := member
    rw [Value.prettyMembers, laidOut, ih]
    simp

theorem allBlank_indent (depth : Nat) : AllBlank (Value.indent depth) := by
  intro c among
  simp only [Value.indent, List.mem_cons, List.mem_replicate] at among
  rcases among with rfl | ⟨-, rfl⟩ <;> rfl

theorem endsNumber_of_blank_or_comma {c : Char} (kind : isBlank c = true ∨ c = ',' ∨ c = closeBrace)
    (rest : List Char) : EndsNumber (c :: rest) := by
  rintro other ⟨⟩
  simp only [isBlank, Bool.or_eq_true, decide_eq_true_eq] at kind
  rcases kind with (((rfl | rfl) | rfl) | rfl) | rfl | rfl <;> decide

section Members
variable {σ : Type} (line gap : List Char) (shown : Value → List Char) (member : σ → String → Except Fault (Reader σ))

/-- A member that is read from its printed form, whatever stands behind it in an object. -/
def Takes (state : σ) (name : String) (value : Value) (next : σ) : Prop :=
  ∃ reader, member state name = .ok reader ∧
    ∀ rest, EndsNumber rest → reader (gap ++ shown value ++ rest) = .ok (next, rest)

inductive TakesAll : σ → Members → σ → Prop
  | nil (state : σ) : TakesAll state [] state
  | cons {state next final : σ} {name : String} {value : Value} {rest : Members}
      (first : Takes gap shown member state name value next) (later : TakesAll next rest final) :
      TakesAll state ((name, value) :: rest) final

theorem TakesAll.append {state middle final : σ} {front back : Members}
    (earlier : TakesAll gap shown member state front middle) (later : TakesAll gap shown member middle back final) :
    TakesAll gap shown member state (front ++ back) final := by
  induction earlier with
  | nil => exact later
  | cons first _ ih => exact .cons first (ih later)

variable {line gap shown member}

theorem endsNumber_laidOut {tail : List Char} (ends : EndsNumber tail) (members : Members) :
    EndsNumber (laidOut line gap shown false members ++ tail) := by
  cases members with
  | nil => exact ends
  | cons row rest =>
    obtain ⟨name, value⟩ := row
    exact endsNumber_of_blank_or_comma (.inr (.inl rfl)) _

theorem nextMember_name {text rest : List Char} (found : skipBlank text = '"' :: rest) :
    nextMember true text = .ok (true, rest) := by
  have notClose : '"' ≠ closeBrace := by decide
  simp only [nextMember, found, notClose, if_false, if_true]

theorem nextMember_comma {text more rest : List Char} (found : skipBlank text = ',' :: more)
    (name : skipBlank more = '"' :: rest) : nextMember false text = .ok (true, rest) := by
  have notClose : ',' ≠ closeBrace := by decide
  simp only [nextMember, found, name, notClose, Bool.false_eq_true, if_false, if_true]

theorem nextMember_laidOut (blank : AllBlank line) (first : Bool) (name : String) (rest : List Char) :
    nextMember first ((if first then [] else [',']) ++ line ++ quoted name ++ rest) =
      .ok (true, name.toList.flatMap escaped ++ '"' :: rest) := by
  have atName : skipBlank (line ++ quoted name ++ rest) = '"' :: (name.toList.flatMap escaped ++ '"' :: rest) := by
    rw [List.append_assoc, quoted_append, skipBlank_append_cons blank (by decide)]
  cases first with
  | true => exact nextMember_name atName
  | false => exact nextMember_comma (skipBlank_cons (by decide) _) atName

theorem readColon_cons (rest : List Char) : readColon (':' :: rest) = .ok rest := by
  simp only [readColon, skipBlank_cons (show isBlank ':' = false by decide)]

/-- An object that is printed is read member by member. -/
theorem foldMembers_laidOut (blank : AllBlank line) {state final : σ} {members : Members}
    (takes : TakesAll gap shown member state members final) {close : List Char} (closeBlank : AllBlank close)
    (tail : List Char) : ∀ (fuel : Nat) (first : Bool), members.length < fuel →
      foldMembers readName member fuel first state (laidOut line gap shown first members ++ close ++ closeBrace :: tail)
        = .ok (final, tail) := by
  induction takes with
  | nil state =>
    intro fuel first enough
    obtain ⟨fuel, rfl⟩ := Nat.exists_eq_add_one_of_ne_zero (Nat.ne_of_gt enough)
    rw [laidOut, List.nil_append, foldMembers, nextMember, skipBlank_append_cons closeBlank (by decide)]
    simp
  | @cons state next final name value rest taken later ih =>
    intro fuel first enough
    obtain ⟨fuel, rfl⟩ := Nat.exists_eq_add_one_of_ne_zero (Nat.ne_of_gt (Nat.lt_of_le_of_lt (Nat.zero_le _) enough))
    obtain ⟨reader, known, read⟩ := taken
    have ends : EndsNumber (laidOut line gap shown false rest ++ (close ++ closeBrace :: tail)) := by
      refine endsNumber_laidOut ?_ rest
      cases close with
      | nil => exact endsNumber_of_blank_or_comma (.inr (.inr rfl)) _
      | cons c others => exact endsNumber_of_blank_or_comma (.inl (closeBlank c List.mem_cons_self)) _
    have split : laidOut line gap shown first ((name, value) :: rest) ++ close ++ closeBrace :: tail =
        (if first then [] else [',']) ++ line ++ quoted name ++ (':' :: (gap ++ shown value ++
          (laidOut line gap shown false rest ++ (close ++ closeBrace :: tail)))) := by
      simp [laidOut]
    have named (after : List Char) : readName (name.toList.flatMap escaped ++ '"' :: after) = .ok (name, after) := by
      rw [readName, readBody_printed, mapResult_ok, String.ofList_toList]
    rw [split, foldMembers]
    simp only [nextMember_laidOut blank, named, known, readColon_cons, read _ ends]
    rw [← List.append_assoc]
    exact ih fuel false (Nat.lt_of_succ_lt_succ enough)

end Members

theorem length_le_laidOut (line gap : List Char) (shown : Value → List Char) (first : Bool) (members : Members) :
    members.length ≤ (laidOut line gap shown first members).length := by
  induction members generalizing first with
  | nil => exact Nat.zero_le _
  | cons row rest ih =>
    obtain ⟨name, value⟩ := row
    have := ih false
    simp only [laidOut, List.length_cons, List.length_append]
    omega

end Mooring.Json
