import Mathlib.Data.List.DropRight
import Mooring.Proofs.Json.Lexeme

/-! Two readers on one text. When a reader succeeds, one that asks for less succeeds too and stops at
the same place: passing over a value takes exactly the text that reading it takes. -/

namespace Mooring.Json

section Fold
variable {ν σ : Type} {name : Reader ν} {member : σ → ν → Except Fault (Reader σ)}

theorem foldMembers_eq_ok {fuel : Nat} {first : Bool} {state final : σ} {text rest : List Char}
    (done : foldMembers name member (fuel + 1) first state text = .ok (final, rest)) :
    (nextMember first text = .ok (false, rest) ∧ final = state) ∨
      ∃ atName named atColon reader atValue next after, nextMember first text = .ok (true, atName) ∧
        name atName = .ok (named, atColon) ∧ member state named = .ok reader ∧ readColon atColon = .ok atValue ∧
        reader atValue = .ok (next, after) ∧ foldMembers name member fuel false next after = .ok (final, rest) := by
  rw [foldMembers] at done
  split at done
  next => cases done
  next ended =>
    cases done
    exact .inl ⟨ended, rfl⟩
  next atName found =>
    split at done
    next => cases done
    next named atColon read =>
      split at done
      next => cases done
      next reader known =>
        split at done
        next => cases done
        next atValue colon =>
          split at done
          next => cases done
          next next_ after value =>
            exact .inr ⟨atName, named, atColon, reader, atValue, next_, after, found, read, known, colon, value, done⟩

theorem foldMembers_back {good : σ → Prop}
    (back : ∀ {state next : σ} {named : ν} {reader : Reader σ} {text rest : List Char},
      member state named = .ok reader → reader text = .ok (next, rest) → good next → good state) :
    ∀ {fuel : Nat} {first : Bool} {state final : σ} {text rest : List Char},
      foldMembers name member fuel first state text = .ok (final, rest) → good final → good state := by
  intro fuel
  induction fuel with
  | zero =>
    intro _ _ _ _ _ done
    cases done
  | succ fuel ih =>
    intro first state final text rest done fine
    rcases foldMembers_eq_ok done with ⟨-, same⟩ | ⟨_, _, _, _, _, _, _, -, -, known, -, value, later⟩
    · exact same ▸ fine
    · exact back known value (ih later fine)

variable {μ τ : Type} {otherName : Reader μ} {otherMember : τ → μ → Except Fault (Reader τ)}

/-- A second reader of objects keeps up with the first, member by member. `related` carries over from
the states before a member to those after it, and that needs of the first reader what `good` says of
the state that it is about to reach. -/
theorem foldMembers_simulates (good : σ → Prop) (related : σ → τ → Prop) (view : ν → μ)
    (names : ∀ {text rest : List Char} {named : ν}, name text = .ok (named, rest) →
      otherName text = .ok (view named, rest))
    (back : ∀ {state next : σ} {named : ν} {reader : Reader σ} {text rest : List Char},
      member state named = .ok reader → reader text = .ok (next, rest) → good next → good state)
    (step : ∀ {state next : σ} {other : τ} {named : ν} {reader : Reader σ} {text rest : List Char},
      related state other → member state named = .ok reader → reader text = .ok (next, rest) → good next →
        ∃ otherReader otherNext, otherMember other (view named) = .ok otherReader ∧
          otherReader text = .ok (otherNext, rest) ∧ related next otherNext) :
    ∀ {fuel : Nat} {first : Bool} {state final : σ} {other : τ} {text rest : List Char},
      related state other → foldMembers name member fuel first state text = .ok (final, rest) → good final →
        ∃ otherFinal, foldMembers otherName otherMember fuel first other text = .ok (otherFinal, rest) ∧
          related final otherFinal := by
  intro fuel
  induction fuel with
  | zero =>
    intro _ _ _ _ _ _ _ done
    cases done
  | succ fuel ih =>
    intro first state final other text rest relates done fine
    rcases foldMembers_eq_ok done with ⟨ended, rfl⟩ |
      ⟨atName, named, atColon, reader, atValue, next, after, found, read, known, colon, value, later⟩
    · exact ⟨other, by rw [foldMembers, ended], relates⟩
    · obtain ⟨otherReader, otherNext, otherKnown, otherValue, stillRelates⟩ :=
        step relates known value (foldMembers_back back later fine)
      obtain ⟨otherFinal, otherLater, finalRelates⟩ := ih stillRelates later fine
      refine ⟨otherFinal, ?_, finalRelates⟩
      simp only [foldMembers, found, names read, otherKnown, colon, otherValue, otherLater]

end Fold

theorem readItems_passes {α : Type} {item : Reader α} {skip : Reader Unit}
    (each : ∀ {text rest : List Char} {value : α}, item text = .ok (value, rest) → skip text = .ok ((), rest)) :
    ∀ {fuel : Nat} {first : Bool} {text rest : List Char} {values : List α},
      readItems item fuel first text = .ok (values, rest) →
      ∃ units, readItems skip fuel first text = .ok (units, rest) := by
  intro fuel
  induction fuel with
  | zero =>
    intro _ _ _ _ done
    cases done
  | succ fuel ih =>
    intro first text rest values done
    rw [readItems] at done
    split at done
    next => cases done
    next ended =>
      cases done
      exact ⟨[], by rw [readItems, ended]⟩
    next found =>
      split at done
      next => cases done
      next read =>
        split at done
        next => cases done
        next later =>
          cases done
          obtain ⟨units, passed⟩ := ih later
          exact ⟨() :: units, by simp only [readItems, found, each read, passed]⟩

theorem readTrailing_eq_ok {text rest : List Char} {unit : Nat} (done : readTrailing text = .ok (unit, rest)) :
    ∃ more, text = '\\' :: 'u' :: more ∧ readUnit more = .ok (unit, rest) := by
  unfold readTrailing at done
  split at done
  next => cases done
  next => cases done
  next more =>
    split at done
    next => cases done
    next read =>
      split at done
      next =>
        cases done
        exact ⟨more, rfl, read⟩
      next => cases done
  next => cases done

theorem skipBody_escape {text more : List Char} (skipped : skipEscape text = .ok more) :
    skipBody ('\\' :: text) = skipBody more := by
  rw [skipBody]
  split
  next failed =>
    rw [skipped] at failed
    cases failed
  next again =>
    rw [skipped] at again
    cases again
    rfl

theorem skipEscape_unit {text rest : List Char} {unit : Nat} (read : readUnit text = .ok (unit, rest)) :
    skipEscape ('u' :: text) = .ok rest := by
  simp only [skipEscape, read]

theorem skipBody_readEscape {text rest : List Char} {c : Char} (read : readEscape text = .ok (c, rest)) :
    skipBody ('\\' :: text) = skipBody rest := by
  unfold readEscape at read
  split at read
  next => cases read
  next more =>
    split at read
    next => cases read
    next unit =>
      split at read
      next => cases read
      next =>
        split at read
        next =>
          split at read
          next => cases read
          next second =>
            simp only [Except.ok.injEq, Prod.mk.injEq] at read
            obtain ⟨-, rfl⟩ := read
            obtain ⟨behind, rfl, secondUnit⟩ := readTrailing_eq_ok second
            rw [skipBody_escape (skipEscape_unit unit), skipBody_escape (skipEscape_unit secondUnit)]
        next =>
          cases read
          exact skipBody_escape (skipEscape_unit unit)
  next letter others notUnit =>
    split at read
    next meaning known =>
      simp only [Except.ok.injEq, Prod.mk.injEq] at read
      obtain ⟨-, same⟩ := read
      subst same
      have skipped : skipEscape (letter :: others) = .ok others := by
        rw [skipEscape, known]
        next => rfl
        next => exact notUnit
      exact skipBody_escape skipped
    next => cases read

theorem skipBody_of_readBody {text body rest : List Char} (done : readBody text = .ok (body, rest)) :
    skipBody text = .ok rest := by
  fun_induction readBody text generalizing body rest
  all_goals simp only [reduceCtorEq, Except.ok.injEq, Prod.mk.injEq] at done
  case case2 rest =>
    obtain ⟨-, rfl⟩ := done
    rw [skipBody]
  case case5 rest _ more read _ _ _ later =>
    obtain ⟨-, rfl⟩ := done
    rw [skipBody_readEscape read, later]
    assumption
  case case8 c rest notQuote notMark printable _ _ _ later =>
    obtain ⟨-, rfl⟩ := done
    rw [skipBody, if_neg printable, later]
    all_goals assumption

theorem skipNumber_of_readNumber {text rest : List Char} {n : Number} (done : readNumber text = .ok (n, rest)) :
    skipNumber text = .ok rest := by
  unfold readNumber at done
  split at done
  next => cases done
  next number left read =>
    split at done
    next =>
      cases done
      simp only [skipNumber, read]
    next => cases done

theorem skipName_of_readName {text rest : List Char} {name : String} (done : readName text = .ok (name, rest)) :
    skipName text = .ok ((), rest) := by
  obtain ⟨body, read, -⟩ := mapResult_eq_ok done
  rw [skipName, skipBody_of_readBody read, withRest]

/-- A reader that passes over a value gets as far as one that reads it. -/
theorem skipValue_of_readValue : ∀ {fuel depth : Nat} {text rest : List Char} {value : Value},
    readValue fuel depth text = .ok (value, rest) → skipValue fuel text = .ok ((), rest) := by
  intro fuel
  induction fuel with
  | zero =>
    intro _ _ _ _ done
    cases done
  | succ fuel ih =>
    intro depth text rest value done
    rw [readValue] at done
    split at done
    next => cases done
    next c more found =>
      simp only [skipValue, found]
      split at done
      next same => rw [if_pos same, (withRest_eq_ok done).1, withRest]
      next notNull =>
      rw [if_neg notNull]
      split at done
      next same => rw [if_pos same, (withRest_eq_ok done).1, withRest]
      next notTrue =>
      rw [if_neg notTrue]
      split at done
      next same => rw [if_pos same, (withRest_eq_ok done).1, withRest]
      next notFalse =>
      rw [if_neg notFalse]
      split at done
      next same =>
        obtain ⟨body, read, -⟩ := mapResult_eq_ok done
        rw [if_pos same, skipBody_of_readBody read, withRest]
      next notText =>
      rw [if_neg notText]
      split at done
      next starts =>
        obtain ⟨number, read, -⟩ := mapResult_eq_ok done
        rw [if_pos starts, skipNumber_of_readNumber read, withRest]
      next notNumber =>
      rw [if_neg notNumber]
      split at done
      next same =>
        split at done
        next => cases done
        next =>
          obtain ⟨items, read, -⟩ := mapResult_eq_ok done
          obtain ⟨units, passed⟩ := readItems_passes ih read
          rw [if_pos same, passed, mapResult]
      next notList =>
      rw [if_neg notList]
      split at done
      next same =>
        split at done
        next => cases done
        next =>
          obtain ⟨members, read, -⟩ := mapResult_eq_ok done
          obtain ⟨_, passed, -⟩ : ∃ left, foldMembers skipName (fun _ _ => .ok (skipValue fuel)) (fuel + 1) true ()
              more = .ok (left, rest) ∧ True := by
            refine foldMembers_simulates (fun _ => True) (fun _ _ => True) (fun _ => ()) skipName_of_readName
              (fun _ _ _ => trivial) ?_ trivial read trivial
            intro _ _ _ _ _ _ _ _ known value _
            cases known
            obtain ⟨_, item, -⟩ := mapResult_eq_ok value
            exact ⟨_, (), rfl, ih item, trivial⟩
          rw [if_pos same]
          exact passed
      next => cases done

theorem readEnd_eq_ok_iff {α : Type} {result : Except Fault (α × List Char)} {value : α} :
    readEnd result = .ok value ↔ ∃ rest, result = .ok (value, rest) ∧ skipBlank rest = [] := by
  cases result with
  | error fault => simp [readEnd]
  | ok pair =>
    simp only [readEnd, List.isEmpty_iff]
    split
    next ended =>
      constructor
      · rintro ⟨⟩
        exact ⟨pair.2, rfl, ended⟩
      · rintro ⟨rest, ⟨⟩, -⟩
        rfl
    next more =>
      constructor
      · intro done
        cases done
      · rintro ⟨rest, ⟨⟩, ended⟩
        exact absurd ended more

theorem skipBlank_skipBlank (text : List Char) : skipBlank (skipBlank text) = skipBlank text :=
  List.dropWhile_idempotent isBlank text

theorem readString_skipBlank (text : List Char) : readString (skipBlank text) = readString text := by
  simp only [readString, skipBlank_skipBlank]

theorem readOptional_present {α : Type} {reader : Reader α} {text : List Char}
    (skips : reader (skipBlank text) = reader text) {c : Char} {rest : List Char} (found : skipBlank text = c :: rest)
    (present : c ≠ 'n') : readOptional reader text = mapResult some (reader text) := by
  unfold readOptional
  split
  next same =>
    rw [found] at same
    cases same
    exact absurd rfl present
  next => rw [skips]

theorem readString_eq_ok {text rest : List Char} {value : String} (done : readString text = .ok (value, rest)) :
    ∃ more, skipBlank text = '"' :: more := by
  unfold readString at done
  split at done
  next more found => exact ⟨more, found⟩
  next => cases done

theorem readValue_number {fuel depth : Nat} {text rest : List Char} {n : Number}
    (done : readValue (fuel + 1) depth text = .ok (.number n, rest)) :
    ∃ c more, skipBlank text = c :: more ∧ startsNumber c = true ∧ readNumber (c :: more) = .ok (n, rest) := by
  rw [readValue] at done
  split at done
  next => cases done
  next c more found =>
    refine ⟨c, more, found, ?_⟩
    split at done
    next => cases (withRest_eq_ok done).2
    next =>
    split at done
    next => cases (withRest_eq_ok done).2
    next =>
    split at done
    next => cases (withRest_eq_ok done).2
    next =>
    split at done
    next =>
      obtain ⟨_, -, same⟩ := mapResult_eq_ok done
      cases same
    next =>
    split at done
    next starts =>
      obtain ⟨_, read, same⟩ := mapResult_eq_ok done
      cases same
      exact ⟨starts, read⟩
    next =>
    split at done
    next =>
      split at done
      next => cases done
      next =>
        obtain ⟨_, -, same⟩ := mapResult_eq_ok done
        cases same
    next =>
    split at done
    next =>
      split at done
      next => cases done
      next =>
        obtain ⟨_, -, same⟩ := mapResult_eq_ok done
        cases same
    next => cases done

theorem readOptional_word16 {fuel depth : Nat} {text rest : List Char} {n : Number} {word : UInt16}
    (done : readValue (fuel + 1) depth text = .ok (.number n, rest)) (small : wordOf n = .ok word) :
    readOptional readWord16 text = .ok (some word, rest) := by
  obtain ⟨c, more, found, starts, read⟩ := readValue_number done
  have skips : readWord16 (skipBlank text) = readWord16 text := by simp only [readWord16, skipBlank_skipBlank]
  rw [readOptional_present skips found (startsNumber_cases starts).2.1]
  simp only [readWord16, found, starts, if_true, read, small, mapResult_ok]

end Mooring.Json
