import Mooring.Json.Record
import Mooring.Proofs.Json.Passing

/-! What is known of a record that was read. If every field keeps what is known of the state, the whole record does, in
whichever of its two forms it is written. -/

namespace Mooring.Json

theorem foldMembers_keeps {ν σ : Type} {name : Reader ν} {member : σ → ν → Except Fault (Reader σ)} (good : σ → Prop)
    (step : ∀ {state next : σ} {named : ν} {reader : Reader σ} {text rest : List Char},
      member state named = .ok reader → reader text = .ok (next, rest) → good state → good next)
    {fuel : Nat} {first : Bool} {state final : σ} {text rest : List Char}
    (done : foldMembers name member fuel first state text = .ok (final, rest)) (fine : good state) : good final := by
  induction fuel generalizing first state text with
  | zero => cases done
  | succ fuel ih =>
    rcases foldMembers_eq_ok done with ⟨-, rfl⟩ | ⟨_, _, _, _, _, _, _, -, -, known, -, value, later⟩
    · exact fine
    · exact ih later (step known value fine)

theorem readOptional_eq_ok {α : Type} {reader : Reader α} {text rest : List Char} {value : Option α}
    (done : readOptional reader text = .ok (value, rest)) :
    value = none ∨ ∃ inner, value = some inner ∧ reader (skipBlank text) = .ok (inner, rest) := by
  unfold readOptional at done
  split at done
  next => exact .inl (withRest_eq_ok done).2
  next =>
    obtain ⟨inner, read, same⟩ := mapResult_eq_ok done
    exact .inr ⟨inner, same, read⟩

theorem Cursor.next?_eq_some {α : Type} {cursor further : Cursor} {reader : Reader α} {value : α}
    (taken : cursor.next? reader = .ok (some value, further)) : ∃ text rest, reader text = .ok (value, rest) := by
  cases cursor with
  | past => cases taken
  | inside first text =>
    rw [next?] at taken
    split at taken
    next => cases taken
    next => cases taken
    next item _ =>
      split at taken
      next => cases taken
      next read =>
        cases taken
        exact ⟨item, _, read⟩

namespace Record
variable {φ σ : Type} {record : Record φ σ} {good : σ → Prop}

/-- Whatever a field is read as, it keeps what is known of the state. -/
def Keeps (record : Record φ σ) (good : σ → Prop) : Prop :=
  ∀ (field : φ) (text rest : List Char) (change : σ → σ), record.reader field text = .ok (change, rest) →
    ∀ state, good state → good (change state)

theorem readField_keeps (keeps : record.Keeps good) {progress next : Progress φ σ} {field : φ} {text rest : List Char}
    (done : record.readField progress field text = .ok (next, rest))
    (fine : good progress.state) : good next.state := by
  obtain ⟨change, read, rfl⟩ := mapResult_eq_ok done
  exact keeps field text rest change read _ fine

theorem member_keeps [DecidableEq φ] (keeps : record.Keeps good) {fuel : Nat}
    {progress next : Progress φ σ} {name : String}
    {reader : Reader (Progress φ σ)} {text rest : List Char} (known : record.member fuel progress name = .ok reader)
    (done : reader text = .ok (next, rest)) (fine : good progress.state) : good next.state := by
  unfold member at known
  split at known
  next =>
    cases known
    obtain ⟨_, -, rfl⟩ := mapResult_eq_ok done
    exact fine
  next field _ =>
    split at known
    next => cases known
    next =>
      cases known
      exact readField_keeps keeps done fine

theorem readInOrder_keeps (keeps : record.Keeps good) {fields : List φ} {progress next : Progress φ σ}
    {cursor after : Cursor} (done : record.readInOrder fields progress cursor = .ok (next, after))
    (fine : good progress.state) : good next.state := by
  induction fields generalizing progress cursor with
  | nil =>
    cases done
    exact fine
  | cons field rest ih =>
    unfold readInOrder at done
    split at done
    next => cases done
    next =>
      cases done
      exact fine
    next read further taken =>
      obtain ⟨_, _, value⟩ := Cursor.next?_eq_some taken
      exact ih done (readField_keeps keeps value fine)

/-- What was read is what `finish` made of a state that all fields kept good. -/
theorem read_keeps [DecidableEq φ] (keeps : record.Keeps good) {τ : Type} {initial : σ} (fine : good initial)
    {finish : Bool → Progress φ σ → Except Fault τ} {text rest : List Char} {value : τ}
    (done : record.read initial finish text = .ok (value, rest)) :
    ∃ listed progress, finish listed progress = .ok value ∧ good progress.state := by
  unfold read at done
  split at done
  next => cases done
  next c body _ =>
    split at done
    next =>
      split at done
      next => cases done
      next progress after folded =>
        have kept : good progress.state :=
          foldMembers_keeps (fun progress => good progress.state) (member_keeps keeps) folded fine
        cases finished : finish false progress with
        | error fault =>
          rw [finished] at done
          cases done
        | ok whole =>
          rw [finished] at done
          cases done
          exact ⟨false, progress, finished, kept⟩
    next =>
      split at done
      next =>
        split at done
        next => cases done
        next progress cursor ordered =>
          have kept : good progress.state := readInOrder_keeps keeps ordered fine
          split at done
          next => cases done
          next whole finished =>
            obtain ⟨-, rfl⟩ := withRest_eq_ok done
            exact ⟨true, progress, finished, kept⟩
      next => cases done

end Record
end Mooring.Json
