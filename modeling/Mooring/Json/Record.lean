import Mooring.Json.Reader

/-! Records of named fields. A record may be written as an object, with its fields in any order and
others among them, or as a list of its fields in their order, where fields at the end may be left
out. -/

namespace Mooring.Json

structure Record (φ σ : Type) where
  title : String
  fields : List φ
  nameOf : φ → String
  reader : φ → Reader (σ → σ)

namespace Record
variable {φ σ : Type} [DecidableEq φ]

structure Progress (φ σ : Type) where
  seen : List φ
  state : σ

def fieldNamed? (record : Record φ σ) (name : String) : Option φ :=
  record.fields.find? (fun field => decide (record.nameOf field = name))

def readField (record : Record φ σ) (progress : Progress φ σ) (field : φ) :
    Reader (Progress φ σ) := fun text =>
  mapResult (fun change => ⟨field :: progress.seen, change progress.state⟩) (record.reader field text)

/-- A field may come once; names that are no fields are passed over. -/
def member (record : Record φ σ) (fuel : Nat) (progress : Progress φ σ) (name : String) :
    Except Fault (Reader (Progress φ σ)) :=
  match record.fieldNamed? name with
  | none => .ok (fun text => mapResult (fun _ => progress) (skipValue fuel text))
  | some field =>
    if field ∈ progress.seen then .error (.duplicateField name)
    else .ok (record.readField progress field)

def readInOrder (record : Record φ σ) : List φ → Progress φ σ → Cursor →
    Except Fault (Progress φ σ × Cursor)
  | [], progress, cursor => .ok (progress, cursor)
  | field :: rest, progress, cursor =>
    match cursor.next? (record.readField progress field) with
    | .error fault => .error fault
    | .ok (none, cursor) => .ok (progress, cursor)
    | .ok (some progress, cursor) => readInOrder record rest progress cursor

/-- Reads a record, starting from a state in which no field is set. `finish` has the last word
before the closing bracket of a list is looked for; it is told whether the record is a list. -/
def read {τ : Type} (record : Record φ σ) (initial : σ)
    (finish : Bool → Progress φ σ → Except Fault τ) : Reader τ := fun text =>
  match skipBlank text with
  | [] => .error .truncated
  | c :: rest =>
    if c = openBrace then
      match foldMembers readName (record.member (rest.length + 1)) (rest.length + 1) true
          ⟨[], initial⟩ rest with
      | .error fault => .error fault
      | .ok (progress, rest) => withRest' (finish false progress) rest
    else if c = '[' then
      match readInOrder record record.fields ⟨[], initial⟩ (.inside true rest) with
      | .error fault => .error fault
      | .ok (progress, cursor) =>
        match finish true progress with
        | .error fault => .error fault
        | .ok value => withRest value cursor.close
    else .error (mismatch record.title (c :: rest))
where
  withRest' (value : Except Fault τ) (rest : List Char) : Except Fault (τ × List Char) :=
    value.map (fun value => (value, rest))

end Record
end Mooring.Json
