import Mooring.Json.Lexeme

/-! Readers for JSON values: a whole value, a value that is only passed over, and values of a wanted
type. Each takes the front of a text, past blanks, and gives the rest. -/

namespace Mooring.Json

def nextItem (first : Bool) (text : List Char) : Except Fault (Bool × List Char) :=
  match skipBlank text with
  | [] => .error .truncated
  | ']' :: rest => .ok (false, rest)
  | c :: rest =>
    if first then .ok (true, c :: rest)
    else if c = ',' then
      match skipBlank rest with
      | [] => .error .truncated
      | ']' :: _ => .error .malformed
      | rest => .ok (true, rest)
    else .error .malformed

def nextMember (first : Bool) (text : List Char) : Except Fault (Bool × List Char) :=
  match skipBlank text with
  | [] => .error .truncated
  | c :: rest =>
    if c = closeBrace then .ok (false, rest)
    else if first then (if c = '"' then .ok (true, rest) else .error .malformed)
    else if c = ',' then
      match skipBlank rest with
      | [] => .error .truncated
      | '"' :: rest => .ok (true, rest)
      | _ => .error .malformed
    else .error .malformed

def readColon (text : List Char) : Except Fault (List Char) :=
  match skipBlank text with
  | [] => .error .truncated
  | ':' :: rest => .ok rest
  | _ => .error .malformed

/-- Each round takes at least one character, so the length of the text suffices as `fuel`. -/
def readItems {α : Type} (item : Reader α) : Nat → Bool → Reader (List α)
  | 0, _, _ => .error .malformed
  | fuel + 1, first, text =>
    match nextItem first text with
    | .error fault => .error fault
    | .ok (false, rest) => .ok ([], rest)
    | .ok (true, rest) =>
      match item rest with
      | .error fault => .error fault
      | .ok (value, rest) =>
        match readItems item fuel false rest with
        | .error fault => .error fault
        | .ok (values, rest) => .ok (value :: values, rest)

/-- Folds the members of an object. `member` sees the name before the colon is read, so a name
that it refuses is the first fault. -/
def foldMembers {ν σ : Type} (name : Reader ν) (member : σ → ν → Except Fault (Reader σ)) :
    Nat → Bool → σ → Reader σ
  | 0, _, _, _ => .error .malformed
  | fuel + 1, first, state, text =>
    match nextMember first text with
    | .error fault => .error fault
    | .ok (false, rest) => .ok (state, rest)
    | .ok (true, rest) =>
      match name rest with
      | .error fault => .error fault
      | .ok (named, rest) =>
        match member state named with
        | .error fault => .error fault
        | .ok reader =>
          match readColon rest with
          | .error fault => .error fault
          | .ok rest =>
            match reader rest with
            | .error fault => .error fault
            | .ok (state, rest) => foldMembers name member fuel false state rest

def mapResult {α β : Type} (f : α → β) :
    Except Fault (α × List Char) → Except Fault (β × List Char)
  | .error fault => .error fault
  | .ok (value, rest) => .ok (f value, rest)

def withRest {α : Type} (value : α) : Except Fault (List Char) → Except Fault (α × List Char)
  | .error fault => .error fault
  | .ok rest => .ok (value, rest)

def readName : Reader String := fun text => mapResult String.ofList (readBody text)

def skipName : Reader Unit := fun text => withRest () (skipBody text)

def startsNumber (c : Char) : Bool := c = '-' || Text.isDigit c

def depthLimit : Nat := 127

/-- `depth` is how many lists and objects may still be entered. -/
def readValue : Nat → Nat → Reader Value
  | 0, _, _ => .error .malformed
  | fuel + 1, depth, text =>
    match skipBlank text with
    | [] => .error .truncated
    | c :: rest =>
      if c = 'n' then withRest .null (readWord ['u', 'l', 'l'] rest)
      else if c = 't' then withRest (.boolean true) (readWord ['r', 'u', 'e'] rest)
      else if c = 'f' then withRest (.boolean false) (readWord ['a', 'l', 's', 'e'] rest)
      else if c = '"' then mapResult (fun body => .text (String.ofList body)) (readBody rest)
      else if startsNumber c then mapResult .number (readNumber (c :: rest))
      else if c = '[' then
        if depth = 0 then .error .malformed
        else mapResult .list (readItems (readValue fuel (depth - 1)) (fuel + 1) true rest)
      else if c = openBrace then
        if depth = 0 then .error .malformed
        else
          let member (members : Members) (name : String) : Except Fault (Reader Members) :=
            .ok (fun text =>
              mapResult (fun value => insertByName name value members)
                (readValue fuel (depth - 1) text))
          mapResult .object (foldMembers readName member (fuel + 1) true [] rest)
      else .error .malformed

/-- Passing over has no limit of depth, and looks only at the shape of numbers and strings. -/
def skipValue : Nat → Reader Unit
  | 0, _ => .error .malformed
  | fuel + 1, text =>
    match skipBlank text with
    | [] => .error .truncated
    | c :: rest =>
      if c = 'n' then withRest () (readWord ['u', 'l', 'l'] rest)
      else if c = 't' then withRest () (readWord ['r', 'u', 'e'] rest)
      else if c = 'f' then withRest () (readWord ['a', 'l', 's', 'e'] rest)
      else if c = '"' then withRest () (skipBody rest)
      else if startsNumber c then withRest () (skipNumber (c :: rest))
      else if c = '[' then mapResult (fun _ => ()) (readItems (skipValue fuel) (fuel + 1) true rest)
      else if c = openBrace then
        foldMembers skipName (fun _ _ => .ok (skipValue fuel)) (fuel + 1) true () rest
      else .error .malformed

/-- What stands where something else was wanted. Lists and objects are not looked into. -/
def mismatch (wanted : String) (text : List Char) : Fault :=
  let found (description : Except Fault (String × List Char)) : Fault :=
    match description with
    | .error fault => fault
    | .ok (description, _) => .invalidType description wanted
  match skipBlank text with
  | [] => .truncated
  | c :: rest =>
    if c = 'n' then found (withRest Value.null.description (readWord ['u', 'l', 'l'] rest))
    else if c = 't' then found (withRest (booleanDescription true) (readWord ['r', 'u', 'e'] rest))
    else if c = 'f' then
      found (withRest (booleanDescription false) (readWord ['a', 'l', 's', 'e'] rest))
    else if c = '"' then
      found (mapResult (fun body => textDescription (String.ofList body)) (readBody rest))
    else if startsNumber c then found (mapResult Number.description (readNumber (c :: rest)))
    else if c = '[' then .invalidType "sequence" wanted
    else if c = openBrace then .invalidType "map" wanted
    else .malformed

def readString (text : List Char) : Except Fault (String × List Char) :=
  match skipBlank text with
  | '"' :: rest => mapResult String.ofList (readBody rest)
  | other => .error (mismatch "a string" other)

def wordOf (n : Number) : Except Fault UInt16 :=
  match n with
  | .natural value =>
    if value < UInt16.size then .ok (UInt16.ofNat value) else .error (.invalidValue n.description "u16")
  | .negative _ => .error (.invalidValue n.description "u16")
  | .float _ => .error (.invalidType n.description "u16")

def readWord16 (text : List Char) : Except Fault (UInt16 × List Char) :=
  match skipBlank text with
  | [] => .error .truncated
  | c :: rest =>
    if startsNumber c then
      match readNumber (c :: rest) with
      | .error fault => .error fault
      | .ok (n, rest) =>
        match wordOf n with
        | .error fault => .error fault
        | .ok value => .ok (value, rest)
    else .error (mismatch "u16" (c :: rest))

def readOptional {α : Type} (reader : Reader α) : Reader (Option α) := fun text =>
  match skipBlank text with
  | 'n' :: rest => withRest none (readWord ['u', 'l', 'l'] rest)
  | other => mapResult some (reader other)

def readStrings (text : List Char) : Except Fault (List String × List Char) :=
  match skipBlank text with
  | '[' :: rest => readItems readString (rest.length + 1) true rest
  | other => .error (mismatch "a sequence" other)

def readMap {α : Type} (reader : Reader α) : Reader (List (String × α)) := fun text =>
  match skipBlank text with
  | [] => .error .truncated
  | c :: rest =>
    if c = openBrace then
      let member (rows : List (String × α)) (name : String) :
          Except Fault (Reader (List (String × α))) :=
        .ok (fun text => mapResult (fun value => insertByName name value rows) (reader text))
      foldMembers readName member (rest.length + 1) true [] rest
    else .error (mismatch "a map" (c :: rest))

def readEnd {α : Type} : Except Fault (α × List Char) → Except Fault α
  | .error fault => .error fault
  | .ok (value, rest) => if (skipBlank rest).isEmpty then .ok value else .error .malformed

def Value.ofText (text : String) : Except Fault Value :=
  readEnd (readValue (text.toList.length + 1) depthLimit text.toList)

inductive Cursor
  | inside (first : Bool) (text : List Char)
  | past (rest : List Char)

def Cursor.next? {α : Type} (cursor : Cursor) (reader : Reader α) :
    Except Fault (Option α × Cursor) :=
  match cursor with
  | .past rest => .ok (none, .past rest)
  | .inside first text =>
    match nextItem first text with
    | .error fault => .error fault
    | .ok (false, rest) => .ok (none, .past rest)
    | .ok (true, rest) =>
      match reader rest with
      | .error fault => .error fault
      | .ok (value, rest) => .ok (some value, .inside false rest)

def Cursor.close (cursor : Cursor) : Except Fault (List Char) :=
  match cursor with
  | .past rest => .ok rest
  | .inside _ text =>
    match skipBlank text with
    | [] => .error .truncated
    | ']' :: rest => .ok rest
    | _ => .error .malformed

end Mooring.Json
