import Mooring.Text.Utf8

/-! Patterns for file names. `*` stands for any bytes and `?` for one; brackets hold characters and
ranges of which one byte has to stand, or, after `!` or `^`, may not stand; braces hold alternatives
between commas; a backslash takes the meaning off what follows. Two stars between slashes span
directories. -/

namespace Mooring

namespace Glob

inductive Token
  | literal (c : Char)
  | anyByte
  | anyBytes
  | leadingDirectories
  | trailingDirectories
  | innerDirectories
  | oneOf (negated : Bool) (ranges : List (Char × Char))
  | alternatives (branches : List (List Token))
  deriving Inhabited

inductive Fault
  | unclosedClass
  | invalidRange (first last : Char)
  | unclosedAlternatives
  | unopenedAlternatives
  | danglingEscape
  deriving DecidableEq, Repr

def Fault.reason : Fault → String
  | .unclosedClass => "unclosed character class; missing ']'"
  | .invalidRange first last =>
    String.ofList ("invalid range; '".toList ++ [first] ++ "' > '".toList ++ [last, '\''])
  | .unclosedAlternatives =>
    "unclosed alternate group; missing '\x7d' (maybe escape '\x7b' with '[\x7b]'?)"
  | .unopenedAlternatives =>
    "unopened alternate group; missing '\x7b' (maybe escape '\x7d' with '[\x7d]'?)"
  | .danglingEscape => "dangling '\\'"

def Fault.message (pattern : String) (fault : Fault) : String :=
  "error parsing glob '" ++ pattern ++ "': " ++ fault.reason

/-- Alternatives that are open: the branches that are complete and the one that grows, each with the
last token first. -/
structure Group where
  branches : List (List Token)
  current : List Token

/-- What has been read: open groups, the innermost first, around the tokens outside of all groups. -/
structure Draft where
  groups : List Group
  outer : List Token

namespace Draft

def current (draft : Draft) : List Token :=
  match draft.groups with
  | [] => draft.outer
  | group :: _ => group.current

def withCurrent (draft : Draft) (tokens : List Token) : Draft :=
  match draft.groups with
  | [] => { draft with outer := tokens }
  | group :: rest => { draft with groups := { group with current := tokens } :: rest }

def push (draft : Draft) (token : Token) : Draft := draft.withCurrent (token :: draft.current)

def openGroup (draft : Draft) : Draft := { draft with groups := ⟨[], []⟩ :: draft.groups }

def nextBranch (draft : Draft) : Draft :=
  match draft.groups with
  | [] => draft.push (.literal ',')
  | group :: rest => { draft with groups := ⟨group.current.reverse :: group.branches, []⟩ :: rest }

def closeGroup (draft : Draft) : Except Fault Draft :=
  match draft.groups with
  | [] => .error .unopenedAlternatives
  | group :: rest =>
    let branches := (group.current.reverse :: group.branches).reverse
    .ok ({ draft with groups := rest }.push (.alternatives branches))

end Draft

def isSeparator (c : Option Char) : Bool := c = some '/'

def openBrace : Char := Char.ofNat 0x7B

def closeBrace : Char := Char.ofNat 0x7D

def readStars (previous : Option Char) (text : List Char) (draft : Draft) : Draft × List Char :=
  let plain := (draft.push .anyBytes).push .anyBytes
  let grouped := !draft.groups.isEmpty
  if draft.current.isEmpty then
    match text with
    | [] => (draft.push .leadingDirectories, [])
    | '/' :: rest => (draft.push .leadingDirectories, rest)
    | text => (plain, text)
  else if !isSeparator previous
      && (!grouped || (previous ≠ some ',' && previous ≠ some openBrace)) then (plain, text)
  else
    let replace (token : Token) : Draft :=
      match draft.current with
      | .leadingDirectories :: rest => draft.withCurrent (.leadingDirectories :: rest)
      | .trailingDirectories :: rest => draft.withCurrent (.trailingDirectories :: rest)
      | _ :: rest => draft.withCurrent (token :: rest)
      | [] => draft
    match text with
    | [] => (replace .trailingDirectories, [])
    | '/' :: rest => (replace .innerDirectories, rest)
    | c :: rest =>
      if grouped && (c = ',' || c = closeBrace) then (replace .trailingDirectories, c :: rest)
      else (plain, c :: rest)

/-- The inside of brackets. `ranges` has the last range first; `open_` says that its end follows. -/
def readClass : List (Char × Char) → Bool → List Char →
    Except Fault (List (Char × Char) × List Char)
  | _, _, [] => .error .unclosedClass
  | ranges, open_, c :: rest =>
    if c = ']' ∧ ¬ ranges.isEmpty then
      .ok ((if open_ then ('-', '-') :: ranges else ranges).reverse, rest)
    else
      match ranges, open_ with
      | (first, _) :: done, true =>
        if c < first then .error (.invalidRange first c) else readClass ((first, c) :: done) false rest
      | ranges, _ =>
        if c = '-' ∧ ¬ ranges.isEmpty then readClass ranges true rest
        else readClass ((c, c) :: ranges) false rest

/-- Each round takes at least one character, so the length of the text suffices as `fuel`. -/
def readTokens : Nat → Option Char → List Char → Draft → Except Fault Draft
  | 0, _, _, draft => .ok draft
  | _ + 1, _, [], draft => .ok draft
  | fuel + 1, previous, c :: rest, draft =>
    if c = '?' then readTokens fuel (some c) rest (draft.push .anyByte)
    else if c = '*' then
      match rest with
      | '*' :: rest =>
        let (draft, left) := readStars previous rest draft
        let last := if left.length < rest.length then '/' else '*'
        readTokens fuel (some last) left draft
      | rest => readTokens fuel (some c) rest (draft.push .anyBytes)
    else if c = '[' then
      let (negated, inside) := match rest with
        | '!' :: inside => (true, inside)
        | '^' :: inside => (true, inside)
        | inside => (false, inside)
      match readClass [] false inside with
      | .error fault => .error fault
      | .ok (ranges, left) => readTokens fuel (some ']') left (draft.push (.oneOf negated ranges))
    else if c = openBrace then readTokens fuel (some c) rest draft.openGroup
    else if c = closeBrace then
      match draft.closeGroup with
      | .error fault => .error fault
      | .ok draft => readTokens fuel (some c) rest draft
    else if c = ',' then readTokens fuel (some c) rest draft.nextBranch
    else if c = '\\' then
      match rest with
      | [] => .error .danglingEscape
      | meant :: rest => readTokens fuel (some meant) rest (draft.push (.literal meant))
    else readTokens fuel (some c) rest (draft.push (.literal c))

end Glob

structure Glob where
  tokens : List Glob.Token

namespace Glob

def parse (pattern : String) : Except Fault Glob :=
  let text := pattern.toList
  match readTokens (text.length + 1) none text ⟨[], []⟩ with
  | .error fault => .error fault
  | .ok draft =>
    if draft.groups.isEmpty then .ok ⟨draft.outer.reverse⟩ else .error .unclosedAlternatives

def suffixes : Bytes → List Bytes
  | [] => [[]]
  | b :: rest => (b :: rest) :: suffixes rest

def afterSeparator : Bytes → List Bytes
  | [] => []
  | b :: rest => if b = 0x2F then [rest] else []

def afterEachSeparator (text : Bytes) : List Bytes := (suffixes text).flatMap afterSeparator

def afterLiteral : Bytes → Bytes → List Bytes
  | [], text => [text]
  | _ :: _, [] => []
  | b :: wanted, c :: text => if b = c then afterLiteral wanted text else []

/-- The bytes of a character, or between the last byte of one and the first byte of another. -/
def rangeHolds (range : Char × Char) (b : UInt8) : Bool :=
  let first := Utf8.encode [range.1]
  let last := Utf8.encode [range.2]
  if range.1 = range.2 then first.contains b
  else
    first.contains b || last.contains b
      || (match first.getLast?, last.head? with
        | some low, some high => decide (low ≤ b) && decide (b ≤ high)
        | _, _ => false)

mutual
/-- Whether a branch says nothing at all. Such a branch of alternatives is left out. -/
def isVoid : List Token → Bool
  | [] => true
  | .alternatives branches :: rest => areVoid branches && isVoid rest
  | _ :: _ => false

def areVoid : List (List Token) → Bool
  | [] => true
  | branch :: rest => isVoid branch && areVoid rest
end

mutual
def Token.rests (token : Token) (text : Bytes) : List Bytes :=
  match token with
  | .literal c => afterLiteral (Utf8.encode [c]) text
  | .anyByte => text.tail?.toList
  | .anyBytes => suffixes text
  | .leadingDirectories => text :: afterEachSeparator text
  | .trailingDirectories => (afterSeparator text).flatMap suffixes
  | .innerDirectories =>
    (afterSeparator text).flatMap (fun rest => rest :: afterEachSeparator rest)
  | .oneOf negated ranges =>
    match text with
    | [] => []
    | b :: rest => if ranges.any (fun range => rangeHolds range b) != negated then [rest] else []
  | .alternatives branches =>
    if areVoid branches then [text] else branchRests branches text

def branchRests (branches : List (List Token)) (text : Bytes) : List Bytes :=
  match branches with
  | [] => []
  | branch :: rest =>
    (if isVoid branch then [] else sequenceRests branch [text]) ++ branchRests rest text

def sequenceRests (tokens : List Token) (texts : List Bytes) : List Bytes :=
  match tokens with
  | [] => texts
  | token :: rest => sequenceRests rest (texts.flatMap token.rests).eraseDups
end

def fits (glob : Glob) (name : String) : Bool :=
  match glob.tokens with
  | [.leadingDirectories] => true
  | tokens => (sequenceRests tokens [Utf8.ofString name]).contains []

end Glob
end Mooring
