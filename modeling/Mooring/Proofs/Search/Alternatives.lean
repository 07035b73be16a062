import Mathlib.Data.List.Infix
import Mooring.Proofs.Text.Utf8
import Mooring.Search

/-! Patterns without wild characters. Braces hold alternatives between commas, and a backslash takes the meaning off
what follows; all else stands for itself. Such a pattern is read whenever its braces close, and it spells finitely
many texts. -/

namespace Mooring.Glob

def isPlain (grouped : Bool) (c : Char) : Bool :=
  !(Search.isWild c || c = '\\' || c = openBrace || c = closeBrace || grouped && c = ',')

theorem isPlain_of_ne {c : Char} (wildless : Search.isWild c = false) (backslash : c ≠ '\\') (opening : c ≠ openBrace)
    (closing : c ≠ closeBrace) (comma : c ≠ ',') (grouped : Bool) : isPlain grouped c = true := by
  simp [isPlain, wildless, backslash, opening, closing, comma]

/-- What a text is read as: the alternatives between braces, and one outside of all braces. -/
inductive Written : Bool → List (List Token) → List Char → Prop
  | nil {grouped : Bool} : Written grouped [[]] []
  | plain {grouped : Bool} {branch : List Token} {others : List (List Token)} {text : List Char} {c : Char}
      (plain : isPlain grouped c = true) (written : Written grouped (branch :: others) text) :
      Written grouped ((.literal c :: branch) :: others) (c :: text)
  | escaped {grouped : Bool} {branch : List Token} {others : List (List Token)} {text : List Char} (c : Char)
      (written : Written grouped (branch :: others) text) :
      Written grouped ((.literal c :: branch) :: others) ('\\' :: c :: text)
  | group {grouped : Bool} {branches : List (List Token)} {branch : List Token} {others : List (List Token)}
      {inside text : List Char} (within : Written true branches inside)
        (written : Written grouped (branch :: others) text) :
      Written grouped ((.alternatives branches :: branch) :: others) (openBrace :: inside ++ closeBrace :: text)
  | comma {branches : List (List Token)} {text : List Char} (written : Written true branches text) :
      Written true ([] :: branches) (',' :: text)

theorem Written.exists_cons {grouped : Bool} {branches : List (List Token)} {text : List Char}
    (written : Written grouped branches text) : ∃ branch others, branches = branch :: others := by
  cases written <;> exact ⟨_, _, rfl⟩

namespace Draft

@[simp] theorem groups_length_push (draft : Draft) (token : Token) :
    (draft.push token).groups.length = draft.groups.length := by
  obtain ⟨groups, outer⟩ := draft
  cases groups <;> rfl

@[simp] theorem groups_length_nextBranch (draft : Draft) : draft.nextBranch.groups.length = draft.groups.length := by
  obtain ⟨groups, outer⟩ := draft
  cases groups <;> rfl

@[simp] theorem isEmpty_groups_push (draft : Draft) (token : Token) :
    (draft.push token).groups.isEmpty = draft.groups.isEmpty := by
  obtain ⟨groups, outer⟩ := draft
  cases groups <;> rfl

@[simp] theorem isEmpty_groups_nextBranch (draft : Draft) : draft.nextBranch.groups.isEmpty = draft.groups.isEmpty := by
  obtain ⟨groups, outer⟩ := draft
  cases groups <;> rfl

def take (draft : Draft) : List (List Token) → Draft
  | [] => draft
  | [branch] => branch.foldl push draft
  | branch :: next :: others => (branch.foldl push draft).nextBranch.take (next :: others)

theorem take_cons_cons (draft : Draft) (token : Token) (branch : List Token) (others : List (List Token)) :
    draft.take ((token :: branch) :: others) = (draft.push token).take (branch :: others) := by
  cases others <;> rfl

theorem take_nil_cons (draft : Draft) (branch : List Token) (others : List (List Token)) :
    draft.take ([] :: branch :: others) = draft.nextBranch.take (branch :: others) := rfl

theorem foldl_push (draft : Draft) (tokens : List Token) :
    tokens.foldl push draft = draft.withCurrent (tokens.reverse ++ draft.current) := by
  obtain ⟨groups, outer⟩ := draft
  induction tokens generalizing groups outer with
  | nil => cases groups <;> rfl
  | cons token rest ih => cases groups <;> simp [push, withCurrent, current, ih]

theorem closeGroup_take (done : List (List Token)) (grown branch : List Token) (others : List (List Token))
    (groups : List Group) (outer : List Token) :
    (take ⟨⟨done, grown⟩ :: groups, outer⟩ (branch :: others)).closeGroup =
      .ok (push ⟨groups, outer⟩ (.alternatives (done.reverse ++ (grown.reverse ++ branch) :: others))) := by
  induction others generalizing done grown branch with
  | nil =>
    rw [take, foldl_push]
    simp [closeGroup, withCurrent, current]
  | cons next others ih =>
    rw [take, foldl_push]
    refine (ih ((branch.reverse ++ grown).reverse :: done) [] next).trans ?_
    simp

theorem closeGroup_openGroup (draft : Draft) (branch : List Token) (others : List (List Token)) :
    (draft.openGroup.take (branch :: others)).closeGroup = .ok (draft.push (.alternatives (branch :: others))) :=
  closeGroup_take [] [] branch others draft.groups draft.outer

end Draft

section
variable (fuel : Nat) (previous : Option Char) (rest : List Char) (draft : Draft)

theorem readTokens_escaped (c : Char) : readTokens (fuel + 1) previous ('\\' :: c :: rest) draft =
    readTokens fuel (some c) rest (draft.push (.literal c)) := by
  rfl

theorem readTokens_open : readTokens (fuel + 1) previous (openBrace :: rest) draft =
    readTokens fuel (some openBrace) rest draft.openGroup := by
  rfl

theorem readTokens_close : readTokens (fuel + 1) previous (closeBrace :: rest) draft =
    match draft.closeGroup with
    | .error fault => .error fault
    | .ok closed => readTokens fuel (some closeBrace) rest closed := by
  rfl

theorem readTokens_comma : readTokens (fuel + 1) previous (',' :: rest) draft =
    readTokens fuel (some ',') rest draft.nextBranch := by
  rfl

variable {c : Char}

theorem readTokens_letter (other : isPlain true c = true) : readTokens (fuel + 1) previous (c :: rest) draft =
    readTokens fuel (some c) rest (draft.push (.literal c)) := by
  simp only [isPlain, Search.isWild, Bool.not_eq_true', Bool.or_eq_false_iff, Bool.true_and,
    decide_eq_false_iff_not] at other
  obtain ⟨⟨⟨⟨⟨⟨star, mark⟩, bracket⟩, backslash⟩, opening⟩, closing⟩, comma⟩ := other
  rw [readTokens.eq_def]
  simp only [mark, star, bracket, opening, closing, comma, backslash, if_false]

theorem readTokens_plain (plain : isPlain (!draft.groups.isEmpty) c = true) :
    readTokens (fuel + 1) previous (c :: rest) draft = readTokens fuel (some c) rest (draft.push (.literal c)) := by
  by_cases comma : c = ','
  · subst comma
    obtain ⟨groups, outer⟩ := draft
    cases groups with
    | nil => rfl
    | cons group groups => cases plain
  · apply readTokens_letter
    simpa [isPlain, comma] using plain

end

theorem Written.readTokens {grouped : Bool} {branches : List (List Token)} {text : List Char}
    (written : Written grouped branches text) (fuel : Nat) (previous : Option Char) (rest : List Char) (draft : Draft)
    (state : draft.groups.isEmpty = !grouped) (enough : text.length + rest.length < fuel) :
    ∃ left last, rest.length < left ∧
      Glob.readTokens fuel previous (text ++ rest) draft = Glob.readTokens left last rest (draft.take branches) := by
  -- Each step leaves fuel for what follows, and keeps whether braces are open.
  induction written generalizing fuel previous rest draft with
  | nil => exact ⟨fuel, previous, by simpa using enough, rfl⟩
  | @plain grouped branch others text c plain written ih =>
    obtain ⟨fuel, rfl⟩ : ∃ less, fuel = less + 1 := ⟨fuel - 1, by omega⟩
    have onward : (draft.push (.literal c)).groups.isEmpty = !grouped := by simpa using state
    obtain ⟨left, last, more, reads⟩ := ih fuel (some c) rest _ onward (by simp at enough; omega)
    refine ⟨left, last, more, ?_⟩
    rw [List.cons_append, readTokens_plain _ _ _ _ (by simpa [state] using plain), reads, Draft.take_cons_cons]
  | @escaped grouped branch others text c written ih =>
    obtain ⟨fuel, rfl⟩ : ∃ less, fuel = less + 1 := ⟨fuel - 1, by omega⟩
    have onward : (draft.push (.literal c)).groups.isEmpty = !grouped := by simpa using state
    obtain ⟨left, last, more, reads⟩ := ih fuel (some c) rest _ onward (by simp at enough; omega)
    refine ⟨left, last, more, ?_⟩
    rw [List.cons_append, List.cons_append, readTokens_escaped, reads, Draft.take_cons_cons]
  | @group grouped branches branch others inside text within written ih ih' =>
    obtain ⟨fuel, rfl⟩ : ∃ less, fuel = less + 1 := ⟨fuel - 1, by omega⟩
    -- What is inside goes to the group that the brace opens. The brace at its end makes one token of that group.
    obtain ⟨first, more, rfl⟩ := within.exists_cons
    obtain ⟨left, last, some_, reads⟩ := ih fuel (some openBrace) (closeBrace :: text ++ rest) draft.openGroup rfl
      (by simp at enough ⊢; omega)
    obtain ⟨left, rfl⟩ : ∃ less, left = less + 1 := ⟨left - 1, by omega⟩
    have onward : (draft.push (.alternatives (first :: more))).groups.isEmpty = !grouped := by simpa using state
    obtain ⟨left', last', more', reads'⟩ := ih' left (some closeBrace) rest _ onward (by simp at some_; omega)
    refine ⟨left', last', more', ?_⟩
    rw [List.cons_append, List.cons_append, List.append_assoc, readTokens_open, reads,
      List.cons_append, readTokens_close,
      Draft.closeGroup_openGroup]
    exact reads'.trans (by rw [Draft.take_cons_cons])
  | @comma branches text written ih =>
    obtain ⟨fuel, rfl⟩ : ∃ less, fuel = less + 1 := ⟨fuel - 1, by omega⟩
    obtain ⟨first, more, rfl⟩ := written.exists_cons
    have onward : draft.nextBranch.groups.isEmpty = !true := by simpa using state
    obtain ⟨left, last, more, reads⟩ := ih fuel (some ',') rest _ onward (by simp at enough; omega)
    refine ⟨left, last, more, ?_⟩
    rw [List.cons_append, readTokens_comma, reads, Draft.take_nil_cons]

def dangles : List Char → Bool
  | [] => false
  | ['\\'] => true
  | '\\' :: _ :: rest => dangles rest
  | _ :: rest => dangles rest

/-- Whether braces close, when some are open: each one that is opened is closed later, and each one that is closed was
open. A backslash takes the meaning off a brace. -/
def closes : Nat → List Char → Bool
  | depth, [] => depth = 0
  | _, ['\\'] => false
  | depth, '\\' :: _ :: rest => closes depth rest
  | depth, c :: rest =>
    if c = openBrace then closes (depth + 1) rest
    else if c = closeBrace then
      match depth with
      | 0 => false
      | depth + 1 => closes depth rest
    else closes depth rest

theorem ne_backslash {c : Char} {rest : List Char} (last : c = '\\' → rest = [] → False)
    (inner : ∀ next more, c = '\\' → rest = next :: more → False) : c ≠ '\\' := by
  intro same
  cases rest with
  | nil => exact last same rfl
  | cons next more => exact inner next more same rfl

inductive Ending : Nat → List Char → Prop
  | outside {tokens : List Token} {text : List Char} (written : Written false [tokens] text) : Ending 0 text
  | inside {depth : Nat} {branches : List (List Token)} {inside text : List Char}
    (written : Written true branches inside)
      (ending : Ending depth text) : Ending (depth + 1) (inside ++ closeBrace :: text)

theorem Ending.push {depth : Nat} {text : List Char} {token : Token} (front : List Char)
    (grows : ∀ {grouped : Bool} {branch : List Token} {others : List (List Token)} {text : List Char},
      Written grouped (branch :: others) text → Written grouped ((token :: branch) :: others) (front ++ text))
    (ending : Ending depth text) : Ending depth (front ++ text) := by
  cases ending with
  | outside written => exact .outside (grows written)
  | inside written ending =>
    obtain ⟨branch, others, rfl⟩ := written.exists_cons
    rw [← List.append_assoc]
    exact .inside (grows written) ending

theorem Ending.comma {depth : Nat} {text : List Char} (ending : Ending depth text) : Ending depth (',' :: text) := by
  cases ending with
  | outside written => exact .outside (.plain rfl written)
  | inside written ending => exact .inside (.comma written) ending

theorem ending_of_closes {depth : Nat} {text : List Char} (wildless : ∀ c ∈ text, Search.isWild c = false)
    (closed : closes depth text = true) : Ending depth text := by
  -- In the order of the cases: the end, a last backslash, one before a character, an opening brace, a closing one
  -- with none open and with some, and any other character.
  fun_induction closes depth text with
  | case1 depth =>
    rw [of_decide_eq_true closed]
    exact .outside .nil
  | case2 => cases closed
  | case3 depth c rest ih =>
    rw [List.forall_mem_cons, List.forall_mem_cons] at wildless
    have later := ih wildless.2.2 closed
    exact later.push ['\\', c] (.escaped c)
  | case4 depth rest _ _ ih =>
    rw [List.forall_mem_cons] at wildless
    have later := ih wildless.2 closed
    cases later with
    | @inside _ branches inside text written ending =>
      rw [show openBrace :: (inside ++ closeBrace :: text) = openBrace :: inside ++ [closeBrace] ++ text by simp]
      exact ending.push _ fun outer => by simpa using Written.group written outer
  | case5 => cases closed
  | case6 rest depth _ _ _ ih =>
    rw [List.forall_mem_cons] at wildless
    exact .inside .nil (ih wildless.2 closed)
  | case7 depth c rest last inner opening closing ih =>
    rw [List.forall_mem_cons] at wildless
    have later := ih wildless.2 closed
    by_cases comma : c = ','
    · exact comma ▸ later.comma
    · have plain := isPlain_of_ne wildless.1 (ne_backslash last inner) opening closing comma
      exact later.push [c] (.plain (plain _))

theorem exists_written {text : List Char} (wildless : ∀ c ∈ text, Search.isWild c = false)
    (closed : closes 0 text = true) :
    ∃ tokens, Written false [tokens] text := by
  cases ending_of_closes wildless closed with
  | outside written => exact ⟨_, written⟩

theorem Draft.closeGroup_cases (draft : Draft) :
    draft.groups.length = 0 ∧ draft.closeGroup = .error .unopenedAlternatives ∨
      ∃ closed, draft.groups.length = closed.groups.length + 1 ∧ draft.closeGroup = .ok closed := by
  obtain ⟨groups, outer⟩ := draft
  cases groups with
  | nil => exact .inl ⟨rfl, rfl⟩
  | cons group groups => exact .inr ⟨_, by simp, rfl⟩

theorem closes_of_readTokens {text : List Char} (wildless : ∀ c ∈ text, Search.isWild c = false)
    (undangling : dangles text = false) {fuel : Nat} {previous : Option Char} {draft after : Draft}
    (enough : text.length + 1 < fuel) (reads : readTokens fuel previous (text ++ ['*']) draft = .ok after)
    (finished : after.groups = []) : closes draft.groups.length text = true := by
  -- The depth is the number of the groups that are open, all through the text.
  generalize same : draft.groups.length = depth
  fun_induction closes depth text generalizing fuel previous draft with
  | case1 depth =>
    obtain ⟨fuel, rfl⟩ : ∃ less, fuel = less + 2 := ⟨fuel - 2, by simp at enough; omega⟩
    cases (show Except.ok (draft.push .anyBytes) = Except.ok after from reads)
    simp [← same, ← draft.groups_length_push .anyBytes, finished]
  | case2 => cases undangling
  | case3 depth c rest ih =>
    obtain ⟨fuel, rfl⟩ : ∃ less, fuel = less + 1 := ⟨fuel - 1, by omega⟩
    rw [List.forall_mem_cons, List.forall_mem_cons] at wildless
    rw [List.cons_append, List.cons_append, readTokens_escaped] at reads
    refine ih wildless.2.2 undangling ?_ reads (by simpa using same)
    simp at enough
    omega
  | case4 depth rest _ _ ih =>
    obtain ⟨fuel, rfl⟩ : ∃ less, fuel = less + 1 := ⟨fuel - 1, by omega⟩
    rw [List.forall_mem_cons] at wildless
    rw [List.cons_append, readTokens_open] at reads
    refine ih wildless.2 undangling ?_ reads (by simpa [Draft.openGroup] using same)
    simp at enough
    omega
  | case5 =>
    obtain ⟨fuel, rfl⟩ : ∃ less, fuel = less + 1 := ⟨fuel - 1, by omega⟩
    rcases draft.closeGroup_cases with ⟨-, unopened⟩ | ⟨closed, deeper, -⟩
    · rw [List.cons_append, readTokens_close, unopened] at reads
      cases reads
    · omega
  | case6 rest depth _ _ _ ih =>
    obtain ⟨fuel, rfl⟩ : ∃ less, fuel = less + 1 := ⟨fuel - 1, by omega⟩
    rcases draft.closeGroup_cases with ⟨unopened, -⟩ | ⟨closed, deeper, closes⟩
    · omega
    · rw [List.forall_mem_cons] at wildless
      rw [List.cons_append, readTokens_close, closes] at reads
      refine ih wildless.2 undangling ?_ reads (by omega)
      simp at enough
      omega
  | case7 depth c rest last inner opening closing ih =>
    obtain ⟨fuel, rfl⟩ : ∃ less, fuel = less + 1 := ⟨fuel - 1, by omega⟩
    have later : dangles rest = false := by
      rw [← undangling, dangles]
      · exact last
      · exact inner
    have enough : rest.length + 1 < fuel := by
      simp at enough
      omega
    rw [List.forall_mem_cons] at wildless
    rw [List.cons_append] at reads
    by_cases comma : c = ','
    · rw [comma, readTokens_comma] at reads
      exact ih wildless.2 later enough reads (by simpa using same)
    · have plain := isPlain_of_ne wildless.1 (ne_backslash last inner) opening closing comma
      rw [readTokens_letter _ _ _ _ (plain true)] at reads
      exact ih wildless.2 later enough reads (by simpa using same)

theorem toList_patternOf {name : String} (wildless : ∀ c ∈ name.toList, Search.isWild c = false) :
    (Search.patternOf name).toList = '*' :: (name.toList ++ ['*']) := by
  unfold Search.patternOf
  rw [if_neg (by simpa using wildless)]
  simp

theorem parse_eq_ok_iff {pattern : String} {glob : Glob} : parse pattern = .ok glob ↔
    ∃ draft, readTokens (pattern.toList.length + 1) none pattern.toList ⟨[], []⟩ = .ok draft ∧ draft.groups = [] ∧
      glob = ⟨draft.outer.reverse⟩ := by
  unfold parse
  cases reads : readTokens (pattern.toList.length + 1) none pattern.toList ⟨[], []⟩ with
  | error fault => simp [reads]
  | ok draft =>
    by_cases finished : draft.groups = []
    · simp [reads, finished, eq_comm]
    · simp [reads, finished]

theorem parse_empty : parse (Search.patternOf "") = .ok ⟨[.leadingDirectories]⟩ := by
  rfl

section
variable {name : String} (wildless : ∀ c ∈ name.toList, Search.isWild c = false)
include wildless

theorem readTokens_patternOf (nonempty : name ≠ "") :
    readTokens ((Search.patternOf name).toList.length + 1) none (Search.patternOf name).toList ⟨[], []⟩ =
      readTokens (name.toList.length + 2) (some '*') (name.toList ++ ['*']) ⟨[], [.anyBytes]⟩ := by
  have length : ('*' :: (name.toList ++ ['*'])).length + 1 = name.toList.length + 3 := by simp
  rw [toList_patternOf wildless, length]
  cases text : name.toList with
  | nil => exact absurd (String.toList_inj.mp text) nonempty
  | cons c rest =>
    have letter : c ≠ '*' := by
      intro star
      have tame := wildless c (by simp [text])
      rw [star] at tame
      cases tame
    rw [readTokens.eq_def]
    simp [letter, Draft.push, Draft.withCurrent, Draft.current]

theorem parse_written {tokens : List Token} (nonempty : name ≠ "") (written : Written false [tokens] name.toList) :
    parse (Search.patternOf name) = .ok ⟨.anyBytes :: (tokens ++ [.anyBytes])⟩ := by
  obtain ⟨left, last, more, reads⟩ := written.readTokens (name.toList.length + 2) (some '*') ['*'] ⟨[], [.anyBytes]⟩ rfl
    (by simp)
  obtain ⟨left, rfl⟩ : ∃ less, left = less + 2 := ⟨left - 2, by simp at more; omega⟩
  rw [Draft.take, Draft.foldl_push] at reads
  rw [parse_eq_ok_iff, readTokens_patternOf wildless nonempty, reads]
  simp [readTokens, Draft.push, Draft.withCurrent, Draft.current]

theorem parse_isOk {tokens : List Token} (written : Written false [tokens] name.toList) :
    ∃ glob, parse (Search.patternOf name) = .ok glob := by
  by_cases nonempty : name = ""
  · exact nonempty ▸ ⟨_, parse_empty⟩
  · exact ⟨_, parse_written wildless nonempty written⟩

theorem closes_of_parse {glob : Glob} (undangling : dangles name.toList = false)
    (valid : parse (Search.patternOf name) = .ok glob) : closes 0 name.toList = true := by
  by_cases nonempty : name = ""
  · rw [nonempty]
    rfl
  · obtain ⟨draft, reads, finished, -⟩ := parse_eq_ok_iff.mp valid
    rw [readTokens_patternOf wildless nonempty] at reads
    exact closes_of_readTokens wildless undangling (by omega) reads finished

end

@[simp] theorem mem_suffixes {text rest : Bytes} : rest ∈ suffixes text ↔ rest <:+ text := by
  induction text with
  | nil => simp [suffixes]
  | cons byte more ih => rw [suffixes, List.mem_cons, ih, List.suffix_cons_iff]

theorem mem_afterLiteral {wanted text rest : Bytes} : rest ∈ afterLiteral wanted text ↔ text = wanted ++ rest := by
  induction wanted generalizing text with
  | nil => simp [afterLiteral, eq_comm]
  | cons byte wanted ih =>
    cases text with
    | nil => simp [afterLiteral]
    | cons first text =>
      rw [afterLiteral]
      split
      next same => rw [ih, same, List.cons_append, List.cons.injEq, and_iff_right rfl]
      next differ => simp [Ne.symm differ]

theorem sequenceRests_append (front back : List Token) (texts : List Bytes) :
    sequenceRests (front ++ back) texts = sequenceRests back (sequenceRests front texts) := by
  induction front generalizing texts with
  | nil => rfl
  | cons token rest ih => exact ih _

mutual
/-- The texts that a token spells. Of alternatives those are left out that say nothing, unless none says anything. -/
def Token.spellings : Token → List (List Char)
  | .literal c => [[c]]
  | .alternatives branches => if areVoid branches then [[]] else branchSpellings branches
  | _ => []

def branchSpellings : List (List Token) → List (List Char)
  | [] => []
  | branch :: rest => (if isVoid branch then [] else sequenceSpellings branch) ++ branchSpellings rest

def sequenceSpellings : List Token → List (List Char)
  | [] => [[]]
  | token :: rest => token.spellings.flatMap fun front => (sequenceSpellings rest).map (front ++ ·)
end

/-- What tokens leave over is what stands behind a text that they spell. -/
def LeavesBehind (tokens : List Token) : Prop :=
  ∀ texts rest, rest ∈ sequenceRests tokens texts ↔
    ∃ front ∈ sequenceSpellings tokens, Utf8.encode front ++ rest ∈ texts

theorem LeavesBehind.nil : LeavesBehind [] := by
  intro texts rest
  simp [sequenceRests, sequenceSpellings, Utf8.encode]

theorem LeavesBehind.cons {token : Token} {tokens : List Token}
    (first : ∀ text rest, rest ∈ token.rests text ↔ ∃ front ∈ token.spellings, text = Utf8.encode front ++ rest)
    (others : LeavesBehind tokens) : LeavesBehind (token :: tokens) := by
  intro texts rest
  simp only [sequenceRests, others _ rest, List.mem_eraseDups, List.mem_flatMap, first, sequenceSpellings, List.mem_map]
  constructor
  · rintro ⟨back, spelled, text, listed, front, starts, rfl⟩
    exact ⟨front ++ back, ⟨front, starts, back, spelled, rfl⟩, by simpa [Utf8.encode] using listed⟩
  · rintro ⟨_, ⟨front, starts, back, spelled, rfl⟩, listed⟩
    exact ⟨back, spelled, _, listed, front, starts, by simp [Utf8.encode]⟩

theorem LeavesBehind.branches {branches : List (List Token)} (each : ∀ branch ∈ branches, LeavesBehind branch)
    (text rest : Bytes) :
    rest ∈ branchRests branches text ↔ ∃ front ∈ branchSpellings branches, text = Utf8.encode front ++ rest := by
  induction branches with
  | nil => simp [branchRests, branchSpellings]
  | cons branch others ih =>
    rw [List.forall_mem_cons] at each
    rw [branchRests, branchSpellings, List.mem_append, ih each.2]
    simp only [List.mem_append, or_and_right, exists_or]
    refine or_congr_left ?_
    split
    next => simp
    next => simp [each.1 [text] rest, eq_comm]

/-- The tokens that a text is read as leave over what stands behind a text that they spell. -/
theorem Written.leavesBehind {grouped : Bool} {branches : List (List Token)} {text : List Char}
    (written : Written grouped branches text) : ∀ branch ∈ branches, LeavesBehind branch := by
  have literal (c : Char) (text rest : Bytes) : rest ∈ (Token.literal c).rests text ↔
      ∃ front ∈ (Token.literal c).spellings, text = Utf8.encode front ++ rest := by
    simp [Token.rests, Token.spellings, mem_afterLiteral]
  induction written with
  | nil => simpa using LeavesBehind.nil
  | plain plain written ih =>
    rw [List.forall_mem_cons] at ih ⊢
    exact ⟨.cons (literal _) ih.1, ih.2⟩
  | escaped c written ih =>
    rw [List.forall_mem_cons] at ih ⊢
    exact ⟨.cons (literal c) ih.1, ih.2⟩
  | @group grouped branches branch others inside text within written ih ih' =>
    rw [List.forall_mem_cons] at ih' ⊢
    refine ⟨.cons (fun text rest => ?_) ih'.1, ih'.2⟩
    rw [Token.rests, Token.spellings]
    split
    next => simp [Utf8.encode, eq_comm]
    next => exact LeavesBehind.branches ih text rest
  | comma written ih =>
    rw [List.forall_mem_cons]
    exact ⟨.nil, ih⟩

theorem fits_between_stars {tokens : List Token} (leaves : LeavesBehind tokens) (entry : String) :
    fits ⟨.anyBytes :: (tokens ++ [.anyBytes])⟩ entry = true ↔
      ∃ text ∈ sequenceSpellings tokens, text <:+: entry.toList := by
  have ends (texts : List Bytes) : [] ∈ sequenceRests [.anyBytes] texts ↔ ∃ rest, rest ∈ texts := by
    simp [sequenceRests, Token.rests]
  have whole (start : Bytes) : start ∈ sequenceRests [.anyBytes] [Utf8.ofString entry] ↔
      start <:+ Utf8.encode entry.toList := by
    simp [sequenceRests, Token.rests, Utf8.ofString]
  have between : fits ⟨.anyBytes :: (tokens ++ [.anyBytes])⟩ entry = true ↔
      [] ∈ sequenceRests ([.anyBytes] ++ tokens ++ [.anyBytes]) [Utf8.ofString entry] := by
    simp [fits]
  rw [between, sequenceRests_append, ends]
  simp only [sequenceRests_append, leaves _ _, whole, ← Utf8.encode_infix_iff]
  constructor
  · rintro ⟨rest, text, spelled, start⟩
    exact ⟨text, spelled, (List.prefix_append _ rest).isInfix.trans start.isInfix⟩
  · rintro ⟨text, spelled, front, rest, split⟩
    exact ⟨rest, text, spelled, front, by rw [← split, List.append_assoc]⟩

theorem Written.eq_nil {tokens : List Token} (written : Written false [tokens] []) : tokens = [] := by
  cases written
  rfl

/-- A name fits a fragment when a text that the fragment spells is within it. -/
theorem fits_fragment {name : String} (wildless : ∀ c ∈ name.toList, Search.isWild c = false) {tokens : List Token}
    (written : Written false [tokens] name.toList) {glob : Glob} (valid : parse (Search.patternOf name) = .ok glob)
    (entry : String) : glob.fits entry = true ↔ ∃ text ∈ sequenceSpellings tokens, text <:+: entry.toList := by
  by_cases nonempty : name = ""
  · subst nonempty
    obtain rfl := Except.ok.inj (parse_empty.symm.trans valid)
    rw [written.eq_nil]
    simp [fits, sequenceSpellings]
  · rw [parse_written wildless nonempty written] at valid
    cases valid
    exact fits_between_stars (written.leavesBehind tokens List.mem_cons_self) entry

theorem written_literals {text : List Char} (wildless : ∀ c ∈ text, Search.isWild c = false)
    (plain : ∀ c ∈ text, c ≠ '\\' ∧ c ≠ openBrace ∧ c ≠ closeBrace) : Written false [text.map Token.literal] text := by
  induction text with
  | nil => exact .nil
  | cons c rest ih =>
    rw [List.forall_mem_cons] at wildless plain
    obtain ⟨⟨backslash, opening, closing⟩, others⟩ := plain
    refine .plain ?_ (ih wildless.2 others)
    simp [isPlain, wildless.1, backslash, opening, closing]

theorem sequenceSpellings_literals (text : List Char) : sequenceSpellings (text.map Token.literal) = [text] := by
  induction text with
  | nil => rfl
  | cons c rest ih => simp [sequenceSpellings, Token.spellings, ih]

end Mooring.Glob
