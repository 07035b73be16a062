import Mooring.Proofs.Files.Additions
import Mooring.Proofs.Files.SocketPaths

/-! Directories and links that go. A path may come to lead nowhere by that, but not to another place, and the
files of one directory are found or missed together. -/

namespace Mooring

namespace Path

theorem isAbsolute_eq (path : String) : isAbsolute path = decide (path.toList.head? = some '/') := by
  unfold isAbsolute
  split
  next rest same => simp [same]
  next other =>
    rw [eq_comm, decide_eq_false_iff_not]
    intro slash
    obtain ⟨rest, same⟩ := List.head?_eq_some_iff.mp slash
    exact other rest same

theorem isAbsolute_append (front : String) {name : String} (whole : '/' ∉ name.toList) :
    isAbsolute (front ++ name) = isAbsolute front := by
  have relative : name.toList.head? ≠ some '/' := fun slash => whole (List.mem_of_head? slash)
  rw [isAbsolute_eq, isAbsolute_eq, String.toList_append, List.head?_append]
  cases front.toList.head? with
  | none => simp [relative]
  | some c => rfl

theorem names_join (base : String) : ∃ above rooted, ∀ name : String, name.toList ≠ [] → '/' ∉ name.toList →
    names (join base name) = above ++ [name] ∧ isAbsolute (join base name) = rooted := by
  obtain ⟨front, ends, joined⟩ := join_front base
  obtain ⟨init, split⟩ := ends.pieces
  refine ⟨(init.filter (fun piece => !piece.isEmpty)).map String.ofList, isAbsolute front, fun name solid whole => ?_⟩
  rw [joined name whole]
  refine ⟨?_, isAbsolute_append front whole⟩
  have open_ := endsWithSlash_append front solid whole
  unfold names
  rw [open_, String.toList_append, split name.toList whole]
  simp [solid]

end Path

namespace Host

open FileTree (KeepsWays Reaches)

theorem contentAt_of_hasFile {host : Host} {place : Place} (there : host.hasFile place) :
    ∃ content, host.contentAt place = some content := by
  obtain ⟨node, known, isFile⟩ := Option.map_eq_some_iff.mp there
  cases node with
  | file content mode accessed => exact ⟨content, by rw [contentAt, known]⟩
  | directory mode accessed => cases isFile
  | link target => cases isFile

/-- Files that say something new are at the new places only. Directories and links may go, and none may come. -/
structure Narrows (new : Place → Prop) (before after : Host) : Prop where
  workDir : after.workDir = before.workDir
  ways : after.files.KeepsWays before.files
  contents : ∀ place content, after.contentAt place = some content → new place ∨ before.contentAt place = some content

abbrev Dwindles (before after : Host) : Prop := Narrows (fun _ => False) before after

namespace Narrows
variable {new new' : Place → Prop} {first second third : Host}

theorem refl (host : Host) : Narrows new host host := ⟨rfl, .refl _, fun _ _ => .inr⟩

theorem weaken (narrows : Narrows new first second) (wider : ∀ place, new place → new' place) :
    Narrows new' first second where
  workDir := narrows.workDir
  ways := narrows.ways
  contents place content reads := (narrows.contents place content reads).imp_left (wider place)

theorem trans (one : Narrows new first second) (two : Narrows new second third) : Narrows new first third where
  workDir := two.workDir.trans one.workDir
  ways := two.ways.trans one.ways
  contents place content reads := by
    rcases two.contents place content reads with fresh | old
    · exact .inl fresh
    · exact one.contents place content old

theorem after (one : Dwindles first second) (two : Narrows new second third) : Narrows new first third :=
  (one.weaken (fun _ none => none.elim)).trans two

theorem before (one : Narrows new first second) (two : Dwindles second third) : Narrows new first third :=
  one.trans (two.weaken (fun _ none => none.elim))

theorem placeOf? (narrows : Narrows new first second) {path : String} {place : Place}
    (leads : second.placeOf? path = some place) : first.placeOf? path = some place := by
  rw [Host.placeOf?, narrows.workDir] at leads
  exact FileTree.placeOf?_keepsWays narrows.ways leads

end Narrows

theorem Dwindles.hasFile {before after : Host} (dwindles : Dwindles before after) {place : Place}
    (there : after.hasFile place) : before.hasFile place := by
  obtain ⟨content, reads⟩ := contentAt_of_hasFile there
  exact hasFile_of_contentAt ((dwindles.contents place content reads).resolve_left not_false)

theorem NoFileAt.dwindles {before after : Host} {path : String} (none : before.NoFileAt path)
    (dwindles : Dwindles before after) : after.NoFileAt path :=
  fun place leads there => none place (dwindles.placeOf? leads) (dwindles.hasFile there)

theorem Alike.dwindles {before after : Host} (alike : Alike before after) (dir : after.workDir = before.workDir) :
    Dwindles before after where
  workDir := dir
  ways place kind _ known := by rwa [FileTree.kindAt, alike place] at known
  contents place content reads := .inr (by rwa [contentAt_congr (alike place)] at reads)

theorem TakesAnswers.dwindles {before after : Host} (takes : TakesAnswers before after) : Dwindles before after :=
  takes.alike.dwindles takes.spares.workDir

theorem AlikeBut.narrows {before after : Host} {place : Place} (others : AlikeBut (· = place) before after)
    (dir : after.workDir = before.workDir) (there : after.hasFile place) : Narrows (· = place) before after where
  workDir := dir
  ways other kind solid known := by
    have elsewhere : other ≠ place := by
      rintro rfl
      rw [there] at known
      exact solid (Option.some.inj known).symm
    rwa [FileTree.kindAt, others other elsewhere] at known
  contents other content reads := by
    by_cases here : other = place
    · exact .inl here
    · exact .inr (by rwa [contentAt_congr (others other here)] at reads)

theorem removeFile_dwindles (host : Host) (path : String) : Dwindles host (host.removeFile path).2 where
  workDir := (host.removeFile_spares path).workDir
  ways := host.removeFile_ways path
  contents place content reads := by
    have same := host.removeFile_addsNoFile path place (hasFile_of_contentAt reads)
    exact .inr (by rwa [contentAt_congr same] at reads)

theorem markDirectorySticky_dwindles (host : Host) (path : String) : Dwindles host (host.markDirectorySticky path) where
  workDir := (host.markDirectorySticky_spares path).workDir
  ways place kind _ known := by
    unfold markDirectorySticky at known
    split at known
    next => exact known
    next =>
      split at known
      next => exact known
      next => rwa [kindAt_setMode] at known
  contents place content reads := .inr (by rwa [contentAt_markDirectorySticky] at reads)

/-- Directories and links may come first, and some may go after that. -/
def Turns (new : Place → Prop) (before after : Host) : Prop :=
  ∃ middle, AddsNone before middle ∧ Narrows new middle after

namespace Turns
variable {new : Place → Prop} {first second third : Host}

theorem of_addsNone (adds : AddsNone first second) : Turns new first second := ⟨second, adds, .refl second⟩

theorem before (one : Turns new first second) (two : Dwindles second third) : Turns new first third := by
  obtain ⟨middle, adds, narrows⟩ := one
  exact ⟨middle, adds, narrows.before two⟩

theorem after (one : AddsNone first second) (two : Turns new second third) : Turns new first third := by
  obtain ⟨middle, adds, narrows⟩ := two
  exact ⟨middle, one.after adds, narrows⟩

theorem workDir (turns : Turns new first second) : second.workDir = first.workDir := by
  obtain ⟨middle, adds, narrows⟩ := turns
  exact narrows.workDir.trans adds.workDir

theorem contents (turns : Turns new first second) (place : Place) (content : Bytes)
    (reads : second.contentAt place = some content) : new place ∨ first.contentAt place = some content := by
  obtain ⟨middle, adds, narrows⟩ := turns
  rcases narrows.contents place content reads with fresh | old
  · exact .inl fresh
  · exact .inr ((adds.contents place content old).resolve_left not_false)

/-- Where the path to one name of a directory leads somewhere, so do those to its other names. -/
theorem placeOf?_sibling (turns : Turns new first second) {base one two : String} (oneSolid : one.toList ≠ [])
    (oneWhole : '/' ∉ one.toList) (twoSolid : two.toList ≠ []) (twoWhole : '/' ∉ two.toList) {place other : Place}
    (leads : first.placeOf? (Path.join base one) = some place)
    (stands : second.placeOf? (Path.join base two) = some other) :
    second.placeOf? (Path.join base one) = some place := by
  obtain ⟨middle, adds, narrows⟩ := turns
  obtain ⟨above, rooted, split⟩ := Path.names_join base
  have start (workDir : Place) :
      FileTree.start workDir (Path.join base one) = FileTree.start workDir (Path.join base two) := by
    unfold FileTree.start
    rw [(split one oneSolid oneWhole).2, (split two twoSolid twoWhole).2]
  have led : middle.placeOf? (Path.join base one) = some place := adds.placeOf? leads
  unfold Host.placeOf? at led stands ⊢
  rw [FileTree.placeOf?_eq_some] at led stands ⊢
  rw [(split one oneSolid oneWhole).1, List.dropLast_concat] at led ⊢
  rw [(split two twoSolid twoWhole).1, List.dropLast_concat] at stands
  obtain ⟨directory, name, rfl, noFault, noSlash, last, proper, reaches⟩ := led
  obtain ⟨found, _, _, _, _, _, _, stillReaches⟩ := stands
  rw [narrows.workDir] at stillReaches ⊢
  rw [← start] at stillReaches
  -- Both walks go the same way through the tree in the middle.
  obtain ⟨node, ended, _⟩ := reaches
  obtain ⟨node', ended', _⟩ := FileTree.walk_keepsWays narrows.ways _ _ _ stillReaches
  rw [ended] at ended'
  cases ended'
  exact ⟨directory, name, rfl, noFault, noSlash, last, proper, stillReaches⟩

end Turns

end Host

end Mooring
