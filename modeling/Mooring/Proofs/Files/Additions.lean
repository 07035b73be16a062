import Mooring.Proofs.Files.Changes

/-! Files that come. All else that a path can pass stays: directories and links, so that a path leads to one
place for good. -/

namespace Mooring.Host

open FileTree (KeepsWays)

def contentAt (host : Host) (place : Place) : Option Bytes :=
  match host.files.nodeAt place with
  | some (.file content _ _) => some content
  | _ => none

theorem hasFile_of_contentAt {host : Host} {place : Place} {content : Bytes}
    (reads : host.contentAt place = some content) : host.hasFile place := by
  unfold contentAt at reads
  split at reads
  next there => simp [hasFile, FileTree.kindAt, there, Node.kind]
  next => cases reads

theorem contentAt_congr {before after : Host} {place : Place}
    (same : after.files.nodeAt place = before.files.nodeAt place) : after.contentAt place = before.contentAt place := by
  unfold contentAt
  rw [same]

/-- Files that say something new are at the new places only. Directories may come, and links may not. -/
structure Adds (new : Place → Prop) (before after : Host) : Prop where
  workDir : after.workDir = before.workDir
  ways : before.files.KeepsWays after.files
  links : ∀ place target, after.files.kindAt place = some (.link target) →
    before.files.kindAt place = some (.link target)
  contents : ∀ place content, after.contentAt place = some content → new place ∨ before.contentAt place = some content

/-- There is no file that says something new. -/
abbrev AddsNone (before after : Host) : Prop := Adds (fun _ => False) before after

namespace Adds
variable {new new' : Place → Prop} {first second third : Host}

theorem refl (host : Host) : Adds new host host := ⟨rfl, .refl _, fun _ _ known => known, fun _ _ => .inr⟩

theorem weaken (adds : Adds new first second) (wider : ∀ place, new place → new' place) : Adds new' first second where
  workDir := adds.workDir
  ways := adds.ways
  links := adds.links
  contents place content reads := (adds.contents place content reads).imp_left (wider place)

theorem trans (one : Adds new first second) (two : Adds new second third) : Adds new first third where
  workDir := two.workDir.trans one.workDir
  ways := one.ways.trans two.ways
  links place target known := one.links place target (two.links place target known)
  contents place content reads := by
    rcases two.contents place content reads with fresh | old
    · exact .inl fresh
    · exact one.contents place content old

theorem after (one : AddsNone first second) (two : Adds new second third) : Adds new first third :=
  (one.weaken (fun _ none => none.elim)).trans two

theorem before (one : Adds new first second) (two : AddsNone second third) : Adds new first third :=
  one.trans (two.weaken (fun _ none => none.elim))

theorem placeOf? (adds : Adds new first second) {path : String} {place : Place}
    (leads : first.placeOf? path = some place) : second.placeOf? path = some place := by
  unfold Host.placeOf?
  rw [adds.workDir]
  exact FileTree.placeOf?_keepsWays adds.ways leads

end Adds

theorem addsNone_of_alike {before after : Host} (dir : after.workDir = before.workDir) (alike : Alike before after) :
    AddsNone before after where
  workDir := dir
  ways place kind _ known := by rwa [FileTree.kindAt, alike place]
  links place target known := by rwa [FileTree.kindAt, alike place] at known
  contents place content reads := .inr (by rwa [contentAt_congr (alike place)] at reads)

theorem TakesAnswers.addsNone {before after : Host} (takes : TakesAnswers before after) : AddsNone before after :=
  addsNone_of_alike takes.spares.workDir takes.alike

theorem withNode_adds {host : Host} {place : Place} {node : Node} (noLink : ∀ target, node.kind ≠ .link target)
    (fits : ∀ kind, kind ≠ .file → host.files.kindAt place = some kind → node.kind = kind) :
    Adds (· = place) host (host.withNode place node) where
  workDir := rfl
  ways := host.withNode_keepsWays place node fits
  links other target known := by
    rw [withNode, FileTree.kindAt_insert] at known
    split at known
    next => exact absurd (Option.some.inj known) (noLink target)
    next => exact known
  contents other content reads := by
    by_cases here : other = place
    · exact .inl here
    · exact .inr (by rwa [contentAt_congr (host.withNode_alikeBut place node other here)] at reads)

theorem adds_of_alikeBut {before after : Host} {place : Place} (dir : after.workDir = before.workDir)
    (free : before.files.nodeAt place = none) (there : after.hasFile place)
    (others : AlikeBut (· = place) before after) :
    Adds (· = place) before after where
  workDir := dir
  ways other kind _ known := by
    have elsewhere : other ≠ place := by
      rintro rfl
      rw [FileTree.kindAt, free] at known
      cases known
    rwa [FileTree.kindAt, others other elsewhere]
  links other target known := by
    by_cases here : other = place
    · rw [here, there] at known
      cases known
    · rwa [FileTree.kindAt, others other here] at known
  contents other content reads := by
    by_cases here : other = place
    · exact .inl here
    · exact .inr (by rwa [contentAt_congr (others other here)] at reads)

theorem withoutNode_addsNone {host : Host} {place : Place} (below : place ≠ []) (isFile : host.hasFile place) :
    AddsNone host (host.withoutNode place) where
  workDir := rfl
  ways other kind solid known := by
    rw [withoutNode, FileTree.kindAt_erase _ below]
    split
    next here =>
      rw [here, isFile] at known
      exact absurd (Option.some.inj known).symm solid
    next => exact known
  links other target known := by
    rw [withoutNode, FileTree.kindAt_erase _ below] at known
    split at known
    next => cases known
    next => exact known
  contents other content reads := by
    by_cases here : other = place
    · have gone := hasFile_of_contentAt reads
      rw [hasFile_withoutNode host below] at gone
      exact absurd here gone.1
    · exact .inr (by rwa [contentAt_congr (host.withoutNode_alikeBut place other here)] at reads)

theorem contentAt_setMode (host : Host) (place : Place) (mode : Nat) (other : Place) :
    (host.setMode place mode).contentAt other = host.contentAt other := by
  unfold setMode
  split
  next node here =>
    by_cases same : other = place
    · subst same
      rw [contentAt, contentAt, here, withNode, FileTree.nodeAt_insert_self]
      cases node <;> rfl
    · exact contentAt_congr (host.withNode_alikeBut place _ other same)
  next => rfl

theorem kindAt_setMode (host : Host) (place : Place) (mode : Nat) (other : Place) :
    (host.setMode place mode).files.kindAt other = host.files.kindAt other := by
  unfold setMode
  split
  next node here =>
    rw [withNode, FileTree.kindAt_insert]
    split
    next same => rw [same, FileTree.kindAt, here, Node.kind_withMode, Option.map_some]
    next => rfl
  next => rfl

theorem setMode_addsNone (host : Host) (place : Place) (mode : Nat) : AddsNone host (host.setMode place mode) where
  workDir := (host.setMode_spares place mode).workDir
  ways other kind _ known := (host.kindAt_setMode place mode other).trans known
  links other target known := by rwa [kindAt_setMode] at known
  contents other content reads := .inr (host.contentAt_setMode place mode other ▸ reads)

def NoLinkNamed (host : Host) (last : Option String) : Prop :=
  ∀ place target, host.files.kindAt place = some (.link target) → place.getLast? ≠ last

theorem Adds.noLinkNamed {new : Place → Prop} {before after : Host}
    (adds : Adds new before after) {last : Option String}
    (noLink : before.NoLinkNamed last) : after.NoLinkNamed last :=
  fun place target known => noLink place target (adds.links place target known)

theorem removeFile_addsNone {host : Host} {path : String} (noLink : host.NoLinkNamed (Path.names path).getLast?) :
    AddsNone host (host.removeFile path).2 := by
  rcases host.removeFile_cases path with ⟨fault, same⟩ | ⟨place, leads, there, noDirectory, same⟩
  · rw [same]
    exact .refl host
  · rw [same]
    refine withoutNode_addsNone (FileTree.placeOf?_ne_nil leads) ?_
    obtain ⟨kind, isKind⟩ := Option.ne_none_iff_exists'.mp there
    cases kind with
    | file => exact isKind
    | directory => exact absurd isKind noDirectory
    | link target => exact absurd (getLast?_of_placeOf? leads) (noLink place target isKind)

theorem createDirectory_addsNone (host : Host) (path : String) : AddsNone host (host.createDirectory path).2 := by
  have noFile := host.createDirectory_addsNoFile path
  unfold createDirectory at noFile ⊢
  split
  next => exact .refl host
  next => exact .refl host
  next directory name slash found =>
    rw [found] at noFile
    simp only at noFile ⊢
    split
    next => exact .refl host
    next free =>
      rw [free] at noFile
      simp only at noFile
      split
      next => exact .refl host
      next noFault =>
        rw [noFault] at noFile
        have made : Adds (· = directory ++ [name]) host
            (host.withNode (directory ++ [name]) (.directory (host.directoryMode directory) host.now)) :=
          withNode_adds (fun target => by simp [Node.kind])
            (fun kind _ known => by rw [FileTree.kindAt, free] at known; cases known)
        refine ⟨rfl, made.ways, made.links, fun other content reads => .inr ?_⟩
        rwa [contentAt_congr (noFile other (hasFile_of_contentAt reads))] at reads

theorem createDirectories_addsNone (host : Host) (path : String) : AddsNone host (host.createDirectories path).2 := by
  unfold createDirectories
  generalize path.length + 1 = fuel
  induction fuel generalizing host path with
  | zero => exact .refl host
  | succ fuel ih =>
    unfold createDirectoriesFrom
    have first := host.createDirectory_addsNone path
    split
    next => exact .refl host
    next =>
      split
      next later missing =>
        rw [missing] at first
        split
        next => exact first
        next parent _ =>
          have above := ih later parent
          split
          next fault last made =>
            rw [made] at above
            exact first.trans above
          next last made =>
            rw [made] at above
            rw [settleDirectory_host]
            exact (first.trans above).trans (last.createDirectory_addsNone path)
      next =>
        rw [settleDirectory_host]
        exact first

theorem markDirectorySticky_addsNone (host : Host) (path : String) : AddsNone host (host.markDirectorySticky path) := by
  unfold markDirectorySticky
  split
  next => exact .refl host
  next =>
    split
    next => exact .refl host
    next => exact host.setMode_addsNone _ _

theorem contentAt_markDirectorySticky (host : Host) (path : String) (place : Place) :
    (host.markDirectorySticky path).contentAt place = host.contentAt place := by
  unfold markDirectorySticky
  split
  next => rfl
  next =>
    split
    next => rfl
    next => exact host.contentAt_setMode _ _ place

theorem drawUuid_addsNone (host : Host) : AddsNone host host.drawUuid.2 :=
  addsNone_of_alike rfl (.refl host)

end Mooring.Host
