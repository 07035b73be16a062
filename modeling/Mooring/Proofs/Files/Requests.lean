import Mooring.Proofs.Files.Walk
import Mooring.Host.Sockets

/-! What requests leave alone. All of them keep the machine that they run on and take the answers of
the system in order; each file that goes is the one at the path of the request. -/

namespace Mooring.Host

open FileTree (KeepsWays)

/-- The place that the last name of a path stands for. -/
def placeOf? (host : Host) (path : String) : Option Place := host.files.placeOf? host.workDir path

theorem getLast?_of_placeOf? {host : Host} {path : String} {place : Place}
    (leads : host.placeOf? path = some place) : place.getLast? = (Path.names path).getLast? := by
  obtain ⟨directory, name, rfl, _, _, last, _⟩ := (FileTree.placeOf?_eq_some _ _ _ _).mp leads
  rw [last, List.getLast?_concat]

def hasFile (host : Host) (place : Place) : Prop := host.files.kindAt place = some .file

instance (host : Host) (place : Place) : Decidable (host.hasFile place) :=
  inferInstanceAs (Decidable (host.files.kindAt place = some .file))

theorem nodeAt_of_hasFile {host : Host} {place : Place} (there : host.hasFile place) :
    host.files.nodeAt place ≠ none := by
  intro nothing
  simp [hasFile, FileTree.kindAt, nothing] at there

theorem hasFile_withNode (host : Host) (place other : Place) (node : Node) :
    (host.withNode place node).hasFile other ↔
      if other = place then node.kind = .file else host.hasFile other := by
  simp only [hasFile, withNode, FileTree.kindAt_insert]
  split <;> simp

theorem hasFile_withoutNode (host : Host) {place : Place} (below : place ≠ []) (other : Place) :
    (host.withoutNode place).hasFile other ↔ other ≠ place ∧ host.hasFile other := by
  simp only [hasFile, withoutNode, FileTree.kindAt_erase _ below]
  split <;> simp_all

/-- What stays when a host goes on: the machine, the order of the answers that are still to come, and
every file but those at the places that may be touched. -/
structure Spares (touched : Place → Prop) (before after : Host) : Prop where
  machine : after = { before with
    files := after.files, ports := after.ports, drawn := after.drawn, now := after.now }
  ports : after.ports <:+ before.ports
  files : ∀ place, ¬ touched place → before.hasFile place → after.hasFile place

abbrev SparesAll (before after : Host) : Prop := Spares (fun _ => False) before after

namespace Spares
variable {touched touched' : Place → Prop} {first second third : Host}

theorem refl (host : Host) : Spares touched host host := ⟨rfl, List.suffix_refl _, fun _ _ there => there⟩

theorem trans_of (one : Spares touched first second) (two : Spares touched' second third)
    (allowed : ∀ place, first.hasFile place → touched' place → touched place) : Spares touched first third where
  machine := by rw [two.machine, one.machine]
  ports := two.ports.trans one.ports
  files place untouched there :=
    two.files place (fun touch => untouched (allowed place there touch)) (one.files place untouched there)

theorem trans (one : Spares touched first second) (two : Spares touched second third) :
    Spares touched first third :=
  one.trans_of two (fun _ _ touch => touch)

theorem weaken (spares : Spares touched first second)
    (wider : ∀ place, first.hasFile place → touched place → touched' place) : Spares touched' first second where
  machine := spares.machine
  ports := spares.ports
  files place untouched there := spares.files place (fun touch => untouched (wider place there touch)) there

theorem after (one : SparesAll first second) (two : Spares touched second third) :
    Spares touched first third :=
  (one.weaken (fun _ _ touch => touch.elim)).trans two

theorem workDir (spares : Spares touched first second) : second.workDir = first.workDir := by
  rw [spares.machine]

theorem placeOf? (spares : Spares touched first second) (keeps : first.files.KeepsWays second.files)
    {path : String} {place : Place} (leads : first.placeOf? path = some place) :
    second.placeOf? path = some place := by
  unfold Host.placeOf?
  rw [spares.workDir]
  exact FileTree.placeOf?_keepsWays keeps leads

end Spares

theorem pathExists_of_hasFile {host : Host} {path : String} {place : Place}
    (leads : host.placeOf? path = some place) (there : host.hasFile place) : host.pathExists path = true := by
  obtain ⟨node, known, isFile⟩ := Option.map_eq_some_iff.mp there
  simp [pathExists, entry?, find, FileTree.find_of_placeOf? leads known isFile, Except.toBool]

theorem removeFile_cases (host : Host) (path : String) :
    (∃ fault, host.removeFile path = (.error fault, host)) ∨
      ∃ place, host.placeOf? path = some place ∧ host.files.kindAt place ≠ none ∧
        host.files.kindAt place ≠ some .directory ∧ host.removeFile path = (.ok (), host.withoutNode place) := by
  unfold removeFile placeOf? FileTree.placeOf?
  rcases host.files.findParent host.workDir path with fault | ⟨directory, name | name, slash⟩
  · exact .inl ⟨fault, rfl⟩
  · exact .inl ⟨.isDirectory, rfl⟩
  · simp only [FileTree.kindAt]
    cases here : host.files.nodeAt (directory ++ [name]) with
    | none => exact .inl ⟨.notFound, rfl⟩
    | some node =>
      cases node with
      | directory mode accessed => exact .inl ⟨.isDirectory, rfl⟩
      | file content mode accessed =>
        cases slash with
        | true => exact .inl ⟨.notDirectory, rfl⟩
        | false => exact .inr ⟨_, rfl, by simp [here], by simp [here, Node.kind], rfl⟩
      | link target =>
        cases slash with
        | true => exact .inl ⟨.notDirectory, rfl⟩
        | false => exact .inr ⟨_, rfl, by simp [here], by simp [here, Node.kind], rfl⟩

theorem removeFile_of_hasFile {host : Host} {path : String} {place : Place}
    (leads : host.placeOf? path = some place) (there : host.hasFile place) :
    host.removeFile path = (.ok (), host.withoutNode place) := by
  obtain ⟨node, known, isFile⟩ := Option.map_eq_some_iff.mp there
  unfold placeOf? FileTree.placeOf? at leads
  split at leads
  next directory name found =>
    cases leads
    cases node with
    | file content mode accessed => simp [removeFile, found, known]
    | directory mode accessed => cases isFile
    | link target => cases isFile
  next => cases leads

theorem removeFile_spares (host : Host) (path : String) :
    Spares (fun place => host.placeOf? path = some place) host (host.removeFile path).2 := by
  rcases removeFile_cases host path with ⟨fault, same⟩ | ⟨place, leads, _, _, same⟩
  · rw [same]
    exact .refl host
  · rw [same]
    refine ⟨rfl, List.suffix_refl _, fun other untouched there => ?_⟩
    rw [hasFile_withoutNode host (FileTree.placeOf?_ne_nil leads)]
    exact ⟨fun same => untouched (same ▸ leads), there⟩

theorem hasFile_of_removeFile (host : Host) (path : String) (place : Place)
    (there : (host.removeFile path).2.hasFile place) : host.hasFile place := by
  rcases removeFile_cases host path with ⟨fault, same⟩ | ⟨gone, leads, _, _, same⟩
  · rwa [same] at there
  · rw [same, hasFile_withoutNode host (FileTree.placeOf?_ne_nil leads)] at there
    exact there.2

theorem createFile_cases (host : Host) (path : String) (mode : Nat) :
    (∃ fault, host.createFile path mode = (.error fault, host)) ∨
      ∃ place, host.placeOf? path = some place ∧ host.files.kindAt place = none ∧
        host.createFile path mode = (.ok place, (host.withNode place (.file [] mode host.now)).tick) := by
  unfold createFile placeOf? FileTree.placeOf?
  rcases host.files.findParent host.workDir path with fault | ⟨directory, name | name, slash⟩
  · exact .inl ⟨fault, rfl⟩
  · exact .inl ⟨.exists_, rfl⟩
  · cases slash with
    | true => exact .inl ⟨.isDirectory, rfl⟩
    | false =>
      simp only [FileTree.kindAt, Bool.false_eq_true, ↓reduceIte]
      cases here : host.files.nodeAt (directory ++ [name]) with
      | some node => exact .inl ⟨.exists_, rfl⟩
      | none =>
        cases host.disk.creation with
        | some fault => exact .inl ⟨fault, rfl⟩
        | none => exact .inr ⟨_, rfl, by simp [here], rfl⟩

theorem withNode_spares (host : Host) (place : Place) (node : Node)
    (fits : host.hasFile place → node.kind = .file) : SparesAll host (host.withNode place node) := by
  refine ⟨rfl, List.suffix_refl _, fun other _ there => ?_⟩
  rw [hasFile_withNode]
  split
  next same => exact fits (same ▸ there)
  next => exact there

theorem withNode_keepsWays (host : Host) (place : Place) (node : Node)
    (fits : ∀ kind, kind ≠ .file → host.files.kindAt place = some kind → node.kind = kind) :
    host.files.KeepsWays (host.withNode place node).files :=
  FileTree.keepsWays_insert _ _ _ fits

theorem setMode_spares (host : Host) (place : Place) (mode : Nat) :
    SparesAll host (host.setMode place mode) := by
  unfold setMode
  split
  next node here =>
    apply withNode_spares host place _
    intro there
    simpa [hasFile, FileTree.kindAt, here] using there
  next => exact .refl host

theorem setMode_keepsWays (host : Host) (place : Place) (mode : Nat) :
    host.files.KeepsWays (host.setMode place mode).files := by
  unfold setMode
  split
  next node here =>
    apply withNode_keepsWays host place _
    intro kind _ there
    simpa [FileTree.kindAt, here] using there
  next => exact .refl _

theorem createFile_spares (host : Host) (path : String) (mode : Nat) :
    SparesAll host (host.createFile path mode).2 := by
  rcases createFile_cases host path mode with ⟨fault, same⟩ | ⟨place, _, free, same⟩
  · rw [same]
    exact .refl host
  · rw [same]
    have spares := withNode_spares host place (.file [] mode host.now) (fun _ => rfl)
    exact ⟨rfl, List.suffix_refl _, spares.files⟩

theorem fill_spares (host : Host) (place : Place) (content : Bytes) :
    SparesAll host (host.fill place content).2 := by
  unfold fill
  split
  next =>
    split
    next =>
      split
      next => exact withNode_spares host place _ (fun _ => rfl)
      next => exact withNode_spares host place _ (fun _ => rfl)
    next => exact withNode_spares host place _ (fun _ => rfl)
  next => exact .refl host

theorem fill_keepsWays (host : Host) (place : Place) (content : Bytes) :
    host.files.KeepsWays (host.fill place content).2.files := by
  unfold fill
  split
  next old mode accessed here =>
    have isFile (kind : Kind) (solid : kind ≠ .file) (there : host.files.kindAt place = some kind)
        (new : Bytes) : (Node.file new mode accessed).kind = kind := by
      simpa [FileTree.kindAt, here, Node.kind] using there
    split
    next =>
      split
      next => exact withNode_keepsWays host place _ (fun kind solid there => isFile kind solid there _)
      next => exact withNode_keepsWays host place _ (fun kind solid there => isFile kind solid there _)
    next => exact withNode_keepsWays host place _ (fun kind solid there => isFile kind solid there _)
  next => exact .refl _

theorem createDirectory_spares (host : Host) (path : String) :
    SparesAll host (host.createDirectory path).2 := by
  unfold createDirectory
  split
  next => exact .refl host
  next => exact .refl host
  next directory name slash found =>
    simp only
    split
    next => exact .refl host
    next free =>
      split
      next => exact .refl host
      next =>
        have spares := withNode_spares host (directory ++ [name])
          (.directory (host.directoryMode directory) host.now)
          (fun there => by simp [hasFile, FileTree.kindAt, free] at there)
        exact ⟨rfl, List.suffix_refl _, spares.files⟩

theorem settleDirectory_host (path : String) (attempt : Except Fault Unit × Host) :
    (settleDirectory path attempt).2 = attempt.2 := by
  unfold settleDirectory
  split
  next => rfl
  next => split <;> rfl

theorem createDirectories_spares (host : Host) (path : String) :
    SparesAll host (host.createDirectories path).2 := by
  unfold createDirectories
  generalize path.length + 1 = fuel
  induction fuel generalizing host path with
  | zero => exact .refl host
  | succ fuel ih =>
    unfold createDirectoriesFrom
    have first := createDirectory_spares host path
    split
    next => exact .refl host
    next =>
      split
      next later missing =>
        rw [missing] at first
        split
        next => exact first
        next parent _ =>
          have above := ih later parent
          split
          next fault last made =>
            rw [made] at above
            exact first.trans above
          next last made =>
            rw [made] at above
            rw [settleDirectory_host]
            exact (first.trans above).trans (createDirectory_spares last path)
      next => rw [settleDirectory_host]; exact first

/-- Nothing happens but that answers of the system are used up. -/
def TakesAnswers (before after : Host) : Prop :=
  ∃ rest, rest <:+ before.ports ∧ after = { before with ports := rest }

namespace TakesAnswers
variable {first second third : Host}

theorem refl (host : Host) : TakesAnswers host host := ⟨host.ports, List.suffix_refl _, rfl⟩

theorem trans (one : TakesAnswers first second) (two : TakesAnswers second third) : TakesAnswers first third := by
  obtain ⟨rest, fewer, rfl⟩ := one
  obtain ⟨last, least, rfl⟩ := two
  exact ⟨last, least.trans fewer, rfl⟩

theorem spares (takes : TakesAnswers first second) : SparesAll first second := by
  obtain ⟨rest, fewer, rfl⟩ := takes
  exact ⟨rfl, fewer, fun _ _ there => there⟩

theorem placeOf? (takes : TakesAnswers first second) (path : String) :
    second.placeOf? path = first.placeOf? path := by
  obtain ⟨rest, fewer, rfl⟩ := takes
  rfl

end TakesAnswers

theorem bindPort_takes (host : Host) (address : Address) : TakesAnswers host (host.bindPort address).2 := by
  unfold bindPort
  split
  next => exact .refl host
  next =>
    split
    next => exact .refl host
    next answer rest known => exact ⟨rest, known ▸ List.suffix_cons _ _, rfl⟩

theorem freePort_takes (host : Host) (ip : String) : TakesAnswers host (host.freePort ip).2 := by
  unfold freePort
  split
  next => exact .refl host
  next => exact bindPort_takes host _

theorem freePorts_takes (host : Host) (ip : String) (count : Nat) :
    TakesAnswers host (host.freePorts ip count).2 := by
  induction count generalizing host with
  | zero => exact .refl host
  | succ count ih =>
    unfold freePorts
    have first := freePort_takes host ip
    split
    next fault later answer => rw [answer] at first; exact first
    next port later answer =>
      rw [answer] at first
      have others := ih later
      split
      next fault last answers => rw [answers] at others; exact first.trans others
      next ports last answers => rw [answers] at others; exact first.trans others

theorem isLocal_takes (host : Host) (ip : String) : TakesAnswers host (host.isLocal ip).2 := by
  unfold isLocal
  split
  next => exact .refl host
  next =>
    split
    next => exact .refl host
    next => exact bindPort_takes host _

theorem drawTempName_spares (host : Host) : SparesAll host host.drawTempName.2 :=
  ⟨rfl, List.suffix_refl _, fun _ _ there => there⟩

theorem drawUuid_spares (host : Host) : SparesAll host host.drawUuid.2 :=
  ⟨rfl, List.suffix_refl _, fun _ _ there => there⟩

theorem createTempFile_spares (leading ending : String) (attempts : Nat) (host : Host) :
    SparesAll host (createTempFile leading ending attempts host).2 := by
  induction attempts generalizing host with
  | zero => exact .refl host
  | succ attempts ih =>
    unfold createTempFile
    have drawn := drawTempName_spares host
    simp only
    generalize (Path.join _ _ : String) = path
    have created := createFile_spares host.drawTempName.2 path 0o600
    split
    next place later answer => rw [answer] at created; exact drawn.trans created
    next fault later answer =>
      rw [answer] at created
      split
      next => exact (drawn.trans created).trans (ih later)
      next => exact drawn.trans created

theorem markDirectorySticky_spares (host : Host) (path : String) :
    SparesAll host (host.markDirectorySticky path) := by
  unfold markDirectorySticky
  split
  next => exact .refl host
  next =>
    split
    next => exact .refl host
    next => exact setMode_spares host _ _

theorem markDirectorySticky_keepsWays (host : Host) (path : String) :
    host.files.KeepsWays (host.markDirectorySticky path).files := by
  unfold markDirectorySticky
  split
  next => exact .refl _
  next =>
    split
    next => exact .refl _
    next => exact setMode_keepsWays host _ _

end Mooring.Host
