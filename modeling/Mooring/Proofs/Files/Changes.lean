import Mooring.Proofs.Files.Requests

/-! Entries that stay as they are, with content, mode and time. A request changes the entry at its own path
alone, so that a file that was made and removed again leaves no trace. -/

namespace Mooring.Host

/-- Every entry but those at the places that may be touched is what it was. -/
def AlikeBut (touched : Place → Prop) (before after : Host) : Prop :=
  ∀ place, ¬ touched place → after.files.nodeAt place = before.files.nodeAt place

def Alike (before after : Host) : Prop := ∀ place, after.files.nodeAt place = before.files.nodeAt place

/-- Every file was there before, with the same content. -/
def AddsNoFile (before after : Host) : Prop :=
  ∀ place, after.hasFile place → after.files.nodeAt place = before.files.nodeAt place

theorem Alike.refl (host : Host) : Alike host host := fun _ => rfl

theorem Alike.trans {first second third : Host} (one : Alike first second) (two : Alike second third) :
    Alike first third :=
  fun place => (two place).trans (one place)

theorem Alike.addsNoFile {before after : Host} (alike : Alike before after) : AddsNoFile before after :=
  fun place _ => alike place

theorem AddsNoFile.trans {first second third : Host} (one : AddsNoFile first second) (two : AddsNoFile second third) :
    AddsNoFile first third := by
  intro place there
  have still := two place there
  have before : second.hasFile place := by
    unfold Host.hasFile FileTree.kindAt at there ⊢
    rwa [← still]
  exact still.trans (one place before)

theorem AlikeBut.refl (touched : Place → Prop) (host : Host) : AlikeBut touched host host := fun _ _ => rfl

theorem AlikeBut.trans {touched : Place → Prop} {first second third : Host} (one : AlikeBut touched first second)
    (two : AlikeBut touched second third) : AlikeBut touched first third :=
  fun place spared => (two place spared).trans (one place spared)

theorem AlikeBut.addsNoFile {touched : Place → Prop} {before after : Host} (alike : AlikeBut touched before after)
    (gone : ∀ place, touched place → after.files.nodeAt place = none) : AddsNoFile before after := by
  intro place there
  by_cases touch : touched place
  · exact absurd (gone place touch) (nodeAt_of_hasFile there)
  · exact alike place touch

theorem TakesAnswers.alike {before after : Host} (takes : TakesAnswers before after) : Alike before after := by
  obtain ⟨rest, _, rfl⟩ := takes
  exact .refl before

theorem withNode_alikeBut (host : Host) (place : Place) (node : Node) :
    AlikeBut (· = place) host (host.withNode place node) :=
  fun _ elsewhere => FileTree.nodeAt_insert_of_ne host.files node elsewhere

theorem withoutNode_alikeBut (host : Host) (place : Place) : AlikeBut (· = place) host (host.withoutNode place) :=
  fun _ elsewhere => FileTree.nodeAt_erase_of_ne host.files elsewhere

theorem setMode_alikeBut (host : Host) (place : Place) (mode : Nat) :
    AlikeBut (· = place) host (host.setMode place mode) := by
  unfold setMode
  split
  next => exact host.withNode_alikeBut place _
  next => exact .refl _ host

theorem fill_alikeBut (host : Host) (place : Place) (content : Bytes) :
    AlikeBut (· = place) host (host.fill place content).2 := by
  unfold fill
  split
  next =>
    split
    next =>
      split
      next => exact host.withNode_alikeBut place _
      next => exact host.withNode_alikeBut place _
    next => exact host.withNode_alikeBut place _
  next => exact .refl _ host

@[simp] theorem disk_setMode (host : Host) (place : Place) (mode : Nat) :
    (host.setMode place mode).disk = host.disk := by
  unfold setMode
  split <;> rfl

theorem nodeAt_setMode_self (host : Host) (place : Place) (mode : Nat) :
    (host.setMode place mode).files.nodeAt place = (host.files.nodeAt place).map (Node.withMode mode) := by
  unfold setMode
  cases here : host.files.nodeAt place with
  | none => exact here
  | some node => exact FileTree.nodeAt_insert_self ..

theorem setMode_file_iff {host : Host} {place : Place} {mode mode' : Nat} {content : Bytes} {accessed : Int} :
    (host.setMode place mode).files.nodeAt place = some (.file content mode' accessed) ↔
      mode' = mode ∧ ∃ old, host.files.nodeAt place = some (.file content old accessed) := by
  rw [nodeAt_setMode_self]
  rcases host.files.nodeAt place with _ | ⟨stood, old, time⟩ | _ | _
  · simp
  · simp only [Option.map_some, Node.withMode, Option.some.injEq, Node.file.injEq]
    constructor
    · rintro ⟨rfl, rfl, rfl⟩
      exact ⟨rfl, old, rfl, rfl, rfl⟩
    · rintro ⟨rfl, _, rfl, -, rfl⟩
      exact ⟨rfl, rfl, rfl⟩
  · simp [Node.withMode]
  · simp [Node.withMode]

theorem fill_eq_ok_iff {host after : Host} {place : Place} {content : Bytes} :
    host.fill place content = (.ok (), after) ↔ ∃ old mode accessed,
      host.files.nodeAt place = some (.file old mode accessed) ∧
        (∀ limit fault, host.disk.capacity = some (limit, fault) → content.length ≤ limit) ∧
          after = host.withNode place (.file content mode accessed) := by
  unfold fill
  rcases host.files.nodeAt place with _ | ⟨stood, mode, accessed⟩ | _ | _
  · simp
  · constructor
    · intro done
      simp only at done
      refine ⟨stood, mode, accessed, rfl, ?_⟩
      split at done
      next limit fault bounded =>
        split at done
        next => cases done
        next fits =>
          cases done
          refine ⟨fun other fault' known => ?_, rfl⟩
          cases bounded.symm.trans known
          exact Nat.not_lt.mp fits
      next unbounded =>
        cases done
        refine ⟨fun limit fault known => ?_, rfl⟩
        cases unbounded.symm.trans known
    · rintro ⟨_, _, _, ⟨⟩, room, rfl⟩
      simp only
      split
      next limit fault bounded => rw [if_neg (Nat.not_lt.mpr (room limit fault bounded))]
      next => rfl
  · simp
  · simp

/-- A request to remove a file takes the entry at the path away, or changes nothing. -/
theorem removeFile_traces (host : Host) (path : String) :
    (∃ fault, host.removeFile path = (.error fault, host)) ∨ ∃ place, host.placeOf? path = some place ∧
      (host.removeFile path).1 = .ok () ∧ (host.removeFile path).2.files.nodeAt place = none ∧
        AlikeBut (· = place) host (host.removeFile path).2 := by
  rcases host.removeFile_cases path with refused | ⟨place, leads, _, _, same⟩
  · exact .inl refused
  · rw [same]
    exact .inr ⟨place, leads, rfl, FileTree.nodeAt_erase_self _ (FileTree.placeOf?_ne_nil leads),
      host.withoutNode_alikeBut place⟩

theorem removeFile_addsNoFile (host : Host) (path : String) : AddsNoFile host (host.removeFile path).2 := by
  rcases host.removeFile_traces path with ⟨fault, same⟩ | ⟨place, _, _, gone, alike⟩
  · rw [same]
    exact (Alike.refl host).addsNoFile
  · exact alike.addsNoFile (fun other same => same ▸ gone)

theorem TakesAnswers.removeFile {before after : Host} (takes : TakesAnswers before after) (path : String) :
    Alike (before.removeFile path).2 (after.removeFile path).2 := by
  obtain ⟨rest, _, rfl⟩ := takes
  unfold Host.removeFile
  rcases before.files.findParent before.workDir path with fault | ⟨directory, name | name, slash⟩
  · exact .refl before
  · exact .refl before
  · simp only
    rcases before.files.nodeAt (directory ++ [name]) with _ | node
    · exact .refl before
    · cases node <;> cases slash <;> exact fun _ => rfl

theorem createDirectory_addsNoFile (host : Host) (path : String) : AddsNoFile host (host.createDirectory path).2 := by
  unfold createDirectory
  split
  next => exact (Alike.refl host).addsNoFile
  next => exact (Alike.refl host).addsNoFile
  next directory name slash found =>
    simp only
    split
    next => exact (Alike.refl host).addsNoFile
    next =>
      split
      next => exact (Alike.refl host).addsNoFile
      next =>
        intro place there
        have notThis : place ≠ directory ++ [name] := by
          rintro rfl
          have made := (host.hasFile_withNode (directory ++ [name]) (directory ++ [name])
            (.directory (host.directoryMode directory) host.now)).mp there
          rw [if_pos rfl] at made
          cases made
        exact host.withNode_alikeBut _ _ place notThis

theorem createDirectories_addsNoFile (host : Host) (path : String) :
    AddsNoFile host (host.createDirectories path).2 := by
  unfold createDirectories
  generalize path.length + 1 = fuel
  induction fuel generalizing host path with
  | zero => exact (Alike.refl host).addsNoFile
  | succ fuel ih =>
    unfold createDirectoriesFrom
    have first := host.createDirectory_addsNoFile path
    split
    next => exact (Alike.refl host).addsNoFile
    next =>
      split
      next later missing =>
        rw [missing] at first
        split
        next => exact first
        next parent _ =>
          have above := ih later parent
          split
          next fault last made =>
            rw [made] at above
            exact first.trans above
          next last made =>
            rw [made] at above
            rw [settleDirectory_host]
            exact (first.trans above).trans (last.createDirectory_addsNoFile path)
      next =>
        rw [settleDirectory_host]
        exact first

theorem createTempFile_traces (leading ending : String) (attempts : Nat) (host : Host) :
    (∃ fault after, createTempFile leading ending attempts host = (.error fault, after) ∧ Alike host after) ∨
      ∃ path place after, createTempFile leading ending attempts host = (.ok path, after) ∧
        host.files.nodeAt place = none ∧ after.placeOf? path = some place ∧ after.hasFile place ∧
          AlikeBut (· = place) host after := by
  induction attempts generalizing host with
  | zero => exact .inl ⟨_, _, rfl, .refl host⟩
  | succ attempts ih =>
    unfold createTempFile
    simp only
    generalize (Path.join _ _ : String) = named
    rcases host.drawTempName.2.createFile_cases named 0o600 with ⟨fault, same⟩ | ⟨place, leads, free, same⟩
    · rw [same]
      simp only
      split
      next => exact ih host.drawTempName.2
      next => exact .inl ⟨_, _, rfl, .refl host⟩
    · have created := host.drawTempName.2.createFile_spares named 0o600
      rw [same] at created ⊢
      have kept := host.drawTempName.2.withNode_keepsWays place (.file [] 0o600 host.drawTempName.2.now)
        (fun kind _ there => by rw [free] at there; cases there)
      refine .inr ⟨named, place, _, rfl, Option.map_eq_none_iff.mp free, created.placeOf? kept leads, ?_,
        host.drawTempName.2.withNode_alikeBut place _⟩
      exact (Host.hasFile_withNode _ _ _ _).mpr (by rw [if_pos rfl]; rfl)

end Mooring.Host
