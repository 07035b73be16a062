import Mooring.Proofs.ConnectionFile.FailedWrite
import Mooring.Proofs.ConnectionFile.Validity
import Mooring.Proofs.Files.Absolute
import Mooring.Proofs.Files.Narrowing

/-! What a secure write has done when it is over. A new file with all of the content stands at the path, in place of
the file or the link that was there, or no new file is left behind. -/

namespace Mooring

namespace Host

theorem createFile_eq_ok_iff {host after : Host} {path : String} {mode : Nat} {place : Place} :
    host.createFile path mode = (.ok place, after) ↔
      host.placeOf? path = some place ∧ host.files.nodeAt place = none ∧ host.disk.creation = none ∧
        after = (host.withNode place (.file [] mode host.now)).tick := by
  unfold createFile placeOf? FileTree.placeOf?
  rcases host.files.findParent host.workDir path with fault | ⟨directory, name | name, slash⟩
  · simp
  · simp
  · cases slash with
    | true => simp
    | false =>
      simp only [Bool.false_eq_true, if_false, Option.some.injEq]
      constructor
      · intro done
        split at done
        next => cases done
        next free =>
          split at done
          next => cases done
          next creation =>
            cases done
            exact ⟨rfl, free, creation, rfl⟩
      · rintro ⟨rfl, free, creation, rfl⟩
        rw [free, creation]

theorem removeFile_machine (host : Host) (path : String) :
    (host.removeFile path).2 = { host with files := (host.removeFile path).2.files } := by
  rcases host.removeFile_cases path with ⟨fault, same⟩ | ⟨place, -, -, -, same⟩
  · rw [same]
  · rw [same]
    rfl

theorem disk_removeFile (host : Host) (path : String) : (host.removeFile path).2.disk = host.disk := by
  rw [removeFile_machine]

theorem now_removeFile (host : Host) (path : String) : (host.removeFile path).2.now = host.now := by
  rw [removeFile_machine]

theorem removeFile_of_free {host : Host} {path : String} {place : Place} (leads : host.placeOf? path = some place)
    (free : host.files.nodeAt place = none) : host.removeFile path = (.error .notFound, host) := by
  unfold placeOf? FileTree.placeOf? at leads
  split at leads
  next directory name found =>
    cases leads
    simp [removeFile, found, free]
  next => cases leads

theorem removeFile_alikeBut (host : Host) (path : String) :
    AlikeBut (fun place => host.placeOf? path = some place) host (host.removeFile path).2 := by
  rcases host.removeFile_traces path with ⟨fault, same⟩ | ⟨place, leads, -, -, others⟩
  · rw [same]
    exact .refl _ host
  · intro other elsewhere
    refine others other (fun here => elsewhere ?_)
    rw [here]
    exact leads

end Host

namespace ConnectionFile

open Host (Place Alike AlikeBut)

section
variable {host after : Host} {path : String} {content : Bytes} {place : Place}

/-- A new file, as its creation, the change of its mode and the bytes that are written leave it. -/
def withSecret (host : Host) (place : Place) (content : Bytes) : Host :=
  ((host.withNode place (.file [] ownerOnly host.now)).tick.setMode place (secretMode host)).withNode place
    (.file content (secretMode host) host.now)

theorem nodeAt_withSecret (host : Host) (place : Place) (content : Bytes) :
    (withSecret host place content).files.nodeAt place = some (.file content (secretMode host) host.now) :=
  Host.FileTree.nodeAt_insert_self ..

theorem withSecret_alikeBut (host : Host) (place : Place) (content : Bytes) :
    AlikeBut (· = place) host (withSecret host place content) := by
  have created : AlikeBut (· = place) host (host.withNode place (.file [] ownerOnly host.now)).tick :=
    host.withNode_alikeBut place _
  exact (created.trans (Host.setMode_alikeBut _ place _)).trans (Host.withNode_alikeBut _ place _)

theorem placeOf?_withSecret {host : Host} {path : String} {place : Place} (leads : host.placeOf? path = some place)
    (free : host.files.nodeAt place = none) (content : Bytes) :
    (withSecret host place content).placeOf? path = some place := by
  have there : (withSecret host place content).hasFile place := by
    rw [Host.hasFile, Host.FileTree.kindAt, nodeAt_withSecret]
    rfl
  have dir : (withSecret host place content).workDir = host.workDir := (Host.setMode_spares _ place _).workDir
  exact (Host.adds_of_alikeBut dir free there (withSecret_alikeBut host place content)).placeOf? leads

theorem createSecret_eq_ok_iff :
    createSecret host path content = (.ok (), after) ↔
      ∃ place, host.placeOf? path = some place ∧ host.files.nodeAt place = none ∧ host.disk.creation = none ∧
        Accepts host.disk content ∧ after = withSecret host place content := by
  have filled (place : Place) (after : Host) :
      fillSecret (host.withNode place (.file [] ownerOnly host.now)).tick path place content = (.ok (), after) ↔
        Accepts host.disk content ∧ after = withSecret host place content := by
    have empty : (host.withNode place (.file [] ownerOnly host.now)).tick.files.nodeAt place =
        some (.file [] ownerOnly host.now) := Host.FileTree.nodeAt_insert_self ..
    rw [fillSecret_eq_ok_iff]
    constructor
    · rintro ⟨_, _, _, there, complete⟩
      cases empty.symm.trans there
      exact complete
    · exact fun complete => ⟨_, _, _, empty, complete⟩
  unfold createSecret
  constructor
  · intro done
    split at done
    next => cases done
    next place made created =>
      obtain ⟨leads, free, creation, rfl⟩ := Host.createFile_eq_ok_iff.mp created
      split at done
      next complete result =>
        cases done
        exact ⟨place, leads, free, creation, (filled place after).mp result⟩
      next => cases done
  · rintro ⟨place, leads, free, creation, accepts⟩
    rw [Host.createFile_eq_ok_iff.mpr ⟨leads, free, creation, rfl⟩]
    simp only
    rw [(filled place after).mpr accepts]

/-- A secure write succeeds exactly if a free place is at the path once the old file is gone, and the disk lets a secret
file be made there. -/
theorem secureWrite_eq_ok_iff :
    secureWrite host path content = (.ok (), after) ↔
      ∃ place, (host.removeFile path).2.placeOf? path = some place ∧
        (host.removeFile path).2.files.nodeAt place = none ∧ host.disk.creation = none ∧ Accepts host.disk content ∧
          after = withSecret (host.removeFile path).2 place content := by
  rw [secureWrite_eq]
  have created : createSecret (host.removeFile path).2 path content = (.ok (), after) ↔ _ := createSecret_eq_ok_iff
  rw [Host.disk_removeFile] at created
  rcases answer : host.removeFile path with ⟨fault | _, later⟩
  · rw [answer] at created
    simp only
    split
    next => exact created
    next refused =>
      -- A place that is free is not found when it is to be removed.
      refine iff_of_false (by simp) ?_
      rintro ⟨place, leads, free, -⟩
      obtain rfl : later = host := by
        rcases host.removeFile_cases path with ⟨_, same⟩ | ⟨_, -, -, -, same⟩
        · exact (Prod.ext_iff.mp (answer.symm.trans same)).2
        · cases answer.symm.trans same
      rw [Host.removeFile_of_free leads free] at answer
      cases answer
      exact refused rfl
  · rw [answer] at created
    exact created

end

/-- What a link led to is elsewhere and the same: the entry, or nothing where a name was free. -/
structure SparesTarget (before after : Host) (path : String) (place : Place) : Prop where
  entry : ∀ other node, before.entry? path = .ok (other, node) → (∀ target, node ≠ .link target) →
    other ≠ place ∧ after.files.nodeAt other = some node
  free : ∀ directory name, before.find true path = .ok (.vacant directory name) →
    directory ++ [name] ≠ place ∧ after.files.nodeAt (directory ++ [name]) = none

/-- The path stands for the same place as before. A new file is there that has all of the content and that only its
owner can read. What was there was no directory and is gone, and all else is the same. -/
structure Secured (before after : Host) (path : String) (content : Bytes) (place : Place) : Prop where
  led : before.placeOf? path = some place
  leads : after.placeOf? path = some place
  noDirectory : before.files.kindAt place ≠ some .directory
  cleared : (before.removeFile path).2.files.nodeAt place = none
  file : ∃ mode, after.files.nodeAt place = some (.file content mode before.now) ∧ mode &&& 0o777 = ownerOnly ∧
    (before.disk.forcedMode = none → mode = ownerOnly)
  target : ∀ target, before.files.nodeAt place = some (.link target) → SparesTarget before after path place
  others : AlikeBut (· = place) before after

/-- Nothing has changed but that the old file may be gone, so what still stands at the path stood there before. -/
structure RolledBack (before after : Host) (path : String) : Prop where
  removed : Alike (before.removeFile path).2 after
  atPath : ∀ place node, after.placeOf? path = some place → after.files.nodeAt place = some node →
    before.placeOf? path = some place ∧ before.files.nodeAt place = some node
  others : AlikeBut (fun place => before.placeOf? path = some place) before after

structure Outcome (before : Host) (path : String) (content : Bytes) (result : Except Error Unit × Host) : Prop where
  secured : result.1 = .ok () → ∃ place, Secured before result.2 path content place
  rolledBack : ∀ error, result.1 = .error error → RolledBack before result.2 path

section
variable {host after : Host} {path : String} {content : Bytes} {place : Place}

theorem sparesTarget_of_alikeBut {target : String} (link : host.files.nodeAt place = some (.link target))
    (others : AlikeBut (· = place) host after) : SparesTarget host after path place where
  entry other node found solid := by
    have there : host.files.nodeAt other = some node := host.files.find_fits (Host.entry?_eq_ok.mp found)
    have elsewhere : other ≠ place := by
      rintro rfl
      rw [link] at there
      exact solid target (Option.some.inj there).symm
    exact ⟨elsewhere, (others other elsewhere).trans there⟩
  free directory name found := by
    have free : host.files.nodeAt (directory ++ [name]) = none := host.files.find_fits found
    have elsewhere : directory ++ [name] ≠ place := by
      rintro rfl
      rw [link] at free
      cases free
    exact ⟨elsewhere, (others _ elsewhere).trans free⟩

theorem secureWrite_secured (done : secureWrite host path content = (.ok (), after)) :
    ∃ place, Secured host after path content place := by
  obtain ⟨place, leads, free, -, accepts, rfl⟩ := secureWrite_eq_ok_iff.mp done
  have led := Host.placeOf?_of_removeFile leads
  have others : AlikeBut (· = place) host (withSecret (host.removeFile path).2 place content) := by
    intro other elsewhere
    have spared : host.placeOf? path ≠ some other := by
      rw [led]
      exact fun same => elsewhere (Option.some.inj same).symm
    calc (withSecret (host.removeFile path).2 place content).files.nodeAt other
      _ = (host.removeFile path).2.files.nodeAt other := withSecret_alikeBut _ place content other elsewhere
      _ = host.files.nodeAt other := host.removeFile_alikeBut path other spared
  refine ⟨place, led, placeOf?_withSecret leads free content, ?_, free, ?_, ?_, others⟩
  · intro directory
    rcases host.removeFile_cases path with ⟨fault, same⟩ | ⟨place', leads', -, noDirectory, -⟩
    · rw [same] at free
      simp [Host.FileTree.kindAt, free] at directory
    · obtain rfl : place = place' := Option.some.inj (led.symm.trans leads')
      exact noDirectory directory
  · refine ⟨secretMode host, ?_, accepts.mode, fun keeps => by simp [secretMode, keeps]⟩
    have there := nodeAt_withSecret (host.removeFile path).2 place content
    rwa [Host.now_removeFile, secretMode, Host.disk_removeFile] at there
  · exact fun target link => sparesTarget_of_alikeBut link others

theorem secureWrite_rolledBack {error : Error} (failed : secureWrite host path content = (.error error, after)) :
    RolledBack host after path := by
  have alike := secureWrite_error failed
  have dir : after.workDir = host.workDir := by
    have spares := (secureWrite_cases host path content).1
    rw [failed] at spares
    exact spares.workDir
  have dwindles : Host.Dwindles host after :=
    (host.removeFile_dwindles path).trans (alike.dwindles (dir.trans (host.removeFile_spares path).workDir.symm))
  have others : AlikeBut (fun place => host.placeOf? path = some place) host after :=
    fun place elsewhere => (alike place).trans (host.removeFile_alikeBut path place elsewhere)
  refine ⟨alike, fun place node leads there => ?_, others⟩
  have led := dwindles.placeOf? leads
  refine ⟨led, ?_⟩
  rw [alike place] at there
  rcases host.removeFile_traces path with ⟨fault, same⟩ | ⟨place', leads', -, gone, -⟩
  · rwa [same] at there
  · obtain rfl : place = place' := Option.some.inj (led.symm.trans leads')
    rw [gone] at there
    cases there

/-- A secure write that succeeds leaves a new secret file at the path and everything else alone. One that fails leaves
no file that was not there before. -/
theorem secureWrite_secures (host : Host) (path : String) (content : Bytes) :
    Outcome host path content (secureWrite host path content) := by
  rcases answer : secureWrite host path content with ⟨result, after⟩
  refine ⟨fun done => ?_, fun error failed => ?_⟩
  · exact secureWrite_secured (answer.trans (congrArg (·, after) done))
  · exact secureWrite_rolledBack (answer.trans (congrArg (·, after) failed))

theorem write_of_free {credentials : Credentials} {fresh : List UInt16} {key : List Char} (named : path ≠ "")
    (addressed : credentials.ip.isEmpty = false) (isText : Utf8.decode credentials.key = .ok key)
    (leads : host.placeOf? path = some place) (free : host.files.nodeAt place = none) (sound : host.disk = {})
    (found : freshPorts host credentials.transport credentials.ip credentials.ports.unsetChannels.length =
      (.ok fresh, host)) :
    ∃ content, write host (some path) credentials =
      (.ok (path, complete credentials fresh), (withSecret host place content).markDirectorySticky path) := by
  obtain ⟨text, printed⟩ := @fileText_of_decode (complete credentials fresh) _ isText
  have secret : secureWrite host path (Utf8.ofString text) = (.ok (), withSecret host place (Utf8.ofString text)) := by
    rw [secureWrite_eq_ok_iff, Host.removeFile_of_free leads free, sound]
    exact ⟨place, leads, free, rfl, ⟨rfl, rfl, nofun, rfl⟩, rfl⟩
  refine ⟨Utf8.ofString text, ?_⟩
  unfold ConnectionFile.write
  simp only [addressed, Bool.false_eq_true, if_false, isText, choosePath_some host named, found, printed, secret]

theorem removeFile_withSecret (leads : host.placeOf? path = some place) (free : host.files.nodeAt place = none)
    (content : Bytes) :
    (withSecret host place content).removeFile path = (.ok (), (withSecret host place content).withoutNode place) := by
  apply Host.removeFile_of_hasFile (placeOf?_withSecret leads free content)
  rw [Host.hasFile, Host.FileTree.kindAt, nodeAt_withSecret]
  rfl

theorem removeFile_withSecret_alike (leads : host.placeOf? path = some place)
    (free : host.files.nodeAt place = none) (content : Bytes) :
    Host.Alike host ((withSecret host place content).removeFile path).2 := by
  intro other
  rw [removeFile_withSecret leads free]
  by_cases same : other = place
  · rw [same, free]
    exact Host.FileTree.nodeAt_erase_self _ (Host.FileTree.placeOf?_ne_nil leads)
  · exact (Host.withoutNode_alikeBut _ place other same).trans (withSecret_alikeBut host place content other same)

end

def linked : Host :=
  ((Host.Isolated.machine [["run"]] []).withNode ["run", "open"] (.file [7] 0o644 0)).withNode
    ["run", "key"] (.link "open")

theorem secureWrite_secures_linked : (secureWrite linked "/run/key" [1, 2]).1 = .ok () ∧
    (∃ place, Secured linked (secureWrite linked "/run/key" [1, 2]).2 "/run/key" [1, 2] place) ∧
    (secureWrite linked "/run/key" [1, 2]).2.files.nodeAt ["run", "open"] = some (.file [7] 0o644 0) := by
  have done : (secureWrite linked "/run/key" [1, 2]).1 = .ok () := by decide +kernel
  have kept : (secureWrite linked "/run/key" [1, 2]).2.files.nodeAt ["run", "open"] = some (.file [7] 0o644 0) := by
    decide +kernel
  exact ⟨done, (secureWrite_secures linked "/run/key" [1, 2]).secured done, kept⟩

/-- On a disk with room for one byte, the link is gone after the write, and no byte of the new file is left. -/
example : (secureWrite { linked with disk := { capacity := some (1, .system 28) } } "/run/key" [1, 2]).1 =
      .error (.io (.system 28)) ∧
    (secureWrite { linked with disk := { capacity := some (1, .system 28) } } "/run/key" [1, 2]).2.files.nodeAt
      ["run", "key"] = none := by
  decide +kernel

end ConnectionFile
end Mooring
