import Mooring.Proofs.Connection.Additions
import Mooring.Proofs.Files.Narrowing

/-! What writing and cleaning up a connection file do to the ways through the file system: they open none, so that
a path which leads somewhere afterwards has led there before. -/

namespace Mooring

open Host (Place Narrows Dwindles)

/-- What is done leaves a new file at a path, or fails and leaves none; no way is opened. -/
def NarrowsAt {α : Type} (path : String) (before : Host) (outcome : Except Error α × Host) : Prop :=
  match outcome.1 with
  | .ok _ => Narrows (fun place => outcome.2.placeOf? path = some place) before outcome.2
  | .error _ => Dwindles before outcome.2

theorem NarrowsAt.after {α : Type} {path : String} {first second : Host} {outcome : Except Error α × Host}
    (one : Dwindles first second) (two : NarrowsAt path second outcome) : NarrowsAt path first outcome := by
  obtain ⟨result, host⟩ := outcome
  cases result <;> exact one.after two

theorem NarrowsAt.refl {α : Type} {path : String} (result : Except Error α) (host : Host) :
    NarrowsAt path host (result, host) := by
  cases result <;> exact Narrows.refl host

namespace ConnectionFile

theorem createSecret_narrowsAt (host : Host) (path : String) (content : Bytes) :
    NarrowsAt path host (createSecret host path content) := by
  rcases createSecret_steps host path content with
    ⟨fault, same⟩ | ⟨place, result, later, free, spares, others, leads, there, _, same⟩
  · rw [same]
    exact .refl _ host
  · cases result with
    | ok =>
      rw [same]
      exact (others.narrows spares.workDir there).weaken (fun other here => here ▸ leads)
    | error error =>
      have dir := (createSecret_cases host path content).1.workDir
      rw [same] at dir ⊢
      exact (createSecret_error same).dwindles dir

theorem secureWrite_narrowsAt (host : Host) (path : String) (content : Bytes) :
    NarrowsAt path host (secureWrite host path content) := by
  have removed := host.removeFile_dwindles path
  rw [secureWrite_eq]
  rcases answer : host.removeFile path with ⟨fault | _, later⟩
  · rw [answer] at removed
    simp only
    split
    next => exact (createSecret_narrowsAt later path content).after removed
    next => exact removed
  · rw [answer] at removed
    exact (createSecret_narrowsAt later path content).after removed

theorem write_narrowsAt (host : Host) {path : String} (solid : path ≠ "") (credentials : Credentials) :
    NarrowsAt path host (write host (some path) credentials) := by
  have takes := freshPorts_takes host credentials.transport (addressed credentials).ip
      credentials.ports.unsetChannels.length
  rcases answer : write host (some path) credentials with ⟨error | ⟨chosen, written⟩, after⟩
  · rcases write_eq_error answer with ⟨_, rfl⟩ | chose | ⟨chosen, ready, chose, failed⟩
    · exact .refl _ _
    · rw [choosePath_some host solid] at chose
      cases chose
    · rw [choosePath_some host solid] at chose
      cases chose
      rcases failed with drew | ⟨_, fresh, drawn, content, drew, secured⟩
      · rw [drew] at takes
        exact takes.dwindles
      · rw [drew] at takes
        have stored := (secureWrite_narrowsAt drawn path content).after takes.dwindles
        rw [secured] at stored
        exact stored
  · obtain ⟨ready, drawn, stored, fresh, text, chose, drew, _, _, secured, rfl⟩ := write_eq_ok answer
    rw [choosePath_some host solid] at chose
    cases chose
    rw [drew] at takes
    have wrote := (secureWrite_narrowsAt drawn path (Utf8.ofString text)).after takes.dwindles
    rw [secured] at wrote
    have marked := stored.markDirectorySticky_addsNone path
    exact (Narrows.weaken wrote (fun place leads => marked.placeOf? leads)).before
      (stored.markDirectorySticky_dwindles path)

end ConnectionFile

namespace Connection

theorem write_narrowsAt {connection : Connection} {path : String}
    (named : connection.file = some path) (solid : path ≠ "")
    (host : Host) : NarrowsAt path host ((connection.write host).1, (connection.write host).2.2) := by
  have wrote := ConnectionFile.write_narrowsAt host solid connection.credentials
  rw [← named] at wrote
  rcases connection.write_cases host with ⟨_, _, same⟩ | ⟨_, ⟨_, _, answer, same⟩ | ⟨_, _, _, answer, same⟩⟩
  · rw [same]
    exact .refl _ host
  · rw [same]
    rw [answer] at wrote
    exact wrote
  · rw [same]
    rw [answer] at wrote
    exact wrote

theorem cleanupFile_dwindles (connection : Connection) (host : Host) :
    Dwindles host (connection.cleanupFile host).2 := by
  unfold cleanupFile
  split
  next =>
    cases connection.file with
    | none => exact .refl host
    | some path => exact host.removeFile_dwindles path
  next => exact .refl host

theorem cleanupSockets_dwindles (connection : Connection) (host : Host) :
    Dwindles host (connection.cleanupSockets host) := by
  unfold cleanupSockets
  cases connection.transport with
  | tcp => exact .refl host
  | ipc =>
    simp only
    generalize Channel.all = channels
    induction channels generalizing host with
    | nil => exact .refl host
    | cons channel rest ih => exact (host.removeFile_dwindles _).trans (ih _)

def cleaned (connection : Connection) (host : Host) : Host :=
  (connection.cleanupFile host).1.cleanupSockets (connection.cleanupFile host).2

theorem cleaned_dwindles (connection : Connection) (host : Host) : Dwindles host (connection.cleaned host) :=
  (connection.cleanupFile_dwindles host).trans ((connection.cleanupFile host).1.cleanupSockets_dwindles _)

theorem cleaned_noFileAt {connection : Connection} (written : connection.written = true) {path : String}
    (named : connection.file = some path) (host : Host) : (connection.cleaned host).NoFileAt path := by
  unfold cleaned
  rw [cleanupFile_of_written host written named]
  exact (host.removeFile_noFileAt path).dwindles (cleanupSockets_dwindles _ _)

end Connection

namespace LocalProvisioner.Stage

theorem preLaunch_narrowsAt {stage : Stage} {path : String}
    (named : stage.connection.file = some path) (solid : path ≠ "") :
    NarrowsAt path stage.host (stage.preLaunch.1, stage.preLaunch.2.host) := by
  obtain ⟨ready, same, ⟨error, outcome⟩ | outcome⟩ := stage.preLaunch_writes
  · rw [outcome]
    exact same.takes.dwindles
  · have wrote := (Connection.write_narrowsAt (same.file.trans named) solid ready.host).after same.takes.dwindles
    rw [outcome]
    unfold writeFile
    split
    next error connection host answer =>
      rw [answer] at wrote
      exact wrote
    next chosen connection host answer =>
      rw [answer] at wrote
      exact wrote

end LocalProvisioner.Stage

end Mooring
