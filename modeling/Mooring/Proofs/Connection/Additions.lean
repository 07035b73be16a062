import Mooring.Proofs.Connection.Failures
import Mooring.Proofs.Files.Additions
import Mooring.Proofs.Provisioner.KernelFile

/-! The files that a connection adds. Writing adds one at the path of the connection or none, and cleaning up
adds none. -/

namespace Mooring

open Host (Place Adds AddsNone NoLinkNamed)

/-- What is done adds a file at a path, or fails and adds none. -/
def AddsAt {α : Type} (path : String) (before : Host) (outcome : Except Error α × Host) : Prop :=
  match outcome.1 with
  | .ok _ => Adds (fun place => outcome.2.placeOf? path = some place) before outcome.2
  | .error _ => AddsNone before outcome.2

theorem AddsAt.after {α : Type} {path : String} {first second : Host} {outcome : Except Error α × Host}
    (one : AddsNone first second) (two : AddsAt path second outcome) : AddsAt path first outcome := by
  obtain ⟨result, host⟩ := outcome
  cases result <;> exact one.after two

theorem AddsAt.adds {α : Type} {path : String} {before : Host} {outcome : Except Error α × Host}
    (addsAt : AddsAt path before outcome) : Adds (fun _ => True) before outcome.2 := by
  obtain ⟨error | value, after⟩ := outcome
  · exact Adds.weaken addsAt (fun _ none => none.elim)
  · exact Adds.weaken addsAt (fun _ _ => trivial)

namespace ConnectionFile

theorem createSecret_addsAt (host : Host) (path : String) (content : Bytes) :
    AddsAt path host (createSecret host path content) := by
  rcases answer : createSecret host path content with ⟨error | _, after⟩
  · have dir : after.workDir = host.workDir := by
      have spares := (createSecret_cases host path content).1
      rw [answer] at spares
      exact spares.workDir
    exact Host.addsNone_of_alike dir (createSecret_error answer)
  · rcases createSecret_steps host path content with
      ⟨fault, same⟩ | ⟨place, result, later, free, spares, others, leads, there, _, same⟩
    · rw [same] at answer
      cases answer
    · rw [same] at answer
      cases result with
      | error error => cases answer
      | ok =>
        cases answer
        exact (Host.adds_of_alikeBut spares.workDir free there others).weaken (fun other here => here ▸ leads)

theorem secureWrite_addsAt {host : Host} {path : String} (content : Bytes)
    (noLink : host.NoLinkNamed (Path.names path).getLast?) : AddsAt path host (secureWrite host path content) := by
  rw [secureWrite_eq]
  have removed := Host.removeFile_addsNone noLink
  rcases answer : host.removeFile path with ⟨fault | _, later⟩
  · rw [answer] at removed
    simp only
    split
    next => exact (createSecret_addsAt later path content).after removed
    next => exact removed
  · rw [answer] at removed
    exact (createSecret_addsAt later path content).after removed

theorem write_addsAt {host : Host} {path : String} (solid : path ≠ "") (credentials : Credentials)
    (noLink : host.NoLinkNamed (Path.names path).getLast?) : AddsAt path host (write host (some path) credentials) := by
  rcases answer : write host (some path) credentials with ⟨error | ⟨chosen, written⟩, after⟩
  · rcases write_eq_error answer with ⟨_, rfl⟩ | chose | ⟨chosen, ready, chose, failed⟩
    · exact .refl _
    · rw [choosePath_some host solid] at chose
      cases chose
    · rw [choosePath_some host solid] at chose
      cases chose
      have takes := freshPorts_takes host credentials.transport (addressed credentials).ip
        credentials.ports.unsetChannels.length
      rcases failed with drew | ⟨_, fresh, drawn, content, drew, secured⟩
      · rw [drew] at takes
        exact takes.addsNone
      · rw [drew] at takes
        have stored := (secureWrite_addsAt content (takes.addsNone.noLinkNamed noLink)).after takes.addsNone
        rw [secured] at stored
        exact stored
  · obtain ⟨ready, drawn, stored, fresh, text, chose, drew, _, _, secured, rfl⟩ := write_eq_ok answer
    rw [choosePath_some host solid] at chose
    cases chose
    have takes := freshPorts_takes host credentials.transport (addressed credentials).ip
      credentials.ports.unsetChannels.length
    rw [drew] at takes
    have wrote := (secureWrite_addsAt (Utf8.ofString text) (takes.addsNone.noLinkNamed noLink)).after takes.addsNone
    rw [secured] at wrote
    have marked := stored.markDirectorySticky_addsNone path
    exact (Adds.weaken wrote (fun place leads => marked.placeOf? leads)).before marked

end ConnectionFile

namespace Connection

theorem write_addsAt {connection : Connection} {host : Host} {path : String} (named : connection.file = some path)
    (solid : path ≠ "") (noLink : host.NoLinkNamed (Path.names path).getLast?) :
    AddsAt path host ((connection.write host).1, (connection.write host).2.2) := by
  have wrote := ConnectionFile.write_addsAt solid connection.credentials noLink
  rcases connection.write_cases host with ⟨_, _, same⟩ | ⟨_, ⟨_, _, answer, same⟩ | ⟨_, _, _, answer, same⟩⟩
  · rw [same]
    exact .refl host
  · rw [same]
    rw [named] at answer
    rw [answer] at wrote
    exact wrote
  · rw [same]
    rw [named] at answer
    rw [answer] at wrote
    exact wrote

theorem write_ok_written {connection later : Connection} {host after : Host} {path : String}
    (done : connection.write host = (.ok path, later, after)) : later.written = true := by
  rcases connection.write_cases host with ⟨_, current, same⟩ | ⟨_, ⟨_, _, _, same⟩ | ⟨_, _, _, _, same⟩⟩
  · rw [same] at done
    cases done
    unfold currentFile? at current
    split at current
    next written => exact written
    next => cases current
  · rw [same] at done
    cases done
  · rw [same] at done
    cases done
    rfl

theorem cleanupFile_addsNone {connection : Connection} {host : Host}
    (noLink : ∀ path ∈ connection.file, host.NoLinkNamed (Path.names path).getLast?) :
    AddsNone host (connection.cleanupFile host).2 := by
  unfold cleanupFile
  split
  next =>
    cases named : connection.file with
    | none => exact .refl host
    | some path => exact Host.removeFile_addsNone (noLink path named)
  next => exact .refl host

theorem cleanupSockets_addsNone {connection : Connection} {host : Host}
    (noLink : connection.transport = .ipc → ∀ channel,
      host.NoLinkNamed (Path.names (connection.credentials.ipcPath channel)).getLast?) :
    AddsNone host (connection.cleanupSockets host) := by
  unfold cleanupSockets
  cases transport : connection.transport with
  | tcp => exact .refl host
  | ipc =>
    have free := noLink transport
    simp only
    generalize Channel.all = channels
    induction channels generalizing host with
    | nil => exact .refl host
    | cons channel rest ih =>
      have removed := Host.removeFile_addsNone (free channel)
      exact removed.trans (ih (fun _ other => removed.noLinkNamed (free other))
        (fun other => removed.noLinkNamed (free other)))

end Connection

namespace LocalProvisioner.Stage

theorem preLaunch_adds {stage : Stage} {path : String} (named : stage.connection.file = some path) (solid : path ≠ "")
    (noLink : stage.host.NoLinkNamed (Path.names path).getLast?) :
    AddsAt path stage.host (stage.preLaunch.1, stage.preLaunch.2.host) ∧
      (stage.preLaunch.1 = .ok () → stage.preLaunch.2.connection.written = true) := by
  obtain ⟨ready, same, ⟨error, outcome⟩ | outcome⟩ := stage.preLaunch_writes
  · rw [outcome]
    exact ⟨same.takes.addsNone, fun done => by cases done⟩
  · have wrote := (Connection.write_addsAt (same.file.trans named) solid
      (same.takes.addsNone.noLinkNamed noLink)).after same.takes.addsNone
    rw [outcome]
    unfold writeFile
    split
    next error connection host answer =>
      rw [answer] at wrote
      exact ⟨wrote, fun done => by cases done⟩
    next chosen connection host answer =>
      rw [answer] at wrote
      exact ⟨wrote, fun _ => Connection.write_ok_written answer⟩

end LocalProvisioner.Stage

end Mooring
