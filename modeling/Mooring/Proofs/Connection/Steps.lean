import Mooring.Connection.Files
import Mooring.Proofs.ConnectionFile.Write

/-! What each operation on a connection does to its file name, to the mark that it wrote the file, and
to the files of the host. -/

namespace Mooring.Connection

open Host (Place Spares SparesAll)

@[simp] theorem recordAllocated_file (connection : Connection) : connection.recordAllocated.file = connection.file := by
  unfold recordAllocated
  split <;> rfl

@[simp] theorem recordAllocated_written (connection : Connection) :
    connection.recordAllocated.written = connection.written := by
  unfold recordAllocated
  split <;> rfl

@[simp] theorem takeUnchecked_file (connection : Connection) (patch : CredentialsPatch) :
    (connection.takeUnchecked patch).file = connection.file := by
  simp [takeUnchecked, setKey, takePorts, setIp, setTransport]

@[simp] theorem takeUnchecked_written (connection : Connection) (patch : CredentialsPatch) :
    (connection.takeUnchecked patch).written = connection.written := by
  simp [takeUnchecked, setKey, takePorts, setIp, setTransport]

@[simp] theorem loadPatch_file (connection : Connection) (patch : CredentialsPatch) :
    (connection.loadPatch patch).2.file = connection.file := by
  unfold loadPatch
  simp only
  split
  next => exact takeUnchecked_file connection patch
  next => split <;> exact takeUnchecked_file connection patch

@[simp] theorem loadPatch_written (connection : Connection) (patch : CredentialsPatch) :
    (connection.loadPatch patch).2.written = connection.written := by
  unfold loadPatch
  simp only
  split
  next => exact takeUnchecked_written connection patch
  next => split <;> exact takeUnchecked_written connection patch

theorem load_file (connection : Connection) (host : Host) (path : Option String) :
    (connection.load host path).2.file = connection.file := by
  unfold load
  split
  next => rfl
  next =>
    split
    next => rfl
    next patch _ => exact loadPatch_file connection patch

theorem load_written (connection : Connection) (host : Host) (path : Option String) :
    (connection.load host path).2.written = connection.written := by
  unfold load
  split
  next => rfl
  next =>
    split
    next => rfl
    next patch _ => exact loadPatch_written connection patch

/-- Either the file is still there, or writing it fails and changes nothing but the host, or there is a
new file. -/
theorem write_cases (connection : Connection) (host : Host) :
    (∃ path, connection.currentFile? host = some path ∧ connection.write host = (.ok path, connection, host)) ∨
      connection.currentFile? host = none ∧
        ((∃ error after, ConnectionFile.write host connection.file connection.credentials = (.error error, after) ∧
            connection.write host = (.error error, connection, after)) ∨
          ∃ path written after,
            ConnectionFile.write host connection.file connection.credentials = (.ok (path, written), after) ∧
              connection.write host = (.ok path, connection.afterWrite path written, after)) := by
  unfold write
  cases current : connection.currentFile? host with
  | some path => exact .inl ⟨path, rfl, rfl⟩
  | none =>
    refine .inr ⟨rfl, ?_⟩
    rcases ConnectionFile.write host connection.file connection.credentials with ⟨error | ⟨path, written⟩, after⟩
    · exact .inl ⟨error, after, rfl, rfl⟩
    · exact .inr ⟨path, written, after, rfl, rfl⟩

theorem currentFile?_unwritten {connection : Connection} (unwritten : connection.written = false) (host : Host) :
    connection.currentFile? host = none := by
  simp [currentFile?, unwritten]

theorem write_ok {connection later : Connection} {host after : Host} {path : String}
    (new : connection.currentFile? host = none) (done : connection.write host = (.ok path, later, after)) :
    later.written = true ∧ later.file = some path ∧
      ∃ place, after.placeOf? path = some place ∧ after.hasFile place := by
  rcases connection.write_cases host with
    ⟨old, current, _⟩ | ⟨_, ⟨error, stop, _, same⟩ | ⟨chosen, written, stop, wrote, same⟩⟩
  · rw [new] at current
    cases current
  · rw [same] at done
    cases done
  · rw [same] at done
    cases done
    exact ⟨rfl, rfl, ConnectionFile.write_ok_hasFile wrote⟩

theorem write_error {connection later : Connection} {host after : Host} {error : Error}
    (failed : connection.write host = (.error error, later, after)) : later = connection := by
  rcases connection.write_cases host with ⟨_, _, same⟩ | ⟨_, ⟨_, _, _, same⟩ | ⟨_, _, _, _, same⟩⟩
  · rw [same] at failed
    cases failed
  · rw [same] at failed
    cases failed
    rfl
  · rw [same] at failed
    cases failed

theorem write_spares (connection : Connection) (host : Host) :
    Spares (fun place => ∃ path, connection.file = some path ∧ host.placeOf? path = some place) host
      (connection.write host).2.2 := by
  have spares := ConnectionFile.write_spares host connection.file connection.credentials
  rcases connection.write_cases host with
    ⟨path, _, same⟩ | ⟨_, ⟨error, after, wrote, same⟩ | ⟨path, written, after, wrote, same⟩⟩
  · rw [same]
    exact .refl host
  · rw [same]
    rw [wrote] at spares
    exact spares
  · rw [same]
    rw [wrote] at spares
    exact spares

def reset (connection : Connection) (patch : CredentialsPatch) : Except Error Unit × Connection :=
  { connection with written := false, ports := Ports.unset }.loadPatch patch

@[simp] theorem reset_written (connection : Connection) (patch : CredentialsPatch) :
    (connection.reset patch).2.written = false := loadPatch_written _ patch

theorem force_eq (connection : Connection) (patch : CredentialsPatch) (host : Host) :
    connection.force patch host =
      match connection.reset patch with
      | (.error error, connection) => (.error error, connection, host)
      | (.ok (), connection) => connection.write host := rfl

theorem force_ok {connection later : Connection} {host after : Host} {patch : CredentialsPatch} {path : String}
    (done : connection.force patch host = (.ok path, later, after)) :
    later.written = true ∧ later.file = some path ∧
      ∃ place, after.placeOf? path = some place ∧ after.hasFile place := by
  rw [force_eq] at done
  have unwritten := connection.reset_written patch
  split at done
  next => cases done
  next cleared answer =>
    rw [answer] at unwritten
    exact write_ok (currentFile?_unwritten unwritten host) done

theorem force_error {connection later : Connection} {host after : Host} {patch : CredentialsPatch} {error : Error}
    (failed : connection.force patch host = (.error error, later, after)) : later.written = false := by
  rw [force_eq] at failed
  have unwritten := connection.reset_written patch
  split at failed
  next cleared answer =>
    rw [answer] at unwritten
    cases failed
    exact unwritten
  next cleared answer =>
    rw [answer] at unwritten
    rw [write_error failed]
    exact unwritten

theorem cleanupAllocated_cases (connection : Connection) (host : Host) :
    connection.cleanupAllocated host = (connection, host) ∨
      ∃ ports, connection.cleanupAllocated host = { connection with ports := ports }.cleanupFile host := by
  unfold cleanupAllocated
  split
  next => exact .inl rfl
  next channels _ => exact .inr ⟨_, rfl⟩

theorem cleanupFile_of_written {connection : Connection} {path : String} (host : Host)
    (written : connection.written = true) (named : connection.file = some path) :
    connection.cleanupFile host = ({ connection with written := false }, (host.removeFile path).2) := by
  simp [cleanupFile, written, named]

theorem cleanupFile_of_unwritten {connection : Connection} (host : Host) (unwritten : connection.written = false) :
    connection.cleanupFile host = (connection, host) := by
  simp [cleanupFile, unwritten]

theorem cleanupFile_spares (connection : Connection) (host : Host) :
    Spares (fun place => connection.written = true ∧ ∃ path, connection.file = some path ∧
      host.placeOf? path = some place) host (connection.cleanupFile host).2 := by
  unfold cleanupFile
  split
  next written =>
    cases named : connection.file with
    | none => exact .refl host
    | some path =>
      exact (host.removeFile_spares path).weaken (fun place _ leads => ⟨written, path, rfl, leads⟩)
  next => exact .refl host

theorem cleanupSockets_spares (connection : Connection) (host : Host) :
    Spares (fun place => connection.transport = .ipc ∧ ∃ channel,
      place.getLast? = (Path.names (connection.credentials.ipcPath channel)).getLast?) host
      (connection.cleanupSockets host) := by
  unfold cleanupSockets
  cases connection.transport with
  | tcp => exact .refl host
  | ipc =>
    simp only
    generalize Channel.all = channels
    induction channels generalizing host with
    | nil => exact .refl host
    | cons channel rest ih =>
      have first := host.removeFile_spares (connection.credentials.ipcPath channel)
      exact (first.weaken (fun place _ leads => ⟨trivial, channel, Host.getLast?_of_placeOf? leads⟩)).trans (ih _)

end Mooring.Connection
