import Mooring.Proofs.Connection.KernelFile
import Mooring.Proofs.Provisioner.Claiming

/-! The file of a kernel that the built-in provisioner launches. No other file is touched, it stands once the
first launch went well, and later launches leave it alone. -/

namespace Mooring.LocalProvisioner.Stage

open Host (Spares SparesAll)

theorem writeFile_eq (stage : Stage) :
    stage.writeFile.2.connection = (stage.connection.write stage.host).2.1 ∧
      stage.writeFile.2.host = (stage.connection.write stage.host).2.2 ∧
        (stage.writeFile.1 = .ok () → ∃ path, (stage.connection.write stage.host).1 = .ok path) := by
  unfold writeFile
  split
  next error connection host answer =>
    rw [answer]
    exact ⟨rfl, rfl, fun done => by cases done⟩
  next path connection host answer =>
    rw [answer]
    exact ⟨rfl, rfl, fun _ => ⟨path, rfl⟩⟩

theorem preLaunch_file (stage : Stage) {id : String} (isFor : stage.connection.IsFor id) :
    stage.preLaunch.2.connection.file = stage.connection.file ∧
      Spares (OwnPlace id) stage.host stage.preLaunch.2.host := by
  obtain ⟨ready, same, ⟨error, outcome⟩ | outcome⟩ := stage.preLaunch_writes
  · rw [outcome]
    exact ⟨same.file, same.takes.spares.after (.refl _)⟩
  · obtain ⟨connection, host, _⟩ := ready.writeFile_eq
    have isFor' := isFor.congr same.file
    rw [outcome, connection, host]
    exact ⟨(isFor'.write_file ready.host).trans same.file, same.takes.spares.after (isFor'.write_spares ready.host)⟩

theorem preLaunch_written (stage : Stage) (written : stage.connection.written = true) :
    stage.preLaunch.2.connection.written = true ∧ SparesAll stage.host stage.preLaunch.2.host := by
  obtain ⟨ready, same, ⟨error, outcome⟩ | outcome⟩ := stage.preLaunch_writes
  · rw [outcome]
    exact ⟨same.written.trans written, same.takes.spares⟩
  · obtain ⟨connection, host, _⟩ := ready.writeFile_eq
    have written' := same.written.trans written
    rw [outcome, connection, host]
    exact ⟨Connection.write_written written' ready.host,
      same.takes.spares.trans (Connection.write_again_spares written' ready.host)⟩

theorem preLaunch_ipc {stage : Stage} (ipc : stage.connection.transport = .ipc) :
    stage.preLaunch = stage.writeFile := by
  have checked : stage.checkLocal = (.ok (), stage) := by simp [checkLocal, ipc]
  have claimed : stage.claimAll = (.ok (), stage) := by simp [claimAll, ipc]
  simp only [preLaunch, checked, claimed]

theorem preLaunch_wrote {stage : Stage} (ipc : stage.connection.transport = .ipc) {path : String}
    {connection : Connection} {host : Host} (wrote : stage.connection.write stage.host = (.ok path, connection, host)) :
    stage.preLaunch = (.ok (), { stage with
      provisioner := { stage.provisioner with info := some (connection.snapshot false) }
      connection := connection
      host := host }) := by
  rw [preLaunch_ipc ipc, writeFile, wrote]

theorem preLaunch_stands (stage : Stage) (fresh : stage.connection.written = false)
    (done : stage.preLaunch.1 = .ok ()) :
    stage.preLaunch.2.connection.written = true ∧ ∃ path place, stage.preLaunch.2.connection.file = some path ∧
      stage.preLaunch.2.host.placeOf? path = some place ∧ stage.preLaunch.2.host.hasFile place := by
  obtain ⟨ready, same, ⟨error, outcome⟩ | outcome⟩ := stage.preLaunch_writes
  · rw [outcome] at done
    cases done
  · obtain ⟨connection, host, result⟩ := ready.writeFile_eq
    rw [outcome] at done ⊢
    rw [connection, host]
    obtain ⟨path, wrote⟩ := result done
    have new := Connection.currentFile?_unwritten (same.written.trans fresh) ready.host
    obtain ⟨written, named, place, leads, there⟩ := Connection.write_ok new (Prod.ext wrote rfl)
    exact ⟨written, path, place, named, leads, there⟩

end Mooring.LocalProvisioner.Stage
