import Mooring.Proofs.Connection.Reachable
import Mooring.Proofs.ConnectionFile.Contents

/-! The connection file and the connection that wrote it. Both say the same, and go on doing so when the connection gets
another file name, because the address is kept. Another connection without ports that loads the file then has the same
credentials, but its own kernel name. -/

namespace Mooring.Connection

theorem afterWrite_credentials (connection : Connection) (path : String) (fresh : List UInt16) :
    (connection.afterWrite path (ConnectionFile.complete connection.credentials fresh)).credentials =
      ConnectionFile.complete connection.credentials fresh := by
  unfold afterWrite recordAllocated
  split <;> rfl

section Due
variable {connection later : Connection} {host after : Host} {path : String} (sound : connection.Sound)
  (due : connection.currentFile? host = none) (done : connection.write host = (.ok path, later, after))
include sound due done

/-- A write that is due and goes well. -/
theorem write_due :
    ∃ fresh, later = connection.afterWrite path (ConnectionFile.complete connection.credentials fresh) ∧
      ConnectionFile.write host connection.file connection.credentials =
        (.ok (path, ConnectionFile.complete connection.credentials fresh), after) := by
  rcases connection.write_cases host with ⟨_, current, -⟩ | ⟨-, ⟨_, _, -, same⟩ | ⟨chosen, written, stop, wrote, same⟩⟩
  · rw [due] at current
    cases current
  · rw [same] at done
    cases done
  · rw [same] at done
    cases done
    obtain ⟨_, _, _, fresh, _, _, _, rfl, _⟩ := ConnectionFile.write_eq_ok wrote
    rw [sound.addressed] at wrote ⊢
    exact ⟨fresh, rfl, wrote⟩

theorem write_kernelName : later.kernelName = connection.kernelName := by
  obtain ⟨fresh, rfl, -⟩ := write_due sound due done
  exact congrArg Credentials.kernelName (connection.afterWrite_credentials path fresh)

theorem read_written : ConnectionFile.read after path = .ok later.credentials.toPatch := by
  obtain ⟨fresh, rfl, wrote⟩ := write_due sound due done
  rw [afterWrite_credentials]
  exact ConnectionFile.read_of_write wrote

end Due

theorem credentials_setFiles {connection : Connection} {ip : String} (kept : connection.configuredIp = some ip)
    (paths : List String) : (paths.foldl setFile connection).credentials = connection.credentials := by
  induction paths generalizing connection with
  | nil => rfl
  | cons path rest ih =>
    have same : (connection.setFile path).credentials = connection.credentials := by
      simp only [credentials, Connection.ip, setFile, kept, Option.getD_some]
    exact (ih (show (connection.setFile path).configuredIp = some ip from kept)).trans same

/-- After a write the file says what the connection says. The write keeps all that was configured and gives ports to
channels without one. A second one does nothing, and other file names do not move the channels. -/
theorem written_file_agrees {connection later : Connection} {host after : Host} {path : String}
    (reachable : connection.Reachable) (due : connection.currentFile? host = none)
    (done : connection.write host = (.ok path, later, after)) :
    ConnectionFile.read after path = .ok later.credentials.toPatch ∧
      later.credentials = { connection.credentials with ports := later.ports } ∧
      (∀ channel, connection.ports.get channel ≠ 0 → later.ports.get channel = connection.ports.get channel) ∧
      later.write after = (.ok path, later, after) ∧
      ∀ (paths : List String) channel,
        (paths.foldl setFile later).url channel = later.credentials.url channel ∧
          (paths.foldl setFile later).credentials.ipcPath channel = later.credentials.ipcPath channel := by
  obtain ⟨owned, named, place, leads, there⟩ := write_ok due done
  obtain ⟨fresh, whole, wrote⟩ := write_due reachable.sound due done
  have same : later.credentials = ConnectionFile.complete connection.credentials fresh := by
    rw [whole, afterWrite_credentials]
  have ports : later.ports = connection.ports.assign connection.ports.unsetChannels fresh := by
    rw [whole]
    rfl
  have kept : later.configuredIp = some connection.ip := by
    rw [whole]
    rfl
  refine ⟨read_written reachable.sound due done, ?_, fun channel set => ?_, ?_, fun paths channel => ?_⟩
  · rw [same, ports]
    rfl
  · rw [ports]
    exact Ports.get_assign_of_not_mem _ _ (fun unset => set ((Ports.mem_unsetChannels _ channel).mp unset))
  · have exists_ : after.pathExists path = true := Host.pathExists_of_hasFile leads there
    have current : later.currentFile? after = some path := by
      rw [currentFile?, if_pos owned, named, Option.filter, if_pos exists_]
    rw [write, current]
  · have moved := credentials_setFiles kept paths
    exact ⟨congrArg (·.url channel) moved, congrArg (·.ipcPath channel) moved⟩

def nameless : Connection := (withSession (Session.withKey [107])).setTransport .ipc

theorem nameless_reachable : nameless.Reachable := .step (.new (.withKey [107])) (.setTransport .ipc)

theorem exists_eq_of_fst {α β γ : Type} {answer : α × β × γ} {first : α} (done : answer.1 = first) :
    ∃ second third, answer = (first, second, third) := ⟨answer.2.1, answer.2.2, by rw [← done]⟩

theorem written_file_agrees_nameless :
    ∃ later after, nameless.write (Host.Isolated.machine [["tmp"]] []) = (.ok "/tmp/kernel-aaaaaa.json", later, after) ∧
      ConnectionFile.read after "/tmp/kernel-aaaaaa.json" = .ok later.credentials.toPatch ∧
      later.ip = "kernel-ipc" ∧ later.write after = (.ok "/tmp/kernel-aaaaaa.json", later, after) ∧
      ∀ channel, (later.setFile "/run/b.json").url channel = later.url channel := by
  have done : (nameless.write (Host.Isolated.machine [["tmp"]] [])).1 = .ok "/tmp/kernel-aaaaaa.json" := by
    decide +kernel
  obtain ⟨later, after, whole⟩ := exists_eq_of_fst done
  have due := currentFile?_unwritten (show nameless.written = false from rfl) (Host.Isolated.machine [["tmp"]] [])
  obtain ⟨reads, same, -, again, moved⟩ := written_file_agrees nameless_reachable due whole
  have address : later.ip = "kernel-ipc" := congrArg Credentials.ip same
  exact ⟨later, after, whole, reads, address, again, fun channel => (moved ["/run/b.json"] channel).1⟩

theorem loadPatch_credentials {written reader : Connection} (sound : written.Sound)
    (unset : reader.ports = Ports.unset) :
    ∃ loaded, reader.loadPatch written.credentials.toPatch = (.ok (), loaded) ∧
      loaded.credentials = { written.credentials with kernelName := reader.kernelName } := by
  have accepted := Session.setScheme_of_supported
      (reader.takeUnchecked written.credentials.toPatch).session sound.scheme
  rcases reader.loadPatch_cases written.credentials.toPatch with ⟨scheme, error, named, refused, -⟩ | ⟨missing, -⟩ |
    ⟨scheme, session, named, taken, same⟩
  · cases named
    cases accepted.symm.trans refused
  · cases missing
  · cases named
    cases accepted.symm.trans taken
    have ports : PerChannel.ofFn (reader.portWith written.credentials.toPatch) = written.ports := by
      refine PerChannel.ext_get fun channel => ?_
      rw [PerChannel.get_ofFn, portWith, unset]
      cases channel <;> rfl
    have address : readIp (written.credentials.toPatch.ip.getD "") = some written.ip := sound.ip
    refine ⟨_, same, ?_⟩
    rw [takeUnchecked_eq, ports, address]
    rfl

theorem load_eq_loadPatch {connection : Connection} {host : Host} {asked : Option String} {path : String}
    {patch : CredentialsPatch} (given : asked.orElse (fun _ => connection.file) = some path)
    (reads : ConnectionFile.read host path = .ok patch) : connection.load host asked = connection.loadPatch patch := by
  rw [load, given]
  simp only [reads]

theorem load_written_file {connection later reader : Connection} {host after : Host}
    {path : String} {asked : Option String}
    (sound : connection.Sound) (due : connection.currentFile? host = none)
    (done : connection.write host = (.ok path, later, after)) (unset : reader.ports = Ports.unset)
    (given : asked.orElse (fun _ => reader.file) = some path) :
    ∃ loaded, reader.load after asked = (.ok (), loaded) ∧
      loaded.credentials = { later.credentials with kernelName := reader.kernelName } := by
  have writer : later.Sound := by
    have written := sound.write host
    rwa [done] at written
  rw [load_eq_loadPatch given (read_written sound due done)]
  exact loadPatch_credentials writer unset

/-- A connection without ports that loads a file that was written has the credentials of the writer, but for its own
kernel name, although the name is in the file. So the two agree in everything only when the names were the same. -/
theorem written_file_loads {connection later reader : Connection} {host after : Host}
    {path : String} {asked : Option String}
    (reachable : connection.Reachable) (due : connection.currentFile? host = none)
    (done : connection.write host = (.ok path, later, after)) (unset : reader.ports = Ports.unset)
    (given : asked.orElse (fun _ => reader.file) = some path) :
    (ConnectionFile.read after path).map (·.kernelName) = .ok (some later.kernelName) ∧
      (reader.load after asked).1 = .ok () ∧
      (reader.load after asked).2.credentials = { later.credentials with kernelName := reader.kernelName } ∧
      ((reader.load after asked).2.credentials = later.credentials ↔ reader.kernelName = later.kernelName) := by
  obtain ⟨loaded, answer, same⟩ := load_written_file reachable.sound due done unset given
  rw [read_written reachable.sound due done, answer]
  refine ⟨rfl, rfl, same, ?_⟩
  constructor
  · intro whole
    exact (congrArg Credentials.kernelName same).symm.trans (congrArg Credentials.kernelName whole)
  · intro names
    rw [same, names]
    rfl

def named (name : String) : Connection := { forFile "/run/a.json" with kernelName := name }

theorem named_reachable (name : String) : (named name).Reachable :=
  .step (.step (.new (.withKey [])) (.setFile "/run/a.json")) (.setKernelName name)

theorem named_writes : ∃ later after,
    (named "python").write (Host.Isolated.machine [["run"]] [11, 12, 13, 14, 15]) =
      (.ok "/run/a.json", later, after) := by
  have done : ((named "python").write (Host.Isolated.machine [["run"]] [11, 12, 13, 14, 15])).1 =
      .ok "/run/a.json" := by
    decide +kernel
  exact exists_eq_of_fst done

theorem written_file_loads_expected :
    ∃ later after, (named "python").write (Host.Isolated.machine [["run"]] [11, 12, 13, 14, 15]) =
        (.ok "/run/a.json", later, after) ∧
      ((named "python").load after none).1 = .ok () ∧
      ((named "python").load after none).2.credentials = later.credentials := by
  obtain ⟨later, after, whole⟩ := named_writes
  have due := currentFile?_unwritten (show (named "python").written = false from rfl)
    (Host.Isolated.machine [["run"]] [11, 12, 13, 14, 15])
  have unset : (named "python").ports = Ports.unset := rfl
  have own : (none : Option String).orElse (fun _ => (named "python").file) = some "/run/a.json" := rfl
  have name := write_kernelName (named_reachable "python").sound due whole
  obtain ⟨-, loads, -, agree⟩ := written_file_loads (named_reachable "python") due whole unset own
  exact ⟨later, after, whole, loads, agree.mpr name.symm⟩

/-- A new connection loads the file, which has a kernel name, and still has none. -/
theorem loading_drops_name :
    ∃ later after loaded, (named "python").Reachable ∧
      (named "python").write (Host.Isolated.machine [["run"]] [11, 12, 13, 14, 15]) =
        (.ok "/run/a.json", later, after) ∧
      (withSession (Session.withKey [111])).load after (some "/run/a.json") = (.ok (), loaded) ∧
      later.kernelName = "python" ∧ loaded.kernelName = "" ∧ loaded.credentials ≠ later.credentials := by
  obtain ⟨later, after, whole⟩ := named_writes
  have due := currentFile?_unwritten (show (named "python").written = false from rfl)
    (Host.Isolated.machine [["run"]] [11, 12, 13, 14, 15])
  have name := write_kernelName (named_reachable "python").sound due whole
  have unset : (withSession (Session.withKey [111])).ports = Ports.unset := rfl
  have given : (some "/run/a.json").orElse (fun _ => (withSession (Session.withKey [111])).file) =
      some "/run/a.json" := rfl
  obtain ⟨loaded, answer, same⟩ := load_written_file (named_reachable "python").sound due whole unset given
  have dropped : loaded.kernelName = "" := congrArg Credentials.kernelName same
  refine ⟨later, after, loaded, named_reachable "python", whole, answer, name, dropped, fun both => ?_⟩
  have sameName : loaded.kernelName = later.kernelName := congrArg Credentials.kernelName both
  rw [dropped, name] at sameName
  exact absurd sameName (by decide)

end Mooring.Connection
