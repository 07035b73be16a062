import Mooring.Proofs.Connector.Builtin
import Mooring.Proofs.Connector.ReadyKernels
import Mooring.Proofs.Files.RawPaths
import Mooring.Proofs.Provisioner.KernelFile

/-! Where kernels over socket files are reached. Each has the address that its connector gives to its id, for
good, and its endpoints are told apart by that address and an index. -/

namespace Mooring

open World (isValidId fileName)

/-- What is fixed about a connector when it is made. -/
structure Settings where
  directory : String
  transport : Transport
  ip : Option String

def Connector.settings (connector : Connector) : Settings := ⟨connector.directory, connector.transport, connector.ip⟩

namespace Settings

def address? (settings : Settings) : Option String := settings.ip.bind Connection.readIp

def addressOf (settings : Settings) (id : String) : String :=
  settings.address?.getD (Connection.defaultIp .ipc (some (Path.join settings.directory (fileName id))))

theorem defaultIp_kernelPath (directory : String) {id : String} (valid : isValidId id = true) :
    Connection.defaultIp .ipc (some (Path.join directory (fileName id))) =
      Path.join directory ("kernel-" ++ id ++ "-ipc") := by
  obtain ⟨front, ends, joined⟩ := Path.join_front directory
  have clear := World.clear_of_isValidId valid
  have beside := Connection.ipBeside_front (RawPath.EndsPiece.ofString ends) ("kernel-" ++ id)
    (by simp [String.toList_append]) (by simp [String.toList_append, clear])
  rw [Utf8.ofString, Utf8.lossy_encode, String.ofList_toList] at beside
  rw [joined _ (World.fileName_whole valid), joined _ (by simp [String.toList_append, clear])]
  rw [← Utf8.ofString, ← RawPath.ofString_append] at beside
  exact beside

/-- Without a configured address, socket files stand beside the file of the kernel. -/
theorem beside_front (directory : String) : ∃ front, ∀ id, isValidId id = true →
    Connection.defaultIp .ipc (some (Path.join directory (fileName id))) = front ++ ("kernel-" ++ id ++ "-ipc") := by
  obtain ⟨front, -, joined⟩ := Path.join_front directory
  refine ⟨front, fun id valid => ?_⟩
  have clear := World.clear_of_isValidId valid
  rw [defaultIp_kernelPath directory valid, joined _ (by simp [String.toList_append, clear])]

theorem readIp_ne_empty {ip address : String} (read : Connection.readIp ip = some address) : address ≠ "" := by
  unfold Connection.readIp at read
  split at read
  next => cases read
  next solid =>
    split at read
    next =>
      cases read
      decide
    next =>
      cases read
      exact fun empty => solid (String.isEmpty_iff.mpr empty)

theorem addressOf_front (settings : Settings) : ∃ (front : String) (middle : String → String), ∀ id,
    isValidId id = true → settings.addressOf id = front ++ middle id ∧ '/' ∉ (middle id).toList := by
  unfold addressOf
  cases settings.address? with
  | some address => exact ⟨address, fun _ => "", fun id _ => ⟨String.append_empty.symm, List.not_mem_nil⟩⟩
  | none =>
    obtain ⟨front, beside⟩ := beside_front settings.directory
    refine ⟨front, fun id => "kernel-" ++ id ++ "-ipc", fun id valid => ⟨beside id valid, ?_⟩⟩
    simp [String.toList_append, World.clear_of_isValidId valid]

theorem addressOf_ne_empty (settings : Settings) {id : String} (valid : isValidId id = true) :
    settings.addressOf id ≠ "" := by
  unfold addressOf
  cases configured : settings.address? with
  | some address =>
    obtain ⟨ip, -, read⟩ := Option.bind_eq_some_iff.mp configured
    exact readIp_ne_empty read
  | none =>
    obtain ⟨front, beside⟩ := beside_front settings.directory
    rw [Option.getD_none, beside id valid]
    intro empty
    have lists := congrArg String.toList empty
    simp [String.toList_append] at lists

/-- Two kernels have one address exactly when an address is configured. -/
theorem addressOf_eq_iff (settings : Settings) {one two : String} (oneValid : isValidId one = true)
    (twoValid : isValidId two = true) (different : one ≠ two) :
    settings.addressOf one = settings.addressOf two ↔ settings.address?.isSome := by
  unfold addressOf
  cases settings.address? with
  | some address => simp
  | none =>
    obtain ⟨front, beside⟩ := beside_front settings.directory
    rw [Option.getD_none, Option.getD_none, beside one oneValid, beside two twoValid]
    refine ⟨fun same => absurd ?_ different, fun none => by cases none⟩
    have lists := congrArg String.toList same
    simp only [String.toList_append, List.append_assoc, List.append_cancel_left_eq] at lists
    exact String.toList_inj.mp (List.append_cancel_right lists)

end Settings

namespace Connection

/-- The kernel listens on socket files at the address, whatever becomes of its own file. -/
structure ServesAt (address : String) (connection : Connection) : Prop where
  transport : connection.transport = .ipc
  configured : connection.configuredIp = some address
  file : ∃ id, connection.IsFor id

namespace ServesAt
variable {address : String} {connection : Connection}

theorem ip (serves : connection.ServesAt address) : connection.ip = address := by
  rw [Connection.ip, serves.configured, Option.getD_some]

theorem ipcPath (serves : connection.ServesAt address) (channel : Channel) :
    connection.credentials.ipcPath channel = Credentials.socketPath address (connection.ports.get channel) := by
  rw [Credentials.ipcPath]
  exact congrArg (Credentials.socketPath · _) serves.ip

theorem url (serves : connection.ServesAt address) (channel : Channel) :
    connection.url channel = "ipc://" ++ Credentials.socketPath address (connection.ports.get channel) := by
  simp only [Connection.url, Credentials.url, Connection.credentials, serves.transport, serves.ip, Credentials.urlOf,
    Credentials.socketPath, String.append_assoc]

end ServesAt

theorem write_servesAt {connection : Connection} {host : Host} {path : String} (solid : connection.ip ≠ "")
    (ipc : connection.transport = .ipc) {id : String} (isFor : connection.IsFor id)
    (unwritten : connection.currentFile? host = none)
    (done : (connection.write host).1 = .ok path) : (connection.write host).2.1.ServesAt connection.ip := by
  rcases connection.write_cases host with ⟨_, current, _⟩ | ⟨_, ⟨_, _, _, same⟩ | ⟨chosen, written, after, wrote, same⟩⟩
  · rw [unwritten] at current
    cases current
  · rw [same] at done
    cases done
  · have named := isFor.congr (isFor.write_file host)
    obtain ⟨_, _, _, _, _, _, _, rfl, _⟩ := ConnectionFile.write_eq_ok wrote
    rw [same] at named ⊢
    refine ⟨(recordAllocated_transport connection).trans ipc, congrArg some ?_, id, named⟩
    have nonempty : connection.credentials.ip.isEmpty = false := by
      rw [← Bool.not_eq_true, String.isEmpty_iff]
      exact solid
    simp only [ConnectionFile.complete, ConnectionFile.addressed, nonempty]
    rfl

theorem ServesAt.write {address : String} {connection : Connection} (serves : connection.ServesAt address)
    (solid : address ≠ "") (host : Host) : (connection.write host).2.1.ServesAt address := by
  cases done : (connection.write host).1 with
  | error error =>
    have same : (connection.write host).2.1 = connection := write_error (Prod.ext done rfl)
    rw [same]
    exact serves
  | ok path =>
    cases current : connection.currentFile? host with
    | some path =>
      rw [Connection.write, current]
      exact serves
    | none =>
      obtain ⟨id, isFor⟩ := serves.file
      have written := write_servesAt (serves.ip.symm ▸ solid) serves.transport isFor current done
      rwa [serves.ip] at written

theorem ServesAt.cleanupFile {address : String} {connection : Connection} (serves : connection.ServesAt address)
    (host : Host) : (connection.cleanupFile host).1.ServesAt address := by
  unfold Connection.cleanupFile
  split
  next => exact ⟨serves.transport, serves.configured, serves.file⟩
  next => exact serves

end Connection

namespace World

theorem newConnection_ip {connector : Connector} (ipc : connector.transport = .ipc) (id : String) (spec : KernelSpec)
    (host : Host) : (newConnection connector id spec host).1.ip = connector.settings.addressOf id := by
  unfold newConnection Settings.addressOf Settings.address?
  cases given : connector.ip with
  | none => simp [Connector.settings, given, Connection.ip, Connection.fresh, Connection.withSession, ipc]
  | some ip => simp [Connector.settings, given, Connection.ip, Connection.setIp, ipc]

theorem launch_servesAt {answerer : Answerer} {index : Nat} {connector : Connector} {id : String} {spec : KernelSpec}
    {world after : World} {kernel : Kernel}
    (launched : launch answerer index connector id spec world = (.ok kernel, after))
    (valid : isValidId id = true) (isLocal : kernel.provisioner.IsLocal) (ipc : connector.transport = .ipc) :
    kernel.connection.ServesAt (connector.settings.addressOf id) := by
  obtain ⟨host, provisioner, before, done⟩ := launch_eq_ok launched
  have address := newConnection_ip ipc id spec host
  obtain ⟨-, transport, -, unwritten, named⟩ := newConnection_cases connector id spec host
  generalize (newConnection connector id spec host).1 = connection at done address transport unwritten named
  have isFor : connection.IsFor id := ⟨_, named, getLast?_kernelPath connector.directory valid⟩
  cases provisioner with
  | plugin work kernelId name spec config launches info =>
    rw [Provisioner.preLaunch] at done
    simp only [Prod.mk.injEq] at done
    obtain ⟨-, same, -, -⟩ := done
    exact absurd (same ▸ isLocal) Provisioner.plugin_foreign
  | local_ key state =>
    rw [Provisioner.preLaunch_local] at done
    simp only [Prod.mk.injEq] at done
    obtain ⟨done, -, same, -⟩ := done
    rw [LocalProvisioner.Stage.preLaunch_ipc (transport.trans ipc)] at done same
    obtain ⟨written, -, result⟩ := LocalProvisioner.Stage.writeFile_eq ⟨state, connection, _, _⟩
    obtain ⟨path, wrote⟩ := result done
    rw [← same, written, ← address]
    exact Connection.write_servesAt (address.symm ▸ connector.settings.addressOf_ne_empty valid)
      (transport.trans ipc) isFor (Connection.currentFile?_unwritten unwritten _) wrote

end World
end Mooring
