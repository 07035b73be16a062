import Mooring.Proofs.Connector.Enrollment

/-! The paths of the files of kernels. A path tells which kernel the file belongs to and which of its files it is,
whatever ids there are and whatever bytes the directory is named by. The credentials are kept in the directory of the
connector, but socket files are kept there exactly if its name is text. -/

namespace Mooring

open Utf8 (ofString lossy)

/-- A path is that of an entry of a directory when it is the path of the directory with its own last name behind it. -/
def RawPath.IsChild (directory path : RawPath) : Prop :=
  ∃ name, Path.fileName? path.spelled = some name ∧ path.spelled = Path.join directory.spelled name

/-- What a kernel keeps in files: its credentials, and over socket files one file for each channel, by its index. -/
inductive OwnFile
  | credentials
  | socket (index : UInt16)
  deriving DecidableEq

namespace OwnFile

def name (id : String) : OwnFile → String
  | .credentials => World.fileName id
  | .socket index => Credentials.socketPath ("kernel-" ++ id ++ "-ipc") index

def KeptBeside (connector : Connector) : OwnFile → Prop
  | .credentials => True
  | .socket _ => connector.transport = .ipc ∧ connector.settings.address? = none

def path? (connection : Connection) : OwnFile → Option String
  | .credentials => connection.file
  | .socket index => some (Credentials.socketPath connection.ip index)

/-- The path of the file of a kernel in a directory that is named by bytes. -/
def pathIn (directory : RawPath) (id : String) : OwnFile → RawPath
  | .credentials => directory.join (ofString (World.fileName id))
  | .socket index =>
    ofString (Credentials.socketPath (Connection.ipBeside (directory.join (ofString (World.fileName id)))) index)

theorem name_clear {id : String} (valid : World.isValidId id = true) (file : OwnFile) :
    '/' ∉ (file.name id).toList := by
  have clear := World.clear_of_isValidId valid
  cases file with
  | credentials => exact World.fileName_whole valid
  | socket index =>
    have digits := Credentials.not_mem_index (c := '/') (by decide) index
    simp only [name, Credentials.socketPath, String.toList_append, List.mem_append, not_or]
    exact ⟨⟨⟨⟨by decide, clear⟩, by decide⟩, by decide⟩, digits⟩

theorem name_long (id : String) (file : OwnFile) : 2 < (file.name id).toList.length := by
  cases file with
  | credentials => simp [name, World.toList_fileName]
  | socket index => simp [name, Credentials.socketPath, String.toList_append]

theorem fileName_ne_socket {id : String} (valid : World.isValidId id = true) (other : String) (index : UInt16) :
    World.fileName id ≠ name other (.socket index) := by
  intro same
  have alone : Path.join "" (World.fileName id) = World.fileName id := by
    rw [Path.join, Path.isAbsolute_of_whole (World.fileName_whole valid)]
    simp
  have last := Path.getLast?_names_join "" (World.fileName_solid id) (World.fileName_whole valid)
  rw [alone] at last
  apply World.socketPath_ne_fileName ("kernel-" ++ other ++ "-ipc") index id
  exact (congrArg (fun path => (Path.names path).getLast?) same).symm.trans last

theorem name_injective {one two : String} (oneValid : World.isValidId one = true)
    (twoValid : World.isValidId two = true)
    {file other : OwnFile} (same : file.name one = other.name two) : one = two ∧ file = other := by
  cases file with
  | credentials =>
    cases other with
    | credentials => exact ⟨World.fileName_injective same, rfl⟩
    | socket index => exact absurd same (fileName_ne_socket oneValid two index)
  | socket index =>
    cases other with
    | credentials => exact absurd same.symm (fileName_ne_socket twoValid one index)
    | socket index' =>
      obtain ⟨stems, rfl⟩ := (Credentials.socketPath_eq_iff _ _ _ _).mp same
      refine ⟨?_, rfl⟩
      have lists := congrArg String.toList stems
      simp only [String.toList_append, List.append_assoc, List.append_cancel_left_eq] at lists
      exact String.toList_inj.mp (List.append_cancel_right lists)

def frontOf (front : RawPath) : OwnFile → RawPath
  | .credentials => front
  | .socket _ => Utf8.encode (lossy front)

theorem frontOf_endsPiece {front : RawPath} (ends : front.EndsPiece) (file : OwnFile) :
    RawPath.EndsPiece (file.frontOf front) := by
  cases file with
  | credentials => exact ends
  | socket index =>
    rcases ends with rfl | ⟨before, rfl⟩
    · exact .inl rfl
    · refine .inr ⟨Utf8.encode (lossy before), ?_⟩
      rw [frontOf, Utf8.lossy_slash, Utf8.encode, List.flatMap_append, ← Utf8.encode]
      rfl

theorem frontOf_eq_iff (front : RawPath) (file : OwnFile) :
    file.frontOf front = front ↔ file = .credentials ∨ front.IsText := by
  cases file with
  | credentials => simp [frontOf]
  | socket index => simp [frontOf, RawPath.isText_iff]

/-- A path is a name behind a front that does not depend on the kernel. -/
theorem pathIn_front (directory : RawPath) : ∃ front : RawPath, front.EndsPiece ∧ (front.IsText ↔ directory.IsText) ∧
    (∀ name : RawPath, '/' ∉ name.spelled.toList →
      Path.join directory.spelled name.spelled = RawPath.spelled (front ++ name)) ∧
    ∀ {id : String}, World.isValidId id = true → ∀ file : OwnFile,
      file.pathIn directory id = file.frontOf front ++ ofString (file.name id) := by
  obtain ⟨front, ends, text, joined⟩ := directory.join_front
  refine ⟨front, ends, text, joined, fun {id} valid file => ?_⟩
  have clear := World.clear_of_isValidId valid
  have beside : directory.join (ofString (World.fileName id)) = front ++ ofString (World.fileName id) := by
    rw [RawPath.join, joined _ (RawPath.spelled_whole (World.fileName_whole valid)), RawPath.ofSpelled_spelled]
  cases file with
  | credentials => exact beside
  | socket index =>
    have address := Connection.ipBeside_front ends ("kernel-" ++ id) (by simp [String.toList_append])
      (by simp [String.toList_append, clear])
    rw [pathIn, beside, World.fileName, address, Credentials.socketPath, String.append_assoc, String.append_assoc,
      RawPath.ofString_append]
    simp only [frontOf, name, Credentials.socketPath, ofString, String.toList_ofList, String.append_assoc]

theorem spelled_name {id : String} (valid : World.isValidId id = true) {front : RawPath} (ends : front.EndsPiece)
    (file : OwnFile) : Path.fileName? (RawPath.spelled (front ++ ofString (file.name id))) =
      some (RawPath.spelled (ofString (file.name id))) := by
  have long : 2 < (RawPath.spelled (ofString (file.name id))).toList.length := by
    rw [RawPath.toList_spelled, List.length_map]
    exact Nat.lt_of_lt_of_le (file.name_long id) (RawPath.length_le_ofString _)
  obtain ⟨busy, down⟩ := Path.not_idle_up long
  rw [RawPath.spelled_append]
  exact ends.spelled.fileName? (RawPath.spelled_whole (file.name_clear valid)) busy down

theorem pathIn_injective (directory : RawPath) {one two : String} (oneValid : World.isValidId one = true)
    (twoValid : World.isValidId two = true) {file other : OwnFile}
    (same : file.pathIn directory one = other.pathIn directory two) : one = two ∧ file = other := by
  obtain ⟨front, ends, -, -, paths⟩ := pathIn_front directory
  rw [paths oneValid, paths twoValid] at same
  have names := congrArg (fun path => Path.fileName? (RawPath.spelled path)) same
  rw [spelled_name oneValid (frontOf_endsPiece ends file), spelled_name twoValid (frontOf_endsPiece ends other),
    Option.some.injEq] at names
  exact name_injective oneValid twoValid (RawPath.ofString_injective (RawPath.spelled_injective names))

/-- Socket files are kept in a directory exactly if its name is text. -/
theorem isChild_pathIn (directory : RawPath) {id : String} (valid : World.isValidId id = true) (file : OwnFile) :
    directory.IsChild (file.pathIn directory id) ↔ file = .credentials ∨ directory.IsText := by
  obtain ⟨front, ends, text, joined, paths⟩ := pathIn_front directory
  have named := spelled_name valid (frontOf_endsPiece ends file) file
  have whole := RawPath.spelled_whole (file.name_clear valid)
  rw [← text, ← frontOf_eq_iff front file, RawPath.IsChild, paths valid]
  constructor
  · rintro ⟨name, last, inside⟩
    cases named.symm.trans last
    rw [joined _ whole] at inside
    exact List.append_cancel_right (RawPath.spelled_injective inside)
  · intro same
    refine ⟨_, named, ?_⟩
    rw [joined _ whole, same]

theorem pathIn_ofString (directory : String) {id : String} (valid : World.isValidId id = true) (file : OwnFile) :
    file.pathIn (ofString directory) id = ofString (Path.join directory (file.name id)) := by
  obtain ⟨front, -, text, joined, paths⟩ := pathIn_front (ofString directory)
  have same : file.frontOf front = front := (frontOf_eq_iff front file).mpr (.inr (text.mpr ⟨directory, rfl⟩))
  have clear := file.name_clear valid
  rw [paths valid, same, ← RawPath.join_ofString directory clear, RawPath.join, joined _ (RawPath.spelled_whole clear),
    RawPath.ofSpelled_spelled]

def AllIn (connector : Connector) (id : String) (connection : Connection) : Prop :=
  ∀ file : OwnFile, file.KeptBeside connector →
    file.path? connection = some (Path.join connector.directory (file.name id))

theorem allIn_of_ip {connector : Connector} {id : String} (valid : World.isValidId id = true) {connection : Connection}
    (named : connection.file = some (Path.join connector.directory (World.fileName id)))
    (address : connector.transport = .ipc → connection.ip = connector.settings.addressOf id) :
    AllIn connector id connection := by
  intro file kept
  cases file with
  | credentials => exact named
  | socket index =>
    obtain ⟨ipc, unset⟩ := kept
    have clear := World.clear_of_isValidId valid
    obtain ⟨front, -, joined⟩ := Path.join_front connector.directory
    have beside : connector.settings.addressOf id = Path.join connector.directory ("kernel-" ++ id ++ "-ipc") := by
      rw [Settings.addressOf, unset, Option.getD_none]
      exact Settings.defaultIp_kernelPath connector.directory valid
    rw [path?, address ipc, beside, joined _ (by simp [String.toList_append, clear]),
      joined _ (name_clear valid (.socket index))]
    simp only [name, Credentials.socketPath, String.append_assoc]

end OwnFile

theorem Connection.write_ip {connection : Connection} (solid : connection.ip ≠ "") (host : Host) :
    (connection.write host).2.1.ip = connection.ip := by
  rcases connection.write_cases host with ⟨_, _, same⟩ | ⟨_, ⟨_, _, _, same⟩ | ⟨chosen, written, after, wrote, same⟩⟩
  · rw [same]
  · rw [same]
  · obtain ⟨_, _, _, _, _, _, _, rfl, _⟩ := ConnectionFile.write_eq_ok wrote
    have nonempty : connection.credentials.ip.isEmpty = false := by
      rw [← Bool.not_eq_true, String.isEmpty_iff]
      exact solid
    rw [same]
    simp only [Connection.afterWrite, ConnectionFile.complete, ConnectionFile.addressed, nonempty]
    rfl

theorem Bench.run_ip (answerer : Answerer) (hook : Hook) (bench : Bench) (solid : bench.connection.ip ≠ "") :
    (run answerer hook bench).2.connection.ip = bench.connection.ip := by
  induction hook generalizing bench with
  | finish result => rfl
  | act action next ih =>
    have step : (bench.perform answerer action).2.connection.ip = bench.connection.ip := by
      cases action with
      | writeFile => exact Connection.write_ip solid bench.world.host
      | keepSnapshot live => rfl
      | call choice call =>
        unfold perform
        simp only
        split <;> rfl
      | tell event => rfl
    exact (ih _ (bench.perform answerer action).2 (step ▸ solid)).trans step

theorem Provisioner.preLaunch_ip (answerer : Answerer) (provisioner : Provisioner)
    {connection : Connection} (world : World)
    (ipc : connection.transport = .ipc) (solid : connection.ip ≠ "") :
    (provisioner.preLaunch answerer connection world).2.2.1.ip = connection.ip := by
  cases provisioner with
  | local_ key state =>
    rw [preLaunch_local, LocalProvisioner.Stage.preLaunch_ipc ipc]
    simp only
    rw [(LocalProvisioner.Stage.writeFile_eq _).1]
    exact Connection.write_ip solid _
  | plugin work id name spec config launches info =>
    exact Bench.run_ip answerer (work.preLaunch id launches) ⟨connection, info, world.tell (.launching id)⟩ solid

/-- The connections that preparing a kernel comes to: the one that a launch starts with, and the one that it ends
with. -/
inductive Connector.Makes (connector : Connector) (id : String) : Connection → Prop
  | new (spec : KernelSpec) (host : Host) : Makes connector id (World.newConnection connector id spec host).1
  | launched {answerer : Answerer} {index : Nat} {spec : KernelSpec} {world after : World} {kernel : Kernel}
      (launched : World.launch answerer index connector id spec world = (.ok kernel, after)) :
      Makes connector id kernel.connection

theorem Connector.Makes.allIn {connector : Connector} {id : String} (valid : World.isValidId id = true)
    {connection : Connection}
    (makes : connector.Makes id connection) : OwnFile.AllIn connector id connection := by
  cases makes with
  | new spec host =>
    obtain ⟨-, -, -, -, named⟩ := World.newConnection_cases connector id spec host
    exact OwnFile.allIn_of_ip valid named (fun ipc => World.newConnection_ip ipc id spec host)
  | @launched answerer index spec world after kernel launched =>
    obtain ⟨host, provisioner, before, done⟩ := World.launch_eq_ok launched
    obtain ⟨-, transport, -, -, named⟩ := World.newConnection_cases connector id spec host
    have isFor : (World.newConnection connector id spec host).1.IsFor id :=
      ⟨_, named, World.getLast?_kernelPath connector.directory valid⟩
    have kept := provisioner.preLaunch_preserves answerer before
        (World.newConnection_sound connector id spec host) isFor
    rw [done] at kept
    refine OwnFile.allIn_of_ip valid (kept.file.trans named) (fun ipc => ?_)
    have address := World.newConnection_ip ipc id spec host
    have solid : (World.newConnection connector id spec host).1.ip ≠ "" :=
      address ▸ connector.settings.addressOf_ne_empty valid
    have stays := provisioner.preLaunch_ip answerer before (transport.trans ipc) solid
    rw [done] at stays
    exact stays.trans address

namespace World

theorem isValidId_of_reserve {id : String} (accepted : ∃ world index, (reserve world index id).1 = .ok ()) :
    isValidId id = true := by
  obtain ⟨world, index, done⟩ := accepted
  rcases reserve_cases world index id with ⟨error, refused⟩ | ⟨valid, -, -⟩
  · rw [refused] at done
    cases done
  · exact valid

/-- The files of the kernels of one directory have one path only if they are the same file of the same kernel. The
file of the credentials is an entry of the directory, and a socket file is one exactly if the name of the directory is
text. These are the paths of every connection that is made in a directory with such a name. -/
theorem kernelPaths_apart {one two : String} (oneAccepted : ∃ world index, (reserve world index one).1 = .ok ())
    (twoAccepted : ∃ world index, (reserve world index two).1 = .ok ()) (directory : RawPath) (file other : OwnFile) :
    (file.pathIn directory one = other.pathIn directory two ↔ one = two ∧ file = other) ∧
    (directory.IsChild (file.pathIn directory one) ↔ file = .credentials ∨ directory.IsText) ∧
    ∀ (connector : Connector) (connection : Connection), ofString connector.directory = directory →
      connector.Makes one connection → file.KeptBeside connector →
        (file.path? connection).map ofString = some (file.pathIn directory one) := by
  have oneValid := isValidId_of_reserve oneAccepted
  have twoValid := isValidId_of_reserve twoAccepted
  refine ⟨⟨OwnFile.pathIn_injective directory oneValid twoValid, ?_⟩,
    OwnFile.isChild_pathIn directory oneValid file, ?_⟩
  · rintro ⟨rfl, rfl⟩
    rfl
  · rintro connector connection rfl makes kept
    rw [makes.allIn oneValid file kept, Option.map_some, OwnFile.pathIn_ofString connector.directory oneValid]

theorem kernelPaths_apart_suffixed :
    let connector : Connector :=
      { directory := "/run", transport := .ipc, claims := 0, registry := Registry.withBuiltins runDirectory }
    let first := (newConnection connector "a" {} runDirectory).1
    (∃ world index, (reserve world index "a").1 = .ok ()) ∧
    (∃ world index, (reserve world index "a-ipc-1").1 = .ok ()) ∧
      OwnFile.path? first (.socket 1) = some "/run/kernel-a-ipc-1" ∧
      OwnFile.pathIn (ofString "/run") "a" (.socket 1) = ofString "/run/kernel-a-ipc-1" ∧
      OwnFile.pathIn (ofString "/run") "a-ipc-1" .credentials = ofString "/run/kernel-a-ipc-1.json" ∧
      OwnFile.pathIn (ofString "/run") "a" (.socket 1) ≠ OwnFile.pathIn (ofString "/run") "a-ipc-1" .credentials ∧
      RawPath.IsChild (ofString "/run") (OwnFile.pathIn (ofString "/run") "a" (.socket 1)) := by
  intro connector first
  have accepted : ∃ world index, (reserve world index "a").1 = .ok () :=
    ⟨{ host := runDirectory }, 0, by decide +kernel⟩
  have accepted' : ∃ world index, (reserve world index "a-ipc-1").1 = .ok () :=
    ⟨{ host := runDirectory }, 0, by decide +kernel⟩
  have socket : OwnFile.path? first (.socket 1) = some "/run/kernel-a-ipc-1" := by decide +kernel
  obtain ⟨apart, inside, made⟩ := kernelPaths_apart accepted accepted' (ofString "/run") (.socket 1) .credentials
  have there := made connector first rfl (.new {} runDirectory) ⟨rfl, rfl⟩
  rw [socket, Option.map_some, Option.some.injEq] at there
  exact ⟨accepted, accepted', socket, there.symm, by decide +kernel,
    fun same => absurd (apart.mp same).1 (by decide), inside.mpr (.inr ⟨"/run", rfl⟩)⟩

/-- The byte that ends the name of this directory is no text, so its socket files lie in another directory, and so do
those of a directory that ends in another such byte. -/
theorem kernelPaths_elsewhere :
    let directory : RawPath := ofString "/run/" ++ [0xFF]
    (∃ world index, (reserve world index "a").1 = .ok ()) ∧
      OwnFile.pathIn directory "a" (.socket 1) =
        ofString ("/run/" ++ String.singleton Utf8.replacement ++ "/kernel-a-ipc-1") ∧
      ¬ directory.IsChild (OwnFile.pathIn directory "a" (.socket 1)) ∧
      OwnFile.pathIn directory "a" (.socket 1) = OwnFile.pathIn (ofString "/run/" ++ [0xFE]) "a" (.socket 1) := by
  intro directory
  have path : OwnFile.pathIn directory "a" (.socket 1) =
      ofString ("/run/" ++ String.singleton Utf8.replacement ++ "/kernel-a-ipc-1") := by decide +kernel
  refine ⟨⟨{ host := runDirectory }, 0, by decide +kernel⟩, path, ?_, by decide +kernel⟩
  rintro ⟨name, named, inside⟩
  have last : Path.fileName? (OwnFile.pathIn directory "a" (.socket 1)).spelled = some "kernel-a-ipc-1" := by
    decide +kernel
  cases last.symm.trans named
  revert inside
  decide +kernel

end World
end Mooring
