import Mooring.Host.Isolated
import Mooring.Proofs.Connector.AddressLaw

/-! Which kernels of one connector share endpoints. Kernels without a configured address never do. With one,
they all have that address, and they share an endpoint as soon as they have an index in common. -/

namespace Mooring

namespace World

/-- A state that a process comes through, between its calls or in the middle of one. -/
def Reached (depth : Nat) (host : Host) (moves : List Move) (world : World) : Prop :=
  world = World.run (answer depth) { host := host } moves ∨
    ∃ moment ∈ trace depth { host := host } moves, moment.world = world

/-- A kernel that is ready over socket files, prepared by the built-in provisioner. -/
structure Listens (world : World) (index : Nat) (connector : Connector) (id : String) (handle : Nat) (kernel : Kernel) :
    Prop where
  known : world.connector? index = some connector
  ipc : connector.transport = .ipc
  ready : world.slot? index id = some (.ready handle)
  there : world.kernels.get? handle = some kernel
  isLocal : kernel.provisioner.IsLocal

theorem Listens.servesAt {depth : Nat} {host : Host} {moves : List Move} (empty : OpensEmpty moves) {world : World}
    (reached : world.Reached depth host moves) {index : Nat} {connector : Connector} {id : String} {handle : Nat}
    {kernel : Kernel} (listens : world.Listens index connector id handle kernel) :
    isValidId id = true ∧ kernel.connection.ServesAt (connector.settings.addressOf id) := by
  have start : ({ host := host } : World).AddressLaw (fun _ => none) :=
    ⟨fun _ => rfl, fun _ known => (by cases known), fun _ _ _ taken => (by cases taken)⟩
  obtain ⟨made, law⟩ : ∃ made, world.AddressLaw made := by
    obtain ⟨final, during⟩ := addressLaw_trace depth start empty
    rcases reached with rfl | ⟨moment, listed, rfl⟩
    · exact final
    · exact during moment listed
  obtain ⟨-, valid, held, there, serves⟩ := law.ready index id handle listens.ready
  rw [listens.there] at there
  cases there
  refine ⟨valid, serves listens.isLocal connector.settings ?_ listens.ipc⟩
  rw [← law.settings index, listens.known]
  rfl

theorem release_local {answerer : Answerer} {world : World} {index : Nat} {id : String} {handle : Nat} {kernel : Kernel}
    (ready : world.slot? index id = some (.ready handle)) (there : world.kernels.get? handle = some kernel)
    (isLocal : kernel.provisioner.IsLocal) :
    (release answerer index id world).2.host =
      (kernel.connection.cleanupFile world.host).1.cleanupSockets (kernel.connection.cleanupFile world.host).2 := by
  have found : world.findKernel index id = .ok handle := by
    rw [findKernel, (world.handle?_eq_some index id handle).mpr ready]
  have there' : (world.freeSlot index id).kernels.get? handle = some kernel := there
  obtain ⟨key, state, same⟩ := isLocal
  simp only [release, takeKernel, found, releaseKernel, there', same, Provisioner.cleanup_local]
  rfl

/-- Removing the files of a kernel spares a socket file of another path below the same front. -/
theorem cleaned_spares {connection : Connection} {front middle other : String}
    (serves : connection.ServesAt (front ++ middle))
    (whole : '/' ∉ middle.toList) (otherWhole : '/' ∉ other.toList) {host : Host} {index : UInt16}
    (apart : ∀ channel, connection.credentials.ipcPath channel ≠ Credentials.socketPath (front ++ other) index)
    {place : Host.Place} (leads : host.placeOf? (Credentials.socketPath (front ++ other) index) = some place)
    (there : host.hasFile place) :
    ((connection.cleanupFile host).1.cleanupSockets (connection.cleanupFile host).2).hasFile place := by
  have named := Host.getLast?_of_placeOf? leads
  have still : (connection.cleanupFile host).2.hasFile place := by
    refine (connection.cleanupFile_spares host).files place ?_ there
    rintro ⟨-, path, given, leadsFile⟩
    obtain ⟨id, path', given', last⟩ := serves.file
    cases given.symm.trans given'
    rw [Host.getLast?_of_placeOf? leadsFile, last] at named
    exact socketPath_ne_fileName _ _ id named.symm
  refine ((connection.cleanupFile host).1.cleanupSockets_spares _).files place ?_ still
  rintro ⟨-, channel, last⟩
  rw [named, (serves.cleanupFile host).ipcPath, Connection.cleanupFile_ports] at last
  refine apart channel ?_
  rw [serves.ipcPath]
  exact Credentials.socketPath_of_names_eq whole otherWhole last.symm

/-- What becomes of the socket file at a path when a kernel is released: it stays where it is, unless the
kernel has the path among its own. -/
def ReleaseRemovesOwn (before after : Host) (kernel : Kernel) (path : String) : Prop :=
  ((∃ channel, kernel.connection.credentials.ipcPath channel = path) → after.NoFileAt path) ∧
    ((∀ channel, kernel.connection.credentials.ipcPath channel ≠ path) →
      ∀ place, before.placeOf? path = some place → before.hasFile place → after.hasFile place)

/-- Two kernels that are ready over socket files share a url, or the path of a socket file, exactly when
their connector has a configured address and they have the index in common. The release of the one takes a
socket file of the other away exactly when they share its path. -/
theorem endpoints_shared_iff {depth : Nat} {host : Host} {moves : List Move} (empty : OpensEmpty moves) {world : World}
    (reached : world.Reached depth host moves) {index : Nat} {connector : Connector} {one two : String}
    (different : one ≠ two) {handle handle' : Nat} {first second : Kernel}
    (listens : world.Listens index connector one handle first)
    (listens' : world.Listens index connector two handle' second) (channel channel' : Channel) :
    (first.connection.url channel = second.connection.url channel' ↔
        connector.settings.address?.isSome ∧
        first.connection.ports.get channel = second.connection.ports.get channel') ∧
      (first.connection.credentials.ipcPath channel = second.connection.credentials.ipcPath channel' ↔
        connector.settings.address?.isSome ∧
        first.connection.ports.get channel = second.connection.ports.get channel') ∧
      ∀ answerer, ReleaseRemovesOwn world.host (release answerer index one world).2.host first
        (second.connection.credentials.ipcPath channel') := by
  obtain ⟨valid, serves⟩ := listens.servesAt empty reached
  obtain ⟨valid', serves'⟩ := listens'.servesAt empty reached
  have paths : first.connection.credentials.ipcPath channel = second.connection.credentials.ipcPath channel' ↔
      connector.settings.address?.isSome ∧
      first.connection.ports.get channel = second.connection.ports.get channel' := by
    rw [serves.ipcPath, serves'.ipcPath, Credentials.socketPath_eq_iff,
      connector.settings.addressOf_eq_iff valid valid' different]
  refine ⟨?_, paths, fun answerer => ?_⟩
  · rw [← paths, serves.url, serves'.url, serves.ipcPath, serves'.ipcPath]
    constructor
    · intro same
      have lists := congrArg String.toList same
      rw [String.toList_append, String.toList_append, List.append_cancel_left_eq] at lists
      exact String.toList_inj.mp lists
    · exact congrArg _
  · rw [release_local listens.ready listens.there listens.isLocal]
    refine ⟨?_, fun apart place leads there => ?_⟩
    · rintro ⟨own, same⟩
      have cleaned := serves.cleanupFile world.host
      have samePath : (first.connection.cleanupFile world.host).1.credentials.ipcPath own =
          second.connection.credentials.ipcPath channel' := by
        rw [cleaned.ipcPath, Connection.cleanupFile_ports, ← serves.ipcPath, same]
      rw [← samePath]
      exact Connection.cleanupSockets_noFileAt cleaned.transport _ own
    · obtain ⟨front, middle, addresses⟩ := connector.settings.addressOf_front
      obtain ⟨address, whole⟩ := addresses one valid
      obtain ⟨address', whole'⟩ := addresses two valid'
      rw [serves'.ipcPath, address'] at apart leads
      rw [address] at serves
      exact cleaned_spares serves whole whole' apart leads there

theorem ReadyLocal.listens {world : World} {index : Nat} {connector : Connector}
    (known : world.connector? index = some connector) (ipc : connector.transport = .ipc) {id : String} {handle : Nat}
    (ready : world.ReadyLocal index id handle) : ∃ kernel, world.Listens index connector id handle kernel := by
  obtain ⟨taken, kernel, there, isLocal⟩ := ready
  exact ⟨kernel, known, ipc, taken, there, isLocal⟩

def socketKernels (ip : Option String) : List Move :=
  [.open_
      { directory := "/run"
        transport := .ipc
        ip := ip
        claims := 0
        registry := Registry.withBuiltins (Host.Isolated.machine [["run"]] []) },
    .call 0 (.prepare (some "a") {}), .call 0 (.prepare (some "b") {})]

def runDirectory : Host := Host.Isolated.machine [["run"]] []

theorem endpoints_shared_iff_beside :
    let world := World.run (answer 0) { host := runDirectory } (socketKernels none)
    OpensEmpty (socketKernels none) ∧ ∃ connector first second, world.Listens 0 connector "a" 0 first ∧
      world.Listens 0 connector "b" 1 second ∧
        ∀ channel channel', first.connection.url channel ≠ second.connection.url channel' := by
  intro world
  have empty : OpensEmpty (socketKernels none) := by
    intro connector listed id
    simp only [socketKernels, List.mem_cons, List.not_mem_nil, or_false, reduceCtorEq, Move.open_.injEq] at listed
    rw [listed]
    rfl
  have run : (world.connector? 0).map (fun connector => (connector.transport, connector.settings.address?)) =
      some (.ipc, none) ∧ world.ReadyLocal 0 "a" 0 ∧ world.ReadyLocal 0 "b" 1 := by decide +kernel
  obtain ⟨settings, ready, ready'⟩ := run
  obtain ⟨connector, known, same⟩ := Option.map_eq_some_iff.mp settings
  obtain ⟨ipc, unset⟩ := Prod.mk.inj same
  obtain ⟨first, listens⟩ := ready.listens known ipc
  obtain ⟨second, listens'⟩ := ready'.listens known ipc
  refine ⟨empty, connector, first, second, listens, listens', fun channel channel' shared => ?_⟩
  have configured :=
    ((endpoints_shared_iff empty (.inl rfl) (by decide) listens listens' channel channel').1.mp shared).1
  rw [unset] at configured
  cases configured

/-- With one, no socket file stands when the second kernel is prepared, and it gets the indexes of the first.
Once its shell socket is there, the release of the first kernel removes it. -/
theorem release_removes_socket_of_other :
    let world := World.run (answer 0) { host := runDirectory } (socketKernels (some "/run/k"))
    let listening : World := { world with host := world.host.withNode ["run", "k-1"] (.file [] 0o644 0) }
    (∃ first ∈ world.kernels.get? 0, ∃ second ∈ world.kernels.get? 1,
        world.ReadyLocal 0 "a" 0 ∧ world.ReadyLocal 0 "b" 1 ∧
          first.connection.url .shell = second.connection.url .shell ∧
            first.connection.credentials.ipcPath .shell = "/run/k-1" ∧
              second.connection.credentials.ipcPath .shell = "/run/k-1") ∧
      listening.host.placeOf? "/run/k-1" = some ["run", "k-1"] ∧ listening.host.hasFile ["run", "k-1"] ∧
        (release (answer 0) 0 "a" listening).2.ReadyLocal 0 "b" 1 ∧
          ¬ (release (answer 0) 0 "a" listening).2.host.hasFile ["run", "k-1"] := by
  decide +kernel

end World
end Mooring
