import Mooring.Proofs.Connection.Additions
import Mooring.Proofs.Connector.FailedPrepare
import Mooring.Proofs.Provisioner.Settled

/-! What a connector without plugins does to its kernels, whatever state they are in: a launch adds one or nothing,
a restart settles nothing new, and a release gives back what the kernel still had. -/

namespace Mooring

open Host (Place Adds AddsNone NoLinkNamed)

/-- No symbolic link is called like a kernel file, nor like a socket file where there are any. -/
structure Host.LinksApart (transport : Transport) (host : Host) : Prop where
  files : ∀ id, host.NoLinkNamed (some (World.fileName id))
  sockets : transport = .ipc → ∀ ip index, host.NoLinkNamed (Path.names (Credentials.socketPath ip index)).getLast?

theorem Host.LinksApart.adds {transport : Transport} {new : Place → Prop} {before after : Host}
    (links : before.LinksApart transport) (adds : Adds new before after) : after.LinksApart transport where
  files id := adds.noLinkNamed (links.files id)
  sockets ipc ip index := adds.noLinkNamed (links.sockets ipc ip index)

namespace Connection
variable {connection : Connection} {id : String}

theorem IsFor.noLink (isFor : connection.IsFor id) {transport : Transport} {host : Host}
    (links : host.LinksApart transport)
    {path : String} (named : connection.file = some path) : host.NoLinkNamed (Path.names path).getLast? := by
  obtain ⟨path', named', last⟩ := isFor
  cases named.symm.trans named'
  rw [last]
  exact links.files id

def LeadsTo (connection : Connection) (host : Host) (place : Place) : Prop :=
  ∃ path, connection.file = some path ∧ host.placeOf? path = some place

theorem cleanupFile_written (connection : Connection) (host : Host) :
    (connection.cleanupFile host).1.written = false := by
  unfold cleanupFile
  split
  next => rfl
  next unwritten => simpa using unwritten

theorem IsFor.cleaned_addsNone (isFor : connection.IsFor id) {host : Host}
    (links : host.LinksApart connection.transport) :
    AddsNone host ((connection.cleanupFile host).1.cleanupSockets (connection.cleanupFile host).2) := by
  have file : AddsNone host (connection.cleanupFile host).2 :=
    cleanupFile_addsNone (fun path named => isFor.noLink links named)
  refine file.trans (cleanupSockets_addsNone (fun ipc channel => ?_))
  rw [cleanupFile_transport] at ipc
  exact (links.adds file).sockets ipc _ _

end Connection

def Kernel.cachedPorts (kernel : Kernel) : List UInt16 :=
  match kernel.provisioner with
  | .local_ _ state => state.cachedPorts
  | .plugin .. => []

/-- A kernel of the built-in provisioner that a launch claims no ports for. -/
structure Kernel.Settled (key : Nat) (transport : Transport) (kernel : Kernel) : Prop where
  ports : ∃ state, kernel.provisioner = .local_ key state ∧
    ∀ claims host, LocalProvisioner.Stage.Settled ⟨state, kernel.connection, claims, host⟩
  transport : kernel.connection.transport = transport
  isFor : ∃ id, kernel.connection.IsFor id

/-- A connector with a set of claims and a transport, and no provisioner but the built-in one. -/
structure Connector.Plain (key : Nat) (transport : Transport) (connector : Connector) : Prop where
  claims : connector.claims = key
  transport : connector.transport = transport
  builtin : connector.registry.BuiltinOnly

namespace World

variable {key : Nat} {transport : Transport} {answerer : Answerer}

def Knows (world : World) (index key : Nat) (transport : Transport) : Prop :=
  ∃ connector, world.connector? index = some connector ∧ connector.Plain key transport

theorem Knows.modifySlots {world : World} {index : Nat} (knows : world.Knows index key transport) (other : Nat)
    (change : Table String Slot → Table String Slot) : (world.modifySlots other change).Knows index key transport := by
  obtain ⟨connector, known, plain⟩ := knows
  unfold Knows
  rw [connector?_modifySlots]
  split
  next same =>
    rw [← same, known]
    exact ⟨_, rfl, plain.claims, plain.transport, plain.builtin⟩
  next => exact ⟨connector, known, plain⟩

theorem Knows.setRegistry {world : World} {index : Nat} (knows : world.Knows index key transport) {registry : Registry}
    (only : registry.BuiltinOnly) : (world.setRegistry index registry).Knows index key transport := by
  obtain ⟨connector, known, plain⟩ := knows
  refine ⟨{ connector with registry := registry }, ?_, plain.claims, plain.transport, only⟩
  rw [connector?_setRegistry, if_pos rfl, known]
  rfl

structure Idles (index key : Nat) (transport : Transport) (new : Place → Prop) (before after : World) : Prop where
  kernels : after.kernels = before.kernels
  nextKernel : after.nextKernel = before.nextKernel
  slots : ∀ id, after.slot? index id = before.slot? index id
  knows : before.Knows index key transport → after.Knows index key transport
  ports : after.host.ports <:+ before.host.ports
  files : Adds new before.host after.host

namespace Idles
variable {index : Nat} {new : Place → Prop} {first second third : World}

theorem after (one : Idles index key transport (fun _ => False) first second)
    (two : Idles index key transport new second third) : Idles index key transport new first third where
  kernels := two.kernels.trans one.kernels
  nextKernel := two.nextKernel.trans one.nextKernel
  slots id := (two.slots id).trans (one.slots id)
  knows := two.knows ∘ one.knows
  ports := two.ports.trans one.ports
  files := one.files.after two.files

theorem withHost (world : World) {host : Host} (fewer : host.ports <:+ world.host.ports)
    (files : Adds new world.host host) :
    Idles index key transport new world { world with host := host } :=
  ⟨rfl, rfl, fun _ => rfl, id, fewer, files⟩

theorem setRegistry (world : World) (index : Nat) {registry : Registry} (only : registry.BuiltinOnly) :
    Idles index key transport (fun _ => False) world (world.setRegistry index registry) :=
  ⟨rfl, rfl, world.slot?_setRegistry index registry index, fun knows => knows.setRegistry only,
    List.suffix_refl _, .refl _⟩

end Idles

structure Comes (index key : Nat) (transport : Transport) (id : String) (kernel : Kernel)
    (before after : World) : Prop where
  idles : Idles index key transport (kernel.connection.LeadsTo after.host) before after
  claims : (after.claimsOf key).ports = kernel.cachedPorts.reverse ++ (before.claimsOf key).ports
  settled : kernel.Settled key transport
  isFor : kernel.connection.IsFor id
  written : kernel.connection.written = true

/-- A launch ends with a new kernel, or leaves everything as it was. -/
def Launches (index key : Nat) (transport : Transport) (id : String) (before : World)
    (outcome : Except Error Kernel × World) :
    Prop :=
  match outcome.1 with
  | .ok kernel => Comes index key transport id kernel before outcome.2
  | .error _ => Idles index key transport (fun _ => False) before outcome.2 ∧
      outcome.2.claimsOf key = before.claimsOf key

theorem Launches.after {index : Nat} {id : String} {first second : World} {outcome : Except Error Kernel × World}
    (one : Idles index key transport (fun _ => False) first second) (claims : second.claimsOf key = first.claimsOf key)
    (two : Launches index key transport id second outcome) : Launches index key transport id first outcome := by
  obtain ⟨result, after⟩ := outcome
  cases result with
  | error error =>
    obtain ⟨idles, same⟩ := two
    exact ⟨one.after idles, same.trans claims⟩
  | ok kernel =>
    obtain ⟨idles, top, settled, isFor, written⟩ := two
    refine ⟨one.after idles, ?_, settled, isFor, written⟩
    rw [← claims]
    exact top

theorem launchWith_addsAt (answerer : Answerer) {world : World} {connection : Connection} {id path : String}
    (isFor : connection.IsFor id) (named : connection.file = some path)
    (links : world.host.LinksApart connection.transport)
    (key : Nat) (state : LocalProvisioner) :
    AddsAt path world.host ((launchWith answerer (.local_ key state) connection world).1,
      (launchWith answerer (.local_ key state) connection world).2.host) := by
  obtain ⟨path', named', solid⟩ := isFor.solid
  cases named.symm.trans named'
  obtain ⟨adds, -⟩ := @LocalProvisioner.Stage.preLaunch_adds
      ⟨state, connection, world.claimsOf key, world.host⟩ path named
    solid (isFor.noLink links named)
  have file := (LocalProvisioner.Stage.preLaunch_file ⟨state, connection, world.claimsOf key, world.host⟩ isFor).1
  have transports := LocalProvisioner.Stage.preLaunch_transport ⟨state, connection, world.claimsOf key, world.host⟩
  unfold launchWith
  rw [Provisioner.preLaunch_local]
  simp only at file transports ⊢
  generalize LocalProvisioner.Stage.preLaunch _ = outcome at adds file transports ⊢
  obtain ⟨error | _, after⟩ := outcome
  · have links' : after.host.LinksApart after.connection.transport := by
      rw [transports]
      exact links.adds adds
    exact Adds.trans adds ((isFor.congr file).cleaned_addsNone links')
  · exact adds

theorem launchWith_launches {index : Nat} {world : World} {id : String} {state : LocalProvisioner}
    {connection : Connection}
    (nonzero : world.host.AnswersNonzero) (links : world.host.LinksApart transport) (fresh : state.portsCached = false)
    (empty : state.cachedPorts = []) (unset : connection.ports = Ports.unset) (isFor : connection.IsFor id)
    (same : connection.transport = transport) :
    Launches index key transport id world (launchWith answerer (.local_ key state) connection world) := by
  generalize whole : LocalProvisioner.Stage.mk state connection (world.claimsOf key) world.host = stage
  obtain ⟨path, named, solid⟩ := isFor.solid
  have adds := launchWith_addsAt answerer isFor named (same ▸ links) key state
  have last : stage.ClaimsLast (world.claimsOf key) := by
    rw [← whole]
    simp [LocalProvisioner.Stage.ClaimsLast, empty]
  have isFor' : stage.connection.IsFor id := whole ▸ isFor
  have named' : stage.connection.file = some path := whole ▸ named
  have launched := last.preLaunch
  obtain ⟨file, spares⟩ := stage.preLaunch_file isFor'
  have writes := (LocalProvisioner.Stage.preLaunch_adds named' solid (whole ▸ isFor.noLink links named)).2
  have settles := @LocalProvisioner.Stage.preLaunch_settles stage (whole ▸ nonzero) (whole ▸ fresh)
      (whole ▸ empty) (whole ▸ unset)
  have transports := stage.preLaunch_transport
  have host : stage.host = world.host := by rw [← whole]
  have transport' : stage.connection.transport = transport := by rw [← whole]; exact same
  unfold launchWith at adds ⊢
  rw [Provisioner.preLaunch_local, whole] at adds ⊢
  simp only at adds ⊢
  rw [host] at spares
  generalize stage.preLaunch = outcome at launched file spares adds writes settles transports ⊢
  obtain ⟨result, after⟩ := outcome
  cases result with
  | ok =>
    simp only at launched file spares adds transports ⊢
    refine ⟨⟨rfl, rfl, fun _ => rfl, fun knows => knows, spares.ports, ?_⟩, ?_,
      ⟨⟨_, rfl, fun _ _ => settles rfl⟩, ?_, ?_⟩, ?_,
      writes rfl⟩
    · exact Adds.weaken adds (fun place leads => ⟨path, file.trans named', leads⟩)
    · exact (congrArg PortClaims.ports (world.claimsOf_setClaims_self key after.claims)).trans launched
    · exact transports.trans transport'
    · exact ⟨id, isFor'.congr file⟩
    · exact isFor'.congr file
  | error error =>
    simp only at launched file spares adds transports ⊢
    have fewer := ((after.connection.cleanupFile after.host).1.cleanupSockets_spares _).ports.trans
      (after.connection.cleanupFile_spares after.host).ports
    refine ⟨⟨rfl, rfl, fun _ => rfl, fun knows => knows, fewer.trans spares.ports, adds⟩, ?_⟩
    have claimed : (World.claimsOf { world.setClaims key after.claims with host := after.host } key) = after.claims :=
      world.claimsOf_setClaims_self key after.claims
    have released : ((World.abandon answerer (.local_ key after.provisioner) after.connection
        { world.setClaims key after.claims with host := after.host }).claimsOf key) =
          (World.claimsOf { world.setClaims key after.claims with host := after.host } key).releaseAll
            after.provisioner.cachedPorts := claimsOf_setClaims_self _ key _
    rw [released, claimed, PortClaims.releaseAll_of_onTop launched]

theorem launch_launches {index : Nat} {world : World} {connector : Connector} {id : String} {spec : KernelSpec}
    (plain : connector.Plain key transport) (valid : isValidId id = true) (nonzero : world.host.AnswersNonzero)
    (links : world.host.LinksApart transport) :
    Launches index key transport id world (launch answerer index connector id spec world) := by
  have made := world.host.createDirectories_addsNone connector.directory
  have fewer := (world.host.createDirectories_spares connector.directory).ports
  have drawn : Idles index key transport (fun _ => False) world
      { world with host := (world.host.createDirectories connector.directory).2.drawUuid.2 } :=
    .withHost world fewer (made.trans (Host.drawUuid_addsNone _))
  have before : Idles index key transport (fun _ => False) world (world.prepared index connector spec) :=
    drawn.after (.setRegistry _ index (plain.builtin.resolve _).1)
  rcases launch_offers answerer index id world (plain.builtin.offers spec) with
    ⟨error, stopped | stopped⟩ | ⟨connection, state, same, unset, _, named, _, fresh, empty, goesOn⟩
  · rw [stopped]
    exact ⟨.withHost world fewer made, rfl⟩
  · rw [stopped]
    exact ⟨before, rfl⟩
  · have isFor : connection.IsFor id := ⟨_, named, getLast?_kernelPath connector.directory valid⟩
    rw [goesOn, plain.claims]
    exact (launchWith_launches (nonzero.of_suffix before.ports) (links.adds before.files) fresh empty unset isFor
      (same.trans plain.transport)).after before rfl

theorem restartKernel_eq (answerer : Answerer) {world : World} {handle : Nat} {kernel : Kernel}
    {state : LocalProvisioner}
    (there : world.kernels.get? handle = some kernel) (made : kernel.provisioner = .local_ key state) :
    restartKernel answerer handle world =
      let outcome := LocalProvisioner.Stage.preLaunch ⟨state, kernel.connection, world.claimsOf key, world.host⟩
      let busy := (world.setKernel handle { kernel with busy := true }).setClaims key (world.claimsOf key)
      (outcome.1, World.setKernel { busy.setClaims key outcome.2.claims with host := outcome.2.host } handle
        ⟨outcome.2.connection, .local_ key outcome.2.provisioner, false⟩) := by
  unfold restartKernel
  rw [there]
  simp only
  rw [made, Provisioner.cleanup_local]
  simp only
  rw [Provisioner.preLaunch_local, claimsOf_setClaims_self]
  rfl

/-- Restarting keeps the ports of a kernel, claimed or not, and may write its file. -/
theorem restartKernel_settled (answerer : Answerer) {world : World} {handle : Nat} {kernel : Kernel}
    (there : world.kernels.get? handle = some kernel) (settled : kernel.Settled key transport)
    (links : world.host.LinksApart transport) :
    ∃ later : Kernel, WorksOn handle later world (restartKernel answerer handle world).2 ∧ later.Settled key transport ∧
      later.cachedPorts = kernel.cachedPorts ∧ later.connection.file = kernel.connection.file ∧
        (kernel.connection.written = true → later.connection.written = true) ∧
          (restartKernel answerer handle world).2.claimsOf key = world.claimsOf key ∧
            Adds (fun place => later.connection.written = true ∧
              later.connection.LeadsTo (restartKernel answerer handle world).2.host place) world.host
              (restartKernel answerer handle world).2.host := by
  obtain ⟨⟨state, made, set⟩, same, id, isFor⟩ := settled
  obtain ⟨path, named, solid⟩ := isFor.solid
  rw [restartKernel_eq answerer there made]
  generalize whole : LocalProvisioner.Stage.mk state kernel.connection (world.claimsOf key) world.host = stage
  have connection : stage.connection = kernel.connection := by rw [← whole]
  have host : stage.host = world.host := by rw [← whole]
  have set' : stage.Settled := whole ▸ set _ _
  obtain ⟨claims, ports, settled⟩ := set'.preLaunch
  obtain ⟨file, spares⟩ := stage.preLaunch_file (connection ▸ isFor)
  obtain ⟨adds, writes⟩ := LocalProvisioner.Stage.preLaunch_adds (connection ▸ named) solid
    (host ▸ isFor.noLink links named)
  have keeps := fun written => (stage.preLaunch_written written).1
  have transports := stage.preLaunch_transport
  rw [connection] at file keeps transports
  rw [host] at spares adds
  simp only
  generalize stage.preLaunch = outcome at claims ports settled file spares adds writes keeps transports ⊢
  obtain ⟨result, after⟩ := outcome
  simp only at claims ports settled file spares adds keeps transports ⊢
  refine ⟨⟨after.connection, .local_ key after.provisioner, false⟩,
    ⟨get?_set_set handle _ _, rfl, rfl, rfl, spares.ports⟩,
    ⟨⟨_, rfl, fun _ _ => settled⟩, transports.trans same, id, isFor.congr file⟩, ?_, file, keeps, ?_, ?_⟩
  · simp only [Kernel.cachedPorts, made, ports]
    rw [← whole]
  · refine (claimsOf_setClaims_self _ key _).trans (claims.trans ?_)
    rw [← whole]
  · cases result with
    | error error => exact Adds.weaken adds (fun place none => none.elim)
    | ok => exact Adds.weaken adds (fun place leads => ⟨writes rfl, path, file.trans named, leads⟩)

theorem releaseKernel_settled (answerer : Answerer) {world : World} {handle : Nat} {kernel : Kernel}
    (there : world.kernels.get? handle = some kernel) (settled : kernel.Settled key transport)
    (links : world.host.LinksApart transport) :
    ∃ later : Kernel, WorksOn handle later world (releaseKernel answerer handle world).2 ∧ later.Settled key transport ∧
      later.cachedPorts = [] ∧ later.connection.file = kernel.connection.file ∧ later.connection.written = false ∧
        (∀ port, port ∈ ((releaseKernel answerer handle world).2.claimsOf key).ports ↔
          port ∉ kernel.cachedPorts ∧ port ∈ (world.claimsOf key).ports) ∧
          AddsNone world.host (releaseKernel answerer handle world).2.host ∧
            (kernel.connection.written = true → ∀ place, kernel.connection.LeadsTo world.host place →
              ¬ (releaseKernel answerer handle world).2.host.hasFile place) := by
  obtain ⟨⟨state, made, set⟩, same, id, isFor⟩ := settled
  have fewer := ((kernel.connection.cleanupFile world.host).1.cleanupSockets_spares _).ports.trans
    (kernel.connection.cleanupFile_spares world.host).ports
  unfold releaseKernel
  rw [there]
  simp only
  rw [made, Provisioner.cleanup_local]
  refine ⟨⟨(kernel.connection.cleanupFile world.host).1,
    .local_ key { state with cachedPorts := [], portsCached := false }, false⟩,
    ⟨get?_set_set handle _ _, rfl, rfl, rfl, fewer⟩, ⟨⟨_, rfl, ?_⟩, ?_, id, ?_⟩, rfl, ?_, ?_, ?_, ?_, ?_⟩
  · intro claims host tcp caches
    rw [Connection.cleanupFile_transport] at tcp
    rw [Connection.cleanupFile_ports]
    exact set claims host tcp caches
  · exact (kernel.connection.cleanupFile_transport world.host).trans same
  · exact isFor.congr (kernel.connection.cleanupFile_file world.host)
  · exact kernel.connection.cleanupFile_file world.host
  · exact kernel.connection.cleanupFile_written world.host
  · intro port
    simp only [Kernel.cachedPorts, made]
    rw [← state.mem_cleanup (world.claimsOf key) port]
    exact Iff.of_eq (congrArg (fun claims : PortClaims => port ∈ claims.ports) (claimsOf_setClaims_self _ key _))
  · exact isFor.cleaned_addsNone (same ▸ links)
  · rintro written place ⟨path, named, leads⟩
    exact Connection.cleaned_not_hasFile written named leads

end World

end Mooring
