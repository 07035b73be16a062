import Mooring.Proofs.Connector.Slots
import Mooring.Proofs.Provisioner.Claiming

/-! Connectors that share their claims and have no provisioner but the built-in one. What launching with
it does to the claims is known as a whole, since no hook runs meanwhile. -/

namespace Mooring

/-- Every provisioner that a registry has or finds is the built-in one. -/
structure Registry.BuiltinOnly (registry : Registry) : Prop where
  entries : ∀ name entry, registry.entries.get? name = some entry → entry.maker = .builtin
  single : ∀ name entry, registry.discovery.single name = some entry → entry.maker = .builtin

theorem Registry.BuiltinOnly.resolve {registry : Registry} (only : registry.BuiltinOnly) (name : String) :
    (registry.resolve name).2.BuiltinOnly ∧
      ∀ entry, (registry.resolve name).1 = some entry → entry.maker = .builtin := by
  unfold Registry.resolve
  split
  next entry known => exact ⟨only, fun other same => Option.some.inj same ▸ only.entries name entry known⟩
  next absent =>
    split
    next => exact ⟨only, fun entry same => by cases same⟩
    next entry found =>
      have maker : entry.maker = .builtin := by
        unfold Registry.lookup at found
        split at found
        next standing single =>
          cases found
          exact only.single name _ single
        next =>
          split at found
          next =>
            cases found
            rfl
          next => cases found
      simp only [Registry.insertIfAbsent, absent]
      refine ⟨⟨fun other standing known => ?_, only.single⟩, fun other same => Option.some.inj same ▸ maker⟩
      by_cases same : other = name
      · rw [same, Table.get?_set_self] at known
        cases known
        exact maker
      · rw [Table.get?_set_of_ne _ _ same] at known
        exact only.entries other standing known

theorem Registry.withBuiltins_builtinOnly (host : Host) : (Registry.withBuiltins host).BuiltinOnly where
  entries name entry known := by
    simp only [withBuiltins, ofDiscovery, Discovery.builtin, Discovery.ofEntries, List.map_cons, List.map_nil,
      Table.ofList, List.foldl_cons, List.foldl_nil] at known
    by_cases same : name = ProvisionerEntry.local_.name
    · rw [same, Table.get?_set_self] at known
      cases known
      rfl
    · rw [Table.get?_set_of_ne _ _ same] at known
      cases known
  single name entry known := by
    have found : ProvisionerEntry.named? [.local_] name = some entry := known
    have listed : entry ∈ [ProvisionerEntry.local_] := List.mem_of_find?_eq_some found
    rw [List.mem_singleton.mp listed]
    rfl

structure Connector.Shares (key : Nat) (connector : Connector) : Prop where
  claims : connector.claims = key
  transport : connector.transport = .tcp
  caches : connector.cachePorts = true
  builtin : connector.registry.BuiltinOnly

def Kernel.Holds (key : Nat) (kernel : Kernel) : Prop :=
  ∃ state, kernel.provisioner = .local_ key state ∧ state.Holds kernel.connection.ports

namespace World

variable {key : Nat} {answerer : Answerer}

def AllShare (key : Nat) (world : World) : Prop :=
  ∀ index connector, world.connector? index = some connector → index < world.nextConnector ∧ connector.Shares key

theorem AllShare.modifySlots {world : World} (share : world.AllShare key) (index : Nat)
    (change : Table String Slot → Table String Slot) : (world.modifySlots index change).AllShare key := by
  intro other connector known
  rw [connector?_modifySlots] at known
  split at known
  next same =>
    obtain ⟨old, there, rfl⟩ := Option.map_eq_some_iff.mp known
    obtain ⟨below, shares⟩ := share index old there
    exact ⟨same ▸ below, shares.claims, shares.transport, shares.caches, shares.builtin⟩
  next => exact share other connector known

theorem AllShare.setRegistry {world : World} (share : world.AllShare key) (index : Nat) {registry : Registry}
    (only : registry.BuiltinOnly) : (world.setRegistry index registry).AllShare key := by
  intro other connector known
  rw [connector?_setRegistry] at known
  split at known
  next same =>
    obtain ⟨old, there, rfl⟩ := Option.map_eq_some_iff.mp known
    obtain ⟨below, shares⟩ := share index old there
    exact ⟨same ▸ below, shares.claims, shares.transport, shares.caches, only⟩
  next => exact share other connector known

structure Settles (key : Nat) (before after : World) : Prop where
  kernels : after.kernels = before.kernels
  nextKernel : after.nextKernel = before.nextKernel
  slots : ∀ index id, after.slot? index id = before.slot? index id
  known : ∀ index, (before.connector? index).isSome → (after.connector? index).isSome
  share : before.AllShare key → after.AllShare key
  ports : after.host.ports <:+ before.host.ports

namespace Settles
variable {first second third : World}

theorem trans (one : Settles key first second) (two : Settles key second third) : Settles key first third where
  kernels := two.kernels.trans one.kernels
  nextKernel := two.nextKernel.trans one.nextKernel
  slots index id := (two.slots index id).trans (one.slots index id)
  known index := two.known index ∘ one.known index
  share := two.share ∘ one.share
  ports := two.ports.trans one.ports

end Settles

theorem newConnection_cases (connector : Connector) (id : String) (spec : KernelSpec) (host : Host) :
    (newConnection connector id spec host).2 = host.drawUuid.2 ∧
      (newConnection connector id spec host).1.transport = connector.transport ∧
        (newConnection connector id spec host).1.ports = Ports.unset ∧
          (newConnection connector id spec host).1.written = false ∧
            (newConnection connector id spec host).1.file = some (Path.join connector.directory (fileName id)) := by
  unfold newConnection
  cases connector.ip <;> exact ⟨rfl, rfl, rfl, rfl, rfl⟩

end World

/-- A spec asks a registry for the built-in provisioner, or for one that there is not. -/
def Registry.OffersBuiltin (registry : Registry) (spec : KernelSpec) : Prop :=
  ∀ entry, (registry.resolve (registry.choice spec).name).1 = some entry → entry.maker = .builtin

theorem Registry.BuiltinOnly.offers {registry : Registry} (only : registry.BuiltinOnly) (spec : KernelSpec) :
    registry.OffersBuiltin spec :=
  (only.resolve (registry.choice spec).name).2

theorem Provisioner.ofRegistry_offers {registry : Registry} {spec : KernelSpec} (offers : registry.OffersBuiltin spec)
    (context : ProvisionerContext) (id : String) (world : World) :
    (∃ error, Provisioner.ofRegistry registry context id spec world =
        (.error error, (registry.resolve (registry.choice spec).name).2, world)) ∨
      ∃ state, Provisioner.ofRegistry registry context id spec world =
          (.ok (.local_ context.claims state), (registry.resolve (registry.choice spec).name).2, world) ∧
        state.cachePorts = context.cachePorts ∧ state.portsCached = false ∧ state.cachedPorts = [] := by
  unfold Registry.OffersBuiltin at offers
  unfold Provisioner.ofRegistry
  simp only
  generalize registry.resolve (registry.choice spec).name = answer at offers ⊢
  obtain ⟨found, later⟩ := answer
  cases found with
  | none => exact .inl ⟨_, rfl⟩
  | some entry =>
    simp only [Provisioner.make, offers entry rfl]
    exact .inr ⟨_, rfl, rfl, rfl, rfl⟩

theorem Provisioner.preLaunch_local (answerer : Answerer) (key : Nat) (state : LocalProvisioner)
    (connection : Connection) (world : World) :
    Provisioner.preLaunch answerer (.local_ key state) connection world =
      let outcome := LocalProvisioner.Stage.preLaunch ⟨state, connection, world.claimsOf key, world.host⟩
      (outcome.1, .local_ key outcome.2.provisioner, outcome.2.connection,
        { world.setClaims key outcome.2.claims with host := outcome.2.host }) := rfl

theorem Provisioner.cleanup_local (answerer : Answerer) (key : Nat) (state : LocalProvisioner)
    (connection : Connection) (restart : Bool) (world : World) :
    Provisioner.cleanup answerer (.local_ key state) connection restart world =
      (.ok (), .local_ key (state.cleanup (world.claimsOf key) restart).1, connection,
        world.setClaims key (state.cleanup (world.claimsOf key) restart).2) := rfl

namespace World

variable {key : Nat} {answerer : Answerer}

structure Claimed (key : Nat) (kernel : Kernel) (before after : PortClaims) : Prop where
  holds : kernel.Holds key
  distinct : ∀ one two, kernel.connection.ports.get one = kernel.connection.ports.get two → one = two
  new : ∀ channel, kernel.connection.ports.get channel ∉ before.ports
  claims : ∀ port, port ∈ after.ports ↔
    (∃ channel, kernel.connection.ports.get channel = port) ∨ port ∈ before.ports

/-- The part of a launch that comes after its provisioner is made. -/
def launchWith (answerer : Answerer) (provisioner : Provisioner) (connection : Connection) (world : World) :
    Except Error Kernel × World :=
  match provisioner.preLaunch answerer connection world with
  | (.error error, provisioner, connection, world) => (.error error, world.abandon answerer provisioner connection)
  | (.ok (), provisioner, connection, world) => (.ok { connection := connection, provisioner := provisioner }, world)

theorem launch_eq (answerer : Answerer) (index : Nat) (connector : Connector) (id : String) (spec : KernelSpec)
    (world : World) :
    launch answerer index connector id spec world =
      match world.host.createDirectories connector.directory with
      | (.error fault, host) => (.error (.io fault), { world with host := host })
      | (.ok (), host) =>
        let (connection, host) := newConnection connector id spec host
        match Provisioner.ofRegistry connector.registry ⟨connector.claims, connector.cachePorts⟩ id spec
            { world with host := host } with
        | (.error error, registry, world) => (.error error, world.setRegistry index registry)
        | (.ok provisioner, registry, world) =>
          launchWith answerer provisioner connection (world.setRegistry index registry) := rfl

theorem launch_eq_ok {answerer : Answerer} {index : Nat} {connector : Connector} {id : String} {spec : KernelSpec}
    {world after : World} {kernel : Kernel}
    (launched : launch answerer index connector id spec world = (.ok kernel, after)) :
    ∃ (host : Host) (provisioner : Provisioner) (before : World),
      provisioner.preLaunch answerer (newConnection connector id spec host).1 before =
        (.ok (), kernel.provisioner, kernel.connection, after) := by
  rw [launch_eq] at launched
  split at launched
  next => cases launched
  next host _ =>
    simp only at launched
    split at launched
    next => cases launched
    next provisioner registry later _ =>
      unfold launchWith at launched
      split at launched
      next => cases launched
      next same =>
        cases launched
        exact ⟨host, provisioner, _, same⟩

def prepared (index : Nat) (connector : Connector) (spec : KernelSpec) (world : World) : World :=
  World.setRegistry { world with host := (world.host.createDirectories connector.directory).2.drawUuid.2 } index
    (connector.registry.resolve (connector.registry.choice spec).name).2

/-- A launch is given up before a provisioner is made, or it goes on with a new built-in one. -/
theorem launch_offers (answerer : Answerer) (index : Nat) (id : String) (world : World) {connector : Connector}
    {spec : KernelSpec} (offers : connector.registry.OffersBuiltin spec) :
    (∃ error, launch answerer index connector id spec world =
        (.error error, { world with host := (world.host.createDirectories connector.directory).2 }) ∨
      launch answerer index connector id spec world = (.error error, world.prepared index connector spec)) ∨
    ∃ connection state, connection.transport = connector.transport ∧ connection.ports = Ports.unset ∧
      connection.written = false ∧ connection.file = some (Path.join connector.directory (fileName id)) ∧
        state.cachePorts = connector.cachePorts ∧ state.portsCached = false ∧ state.cachedPorts = [] ∧
          launch answerer index connector id spec world =
            launchWith answerer (.local_ connector.claims state) connection (world.prepared index connector spec) := by
  rw [launch_eq]
  unfold prepared
  rcases world.host.createDirectories connector.directory with ⟨fault | _, host⟩
  · exact .inl ⟨_, .inl rfl⟩
  · obtain ⟨drawn, transport, unset, unwritten, named⟩ := newConnection_cases connector id spec host
    simp only
    generalize newConnection connector id spec host = fresh at drawn transport unset unwritten named ⊢
    obtain ⟨connection, host'⟩ := fresh
    simp only at drawn transport unset unwritten named ⊢
    subst drawn
    rcases Provisioner.ofRegistry_offers offers ⟨connector.claims, connector.cachePorts⟩ id
        { world with host := host.drawUuid.2 } with ⟨error, answer⟩ | ⟨state, answer, caches, fresh, empty⟩
    · rw [answer]
      exact .inl ⟨error, .inr rfl⟩
    · rw [answer]
      exact .inr ⟨connection, state, transport, unset, unwritten, named, caches, fresh, empty, rfl⟩

end World
end Mooring
