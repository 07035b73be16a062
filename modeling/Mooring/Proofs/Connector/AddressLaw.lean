import Mooring.Proofs.Connector.Endpoints
import Mooring.Proofs.Connector.Passages

/-! The addresses of ready kernels over whole runs, at every moment of all calls, whatever hooks do in between
and whatever happens to the machine. -/

namespace Mooring

namespace Provisioner
variable {answerer : Answerer}

theorem cleanup_keeps {provisioner : Provisioner} {connection : Connection} {restart : Bool} {world : World}
    (isLocal : (provisioner.cleanup answerer connection restart world).2.1.IsLocal) :
    provisioner.IsLocal ∧ (provisioner.cleanup answerer connection restart world).2.2.1 = connection ∧
      (provisioner.cleanup answerer connection restart world).2.2.2.kernels = world.kernels := by
  cases provisioner with
  | local_ key state => exact ⟨⟨key, state, rfl⟩, rfl, rfl⟩
  | plugin work id name spec config launches info => exact absurd isLocal plugin_foreign

theorem preLaunch_keeps {provisioner : Provisioner} {connection : Connection} {world : World}
    (isLocal : (provisioner.preLaunch answerer connection world).2.1.IsLocal) :
    provisioner.IsLocal ∧ (provisioner.preLaunch answerer connection world).2.2.2.kernels = world.kernels ∧
      ∀ address, address ≠ "" → connection.ServesAt address →
        (provisioner.preLaunch answerer connection world).2.2.1.ServesAt address := by
  cases provisioner with
  | local_ key state =>
    refine ⟨⟨key, state, rfl⟩, rfl, fun address solid serves => ?_⟩
    rw [preLaunch_local, LocalProvisioner.Stage.preLaunch_ipc serves.transport]
    simp only
    rw [(LocalProvisioner.Stage.writeFile_eq _).1]
    exact serves.write solid _
  | plugin work id name spec config launches info => exact absurd isLocal plugin_foreign

end Provisioner

namespace Kernel
variable {answerer : Answerer} {kernel : Kernel} {world : World}

theorem restarted_keeps (isLocal : (kernel.restarted answerer world).2.1.provisioner.IsLocal) :
    kernel.provisioner.IsLocal ∧ (kernel.restarted answerer world).2.2.kernels = world.kernels ∧
      ∀ address, address ≠ "" → kernel.connection.ServesAt address →
        (kernel.restarted answerer world).2.1.connection.ServesAt address := by
  have kept := @Provisioner.cleanup_keeps answerer kernel.provisioner kernel.connection true world
  unfold restarted at isLocal ⊢
  generalize kernel.provisioner.cleanup answerer kernel.connection true world = outcome at kept isLocal ⊢
  obtain ⟨result, provisioner, connection, later⟩ := outcome
  cases result with
  | error error =>
    obtain ⟨wasLocal, rfl, kernels⟩ := kept isLocal
    exact ⟨wasLocal, kernels, fun _ _ serves => serves⟩
  | ok =>
    obtain ⟨stillLocal, kernels', serves⟩ := Provisioner.preLaunch_keeps isLocal
    obtain ⟨wasLocal, rfl, kernels⟩ := kept stillLocal
    exact ⟨wasLocal, kernels'.trans kernels, serves⟩

theorem released_keeps (isLocal : (kernel.released answerer world).2.1.provisioner.IsLocal) :
    kernel.provisioner.IsLocal ∧ (kernel.released answerer world).2.2.kernels = world.kernels ∧
      ∀ address, kernel.connection.ServesAt address →
      (kernel.released answerer world).2.1.connection.ServesAt address := by
  have kept := @Provisioner.cleanup_keeps answerer kernel.provisioner kernel.connection false world
  unfold released at isLocal ⊢
  generalize kernel.provisioner.cleanup answerer kernel.connection false world = outcome at kept isLocal ⊢
  obtain ⟨result, provisioner, connection, later⟩ := outcome
  obtain ⟨wasLocal, rfl, kernels⟩ := kept isLocal
  exact ⟨wasLocal, kernels, fun _ serves => serves.cleanupFile _⟩

end Kernel

namespace World

/-- Connectors stay as they were made, and their ready kernels listen at their addresses. -/
structure AddressLaw (made : Nat → Option Settings) (world : World) : Prop where
  settings : ∀ index, (world.connector? index).map Connector.settings = made index
  below : ∀ index, (made index).isSome → index < world.nextConnector
  ready : ∀ index id handle, world.slot? index id = some (.ready handle) →
    handle < world.nextKernel ∧ isValidId id = true ∧ ∃ kernel, world.kernels.get? handle = some kernel ∧
      (kernel.provisioner.IsLocal → ∀ settings, made index = some settings → settings.transport = .ipc →
        kernel.connection.ServesAt (settings.addressOf id))

theorem settings_modifySlots (world : World) (index other : Nat) (change : Table String Slot → Table String Slot) :
    ((world.modifySlots index change).connector? other).map Connector.settings =
      (world.connector? other).map Connector.settings := by
  rw [connector?_modifySlots]
  split
  next same =>
    rw [same, Option.map_map]
    rfl
  next => rfl

namespace AddressLaw
variable {made : Nat → Option Settings} {world : World}

theorem withHost (law : world.AddressLaw made) (host : Host) : AddressLaw made { world with host := host } :=
  ⟨law.settings, law.below, law.ready⟩

theorem tell (law : world.AddressLaw made) (event : Event) : (world.tell event).AddressLaw made :=
  ⟨law.settings, law.below, law.ready⟩

theorem setClaims (law : world.AddressLaw made) (key : Nat) (claims : PortClaims) :
    (world.setClaims key claims).AddressLaw made := ⟨law.settings, law.below, law.ready⟩

theorem setRegistry (law : world.AddressLaw made) (index : Nat) (registry : Registry) :
    (world.setRegistry index registry).AddressLaw made := by
  refine ⟨fun other => ?_, law.below, fun other id handle taken => ?_⟩
  · rw [connector?_setRegistry, ← law.settings other]
    split
    next same =>
      rw [same, Option.map_map]
      rfl
    next => rfl
  · rw [slot?_setRegistry] at taken
    exact law.ready other id handle taken

theorem freeSlot (law : world.AddressLaw made) (index : Nat) (id : String) :
    (world.freeSlot index id).AddressLaw made where
  settings other := (settings_modifySlots world index other _).trans (law.settings other)
  below := law.below
  ready other name handle taken := law.ready other name handle (slot?_of_freeSlot taken).2

theorem reserve (law : world.AddressLaw made) {index : Nat} (known : (world.connector? index).isSome) (id : String) :
    (world.setSlot index id .preparing).AddressLaw made where
  settings other := (settings_modifySlots world index other _).trans (law.settings other)
  below := law.below
  ready other name handle taken := by
    rw [slot?_setSlot world known] at taken
    split at taken
    next => cases taken
    next => exact law.ready other name handle taken

theorem enroll (law : world.AddressLaw made) {index : Nat} (known : (world.connector? index).isSome) {id : String}
    (valid : isValidId id = true) {kernel : Kernel}
    (serves : kernel.provisioner.IsLocal → ∀ settings, made index = some settings → settings.transport = .ipc →
      kernel.connection.ServesAt (settings.addressOf id)) : (world.enroll index id kernel).AddressLaw made where
  settings other := (settings_modifySlots (world.addKernel kernel).2 index other _).trans (law.settings other)
  below := law.below
  ready other name handle taken := by
    rw [slot?_enroll world known] at taken
    split at taken
    next here =>
      cases taken
      exact ⟨Nat.lt_succ_self _, here.2 ▸ valid, kernel, Table.get?_set_self _ _ _, here.1 ▸ here.2 ▸ serves⟩
    next =>
      obtain ⟨old, validName, held, there, served⟩ := law.ready other name handle taken
      have same : (world.enroll index id kernel).kernels.get? handle = world.kernels.get? handle :=
        Table.get?_set_of_ne _ _ (Nat.ne_of_lt old)
      exact ⟨Nat.lt_succ_of_lt old, validName, held, same.trans there, served⟩

theorem setKernel (law : world.AddressLaw made) {handle : Nat} {kernel : Kernel}
    (keeps : kernel.provisioner.IsLocal → ∃ old, world.kernels.get? handle = some old ∧ old.provisioner.IsLocal ∧
      ∀ address, address ≠ "" → old.connection.ServesAt address → kernel.connection.ServesAt address) :
    (world.setKernel handle kernel).AddressLaw made where
  settings := law.settings
  below := law.below
  ready index id other taken := by
    obtain ⟨below, valid, held, there, served⟩ := law.ready index id other taken
    refine ⟨below, valid, ?_⟩
    rw [get?_setKernel]
    split
    next same =>
      refine ⟨kernel, rfl, fun isLocal settings of ipc => ?_⟩
      obtain ⟨old, there', wasLocal, serves⟩ := keeps isLocal
      rw [same, there'] at there
      cases there
      exact serves _ (settings.addressOf_ne_empty valid) (served wasLocal settings of ipc)
    next => exact ⟨held, there, served⟩

end AddressLaw

def OpensEmpty (moves : List Move) : Prop :=
  ∀ connector, .open_ connector ∈ moves → ∀ id, connector.slots.get? id = none

theorem AddressLaw.open_ {made : Nat → Option Settings} {world : World} (law : world.AddressLaw made)
    {connector : Connector} (empty : ∀ id, connector.slots.get? id = none) :
    (world.addConnector connector).2.AddressLaw
      (fun index => if index = world.nextConnector then some connector.settings else made index) := by
  have vacant : world.connector? world.nextConnector = none := by
    cases there : world.connector? world.nextConnector with
    | none => rfl
    | some old =>
      have known : (made world.nextConnector).isSome := by
        rw [← law.settings, there]
        rfl
      exact absurd (law.below _ known) (Nat.lt_irrefl _)
  refine ⟨fun index => ?_, fun index known => ?_, fun index id handle taken => ?_⟩
  · rw [connector?_addConnector]
    split
    next => rfl
    next => exact law.settings index
  · have next_ : (world.addConnector connector).2.nextConnector = world.nextConnector + 1 := rfl
    rw [next_]
    split at known
    next same => exact same ▸ Nat.lt_succ_self _
    next => exact Nat.lt_succ_of_lt (law.below index known)
  · rw [slot?_addConnector vacant empty] at taken
    have old : index ≠ world.nextConnector := by
      rintro rfl
      rw [slot?, vacant] at taken
      cases taken
    simp only [if_neg old]
    exact law.ready index id handle taken

def addresses : Regime where
  law world := ∃ made, world.AddressLaw made
  lasts before after := ∀ index settings, (before.connector? index).map Connector.settings = some settings →
    (after.connector? index).map Connector.settings = some settings
  good _ := True

theorem AddressLaw.next {made : Nat → Option Settings} {world after : World} (law : world.AddressLaw made)
    (later : after.AddressLaw made) : addresses.Next world after where
  law := ⟨made, later⟩
  lasts index _ known := (later.settings index).trans ((law.settings index).symm.trans known)

theorem addresses_steady : addresses.Steady where
  refl _ _ _ known := known
  trans one two index settings known := two index settings (one index settings known)
  withHost host := fun ⟨_, law⟩ => law.next (law.withHost host)
  tell event := fun ⟨_, law⟩ => law.next (law.tell event)
  setClaims key claims := fun ⟨_, law⟩ => law.next (law.setClaims key claims)
  setRegistry index registry := fun ⟨_, law⟩ => law.next (law.setRegistry index registry)
  open_ {world connector} := fun ⟨made, law⟩ empty => by
    refine ⟨⟨_, law.open_ empty⟩, fun index settings known => ?_⟩
    have old : index ≠ world.nextConnector := by
      rintro rfl
      rw [law.settings] at known
      exact absurd (law.below _ (Option.isSome_of_eq_some known)) (Nat.lt_irrefl _)
    rw [connector?_addConnector, if_neg old]
    exact known
  reserve := fun ⟨_, law⟩ known _ _ => law.next (law.reserve known _)
  freeSlot index id := fun ⟨_, law⟩ => law.next (law.freeSlot index id)
  enroll {answerer index connector id spec world after kernel} _ there valid launched next := by
    obtain ⟨made, law⟩ := next.law
    have stays := next.lasts index connector.settings (by rw [there]; rfl)
    refine law.next (law.enroll (Option.isSome_map.symm.trans (Option.isSome_of_eq_some stays)) valid
      (fun isLocal settings of ipc => ?_))
    rw [← law.settings, stays] at of
    cases of
    exact launch_servesAt launched valid isLocal ipc
  begin_ := fun ⟨_, law⟩ there =>
    law.next (law.setKernel (fun isLocal => ⟨_, there, isLocal, fun _ _ serves => serves⟩))
  restarted {answerer world handle kernel} _ there next := by
    obtain ⟨made, law⟩ := next.law
    refine law.next (law.setKernel (fun isLocal => ?_))
    obtain ⟨wasLocal, kernels, serves⟩ := Kernel.restarted_keeps isLocal
    exact ⟨kernel, (congrArg (Table.get? · handle) kernels).trans there, wasLocal, serves⟩
  released {answerer world handle kernel} _ there next := by
    obtain ⟨made, law⟩ := next.law
    refine law.next (law.setKernel (fun isLocal => ?_))
    obtain ⟨wasLocal, kernels, serves⟩ := Kernel.released_keeps isLocal
    exact ⟨kernel, (congrArg (Table.get? · handle) kernels).trans there, wasLocal, fun address _ => serves address⟩
  asked _ _ _ := trivial
  answered _ _ _ _ := trivial
  refused _ _ _ := trivial

/-- The law of addresses at every moment of a run, and at its end. -/
theorem addressLaw_trace (depth : Nat) {made : Nat → Option Settings} {world : World} (law : world.AddressLaw made)
    {moves : List Move} (empty : OpensEmpty moves) :
    (∃ made, (World.run (answer depth) world moves).AddressLaw made) ∧
      ∀ moment ∈ trace depth world moves, ∃ made, moment.world.AddressLaw made := by
  have passes := Regime.trace_passes addresses_steady depth ⟨made, law⟩ empty
  exact ⟨passes.law, fun moment listed => (passes.at_ addresses_steady listed).law⟩

end World
end Mooring
