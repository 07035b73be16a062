import Mooring.Proofs.Connection.KernelFile
import Mooring.Proofs.Connector.Slots

/-! Ready kernels and their files. A kernel has its file under its own id, so that work on one id spares the
files of all others. While somebody works on an id, no kernel of the built-in provisioner is ready for it. -/

namespace Mooring

open Host (Place Spares SparesAll)

def Provisioner.IsLocal (provisioner : Provisioner) : Prop := ∃ claims state, provisioner = .local_ claims state

theorem Provisioner.plugin_foreign {work : Plugin} {id name : String} {spec : KernelSpec} {config : Json.Members}
    {launches : Nat} {info : Option Snapshot} :
    ¬ Provisioner.IsLocal (.plugin work id name spec config launches info) := by
  rintro ⟨_, _, same⟩
  cases same

instance (provisioner : Provisioner) : Decidable provisioner.IsLocal :=
  match provisioner with
  | .local_ claims state => .isTrue ⟨claims, state, rfl⟩
  | .plugin .. => .isFalse Provisioner.plugin_foreign

namespace World

/-- A kernel of the built-in provisioner is ready. -/
def ReadyLocal (world : World) (index : Nat) (id : String) (handle : Nat) : Prop :=
  world.slot? index id = some (.ready handle) ∧
    ∃ kernel, world.kernels.get? handle = some kernel ∧ kernel.provisioner.IsLocal

instance (world : World) (index : Nat) (id : String) (handle : Nat) : Decidable (world.ReadyLocal index id handle) :=
  inferInstanceAs (Decidable (world.slot? index id = some (.ready handle) ∧
    ∃ kernel ∈ world.kernels.get? handle, kernel.provisioner.IsLocal))

structure SameKernels (before after : World) : Prop where
  kernels : after.kernels = before.kernels
  nextKernel : after.nextKernel = before.nextKernel
  nextConnector : after.nextConnector = before.nextConnector
  slots : ∀ index id, after.slot? index id = before.slot? index id
  known : ∀ index, (after.connector? index).isSome = (before.connector? index).isSome

theorem SameKernels.refl (world : World) : SameKernels world world := ⟨rfl, rfl, rfl, fun _ _ => rfl, fun _ => rfl⟩

theorem SameKernels.withHost (world : World) (host : Host) : SameKernels world { world with host := host } :=
  ⟨rfl, rfl, rfl, fun _ _ => rfl, fun _ => rfl⟩

theorem SameKernels.tell (world : World) (event : Event) : SameKernels world (world.tell event) :=
  ⟨rfl, rfl, rfl, fun _ _ => rfl, fun _ => rfl⟩

theorem SameKernels.setClaims (world : World) (key : Nat) (claims : PortClaims) :
    SameKernels world (world.setClaims key claims) :=
  ⟨rfl, rfl, rfl, fun _ _ => rfl, fun _ => rfl⟩

theorem SameKernels.trans {first second third : World} (one : SameKernels first second)
    (two : SameKernels second third) :
    SameKernels first third where
  kernels := two.kernels.trans one.kernels
  nextKernel := two.nextKernel.trans one.nextKernel
  nextConnector := two.nextConnector.trans one.nextConnector
  slots index id := (two.slots index id).trans (one.slots index id)
  known index := (two.known index).trans (one.known index)

theorem SameKernels.setRegistry (world : World) (index : Nat) (registry : Registry) :
    SameKernels world (world.setRegistry index registry) :=
  ⟨rfl, rfl, rfl, world.slot?_setRegistry index registry,
    fun other => isSome_connector?_setRegistry world index other registry⟩

theorem get?_setKernel (world : World) (handle : Nat) (kernel : Kernel) (other : Nat) :
    (world.setKernel handle kernel).kernels.get? other =
      if other = handle then some kernel else world.kernels.get? other := by
  unfold setKernel
  split
  next same => rw [same, Table.get?_set_self]
  next differs => rw [Table.get?_set_of_ne _ _ differs]

/-- Ready kernels have their files under their ids, each id is used by one connector, and an id is not used
again while a kernel is at work that has its file. -/
structure FileLaw (world : World) : Prop where
  below : ∀ handle kernel, world.kernels.get? handle = some kernel → handle < world.nextKernel
  connectors : ∀ index, (world.connector? index).isSome → index < world.nextConnector
  ready : ∀ index id handle, world.slot? index id = some (.ready handle) → ∃ kernel,
    world.kernels.get? handle = some kernel ∧ kernel.connection.IsFor id ∧
      (kernel.provisioner.IsLocal → kernel.connection.written = true)
  alone : ∀ index other id slot slot', world.slot? index id = some slot →
    world.slot? other id = some slot' → index = other
  busy : ∀ handle kernel index id slot, world.kernels.get? handle = some kernel → kernel.busy = true →
    kernel.connection.IsFor id → world.slot? index id = some slot → slot = .ready handle

theorem FileLaw.congr {before after : World} (law : before.FileLaw)
    (same : SameKernels before after) : after.FileLaw where
  below handle kernel there := by
    rw [same.kernels] at there
    rw [same.nextKernel]
    exact law.below handle kernel there
  connectors index known := by
    rw [same.known] at known
    rw [same.nextConnector]
    exact law.connectors index known
  ready index id handle taken := by
    rw [same.slots] at taken
    rw [same.kernels]
    exact law.ready index id handle taken
  alone index other id slot slot' one two := by
    rw [same.slots] at one two
    exact law.alone index other id slot slot' one two
  busy handle kernel index id slot there working isFor taken := by
    rw [same.kernels] at there
    rw [same.slots] at taken
    exact law.busy handle kernel index id slot there working isFor taken

theorem FileLaw.setKernel {world : World} (law : world.FileLaw) {handle : Nat} {old kernel : Kernel}
    (there : world.kernels.get? handle = some old)
    (isFor : ∀ id, old.connection.IsFor id → kernel.connection.IsFor id)
    (written : ∀ index id, world.slot? index id = some (.ready handle) → kernel.provisioner.IsLocal →
      kernel.connection.written = true)
    (busy : kernel.busy = true → ∀ index id slot, kernel.connection.IsFor id → world.slot? index id = some slot →
      slot = .ready handle) : (world.setKernel handle kernel).FileLaw where
  below other held known := by
    rw [get?_setKernel] at known
    split at known
    next same => exact same ▸ law.below handle old there
    next => exact law.below other held known
  connectors := law.connectors
  ready index id other taken := by
    obtain ⟨held, known, heldFor, heldWritten⟩ := law.ready index id other taken
    rw [get?_setKernel]
    split
    next same =>
      rw [same, there] at known
      cases known
      exact ⟨kernel, rfl, isFor id heldFor, written index id (same ▸ taken)⟩
    next => exact ⟨held, known, heldFor, heldWritten⟩
  alone := law.alone
  busy other held index id slot known working heldFor taken := by
    rw [get?_setKernel] at known
    split at known
    next same =>
      cases known
      exact same ▸ busy working index id slot heldFor taken
    next => exact law.busy other held index id slot known working heldFor taken

theorem slot?_of_freeSlot {world : World} {index other : Nat} {id name : String} {slot : Slot}
    (taken : (world.freeSlot index id).slot? other name = some slot) :
    ¬ (other = index ∧ name = id) ∧ world.slot? other name = some slot := by
  rw [slot?_freeSlot] at taken
  split at taken
  next => cases taken
  next elsewhere => exact ⟨elsewhere, taken⟩

theorem FileLaw.freeSlot {world : World} (law : world.FileLaw) (index : Nat) (id : String) :
    (world.freeSlot index id).FileLaw where
  below := law.below
  connectors other known := by
    rw [World.freeSlot, isSome_connector?_modifySlots] at known
    exact law.connectors other known
  ready other name handle taken := law.ready other name handle (slot?_of_freeSlot taken).2
  alone one two name slot slot' first second :=
    law.alone one two name slot slot' (slot?_of_freeSlot first).2 (slot?_of_freeSlot second).2
  busy handle kernel other name slot there working isFor taken :=
    law.busy handle kernel other name slot there working isFor (slot?_of_freeSlot taken).2

def IsIdle (world : World) (id : String) : Prop :=
  ∀ handle kernel, world.kernels.get? handle = some kernel → kernel.busy = true → ¬ kernel.connection.IsFor id

instance (world : World) (id : String) : Decidable (world.IsIdle id) :=
  decidable_of_iff (∀ row ∈ world.kernels.rows, ∀ kernel ∈ world.kernels.get? row.1,
      kernel.busy = true → ¬ kernel.connection.IsFor id) <| by
    constructor
    · intro idle handle kernel there
      obtain ⟨row, listed, rfl⟩ := Table.key_listed there
      exact idle row listed kernel there
    · exact fun idle row _ kernel there => idle row.1 kernel there

def IsSettled (world : World) (id : String) : Prop := (∀ index, world.slot? index id = none) ∧ world.IsIdle id

instance (world : World) (id : String) : Decidable (world.IsSettled id) :=
  decidable_of_iff ((∀ row ∈ world.connectors.rows, world.slot? row.1 id = none) ∧ world.IsIdle id) <| by
    refine and_congr_left (fun _ => ⟨fun free index => ?_, fun free row _ => free row.1⟩)
    cases taken : world.slot? index id with
    | none => rfl
    | some slot =>
      obtain ⟨connector, known⟩ := Option.isSome_iff_exists.mp (isSome_connector?_of_slot? taken)
      obtain ⟨row, listed, rfl⟩ := Table.key_listed known
      rw [free row listed] at taken
      cases taken

theorem FileLaw.reserve {world : World} (law : world.FileLaw) {index : Nat} (known : (world.connector? index).isSome)
    {id : String} (settled : world.IsSettled id) : (world.setSlot index id .preparing).FileLaw where
  below := law.below
  connectors other there := by
    rw [setSlot, isSome_connector?_modifySlots] at there
    exact law.connectors other there
  ready other name handle taken := by
    rw [slot?_setSlot world known] at taken
    split at taken
    next => cases taken
    next => exact law.ready other name handle taken
  alone one two name slot slot' first second := by
    rw [slot?_setSlot world known] at first second
    split at first
    next here =>
      split at second
      next there => exact here.1.trans there.1.symm
      next =>
        rw [here.2, settled.1] at second
        cases second
    next =>
      split at second
      next there =>
        rw [there.2, settled.1] at first
        cases first
      next => exact law.alone one two name slot slot' first second
  busy handle kernel other name slot there working isFor taken := by
    rw [slot?_setSlot world known] at taken
    split at taken
    next here => exact absurd (here.2 ▸ isFor) (settled.2 handle kernel there working)
    next => exact law.busy handle kernel other name slot there working isFor taken

theorem FileLaw.enroll {world : World} (law : world.FileLaw) {index : Nat} {id : String}
    (reserved : world.slot? index id = some .preparing) {kernel : Kernel} (isFor : kernel.connection.IsFor id)
    (written : kernel.provisioner.IsLocal → kernel.connection.written = true) (idle : kernel.busy = false) :
    (world.enroll index id kernel).FileLaw := by
  have known := isSome_connector?_of_slot? reserved
  have kernels (handle : Nat) : (world.enroll index id kernel).kernels.get? handle =
      if handle = world.nextKernel then some kernel else world.kernels.get? handle :=
    get?_setKernel world world.nextKernel kernel handle
  refine ⟨fun handle held there => ?_, fun other there => ?_, fun other name handle taken => ?_,
    fun one two name slot slot' first second => ?_, fun handle held other name slot there working heldFor taken => ?_⟩
  · rw [kernels] at there
    split at there
    next same => exact same ▸ Nat.lt_succ_self _
    next => exact Nat.lt_succ_of_lt (law.below handle held there)
  · have same : ((world.enroll index id kernel).connector? other).isSome = (world.connector? other).isSome :=
      isSome_connector?_modifySlots (world.addKernel kernel).2 index other _
    rw [same] at there
    exact law.connectors other there
  · rw [slot?_enroll world known] at taken
    rw [kernels]
    split at taken
    next here =>
      cases taken
      rw [if_pos rfl]
      exact ⟨kernel, rfl, here.2 ▸ isFor, written⟩
    next =>
      obtain ⟨held, there, heldFor, heldWritten⟩ := law.ready other name handle taken
      rw [if_neg (Nat.ne_of_lt (law.below handle held there))]
      exact ⟨held, there, heldFor, heldWritten⟩
  · rw [slot?_enroll world known] at first second
    split at first
    next here =>
      split at second
      next there => exact here.1.trans there.1.symm
      next =>
        rw [here.2] at second
        exact here.1.trans (law.alone _ _ _ _ _ reserved second)
    next =>
      split at second
      next there =>
        rw [there.2] at first
        exact (law.alone _ _ _ _ _ first reserved).trans there.1.symm
      next => exact law.alone one two name slot slot' first second
  · rw [kernels] at there
    rw [slot?_enroll world known] at taken
    split at there
    next =>
      cases there
      rw [idle] at working
      cases working
    next =>
      split at taken
      next here =>
        cases law.busy handle held index id .preparing there working (here.2 ▸ heldFor) reserved
      next => exact law.busy handle held other name slot there working heldFor taken

structure KeepsFiles (before after : World) : Prop where
  next : before.nextKernel ≤ after.nextKernel
  slots : ∀ index id handle, handle < before.nextKernel → after.slot? index id = some (.ready handle) →
    before.slot? index id = some (.ready handle)
  kinds : ∀ handle kernel, handle < before.nextKernel → after.kernels.get? handle = some kernel →
    kernel.provisioner.IsLocal → ∃ old, before.kernels.get? handle = some old ∧ old.provisioner.IsLocal
  files : ∀ index id handle place, handle < before.nextKernel → after.ReadyLocal index id handle →
    place.getLast? = some (fileName id) → before.host.hasFile place → after.host.hasFile place

namespace KeepsFiles
variable {first second third : World}

theorem ready (keeps : KeepsFiles first second) {index : Nat} {id : String} {handle : Nat}
    (old : handle < first.nextKernel)
    (ready : second.ReadyLocal index id handle) : first.ReadyLocal index id handle := by
  obtain ⟨taken, kernel, there, isLocal⟩ := ready
  exact ⟨keeps.slots index id handle old taken, keeps.kinds handle kernel old there isLocal⟩

theorem refl (world : World) : KeepsFiles world world :=
  ⟨Nat.le_refl _, fun _ _ _ _ taken => taken, fun _ kernel _ there isLocal => ⟨kernel, there, isLocal⟩,
    fun _ _ _ _ _ _ _ there => there⟩

theorem trans (one : KeepsFiles first second) (two : KeepsFiles second third) : KeepsFiles first third where
  next := Nat.le_trans one.next two.next
  slots index id handle old taken :=
    one.slots index id handle old (two.slots index id handle (Nat.lt_of_lt_of_le old one.next) taken)
  kinds handle kernel old there isLocal := by
    obtain ⟨held, known, isLocal'⟩ := two.kinds handle kernel (Nat.lt_of_lt_of_le old one.next) there isLocal
    exact one.kinds handle held old known isLocal'
  files index id handle place old ready last there := by
    have old' := Nat.lt_of_lt_of_le old one.next
    have there' := one.files index id handle place old (two.ready old' ready) last there
    exact two.files index id handle place old' ready last there'

theorem of_same (same : SameKernels first second)
    (files : ∀ index id handle place, second.ReadyLocal index id handle → place.getLast? = some (fileName id) →
      first.host.hasFile place → second.host.hasFile place) : KeepsFiles first second where
  next := Nat.le_of_eq same.nextKernel.symm
  slots index id _ _ taken := (same.slots index id).symm.trans taken
  kinds _ kernel _ there isLocal := ⟨kernel, same.kernels ▸ there, isLocal⟩
  files index id handle place _ ready last there := files index id handle place ready last there

theorem of_spares (same : SameKernels first second) {id : String} (spares : Spares (OwnPlace id) first.host second.host)
    (vacant : ∀ index handle, ¬ second.ReadyLocal index id handle) : KeepsFiles first second := by
  refine of_same same (fun index name handle place ready last there => spares.files place (fun own => ?_) there)
  exact vacant index handle (own name last ▸ ready)

theorem of_files (same : SameKernels first second)
    (files : ∀ place, first.host.hasFile place → second.host.hasFile place) :
    KeepsFiles first second :=
  of_same same (fun _ _ _ place _ _ there => files place there)

theorem setKernel {world : World} {handle : Nat} {old kernel : Kernel} (there : world.kernels.get? handle = some old)
    (kind : kernel.provisioner.IsLocal → old.provisioner.IsLocal) :
    KeepsFiles world (world.setKernel handle kernel) where
  next := Nat.le_refl _
  slots _ _ _ _ taken := taken
  kinds other held _ known isLocal := by
    rw [get?_setKernel] at known
    split at known
    next same =>
      cases known
      exact ⟨old, same ▸ there, kind isLocal⟩
    next => exact ⟨held, known, isLocal⟩
  files _ _ _ _ _ _ _ there := there

theorem freeSlot (world : World) (index : Nat) (id : String) : KeepsFiles world (world.freeSlot index id) where
  next := Nat.le_refl _
  slots _ _ _ _ taken := (slot?_of_freeSlot taken).2
  kinds _ kernel _ there isLocal := ⟨kernel, there, isLocal⟩
  files _ _ _ _ _ _ _ there := there

theorem reserve {world : World} {index : Nat} (known : (world.connector? index).isSome) (id : String) :
    KeepsFiles world (world.setSlot index id .preparing) where
  next := Nat.le_refl _
  slots other name handle _ taken := by
    rw [slot?_setSlot world known] at taken
    split at taken
    next => cases taken
    next => exact taken
  kinds _ kernel _ there isLocal := ⟨kernel, there, isLocal⟩
  files _ _ _ _ _ _ _ there := there

theorem enroll {world : World} {index : Nat} (known : (world.connector? index).isSome) (id : String) (kernel : Kernel) :
    KeepsFiles world (world.enroll index id kernel) where
  next := Nat.le_succ _
  slots other name handle old taken := by
    rw [slot?_enroll world known] at taken
    split at taken
    next =>
      cases taken
      exact absurd old (Nat.lt_irrefl _)
    next => exact taken
  kinds handle held old there isLocal := by
    have same : (world.enroll index id kernel).kernels.get? handle = world.kernels.get? handle :=
      (get?_setKernel world world.nextKernel kernel handle).trans (if_neg (Nat.ne_of_lt old))
    exact ⟨held, same.symm.trans there, isLocal⟩
  files _ _ _ _ _ _ _ there := there

end KeepsFiles

structure Balanced (before after : World) : Prop where
  nextConnector : after.nextConnector = before.nextConnector
  known : ∀ index, (after.connector? index).isSome = (before.connector? index).isSome
  preparing : ∀ index id, before.slot? index id = some .preparing → after.slot? index id = some .preparing
  busy : ∀ handle kernel, kernel.busy = true →
    (after.kernels.get? handle = some kernel ↔ before.kernels.get? handle = some kernel)

theorem SameKernels.balanced {before after : World} (same : SameKernels before after) : Balanced before after where
  nextConnector := same.nextConnector
  known := same.known
  preparing index id reserved := (same.slots index id).trans reserved
  busy handle kernel _ := by rw [same.kernels]

namespace Balanced
variable {first second third : World}

theorem trans (one : Balanced first second) (two : Balanced second third) : Balanced first third where
  nextConnector := two.nextConnector.trans one.nextConnector
  known index := (two.known index).trans (one.known index)
  preparing index id reserved := two.preparing index id (one.preparing index id reserved)
  busy handle kernel working := (two.busy handle kernel working).trans (one.busy handle kernel working)

theorem around {world later : World} {handle : Nat} {kernel done : Kernel}
    (there : world.kernels.get? handle = some kernel)
    (idle : kernel.busy = false) (rests : done.busy = false)
    (balanced : Balanced (world.setKernel handle { kernel with busy := true }) later) :
    Balanced world (later.setKernel handle done) where
  nextConnector := balanced.nextConnector
  known := balanced.known
  preparing := balanced.preparing
  busy other held working := by
    have outer := balanced.busy other held working
    rw [get?_setKernel] at outer ⊢
    split
    next same =>
      subst same
      rw [there]
      constructor <;> intro same <;> cases same
      · rw [rests] at working
        cases working
      · rw [idle] at working
        cases working
    next differs => rwa [if_neg differs] at outer

theorem freeSlot {world : World} {index : Nat} {id : String} {handle : Nat}
    (taken : world.slot? index id = some (.ready handle)) : Balanced world (world.freeSlot index id) where
  nextConnector := rfl
  known other := by rw [World.freeSlot, isSome_connector?_modifySlots]
  preparing other name reserved := by
    rw [slot?_freeSlot]
    split
    next here =>
      rw [here.1, here.2, taken] at reserved
      cases reserved
    next => exact reserved
  busy _ _ _ := Iff.rfl

section
variable {world after : World} {index : Nat} {id : String} (known : (world.connector? index).isSome)
  (free : world.slot? index id = none) (balanced : Balanced (world.setSlot index id .preparing) after)
include known free balanced

theorem others {other : Nat} {name : String} (reserved : world.slot? other name = some .preparing) :
    ¬ (other = index ∧ name = id) ∧ after.slot? other name = some .preparing := by
  have elsewhere : ¬ (other = index ∧ name = id) := by
    rintro ⟨rfl, rfl⟩
    rw [free] at reserved
    cases reserved
  refine ⟨elsewhere, balanced.preparing other name ?_⟩
  rw [slot?_setSlot world known, if_neg elsewhere, reserved]

theorem unreserve : Balanced world (after.freeSlot index id) where
  nextConnector := balanced.nextConnector
  known other := by
    rw [World.freeSlot, isSome_connector?_modifySlots, balanced.known, setSlot, isSome_connector?_modifySlots]
  preparing other name reserved := by
    obtain ⟨elsewhere, stays⟩ := others known free balanced reserved
    rw [slot?_freeSlot, if_neg elsewhere, stays]
  busy := balanced.busy

theorem enroll (law : after.FileLaw) {kernel : Kernel} (idle : kernel.busy = false) :
    Balanced world (after.enroll index id kernel) where
  nextConnector := balanced.nextConnector
  known other := by
    have same : ((after.enroll index id kernel).connector? other).isSome = (after.connector? other).isSome :=
      isSome_connector?_modifySlots (after.addKernel kernel).2 index other _
    rw [same, balanced.known, setSlot, isSome_connector?_modifySlots]
  preparing other name reserved := by
    obtain ⟨elsewhere, stays⟩ := others known free balanced reserved
    have known' : (after.connector? index).isSome := by
      rwa [balanced.known, setSlot, isSome_connector?_modifySlots]
    rw [slot?_enroll after known', if_neg elsewhere, stays]
  busy handle held working := by
    have kernels : (after.enroll index id kernel).kernels.get? handle =
        if handle = after.nextKernel then some kernel else after.kernels.get? handle :=
      get?_setKernel after after.nextKernel kernel handle
    have old : after.kernels.get? handle = some held ↔ world.kernels.get? handle = some held :=
      balanced.busy handle held working
    rw [kernels, ← old]
    split
    next same =>
      constructor
      · intro new
        cases new
        rw [idle] at working
        cases working
      · intro there
        exact absurd (law.below handle held there) (Nat.not_lt.mpr (Nat.le_of_eq same.symm))
    next => rfl

end

end Balanced

/-- Somebody works on an id: a reservation, or a kernel of a plugin that is at work. -/
inductive Working (world : World) (id : String) : Prop
  | preparing (index : Nat) (reserved : world.slot? index id = some .preparing)
  | busy (handle : Nat) (kernel : Kernel) (there : world.kernels.get? handle = some kernel)
    (working : kernel.busy = true) (isFor : kernel.connection.IsFor id) (foreign : ¬ kernel.provisioner.IsLocal)

theorem Working.balanced {before after : World} {id : String} (working : before.Working id)
    (balanced : Balanced before after) : after.Working id := by
  cases working with
  | preparing index reserved => exact .preparing index (balanced.preparing index id reserved)
  | busy handle kernel there working isFor foreign =>
    exact .busy handle kernel ((balanced.busy handle kernel working).mpr there) working isFor foreign

theorem FileLaw.not_readyLocal {world : World} (law : world.FileLaw) {id : String} (working : world.Working id)
    (index handle : Nat) : ¬ world.ReadyLocal index id handle := by
  rintro ⟨taken, held, known, isLocal⟩
  cases working with
  | preparing other reserved =>
    cases law.alone index other id _ _ taken reserved
    rw [taken] at reserved
    cases reserved
  | busy other kernel there working isFor foreign =>
    cases law.busy other kernel index id _ there working isFor taken
    rw [there] at known
    cases known
    exact foreign isLocal

end World
end Mooring
