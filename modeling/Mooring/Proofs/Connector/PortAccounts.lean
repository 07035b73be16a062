import Mooring.Host.Isolated
import Mooring.Proofs.Connector.Builtin
import Mooring.Proofs.Connector.Moments

/-! Port accounts. When connectors share their claims, the claimed ports are those of the kernels that are
ready, and no port belongs to two channels. Every call keeps that, however it ends. -/

namespace Mooring.World

variable {key : Nat} {answerer : Answerer}

def HasPort (world : World) (index : Nat) (id : String) (channel : Channel) (port : UInt16) : Prop :=
  ∃ handle kernel, world.handle? index id = some handle ∧ world.kernels.get? handle = some kernel ∧
    kernel.connection.ports.get channel = port

/-- What the claims say is what the kernels have. -/
structure Accounted (key : Nat) (world : World) : Prop where
  claimed : ∀ port, (world.claimsOf key).isClaimed port = true ↔
    ∃ index id channel, world.HasPort index id channel port
  apart : ∀ index id channel other name channel' port, world.HasPort index id channel port →
    world.HasPort other name channel' port → index = other ∧ id = name ∧ channel = channel'

/-- Each id stands for a kernel of its own that has its ports from the claims. -/
structure PortLaw (key : Nat) (world : World) : Prop extends Accounted key world where
  share : world.AllShare key
  nonzero : world.host.AnswersNonzero
  ready : ∀ index id slot, world.slot? index id = some slot → ∃ handle kernel,
    slot = .ready handle ∧ handle < world.nextKernel ∧ world.kernels.get? handle = some kernel ∧ kernel.Holds key
  unique : ∀ index id other name handle, world.handle? index id = some handle →
    world.handle? other name = some handle → index = other ∧ id = name

theorem PortLaw.holds {world : World} (law : world.PortLaw key) {index : Nat} {id : String} {handle : Nat}
    (found : world.handle? index id = some handle) :
    handle < world.nextKernel ∧ ∃ kernel, world.kernels.get? handle = some kernel ∧ kernel.Holds key := by
  obtain ⟨_, kernel, same, below, there, holds⟩ := law.ready index id _ ((world.handle?_eq_some _ _ _).mp found)
  cases same
  exact ⟨below, kernel, there, holds⟩

theorem handle?_congr {before after : World} {index : Nat} {id : String}
    (same : after.slot? index id = before.slot? index id) : after.handle? index id = before.handle? index id := by
  unfold handle?
  rw [same]

theorem Settles.hasPort {before after : World} (settles : Settles key before after) (index : Nat) (id : String)
    (channel : Channel) (port : UInt16) :
    after.HasPort index id channel port ↔ before.HasPort index id channel port := by
  unfold HasPort
  rw [settles.kernels, handle?_congr (settles.slots index id)]

theorem Settles.portLaw {before after : World} (settles : Settles key before after) (law : before.PortLaw key)
    (claims : ∀ port, port ∈ (after.claimsOf key).ports ↔ port ∈ (before.claimsOf key).ports) : after.PortLaw key where
  claimed port := by
    rw [PortClaims.isClaimed_iff, claims, ← PortClaims.isClaimed_iff, law.claimed]
    simp only [settles.hasPort]
  apart index id channel other name channel' port one two :=
    law.apart index id channel other name channel' port ((settles.hasPort _ _ _ _).mp one)
      ((settles.hasPort _ _ _ _).mp two)
  share := settles.share law.share
  nonzero := law.nonzero.of_suffix settles.ports
  ready index id slot taken := by
    rw [settles.slots] at taken
    rw [settles.nextKernel, settles.kernels]
    exact law.ready index id slot taken
  unique index id other name handle one two := by
    rw [handle?_congr (settles.slots _ _)] at one two
    exact law.unique index id other name handle one two

section
variable {before after : World} {index : Nat} {id : String} {kernel : Kernel}

theorem hasPort_add (free : before.slot? index id = none) (law : before.PortLaw key)
    (slots : ∀ other name, after.slot? other name =
      if other = index ∧ name = id then some (.ready before.nextKernel) else before.slot? other name)
    (kernels : after.kernels = before.kernels.set before.nextKernel kernel) (other : Nat) (name : String)
    (channel : Channel) (port : UInt16) :
    after.HasPort other name channel port ↔
      (other = index ∧ name = id) ∧ kernel.connection.ports.get channel = port ∨
      before.HasPort other name channel port := by
  unfold HasPort
  simp only [handle?_eq_some, slots, kernels]
  by_cases here : other = index ∧ name = id
  · obtain ⟨rfl, rfl⟩ := here
    simp [free, Table.get?_set_self]
  · simp only [here, if_false, false_and, false_or]
    refine exists_congr (fun handle => exists_congr (fun held => and_congr_right (fun taken => ?_)))
    obtain ⟨below, _⟩ := law.holds ((before.handle?_eq_some _ _ _).mpr taken)
    rw [Table.get?_set_of_ne _ _ (Nat.ne_of_lt below)]

theorem PortLaw.add (law : before.PortLaw key) (free : before.slot? index id = none)
    (slots : ∀ other name, after.slot? other name =
      if other = index ∧ name = id then some (.ready before.nextKernel) else before.slot? other name)
    (kernels : after.kernels = before.kernels.set before.nextKernel kernel)
    (next : after.nextKernel = before.nextKernel + 1)
    (share : after.AllShare key) (nonzero : after.host.AnswersNonzero)
    (claimed : Claimed key kernel (before.claimsOf key) (after.claimsOf key)) : after.PortLaw key := by
  have hasPort := hasPort_add free law slots kernels
  have fresh {other name channel port} (old : before.HasPort other name channel port) (channel' : Channel) :
      kernel.connection.ports.get channel' ≠ port := by
    intro same
    apply claimed.new channel'
    rw [← PortClaims.isClaimed_iff, law.claimed, same]
    exact ⟨other, name, channel, old⟩
  refine ⟨⟨fun port => ?_, ?_⟩, share, nonzero, ?_, ?_⟩
  · rw [PortClaims.isClaimed_iff, claimed.claims, ← PortClaims.isClaimed_iff, law.claimed]
    simp only [hasPort]
    constructor
    · rintro (⟨channel, same⟩ | ⟨other, name, channel, old⟩)
      · exact ⟨index, id, channel, .inl ⟨⟨rfl, rfl⟩, same⟩⟩
      · exact ⟨other, name, channel, .inr old⟩
    · rintro ⟨other, name, channel, ⟨_, same⟩ | old⟩
      · exact .inl ⟨channel, same⟩
      · exact .inr ⟨other, name, channel, old⟩
  · intro one name channel two name' channel' port first second
    rw [hasPort] at first second
    rcases first with ⟨⟨rfl, rfl⟩, first⟩ | first
    · rcases second with ⟨⟨rfl, rfl⟩, second⟩ | second
      · exact ⟨rfl, rfl, claimed.distinct _ _ (first.trans second.symm)⟩
      · exact absurd first (fresh second channel)
    · rcases second with ⟨⟨rfl, rfl⟩, second⟩ | second
      · exact absurd second (fresh first channel')
      · exact law.apart _ _ _ _ _ _ _ first second
  · intro other name slot taken
    rw [slots] at taken
    rw [next, kernels]
    split at taken
    next here =>
      cases taken
      exact ⟨before.nextKernel, kernel, rfl, Nat.lt_succ_self _, Table.get?_set_self _ _ _, claimed.holds⟩
    next =>
      obtain ⟨handle, old, same, below, there, holds⟩ := law.ready other name slot taken
      exact ⟨handle, old, same, Nat.lt_succ_of_lt below,
        (Table.get?_set_of_ne _ _ (Nat.ne_of_lt below)).trans there, holds⟩
  · intro one name two name' handle first second
    rw [handle?_eq_some, slots] at first second
    split at first
    next here =>
      cases first
      split at second
      next there => exact ⟨here.1.trans there.1.symm, here.2.trans there.2.symm⟩
      next =>
        obtain ⟨below, _⟩ := law.holds ((before.handle?_eq_some _ _ _).mpr second)
        exact absurd below (Nat.lt_irrefl _)
    next =>
      split at second
      next =>
        cases second
        obtain ⟨below, _⟩ := law.holds ((before.handle?_eq_some _ _ _).mpr first)
        exact absurd below (Nat.lt_irrefl _)
      next =>
        exact law.unique _ _ _ _ handle ((before.handle?_eq_some _ _ _).mpr first)
          ((before.handle?_eq_some _ _ _).mpr second)

theorem PortLaw.replace {handle : Nat} {old : Kernel} (law : before.PortLaw key)
    (slots : ∀ other name, after.slot? other name = before.slot? other name)
    (there : before.kernels.get? handle = some old)
    (kernels : ∀ other, after.kernels.get? other = if other = handle then some kernel else before.kernels.get? other)
    (ports : kernel.connection.ports = old.connection.ports) (holds : kernel.Holds key)
    (next : after.nextKernel = before.nextKernel) (share : after.AllShare key) (nonzero : after.host.AnswersNonzero)
    (claims : after.claimsOf key = before.claimsOf key) :
    after.PortLaw key ∧ ∀ other name channel port,
      after.HasPort other name channel port ↔ before.HasPort other name channel port := by
  have hasPort (other name channel port) :
      after.HasPort other name channel port ↔ before.HasPort other name channel port := by
    unfold HasPort
    apply exists_congr
    intro found
    rw [handle?_congr (slots other name), kernels]
    split
    next same =>
      rw [same, there]
      simp [ports]
    next => rfl
  refine ⟨⟨⟨fun port => ?_, ?_⟩, share, nonzero, ?_, ?_⟩, hasPort⟩
  · rw [claims, law.claimed]
    simp only [hasPort]
  · intro one name channel two name' channel' port first second
    exact law.apart _ _ _ _ _ _ _ ((hasPort _ _ _ _).mp first) ((hasPort _ _ _ _).mp second)
  · intro other name slot taken
    rw [slots] at taken
    obtain ⟨found, held, same, below, known, holding⟩ := law.ready other name slot taken
    rw [next]
    by_cases this : found = handle
    · exact ⟨found, kernel, same, below, by rw [kernels, if_pos this], holds⟩
    · exact ⟨found, held, same, below, by rw [kernels, if_neg this]; exact known, holding⟩
  · intro one name two name' found first second
    rw [handle?_congr (slots _ _)] at first second
    exact law.unique one name two name' found first second

end

structure KeepsAccounts (key : Nat) (before after : World) : Prop where
  law : after.PortLaw key
  new : ∀ index id channel port, after.HasPort index id channel port →
    before.HasPort index id channel port ∨ port ∉ (before.claimsOf key).ports

theorem KeepsAccounts.of_hasPort {before after : World} (law : after.PortLaw key)
    (same : ∀ index id channel port, after.HasPort index id channel port → before.HasPort index id channel port) :
    KeepsAccounts key before after :=
  ⟨law, fun index id channel port has => .inl (same index id channel port has)⟩

theorem PortLaw.keeps {world : World} (law : world.PortLaw key) : KeepsAccounts key world world :=
  .of_hasPort law (fun _ _ _ _ has => has)

theorem Settles.keeps {before after : World} (settles : Settles key before after) (law : before.PortLaw key)
    (claims : ∀ port, port ∈ (after.claimsOf key).ports ↔ port ∈ (before.claimsOf key).ports) :
    KeepsAccounts key before after :=
  .of_hasPort (settles.portLaw law claims) (fun _ _ _ _ has => (settles.hasPort _ _ _ _).mp has)

theorem Settles.unreserve {world after : World} {index : Nat} {id : String} (known : (world.connector? index).isSome)
    (free : world.slot? index id = none) (settles : Settles key (world.setSlot index id .preparing) after) :
    Settles key world (after.freeSlot index id) where
  kernels := settles.kernels
  nextKernel := settles.nextKernel
  slots other name := by
    rw [slot?_freeSlot, settles.slots, slot?_setSlot world known]
    split
    next here => rw [here.1, here.2, free]
    next => rfl
  known other there := by
    rw [freeSlot, isSome_connector?_modifySlots]
    apply settles.known
    rwa [setSlot, isSome_connector?_modifySlots]
  share share := (settles.share (share.modifySlots index _)).modifySlots index _
  ports := settles.ports

structure WorksOn (handle : Nat) (kernel : Kernel) (before after : World) : Prop where
  kernels : ∀ other, after.kernels.get? other = if other = handle then some kernel else before.kernels.get? other
  connectors : after.connectors = before.connectors
  nextConnector : after.nextConnector = before.nextConnector
  nextKernel : after.nextKernel = before.nextKernel
  ports : after.host.ports <:+ before.host.ports

theorem WorksOn.share {handle : Nat} {kernel : Kernel} {before after : World}
    (works : WorksOn handle kernel before after)
    (share : before.AllShare key) : after.AllShare key := by
  intro index connector known
  unfold connector? at known
  rw [works.connectors] at known
  rw [works.nextConnector]
  exact share index connector known

theorem WorksOn.slots {handle : Nat} {kernel : Kernel} {before after : World}
    (works : WorksOn handle kernel before after)
    (index : Nat) (id : String) : after.slot? index id = before.slot? index id := by
  unfold slot? connector?
  rw [works.connectors]

theorem get?_set_set {kernels : Table Nat Kernel} (handle : Nat) (busy kernel : Kernel) (other : Nat) :
    ((kernels.set handle busy).set handle kernel).get? other =
      if other = handle then some kernel else kernels.get? other := by
  split
  next same => rw [same, Table.get?_set_self]
  next differs => rw [Table.get?_set_of_ne _ _ differs, Table.get?_set_of_ne _ _ differs]

end Mooring.World

namespace Mooring

namespace World

variable {key : Nat} {answerer : Answerer}

/-- A process without connectors and claims, on a machine that gives out no port zero. -/
structure Vacant (key : Nat) (world : World) : Prop where
  connectors : ∀ index, world.connector? index = none
  claims : (world.claimsOf key).ports = []
  nonzero : world.host.AnswersNonzero

theorem Vacant.portLaw {world : World} (vacant : world.Vacant key) : world.PortLaw key := by
  have slots (index : Nat) (id : String) : world.slot? index id = none := by
    unfold slot?
    rw [vacant.connectors]
    rfl
  have handles (index : Nat) (id : String) : world.handle? index id = none := by
    unfold handle?
    rw [slots]
  refine ⟨⟨fun port => ?_, ?_⟩, ?_, vacant.nonzero, ?_, ?_⟩
  · rw [PortClaims.isClaimed_iff, vacant.claims]
    constructor
    · exact fun listed => absurd listed List.not_mem_nil
    · rintro ⟨index, id, channel, handle, kernel, found, _⟩
      rw [handles] at found
      cases found
  · rintro index id channel other name channel' port ⟨handle, kernel, found, _⟩
    rw [handles] at found
    cases found
  · intro index connector known
    rw [vacant.connectors] at known
    cases known
  · intro index id slot taken
    rw [slots] at taken
    cases taken
  · intro index id other name handle found
    rw [handles] at found
    cases found

def plainConnector : Connector where
  directory := "/run"
  claims := 0
  registry := Registry.withBuiltins (Host.Isolated.machine [["run"]] [])

end World
end Mooring
