import Mooring.Proofs.Connector.Arrivals
import Mooring.Proofs.Connector.ReadyKernels

/-! Kernels that a connector prepares one after another, and that are all released again. Each of them has the file
at its path and ports of its own, so that releasing all gives back what was claimed since the start. -/

namespace Mooring.World

open Host (Place Adds AddsNone Dwindles Turns)

def Caches (world : World) (index : Nat) (port : UInt16) : Prop :=
  ∃ id handle kernel, world.slot? index id = some (.ready handle) ∧ world.kernels.get? handle = some kernel ∧
    port ∈ kernel.cachedPorts

structure Holding (index : Nat) (original : Connector) (start world : World) : Prop where
  valid : ∀ id slot, world.slot? index id = some slot → isValidId id = true
  ready : ∀ id slot, world.slot? index id = some slot → ∃ handle kernel, slot = .ready handle ∧
    world.kernels.get? handle = some kernel ∧
      kernel.Owns original.claims original.transport (original.kernelPath id) ∧
        ∀ port ∈ kernel.cachedPorts, port ∉ (start.claimsOf original.claims).ports
  apart : ∀ one two handle, world.slot? index one = some (.ready handle) →
    world.slot? index two = some (.ready handle) →
    one = two
  kept : ∀ port ∈ (start.claimsOf original.claims).ports, port ∈ (world.claimsOf original.claims).ports
  known : ∀ port ∈ (world.claimsOf original.claims).ports,
    port ∈ (start.claimsOf original.claims).ports ∨ world.Caches index port
  others : ∀ key, key ≠ original.claims → world.claimsOf key = start.claimsOf key

namespace Holding
variable {index : Nat} {original : Connector} {start world after : World}

theorem empty (none : ∀ id, world.slot? index id = none) : Holding index original world world where
  valid id slot taken := by
    rw [none] at taken
    cases taken
  ready id slot taken := by
    rw [none] at taken
    cases taken
  apart one _ _ taken := by
    rw [none] at taken
    cases taken
  kept _ claimed := claimed
  known _ claimed := .inl claimed
  others _ _ := rfl

theorem claims_of_empty (holding : Holding index original start world) (none : ∀ id, world.slot? index id = none)
    (key : Nat) (port : UInt16) : port ∈ (world.claimsOf key).ports ↔ port ∈ (start.claimsOf key).ports := by
  by_cases mine : key = original.claims
  · subst mine
    refine ⟨fun claimed => (holding.known port claimed).resolve_right ?_, holding.kept port⟩
    rintro ⟨id, handle, _, taken, _⟩
    rw [none] at taken
    cases taken
  · rw [holding.others key mine]

theorem untouched (holding : Holding index original start world) (untouched : Untouched world after) :
    Holding index original start after where
  valid id slot taken := by
    rw [untouched.slots.slot?] at taken
    exact holding.valid id slot taken
  ready id slot taken := by
    rw [untouched.slots.slot?] at taken
    rw [untouched.kernels]
    exact holding.ready id slot taken
  apart one two handle first second := by
    rw [untouched.slots.slot?] at first second
    exact holding.apart one two handle first second
  kept port old := untouched.claims original.claims ▸ holding.kept port old
  known port claimed := by
    rw [untouched.claims] at claimed
    unfold Caches
    simp only [untouched.slots.slot?, untouched.kernels]
    exact holding.known port claimed
  others key differs := (untouched.claims key).trans (holding.others key differs)

end Holding

/-- The kernels that a connector has prepared since the start, with the files that they have. -/
structure Batch (index : Nat) (spec : KernelSpec) (original : Connector) (start world : World) : Prop
    extends Holding index original start world where
  employs : world.Employs index spec original
  fresh : ∀ id handle, world.slot? index id = some (.ready handle) → handle < world.nextKernel
  stands : ∀ id slot, world.slot? index id = some slot → ∃ place,
    world.host.placeOf? (original.kernelPath id) = some place ∧ world.host.hasFile place
  contents : ∀ place content, world.host.contentAt place = some content → start.host.contentAt place = some content ∨
    ∃ id, (world.slot? index id).isSome ∧ world.host.placeOf? (original.kernelPath id) = some place
  adds : start.host.LinksApart original.transport → Adds (fun _ => True) start.host world.host

theorem Arrives.get?_enroll {index : Nat} {spec : KernelSpec} {original : Connector} {id : String} {kernel : Kernel}
    {before after : World} (arrives : Arrives index spec original id kernel before after) (handle : Nat) :
    (after.enroll index id kernel).kernels.get? handle =
      if handle = after.nextKernel then some kernel else before.kernels.get? handle := by
  rw [← arrives.rests.kernels]
  exact get?_setKernel after after.nextKernel kernel handle

theorem Arrives.newKernel_enroll {index : Nat} {spec : KernelSpec} {original : Connector}
    {id : String} {kernel : Kernel}
    {before after : World} (arrives : Arrives index spec original id kernel before after) :
    (after.enroll index id kernel).kernels.get? after.nextKernel = some kernel :=
  (arrives.get?_enroll after.nextKernel).trans (if_pos rfl)

namespace Batch
variable {index : Nat} {spec : KernelSpec} {original : Connector} {start world after : World} {id : String}

theorem empty (employs : world.Employs index spec original) (none : ∀ id, world.slot? index id = none) :
    Batch index spec original world world := by
  have absent (id : String) (slot : Slot) : world.slot? index id ≠ some slot := by
    rw [none]
    exact (Option.some_ne_none slot).symm
  exact {
    toHolding := .empty none
    employs := employs
    fresh := fun id handle taken => absurd taken (absent id (.ready handle))
    stands := fun id slot taken => absurd taken (absent id slot)
    contents := fun _ _ reads => .inl reads
    adds := fun _ => .refl _ }

theorem drawUuid (batch : Batch index spec original start world) :
    Batch index spec original start { world with host := world.host.drawUuid.2 } where
  valid := batch.valid
  ready := batch.ready
  apart := batch.apart
  kept := batch.kept
  known := batch.known
  others := batch.others
  employs := batch.employs
  fresh := batch.fresh
  stands := batch.stands
  contents := batch.contents
  adds links := (batch.adds links).before world.host.drawUuid_addsNone

section
variable {kernel : Kernel} (batch : Batch index spec original start world)
  (arrives : Arrives index spec original id kernel (world.setSlot index id .preparing) after)
include batch arrives

theorem slot?_enroll (name : String) : (after.enroll index id kernel).slot? index name =
    if name = id then some (.ready after.nextKernel) else world.slot? index name := by
  obtain ⟨current, there, _⟩ := batch.employs
  obtain ⟨current', there', _⟩ := arrives.rests.employs (batch.employs.modifySlots index _)
  rw [World.slot?_enroll after (Option.isSome_of_eq_some there'), arrives.rests.slots,
    slot?_setSlot world (Option.isSome_of_eq_some there)]
  by_cases same : name = id <;> simp [same]

theorem enroll_cases {name : String} {slot : Slot}
    (taken : (after.enroll index id kernel).slot? index name = some slot) :
    (name = id ∧ slot = .ready after.nextKernel) ∨ (name ≠ id ∧ world.slot? index name = some slot) := by
  rw [batch.slot?_enroll arrives] at taken
  split at taken
  next same => exact .inl ⟨same, (Option.some.inj taken).symm⟩
  next elsewhere => exact .inr ⟨elsewhere, taken⟩

theorem older {name : String} {handle : Nat} (taken : world.slot? index name = some (.ready handle)) :
    handle ≠ after.nextKernel := by
  have next : after.nextKernel = world.nextKernel := arrives.rests.nextKernel
  exact next ▸ Nat.ne_of_lt (batch.fresh name handle taken)

theorem kernel_enroll {name : String} {handle : Nat} (taken : world.slot? index name = some (.ready handle)) :
    (after.enroll index id kernel).kernels.get? handle = world.kernels.get? handle :=
  (arrives.get?_enroll handle).trans (if_neg (batch.older arrives taken))

theorem placeOf?_arrives (valid : isValidId id = true) {name : String} {slot : Slot}
    (taken : world.slot? index name = some slot) {place : Place}
    (leads : world.host.placeOf? (original.kernelPath name) = some place) :
    after.host.placeOf? (original.kernelPath name) = some place := by
  obtain ⟨new, newLeads, _⟩ := arrives.stands
  exact arrives.turns.placeOf?_sibling (fileName_solid name) (fileName_whole (batch.valid name slot taken))
    (fileName_solid id) (fileName_whole valid) leads newLeads

theorem holding_enroll (free : world.slot? index id = none) (valid : isValidId id = true) :
    Holding index original start (after.enroll index id kernel) := by
  have slots := batch.slot?_enroll arrives
  have claims : (after.claimsOf original.claims).ports =
      kernel.cachedPorts.reverse ++ (world.claimsOf original.claims).ports :=
    arrives.claims
  refine { valid := ?valid, ready := ?ready, apart := ?apart, kept := ?kept, known := ?known, others := ?others }
  case valid =>
    intro name slot taken
    rcases batch.enroll_cases arrives taken with ⟨rfl, _⟩ | ⟨_, before⟩
    · exact valid
    · exact batch.valid name slot before
  case ready =>
    intro name slot taken
    rcases batch.enroll_cases arrives taken with ⟨rfl, rfl⟩ | ⟨_, before⟩
    · refine ⟨after.nextKernel, kernel, rfl, arrives.newKernel_enroll, arrives.owns, fun port mine old => ?_⟩
      have nodup := (after.claimsOf original.claims).nodup
      rw [claims] at nodup
      exact (List.nodup_append.mp nodup).2.2 port (List.mem_reverse.mpr mine) port (batch.kept port old) rfl
    · obtain ⟨handle, held, rfl, there, facts⟩ := batch.ready name slot before
      exact ⟨handle, held, rfl, (batch.kernel_enroll arrives before).trans there, facts⟩
  case apart =>
    intro one two handle first second
    rcases batch.enroll_cases arrives first with ⟨same, new⟩ | ⟨_, old⟩ <;>
      rcases batch.enroll_cases arrives second with ⟨same', new'⟩ | ⟨_, old'⟩
    · exact same.trans same'.symm
    · exact absurd (Slot.ready.inj new) (batch.older arrives old')
    · exact absurd (Slot.ready.inj new') (batch.older arrives old)
    · exact batch.apart one two handle old old'
  case kept =>
    intro port old
    have still := batch.kept port old
    show port ∈ (after.claimsOf original.claims).ports
    rw [claims]
    exact List.mem_append_right _ still
  case known =>
    intro port claimed
    have claimed : port ∈ (after.claimsOf original.claims).ports := claimed
    rw [claims, List.mem_append, List.mem_reverse] at claimed
    rcases claimed with mine | old
    · exact .inr ⟨id, after.nextKernel, kernel, (slots id).trans (if_pos rfl), arrives.newKernel_enroll, mine⟩
    · refine (batch.known port old).imp_right ?_
      rintro ⟨name, handle, held, taken, there, cached⟩
      have elsewhere : name ≠ id := by
        rintro rfl
        rw [free] at taken
        cases taken
      exact ⟨name, handle, held, (slots name).trans ((if_neg elsewhere).trans taken),
        (batch.kernel_enroll arrives taken).trans there, cached⟩
  case others =>
    intro key differs
    exact (arrives.others key differs).trans (batch.others key differs)

theorem enroll (free : world.slot? index id = none) (valid : isValidId id = true) :
    Batch index spec original start (after.enroll index id kernel) := by
  have slots := batch.slot?_enroll arrives
  refine { toHolding := batch.holding_enroll arrives free valid, employs := ?employs, fresh := ?fresh,
           stands := ?stands, contents := ?contents, adds := ?adds }
  case employs =>
    have goesOn : (after.addKernel kernel).2.Employs index spec original :=
      arrives.rests.employs (batch.employs.modifySlots index _)
    exact goesOn.modifySlots index _
  case fresh =>
    intro name handle taken
    show handle < after.nextKernel + 1
    rcases batch.enroll_cases arrives taken with ⟨_, new⟩ | ⟨_, before⟩
    · cases new
      exact Nat.lt_succ_self _
    · have next : after.nextKernel = world.nextKernel := arrives.rests.nextKernel
      exact Nat.lt_succ_of_lt (next ▸ batch.fresh name handle before)
  case stands =>
    intro name slot taken
    rcases batch.enroll_cases arrives taken with ⟨rfl, _⟩ | ⟨elsewhere, before⟩
    · exact arrives.stands
    · obtain ⟨place, leads, there⟩ := batch.stands name slot before
      refine ⟨place, batch.placeOf?_arrives arrives valid before leads,
        arrives.spares.files place (fun own => ?_) there⟩
      have last := getLast?_kernelPath original.directory (batch.valid name slot before)
      exact elsewhere (own name ((Host.getLast?_of_placeOf? leads).trans last))
  case contents =>
    intro place content reads
    rcases arrives.turns.contents place content reads with new | old
    · exact .inr ⟨id, Option.isSome_of_eq_some ((slots id).trans (if_pos rfl)), new⟩
    · refine (batch.contents place content old).imp_right ?_
      rintro ⟨name, taken, leads⟩
      obtain ⟨slot, taken⟩ := Option.isSome_iff_exists.mp taken
      refine ⟨name, ?_, batch.placeOf?_arrives arrives valid taken leads⟩
      rw [slots]
      split
      next => rfl
      next => exact Option.isSome_of_eq_some taken
  case adds =>
    intro links
    exact (batch.adds links).trans (arrives.adds (links.adds (batch.adds links)))

end

theorem prepareAs (batch : Batch index spec original start world) (answerer : Answerer) (id : String) :
    match World.prepareAs answerer index id spec world with
    | (.ok name, after) => name = id ∧ world.slot? index id = none ∧ Batch index spec original start after ∧
        ∀ other, (after.slot? index other).isSome ↔ other = id ∨ (world.slot? index other).isSome
    | (.error _, after) => Untouched world after ∧ Misses original.transport world.host after.host := by
  have offers (connector : Connector) (known : world.connector? index = some connector) :
      connector.registry.OffersBuiltin spec := by
    obtain ⟨current, there, continues⟩ := batch.employs
    cases known.symm.trans there
    exact continues.offers
  have untouched := fun error => @prepareAs_untouched answerer world index id spec error offers
  rcases world.prepareAs_cases answerer index id spec with
    ⟨error, refused⟩ | ⟨valid, free, _, connector, there, outcome⟩
  · rw [refused]
    exact ⟨.refl world, .of_addsNone (.refl _), fun _ => .refl _⟩
  · obtain ⟨current, known, continues⟩ := batch.employs.modifySlots index (fun slots => slots.set id .preparing)
    cases there.symm.trans known
    have ends := launch_ends answerer index (world.setSlot index id .preparing) continues valid
    rcases outcome with ⟨error, after, launched, result⟩ | ⟨kernel, after, launched, result⟩
    · rw [launched] at ends
      rw [result] at untouched ⊢
      exact ⟨untouched error rfl, ends⟩
    · rw [launched] at ends
      rw [result]
      refine ⟨rfl, free, batch.enroll ends free valid, fun other => ?_⟩
      rw [batch.slot?_enroll ends]
      by_cases same : other = id <;> simp [same]

theorem prepare (batch : Batch index spec original start world) (answerer : Answerer) (entry : Option String) :
    match World.prepare answerer index entry spec world with
    | (.ok id, after) => (∀ name, entry = some name → id = name) ∧ world.slot? index id = none ∧
        Batch index spec original start after ∧
          ∀ other, (after.slot? index other).isSome ↔ other = id ∨ (world.slot? index other).isSome
    | (.error _, after) => Untouched world after ∧ Misses original.transport world.host after.host := by
  unfold World.prepare
  cases entry with
  | some id =>
    have prepared := batch.prepareAs answerer id
    simp only
    generalize World.prepareAs answerer index id spec world = outcome at prepared ⊢
    obtain ⟨result, after⟩ := outcome
    cases result with
    | error error => exact prepared
    | ok name =>
      obtain ⟨rfl, rest⟩ := prepared
      exact ⟨fun other same => Option.some.inj same, rest⟩
  | none =>
    have prepared := batch.drawUuid.prepareAs answerer world.host.drawUuid.1
    simp only
    generalize World.prepareAs answerer index world.host.drawUuid.1 spec
      { world with host := world.host.drawUuid.2 } = outcome
      at prepared ⊢
    obtain ⟨result, after⟩ := outcome
    cases result with
    | error error =>
      obtain ⟨untouched, misses⟩ := prepared
      have made := world.host.drawUuid_addsNone
      have drawn : Untouched world { world with host := world.host.drawUuid.2 } :=
        .withHost (Host.Alike.refl world.host).addsNoFile
      exact ⟨drawn.trans untouched, misses.turns.after made, fun links => made.after (misses.adds (links.adds made))⟩
    | ok name =>
      obtain ⟨rfl, free, rest⟩ := prepared
      exact ⟨fun other same => absurd same (Option.some_ne_none other).symm, free, rest⟩

end Batch

structure GivesBack (key handle : Nat) (kernel : Kernel) (before after : World) : Prop where
  kernels : ∀ other, other ≠ handle → after.kernels.get? other = before.kernels.get? other
  connectors : after.connectors = before.connectors
  claims : ∀ port, port ∈ (after.claimsOf key).ports ↔
    port ∉ kernel.cachedPorts ∧ port ∈ (before.claimsOf key).ports
  others : ∀ other, other ≠ key → after.claimsOf other = before.claimsOf other
  host : after.host = kernel.connection.cleaned before.host

theorem releaseKernel_givesBack (answerer : Answerer) {world : World} {handle : Nat} {kernel : Kernel} {key : Nat}
    {transport : Transport} {path : String} (there : world.kernels.get? handle = some kernel)
    (owns : kernel.Owns key transport path) :
    GivesBack key handle kernel world (releaseKernel answerer handle world).2 := by
  obtain ⟨state, made⟩ := owns.isLocal
  unfold releaseKernel
  rw [there]
  simp only
  rw [made, Provisioner.cleanup_local]
  refine ⟨fun other differs => (get?_set_set handle _ _ other).trans (if_neg differs), rfl, fun port => ?_,
    fun other differs => (claimsOf_setClaims _ key _ other).trans (if_neg differs), rfl⟩
  simp only [Kernel.cachedPorts, made]
  rw [← state.mem_cleanup (world.claimsOf key) port]
  exact Iff.of_eq (congrArg (fun claims : PortClaims => port ∈ claims.ports) (claimsOf_setClaims_self _ key _))

/-- The ids stand for nothing any more and their files are gone, and no way is opened by that. -/
structure Withdraws (index : Nat) (original : Connector) (ids : List String) (before after : World) : Prop where
  slots : ∀ id, after.slot? index id = if id ∈ ids then none else before.slot? index id
  dwindles : Dwindles before.host after.host
  adds : before.host.LinksApart original.transport → AddsNone before.host after.host
  files : ∀ id ∈ ids, (before.slot? index id).isSome → after.host.NoFileAt (original.kernelPath id)

theorem Withdraws.refl (index : Nat) (original : Connector) (world : World) : Withdraws index original [] world world :=
  ⟨fun _ => rfl, .refl _, fun _ => .refl _, fun _ listed => absurd listed List.not_mem_nil⟩

theorem Withdraws.cons {index : Nat} {original : Connector} {id : String} {ids : List String}
    {first second third : World}
    (one : Withdraws index original [id] first second) (two : Withdraws index original ids second third) :
    Withdraws index original (id :: ids) first third where
  slots name := by
    rw [two.slots, one.slots]
    by_cases listed : name ∈ ids <;> by_cases same : name = id <;> simp [listed, same]
  dwindles := one.dwindles.trans two.dwindles
  adds links := (one.adds links).trans (two.adds (links.adds (one.adds links)))
  files name listed taken := by
    by_cases same : name = id
    · exact (one.files name (List.mem_singleton.mpr same) taken).dwindles two.dwindles
    · refine two.files name ((List.mem_cons.mp listed).resolve_left same) ?_
      rw [one.slots, if_neg (fun among => same (List.mem_singleton.mp among))]
      exact taken

namespace GivesBack
variable {index : Nat} {original : Connector} {start world after : World} {id : String} {handle : Nat} {kernel : Kernel}
  {key : Nat}

theorem slots (gives : GivesBack key handle kernel (world.freeSlot index id) after) (name : String) :
    after.slot? index name = if name = id then none else world.slot? index name := by
  have same : after.slot? index name = (world.freeSlot index id).slot? index name := by
    unfold slot? connector?
    rw [gives.connectors]
  rw [same, slot?_freeSlot]
  by_cases same : name = id <;> simp [same]

theorem remains (gives : GivesBack key handle kernel (world.freeSlot index id) after) {name : String} {slot : Slot}
    (still : after.slot? index name = some slot) : name ≠ id ∧ world.slot? index name = some slot := by
  rw [gives.slots] at still
  split at still
  next => cases still
  next elsewhere => exact ⟨elsewhere, still⟩

section
variable (gives : GivesBack original.claims handle kernel (world.freeSlot index id) after)
  (holding : Holding index original start world) (taken : world.slot? index id = some (.ready handle))
include gives holding taken

theorem kernel_remains {name : String} {other : Nat} (elsewhere : name ≠ id)
    (ready : world.slot? index name = some (.ready other)) : after.kernels.get? other = world.kernels.get? other := by
  refine gives.kernels other (fun same => elsewhere ?_)
  exact holding.apart name id handle (same ▸ ready) taken

theorem holds (there : world.kernels.get? handle = some kernel)
    (new : ∀ port ∈ kernel.cachedPorts, port ∉ (start.claimsOf original.claims).ports) :
    Holding index original start after where
  valid name slot still := holding.valid name slot (gives.remains still).2
  ready name slot still := by
    obtain ⟨elsewhere, before⟩ := gives.remains still
    obtain ⟨other, held, rfl, known, facts⟩ := holding.ready name slot before
    exact ⟨other, held, rfl, (gives.kernel_remains holding taken elsewhere before).trans known, facts⟩
  apart one two other first second := holding.apart one two other (gives.remains first).2 (gives.remains second).2
  kept port old := (gives.claims port).mpr ⟨fun cached => new port cached old, holding.kept port old⟩
  known port claimed := by
    obtain ⟨foreign, claimed⟩ := (gives.claims port).mp claimed
    refine (holding.known port claimed).imp_right ?_
    rintro ⟨name, other, held, before, known, cached⟩
    have elsewhere : name ≠ id := by
      rintro rfl
      cases taken.symm.trans before
      cases there.symm.trans known
      exact foreign cached
    exact ⟨name, other, held, (gives.slots name).trans ((if_neg elsewhere).trans before),
      (gives.kernel_remains holding taken elsewhere before).trans known, cached⟩
  others key differs := (gives.others key differs).trans (holding.others key differs)

end

theorem withdraws (gives : GivesBack key handle kernel (world.freeSlot index id) after) (valid : isValidId id = true)
    (owns : kernel.Owns key original.transport (original.kernelPath id)) :
    Withdraws index original [id] world after where
  slots name := by
    rw [gives.slots]
    simp only [List.mem_singleton]
  dwindles := by
    rw [gives.host]
    exact kernel.connection.cleaned_dwindles _
  adds links := by
    rw [gives.host]
    exact (isFor_of_kernelPath owns.file valid).cleaned_addsNone (owns.transport ▸ links)
  files name listed _ := by
    rw [gives.host, List.mem_singleton.mp listed]
    exact Connection.cleaned_noFileAt owns.written owns.file _

end GivesBack

theorem Withdraws.of_free {index : Nat} {original : Connector} {world : World} {id : String}
    (free : world.slot? index id = none) : Withdraws index original [id] world world where
  slots name := by
    split
    next listed => rw [List.mem_singleton.mp listed, free]
    next => rfl
  dwindles := .refl _
  adds _ := .refl _
  files name listed taken := by
    rw [List.mem_singleton.mp listed, free] at taken
    cases taken

namespace Holding
variable {index : Nat} {original : Connector} {start world : World}

theorem slot?_of_handle? (holding : Holding index original start world) {id : String}
    (absent : world.handle? index id = none) : world.slot? index id = none := by
  cases taken : world.slot? index id with
  | none => rfl
  | some slot =>
    obtain ⟨handle, _, rfl, _⟩ := holding.ready id slot taken
    rw [(world.handle?_eq_some index id handle).mpr taken] at absent
    cases absent

theorem release (holding : Holding index original start world) (answerer : Answerer) (id : String) :
    Holding index original start (World.release answerer index id world).2 ∧
      Withdraws index original [id] world (World.release answerer index id world).2 := by
  unfold World.release takeKernel findKernel
  cases found : world.handle? index id with
  | none => exact ⟨holding, .of_free (holding.slot?_of_handle? found)⟩
  | some handle =>
    have taken := (world.handle?_eq_some index id handle).mp found
    obtain ⟨handle', kernel, same, there, owns, new⟩ := holding.ready id _ taken
    cases same
    have gives := @releaseKernel_givesBack answerer (world.freeSlot index id) handle kernel _ _ _ there owns
    exact ⟨gives.holds holding taken there new, gives.withdraws (holding.valid id _ taken) owns⟩

theorem releaseEach (holding : Holding index original start world) (answerer : Answerer) (ids : List String) :
    Holding index original start (World.releaseEach answerer index ids world).2 ∧
      Withdraws index original ids world (World.releaseEach answerer index ids world).2 := by
  induction ids generalizing world with
  | nil => exact ⟨holding, .refl index original world⟩
  | cons id rest ih =>
    obtain ⟨held, withdraws⟩ := holding.release answerer id
    obtain ⟨last, others⟩ := ih held
    exact ⟨last, withdraws.cons others⟩

/-- Releasing everything leaves no kernel, no file of one, and the claims of the start. -/
theorem releaseAll (holding : Holding index original start world) (answerer : Answerer) :
    let after := (World.releaseAll answerer index world).2
    (∀ id, after.slot? index id = none) ∧
      (∀ key port, port ∈ (after.claimsOf key).ports ↔ port ∈ (start.claimsOf key).ports) ∧
      (∀ id, (world.slot? index id).isSome → after.host.NoFileAt (original.kernelPath id)) ∧
        Dwindles world.host after.host ∧
        (world.host.LinksApart original.transport → AddsNone world.host after.host) := by
  obtain ⟨last, withdraws⟩ := holding.releaseEach answerer (world.ids index)
  have listed {id : String} {slot : Slot} (taken : world.slot? index id = some slot) : id ∈ world.ids index := by
    obtain ⟨handle, _, rfl, _⟩ := holding.ready id slot taken
    exact mem_ids_of_ready taken
  have free (id : String) : (World.releaseEach answerer index (world.ids index) world).2.slot? index id = none := by
    rw [withdraws.slots]
    split
    next => rfl
    next absent =>
      cases taken : world.slot? index id with
      | none => rfl
      | some slot => exact absurd (listed taken) absent
  refine ⟨free, last.claims_of_empty free, fun id taken => ?_, withdraws.dwindles, withdraws.adds⟩
  obtain ⟨slot, known⟩ := Option.isSome_iff_exists.mp taken
  exact withdraws.files id (listed known) taken

end Holding

end Mooring.World
