import Mooring.Proofs.Connector.Interleaving
import Mooring.Proofs.Connector.LocalWork

/-! What overlapping requests keep. Claimed ports are those of kernels that are held by an id or a task, new files are
those of kernels that have written theirs, and each id is reserved for one task at most. -/

namespace Mooring

open Host (Place Adds AddsNone)

def Task.reserved? : Task → Option String
  | .launch id _ => some id
  | .enroll id _ => some id
  | .free id => some id
  | .restart _ => none
  | .release _ => none

namespace World

section
variable (index : Nat) (world : World) (tasks : List Task)

def Awaited (id : String) (handle : Nat) : Prop :=
  world.slot? index id = some (.ready handle) ∨ Task.enroll id handle ∈ tasks

def Held (handle : Nat) : Prop := (∃ id, Awaited index world tasks id handle) ∨ Task.release handle ∈ tasks

/-- Reserved ids have one task each, and kernels are held by the ids that their files are called after. -/
structure Booked : Prop where
  valid : ∀ id spec, Task.launch id spec ∈ tasks → isValidId id = true
  once : (tasks.filterMap Task.reserved?).Nodup
  preparing : ∀ task ∈ tasks, ∀ id, task.reserved? = some id → world.slot? index id = some .preparing
  named : ∀ id handle, Awaited index world tasks id handle →
    ∃ kernel, world.kernels.get? handle = some kernel ∧ kernel.connection.IsFor id

def Leaves (spent : Kernel → Prop) : Prop :=
  ∀ handle kernel, world.kernels.get? handle = some kernel → ¬ Held index world tasks handle → spent kernel

end

def Owned (world : World) (place : Place) : Prop :=
  ∃ handle kernel, world.kernels.get? handle = some kernel ∧ kernel.connection.written = true ∧
    kernel.connection.LeadsTo world.host place

/-- The claimed ports are shared out among the kernels, and all new files are theirs. -/
structure Stock (index key : Nat) (transport : Transport) (start : Host) (world : World) : Prop where
  knows : world.Knows index key transport
  nonzero : world.host.AnswersNonzero
  links : world.host.LinksApart transport
  kernels : ∀ handle kernel, world.kernels.get? handle = some kernel →
    handle < world.nextKernel ∧ kernel.Settled key transport
  claimed : ∀ port, port ∈ (world.claimsOf key).ports ↔
    ∃ handle kernel, world.kernels.get? handle = some kernel ∧ port ∈ kernel.cachedPorts
  apart : ∀ one two kernel kernel' port, world.kernels.get? one = some kernel → world.kernels.get? two = some kernel' →
    port ∈ kernel.cachedPorts → port ∈ kernel'.cachedPorts → one = two
  files : Adds world.Owned start world.host

theorem Comes.get? {index key : Nat} {transport : Transport} {id : String} {kernel : Kernel} {world after : World}
    (comes : Comes index key transport id kernel world after) (handle : Nat) :
    (after.addKernel kernel).2.kernels.get? handle =
      if handle = world.nextKernel then some kernel else world.kernels.get? handle := by
  unfold addKernel
  rw [comes.idles.nextKernel, comes.idles.kernels]
  split
  next same => rw [same, Table.get?_set_self]
  next differs => exact Table.get?_set_of_ne _ _ differs

namespace Stock
variable {index key : Nat} {transport : Transport} {start : Host} {world after : World}

theorem modifySlots (stock : Stock index key transport start world) (change : Table String Slot → Table String Slot) :
    Stock index key transport start (world.modifySlots index change) where
  knows := stock.knows.modifySlots index change
  nonzero := stock.nonzero
  links := stock.links
  kernels := stock.kernels
  claimed := stock.claimed
  apart := stock.apart
  files := stock.files

theorem idles (stock : Stock index key transport start world)
    (idles : Idles index key transport (fun _ => False) world after)
    (claims : after.claimsOf key = world.claimsOf key) : Stock index key transport start after where
  knows := idles.knows stock.knows
  nonzero := stock.nonzero.of_suffix idles.ports
  links := stock.links.adds idles.files
  kernels := by
    rw [idles.kernels, idles.nextKernel]
    exact stock.kernels
  claimed := by
    rw [claims, idles.kernels]
    exact stock.claimed
  apart := by
    rw [idles.kernels]
    exact stock.apart
  files := by
    refine (stock.files.weaken (fun place => ?_)).before idles.files
    rintro ⟨handle, kernel, there, written, path, named, leads⟩
    exact ⟨handle, kernel, by rw [idles.kernels]; exact there, written, path, named, idles.files.placeOf? leads⟩

theorem comes (stock : Stock index key transport start world) {id : String} {kernel : Kernel}
    (comes : Comes index key transport id kernel world after) :
    Stock index key transport start (after.addKernel kernel).2 := by
  have kernels := comes.get?
  obtain ⟨idles, claims, settled, isFor, written⟩ := comes
  have older {handle : Nat} {old : Kernel} (there : world.kernels.get? handle = some old) : handle ≠ world.nextKernel :=
    Nat.ne_of_lt (stock.kernels handle old there).1
  have fresh {port : UInt16} (mine : port ∈ kernel.cachedPorts) : port ∉ (world.claimsOf key).ports := by
    have nodup := (after.claimsOf key).nodup
    rw [claims] at nodup
    exact fun old => (List.nodup_append.mp nodup).2.2 port (List.mem_reverse.mpr mine) port old rfl
  refine ⟨?_, stock.nonzero.of_suffix idles.ports, stock.links.adds idles.files, ?_, ?_, ?_, ?_⟩
  · exact idles.knows stock.knows
  · intro handle other there
    rw [kernels] at there
    have next : (after.addKernel kernel).2.nextKernel = world.nextKernel + 1 := congrArg (· + 1) idles.nextKernel
    rw [next]
    split at there
    next same =>
      cases there
      exact ⟨same ▸ Nat.lt_succ_self _, settled⟩
    next =>
      obtain ⟨below, settled'⟩ := stock.kernels handle other there
      exact ⟨Nat.lt_succ_of_lt below, settled'⟩
  · intro port
    have listed : port ∈ ((after.addKernel kernel).2.claimsOf key).ports ↔
        port ∈ kernel.cachedPorts ∨ port ∈ (world.claimsOf key).ports := by
      calc port ∈ (after.claimsOf key).ports
        _ ↔ port ∈ kernel.cachedPorts.reverse ++ (world.claimsOf key).ports := by rw [claims]
        _ ↔ port ∈ kernel.cachedPorts ∨ port ∈ (world.claimsOf key).ports := by
          rw [List.mem_append, List.mem_reverse]
    rw [listed, stock.claimed]
    constructor
    · rintro (mine | ⟨handle, old, there, has⟩)
      · exact ⟨world.nextKernel, kernel, by rw [kernels, if_pos rfl], mine⟩
      · exact ⟨handle, old, by rw [kernels, if_neg (older there)]; exact there, has⟩
    · rintro ⟨handle, other, there, has⟩
      rw [kernels] at there
      split at there
      next =>
        cases there
        exact .inl has
      next => exact .inr ⟨handle, other, there, has⟩
  · intro one two first second port there there' has has'
    rw [kernels] at there there'
    split at there
    next same =>
      cases there
      split at there'
      next same' => exact same.trans same'.symm
      next => exact absurd ((stock.claimed port).mpr ⟨two, second, there', has'⟩) (fresh has)
    next =>
      split at there'
      next =>
        cases there'
        exact absurd ((stock.claimed port).mpr ⟨one, first, there, has⟩) (fresh has')
      next => exact stock.apart one two first second port there there' has has'
  · refine (stock.files.weaken (fun place => ?_)).trans (idles.files.weaken (fun place => ?_))
    · rintro ⟨handle, old, there, wrote, path, named, leads⟩
      exact ⟨handle, old, by rw [kernels, if_neg (older there)]; exact there, wrote, path, named,
        idles.files.placeOf? leads⟩
    · exact fun leads => ⟨world.nextKernel, kernel, by rw [kernels, if_pos rfl], written, leads⟩

theorem replace (stock : Stock index key transport start world) {handle : Nat} {kernel later : Kernel}
    (there : world.kernels.get? handle = some kernel) (works : WorksOn handle later world after)
    (settled : later.Settled key transport) (fewer : ∀ port, port ∈ later.cachedPorts → port ∈ kernel.cachedPorts)
    (claims : ∀ port, port ∈ (after.claimsOf key).ports ↔
      port ∈ later.cachedPorts ∨ port ∉ kernel.cachedPorts ∧ port ∈ (world.claimsOf key).ports)
    {new : Place → Prop} (adds : Adds new world.host after.host) (files : Adds after.Owned start after.host) :
    Stock index key transport start after where
  knows := by
    unfold Knows connector?
    rw [works.connectors]
    exact stock.knows
  nonzero := stock.nonzero.of_suffix works.ports
  links := stock.links.adds adds
  kernels other old known := by
    rw [works.kernels] at known
    rw [works.nextKernel]
    split at known
    next same =>
      cases known
      exact ⟨same ▸ (stock.kernels handle kernel there).1, settled⟩
    next => exact stock.kernels other old known
  claimed port := by
    rw [claims, stock.claimed]
    constructor
    · rintro (kept | ⟨gone, other, old, known, has⟩)
      · exact ⟨handle, later, by rw [works.kernels, if_pos rfl], kept⟩
      · have elsewhere : other ≠ handle := by
          rintro rfl
          cases there.symm.trans known
          exact gone has
        exact ⟨other, old, by rw [works.kernels, if_neg elsewhere]; exact known, has⟩
    · rintro ⟨other, old, known, has⟩
      rw [works.kernels] at known
      split at known
      next =>
        cases known
        exact .inl has
      next elsewhere =>
        exact .inr ⟨fun mine => elsewhere (stock.apart other handle old kernel port known there has mine), other, old,
          known, has⟩
  apart one two first second port known known' has has' := by
    rw [works.kernels] at known known'
    split at known
    next same =>
      cases known
      split at known'
      next same' => exact same.trans same'.symm
      next => exact same.trans (stock.apart handle two kernel second port there known' (fewer port has) has')
    next =>
      split at known'
      next same' =>
        cases known'
        exact (stock.apart one handle first kernel port known there has (fewer port has')).trans same'.symm
      next => exact stock.apart one two first second port known known' has has'
  files := files

theorem restart (stock : Stock index key transport start world) (answerer : Answerer) {handle : Nat} {kernel : Kernel}
    (there : world.kernels.get? handle = some kernel) :
    Stock index key transport start (restartKernel answerer handle world).2 := by
  obtain ⟨later, works, settled, ports, file, writes, claims, adds⟩ :=
    restartKernel_settled answerer there (stock.kernels handle kernel there).2 stock.links
  have leads {other : Connection} {place : Place} (leads : other.LeadsTo world.host place) :
      other.LeadsTo (restartKernel answerer handle world).2.host place := by
    obtain ⟨path, named, leads⟩ := leads
    exact ⟨path, named, adds.placeOf? leads⟩
  refine stock.replace there works settled (fun port => ports ▸ id) (fun port => ?_) adds ?_
  · rw [claims, ports]
    constructor
    · exact fun listed => or_iff_not_imp_left.mpr (fun gone => ⟨gone, listed⟩)
    · rintro (mine | ⟨_, listed⟩)
      · exact (stock.claimed port).mpr ⟨handle, kernel, there, mine⟩
      · exact listed
  · refine (stock.files.weaken (fun place => ?_)).trans (adds.weaken (fun place mine => ?_))
    · rintro ⟨other, old, known, written, path, named, leadsTo⟩
      by_cases same : other = handle
      · subst same
        cases there.symm.trans known
        exact ⟨other, later, by rw [works.kernels, if_pos rfl], writes written, path, file.trans named,
          adds.placeOf? leadsTo⟩
      · exact ⟨other, old, by rw [works.kernels, if_neg same]; exact known, written, leads ⟨path, named, leadsTo⟩⟩
    · exact ⟨handle, later, by rw [works.kernels, if_pos rfl], mine⟩

theorem release (stock : Stock index key transport start world) (answerer : Answerer) {handle : Nat} {kernel : Kernel}
    (there : world.kernels.get? handle = some kernel) :
    Stock index key transport start (releaseKernel answerer handle world).2 := by
  obtain ⟨later, works, settled, empty, file, unwritten, claims, adds, removes⟩ :=
    releaseKernel_settled answerer there (stock.kernels handle kernel there).2 stock.links
  refine stock.replace there works settled (fun port => by simp [empty]) (fun port => by simp [claims, empty]) adds ?_
  -- A file of the kernel is gone, and those of others still are where they were.
  have whole : Adds (fun place => World.Owned world place) start (releaseKernel answerer handle world).2.host :=
    stock.files.before adds
  refine ⟨whole.workDir, whole.ways, whole.links, fun place content reads => ?_⟩
  rcases whole.contents place content reads with ⟨other, old, known, written, path, named, leads⟩ | old
  · left
    by_cases same : other = handle
    · subst same
      cases there.symm.trans known
      exact absurd (Host.hasFile_of_contentAt reads) (removes written place ⟨path, named, leads⟩)
    · exact ⟨other, old, by rw [works.kernels, if_neg same]; exact known, written, path, named, adds.placeOf? leads⟩
  · exact .inr old

end Stock

/-- What holds between any two turns of a process. -/
structure Law (spent : Kernel → Prop) (index key : Nat) (transport : Transport) (start : Host) (world : World)
    (tasks : List Task) : Prop where
  stock : Stock index key transport start world
  booked : Booked index world tasks
  leaves : Leaves index world tasks spent

namespace Law
variable {spent : Kernel → Prop} {index key : Nat} {transport : Transport} {start : Host} {world after : World}
  {tasks later : List Task}

/-- What a law says about tasks depends on which there are, and on the reserved ids. -/
theorem retask (law : Law spent index key transport start world tasks)
    (once : (later.filterMap Task.reserved?).Nodup)
    (launches : ∀ id spec, Task.launch id spec ∈ later → Task.launch id spec ∈ tasks)
    (reserved : ∀ task ∈ later, ∀ id, task.reserved? = some id → ∃ old ∈ tasks, old.reserved? = some id)
    (enrolls : ∀ id handle, Task.enroll id handle ∈ later ↔ Task.enroll id handle ∈ tasks)
    (releases : ∀ handle, Task.release handle ∈ tasks → Task.release handle ∈ later) :
    Law spent index key transport start world later where
  stock := law.stock
  booked :=
    { valid := fun id spec listed => law.booked.valid id spec (launches id spec listed)
      once := once
      preparing := fun task listed id reserves => by
        obtain ⟨old, there, same⟩ := reserved task listed id reserves
        exact law.booked.preparing old there id same
      named := fun id handle awaited => law.booked.named id handle (awaited.imp_right (enrolls id handle).mp) }
  leaves handle kernel there free := law.leaves handle kernel there (fun held => free (by
    rcases held with ⟨id, ready | enroll⟩ | release
    · exact .inl ⟨id, .inl ready⟩
    · exact .inl ⟨id, .inr ((enrolls id handle).mpr enroll)⟩
    · exact .inr (releases handle release)))

theorem perm (law : Law spent index key transport start world tasks) (same : tasks.Perm later) :
    Law spent index key transport start world later :=
  law.retask ((same.filterMap _).nodup law.booked.once) (fun _ _ => same.mem_iff.mpr)
    (fun task listed _ reserves => ⟨task, same.mem_iff.mpr listed, reserves⟩)
    (fun _ _ => same.mem_iff.symm) (fun _ => same.mem_iff.mp)

theorem idles (law : Law spent index key transport start world tasks)
    (idles : Idles index key transport (fun _ => False) world after)
    (claims : after.claimsOf key = world.claimsOf key) :
    Law spent index key transport start after tasks where
  stock := law.stock.idles idles claims
  booked :=
    { valid := law.booked.valid
      once := law.booked.once
      preparing := fun task listed id reserves => (idles.slots id).trans (law.booked.preparing task listed id reserves)
      named := fun name handle awaited => by
        rw [Awaited, idles.slots] at awaited
        rw [idles.kernels]
        exact law.booked.named name handle awaited }
  leaves handle kernel there free := by
    rw [idles.kernels] at there
    refine law.leaves handle kernel there (fun held => free ?_)
    simpa only [Held, Awaited, idles.slots] using held

theorem held (law : Law spent index key transport start world tasks) {handle : Nat} {kernel : Kernel}
    (there : world.kernels.get? handle = some kernel) (unspent : ¬ spent kernel) : Held index world tasks handle := by
  by_contra free
  exact unspent (law.leaves handle kernel there free)

theorem ask (law : Law spent index key transport start world tasks) (handle : Nat) :
    Law spent index key transport start world (.restart handle :: tasks) := by
  refine law.retask law.booked.once (fun id spec listed => by simpa using listed) (fun task listed id reserves => ?_)
    (fun id other => by simp) (fun other listed => ?_)
  · rcases List.mem_cons.mp listed with rfl | old
    · cases reserves
    · exact ⟨task, old, reserves⟩
  · exact List.mem_cons_of_mem _ listed

theorem isSome (law : Law spent index key transport start world tasks) : (world.connector? index).isSome := by
  obtain ⟨connector, known, _⟩ := law.stock.knows
  rw [known]
  rfl

theorem reserve (law : Law spent index key transport start world tasks) {id : String} (spec : KernelSpec)
    (valid : isValidId id = true) (free : world.slot? index id = none) :
    Law spent index key transport start (world.setSlot index id .preparing) (.launch id spec :: tasks) := by
  have slots (name : String) : (world.setSlot index id .preparing).slot? index name =
      if name = id then some .preparing else world.slot? index name := by
    rw [world.slot?_setSlot law.isSome]
    simp
  have taken {name : String} (there : world.slot? index name ≠ none) : name ≠ id := by
    rintro rfl
    exact there free
  refine ⟨law.stock.modifySlots _, ⟨?_, ?_, ?_, ?_⟩, ?_⟩
  · intro name other listed
    rcases List.mem_cons.mp listed with same | old
    · cases same
      exact valid
    · exact law.booked.valid name other old
  · refine List.nodup_cons.mpr ⟨fun listed => ?_, law.booked.once⟩
    obtain ⟨task, there, reserves⟩ := List.mem_filterMap.mp listed
    have preparing := law.booked.preparing task there id reserves
    rw [free] at preparing
    cases preparing
  · intro task listed name reserves
    rw [slots]
    rcases List.mem_cons.mp listed with rfl | old
    · cases reserves
      rw [if_pos rfl]
    · have preparing := law.booked.preparing task old name reserves
      rw [if_neg (taken (by rw [preparing]; exact Option.some_ne_none _)), preparing]
  · intro name handle awaited
    rcases awaited with ready | enroll
    · rw [slots] at ready
      split at ready
      next => cases ready
      next => exact law.booked.named name handle (.inl ready)
    · exact law.booked.named name handle (.inr (by simpa using enroll))
  · intro handle kernel there unheld
    refine law.leaves handle kernel there (fun held => unheld ?_)
    rcases held with ⟨name, ready | enroll⟩ | release
    · refine .inl ⟨name, .inl ?_⟩
      rw [slots, if_neg (taken (by rw [ready]; exact Option.some_ne_none _)), ready]
    · exact .inl ⟨name, .inr (List.mem_cons_of_mem _ enroll)⟩
    · exact .inr (List.mem_cons_of_mem _ release)

theorem slot?_free (world : World) (index : Nat) (id name : String) :
    (world.freeSlot index id).slot? index name = if name = id then none else world.slot? index name := by
  rw [slot?_freeSlot]
  simp

theorem take (law : Law spent index key transport start world tasks) {id : String} {handle : Nat}
    (ready : world.slot? index id = some (.ready handle)) :
    Law spent index key transport start (world.freeSlot index id) (.release handle :: tasks) := by
  refine ⟨law.stock.modifySlots _, ⟨?_, law.booked.once, ?_, ?_⟩, ?_⟩
  · exact fun name spec listed => law.booked.valid name spec (by simpa using listed)
  · intro task listed name reserves
    rcases List.mem_cons.mp listed with rfl | old
    · cases reserves
    · have preparing := law.booked.preparing task old name reserves
      rw [slot?_free]
      split
      next same =>
        rw [same, ready] at preparing
        cases preparing
      next => exact preparing
  · intro name other awaited
    refine law.booked.named name other ?_
    rcases awaited with still | enroll
    · rw [slot?_free] at still
      split at still
      next => cases still
      next => exact .inl still
    · exact .inr (by simpa using enroll)
  · intro other kernel there unheld
    refine law.leaves other kernel there (fun held => unheld ?_)
    rcases held with ⟨name, still | enroll⟩ | release
    · by_cases same : name = id
      · rw [same, ready] at still
        cases still
        exact .inr List.mem_cons_self
      · exact .inl ⟨name, .inl (by rw [slot?_free, if_neg same]; exact still)⟩
    · exact .inl ⟨name, .inr (List.mem_cons_of_mem _ enroll)⟩
    · exact .inr (List.mem_cons_of_mem _ release)

theorem reserved_once {task : Task} (law : Law spent index key transport start world (task :: tasks)) {id : String}
    (reserves : task.reserved? = some id) :
    (tasks.filterMap Task.reserved?).Nodup ∧ ∀ other ∈ tasks, other.reserved? ≠ some id := by
  have once := law.booked.once
  rw [List.filterMap_cons, reserves] at once
  obtain ⟨new, nodup⟩ := List.nodup_cons.mp once
  exact ⟨nodup, fun other listed same => new (List.mem_filterMap.mpr ⟨other, listed, same⟩)⟩

theorem fails {id : String} {spec : KernelSpec}
    (law : Law spent index key transport start world (.launch id spec :: tasks)) :
    Law spent index key transport start world (.free id :: tasks) := by
  refine law.retask law.booked.once (fun name other listed => ?_) (fun task listed name reserves => ?_)
    (fun name other => by simp) (fun other listed => ?_)
  · exact List.mem_cons_of_mem _ (by simpa using listed)
  · rcases List.mem_cons.mp listed with rfl | old
    · exact ⟨_, List.mem_cons_self, reserves⟩
    · exact ⟨task, List.mem_cons_of_mem _ old, reserves⟩
  · exact List.mem_cons_of_mem _ (by simpa using listed)

theorem comes {id : String} {spec : KernelSpec}
    (law : Law spent index key transport start world (.launch id spec :: tasks))
    {kernel : Kernel} (comes : Comes index key transport id kernel world after) :
    Law spent index key transport start (after.addKernel kernel).2
      (.enroll id (after.addKernel kernel).1 :: tasks) := by
  have new : (after.addKernel kernel).1 = world.nextKernel := comes.idles.nextKernel
  have slots (name : String) : (after.addKernel kernel).2.slot? index name = world.slot? index name :=
    comes.idles.slots name
  rw [new]
  refine ⟨law.stock.comes comes, ⟨?_, law.booked.once, ?_, ?_⟩, ?_⟩
  · exact fun name other listed => law.booked.valid name other (List.mem_cons_of_mem _ (by simpa using listed))
  · intro task listed name reserves
    rw [slots]
    rcases List.mem_cons.mp listed with rfl | old
    · exact law.booked.preparing _ List.mem_cons_self name reserves
    · exact law.booked.preparing task (List.mem_cons_of_mem _ old) name reserves
  · intro name handle awaited
    have known (old : Awaited index world (.launch id spec :: tasks) name handle) :
        ∃ kernel', (after.addKernel kernel).2.kernels.get? handle = some kernel' ∧ kernel'.connection.IsFor name := by
      obtain ⟨kernel', there, isFor⟩ := law.booked.named name handle old
      have below := (law.stock.kernels handle kernel' there).1
      exact ⟨kernel', by rw [comes.get?, if_neg (Nat.ne_of_lt below)]; exact there, isFor⟩
    rcases awaited with ready | enroll
    · exact known (.inl (slots name ▸ ready))
    · rcases List.mem_cons.mp enroll with same | old
      · cases same
        exact ⟨kernel, by rw [comes.get?, if_pos rfl], comes.isFor⟩
      · exact known (.inr (List.mem_cons_of_mem _ old))
  · intro handle kernel' there unheld
    rw [comes.get?] at there
    split at there
    next same =>
      rw [same] at unheld
      exact absurd (.inl ⟨id, .inr List.mem_cons_self⟩) unheld
    next =>
      refine law.leaves handle kernel' there (fun held => unheld ?_)
      rcases held with ⟨name, ready | enroll⟩ | release
      · exact .inl ⟨name, .inl ((slots name).trans ready)⟩
      · exact .inl ⟨name, .inr (List.mem_cons_of_mem _ (by simpa using enroll))⟩
      · exact .inr (List.mem_cons_of_mem _ (by simpa using release))

theorem enroll {id : String} {handle : Nat}
    (law : Law spent index key transport start world (.enroll id handle :: tasks)) :
    Law spent index key transport start (world.setSlot index id (.ready handle)) tasks := by
  obtain ⟨once, others⟩ := law.reserved_once rfl
  have preparing := law.booked.preparing _ List.mem_cons_self id rfl
  have slots (name : String) : (world.setSlot index id (.ready handle)).slot? index name =
      if name = id then some (.ready handle) else world.slot? index name := by
    rw [world.slot?_setSlot law.isSome]
    simp
  refine ⟨law.stock.modifySlots _, ⟨?_, once, ?_, ?_⟩, ?_⟩
  · exact fun name spec listed => law.booked.valid name spec (List.mem_cons_of_mem _ listed)
  · intro task listed name reserves
    rw [slots, if_neg (fun same : name = id => others task listed (same ▸ reserves))]
    exact law.booked.preparing task (List.mem_cons_of_mem _ listed) name reserves
  · intro name other awaited
    refine law.booked.named name other ?_
    rcases awaited with ready | enroll
    · rw [slots] at ready
      split at ready
      next same =>
        cases ready
        exact .inr (same ▸ List.mem_cons_self)
      next => exact .inl ready
    · exact .inr (List.mem_cons_of_mem _ enroll)
  · intro other kernel there unheld
    refine law.leaves other kernel there (fun held => unheld ?_)
    rcases held with ⟨name, ready | enroll⟩ | release
    · have elsewhere : name ≠ id := by
        rintro rfl
        rw [preparing] at ready
        cases ready
      exact .inl ⟨name, .inl (by rw [slots, if_neg elsewhere]; exact ready)⟩
    · rcases List.mem_cons.mp enroll with same | old
      · cases same
        exact .inl ⟨id, .inl (by rw [slots, if_pos rfl])⟩
      · exact .inl ⟨name, .inr old⟩
    · exact .inr (by simpa using release)

theorem free {id : String} (law : Law spent index key transport start world (.free id :: tasks)) :
    Law spent index key transport start (world.freeSlot index id) tasks := by
  obtain ⟨once, others⟩ := law.reserved_once rfl
  have preparing := law.booked.preparing _ List.mem_cons_self id rfl
  refine ⟨law.stock.modifySlots _, ⟨?_, once, ?_, ?_⟩, ?_⟩
  · exact fun name spec listed => law.booked.valid name spec (List.mem_cons_of_mem _ listed)
  · intro task listed name reserves
    rw [slot?_free, if_neg (fun same : name = id => others task listed (same ▸ reserves))]
    exact law.booked.preparing task (List.mem_cons_of_mem _ listed) name reserves
  · intro name other awaited
    refine law.booked.named name other ?_
    rcases awaited with ready | enroll
    · rw [slot?_free] at ready
      split at ready
      next => cases ready
      next => exact .inl ready
    · exact .inr (List.mem_cons_of_mem _ enroll)
  · intro other kernel there unheld
    refine law.leaves other kernel there (fun held => unheld ?_)
    rcases held with ⟨name, ready | enroll⟩ | release
    · have elsewhere : name ≠ id := by
        rintro rfl
        rw [preparing] at ready
        cases ready
      exact .inl ⟨name, .inl (by rw [slot?_free, if_neg elsewhere]; exact ready)⟩
    · exact .inl ⟨name, .inr (by simpa using enroll)⟩
    · exact .inr (by simpa using release)

theorem works {task : Task} (law : Law spent index key transport start world (task :: tasks))
    (unreserved : task.reserved? = none) {handle : Nat} (others : ∀ other, task = .release other → other = handle)
    {kernel kernel' : Kernel}
    (there : world.kernels.get? handle = some kernel) (works : WorksOn handle kernel' world after)
    (stock : Stock index key transport start after) (file : kernel'.connection.file = kernel.connection.file)
    (done : ¬ Held index world tasks handle → spent kernel') : Law spent index key transport start after tasks := by
  have noEnroll {id : String} {other : Nat} (listed : Task.enroll id other ∈ task :: tasks) :
      Task.enroll id other ∈ tasks := by
    rcases List.mem_cons.mp listed with rfl | old
    · cases unreserved
    · exact old
  refine ⟨stock, ⟨?_, ?_, ?_, ?_⟩, ?_⟩
  · exact fun id spec listed => law.booked.valid id spec (List.mem_cons_of_mem _ listed)
  · have once := law.booked.once
    rwa [List.filterMap_cons_none unreserved] at once
  · intro other listed id reserves
    rw [works.slots]
    exact law.booked.preparing other (List.mem_cons_of_mem _ listed) id reserves
  · intro id other awaited
    rw [Awaited, works.slots] at awaited
    obtain ⟨old, known, isFor⟩ := law.booked.named id other (awaited.imp_right (List.mem_cons_of_mem _))
    rw [works.kernels]
    split
    next same =>
      rw [same, there] at known
      cases known
      exact ⟨kernel', rfl, isFor.congr file⟩
    next => exact ⟨old, known, isFor⟩
  · intro other old known unheld
    have free : ¬ Held index world tasks other := by
      rw [Held] at unheld ⊢
      simpa only [Awaited, works.slots] using unheld
    rw [works.kernels] at known
    split at known
    next same =>
      cases known
      exact done (same ▸ free)
    next elsewhere =>
      refine law.leaves other old known (fun held => free ?_)
      rcases held with ⟨id, ready | enroll⟩ | release
      · exact .inl ⟨id, .inl ready⟩
      · exact .inl ⟨id, .inr (noEnroll enroll)⟩
      · rcases List.mem_cons.mp release with same | old
        · exact absurd (others other same.symm) elsewhere
        · exact .inr old

theorem drop {task : Task} (law : Law spent index key transport start world (task :: tasks))
    (unreserved : task.reserved? = none)
    {handle : Nat} (others : ∀ other, task = .release other → other = handle)
    (absent : world.kernels.get? handle = none) :
    Law spent index key transport start world tasks := by
  refine ⟨law.stock, ⟨?_, ?_, ?_, ?_⟩, ?_⟩
  · exact fun id spec listed => law.booked.valid id spec (List.mem_cons_of_mem _ listed)
  · have once := law.booked.once
    rwa [List.filterMap_cons_none unreserved] at once
  · exact fun other listed => law.booked.preparing other (List.mem_cons_of_mem _ listed)
  · exact fun id other awaited => law.booked.named id other (awaited.imp_right (List.mem_cons_of_mem _))
  · intro other kernel there unheld
    refine law.leaves other kernel there (fun held => unheld ?_)
    rcases held with ⟨id, ready | enroll⟩ | release
    · exact .inl ⟨id, .inl ready⟩
    · rcases List.mem_cons.mp enroll with rfl | old
      · cases unreserved
      · exact .inl ⟨id, .inr old⟩
    · rcases List.mem_cons.mp release with same | old
      · rw [others other same.symm, absent] at there
        cases there
      · exact .inr old

/-- A restart leaves a kernel spent that was, or it is one of a kernel that is still held. -/
theorem restart {handle : Nat}
    (law : Law spent index key transport start world (.restart handle :: tasks)) (answerer : Answerer)
    (keeps : Held index world tasks handle ∨
      ∀ kernel later : Kernel, later.cachedPorts = kernel.cachedPorts → spent kernel → spent later) :
    Law spent index key transport start (restartKernel answerer handle world).2 tasks := by
  have others : ∀ other, Task.restart handle = .release other → other = handle := fun other same => by cases same
  cases there : world.kernels.get? handle with
  | none =>
    rw [restartKernel, there]
    exact law.drop rfl others there
  | some kernel =>
    obtain ⟨later, works, _, ports, file, _⟩ :=
      restartKernel_settled answerer there (law.stock.kernels handle kernel there).2 law.stock.links
    refine law.works rfl others there works (law.stock.restart answerer there) file (fun unheld => ?_)
    rcases keeps with held | keeps
    · exact absurd held unheld
    · refine keeps kernel later ports (law.leaves handle kernel there (fun held => unheld ?_))
      simpa [Held, Awaited] using held

theorem release {handle : Nat}
    (law : Law spent index key transport start world (.release handle :: tasks)) (answerer : Answerer)
    (done : ∀ later : Kernel, later.cachedPorts = [] → later.connection.written = false → spent later) :
    Law spent index key transport start (releaseKernel answerer handle world).2 tasks := by
  have others : ∀ other, Task.release handle = .release other → other = handle := fun other same => by cases same; rfl
  cases there : world.kernels.get? handle with
  | none =>
    rw [releaseKernel, there]
    exact law.drop rfl others there
  | some kernel =>
    obtain ⟨later, works, _, empty, file, unwritten, _⟩ :=
      releaseKernel_settled answerer there (law.stock.kernels handle kernel there).2 law.stock.links
    exact law.works rfl others there works (law.stock.release answerer there) file (fun _ => done later empty unwritten)

end Law

end World

end Mooring
