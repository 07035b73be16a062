import Mooring.Proofs.Connector.Passages
import Mooring.Proofs.Connector.SharedEndpoints
import Mooring.Proofs.Provisioner.Lasting

/-! The kernels of all connectors over whole runs. Every id that is ready stands for a kernel of its own, with a file
that is named for the id. The kernels of the built-in provisioner keep their credentials, and when one is prepared,
its file holds them. -/

namespace Mooring

namespace Bench

/-- A hook writes the file of its kernel, and does nothing else to the connection. -/
theorem run_lasts (answerer : Answerer) (hook : Hook) (bench : Bench) {id : String} (sound : bench.connection.Sound)
    (isFor : bench.connection.IsFor id) :
    (run answerer hook bench).2.connection.file = bench.connection.file ∧
    (run answerer hook bench).2.connection.Sound := by
  induction hook generalizing bench with
  | finish result => exact ⟨rfl, sound⟩
  | act action next ih =>
    obtain ⟨file, still⟩ : (bench.perform answerer action).2.connection.file = bench.connection.file ∧
        (bench.perform answerer action).2.connection.Sound := by
      cases action with
      | writeFile => exact ⟨isFor.write_file bench.world.host, sound.write bench.world.host⟩
      | keepSnapshot live => exact ⟨rfl, sound⟩
      | call choice call =>
        unfold perform
        simp only
        split <;> exact ⟨rfl, sound⟩
      | tell event => exact ⟨rfl, sound⟩
    obtain ⟨same, last⟩ := ih (bench.perform answerer action).1 _ still (isFor.congr file)
    exact ⟨same.trans file, last⟩

end Bench

/-- Who works on a kernel stays, and the name of its file does. For the built-in provisioner so does all that lasts of
the connection. -/
structure Kernel.Lasts (before after : Kernel) : Prop where
  isLocal : after.provisioner.IsLocal ↔ before.provisioner.IsLocal
  file : after.connection.file = before.connection.file
  connection : before.provisioner.IsLocal → before.connection.Lasts after.connection

namespace Kernel.Lasts
variable {first second third : Kernel}

theorem refl (kernel : Kernel) : kernel.Lasts kernel := ⟨Iff.rfl, rfl, fun _ => .refl _⟩

theorem trans (one : first.Lasts second) (two : second.Lasts third) : first.Lasts third where
  isLocal := two.isLocal.trans one.isLocal
  file := two.file.trans one.file
  connection isLocal := (one.connection isLocal).trans (two.connection (one.isLocal.mpr isLocal))

theorem between (one : first.Lasts second) (two : first.Lasts third)
    (same : first.provisioner.IsLocal → second = first) :
    second.Lasts third where
  isLocal := two.isLocal.trans one.isLocal.symm
  file := two.file.trans one.file.symm
  connection isLocal := by
    have wasLocal := one.isLocal.mp isLocal
    rw [same wasLocal]
    exact two.connection wasLocal

end Kernel.Lasts

structure Provisioner.Preserves (provisioner : Provisioner) (connection : Connection) (world : World)
    (outcome : Except Error Unit × Provisioner × Connection × World) : Prop where
  isLocal : outcome.2.1.IsLocal ↔ provisioner.IsLocal
  file : outcome.2.2.1.file = connection.file
  sound : outcome.2.2.1.Sound
  lasts : provisioner.IsLocal → connection.Lasts outcome.2.2.1
  kernels : provisioner.IsLocal → outcome.2.2.2.kernels = world.kernels

namespace Provisioner
variable {connection : Connection} {id : String} (answerer : Answerer) (provisioner : Provisioner) (world : World)
  (sound : connection.Sound) (isFor : connection.IsFor id)
include sound isFor

theorem preLaunch_preserves :
    provisioner.Preserves connection world (provisioner.preLaunch answerer connection world) := by
  cases provisioner with
  | local_ key state =>
    obtain ⟨lasts, still⟩ := LocalProvisioner.Stage.preLaunch_lasts
      ⟨state, connection, world.claimsOf key, world.host⟩ sound isFor
    exact ⟨iff_of_true ⟨key, _, rfl⟩ ⟨key, _, rfl⟩, lasts.file, still, fun _ => lasts, fun _ => rfl⟩
  | plugin work kernelId name spec config launches info =>
    obtain ⟨file, still⟩ := Bench.run_lasts answerer (work.preLaunch kernelId launches)
      ⟨connection, info, world.tell (.launching kernelId)⟩ sound isFor
    exact ⟨iff_of_false plugin_foreign plugin_foreign, file, still, fun other => absurd other plugin_foreign,
      fun other => absurd other plugin_foreign⟩

theorem cleanup_preserves (restart : Bool) :
    provisioner.Preserves connection world (provisioner.cleanup answerer connection restart world) := by
  cases provisioner with
  | local_ key state => exact ⟨iff_of_true ⟨key, _, rfl⟩ ⟨key, _, rfl⟩, rfl, sound, fun _ => .refl _, fun _ => rfl⟩
  | plugin work kernelId name spec config launches info =>
    obtain ⟨file, still⟩ := Bench.run_lasts answerer (work.cleanup kernelId restart)
      ⟨connection, info, world.tell (.cleaning kernelId restart)⟩ sound isFor
    exact ⟨iff_of_false plugin_foreign plugin_foreign, file, still, fun other => absurd other plugin_foreign,
      fun other => absurd other plugin_foreign⟩

end Provisioner

structure Kernel.Preserved (kernel : Kernel) (world : World) (outcome : Except Error Unit × Kernel × World) : Prop where
  lasts : kernel.Lasts outcome.2.1
  sound : outcome.2.1.connection.Sound
  kernels : kernel.provisioner.IsLocal → outcome.2.2.kernels = world.kernels

namespace Kernel
variable {kernel : Kernel} {id : String} (answerer : Answerer) (world : World) (sound : kernel.connection.Sound)
  (isFor : kernel.connection.IsFor id)
include sound isFor

theorem restarted_preserved : kernel.Preserved world (kernel.restarted answerer world) := by
  have cleaned := kernel.provisioner.cleanup_preserves answerer world sound isFor true
  unfold restarted
  generalize kernel.provisioner.cleanup answerer kernel.connection true world = outcome at cleaned ⊢
  obtain ⟨result, provisioner, connection, later⟩ := outcome
  cases result with
  | error error => exact ⟨⟨cleaned.isLocal, cleaned.file, cleaned.lasts⟩, cleaned.sound, cleaned.kernels⟩
  | ok =>
    have launched := provisioner.preLaunch_preserves answerer later cleaned.sound (isFor.congr cleaned.file)
    have stays := cleaned.isLocal.mpr
    exact ⟨⟨launched.isLocal.trans cleaned.isLocal, launched.file.trans cleaned.file,
      fun isLocal => (cleaned.lasts isLocal).trans (launched.lasts (stays isLocal))⟩, launched.sound,
      fun isLocal => (launched.kernels (stays isLocal)).trans (cleaned.kernels isLocal)⟩

theorem released_preserved : kernel.Preserved world (kernel.released answerer world) := by
  have cleaned := kernel.provisioner.cleanup_preserves answerer world sound isFor false
  unfold released
  generalize kernel.provisioner.cleanup answerer kernel.connection false world = outcome at cleaned ⊢
  obtain ⟨result, provisioner, connection, later⟩ := outcome
  exact ⟨⟨cleaned.isLocal, (connection.cleanupFile_file later.host).trans cleaned.file,
    fun isLocal => (cleaned.lasts isLocal).trans (connection.cleanupFile_lasts later.host)⟩,
    cleaned.sound.cleanupFile later.host, cleaned.kernels⟩

end Kernel

namespace World

/-- Connectors have numbers that are in use, and ids that are listed once. An id that is ready stands for a kernel of
its own, which has a file that is named for the id. -/
structure Enrolled (world : World) : Prop where
  below : ∀ index, (world.connector? index).isSome → index < world.nextConnector
  distinct : ∀ index connector, world.connector? index = some connector → connector.slots.keys.Nodup
  kernels : ∀ handle kernel, world.kernels.get? handle = some kernel →
    handle < world.nextKernel ∧ kernel.connection.Sound ∧ ∃ id, kernel.connection.IsFor id
  ready : ∀ index id handle, world.slot? index id = some (.ready handle) →
    ∃ kernel, world.kernels.get? handle = some kernel ∧ kernel.connection.IsFor id
  unique : ∀ index id other name handle, world.slot? index id = some (.ready handle) →
    world.slot? other name = some (.ready handle) → index = other ∧ id = name

structure Continues (before after : World) : Prop where
  known : ∀ index, (before.connector? index).isSome → (after.connector? index).isSome
  kernels : ∀ handle kernel, before.kernels.get? handle = some kernel →
    ∃ later, after.kernels.get? handle = some later ∧ kernel.Lasts later

theorem Continues.trans {first second third : World} (one : first.Continues second) (two : second.Continues third) :
    first.Continues third where
  known index there := two.known index (one.known index there)
  kernels handle kernel there := by
    obtain ⟨later, held, lasts⟩ := one.kernels handle kernel there
    obtain ⟨last, still, more⟩ := two.kernels handle later held
    exact ⟨last, still, lasts.trans more⟩

theorem Continues.of_kernels {before after : World}
    (known : ∀ index, (before.connector? index).isSome → (after.connector? index).isSome)
    (kernels : after.kernels = before.kernels) : before.Continues after :=
  ⟨known, fun _ kernel there => ⟨kernel, kernels ▸ there, .refl kernel⟩⟩

/-- Where a kernel is said to be prepared, its file holds its credentials if the built-in provisioner launched it. -/
def Printed (world : World) (index : Nat) (id : String) : Prop :=
  ∀ handle kernel, world.slot? index id = some (.ready handle) → world.kernels.get? handle = some kernel →
    kernel.provisioner.IsLocal → kernel.connection.Stands world.host

end World

def Moment.Printed : Moment → Prop
  | .answered index (.prepare _ _) (.text (.ok id)) world => world.Printed index id
  | _ => True

/-- What holds of the kernels of all connectors, and lasts. -/
def enrollment : Regime where
  law := World.Enrolled
  lasts := World.Continues
  good := Moment.Printed

namespace Table
variable {κ α : Type} [DecidableEq κ]

theorem nodup_keys_erase {table : Table κ α} (distinct : table.keys.Nodup) (key : κ) : (table.erase key).keys.Nodup :=
  distinct.sublist (List.filter_sublist.map Prod.fst)

theorem nodup_keys_set {table : Table κ α} (distinct : table.keys.Nodup) (key : κ) (value : α) :
    (table.set key value).keys.Nodup := by
  refine List.nodup_cons.mpr ⟨fun listed => ?_, nodup_keys_erase distinct key⟩
  obtain ⟨row, among, same⟩ := List.mem_map.mp listed
  exact ((table.mem_rows_erase key row).mp among).2 same

theorem get?_of_row {table : Table κ α} (distinct : table.keys.Nodup) {key : κ} {value : α}
    (listed : (key, value) ∈ table.rows) : table.get? key = some value := by
  cases known : table.get? key with
  | none => exact absurd known (get?_ne_none_of_listed listed)
  | some other =>
    have same := List.inj_on_of_nodup_map distinct listed (row_listed known) rfl
    exact congrArg (fun row : κ × α => some row.2) same.symm

theorem keys_of_vacant {table : Table κ α} (vacant : ∀ key, table.get? key = none) : table.keys = [] := by
  refine List.map_eq_nil_iff.mpr (List.eq_nil_iff_forall_not_mem.mpr (fun row listed => ?_))
  exact get?_ne_none_of_listed listed (vacant row.1)

end Table

namespace World.Enrolled
variable {world : World}

theorem next {after : World} (law : world.Enrolled) (nextConnector : after.nextConnector = world.nextConnector)
    (known : ∀ index, (after.connector? index).isSome = (world.connector? index).isSome)
    (distinct : ∀ index connector, after.connector? index = some connector → connector.slots.keys.Nodup)
    (kernels : after.kernels = world.kernels) (nextKernel : after.nextKernel = world.nextKernel)
    (slots : ∀ index id handle, after.slot? index id = some (.ready handle) →
    world.slot? index id = some (.ready handle)) :
    enrollment.Next world after where
  law :=
    { below := fun index there => nextConnector ▸ law.below index (known index ▸ there)
      distinct := distinct
      kernels := fun handle kernel there => nextKernel ▸ law.kernels handle kernel (kernels ▸ there)
      ready := fun index id handle taken => kernels ▸ law.ready index id handle (slots index id handle taken)
      unique := fun index id other name handle one two =>
        law.unique index id other name handle (slots index id handle one) (slots other name handle two) }
  lasts := .of_kernels (fun index there => known index ▸ there) kernels

theorem next_modifySlots (law : world.Enrolled) (index : Nat) {change : Table String Slot → Table String Slot}
    (distinct : ∀ slots, slots.keys.Nodup → (change slots).keys.Nodup)
    (slots : ∀ other id handle, (world.modifySlots index change).slot? other id = some (.ready handle) →
      world.slot? other id = some (.ready handle)) : enrollment.Next world (world.modifySlots index change) := by
  refine law.next rfl (isSome_connector?_modifySlots world index · change)
    (fun other connector there => ?_) rfl rfl slots
  rw [connector?_modifySlots] at there
  split at there
  next same =>
    obtain ⟨old, known, rfl⟩ := Option.map_eq_some_iff.mp there
    exact distinct _ (law.distinct index old known)
  next => exact law.distinct other connector there

theorem setKernel (law : world.Enrolled) {handle : Nat} {old kernel : Kernel}
    (there : world.kernels.get? handle = some old) (lasts : old.Lasts kernel) (sound : kernel.connection.Sound) :
    enrollment.Next world (world.setKernel handle kernel) := by
  obtain ⟨below, -, id, isFor⟩ := law.kernels handle old there
  refine ⟨⟨law.below, law.distinct, fun other held known => ?_, fun index name other taken => ?_, law.unique⟩,
    ⟨fun _ known => known, fun other held known => ?_⟩⟩
  · rw [get?_setKernel] at known
    split at known
    next same =>
      cases known
      rw [same]
      exact ⟨below, sound, id, isFor.congr lasts.file⟩
    next => exact law.kernels other held known
  · obtain ⟨held, known, named⟩ := law.ready index name other taken
    rw [get?_setKernel]
    split
    next same =>
      rw [same, there] at known
      cases known
      exact ⟨kernel, rfl, named.congr lasts.file⟩
    next => exact ⟨held, known, named⟩
  · rw [get?_setKernel]
    split
    next same =>
      rw [same, there] at known
      cases known
      exact ⟨kernel, rfl, lasts⟩
    next => exact ⟨held, known, .refl held⟩

theorem enroll (law : world.Enrolled) {index : Nat} (known : (world.connector? index).isSome)
    {id : String} {kernel : Kernel}
    (sound : kernel.connection.Sound) (isFor : kernel.connection.IsFor id) :
    enrollment.Next world (world.enroll index id kernel) := by
  have apart {handle : Nat} {held : Kernel} (there : world.kernels.get? handle = some held) :
      handle ≠ world.nextKernel :=
    Nat.ne_of_lt (law.kernels handle held there).1
  have kept {handle : Nat} {held : Kernel} (there : world.kernels.get? handle = some held) :
      (world.enroll index id kernel).kernels.get? handle = some held :=
    (Table.get?_set_of_ne _ _ (apart there)).trans there
  have fresh {other : Nat} {name : String}
      (taken : world.slot? other name = some (.ready world.nextKernel)) : False := by
    obtain ⟨held, there, -⟩ := law.ready other name _ taken
    exact apart there rfl
  refine ⟨⟨fun other there => ?_, fun other connector there => ?_, fun handle held there => ?_,
    fun other name handle taken => ?_, fun one name two name' handle first second => ?_⟩, ⟨fun other there => ?_, ?_⟩⟩
  · rw [World.enroll, setSlot, isSome_connector?_modifySlots] at there
    exact law.below other there
  · rw [World.enroll, setSlot, connector?_modifySlots] at there
    split at there
    next =>
      obtain ⟨old, there', rfl⟩ := Option.map_eq_some_iff.mp there
      exact Table.nodup_keys_set (law.distinct index old there') id _
    next => exact law.distinct other connector there
  · by_cases new : handle = world.nextKernel
    · have same : (world.enroll index id kernel).kernels.get? handle = some kernel := by
        rw [new]
        exact Table.get?_set_self _ _ _
      cases same.symm.trans there
      exact ⟨new ▸ Nat.lt_succ_self _, sound, id, isFor⟩
    · have old : world.kernels.get? handle = some held := (Table.get?_set_of_ne _ _ new).symm.trans there
      obtain ⟨below, holds⟩ := law.kernels handle held old
      exact ⟨Nat.lt_succ_of_lt below, holds⟩
  · rw [slot?_enroll world known] at taken
    split at taken
    next here =>
      cases taken
      exact ⟨kernel, Table.get?_set_self _ _ _, here.2 ▸ isFor⟩
    next =>
      obtain ⟨held, there, named⟩ := law.ready other name handle taken
      exact ⟨held, kept there, named⟩
  · rw [slot?_enroll world known] at first second
    split at first
    next here =>
      cases first
      split at second
      next there => exact ⟨here.1.trans there.1.symm, here.2.trans there.2.symm⟩
      next => exact (fresh second).elim
    next =>
      split at second
      next =>
        cases second
        exact (fresh first).elim
      next => exact law.unique one name two name' handle first second
  · rw [World.enroll, setSlot, isSome_connector?_modifySlots]
    exact there
  · exact fun handle held there => ⟨held, kept there, .refl held⟩

theorem open_ (law : world.Enrolled) {connector : Connector} (empty : ∀ id, connector.slots.get? id = none) :
    enrollment.Next world (world.addConnector connector).2 := by
  have vacant : world.connector? world.nextConnector = none := by
    cases there : world.connector? world.nextConnector with
    | none => rfl
    | some old => exact absurd (law.below _ (Option.isSome_of_eq_some there)) (Nat.lt_irrefl _)
  have slots := slot?_addConnector vacant empty
  refine ⟨⟨fun index known => ?_, fun index other there => ?_, law.kernels, fun index id handle taken => ?_,
    fun one id two name handle first second => ?_⟩, .of_kernels (fun index known => ?_) rfl⟩
  · rw [connector?_addConnector] at known
    split at known
    next new => exact new ▸ Nat.lt_succ_self _
    next => exact Nat.lt_succ_of_lt (law.below index known)
  · rw [connector?_addConnector] at there
    split at there
    next =>
      cases there
      rw [Table.keys_of_vacant empty]
      exact List.nodup_nil
    next => exact law.distinct index other there
  · exact law.ready index id handle ((slots index id).symm.trans taken)
  · exact law.unique one id two name handle ((slots one id).symm.trans first) ((slots two name).symm.trans second)
  · rw [connector?_addConnector]
    split
    next => rfl
    next => exact known

end World.Enrolled

namespace World

theorem newConnection_sound (connector : Connector) (id : String) (spec : KernelSpec) (host : Host) :
    (newConnection connector id spec host).1.Sound := by
  have scheme : defaultSignatureScheme ∈ Session.supportedSchemes := by decide
  unfold newConnection
  cases connector.ip with
  | none => exact ⟨nofun, scheme⟩
  | some ip => exact ⟨fun _ configured => Connection.readIp_readIp configured, scheme⟩

/-- A kernel that was launched has its file, which holds its credentials if the built-in provisioner wrote it. -/
theorem launch_stands {answerer : Answerer} {index : Nat} {connector : Connector} {id : String} {spec : KernelSpec}
    {world after : World} {kernel : Kernel} (valid : isValidId id = true)
    (launched : launch answerer index connector id spec world = (.ok kernel, after)) :
    kernel.connection.Sound ∧ kernel.connection.IsFor id ∧
      (kernel.provisioner.IsLocal → kernel.connection.Stands after.host) := by
  obtain ⟨host, provisioner, before, done⟩ := launch_eq_ok launched
  obtain ⟨-, -, -, unwritten, named⟩ := newConnection_cases connector id spec host
  have sound := newConnection_sound connector id spec host
  generalize (newConnection connector id spec host).1 = connection at done unwritten named sound
  have isFor : connection.IsFor id := ⟨_, named, getLast?_kernelPath connector.directory valid⟩
  have preserves := provisioner.preLaunch_preserves answerer before sound isFor
  rw [done] at preserves
  refine ⟨preserves.sound, isFor.congr preserves.file, fun isLocal => ?_⟩
  obtain ⟨key, state, rfl⟩ := preserves.isLocal.mp isLocal
  rw [Provisioner.preLaunch_local] at done
  simp only [Prod.mk.injEq] at done
  obtain ⟨result, -, same, rfl⟩ := done
  rw [← same]
  exact (LocalProvisioner.Stage.preLaunch_exists ⟨state, connection, before.claimsOf key, before.host⟩ sound isFor
    named result).2 (.inl unwritten)

theorem prepare_printed {answerer : Answerer} {index : Nat} {name : Option String} {spec : KernelSpec} {id : String}
    {world after : World} (prepared : prepare answerer index name spec world = (.ok id, after)) :
    after.Printed index id := by
  obtain ⟨asked, start, prepared⟩ : ∃ asked start, prepareAs answerer index asked spec start = (.ok id, after) := by
    cases name with
    | some id => exact ⟨id, world, prepared⟩
    | none => exact ⟨_, _, prepared⟩
  rcases start.prepareAs_cases answerer index asked spec with ⟨error, same⟩ |
    ⟨valid, -, -, connector, -, ⟨error, later, -, same⟩ | ⟨kernel, later, launched, same⟩⟩
  · cases same.symm.trans prepared
  · cases same.symm.trans prepared
  · cases same.symm.trans prepared
    intro handle held taken there isLocal
    have known : (later.connector? index).isSome := by
      have still := isSome_connector?_of_slot? taken
      rwa [enroll, setSlot, isSome_connector?_modifySlots] at still
    rw [slot?_enroll later known, if_pos ⟨rfl, rfl⟩] at taken
    cases taken
    have new : (later.enroll index id kernel).kernels.get? later.nextKernel = some kernel := Table.get?_set_self _ _ _
    cases new.symm.trans there
    exact (launch_stands valid launched).2.2 isLocal

theorem enrollment_steady : enrollment.Steady where
  refl world := .of_kernels (fun _ known => known) rfl
  trans := Continues.trans
  withHost _ law := law.next rfl (fun _ => rfl) law.distinct rfl rfl (fun _ _ _ taken => taken)
  tell _ law := law.next rfl (fun _ => rfl) law.distinct rfl rfl (fun _ _ _ taken => taken)
  setClaims _ _ law := law.next rfl (fun _ => rfl) law.distinct rfl rfl (fun _ _ _ taken => taken)
  setRegistry {world} index registry law := by
    refine law.next rfl (fun other => isSome_connector?_setRegistry world index other registry)
      (fun other connector there => ?_) rfl rfl (fun other id handle taken => by rwa [slot?_setRegistry] at taken)
    rw [connector?_setRegistry] at there
    split at there
    next =>
      obtain ⟨old, known, rfl⟩ := Option.map_eq_some_iff.mp there
      exact law.distinct index old known
    next => exact law.distinct other connector there
  open_ law empty := law.open_ empty
  reserve {world index id} law known _ _ := by
    refine law.next_modifySlots index (fun slots distinct => Table.nodup_keys_set distinct id _)
      (fun other name handle taken => ?_)
    have slots := slot?_setSlot world known id .preparing other name
    rw [setSlot] at slots
    rw [slots] at taken
    split at taken
    next => cases taken
    next => exact taken
  freeSlot index id law :=
    law.next_modifySlots index (fun slots distinct => Table.nodup_keys_erase distinct id)
      (fun other name handle taken => (slot?_of_freeSlot taken).2)
  enroll law there valid launched next := by
    obtain ⟨sound, isFor, -⟩ := launch_stands valid launched
    exact next.law.enroll (next.lasts.known _ (Option.isSome_of_eq_some there)) sound isFor
  begin_ law there := by
    obtain ⟨-, sound, -⟩ := law.kernels _ _ there
    exact law.setKernel there ⟨Iff.rfl, rfl, fun _ => .refl _⟩ sound
  restarted {answerer world handle kernel} law there next := by
    obtain ⟨-, sound, id, isFor⟩ := law.kernels handle kernel there
    have preserved := kernel.restarted_preserved answerer world sound isFor
    obtain ⟨held, still, lasts⟩ := next.lasts.kernels handle kernel there
    refine next.law.setKernel still (lasts.between preserved.lasts (fun isLocal => ?_)) preserved.sound
    rw [preserved.kernels isLocal, there] at still
    exact (Option.some.inj still).symm
  released {answerer world handle kernel} law there next := by
    obtain ⟨-, sound, id, isFor⟩ := law.kernels handle kernel there
    have preserved := kernel.released_preserved answerer world sound isFor
    obtain ⟨held, still, lasts⟩ := next.lasts.kernels handle kernel there
    refine next.law.setKernel still (lasts.between preserved.lasts (fun isLocal => ?_)) preserved.sound
    rw [preserved.kernels isLocal, there] at still
    exact (Option.some.inj still).symm
  asked _ _ _ := trivial
  answered {world} answerer index call _ := by
    unfold answerWith
    split
    next => cases call <;> trivial
    next =>
      cases call with
      | prepare name spec =>
        simp only
        rcases answer : prepare answerer index name spec world with ⟨error | id, after⟩
        · trivial
        · exact prepare_printed answer
      | restart | release | releaseAll | contains | ids | file | info | connect => trivial
  refused _ call _ := by cases call <;> trivial

theorem enrolled_start (host : Host) : Enrolled { host := host } where
  below _ known := by cases known
  distinct _ _ known := by cases known
  kernels _ _ there := by cases there
  ready _ _ _ taken := by cases taken
  unique _ _ _ _ _ taken := by cases taken

theorem Reached.enrolled {depth : Nat} {host : Host} {moves : List Move} (empty : OpensEmpty moves) {world : World}
    (reached : world.Reached depth host moves) : world.Enrolled := by
  have passes := Regime.trace_passes enrollment_steady depth (enrolled_start host) empty
  rcases reached with rfl | ⟨moment, listed, rfl⟩
  · exact passes.law
  · exact (passes.at_ enrollment_steady listed).law

end World
end Mooring
