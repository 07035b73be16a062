import Mooring.Proofs.Connector.Builtin
import Mooring.Proofs.Connector.Moments

/-! The work on a kernel: changes of its own, and calls that its hooks make in between. Launching, cleaning up
and starting again touch no id themselves, so that whatever happens to the ids happens in these calls. -/

namespace Mooring

namespace World

def SameSlots (before after : World) : Prop :=
  ∀ index, (after.connector? index).map Connector.slots = (before.connector? index).map Connector.slots

theorem SameSlots.refl (world : World) : SameSlots world world := fun _ => rfl

theorem SameSlots.withHost (world : World) (host : Host) : SameSlots world { world with host := host } := fun _ => rfl

theorem SameSlots.tell (world : World) (event : Event) : SameSlots world (world.tell event) := fun _ => rfl

theorem SameSlots.setKernel (world : World) (handle : Nat) (kernel : Kernel) :
    SameSlots world (world.setKernel handle kernel) :=
  fun _ => rfl

theorem SameSlots.trans {first second third : World} (one : SameSlots first second) (two : SameSlots second third) :
    SameSlots first third :=
  fun index => (two index).trans (one index)

theorem SameSlots.slot? {before after : World} (same : SameSlots before after) (index : Nat) (id : String) :
    after.slot? index id = before.slot? index id := by
  have slots (world : World) :
      world.slot? index id = ((world.connector? index).map Connector.slots).bind (fun slots => slots.get? id) := by
    unfold World.slot?
    cases world.connector? index <;> rfl
  rw [slots, slots, same index]

theorem mem_ids (world : World) (index : Nat) (id : String) :
    id ∈ world.ids index ↔
      ∃ slots ∈ (world.connector? index).map Connector.slots, ∃ handle, (id, Slot.ready handle) ∈ slots.rows := by
  unfold ids
  cases world.connector? index with
  | none => simp
  | some connector =>
    simp only [List.mem_mergeSort, List.mem_filterMap, Option.map_some, Option.mem_some_iff, exists_eq_left']
    constructor
    · rintro ⟨⟨name, slot⟩, listed, same⟩
      cases slot with
      | preparing => cases same
      | ready handle =>
        cases same
        exact ⟨handle, listed⟩
    · rintro ⟨handle, listed⟩
      exact ⟨_, listed, rfl⟩

theorem mem_ids_of_ready {world : World} {index : Nat} {id : String} {handle : Nat}
    (taken : world.slot? index id = some (.ready handle)) : id ∈ world.ids index := by
  obtain ⟨connector, there, known⟩ := Option.bind_eq_some_iff.mp taken
  exact (world.mem_ids index id).mpr ⟨connector.slots, by rw [there]; rfl, handle, Table.row_listed known⟩

theorem ids_eq_nil {world : World} {index : Nat} (free : ∀ id, world.slot? index id = none) : world.ids index = [] := by
  refine List.eq_nil_iff_forall_not_mem.mpr (fun id listed => ?_)
  obtain ⟨slots, there, handle, row⟩ := (world.mem_ids index id).mp listed
  obtain ⟨connector, known, rfl⟩ := Option.map_eq_some_iff.mp there
  have absent : connector.slots.get? id = none := by
    have vacant := free id
    unfold slot? at vacant
    rwa [known] at vacant
  exact Table.get?_ne_none_of_listed row absent

theorem SameSlots.setRegistry (world : World) (index : Nat) (registry : Registry) :
    SameSlots world (world.setRegistry index registry) := by
  intro other
  rw [connector?_setRegistry]
  split
  next same =>
    rw [same]
    cases world.connector? index <;> rfl
  next => rfl

theorem ofRegistry_sameSlots (registry : Registry) (context : ProvisionerContext) (id : String) (spec : KernelSpec)
    (world : World) : SameSlots world (Provisioner.ofRegistry registry context id spec world).2.2 := by
  unfold Provisioner.ofRegistry
  simp only
  split
  next => exact .refl world
  next entry later _ =>
    unfold Provisioner.make
    cases entry.maker with
    | builtin => exact .refl world
    | plugin work =>
      simp only
      split <;> exact .tell world _

/-- All ids but those that may be touched stand for what they stood for. -/
structure SlotsBut (touched : Nat → String → Prop) (before after : World) : Prop where
  slots : ∀ index id, ¬ touched index id → after.slot? index id = before.slot? index id
  listed : ∀ index id, ¬ touched index id → (id ∈ after.ids index ↔ id ∈ before.ids index)

theorem SlotsBut.trans {touched : Nat → String → Prop} {first second third : World}
    (one : SlotsBut touched first second)
    (two : SlotsBut touched second third) : SlotsBut touched first third where
  slots index id spared := (two.slots index id spared).trans (one.slots index id spared)
  listed index id spared := (two.listed index id spared).trans (one.listed index id spared)

theorem SameSlots.slotsBut {before after : World} (same : SameSlots before after) (touched : Nat → String → Prop) :
    SlotsBut touched before after where
  slots index id _ := same.slot? index id
  listed index id _ := by rw [mem_ids, mem_ids, same index]

/-- From one world to another by changes that touch some ids at most, and by calls. The moments are those of the
calls. -/
inductive Works (answerer : Answerer) (recorder : Recorder) (touched : Nat → String → Prop) :
    World → List Moment → World → Prop
  | alone {before after : World} (own : SlotsBut touched before after) : Works answerer recorder touched before [] after
  | calling {before asked after : World} {moments : List Moment} (own : SlotsBut touched before asked) (index : Nat)
      (call : Call) (rest : Works answerer recorder touched (answerer index call asked).2 moments after) :
      Works answerer recorder touched before (recorder index call asked ++ moments) after

namespace Works
variable {answerer : Answerer} {recorder : Recorder} {touched : Nat → String → Prop} {first second third : World}
  {moments later : List Moment}

theorem of_same (same : SameSlots first second) : Works answerer recorder touched first [] second :=
  .alone (same.slotsBut touched)

theorem refl (world : World) : Works answerer recorder touched world [] world := .of_same (.refl world)

theorem before (own : SlotsBut touched first second) (works : Works answerer recorder touched second moments third) :
    Works answerer recorder touched first moments third := by
  cases works with
  | alone more => exact .alone (own.trans more)
  | calling more index call rest => exact .calling (own.trans more) index call rest

theorem append (one : Works answerer recorder touched first moments second)
    (two : Works answerer recorder touched second later third) :
    Works answerer recorder touched first (moments ++ later) third := by
  induction one with
  | alone own => exact two.before own
  | calling own index call _ ih =>
    rw [List.append_assoc]
    exact .calling own index call (ih two)

theorem after (works : Works answerer recorder touched first moments second) (own : SlotsBut touched second third) :
    Works answerer recorder touched first moments third := by
  have whole := works.append (.alone own)
  rwa [List.append_nil] at whole

theorem within (works : Works answerer recorder touched second moments third) (begins : SameSlots first second)
    {last : World} (ends : SameSlots third last) : Works answerer recorder touched first moments last :=
  (works.before (begins.slotsBut touched)).after (ends.slotsBut touched)

/-- What holds across changes that touch no other id and across calls holds across all of the work. -/
theorem lifts {relation : World → World → Prop}
    (transitive : ∀ {one two three : World}, relation one two → relation two three → relation one three)
    (same : ∀ {one two : World}, SlotsBut touched one two → relation one two)
    (calls : ∀ index call (asked : World), relation asked (answerer index call asked).2 ∧
      ∀ moment ∈ recorder index call asked, relation asked moment.world)
    (works : Works answerer recorder touched first moments second) :
    relation first second ∧ ∀ moment ∈ moments, relation first moment.world := by
  induction works with
  | alone own => exact ⟨same own, fun moment listed => absurd listed List.not_mem_nil⟩
  | @calling before asked after moments own index call _ ih =>
    obtain ⟨ends, during⟩ := calls index call asked
    obtain ⟨ends', during'⟩ := ih
    have start := same own
    refine ⟨transitive (transitive start ends) ends', fun moment listed => ?_⟩
    rcases List.mem_append.mp listed with now | later
    · exact transitive start (during moment now)
    · exact transitive (transitive start ends) (during' moment later)

end Works

end World

open World

section
variable (answerer : Answerer) (recorder : Recorder) (touched : Nat → String → Prop)

theorem Bench.perform_works (bench : Bench) (action : Action) :
    Works answerer recorder touched bench.world (bench.actionMoments recorder action)
      (bench.perform answerer action).2.world := by
  cases action with
  | writeFile => exact .of_same (.withHost bench.world _)
  | keepSnapshot live => exact .refl bench.world
  | call choice call =>
    unfold actionMoments perform
    simp only
    cases bench.world.select choice with
    | none => exact .refl bench.world
    | some index =>
      have answered : Works answerer recorder touched (answerer index call bench.world).2 [] _ := .refl _
      have called := Works.calling ⟨fun _ _ _ => rfl, fun _ _ _ => Iff.rfl⟩ index call answered
      rwa [List.append_nil] at called
  | tell event => exact .of_same (.tell bench.world event)

theorem Bench.run_works (hook : Hook) (bench : Bench) :
    Works answerer recorder touched bench.world (moments answerer recorder hook bench)
      (run answerer hook bench).2.world := by
  induction hook generalizing bench with
  | finish result => exact .refl bench.world
  | act action next ih => exact (bench.perform_works answerer recorder touched action).append (ih _ _)

namespace Provisioner

theorem preLaunch_works (provisioner : Provisioner) (connection : Connection) (world : World) :
    Works answerer recorder touched world (provisioner.launchMoments answerer recorder connection world)
      (provisioner.preLaunch answerer connection world).2.2.2 := by
  cases provisioner with
  | local_ key state => exact .of_same (fun _ => rfl)
  | plugin work id name spec config launches info =>
    exact (Bench.run_works answerer recorder touched (work.preLaunch id launches)
      ⟨connection, info, world.tell (.launching id)⟩).within (.tell world _) (.refl _)

theorem cleanup_works (provisioner : Provisioner) (connection : Connection) (restart : Bool) (world : World) :
    Works answerer recorder touched world (provisioner.cleanupMoments answerer recorder connection restart world)
      (provisioner.cleanup answerer connection restart world).2.2.2 := by
  cases provisioner with
  | local_ key state => exact .of_same (fun _ => rfl)
  | plugin work id name spec config launches info =>
    exact (Bench.run_works answerer recorder touched (work.cleanup id restart)
      ⟨connection, info, world.tell (.cleaning id restart)⟩).within (.tell world _) (.refl _)

end Provisioner

namespace World

theorem launchWith_works (provisioner : Provisioner) (connection : Connection) (world : World) :
    Works answerer recorder touched world (launchWithMoments answerer recorder provisioner connection world)
      (launchWith answerer provisioner connection world).2 := by
  have launched := provisioner.preLaunch_works answerer recorder touched connection world
  unfold launchWithMoments launchWith
  generalize provisioner.preLaunch answerer connection world = outcome at launched ⊢
  obtain ⟨result, later, connection', world'⟩ := outcome
  cases result with
  | error error =>
    have cleaned := later.cleanup_works answerer recorder touched connection' false world'
    exact launched.append (cleaned.within (.refl world') (.withHost _ _))
  | ok =>
    simp only
    rwa [List.append_nil]

theorem launch_works (index : Nat) (connector : Connector) (id : String) (spec : KernelSpec) (world : World) :
    Works answerer recorder touched world (launchMoments answerer recorder index connector id spec world)
      (launch answerer index connector id spec world).2 := by
  rw [launch_eq]
  unfold launchMoments
  obtain ⟨result, host⟩ := world.host.createDirectories connector.directory
  cases result with
  | error fault => exact .of_same (.withHost world host)
  | ok =>
    simp only
    obtain ⟨connection, host'⟩ := newConnection connector id spec host
    simp only
    have made := ofRegistry_sameSlots connector.registry ⟨connector.claims, connector.cachePorts⟩ id spec
      { world with host := host' }
    generalize Provisioner.ofRegistry _ _ _ _ _ = answer at made ⊢
    obtain ⟨result, registry, later⟩ := answer
    have before : SameSlots world (later.setRegistry index registry) := made.trans (.setRegistry later index registry)
    cases result with
    | error error => exact .of_same before
    | ok provisioner =>
      exact (launchWith_works answerer recorder touched provisioner connection _).within before (.refl _)

theorem restartKernel_works (handle : Nat) (world : World) :
    Works answerer recorder touched world (restartKernelMoments answerer recorder handle world)
      (restartKernel answerer handle world).2 := by
  unfold restartKernelMoments restartKernel
  cases world.kernels.get? handle with
  | none => exact .refl world
  | some kernel =>
    simp only
    have cleaned := kernel.provisioner.cleanup_works answerer recorder touched kernel.connection true
      (world.setKernel handle { kernel with busy := true })
    generalize kernel.provisioner.cleanup answerer kernel.connection true _ = outcome at cleaned ⊢
    obtain ⟨result, provisioner, connection, later⟩ := outcome
    cases result with
    | error error =>
      simp only
      rw [List.append_nil]
      exact cleaned.within (.setKernel world handle _) (.setKernel later handle _)
    | ok =>
      have launched := provisioner.preLaunch_works answerer recorder touched connection later
      exact (cleaned.append launched).within (.setKernel world handle _) (.setKernel _ handle _)

theorem releaseKernel_works (handle : Nat) (world : World) :
    Works answerer recorder touched world (releaseKernelMoments answerer recorder handle world)
      (releaseKernel answerer handle world).2 := by
  unfold releaseKernelMoments releaseKernel
  cases world.kernels.get? handle with
  | none => exact .refl world
  | some kernel =>
    have cleaned := kernel.provisioner.cleanup_works answerer recorder touched kernel.connection false
      (world.setKernel handle { kernel with busy := true })
    exact cleaned.within (.setKernel world handle _) ((SameSlots.withHost _ _).trans (.setKernel _ handle _))

end World

end

end Mooring
