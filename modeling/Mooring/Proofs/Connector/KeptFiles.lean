import Mooring.Proofs.Connector.Moments
import Mooring.Proofs.Connector.ReadyKernels
import Mooring.Proofs.Provisioner.KernelFile

/-! Kernels that are ready keep their files, at every moment of a call and of all calls that its hooks make.
A hook works on one id and spares the files of the others; what it asks of a connector is a call again, so
that the law goes through the calls by their depth. -/

namespace Mooring

open Host (Place Spares SparesAll)

def Kernel.HasFile (kernel : Kernel) (host : Host) : Prop :=
  ∃ path place, kernel.connection.file = some path ∧ host.placeOf? path = some place ∧ host.hasFile place

namespace World

def Prepared (world : World) (index : Nat) (id : String) : Prop :=
  ∃ handle kernel, world.slot? index id = some (.ready handle) ∧ world.kernels.get? handle = some kernel ∧
    handle < world.nextKernel ∧ kernel.connection.IsFor id ∧
      (kernel.provisioner.IsLocal → kernel.HasFile world.host)

end World

namespace Moment

/-- An id is asked for only where it is in use, or when no kernel that had it is at work any more. -/
def Orderly : Moment → Prop
  | .asked index (.prepare name _) world =>
    world.slot? index (name.getD world.host.drawUuid.1) = none → world.IsSettled (name.getD world.host.drawUuid.1)
  | _ => True

instance (moment : Moment) : Decidable moment.Orderly := by
  unfold Orderly
  split <;> infer_instance

def Stands : Moment → Prop
  | .answered index (.prepare _ _) (.text (.ok id)) world => world.Prepared index id
  | _ => True

end Moment

namespace World

/-- From one world through moments to another, kernels that stay ready keep their files. -/
inductive Passes : World → List Moment → World → Prop
  | straight {before after : World} (keeps : KeepsFiles before after) : Passes before [] after
  | through {before after : World} {moment : Moment} {moments : List Moment} (keeps : KeepsFiles before moment.world)
    (stands : moment.Stands) (rest : Passes moment.world moments after) : Passes before (moment :: moments) after

namespace Passes
variable {first second third : World} {moments later : List Moment}

theorem before (keeps : KeepsFiles first second) (passes : Passes second moments third) :
    Passes first moments third := by
  cases passes with
  | straight more => exact .straight (keeps.trans more)
  | through more stands rest => exact .through (keeps.trans more) stands rest

theorem append (one : Passes first moments second) (two : Passes second later third) :
    Passes first (moments ++ later) third := by
  induction one with
  | straight keeps => exact two.before keeps
  | through keeps stands _ ih => exact .through keeps stands (ih two)

theorem after (passes : Passes first moments second) (keeps : KeepsFiles second third) :
    Passes first moments third := by
  have whole := passes.append (.straight keeps)
  rwa [List.append_nil] at whole

theorem whole (passes : Passes first moments second) : KeepsFiles first second := by
  induction passes with
  | straight keeps => exact keeps
  | through keeps _ _ ih => exact keeps.trans ih

theorem keeps (passes : Passes first moments second) : ∀ moment ∈ moments, KeepsFiles first moment.world := by
  induction passes with
  | straight _ => exact fun moment listed => absurd listed List.not_mem_nil
  | through keeps stands _ ih =>
    intro moment listed
    rcases List.mem_cons.mp listed with rfl | later
    · exact keeps
    · exact keeps.trans (ih moment later)

end Passes

/-- The law of files holds at the end, the work of others is as before, and all files were kept meanwhile. -/
structure Serves (before : World) (moments : List Moment) (after : World) : Prop where
  law : after.FileLaw
  balanced : Balanced before after
  passes : Passes before moments after

theorem SameKernels.serves {before after : World} (same : SameKernels before after) (law : before.FileLaw)
    (keeps : KeepsFiles before after) : Serves before [] after :=
  ⟨law.congr same, same.balanced, .straight keeps⟩

theorem SameKernels.keep {before after : World} (same : SameKernels before after) (law : before.FileLaw)
    (files : ∀ place, before.host.hasFile place → after.host.hasFile place) : Serves before [] after :=
  same.serves law (.of_files same files)

theorem FileLaw.serves {world : World} (law : world.FileLaw) : Serves world [] world :=
  (SameKernels.refl world).serves law (.refl world)

theorem FileLaw.tell_serves {world : World} (law : world.FileLaw) (event : Event) :
    Serves world [] (world.tell event) :=
  (SameKernels.tell world event).keep law (fun _ there => there)

theorem FileLaw.spared_serves {world : World} (law : world.FileLaw) {host : Host} (spares : SparesAll world.host host) :
    Serves world [] { world with host := host } :=
  (SameKernels.withHost world host).keep law (fun place there => spares.files place not_false there)

theorem Serves.trans {first second third : World} {moments later : List Moment} (one : Serves first moments second)
    (two : Serves second later third) : Serves first (moments ++ later) third :=
  ⟨two.law, one.balanced.trans two.balanced, one.passes.append two.passes⟩

def Trusted (answerer : Answerer) (recorder : Recorder) : Prop :=
  ∀ index call (world : World), world.FileLaw → (∀ moment ∈ recorder index call world, moment.Orderly) →
    Serves world (recorder index call world) (answerer index call world).2

end World

section
variable {answerer : Answerer} {recorder : Recorder} (trusted : World.Trusted answerer recorder) {id : String}
include trusted

open World

theorem Bench.perform_serves {bench : Bench} (law : bench.world.FileLaw) (working : bench.world.Working id)
    (isFor : bench.connection.IsFor id) (action : Action)
    (orderly : ∀ moment ∈ bench.actionMoments recorder action, moment.Orderly) :
    Serves bench.world (bench.actionMoments recorder action) (bench.perform answerer action).2.world ∧
      (bench.perform answerer action).2.connection.IsFor id := by
  cases action with
  | writeFile =>
    have same := SameKernels.withHost bench.world (bench.connection.write bench.world.host).2.2
    have vacant := (law.congr same).not_readyLocal (working.balanced same.balanced)
    exact ⟨same.serves law (.of_spares same (isFor.write_spares bench.world.host) vacant),
      isFor.congr (isFor.write_file bench.world.host)⟩
  | keepSnapshot live => exact ⟨law.serves, isFor⟩
  | call choice call =>
    unfold actionMoments at orderly ⊢
    unfold perform
    simp only at orderly ⊢
    cases chosen : bench.world.select choice with
    | none => exact ⟨law.serves, isFor⟩
    | some index =>
      rw [chosen] at orderly
      exact ⟨trusted index call bench.world law orderly, isFor⟩
  | tell event => exact ⟨law.tell_serves event, isFor⟩

theorem Bench.run_serves (hook : Hook) (bench : Bench) (law : bench.world.FileLaw) (working : bench.world.Working id)
    (isFor : bench.connection.IsFor id) (orderly : ∀ moment ∈ moments answerer recorder hook bench, moment.Orderly) :
    Serves bench.world (moments answerer recorder hook bench) (run answerer hook bench).2.world ∧
      (run answerer hook bench).2.connection.IsFor id := by
  induction hook generalizing bench with
  | finish result => exact ⟨law.serves, isFor⟩
  | act action next ih =>
    simp only [moments, List.mem_append] at orderly
    obtain ⟨first, isFor'⟩ := perform_serves trusted law working isFor action
        (fun moment listed => orderly moment (.inl listed))
    obtain ⟨rest, last⟩ := ih _ _ first.law (working.balanced first.balanced) isFor'
        (fun moment listed => orderly moment (.inr listed))
    exact ⟨first.trans rest, last⟩

/-- What a provisioner leaves behind when it has worked on a kernel. -/
structure Provisioner.Leaves (id : String) (provisioner : Provisioner) (world : World) (moments : List Moment)
    (outcome : Except Error Unit × Provisioner × Connection × World) : Prop where
  serves : Serves world moments outcome.2.2.2
  isFor : outcome.2.2.1.IsFor id
  kind : outcome.2.1.IsLocal → provisioner.IsLocal

theorem Provisioner.preLaunch_leaves {provisioner : Provisioner} {connection : Connection} {world : World}
    (law : world.FileLaw) (working : world.Working id) (isFor : connection.IsFor id)
    (orderly : ∀ moment ∈ provisioner.launchMoments answerer recorder connection world, moment.Orderly) :
    provisioner.Leaves id world (provisioner.launchMoments answerer recorder connection world)
      (provisioner.preLaunch answerer connection world) := by
  cases provisioner with
  | local_ key state =>
    obtain ⟨file, spares⟩ := LocalProvisioner.Stage.preLaunch_file
        ⟨state, connection, world.claimsOf key, world.host⟩ isFor
    have same : SameKernels world (Provisioner.preLaunch answerer (.local_ key state) connection world).2.2.2 :=
      (SameKernels.setClaims world key _).trans (.withHost _ _)
    have vacant := (law.congr same).not_readyLocal (working.balanced same.balanced)
    exact ⟨same.serves law (.of_spares same spares vacant), isFor.congr file, fun _ => ⟨key, state, rfl⟩⟩
  | plugin work kernelId name spec config launches info =>
    have told := law.tell_serves (.launching kernelId)
    obtain ⟨rest, last⟩ := Bench.run_serves trusted (work.preLaunch kernelId launches)
      ⟨connection, info, world.tell (.launching kernelId)⟩ told.law (working.balanced told.balanced) isFor orderly
    exact ⟨told.trans rest, last, fun isLocal => absurd isLocal Provisioner.plugin_foreign⟩

theorem Provisioner.cleanup_leaves {provisioner : Provisioner} {connection : Connection}
    {restart : Bool} {world : World}
    (law : world.FileLaw) (working : ¬ provisioner.IsLocal → world.Working id) (isFor : connection.IsFor id)
    (orderly : ∀ moment ∈ provisioner.cleanupMoments answerer recorder connection restart world, moment.Orderly) :
    provisioner.Leaves id world (provisioner.cleanupMoments answerer recorder connection restart world)
      (provisioner.cleanup answerer connection restart world) := by
  cases provisioner with
  | local_ key state =>
    have same : SameKernels world (Provisioner.cleanup answerer (.local_ key state) connection restart world).2.2.2 :=
      .setClaims world key _
    exact ⟨same.keep law (fun _ there => there), isFor, fun _ => ⟨key, state, rfl⟩⟩
  | plugin work kernelId name spec config launches info =>
    have told := law.tell_serves (.cleaning kernelId restart)
    obtain ⟨rest, last⟩ := Bench.run_serves trusted (work.cleanup kernelId restart)
      ⟨connection, info, world.tell (.cleaning kernelId restart)⟩ told.law
      ((working Provisioner.plugin_foreign).balanced told.balanced) isFor orderly
    exact ⟨told.trans rest, last, fun isLocal => absurd isLocal Provisioner.plugin_foreign⟩

end

end Mooring
