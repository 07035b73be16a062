import Mooring.Proofs.Connector.Builtin
import Mooring.Proofs.Connector.KeptFiles

/-! The files of kernels over whole runs. Every call keeps the files of the kernels that stay ready, if no id
is prepared again while its last kernel is still at work. Where that happens, the release that is at work
removes the file of the new kernel. -/

namespace Mooring

open Host (Place Spares SparesAll)

namespace World

def Launched (id : String) (outcome : Except Error Kernel × World) : Prop :=
  ∀ kernel, outcome.1 = .ok kernel → kernel.connection.IsFor id ∧ kernel.busy = false ∧
    (kernel.provisioner.IsLocal → kernel.connection.written = true ∧ kernel.HasFile outcome.2.host)

theorem FileLaw.cleaned_serves {world : World} (law : world.FileLaw) {connection : Connection} {id : String}
    (isFor : connection.IsFor id) (vacant : ∀ index handle, ¬ world.ReadyLocal index id handle) :
    Serves world [] { world with
      host := (connection.cleanupFile world.host).1.cleanupSockets (connection.cleanupFile world.host).2 } := by
  exact (SameKernels.withHost world _).serves law
    (.of_spares (.withHost world _) (isFor.cleanup_spares world.host) vacant)

theorem ofRegistry_same (registry : Registry) (context : ProvisionerContext) (id : String) (spec : KernelSpec)
    (world : World) :
    SameKernels world (Provisioner.ofRegistry registry context id spec world).2.2 ∧
      (Provisioner.ofRegistry registry context id spec world).2.2.host = world.host := by
  unfold Provisioner.ofRegistry
  simp only
  split
  next => exact ⟨.refl world, rfl⟩
  next entry registry' _ =>
    unfold Provisioner.make
    cases entry.maker with
    | builtin => exact ⟨.refl world, rfl⟩
    | plugin work =>
      simp only
      split <;> exact ⟨.tell world _, rfl⟩

theorem ofRegistry_serves {world : World} (law : world.FileLaw) (index : Nat) (registry : Registry)
    (context : ProvisionerContext) (id : String) (spec : KernelSpec) {result : Except Error Provisioner}
    {registry' : Registry} {world' : World}
    (answer : Provisioner.ofRegistry registry context id spec world = (result, registry', world')) :
    Serves world [] (world'.setRegistry index registry') := by
  obtain ⟨same, sameHost⟩ := ofRegistry_same registry context id spec world
  rw [answer] at same sameHost
  have looked := same.keep law (fun place there => sameHost.symm ▸ there)
  have stored := (SameKernels.setRegistry world' index registry').keep looked.law (fun _ there => there)
  exact looked.trans stored

section
variable {answerer : Answerer} {recorder : Recorder} (trusted : Trusted answerer recorder) {id : String}
include trusted

theorem abandon_serves {world : World} (law : world.FileLaw) (working : world.Working id) {provisioner : Provisioner}
    {connection : Connection} (isFor : connection.IsFor id)
    (orderly : ∀ moment ∈ provisioner.cleanupMoments answerer recorder connection false world, moment.Orderly) :
    Serves world (provisioner.cleanupMoments answerer recorder connection false world)
      (world.abandon answerer provisioner connection) := by
  have left := Provisioner.cleanup_leaves trusted law (fun _ => working) isFor orderly
  have gone := left.serves.law.cleaned_serves left.isFor
    (left.serves.law.not_readyLocal (working.balanced left.serves.balanced))
  have whole := left.serves.trans gone
  rwa [List.append_nil] at whole

theorem launchWith_serves {world : World} (law : world.FileLaw) (working : world.Working id) {provisioner : Provisioner}
    {connection : Connection} (isFor : connection.IsFor id) (fresh : connection.written = false)
    (orderly : ∀ moment ∈ launchWithMoments answerer recorder provisioner connection world, moment.Orderly) :
    Serves world (launchWithMoments answerer recorder provisioner connection world)
        (launchWith answerer provisioner connection world).2 ∧
      Launched id (launchWith answerer provisioner connection world) := by
  unfold launchWithMoments at orderly ⊢
  unfold launchWith
  have left := Provisioner.preLaunch_leaves trusted law working isFor
    (fun moment listed => orderly moment (List.mem_append_left _ listed))
  have stands : (provisioner.preLaunch answerer connection world).1 = .ok () → provisioner.IsLocal →
      (provisioner.preLaunch answerer connection world).2.2.1.written = true ∧
        ∃ path place, (provisioner.preLaunch answerer connection world).2.2.1.file = some path ∧
          (provisioner.preLaunch answerer connection world).2.2.2.host.placeOf? path = some place ∧
            (provisioner.preLaunch answerer connection world).2.2.2.host.hasFile place := by
    rintro done ⟨key, state, rfl⟩
    exact LocalProvisioner.Stage.preLaunch_stands ⟨state, connection, world.claimsOf key, world.host⟩ fresh done
  cases answer : provisioner.preLaunch answerer connection world with
  | mk result rest =>
    obtain ⟨provisioner', connection', world'⟩ := rest
    rw [answer] at left stands orderly
    cases result with
    | error error =>
      have undone := abandon_serves trusted left.serves.law (working.balanced left.serves.balanced) left.isFor
        (fun moment listed => orderly moment (List.mem_append_right _ listed))
      exact ⟨left.serves.trans undone, fun kernel done => by cases done⟩
    | ok =>
      refine ⟨left.serves.trans left.serves.law.serves, fun kernel done => ?_⟩
      cases done
      refine ⟨left.isFor, rfl, fun isLocal => ?_⟩
      obtain ⟨written, path, place, named, leads, there⟩ := stands rfl (left.kind isLocal)
      exact ⟨written, path, place, named, leads, there⟩

theorem launch_serves {world : World} (law : world.FileLaw) (working : world.Working id) (valid : isValidId id = true)
    (index : Nat) (connector : Connector) (spec : KernelSpec)
    (orderly : ∀ moment ∈ launchMoments answerer recorder index connector id spec world, moment.Orderly) :
    Serves world (launchMoments answerer recorder index connector id spec world)
        (launch answerer index connector id spec world).2 ∧
      Launched id (launch answerer index connector id spec world) := by
  rw [launch_eq]
  unfold launchMoments at orderly ⊢
  have made := world.host.createDirectories_spares connector.directory
  cases answer : world.host.createDirectories connector.directory with
  | mk result host =>
    rw [answer] at made orderly
    cases result with
    | error fault =>
      exact ⟨law.spared_serves made, fun kernel done => by cases done⟩
    | ok =>
      obtain ⟨drawn, _, _, fresh, named⟩ := newConnection_cases connector id spec host
      simp only at orderly ⊢
      generalize newConnection connector id spec host = new at drawn fresh named orderly ⊢
      obtain ⟨connection, host'⟩ := new
      simp only at drawn fresh named orderly ⊢
      have isFor : connection.IsFor id := ⟨_, named, getLast?_kernelPath connector.directory valid⟩
      have spares : SparesAll world.host host' := drawn ▸ made.trans host.drawUuid_spares
      have arrived := law.spared_serves spares
      cases answer' : Provisioner.ofRegistry connector.registry ⟨connector.claims, connector.cachePorts⟩ id spec
          { world with host := host' } with
      | mk result' rest =>
        obtain ⟨registry, world'⟩ := rest
        rw [answer'] at orderly
        have before : Serves world [] (world'.setRegistry index registry) :=
          arrived.trans (ofRegistry_serves arrived.law index _ _ id spec answer')
        cases result' with
        | error error => exact ⟨before, fun kernel done => by cases done⟩
        | ok provisioner =>
          obtain ⟨rest, launched⟩ :=
            launchWith_serves trusted before.law (working.balanced before.balanced) isFor fresh orderly
          exact ⟨before.trans rest, launched⟩

theorem prepareAs_serves {world : World} (law : world.FileLaw) (index : Nat) (spec : KernelSpec)
    (settled : world.slot? index id = none → world.IsSettled id)
    (orderly : ∀ moment ∈ prepareAsMoments answerer recorder index id spec world, moment.Orderly) :
    Serves world (prepareAsMoments answerer recorder index id spec world) (prepareAs answerer index id spec world).2 ∧
      ∀ name, (prepareAs answerer index id spec world).1 = .ok name →
        (prepareAs answerer index id spec world).2.Prepared index name := by
  unfold prepareAsMoments at orderly ⊢
  unfold prepareAs
  rcases world.reserve_cases index id with ⟨error, refused⟩ | ⟨valid, free, reserved⟩
  · rw [refused]
    exact ⟨law.serves, fun name done => by cases done⟩
  · rw [reserved] at orderly ⊢
    simp only at orderly ⊢
    cases there : (world.setSlot index id .preparing).connector? index with
    | none =>
      rw [setSlot_of_missing there]
      exact ⟨law.serves, fun name done => by cases done⟩
    | some connector =>
      rw [there] at orderly
      simp only at orderly ⊢
      have known : (world.connector? index).isSome := by
        rw [← isSome_connector?_modifySlots world index index (fun slots => slots.set id .preparing)]
        exact Option.isSome_of_eq_some there
      have mine : (world.setSlot index id .preparing).slot? index id = some .preparing := by
        rw [slot?_setSlot world known, if_pos ⟨rfl, rfl⟩]
      obtain ⟨served, launched⟩ := launch_serves trusted (law.reserve known (settled free))
          (.preparing index mine) valid
        index connector spec orderly
      have still := served.balanced.preparing index id mine
      have passes := served.passes.before (KeepsFiles.reserve known id)
      cases answer : launch answerer index connector id spec (world.setSlot index id .preparing) with
      | mk result after =>
        rw [answer] at served launched still passes
        cases result with
        | error error =>
          exact ⟨⟨served.law.freeSlot index id, served.balanced.unreserve known free,
            passes.after (.freeSlot after index id)⟩,
            fun name done => by cases done⟩
        | ok kernel =>
          obtain ⟨isFor, idle, stands⟩ := launched kernel rfl
          have known' := isSome_connector?_of_slot? still
          refine ⟨⟨served.law.enroll still isFor (fun isLocal => (stands isLocal).1) idle,
            served.balanced.enroll known free served.law idle, passes.after (.enroll known' id kernel)⟩,
            fun name done => ?_⟩
          cases done
          refine ⟨after.nextKernel, kernel, ?_, ?_, Nat.lt_succ_self _, isFor, fun isLocal => (stands isLocal).2⟩
          · exact (slot?_enroll after known' id kernel index id).trans (if_pos ⟨rfl, rfl⟩)
          · exact Table.get?_set_self _ _ _

theorem prepare_serves {world : World} (law : world.FileLaw) (index : Nat) (name : Option String) (spec : KernelSpec)
    (asked : (Moment.asked index (.prepare name spec) world).Orderly)
    (orderly : ∀ moment ∈ prepareMoments answerer recorder index name spec world, moment.Orderly) :
    Serves world (prepareMoments answerer recorder index name spec world) (prepare answerer index name spec world).2 ∧
      ∀ id, (prepare answerer index name spec world).1 = .ok id →
        (prepare answerer index name spec world).2.Prepared index id := by
  cases name with
  | some id => exact prepareAs_serves trusted law index spec asked orderly
  | none =>
    have drawn := law.spared_serves world.host.drawUuid_spares
    obtain ⟨rest, stands⟩ := prepareAs_serves trusted drawn.law index spec asked orderly
    exact ⟨drawn.trans rest, stands⟩

end

theorem FileLaw.isIdle {world : World} (law : world.FileLaw) {index : Nat} {id : String} {handle : Nat}
    (taken : world.slot? index id = some (.ready handle))
    (rests : world.isBusy index id = false) : world.IsIdle id := by
  intro other kernel there working isFor
  cases law.busy other kernel index id _ there working isFor taken
  have found := (world.handle?_eq_some index id handle).mpr taken
  simp [isBusy, found, there, working] at rests

theorem FileLaw.readyKernel {world : World} (law : world.FileLaw) {index : Nat} {id : String} {handle : Nat}
    (taken : world.slot? index id = some (.ready handle)) (idle : world.IsIdle id) : ∃ kernel,
      world.kernels.get? handle = some kernel ∧ kernel.connection.IsFor id ∧
        (kernel.provisioner.IsLocal → kernel.connection.written = true) ∧ kernel.busy = false := by
  obtain ⟨kernel, there, isFor, written⟩ := law.ready index id handle taken
  exact ⟨kernel, there, isFor, written, Bool.eq_false_iff.mpr (fun working => idle handle kernel there working isFor)⟩

/-- Work on a kernel begins when nobody else works on it, and no other kernel has its id. -/
theorem FileLaw.work {world : World} (law : world.FileLaw) {handle : Nat} {kernel : Kernel} {id : String}
    (there : world.kernels.get? handle = some kernel) (isFor : kernel.connection.IsFor id)
    (written : kernel.provisioner.IsLocal → kernel.connection.written = true)
    (slots : ∀ index slot, world.slot? index id = some slot → slot = .ready handle) :
    (world.setKernel handle { kernel with busy := true }).FileLaw := by
  refine law.setKernel there (fun _ same => same) (fun _ _ _ => written) (fun _ index name slot named taken => ?_)
  cases isFor.unique named
  exact slots index slot taken

theorem Serves.around {world later : World} {moments : List Moment} {handle : Nat} {kernel : Kernel} {id : String}
    (there : world.kernels.get? handle = some kernel) (isFor : kernel.connection.IsFor id) (idle : kernel.busy = false)
    (done : Kernel) (middle : Serves (world.setKernel handle { kernel with busy := true }) moments later)
    (doneFor : done.connection.IsFor id) (rests : done.busy = false)
    (kind : done.provisioner.IsLocal → kernel.provisioner.IsLocal)
    (written : ∀ index name, later.slot? index name = some (.ready handle) → done.provisioner.IsLocal →
      done.connection.written = true) : Serves world moments (later.setKernel handle done) := by
  have held : later.kernels.get? handle = some { kernel with busy := true } := by
    rw [middle.balanced.busy handle _ rfl, get?_setKernel, if_pos rfl]
  have began : KeepsFiles world (world.setKernel handle { kernel with busy := true }) :=
    .setKernel there (fun isLocal => isLocal)
  refine ⟨middle.law.setKernel held (fun name named => ?_) written (fun working => ?_),
    middle.balanced.around there idle rests, ?_⟩
  · exact isFor.unique named ▸ doneFor
  · rw [rests] at working
    cases working
  · exact (middle.passes.before began).after (.setKernel held kind)

theorem working_setKernel (world : World) (handle : Nat) (kernel : Kernel) {id : String}
    (isFor : kernel.connection.IsFor id) (foreign : ¬ kernel.provisioner.IsLocal) :
    (world.setKernel handle { kernel with busy := true }).Working id :=
  .busy handle { kernel with busy := true } (by rw [get?_setKernel, if_pos rfl]) rfl isFor foreign

theorem restartLocal_serves {answerer : Answerer} {recorder : Recorder} {id : String} {world : World} {handle : Nat}
    {connection : Connection} {key : Nat} {state : LocalProvisioner}
    (there : world.kernels.get? handle = some ⟨connection, .local_ key state, false⟩) (isFor : connection.IsFor id)
    (written : connection.written = true)
    (law : (world.setKernel handle ⟨connection, .local_ key state, true⟩).FileLaw) :
    Serves world (restartKernelMoments answerer recorder handle world) (restartKernel answerer handle world).2 := by
  unfold restartKernelMoments restartKernel
  rw [there]
  simp only
  rw [Provisioner.cleanup_local]
  simp only
  rw [Provisioner.preLaunch_local]
  simp only [Provisioner.cleanupMoments, Provisioner.launchMoments, List.append_nil]
  generalize begins : LocalProvisioner.Stage.mk _ connection _ _ = stage
  have sameConnection : stage.connection = connection := by rw [← begins]
  have sameHost : stage.host = world.host := by
    rw [← begins]
    rfl
  obtain ⟨file, _⟩ := stage.preLaunch_file (sameConnection.symm ▸ isFor)
  obtain ⟨mark, spares⟩ := stage.preLaunch_written (sameConnection.symm ▸ written)
  rw [sameHost] at spares
  have launched {later : World} (same :
      SameKernels (world.setKernel handle ⟨connection, .local_ key state, true⟩) later)
      (host : later.host = stage.preLaunch.2.host) :
      Serves (world.setKernel handle ⟨connection, .local_ key state, true⟩) [] later :=
    same.keep law (fun place old => host.symm ▸ spares.files place not_false old)
  refine Serves.around there isFor rfl _
    (launched (((SameKernels.setClaims _ key _).trans (.setClaims _ key _)).trans (.withHost _ _)) rfl) ?_ rfl
    (fun _ => ⟨key, state, rfl⟩) (fun _ _ _ _ => mark)
  exact isFor.congr (file.trans (congrArg Connection.file sameConnection))

section
variable {answerer : Answerer} {recorder : Recorder} (trusted : Trusted answerer recorder) {id : String}
include trusted

theorem restartPlugin_serves {world : World} {handle : Nat} {connection : Connection} {provisioner : Provisioner}
    (there : world.kernels.get? handle = some ⟨connection, provisioner, false⟩) (isFor : connection.IsFor id)
    (foreign : ¬ provisioner.IsLocal) (law : (world.setKernel handle ⟨connection, provisioner, true⟩).FileLaw)
    (orderly : ∀ moment ∈ restartKernelMoments answerer recorder handle world, moment.Orderly) :
    Serves world (restartKernelMoments answerer recorder handle world) (restartKernel answerer handle world).2 := by
  unfold restartKernelMoments at orderly ⊢
  unfold restartKernel
  rw [there] at orderly ⊢
  simp only at orderly ⊢
  have working := working_setKernel world handle ⟨connection, provisioner, false⟩ isFor foreign
  have left := Provisioner.cleanup_leaves trusted law (fun _ => working) isFor
    (fun moment listed => orderly moment (List.mem_append_left _ listed))
  cases answer : provisioner.cleanup answerer connection true
    (world.setKernel handle ⟨connection, provisioner, true⟩) with
  | mk result rest =>
    obtain ⟨provisioner', connection', later⟩ := rest
    rw [answer] at left orderly
    cases result with
    | error error =>
      have whole := Serves.around there isFor rfl ⟨connection', provisioner', false⟩ left.serves left.isFor rfl
        left.kind (fun _ _ _ other => absurd (left.kind other) foreign)
      simp only
      rwa [List.append_nil]
    | ok =>
      have again := Provisioner.preLaunch_leaves trusted left.serves.law
          (working.balanced left.serves.balanced) left.isFor
        (fun moment listed => orderly moment (List.mem_append_right _ listed))
      have kind := left.kind ∘ again.kind
      exact Serves.around there isFor rfl _ (left.serves.trans again.serves) again.isFor rfl kind
        (fun _ _ _ other => absurd (kind other) foreign)

theorem restartKernel_serves {world : World} {handle : Nat} {kernel : Kernel}
    (there : world.kernels.get? handle = some kernel) (isFor : kernel.connection.IsFor id) (idle : kernel.busy = false)
    (written : kernel.provisioner.IsLocal → kernel.connection.written = true)
    (law : (world.setKernel handle { kernel with busy := true }).FileLaw)
    (orderly : ∀ moment ∈ restartKernelMoments answerer recorder handle world, moment.Orderly) :
    Serves world (restartKernelMoments answerer recorder handle world) (restartKernel answerer handle world).2 := by
  obtain ⟨connection, provisioner, busy⟩ := kernel
  cases idle
  by_cases isLocal : provisioner.IsLocal
  · have mark := written isLocal
    obtain ⟨key, state, rfl⟩ := isLocal
    exact restartLocal_serves there isFor mark law
  · exact restartPlugin_serves trusted there isFor isLocal law orderly

theorem restart_serves {world : World} (law : world.FileLaw) (index : Nat)
    (idle : ∀ handle, world.slot? index id = some (.ready handle) → world.IsIdle id)
    (orderly : ∀ moment ∈ restartMoments answerer recorder index id world, moment.Orderly) :
    Serves world (restartMoments answerer recorder index id world) (restart answerer index id world).2 := by
  unfold restartMoments findKernel at orderly ⊢
  unfold restart findKernel
  cases found : world.handle? index id with
  | none => exact law.serves
  | some handle =>
    rw [found] at orderly
    have taken := (world.handle?_eq_some index id handle).mp found
    obtain ⟨kernel, there, isFor, written, rests⟩ := law.readyKernel taken (idle handle taken)
    have law' := law.work there isFor written (fun other slot known => by
      cases law.alone index other id _ _ taken known
      exact Option.some.inj (known.symm.trans taken))
    exact restartKernel_serves trusted there isFor rests written law' orderly

theorem releaseKernel_serves {world : World} {handle : Nat} {kernel : Kernel}
    (there : world.kernels.get? handle = some kernel) (isFor : kernel.connection.IsFor id) (idle : kernel.busy = false)
    (free : ∀ index, world.slot? index id = none) (law : (world.setKernel handle { kernel with busy := true }).FileLaw)
    (orderly : ∀ moment ∈ releaseKernelMoments answerer recorder handle world, moment.Orderly) :
    Serves world (releaseKernelMoments answerer recorder handle world) (releaseKernel answerer handle world).2 := by
  unfold releaseKernelMoments at orderly ⊢
  unfold releaseKernel
  rw [there] at orderly ⊢
  obtain ⟨connection, provisioner, busy⟩ := kernel
  simp only at orderly isFor idle law ⊢
  have left := Provisioner.cleanup_leaves trusted law
    (fun foreign => working_setKernel world handle ⟨connection, provisioner, busy⟩ isFor foreign) isFor orderly
  have slots : provisioner.IsLocal → ∀ index name, (provisioner.cleanup answerer connection false
      (world.setKernel handle ⟨connection, provisioner, true⟩)).2.2.2.slot? index name = world.slot? index name := by
    rintro ⟨key, state, rfl⟩ index name
    rfl
  have vacant (index other : Nat) : ¬ (provisioner.cleanup answerer connection false
      (world.setKernel handle ⟨connection, provisioner, true⟩)).2.2.2.ReadyLocal index id other := by
    by_cases isLocal : provisioner.IsLocal
    · rintro ⟨taken, _⟩
      rw [slots isLocal, free] at taken
      cases taken
    · have working := working_setKernel world handle ⟨connection, provisioner, busy⟩ isFor isLocal
      exact left.serves.law.not_readyLocal (working.balanced left.serves.balanced) index other
  have gone := left.serves.trans (left.serves.law.cleaned_serves left.isFor vacant)
  rw [List.append_nil] at gone
  refine Serves.around there isFor idle _ gone (left.isFor.congr ((provisioner.cleanup answerer connection false
    (world.setKernel handle ⟨connection, provisioner, true⟩)).2.2.1.cleanupFile_file _)) rfl left.kind ?_
  intro index name taken isLocal
  have taken' := (slots (left.kind isLocal) index name).symm.trans taken
  obtain ⟨held, known, named, _⟩ := law.ready index name handle taken'
  rw [get?_setKernel, if_pos rfl] at known
  cases known
  cases isFor.unique named
  rw [free] at taken'
  cases taken'

theorem release_serves {world : World} (law : world.FileLaw) (index : Nat)
    (idle : ∀ handle, world.slot? index id = some (.ready handle) → world.IsIdle id)
    (orderly : ∀ moment ∈ releaseMoments answerer recorder index id world, moment.Orderly) :
    Serves world (releaseMoments answerer recorder index id world) (release answerer index id world).2 := by
  unfold releaseMoments takeKernel findKernel at orderly ⊢
  unfold release takeKernel findKernel
  cases found : world.handle? index id with
  | none => exact law.serves
  | some handle =>
    rw [found] at orderly
    have taken := (world.handle?_eq_some index id handle).mp found
    obtain ⟨kernel, there, isFor, written, rests⟩ := law.readyKernel taken (idle handle taken)
    have free (other : Nat) : (world.freeSlot index id).slot? other id = none := by
      rw [slot?_freeSlot]
      split
      next => rfl
      next elsewhere =>
        cases known : world.slot? other id with
        | none => rfl
        | some slot => exact absurd ⟨(law.alone index other id _ _ taken known).symm, rfl⟩ elsewhere
    have freed : (world.freeSlot index id).kernels.get? handle = some kernel := there
    have law' := (law.freeSlot index id).work freed isFor written (fun other slot known => by
      rw [free] at known
      cases known)
    have served := releaseKernel_serves trusted freed isFor rests free law' orderly
    exact ⟨served.law, (Balanced.freeSlot taken).trans served.balanced, served.passes.before (.freeSlot world index id)⟩

theorem releaseEach_serves {world : World} (law : world.FileLaw) (index : Nat) (ids : List String)
    (idle : ∀ id ∈ ids, ∀ handle, world.slot? index id = some (.ready handle) → world.IsIdle id)
    (orderly : ∀ moment ∈ releaseEachMoments answerer recorder index ids world, moment.Orderly) :
    Serves world (releaseEachMoments answerer recorder index ids world) (releaseEach answerer index ids world).2 := by
  induction ids generalizing world with
  | nil => exact law.serves
  | cons id rest ih =>
    have first := release_serves trusted law index (idle id List.mem_cons_self)
      (fun moment listed => orderly moment (List.mem_append_left _ listed))
    refine first.trans (ih first.law ?_ (fun moment listed => orderly moment (List.mem_append_right _ listed)))
    intro name listed handle taken other kernel there working isFor
    cases first.law.busy other kernel index name _ there working isFor taken
    -- A kernel that is at work now was at work before, under the same id.
    have there' := (first.balanced.busy handle kernel working).mp there
    have taken' := first.passes.whole.slots index name handle (law.below handle kernel there') taken
    exact idle name (List.mem_cons_of_mem _ listed) handle taken' handle kernel there' working isFor

theorem answerWith_serves {world : World} (law : world.FileLaw) (index : Nat) (call : Call)
    (asked : (Moment.asked index call world).Orderly)
    (orderly : ∀ moment ∈ callMoments answerer recorder index call world, moment.Orderly) :
    Serves world (callMoments answerer recorder index call world) (answerWith answerer index call world).2 ∧
      (Moment.answered index call (answerWith answerer index call world).1
        (answerWith answerer index call world).2).Stands := by
  unfold callMoments at orderly ⊢
  unfold answerWith
  cases stuck : world.isStuck index call with
  | true => exact ⟨law.serves, by cases call <;> trivial⟩
  | false =>
    rw [stuck] at orderly
    simp only [Bool.false_eq_true, if_false] at orderly ⊢
    cases call with
    | prepare name spec =>
      obtain ⟨served, stands⟩ := prepare_serves trusted law index name spec asked orderly
      refine ⟨served, ?_⟩
      simp only
      cases answer : (prepare answerer index name spec world).1 with
      | error error => trivial
      | ok id => exact stands id answer
    | restart id =>
      exact ⟨restart_serves trusted law index (fun _ taken => law.isIdle taken stuck) orderly, trivial⟩
    | release id =>
      exact ⟨release_serves trusted law index (fun _ taken => law.isIdle taken stuck) orderly, trivial⟩
    | releaseAll =>
      refine ⟨releaseEach_serves trusted law index (world.ids index) (fun id listed _ taken => ?_) orderly, trivial⟩
      have rests : (world.ids index).any (world.isBusy index) = false := stuck
      exact law.isIdle taken (Bool.eq_false_iff.mpr (List.any_eq_false.mp rests id listed))
    | contains id => exact ⟨law.serves, trivial⟩
    | ids => exact ⟨law.serves, trivial⟩
    | file id => exact ⟨law.serves, trivial⟩
    | info id live => exact ⟨law.serves, trivial⟩
    | connect id channel identity => exact ⟨law.serves, trivial⟩

theorem answerWith_trusted : Trusted (answerWith answerer)
    (between (answerWith answerer) (callMoments answerer recorder)) := by
  intro index call world law orderly
  unfold between at orderly ⊢
  rw [List.forall_mem_cons, List.forall_mem_append] at orderly
  obtain ⟨served, stands⟩ := answerWith_serves trusted law index call orderly.1 orderly.2.1
  refine ⟨served.law, served.balanced, .through (.refl world) trivial ?_⟩
  exact served.passes.append (.through (.refl _) stands (.straight (.refl _)))

end

theorem answer_trusted (depth : Nat) : Trusted (answer depth) (moments depth) := by
  induction depth with
  | zero =>
    intro index call world law _
    refine ⟨law, (SameKernels.refl world).balanced, .through (.refl world) trivial (.through (.refl world) ?_ ?_)⟩
    · cases call <;> trivial
    · exact .straight (.refl world)
  | succ depth ih => exact answerWith_trusted ih

end World
end Mooring
