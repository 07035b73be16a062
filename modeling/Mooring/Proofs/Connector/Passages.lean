import Mooring.Proofs.Connection.Narrowing
import Mooring.Proofs.Connector.Builtin
import Mooring.Proofs.Connector.Moments

/-! What holds of every world that a process comes through, and lasts from each to all later ones. It is enough that
the changes which connectors make keep it: what hooks do in between, and the calls that they make, are such changes
again. -/

namespace Mooring

namespace Kernel

def restarted (answerer : Answerer) (kernel : Kernel) (world : World) : Except Error Unit × Kernel × World :=
  match kernel.provisioner.cleanup answerer kernel.connection true world with
  | (.error error, provisioner, connection, world) => (.error error, ⟨connection, provisioner, false⟩, world)
  | (.ok (), provisioner, connection, world) =>
    match provisioner.preLaunch answerer connection world with
    | (result, provisioner, connection, world) => (result, ⟨connection, provisioner, false⟩, world)

def released (answerer : Answerer) (kernel : Kernel) (world : World) : Except Error Unit × Kernel × World :=
  match kernel.provisioner.cleanup answerer kernel.connection false world with
  | (result, provisioner, connection, world) =>
    (result, ⟨(connection.cleanupFile world.host).1, provisioner, false⟩,
      { world with host := connection.cleaned world.host })

end Kernel

namespace World

theorem restartKernel_of_there (answerer : Answerer) {world : World} {handle : Nat} {kernel : Kernel}
    (there : world.kernels.get? handle = some kernel) :
    restartKernel answerer handle world =
      ((kernel.restarted answerer (world.setKernel handle { kernel with busy := true })).1,
        (kernel.restarted answerer (world.setKernel handle { kernel with busy := true })).2.2.setKernel handle
          (kernel.restarted answerer (world.setKernel handle { kernel with busy := true })).2.1) := by
  unfold restartKernel Kernel.restarted
  rw [there]
  simp only
  rcases kernel.provisioner.cleanup answerer kernel.connection true
    (world.setKernel handle { kernel with busy := true }) with
    ⟨error | _, provisioner, connection, later⟩ <;> rfl

theorem releaseKernel_of_there (answerer : Answerer) {world : World} {handle : Nat} {kernel : Kernel}
    (there : world.kernels.get? handle = some kernel) :
    releaseKernel answerer handle world =
      ((kernel.released answerer (world.setKernel handle { kernel with busy := true })).1,
        (kernel.released answerer (world.setKernel handle { kernel with busy := true })).2.2.setKernel handle
          (kernel.released answerer (world.setKernel handle { kernel with busy := true })).2.1) := by
  unfold releaseKernel Kernel.released
  rw [there]
  rfl

end World

/-- What is to hold of every world, what is to last from each world to later ones, and what is to hold where something
is asked or answered. -/
structure Regime where
  law : World → Prop
  lasts : World → World → Prop
  good : Moment → Prop

namespace Regime

structure Next (regime : Regime) (before after : World) : Prop where
  law : regime.law after
  lasts : regime.lasts before after

structure Steady (regime : Regime) : Prop where
  refl : ∀ world, regime.lasts world world
  trans : ∀ {first second third}, regime.lasts first second → regime.lasts second third → regime.lasts first third
  withHost : ∀ {world : World} (host : Host), regime.law world → regime.Next world { world with host := host }
  tell : ∀ {world : World} (event : Event), regime.law world → regime.Next world (world.tell event)
  setClaims : ∀ {world : World} (key : Nat) (claims : PortClaims), regime.law world →
    regime.Next world (world.setClaims key claims)
  setRegistry : ∀ {world : World} (index : Nat) (registry : Registry), regime.law world →
    regime.Next world (world.setRegistry index registry)
  open_ : ∀ {world : World} {connector : Connector}, regime.law world → (∀ id, connector.slots.get? id = none) →
    regime.Next world (world.addConnector connector).2
  reserve : ∀ {world : World} {index : Nat} {id : String}, regime.law world → (world.connector? index).isSome →
    World.isValidId id = true → world.slot? index id = none → regime.Next world (world.setSlot index id .preparing)
  freeSlot : ∀ {world : World} (index : Nat) (id : String), regime.law world →
    regime.Next world (world.freeSlot index id)
  enroll : ∀ {answerer : Answerer} {index : Nat} {connector : Connector} {id : String} {spec : KernelSpec}
    {world after : World} {kernel : Kernel}, regime.law world → world.connector? index = some connector →
    World.isValidId id = true → World.launch answerer index connector id spec world = (.ok kernel, after) →
    regime.Next world after → regime.Next after (after.enroll index id kernel)
  begin_ : ∀ {world : World} {handle : Nat} {kernel : Kernel}, regime.law world →
    world.kernels.get? handle = some kernel → regime.Next world (world.setKernel handle { kernel with busy := true })
  restarted : ∀ {answerer : Answerer} {world : World} {handle : Nat} {kernel : Kernel}, regime.law world →
    world.kernels.get? handle = some kernel → regime.Next world (kernel.restarted answerer world).2.2 →
    regime.Next (kernel.restarted answerer world).2.2
      ((kernel.restarted answerer world).2.2.setKernel handle (kernel.restarted answerer world).2.1)
  released : ∀ {answerer : Answerer} {world : World} {handle : Nat} {kernel : Kernel}, regime.law world →
    world.kernels.get? handle = some kernel → regime.Next world (kernel.released answerer world).2.2 →
    regime.Next (kernel.released answerer world).2.2
      ((kernel.released answerer world).2.2.setKernel handle (kernel.released answerer world).2.1)
  asked : ∀ {world : World} (index : Nat) (call : Call), regime.law world → regime.good (.asked index call world)
  answered : ∀ {world : World} (answerer : Answerer) (index : Nat) (call : Call), regime.law world →
    regime.good (.answered index call (World.answerWith answerer index call world).1
      (World.answerWith answerer index call world).2)
  refused : ∀ {world : World} (index : Nat) (call : Call), regime.law world →
    regime.good (.answered index call .refused world)

/-- From one world through moments to another, everything is kept. -/
inductive Passes (regime : Regime) : World → List Moment → World → Prop
  | straight {before after : World} (next : regime.Next before after) : Passes regime before [] after
  | through {before after : World} {moment : Moment} {moments : List Moment} (next : regime.Next before moment.world)
      (good : regime.good moment) (rest : Passes regime moment.world moments after) :
      Passes regime before (moment :: moments) after

def Keeps (regime : Regime) (answerer : Answerer) (recorder : Recorder) : Prop :=
  ∀ index call (world : World), regime.law world →
    regime.Passes world (recorder index call world) (answerer index call world).2

section
variable {regime : Regime} (steady : regime.Steady)

namespace Next
include steady

theorem refl {world : World} (law : regime.law world) : regime.Next world world := ⟨law, steady.refl world⟩

theorem trans {first second third : World} (one : regime.Next first second) (two : regime.Next second third) :
    regime.Next first third := ⟨two.law, steady.trans one.lasts two.lasts⟩

end Next

namespace Passes
variable {first second third : World} {moments later : List Moment}

theorem law (passes : regime.Passes first moments second) : regime.law second := by
  induction passes with
  | straight next => exact next.law
  | through _ _ _ ih => exact ih

include steady

theorem before (next : regime.Next first second) (passes : regime.Passes second moments third) :
    regime.Passes first moments third := by
  cases passes with
  | straight more => exact .straight (next.trans steady more)
  | through more good rest => exact .through (next.trans steady more) good rest

theorem append (one : regime.Passes first moments second) (two : regime.Passes second later third) :
    regime.Passes first (moments ++ later) third := by
  induction one with
  | straight next => exact before steady next two
  | through next good _ ih => exact .through next good (ih two)

theorem after (passes : regime.Passes first moments second) (next : regime.Next second third) :
    regime.Passes first moments third := by
  have whole := passes.append steady (.straight next)
  rwa [List.append_nil] at whole

theorem next (passes : regime.Passes first moments second) : regime.Next first second := by
  induction passes with
  | straight next => exact next
  | through next _ _ ih => exact next.trans steady ih

theorem refl {world : World} (law : regime.law world) : regime.Passes world [] world := .straight (.refl steady law)

theorem split {moment : Moment} {front rest : List Moment}
    (passes : regime.Passes first (front ++ moment :: rest) third) :
    regime.Next first moment.world ∧ regime.good moment ∧ regime.Passes moment.world rest third := by
  induction front generalizing first with
  | nil =>
    cases passes with
    | through next good more => exact ⟨next, good, more⟩
  | cons earlier front ih =>
    cases passes with
    | through next _ more =>
      obtain ⟨later, good, after⟩ := ih more
      exact ⟨next.trans steady later, good, after⟩

theorem at_ (passes : regime.Passes first moments third) {moment : Moment} (listed : moment ∈ moments) :
    regime.Next first moment.world := by
  obtain ⟨front, rest, rfl⟩ := List.append_of_mem listed
  exact (passes.split steady).1

end Passes
end

section
variable {regime : Regime} (steady : regime.Steady) {answerer : Answerer} {recorder : Recorder}
  (keeps : regime.Keeps answerer recorder)
include steady keeps

theorem perform_passes {bench : Bench} (law : regime.law bench.world) (action : Action) :
    regime.Passes bench.world (bench.actionMoments recorder action) (bench.perform answerer action).2.world := by
  cases action with
  | writeFile => exact .straight (steady.withHost _ law)
  | keepSnapshot live => exact .refl steady law
  | call choice call =>
    unfold Bench.actionMoments Bench.perform
    simp only
    cases bench.world.select choice with
    | none => exact .refl steady law
    | some index => exact keeps index call bench.world law
  | tell event => exact .straight (steady.tell event law)

theorem run_passes (hook : Hook) (bench : Bench) (law : regime.law bench.world) :
    regime.Passes bench.world (Bench.moments answerer recorder hook bench) (Bench.run answerer hook bench).2.world := by
  induction hook generalizing bench with
  | finish result => exact .refl steady law
  | act action next ih =>
    have first := perform_passes steady keeps law action
    exact first.append steady (ih _ _ first.law)

theorem preLaunch_passes (provisioner : Provisioner) (connection : Connection) {world : World}
    (law : regime.law world) :
    regime.Passes world (provisioner.launchMoments answerer recorder connection world)
      (provisioner.preLaunch answerer connection world).2.2.2 := by
  cases provisioner with
  | local_ key state =>
    have claimed := steady.setClaims key
      (LocalProvisioner.Stage.preLaunch ⟨state, connection, world.claimsOf key, world.host⟩).2.claims law
    exact .straight (claimed.trans steady (steady.withHost _ claimed.law))
  | plugin work id name spec config launches info =>
    have told := steady.tell (.launching id) law
    exact (run_passes steady keeps (work.preLaunch id launches) ⟨connection, info, world.tell (.launching id)⟩
      told.law).before steady told

theorem cleanup_passes (provisioner : Provisioner) (connection : Connection) (restart : Bool) {world : World}
    (law : regime.law world) :
    regime.Passes world (provisioner.cleanupMoments answerer recorder connection restart world)
      (provisioner.cleanup answerer connection restart world).2.2.2 := by
  cases provisioner with
  | local_ key state => exact .straight (steady.setClaims key _ law)
  | plugin work id name spec config launches info =>
    have told := steady.tell (.cleaning id restart) law
    exact (run_passes steady keeps (work.cleanup id restart)
      ⟨connection, info, world.tell (.cleaning id restart)⟩ told.law).before steady told

omit keeps in
theorem ofRegistry_next (registry : Registry) (context : ProvisionerContext) (id : String) (spec : KernelSpec)
    {world : World} (law : regime.law world) :
    regime.Next world (Provisioner.ofRegistry registry context id spec world).2.2 := by
  unfold Provisioner.ofRegistry
  simp only
  split
  next => exact .refl steady law
  next entry later _ =>
    unfold Provisioner.make
    cases entry.maker with
    | builtin => exact .refl steady law
    | plugin work =>
      simp only
      split <;> exact steady.tell _ law

theorem launchWith_passes (provisioner : Provisioner) (connection : Connection) {world : World}
    (law : regime.law world) :
    regime.Passes world (World.launchWithMoments answerer recorder provisioner connection world)
      (World.launchWith answerer provisioner connection world).2 := by
  have launched := preLaunch_passes steady keeps provisioner connection law
  unfold World.launchWithMoments World.launchWith
  generalize provisioner.preLaunch answerer connection world = outcome at launched ⊢
  obtain ⟨result, later, connection', world'⟩ := outcome
  cases result with
  | error error =>
    have cleaned := cleanup_passes steady keeps later connection' false launched.law
    exact launched.append steady (cleaned.after steady (steady.withHost _ cleaned.law))
  | ok =>
    simp only
    rwa [List.append_nil]

theorem launch_passes (index : Nat) (connector : Connector) (id : String) (spec : KernelSpec) {world : World}
    (law : regime.law world) :
    regime.Passes world (World.launchMoments answerer recorder index connector id spec world)
      (World.launch answerer index connector id spec world).2 := by
  rw [World.launch_eq]
  unfold World.launchMoments
  obtain ⟨result, host⟩ := world.host.createDirectories connector.directory
  cases result with
  | error fault => exact .straight (steady.withHost host law)
  | ok =>
    simp only
    obtain ⟨connection, host'⟩ := World.newConnection connector id spec host
    simp only
    have drawn := steady.withHost host' law
    have made := ofRegistry_next steady connector.registry ⟨connector.claims, connector.cachePorts⟩ id spec drawn.law
    generalize Provisioner.ofRegistry _ _ _ _ _ = answer at made ⊢
    obtain ⟨result, registry, later⟩ := answer
    have before := (drawn.trans steady made).trans steady (steady.setRegistry index registry made.law)
    cases result with
    | error error => exact .straight before
    | ok provisioner => exact (launchWith_passes steady keeps provisioner connection before.law).before steady before

theorem prepareAs_passes (index : Nat) (id : String) (spec : KernelSpec) {world : World} (law : regime.law world) :
    regime.Passes world (World.prepareAsMoments answerer recorder index id spec world)
      (World.prepareAs answerer index id spec world).2 := by
  unfold World.prepareAsMoments World.prepareAs
  rcases world.reserve_cases index id with ⟨error, refused⟩ | ⟨valid, free, reserved⟩
  · rw [refused]
    exact .refl steady law
  · rw [reserved]
    simp only
    cases there : (world.setSlot index id .preparing).connector? index with
    | none =>
      rw [World.setSlot_of_missing there]
      exact .refl steady law
    | some connector =>
      have known : (world.connector? index).isSome := by
        rw [← World.isSome_connector?_modifySlots world index index (fun slots => slots.set id .preparing)]
        exact Option.isSome_of_eq_some there
      have begun := steady.reserve law known valid free
      have launched := launch_passes steady keeps index connector id spec begun.law
      simp only
      cases answer : World.launch answerer index connector id spec (world.setSlot index id .preparing) with
      | mk result after =>
        rw [answer] at launched
        cases result with
        | error error => exact (launched.after steady (steady.freeSlot index id launched.law)).before steady begun
        | ok kernel =>
          have enrolled := steady.enroll begun.law there valid answer (launched.next steady)
          exact (launched.after steady enrolled).before steady begun

theorem restartKernel_passes (handle : Nat) {world : World} (law : regime.law world) :
    regime.Passes world (World.restartKernelMoments answerer recorder handle world)
      (World.restartKernel answerer handle world).2 := by
  cases there : world.kernels.get? handle with
  | none =>
    unfold World.restartKernelMoments World.restartKernel
    rw [there]
    exact .refl steady law
  | some kernel =>
    have begun := steady.begin_ law there
    have held : (world.setKernel handle { kernel with busy := true }).kernels.get? handle =
        some { kernel with busy := true } :=
      Table.get?_set_self _ _ _
    rw [World.restartKernel_of_there answerer there]
    unfold World.restartKernelMoments
    rw [there]
    simp only
    generalize world.setKernel handle { kernel with busy := true } = working at begun held ⊢
    have ended : regime.Passes working
        (kernel.provisioner.cleanupMoments answerer recorder kernel.connection true working ++
          match kernel.provisioner.cleanup answerer kernel.connection true working with
          | (.error _, _, _, _) => []
          | (.ok (), provisioner, connection, later) => provisioner.launchMoments answerer recorder connection later)
        (kernel.restarted answerer working).2.2 := by
      have cleaned := cleanup_passes steady keeps kernel.provisioner kernel.connection true begun.law
      unfold Kernel.restarted
      generalize kernel.provisioner.cleanup answerer kernel.connection true working = outcome at cleaned ⊢
      obtain ⟨result, provisioner, connection, later⟩ := outcome
      cases result with
      | error error =>
        simp only
        rwa [List.append_nil]
      | ok => exact cleaned.append steady (preLaunch_passes steady keeps provisioner connection cleaned.law)
    have stored := @Steady.restarted _ steady answerer _ _ _ begun.law held (ended.next steady)
    exact (ended.after steady stored).before steady begun

theorem releaseKernel_passes (handle : Nat) {world : World} (law : regime.law world) :
    regime.Passes world (World.releaseKernelMoments answerer recorder handle world)
      (World.releaseKernel answerer handle world).2 := by
  cases there : world.kernels.get? handle with
  | none =>
    unfold World.releaseKernelMoments World.releaseKernel
    rw [there]
    exact .refl steady law
  | some kernel =>
    have begun := steady.begin_ law there
    have held : (world.setKernel handle { kernel with busy := true }).kernels.get? handle =
        some { kernel with busy := true } :=
      Table.get?_set_self _ _ _
    rw [World.releaseKernel_of_there answerer there]
    unfold World.releaseKernelMoments
    rw [there]
    simp only
    generalize world.setKernel handle { kernel with busy := true } = working at begun held ⊢
    have cleaned := cleanup_passes steady keeps kernel.provisioner kernel.connection false begun.law
    have ended : regime.Passes working
        (kernel.provisioner.cleanupMoments answerer recorder kernel.connection false working)
        (kernel.released answerer working).2.2 := cleaned.after steady (steady.withHost _ cleaned.law)
    have stored := @Steady.released _ steady answerer _ _ _ begun.law held (ended.next steady)
    exact (ended.after steady stored).before steady begun

theorem release_passes (index : Nat) (id : String) {world : World} (law : regime.law world) :
    regime.Passes world (World.releaseMoments answerer recorder index id world)
      (World.release answerer index id world).2 := by
  unfold World.releaseMoments World.release World.takeKernel
  cases world.findKernel index id with
  | error error => exact .refl steady law
  | ok handle =>
    have freed := steady.freeSlot index id law
    exact (releaseKernel_passes steady keeps handle freed.law).before steady freed

theorem releaseEach_passes (index : Nat) (ids : List String) {world : World} (law : regime.law world) :
    regime.Passes world (World.releaseEachMoments answerer recorder index ids world)
      (World.releaseEach answerer index ids world).2 := by
  induction ids generalizing world with
  | nil => exact .refl steady law
  | cons id rest ih =>
    have first := release_passes steady keeps index id law
    exact first.append steady (ih first.law)

/-- Every call keeps everything, if the calls that hooks make do. -/
theorem call_passes (index : Nat) (call : Call) {world : World} (law : regime.law world) :
    regime.Passes world (World.callMoments answerer recorder index call world)
      (World.answerWith answerer index call world).2 := by
  unfold World.callMoments World.answerWith
  split
  next => exact .refl steady law
  next =>
    cases call with
    | prepare id spec =>
      cases id with
      | some id => exact prepareAs_passes steady keeps index id spec law
      | none =>
        have drawn := steady.withHost world.host.drawUuid.2 law
        exact (prepareAs_passes steady keeps index world.host.drawUuid.1 spec drawn.law).before steady drawn
    | restart id =>
      simp only [World.restartMoments, World.restart]
      cases world.findKernel index id with
      | error error => exact .refl steady law
      | ok handle => exact restartKernel_passes steady keeps handle law
    | release id => exact release_passes steady keeps index id law
    | releaseAll => exact releaseEach_passes steady keeps index _ law
    | contains id => exact .refl steady law
    | ids => exact .refl steady law
    | file id => exact .refl steady law
    | info id live => exact .refl steady law
    | connect id channel identity => exact .refl steady law

end

section
variable {regime : Regime} (steady : regime.Steady)
include steady

theorem between_passes {answerer : Answerer} {inner : Recorder} {index : Nat} {call : Call} {world : World}
    (law : regime.law world)
    (passes : regime.Passes world (inner index call world) (answerer index call world).2)
    (good : regime.good (.answered index call (answerer index call world).1 (answerer index call world).2)) :
    regime.Passes world (World.between answerer inner index call world) (answerer index call world).2 := by
  refine .through (.refl steady law) (steady.asked index call law) (passes.append steady ?_)
  exact .through (.refl steady passes.law) good (.refl steady passes.law)

theorem answer_keeps : ∀ depth, regime.Keeps (World.answer depth) (World.moments depth)
  | 0 => fun index call _ law => between_passes steady law (.refl steady law) (steady.refused index call law)
  | depth + 1 => fun index call _ law =>
    between_passes steady law (call_passes steady (answer_keeps depth) index call law)
      (steady.answered (World.answer depth) index call law)

theorem move_passes (depth : Nat) {world : World} (law : regime.law world) {step : Move}
    (empty : ∀ connector, step = .open_ connector → ∀ id, connector.slots.get? id = none) :
    regime.Passes world (world.moveMoments depth step) (world.move (World.answer depth) step) := by
  cases step with
  | call index call => exact answer_keeps steady (depth + 1) index call world law
  | open_ connector => exact .straight (steady.open_ law (empty connector rfl))
  | outside host => exact .straight (steady.withHost host law)

/-- A whole run keeps everything, if connectors come without kernels. -/
theorem trace_passes (depth : Nat) {world : World} (law : regime.law world) {moves : List Move}
    (empty : ∀ connector, .open_ connector ∈ moves → ∀ id, connector.slots.get? id = none) :
    regime.Passes world (World.trace depth world moves) (World.run (World.answer depth) world moves) := by
  induction moves generalizing world with
  | nil => exact .refl steady law
  | cons step rest ih =>
    have first := move_passes steady depth law
      (fun connector same => empty connector (same ▸ List.mem_cons_self))
    exact first.append steady (ih first.law (fun connector listed => empty connector (List.mem_cons_of_mem _ listed)))

end

end Regime
end Mooring
