import Mooring.Connector.Calls

/-! Runs and their moments. A call is asked and answered at the top of a run, but also by hooks while another
call is at work, so that what holds in between is said of these moments. They follow the calls step by
step; the worlds in them are those that the calls go through. -/

namespace Mooring

/-- What may happen in a process with connectors. Anything may happen to the machine between two calls. -/
inductive Move
  | call (index : Nat) (call : Call)
  | open_ (connector : Connector)
  | outside (host : Host)

namespace World

def move (answerer : Answerer) (world : World) : Move → World
  | .call index call => (answerWith answerer index call world).2
  | .open_ connector => (world.addConnector connector).2
  | .outside host => { world with host := host }

def run (answerer : Answerer) (world : World) (moves : List Move) : World := moves.foldl (move answerer) world

end World

/-- A connector is asked something, or it answers. -/
inductive Moment
  | asked (index : Nat) (call : Call) (world : World)
  | answered (index : Nat) (call : Call) (reply : Reply) (world : World)

def Moment.world : Moment → World
  | .asked _ _ world => world
  | .answered _ _ _ world => world

abbrev Recorder := Nat → Call → World → List Moment

namespace Bench

def actionMoments (recorder : Recorder) (bench : Bench) : Action → List Moment
  | .call choice call =>
    match bench.world.select choice with
    | none => []
    | some index => recorder index call bench.world
  | .writeFile => []
  | .keepSnapshot _ => []
  | .tell _ => []

def moments (answerer : Answerer) (recorder : Recorder) : Hook → Bench → List Moment
  | .finish _, _ => []
  | .act action next, bench =>
    bench.actionMoments recorder action ++
      moments answerer recorder (next (bench.perform answerer action).1) (bench.perform answerer action).2

end Bench

section
variable (answerer : Answerer) (recorder : Recorder)

namespace Provisioner

def launchMoments (provisioner : Provisioner) (connection : Connection) (world : World) : List Moment :=
  match provisioner with
  | .local_ .. => []
  | .plugin work id _ _ _ launches info =>
    Bench.moments answerer recorder (work.preLaunch id launches) ⟨connection, info, world.tell (.launching id)⟩

def cleanupMoments (provisioner : Provisioner) (connection : Connection) (restart : Bool) (world : World) :
    List Moment :=
  match provisioner with
  | .local_ .. => []
  | .plugin work id _ _ _ _ info =>
    Bench.moments answerer recorder (work.cleanup id restart) ⟨connection, info, world.tell (.cleaning id restart)⟩

end Provisioner

namespace World

def launchWithMoments (provisioner : Provisioner) (connection : Connection) (world : World) : List Moment :=
  provisioner.launchMoments answerer recorder connection world ++
    match provisioner.preLaunch answerer connection world with
    | (.error _, provisioner, connection, world) =>
      provisioner.cleanupMoments answerer recorder connection false world
    | (.ok (), _, _, _) => []

def launchMoments (index : Nat) (connector : Connector) (id : String) (spec : KernelSpec) (world : World) :
    List Moment :=
  match world.host.createDirectories connector.directory with
  | (.error _, _) => []
  | (.ok (), host) =>
    let (connection, host) := newConnection connector id spec host
    match Provisioner.ofRegistry connector.registry ⟨connector.claims, connector.cachePorts⟩ id spec
        { world with host := host } with
    | (.error _, _, _) => []
    | (.ok provisioner, registry, world) =>
      launchWithMoments answerer recorder provisioner connection (world.setRegistry index registry)

def prepareAsMoments (index : Nat) (id : String) (spec : KernelSpec) (world : World) : List Moment :=
  match world.reserve index id with
  | (.error _, _) => []
  | (.ok (), world) =>
    match world.connector? index with
    | none => []
    | some connector => launchMoments answerer recorder index connector id spec world

def prepareMoments (index : Nat) (id : Option String) (spec : KernelSpec) (world : World) : List Moment :=
  match id with
  | some id => prepareAsMoments answerer recorder index id spec world
  | none =>
    let (id, host) := world.host.drawUuid
    prepareAsMoments answerer recorder index id spec { world with host := host }

def restartKernelMoments (handle : Nat) (world : World) : List Moment :=
  match world.kernels.get? handle with
  | none => []
  | some kernel =>
    let world := world.setKernel handle { kernel with busy := true }
    kernel.provisioner.cleanupMoments answerer recorder kernel.connection true world ++
      match kernel.provisioner.cleanup answerer kernel.connection true world with
      | (.error _, _, _, _) => []
      | (.ok (), provisioner, connection, world) => provisioner.launchMoments answerer recorder connection world

def restartMoments (index : Nat) (id : String) (world : World) : List Moment :=
  match world.findKernel index id with
  | .error _ => []
  | .ok handle => restartKernelMoments answerer recorder handle world

def releaseKernelMoments (handle : Nat) (world : World) : List Moment :=
  match world.kernels.get? handle with
  | none => []
  | some kernel =>
    kernel.provisioner.cleanupMoments answerer recorder kernel.connection false
      (world.setKernel handle { kernel with busy := true })

def releaseMoments (index : Nat) (id : String) (world : World) : List Moment :=
  match world.takeKernel index id with
  | (.error _, _) => []
  | (.ok handle, world) => releaseKernelMoments answerer recorder handle world

def releaseEachMoments (index : Nat) : List String → World → List Moment
  | [], _ => []
  | id :: rest, world =>
    releaseMoments answerer recorder index id world ++ releaseEachMoments index rest (release answerer index id world).2

def callMoments (index : Nat) (call : Call) (world : World) : List Moment :=
  if world.isStuck index call then []
  else
    match call with
    | .prepare id spec => prepareMoments answerer recorder index id spec world
    | .restart id => restartMoments answerer recorder index id world
    | .release id => releaseMoments answerer recorder index id world
    | .releaseAll => releaseEachMoments answerer recorder index (world.ids index) world
    | .contains _ => []
    | .ids => []
    | .file _ => []
    | .info _ _ => []
    | .connect _ _ _ => []

end World

end

namespace World

def between (answerer : Answerer) (inner : Recorder) : Recorder := fun index call world =>
  .asked index call world :: (inner index call world ++
    [.answered index call (answerer index call world).1 (answerer index call world).2])

/-- The moments of a call whose hooks may call back so many levels deep. -/
def moments : Nat → Recorder
  | 0 => between (answer 0) (fun _ _ _ => [])
  | depth + 1 => between (answer (depth + 1)) (callMoments (answer depth) (moments depth))

def moveMoments (depth : Nat) (world : World) : Move → List Moment
  | .call index call => moments (depth + 1) index call world
  | .open_ _ => []
  | .outside _ => []

/-- The moments of a whole run. -/
def trace (depth : Nat) : World → List Move → List Moment
  | _, [] => []
  | world, step :: rest => world.moveMoments depth step ++ trace depth (world.move (answer depth) step) rest

end World
end Mooring
