import Mooring.Host.Isolated
import Mooring.Connector.Operations

/-! Requests that overlap. A request is begun, which takes no longer than a look at the ids of the connector, and
what is left of it is done later. Between the two, other requests may be begun or go on. -/

namespace Mooring

/-- What a connector can be asked to do with its kernels. -/
inductive Request
  | prepare (name : Option String) (spec : KernelSpec)
  | restart (id : String)
  | release (id : String)

/-- What is left of a request. -/
inductive Task
  | launch (id : String) (spec : KernelSpec)
  | enroll (id : String) (handle : Nat)
  | free (id : String)
  | restart (handle : Nat)
  | release (handle : Nat)

structure Process where
  index : Nat
  world : World
  tasks : List Task := []

/-- A request comes, or one that came before goes on. -/
inductive Turn
  | begin_ (request : Request)
  | resume (position : Nat)

namespace Process

def reserve (process : Process) (id : String) (spec : KernelSpec) : Process :=
  match process.world.reserve process.index id with
  | (.error _, world) => { process with world := world }
  | (.ok (), world) => { process with world := world, tasks := .launch id spec :: process.tasks }

def begin_ (process : Process) : Request → Process
  | .prepare (some id) spec => process.reserve id spec
  | .prepare none spec =>
    let (id, host) := process.world.host.drawUuid
    { process with world := { process.world with host := host } }.reserve id spec
  | .restart id =>
    match process.world.findKernel process.index id with
    | .error _ => process
    | .ok handle => { process with tasks := .restart handle :: process.tasks }
  | .release id =>
    match process.world.takeKernel process.index id with
    | (.error _, world) => { process with world := world }
    | (.ok handle, world) => { process with world := world, tasks := .release handle :: process.tasks }

/-- Does a task while others may be left. A launched kernel is still to be enrolled, and the id of one that could not be
launched is still to be freed. -/
def perform (answerer : Answerer) (process : Process) : Task → Process
  | .launch id spec =>
    match process.world.connector? process.index with
    | none => process
    | some connector =>
      match World.launch answerer process.index connector id spec process.world with
      | (.error _, world) => { process with world := world, tasks := .free id :: process.tasks }
      | (.ok kernel, world) =>
        let (handle, world) := world.addKernel kernel
        { process with world := world, tasks := .enroll id handle :: process.tasks }
  | .enroll id handle => { process with world := process.world.setSlot process.index id (.ready handle) }
  | .free id => { process with world := process.world.freeSlot process.index id }
  | .restart handle => { process with world := (World.restartKernel answerer handle process.world).2 }
  | .release handle => { process with world := (World.releaseKernel answerer handle process.world).2 }

def turn (answerer : Answerer) (process : Process) : Turn → Process
  | .begin_ request => process.begin_ request
  | .resume position =>
    match process.tasks[position]? with
    | none => process
    | some task => { process with tasks := process.tasks.eraseIdx position }.perform answerer task

def run (answerer : Answerer) (process : Process) (turns : List Turn) : Process :=
  turns.foldl (turn answerer) process

def Finished (process : Process) : Prop := process.tasks = []

instance (process : Process) : Decidable process.Finished :=
  decidable_of_iff (process.tasks.isEmpty = true) List.isEmpty_iff

def opened (host : Host) (connector : Connector) : Process where
  index := 0
  world := (World.addConnector { host := host } connector).2

end Process

namespace World

/-- Preparing is what is done at once when nothing comes between. -/
theorem prepare_eq_run (answerer : Answerer) (index : Nat) (name : Option String) (spec : KernelSpec) (world : World) :
    (prepare answerer index name spec world).2 =
      (Process.run answerer { index := index, world := world }
        [.begin_ (.prepare name spec), .resume 0, .resume 0]).world := by
  have whole (id : String) (world : World) :
      (prepareAs answerer index id spec world).2 =
        (Process.run answerer { index := index, world := world }
          [.begin_ (.prepare (some id) spec), .resume 0, .resume 0]).world := by
    unfold prepareAs
    simp only [Process.run, List.foldl_cons, List.foldl_nil, Process.turn, Process.begin_, Process.reserve]
    rcases world.reserve index id with ⟨error | _, reserved⟩
    · rfl
    · simp only [List.getElem?_cons_zero, List.eraseIdx_cons_zero, Process.perform]
      cases reserved.connector? index with
      | none => rfl
      | some connector =>
        simp only
        rcases launch answerer index connector id spec reserved with ⟨error | kernel, launched⟩ <;> rfl
  cases name with
  | some id => exact whole id world
  | none => exact whole _ _

theorem restart_eq_run (answerer : Answerer) (index : Nat) (id : String) (world : World) :
    (restart answerer index id world).2 =
      (Process.run answerer { index := index, world := world } [.begin_ (.restart id), .resume 0]).world := by
  unfold restart
  simp only [Process.run, List.foldl_cons, List.foldl_nil, Process.turn, Process.begin_]
  cases world.findKernel index id <;> rfl

theorem release_eq_run (answerer : Answerer) (index : Nat) (id : String) (world : World) :
    (release answerer index id world).2 =
      (Process.run answerer { index := index, world := world } [.begin_ (.release id), .resume 0]).world := by
  unfold release
  simp only [Process.run, List.foldl_cons, List.foldl_nil, Process.turn, Process.begin_]
  rcases world.takeKernel index id with ⟨error | handle, taken⟩ <;> rfl

end World

end Mooring
