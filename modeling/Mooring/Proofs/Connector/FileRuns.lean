import Mooring.Host.Isolated
import Mooring.Proofs.Connector.KernelFiles
import Mooring.Provisioner.Samples

/-! The files of kernels over whole runs. They are kept if no id is prepared again while a kernel that had it
is at work. A release that finds its id in use again when its provisioner is done removes the file of the new
kernel, as long as its own connection still counts the file as its own. -/

namespace Mooring

open Host (Place)

/-- What may happen between two calls, as long as it removes no file. New connectors have no kernels. -/
def Move.Gentle (world : World) : Move → Prop
  | .call _ _ => True
  | .open_ connector => ∀ id, connector.slots.get? id = none
  | .outside host => ∀ place, world.host.hasFile place → host.hasFile place

namespace World

def Gentle (answerer : Answerer) : World → List Move → Prop
  | _, [] => True
  | world, step :: rest => step.Gentle world ∧ Gentle answerer (world.move answerer step) rest

/-- Whenever a kernel is said to be prepared, it is ready; and if it is one of the built-in provisioner, its file
stands, and still does at every later moment at which that kernel is ready. -/
def KeptFiles (moments : List Moment) : Prop :=
  ∀ front index name spec id world rest,
    moments = front ++ .answered index (.prepare name spec) (.text (.ok id)) world :: rest →
      ∃ handle kernel, world.slot? index id = some (.ready handle) ∧ world.kernels.get? handle = some kernel ∧
        (kernel.provisioner.IsLocal → ∃ path place, kernel.connection.file = some path ∧
          world.host.placeOf? path = some place ∧ place.getLast? = some (fileName id) ∧ world.host.hasFile place ∧
            ∀ later ∈ rest, later.world.ReadyLocal index id handle → later.world.host.hasFile place)

theorem Passes.keptFiles {first last : World} {moments : List Moment} (passes : Passes first moments last) :
    KeptFiles moments := by
  intro front index name spec id world rest same
  subst same
  induction front generalizing first with
  | cons moment front ih =>
    cases passes with
    | through keeps stands later => exact ih later
  | nil =>
    cases passes with
    | through keeps stands later =>
      obtain ⟨handle, kernel, taken, there, below, isFor, stands⟩ := stands
      refine ⟨handle, kernel, taken, there, fun isLocal => ?_⟩
      obtain ⟨path, place, named, leads, known⟩ := stands isLocal
      obtain ⟨path', named', last⟩ := isFor
      cases named.symm.trans named'
      have ends := (Host.getLast?_of_placeOf? leads).trans last
      refine ⟨path, place, named, leads, ends, known, fun moment listed ready => ?_⟩
      exact (later.keeps moment listed).files index id handle place below ready ends known

theorem addConnector_serves {world : World} (law : world.FileLaw) {connector : Connector}
    (empty : ∀ id, connector.slots.get? id = none) :
    (world.addConnector connector).2.FileLaw ∧ KeepsFiles world (world.addConnector connector).2 := by
  have vacant : world.connector? world.nextConnector = none := by
    cases there : world.connector? world.nextConnector with
    | none => rfl
    | some old => exact absurd (law.connectors _ (Option.isSome_of_eq_some there)) (Nat.lt_irrefl _)
  have slots := slot?_addConnector vacant empty
  constructor
  · refine ⟨law.below, fun index known => ?_,
      fun index id handle taken => law.ready index id handle ((slots _ _).symm.trans taken),
      fun one two id slot slot' first second => ?_, fun handle kernel index id slot there working isFor taken => ?_⟩
    · rw [connector?_addConnector] at known
      split at known
      next new => exact new ▸ Nat.lt_succ_self _
      next => exact Nat.lt_succ_of_lt (law.connectors index known)
    · exact law.alone one two id slot slot' ((slots _ _).symm.trans first) ((slots _ _).symm.trans second)
    · exact law.busy handle kernel index id slot there working isFor ((slots _ _).symm.trans taken)
  · exact ⟨Nat.le_refl _, fun index id handle _ taken => (slots index id).symm.trans taken,
      fun _ kernel _ there isLocal => ⟨kernel, there, isLocal⟩, fun _ _ _ _ _ _ _ there => there⟩

/-- One step of a run keeps the law of files. -/
theorem move_serves {depth : Nat} {world : World} (law : world.FileLaw) {step : Move} (gentle : step.Gentle world)
    (orderly : ∀ moment ∈ world.moveMoments depth step, moment.Orderly) :
    (world.move (answer depth) step).FileLaw ∧
      Passes world (world.moveMoments depth step) (world.move (answer depth) step) := by
  cases step with
  | call index call =>
    have served := answer_trusted (depth + 1) index call world law orderly
    exact ⟨served.law, served.passes⟩
  | open_ connector =>
    obtain ⟨law', keeps⟩ := addConnector_serves law gentle
    exact ⟨law', .straight keeps⟩
  | outside host =>
    have same := SameKernels.withHost world host
    exact ⟨law.congr same, .straight (.of_files same gentle)⟩

theorem trace_passes {depth : Nat} {world : World} (law : world.FileLaw) {moves : List Move}
    (gentle : world.Gentle (answer depth) moves) (orderly : ∀ moment ∈ trace depth world moves, moment.Orderly) :
    Passes world (trace depth world moves) (world.run (answer depth) moves) := by
  induction moves generalizing world with
  | nil => exact .straight (.refl world)
  | cons step rest ih =>
    obtain ⟨first, later⟩ := gentle
    unfold trace at orderly ⊢
    rw [List.forall_mem_append] at orderly
    obtain ⟨law', passes⟩ := move_serves law first orderly.1
    exact passes.append (ih law' later orderly.2)

/-- The connection of a kernel that is being released, and the world, when its provisioner is done. Only the
files are left to be removed. -/
def cleanedUp? (answerer : Answerer) (index : Nat) (id : String) (world : World) : Option (Connection × World) :=
  (world.handle? index id).bind (fun handle => (world.kernels.get? handle).map (fun kernel =>
    (kernel.provisioner.cleanup answerer kernel.connection false
      ((world.freeSlot index id).setKernel handle { kernel with busy := true })).2.2))

theorem release_host {answerer : Answerer} {index : Nat} {id : String} {world later : World} {connection : Connection}
    (cleaned : world.cleanedUp? answerer index id = some (connection, later)) :
    (release answerer index id world).2.host =
      (connection.cleanupFile later.host).1.cleanupSockets (connection.cleanupFile later.host).2 := by
  obtain ⟨handle, found, known⟩ := Option.bind_eq_some_iff.mp cleaned
  obtain ⟨kernel, there, outcome⟩ := Option.map_eq_some_iff.mp known
  have freed : (world.freeSlot index id).kernels.get? handle = some kernel := there
  have last := congrArg Prod.fst outcome
  have ends := congrArg Prod.snd outcome
  simp only at last ends
  unfold release takeKernel findKernel releaseKernel
  rw [found]
  simp only
  rw [freed, ← last, ← ends]
  rfl

/-- The file of any kernel goes at the end of a release exactly if the connection still counts it as its own. -/
theorem release_removes_iff {answerer : Answerer} {index : Nat} {id : String} {world later : World}
    {connection : Connection}
    (cleaned : world.cleanedUp? answerer index id = some (connection, later)) {name : String} {place : Place}
    (ends : place.getLast? = some (fileName name)) (stands : later.host.hasFile place) :
    ¬ (release answerer index id world).2.host.hasFile place ↔
      connection.written = true ∧ ∃ path, connection.file = some path ∧ later.host.placeOf? path = some place := by
  rw [release_host cleaned]
  constructor
  · intro gone
    by_contra spared
    have file := (connection.cleanupFile_spares later.host).files place spared stands
    refine gone (((connection.cleanupFile later.host).1.cleanupSockets_spares _).files place (fun touch => ?_) file)
    obtain ⟨_, channel, last⟩ := touch
    rw [last] at ends
    exact socketPath_ne_fileName _ _ name ends
  · rintro ⟨written, path, named, leads⟩
    exact Connection.cleaned_not_hasFile written named leads

theorem empty_fileLaw (host : Host) : World.FileLaw { host := host } := by
  refine ⟨?_, ?_, ?_, ?_, ?_⟩
  · intro handle kernel there
    cases there
  · intro index known
    cases known
  · intro index id handle taken
    cases taken
  · intro index other id slot slot' taken
    cases taken
  · intro handle kernel index id slot there
    cases there

/-- In orderly runs, kernels of the built-in provisioner keep their files while they are ready, whatever hooks
do in between. What a release removes after any run is the file that its own connection names, if it wrote one:
also when the id was taken by a new kernel while the provisioner cleaned up. -/
theorem kernelFiles_kept (depth : Nat) (host : Host) (moves : List Move)
    (gentle : World.Gentle (answer depth) { host := host } moves) :
    ((∀ moment ∈ trace depth { host := host } moves, moment.Orderly) → KeptFiles (trace depth { host := host } moves)) ∧
    ∀ index id connection later,
      (World.run (answer depth) { host := host } moves).cleanedUp? (answer depth) index id = some (connection, later) →
        ∀ name place, place.getLast? = some (fileName name) → later.host.hasFile place →
          (¬ (release (answer depth) index id (World.run (answer depth) { host := host } moves)).2.host.hasFile place ↔
            connection.written = true ∧ ∃ path, connection.file = some path ∧
            later.host.placeOf? path = some place) := by
  refine ⟨fun orderly => ?_, fun index id connection later cleaned name place ends stands => ?_⟩
  · exact (trace_passes (empty_fileLaw host) gentle orderly).keptFiles
  · exact release_removes_iff cleaned ends stands

def hookedConnector (plugin : Plugin) : Connector where
  directory := "/run"
  claims := 0
  registry := Registry.ofDiscovery "hooked"
    (Discovery.ofEntries [.local_, ⟨"hooked", "plugins", "Plugin", .plugin plugin⟩] [])

def localSpec : KernelSpec := KernelSpec.withProvisioner {} localProvisionerName none

def succeeding (idOf : String → String) : Plugin :=
  { Plugin.recording with
    cleanup := fun id _ => .afterwards (.call .newest (.prepare (some (idOf id)) localSpec)) .done }

def come (plugin : Plugin) : List Move := [.open_ (hookedConnector plugin), .call 0 (.prepare (some "a") {})]

def comeAndGo (plugin : Plugin) : List Move := come plugin ++ [.call 0 (.release "a")]

def quietHost : Host := Host.Isolated.machine [["run"]] [11, 12, 13, 14, 15, 16, 17, 18, 19, 20]

theorem kernelFiles_kept_successor :
    (∀ moment ∈ trace 2 { host := quietHost } (comeAndGo (succeeding (· ++ "2"))), moment.Orderly) ∧
      KeptFiles (trace 2 { host := quietHost } (comeAndGo (succeeding (· ++ "2")))) ∧
        (World.run (answer 2) { host := quietHost } (comeAndGo (succeeding (· ++ "2")))).ReadyLocal 0 "a2" 1 ∧
        ∃ outcome ∈ (World.run (answer 2) { host := quietHost } (come (succeeding (· ++ "2")))).cleanedUp? (answer 2)
          0 "a",
          outcome.2.host.hasFile ["run", "kernel-a2.json"] ∧
            (¬ (release (answer 2) 0 "a" (World.run (answer 2) { host := quietHost }
              (come (succeeding (· ++ "2"))))).2.host.hasFile ["run", "kernel-a2.json"] ↔
                outcome.1.written = true ∧ ∃ path, outcome.1.file = some path ∧
                  outcome.2.host.placeOf? path = some ["run", "kernel-a2.json"]) := by
  have begins : World.Gentle (answer 2) { host := quietHost } (come (succeeding (· ++ "2"))) :=
    ⟨fun _ => rfl, trivial, trivial⟩
  have gentle : World.Gentle (answer 2) { host := quietHost } (comeAndGo (succeeding (· ++ "2"))) :=
    ⟨fun _ => rfl, trivial, trivial, trivial⟩
  have orderly : ∀ moment ∈ trace 2 { host := quietHost } (comeAndGo (succeeding (· ++ "2"))), moment.Orderly := by
    decide +kernel
  have ready : (World.run (answer 2) { host := quietHost } (comeAndGo (succeeding (· ++ "2")))).ReadyLocal 0 "a2"
      1 := by
    decide +kernel
  have stands : ∃ outcome ∈ (World.run (answer 2) { host := quietHost } (come (succeeding (· ++ "2")))).cleanedUp?
      (answer 2) 0 "a",
      outcome.2.host.hasFile ["run", "kernel-a2.json"] := by
    decide +kernel
  have last : ["run", "kernel-a2.json"].getLast? = some (fileName "a2") := by decide +kernel
  obtain ⟨kept, _⟩ := kernelFiles_kept 2 quietHost (comeAndGo (succeeding (· ++ "2"))) gentle
  obtain ⟨_, removes⟩ := kernelFiles_kept 2 quietHost (come (succeeding (· ++ "2"))) begins
  obtain ⟨outcome, cleaned, there⟩ := stands
  exact ⟨orderly, kept orderly, ready, outcome, cleaned, there,
    removes 0 "a" outcome.1 outcome.2 cleaned "a2" _ last there⟩

/-- The cleanup of a plugin prepares a kernel with the same id. It is ready in the end, without its file. -/
theorem release_removes_successor :
    let world := World.run (answer 2) { host := quietHost } (come (succeeding id))
    World.Gentle (answer 2) { host := quietHost } (come (succeeding id)) ∧
      (∃ outcome ∈ world.cleanedUp? (answer 2) 0 "a",
        outcome.2.ReadyLocal 0 "a" 1 ∧ outcome.2.host.hasFile ["run", "kernel-a.json"]) ∧
        (release (answer 2) 0 "a" world).2.ReadyLocal 0 "a" 1 ∧
          ¬ (release (answer 2) 0 "a" world).2.host.hasFile ["run", "kernel-a.json"] := by
  refine ⟨⟨fun _ => rfl, trivial, trivial⟩, by decide +kernel, by decide +kernel, by decide +kernel⟩

end World
end Mooring
