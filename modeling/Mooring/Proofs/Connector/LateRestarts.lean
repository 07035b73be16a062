import Mathlib.Data.List.Perm.Basic
import Mooring.Proofs.Connector.Overlaps

/-! Overlapping requests that are all finished. No port stays claimed for a kernel that is gone, and no file either,
unless a restart has found the kernel before it was released and goes on after that. -/

namespace Mooring.Process

open World (Held Law)

variable {answerer : Answerer} {spent : Kernel → Prop} {key : Nat} {transport : Transport} {start : Host}

/-- A restart that goes on works on a kernel that is still held. -/
def Prompt (process : Process) : Turn → Prop
  | .begin_ _ => True
  | .resume position => ∀ handle, process.tasks[position]? = some (.restart handle) →
      Held process.index process.world process.tasks handle

def AllPrompt (answerer : Answerer) : Process → List Turn → Prop
  | _, [] => True
  | process, turn :: rest => process.Prompt turn ∧ AllPrompt answerer (process.turn answerer turn) rest

/-- The law of the world of a process, with its tasks. -/
abbrev Keeps (spent : Kernel → Prop) (key : Nat) (transport : Transport) (start : Host) (process : Process) : Prop :=
  Law spent process.index key transport start process.world process.tasks

theorem reserve_keeps {process : Process} (law : process.Keeps spent key transport start)
    (id : String) (spec : KernelSpec) :
    (process.reserve id spec).Keeps spent key transport start := by
  unfold reserve
  rcases process.world.reserve_cases process.index id with ⟨error, refused⟩ | ⟨valid, free, reserved⟩
  · rw [refused]
    exact law
  · rw [reserved]
    exact law.reserve spec valid free

theorem begin_keeps {process : Process} (law : process.Keeps spent key transport start) (request : Request) :
    (process.begin_ request).Keeps spent key transport start := by
  cases request with
  | prepare name spec =>
    cases name with
    | some id => exact reserve_keeps law id spec
    | none =>
      have drawn : Law spent process.index key transport start
          { process.world with host := process.world.host.drawUuid.2 } process.tasks :=
        law.idles (.withHost _ (List.suffix_refl _) process.world.host.drawUuid_addsNone) rfl
      exact @reserve_keeps spent key transport start
        { process with world := { process.world with host := process.world.host.drawUuid.2 } } drawn _ spec
  | restart id =>
    simp only [begin_]
    cases process.world.findKernel process.index id with
    | error error => exact law
    | ok handle => exact law.ask handle
  | release id =>
    simp only [begin_, World.takeKernel, World.findKernel]
    cases found : process.world.handle? process.index id with
    | none => exact law
    | some handle => exact law.take ((World.handle?_eq_some _ _ _ _).mp found)

theorem perform_keeps {process : Process} {task : Task}
    (law : Law spent process.index key transport start process.world (task :: process.tasks))
    (done : ∀ later : Kernel, later.cachedPorts = [] → later.connection.written = false → spent later)
    (keeps : ∀ handle, task = .restart handle → Held process.index process.world process.tasks handle ∨
      ∀ kernel later : Kernel, later.cachedPorts = kernel.cachedPorts → spent kernel → spent later) :
    (process.perform answerer task).Keeps spent key transport start := by
  cases task with
  | launch id spec =>
    obtain ⟨connector, known, plain⟩ := law.stock.knows
    simp only [perform, known]
    have launched : World.Launches process.index key transport id process.world
        (World.launch answerer process.index connector id spec process.world) :=
      World.launch_launches plain (law.booked.valid id spec List.mem_cons_self) law.stock.nonzero law.stock.links
    generalize World.launch answerer process.index connector id spec process.world = outcome at launched
    obtain ⟨result, after⟩ := outcome
    cases result with
    | error error =>
      obtain ⟨idles, claims⟩ := launched
      exact (law.idles idles claims).fails
    | ok kernel => exact law.comes launched
  | enroll id handle => exact law.enroll
  | free id => exact law.free
  | restart handle => exact law.restart answerer (keeps handle rfl)
  | release handle => exact law.release answerer done

def Stays (spent : Kernel → Prop) : Prop :=
  ∀ kernel later : Kernel, later.cachedPorts = kernel.cachedPorts → spent kernel → spent later

theorem turn_keeps (answerer : Answerer) {process : Process} (law : process.Keeps spent key transport start)
    (done : ∀ later : Kernel, later.cachedPorts = [] → later.connection.written = false → spent later) {turn : Turn}
    (keeps : Stays spent ∨ process.Prompt turn) : (process.turn answerer turn).Keeps spent key transport start := by
  cases turn with
  | begin_ request => exact begin_keeps law request
  | resume position =>
    cases taken : process.tasks[position]? with
    | none =>
      simp only [Process.turn, taken]
      exact law
    | some task =>
      simp only [Process.turn, taken]
      obtain ⟨inside, same⟩ := List.getElem?_eq_some_iff.mp taken
      have order : process.tasks.Perm (task :: process.tasks.eraseIdx position) := by
        rw [← same]
        exact (List.getElem_cons_eraseIdx_perm inside).symm
      have law' := law.perm order
      have perform := @perform_keeps answerer spent key transport start
        { process with tasks := process.tasks.eraseIdx position } task law' done
      refine perform (fun handle restarts => ?_)
      rcases keeps with stays | prompt
      · exact .inr stays
      · left
        subst restarts
        -- The restart itself holds nothing, so that the rest of the tasks still holds the kernel.
        have held : Held process.index process.world (.restart handle :: process.tasks.eraseIdx position) handle := by
          simpa only [Held, World.Awaited, order.mem_iff] using prompt handle taken
        simpa [Held, World.Awaited] using held

theorem run_keeps (answerer : Answerer) {process : Process} (law : process.Keeps spent key transport start)
    (done : ∀ later : Kernel, later.cachedPorts = [] → later.connection.written = false → spent later)
    (turns : List Turn)
    (keeps : Stays spent ∨ process.AllPrompt answerer turns) :
    (process.run answerer turns).Keeps spent key transport start := by
  induction turns generalizing process with
  | nil => exact law
  | cons turn rest ih =>
    exact ih (turn_keeps answerer law done (keeps.imp_right And.left)) (keeps.imp_right And.right)

/-- A connector without kernels on a machine that gives no port zero, where no link is in the way. -/
structure Opens (host : Host) (connector : Connector) : Prop where
  builtin : connector.registry.BuiltinOnly
  empty : ∀ id, connector.slots.get? id = none
  nonzero : host.AnswersNonzero
  links : host.LinksApart connector.transport

theorem Opens.keeps {host : Host} {connector : Connector} (opens : Opens host connector) (spent : Kernel → Prop) :
    (opened host connector).Keeps spent connector.claims connector.transport host := by
  have known : (opened host connector).world.connector? 0 = some connector := Table.get?_set_self _ _ _
  have slots (id : String) : (opened host connector).world.slot? 0 id = none := by
    rw [World.slot?, known]
    exact opens.empty id
  refine ⟨⟨⟨connector, known, rfl, rfl, opens.builtin⟩, opens.nonzero, opens.links, ?_, fun port => ?_, ?_, .refl host⟩,
    ⟨?_, List.nodup_nil, ?_, ?_⟩, ?_⟩
  · intro handle kernel there
    cases there
  · constructor
    · exact fun listed => absurd listed List.not_mem_nil
    · rintro ⟨handle, kernel, there, _⟩
      cases there
  · intro one two kernel kernel' port there
    cases there
  · exact fun id spec listed => absurd listed List.not_mem_nil
  · exact fun task listed => absurd listed List.not_mem_nil
  · rintro id handle (ready | enroll)
    · cases (slots id).symm.trans ready
    · exact absurd enroll List.not_mem_nil
  · intro handle kernel there
    cases there

/-- Once all requests are finished, the claimed ports are those of the ready kernels. If every restart went on before
the release of its kernel, then there is no new file under an id that is not ready. -/
theorem finished_leaves_nothing {answerer : Answerer} {host : Host} {connector : Connector}
    (opens : Opens host connector)
    {turns : List Turn} (finished : ((opened host connector).run answerer turns).Finished) :
    let process := (opened host connector).run answerer turns
    (∀ port, (process.world.claimsOf connector.claims).isClaimed port = true ↔ ∃ id handle kernel,
        process.world.handle? process.index id = some handle ∧ process.world.kernels.get? handle = some kernel ∧
          port ∈ kernel.cachedPorts) ∧
      ((opened host connector).AllPrompt answerer turns → ∀ id, process.world.contains process.index id = false →
        ∀ place, place.getLast? = some (World.fileName id) →
        ∀ content, process.world.host.contentAt place = some content →
          host.contentAt place = some content) := by
  intro process
  have ready {handle : Nat} (held : Held process.index process.world process.tasks handle) :
      ∃ id, process.world.handle? process.index id = some handle := by
    rw [show process.tasks = [] from finished] at held
    rcases held with ⟨id, there | enroll⟩ | release
    · exact ⟨id, (process.world.handle?_eq_some process.index id handle).mpr there⟩
    · exact absurd enroll List.not_mem_nil
    · exact absurd release List.not_mem_nil
  constructor
  · have law : process.Keeps (fun kernel => kernel.cachedPorts = []) connector.claims connector.transport host :=
      run_keeps answerer (opens.keeps _) (fun _ empty _ => empty) turns (.inl (fun _ _ same empty => same.trans empty))
    intro port
    rw [PortClaims.isClaimed_iff, law.stock.claimed]
    constructor
    · rintro ⟨handle, kernel, there, has⟩
      obtain ⟨id, found⟩ := ready (law.held there (List.ne_nil_of_mem has))
      exact ⟨id, handle, kernel, found, there, has⟩
    · rintro ⟨id, handle, kernel, _, there, has⟩
      exact ⟨handle, kernel, there, has⟩
  · intro prompt id gone place named content reads
    have law : process.Keeps (fun kernel => kernel.connection.written = false) connector.claims
        connector.transport host :=
      run_keeps answerer (opens.keeps _) (fun _ _ unwritten => unwritten) turns (.inr prompt)
    rcases law.stock.files.contents place content reads with ⟨handle, kernel, there, written, path, file, leads⟩ | old
    · exfalso
      obtain ⟨other, found⟩ := ready (law.held there (by simp [written]))
      obtain ⟨kernel', there', path', file', last⟩ :=
        law.booked.named other handle (.inl ((process.world.handle?_eq_some process.index other handle).mp found))
      cases there.symm.trans there'
      cases file.symm.trans file'
      rw [Host.getLast?_of_placeOf? leads, last] at named
      cases World.fileName_injective (Option.some.inj named)
      rw [World.contains, found] at gone
      cases gone
    · exact old

def restarted? : Task → Option Nat
  | .restart handle => some handle
  | _ => none

def released? : Task → Option Nat
  | .release handle => some handle
  | _ => none

theorem prompt_of_not_restarted {process : Process} {position : Nat}
    (other : process.tasks[position]?.bind restarted? = none) : process.Prompt (.resume position) := by
  intro handle there
  rw [there] at other
  cases other

theorem prompt_of_released {process : Process} {position handle : Nat}
    (restarts : process.tasks[position]?.bind restarted? = some handle)
    (releases : handle ∈ process.tasks.filterMap released?) : process.Prompt (.resume position) := by
  intro handle' there
  rw [there] at restarts
  cases restarts
  obtain ⟨task, listed, same⟩ := List.mem_filterMap.mp releases
  cases task with
  | release other =>
    cases same
    exact .inr listed
  | _ => cases same

def runMachine : Host := Host.Isolated.machine [["run"]] [11, 12, 13, 14, 15]

theorem runMachine_kindAt {place : Host.Place} {kind : Host.Kind} (there : runMachine.files.kindAt place = some kind) :
    kind = .directory := by
  rw [show runMachine.files = (∅ : Host.FileTree).insert ["run"] Host.Isolated.directory from rfl,
    Host.FileTree.kindAt_insert] at there
  split at there
  next => exact (Option.some.inj there).symm
  next =>
    have root : Host.FileTree.nodeAt ∅ place = if place.isEmpty then some (.directory 0o755 0) else none := rfl
    rw [Host.FileTree.kindAt, root] at there
    split at there
    next => exact (Option.some.inj there).symm
    next => cases there

theorem runMachine_opens : Opens runMachine World.plainConnector where
  builtin := Registry.withBuiltins_builtinOnly _
  empty _ := rfl
  nonzero port listed zero := by simp [zero, runMachine, Host.Isolated.machine] at listed
  links := ⟨fun _ _ _ known => (by cases runMachine_kindAt known), fun ipc => (by cases ipc)⟩

def overlapping (rest : List Turn) : Process :=
  (opened runMachine World.plainConnector).run (World.answer 0)
    ([.begin_ (.prepare (some "a") {}), .resume 0, .resume 0, .begin_ (.restart "a"), .begin_ (.release "a")] ++ rest)

theorem finished_leaves_nothing_promptly :
    (overlapping [.resume 1, .resume 0]).Finished ∧ ∀ place, place.getLast? = some (World.fileName "a") →
      (overlapping [.resume 1, .resume 0]).world.host.contentAt place = none := by
  have prompt : (opened runMachine World.plainConnector).AllPrompt (World.answer 0)
      [.begin_ (.prepare (some "a") {}), .resume 0, .resume 0, .begin_ (.restart "a"),
      .begin_ (.release "a"), .resume 1,
        .resume 0] := by
    refine ⟨trivial, prompt_of_not_restarted ?_, prompt_of_not_restarted ?_, trivial, trivial, ?_, ?_, trivial⟩
    · decide +kernel
    · decide +kernel
    · apply prompt_of_released
      · show _ = some 0
        decide +kernel
      · decide +kernel
    · apply prompt_of_not_restarted
      decide +kernel
  have finished : (overlapping [.resume 1, .resume 0]).Finished := by decide +kernel
  refine ⟨finished, fun place named => ?_⟩
  have files := (finished_leaves_nothing runMachine_opens finished).2 prompt "a" (by decide +kernel) place named
  unfold overlapping
  refine Option.eq_none_iff_forall_ne_some.mpr (fun content reads => ?_)
  have old := Host.hasFile_of_contentAt (files content reads)
  cases runMachine_kindAt old

/-- When the release goes on first, the restart writes the file of the kernel that is gone. -/
theorem late_restart_leaves_file :
    (overlapping [.resume 0, .resume 0]).Finished ∧ (overlapping [.resume 0, .resume 0]).world.contains 0 "a" = false ∧
      (overlapping [.resume 0, .resume 0]).world.host.hasFile ["run", "kernel-a.json"] := by
  decide +kernel

end Mooring.Process
