import Mooring.Proofs.ConnectionFile.IndexSearch
import Mooring.Proofs.ConnectionFile.SecureWrite
import Mooring.Proofs.Connector.Enrollment
import Mooring.Proofs.Connector.LocalWork

/-! Restarts of a kernel of the built-in provisioner. The kernel stays ready with the same credentials and the same
file, whether its restarts fail or not and whatever happens to the machine in between, and a file that was deleted is
written again as it was. -/

namespace Mooring

namespace World

structure ReadyWith (world : World) (index : Nat) (id : String) (handle : Nat) (path : String)
    (credentials : Credentials) :
    Prop where
  slot : world.slot? index id = some (.ready handle)
  kernel : ∃ kernel, world.kernels.get? handle = some kernel ∧ kernel.provisioner.IsLocal ∧
    kernel.connection.file = some path ∧ kernel.connection.credentials = credentials ∧ kernel.connection.Sound ∧
      kernel.connection.IsFor id

/-- The file is there. If it was missing, it holds the credentials. -/
def Restored (path : String) (credentials : Credentials) (before after : Host) : Prop :=
  after.pathExists path = true ∧ (before.pathExists path = false →
    ∃ text, credentials.fileText = .ok text ∧ after.readBytes path = .ok (Utf8.ofString text))

section
variable {world : World} {index : Nat} {id : String} {handle : Nat} {path : String} {credentials : Credentials}

theorem restart_of_ready (answerer : Answerer) (ready : world.slot? index id = some (.ready handle)) :
    restart answerer index id world = restartKernel answerer handle world := by
  rw [restart, findKernel, (world.handle?_eq_some index id handle).mpr ready]

theorem ReadyWith.restart (ready : world.ReadyWith index id handle path credentials)
    (complete : ∀ channel, credentials.ports.get channel ≠ 0) (answerer : Answerer) :
    (World.restart answerer index id world).2.ReadyWith index id handle path credentials ∧
      (∀ key, (World.restart answerer index id world).2.claimsOf key = world.claimsOf key) ∧
        ((World.restart answerer index id world).1 = .ok () →
          Restored path credentials world.host (World.restart answerer index id world).2.host) := by
  obtain ⟨slot, kernel, there, ⟨key, state, made⟩, named, rfl, sound, isFor⟩ := ready
  rw [restart_of_ready answerer slot, restartKernel_eq answerer there made]
  generalize started : LocalProvisioner.Stage.mk state kernel.connection (world.claimsOf key) world.host = stage
  have connection : stage.connection = kernel.connection := by rw [← started]
  have set : ∀ channel, stage.connection.ports.get channel ≠ 0 := by
    rw [connection]
    exact complete
  obtain ⟨lasts, still⟩ := stage.preLaunch_lasts (connection ▸ sound) (connection ▸ isFor)
  have claims : stage.preLaunch.2.claims = world.claimsOf key := by
    have settled : stage.Settled := fun _ _ => set
    rw [settled.preLaunch.1, ← started]
  have written := stage.preLaunch_exists (connection ▸ sound) (connection ▸ isFor) (connection ▸ named)
  have credentials := (lasts.credentials set).trans (congrArg Connection.credentials connection)
  rw [connection] at lasts
  refine ⟨⟨slot, _, Table.get?_set_self _ _ _, ⟨key, _, rfl⟩, lasts.file.trans named, credentials, still,
    isFor.congr lasts.file⟩, fun other => ?_, fun done => ?_⟩
  · refine (claimsOf_setClaims _ key _ other).trans ?_
    split
    next here => rw [here, claims]
    next => exact (claimsOf_setClaims _ key _ other).trans (if_neg ‹_›)
  · obtain ⟨exists_, restored⟩ := written done
    refine ⟨exists_, fun missing => ?_⟩
    obtain ⟨path', text, named', printed, reads⟩ := restored (.inr (by rw [← started]; exact missing))
    cases (lasts.file.trans named).symm.trans named'
    exact ⟨text, credentials ▸ printed, reads⟩

end
end World

def Move.Restarts (index : Nat) (id : String) : Move → Prop
  | .call other asked => other = index ∧ asked = .restart id
  | .open_ _ => False
  | .outside _ => True

namespace World
variable {world : World} {index : Nat} {id : String} {handle : Nat} {path : String} {credentials : Credentials}

theorem ReadyWith.move (ready : world.ReadyWith index id handle path credentials)
    (complete : ∀ channel, credentials.ports.get channel ≠ 0) (answerer : Answerer) {step : Move}
    (restarts : step.Restarts index id) :
    (world.move answerer step).ReadyWith index id handle path credentials ∧
      ∀ key, (world.move answerer step).claimsOf key = world.claimsOf key := by
  cases step with
  | call other call =>
    obtain ⟨rfl, rfl⟩ := restarts
    simp only [World.move, answerWith]
    split
    next => exact ⟨ready, fun _ => rfl⟩
    next =>
      obtain ⟨still, claims, -⟩ := ready.restart complete answerer
      exact ⟨still, claims⟩
  | open_ connector => exact restarts.elim
  | outside host => exact ⟨⟨ready.slot, ready.kernel⟩, fun _ => rfl⟩

theorem ReadyWith.run (ready : world.ReadyWith index id handle path credentials)
    (complete : ∀ channel, credentials.ports.get channel ≠ 0) (answerer : Answerer) {steps : List Move}
    (restarts : ∀ step ∈ steps, step.Restarts index id) :
    (world.run answerer steps).ReadyWith index id handle path credentials ∧
      ∀ key, (world.run answerer steps).claimsOf key = world.claimsOf key := by
  induction steps generalizing world with
  | nil => exact ⟨ready, fun _ => rfl⟩
  | cons step rest ih =>
    obtain ⟨still, claims⟩ := ready.move complete answerer (restarts step List.mem_cons_self)
    obtain ⟨last, same⟩ := ih still (fun later listed => restarts later (List.mem_cons_of_mem _ listed))
    exact ⟨last, fun key => (same key).trans (claims key)⟩

/-- The built-in provisioner has prepared a kernel at one moment of a run, and the kernel is still ready in a later
state. -/
structure PreparedAt (depth : Nat) (host : Host) (moves : List Move) (index : Nat) (id : String) (handle : Nat)
    (original : Kernel) (born world : World) : Prop where
  origin : ∃ name spec front rest,
    trace depth { host := host } moves = front ++ .answered index (.prepare name spec) (.text (.ok id)) born :: rest ∧
      (world = born ∨ world = run (answer depth) { host := host } moves ∨ ∃ moment ∈ rest, moment.world = world)
  prepared : born.slot? index id = some (.ready handle)
  there : born.kernels.get? handle = some original
  isLocal : original.provisioner.IsLocal
  ready : world.slot? index id = some (.ready handle)

/-- The file of a kernel holds its credentials when it is prepared, and later states still have them. -/
theorem PreparedAt.readyWith {depth : Nat} {host : Host} {moves : List Move}
    (empty : OpensEmpty moves) {original : Kernel}
    {born : World} (prepared : PreparedAt depth host moves index id handle original born world)
    (complete : ∀ channel, original.connection.ports.get channel ≠ 0) :
    ∃ path, original.connection.file = some path ∧
      (∃ text, original.connection.credentials.fileText = .ok text ∧
        born.host.readBytes path = .ok (Utf8.ofString text)) ∧
          world.ReadyWith index id handle path original.connection.credentials := by
  obtain ⟨⟨name, spec, front, rest, whole, later⟩, taken, there, isLocal, ready⟩ := prepared
  have passes := Regime.trace_passes enrollment_steady depth (enrolled_start host) empty
  rw [whole] at passes
  obtain ⟨before, printed, after⟩ := passes.split enrollment_steady
  obtain ⟨path, text, named, contents, reads⟩ := printed handle original taken there isLocal
  obtain ⟨law, continues⟩ : enrollment.Next born world := by
    rcases later with rfl | rfl | ⟨moment, listed, rfl⟩
    · exact .refl enrollment_steady before.law
    · exact after.next enrollment_steady
    · exact after.at_ enrollment_steady listed
  obtain ⟨kernel, held, lasts⟩ := continues.kernels handle original there
  have known := lasts.connection isLocal
  obtain ⟨kernel', held', isFor⟩ := law.ready index id handle ready
  cases held.symm.trans held'
  exact ⟨path, named, ⟨text, contents, reads⟩, ready, kernel, held, lasts.isLocal.mpr isLocal, known.file.trans named,
    known.credentials complete, (law.kernels handle kernel held).2.1, isFor⟩

/-- Restarts keep a kernel of the built-in provisioner registered, with its credentials, its file and all claims.
After one that ends well its file is there; if it was missing, it has the same bytes as when the kernel was prepared.
All ports of the kernel are set, which `LocalProvisioner.Stage.preLaunch_complete` shows unless the search for socket
paths ran over. -/
theorem restarts_keep_kernel {depth : Nat} {host : Host} {moves : List Move}
    (empty : OpensEmpty moves) {original : Kernel}
    {born : World} (prepared : PreparedAt depth host moves index id handle original born world)
    (complete : ∀ channel, original.connection.ports.get channel ≠ 0) (steps : List Move)
    (restarts : ∀ step ∈ steps, step.Restarts index id) :
    let last := world.run (answer depth) steps
    ∃ path contents, original.connection.file = some path ∧ born.host.readBytes path = .ok contents ∧
      last.slot? index id = some (.ready handle) ∧
      (∃ kernel, last.kernels.get? handle = some kernel ∧ kernel.connection.file = some path ∧
        kernel.connection.credentials = original.connection.credentials) ∧
      (∀ key, last.claimsOf key = world.claimsOf key) ∧
      ∀ answerer after, restart answerer index id last = (.ok (), after) → after.host.pathExists path = true ∧
        (last.host.pathExists path = false → after.host.readBytes path = .ok contents) := by
  intro last
  obtain ⟨path, named, ⟨text, printed, reads⟩, ready⟩ := prepared.readyWith empty complete
  obtain ⟨still, claims⟩ := ready.run complete (answer depth) restarts
  obtain ⟨kernel, there, -, file, credentials, -⟩ := still.kernel
  refine ⟨path, _, named, reads, still.slot, ⟨kernel, there, file, credentials⟩, claims,
    fun answerer after restarted => ?_⟩
  have restored := (still.restart complete answerer).2.2
  rw [restarted] at restored
  obtain ⟨exists_, rewritten⟩ := restored rfl
  refine ⟨exists_, fun missing => ?_⟩
  obtain ⟨text', printed', again⟩ := rewritten missing
  cases printed.symm.trans printed'
  exact again

theorem trace_call {depth : Nat} {start : World} {moves : List Move} {index : Nat} {call : Call} {reply : Reply}
    {world : World} (answers : answer (depth + 1) index call (start.run (answer depth) moves) = (reply, world)) :
    ∃ front, trace depth start (moves ++ [.call index call]) = front ++ [.answered index call reply world] := by
  induction moves generalizing start with
  | nil =>
    refine ⟨.asked index call start :: callMoments (answer depth) (moments depth) index call start, ?_⟩
    have answers : answer (depth + 1) index call start = (reply, world) := answers
    simp only [List.nil_append, trace, moveMoments, moments, between, answers, List.append_nil, List.cons_append]
  | cons step rest ih =>
    obtain ⟨front, whole⟩ := @ih (start.move (answer depth) step) answers
    refine ⟨start.moveMoments depth step ++ front, ?_⟩
    rw [List.cons_append, trace, whole, List.append_assoc]

theorem preparedAt_call {depth : Nat} {host : Host} {moves : List Move} {name : Option String} {spec : KernelSpec}
    {start after : World} {kernel : Kernel} (runs : run (answer depth) { host := host } moves = start)
    (prepared : prepare (answer depth) index name spec start = (.ok id, after))
    (ready : after.slot? index id = some (.ready handle)) (there : after.kernels.get? handle = some kernel)
    (isLocal : kernel.provisioner.IsLocal) :
    PreparedAt depth host (moves ++ [.call index (.prepare name spec)]) index id handle kernel after after := by
  have answers : answer (depth + 1) index (.prepare name spec) start = (.text (.ok id), after) := by
    have done : answer (depth + 1) index (.prepare name spec) start =
        (.text (prepare (answer depth) index name spec start).1, (prepare (answer depth) index name spec start).2) :=
          rfl
    rw [done, prepared]
  obtain ⟨front, whole⟩ := trace_call (runs ▸ answers)
  exact ⟨⟨name, spec, front, [], whole, .inl rfl⟩, ready, there, isLocal, ready⟩

def fivePorts : World :=
  run (answer 0) { host := Host.Isolated.machine [["run"]] [11, 12, 13, 14, 15] } [.open_ plainConnector]

theorem restarts_keep_kernel_deleted :
    let alone := (prepare (answer 0) 0 (some "a") {} fivePorts).2
    let deleted := alone.run (answer 0)
      [.call 0 (.restart "a"), .outside (alone.host.removeFile "/run/kernel-a.json").2]
    ∃ contents, alone.host.readBytes "/run/kernel-a.json" = .ok contents ∧ deleted.host.ports = [] ∧
      deleted.host.pathExists "/run/kernel-a.json" = false ∧ (restart (answer 0) 0 "a" deleted).1 = .ok () ∧
        (restart (answer 0) 0 "a" deleted).2.host.readBytes "/run/kernel-a.json" = .ok contents := by
  have empty : OpensEmpty ([.open_ plainConnector] ++ [.call 0 (.prepare (some "a") {})]) := by
    intro connector listed id
    simp only [List.cons_append, List.nil_append, List.mem_cons, List.not_mem_nil, or_false, reduceCtorEq,
      Move.open_.injEq] at listed
    rw [listed]
    rfl
  have facts : (prepare (answer 0) 0 (some "a") {} fivePorts).1 = .ok "a" ∧
      (prepare (answer 0) 0 (some "a") {} fivePorts).2.ReadyLocal 0 "a" 0 ∧
      ∃ kernel ∈ (prepare (answer 0) 0 (some "a") {} fivePorts).2.kernels.get? 0,
        kernel.connection.file = some "/run/kernel-a.json" ∧
          ∀ channel ∈ Channel.all, kernel.connection.ports.get channel ≠ 0 := by
    decide +kernel
  have later : let alone := (prepare (answer 0) 0 (some "a") {} fivePorts).2
      let deleted := alone.run (answer 0)
        [.call 0 (.restart "a"), .outside (alone.host.removeFile "/run/kernel-a.json").2]
      deleted.host.ports = [] ∧ deleted.host.pathExists "/run/kernel-a.json" = false ∧
        (restart (answer 0) 0 "a" deleted).1 = .ok () := by
    decide +kernel
  generalize outcome : prepare (answer 0) 0 (some "a") {} fivePorts = prepared at facts later ⊢
  obtain ⟨result, alone⟩ := prepared
  obtain ⟨rfl, ⟨slot, kernel, there, isLocal⟩, kernel', there', named, complete⟩ := facts
  cases there.symm.trans there'
  obtain ⟨used, missing, restarted⟩ := later
  obtain ⟨path, contents, file, reads, -, -, -, restored⟩ := restarts_keep_kernel empty
    (preparedAt_call rfl outcome slot there isLocal) (fun channel => complete channel (Channel.mem_all channel))
    [.call 0 (.restart "a"), .outside (alone.host.removeFile "/run/kernel-a.json").2]
    (fun step listed => by
      rcases List.mem_cons.mp listed with rfl | listed
      · exact ⟨rfl, rfl⟩
      · rw [List.mem_singleton.mp listed]
        exact trivial)
  cases named.symm.trans file
  exact ⟨contents, reads, used, missing, restarted, (restored (answer 0) _ (Prod.ext restarted rfl)).2 missing⟩

end World

namespace ConnectionFile

open Credentials (socketPath)

/-- Of the socket paths in the root, only those of the indexes zero and one are free. -/
structure TwoFree (host : Host) : Prop where
  atRoot : host.workDir = []
  sound : host.disk = {}
  root : host.files.nodeAt [] = some (.directory 0o755 0)
  taken : ∀ index, host.files.nodeAt [socketPath "k" index] =
    if decide (index ≠ 0 ∧ index ≠ 1) then some (.file [] 0o644 0) else none
  unwritten : host.files.nodeAt ["kernel-a.json"] = none

theorem twoFree_crowd : TwoFree (crowd (fun index => decide (index ≠ 0 ∧ index ≠ 1))) where
  atRoot := rfl
  sound := rfl
  root := nodeAt_crowd_other _ (fun _ => nofun)
  taken := nodeAt_crowd _
  unwritten := by
    apply nodeAt_crowd_other
    intro index same
    have second := congrArg (fun names => names.map (fun name => name.toList[1]?)) same
    simp [toList_socketPath] at second

namespace TwoFree
variable {host : Host} (twoFree : TwoFree host)
include twoFree

theorem congr {later : Host} (workDir : later.workDir = host.workDir) (disk : later.disk = host.disk)
    (alike : Host.Alike host later) : TwoFree later where
  atRoot := workDir.trans twoFree.atRoot
  sound := disk.trans twoFree.sound
  root := (alike _).trans twoFree.root
  taken index := (alike _).trans (twoFree.taken index)
  unwritten := (alike _).trans twoFree.unwritten

theorem found : freeIndexes? host "k" 2 1 = some [1, 0] ∧ freeIndexes? host "k" 5 1 = some [1, 0, 1, 0, 1] := by
  have known (index : UInt16) : host.pathExists (socketPath "k" index) = decide (index ≠ 0 ∧ index ≠ 1) :=
    @pathExists_socketPath host twoFree.atRoot (fun index => decide (index ≠ 0 ∧ index ≠ 1)) index (twoFree.taken index)
  have first : freeIndexes? host "k" 1 1 = some [1] := by
    rw [freeIndexes?, show UInt16.size = 65535 + 1 from rfl, nextIndex?, known]
    rfl
  rw [search_circles known 0, search_circles known 3, search_circles known 1, first]
  exact ⟨rfl, rfl⟩

theorem pathExists : host.pathExists "kernel-a.json" = false := by
  rw [Host.pathExists_name ⟨by decide, by decide⟩ ⟨by decide, by decide, by decide⟩ (by decide) twoFree.atRoot,
    twoFree.unwritten]
  · rfl
  · intro node there
    rw [twoFree.unwritten] at there
    cases there

theorem leads : host.placeOf? "kernel-a.json" = some ["kernel-a.json"] := by
  have root : host.files.kindAt [] = some .directory := by
    rw [Host.FileTree.kindAt, twoFree.root]
    rfl
  rw [Host.placeOf?, twoFree.atRoot]
  exact Host.FileTree.placeOf?_name ⟨by decide, by decide⟩ ⟨by decide, by decide, by decide⟩ (by decide) root

theorem deleted (content : Bytes) :
    TwoFree ((withSecret host ["kernel-a.json"] content).removeFile "kernel-a.json").2 := by
  refine twoFree.congr ?_ ?_ (removeFile_withSecret_alike twoFree.leads twoFree.unwritten content)
  · rw [removeFile_withSecret twoFree.leads twoFree.unwritten]
    exact (Host.setMode_spares _ _ _).workDir
  · rw [removeFile_withSecret twoFree.leads twoFree.unwritten]
    exact Host.disk_setMode _ _ _

end TwoFree
end ConnectionFile

namespace Connection

open ConnectionFile

structure InRoot (connection : Connection) : Prop where
  file : connection.file = some "kernel-a.json"
  ipc : connection.transport = .ipc
  ip : connection.ip = "k"
  isText : ∃ key, Utf8.decode connection.session.key = .ok key

theorem InRoot.write {connection : Connection} (inRoot : connection.InRoot) {host : Host} (twoFree : TwoFree host)
    {fresh : List UInt16} (found : freeIndexes? host "k" connection.ports.unsetChannels.length 1 = some fresh) :
    ∃ content, connection.write host = (.ok "kernel-a.json",
      connection.afterWrite "kernel-a.json" (complete connection.credentials fresh),
        withSecret host ["kernel-a.json"] content) := by
  obtain ⟨key, isText⟩ := inRoot.isText
  have due : connection.currentFile? host = none := by
    rw [currentFile?, inRoot.file]
    simp [twoFree.pathExists]
  have ip : connection.credentials.ip = "k" := inRoot.ip
  have ports : freshPorts host connection.credentials.transport connection.credentials.ip
      connection.credentials.ports.unsetChannels.length = (.ok fresh, host) := by
    have ipc : connection.credentials.transport = .ipc := inRoot.ipc
    have found : freeIndexes? host "k" connection.credentials.ports.unsetChannels.length 1 = some fresh := found
    rw [ipc, ip, freshPorts, found]
  have noParent : (Path.parent? "kernel-a.json").filter (fun parent => !parent.isEmpty) = none := by decide +kernel
  obtain ⟨content, done⟩ := write_of_free (by decide) (by rw [ip]; rfl) isText twoFree.leads twoFree.unwritten
    twoFree.sound ports
  rw [Host.markDirectorySticky, noParent] at done
  refine ⟨content, ?_⟩
  rw [Connection.write, due, inRoot.file, done]

theorem InRoot.afterWrite {connection : Connection} (inRoot : connection.InRoot) (fresh : List UInt16) :
    (connection.afterWrite "kernel-a.json" (complete connection.credentials fresh)).InRoot where
  file := rfl
  ipc := (recordAllocated_transport connection).trans inRoot.ipc
  ip := inRoot.ip
  isText := by
    have session : connection.recordAllocated.session = connection.session := by
      unfold recordAllocated
      split <;> rfl
    exact session.symm ▸ inRoot.isText

end Connection

namespace World

open ConnectionFile

def rootConnector : Connector where
  directory := ""
  transport := .ipc
  ip := some "k"
  claims := 0
  registry := Registry.withBuiltins (Host.Isolated.machine [] [])

theorem newConnection_inRoot (host : Host) : (newConnection rootConnector "a" {} host).1.InRoot :=
  ⟨rfl, rfl, rfl, _, Utf8.decode_encode _⟩

theorem prepare_inRoot {host later : Host} {connection : Connection}
    (wrote : (newConnection rootConnector "a" {} host).1.write host.drawUuid.2 =
      (.ok "kernel-a.json", connection, later)) :
    let start := run (answer 0) { host := host } [.open_ rootConnector]
    ∃ state alone, prepare (answer 0) 0 (some "a") {} start = (.ok "a", alone) ∧
      alone.slot? 0 "a" = some (.ready 0) ∧ alone.host = later ∧
        alone.kernels.get? 0 = some { connection := connection, provisioner := .local_ 0 state } := by
  intro start
  have reserved : start.reserve 0 "a" = (.ok (), start.setSlot 0 "a" .preparing) := rfl
  have there : (start.setSlot 0 "a" .preparing).connector? 0 =
      some { rootConnector with slots := rootConnector.slots.set "a" .preparing } := rfl
  obtain ⟨state, launched⟩ : ∃ state, launch (answer 0) 0
        { rootConnector with slots := rootConnector.slots.set "a" .preparing } "a" {} (start.setSlot 0 "a" .preparing) =
      launchWith (answer 0) (.local_ 0 state) (newConnection rootConnector "a" {} host).1
        ((start.setSlot 0 "a" .preparing).prepared 0 rootConnector {}) := ⟨_, rfl⟩
  rw [launchWith, Provisioner.preLaunch_local, LocalProvisioner.Stage.preLaunch_wrote rfl wrote] at launched
  rw [prepare, prepareAs, reserved]
  simp only [there, launched]
  exact ⟨_, _, rfl, rfl, rfl, rfl⟩

theorem restart_wrote {answerer : Answerer} {world : World} {index handle key : Nat} {id path : String}
    {kernel : Kernel} {state : LocalProvisioner} {connection : Connection} {host : Host}
    (ready : world.slot? index id = some (.ready handle)) (there : world.kernels.get? handle = some kernel)
    (made : kernel.provisioner = .local_ key state) (ipc : kernel.connection.transport = .ipc)
    (wrote : kernel.connection.write world.host = (.ok path, connection, host)) :
    (restart answerer index id world).1 = .ok () ∧
      ∃ later, (restart answerer index id world).2.kernels.get? handle = some later ∧
        later.connection = connection := by
  have launched :=
    @LocalProvisioner.Stage.preLaunch_wrote ⟨state, kernel.connection, world.claimsOf key, world.host⟩ ipc _ _ _ wrote
  rw [restart_of_ready answerer ready, restartKernel_eq answerer there made, launched]
  exact ⟨rfl, _, Table.get?_set_self _ _ _, rfl⟩

/-- A kernel that is prepared where two indexes are free has three ports, and a restart chooses others for the rest. -/
theorem prepare_twoFree {host : Host} (twoFree : TwoFree host) :
    let start := run (answer 0) { host := host } [.open_ rootConnector]
    ∃ alone, prepare (answer 0) 0 (some "a") {} start = (.ok "a", alone) ∧
      let deleted := { alone with host := (alone.host.removeFile "kernel-a.json").2 }
      ∃ original later,
        PreparedAt 0 host ([.open_ rootConnector] ++ [.call 0 (.prepare (some "a") {})]) 0 "a" 0 original alone alone ∧
          (restart (answer 0) 0 "a" deleted).1 = .ok () ∧
            (restart (answer 0) 0 "a" deleted).2.kernels.get? 0 = some later ∧
              original.connection.ports = ⟨1, 0, 1, 0, 1⟩ ∧ later.connection.ports = ⟨1, 1, 1, 0, 1⟩ := by
  intro start
  have drawn : TwoFree host.drawUuid.2 := twoFree.congr rfl rfl fun _ => rfl
  have fresh := newConnection_inRoot host
  obtain ⟨content, wrote⟩ := fresh.write drawn drawn.found.2
  obtain ⟨state, alone, prepared, ready, left, there⟩ := prepare_inRoot wrote
  have again : TwoFree (alone.host.removeFile "kernel-a.json").2 := left ▸ drawn.deleted content
  have filled := fresh.afterWrite [1, 0, 1, 0, 1]
  have ports : ((newConnection rootConnector "a" {} host).1.afterWrite "kernel-a.json"
      (complete (newConnection rootConnector "a" {} host).1.credentials [1, 0, 1, 0, 1])).ports = ⟨1, 0, 1, 0, 1⟩ := rfl
  generalize (newConnection rootConnector "a" {} host).1.afterWrite "kernel-a.json"
      (complete (newConnection rootConnector "a" {} host).1.credentials [1, 0, 1, 0, 1]) = connection at *
  have wanted : connection.ports.unsetChannels.length = 2 := by
    rw [ports]
    rfl
  obtain ⟨content', wrote'⟩ := filled.write again (wanted ▸ again.found.1)
  obtain ⟨restarted, later, there', changed⟩ :=
    @restart_wrote (answer 0) { alone with host := (alone.host.removeFile "kernel-a.json").2 } _ _ _ _ _ _ _ _ _ ready
      there rfl filled.ipc wrote'
  refine ⟨alone, prepared, _, later, preparedAt_call rfl prepared ready there ⟨_, _, rfl⟩, restarted, there', ports, ?_⟩
  rw [changed]
  simp only [Connection.afterWrite, complete, Connection.credentials, ports]
  rfl

/-- Two channels of this kernel are left with port zero. After its file was deleted, a restart that ends well gives
one of them another port. -/
theorem restarts_keep_kernel_twoFree :
    let host := crowd (fun index => decide (index ≠ 0 ∧ index ≠ 1))
    let start := run (answer 0) { host := host } [.open_ rootConnector]
    ∃ alone, prepare (answer 0) 0 (some "a") {} start = (.ok "a", alone) ∧
      let deleted := { alone with host := (alone.host.removeFile "kernel-a.json").2 }
      ∃ original later,
        PreparedAt 0 host ([.open_ rootConnector] ++ [.call 0 (.prepare (some "a") {})]) 0 "a" 0 original alone alone ∧
          (restart (answer 0) 0 "a" deleted).1 = .ok () ∧
            (restart (answer 0) 0 "a" deleted).2.kernels.get? 0 = some later ∧
              original.connection.ports = ⟨1, 0, 1, 0, 1⟩ ∧ later.connection.ports = ⟨1, 1, 1, 0, 1⟩ :=
  prepare_twoFree twoFree_crowd

end World
end Mooring
