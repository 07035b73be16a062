import Mooring.Proofs.Connection.Failures
import Mooring.Proofs.Connector.PortAccounts
import Mooring.Proofs.Connector.Work
import Mooring.Proofs.Files.LastName

/-! Kernels that cannot be prepared with the built-in provisioner. Whichever step fails, the ports that were
claimed so far are given back, the new file is taken away and the id is free again. -/

namespace Mooring

open Host (AddsNoFile)

namespace LocalProvisioner.Stage

variable {base : PortClaims}

def ClaimsLast (base : PortClaims) (stage : Stage) : Prop :=
  stage.claims.ports = stage.provisioner.cachedPorts.reverse ++ base.ports

theorem ClaimsLast.claimPort {stage : Stage} (last : stage.ClaimsLast base) (ip : String) (channel : Channel) :
    (stage.claimPort ip channel).2.ClaimsLast base := by
  unfold Stage.claimPort
  split
  next => exact last
  next =>
    have found := (stage.claims.findAvailable_cases stage.host ip).2
    split
    next fault claims host answer =>
      rw [answer] at found
      cases found
      exact last
    next port claims host answer =>
      rw [answer] at found
      calc claims.ports
        _ = port :: stage.claims.ports := found.2
        _ = port :: (stage.provisioner.cachedPorts.reverse ++ base.ports) := by rw [last]
        _ = (stage.provisioner.cachedPorts ++ [port]).reverse ++ base.ports := by rw [List.reverse_append]; rfl

theorem ClaimsLast.claimPorts {stage : Stage} (last : stage.ClaimsLast base) (ip : String) (channels : List Channel) :
    (claimPorts ip channels stage).2.ClaimsLast base := by
  induction channels generalizing stage with
  | nil => exact last
  | cons channel rest ih =>
    have first := last.claimPort ip channel
    unfold Stage.claimPorts
    split
    next error later answer =>
      rw [answer] at first
      exact first
    next later answer =>
      rw [answer] at first
      exact ih first

theorem ClaimsLast.preLaunch {stage : Stage} (last : stage.ClaimsLast base) : stage.preLaunch.2.ClaimsLast base := by
  obtain ⟨host, _, checked⟩ := stage.checkLocal_cases
  unfold Stage.preLaunch
  split
  next error later answer =>
    rw [answer] at checked
    cases checked
    exact last
  next later answer =>
    rw [answer] at checked
    cases checked
    have claimed : (claimAll { stage with host := host }).2.ClaimsLast base := by
      unfold claimAll
      have ready : ({ stage with host := host } : Stage).ClaimsLast base := last
      split
      next => exact ready.claimPorts _ _
      next => exact ready
    split
    next error ready answer =>
      rw [answer] at claimed
      exact claimed
    next ready answer =>
      rw [answer] at claimed
      unfold Stage.writeFile
      split <;> exact claimed

theorem preLaunch_error {stage : Stage} {path : String} {error : Error} (named : stage.connection.file = some path)
    (nonempty : path ≠ "") (failed : stage.preLaunch.1 = .error error) :
    AddsNoFile stage.host stage.preLaunch.2.host ∧
      stage.preLaunch.2.connection.written = stage.connection.written := by
  obtain ⟨ready, same, ⟨error', stopped⟩ | wrote⟩ := stage.preLaunch_writes
  · rw [stopped]
    exact ⟨same.takes.alike.addsNoFile, same.written⟩
  · rw [wrote] at failed ⊢
    unfold Stage.writeFile at failed ⊢
    split
    next error' connection host answer =>
      have leaves := (Connection.write_error_leaves answer).addsNoFile (same.file.trans named) nonempty
      rw [Connection.write_error answer]
      exact ⟨same.takes.alike.addsNoFile.trans leaves, same.written⟩
    next path' connection host answer =>
      rw [answer] at failed
      cases failed

end LocalProvisioner.Stage

namespace World

/-- All ids stand for what they stood for, the same ports are claimed, and there is no new file. -/
structure Untouched (before after : World) : Prop where
  slots : SameSlots before after
  kernels : after.kernels = before.kernels
  claims : ∀ key, after.claimsOf key = before.claimsOf key
  files : AddsNoFile before.host after.host

theorem Untouched.refl (world : World) : Untouched world world :=
  ⟨.refl world, rfl, fun _ => rfl, (Host.Alike.refl world.host).addsNoFile⟩

theorem Untouched.trans {first second third : World} (one : Untouched first second) (two : Untouched second third) :
    Untouched first third where
  slots := one.slots.trans two.slots
  kernels := two.kernels.trans one.kernels
  claims key := (two.claims key).trans (one.claims key)
  files := one.files.trans two.files

theorem Untouched.withHost {world : World} {host : Host} (files : AddsNoFile world.host host) :
    Untouched world { world with host := host } :=
  ⟨.withHost world host, rfl, fun _ => rfl, files⟩

theorem Untouched.setRegistry (world : World) (index : Nat) (registry : Registry) :
    Untouched world (world.setRegistry index registry) :=
  ⟨.setRegistry world index registry, rfl, fun _ => rfl, (Host.Alike.refl world.host).addsNoFile⟩

theorem cleanupSockets_addsNoFile (connection : Connection) (host : Host) :
    AddsNoFile host (connection.cleanupSockets host) := by
  unfold Connection.cleanupSockets
  cases connection.transport with
  | tcp => exact (Host.Alike.refl host).addsNoFile
  | ipc =>
    simp only
    generalize Channel.all = channels
    induction channels generalizing host with
    | nil => exact (Host.Alike.refl host).addsNoFile
    | cons channel rest ih => exact (host.removeFile_addsNoFile _).trans (ih _)

/-- Giving up with the built-in provisioner releases the ports that it claimed, and removes no file but sockets. -/
theorem abandon_untouched (answerer : Answerer) {before world : World} {key : Nat} {state : LocalProvisioner}
    {connection : Connection} (slots : SameSlots before world) (kernels : world.kernels = before.kernels)
    (others : ∀ other, other ≠ key → world.claimsOf other = before.claimsOf other)
    (last : (world.claimsOf key).ports = state.cachedPorts.reverse ++ (before.claimsOf key).ports)
    (files : AddsNoFile before.host world.host) (unwritten : connection.written = false) :
    Untouched before (world.abandon answerer (.local_ key state) connection) where
  slots := slots
  kernels := kernels
  claims other := by
    have released : (world.abandon answerer (.local_ key state) connection).claimsOf other =
        if other = key then (world.claimsOf key).releaseAll state.cachedPorts else world.claimsOf other :=
      world.claimsOf_setClaims key _ other
    rw [released]
    split
    next same => rw [same, PortClaims.releaseAll_of_onTop last]
    next differs => exact others other differs
  files := by
    have same : (world.abandon answerer (.local_ key state) connection).host =
        connection.cleanupSockets world.host := by
      unfold abandon
      rw [Provisioner.cleanup_local]
      simp only
      rw [Connection.cleanupFile_of_unwritten _ unwritten]
      rfl
    rw [same]
    exact files.trans (cleanupSockets_addsNoFile connection world.host)

theorem launchWith_untouched {answerer : Answerer} {world : World} {key : Nat} {state : LocalProvisioner}
    {connection : Connection} {path : String} {error : Error} (fresh : state.cachedPorts = [])
    (named : connection.file = some path) (nonempty : path ≠ "") (unwritten : connection.written = false)
    (failed : (launchWith answerer (.local_ key state) connection world).1 = .error error) :
    Untouched world (launchWith answerer (.local_ key state) connection world).2 := by
  have last : LocalProvisioner.Stage.ClaimsLast (world.claimsOf key)
      ⟨state, connection, world.claimsOf key, world.host⟩ := by
    simp [LocalProvisioner.Stage.ClaimsLast, fresh]
  have launched := last.preLaunch
  have stopped (error : Error) := @LocalProvisioner.Stage.preLaunch_error
    ⟨state, connection, world.claimsOf key, world.host⟩ path error named nonempty
  unfold launchWith at failed ⊢
  rw [Provisioner.preLaunch_local] at failed ⊢
  simp only at failed ⊢
  generalize LocalProvisioner.Stage.preLaunch _ = outcome at launched stopped failed ⊢
  obtain ⟨result, stage⟩ := outcome
  cases result with
  | ok => cases failed
  | error error' =>
    obtain ⟨files, same⟩ := stopped error' rfl
    have claimed (other : Nat) : (World.claimsOf { world.setClaims key stage.claims with host := stage.host } other) =
        if other = key then stage.claims else world.claimsOf other :=
      world.claimsOf_setClaims key stage.claims other
    refine abandon_untouched answerer (fun _ => rfl) rfl (fun other differs => ?_) ?_ files (same.trans unwritten)
    · rw [claimed, if_neg differs]
    · rw [claimed, if_pos rfl]
      exact launched

theorem launch_untouched {answerer : Answerer} {world : World} {index : Nat} {connector : Connector} {id : String}
    {spec : KernelSpec} {error : Error} (valid : isValidId id = true) (offers : connector.registry.OffersBuiltin spec)
    (failed : (launch answerer index connector id spec world).1 = .error error) :
    Untouched world (launch answerer index connector id spec world).2 := by
  have made := world.host.createDirectories_addsNoFile connector.directory
  have drawn : Untouched world { world with host := (world.host.createDirectories connector.directory).2.drawUuid.2 } :=
    .withHost made
  have before : Untouched world (world.prepared index connector spec) := drawn.trans (.setRegistry _ index _)
  rcases launch_offers answerer index id world offers with
    ⟨error', stopped | stopped⟩ | ⟨connection, state, _, _, unwritten, named, _, _, fresh, goesOn⟩
  · rw [stopped]
    exact .withHost made
  · rw [stopped]
    exact before
  · rw [goesOn] at failed ⊢
    exact before.trans (launchWith_untouched fresh named
      (kernelPath_ne_empty connector.directory valid) unwritten failed)

theorem freeSlot_sameSlots {world after : World} {index : Nat} {id : String} (free : world.slot? index id = none)
    (same : SameSlots (world.setSlot index id .preparing) after) : SameSlots world (after.freeSlot index id) := by
  intro other
  have during := same other
  rw [setSlot, connector?_modifySlots] at during
  rw [freeSlot, connector?_modifySlots]
  by_cases here : other = index
  · subst here
    rw [if_pos rfl, Option.map_map] at during ⊢
    unfold slot? at free
    have erased := congrArg (Option.map (fun slots => slots.erase id)) during
    rw [Option.map_map, Option.map_map] at erased
    refine erased.trans ?_
    cases there : world.connector? other with
    | none => rfl
    | some connector =>
      rw [there] at free
      exact congrArg some (Table.erase_set_of_absent free Slot.preparing)
  · rw [if_neg here] at during ⊢
    exact during

theorem prepareAs_untouched {answerer : Answerer} {world : World} {index : Nat} {id : String} {spec : KernelSpec}
    {error : Error} (offers : ∀ connector, world.connector? index = some connector →
    connector.registry.OffersBuiltin spec)
    (failed : (prepareAs answerer index id spec world).1 = .error error) :
    Untouched world (prepareAs answerer index id spec world).2 := by
  rcases world.prepareAs_cases answerer index id spec with
    ⟨error', refused⟩ | ⟨valid, free, _, connector, there,
    ⟨error', after, launched, result⟩ | ⟨kernel, after, _, result⟩⟩
  · rw [refused]
    exact .refl world
  · rw [result]
    have mine : connector.registry.OffersBuiltin spec := by
      rw [setSlot, connector?_modifySlots, if_pos rfl] at there
      obtain ⟨old, known, rfl⟩ := Option.map_eq_some_iff.mp there
      exact offers old known
    have kept := @launch_untouched answerer (world.setSlot index id .preparing) index connector
        id spec error' valid mine
    rw [launched] at kept
    have launch := kept rfl
    exact ⟨freeSlot_sameSlots free launch.slots, launch.kernels, launch.claims, launch.files⟩
  · rw [result] at failed
    cases failed

/-- A preparation that fails leaves nothing behind, whatever step it is that fails. -/
theorem failed_prepare_untouched (answerer : Answerer) (index : Nat) (name : Option String)
    (spec : KernelSpec) (world : World)
    (offers : ∀ connector, world.connector? index = some connector → connector.registry.OffersBuiltin spec)
    (error : Error)
    (failed : (prepare answerer index name spec world).1 = .error error) :
    Untouched world (prepare answerer index name spec world).2 := by
  cases name with
  | some id => exact prepareAs_untouched offers failed
  | none =>
    have drawn : Untouched world { world with host := world.host.drawUuid.2 } :=
      .withHost (Host.Alike.refl world.host).addsNoFile
    exact drawn.trans (prepareAs_untouched offers failed)

def faultyDisk : World :=
  (World.addConnector
    { host := { Host.Isolated.machine [["run"]] [11, 12, 13, 14, 15] with disk := { flush := some (.system 5) } } }
    plainConnector).2

theorem failed_prepare_untouched_faultyDisk :
    (prepare (answer 1) 0 (some "a") {} faultyDisk).1 = .error (.io (.system 5)) ∧
      (prepare (answer 1) 0 (some "a") {} faultyDisk).2.host.ports = [] ∧
        Untouched faultyDisk (prepare (answer 1) 0 (some "a") {} faultyDisk).2 := by
  have offers : ∀ connector, faultyDisk.connector? 0 = some connector → connector.registry.OffersBuiltin {} := by
    intro connector known
    cases known
    exact (Registry.withBuiltins_builtinOnly _).offers {}
  have failed : (prepare (answer 1) 0 (some "a") {} faultyDisk).1 = .error (.io (.system 5)) := by decide +kernel
  exact ⟨failed, by decide +kernel, failed_prepare_untouched (answer 1) 0 (some "a") {} faultyDisk offers _ failed⟩

end World

end Mooring
