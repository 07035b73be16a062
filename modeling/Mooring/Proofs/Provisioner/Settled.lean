import Mooring.Proofs.Provisioner.KernelFile

/-! Kernels whose ports are settled. Launching them claims nothing, also when their ports have been given back. -/

namespace Mooring.LocalProvisioner.Stage

/-- There is a port for every channel that a launch would claim one for. -/
def Settled (stage : Stage) : Prop :=
  stage.connection.transport = .tcp → stage.provisioner.cachePorts = true →
    ∀ channel, stage.connection.ports.get channel ≠ 0

theorem claimPorts_of_set (stage : Stage) (ip : String) {channels : List Channel}
    (set : ∀ channel ∈ channels, stage.connection.ports.get channel ≠ 0) :
    claimPorts ip channels stage =
      (.ok (), { stage with provisioner := { stage.provisioner with portsCached := true } }) := by
  induction channels with
  | nil => rfl
  | cons channel rest ih =>
    have skipped : stage.claimPort ip channel = (.ok (), stage) := by
      unfold claimPort
      rw [if_pos (set channel List.mem_cons_self)]
    unfold claimPorts
    rw [skipped]
    exact ih (fun other listed => set other (List.mem_cons_of_mem _ listed))

theorem Settled.claimAll {stage : Stage} (settled : stage.Settled) :
    ∃ cached, stage.claimAll = (.ok (),
    { stage with provisioner := { stage.provisioner with portsCached := cached } }) := by
  unfold Stage.claimAll
  split
  next claims => exact ⟨true, stage.claimPorts_of_set _ (fun channel _ => settled claims.1 claims.2.1 channel)⟩
  next => exact ⟨stage.provisioner.portsCached, rfl⟩

theorem writeFile_provisioner (stage : Stage) :
    stage.writeFile.2.claims = stage.claims ∧
      stage.writeFile.2.provisioner.cachedPorts = stage.provisioner.cachedPorts ∧
        stage.writeFile.2.provisioner.cachePorts = stage.provisioner.cachePorts := by
  unfold writeFile
  split <;> exact ⟨rfl, rfl, rfl⟩

theorem writeFile_transport (stage : Stage) : stage.writeFile.2.connection.transport = stage.connection.transport := by
  rw [stage.writeFile_eq.1, Connection.write_transport]

theorem Settled.writeFile {stage : Stage} (settled : stage.Settled) : stage.writeFile.2.Settled := by
  intro tcp caches
  rw [writeFile_transport] at tcp
  rw [stage.writeFile_provisioner.2.2] at caches
  have complete := settled tcp caches
  rw [stage.writeFile_eq.1, Connection.write_ports _ _ complete]
  exact complete

theorem Settled.preLaunch {stage : Stage} (settled : stage.Settled) :
    stage.preLaunch.2.claims = stage.claims ∧
      stage.preLaunch.2.provisioner.cachedPorts = stage.provisioner.cachedPorts ∧ stage.preLaunch.2.Settled := by
  obtain ⟨host, _, checked⟩ := stage.checkLocal_cases
  unfold Stage.preLaunch
  split
  next error later answer =>
    rw [answer] at checked
    cases checked
    exact ⟨rfl, rfl, settled⟩
  next later answer =>
    rw [answer] at checked
    cases checked
    have ready : Settled { stage with host := host } := settled
    obtain ⟨cached, kept⟩ := ready.claimAll
    rw [kept]
    simp only
    generalize whole : Stage.mk { stage.provisioner with portsCached := cached } stage.connection
      stage.claims host = last
    have same : last.Settled := by
      rw [← whole]
      exact settled
    obtain ⟨claims, ports, _⟩ := last.writeFile_provisioner
    rw [claims, ports, ← whole]
    exact ⟨rfl, rfl, whole ▸ same.writeFile⟩

theorem claimPorts_cachePorts (stage : Stage) (ip : String) (channels : List Channel) :
    (claimPorts ip channels stage).2.provisioner.cachePorts = stage.provisioner.cachePorts := by
  induction channels generalizing stage with
  | nil => rfl
  | cons channel rest ih =>
    have first : (stage.claimPort ip channel).2.provisioner.cachePorts = stage.provisioner.cachePorts := by
      unfold claimPort
      split
      next => rfl
      next => split <;> rfl
    unfold claimPorts
    split
    next error later answer =>
      rw [answer] at first
      exact first
    next later answer =>
      rw [answer] at first
      exact (ih later).trans first

theorem preLaunch_cachePorts (stage : Stage) :
    stage.preLaunch.2.provisioner.cachePorts = stage.provisioner.cachePorts := by
  obtain ⟨host, _, checked⟩ := stage.checkLocal_cases
  unfold Stage.preLaunch
  split
  next error later answer =>
    rw [answer] at checked
    cases checked
    rfl
  next later answer =>
    rw [answer] at checked
    cases checked
    have claimed : (claimAll { stage with host := host }).2.provisioner.cachePorts = stage.provisioner.cachePorts := by
      unfold claimAll
      split
      next => exact claimPorts_cachePorts _ _ _
      next => rfl
    split
    next error last answer =>
      rw [answer] at claimed
      exact claimed
    next last answer =>
      rw [answer] at claimed
      exact last.writeFile_provisioner.2.2.trans claimed

theorem preLaunch_transport (stage : Stage) : stage.preLaunch.2.connection.transport = stage.connection.transport := by
  obtain ⟨ready, same, ⟨error, outcome⟩ | outcome⟩ := stage.preLaunch_writes
  · rw [outcome]
    exact same.transport
  · rw [outcome, writeFile_transport]
    exact same.transport

theorem preLaunch_settles {stage : Stage} (nonzero : stage.host.AnswersNonzero)
    (fresh : stage.provisioner.portsCached = false) (empty : stage.provisioner.cachedPorts = [])
    (unset : stage.connection.ports = Ports.unset) (done : stage.preLaunch.1 = .ok ()) : stage.preLaunch.2.Settled := by
  intro tcp caches
  rw [preLaunch_transport] at tcp
  rw [preLaunch_cachePorts] at caches
  have onTop : stage.OnTop stage.claims.ports :=
    ⟨by simp [empty], fun port known => by simp [empty] at known, nonzero⟩
  exact ((preLaunch_fresh onTop tcp caches fresh empty (fun channel => by simp [unset, Ports.unset])).2.2.2
    done).complete

end Mooring.LocalProvisioner.Stage
