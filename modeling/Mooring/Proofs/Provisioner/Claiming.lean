import Mooring.Provisioner.Local
import Mooring.Proofs.Connection.Steps
import Mooring.Proofs.Ports.Assignment
import Mooring.Proofs.Ports.Claims

/-! The ports of a launch. As many ports as the provisioner knows of are claimed on top of the others,
so that a launch that fails can give back exactly these; a launch that ends well has one for every
channel. A kernel that has its ports keeps them over restarts. -/

namespace Mooring

open Host (SparesAll TakesAnswers)

theorem Connection.write_ports (connection : Connection) (host : Host)
    (complete : ∀ channel, connection.ports.get channel ≠ 0) :
    (connection.write host).2.1.ports = connection.ports := by
  rcases connection.write_cases host with ⟨_, _, same⟩ | ⟨_, ⟨_, _, _, same⟩ | ⟨path, written, after, wrote, same⟩⟩
  · rw [same]
  · rw [same]
  · rw [same]
    obtain ⟨ready, drawn, stored, fresh, text, _, _, rfl, _⟩ := ConnectionFile.write_eq_ok wrote
    have none_unset : connection.ports.unsetChannels = [] := Ports.unsetChannels_eq_nil _ complete
    simp [afterWrite, ConnectionFile.complete, credentials, none_unset, Ports.assign]

@[simp] theorem Connection.recordAllocated_transport (connection : Connection) :
    connection.recordAllocated.transport = connection.transport := by
  unfold recordAllocated
  split <;> rfl

theorem Connection.write_transport (connection : Connection) (host : Host) :
    (connection.write host).2.1.transport = connection.transport := by
  rcases connection.write_cases host with ⟨_, _, same⟩ | ⟨_, ⟨_, _, _, same⟩ | ⟨_, _, _, _, same⟩⟩
  · rw [same]
  · rw [same]
  · rw [same]
    exact recordAllocated_transport connection

structure LocalProvisioner.Holds (provisioner : LocalProvisioner) (ports : Ports) : Prop where
  cached : provisioner.portsCached = true
  inOrder : provisioner.cachedPorts = Channel.allocationOrder.map ports.get
  complete : ∀ channel, ports.get channel ≠ 0

namespace LocalProvisioner.Stage

variable {base : List UInt16}

/-- The ports that the provisioner knows of lie on top of those that others claimed, and are no zeros. -/
structure OnTop (base : List UInt16) (stage : Stage) : Prop where
  claims : stage.claims.ports = stage.provisioner.cachedPorts.reverse ++ base
  nonzero : ∀ port ∈ stage.provisioner.cachedPorts, port ≠ 0
  answers : stage.host.AnswersNonzero

structure SameButPorts (before after : Stage) : Prop where
  takes : before.host.TakesAnswers after.host
  file : after.connection.file = before.connection.file
  written : after.connection.written = before.connection.written
  transport : after.connection.transport = before.connection.transport

theorem SameButPorts.refl (stage : Stage) : SameButPorts stage stage := ⟨.refl _, rfl, rfl, rfl⟩

theorem SameButPorts.trans {first second third : Stage} (one : SameButPorts first second)
    (two : SameButPorts second third) : SameButPorts first third :=
  ⟨one.takes.trans two.takes, two.file.trans one.file, two.written.trans one.written,
    two.transport.trans one.transport⟩

theorem claimPort_same (stage : Stage) (ip : String) (channel : Channel) :
    SameButPorts stage (stage.claimPort ip channel).2 := by
  unfold claimPort
  split
  next => exact .refl stage
  next =>
    have takes := (stage.claims.findAvailable_cases stage.host ip).1
    split
    next fault claims host answer =>
      rw [answer] at takes
      exact ⟨takes, rfl, rfl, rfl⟩
    next port claims host answer =>
      rw [answer] at takes
      exact ⟨takes, rfl, rfl, rfl⟩

theorem claimPorts_same (stage : Stage) (ip : String) (channels : List Channel) :
    SameButPorts stage (claimPorts ip channels stage).2 := by
  induction channels generalizing stage with
  | nil => exact ⟨.refl _, rfl, rfl, rfl⟩
  | cons channel rest ih =>
    unfold claimPorts
    have first := stage.claimPort_same ip channel
    split
    next error later answer =>
      rw [answer] at first
      exact first
    next later answer =>
      rw [answer] at first
      exact first.trans (ih later)

theorem claimPort_cases {stage : Stage} (onTop : stage.OnTop base) (ip : String) {channel : Channel}
    (unset : stage.connection.ports.get channel = 0) :
    (stage.claimPort ip channel).2.OnTop base ∧
      ((stage.claimPort ip channel).1 = .ok () → ∃ port,
        (stage.claimPort ip channel).2.connection = stage.connection.setPort channel port ∧
          (stage.claimPort ip channel).2.provisioner.cachedPorts = stage.provisioner.cachedPorts ++ [port]) := by
  obtain ⟨takes, found⟩ := stage.claims.findAvailable_cases stage.host ip
  have answers := onTop.answers.of_suffix takes.spares.ports
  unfold claimPort
  rw [if_neg (fun set => set unset)]
  cases answer : stage.claims.findAvailable stage.host ip with
  | mk result rest =>
    obtain ⟨claims, host⟩ := rest
    rw [answer] at found answers
    cases result with
    | error fault =>
      cases found
      exact ⟨⟨onTop.claims, onTop.nonzero, answers⟩, fun done => by cases done⟩
    | ok port =>
      obtain ⟨listed, claimed⟩ := found
      refine ⟨⟨?_, ?_, answers⟩, fun _ => ⟨port, rfl, rfl⟩⟩
      · show claims.ports = (stage.provisioner.cachedPorts ++ [port]).reverse ++ base
        have pushed : claims.ports = port :: stage.claims.ports := claimed
        rw [pushed, onTop.claims, List.reverse_append]
        rfl
      · intro other known
        rcases List.mem_append.mp known with old | new
        · exact onTop.nonzero other old
        · rw [List.mem_singleton.mp new]
          exact onTop.answers port listed

theorem claimPorts_cases {stage : Stage} (onTop : stage.OnTop base) (ip : String) {channels : List Channel}
    (nodup : channels.Nodup) (unset : ∀ channel ∈ channels, stage.connection.ports.get channel = 0) :
    (claimPorts ip channels stage).2.OnTop base ∧
      ((claimPorts ip channels stage).1 = .ok () →
        (claimPorts ip channels stage).2.provisioner.portsCached = true ∧
          (claimPorts ip channels stage).2.provisioner.cachedPorts = stage.provisioner.cachedPorts ++
            channels.map (claimPorts ip channels stage).2.connection.ports.get ∧
            ∀ other, other ∉ channels → (claimPorts ip channels stage).2.connection.ports.get other =
              stage.connection.ports.get other) := by
  induction channels generalizing stage with
  | nil =>
    refine ⟨⟨onTop.claims, onTop.nonzero, onTop.answers⟩, fun _ => ⟨rfl, ?_, fun _ _ => rfl⟩⟩
    simp [claimPorts]
  | cons channel rest ih =>
    obtain ⟨new, nodup⟩ := List.nodup_cons.mp nodup
    obtain ⟨onTop', done⟩ := claimPort_cases onTop ip (unset channel List.mem_cons_self)
    unfold claimPorts
    cases answer : stage.claimPort ip channel with
    | mk result next =>
      rw [answer] at onTop' done
      cases result with
      | error error => exact ⟨onTop', fun ok => by cases ok⟩
      | ok =>
        obtain ⟨port, connection, cachedPorts⟩ := done rfl
        simp only at connection cachedPorts ⊢
        have stays (other : Channel) (differs : other ≠ channel) :
            next.connection.ports.get other = stage.connection.ports.get other := by
          rw [connection]
          exact PerChannel.get_set_of_ne stage.connection.ports port differs
        have unset' : ∀ other ∈ rest, next.connection.ports.get other = 0 := by
          intro other listed
          rw [stays other (fun same => new (same ▸ listed))]
          exact unset other (List.mem_cons_of_mem _ listed)
        obtain ⟨last, all⟩ := ih onTop' nodup unset'
        refine ⟨last, fun ok => ?_⟩
        obtain ⟨cached, ports, others⟩ := all ok
        refine ⟨cached, ?_, fun other absent => ?_⟩
        · have given : (claimPorts ip rest next).2.connection.ports.get channel = port := by
            rw [others channel new, connection]
            exact PerChannel.get_set_self stage.connection.ports channel port
          rw [ports, cachedPorts, List.map_cons, given, List.append_assoc]
          rfl
        · rw [List.mem_cons, not_or] at absent
          rw [others other absent.2, stays other absent.1]

theorem checkLocal_cases (stage : Stage) :
    ∃ host, stage.host.TakesAnswers host ∧ stage.checkLocal.2 = { stage with host := host } := by
  unfold checkLocal
  split
  next => exact ⟨stage.host, .refl _, rfl⟩
  next => exact ⟨_, stage.host.isLocal_takes stage.connection.ip, rfl⟩

theorem writeFile_cases (stage : Stage) (complete : ∀ channel, stage.connection.ports.get channel ≠ 0) :
    ∃ info connection host,
      stage.writeFile.2 = { stage with
          provisioner := { stage.provisioner with info := info }
          connection := connection
          host := host } ∧
        connection.ports = stage.connection.ports ∧ connection.transport = stage.connection.transport ∧
          host.ports <:+ stage.host.ports := by
  have ports := stage.connection.write_ports stage.host complete
  have transport := stage.connection.write_transport stage.host
  have spares := (stage.connection.write_spares stage.host).ports
  unfold writeFile
  split
  next error connection host answer =>
    rw [answer] at ports transport spares
    exact ⟨stage.provisioner.info, connection, host, rfl, ports, transport, spares⟩
  next path connection host answer =>
    rw [answer] at ports transport spares
    exact ⟨some (connection.snapshot false), connection, host, rfl, ports, transport, spares⟩

/-- A first launch claims ports on top of the others; when it ends well, all channels have one. -/
theorem preLaunch_fresh {stage : Stage} (onTop : stage.OnTop base) (tcp : stage.connection.transport = .tcp)
    (caches : stage.provisioner.cachePorts = true) (fresh : stage.provisioner.portsCached = false)
    (empty : stage.provisioner.cachedPorts = []) (unset : ∀ channel, stage.connection.ports.get channel = 0) :
    stage.preLaunch.2.OnTop base ∧ stage.preLaunch.2.host.ports <:+ stage.host.ports ∧
      stage.preLaunch.2.connection.transport = .tcp ∧
      (stage.preLaunch.1 = .ok () → stage.preLaunch.2.provisioner.Holds stage.preLaunch.2.connection.ports) := by
  obtain ⟨host, takes, checked⟩ := stage.checkLocal_cases
  have ready : ({ stage with host := host } : Stage).OnTop base :=
    ⟨onTop.claims, onTop.nonzero, onTop.answers.of_suffix takes.spares.ports⟩
  unfold preLaunch
  split
  next error later answer =>
    rw [answer] at checked
    cases checked
    exact ⟨ready, takes.spares.ports, tcp, fun done => by cases done⟩
  next later answer =>
    rw [answer] at checked
    cases checked
    obtain ⟨claimed, all⟩ :=
      claimPorts_cases ready stage.connection.ip Channel.nodup_allocationOrder (fun channel _ => unset channel)
    have same := claimPorts_same { stage with host := host } stage.connection.ip Channel.allocationOrder
    have claims : ({ stage with host := host } : Stage).claimAll =
        claimPorts stage.connection.ip Channel.allocationOrder { stage with host := host } := by
      simp [claimAll, tcp, caches, fresh]
    rw [claims]
    have fewer := same.takes.spares.ports.trans takes.spares.ports
    split
    next error last answer =>
      rw [answer] at claimed same fewer
      exact ⟨claimed, fewer, same.transport.trans tcp, fun done => by cases done⟩
    next last answer =>
      rw [answer] at claimed same all fewer
      obtain ⟨cached, ports, _⟩ := all rfl
      have exact_ports : last.provisioner.cachedPorts = Channel.allocationOrder.map last.connection.ports.get := by
        rw [ports]
        simp [empty]
      have complete : ∀ channel, last.connection.ports.get channel ≠ 0 := by
        intro channel
        apply claimed.nonzero
        rw [exact_ports]
        exact List.mem_map_of_mem (Channel.mem_allocationOrder channel)
      obtain ⟨info, connection, after, wrote, samePorts, sameTransport, fewest⟩ := last.writeFile_cases complete
      rw [wrote]
      refine ⟨⟨claimed.claims, claimed.nonzero, claimed.answers.of_suffix fewest⟩, fewest.trans fewer,
        sameTransport.trans (same.transport.trans tcp), fun _ => ⟨cached, ?_, ?_⟩⟩
      · rw [samePorts]
        exact exact_ports
      · rw [samePorts]
        exact complete

theorem preLaunch_writes (stage : Stage) :
    ∃ ready, SameButPorts stage ready ∧
      ((∃ error, stage.preLaunch = (.error error, ready)) ∨ stage.preLaunch = ready.writeFile) := by
  obtain ⟨host, takes, checked⟩ := stage.checkLocal_cases
  unfold preLaunch
  split
  next error later answer =>
    rw [answer] at checked
    cases checked
    exact ⟨{ stage with host := host }, ⟨takes, rfl, rfl, rfl⟩, .inl ⟨error, rfl⟩⟩
  next later answer =>
    rw [answer] at checked
    cases checked
    have start : SameButPorts stage { stage with host := host } := ⟨takes, rfl, rfl, rfl⟩
    have claims : SameButPorts { stage with host := host } (claimAll { stage with host := host }).2 := by
      unfold claimAll
      split
      next => exact claimPorts_same _ _ _
      next => exact .refl _
    split
    next error last answer =>
      rw [answer] at claims
      exact ⟨last, start.trans claims, .inl ⟨error, rfl⟩⟩
    next last answer =>
      rw [answer] at claims
      exact ⟨last, start.trans claims, .inr rfl⟩

end LocalProvisioner.Stage

theorem LocalProvisioner.mem_cleanup (provisioner : LocalProvisioner) (claims : PortClaims) (port : UInt16) :
    port ∈ (provisioner.cleanup claims false).2.ports ↔ port ∉ provisioner.cachedPorts ∧ port ∈ claims.ports :=
  claims.mem_releaseAll provisioner.cachedPorts port

end Mooring
