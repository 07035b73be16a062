import Mathlib.Logic.Relation
import Mooring.Host.Isolated
import Mooring.Proofs.Connection.Failures
import Mooring.Proofs.Provisioner.Settled

/-! A provisioner over many launches and cleanups, whatever fails in between and whatever others claim. Channels that
have a port keep it, and no launch claims it again: not after a restart, where it is still claimed, and not after a
final cleanup, where it is not. -/

namespace Mooring

namespace Ports

def Extends (before after : Ports) : Prop := ∀ channel, before.get channel ≠ 0 → after.get channel = before.get channel

def Gained (before after : Ports) (port : UInt16) : Prop :=
  ∃ channel, before.get channel = 0 ∧ after.get channel = port ∧ port ≠ 0

theorem Extends.refl (ports : Ports) : ports.Extends ports := fun _ _ => rfl

theorem Extends.trans {first second third : Ports} (one : first.Extends second) (two : second.Extends third) :
    first.Extends third := fun channel set =>
  (two channel (by rwa [one channel set])).trans (one channel set)

theorem Extends.unset {before after : Ports} (more : before.Extends after) {channel : Channel}
    (unset : after.get channel = 0) : before.get channel = 0 := by
  by_contra set
  exact set ((more channel set).symm.trans unset)

theorem not_gained_self (ports : Ports) (port : UInt16) : ¬ ports.Gained ports port := by
  rintro ⟨channel, unset, same, nonzero⟩
  exact nonzero (same.symm.trans unset)

theorem gained_trans_iff {first second third : Ports} (one : first.Extends second) (two : second.Extends third)
    (port : UInt16) : first.Gained third port ↔ first.Gained second port ∨ second.Gained third port := by
  constructor
  · rintro ⟨channel, unset, same, nonzero⟩
    by_cases still : second.get channel = 0
    · exact .inr ⟨channel, still, same, nonzero⟩
    · exact .inl ⟨channel, unset, (two channel still).symm.trans same, nonzero⟩
  · rintro (⟨channel, unset, same, nonzero⟩ | ⟨channel, unset, same, nonzero⟩)
    · exact ⟨channel, unset, (two channel (same ▸ nonzero)).trans same, nonzero⟩
    · exact ⟨channel, one.unset unset, same, nonzero⟩

theorem extends_set {ports : Ports} {channel : Channel} (unset : ports.get channel = 0) (port : UInt16) :
    ports.Extends (ports.set channel port) := by
  intro other set
  exact PerChannel.get_set_of_ne ports port (fun same => set (same ▸ unset))

theorem gained_set_iff {ports : Ports} {channel : Channel} (unset : ports.get channel = 0) {port : UInt16}
    (nonzero : port ≠ 0) (other : UInt16) : ports.Gained (ports.set channel port) other ↔ other = port := by
  constructor
  · rintro ⟨gaining, gap, same, _⟩
    by_cases here : gaining = channel
    · rw [here, PerChannel.get_set_self] at same
      exact same.symm
    · rw [PerChannel.get_set_of_ne ports port here] at same
      exact absurd (same.symm.trans gap) ‹other ≠ 0›
  · rintro rfl
    exact ⟨channel, unset, PerChannel.get_set_self ports channel other, nonzero⟩

end Ports

namespace LocalProvisioner
namespace Stage

structure Grows (before after : Stage) : Prop where
  ports : before.connection.ports.Extends after.connection.ports
  claims : ∀ port, port ∈ after.claims.ports ↔
    port ∈ before.claims.ports ∨ before.connection.ports.Gained after.connection.ports port
  free : ∀ port, before.connection.ports.Gained after.connection.ports port → port ∉ before.claims.ports
  cached : ∀ port, port ∈ after.provisioner.cachedPorts ↔
    port ∈ before.provisioner.cachedPorts ∨ before.connection.ports.Gained after.connection.ports port
  answers : after.host.ports <:+ before.host.ports

theorem Grows.of_same {before after : Stage} (ports : after.connection.ports = before.connection.ports)
    (claims : after.claims = before.claims) (cached : after.provisioner.cachedPorts = before.provisioner.cachedPorts)
    (answers : after.host.ports <:+ before.host.ports) : Grows before after where
  ports := ports ▸ Ports.Extends.refl _
  claims port := by simp [claims, ports, Ports.not_gained_self]
  free port gained := absurd gained (ports ▸ Ports.not_gained_self _ port)
  cached port := by simp [cached, ports, Ports.not_gained_self]
  answers := answers

theorem Grows.trans {first second third : Stage} (one : Grows first second) (two : Grows second third) :
    Grows first third where
  ports := one.ports.trans two.ports
  claims port := by rw [two.claims, one.claims, Ports.gained_trans_iff one.ports two.ports, or_assoc]
  free port gained := by
    rcases (Ports.gained_trans_iff one.ports two.ports port).mp gained with early | late
    · exact one.free port early
    · exact fun claimed => two.free port late ((one.claims port).mpr (.inl claimed))
  cached port := by rw [two.cached, one.cached, Ports.gained_trans_iff one.ports two.ports, or_assoc]
  answers := two.answers.trans one.answers

theorem claimPort_grows {stage : Stage} (nonzero : stage.host.AnswersNonzero) (ip : String) (channel : Channel) :
    Grows stage (stage.claimPort ip channel).2 ∧
      (stage.claimPort ip channel).2.provisioner.portsCached = stage.provisioner.portsCached ∧
      ((stage.claimPort ip channel).1 = .ok () → (stage.claimPort ip channel).2.connection.ports.get channel ≠ 0) := by
  unfold claimPort
  by_cases unset : stage.connection.ports.get channel = 0
  · rw [if_neg (not_not_intro unset)]
    obtain ⟨takes, found⟩ := stage.claims.findAvailable_cases stage.host ip
    rcases answer : stage.claims.findAvailable stage.host ip with ⟨result, claims, host⟩
    rw [answer] at takes found
    cases result with
    | error fault =>
      exact ⟨.of_same rfl found rfl takes.spares.ports, rfl, nofun⟩
    | ok port =>
      obtain ⟨listed, pushed⟩ := found
      have pushed : claims.ports = port :: stage.claims.ports := pushed
      have isNonzero : port ≠ 0 := nonzero port listed
      have gained_iff := Ports.gained_set_iff unset isNonzero
      have free : port ∉ stage.claims.ports := (List.nodup_cons.mp (pushed ▸ claims.nodup)).1
      refine ⟨⟨Ports.extends_set unset port, fun other => ?_, fun other gained => ?_, fun other => ?_,
        takes.spares.ports⟩, rfl, fun _ => ?_⟩
      · exact (pushed ▸ List.mem_cons).trans (or_comm.trans (or_congr_right (gained_iff other).symm))
      · rw [(gained_iff other).mp gained]
        exact free
      · exact List.mem_append.trans (or_congr_right (List.mem_singleton.trans (gained_iff other).symm))
      · exact (PerChannel.get_set_self stage.connection.ports channel port).trans_ne isNonzero
  · rw [if_pos unset]
    exact ⟨.of_same rfl rfl rfl (List.suffix_refl _), rfl, fun _ => unset⟩

theorem claimPorts_grows {stage : Stage} (nonzero : stage.host.AnswersNonzero) (ip : String) (channels : List Channel) :
    Grows stage (claimPorts ip channels stage).2 ∧
      ((claimPorts ip channels stage).1 = .ok () →
        ∀ channel ∈ channels, (claimPorts ip channels stage).2.connection.ports.get channel ≠ 0) ∧
      ((claimPorts ip channels stage).1 ≠ .ok () →
        (claimPorts ip channels stage).2.provisioner.portsCached = stage.provisioner.portsCached) := by
  induction channels generalizing stage with
  | nil =>
    exact ⟨.of_same rfl rfl rfl (List.suffix_refl _), fun _ _ listed => absurd listed List.not_mem_nil,
      fun failed => absurd rfl failed⟩
  | cons channel rest ih =>
    obtain ⟨first, cached, set⟩ := claimPort_grows nonzero ip channel
    unfold claimPorts
    rcases answer : stage.claimPort ip channel with ⟨result, next⟩
    rw [answer] at first cached set
    cases result with
    | error error =>
      refine ⟨first, fun done => ?_, fun _ => cached⟩
      cases done
    | ok =>
      obtain ⟨grows, all, keeps⟩ := ih (nonzero.of_suffix first.answers)
      refine ⟨first.trans grows, fun done other listed => ?_, fun failed => (keeps failed).trans cached⟩
      rcases List.mem_cons.mp listed with rfl | later
      · rw [grows.ports other (set rfl)]
        exact set rfl
      · exact all done other later

def Whole (stage : Stage) : Prop :=
  stage.provisioner.portsCached = true → ∀ channel, stage.connection.ports.get channel ≠ 0

theorem claimAll_grows {stage : Stage} (nonzero : stage.host.AnswersNonzero)
    (tcp : stage.connection.transport = .tcp) (caches : stage.provisioner.cachePorts = true) (whole : stage.Whole) :
    Grows stage stage.claimAll.2 ∧ stage.claimAll.2.Whole ∧
      (stage.claimAll.1 = .ok () → ∀ channel, stage.claimAll.2.connection.ports.get channel ≠ 0) := by
  unfold claimAll
  by_cases cached : stage.provisioner.portsCached = true
  · rw [if_neg (fun claims => claims.2.2 cached)]
    exact ⟨.of_same rfl rfl rfl (List.suffix_refl _), whole, fun _ => whole cached⟩
  · rw [if_pos ⟨tcp, caches, cached⟩]
    obtain ⟨grows, all, keeps⟩ := claimPorts_grows nonzero stage.connection.ip Channel.allocationOrder
    have complete (done : (claimPorts stage.connection.ip Channel.allocationOrder stage).1 = .ok ())
        (channel : Channel) :=
      all done channel channel.mem_allocationOrder
    refine ⟨grows, fun cached_after => ?_, complete⟩
    by_cases done : (claimPorts stage.connection.ip Channel.allocationOrder stage).1 = .ok ()
    · exact complete done
    · exact absurd ((keeps done).symm.trans cached_after) cached

theorem writeFile_grows {stage : Stage} (complete : ∀ channel, stage.connection.ports.get channel ≠ 0) :
    Grows stage stage.writeFile.2 ∧ stage.writeFile.2.connection.ports = stage.connection.ports := by
  obtain ⟨info, connection, host, wrote, ports, _, answers⟩ := stage.writeFile_cases complete
  rw [wrote]
  exact ⟨.of_same ports rfl rfl answers, ports⟩

/-- A launch that ends well leaves no channel without a port. -/
theorem preLaunch_grows {stage : Stage} (nonzero : stage.host.AnswersNonzero)
    (tcp : stage.connection.transport = .tcp) (caches : stage.provisioner.cachePorts = true) (whole : stage.Whole) :
    Grows stage stage.preLaunch.2 ∧ stage.preLaunch.2.Whole ∧
      (stage.preLaunch.1 = .ok () → ∀ channel, stage.preLaunch.2.connection.ports.get channel ≠ 0) := by
  obtain ⟨host, takes, checked⟩ := stage.checkLocal_cases
  have start : Grows stage { stage with host := host } := .of_same rfl rfl rfl takes.spares.ports
  unfold preLaunch
  split
  next error later answer =>
    rw [answer] at checked
    cases checked
    exact ⟨start, whole, nofun⟩
  next later answer =>
    rw [answer] at checked
    cases checked
    have still : ({ stage with host := host } : Stage).Whole := whole
    obtain ⟨claims, whole, complete⟩ := claimAll_grows (nonzero.of_suffix start.answers) tcp caches still
    split
    next error last answer =>
      rw [answer] at claims whole
      exact ⟨start.trans claims, whole, nofun⟩
    next last answer =>
      rw [answer] at claims complete
      have complete : ∀ channel, last.connection.ports.get channel ≠ 0 := complete rfl
      obtain ⟨writes, ports⟩ := writeFile_grows complete
      have kept : ∀ channel, last.writeFile.2.connection.ports.get channel ≠ 0 := by
        rw [ports]
        exact complete
      exact ⟨(start.trans claims).trans writes, fun _ => kept, fun _ => kept⟩

end Stage

/-- A provisioner at work, with what is known of its past. -/
structure Course where
  stage : Stage
  /-- The ports of the connection at the start, or when the provisioner last gave its own back. -/
  given : Ports
  /-- The ports that the provisioner claimed and that were not returned since. -/
  held : List UInt16

namespace Course

def ports (course : Course) : Ports := course.stage.connection.ports

def claimed (course : Course) : List UInt16 := course.stage.claims.ports

def launch (course : Course) : Course :=
  let after := course.stage.preLaunch.2
  { course with
    stage := after
    held := course.held ++ after.claims.ports.filter (· ∉ course.claimed) }

def cleanup (course : Course) (restart : Bool) : Course :=
  let after := course.stage.provisioner.cleanup course.stage.claims restart
  { stage := { course.stage with provisioner := after.1, claims := after.2 }
    given := if restart then course.given else course.ports
    held := course.held.filter (· ∈ after.2.ports) }

/-- A new provisioner with a connection over `tcp`, some of whose ports may be configured. -/
structure Begins (course : Course) : Prop where
  tcp : course.stage.connection.transport = .tcp
  caches : course.stage.provisioner.cachePorts = true
  uncached : course.stage.provisioner.portsCached = false
  nonzero : course.stage.host.AnswersNonzero
  given : course.given = course.ports
  held : course.held = []
  empty : course.stage.provisioner.cachedPorts = []

/-- Launches and cleanups, and between them what others do: they may claim and return ports, but not those of the
provisioner, and on the machine anything may happen, except that the system gives out port zero. -/
inductive Moves : Course → Course → Prop
  | launch (course : Course) : Moves course course.launch
  | cleanup (course : Course) (restart : Bool) : Moves course (course.cleanup restart)
  | others (course : Course) (claims : PortClaims) (host : Host) (spared : ∀ port ∈ course.held, port ∈ claims.ports)
      (nonzero : host.AnswersNonzero) :
      Moves course { course with stage := { course.stage with claims := claims, host := host } }

/-- What is held is cached, is claimed, and belongs to channels that were given no port. -/
structure Sound (course : Course) : Prop where
  tcp : course.stage.connection.transport = .tcp
  caches : course.stage.provisioner.cachePorts = true
  nonzero : course.stage.host.AnswersNonzero
  whole : course.stage.Whole
  kept : course.given.Extends course.ports
  held : ∀ port, port ∈ course.held ↔ course.given.Gained course.ports port
  cached : ∀ port, port ∈ course.stage.provisioner.cachedPorts ↔ port ∈ course.held
  claimed : ∀ port ∈ course.held, port ∈ course.claimed

theorem Begins.sound {course : Course} (begins : course.Begins) : course.Sound where
  tcp := begins.tcp
  caches := begins.caches
  nonzero := begins.nonzero
  whole cached := by simp [begins.uncached] at cached
  kept := begins.given ▸ Ports.Extends.refl _
  held port := by simp [begins.held, begins.given, Ports.not_gained_self]
  cached port := by simp [begins.held, begins.empty]
  claimed port held := by simp [begins.held] at held

theorem mem_held_launch {course : Course} (grows : Stage.Grows course.stage course.stage.preLaunch.2) (port : UInt16) :
    port ∈ course.launch.held ↔ port ∈ course.held ∨ course.ports.Gained course.launch.ports port := by
  have added : port ∈ course.stage.preLaunch.2.claims.ports.filter (· ∉ course.claimed) ↔
      course.ports.Gained course.launch.ports port := by
    rw [List.mem_filter, decide_eq_true_eq, grows.claims]
    exact ⟨fun new => new.1.resolve_left new.2, fun gained => ⟨.inr gained, grows.free port gained⟩⟩
  exact List.mem_append.trans (or_congr_right added)

theorem Sound.launch {course : Course} (sound : course.Sound) : course.launch.Sound := by
  obtain ⟨grows, whole, _⟩ := Stage.preLaunch_grows sound.nonzero sound.tcp sound.caches sound.whole
  have held_iff := mem_held_launch grows
  exact {
    tcp := course.stage.preLaunch_transport.trans sound.tcp
    caches := course.stage.preLaunch_cachePorts.trans sound.caches
    nonzero := sound.nonzero.of_suffix grows.answers
    whole := whole
    kept := sound.kept.trans grows.ports
    held := fun port => by
      rw [held_iff, sound.held]
      exact (Ports.gained_trans_iff sound.kept grows.ports port).symm
    cached := fun port => by
      rw [held_iff, ← sound.cached]
      exact grows.cached port
    claimed := fun port held =>
      (grows.claims port).mpr (((held_iff port).mp held).imp_left (sound.claimed port)) }

theorem cleanup_restart (course : Course) :
    course.cleanup true = { course with held := course.held.filter (· ∈ course.claimed) } := rfl

theorem Sound.mem_claimed_cleanup {course : Course} (sound : course.Sound) (port : UInt16) :
    port ∈ (course.cleanup false).claimed ↔ port ∉ course.held ∧ port ∈ course.claimed := by
  rw [← sound.cached]
  exact course.stage.provisioner.mem_cleanup course.stage.claims port

theorem Sound.held_cleanup {course : Course} (sound : course.Sound) : (course.cleanup false).held = [] := by
  apply List.filter_eq_nil_iff.mpr
  intro port held
  rw [decide_eq_true_eq]
  exact fun still => ((sound.mem_claimed_cleanup port).mp still).1 held

theorem Sound.cleanup {course : Course} (sound : course.Sound) (restart : Bool) : (course.cleanup restart).Sound := by
  cases restart with
  | true =>
    have held : course.held.filter (· ∈ course.claimed) = course.held :=
      List.filter_eq_self.mpr fun port held => decide_eq_true (sound.claimed port held)
    rw [cleanup_restart, held]
    exact sound
  | false =>
    exact {
      tcp := sound.tcp
      caches := sound.caches
      nonzero := sound.nonzero
      whole := nofun
      kept := Ports.Extends.refl _
      held := fun port => by
        rw [sound.held_cleanup]
        exact iff_of_false List.not_mem_nil (Ports.not_gained_self _ port)
      cached := fun port => by
        rw [sound.held_cleanup]
        rfl
      claimed := fun port held => by
        rw [sound.held_cleanup] at held
        exact absurd held List.not_mem_nil }

theorem Sound.move {before after : Course} (sound : before.Sound) (move : Moves before after) : after.Sound := by
  cases move with
  | launch => exact sound.launch
  | cleanup restart => exact sound.cleanup restart
  | others claims host spared nonzero => exact { sound with nonzero := nonzero, claimed := spared }

/-- Whatever happened before: a launch leaves the ports of channels that have one, and claims exactly those that it
gives to the others. If it ends well, all ports of channels that were given none are claimed, and are what the
provisioner holds; this is every port that was not configured, unless its channel had it when the provisioner last gave
its ports back. A final cleanup returns all that is held, and nothing else. -/
theorem claims_relaunched {start course : Course} (begins : start.Begins)
    (reached : Relation.ReflTransGen Moves start course) :
    let next := course.launch
    let last := course.cleanup false
    (∀ channel, course.ports.get channel ≠ 0 → next.ports.get channel = course.ports.get channel) ∧
      (∀ port, port ∈ next.claimed ↔ port ∈ course.claimed ∨
        ∃ channel, course.ports.get channel = 0 ∧ next.ports.get channel = port ∧ port ≠ 0) ∧
      (course.stage.preLaunch.1 = .ok () →
        (∀ channel, course.given.get channel = 0 → next.ports.get channel ∈ next.claimed) ∧
        ∀ port, port ∈ next.held ↔ ∃ channel, course.given.get channel = 0 ∧ next.ports.get channel = port) ∧
      (∀ port ∈ course.held, port ∈ course.claimed ∧ port ∉ last.claimed) ∧
      ∀ port ∉ course.held, port ∈ last.claimed ↔ port ∈ course.claimed := by
  intro next last
  have sound : course.Sound := by
    induction reached with
    | refl => exact begins.sound
    | tail _ move ih => exact ih.move move
  obtain ⟨grows, _, complete⟩ := Stage.preLaunch_grows sound.nonzero sound.tcp sound.caches sound.whole
  have later : next.Sound := sound.launch
  refine ⟨grows.ports, grows.claims, fun done => ⟨fun channel unset => ?_, fun port => ?_⟩, fun port held => ?_,
    fun port other => ?_⟩
  · exact later.claimed _ ((later.held _).mpr ⟨channel, unset, rfl, complete done channel⟩)
  · rw [later.held]
    constructor
    · rintro ⟨channel, unset, same, _⟩
      exact ⟨channel, unset, same⟩
    · rintro ⟨channel, unset, same⟩
      exact ⟨channel, unset, same, same ▸ complete done channel⟩
  · exact ⟨sound.claimed port held, fun still => ((sound.mem_claimed_cleanup port).mp still).1 held⟩
  · rw [sound.mem_claimed_cleanup, and_iff_right other]

def fresh (configured : Ports) (ports : List UInt16) : Course where
  stage :=
    { provisioner := { name := "local-provisioner", kernelId := "a" }
      connection := { Connection.forFile "/run/kernel-a.json" with ports := configured }
      claims := PortClaims.none_
      host := Host.Isolated.machine [["run"]] ports }
  given := configured
  held := []

theorem fresh_begins (configured : Ports) {ports : List UInt16} (nonzero : 0 ∉ ports) :
    (fresh configured ports).Begins where
  tcp := rfl
  caches := rfl
  uncached := rfl
  nonzero port listed := by
    obtain ⟨answer, among, same⟩ := List.mem_map.mp listed
    cases same
    exact fun zero => nonzero (zero ▸ among)
  given := rfl
  held := rfl
  empty := rfl

theorem claims_relaunched_configured :
    let start := fresh ⟨7, 0, 0, 0, 0⟩ [11, 12, 13, 14]
    let course := start.launch.cleanup true
    start.Begins ∧ Relation.ReflTransGen Moves start course ∧ course.launch.ports = ⟨7, 11, 12, 13, 14⟩ ∧
      (∀ channel, start.ports.get channel = 0 → course.launch.ports.get channel ∈ course.launch.claimed) ∧
      course.held = [14, 13, 12, 11] ∧ ∀ port ∈ course.held, port ∉ (course.cleanup false).claimed := by
  intro start course
  have begins : start.Begins := fresh_begins _ (by decide)
  have reached : Relation.ReflTransGen Moves start course :=
    (Relation.ReflTransGen.single (.launch start)).tail (.cleanup _ true)
  have law := claims_relaunched begins reached
  have done : course.stage.preLaunch.1 = .ok () := by decide +kernel
  exact ⟨begins,
    reached, by decide +kernel, (law.2.2.1 done).1, by decide +kernel, fun port held => (law.2.2.2.1 port held).2⟩

/-- After a final cleanup a launch ends well without claiming anything: no port of the kernel is claimed, and none of
them was configured. -/
theorem claims_missing_after_cleanup :
    let start := fresh Ports.unset [11, 12, 13, 14, 15]
    let course := start.launch.cleanup false
    start.Begins ∧ start.stage.preLaunch.1 = .ok () ∧ course.stage.preLaunch.1 = .ok () ∧
      course.launch.ports = ⟨11, 12, 13, 14, 15⟩ ∧ course.launch.claimed = [] := by
  intro start course
  exact ⟨fresh_begins _ (by decide), by decide +kernel, by decide +kernel, by decide +kernel, by decide +kernel⟩

end Course
end LocalProvisioner
end Mooring
