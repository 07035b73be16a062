import Mooring.Proofs.Connection.WrittenFile
import Mooring.Proofs.Provisioner.KernelFile

/-! What stays of the connection of a kernel, whatever is done to the kernel: the name of the file, and all credentials
once every channel has a port. -/

namespace Mooring

namespace Host

/-- The system gives out no port zero, and over socket files there are open indexes for all channels. -/
structure HasPorts (host : Host) (transport : Transport) (ip : String) : Prop where
  nonzero : host.AnswersNonzero
  indexes : transport = .ipc → Channel.all.length ≤ (ConnectionFile.openIndexes host ip 1).length

theorem HasPorts.fresh {host after : Host} {transport : Transport} {ip : String} (has : host.HasPorts transport ip)
    {count : Nat} (few : count ≤ Channel.all.length) {fresh : List UInt16}
    (found : ConnectionFile.freshPorts host transport ip count = (.ok fresh, after)) :
    fresh.length = count ∧ 0 ∉ fresh := by
  obtain ⟨length, offered, -⟩ := ConnectionFile.freshPorts_eq_ok found
  refine ⟨length, fun zero => ?_⟩
  cases transport with
  | tcp =>
    unfold ConnectionFile.freshPorts at found
    simp only at found
    rcases answer : host.freePorts ip count with ⟨fault | ports, later⟩
    · rw [answer] at found
      cases found
    · rw [answer] at found
      cases found
      rw [(Host.freePorts_eq_ok answer).1] at zero
      obtain ⟨reply, listed, same⟩ := List.mem_filterMap.mp zero
      cases reply with
      | error fault => cases same
      | ok port =>
        cases same
        exact has.nonzero 0 (List.mem_of_mem_take listed) rfl
  | ipc =>
    have enough : count ≤ (ConnectionFile.openIndexes host ip 1).length := few.trans (has.indexes rfl)
    rw [offered (List.length_take_of_le enough)] at zero
    exact ((ConnectionFile.mem_openIndexes host ip 0).mp (List.mem_of_mem_take zero)).1 rfl

end Host

theorem ConnectionFile.complete_of_set {credentials : Credentials} (set : ∀ channel, credentials.ports.get channel ≠ 0)
    (fresh : List UInt16) : complete credentials fresh = credentials := by
  unfold complete
  rw [Ports.unsetChannels_eq_nil _ set]
  rfl

namespace Connection

/-- The file name stays, and so do the credentials if every channel has a port. -/
structure Lasts (before after : Connection) : Prop where
  file : after.file = before.file
  credentials : (∀ channel, before.ports.get channel ≠ 0) → after.credentials = before.credentials

namespace Lasts
variable {first second third : Connection}

theorem refl (connection : Connection) : connection.Lasts connection := ⟨rfl, fun _ => rfl⟩

theorem ports (lasts : first.Lasts second) (set : ∀ channel, first.ports.get channel ≠ 0) :
    second.ports = first.ports :=
  congrArg Credentials.ports (lasts.credentials set)

theorem trans (one : first.Lasts second) (two : second.Lasts third) : first.Lasts third where
  file := two.file.trans one.file
  credentials set := by
    have still : ∀ channel, second.ports.get channel ≠ 0 := by rwa [one.ports set]
    exact (two.credentials still).trans (one.credentials set)

end Lasts

theorem setPort_lasts {connection : Connection} {channel : Channel} (unset : connection.ports.get channel = 0)
    (port : UInt16) : connection.Lasts (connection.setPort channel port) :=
  ⟨rfl, fun set => absurd unset (set channel)⟩

theorem cleanupFile_lasts (connection : Connection) (host : Host) :
    connection.Lasts (connection.cleanupFile host).1 := by
  unfold cleanupFile
  split
  next => exact ⟨rfl, fun _ => rfl⟩
  next => exact .refl connection

theorem write_lasts {connection : Connection} {id : String} (sound : connection.Sound) (isFor : connection.IsFor id)
    (host : Host) : connection.Lasts (connection.write host).2.1 where
  file := isFor.write_file host
  credentials set := by
    cases current : connection.currentFile? host with
    | some path =>
      unfold Connection.write
      rw [current]
    | none =>
      rcases answer : connection.write host with ⟨error | path, later, after⟩
      · rw [write_error answer]
      · obtain ⟨fresh, rfl, -⟩ := write_due sound current answer
        rw [afterWrite_credentials]
        exact ConnectionFile.complete_of_set set fresh

theorem write_complete {connection later : Connection} {host after : Host} {id path : String} (sound : connection.Sound)
    (isFor : connection.IsFor id) (due : connection.currentFile? host = none)
    (has : host.HasPorts connection.transport connection.ip) (done : connection.write host = (.ok path, later, after))
    (channel : Channel) : later.ports.get channel ≠ 0 := by
  obtain ⟨fresh, rfl, wrote⟩ := write_due sound due done
  obtain ⟨ready, drawn, stored, fresh', text, chose, drew, same, -⟩ := ConnectionFile.write_eq_ok wrote
  obtain ⟨path', named, solid⟩ := isFor.solid
  rw [named, ConnectionFile.choosePath_some host solid] at chose
  cases chose
  rw [sound.addressed] at drew same
  have few : connection.credentials.ports.unsetChannels.length ≤ Channel.all.length := List.length_filter_le _ _
  obtain ⟨length, nonzero⟩ := has.fresh few drew
  have ports := congrArg (fun credentials : Credentials => credentials.ports.get channel) same
  exact ports ▸ Ports.assign_complete _ length nonzero channel

def Stands (connection : Connection) (host : Host) : Prop :=
  ∃ path text, connection.file = some path ∧ connection.credentials.fileText = .ok text ∧
    host.readBytes path = .ok (Utf8.ofString text)

theorem write_stands {connection later : Connection} {host after : Host} {path : String} (sound : connection.Sound)
    (due : connection.currentFile? host = none) (done : connection.write host = (.ok path, later, after)) :
    later.Stands after := by
  obtain ⟨fresh, rfl, wrote⟩ := write_due sound due done
  obtain ⟨ready, drawn, stored, _, text, _, _, _, printed, secured, rfl⟩ := ConnectionFile.write_eq_ok wrote
  obtain ⟨place, leads, holds⟩ := ConnectionFile.secureWrite_holds secured
  have stays := (stored.markDirectorySticky_spares path).placeOf? (stored.markDirectorySticky_keepsWays path) leads
  have content := (stored.contentAt_markDirectorySticky path place).trans holds.contentAt
  refine ⟨path, text, rfl, ?_, Host.readBytes_of_contentAt stays content⟩
  rw [afterWrite_credentials]
  exact printed

end Connection

namespace LocalProvisioner.Stage

theorem claimPort_lasts (stage : Stage) (ip : String) (channel : Channel) :
    stage.connection.Lasts (stage.claimPort ip channel).2.connection ∧
      (stage.connection.Sound → (stage.claimPort ip channel).2.connection.Sound) := by
  unfold claimPort
  split
  next => exact ⟨.refl _, fun sound => sound⟩
  next unset =>
    split
    next => exact ⟨.refl _, fun sound => sound⟩
    next port _ _ _ =>
      exact ⟨Connection.setPort_lasts (Decidable.not_not.mp unset) port, fun sound => ⟨sound.configured, sound.scheme⟩⟩

theorem claimPorts_lasts (stage : Stage) (ip : String) (channels : List Channel) :
    stage.connection.Lasts (claimPorts ip channels stage).2.connection ∧
      (stage.connection.Sound → (claimPorts ip channels stage).2.connection.Sound) := by
  induction channels generalizing stage with
  | nil => exact ⟨.refl _, fun sound => sound⟩
  | cons channel rest ih =>
    have first := stage.claimPort_lasts ip channel
    unfold claimPorts
    split
    next error later answer =>
      rw [answer] at first
      exact first
    next later answer =>
      rw [answer] at first
      obtain ⟨lasts, sound⟩ := ih later
      exact ⟨first.1.trans lasts, fun holds => sound (first.2 holds)⟩

theorem writeFile_lasts {stage : Stage} {id : String} (sound : stage.connection.Sound)
    (isFor : stage.connection.IsFor id) :
    stage.connection.Lasts stage.writeFile.2.connection ∧ stage.writeFile.2.connection.Sound := by
  rw [stage.writeFile_eq.1]
  exact ⟨Connection.write_lasts sound isFor stage.host, sound.write stage.host⟩

theorem writeFile_stands {stage : Stage} (sound : stage.connection.Sound)
    (due : stage.connection.currentFile? stage.host = none) (done : stage.writeFile.1 = .ok ()) :
    stage.writeFile.2.connection.Stands stage.writeFile.2.host := by
  obtain ⟨connection, host, result⟩ := stage.writeFile_eq
  obtain ⟨path, wrote⟩ := result done
  rw [connection, host]
  exact Connection.write_stands sound due (Prod.ext wrote rfl)

theorem preLaunch_ready (stage : Stage) (sound : stage.connection.Sound) :
    ∃ ready, SameButPorts stage ready ∧ stage.connection.Lasts ready.connection ∧ ready.connection.Sound ∧
      ((∃ error, stage.preLaunch = (.error error, ready)) ∨ stage.preLaunch = ready.writeFile) := by
  obtain ⟨host, takes, checked⟩ := stage.checkLocal_cases
  have start : SameButPorts stage { stage with host := host } := ⟨takes, rfl, rfl, rfl⟩
  unfold Stage.preLaunch
  split
  next error later answer =>
    rw [answer] at checked
    cases checked
    exact ⟨_, start, .refl _, sound, .inl ⟨error, rfl⟩⟩
  next later answer =>
    rw [answer] at checked
    cases checked
    have claimed : SameButPorts { stage with host := host } (claimAll { stage with host := host }).2 ∧
        stage.connection.Lasts (claimAll { stage with host := host }).2.connection ∧
          (claimAll { stage with host := host }).2.connection.Sound := by
      unfold claimAll
      split
      next =>
        obtain ⟨lasts, keeps⟩ := claimPorts_lasts { stage with host := host }
            stage.connection.ip Channel.allocationOrder
        exact ⟨claimPorts_same _ _ _, lasts, keeps sound⟩
      next => exact ⟨.refl _, .refl _, sound⟩
    split
    next error last answer =>
      rw [answer] at claimed
      exact ⟨last, start.trans claimed.1, claimed.2.1, claimed.2.2, .inl ⟨error, rfl⟩⟩
    next last answer =>
      rw [answer] at claimed
      exact ⟨last, start.trans claimed.1, claimed.2.1, claimed.2.2, .inr rfl⟩

theorem preLaunch_lasts (stage : Stage) {id : String} (sound : stage.connection.Sound)
    (isFor : stage.connection.IsFor id) :
    stage.connection.Lasts stage.preLaunch.2.connection ∧ stage.preLaunch.2.connection.Sound := by
  obtain ⟨ready, -, lasts, still, ⟨error, outcome⟩ | outcome⟩ := stage.preLaunch_ready sound
  · rw [outcome]
    exact ⟨lasts, still⟩
  · obtain ⟨wrote, last⟩ := writeFile_lasts still (isFor.congr lasts.file)
    rw [outcome]
    exact ⟨lasts.trans wrote, last⟩

theorem pathExists_of_same {before after : Stage} (same : SameButPorts before after) (path : String) :
    after.host.pathExists path = before.host.pathExists path := by
  obtain ⟨rest, -, whole⟩ := same.takes
  rw [whole]
  rfl

/-- A launch that ends well leaves a file; one that was missing holds the credentials. -/
theorem preLaunch_exists (stage : Stage) {id path : String} (sound : stage.connection.Sound)
    (isFor : stage.connection.IsFor id) (named : stage.connection.file = some path)
    (done : stage.preLaunch.1 = .ok ()) :
    stage.preLaunch.2.host.pathExists path = true ∧
      (stage.connection.written = false ∨ stage.host.pathExists path = false →
        stage.preLaunch.2.connection.Stands stage.preLaunch.2.host) := by
  obtain ⟨ready, same, lasts, still, ⟨error, outcome⟩ | outcome⟩ := stage.preLaunch_ready sound
  · rw [outcome] at done
    cases done
  · rw [outcome] at done ⊢
    have sameName : ready.connection.file = some path := lasts.file.trans named
    cases current : ready.connection.currentFile? ready.host with
    | none =>
      have stands := writeFile_stands still current done
      refine ⟨?_, fun _ => stands⟩
      obtain ⟨path', text, named', -, reads⟩ := stands
      rw [ready.writeFile_eq.1, (isFor.congr lasts.file).write_file, sameName] at named'
      cases named'
      exact Host.pathExists_of_readBytes reads
    | some found =>
      obtain ⟨owned, there⟩ : ready.connection.written = true ∧ ready.host.pathExists path = true := by
        unfold Connection.currentFile? at current
        rw [sameName] at current
        split at current
        next owned =>
          obtain ⟨same, there⟩ := Option.filter_eq_some_iff.mp current
          cases same
          exact ⟨owned, there⟩
        next => cases current
      have idle : ready.connection.write ready.host = (.ok found, ready.connection, ready.host) := by
        rw [Connection.write, current]
      rw [ready.writeFile_eq.2.1, idle]
      refine ⟨there, fun missing => ?_⟩
      rw [← same.written, ← pathExists_of_same same, owned, there] at missing
      rcases missing with unowned | gone
      · cases unowned
      · cases gone

/-- A first launch gives every channel a port, if the machine has any. -/
theorem preLaunch_complete (stage : Stage) {id : String} (sound : stage.connection.Sound)
    (isFor : stage.connection.IsFor id)
    (unwritten : stage.connection.written = false)
    (has : stage.host.HasPorts stage.connection.transport stage.connection.ip)
    (done : stage.preLaunch.1 = .ok ()) (channel : Channel) : stage.preLaunch.2.connection.ports.get channel ≠ 0 := by
  have written {ready : Stage} (still : ready.connection.Sound) (isFor : ready.connection.IsFor id)
      (unwritten : ready.connection.written = false)
        (has : ready.host.HasPorts ready.connection.transport ready.connection.ip)
      (done : ready.writeFile.1 = .ok ()) : ready.writeFile.2.connection.ports.get channel ≠ 0 := by
    obtain ⟨connection, -, result⟩ := ready.writeFile_eq
    obtain ⟨path, wrote⟩ := result done
    have due := Connection.currentFile?_unwritten unwritten ready.host
    rw [connection]
    exact Connection.write_complete still isFor due has (Prod.ext wrote rfl) channel
  cases transport : stage.connection.transport with
  | ipc =>
    rw [preLaunch_ipc transport] at done ⊢
    exact written sound isFor unwritten has done
  | tcp =>
    obtain ⟨ready, same, lasts, still, ⟨error, outcome⟩ | outcome⟩ := stage.preLaunch_ready sound
    · rw [outcome] at done
      cases done
    · rw [outcome] at done ⊢
      obtain ⟨rest, fewer, whole⟩ := same.takes
      have nonzero : ready.host.AnswersNonzero := has.nonzero.of_suffix (by rw [whole]; exact fewer)
      have tcp := same.transport.trans transport
      exact written still (isFor.congr lasts.file) (same.written.trans unwritten)
        ⟨nonzero, fun ipc => (by cases tcp.symm.trans ipc)⟩ done

end LocalProvisioner.Stage
end Mooring
