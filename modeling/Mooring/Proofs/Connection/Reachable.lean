import Mooring.Proofs.Connection.Failures

/-! The connections that there can be. Whatever is done to one, its address is not empty and no star, and its signature
scheme is one of the known ones, so that its own credentials load without a fault. -/

namespace Mooring

namespace Session

inductive Reachable : Session → Prop
  | withKey (key : Bytes) : Reachable (withKey key)
  | setKey {session : Session} (earlier : Reachable session) (key : Bytes) : Reachable { session with key := key }
  | setScheme {session changed : Session} {scheme : String} (earlier : Reachable session)
      (accepted : session.setScheme scheme = .ok changed) : Reachable changed
  | record {session : Session} (earlier : Reachable session) (digest : Bytes) : Reachable (session.record digest).2
  | fork {session : Session} (earlier : Reachable session) : Reachable session.fork

theorem supported_of_setScheme {session changed : Session} {scheme : String}
    (accepted : session.setScheme scheme = .ok changed) : changed.signatureScheme ∈ supportedSchemes := by
  unfold setScheme at accepted
  simp only at accepted
  split at accepted
  next known =>
    cases accepted
    exact known
  next => cases accepted

theorem Reachable.supported {session : Session} (reachable : session.Reachable) :
    session.signatureScheme ∈ supportedSchemes := by
  induction reachable with
  | withKey =>
    show defaultSignatureScheme ∈ supportedSchemes
    decide
  | setScheme _ accepted => exact supported_of_setScheme accepted
  | setKey _ _ ih | record _ _ ih | fork _ ih => exact ih

theorem setScheme_of_supported (session : Session) {scheme : String} (known : scheme ∈ supportedSchemes) :
    session.setScheme scheme = .ok { session with signatureScheme := scheme } := by
  have small : ∀ scheme ∈ supportedSchemes, Text.lowerAscii scheme = scheme := by decide +kernel
  unfold setScheme
  simp only [small scheme known, if_pos known]

end Session

namespace Connection

/-- What one operation on a connection makes of it, on whatever machine it runs. -/
inductive Becomes (connection : Connection) : Connection → Prop
  | setFile (path : String) : Becomes connection (connection.setFile path)
  | setIp (ip : String) : Becomes connection (connection.setIp ip)
  | setPort (channel : Channel) (port : UInt16) : Becomes connection (connection.setPort channel port)
  | setTransport (transport : Transport) : Becomes connection (connection.setTransport transport)
  | setKernelName (name : String) : Becomes connection { connection with kernelName := name }
  | setSession {session : Session} (made : session.Reachable) :
    Becomes connection { connection with session := session }
  | write (host : Host) : Becomes connection (connection.write host).2.1
  | load (host : Host) (path : Option String) : Becomes connection (connection.load host path).2
  | loadPatch (patch : CredentialsPatch) : Becomes connection (connection.loadPatch patch).2
  | force (patch : CredentialsPatch) (host : Host) : Becomes connection (connection.force patch host).2.1
  | cleanupFile (host : Host) : Becomes connection (connection.cleanupFile host).1
  | cleanupAllocated (host : Host) : Becomes connection (connection.cleanupAllocated host).1

inductive Reachable : Connection → Prop
  | new {session : Session} (made : session.Reachable) : Reachable (withSession session)
  | step {connection later : Connection} (earlier : Reachable connection) (becomes : connection.Becomes later) :
      Reachable later

theorem reachable_ofSnapshot {snapshot : Snapshot} {connection : Connection} {host after : Host}
    (live : ∀ session, snapshot.auth = .live session → session.Reachable)
    (made : ofSnapshot snapshot host = (.ok connection, after)) : connection.Reachable := by
  have loaded : ((fresh host).1.loadPatch snapshot.toPatch).2.Reachable :=
    .step (.new (.withKey _)) (.loadPatch snapshot.toPatch)
  unfold ofSnapshot at made
  simp only at made
  split at made
  next => cases made
  next later answer =>
    rw [answer] at loaded
    split at made
    next session isLive =>
      cases made
      exact .step loaded (.setSession (live session isLive))
    next =>
      cases made
      exact loaded

theorem readIp_readIp {ip address : String} (read : readIp ip = some address) : readIp address = some address := by
  unfold readIp at read
  split at read
  next => cases read
  next named =>
    split at read
    next =>
      cases read
      decide
    next noStar =>
      cases read
      rw [readIp, if_neg named, if_neg noStar]

theorem readIp_of_long {ip : String} (long : 1 < ip.length) : readIp ip = some ip := by
  have named : ¬ ip.isEmpty = true := by
    rw [String.isEmpty_iff]
    rintro rfl
    exact absurd long (by decide)
  have noStar : ip ≠ "*" := by
    rintro rfl
    exact absurd long (by decide)
  rw [readIp, if_neg named, if_neg noStar]

theorem readIp_defaultIp (transport : Transport) (file : Option String) :
    readIp (defaultIp transport file) = some (defaultIp transport file) := by
  apply readIp_of_long
  unfold defaultIp
  split
  next => decide
  next path =>
    rw [ipBeside, String.length_append]
    exact Nat.lt_of_lt_of_le (by decide) (Nat.le_add_left _ _)
  next => decide

/-- A configured address has been read as one, and the scheme is known. -/
structure Sound (connection : Connection) : Prop where
  configured : ∀ ip, connection.configuredIp = some ip → readIp ip = some ip
  scheme : connection.session.signatureScheme ∈ Session.supportedSchemes

namespace Sound
variable {connection : Connection}

theorem ip (sound : connection.Sound) : readIp connection.ip = some connection.ip := by
  unfold Connection.ip
  cases known : connection.configuredIp with
  | some ip => exact sound.configured ip known
  | none => exact readIp_defaultIp connection.transport connection.file

theorem ip_ne_empty (sound : connection.Sound) : connection.ip.isEmpty = false := by
  have read := sound.ip
  unfold readIp at read
  split at read
  next => cases read
  next named => exact Bool.eq_false_iff.mpr named

theorem takeUnchecked (sound : connection.Sound) (patch : CredentialsPatch) :
    (connection.takeUnchecked patch).Sound := by
  rw [takeUnchecked_eq]
  exact ⟨fun _ configured => readIp_readIp configured, sound.scheme⟩

theorem loadPatch (sound : connection.Sound) (patch : CredentialsPatch) : (connection.loadPatch patch).2.Sound := by
  have taken := sound.takeUnchecked patch
  rcases connection.loadPatch_cases patch with ⟨_, _, _, _, same⟩ | ⟨_, same⟩ | ⟨_, session, _, accepted, same⟩
  · rw [same]
    exact taken
  · rw [same]
    exact taken
  · rw [same]
    exact ⟨taken.configured, Session.supported_of_setScheme accepted⟩

theorem load (sound : connection.Sound) (host : Host) (path : Option String) : (connection.load host path).2.Sound := by
  unfold Connection.load
  split
  next => exact sound
  next =>
    split
    next => exact sound
    next patch _ => exact sound.loadPatch patch

theorem addressed (sound : connection.Sound) :
    ConnectionFile.addressed connection.credentials = connection.credentials := by
  have named : ¬ connection.credentials.ip.isEmpty = true := Bool.eq_false_iff.mp sound.ip_ne_empty
  rw [ConnectionFile.addressed, if_neg named]

theorem recordAllocated (sound : connection.Sound) : connection.recordAllocated.Sound := by
  unfold Connection.recordAllocated
  split <;> exact ⟨sound.configured, sound.scheme⟩

theorem write (sound : connection.Sound) (host : Host) : (connection.write host).2.1.Sound := by
  rcases connection.write_cases host with ⟨_, _, same⟩ | ⟨_, ⟨_, _, _, same⟩ | ⟨path, written, after, wrote, same⟩⟩
  · rw [same]
    exact sound
  · rw [same]
    exact sound
  · rw [same]
    obtain ⟨_, _, _, _, _, _, _, rfl, _⟩ := ConnectionFile.write_eq_ok wrote
    -- No address is put in for the one that the connection has, because that one is not empty.
    refine ⟨fun ip configured => ?_, sound.recordAllocated.scheme⟩
    rw [sound.addressed] at configured
    cases configured
    exact sound.ip

theorem cleanupFile (sound : connection.Sound) (host : Host) : (connection.cleanupFile host).1.Sound := by
  unfold Connection.cleanupFile
  split <;> exact ⟨sound.configured, sound.scheme⟩

theorem step (sound : connection.Sound) {later : Connection} (becomes : connection.Becomes later) : later.Sound := by
  cases becomes with
  | setFile | setPort | setTransport | setKernelName => exact ⟨sound.configured, sound.scheme⟩
  | setIp ip => exact ⟨fun _ configured => readIp_readIp configured, sound.scheme⟩
  | setSession made => exact ⟨sound.configured, made.supported⟩
  | write host => exact sound.write host
  | load host path => exact sound.load host path
  | loadPatch patch => exact sound.loadPatch patch
  | force patch host =>
    have cleared : Connection.Sound { connection with written := false, ports := Ports.unset } :=
      ⟨sound.configured, sound.scheme⟩
    have reset : (connection.reset patch).2.Sound := cleared.loadPatch patch
    rw [force_eq]
    split
    next later answer =>
      rw [answer] at reset
      exact reset
    next later answer =>
      rw [answer] at reset
      exact reset.write host
  | cleanupFile host => exact sound.cleanupFile host
  | cleanupAllocated host =>
    rcases connection.cleanupAllocated_cases host with same | ⟨ports, same⟩
    · rw [same]
      exact sound
    · rw [same]
      have unset : Connection.Sound { connection with ports := ports } := ⟨sound.configured, sound.scheme⟩
      exact unset.cleanupFile host

end Sound

theorem Reachable.sound {connection : Connection} (reachable : connection.Reachable) : connection.Sound := by
  induction reachable with
  | new made => exact ⟨nofun, made.supported⟩
  | step _ becomes ih => exact ih.step becomes

end Connection
end Mooring
