import Mooring.Host.Isolated
import Mooring.Proofs.Connection.Steps
import Mooring.Proofs.ConnectionFile.FailedWrite
import Mooring.Proofs.ConnectionFile.Validity

/-! Operations on a connection that fail. A failed write changes nothing of the connection. A patch is applied up
to its signature scheme, which comes last and can be refused, so that a failed load leaves the connection as it
was only where the rest of the patch says nothing new. Forcing a patch clears the ports and the mark of the file
before anything can fail. -/

namespace Mooring.Connection

open ConnectionFile (LeavesOthers)

theorem write_error_leaves {connection later : Connection} {host after : Host} {error : Error}
    (failed : connection.write host = (.error error, later, after)) :
    LeavesOthers host connection.file connection.credentials after := by
  rcases connection.write_cases host with ⟨_, _, same⟩ | ⟨_, ⟨error', after', wrote, same⟩ | ⟨_, _, _, _, same⟩⟩
  · rw [same] at failed
    cases failed
  · rw [same] at failed
    cases failed
    exact ConnectionFile.write_error_leaves wrote
  · rw [same] at failed
    cases failed

/-- A write that fails changes no file, but may have taken away the one that it was to replace. The connection
is as it was. -/
theorem failed_write_leaves_others (host : Host) :
    (∀ path credentials error, (ConnectionFile.write host path credentials).1 = .error error →
      LeavesOthers host path credentials (ConnectionFile.write host path credentials).2) ∧
    ∀ (connection : Connection) error, (connection.write host).1 = .error error →
      (connection.write host).2.1 = connection ∧
        LeavesOthers host connection.file connection.credentials (connection.write host).2.2 := by
  constructor
  · exact fun path credentials error failed => ConnectionFile.write_error_leaves (Prod.ext failed rfl)
  · intro connection error failed
    have whole : connection.write host = (.error error, (connection.write host).2) := Prod.ext failed rfl
    exact ⟨write_error whole, write_error_leaves whole⟩

def forFile (path : String) : Connection := (withSession (Session.withKey [])).setFile path

def inUse (ports : List UInt16) : Host :=
  (Host.Isolated.machine [["run"], ["tmp"]] ports).withNode ["run", "b.json"] (.file [] 0o644 0)

theorem failed_write_leaves_portless :
    (ConnectionFile.write (inUse []) (some "/run/b.json") {}).1 = .error (.io .addressInUse) ∧
      LeavesOthers (inUse []) (some "/run/b.json") {} (ConnectionFile.write (inUse []) (some "/run/b.json") {}).2 ∧
        ((forFile "/run/b.json").write (inUse [])).1 = .error (.io .addressInUse) ∧
          ((forFile "/run/b.json").write (inUse [])).2.1 = forFile "/run/b.json" := by
  have failed : (ConnectionFile.write (inUse []) (some "/run/b.json") {}).1 = .error (.io .addressInUse) := by
    decide +kernel
  have failed' : ((forFile "/run/b.json").write (inUse [])).1 = .error (.io .addressInUse) := by decide +kernel
  obtain ⟨files, connections⟩ := failed_write_leaves_others (inUse [])
  exact ⟨failed, files _ _ _ failed, failed', (connections _ _ failed').1⟩

def fullDisk : Host := { inUse [11, 12, 13, 14, 15] with disk := { capacity := some (10, .tooLarge) } }

/-- The old file is gone when the new one cannot be completed, and a temporary file stays behind when there is
no port. -/
theorem failed_write_removes_old :
    ((ConnectionFile.write fullDisk (some "/run/b.json") {}).1 = .error (.io .tooLarge) ∧
        fullDisk.hasFile ["run", "b.json"] ∧
          ¬ (ConnectionFile.write fullDisk (some "/run/b.json") {}).2.hasFile ["run", "b.json"]) ∧
      (ConnectionFile.write (inUse []) none {}).1 = .error (.io .addressInUse) ∧
        (inUse []).files.namesIn ["tmp"] = [] ∧
        (ConnectionFile.write (inUse []) none {}).2.files.namesIn ["tmp"] ≠ [] := by
  decide +kernel

structure Agrees (connection : Connection) (patch : CredentialsPatch) : Prop where
  transport : patch.transport.getD connection.transport = connection.transport
  ip : readIp (patch.ip.getD "") = connection.configuredIp
  allocated : connection.transport = .tcp → connection.allocated.isSome
  key : patch.key.getD connection.session.key = connection.session.key

theorem recordAllocated_eq_iff (connection : Connection) :
    connection.recordAllocated.allocated = connection.allocated ↔
      (connection.transport = .tcp → connection.allocated.isSome) := by
  unfold recordAllocated
  split
  next known =>
    refine ⟨fun _ tcp => ?_, fun _ => rfl⟩
    exact known.resolve_left (fun other => other tcp)
  next unknown =>
    obtain ⟨tcp, absent⟩ := not_or.mp unknown
    have missing : connection.allocated = none := Option.not_isSome_iff_eq_none.mp absent
    have isTcp : connection.transport = .tcp := Decidable.not_not.mp tcp
    simp [missing, isTcp]

def portWith (connection : Connection) (patch : CredentialsPatch) (channel : Channel) : UInt16 :=
  if connection.ports.get channel = 0 then (patch.ports.get channel).getD 0 else connection.ports.get channel

theorem takeUnchecked_eq (connection : Connection) (patch : CredentialsPatch) :
    connection.takeUnchecked patch =
      { connection with
        transport := patch.transport.getD connection.transport
        configuredIp := readIp (patch.ip.getD "")
        ports := PerChannel.ofFn (connection.portWith patch)
        allocated := (connection.setTransport (patch.transport.getD connection.transport)).recordAllocated.allocated
        session := { connection.session with key := patch.key.getD connection.session.key } } := by
  unfold takeUnchecked setTransport setIp takePorts setKey recordAllocated portWith
  split
  next known =>
    simp only
    rw [if_pos known]
  next unknown =>
    simp only
    rw [if_neg unknown]

theorem takeUnchecked_eq_iff {connection result : Connection} (patch : CredentialsPatch)
    (file : connection.file = result.file) (kernelName : connection.kernelName = result.kernelName)
    (transport : connection.transport = result.transport) (allocated : connection.allocated = result.allocated)
    (session : connection.session = result.session) :
    connection.takeUnchecked patch = result ↔
      connection.written = result.written ∧ result.Agrees patch ∧
        ∀ channel, connection.portWith patch channel = result.ports.get channel := by
  have recorded := recordAllocated_eq_iff (connection.setTransport (patch.transport.getD connection.transport))
  rw [takeUnchecked_eq]
  constructor
  · intro same
    have sameTransport : patch.transport.getD connection.transport = result.transport :=
      congrArg Connection.transport same
    have sameKey : patch.key.getD connection.session.key = result.session.key := congrArg (·.session.key) same
    have samePorts : PerChannel.ofFn (connection.portWith patch) = result.ports := congrArg Connection.ports same
    have sameAllocated := recorded.mp ((congrArg Connection.allocated same).trans allocated.symm)
    have sameWritten : connection.written = result.written := by rw [← same]
    refine ⟨sameWritten, ⟨transport ▸ sameTransport, congrArg Connection.configuredIp same,
      fun tcp => allocated ▸ sameAllocated (sameTransport.trans tcp), session ▸ sameKey⟩, fun channel => ?_⟩
    rw [← samePorts, PerChannel.get_ofFn]
  · rintro ⟨written, agrees, ports⟩
    have sameTransport : patch.transport.getD connection.transport = result.transport := transport ▸ agrees.transport
    have sameKey : patch.key.getD connection.session.key = connection.session.key := session ▸ agrees.key
    have samePorts : PerChannel.ofFn (connection.portWith patch) = result.ports :=
      PerChannel.ext_get (fun channel => (PerChannel.get_ofFn _ channel).trans (ports channel))
    have sameAllocated := recorded.mpr (fun tcp => allocated ▸ agrees.allocated (sameTransport.symm.trans tcp))
    rw [sameTransport, sameKey, samePorts, agrees.ip]
    rw [sameTransport] at sameAllocated
    rw [sameAllocated]
    obtain ⟨_, _, _, _, _, _, _, _⟩ := result
    cases file
    cases kernelName
    cases written
    cases allocated
    cases session
    rfl

structure Repeats (connection : Connection) (patch : CredentialsPatch) : Prop where
  agrees : connection.Agrees patch
  ports : ∀ channel, connection.ports.get channel = 0 → (patch.ports.get channel).getD 0 = 0

/-- The patch is a full account of a connection that has written no file. -/
structure Restates (connection : Connection) (patch : CredentialsPatch) : Prop where
  unwritten : connection.written = false
  agrees : connection.Agrees patch
  ports : ∀ channel, (patch.ports.get channel).getD 0 = connection.ports.get channel
  scheme : ∀ scheme session, patch.signatureScheme = some scheme → connection.session.setScheme scheme = .ok session →
    session = connection.session

theorem takeUnchecked_eq_self_iff (connection : Connection) (patch : CredentialsPatch) :
    connection.takeUnchecked patch = connection ↔ connection.Repeats patch := by
  rw [takeUnchecked_eq_iff patch rfl rfl rfl rfl rfl]
  unfold portWith
  constructor
  · rintro ⟨_, agrees, ports⟩
    refine ⟨agrees, fun channel unset => ?_⟩
    have same := ports channel
    rw [if_pos unset] at same
    exact same.trans unset
  · rintro ⟨agrees, ports⟩
    refine ⟨rfl, agrees, fun channel => ?_⟩
    split
    next unset => exact (ports channel unset).trans unset.symm
    next => rfl

/-- A patch is refused for its scheme, or it is taken as a whole. -/
theorem loadPatch_cases (connection : Connection) (patch : CredentialsPatch) :
    (∃ scheme error, patch.signatureScheme = some scheme ∧
        (connection.takeUnchecked patch).session.setScheme scheme = .error error ∧
          connection.loadPatch patch = (.error error, connection.takeUnchecked patch)) ∨
      patch.signatureScheme = none ∧ connection.loadPatch patch = (.ok (), connection.takeUnchecked patch) ∨
        ∃ scheme session, patch.signatureScheme = some scheme ∧
          (connection.takeUnchecked patch).session.setScheme scheme = .ok session ∧
            connection.loadPatch patch = (.ok (), { connection.takeUnchecked patch with session := session }) := by
  unfold loadPatch
  cases patch.signatureScheme with
  | none => exact .inr (.inl ⟨rfl, rfl⟩)
  | some scheme =>
    simp only
    cases answer : (connection.takeUnchecked patch).session.setScheme scheme with
    | error error => exact .inl ⟨scheme, error, rfl, answer, rfl⟩
    | ok session => exact .inr (.inr ⟨scheme, session, rfl, answer, rfl⟩)

theorem loadPatch_error_iff {connection later : Connection} {patch : CredentialsPatch} {error : Error}
    (failed : connection.loadPatch patch = (.error error, later)) : later = connection ↔ connection.Repeats patch := by
  rcases connection.loadPatch_cases patch with ⟨_, _, _, _, same⟩ | ⟨_, same⟩ | ⟨_, _, _, _, same⟩
  · rw [same] at failed
    cases failed
    exact connection.takeUnchecked_eq_self_iff patch
  · rw [same] at failed
    cases failed
  · rw [same] at failed
    cases failed

theorem load_error_iff {connection later : Connection} {host : Host} {path : Option String} {error : Error}
    (failed : connection.load host path = (.error error, later)) :
    later = connection ↔ ∀ named patch, path.orElse (fun _ => connection.file) = some named →
      ConnectionFile.read host named = .ok patch → connection.Repeats patch := by
  unfold load at failed
  split at failed
  next missing =>
    cases failed
    refine ⟨fun _ named patch given => ?_, fun _ => rfl⟩
    rw [missing] at given
    cases given
  next named given =>
    split at failed
    next fault unread =>
      cases failed
      refine ⟨fun _ named' patch given' reads => ?_, fun _ => rfl⟩
      cases given.symm.trans given'
      rw [unread] at reads
      cases reads
    next patch reads =>
      rw [loadPatch_error_iff failed]
      refine ⟨fun repeats named' patch' given' reads' => ?_, fun all => all named patch given reads⟩
      cases given.symm.trans given'
      cases reads.symm.trans reads'
      exact repeats

def cleared (connection : Connection) : Connection := { connection with written := false, ports := Ports.unset }

theorem cleared_takeUnchecked_eq_iff (connection : Connection) (patch : CredentialsPatch) :
    connection.cleared.takeUnchecked patch = connection ↔
      connection.written = false ∧ connection.Agrees patch ∧
        ∀ channel, (patch.ports.get channel).getD 0 = connection.ports.get channel := by
  have unset (channel : Channel) : connection.cleared.portWith patch channel = (patch.ports.get channel).getD 0 := by
    simp [portWith, cleared, Ports.unset]
  rw [@takeUnchecked_eq_iff connection.cleared connection patch rfl rfl rfl rfl rfl]
  simp only [unset]
  exact and_congr_left (fun _ => eq_comm)

theorem setScheme_eq_ok {session changed : Session} {scheme : String}
    (accepted : session.setScheme scheme = .ok changed) :
    changed = { session with signatureScheme := Text.lowerAscii scheme } := by
  unfold Session.setScheme at accepted
  simp only at accepted
  split at accepted
  next =>
    cases accepted
    rfl
  next => cases accepted

theorem setScheme_of_accepted {session changed : Session} {scheme : String}
    (accepted : session.setScheme scheme = .ok changed)
    (other : Session) : other.setScheme scheme = .ok { other with signatureScheme := Text.lowerAscii scheme } := by
  unfold Session.setScheme at accepted ⊢
  simp only at accepted ⊢
  split at accepted
  next known => rw [if_pos known]
  next => cases accepted

theorem reset_eq_iff {connection later : Connection} {patch : CredentialsPatch} {result : Except Error Unit}
    (answer : connection.reset patch = (result, later)) : later = connection ↔ connection.Restates patch := by
  have taken := connection.cleared_takeUnchecked_eq_iff patch
  rcases connection.cleared.loadPatch_cases patch with
    ⟨scheme, error, named, refused, same⟩ | ⟨none_named, same⟩ | ⟨scheme, session, named, accepted, same⟩
  · cases same.symm.trans answer
    rw [taken]
    constructor
    · rintro ⟨unwritten, agrees, ports⟩
      refine ⟨unwritten, agrees, ports, fun scheme' session' named' accepted' => ?_⟩
      cases named.symm.trans named'
      cases refused.symm.trans (setScheme_of_accepted accepted' _)
    · exact fun restates => ⟨restates.unwritten, restates.agrees, restates.ports⟩
  · cases same.symm.trans answer
    rw [taken]
    constructor
    · rintro ⟨unwritten, agrees, ports⟩
      refine ⟨unwritten, agrees, ports, fun scheme' session' named' _ => ?_⟩
      cases none_named.symm.trans named'
    · exact fun restates => ⟨restates.unwritten, restates.agrees, restates.ports⟩
  · cases same.symm.trans answer
    constructor
    · intro whole
      have chosen : session = connection.session := congrArg Connection.session whole
      have sameKey : (connection.cleared.takeUnchecked patch).session.key = connection.session.key := by
        rw [← chosen, setScheme_eq_ok accepted]
      have sameSession : (connection.cleared.takeUnchecked patch).session = connection.session := by
        rw [takeUnchecked_eq] at sameKey ⊢
        exact congrArg (fun key => { connection.session with key := key }) sameKey
      have before : connection.cleared.takeUnchecked patch = connection :=
        calc connection.cleared.takeUnchecked patch
          _ = { { connection.cleared.takeUnchecked patch with session := session } with
                session := (connection.cleared.takeUnchecked patch).session } := rfl
          _ = { connection with session := connection.session } := by rw [whole, sameSession]
      obtain ⟨unwritten, agrees, ports⟩ := taken.mp before
      refine ⟨unwritten, agrees, ports, fun scheme' session' named' accepted' => ?_⟩
      cases named.symm.trans named'
      rw [sameSession] at accepted
      cases accepted.symm.trans accepted'
      exact chosen
    · intro restates
      have before := taken.mpr ⟨restates.unwritten, restates.agrees, restates.ports⟩
      rw [before] at accepted ⊢
      rw [restates.scheme scheme session named accepted]

theorem force_error_iff {connection later : Connection} {host after : Host} {patch : CredentialsPatch} {error : Error}
    (failed : connection.force patch host = (.error error, later, after)) :
    later = connection ↔ connection.Restates patch := by
  rw [force_eq] at failed
  split at failed
  next error' reset answer =>
    cases failed
    exact reset_eq_iff answer
  next reset answer =>
    rw [write_error failed]
    exact reset_eq_iff answer

/-- A load that fails leaves the connection as it was only if the patch repeats it, and always keeps the mark of
the file. Forcing a patch that fails takes the mark away, and leaves the connection as it was only if it had none
and the patch restates it. -/
theorem failed_load_unchanged_iff (connection : Connection) (host : Host) :
    (∀ patch error, (connection.loadPatch patch).1 = .error error →
      (connection.loadPatch patch).2.written = connection.written ∧
        ((connection.loadPatch patch).2 = connection ↔ connection.Repeats patch)) ∧
    (∀ path error, (connection.load host path).1 = .error error →
      (connection.load host path).2.written = connection.written ∧
        ((connection.load host path).2 = connection ↔ ∀ named patch,
          path.orElse (fun _ => connection.file) = some named → ConnectionFile.read host named = .ok patch →
            connection.Repeats patch)) ∧
    ∀ patch error, (connection.force patch host).1 = .error error →
      (connection.force patch host).2.1.written = false ∧
        ((connection.force patch host).2.1 = connection ↔ connection.Restates patch) := by
  refine ⟨fun patch error failed => ?_, fun path error failed => ?_, fun patch error failed => ?_⟩
  · exact ⟨connection.loadPatch_written patch, loadPatch_error_iff (Prod.ext failed rfl)⟩
  · exact ⟨connection.load_written host path, load_error_iff (Prod.ext failed rfl)⟩
  · have whole : connection.force patch host = (.error error, (connection.force patch host).2) := Prod.ext failed rfl
    exact ⟨force_error whole, force_error_iff whole⟩

def afterFirstWrite : Connection × Host :=
  ((forFile "/run/a.json").write (Host.Isolated.machine [["run"]] [11, 12, 13, 14, 15])).2

def repeating : CredentialsPatch := { ip := some "127.0.0.1", signatureScheme := some "rot13" }

def refused : CredentialsPatch := { ip := some "10.0.0.1", key := some [107], signatureScheme := some "rot13" }

theorem failed_load_unchanged_repeating :
    (afterFirstWrite.1.loadPatch repeating).1 = .error (.invalidSignatureScheme "rot13") ∧
      (afterFirstWrite.1.loadPatch repeating).2 = afterFirstWrite.1 ∧
        (afterFirstWrite.1.load afterFirstWrite.2 (some "/run/b.json")).1 = .error (.io .notFound) ∧
          (afterFirstWrite.1.load afterFirstWrite.2 (some "/run/b.json")).2 = afterFirstWrite.1 ∧
            (afterFirstWrite.1.force repeating afterFirstWrite.2).1 = .error (.invalidSignatureScheme "rot13") ∧
              (afterFirstWrite.1.force repeating afterFirstWrite.2).2.1 ≠ afterFirstWrite.1 := by
  obtain ⟨patches, loads, forces⟩ := failed_load_unchanged_iff afterFirstWrite.1 afterFirstWrite.2
  have refuses : (afterFirstWrite.1.loadPatch repeating).1 = .error (.invalidSignatureScheme "rot13") := by
    decide +kernel
  have misses : (afterFirstWrite.1.load afterFirstWrite.2 (some "/run/b.json")).1 = .error (.io .notFound) := by
    decide +kernel
  have fails : (afterFirstWrite.1.force repeating afterFirstWrite.2).1 = .error (.invalidSignatureScheme "rot13") := by
    decide +kernel
  have repeats : afterFirstWrite.1.Repeats repeating := by
    refine ⟨⟨by decide +kernel, by decide +kernel, by decide +kernel, by decide +kernel⟩, fun channel _ => ?_⟩
    cases channel <;> rfl
  refine ⟨refuses, (patches _ _ refuses).2.mpr repeats, misses, (loads _ _ misses).2.mpr ?_, fails, fun same => ?_⟩
  · intro named patch given reads
    have unread : ConnectionFile.read afterFirstWrite.2 "/run/b.json" = .error (.io .notFound) := by decide +kernel
    cases given
    rw [unread] at reads
    cases reads
  · have owned : afterFirstWrite.1.written = true := by decide +kernel
    have unowned := ((forces _ _ fails).2.mp same).unwritten
    rw [owned] at unowned
    cases unowned

/-- A refused patch changes the address and the key. Forced, it also takes the mark of the file and the ports
away, so that nobody removes the file any more. -/
theorem failed_load_changes :
    (afterFirstWrite.1.loadPatch refused).1 = .error (.invalidSignatureScheme "rot13") ∧
      (afterFirstWrite.1.ip, (afterFirstWrite.1.loadPatch refused).2.ip) = ("127.0.0.1", "10.0.0.1") ∧
      (afterFirstWrite.1.session.key, (afterFirstWrite.1.loadPatch refused).2.session.key) = ([], [107]) ∧
      (afterFirstWrite.1.force refused afterFirstWrite.2).1 = .error (.invalidSignatureScheme "rot13") ∧
      afterFirstWrite.1.ports ≠ (afterFirstWrite.1.force refused afterFirstWrite.2).2.1.ports ∧
      ¬ (afterFirstWrite.1.cleanupFile afterFirstWrite.2).2.hasFile ["run", "a.json"] ∧
      ((afterFirstWrite.1.force refused afterFirstWrite.2).2.1.cleanupFile afterFirstWrite.2).2.hasFile
        ["run", "a.json"] := by
  decide +kernel

end Mooring.Connection
