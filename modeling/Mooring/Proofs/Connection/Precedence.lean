import Mooring.Proofs.Connection.Failures

/-! Which setting counts when patches are loaded one after another. A port stays once a channel has one, so that the
first one counts. Of the transport, the key and the signature scheme the last one counts. The address is what the last
patch makes of it, also when that patch says nothing of one. -/

namespace Mooring.Connection

/-- Loads patches in order, up to the first one that is refused. -/
def loadEach (connection : Connection) : List CredentialsPatch → Except Error Unit × Connection
  | [] => (.ok (), connection)
  | patch :: rest =>
    match connection.loadPatch patch with
    | (.error error, connection) => (.error error, connection)
    | (.ok (), connection) => connection.loadEach rest

def firstPort (ports : List UInt16) : UInt16 := (ports.find? (· ≠ 0)).getD 0

def lastGiven {α : Type} (setting : CredentialsPatch → Option α) (own : α) (patches : List CredentialsPatch) : α :=
  ((patches.filterMap setting).getLast?).getD own

section
variable {α : Type} (setting : CredentialsPatch → Option α) (own : α) (patch : CredentialsPatch)
  (rest : List CredentialsPatch)

theorem lastGiven_cons : lastGiven setting own (patch :: rest) = lastGiven setting ((setting patch).getD own) rest := by
  unfold lastGiven
  cases given : setting patch with
  | none => rw [List.filterMap_cons_none given, Option.getD_none]
  | some value =>
    rw [List.filterMap_cons_some given, List.getLast?_cons, Option.getD_some, Option.getD_some]

end

theorem firstPort_cons (own : UInt16) (rest : List UInt16) :
    firstPort (own :: rest) = if own = 0 then firstPort rest else own := by
  unfold firstPort
  split
  next unset => rw [List.find?_cons_of_neg (by simp [unset])]
  next set => rw [List.find?_cons_of_pos (by simpa using set), Option.getD_some]

theorem firstPort_cons_given (given : Option UInt16) (rest : List UInt16) :
    (if given.getD 0 = 0 then firstPort rest else given.getD 0) = firstPort (given.toList ++ rest) := by
  cases given with
  | none => rfl
  | some port => exact (firstPort_cons port rest).symm

theorem firstPort_portWith (connection : Connection) (patch : CredentialsPatch)
    (channel : Channel) (rest : List UInt16) :
    firstPort (connection.portWith patch channel :: rest) =
      firstPort (connection.ports.get channel :: ((patch.ports.get channel).toList ++ rest)) := by
  rw [firstPort_cons, firstPort_cons, portWith]
  by_cases unset : connection.ports.get channel = 0
  · rw [if_pos unset, if_pos unset, firstPort_cons_given]
  · rw [if_neg unset, if_neg unset, if_neg unset]

theorem filterMap_cons_toList {α β : Type} (f : α → Option β) (first : α) (rest : List α) :
    (first :: rest).filterMap f = (f first).toList ++ rest.filterMap f := by
  cases given : f first with
  | none => exact List.filterMap_cons_none given
  | some value => exact List.filterMap_cons_some given

theorem loadPatch_ok {connection later : Connection} {patch : CredentialsPatch}
    (taken : connection.loadPatch patch = (.ok (), later)) :
    later = { connection.takeUnchecked patch with
      session := { (connection.takeUnchecked patch).session with
        signatureScheme := (patch.signatureScheme.map Text.lowerAscii).getD connection.session.signatureScheme } } := by
  have scheme : (connection.takeUnchecked patch).session.signatureScheme = connection.session.signatureScheme := by
    rw [takeUnchecked_eq]
  rcases connection.loadPatch_cases patch with
    ⟨_, _, _, _, same⟩ | ⟨none_given, same⟩ | ⟨name, session, given, accepted, same⟩
  · cases same.symm.trans taken
  · cases same.symm.trans taken
    rw [none_given, Option.map_none, Option.getD_none, ← scheme]
  · cases same.symm.trans taken
    rw [given, Option.map_some, Option.getD_some, setScheme_eq_ok accepted]

/-- What a connection has become when all the patches were taken. -/
structure Settles (connection : Connection) (patches : List CredentialsPatch) (after : Connection) : Prop where
  ports : ∀ channel, after.ports.get channel =
    firstPort (connection.ports.get channel :: patches.filterMap (·.ports.get channel))
  transport : after.transport = lastGiven (·.transport) connection.transport patches
  key : after.session.key = lastGiven (·.key) connection.session.key patches
  scheme : after.session.signatureScheme =
    lastGiven (·.signatureScheme.map Text.lowerAscii) connection.session.signatureScheme patches
  configuredIp : after.configuredIp =
    (patches.getLast?).elim connection.configuredIp (fun patch => readIp (patch.ip.getD ""))
  kernelName : after.kernelName = connection.kernelName
  file : after.file = connection.file
  written : after.written = connection.written

namespace Settles

theorem refl (connection : Connection) : connection.Settles [] connection where
  ports channel := by
    rw [List.filterMap_nil, firstPort_cons]
    split
    next unset => exact unset
    next => rfl
  transport := rfl
  key := rfl
  scheme := rfl
  configuredIp := rfl
  kernelName := rfl
  file := rfl
  written := rfl

theorem cons {connection later after : Connection} {patch : CredentialsPatch} {rest : List CredentialsPatch}
    (taken : connection.loadPatch patch = (.ok (), later)) (settles : later.Settles rest after) :
    connection.Settles (patch :: rest) after := by
  have whole := loadPatch_ok taken
  rw [takeUnchecked_eq] at whole
  refine ⟨fun channel => ?_, ?_, ?_, ?_, ?_, ?_, ?_, ?_⟩
  · have port : later.ports.get channel = connection.portWith patch channel := by rw [whole, PerChannel.get_ofFn]
    rw [settles.ports, port, firstPort_portWith, filterMap_cons_toList]
  · rw [settles.transport, lastGiven_cons, whole]
  · rw [settles.key, lastGiven_cons, whole]
  · rw [settles.scheme, lastGiven_cons, whole]
  · have address : later.configuredIp = readIp (patch.ip.getD "") := by rw [whole]
    rw [settles.configuredIp, address, List.getLast?_cons]
    cases rest.getLast? <;> rfl
  · rw [settles.kernelName, whole]
  · rw [settles.file, whole]
  · rw [settles.written, whole]

end Settles

theorem loadEach_settles {connection after : Connection} {patches : List CredentialsPatch}
    (loaded : connection.loadEach patches = (.ok (), after)) : connection.Settles patches after := by
  induction patches generalizing connection with
  | nil =>
    cases loaded
    exact .refl _
  | cons patch rest ih =>
    unfold loadEach at loaded
    split at loaded
    next => cases loaded
    next later taken => exact .cons taken (ih loaded)

theorem setScheme_eq_ok_iff (session : Session) (scheme : String) :
    (∃ changed, session.setScheme scheme = .ok changed) ↔ Text.lowerAscii scheme ∈ Session.supportedSchemes := by
  unfold Session.setScheme
  simp only
  split
  next known => exact ⟨fun _ => known, fun _ => ⟨_, rfl⟩⟩
  next unknown => exact ⟨nofun, fun known => absurd known unknown⟩

/-- A load of several patches goes well if every scheme that one of them names is known. -/
theorem loadEach_ok_iff (connection : Connection) (patches : List CredentialsPatch) :
    (connection.loadEach patches).1 = .ok () ↔ ∀ patch ∈ patches, ∀ scheme, patch.signatureScheme = some scheme →
      Text.lowerAscii scheme ∈ Session.supportedSchemes := by
  induction patches generalizing connection with
  | nil => exact ⟨fun _ patch listed => absurd listed List.not_mem_nil, fun _ => rfl⟩
  | cons patch rest ih =>
    rw [List.forall_mem_cons]
    unfold loadEach
    rcases connection.loadPatch_cases patch with ⟨name, error, given, refused, same⟩ | ⟨none_given, same⟩ |
      ⟨name, session, given, accepted, same⟩
    · rw [same]
      refine ⟨nofun, fun ⟨known, _⟩ => ?_⟩
      obtain ⟨session, accepted⟩ := (setScheme_eq_ok_iff (connection.takeUnchecked patch).session name).mpr
          (known name given)
      cases refused.symm.trans accepted
    · rw [same, ih]
      refine ⟨fun others => ⟨fun name given => ?_, others⟩, And.right⟩
      cases none_given.symm.trans given
    · rw [same, ih]
      refine ⟨fun others => ⟨fun name' given' => ?_, others⟩, And.right⟩
      cases given.symm.trans given'
      exact (setScheme_eq_ok_iff _ name).mp ⟨session, accepted⟩

def addressGiven (connection : Connection) : Option String → String
  | none | some "" => defaultIp connection.transport connection.file
  | some "*" => "0.0.0.0"
  | some ip => ip

theorem ip_of_configuredIp {connection : Connection} {given : Option String}
    (configured : connection.configuredIp = readIp (given.getD "")) :
    connection.ip = connection.addressGiven given := by
  rw [Connection.ip, configured]
  unfold addressGiven
  split
  next => rfl
  next => rfl
  next => rfl
  next ip named noStar =>
    have filled : ¬ ip.isEmpty = true := fun empty => named (by rw [String.isEmpty_iff.mp empty])
    have read : readIp ip = some ip := by rw [readIp, if_neg filled, if_neg (fun star => noStar (by rw [star]))]
    rw [Option.getD_some, read, Option.getD_some]

/-- After loads that all went well, every channel has the first port that is one, its own before those of the patches.
The transport, the key and the signature scheme, in small letters, are those of the last patch that names one, or as
they were. The address is the one of the last patch, or the default one for the transport and the file that there are
in the end. The loads change neither the kernel name nor the file name nor the mark of the file. -/
theorem loadEach_precedence {connection after : Connection} {patches : List CredentialsPatch}
    (loaded : connection.loadEach patches = (.ok (), after)) :
    (∀ channel, after.ports.get channel =
        firstPort (connection.ports.get channel :: patches.filterMap (·.ports.get channel))) ∧
      after.transport = lastGiven (·.transport) connection.transport patches ∧
      after.session.key = lastGiven (·.key) connection.session.key patches ∧
      after.session.signatureScheme =
        lastGiven (·.signatureScheme.map Text.lowerAscii) connection.session.signatureScheme patches ∧
      (∀ last, patches.getLast? = some last → after.ip = after.addressGiven last.ip) ∧
      after.kernelName = connection.kernelName ∧ after.file = connection.file ∧ after.written = connection.written := by
  have settles := loadEach_settles loaded
  refine ⟨settles.ports, settles.transport, settles.key, settles.scheme, fun last isLast => ?_, settles.kernelName,
    settles.file, settles.written⟩
  apply ip_of_configuredIp
  rw [settles.configuredIp, isLast, Option.elim_some]

def starred : CredentialsPatch where
  ip := some "*"
  ports := { shell := some 21, iopub := some 0, stdin := none, control := some 24, heartbeat := none }
  key := some [107]
  signatureScheme := some "HMAC-SHA512"

def moved : CredentialsPatch where
  transport := some .ipc
  ports := { shell := some 31, iopub := some 32, stdin := none, control := some 34, heartbeat := none }

theorem loadEach_precedence_moved :
    ∃ after, ((forFile "/run/a.json").setPort .control 14).loadEach [starred, moved] = (.ok (), after) ∧
      after.ports = { shell := 21, iopub := 32, stdin := 0, control := 14, heartbeat := 0 } ∧
      after.transport = .ipc ∧ after.ip = "/run/a-ipc" ∧ after.session.key = [107] ∧
      after.session.signatureScheme = "hmac-sha512" ∧ after.kernelName = "" ∧ after.file = some "/run/a.json" ∧
      after.written = false := by
  have accepted : (((forFile "/run/a.json").setPort .control 14).loadEach [starred, moved]).1 = .ok () := by
    decide +kernel
  obtain ⟨after, loaded⟩ : ∃ after,
      ((forFile "/run/a.json").setPort .control 14).loadEach [starred, moved] = (.ok (), after) :=
    ⟨_, Prod.ext accepted rfl⟩
  obtain ⟨ports, transport, key, scheme, address, kernelName, file, written⟩ := loadEach_precedence loaded
  have address := address moved rfl
  refine ⟨after, loaded, PerChannel.ext_get fun channel => ?_, transport, ?_, key, ?_, kernelName, file, written⟩
  · rw [ports]
    cases channel <;> rfl
  · rw [address, show moved.ip = none from rfl, addressGiven, transport, file]
    decide +kernel
  · rw [scheme]
    decide +kernel

end Mooring.Connection
