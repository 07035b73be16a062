import Mooring.Proofs.Connection.Precedence
import Mooring.Proofs.Provisioner.Lasting

/-! Which ports of a connection were chosen for it. The channels without a port are noted when ports are filled in for
the first time while the transport is tcp, be it from a patch or by a write, and never again. They are the ones that
lose their ports when the connection is cleaned up. -/

namespace Mooring.Connection

/-- A moment at which ports are filled in: the transport at that time, and the ports that were there before. -/
structure Filling where
  transport : Transport
  ports : Ports

namespace Filling

def unset (filling : Filling) : List Channel :=
  Channel.all.filter (fun channel => decide (filling.ports.get channel = 0))

def firstUnset (fillings : List Filling) : Option (List Channel) :=
  (fillings.find? (fun filling => decide (filling.transport = .tcp))).map unset

end Filling

/-- What is done to a connection, on whatever machine it is then. -/
inductive Act
  | setFile (path : String)
  | setIp (ip : String)
  | setPort (channel : Channel) (port : UInt16)
  | setTransport (transport : Transport)
  | setKernelName (name : String)
  | setSession (session : Session)
  | write (host : Host)
  | load (host : Host) (path : Option String)
  | loadPatch (patch : CredentialsPatch)
  | force (patch : CredentialsPatch) (host : Host)
  | cleanupFile (host : Host)
  | cleanupAllocated (host : Host)

def perform (connection : Connection) : Act → Connection
  | .setFile path => connection.setFile path
  | .setIp ip => connection.setIp ip
  | .setPort channel port => connection.setPort channel port
  | .setTransport transport => connection.setTransport transport
  | .setKernelName name => { connection with kernelName := name }
  | .setSession session => { connection with session := session }
  | .write host => (connection.write host).2.1
  | .load host path => (connection.load host path).2
  | .loadPatch patch => (connection.loadPatch patch).2
  | .force patch host => (connection.force patch host).2.1
  | .cleanupFile host => (connection.cleanupFile host).1
  | .cleanupAllocated host => (connection.cleanupAllocated host).1

def fillingBy (connection : Connection) (patch : CredentialsPatch) : Filling :=
  ⟨patch.transport.getD connection.transport, connection.ports⟩

def writeFillings (connection : Connection) (host : Host) : List Filling :=
  match connection.currentFile? host, (connection.write host).1 with
  | none, .ok _ => [⟨connection.transport, connection.ports⟩]
  | _, _ => []

def loadFillings (connection : Connection) (host : Host) (path : Option String) : List Filling :=
  match (path.orElse (fun _ => connection.file)).map (ConnectionFile.read host) with
  | some (.ok patch) => [connection.fillingBy patch]
  | _ => []

def forceFillings (connection : Connection) (patch : CredentialsPatch) (host : Host) : List Filling :=
  connection.cleared.fillingBy patch ::
    match connection.reset patch with
    | (.ok (), loaded) => loaded.writeFillings host
    | (.error _, _) => []

/-- The times that an act fills in ports, in order. -/
def fillings (connection : Connection) : Act → List Filling
  | .write host => connection.writeFillings host
  | .load host path => connection.loadFillings host path
  | .loadPatch patch => [connection.fillingBy patch]
  | .force patch host => connection.forceFillings patch host
  | _ => []

structure Life where
  connection : Connection
  fillings : List Filling := []

namespace Life

def step (life : Life) (act : Act) : Life where
  connection := life.connection.perform act
  fillings := life.fillings ++ life.connection.fillings act

def run (life : Life) (acts : List Act) : Life := acts.foldl step life

end Life

namespace Filling

theorem firstUnset_append (one two : List Filling) :
    firstUnset (one ++ two) = (firstUnset one).or (firstUnset two) := by
  unfold firstUnset
  rw [List.find?_append, Option.map_or]

end Filling

theorem recordAllocated_allocated (connection : Connection) : connection.recordAllocated.allocated =
    connection.allocated.or (Filling.firstUnset [⟨connection.transport, connection.ports⟩]) := by
  unfold recordAllocated Filling.firstUnset
  by_cases tcp : connection.transport = .tcp
  · cases known : connection.allocated with
    | some channels => simp [tcp, known]
    | none => simp [tcp, Filling.unset]
  · simp [tcp]

theorem takeUnchecked_allocated (connection : Connection) (patch : CredentialsPatch) :
    (connection.takeUnchecked patch).allocated =
      connection.allocated.or (Filling.firstUnset [connection.fillingBy patch]) := by
  rw [takeUnchecked_eq]
  exact recordAllocated_allocated (connection.setTransport (patch.transport.getD connection.transport))

theorem loadPatch_allocated (connection : Connection) (patch : CredentialsPatch) :
    (connection.loadPatch patch).2.allocated =
      connection.allocated.or (Filling.firstUnset [connection.fillingBy patch]) := by
  have taken := connection.takeUnchecked_allocated patch
  rcases connection.loadPatch_cases patch with ⟨_, _, _, _, same⟩ | ⟨_, same⟩ | ⟨_, _, _, _, same⟩
  · rw [same]
    exact taken
  · rw [same]
    exact taken
  · rw [same]
    exact taken

theorem write_allocated (connection : Connection) (host : Host) : (connection.write host).2.1.allocated =
    connection.allocated.or (Filling.firstUnset (connection.writeFillings host)) := by
  unfold writeFillings
  rcases connection.write_cases host with
    ⟨path, current, same⟩ | ⟨due, ⟨error, after, -, same⟩ | ⟨path, written, after, -, same⟩⟩
  · rw [same, current]
    exact Option.or_none.symm
  · rw [same, due]
    exact Option.or_none.symm
  · rw [same, due]
    exact connection.recordAllocated_allocated

theorem load_allocated (connection : Connection) (host : Host) (path : Option String) :
    (connection.load host path).2.allocated =
      connection.allocated.or (Filling.firstUnset (connection.loadFillings host path)) := by
  unfold load loadFillings
  cases path.orElse (fun _ => connection.file) with
  | none => exact Option.or_none.symm
  | some named =>
    simp only [Option.map_some]
    cases ConnectionFile.read host named with
    | error error => exact Option.or_none.symm
    | ok patch => exact connection.loadPatch_allocated patch

theorem force_allocated (connection : Connection) (patch : CredentialsPatch) (host : Host) :
    (connection.force patch host).2.1.allocated =
      connection.allocated.or (Filling.firstUnset (connection.forceFillings patch host)) := by
  have first : (connection.reset patch).2.allocated =
      connection.allocated.or (Filling.firstUnset [connection.cleared.fillingBy patch]) :=
    connection.cleared.loadPatch_allocated patch
  rw [force_eq, forceFillings, ← List.singleton_append, Filling.firstUnset_append, ← Option.or_assoc, ← first]
  rcases connection.reset patch with ⟨error | ⟨⟩, loaded⟩
  · exact Option.or_none.symm
  · exact loaded.write_allocated host

theorem cleanupFile_allocated (connection : Connection) (host : Host) :
    (connection.cleanupFile host).1.allocated = connection.allocated := by
  unfold cleanupFile
  split <;> rfl

theorem cleanupAllocated_allocated (connection : Connection) (host : Host) :
    (connection.cleanupAllocated host).1.allocated = connection.allocated := by
  rcases connection.cleanupAllocated_cases host with same | ⟨ports, same⟩
  · rw [same]
  · rw [same]
    exact cleanupFile_allocated _ host

theorem perform_allocated (connection : Connection) (act : Act) :
    (connection.perform act).allocated = connection.allocated.or (Filling.firstUnset (connection.fillings act)) := by
  cases act with
  | setFile | setIp | setPort | setTransport | setKernelName | setSession => exact Option.or_none.symm
  | write host => exact connection.write_allocated host
  | load host path => exact connection.load_allocated host path
  | loadPatch patch => exact connection.loadPatch_allocated patch
  | force patch host => exact connection.force_allocated patch host
  | cleanupFile host => exact (connection.cleanupFile_allocated host).trans Option.or_none.symm
  | cleanupAllocated host => exact (connection.cleanupAllocated_allocated host).trans Option.or_none.symm

namespace Life

theorem run_append (life : Life) (acts more : List Act) : life.run (acts ++ more) = (life.run acts).run more :=
  List.foldl_append

/-- What a run adds to what was known at its start. -/
theorem run_allocated (life : Life) (acts : List Act) :
    ∃ more, (life.run acts).fillings = life.fillings ++ more ∧
      (life.run acts).connection.allocated = life.connection.allocated.or (Filling.firstUnset more) := by
  induction acts generalizing life with
  | nil => exact ⟨[], (List.append_nil _).symm, Option.or_none.symm⟩
  | cons act rest ih =>
    obtain ⟨more, logged, noted⟩ := ih (life.step act)
    refine ⟨life.connection.fillings act ++ more, logged.trans (List.append_assoc ..), ?_⟩
    rw [Filling.firstUnset_append, ← Option.or_assoc, ← perform_allocated]
    exact noted

end Life

theorem get_foldl_unset (channels : List Channel) (ports : Ports) (channel : Channel) :
    (channels.foldl (fun ports channel => ports.set channel 0) ports).get channel =
      if channel ∈ channels then 0 else ports.get channel := by
  induction channels generalizing ports with
  | nil => rfl
  | cons first rest ih =>
    rw [List.foldl_cons, ih]
    by_cases same : channel = first
    · subst same
      simp [PerChannel.get_set_self]
    · simp [same, PerChannel.get_set_of_ne _ _ same]

theorem cleanupAllocated_eq {connection : Connection} {channels : List Channel}
    (noted : connection.allocated = some channels)
    (some_chosen : channels ≠ []) (host : Host) :
    (connection.cleanupAllocated host).1 = { connection with
      written := false
      ports := channels.foldl (fun ports channel => ports.set channel 0) connection.ports } := by
  unfold cleanupAllocated
  rw [noted, Option.filter_some_pos (by simpa using some_chosen)]
  unfold cleanupFile
  simp only
  split
  next => rfl
  next unwritten =>
    rw [Bool.not_eq_true] at unwritten
    rw [← unwritten]

/-- A write over tcp gives every channel a port and changes none that is set. -/
theorem write_fills {connection later : Connection} {host after : Host} {path : String}
    (tcp : connection.transport = .tcp)
    (nonzero : host.AnswersNonzero) (due : connection.currentFile? host = none)
    (done : connection.write host = (.ok path, later, after)) (channel : Channel) :
    later.ports.get channel ≠ 0 ∧ (connection.ports.get channel ≠ 0 →
    later.ports.get channel = connection.ports.get channel) := by
  rcases connection.write_cases host with ⟨_, current, -⟩ | ⟨-, ⟨_, _, -, same⟩ | ⟨chosen, written, stop, wrote, same⟩⟩
  · rw [due] at current
    cases current
  · rw [same] at done
    cases done
  · rw [same] at done
    cases done
    obtain ⟨ready, drawn, _, fresh, _, chose, drew, rfl, -⟩ := ConnectionFile.write_eq_ok wrote
    have ports : (connection.afterWrite path (ConnectionFile.complete (ConnectionFile.addressed connection.credentials)
        fresh)).ports = connection.ports.assign connection.ports.unsetChannels fresh := by
      simp [afterWrite, ConnectionFile.complete, credentials]
    have fewer := (ConnectionFile.choosePath_cases host connection.file).1.ports
    rw [chose] at fewer
    have has : ready.HasPorts connection.credentials.transport (ConnectionFile.addressed connection.credentials).ip :=
      ⟨nonzero.of_suffix fewer, fun ipc => by cases tcp.symm.trans ipc⟩
    have few : connection.ports.unsetChannels.length ≤ Channel.all.length := List.length_filter_le _ _
    obtain ⟨length, solid⟩ := has.fresh few drew
    rw [ports]
    exact ⟨Ports.assign_complete _ length solid channel,
      fun set => Ports.get_assign_of_not_mem _ _ (fun unset => set ((Ports.mem_unsetChannels _ channel).mp unset))⟩

/-- The channels whose ports count as chosen are those that had none when ports were filled in over tcp for the first
time, and they stay the same from then on. Cleaning up takes the ports of exactly these channels and touches neither
another port nor the address, the transport or the session. A write over tcp then gives every channel a port again, and
leaves the other ports that are set. -/
theorem chosen_channels_kept (session : Session) (acts : List Act) :
    let life := Life.run { connection := withSession session } acts
    life.connection.allocated = Filling.firstUnset life.fillings ∧
      ∀ channels, life.connection.allocated = some channels →
        (∀ more, (life.run more).connection.allocated = some channels) ∧
          ∀ host, channels ≠ [] →
            let cleared := (life.connection.cleanupAllocated host).1
            (∀ channel, cleared.ports.get channel =
              if channel ∈ channels then 0 else life.connection.ports.get channel) ∧
              cleared.configuredIp = life.connection.configuredIp ∧ cleared.ip = life.connection.ip ∧
              cleared.transport = life.connection.transport ∧ cleared.session = life.connection.session ∧
              ∀ machine path later after, machine.AnswersNonzero → cleared.transport = .tcp →
                cleared.write machine = (.ok path, later, after) → ∀ channel, later.ports.get channel ≠ 0 ∧
                  (channel ∉ channels → life.connection.ports.get channel ≠ 0 →
                    later.ports.get channel = life.connection.ports.get channel) := by
  intro life
  obtain ⟨fillings, logged, noted⟩ := Life.run_allocated { connection := withSession session } acts
  refine ⟨?_, fun channels known => ⟨fun more => ?_, fun host some_chosen => ?_⟩⟩
  · rw [show life.fillings = fillings from logged]
    exact noted
  · obtain ⟨_, -, later⟩ := life.run_allocated more
    rw [later, known, Option.some_or]
  · intro cleared
    have whole : cleared = _ := cleanupAllocated_eq known some_chosen host
    have ports : ∀ channel, cleared.ports.get channel =
        if channel ∈ channels then 0 else life.connection.ports.get channel :=
      fun channel => by rw [whole, get_foldl_unset]
    have unwritten : cleared.written = false := by rw [whole]
    refine ⟨ports, by rw [whole], by rw [whole]; rfl, by rw [whole], by rw [whole], ?_⟩
    intro machine path later after nonzero tcp done channel
    obtain ⟨given, kept⟩ := write_fills tcp nonzero (currentFile?_unwritten unwritten machine) done channel
    refine ⟨given, fun other set => ?_⟩
    rw [ports channel, if_neg other] at kept
    exact kept set

def lateTcp : List Act :=
  [.setFile "/run/a.json", .setPort .control 14, .setTransport .ipc, .loadPatch moved, .setPort .iopub 0,
    .setTransport .tcp, .write (Host.Isolated.machine [["run"]] [41, 42, 43])]

theorem chosen_channels_kept_lateTcp :
    let life := Life.run { connection := withSession (Session.withKey []) } lateTcp
    life.fillings.map (·.transport) = [.ipc, .tcp] ∧
      life.connection.allocated = some [.stdin, .iopub, .heartbeat] ∧
      (life.run [.loadPatch starred, .setPort .shell 0]).connection.allocated = some [.stdin, .iopub, .heartbeat] ∧
      ∃ path later after,
        (life.connection.cleanupAllocated (Host.Isolated.machine [["run"]] [])).1.write
            (Host.Isolated.machine [["run"]] [51, 52, 53]) = (.ok path, later, after) ∧
          (∀ channel, later.ports.get channel ≠ 0) ∧ later.ports.get .shell = 31 ∧ later.ports.get .control = 14 := by
  intro life
  have known : life.connection.allocated = some [.stdin, .iopub, .heartbeat] := by decide +kernel
  have before : life.connection.ports.get .shell = 31 ∧ life.connection.ports.get .control = 14 := by decide +kernel
  obtain ⟨-, stays⟩ := chosen_channels_kept (Session.withKey []) lateTcp
  obtain ⟨later_known, cleanups⟩ := stays _ known
  obtain ⟨-, -, -, transport, -, writes⟩ := cleanups (Host.Isolated.machine [["run"]] []) (by decide)
  have done : ((life.connection.cleanupAllocated (Host.Isolated.machine [["run"]] [])).1.write
      (Host.Isolated.machine [["run"]] [51, 52, 53])).1 = .ok "/run/a.json" := by decide +kernel
  obtain ⟨later, after, whole⟩ := exists_eq_of_fst done
  have nonzero : (Host.Isolated.machine [["run"]] [51, 52, 53]).AnswersNonzero := by
    intro port listed
    simp only [Host.Isolated.machine, List.map_cons, List.map_nil, List.mem_cons, Except.ok.injEq, List.not_mem_nil,
      or_false] at listed
    rcases listed with rfl | rfl | rfl <;> decide
  have tcp : life.connection.transport = .tcp := by decide +kernel
  have each := writes _ _ _ _ nonzero (transport.trans tcp) whole
  refine ⟨by decide +kernel, known, later_known _, _, later, after, whole, fun channel => (each channel).1, ?_, ?_⟩
  · exact ((each .shell).2 (by decide) (by rw [before.1]; decide)).trans before.1
  · exact ((each .control).2 (by decide) (by rw [before.2]; decide)).trans before.2

end Mooring.Connection
