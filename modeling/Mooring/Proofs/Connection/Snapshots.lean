import Mooring.Connector.Calls
import Mooring.Proofs.Connection.Precedence
import Mooring.Proofs.Connection.WrittenFile
import Mooring.Proofs.Session.Replays

/-! A connection made from the snapshot of another one. It has the same credentials, but neither the kernel name nor the
digests, and the other one goes on as it was. -/

namespace Mooring

namespace Connection

theorem snapshot_key (connection : Connection) (live : Bool) :
    (connection.snapshot live).auth.key = connection.session.key := by cases live <;> rfl

theorem snapshot_signatureScheme (connection : Connection) (live : Bool) :
    (connection.snapshot live).auth.signatureScheme = connection.session.signatureScheme := by cases live <;> rfl

theorem snapshot_toPatch (connection : Connection) (live : Bool) :
    (connection.snapshot live).toPatch = { connection.credentials.toPatch with kernelName := none } := by
  unfold Snapshot.toPatch
  rw [snapshot_key, snapshot_signatureScheme]
  rfl

theorem loadPatch_snapshot (reader connection : Connection) (live : Bool) :
    reader.loadPatch (connection.snapshot live).toPatch = reader.loadPatch connection.credentials.toPatch := by
  rw [snapshot_toPatch]
  rfl

theorem loadPatch_history {connection later : Connection} {patch : CredentialsPatch}
    (taken : connection.loadPatch patch = (.ok (), later)) : later.session.history = connection.session.history := by
  rw [loadPatch_ok taken, takeUnchecked_eq]

theorem ofSnapshot_snapshot {connection : Connection} (sound : connection.Sound) (live : Bool) (host : Host) :
    ∃ clone, ofSnapshot (connection.snapshot live) host = (.ok clone, host.drawUuid.2) ∧
      clone.credentials = { connection.credentials with kernelName := "" } ∧
      clone.session.history = DigestHistory.empty := by
  obtain ⟨loaded, taken, same⟩ := @loadPatch_credentials _ (fresh host).1 sound rfl
  unfold ofSnapshot
  simp only [loadPatch_snapshot, taken]
  cases live with
  | false => exact ⟨loaded, rfl, same, loadPatch_history taken⟩
  | true =>
    refine ⟨{ loaded with session := connection.session.fork }, rfl, ?_, rfl⟩
    calc ({ loaded with session := connection.session.fork } : Connection).credentials
      _ = { loaded.credentials with
            key := connection.session.key, signatureScheme := connection.session.signatureScheme } := rfl
      _ = { connection.credentials with kernelName := "" } := by
            rw [same]
            rfl

end Connection

/-- A connector tells of a ready kernel by a snapshot of its connection, and nothing changes by that. -/
theorem World.answerWith_info {world : World} {index : Nat} {id : String} {connection : Connection}
    (answerer : Answerer) (live : Bool) (known : world.connectionOf index id = .ok connection)
    (idle : world.isBusy index id = false) :
    World.answerWith answerer index (.info id live) world = (.snapshot (.ok (connection.snapshot live)), world) := by
  have free : ¬ world.isStuck index (.info id live) = true := Bool.eq_false_iff.mp idle
  rw [World.answerWith, if_neg free, World.info, known]
  rfl

namespace Connection

/-- The connection made from a snapshot of another one reaches the same kernel: it has the same transport, address,
ports, key and signature scheme, and every channel has the same URL. It has seen no digests, whichever way the session
was passed on. The other one is as it was, with all its digests: a snapshot is no operation on a connection, and a
connector that is asked for one is the same afterwards. -/
theorem snapshot_clone {connection : Connection} (reachable : connection.Reachable) (live : Bool) (host : Host) :
    (∃ clone, ofSnapshot (connection.snapshot live) host = (.ok clone, host.drawUuid.2) ∧
      clone.transport = connection.transport ∧ clone.ip = connection.ip ∧ clone.ports = connection.ports ∧
      clone.session.key = connection.session.key ∧
      clone.session.signatureScheme = connection.session.signatureScheme ∧
      (∀ channel, clone.url channel = connection.url channel) ∧ clone.session.history.toList = []) ∧
    ∀ (answerer : Answerer) (world : World) (index : Nat) (id : String),
      world.connectionOf index id = .ok connection → world.isBusy index id = false →
        World.answerWith answerer index (.info id live) world =
          (.snapshot (.ok (connection.snapshot live)), world) := by
  obtain ⟨clone, made, same, forgotten⟩ := ofSnapshot_snapshot reachable.sound live host
  constructor
  · refine ⟨clone, made, congrArg Credentials.transport same, congrArg Credentials.ip same,
      congrArg Credentials.ports same, congrArg Credentials.key same, congrArg Credentials.signatureScheme same,
      fun channel => ?_, ?_⟩
    · exact congrArg (·.url channel) same
    · rw [forgotten]
      rfl
  · exact fun answerer world index id known idle => World.answerWith_info answerer live known idle

def seen : Connection :=
  { ((withSession (Session.withKey [107])).setFile "/run/a.json").setTransport .ipc with
    session := ((Session.withKey [107]).record [1]).2 }

theorem seen_reachable : seen.Reachable :=
  .step (.step (.step (.new (.withKey [107])) (.setFile "/run/a.json")) (.setTransport .ipc))
    (.setSession (.record (.withKey [107]) [1]))

theorem snapshot_clone_seen :
    ∃ clone, ofSnapshot (seen.snapshot true) (Host.Isolated.machine [["run"]] []) =
        (.ok clone, (Host.Isolated.machine [["run"]] []).drawUuid.2) ∧
      clone.ip = "/run/a-ipc" ∧ clone.session.key = [107] ∧
      (clone.session.history.record [1]).1 = true ∧ (seen.session.history.record [1]).1 = false := by
  obtain ⟨⟨clone, made, -, address, -, key, -, -, forgotten⟩, -⟩ :=
    snapshot_clone seen_reachable true (Host.Isolated.machine [["run"]] [])
  have known : [1] ∈ seen.session.history.toList := by
    show [1] ∈ (DigestHistory.empty.record [1]).2.toList
    rw [(DigestHistory.record_new (show [1] ∉ DigestHistory.empty.toList from List.not_mem_nil)).2]
    exact List.mem_singleton_self _
  refine ⟨clone, made, ?_, key, (DigestHistory.record_new ?_).1, (DigestHistory.record_eq_false_iff _ _).mpr known⟩
  · rw [address]
    decide +kernel
  · rw [forgotten]
    exact List.not_mem_nil

end Connection
end Mooring
