import Mooring.Host.Isolated
import Mooring.Proofs.ConnectionFile.Write
import Mooring.Proofs.Ports.Assignment

/-! Whether the ports in a written connection file are valid. Fresh ports are picked without a look at
those that were set before, so they are exactly when none of the ports on offer is one of these. -/

namespace Mooring

instance exceptDecidableEq {ε α : Type} [DecidableEq ε] [DecidableEq α] : DecidableEq (Except ε α)
  | .ok _, .ok _ => decidable_of_iff (_ = _) ⟨congrArg Except.ok, Except.ok.inj⟩
  | .error _, .error _ => decidable_of_iff (_ = _) ⟨congrArg Except.error, Except.error.inj⟩
  | .ok _, .error _ => .isFalse nofun
  | .error _, .ok _ => .isFalse nofun

namespace Host

def nextPorts (host : Host) (count : Nat) : List UInt16 := (host.ports.take count).filterMap Except.toOption

/-- What is known of sockets that are all bound at once. -/
structure BindsApart (host : Host) (count : Nat) : Prop where
  nodup : (host.nextPorts count).Nodup
  nonzero : 0 ∉ host.nextPorts count

theorem freePort_eq_ok {host after : Host} {ip : String} {port : UInt16}
    (found : host.freePort ip = (.ok port, after)) :
    ∃ rest, host.ports = .ok port :: rest ∧ after = { host with ports := rest } := by
  unfold freePort at found
  split at found
  next => cases found
  next =>
    unfold bindPort at found
    split at found
    next => cases found
    next =>
      split at found
      next => cases found
      next answer rest known =>
        cases found
        exact ⟨rest, known, rfl⟩

theorem freePorts_eq_ok {host after : Host} {ip : String} {count : Nat} {ports : List UInt16}
    (found : host.freePorts ip count = (.ok ports, after)) : ports = host.nextPorts count ∧ ports.length = count := by
  induction count generalizing host after ports with
  | zero =>
    cases found
    exact ⟨rfl, rfl⟩
  | succ count ih =>
    unfold freePorts at found
    split at found
    next => cases found
    next port later first =>
      split at found
      next => cases found
      next others last rest =>
        cases found
        obtain ⟨remaining, known, rfl⟩ := freePort_eq_ok first
        obtain ⟨same, length⟩ := ih rest
        refine ⟨?_, by rw [List.length_cons, length]⟩
        unfold nextPorts at same ⊢
        rw [known, List.take_succ_cons, same]
        rfl

end Host

namespace ConnectionFile

/-- The indexes from `first` on whose socket paths are free. -/
def openIndexes (host : Host) (ip : String) (first : Nat) : List UInt16 :=
  ((List.range' first (UInt16.size - first)).map UInt16.ofNat).filter
    (fun index => !host.pathExists (Credentials.socketPath ip index))

theorem openIndexes_end (host : Host) (ip : String) : openIndexes host ip UInt16.size = [] := by
  simp [openIndexes]

theorem openIndexes_step (host : Host) (ip : String) {first : Nat} (below : first < UInt16.size) :
    openIndexes host ip first =
      if host.pathExists (Credentials.socketPath ip (.ofNat first)) then openIndexes host ip (first + 1)
      else .ofNat first :: openIndexes host ip (first + 1) := by
  unfold openIndexes
  rw [show UInt16.size - first = (UInt16.size - (first + 1)) + 1 by omega, List.range'_succ, List.map_cons,
    List.filter_cons]
  cases host.pathExists (Credentials.socketPath ip (.ofNat first)) <;> rfl

theorem mem_openIndexes (host : Host) (ip : String) (index : UInt16) :
    index ∈ openIndexes host ip 1 ↔ index ≠ 0 ∧ host.pathExists (Credentials.socketPath ip index) = false := by
  simp only [openIndexes, List.mem_filter, List.mem_map, List.mem_range'_1, Bool.not_eq_eq_eq_not, Bool.not_true]
  refine and_congr_left (fun _ => ⟨?_, fun nonzero => ⟨index.toNat, ?_, UInt16.ofNat_toNat⟩⟩)
  · rintro ⟨number, bounds, rfl⟩ zero
    have same := congrArg UInt16.toNat zero
    rw [UInt16.toNat_ofNat_of_lt' (by simp [UInt16.size] at bounds ⊢; omega)] at same
    exact absurd same (by simp; omega)
  · have positive : index.toNat ≠ 0 := fun zero => nonzero (UInt16.toNat_inj.mp zero)
    have bound := index.toNat_lt_size
    omega

def indexesFrom (first : Nat) : List UInt16 := (List.range' first (UInt16.size - first)).map UInt16.ofNat

theorem indexesFrom_increasing (first : Nat) : (indexesFrom first).Pairwise (· < ·) := by
  refine List.pairwise_map.mpr ((List.pairwise_lt_range' (s := first)).imp_of_mem ?_)
  intro one two oneBounds twoBounds less
  rw [List.mem_range'_1] at oneBounds twoBounds
  rw [UInt16.lt_iff_toNat_lt, UInt16.toNat_ofNat_of_lt' (by omega), UInt16.toNat_ofNat_of_lt' (by omega)]
  exact less

theorem openIndexes_increasing (host : Host) (ip : String) (first : Nat) :
    (openIndexes host ip first).Pairwise (· < ·) :=
  (indexesFrom_increasing first).filter _

theorem nodup_openIndexes (host : Host) (ip : String) (first : Nat) : (openIndexes host ip first).Nodup :=
  (openIndexes_increasing host ip first).imp UInt16.ne_of_lt

theorem nextIndex?_of_open {host : Host} {ip : String} {fuel first : Nat} {index : UInt16} {rest : List UInt16}
    (found : openIndexes host ip first = index :: rest) (enough : UInt16.size ≤ fuel + first)
    (below : first ≤ UInt16.size) :
    nextIndex? host ip fuel (.ofNat first) = some index ∧
      openIndexes host ip (index.toNat + 1) = rest ∧ index.toNat < UInt16.size := by
  induction fuel generalizing first with
  | zero =>
    rw [show first = UInt16.size by omega, openIndexes_end] at found
    cases found
  | succ fuel ih =>
    have inside : first < UInt16.size := by
      apply Nat.lt_of_le_of_ne below
      intro last
      rw [last, openIndexes_end] at found
      cases found
    rw [openIndexes_step host ip inside] at found
    unfold nextIndex?
    split at found
    next taken =>
      rw [if_pos taken]
      have next : UInt16.ofNat first + 1 = .ofNat (first + 1) := by rw [UInt16.ofNat_add]; rfl
      rw [next]
      exact ih found (by omega) inside
    next free =>
      cases found
      rw [if_neg free, UInt16.toNat_ofNat_of_lt' inside]
      exact ⟨rfl, rfl, inside⟩

theorem freeIndexes?_of_open {host : Host} {ip : String} {count first : Nat}
    (enough : count ≤ (openIndexes host ip first).length) (below : first ≤ UInt16.size) :
    freeIndexes? host ip count (.ofNat first) = some ((openIndexes host ip first).take count) := by
  induction count generalizing first with
  | zero => rfl
  | succ count ih =>
    cases found : openIndexes host ip first with
    | nil =>
      rw [found] at enough
      cases enough
    | cons index rest =>
      obtain ⟨next, others, bound⟩ := nextIndex?_of_open found (Nat.le_add_right _ _) below
      rw [found, List.length_cons, ← others] at enough
      have step : index + 1 = .ofNat (index.toNat + 1) := by
        rw [UInt16.ofNat_add, UInt16.ofNat_toNat]
        rfl
      unfold freeIndexes?
      rw [next]
      simp only
      rw [step, ih (by omega) (by omega), others]
      rfl

theorem nextIndex?_free {host : Host} {ip : String} {fuel : Nat} {first index : UInt16}
    (found : nextIndex? host ip fuel first = some index) :
    host.pathExists (Credentials.socketPath ip index) = false := by
  induction fuel generalizing first with
  | zero => cases found
  | succ fuel ih =>
    unfold nextIndex? at found
    split at found
    next => exact ih found
    next free =>
      cases found
      exact Bool.eq_false_iff.mpr free

theorem freeIndexes?_free {host : Host} {ip : String} {count : Nat} {first : UInt16} {indexes : List UInt16}
    (found : freeIndexes? host ip count first = some indexes) :
    indexes.length = count ∧ ∀ index ∈ indexes, host.pathExists (Credentials.socketPath ip index) = false := by
  induction count generalizing first indexes with
  | zero =>
    cases found
    exact ⟨rfl, fun index none => by cases none⟩
  | succ count ih =>
    unfold freeIndexes? at found
    split at found
    next => cases found
    next next first =>
      obtain ⟨others, rest, rfl⟩ := Option.map_eq_some_iff.mp found
      obtain ⟨length, free⟩ := ih rest
      refine ⟨by rw [List.length_cons, length], fun index listed => ?_⟩
      rcases List.mem_cons.mp listed with rfl | listed
      · exact nextIndex?_free first
      · exact free index listed

def offers (host : Host) (transport : Transport) (ip : String) (count : Nat) : List UInt16 :=
  match transport with
  | .tcp => host.nextPorts count
  | .ipc => (openIndexes host ip 1).take count

/-- There is a port for every channel without one, and none of these ports is already set. -/
structure NoClash (host : Host) (credentials : Credentials) : Prop where
  enough : (offers host credentials.transport (addressed credentials).ip
    credentials.ports.unsetChannels.length).length = credentials.ports.unsetChannels.length
  clear : ∀ port ∈ offers host credentials.transport (addressed credentials).ip
    credentials.ports.unsetChannels.length, ∀ channel, credentials.ports.get channel ≠ port

/-- Fresh ports are those on offer. With too few open indexes, some index comes twice or is zero. -/
theorem freshPorts_eq_ok {host after : Host} {transport : Transport} {ip : String} {count : Nat}
    {fresh : List UInt16} (found : freshPorts host transport ip count = (.ok fresh, after)) :
    fresh.length = count ∧ ((offers host transport ip count).length = count → fresh = offers host transport ip count) ∧
      (fresh.Nodup → 0 ∉ fresh → (offers host transport ip count).length = count) := by
  unfold freshPorts at found
  cases transport with
  | tcp =>
    simp only at found
    cases answer : host.freePorts ip count with
    | mk result later =>
      rw [answer] at found
      cases result with
      | error fault => cases found
      | ok ports =>
        cases found
        obtain ⟨same, length⟩ := Host.freePorts_eq_ok answer
        exact ⟨length, fun _ => same, fun _ _ => by rw [same] at length; exact length⟩
  | ipc =>
    simp only at found
    split at found
    next indexes answer =>
      cases found
      obtain ⟨length, free⟩ := freeIndexes?_free answer
      have fits : min count (openIndexes host ip 1).length = count ↔ count ≤ (openIndexes host ip 1).length := by
        omega
      unfold offers
      simp only [List.length_take, fits]
      refine ⟨length, fun enough => ?_, fun nodup nonzero => ?_⟩
      · have taken := freeIndexes?_of_open enough (by decide)
        exact Option.some.inj (answer.symm.trans taken)
      · rw [← length]
        apply nodup.length_le_of_subset
        intro index listed
        rw [mem_openIndexes]
        exact ⟨fun zero => nonzero (zero ▸ listed), free index listed⟩
    next => cases found

theorem nodup_offers {host : Host} {transport : Transport} {ip : String} {count : Nat}
    (binds : transport = .tcp → host.BindsApart count) : (offers host transport ip count).Nodup := by
  cases transport with
  | tcp => exact (binds rfl).nodup
  | ipc => exact (nodup_openIndexes host ip 1).sublist (List.take_sublist _ _)

/-- Ports that were set stay. A written file is valid exactly if none of them is on offer again. -/
theorem write_validates_iff {host : Host} {path : Option String} {credentials written : Credentials} {chosen : String}
    (apart : credentials.ports.Apart)
    (binds : credentials.transport = .tcp →
      (choosePath host path).2.BindsApart credentials.ports.unsetChannels.length)
    (done : (write host path credentials).1 = .ok (chosen, written)) :
    (∀ channel, credentials.ports.get channel ≠ 0 → written.ports.get channel = credentials.ports.get channel) ∧
      (written.validate = .ok () ↔ NoClash (choosePath host path).2 credentials) := by
  obtain ⟨ready, drawn, stored, fresh, text, chose, drew, rfl, -, -, -⟩ := write_eq_ok (Prod.ext done rfl)
  rw [chose] at binds ⊢
  obtain ⟨length, offered, enough⟩ := freshPorts_eq_ok drew
  have ports : (complete (addressed credentials) fresh).ports =
      credentials.ports.assign credentials.ports.unsetChannels fresh := by
    simp [complete]
  refine ⟨fun channel set => ?_, ?_⟩
  · rw [ports]
    exact Ports.get_assign_of_not_mem _ _ (fun unset => set ((Ports.mem_unsetChannels _ _).mp unset))
  · rw [Credentials.validate_eq_ok, ports, Ports.assign_isDistinct_iff _ apart length]
    constructor
    · rintro ⟨nodup, clear⟩
      have nonzero : 0 ∉ fresh := by
        intro listed
        have some_unset : credentials.ports.unsetChannels ≠ [] := by
          intro none
          rw [none, List.length_nil, List.length_eq_zero_iff] at length
          rw [length] at listed
          cases listed
        obtain ⟨channel, unset⟩ := List.exists_mem_of_ne_nil _ some_unset
        exact clear 0 listed channel ((Ports.mem_unsetChannels _ _).mp unset)
      have whole := enough nodup nonzero
      exact ⟨whole, fun port listed => clear port (offered whole ▸ listed)⟩
    · rintro ⟨whole, clear⟩
      rw [offered whole]
      exact ⟨nodup_offers binds, clear⟩

def socketsAt (ports : Ports) : Credentials := { ports := ports, ip := "/run/a", transport := .ipc }

theorem write_validates_iff_above :
    Ports.Apart ⟨7, 0, 0, 0, 0⟩ ∧
      (write (Host.Isolated.machine [["run"]] []) (some "/run/a.json") (socketsAt ⟨7, 0, 0, 0, 0⟩)).1 =
        .ok ("/run/a.json", socketsAt ⟨7, 1, 2, 3, 4⟩) ∧
      ((socketsAt ⟨7, 1, 2, 3, 4⟩).validate = .ok () ↔
        NoClash (Host.Isolated.machine [["run"]] []) (socketsAt ⟨7, 0, 0, 0, 0⟩)) := by
  have apart : Ports.Apart ⟨7, 0, 0, 0, 0⟩ := by decide
  have done : (write (Host.Isolated.machine [["run"]] []) (some "/run/a.json") (socketsAt ⟨7, 0, 0, 0, 0⟩)).1 =
      .ok ("/run/a.json", socketsAt ⟨7, 1, 2, 3, 4⟩) := by decide +kernel
  exact ⟨apart, done, (write_validates_iff apart (fun tcp => by cases tcp) done).2⟩

/-- The first open index is given out though it is that of the shell channel already. -/
theorem write_repeats_set_index :
    Ports.Apart ⟨1, 0, 0, 0, 0⟩ ∧
      (write (Host.Isolated.machine [["run"]] []) (some "/run/a.json") (socketsAt ⟨1, 0, 0, 0, 0⟩)).1 =
        .ok ("/run/a.json", socketsAt ⟨1, 1, 2, 3, 4⟩) ∧
      (socketsAt ⟨1, 1, 2, 3, 4⟩).validate ≠ .ok () := by
  decide +kernel

end ConnectionFile
end Mooring
