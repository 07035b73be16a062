import Mathlib.Data.List.Nodup
import Mooring.Session

/-! Which digests a session recognises when they come again. Only digests that are accepted enter the history,
and only the oldest leave it, so that it is always a window on those that were accepted last. -/

namespace Mooring

namespace DigestHistory

/-- So many of the digests that were accepted last are never forgotten. -/
def remembered : Nat := limit + 1 - forgotten

theorem size_eq (history : DigestHistory) : history.size = history.toList.length := Array.length_toList.symm

theorem record_seen {history : DigestHistory} {digest : Bytes} (seen : digest ∈ history.toList) :
    history.record digest = (false, history) := by
  rw [record, if_pos ((history.contains_iff digest).mpr seen)]

theorem record_new {history : DigestHistory} {digest : Bytes} (new : digest ∉ history.toList) :
    (history.record digest).1 = true ∧ (history.record digest).2.toList =
      (history.toList ++ [digest]).drop (if limit < history.size + 1 then forgotten else 0) := by
  have absent : ¬ history.contains digest = true := fun contained => new ((history.contains_iff digest).mp contained)
  have longer : (history.push digest).size = history.size + 1 := by
    rw [size_eq, toList_push, List.length_append, List.length_singleton, ← size_eq]
  rw [record, if_neg absent]
  refine ⟨rfl, ?_⟩
  simp only [longer]
  split
  next => rw [toList_dropOldest, toList_push]
  next => rw [toList_push, List.drop_zero]

theorem record_eq_false_iff (history : DigestHistory) (digest : Bytes) :
    (history.record digest).1 = false ↔ digest ∈ history.toList := by
  by_cases seen : digest ∈ history.toList
  · simp [record_seen seen, seen]
  · simp [(record_new seen).1, seen]

/-- The history is what was accepted last, each digest once: not more than the limit, and not less than is always
remembered. -/
structure Window (accepted : List Bytes) (history : DigestHistory) : Prop where
  recent : history.toList <:+ accepted
  nodup : history.toList.Nodup
  bounded : history.size ≤ limit
  enough : min accepted.length remembered ≤ history.size

theorem window_empty : Window [] empty where
  recent := List.suffix_refl _
  nodup := List.nodup_nil
  bounded := Nat.zero_le _
  enough := Nat.le_refl _

/-- One digest moves the window on, or leaves it where it is. -/
theorem Window.record {accepted : List Bytes} {history : DigestHistory} (window : Window accepted history)
    (digest : Bytes) :
    Window (if (history.record digest).1 then accepted ++ [digest] else accepted) (history.record digest).2 := by
  by_cases seen : digest ∈ history.toList
  · rw [record_seen seen]
    exact window
  · obtain ⟨isNew, entries⟩ := record_new seen
    rw [if_pos isNew]
    have size : (history.record digest).2.size =
        history.size + 1 - (if limit < history.size + 1 then forgotten else 0) := by
      rw [size_eq, entries, List.length_drop, List.length_append, List.length_singleton, ← size_eq]
    obtain ⟨bounds, remains⟩ : (history.record digest).2.size ≤ limit ∧
        min (accepted.length + 1) remembered ≤ (history.record digest).2.size := by
      have bounded := window.bounded
      have enough := window.enough
      rw [size]
      by_cases full : limit < history.size + 1
      · rw [if_pos full]
        simp only [remembered, forgotten, limit] at *
        omega
      · rw [if_neg full]
        omega
    obtain ⟨older, whole⟩ := window.recent
    constructor
    · rw [entries, ← whole, List.append_assoc]
      exact (List.drop_suffix _ _).trans (List.suffix_append _ _)
    · rw [entries]
      refine List.Nodup.sublist (List.drop_sublist _ _) ?_
      rw [List.nodup_append]
      exact ⟨window.nodup, List.pairwise_singleton _ digest, fun one among other last same =>
        seen ((same.trans (List.mem_singleton.mp last)) ▸ among)⟩
    · exact bounds
    · rw [List.length_append, List.length_singleton]
      exact remains

theorem Window.keeps {accepted : List Bytes} {history : DigestHistory} (window : Window accepted history) :
    accepted.drop (accepted.length - remembered) <:+ history.toList := by
  refine List.suffix_of_suffix_length_le (List.drop_suffix _ _) window.recent ?_
  have enough := window.enough
  rw [List.length_drop, ← size_eq]
  omega

end DigestHistory

namespace Session

def recorded (session : Session) (digests : List Bytes) : Session :=
  digests.foldl (fun session digest => (session.record digest).2) session

def accepted (session : Session) : List Bytes → List Bytes
  | [] => []
  | digest :: rest =>
    if (session.record digest).1 then digest :: (session.record digest).2.accepted rest
    else (session.record digest).2.accepted rest

/-- Recording many digests counts those that are accepted. -/
theorem recordAll_eq (session : Session) (digests : List Bytes) :
    session.recordAll digests = ((session.accepted digests).length, session.recorded digests) := by
  have counts (count : Nat) (session : Session) :
      digests.foldl
        (fun progress digest =>
          (if (progress.2.record digest).1 then progress.1 + 1 else progress.1, (progress.2.record digest).2))
        (count, session) = (count + (session.accepted digests).length, session.recorded digests) := by
    induction digests generalizing count session with
    | nil => rfl
    | cons digest rest ih =>
      rw [List.foldl_cons, ih, recorded, recorded, List.foldl_cons, accepted]
      split
      next => rw [List.length_cons, Nat.add_assoc, Nat.add_comm 1]
      next => rfl
  have whole := counts 0 session
  rw [Nat.zero_add] at whole
  exact whole

theorem recorded_window {session : Session} {past : List Bytes} (window : session.history.Window past)
    (digests : List Bytes) : (session.recorded digests).history.Window (past ++ session.accepted digests) := by
  induction digests generalizing session past with
  | nil =>
    rw [accepted, List.append_nil]
    exact window
  | cons digest rest ih =>
    have next : (session.record digest).2.history.Window
        (if (session.record digest).1 then past ++ [digest] else past) := window.record digest
    have later := ih next
    rw [accepted]
    split at later
    next isNew =>
      rw [if_pos isNew]
      rw [List.append_assoc] at later
      exact later
    next isOld =>
      rw [if_neg isOld]
      exact later

/-- A session that starts without digests holds at most 65536 of them, those that it accepted last, in their order and
each once. It accepts a digest exactly when it holds it not, and it always holds the last 58984 that it accepted, so
that these are recognised when they come again. -/
theorem replays_recognised (session : Session) (unused : session.history = DigestHistory.empty) (digests : List Bytes) :
    let accepted := session.accepted digests
    let later := session.recorded digests
    let latest := accepted.drop (accepted.length - 58984)
    later.history.size ≤ 65536 ∧ later.history.toList <:+ accepted ∧ later.history.toList.Nodup ∧
      (∀ digest, (later.record digest).1 = false ↔ digest ∈ later.history.toList) ∧
        latest <:+ later.history.toList ∧ ∀ digest ∈ latest, (later.record digest).1 = false := by
  intro accepted later latest
  have window : later.history.Window accepted := by
    have start : session.history.Window [] := unused ▸ DigestHistory.window_empty
    exact recorded_window start digests
  have reports (digest : Bytes) : (later.record digest).1 = false ↔ digest ∈ later.history.toList :=
    later.history.record_eq_false_iff digest
  have kept : latest <:+ later.history.toList := window.keeps
  exact ⟨window.bounded, window.recent, window.nodup, reports, kept,
    fun digest among => (reports digest).mpr (kept.subset among)⟩

theorem accepted_of_nodup {session : Session} {digests : List Bytes}
    (apart : (session.history.toList ++ digests).Nodup) : session.accepted digests = digests := by
  induction digests generalizing session with
  | nil => rfl
  | cons digest rest ih =>
    have new : digest ∉ session.history.toList := fun held =>
      (List.nodup_append.mp apart).2.2 digest held digest List.mem_cons_self rfl
    obtain ⟨isNew, entries⟩ := DigestHistory.record_new new
    have stillApart : ((session.record digest).2.history.toList ++ rest).Nodup := by
      rw [List.append_cons] at apart
      exact apart.sublist (List.Sublist.append_right (entries ▸ List.drop_sublist _ _) rest)
    rw [accepted, if_pos (show (session.record digest).1 = true from isNew), ih stillApart]

theorem replays_recognised_manyDigests :
    let session := withKey []
    let digests := (List.range 70000).map (List.replicate · 0)
    session.history = DigestHistory.empty ∧ session.accepted digests = digests ∧
      ((session.recorded digests).record (List.replicate 69999 0)).1 = false ∧
        ((session.recorded digests).record []).1 = true := by
  intro session digests
  have unused : session.history = DigestHistory.empty := rfl
  have apart : (session.history.toList ++ digests).Nodup := by
    rw [show session.history.toList = [] from rfl, List.nil_append]
    exact List.nodup_range.map (fun one two same => by simpa using congrArg List.length same)
  have accepts : session.accepted digests = digests := accepted_of_nodup apart
  obtain ⟨bounded, recent, -, reports, -, recognised⟩ := replays_recognised session unused digests
  rw [accepts] at recent recognised
  have long : digests.length = 70000 := (List.length_map _).trans List.length_range
  have among (k n : Nat) : n ∈ (List.range 70000).drop k ↔ k ≤ n ∧ n < k + (70000 - k) := by
    rw [List.range_eq_range', List.drop_range', List.mem_range'_1, Nat.mul_one, Nat.zero_add]
  refine ⟨unused, accepts, recognised _ ?_, ?_⟩
  · rw [long, ← List.map_drop]
    exact List.mem_map_of_mem ((among _ _).mpr ⟨by omega, by omega⟩)
  · have forgotten : [] ∉ (session.recorded digests).history.toList := by
      intro held
      rw [List.suffix_iff_eq_drop.mp recent, ← List.map_drop] at held
      obtain ⟨n, isLate, same⟩ := List.mem_map.mp held
      obtain rfl : n = 0 := by simpa using congrArg List.length same
      rw [DigestHistory.size_eq] at bounded
      have late := ((among _ _).mp isLate).1
      omega
    exact eq_true_of_ne_false (mt (reports []).mp forgotten)

end Session
end Mooring
