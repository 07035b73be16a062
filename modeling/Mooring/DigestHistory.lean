import Std.Data.HashSet
import Mooring.Text.Utf8

/-! Digests of messages that were seen before, oldest first. When there are too many, the oldest
tenth is forgotten at once. An index answers whether a digest is among them. -/

namespace Mooring

structure DigestHistory where
  entries : Array Bytes
  index : Std.HashSet Bytes
  mem_index : ∀ digest, digest ∈ index ↔ digest ∈ entries.toList

namespace DigestHistory

/-- The history never holds more digests than this. -/
def limit : Nat := 65536

def forgotten : Nat := limit / 10

def empty : DigestHistory := ⟨#[], ∅, by simp⟩

def toList (history : DigestHistory) : List Bytes := history.entries.toList

def size (history : DigestHistory) : Nat := history.entries.size

def contains (history : DigestHistory) (digest : Bytes) : Bool := history.index.contains digest

theorem contains_iff (history : DigestHistory) (digest : Bytes) :
    history.contains digest = true ↔ digest ∈ history.toList := by
  rw [contains, ← Std.HashSet.mem_iff_contains]
  exact history.mem_index digest

def push (history : DigestHistory) (digest : Bytes) : DigestHistory :=
  ⟨history.entries.push digest, history.index.insert digest, by
    intro other
    rw [Std.HashSet.mem_insert, history.mem_index, Array.toList_push, List.mem_append,
      List.mem_singleton, beq_iff_eq]
    exact ⟨fun h => h.elim (fun e => .inr e.symm) .inl, fun h => h.elim .inr (fun e => .inl e.symm)⟩⟩

def dropOldest (history : DigestHistory) (count : Nat) : DigestHistory :=
  let rest := history.entries.extract count history.entries.size
  ⟨rest, Std.HashSet.ofList rest.toList, by intro digest; simp⟩

/-- Records a digest and tells whether it is new. -/
def record (history : DigestHistory) (digest : Bytes) : Bool × DigestHistory :=
  if history.contains digest then (false, history)
  else
    let longer := history.push digest
    (true, if limit < longer.size then longer.dropOldest forgotten else longer)

theorem toList_push (history : DigestHistory) (digest : Bytes) :
    (history.push digest).toList = history.toList ++ [digest] := by
  simp [toList, push]

theorem toList_dropOldest (history : DigestHistory) (count : Nat) :
    (history.dropOldest count).toList = history.toList.drop count := by
  simp only [toList, dropOldest, Array.toList_extract, List.extract_eq_take_drop]
  exact List.take_of_length_le (by simp)

def sameDigests (a b : DigestHistory) : Bool :=
  a.size = b.size && a.entries.all b.contains

end DigestHistory
end Mooring
