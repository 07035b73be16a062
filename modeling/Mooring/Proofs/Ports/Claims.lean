import Mooring.PortClaims
import Mooring.Proofs.Files.Requests

/-! Claiming adds one port that nobody had, and releasing takes away those that are named. -/

namespace Mooring

namespace Host

/-- The system gives out no port zero. -/
def AnswersNonzero (host : Host) : Prop := ∀ port, .ok port ∈ host.ports → port ≠ 0

theorem AnswersNonzero.of_suffix {before after : Host} (nonzero : before.AnswersNonzero)
    (fewer : after.ports <:+ before.ports) : after.AnswersNonzero :=
  fun port listed => nonzero port (fewer.subset listed)

end Host

namespace PortClaims

open Host (PortAnswer)

theorem isClaimed_iff (claims : PortClaims) (port : UInt16) :
    claims.isClaimed port = true ↔ port ∈ claims.ports := decide_eq_true_iff

theorem mem_release (claims : PortClaims) (port other : UInt16) :
    other ∈ (claims.release port).ports ↔ other ≠ port ∧ other ∈ claims.ports :=
  claims.nodup.mem_erase_iff

theorem mem_releaseAll (claims : PortClaims) (ports : List UInt16) (other : UInt16) :
    other ∈ (claims.releaseAll ports).ports ↔ other ∉ ports ∧ other ∈ claims.ports := by
  induction ports generalizing claims with
  | nil => simp [releaseAll]
  | cons port ports ih =>
    show other ∈ ((claims.release port).releaseAll ports).ports ↔ _
    rw [ih, mem_release, List.mem_cons, not_or]
    constructor
    · exact fun ⟨absent, differs, claimed⟩ => ⟨⟨differs, absent⟩, claimed⟩
    · exact fun ⟨⟨differs, absent⟩, claimed⟩ => ⟨absent, differs, claimed⟩

theorem eq_of_ports {one two : PortClaims} (same : one.ports = two.ports) : one = two := by
  cases one
  cases two
  cases same
  rfl

theorem releaseAll_of_onTop {claims base : PortClaims} {ports : List UInt16}
    (onTop : claims.ports = ports.reverse ++ base.ports) : claims.releaseAll ports = base := by
  induction ports generalizing claims with
  | nil => exact eq_of_ports onTop
  | cons port rest ih =>
    apply ih
    rw [List.reverse_cons, List.append_assoc, List.singleton_append] at onTop
    have apart := claims.nodup
    rw [onTop] at apart
    have above : port ∉ rest.reverse := fun listed =>
      (List.nodup_append.mp apart).2.2 port listed port List.mem_cons_self rfl
    calc (claims.release port).ports
      _ = (rest.reverse ++ port :: base.ports).erase port := congrArg (·.erase port) onTop
      _ = rest.reverse ++ base.ports := by rw [List.erase_append_right _ above, List.erase_cons_head]

/-- Either nothing is claimed, or one port of the answers, which goes on top. -/
theorem claimFirst_cases (claims : PortClaims) (answers : List PortAnswer) :
    (claims.claimFirst answers).2.2 <:+ answers ∧
      match (claims.claimFirst answers).1 with
      | .error _ => (claims.claimFirst answers).2.1 = claims
      | .ok port => .ok port ∈ answers ∧ (claims.claimFirst answers).2.1.ports = port :: claims.ports := by
  induction answers with
  | nil => exact ⟨List.suffix_refl _, rfl⟩
  | cons answer rest ih =>
    cases answer with
    | error fault => exact ⟨List.suffix_cons _ _, rfl⟩
    | ok port =>
      by_cases taken : port ∈ claims.ports
      · have skips : claims.claimFirst (.ok port :: rest) = claims.claimFirst rest := by
          simp [claimFirst, claim?, taken]
        rw [skips]
        refine ⟨ih.1.trans (List.suffix_cons _ _), ?_⟩
        have found := ih.2
        split at found
        next => exact found
        next => exact ⟨List.mem_cons_of_mem _ found.1, found.2⟩
      · have takes : claims.claimFirst (.ok port :: rest) =
            (.ok port, ⟨port :: claims.ports, List.nodup_cons.mpr ⟨taken, claims.nodup⟩⟩, rest) := by
          simp [claimFirst, claim?, taken]
        rw [takes]
        exact ⟨List.suffix_cons _ _, List.mem_cons_self, rfl⟩

theorem findAvailable_cases (claims : PortClaims) (host : Host) (ip : String) :
    host.TakesAnswers (claims.findAvailable host ip).2.2 ∧
      match (claims.findAvailable host ip).1 with
      | .error _ => (claims.findAvailable host ip).2.1 = claims
      | .ok port => .ok port ∈ host.ports ∧ (claims.findAvailable host ip).2.1.ports = port :: claims.ports := by
  unfold findAvailable
  split
  next => exact ⟨.refl host, rfl⟩
  next =>
    split
    next => exact ⟨.refl host, rfl⟩
    next =>
      obtain ⟨fewer, found⟩ := claims.claimFirst_cases host.ports
      exact ⟨⟨_, fewer, rfl⟩, found⟩

end PortClaims
end Mooring
