import Mathlib.Data.List.Nodup
import Mooring.Credentials.Basic

/-! Ports are given to the channels that have none, one for each; credentials are valid when that
left no channel without a port and no two channels with the same one. -/

namespace Mooring

theorem Channel.nodup_allocationOrder : Channel.allocationOrder.Nodup := by decide

namespace Ports

theorem mem_unsetChannels (ports : Ports) (channel : Channel) :
    channel ∈ ports.unsetChannels ↔ ports.get channel = 0 := by
  simp [unsetChannels, Channel.mem_allocationOrder]

theorem nodup_unsetChannels (ports : Ports) : ports.unsetChannels.Nodup :=
  Channel.nodup_allocationOrder.filter _

theorem isComplete_iff (ports : Ports) : ports.isComplete = true ↔ ∀ channel, ports.get channel ≠ 0 := by
  simp [isComplete, Channel.mem_all]

theorem unsetChannels_eq_nil (ports : Ports) (complete : ∀ channel, ports.get channel ≠ 0) :
    ports.unsetChannels = [] := by
  rw [List.eq_nil_iff_forall_not_mem]
  intro channel unset
  exact complete channel ((mem_unsetChannels ports channel).mp unset)

theorem isDistinct_iff (ports : Ports) :
    ports.isDistinct = true ↔ ∀ one two, ports.get one = ports.get two → one = two := by
  unfold isDistinct values
  rw [decide_eq_true_iff, List.nodup_map_iff_inj_on (by decide)]
  constructor
  · intro apart one two same
    exact apart one (Channel.mem_all one) two (Channel.mem_all two) same
  · intro apart one _ two _ same
    exact apart one two same

theorem get_assign_of_not_mem (ports : Ports) {channels : List Channel} (values : List UInt16) {channel : Channel}
    (other : channel ∉ channels) : (ports.assign channels values).get channel = ports.get channel := by
  unfold assign
  induction channels generalizing ports values with
  | nil => rfl
  | cons first rest ih =>
    cases values with
    | nil => rfl
    | cons value values =>
      rw [List.mem_cons, not_or] at other
      rw [List.zip_cons_cons, List.foldl_cons, ih _ _ other.2]
      exact PerChannel.get_set_of_ne ports value other.1

theorem map_get_assign (ports : Ports) {channels : List Channel} {values : List UInt16}
    (nodup : channels.Nodup) (enough : values.length = channels.length) :
    channels.map (ports.assign channels values).get = values := by
  induction channels generalizing ports values with
  | nil => exact (List.length_eq_zero_iff.mp enough).symm
  | cons first rest ih =>
    cases values with
    | nil => cases enough
    | cons value values =>
      obtain ⟨new, nodup⟩ := List.nodup_cons.mp nodup
      have set_first : (ports.assign (first :: rest) (value :: values)).get first = value := by
        show (assign (ports.set first value) rest values).get first = value
        rw [get_assign_of_not_mem _ _ new, PerChannel.get_set_self]
      rw [List.map_cons, set_first]
      exact congrArg (value :: ·) (ih (ports.set first value) nodup (Nat.succ.inj enough))

theorem assign_complete (ports : Ports) {fresh : List UInt16} (enough : fresh.length = ports.unsetChannels.length)
    (nonzero : 0 ∉ fresh) (channel : Channel) : (ports.assign ports.unsetChannels fresh).get channel ≠ 0 := by
  by_cases unset : channel ∈ ports.unsetChannels
  · have given := List.mem_map_of_mem (f := (ports.assign ports.unsetChannels fresh).get) unset
    rw [map_get_assign ports ports.nodup_unsetChannels enough] at given
    exact fun zero => nonzero (zero ▸ given)
  · rw [get_assign_of_not_mem ports fresh unset]
    exact fun zero => unset ((ports.mem_unsetChannels channel).mpr zero)

def Apart (ports : Ports) : Prop :=
  ∀ one two, ports.get one ≠ 0 → ports.get one = ports.get two → one = two

instance (ports : Ports) : Decidable ports.Apart :=
  decidable_of_iff (∀ one ∈ Channel.all, ∀ two ∈ Channel.all, ports.get one ≠ 0 →
    ports.get one = ports.get two → one = two)
    ⟨fun apart one two => apart one (Channel.mem_all one) two (Channel.mem_all two),
    fun apart one _ two _ => apart one two⟩

theorem assign_isDistinct_iff (ports : Ports) (apart : ports.Apart) {fresh : List UInt16}
    (enough : fresh.length = ports.unsetChannels.length) :
    (∀ channel, (ports.assign ports.unsetChannels fresh).get channel ≠ 0) ∧
        (∀ one two, (ports.assign ports.unsetChannels fresh).get one =
          (ports.assign ports.unsetChannels fresh).get two → one = two) ↔
      fresh.Nodup ∧ ∀ port ∈ fresh, ∀ channel, ports.get channel ≠ port := by
  have given := map_get_assign ports ports.nodup_unsetChannels enough
  have kept : ∀ channel, ports.get channel ≠ 0 →
      (ports.assign ports.unsetChannels fresh).get channel = ports.get channel := fun channel set =>
    get_assign_of_not_mem ports fresh (fun unset => set ((ports.mem_unsetChannels channel).mp unset))
  have new : ∀ channel, ports.get channel = 0 → (ports.assign ports.unsetChannels fresh).get channel ∈ fresh := by
    intro channel unset
    have listed := List.mem_map_of_mem (f := (ports.assign ports.unsetChannels fresh).get)
      ((ports.mem_unsetChannels channel).mpr unset)
    rwa [given] at listed
  generalize ports.assign ports.unsetChannels fresh = assigned at given kept new ⊢
  constructor
  · rintro ⟨complete, distinct⟩
    refine ⟨?_, fun port chosen channel same => ?_⟩
    · rw [← given, List.nodup_map_iff_inj_on ports.nodup_unsetChannels]
      exact fun one _ two _ same => distinct one two same
    · rw [← given] at chosen
      obtain ⟨other, unset, rfl⟩ := List.mem_map.mp chosen
      rw [mem_unsetChannels] at unset
      have set : ports.get channel ≠ 0 := fun zero => complete other (by rw [← same, zero])
      have met : channel = other := distinct channel other ((kept channel set).trans same)
      exact set (met ▸ unset)
  · rintro ⟨nodup, clear⟩
    have complete : ∀ channel, assigned.get channel ≠ 0 := by
      intro channel
      by_cases unset : ports.get channel = 0
      · intro zero
        exact clear _ (new channel unset) channel (by rw [unset, zero])
      · rw [kept channel unset]
        exact unset
    refine ⟨complete, fun one two same => ?_⟩
    by_cases oneUnset : ports.get one = 0 <;> by_cases twoUnset : ports.get two = 0
    · rw [← given, List.nodup_map_iff_inj_on ports.nodup_unsetChannels] at nodup
      exact nodup one ((ports.mem_unsetChannels one).mpr oneUnset) two ((ports.mem_unsetChannels two).mpr twoUnset) same
    · exact absurd (same ▸ (kept two twoUnset).symm) (clear _ (new one oneUnset) two)
    · exact absurd ((kept one oneUnset).symm.trans same) (clear _ (new two twoUnset) one)
    · rw [kept one oneUnset, kept two twoUnset] at same
      exact apart one two oneUnset same

end Ports

theorem Credentials.validate_eq_ok (credentials : Credentials) :
    credentials.validate = .ok () ↔ (∀ channel, credentials.ports.get channel ≠ 0) ∧
      ∀ one two, credentials.ports.get one = credentials.ports.get two → one = two := by
  rw [← Ports.isComplete_iff, ← Ports.isDistinct_iff]
  unfold validate
  cases credentials.ports.isComplete <;> cases credentials.ports.isDistinct <;> simp

end Mooring
