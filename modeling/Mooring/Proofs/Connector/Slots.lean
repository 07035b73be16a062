import Mooring.Connector.Calls

/-! What each change of a world does to its connectors, slots, kernels and claims. -/

namespace Mooring

theorem Table.get?_modify {κ α : Type} [DecidableEq κ] (table : Table κ α) (key other : κ) (change : α → α) :
    (table.modify key change).get? other =
      if other = key then (table.get? key).map change else table.get? other := by
  unfold modify
  split
  next value known =>
    split
    next same => rw [same, get?_set_self, known]; rfl
    next differs => exact get?_set_of_ne _ _ differs
  next absent =>
    split
    next same => rw [same, absent]; rfl
    next => rfl

theorem Table.row_listed {κ α : Type} [DecidableEq κ] {table : Table κ α} {key : κ} {value : α}
    (there : table.get? key = some value) : (key, value) ∈ table.rows := by
  obtain ⟨⟨found, held⟩, first, rfl⟩ := Option.map_eq_some_iff.mp there
  obtain rfl : found = key := by simpa using List.find?_some first
  exact List.mem_of_find?_eq_some first

theorem Table.key_listed {κ α : Type} [DecidableEq κ] {table : Table κ α} {key : κ} {value : α}
    (there : table.get? key = some value) : ∃ row ∈ table.rows, row.1 = key :=
  ⟨(key, value), row_listed there, rfl⟩

theorem Table.get?_ne_none_of_listed {κ α : Type} [DecidableEq κ] {table : Table κ α} {row : κ × α}
    (listed : row ∈ table.rows) : table.get? row.1 ≠ none := by
  intro absent
  have differs := List.find?_eq_none.mp (Option.map_eq_none_iff.mp absent) row listed
  simp at differs

theorem Table.mem_rows_erase {κ α : Type} [DecidableEq κ] (table : Table κ α) (key : κ) (row : κ × α) :
    row ∈ (table.erase key).rows ↔ row ∈ table.rows ∧ row.1 ≠ key := by
  simp [erase]

theorem Table.mem_rows_set {κ α : Type} [DecidableEq κ] (table : Table κ α) (key : κ) (value : α) (row : κ × α) :
    row ∈ (table.set key value).rows ↔ row = (key, value) ∨ row ∈ table.rows ∧ row.1 ≠ key := by
  rw [← mem_rows_erase]
  exact List.mem_cons

theorem Table.erase_set_of_absent {κ α : Type} [DecidableEq κ] {table : Table κ α} {key : κ}
    (absent : table.get? key = none)
    (value : α) : (table.set key value).erase key = table := by
  have others : ∀ row ∈ table.rows, decide (row.1 ≠ key) = true := by
    intro row listed
    have differs := List.find?_eq_none.mp (Option.map_eq_none_iff.mp absent) row listed
    simpa using differs
  have erased : table.erase key = table := congrArg Table.mk (List.filter_eq_self.mpr others)
  calc (table.set key value).erase key
    _ = (table.erase key).erase key := congrArg Table.mk (List.filter_cons_of_neg (by simp))
    _ = table := by rw [erased, erased]

namespace World

theorem claimsOf_setClaims_self (world : World) (key : Nat) (claims : PortClaims) :
    (world.setClaims key claims).claimsOf key = claims := by
  simp [claimsOf, setClaims, Table.get?_set_self]

theorem claimsOf_setClaims (world : World) (key : Nat) (claims : PortClaims) (other : Nat) :
    (world.setClaims key claims).claimsOf other = if other = key then claims else world.claimsOf other := by
  by_cases same : other = key
  · rw [if_pos same, same]
    exact world.claimsOf_setClaims_self key claims
  · rw [if_neg same]
    unfold claimsOf setClaims
    rw [Table.get?_set_of_ne _ _ same]

theorem connector?_modifySlots (world : World) (index other : Nat) (change : Table String Slot → Table String Slot) :
    (world.modifySlots index change).connector? other =
      if other = index then
        (world.connector? index).map (fun connector => { connector with slots := change connector.slots })
      else world.connector? other :=
  Table.get?_modify _ _ _ _

theorem connector?_setRegistry (world : World) (index other : Nat) (registry : Registry) :
    (world.setRegistry index registry).connector? other =
      if other = index then (world.connector? index).map (fun connector => { connector with registry := registry })
      else world.connector? other :=
  Table.get?_modify _ _ _ _

theorem slot?_setRegistry (world : World) (index : Nat) (registry : Registry) (other : Nat) (id : String) :
    (world.setRegistry index registry).slot? other id = world.slot? other id := by
  unfold slot?
  rw [connector?_setRegistry]
  split
  next same =>
    rw [same]
    cases world.connector? index <;> rfl
  next => rfl

theorem slot?_setSlot (world : World) {index : Nat} (known : (world.connector? index).isSome)
    (id : String) (slot : Slot)
    (other : Nat) (name : String) :
    (world.setSlot index id slot).slot? other name =
      if other = index ∧ name = id then some slot else world.slot? other name := by
  obtain ⟨connector, there⟩ := Option.isSome_iff_exists.mp known
  unfold slot? setSlot
  rw [connector?_modifySlots]
  by_cases here : other = index
  · subst here
    rw [if_pos rfl, there]
    by_cases same : name = id
    · subst same
      rw [if_pos ⟨rfl, rfl⟩]
      exact Table.get?_set_self _ _ _
    · rw [if_neg (fun both => same both.2)]
      exact Table.get?_set_of_ne _ _ same
  · rw [if_neg here, if_neg (fun both => here both.1)]

theorem slot?_freeSlot (world : World) (index : Nat) (id : String) (other : Nat) (name : String) :
    (world.freeSlot index id).slot? other name =
      if other = index ∧ name = id then none else world.slot? other name := by
  unfold slot? freeSlot
  rw [connector?_modifySlots]
  by_cases here : other = index
  · subst here
    rw [if_pos rfl]
    cases there : world.connector? other with
    | none => simp
    | some connector =>
      by_cases same : name = id
      · subst same
        rw [if_pos ⟨rfl, rfl⟩]
        exact Table.get?_erase_self _ _
      · rw [if_neg (fun both => same both.2)]
        exact Table.get?_erase_of_ne _ same
  · rw [if_neg here, if_neg (fun both => here both.1)]

theorem isSome_connector?_modifySlots (world : World) (index other : Nat)
    (change : Table String Slot → Table String Slot) :
    ((world.modifySlots index change).connector? other).isSome = (world.connector? other).isSome := by
  rw [connector?_modifySlots]
  split
  next same => rw [same, Option.isSome_map]
  next => rfl

theorem isSome_connector?_setRegistry (world : World) (index other : Nat) (registry : Registry) :
    ((world.setRegistry index registry).connector? other).isSome = (world.connector? other).isSome := by
  rw [connector?_setRegistry]
  split
  next same => rw [same, Option.isSome_map]
  next => rfl

theorem isSome_connector?_of_slot? {world : World} {index : Nat} {id : String} {slot : Slot}
    (taken : world.slot? index id = some slot) : (world.connector? index).isSome := by
  unfold slot? at taken
  obtain ⟨connector, there, _⟩ := Option.bind_eq_some_iff.mp taken
  rw [there]
  rfl

theorem connector?_addConnector (world : World) (connector : Connector) (index : Nat) :
    (world.addConnector connector).2.connector? index =
      if index = world.nextConnector then some connector else world.connector? index := by
  unfold connector? addConnector
  split
  next new => exact new ▸ Table.get?_set_self _ _ _
  next old => exact Table.get?_set_of_ne _ _ old

theorem slot?_addConnector {world : World}
    (vacant : world.connector? world.nextConnector = none) {connector : Connector}
    (empty : ∀ id, connector.slots.get? id = none) (index : Nat) (id : String) :
    (world.addConnector connector).2.slot? index id = world.slot? index id := by
  unfold slot?
  rw [connector?_addConnector]
  split
  next new =>
    rw [new, vacant]
    exact empty id
  next => rfl

theorem handle?_eq_some (world : World) (index : Nat) (id : String) (handle : Nat) :
    world.handle? index id = some handle ↔ world.slot? index id = some (.ready handle) := by
  unfold handle?
  cases world.slot? index id with
  | none => simp
  | some slot => cases slot <;> simp

theorem setSlot_of_missing {world : World} {index : Nat} {id : String} {slot : Slot}
    (missing : (world.setSlot index id slot).connector? index = none) : world.setSlot index id slot = world := by
  have same : ((world.setSlot index id slot).connector? index).isSome = (world.connector? index).isSome :=
    isSome_connector?_modifySlots world index index _
  rw [missing] at same
  have absent : world.connectors.get? index = none := Option.not_isSome_iff_eq_none.mp (Bool.eq_false_iff.mp same.symm)
  simp [setSlot, modifySlots, Table.modify, absent]

theorem reserve_cases (world : World) (index : Nat) (id : String) :
    (∃ error, world.reserve index id = (.error error, world)) ∨
      isValidId id = true ∧ world.slot? index id = none ∧
        world.reserve index id = (.ok (), world.setSlot index id .preparing) := by
  unfold reserve
  split
  next => exact .inl ⟨_, rfl⟩
  next valid =>
    split
    next => exact .inl ⟨_, rfl⟩
    next free => exact .inr ⟨by simpa using valid, by simpa using free, rfl⟩

/-- A new kernel takes the place of a reservation. -/
def enroll (world : World) (index : Nat) (id : String) (kernel : Kernel) : World :=
  (world.addKernel kernel).2.setSlot index id (.ready world.nextKernel)

/-- Preparing is refused and changes nothing, or its launch fails, or there is a new kernel. -/
theorem prepareAs_cases (answerer : Answerer) (world : World) (index : Nat) (id : String) (spec : KernelSpec) :
    (∃ error, prepareAs answerer index id spec world = (.error error, world)) ∨
      isValidId id = true ∧ world.slot? index id = none ∧ (world.connector? index).isSome ∧ ∃ connector,
        (world.setSlot index id .preparing).connector? index = some connector ∧
          ((∃ error after, launch answerer index connector id spec
            (world.setSlot index id .preparing) = (.error error, after) ∧
              prepareAs answerer index id spec world = (.error error, after.freeSlot index id)) ∨
            ∃ kernel after, launch answerer index connector id spec
              (world.setSlot index id .preparing) = (.ok kernel, after) ∧
              prepareAs answerer index id spec world = (.ok id, after.enroll index id kernel)) := by
  unfold prepareAs
  rcases world.reserve_cases index id with ⟨error, refused⟩ | ⟨valid, free, reserved⟩
  · exact .inl ⟨error, by rw [refused]⟩
  · rw [reserved]
    simp only
    have same : ((world.setSlot index id .preparing).connector? index).isSome = (world.connector? index).isSome :=
      isSome_connector?_modifySlots world index index _
    cases there : (world.setSlot index id .preparing).connector? index with
    | none =>
      rw [setSlot_of_missing there]
      exact .inl ⟨_, rfl⟩
    | some connector =>
      rw [there] at same
      refine .inr ⟨valid, free, same.symm, connector, rfl, ?_⟩
      simp only
      rcases launch answerer index connector id spec (world.setSlot index id .preparing) with ⟨error | kernel, after⟩
      · exact .inl ⟨error, after, rfl, rfl⟩
      · exact .inr ⟨kernel, after, rfl, rfl⟩

theorem slot?_enroll (world : World) {index : Nat} (known : (world.connector? index).isSome)
    (id : String) (kernel : Kernel)
    (other : Nat) (name : String) :
    (world.enroll index id kernel).slot? other name =
      if other = index ∧ name = id then some (.ready world.nextKernel) else world.slot? other name :=
  slot?_setSlot (world.addKernel kernel).2 known id _ other name

end World
end Mooring
