import Mooring.Proofs.Connector.FileRuns
import Mooring.Proofs.Connector.Work

/-! The id of a kernel from its reservation to the end of its preparation. No call ends a reservation that it
has not made, so that hooks find the id taken and nothing under it, however deep their calls are nested. -/

namespace Mooring

namespace World

def At (index : Nat) (id : String) (other : Nat) (name : String) : Prop := other = index ∧ name = id

theorem modifySlots_slotsBut (world : World) (index : Nat) (id : String)
    {change : Table String Slot → Table String Slot}
    (values : ∀ slots name, name ≠ id → (change slots).get? name = slots.get? name)
    (rows : ∀ slots name slot, name ≠ id → ((name, slot) ∈ (change slots).rows ↔ (name, slot) ∈ slots.rows)) :
    SlotsBut (At index id) world (world.modifySlots index change) where
  slots other name elsewhere := by
    unfold slot?
    rw [connector?_modifySlots]
    by_cases here : other = index
    · rw [if_pos here, here]
      cases world.connector? index with
      | none => rfl
      | some connector => exact values connector.slots name (fun same => elsewhere ⟨here, same⟩)
    · rw [if_neg here]
  listed other name elsewhere := by
    rw [mem_ids, mem_ids, connector?_modifySlots]
    by_cases here : other = index
    · rw [if_pos here, here]
      cases world.connector? index with
      | none => rfl
      | some connector => simp [rows connector.slots name _ (fun same => elsewhere ⟨here, same⟩)]
    · rw [if_neg here]

theorem setSlot_slotsBut (world : World) (index : Nat) (id : String) (slot : Slot) :
    SlotsBut (At index id) world (world.setSlot index id slot) := by
  refine world.modifySlots_slotsBut index id (fun slots name other => slots.get?_set_of_ne slot other)
    (fun slots name held other => ?_)
  rw [Table.mem_rows_set]
  simp [other]

theorem freeSlot_slotsBut (world : World) (index : Nat) (id : String) :
    SlotsBut (At index id) world (world.freeSlot index id) := by
  refine world.modifySlots_slotsBut index id (fun slots name other => slots.get?_erase_of_ne other)
    (fun slots name held other => ?_)
  rw [Table.mem_rows_erase]
  simp [other]

theorem enroll_slotsBut (world : World) (index : Nat) (id : String) (kernel : Kernel) :
    SlotsBut (At index id) world (world.enroll index id kernel) := by
  have added : SameSlots world (world.addKernel kernel).2 := fun _ => rfl
  exact (added.slotsBut _).trans ((world.addKernel kernel).2.setSlot_slotsBut index id _)

def Reserved (world : World) (index : Nat) (id : String) : Prop :=
  world.slot? index id = some .preparing ∧ id ∉ world.ids index

theorem setSlot_reserved {world : World} {index : Nat} (known : (world.connector? index).isSome) (id : String) :
    (world.setSlot index id .preparing).Reserved index id := by
  refine ⟨(world.slot?_setSlot known id .preparing index id).trans (if_pos ⟨rfl, rfl⟩), fun listed => ?_⟩
  obtain ⟨slots, there, handle, row⟩ := (mem_ids _ index id).mp listed
  rw [setSlot, connector?_modifySlots, if_pos rfl, Option.map_map] at there
  obtain ⟨connector, _, rfl⟩ := Option.map_eq_some_iff.mp there
  rcases (Table.mem_rows_set connector.slots id .preparing _).mp row with same | ⟨_, other⟩
  · cases same
  · exact other rfl

def KeepsReserved (before after : World) : Prop :=
  ∀ index id, before.Reserved index id → after.Reserved index id

theorem KeepsReserved.refl (world : World) : KeepsReserved world world := fun _ _ reserved => reserved

theorem KeepsReserved.trans {first second third : World} (one : KeepsReserved first second)
    (two : KeepsReserved second third) : KeepsReserved first third :=
  fun index id reserved => two index id (one index id reserved)

theorem SlotsBut.reserved {touched : Nat → String → Prop} {before after : World} (same : SlotsBut touched before after)
    {index : Nat} {id : String} (spared : ¬ touched index id) (reserved : before.Reserved index id) :
    after.Reserved index id :=
  ⟨(same.slots index id spared).trans reserved.1, fun listed => reserved.2 ((same.listed index id spared).mp listed)⟩

theorem SlotsBut.keepsReserved {before after : World} (same : SlotsBut (fun _ _ => False) before after) :
    KeepsReserved before after :=
  fun _ _ => same.reserved not_false

theorem SlotsBut.keepsReserved_of_ne {before after : World} {index : Nat} {id : String}
    (same : SlotsBut (At index id) before after)
    (unreserved : before.slot? index id ≠ some .preparing) : KeepsReserved before after := by
  intro other name reserved
  refine same.reserved ?_ reserved
  rintro ⟨rfl, rfl⟩
  exact unreserved reserved.1

theorem KeepsReserved.around {world middle after : World} {index : Nat} {id : String}
    (free : world.slot? index id = none)
    (keeps : KeepsReserved (world.setSlot index id .preparing) middle) (ends : SlotsBut (At index id) middle after) :
    KeepsReserved world after := by
  intro other name reserved
  have elsewhere : ¬ At index id other name := by
    rintro ⟨rfl, rfl⟩
    cases free.symm.trans reserved.1
  have during := keeps other name ((world.setSlot_slotsBut index id .preparing).reserved elsewhere reserved)
  exact ends.reserved elsewhere during

/-- Calls that end no reservation but their own, at none of their moments. -/
def Respects (answerer : Answerer) (recorder : Recorder) : Prop :=
  ∀ index call (asked : World), KeepsReserved asked (answerer index call asked).2 ∧
    ∀ moment ∈ recorder index call asked, KeepsReserved asked moment.world

theorem Works.keepsReserved {answerer : Answerer} {recorder : Recorder} (respects : Respects answerer recorder)
    {before after : World} {moments : List Moment}
    (works : Works answerer recorder (fun _ _ => False) before moments after) :
    KeepsReserved before after ∧ ∀ moment ∈ moments, KeepsReserved before moment.world :=
  works.lifts KeepsReserved.trans SlotsBut.keepsReserved respects

theorem prepareAs_split (answerer : Answerer) (recorder : Recorder) (world : World) (index : Nat)
    (id : String) (spec : KernelSpec) :
    (prepareAsMoments answerer recorder index id spec world = [] ∧
        ∃ error, prepareAs answerer index id spec world = (.error error, world)) ∨
      world.slot? index id = none ∧ (world.connector? index).isSome ∧ ∃ connector,
        (world.setSlot index id .preparing).connector? index = some connector ∧
        prepareAsMoments answerer recorder index id spec world =
            launchMoments answerer recorder index connector id spec (world.setSlot index id .preparing) ∧
          ((∃ error after, launch answerer index connector id spec
            (world.setSlot index id .preparing) = (.error error, after) ∧
              prepareAs answerer index id spec world = (.error error, after.freeSlot index id)) ∨
            ∃ kernel after, launch answerer index connector id spec
              (world.setSlot index id .preparing) = (.ok kernel, after) ∧
              prepareAs answerer index id spec world = (.ok id, after.enroll index id kernel)) := by
  unfold prepareAsMoments prepareAs
  rcases world.reserve_cases index id with ⟨error, refused⟩ | ⟨_, free, reserved⟩
  · rw [refused]
    exact .inl ⟨rfl, error, rfl⟩
  · rw [reserved]
    simp only
    cases there : (world.setSlot index id .preparing).connector? index with
    | none =>
      rw [setSlot_of_missing there]
      exact .inl ⟨rfl, _, rfl⟩
    | some connector =>
      have known : (world.connector? index).isSome := by
        rw [← isSome_connector?_modifySlots world index index (fun slots => slots.set id .preparing)]
        exact Option.isSome_of_eq_some there
      refine .inr ⟨free, known, connector, rfl, rfl, ?_⟩
      simp only
      rcases launch answerer index connector id spec (world.setSlot index id .preparing) with ⟨error | kernel, after⟩
      · exact .inl ⟨error, after, rfl, rfl⟩
      · exact .inr ⟨kernel, after, rfl, rfl⟩

section
variable {answerer : Answerer} {recorder : Recorder} (respects : Respects answerer recorder)
include respects

theorem prepareAs_respects (index : Nat) (id : String) (spec : KernelSpec) (world : World) :
    KeepsReserved world (prepareAs answerer index id spec world).2 ∧
      ∀ moment ∈ prepareAsMoments answerer recorder index id spec world, KeepsReserved world moment.world := by
  rcases world.prepareAs_split answerer recorder index id spec with
    ⟨silent, error, refused⟩ | ⟨free, _, connector, _, same, outcome⟩
  · rw [silent, refused]
    exact ⟨.refl world, fun moment listed => absurd listed List.not_mem_nil⟩
  · have unreserved : world.slot? index id ≠ some .preparing := by simp [free]
    have reserving := (world.setSlot_slotsBut index id .preparing).keepsReserved_of_ne unreserved
    obtain ⟨ends, during⟩ := (launch_works answerer recorder _ index connector id spec
        (world.setSlot index id .preparing)).keepsReserved respects
    rw [same]
    refine ⟨?_, fun moment listed => reserving.trans (during moment listed)⟩
    rcases outcome with ⟨error, after, failed, result⟩ | ⟨kernel, after, launched, result⟩
    · rw [failed] at ends
      rw [result]
      exact ends.around free (after.freeSlot_slotsBut index id)
    · rw [launched] at ends
      rw [result]
      exact ends.around free (after.enroll_slotsBut index id kernel)

theorem prepare_respects (index : Nat) (name : Option String) (spec : KernelSpec) (world : World) :
    KeepsReserved world (prepare answerer index name spec world).2 ∧
      ∀ moment ∈ prepareMoments answerer recorder index name spec world, KeepsReserved world moment.world := by
  cases name with
  | some id => exact prepareAs_respects respects index id spec world
  | none => exact prepareAs_respects respects index _ spec { world with host := world.host.drawUuid.2 }

theorem restart_respects (index : Nat) (id : String) (world : World) :
    KeepsReserved world (restart answerer index id world).2 ∧
      ∀ moment ∈ restartMoments answerer recorder index id world, KeepsReserved world moment.world := by
  unfold restart restartMoments
  cases world.findKernel index id with
  | error error => exact ⟨.refl world, fun moment listed => absurd listed List.not_mem_nil⟩
  | ok handle => exact (restartKernel_works answerer recorder _ handle world).keepsReserved respects

theorem release_respects (index : Nat) (id : String) (world : World) :
    KeepsReserved world (release answerer index id world).2 ∧
      ∀ moment ∈ releaseMoments answerer recorder index id world, KeepsReserved world moment.world := by
  unfold release releaseMoments takeKernel findKernel
  cases found : world.handle? index id with
  | none => exact ⟨.refl world, fun moment listed => absurd listed List.not_mem_nil⟩
  | some handle =>
    have unreserved : world.slot? index id ≠ some .preparing := by
      simp [(world.handle?_eq_some index id handle).mp found]
    have freeing := (world.freeSlot_slotsBut index id).keepsReserved_of_ne unreserved
    obtain ⟨ends, during⟩ := (releaseKernel_works answerer recorder _ handle (world.freeSlot index id)).keepsReserved
        respects
    exact ⟨freeing.trans ends, fun moment listed => freeing.trans (during moment listed)⟩

theorem releaseEach_respects (index : Nat) (ids : List String) (world : World) :
    KeepsReserved world (releaseEach answerer index ids world).2 ∧
      ∀ moment ∈ releaseEachMoments answerer recorder index ids world, KeepsReserved world moment.world := by
  induction ids generalizing world with
  | nil => exact ⟨.refl world, fun moment listed => absurd listed List.not_mem_nil⟩
  | cons id rest ih =>
    obtain ⟨ends, during⟩ := release_respects respects index id world
    obtain ⟨ends', during'⟩ := ih (release answerer index id world).2
    refine ⟨ends.trans ends', fun moment listed => ?_⟩
    rcases List.mem_append.mp listed with first | later
    · exact during moment first
    · exact ends.trans (during' moment later)

theorem answerWith_respects : Respects (answerWith answerer) (callMoments answerer recorder) := by
  intro index call world
  unfold answerWith callMoments
  by_cases stuck : world.isStuck index call
  · rw [if_pos stuck, if_pos stuck]
    exact ⟨.refl world, fun moment listed => absurd listed List.not_mem_nil⟩
  · rw [if_neg stuck, if_neg stuck]
    have quiet : KeepsReserved world world ∧ ∀ moment ∈ ([] : List Moment), KeepsReserved world moment.world :=
      ⟨.refl world, fun moment listed => absurd listed List.not_mem_nil⟩
    cases call with
    | prepare name spec => exact prepare_respects respects index name spec world
    | restart id => exact restart_respects respects index id world
    | release id => exact release_respects respects index id world
    | releaseAll => exact releaseEach_respects respects index (world.ids index) world
    | contains id => exact quiet
    | ids => exact quiet
    | file id => exact quiet
    | info id live => exact quiet
    | connect id channel identity => exact quiet

end

theorem Respects.between {answerer : Answerer} {inner : Recorder} (respects : Respects answerer inner) :
    Respects answerer (between answerer inner) := by
  intro index call asked
  obtain ⟨ends, during⟩ := respects index call asked
  refine ⟨ends, fun moment listed => ?_⟩
  rcases List.mem_cons.mp listed with rfl | later
  · exact .refl asked
  · rcases List.mem_append.mp later with inside | last
    · exact during moment inside
    · rw [List.mem_singleton.mp last]
      exact ends

/-- Calls end no reservation but their own, however deep they are nested. -/
theorem answer_respects (depth : Nat) : Respects (answer depth) (moments depth) := by
  induction depth with
  | zero =>
    have refuses : Respects (answer 0) (fun _ _ _ => []) :=
      fun _ _ asked => ⟨.refl asked, fun moment listed => absurd listed List.not_mem_nil⟩
    exact refuses.between
  | succ depth ih => exact (answerWith_respects ih).between

/-- The id is taken, and there is no kernel under it. Whoever asks about it changes nothing. -/
structure Withheld (index : Nat) (id : String) (world : World) : Prop where
  reserved : world.slot? index id = some .preparing
  contains : ∀ answerer, answerWith answerer index (.contains id) world = (.flag false, world)
  ids : ∀ answerer, ∃ names, id ∉ names ∧ answerWith answerer index .ids world = (.names names, world)
  info : ∀ answerer live,
    answerWith answerer index (.info id live) world = (.snapshot (.error (.kernelNotFound id)), world)
  file : ∀ answerer, answerWith answerer index (.file id) world = (.text (.error (.kernelNotFound id)), world)
  connect : ∀ answerer channel identity,
    answerWith answerer index (.connect id channel identity) world = (.socket (.error (.kernelNotFound id)), world)
  restart : ∀ answerer, answerWith answerer index (.restart id) world = (.done (.error (.kernelNotFound id)), world)
  release : ∀ answerer, answerWith answerer index (.release id) world = (.done (.error (.kernelNotFound id)), world)
  prepare : ∀ answerer spec,
    answerWith answerer index (.prepare (some id) spec) world = (.text (.error (.kernelExists id)), world)

theorem Reserved.handle? {world : World} {index : Nat} {id : String} (reserved : world.Reserved index id) :
    world.handle? index id = none := by
  simp [World.handle?, reserved.1]

theorem Reserved.findKernel {world : World} {index : Nat} {id : String} (reserved : world.Reserved index id) :
    world.findKernel index id = .error (.kernelNotFound id) := by
  simp [World.findKernel, reserved.handle?]

theorem Reserved.connectionOf {world : World} {index : Nat} {id : String} (reserved : world.Reserved index id) :
    world.connectionOf index id = .error (.kernelNotFound id) := by
  simp [World.connectionOf, reserved.findKernel]

theorem Reserved.not_isBusy {world : World} {index : Nat} {id : String} (reserved : world.Reserved index id) :
    world.isBusy index id = false := by
  simp [isBusy, reserved.handle?]

theorem Reserved.withheld {world : World} {index : Nat} {id : String} (reserved : world.Reserved index id)
    (valid : isValidId id = true) : world.Withheld index id where
  reserved := reserved.1
  contains answerer := by simp [answerWith, isStuck, Call.awaited?, World.contains, reserved.handle?]
  ids answerer := ⟨world.ids index, reserved.2, by simp [answerWith, isStuck, Call.awaited?]⟩
  info answerer live := by
    simp [answerWith, isStuck, Call.awaited?, World.info, Except.map, reserved.not_isBusy, reserved.connectionOf]
  file answerer := by
    simp [answerWith, isStuck, Call.awaited?, connectionFile, reserved.not_isBusy, reserved.connectionOf]
  connect answerer channel identity := by
    simp [answerWith, isStuck, Call.awaited?, connectChannel, reserved.not_isBusy, reserved.connectionOf]
  restart answerer := by
    simp [answerWith, isStuck, Call.awaited?, World.restart, reserved.not_isBusy, reserved.findKernel]
  release answerer := by
    simp [answerWith, isStuck, Call.awaited?, World.release, takeKernel, reserved.not_isBusy, reserved.findKernel]
  prepare answerer spec := by
    have taken : world.reserve index id = (.error (.kernelExists id), world) := by simp [reserve, valid, reserved.1]
    simp [answerWith, isStuck, Call.awaited?, World.prepare, prepareAs, taken]

/-- How a preparation ends for its own id: with the kernel that its launch gave, or with nothing. -/
def Concludes (answerer : Answerer) (index : Nat) (id : String) (spec : KernelSpec) (before : World)
    (outcome : Except Error String × World) : Prop :=
  match outcome.1 with
  | .ok name => name = id ∧ ∃ connector kernel later handle,
      (before.setSlot index id .preparing).connector? index = some connector ∧
        launch answerer index connector id spec (before.setSlot index id .preparing) = (.ok kernel, later) ∧
          outcome.2.slot? index id = some (.ready handle) ∧ outcome.2.kernels.get? handle = some kernel
  | .error _ => outcome.2.slot? index id = none

theorem prepareAs_withholds {answerer : Answerer} {recorder : Recorder} (respects : Respects answerer recorder)
    {world : World} {index : Nat} {id : String} (valid : isValidId id = true) (free : world.slot? index id = none)
    (spec : KernelSpec) :
    (∀ moment ∈ prepareAsMoments answerer recorder index id spec world, moment.world.Withheld index id) ∧
      Concludes answerer index id spec world (prepareAs answerer index id spec world) ∧
        Works answerer recorder (At index id) world (prepareAsMoments answerer recorder index id spec world)
          (prepareAs answerer index id spec world).2 := by
  rcases world.prepareAs_split answerer recorder index id spec with
    ⟨silent, error, refused⟩ | ⟨_, known, connector, there, same, outcome⟩
  · rw [silent, refused]
    exact ⟨fun moment listed => absurd listed List.not_mem_nil, free, .refl world⟩
  · have mine := setSlot_reserved known id
    have works := launch_works answerer recorder (At index id) index connector id spec
        (world.setSlot index id .preparing)
    have launched := works.before (world.setSlot_slotsBut index id .preparing)
    obtain ⟨ends, during⟩ :=
      (launch_works answerer recorder _ index connector id spec (world.setSlot index id .preparing)).keepsReserved
        respects
    rw [same]
    refine ⟨fun moment listed => (during moment listed index id mine).withheld valid, ?_⟩
    rcases outcome with ⟨error, after, answer, result⟩ | ⟨kernel, after, answer, result⟩
    · rw [answer] at launched
      rw [result]
      exact ⟨(after.slot?_freeSlot index id index id).trans (if_pos ⟨rfl, rfl⟩),
        launched.after (after.freeSlot_slotsBut index id)⟩
    · rw [answer] at launched ends
      rw [result]
      have known' := isSome_connector?_of_slot? (ends index id mine).1
      have enrolled := (after.slot?_enroll known' id kernel index id).trans (if_pos ⟨rfl, rfl⟩)
      have stored : (after.enroll index id kernel).kernels.get? after.nextKernel = some kernel :=
        Table.get?_set_self _ _ _
      exact ⟨⟨rfl, connector, kernel, after, after.nextKernel, there, answer, enrolled, stored⟩,
        launched.after (after.enroll_slotsBut index id kernel)⟩

def chooseId (world : World) : Option String → String × World
  | some id => (id, world)
  | none => (world.host.drawUuid.1, { world with host := world.host.drawUuid.2 })

/-- Between the reservation of an id and the end of its preparation, hooks find it taken and no kernel under it,
at every depth of their calls. In the end it stands for the new kernel, or for nothing; whatever happened to
other ids was done by calls of the hooks. -/
theorem prepare_withholds (depth index : Nat) (name : Option String) (spec : KernelSpec) (world : World)
    (reserves : ((world.chooseId name).2.reserve index (world.chooseId name).1).1 = .ok ()) :
    (∀ moment ∈ prepareMoments (answer depth) (moments depth) index name spec world,
        moment.world.Withheld index (world.chooseId name).1) ∧
      Concludes (answer depth) index (world.chooseId name).1 spec (world.chooseId name).2
          (prepare (answer depth) index name spec world) ∧
        Works (answer depth) (moments depth) (At index (world.chooseId name).1) world
          (prepareMoments (answer depth) (moments depth) index name spec world)
          (prepare (answer depth) index name spec world).2 := by
  rcases (world.chooseId name).2.reserve_cases index (world.chooseId name).1 with ⟨error, refused⟩ | ⟨valid, free, _⟩
  · rw [refused] at reserves
    cases reserves
  · obtain ⟨withheld, concludes, works⟩ := prepareAs_withholds (answer_respects depth) valid free spec
    cases name with
    | some id => exact ⟨withheld, concludes, works⟩
    | none =>
      have drawn : SameSlots world { world with host := world.host.drawUuid.2 } := .withHost world _
      exact ⟨withheld, concludes, works.before (drawn.slotsBut _)⟩

def probed : World := (World.addConnector { host := quietHost } (hookedConnector Plugin.probing)).2

theorem prepare_withholds_probing :
    (probed.reserve 0 "a").1 = .ok () ∧ (prepareMoments (answer 1) (moments 1) 0 (some "a") {} probed).length = 16 ∧
      (prepare (answer 1) 0 (some "a") {} probed).1 = .ok "a" ∧
        (∀ moment ∈ prepareMoments (answer 1) (moments 1) 0 (some "a") {} probed, moment.world.Withheld 0 "a") ∧
          Concludes (answer 1) 0 "a" {} probed (prepare (answer 1) 0 (some "a") {} probed) ∧
            Works (answer 1) (moments 1) (At 0 "a") probed
              (prepareMoments (answer 1) (moments 1) 0 (some "a") {} probed)
              (prepare (answer 1) 0 (some "a") {} probed).2 := by
  have reserves : (probed.reserve 0 "a").1 = .ok () := by decide +kernel
  exact ⟨reserves, by decide +kernel, by decide +kernel, prepare_withholds 1 0 (some "a") {} probed reserves⟩

end World
end Mooring
