import Mooring.Proofs.Connector.Enrollment
import Mooring.Proofs.Connector.FileRuns
import Mooring.Proofs.Connector.LocalWork
import Mooring.Proofs.Text.Order

/-! Releasing all kernels of a connector. Each is cleaned up once, in the order of the ids and whatever fails, and no
file is left at a path that it owned. Only a file whose path has come to lead nowhere stays. -/

namespace Mooring

open Host (Place Narrows Adds)

def Hook.Quiet : Hook → Prop
  | .finish _ => True
  | .act action next => (∀ choice call, action ≠ .call choice call) ∧ ∀ reply, (next reply).Quiet

/-- The last cleanup of a kernel makes no calls. -/
def Provisioner.LeavesQuietly : Provisioner → Prop
  | .local_ .. => True
  | .plugin work id .. => (work.cleanup id false).Quiet

namespace Host

theorem LinksApart.all {host : Host} (links : host.LinksApart .ipc) (transport : Transport) :
    host.LinksApart transport :=
  ⟨links.files, fun _ => links.sockets rfl⟩

structure WorksOn (ids : List String) (before after : Host) : Prop where
  narrows : Narrows (fun place => ∃ id ∈ ids, place.getLast? = some (World.fileName id)) before after
  keeps : ∀ other ∉ ids, ∀ place, place.getLast? = some (World.fileName other) →
    before.hasFile place → after.hasFile place
  adds : before.LinksApart .ipc → Adds (fun _ => True) before after

namespace WorksOn
variable {ids more : List String} {first second third : Host}

theorem refl (ids : List String) (host : Host) : host.WorksOn ids host :=
  ⟨.refl host, fun _ _ _ _ there => there, fun _ => .refl host⟩

theorem weaken (works : first.WorksOn ids second) (fewer : ids ⊆ more) : first.WorksOn more second where
  narrows := works.narrows.weaken (fun _ ⟨id, listed, named⟩ => ⟨id, fewer listed, named⟩)
  keeps other absent := works.keeps other (fun listed => absent (fewer listed))
  adds := works.adds

theorem trans (one : first.WorksOn ids second) (two : second.WorksOn ids third) : first.WorksOn ids third where
  narrows := one.narrows.trans two.narrows
  keeps other absent place named there := two.keeps other absent place named (one.keeps other absent place named there)
  adds links := (one.adds links).trans (two.adds (links.adds (one.adds links)))

theorem contentAt (works : first.WorksOn ids second) {other : String} (absent : other ∉ ids) {place : Place}
    (named : place.getLast? = some (World.fileName other)) : second.contentAt place = first.contentAt place := by
  have old {content : Bytes} (reads : second.contentAt place = some content) :
      first.contentAt place = some content := by
    refine (works.narrows.contents place content reads).resolve_left ?_
    rintro ⟨id, listed, same⟩
    cases World.fileName_injective (Option.some.inj (same.symm.trans named))
    exact absent listed
  cases reads : second.contentAt place with
  | some content => exact (old reads).symm
  | none =>
    cases read : first.contentAt place with
    | none => rfl
    | some content =>
      obtain ⟨later, known⟩ := contentAt_of_hasFile (works.keeps other absent place named (hasFile_of_contentAt read))
      cases reads.symm.trans known

theorem noFileAt (works : first.WorksOn ids second) {path : String} (none : first.NoFileAt path)
    (foreign : ∀ id ∈ ids, (Path.names path).getLast? ≠ some (World.fileName id)) : second.NoFileAt path := by
  intro place leads there
  obtain ⟨content, reads⟩ := contentAt_of_hasFile there
  rcases works.narrows.contents place content reads with ⟨id, listed, named⟩ | old
  · exact foreign id listed ((getLast?_of_placeOf? leads).symm.trans named)
  · exact none place (works.narrows.placeOf? leads) (hasFile_of_contentAt old)

theorem lost (works : first.WorksOn ids second) {path : String} (none : second.NoFileAt path) {place : Place}
    (led : first.placeOf? path = some place) (there : second.hasFile place) :
    second.placeOf? path = Option.none ∧ ¬ first.LinksApart .ipc := by
  refine ⟨Option.eq_none_iff_forall_ne_some.mpr (fun other leads => ?_), fun links => ?_⟩
  · cases led.symm.trans (works.narrows.placeOf? leads)
    exact none place leads there
  · exact none place ((works.adds links).placeOf? led) there

end WorksOn
end Host

theorem NarrowsAt.narrows {α : Type} {path : String} {before : Host} {outcome : Except Error α × Host}
    (narrows : NarrowsAt path before outcome) :
    Narrows (fun place => place.getLast? = (Path.names path).getLast?) before outcome.2 := by
  obtain ⟨error | value, after⟩ := outcome
  · exact Narrows.weaken narrows (fun _ none => none.elim)
  · exact Narrows.weaken narrows (fun _ leads => Host.getLast?_of_placeOf? leads)

namespace Connection
variable {connection : Connection} {id : String}

theorem not_ownPlace {other : String} (differs : other ∉ [id]) {place : Place}
    (named : place.getLast? = some (World.fileName other)) : ¬ OwnPlace id place :=
  fun own => differs (List.mem_singleton.mpr (own other named))

theorem IsFor.write_worksOn (isFor : connection.IsFor id) (host : Host) :
    host.WorksOn [id] (connection.write host).2.2 := by
  have spares := isFor.write_spares host
  obtain ⟨path, named, solid⟩ := isFor.solid
  obtain ⟨path', named', last⟩ := isFor
  cases named.symm.trans named'
  have narrows := (write_narrowsAt named solid host).narrows
  exact ⟨narrows.weaken (fun _ same => ⟨id, List.mem_singleton_self id, same.trans last⟩),
    fun _ differs place name => spares.files place (not_ownPlace differs name),
    fun links => (write_addsAt named solid (last ▸ links.files id)).adds⟩

theorem IsFor.cleaned_worksOn (isFor : connection.IsFor id) (host : Host) :
    host.WorksOn [id] (connection.cleaned host) where
  narrows := (connection.cleaned_dwindles host).weaken (fun _ none => none.elim)
  keeps _ differs place name := (isFor.cleanup_spares host).files place (not_ownPlace differs name)
  adds links := Adds.weaken (isFor.cleaned_addsNone (links.all connection.transport)) (fun _ none => none.elim)

def Owns (connection : Connection) (path : String) : Prop :=
  (connection.written = true ∧ connection.file = some path) ∨
    (connection.transport = .ipc ∧ ∃ channel, connection.credentials.ipcPath channel = path)

theorem Owns.cleaned {path : String} (owns : connection.Owns path) (host : Host) :
    (connection.cleaned host).NoFileAt path := by
  rcases owns with ⟨written, named⟩ | ⟨ipc, channel, rfl⟩
  · exact cleaned_noFileAt written named host
  · have same : (connection.cleanupFile host).1.credentials = connection.credentials := by
      unfold cleanupFile
      split <;> rfl
    rw [← same]
    exact cleanupSockets_noFileAt ((connection.cleanupFile_transport host).trans ipc) _ channel

theorem Owns.foreign {path : String} (owns : connection.Owns path) (isFor : connection.IsFor id) {other : String}
    (differs : other ≠ id) : (Path.names path).getLast? ≠ some (World.fileName other) := by
  rcases owns with ⟨-, named⟩ | ⟨-, channel, rfl⟩
  · obtain ⟨path', named', last⟩ := isFor
    cases named.symm.trans named'
    intro same
    exact differs (World.fileName_injective (Option.some.inj (same.symm.trans last)))
  · exact World.socketPath_ne_fileName _ _ other

end Connection

structure Tidies (id : String) (connection : Connection) (world : World) (later : Connection)
    (after : World) : Prop where
  file : later.file = connection.file
  same : World.SameKernels world after
  host : world.host.WorksOn [id] after.host

namespace Tidies
variable {id : String}

theorem of_same (connection : Connection) {world after : World} (same : World.SameKernels world after)
    (host : after.host = world.host) : Tidies id connection world connection after :=
  ⟨rfl, same, host ▸ .refl _ _⟩

theorem trans {first second third : Connection} {one two three : World} (front : Tidies id first one second two)
    (back : Tidies id second two third three) : Tidies id first one third three :=
  ⟨back.file.trans front.file, front.same.trans back.same, front.host.trans back.host⟩

end Tidies

theorem Bench.run_tidies (answerer : Answerer) {hook : Hook} (quiet : hook.Quiet) (bench : Bench) {id : String}
    (isFor : bench.connection.IsFor id) :
    Tidies id bench.connection bench.world (run answerer hook bench).2.connection
      (run answerer hook bench).2.world := by
  induction hook generalizing bench with
  | finish result => exact .of_same _ (.refl _) rfl
  | act action next ih =>
    obtain ⟨calls, rest⟩ := quiet
    have first : Tidies id bench.connection bench.world (bench.perform answerer action).2.connection
        (bench.perform answerer action).2.world := by
      cases action with
      | writeFile => exact ⟨isFor.write_file _, .withHost _ _, isFor.write_worksOn _⟩
      | keepSnapshot live => exact .of_same _ (.refl _) rfl
      | call choice call => exact absurd rfl (calls choice call)
      | tell event => exact .of_same _ (.tell _ event) rfl
    exact first.trans (ih _ (rest _) _ (isFor.congr first.file))

theorem Provisioner.cleanup_tidies (answerer : Answerer) {provisioner : Provisioner} (quiet : provisioner.LeavesQuietly)
    {connection : Connection} {id : String} (isFor : connection.IsFor id) (world : World) :
    Tidies id connection world (provisioner.cleanup answerer connection false world).2.2.1
      (provisioner.cleanup answerer connection false world).2.2.2 := by
  cases provisioner with
  | local_ key state => exact .of_same connection (.setClaims world key _) rfl
  | plugin work kernelId name spec config launches info =>
    have told : Tidies id connection world connection (world.tell (.cleaning kernelId false)) :=
      .of_same connection (.tell world _) rfl
    exact told.trans (Bench.run_tidies answerer quiet ⟨connection, info, world.tell (.cleaning kernelId false)⟩ isFor)

/-- The release of a kernel: the kernel as it was found, and what its cleanup leaves before the files are removed. -/
structure Farewell where
  id : String
  kernel : Kernel
  result : Except Error Unit
  provisioner : Provisioner
  connection : Connection
  world : World

def Farewell.last (farewell : Farewell) : Kernel :=
  ⟨(farewell.connection.cleanupFile farewell.world.host).1, farewell.provisioner, false⟩

namespace World

def farewell? (answerer : Answerer) (index : Nat) (id : String) (world : World) : Option Farewell :=
  (world.handle? index id).bind (fun handle => (world.kernels.get? handle).map (fun kernel =>
    match kernel.provisioner.cleanup answerer kernel.connection false
        ((world.freeSlot index id).setKernel handle { kernel with busy := true }) with
    | (result, provisioner, connection, later) => ⟨id, kernel, result, provisioner, connection, later⟩))

def farewells (answerer : Answerer) (index : Nat) : List String → World → List Farewell
  | [], _ => []
  | id :: rest, world =>
    (world.farewell? answerer index id).toList ++ farewells answerer index rest (release answerer index id world).2

structure Dismisses (index handle : Nat) (farewell : Farewell) (before after : World) : Prop where
  slots : ∀ other name, after.slot? other name =
    if other = index ∧ name = farewell.id then none else before.slot? other name
  kernels : ∀ other, after.kernels.get? other = if other = handle then some farewell.last else before.kernels.get? other
  isFor : farewell.connection.IsFor farewell.id
  works : before.host.WorksOn [farewell.id] farewell.world.host
  host : after.host = farewell.connection.cleaned farewell.world.host

theorem Dismisses.worksOn {index handle : Nat} {farewell : Farewell} {before after : World}
    (dismisses : Dismisses index handle farewell before after) : before.host.WorksOn [farewell.id] after.host := by
  rw [dismisses.host]
  exact dismisses.works.trans (dismisses.isFor.cleaned_worksOn _)

theorem release_dismisses (answerer : Answerer) {world : World} {index : Nat} {id : String}
    {handle : Nat} {kernel : Kernel}
    (ready : world.slot? index id = some (.ready handle)) (there : world.kernels.get? handle = some kernel)
    (isFor : kernel.connection.IsFor id) (quiet : kernel.provisioner.LeavesQuietly) :
    ∃ farewell, world.farewell? answerer index id = some farewell ∧ farewell.id = id ∧ farewell.kernel = kernel ∧
      (release answerer index id world).1 = farewell.result ∧
        Dismisses index handle farewell world (release answerer index id world).2 := by
  have found := (world.handle?_eq_some index id handle).mpr ready
  have freed : (world.freeSlot index id).kernels.get? handle = some kernel := there
  have tidies := kernel.provisioner.cleanup_tidies answerer quiet isFor
    ((world.freeSlot index id).setKernel handle { kernel with busy := true })
  unfold release takeKernel findKernel farewell?
  rw [found]
  simp only [Option.bind_some, there, Option.map_some]
  rw [releaseKernel_of_there answerer freed, Kernel.released]
  generalize kernel.provisioner.cleanup answerer kernel.connection false _ = outcome at tidies ⊢
  obtain ⟨result, provisioner, connection, later⟩ := outcome
  refine ⟨_, rfl, rfl, rfl, rfl, ⟨fun other name => ?_, fun other => ?_, isFor.congr tidies.file, tidies.host, rfl⟩⟩
  · exact (tidies.same.slots other name).trans (slot?_freeSlot world index id other name)
  · have kernels : later.kernels.get? other =
        if other = handle then some { kernel with busy := true } else world.kernels.get? other := by
      rw [tidies.same.kernels]
      exact get?_setKernel _ handle _ other
    refine (get?_setKernel _ handle _ other).trans ?_
    split
    next => rfl
    next elsewhere => exact kernels.trans (if_neg elsewhere)

/-- Ids that are ready, each with a kernel of its own whose cleanup makes no calls. -/
structure Staff (world : World) (index : Nat) (ids : List String) : Prop where
  distinct : ids.Nodup
  ready : ∀ id ∈ ids, ∃ handle kernel, world.slot? index id = some (.ready handle) ∧
    world.kernels.get? handle = some kernel ∧ kernel.connection.IsFor id ∧ kernel.provisioner.LeavesQuietly
  apart : ∀ one two handle, world.slot? index one = some (.ready handle) →
    world.slot? index two = some (.ready handle) →
    one = two

theorem Staff.rest {world after : World} {index : Nat} {farewell : Farewell} {handle : Nat} {rest : List String}
    (staff : world.Staff index (farewell.id :: rest)) (taken : world.slot? index farewell.id = some (.ready handle))
    (dismisses : Dismisses index handle farewell world after) : after.Staff index rest := by
  obtain ⟨gone, distinct⟩ := List.nodup_cons.mp staff.distinct
  have before {id : String} {other : Nat} (still : after.slot? index id = some (.ready other)) :
      world.slot? index id = some (.ready other) := by
    rw [dismisses.slots] at still
    split at still
    next => cases still
    next => exact still
  refine ⟨distinct, fun id listed => ?_,
    fun one two other first second => staff.apart one two other (before first) (before second)⟩
  obtain ⟨other, kernel, ready, there, facts⟩ := staff.ready id (List.mem_cons_of_mem _ listed)
  have differs : id ≠ farewell.id := fun same => gone (same ▸ listed)
  have elsewhere : other ≠ handle := fun same => differs (staff.apart id farewell.id handle (same ▸ ready) taken)
  refine ⟨other, kernel, ?_, ?_, facts⟩
  · rw [dismisses.slots, if_neg (fun both => differs both.2)]
    exact ready
  · rw [dismisses.kernels, if_neg elsewhere]
    exact there

structure DismissesEach (index : Nat) (ids : List String) (farewells : List Farewell) (before : World)
    (result : Except Error Unit) (after : World) : Prop where
  inOrder : farewells.map Farewell.id = ids
  kernels : ∀ farewell ∈ farewells, ∃ handle, before.slot? index farewell.id = some (.ready handle) ∧
    before.kernels.get? handle = some farewell.kernel ∧ after.kernels.get? handle = some farewell.last
  others : ∀ handle, (∀ id ∈ ids, before.slot? index id ≠ some (.ready handle)) →
    after.kernels.get? handle = before.kernels.get? handle
  slots : ∀ other name, after.slot? other name = if other = index ∧ name ∈ ids then none else before.slot? other name
  result : result = (farewells.map Farewell.result).foldr firstError (.ok ())
  works : before.host.WorksOn ids after.host
  files : ∀ farewell ∈ farewells, ∀ path, farewell.connection.Owns path → after.host.NoFileAt path

theorem DismissesEach.nil (index : Nat) (world : World) : DismissesEach index [] [] world (.ok ()) world where
  inOrder := rfl
  kernels _ listed := absurd listed List.not_mem_nil
  others _ _ := rfl
  slots _ _ := by simp
  result := rfl
  works := .refl _ _
  files _ listed := absurd listed List.not_mem_nil

theorem DismissesEach.cons {index handle : Nat} {rest : List String} {farewell : Farewell} {farewells : List Farewell}
    {first second third : World} {results : Except Error Unit} (staff : first.Staff index (farewell.id :: rest))
    (taken : first.slot? index farewell.id = some (.ready handle))
    (there : first.kernels.get? handle = some farewell.kernel) (one : Dismisses index handle farewell first second)
    (more : DismissesEach index rest farewells second results third) :
    DismissesEach index (farewell.id :: rest) (farewell :: farewells) first
      (firstError farewell.result results) third := by
  obtain ⟨gone, -⟩ := List.nodup_cons.mp staff.distinct
  have kept {id : String} {other : Nat} (ready : second.slot? index id = some (.ready other)) :
      id ≠ farewell.id ∧ first.slot? index id = some (.ready other) := by
    rw [one.slots] at ready
    split at ready
    next => cases ready
    next elsewhere => exact ⟨fun same => elsewhere ⟨rfl, same⟩, ready⟩
  have foreign {id : String} {other : Nat} (ready : second.slot? index id = some (.ready other)) : other ≠ handle := by
    obtain ⟨differs, before⟩ := kept ready
    exact fun same => differs (staff.apart id farewell.id handle (same ▸ before) taken)
  refine ⟨congrArg (farewell.id :: ·) more.inOrder, fun other listed => ?_, fun other free => ?_, fun other name => ?_,
    congrArg (firstError farewell.result) more.result, ?_, fun other listed path owns => ?_⟩
  · rcases List.mem_cons.mp listed with rfl | listed
    · refine ⟨handle, taken, there, ?_⟩
      rw [more.others handle (fun id _ ready => foreign ready rfl), one.kernels, if_pos rfl]
    · obtain ⟨held, ready, known, last⟩ := more.kernels other listed
      rw [one.kernels, if_neg (foreign ready)] at known
      exact ⟨held, (kept ready).2, known, last⟩
  · have elsewhere : other ≠ handle := fun same => free farewell.id List.mem_cons_self (same ▸ taken)
    rw [more.others other (fun id listed ready => free id (List.mem_cons_of_mem _ listed) (kept ready).2), one.kernels,
      if_neg elsewhere]
  · rw [more.slots, one.slots]
    by_cases here : other = index <;> by_cases same : name = farewell.id <;> simp [here, same]
  · exact (one.worksOn.weaken (List.cons_subset_cons _ (List.nil_subset rest))).trans
      (more.works.weaken (List.subset_cons_self _ rest))
  · rcases List.mem_cons.mp listed with rfl | listed
    · refine more.works.noFileAt (one.host ▸ owns.cleaned _) (fun id among => owns.foreign one.isFor ?_)
      exact fun same => gone (same ▸ among)
    · exact more.files other listed path owns

/-- Releasing one kernel after another goes on whatever fails. -/
theorem releaseEach_dismisses (answerer : Answerer) (index : Nat) {ids : List String} {world : World}
    (staff : world.Staff index ids) :
    DismissesEach index ids (world.farewells answerer index ids) world (releaseEach answerer index ids world).1
      (releaseEach answerer index ids world).2 := by
  induction ids generalizing world with
  | nil => exact .nil index world
  | cons id rest ih =>
    obtain ⟨handle, kernel, ready, there, isFor, quiet⟩ := staff.ready id List.mem_cons_self
    obtain ⟨farewell, found, rfl, rfl, result, dismisses⟩ := release_dismisses answerer ready there isFor quiet
    have more := ih (staff.rest ready dismisses)
    unfold releaseEach farewells
    rw [found]
    generalize release answerer index farewell.id world = outcome at result dismisses more ⊢
    obtain ⟨done, after⟩ := outcome
    cases result
    exact .cons staff ready there dismisses more

theorem firstError_eq_ok (one two : Except Error Unit) : firstError one two = .ok () ↔ one = .ok () ∧ two = .ok () := by
  cases one <;> simp [firstError]

theorem results_eq_ok (farewells : List Farewell) :
    (farewells.map Farewell.result).foldr firstError (.ok ()) = .ok () ↔
    ∀ farewell ∈ farewells, farewell.result = .ok () := by
  induction farewells with
  | nil => simp
  | cons farewell rest ih =>
    rw [List.map_cons, List.foldr_cons, firstError_eq_ok, ih, List.forall_mem_cons]

theorem results_eq_error {farewells : List Farewell}
    (order : (farewells.map Farewell.id).Pairwise (· < ·)) (error : Error) :
    (farewells.map Farewell.result).foldr firstError (.ok ()) = .error error ↔
      ∃ farewell ∈ farewells, farewell.result = .error error ∧
        ∀ other ∈ farewells, other.id < farewell.id → other.result = .ok () := by
  induction farewells with
  | nil => simp
  | cons farewell rest ih =>
    obtain ⟨first, order⟩ := List.pairwise_cons.mp order
    have smallest {other : Farewell} (listed : other ∈ rest) : farewell.id < other.id :=
      first other.id (List.mem_map_of_mem listed)
    rw [List.map_cons, List.foldr_cons]
    cases result : farewell.result with
    | error own =>
      constructor
      · intro same
        cases same
        refine ⟨farewell, List.mem_cons_self, result, fun other listed less => ?_⟩
        rcases List.mem_cons.mp listed with rfl | listed
        · exact absurd less (String.lt_irrefl _)
        · exact absurd less (String.lt_asymm (smallest listed))
      · rintro ⟨other, listed, failed, before⟩
        rcases List.mem_cons.mp listed with rfl | listed
        · exact result.symm.trans failed
        · cases result.symm.trans (before farewell List.mem_cons_self (smallest listed))
    | ok =>
      rw [show firstError (.ok ()) (List.foldr firstError (.ok ()) (rest.map Farewell.result)) =
        List.foldr firstError (.ok ()) (rest.map Farewell.result) from rfl, ih order]
      constructor
      · rintro ⟨other, listed, failed, before⟩
        refine ⟨other, List.mem_cons_of_mem _ listed, failed, fun another among less => ?_⟩
        rcases List.mem_cons.mp among with rfl | among
        · exact result
        · exact before another among less
      · rintro ⟨other, listed, failed, before⟩
        rcases List.mem_cons.mp listed with rfl | listed
        · cases result.symm.trans failed
        · exact ⟨other, listed, failed, fun another among => before another (List.mem_cons_of_mem _ among)⟩

namespace Enrolled
variable {world : World}

theorem mem_ids_iff (law : world.Enrolled) (index : Nat) (id : String) :
    id ∈ world.ids index ↔ ∃ handle, world.slot? index id = some (.ready handle) := by
  refine ⟨fun listed => ?_, fun ⟨handle, taken⟩ => mem_ids_of_ready taken⟩
  obtain ⟨slots, there, handle, row⟩ := (world.mem_ids index id).mp listed
  obtain ⟨connector, known, rfl⟩ := Option.map_eq_some_iff.mp there
  refine ⟨handle, ?_⟩
  rw [slot?, known]
  exact Table.get?_of_row (law.distinct index connector known) row

theorem ids_ascending (law : world.Enrolled) (index : Nat) : (world.ids index).Pairwise (· < ·) := by
  unfold ids
  cases known : world.connector? index with
  | none => exact List.Pairwise.nil
  | some connector =>
    refine Text.pairwise_lt_mergeSort (List.Pairwise.filterMap _ (fun one two differs name first other second => ?_)
      (List.pairwise_map.mp (law.distinct index connector known)))
    split at first
    next =>
      split at second
      next =>
        cases first
        cases second
        exact differs
      next => cases second
    next => cases first

end Enrolled

/-- All kernels of a connector are released. Each that is ready is cleaned up once, in ascending order, and what the
others have stays. The result is that of the smallest id whose cleanup fails. No file is left at a path of those that
go. If one stays that such a path led to, the way there is lost, which takes a link that is called like a file of a
kernel. -/
structure ReleasesAll (index : Nat) (farewells : List Farewell) (before : World) (result : Except Error Unit)
    (after : World) : Prop where
  order : (farewells.map Farewell.id).Pairwise (· < ·)
  everybody : ∀ id, id ∈ farewells.map Farewell.id ↔ ∃ handle, before.slot? index id = some (.ready handle)
  once : ∀ farewell ∈ farewells, ∃ handle, before.slot? index farewell.id = some (.ready handle) ∧
    before.kernels.get? handle = some farewell.kernel ∧ after.kernels.get? handle = some farewell.last
  noneReady : ∀ id handle, after.slot? index id ≠ some (.ready handle)
  slots : ∀ other id, ¬ (other = index ∧ ∃ handle, before.slot? index id = some (.ready handle)) →
    after.slot? other id = before.slot? other id
  kernels : ∀ handle, (∀ id, before.slot? index id ≠ some (.ready handle)) →
    after.kernels.get? handle = before.kernels.get? handle
  contents : ∀ id ∉ farewells.map Farewell.id, ∀ place, place.getLast? = some (fileName id) →
    after.host.contentAt place = before.host.contentAt place
  ok : result = .ok () ↔ ∀ farewell ∈ farewells, farewell.result = .ok ()
  error : ∀ error, result = .error error ↔ ∃ farewell ∈ farewells, farewell.result = .error error ∧
    ∀ other ∈ farewells, other.id < farewell.id → other.result = .ok ()
  gone : ∀ farewell ∈ farewells, ∀ path, farewell.connection.Owns path → after.host.NoFileAt path
  lost : ∀ farewell ∈ farewells, ∀ path, farewell.connection.Owns path →
    ∀ place, before.host.placeOf? path = some place →
    after.host.hasFile place → after.host.placeOf? path = none ∧ ¬ before.host.LinksApart .ipc

theorem Enrolled.staff {world : World} (law : world.Enrolled) {index : Nat}
    (quiet : ∀ id handle kernel, world.slot? index id = some (.ready handle) → world.kernels.get? handle = some kernel →
      kernel.provisioner.LeavesQuietly) : world.Staff index (world.ids index) where
  distinct := (law.ids_ascending index).imp ne_of_lt
  ready id listed := by
    obtain ⟨handle, taken⟩ := (law.mem_ids_iff index id).mp listed
    obtain ⟨kernel, there, isFor⟩ := law.ready index id handle taken
    exact ⟨handle, kernel, taken, there, isFor, quiet id handle kernel taken there⟩
  apart one two handle first second := (law.unique index one index two handle first second).2

/-- In every state that a process comes through, if the cleanups of the ready kernels make no calls. -/
theorem releaseAll_releases {depth : Nat} {host : Host} {moves : List Move} (empty : OpensEmpty moves) {world : World}
    (reached : world.Reached depth host moves) (index : Nat)
    (quiet : ∀ id handle kernel, world.slot? index id = some (.ready handle) → world.kernels.get? handle = some kernel →
      kernel.provisioner.LeavesQuietly) (answerer : Answerer) :
    ReleasesAll index (world.farewells answerer index (world.ids index)) world (releaseAll answerer index world).1
      (releaseAll answerer index world).2 := by
  have law := reached.enrolled empty
  have dismisses := releaseEach_dismisses answerer index (law.staff quiet)
  have order : ((world.farewells answerer index (world.ids index)).map Farewell.id).Pairwise (· < ·) := by
    rw [dismisses.inOrder]
    exact law.ids_ascending index
  unfold releaseAll
  generalize world.farewells answerer index (world.ids index) = farewells at dismisses order ⊢
  refine ⟨order, fun id => ?_, dismisses.kernels, fun id handle taken => ?_, fun other id elsewhere => ?_,
    fun handle free => ?_, fun id absent place named => ?_, ?_, fun error => ?_, dismisses.files,
    fun farewell listed path owns place led there => ?_⟩
  · rw [dismisses.inOrder, law.mem_ids_iff]
  · rw [dismisses.slots] at taken
    split at taken
    next => cases taken
    next ready => exact ready ⟨rfl, mem_ids_of_ready taken⟩
  · rw [dismisses.slots, if_neg (fun both => elsewhere ⟨both.1, (law.mem_ids_iff index id).mp both.2⟩)]
  · exact dismisses.others handle (fun id _ => free id)
  · rw [dismisses.inOrder] at absent
    exact dismisses.works.contentAt absent named
  · rw [dismisses.result]
    exact results_eq_ok farewells
  · rw [dismisses.result]
    exact results_eq_error order error
  · exact dismisses.works.lost (dismisses.files farewell listed path owns) led there

def leavesAtOnce (kernel : Kernel) : Bool :=
  match kernel.provisioner with
  | .local_ .. => true
  | .plugin work id .. =>
    match work.cleanup id false with
    | .finish _ => true
    | .act .. => false

theorem leavesQuietly_of_leavesAtOnce {kernel : Kernel} (atOnce : leavesAtOnce kernel = true) :
    kernel.provisioner.LeavesQuietly := by
  unfold leavesAtOnce at atOnce
  split at atOnce
  next same =>
    rw [same]
    exact trivial
  next same =>
    rw [same]
    split at atOnce
    next ends =>
      unfold Provisioner.LeavesQuietly
      simp only
      rw [ends]
      exact trivial
    next => cases atOnce

theorem ids_of_sorted {world : World} {index : Nat} {connector : Connector}
    (known : world.connector? index = some connector)
    {slots : List (String × Nat)} (rows : connector.slots.rows = slots.map (fun row => (row.1, .ready row.2)))
    (sorted : (slots.map Prod.fst).Pairwise (· ≤ ·)) : world.ids index = slots.map Prod.fst := by
  unfold ids
  rw [known]
  simp only
  rw [rows, List.filterMap_map]
  have listed : List.filterMap (fun row : String × Nat => some row.1) slots = slots.map Prod.fst :=
    congrFun List.filterMap_eq_map slots
  refine (congrArg (fun names : List String => names.mergeSort (fun one two => decide (one ≤ two))) listed).trans ?_
  exact List.mergeSort_of_pairwise (sorted.imp decide_eq_true)

def threeMoves : List Move :=
  [.open_ (hookedConnector (Plugin.failingCleanup Plugin.recording)), .call 0 (.prepare (some "c") {}),
    .call 0 (.prepare (some "b") {}), .call 0 (.prepare (some "a") localSpec)]

def three : World :=
  run (answer 0)
    { host := Host.Isolated.machine [["run"]] [11, 12, 13, 14, 15, 16, 17, 18, 19, 20, 21, 22, 23, 24, 25] } threeMoves

theorem three_ids : three.ids 0 = ["a", "b", "c"] := by
  have rows : (three.connector? 0).map (fun connector => connector.slots.rows) =
      some [("a", .ready 2), ("b", .ready 1), ("c", .ready 0)] := by decide +kernel
  obtain ⟨connector, known, rows⟩ := Option.map_eq_some_iff.mp rows
  exact @ids_of_sorted _ _ _ known [("a", 2), ("b", 1), ("c", 0)] rows (by decide)

theorem releaseAll_releases_failing :
    ReleasesAll 0 (three.farewells (answer 0) 0 (three.ids 0)) three (releaseAll (answer 0) 0 three).1
        (releaseAll (answer 0) 0 three).2 ∧
      (releaseAll (answer 0) 0 three).1 = .error (.invalidState "cleanup of b failed") ∧
        ∀ id ∈ ["a", "b", "c"], three.host.hasFile ["run", fileName id] ∧
          ¬ (releaseAll (answer 0) 0 three).2.host.hasFile ["run", fileName id] := by
  have empty : OpensEmpty threeMoves := by
    intro connector listed id
    simp only [threeMoves, List.mem_cons, List.not_mem_nil, or_false, reduceCtorEq, Move.open_.injEq] at listed
    rw [listed]
    rfl
  have quiet : ∀ row ∈ three.kernels.rows, leavesAtOnce row.2 = true := by decide +kernel
  refine ⟨releaseAll_releases empty (.inl rfl) 0 (fun id handle kernel _ there => ?_) (answer 0), ?_⟩
  · exact leavesQuietly_of_leavesAtOnce (quiet _ (Table.row_listed there))
  · unfold releaseAll
    rw [three_ids]
    decide +kernel

def behindLink : World :=
  run (answer 0)
    { host := (Host.Isolated.machine [["run"], ["run", "sub"]] [11, 12, 13, 14, 15, 16, 17, 18, 19, 20]).withNode
        ["run", "kernel-b.json"] (.link "sub") }
    [.open_ { plainConnector with directory := "/run/kernel-b.json/.." }, .call 0 (.prepare (some "a") {})]

def linkGone : World := behindLink.run (answer 0) [.call 0 (.prepare (some "b") {})]

theorem linkGone_ids : linkGone.ids 0 = ["a"] := by
  have rows : (linkGone.connector? 0).map (fun connector => connector.slots.rows) = some [("a", .ready 0)] := by
    decide +kernel
  obtain ⟨connector, known, rows⟩ := Option.map_eq_some_iff.mp rows
  exact @ids_of_sorted _ _ _ known [("a", 0)] rows (List.pairwise_singleton _ _)

/-- The kernel still counts its file as its own. Everything is released without an error, and the file stays. -/
theorem releaseAll_leaves_file :
    behindLink.host.placeOf? "/run/kernel-b.json/../kernel-a.json" = some ["run", "kernel-a.json"] ∧
      behindLink.host.hasFile ["run", "kernel-a.json"] ∧
      (linkGone.slot? 0 "a" = some (.ready 0) ∧ ∃ kernel ∈ linkGone.kernels.get? 0, kernel.provisioner.IsLocal ∧
        kernel.connection.written = true ∧ kernel.connection.file = some "/run/kernel-b.json/../kernel-a.json") ∧
      (releaseAll (answer 0) 0 linkGone).1 = .ok () ∧ (releaseAll (answer 0) 0 linkGone).2.slot? 0 "a" = none ∧
        (releaseAll (answer 0) 0 linkGone).2.host.hasFile ["run", "kernel-a.json"] := by
  unfold releaseAll
  rw [linkGone_ids]
  decide +kernel

end World
end Mooring
