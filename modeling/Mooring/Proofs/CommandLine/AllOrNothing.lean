import Mooring.CommandLine.Run
import Mooring.Proofs.Connector.Batches

/-! Preparing several kernels for a command. Either all of them are ready, or none is and the claims are as before.
A file of theirs is left only where the path to it was lost while they were prepared. -/

namespace Mooring

open Host (NoFileAt Dwindles)

def Host.NothingNew (before after : Host) : Prop :=
  ∀ place content, after.contentAt place = some content → before.contentAt place = some content

namespace World.Batch
variable {index : Nat} {spec : KernelSpec} {original : Connector} {start world : World}

theorem connectionFile (batch : Batch index spec original start world) {id : String}
    (taken : (world.slot? index id).isSome) :
    world.connectionFile index id = .ok (original.kernelPath id) := by
  obtain ⟨slot, known⟩ := Option.isSome_iff_exists.mp taken
  obtain ⟨handle, kernel, rfl, there, owns, _⟩ := batch.ready id slot known
  have found : world.findKernel index id = .ok handle := by
    unfold findKernel
    rw [(world.handle?_eq_some index id handle).mpr known]
  simp [World.connectionFile, connectionOf, found, there, owns.file]

theorem contains (batch : Batch index spec original start world) (id : String) :
    world.contains index id = true ↔ (world.slot? index id).isSome := by
  unfold World.contains handle?
  cases taken : world.slot? index id with
  | none => rfl
  | some slot =>
    obtain ⟨handle, _, rfl, _⟩ := batch.ready id slot taken
    rfl

/-- Once the files of all kernels are removed at their paths, there is nothing new, or none of the paths leads
anywhere any more. -/
theorem nothingNew (batch : Batch index spec original start world) {failed last : Host}
    (misses : Misses original.transport world.host failed) (dwindles : Dwindles failed last)
    (gone : ∀ id, (world.slot? index id).isSome → last.NoFileAt (original.kernelPath id)) :
    start.host.NothingNew last ∨
      (∃ id, (world.slot? index id).isSome) ∧
        ∀ id, (world.slot? index id).isSome → last.placeOf? (original.kernelPath id) = none := by
  have turns := misses.turns.before dwindles
  refine or_iff_not_imp_right.mpr (fun found place content reads => ?_)
  refine (batch.contents place content ((turns.contents place content reads).resolve_left not_false)).resolve_right ?_
  rintro ⟨id, taken, leads⟩
  refine found ⟨⟨id, taken⟩, fun other taken' => Option.eq_none_iff_forall_ne_some.mpr (fun end_ stands => ?_)⟩
  obtain ⟨slot, known⟩ := Option.isSome_iff_exists.mp taken
  obtain ⟨slot', known'⟩ := Option.isSome_iff_exists.mp taken'
  -- One path that still leads somewhere shows the directory, and with it all the files.
  have still := turns.placeOf?_sibling (fileName_solid id) (fileName_whole (batch.valid id slot known))
    (fileName_solid other) (fileName_whole (batch.valid other slot' known')) leads stands
  exact gone id taken place still (Host.hasFile_of_contentAt reads)

theorem nothingNew_of_links (batch : Batch index spec original start world) {failed last : Host}
    (misses : Misses original.transport world.host failed) (dwindles : Dwindles failed last)
    (gone : ∀ id, (world.slot? index id).isSome → last.NoFileAt (original.kernelPath id))
    (links : start.host.LinksApart original.transport)
    (adds : failed.LinksApart original.transport → Host.AddsNone failed last) : start.host.NothingNew last := by
  refine (batch.nothingNew misses dwindles gone).resolve_right ?_
  rintro ⟨⟨id, taken⟩, lost⟩
  obtain ⟨slot, known⟩ := Option.isSome_iff_exists.mp taken
  obtain ⟨place, leads, _⟩ := batch.stands id slot known
  have links' := links.adds (batch.adds links)
  have failing := misses.adds links'
  have still := (adds (links'.adds failing)).placeOf? (failing.placeOf? leads)
  rw [lost id taken] at still
  cases still

end World.Batch

namespace CommandLine

open World (Batch Misses Untouched)

def Answers (connector : Connector) (entry : Option String) (kernel : String × String) : Prop :=
  (∀ id, entry = some id → kernel.1 = id) ∧ kernel.2 = connector.kernelPath kernel.1

theorem path_of_answers {connector : Connector} {ids : List (Option String)} {kernels : List (String × String)}
    (inOrder : List.Forall₂ (Answers connector) ids kernels) :
    ∀ kernel ∈ kernels, kernel.2 = connector.kernelPath kernel.1 := by
  induction inOrder with
  | nil => exact fun _ listed => absurd listed List.not_mem_nil
  | cons answers _ ih =>
    intro kernel listed
    rcases List.mem_cons.mp listed with rfl | later
    · exact answers.2
    · exact ih kernel later

section
variable {index : Nat} {spec : KernelSpec} {original : Connector} {start world after : World}

theorem prepareOne_batch (batch : Batch index spec original start world) (entry : Option String) :
    match prepareOne index spec entry world with
    | (.ok kernel, after) => Answers original entry kernel ∧ world.slot? index kernel.1 = none ∧
        Batch index spec original start after ∧
          ∀ id, (after.slot? index id).isSome ↔ id = kernel.1 ∨ (world.slot? index id).isSome
    | (.error error, after) => world.prepare answerer index entry spec = (.error error, after) := by
  have prepared := batch.prepare answerer entry
  unfold prepareOne
  generalize world.prepare answerer index entry spec = outcome at prepared ⊢
  obtain ⟨result, after⟩ := outcome
  cases result with
  | error error => rfl
  | ok id =>
    obtain ⟨asked, free, batch', slots⟩ := prepared
    simp only
    rw [batch'.connectionFile ((slots id).mpr (.inl rfl))]
    exact ⟨⟨asked, rfl⟩, free, batch', slots⟩

theorem prepareEach_ok (batch : Batch index spec original start world) {ids : List (Option String)}
    {kernels : List (String × String)} (done : prepareEach index spec ids world = (.ok kernels, after)) :
    Batch index spec original start after ∧ List.Forall₂ (Answers original) ids kernels ∧
      (kernels.map Prod.fst).Nodup ∧ (∀ id ∈ kernels.map Prod.fst, world.slot? index id = none) ∧
        ∀ id, (after.slot? index id).isSome ↔ id ∈ kernels.map Prod.fst ∨ (world.slot? index id).isSome := by
  induction ids generalizing world kernels with
  | nil =>
    cases done
    exact ⟨batch, .nil, List.nodup_nil, fun id listed => absurd listed List.not_mem_nil, fun id => by simp⟩
  | cons entry rest ih =>
    have first := prepareOne_batch batch entry
    unfold prepareEach at done
    generalize prepareOne index spec entry world = outcome at first done
    obtain ⟨result, between⟩ := outcome
    cases result with
    | error error => cases done
    | ok kernel =>
      obtain ⟨answers, free, batch', slots⟩ := first
      simp only at done
      split at done
      next => cases done
      next others last more =>
        cases done
        obtain ⟨whole, inOrder, nodup, absent, listed⟩ := ih batch' more
        refine ⟨whole, .cons answers inOrder, ?_, ?_, fun id => ?_⟩
        · refine List.nodup_cons.mpr ⟨fun among => ?_, nodup⟩
          have taken := (slots kernel.1).mpr (.inl rfl)
          rw [absent _ among] at taken
          cases taken
        · intro id among
          rcases List.mem_cons.mp among with rfl | later
          · exact free
          · have vacant := absent id later
            by_contra taken
            have still := (slots id).mpr (.inr (Option.isSome_iff_ne_none.mpr taken))
            rw [vacant] at still
            cases still
        · rw [listed, slots, List.map_cons, List.mem_cons]
          tauto

/-- The error is that of the first entry whose kernel cannot be prepared. -/
theorem prepareEach_error (batch : Batch index spec original start world) {ids : List (Option String)} {error : Error}
    (failed : prepareEach index spec ids world = (.error error, after)) :
    ∃ earlier entry later kernels between, ids = earlier ++ entry :: later ∧
      prepareEach index spec earlier world = (.ok kernels, between) ∧
        between.prepare answerer index entry spec = (.error error, after) := by
  induction ids generalizing world with
  | nil => cases failed
  | cons entry rest ih =>
    have first := prepareOne_batch batch entry
    unfold prepareEach at failed
    cases one : prepareOne index spec entry world with
    | mk result between =>
      rw [one] at first failed
      cases result with
      | error error' =>
        cases failed
        exact ⟨[], entry, rest, [], world, rfl, rfl, first⟩
      | ok kernel =>
        obtain ⟨_, _, batch', _⟩ := first
        simp only at failed
        split at failed
        next error' last more =>
          cases failed
          obtain ⟨earlier, entry', later, kernels, middle, same, before, stopped⟩ := ih batch' more
          refine ⟨entry :: earlier, entry', later, kernel :: kernels, middle, by rw [same]; rfl, ?_, stopped⟩
          simp only [prepareEach, one, before]
        next => cases failed

end

/-- Each entry has its own kernel, all of them are ready with their files, and there are no others. -/
structure AllReady (index : Nat) (connector : Connector) (ids : List (Option String)) (kernels : List (String × String))
    (after : World) : Prop where
  inOrder : List.Forall₂ (Answers connector) ids kernels
  distinct : (kernels.map Prod.fst).Nodup
  ready : ∀ id, after.contains index id = true ↔ id ∈ kernels.map Prod.fst
  files : ∀ kernel ∈ kernels, after.connectionFile index kernel.1 = .ok kernel.2 ∧
    ∃ place, after.host.placeOf? kernel.2 = some place ∧ after.host.hasFile place

/-- No kernel is left of those that were prepared, and no port of theirs. No file is left at any of their paths, nor
anywhere else, unless none of the paths leads anywhere any more; and they all do where no link was in the way. -/
structure RolledBack (index : Nat) (connector : Connector) (kernels : List (String × String)) (before after : World) :
    Prop where
  none : ∀ id, after.slot? index id = none
  ids : after.ids index = []
  claims : ∀ key port, port ∈ (after.claimsOf key).ports ↔ port ∈ (before.claimsOf key).ports
  gone : ∀ kernel ∈ kernels, after.host.NoFileAt kernel.2
  files : before.host.NothingNew after.host ∨
    kernels ≠ [] ∧ ∀ kernel ∈ kernels, after.host.placeOf? kernel.2 = .none
  linkless : before.host.LinksApart connector.transport → before.host.NothingNew after.host

section
variable {index : Nat} {spec : KernelSpec} {connector : Connector} {world after : World}
    {kernels : List (String × String)}
  (batch : Batch index spec connector world world) (none : ∀ id, world.slot? index id = none)
include batch none

theorem prepareEach_ready {ids : List (Option String)}
    (done : prepareEach index spec ids world = (.ok kernels, after)) :
    AllReady index connector ids kernels after := by
  obtain ⟨batch', inOrder, distinct, _, slots⟩ := prepareEach_ok batch done
  have taken (id : String) : (after.slot? index id).isSome ↔ id ∈ kernels.map Prod.fst := by
    rw [slots, none]
    simp
  refine ⟨inOrder, distinct, fun id => (batch'.contains id).trans (taken id), fun kernel listed => ?_⟩
  have known := (taken kernel.1).mpr (List.mem_map_of_mem listed)
  obtain ⟨slot, there⟩ := Option.isSome_iff_exists.mp known
  rw [path_of_answers inOrder kernel listed]
  exact ⟨batch'.connectionFile known, batch'.stands kernel.1 slot there⟩

theorem prepareEach_rolledBack {earlier : List (Option String)} {entry : Option String} {error : Error} {failed : World}
    (done : prepareEach index spec earlier world = (.ok kernels, after))
    (stopped : after.prepare answerer index entry spec = (.error error, failed)) :
    RolledBack index connector kernels world (failed.releaseAll answerer index).2 := by
  obtain ⟨batch', inOrder, _, _, slots⟩ := prepareEach_ok batch done
  have prepared := batch'.prepare answerer entry
  rw [stopped] at prepared
  obtain ⟨untouched, misses⟩ := prepared
  obtain ⟨free, claims, gone, dwindles, adds⟩ := (batch'.toHolding.untouched untouched).releaseAll answerer
  have taken (id : String) : (after.slot? index id).isSome ↔ id ∈ kernels.map Prod.fst := by
    rw [slots, none]
    simp
  have paths := path_of_answers inOrder
  have removed (id : String) (known : (after.slot? index id).isSome) :
      (failed.releaseAll answerer index).2.host.NoFileAt (connector.kernelPath id) :=
    gone id (untouched.slots.slot? index id ▸ known)
  refine ⟨free, World.ids_eq_nil free, claims, fun kernel listed => ?_, ?_, fun links => ?_⟩
  · rw [paths kernel listed]
    exact removed kernel.1 ((taken kernel.1).mpr (List.mem_map_of_mem listed))
  · refine (batch'.nothingNew misses dwindles removed).imp_right ?_
    rintro ⟨⟨id, known⟩, lost⟩
    refine ⟨?_, fun kernel listed => ?_⟩
    · rintro rfl
      exact absurd ((taken id).mp known) List.not_mem_nil
    · rw [paths kernel listed]
      exact lost kernel.1 ((taken kernel.1).mpr (List.mem_map_of_mem listed))
  · exact batch'.nothingNew_of_links misses dwindles removed links adds

end

/-- Preparing several kernels ends with all of them, or with the error of the first that cannot be prepared and with
none of those before it. -/
theorem prepareKernels_all_or_nothing {world : World} {index : Nat} {connector : Connector} {spec : KernelSpec}
    (known : world.connector? index = some connector) (empty : ∀ id, connector.slots.get? id = none)
    (offers : connector.registry.OffersBuiltin spec) (ids : List (Option String)) :
    (∀ kernels after, prepareKernels index spec ids world = (.ok kernels, after) →
      AllReady index connector ids kernels after) ∧
    ∀ error after, prepareKernels index spec ids world = (.error error, after) →
      ∃ earlier entry later kernels between, ids = earlier ++ entry :: later ∧
        prepareEach index spec earlier world = (.ok kernels, between) ∧
          (between.prepare answerer index entry spec).1 = .error error ∧
            RolledBack index connector kernels world after := by
  have none (id : String) : world.slot? index id = .none := by
    unfold World.slot?
    rw [known]
    exact empty id
  have batch : Batch index spec connector world world := .empty ⟨connector, known, rfl, rfl, rfl, offers⟩ none
  unfold prepareKernels
  cases outcome : prepareEach index spec ids world with
  | mk result between =>
    cases result with
    | ok kernels =>
      refine ⟨fun kernels' after done => ?_, fun error after failed => (by cases failed)⟩
      cases done
      exact prepareEach_ready batch none outcome
    | error error =>
      refine ⟨fun kernels after done => (by cases done), fun error' after failed => ?_⟩
      cases failed
      obtain ⟨earlier, entry, later, kernels, between, same, done, stopped⟩ := prepareEach_error batch outcome
      exact ⟨earlier, entry, later, kernels, between, same, done, congrArg Prod.fst stopped,
        prepareEach_rolledBack batch none done stopped⟩

def roomy : Host :=
  Host.Isolated.machine [["run"], ["run", "sub"]] [11, 12, 13, 14, 15, 21, 22, 23, 24, 25, 31, 32, 33, 34, 35]

def connectorAt (directory : String) : Connector where
  directory := directory
  claims := 0
  registry := Registry.withBuiltins roomy

theorem connectorIn_known (directory : String) :
    (connectorIn directory .tcp roomy).2.connector? 0 = some (connectorAt directory) := rfl

theorem prepareKernels_all_or_nothing_twice :
    (∃ kernels after, prepareKernels 0 {} [some "a", some "b"]
      (connectorIn "/run" .tcp roomy).2 = (.ok kernels, after) ∧
        AllReady 0 (connectorAt "/run") [some "a", some "b"] kernels after) ∧
      ∃ kernels after, prepareKernels 0 {} [some "a", some "b", some "a"] (connectorIn "/run" .tcp roomy).2 =
          (.error (.kernelExists "a"), after) ∧
        RolledBack 0 (connectorAt "/run") kernels (connectorIn "/run" .tcp roomy).2 after := by
  have offers : (connectorAt "/run").registry.OffersBuiltin {} := (Registry.withBuiltins_builtinOnly roomy).offers {}
  have empty (id : String) : (connectorAt "/run").slots.get? id = none := rfl
  constructor
  · have done : (prepareKernels 0 {} [some "a", some "b"] (connectorIn "/run" .tcp roomy).2).1.isOk = true := by
      decide +kernel
    obtain ⟨all, _⟩ := prepareKernels_all_or_nothing (connectorIn_known "/run") empty offers [some "a", some "b"]
    generalize prepareKernels 0 {} [some "a", some "b"] (connectorIn "/run" .tcp roomy).2 = outcome at done all ⊢
    obtain ⟨error | kernels, after⟩ := outcome
    · cases done
    · exact ⟨kernels, after, rfl, all kernels after rfl⟩
  · have failed : (prepareKernels 0 {} [some "a", some "b", some "a"] (connectorIn "/run" .tcp roomy).2).1 =
        .error (.kernelExists "a") := by decide +kernel
    obtain ⟨_, nothing⟩ :=
      prepareKernels_all_or_nothing (connectorIn_known "/run") empty offers [some "a", some "b", some "a"]
    generalize prepareKernels 0 {} [some "a", some "b", some "a"] (connectorIn "/run" .tcp roomy).2 = outcome
      at failed nothing ⊢
    obtain ⟨result, after⟩ := outcome
    cases failed
    obtain ⟨_, _, _, kernels, _, _, _, _, back⟩ := nothing _ after rfl
    exact ⟨kernels, after, rfl, back⟩

def throughLink : World :=
  (connectorIn "/run/kernel-b.json/.." .tcp (roomy.withNode ["run", "kernel-b.json"] (.link "sub"))).2

/-- The link goes when the second kernel is to get its file. After that the file of the first is not found where it was
written, and stays there. -/
theorem prepareKernels_leaves_file :
    (prepareKernels 0 {} [some "a"] throughLink).1 = .ok [("a", "/run/kernel-b.json/../kernel-a.json")] ∧
      (prepareKernels 0 {} [some "a", some "b"] throughLink).1 = .error (.io .notFound) ∧
        ¬ throughLink.host.hasFile ["run", "kernel-a.json"] ∧
          (prepareKernels 0 {} [some "a", some "b"] throughLink).2.host.hasFile ["run", "kernel-a.json"] := by
  decide +kernel

end CommandLine

end Mooring
