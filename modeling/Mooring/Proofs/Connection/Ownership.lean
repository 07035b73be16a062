import Mathlib.Tactic.ByContra
import Mooring.Host.Arrangement
import Mooring.Host.Isolated
import Mooring.Proofs.Connection.Steps

/-! Which files a connection may remove. A ledger keeps, beside the connection, the places of the files
that it wrote and that are still there. The mark of the connection and its file name agree with the
ledger exactly as long as no operation moves the name away from the file or clears the mark over it. -/

namespace Mooring.Connection

open Host (Place FileTree Disk PortAnswer)

/-- What may happen to one connection. The system gives out other ports and its disk gets other faults
at any time. -/
inductive Operation
  | setFile (path : String)
  | setIp (ip : String)
  | setPort (channel : Channel) (port : UInt16)
  | setTransport (transport : Transport)
  | write
  | load (path : Option String)
  | loadPatch (patch : CredentialsPatch)
  | force (patch : CredentialsPatch)
  | cleanupFile
  | cleanupAllocated
  | system (ports : List PortAnswer) (disk : Disk)

structure Ledger where
  connection : Connection
  host : Host
  /-- Where files are that the connection wrote. -/
  own : List Place := []
  /-- Where the file is that it wrote last, unless that is gone. -/
  last : Option Place := none

namespace Ledger

def settle (ledger : Ledger) (connection : Connection) (host : Host) (wrote : Option Place) : Ledger where
  connection := connection
  host := host
  own := wrote.toList ++ ledger.own.filter (fun place => decide (host.hasFile place))
  last := wrote.or (ledger.last.filter (fun place => decide (host.hasFile place)))

def withConnection (ledger : Ledger) (connection : Connection) : Ledger := { ledger with connection := connection }

def write (ledger : Ledger) : Ledger :=
  match ledger.connection.currentFile? ledger.host, ledger.connection.write ledger.host with
  | some _, (_, connection, host) => ledger.settle connection host none
  | none, (.ok path, connection, host) => ledger.settle connection host (host.placeOf? path)
  | none, (.error _, connection, host) => ledger.settle connection host none

def force (ledger : Ledger) (patch : CredentialsPatch) : Ledger :=
  match ledger.connection.force patch ledger.host with
  | (.ok path, connection, host) => ledger.settle connection host (host.placeOf? path)
  | (.error _, connection, host) => ledger.settle connection host none

def cleanupFile (ledger : Ledger) : Ledger :=
  let (connection, host) := ledger.connection.cleanupFile ledger.host
  ledger.settle connection host none

def cleanupAllocated (ledger : Ledger) : Ledger :=
  let (connection, host) := ledger.connection.cleanupAllocated ledger.host
  ledger.settle connection host none

def step (ledger : Ledger) : Operation → Ledger
  | .setFile path => ledger.withConnection (ledger.connection.setFile path)
  | .setIp ip => ledger.withConnection (ledger.connection.setIp ip)
  | .setPort channel port => ledger.withConnection (ledger.connection.setPort channel port)
  | .setTransport transport => ledger.withConnection (ledger.connection.setTransport transport)
  | .write => ledger.write
  | .load path => ledger.withConnection (ledger.connection.load ledger.host path).2
  | .loadPatch patch => ledger.withConnection (ledger.connection.loadPatch patch).2
  | .force patch => ledger.force patch
  | .cleanupFile => ledger.cleanupFile
  | .cleanupAllocated => ledger.cleanupAllocated
  | .system ports disk => { ledger with host := { ledger.host with ports := ports, disk := disk } }

def run (ledger : Ledger) (operations : List Operation) : Ledger := operations.foldl step ledger

def RemovesOwn (ledger : Ledger) (after : Host) : Prop :=
  ∀ place, ledger.host.files.nodeAt place ≠ none → after.files.nodeAt place = none → place ∈ ledger.own

/-- What the connection promises: cleaning up removes nothing that it did not write, and the file that
it wrote last. -/
structure CleansUp (ledger : Ledger) : Prop where
  file : ledger.RemovesOwn ledger.cleanupFile.host
  allocated : ledger.RemovesOwn ledger.cleanupAllocated.host
  last : ∀ place, ledger.last = some place → ledger.cleanupFile.host.files.nodeAt place = none

/-- While the file that was written is there, the name goes on leading to it, and forcing does not fail
before the file is replaced or removed. -/
def Steady (ledger : Ledger) : Operation → Prop
  | .setFile path => ledger.connection.written = true → ledger.host.placeOf? path = ledger.last
  | .force patch => ledger.connection.written = true →
      (∃ path, (ledger.connection.force patch ledger.host).1 = .ok path) ∨ (ledger.force patch).last = none
  | _ => True

def SteadyRun : Ledger → List Operation → Prop
  | _, [] => True
  | ledger, operation :: operations => ledger.Steady operation ∧ SteadyRun (ledger.step operation) operations

structure Kept (ledger : Ledger) : Prop where
  own : ∀ place ∈ ledger.own, ledger.host.hasFile place
  last : ∀ place, ledger.last = some place → place ∈ ledger.own

inductive Tracked (ledger : Ledger) : Prop
  | unwritten (mark : ledger.connection.written = false) (gone : ledger.last = none)
  | written (mark : ledger.connection.written = true) (path : String) (place : Place)
      (named : ledger.connection.file = some path) (leads : ledger.host.placeOf? path = some place)
      (last : ledger.last = some place)

theorem settle_kept {ledger : Ledger} {connection : Connection} {host : Host} {wrote : Option Place}
    (kept : ledger.Kept) (new : ∀ place, wrote = some place → host.hasFile place) :
    (ledger.settle connection host wrote).Kept := by
  constructor
  · intro place listed
    rcases List.mem_append.mp listed with fresh | old
    · exact new place (Option.mem_toList.mp fresh)
    · exact of_decide_eq_true (List.mem_filter.mp old).2
  · intro place isLast
    cases wrote with
    | some place' =>
      cases isLast
      exact List.mem_cons_self
    | none =>
      obtain ⟨old, there⟩ := Option.filter_eq_some_iff.mp isLast
      exact List.mem_filter.mpr ⟨kept.last place old, there⟩

theorem write_kept {ledger : Ledger} (kept : ledger.Kept) : ledger.write.Kept := by
  unfold write
  split
  next => exact settle_kept kept (fun _ none => by cases none)
  next path later after current done =>
    obtain ⟨_, _, place, leads, there⟩ := write_ok current done
    exact settle_kept kept (fun place' same => by rw [leads] at same; cases same; exact there)
  next => exact settle_kept kept (fun _ none => by cases none)

theorem force_kept {ledger : Ledger} (kept : ledger.Kept) (patch : CredentialsPatch) : (ledger.force patch).Kept := by
  unfold force
  split
  next path later after done =>
    obtain ⟨_, _, place, leads, there⟩ := force_ok done
    exact settle_kept kept (fun place' same => by rw [leads] at same; cases same; exact there)
  next => exact settle_kept kept (fun _ none => by cases none)

theorem step_kept {ledger : Ledger} (kept : ledger.Kept) (operation : Operation) : (ledger.step operation).Kept := by
  cases operation with
  | write => exact write_kept kept
  | force patch => exact force_kept kept patch
  | cleanupFile => exact settle_kept kept (fun _ none => by cases none)
  | cleanupAllocated => exact settle_kept kept (fun _ none => by cases none)
  | setFile path => exact ⟨kept.own, kept.last⟩
  | setIp ip => exact ⟨kept.own, kept.last⟩
  | setPort channel port => exact ⟨kept.own, kept.last⟩
  | setTransport transport => exact ⟨kept.own, kept.last⟩
  | load path => exact ⟨kept.own, kept.last⟩
  | loadPatch patch => exact ⟨kept.own, kept.last⟩
  | system ports disk => exact ⟨kept.own, kept.last⟩

theorem Tracked.withConnection {ledger : Ledger} (tracked : ledger.Tracked) {connection : Connection}
    (file : connection.file = ledger.connection.file) (mark : connection.written = ledger.connection.written) :
    (ledger.withConnection connection).Tracked := by
  cases tracked with
  | unwritten unset gone => exact .unwritten (mark.trans unset) gone
  | written set path place named leads last => exact .written (mark.trans set) path place (file.trans named) leads last

theorem Tracked.of_wrote {ledger : Ledger} {connection : Connection} {host : Host} {path : String}
    (mark : connection.written = true) (named : connection.file = some path)
    (stands : ∃ place, host.placeOf? path = some place ∧ host.hasFile place) :
    (ledger.settle connection host (host.placeOf? path)).Tracked := by
  obtain ⟨place, leads, _⟩ := stands
  exact .written mark path place named leads (by rw [settle, leads]; rfl)

theorem Tracked.write {ledger : Ledger} (kept : ledger.Kept) (tracked : ledger.Tracked) : ledger.write.Tracked := by
  cases tracked with
  | unwritten unset gone =>
    have new := currentFile?_unwritten unset ledger.host
    unfold Ledger.write
    rw [new]
    split
    next old _ => cases old
    next path later after _ done =>
      obtain ⟨mark, named, stands⟩ := write_ok new done
      exact .of_wrote mark named stands
    next error later after _ failed =>
      rw [write_error failed]
      exact .unwritten unset (by rw [settle, gone]; rfl)
  | written set path place named leads last =>
    have there := kept.own place (kept.last place last)
    have current : ledger.connection.currentFile? ledger.host = some path := by
      simp [currentFile?, set, named, Host.pathExists_of_hasFile leads there]
    have same : ledger.connection.write ledger.host = (.ok path, ledger.connection, ledger.host) := by
      rw [Connection.write, current]
    unfold Ledger.write
    rw [current, same]
    exact .written set path place named leads (by simp [settle, last, there])

theorem Tracked.force {ledger : Ledger} (tracked : ledger.Tracked) (patch : CredentialsPatch)
    (steady : ledger.Steady (.force patch)) : (ledger.force patch).Tracked := by
  cases answer : ledger.connection.force patch ledger.host with
  | mk result rest =>
    obtain ⟨later, after⟩ := rest
    cases result with
    | ok path =>
      obtain ⟨mark, named, stands⟩ := force_ok answer
      simp only [Ledger.force, answer]
      exact .of_wrote mark named stands
    | error error =>
      have forced : ledger.force patch = ledger.settle later after none := by simp only [Ledger.force, answer]
      have unset := force_error answer
      rw [forced]
      cases tracked with
      | unwritten _ gone => exact .unwritten unset (by rw [settle, gone]; rfl)
      | written set path place named leads last =>
        rcases steady set with ⟨path, done⟩ | gone
        · rw [answer] at done
          cases done
        · rw [forced] at gone
          exact .unwritten unset gone

theorem Tracked.cleanup {ledger : Ledger} (kept : ledger.Kept) (tracked : ledger.Tracked) {connection : Connection}
    (file : connection.file = ledger.connection.file) (mark : connection.written = ledger.connection.written) :
    (connection.cleanupFile ledger.host).1.written = false ∧
      ledger.RemovesOwn (connection.cleanupFile ledger.host).2 ∧
      ∀ place, ledger.last = some place → (connection.cleanupFile ledger.host).2.files.nodeAt place = none := by
  cases tracked with
  | unwritten unset gone =>
    rw [cleanupFile_of_unwritten ledger.host (mark.trans unset)]
    refine ⟨mark.trans unset, fun place there nothing => absurd nothing there, fun place last => ?_⟩
    rw [gone] at last
    cases last
  | written set path place named leads last =>
    have there := kept.own place (kept.last place last)
    have below := FileTree.placeOf?_ne_nil leads
    rw [cleanupFile_of_written ledger.host (mark.trans set) (file.trans named), Host.removeFile_of_hasFile leads there]
    refine ⟨rfl, fun other there nothing => ?_, fun other isLast => ?_⟩
    · by_cases same : other = place
      · exact same ▸ kept.last place last
      · exact absurd ((FileTree.nodeAt_erase_of_ne _ same).symm.trans nothing) there
    · rw [last] at isLast
      cases isLast
      exact FileTree.nodeAt_erase_self _ below

theorem Tracked.cleanupFile {ledger : Ledger} (kept : ledger.Kept) (tracked : ledger.Tracked) :
    ledger.cleanupFile.Tracked := by
  obtain ⟨unset, _, removed⟩ := tracked.cleanup kept rfl rfl
  refine .unwritten unset (Option.eq_none_iff_forall_not_mem.mpr (fun place isLast => ?_))
  obtain ⟨old, there⟩ := Option.filter_eq_some_iff.mp isLast
  exact Host.nodeAt_of_hasFile (of_decide_eq_true there) (removed place old)

theorem Tracked.cleanupAllocated {ledger : Ledger} (kept : ledger.Kept) (tracked : ledger.Tracked) :
    ledger.cleanupAllocated.Tracked := by
  unfold Ledger.cleanupAllocated
  rcases ledger.connection.cleanupAllocated_cases ledger.host with same | ⟨ports, same⟩
  · rw [same]
    cases tracked with
    | unwritten unset gone => exact .unwritten unset (by simp [settle, gone])
    | written set path place named leads last =>
      exact .written set path place named leads (by simp [settle, last, kept.own place (kept.last place last)])
  · rw [same]
    have allocated : (ledger.withConnection { ledger.connection with ports := ports }).Tracked :=
      tracked.withConnection rfl rfl
    have cleaned : (ledger.withConnection { ledger.connection with ports := ports }).cleanupFile.Tracked :=
      allocated.cleanupFile ⟨kept.own, kept.last⟩
    exact cleaned

theorem Tracked.step {ledger : Ledger} (kept : ledger.Kept) (tracked : ledger.Tracked) (operation : Operation)
    (steady : ledger.Steady operation) : (ledger.step operation).Tracked := by
  cases operation with
  | setFile path =>
    cases tracked with
    | unwritten unset gone => exact .unwritten unset gone
    | written set old place named leads last => exact .written set path place rfl ((steady set).trans last) last
  | setIp ip => exact tracked.withConnection rfl rfl
  | setPort channel port => exact tracked.withConnection rfl rfl
  | setTransport transport => exact tracked.withConnection rfl rfl
  | write => exact tracked.write kept
  | load path => exact tracked.withConnection (load_file _ _ _) (load_written _ _ _)
  | loadPatch patch => exact tracked.withConnection (loadPatch_file _ _) (loadPatch_written _ _)
  | force patch => exact tracked.force patch steady
  | cleanupFile => exact tracked.cleanupFile kept
  | cleanupAllocated => exact tracked.cleanupAllocated kept
  | system ports disk =>
    cases tracked with
    | unwritten unset gone => exact .unwritten unset gone
    | written set path place named leads last => exact .written set path place named leads last

theorem Tracked.cleansUp {ledger : Ledger} (kept : ledger.Kept) (tracked : ledger.Tracked) : ledger.CleansUp := by
  obtain ⟨_, removesOwn, removed⟩ := tracked.cleanup kept rfl rfl
  refine ⟨removesOwn, ?_, removed⟩
  unfold Ledger.cleanupAllocated
  rcases ledger.connection.cleanupAllocated_cases ledger.host with same | ⟨ports, same⟩
  · rw [same]
    exact fun place there nothing => absurd nothing there
  · rw [same]
    have named : ({ ledger.connection with ports := ports } : Connection).file = ledger.connection.file := rfl
    exact (tracked.cleanup kept named rfl).2.1

/-- A name that leads elsewhere, or a mark that is lost, leaves the last file behind. -/
theorem Tracked.not_cleansUp {ledger : Ledger} (kept : ledger.Kept) (tracked : ledger.Tracked) {operation : Operation}
    (unsteady : ¬ ledger.Steady operation) : ¬ (ledger.step operation).CleansUp := by
  intro cleansUp
  cases operation with
  | setFile path =>
    obtain ⟨set, astray⟩ := Classical.not_imp.mp unsteady
    cases tracked with
    | unwritten unset _ =>
      rw [unset] at set
      cases set
    | written _ old place _ _ last =>
      have there := kept.own place (kept.last place last)
      have spared := (ledger.host.removeFile_spares path).files place
          (fun leads => astray (leads.trans last.symm)) there
      have removed := cleansUp.last place last
      have cleaned : ((ledger.step (.setFile path)).cleanupFile).host = (ledger.host.removeFile path).2 := by
        have mark : (ledger.connection.setFile path).written = true := set
        show ((ledger.connection.setFile path).cleanupFile ledger.host).2 = (ledger.host.removeFile path).2
        rw [cleanupFile_of_written ledger.host mark rfl]
      rw [cleaned] at removed
      exact Host.nodeAt_of_hasFile spared removed
  | force patch =>
    obtain ⟨set, lost⟩ := Classical.not_imp.mp unsteady
    obtain ⟨failed, remains⟩ := not_or.mp lost
    obtain ⟨place, last⟩ := Option.ne_none_iff_exists'.mp remains
    have kept' := force_kept kept patch
    have unset : (ledger.force patch).connection.written = false := by
      cases answer : ledger.connection.force patch ledger.host with
      | mk result rest =>
        cases result with
        | ok path => exact absurd ⟨path, by rw [answer]⟩ failed
        | error error =>
          simp only [Ledger.force, answer]
          exact force_error answer
    have removed := cleansUp.last place last
    have cleaned : ((ledger.force patch).cleanupFile).host = (ledger.force patch).host := by
      unfold Ledger.cleanupFile
      rw [cleanupFile_of_unwritten _ unset]
      rfl
    rw [show ledger.step (.force patch) = ledger.force patch from rfl, cleaned] at removed
    exact Host.nodeAt_of_hasFile (kept'.own place (kept'.last place last)) removed
  | setIp ip => exact unsteady trivial
  | setPort channel port => exact unsteady trivial
  | setTransport transport => exact unsteady trivial
  | write => exact unsteady trivial
  | load path => exact unsteady trivial
  | loadPatch patch => exact unsteady trivial
  | cleanupFile => exact unsteady trivial
  | cleanupAllocated => exact unsteady trivial
  | system ports disk => exact unsteady trivial

theorem cleansUp_iff_of_tracked {ledger : Ledger} (kept : ledger.Kept) (tracked : ledger.Tracked)
    (operations : List Operation) :
    (∀ before, before <+: operations → (ledger.run before).CleansUp) ↔ ledger.SteadyRun operations := by
  induction operations generalizing ledger with
  | nil =>
    constructor
    · exact fun _ => trivial
    · intro _ before isPrefix
      rw [List.prefix_nil.mp isPrefix]
      exact tracked.cleansUp kept
  | cons operation operations ih =>
    constructor
    · intro throughout
      have steady : ledger.Steady operation := by
        by_contra unsteady
        exact tracked.not_cleansUp kept unsteady (throughout [operation] ⟨operations, rfl⟩)
      refine ⟨steady, (ih (step_kept kept operation) (tracked.step kept operation steady)).mp ?_⟩
      intro before isPrefix
      exact throughout (operation :: before) (List.prefix_cons_inj operation |>.mpr isPrefix)
    · rintro ⟨steady, later⟩ before isPrefix
      cases before with
      | nil => exact tracked.cleansUp kept
      | cons first before =>
        obtain ⟨rfl, shorter⟩ := List.cons_prefix_cons.mp isPrefix
        exact (ih (step_kept kept first) (tracked.step kept first steady)).mpr later before shorter

end Ledger

/-- At every time in a run, cleaning up removes the file that the connection wrote last and no other, exactly
if each operation of the run is steady. -/
theorem cleansUp_throughout_iff (connection : Connection) (host : Host) (operations : List Operation)
    (unwritten : connection.written = false) :
    (∀ before, before <+: operations → (Ledger.run { connection, host } before).CleansUp) ↔
      Ledger.SteadyRun { connection, host } operations :=
  Ledger.cleansUp_iff_of_tracked ⟨fun _ listed => absurd listed List.not_mem_nil, fun _ last => by cases last⟩
    (.unwritten unwritten rfl) operations

def besideOther : Ledger where
  connection := withSession (Session.withKey [])
  host := (Host.Isolated.machine [["run"]] [11, 12, 13, 14, 15]).withNode ["run", "b.json"] (.file [] 0o644 0)

theorem cleansUp_throughout_write :
    besideOther.connection.written = false ∧
      ∀ before, before <+: [.setFile "/run/a.json", .write, .cleanupFile] → (besideOther.run before).CleansUp := by
  have unwritten : besideOther.connection.written = false := rfl
  refine ⟨unwritten, (cleansUp_throughout_iff _ _ _ unwritten).mpr ⟨fun written => ?_, trivial, trivial, trivial⟩⟩
  cases written

/-- When the name is changed after writing, cleaning up removes the file of that name, which somebody else
wrote, and leaves its own. -/
theorem cleanupFile_removes_other :
    let moved := besideOther.run [.setFile "/run/a.json", .write, .setFile "/run/b.json"]
    moved.own = [["run", "a.json"]] ∧ moved.last = some ["run", "a.json"] ∧
      moved.host.hasFile ["run", "b.json"] ∧ ¬ moved.cleanupFile.host.hasFile ["run", "b.json"] ∧
        moved.cleanupFile.host.hasFile ["run", "a.json"] := by
  decide +kernel

end Mooring.Connection
