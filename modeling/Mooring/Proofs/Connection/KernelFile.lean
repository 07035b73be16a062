import Mooring.Proofs.Connection.Steps
import Mooring.Proofs.Files.LastName

/-! The connection of a kernel has its file under the name of the kernel. Nothing that it does touches the
file of another kernel. -/

namespace Mooring

/-- A place that no kernel with another id may have its file at. -/
def OwnPlace (id : String) (place : Host.Place) : Prop :=
  ∀ other, place.getLast? = some (World.fileName other) → other = id

namespace Connection

open Host (Place Spares SparesAll)

/-- The file of the connection has the name that belongs to a kernel id. -/
def IsFor (id : String) (connection : Connection) : Prop :=
  ∃ path, connection.file = some path ∧ (Path.names path).getLast? = some (World.fileName id)

instance (id : String) (connection : Connection) : Decidable (connection.IsFor id) :=
  inferInstanceAs (Decidable (∃ path ∈ connection.file, (Path.names path).getLast? = some (World.fileName id)))

theorem IsFor.congr {id : String} {one two : Connection} (isFor : one.IsFor id) (same : two.file = one.file) :
    two.IsFor id := by
  obtain ⟨path, named, last⟩ := isFor
  exact ⟨path, same.trans named, last⟩

theorem IsFor.solid {id : String} {connection : Connection} (isFor : connection.IsFor id) :
    ∃ path, connection.file = some path ∧ path ≠ "" := by
  obtain ⟨path, named, last⟩ := isFor
  refine ⟨path, named, ?_⟩
  rintro rfl
  cases last

theorem IsFor.unique {one two : String} {connection : Connection} (isOne : connection.IsFor one)
    (isTwo : connection.IsFor two) : one = two := by
  obtain ⟨path, named, last⟩ := isOne
  obtain ⟨path', named', last'⟩ := isTwo
  cases named.symm.trans named'
  exact World.fileName_injective (Option.some.inj (last.symm.trans last'))

theorem IsFor.ownPlace {id : String} {connection : Connection} (isFor : connection.IsFor id)
    {host : Host} {place : Place}
    (leads : ∃ path, connection.file = some path ∧ host.placeOf? path = some place) : OwnPlace id place := by
  obtain ⟨path, named, leads⟩ := leads
  obtain ⟨path', named', last⟩ := isFor
  cases named.symm.trans named'
  intro other isOther
  rw [Host.getLast?_of_placeOf? leads, last] at isOther
  exact (World.fileName_injective (Option.some.inj isOther)).symm

theorem IsFor.write_file {id : String} {connection : Connection} (isFor : connection.IsFor id) (host : Host) :
    (connection.write host).2.1.file = connection.file := by
  obtain ⟨path, named, last⟩ := isFor
  rcases connection.write_cases host with ⟨_, _, same⟩ | ⟨_, ⟨_, _, _, same⟩ | ⟨chosen, written, after, wrote, same⟩⟩
  · rw [same]
  · rw [same]
  · rw [same]
    obtain ⟨ready, _, _, _, _, chose, _⟩ := ConnectionFile.write_eq_ok wrote
    have solid : path ≠ "" := by
      rintro rfl
      cases last
    rw [named, ConnectionFile.choosePath_some host solid] at chose
    cases chose
    exact named.symm

theorem IsFor.write_spares {id : String} {connection : Connection} (isFor : connection.IsFor id) (host : Host) :
    Spares (OwnPlace id) host (connection.write host).2.2 :=
  (connection.write_spares host).weaken (fun _ _ leads => isFor.ownPlace leads)

/-- Writing a file once more removes none: it does nothing while the file is there. -/
theorem write_again_spares {connection : Connection} (written : connection.written = true) (host : Host) :
    SparesAll host (connection.write host).2.2 := by
  cases current : connection.currentFile? host with
  | some path =>
    have same : connection.write host = (.ok path, connection, host) := by
      rw [write, current]
    rw [same]
    exact .refl host
  | none =>
    apply (connection.write_spares host).weaken
    intro place there touch
    obtain ⟨path, named, leads⟩ := touch
    have found := Host.pathExists_of_hasFile leads there
    simp [currentFile?, written, named, found] at current

theorem write_written {connection : Connection} (written : connection.written = true) (host : Host) :
    (connection.write host).2.1.written = true := by
  rcases connection.write_cases host with ⟨_, _, same⟩ | ⟨_, ⟨_, _, _, same⟩ | ⟨_, _, _, _, same⟩⟩
  · rw [same]
    exact written
  · rw [same]
    exact written
  · rw [same]
    rfl

@[simp] theorem cleanupFile_file (connection : Connection) (host : Host) :
    (connection.cleanupFile host).1.file = connection.file := by
  unfold cleanupFile
  split <;> rfl

@[simp] theorem cleanupFile_ports (connection : Connection) (host : Host) :
    (connection.cleanupFile host).1.ports = connection.ports := by
  unfold cleanupFile
  split <;> rfl

@[simp] theorem cleanupFile_transport (connection : Connection) (host : Host) :
    (connection.cleanupFile host).1.transport = connection.transport := by
  unfold cleanupFile
  split <;> rfl

theorem hasFile_of_cleanupSockets (connection : Connection) (host : Host) (place : Place)
    (there : (connection.cleanupSockets host).hasFile place) : host.hasFile place := by
  unfold cleanupSockets at there
  split at there
  next => exact there
  next =>
    generalize Channel.all = channels at there
    induction channels generalizing host with
    | nil => exact there
    | cons channel rest ih => exact Host.hasFile_of_removeFile _ _ _ (ih _ there)

theorem cleaned_not_hasFile {connection : Connection} (written : connection.written = true) {path : String}
    (named : connection.file = some path) {host : Host} {place : Place} (leads : host.placeOf? path = some place) :
    ¬ ((connection.cleanupFile host).1.cleanupSockets (connection.cleanupFile host).2).hasFile place := by
  intro there
  have still := hasFile_of_cleanupSockets _ _ _ there
  rw [cleanupFile_of_written host written named] at still
  have before := Host.hasFile_of_removeFile host path place still
  rw [Host.removeFile_of_hasFile leads before,
    Host.hasFile_withoutNode host (Host.FileTree.placeOf?_ne_nil leads)] at still
  exact still.1 rfl

theorem IsFor.cleanup_spares {id : String} {connection : Connection} (isFor : connection.IsFor id) (host : Host) :
    Spares (OwnPlace id) host
      ((connection.cleanupFile host).1.cleanupSockets (connection.cleanupFile host).2) := by
  have file := (connection.cleanupFile_spares host).weaken
    (fun place _ (touch : _ ∧ _) => isFor.ownPlace touch.2)
  refine file.trans (((connection.cleanupFile host).1.cleanupSockets_spares _).weaken (fun place _ touch => ?_))
  obtain ⟨_, channel, last⟩ := touch
  intro other isOther
  rw [last] at isOther
  exact absurd isOther (World.socketPath_ne_fileName _ _ other)

end Connection

end Mooring
