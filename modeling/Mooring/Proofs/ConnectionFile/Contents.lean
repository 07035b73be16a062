import Mooring.Proofs.ConnectionFile.Write
import Mooring.Proofs.Credentials.PatchText
import Mooring.Proofs.Files.Additions

/-! What is in a connection file after it was written: all of its text, for the owner only. So it reads as the
credentials that were written. -/

namespace Mooring

namespace Host

theorem readBytes_of_contentAt {host : Host} {path : String} {place : Place} {content : Bytes}
    (leads : host.placeOf? path = some place) (reads : host.contentAt place = some content) :
    host.readBytes path = .ok content := by
  unfold contentAt at reads
  split at reads
  next found mode accessed here =>
    cases reads
    have found := FileTree.find_of_placeOf? leads here rfl
    simp only [readBytes, entry?, find, found]
  next => cases reads

theorem readText_of_contentAt {host : Host} {path text : String} {place : Place}
    (leads : host.placeOf? path = some place)
    (reads : host.contentAt place = some (Utf8.ofString text)) : host.readText path = .ok text := by
  simp only [readText, readBytes_of_contentAt leads reads, Utf8.decode?, Utf8.ofString, Utf8.decode_encode,
    String.ofList_toList]

theorem pathExists_of_readBytes {host : Host} {path : String} {content : Bytes}
    (reads : host.readBytes path = .ok content) :
    host.pathExists path = true := by
  unfold readBytes at reads
  unfold pathExists
  cases found : host.entry? path with
  | ok entry => rfl
  | error fault =>
    rw [found] at reads
    cases reads

end Host

namespace ConnectionFile

open Host (Place)

theorem HoldsSecret.contentAt {host : Host} {place : Place} {content : Bytes} (holds : HoldsSecret host place content) :
    host.contentAt place = some content := by
  obtain ⟨mode, accessed, there, -⟩ := holds
  rw [Host.contentAt, there]

theorem createSecret_holds {host after : Host} {path : String} {content : Bytes}
    (done : createSecret host path content = (.ok (), after)) :
    ∃ place, after.placeOf? path = some place ∧ HoldsSecret after place content := by
  rcases createSecret_steps host path content with
    ⟨fault, same⟩ | ⟨place, result, later, _, _, _, leads, _, holds, same⟩
  · cases same.symm.trans done
  · cases result with
    | error error => cases same.symm.trans done
    | ok =>
      cases same.symm.trans done
      exact ⟨place, leads, holds rfl⟩

theorem secureWrite_holds {host after : Host} {path : String} {content : Bytes}
    (done : secureWrite host path content = (.ok (), after)) :
    ∃ place, after.placeOf? path = some place ∧ HoldsSecret after place content := by
  rw [secureWrite_eq] at done
  split at done
  next => exact createSecret_holds done
  next =>
    split at done
    next => exact createSecret_holds done
    next => cases done

/-- What was written is what the file says. -/
theorem read_of_write {host after : Host} {path : Option String} {credentials written : Credentials} {chosen : String}
    (done : write host path credentials = (.ok (chosen, written), after)) :
    read after chosen = .ok written.toPatch := by
  obtain ⟨ready, drawn, stored, fresh, text, _, _, _, printed, secured, rfl⟩ := write_eq_ok done
  obtain ⟨place, leads, holds⟩ := secureWrite_holds secured
  have stays := (stored.markDirectorySticky_spares chosen).placeOf? (stored.markDirectorySticky_keepsWays chosen) leads
  have content := (stored.contentAt_markDirectorySticky chosen place).trans holds.contentAt
  rw [read, Host.readText_of_contentAt stays content]
  exact Credentials.parsePatch_fileText printed

end ConnectionFile
end Mooring
