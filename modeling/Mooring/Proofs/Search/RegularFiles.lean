import Mooring.Proofs.Files.Absolute
import Mooring.Proofs.Search.Choice

/-! Whether a search comes to a regular file. A name that is looked up is one of a regular file, but the names of all
entries are held against a pattern, so that a search for a pattern may come to a directory or to a link that leads
nowhere. -/

namespace Mooring.Search

section
variable {host : Host} {name path : String} {directories : List String}

theorem findExact_eq_none : findExact host name directories = .ok none ↔ NoFile host name directories := by
  refine ⟨fun nothing => ?_, findExact_of_noFile⟩
  unfold findExact at nothing
  unfold NoFile
  split at nothing
  next whole =>
    rw [if_pos whole]
    split at nothing
    next => cases nothing
    next no => exact Bool.eq_false_iff.mpr no
  next relative =>
    rw [if_neg relative]
    split at nothing
    next directory _ =>
      cases there : absolute host (Path.join directory name) <;> simp [there, Except.map] at nothing
    next missing => exact fun directory listed => by simpa using List.find?_eq_none.mp missing directory listed

theorem isFile_of_findExact (exact_ : findExact host name directories = .ok (some path))
    (moored : host.isDirectory "." = true → host.Moored)
    (short : Host.FileTree.byteLength path < Host.FileTree.pathLimit) :
    host.isFile path = true := by
  unfold findExact at exact_
  split at exact_
  next whole =>
    split at exact_
    next isFile => cases exact_; exact isFile
    next => cases exact_
  next relative =>
    split at exact_
    next directory found =>
      have isFile : host.isFile (Path.join directory name) = true := by simpa using List.find?_some found
      by_cases reachable : Reachable host (Path.join directory name)
      · rw [absolute_of_reachable reachable] at exact_
        cases exact_
        refine Host.isFile_absoluteFrom isFile (fun open_ => moored (reachable.resolve_left ?_)) short
        simp [open_]
      · rw [absolute_of_unreachable reachable] at exact_
        cases exact_
    next => cases exact_

theorem short_of_isFile (isFile : host.isFile path = true) :
    Host.FileTree.byteLength path < Host.FileTree.pathLimit := by
  unfold Host.isFile at isFile
  split at isFile
  next place node found =>
    rw [Host.entry?_eq_ok, Host.find, Host.FileTree.find] at found
    cases fault : Host.FileTree.pathFault? path with
    | none => exact (Host.pathFault?_eq_none.mp fault).2.2
    | some _ => rw [fault] at found; cases found
  next => cases isFile

/-- What a search for a pattern gives is the path of the entry that no other comes before. -/
theorem chosen_of_found (nothing : NoFile host name directories) (found : find host name directories = .ok path) :
    ∃ glob hit, Glob.parse (patternOf name) = .ok glob ∧ hit.Fits host glob (isHidden (patternOf name)) directories ∧
      (∀ other : Hit, other.Fits host glob (isHidden (patternOf name)) directories →
        other = hit ∨ other.Yields host hit) ∧
      path = hit.path host := by
  cases valid : Glob.parse (patternOf name) with
  | error fault => simp [find, findExact_of_noFile nothing, valid] at found
  | ok glob =>
    obtain ⟨hit, fits⟩ : ∃ hit : Hit, hit.Fits host glob (isHidden (patternOf name)) directories := by
      refine Classical.byContradiction fun missing => ?_
      cases ((find_missing_iff nothing valid).mpr missing).symm.trans found
    by_cases all : ∀ hit : Hit, hit.Fits host glob (isHidden (patternOf name)) directories → Reachable host hit.entry
    · obtain ⟨best, fitting, above, same⟩ := find_of_fits nothing valid all fits
      exact ⟨glob, best, rfl, fitting, above, Except.ok.inj (found.symm.trans same)⟩
    · simp only [not_forall] at all
      obtain ⟨other, fitting, unreachable⟩ := all
      cases (find_of_unreachable nothing valid fitting unreachable).symm.trans found

/-- What a search gives is a regular file if the name was looked up, and if a pattern was needed, when one of the
regular files that fit comes before everything else that fits. -/
theorem found_isFile_iff (found : find host name directories = .ok path)
    (moored : host.isDirectory "." = true → host.Moored) :
    (findExact host name directories = .ok (some path) →
      (host.isFile path = true ↔ Host.FileTree.byteLength path < Host.FileTree.pathLimit)) ∧
    (findExact host name directories ≠ .ok (some path) →
      (host.isFile path = true ↔ ∃ glob hit, Glob.parse (patternOf name) = .ok glob ∧
        hit.Fits host glob (isHidden (patternOf name)) directories ∧ host.isFile (hit.path host) = true ∧
        ∀ other : Hit, other.Fits host glob (isHidden (patternOf name)) directories →
          host.isFile (other.path host) = false → other.Yields host hit)) := by
  refine ⟨fun exact_ => ⟨short_of_isFile, isFile_of_findExact exact_ moored⟩, fun pattern => ?_⟩
  have nothing : NoFile host name directories := by
    refine findExact_eq_none.mp ?_
    unfold find at found
    split at found
    next => cases found
    next same => cases found; exact absurd same pattern
    next same => exact same
  obtain ⟨glob, hit, valid, fits, above, rfl⟩ := chosen_of_found nothing found
  constructor
  · intro isFile
    refine ⟨glob, hit, valid, fits, isFile, fun other fitting noFile => ?_⟩
    rcases above other fitting with rfl | yields
    · cases isFile.symm.trans noFile
    · exact yields
  · rintro ⟨glob', file, valid', fitting, isFile, highest⟩
    cases valid.symm.trans valid'
    refine (Bool.not_eq_false _).mp fun noFile => ?_
    have yields := highest hit fits noFile
    rcases above file fitting with rfl | back
    · cases isFile.symm.trans noFile
    · exact yields.asymm back

end

def besideFile : Host := { recent with workDir := ["old"] }

theorem besideFile_moored : besideFile.Moored where
  proper name listed := by
    obtain rfl := List.mem_singleton.mp listed
    exact ⟨by decide, by decide, by decide +kernel⟩
  plain name listed := by
    obtain rfl := List.mem_singleton.mp listed
    exact ⟨by decide, by decide⟩
  clear name listed := by
    obtain rfl := List.mem_singleton.mp listed
    decide
  passable front leads some := by
    rcases List.prefix_cons_iff.mp leads with rfl | ⟨rest, rfl, none⟩
    · exact absurd rfl some
    · obtain rfl := List.prefix_nil.mp none
      decide +kernel

def cluttered : Host :=
  { Host.Isolated.machine [] [] with
    files := .ofList
      [(["run"], Host.Isolated.directory), (["var"], Host.Isolated.directory),
        (["run", "kernel-a.json"], .file [] 0o600 5), (["var", "kernel-dir"], .directory 0o755 9)] }

theorem found_isFile_iff_cluttered :
    (find besideFile "kernel-1.json" ["."] = .ok "/old/kernel-1.json" ∧ besideFile.isFile "/old/kernel-1.json" = true) ∧
    find cluttered "kernel" ["/run", "/var"] = .ok "/var/kernel-dir" ∧
      ¬ ∃ glob hit, Glob.parse (patternOf "kernel") = .ok glob ∧ hit.Fits cluttered glob false ["/run", "/var"] ∧
        cluttered.isFile (hit.path cluttered) = true ∧
        ∀ other : Hit, other.Fits cluttered glob false ["/run", "/var"] →
          cluttered.isFile (other.path cluttered) = false → other.Yields cluttered hit := by
  have looked : find besideFile "kernel-1.json" ["."] = .ok "/old/kernel-1.json" := by decide +kernel
  have matched : find cluttered "kernel" ["/run", "/var"] = .ok "/var/kernel-dir" := by decide +kernel
  refine ⟨⟨looked, ((found_isFile_iff looked fun _ => besideFile_moored).1 (by decide +kernel)).mpr
    (by decide +kernel)⟩,
    matched, fun file => ?_⟩
  have isFile := ((found_isFile_iff matched fun _ => ⟨nofun, nofun, nofun, fun front leads some =>
    absurd (List.prefix_nil.mp leads) some⟩).2 (by decide +kernel)).mpr file
  cases isFile.symm.trans (show cluttered.isFile "/var/kernel-dir" = false by decide +kernel)

/-- A directory is found whose name fits. -/
theorem find_directory :
    let host := Host.Isolated.machine [["d"], ["d", "kernel-dir"]] []
    find host "kernel-dir" ["/d"] = .ok "/d/kernel-dir" ∧ host.isFile "/d/kernel-dir" = false := by
  decide +kernel

end Mooring.Search
