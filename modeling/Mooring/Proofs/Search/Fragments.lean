import Mooring.Proofs.Files.SocketPaths
import Mooring.Proofs.Search.Alternatives
import Mooring.Proofs.Search.RegularFiles

/-! Searching for a fragment of a file name. Braces and backslashes mean in a fragment what they mean in a pattern;
without them the fragment itself is within the name of the file that is found. -/

namespace Mooring

namespace Path

def IsEntryName (name : String) : Prop := Plain name ∧ name ≠ "." ∧ name ≠ ".."

instance (name : String) : Decidable (IsEntryName name) :=
  inferInstanceAs (Decidable ((name.toList ≠ [] ∧ '/' ∉ name.toList) ∧ name ≠ "." ∧ name ≠ ".."))

namespace IsEntryName
variable {name : String}

theorem not_idle (entry : IsEntryName name) : isIdle name.toList = false := by
  obtain ⟨⟨nonempty, -⟩, dot, -⟩ := entry
  have lists : name.toList ≠ ['.'] := fun same => dot (String.toList_inj.mp same)
  simp [isIdle, nonempty, lists]

theorem not_up (entry : IsEntryName name) : isUp name.toList = false :=
  decide_eq_false fun same => entry.2.2 (String.toList_inj.mp same)

theorem busy_join (entry : IsEntryName name) (base : String) : busy (join base name) = busy base ++ [name] := by
  unfold busy
  rw [solid_join base entry.1, List.filter_append]
  simp [entry.2.1]

theorem fileName?_absoluteFrom (entry : IsEntryName name) (workDir base : String) :
    fileName? (absoluteFrom workDir (join base name)) = some name := by
  have open_ : endsWithSlash (join base name) = false := endsWithSlash_join base entry.1
  unfold absoluteFrom
  simp only [← busy_eq, entry.busy_join base, List.foldl_append, List.foldl_cons, List.foldl_nil,
    open_, Bool.false_eq_true,
    if_false]
  exact fileName?_join _ entry.1.2 entry.not_idle entry.not_up

end IsEntryName
end Path

/-- The system gives no other names to entries. -/
def Host.WellNamed (host : Host) : Prop := ∀ place ∈ host.files.keys, ∀ name ∈ place, Path.IsEntryName name

instance (host : Host) : Decidable host.WellNamed :=
  inferInstanceAs (Decidable (∀ place ∈ host.files.keys, ∀ name ∈ place, Path.IsEntryName name))

theorem Host.WellNamed.isEntryName {host : Host} (named : host.WellNamed) {directory : String} {names : List String}
    (read : host.namesIn directory = .ok names) {name : String} (listed : name ∈ names) : Path.IsEntryName name := by
  unfold namesIn at read
  split at read
  next place =>
    cases read
    obtain ⟨key, among, last⟩ := List.mem_filterMap.mp listed
    split at last
    next other ends =>
      split at last
      next =>
        cases last
        exact named key among name (List.mem_of_getLast? ends)
      next => cases last
    next => cases last
  next => cases read
  next => cases read

namespace Search

instance (host : Host) (name : String) (directories : List String) : Decidable (NoFile host name directories) :=
  inferInstanceAs (Decidable (ite _ _ _))

section
variable {host : Host} {name : String} {directories : List String}

theorem invalidPattern_iff (nothing : NoFile host name directories) :
    (∃ reason, find host name directories = .error (.invalidPattern reason)) ↔
      ∃ fault, Glob.parse (patternOf name) = .error fault := by
  cases valid : Glob.parse (patternOf name) with
  | error fault => simp [find, findExact_of_noFile nothing, valid]
  | ok glob =>
    simp only [find, findExact_of_noFile nothing, valid, reduceCtorEq, exists_false, iff_false, not_exists]
    intro reason
    split
    next => simp
    next => split <;> simp

variable (wildless : name.toList.any isWild = false)
include wildless

/-- What is found for a fragment has a text in its name that the fragment spells. -/
theorem exists_spelled (nothing : NoFile host name directories) (named : host.WellNamed) {tokens : List Glob.Token}
    (written : Glob.Written false [tokens] name.toList) {path : String}
    (found : find host name directories = .ok path) :
    ∃ entry, Path.fileName? path = some entry ∧ ∃ text ∈ Glob.sequenceSpellings tokens, text <:+: entry.toList := by
  obtain ⟨glob, hit, valid, fits, -, rfl⟩ := chosen_of_found nothing found
  obtain ⟨names, read, listed⟩ := fits.listed
  have entry : Path.IsEntryName hit.name := named.isEntryName read listed
  refine ⟨hit.name, entry.fileName?_absoluteFrom _ _, ?_⟩
  exact (Glob.fits_fragment (by simpa using wildless) written valid hit.name).mp fits.fits

theorem invalidPattern_iff_closes (undangling : Glob.dangles name.toList = false)
    (nothing : NoFile host name directories) :
    (∃ reason, find host name directories = .error (.invalidPattern reason)) ↔ Glob.closes 0 name.toList = false := by
  have tame : ∀ c ∈ name.toList, isWild c = false := by simpa using wildless
  rw [invalidPattern_iff nothing, ← Bool.not_eq_true]
  constructor
  · rintro ⟨fault, refused⟩ closed
    obtain ⟨tokens, written⟩ := Glob.exists_written tame closed
    obtain ⟨glob, valid⟩ := Glob.parse_isOk tame written
    cases refused.symm.trans valid
  · intro open_
    cases valid : Glob.parse (patternOf name) with
    | error fault => exact ⟨fault, rfl⟩
    | ok glob => exact absurd (Glob.closes_of_parse tame undangling valid) open_

/-- A fragment is refused when its braces do not close. What is found for it has a text in its name that the fragment
spells, which without braces and backslashes is the fragment itself. -/
theorem find_fragment (undangling : Glob.dangles name.toList = false) (nothing : NoFile host name directories)
    (named : host.WellNamed) :
    ((∃ reason, find host name directories = .error (.invalidPattern reason)) ↔ Glob.closes 0 name.toList = false) ∧
    (∀ path, find host name directories = .ok path →
      ∃ entry, Path.fileName? path = some entry ∧ ∃ tokens, Glob.Written false [tokens] name.toList ∧
        ∃ text ∈ Glob.sequenceSpellings tokens, text <:+: entry.toList) ∧
    ((∀ c ∈ name.toList, c ≠ '\\' ∧ c ≠ Glob.openBrace ∧ c ≠ Glob.closeBrace) →
      (∀ reason, find host name directories ≠ .error (.invalidPattern reason)) ∧
        ∀ path, find host name directories = .ok path →
          ∃ entry, Path.fileName? path = some entry ∧ name.toList <:+: entry.toList) := by
  have tame : ∀ c ∈ name.toList, isWild c = false := by simpa using wildless
  refine ⟨invalidPattern_iff_closes wildless undangling nothing, fun path found => ?_,
    fun plain => ⟨fun reason refused => ?_,
    fun path found => ?_⟩⟩
  · obtain ⟨glob, -, valid, -⟩ := chosen_of_found nothing found
    obtain ⟨tokens, written⟩ := Glob.exists_written tame (Glob.closes_of_parse tame undangling valid)
    obtain ⟨entry, last, spelled⟩ := exists_spelled wildless nothing named written found
    exact ⟨entry, last, tokens, written, spelled⟩
  · obtain ⟨fault, invalid⟩ := (invalidPattern_iff nothing).mp ⟨reason, refused⟩
    obtain ⟨glob, valid⟩ := Glob.parse_isOk tame (Glob.written_literals tame plain)
    cases invalid.symm.trans valid
  · obtain ⟨entry, last, text, spelled, within⟩ :=
      exists_spelled wildless nothing named (Glob.written_literals tame plain) found
    rw [Glob.sequenceSpellings_literals, List.mem_singleton] at spelled
    exact ⟨entry, last, spelled ▸ within⟩

end

def starred : Host :=
  { Host.Isolated.machine [] [] with
    files := .ofList
      [(["d"], Host.Isolated.directory), (["d", "kernel-a.json"], .file [] 0o600 5), (["d", "x*"], .file [] 0o600 9)] }

theorem find_fragment_starred :
    starred.WellNamed ∧ Path.fileName? "/d/kernel-a.json" = some "kernel-a.json" ∧
      (find starred "l-\x7ba,b\x7d" ["/d"] = .ok "/d/kernel-a.json" ∧
        ∃ tokens, Glob.Written false [tokens] "l-\x7ba,b\x7d".toList ∧
          ∃ text ∈ Glob.sequenceSpellings tokens, text <:+: "kernel-a.json".toList) ∧
      (find starred "l-a" ["/d"] = .ok "/d/kernel-a.json" ∧ "l-a".toList <:+: "kernel-a.json".toList) ∧
      ∃ reason, find starred "l-\x7ba" ["/d"] = .error (.invalidPattern reason) := by
  have named : starred.WellNamed := by decide +kernel
  have last : Path.fileName? "/d/kernel-a.json" = some "kernel-a.json" := by decide +kernel
  have grouped : NoFile starred "l-\x7ba,b\x7d" ["/d"] := by decide +kernel
  have plain : NoFile starred "l-a" ["/d"] := by decide +kernel
  have open_ : NoFile starred "l-\x7ba" ["/d"] := by decide +kernel
  refine ⟨named, last, ⟨by decide +kernel, ?_⟩, ⟨by decide +kernel, ?_⟩, ?_⟩
  · have spelled := (find_fragment (by decide +kernel) (by decide +kernel) grouped named).2.1
    obtain ⟨entry, same, within⟩ := spelled "/d/kernel-a.json" (by decide +kernel)
    cases last.symm.trans same
    exact within
  · have literal := (find_fragment (by decide +kernel) (by decide +kernel) plain named).2.2
        (by simp [Glob.openBrace, Glob.closeBrace])
    obtain ⟨entry, same, within⟩ := literal.2 "/d/kernel-a.json" (by decide +kernel)
    cases last.symm.trans same
    exact within
  · exact (find_fragment (by decide +kernel) (by decide +kernel) open_ named).1.mpr (by decide +kernel)

/-- Braces and backslashes are no part of the name that is found, and a backslash at the end makes a star part of it. -/
theorem fragment_not_literal :
    (∀ name ∈ ["\x7ba,b\x7d", "\\-a", "x\\", "a\x7b"], name.toList.any isWild = false ∧ NoFile starred name ["/d"]) ∧
      (∀ found ∈ [("\x7ba,b\x7d", "kernel-a.json"), ("\\-a", "kernel-a.json"), ("x\\", "x*")],
        find starred found.1 ["/d"] = .ok ("/d/" ++ found.2) ∧ Path.fileName? ("/d/" ++ found.2) = some found.2 ∧
          ¬ found.1.toList <:+: found.2.toList) ∧
      find starred "a\x7b" ["/d"] = .error (.invalidPattern ("*a\x7b*: error parsing glob '*a\x7b*': " ++
        "unclosed alternate group; missing '\x7d' (maybe escape '\x7b' with '[\x7b]'?)")) := by
  decide +kernel

end Search
end Mooring
