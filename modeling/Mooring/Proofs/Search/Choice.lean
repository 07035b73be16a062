import Mooring.Host.Isolated
import Mooring.Proofs.Text.Order
import Mooring.Search

/-! Which file a search comes to. A regular file of exactly that name comes before all patterns; among the entries
that fit a pattern the one that was read last comes first, and of those that were read at one time the one that is
found last. -/

namespace Mooring.Search

def Reachable (host : Host) (path : String) : Prop := Path.isAbsolute path = true ∨ host.isDirectory "." = true

instance (host : Host) (path : String) : Decidable (Reachable host path) := inferInstanceAs (Decidable (_ ∨ _))

theorem absolute_of_reachable {host : Host} {path : String} (reachable : Reachable host path) :
    absolute host path = .ok (Path.absoluteFrom host.workDirText path) :=
  if_pos ((Bool.or_eq_true ..).mpr reachable)

theorem absolute_of_unreachable {host : Host} {path : String} (unreachable : ¬ Reachable host path) :
    absolute host path = .error .notFound :=
  if_neg fun either => unreachable ((Bool.or_eq_true ..).mp either)

theorem mapM_absolute_of_reachable {host : Host} {paths : List String} (all : ∀ path ∈ paths, Reachable host path) :
    paths.mapM (absolute host) = .ok (paths.map (Path.absoluteFrom host.workDirText)) := by
  induction paths with
  | nil => rfl
  | cons path rest ih =>
    rw [List.forall_mem_cons] at all
    rw [List.mapM_cons, absolute_of_reachable all.1, ih all.2]
    rfl

theorem mapM_absolute_of_unreachable {host : Host} {paths : List String} {path : String} (listed : path ∈ paths)
    (unreachable : ¬ Reachable host path) : paths.mapM (absolute host) = .error .notFound := by
  induction paths with
  | nil => cases listed
  | cons first rest ih =>
    rw [List.mapM_cons]
    by_cases reachable : Reachable host first
    · have later : path ∈ rest := (List.mem_cons.mp listed).resolve_left fun same => unreachable (same ▸ reachable)
      rw [absolute_of_reachable reachable, ih later]
      rfl
    · rw [absolute_of_unreachable reachable]
      rfl

theorem latest?_eq_none {host : Host} {paths : List String} : latest? host paths = none ↔ paths = [] := by
  cases paths with
  | nil => simp [latest?]
  | cons path rest =>
    simp only [latest?, reduceCtorEq, iff_false]
    split
    next => nofun
    next => split <;> nofun

/-- Paths in front of the one that is chosen were not read after it, and those behind it were read before it. -/
theorem latest?_splits {host : Host} {paths : List String} {path : String} (chosen : latest? host paths = some path) :
    ∃ before after, paths = before ++ path :: after ∧
      (∀ earlier ∈ before, accessTime host earlier ≤ accessTime host path) ∧
      ∀ later ∈ after, accessTime host later < accessTime host path := by
  induction paths generalizing path with
  | nil => cases chosen
  | cons first rest ih =>
    unfold latest? at chosen
    split at chosen
    next alone =>
      cases chosen
      exact ⟨[], rest, rfl, List.forall_mem_nil _, by rw [latest?_eq_none.mp alone]; exact List.forall_mem_nil _⟩
    next other best =>
      obtain ⟨before, after, split, earlier, later⟩ := ih best
      split at chosen
      next older =>
        cases chosen
        refine ⟨[], rest, rfl, List.forall_mem_nil _, fun next among => lt_of_le_of_lt ?_ older⟩
        rw [split, List.mem_append, List.mem_cons] at among
        rcases among with here | rfl | there
        · exact earlier next here
        · exact le_rfl
        · exact (later next there).le
      next newer =>
        cases chosen
        exact ⟨first :: before, after, by rw [split]; rfl,
          List.forall_mem_cons.mpr ⟨Int.not_lt.mp newer, earlier⟩, later⟩

/-- An entry in one of the directories that are searched. -/
structure Hit where
  position : Nat
  directory : String
  name : String

namespace Hit

def entry (hit : Hit) : String := Path.join hit.directory hit.name

def path (host : Host) (hit : Hit) : String := Path.absoluteFrom host.workDirText hit.entry

structure Fits (host : Host) (glob : Glob) (hidden : Bool) (directories : List String) (hit : Hit) : Prop where
  searched : directories[hit.position]? = some hit.directory
  listed : ∃ names, host.namesIn hit.directory = .ok names ∧ hit.name ∈ names
  visible : hidden = true ∨ isHidden hit.name = false
  fits : glob.fits hit.name = true

/-- One entry is found before the other: in an earlier directory, or in the same one by an earlier name. -/
def Before (one other : Hit) : Prop :=
  one.position < other.position ∨ one.position = other.position ∧ one.name < other.name

/-- One entry gives way to the other: it was read earlier, or at the same time and is found before it. -/
def Yields (host : Host) (one other : Hit) : Prop :=
  accessTime host (one.path host) < accessTime host (other.path host) ∨
    accessTime host (one.path host) = accessTime host (other.path host) ∧ one.Before other

theorem Yields.asymm {host : Host} {one other : Hit} (yields : one.Yields host other) : ¬ other.Yields host one := by
  intro back
  have names (later : one.name < other.name) (earlier : other.name < one.name) : False := lt_asymm later earlier
  unfold Yields Before at yields back
  grind

end Hit

/-- The entries that fit, in the order in which they are found. -/
def hits (host : Host) (glob : Glob) (hidden : Bool) (directories : List String) : List Hit :=
  directories.zipIdx.flatMap fun place => (fitting host glob hidden place.1).map (Hit.mk place.2 place.1)

section
variable {host : Host} {glob : Glob} {hidden : Bool} {directories : List String}

theorem map_entry_hits : (hits host glob hidden directories).map Hit.entry =
    candidates host glob hidden directories := by
  have whole : directories = directories.zipIdx.map Prod.fst := List.zipIdx_map_fst 0 directories |>.symm
  unfold candidates hits
  conv_rhs => rw [whole]
  simp only [List.map_flatMap, List.flatMap_map, List.map_map]
  rfl

theorem mem_fitting {directory name : String} : name ∈ fitting host glob hidden directory ↔
    (∃ names, host.namesIn directory = .ok names ∧ name ∈ names) ∧ (hidden = true ∨ isHidden name = false) ∧
      glob.fits name = true := by
  unfold fitting
  cases read : host.namesIn directory with
  | error fault => simp
  | ok names => simp [List.mem_mergeSort]

theorem mem_hits {hit : Hit} : hit ∈ hits host glob hidden directories ↔ hit.Fits host glob hidden directories := by
  simp only [hits, List.mem_flatMap, List.mem_map, Prod.exists, List.mk_mem_zipIdx_iff_getElem?]
  constructor
  · rintro ⟨directory, position, searched, name, among, rfl⟩
    obtain ⟨listed, visible, fits⟩ := mem_fitting.mp among
    exact ⟨searched, listed, visible, fits⟩
  · rintro ⟨searched, listed, visible, fits⟩
    exact ⟨hit.directory, hit.position, searched, hit.name, mem_fitting.mpr ⟨listed, visible, fits⟩, rfl⟩

theorem pairwise_fitting (directory : String) : (fitting host glob hidden directory).Pairwise (· ≤ ·) := by
  unfold fitting
  split
  next => exact List.Pairwise.nil
  next => exact Text.pairwise_le_mergeSort _

theorem pairwise_hits :
    (hits host glob hidden directories).Pairwise fun one other => one = other ∨ one.Before other := by
  refine List.pairwise_flatMap.mpr ⟨fun place _ => ?_, ?_⟩
  · refine List.pairwise_map.mpr ((pairwise_fitting place.1).imp fun {one two} order => ?_)
    rcases order.eq_or_lt with rfl | less
    · exact .inl rfl
    · exact .inr (.inr ⟨rfl, less⟩)
  · have positions : directories.zipIdx.Pairwise fun one other => one.2 < other.2 := by
      refine List.pairwise_map.mp ?_
      rw [List.zipIdx_map_snd]
      exact List.pairwise_lt_range'
    refine positions.imp fun {one two} earlier first among second later => ?_
    obtain ⟨_, _, rfl⟩ := List.mem_map.mp among
    obtain ⟨_, _, rfl⟩ := List.mem_map.mp later
    exact .inr (.inl earlier)

theorem latest?_hits {path : String}
    (chosen : latest? host ((hits host glob hidden directories).map (Hit.path host)) = some path) :
    ∃ hit : Hit, hit.Fits host glob hidden directories ∧
      (∀ other : Hit, other.Fits host glob hidden directories → other = hit ∨ other.Yields host hit) ∧
      path = hit.path host := by
  obtain ⟨before, after, split, earlier, later⟩ := latest?_splits chosen
  obtain ⟨front, back, whole, rfl, rest⟩ := List.map_eq_append_iff.mp split
  obtain ⟨hit, behind, rfl, rfl, rfl⟩ := List.map_eq_cons_iff.mp rest
  have order : (hits host glob hidden directories).Pairwise fun one other => one = other ∨ one.Before other :=
    pairwise_hits
  rw [whole, List.pairwise_append] at order
  refine ⟨hit, mem_hits.mp (by simp [whole]), fun other fits => ?_, rfl⟩
  -- Entries in front give way by their order when the times are equal, those behind by their time alone.
  have among := mem_hits.mpr fits
  rw [whole, List.mem_append, List.mem_cons] at among
  rcases among with ahead | rfl | next
  · have times := earlier _ (List.mem_map_of_mem ahead)
    rcases order.2.2 other ahead hit List.mem_cons_self with same | found
    · exact .inl same
    · exact .inr (times.lt_or_eq.imp_right fun same => ⟨same, found⟩)
  · exact .inl rfl
  · exact .inr (.inl (later _ (List.mem_map_of_mem next)))

end

def NoFile (host : Host) (name : String) (directories : List String) : Prop :=
  if Path.isAbsolute name then host.isFile name = false
  else ∀ directory ∈ directories, host.isFile (Path.join directory name) = false

theorem findExact_of_noFile {host : Host} {name : String} {directories : List String}
    (none : NoFile host name directories) :
    findExact host name directories = .ok .none := by
  unfold NoFile at none
  unfold findExact
  split at none
  next whole => rw [if_pos whole, none]; rfl
  next relative =>
    rw [if_neg relative, List.find?_eq_none.mpr fun directory listed => by simp [none directory listed]]

section
variable {host : Host} {name : String} {directories : List String} {glob : Glob}

theorem find_of_unreachable (none : NoFile host name directories)
    (valid : Glob.parse (patternOf name) = .ok glob) {hit : Hit}
    (fits : hit.Fits host glob (isHidden (patternOf name)) directories) (unreachable : ¬ Reachable host hit.entry) :
    find host name directories = .error (.io .notFound) := by
  simp only [find, findExact_of_noFile none, valid, ← map_entry_hits]
  rw [mapM_absolute_of_unreachable (List.mem_map_of_mem (mem_hits.mpr fits)) unreachable]

theorem find_of_reachable (none : NoFile host name directories) (valid : Glob.parse (patternOf name) = .ok glob)
    (all : ∀ hit : Hit, hit.Fits host glob (isHidden (patternOf name)) directories → Reachable host hit.entry) :
    find host name directories =
      match latest? host ((hits host glob (isHidden (patternOf name)) directories).map (Hit.path host)) with
      | some path => .ok path
      | .none => .error (.connectionFileNotFound name directories) := by
  simp only [find, findExact_of_noFile none, valid, ← map_entry_hits]
  rw [mapM_absolute_of_reachable (List.forall_mem_map.mpr fun hit among => all hit (mem_hits.mp among)), List.map_map]
  rfl

/-- When all that fits can be reached, the entry is given that every other one gives way to. -/
theorem find_of_fits (none : NoFile host name directories) (valid : Glob.parse (patternOf name) = .ok glob)
    (all : ∀ hit : Hit, hit.Fits host glob (isHidden (patternOf name)) directories → Reachable host hit.entry)
    {hit : Hit}
    (fits : hit.Fits host glob (isHidden (patternOf name)) directories) :
    ∃ best : Hit, best.Fits host glob (isHidden (patternOf name)) directories ∧
      (∀ other : Hit, other.Fits host glob (isHidden (patternOf name)) directories →
        other = best ∨ other.Yields host best) ∧
      find host name directories = .ok (best.path host) := by
  have found := find_of_reachable none valid all
  split at found
  next path last =>
    obtain ⟨best, fitting, above, rfl⟩ := latest?_hits last
    exact ⟨best, fitting, above, found⟩
  next nothing =>
    have empty := List.map_eq_nil_iff.mp (latest?_eq_none.mp nothing)
    exact absurd (empty ▸ mem_hits.mpr fits) List.not_mem_nil

theorem find_missing_iff (none : NoFile host name directories) (valid : Glob.parse (patternOf name) = .ok glob) :
    find host name directories = .error (.connectionFileNotFound name directories) ↔
      ¬ ∃ hit : Hit, hit.Fits host glob (isHidden (patternOf name)) directories := by
  constructor
  · rintro missing ⟨hit, fits⟩
    by_cases all : ∀ hit : Hit, hit.Fits host glob (isHidden (patternOf name)) directories → Reachable host hit.entry
    · obtain ⟨best, -, -, found⟩ := find_of_fits none valid all fits
      cases found.symm.trans missing
    · simp only [not_forall] at all
      obtain ⟨other, fitting, unreachable⟩ := all
      cases (find_of_unreachable none valid fitting unreachable).symm.trans missing
  · intro nothing
    have empty : hits host glob (isHidden (patternOf name)) directories = [] :=
      List.eq_nil_iff_forall_not_mem.mpr fun hit among => nothing ⟨hit, mem_hits.mp among⟩
    rw [find_of_reachable none valid fun hit fits => absurd ⟨hit, fits⟩ nothing, empty]
    rfl

end

/-- What a search comes to: the file of exactly that name, else the entry that every other one that fits gives way to,
and nothing when no entry fits. A relative path is refused when the working directory is gone. -/
theorem find_chooses (host : Host) (name : String) (directories : List String) :
    (Path.isAbsolute name = true → host.isFile name = true → find host name directories = .ok name) ∧
    (∀ before directory after, Path.isAbsolute name = false → directories = before ++ directory :: after →
      (∀ earlier ∈ before, host.isFile (Path.join earlier name) = false) →
      host.isFile (Path.join directory name) = true →
      find host name directories =
        if Reachable host (Path.join directory name) then
          .ok (Path.absoluteFrom host.workDirText (Path.join directory name))
        else .error (.io .notFound)) ∧
    ∀ glob, NoFile host name directories → Glob.parse (patternOf name) = .ok glob →
      let fits (hit : Hit) : Prop := hit.Fits host glob (isHidden (patternOf name)) directories
      (find host name directories = .error (.connectionFileNotFound name directories) ↔ ¬ ∃ hit, fits hit) ∧
      ((∃ hit, fits hit ∧ ¬ Reachable host hit.entry) → find host name directories = .error (.io .notFound)) ∧
      ((∃ hit, fits hit) → (∀ hit, fits hit → Reachable host hit.entry) →
        ∃ hit, fits hit ∧ (∀ other, fits other → other = hit ∨ other.Yields host hit) ∧
          find host name directories = .ok (hit.path host)) := by
  refine ⟨fun whole isFile => ?_, fun before directory after relative split earlier isFile => ?_,
    fun glob none valid => ?_⟩
  · simp [find, findExact, whole, isFile]
  · have first : directories.find? (fun directory => host.isFile (Path.join directory name)) = some directory := by
      rw [List.find?_eq_some_iff_append]
      exact ⟨isFile, before, after, split, fun other among => by simp [earlier other among]⟩
    by_cases reachable : Reachable host (Path.join directory name)
    · simp [find, findExact, relative, first, absolute_of_reachable reachable, reachable, Except.map]
    · simp [find, findExact, relative, first, absolute_of_unreachable reachable, reachable, Except.map]
  · exact ⟨find_missing_iff none valid, fun ⟨hit, fits, unreachable⟩ => find_of_unreachable none valid fits unreachable,
      fun ⟨hit, fits⟩ all => find_of_fits none valid all fits⟩

def recent : Host :=
  { Host.Isolated.machine [] [] with
    files := .ofList
      [(["lib"], Host.Isolated.directory), (["old"], Host.Isolated.directory), (["run"], Host.Isolated.directory),
        (["lib", "kernel-3.json"], .file [] 0o600 5), (["lib", ".kernel-4.json"], .file [] 0o600 20),
        (["old", "kernel-1.json"], .file [] 0o600 9), (["run", "kernel-2.json"], .file [] 0o600 9)] }

def strayed : Host :=
  { Host.Isolated.machine [] [] with
    files := .ofList [(["kernel-a.json"], .file [] 0o600 5)]
    workDir := ["d"] }

theorem find_chooses_tied :
    find recent "/lib/kernel-3.json" [] = .ok "/lib/kernel-3.json" ∧
    find recent "kernel-1.json" ["/lib", "/old", "/run"] = .ok "/old/kernel-1.json" ∧
    find recent "kernel-9" ["/lib"] = .error (.connectionFileNotFound "kernel-9" ["/lib"]) ∧
    find strayed "kernel" [".."] = .error (.io .notFound) ∧
    ∃ glob hit, Glob.parse (patternOf "kernel") = .ok glob ∧
      (∀ other : Hit, other.Fits recent glob false ["/old", "/run", "/gone", "/lib"] →
        other = hit ∨ other.Yields recent hit) ∧
      find recent "kernel" ["/old", "/run", "/gone", "/lib"] = .ok (hit.path recent) ∧
      hit.path recent = "/run/kernel-2.json" := by
  have noFile {host : Host} {name : String} {directories : List String} (relative : Path.isAbsolute name = false)
      (none : directories.all (fun directory => !host.isFile (Path.join directory name)) = true) :
      NoFile host name directories := by
    unfold NoFile
    rw [if_neg (by simp [relative])]
    simpa using none
  -- A check of the entries that fit is made for whatever glob the pattern is read as.
  have globs (host : Host) (pattern : String) (directories : List String) (check : List Hit → Bool)
      (checked : (match Glob.parse pattern with
        | .ok glob => check (hits host glob false directories)
        | .error _ => false) = true) :
      ∃ glob, Glob.parse pattern = .ok glob ∧ check (hits host glob false directories) = true := by
    split at checked
    next glob valid => exact ⟨glob, valid, checked⟩
    next => cases checked
  refine ⟨(find_chooses recent _ []).1 (by decide +kernel) (by decide +kernel), ?_, ?_, ?_, ?_⟩
  · rw [(find_chooses recent "kernel-1.json" ["/lib", "/old", "/run"]).2.1 ["/lib"] "/old"
      ["/run"] (by decide +kernel) rfl
      (by decide +kernel) (by decide +kernel)]
    decide +kernel
  · obtain ⟨glob, valid, none⟩ := globs recent (patternOf "kernel-9") ["/lib"] List.isEmpty (by decide +kernel)
    refine ((find_chooses recent "kernel-9" ["/lib"]).2.2 glob
      (noFile (by decide +kernel) (by decide +kernel)) valid).1.mpr ?_
    rintro ⟨hit, fits⟩
    exact absurd (List.isEmpty_iff.mp none ▸ mem_hits.mpr fits) List.not_mem_nil
  · obtain ⟨glob, valid, some⟩ := globs strayed (patternOf "kernel") [".."]
      (fun fits => fits.any fun hit => decide (¬ Reachable strayed hit.entry)) (by decide +kernel)
    refine ((find_chooses strayed "kernel" [".."]).2.2 glob
      (noFile (by decide +kernel) (by decide +kernel)) valid).2.1 ?_
    obtain ⟨hit, among, unreachable⟩ := List.any_eq_true.mp some
    exact ⟨hit, mem_hits.mp among, of_decide_eq_true unreachable⟩
  · obtain ⟨glob, valid, some⟩ :=
      globs recent (patternOf "kernel") ["/old", "/run", "/gone", "/lib"] (fun fits => !fits.isEmpty)
      (by decide +kernel)
    have among : ∃ hit : Hit, hit.Fits recent glob false ["/old", "/run", "/gone", "/lib"] := by
      obtain ⟨hit, rest, same⟩ := List.exists_cons_of_ne_nil (by simpa using some)
      exact ⟨hit, mem_hits.mp (same ▸ List.mem_cons_self)⟩
    obtain ⟨hit, -, above, found⟩ := ((find_chooses recent "kernel" ["/old", "/run", "/gone", "/lib"]).2.2 glob
      (noFile (by decide +kernel) (by decide +kernel)) valid).2.2 among fun _ _ => .inr (by decide +kernel)
    have known : find recent "kernel" ["/old", "/run", "/gone", "/lib"] = .ok "/run/kernel-2.json" := by decide +kernel
    exact ⟨glob, hit, valid, above, found, Except.ok.inj (found.symm.trans known)⟩

/-- A relative path cannot be given as an absolute one when the working directory is gone. -/
theorem find_fails_strayed :
    Path.isAbsolute "kernel-a.json" = false ∧ strayed.isFile (Path.join ".." "kernel-a.json") = true ∧
      find strayed "kernel-a.json" [".."] = .error (.io .notFound) := by
  decide +kernel

end Mooring.Search
