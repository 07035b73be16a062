import Mooring.ConnectionFile
import Mooring.Proofs.Files.Changes

/-! What writing a connection file leaves behind: on success a file at the path, and in any case all
files at other places. -/

namespace Mooring.ConnectionFile

open Host (Place Spares SparesAll AlikeBut)

theorem restrict_spares (host : Host) (path : String) (place : Place) :
    SparesAll host (restrict host path place).2 := by
  unfold restrict
  split
  next => exact .refl host
  next =>
    simp only
    split
    next => exact Host.setMode_spares host place _
    next => exact Host.setMode_spares host place _

theorem restrict_keepsWays (host : Host) (path : String) (place : Place) :
    host.files.KeepsWays (restrict host path place).2.files := by
  unfold restrict
  split
  next => exact .refl _
  next =>
    simp only
    split
    next => exact Host.setMode_keepsWays host place _
    next => exact Host.setMode_keepsWays host place _

theorem fillSecret_spares (host : Host) (path : String) (place : Place) (content : Bytes) :
    SparesAll host (fillSecret host path place content).2 := by
  unfold fillSecret
  have restricted := restrict_spares host path place
  split
  next error later answer => rw [answer] at restricted; exact restricted
  next later answer =>
    rw [answer] at restricted
    have filled := restricted.trans (Host.fill_spares later place content)
    split
    next fault last result => rw [result] at filled; exact filled
    next last result =>
      rw [result] at filled
      split <;> exact filled

theorem fillSecret_keepsWays (host : Host) (path : String) (place : Place) (content : Bytes) :
    host.files.KeepsWays (fillSecret host path place content).2.files := by
  unfold fillSecret
  have restricted := restrict_keepsWays host path place
  split
  next error later answer => rw [answer] at restricted; exact restricted
  next later answer =>
    rw [answer] at restricted
    have filled := restricted.trans (Host.fill_keepsWays later place content)
    split
    next fault last result => rw [result] at filled; exact filled
    next last result =>
      rw [result] at filled
      split <;> exact filled

theorem restrict_alikeBut (host : Host) (path : String) (place : Place) :
    AlikeBut (· = place) host (restrict host path place).2 := by
  unfold restrict
  split
  next => exact .refl _ host
  next =>
    simp only
    split
    next => exact host.setMode_alikeBut place _
    next => exact host.setMode_alikeBut place _

theorem fillSecret_alikeBut (host : Host) (path : String) (place : Place) (content : Bytes) :
    AlikeBut (· = place) host (fillSecret host path place content).2 := by
  unfold fillSecret
  have restricted := restrict_alikeBut host path place
  split
  next error later answer => rw [answer] at restricted; exact restricted
  next later answer =>
    rw [answer] at restricted
    have filled := restricted.trans (later.fill_alikeBut place content)
    split
    next fault last result => rw [result] at filled; exact filled
    next last result =>
      rw [result] at filled
      split <;> exact filled

def secretMode (host : Host) : Nat := host.disk.forcedMode.getD ownerOnly

theorem restrict_eq_ok_iff {host after : Host} {path : String} {place : Place} :
    restrict host path place = (.ok (), after) ↔
      host.disk.restriction = none ∧ secretMode host &&& 0o777 = ownerOnly ∧
      after = host.setMode place (secretMode host) := by
  unfold restrict secretMode
  cases host.disk.restriction with
  | some fault => simp
  | none =>
    simp only [true_and]
    split
    next secret => simp [secret, eq_comm]
    next wide => simp [wide]

structure Accepts (disk : Host.Disk) (content : Bytes) : Prop where
  restriction : disk.restriction = none
  mode : disk.forcedMode.getD ownerOnly &&& 0o777 = ownerOnly
  capacity : ∀ limit fault, disk.capacity = some (limit, fault) → content.length ≤ limit
  flush : disk.flush = none

theorem fillSecret_eq_ok_iff {host after : Host} {path : String} {place : Place} {content : Bytes} :
    fillSecret host path place content = (.ok (), after) ↔ ∃ old mode accessed,
      host.files.nodeAt place = some (.file old mode accessed) ∧ Accepts host.disk content ∧
        after = (host.setMode place (secretMode host)).withNode place (.file content (secretMode host) accessed) := by
  unfold fillSecret
  constructor
  · intro done
    split at done
    next => cases done
    next restricted answer =>
      obtain ⟨restriction, secret, rfl⟩ := restrict_eq_ok_iff.mp answer
      split at done
      next => cases done
      next filled answer' =>
        obtain ⟨old, mode, accessed, here, capacity, rfl⟩ := Host.fill_eq_ok_iff.mp answer'
        obtain ⟨rfl, mode, stood⟩ := Host.setMode_file_iff.mp here
        split at done
        next => cases done
        next flush =>
          cases done
          rw [Host.disk_setMode] at capacity
          exact ⟨old, mode, accessed, stood, ⟨restriction, secret, capacity, by simpa [Host.withNode] using flush⟩, rfl⟩
  · rintro ⟨old, mode, accessed, here, accepts, rfl⟩
    have stands : (host.setMode place (secretMode host)).files.nodeAt place =
        some (.file old (secretMode host) accessed) := Host.setMode_file_iff.mpr ⟨rfl, mode, here⟩
    have room : ∀ limit fault, (host.setMode place (secretMode host)).disk.capacity = some (limit, fault) →
        content.length ≤ limit := by
      rw [Host.disk_setMode]
      exact accepts.capacity
    rw [restrict_eq_ok_iff.mpr ⟨accepts.restriction, accepts.mode, rfl⟩]
    simp only
    rw [Host.fill_eq_ok_iff.mpr ⟨old, secretMode host, accessed, stands, room, rfl⟩]
    simp [Host.withNode, accepts.flush]

/-- At this place there is a file with just this content, which only its owner can read. -/
def HoldsSecret (host : Host) (place : Place) (content : Bytes) : Prop :=
  ∃ mode accessed, host.files.nodeAt place = some (.file content mode accessed) ∧ mode &&& 0o777 = ownerOnly

theorem fillSecret_holds {host after : Host} {path : String} {place : Place} {content : Bytes}
    (done : fillSecret host path place content = (.ok (), after)) : HoldsSecret after place content := by
  obtain ⟨old, mode, accessed, -, accepts, rfl⟩ := fillSecret_eq_ok_iff.mp done
  exact ⟨secretMode host, accessed, Host.FileTree.nodeAt_insert_self .., accepts.mode⟩

def createSecret (host : Host) (path : String) (content : Bytes) : Except Error Unit × Host :=
  match host.createFile path ownerOnly with
  | (.error fault, host) => (.error (.io fault), host)
  | (.ok place, host) =>
    match fillSecret host path place content with
    | (.ok (), host) => (.ok (), host)
    | (.error error, host) => (.error error, (host.removeFile path).2)

theorem secureWrite_eq (host : Host) (path : String) (content : Bytes) :
    secureWrite host path content =
      match host.removeFile path with
      | (.ok (), host) => createSecret host path content
      | (.error fault, host) =>
        if fault = .notFound then createSecret host path content else (.error (.io fault), host) := rfl

/-- Either there is no new file, or it stands at the path, complete or not, and is the only change until then. -/
theorem createSecret_steps (host : Host) (path : String) (content : Bytes) :
    (∃ fault, createSecret host path content = (.error (.io fault), host)) ∨
      ∃ (place : Place) (result : Except Error Unit) (later : Host), host.files.nodeAt place = none ∧
        SparesAll host later ∧ AlikeBut (· = place) host later ∧
        later.placeOf? path = some place ∧ later.hasFile place ∧ (result = .ok () → HoldsSecret later place content) ∧
          createSecret host path content =
            match result with
            | .ok () => (.ok (), later)
            | .error error => (.error error, (later.removeFile path).2) := by
  unfold createSecret
  rcases host.createFile_cases path ownerOnly with ⟨fault, same⟩ | ⟨place, leads, free, same⟩
  · rw [same]
    exact .inl ⟨fault, rfl⟩
  · have created := host.createFile_spares path ownerOnly
    rw [same] at created ⊢
    have kept : host.files.KeepsWays (host.withNode place (.file [] ownerOnly host.now)).tick.files :=
      host.withNode_keepsWays place _ (fun kind _ there => by rw [free] at there; cases there)
    have newFile : (host.withNode place (.file [] ownerOnly host.now)).tick.hasFile place :=
      (host.hasFile_withNode place place (.file [] ownerOnly host.now)).mpr (by rw [if_pos rfl]; rfl)
    have begun : AlikeBut (· = place) host (host.withNode place (.file [] ownerOnly host.now)).tick :=
      host.withNode_alikeBut place _
    generalize (host.withNode place (.file [] ownerOnly host.now)).tick = made at created kept newFile begun ⊢
    have filled := fillSecret_spares made path place content
    have ways := kept.trans (fillSecret_keepsWays made path place content)
    have whole := begun.trans (fillSecret_alikeBut made path place content)
    have holds (later : Host) (done : fillSecret made path place content = (.ok (), later)) :
        HoldsSecret later place content :=
      fillSecret_holds done
    simp only
    generalize fillSecret made path place content = outcome at filled ways whole holds ⊢
    obtain ⟨result, later⟩ := outcome
    have spares : SparesAll host later := created.trans filled
    refine .inr ⟨place, result, later, Option.map_eq_none_iff.mp free, spares, whole, spares.placeOf? ways leads,
      filled.files place not_false newFile, fun done => holds later (by rw [done]), ?_⟩
    cases result <;> rfl

theorem createSecret_cases (host : Host) (path : String) (content : Bytes) :
    SparesAll host (createSecret host path content).2 ∧
      ((createSecret host path content).1 = .ok () → ∃ place,
        (createSecret host path content).2.placeOf? path = some place ∧
          (createSecret host path content).2.hasFile place) := by
  rcases createSecret_steps host path content with
    ⟨fault, same⟩ | ⟨place, result, later, free, spares, _, leads, there, _, same⟩
  · rw [same]
    exact ⟨.refl host, fun done => by cases done⟩
  · rw [same]
    cases result with
    | ok => exact ⟨spares, fun _ => ⟨place, leads, there⟩⟩
    | error error =>
      refine ⟨spares.trans_of (later.removeFile_spares path) ?_, fun done => by cases done⟩
      intro other old touch
      rw [leads] at touch
      cases touch
      exact Host.nodeAt_of_hasFile old free

theorem secureWrite_cases (host : Host) (path : String) (content : Bytes) :
    Spares (fun place => host.placeOf? path = some place) host (secureWrite host path content).2 ∧
      ((secureWrite host path content).1 = .ok () → ∃ place,
        (secureWrite host path content).2.placeOf? path = some place ∧
          (secureWrite host path content).2.hasFile place) := by
  rw [secureWrite_eq]
  have removed := host.removeFile_spares path
  cases answer : host.removeFile path with
  | mk result later =>
    rw [answer] at removed
    obtain ⟨created, made⟩ := createSecret_cases later path content
    have whole := removed.trans (created.weaken (fun _ _ touch => touch.elim))
    cases result with
    | ok => exact ⟨whole, made⟩
    | error fault =>
      simp only
      split
      next => exact ⟨whole, made⟩
      next => exact ⟨removed, fun done => by cases done⟩

theorem freshPorts_takes (host : Host) (transport : Transport) (ip : String) (count : Nat) :
    host.TakesAnswers (freshPorts host transport ip count).2 := by
  unfold freshPorts
  cases transport with
  | tcp => exact host.freePorts_takes ip count
  | ipc =>
    simp only
    split <;> exact .refl host

theorem choosePath_some (host : Host) {path : String} (named : path ≠ "") :
    choosePath host (some path) = (.ok path, host) := by
  simp [choosePath, Option.filter, named]

theorem createTempFile_ok {leading ending : String} {attempts : Nat} {host after : Host} {path : String}
    (done : Host.createTempFile leading ending attempts host = (.ok path, after)) :
    ∃ place, after.placeOf? path = some place ∧ ¬ host.hasFile place := by
  rcases Host.createTempFile_traces leading ending attempts host with
    ⟨_, _, same, _⟩ | ⟨_, place, _, same, free, leads, _⟩
  · rw [same] at done
    cases done
  · rw [same] at done
    cases done
    exact ⟨place, leads, fun old => Host.nodeAt_of_hasFile old free⟩

theorem choosePath_cases (host : Host) (path : Option String) :
    SparesAll host (choosePath host path).2 ∧
      ∀ chosen, (choosePath host path).1 = .ok chosen →
        path = some chosen ∧ (choosePath host path).2 = host ∨
          ∃ place, (choosePath host path).2.placeOf? chosen = some place ∧ ¬ host.hasFile place := by
  unfold choosePath
  split
  next named same =>
    refine ⟨.refl host, fun chosen done => .inl ?_⟩
    cases done
    exact ⟨(Option.filter_eq_some_iff.mp same).1, rfl⟩
  next =>
    unfold tempPath
    have spares := host.createTempFile_spares "kernel-" ".json" tempTries
    cases answer : Host.createTempFile "kernel-" ".json" tempTries host with
    | mk result later =>
      rw [answer] at spares
      refine ⟨spares, fun chosen done => .inr ?_⟩
      cases result with
      | error fault => cases done
      | ok path =>
        cases done
        exact createTempFile_ok answer

def addressed (credentials : Credentials) : Credentials :=
  if credentials.ip.isEmpty then { credentials with ip := localhost } else credentials

@[simp] theorem addressed_ports (credentials : Credentials) : (addressed credentials).ports = credentials.ports := by
  unfold addressed
  split <;> rfl

@[simp] theorem addressed_transport (credentials : Credentials) :
    (addressed credentials).transport = credentials.transport := by
  unfold addressed
  split <;> rfl

/-- All that happened when a connection file was written. -/
theorem write_eq_ok {host after : Host} {path : Option String} {credentials written : Credentials}
    {chosen : String} (done : write host path credentials = (.ok (chosen, written), after)) :
    ∃ ready drawn stored fresh text,
      choosePath host path = (.ok chosen, ready) ∧
        freshPorts ready credentials.transport (addressed credentials).ip
          credentials.ports.unsetChannels.length = (.ok fresh, drawn) ∧
        written = complete (addressed credentials) fresh ∧ written.fileText = .ok text ∧
        secureWrite drawn chosen (Utf8.ofString text) = (.ok (), stored) ∧
        after = stored.markDirectorySticky chosen := by
  unfold write at done
  simp only at done
  rw [show (if credentials.ip.isEmpty then { credentials with ip := localhost } else credentials) =
    addressed credentials from rfl] at done
  simp only [addressed_ports, addressed_transport] at done
  split at done
  next => cases done
  next =>
    split at done
    next => cases done
    next chosen ready chose =>
      split at done
      next => cases done
      next fresh drawn drew =>
        split at done
        next => cases done
        next text printed =>
          split at done
          next => cases done
          next stored secured =>
            cases done
            exact ⟨ready, drawn, stored, fresh, text, chose, drew, rfl, printed, secured, rfl⟩

theorem write_spares (host : Host) (path : Option String) (credentials : Credentials) :
    Spares (fun place => ∃ named, path = some named ∧ host.placeOf? named = some place) host
      (write host path credentials).2 := by
  unfold write
  simp only
  rw [show (if credentials.ip.isEmpty then { credentials with ip := localhost } else credentials) =
    addressed credentials from rfl]
  obtain ⟨choice, chosen⟩ := choosePath_cases host path
  split
  next => exact .refl host
  next =>
    split
    next error ready answer =>
      rw [answer] at choice
      exact choice.after (.refl ready)
    next file ready answer =>
      rw [answer] at choice chosen
      have taken := freshPorts_takes ready (addressed credentials).transport (addressed credentials).ip
        (addressed credentials).ports.unsetChannels.length
      split
      next error drawn drew =>
        rw [drew] at taken
        exact choice.after (taken.spares.after (.refl drawn))
      next fresh drawn drew =>
        rw [drew] at taken
        have before : SparesAll host drawn := choice.after taken.spares
        split
        next => exact before.after (.refl drawn)
        next text printed =>
          have secured := (secureWrite_cases drawn file (Utf8.ofString text)).1
          have whole : Spares (fun place => ∃ named, path = some named ∧ host.placeOf? named = some place) host
              (secureWrite drawn file (Utf8.ofString text)).2 := by
            apply (before.after (.refl drawn)).trans_of secured
            intro place old touch
            rw [taken.placeOf? file] at touch
            rcases chosen file rfl with ⟨same, unchanged⟩ | ⟨new, leads, fresh⟩
            · exact ⟨file, same, unchanged ▸ touch⟩
            · rw [leads] at touch
              cases touch
              exact absurd old fresh
          split
          next error stored answer' => rw [answer'] at whole; exact whole
          next stored answer' =>
            rw [answer'] at whole
            exact whole.trans ((stored.markDirectorySticky_spares file).after (.refl _))

theorem write_ok_hasFile {host after : Host} {path : Option String} {credentials written : Credentials}
    {chosen : String} (done : write host path credentials = (.ok (chosen, written), after)) :
    ∃ place, after.placeOf? chosen = some place ∧ after.hasFile place := by
  obtain ⟨ready, drawn, stored, fresh, text, _, _, _, _, secured, rfl⟩ := write_eq_ok done
  have stands := (secureWrite_cases drawn chosen (Utf8.ofString text)).2
  rw [secured] at stands
  obtain ⟨place, leads, there⟩ := stands rfl
  have marked := stored.markDirectorySticky_spares chosen
  exact ⟨place, marked.placeOf? (stored.markDirectorySticky_keepsWays chosen) leads, marked.files place id there⟩

end Mooring.ConnectionFile
