import Mooring.Proofs.ConnectionFile.Write
import Mooring.Proofs.Files.Changes

/-! What a failed write leaves behind. A new file that cannot be completed is taken away again, so that nothing
is lost but the old file that was to be replaced. -/

namespace Mooring.ConnectionFile

open Host (Place Alike AlikeBut AddsNoFile)

theorem createSecret_error {host after : Host} {path : String} {content : Bytes} {error : Error}
    (failed : createSecret host path content = (.error error, after)) : Alike host after := by
  rcases createSecret_steps host path content with
    ⟨fault, same⟩ | ⟨place, result, later, free, _, others, leads, there, _, same⟩
  · rw [same] at failed
    cases failed
    exact .refl host
  · rw [same] at failed
    cases result with
    | ok => cases failed
    | error error' =>
      cases failed
      rw [Host.removeFile_of_hasFile leads there]
      intro other
      by_cases here : other = place
      · rw [here, free]
        exact Host.FileTree.nodeAt_erase_self _ (Host.FileTree.placeOf?_ne_nil leads)
      · exact (later.withoutNode_alikeBut place other here).trans (others other here)

/-- A secure write that fails has done no more than to remove the old file. -/
theorem secureWrite_error {host after : Host} {path : String} {content : Bytes} {error : Error}
    (failed : secureWrite host path content = (.error error, after)) : Alike (host.removeFile path).2 after := by
  rw [secureWrite_eq] at failed
  rcases removed : host.removeFile path with ⟨fault | _, later⟩
  · rw [removed] at failed
    simp only at failed
    split at failed
    next => exact createSecret_error failed
    next =>
      cases failed
      exact .refl _
  · rw [removed] at failed
    exact createSecret_error failed

theorem fileText_of_decode {credentials : Credentials} {text : List Char}
    (isText : Utf8.decode credentials.key = .ok text) :
    ∃ printed, credentials.fileText = .ok printed := by
  simp [Credentials.fileText, Credentials.toValue, keyValue, isText]

@[simp] theorem addressed_key (credentials : Credentials) : (addressed credentials).key = credentials.key := by
  unfold addressed
  split <;> rfl

/-- The ways in which a write fails. -/
theorem write_eq_error {host after : Host} {path : Option String} {credentials : Credentials} {error : Error}
    (failed : write host path credentials = (.error error, after)) :
    ((∀ text, Utf8.decode credentials.key ≠ .ok text) ∧ after = host) ∨
      choosePath host path = (.error error, after) ∨
        ∃ chosen ready, choosePath host path = (.ok chosen, ready) ∧
          (freshPorts ready credentials.transport (addressed credentials).ip credentials.ports.unsetChannels.length =
              (.error error, after) ∨
            (∃ text, Utf8.decode credentials.key = .ok text) ∧ ∃ fresh drawn content,
              freshPorts ready credentials.transport (addressed credentials).ip credentials.ports.unsetChannels.length =
                  (.ok fresh, drawn) ∧
                secureWrite drawn chosen content = (.error error, after)) := by
  unfold write at failed
  simp only at failed
  rw [show (if credentials.ip.isEmpty then { credentials with ip := localhost } else credentials) =
    addressed credentials from rfl] at failed
  simp only [addressed_ports, addressed_transport, addressed_key] at failed
  split at failed
  next fault invalid =>
    cases failed
    refine .inl ⟨fun text valid => ?_, rfl⟩
    rw [invalid] at valid
    cases valid
  next text valid =>
    split at failed
    next error' ready chose =>
      cases failed
      exact .inr (.inl chose)
    next chosen ready chose =>
      refine .inr (.inr ⟨chosen, ready, chose, ?_⟩)
      split at failed
      next error' drawn drew =>
        cases failed
        exact .inl drew
      next fresh drawn drew =>
        have keyed : Utf8.decode (complete (addressed credentials) fresh).key = .ok text :=
          (congrArg Utf8.decode (addressed_key credentials)).trans valid
        obtain ⟨printed, prints⟩ := fileText_of_decode keyed
        rw [prints] at failed
        simp only at failed
        split at failed
        next error' stored secured =>
          cases failed
          exact .inr ⟨⟨text, valid⟩, fresh, drawn, _, drew, secured⟩
        next => cases failed

theorem choosePath_traces (host : Host) (path : Option String) :
    (∃ named, path = some named ∧ named ≠ "" ∧ choosePath host path = (.ok named, host)) ∨
      (∀ named, path = some named → named = "") ∧
        ((∃ error after, choosePath host path = (.error error, after) ∧ Alike host after) ∨
          ∃ chosen place ready, choosePath host path = (.ok chosen, ready) ∧ host.files.nodeAt place = none ∧
            ready.placeOf? chosen = some place ∧ ready.hasFile place ∧ AlikeBut (· = place) host ready) := by
  have temporary (unnamed : choosePath host path = tempPath host) :
      (∃ error after, choosePath host path = (.error error, after) ∧ Alike host after) ∨
        ∃ chosen place ready, choosePath host path = (.ok chosen, ready) ∧ host.files.nodeAt place = none ∧
          ready.placeOf? chosen = some place ∧ ready.hasFile place ∧ AlikeBut (· = place) host ready := by
    rw [unnamed]
    unfold tempPath
    rcases Host.createTempFile_traces "kernel-" ".json" tempTries host with
      ⟨fault, after, answer, alike⟩ | ⟨chosen, place, ready, answer, traces⟩
    · rw [answer]
      exact .inl ⟨.io fault, after, rfl, alike⟩
    · rw [answer]
      exact .inr ⟨chosen, place, ready, rfl, traces⟩
  cases path with
  | none => exact .inr ⟨fun named same => absurd same (Option.some_ne_none named).symm, temporary rfl⟩
  | some named =>
    by_cases empty : named = ""
    · subst empty
      exact .inr ⟨fun named same => (Option.some.inj same).symm, temporary rfl⟩
    · exact .inl ⟨named, rfl, empty, choosePath_some host empty⟩

def FindsPorts (host : Host) (path : Option String) (credentials : Credentials) : Prop :=
  ∀ chosen ready, choosePath host path = (.ok chosen, ready) → ∃ fresh,
    (freshPorts ready credentials.transport (addressed credentials).ip credentials.ports.unsetChannels.length).1 =
      .ok fresh

/-- The write goes so far as to take away the old file at its path. -/
structure Replaces (host : Host) (path : Option String) (credentials : Credentials) (place : Place) : Prop where
  isText : ∃ text, Utf8.decode credentials.key = .ok text
  findsPorts : FindsPorts host path credentials
  removes : ∃ named, path = some named ∧ named ≠ "" ∧ host.placeOf? named = some place ∧
    (host.removeFile named).1 = .ok ()

/-- Nothing is gone or changed but the file that was to be replaced. At a path that was asked for, and where
there are ports, nothing is new. -/
structure LeavesOthers (host : Host) (path : Option String) (credentials : Credentials) (after : Host) : Prop where
  kept : ∀ place, host.files.nodeAt place ≠ none → ¬ Replaces host path credentials place →
    after.files.nodeAt place = host.files.nodeAt place
  replaced : ∀ place, Replaces host path credentials place → after.files.nodeAt place = none
  nothingNew : (∃ named, path = some named ∧ named ≠ "") ∨ FindsPorts host path credentials →
    ∀ place, host.files.nodeAt place = none → after.files.nodeAt place = none

section
variable {host after : Host} {path : Option String} {credentials : Credentials}

theorem LeavesOthers.of_alike (alike : Alike host after) (keeps : ∀ place, ¬ Replaces host path credentials place) :
    LeavesOthers host path credentials after where
  kept place _ _ := alike place
  replaced place replaces := absurd replaces (keeps place)
  nothingNew _ place vacant := (alike place).trans vacant

theorem not_replaces_of_unnamed (unnamed : ∀ named, path = some named → named = "") (place : Place) :
    ¬ Replaces host path credentials place := by
  intro replaces
  obtain ⟨named, given, nonempty, _⟩ := replaces.removes
  exact nonempty (unnamed named given)

theorem LeavesOthers.addsNoFile (leaves : LeavesOthers host path credentials after) {named : String}
    (given : path = some named) (nonempty : named ≠ "") : AddsNoFile host after := by
  intro place there
  have stands := Host.nodeAt_of_hasFile there
  by_cases replaces : Replaces host path credentials place
  · exact absurd (leaves.replaced place replaces) stands
  · by_cases vacant : host.files.nodeAt place = none
    · exact absurd (leaves.nothingNew (.inl ⟨named, given, nonempty⟩) place vacant) stands
    · exact leaves.kept place vacant replaces

theorem secureWrite_leaves {named : String} (given : path = some named) (nonempty : named ≠ "")
    (isText : ∃ text, Utf8.decode credentials.key = .ok text) (found : FindsPorts host path credentials)
    (alike : Alike (host.removeFile named).2 after) : LeavesOthers host path credentials after := by
  rcases host.removeFile_traces named with ⟨fault, same⟩ | ⟨place, leads, removed, gone, others⟩
  · rw [same] at alike
    refine .of_alike alike (fun place replaces => ?_)
    obtain ⟨other, given', _, _, removed⟩ := replaces.removes
    cases given.symm.trans given'
    rw [same] at removed
    cases removed
  · have vanished : after.files.nodeAt place = none := (alike place).trans gone
    have mine : Replaces host path credentials place := ⟨isText, found, named, given, nonempty, leads, removed⟩
    refine ⟨fun other _ spared => ?_, fun other replaces => ?_, fun _ other vacant => ?_⟩
    · have elsewhere : other ≠ place := by
        rintro rfl
        exact spared mine
      exact (alike other).trans (others other elsewhere)
    · obtain ⟨named', given', _, leads', _⟩ := replaces.removes
      cases given.symm.trans given'
      cases leads.symm.trans leads'
      exact vanished
    · by_cases here : other = place
      · exact here ▸ vanished
      · exact ((alike other).trans (others other here)).trans vacant

theorem temporary_leaves {chosen : String} {place : Place} {ready : Host}
    (unnamed : ∀ named, path = some named → named = "") (free : host.files.nodeAt place = none)
    (leads : ready.placeOf? chosen = some place) (there : ready.hasFile place)
    (others : AlikeBut (· = place) host ready)
    (outcome : (¬ FindsPorts host path credentials ∧ Alike ready after) ∨ Alike (ready.removeFile chosen).2 after) :
    LeavesOthers host path credentials after := by
  rcases outcome with ⟨portless, alike⟩ | alike
  · refine ⟨fun other stands _ => ?_, fun other replaces => absurd replaces (not_replaces_of_unnamed unnamed other),
      fun given => ?_⟩
    · have elsewhere : other ≠ place := by
        rintro rfl
        exact stands free
      exact (alike other).trans (others other elsewhere)
    · rcases given with ⟨named, given, nonempty⟩ | found
      · exact absurd (unnamed named given) nonempty
      · exact absurd found portless
  · rw [Host.removeFile_of_hasFile leads there] at alike
    refine .of_alike (fun other => ?_) (not_replaces_of_unnamed unnamed)
    by_cases here : other = place
    · rw [here, free, alike place]
      exact Host.FileTree.nodeAt_erase_self _ (Host.FileTree.placeOf?_ne_nil leads)
    · calc after.files.nodeAt other
        _ = (ready.withoutNode place).files.nodeAt other := alike other
        _ = ready.files.nodeAt other := ready.withoutNode_alikeBut place other here
        _ = host.files.nodeAt other := others other here

theorem write_error_leaves {error : Error} (failed : write host path credentials = (.error error, after)) :
    LeavesOthers host path credentials after := by
  rcases write_eq_error failed with ⟨noText, rfl⟩ | chose | ⟨chosen, ready, chose, failed⟩
  · refine .of_alike (.refl _) (fun place replaces => ?_)
    obtain ⟨text, isText⟩ := replaces.isText
    exact noText text isText
  · rcases choosePath_traces host path with
      ⟨named, _, _, same⟩ | ⟨unnamed, ⟨error', after', same, alike⟩ | ⟨_, _, _, same, _⟩⟩
    · rw [same] at chose
      cases chose
    · rw [same] at chose
      cases chose
      exact .of_alike alike (not_replaces_of_unnamed unnamed)
    · rw [same] at chose
      cases chose
  · have takes := freshPorts_takes ready credentials.transport (addressed credentials).ip
        credentials.ports.unsetChannels.length
    -- Without ports nothing has happened since the path was chosen; with them, the file at the path is gone at most.
    have outcome : (¬ FindsPorts host path credentials ∧ Alike ready after) ∨
        (∃ text, Utf8.decode credentials.key = .ok text) ∧ FindsPorts host path credentials ∧
          Alike (ready.removeFile chosen).2 after := by
      rcases failed with drew | ⟨isText, fresh, drawn, content, drew, secured⟩
      · rw [drew] at takes
        refine .inl ⟨fun found => ?_, takes.alike⟩
        obtain ⟨fresh, done⟩ := found chosen ready chose
        rw [drew] at done
        cases done
      · rw [drew] at takes
        refine .inr ⟨isText, fun chosen' ready' chose' => ?_,
          (takes.removeFile chosen).trans (secureWrite_error secured)⟩
        rw [chose] at chose'
        cases chose'
        exact ⟨fresh, congrArg Prod.fst drew⟩
    rcases choosePath_traces host path with
      ⟨named, given, nonempty, same⟩ | ⟨unnamed, ⟨_, _, same, _⟩ | ⟨_, place, _, same, traces⟩⟩
    · rw [same] at chose
      cases chose
      rcases outcome with ⟨portless, alike⟩ | ⟨isText, found, alike⟩
      · exact .of_alike alike (fun place replaces => portless replaces.findsPorts)
      · exact secureWrite_leaves given nonempty isText found alike
    · rw [same] at chose
      cases chose
    · rw [same] at chose
      cases chose
      obtain ⟨free, leads, there, others⟩ := traces
      exact temporary_leaves unnamed free leads there others (outcome.imp_right (fun found => found.2.2))

end

end Mooring.ConnectionFile
