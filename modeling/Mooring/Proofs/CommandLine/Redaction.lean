import Mooring.CommandLine.Run
import Mooring.Proofs.ConnectionFile.Validity
import Mooring.Proofs.Credentials.PatchText
import Mooring.Proofs.Json.Records

/-! What can be seen of a key. Connection files that differ in their keys alone are shown alike, and so are sessions and
the connections that hold them. -/

namespace Mooring

namespace CredentialsPatch

def HasTextKey (patch : CredentialsPatch) : Prop := ∃ key : Option String, patch.key = key.map Utf8.ofString

theorem record_keeps_textKey : record.Keeps HasTextKey := by
  intro field text rest change done patch textual
  cases field with
  | key =>
    obtain ⟨key, read, rfl⟩ := Json.mapResult_eq_ok done
    rcases Json.readOptional_eq_ok read with rfl | ⟨bytes, rfl, inner⟩
    · exact ⟨none, rfl⟩
    · obtain ⟨letters, -, rfl⟩ := Json.mapResult_eq_ok inner
      exact ⟨some letters, rfl⟩
  | transport => obtain ⟨_, -, rfl⟩ := Json.mapResult_eq_ok done; exact textual
  | ip => obtain ⟨_, -, rfl⟩ := Json.mapResult_eq_ok done; exact textual
  | port channel => obtain ⟨_, -, rfl⟩ := Json.mapResult_eq_ok done; exact textual
  | signatureScheme => obtain ⟨_, -, rfl⟩ := Json.mapResult_eq_ok done; exact textual
  | kernelName => obtain ⟨_, -, rfl⟩ := Json.mapResult_eq_ok done; exact textual

theorem hasTextKey_of_parse {text : String} {patch : CredentialsPatch} (parsed : parse text = .ok patch) :
    patch.HasTextKey := by
  unfold parse at parsed
  cases read : parseJson text with
  | error fault =>
    rw [read] at parsed
    cases parsed
  | ok whole =>
    rw [read] at parsed
    cases parsed
    obtain ⟨rest, done, -⟩ := Json.readEnd_eq_ok_iff.mp read
    obtain ⟨listed, progress, same, textual⟩ := Json.Record.read_keeps record_keeps_textKey ⟨none, rfl⟩ done
    cases same
    exact textual

/-- The members do not depend on the key of the patch, but on the text that is given for it. -/
theorem members_withKey (patch : CredentialsPatch) (key : Option Bytes) (shown : Option String) (fields : List Field) :
    members { patch with key := key } shown fields = members patch shown fields := rfl

theorem Field.name_eq_key {field : Field} (named : field.name = "key") : field = .key := by
  cases field with
  | key => rfl
  | port channel => cases channel <;> exact absurd named (by decide)
  | transport => exact absurd named (by decide)
  | ip => exact absurd named (by decide)
  | signatureScheme => exact absurd named (by decide)
  | kernelName => exact absurd named (by decide)

theorem Field.written?_of_ne {field : Field} (other : field ≠ .key) (patch : CredentialsPatch)
    (one two : Option String) :
    field.written? patch one = field.written? patch two := by
  cases field with
  | key => exact absurd rfl other
  | _ => rfl

theorem hideKey_member (patch : CredentialsPatch) (key : String) (field : Field) :
    ((field.written? patch (some key)).map (fun value => (field.name, value))).map CommandLine.hideKey =
      (field.written? patch (some CommandLine.redacted)).map (fun value => (field.name, value)) := by
  by_cases isKey : field = .key
  · subst isKey
    rfl
  · rw [Field.written?_of_ne isKey patch (some key) (some CommandLine.redacted), Option.map_map]
    congr 1
    funext value
    exact if_neg (fun named => isKey (Field.name_eq_key named))

theorem map_hideKey_members (patch : CredentialsPatch) (key : String) (fields : List Field) :
    (members patch (some key) fields).map CommandLine.hideKey = members patch (some CommandLine.redacted) fields := by
  unfold members
  rw [List.map_filterMap]
  congr 1
  funext field
  exact hideKey_member patch key field

end CredentialsPatch

namespace CommandLine

open CredentialsPatch (members Field)

/-- A patch as it is shown, with another text in place of its key. -/
def redactedText (patch : CredentialsPatch) : String :=
  (Json.Value.sortedObject (members patch (some redacted) Field.all)).pretty

/-- All that is shown of two patches is the same if they differ in their keys alone. -/
theorem redactedText_withKey (patch : CredentialsPatch) (key : Option Bytes) :
    redactedText { patch with key := key } = redactedText patch := by
  rw [redactedText, CredentialsPatch.members_withKey, redactedText]

theorem shown_eq {patch : CredentialsPatch} (textual : patch.HasTextKey) (keyed : patch.key.isSome) :
    shown patch = .ok (redactedText patch) := by
  obtain ⟨key, same⟩ := textual
  cases key with
  | none =>
    rw [same] at keyed
    cases keyed
  | some key =>
    rw [shown, CredentialsPatch.toValue_eq same]
    simp only [Json.Value.members?, Option.getD_some, CredentialsPatch.map_hideKey_members]
    rfl

theorem hasTextKey_of_read {host : Host} {file : String} {patch : CredentialsPatch}
    (read : ConnectionFile.read host file = .ok patch) : patch.HasTextKey := by
  unfold ConnectionFile.read at read
  split at read
  next => cases read
  next => exact CredentialsPatch.hasTextKey_of_parse read

theorem start_describe {arguments : List String} {around : Surroundings} {file : String} {patch : CredentialsPatch}
    (asked : Command.parse arguments (around.host.env? keyVariable) = .ok (.describe file))
    (read : ConnectionFile.read around.host file = .ok patch) (keyed : patch.key.isSome) :
    start arguments around = (.ended { out := printed [redactedText patch] }, around) := by
  simp only [start, asked, run, describe, read, shown_eq (hasTextKey_of_read read) keyed]

end CommandLine

/-- Two connection files with keys that say the same but for these are shown alike. So are two sessions that differ in
their keys, and a connection with one or the other of them. -/
theorem key_hidden :
    (∀ (arguments others : List String) (one two : CommandLine.Surroundings) (file other : String)
        (patch changed : CredentialsPatch),
      CommandLine.Command.parse arguments (one.host.env? CommandLine.keyVariable) = .ok (.describe file) →
      CommandLine.Command.parse others (two.host.env? CommandLine.keyVariable) = .ok (.describe other) →
      ConnectionFile.read one.host file = .ok patch → ConnectionFile.read two.host other = .ok changed →
      patch.key.isSome → changed.key.isSome → changed = { patch with key := changed.key } →
        ∃ text, CommandLine.start arguments one = (.ended { out := text }, one) ∧
          CommandLine.start others two = (.ended { out := text }, two)) ∧
    ∀ session changed : Session, changed = { session with key := changed.key } →
      session.inspect = changed.inspect ∧
        ∀ connection : Connection, { connection with session := session }.inspect =
          { connection with session := changed }.inspect := by
  constructor
  · intro arguments others one two file other patch changed asked asked' read read' keyed keyed' same
    refine ⟨_, CommandLine.start_describe asked read keyed, ?_⟩
    rw [CommandLine.start_describe asked' read' keyed', same, CommandLine.redactedText_withKey]
  · intro session changed same
    have alike : session.inspect = changed.inspect := by
      rw [same]
      rfl
    refine ⟨alike, fun connection => ?_⟩
    simp only [Connection.inspect, alike]
    rfl

def holding (text : String) : CommandLine.Surroundings :=
  { scene := {
      host := (Host.Isolated.machine [["run"]] []).withNode ["run", "k.json"] (.file (Utf8.ofString text) 0o600 0) } }

def plainText : String := "\x7b\"key\":\"<redacted>\",\"kernel_name\":\"<redacted>\"\x7d"

def listText : String := "[null,null,null,null,null,null,null,\"\\u0022\\n\",null,\"<redacted>\"]"

theorem key_hidden_listed :
    (∃ text, CommandLine.start ["show", "/run/k.json"] (holding plainText) =
      (.ended { out := text }, holding plainText) ∧
      CommandLine.start ["show", "/run/../run/k.json"] (holding listText) =
        (.ended { out := text }, holding listText)) ∧
    (Session.withKey [0]).inspect = (Session.withKey [255, 34]).inspect := by
  have shown := key_hidden.1 ["show", "/run/k.json"] ["show", "/run/../run/k.json"]
      (holding plainText) (holding listText)
    "/run/k.json" "/run/../run/k.json" { key := some (Utf8.ofString "<redacted>"), kernelName := some "<redacted>" }
    { key := some (Utf8.ofString "\"\n"), kernelName := some "<redacted>" } (by decide +kernel) (by decide +kernel)
    (by decide +kernel) (by decide +kernel) rfl rfl rfl
  exact ⟨shown, (key_hidden.2 (Session.withKey [0]) (Session.withKey [255, 34]) rfl).1⟩

end Mooring
