import Mooring.Credentials.Printer
import Mooring.Credentials.Reader
import Mooring.Proofs.Json.Printed
import Mooring.Proofs.Text.Utf8

/-! The text of a connection file. It can be written when the key is text, and reading it gives back
the credentials that were written. -/

namespace Mooring

theorem Transport.parse_name (transport : Transport) : Transport.parse transport.name = .ok transport := by
  cases transport <;> rfl

theorem keyValue_eq_ok {key : Bytes} {value : Json.Value} (done : keyValue key = .ok value) :
    ∃ text, value = .text text ∧ Utf8.ofString text = key := by
  unfold keyValue at done
  split at done
  next text decoded =>
    cases done
    refine ⟨_, rfl, ?_⟩
    rw [Utf8.ofString, String.toList_ofList, Utf8.encode_of_decode decoded]
  next => cases done

theorem readKey_quoted {blanks : List Char} (blank : Json.AllBlank blanks) (text : String) (rest : List Char) :
    readKey (blanks ++ Json.quoted text ++ rest) = .ok (Utf8.ofString text, rest) := by
  rw [readKey, Json.readString_quoted blank, Json.mapResult_ok]

theorem readTransport_quoted {blanks : List Char} (blank : Json.AllBlank blanks) (transport : Transport)
    (rest : List Char) : readTransport (blanks ++ Json.quoted transport.name ++ rest) = .ok (transport, rest) := by
  simp only [readTransport, Json.readString_quoted blank, Transport.parse_name]

namespace Credentials

section Members
variable {gap : List Char} (blank : Json.AllBlank gap) (fuel depth : Nat)

theorem portChannel_portKey (channel : Channel) : portChannel? channel.portKey = some channel := by
  cases channel <;> decide +kernel

theorem named_portKey (channel : Channel) : Field.named? channel.portKey = none := by
  cases channel <;> decide +kernel

theorem named_name (field : Field) : Field.named? field.name = some field := by cases field <;> decide +kernel

def portMember (ports : Ports) (channel : Channel) : String × Json.Value :=
  (channel.portKey, portValue (ports.get channel))

include blank in
theorem takes_port (ports : Ports) (channel : Channel) (progress : Progress) :
    Json.Takes gap (Json.Value.prettyChars depth) (member (fuel + 1)) progress channel.portKey
      (portValue (ports.get channel)) { progress with others := progress.others ++ [portMember ports channel] } := by
  refine ⟨_, by rw [member, named_portKey], fun rest ends => ?_⟩
  have small : (ports.get channel).toNat < Json.wordLimit := Nat.lt_trans (ports.get channel).toNat_lt (by decide)
  have read := Json.readValue_natural blank small ends fuel (Json.depthLimit - 1)
  simp only [portValue, Json.Value.natural, Json.Value.prettyChars, Json.Number.chars] at read ⊢
  rw [read]
  rfl

include blank in
theorem takesAll_ports (ports : Ports) (channels : List Channel) (progress : Progress) :
    Json.TakesAll gap (Json.Value.prettyChars depth) (member (fuel + 1)) progress (channels.map (portMember ports))
      { progress with others := progress.others ++ channels.map (portMember ports) } := by
  induction channels generalizing progress with
  | nil =>
    rw [List.map_nil, List.append_nil]
    exact .nil progress
  | cons channel rest ih =>
    have later := ih { progress with others := progress.others ++ [portMember ports channel] }
    rw [List.append_assoc] at later
    exact .cons (takes_port blank fuel depth ports channel progress) later

end Members

def Field.text (credentials : Credentials) (key : String) : Field → String
  | .ip => credentials.ip
  | .key => key
  | .transport => credentials.transport.name
  | .signatureScheme => credentials.signatureScheme
  | .kernelName => credentials.kernelName

def Field.copy (written : Credentials) : Field → Credentials → Credentials
  | .ip => fun credentials => { credentials with ip := written.ip }
  | .key => fun credentials => { credentials with key := written.key }
  | .transport => fun credentials => { credentials with transport := written.transport }
  | .signatureScheme => fun credentials => { credentials with signatureScheme := written.signatureScheme }
  | .kernelName => fun credentials => { credentials with kernelName := written.kernelName }

section Fields
variable {gap : List Char} (blank : Json.AllBlank gap) {written : Credentials} {key : String}
  (keyText : Utf8.ofString key = written.key)

include blank keyText

theorem reader_text (field : Field) (rest : List Char) :
    field.reader (gap ++ Json.quoted (field.text written key) ++ rest) = .ok (field.copy written, rest) := by
  cases field with
  | ip => exact congrArg (Json.mapResult _) (Json.readString_quoted blank written.ip rest)
  | key =>
    have read := readKey_quoted blank key rest
    rw [keyText] at read
    exact congrArg (Json.mapResult _) read
  | transport => exact congrArg (Json.mapResult _) (readTransport_quoted blank written.transport rest)
  | signatureScheme => exact congrArg (Json.mapResult _) (Json.readString_quoted blank written.signatureScheme rest)
  | kernelName => exact congrArg (Json.mapResult _) (Json.readString_quoted blank written.kernelName rest)

theorem takes_field (fuel depth : Nat) {field : Field} {progress : Progress} (fresh : field ∉ progress.seen) :
    Json.Takes gap (Json.Value.prettyChars depth) (member fuel) progress field.name (.text (field.text written key))
      { progress with
        seen := field :: progress.seen, credentials := field.copy written progress.credentials } := by
  refine ⟨_, by rw [member, named_name]; exact if_neg fresh, fun rest _ => ?_⟩
  exact congrArg (Json.mapResult _) (reader_text blank keyText field rest)

theorem takesAll_fields (fuel depth : Nat) {fields : List Field} (distinct : fields.Nodup) (progress : Progress)
    (fresh : ∀ field ∈ fields, field ∉ progress.seen) :
    Json.TakesAll gap (Json.Value.prettyChars depth) (member fuel) progress
      (fields.map (fun field => (field.name, .text (field.text written key))))
      { progress with
        seen := fields.reverse ++ progress.seen
        credentials := fields.foldl (fun credentials field => field.copy written credentials)
          progress.credentials } := by
  induction fields generalizing progress with
  | nil => exact .nil progress
  | cons field rest ih =>
    obtain ⟨notLater, restDistinct⟩ := List.nodup_cons.mp distinct
    have step := takes_field blank keyText fuel depth (fresh field List.mem_cons_self)
    have stillFresh : ∀ other ∈ rest, other ∉ field :: progress.seen := by
      intro other among seen
      rcases List.mem_cons.mp seen with rfl | earlier
      · exact notLater among
      · exact fresh other (List.mem_cons_of_mem _ among) earlier
    have later := ih restDistinct { progress with
      seen := field :: progress.seen, credentials := field.copy written progress.credentials } stillFresh
    rw [List.reverse_cons, List.append_assoc]
    exact .cons step later

end Fields

theorem portOf_portValue (port : UInt16) : portOf (portValue port) = .ok port := by
  simp only [portOf, portValue, Json.Value.natural, Json.wordOf, if_pos port.toNat_lt, UInt16.ofNat_toNat]

theorem collectPorts_printed (ports : Ports) {channels : List Channel} (distinct : channels.Nodup)
    (found : PerChannel (Option UInt16)) (open_ : ∀ channel ∈ channels, found.get channel = none) :
    ∃ all, collectPorts found (channels.map (portMember ports)) = .ok all ∧
      ∀ channel, all.get channel = if channel ∈ channels then some (ports.get channel) else found.get channel := by
  induction channels generalizing found with
  | nil => exact ⟨found, rfl, fun channel => by simp⟩
  | cons first rest ih =>
    obtain ⟨notLater, restDistinct⟩ := List.nodup_cons.mp distinct
    have stillOpen : ∀ channel ∈ rest, (found.set first (some (ports.get first))).get channel = none := by
      intro channel among
      rw [PerChannel.get_set_of_ne _ _ (fun same => notLater (by rw [← same]; exact among))]
      exact open_ channel (List.mem_cons_of_mem _ among)
    obtain ⟨all, collected, values⟩ := ih restDistinct _ stillOpen
    refine ⟨all, ?_, fun channel => ?_⟩
    · simp only [List.map_cons, portMember, collectPorts, portChannel_portKey, open_ first List.mem_cons_self,
        Option.isSome_none, Bool.false_eq_true, if_false, portOf_portValue]
      exact collected
    · rw [values channel]
      by_cases same : channel = first
      · subst same
        simp [notLater, PerChannel.get_set_self]
      · simp [same, PerChannel.get_set_of_ne _ _ same]

theorem requirePorts_complete {found : PerChannel (Option UInt16)} {ports : Ports}
    (complete : ∀ channel, found.get channel = some (ports.get channel)) : requirePorts found = .ok ports := by
  have none_ : Channel.allocationOrder.find? (fun channel => (found.get channel).isNone) = none := by
    simp [complete]
  simp only [requirePorts, none_]
  congr 1
  refine PerChannel.ext_get fun channel => ?_
  simp [PerChannel.map, complete]

theorem finish_printed {progress : Progress} (ports : Ports) (address : Field.ip ∈ progress.seen)
    (others : progress.others = Channel.allocationOrder.map (portMember ports)) :
    finish progress = .ok { progress.credentials with ports := ports } := by
  obtain ⟨all, collected, values⟩ := collectPorts_printed ports
    (show Channel.allocationOrder.Nodup by decide) (PerChannel.ofFn (fun _ => none))
      (fun channel _ => PerChannel.get_ofFn _ channel)
  have complete (channel : Channel) : all.get channel = some (ports.get channel) := by
    rw [values channel, if_pos (Channel.mem_allocationOrder channel)]
  simp only [finish, address, not_true_eq_false, if_false, others, collected, requirePorts_complete complete]

/-- The members of a connection file whose key is `key`. -/
def fileMembers (credentials : Credentials) (key : String) : Json.Members :=
  Channel.allocationOrder.map (portMember credentials.ports) ++
    Field.all.map (fun field => (field.name, .text (field.text credentials key)))

theorem fileText_eq_ok {credentials : Credentials} {text : String} (done : credentials.fileText = .ok text) :
    ∃ key, Utf8.ofString key = credentials.key ∧ text = (Json.Value.object (credentials.fileMembers key)).pretty := by
  unfold fileText toValue at done
  cases written : keyValue credentials.key with
  | error fault => simp [written] at done
  | ok value =>
    obtain ⟨key, rfl, same⟩ := keyValue_eq_ok written
    refine ⟨key, same, ?_⟩
    simp only [written, Except.ok.injEq] at done
    exact done.symm

theorem fileText_isOk_iff (credentials : Credentials) :
    (∃ text, credentials.fileText = .ok text) ↔ ∃ text, Utf8.decode credentials.key = .ok text := by
  unfold fileText toValue keyValue
  cases Utf8.decode credentials.key with
  | error fault => simp
  | ok text => simp

/-- Reading the members of a connection file one after another gives the credentials. -/
theorem takesAll_fileMembers {credentials : Credentials} {key : String} (keyText : Utf8.ofString key = credentials.key)
    (fuel depth : Nat) : ∃ progress : Progress,
      Json.TakesAll [' '] (Json.Value.prettyChars depth) (member (fuel + 1)) ⟨[], {}, []⟩
        (credentials.fileMembers key) progress ∧ finish progress = .ok credentials := by
  have blank : Json.AllBlank [' '] := by simp [Json.AllBlank, Json.isBlank]
  have ports := takesAll_ports blank fuel depth credentials.ports Channel.allocationOrder ⟨[], {}, []⟩
  have fields := takesAll_fields blank keyText (fuel + 1) depth (show Field.all.Nodup by decide)
    ⟨[], {}, [] ++ Channel.allocationOrder.map (portMember credentials.ports)⟩ (fun _ _ => List.not_mem_nil)
  refine ⟨_, ports.append _ _ _ fields, ?_⟩
  rw [finish_printed credentials.ports (List.mem_append_left _ (by decide)) (List.nil_append _)]
  rfl

theorem prettyChars_fileMembers (credentials : Credentials) (key : String) :
    (Json.Value.object (credentials.fileMembers key)).prettyChars 0 = Json.openBrace ::
      (Json.laidOut (Json.Value.indent 1) [' '] (Json.Value.prettyChars 1) true (credentials.fileMembers key)
        ++ Json.Value.indent 0 ++ [Json.closeBrace]) := by
  rw [← Json.prettyMembers_eq_laidOut]
  exact List.cons_append

theorem read_fileMembers {credentials : Credentials} {key : String} (keyText : Utf8.ofString key = credentials.key) :
    read ((Json.Value.object (credentials.fileMembers key)).prettyChars 0) = .ok (credentials, []) := by
  rw [prettyChars_fileMembers]
  generalize whole : Json.laidOut (Json.Value.indent 1) [' '] (Json.Value.prettyChars 1) true
    (credentials.fileMembers key) ++ Json.Value.indent 0 ++ [Json.closeBrace] = rest
  obtain ⟨progress, takes, finished⟩ := takesAll_fileMembers keyText rest.length 1
  have enough : (credentials.fileMembers key).length < rest.length + 1 := by
    have := Json.length_le_laidOut (Json.Value.indent 1) [' '] (Json.Value.prettyChars 1) true
      (credentials.fileMembers key)
    rw [← whole]
    simp only [List.length_append]
    omega
  have folded := Json.foldMembers_laidOut (Json.allBlank_indent 1) takes (Json.allBlank_indent 0) [] (rest.length + 1)
    true enough
  rw [whole] at folded
  unfold read
  rw [Json.skipBlank_cons (by decide)]
  simp only [if_true, folded, finished, Except.map]

/-- Credentials can be written exactly when the key is UTF-8 text, and the text that is written reads
as the very same credentials. -/
theorem fileText_roundTrip (credentials : Credentials) :
    ((∃ text, credentials.fileText = .ok text) ↔ credentials.key.toByteArray.IsValidUTF8) ∧
      ∀ text, credentials.fileText = .ok text → parse text = .ok credentials := by
  refine ⟨(fileText_isOk_iff credentials).trans (Utf8.decode_isOk_iff credentials.key), fun text written => ?_⟩
  obtain ⟨key, keyText, rfl⟩ := fileText_eq_ok written
  rw [parse, parseJson, Json.Value.pretty, String.toList_ofList, read_fileMembers keyText]
  rfl

theorem fileText_roundTrip_marked :
    let credentials : Credentials := { ip := "\"\\\n", kernelName := "\t\x01é", key := [0xC3, 0xA9] }
    ∃ text, credentials.fileText = .ok text ∧ parse text = .ok credentials := by
  intro credentials
  have both := fileText_roundTrip credentials
  obtain ⟨text, written⟩ := both.1.mpr ⟨['é'], rfl⟩
  exact ⟨text, written, both.2 text written⟩

end Credentials
end Mooring
