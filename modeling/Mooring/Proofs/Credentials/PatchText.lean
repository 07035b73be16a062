import Mooring.Proofs.Credentials.Agreement

/-! The parts of a patch in the text of a file. Each part that is there is read back, in whatever order they stand and
whichever others are missing, so a connection file says as a patch exactly what its credentials say, and a patch that is
written on its own is read as the patch it was. -/

namespace Mooring

theorem Json.membersChars_eq_laidOut (first : Bool) (members : Json.Members) :
    Json.Value.membersChars first members = Json.laidOut [] [] Json.Value.chars first members := by
  induction members generalizing first with
  | nil => rfl
  | cons member rest ih =>
    obtain ⟨name, value⟩ := member
    rw [Json.Value.membersChars, Json.laidOut, ih]
    simp

theorem keyValue_eq_error {key : Bytes} {fault : Json.Fault} (refused : keyValue key = .error fault) :
    ∃ reason, Utf8.decode key = .error reason ∧ fault = .rejected reason.message := by
  unfold keyValue at refused
  split at refused
  next => cases refused
  next reason undecoded =>
    cases refused
    exact ⟨reason, undecoded, rfl⟩

namespace CredentialsPatch

open Json (AllBlank EndsNumber mapResult)

def Field.written? (patch : CredentialsPatch) (key : Option String) : Field → Option Json.Value
  | .transport => patch.transport.map (fun transport => .text transport.name)
  | .ip => patch.ip.map .text
  | .port channel => (patch.ports.get channel).map portValue
  | .key => key.map .text
  | .signatureScheme => patch.signatureScheme.map .text
  | .kernelName => patch.kernelName.map .text

def Field.take (source : CredentialsPatch) : Field → CredentialsPatch → CredentialsPatch
  | .transport => fun patch => { patch with transport := source.transport.or patch.transport }
  | .ip => fun patch => { patch with ip := source.ip.or patch.ip }
  | .port channel => fun patch =>
    { patch with ports := patch.ports.set channel ((source.ports.get channel).or (patch.ports.get channel)) }
  | .key => fun patch => { patch with key := source.key.or patch.key }
  | .signatureScheme => fun patch => { patch with signatureScheme := source.signatureScheme.or patch.signatureScheme }
  | .kernelName => fun patch => { patch with kernelName := source.kernelName.or patch.kernelName }

theorem fieldNamed_name (field : Field) : record.fieldNamed? field.name = some field := by
  cases field with
  | port channel => exact Credentials.fieldNamed_port channel
  | transport => exact Credentials.fieldNamed_field .transport
  | ip => exact Credentials.fieldNamed_field .ip
  | key => exact Credentials.fieldNamed_field .key
  | signatureScheme => exact Credentials.fieldNamed_field .signatureScheme
  | kernelName => exact Credentials.fieldNamed_field .kernelName

def members (source : CredentialsPatch) (key : Option String) (fields : List Field) : Json.Members :=
  fields.filterMap (fun field => (field.written? source key).map (fun value => (field.name, value)))

section Members
variable {gap : List Char} (blank : AllBlank gap) {shown : Json.Value → List Char}
  (texts : ∀ text, shown (.text text) = Json.quoted text)
  (naturals : ∀ n, shown (.natural n) = Decimal.digitChars n)
  {source : CredentialsPatch} {key : Option String} (keyText : source.key = key.map Utf8.ofString)

include blank in
theorem readOptional_quoted (text : String) (rest : List Char) :
    Json.readOptional Json.readString (gap ++ Json.quoted text ++ rest) = .ok (some text, rest) :=
  readOptional_string (Json.readString_quoted blank text rest)

include blank texts naturals keyText

theorem reader_written {field : Field} {value : Json.Value} (written : field.written? source key = some value)
    {rest : List Char} (ends : EndsNumber rest) :
    field.reader (gap ++ shown value ++ rest) = .ok (field.take source, rest) := by
  cases field with
  | transport =>
    obtain ⟨transport, is, rfl⟩ := Option.map_eq_some_iff.mp written
    have read := readOptional_transport (readTransport_quoted blank transport rest)
    rw [texts, Field.take, is]
    exact congrArg (mapResult _) read
  | ip =>
    obtain ⟨ip, is, rfl⟩ := Option.map_eq_some_iff.mp written
    rw [texts, Field.take, is]
    exact congrArg (mapResult _) (readOptional_quoted blank ip rest)
  | port channel =>
    obtain ⟨port, is, rfl⟩ := Option.map_eq_some_iff.mp written
    have small : port.toNat < Json.wordLimit := Nat.lt_trans port.toNat_lt (by decide)
    have read := Json.readOptional_word16 (Json.readValue_natural blank small ends 0 0)
        (Credentials.portOf_portValue port)
    rw [portValue, naturals, Field.take, is]
    exact congrArg (mapResult _) read
  | key =>
    obtain ⟨text, rfl, rfl⟩ := Option.map_eq_some_iff.mp written
    have read := readOptional_key (readKey_quoted blank text rest)
    rw [texts, Field.take, keyText]
    exact congrArg (mapResult _) read
  | signatureScheme =>
    obtain ⟨scheme, is, rfl⟩ := Option.map_eq_some_iff.mp written
    rw [texts, Field.take, is]
    exact congrArg (mapResult _) (readOptional_quoted blank scheme rest)
  | kernelName =>
    obtain ⟨name, is, rfl⟩ := Option.map_eq_some_iff.mp written
    rw [texts, Field.take, is]
    exact congrArg (mapResult _) (readOptional_quoted blank name rest)

omit blank texts naturals in
theorem take_unwritten {field : Field} (missing : field.written? source key = none) (patch : CredentialsPatch) :
    field.take source patch = patch := by
  have none_ {α β : Type} {part : Option α} {f : α → β} (unwritten : part.map f = none) : part = none :=
    Option.map_eq_none_iff.mp unwritten
  cases field with
  | port channel =>
    rw [Field.take, none_ missing]
    cases channel <;> rfl
  | key => rw [Field.take, keyText, none_ missing]; rfl
  | transport => rw [Field.take, none_ missing]; rfl
  | ip => rw [Field.take, none_ missing]; rfl
  | signatureScheme => rw [Field.take, none_ missing]; rfl
  | kernelName => rw [Field.take, none_ missing]; rfl

theorem takesAll_members (fuel : Nat) {fields : List Field} (distinct : fields.Nodup)
    (progress : Json.Record.Progress Field CredentialsPatch) (fresh : ∀ field ∈ fields, field ∉ progress.seen) :
    ∃ seen, Json.TakesAll gap shown (record.member fuel) progress (members source key fields)
      ⟨seen, fields.foldl (fun patch field => field.take source patch) progress.state⟩ := by
  induction fields generalizing progress with
  | nil => exact ⟨progress.seen, .nil progress⟩
  | cons field rest ih =>
    obtain ⟨notLater, restDistinct⟩ := List.nodup_cons.mp distinct
    have restFresh : ∀ other ∈ rest, other ∉ progress.seen :=
      fun other among => fresh other (List.mem_cons_of_mem _ among)
    -- A part that is missing has no member, and taking it over changes nothing.
    cases written : field.written? source key with
    | none =>
      rw [members, List.filterMap_cons_none (by rw [written]; rfl), List.foldl_cons, take_unwritten keyText written]
      exact ih restDistinct progress restFresh
    | some value =>
      rw [members, List.filterMap_cons_some (by rw [written]; rfl), List.foldl_cons]
      have taken : Json.Takes gap shown (record.member fuel) progress field.name value
          ⟨field :: progress.seen, field.take source progress.state⟩ := by
        refine ⟨record.readField progress field, ?_, fun after ends => ?_⟩
        · rw [Json.Record.member, fieldNamed_name]
          exact if_neg (fresh field List.mem_cons_self)
        · exact congrArg (mapResult _) (reader_written blank texts naturals keyText written ends)
      have stillFresh : ∀ other ∈ rest, other ∉ field :: progress.seen := by
        intro other among seen
        rcases List.mem_cons.mp seen with rfl | earlier
        · exact notLater among
        · exact restFresh other among earlier
      obtain ⟨seen, later⟩ := ih restDistinct ⟨field :: progress.seen, field.take source progress.state⟩ stillFresh
      exact ⟨seen, .cons taken later⟩

theorem read_members {line close : List Char} (lineBlank : AllBlank line) (closeBlank : AllBlank close)
    {fields : List Field} (distinct : fields.Nodup) :
    read (Json.openBrace :: (Json.laidOut line gap shown true (members source key fields) ++
      close ++ [Json.closeBrace])) =
      .ok (fields.foldl (fun patch field => field.take source patch) {}, []) := by
  generalize whole : Json.laidOut line gap shown true (members source key fields) ++ close ++ [Json.closeBrace] = rest
  have enough : (members source key fields).length < rest.length + 1 := by
    have := Json.length_le_laidOut line gap shown true (members source key fields)
    rw [← whole]
    simp only [List.length_append]
    omega
  obtain ⟨seen, takes⟩ := takesAll_members blank texts naturals keyText (rest.length + 1) distinct ⟨[], {}⟩
    (fun _ _ => List.not_mem_nil)
  have folded := Json.foldMembers_laidOut lineBlank takes closeBlank [] (rest.length + 1) true enough
  rw [whole] at folded
  unfold read Json.Record.read
  rw [Json.skipBlank_cons (by decide)]
  simp only [if_true, folded]
  rfl

end Members

theorem members_all (patch : CredentialsPatch) (key : Option String) : members patch key Field.all =
    member "transport" (patch.transport.map (fun transport => .text transport.name)) ++
      member "ip" (patch.ip.map .text) ++
      Channel.tunnelOrder.flatMap (fun channel => member channel.portKey ((patch.ports.get channel).map portValue)) ++
      member "key" (key.map .text) ++ member "signature_scheme" (patch.signatureScheme.map .text) ++
      member "kernel_name" (patch.kernelName.map .text) := by
  have single (field : Field) :
      ((field.written? patch key).map (fun value => (field.name, value))).toList =
        member field.name (field.written? patch key) := by
    cases field.written? patch key <;> rfl
  have flat : members patch key Field.all =
      Field.all.flatMap (fun field => member field.name (field.written? patch key)) := by
    rw [members, List.filterMap_eq_flatMap_toList]
    exact List.flatMap_congr fun field _ => single field
  rw [flat, Field.all, List.flatMap_append, List.flatMap_append, List.flatMap_map]
  simp [Field.name, Field.written?]

theorem toValue_eq {patch : CredentialsPatch} {key : Option String} (keyText : patch.key = key.map Utf8.ofString) :
    patch.toValue = .ok (.object (members patch key Field.all)) := by
  unfold toValue
  rw [members_all, keyText]
  cases key with
  | none => rfl
  | some text => simp [keyValue, Utf8.ofString, Utf8.decode_encode, Except.map]

theorem foldl_take_all (source : CredentialsPatch) :
    Field.all.foldl (fun patch field => field.take source patch) {} = source := by
  obtain ⟨transport, ip, ⟨shell, iopub, stdin, hb, control⟩, key, scheme, name⟩ := source
  simp [Field.all, Channel.tunnelOrder, Field.take, PerChannel.set, PerChannel.get, PerChannel.ofFn]

theorem parse_compact {patch : CredentialsPatch} {key : Option String} (keyText : patch.key = key.map Utf8.ofString) :
    parse (Json.Value.object (members patch key Field.all)).compact = .ok patch := by
  have texts (text : String) : (Json.Value.text text).chars = Json.quoted text := by rw [Json.Value.chars]
  have naturals (n : Nat) : (Json.Value.natural n).chars = Decimal.digitChars n := by
    rw [Json.Value.natural, Json.Value.chars]
    rfl
  have noBlanks : AllBlank [] := List.forall_mem_nil _
  have read := read_members noBlanks texts naturals keyText noBlanks noBlanks (show Field.all.Nodup by decide)
  rw [List.append_nil, ← Json.membersChars_eq_laidOut, foldl_take_all] at read
  rw [parse, parseJson, Json.Value.compact, String.toList_ofList, Json.Value.chars, List.cons_append, read]
  rfl

theorem exists_keyText {patch : CredentialsPatch}
    (isText : ∀ key, patch.key = some key → key.toByteArray.IsValidUTF8) :
    ∃ key : Option String, patch.key = key.map Utf8.ofString := by
  cases there : patch.key with
  | none => exact ⟨none, rfl⟩
  | some bytes =>
    obtain ⟨text, decoded⟩ := (Utf8.decode_isOk_iff bytes).mpr (isText bytes there)
    refine ⟨some (String.ofList text), ?_⟩
    rw [Option.map_some, Utf8.ofString, String.toList_ofList, Utf8.encode_of_decode decoded]

/-- A patch whose key is missing or UTF-8 can be written, and what was written reads as the very same patch. With any
other key there is no text for the patch. -/
theorem text_roundTrip (patch : CredentialsPatch) :
    ((∀ key, patch.key = some key → key.toByteArray.IsValidUTF8) →
      ∃ text, patch.text = .ok text ∧ parse text = .ok patch) ∧
    ∀ key, patch.key = some key → ¬ key.toByteArray.IsValidUTF8 →
      ∃ fault, Utf8.decode key = .error fault ∧ patch.text = .error (.serialization (.rejected fault.message)) := by
  constructor
  · intro isText
    obtain ⟨key, keyText⟩ := exists_keyText isText
    refine ⟨_, ?_, parse_compact keyText⟩
    rw [text, toValue_eq keyText]
  · intro key there noText
    cases asText : keyValue key with
    | ok value =>
      obtain ⟨text, -, rfl⟩ := keyValue_eq_ok asText
      exact absurd ((Utf8.decode_isOk_iff _).mp ⟨_, Utf8.decode_encode _⟩) noText
    | error refusal =>
      obtain ⟨fault, undecoded, rfl⟩ := keyValue_eq_error asText
      refine ⟨fault, undecoded, ?_⟩
      simp [text, toValue, there, asText, Except.map]

theorem text_roundTrip_marked :
    let patch : CredentialsPatch :=
      { ip := some "\"\\\n"
        ports := ⟨some 0, none, some 65535, none, none⟩
        key := some [0xC3, 0xA9]
        kernelName := some "\t\x01é" }
    (∃ text, patch.text = .ok text ∧ parse text = .ok patch) ∧
      ({ patch with key := some [0xC3] } : CredentialsPatch).text =
        .error (.serialization (.rejected "incomplete utf-8 byte sequence from index 0")) := by
  intro patch
  have letter : ([0xC3, 0xA9] : Bytes).toByteArray.IsValidUTF8 := (Utf8.decode_isOk_iff _).mp ⟨['é'], rfl⟩
  have half : ¬ ([0xC3] : Bytes).toByteArray.IsValidUTF8 := by
    rw [← Utf8.decode_isOk_iff]
    rintro ⟨text, decoded⟩
    cases decoded
  refine ⟨(text_roundTrip patch).1 fun key there => Option.some.inj there ▸ letter, ?_⟩
  obtain ⟨fault, undecoded, written⟩ := (text_roundTrip { patch with key := some [0xC3] }).2 _ rfl half
  cases undecoded
  exact written

end CredentialsPatch

namespace Credentials

open CredentialsPatch (members)

def fileFields : List CredentialsPatch.Field := Channel.allocationOrder.map .port ++ Field.all.map Field.ofPatch

theorem fileMembers_eq_members (credentials : Credentials) (key : String) :
    credentials.fileMembers key = members credentials.toPatch (some key) fileFields := rfl

theorem foldl_take_toPatch (credentials : Credentials) :
    fileFields.foldl (fun patch field => field.take credentials.toPatch patch) {} = credentials.toPatch := rfl

/-- A connection file says as a patch exactly what its credentials say. -/
theorem parsePatch_fileText {credentials : Credentials} {text : String} (written : credentials.fileText = .ok text) :
    CredentialsPatch.parse text = .ok credentials.toPatch := by
  obtain ⟨key, keyText, rfl⟩ := fileText_eq_ok written
  have texts (text : String) : (Json.Value.text text).prettyChars 1 = Json.quoted text := by rw [Json.Value.prettyChars]
  have naturals (n : Nat) : (Json.Value.natural n).prettyChars 1 = Decimal.digitChars n := by
    rw [Json.Value.natural, Json.Value.prettyChars]
    rfl
  have keyMap : credentials.toPatch.key = (some key).map Utf8.ofString := congrArg some keyText.symm
  have read := CredentialsPatch.read_members (show Json.AllBlank [' '] by simp [Json.AllBlank, Json.isBlank]) texts
    naturals keyMap (Json.allBlank_indent 1) (Json.allBlank_indent 0) (show fileFields.Nodup by decide)
  rw [CredentialsPatch.parse, CredentialsPatch.parseJson, Json.Value.pretty, String.toList_ofList,
    prettyChars_fileMembers,
    fileMembers_eq_members, read, foldl_take_toPatch]
  rfl

end Credentials
end Mooring
