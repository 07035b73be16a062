import Mooring.Proofs.Credentials.FileText
import Mooring.Proofs.Json.Passing

/-! The two readers of a connection file. What reads as credentials reads as a patch too, and the patch
says the same: a part that it leaves out has its default in the credentials. -/

namespace Mooring

open Json (Fault Reader mapResult)

theorem readOptional_string {text rest : List Char} {value : String} (done : Json.readString text = .ok (value, rest)) :
    Json.readOptional Json.readString text = .ok (some value, rest) := by
  obtain ⟨more, found⟩ := Json.readString_eq_ok done
  rw [Json.readOptional_present (Json.readString_skipBlank text) found (by decide), done, Json.mapResult_ok]

theorem readOptional_key {text rest : List Char} {key : Bytes} (done : readKey text = .ok (key, rest)) :
    Json.readOptional readKey text = .ok (some key, rest) := by
  obtain ⟨value, read, -⟩ := Json.mapResult_eq_ok done
  obtain ⟨more, found⟩ := Json.readString_eq_ok read
  have skips : readKey (Json.skipBlank text) = readKey text := by simp only [readKey, Json.readString_skipBlank]
  rw [Json.readOptional_present skips found (by decide), done, Json.mapResult_ok]

theorem readOptional_transport {text rest : List Char} {transport : Transport}
    (done : readTransport text = .ok (transport, rest)) :
    Json.readOptional readTransport text = .ok (some transport, rest) := by
  have skips : readTransport (Json.skipBlank text) = readTransport text := by
    simp only [readTransport, Json.readString_skipBlank]
  have isText : ∃ more, Json.skipBlank text = '"' :: more := by
    unfold readTransport at done
    split at done
    next => cases done
    next read => exact Json.readString_eq_ok read
  obtain ⟨more, found⟩ := isText
  rw [Json.readOptional_present skips found (by decide), done, Json.mapResult_ok]

namespace Credentials

def Field.ofPatch : Field → CredentialsPatch.Field
  | .ip => .ip
  | .key => .key
  | .transport => .transport
  | .signatureScheme => .signatureScheme
  | .kernelName => .kernelName

def Progress.patch (progress : Progress) (ports : PerChannel (Option UInt16)) : CredentialsPatch where
  transport := if .transport ∈ progress.seen then some progress.credentials.transport else none
  ip := if .ip ∈ progress.seen then some progress.credentials.ip else none
  ports := ports
  key := if .key ∈ progress.seen then some progress.credentials.key else none
  signatureScheme := if .signatureScheme ∈ progress.seen then some progress.credentials.signatureScheme else none
  kernelName := if .kernelName ∈ progress.seen then some progress.credentials.kernelName else none

/-- The ports among the members read so far. -/
def Progress.portsSoFar (progress : Progress) : Except Fault (PerChannel (Option UInt16)) :=
  collectPorts (PerChannel.ofFn (fun _ => none)) progress.others

/-- Both readers are at the same place and hold the same parts. -/
structure Agrees (progress : Progress) (other : Json.Record.Progress CredentialsPatch.Field CredentialsPatch) :
    Prop where
  ports : progress.portsSoFar = .ok other.state.ports
  state : other.state = progress.patch other.state.ports
  fields : ∀ field, field.ofPatch ∈ other.seen ↔ field ∈ progress.seen
  channels : ∀ channel, .port channel ∈ other.seen ↔ (other.state.ports.get channel).isSome
  unread : ∀ field ∉ progress.seen, field.copy {} progress.credentials = progress.credentials

theorem agrees_start : Agrees ⟨[], {}, []⟩ ⟨[], {}⟩ where
  ports := rfl
  state := rfl
  fields field := by simp
  channels channel := by simp [PerChannel.get_ofFn]
  unread field _ := by cases field <;> rfl

theorem collectPorts_append (found : PerChannel (Option UInt16)) (front back : Json.Members) :
    collectPorts found (front ++ back) =
      match collectPorts found front with
      | .error fault => .error fault
      | .ok found => collectPorts found back := by
  induction front generalizing found with
  | nil => rfl
  | cons row rest ih =>
    obtain ⟨name, value⟩ := row
    simp only [List.cons_append, collectPorts]
    split
    next => exact ih found
    next =>
      split
      next => rfl
      next =>
        split
        next => rfl
        next => exact ih _

theorem named_eq_some {name : String} {field : Field} (found : Field.named? name = some field) : name = field.name := by
  have := List.find?_some found
  simpa using (of_decide_eq_true this).symm

theorem portChannel_eq_some {name : String} {channel : Channel} (found : portChannel? name = some channel) :
    name = channel.portKey := by
  have := List.find?_some found
  exact (of_decide_eq_true this).symm

theorem fieldNamed_field (field : Field) :
    CredentialsPatch.record.fieldNamed? field.name = some field.ofPatch := by
  cases field <;> decide +kernel

theorem fieldNamed_port (channel : Channel) :
    CredentialsPatch.record.fieldNamed? channel.portKey = some (.port channel) := by
  cases channel <;> decide +kernel

theorem fieldNamed_unknown {name : String} (noField : Field.named? name = none) (noPort : portChannel? name = none) :
    CredentialsPatch.record.fieldNamed? name = none := by
  cases found : CredentialsPatch.record.fieldNamed? name with
  | none => rfl
  | some field =>
    have same : CredentialsPatch.record.nameOf field = name := by simpa using List.find?_some found
    have clash : (∃ part : Field, part.name = name) ∨ ∃ channel : Channel, channel.portKey = name := by
      cases field with
      | port channel => exact .inr ⟨channel, same⟩
      | transport => exact .inl ⟨.transport, same⟩
      | ip => exact .inl ⟨.ip, same⟩
      | key => exact .inl ⟨.key, same⟩
      | signatureScheme => exact .inl ⟨.signatureScheme, same⟩
      | kernelName => exact .inl ⟨.kernelName, same⟩
    rcases clash with ⟨part, rfl⟩ | ⟨channel, rfl⟩
    · rw [named_name] at noField
      cases noField
    · rw [portChannel_portKey] at noPort
      cases noPort

theorem reader_agrees {field : Field} {text rest : List Char} {change : Credentials → Credentials}
    (read : field.reader text = .ok (change, rest)) :
    ∃ otherChange, field.ofPatch.reader text = .ok (otherChange, rest) ∧
      ∃ source : Credentials, change = field.copy source ∧ ∀ progress ports,
        otherChange (Progress.patch progress ports) = Progress.patch
          { progress with seen := field :: progress.seen, credentials := change progress.credentials } ports := by
  cases field with
  | ip =>
    obtain ⟨value, string, rfl⟩ := Json.mapResult_eq_ok read
    refine ⟨_, congrArg (mapResult _) (readOptional_string string), { ip := value }, rfl,
      fun progress ports => by simp [Progress.patch]⟩
  | key =>
    obtain ⟨value, string, rfl⟩ := Json.mapResult_eq_ok read
    refine ⟨_, congrArg (mapResult _) (readOptional_key string), { key := value }, rfl,
      fun progress ports => by simp [Progress.patch]⟩
  | transport =>
    obtain ⟨value, string, rfl⟩ := Json.mapResult_eq_ok read
    refine ⟨_, congrArg (mapResult _) (readOptional_transport string), { transport := value }, rfl,
      fun progress ports => by simp [Progress.patch]⟩
  | signatureScheme =>
    obtain ⟨value, string, rfl⟩ := Json.mapResult_eq_ok read
    refine ⟨_, congrArg (mapResult _) (readOptional_string string), { signatureScheme := value }, rfl,
      fun progress ports => by simp [Progress.patch]⟩
  | kernelName =>
    obtain ⟨value, string, rfl⟩ := Json.mapResult_eq_ok read
    refine ⟨_, congrArg (mapResult _) (readOptional_string string), { kernelName := value }, rfl,
      fun progress ports => by simp [Progress.patch]⟩

theorem ofPatch_injective {field other : Field} (same : field.ofPatch = other.ofPatch) : field = other := by
  cases field <;> cases other <;> first | rfl | cases same

theorem ofPatch_ne_port (field : Field) (channel : Channel) : field.ofPatch ≠ .port channel := by
  cases field <;> exact fun same => by cases same

theorem copy_copy {field other : Field} (different : other ≠ field) {source credentials : Credentials}
    (unread : other.copy {} credentials = credentials) :
    other.copy {} (field.copy source credentials) = field.copy source credentials := by
  cases field <;> cases other <;> first
    | exact absurd rfl different
    | (simp only [Field.copy] at unread ⊢; grind)

theorem agrees_member {fuel : Nat} {progress next : Progress}
    {other : Json.Record.Progress CredentialsPatch.Field CredentialsPatch} {name : String} {reader : Reader Progress}
    {text rest : List Char} (agrees : Agrees progress other) (known : member (fuel + 1) progress name = .ok reader)
    (read : reader text = .ok (next, rest)) (fine : ∃ ports, next.portsSoFar = .ok ports) :
    ∃ otherReader otherNext, CredentialsPatch.record.member (fuel + 1) other name = .ok otherReader ∧
      otherReader text = .ok (otherNext, rest) ∧ Agrees next otherNext := by
  unfold member at known
  split at known
  next field named =>
    split at known
    next => cases known
    next fresh =>
      cases known
      obtain ⟨change, fieldRead, rfl⟩ := Json.mapResult_eq_ok read
      obtain ⟨otherChange, otherRead, source, rfl, patches⟩ := reader_agrees fieldRead
      obtain rfl := named_eq_some named
      have otherFresh : field.ofPatch ∉ other.seen := fun seen => fresh ((agrees.fields field).mp seen)
      refine ⟨_, _, by rw [Json.Record.member, fieldNamed_field]; exact if_neg otherFresh,
        congrArg (mapResult _) otherRead, ?_⟩
      have state : otherChange other.state = Progress.patch
          { progress with seen := field :: progress.seen, credentials := field.copy source progress.credentials }
          other.state.ports := by
        rw [agrees.state, patches]
        rfl
      have samePorts : (otherChange other.state).ports = other.state.ports := by rw [state]; rfl
      exact {
        ports := by
          rw [samePorts]
          exact agrees.ports
        state := by
          rw [samePorts]
          exact state
        fields := fun part => by
          rw [List.mem_cons, List.mem_cons, agrees.fields part]
          exact or_congr_left ⟨ofPatch_injective, congrArg _⟩
        channels := fun channel => by
          rw [samePorts, List.mem_cons, ← agrees.channels channel]
          exact or_iff_right (ofPatch_ne_port field channel).symm
        unread := fun part notSeen => by
          obtain ⟨different, earlier⟩ := not_or.mp (mt List.mem_cons.mpr notSeen)
          exact copy_copy different (agrees.unread part earlier) }
  next notField =>
    cases known
    obtain ⟨value, valueRead, rfl⟩ := Json.mapResult_eq_ok read
    obtain ⟨ports, collected⟩ := fine
    have collectedLast : collectPorts other.state.ports [(name, value)] = .ok ports := by
      rw [Progress.portsSoFar, collectPorts_append] at collected
      have before := agrees.ports
      rw [Progress.portsSoFar] at before
      rw [before] at collected
      exact collected
    cases port : portChannel? name with
    | none =>
      have same : ports = other.state.ports := by
        simp only [collectPorts, port, Except.ok.injEq] at collectedLast
        exact collectedLast.symm
      have passed := Json.skipValue_of_readValue valueRead
      refine ⟨_, other, by rw [Json.Record.member, fieldNamed_unknown notField port],
        congrArg (mapResult _) passed, ?_⟩
      exact {
        ports := by rw [← same]; exact collected
        state := agrees.state
        fields := agrees.fields
        channels := agrees.channels
        unread := agrees.unread }
    | some channel =>
      obtain rfl := portChannel_eq_some port
      simp only [collectPorts, port] at collectedLast
      split at collectedLast
      next => cases collectedLast
      next open_ =>
        split at collectedLast
        next => cases collectedLast
        next word isWord =>
          simp only [Except.ok.injEq] at collectedLast
          have otherFresh : CredentialsPatch.Field.port channel ∉ other.seen :=
            fun seen => open_ ((agrees.channels channel).mp seen)
          have wordRead : Json.readOptional Json.readWord16 text = .ok (some word, rest) := by
            cases value with
            | number n => exact Json.readOptional_word16 valueRead isWord
            | null | boolean _ | text _ | list _ | object _ => cases isWord
          refine ⟨_, _, by rw [Json.Record.member, fieldNamed_port]; exact if_neg otherFresh,
            congrArg (mapResult _) (congrArg (mapResult _) wordRead), ?_⟩
          exact {
            ports := by rw [collected, ← collectedLast]
            state := by
              rw [agrees.state]
              rfl
            fields := fun part => by
              rw [List.mem_cons, agrees.fields part]
              exact or_iff_right (ofPatch_ne_port part channel)
            channels := fun part => by
              rw [List.mem_cons, agrees.channels part]
              by_cases same : part = channel
              · subst same
                simp [PerChannel.get_set_self]
              · simp [same, PerChannel.get_set_of_ne _ _ same]
            unread := agrees.unread }

/-- A member whose ports cannot be told cannot be mended by later ones. -/
theorem portsSoFar_back {fuel : Nat} {progress next : Progress} {name : String} {reader : Reader Progress}
    {text rest : List Char} (known : member fuel progress name = .ok reader) (read : reader text = .ok (next, rest))
    (fine : ∃ ports, next.portsSoFar = .ok ports) : ∃ ports, progress.portsSoFar = .ok ports := by
  unfold member at known
  split at known
  next =>
    split at known
    next => cases known
    next =>
      cases known
      obtain ⟨_, -, rfl⟩ := Json.mapResult_eq_ok read
      exact fine
  next =>
    cases known
    obtain ⟨_, -, rfl⟩ := Json.mapResult_eq_ok read
    obtain ⟨ports, collected⟩ := fine
    rw [Progress.portsSoFar, collectPorts_append] at collected
    rw [Progress.portsSoFar]
    split at collected
    next => cases collected
    next found same => exact ⟨found, same⟩

theorem finish_eq_ok {progress : Progress} {credentials : Credentials} (done : finish progress = .ok credentials) :
    Field.ip ∈ progress.seen ∧ ∃ found, progress.portsSoFar = .ok found ∧
      (∀ channel, found.get channel = some (credentials.ports.get channel)) ∧
      credentials = { progress.credentials with ports := credentials.ports } := by
  unfold finish at done
  split at done
  next => cases done
  next address =>
    refine ⟨Decidable.not_not.mp address, ?_⟩
    split at done
    next => cases done
    next found collected =>
      refine ⟨found, collected, ?_⟩
      unfold requirePorts at done
      cases missing : Channel.allocationOrder.find? (fun channel => (found.get channel).isNone) with
      | some channel => simp [missing] at done
      | none =>
        simp only [missing, Except.ok.injEq] at done
        subst done
        refine ⟨fun channel => ?_, rfl⟩
        have isThere := List.find?_eq_none.mp missing channel (Channel.mem_allocationOrder channel)
        cases here : found.get channel with
        | none => simp [here] at isThere
        | some port => simp [PerChannel.map, here]

theorem read_eq_ok {text rest : List Char} {credentials : Credentials} (done : read text = .ok (credentials, rest)) :
    ∃ more progress, Json.skipBlank text = Json.openBrace :: more ∧
      Json.foldMembers Json.readName (member (more.length + 1)) (more.length + 1) true ⟨[], {}, []⟩ more
        = .ok (progress, rest) ∧ finish progress = .ok credentials := by
  unfold read at done
  split at done
  next => cases done
  next c more found =>
    split at done
    next brace =>
      subst brace
      split at done
      next => cases done
      next progress left folded =>
        cases finished : finish progress with
        | error fault => simp [finished, Except.map] at done
        | ok result =>
          simp only [finished, Except.map, Except.ok.injEq, Prod.mk.injEq] at done
          obtain ⟨rfl, rfl⟩ := done
          exact ⟨more, progress, found, folded, finished⟩
    next => cases done

end Credentials

/-- A part of a patch says what the whole has there, or it is left out and the whole has its default. -/
def Restates {α : Type} (part : Option α) (whole default : α) : Prop :=
  part = some whole ∨ (part = none ∧ whole = default)

theorem restates_of_seen {α : Type} {seen : Prop} [Decidable seen] {whole default : α}
    (unread : ¬ seen → whole = default) :
    Restates (if seen then some whole else none) whole default := by
  by_cases read : seen
  · exact .inl (if_pos read)
  · exact .inr ⟨if_neg read, unread read⟩

namespace Credentials

/-- Every text that is read as credentials is read as a patch, and all the patch says is what the
credentials say. Address and ports are always in it. -/
theorem parsePatch_of_parse {text : String} {credentials : Credentials} (parsed : parse text = .ok credentials) :
    ∃ patch, CredentialsPatch.parse text = .ok patch ∧ patch.ip = some credentials.ip ∧
      (∀ channel, patch.ports.get channel = some (credentials.ports.get channel)) ∧
      Restates patch.key credentials.key [] ∧ Restates patch.transport credentials.transport .tcp ∧
      Restates patch.signatureScheme credentials.signatureScheme defaultSignatureScheme ∧
      Restates patch.kernelName credentials.kernelName "" := by
  have whole : parseJson text = .ok credentials := by
    unfold parse at parsed
    cases json : parseJson text with
    | error fault => simp [json, Except.mapError] at parsed
    | ok value =>
      simp only [json, Except.mapError, Except.ok.injEq] at parsed
      rw [parsed]
  obtain ⟨rest, readAll, ended⟩ := Json.readEnd_eq_ok_iff.mp whole
  obtain ⟨more, progress, found, folded, finished⟩ := read_eq_ok readAll
  obtain ⟨address, ports, collected, complete, same⟩ := finish_eq_ok finished
  obtain ⟨other, otherFolded, agrees⟩ :
      ∃ other, Json.foldMembers Json.readName (CredentialsPatch.record.member (more.length + 1)) (more.length + 1) true
        ⟨[], {}⟩ more = .ok (other, rest) ∧ Agrees progress other :=
    Json.foldMembers_simulates (fun progress => ∃ ports, progress.portsSoFar = .ok ports) Agrees id (fun done => done)
      portsSoFar_back agrees_member agrees_start folded ⟨ports, collected⟩
  have otherRead : CredentialsPatch.read text.toList = .ok (other.state, rest) := by
    unfold CredentialsPatch.read Json.Record.read
    simp only [found, if_true, otherFolded]
    rfl
  have samePorts : other.state.ports = ports := by
    have both := agrees.ports
    rw [collected] at both
    cases both
    rfl
  have unread (field : Field) (notSeen : field ∉ progress.seen) := agrees.unread field notSeen
  refine ⟨other.state, ?_, ?_, ?_, ?_⟩
  · rw [CredentialsPatch.parse, CredentialsPatch.parseJson, Json.readEnd_eq_ok_iff.mpr ⟨rest, otherRead, ended⟩]
    rfl
  · rw [agrees.state, same]
    exact if_pos address
  · intro channel
    rw [samePorts, complete channel]
  · rw [agrees.state, same]
    exact ⟨restates_of_seen fun notSeen => (congrArg Credentials.key (unread .key notSeen)).symm,
      restates_of_seen fun notSeen => (congrArg Credentials.transport (unread .transport notSeen)).symm,
      restates_of_seen fun notSeen => (congrArg Credentials.signatureScheme (unread .signatureScheme notSeen)).symm,
      restates_of_seen fun notSeen => (congrArg Credentials.kernelName (unread .kernelName notSeen)).symm⟩

theorem parsePatch_of_parse_mixed :
    let text := "\x7b\"control_port\": 4, \"other\": [1.5, \x7b\x7d], \"shell_port\": 1, \"\\u0069p\": \"here\", " ++
      "\"iopub_port\": 2, \"stdin_port\": 3, \"hb_port\": 5\x7d"
    ∃ credentials patch, parse text = .ok credentials ∧ CredentialsPatch.parse text = .ok patch ∧
      patch.ip = some credentials.ip ∧ Restates patch.key credentials.key [] := by
  intro text
  have parsed : parse text = .ok { ports := ⟨1, 2, 3, 4, 5⟩, ip := "here" } := by
    have read : (parse text).toOption = some { ports := ⟨1, 2, 3, 4, 5⟩, ip := "here" } := by decide +kernel
    cases result : parse text with
    | error error => simp [result, Except.toOption] at read
    | ok value => simpa [result, Except.toOption] using read
  obtain ⟨patch, read, address, -, key, -⟩ := parsePatch_of_parse parsed
  exact ⟨_, patch, parsed, read, address, key⟩

end Credentials
end Mooring
