import Mooring.Credentials.Basic
import Mooring.Json.Record

/-! Reading credentials and patches from JSON text. Credentials need an address and all five ports;
a patch needs nothing. Unknown members are ignored, but those of credentials have to be whole
values. -/

namespace Mooring

open Json (Fault Reader mapResult)

def readKey : Reader Bytes := fun text => mapResult Utf8.ofString (Json.readString text)

def readTransport : Reader Transport := fun text =>
  match Json.readString text with
  | .error fault => .error fault
  | .ok (name, rest) =>
    match Transport.parse name with
    | .error error => .error (.rejected error.message)
    | .ok transport => .ok (transport, rest)

namespace Credentials

inductive Field
  | ip
  | key
  | transport
  | signatureScheme
  | kernelName
  deriving DecidableEq, Repr

namespace Field

def all : List Field := [.ip, .key, .transport, .signatureScheme, .kernelName]

def name : Field → String
  | .ip => "ip"
  | .key => "key"
  | .transport => "transport"
  | .signatureScheme => "signature_scheme"
  | .kernelName => "kernel_name"

def named? (name : String) : Option Field := all.find? (fun field => decide (field.name = name))

def reader : Field → Reader (Credentials → Credentials)
  | .ip => fun text =>
    mapResult (fun ip credentials => { credentials with ip := ip }) (Json.readString text)
  | .key => fun text => mapResult (fun key credentials => { credentials with key := key }) (readKey text)
  | .transport => fun text =>
    mapResult (fun transport credentials => { credentials with transport := transport }) (readTransport text)
  | .signatureScheme => fun text =>
    mapResult (fun signatureScheme credentials => { credentials with signatureScheme := signatureScheme })
      (Json.readString text)
  | .kernelName => fun text =>
    mapResult (fun kernelName credentials => { credentials with kernelName := kernelName }) (Json.readString text)

end Field

/-- The members read so far. Those that are no fields wait, in the order of the text, for the ports
to be looked up among them. -/
structure Progress where
  seen : List Field
  credentials : Credentials
  others : Json.Members

def member (fuel : Nat) (progress : Progress) (name : String) : Except Fault (Reader Progress) :=
  match Field.named? name with
  | some field =>
    if field ∈ progress.seen then .error (.duplicateField name)
    else
      .ok (fun text =>
        mapResult
          (fun change =>
            { progress with
              seen := field :: progress.seen, credentials := change progress.credentials })
          (field.reader text))
  | none =>
    .ok (fun text =>
      mapResult (fun value => { progress with others := progress.others ++ [(name, value)] })
        (Json.readValue fuel (Json.depthLimit - 1) text))

def portOf : Json.Value → Except Fault UInt16
  | .number n => Json.wordOf n
  | value => .error (.invalidType value.description "u16")

def portChannel? (name : String) : Option Channel :=
  Channel.allocationOrder.find? (fun channel => decide (channel.portKey = name))

def collectPorts : PerChannel (Option UInt16) → Json.Members →
    Except Fault (PerChannel (Option UInt16))
  | found, [] => .ok found
  | found, (name, value) :: rest =>
    match portChannel? name with
    | none => collectPorts found rest
    | some channel =>
      if (found.get channel).isSome then .error (.duplicateField name)
      else
        match portOf value with
        | .error fault => .error fault
        | .ok port => collectPorts (found.set channel (some port)) rest

def requirePorts (found : PerChannel (Option UInt16)) : Except Fault Ports :=
  match Channel.allocationOrder.find? (fun channel => (found.get channel).isNone) with
  | some channel => .error (.missingField channel.portKey)
  | none => .ok (found.map (fun port => port.getD 0))

def finish (progress : Progress) : Except Fault Credentials :=
  if Field.ip ∉ progress.seen then .error (.missingField Field.ip.name)
  else
    match collectPorts (PerChannel.ofFn (fun _ => none)) progress.others with
    | .error fault => .error fault
    | .ok found =>
      match requirePorts found with
      | .error fault => .error fault
      | .ok ports => .ok { progress.credentials with ports := ports }

def read : Reader Credentials := fun text =>
  match Json.skipBlank text with
  | [] => .error .truncated
  | c :: rest =>
    if c = Json.openBrace then
      match Json.foldMembers Json.readName (member (rest.length + 1)) (rest.length + 1) true
          ⟨[], {}, []⟩ rest with
      | .error fault => .error fault
      | .ok (progress, rest) => (finish progress).map (fun credentials => (credentials, rest))
    else .error (Json.mismatch "struct ConnectionInfo" (c :: rest))

def parseJson (text : String) : Except Fault Credentials := Json.readEnd (read text.toList)

def parse (text : String) : Except Error Credentials := (parseJson text).mapError .serialization

end Credentials

namespace CredentialsPatch

inductive Field
  | transport
  | ip
  | port (channel : Channel)
  | key
  | signatureScheme
  | kernelName
  deriving DecidableEq, Repr

namespace Field

def all : List Field :=
  [.transport, .ip] ++ Channel.tunnelOrder.map .port ++ [.key, .signatureScheme, .kernelName]

def name : Field → String
  | .transport => "transport"
  | .ip => "ip"
  | .port channel => channel.portKey
  | .key => "key"
  | .signatureScheme => "signature_scheme"
  | .kernelName => "kernel_name"

def reader : Field → Reader (CredentialsPatch → CredentialsPatch)
  | .transport => fun text =>
    mapResult (fun transport patch => { patch with transport := transport }) (Json.readOptional readTransport text)
  | .ip => fun text =>
    mapResult (fun ip patch => { patch with ip := ip }) (Json.readOptional Json.readString text)
  | .port channel => fun text =>
    mapResult (fun port patch => { patch with ports := patch.ports.set channel port })
      (Json.readOptional Json.readWord16 text)
  | .key => fun text =>
    mapResult (fun key patch => { patch with key := key }) (Json.readOptional readKey text)
  | .signatureScheme => fun text =>
    mapResult (fun signatureScheme patch => { patch with signatureScheme := signatureScheme })
      (Json.readOptional Json.readString text)
  | .kernelName => fun text =>
    mapResult (fun kernelName patch => { patch with kernelName := kernelName })
      (Json.readOptional Json.readString text)

end Field

def record : Json.Record Field CredentialsPatch where
  title := "struct ConnectionInfoPatch"
  fields := Field.all
  nameOf := Field.name
  reader := Field.reader

def read : Reader CredentialsPatch := record.read {} (fun _ progress => .ok progress.state)

def parseJson (text : String) : Except Fault CredentialsPatch := Json.readEnd (read text.toList)

def parse (text : String) : Except Error CredentialsPatch := (parseJson text).mapError .serialization

end CredentialsPatch
end Mooring
