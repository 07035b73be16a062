import Mooring.Credentials.Basic

/-! The JSON form of credentials, which is the text of a connection file, and of patches. A key is
written as text, so it has to be UTF-8. -/

namespace Mooring

def keyValue (key : Bytes) : Except Json.Fault Json.Value :=
  match Utf8.decode key with
  | .ok text => .ok (.text (String.ofList text))
  | .error fault => .error (.rejected fault.message)

def portValue (port : UInt16) : Json.Value := .natural port.toNat

namespace Credentials

def toValue (credentials : Credentials) : Except Json.Fault Json.Value :=
  match keyValue credentials.key with
  | .error fault => .error fault
  | .ok key =>
    .ok (.object
      (Channel.allocationOrder.map
          (fun channel => (channel.portKey, portValue (credentials.ports.get channel)))
        ++ [("ip", .text credentials.ip), ("key", key),
          ("transport", .text credentials.transport.name),
          ("signature_scheme", .text credentials.signatureScheme),
          ("kernel_name", .text credentials.kernelName)]))

def fileText (credentials : Credentials) : Except Error String :=
  match credentials.toValue with
  | .error fault => .error (.serialization fault)
  | .ok value => .ok value.pretty

end Credentials

namespace CredentialsPatch

def member (name : String) (value : Option Json.Value) : Json.Members :=
  match value with
  | some value => [(name, value)]
  | none => []

/-- Missing parts are left out. -/
def toValue (patch : CredentialsPatch) : Except Json.Fault Json.Value :=
  let key : Except Json.Fault (Option Json.Value) :=
    match patch.key with
    | none => .ok none
    | some key => (keyValue key).map some
  match key with
  | .error fault => .error fault
  | .ok key =>
    .ok (.object
      (member "transport" (patch.transport.map (fun transport => .text transport.name))
        ++ member "ip" (patch.ip.map .text)
        ++ Channel.tunnelOrder.flatMap
          (fun channel => member channel.portKey ((patch.ports.get channel).map portValue))
        ++ member "key" key
        ++ member "signature_scheme" (patch.signatureScheme.map .text)
        ++ member "kernel_name" (patch.kernelName.map .text)))

def text (patch : CredentialsPatch) : Except Error String :=
  match patch.toValue with
  | .error fault => .error (.serialization fault)
  | .ok value => .ok value.compact

end CredentialsPatch
end Mooring
