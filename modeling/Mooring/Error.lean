import Mooring.Host.Fault
import Mooring.Json.Fault

/-! Everything that can go wrong with connections, provisioners and tunnels. -/

namespace Mooring

inductive Error
  | io (fault : Host.Fault)
  | serialization (fault : Json.Fault)
  | connectionFileNotFound (name : String) (searched : List String)
  | insecurePermissions (path : String) (mode : Nat)
  | invalidKey (reason : String)
  | invalidTransport (text : String)
  | invalidSignatureScheme (text : String)
  | invalidPattern (reason : String)
  | invalidAddress (text : String)
  | provisionerNotFound (name : String)
  | provisionerLoad (name : String) (reason : String)
  | kernelNotFound (id : String)
  | kernelExists (id : String)
  | invalidKernelId (id : String)
  | nonLocalAddress (ip : String)
  | socket (reason : String)
  | tunnel (reason : String)
  | authentication (reason : String)
  | invalidState (reason : String)
  deriving DecidableEq, Repr, Inhabited

namespace Error

def kind : Error → String
  | .io _ => "Io"
  | .serialization _ => "Serialization"
  | .connectionFileNotFound .. => "ConnectionFileNotFound"
  | .insecurePermissions .. => "InsecurePermissions"
  | .invalidKey _ => "InvalidKey"
  | .invalidTransport _ => "InvalidTransport"
  | .invalidSignatureScheme _ => "InvalidSignatureScheme"
  | .invalidPattern _ => "InvalidPattern"
  | .invalidAddress _ => "InvalidAddress"
  | .provisionerNotFound _ => "ProvisionerNotFound"
  | .provisionerLoad .. => "ProvisionerLoad"
  | .kernelNotFound _ => "KernelNotFound"
  | .kernelExists _ => "KernelExists"
  | .invalidKernelId _ => "InvalidKernelId"
  | .nonLocalAddress _ => "NonLocalAddress"
  | .socket _ => "Socket"
  | .tunnel _ => "Tunnel"
  | .authentication _ => "Authentication"
  | .invalidState _ => "InvalidState"

/-- Faults of JSON carry their own text only when a value was refused. -/
def serializationMessage : Json.Fault → String
  | .rejected message => message
  | .malformed => "malformed text"
  | .truncated => "unexpected end of text"

def message : Error → String
  | .io fault => "io error: " ++ fault.message
  | .serialization fault => "serialization error: " ++ serializationMessage fault
  | .connectionFileNotFound name searched =>
    "could not find " ++ Text.quoted name ++ " in " ++ Text.quotedPaths searched
  | .insecurePermissions path mode =>
    "connection file " ++ Text.quotedPath path ++ " has insecure permissions 0o" ++ Text.octalText mode
  | .invalidKey reason => "invalid authentication key: " ++ reason
  | .invalidTransport text => "invalid transport: " ++ text
  | .invalidSignatureScheme text => "invalid signature scheme: " ++ text
  | .invalidPattern reason => "invalid file pattern: " ++ reason
  | .invalidAddress text => "invalid address: " ++ text
  | .provisionerNotFound name => "kernel provisioner '" ++ name ++ "' has not been registered"
  | .provisionerLoad name reason =>
    "failed to load kernel provisioner '" ++ name ++ "': " ++ reason
  | .kernelNotFound id => "no kernel with id '" ++ id ++ "'"
  | .kernelExists id => "kernel '" ++ id ++ "' already exists"
  | .invalidKernelId id => "invalid kernel id '" ++ id ++ "'"
  | .nonLocalAddress ip => "can only launch a kernel on a local interface, not " ++ ip
  | .socket reason => "socket error: " ++ reason
  | .tunnel reason => "tunnel error: " ++ reason
  | .authentication reason => "authentication failed: " ++ reason
  | .invalidState reason => "invalid state: " ++ reason

end Error
end Mooring
