import Mooring.Text.Utf8
import Mooring.Transport
import Mooring.Channel

/-! What a client has to know to reach a kernel: where its channels are, and the key with which
messages are signed. A patch holds any part of it. -/

namespace Mooring

def localhost : String := "127.0.0.1"

def defaultSignatureScheme : String := "hmac-sha256"

structure Credentials where
  ports : Ports := Ports.unset
  ip : String := localhost
  key : Bytes := []
  transport : Transport := .tcp
  signatureScheme : String := defaultSignatureScheme
  kernelName : String := ""
  deriving DecidableEq, Repr, Inhabited

namespace Credentials

def urlOf (transport : Transport) (ip : String) (port : UInt16) : String :=
  match transport with
  | .tcp => "tcp://" ++ ip ++ ":" ++ toString port.toNat
  | .ipc => "ipc://" ++ ip ++ "-" ++ toString port.toNat

def url (credentials : Credentials) (channel : Channel) : String :=
  urlOf credentials.transport credentials.ip (credentials.ports.get channel)

def socketPath (ip : String) (index : UInt16) : String := ip ++ "-" ++ toString index.toNat

def ipcPath (credentials : Credentials) (channel : Channel) : String :=
  socketPath credentials.ip (credentials.ports.get channel)

/-- Every channel needs a port, and no two channels may share one. -/
def validate (credentials : Credentials) : Except Error Unit :=
  if !credentials.ports.isComplete then
    .error (.invalidState ("unassigned ports in " ++ credentials.ports.inspect))
  else if !credentials.ports.isDistinct then
    .error (.invalidState ("colliding ports in " ++ credentials.ports.inspect))
  else .ok ()

def hasKey (credentials : Credentials) : Bool := !credentials.key.isEmpty

/-- The same kernel reached through other ports of this machine. -/
def throughPorts (credentials : Credentials) (ports : Ports) : Credentials :=
  { credentials with ports := ports, ip := localhost }

end Credentials

/-- Credentials of which any part may be missing. -/
structure CredentialsPatch where
  transport : Option Transport := none
  ip : Option String := none
  ports : PerChannel (Option UInt16) := PerChannel.ofFn (fun _ => none)
  key : Option Bytes := none
  signatureScheme : Option String := none
  kernelName : Option String := none
  deriving DecidableEq, Repr, Inhabited

def Credentials.toPatch (credentials : Credentials) : CredentialsPatch where
  transport := some credentials.transport
  ip := some credentials.ip
  ports := credentials.ports.map some
  key := some credentials.key
  signatureScheme := some credentials.signatureScheme
  kernelName := some credentials.kernelName

def CredentialsPatch.isEmpty (patch : CredentialsPatch) : Bool := decide (patch = {})

end Mooring
