import Mooring.Channel
import Mooring.Text.Utf8

/-! Sockets of the message library that channels speak through, up to the point of connecting: the
kind of socket, the options set on it, and which addresses it accepts. -/

namespace Mooring

structure Socket where
  kind : String
  linger : Nat
  identity : Bytes
  deriving DecidableEq, Repr

namespace Socket

def lingerMilliseconds : Nat := 1000

def kindOf : Channel → String
  | .heartbeat => "REQ"
  | .shell => "DEALER"
  | .stdin => "DEALER"
  | .control => "DEALER"
  | .iopub => "SUB"

def invalidArgument : String := "Invalid argument"

def identityLimit : Nat := 255

def splitUrl : List Char → Option (List Char × List Char)
  | [] => none
  | ':' :: '/' :: '/' :: rest => some ([], rest)
  | c :: rest => (splitUrl rest).map (fun parts => (c :: parts.1, parts.2))

def mayStart (c : Char) : Bool := Text.isAlphanumeric c || c = '[' || c = ':'

def mayFollow (c : Char) : Bool :=
  Text.isAlphanumeric c || ['.', '-', ':', '%', ';', '[', ']', '_', '*'].contains c

/-- A host and a port behind the last colon. Only the first character of the port is looked at. -/
def isNetworkAddress (address : List Char) : Bool :=
  match address with
  | [] => false
  | first :: rest =>
    mayStart first && rest.all mayFollow && address.contains ':'
      && (match (address.reverse.takeWhile (· ≠ ':')).getLast? with
        | some c => Text.isDigit c
        | none => false)

def socketPathLimit : Nat := 108

def fileAddressFault? (address : List Char) : Option String :=
  if socketPathLimit ≤ (Utf8.encode address).length then some "File name too long"
  else if address = ['@'] then some invalidArgument
  else none

def urlFault? (url : String) : Option String :=
  match splitUrl url.toList with
  | none => some invalidArgument
  | some (protocol, address) =>
    if protocol.isEmpty || address.isEmpty then some invalidArgument
    else if protocol = "tcp".toList then
      if isNetworkAddress address then none else some invalidArgument
    else if protocol = "ipc".toList then fileAddressFault? address
    else if protocol = "inproc".toList then none
    else if protocol = "udp".toList then
      some "The protocol is not compatible with the socket type"
    else some "Protocol not supported"

/-- Makes the socket of a channel and connects it. No peer has to be there. An empty identity is
none. -/
def connect (channel : Channel) (url : String) (identity : Option Bytes) : Except Error Socket :=
  let identity := identity.getD []
  let fault := if identityLimit < identity.length then some invalidArgument else urlFault? url
  match fault with
  | some reason => .error (.socket (channel.name ++ " " ++ url ++ ": " ++ reason))
  | none => .ok ⟨kindOf channel, lingerMilliseconds, identity⟩

end Socket
end Mooring
