import Mooring.Text.Hex
import Mooring.Credentials.Printer
import Mooring.Session
import Mooring.Socket

/-! Summaries of credentials, sessions and sockets as JSON, for programs that watch them. -/

namespace Mooring.Summary

open Json (Value)

def optional {α : Type} (encode : α → Value) (value : Option α) : Value := (value.map encode).getD .null

def texts (values : List String) : Value := .list (values.map .text)

/-- Bytes that are no text are shown in hexadecimal digits. -/
def bytes (value : Bytes) : Value :=
  match Utf8.decode? value with
  | some text => .text text
  | none => .object [("hex", .text (Text.hexOfBytes value))]

def fault (fault : Json.Fault) : Value :=
  let category (name : String) : Json.Members :=
    [("error", .text "Serialization"), ("category", .text name)]
  match fault with
  | .malformed => .object (category "syntax")
  | .truncated => .object (category "eof")
  | .rejected message => .object (("message", .text message) :: category "data")

def error : Error → Value
  | .serialization reason => fault reason
  | error => .object [("error", .text error.kind), ("message", .text error.message)]

def result {α : Type} (encode : α → Value) : Except Error α → Value
  | .ok value => .object [("ok", encode value)]
  | .error reason => error reason

def outcome (value : Except Error Unit) : Value := result (fun _ => .null) value

def perChannel {α : Type} (encode : α → Value) (value : Channel → α) : Value :=
  .object (Channel.all.map (fun channel => (channel.name, encode (value channel))))

def transport (transport : Transport) : Value :=
  .object
    [("str", .text transport.name), ("display", .text transport.name),
      ("json", .text (Value.text transport.name).compact)]

def channel (channel : Channel) : Value :=
  let orders := [Channel.all, Channel.allocationOrder, Channel.tunnelOrder]
  .object
    [("str", .text channel.name), ("port_key", .text channel.portKey),
      ("socket_type", .text (Socket.kindOf channel)),
      ("order", .list (orders.map (fun order => .natural (order.idxOf channel))))]

def channels (values : List Channel) : Value := texts (values.map Channel.name)

def ports (ports : Ports) : Value := perChannel portValue ports.get

def portMembers (ports : Ports) : Value :=
  .object (Channel.allocationOrder.map
    (fun channel => (channel.portKey, portValue (ports.get channel))))

def portSet (ports : Ports) : Value :=
  .object
    [("unset", channels ports.unsetChannels), ("complete", .boolean ports.isComplete),
      ("distinct", .boolean ports.isDistinct), ("values", .list (ports.values.map portValue)),
      ("json", .text (portMembers ports).compact)]

def portList (ports : List UInt16) : Value :=
  .object
    [("count", .natural ports.length), ("distinct", .natural ports.eraseDups.length),
      ("positive", .boolean (ports.all (· ≠ 0)))]

def patch (patch : CredentialsPatch) : Value :=
  .object
    [("json", result .text patch.text), ("ports", perChannel (optional portValue) patch.ports.get),
      ("empty", .boolean patch.isEmpty)]

def credentials (info : Credentials) : Value :=
  .object
    [("ports", ports info.ports), ("ip", .text info.ip), ("key", bytes info.key),
      ("transport", .text info.transport.name), ("signature_scheme", .text info.signatureScheme),
      ("kernel_name", .text info.kernelName), ("has_key", .boolean info.hasKey),
      ("json", result .text info.fileText), ("urls", perChannel .text info.url),
      ("ipc_paths", perChannel .text info.ipcPath), ("validate", outcome info.validate),
      ("unset", channels info.ports.unsetChannels), ("patch", patch info.toPatch)]

def written (row : String × Credentials) : Value :=
  .object
    [("path", .text row.1), ("ip", .text row.2.ip), ("key", bytes row.2.key),
      ("ports", ports row.2.ports), ("validate", outcome row.2.validate)]

def session (session : Session) : Json.Members :=
  [("key", bytes session.key), ("scheme", .text session.signatureScheme),
    ("history", .natural session.history.size)]

def socket (socket : Socket) : Value :=
  .object
    [("type", .text socket.kind), ("linger", .natural socket.linger),
      ("identity", bytes socket.identity)]

end Mooring.Summary
