import Mooring.Summary.Credentials
import Mooring.Connection.Files
import Mooring.PortClaims

/-! Summaries of connections and their snapshots as JSON. -/

namespace Mooring.Summary

open Json (Value)

def auth : SessionAuth → Value
  | .live live => .object [("live", .object (session live))]
  | .exported key scheme =>
    .object [("exported", .object [("key", bytes key), ("scheme", .text scheme)])]

def snapshot (snapshot : Snapshot) : Value :=
  .object
    [("transport", .text snapshot.transport.name), ("ip", .text snapshot.ip),
      ("ports", ports snapshot.ports), ("distinct", .boolean snapshot.ports.isDistinct),
      ("auth", auth snapshot.auth)]

def claimedPorts (claims : PortClaims) (ports : Ports) : Nat :=
  (ports.values.filter claims.isClaimed).length

def connection (claims : PortClaims) (host : Host) (connection : Connection) : Value :=
  .object
    ([("transport", .text connection.transport.name), ("ip", .text connection.ip),
        ("ports", ports connection.ports), ("file", optional .text connection.file),
        ("exists", .boolean ((connection.file.map host.pathExists).getD false)),
        ("written", .boolean connection.written),
        ("random", optional channels connection.allocated),
        ("kernel_name", .text connection.kernelName),
        ("complete", .boolean connection.ports.isComplete),
        ("distinct", .boolean connection.ports.isDistinct),
        ("claimed", .natural (claimedPorts claims connection.ports))]
      ++ session connection.session)

def allocated (channels : Option (List Channel)) : Value :=
  optional
    (fun channels =>
      .object
        [("empty", .boolean channels.isEmpty),
          ("contains",
            .list (Channel.all.map (fun channel => .boolean (channels.contains channel))))])
    channels

end Mooring.Summary
