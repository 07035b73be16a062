import Mooring.Summary.Credentials
import Mooring.Ssh.Tunnel

/-! Summaries of servers and of what happened at a login, as JSON. -/

namespace Mooring.Summary

open Json (Value)

def target (target : Ssh.Target) : Value :=
  .object
    [("user", .text target.user), ("host", .text target.host), ("port", portValue target.port),
      ("display", .text target.text)]

def attempt (row : Ssh.Attempt × Bool) : Value :=
  match row.1 with
  | .key user name => .list [.text "publickey", .text user, .text name, .boolean row.2]
  | .password user password => .list [.text "password", .text user, .text password, .boolean row.2]

def knownHosts (known : Ssh.KnownHosts) (key : String) : Value :=
  .object [("entries", .natural known.keys.length), ("matches", .natural (known.keys.count key))]

def visit (prompts : List Ssh.Target) (server : Ssh.Server) (known : Ssh.KnownHosts) : Json.Members :=
  [("server_log", .list (server.log.map attempt)), ("known_hosts", knownHosts known server.hostKey),
    ("prompts", .list (prompts.map (fun target => texts [target.user, target.host])))]

end Mooring.Summary
