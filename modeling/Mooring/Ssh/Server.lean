import Mooring.Ssh.Login

/-! A server with a list of keys and a password that it accepts. It can drop its connection when a
key that it accepts has signed, or when a password arrives. -/

namespace Mooring.Ssh

inductive HangUp
  | onKey
  | onPassword
  deriving DecidableEq, Repr

structure Server where
  hostKey : String := "host"
  acceptedKeys : List String := []
  acceptedPassword : Option String := none
  hangUp : Option HangUp := none
  closed : Bool := false
  log : List (Attempt × Bool) := []
  deriving DecidableEq, Repr

namespace Server

def accepts (server : Server) : Attempt → Bool
  | .key _ name => server.acceptedKeys.contains name
  | .password _ password => decide (server.acceptedPassword = some password)

/-- Nothing reaches a server that hung up. A dropped key fails, a dropped password counts as
rejected. -/
def respond (server : Server) (attempt : Attempt) : Verdict × Server :=
  if server.closed then (.failed "", server)
  else
    let good := server.accepts attempt
    let logged := { server with log := server.log ++ [(attempt, good)] }
    match attempt, server.hangUp with
    | .key .., some .onKey =>
      if good then (.failed "", { logged with closed := true }) else (.rejected, logged)
    | .password .., some .onPassword => (.rejected, { logged with closed := true })
    | _, _ => (if good then .accepted else .rejected, logged)

end Server
end Mooring.Ssh
