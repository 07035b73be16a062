import Mooring.Ssh.Target
import Mooring.Ssh.KnownHosts
import Mooring.Host.Files

/-! Logging in to a server: the keys of the agent first, then the key that was asked for, then the
default keys, and a password only when no key was accepted. -/

namespace Mooring.Ssh

inductive Attempt
  | key (user name : String)
  | password (user password : String)
  deriving DecidableEq, Repr

inductive Verdict
  | accepted
  | rejected
  | failed (reason : String)
  deriving DecidableEq, Repr

/-- Where keys are: in an agent, and in files, of which a reader tells what key they hold. -/
structure Keyring where
  agent : Option (List String) := none
  explicit : Option String := none
  readKey : Bytes → Option String

def defaultKeyNames : List String := ["id_ed25519", "id_ecdsa", "id_rsa"]

def defaultKeyPaths (host : Host) : List String :=
  match host.home? with
  | none => []
  | some home => defaultKeyNames.map (Path.join (Path.join home ".ssh"))

namespace Keyring

def keyAt (keyring : Keyring) (host : Host) (path : String) : Option String :=
  match host.readBytes path with
  | .ok content => keyring.readKey content
  | .error _ => none

def keys (keyring : Keyring) (host : Host) : List String :=
  keyring.agent.getD []
    ++ (keyring.explicit.toList ++ defaultKeyPaths host).filterMap (keyring.keyAt host)

end Keyring

def tryKeys {σ : Type} (respond : σ → Attempt → Verdict × σ) (user : String) :
    List String → σ → Bool × σ
  | [], server => (false, server)
  | key :: rest, server =>
    match respond server (.key user key) with
    | (.accepted, server) => (true, server)
    | (_, server) => tryKeys respond user rest server

structure LoginOutcome (σ : Type) where
  result : Except Error Unit
  prompts : List Target
  server : σ

def sendPassword {σ : Type} (respond : σ → Attempt → Verdict × σ) (target : Target)
    (password : String) (server : σ) : Except Error Unit × σ :=
  match respond server (.password target.user password) with
  | (.accepted, server) => (.ok (), server)
  | (.rejected, server) =>
    (.error (.authentication ("password rejected for " ++ target.text)), server)
  | (.failed reason, server) => (.error (.authentication (target.text ++ ": " ++ reason)), server)

/-- Logs in. A password is asked for once, and sent once, if no key is accepted. -/
def logIn {σ : Type} (respond : σ → Attempt → Verdict × σ) (target : Target) (keys : List String)
    (password : Except Error String) (server : σ) : LoginOutcome σ :=
  match tryKeys respond target.user keys server with
  | (true, server) => ⟨.ok (), [], server⟩
  | (false, server) =>
    match password with
    | .error error => ⟨.error error, [target], server⟩
    | .ok password =>
      let (result, server) := sendPassword respond target password server
      ⟨result, [target], server⟩

structure Visit (σ κ : Type) extends LoginOutcome σ where
  known : κ

/-- Reaches a server and logs in, but tells a server that is refused nothing. How a server stands with
those on record, and what is on record once it is learned, is up to the keeper of the record. -/
def enter {σ κ : Type} (host : Host) (standing : κ → Target → String → Standing)
    (learn : κ → Target → String → κ) (known : κ) (hostKey : String)
    (respond : σ → Attempt → Verdict × σ) (target : Target) (keyring : Keyring)
    (password : Except Error String) (server : σ) : Visit σ κ :=
  match host.network.connectFault target.host target.port with
  | some fault =>
    ⟨⟨.error (.tunnel ("cannot reach " ++ target.text ++ ": " ++ fault.message)), [], server⟩, known⟩
  | none =>
    match (standing known target hostKey).judge known (learn known target hostKey) with
    | (false, known) =>
      ⟨⟨.error (.tunnel ("ssh handshake with " ++ target.text ++ " failed: Unknown server key")), [],
        server⟩, known⟩
    | (true, known) => ⟨logIn respond target (keyring.keys host) password server, known⟩

end Mooring.Ssh
