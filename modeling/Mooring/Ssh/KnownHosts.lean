/-! The keys that servers are known by. A server that is not known is accepted, and its key is
learned; one with another key than before is refused, and so is everybody while the keys cannot be
read. -/

namespace Mooring.Ssh

/-- What is on record about one server. -/
structure KnownHosts where
  readable : Bool := true
  writable : Bool := true
  keys : List String := []
  deriving DecidableEq, Repr

inductive Standing
  | known
  | unknown
  | changed
  | unreadable
  deriving DecidableEq, Repr

/-- Whether a server is accepted, and what is on record afterwards: what was `known`, or what is
`learned` of a new server. -/
def Standing.judge {κ : Type} (known learned : κ) : Standing → Bool × κ
  | .known => (true, known)
  | .unknown => (true, learned)
  | .changed => (false, known)
  | .unreadable => (false, known)

namespace KnownHosts

def standing (known : KnownHosts) (key : String) : Standing :=
  if !known.readable then .unreadable
  else if known.keys.contains key then .known
  else if known.keys.isEmpty then .unknown
  else .changed

def learn (known : KnownHosts) (key : String) : KnownHosts :=
  if known.writable then { known with keys := known.keys ++ [key] } else known

def check (known : KnownHosts) (key : String) : Bool × KnownHosts :=
  (known.standing key).judge known (known.learn key)

end KnownHosts
end Mooring.Ssh
