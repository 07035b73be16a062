import Mooring.Provisioner.Local

/-! What the provisioner of a plugin does when a kernel is launched or cleaned up, as a program that
asks for one action after another. Some actions call back into a connector. -/

namespace Mooring

inductive Call
  | prepare (id : Option String) (spec : KernelSpec)
  | restart (id : String)
  | release (id : String)
  | releaseAll
  | contains (id : String)
  | ids
  | file (id : String)
  | info (id : String) (live : Bool)
  | connect (id : String) (channel : Channel) (identity : Option Bytes)
  deriving Inhabited

/-- What a connector answers. A call that would wait for itself never comes back, and one that is
nested too deep is refused. -/
inductive Reply
  | done (result : Except Error Unit)
  | text (result : Except Error String)
  | flag (value : Bool)
  | names (values : List String)
  | snapshot (result : Except Error Snapshot)
  | socket (result : Except Error Socket)
  | stuck
  | refused
  | absent
  deriving Inhabited

inductive ConnectorChoice
  | numbered (index : Nat)
  | newest

inductive Event
  | constructed (name id : String) (config : Json.Members) (cachePorts : Bool)
  | launching (id : String)
  | cleaning (id : String) (restart : Bool)
  | answers (rows : List (String × Reply))

inductive Action
  | writeFile
  | keepSnapshot (live : Bool)
  | call (connector : ConnectorChoice) (call : Call)
  | tell (event : Event)

/-- A program that ends with a result or asks for an action and goes on with the answer. -/
inductive Hook
  | finish (result : Except Error Unit)
  | act (action : Action) (next : Reply → Hook)

namespace Hook

def done : Hook := .finish (.ok ())

def fail (error : Error) : Hook := .finish (.error error)

def afterwards (action : Action) (rest : Hook) : Hook := .act action (fun _ => rest)

def callEach (connector : ConnectorChoice) (rest : Hook) :
    List (String × Call) → List (String × Reply) → Hook
  | [], rows => .act (.tell (.answers rows)) (fun _ => rest)
  | (label, call) :: calls, rows =>
    .act (.call connector call) (fun reply => callEach connector rest calls (rows ++ [(label, reply)]))

end Hook

/-- A provisioner from outside: whether it can be made, and its work at the n-th launch and at each
cleanup of a kernel. -/
structure Plugin where
  refusal : Option Error := none
  preLaunch : String → Nat → Hook
  cleanup : String → Bool → Hook

end Mooring
