import Mooring.Connector.Operations

/-! Answering calls, also those that hooks make while another call is at work. -/

namespace Mooring

namespace Call

/-- The kernel for which a call has to wait while somebody works on it. -/
def awaited? : Call → Option String
  | .restart id => some id
  | .release id => some id
  | .file id => some id
  | .info id _ => some id
  | .connect id _ _ => some id
  | _ => none

end Call

namespace World

def isBusy (world : World) (index : Nat) (id : String) : Bool :=
  match (world.handle? index id).bind world.kernels.get? with
  | some kernel => kernel.busy
  | none => false

/-- Whether a call would wait for work that waits for it. -/
def isStuck (world : World) (index : Nat) (call : Call) : Bool :=
  match call.awaited? with
  | some id => world.isBusy index id
  | none =>
    match call with
    | .releaseAll => (world.ids index).any (world.isBusy index)
    | _ => false

def answerWith (answer : Answerer) (index : Nat) (call : Call) (world : World) : Reply × World :=
  if world.isStuck index call then (.stuck, world)
  else
    match call with
    | .prepare id spec =>
      let (result, world) := prepare answer index id spec world
      (.text result, world)
    | .restart id =>
      let (result, world) := restart answer index id world
      (.done result, world)
    | .release id =>
      let (result, world) := release answer index id world
      (.done result, world)
    | .releaseAll =>
      let (result, world) := releaseAll answer index world
      (.done result, world)
    | .contains id => (.flag (world.contains index id), world)
    | .ids => (.names (world.ids index), world)
    | .file id => (.text (world.connectionFile index id), world)
    | .info id live => (.snapshot (world.info index id live), world)
    | .connect id channel identity =>
      (.socket (world.connectChannel index id channel identity), world)

/-- Answers a call. Hooks may call back so many levels deep. -/
def answer : Nat → Answerer
  | 0 => fun _ _ world => (.refused, world)
  | depth + 1 => answerWith (answer depth)

end World
end Mooring
