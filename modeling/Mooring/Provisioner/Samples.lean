import Mooring.Provisioner.Hook

/-! Simple plugins for trying connectors out. -/

namespace Mooring.Plugin

def keepSnapshot (rest : Hook) : Hook := Hook.afterwards (.keepSnapshot true) rest

def writeFile (rest : Hook) : Hook :=
  .act .writeFile (fun reply =>
    match reply with
    | .text (.error error) => Hook.fail error
    | _ => rest)

def quietCleanup : String → Bool → Hook := fun _ _ => Hook.done

def recording : Plugin where
  preLaunch := fun _ _ => writeFile (keepSnapshot Hook.done)
  cleanup := quietCleanup

def fileless : Plugin where
  preLaunch := fun _ _ => keepSnapshot Hook.done
  cleanup := quietCleanup

def unmakeable (name : String) : Plugin :=
  { recording with refusal := some (.invalidState ("cannot construct " ++ name)) }

def failingLaunch (plugin : Plugin) : Plugin :=
  { plugin with
    preLaunch := fun id _ =>
      writeFile (Hook.fail (.invalidState ("pre_launch of " ++ id ++ " failed"))) }

def failingCleanup (plugin : Plugin) : Plugin :=
  { plugin with
    cleanup := fun id _ => Hook.fail (.invalidState ("cleanup of " ++ id ++ " failed")) }

def questions (id : String) : List (String × Call) :=
  let spec : KernelSpec := { displayName := "probe" }
  [("prepare", .prepare (some id) spec), ("info", .info id false), ("restart", .restart id),
    ("release", .release id), ("prepare_after_release", .prepare (some id) spec),
    ("contains", .contains id), ("len", .ids), ("list", .ids)]

/-- At its first launch, before it writes anything, it asks the newest connector about its own
kernel. -/
def probing : Plugin :=
  { recording with
    preLaunch := fun id launches =>
      let work := recording.preLaunch id launches
      if launches = 0 then Hook.callEach .newest work (questions id) [] else work }

end Mooring.Plugin
