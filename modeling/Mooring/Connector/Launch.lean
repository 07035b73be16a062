import Mooring.Connector.World

/-! Running provisioners: making one, launching and cleaning up a kernel with it. The calls that
plugins make back into connectors are answered by a function that is passed along. -/

namespace Mooring

/-- How a call from within a hook is answered. -/
abbrev Answerer := Nat → Call → World → Reply × World

structure Bench where
  connection : Connection
  info : Option Snapshot
  world : World

namespace Bench

def perform (answer : Answerer) (bench : Bench) (action : Action) : Reply × Bench :=
  match action with
  | .writeFile =>
    let (result, connection, host) := bench.connection.write bench.world.host
    (.text result,
      { bench with connection := connection, world := { bench.world with host := host } })
  | .keepSnapshot live =>
    (.done (.ok ()), { bench with info := some (bench.connection.snapshot live) })
  | .call choice call =>
    match bench.world.select choice with
    | none => (.absent, bench)
    | some index =>
      let (reply, world) := answer index call bench.world
      (reply, { bench with world := world })
  | .tell event => (.done (.ok ()), { bench with world := bench.world.tell event })

def run (answer : Answerer) : Hook → Bench → Except Error Unit × Bench
  | .finish result, bench => (result, bench)
  | .act action next, bench =>
    let (reply, bench) := bench.perform answer action
    run answer (next reply) bench

end Bench

namespace Provisioner

def make (entry : ProvisionerEntry) (context : ProvisionerContext) (id : String) (spec : KernelSpec)
    (choice : ProvisionerChoice) (world : World) : Except Error Provisioner × World :=
  match entry.maker with
  | .builtin =>
    (.ok (.local_ context.claims
      { name := choice.name
        kernelId := id
        spec := spec
        config := choice.config
        cachePorts := context.cachePorts }), world)
  | .plugin work =>
    let world := world.tell (.constructed choice.name id choice.config context.cachePorts)
    match work.refusal with
    | some error => (.error (.provisionerLoad choice.name error.message), world)
    | none => (.ok (.plugin work id choice.name spec choice.config 0 none), world)

def ofRegistry (registry : Registry) (context : ProvisionerContext) (id : String) (spec : KernelSpec)
    (world : World) : Except Error Provisioner × Registry × World :=
  let choice := registry.choice spec
  match registry.resolve choice.name with
  | (none, registry) => (.error (.provisionerNotFound choice.name), registry, world)
  | (some entry, registry) =>
    let (result, world) := make entry context id spec choice world
    (result, registry, world)

def preLaunch (answer : Answerer) (provisioner : Provisioner) (connection : Connection)
    (world : World) : Except Error Unit × Provisioner × Connection × World :=
  match provisioner with
  | .local_ key state =>
    let (result, stage) :=
      LocalProvisioner.Stage.preLaunch ⟨state, connection, world.claimsOf key, world.host⟩
    (result, .local_ key stage.provisioner, stage.connection,
      { world.setClaims key stage.claims with host := stage.host })
  | .plugin work id name spec config launches info =>
    let world := world.tell (.launching id)
    let (result, bench) := Bench.run answer (work.preLaunch id launches) ⟨connection, info, world⟩
    (result, .plugin work id name spec config (launches + 1) bench.info, bench.connection,
      bench.world)

def cleanup (answer : Answerer) (provisioner : Provisioner) (connection : Connection)
    (restart : Bool) (world : World) : Except Error Unit × Provisioner × Connection × World :=
  match provisioner with
  | .local_ key state =>
    let (state, claims) := state.cleanup (world.claimsOf key) restart
    (.ok (), .local_ key state, connection, world.setClaims key claims)
  | .plugin work id name spec config launches info =>
    let world := world.tell (.cleaning id restart)
    let (result, bench) := Bench.run answer (work.cleanup id restart) ⟨connection, info, world⟩
    (result, .plugin work id name spec config launches bench.info, bench.connection, bench.world)

end Provisioner
end Mooring
