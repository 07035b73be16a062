import Mooring.Proofs.Connection.Narrowing
import Mooring.Proofs.Connector.LocalWork

/-! Launching a kernel with the built-in provisioner, on any machine. The kernel has the file at its path, its ports
are claimed last, and a path that leads somewhere before and after leads to one place. -/

namespace Mooring

open Host (Place Adds AddsNone Narrows Dwindles Turns Spares SparesAll)

theorem Registry.resolve_again (registry : Registry) (name : String) :
    (registry.resolve name).2.defaultName = registry.defaultName ∧
      ((registry.resolve name).2.resolve name).1 = (registry.resolve name).1 := by
  cases known : registry.entries.get? name with
  | some entry => simp [resolve, known]
  | none =>
    cases found : lookup name (registry.discovery.single name) with
    | none => simp [resolve, known, found]
    | some entry => simp [resolve, known, found, insertIfAbsent, Table.get?_set_self]

theorem Registry.OffersBuiltin.resolve {registry : Registry} {spec : KernelSpec}
    (offers : registry.OffersBuiltin spec) :
    (registry.resolve (registry.choice spec).name).2.OffersBuiltin spec := by
  obtain ⟨defaultName, found⟩ := registry.resolve_again (registry.choice spec).name
  have choice : (registry.resolve (registry.choice spec).name).2.choice spec = registry.choice spec := by
    unfold Registry.choice at defaultName ⊢
    rw [defaultName]
  unfold OffersBuiltin
  rw [choice, found]
  exact offers

def Connector.kernelPath (connector : Connector) (id : String) : String :=
  Path.join connector.directory (World.fileName id)

/-- A connector as it was, but for its kernels and the provisioners that it has looked up. -/
structure Connector.Continues (spec : KernelSpec) (original connector : Connector) : Prop where
  directory : connector.directory = original.directory
  transport : connector.transport = original.transport
  claims : connector.claims = original.claims
  offers : connector.registry.OffersBuiltin spec

theorem Connector.Continues.kernelPath {spec : KernelSpec} {original connector : Connector}
    (continues : original.Continues spec connector) (id : String) :
    connector.kernelPath id = original.kernelPath id := by
  unfold Connector.kernelPath
  rw [continues.directory]

structure Kernel.Owns (key : Nat) (transport : Transport) (path : String) (kernel : Kernel) : Prop where
  isLocal : ∃ state, kernel.provisioner = .local_ key state
  transport : kernel.connection.transport = transport
  file : kernel.connection.file = some path
  written : kernel.connection.written = true

namespace World

variable {answerer : Answerer} {index : Nat} {spec : KernelSpec} {original connector : Connector}
    {world : World} {id : String}

def Employs (index : Nat) (spec : KernelSpec) (original : Connector) (world : World) : Prop :=
  ∃ connector, world.connector? index = some connector ∧ original.Continues spec connector

theorem Employs.modifySlots (employs : world.Employs index spec original) (other : Nat)
    (change : Table String Slot → Table String Slot) :
    (world.modifySlots other change).Employs index spec original := by
  obtain ⟨connector, known, continues⟩ := employs
  unfold Employs
  rw [connector?_modifySlots]
  split
  next same =>
    rw [← same, known]
    exact ⟨_, rfl, continues.directory, continues.transport, continues.claims, continues.offers⟩
  next => exact ⟨connector, known, continues⟩

theorem Employs.setRegistry (employs : world.Employs index spec original) {registry : Registry}
    (offers : registry.OffersBuiltin spec) : (world.setRegistry index registry).Employs index spec original := by
  obtain ⟨connector, known, continues⟩ := employs
  refine ⟨{ connector with registry := registry }, ?_, continues.directory, continues.transport,
    continues.claims, offers⟩
  rw [connector?_setRegistry, if_pos rfl, known]
  rfl

structure Rests (index : Nat) (spec : KernelSpec) (original : Connector) (before after : World) : Prop where
  kernels : after.kernels = before.kernels
  nextKernel : after.nextKernel = before.nextKernel
  slots : ∀ id, after.slot? index id = before.slot? index id
  employs : before.Employs index spec original → after.Employs index spec original

theorem Rests.withHost (world : World) (host : Host) : Rests index spec original world { world with host := host } :=
  ⟨rfl, rfl, fun _ => rfl, fun employs => employs⟩

theorem Rests.setRegistry {before after : World} (rests : Rests index spec original before after) {registry : Registry}
    (offers : registry.OffersBuiltin spec) : Rests index spec original before (after.setRegistry index registry) where
  kernels := rests.kernels
  nextKernel := rests.nextKernel
  slots id := (after.slot?_setRegistry index registry index id).trans (rests.slots id)
  employs employs := (rests.employs employs).setRegistry offers

structure Arrives (index : Nat) (spec : KernelSpec) (original : Connector) (id : String) (kernel : Kernel)
    (before after : World) : Prop where
  rests : Rests index spec original before after
  claims : (after.claimsOf original.claims).ports =
    kernel.cachedPorts.reverse ++ (before.claimsOf original.claims).ports
  others : ∀ key, key ≠ original.claims → after.claimsOf key = before.claimsOf key
  owns : kernel.Owns original.claims original.transport (original.kernelPath id)
  stands : ∃ place, after.host.placeOf? (original.kernelPath id) = some place ∧ after.host.hasFile place
  spares : Spares (OwnPlace id) before.host after.host
  turns : Turns (fun place => after.host.placeOf? (original.kernelPath id) = some place) before.host after.host
  adds : before.host.LinksApart original.transport → Adds (fun _ => True) before.host after.host

/-- A launch that failed leaves no new file, and keeps all ways where no link is in its way. -/
structure Misses (transport : Transport) (before after : Host) : Prop where
  turns : Turns (fun _ => False) before after
  adds : before.LinksApart transport → Adds (fun _ => True) before after

section
variable {connection : Connection} (named : connection.file = some (original.kernelPath id))
  (valid : isValidId id = true)
include named valid

theorem isFor_of_kernelPath : connection.IsFor id := ⟨_, named, getLast?_kernelPath original.directory valid⟩

theorem launchWith_narrows (answerer : Answerer) (world : World) (key : Nat) (state : LocalProvisioner) :
    NarrowsAt (original.kernelPath id) world.host
      ((launchWith answerer (.local_ key state) connection world).1,
        (launchWith answerer (.local_ key state) connection world).2.host) := by
  have launched := @LocalProvisioner.Stage.preLaunch_narrowsAt
      ⟨state, connection, world.claimsOf key, world.host⟩ _ named
    (kernelPath_ne_empty original.directory valid)
  unfold launchWith
  rw [Provisioner.preLaunch_local]
  simp only
  generalize LocalProvisioner.Stage.preLaunch _ = outcome at launched ⊢
  obtain ⟨result, stage⟩ := outcome
  cases result with
  | ok => exact launched
  | error error => exact Narrows.before launched (stage.connection.cleaned_dwindles stage.host)

theorem launchWith_arrives {world : World} {state : LocalProvisioner} {kernel : Kernel} {after : World}
    (unwritten : connection.written = false) (same : connection.transport = original.transport)
    (fresh : state.cachedPorts = [])
    (done : launchWith answerer (.local_ original.claims state) connection world = (.ok kernel, after)) :
    Arrives index spec original id kernel world after := by
  have isFor := isFor_of_kernelPath named valid
  generalize whole : LocalProvisioner.Stage.mk state connection (world.claimsOf original.claims) world.host = stage
  have connection' : stage.connection = connection := by rw [← whole]
  have host : stage.host = world.host := by rw [← whole]
  have last : stage.ClaimsLast (world.claimsOf original.claims) := by
    rw [← whole]
    simp [LocalProvisioner.Stage.ClaimsLast, fresh]
  have launched := last.preLaunch
  have stands := stage.preLaunch_stands (connection' ▸ unwritten)
  obtain ⟨file, spares⟩ := stage.preLaunch_file (connection' ▸ isFor)
  have transports := stage.preLaunch_transport
  rw [connection'] at file transports
  rw [host] at spares
  have narrows := launchWith_narrows named valid answerer world original.claims state
  have adds := fun (links : world.host.LinksApart original.transport) =>
    (launchWith_addsAt answerer isFor named (same ▸ links) original.claims state).adds
  rw [done] at narrows adds
  unfold launchWith at done
  rw [Provisioner.preLaunch_local, whole] at done
  simp only at done
  generalize stage.preLaunch = outcome at launched stands file spares transports done
  obtain ⟨result, last⟩ := outcome
  cases result with
  | error error => cases done
  | ok =>
    cases done
    obtain ⟨written, path, place, named', leads, there⟩ := stands rfl
    cases (file.trans named).symm.trans named'
    refine ⟨⟨rfl, rfl, fun _ => rfl, fun employs => employs⟩, ?_, fun key differs => ?_,
      ⟨⟨_, rfl⟩, transports.trans same, file.trans named, written⟩, ⟨place, leads, there⟩, spares,
      ⟨world.host, .refl _, narrows⟩, adds⟩
    · exact (congrArg PortClaims.ports (world.claimsOf_setClaims_self original.claims last.claims)).trans launched
    · exact (world.claimsOf_setClaims original.claims last.claims key).trans (if_neg differs)

end

theorem Rests.trans {first second third : World} (one : Rests index spec original first second)
    (two : Rests index spec original second third) : Rests index spec original first third where
  kernels := two.kernels.trans one.kernels
  nextKernel := two.nextKernel.trans one.nextKernel
  slots id := (two.slots id).trans (one.slots id)
  employs := two.employs ∘ one.employs

theorem Arrives.after {first second third : World} {kernel : Kernel} (rests : Rests index spec original first second)
    (claims : second.claims = first.claims) (made : AddsNone first.host second.host)
    (spares : SparesAll first.host second.host) (arrives : Arrives index spec original id kernel second third) :
    Arrives index spec original id kernel first third where
  rests := rests.trans arrives.rests
  claims := by
    have same : second.claimsOf original.claims = first.claimsOf original.claims := by rw [claimsOf, claims]; rfl
    rw [← same]
    exact arrives.claims
  others key differs := by
    have same : second.claimsOf key = first.claimsOf key := by rw [claimsOf, claims]; rfl
    rw [← same]
    exact arrives.others key differs
  owns := arrives.owns
  stands := arrives.stands
  spares := spares.after arrives.spares
  turns := arrives.turns.after made
  adds links := made.after (arrives.adds (links.adds made))

/-- A launch ends with a new kernel, or without a trace. -/
theorem launch_ends (answerer : Answerer) (index : Nat) (world : World) (continues : original.Continues spec connector)
    (valid : isValidId id = true) :
    match launch answerer index connector id spec world with
    | (.ok kernel, after) => Arrives index spec original id kernel world after
    | (.error _, after) => Misses original.transport world.host after.host := by
  have made := world.host.createDirectories_addsNone connector.directory
  have adds : AddsNone world.host (world.prepared index connector spec).host := made.trans (Host.drawUuid_addsNone _)
  have spares : SparesAll world.host (world.prepared index connector spec).host :=
    (world.host.createDirectories_spares connector.directory).trans (Host.drawUuid_spares _)
  have rests : Rests index spec original world (world.prepared index connector spec) :=
    (Rests.withHost world _).setRegistry continues.offers.resolve
  have misses {host : Host} (adds : AddsNone world.host host) : Misses original.transport world.host host :=
    ⟨.of_addsNone adds, fun _ => adds.weaken (fun _ none => none.elim)⟩
  rcases launch_offers answerer index id world continues.offers with
    ⟨error, stopped | stopped⟩ | ⟨connection, state, same, _, unwritten, named, _, _, fresh, goesOn⟩
  · rw [stopped]
    exact misses made
  · rw [stopped]
    exact misses adds
  · have named' : connection.file = some (original.kernelPath id) := by
      rw [← continues.kernelPath]
      exact named
    have same' := same.trans continues.transport
    have narrows := launchWith_narrows named' valid answerer (world.prepared index connector spec) original.claims state
    have links := fun (links : (world.prepared index connector spec).host.LinksApart original.transport) =>
      (launchWith_addsAt answerer (isFor_of_kernelPath named' valid) named' (same' ▸ links) original.claims state).adds
    rw [goesOn, continues.claims]
    cases done : launchWith answerer (.local_ original.claims state) connection
      (world.prepared index connector spec) with
    | mk result after =>
      rw [done] at narrows links
      cases result with
      | ok kernel => exact .after rests rfl adds spares (launchWith_arrives named' valid unwritten same' fresh done)
      | error error => exact ⟨⟨_, adds, narrows⟩, fun apart => adds.after (links (apart.adds adds))⟩

end World

end Mooring
