import Mathlib.Logic.Function.Basic
import Mooring.Connector.Launch

/-! Look-ups of provisioners that overlap. A call reads the registry, asks the discovery for a name that is not there,
and keeps what was found unless the name has an entry by then. Between any two of these steps other calls may go on,
and the discovery may answer differently every time. The first entry that is kept under a name stays. -/

namespace Mooring
namespace Registry

inductive Request
  | available (spec : KernelSpec)
  | create (context : ProvisionerContext) (id : String) (spec : KernelSpec)

def Request.spec : Request → KernelSpec
  | .available spec => spec
  | .create _ _ spec => spec

/-- Where the look-up of a call is: not begun, past the registry, with an entry that is not kept yet, or closed. -/
inductive Lookup
  | waiting
  | missing
  | holding (entry : ProvisionerEntry)
  | closed (found : Option ProvisionerEntry)

def Lookup.isClosed : Lookup → Bool
  | .closed _ => true
  | _ => false

/-- The next step of a call. -/
inductive Turn
  | read (caller : Nat)
  | discover (caller : Nat) (answer : Option ProvisionerEntry)
  | keep (caller : Nat)

def Turn.caller : Turn → Nat
  | .read caller => caller
  | .discover caller _ => caller
  | .keep caller => caller

/-- A registry, and the calls on it by number. -/
structure Traffic where
  registry : Registry
  requests : Nat → Request
  lookups : Nat → Lookup := fun _ => .waiting

namespace Traffic

def choiceOf (traffic : Traffic) (caller : Nat) : ProvisionerChoice :=
  traffic.registry.choice (traffic.requests caller).spec

def nameOf (traffic : Traffic) (caller : Nat) : String := (traffic.choiceOf caller).name

def standing? (traffic : Traffic) (caller : Nat) : Option ProvisionerEntry :=
  traffic.registry.entries.get? (traffic.nameOf caller)

def moveOn (traffic : Traffic) (caller : Nat) (next : Lookup) : Traffic :=
  { traffic with lookups := Function.update traffic.lookups caller next }

def turn (traffic : Traffic) : Turn → Traffic
  | .read caller =>
    match traffic.lookups caller, traffic.standing? caller with
    | .waiting, some entry => traffic.moveOn caller (.closed (some entry))
    | .waiting, none => traffic.moveOn caller .missing
    | _, _ => traffic
  | .discover caller answer =>
    match traffic.lookups caller, lookup (traffic.nameOf caller) answer with
    | .missing, some entry => traffic.moveOn caller (.holding entry)
    | .missing, none => traffic.moveOn caller (.closed none)
    | _, _ => traffic
  | .keep caller =>
    match traffic.lookups caller with
    | .holding entry =>
      let (standing, registry) := traffic.registry.insertIfAbsent (traffic.nameOf caller) entry
      { traffic.moveOn caller (.closed (some standing)) with registry := registry }
    | _ => traffic

def run (traffic : Traffic) (turns : List Turn) : Traffic := turns.foldl turn traffic

def available? (traffic : Traffic) (caller : Nat) : Option Bool :=
  match traffic.requests caller, traffic.lookups caller with
  | .available _, .closed found => some found.isSome
  | _, _ => none

end Traffic
end Registry

def Provisioner.ofFound (found : Option ProvisionerEntry) (context : ProvisionerContext)
    (id : String) (spec : KernelSpec)
    (choice : ProvisionerChoice) (world : World) : Except Error Provisioner × World :=
  match found with
  | none => (.error (.provisionerNotFound choice.name), world)
  | some entry => make entry context id spec choice world

namespace Registry
namespace Traffic

def created? (traffic : Traffic) (caller : Nat) (world : World) : Option (Except Error Provisioner) :=
  match traffic.requests caller, traffic.lookups caller with
  | .create context id spec, .closed found =>
    some (Provisioner.ofFound found context id spec (traffic.choiceOf caller) world).1
  | _, _ => none

@[simp] theorem moveOn_lookups_self (traffic : Traffic) (caller : Nat) (next : Lookup) :
    (traffic.moveOn caller next).lookups caller = next := Function.update_self ..

theorem moveOn_lookups_of_ne (traffic : Traffic) {caller other : Nat} (different : other ≠ caller) (next : Lookup) :
    (traffic.moveOn caller next).lookups other = traffic.lookups other := Function.update_of_ne different ..

def kept (traffic : Traffic) (caller : Nat) (entry : ProvisionerEntry) : Traffic :=
  { traffic.moveOn caller (.closed (some entry)) with
    registry := { traffic.registry with entries := traffic.registry.entries.set (traffic.nameOf caller) entry } }

structure Advances (traffic : Traffic) (caller : Nat) (next : Lookup) : Prop where
  going : (traffic.lookups caller).isClosed = false
  given : ∀ entry, next = .closed (some entry) → traffic.standing? caller = some entry
  missed : next = .closed none → traffic.nameOf caller ≠ localProvisionerName
  finds : ∀ entry, traffic.standing? caller = some entry → traffic.lookups caller = .waiting →
    next = .closed (some entry)

/-- A turn does nothing, or it lets a call get on, or it keeps an entry under a name without one. -/
theorem turn_cases (traffic : Traffic) (turn : Turn) :
    traffic.turn turn = traffic ∨
      (∃ next, traffic.Advances turn.caller next ∧ traffic.turn turn = traffic.moveOn turn.caller next) ∨
      ∃ entry, traffic.lookups turn.caller = .holding entry ∧ traffic.standing? turn.caller = none ∧
        traffic.turn turn = traffic.kept turn.caller entry := by
  cases turn with
  | read caller =>
    simp only [Traffic.turn, Turn.caller]
    split
    next entry waits stands =>
      refine .inr (.inl ⟨.closed (some entry),
        ⟨by rw [waits]; rfl, fun _ same => ?_, nofun, fun other there _ => ?_⟩, rfl⟩)
      · cases same
        exact stands
      · rw [← stands, there]
    next waits absent =>
      refine .inr (.inl ⟨.missing, ⟨by rw [waits]; rfl, nofun, nofun, fun entry stands _ => ?_⟩, rfl⟩)
      cases absent.symm.trans stands
    next => exact .inl rfl
  | discover caller answer =>
    simp only [Traffic.turn, Turn.caller]
    split
    next entry misses _ =>
      refine .inr (.inl ⟨.holding entry, ⟨by rw [misses]; rfl, nofun, nofun, fun _ _ waits => ?_⟩, rfl⟩)
      cases misses.symm.trans waits
    next misses nowhere =>
      refine .inr (.inl ⟨.closed none, ⟨by rw [misses]; rfl, nofun, fun _ isLocal => ?_, fun _ _ waits => ?_⟩, rfl⟩)
      · -- The local provisioner is found whatever the discovery says.
        unfold lookup at nowhere
        split at nowhere
        next => cases nowhere
        next => rw [if_pos isLocal] at nowhere; cases nowhere
      · cases misses.symm.trans waits
    next => exact .inl rfl
  | keep caller =>
    simp only [Traffic.turn, Turn.caller]
    split
    next entry holds =>
      cases stands : traffic.standing? caller with
      | some other =>
        refine .inr (.inl ⟨.closed (some other),
          ⟨by rw [holds]; rfl, fun _ same => ?_, nofun, fun _ _ waits => ?_⟩, ?_⟩)
        · cases same
          exact stands
        · cases holds.symm.trans waits
        · unfold insertIfAbsent
          rw [show traffic.registry.entries.get? (traffic.nameOf caller) = some other from stands]
          rfl
      | none =>
        refine .inr (.inr ⟨entry, holds, rfl, ?_⟩)
        unfold insertIfAbsent
        rw [show traffic.registry.entries.get? (traffic.nameOf caller) = none from stands]
        rfl
    next => exact .inl rfl

/-- What stays as calls go on: the entries that there are, the answers that were given, and the entry that a call will
get that begins when there is one. -/
structure Grows (before after : Traffic) : Prop where
  requests : after.requests = before.requests
  choices : ∀ caller, after.choiceOf caller = before.choiceOf caller
  entries : ∀ name entry, before.registry.entries.get? name = some entry → after.registry.entries.get? name = some entry
  closed : ∀ caller, (before.lookups caller).isClosed = true → after.lookups caller = before.lookups caller
  later : ∀ caller entry, before.standing? caller = some entry → before.lookups caller = .waiting →
    after.lookups caller = .waiting ∨ after.lookups caller = .closed (some entry)

namespace Grows
variable {first second third : Traffic}

theorem refl (traffic : Traffic) : traffic.Grows traffic :=
  ⟨rfl, fun _ => rfl, fun _ _ stands => stands, fun _ _ => rfl, fun _ _ _ waits => .inl waits⟩

theorem names (grows : first.Grows second) (caller : Nat) : second.nameOf caller = first.nameOf caller :=
  congrArg ProvisionerChoice.name (grows.choices caller)

theorem standing (grows : first.Grows second) {caller : Nat} {entry : ProvisionerEntry}
    (stands : first.standing? caller = some entry) : second.standing? caller = some entry := by
  unfold standing? at stands ⊢
  rw [grows.names]
  exact grows.entries _ _ stands

theorem trans (one : first.Grows second) (two : second.Grows third) : first.Grows third where
  requests := two.requests.trans one.requests
  choices caller := (two.choices caller).trans (one.choices caller)
  entries name entry stands := two.entries name entry (one.entries name entry stands)
  closed caller ended := by
    have still := one.closed caller ended
    rw [two.closed caller (still ▸ ended), still]
  later caller entry stands waits := by
    rcases one.later caller entry stands waits with still | found
    · exact two.later caller entry (one.standing stands) still
    · exact .inr ((two.closed caller (by rw [found]; rfl)).trans found)

end Grows

theorem turn_grows (traffic : Traffic) (turn : Turn) : traffic.Grows (traffic.turn turn) := by
  have others {next : Lookup} (going : (traffic.lookups turn.caller).isClosed = false) {caller : Nat}
      (ended : (traffic.lookups caller).isClosed = true) :
      (traffic.moveOn turn.caller next).lookups caller = traffic.lookups caller := by
    refine traffic.moveOn_lookups_of_ne (fun same => ?_) next
    rw [same, going] at ended
    cases ended
  rcases traffic.turn_cases turn with same | ⟨next, advances, same⟩ | ⟨entry, holds, absent, same⟩
  · rw [same]
    exact .refl traffic
  · rw [same]
    refine ⟨rfl, fun _ => rfl, fun _ _ stands => stands, fun caller ended => others advances.going ended, ?_⟩
    intro caller entry stands waits
    by_cases own : caller = turn.caller
    · subst own
      rw [moveOn_lookups_self]
      exact .inr (advances.finds entry stands waits)
    · rw [traffic.moveOn_lookups_of_ne own]
      exact .inl waits
  · rw [same]
    have going : (traffic.lookups turn.caller).isClosed = false := by rw [holds]; rfl
    refine ⟨rfl, fun _ => rfl, fun name standing stands => ?_, fun caller ended => others going ended, ?_⟩
    · have new : name ≠ traffic.nameOf turn.caller := by
        rintro rfl
        cases absent.symm.trans stands
      exact (Table.get?_set_of_ne _ entry new).trans stands
    · intro caller standing stands waits
      have own : caller ≠ turn.caller := by
        rintro rfl
        cases holds.symm.trans waits
      exact .inl ((traffic.moveOn_lookups_of_ne own _).trans waits)

theorem run_grows (traffic : Traffic) (turns : List Turn) : traffic.Grows (traffic.run turns) := by
  induction turns generalizing traffic with
  | nil => exact .refl traffic
  | cons turn rest ih => exact (traffic.turn_grows turn).trans (ih (traffic.turn turn))

theorem run_append (traffic : Traffic) (turns more : List Turn) :
    traffic.run (turns ++ more) = (traffic.run turns).run more := List.foldl_append

/-- Calls that are over were given what stands under their name, and none of them missed the local provisioner. -/
structure Law (traffic : Traffic) : Prop where
  found : ∀ caller entry, traffic.lookups caller = .closed (some entry) → traffic.standing? caller = some entry
  missed : ∀ caller, traffic.lookups caller = .closed none → traffic.nameOf caller ≠ localProvisionerName

theorem Law.turn {traffic : Traffic} (law : traffic.Law) (turn : Turn) : (traffic.turn turn).Law := by
  have grows := traffic.turn_grows turn
  rcases traffic.turn_cases turn with same | ⟨next, advances, same⟩ | ⟨entry, -, -, same⟩
  · rw [same]
    exact law
  · rw [same] at grows ⊢
    constructor
    · intro caller entry ended
      by_cases own : caller = turn.caller
      · subst own
        rw [moveOn_lookups_self] at ended
        exact advances.given entry ended
      · rw [traffic.moveOn_lookups_of_ne own] at ended
        exact law.found caller entry ended
    · intro caller ended
      by_cases own : caller = turn.caller
      · subst own
        rw [moveOn_lookups_self] at ended
        exact advances.missed ended
      · rw [traffic.moveOn_lookups_of_ne own] at ended
        exact law.missed caller ended
  · rw [same] at grows ⊢
    have lookups (caller : Nat) : (traffic.kept turn.caller entry).lookups caller =
        (traffic.moveOn turn.caller (.closed (some entry))).lookups caller := rfl
    constructor
    · intro caller standing ended
      by_cases own : caller = turn.caller
      · subst own
        rw [lookups, moveOn_lookups_self] at ended
        cases ended
        exact Table.get?_set_self ..
      · rw [lookups, traffic.moveOn_lookups_of_ne own] at ended
        exact grows.standing (law.found caller standing ended)
    · intro caller ended
      by_cases own : caller = turn.caller
      · subst own
        rw [lookups, moveOn_lookups_self] at ended
        cases ended
      · rw [lookups, traffic.moveOn_lookups_of_ne own] at ended
        exact law.missed caller ended

theorem Law.run {traffic : Traffic} (law : traffic.Law) (turns : List Turn) : (traffic.run turns).Law := by
  induction turns generalizing traffic with
  | nil => exact law
  | cons turn rest ih => exact ih (law.turn turn)

def opened (registry : Registry) (requests : Nat → Request) : Traffic := { registry := registry, requests := requests }

theorem law_opened (registry : Registry) (requests : Nat → Request) : (opened registry requests).Law where
  found _ _ ended := nomatch ended
  missed _ ended := nomatch ended

theorem turn_registry (traffic : Traffic) (turn : Turn) :
    (traffic.turn turn).registry = traffic.registry ∨
      ∃ entry, (traffic.turn turn).lookups turn.caller = .closed (some entry) := by
  rcases traffic.turn_cases turn with same | ⟨next, -, same⟩ | ⟨entry, -, -, same⟩
  · exact .inl (by rw [same])
  · exact .inl (by rw [same]; rfl)
  · exact .inr ⟨entry, by rw [same]; exact traffic.moveOn_lookups_self turn.caller _⟩

theorem closed_of_created {traffic : Traffic} {caller : Nat} {world : World} {result : Except Error Provisioner}
    (created : traffic.created? caller world = some result) :
    ∃ found context id spec, traffic.lookups caller = .closed found ∧
      result = (Provisioner.ofFound found context id spec (traffic.choiceOf caller) world).1 := by
  unfold created? at created
  split at created
  next context id spec found _ ended => exact ⟨found, context, id, spec, ended, by cases created; rfl⟩
  next => cases created

theorem closed_of_available {traffic : Traffic} {caller : Nat} {yes : Bool}
    (answer : traffic.available? caller = some yes) :
    ∃ found, traffic.lookups caller = .closed found ∧ yes = found.isSome := by
  unfold available? at answer
  split at answer
  next found _ ended => exact ⟨found, ended, by cases answer; rfl⟩
  next => cases answer

end Traffic
end Registry

theorem Provisioner.ofFound_notFound {found : Option ProvisionerEntry} {context : ProvisionerContext} {id : String}
    {spec : KernelSpec} {choice : ProvisionerChoice} {world : World} {name : String}
    (unknown : (ofFound found context id spec choice world).1 = .error (.provisionerNotFound name)) : found = none := by
  cases found with
  | none => rfl
  | some entry =>
    unfold ofFound make at unknown
    cases maker : entry.maker with
    | builtin => simp [maker] at unknown
    | plugin work => cases refusal : work.refusal <;> simp [maker, refusal] at unknown

namespace Registry
namespace Traffic

/-- However calls overlap and whatever the discovery answers: an entry stays as it is, calls for one name are given one
entry, a call that finds none has changed nothing, a call for a provisioner that begins after the name was said to be
available finds it, and the local provisioner is always found. -/
theorem registry_stable (registry : Registry) (requests : Nat → Request) (turns more : List Turn) :
    let start := opened registry requests
    let earlier := start.run turns
    let later := earlier.run more
    (∀ name entry, earlier.registry.entries.get? name = some entry → later.registry.entries.get? name = some entry) ∧
    (∀ first second one other, start.nameOf first = start.nameOf second → later.lookups first = .closed (some one) →
      later.lookups second = .closed (some other) →
      one = other ∧ later.registry.entries.get? (start.nameOf first) = some one) ∧
    (∀ before turn after, turns = before ++ turn :: after → earlier.lookups turn.caller = .closed none →
      ((start.run before).turn turn).registry = (start.run before).registry) ∧
    (∀ asker creator name world, earlier.available? asker = some true → earlier.lookups creator = .waiting →
      start.nameOf asker = start.nameOf creator →
      later.created? creator world ≠ some (.error (.provisionerNotFound name))) ∧
    ∀ caller name world, start.nameOf caller = localProvisionerName →
      later.created? caller world ≠ some (.error (.provisionerNotFound name)) := by
  intro start earlier later
  have opening : start.Grows earlier := start.run_grows turns
  have ongoing : earlier.Grows later := earlier.run_grows more
  have earlierLaw : earlier.Law := (law_opened registry requests).run turns
  have law : later.Law := earlierLaw.run more
  have names (caller : Nat) : later.nameOf caller = start.nameOf caller := (opening.trans ongoing).names caller
  have stands {caller : Nat} {entry : ProvisionerEntry} (ended : later.lookups caller = .closed (some entry)) :
      later.registry.entries.get? (start.nameOf caller) = some entry := names caller ▸ law.found caller entry ended
  refine ⟨ongoing.entries, ?_, ?_, ?_, ?_⟩
  · intro first second one other same oneEnded otherEnded
    have here := stands oneEnded
    have there := stands otherEnded
    rw [← same] at there
    exact ⟨Option.some.inj (here.symm.trans there), here⟩
  · intro before turn after split missed
    rcases (start.run before).turn_registry turn with same | ⟨entry, found⟩
    · exact same
    · -- The answer that the turn gave would have stayed.
      have whole : earlier = ((start.run before).turn turn).run after := by
        show start.run turns = _
        rw [split, run_append]
        rfl
      have still := (((start.run before).turn turn).run_grows after).closed turn.caller (by rw [found]; rfl)
      rw [← whole, missed, found] at still
      cases still
  · intro asker creator name world answer waits same unknown
    obtain ⟨found, ended, yes⟩ := closed_of_available answer
    obtain ⟨entry, rfl⟩ := Option.isSome_iff_exists.mp yes.symm
    have there : earlier.standing? creator = some entry := by
      have here := earlierLaw.found asker entry ended
      unfold standing? at here ⊢
      rwa [opening.names, ← same, ← opening.names asker]
    obtain ⟨answered, _, _, _, closed, fault⟩ := closed_of_created unknown
    obtain rfl := Provisioner.ofFound_notFound fault.symm
    rcases ongoing.later creator entry there waits with still | found
    · cases still.symm.trans closed
    · cases found.symm.trans closed
  · intro caller name world isLocal unknown
    obtain ⟨answered, _, _, _, closed, fault⟩ := closed_of_created unknown
    obtain rfl := Provisioner.ofFound_notFound fault.symm
    exact law.missed caller closed ((names caller).trans isLocal)

def installed (module : String) : ProvisionerEntry := ⟨"remote", module, "Provisioner", .builtin⟩

def unadvertised : Registry := Registry.ofDiscovery "remote" (Discovery.ofEntries [] [])

def requestsOf : Nat → Request
  | 0 => .available {}
  | 3 => .create { claims := 0 } "kernel" (KernelSpec.withProvisioner {} localProvisionerName none)
  | 4 => .available (KernelSpec.withProvisioner {} "gone" none)
  | _ => .create { claims := 0 } "kernel" {}

def overlapping : List Turn :=
  [.read 0, .read 1, .discover 0 (some (installed "old")), .discover 1 (some (installed "new")), .keep 1, .keep 0,
    .read 4, .discover 4 none]

instance (lookup : Lookup) : Decidable (lookup = .waiting) :=
  match lookup with
  | .waiting => .isTrue rfl
  | .missing | .holding _ | .closed _ => .isFalse nofun

instance (lookup : Lookup) : Decidable (lookup = .closed none) :=
  match lookup with
  | .closed none => .isTrue rfl
  | .closed (some _) | .waiting | .missing | .holding _ => .isFalse nofun

def moduleOf? : Lookup → Option String
  | .closed found => found.map (·.module)
  | _ => none

theorem exists_of_moduleOf? {lookup : Lookup} {module : String} (given : moduleOf? lookup = some module) :
    ∃ entry, entry.module = module ∧ lookup = .closed (some entry) := by
  unfold moduleOf? at given
  split at given
  next found =>
    obtain ⟨entry, rfl, here⟩ := Option.map_eq_some_iff.mp given
    exact ⟨entry, here, rfl⟩
  next => cases given

def following : List Turn := [.read 3, .read 2, .discover 3 none, .keep 3]

theorem registry_stable_overlapping :
    (∃ entry, entry.module = "new" ∧
      ((opened unadvertised requestsOf).run overlapping).registry.entries.get? "remote" = some entry ∧
      (((opened unadvertised requestsOf).run overlapping).run following).registry.entries.get? "remote" = some entry ∧
      (((opened unadvertised requestsOf).run overlapping).run following).lookups 0 = .closed (some entry) ∧
      (((opened unadvertised requestsOf).run overlapping).run following).lookups 2 = .closed (some entry)) ∧
    (((opened unadvertised requestsOf).run overlapping).lookups 4 = .closed none ∧
      (((opened unadvertised requestsOf).run (overlapping.take 7)).turn (.discover 4 none)).registry =
        ((opened unadvertised requestsOf).run (overlapping.take 7)).registry) ∧
    (((opened unadvertised requestsOf).run overlapping).available? 0 = some true ∧
      ((opened unadvertised requestsOf).run overlapping).lookups 2 = .waiting ∧
      ∀ name world, (((opened unadvertised requestsOf).run overlapping).run following).created? 2 world ≠
        some (.error (.provisionerNotFound name))) ∧
    (opened unadvertised requestsOf).nameOf 3 = localProvisionerName ∧
      ∀ name world, (((opened unadvertised requestsOf).run overlapping).run following).created? 3 world ≠
        some (.error (.provisionerNotFound name)) := by
  obtain ⟨stays, agree, missed, promised, locals⟩ := registry_stable unadvertised requestsOf overlapping following
  obtain ⟨entry, module, first⟩ : ∃ entry, entry.module = "new" ∧
      (((opened unadvertised requestsOf).run overlapping).run following).lookups 0 = .closed (some entry) :=
    exists_of_moduleOf? (by decide +kernel)
  obtain ⟨other, -, second⟩ : ∃ entry, entry.module = "new" ∧
      (((opened unadvertised requestsOf).run overlapping).run following).lookups 2 = .closed (some entry) :=
    exists_of_moduleOf? (by decide +kernel)
  have named : (opened unadvertised requestsOf).nameOf 0 = "remote" ∧
      (opened unadvertised requestsOf).nameOf 2 = "remote" ∧
      (opened unadvertised requestsOf).nameOf 3 = localProvisionerName := by
    decide +kernel
  have same := named.1.trans named.2.1.symm
  have ⟨equal, after⟩ := agree 0 2 entry other same first second
  rw [named.1] at after
  obtain ⟨kept, before⟩ := Option.isSome_iff_exists.mp
    (show (((opened unadvertised requestsOf).run overlapping).registry.entries.get? "remote").isSome = true by
      decide +kernel)
  have there : kept = entry := Option.some.inj ((stays _ _ before).symm.trans after)
  have none : ((opened unadvertised requestsOf).run overlapping).lookups 4 = .closed none := by decide +kernel
  have yes : ((opened unadvertised requestsOf).run overlapping).available? 0 = some true := by decide +kernel
  have waits : ((opened unadvertised requestsOf).run overlapping).lookups 2 = .waiting := by decide +kernel
  exact ⟨⟨entry, module, there ▸ before, after, first, equal ▸ second⟩,
    ⟨none, missed (overlapping.take 7) (.discover 4 .none) [] rfl none⟩,
    ⟨yes, waits, fun name world => promised 0 2 name world yes waits same⟩,
    named.2.2, fun name world => locals 3 name world named.2.2⟩

def alone (traffic : Traffic) (caller : Nat) : Traffic :=
  traffic.run
    [.read caller, .discover caller (traffic.registry.discovery.single (traffic.nameOf caller)), .keep caller]

theorem alone_grows (traffic : Traffic) (caller : Nat) : traffic.Grows (traffic.alone caller) := traffic.run_grows _

theorem alone_resolves {traffic : Traffic} {caller : Nat} (waits : traffic.lookups caller = .waiting) :
    let resolved := traffic.registry.resolve (traffic.nameOf caller)
    (traffic.alone caller).registry = resolved.2 ∧ (traffic.alone caller).lookups caller = .closed resolved.1 := by
  intro resolved
  cases stands : traffic.registry.entries.get? (traffic.nameOf caller) with
  | some entry =>
    have found : resolved = (some entry, traffic.registry) := by simp only [resolved, resolve, stands]
    have whole : traffic.alone caller = traffic.moveOn caller (.closed (some entry)) := by
      simp only [alone, run, List.foldl_cons, List.foldl_nil, turn, standing?, waits, stands, moveOn_lookups_self]
    rw [whole, found]
    exact ⟨rfl, moveOn_lookups_self ..⟩
  | none =>
    have missing : (traffic.moveOn caller .missing).nameOf caller = traffic.nameOf caller := rfl
    cases answer : lookup (traffic.nameOf caller) (traffic.registry.discovery.single (traffic.nameOf caller)) with
    | none =>
      have found : resolved = (none, traffic.registry) := by simp only [resolved, resolve, stands, answer]
      have whole : traffic.alone caller = (traffic.moveOn caller .missing).moveOn caller (.closed none) := by
        simp only [alone, run, List.foldl_cons, List.foldl_nil, turn, standing?, waits, stands, moveOn_lookups_self,
          missing, answer]
      rw [whole, found]
      exact ⟨rfl, moveOn_lookups_self ..⟩
    | some entry =>
      let registry := { traffic.registry with entries := traffic.registry.entries.set (traffic.nameOf caller) entry }
      have kept : traffic.registry.insertIfAbsent (traffic.nameOf caller) entry = (entry, registry) := by
        simp only [insertIfAbsent, stands, registry]
      have found : resolved = (some entry, registry) := by simp only [resolved, resolve, stands, answer, kept]
      let holder := (traffic.moveOn caller .missing).moveOn caller (.holding entry)
      have whole : traffic.alone caller = holder.kept caller entry := by
        simp only [alone, run, List.foldl_cons, List.foldl_nil, turn, standing?, waits, stands, moveOn_lookups_self,
          missing, answer]
        rw [show holder.registry.insertIfAbsent (holder.nameOf caller) entry = _ from kept]
        rfl
      rw [whole, found]
      exact ⟨rfl, moveOn_lookups_self ..⟩

theorem available_alone {traffic : Traffic} {caller : Nat} {spec : KernelSpec}
    (waits : traffic.lookups caller = .waiting)
    (asks : traffic.requests caller = .available spec) :
    (traffic.alone caller).available? caller = some (traffic.registry.isAvailable spec).1 ∧
      (traffic.alone caller).registry = (traffic.registry.isAvailable spec).2 := by
  obtain ⟨registry, closed⟩ := alone_resolves waits
  have name : traffic.nameOf caller = (traffic.registry.choice spec).name := by
    simp only [nameOf, choiceOf, asks, Request.spec]
  rw [name] at registry closed
  exact ⟨by simp only [available?, (traffic.alone_grows caller).requests, asks, closed, isAvailable], registry⟩

theorem created_alone {traffic : Traffic} {caller : Nat} {context : ProvisionerContext}
    {id : String} {spec : KernelSpec}
    (waits : traffic.lookups caller = .waiting)
    (asks : traffic.requests caller = .create context id spec) (world : World) :
    let made := Provisioner.ofRegistry traffic.registry context id spec world
    (traffic.alone caller).created? caller world = some made.1 ∧ (traffic.alone caller).registry = made.2.1 := by
  intro made
  obtain ⟨registry, closed⟩ := alone_resolves waits
  have choice : traffic.choiceOf caller = traffic.registry.choice spec := by simp only [choiceOf, asks, Request.spec]
  rw [nameOf, choice] at registry closed
  simp only [created?, (traffic.alone_grows caller).requests,
    (traffic.alone_grows caller).choices, asks, closed, registry,
    choice, made, Provisioner.ofRegistry, Provisioner.ofFound]
  rcases traffic.registry.resolve (traffic.registry.choice spec).name with ⟨_ | entry, resolved⟩ <;> exact ⟨rfl, rfl⟩

end Traffic
end Registry
end Mooring
