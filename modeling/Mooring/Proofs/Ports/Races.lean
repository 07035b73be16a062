import Mathlib.Logic.Function.Basic
import Mooring.Proofs.Ports.Claims

/-! Calls for a port that overlap. A call asks the system for a free port, and only then looks whether somebody has
claimed that port meanwhile; if so, it asks again. Between any two of its steps other calls may go on, and ports may
be given back. A log keeps what was handed out and what was returned, in order. -/

namespace Mooring.PortClaims

open Host (Fault PortAnswer)

/-- Where a call for a port is: about to ask the system, with a port that it has not claimed yet, or over. -/
inductive Call
  | asking
  | holding (port : UInt16)
  | granted (port : UInt16)
  | failed (fault : Fault)
  deriving DecidableEq

def Call.isOver : Call → Bool
  | .asking | .holding _ => false
  | .granted _ | .failed _ => true

def Call.ofAnswer : PortAnswer → Call
  | .ok port => .granted port
  | .error fault => .failed fault

/-- What a caller does next, or what is given back. -/
inductive Turn
  | allocate (caller : Nat) (answer : PortAnswer)
  | claim (caller : Nat)
  | giveBack (port : UInt16)

def Turn.caller? : Turn → Option Nat
  | .allocate caller _ => some caller
  | .claim caller => some caller
  | .giveBack _ => none

inductive Event
  | handedOut (caller : Nat) (port : UInt16)
  | returned (port : UInt16)
  deriving DecidableEq

/-- The claims of a process, its calls by number, and what came of them so far. -/
structure Race where
  claims : PortClaims := none_
  calls : Nat → Call := fun _ => .asking
  log : List Event := []

namespace Race

def moveOn (race : Race) (caller : Nat) (call : Call) : Race :=
  { race with calls := Function.update race.calls caller call }

@[simp] theorem moveOn_calls_self (race : Race) (caller : Nat) (call : Call) :
    (race.moveOn caller call).calls caller = call := Function.update_self ..

theorem moveOn_calls_of_ne (race : Race) {caller other : Nat} (different : other ≠ caller) (call : Call) :
    (race.moveOn caller call).calls other = race.calls other := Function.update_of_ne different ..

def grant (race : Race) (caller : Nat) (port : UInt16) (claims : PortClaims) : Race :=
  { race.moveOn caller (.granted port) with claims := claims, log := race.log ++ [.handedOut caller port] }

def turn (race : Race) : Turn → Race
  | .allocate caller answer =>
    match race.calls caller, answer with
    | .asking, .error fault => race.moveOn caller (.failed fault)
    | .asking, .ok port => race.moveOn caller (.holding port)
    | _, _ => race
  | .claim caller =>
    match race.calls caller with
    | .holding port =>
      match race.claims.claim? port with
      | none => race.moveOn caller .asking
      | some claims => race.grant caller port claims
    | _ => race
  | .giveBack port => { race with claims := race.claims.release port, log := race.log ++ [.returned port] }

def run (race : Race) (turns : List Turn) : Race := turns.foldl turn race

end Race

theorem claim?_taken {claims : PortClaims} {port : UInt16} (taken : port ∈ claims.ports) :
    claims.claim? port = none := dif_pos taken

theorem claim?_free {claims : PortClaims} {port : UInt16} (free : port ∉ claims.ports) :
    ∃ later, claims.claim? port = some later ∧ later.ports = port :: claims.ports :=
  ⟨_, dif_neg free, rfl⟩

namespace Race

/-- A turn moves a call on that is not over, hands out a port that is free, takes one back, or does nothing. -/
theorem turn_cases (race : Race) (turn : Turn) :
    race.turn turn = race ∨
      (∃ caller call, turn.caller? = some caller ∧ (race.calls caller).isOver = false ∧ (∀ port, call ≠ .granted port) ∧
        race.turn turn = race.moveOn caller call) ∨
      (∃ caller port claims, turn.caller? = some caller ∧ (race.calls caller).isOver = false ∧
      port ∉ race.claims.ports ∧
        claims.ports = port :: race.claims.ports ∧ race.turn turn = race.grant caller port claims) ∨
      ∃ port, turn.caller? = none ∧ race.turn turn =
        { race with claims := race.claims.release port, log := race.log ++ [.returned port] } := by
  cases turn with
  | allocate caller answer =>
    cases at_ : race.calls caller with
    | asking =>
      refine .inr (.inl ⟨caller, match answer with | .ok port => .holding port | .error fault => .failed fault, rfl,
        by rw [at_]; rfl, ?_⟩)
      cases answer with
      | ok port => exact ⟨fun _ => by simp, by simp only [Race.turn, at_]⟩
      | error fault => exact ⟨fun _ => by simp, by simp only [Race.turn, at_]⟩
    | holding port => exact .inl (by simp only [Race.turn, at_])
    | granted port => exact .inl (by simp only [Race.turn, at_])
    | failed fault => exact .inl (by simp only [Race.turn, at_])
  | claim caller =>
    cases at_ : race.calls caller with
    | holding port =>
      have going : (race.calls caller).isOver = false := by rw [at_]; rfl
      by_cases taken : port ∈ race.claims.ports
      · refine .inr (.inl ⟨caller, .asking, rfl, going, fun _ => by simp, ?_⟩)
        simp only [Race.turn, at_, claim?_taken taken]
      · obtain ⟨claims, claimed, ports⟩ := claim?_free taken
        refine .inr (.inr (.inl ⟨caller, port, claims, rfl, going, taken, ports, ?_⟩))
        simp only [Race.turn, at_, claimed]
    | asking => exact .inl (by simp only [Race.turn, at_])
    | granted port => exact .inl (by simp only [Race.turn, at_])
    | failed fault => exact .inl (by simp only [Race.turn, at_])
  | giveBack port => exact .inr (.inr (.inr ⟨port, rfl, rfl⟩))

end Race

/-- The port was handed out and has not been returned since. -/
def Outstanding (log : List Event) (port : UInt16) : Prop :=
  ∃ before caller after, log = before ++ .handedOut caller port :: after ∧ .returned port ∉ after

theorem not_outstanding_nil (port : UInt16) : ¬ Outstanding [] port := by
  rintro ⟨before, caller, after, same, -⟩
  exact List.append_ne_nil_of_right_ne_nil before (List.cons_ne_nil _ after) same.symm

theorem split_longer {log before after : List Event} {last event : Event}
    (same : log ++ [last] = before ++ event :: after) :
    log = before ∧ last = event ∧ after = [] ∨ ∃ rest, after = rest ++ [last] ∧ log = before ++ event :: rest := by
  rcases List.eq_nil_or_concat after with rfl | ⟨rest, final, rfl⟩
  · obtain ⟨logs, events⟩ := List.append_singleton_inj.mp same
    exact .inl ⟨logs, events, rfl⟩
  · rw [List.concat_eq_append, ← List.cons_append, ← List.append_assoc] at same
    obtain ⟨logs, rfl⟩ := List.append_singleton_inj.mp same
    exact .inr ⟨rest, List.concat_eq_append, logs⟩

theorem outstanding_append (log : List Event) (event : Event) (port : UInt16) :
    Outstanding (log ++ [event]) port ↔
      (∃ caller, event = .handedOut caller port) ∨ event ≠ .returned port ∧ Outstanding log port := by
  constructor
  · rintro ⟨before, caller, after, same, kept⟩
    rcases split_longer same with ⟨-, isLast, -⟩ | ⟨rest, rfl, earlier⟩
    · exact .inl ⟨caller, isLast⟩
    · rw [List.mem_append, not_or, List.mem_singleton] at kept
      exact .inr ⟨Ne.symm kept.2, before, caller, rest, earlier, kept.1⟩
  · rintro (⟨caller, rfl⟩ | ⟨noReturn, before, caller, after, rfl, kept⟩)
    · exact ⟨log, caller, [], rfl, List.not_mem_nil⟩
    · refine ⟨before, caller, after ++ [event], by rw [List.append_assoc, List.cons_append], fun returned => ?_⟩
      rcases List.mem_append.mp returned with earlier | last
      · exact kept earlier
      · exact noReturn (List.mem_singleton.mp last).symm

namespace Race

/-- The claimed ports are the outstanding ones, a call that was granted a port is in the log with it, and what is
handed out was not outstanding then. -/
structure Law (race : Race) : Prop where
  claimed : ∀ port, port ∈ race.claims.ports ↔ Outstanding race.log port
  granted : ∀ caller port, race.calls caller = .granted port ↔ .handedOut caller port ∈ race.log
  free : ∀ before caller port after, race.log = before ++ .handedOut caller port :: after → ¬ Outstanding before port

theorem law_start : Law {} where
  claimed port := by simp [not_outstanding_nil, none_]
  granted caller port := by simp
  free before caller port after same :=
    absurd same.symm (List.append_ne_nil_of_right_ne_nil before (List.cons_ne_nil _ after))

theorem Law.not_granted {race : Race} (law : race.Law) {caller : Nat} (going : (race.calls caller).isOver = false)
    (port : UInt16) : .handedOut caller port ∉ race.log := by
  intro listed
  rw [(law.granted caller port).mpr listed] at going
  cases going

theorem Law.moveOn {race : Race} (law : race.Law) {caller : Nat} (going : (race.calls caller).isOver = false)
    {call : Call} (noGrant : ∀ port, call ≠ .granted port) : (race.moveOn caller call).Law where
  claimed := law.claimed
  granted other port := by
    by_cases same : other = caller
    · subst same
      rw [moveOn_calls_self]
      exact iff_of_false (noGrant port) (law.not_granted going port)
    · rw [race.moveOn_calls_of_ne same]
      exact law.granted other port
  free := law.free

theorem Law.grant {race : Race} (law : race.Law) {caller : Nat} (going : (race.calls caller).isOver = false)
    {port : UInt16} (unclaimed : port ∉ race.claims.ports) {claims : PortClaims}
    (ports : claims.ports = port :: race.claims.ports) : (race.grant caller port claims).Law where
  claimed other := by
    show other ∈ claims.ports ↔ _
    rw [Race.grant, outstanding_append, ports, List.mem_cons, law.claimed other]
    constructor
    · rintro (rfl | held)
      · exact .inl ⟨caller, rfl⟩
      · exact .inr ⟨nofun, held⟩
    · rintro (⟨_, same⟩ | ⟨-, held⟩)
      · cases same
        exact .inl rfl
      · exact .inr held
  granted other out := by
    rw [Race.grant, List.mem_append, List.mem_singleton]
    show (race.moveOn caller (.granted port)).calls other = _ ↔ _
    by_cases same : other = caller
    · subst same
      simp [law.not_granted going out, eq_comm]
    · rw [race.moveOn_calls_of_ne same, law.granted other out]
      simp [same]
  free before other out after same := by
    rcases split_longer same with ⟨rfl, isLast, -⟩ | ⟨rest, -, earlier⟩
    · cases isLast
      exact mt (law.claimed port).mpr unclaimed
    · exact law.free before other out rest earlier

theorem Law.giveBack {race : Race} (law : race.Law) (port : UInt16) :
    Law { race with claims := race.claims.release port, log := race.log ++ [.returned port] } where
  claimed other := by
    simp only [mem_release, outstanding_append, law.claimed other]
    simp [eq_comm]
  granted caller out := by simp [law.granted caller out]
  free before caller out after same := by
    rcases split_longer same with ⟨-, isLast, -⟩ | ⟨rest, -, earlier⟩
    · cases isLast
    · exact law.free before caller out rest earlier

theorem Law.turn {race : Race} (law : race.Law) (turn : Turn) : (race.turn turn).Law := by
  rcases race.turn_cases turn with same | ⟨caller, call, -, going, noGrant, same⟩ |
    ⟨caller, port, claims, -, going, unclaimed, ports, same⟩ | ⟨port, -, same⟩
  · rw [same]
    exact law
  · rw [same]
    exact law.moveOn going noGrant
  · rw [same]
    exact law.grant going unclaimed ports
  · rw [same]
    exact law.giveBack port

theorem Law.run {race : Race} (law : race.Law) (turns : List Turn) : (race.run turns).Law := by
  induction turns generalizing race with
  | nil => exact law
  | cons turn rest ih => exact ih (law.turn turn)

/-- But for one call, two races are at the same point. -/
structure AgreesBut (caller : Nat) (one two : Race) : Prop where
  claims : two.claims = one.claims
  log : two.log = one.log
  calls : ∀ other, other ≠ caller → two.calls other = one.calls other

theorem calls_turn_of_isOver {race : Race} {caller : Nat} (ended : (race.calls caller).isOver = true) (turn : Turn) :
    (race.turn turn).calls caller = race.calls caller := by
  have other {mover : Nat} (going : (race.calls mover).isOver = false) : caller ≠ mover := by
    rintro rfl
    rw [ended] at going
    cases going
  rcases race.turn_cases turn with same | ⟨mover, call, -, going, -, same⟩ |
    ⟨mover, port, claims, -, going, -, -, same⟩ | ⟨port, -, same⟩
  · rw [same]
  · rw [same, race.moveOn_calls_of_ne (other going)]
  · rw [same]
    exact race.moveOn_calls_of_ne (other going) _
  · rw [same]

theorem calls_run_of_isOver {race : Race} {caller : Nat}
    (ended : (race.calls caller).isOver = true) (turns : List Turn) :
    (race.run turns).calls caller = race.calls caller := by
  induction turns generalizing race with
  | nil => rfl
  | cons turn rest ih =>
    have stays := calls_turn_of_isOver ended turn
    exact (ih (stays ▸ ended)).trans stays

theorem AgreesBut.turn {caller : Nat} {one two : Race} (agrees : AgreesBut caller one two) {turn : Turn}
    (byOther : turn.caller? ≠ some caller) : AgreesBut caller (one.turn turn) (two.turn turn) := by
  have moves {mover : Nat} (different : mover ≠ caller) (call : Call) :
      AgreesBut caller (one.moveOn mover call) (two.moveOn mover call) := by
    refine ⟨agrees.claims, agrees.log, fun other away => ?_⟩
    by_cases same : other = mover
    · rw [same, moveOn_calls_self, moveOn_calls_self]
    · rw [one.moveOn_calls_of_ne same, two.moveOn_calls_of_ne same, agrees.calls other away]
  cases turn with
  | giveBack port =>
    exact ⟨congrArg (·.release port) agrees.claims,
      congrArg (fun log => log ++ [Event.returned port]) agrees.log, agrees.calls⟩
  | allocate mover answer =>
    have different : mover ≠ caller := fun same => byOther (congrArg some same)
    simp only [Race.turn, agrees.calls mover different]
    split
    next => exact moves different _
    next => exact moves different _
    next => exact agrees
  | claim mover =>
    have different : mover ≠ caller := fun same => byOther (congrArg some same)
    simp only [Race.turn, agrees.calls mover different, agrees.claims]
    split
    next port _ =>
      split
      next => exact moves different _
      next claims _ =>
        have moved := moves different (.granted port)
        exact ⟨rfl, congrArg (fun log => log ++ [Event.handedOut mover port]) agrees.log, moved.calls⟩
    next => exact agrees

theorem AgreesBut.own {caller : Nat} {one two : Race} (agrees : AgreesBut caller one two) {turn : Turn}
    (byCaller : turn.caller? = some caller) (noGrant : ∀ port, (one.turn turn).calls caller ≠ .granted port) :
    AgreesBut caller (one.turn turn) two := by
  rcases one.turn_cases turn with same | ⟨mover, call, mine, -, -, same⟩ |
    ⟨mover, port, claims, mine, -, -, -, same⟩ | ⟨port, nobody, same⟩
  · rw [same]
    exact agrees
  · obtain rfl : mover = caller := Option.some.inj (mine.symm.trans byCaller)
    rw [same]
    exact ⟨agrees.claims, agrees.log, fun other away => by rw [agrees.calls other away, one.moveOn_calls_of_ne away]⟩
  · obtain rfl : mover = caller := Option.some.inj (mine.symm.trans byCaller)
    rw [same] at noGrant
    exact absurd (one.moveOn_calls_self mover (.granted port)) (noGrant port)
  · rw [nobody] at byCaller
    cases byCaller

/-- Without the steps of a call that fails, everything else happens just the same. -/
theorem AgreesBut.run {caller : Nat} {one two : Race} (agrees : AgreesBut caller one two)
    {turns : List Turn} {fault : Fault}
    (fails : (one.run turns).calls caller = .failed fault) :
    AgreesBut caller (one.run turns) (two.run (turns.filter (fun turn => turn.caller? ≠ some caller))) := by
  induction turns generalizing one two with
  | nil => exact agrees
  | cons turn rest ih =>
    -- A step of the call is taken by the first race alone, any other step by both.
    by_cases byCaller : turn.caller? = some caller
    · rw [List.filter_cons_of_neg (by simp [byCaller])]
      refine ih (agrees.own byCaller (fun port granted => ?_)) fails
      have stays := calls_run_of_isOver (by rw [granted]; rfl) rest
      rw [granted, show ((one.turn turn).run rest).calls caller = .failed fault from fails] at stays
      cases stays
    · rw [List.filter_cons_of_pos (by simp [byCaller])]
      exact ih (agrees.turn byCaller) fails

end Race

def rounds (caller : Nat) (answers : List PortAnswer) : List Turn :=
  answers.flatMap (fun answer => [.allocate caller answer, .claim caller])

theorem caller?_of_mem_rounds {caller : Nat} {answers : List PortAnswer} {turn : Turn}
    (listed : turn ∈ rounds caller answers) : turn.caller? = some caller := by
  obtain ⟨answer, -, step⟩ := List.mem_flatMap.mp listed
  rcases List.mem_cons.mp step with rfl | last
  · rfl
  · rw [List.mem_singleton.mp last]
    rfl

namespace Race

theorem run_of_isOver {race : Race} {caller : Nat} (ended : (race.calls caller).isOver = true) {turns : List Turn}
    (own : ∀ turn ∈ turns, turn.caller? = some caller) : race.run turns = race := by
  have idle {turn : Turn} (mine : turn.caller? = some caller) : race.turn turn = race := by
    rcases race.turn_cases turn with
      same | ⟨mover, _, moves, going, -⟩ | ⟨mover, _, _, moves, going, -⟩ | ⟨_, nobody, -⟩
    · exact same
    · rw [Option.some.inj (moves.symm.trans mine), ended] at going
      cases going
    · rw [Option.some.inj (moves.symm.trans mine), ended] at going
      cases going
    · rw [nobody] at mine
      cases mine
  induction turns with
  | nil => rfl
  | cons turn rest ih =>
    rw [run, List.foldl_cons, idle (own turn List.mem_cons_self)]
    exact ih (fun other listed => own other (List.mem_cons_of_mem _ listed))

theorem run_rounds_error {race : Race} {caller : Nat} (asks : race.calls caller = .asking) (fault : Fault)
    (more : List PortAnswer) :
    race.run (rounds caller (.error fault :: more)) = race.moveOn caller (.failed fault) := by
  have first : race.turn (.allocate caller (.error fault)) = race.moveOn caller (.failed fault) := by
    simp only [turn, asks]
  rw [rounds, List.flatMap_cons, List.cons_append, run, List.foldl_cons, first]
  refine run_of_isOver (by rw [moveOn_calls_self]; rfl) (fun turn listed => ?_)
  rcases List.mem_cons.mp listed with rfl | later
  · rfl
  · exact caller?_of_mem_rounds later

/-- A call that asks until it is answered with a port that is free, or with a fault. With no answer left, the system
has no port any more. -/
theorem run_rounds {race : Race} {caller : Nat} (asks : race.calls caller = .asking) (answers : List PortAnswer) :
    let later := race.run (rounds caller (answers ++ [.error .addressInUse]))
    later.claims = (race.claims.claimFirst answers).2.1 ∧
      later.calls caller = .ofAnswer (race.claims.claimFirst answers).1 := by
  induction answers generalizing race with
  | nil =>
    intro later
    rw [show later = _ from run_rounds_error asks .addressInUse []]
    exact ⟨rfl, moveOn_calls_self ..⟩
  | cons answer rest ih =>
    intro later
    cases answer with
    | error fault =>
      rw [show later = _ from run_rounds_error asks fault _]
      exact ⟨rfl, moveOn_calls_self ..⟩
    | ok port =>
      have first : race.turn (.allocate caller (.ok port)) = race.moveOn caller (.holding port) := by
        simp only [turn, asks]
      have holds := race.moveOn_calls_self caller (.holding port)
      have steps : later =
          ((race.moveOn caller (.holding port)).turn (.claim caller)).run
            (rounds caller (rest ++ [.error .addressInUse])) := by
        rw [← first]
        rfl
      by_cases taken : port ∈ race.claims.ports
      · have second : (race.moveOn caller (.holding port)).turn (.claim caller) =
            (race.moveOn caller (.holding port)).moveOn caller .asking := by
          simp only [turn, holds, show (race.moveOn caller (.holding port)).claims = race.claims from rfl,
            claim?_taken taken]
        rw [steps, second, claimFirst, claim?_taken taken]
        exact ih (moveOn_calls_self ..)
      · obtain ⟨claims, claimed, -⟩ := claim?_free taken
        have second : (race.moveOn caller (.holding port)).turn (.claim caller) =
            (race.moveOn caller (.holding port)).grant caller port claims := by
          simp only [turn, holds, show (race.moveOn caller (.holding port)).claims = race.claims from rfl, claimed]
        have granted : ((race.moveOn caller (.holding port)).grant caller port claims).calls caller = .granted port :=
          moveOn_calls_self ..
        rw [steps, second, claimFirst, claimed,
          run_of_isOver (by rw [granted]; rfl) (fun _ => caller?_of_mem_rounds)]
        exact ⟨rfl, granted⟩

end Race

def answersAt (host : Host) (ip : String) : List PortAnswer :=
  match host.resolve ip with
  | .error fault => [.error fault]
  | .ok address =>
    match host.network.bindFault address with
    | some fault => [.error fault]
    | none => host.ports ++ [.error .addressInUse]

theorem findAvailable_eq_run (claims : PortClaims) (host : Host) (ip : String) :
    let later := Race.run { claims := claims } (rounds 0 (answersAt host ip))
    later.claims = (claims.findAvailable host ip).2.1 ∧
      later.calls 0 = .ofAnswer (claims.findAvailable host ip).1 := by
  have asks : (Race.mk claims (fun _ => .asking) []).calls 0 = .asking := rfl
  have refused (fault : Fault) :
      (Race.run { claims := claims } (rounds 0 [.error fault])) =
        Race.moveOn { claims := claims } 0 (.failed fault) := Race.run_rounds_error asks fault []
  intro later
  have failed {fault : Fault} (answers : answersAt host ip = [.error fault]) :
      later.claims = claims ∧ later.calls 0 = .failed fault := by
    rw [show later = _ from congrArg (fun answers => Race.run _ (rounds 0 answers)) answers, refused]
    exact ⟨rfl, Race.moveOn_calls_self ..⟩
  cases resolved : host.resolve ip with
  | error fault =>
    simp only [findAvailable, resolved]
    exact failed (by simp only [answersAt, resolved])
  | ok address =>
    cases bound : host.network.bindFault address with
    | some fault =>
      simp only [findAvailable, resolved, bound]
      exact failed (by simp only [answersAt, resolved, bound])
    | none =>
      have answers : answersAt host ip = host.ports ++ [.error .addressInUse] := by
        simp only [answersAt, resolved, bound]
      simp only [findAvailable, resolved, bound]
      rw [show later = _ from congrArg (fun answers => Race.run _ (rounds 0 answers)) answers]
      exact Race.run_rounds asks host.ports

/-- Whatever calls overlap, and whatever ports the system gives out, the ports that are claimed are those that were
handed out and not returned since. A call that fails changes nothing: without it, all else happens just the same. And
a port is handed out twice only if it was returned in between. -/
theorem claims_outstanding (turns : List Turn) :
    let race := Race.run {} turns
    (∀ port, port ∈ race.claims.ports ↔ Outstanding race.log port) ∧
      (∀ caller port, race.calls caller = .granted port ↔ .handedOut caller port ∈ race.log) ∧
      (∀ caller fault, race.calls caller = .failed fault →
        Race.AgreesBut caller race (Race.run {} (turns.filter (fun turn => turn.caller? ≠ some caller)))) ∧
      ∀ before one port between two after,
        race.log = before ++ .handedOut one port :: (between ++ .handedOut two port :: after) →
        .returned port ∈ between := by
  intro race
  have law : race.Law := Race.law_start.run turns
  refine ⟨law.claimed, law.granted, fun caller fault fails => ?_, fun before one port between two after same => ?_⟩
  · exact Race.AgreesBut.run ⟨rfl, rfl, fun _ _ => rfl⟩ fails
  · have atSecond : race.log = (before ++ .handedOut one port :: between) ++ .handedOut two port :: after := by
      rw [same, List.append_assoc, List.cons_append]
    by_contra kept
    exact law.free _ two port after atSecond ⟨before, one, between, rfl, kept⟩

theorem claims_outstanding_threeCallers :
    let turns := [Turn.allocate 0 (.ok 7), .allocate 1 (.ok 7), .claim 0, .claim 1, .allocate 1 (.error .addressInUse),
      .giveBack 7, .allocate 2 (.ok 7), .claim 2]
    let race := Race.run {} turns
    race.log = [.handedOut 0 7, .returned 7, .handedOut 2 7] ∧ race.claims.ports = [7] ∧
      race.calls 1 = .failed .addressInUse ∧
      Race.AgreesBut 1 race (Race.run {} (turns.filter (fun turn => turn.caller? ≠ some 1))) ∧
      Event.returned 7 ∈ [Event.returned 7] := by
  intro turns race
  have logged : race.log = [.handedOut 0 7, .returned 7, .handedOut 2 7] := by rfl
  have failed : race.calls 1 = .failed .addressInUse := by decide
  obtain ⟨-, -, leaves, between⟩ := claims_outstanding turns
  exact ⟨logged, by decide, failed, leaves 1 _ failed, between [] 0 7 [.returned 7] 2 [] logged⟩

end Mooring.PortClaims
