import Mathlib.Data.List.Basic
import Mooring.Host.Isolated
import Mooring.Ssh.Login

/-! What is tried at a login. Servers are any functions here, so that each attempt can be accepted, be rejected or fail,
whatever came before it. -/

namespace Mooring.Ssh

/-- Attempts with their answers, in the order in which they were made. -/
abbrev Transcript := List (Attempt × Verdict)

def isAccepted (row : Attempt × Verdict) : Bool := decide (row.2 = .accepted)

def passwordAttempts (user : String) : Except Error String → List Attempt
  | .ok password => [.password user password]
  | .error _ => []

section
variable {σ : Type} (respond : σ → Attempt → Verdict × σ)

/-- A server that also writes down what it is asked and what it answers. -/
def recording (state : Transcript × σ) (attempt : Attempt) : Verdict × (Transcript × σ) :=
  let answer := respond state.2 attempt
  (answer.1, state.1 ++ [(attempt, answer.1)], answer.2)

def keyRound (user : String) : List String → σ → Transcript
  | [], _ => []
  | key :: rest, server =>
    let answer := respond server (.key user key)
    (.key user key, answer.1) :: if answer.1 = .accepted then [] else keyRound user rest answer.2

def passwordRound (user : String) (password : Except Error String) (server : σ) : Transcript :=
  (passwordAttempts user password).map (fun attempt => (attempt, (respond server attempt).1))

theorem tryKeys_cons (user key : String) (rest : List String) (server : σ) :
    tryKeys respond user (key :: rest) server =
      if (respond server (.key user key)).1 = .accepted then (true, (respond server (.key user key)).2)
      else tryKeys respond user rest (respond server (.key user key)).2 := by
  rcases answer : respond server (.key user key) with ⟨verdict, later⟩
  cases verdict <;> simp [tryKeys, answer]

theorem tryKeys_recording (user : String) (keys : List String) (past : Transcript) (server : σ) :
    tryKeys (recording respond) user keys (past, server) =
      ((tryKeys respond user keys server).1, past ++ keyRound respond user keys server,
        (tryKeys respond user keys server).2) := by
  induction keys generalizing past server with
  | nil => simp only [tryKeys, keyRound, List.append_nil]
  | cons key rest ih =>
    rw [tryKeys_cons, tryKeys_cons, keyRound]
    simp only [recording, ih]
    split <;> simp

theorem tryKeys_eq_any (user : String) (keys : List String) (server : σ) :
    (tryKeys respond user keys server).1 = (keyRound respond user keys server).any isAccepted := by
  induction keys generalizing server with
  | nil => rfl
  | cons key rest ih =>
    rw [tryKeys_cons, keyRound, List.any_cons]
    split
    next accepted => simp [isAccepted, accepted]
    next refused => simp [isAccepted, refused, ih]

theorem keyRound_initial (user : String) (keys : List String) (server : σ) :
    (keyRound respond user keys server).map Prod.fst <+: keys.map (.key user) := by
  induction keys generalizing server with
  | nil => exact List.prefix_refl _
  | cons key rest ih =>
    rw [keyRound, List.map_cons, List.map_cons, List.prefix_cons_inj]
    split
    next => exact List.nil_prefix
    next => exact ih _

theorem keyRound_all {user : String} {keys : List String} {server : σ}
    (refused : (keyRound respond user keys server).any isAccepted = false) :
    (keyRound respond user keys server).map Prod.fst = keys.map (.key user) := by
  induction keys generalizing server with
  | nil => rfl
  | cons key rest ih =>
    rw [keyRound, List.any_cons, Bool.or_eq_false_iff] at refused
    have first : (respond server (.key user key)).1 ≠ .accepted := of_decide_eq_false refused.1
    rw [if_neg first] at refused
    rw [keyRound, if_neg first, List.map_cons, List.map_cons, ih refused.2]

theorem keyRound_stops (user : String) (keys : List String) (server : σ) :
    (keyRound respond user keys server).Pairwise (fun earlier _ => earlier.2 ≠ .accepted) := by
  induction keys generalizing server with
  | nil => exact List.Pairwise.nil
  | cons key rest ih =>
    rw [keyRound]
    split
    next => exact List.pairwise_singleton _ _
    next refused => exact List.pairwise_cons.mpr ⟨fun _ _ => refused, ih _⟩

theorem sendPassword_recording (target : Target) (password : String) (past : Transcript) (server : σ) :
    sendPassword (recording respond) target password (past, server) =
      ((sendPassword respond target password server).1,
        past ++ passwordRound respond target.user (.ok password) server,
        (sendPassword respond target password server).2) := by
  rcases answer : respond server (.password target.user password) with ⟨verdict, later⟩
  cases verdict <;> simp [sendPassword, recording, passwordRound, passwordAttempts, answer]

theorem sendPassword_eq_ok_iff (target : Target) (password : String) (server : σ) :
    (sendPassword respond target password server).1 = .ok () ↔
      (respond server (.password target.user password)).1 = .accepted := by
  rcases answer : respond server (.password target.user password) with ⟨verdict, later⟩
  cases verdict <;> simp [sendPassword, answer]

/-- A server that writes down what happens answers as it would otherwise. -/
theorem logIn_recording (target : Target) (keys : List String) (password : Except Error String)
    (past : Transcript) (server : σ) :
    let login := logIn (recording respond) target keys password (past, server)
    logIn respond target keys password server = ⟨login.result, login.prompts, login.server.2⟩ := by
  simp only [logIn, tryKeys_recording]
  rcases tryKeys respond target.user keys server with ⟨accepted, later⟩
  cases accepted with
  | true => rfl
  | false =>
    cases password with
    | error error => rfl
    | ok password => simp only [sendPassword_recording]

end

/-- What a login may do: try keys in order, one after another up to the first that is accepted, and ask for a password
once, and send it once, if none is. -/
structure Disciplined (target : Target) (keys : List String) (password : Except Error String)
    (keyRound passwordRound : Transcript) (result : Except Error Unit) (prompts : List Target) : Prop where
  inOrder : keyRound.map Prod.fst <+: keys.map (.key target.user)
  complete : keyRound.any isAccepted = false → keyRound.map Prod.fst = keys.map (.key target.user)
  stops : (keyRound ++ passwordRound).Pairwise (fun earlier _ => earlier.2 ≠ .accepted)
  prompts : prompts = if keyRound.any isAccepted then [] else [target]
  passwords : passwordRound.map Prod.fst =
    if keyRound.any isAccepted then [] else passwordAttempts target.user password
  result_iff : result = .ok () ↔ ∃ row ∈ keyRound ++ passwordRound, row.2 = .accepted
  promptFault : ∀ error, password = .error error → keyRound.any isAccepted = false → result = .error error

theorem any_isAccepted (round : Transcript) :
    round.any isAccepted = true ↔ ∃ row ∈ round, row.2 = .accepted := by
  simp only [List.any_eq_true, isAccepted, decide_eq_true_eq]

section
variable {target : Target} {keys : List String} {password : Except Error String} {round : Transcript}

theorem Disciplined.of_key (accepted : round.any isAccepted = true)
    (inOrder : round.map Prod.fst <+: keys.map (.key target.user))
    (stops : round.Pairwise (fun earlier _ => earlier.2 ≠ .accepted)) :
    Disciplined target keys password round [] (.ok ()) [] where
  inOrder := inOrder
  complete refused := by simp [accepted] at refused
  stops := by rwa [List.append_nil]
  prompts := by rw [if_pos accepted]
  passwords := by rw [if_pos accepted, List.map_nil]
  result_iff := by
    rw [List.append_nil]
    exact iff_of_true rfl ((any_isAccepted round).mp accepted)
  promptFault _ _ refused := by simp [accepted] at refused

theorem Disciplined.of_prompt {last : Transcript} {result : Except Error Unit}
    (refused : round.any isAccepted = false) (complete : round.map Prod.fst = keys.map (.key target.user))
    (passwords : last.map Prod.fst = passwordAttempts target.user password)
    (result_iff : result = .ok () ↔ ∃ row ∈ last, row.2 = .accepted)
    (promptFault : ∀ error, password = .error error → result = .error error) :
    Disciplined target keys password round last result [target] := by
  have none (row : Attempt × Verdict) (among : row ∈ round) : row.2 ≠ .accepted := fun accepted =>
    Bool.false_ne_true (refused.symm.trans ((any_isAccepted round).mpr ⟨row, among, accepted⟩))
  have atMostOne : last.length ≤ 1 := by
    rw [← List.length_map Prod.fst, passwords]
    cases password <;> simp [passwordAttempts]
  constructor
  · exact complete ▸ List.prefix_refl _
  · exact fun _ => complete
  · apply List.pairwise_append.mpr
    refine ⟨List.pairwise_of_forall_mem_list fun row among _ _ => none row among, ?_,
      fun row among _ _ => none row among⟩
    match last, atMostOne with
    | [], _ => exact List.Pairwise.nil
    | [row], _ => exact List.pairwise_singleton _ row
  · rw [if_neg (Bool.eq_false_iff.mp refused)]
  · rw [if_neg (Bool.eq_false_iff.mp refused), passwords]
  · rw [result_iff]
    constructor
    · rintro ⟨row, among, accepted⟩
      exact ⟨row, List.mem_append_right round among, accepted⟩
    · rintro ⟨row, among, accepted⟩
      rcases List.mem_append.mp among with early | late
      · exact absurd accepted (none row early)
      · exact ⟨row, late, accepted⟩
  · exact fun error fault _ => promptFault error fault

end

section
variable {σ : Type} (respond : σ → Attempt → Verdict × σ)

theorem logIn_disciplined (target : Target) (keys : List String) (password : Except Error String) (server : σ) :
    let login := logIn (recording respond) target keys password ([], server)
    ∃ keyRound passwordRound, login.server.1 = keyRound ++ passwordRound ∧
      Disciplined target keys password keyRound passwordRound login.result login.prompts := by
  intro login
  set round := keyRound respond target.user keys server
  set later := (tryKeys respond target.user keys server).2
  have tried : tryKeys (recording respond) target.user keys ([], server) = (round.any isAccepted, round, later) := by
    rw [tryKeys_recording, tryKeys_eq_any, List.nil_append]
  cases accepted : round.any isAccepted with
  | true =>
    have ends : login = ⟨.ok (), [], (round, later)⟩ := by simp [login, logIn, tried, accepted]
    refine ⟨round, [], by rw [ends, List.append_nil], ?_⟩
    rw [ends]
    exact Disciplined.of_key accepted (keyRound_initial respond target.user keys server)
      (keyRound_stops respond target.user keys server)
  | false =>
    have complete : round.map Prod.fst = keys.map (.key target.user) := keyRound_all respond accepted
    cases password with
    | error error =>
      have ends : login = ⟨.error error, [target], (round, later)⟩ := by simp [login, logIn, tried, accepted]
      refine ⟨round, [], by rw [ends, List.append_nil], ?_⟩
      rw [ends]
      exact Disciplined.of_prompt accepted complete rfl (by simp) (fun other same => by cases same; rfl)
    | ok password =>
      have ends : login = ⟨(sendPassword respond target password later).1, [target],
          (round ++ passwordRound respond target.user (.ok password) later,
            (sendPassword respond target password later).2)⟩ := by
        simp [login, logIn, tried, accepted, sendPassword_recording]
      refine ⟨round, passwordRound respond target.user (.ok password) later, by rw [ends], ?_⟩
      rw [ends]
      refine Disciplined.of_prompt accepted complete rfl ?_ nofun
      rw [sendPassword_eq_ok_iff]
      simp [passwordRound, passwordAttempts]

end

section
variable {κ : Type} {host : Host} {standing : κ → Target → String → Standing} {learn : κ → Target → String → κ}
  {known : κ} {hostKey : String} {target : Target}

theorem enter_accepted {σ : Type} (respond : σ → Attempt → Verdict × σ) (keyring : Keyring)
    (password : Except Error String) (server : σ)
    (reached : host.network.connectFault target.host target.port = none)
    (expected : standing known target hostKey = .known ∨ standing known target hostKey = .unknown) :
    enter host standing learn known hostKey respond target keyring password server =
      ⟨logIn respond target (keyring.keys host) password server,
        ((standing known target hostKey).judge known (learn known target hostKey)).2⟩ := by
  rw [enter, reached]
  rcases expected with stands | stands <;> simp [stands, Standing.judge]

/-- What comes of a refused visit has nothing to do with the server. -/
theorem enter_refused (refused : host.network.connectFault target.host target.port ≠ none ∨
      standing known target hostKey = .changed ∨ standing known target hostKey = .unreadable) :
    ∃ error, ∀ {σ : Type} (respond : σ → Attempt → Verdict × σ) (keyring : Keyring)
      (password : Except Error String) (server : σ),
      enter host standing learn known hostKey respond target keyring password server =
        ⟨⟨.error error, [], server⟩, known⟩ := by
  simp only [enter]
  cases fault : host.network.connectFault target.host target.port with
  | some fault => exact ⟨_, fun _ _ _ _ => rfl⟩
  | none =>
    rcases refused.resolve_left (not_not_intro fault) with stands | stands <;>
      exact ⟨_, fun _ _ _ _ => by rw [stands]; rfl⟩

end

/-- A server that cannot be reached or that is refused is asked nothing, and no password is asked for. Any other is
offered the keys of the agent, then the key that was asked for, then the default keys, each that can be read as often
as it is listed, and a password as the last. Both hold whatever keys there are, whatever the server answers, and
however the record of servers is kept. -/
theorem enter_disciplined {σ κ : Type} (respond : σ → Attempt → Verdict × σ) (host : Host)
    (standing : κ → Target → String → Standing) (learn : κ → Target → String → κ) (known : κ)
    (hostKey : String) (target : Target) (keyring : Keyring) (password : Except Error String) (server : σ) :
    let visit := enter host standing learn known hostKey (recording respond) target keyring password ([], server)
    let fault := host.network.connectFault target.host target.port
    let stands := standing known target hostKey
    let keys := keyring.agent.getD [] ++ keyring.explicit.toList.filterMap (keyring.keyAt host) ++
      (defaultKeyPaths host).filterMap (keyring.keyAt host)
    enter host standing learn known hostKey respond target keyring password server =
        ⟨⟨visit.result, visit.prompts, visit.server.2⟩, visit.known⟩ ∧
      (fault ≠ none ∨ stands = .changed ∨ stands = .unreadable →
        visit.server.1 = [] ∧ visit.prompts = [] ∧ visit.result ≠ .ok ()) ∧
      (fault = none → stands = .known ∨ stands = .unknown →
        ∃ keyRound passwordRound, visit.server.1 = keyRound ++ passwordRound ∧
          Disciplined target keys password keyRound passwordRound visit.result visit.prompts) := by
  intro visit fault stands keys
  have keys_eq : keyring.keys host = keys := by
    rw [Keyring.keys, List.filterMap_append, ← List.append_assoc]
  have either : (stands = .known ∨ stands = .unknown) ∨ stands = .changed ∨ stands = .unreadable := by
    cases stands <;> simp
  by_cases welcome : fault = none ∧ (stands = .known ∨ stands = .unknown)
  · obtain ⟨reached, expected⟩ := welcome
    have ends : visit = ⟨logIn (recording respond) target keys password ([], server),
        (stands.judge known (learn known target hostKey)).2⟩ := by
      rw [← keys_eq]
      exact enter_accepted (recording respond) keyring password ([], server) reached expected
    refine ⟨?_, ?_, fun _ _ => ?_⟩
    · rw [enter_accepted respond keyring password server reached expected, ends, keys_eq,
        logIn_recording respond target keys password [] server]
    · rintro (unreached | changed | unreadable)
      · exact absurd reached unreached
      · simp [changed] at expected
      · simp [unreadable] at expected
    · rw [ends]
      exact logIn_disciplined respond target keys password server
  · have refused : fault ≠ none ∨ stands = .changed ∨ stands = .unreadable :=
      (not_and_or.mp welcome).imp_right either.resolve_left
    obtain ⟨error, ends⟩ := @enter_refused κ host standing learn known hostKey target refused
    have ends_here : visit = ⟨⟨.error error, [], ([], server)⟩, known⟩ :=
      ends (recording respond) keyring password ([], server)
    refine ⟨?_, fun _ => ?_, fun reached expected => ?_⟩
    · rw [ends respond keyring password server, ends_here]
    · rw [ends_here]
      exact ⟨rfl, rfl, nofun⟩
    · exact absurd ⟨reached, expected⟩ welcome

def keyHost : Host :=
  { Host.Isolated.machine [["home"], ["home", ".ssh"]] [] with
    files := .ofList
      [(["home"], Host.Isolated.directory), (["home", ".ssh"], Host.Isolated.directory),
        (["home", "work"], .file [1] 0o600 0), (["home", ".ssh", "id_ecdsa"], .file [] 0o600 0),
        (["home", ".ssh", "id_rsa"], .file [2] 0o600 0)]
    network := { Host.Isolated.network with connectFault := fun _ _ => none }
    accountHome := some "/home" }

def workKeys : Keyring where
  agent := some ["agent"]
  explicit := some "/home/work"
  readKey content :=
    match content with
    | [1] => some "work"
    | [2] => some "rsa"
    | _ => none

def takesPasswords (visits : Nat) : Attempt → Verdict × Nat
  | .key _ "work" => (.failed "timeout", visits + 1)
  | .key _ _ => (.rejected, visits + 1)
  | .password _ _ => (.accepted, visits + 1)

theorem enter_disciplined_password :
    let target : Target := ⟨"alice", "example", 22⟩
    let standing (known : KnownHosts) (_ : Target) := known.standing
    let learn (known : KnownHosts) (_ : Target) := known.learn
    let visit := enter keyHost standing learn {} "host" (recording takesPasswords) target
      workKeys (.ok "secret") ([], 0)
    visit.server.1 = [(.key "alice" "agent", .rejected), (.key "alice" "work", .failed "timeout"),
        (.key "alice" "rsa", .rejected), (.password "alice" "secret", .accepted)] ∧
      visit.known.keys = ["host"] ∧
      ∃ keyRound passwordRound, visit.server.1 = keyRound ++ passwordRound ∧
        Disciplined target ["agent", "work", "rsa"] (.ok "secret") keyRound passwordRound
          visit.result visit.prompts := by
  intro target standing learn visit
  have law := enter_disciplined takesPasswords keyHost standing learn {} "host" target workKeys (.ok "secret") 0
  exact ⟨by decide +kernel, by decide +kernel, law.2.2 rfl (Or.inr rfl)⟩

end Mooring.Ssh
