import Std.Data.TreeMap.Lemmas
import Mooring.Host.Files

/-! Where a path leads while files come and go. A walk passes directories and links only, so a tree
that keeps those leads to the same directory. -/

namespace Mooring.Host

inductive Kind
  | file
  | directory
  | link (target : String)
  deriving DecidableEq

def Node.kind : Node → Kind
  | .file .. => .file
  | .directory .. => .directory
  | .link target => .link target

@[simp] theorem Node.kind_withMode (node : Node) (mode : Nat) : (node.withMode mode).kind = node.kind := by
  cases node <;> rfl

theorem Node.isDirectory_iff (node : Node) : node.isDirectory = true ↔ node.kind = .directory := by
  cases node <;> simp [isDirectory, kind]

namespace FileTree

def kindAt (tree : FileTree) (place : Place) : Option Kind := (tree.nodeAt place).map Node.kind

theorem nodeAt_insert_self (tree : FileTree) (place : Place) (node : Node) :
    nodeAt (tree.insert place node) place = some node := by
  simp [nodeAt]

theorem nodeAt_insert_of_ne (tree : FileTree) {place other : Place} (node : Node) (h : other ≠ place) :
    nodeAt (tree.insert place node) other = tree.nodeAt other := by
  simp [nodeAt, Std.TreeMap.getElem?_insert, Ne.symm h]

theorem nodeAt_erase_of_ne (tree : FileTree) {place other : Place} (h : other ≠ place) :
    nodeAt (tree.erase place) other = tree.nodeAt other := by
  simp [nodeAt, Std.TreeMap.getElem?_erase, Ne.symm h]

theorem nodeAt_erase_self (tree : FileTree) {place : Place} (below : place ≠ []) :
    nodeAt (tree.erase place) place = none := by
  simp [nodeAt, below]

theorem kindAt_insert (tree : FileTree) (place other : Place) (node : Node) :
    kindAt (tree.insert place node) other = if other = place then some node.kind else tree.kindAt other := by
  by_cases same : other = place
  · simp [kindAt, same, nodeAt_insert_self]
  · simp [kindAt, same, nodeAt_insert_of_ne _ _ same]

theorem kindAt_erase (tree : FileTree) {place : Place} (below : place ≠ []) (other : Place) :
    kindAt (tree.erase place) other = if other = place then none else tree.kindAt other := by
  by_cases same : other = place
  · simp [kindAt, same, nodeAt_erase_self tree below]
  · simp [kindAt, same, nodeAt_erase_of_ne _ same]

/-- Directories and links stay where they are; files may come, change and go. -/
def KeepsWays (before after : FileTree) : Prop :=
  ∀ place kind, kind ≠ .file → before.kindAt place = some kind → after.kindAt place = some kind

theorem KeepsWays.refl (tree : FileTree) : tree.KeepsWays tree := fun _ _ _ known => known

theorem KeepsWays.trans {first second third : FileTree} (one : first.KeepsWays second)
    (two : second.KeepsWays third) : first.KeepsWays third :=
  fun place kind solid known => two place kind solid (one place kind solid known)

theorem keepsWays_insert (tree : FileTree) (place : Place) (node : Node)
    (fits : ∀ kind, kind ≠ .file → tree.kindAt place = some kind → node.kind = kind) :
    tree.KeepsWays (tree.insert place node) := by
  intro other kind solid known
  rw [kindAt_insert]
  split
  next same =>
    subst same
    rw [fits kind solid known]
  next => exact known

def Reaches (directory : Place) (answer : Except Fault Spot) : Prop :=
  ∃ node, answer = .ok (.taken directory node) ∧ node.kind = .directory

theorem not_reaches_error (directory : Place) (fault : Fault) : ¬ Reaches directory (.error fault) := by
  rintro ⟨node, same, _⟩
  cases same

def Passes (tree : FileTree) (place : Place) (name : String) (onward : Place → Prop)
    (through : String → Prop) : Prop :=
  if name = "." then onward place
  else if name = ".." then onward place.dropLast
  else
    byteLength name ≤ nameLimit ∧
      (tree.kindAt (place ++ [name]) = some .directory ∧ onward (place ++ [name]) ∨
        ∃ target, tree.kindAt (place ++ [name]) = some (.link target) ∧ through target)

theorem Passes.mono {before after : FileTree} (keeps : before.KeepsWays after) {place : Place}
    {name : String} {onward onward' : Place → Prop} {through through' : String → Prop}
    (onwards : ∀ next, onward next → onward' next) (throughs : ∀ target, through target → through' target)
    (passes : before.Passes place name onward through) : after.Passes place name onward' through' := by
  unfold Passes at passes ⊢
  split at passes
  next dot => rw [if_pos dot]; exact onwards _ passes
  next noDot =>
    rw [if_neg noDot]
    split at passes
    next up => rw [if_pos up]; exact onwards _ passes
    next noUp =>
      rw [if_neg noUp]
      obtain ⟨short, ⟨isDirectory, further⟩ | ⟨target, isLink, further⟩⟩ := passes
      · exact ⟨short, .inl ⟨keeps _ _ (by simp) isDirectory, onwards _ further⟩⟩
      · exact ⟨short, .inr ⟨target, keeps _ _ (by simp) isLink, throughs target further⟩⟩

section
variable {atLink atLink' : Place → String → List String → Except Fault Spot} {directory : Place}

/-- A walk that is not over ends well only behind a directory or a link. At the last name the end
itself has to be a directory for that. -/
theorem walkToLink_cons (tree : FileTree) (goal : Except Fault Spot → Prop)
    (noFault : ∀ fault, ¬ goal (.error fault)) (place : Place) (name : String) (rest : List String)
    (last : rest = [] → ∀ spot, goal (.ok spot) → Reaches directory (.ok spot)) :
    goal (tree.walkToLink true atLink place (name :: rest)) ↔
      tree.Passes place name (fun next => goal (tree.walkToLink true atLink next rest))
        (fun target => goal (atLink place target rest)) := by
  unfold Passes
  rw [walkToLink]
  split
  next dot => rfl
  next noDot =>
    split
    next up => rfl
    next noUp =>
      by_cases long : nameLimit < byteLength name
      · simp [if_pos long, noFault, Nat.not_le.mpr long]
      · have short : byteLength name ≤ nameLimit := Nat.not_lt.mp long
        simp only [if_neg long, short, true_and, kindAt]
        cases here : tree.nodeAt (place ++ [name]) with
        | none =>
          have ends : ¬ goal (if rest.isEmpty then .ok (.vacant place name) else .error .notFound) := by
            split
            next ended =>
              intro reached
              obtain ⟨node, same, _⟩ := last (List.isEmpty_iff.mp ended) _ reached
              cases same
            next => exact noFault _
          simpa using ends
        | some node =>
          cases node with
          | file content mode accessed =>
            have ends : ¬ goal (if rest.isEmpty then
                .ok (.taken (place ++ [name]) (.file content mode accessed)) else .error .notDirectory) := by
              split
              next ended =>
                intro reached
                obtain ⟨node, same, isDirectory⟩ := last (List.isEmpty_iff.mp ended) _ reached
                cases same
                cases isDirectory
              next => exact noFault _
            simpa [Node.kind] using ends
          | directory mode accessed => simp [Node.kind]
          | link target => simp [Node.kind]

theorem walkToLink_nil_reaches (tree : FileTree) (place : Place) :
    Reaches directory (tree.walkToLink true atLink place []) ↔
      place = directory ∧ tree.kindAt place = some .directory := by
  cases here : tree.nodeAt place with
  | none => simp [walkToLink, here, kindAt, not_reaches_error]
  | some node =>
    simp only [walkToLink, here, kindAt, Reaches, Option.map_some, Option.some.injEq, Except.ok.injEq]
    grind

theorem walkToLink_cons_reaches (tree : FileTree) (place : Place) (name : String) (rest : List String) :
    Reaches directory (tree.walkToLink true atLink place (name :: rest)) ↔
      tree.Passes place name (fun next => Reaches directory (tree.walkToLink true atLink next rest))
        (fun target => Reaches directory (atLink place target rest)) :=
  walkToLink_cons tree _ (not_reaches_error directory) place name rest (fun _ _ reached => reached)

theorem walkToLink_keepsWays {before after : FileTree} (keeps : before.KeepsWays after)
    (links : ∀ place target rest, Reaches directory (atLink place target rest) →
      Reaches directory (atLink' place target rest))
    (place : Place) (path : List String)
    (reaches : Reaches directory (before.walkToLink true atLink place path)) :
    Reaches directory (after.walkToLink true atLink' place path) := by
  induction path generalizing place with
  | nil =>
    rw [walkToLink_nil_reaches] at reaches ⊢
    exact ⟨reaches.1, keeps _ _ (by simp) reaches.2⟩
  | cons name rest ih =>
    rw [walkToLink_cons_reaches] at reaches ⊢
    exact reaches.mono keeps ih (fun target => links place target rest)

theorem walkToLink_append (tree : FileTree) (goal : Except Fault Spot → Prop)
    (noFault : ∀ fault, ¬ goal (.error fault)) {more : List String} (further : more ≠ [])
    (links : ∀ place target rest, Reaches directory (atLink place target rest) →
      goal (atLink place target (rest ++ more)))
    (onward : goal (tree.walkToLink true atLink directory more))
    (place : Place) (path : List String)
    (reaches : Reaches directory (tree.walkToLink true atLink place path)) :
    goal (tree.walkToLink true atLink place (path ++ more)) := by
  induction path generalizing place with
  | nil =>
    rw [walkToLink_nil_reaches] at reaches
    rw [reaches.1]
    exact onward
  | cons name rest ih =>
    rw [walkToLink_cons_reaches] at reaches
    have more_follows : rest ++ more = [] → ∀ spot, goal (.ok spot) → Reaches directory (.ok spot) :=
      fun ended => absurd (List.append_eq_nil_iff.mp ended).2 further
    rw [List.cons_append, walkToLink_cons tree goal noFault place name (rest ++ more) more_follows]
    exact reaches.mono (KeepsWays.refl tree) ih (fun target => links place target rest)

end

theorem walk_keepsWays {before after : FileTree} (keeps : before.KeepsWays after) {directory : Place}
    (links : Nat) (place : Place) (path : List String)
    (reaches : Reaches directory (before.walk true links place path)) :
    Reaches directory (after.walk true links place path) := by
  induction links generalizing place path with
  | zero => exact walkToLink_keepsWays keeps (fun _ _ _ reached => reached) place path reaches
  | succ links ih =>
    refine walkToLink_keepsWays keeps ?_ place path reaches
    intro place target rest reached
    split at reached
    next nowhere => exact absurd reached (not_reaches_error _ _)
    next somewhere => rw [if_neg somewhere]; exact ih _ _ reached

/-- A name that an entry can have. -/
def Proper (name : String) : Prop := name ≠ "." ∧ name ≠ ".." ∧ byteLength name ≤ nameLimit

theorem walk_append_file (tree : FileTree) {directory : Place} {name : String} {file : Node}
    (there : tree.nodeAt (directory ++ [name]) = some file) (isFile : file.kind = .file)
    (proper : Proper name)
    (links : Nat) (place : Place) (path : List String)
    (reaches : Reaches directory (tree.walk true links place path)) :
    tree.walk true links place (path ++ [name]) = .ok (.taken (directory ++ [name]) file) := by
  have onward (atLink : Place → String → List String → Except Fault Spot) :
      tree.walkToLink true atLink directory [name] = .ok (.taken (directory ++ [name]) file) := by
    cases file with
    | file content mode accessed =>
      simp [walkToLink, proper.1, proper.2.1, Nat.not_lt.mpr proper.2.2, there]
    | directory mode accessed => cases isFile
    | link target => cases isFile
  let goal (answer : Except Fault Spot) : Prop := answer = .ok (.taken (directory ++ [name]) file)
  have noFault : ∀ fault, ¬ goal (.error fault) := by
    intro fault same
    cases same
  induction links generalizing place path with
  | zero =>
    exact walkToLink_append tree goal noFault (by simp)
      (fun _ _ _ reached => absurd reached (not_reaches_error _ _)) (onward _) place path reaches
  | succ links ih =>
    refine walkToLink_append tree goal noFault (by simp) ?_ (onward _) place path reaches
    intro place target rest reached
    split at reached
    next nowhere => exact absurd reached (not_reaches_error _ _)
    next somewhere =>
      rw [if_neg somewhere, ← List.append_assoc]
      exact ih _ _ reached

def placeOf? (tree : FileTree) (workDir : Place) (path : String) : Option Place :=
  match tree.findParent workDir path with
  | .ok (directory, some name, false) => some (directory ++ [name])
  | _ => none

/-- When the directory of a path is found, with the last name and whether a slash follows it. -/
theorem findParent_eq_ok (tree : FileTree) (workDir : Place) (path : String) (directory : Place)
    (name : String) (slash : Bool) :
    tree.findParent workDir path = .ok (directory, some name, slash) ↔
      let names := if Path.endsWithSlash path then (Path.names path).dropLast else Path.names path
      pathFault? path = none ∧ Path.endsWithSlash path = slash ∧ names.getLast? = some name ∧
        Proper name ∧ Reaches directory (tree.walk true linkLimit (start workDir path) names.dropLast) := by
  unfold findParent Proper
  cases fault : pathFault? path with
  | some fault => simp
  | none =>
    simp only [true_and]
    generalize (if Path.endsWithSlash path then (Path.names path).dropLast else Path.names path) = names
    cases known : names.getLast? with
    | none => simp
    | some last =>
      simp only [Option.some.injEq]
      generalize tree.walk true linkLimit (start workDir path) names.dropLast = answer
      rcases answer with fault | ⟨place, node⟩ | ⟨place, free⟩
      · simp [not_reaches_error]
      · by_cases isDirectory : node.isDirectory = true
        · have kind : node.kind = .directory := (Node.isDirectory_iff node).mp isDirectory
          by_cases dots : last = "." ∨ last = ".."
          · simp [isDirectory, dots]
            grind
          · by_cases long : nameLimit < byteLength last
            · simp [isDirectory, dots, long]
              grind
            · simp [isDirectory, dots, long, Reaches]
              grind
        · have kind : node.kind ≠ .directory := fun same => isDirectory ((Node.isDirectory_iff node).mpr same)
          simp [isDirectory, Reaches]
          grind
      · simp [Reaches]

theorem placeOf?_eq_some (tree : FileTree) (workDir : Place) (path : String) (place : Place) :
    tree.placeOf? workDir path = some place ↔
      ∃ directory name, place = directory ++ [name] ∧ pathFault? path = none ∧
        Path.endsWithSlash path = false ∧ (Path.names path).getLast? = some name ∧ Proper name ∧
          Reaches directory (tree.walk true linkLimit (start workDir path) (Path.names path).dropLast) := by
  have split : tree.placeOf? workDir path = some place ↔
      ∃ directory name, tree.findParent workDir path = .ok (directory, some name, false) ∧
        place = directory ++ [name] := by
    unfold placeOf?
    split
    next directory name found => grind
    next other =>
      constructor
      · intro absurd_
        cases absurd_
      · rintro ⟨directory, name, found, _⟩
        exact absurd found (other directory name)
  rw [split]
  constructor
  · rintro ⟨directory, name, found, rfl⟩
    rw [findParent_eq_ok] at found
    obtain ⟨noFault, noSlash, last, proper, reaches⟩ := found
    rw [noSlash] at last reaches
    exact ⟨directory, name, rfl, noFault, noSlash, last, proper, reaches⟩
  · rintro ⟨directory, name, rfl, noFault, noSlash, last, proper, reaches⟩
    refine ⟨directory, name, ?_, rfl⟩
    rw [findParent_eq_ok]
    rw [noSlash]
    exact ⟨noFault, rfl, last, proper, reaches⟩

theorem placeOf?_ne_nil {tree : FileTree} {workDir : Place} {path : String} {place : Place}
    (leads : tree.placeOf? workDir path = some place) : place ≠ [] := by
  obtain ⟨directory, name, rfl, _⟩ := (placeOf?_eq_some _ _ _ _).mp leads
  simp

/-- A path stands for the same place as long as directories and links stay. -/
theorem placeOf?_keepsWays {before after : FileTree} (keeps : before.KeepsWays after) {workDir : Place}
    {path : String} {place : Place} (leads : before.placeOf? workDir path = some place) :
    after.placeOf? workDir path = some place := by
  rw [placeOf?_eq_some] at leads ⊢
  obtain ⟨directory, name, same, noFault, noSlash, last, proper, reaches⟩ := leads
  exact ⟨directory, name, same, noFault, noSlash, last, proper, walk_keepsWays keeps _ _ _ reaches⟩

theorem find_of_placeOf? {tree : FileTree} {workDir : Place} {path : String} {place : Place}
    (leads : tree.placeOf? workDir path = some place) {file : Node}
    (there : tree.nodeAt place = some file) (isFile : file.kind = .file) :
    tree.find workDir true path = .ok (.taken place file) := by
  obtain ⟨directory, name, rfl, noFault, noSlash, last, proper, reaches⟩ := (placeOf?_eq_some _ _ _ _).mp leads
  obtain ⟨front, names⟩ := List.getLast?_eq_some_iff.mp last
  rw [names, List.dropLast_concat] at reaches
  unfold find
  rw [noFault, names]
  exact walk_append_file tree there isFile proper _ _ _ reaches

/-- What a walk says of the spot at its end. -/
def Fits (tree : FileTree) : Spot → Prop
  | .taken place node => tree.nodeAt place = some node
  | .vacant directory name => tree.nodeAt (directory ++ [name]) = none

theorem walkToLink_fits (tree : FileTree) {follow : Bool} {atLink : Place → String → List String → Except Fault Spot}
    (links : ∀ place target rest spot, atLink place target rest = .ok spot → tree.Fits spot) (place : Place)
    (path : List String) {spot : Spot}
    (ends : tree.walkToLink follow atLink place path = .ok spot) : tree.Fits spot := by
  induction path generalizing place with
  | nil =>
    unfold walkToLink at ends
    split at ends
    next node here => cases ends; exact here
    next => cases ends
  | cons name rest ih =>
    unfold walkToLink at ends
    split at ends
    next => exact ih _ ends
    next =>
      split at ends
      next => exact ih _ ends
      next =>
        split at ends
        next => cases ends
        next =>
          simp only at ends
          split at ends
          next free =>
            split at ends
            next => cases ends; exact free
            next => cases ends
          next here =>
            split at ends
            next => cases ends; exact here
            next => cases ends
          next => exact ih _ ends
          next here =>
            split at ends
            next => cases ends; exact here
            next => exact links _ _ _ _ ends

theorem walk_fits (tree : FileTree) {follow : Bool} (links : Nat) (place : Place) (path : List String) {spot : Spot}
    (ends : tree.walk follow links place path = .ok spot) : tree.Fits spot := by
  induction links generalizing place path spot with
  | zero => exact tree.walkToLink_fits (fun _ _ _ _ ends => by cases ends) place path ends
  | succ links ih =>
    refine tree.walkToLink_fits (fun place target rest spot ends => ?_) place path ends
    split at ends
    next => cases ends
    next => exact ih _ _ ends

theorem find_fits (tree : FileTree) {workDir : Place} {follow : Bool} {path : String} {spot : Spot}
    (ends : tree.find workDir follow path = .ok spot) : tree.Fits spot := by
  unfold find at ends
  split at ends
  next => cases ends
  next => exact tree.walk_fits _ _ _ ends

end FileTree
end Mooring.Host
