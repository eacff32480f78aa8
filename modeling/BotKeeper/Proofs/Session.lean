import BotKeeper.Proofs.Rendering

/-! What a launch script comes to. An interpreter goes through the lines one by one. A line
assigns a variable, changes the directory or hands over to a program, and then the script is
over. The paths of a bot are variables of the script beside those of the config, so what each
of them is in the end depends on all that were assigned. -/

namespace BotKeeper.Proofs
open Script

structure Session where
  value? : String → Option String
  /-- The variables that are passed on to programs. -/
  passesOn : String → Bool
  directory : String

/-- What a script has handed over to, and with what. -/
structure Started where
  directory : String
  program : String
  arguments : List String
  value? : String → Option String

inductive Reading where
  | goesOn (session : Session)
  | starts (started : Started)

namespace Session

def assign (session : Session) (name value : String) : Session :=
  { session with value? := fun other => if other = name then some value else session.value? other }

def passOn (session : Session) (name : String) : Session :=
  { session with passesOn := fun other => other == name || session.passesOn other }

def change (session : Session) (directory : String) : Session :=
  { session with directory }

/-- The value of a variable in a word. One that was never assigned stands for nothing. -/
def expansion (session : Session) (name : String) : List Char :=
  ((session.value? name).getD "").toList

def assignAll (session : Session) (pairs : List (String × String)) : Session :=
  pairs.foldl (fun session pair => session.assign pair.1 pair.2) session

end Session

/-- The program that lines end up with, if all lines before it can be read. -/
def launch? (read : Session → List Char → Option Reading) :
    Session → List (List Char) → Option Started
  | _, [] => none
  | session, line :: rest =>
    match read session line with
    | some (.goesOn next) => launch? read next rest
    | some (.starts started) => some started
    | none => none

section launch

variable {read : Session → List Char → Option Reading} {session next : Session}
  {line : List Char} (rest : List (List Char))

theorem launch?_goesOn (reads : read session line = some (.goesOn next)) :
    launch? read session (line :: rest) = launch? read next rest := by
  simp only [launch?, reads]

theorem launch?_starts {started : Started} (reads : read session line = some (.starts started)) :
    launch? read session (line :: rest) = some started := by
  simp only [launch?, reads]

/-- A line for each entry, which does to the session what the entry says. -/
theorem launch?_entries {entries : List (String × String)} {written : String × String → List Char}
    {effect : Session → String × String → Session}
    (reads : ∀ entry ∈ entries, ∀ session,
      read session (written entry) = some (.goesOn (effect session entry))) (session : Session) :
    launch? read session (entries.map written ++ rest) =
      launch? read (entries.foldl effect session) rest := by
  induction entries generalizing session with
  | nil => rfl
  | cons entry entries ih =>
    rw [List.map_cons, List.cons_append, launch?_goesOn _ (reads entry (by simp) session),
      ih (fun other member => reads other (List.mem_cons_of_mem _ member)), List.foldl_cons]

end launch

/-- A bot was launched as its config says, with the variables that the keeper would give it. -/
structure AsConfigured (started : Started) (config : InstanceConfig) : Prop where
  directory : started.directory = config.workingDir
  program : started.program = config.executable
  arguments : started.arguments = config.launchArgs
  environment : ∀ entry ∈ config.launchEnv.entries, started.value? entry.1 = some entry.2

def assignments (config : InstanceConfig) : List (String × String) :=
  ("BOT_EXECUTABLE", config.executable) :: ("BOT_WORKDIR", config.workingDir) ::
    config.launchEnv.entries

/-- No variable is assigned two values. Names are the same where the interpreter folds them into one. -/
def Undisturbed (fold : String → String) (config : InstanceConfig) : Prop :=
  ∀ first ∈ assignments config, ∀ second ∈ assignments config,
    fold first.1 = fold second.1 → first.2 = second.2

section assigned

variable (session : Session) {pairs : List (String × String)}

private theorem assignAll_other {name : String} (absent : ∀ pair ∈ pairs, pair.1 ≠ name) :
    (session.assignAll pairs).value? name = session.value? name := by
  induction pairs generalizing session with
  | nil => rfl
  | cons pair rest ih =>
    refine (ih _ fun other member => absent other (List.mem_cons_of_mem _ member)).trans ?_
    exact if_neg (absent pair (by simp)).symm

/-- A variable that was assigned has a value that it was assigned. -/
theorem assignAll_assigned {name : String} (present : ∃ pair ∈ pairs, pair.1 = name) :
    ∃ pair ∈ pairs, pair.1 = name ∧ (session.assignAll pairs).value? name = some pair.2 := by
  induction pairs generalizing session with
  | nil => obtain ⟨_, impossible, _⟩ := present; cases impossible
  | cons pair rest ih =>
    by_cases again : ∃ later ∈ rest, later.1 = name
    · obtain ⟨last, member, same, value⟩ := ih (session.assign pair.1 pair.2) again
      exact ⟨last, List.mem_cons_of_mem _ member, same, value⟩
    · obtain ⟨found, member, same⟩ := present
      have last : found = pair := by
        rcases List.mem_cons.mp member with here | later
        · exact here
        · exact absurd ⟨found, later, same⟩ again
      subst found
      refine ⟨pair, by simp, same, ?_⟩
      refine (assignAll_other _ fun other inside equal => again ⟨other, inside, equal⟩).trans ?_
      exact if_pos same.symm

/-- All variables have the values that they were assigned exactly if none was assigned two. -/
theorem assignAll_all_iff :
    (∀ pair ∈ pairs, (session.assignAll pairs).value? pair.1 = some pair.2) ↔
      ∀ first ∈ pairs, ∀ second ∈ pairs, first.1 = second.1 → first.2 = second.2 := by
  constructor
  · intro all first member second other same
    have one := all first member
    rw [same] at one
    exact Option.some.inj (one.symm.trans (all second other))
  · intro alone pair member
    obtain ⟨last, there, same, value⟩ := assignAll_assigned session ⟨pair, member, rfl⟩
    rw [value, alone last there pair member same]

end assigned

variable (fold : String → String) (session : Session) (config : InstanceConfig)

def prepared : Session :=
  session.assignAll ((assignments config).map fun pair => (fold pair.1, pair.2))

theorem prepared_all_iff :
    (∀ pair ∈ assignments config, (prepared fold session config).value? (fold pair.1) =
      some pair.2) ↔ Undisturbed fold config := by
  have all := @assignAll_all_iff session ((assignments config).map fun pair => (fold pair.1, pair.2))
  simp only [List.forall_mem_map] at all
  exact all

end BotKeeper.Proofs
