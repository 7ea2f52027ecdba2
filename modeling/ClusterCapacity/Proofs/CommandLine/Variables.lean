import ClusterCapacity.CommandLine.Reading
import ClusterCapacity.Proofs.Entries

/-!
# Flags from the environment

An environment variable stands in for a flag that the command line does not give and changes nothing
else, so what a command line means in some surroundings is known from what it means in none
(`read_eq_map`).  In particular the surroundings do not decide whether a command line is accepted.
-/

namespace ClusterCapacity.CommandLine

/-- Surroundings without any environment variable. -/
def Surroundings.bare (surroundings : Surroundings) : Surroundings :=
  { surroundings with environment := [] }

/-- The value of the environment variable that can stand in for a flag. -/
def Surroundings.standIn? (surroundings : Surroundings) (flag : Flag) : Option String :=
  flag.variableName?.bind surroundings.valueOf?

theorem Surroundings.standIn?_bare (surroundings : Surroundings) (flag : Flag) :
    surroundings.bare.standIn? flag = none := by
  cases flag <;> rfl

/-- A list of the flags that have values gives each of them its value. -/
theorem lookup_filterMap_flags (value : Flag → Option String) (flags : List Flag) (flag : Flag) :
    (flags.filterMap (fun flag => (value flag).map (fun value => (flag, value)))).lookup flag
      = if flag ∈ flags then value flag else none := by
  induction flags with
  | nil => rfl
  | cons first rest ih =>
    rw [List.filterMap_cons]
    by_cases h : flag = first
    · subst h
      cases hvalue : value flag with
      | none => simpa [hvalue] using ih
      | some text => simp
    · cases hvalue : value first with
      | none => simpa [h] using ih
      | some text => simpa [h, lookup_cons_of_ne h] using ih

theorem Flag.mem_every (flag : Flag) : flag ∈ Flag.every := by
  cases flag <;> decide

/-- The value on the command line counts, then that of the variable. -/
theorem Progress.lookup_takeVariables (surroundings : Surroundings) (progress : Progress)
    (flag : Flag) : (progress.takeVariables surroundings).lookup flag
      = (progress.settled.lookup flag).or (surroundings.standIn? flag) := by
  rw [takeVariables, List.lookup_append]
  cases hsettled : progress.settled.lookup flag with
  | some value => rfl
  | none =>
    have hmissing : flag ∈ Flag.every.filter
        (fun flag => (progress.settled.lookup flag).isNone) := by
      rw [List.mem_filter, hsettled]
      exact ⟨flag.mem_every, rfl⟩
    exact (lookup_filterMap_flags surroundings.standIn? _ flag).trans (if_pos hmissing)

/-- The arguments in surroundings where a variable may give the master. -/
def withVariables (surroundings : Surroundings) (arguments : Arguments) : Arguments :=
  { arguments with masterUrl := arguments.masterUrl.or (surroundings.standIn? .masterUrl) }

theorem ofFlags_takeVariables (surroundings : Surroundings) (progress : Progress) :
    Arguments.ofFlags (progress.takeVariables surroundings)
      = withVariables surroundings
        (Arguments.ofFlags (progress.takeVariables surroundings.bare)) := by
  simp only [Arguments.ofFlags, withVariables, Progress.lookup_takeVariables,
    Surroundings.standIn?_bare, Option.or_none]
  -- no other flag has a variable
  have hother : ∀ flag, flag ≠ .masterUrl → surroundings.standIn? flag = none := by
    intro flag h
    cases flag <;> first
      | rfl
      | exact absurd rfl h
  simp [hother]

/-- The environment stands in for the master's flag and for nothing else. -/
theorem read_eq_map (surroundings : Surroundings) (words : List String) :
    read surroundings words = (read surroundings.bare words).map (withVariables surroundings) := by
  rw [read, read]
  cases words.foldlM Progress.takeWord {} with
  | error stop => rfl
  | ok progress =>
    show (do return Arguments.ofFlags ((← progress.settle).takeVariables surroundings) :
      Except Stop Arguments) = (do return Arguments.ofFlags ((← progress.settle).takeVariables
        surroundings.bare) : Except Stop Arguments).map (withVariables surroundings)
    cases progress.settle with
    | error stop => rfl
    | ok progress => exact congrArg Except.ok (ofFlags_takeVariables surroundings progress)

end ClusterCapacity.CommandLine
