import ClusterCapacity.Proofs.CommandLine.Variables
import ClusterCapacity.Proofs.Results
import Mathlib.Tactic.SplitIfs

/-!
# The flag for verbosity

The flag for verbosity can be put in front of any command line that is read without it, and the
arguments are the same otherwise (`read_verbose_cons`).  It is settled before every other flag then,
so that each word that follows is taken as before (`Progress.lifts_takeWord`): no word looks at what
is settled except for one that settles the same flag again, and the texts of faults.
-/

namespace ClusterCapacity.CommandLine

namespace Progress

/-- Whether the flag for verbosity is not settled. -/
def Quiet (progress : Progress) : Prop := progress.settled.lookup .verbose = none

/-- The progress of a command line that the flag for verbosity stands in front of. -/
def verbosely (progress : Progress) : Progress :=
  { progress with settled := progress.settled ++ [(.verbose, "")] }

/-- Whether a step that goes on quietly does the same after the flag for verbosity. -/
def Lifts (step : Progress → Except Stop Progress) : Prop :=
  ∀ progress next, step progress = .ok next → next.Quiet →
    progress.Quiet ∧ step progress.verbosely = .ok next.verbosely

variable {step next : Progress → Except Stop Progress}

theorem lifts_bind (hstep : Lifts step) (hnext : Lifts next) :
    Lifts (fun progress => step progress >>= next) := by
  intro progress last h hquiet
  obtain ⟨middle, hmiddle, hlast⟩ := bind_eq_ok.mp h
  obtain ⟨hquiet, hverbosely⟩ := hnext middle last hlast hquiet
  obtain ⟨hquiet, hfirst⟩ := hstep progress middle hmiddle hquiet
  refine ⟨hquiet, ?_⟩
  dsimp only
  rw [hfirst]
  exact hverbosely

/-- A step that fails in any case goes on in none. -/
theorem lifts_error (stop : Progress → Stop) : Lifts (fun progress => .error (stop progress)) :=
  fun _ _ h => absurd h nofun

/-- A step that goes on in any case, without looking at the flag for verbosity. -/
theorem lifts_ok {change : Progress → Progress}
    (hchange : ∀ progress, (change progress).Quiet →
      progress.Quiet ∧ change progress.verbosely = (change progress).verbosely) :
    Lifts (fun progress => .ok (change progress)) := by
  intro progress next h hquiet
  obtain rfl := Except.ok.inj h
  obtain ⟨hprogress, hverbosely⟩ := hchange progress hquiet
  exact ⟨hprogress, congrArg Except.ok hverbosely⟩

theorem lookup_verbosely {flag : Flag} (h : flag ≠ .verbose) (progress : Progress) :
    progress.verbosely.settled.lookup flag = progress.settled.lookup flag := by
  rw [verbosely, List.lookup_append, lookup_cons_of_ne h]
  exact Option.or_none

theorem lifts_put (flag : Flag) (value : String) :
    Lifts (fun progress => progress.put flag value) := by
  intro progress next h hquiet
  dsimp only at h ⊢
  rw [put] at h ⊢
  split_ifs at h with hsettled hempty
  obtain rfl := Except.ok.inj h
  have hne : flag ≠ .verbose := by
    rintro rfl
    simp [Quiet] at hquiet
  have hprogress : progress.Quiet := by
    rwa [Quiet, lookup_cons_of_ne hne.symm] at hquiet
  rw [lookup_verbosely hne, if_neg hsettled, if_neg hempty]
  exact ⟨hprogress, rfl⟩

theorem lifts_settle : Lifts settle := by
  rintro ⟨settled, pending, closed⟩ next h hquiet
  cases pending with
  | none =>
    obtain rfl := Except.ok.inj h
    exact ⟨hquiet, rfl⟩
  | awaiting flag => exact absurd h nofun
  | holding flag value => exact lifts_put flag value ⟨settled, .none, closed⟩ next h hquiet

theorem lifts_take (flag : Flag) (value : String) :
    Lifts (fun progress => progress.take flag value) := by
  apply lifts_bind lifts_settle
  cases flag
  case help => exact lifts_error fun _ => .help
  case version => exact lifts_error fun _ => .version
  all_goals exact lifts_put _ value

theorem lifts_takeLong (name : List Char) (value : Option String) :
    Lifts (fun progress => progress.takeLong name value) := by
  unfold takeLong
  cases Flag.ofName? (String.ofList name) with
  | none => exact lifts_error _
  | some flag =>
    cases value with
    | none =>
      dsimp only
      split_ifs
      · exact lifts_bind lifts_settle (lifts_ok fun _ hquiet => ⟨hquiet, rfl⟩)
      · exact lifts_take flag ""
    | some value =>
      dsimp only
      split_ifs
      · exact lifts_take flag value
      · exact lifts_error _

theorem lifts_takeLetters (letters : List Char) :
    Lifts (fun progress => progress.takeLetters letters) := by
  induction letters with
  | nil => exact lifts_ok fun _ hquiet => ⟨hquiet, rfl⟩
  | cons letter rest ih =>
    unfold takeLetters
    cases Flag.ofLetter? letter with
    | none => exact lifts_error _
    | some flag => exact lifts_bind (lifts_take flag "") ih

theorem lifts_takePlain (word : String) : Lifts (fun progress => progress.takePlain word) := by
  rintro ⟨settled, pending, closed⟩ next h hquiet
  cases pending with
  | awaiting flag =>
    obtain rfl := Except.ok.inj h
    exact ⟨hquiet, rfl⟩
  | none => exact absurd h nofun
  | holding flag value => exact absurd h nofun

/-- Every word is taken as before if the flag for verbosity stands in front. -/
theorem lifts_takeWord (word : String) : Lifts (fun progress => progress.takeWord word) := by
  rintro ⟨settled, pending, closed⟩ next h hquiet
  cases closed with
  | true => exact absurd h nofun
  | false =>
    revert h
    simp only [takeWord, verbosely, Bool.false_eq_true, ↓reduceIte]
    split <;> intro h
    · obtain rfl := Except.ok.inj h
      exact ⟨hquiet, rfl⟩
    · exact lifts_takeLong _ _ _ next h hquiet
    · exact lifts_takeLetters _ _ next h hquiet
    · exact lifts_takePlain _ _ next h hquiet

/-- So is a whole command line. -/
theorem lifts_foldlM (words : List String) :
    Lifts (fun progress => words.foldlM takeWord progress) := by
  induction words with
  | nil => exact lifts_ok fun _ hquiet => ⟨hquiet, rfl⟩
  | cons word rest ih =>
    simp only [List.foldlM_cons]
    exact lifts_bind (lifts_takeWord word) ih

theorem ofFlags_takeVariables_verbosely (surroundings : Surroundings) (progress : Progress) :
    Arguments.ofFlags (progress.verbosely.takeVariables surroundings)
      = { Arguments.ofFlags (progress.takeVariables surroundings) with verbose := true } := by
  have hverbose : (progress.verbosely.settled.lookup .verbose).isSome = true := by
    rw [verbosely, List.lookup_append]
    cases progress.settled.lookup .verbose <;> rfl
  have hother (flag : Flag) (h : flag ≠ .verbose) :
      (progress.verbosely.takeVariables surroundings).lookup flag
        = (progress.takeVariables surroundings).lookup flag := by
    rw [lookup_takeVariables, lookup_takeVariables, lookup_verbosely h]
  simp only [Arguments.ofFlags, hother _ (by decide : Flag.live ≠ .verbose),
    hother _ (by decide : Flag.lost ≠ .verbose), hother _ (by decide : Flag.workers ≠ .verbose),
    hother _ (by decide : Flag.masterUrl ≠ .verbose),
    hother _ (by decide : Flag.snapshot ≠ .verbose), hother _ (by decide : Flag.timeout ≠ .verbose),
    hother _ (by decide : Flag.outputFile ≠ .verbose), lookup_takeVariables, Option.isSome_or,
    hverbose, Bool.true_or]

end Progress

/-- The flag for verbosity in front of a command line changes nothing else. -/
theorem read_verbose_cons {surroundings : Surroundings} {words : List String}
    {arguments : Arguments} (h : read surroundings words = .ok arguments)
    (hverbose : arguments.verbose = false) {word : String} (hword : word ∈ ["-v", "--verbose"]) :
    read surroundings (word :: words) = .ok { arguments with verbose := true } := by
  obtain ⟨progress, hprogress, h⟩ := bind_eq_ok.mp h
  obtain ⟨settled, hsettled, h⟩ := bind_eq_ok.mp h
  obtain rfl := Except.ok.inj h
  have hquiet : settled.Quiet := by
    have hlookup : ((settled.takeVariables surroundings).lookup .verbose).isSome = false := hverbose
    rw [Progress.lookup_takeVariables, Option.isSome_or, Bool.or_eq_false_iff] at hlookup
    exact Option.isNone_iff_eq_none.mp (Option.isSome_eq_false_iff.mp hlookup.1)
  obtain ⟨hquiet, hsettle⟩ := Progress.lifts_settle progress settled hsettled hquiet
  obtain ⟨-, hfold⟩ := Progress.lifts_foldlM words {} progress hprogress hquiet
  have hfirst : Progress.takeWord {} word = .ok (Progress.verbosely {}) := by
    obtain rfl | rfl := by simpa using hword
    · rfl
    · rfl
  -- the word settles its flag, then the other words follow
  refine bind_eq_ok.mpr ⟨progress.verbosely, ?_, bind_eq_ok.mpr ⟨settled.verbosely, hsettle, ?_⟩⟩
  · rw [List.foldlM_cons, hfirst]
    exact hfold
  · exact congrArg Except.ok (settled.ofFlags_takeVariables_verbosely surroundings)

end ClusterCapacity.CommandLine
