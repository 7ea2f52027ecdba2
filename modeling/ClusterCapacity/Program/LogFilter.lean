import ClusterCapacity.Event
import ClusterCapacity.Text.Blank

/-!
# Log filters

A log filter says how much is logged about each part of the program.  It is written as directives
between commas, such as `warn,capacity_report=debug`: of those that name a beginning of a part's
name the longest one counts.
-/

namespace ClusterCapacity

/-- How much is logged. -/
inductive Detail where
  | nothing | errors | warnings | information | debugging | everything
deriving DecidableEq, Repr

namespace Detail

/-- The details in ascending order. -/
def rank : Detail → Nat
  | nothing => 0
  | errors => 1
  | warnings => 2
  | information => 3
  | debugging => 4
  | everything => 5

/-- The detail of a name or number. -/
def ofName? (name : String) : Option Detail :=
  let lower := String.ofList (name.toList.map Char.toLower)
  [("off", nothing), ("error", errors), ("warn", warnings), ("info", information),
    ("debug", debugging), ("trace", everything), ("0", nothing), ("1", errors), ("2", warnings),
    ("3", information), ("4", debugging), ("5", everything)].lookup lower

/-- Whether an event of a level is logged. -/
def shows (detail : Detail) : Level → Bool
  | .warn => warnings.rank ≤ detail.rank
  | .info => information.rank ≤ detail.rank
  | .debug => debugging.rank ≤ detail.rank

end Detail

namespace LogFilter

/-- How much is logged about the parts whose names begin in some way.  A directive about single
pieces of work has no effect. -/
structure Directive where
  part : List Char := []
  detail : Detail := .everything
  isAboutWork : Bool := false
deriving DecidableEq, Repr

/-- Whether a directive can begin with a character. -/
def isStart (c : Char) : Bool := c.isAlphanum || c = '-' || c = ':' || c = '_' || c = '['

/-- The detail after an equals sign, if there is one. -/
def detailAfter? : List Char → Option Detail
  | [] => some .everything
  | ['='] => some .everything
  | '=' :: name => Detail.ofName? (String.ofList name)
  | _ => none

/-- Reads a directive: a detail, or the beginning of a part's name, perhaps with a detail. -/
def Directive.ofText? (text : List Char) : Option Directive :=
  if !(text.head?.any isStart) then none
  else
    match Detail.ofName? (String.ofList text) with
    | some detail => some { detail }
    | none =>
      let part := text.takeWhile (fun c => c ≠ '=' && c ≠ '[')
      match text.dropWhile (fun c => c ≠ '=' && c ≠ '[') with
      | '[' :: rest =>
        match rest.dropWhile (· ≠ ']') with
        | [] => none
        | _ :: after =>
          (detailAfter? after).map (fun detail => { part, detail, isAboutWork := true })
      | rest => (detailAfter? rest).map (fun detail => { part, detail })

end LogFilter

/-- Directives about logging. -/
structure LogFilter where
  directives : List LogFilter.Directive
deriving DecidableEq, Repr

namespace LogFilter

/-- Reads a filter; without directives only errors are logged. -/
def ofText? (text : String) : Option LogFilter := do
  let pieces := (text.toList.splitOn ',').filter (fun piece => !piece.isEmpty)
  let directives ← pieces.mapM (fun piece => Directive.ofText? (Text.trim piece))
  return ⟨if directives.isEmpty then [{ detail := .errors }] else directives⟩

/-- The filter that is used when none is given. -/
def standard (verbose : Bool) : LogFilter :=
  let detail : Detail := if verbose then .debugging else .information
  ⟨[{ part := "capacity_report".toList, detail },
    { part := "capacity_report_core".toList, detail }]⟩

/-- The filter of a run: the one that is given, if it can be read. -/
def choose (given : Option String) (verbose : Bool) : LogFilter :=
  (given.bind ofText?).getD (standard verbose)

/-- The detail that is logged about a part: that of the longest directive about it, the last one of
equals. -/
def detail (filter : LogFilter) (part : String) : Detail :=
  let better (best : Option Directive) (directive : Directive) : Option Directive :=
    if directive.isAboutWork || !directive.part.isPrefixOf part.toList then best
    else
      match best with
      | none => some directive
      | some other => if directive.part.length < other.part.length then best else some directive
  ((filter.directives.foldl better none).map Directive.detail).getD .nothing

end LogFilter

end ClusterCapacity
