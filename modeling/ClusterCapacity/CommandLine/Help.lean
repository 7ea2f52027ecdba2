import ClusterCapacity.CommandLine.Flag
import ClusterCapacity.Text.Layout

/-!
# Help texts

What the program tells about itself: how it is called, its flags and its version.
-/

namespace ClusterCapacity.CommandLine

/-- What the texts show of the surroundings. -/
structure Surroundings where
  /-- The values of environment variables by name. -/
  environment : List (String × String) := []
  /-- Where the settings file is looked for. -/
  settingsDirectory : String := ""
deriving Repr

/-- The value of an environment variable. -/
def Surroundings.valueOf? (surroundings : Surroundings) (name : String) : Option String :=
  surroundings.environment.lookup name

/-! ### Usage -/

/-- The flags about the report as one choice. -/
def argumentChoice : String :=
  "<" ++ "|".intercalate ((Flag.every.filter Flag.isArgument).map Flag.shown) ++ ">"

/-- How the program is called. -/
def usage : String := "Usage: " ++ programName ++ " [OPTIONS]"

/-- How the program is called in view of what was given: whether any flag about the report was
begun, and the flag that is spoken of. -/
def usageWith (begun : Bool) (spoken : Option Flag) : String :=
  let extra := match spoken with
    | some flag => if begun && flag.isArgument then [] else [flag.shown]
    | none => []
  let choice := if begun then [argumentChoice] else []
  match extra ++ choice with
  | [] => usage
  | parts => "Usage: " ++ " ".intercalate (programName :: parts)

/-! ### Help and version -/

/-- The width of the longest flag. -/
def flagWidth : Nat := (Flag.every.map (fun flag => flag.shown.length)).foldl max 0

/-- The description of a flag, with the environment variable that can give its value. -/
def descriptionOf (surroundings : Surroundings) (flag : Flag) : String :=
  match flag.variableName? with
  | some name =>
    flag.description ++ " [env: " ++ name ++ "=" ++ (surroundings.valueOf? name).getD "" ++ "]"
  | none => flag.description

/-- The line of a flag in the help. -/
def helpLine (surroundings : Surroundings) (flag : Flag) : String :=
  let letter := match flag.letter? with
    | some letter => "-" ++ letter.toString ++ ", "
    | none => Text.spaces 4
  Text.spaces 2 ++ letter ++ Text.padRight (flagWidth + 2) flag.shown
    ++ descriptionOf surroundings flag

/-- The whole help. -/
def helpText (surroundings : Surroundings) : String :=
  "Cluster-wide storage capacity report for tiered storage workers.\n\n" ++ usage
    ++ "\n\nOptions:\n"
    ++ String.join (Flag.every.map (fun flag => helpLine surroundings flag ++ "\n"))

/-- The version of the program. -/
def versionNumber : String := "0.3.2"

/-- Who made the program. -/
def authors : String := "hyper.video <info@hyper.video>"

/-- The version, the authors and the place of the settings file. -/
def versionText (surroundings : Surroundings) : String :=
  programName ++ " " ++ versionNumber ++ "\n\nAuthors: " ++ authors ++ "\n\nConfig directory: "
    ++ surroundings.settingsDirectory ++ "\n"

end ClusterCapacity.CommandLine
