import ClusterCapacity.Decimal.Floating
import ClusterCapacity.Json.Fault
import ClusterCapacity.Text.Quoted
import ClusterCapacity.Yaml.Fault

/-!
# Why a document could not be decoded

A document fails to decode when its text breaks the rules of its format, or when it holds another
kind of value than the one asked for.
-/

namespace ClusterCapacity.Wire

open Decimal

/-- The kind of value that was found. -/
inductive Found where
  | null
  | bool (value : Bool)
  | integer (value : Int)
  | floating (value : Floating)
  | string (text : String)
  | sequence
  | map
deriving DecidableEq, Repr

/-- Floating point numbers are positional from five places after the point up to sixteen places
before it. -/
def floatingFormat : FloatFormat := ⟨-5, 15, true⟩

/-- How a found value is named. -/
def Found.describe : Found → String
  | null => "null"
  | bool value => "boolean `" ++ (if value then "true" else "false") ++ "`"
  | integer value => "integer `" ++ toString value ++ "`"
  | floating value => "floating point `" ++ value.text floatingFormat ++ "`"
  | string text => "string " ++ Text.quoted text
  | sequence => "sequence"
  | map => "map"

/-- Why a document could not be decoded. -/
inductive DecodeError where
  | json (fault : Json.Fault)
  | yaml (fault : Yaml.Fault)
  | unexpected (found : Found) (expected : String)
  | outOfRange (found : Found) (expected : String)
  | tooShort (length : Nat) (expected : String)
  | missingField (name : String)
  | duplicateField (name : String)
  | unknownChoice (name : String) (choices : List String)
deriving DecidableEq, Repr

namespace DecodeError

/-- A name in backquotes. -/
def ticked (name : String) : String := "`" ++ name ++ "`"

/-- What the user is told. -/
def message : DecodeError → String
  | json fault => fault.message
  | yaml fault => fault.message
  | unexpected found expected => "invalid type: " ++ found.describe ++ ", expected " ++ expected
  | outOfRange found expected => "invalid value: " ++ found.describe ++ ", expected " ++ expected
  | tooShort length expected => "invalid length " ++ toString length ++ ", expected " ++ expected
  | missingField name => "missing field " ++ ticked name
  | duplicateField name => "duplicate field " ++ ticked name
  | unknownChoice name choices =>
    "unknown variant " ++ ticked name ++ ", expected one of "
      ++ ", ".intercalate (choices.map ticked)

end DecodeError

end ClusterCapacity.Wire
