import ClusterCapacity.Json.Token

/-!
# Skipping a JSON value

A value that nobody asked for is passed over.  Its brackets have to match and its tokens have to be
well formed, but neither the size of its numbers nor the pairing of its surrogates matters.
-/

namespace ClusterCapacity.Json

/-- An open bracket. -/
inductive Bracket where
  | list | object
deriving DecidableEq, Repr

/-- The fault of a text that ends inside the bracket. -/
def Bracket.unclosed : Bracket → Fault
  | list => .endInList
  | object => .endInObject

/-- The fault of a token that does not follow a value inside the bracket. -/
def Bracket.unseparated : Bracket → Fault
  | list => .expectedListCommaOrEnd
  | object => .expectedObjectCommaOrEnd

/-- Whether the token closes the bracket. -/
def Bracket.closes : Bracket → Token → Bool
  | list, .closeList => true
  | object, .closeObject => true
  | _, _ => false

namespace Skip

/-- What may come next inside the innermost open bracket. -/
inductive Expecting where
  | value
  /-- A value or member, or the end of the bracket just opened. -/
  | first
  /-- A comma or the end of the bracket. -/
  | separator
  | name
  | colon
deriving DecidableEq, Repr

/-- The fault of a token by itself, where it stands for a value. -/
def checkScalar : Token → Except Fault Unit
  | .word (.ok _) => .ok ()
  | .word (.error fault) => .error fault
  | .number (.ok _) => .ok ()
  | .number (.error _) => .error .badNumber
  | .string string => string.check
  | _ => .error .expectedValue

/-- Skips values until every bracket of the stack, the innermost first, is closed. -/
def run : Expecting → List Bracket → List Token → Except Fault (List Token)
  | .value, _, [] => .error .endInValue
  | .value, stack, .openList :: rest => run .first (.list :: stack) rest
  | .value, stack, .openObject :: rest => run .first (.object :: stack) rest
  | .value, stack, token :: rest => do
    checkScalar token
    if stack.isEmpty then .ok rest else run .separator stack rest
  | _, [], rest => .ok rest
  | .first, bracket :: _, [] => .error bracket.unclosed
  | .first, bracket :: stack, token :: rest =>
    if bracket.closes token then
      if stack.isEmpty then .ok rest else run .separator stack rest
    else
      match bracket, token with
      | .object, .string string => do
        string.check
        run .colon (bracket :: stack) rest
      | .object, _ => .error .keyNotString
      | .list, .openList => run .first (.list :: bracket :: stack) rest
      | .list, .openObject => run .first (.object :: bracket :: stack) rest
      | .list, token => do
        checkScalar token
        run .separator (bracket :: stack) rest
  | .separator, bracket :: _, [] => .error bracket.unclosed
  | .separator, bracket :: stack, token :: rest =>
    if bracket.closes token then
      if stack.isEmpty then .ok rest else run .separator stack rest
    else
      match bracket, token with
      | .list, .comma => run .value (bracket :: stack) rest
      | .object, .comma => run .name (bracket :: stack) rest
      | bracket, _ => .error bracket.unseparated
  | .name, _ :: _, [] => .error .endInObject
  | .name, stack, .string string :: rest => do
    string.check
    run .colon stack rest
  | .name, _, _ :: _ => .error .keyNotString
  | .colon, _, [] => .error .endInObject
  | .colon, stack, .colon :: rest => run .value stack rest
  | .colon, _, _ :: _ => .error .expectedColon

end Skip

/-- Passes over the value at the head of a token list. -/
def skip (tokens : List Token) : Except Fault (List Token) := Skip.run .value [] tokens

end ClusterCapacity.Json
