/-!
# Texts that are no URL

The ways in which a text fails to be a URL, alone or below another one.
-/

namespace ClusterCapacity.Url

/-- Why a text is no URL. -/
inductive Error where
  | emptyHost
  | invalidDomain
  | invalidPort
  | invalidIpv4
  | invalidIpv6
  | invalidCharacter
  | relativeWithoutBase
  | baseCannotBeBase
deriving DecidableEq, Repr

/-- What the user is told. -/
def Error.message : Error → String
  | emptyHost => "empty host"
  | invalidDomain => "invalid international domain name"
  | invalidPort => "invalid port number"
  | invalidIpv4 => "invalid IPv4 address"
  | invalidIpv6 => "invalid IPv6 address"
  | invalidCharacter => "invalid domain character"
  | relativeWithoutBase => "relative URL without a base"
  | baseCannotBeBase => "relative URL with a cannot-be-a-base base"

end ClusterCapacity.Url
