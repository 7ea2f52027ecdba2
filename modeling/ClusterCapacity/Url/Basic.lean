import ClusterCapacity.Url.Host

/-!
# URLs

A URL has a scheme, an authority or none, a path, and maybe a query and a fragment.  The path is a
list of segments, or a text that no other path can be resolved against.
-/

namespace ClusterCapacity

namespace Url

/-- The name and password of a user, percent encoded. -/
structure Userinfo where
  name : List Char
  password : Option (List Char) := none
deriving DecidableEq, Repr

/-- Whom a URL addresses, and how. -/
structure Authority where
  userinfo : Option Userinfo := none
  host : Host
  port : Option Nat := none
deriving DecidableEq, Repr

/-- Where a URL leads. -/
inductive Path where
  | segments (segments : List (List Char))
  /-- A path that is not made of segments. -/
  | whole (text : List Char)
deriving DecidableEq, Repr

end Url

/-- A URL in its normal form. -/
structure Url where
  scheme : List Char
  authority : Option Url.Authority
  path : Url.Path
  query : Option (List Char) := none
  fragment : Option (List Char) := none
deriving DecidableEq, Repr

namespace Url

/-- How URLs of a scheme are read. -/
inductive Kind where
  /-- The web and its relatives, which always have a host. -/
  | web
  | file
  | other
deriving DecidableEq, Repr

namespace Kind

/-- The kind of a scheme. -/
def ofScheme (scheme : List Char) : Kind :=
  if ["http", "https", "ws", "wss", "ftp"].contains (String.ofList scheme) then web
  else if scheme = "file".toList then file
  else other

/-- Whether backslashes separate segments too. -/
def isSpecial (kind : Kind) : Bool := kind ≠ other

end Kind

/-- The port of a scheme when none is named. -/
def defaultPort? (scheme : List Char) : Option Nat :=
  match String.ofList scheme with
  | "http" => some 80
  | "ws" => some 80
  | "https" => some 443
  | "wss" => some 443
  | "ftp" => some 21
  | _ => none

/-! ### Texts -/

/-- The text of name and password. -/
def Userinfo.text (userinfo : Userinfo) : List Char :=
  userinfo.name ++ (match userinfo.password with
    | some password => ':' :: password
    | none => []) ++ ['@']

/-- The text of an authority. -/
def Authority.text (authority : Authority) : List Char :=
  (match authority.userinfo with
    | some userinfo => userinfo.text
    | none => []) ++ authority.host.text
  ++ (match authority.port with
    | some port => ':' :: Nat.toDigits 10 port
    | none => [])

/-- The text of a path: every segment has a slash in front. -/
def Path.text : Path → List Char
  | .segments list => list.flatMap (fun segment => '/' :: segment)
  | .whole text => text

/-- The text of a URL up to its path.  Without an authority a path may not begin with two slashes,
so a dot is put between them. -/
def frontText (url : Url) : List Char :=
  match url.authority, url.path with
  | some authority, _ => url.scheme ++ "://".toList ++ authority.text
  | none, .segments ([] :: _ :: _) => url.scheme ++ ":/.".toList
  | none, _ => url.scheme ++ [':']

/-- The text of a URL. -/
def characters (url : Url) : List Char :=
  url.frontText ++ url.path.text
    ++ (match url.query with
      | some query => '?' :: query
      | none => [])
    ++ (match url.fragment with
      | some fragment => '#' :: fragment
      | none => [])

/-- The text of a URL. -/
def text (url : Url) : String := String.ofList url.characters

/-- The URL without name and password. -/
def withoutUserinfo (url : Url) : Url :=
  { url with authority := url.authority.map (fun authority => { authority with userinfo := none }) }

/-- The kind of a URL. -/
def kind (url : Url) : Kind := .ofScheme url.scheme

end Url

end ClusterCapacity
