import ClusterCapacity.Url.Basic

/-!
# Reading URLs

A URL is read from left to right: scheme, authority, path, query, fragment.  Spaces and control
characters around it and tabs and line breaks anywhere do not count.  Dot segments are resolved on
the way.
-/

namespace ClusterCapacity.Url

/-! ### Paths -/

/-- Whether a segment stands for the place that has been reached. -/
def isSingleDot (segment : List Char) : Bool :=
  segment = ['.'] || segment.map Char.toLower = "%2e".toList

/-- Whether a segment stands for the place one level up. -/
def isDoubleDot (segment : List Char) : Bool :=
  ["..", ".%2e", "%2e.", "%2e%2e"].contains (String.ofList (segment.map Char.toLower))

/-- Whether a segment is a letter and a colon or bar. -/
def isDrive (segment : List Char) : Bool :=
  match segment with
  | [letter, mark] => letter.isAlpha && (mark = ':' || mark = '|')
  | _ => false

/-- Whether a segment is a letter and a colon. -/
def isPlainDrive (segment : List Char) : Bool := isDrive segment && segment[1]? = some ':'

/-- The segments, last one first, one level up; the drive of a file stays. -/
def goUp (kind : Kind) (reversed : List (List Char)) : List (List Char) :=
  match reversed with
  | [] => []
  | [only] => if kind = .file && isPlainDrive only then [only] else []
  | _ :: before => before

/-- Appends a segment to the reversed ones; the last segment of a path is empty when it stands for a
place. -/
def appendSegment (kind : Kind) (isLast : Bool) (reversed : List (List Char))
    (segment : List Char) : List (List Char) :=
  if isDoubleDot segment then
    if isLast then [] :: goUp kind reversed else goUp kind reversed
  else if isSingleDot segment then
    if isLast then [] :: reversed else reversed
  else if kind = .file && reversed.isEmpty && isDrive segment then
    [segment.take 1 ++ [':']]
  else segment :: reversed

/-- Appends the segments of a path to the reversed ones. -/
def appendSegments (kind : Kind) (reversed : List (List Char)) :
    List (List Char) → List (List Char)
  | [] => reversed
  | [segment] => appendSegment kind true reversed segment
  | segment :: rest => appendSegments kind (appendSegment kind false reversed segment) rest

/-- Whether a character separates segments. -/
def isSeparator (kind : Kind) (c : Char) : Bool := c = '/' || (kind.isSpecial && c = '\\')

/-- The segments of a text that begins with a segment. -/
def splitSegments (kind : Kind) (text : List Char) : List (List Char) :=
  (text.splitOnP (isSeparator kind)).map (percentEncode unsafeInPath)

/-- Drops the empty segments in front of a file's path, down to the last segment. -/
def dropEmptySegments : List (List Char) → List (List Char)
  | [] => [[]]
  | [segment] => [segment]
  | [] :: rest => dropEmptySegments rest
  | segments => segments

/-- The segments that a text adds to a path. -/
def extendPath (kind : Kind) (segments : List (List Char)) (text : List Char) :
    List (List Char) :=
  let extended := (appendSegments kind segments.reverse (splitSegments kind text)).reverse
  if kind = .file then dropEmptySegments extended else extended

/-- The path after an authority or a scheme: it may be missing only outside the web. -/
def parsePath (kind : Kind) (text : List Char) : List (List Char) :=
  match text with
  | [] => if kind.isSpecial then [[]] else []
  | c :: rest => if isSeparator kind c then extendPath kind [] rest else extendPath kind [] text

/-! ### Query and fragment -/

/-- The text before the query or fragment, and the rest. -/
def splitPath (text : List Char) : List Char × List Char :=
  text.span (fun c => c ≠ '?' && c ≠ '#')

/-- The query and the fragment of the text after a path. -/
def parseTail (kind : Kind) (text : List Char) : Option (List Char) × Option (List Char) :=
  let fragment (text : List Char) : Option (List Char) :=
    match text with
    | [] => none
    | _ :: text => some (percentEncode unsafeInFragment text)
  match text with
  | '?' :: text =>
    let (query, rest) := text.span (fun c => c ≠ '#')
    (some (percentEncode (unsafeInQuery kind.isSpecial) query), fragment rest)
  | text => (none, fragment text)

/-- The URL with the query and fragment of a text. -/
def withTail (url : Url) (text : List Char) : Url :=
  let (query, fragment) := parseTail url.kind text
  { url with query, fragment }

/-! ### Authorities -/

/-- Whether a character ends an authority. -/
def endsAuthority (kind : Kind) (c : Char) : Bool :=
  c = '?' || c = '#' || isSeparator kind c

/-- Name and password of a user; an empty password is none. -/
def parseUserinfo (text : List Char) : Option Userinfo :=
  let (name, rest) := text.span (fun c => c ≠ ':')
  let encoded (text : List Char) : List Char := percentEncode unsafeInUserinfo text
  match rest with
  | _ :: c :: password => some ⟨encoded name, some (encoded (c :: password))⟩
  | _ => if name.isEmpty then none else some ⟨encoded name, none⟩

/-- The text of the user and what follows its last at sign. -/
def splitUserinfo (authority : List Char) : Option (List Char) × List Char :=
  let host := (authority.reverse.takeWhile (fun c => c ≠ '@')).reverse
  if host.length = authority.length then (none, authority)
  else (some (authority.take (authority.length - host.length - 1)), host)

/-- The text of the host and what follows it; colons inside brackets do not end it. -/
def splitHost (inBrackets : Bool) : List Char → List Char × List Char
  | [] => ([], [])
  | c :: rest =>
    if c = ':' && !inBrackets then ([], c :: rest)
    else
      let (host, after) := splitHost (if c = '[' then true else if c = ']' then false
        else inBrackets) rest
      (c :: host, after)

/-- The port of the text after a host. -/
def parsePort (scheme : List Char) (text : List Char) : Except Error (Option Nat) :=
  match text with
  | [] => .ok none
  | _ :: digits =>
    if !digits.all Char.isDigit then .error .invalidPort
    else if digits.isEmpty then .ok none
    else
      let port := digits.foldl (fun value c => 10 * value + (c.toNat - '0'.toNat)) 0
      if 65535 < port then .error .invalidPort
      else .ok (if defaultPort? scheme = some port then none else some port)

/-- The authority of a URL that is no file; `isLast` tells whether nothing follows it.  A host may
be missing after an at sign only at the end of the text. -/
def parseAuthority (scheme : List Char) (text : List Char) (isLast : Bool) :
    Except Error Authority := do
  let kind := Kind.ofScheme scheme
  let (user, text) := splitUserinfo text
  let userinfo := user.bind parseUserinfo
  let (hostText, portText) := splitHost false text
  if hostText.isEmpty && (kind = .web || (user = some [] && !isLast)) then .error .emptyHost
  else
    let host ← if kind = .web then Host.parse hostText else Host.parseOther hostText
    if host = .empty && (!portText.isEmpty || userinfo.isSome) then .error .emptyHost
    else .ok { userinfo, host, port := ← parsePort scheme portText }

/-- The URL of the text after two slashes. -/
def parseWithAuthority (scheme : List Char) (text : List Char) : Except Error Url := do
  let kind := Kind.ofScheme scheme
  let (authorityText, rest) := text.span (fun c => !endsAuthority kind c)
  let authority ← parseAuthority scheme authorityText rest.isEmpty
  let (path, tail) := splitPath rest
  .ok (withTail
    { scheme, authority := some authority, path := .segments (parsePath kind path) } tail)

/-! ### Files -/

/-- The host of a file; this machine goes without a name. -/
def parseFileHost (text : List Char) : Except Error Host := do
  if text.isEmpty then .ok .empty
  else
    let host ← Host.parse text
    .ok (if host = .name "localhost".toList then .empty else host)

/-- The URL of a file after its scheme. -/
def parseFile (scheme : List Char) (text : List Char) : Except Error Url := do
  let (place, tail) := splitPath text
  let url (host : Host) (path : List Char) : Url :=
    let segments := parsePath .file path
    let host := if segments.head?.any isPlainDrive then .empty else host
    withTail { scheme, authority := some { host }, path := .segments segments } tail
  match place with
  | a :: b :: rest =>
    if isSeparator .file a && isSeparator .file b then
      let (hostText, path) := rest.span (fun c => !isSeparator .file c)
      if isDrive hostText then .ok (url .empty rest)
      else .ok (url (← parseFileHost hostText) path)
    else .ok (url .empty place)
  | place => .ok (url .empty place)

/-! ### All URLs -/

/-- The URL of the text after a scheme that is neither the web nor a file. -/
def parseOther (scheme : List Char) (text : List Char) : Except Error Url :=
  match text with
  | '/' :: '/' :: text => parseWithAuthority scheme text
  | '/' :: text =>
    let (path, tail) := splitPath text
    .ok (withTail
      { scheme, authority := none, path := .segments (extendPath .other [] path) } tail)
  | text =>
    let (path, tail) := splitPath text
    .ok (withTail { scheme, authority := none, path := .whole (percentEncode isControl path) } tail)

/-- The scheme of a text in lower case, and what follows its colon. -/
def scheme? (text : List Char) : Option (List Char × List Char) :=
  let scheme := text.takeWhile (fun c => c.isAlphanum || c = '+' || c = '-' || c = '.')
  match text.drop scheme.length with
  | ':' :: rest =>
    if scheme.head?.any Char.isAlpha then some (scheme.map Char.toLower, rest) else none
  | _ => none

/-- The characters of a text that count. -/
def significant (text : List Char) : List Char :=
  let isOuter (c : Char) : Bool := c.toNat ≤ 0x20
  let inner := ((text.dropWhile isOuter).reverse.dropWhile isOuter).reverse
  inner.filter (fun c => !(c = '\t' || c = '\n' || c = '\r'))

/-- The URL that a text denotes. -/
def parse (text : String) : Except Error Url :=
  match scheme? (significant text.toList) with
  | none => .error .relativeWithoutBase
  | some (scheme, rest) =>
    match Kind.ofScheme scheme with
    | .web => parseWithAuthority scheme (rest.dropWhile (isSeparator .web))
    | .file => parseFile scheme rest
    | .other => parseOther scheme rest

/-- The URL of a relative path, which begins with a segment, below the place of a base. -/
def resolve (base : Url) (path : List Char) : Except Error Url :=
  match base.path with
  | .whole _ => .error .baseCannotBeBase
  | .segments segments =>
    .ok { base with
      path := .segments (extendPath base.kind (goUp base.kind segments.reverse).reverse path)
      query := none
      fragment := none }

end ClusterCapacity.Url
