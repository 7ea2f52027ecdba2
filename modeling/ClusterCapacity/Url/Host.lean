import ClusterCapacity.Url.Domain

/-!
# Hosts

A host is a domain name, an IPv4 or IPv6 address, or, outside web addresses, any name without
delimiters.  A domain name that ends in a number is taken for an IPv4 address and has to be one.
-/

namespace ClusterCapacity.Url

/-- Whom a URL addresses. -/
inductive Host where
  /-- A domain name in ASCII, or a percent encoded name. -/
  | name (name : List Char)
  | ipv4 (address : Nat)
  /-- The eight pieces of an address. -/
  | ipv6 (pieces : List Nat)
deriving DecidableEq, Repr

namespace Host

/-! ### IPv4 -/

/-- The digits of a number in the given base. -/
def digitsValue? (base : Nat) (digits : List Char) : Option Nat :=
  digits.foldlM (fun value c => do
    let digit ← hexValue? c
    if digit < base then some (base * value + digit) else none) 0

/-- The number of a part of an IPv4 address: decimal, octal after `0`, or hexadecimal after `0x`,
where nothing counts as zero. -/
def ipv4Part? (part : List Char) : Option Nat :=
  match part with
  | [] => none
  | '0' :: 'x' :: digits => digitsValue? 16 digits
  | '0' :: 'X' :: digits => digitsValue? 16 digits
  | ['0'] => some 0
  | '0' :: digits => digitsValue? 8 digits
  | digits => digitsValue? 10 digits

/-- The parts of a name between dots, without an empty last one. -/
def dottedParts (name : List Char) : List (List Char) :=
  let parts := name.splitOn '.'
  if 1 < parts.length && parts.getLast? = some [] then parts.dropLast else parts

/-- Whether a name has to be an IPv4 address because it ends in a number. -/
def endsInNumber (name : List Char) : Bool :=
  match (dottedParts name).getLast? with
  | none => false
  | some last => (!last.isEmpty && last.all Char.isDigit) || (ipv4Part? last).isSome

/-- The IPv4 address of a name: all parts but the last are single bytes. -/
def parseIpv4 (name : List Char) : Except Error Nat :=
  let parts := dottedParts name
  match parts.mapM ipv4Part? with
  | none => .error .invalidIpv4
  | some numbers =>
    let leading := numbers.dropLast
    let last := numbers.getLast?.getD 0
    if 4 < parts.length || leading.any (255 < ·) || Nat.pow 256 (4 - leading.length) ≤ last then
      .error .invalidIpv4
    else
      .ok (leading.foldl (fun value byte => 256 * value + byte) 0
        * Nat.pow 256 (4 - leading.length) + last)

/-- The text of an IPv4 address. -/
def ipv4Text (address : Nat) : List Char :=
  ['.'].intercalate ([16777216, 65536, 256, 1].map (fun unit =>
    Nat.toDigits 10 (address / unit % 256)))

/-! ### IPv6 -/

/-- The pieces of an address before and after the gap. -/
structure Ipv6Pieces where
  pieces : List Nat := []
  /-- How many pieces stand before the gap, if there is one. -/
  gap : Option Nat := none

/-- The byte of an IPv4 part inside an IPv6 address: decimal and without zeros in front. -/
def decimalByte? (digits : List Char) : Option Nat :=
  if digits.isEmpty || 3 < digits.length || (digits.head? = some '0' && digits.length ≠ 1)
      || !digits.all Char.isDigit then none
  else
    match digitsValue? 10 digits with
    | some value => if value ≤ 255 then some value else none
    | none => none

/-- The two pieces of an IPv4 address at the end of an IPv6 address. -/
def trailingIpv4? (text : List Char) : Option (List Nat) := do
  match ← (text.splitOn '.').mapM decimalByte? with
  | [a, b, c, d] => some [256 * a + b, 256 * c + d]
  | _ => none

/-- Reads the pieces of an IPv6 address, at most `fuel` of them. -/
def scanPieces : Nat → Ipv6Pieces → List Char → Option Ipv6Pieces
  | 0, _, _ => none
  | fuel + 1, found, text =>
    match text with
    | [] => some found
    | ':' :: rest =>
      if found.gap.isSome then none
      else scanPieces fuel { found with gap := some found.pieces.length } rest
    | text =>
      let digits := (text.take 4).takeWhile (fun c => (hexValue? c).isSome)
      let after := text.drop digits.length
      let piece := (digitsValue? 16 digits).getD 0
      match after with
      | '.' :: _ =>
        match trailingIpv4? text with
        | some pieces => some { found with pieces := found.pieces ++ pieces }
        | none => none
      | ':' :: [] => none
      | ':' :: rest =>
        if digits.isEmpty then none
        else scanPieces fuel { found with pieces := found.pieces ++ [piece] } rest
      | [] => some { found with pieces := found.pieces ++ [piece] }
      | _ => none

/-- The pieces of an IPv6 address; a gap stands for the zeros that are missing. -/
def parseIpv6 (text : List Char) : Except Error (List Nat) :=
  let scanned := match text with
    | ':' :: ':' :: rest => scanPieces 9 { gap := some 0 } rest
    | ':' :: _ => none
    | text => scanPieces 9 {} text
  match scanned with
  | none => .error .invalidIpv6
  | some found =>
    match found.gap with
    | none => if found.pieces.length = 8 then .ok found.pieces else .error .invalidIpv6
    | some gap =>
      if found.pieces.length ≤ 7 then
        .ok (found.pieces.take gap ++ List.replicate (8 - found.pieces.length) 0
          ++ found.pieces.drop gap)
      else .error .invalidIpv6

/-- Start and length of the first longest run of zeros, among runs of at least two. -/
def longestZeros (pieces : List Nat) : Option (Nat × Nat) :=
  let run (start : Nat) : Nat := ((pieces.drop start).takeWhile (· = 0)).length
  (List.range pieces.length).foldl (fun best start =>
    let length := run start
    if length < 2 then best
    else
      match best with
      | none => some (start, length)
      | some (_, longest) => if longest < length then some (start, length) else best) none

/-- The pieces of a list between colons. -/
def colonJoined (pieces : List Nat) : List Char :=
  [':'].intercalate (pieces.map (Nat.toDigits 16))

/-- The text of an IPv6 address; its longest run of zeros is left out. -/
def ipv6Text (pieces : List Nat) : List Char :=
  match longestZeros pieces with
  | none => colonJoined pieces
  | some (start, length) =>
    colonJoined (pieces.take start) ++ "::".toList ++ colonJoined (pieces.drop (start + length))

/-! ### All hosts -/

/-- The text of a host. -/
def text : Host → List Char
  | .name text => text
  | ipv4 address => ipv4Text address
  | ipv6 pieces => '[' :: (ipv6Text pieces ++ [']'])

/-- The host without a name. -/
def empty : Host := name []

/-- The IPv6 address between brackets. -/
def parseBracketed (text : List Char) : Except Error Host :=
  if text.getLast? = some ']' then ipv6 <$> parseIpv6 (text.drop 1).dropLast
  else .error .invalidIpv6

/-- The text that percent encoded bytes stand for. -/
def decoded? (text : List Char) : Option (List Char) :=
  (String.fromUTF8? (percentDecode text).toByteArray).map String.toList

/-- The host of a web address. -/
def parse (text : List Char) : Except Error Host :=
  if text.head? = some '[' then parseBracketed text
  else
    match decoded? text with
    | none => .error .invalidDomain
    | some text => do
      let domain ← Domain.toAscii text
      if domain.isEmpty then .error .emptyHost
      else if endsInNumber domain then ipv4 <$> parseIpv4 domain
      else .ok (name domain)

/-- The characters that no host may hold. -/
def isForbidden (c : Char) : Bool :=
  isAmong " #/:<>?@[\\]^|" c || c = '\x00' || c = '\t' || c = '\n' || c = '\r'

/-- The host of a URL that is no web address. -/
def parseOther (text : List Char) : Except Error Host :=
  if text.head? = some '[' then parseBracketed text
  else if text.any isForbidden then .error .invalidCharacter
  else .ok (name (percentEncode isControl text))

end Host

end ClusterCapacity.Url
