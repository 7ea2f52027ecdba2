import ClusterCapacity.Source.Master

/-!
# Exchanges with a server

The bytes of a request for what is at a URL, and the answer in the bytes that come back.  The status
is known as soon as the header is there; the end of the content is known from its length, from its
last chunk, or because the server is done.
-/

namespace ClusterCapacity

namespace Exchange

/-! ### Requests -/

/-- The digits of base 64. -/
def base64Digit (value : Nat) : Char :=
  if value < 26 then Char.ofNat (65 + value)
  else if value < 52 then Char.ofNat (71 + value)
  else if value < 62 then Char.ofNat (value - 4)
  else if value = 62 then '+' else '/'

/-- Bytes in base 64. -/
def base64 : List UInt8 → List Char
  | [] => []
  | [a] =>
    let bits := a.toNat * 16
    [base64Digit (bits / 64), base64Digit (bits % 64), '=', '=']
  | [a, b] =>
    let bits := (a.toNat * 256 + b.toNat) * 4
    [base64Digit (bits / 4096), base64Digit (bits / 64 % 64), base64Digit (bits % 64), '=']
  | a :: b :: c :: rest =>
    let bits := (a.toNat * 256 + b.toNat) * 256 + c.toNat
    base64Digit (bits / 262144) :: base64Digit (bits / 4096 % 64) :: base64Digit (bits / 64 % 64)
      :: base64Digit (bits % 64) :: base64 rest

/-- What is asked for: the path and the query. -/
def target (url : Url) : List Char :=
  url.path.text ++ (url.query.elim [] ('?' :: ·))

/-- The first line of a request. -/
def requestLine (url : Url) : List Char := "GET ".toList ++ target url ++ " HTTP/1.1".toList

/-- The line about name and password, if the URL holds them. -/
def authorization (authority : Url.Authority) : List Char :=
  match authority.userinfo with
  | some userinfo =>
    let name := Url.percentDecode userinfo.name
    let password := (userinfo.password.map Url.percentDecode).getD []
    "authorization: Basic ".toList ++ base64 (name ++ 58 :: password) ++ "\r\n".toList
  | none => []

/-- The text of a request. -/
def requestText (url : Url) : String :=
  let lines := match url.authority with
    | some authority =>
      authorization authority ++ "host: ".toList
        ++ ({ authority with userinfo := none } : Url.Authority).text ++ "\r\n".toList
    | none => []
  String.ofList (requestLine url ++ "\r\naccept: */*\r\nconnection: close\r\n".toList ++ lines
    ++ "\r\n".toList)

/-! ### Answers -/

/-- The bytes up to the end of a line and those after it. -/
def line? : List UInt8 → Option (List UInt8 × List UInt8)
  | [] => none
  | 13 :: 10 :: rest => some ([], rest)
  | byte :: rest => (line? rest).map (fun (line, rest) => (byte :: line, rest))

/-- Characters of bytes, each for its own. -/
def characters (bytes : List UInt8) : List Char := bytes.map (fun byte => Char.ofNat byte.toNat)

/-- The lines of a header up to the empty one, fewer than `fuel`, and what follows. -/
def header? : Nat → List UInt8 → Option (List (List Char) × List UInt8)
  | 0, _ => none
  | fuel + 1, bytes =>
    match line? bytes with
    | none => none
    | some ([], rest) => some ([], rest)
    | some (line, rest) =>
      (header? fuel rest).map (fun (lines, rest) => (characters line :: lines, rest))

/-- The value of a field of the header. -/
def field? (name : List Char) (lines : List (List Char)) : Option (List Char) :=
  lines.findSome? (fun line =>
    if (line.takeWhile (· ≠ ':')).map Char.toLower = name then
      some (Text.trim ((line.dropWhile (· ≠ ':')).drop 1))
    else none)

/-- The status in the first line of an answer. -/
def status? (line : List Char) : Option Nat :=
  let code := ((line.dropWhile (· ≠ ' ')).dropWhile (· = ' ')).takeWhile Char.isDigit
  if code.length = 3 then some (code.foldl (fun n c => 10 * n + (c.toNat - 48)) 0) else none

/-- The content of at most `fuel` chunks. -/
def chunks? : Nat → List UInt8 → Option (List UInt8)
  | 0, _ => none
  | fuel + 1, bytes =>
    match line? bytes with
    | none => none
    | some (line, rest) =>
      let digits := (characters line).takeWhile (fun c => (Url.hexValue? c).isSome)
      let size := digits.foldl (fun n c => 16 * n + (Url.hexValue? c).getD 0) 0
      if size = 0 then some []
      else if rest.length < size + 2 then none
      else (chunks? fuel (rest.drop (size + 2))).map (rest.take size ++ ·)

/-- What stands above the content of an answer: the status, and lines with fields. -/
structure Head where
  status : Nat
  lines : List (List Char)

/-- What stands above the content, once all of it is there, and the bytes after it. -/
def head? (bytes : List UInt8) : Option (Head × List UInt8) := do
  let (lines, rest) ← header? (bytes.length + 1) bytes
  let status ← status? (← lines.head?)
  return (⟨status, lines⟩, rest)

/-- The content in the bytes so far, if it is complete; `ended` says that no more will come. -/
def Head.content? (head : Head) (ended : Bool) (bytes : List UInt8) : Option (List UInt8) :=
  if (field? "transfer-encoding".toList head.lines).isSome then chunks? (bytes.length + 1) bytes
  else
    match field? "content-length".toList head.lines with
    | some length =>
      let length := length.foldl (fun n c => 10 * n + (c.toNat - 48)) 0
      if bytes.length < length then none else some (bytes.take length)
    | none => if ended then some bytes else none

end Exchange

end ClusterCapacity
