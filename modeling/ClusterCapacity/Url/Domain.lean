import ClusterCapacity.Unicode.Bidi
import ClusterCapacity.Unicode.DomainExpansions
import ClusterCapacity.Unicode.DomainIdeographs
import ClusterCapacity.Unicode.DomainLetters
import ClusterCapacity.Unicode.DomainStatus
import ClusterCapacity.Unicode.Joining
import ClusterCapacity.Unicode.Mark
import ClusterCapacity.Unicode.Normalize
import ClusterCapacity.Url.Error
import ClusterCapacity.Url.Percent
import ClusterCapacity.Url.Punycode

/-!
# Domain names

A domain name may be written in any script.  Its characters are mapped to lower case and plain
forms, its labels are checked, and labels beyond ASCII are put into Punycode after `xn--`.
-/

namespace ClusterCapacity.Url.Domain

open Unicode

/-! ### Mapping -/

/-- The code point that takes the place of another one in the runs of a table. -/
def shifted? (code : Nat) (runs : List (Nat × Nat × Nat × Nat)) : Option Nat :=
  match runs.find? (fun run =>
    run.1 ≤ code && code ≤ run.2.1 && (code - run.1) % run.2.2.1 = 0) with
  | some run => some (run.2.2.2 + (code - run.1))
  | none => none

/-- What takes the place of a character; `none` when no domain name may hold it. -/
def mapChar? (c : Char) : Option (List Char) :=
  if c.toNat < 0x80 then some [c.toLower]
  else if disallowed.contains c then none
  else if ignored.contains c then some []
  else
    match shifted? c.toNat letterRuns, shifted? c.toNat ideographRuns,
      expansions.lookup c.toNat with
    | some code, _, _ => some [Char.ofNat code]
    | _, some code, _ => some [Char.ofNat code]
    | _, _, some codes => some (codes.map Char.ofNat)
    | _, _, _ => some [c]

/-- The mapped and normalized text. -/
def mapText? (text : List Char) : Option (List Char) :=
  (text.mapM mapChar?).map (fun mapped => normalize mapped.flatten)

/-! ### Checks of a label -/

/-- The ASCII characters that no domain name may hold. -/
def isForbidden (c : Char) : Bool := isControl c || isAmong " %#/:<>?@[\\]^|" c

/-- How a character joins its neighbours, if it does. -/
def joiningType? (c : Char) : Option JoiningType :=
  match joiningRanges.find? (fun range => range.1 ≤ c.toNat && c.toNat ≤ range.2.1) with
  | some range => some range.2.2
  | none => none

/-- The joining type of the first character that is not transparent. -/
def nextJoining? (text : List Char) : Option JoiningType :=
  match (text.dropWhile (fun c => joiningType? c = some .transparent)).head? with
  | some c => joiningType? c
  | none => none

/-- Whether a joiner may stand between the reversed text before it and the text after it: behind a
mark that calls for one, and a non-joiner also between letters that would join. -/
def joinerAllowed (c : Char) (before after : List Char) : Bool :=
  before.head?.any (fun last => combiningClass last = 9)
    || (c.toNat = 0x200C
      && (nextJoining? before = some .left || nextJoining? before = some .dual)
      && (nextJoining? after = some .right || nextJoining? after = some .dual))

/-- Whether all joiners of a label are allowed; `before` is the reversed text in front. -/
def joinersAllowed (before : List Char) : List Char → Bool
  | [] => true
  | c :: rest =>
    (if c.toNat = 0x200C || c.toNat = 0x200D then joinerAllowed c before rest else true)
      && joinersAllowed (c :: before) rest

/-- Whether a mapped label is one that a domain name may have. -/
def isLabel (label : List Char) : Bool :=
  !label.any isForbidden && !label.head?.any marks.contains && joinersAllowed [] label

/-! ### Labels from right to left -/

/-- The bidirectional class of a character. -/
def bidiClass (c : Char) : BidiClass :=
  if c.toNat < 0x80 then
    if c.isDigit then .europeanNumber
    else if c.isAlpha then .left
    else if c = '-' || c = '+' then .europeanSeparator
    else if c = '#' || c = '$' || c = '%' then .europeanTerminator
    else if c = '.' || c = ',' || c = '/' || c = ':' then .commonSeparator
    else .otherNeutral
  else
    match bidiRanges.find? (fun range => range.1 ≤ c.toNat && c.toNat ≤ range.2.1) with
    | some range => range.2.2
    | none => .left

/-- Whether a class makes a domain name one with labels from right to left. -/
def isRightward : BidiClass → Bool
  | .right => true
  | .arabicLetter => true
  | .arabicNumber => true
  | _ => false

/-- Classes that may stand in labels of either direction. -/
def isNeutral : BidiClass → Bool
  | .europeanNumber => true
  | .europeanSeparator => true
  | .commonSeparator => true
  | .europeanTerminator => true
  | .otherNeutral => true
  | .boundaryNeutral => true
  | .nonspacingMark => true
  | _ => false

/-- Whether a label runs in one direction, in a domain name with labels from right to left. -/
def hasDirection (label : List Char) : Bool :=
  let classes := label.map bidiClass
  let last := (classes.reverse.dropWhile (· = .nonspacingMark)).head?
  match classes.head? with
  | none => true
  | some .left =>
    classes.all (fun k => k = .left || isNeutral k)
      && (last = some .left || last = some .europeanNumber)
  | some first =>
    (first = .right || first = .arabicLetter)
      && classes.all (fun k => isRightward k || isNeutral k)
      && last.any (fun k => isRightward k || k = .europeanNumber)
      && !(classes.contains .europeanNumber && classes.contains .arabicNumber)

/-! ### The whole name -/

/-- Whether a text is ASCII. -/
def isAscii (text : List Char) : Bool := text.all (fun c => c.toNat < 0x80)

/-- What marks a label as Punycode. -/
def punycodeMark : List Char := "xn--".toList

/-- The characters of a mapped label; Punycode must stand for a label that needs it. -/
def plainLabel? (label : List Char) : Option (List Char) :=
  if label.take 4 = punycodeMark then
    match Punycode.decode (label.drop 4) with
    | some plain =>
      if !isAscii plain && plain.all (fun c => mapChar? c = some [c]) && normalize plain = plain
      then some plain else none
    | none => none
  else some label

/-- A label in ASCII. -/
def asciiLabel (label : List Char) : List Char :=
  if isAscii label then label else punycodeMark ++ Punycode.encode label

/-- The labels of a domain name, mapped and checked. -/
def labels? (text : List Char) : Option (List (List Char)) := do
  let labels ← ((← mapText? text).splitOn '.').mapM plainLabel?
  let rightward := labels.any (fun label => label.any (fun c => isRightward (bidiClass c)))
  if labels.all isLabel && (!rightward || labels.all hasDirection) then some labels else none

/-- A domain name in ASCII. -/
def toAscii (text : List Char) : Except Error (List Char) :=
  match labels? text with
  | some labels => .ok (['.'].intercalate (labels.map asciiLabel))
  | none => .error .invalidDomain

end ClusterCapacity.Url.Domain
