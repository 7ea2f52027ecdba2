import ClusterCapacity.Unicode.CombiningClass
import ClusterCapacity.Unicode.Composition

/-!
# Canonical normal form

A text is decomposed into base characters and marks, the marks after each base are put in the order
of their classes, and what has a precomposed form is composed again.  Hangul syllables follow a rule
instead of the table.
-/

namespace ClusterCapacity.Unicode

/-- The class of a mark; zero for every other character. -/
def combiningClass (c : Char) : Nat :=
  match combiningClasses.find? (fun range => range.1 ≤ c.toNat && c.toNat ≤ range.2.1) with
  | some range => range.2.2
  | none => 0

/-! ### Decomposition -/

/-- The parts of a Hangul syllable: leading consonant, vowel and trailing consonant. -/
def hangulParts? (code : Nat) : Option (List Nat) :=
  if 0xAC00 ≤ code && code ≤ 0xD7A3 then
    let index := code - 0xAC00
    let trailing := index % 28
    some ([0x1100 + index / 588, 0x1161 + index % 588 / 28]
      ++ (if trailing = 0 then [] else [0x11A7 + trailing]))
  else none

/-- The full decomposition of a code point; no chain of compositions is longer than `fuel`. -/
def decompositionOf : Nat → Nat → List Nat
  | 0, code => [code]
  | fuel + 1, code =>
    match hangulParts? code with
    | some parts => parts
    | none =>
      match compositions.find? (fun entry => entry.2.2 = code) with
      | some (first, second, _) => decompositionOf fuel first ++ [second]
      | none => [code]

/-- The full decomposition of a character. -/
def decomposition (c : Char) : List Char :=
  if c.toNat < 0xC0 then [c] else (decompositionOf 4 c.toNat).map Char.ofNat

/-- Puts a mark behind the marks of its class and before those of greater classes, at the end of a
reversed text. -/
def insertMark (c : Char) : List Char → List Char
  | [] => [c]
  | last :: before =>
    if combiningClass c < combiningClass last && combiningClass c ≠ 0 then
      last :: insertMark c before
    else c :: last :: before

/-- The decomposed text with its marks in order. -/
def decompose (text : List Char) : List Char :=
  ((text.flatMap decomposition).foldl (fun done c => insertMark c done) []).reverse

/-! ### Composition -/

/-- The composed form of two code points. -/
def composed? (first second : Nat) : Option Nat :=
  if 0x1100 ≤ first && first < 0x1113 && 0x1161 ≤ second && second < 0x1176 then
    some (0xAC00 + ((first - 0x1100) * 21 + (second - 0x1161)) * 28)
  else if 0xAC00 ≤ first && first ≤ 0xD7A3 && (first - 0xAC00) % 28 = 0
      && 0x11A8 ≤ second && second < 0x11C3 then
    some (first + (second - 0x11A7))
  else
    match compositions.find? (fun entry => entry.1 = first && entry.2.1 = second) with
    | some entry => some entry.2.2
    | none => none

/-- Composes what follows a base: `marks` are the reversed marks that stay apart from it. -/
def composeFrom (base : Char) (marks : List Char) : List Char → List Char
  | [] => base :: marks.reverse
  | c :: rest =>
    let free := match marks with
      | [] => true
      | last :: _ => combiningClass last < combiningClass c
    match if free then composed? base.toNat c.toNat else none with
    | some code => composeFrom (Char.ofNat code) marks rest
    | none =>
      if combiningClass c = 0 then base :: (marks.reverse ++ composeFrom c [] rest)
      else composeFrom base (c :: marks) rest

/-- Composes the marks in front of the first base with nothing. -/
def compose : List Char → List Char
  | [] => []
  | c :: rest => if combiningClass c = 0 then composeFrom c [] rest else c :: compose rest

/-- The canonical normal form of a text. -/
def normalize (text : List Char) : List Char :=
  if text.all (fun c => c.toNat < 0x300) then text else compose (decompose text)

end ClusterCapacity.Unicode
