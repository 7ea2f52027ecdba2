/-!
# White space

`isBlank` is the Unicode property `White_Space`; `trim` takes such characters off both ends of a
text and leaves those inside it.
-/

namespace ClusterCapacity.Text

/-- The characters with the Unicode property `White_Space`. -/
def isBlank (c : Char) : Bool :=
  (0x09 ≤ c.toNat && c.toNat ≤ 0x0D) || c.toNat = 0x20 || c.toNat = 0x85 || c.toNat = 0xA0
    || c.toNat = 0x1680 || (0x2000 ≤ c.toNat && c.toNat ≤ 0x200A) || c.toNat = 0x2028
    || c.toNat = 0x2029 || c.toNat = 0x202F || c.toNat = 0x205F || c.toNat = 0x3000

/-- Drops the elements with `p` from the end of a list. -/
def dropEnd (p : Char → Bool) (text : List Char) : List Char :=
  (text.reverse.dropWhile p).reverse

/-- Drops white space from both ends. -/
def trim (text : List Char) : List Char := dropEnd isBlank (text.dropWhile isBlank)

end ClusterCapacity.Text
