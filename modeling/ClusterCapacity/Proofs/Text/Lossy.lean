import ClusterCapacity.Proofs.Text.Utf8
import ClusterCapacity.Text.Lossy
import Mathlib.Data.List.TakeWhile

/-!
# The characters in bytes

Bytes are taken apart into the characters that they hold and pieces that are no character.  A first
byte says how many bytes follow and where the second one lies (`leadingByte?_cases`); with it and
the bytes that follow the character is known (`utf8EncodeChar_of_length_trailingBytes`), and every
character is found in this way (`exists_utf8EncodeChar_eq_cons`).  So the characters of a text come
back from its bytes (`charactersFrom_toUTF8`), and where no character begins a piece is given up
that belongs to none (`charactersFrom_of_no_character`).
-/

namespace ClusterCapacity.Text

/-! ### Numbers of bytes and characters -/

theorem toNat_ofNat {value : Nat} (h : value < 0xD800 ∨ 0xDFFF < value ∧ value < 0x110000) :
    (Char.ofNat value).val.toNat = value := by
  have hvalid : value.isValidChar := h
  rw [Char.ofNat, dif_pos hvalid]
  rfl

theorem ofNat_eq_of_toNat {value : Nat} {byte : UInt8} (h : byte.toNat = value) :
    UInt8.ofNat value = byte := by
  rw [← h, UInt8.ofNat_toNat]

theorem toNat_of_isContinuation {byte : UInt8} (h : isContinuation byte = true) :
    0x80 ≤ byte.toNat ∧ byte.toNat ≤ 0xBF := by
  simpa [isContinuation, UInt8.le_iff_toNat_le] using h

theorem isContinuation_ofNat (value : Nat) :
    isContinuation (UInt8.ofNat (value % 64 + 0x80)) = true := by
  have hvalue := UInt8.toNat_ofNat_of_lt' (show value % 64 + 0x80 < 256 by omega)
  simp only [isContinuation, Bool.and_eq_true, decide_eq_true_eq, UInt8.le_iff_toNat_le, hvalue]
  exact ⟨Nat.le_add_left .., by simp; omega⟩

/-! ### First bytes -/

/-- The numbers that go with a first byte. -/
theorem leadingByte?_cases {byte low high : UInt8} {count : Nat}
    (h : leadingByte? byte = some (low, high, count)) :
    (count = 1 ∧ 0xC2 ≤ byte.toNat ∧ byte.toNat ≤ 0xDF ∧ low.toNat = 0x80 ∧ high.toNat = 0xBF) ∨
    (count = 2 ∧ 0xE0 ≤ byte.toNat ∧ byte.toNat ≤ 0xEF ∧
      low.toNat = (if byte.toNat = 0xE0 then 0xA0 else 0x80) ∧
      high.toNat = (if byte.toNat = 0xED then 0x9F else 0xBF)) ∨
    (count = 3 ∧ 0xF0 ≤ byte.toNat ∧ byte.toNat ≤ 0xF4 ∧
      low.toNat = (if byte.toNat = 0xF0 then 0x90 else 0x80) ∧
      high.toNat = (if byte.toNat = 0xF4 then 0x8F else 0xBF)) := by
  unfold leadingByte? at h
  simp only [Bool.and_eq_true, decide_eq_true_eq, UInt8.le_iff_toNat_le, ← UInt8.toNat_inj] at h
  split_ifs at h <;> cases h <;> simp_all <;> omega

theorem exists_leadingByte? {byte : UInt8} (hlow : 0xC2 ≤ byte.toNat) (hhigh : byte.toNat ≤ 0xF4) :
    ∃ low high count, leadingByte? byte = some (low, high, count) := by
  unfold leadingByte?
  simp only [Bool.and_eq_true, decide_eq_true_eq, UInt8.le_iff_toNat_le, ← UInt8.toNat_inj]
  split_ifs <;> simp_all; omega

/-! ### The bytes after a first byte -/

theorem exists_of_length_trailingBytes {low high : UInt8} {count : Nat} {bytes : List UInt8}
    (hcount : 0 < count) (h : (trailingBytes low high count bytes).length = count) :
    ∃ second others, trailingBytes low high count bytes = second :: others ∧
      low ≤ second ∧ second ≤ high ∧ ∀ byte ∈ others, isContinuation byte = true := by
  cases bytes with
  | nil =>
    rw [trailingBytes] at h
    exact absurd h (Nat.ne_of_lt hcount)
  | cons second rest =>
    rw [trailingBytes] at h ⊢
    split_ifs at h with hsecond
    · rw [Bool.and_eq_true, decide_eq_true_eq, decide_eq_true_eq] at hsecond
      exact ⟨second, _, if_pos (by simpa using hsecond), hsecond.1, hsecond.2,
        fun _ => List.mem_takeWhile_imp⟩
    · exact absurd h (Nat.ne_of_lt hcount)

theorem trailingBytes_prefix (low high : UInt8) (count : Nat) (bytes : List UInt8) :
    trailingBytes low high count bytes <+: bytes := by
  cases bytes with
  | nil => exact List.nil_prefix
  | cons second rest =>
    rw [trailingBytes]
    split_ifs
    · exact List.cons_prefix_cons.mpr
        ⟨rfl, (List.takeWhile_prefix _).trans (List.take_prefix _ _)⟩
    · exact List.nil_prefix

/-- The bytes that are taken after a first byte are continuations. -/
theorem isContinuation_of_mem_trailingBytes {byte low high : UInt8} {count : Nat}
    (h : leadingByte? byte = some (low, high, count)) (bytes : List UInt8) :
    ∀ other ∈ trailingBytes low high count bytes, isContinuation other = true := by
  have hcases := leadingByte?_cases h
  cases bytes with
  | nil => nofun
  | cons second rest =>
    rw [trailingBytes]
    split_ifs with hsecond
    · simp only [Bool.and_eq_true, decide_eq_true_eq, UInt8.le_iff_toNat_le] at hsecond
      refine List.forall_mem_cons.mpr ⟨?_, fun _ => List.mem_takeWhile_imp⟩
      have hbounds : 0x80 ≤ second.toNat ∧ second.toNat ≤ 0xBF := by
        split_ifs at hcases <;> omega
      simpa [isContinuation, UInt8.le_iff_toNat_le] using hbounds
    · nofun

theorem trailingBytes_append {low high second : UInt8} {others : List UInt8} (hlow : low ≤ second)
    (hhigh : second ≤ high) (h : ∀ byte ∈ others, isContinuation byte = true)
    (bytes : List UInt8) :
    trailingBytes low high (others.length + 1) (second :: others ++ bytes) = second :: others := by
  have hsecond : (low ≤ second && second ≤ high : Bool) = true := by simp [hlow, hhigh]
  rw [List.cons_append, trailingBytes, if_pos hsecond, Nat.add_sub_cancel, List.take_left' rfl,
    List.takeWhile_eq_self_iff.mpr h]

/-! ### The bytes of a code point -/

section

variable {value : Nat} {first second third fourth : UInt8}

theorem utf8EncodeChar_ofNat_two (hlow : 0x80 ≤ value) (hhigh : value ≤ 0x7FF)
    (hfirst : first.toNat = value / 64 + 0xC0) (hsecond : second.toNat = value % 64 + 0x80) :
    String.utf8EncodeChar (Char.ofNat value) = [first, second] := by
  simp only [String.utf8EncodeChar, toNat_ofNat (.inl (by omega : value < 0xD800))]
  rw [if_neg (by omega), if_pos hhigh, ofNat_eq_of_toNat (hfirst.trans (by omega)),
    ofNat_eq_of_toNat hsecond]

theorem utf8EncodeChar_ofNat_three (hlow : 0x800 ≤ value)
    (hvalid : value < 0xD800 ∨ 0xDFFF < value ∧ value ≤ 0xFFFF)
    (hfirst : first.toNat = value / 4096 + 0xE0)
    (hsecond : second.toNat = value / 64 % 64 + 0x80) (hthird : third.toNat = value % 64 + 0x80) :
    String.utf8EncodeChar (Char.ofNat value) = [first, second, third] := by
  have hvalue : value < 0xD800 ∨ 0xDFFF < value ∧ value < 0x110000 := by omega
  simp only [String.utf8EncodeChar, toNat_ofNat hvalue]
  rw [if_neg (by omega), if_neg (by omega), if_pos (by omega),
    ofNat_eq_of_toNat (hfirst.trans (by omega)), ofNat_eq_of_toNat hsecond,
    ofNat_eq_of_toNat hthird]

theorem utf8EncodeChar_ofNat_four (hlow : 0x10000 ≤ value) (hhigh : value ≤ 0x10FFFF)
    (hfirst : first.toNat = value / 262144 + 0xF0)
    (hsecond : second.toNat = value / 4096 % 64 + 0x80)
    (hthird : third.toNat = value / 64 % 64 + 0x80) (hfourth : fourth.toNat = value % 64 + 0x80) :
    String.utf8EncodeChar (Char.ofNat value) = [first, second, third, fourth] := by
  have hvalue : value < 0xD800 ∨ 0xDFFF < value ∧ value < 0x110000 := by omega
  simp only [String.utf8EncodeChar, toNat_ofNat hvalue]
  rw [if_neg (by omega), if_neg (by omega), if_neg (by omega),
    ofNat_eq_of_toNat (hfirst.trans (by omega)), ofNat_eq_of_toNat hsecond,
    ofNat_eq_of_toNat hthird, ofNat_eq_of_toNat hfourth]

end

/-! ### Characters of several bytes -/

/-- The bytes from which a character is put together are those of the character. -/
theorem utf8EncodeChar_of_length_trailingBytes {byte low high : UInt8} {count : Nat}
    {bytes : List UInt8} (hleading : leadingByte? byte = some (low, high, count))
    (h : (trailingBytes low high count bytes).length = count) :
    String.utf8EncodeChar (Char.ofNat ((trailingBytes low high count bytes).foldl appendBits
      (byte.toNat % Nat.pow 2 (6 - count)))) = byte :: trailingBytes low high count bytes := by
  have hpow : Nat.pow 2 (6 - 1) = 32 ∧ Nat.pow 2 (6 - 2) = 16 ∧ Nat.pow 2 (6 - 3) = 8 := by decide
  -- the bounds of the second byte leave out longer forms of smaller characters, halves of
  -- characters and what lies above the last one
  rcases leadingByte?_cases hleading with ⟨rfl, hrest⟩ | ⟨rfl, hrest⟩ | ⟨rfl, hrest⟩ <;>
    obtain ⟨second, others, htrailing, hlow, hhigh, hothers⟩ :=
      exists_of_length_trailingBytes (by decide) h <;>
    rw [htrailing] at h ⊢ <;>
    rw [UInt8.le_iff_toNat_le] at hlow hhigh
  · obtain rfl : others = [] := List.eq_nil_of_length_eq_zero (by simpa using h)
    rw [hpow.1]
    simp only [List.foldl_cons, List.foldl_nil, appendBits]
    apply utf8EncodeChar_ofNat_two <;> omega
  · obtain ⟨third, rfl⟩ : ∃ third, others = [third] := List.length_eq_one_iff.mp (by simpa using h)
    have hthird := toNat_of_isContinuation (hothers third (by simp))
    rw [hpow.2.1]
    simp only [List.foldl_cons, List.foldl_nil, appendBits]
    split_ifs at hrest <;> apply utf8EncodeChar_ofNat_three <;> omega
  · obtain ⟨third, fourth, rfl⟩ : ∃ third fourth, others = [third, fourth] :=
      List.length_eq_two.mp (by simpa using h)
    have hthird := toNat_of_isContinuation (hothers third (by simp))
    have hfourth := toNat_of_isContinuation (hothers fourth (by simp))
    rw [hpow.2.2]
    simp only [List.foldl_cons, List.foldl_nil, appendBits]
    split_ifs at hrest <;> apply utf8EncodeChar_ofNat_four <;> omega

/-- A first byte takes the bytes after it that can belong to its character. -/
theorem trailingBytes_of_lead (lead : Nat) (second : UInt8) (others : List UInt8)
    (hlead : 0xC2 ≤ lead ∧ lead ≤ 0xF4)
    (hlength : others.length = if lead < 0xE0 then 0 else if lead < 0xF0 then 1 else 2)
    (hlow : (if lead = 0xE0 then 0xA0 else if lead = 0xF0 then 0x90 else 0x80) ≤ second.toNat)
    (hhigh : second.toNat ≤ if lead = 0xED then 0x9F else if lead = 0xF4 then 0x8F else 0xBF)
    (hothers : ∀ byte ∈ others, isContinuation byte = true) :
    ¬ UInt8.ofNat lead < 0x80 ∧ ∃ low high,
      leadingByte? (UInt8.ofNat lead) = some (low, high, others.length + 1) ∧
      ∀ bytes, trailingBytes low high (others.length + 1) (second :: others ++ bytes)
        = second :: others := by
  have hbyte := UInt8.toNat_ofNat_of_lt' (show lead < 256 by omega)
  constructor
  · rw [UInt8.lt_iff_toNat_lt, hbyte]
    exact Nat.not_lt.mpr (by simp; omega)
  · obtain ⟨low, high, count, hleading⟩ :=
      exists_leadingByte? (hlead.1.trans_eq hbyte.symm) (hbyte.trans_le hlead.2)
    -- the numbers that go with the first byte are those that the other bytes fit
    have hfits : count = others.length + 1 ∧ low.toNat ≤ second.toNat ∧
        second.toNat ≤ high.toNat := by
      have hcases := leadingByte?_cases hleading
      rw [hbyte] at hcases
      split_ifs at * <;> omega
    obtain ⟨rfl, hlow, hhigh⟩ := hfits
    exact ⟨low, high, hleading, trailingBytes_append hlow hhigh hothers⟩

/-- A character of several bytes is put together from its bytes. -/
theorem exists_utf8EncodeChar_eq_cons {c : Char} (h : 0x80 ≤ c.val.toNat) :
    ∃ byte trailing low high, String.utf8EncodeChar c = byte :: trailing ∧ ¬ byte < 0x80 ∧
      leadingByte? byte = some (low, high, trailing.length) ∧
      ∀ bytes, trailingBytes low high trailing.length (trailing ++ bytes) = trailing := by
  have hlt := Utf8.val_lt c
  have hvalid : c.val.toNat < 0xD800 ∨ 0xDFFF < c.val.toNat := c.valid.imp id And.left
  have hbyte (n : Nat) := UInt8.toNat_ofNat_of_lt' (show n % 64 + 0x80 < 256 by omega)
  have hcontinues := isContinuation_ofNat
  simp only [String.utf8EncodeChar]
  generalize c.val.toNat = value at h hlt hvalid
  -- smaller characters have fewer bytes, so the second byte is large enough for the first one
  split_ifs with hone htwo hthree
  · omega
  · obtain ⟨hge, low, high, hleading, htrailing⟩ := trailingBytes_of_lead
      (value / 64 % 0x20 + 0xC0) (UInt8.ofNat (value % 0x40 + 0x80)) [] (by omega)
      (by simp; omega) (by rw [hbyte]; split_ifs <;> omega) (by rw [hbyte]; split_ifs <;> omega)
      nofun
    exact ⟨_, _, low, high, rfl, hge, hleading, htrailing⟩
  · obtain ⟨hge, low, high, hleading, htrailing⟩ := trailingBytes_of_lead
      (value / 4096 % 0x10 + 0xE0) (UInt8.ofNat (value / 64 % 0x40 + 0x80))
      [UInt8.ofNat (value % 0x40 + 0x80)] (by omega) (by simp; omega)
      (by rw [hbyte]; split_ifs <;> omega) (by rw [hbyte]; split_ifs <;> omega)
      (List.forall_mem_singleton.mpr (hcontinues _))
    exact ⟨_, _, low, high, rfl, hge, hleading, htrailing⟩
  · obtain ⟨hge, low, high, hleading, htrailing⟩ := trailingBytes_of_lead
      (value / 262144 % 0x08 + 0xF0) (UInt8.ofNat (value / 4096 % 0x40 + 0x80))
      [UInt8.ofNat (value / 64 % 0x40 + 0x80), UInt8.ofNat (value % 0x40 + 0x80)] (by omega)
      (by simp) (by rw [hbyte]; split_ifs <;> omega) (by rw [hbyte]; split_ifs <;> omega)
      (List.forall_mem_cons.mpr ⟨hcontinues _, List.forall_mem_singleton.mpr (hcontinues _)⟩)
    exact ⟨_, _, low, high, rfl, hge, hleading, htrailing⟩

/-- The first character of bytes is told from them. -/
theorem utf8EncodeChar_append_inj {c d : Char} {bytes others : List UInt8}
    (h : String.utf8EncodeChar c ++ bytes = String.utf8EncodeChar d ++ others) :
    c = d ∧ bytes = others := by
  rcases lt_trichotomy c d with hlt | rfl | hgt
  · exact absurd (h ▸ Utf8.utf8EncodeChar_lt hlt bytes others) (List.lt_irrefl _)
  · exact ⟨rfl, List.append_cancel_left h⟩
  · exact absurd (h ▸ Utf8.utf8EncodeChar_lt hgt others bytes) (List.lt_irrefl _)

/-! ### Taking bytes apart -/

section

variable (substitute : List Char)

theorem charactersFrom_length (skipped bytes : List UInt8) :
    charactersFrom substitute skipped.length (skipped ++ bytes)
      = charactersFrom substitute 0 bytes := by
  induction skipped with
  | nil => rfl
  | cons byte rest ih => exact ih

/-- A character is found in its bytes, whatever follows them. -/
theorem charactersFrom_utf8EncodeChar (c : Char) (bytes : List UInt8) :
    charactersFrom substitute 0 (String.utf8EncodeChar c ++ bytes)
      = c :: charactersFrom substitute 0 bytes := by
  by_cases hone : c.val.toNat < 0x80
  · have hencoded : String.utf8EncodeChar c = [UInt8.ofNat c.val.toNat] := by
      simp only [String.utf8EncodeChar]
      rw [if_pos (by omega)]
    have hbyte := UInt8.toNat_ofNat_of_lt' (show c.val.toNat < 256 by omega)
    have hlt : UInt8.ofNat c.val.toNat < 0x80 := by
      rw [UInt8.lt_iff_toNat_lt, hbyte]
      exact hone
    rw [hencoded, List.singleton_append, charactersFrom, if_pos hlt, hbyte]
    exact congrArg (· :: _) (Char.ofNat_toNat c)
  · obtain ⟨byte, trailing, low, high, hencoded, hge, hleading, htrailing⟩ :=
      exists_utf8EncodeChar_eq_cons (Nat.le_of_not_lt hone)
    have hlength : (trailingBytes low high trailing.length (trailing ++ bytes)).length
        = trailing.length := by
      rw [htrailing]
    have hsame := utf8EncodeChar_of_length_trailingBytes hleading hlength
    rw [htrailing, ← hencoded] at hsame
    rw [hencoded, List.cons_append, charactersFrom, if_neg hge, hleading]
    dsimp only
    obtain ⟨hc, -⟩ := utf8EncodeChar_append_inj (congrArg (· ++ []) hsame)
    rw [htrailing, if_pos rfl, hc, charactersFrom_length]
    rfl

/-- The characters of a text come back from its bytes. -/
theorem charactersFrom_toUTF8 (text : String) :
    charactersFrom substitute 0 text.toUTF8.toList = text.toList := by
  rw [Utf8.toList_toUTF8]
  induction text.toList with
  | nil => rfl
  | cons c rest ih => rw [List.flatMap_cons, charactersFrom_utf8EncodeChar, ih]

/-- Where no character begins a byte is given up, with continuations after it at most. -/
theorem charactersFrom_of_no_character {byte : UInt8} {bytes : List UInt8}
    (h : ∀ c, ¬ String.utf8EncodeChar c <+: byte :: bytes) :
    ∃ skipped rest, bytes = skipped ++ rest ∧ (∀ byte ∈ skipped, isContinuation byte = true) ∧
      charactersFrom substitute 0 (byte :: bytes)
        = substitute ++ charactersFrom substitute 0 rest := by
  -- a byte below 0x80 would be a character by itself
  have hge : ¬ byte < 0x80 := by
    intro hlt
    rw [UInt8.lt_iff_toNat_lt] at hlt
    have hvalue := toNat_ofNat (.inl (Nat.lt_trans hlt (by decide) : byte.toNat < 0xD800))
    have hencoded : String.utf8EncodeChar (Char.ofNat byte.toNat) = [byte] := by
      simp only [String.utf8EncodeChar, hvalue]
      rw [if_pos (Nat.le_of_lt_succ hlt), UInt8.ofNat_toNat]
    exact h (Char.ofNat byte.toNat) (hencoded ▸ ⟨bytes, rfl⟩)
  rw [charactersFrom, if_neg hge]
  cases hleading : leadingByte? byte with
  | none => exact ⟨[], bytes, rfl, nofun, rfl⟩
  | some found =>
    obtain ⟨low, high, count⟩ := found
    obtain ⟨rest, hrest⟩ := trailingBytes_prefix low high count bytes
    -- with all its bytes a character would begin here
    have hshort : (trailingBytes low high count bytes).length ≠ count := by
      intro hlength
      apply h (Char.ofNat ((trailingBytes low high count bytes).foldl appendBits
        (byte.toNat % Nat.pow 2 (6 - count))))
      rw [utf8EncodeChar_of_length_trailingBytes hleading hlength]
      exact ⟨rest, congrArg (List.cons byte) hrest⟩
    have hcontinue := isContinuation_of_mem_trailingBytes hleading bytes
    dsimp only
    rw [if_neg hshort]
    generalize trailingBytes low high count bytes = trailing at hrest hcontinue
    subst hrest
    exact ⟨trailing, rest, rfl, hcontinue, by rw [charactersFrom_length]⟩

end

end ClusterCapacity.Text
