import Mathlib.Data.String.Basic
import Mathlib.Tactic.SplitIfs

/-!
# The bytes of a text

A text is got back from its bytes (`fromUTF8?_toUTF8`), and texts are in the same order as their
bytes (`toUTF8_lt_iff`).  The order rests on one character: the bytes of a smaller character are
smaller at the first place where they differ, whatever follows (`utf8EncodeChar_lt`).
-/

namespace ClusterCapacity.Utf8

/-! ### Arrays and lists of bytes -/

theorem toList_loop_eq (bytes : ByteArray) (i : Nat) (done : List UInt8) :
    ByteArray.toList.loop bytes i done = done.reverse ++ bytes.data.toList.drop i := by
  fun_induction ByteArray.toList.loop bytes i done with
  | case1 i done hlt ih =>
    have hi : i < bytes.data.toList.length := hlt
    have hget : bytes.get! i = bytes.data.toList[i] := by
      rw [ByteArray.get!, Array.getElem_toList]
      exact getElem!_pos bytes.data i hlt
    rw [ih, List.drop_eq_getElem_cons hi, hget,
      List.reverse_cons, List.append_assoc, List.singleton_append]
  | case2 i done hge =>
    have hlength : bytes.data.toList.length ≤ i := Nat.le_of_not_lt hge
    rw [List.drop_eq_nil_of_le hlength, List.append_nil]

theorem toList_eq_toList_data (bytes : ByteArray) : bytes.toList = bytes.data.toList := by
  rw [ByteArray.toList, toList_loop_eq, List.reverse_nil, List.nil_append, List.drop_zero]

theorem toByteArray_toList (bytes : ByteArray) : bytes.toList.toByteArray = bytes := by
  rw [toList_eq_toList_data]
  apply ByteArray.ext
  rw [List.data_toByteArray, Array.toArray_toList]

/-- A text is read back from its bytes. -/
theorem fromUTF8?_toUTF8 (text : String) :
    String.fromUTF8? text.toUTF8.toList.toByteArray = some text := by
  rw [toByteArray_toList]
  exact dif_pos text.isValidUTF8

/-- The bytes of a text are those of its characters. -/
theorem toList_toUTF8 (text : String) :
    text.toUTF8.toList = text.toList.flatMap String.utf8EncodeChar := by
  have hbytes : text.toUTF8 = text.toList.utf8Encode := by
    conv_lhs => rw [← String.ofList_toList (s := text)]
    exact String.toByteArray_ofList
  rw [hbytes, List.utf8Encode, toList_eq_toList_data, List.toList_data_toByteArray]

/-! ### The order of bytes -/

theorem ofNat_lt_ofNat_iff {a b : Nat} (ha : a < 256) (hb : b < 256) :
    UInt8.ofNat a < UInt8.ofNat b ↔ a < b := by
  rw [UInt8.lt_iff_toNat_lt, UInt8.toNat_ofNat', UInt8.toNat_ofNat', Nat.mod_eq_of_lt ha,
    Nat.mod_eq_of_lt hb]

theorem ofNat_eq_ofNat_iff {a b : Nat} (ha : a < 256) (hb : b < 256) :
    UInt8.ofNat a = UInt8.ofNat b ↔ a = b := by
  rw [← UInt8.toNat_inj, UInt8.toNat_ofNat', UInt8.toNat_ofNat', Nat.mod_eq_of_lt ha,
    Nat.mod_eq_of_lt hb]

theorem val_lt (c : Char) : c.val.toNat < 1114112 := by
  rcases c.valid with h | ⟨-, h⟩
  · exact Nat.lt_trans h (by decide)
  · exact h

/-- The bytes of a smaller character are smaller, whatever follows them. -/
theorem utf8EncodeChar_lt {c d : Char} (h : c < d) (bytes others : List UInt8) :
    String.utf8EncodeChar c ++ bytes < String.utf8EncodeChar d ++ others := by
  have hlt : c.val.toNat < d.val.toNat := h
  have hc := val_lt c
  have hd := val_lt d
  -- each byte holds six bits of the code point, after those in the bytes before it
  have hsix (n : Nat) : n / 4096 = n / 64 / 64 ∧ n / 262144 = n / 4096 / 64 := by omega
  have hsixc := hsix c.val.toNat
  have hsixd := hsix d.val.toNat
  have htop (n : Nat) (hn : n < 1114112) : n / 262144 % 8 = n / 262144 := by omega
  have htopc := htop _ hc
  have htopd := htop _ hd
  simp only [String.utf8EncodeChar]
  split_ifs <;>
    simp (disch := omega) only [List.cons_append, List.nil_append, List.cons_lt_cons_iff,
      ofNat_lt_ofNat_iff, ofNat_eq_ofNat_iff] <;>
    omega

theorem append_lt_append {bytes others : List UInt8} (shared : List UInt8) (h : bytes < others) :
    shared ++ bytes < shared ++ others := by
  induction shared with
  | nil => exact h
  | cons byte rest ih => exact List.cons_lt_cons_iff.mpr (.inr ⟨rfl, ih⟩)

theorem utf8EncodeChar_ne_nil (c : Char) : String.utf8EncodeChar c ≠ [] := by
  simp only [String.utf8EncodeChar]
  split_ifs <;> simp

theorem flatMap_utf8EncodeChar_lt {text other : List Char} (h : text < other) :
    text.flatMap String.utf8EncodeChar < other.flatMap String.utf8EncodeChar := by
  induction text generalizing other with
  | nil =>
    cases other with
    | nil => exact absurd h (List.lt_irrefl [])
    | cons d others =>
      rw [List.flatMap_nil, List.flatMap_cons]
      obtain ⟨byte, bytes, hbytes⟩ := List.exists_cons_of_ne_nil (utf8EncodeChar_ne_nil d)
      rw [hbytes]
      exact List.nil_lt_cons _ _
  | cons c rest ih =>
    cases other with
    | nil => exact absurd h (List.not_lt_nil _)
    | cons d others =>
      rw [List.flatMap_cons, List.flatMap_cons]
      rcases List.cons_lt_cons_iff.mp h with hlt | ⟨rfl, hrest⟩
      · exact utf8EncodeChar_lt hlt _ _
      · exact append_lt_append _ (ih hrest)

/-- Texts are in the order of their bytes. -/
theorem toUTF8_lt_iff {text other : String} :
    text.toUTF8.toList < other.toUTF8.toList ↔ text < other := by
  have hmono {a b : String} (h : a < b) : a.toUTF8.toList < b.toUTF8.toList := by
    rw [toList_toUTF8, toList_toUTF8]
    exact flatMap_utf8EncodeChar_lt (String.lt_iff_toList_lt.mp h)
  constructor
  · intro h
    -- equal or greater texts have equal or greater bytes
    rcases lt_trichotomy text other with hlt | rfl | hgt
    · exact hlt
    · exact absurd h (List.lt_irrefl _)
    · exact absurd h (List.lt_asymm (hmono hgt))
  · exact hmono

end ClusterCapacity.Utf8
