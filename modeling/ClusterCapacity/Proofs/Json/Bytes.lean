import ClusterCapacity.Json.Bytes
import ClusterCapacity.Proofs.Text.Lossy

/-!
# JSON in bytes

Bytes are read as JSON after the characters that they hold.  The characters of a text are found
again in its bytes (`ofBytes_toUTF8`) and nothing else is found there (`ShownAs.eq_toList`).  Of any
bytes the characters are shown and, for every piece that is none, what no string that is read may
hold (`shownAs_ofBytes`).
-/

namespace ClusterCapacity.Json

/-- Whether characters show bytes: those that the bytes hold show themselves, and where none begins
a byte, with continuations after it at most, is shown as no character. -/
inductive ShownAs : List UInt8 → List Char → Prop where
  | nil : ShownAs [] []
  | char (c : Char) {bytes : List UInt8} {text : List Char} (h : ShownAs bytes text) :
    ShownAs (String.utf8EncodeChar c ++ bytes) (c :: text)
  | other {byte : UInt8} {skipped bytes : List UInt8} {text : List Char}
    (hother : ∀ c, ¬ String.utf8EncodeChar c <+: byte :: (skipped ++ bytes))
    (hskipped : ∀ byte ∈ skipped, Text.isContinuation byte = true) (h : ShownAs bytes text) :
    ShownAs (byte :: (skipped ++ bytes)) (noCharacter ++ text)

theorem shownAs_ofBytes (bytes : List UInt8) : ShownAs bytes (ofBytes bytes) := by
  unfold ofBytes
  -- a character or another piece is taken off, and what is left is shorter
  induction hlength : bytes.length using Nat.strong_induction_on generalizing bytes with
  | _ length ih =>
    cases bytes with
    | nil => exact .nil
    | cons byte bytes =>
      by_cases h : ∃ c, String.utf8EncodeChar c <+: byte :: bytes
      · obtain ⟨c, rest, hrest⟩ := h
        have hpos := List.length_pos_iff.mpr (Utf8.utf8EncodeChar_ne_nil c)
        have hlt : rest.length < length := by
          rw [← hlength, ← hrest, List.length_append]
          omega
        rw [← hrest, Text.charactersFrom_utf8EncodeChar]
        exact .char c (ih rest.length hlt rest rfl)
      · rw [not_exists] at h
        obtain ⟨skipped, rest, rfl, hskipped, hshown⟩ :=
          Text.charactersFrom_of_no_character noCharacter h
        have hlt : rest.length < length := by
          rw [← hlength, List.length_cons, List.length_append]
          omega
        rw [hshown]
        exact .other h hskipped (ih rest.length hlt rest rfl)

/-- The bytes of a text show the text. -/
theorem ofBytes_toUTF8 (text : String) : ofBytes text.toUTF8.toList = text.toList :=
  Text.charactersFrom_toUTF8 noCharacter text

/-- The bytes of a text show nothing but the text. -/
theorem ShownAs.eq_toList {text : String} {shown : List Char}
    (h : ShownAs text.toUTF8.toList shown) : shown = text.toList := by
  rw [Utf8.toList_toUTF8] at h
  generalize text.toList = characters at h
  induction characters generalizing shown with
  | nil =>
    rw [List.flatMap_nil] at h
    generalize hbytes : ([] : List UInt8) = bytes at h
    cases h with
    | nil => rfl
    | char c h =>
      exact absurd (List.append_eq_nil_iff.mp hbytes.symm).1 (Utf8.utf8EncodeChar_ne_nil c)
    | other => nomatch hbytes
  | cons c rest ih =>
    rw [List.flatMap_cons] at h
    generalize hbytes : String.utf8EncodeChar c ++ rest.flatMap String.utf8EncodeChar = bytes at h
    cases h with
    | nil => exact absurd (List.append_eq_nil_iff.mp hbytes).1 (Utf8.utf8EncodeChar_ne_nil c)
    | char d h =>
      obtain ⟨rfl, rfl⟩ := Text.utf8EncodeChar_append_inj hbytes
      rw [ih h]
    | other hother => exact absurd ⟨_, hbytes⟩ (hother c)

theorem decodeBytes?_toUTF8 {α : Type} (read : Reader α) (text : String) :
    decodeBytes? read text.toUTF8.toList = (decode read text).toOption := by
  rw [decodeBytes?, ofBytes_toUTF8, String.ofList_toList]

end ClusterCapacity.Json
