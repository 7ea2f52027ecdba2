import ClusterCapacity.Proofs.Text.Utf8
import ClusterCapacity.Proofs.Url.Percent
import ClusterCapacity.Url.Form
import Mathlib.Data.List.Basic
import Mathlib.Data.List.TakeWhile

/-!
# Form encoding can be undone

Pairs are read back from the query that they are encoded to (`decode?_encode`), whatever characters
they are made of.  Plus signs become spaces before bytes are decoded, and a plus sign that is meant
is a byte that is encoded, so the two are told apart (`percentDecode_spaced_encodeChar`); the signs
between the parts of a query occur in no part (`not_mem_encodeText`).
-/

namespace ClusterCapacity.Url.Form

/-! ### Names and values -/

/-- The text with spaces in the place of plus signs. -/
def spaced (text : List Char) : List Char := text.map (fun c => if c = '+' then ' ' else c)

theorem spaced_append (text rest : List Char) :
    spaced (text ++ rest) = spaced text ++ spaced rest :=
  List.map_append

theorem spaced_eq_self {text : List Char} (h : '+' ∉ text) : spaced text = text := by
  have hkept : ∀ c ∈ text, (if c = '+' then ' ' else c) = c := by
    intro c hc
    rw [if_neg]
    rintro rfl
    exact h hc
  exact (List.map_congr_left hkept).trans (List.map_id _)

/-- What is written for a character. -/
theorem mem_encodeChar {c written : Char} (h : written ∈ encodeChar c) :
    isPlain written = true ∨ written = '+' ∨ written = '%' := by
  rw [encodeChar] at h
  split at h
  case isTrue hplain =>
    rw [List.mem_singleton.mp h]
    exact .inl hplain
  case isFalse =>
    split at h
    case isTrue => exact .inr (.inl (List.mem_singleton.mp h))
    case isFalse =>
      obtain ⟨byte, -, hbyte⟩ := List.mem_flatMap.mp h
      rcases eq_percent_or_isAlphanum hbyte with hpercent | halphanum
      · exact .inr (.inr hpercent)
      · left
        simp only [isPlain, halphanum, Bool.true_or]

/-- What separates the parts of a query occurs in none of them. -/
theorem not_mem_encodeText {separator : Char} (hplain : isPlain separator = false)
    (hplus : separator ≠ '+') (hpercent : separator ≠ '%') (text : List Char) :
    separator ∉ encodeText text := by
  intro h
  obtain ⟨c, -, hc⟩ := List.mem_flatMap.mp h
  rcases mem_encodeChar hc with htrue | heq | heq
  · rw [hplain] at htrue
    exact Bool.false_ne_true htrue
  · exact hplus heq
  · exact hpercent heq

/-- What is written for a character is decoded to the bytes of the character. -/
theorem percentDecode_spaced_encodeChar (c : Char) (rest : List Char) :
    percentDecode (spaced (encodeChar c) ++ rest)
      = String.utf8EncodeChar c ++ percentDecode rest := by
  rw [encodeChar]
  split
  case isTrue hplain =>
    have hplus : c ≠ '+' := by
      rintro rfl
      exact absurd hplain (by decide)
    have hpercent : c ≠ '%' := by
      rintro rfl
      exact absurd hplain (by decide)
    have hkept : spaced [c] = [c] := spaced_eq_self fun h => hplus (List.mem_singleton.mp h).symm
    rw [hkept, List.singleton_append, percentDecode_cons hpercent]
  case isFalse hplain =>
    split
    case isTrue hspace =>
      subst hspace
      exact percentDecode_cons (by decide) rest
    case isFalse hspace =>
      -- a plus sign is no digit of an encoded byte
      have hplus : '+' ∉ percentChar c := by
        intro h
        obtain ⟨byte, -, hbyte⟩ := List.mem_flatMap.mp h
        rcases eq_percent_or_isAlphanum hbyte with heq | htrue
        · exact absurd heq (by decide)
        · exact absurd htrue (by decide)
      rw [spaced_eq_self hplus, percentChar, percentDecode_flatMap_percentByte]

theorem percentDecode_spaced_encodeText (text : List Char) :
    percentDecode (spaced (encodeText text)) = text.flatMap String.utf8EncodeChar := by
  induction text with
  | nil => rfl
  | cons c rest ih =>
    have hcons : encodeText (c :: rest) = encodeChar c ++ encodeText rest := List.flatMap_cons ..
    rw [hcons, spaced_append, percentDecode_spaced_encodeChar, ih, List.flatMap_cons]

/-- A name or value is read back. -/
theorem decodeText?_encodeText (text : List Char) : decodeText? (encodeText text) = some text := by
  have hbytes : (String.ofList text).toUTF8.toList = percentDecode (spaced (encodeText text)) := by
    rw [Utf8.toList_toUTF8, String.toList_ofList, percentDecode_spaced_encodeText]
  have hdecode : decodeText? (encodeText text) = (String.fromUTF8?
      (percentDecode (spaced (encodeText text))).toByteArray).map String.toList := rfl
  rw [hdecode, ← hbytes, Utf8.fromUTF8?_toUTF8, Option.map_some, String.toList_ofList]

/-! ### Pairs -/

theorem decodePair?_encodePair (pair : List Char × List Char) :
    decodePair? (encodePair pair) = some pair := by
  have hname : ∀ c ∈ encodeText pair.1, decide (c ≠ '=') = true := by
    intro c hc
    rw [decide_eq_true_eq]
    rintro rfl
    exact not_mem_encodeText (by decide) (by decide) (by decide) pair.1 hc
  have htake : (encodePair pair).takeWhile (· ≠ '=') = encodeText pair.1 := by
    rw [encodePair, List.takeWhile_append_of_pos hname]
    exact List.append_nil _
  have hdrop : ((encodePair pair).dropWhile (· ≠ '=')).drop 1 = encodeText pair.2 := by
    rw [encodePair, List.dropWhile_append_of_pos hname]
    rfl
  rw [decodePair?, htake, hdrop, decodeText?_encodeText, decodeText?_encodeText]
  rfl

theorem not_mem_encodePair (pair : List Char × List Char) : '&' ∉ encodePair pair := by
  have hpart (text : List Char) : '&' ∉ encodeText text :=
    not_mem_encodeText (by decide) (by decide) (by decide) text
  rw [encodePair, List.mem_append, List.mem_cons]
  rintro (h | h | h)
  · exact hpart _ h
  · exact absurd h (by decide)
  · exact hpart _ h

/-- The parts of a query that are not empty are the encoded pairs. -/
theorem filter_splitOn_encode (pairs : List (List Char × List Char)) :
    ((encode pairs).splitOn '&').filter (fun text => !text.isEmpty) = pairs.map encodePair := by
  cases pairs with
  | nil => rfl
  | cons pair rest =>
    have hseparated : ∀ text ∈ (pair :: rest).map encodePair, '&' ∉ text := by
      intro text htext
      obtain ⟨other, -, rfl⟩ := List.mem_map.mp htext
      exact not_mem_encodePair other
    rw [encode, List.splitOn_intercalate '&' hseparated (by simp), List.filter_eq_self]
    intro text htext
    obtain ⟨other, -, rfl⟩ := List.mem_map.mp htext
    simp [encodePair]

/-- Pairs are read back from their query. -/
theorem decode?_encode (pairs : List (List Char × List Char)) :
    decode? (encode pairs) = some pairs := by
  rw [decode?, filter_splitOn_encode]
  induction pairs with
  | nil => rfl
  | cons pair rest ih =>
    rw [List.map_cons, List.mapM_cons, decodePair?_encodePair, ih]
    rfl

theorem encode_inj {pairs others : List (List Char × List Char)}
    (h : encode pairs = encode others) : pairs = others := by
  have hdecode : some pairs = some others := by
    rw [← decode?_encode pairs, h, decode?_encode]
  exact Option.some.inj hdecode

end ClusterCapacity.Url.Form
