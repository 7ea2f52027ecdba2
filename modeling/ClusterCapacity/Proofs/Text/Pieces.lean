import Mathlib.Data.List.Basic

/-!
# Pieces of a split text

No piece of a text that has been split holds a character that the text was split at
(`eq_false_of_mem_splitOnP`).
-/

namespace ClusterCapacity.Text

theorem eq_false_of_mem_splitOnP {p : Char → Bool} {text piece : List Char}
    (h : piece ∈ text.splitOnP p) : ∀ c ∈ piece, p c = false := by
  induction text generalizing piece with
  | nil =>
    rw [List.splitOnP_nil, List.mem_singleton] at h
    rw [h]
    exact List.forall_mem_nil _
  | cons c rest ih =>
    rw [List.splitOnP_cons_eq_if_modifyHead] at h
    split at h
    · rcases List.mem_cons.mp h with rfl | hrest
      · exact List.forall_mem_nil _
      · exact ih hrest
    · rename_i hkept
      -- the character joins the first piece of the rest
      cases hpieces : rest.splitOnP p with
      | nil => exact absurd hpieces (List.splitOnP_ne_nil p rest)
      | cons first others =>
        rw [hpieces, List.modifyHead_cons] at h
        rcases List.mem_cons.mp h with rfl | hothers
        · have hfirst : ∀ c ∈ first, p c = false := ih (hpieces ▸ List.mem_cons_self)
          exact List.forall_mem_cons.mpr ⟨Bool.eq_false_iff.mpr hkept, hfirst⟩
        · exact ih (hpieces ▸ List.mem_cons_of_mem first hothers)

theorem not_mem_of_mem_splitOn {separator : Char} {text piece : List Char}
    (h : piece ∈ text.splitOn separator) : separator ∉ piece := by
  intro hmem
  have hfalse : (separator == separator) = false := eq_false_of_mem_splitOnP h separator hmem
  rw [beq_self_eq_true] at hfalse
  nomatch hfalse

end ClusterCapacity.Text
