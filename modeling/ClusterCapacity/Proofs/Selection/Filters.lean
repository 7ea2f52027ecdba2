import ClusterCapacity.Selection

/-!
# Filters and what they choose

At most one filter makes a choice (`Selector.exists_resolve`), and two exclude each other
(`Selector.resolve_of_two`).
-/

namespace ClusterCapacity.Selector

theorem resolve_of_two {filters : List Filter} (h : 2 ≤ filters.length) :
    resolve filters = .error .tooManyFilters := by
  match filters with
  | [] | [_] => exact absurd h (by simp)
  | _ :: _ :: _ => rfl

theorem exists_resolve {filters : List Filter} (h : filters.length < 2) :
    ∃ selector, resolve filters = .ok selector := by
  match filters with
  | [] => exact ⟨all, rfl⟩
  | [filter] => exact ⟨ofFilter filter, rfl⟩
  | _ :: _ :: _ => exact absurd h (by simp)

/-- A choice is one of all workers, or that of a filter. -/
theorem eq_all_or_ofFilter {filters : List Filter} {selector : Selector}
    (h : resolve filters = .ok selector) :
    selector = all ∨ ∃ filter, selector = ofFilter filter := by
  match filters with
  | [] =>
    cases h
    exact .inl rfl
  | [filter] =>
    cases h
    exact .inr ⟨filter, rfl⟩

end ClusterCapacity.Selector
