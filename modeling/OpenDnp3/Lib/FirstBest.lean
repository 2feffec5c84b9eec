import Mathlib.Algebra.Order.Ring.Int
import Mathlib.Data.List.Basic

/-!
# The first of the best

A list is searched for an element with the least key by keeping the best one so far; a later
element takes its place only if it is strictly better.  What remains is the first of those with
the least key.
-/

namespace OpenDnp3.Lib

universe u v

variable {α : Type u} {β : Type v} [LinearOrder β] (key : α → β)

/-- Search the list, beginning with `first`. -/
def firstBest (first : α) (rest : List α) : α :=
  rest.foldl (fun best x => if key x < key best then x else best) first

/-- **First of the best**: those before it are worse, and those behind it are not better. -/
theorem firstBest_spec (first : α) (rest : List α) :
    ∃ before after, first :: rest = before ++ firstBest key first rest :: after ∧
      (∀ x ∈ before, key (firstBest key first rest) < key x) ∧
      ∀ x ∈ after, key (firstBest key first rest) ≤ key x := by
  induction rest generalizing first with
  | nil => exact ⟨[], [], rfl, nofun, nofun⟩
  | cons next rest ih =>
    by_cases hbetter : key next < key first
    · -- `first` is out: it is worse than `next`, and that is not better than the best
      have hstep : firstBest key first (next :: rest) = firstBest key next rest := by
        simp [firstBest, hbetter]
      rw [hstep]
      obtain ⟨before, after, hsplit, hbefore, hafter⟩ := ih next
      refine ⟨first :: before, after, by rw [hsplit]; rfl, ?_, hafter⟩
      intro x hx
      obtain rfl | hx := List.mem_cons.mp hx
      · refine lt_of_le_of_lt ?_ hbetter
        have hnext : next ∈ before ++ firstBest key next rest :: after := by
          rw [← hsplit]
          exact List.mem_cons_self
        obtain hmem | hmem := List.mem_append.mp hnext
        · exact le_of_lt (hbefore next hmem)
        · obtain heq | hmem := List.mem_cons.mp hmem
          · exact le_of_eq (congrArg key heq.symm)
          · exact hafter next hmem
      · exact hbefore x hx
    · -- `next` is out: it is not better than `first`
      have hstep : firstBest key first (next :: rest) = firstBest key first rest := by
        simp [firstBest, hbetter]
      rw [hstep]
      obtain ⟨before, after, hsplit, hbefore, hafter⟩ := ih first
      generalize firstBest key first rest = best at hsplit hbefore hafter ⊢
      cases before with
      | nil =>
        obtain ⟨rfl, rfl⟩ := List.cons.inj hsplit
        refine ⟨[], next :: rest, rfl, nofun, ?_⟩
        intro x hx
        obtain rfl | hx := List.mem_cons.mp hx
        · exact not_lt.mp hbetter
        · exact hafter x hx
      | cons head before =>
        obtain ⟨rfl, hrest⟩ := List.cons.inj hsplit
        refine ⟨first :: next :: before, after, by rw [hrest]; rfl, ?_, hafter⟩
        intro x hx
        obtain rfl | hx := List.mem_cons.mp hx
        · exact hbefore x List.mem_cons_self
        · obtain rfl | hx := List.mem_cons.mp hx
          · exact lt_of_lt_of_le (hbefore first List.mem_cons_self) (not_lt.mp hbetter)
          · exact hbefore x (List.mem_cons_of_mem _ hx)

end OpenDnp3.Lib
