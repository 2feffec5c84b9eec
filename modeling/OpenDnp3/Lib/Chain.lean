import Mathlib.Data.List.Nodup

/-!
# Chains of nodes

Nodes are numbers, a pointer is a node or null (`none`), and a pointer field is a function on
nodes.  A list of nodes is a chain of a field if the field leads from each node to the next one in
the list, and to null at its end.
-/

namespace OpenDnp3.Lib

universe u

/-! ## Assignments through pointers -/

section Pointers

variable {β : Type u}

/-- Assign to a field of the node that `p` points to; nothing happens if it is null. -/
def assign (field : Nat → β) (p : Option Nat) (b : β) : Nat → β :=
  fun a => if p = some a then b else field a

@[simp] theorem assign_self (field : Nat → β) (a : Nat) (b : β) :
    assign field (some a) b a = b := if_pos rfl

theorem assign_of_ne {field : Nat → β} {p : Option Nat} {b : β} {a : Nat} (h : p ≠ some a) :
    assign field p b a = field a := if_neg h

end Pointers

/-! ## Forwards -/

/-- Following `next` through the nodes of `xs` leads to the end of the list. -/
def Forward (next : Nat → Option Nat) : List Nat → Prop
  | [] => True
  | a :: as => next a = as.head? ∧ Forward next as

namespace Forward

variable {next next' : Nat → Option Nat} {xs ys : List Nat}

theorem congr (h : Forward next xs) (heq : ∀ a ∈ xs, next' a = next a) : Forward next' xs := by
  induction xs with
  | nil => trivial
  | cons a as ih =>
    refine ⟨(heq a List.mem_cons_self).trans h.1, ih h.2 ?_⟩
    exact fun b hb => heq b (List.mem_cons_of_mem a hb)

theorem of_append (h : Forward next (xs ++ ys)) : Forward next ys := by
  induction xs with
  | nil => exact h
  | cons a as ih => exact ih h.2

/-- An assignment to a node elsewhere changes nothing. -/
theorem assign (h : Forward next xs) {p b : Option Nat} (hp : ∀ a ∈ xs, p ≠ some a) :
    Forward (assign next p b) xs :=
  h.congr fun a ha => assign_of_ne (hp a ha)

/-- The node after `a` is the first one behind it. -/
theorem next_eq {a : Nat} (h : Forward next (xs ++ a :: ys)) : next a = ys.head? :=
  h.of_append.1

/-- Two steps from the first node. -/
theorem head?_bind (h : Forward next xs) : xs.head?.bind next = xs.tail.head? := by
  cases xs with
  | nil => rfl
  | cons a as => exact h.1

/-- Make the last node of a front part point to the first node of another part. -/
theorem join {rest : List Nat} (hfront : Forward next (xs ++ rest)) (hback : Forward next ys)
    (hnodup : (xs ++ ys).Nodup) : Forward (Lib.assign next xs.getLast? ys.head?) (xs ++ ys) := by
  induction xs with
  | nil => exact hback
  | cons a as ih =>
    rw [List.cons_append, List.nodup_cons] at hnodup
    cases as with
    | nil =>
      refine ⟨assign_self .., hback.assign ?_⟩
      rintro b hb ⟨⟩
      exact hnodup.1 hb
    | cons b bs =>
      -- the assignment is to a node further on
      refine ⟨?_, ih hfront.2 hnodup.2⟩
      rw [List.getLast?_cons_cons, assign_of_ne]
      · exact hfront.1
      · intro hlast
        exact hnodup.1 (List.mem_append_left _ (List.mem_of_getLast? hlast))

/-- Consecutive numbers, each pointing to the next. -/
theorem range' (start n : Nat)
    (hnext : ∀ a, start ≤ a → a < start + n →
      next a = if a + 1 < start + n then some (a + 1) else none) :
    Forward next (List.range' start n) := by
  induction n generalizing start with
  | zero => trivial
  | succ n ih =>
    rw [List.range'_succ]
    refine ⟨?_, ih (start + 1) ?_⟩
    · rw [hnext start (Nat.le_refl _) (by omega)]
      cases n with
      | zero => simp
      | succ n =>
        rw [List.range'_succ, if_pos (by omega)]
        rfl
    · intro a hle hlt
      rw [hnext a (by omega) (by omega)]
      have hiff : a + 1 < start + (n + 1) ↔ a + 1 < start + 1 + n := by omega
      simp only [hiff]

end Forward

/-! ## Backwards -/

/-- Each node but the first points back to the one before it; where the first one points is
    left open. -/
def Answers (prev : Nat → Option Nat) : List Nat → Prop
  | [] => True
  | a :: as => (∀ b ∈ as.head?, prev b = some a) ∧ Answers prev as

namespace Answers

variable {prev prev' : Nat → Option Nat} {xs : List Nat} {a : Nat}

theorem congr (h : Answers prev (a :: xs)) (heq : ∀ b ∈ xs, prev' b = prev b) :
    Answers prev' (a :: xs) := by
  induction xs generalizing a with
  | nil => exact ⟨fun b hb => absurd hb (by simp), trivial⟩
  | cons c cs ih =>
    refine ⟨?_, ih h.2 fun b hb => heq b (List.mem_cons_of_mem c hb)⟩
    rintro b ⟨⟩
    rw [heq c List.mem_cons_self]
    exact h.1 c rfl

/-- An assignment to a node elsewhere changes nothing. -/
theorem assign (h : Answers prev xs) {p b : Option Nat} (hp : ∀ a ∈ xs, p ≠ some a) :
    Answers (Lib.assign prev p b) xs := by
  cases xs with
  | nil => trivial
  | cons a as => exact h.congr fun c hc => assign_of_ne (hp c (List.mem_cons_of_mem a hc))

/-- Put a node in front, and let the old first one point to it. -/
theorem cons (h : Answers prev xs) (hnodup : xs.Nodup) (a : Nat) :
    Answers (Lib.assign prev xs.head? (some a)) (a :: xs) := by
  cases xs with
  | nil => exact ⟨fun b hb => absurd hb (by simp), trivial⟩
  | cons c cs =>
    refine ⟨?_, h.congr fun b hb => assign_of_ne ?_⟩
    · rintro b ⟨⟩
      exact assign_self ..
    · rintro ⟨⟩
      exact (List.nodup_cons.mp hnodup).1 hb

/-- Consecutive numbers, each pointing to the one before. -/
theorem range' (start n : Nat)
    (hprev : ∀ a, start ≤ a → a + 1 < start + n → prev (a + 1) = some a) :
    Answers prev (List.range' start n) := by
  induction n generalizing start with
  | zero => trivial
  | succ n ih =>
    rw [List.range'_succ]
    refine ⟨?_, ih (start + 1) fun a hle hlt => hprev a (by omega) (by omega)⟩
    intro b hb
    cases n with
    | zero => simp at hb
    | succ n =>
      rw [List.range'_succ] at hb
      cases hb
      exact hprev start (Nat.le_refl _) (by omega)

end Answers

end OpenDnp3.Lib
