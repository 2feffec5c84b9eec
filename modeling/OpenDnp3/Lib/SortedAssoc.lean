import Mathlib.Data.List.Basic
import Mathlib.Data.List.Pairwise

/-!
# Association lists in key order

An ordered map is a list of pairs with strictly increasing keys.  The keys stay as they are;
`mapValues` changes the values.  The lemmas say what `List.lookup` finds afterwards.
-/

namespace OpenDnp3.Lib

universe u

variable {α : Type u}

/-- The keys are strictly increasing. -/
def KeySorted (l : List (Nat × α)) : Prop := l.Pairwise fun p q => p.1 < q.1

/-- Change every value, given its key. -/
def mapValues (f : Nat → α → α) (l : List (Nat × α)) : List (Nat × α) :=
  l.map fun p => (p.1, f p.1 p.2)

variable {l : List (Nat × α)} {k : Nat}

variable {q : Nat × α} {a : α}

theorem mem_mapValues {f : Nat → α → α} : q ∈ mapValues f l ↔ ∃ p ∈ l, q = (p.1, f p.1 p.2) := by
  simp only [mapValues, List.mem_map, eq_comm]

theorem keySorted_mapValues (h : KeySorted l) (f : Nat → α → α) :
    KeySorted (mapValues f l) := by
  rw [KeySorted, mapValues, List.pairwise_map]
  exact h

theorem lookup_mapValues (f : Nat → α → α) (l : List (Nat × α)) (k : Nat) :
    (mapValues f l).lookup k = (l.lookup k).map (f k) := by
  induction l with
  | nil => rfl
  | cons p rest ih =>
    obtain ⟨i, a⟩ := p
    simp only [mapValues, List.map_cons, List.lookup_cons] at ih ⊢
    by_cases hk : k = i
    · subst hk
      simp
    · have hbeq : (k == i) = false := beq_eq_false_iff_ne.mpr hk
      simp only [hbeq]
      exact ih

theorem mem_of_lookup (h : l.lookup k = some a) : (k, a) ∈ l := by
  induction l with
  | nil => cases h
  | cons p rest ih =>
    obtain ⟨i, b⟩ := p
    rw [List.lookup_cons] at h
    by_cases hk : k = i
    · subst hk
      simp only [beq_self_eq_true, Option.some.injEq] at h
      exact h ▸ List.mem_cons_self
    · have hbeq : (k == i) = false := beq_eq_false_iff_ne.mpr hk
      simp only [hbeq] at h
      exact List.mem_cons_of_mem _ (ih h)

/-- In key order a pair of the list is what its key finds. -/
theorem KeySorted.lookup_of_mem (hsorted : KeySorted l) (h : (k, a) ∈ l) : l.lookup k = some a := by
  induction l with
  | nil => cases h
  | cons p rest ih =>
    obtain ⟨hfirst, hrest⟩ := List.pairwise_cons.mp hsorted
    rw [List.lookup_cons]
    rcases List.mem_cons.mp h with heq | hmem
    · subst heq
      simp
    · have hbeq : (k == p.1) = false := beq_eq_false_iff_ne.mpr (Nat.ne_of_gt (hfirst _ hmem))
      simp only [hbeq]
      exact ih hrest hmem

theorem KeySorted.mem_iff_lookup (hsorted : KeySorted l) : (k, a) ∈ l ↔ l.lookup k = some a :=
  ⟨hsorted.lookup_of_mem, mem_of_lookup⟩

/-- The first pair from a key on is that key's own, if the list has it. -/
theorem KeySorted.find?_ge (hsorted : KeySorted l) (h : (k, a) ∈ l) :
    l.find? (fun p => decide (k ≤ p.1)) = some (k, a) := by
  induction l with
  | nil => cases h
  | cons p rest ih =>
    obtain ⟨hfirst, hrest⟩ := List.pairwise_cons.mp hsorted
    rcases List.mem_cons.mp h with heq | hmem
    · subst heq
      simp
    · have hlt : ¬ k ≤ p.1 := Nat.not_le.mpr (hfirst _ hmem)
      rw [List.find?_cons_of_neg (by simpa using hlt)]
      exact ih hrest hmem

/-- The first pair with a property has the smallest key among those that have it. -/
theorem KeySorted.find?_le (hsorted : KeySorted l) {P : Nat × α → Bool} {first : Nat × α}
    (hfind : l.find? P = some first) (hq : q ∈ l) (hPq : P q = true) : first.1 ≤ q.1 := by
  induction l with
  | nil => cases hq
  | cons p rest ih =>
    obtain ⟨hfirst, hrest⟩ := List.pairwise_cons.mp hsorted
    by_cases hp : P p = true
    · rw [List.find?_cons_of_pos hp, Option.some.injEq] at hfind
      subst hfind
      rcases List.mem_cons.mp hq with rfl | hmem
      · exact Nat.le_refl _
      · exact Nat.le_of_lt (hfirst q hmem)
    · rw [List.find?_cons_of_neg hp] at hfind
      rcases List.mem_cons.mp hq with rfl | hmem
      · exact absurd hPq hp
      · exact ih hrest hfind hmem

theorem mapValues_eq_self {f : Nat → α → α} (h : ∀ p ∈ l, f p.1 p.2 = p.2) : mapValues f l = l := by
  induction l with
  | nil => rfl
  | cons p rest ih =>
    have hfirst : f p.1 p.2 = p.2 := h p List.mem_cons_self
    have hrest := ih fun q hq => h q (List.mem_cons_of_mem p hq)
    simp only [mapValues, List.map_cons, hfirst] at hrest ⊢
    rw [hrest]

/-- Changing the value of one key so that its pair loses a property takes one from the
    number of pairs that have it. -/
theorem KeySorted.countP_mapValues (hsorted : KeySorted l) {P : Nat × α → Bool} {f : α → α}
    (hmem : (k, a) ∈ l) (hbefore : P (k, a) = true) (hafter : P (k, f a) = false) :
    (mapValues (fun i c => if i = k then f c else c) l).countP P + 1 = l.countP P := by
  induction l with
  | nil => cases hmem
  | cons p rest ih =>
    obtain ⟨hfirst, hrest⟩ := List.pairwise_cons.mp hsorted
    simp only [mapValues, List.map_cons]
    rcases List.mem_cons.mp hmem with heq | hin
    · -- the later keys are larger and keep their values
      subst heq
      have hsame := mapValues_eq_self (f := fun i c => if i = k then f c else c) (l := rest)
        fun q hq => if_neg (Nat.ne_of_gt (hfirst q hq))
      rw [mapValues] at hsame
      rw [hsame, List.countP_cons_of_pos hbefore, if_pos rfl,
        List.countP_cons_of_neg (by rw [hafter]; exact Bool.false_ne_true)]
    · have hne : p.1 ≠ k := Nat.ne_of_lt (hfirst _ hin)
      have hrec := ih hrest hin
      rw [mapValues] at hrec
      rw [if_neg hne]
      show (p :: _).countP P + 1 = _
      rw [List.countP_cons, List.countP_cons, ← hrec]
      omega

/-- In key order the pairs up to a key are the first ones. -/
theorem KeySorted.takeWhile_le (hsorted : KeySorted l) (k : Nat) :
    (l.takeWhile fun p => p.1 ≤ k) = l.filter fun p => p.1 ≤ k := by
  induction l with
  | nil => rfl
  | cons p rest ih =>
    obtain ⟨hfirst, hrest⟩ := List.pairwise_cons.mp hsorted
    by_cases hp : p.1 ≤ k
    · simp [hp, ih hrest]
    · -- from here on all keys are larger than `k`
      have hnil : (p :: rest).filter (fun p => p.1 ≤ k) = [] := by
        rw [List.filter_eq_nil_iff]
        intro q hq
        rcases List.mem_cons.mp hq with rfl | hmem
        · simpa using hp
        · have hlt := hfirst q hmem
          simp only [decide_eq_true_eq]
          omega
      rw [hnil, List.takeWhile_cons_of_neg (by simpa using hp)]

/-- The first pair has the smallest key. -/
theorem KeySorted.head_le (hsorted : KeySorted l) (hne : l ≠ []) :
    ∀ q ∈ l, (l.head hne).1 ≤ q.1 := by
  intro q hq
  cases l with
  | nil => cases hq
  | cons p rest =>
    rcases List.mem_cons.mp hq with rfl | hmem
    · exact Nat.le_refl _
    · exact Nat.le_of_lt ((List.pairwise_cons.mp hsorted).1 q hmem)

/-- The last pair has the largest key. -/
theorem KeySorted.le_getLast (hsorted : KeySorted l) (hne : l ≠ []) :
    ∀ q ∈ l, q.1 ≤ (l.getLast hne).1 := by
  induction l with
  | nil => exact absurd rfl hne
  | cons p rest ih =>
    obtain ⟨hfirst, hrest⟩ := List.pairwise_cons.mp hsorted
    intro q hq
    by_cases hnil : rest = []
    · subst hnil
      rw [List.mem_singleton.mp hq]
      exact Nat.le_refl _
    · rw [List.getLast_cons hnil]
      rcases List.mem_cons.mp hq with rfl | hmem
      · exact Nat.le_of_lt (hfirst _ (List.getLast_mem hnil))
      · exact ih hrest hnil q hmem

/-- Set the value of one key. -/
def insertKey (k : Nat) (a : α) : List (Nat × α) → List (Nat × α)
  | [] => [(k, a)]
  | p :: rest =>
    if k < p.1 then (k, a) :: p :: rest
    else if k = p.1 then (k, a) :: rest
    else p :: insertKey k a rest

theorem KeySorted.mem_insertKey (hsorted : KeySorted l) :
    q ∈ insertKey k a l ↔ q = (k, a) ∨ q ∈ l ∧ q.1 ≠ k := by
  induction l with
  | nil => simp [insertKey]
  | cons p rest ih =>
    obtain ⟨hfirst, hrest⟩ := List.pairwise_cons.mp hsorted
    -- no key behind one that is not smaller can be equal
    have hlater : ∀ r ∈ rest, k ≤ p.1 → r.1 ≠ k := fun r hr hle =>
      Nat.ne_of_gt (Nat.lt_of_le_of_lt hle (hfirst r hr))
    unfold insertKey
    split
    · rename_i hlt
      have hother : q ∈ p :: rest → q.1 ≠ k := by
        intro hq
        rcases List.mem_cons.mp hq with rfl | hmem
        · exact Nat.ne_of_gt hlt
        · exact hlater q hmem (Nat.le_of_lt hlt)
      rw [List.mem_cons, and_iff_left_of_imp hother]
    · split
      · rename_i heq
        have hother : q ∈ rest → q.1 ≠ k := fun hq => hlater q hq (Nat.le_of_eq heq)
        rw [List.mem_cons, List.mem_cons, or_and_right, and_iff_left_of_imp hother]
        have hp : ¬ (q = p ∧ q.1 ≠ k) := fun h => h.2 (h.1 ▸ heq.symm)
        rw [or_iff_right hp]
      · rename_i hnlt hne
        rw [List.mem_cons, ih hrest, List.mem_cons, or_and_right]
        have hp : q = p → q.1 ≠ k := fun h => h ▸ Ne.symm hne
        rw [and_iff_left_of_imp hp, or_left_comm]

theorem keySorted_insertKey (hsorted : KeySorted l) (k : Nat) (a : α) :
    KeySorted (insertKey k a l) := by
  induction l with
  | nil => exact List.pairwise_singleton ..
  | cons p rest ih =>
    obtain ⟨hfirst, hrest⟩ := List.pairwise_cons.mp hsorted
    unfold insertKey
    split
    · rename_i hlt
      refine List.pairwise_cons.mpr ⟨?_, hsorted⟩
      intro q hq
      rcases List.mem_cons.mp hq with rfl | hmem
      · exact hlt
      · exact Nat.lt_trans hlt (hfirst q hmem)
    · split
      · rename_i heq
        exact List.pairwise_cons.mpr ⟨fun q hq => heq ▸ hfirst q hq, hrest⟩
      · rename_i hnlt hne
        refine List.pairwise_cons.mpr ⟨?_, ih hrest⟩
        intro q hq
        rcases (KeySorted.mem_insertKey hrest).mp hq with rfl | hmem
        · exact Nat.lt_of_le_of_ne (Nat.le_of_not_lt hnlt) (Ne.symm hne)
        · exact hfirst q hmem.1

end OpenDnp3.Lib
