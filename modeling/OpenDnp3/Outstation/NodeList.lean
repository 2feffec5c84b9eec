import OpenDnp3.Lib.Chain
import OpenDnp3.Lib.Machine

/-!
# The linked list behind the event buffer

All nodes of a `List` are allocated once.  The nodes in use form a doubly linked list from `head`
to `tail`; the others form a chain from `free`.  Adding takes a node from the free chain, removing
gives it back.
-/

namespace OpenDnp3.Outstation

open Lib

universe u

/-! ## The code -/

/-- `List`; a node is its place in `underlying`, and each member of `Node` is a field here. -/
structure NodeList (α : Type u) where
  capacity : Nat
  head : Option Nat
  tail : Option Nat
  free : Option Nat
  prev : Nat → Option Nat
  next : Nat → Option Nat
  value : Nat → α
  length : Nat

namespace NodeList

variable {α : Type u}

/-- `List::Link`. -/
def link (l : NodeList α) (first second : Option Nat) : NodeList α :=
  { l with
    next := assign l.next first second
    prev := assign l.prev second first }

/-- `List::List` and `List::Initialize`: all nodes are free, and each is linked to the next. -/
def ofCapacity [Inhabited α] (capacity : Nat) : NodeList α :=
  let empty : NodeList α :=
    { capacity
      head := none
      tail := none
      free := if capacity = 0 then none else some 0
      prev := fun _ => none
      next := fun _ => none
      value := fun _ => default
      length := 0 }
  (List.range' 1 (capacity - 1)).foldl (fun l i => l.link (some (i - 1)) (some i)) empty

/-- `List::Insert` once there is a free node. -/
def place (l : NodeList α) (node : Nat) (value : α) (left right : Option Nat) : NodeList α :=
  let l := { l with
    free := l.next node
    value := assign l.value (some node) value
    length := l.length + 1 }
  let l := (l.link left (some node)).link (some node) right
  { l with
    head := if left = none then some node else l.head
    tail := if right = none then some node else l.tail }

/-- `List::Insert`: the new node, or null if none is free. -/
def insert (l : NodeList α) (value : α) (left right : Option Nat) : Option (Nat × NodeList α) :=
  l.free.map fun node => (node, l.place node value left right)

/-- `List::Add`. -/
def add (l : NodeList α) (value : α) : Option (Nat × NodeList α) := l.insert value l.tail none

/-- `List::Remove`. -/
def remove (l : NodeList α) (node : Nat) : NodeList α :=
  let l := { l with
    head := if some node = l.head then l.next node else l.head
    tail := if some node = l.tail then l.tail.bind l.prev else l.tail }
  -- attach the adjacent nodes to each other
  let l := l.link (l.prev node) (l.next node)
  -- the node becomes the head of the free list
  let l := { l with prev := assign l.prev (some node) none }
  let l := l.link (some node) l.free
  { l with
    free := some node
    length := l.length - 1 }

/-- The values on the way of an iterator; nothing if it has not ended with this fuel. -/
def iterate (l : NodeList α) : Nat → Option Nat → Option (List α)
  | _, none => some []
  | 0, some _ => none
  | fuel + 1, some node => (l.iterate fuel (l.next node)).map (l.value node :: ·)

/-- The loop of `List::RemoveAll`.  The iterator is ahead of the current node, and moves on before
    the node is removed. -/
def removeAllFrom (found : α → Bool) :
    Nat → Option Nat → Option Nat → NodeList α → Nat → Option (NodeList α × Nat)
  | _, none, _, l, count => some (l, count)
  | 0, some _, _, _, _ => none
  | fuel + 1, some current, iter, l, count =>
    if found (l.value current) then
      removeAllFrom found fuel iter (iter.bind l.next) (l.remove current) (count + 1)
    else
      removeAllFrom found fuel iter (iter.bind l.next) l count

/-- `List::RemoveAll`, with the number of nodes that were removed. -/
def removeAll (l : NodeList α) (fuel : Nat) (found : α → Bool) : Option (NodeList α × Nat) :=
  removeAllFrom found fuel l.head (l.head.bind l.next) l 0

/-! ## The two chains -/

/-- **The nodes in use and the free ones**: `used` is linked forwards and backwards from null to
    null, `frees` forwards to null and backwards to its first node, and every node of the array is
    in one of them, once. -/
structure Chains (l : NodeList α) (used frees : List Nat) : Prop where
  head : l.head = used.head?
  tail : l.tail = used.getLast?
  next : Forward l.next used
  prev : Forward l.prev used.reverse
  free : l.free = frees.head?
  freeNext : Forward l.next frees
  freePrev : Answers l.prev frees
  length : l.length = used.length
  partition : (used ++ frees).Perm (List.range l.capacity)

namespace Chains

variable {l : NodeList α} {used frees : List Nat}

theorem nodup (h : l.Chains used frees) : (used ++ frees).Nodup :=
  h.partition.nodup_iff.mpr List.nodup_range

theorem disjoint (h : l.Chains used frees) {a : Nat} (hused : a ∈ used) : a ∉ frees :=
  fun hfree => (List.nodup_append.mp h.nodup).2.2 a hused a hfree rfl

theorem length_add (h : l.Chains used frees) : used.length + frees.length = l.capacity := by
  have hlength := h.partition.length_eq
  rw [List.length_append, List.length_range] at hlength
  exact hlength

/-- The chain ends where the fuel does, or before. -/
theorem iterate_eq (h : l.Chains used frees) {fuel : Nat} (hfuel : used.length ≤ fuel) :
    l.iterate fuel l.head = some (used.map l.value) := by
  rw [h.head]
  have hnext := h.next
  clear h
  induction used generalizing fuel with
  | nil => cases fuel <;> rfl
  | cons a as ih =>
    cases fuel with
    | zero => cases hfuel
    | succ fuel =>
      rw [List.head?_cons, iterate, hnext.1, ih (Nat.le_of_succ_le_succ hfuel) hnext.2]
      rfl

/-- A node is free as long as the capacity is not used up. -/
theorem add_eq_none_iff (h : l.Chains used frees) (value : α) :
    l.add value = none ↔ l.length = l.capacity := by
  have hlength := h.length_add
  rw [add, insert, Option.map_eq_none_iff, h.free, List.head?_eq_none_iff, h.length]
  constructor
  · rintro rfl
    simpa using hlength
  · intro hfull
    apply List.eq_nil_of_length_eq_zero
    omega

/-! ### Adding -/

variable {node : Nat} {front back : List Nat}

/-- The forward chain after a new node has been placed at the end. -/
theorem next_place (h : l.Chains used (node :: frees)) (value : α) :
    Forward (l.place node value l.tail none).next (used ++ [node]) := by
  have hnew : node ∉ used := fun hmem => h.disjoint hmem List.mem_cons_self
  have hnodup : (used ++ [node]).Nodup := by
    have hall := h.nodup
    rw [List.append_cons] at hall
    exact (List.nodup_append.mp hall).1
  have hend : Forward (assign l.next (some node) none) used := by
    apply h.next.assign
    rintro a ha ⟨⟩
    exact hnew ha
  have halone : Forward (assign l.next (some node) none) [node] := ⟨assign_self .., trivial⟩
  rw [← List.append_nil used] at hend
  have hjoin := Forward.join hend halone hnodup
  -- the two assignments are to different nodes, so their order does not matter
  refine hjoin.congr fun a _ => ?_
  change assign (assign l.next l.tail (some node)) (some node) none a =
    assign (assign l.next (some node) none) used.getLast? (some node) a
  rw [h.tail]
  by_cases ha : some node = some a
  · cases ha
    rw [assign_self, assign_of_ne, assign_self]
    exact fun hlast => hnew (List.mem_of_getLast? hlast)
  · rw [assign_of_ne ha]
    by_cases hlast : used.getLast? = some a
    · rw [hlast, assign_self, assign_self]
    · rw [assign_of_ne hlast, assign_of_ne hlast, assign_of_ne ha]

theorem prev_place (h : l.Chains used (node :: frees)) (value : α) :
    Forward (l.place node value l.tail none).prev (used ++ [node]).reverse := by
  change Forward (assign l.prev (some node) l.tail) _
  rw [List.reverse_append, List.reverse_singleton, List.singleton_append, h.tail]
  refine ⟨?_, ?_⟩
  · rw [assign_self, List.head?_reverse]
  · apply h.prev.assign
    rintro a ha ⟨⟩
    exact h.disjoint (List.mem_reverse.mp ha) List.mem_cons_self

/-- **Adding** moves the first free node to the end of the list. -/
theorem add (h : l.Chains used (node :: frees)) (value : α) :
    l.add value = some (node, l.place node value l.tail none) ∧
      (l.place node value l.tail none).Chains (used ++ [node]) frees := by
  have hnode : ∀ a ∈ frees, some node ≠ some a := by
    rintro a ha ⟨⟩
    exact (List.nodup_cons.mp (List.nodup_append.mp h.nodup).2.1).1 ha
  have htail : ∀ a ∈ frees, l.tail ≠ some a := by
    intro a ha hlast
    rw [h.tail] at hlast
    exact h.disjoint (List.mem_of_getLast? hlast) (List.mem_cons_of_mem node ha)
  refine ⟨?_, ?_, ?_, h.next_place value, h.prev_place value, h.freeNext.1, ?_, ?_, ?_, ?_⟩
  · rw [NodeList.add, insert, h.free]
    rfl
  · -- the first node of all becomes the head
    change (if l.tail = none then some node else l.head) = _
    rw [h.tail, h.head]
    cases used <;> simp
  · change some node = _
    rw [List.getLast?_concat]
  · exact (h.freeNext.2.assign htail).assign hnode
  · exact h.freePrev.2.assign hnode
  · change l.length + 1 = _
    rw [h.length, List.length_append, List.length_singleton]
  · rw [← List.append_cons]
    exact h.partition

/-! ### Removing -/

/-- What the pointers of a node in the middle say. -/
theorem neighbours (h : l.Chains (front ++ node :: back) frees) :
    l.prev node = front.getLast? ∧ l.next node = back.head? := by
  have hback := h.prev
  rw [List.reverse_append, List.reverse_cons, List.append_assoc, List.singleton_append] at hback
  rw [hback.next_eq, List.head?_reverse]
  exact ⟨rfl, h.next.next_eq⟩

/-- The pointers that `remove` assigns to do not touch the others. -/
theorem prev_remove (h : l.Chains (front ++ node :: back) frees) (hothers : (front ++ back).Nodup)
    (hnode : ∀ a ∈ front ++ back, some node ≠ some a) (hdisjoint : ∀ a ∈ front ++ back, a ∉ frees) :
    Forward (l.remove node).prev (front ++ back).reverse := by
  have hback := h.prev
  rw [List.reverse_append, List.reverse_cons, List.append_assoc, List.singleton_append] at hback
  have hothers' : (back.reverse ++ front.reverse).Nodup := by
    rw [← List.reverse_append, List.nodup_reverse]
    exact hothers
  have hjoin := Forward.join hback hback.of_append.2 hothers'
  rw [List.getLast?_reverse, List.head?_reverse] at hjoin
  change Forward (assign (assign (assign l.prev (l.next node) (l.prev node)) (some node) none)
    l.free (some node)) _
  rw [h.neighbours.1, h.neighbours.2, List.reverse_append]
  refine (hjoin.assign ?_).assign ?_
  · intro a ha
    rw [← List.reverse_append, List.mem_reverse] at ha
    exact hnode a ha
  · intro a ha hfirst
    rw [← List.reverse_append, List.mem_reverse] at ha
    rw [h.free] at hfirst
    exact hdisjoint a ha (List.mem_of_mem_head? hfirst)

/-- **Removing** takes one node out, leaves the others in their order, and puts it in front of the
    free ones. -/
theorem remove (h : l.Chains (front ++ node :: back) frees) :
    (l.remove node).Chains (front ++ back) (node :: frees) := by
  obtain ⟨hused, hfrees, -⟩ := List.nodup_append.mp h.nodup
  have hothers : (front ++ back).Nodup := (List.nodup_middle.mp hused).of_cons
  have hnode : ∀ a ∈ front ++ back, some node ≠ some a := by
    rintro a ha ⟨⟩
    exact (List.nodup_middle.mp hused).notMem ha
  have hdisjoint : ∀ a ∈ front ++ back, a ∉ frees := by
    intro a ha
    apply h.disjoint
    rw [List.mem_append, List.mem_cons]
    exact (List.mem_append.mp ha).imp_right Or.inr
  have hnodeFree : ∀ a ∈ frees, some node ≠ some a := by
    rintro a ha ⟨⟩
    exact h.disjoint (List.mem_append_right _ List.mem_cons_self) ha
  obtain ⟨hprev, hnext⟩ := h.neighbours
  refine ⟨?_, ?_, ?_, h.prev_remove hothers hnode hdisjoint, rfl, ⟨?_, ?_⟩, ?_, ?_, ?_⟩
  · -- the head moves on if it was this node
    change (if some node = l.head then l.next node else l.head) = _
    rw [h.head, hnext]
    cases front with
    | nil => simp
    | cons a as =>
      exact if_neg (hnode a (List.mem_append_left _ List.mem_cons_self))
  · -- the tail moves back if it was this node
    change (if some node = l.tail then l.tail.bind l.prev else l.tail) = _
    rw [h.tail, List.getLast?_append, List.getLast?_append, List.getLast?_cons]
    cases hlast : back.getLast? with
    | none => simp [hprev]
    | some a => exact if_neg (hnode a (List.mem_append_right _ (List.mem_of_getLast? hlast)))
  · change Forward (assign (assign l.next (l.prev node) (l.next node)) (some node) l.free) _
    rw [hprev, hnext]
    exact (Forward.join h.next h.next.of_append.2 hothers).assign hnode
  · change assign (assign l.next (l.prev node) (l.next node)) (some node) l.free node = _
    rw [assign_self, h.free]
  · refine (h.freeNext.assign ?_).assign hnodeFree
    intro a ha hlast
    rw [hprev] at hlast
    exact hdisjoint a (List.mem_append_left _ (List.mem_of_getLast? hlast)) ha
  · change Answers (assign (assign (assign l.prev (l.next node) (l.prev node)) (some node) none)
      l.free (some node)) (node :: frees)
    rw [h.free]
    refine Answers.cons ((h.freePrev.assign ?_).assign hnodeFree) hfrees node
    intro a ha hfirst
    rw [hnext] at hfirst
    exact hdisjoint a (List.mem_append_right _ (List.mem_of_mem_head? hfirst)) ha
  · change l.length - 1 = _
    rw [h.length]
    simp only [List.length_append, List.length_cons]
    omega
  · have hperm : (front ++ back ++ node :: frees).Perm (front ++ node :: back ++ frees) := by
      rw [List.append_assoc, List.append_assoc, List.cons_append]
      exact List.Perm.append_left front List.perm_middle
    exact hperm.trans h.partition

end Chains

/-! ### A new list -/

section New

variable [Inhabited α]

omit [Inhabited α] in
/-- After linking the first `n + 1` nodes, they point to each other. -/
theorem foldl_link (l : NodeList α) (n : Nat) :
    let l' := (List.range' 1 n).foldl (fun l i => l.link (some (i - 1)) (some i)) l
    (∀ a, l'.next a = if a < n then some (a + 1) else l.next a) ∧
      ∀ a < n, l'.prev (a + 1) = some a := by
  induction n with
  | zero => exact ⟨fun a => rfl, fun a ha => absurd ha (Nat.not_lt_zero a)⟩
  | succ n ih =>
    obtain ⟨hnext, hprev⟩ := ih
    rw [List.range'_1_concat, List.foldl_append]
    refine ⟨fun a => ?_, fun a ha => ?_⟩
    -- the last link of the loop, and the ones before it
    · change assign _ (some (1 + n - 1)) (some (1 + n)) a = _
      rw [Nat.add_sub_cancel_left]
      by_cases hlast : n = a
      · subst hlast
        rw [assign_self, if_pos (Nat.lt_succ_self n), Nat.add_comm]
      · rw [assign_of_ne fun heq => hlast (Option.some.inj heq), hnext]
        have hiff : a < n ↔ a < n + 1 := by omega
        simp only [hiff]
    · change assign _ (some (1 + n)) (some (1 + n - 1)) (a + 1) = _
      rw [Nat.add_sub_cancel_left]
      by_cases hlast : n = a
      · subst hlast
        rw [Nat.add_comm 1 n, assign_self]
      · rw [assign_of_ne, hprev a (by omega)]
        intro heq
        have hnumber := Option.some.inj heq
        omega

omit [Inhabited α] in
theorem foldl_link_fields (is : List Nat) (l : NodeList α) :
    let l' := is.foldl (fun l i => l.link (some (i - 1)) (some i)) l
    l'.capacity = l.capacity ∧ l'.head = l.head ∧ l'.tail = l.tail ∧ l'.free = l.free ∧
      l'.length = l.length := by
  induction is generalizing l with
  | nil => exact ⟨rfl, rfl, rfl, rfl, rfl⟩
  | cons i is ih => exact ih (l.link (some (i - 1)) (some i))

/-- **A new list** has no node in use. -/
theorem chains_ofCapacity (capacity : Nat) :
    (ofCapacity capacity : NodeList α).Chains [] (List.range capacity) := by
  obtain ⟨hnext, hprev⟩ := foldl_link (α := α) _ (capacity - 1)
  obtain ⟨hcapacity, hhead, htail, hfree, hlength⟩ :=
    foldl_link_fields (α := α) (List.range' 1 (capacity - 1)) _
  refine ⟨hhead, htail, trivial, trivial, hfree.trans ?_, ?_, ?_, hlength, ?_⟩
  · cases capacity with
    | zero => rfl
    | succ n =>
      rw [List.range_eq_range', List.range'_succ]
      rfl
  · rw [List.range_eq_range']
    apply Forward.range'
    intro a _ ha
    refine (hnext a).trans ?_
    have hiff : a < capacity - 1 ↔ a + 1 < 0 + capacity := by omega
    simp only [hiff]
  · rw [List.range_eq_range']
    apply Answers.range'
    intro a _ ha
    exact hprev a (by omega)
  · rw [List.nil_append, ofCapacity, hcapacity]

end New

end NodeList

/-! ## The sequence -/

variable {α : Type u}

/-- The list beside the sequence it stands for: the nodes that were handed out and not removed,
    in the order in which they were, each with the value that was put into it. -/
structure TrackedList (α : Type u) where
  list : NodeList α
  entries : List (Nat × α)

/-- The operations of the list that change it. -/
inductive ListCall (α : Type u)
  | add (value : α)
  | remove (node : Nat)
  | removeAll (found : α → Bool)

namespace TrackedList

def start [Inhabited α] (capacity : Nat) : TrackedList α := ⟨.ofCapacity capacity, []⟩

/-- An operation, on the list as the code has it and on the sequence as it should be. -/
def step (s : TrackedList α) : ListCall α → TrackedList α
  | .add value =>
    match s.list.add value with
    | none => s
    | some (node, list) => ⟨list, s.entries ++ [(node, value)]⟩
  | .remove node => ⟨s.list.remove node, s.entries.filter (·.1 ≠ node)⟩
  | .removeAll found =>
    match s.list.removeAll s.list.capacity found with
    | none => s
    | some (list, _) => ⟨list, s.entries.filter fun e => !found e.2⟩

/-- Only a node in use is removed. -/
def Live (s : TrackedList α) (call : ListCall α) : Prop :=
  ∀ node, call = .remove node → node ∈ s.entries.map Prod.fst

/-- **The list is the sequence**: its chains are those of the entries, with their values. -/
structure Refines (s : TrackedList α) (frees : List Nat) : Prop where
  chains : s.list.Chains (s.entries.map Prod.fst) frees
  values : ∀ e ∈ s.entries, s.list.value e.1 = e.2

variable {s : TrackedList α} {frees : List Nat}

theorem Refines.map_value (h : s.Refines frees) :
    (s.entries.map Prod.fst).map s.list.value = s.entries.map Prod.snd := by
  rw [List.map_map]
  exact List.map_congr_left h.values

theorem Refines.add {node : Nat} (h : s.Refines (node :: frees)) (value : α) :
    (s.step (.add value)).Refines frees := by
  obtain ⟨hadd, hchains⟩ := h.chains.add value
  have hstep : s.step (.add value) =
      ⟨s.list.place node value s.list.tail none, s.entries ++ [(node, value)]⟩ := by
    rw [step, hadd]
  rw [hstep]
  refine ⟨?_, ?_⟩
  · rw [List.map_append, List.map_singleton]
    exact hchains
  · intro e he
    change assign s.list.value (some node) value e.1 = e.2
    rcases List.mem_append.mp he with hold | hnew
    · rw [assign_of_ne]
      · exact h.values e hold
      · rintro ⟨⟩
        exact h.chains.disjoint (List.mem_map_of_mem hold) List.mem_cons_self
    · rw [List.mem_singleton.mp hnew]
      exact assign_self ..

variable {front : List (Nat × α)}

theorem refines_remove {l : NodeList α} {back : List (Nat × α)} {e : Nat × α}
    (h : Refines ⟨l, front ++ e :: back⟩ frees) :
    Refines ⟨l.remove e.1, front ++ back⟩ (e.1 :: frees) := by
  obtain ⟨hchains, hvalues⟩ := h
  refine ⟨?_, ?_⟩
  · simp only [List.map_append, List.map_cons] at hchains ⊢
    exact hchains.remove
  · intro d hd
    apply hvalues
    simp only [List.mem_append, List.mem_cons] at hd ⊢
    exact hd.imp_right Or.inr

/-- Filtering by the node leaves out exactly its entry. -/
theorem filter_ne_node {back : List (Nat × α)} {e : Nat × α}
    (hnodup : ((front ++ e :: back).map Prod.fst).Nodup) :
    (front ++ e :: back).filter (·.1 ≠ e.1) = front ++ back := by
  rw [List.map_append, List.map_cons, List.nodup_middle, List.nodup_cons, ← List.map_append]
    at hnodup
  have hothers : (front ++ back).filter (·.1 ≠ e.1) = front ++ back := by
    apply List.filter_eq_self.mpr
    intro d hd
    have hne : d.1 ≠ e.1 := fun heq => hnodup.1 (heq ▸ List.mem_map_of_mem hd)
    simpa using hne
  rw [List.filter_append, List.filter_cons_of_neg (by simp), ← List.filter_append, hothers]

/-- The loop of `RemoveAll` from a node in the middle of the list: what stands before it stays, the
    rest is filtered. -/
theorem removeAllFrom_spec (found : α → Bool) {fuel : Nat} {l : NodeList α}
    {rest : List (Nat × α)} (h : Refines ⟨l, front ++ rest⟩ frees) (count : Nat)
    (hfuel : rest.length ≤ fuel) :
    ∃ l' frees', NodeList.removeAllFrom found fuel (rest.map Prod.fst).head?
        (rest.map Prod.fst).tail.head? l count =
          some (l', count + rest.countP fun e => found e.2) ∧
      Refines ⟨l', front ++ rest.filter fun e => !found e.2⟩ frees' := by
  induction rest generalizing fuel l front frees count with
  | nil =>
    refine ⟨l, frees, ?_, h⟩
    cases fuel <;> rfl
  | cons e rest ih =>
    obtain ⟨fuel, rfl⟩ : ∃ n, fuel = n + 1 :=
      Nat.exists_eq_add_one.mpr (Nat.lt_of_lt_of_le (Nat.succ_pos _) hfuel)
    have hlater : rest.length ≤ fuel := Nat.le_of_succ_le_succ hfuel
    have hvalue : l.value e.1 = e.2 := h.values e (List.mem_append_right _ List.mem_cons_self)
    -- the iterator is at the node behind the current one, and moves on by the links before removal
    have hiter : (rest.map Prod.fst).head?.bind l.next = (rest.map Prod.fst).tail.head? := by
      have hchain := h.chains.next
      simp only [List.map_append, List.map_cons] at hchain
      exact hchain.of_append.2.head?_bind
    simp only [List.map_cons, List.head?_cons, List.tail_cons, NodeList.removeAllFrom, hvalue,
      hiter, List.countP_cons, List.filter_cons]
    cases hfound : found e.2 with
    | true =>
      obtain ⟨l', frees', hrun, href⟩ := ih (refines_remove h) (count + 1) hlater
      refine ⟨l', frees', ?_, href⟩
      simp only [if_true, hrun]
      congr 2
      omega
    | false =>
      have hassoc : Refines ⟨l, (front ++ [e]) ++ rest⟩ frees := by
        rw [← List.append_cons]
        exact h
      obtain ⟨l', frees', hrun, href⟩ := ih hassoc count hlater
      rw [← List.append_cons] at href
      refine ⟨l', frees', ?_, href⟩
      simp only [Bool.false_eq_true, if_false, hrun, Nat.add_zero]

/-- **Removal on the way through the list**: with fuel for each node the loop ends, the entries with
    the property are gone and the others are left, and the result is their number. -/
theorem Refines.removeAll (h : s.Refines frees) (found : α → Bool) {fuel : Nat}
    (hfuel : s.entries.length ≤ fuel) :
    ∃ l' frees', s.list.removeAll fuel found =
        some (l', s.entries.countP fun e => found e.2) ∧
      Refines ⟨l', s.entries.filter fun e => !found e.2⟩ frees' := by
  have hwhole : Refines ⟨s.list, [] ++ s.entries⟩ frees := h
  obtain ⟨l', frees', hrun, href⟩ := removeAllFrom_spec found hwhole 0 hfuel
  refine ⟨l', frees', ?_, href⟩
  rw [NodeList.removeAll, h.chains.head, h.chains.next.head?_bind, hrun, Nat.zero_add]

/-! ## Runs -/

/-- What is seen of the list is the sequence: iteration gives its values in order, the counter is
    its length, two chains share out the nodes, and `Add` fails exactly if it is as long as the
    capacity. -/
def Behaves (s : TrackedList α) : Prop :=
  (∀ fuel, s.entries.length ≤ fuel →
    s.list.iterate fuel s.list.head = some (s.entries.map Prod.snd)) ∧
  s.list.length = s.entries.length ∧
  (∃ frees, s.list.Chains (s.entries.map Prod.fst) frees) ∧
  ∀ value, s.list.add value = none ↔ s.list.length = s.list.capacity

theorem Refines.behaves (h : s.Refines frees) : s.Behaves := by
  refine ⟨fun fuel hfuel => ?_, ?_, ⟨frees, h.chains⟩, h.chains.add_eq_none_iff⟩
  · rw [h.chains.iterate_eq (by simpa using hfuel), h.map_value]
  · rw [h.chains.length, List.length_map]

theorem Refines.length_le (h : s.Refines frees) : s.entries.length ≤ s.list.capacity := by
  have hlength := h.chains.length_add
  rw [List.length_map] at hlength
  omega

/-- The result of an operation: `RemoveAll` ends, with the number of the entries it removes. -/
def Answered (s : TrackedList α) (call : ListCall α) : Prop :=
  ∀ found, call = .removeAll found → ∀ fuel, s.entries.length ≤ fuel →
    ∃ list, s.list.removeAll fuel found = some (list, s.entries.countP fun e => found e.2)

theorem Refines.answered (h : s.Refines frees) (call : ListCall α) : s.Answered call := by
  rintro found rfl fuel hfuel
  obtain ⟨l', frees', hrun, -⟩ := h.removeAll found hfuel
  exact ⟨l', hrun⟩

/-- **One operation** keeps list and sequence together. -/
theorem Refines.step (h : s.Refines frees) (call : ListCall α) (hlive : s.Live call) :
    ∃ frees', (s.step call).Refines frees' := by
  cases call with
  | add value =>
    cases frees with
    | nil =>
      -- nothing is free, so nothing happens
      have hfull : s.list.add value = none := by
        rw [NodeList.add, NodeList.insert, h.chains.free]
        rfl
      rw [TrackedList.step, hfull]
      exact ⟨[], h⟩
    | cons node frees => exact ⟨frees, h.add value⟩
  | remove node =>
    obtain ⟨e, he, rfl⟩ := List.mem_map.mp (hlive node rfl)
    obtain ⟨front, back, hsplit⟩ := List.append_of_mem he
    have hnodup := (List.nodup_append.mp h.chains.nodup).1
    rw [hsplit] at hnodup
    have hstart : Refines ⟨s.list, front ++ e :: back⟩ frees := by
      rw [← hsplit]
      exact h
    refine ⟨e.1 :: frees, ?_⟩
    rw [TrackedList.step, hsplit, filter_ne_node hnodup]
    exact refines_remove hstart
  | removeAll found =>
    obtain ⟨l', frees', hrun, href⟩ := h.removeAll found h.length_le
    refine ⟨frees', ?_⟩
    rw [TrackedList.step, hrun]
    exact href

theorem refines_start [Inhabited α] (capacity : Nat) :
    (start capacity : TrackedList α).Refines (List.range capacity) :=
  ⟨NodeList.chains_ofCapacity capacity, fun _ he => absurd he List.not_mem_nil⟩

/-- **The list behaves as a bounded sequence**, in every run in which only nodes in use are
    removed. -/
theorem behaves_as_sequence [Inhabited α] (capacity : Nat) (calls : List (ListCall α))
    (hlive : Along step Live (start capacity) calls) :
    Always step Behaves (start capacity) calls ∧ Along step Answered (start capacity) calls := by
  have hstart : ∃ frees, (start capacity : TrackedList α).Refines frees :=
    ⟨_, refines_start capacity⟩
  have hstep : ∀ (s : TrackedList α) call, (∃ frees, s.Refines frees) → s.Live call →
      ∃ frees, (s.step call).Refines frees := by
    rintro s call ⟨frees, h⟩ hcall
    exact h.step call hcall
  constructor
  · refine Always.mono ?_ (always_of_step hstep hstart hlive)
    rintro s ⟨frees, h⟩
    exact h.behaves
  · refine along_of_step hstep ?_ hstart hlive
    rintro s call ⟨frees, h⟩ -
    exact h.answered call

/-- Two values are added to a list of two nodes; the first node is removed. -/
theorem behaves_as_sequence_sample :
    Always step Behaves (start 2 : TrackedList Nat) [.add 7, .add 8, .remove 0] :=
  (behaves_as_sequence 2 [.add 7, .add 8, .remove 0]
    ⟨by rintro node ⟨⟩, by rintro node ⟨⟩, by rintro node ⟨⟩; decide, trivial⟩).1

/-- The first free node still points back to the node that was added, which does not point to it. -/
theorem first_free_prev_stale :
    let s := run step (start 2 : TrackedList Nat) [.add 7]
    s.list.free = some 1 ∧ s.list.prev 1 = some 0 ∧ s.list.next 0 = none := by
  decide

end TrackedList

end OpenDnp3.Outstation
