import Mathlib.Data.List.Nodup
import OpenDnp3.Lib.Machine
import OpenDnp3.Outstation.EventStorage

/-!
# The counters of the event buffer

The buffer does not look through its events to find out what is pending: it keeps seven
counters, one for the selected events and, for each class, one for all events and one for the
written ones.  Every operation changes the records and the counters in separate statements.
`Tallies` says that the two agree, and each operation keeps it, whatever came before.
-/

namespace OpenDnp3.Outstation

open App Lib

/-! ## Counters and records -/

namespace ClazzCount

@[simp] theorem get_zero (clazz : EventClass) : zero.get clazz = 0 := by
  cases clazz <;> rfl

@[simp] theorem get_increment (c : ClazzCount) (clazz clazz' : EventClass) :
    (c.increment clazz).get clazz' = c.get clazz' + if clazz = clazz' then 1 else 0 := by
  cases clazz <;> cases clazz' <;> rfl

@[simp] theorem get_decrement (c : ClazzCount) (clazz clazz' : EventClass) :
    (c.decrement clazz).get clazz' = c.get clazz' - if clazz = clazz' then 1 else 0 := by
  cases clazz <;> cases clazz' <;> rfl

end ClazzCount

/-- The number of records of a class. -/
def numTotal (rs : List EventRecord) (clazz : EventClass) : Nat :=
  rs.countP fun r => r.clazz = clazz

/-- The number of written records of a class. -/
def numWritten (rs : List EventRecord) (clazz : EventClass) : Nat :=
  rs.countP fun r => r.clazz = clazz ∧ r.state = .written

/-- The number of selected records. -/
def numSelected (rs : List EventRecord) : Nat :=
  rs.countP fun r => r.state = .selected

/-- The counters agree with the records. -/
structure Tallies (counters : EventClassCounters) (rs : List EventRecord) : Prop where
  total : ∀ clazz, counters.total.get clazz = numTotal rs clazz
  written : ∀ clazz, counters.written.get clazz = numWritten rs clazz
  selected : counters.selected = numSelected rs

namespace Tallies

variable {counters : EventClassCounters} {front back : List EventRecord} {r r' : EventRecord}

theorem nil : Tallies .zero [] where
  total clazz := ClazzCount.get_zero clazz
  written clazz := ClazzCount.get_zero clazz
  selected := rfl

theorem onAdd (h : Tallies counters front) (hstate : r.state = .unselected) :
    Tallies (counters.onAdd r.clazz) (front ++ [r]) where
  total clazz := by
    simp [EventClassCounters.onAdd, h.total, numTotal, List.countP_cons]
  written clazz := by
    simp [EventClassCounters.onAdd, h.written, numWritten, hstate]
  selected := by
    simp [EventClassCounters.onAdd, h.selected, numSelected, hstate]

theorem onRemove (h : Tallies counters (front ++ r :: back)) :
    Tallies (counters.onRemove r.clazz r.state) (front ++ back) where
  total clazz := by
    have htotal := h.total clazz
    simp only [numTotal, List.countP_append, List.countP_cons, decide_eq_true_eq] at htotal ⊢
    have hsame : (counters.onRemove r.clazz r.state).total = counters.total.decrement r.clazz := by
      cases r.state <;> rfl
    rw [hsame, ClazzCount.get_decrement]
    omega
  written clazz := by
    have hwritten := h.written clazz
    simp only [numWritten, List.countP_append, List.countP_cons, decide_eq_true_eq]
      at hwritten ⊢
    unfold EventClassCounters.onRemove
    cases hstate : r.state <;> simp [hstate] at hwritten ⊢ <;> omega
  selected := by
    have hselected := h.selected
    simp only [numSelected, List.countP_append, List.countP_cons, decide_eq_true_eq]
      at hselected ⊢
    unfold EventClassCounters.onRemove
    cases hstate : r.state <;> simp [hstate] at hselected ⊢ <;> omega

theorem onSelect (h : Tallies counters (front ++ r :: back)) (hstate : r.state = .unselected)
    (hstate' : r'.state = .selected) (hclazz : r'.clazz = r.clazz) :
    Tallies (counters.onSelect 1) (front ++ r' :: back) where
  total clazz := by
    have htotal := h.total clazz
    simp only [numTotal, List.countP_append, List.countP_cons] at htotal ⊢
    rw [hclazz]
    exact htotal
  written clazz := by
    have hwritten := h.written clazz
    simp only [numWritten, List.countP_append, List.countP_cons] at hwritten ⊢
    simp [EventClassCounters.onSelect, hstate, hstate'] at hwritten ⊢
    exact hwritten
  selected := by
    have hselected := h.selected
    simp only [numSelected, List.countP_append, List.countP_cons] at hselected ⊢
    simp [EventClassCounters.onSelect, hstate, hstate'] at hselected ⊢
    omega

theorem onWrite (h : Tallies counters (front ++ r :: back)) (hstate : r.state = .selected) :
    Tallies (counters.onWrite r.clazz) (front ++ r.setState .written :: back) where
  total clazz := by
    have htotal := h.total clazz
    simp only [numTotal, List.countP_append, List.countP_cons] at htotal ⊢
    exact htotal
  written clazz := by
    have hwritten := h.written clazz
    simp only [numWritten, List.countP_append, List.countP_cons] at hwritten ⊢
    simp [EventClassCounters.onWrite, EventRecord.setState, hstate] at hwritten ⊢
    omega
  selected := by
    have hselected := h.selected
    simp only [numSelected, List.countP_append, List.countP_cons] at hselected ⊢
    simp [EventClassCounters.onWrite, EventRecord.setState, hstate] at hselected ⊢
    omega

theorem resetOnFail (h : Tallies counters front) :
    Tallies counters.resetOnFail (front.map (·.setState .unselected)) where
  total clazz := by
    rw [numTotal, List.countP_map]
    exact h.total clazz
  written clazz := by
    simp [EventClassCounters.resetOnFail, numWritten, Function.comp_def]
  selected := by
    simp [EventClassCounters.resetOnFail, numSelected, Function.comp_def]

end Tallies

/-! ## The operations -/

namespace EventLists

/-- What holds of the lists between two operations. -/
structure WF (lists : EventLists) : Prop where
  tallies : Tallies lists.counters lists.events
  /-- No type has more events than its capacity. -/
  fits : ∀ type, (lists.getList type).length ≤ lists.config.capacity type
  /-- No two events have the same number. -/
  nodup : lists.ids.Nodup
  fresh : ∀ id ∈ lists.ids, id < lists.nextId

theorem wf_ofConfig (config : EventBufferConfig) : (ofConfig config).WF where
  tallies := .nil
  fits _ := Nat.zero_le _
  nodup := List.nodup_nil
  fresh := by
    intro id hid
    cases hid

variable {lists : EventLists} {counters : EventClassCounters}

/-- Taking out a record of the list takes out exactly this one. -/
theorem events_remove (hnodup : lists.ids.Nodup) {r : EventRecord} (hr : r ∈ lists.events) :
    ∃ front back, lists.events = front ++ r :: back ∧
      (lists.remove r).events = front ++ back := by
  obtain ⟨r', front, back, -, hid, hevents, herase⟩ :=
    List.exists_of_eraseP (p := fun r' => decide (r'.id = r.id)) hr (decide_eq_true rfl)
  have hr' : r' ∈ lists.events := by
    rw [hevents]
    exact List.mem_append_right _ List.mem_cons_self
  have heq : r' = r := List.inj_on_of_nodup_map hnodup hr' hr (of_decide_eq_true hid)
  subst heq
  exact ⟨front, back, hevents, herase⟩

theorem wf_remove (h : lists.WF) {r : EventRecord} (hr : r ∈ lists.events) :
    (lists.remove r).WF := by
  obtain ⟨front, back, hevents, hremove⟩ := events_remove h.nodup hr
  have hsub : (lists.remove r).events.Sublist lists.events := by
    rw [hevents, hremove]
    exact List.Sublist.append_left (List.sublist_cons_self r back) front
  constructor
  · rw [hremove]
    apply Tallies.onRemove
    rw [← hevents]
    exact h.tallies
  · intro type
    exact Nat.le_trans (hsub.filter _).length_le (h.fits type)
  · exact h.nodup.sublist (hsub.map _)
  · intro id hid
    exact h.fresh id ((hsub.map _).subset hid)

/-- The record of a new event. -/
def newRecord (lists : EventLists) (event : AnyEvent) : EventRecord :=
  ⟨lists.nextId, event.typed.2.index, event.typed.2.clazz, .unselected, event.typed.1,
    ⟨event.typed.2.value, event.typed.2.variation, event.typed.2.variation⟩⟩

theorem events_add_eq (lists : EventLists) (event : AnyEvent) :
    (lists.add event).events = lists.events ++ [lists.newRecord event] := rfl

theorem ids_add (lists : EventLists) (event : AnyEvent) :
    (lists.add event).ids = lists.ids ++ [lists.nextId] := by
  unfold ids
  rw [events_add_eq, List.map_append]
  rfl

theorem wf_add (h : lists.WF) {event : AnyEvent}
    (hroom : (lists.getList event.type).length < lists.config.capacity event.type) :
    (lists.add event).WF := by
  constructor
  · exact h.tallies.onAdd (r := lists.newRecord event) rfl
  · intro type
    have hfits := h.fits type
    change ((lists.add event).getList type).length ≤ lists.config.capacity type
    unfold getList at hfits hroom ⊢
    rw [events_add_eq, List.filter_append, List.length_append]
    -- only the list of this type grows
    by_cases htype : event.type = type
    · subst htype
      have hone := List.length_filter_le (fun r : EventRecord => decide (r.type = event.type))
        [lists.newRecord event]
      rw [List.length_singleton] at hone
      omega
    · have hnone : ¬ (lists.newRecord event).type = type := htype
      rw [List.filter_cons_of_neg (by simpa using hnone)]
      exact hfits
  · rw [ids_add, List.nodup_append]
    refine ⟨h.nodup, List.nodup_singleton _, ?_⟩
    intro id hid id' hid' heq
    rw [List.mem_singleton] at hid'
    have hlt := h.fresh id hid
    rw [heq, hid'] at hlt
    exact Nat.lt_irrefl _ hlt
  · intro id hid
    rw [ids_add, List.mem_append, List.mem_singleton] at hid
    rcases hid with hid | rfl
    · exact Nat.lt_succ_of_lt (h.fresh id hid)
    · exact Nat.lt_succ_self _

theorem wf_update (h : lists.WF) (event : AnyEvent) :
    (lists.update event).1.WF := by
  unfold update
  split
  · exact h
  · rename_i hcapacity
    cases hevicted : lists.evicted event.type with
    | none =>
      apply wf_add h
      -- a type with a capacity that pushes nothing out is not full
      have hfull : lists.isFullAndCapacityNotZero event.type = false := by
        unfold evicted at hevicted
        split at hevicted
        · rename_i hfull
          unfold isFullAndCapacityNotZero at hfull
          rw [Bool.and_eq_true, beq_iff_eq] at hfull
          rw [List.head?_eq_none_iff] at hevicted
          rw [hevicted] at hfull
          exact absurd hfull.2.symm hcapacity
        · rename_i hfull
          exact Bool.eq_false_iff.mpr hfull
      unfold isFullAndCapacityNotZero at hfull
      rw [Bool.and_eq_false_iff] at hfull
      have hfits := h.fits event.type
      rcases hfull with hzero | hless
      · simp only [bne_eq_false_iff_eq] at hzero
        exact absurd hzero hcapacity
      · rw [beq_eq_false_iff_ne] at hless
        omega
    | some oldest =>
      obtain ⟨hhead, hfull, hmem⟩ := evicted_oldest hevicted
      apply wf_add (wf_remove h hmem)
      -- the oldest event of the type has made room
      obtain ⟨front, back, hevents, hremove⟩ := events_remove h.nodup hmem
      have htype : oldest.type = event.type := by
        have hlist : oldest ∈ lists.getList event.type := List.mem_of_mem_head? hhead
        exact of_decide_eq_true (List.mem_filter.mp hlist).2
      change ((lists.remove oldest).events.filter (·.type = event.type)).length <
        lists.config.capacity event.type
      unfold getList at hfull
      rw [hevents, List.filter_append, List.filter_cons_of_pos (by simpa using htype),
        List.length_append, List.length_cons] at hfull
      rw [hremove, List.filter_append, List.length_append]
      omega

/-- An operation that changes records in place. -/
theorem WF.of_forall₂ {lists lists' : EventLists} (h : lists.WF)
    (hconfig : lists'.config = lists.config) (hnext : lists'.nextId = lists.nextId)
    (hevents : List.Forall₂ (fun r r' => r'.id = r.id ∧ r'.type = r.type)
      lists.events lists'.events)
    (htallies : Tallies lists'.counters lists'.events) : lists'.WF := by
  have hids : lists'.ids = lists.ids := ids_of_forall₂ (fun _ _ h => h.1) hevents
  have hlength : ∀ type, (lists'.getList type).length = (lists.getList type).length := by
    intro type
    unfold getList
    generalize lists.events = rs at hevents
    generalize lists'.events = rs' at hevents
    induction hevents with
    | nil => rfl
    | cons hhead _ ih =>
      rw [List.filter_cons, List.filter_cons, hhead.2]
      split
      · rw [List.length_cons, List.length_cons, ih]
      · exact ih
  refine ⟨htallies, ?_, ?_, ?_⟩
  · intro type
    rw [hlength, hconfig]
    exact h.fits type
  · rw [hids]
    exact h.nodup
  · rw [hids, hnext]
    exact h.fresh

theorem tallies_selectFrom {wanted : EventRecord → Bool} {mark : EventRecord → EventRecord}
    (hmark : ∀ r, wanted r = true → (mark r).state = .selected ∧ (mark r).clazz = r.clazz)
    (front : List EventRecord) {rs : List EventRecord} (max : Nat)
    (h : Tallies counters (front ++ rs)) :
    Tallies (counters.onSelect (selectFrom wanted mark max rs).2)
      (front ++ (selectFrom wanted mark max rs).1) := by
  induction rs generalizing max counters front with
  | nil =>
    exact h
  | cons r rs ih =>
    -- a record that is done with moves to the front part
    have hshift : ∀ {counters : EventClassCounters} {first : EventRecord} (max : Nat),
        Tallies counters (front ++ first :: rs) →
        Tallies (counters.onSelect (selectFrom wanted mark max rs).2)
          (front ++ first :: (selectFrom wanted mark max rs).1) := by
      intro counters first max htallies
      rw [List.append_cons] at htallies ⊢
      exact ih _ max htallies
    cases max with
    | zero =>
      exact h
    | succ max =>
      unfold selectFrom
      split
      · rename_i hr
        rw [Bool.and_eq_true, decide_eq_true_eq] at hr
        obtain ⟨hstate, hclazz⟩ := hmark r hr.2
        have hone := hshift max (h.onSelect hr.1 hstate hclazz)
        dsimp only [EventClassCounters.onSelect] at hone ⊢
        rw [Nat.add_assoc, Nat.add_comm 1] at hone
        exact hone
      · exact hshift (max + 1) h

theorem wf_selectWhere (h : lists.WF) {wanted : EventRecord → Bool}
    {mark : EventRecord → EventRecord}
    (hmark : ∀ r, wanted r = true → (mark r).state = .selected ∧ (mark r).clazz = r.clazz)
    (hkept : ∀ r, (mark r).id = r.id ∧ (mark r).type = r.type) (max : Nat) :
    (lists.selectWhere wanted mark max).WF := by
  refine h.of_forall₂ rfl rfl ?_ (tallies_selectFrom hmark [] max h.tallies)
  change List.Forall₂ _ lists.events (selectFrom wanted mark max lists.events).1
  generalize lists.events = rs
  induction rs generalizing max with
  | nil =>
    exact .nil
  | cons r rs ih =>
    cases max with
    | zero =>
      exact List.forall₂_same.mpr fun _ _ => ⟨rfl, rfl⟩
    | succ max =>
      unfold selectFrom
      split
      · exact .cons (hkept r) (ih max)
      · exact .cons ⟨rfl, rfl⟩ (ih (max + 1))

theorem wf_selectByType (h : lists.WF) (type : EventType)
    (variation : Option type.spec.EventVariation) (max : Nat) :
    (lists.selectByType type variation max).WF := by
  apply wf_selectWhere h
  · intro r hr
    refine ⟨EventRecord.state_selectAs _ (of_decide_eq_true hr), ?_⟩
    unfold EventRecord.selectAs
    split <;> rfl
  · intro r
    exact ⟨EventRecord.id_selectAs .., EventRecord.type_selectAs ..⟩

theorem wf_selectByClass (h : lists.WF) (clazz : ClassField) (max : Nat) :
    (lists.selectByClass clazz max).WF := by
  apply wf_selectWhere h
  · intro r _
    exact ⟨rfl, rfl⟩
  · intro r
    exact ⟨rfl, rfl⟩

theorem Wrote.tallies {rs rs' written : List EventRecord} (hwrote : Wrote rs rs' written)
    (front : List EventRecord) (h : Tallies counters (front ++ rs)) :
    Tallies (onWriteAll counters written) (front ++ rs') := by
  induction hwrote generalizing counters front with
  | nil => exact h
  | keep r _ ih =>
    rw [List.append_cons] at h ⊢
    exact ih _ h
  | write r hselected _ ih =>
    have hone := h.onWrite hselected
    rw [List.append_cons] at hone ⊢
    exact ih _ hone

theorem wf_write (h : lists.WF) (w : HeaderWriter) :
    (lists.write w).1.WF := by
  obtain ⟨written, hwrote, -, hcounters⟩ := lists.wrote_write w
  refine h.of_forall₂ rfl rfl ?_ ?_
  · refine (lists.write_spec w).imp ?_
    rintro r r' (rfl | ⟨-, -, rfl⟩)
    · exact ⟨rfl, rfl⟩
    · exact ⟨rfl, rfl⟩
  · rw [hcounters]
    exact Wrote.tallies hwrote [] h.tallies

/-- The loop of `ClearWritten`, behind the records that it has kept so far. -/
theorem tallies_clearWritten (front : List EventRecord) {rs : List EventRecord}
    (h : Tallies counters (front ++ rs)) :
    Tallies ((rs.filter (·.state = .written)).foldl
      (fun c r => c.onRemove r.clazz r.state) counters)
      (front ++ rs.filter (·.state ≠ .written)) := by
  induction rs generalizing counters front with
  | nil => exact h
  | cons r rs ih =>
    by_cases hstate : r.state = .written
    · rw [List.filter_cons_of_pos (by simpa using hstate),
        List.filter_cons_of_neg (by simpa using hstate), List.foldl_cons]
      exact ih _ h.onRemove
    · rw [List.filter_cons_of_neg (by simpa using hstate),
        List.filter_cons_of_pos (by simpa using hstate), List.append_cons]
      rw [List.append_cons] at h
      exact ih _ h

theorem wf_clearWritten (h : lists.WF) : lists.clearWritten.WF := by
  have hsub : lists.clearWritten.events.Sublist lists.events := List.filter_sublist
  constructor
  · exact tallies_clearWritten [] h.tallies
  · intro type
    exact Nat.le_trans (hsub.filter _).length_le (h.fits type)
  · exact h.nodup.sublist (hsub.map _)
  · intro id hid
    exact h.fresh id ((hsub.map _).subset hid)

theorem wf_unselect (h : lists.WF) : lists.unselect.WF := by
  refine h.of_forall₂ rfl rfl ?_ h.tallies.resetOnFail
  change List.Forall₂ _ lists.events (lists.events.map (·.setState .unselected))
  rw [List.forall₂_map_right_iff]
  exact List.forall₂_same.mpr fun _ _ => ⟨rfl, rfl⟩

end EventLists

/-! ## Runs -/

/-- The operations on the buffer. -/
inductive EventOp where
  | update (event : AnyEvent)
  | selectByType (type : EventType) (variation : Option type.spec.EventVariation) (max : Nat)
  | selectByClass (clazz : ClassField) (max : Nat)
  | load (writer : HeaderWriter)
  | clearWritten
  | unselect

namespace EventLists

def step (lists : EventLists) : EventOp → EventLists
  | .update event => (lists.update event).1
  | .selectByType type variation max => lists.selectByType type variation max
  | .selectByClass clazz max => lists.selectByClass clazz max
  | .load writer => (lists.write writer).1
  | .clearWritten => lists.clearWritten
  | .unselect => lists.unselect

/-- Every operation keeps the counters, the capacities and the numbering right. -/
theorem wf_step {lists : EventLists} (h : lists.WF) (op : EventOp) : (lists.step op).WF := by
  cases op with
  | update event => exact wf_update h event
  | selectByType type variation max => exact wf_selectByType h type variation max
  | selectByClass clazz max => exact wf_selectByClass h clazz max
  | load writer => exact wf_write h writer
  | clearWritten => exact wf_clearWritten h
  | unselect => exact wf_unselect h

/-- **In every run of operations the counters are the numbers of records.** -/
theorem wf_run (config : EventBufferConfig) (ops : List EventOp) :
    (run step (ofConfig config) ops).WF :=
  invariant_run (P := WF) (fun _ op h => wf_step h op) (wf_ofConfig config) ops

/-- **What is unwritten is counted right**: after any run the difference of the two counters of a
    class does not underflow, and is the number of its events without the mark. -/
theorem numUnwritten_run (config : EventBufferConfig) (ops : List EventOp) (clazz : EventClass) :
    let lists := run step (ofConfig config) ops
    lists.counters.written.get clazz ≤ lists.counters.total.get clazz ∧
      lists.numUnwritten clazz =
        lists.events.countP fun r => r.clazz = clazz ∧ r.state ≠ .written := by
  intro lists
  obtain ⟨htotal, hwritten, -⟩ := (wf_run config ops).tallies
  -- the events of the class have the mark or do not have it
  have hsplit : lists.events.countP (fun r => r.clazz = clazz) = _ + _ :=
    List.countP_eq_countP_filter_add _ _ (·.state = .written)
  simp only [List.countP_filter, ← Bool.decide_and, ← decide_not] at hsplit
  rw [numUnwritten, htotal, hwritten, numTotal, hsplit]
  exact ⟨Nat.le_add_right .., Nat.add_sub_cancel_left ..⟩

end EventLists

end OpenDnp3.Outstation
