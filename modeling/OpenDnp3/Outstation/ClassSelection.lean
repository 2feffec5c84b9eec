import OpenDnp3.Outstation.EventEncoding

/-!
# Selecting events by class

An event is written in its *selected variation*.  A selection by type sets it, to the variation
that the request asks for or to the default one; a selection by class leaves it as it is.  A
new event starts with its default variation, and neither `unselect` nor a failed response sets
it back, so a class selection may find an event that an earlier request has left in another
variation.

To say that an event was selected by class the buffer is watched together with the numbers of
these events: `Tracked`.
-/

namespace OpenDnp3.Outstation

open App Lib

/-- The variation an event will be written in is its default one. -/
def EventRecord.InDefault (r : EventRecord) : Prop :=
  r.data.selectedVariation = r.data.defaultVariation

/-- The buffer and the events whose present selection is one by class. -/
structure Tracked where
  lists : EventLists
  byClass : List Nat

namespace Tracked

def step (t : Tracked) (op : EventOp) : Tracked where
  lists := t.lists.step op
  byClass :=
    match op with
    | .selectByClass clazz max => t.byClass ++ (t.lists.idsIn .unselected).filter
        (· ∈ (t.lists.selectByClass clazz max).idsIn .selected)
    | .unselect => []
    | _ => t.byClass

def ofConfig (config : EventBufferConfig) : Tracked := ⟨.ofConfig config, []⟩

/-- **Whatever is written now**, the events that were selected by class are written in their
    default variations. -/
def LoadsDefault (t : Tracked) : Prop :=
  ∀ w : HeaderWriter, w.position ≤ w.buffer.length →
    ∃ written bytes, EventLists.Wrote t.lists.events (t.lists.write w).1.events written ∧
      (t.lists.write w).2.2 = written.map EventRecord.id ∧
      Appends w bytes (t.lists.write w).2.1 ∧ EventLists.Encoded written bytes ∧
      ∀ r ∈ written, r.id ∈ t.byClass → r.InDefault

/-- A class selection finds no event of its classes in another variation than the default. -/
def MeetsDefault (t : Tracked) : EventOp → Prop
  | .selectByClass clazz _ => ∀ r ∈ t.lists.events, r.state = .unselected →
      clazz.hasEventType r.clazz = true → r.InDefault
  | _ => True

/-! ## The invariant -/

structure Inv (t : Tracked) : Prop where
  wf : t.lists.WF
  known : ∀ id ∈ t.byClass, id < t.lists.nextId
  default : ∀ r ∈ t.lists.events, r.id ∈ t.byClass → r.state ≠ .unselected ∧ r.InDefault

theorem inv_ofConfig (config : EventBufferConfig) : (ofConfig config).Inv where
  wf := EventLists.wf_ofConfig config
  known _ h := nomatch h
  default _ h := nomatch h

/-- Records that are changed in place, but not those selected by class. -/
theorem Inv.of_forall₂ {t t' : Tracked} (h : t.Inv) (hwf : t'.lists.WF)
    (hnext : t'.lists.nextId = t.lists.nextId) (hbyClass : t'.byClass = t.byClass)
    (hevents : List.Forall₂ (fun r r' => r'.id = r.id ∧
      (r.state ≠ .unselected → r.InDefault → r'.state ≠ .unselected ∧ r'.InDefault))
      t.lists.events t'.lists.events) : t'.Inv where
  wf := hwf
  known := by
    rw [hnext, hbyClass]
    exact h.known
  default := by
    intro r' hr' hid
    obtain ⟨r, hr, heq, hkeeps⟩ := EventLists.exists_of_forall₂ hevents hr'
    rw [hbyClass, heq] at hid
    obtain ⟨hstate, hdefault⟩ := h.default r hr hid
    exact hkeeps hstate hdefault

variable {t : Tracked}

theorem inv_update (h : t.Inv) (event : AnyEvent) :
    (t.step (.update event)).Inv where
  wf := EventLists.wf_update h.wf event
  known := by
    intro id hid
    refine Nat.lt_of_lt_of_le (h.known id hid) ?_
    show t.lists.nextId ≤ (t.lists.update event).1.nextId
    unfold EventLists.update
    split
    · exact Nat.le_refl _
    · split <;> exact Nat.le_succ _
  default := by
    intro r hr hid
    rcases EventLists.mem_of_mem_update hr with hold | ⟨hnew, -⟩
    · exact h.default r hold hid
    · -- the number of a new event has not been used before
      have hlt := h.known r.id hid
      rw [hnew] at hlt
      exact absurd hlt (Nat.lt_irrefl _)

theorem inv_selectByType (h : t.Inv) (type : EventType)
    (variation : Option type.spec.EventVariation) (max : Nat) :
    (t.step (.selectByType type variation max)).Inv := by
  refine h.of_forall₂ (EventLists.wf_selectByType h.wf type variation max) rfl rfl ?_
  have hmark : ∀ r : EventRecord, decide (r.type = type) = true →
      (r.selectAs type variation).state = .selected ∧ (r.selectAs type variation).id = r.id :=
    fun r hr => ⟨r.state_selectAs variation (of_decide_eq_true hr), r.id_selectAs type variation⟩
  refine (EventLists.selectFrom_spec hmark max t.lists.events).imp ?_
  rintro r r' (rfl | ⟨hunselected, -, hid⟩)
  · exact ⟨rfl, fun hstate hdefault => ⟨hstate, hdefault⟩⟩
  · exact ⟨hid, fun hstate => absurd hunselected hstate⟩

/-- **The step of a class selection**: the events it marks are in their default variation. -/
theorem inv_selectByClass (h : t.Inv) {clazz : ClassField} {max : Nat}
    (hmeets : t.MeetsDefault (.selectByClass clazz max)) :
    (t.step (.selectByClass clazz max)).Inv := by
  have hwf : (t.lists.selectByClass clazz max).WF := EventLists.wf_selectByClass h.wf clazz max
  refine ⟨hwf, ?_, ?_⟩
  · intro id hid
    rcases List.mem_append.mp hid with hold | hnew
    · exact h.known id hold
    · obtain ⟨r, hr, -, rfl⟩ := EventLists.mem_idsIn.mp (List.mem_filter.mp hnew).1
      exact h.wf.fresh r.id (List.mem_map_of_mem hr)
  · intro r' hr' hid
    obtain ⟨r, hr, hmarks⟩ := EventLists.exists_of_forall₂
      (EventLists.selectFrom_marks max t.lists.events) hr'
    rcases List.mem_append.mp hid with hold | hnew
    · -- selected by class before: such an event is not marked again
      rcases hmarks with rfl | ⟨hunselected, -, rfl⟩
      · exact h.default r' hr hold
      · exact absurd hunselected (h.default r hr hold).1
    · obtain ⟨hbefore, hafter⟩ := List.mem_filter.mp hnew
      obtain ⟨r₀, hr₀, hunselected, hid₀⟩ := EventLists.mem_idsIn.mp hbefore
      obtain ⟨r₁, hr₁, hselected, hid₁⟩ := EventLists.mem_idsIn.mp (of_decide_eq_true hafter)
      -- numbers are unique, so all these are the same event
      have hsame : r₁ = r' := List.inj_on_of_nodup_map hwf.nodup hr₁ hr' hid₁
      rcases hmarks with rfl | ⟨hstate, hwanted, rfl⟩
      · have hsame₀ : r₀ = r' := List.inj_on_of_nodup_map h.wf.nodup hr₀ hr hid₀
        rw [hsame₀, ← hsame, hselected] at hunselected
        cases hunselected
      · exact ⟨nofun, hmeets r hr hstate hwanted⟩

theorem inv_load (h : t.Inv) (w : HeaderWriter) : (t.step (.load w)).Inv := by
  refine h.of_forall₂ (EventLists.wf_write h.wf w) rfl rfl ?_
  refine (t.lists.write_spec w).imp ?_
  rintro r r' (rfl | ⟨-, -, rfl⟩)
  · exact ⟨rfl, fun hstate hdefault => ⟨hstate, hdefault⟩⟩
  · exact ⟨rfl, fun _ hdefault => ⟨nofun, hdefault⟩⟩

theorem inv_clearWritten (h : t.Inv) : (t.step .clearWritten).Inv where
  wf := EventLists.wf_clearWritten h.wf
  known := h.known
  default r hr hid := h.default r (List.mem_filter.mp hr).1 hid

theorem inv_unselect (h : t.Inv) : (t.step .unselect).Inv where
  wf := EventLists.wf_unselect h.wf
  known _ hid := nomatch hid
  default _ _ hid := nomatch hid

theorem inv_step (h : t.Inv) {op : EventOp} (hmeets : t.MeetsDefault op) :
    (t.step op).Inv := by
  cases op with
  | update event => exact inv_update h event
  | selectByType type variation max => exact inv_selectByType h type variation max
  | selectByClass clazz max => exact inv_selectByClass h hmeets
  | load w => exact inv_load h w
  | clearWritten => exact inv_clearWritten h
  | unselect => exact inv_unselect h

/-- What is written has the variation that the invariant speaks of. -/
theorem Inv.loadsDefault (h : t.Inv) : t.LoadsDefault := by
  intro w hfits
  obtain ⟨written, bytes, hwrote, hids, happends, hencoded⟩ := t.lists.encoded_write hfits
  refine ⟨written, bytes, hwrote, hids, happends, hencoded, ?_⟩
  intro r hr hid
  exact (h.default r (hwrote.mem hr).1 hid).2

/-- **Events selected by class are written in their default variation** in every run in which
    class selections meet only events that still have it. -/
theorem loadsDefault_run (config : EventBufferConfig) {ops : List EventOp}
    (hmeets : Along step MeetsDefault (ofConfig config) ops) :
    Always step LoadsDefault (ofConfig config) ops := by
  have hall : Always step Inv (ofConfig config) ops :=
    always_of_step (fun _ _ h hok => inv_step h hok) (inv_ofConfig config) hmeets
  exact Always.mono (fun _ h => h.loadsDefault) hall

/-- A class 1 event of a binary input whose default variation is without a time. -/
def sampleUpdate : EventOp := .update (.binary ⟨⟨true, 0x81, .ofValue 5⟩, 0, .EC1, .Group2Var1⟩)

def class1 : ClassField := ⟨false, true, false, false⟩

/-- An event is selected by class, written and confirmed. -/
theorem loadsDefault_class_read :
    Always step LoadsDefault (ofConfig ⟨10, 0, 0, 0, 0, 0, 0, 0⟩)
      [sampleUpdate, .selectByClass class1 10, .load ⟨List.replicate 100 0, 0⟩, .clearWritten] := by
  refine loadsDefault_run _ ⟨trivial, ?_, trivial, trivial, trivial⟩
  intro r hr _ _
  cases List.mem_singleton.mp hr
  rfl

/-- The event is selected in variation 2 by a request whose confirmation does not come, and then
    by class: it is written in variation 2. -/
theorem loads_earlier_variation :
    let t := run step (ofConfig ⟨10, 0, 0, 0, 0, 0, 0, 0⟩)
      [sampleUpdate, .selectByType .Binary (some .Group2Var2) 10,
        .load ⟨List.replicate 100 0, 0⟩, .unselect, .selectByClass class1 10]
    t.byClass = [0] ∧
      (t.lists.write ⟨List.replicate 100 0, 0⟩).2.1.buffer.take 3 = [2, 2, 0x28] ∧
      ¬ t.LoadsDefault := by
  refine ⟨by decide +kernel, by decide +kernel, ?_⟩
  intro h
  obtain ⟨written, -, hwrote, hids, -, -, hdefault⟩ := h ⟨List.replicate 100 0, 0⟩ (by decide)
  cases written with
  | nil => exact absurd hids (by decide +kernel)
  | cons r rest =>
    obtain ⟨hmem, -, -⟩ := hwrote.mem List.mem_cons_self
    cases List.mem_singleton.mp hmem
    have hsame := hdefault _ List.mem_cons_self (by decide +kernel)
    cases hsame

end Tracked

end OpenDnp3.Outstation
