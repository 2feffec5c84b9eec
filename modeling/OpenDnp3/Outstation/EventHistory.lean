import OpenDnp3.Outstation.Effects

/-!
# How events leave the buffer

An event may leave the buffer for two reasons: a newer event of its type pushes it out, or the
fragment that carried it is confirmed.  The buffer has one mark for events that were written into
a fragment and does not know into which.  So the mark is right only as long as the outstation
waits for the confirm of the fragment that the marks belong to.

The mark survives when the wait ends otherwise, by a timeout, a broadcast or another request.  It
does harm when the next fragment to be confirmed is one that carries no events at all, which is
what a broadcast that has to be confirmed can bring about.
-/

namespace OpenDnp3.Outstation

open App Lib
open Link (Addresses LinkBroadcastAddress)

/-! ## The log of responses -/

/-- The sequence number and the events of a response, solicited or unsolicited. -/
def Action.sent (uns : Bool) : Action → Option (Fin 16 × List Nat)
  | .response _ control events => if uns then none else some (control.SEQ, events)
  | .unsolicited control events => if uns then some (control.SEQ, events) else none
  | _ => none

/-- The last response, with its sequence number and events. -/
def lastSent (uns : Bool) (log : List Action) : Option (Fin 16 × List Nat) :=
  log.foldl (fun last a => (a.sent uns).or last) none

theorem lastSent_concat (uns : Bool) (log : List Action) (a : Action) :
    lastSent uns (log ++ [a]) = (a.sent uns).or (lastSent uns log) := by
  unfold lastSent
  rw [List.foldl_append, List.foldl_cons, List.foldl_nil]

variable {log : List Action}

theorem lastSent_append {uns : Bool} {actions : List Action}
    (h : ∀ a ∈ actions, a.sent uns = none) : lastSent uns (log ++ actions) = lastSent uns log := by
  unfold lastSent
  rw [List.foldl_append]
  refine foldl_ignore (fun a ha last => ?_) _
  rw [h a ha, Option.none_or]

/-- The last response has this sequence number and carries this event. -/
def Carried (uns : Bool) (log : List Action) (seq : Fin 16) (id : Nat) : Prop :=
  ∃ events, lastSent uns log = some (seq, events) ∧ id ∈ events

theorem Carried.congr {uns : Bool} {log' : List Action} {seq : Fin 16} {id : Nat}
    (h : Carried uns log seq id) (hsent : lastSent uns log' = lastSent uns log) :
    Carried uns log' seq id := by
  obtain ⟨events, hlast, hid⟩ := h
  exact ⟨events, hsent.trans hlast, hid⟩

/-- **A reason to leave the buffer**: the event was the oldest of its type and the type was full,
    or the last response of the kind that is being confirmed carried it, and the confirm has its
    sequence number. -/
def RemovedBy (past : List Action) (a : Action) (id : Nat) : Prop :=
  (∃ typed capacity, a = .evicted id typed capacity ∧ typed.head? = some id ∧
    typed.length = capacity) ∨
  (∃ uns seq ids, a = .cleared uns seq ids ∧ id ∈ ids ∧ Carried uns past seq id)

/-- The log has a reason for the event to be gone. -/
def Explained (log : List Action) (id : Nat) : Prop :=
  ∃ past a future, log = past ++ a :: future ∧ RemovedBy past a id

theorem Explained.append {id : Nat} (h : Explained log id) (actions : List Action) :
    Explained (log ++ actions) id := by
  obtain ⟨past, a, future, hlog, hremoved⟩ := h
  refine ⟨past, a, future ++ actions, ?_, hremoved⟩
  rw [hlog, List.append_assoc, List.cons_append]

instance (uns : Bool) (log : List Action) (seq : Fin 16) (id : Nat) :
    Decidable (Carried uns log seq id) :=
  decidable_of_iff (∃ sent ∈ lastSent uns log, sent.1 = seq ∧ id ∈ sent.2) <| by
    unfold Carried
    constructor
    · rintro ⟨⟨_, events⟩, hsent, rfl, hid⟩
      exact ⟨events, hsent, hid⟩
    · rintro ⟨events, hsent, hid⟩
      exact ⟨(seq, events), hsent, rfl, hid⟩

/-- The reasons in a form that can be evaluated. -/
def removes (past : List Action) (id : Nat) : Action → Bool
  | .evicted event typed capacity =>
    event == id && typed.head? == some id && typed.length == capacity
  | .cleared uns seq ids => ids.contains id && decide (Carried uns past seq id)
  | _ => false

theorem removedBy_iff (past : List Action) (a : Action) (id : Nat) :
    RemovedBy past a id ↔ removes past id a = true := by
  cases a with
  | evicted event typed capacity =>
    simp only [RemovedBy, removes, Action.evicted.injEq, Bool.and_eq_true, beq_iff_eq, reduceCtorEq,
      false_and, exists_false, or_false]
    constructor
    · rintro ⟨_, _, ⟨rfl, rfl, rfl⟩, hhead, hlength⟩
      exact ⟨⟨rfl, hhead⟩, hlength⟩
    · rintro ⟨⟨rfl, hhead⟩, hlength⟩
      exact ⟨typed, capacity, ⟨rfl, rfl, rfl⟩, hhead, hlength⟩
  | cleared uns seq ids =>
    simp only [RemovedBy, removes, Action.cleared.injEq, Bool.and_eq_true, List.contains_iff_mem,
      decide_eq_true_eq, reduceCtorEq, false_and, exists_false, false_or]
    constructor
    · rintro ⟨_, _, _, ⟨rfl, rfl, rfl⟩, hid, hcarried⟩
      exact ⟨hid, hcarried⟩
    · rintro ⟨hid, hcarried⟩
      exact ⟨uns, seq, ids, ⟨rfl, rfl, rfl⟩, hid, hcarried⟩
  | _ => simp [RemovedBy, removes]

/-- Whether there was a reason can be read off the log. -/
theorem explained_iff (log : List Action) (id : Nat) :
    Explained log id ↔ ∃ n, ∃ h : n < log.length, removes (log.take n) id log[n] = true := by
  constructor
  · rintro ⟨past, a, future, rfl, hremoved⟩
    refine ⟨past.length, by simp, ?_⟩
    rw [removedBy_iff] at hremoved
    simpa using hremoved
  · rintro ⟨n, h, hremoves⟩
    refine ⟨log.take n, log[n], log.drop (n + 1), ?_, (removedBy_iff ..).mpr hremoves⟩
    rw [List.getElem_cons_drop, List.take_append_drop]

instance (log : List Action) (id : Nat) : Decidable (Explained log id) :=
  decidable_of_iff _ (explained_iff log id).symm

theorem explained_concat {a : Action} {id : Nat} (h : RemovedBy log a id) :
    Explained (log ++ [a]) id :=
  ⟨log, a, [], rfl, h⟩

/-! ## Stations -/

namespace Station

/-- The events that are marked as written. -/
def written (st : Station) : List Nat := st.eventBuffer.lists.idsIn .written

/-- **Every event is in the buffer or has a reason not to be.** -/
def Accounted (st : Station) : Prop :=
  ∀ id < st.eventBuffer.lists.nextId, id ∈ st.eventBuffer.lists.ids ∨ Explained st.log id

/-- No event leaves without a reason, none gets marked, and no response is sent. -/
structure EventsKept (st st' : Station) : Prop where
  accounted : Accounted st → Accounted st'
  written : ∀ id ∈ st'.written, id ∈ st.written
  sent : ∀ uns, lastSent uns st'.log = lastSent uns st.log

namespace EventsKept

variable {st st' st'' : Station}

theorem refl (st : Station) : EventsKept st st := ⟨id, fun _ h => h, fun _ => rfl⟩

theorem trans (h : EventsKept st st') (h' : EventsKept st' st'') : EventsKept st st'' :=
  ⟨h'.accounted ∘ h.accounted, fun id hid => h.written id (h'.written id hid),
    fun uns => (h'.sent uns).trans (h.sent uns)⟩

/-- New entries in the log that are no responses. -/
theorem of_log {actions : List Action}
    (hlists : st'.eventBuffer.lists = st.eventBuffer.lists) (hlog : st'.log = st.log ++ actions)
    (hactions : ∀ a ∈ actions, ∀ uns, a.sent uns = none) : EventsKept st st' where
  accounted h := by
    intro id hid
    rw [hlists] at hid ⊢
    rw [hlog]
    exact (h id hid).imp_right fun hexplained => hexplained.append actions
  written := by
    unfold Station.written
    rw [hlists]
    exact fun _ h => h
  sent uns := by
    rw [hlog]
    exact lastSent_append fun a ha => hactions a ha uns

theorem of_eq (hlists : st'.eventBuffer.lists = st.eventBuffer.lists) (hlog : st'.log = st.log) :
    EventsKept st st' :=
  .of_log hlists (by rw [hlog, List.append_nil]) (by simp)

theorem record {a : Action} (h : ∀ uns, a.sent uns = none) (st : Station) :
    EventsKept st (st.record [a]) :=
  .of_log rfl rfl fun b hb => by rwa [List.mem_singleton.mp hb]

/-- Forgetting the marks. -/
theorem unselect (st : Station) :
    EventsKept st (st.setEventBuffer st.eventBuffer.unselect) where
  accounted h := by
    intro id hid
    refine (h id hid).imp_left fun hmem => ?_
    exact (EventLists.ids_unselect st.eventBuffer.lists).symm ▸ hmem
  written := by
    intro id hid
    have hnone := EventLists.written_unselect st.eventBuffer.lists
    change id ∈ st.eventBuffer.lists.unselect.idsIn .written at hid
    rw [hnone] at hid
    cases hid
  sent uns := rfl

theorem feed (st : Station) (event : AnyEvent) : EventsKept st (st.feed event) where
  accounted h := by
    intro id hid
    -- the new event is in the buffer, and an event that is pushed out is in the log
    have hlists : (st.feed event).eventBuffer.lists = (st.eventBuffer.lists.update event).1 := rfl
    rw [hlists] at hid ⊢
    by_cases hold : id < st.eventBuffer.lists.nextId
    · rcases h id hold with hmem | hexplained
      · rcases EventLists.ids_update event hmem with hkept | ⟨oldest, hevicted, hid'⟩
        · exact .inl hkept
        · refine .inr ?_
          have hentry : evictions st.eventBuffer.lists event.type =
              [.evicted id ((st.eventBuffer.lists.getList event.type).map EventRecord.id)
                (st.eventBuffer.lists.config.capacity event.type)] := by
            unfold evictions
            rw [hevicted, ← hid']
          change Explained (st.log ++ evictions _ _) id
          rw [hentry]
          obtain ⟨hhead, hfull, -⟩ := EventLists.evicted_oldest hevicted
          refine explained_concat (.inl ⟨_, _, rfl, ?_, ?_⟩)
          · rw [List.head?_map, hhead, ← hid']
            rfl
          · rw [List.length_map, hfull]
      · exact .inr (hexplained.append _)
    · exact .inl (EventLists.mem_update_new hold hid)
  written id hid := EventLists.written_update hid
  sent uns := by
    refine lastSent_append fun a ha => ?_
    unfold evictions at ha
    split at ha
    · cases ha
    · rw [List.mem_singleton.mp ha]
      rfl

theorem of_background (h : Background st st') : EventsKept st st' := by
  induction h with
  | refl => exact .refl st
  | tail _ hstep ih =>
    refine ih.trans ?_
    cases hstep with
    | feed event => exact .feed _ event
    | quiet h =>
      obtain ⟨actions, hlog, hactions⟩ := h.log
      refine .of_log h.lists hlog fun a ha uns => ?_
      have hquiet := hactions a ha
      cases a with
      | response | unsolicited => cases hquiet
      | _ => rfl

end EventsKept

end Station

open Station

/-! ## Before anything is sent -/

namespace OContext

/-- A broadcast that has to be confirmed has arrived, now or earlier. -/
def broadcastPending (s : OContext) (input : Input) : Bool :=
  decide (s.lastBroadcastMessageReceived = some .ShallConfirm) || input.isShallConfirm

/-- **How far a step can come before it sends anything**: marks and selections only disappear,
    and a broadcast is one that was known or has just arrived. -/
structure Before (s : OContext) (input : Input) (t : OContext) : Prop where
  written : ∀ id ∈ t.station.written, id ∈ s.station.written
  selection : t.hasSelection = true → s.hasSelection = true
  broadcast : t.lastBroadcastMessageReceived = some .ShallConfirm →
    s.broadcastPending input = true

theorem before_self (s : OContext) (input : Input) : Before s input s where
  written _ h := h
  selection := id
  broadcast h := by simp [broadcastPending, h]

/-- Selections that only disappear. -/
theorem hasSelection_mono {t t' : OContext}
    (hdatabase : t.station.database.NoNewSelection t'.station.database)
    (hevents : t'.station.eventBuffer.lists.counters.selected ≤
      t.station.eventBuffer.lists.counters.selected) (h : t'.hasSelection = true) :
    t.hasSelection = true := by
  unfold hasSelection EventBuffer.hasAnySelection at h ⊢
  rw [Bool.or_eq_true, decide_eq_true_eq] at h ⊢
  exact h.imp (fun hany => hdatabase hany) fun hpos => Nat.lt_of_lt_of_le hpos hevents

variable (env : Env) (u : OContext) {st : Station}

theorem hasSelection_background {t : OContext} (h : Background t.station st) :
    (t.setStation st).hasSelection = true → t.hasSelection = true := by
  induction h with
  | refl => exact id
  | @tail st₁ st₂ _ hstep ih =>
    intro hselection
    refine ih (hasSelection_mono ?_ ?_ hselection)
    · cases hstep with
      | feed => exact id
      | quiet h => exact h.selection
    · cases hstep with
      | feed event => exact EventLists.selected_update_le _ event
      | quiet h => exact Nat.le_of_eq (congrArg (·.counters.selected) h.lists)

variable {s t t' : OContext} {input : Input}

/-- Work in the background, with the same broadcast pending. -/
theorem Before.background (h : Before s input t) (hbackground : Background t.station st) :
    Before s input (t.setStation st) where
  written id hid := h.written id ((EventsKept.of_background hbackground).written id hid)
  selection hselection := h.selection (hasSelection_background hbackground hselection)
  broadcast := h.broadcast

/-- A change of what does not matter here. -/
theorem Before.of_eq (h : Before s input t)
    (hlists : t'.station.eventBuffer.lists = t.station.eventBuffer.lists)
    (hdatabase : t'.station.database = t.station.database)
    (hbroadcast : t'.lastBroadcastMessageReceived = t.lastBroadcastMessageReceived ∨
      t'.lastBroadcastMessageReceived = none) : Before s input t' where
  written id hid := by
    refine h.written id ?_
    unfold Station.written at hid ⊢
    rwa [hlists] at hid
  selection hselection := by
    refine h.selection (hasSelection_mono ?_ ?_ hselection)
    · rw [hdatabase]
      exact id
    · exact Nat.le_of_eq (congrArg (·.counters.selected) hlists)
  broadcast hpending := by
    rcases hbroadcast with hsame | hnone
    · exact h.broadcast (hsame ▸ hpending)
    · rw [hnone] at hpending
      cases hpending

/-- Marks and selections of events are forgotten. -/
theorem Before.unselect (h : Before s input t)
    (hlists : t'.station.eventBuffer.lists = t.station.eventBuffer.lists.unselect)
    (hdatabase : t'.station.database = t.station.database)
    (hbroadcast : t'.lastBroadcastMessageReceived = t.lastBroadcastMessageReceived) :
    Before s input t' where
  written id hid := by
    unfold Station.written at hid
    rw [hlists, EventLists.written_unselect] at hid
    cases hid
  selection hselection := by
    refine h.selection (hasSelection_mono ?_ ?_ hselection)
    · rw [hdatabase]
      exact id
    · rw [hlists]
      exact Nat.zero_le _
  broadcast hpending := h.broadcast (hbroadcast ▸ hpending)

/-- Marked events leave the buffer. -/
theorem Before.clear (h : Before s input t)
    (hlists : t'.station.eventBuffer.lists = t.station.eventBuffer.lists.clearWritten)
    (hdatabase : t'.station.database = t.station.database)
    (hbroadcast : t'.lastBroadcastMessageReceived = none) : Before s input t' where
  written id hid := by
    unfold Station.written at hid
    rw [hlists, EventLists.written_clearWritten] at hid
    cases hid
  selection hselection := by
    refine h.selection (hasSelection_mono ?_ ?_ hselection)
    · rw [hdatabase]
      exact id
    · apply Nat.le_of_eq
      rw [hlists, EventLists.selected_clearWritten]
  broadcast hpending := by
    rw [hbroadcast] at hpending
    cases hpending

/-- **Until something is being transmitted, a step is at its beginning.** -/
theorem before_effect (heffect : Effect s input t t')
    (ht : t.isTransmitting = false → Before s input t) (hfree : t'.isTransmitting = false) :
    Before s input t' := by
  have hself := before_self s input
  have hready : Before s input s.ready := hself.of_eq rfl rfl (.inl rfl)
  -- a broadcast of this step may set the flag, and the input says so
  have hflag : ∀ b, (b = some .ShallConfirm → input.isShallConfirm = true) →
      Before s input (s.setBroadcast b) := by
    intro b hb
    refine ⟨hself.written, hself.selection, fun hpending => ?_⟩
    unfold broadcastPending
    rw [Bool.or_eq_true]
    exact .inr (hb hpending)
  cases heffect with
  | online | timeoutIdle | timeoutNull | restartIIN | defer => exact hself.of_eq rfl rfl (.inl rfl)
  | layerDown | timeoutGiveUp => exact hself.unselect rfl rfl rfl
  | txReady => exact hready
  | updates updates env =>
    exact (hself.background (background_applyUpdates s.station env.timeSource updates)).of_eq rfl
      rfl (.inl rfl)
  | flag _ _ _ _ _ b hb => exact hflag b hb
  | broadcast _ _ _ _ _ b hb st hst =>
    exact ((hflag b hb).background (t := s.setBroadcast b) hst).of_eq rfl rfl (.inl rfl)
  | noAck _ env _ request =>
    exact hself.background (background_processRequestNoAck s.params env s.sol.num
      request.header.function request.objects s.station)
  | confirmIgnored => exact hready.of_eq rfl rfl (.inl rfl)
  | confirmLast | confirmUnsolicited => exact hself.clear rfl rfl rfl
  | confirmNull => exact hself.of_eq rfl rfl (.inr rfl)
  | repeatedReadDeferred _ _ _ _ hbefore | readDeferred _ _ _ _ hbefore =>
    exact (ht hbefore).of_eq rfl rfl (.inl rfl)
  | undefer | noUnsolicited => exact (ht hfree).of_eq rfl rfl (.inl rfl)
  | transmits h =>
    cases h with
    | _ => cases hfree

theorem before_effects (h : Effects s input s t) (hfree : t.isTransmitting = false) :
    Before s input t := by
  induction h with
  | refl => exact before_self s input
  | tail _ hlast ih => exact before_effect hlast ih hfree

/-- **How an outstation becomes idle before it sends anything**: it was idle already, its wait has
    run out or was ended by a broadcast, or a confirm has come, which settles the broadcast too. -/
theorem idle_effect (heffect : Effect s input t t')
    (ht : t.isTransmitting = false → t.isOnline = true → t.state = .Idle →
      s.state = .Idle ∨ input.endsWait = true ∨ t.lastBroadcastMessageReceived = none)
    (hfree : t'.isTransmitting = false) (honline : t'.isOnline = true) (hidle : t'.state = .Idle) :
    s.state = .Idle ∨ input.endsWait = true ∨ t'.lastBroadcastMessageReceived = none := by
  cases heffect with
  | online | txReady | updates | restartIIN | flag | noAck | defer | confirmIgnored =>
    exact .inl hidle
  | layerDown => cases honline
  | timeoutIdle _ hinput | timeoutNull _ hinput | timeoutGiveUp _ hinput =>
    rw [hinput]
    exact .inr (.inl rfl)
  | broadcast _ _ _ hinput hbroadcast =>
    rw [hinput]
    exact .inr (.inl hbroadcast)
  | confirmLast | confirmUnsolicited | confirmNull => exact .inr (.inr rfl)
  | repeatedReadDeferred | readDeferred | undefer | noUnsolicited => exact ht hfree honline hidle
  | transmits h =>
    cases h with
    | _ => cases hfree

theorem idle_effects (h : Effects s input s t) (hfree : t.isTransmitting = false)
    (honline : t.isOnline = true) (hidle : t.state = .Idle) :
    s.state = .Idle ∨ input.endsWait = true ∨ t.lastBroadcastMessageReceived = none := by
  induction h with
  | refl => exact .inl hidle
  | tail _ hlast ih => exact idle_effect hlast ih hfree honline hidle

/-! ## Loading a response -/

/-- Events are loaded: none is lost, and the marks are those that were there before and those of
    the events that were loaded. -/
structure Loads (st st' : Station) (marked events : List Nat) : Prop where
  accounted : Accounted st → Accounted st'
  written : ∀ id ∈ st'.written, id ∈ marked ∨ id ∈ events

/-- The same events, the same log. -/
theorem accounted_of_ids {st' : Station}
    (hids : st'.eventBuffer.lists.ids = st.eventBuffer.lists.ids)
    (hnext : st'.eventBuffer.lists.nextId = st.eventBuffer.lists.nextId) (hlog : st'.log = st.log)
    (h : Accounted st) : Accounted st' := by
  unfold Accounted
  rw [hids, hnext, hlog]
  exact h

theorem loads_loadResponse (w : HeaderWriter) :
    Loads u.station (u.loadResponse w).1.station u.station.written (u.loadResponse w).2.events := by
  have hids := u.station.eventBuffer.lists.ids_write w
  have hwritten : ∀ id, id ∈ (u.station.eventBuffer.lists.write w).1.idsIn .written →
      id ∈ u.station.written ∨ id ∈ (u.station.eventBuffer.lists.write w).2.2 :=
    fun id hid => EventLists.written_write hid
  unfold loadResponse
  dsimp only
  split <;> exact ⟨accounted_of_ids hids rfl rfl, hwritten⟩

theorem loads_loadRead (objects : List UInt8) (w : HeaderWriter) :
    Loads u.station (u.loadRead objects w).1.station [] (u.loadRead objects w).2.2.events := by
  have hunselected : ∀ id, id ∉ u.station.eventBuffer.lists.unselect.idsIn .written := by
    rw [EventLists.written_unselect]
    exact fun id => List.not_mem_nil
  have hids := EventLists.ids_unselect u.station.eventBuffer.lists
  unfold loadRead
  dsimp only
  split
  · exact ⟨accounted_of_ids hids rfl rfl, fun id hid => absurd hid (hunselected id)⟩
  · rename_i database eventBuffer errors hread
    -- the request selects among events that carry no marks
    obtain ⟨hids', hnext', hnone⟩ := eventBuffer_readHandler
      (P := fun b => b.lists.ids = u.station.eventBuffer.lists.ids ∧
        b.lists.nextId = u.station.eventBuffer.lists.nextId ∧ ∀ id, id ∉ b.lists.idsIn .written)
      (fun b gv maximum hb => by
        obtain ⟨hselected, hwritten⟩ := b.selectMaxCount_spec gv maximum
        refine ⟨hselected.trans hb.1, (b.nextId_selectMaxCount gv maximum).trans hb.2.1, ?_⟩
        exact fun id hid => hb.2.2 id (hwritten id hid))
      (b := u.station.eventBuffer.unselect) ⟨hids, rfl, hunselected⟩ hread
    have hload := loads_loadResponse (((u.setFragmentCount 0).unselectAll).setStation
      ((((u.setFragmentCount 0).unselectAll).station.setDatabase database).setEventBuffer
        eventBuffer)) w
    refine ⟨fun h => hload.accounted (accounted_of_ids hids' hnext' rfl h), ?_⟩
    intro id hid
    exact .inr ((hload.written id hid).resolve_left (hnone id))

theorem loads_loadUnsolicited :
    Loads u.station u.loadUnsolicited.1.station [] u.loadUnsolicited.2.2 := by
  have hunselected : ∀ id, id ∉ u.station.eventBuffer.lists.unselect.idsIn .written := by
    rw [EventLists.written_unselect]
    exact fun id => List.not_mem_nil
  obtain ⟨hselected, hwritten⟩ := u.station.eventBuffer.unselect.selectAllByClass_spec
    u.station.unsolClassMask
  refine ⟨accounted_of_ids ?_ rfl rfl, ?_⟩
  · exact ((EventLists.ids_write _ _).trans hselected).trans (EventLists.ids_unselect _)
  · intro id hid
    refine .inr ((EventLists.written_write hid).resolve_left ?_)
    exact fun hold => hunselected id (hwritten id hold)

/-! ## What the marks mean -/

/-- **The marks belong to the response whose confirm is awaited**, as long as one is. -/
structure MarksOk (s : OContext) : Prop where
  accounted : Accounted s.station
  solicited : s.state = .SolicitedConfirmWait →
    ∀ id ∈ s.station.written, Carried false s.station.log s.sol.confirmNum id
  unsolicited : s.awaitsUnsolicited → s.completedNull = true →
    ∀ id ∈ s.station.written, Carried true s.station.log s.unsol.confirmNum id

/-- In the idle state the marks mean nothing. -/
theorem marksOk_idle (hidle : t.state = .Idle) (h : Accounted t.station) : MarksOk t where
  accounted := h
  solicited hstate := by
    rw [hidle] at hstate
    cases hstate
  unsolicited hstate := by
    rcases hstate with hstate | hstate
    · rw [hidle] at hstate
      cases hstate
    · rw [hidle] at hstate
      cases hstate

/-- The wait goes on, and no response is sent. -/
theorem MarksOk.kept (h : MarksOk t) (hkept : EventsKept t.station t'.station)
    (hstate : t'.state = t.state) (hsol : t'.sol.confirmNum = t.sol.confirmNum)
    (hunsol : t'.unsol.confirmNum = t.unsol.confirmNum)
    (hnull : t'.completedNull = t.completedNull) : MarksOk t' where
  accounted := hkept.accounted h.accounted
  solicited hwait id hid := by
    rw [hsol]
    exact (h.solicited (hstate ▸ hwait) id (hkept.written id hid)).congr (hkept.sent false)
  unsolicited hwait hcompleted id hid := by
    rw [hunsol]
    have hwait' : t.awaitsUnsolicited := by
      unfold awaitsUnsolicited at hwait ⊢
      rwa [hstate] at hwait
    exact (h.unsolicited hwait' (hnull ▸ hcompleted) id (hkept.written id hid)).congr
      (hkept.sent true)

/-- The wait is over. -/
theorem MarksOk.idle (h : MarksOk t) (hkept : EventsKept t.station t'.station)
    (hidle : t'.state = .Idle) : MarksOk t' :=
  marksOk_idle hidle (hkept.accounted h.accounted)

/-! ### Responses -/

theorem accounted_answered {u : OContext} (h : Accounted u.station) (kind : ResponseKind)
    (destination : UInt16) (seq : Fin 16) (iin : IINField) (loaded : Loaded) :
    Accounted (u.answered env kind destination seq iin loaded).station := by
  intro id hid
  have hlists : (u.answered env kind destination seq iin loaded).station.eventBuffer.lists =
      u.station.eventBuffer.lists := EventBuffer.lists_isOverflown _
  rw [hlists] at hid ⊢
  refine (h id hid).imp_right fun hexplained => ?_
  exact (hexplained.append [_]).append [_]

theorem written_answered (kind : ResponseKind) (destination : UInt16) (seq : Fin 16)
    (iin : IINField) (loaded : Loaded) :
    (u.answered env kind destination seq iin loaded).station.written = u.station.written := by
  change (EventBuffer.lists u.station.eventBuffer.isOverflown.1).idsIn .written = _
  rw [EventBuffer.lists_isOverflown]
  rfl

theorem lastSent_answered (kind : ResponseKind) (destination : UInt16) (seq : Fin 16)
    (iin : IINField) (loaded : Loaded) :
    lastSent false (u.answered env kind destination seq iin loaded).station.log =
        some (seq, loaded.events) ∧
      lastSent true (u.answered env kind destination seq iin loaded).station.log =
        lastSent true u.station.log := by
  have hlog : (u.answered env kind destination seq iin loaded).station.log =
      (u.station.log ++ [.response kind (u.sentControl seq loaded.control) loaded.events]) ++
        [.transmit destination (u.sentTx env seq iin loaded).lastResponse] := rfl
  rw [hlog]
  constructor
  · rw [lastSent_concat, lastSent_concat]
    rfl
  · rw [lastSent_concat, lastSent_concat]
    rfl

/-- **A response that wants a confirm carries every event that is marked.** -/
theorem marksOk_sending {u : OContext} (h : Accounted u.station) (kind : ResponseKind)
    (destination : UInt16) (seq : Fin 16) (iin : IINField) (loaded : Loaded)
    (hmarks : (u.sentControl seq loaded.control).CON = true →
      ∀ id ∈ u.station.written, id ∈ loaded.events) :
    MarksOk (u.sending env kind destination seq iin loaded) := by
  have haccounted := accounted_answered env h kind destination seq iin loaded
  -- without CON the outstation is idle, and nothing is claimed of the marks
  cases hcon : (u.sentControl seq loaded.control).CON with
  | false =>
    refine marksOk_idle ?_ haccounted
    change stateAfter _ = _
    unfold stateAfter
    rw [hcon]
    rfl
  | true =>
    have hstate : (u.sending env kind destination seq iin loaded).state =
        .SolicitedConfirmWait := by
      change stateAfter _ = _
      unfold stateAfter
      rw [hcon]
      rfl
    refine ⟨haccounted, fun _ id hid => ?_, fun hwait => ?_⟩
    · refine ⟨loaded.events, (lastSent_answered ..).1, hmarks hcon id ?_⟩
      exact (written_answered env u kind destination seq iin loaded) ▸ hid
    · unfold awaitsUnsolicited at hwait
      rw [hstate] at hwait
      rcases hwait with hwait | hwait <;> cases hwait

/-- A response on the side, while the confirm of an unsolicited response is awaited. -/
theorem MarksOk.aside {u : OContext} (h : MarksOk u) (env : Env) (hstate : u.awaitsUnsolicited)
    (kind : ResponseKind) (destination : UInt16) (seq : Fin 16) (iin : IINField)
    (loaded : Loaded) : MarksOk (u.answered env kind destination seq iin loaded) where
  accounted := accounted_answered env h.accounted kind destination seq iin loaded
  solicited hwait := by
    change u.state = _ at hwait
    unfold awaitsUnsolicited at hstate
    rw [hwait] at hstate
    rcases hstate with hstate | hstate <;> cases hstate
  unsolicited _ hnull id hid := by
    rw [written_answered] at hid
    exact (h.unsolicited hstate hnull id hid).congr (lastSent_answered ..).2

/-- A request that is no READ neither loses nor marks events. -/
theorem EventsKept.of_handled {params : OutstationParams} {now : Nat} {seq : Fin 16}
    {function : FunctionCode} {objects : List UInt8} {st' : Station}
    (h : Handled params now seq function objects st st') : EventsKept st st' := by
  cases h with
  | background h => exact .of_background h
  | select => exact .record (fun _ => rfl) st
  | selected => exact (EventsKept.record (fun _ => rfl) st).trans (.of_eq rfl rfl)
  | operate _ _ _ h =>
    exact ((EventsKept.of_background h).trans (.record (fun _ => rfl) _)).trans (.of_eq rfl rfl)
  | refused =>
    have hcontrol : EventsKept st (st.setControl st.control.unselect) := .of_eq rfl rfl
    exact hcontrol.trans (.record (fun _ => rfl) _)

/-! ### Confirms -/

/-- **The events that a confirm clears were carried by the response that it confirms.** -/
theorem accounted_clearConfirmed {uns : Bool} {seq : Fin 16} (h : Accounted st)
    (hmarks : ∀ id ∈ st.written, Carried uns st.log seq id) :
    Accounted (st.clearConfirmed uns seq) := by
  intro id hid
  rcases h id hid with hmem | hexplained
  · rcases EventLists.mem_clearWritten hmem with hkept | hwritten
    · exact .inl hkept
    · refine .inr (explained_concat (.inr ⟨uns, seq, _, rfl, hwritten, ?_⟩))
      exact hmarks id hwritten
  · exact .inr (hexplained.append _)

/-- The station of a confirmed solicited response. -/
theorem accounted_solicitedConfirm (h : MarksOk s) (hstate : s.state = .SolicitedConfirmWait) :
    Accounted (s.station.solicitedConfirm s.sol.confirmNum) ∧
      (s.station.solicitedConfirm s.sol.confirmNum).written = [] := by
  have hconfirm : EventsKept s.station (s.station.record [.confirm false s.sol.confirmNum]) :=
    .record (fun _ => rfl) _
  constructor
  · refine (EventsKept.record (fun _ => rfl) _).accounted ?_
    refine accounted_clearConfirmed (hconfirm.accounted h.accounted) fun id hid => ?_
    exact (h.solicited hstate id (hconfirm.written id hid)).congr (hconfirm.sent false)
  · exact EventLists.written_clearWritten _

theorem eventsKept_unsolicitedConfirm (st : Station) (seq : Fin 16) :
    EventsKept st (st.unsolicitedConfirm seq) :=
  (EventsKept.record (fun _ => rfl) st).trans (.record (fun _ => rfl) _)

theorem accounted_unsolicitedConfirm (h : MarksOk s) (hstate : s.awaitsUnsolicited)
    (hnull : s.completedNull = true) :
    Accounted ((s.station.unsolicitedConfirm s.unsol.confirmNum).clearConfirmed true
      s.unsol.confirmNum) := by
  have hconfirm := eventsKept_unsolicitedConfirm s.station s.unsol.confirmNum
  refine accounted_clearConfirmed (hconfirm.accounted h.accounted) fun id hid => ?_
  exact (h.unsolicited hstate hnull id (hconfirm.written id hid)).congr (hconfirm.sent true)

/-! ### Unsolicited responses -/

theorem eventsKept_announced (iin : IINField) (w : HeaderWriter) (events : List Nat) :
    Accounted u.station → Accounted (u.announced iin w events).station := by
  intro h id hid
  refine (h id hid).imp_right fun hexplained => ?_
  exact (hexplained.append [_]).append [_]

theorem lastSent_announced (iin : IINField) (w : HeaderWriter) (events : List Nat) :
    lastSent true (u.announced iin w events).station.log = some (u.unsol.num, events) := by
  have hlog : (u.announced iin w events).station.log =
      (u.station.log ++ [.unsolicited u.unsolicitedControl events]) ++
        [.transmit u.addresses.destination (u.unsolicitedTx iin w).lastResponse] := rfl
  rw [hlog, lastSent_concat, lastSent_concat]
  rfl

/-- The overflow flag has nothing to do with the events. -/
theorem eventsKept_getResponseIIN : EventsKept u.station (u.getResponseIIN env).1.station :=
  .of_eq (EventBuffer.lists_isOverflown _) rfl

theorem marksOk_announcedNull (h : Accounted t.station) (hnull : t.completedNull = false) :
    MarksOk (t.announcedNull env) where
  accounted := eventsKept_announced _ _ _ _ ((eventsKept_getResponseIIN env t).accounted h)
  solicited hstate := by
    unfold announcedNull at hstate
    dsimp only at hstate
    split at hstate <;> cases hstate
  unsolicited _ hcompleted := absurd (hcompleted.symm.trans hnull) Bool.noConfusion

/-- **An unsolicited response carries every event that is marked.** -/
theorem marksOk_announcedEvents (h : Accounted t.station) : MarksOk (t.announcedEvents env) := by
  have hloads := loads_loadUnsolicited t
  unfold announcedEvents
  generalize t.loadUnsolicited = result at hloads
  obtain ⟨u, w, events⟩ := result
  have hkept := eventsKept_getResponseIIN env u
  refine ⟨eventsKept_announced _ _ _ _ (hkept.accounted (hloads.accounted h)), ?_, ?_⟩
  · intro hstate
    cases hstate
  · intro _ _ id hid
    refine ⟨events, lastSent_announced .., ?_⟩
    exact (hloads.written id (hkept.written id hid)).resolve_left List.not_mem_nil

/-! ## Runs -/

/-- Does the step answer the request without events, in a way that decides about the wait for a
    confirm?  A READ of a file that is not received in this step waits until the outstation is
    idle; when a confirm ends the wait, nothing is left to confirm. -/
def answersWithoutEvents (s : OContext) (input : Input) (request : ParsedRequest) : Bool :=
  if request.header.function = .READ then
    isFileReadRequest request.objects && (s.state == .Idle || input.endsWait ||
      decide (s.received input = some request) && s.state != .UnsolicitedConfirmWait)
  else
    request.header.function != .CONFIRM && !s.recognises request &&
      (s.state == .Idle || s.state == .SolicitedConfirmWait)

/-- **The condition**: no answer without events asks for the confirm of a broadcast while events
    are marked. -/
def ConfirmsOwnEvents (s : OContext) (input : Input) : Prop :=
  ∀ request ∈ s.requests input, request.header.control.UNS = false →
    s.answersWithoutEvents input request = true → s.broadcastPending input = true →
      s.station.written = []

instance (s : OContext) (input : Input) : Decidable (ConfirmsOwnEvents s input) := by
  unfold ConfirmsOwnEvents
  infer_instance

/-- A response of one fragment asks for a confirm only because of a broadcast. -/
theorem broadcast_of_singleFragment {u : OContext} {seq : Fin 16} {w : HeaderWriter}
    (h : (u.sentControl seq (singleFragment w).control).CON = true) :
    u.lastBroadcastMessageReceived = some .ShallConfirm := by
  unfold sentControl singleFragment at h
  simpa using h

/-- An answer without events. -/
theorem marksOk_singleFragment {u : OContext} (h : Accounted u.station) (destination : UInt16)
    (seq : Fin 16) (iin : IINField) (w : HeaderWriter)
    (hmarks : u.lastBroadcastMessageReceived = some .ShallConfirm → u.station.written = []) :
    MarksOk (u.sending env .other destination seq iin (singleFragment w)) := by
  refine marksOk_sending env h .other destination seq iin (singleFragment w) fun hcon id hid => ?_
  rw [hmarks (broadcast_of_singleFragment hcon)] at hid
  cases hid

theorem marksOk_effect (hok : ConfirmsOwnEvents s input) (hs : MarksOk s)
    (hbefore : Effects s input s t) (heffect : Effect s input t t') (ht : MarksOk t) :
    MarksOk t' := by
  have hready : MarksOk s.ready := hs.kept (.refl _) rfl rfl rfl rfl
  cases heffect with
  | online | restartIIN => exact hs.kept (.of_eq rfl rfl) rfl rfl rfl rfl
  | layerDown =>
    exact hs.idle ((EventsKept.unselect s.station).trans (.record (fun _ => rfl) _)) rfl
  | txReady => exact hready
  | timeoutIdle | timeoutNull => exact hs.idle (.record (fun _ => rfl) _) rfl
  | timeoutGiveUp =>
    refine hs.idle ?_ rfl
    exact (EventsKept.record (fun _ => rfl) s.station).trans (.unselect _)
  | updates updates env =>
    have hupdated := background_applyUpdates s.station env.timeSource updates
    exact hs.kept ((EventsKept.of_background hupdated).trans (.of_eq rfl rfl)) rfl rfl rfl rfl
  | flag | defer => exact hs.kept (.refl _) rfl rfl rfl rfl
  | broadcast _ _ _ _ _ _ _ st hst =>
    exact hs.idle ((EventsKept.of_background hst).trans (.record (fun _ => rfl) _)) rfl
  | noAck =>
    exact hs.kept (.of_background (background_processRequestNoAck ..)) rfl rfl rfl rfl
  | confirmIgnored => exact hready.kept (.record (fun _ => rfl) _) rfl rfl rfl rfl
  | confirmLast request _ _ hstate _ hseq =>
    rw [← hseq]
    exact marksOk_idle rfl (accounted_solicitedConfirm hs hstate).1
  | confirmUnsolicited request _ _ hstate _ hseq hnull =>
    rw [← hseq]
    exact marksOk_idle rfl (accounted_unsolicitedConfirm hs hstate hnull)
  | confirmNull request =>
    exact hs.idle ((eventsKept_unsolicitedConfirm s.station _).trans (.of_eq rfl rfl)) rfl
  | repeatedReadDeferred | readDeferred | undefer => exact ht.kept (.refl _) rfl rfl rfl rfl
  | noUnsolicited => exact ht.kept (.of_eq rfl rfl) rfl rfl rfl rfl
  | transmits h =>
    cases h with
    | timeoutRetry =>
      refine hs.kept ?_ rfl rfl rfl rfl
      exact (EventsKept.record (fun _ => rfl) s.station).trans (.record (fun _ => rfl) _)
    | confirmNext env request _ _ hstate _ hseq _ u hu st loaded hload =>
      have hconfirmed : Accounted u.station ∧ u.station.written = [] := by
        rw [hu, ← hseq]
        exact accounted_solicitedConfirm hs hstate
      have hloads := loads_loadResponse u u.sol.tx.start
      rw [hload, hconfirmed.2] at hloads
      refine marksOk_sending env (hloads.accounted hconfirmed.1) _ _ _ _ _ fun _ id hid => ?_
      exact (hloads.written id hid).resolve_left List.not_mem_nil
    | repeatedNonRead => exact hs.kept (.record (fun _ => rfl) _) rfl rfl rfl rfl
    | repeatedRead => exact ht.kept (.record (fun _ => rfl) _) rfl rfl rfl rfl
    -- an answer without events: `hok` says that nothing is marked if it asks for CON
    | nonRead env request hrequest hfunction huns hnew hstate st hhandled w iin hconfirm =>
      have hkept := EventsKept.of_handled hhandled
      refine marksOk_singleFragment env
        (u := s.handling request s.givenUp s.deferred s.fragmentCount st)
        (hkept.accounted hs.accounted) _ _ _ _ fun hpending => ?_
      have hanswer : s.answersWithoutEvents input request = true := by
        unfold answersWithoutEvents
        rw [if_neg hfunction, hnew]
        simpa [hconfirm] using hstate
      have hnone := hok request hrequest huns hanswer ((before_self s input).broadcast hpending)
      refine List.eq_nil_iff_forall_not_mem.mpr fun id hid => ?_
      have hid' := hkept.written id hid
      rw [hnone] at hid'
      cases hid'
    | nonReadAside env request _ _ _ _ hstate st hhandled w iin =>
      have hkept := EventsKept.of_handled hhandled
      have hu : MarksOk (s.handling request s.confirmTimer none s.fragmentCount st) :=
        hs.kept hkept rfl rfl rfl rfl
      exact hu.aside env hstate _ _ _ _ _
    | read env request _ _ _ _ _ _ _ n st iin loaded hload =>
      have hloads := loads_loadRead
        (t.handling request t.givenUp t.deferred t.fragmentCount t.station) request.objects
        t.sol.tx.start
      rw [hload] at hloads
      refine marksOk_sending env (hloads.accounted ht.accounted) _ _ _ _ _ fun _ id hid => ?_
      exact (hloads.written id hid).resolve_left List.not_mem_nil
    | fileRead env request hrequest hfunction huns hfree _ hstate hfile st hst w iin hturn =>
      have hkept := EventsKept.of_background hst
      refine marksOk_singleFragment env
        (u := t.handling request t.givenUp t.deferred t.fragmentCount st)
        (hkept.accounted ht.accounted) _ _ _ _ fun hpending => ?_
      -- nothing has been sent yet in this step, so the marks are those it began with
      have hbegin := before_effects hbefore hfree
      have hturn' : s.state = .Idle ∨ input.endsWait = true ∨
          s.received input = some request ∧ s.state ≠ .UnsolicitedConfirmWait := by
        rcases hturn with ⟨hreceived, rfl⟩ | ⟨honline, hidle⟩
        · exact .inr (.inr ⟨hreceived, hstate⟩)
        · refine (idle_effects hbefore hfree honline hidle).imp_right fun h => ?_
          have hsome : ¬ t.lastBroadcastMessageReceived = none := by
            rw [show t.lastBroadcastMessageReceived = _ from hpending]
            exact Option.some_ne_none _
          exact .inl (h.resolve_right hsome)
      have hanswer : s.answersWithoutEvents input request = true := by
        unfold answersWithoutEvents
        rw [if_pos hfunction, hfile]
        simpa [or_assoc] using hturn'
      have hnone := hok request hrequest huns hanswer (hbegin.broadcast hpending)
      refine List.eq_nil_iff_forall_not_mem.mpr fun id hid => ?_
      have hid' := hbegin.written id (hkept.written id hid)
      rw [hnone] at hid'
      cases hid'
    | unsolicitedNull env _ hnull => exact marksOk_announcedNull env ht.accounted hnull
    | unsolicited env =>
      have hkept : EventsKept t.station (t.station.setShouldCheck false) := .of_eq rfl rfl
      exact marksOk_announcedEvents env (hkept.accounted ht.accounted)

end OContext

open OContext

/-- Every event that is not in the buffer any more had a reason to leave it. -/
def AllExplained (s : OContext) : Prop :=
  ∀ id < s.station.eventBuffer.lists.nextId, id ∉ s.station.eventBuffer.lists.ids →
    Explained s.station.log id

instance (s : OContext) : Decidable (AllExplained s) := by
  unfold AllExplained
  infer_instance

/-- **Events leave the buffer for a reason**: in every run in which no answer without events asks
    for the confirm of a broadcast while events are marked, an event leaves because a newer one
    pushes it out or because a response that carried it is confirmed. -/
theorem events_explained (addresses : Addresses) (params : OutstationParams)
    (numUnsolRetries : Option Nat) (unsolClassMask : ClassField) (config : EventBufferConfig)
    (database : Database) (inputs : List Input)
    (hok : Along OContext.step ConfirmsOwnEvents
      (.init addresses params numUnsolRetries unsolClassMask config database) inputs) :
    Always OContext.step AllExplained
      (.init addresses params numUnsolRetries unsolClassMask config database) inputs := by
  have hinit : MarksOk (.init addresses params numUnsolRetries unsolClassMask config database) :=
    marksOk_idle rfl fun id hid => by cases hid
  have h := always_of_effects (P := MarksOk)
    (fun s input t t' hinput hs hbefore heffect ht => marksOk_effect hinput hs hbefore heffect ht)
    hinit (deferredOk_of_none rfl) hok
  refine h.mono fun s hs id hid hgone => ?_
  exact (hs.accounted id hid).resolve_left hgone

/-- A READ of class 1 carries the event 0, its confirm does not arrive in time, and a broadcast
    that shall be confirmed makes the answer to the next request ask for a confirm. -/
def confirmedLater : List Input :=
  [.lowerLayerUp (Sample.env 0), Sample.change 0 true 1, Sample.request 0xC0 1 [60, 2, 6] 10,
    .txReady (Sample.env 20), .confirmTimeout (Sample.env 50), Sample.broadcast 0xC1 2 [] 60,
    Sample.request 0xC2 23 [] 70, .txReady (Sample.env 80), Sample.request 0xC2 0 [] 90]

/-- **The confirm of a response without events removes an event.** -/
theorem event_lost : ¬ AllExplained
    (run OContext.step (Sample.outstation 1 1 249 false) confirmedLater) := by
  decide +kernel

/-- A READ of class 1 carries the event 0 while a broadcast has to be confirmed, and its confirm
    arrives. -/
def confirmedInTime : List Input :=
  [.lowerLayerUp (Sample.env 0), Sample.change 0 true 1, Sample.broadcast 0xC1 2 [] 5,
    Sample.request 0xC0 1 [60, 2, 6] 10, .txReady (Sample.env 20), Sample.request 0xC0 0 [] 30]

/-- There the event is gone for a reason. -/
theorem events_explained_confirmed :
    Along OContext.step ConfirmsOwnEvents (Sample.outstation 1 1 249 false) confirmedInTime ∧
    (run OContext.step (Sample.outstation 1 1 249 false)
      confirmedInTime).station.eventBuffer.lists.ids = [] ∧
    Always OContext.step AllExplained (Sample.outstation 1 1 249 false) confirmedInTime :=
  have hok : Along OContext.step ConfirmsOwnEvents (Sample.outstation 1 1 249 false)
      confirmedInTime := by
    decide +kernel
  ⟨hok, by decide +kernel, events_explained _ _ _ _ _ _ _ hok⟩

end OpenDnp3.Outstation
