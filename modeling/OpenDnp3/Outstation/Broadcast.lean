import OpenDnp3.Outstation.Moves

/-!
# Broadcasts

A request that is sent to all outstations is dispatched by `ProcessBroadcastRequest`, a second
switch over the function code beside `ProcessRequestNoAck` and `HandleNonReadResponse`.  It has
guards of its own.  This module compares the two: what does a request do that was sent to all
outstations, and what would it have done if it had been sent to this one?
-/

namespace OpenDnp3.Outstation

open App

/-- The functions that `ProcessBroadcastRequest` knows. -/
def isBroadcastFuncCode : FunctionCode → Bool
  | .WRITE | .DIRECT_OPERATE_NR | .IMMED_FREEZE_NR | .FREEZE_CLEAR_NR | .ASSIGN_CLASS
  | .RECORD_CURRENT_TIME | .DISABLE_UNSOLICITED | .ENABLE_UNSOLICITED => true
  | _ => false

/-- The entries of the log about the messages that are exchanged. -/
def Action.isMessage : Action → Bool
  | .transmit .. | .response .. | .broadcast => true
  | _ => false

/-- The station with what happened to it, but for the messages. -/
def Station.effect (st : Station) : Station :=
  { st with log := st.log.filter (!·.isMessage) }

theorem Station.effect_eq_iff (st : Station) (time time' : TimeSyncState)
    (buffer buffer' : EventBuffer) :
    ((st.setTime time).setEventBuffer buffer).effect =
      ((st.setTime time').setEventBuffer buffer').effect ↔ time = time' ∧ buffer = buffer' := by
  constructor
  · intro h
    exact ⟨congrArg Station.time h, congrArg Station.eventBuffer h⟩
  · rintro ⟨rfl, rfl⟩
    rfl

namespace OContext

/-! ## The two switches -/

/-- The station after the handler of a request for this outstation alone, with the sequence number
    that is recorded. -/
def handledAlone (env : Env) (s : OContext) (request : ParsedRequest) : Station :=
  if isNoAckFuncCode request.header.function then
    processRequestNoAck s.params env s.sol.num request.header.function request.objects s.station
  else
    (handleNonReadResponse s.params env s.sol.num request.header.function request.objects
      s.sol.tx.start s.station).1

/-- The station after the handler of a request for all outstations. -/
def handledBroadcast (env : Env) (s : OContext) (request : ParsedRequest) : Station :=
  processBroadcastRequest s.params env s.sol.num request.header.function request.objects s.station

variable {request : ParsedRequest}

variable (env : Env) (s : OContext)

/-- **A broadcast** does what its handler does, and is noted in the log. -/
theorem station_broadcast (h : request.addresses.isBroadcast = true) :
    (s.processObjects env request).station =
      (s.handledBroadcast env request).record [.broadcast] := by
  unfold processObjects
  rw [if_pos h]
  rfl

/-- A request without an answer does what its handler does. -/
theorem station_noAck (h : request.addresses.isBroadcast = false)
    (hfunction : isNoAckFuncCode request.header.function = true) :
    (s.processObjects env request).station = s.handledAlone env request := by
  unfold processObjects handledAlone
  rw [if_neg (by simp [h]), if_pos hfunction, if_pos hfunction]
  rfl

theorem station_respondToNonReadRequest (request : ParsedRequest)
    (hfunction : isNoAckFuncCode request.header.function = false) :
    ∃ control tx, (s.respondToNonReadRequest env request).1.station =
      (((s.handledAlone env request).setEventBuffer
        (s.handledAlone env request).eventBuffer.isOverflown.1).record
          [.response .other control []]).record
            [.transmit request.addresses.source (TxBuffer.lastResponse tx)] := by
  unfold respondToNonReadRequest handledAlone
  rw [if_neg (by simp [hfunction])]
  dsimp only
  rw [respondLoaded_eq]
  exact ⟨_, _, rfl⟩

/-- **A new request for this outstation alone** does what its handler does under the number of the
    request.  What the answer adds is the lapse of an overflow indication and the fragment. -/
theorem station_alone (haddress : request.addresses.isBroadcast = false)
    (hfunction : isNoAckFuncCode request.header.function = false)
    (hread : request.header.function ≠ .READ) (hconfirm : request.header.function ≠ .CONFIRM)
    (hfree : s.isTransmitting = false) (huns : request.header.control.UNS = false)
    (hnew : s.recognises request = false) (hnum : s.sol.num = request.header.control.SEQ) :
    ∃ control tx, (s.processObjects env request).station =
      (((s.handledAlone env request).setEventBuffer
        (s.handledAlone env request).eventBuffer.isOverflown.1).record
          [.response .other control []]).record
            [.transmit request.addresses.source (TxBuffer.lastResponse tx)] := by
  have hrequest : s.processObjects env request = take (s.onNewNonReadRequest env request) := by
    have hsol : s.setSol { s.sol with num := request.header.control.SEQ } = s := by
      rw [← hnum]
      rfl
    unfold processObjects processRequest onReceiveSolRequest
    rw [if_neg (by simp [haddress]), if_neg (by simp [hfunction]), if_neg (by simp [hfree]),
      if_neg hconfirm, if_neg (by simp [huns]), if_neg (by simp [hnew]), if_neg hread, hsol]
  -- the states differ in the timer and in the slot for a deferred request only
  rw [hrequest, station_take]
  unfold onNewNonReadRequest
  cases s.state with
  | Idle => exact s.station_respondToNonReadRequest env request hfunction
  | SolicitedConfirmWait =>
    exact (s.setTimer false).station_respondToNonReadRequest env request hfunction
  | UnsolicitedConfirmWait | NullUnsolicitedConfirmWait =>
    exact (s.setDeferred none).station_respondToNonReadRequest env request hfunction

/-! ## Where they agree -/

/-- Every function but one is handled in the same way. -/
theorem handledBroadcast_eq (hfunction : isBroadcastFuncCode request.header.function = true)
    (hfile : request.header.function = .WRITE → isFileWriteRequest request.objects = false)
    (htime : request.header.function ≠ .RECORD_CURRENT_TIME) :
    s.handledBroadcast env request = s.handledAlone env request := by
  unfold handledBroadcast handledAlone
  cases hf : request.header.function with
  | WRITE =>
    have hblock := hfile hf
    simp [processBroadcastRequest, isNoAckFuncCode, handleNonReadResponse, hblock, withoutObjects]
  | DIRECT_OPERATE_NR | IMMED_FREEZE_NR | FREEZE_CLEAR_NR | ASSIGN_CLASS => rfl
  | RECORD_CURRENT_TIME => exact absurd hf htime
  | DISABLE_UNSOLICITED =>
    -- both are guarded by the same parameter
    cases hallow : s.params.allowUnsolicited <;>
      simp [processBroadcastRequest, isNoAckFuncCode, handleNonReadResponse, hallow,
        withoutObjects]
  | ENABLE_UNSOLICITED =>
    cases hallow : s.params.allowUnsolicited <;>
      simp [processBroadcastRequest, isNoAckFuncCode, handleNonReadResponse, hallow,
        withoutObjects]
  | _ =>
    rw [hf] at hfunction
    cases hfunction

/-- The guards for recording the time are opposite to each other: one of the two switches records
    it and the other does nothing. -/
theorem recorded_or_ignored (env : Env) (s : OContext)
    (hf : request.header.function = .RECORD_CURRENT_TIME) :
    let recorded := s.station.setTime (s.station.time.recordCurrentTime s.sol.num env.now)
    (s.handledBroadcast env request = s.station ∧ s.handledAlone env request = recorded) ∨
      (s.handledBroadcast env request = recorded ∧ s.handledAlone env request = s.station) := by
  unfold handledBroadcast handledAlone
  rw [hf]
  cases hempty : request.objects.isEmpty with
  | true =>
    left
    simp [processBroadcastRequest, isNoAckFuncCode, handleNonReadResponse, hempty, withoutObjects,
      handleRecordCurrentTime]
  | false =>
    right
    simp [processBroadcastRequest, isNoAckFuncCode, handleNonReadResponse, hempty,
      handleRecordCurrentTime]

/-- The two handlers leave the station the same, but for the time that is recorded. -/
theorem handled_times (hfunction : isBroadcastFuncCode request.header.function = true)
    (hfile : request.header.function = .WRITE → isFileWriteRequest request.objects = false) :
    ∃ (st : Station) (time time' : TimeSyncState),
      s.handledBroadcast env request = st.setTime time ∧
      s.handledAlone env request = st.setTime time' ∧
      (time = time' ↔ (request.header.function = .RECORD_CURRENT_TIME →
        s.station.time = s.station.time.recordCurrentTime s.sol.num env.now)) := by
  by_cases hf : request.header.function = .RECORD_CURRENT_TIME
  · rcases s.recorded_or_ignored env hf with ⟨hall, halone⟩ | ⟨hall, halone⟩
    · exact ⟨s.station, s.station.time, _, hall, halone, by simp [hf]⟩
    · exact ⟨s.station, _, s.station.time, hall, halone, by simp [hf, eq_comm]⟩
  · have hsame := s.handledBroadcast_eq env hfunction hfile hf
    generalize s.handledAlone env request = st at hsame
    exact ⟨st, st.time, st.time, hsame, rfl, by simp [hf]⟩

/-- What an answered request does to the event buffer it does not do in its handler. -/
theorem eventBuffer_handledAlone (hfunction : isBroadcastFuncCode request.header.function = true)
    (hfile : request.header.function = .WRITE → isFileWriteRequest request.objects = false)
    (hack : isNoAckFuncCode request.header.function = false) :
    (s.handledAlone env request).eventBuffer = s.station.eventBuffer := by
  unfold handledAlone
  rw [if_neg (by simp [hack])]
  cases hf : request.header.function with
  | WRITE =>
    unfold handleNonReadResponse
    rw [if_neg (by simp [hfile hf])]
    exact (calm_handleWrite env s.sol.num request.objects s.station).eventBuffer
  | ASSIGN_CLASS => exact (calm_handleAssignClass env request.objects s.station).eventBuffer
  | RECORD_CURRENT_TIME =>
    unfold handleNonReadResponse
    dsimp only
    split <;> rfl
  | DISABLE_UNSOLICITED =>
    unfold handleNonReadResponse handleDisableUnsolicited
    dsimp only
    split
    · split <;> rfl
    · rfl
  | ENABLE_UNSOLICITED =>
    unfold handleNonReadResponse handleEnableUnsolicited
    dsimp only
    split
    · split <;> rfl
    · rfl
  -- no answer, or no broadcast: not the case here
  | DIRECT_OPERATE_NR | IMMED_FREEZE_NR | FREEZE_CLEAR_NR =>
    rw [hf] at hack
    cases hack
  | _ =>
    rw [hf] at hfunction
    cases hfunction

/-- The indication of an overflow stays if there was none or if a list is still full. -/
theorem isOverflown_eq_iff (b : EventBuffer) :
    b.isOverflown.1 = b ↔ (b.overflow = true → b.lists.isAnyTypeFull = true) := by
  unfold EventBuffer.isOverflown
  obtain ⟨lists, overflow⟩ := b
  cases overflow <;> cases lists.isAnyTypeFull <;> simp

/-- A request that is handled when it arrives, under the sequence number that is recorded: it is to
    be answered and is new, or it is not to be answered. -/
def HandledAtOnce (s : OContext) (request : ParsedRequest) : Prop :=
  isNoAckFuncCode request.header.function = true ∨
    s.isTransmitting = false ∧ request.header.control.UNS = false ∧
      s.recognises request = false ∧ s.sol.num = request.header.control.SEQ

/-- An answered request has the effect of its handler, and `GetResponseIIN` looks at the buffer. -/
theorem effect_alone (haddress : request.addresses.isBroadcast = false)
    (hfunction : isBroadcastFuncCode request.header.function = true)
    (hfile : request.header.function = .WRITE → isFileWriteRequest request.objects = false)
    (hack : isNoAckFuncCode request.header.function = false) (honce : s.HandledAtOnce request) :
    (s.processObjects env request).station.effect =
      ((s.handledAlone env request).setEventBuffer s.station.eventBuffer.isOverflown.1).effect := by
  obtain ⟨hfree, huns, hnew, hnum⟩ := honce.resolve_left (by simp [hack])
  have hread : request.header.function ≠ .READ := by
    intro hf
    rw [hf] at hfunction
    cases hfunction
  have hconfirm : request.header.function ≠ .CONFIRM := by
    intro hf
    rw [hf] at hfunction
    cases hfunction
  obtain ⟨control, tx, hstation⟩ :=
    s.station_alone env haddress hack hread hconfirm hfree huns hnew hnum
  rw [hstation, s.eventBuffer_handledAlone env hfunction hfile hack]
  simp [Station.effect, Station.record, Station.setEventBuffer, Action.isMessage]

/-- **A broadcast does what the same request does alone**, in every state and for every payload,
    exactly if it is not to record the current time, or if that is what has been recorded, and if
    the answer does not put an overflow indication out. -/
theorem broadcast_agrees_iff (env : Env) (s : OContext) (toAll request : ParsedRequest)
    (hall : toAll.addresses.isBroadcast = true) (halone : request.addresses.isBroadcast = false)
    (hsame : toAll.header.function = request.header.function ∧ toAll.objects = request.objects)
    (hfunction : isBroadcastFuncCode request.header.function = true)
    (hfile : request.header.function = .WRITE → isFileWriteRequest request.objects = false)
    (honce : s.HandledAtOnce request) :
    (s.processObjects env toAll).station.effect = (s.processObjects env request).station.effect ↔
      (request.header.function = .RECORD_CURRENT_TIME →
        s.station.time = s.station.time.recordCurrentTime s.sol.num env.now) ∧
      (isNoAckFuncCode request.header.function = false → s.station.eventBuffer.overflow = true →
        s.station.eventBuffer.lists.isAnyTypeFull = true) := by
  have hbroadcast : (s.processObjects env toAll).station.effect =
      (s.handledBroadcast env request).effect := by
    rw [s.station_broadcast env hall]
    unfold handledBroadcast
    rw [hsame.1, hsame.2]
    simp [Station.effect, Station.record, Action.isMessage]
  obtain ⟨st, time, time', hhandled, hhandled', htimes⟩ := s.handled_times env hfunction hfile
  rw [hbroadcast, hhandled, ← htimes]
  cases hack : isNoAckFuncCode request.header.function with
  | true =>
    -- without an answer nobody looks at the event buffer
    rw [s.station_noAck env halone hack, hhandled']
    refine (st.effect_eq_iff time time' st.eventBuffer st.eventBuffer).trans ?_
    simp
  | false =>
    have hbuffer : st.eventBuffer = s.station.eventBuffer := by
      have hkept := s.eventBuffer_handledAlone env hfunction hfile hack
      rwa [hhandled'] at hkept
    rw [s.effect_alone env halone hfunction hfile hack honce, hhandled', ← hbuffer]
    refine (st.effect_eq_iff time time' st.eventBuffer _).trans ?_
    rw [← isOverflown_eq_iff, eq_comm (b := st.eventBuffer.isOverflown.1)]
    simp

/-- A request to record the current time; there are no objects in it. -/
def recordTime (destination : UInt16) : ParsedRequest :=
  ⟨⟨1, destination⟩, ⟨.request 0, .RECORD_CURRENT_TIME⟩, []⟩

/-- The request to disable unsolicited responses of class 1. -/
def disableClass1 (destination : UInt16) : ParsedRequest :=
  ⟨⟨1, destination⟩, ⟨.request 0, .DISABLE_UNSOLICITED⟩, [60, 2, 6]⟩

/-- Unsolicited responses are disabled in the same way. -/
theorem broadcast_agrees_disable :
    ((Sample.outstation 0 0 249 true).processObjects (Sample.env 5)
        (disableClass1 0xFFFF)).station.effect =
      ((Sample.outstation 0 0 249 true).processObjects (Sample.env 5)
        (disableClass1 10)).station.effect :=
  (broadcast_agrees_iff (Sample.env 5) (Sample.outstation 0 0 249 true) (disableClass1 0xFFFF)
    (disableClass1 10) rfl rfl ⟨rfl, rfl⟩ rfl (fun h => nomatch h)
    (.inr ⟨rfl, rfl, rfl, rfl⟩)).mpr ⟨(nomatch ·), fun _ => (nomatch ·)⟩

/-- An event is pushed out by another one, which is then read and confirmed. -/
def overflown : OContext :=
  Lib.run OContext.step (Sample.outstation 2 1 249 false)
    [.lowerLayerUp (Sample.env 0), Sample.change 0 true 1, Sample.change 1 true 2,
      Sample.request 0xC0 1 [60, 2, 6] 10, .txReady (Sample.env 20),
      Sample.request 0xC0 0 [] 30]

/-- **The time is not recorded**: sent to all outstations, the request for it has no effect.  And
    an overflow that is over goes on being indicated after a broadcast. -/
theorem broadcast_time_ignored :
    let s := Sample.outstation 0 0 249 true
    ((s.processObjects (Sample.env 5) (recordTime 0xFFFF)).station.time = s.station.time ∧
      (s.processObjects (Sample.env 5) (recordTime 10)).station.time = ⟨true, 5, 0, 1⟩ ∧
      s.station.time ≠ ⟨true, 5, 0, 1⟩) ∧
    overflown.HandledAtOnce (disableClass1 10) ∧
    (overflown.processObjects (Sample.env 40)
      (disableClass1 0xFFFF)).station.eventBuffer.overflow = true ∧
    (overflown.processObjects (Sample.env 40)
      (disableClass1 10)).station.eventBuffer.overflow = false := by
  refine ⟨⟨rfl, rfl, by decide⟩, .inr ?_, ?_⟩ <;> decide +kernel

end OContext

end OpenDnp3.Outstation
