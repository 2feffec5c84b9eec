import OpenDnp3.Outstation.Background
import OpenDnp3.Outstation.OContext

/-!
# What a step of the outstation consists of

One event makes the outstation do several things: a message is handled, then a deferred request
may be answered, then an unsolicited response may be started.  `Move` lists these things one by
one, each as the function of the code that does it, together with what is known at that moment.
`moves_step` says that every step is a sequence of such moves, so that a property of all runs
needs one argument per move.

A request other than a READ is only ever handled in the state in which the step began: while it
waits in the slot for the deferred request, a transmission is in progress (`DeferredOk`).
-/

namespace OpenDnp3.Outstation

open App Lib
open Link (LinkBroadcastAddress)

def Input.isTxReady : Input → Bool
  | .txReady _ => true
  | _ => false

namespace OContext

/-! ## Solicited responses -/

/-- The control field of a response: a broadcast that has to be confirmed adds CON. -/
def sentControl (s : OContext) (seq : Fin 16) (control : AppControlField) : AppControlField :=
  { control with
    CON := control.CON || decide (s.lastBroadcastMessageReceived = some .ShallConfirm)
    SEQ := seq }

/-- The buffer with the response in it. -/
def sentTx (env : Env) (s : OContext) (seq : Fin 16) (iin : IINField) (loaded : Loaded) :
    TxBuffer :=
  let (s, responseIIN) := s.getResponseIIN env
  let w := finishResponse loaded.writer (s.broadcastHeader
    ⟨⟨{ loaded.control with SEQ := seq }, .RESPONSE⟩, iin.or responseIIN⟩)
  ⟨w.buffer, w.position⟩

/-- A broadcast that has not to be confirmed is forgotten with the next response. -/
def keptBroadcast (s : OContext) : Option LinkBroadcastAddress :=
  if s.lastBroadcastMessageReceived = some .ShallConfirm then s.lastBroadcastMessageReceived
  else none

/-- The outstation after a solicited response. -/
def answered (env : Env) (s : OContext) (kind : ResponseKind) (destination : UInt16)
    (seq : Fin 16) (iin : IINField) (loaded : Loaded) : OContext :=
  let control := s.sentControl seq loaded.control
  let tx := s.sentTx env seq iin loaded
  { s with
    station := ((s.station.setEventBuffer s.station.eventBuffer.isOverflown.1).record
      [.response kind control loaded.events]).record [.transmit destination tx.lastResponse]
    sol := ⟨s.sol.num, seq, tx⟩
    isTransmitting := true
    lastBroadcastMessageReceived := s.keptBroadcast
    confirmTimer := control.CON || s.confirmTimer }

@[simp] theorem deferred_answered (env : Env) (s : OContext) (kind : ResponseKind)
    (destination : UInt16) (seq : Fin 16) (iin : IINField) (loaded : Loaded) :
    (s.answered env kind destination seq iin loaded).deferred = s.deferred := rfl

theorem free_of_canTransmit {s : OContext} (h : s.canTransmit = true) :
    s.isTransmitting = false := by
  simpa using (Bool.and_eq_true_iff.mp h).2

theorem canTransmit_of_busy {s : OContext} (h : s.isTransmitting = true) :
    s.canTransmit = false := by
  rw [canTransmit, h, Bool.not_true, Bool.and_false]

@[simp] theorem deferred_take (r : Reaction) : (take r).deferred = r.1.deferred := rfl

@[simp] theorem station_take (r : Reaction) : (take r).station = r.1.station := rfl

/-- Where a response leads to. -/
def stateAfter (control : AppControlField) : OutstationState :=
  if control.CON then .SolicitedConfirmWait else .Idle

theorem control_broadcastHeader (s : OContext) (header : APDUResponseHeader) (seq : Fin 16)
    (h : header.control.SEQ = seq) :
    (s.broadcastHeader header).control = s.sentControl seq header.control := by
  unfold broadcastHeader sentControl
  split
  · rename_i hnone
    simp [hnone, ← h]
  · rename_i address hsome
    by_cases haddress : address = .ShallConfirm <;> simp [hsome, haddress, ← h]

theorem checkForBroadcastConfirmation_eq (s : OContext) :
    s.checkForBroadcastConfirmation = s.setBroadcast s.keptBroadcast := by
  unfold checkForBroadcastConfirmation keptBroadcast
  split <;> rfl

/-- **A solicited response, field by field.** -/
theorem respondLoaded_eq (env : Env) (s : OContext) (kind : ResponseKind) (destination : UInt16)
    (seq : Fin 16) (iin : IINField) (loaded : Loaded) :
    respondLoaded env s kind destination seq iin loaded =
      (s.answered env kind destination seq iin loaded,
        stateAfter (s.sentControl seq loaded.control)) := by
  have hcontrol := (s.getResponseIIN env).1.control_broadcastHeader
    ⟨⟨{ loaded.control with SEQ := seq }, .RESPONSE⟩, iin.or (s.getResponseIIN env).2⟩ seq rfl
  change _ = s.sentControl seq loaded.control at hcontrol
  unfold respondLoaded beginResponseTx
  dsimp only
  rw [hcontrol, checkForBroadcastConfirmation_eq]
  unfold stateAfter answered sentTx
  dsimp only
  cases hcon : (s.sentControl seq loaded.control).CON with
  | false | true => rfl

/-- Loading a response changes the fragment count and the station. -/
theorem loadResponse_frame (s : OContext) (w : HeaderWriter) :
    ∃ station, (s.loadResponse w).1 =
      (s.setFragmentCount ((s.fragmentCount + 1) % 65536)).setStation station := by
  unfold loadResponse
  dsimp only
  split <;> exact ⟨_, rfl⟩

theorem loadRead_frame (s : OContext) (objects : List UInt8) (w : HeaderWriter) :
    ∃ station n, (s.loadRead objects w).1 = (s.setFragmentCount n).setStation station := by
  unfold loadRead
  dsimp only
  split
  · exact ⟨_, _, rfl⟩
  · rename_i database eventBuffer errors _
    obtain ⟨station, hload⟩ := loadResponse_frame (((s.setFragmentCount 0).unselectAll).setStation
      ((((s.setFragmentCount 0).unselectAll).station.setDatabase database).setEventBuffer
        eventBuffer)) w
    exact ⟨station, _, hload⟩

/-- The outstation that has made up its answer to a request but has not sent it. -/
def prepared (s : OContext) (request : ParsedRequest) (n : Nat) (station : Station) : OContext :=
  ((s.setHistory (.ofRequest request)).setFragmentCount n).setStation station

/-- **A response to a request**: it goes to the sender under the number of the request. -/
def Answers (env : Env) (s : OContext) (request : ParsedRequest) (r : Reaction) : Prop :=
  ∃ n station kind iin loaded,
    r = ((s.prepared request n station).answered env kind request.addresses.source
        request.header.control.SEQ iin loaded,
      stateAfter (s.sentControl request.header.control.SEQ loaded.control))

theorem answers_respondToReadRequest (env : Env) (s : OContext) (request : ParsedRequest) :
    Answers env s request (s.respondToReadRequest env request) := by
  unfold respondToReadRequest
  dsimp only
  split
  · exact ⟨s.fragmentCount, _, _, _, _, respondLoaded_eq ..⟩
  · obtain ⟨station, n, hload⟩ := loadRead_frame (s.setHistory (.ofRequest request))
      request.objects (s.setHistory (.ofRequest request)).sol.tx.start
    rw [respondLoaded_eq, hload]
    exact ⟨n, station, _, _, _, rfl⟩

theorem answers_respondToNonReadRequest (env : Env) (s : OContext) (request : ParsedRequest) :
    Answers env s request (s.respondToNonReadRequest env request) := by
  exact ⟨s.fragmentCount, _, _, _, _, respondLoaded_eq ..⟩

theorem continueMultiFragResponse_eq (env : Env) (s : OContext) (destination : UInt16)
    (seq : Fin 16) :
    s.continueMultiFragResponse env destination seq =
      ((s.loadResponse s.sol.tx.start).1.answered env .next destination seq .empty
          (s.loadResponse s.sol.tx.start).2,
        stateAfter ((s.loadResponse s.sol.tx.start).1.sentControl seq
          (s.loadResponse s.sol.tx.start).2.control)) :=
  respondLoaded_eq ..

/-! ## Unsolicited responses -/

/-- The control field of every unsolicited response. -/
def unsolicitedControl (s : OContext) : AppControlField := ⟨true, true, true, true, s.unsol.num⟩

/-- The buffer with the unsolicited response in it. -/
def unsolicitedTx (s : OContext) (iin : IINField) (w : HeaderWriter) : TxBuffer :=
  let w := finishResponse w
    (s.broadcastHeader ⟨⟨s.unsolicitedControl, .UNSOLICITED_RESPONSE⟩, iin⟩)
  ⟨w.buffer, w.position⟩

/-- The outstation after an unsolicited response. -/
def announced (s : OContext) (iin : IINField) (w : HeaderWriter) (events : List Nat) : OContext :=
  let tx := s.unsolicitedTx iin w
  { s with
    station := (s.station.record [.unsolicited s.unsolicitedControl events]).record
      [.transmit s.addresses.destination tx.lastResponse]
    unsol := ⟨s.unsol.num + 1, s.unsol.num, tx⟩
    isTransmitting := true
    lastBroadcastMessageReceived := s.keptBroadcast }

theorem beginUnsolTx_eq (s : OContext) (iin : IINField) (w : HeaderWriter) (events : List Nat) :
    s.beginUnsolTx iin w events = s.announced iin w events := by
  have hcontrol : (s.broadcastHeader ⟨⟨s.unsolicitedControl, .UNSOLICITED_RESPONSE⟩, iin⟩).control =
      s.unsolicitedControl := by
    rw [control_broadcastHeader s _ s.unsol.num rfl]
    rfl
  change (s.broadcastHeader
    ⟨⟨⟨true, true, true, true, s.unsol.num⟩, .UNSOLICITED_RESPONSE⟩, iin⟩).control = _ at hcontrol
  unfold beginUnsolTx
  dsimp only
  rw [hcontrol, checkForBroadcastConfirmation_eq]
  rfl

/-- What `CheckForUnsolicitedNull` sends. -/
def announcedNull (env : Env) (s : OContext) : OContext :=
  let (s, iin) := s.getResponseIIN env
  ((s.setTimer true).setState
    (if s.params.noDefferedReadDuringUnsolicitedNullResponse then .NullUnsolicitedConfirmWait
      else .UnsolicitedConfirmWait)).announced iin s.unsol.tx.start []

variable {env : Env} {request : ParsedRequest} {P : OContext → Prop} {message : Message}

theorem checkForUnsolicitedNull_eq {s : OContext} (h : s.canStartUnsolicited = true)
    (hnull : s.completedNull = false) : s.checkForUnsolicitedNull env = s.announcedNull env := by
  unfold checkForUnsolicitedNull
  rw [h, hnull, if_pos (by rfl)]
  exact beginUnsolTx_eq ..

/-- What `CheckForUnsolicited` sends. -/
def announcedEvents (env : Env) (s : OContext) : OContext :=
  let (s, w, events) := s.loadUnsolicited
  let (s, iin) := s.getResponseIIN env
  ((s.setTimer true).setState .UnsolicitedConfirmWait).announced iin w events

/-- What `CheckForUnsolicited` can do once it may. -/
inductive Announces (env : Env) (s : OContext) : OContext → Prop where
  | nothing : Announces env s (s.setStation (s.station.setShouldCheck false))
  | events (hnull : s.completedNull = true) :
    Announces env s ((s.setStation (s.station.setShouldCheck false)).announcedEvents env)

theorem announces_checkForUnsolicited (env : Env) {s : OContext}
    (h : s.canStartUnsolicited = true) (hcheck : s.station.shouldCheckForUnsolicited = true) :
    Announces env s (s.checkForUnsolicited env) := by
  unfold checkForUnsolicited
  rw [h, hcheck, if_pos (by rfl)]
  dsimp only
  split
  · rename_i hevents
    rw [beginUnsolTx_eq]
    exact .events (Bool.and_eq_true_iff.mp hevents).1
  · exact .nothing

/-! ## Confirms -/

/-- Is this the confirm that the outstation waits for? -/
def awaits (s : OContext) (uns : Bool) (seq : Fin 16) : Bool :=
  match s.state with
  | .Idle => false
  | .SolicitedConfirmWait => !uns && s.sol.confirmNum == seq
  | .UnsolicitedConfirmWait | .NullUnsolicitedConfirmWait => uns && s.unsol.confirmNum == seq

/-- Does the outstation wait for the confirm of an unsolicited response? -/
def awaitsUnsolicited (s : OContext) : Prop :=
  s.state = .UnsolicitedConfirmWait ∨ s.state = .NullUnsolicitedConfirmWait

/-- A solicited response is confirmed; whether it goes on is still open. -/
def solicitedConfirmed (s : OContext) (seq : Fin 16) : OContext :=
  (((s.record [.confirm false seq]).acceptConfirm).clearWritten false seq).notifyConfirm false

/-- An unsolicited response is confirmed; its events are still there. -/
def unsolicitedConfirmed (s : OContext) (seq : Fin 16) : OContext :=
  ((s.record [.confirm true seq]).acceptConfirm).notifyConfirm true

/-- What a confirm can do. -/
inductive Confirms (env : Env) (request : ParsedRequest) (s : OContext) : OContext → Prop where
  | ignored (h : s.awaits request.header.control.UNS request.header.control.SEQ = false) :
    Confirms env request s
      (s.record [.confirm request.header.control.UNS request.header.control.SEQ])
  | done (hstate : s.state = .SolicitedConfirmWait) (huns : request.header.control.UNS = false)
    (hseq : s.sol.confirmNum = request.header.control.SEQ)
    (hselection : (s.solicitedConfirmed request.header.control.SEQ).hasSelection = false) :
    Confirms env request s
      ((s.solicitedConfirmed request.header.control.SEQ).setState .Idle)
  | next (hstate : s.state = .SolicitedConfirmWait) (huns : request.header.control.UNS = false)
    (hseq : s.sol.confirmNum = request.header.control.SEQ)
    (hselection : (s.solicitedConfirmed request.header.control.SEQ).hasSelection = true) :
    Confirms env request s
      (take ((s.solicitedConfirmed request.header.control.SEQ).continueMultiFragResponse env
        request.addresses.source (request.header.control.SEQ + 1)))
  | unsolicited (hstate : s.awaitsUnsolicited) (huns : request.header.control.UNS = true)
    (hseq : s.unsol.confirmNum = request.header.control.SEQ) (hnull : s.completedNull = true)
    (u : OContext)
    (hu : u = (s.unsolicitedConfirmed request.header.control.SEQ).clearWritten true
      request.header.control.SEQ) :
    Confirms env request s ((u.setStation (u.station.setShouldCheck true)).setState .Idle)
  | null (hstate : s.awaitsUnsolicited) (huns : request.header.control.UNS = true)
    (hseq : s.unsol.confirmNum = request.header.control.SEQ) (hnull : s.completedNull = false)
    (u : OContext) (hu : u = s.unsolicitedConfirmed request.header.control.SEQ) :
    Confirms env request s
      (({ u with completedNull := true }.setStation (u.station.setShouldCheck true)).setState
        .Idle)

variable {r : ParsedRequest}

private theorem confirms_solicited {s : OContext} (hstate : s.state = .SolicitedConfirmWait) :
    Confirms env request s (s.processConfirm env request) := by
  have hprocess : s.processConfirm env request = take ((s.record
      [.confirm request.header.control.UNS request.header.control.SEQ]).onSolicitedConfirm env
        request) := by
    simp [processConfirm, onConfirm, show (s.record _).state = .SolicitedConfirmWait from hstate]
  rw [hprocess]
  unfold onSolicitedConfirm
  dsimp only
  split
  · rename_i h
    -- a confirm with UNS set or another number
    refine .ignored ?_
    change (request.header.control.UNS || s.sol.confirmNum != request.header.control.SEQ) = true
      at h
    unfold awaits
    rw [hstate]
    simpa [bne, Bool.or_eq_true, imp_iff_not_or] using h
  · rename_i h
    rw [Bool.or_eq_true, not_or, Bool.not_eq_true, bne_iff_ne, not_not] at h
    obtain ⟨huns, hseq⟩ := h
    rw [huns]
    split
    · rename_i hselection
      -- what the READ selected is not all sent: the next fragment follows
      exact .next hstate huns hseq hselection
    · rename_i hselection
      exact .done hstate huns hseq (Bool.eq_false_iff.mpr hselection)

private theorem confirms_unsolicited {s : OContext} (hstate : s.awaitsUnsolicited) :
    Confirms env request s (s.processConfirm env request) := by
  -- both waits for an unsolicited confirm handle it alike
  have hprocess : s.processConfirm env request = take ((s.record
      [.confirm request.header.control.UNS request.header.control.SEQ]).onUnsolicitedConfirm
        request) := by
    unfold processConfirm onConfirm
    dsimp only
    rcases hstate with hstate | hstate
    · rw [show (s.record _).state = .UnsolicitedConfirmWait from hstate]
    · rw [show (s.record _).state = .NullUnsolicitedConfirmWait from hstate]
  rw [hprocess]
  unfold onUnsolicitedConfirm
  dsimp only
  split
  · rename_i h
    refine .ignored ?_
    change (!request.header.control.UNS || s.unsol.confirmNum != request.header.control.SEQ) = true
      at h
    unfold awaits
    rcases hstate with hstate | hstate
    · rw [hstate]
      simpa [bne, Bool.or_eq_true, imp_iff_not_or] using h
    · rw [hstate]
      simpa [bne, Bool.or_eq_true, imp_iff_not_or] using h
  · rename_i h
    rw [Bool.or_eq_true, not_or, Bool.not_eq_true, Bool.not_eq_false', bne_iff_ne, not_not] at h
    obtain ⟨huns, hseq⟩ := h
    rw [huns]
    split
    · rename_i hnull
      exact .unsolicited hstate huns hseq hnull _ rfl
    · rename_i hnull
      exact .null hstate huns hseq (Bool.eq_false_iff.mpr hnull) _ rfl

theorem confirms_processConfirm (env : Env) (request : ParsedRequest) (s : OContext) :
    Confirms env request s (s.processConfirm env request) := by
  cases hstate : s.state with
  | Idle =>
    have hprocess : s.processConfirm env request =
        s.record [.confirm request.header.control.UNS request.header.control.SEQ] := by
      unfold processConfirm onConfirm
      dsimp only
      rw [show (s.record _).state = .Idle from hstate]
      cases s
      cases hstate
      rfl
    rw [hprocess]
    refine .ignored ?_
    unfold awaits
    rw [hstate]
  | SolicitedConfirmWait => exact confirms_solicited hstate
  | UnsolicitedConfirmWait => exact confirms_unsolicited (.inl hstate)
  | NullUnsolicitedConfirmWait => exact confirms_unsolicited (.inr hstate)

/-! ## The confirm timer -/

/-- The outstation whose confirm timer has expired. -/
def expired (s : OContext) : OContext := (s.setTimer false).record [.confirmTimeout]

/-- What the confirm timer can do. -/
inductive TimesOut (s : OContext) : OContext → Prop where
  | idle (hstate : s.state = .Idle ∨ s.state = .SolicitedConfirmWait) :
    TimesOut s (s.expired.setState .Idle)
  | null (hstate : s.awaitsUnsolicited) (hnull : s.completedNull = false) :
    TimesOut s (s.expired.setState .Idle)
  | retry (hstate : s.awaitsUnsolicited) (hnull : s.completedNull = true)
    (hretry : s.unsolRetries.retry.2 = true) (hdeferred : s.deferred = none) :
    TimesOut s (({ s.expired with unsolRetries := s.unsolRetries.retry.1 }.setTimer
      true).beginRetransmitLastUnsolicitedResponse)
  | giveUp (hstate : s.awaitsUnsolicited) (hnull : s.completedNull = true)
    (hretry : s.unsolRetries.retry.2 = false ∨ s.deferred ≠ none) :
    TimesOut s (({ s.expired with unsolRetries := s.unsolRetries.retry.1 }.setStation
      (s.expired.station.setEventBuffer s.expired.station.eventBuffer.unselect)).setState .Idle)

theorem timesOut_onConfirmTimeout (s : OContext) :
    TimesOut s (take ((s.setTimer false).record [.confirmTimeout]).onConfirmTimeout) := by
  -- the two unsolicited waits share `OnUnsolicitedTimeout`
  have hunsolicited : s.awaitsUnsolicited → TimesOut s (take s.expired.onUnsolicitedTimeout) := by
    intro hstate
    unfold onUnsolicitedTimeout
    split
    · rename_i hnull
      dsimp only
      split
      · rename_i hretry
        rw [Bool.and_eq_true, Option.isNone_iff_eq_none] at hretry
        exact .retry hstate hnull hretry.1 hretry.2
      · rename_i hretry
        -- no retry is left, or a request waits in the slot
        refine .giveUp hstate hnull ?_
        rw [Bool.and_eq_true, Option.isNone_iff_eq_none, not_and_or, Bool.not_eq_true] at hretry
        exact hretry
    · rename_i hnull
      exact .null hstate (Bool.eq_false_iff.mpr hnull)
  have htimeout : ((s.setTimer false).record [.confirmTimeout]).onConfirmTimeout =
      match s.state with
      | .Idle | .SolicitedConfirmWait => (s.expired, .Idle)
      | .UnsolicitedConfirmWait | .NullUnsolicitedConfirmWait => s.expired.onUnsolicitedTimeout :=
    rfl
  rw [htimeout]
  cases hstate : s.state with
  | Idle => exact .idle (.inl hstate)
  | SolicitedConfirmWait => exact .idle (.inr hstate)
  | UnsolicitedConfirmWait => exact hunsolicited (.inl hstate)
  | NullUnsolicitedConfirmWait => exact hunsolicited (.inr hstate)

/-! ## Requests of a step -/

/-- The request that a message brings to this outstation alone. -/
def received (s : OContext) : Input → Option ParsedRequest
  | .receive message _ _ =>
    if s.isOnline && s.isAccepted message.addresses && !message.addresses.isBroadcast then
      parseRequest message
    else none
  | _ => none

/-- The requests that a step may take up.  While a transmission is in progress there is none until
    `OnTxReady`, which gives the one in the slot its turn.  Otherwise it is the one received, unless
    it wants no answer, and a READ that waits in the slot for the end of a confirm wait. -/
def requests (s : OContext) (input : Input) : List ParsedRequest :=
  if s.isTransmitting then if input.isTxReady then s.deferred.toList else []
  else ((s.received input).filter (!isNoAckFuncCode ·.header.function)).toList ++ s.deferred.toList

/-- The request that a message brings, when nothing is being transmitted. -/
theorem mem_requests_of_received {s : OContext} {input : Input} {request : ParsedRequest}
    (h : s.received input = some request) (hack : isNoAckFuncCode request.header.function = false)
    (hfree : s.isTransmitting = false) : request ∈ s.requests input := by
  unfold requests
  rw [hfree, h]
  simp [hack]

/-- The request in the slot, when its turn may have come. -/
theorem mem_requests_of_deferred {s : OContext} {input : Input} {request : ParsedRequest}
    (h : s.deferred = some request) (hturn : s.isTransmitting = true → input.isTxReady = true) :
    request ∈ s.requests input := by
  unfold requests
  cases hbusy : s.isTransmitting with
  | true => simp [hturn hbusy, h]
  | false => simp [h]

/-- The outstation with its last transmission done. -/
def ready (s : OContext) : OContext := s.setTransmitting false

theorem ready_of_not_transmitting {s : OContext} (h : s.isTransmitting = false) : s.ready = s := by
  cases s
  cases h
  rfl

/-- The outstation that takes a request for a new one. -/
def numbered (s : OContext) (request : ParsedRequest) : OContext :=
  s.setSol { s.sol with num := request.header.control.SEQ }

/-- What a new READ can do. -/
inductive Reads (env : Env) (request : ParsedRequest) (s : OContext) : OContext → Prop where
  | deferred (hstate : s.state = .UnsolicitedConfirmWait) :
    Reads env request s ((s.numbered request).setDeferred (some request))
  | idle (hstate : s.state = .Idle) :
    Reads env request s (take ((s.numbered request).respondToReadRequest env request))
  | waiting
    (hstate : s.state = .SolicitedConfirmWait ∨ s.state = .NullUnsolicitedConfirmWait) :
    Reads env request s
      (take (((s.numbered request).setTimer false).respondToReadRequest env request))

theorem reads_onNewReadRequest (env : Env) (request : ParsedRequest) (s : OContext) :
    Reads env request s (take ((s.numbered request).onNewReadRequest env request)) := by
  have hnumbered : (s.numbered request).state = s.state := rfl
  unfold onNewReadRequest
  rw [hnumbered]
  cases hstate : s.state with
  | Idle => exact .idle hstate
  | SolicitedConfirmWait => exact .waiting (.inl hstate)
  | NullUnsolicitedConfirmWait => exact .waiting (.inr hstate)
  | UnsolicitedConfirmWait =>
    have hsame : take ((s.numbered request).setDeferred (some request), .UnsolicitedConfirmWait) =
        (s.numbered request).setDeferred (some request) := by
      rw [← hstate]
      rfl
    rw [hsame]
    exact .deferred hstate

/-- What a new request other than a READ can do.  While the confirm of an unsolicited response is
    awaited, the answer does not change the state. -/
inductive Operates (env : Env) (request : ParsedRequest) (s : OContext) : OContext → Prop where
  | idle (hstate : s.state = .Idle) :
    Operates env request s (take ((s.numbered request).respondToNonReadRequest env request))
  | waiting (hstate : s.state = .SolicitedConfirmWait) :
    Operates env request s
      (take (((s.numbered request).setTimer false).respondToNonReadRequest env request))
  | aside (hstate : s.awaitsUnsolicited) :
    Operates env request s (take
      ((((s.numbered request).setDeferred none).respondToNonReadRequest env request).1, s.state))

theorem operates_onNewNonReadRequest (env : Env) (request : ParsedRequest) (s : OContext) :
    Operates env request s (take ((s.numbered request).onNewNonReadRequest env request)) := by
  have hnew : (s.numbered request).onNewNonReadRequest env request =
      match s.state with
      | .Idle => (s.numbered request).respondToNonReadRequest env request
      | .SolicitedConfirmWait =>
        ((s.numbered request).setTimer false).respondToNonReadRequest env request
      | .UnsolicitedConfirmWait | .NullUnsolicitedConfirmWait =>
        ((((s.numbered request).setDeferred none).respondToNonReadRequest env request).1,
          s.state) := rfl
  rw [hnew]
  cases hstate : s.state with
  | Idle => exact .idle hstate
  | SolicitedConfirmWait => exact .waiting hstate
  | UnsolicitedConfirmWait =>
    have h : Operates env request s _ := .aside (.inl hstate)
    rwa [hstate] at h
  | NullUnsolicitedConfirmWait =>
    have h : Operates env request s _ := .aside (.inr hstate)
    rwa [hstate] at h

/-- What a repeated request can do. -/
inductive Repeats (request : ParsedRequest) (s : OContext) : OContext → Prop where
  | retransmit (timer : Bool) (htimer : timer = s.confirmTimer ∨ s.state = .SolicitedConfirmWait ∧
      timer = decide (request.header.function = .READ)) :
    Repeats request s ((s.setTimer timer).beginRetransmitLastResponse request.addresses.source)
  | deferred (hstate : s.awaitsUnsolicited) (hread : request.header.function = .READ) :
    Repeats request s (s.setDeferred (some request))

theorem repeats_onRepeatNonReadRequest (s : OContext) (hread : request.header.function ≠ .READ) :
    Repeats request s (take (s.onRepeatNonReadRequest request)) := by
  unfold onRepeatNonReadRequest
  split
  · rename_i hstate
    exact .retransmit false (.inr ⟨hstate, (decide_eq_false hread).symm⟩)
  · exact .retransmit s.confirmTimer (.inl rfl)

/-- Only a READ waits for its turn without a transmission in progress. -/
def DeferredOk (s : OContext) : Prop :=
  ∀ r, s.deferred = some r → r.header.function = .READ ∨ s.isTransmitting = true

/-! ## Moves -/

/-- **One thing after the other**: what the outstation does in a step that begins in `s`. -/
inductive Move (s : OContext) (input : Input) : OContext → OContext → Prop where
  | online (env : Env) (hinput : input = .lowerLayerUp env) (h : s.isOnline = false) :
    Move s input s
      { s with
        isOnline := true
        station := s.station.setShouldCheck true }
  | layerDown (hinput : input = .lowerLayerDown) (h : s.isOnline = true) :
    Move s input s s.onLowerLayerDown
  | txReady (env : Env) (hinput : input = .txReady env) (h : s.isTransmitting = true) :
    Move s input s s.ready
  | timeout (env : Env) (hinput : input = .confirmTimeout env) (h : s.confirmTimer = true) :
    Move s input s (take ((s.setTimer false).record [.confirmTimeout]).onConfirmTimeout)
  | updates (updates : List Database.Update) (env : Env) (hinput : input = .apply updates env) :
    Move s input s
      (s.setStation ((s.station.applyUpdates env.timeSource updates).setShouldCheck true))
  | restartIIN :
    Move s input s
      (s.setStation (s.station.setStaticIIN (s.station.staticIIN.setBit .DEVICE_RESTART)))
  | flag (message : Message) (env later : Env) (hinput : input = .receive message env later)
    (hbroadcast : message.addresses.isBroadcast = true) :
    Move s input s (s.updateLastBroadcastMessageReceived message.addresses.destination)
  | broadcast (message : Message) (env later : Env) (request : ParsedRequest)
    (hinput : input = .receive message env later)
    (hbroadcast : message.addresses.isBroadcast = true)
    (hparse : parseRequest message = some request) :
    Move s input (s.updateLastBroadcastMessageReceived message.addresses.destination)
      ((s.updateLastBroadcastMessageReceived message.addresses.destination).onBroadcastMessage env
        request)
  | noAck (message : Message) (env later : Env) (request : ParsedRequest)
    (hinput : input = .receive message env later) (hreceived : s.received input = some request)
    (hfunction : isNoAckFuncCode request.header.function = true) :
    Move s input s
      (s.setStation (processRequestNoAck s.params env s.sol.num request.header.function
        request.objects s.station))
  | defer (request : ParsedRequest) (hreceived : s.received input = some request)
    (h : s.isTransmitting = true) : Move s input s (s.setDeferred (some request))
  -- the requests of the step, in the state it began with
  | confirm (env : Env) (request : ParsedRequest) (hrequest : request ∈ s.requests input)
    (hfunction : request.header.function = .CONFIRM) :
    Move s input s.ready (s.ready.processConfirm env request)
  | repeatedNonRead (request : ParsedRequest) (hrequest : request ∈ s.requests input)
    (hfunction : request.header.function ≠ .READ) (huns : request.header.control.UNS = false)
    (hrecognised : s.recognises request = true) (hconfirm : request.header.function ≠ .CONFIRM) :
    Move s input s.ready (take (s.ready.onRepeatNonReadRequest request))
  | nonRead (env : Env) (request : ParsedRequest) (hrequest : request ∈ s.requests input)
    (hfunction : request.header.function ≠ .READ) (huns : request.header.control.UNS = false)
    (hnew : s.recognises request = false) (hconfirm : request.header.function ≠ .CONFIRM) :
    Move s input s.ready (take ((s.ready.numbered request).onNewNonReadRequest env request))
  -- a READ may also be taken up later in the step, when its wait is over
  | repeatedRead {t : OContext} (request : ParsedRequest) (hrequest : request ∈ s.requests input)
    (hfunction : request.header.function = .READ) (huns : request.header.control.UNS = false)
    (hfree : t.isTransmitting = false) (hrecognised : t.recognises request = true) :
    Move s input t (take (t.onRepeatReadRequest request))
  | read {t : OContext} (env : Env) (request : ParsedRequest)
    (hrequest : request ∈ s.requests input) (hfunction : request.header.function = .READ)
    (huns : request.header.control.UNS = false) (hfree : t.isTransmitting = false)
    (hnew : t.recognises request = false)
    (hturn : s.received input = some request ∧ t = s.ready ∨ t.isOnline = true ∧ t.state = .Idle) :
    Move s input t (take ((t.numbered request).onNewReadRequest env request))
  | undefer (t : OContext) : Move s input t (t.setDeferred none)
  -- the tasks that the outstation starts by itself
  | unsolicitedNull {t : OContext} (env : Env) (h : t.canStartUnsolicited = true)
    (hnull : t.completedNull = false) : Move s input t (t.checkForUnsolicitedNull env)
  | unsolicited {t : OContext} (env : Env) (h : t.canStartUnsolicited = true)
    (hcheck : t.station.shouldCheckForUnsolicited = true) :
    Move s input t (t.checkForUnsolicited env)

/-- A broadcast is remembered, and nothing else happens when it arrives. -/
theorem updateLastBroadcastMessageReceived_eq (s : OContext) (destination : UInt16) :
    ∃ b, s.updateLastBroadcastMessageReceived destination = s.setBroadcast b ∧
      (b = some .ShallConfirm → destination = LinkBroadcastAddress.ShallConfirm.toAddress) := by
  unfold updateLastBroadcastMessageReceived
  split
  · exact ⟨_, rfl, fun h => by cases h⟩
  · split
    · rename_i hdestination
      exact ⟨_, rfl, fun _ => hdestination⟩
    · split <;> exact ⟨_, rfl, fun h => by cases h⟩

/-- The outstation has the addresses and the parameters it had. -/
def Configured (t t' : OContext) : Prop := t'.addresses = t.addresses ∧ t'.params = t.params

/-- Any number of moves. -/
abbrev Moves (s : OContext) (input : Input) : OContext → OContext → Prop :=
  Relation.ReflTransGen (Move s input)

/-- **Rule for steps**: what every move keeps, a sequence of moves keeps. -/
theorem Moves.invariant {s : OContext} {input : Input}
    (hmove : ∀ t t', Move s input t t' → P t → P t') {t t' : OContext} (h : Moves s input t t')
    (ht : P t) : P t' := by
  induction h with
  | refl => exact ht
  | tail _ hlast ih => exact hmove _ _ hlast ih

/-! ### Requests and confirms are moves -/

variable {s t : OContext} {input : Input}

/-- A request that is handled by `ProcessRequest`. -/
theorem moves_processRequest (env : Env)
    (hrequest : request ∈ s.requests input) (hfree : t.isTransmitting = false)
    (hstart : request.header.function = .READ ∨ t = s.ready)
    (hturn : request.header.function = .READ →
      s.received input = some request ∧ t = s.ready ∨ t.isOnline = true ∧ t.state = .Idle)
    (hconfirm : request.header.function ≠ .CONFIRM) :
    Moves s input t (t.processRequest env request) := by
  unfold processRequest
  cases huns : request.header.control.UNS with
  -- UNS is set: `ProcessRequest` drops it
  | true => exact .refl
  | false =>
    simp only [Bool.false_eq_true, if_false]
    unfold onReceiveSolRequest
    by_cases hfunction : request.header.function = .READ
    · cases hrecognised : t.recognises request with
      | true =>
        rw [if_pos rfl, if_pos hfunction]
        exact .single (.repeatedRead request hrequest hfunction huns hfree hrecognised)
      | false =>
        rw [if_neg Bool.false_ne_true]
        rw [if_pos hfunction]
        exact .single
          (.read env request hrequest hfunction huns hfree hrecognised (hturn hfunction))
    -- any other request is handled before anything else happens in the step
    · obtain rfl : t = s.ready := hstart.resolve_left hfunction
      cases hrecognised : s.ready.recognises request with
      | true =>
        rw [if_pos rfl, if_neg hfunction]
        exact .single (.repeatedNonRead request hrequest hfunction huns hrecognised hconfirm)
      | false =>
        rw [if_neg Bool.false_ne_true]
        rw [if_neg hfunction]
        exact .single (.nonRead env request hrequest hfunction huns hrecognised hconfirm)

/-- `ProcessDeferredRequest`. -/
theorem moves_processDeferredRequest (env : Env) (honline : t.isOnline = true)
    (hrequest : request ∈ s.requests input) (hfree : t.isTransmitting = false)
    (hstart : request.header.function = .READ ∨ t = s.ready) :
    Moves s input t (t.processDeferredRequest env request).1 := by
  unfold processDeferredRequest
  split
  · rename_i hfunction
    have ht : t = s.ready := hstart.resolve_left (by rw [hfunction]; exact FunctionCode.noConfusion)
    subst ht
    exact .single (.confirm env request hrequest hfunction)
  · rename_i hconfirm
    split
    · -- a READ stays in the slot until the outstation is idle
      split
      · rename_i hidle
        exact moves_processRequest env hrequest hfree hstart (fun _ => .inr ⟨honline, hidle⟩)
          hconfirm
      · exact .refl
    · rename_i hread
      exact moves_processRequest env hrequest hfree hstart (absurd · hread) hconfirm

/-- What is known about the slot for the deferred request when the tasks are checked. -/
def DeferredKnown (s : OContext) (input : Input) (t : OContext) : Prop :=
  ∀ r, t.deferred = some r → t.isTransmitting = false →
    r ∈ s.requests input ∧ (r.header.function = .READ ∨ t = s.ready)

theorem moves_checkForDeferredRequest (env : Env) (hknown : DeferredKnown s input t) :
    Moves s input t (t.checkForDeferredRequest env) := by
  unfold checkForDeferredRequest
  split
  · exact .refl
  · rename_i request hdeferred
    split
    · rename_i hcan
      have hfree := free_of_canTransmit hcan
      obtain ⟨hrequest, hstart⟩ := hknown request hdeferred hfree
      have honline : t.isOnline = true := (Bool.and_eq_true_iff.mp hcan).1
      have hmoves := moves_processDeferredRequest env honline hrequest hfree hstart
      dsimp only
      split
      · exact hmoves.tail (.undefer _)
      · exact hmoves
    · exact .refl

theorem moves_checkForTaskStart (env : Env) (hknown : DeferredKnown s input t) :
    Moves s input t (t.checkForTaskStart env) := by
  -- each check either does nothing or is a move
  have hnull : ∀ u : OContext, Moves s input u (u.checkForUnsolicitedNull env) := by
    intro u
    by_cases h : u.canStartUnsolicited = true ∧ u.completedNull = false
    · exact .single (.unsolicitedNull env h.1 h.2)
    · have hskip : u.checkForUnsolicitedNull env = u := by
        unfold checkForUnsolicitedNull
        rw [if_neg]
        simpa using h
      rw [hskip]
  have hunsolicited : ∀ u : OContext, Moves s input u (u.checkForUnsolicited env) := by
    intro u
    by_cases h : u.station.shouldCheckForUnsolicited = true ∧ u.canStartUnsolicited = true
    · exact .single (.unsolicited env h.2 h.1)
    · have hskip : u.checkForUnsolicited env = u := by
        unfold checkForUnsolicited
        rw [if_neg]
        simpa using h
      rw [hskip]
  exact ((moves_checkForDeferredRequest env hknown).trans (hnull _)).trans (hunsolicited _)

/-! ### The slot for the deferred request -/

theorem deferred_processConfirm (env : Env) (request : ParsedRequest) (t : OContext) :
    (t.processConfirm env request).deferred = t.deferred := by
  have h := confirms_processConfirm env request t
  generalize t.processConfirm env request = t' at h
  cases h with
  | next =>
    obtain ⟨station, hload⟩ := loadResponse_frame
      (t.solicitedConfirmed request.header.control.SEQ)
      (t.solicitedConfirmed request.header.control.SEQ).sol.tx.start
    rw [continueMultiFragResponse_eq, deferred_take, deferred_answered, hload]
    rfl
  | unsolicited _ _ _ _ u hu | null _ _ _ _ u hu =>
    subst hu
    rfl
  | _ => rfl

theorem deferred_respondToReadRequest (env : Env) (t : OContext) (request : ParsedRequest) :
    (t.respondToReadRequest env request).1.deferred = t.deferred := by
  obtain ⟨n, station, kind, iin, loaded, h⟩ := answers_respondToReadRequest env t request
  rw [h, deferred_answered]
  rfl

theorem deferred_respondToNonReadRequest (env : Env) (t : OContext) (request : ParsedRequest) :
    (t.respondToNonReadRequest env request).1.deferred = t.deferred := by
  obtain ⟨n, station, kind, iin, loaded, h⟩ := answers_respondToNonReadRequest env t request
  rw [h, deferred_answered]
  rfl

theorem deferred_onNewReadRequest (h : (t.onNewReadRequest env request).1.deferred = some r) :
    r = request ∨ t.deferred = some r := by
  unfold onNewReadRequest at h
  split at h
  · rw [deferred_respondToReadRequest] at h
    exact .inr h
  · rw [deferred_respondToReadRequest] at h
    exact .inr h
  · rw [deferred_respondToReadRequest] at h
    exact .inr h
  · exact .inl (Option.some.inj h).symm

theorem deferred_onNewNonReadRequest (h : (t.onNewNonReadRequest env request).1.deferred = some r) :
    t.deferred = some r := by
  unfold onNewNonReadRequest at h
  split at h
  · rw [deferred_respondToNonReadRequest] at h
    exact h
  · rw [deferred_respondToNonReadRequest] at h
    exact h
  · rw [deferred_respondToNonReadRequest] at h
    cases h
  · rw [deferred_respondToNonReadRequest] at h
    cases h

/-- A request that was not answered at once is a READ, and it is the only one that waits. -/
theorem deferred_processRequest (h : (t.processRequest env request).deferred = some r) :
    (r = request ∧ request.header.function = .READ) ∨ t.deferred = some r := by
  unfold processRequest at h
  split at h
  · exact .inr h
  · unfold onReceiveSolRequest at h
    split at h
    · split at h
      · rename_i hfunction
        unfold onRepeatReadRequest at h
        split at h
        · exact .inr h
        · exact .inr h
        · exact .inl ⟨(Option.some.inj h).symm, hfunction⟩
        · exact .inl ⟨(Option.some.inj h).symm, hfunction⟩
      · unfold onRepeatNonReadRequest at h
        split at h <;> exact .inr h
    · split at h
      · rename_i hfunction
        rcases deferred_onNewReadRequest h with hr | hr
        · exact .inl ⟨hr, hfunction⟩
        · exact .inr hr
      · have hr := deferred_onNewNonReadRequest h
        exact .inr hr

theorem deferred_timeout {s' : OContext} (h : TimesOut s s') : s'.deferred = s.deferred := by
  cases h with
  | _ => rfl

/-- A confirm timeout never ends a transmission. -/
theorem isTransmitting_timeout {s' : OContext} (h : TimesOut s s') (hs : s.isTransmitting = true) :
    s'.isTransmitting = true := by
  cases h with
  | retry => rfl
  | _ => exact hs

theorem deferred_checkForUnsolicitedNull (env : Env) (t : OContext) :
    (t.checkForUnsolicitedNull env).deferred = t.deferred := by
  unfold checkForUnsolicitedNull
  split
  · dsimp only
    rw [beginUnsolTx_eq]
    rfl
  · rfl

theorem deferred_checkForUnsolicited (env : Env) (t : OContext) :
    (t.checkForUnsolicited env).deferred = t.deferred := by
  unfold checkForUnsolicited
  split
  · dsimp only
    split
    · rw [beginUnsolTx_eq]
      rfl
    · rfl
  · rfl

/-- Only a READ is put off when its turn has come. -/
theorem processDeferredRequest_false (h : (t.processDeferredRequest env r).2 = false) :
    t.processDeferredRequest env r = (t, false) ∧ r.header.function = .READ ∧ t.state ≠ .Idle := by
  unfold processDeferredRequest at h ⊢
  split at h
  · cases h
  · split at h
    · rename_i hread
      split at h
      · cases h
      · rename_i hstate
        exact ⟨by simp [hread, hstate], hread, hstate⟩
    · cases h

/-- Once the tasks have been checked, a request waits only because a transmission is in progress,
    or because it is a READ and a confirm is awaited. -/
theorem deferred_checkForTaskStart (env : Env) (h : (t.checkForTaskStart env).deferred = some r) :
    t.deferred = some r ∧
      (t.canTransmit = false ∨ r.header.function = .READ ∧ t.state ≠ .Idle) := by
  unfold checkForTaskStart at h
  rw [deferred_checkForUnsolicited, deferred_checkForUnsolicitedNull] at h
  unfold checkForDeferredRequest at h
  split at h
  · rename_i hnone
    rw [hnone] at h
    cases h
  · rename_i request hsome
    split at h
    · dsimp only at h
      split at h
      · cases h
      · rename_i hprocessed
        obtain ⟨hsame, hread, hstate⟩ :=
          processDeferredRequest_false (Bool.eq_false_iff.mpr hprocessed)
        rw [hsame, hsome] at h
        cases h
        exact ⟨hsome, .inr ⟨hread, hstate⟩⟩
    · rename_i hcan
      exact ⟨h, .inl (Bool.eq_false_iff.mpr hcan)⟩

/-! ### Steps -/

/-- What happens to the slot for the deferred request before the tasks are checked. -/
structure Reacted (s : OContext) (input : Input) (t : OContext) : Prop where
  moves : Moves s input s t
  known : DeferredKnown s input t
  offline : ∀ r, t.deferred = some r → t.canTransmit = false →
    r.header.function = .READ ∨ t.isTransmitting = true

/-- A reaction that leaves the slot alone and ends no transmission. -/
theorem Reacted.of_same (hok : DeferredOk s) (hmoves : Moves s input s t)
    (hdeferred : t.deferred = s.deferred)
    (hbusy : s.isTransmitting = true → t.isTransmitting = true) : Reacted s input t := by
  have hread : ∀ r, t.deferred = some r → r.header.function = .READ ∨ t.isTransmitting = true := by
    intro r hr
    rcases hok r (hdeferred ▸ hr) with hread | hs
    · exact .inl hread
    · exact .inr (hbusy hs)
  refine ⟨hmoves, ?_, fun r hr _ => hread r hr⟩
  -- without a transmission only a READ can be in the slot
  intro r hr hfree
  refine ⟨mem_requests_of_deferred (hdeferred ▸ hr) fun hs => ?_,
    .inl ((hread r hr).resolve_right (by rw [hfree]; exact Bool.false_ne_true))⟩
  exact absurd ((hbusy hs).symm.trans hfree) Bool.noConfusion

/-- Nothing starts when the deferred request stays and no unsolicited response may start. -/
theorem checkForTaskStart_of_kept (hkept : t.checkForDeferredRequest env = t)
    (hstart : t.canStartUnsolicited = false) : t.checkForTaskStart env = t := by
  have hnull : t.checkForUnsolicitedNull env = t := by simp [checkForUnsolicitedNull, hstart]
  unfold checkForTaskStart
  rw [hkept, hnull]
  unfold checkForUnsolicited
  rw [hstart, Bool.and_false]
  rfl

/-- Nothing starts while a transmission is in progress. -/
theorem checkForTaskStart_of_busy (env : Env) (hcan : t.canTransmit = false) :
    t.checkForTaskStart env = t := by
  have hdeferred : t.checkForDeferredRequest env = t := by
    unfold checkForDeferredRequest
    split
    · rfl
    · rw [hcan, if_neg Bool.false_ne_true]
  have hstart : t.canStartUnsolicited = false := by simp [canStartUnsolicited, hcan]
  exact checkForTaskStart_of_kept hdeferred hstart

theorem checkForDeferredRequest_none (env : Env) (h : t.deferred = none) :
    t.checkForDeferredRequest env = t := by
  unfold checkForDeferredRequest
  rw [h]

/-- Nothing starts while a confirm is awaited and only a READ waits for its turn. -/
theorem checkForTaskStart_of_waiting (env : Env) (hstate : t.state ≠ .Idle)
    (hdeferred : ∀ r, t.deferred = some r → r.header.function = .READ) :
    t.checkForTaskStart env = t := by
  have hkept : t.checkForDeferredRequest env = t := by
    unfold checkForDeferredRequest
    split
    · rfl
    · rename_i r hr
      have hread := hdeferred r hr
      have hprocess : t.processDeferredRequest env r = (t, false) := by
        unfold processDeferredRequest
        rw [hread, if_neg FunctionCode.noConfusion, if_pos rfl, if_neg hstate]
      rw [hprocess]
      simp
  have hstart : t.canStartUnsolicited = false := by
    simp [canStartUnsolicited, beq_false_of_ne hstate, Bool.and_false]
  exact checkForTaskStart_of_kept hkept hstart

theorem Reacted.step (h : Reacted s input t) (env : Env) :
    Moves s input s (t.checkForTaskStart env) ∧ DeferredOk (t.checkForTaskStart env) := by
  refine ⟨h.moves.trans (moves_checkForTaskStart env h.known), ?_⟩
  intro r hr
  obtain ⟨hdeferred, hcan | ⟨hread, -⟩⟩ := deferred_checkForTaskStart env hr
  -- it was offline or busy, so the checks changed nothing
  · refine (h.offline r hdeferred hcan).imp_right fun hbusy => ?_
    rw [checkForTaskStart_of_busy env hcan]
    exact hbusy
  · exact .inl hread

theorem addresses_parseRequest
    (h : parseRequest message = some request) : request.addresses = message.addresses := by
  unfold parseRequest at h
  split at h
  · dsimp only at h
    split at h
    · cases h
      rfl
    · cases h
  · cases h

/-- What a message can do to an outstation that is online. -/
inductive Receives (s : OContext) (message : Message) (env later : Env) : OContext → Prop where
  | dropped : Receives s message env later s
  | flag (hbroadcast : message.addresses.isBroadcast = true) :
    Receives s message env later
      (s.updateLastBroadcastMessageReceived message.addresses.destination)
  | broadcast (request : ParsedRequest) (hbroadcast : message.addresses.isBroadcast = true)
    (hparse : parseRequest message = some request) :
    Receives s message env later
      ((s.updateLastBroadcastMessageReceived message.addresses.destination).onBroadcastMessage env
        request)
  | noAck (request : ParsedRequest)
    (hreceived : s.received (.receive message env later) = some request)
    (hfunction : isNoAckFuncCode request.header.function = true) :
    Receives s message env later
      (s.setStation (processRequestNoAck s.params env s.sol.num request.header.function
        request.objects s.station))
  | defer (request : ParsedRequest)
    (hreceived : s.received (.receive message env later) = some request)
    (hbusy : s.isTransmitting = true) : Receives s message env later (s.setDeferred (some request))
  | confirm (request : ParsedRequest)
    (hreceived : s.received (.receive message env later) = some request)
    (hfree : s.isTransmitting = false) (hconfirm : request.header.function = .CONFIRM) :
    Receives s message env later (s.processConfirm env request)
  | request (request : ParsedRequest)
    (hreceived : s.received (.receive message env later) = some request)
    (hack : isNoAckFuncCode request.header.function = false) (hfree : s.isTransmitting = false)
    (hconfirm : request.header.function ≠ .CONFIRM) :
    Receives s message env later (s.processRequest env request)

theorem receives_processMessage (honline : s.isOnline = true) (message : Message)
    (env later : Env) : Receives s message env later (s.processMessage env message) := by
  unfold processMessage
  split
  · rename_i haccepted
    -- a broadcast leaves its mark even if its request cannot be parsed
    cases hbroadcast : message.addresses.isBroadcast with
    | true =>
      rw [if_pos rfl]
      cases hparse : parseRequest message with
      | none => exact .flag hbroadcast
      | some request =>
        dsimp only
        unfold processObjects
        rw [addresses_parseRequest hparse, hbroadcast, if_pos rfl]
        exact .broadcast request hbroadcast hparse
    | false =>
      rw [if_neg Bool.false_ne_true]
      cases hparse : parseRequest message with
      | none => exact .dropped
      | some request =>
        have hreceived : s.received (.receive message env later) = some request := by
          unfold received
          dsimp only
          rw [honline, haccepted, hbroadcast]
          exact hparse
        dsimp only
        unfold processObjects
        rw [addresses_parseRequest hparse, hbroadcast, if_neg Bool.false_ne_true]
        split
        · rename_i hfunction
          exact .noAck request hreceived hfunction
        · rename_i hack
          split
          · rename_i hbusy
            exact .defer request hreceived hbusy
          · rename_i hfree
            rw [Bool.not_eq_true] at hack hfree
            split
            · rename_i hconfirm
              exact .confirm request hreceived hfree hconfirm
            · rename_i hconfirm
              exact .request request hreceived hack hfree hconfirm
  · exact .dropped

theorem reacted_processMessage (hok : DeferredOk s) (honline : s.isOnline = true)
    (message : Message) (env later : Env) :
    Reacted s (.receive message env later) (s.processMessage env message) := by
  obtain ⟨b, hb, -⟩ := s.updateLastBroadcastMessageReceived_eq message.addresses.destination
  have hreceives := receives_processMessage honline message env later
  generalize s.processMessage env message = t at hreceives
  cases hreceives with
  | dropped => exact .of_same hok .refl rfl id
  | flag hbroadcast =>
    have hmove := Move.flag (s := s) message env later rfl hbroadcast
    rw [hb] at hmove ⊢
    exact .of_same hok (.single hmove) rfl id
  | broadcast request hbroadcast hparse =>
    have hflag := Move.flag (s := s) message env later rfl hbroadcast
    have hmove := Move.broadcast (s := s) message env later request rfl hbroadcast hparse
    rw [hb] at hflag hmove ⊢
    exact .of_same hok ((Relation.ReflTransGen.single hflag).tail hmove) rfl id
  | noAck request hreceived hfunction =>
    exact .of_same hok (.single (.noAck message env later request rfl hreceived hfunction)) rfl id
  | defer request hreceived hbusy =>
    -- the tasks wait as well, for the transmission is still in progress
    refine ⟨.single (.defer request hreceived hbusy), ?_, fun r _ _ => .inr hbusy⟩
    intro r _ hfree
    exact absurd (hbusy.symm.trans hfree) Bool.noConfusion
  | confirm request hreceived hfree hconfirm =>
    have hack : isNoAckFuncCode request.header.function = false := by
      rw [hconfirm]
      rfl
    have hmove := Move.confirm env request (mem_requests_of_received hreceived hack hfree) hconfirm
    rw [ready_of_not_transmitting hfree] at hmove
    refine .of_same hok (.single hmove) (deferred_processConfirm env request s) ?_
    intro hbusy
    exact absurd (hbusy.symm.trans hfree) Bool.noConfusion
  | request request hreceived hack hfree hconfirm =>
    have hrequest := mem_requests_of_received hreceived hack hfree
    -- what is in the slot now is this READ or the one that was there
    have hready := ready_of_not_transmitting hfree
    have hmoves := moves_processRequest env hrequest hfree (.inr hready.symm)
      (fun _ => .inl ⟨hreceived, hready.symm⟩) hconfirm
    have hread : ∀ r, (s.processRequest env request).deferred = some r →
        r ∈ s.requests (.receive message env later) ∧ r.header.function = .READ := by
      intro r hr
      rcases deferred_processRequest hr with ⟨rfl, hread⟩ | hold
      · exact ⟨hrequest, hread⟩
      · have hidle : ¬ s.isTransmitting = true := by simp [hfree]
        exact ⟨mem_requests_of_deferred hold (absurd · hidle), (hok r hold).resolve_right hidle⟩
    exact ⟨hmoves, fun r hr _ => ⟨(hread r hr).1, .inl (hread r hr).2⟩,
      fun r hr _ => .inl (hread r hr).2⟩

/-- What happens once a transmission is over. -/
theorem reacted_ready (env : Env) (honline : s.isOnline = true) (hbusy : s.isTransmitting = true) :
    Reacted s (.txReady env) s.ready := by
  refine ⟨.single (.txReady env rfl hbusy), ?_, ?_⟩
  · intro r hr _
    exact ⟨mem_requests_of_deferred hr fun _ => rfl, .inr rfl⟩
  · intro r _ hcan
    unfold canTransmit at hcan
    rw [show s.ready.isOnline = true from honline] at hcan
    cases hcan

/-- What an input makes the outstation do before it checks its tasks. -/
inductive Reacts (s : OContext) : Input → Env → OContext → Prop where
  | online (env : Env) (h : s.isOnline = false) :
    Reacts s (.lowerLayerUp env) env
      { s with
        isOnline := true
        station := s.station.setShouldCheck true }
  | ready (env : Env) (honline : s.isOnline = true) (hbusy : s.isTransmitting = true) :
    Reacts s (.txReady env) env s.ready
  | message (message : Message) (env later : Env) (honline : s.isOnline = true) :
    Reacts s (.receive message env later) later (s.processMessage env message)
  | timeout (env : Env) (htimer : s.confirmTimer = true) :
    Reacts s (.confirmTimeout env) env
      (take ((s.setTimer false).record [.confirmTimeout]).onConfirmTimeout)
  | updates (updates : List Database.Update) (env : Env) :
    Reacts s (.apply updates env) env
      (s.setStation ((s.station.applyUpdates env.timeSource updates).setShouldCheck true))

/-- What a step consists of: a reaction and the check of the tasks, or less. -/
inductive Steps (s : OContext) (input : Input) : OContext → Prop where
  | same : Steps s input s
  | down (hinput : input = .lowerLayerDown) (h : s.isOnline = true) :
    Steps s input s.onLowerLayerDown
  | restartIIN (hinput : input = .setRestartIIN) :
    Steps s input
      (s.setStation (s.station.setStaticIIN (s.station.staticIIN.setBit .DEVICE_RESTART)))
  | tasks (t : OContext) (env : Env) (h : Reacts s input env t) :
    Steps s input (t.checkForTaskStart env)

/-- **Every step is one of these.** -/
theorem steps_step (s : OContext) (input : Input) : Steps s input (s.step input) := by
  unfold step
  cases input with
  | lowerLayerUp env =>
    dsimp only
    split
    · exact .same
    · rename_i honline
      exact .tasks _ env (.online env (Bool.eq_false_iff.mpr honline))
  | lowerLayerDown =>
    dsimp only
    split
    · rename_i honline
      exact .down rfl honline
    · exact .same
  | txReady env =>
    dsimp only
    split
    · rename_i hready
      rw [Bool.and_eq_true] at hready
      exact .tasks _ env (.ready env hready.1 hready.2)
    · exact .same
  | receive message env later =>
    dsimp only
    split
    · rename_i honline
      exact .tasks _ later (.message message env later honline)
    · exact .same
  | confirmTimeout env =>
    dsimp only
    split
    · rename_i htimer
      exact .tasks _ env (.timeout env htimer)
    · exact .same
  | apply updates env =>
    dsimp only
    split
    · exact .same
    · exact .tasks _ env (.updates updates env)
  | setRestartIIN => exact .restartIIN rfl

theorem reacted_of_reacts (hok : DeferredOk s) (h : Reacts s input env t) :
    Reacted s input t := by
  cases h with
  | online env honline => exact .of_same hok (.single (.online env rfl honline)) rfl id
  | ready env honline hbusy => exact reacted_ready env honline hbusy
  | message message env later honline => exact reacted_processMessage hok honline message _ _
  | timeout env htimer =>
    have htimeout := timesOut_onConfirmTimeout s
    exact .of_same hok (.single (.timeout env rfl htimer)) (deferred_timeout htimeout)
      (isTransmitting_timeout htimeout)
  | updates updates env => exact .of_same hok (.single (.updates updates env rfl)) rfl id

/-- **Every step is a sequence of moves**, and it keeps what is known about the slot for the
    deferred request. -/
theorem moves_step (hok : DeferredOk s) (input : Input) :
    Moves s input s (s.step input) ∧ DeferredOk (s.step input) := by
  have hsteps := steps_step s input
  generalize s.step input = s' at hsteps
  cases hsteps with
  | same => exact ⟨.refl, hok⟩
  | down hinput honline =>
    refine ⟨.single (.layerDown hinput honline), ?_⟩
    intro r hr
    cases hr
  | restartIIN => exact ⟨.single .restartIIN, hok⟩
  | tasks t env h => exact (reacted_of_reacts hok h).step env

/-- **Rule for runs**: what every move keeps holds in every state of a run whose steps are
    allowed. -/
theorem always_of_moves {ok : OContext → Input → Prop}
    (hmove : ∀ s input t t', ok s input → P s → Moves s input s t → Move s input t t' → P t → P t')
    {inputs : List Input} (hs : P s) (hdeferred : DeferredOk s) (hok : Along step ok s inputs) :
    Always step P s inputs := by
  have hboth : Always step (fun s => P s ∧ DeferredOk s) s inputs := by
    refine always_of_step ?_ ⟨hs, hdeferred⟩ hok
    intro s input hP hinput
    -- the slot is carried along, for `moves_step` needs it in every state
    have hreached : ∀ t, Moves s input s t → P t := by
      intro t ht
      induction ht with
      | refl => exact hP.1
      | tail hbefore hlast ih => exact hmove s input _ _ hinput hP.1 hbefore hlast ih
    obtain ⟨hmoves, hdeferred'⟩ := moves_step hP.2 input
    exact ⟨hreached _ hmoves, hdeferred'⟩
  exact hboth.mono fun _ h => h.1

/-- The rule for runs without restrictions. -/
theorem run_of_moves (hmove : ∀ s input t t', Move s input t t' → P t → P t') (hs : P s)
    (hdeferred : DeferredOk s) (inputs : List Input) : P (run step s inputs) := by
  have hboth : P (run step s inputs) ∧ DeferredOk (run step s inputs) := by
    refine invariant_run (P := fun s => P s ∧ DeferredOk s) ?_ ⟨hs, hdeferred⟩ inputs
    intro s input hP
    obtain ⟨hmoves, hdeferred'⟩ := moves_step hP.2 input
    exact ⟨hmoves.invariant (fun t t' => hmove s input t t') hP.1, hdeferred'⟩
  exact hboth.1

theorem deferredOk_of_none (h : s.deferred = none) : DeferredOk s := by
  intro r hr
  rw [h] at hr
  cases hr

end OContext

end OpenDnp3.Outstation
