import OpenDnp3.Outstation.Moves

/-!
# The effects of a move

A move names the function that runs, and most of these functions have several outcomes.
`Effect` lists the outcomes themselves, each with the state of the outstation before and after
it.  Properties of runs are proved over these cases; the functions are not unfolded again.
-/

namespace OpenDnp3.Outstation

open App Lib
open Link (LinkBroadcastAddress)

/-- Does the step begin with a broadcast that has to be confirmed? -/
def Input.isShallConfirm : Input → Bool
  | .receive message _ _ =>
    message.addresses.destination == LinkBroadcastAddress.ShallConfirm.toAddress
  | _ => false

/-- The inputs that end a wait without a confirm. -/
def Input.endsWait : Input → Bool
  | .confirmTimeout _ => true
  | .receive message _ _ => message.addresses.isBroadcast
  | _ => false

open Station

namespace Station

/-- Is anything selected that has not been sent? -/
def hasSelection (st : Station) : Bool :=
  st.database.hasAnySelection || st.eventBuffer.hasAnySelection

/-- The events of a confirmed response leave the buffer. -/
def clearConfirmed (st : Station) (uns : Bool) (seq : Fin 16) : Station :=
  (st.setEventBuffer st.eventBuffer.clearWritten).record
    [.cleared uns seq (st.eventBuffer.lists.idsIn .written)]

/-- The application is told about a confirm. -/
def notifyConfirm (st : Station) (uns : Bool) : Station :=
  st.record [.confirmProcessed uns (st.eventBuffer.lists.numUnwritten .EC1)
    (st.eventBuffer.lists.numUnwritten .EC2) (st.eventBuffer.lists.numUnwritten .EC3)]

/-- A solicited response is confirmed: its events leave the buffer. -/
def solicitedConfirm (st : Station) (seq : Fin 16) : Station :=
  ((st.record [.confirm false seq]).clearConfirmed false seq).notifyConfirm false

/-- An unsolicited response is confirmed; its events are still there. -/
def unsolicitedConfirm (st : Station) (seq : Fin 16) : Station :=
  (st.record [.confirm true seq]).notifyConfirm true

end Station

namespace OContext

/-- A wait for a confirm is over. -/
def timedOut (s : OContext) : OContext :=
  { s with
    station := s.station.record [.confirmTimeout]
    state := .Idle
    confirmTimer := false }

/-- The unsolicited response is repeated. -/
def retried (s : OContext) : OContext :=
  { s with
    station := (s.station.record [.confirmTimeout]).record
      [.transmit s.addresses.destination s.unsol.tx.lastResponse]
    isTransmitting := true
    unsolRetries := s.unsolRetries.retry.1
    confirmTimer := true }

/-- The unsolicited response is not repeated any more. -/
def gaveUp (s : OContext) : OContext :=
  { s with
    station := (s.station.record [.confirmTimeout]).setEventBuffer s.station.eventBuffer.unselect
    state := .Idle
    unsolRetries := s.unsolRetries.retry.1
    confirmTimer := false }

/-- A broadcast was handled. -/
def interrupted (s : OContext) (b : Option LinkBroadcastAddress) (station : Station) : OContext :=
  { s with
    station := station.record [.broadcast]
    state := .Idle
    lastBroadcastMessageReceived := b }

/-- A confirm was accepted: every request is a new one from now on. -/
def confirmed (s : OContext) (state : OutstationState) (completedNull : Bool)
    (station : Station) : OContext :=
  { s with
    station := station
    state := state
    isTransmitting := false
    completedNull := completedNull
    history := s.history.reset
    lastBroadcastMessageReceived := none
    confirmTimer := false }

/-- The last solicited response is sent once more. -/
def retransmitted (t : OContext) (timer : Bool) (destination : UInt16) : OContext :=
  { t with
    station := t.station.record [.transmit destination t.sol.tx.lastResponse]
    isTransmitting := true
    confirmTimer := timer }

/-- The outstation that has made up its answer to a new request but has not sent it. -/
def handling (t : OContext) (request : ParsedRequest) (timer : Bool)
    (deferred : Option ParsedRequest) (n : Nat) (station : Station) : OContext :=
  { t with
    station := station
    fragmentCount := n
    deferred := deferred
    sol := { t.sol with num := request.header.control.SEQ }
    history := .ofRequest request
    confirmTimer := timer }

/-- The timer once a request is being answered: a wait for a confirm has been given up. -/
def givenUp (t : OContext) : Bool := decide (t.state = .Idle) && t.confirmTimer

/-- Send a response and go where it leads to. -/
def sending (env : Env) (u : OContext) (kind : ResponseKind) (destination : UInt16)
    (seq : Fin 16) (iin : IINField) (loaded : Loaded) : OContext :=
  (u.answered env kind destination seq iin loaded).setState
    (stateAfter (u.sentControl seq loaded.control))

/-- The solicited or the unsolicited channel. -/
def channel (t : OContext) (uns : Bool) : Channel := if uns then t.unsol else t.sol

/-- **What sends a fragment**, of the unsolicited or of the solicited channel, and to whom. -/
inductive Transmits (s : OContext) (input : Input) :
    Bool → UInt16 → OContext → OContext → Prop where
  | timeoutRetry (env : Env) (hinput : input = .confirmTimeout env)
    (htimer : s.confirmTimer = true) (hstate : s.awaitsUnsolicited)
    (hnull : s.completedNull = true) (hretry : s.unsolRetries.retry.2 = true)
    (hdeferred : s.deferred = none) : Transmits s input true s.addresses.destination s s.retried
  | confirmNext (env : Env) (request : ParsedRequest) (hrequest : request ∈ s.requests input)
    (hfunction : request.header.function = .CONFIRM) (hstate : s.state = .SolicitedConfirmWait)
    (huns : request.header.control.UNS = false)
    (hseq : s.sol.confirmNum = request.header.control.SEQ)
    (hselection : (s.station.solicitedConfirm request.header.control.SEQ).hasSelection = true)
    (u : OContext)
    (hu : u = s.confirmed .SolicitedConfirmWait s.completedNull
      (s.station.solicitedConfirm request.header.control.SEQ)) (st : Station) (loaded : Loaded)
    (hload : u.loadResponse u.sol.tx.start =
      ((u.setFragmentCount ((u.fragmentCount + 1) % 65536)).setStation st, loaded)) :
    Transmits s input false request.addresses.source s.ready
      (((u.setFragmentCount ((u.fragmentCount + 1) % 65536)).setStation st).sending env .next
        request.addresses.source (request.header.control.SEQ + 1) .empty loaded)
  | repeatedNonRead (request : ParsedRequest) (hrequest : request ∈ s.requests input)
    (hfunction : request.header.function ≠ .READ) (huns : request.header.control.UNS = false)
    (hrecognised : s.recognises request = true) (hconfirm : request.header.function ≠ .CONFIRM) :
    Transmits s input false request.addresses.source s.ready
      (s.retransmitted (decide (s.state ≠ .SolicitedConfirmWait) && s.confirmTimer)
        request.addresses.source)
  | repeatedRead {t : OContext} (request : ParsedRequest) (hrequest : request ∈ s.requests input)
    (hfunction : request.header.function = .READ) (huns : request.header.control.UNS = false)
    (hfree : t.isTransmitting = false) (hrecognised : t.recognises request = true)
    (hstate : t.state = .Idle ∨ t.state = .SolicitedConfirmWait) :
    Transmits s input false request.addresses.source t
      (t.retransmitted (decide (t.state = .SolicitedConfirmWait) || t.confirmTimer)
        request.addresses.source)
  | nonRead (env : Env) (request : ParsedRequest) (hrequest : request ∈ s.requests input)
    (hfunction : request.header.function ≠ .READ) (huns : request.header.control.UNS = false)
    (hnew : s.recognises request = false)
    (hstate : s.state = .Idle ∨ s.state = .SolicitedConfirmWait) (st : Station)
    (hhandled : Handled s.params env.now request.header.control.SEQ request.header.function
      request.objects s.station st) (w : HeaderWriter) (iin : IINField)
    (hconfirm : request.header.function ≠ .CONFIRM) :
    Transmits s input false request.addresses.source s.ready
      ((s.handling request s.givenUp s.deferred s.fragmentCount st).sending env .other
        request.addresses.source request.header.control.SEQ iin (singleFragment w))
  -- during an unsolicited wait the state and the timer stay as they are
  | nonReadAside (env : Env) (request : ParsedRequest) (hrequest : request ∈ s.requests input)
    (hfunction : request.header.function ≠ .READ) (huns : request.header.control.UNS = false)
    (hnew : s.recognises request = false) (hstate : s.awaitsUnsolicited) (st : Station)
    (hhandled : Handled s.params env.now request.header.control.SEQ request.header.function
      request.objects s.station st) (w : HeaderWriter) (iin : IINField)
    (hconfirm : request.header.function ≠ .CONFIRM) :
    Transmits s input false request.addresses.source s.ready
      ((s.handling request s.confirmTimer none s.fragmentCount st).answered env .other
        request.addresses.source request.header.control.SEQ iin (singleFragment w))
  | read {t : OContext} (env : Env) (request : ParsedRequest)
    (hrequest : request ∈ s.requests input) (hfunction : request.header.function = .READ)
    (huns : request.header.control.UNS = false) (hfree : t.isTransmitting = false)
    (hnew : t.recognises request = false) (hstate : t.state ≠ .UnsolicitedConfirmWait)
    (hfile : isFileReadRequest request.objects = false) (n : Nat) (st : Station) (iin : IINField)
    (loaded : Loaded)
    (hload : (t.handling request t.givenUp t.deferred t.fragmentCount t.station).loadRead
      request.objects t.sol.tx.start =
        (t.handling request t.givenUp t.deferred n st, iin, loaded)) :
    Transmits s input false request.addresses.source t
      ((t.handling request t.givenUp t.deferred n st).sending env
        (.first request.header.control.SEQ) request.addresses.source request.header.control.SEQ
        iin loaded)
  | fileRead {t : OContext} (env : Env) (request : ParsedRequest)
    (hrequest : request ∈ s.requests input) (hfunction : request.header.function = .READ)
    (huns : request.header.control.UNS = false) (hfree : t.isTransmitting = false)
    (hnew : t.recognises request = false) (hstate : t.state ≠ .UnsolicitedConfirmWait)
    (hfile : isFileReadRequest request.objects = true) (st : Station)
    (hst : Background t.station st) (w : HeaderWriter) (iin : IINField)
    (hturn : s.received input = some request ∧ t = s.ready ∨ t.isOnline = true ∧ t.state = .Idle) :
    Transmits s input false request.addresses.source t
      ((t.handling request t.givenUp t.deferred t.fragmentCount st).sending env .other
        request.addresses.source request.header.control.SEQ iin (singleFragment w))
  | unsolicitedNull {t : OContext} (env : Env) (h : t.canStartUnsolicited = true)
    (hnull : t.completedNull = false) :
    Transmits s input true t.addresses.destination t (t.announcedNull env)
  | unsolicited {t : OContext} (env : Env) (h : t.canStartUnsolicited = true)
    (hnull : t.completedNull = true) :
    Transmits s input true t.addresses.destination t
      ((t.setStation (t.station.setShouldCheck false)).announcedEvents env)

/-- **What a move can bring about.** -/
inductive Effect (s : OContext) (input : Input) : OContext → OContext → Prop where
  | online (env : Env) (hinput : input = .lowerLayerUp env) (h : s.isOnline = false) :
    Effect s input s
      { s with
        isOnline := true
        station := s.station.setShouldCheck true }
  | layerDown (hinput : input = .lowerLayerDown) (h : s.isOnline = true) :
    Effect s input s s.onLowerLayerDown
  | txReady (env : Env) (hinput : input = .txReady env) (h : s.isTransmitting = true) :
    Effect s input s s.ready
  | timeoutIdle (env : Env) (hinput : input = .confirmTimeout env) (htimer : s.confirmTimer = true)
    (hstate : s.state = .Idle ∨ s.state = .SolicitedConfirmWait) : Effect s input s s.timedOut
  | timeoutNull (env : Env) (hinput : input = .confirmTimeout env) (htimer : s.confirmTimer = true)
    (hstate : s.awaitsUnsolicited) (hnull : s.completedNull = false) : Effect s input s s.timedOut
  | timeoutGiveUp (env : Env) (hinput : input = .confirmTimeout env)
    (htimer : s.confirmTimer = true) (hstate : s.awaitsUnsolicited)
    (hnull : s.completedNull = true)
    (hretry : s.unsolRetries.retry.2 = false ∨ s.deferred ≠ none) : Effect s input s s.gaveUp
  | updates (updates : List Database.Update) (env : Env) (hinput : input = .apply updates env) :
    Effect s input s
      (s.setStation ((s.station.applyUpdates env.timeSource updates).setShouldCheck true))
  | restartIIN :
    Effect s input s
      (s.setStation (s.station.setStaticIIN (s.station.staticIIN.setBit .DEVICE_RESTART)))
  | flag (message : Message) (env later : Env) (hinput : input = .receive message env later)
    (hbroadcast : message.addresses.isBroadcast = true) (b : Option LinkBroadcastAddress)
    (hb : b = some .ShallConfirm → input.isShallConfirm = true) :
    Effect s input s (s.setBroadcast b)
  | broadcast (message : Message) (env later : Env) (hinput : input = .receive message env later)
    (hbroadcast : message.addresses.isBroadcast = true) (b : Option LinkBroadcastAddress)
    (hb : b = some .ShallConfirm → input.isShallConfirm = true) (st : Station)
    (hst : Background s.station st) : Effect s input (s.setBroadcast b) (s.interrupted b st)
  | noAck (message : Message) (env later : Env) (request : ParsedRequest)
    (hinput : input = .receive message env later) (hreceived : s.received input = some request)
    (hfunction : isNoAckFuncCode request.header.function = true) :
    Effect s input s
      (s.setStation (processRequestNoAck s.params env s.sol.num request.header.function
        request.objects s.station))
  | defer (request : ParsedRequest) (hreceived : s.received input = some request)
    (h : s.isTransmitting = true) : Effect s input s (s.setDeferred (some request))
  -- confirms: ignored, of the last fragment, of events, of the null response
  | confirmIgnored (request : ParsedRequest) (hrequest : request ∈ s.requests input)
    (hfunction : request.header.function = .CONFIRM)
    (h : s.awaits request.header.control.UNS request.header.control.SEQ = false) :
    Effect s input s.ready
      (s.ready.record [.confirm request.header.control.UNS request.header.control.SEQ])
  | confirmLast (request : ParsedRequest) (hrequest : request ∈ s.requests input)
    (hfunction : request.header.function = .CONFIRM) (hstate : s.state = .SolicitedConfirmWait)
    (huns : request.header.control.UNS = false)
    (hseq : s.sol.confirmNum = request.header.control.SEQ)
    (hselection : (s.station.solicitedConfirm request.header.control.SEQ).hasSelection = false) :
    Effect s input s.ready
      (s.confirmed .Idle s.completedNull (s.station.solicitedConfirm request.header.control.SEQ))
  | confirmUnsolicited (request : ParsedRequest) (hrequest : request ∈ s.requests input)
    (hfunction : request.header.function = .CONFIRM) (hstate : s.awaitsUnsolicited)
    (huns : request.header.control.UNS = true)
    (hseq : s.unsol.confirmNum = request.header.control.SEQ) (hnull : s.completedNull = true) :
    Effect s input s.ready
      (s.confirmed .Idle s.completedNull (((s.station.unsolicitedConfirm
        request.header.control.SEQ).clearConfirmed true request.header.control.SEQ).setShouldCheck
          true))
  | confirmNull (request : ParsedRequest) (hrequest : request ∈ s.requests input)
    (hfunction : request.header.function = .CONFIRM) (hstate : s.awaitsUnsolicited)
    (huns : request.header.control.UNS = true)
    (hseq : s.unsol.confirmNum = request.header.control.SEQ) (hnull : s.completedNull = false) :
    Effect s input s.ready
      (s.confirmed .Idle true ((s.station.unsolicitedConfirm
        request.header.control.SEQ).setShouldCheck true))
  -- a READ that has to wait for the unsolicited confirm
  | repeatedReadDeferred {t : OContext} (request : ParsedRequest)
    (hrequest : request ∈ s.requests input) (hfunction : request.header.function = .READ)
    (huns : request.header.control.UNS = false) (hfree : t.isTransmitting = false)
    (hrecognised : t.recognises request = true) (hstate : t.awaitsUnsolicited) :
    Effect s input t (t.setDeferred (some request))
  | readDeferred {t : OContext} (request : ParsedRequest) (hrequest : request ∈ s.requests input)
    (hfunction : request.header.function = .READ) (huns : request.header.control.UNS = false)
    (hfree : t.isTransmitting = false) (hnew : t.recognises request = false)
    (hstate : t.state = .UnsolicitedConfirmWait) :
    Effect s input t ((t.numbered request).setDeferred (some request))
  | undefer (t : OContext) : Effect s input t (t.setDeferred none)
  | noUnsolicited {t : OContext} (h : t.canStartUnsolicited = true) :
    Effect s input t (t.setStation (t.station.setShouldCheck false))
  | transmits {uns : Bool} {destination : UInt16} {t t' : OContext}
    (h : Transmits s input uns destination t t') : Effect s input t t'

/-! ## Answers -/

theorem respondToNonReadRequest_sending (env : Env) (u : OContext) (request : ParsedRequest)
    (hnum : u.sol.num = request.header.control.SEQ) :
    ∃ st w iin, Handled u.params env.now request.header.control.SEQ request.header.function
        request.objects u.station st ∧
      u.respondToNonReadRequest env request =
        ((u.prepared request u.fragmentCount st).answered env .other request.addresses.source
            request.header.control.SEQ iin (singleFragment w),
          stateAfter (u.sentControl request.header.control.SEQ (singleFragment w).control)) := by
  have hhandled := handled_handleNonReadResponse u.params env u.sol.num request.header.function
    request.objects u.sol.tx.start u.station
  have hrespond : u.respondToNonReadRequest env request =
      let result := handleNonReadResponse u.params env u.sol.num request.header.function
        request.objects u.sol.tx.start u.station
      respondLoaded env (u.prepared request u.fragmentCount result.1) .other
        request.addresses.source request.header.control.SEQ result.2.2
        (singleFragment result.2.1) := rfl
  rw [hrespond]
  rw [hnum] at hhandled ⊢
  generalize handleNonReadResponse u.params env request.header.control.SEQ request.header.function
    request.objects u.sol.tx.start u.station = result at hhandled
  exact ⟨result.1, result.2.1, result.2.2, hhandled, respondLoaded_eq ..⟩

variable {request : ParsedRequest}

/-- The answer to a READ, of a file or not. -/
theorem transmits_read {s t : OContext} {input : Input} (env : Env)
    (hrequest : request ∈ s.requests input) (hfunction : request.header.function = .READ)
    (huns : request.header.control.UNS = false) (hfree : t.isTransmitting = false)
    (hnew : t.recognises request = false) (hstate : t.state ≠ .UnsolicitedConfirmWait)
    (hturn : s.received input = some request ∧ t = s.ready ∨ t.isOnline = true ∧ t.state = .Idle)
    (u : OContext) (hu : u = (t.numbered request).setTimer t.givenUp) :
    Transmits s input false request.addresses.source t
      (take (u.respondToReadRequest env request)) := by
  unfold respondToReadRequest
  dsimp only
  split
  · rename_i hfile
    rw [respondLoaded_eq, hu]
    exact .fileRead env request hrequest hfunction huns hfree hnew hstate hfile _
      (background_recordFile t.station
        (handleFileRead t.params.hasFileHandler env.file request.objects t.sol.tx.start)) _ _ hturn
  · rename_i hfile
    rw [Bool.not_eq_true] at hfile
    -- loading sees the history of this request and the timer given up
    have hstart : u.setHistory (.ofRequest request) =
        t.handling request t.givenUp t.deferred t.fragmentCount t.station := by
      rw [hu]
      rfl
    have hbuffer : (u.setHistory (.ofRequest request)).sol.tx.start = t.sol.tx.start := by
      rw [hu]
      rfl
    rw [respondLoaded_eq, hbuffer, hstart]
    obtain ⟨st, n, hframe⟩ := loadRead_frame
      (t.handling request t.givenUp t.deferred t.fragmentCount t.station) request.objects
      t.sol.tx.start
    generalize hload : (t.handling request t.givenUp t.deferred t.fragmentCount
      t.station).loadRead request.objects t.sol.tx.start = result at hframe
    obtain ⟨u', iin, loaded⟩ := result
    have hu' : u' = t.handling request t.givenUp t.deferred n st := hframe
    subst hu'
    exact .read env request hrequest hfunction huns hfree hnew hstate hfile n st iin loaded hload

theorem givenUp_idle {t : OContext} (h : t.state = .Idle) : t.givenUp = t.confirmTimer := by
  simp [givenUp, h]

theorem givenUp_waiting {t : OContext} (h : t.state ≠ .Idle) : t.givenUp = false := by
  simp [givenUp, decide_eq_false h]

/-- An answer does not depend on whether the transmission before it is still marked as such. -/
theorem answered_ready (env : Env) (s : OContext) (request : ParsedRequest) (timer : Bool)
    (deferred : Option ParsedRequest) (n : Nat) (st : Station) (destination : UInt16)
    (iin : IINField) (loaded : Loaded) :
    ((((s.ready.numbered request).setTimer timer).setDeferred deferred).prepared request n
        st).answered env .other destination request.header.control.SEQ iin loaded =
      (s.handling request timer deferred n st).answered env .other destination
        request.header.control.SEQ iin loaded := by
  cases s
  rfl

/-- The answer to a request that is no READ. -/
theorem transmits_nonRead {s t' : OContext} {input : Input} {env : Env}
    (hrequest : request ∈ s.requests input) (hfunction : request.header.function ≠ .READ)
    (huns : request.header.control.UNS = false) (hnew : s.recognises request = false)
    (hconfirm : request.header.function ≠ .CONFIRM) (h : Operates env request s.ready t') :
    Transmits s input false request.addresses.source s.ready t' := by
  -- outside an unsolicited wait the answer decides where the outstation goes
  have hanswer : ∀ u : OContext, u = (s.ready.numbered request).setTimer s.givenUp →
      s.state = .Idle ∨ s.state = .SolicitedConfirmWait →
      Transmits s input false request.addresses.source s.ready
        (take (u.respondToNonReadRequest env request)) := by
    intro u hu hstate
    have hnum : u.sol.num = request.header.control.SEQ := by
      rw [hu]
      rfl
    obtain ⟨st, w, iin, hhandled, hsending⟩ := respondToNonReadRequest_sending env u request hnum
    subst hu
    rw [hsending]
    have htransmits :=
      Transmits.nonRead env request hrequest hfunction huns hnew hstate st hhandled w iin hconfirm
    unfold sending at htransmits
    rw [← answered_ready] at htransmits
    exact htransmits
  cases h with
  | idle hstate =>
    refine hanswer _ ?_ (.inl hstate)
    rw [givenUp_idle (show s.state = .Idle from hstate)]
    rfl
  | waiting hstate =>
    change s.state = .SolicitedConfirmWait at hstate
    refine hanswer _ ?_ (.inr hstate)
    rw [givenUp_waiting (by rw [hstate]; exact OutstationState.noConfusion)]
  -- the reaction keeps the state and drops what waited in the slot
  | aside hstate =>
    obtain ⟨st, w, iin, hhandled, hsending⟩ := respondToNonReadRequest_sending env
      ((s.ready.numbered request).setDeferred none) request rfl
    rw [hsending]
    have htransmits := Transmits.nonReadAside env request hrequest hfunction huns hnew hstate st
      hhandled w iin hconfirm
    rw [← answered_ready] at htransmits
    exact htransmits

/-! ## Confirms and repetitions -/

theorem setState_confirmed (s : OContext) (state state' : OutstationState) (completedNull : Bool)
    (station : Station) :
    (s.confirmed state completedNull station).setState state' =
      s.confirmed state' completedNull station := rfl

theorem hasSelection_confirmed (s : OContext) (state : OutstationState) (completedNull : Bool)
    (station : Station) :
    (s.confirmed state completedNull station).hasSelection = station.hasSelection := rfl

theorem confirmed_solicited (s : OContext) (seq : Fin 16) :
    s.ready.solicitedConfirmed seq =
      s.confirmed s.state s.completedNull (s.station.solicitedConfirm seq) := by
  cases s
  rfl

/-- The events of an unsolicited response are cleared, and the outstation is idle. -/
theorem confirmed_cleared (s : OContext) (seq : Fin 16) (u : OContext)
    (hu : u = (s.ready.unsolicitedConfirmed seq).clearWritten true seq) :
    (u.setStation (u.station.setShouldCheck true)).setState .Idle =
      s.confirmed .Idle s.completedNull
        (((s.station.unsolicitedConfirm seq).clearConfirmed true seq).setShouldCheck true) := by
  subst hu
  cases s
  rfl

/-- The first unsolicited response is confirmed. -/
theorem confirmed_null (s : OContext) (seq : Fin 16) (u : OContext)
    (hu : u = s.ready.unsolicitedConfirmed seq) :
    ({ u with completedNull := true }.setStation (u.station.setShouldCheck true)).setState .Idle =
      s.confirmed .Idle true ((s.station.unsolicitedConfirm seq).setShouldCheck true) := by
  subst hu
  cases s
  rfl

theorem effect_confirm {s t' : OContext} {input : Input} {env : Env}
    (hrequest : request ∈ s.requests input) (hfunction : request.header.function = .CONFIRM)
    (h : Confirms env request s.ready t') : Effect s input s.ready t' := by
  cases h with
  | ignored h => exact .confirmIgnored request hrequest hfunction h
  | done hstate huns hseq hselection =>
    rw [confirmed_solicited, hasSelection_confirmed] at hselection
    rw [confirmed_solicited, setState_confirmed]
    exact .confirmLast request hrequest hfunction hstate huns hseq hselection
  -- `loadResponse_frame` gives the state from which the next fragment goes out
  | next hstate huns hseq hselection =>
    change s.state = .SolicitedConfirmWait at hstate
    rw [confirmed_solicited, hasSelection_confirmed] at hselection
    rw [confirmed_solicited, hstate]
    generalize hu : s.confirmed .SolicitedConfirmWait s.completedNull
      (s.station.solicitedConfirm request.header.control.SEQ) = u
    obtain ⟨st, hframe⟩ := loadResponse_frame u u.sol.tx.start
    rw [continueMultiFragResponse_eq]
    generalize hload : u.loadResponse u.sol.tx.start = result at hframe
    obtain ⟨u', loaded⟩ := result
    have hu' : u' = (u.setFragmentCount ((u.fragmentCount + 1) % 65536)).setStation st := hframe
    subst hu'
    exact .transmits (.confirmNext env request hrequest hfunction hstate huns hseq hselection u
      hu.symm st loaded hload)
  | unsolicited hstate huns hseq hnull u hu =>
    rw [confirmed_cleared s request.header.control.SEQ u hu]
    exact .confirmUnsolicited request hrequest hfunction hstate huns hseq hnull
  | null hstate huns hseq hnull u hu =>
    rw [confirmed_null s request.header.control.SEQ u hu]
    exact .confirmNull request hrequest hfunction hstate huns hseq hnull

theorem transmits_repeatedNonRead {s : OContext} {input : Input}
    (hrequest : request ∈ s.requests input) (hfunction : request.header.function ≠ .READ)
    (huns : request.header.control.UNS = false) (hrecognised : s.recognises request = true)
    (hconfirm : request.header.function ≠ .CONFIRM) :
    Transmits s input false request.addresses.source s.ready
      (take (s.ready.onRepeatNonReadRequest request)) := by
  have htransmits := Transmits.repeatedNonRead request hrequest hfunction huns hrecognised hconfirm
  unfold onRepeatNonReadRequest
  split
  · rename_i hstate
    change s.state = .SolicitedConfirmWait at hstate
    rw [hstate] at htransmits
    exact htransmits
  · rename_i hstate
    rw [decide_eq_true (show s.state ≠ .SolicitedConfirmWait from hstate)] at htransmits
    exact htransmits

theorem effect_repeatedRead {s t : OContext} {input : Input}
    (hrequest : request ∈ s.requests input) (hfunction : request.header.function = .READ)
    (huns : request.header.control.UNS = false) (hfree : t.isTransmitting = false)
    (hrecognised : t.recognises request = true) :
    Effect s input t (take (t.onRepeatReadRequest request)) := by
  unfold onRepeatReadRequest
  split
  · rename_i hstate
    have htransmits : Transmits s input false request.addresses.source t _ :=
      .repeatedRead request hrequest hfunction huns hfree hrecognised (.inl hstate)
    rw [hstate] at htransmits
    exact .transmits htransmits
  · rename_i hstate
    have htransmits : Transmits s input false request.addresses.source t _ :=
      .repeatedRead request hrequest hfunction huns hfree hrecognised (.inr hstate)
    rw [hstate] at htransmits
    exact .transmits htransmits
  · rename_i hstate
    exact .repeatedReadDeferred request hrequest hfunction huns hfree hrecognised (.inl hstate)
  · rename_i hstate
    exact .repeatedReadDeferred request hrequest hfunction huns hfree hrecognised (.inr hstate)

/-! ## Moves -/

/-- **Every move has one of the effects.** -/
theorem effect_of_move {s t t' : OContext} {input : Input} (h : Move s input t t') :
    Effect s input t t' := by
  -- only the address 0xFFFE obliges to a confirm, and the input shows it
  have hflag : ∀ message env later, input = .receive message env later → ∃ b,
      s.updateLastBroadcastMessageReceived message.addresses.destination = s.setBroadcast b ∧
        (b = some .ShallConfirm → input.isShallConfirm = true) := by
    intro message env later hinput
    obtain ⟨b, hb, hshall⟩ := s.updateLastBroadcastMessageReceived_eq message.addresses.destination
    refine ⟨b, hb, fun hb => ?_⟩
    rw [hinput]
    exact beq_iff_eq.mpr (hshall hb)
  cases h with
  | online env hinput h => exact .online env hinput h
  | layerDown hinput h => exact .layerDown hinput h
  | txReady env hinput h => exact .txReady env hinput h
  -- one case per outcome of the function that the move names
  | timeout env hinput htimer =>
    have h := timesOut_onConfirmTimeout s
    generalize take ((s.setTimer false).record [.confirmTimeout]).onConfirmTimeout = s' at h
    cases h with
    | idle hstate => exact .timeoutIdle env hinput htimer hstate
    | null hstate hnull => exact .timeoutNull env hinput htimer hstate hnull
    | retry hstate hnull hretry hdeferred =>
      exact .transmits (.timeoutRetry env hinput htimer hstate hnull hretry hdeferred)
    | giveUp hstate hnull hretry => exact .timeoutGiveUp env hinput htimer hstate hnull hretry
  | updates updates env hinput => exact .updates updates env hinput
  | restartIIN => exact .restartIIN
  | flag message env later hinput hbroadcast =>
    obtain ⟨b, hb, hshall⟩ := hflag message env later hinput
    rw [hb]
    exact .flag message env later hinput hbroadcast b hshall
  | broadcast message env later request hinput hbroadcast =>
    obtain ⟨b, hb, hshall⟩ := hflag message env later hinput
    rw [hb]
    exact .broadcast message env later hinput hbroadcast b hshall _
      (background_processBroadcastRequest s.params env s.sol.num request.header.function
        request.objects s.station)
  | noAck message env later request hinput hreceived hfunction =>
    exact .noAck message env later request hinput hreceived hfunction
  | defer request hreceived h => exact .defer request hreceived h
  | confirm env request hrequest hfunction =>
    exact effect_confirm hrequest hfunction (confirms_processConfirm env request s.ready)
  | repeatedNonRead request hrequest hfunction huns hrecognised hconfirm =>
    exact .transmits (transmits_repeatedNonRead hrequest hfunction huns hrecognised hconfirm)
  | nonRead env request hrequest hfunction huns hnew hconfirm =>
    exact .transmits (transmits_nonRead hrequest hfunction huns hnew hconfirm
      (operates_onNewNonReadRequest env request s.ready))
  | repeatedRead request hrequest hfunction huns hfree hrecognised =>
    exact effect_repeatedRead hrequest hfunction huns hfree hrecognised
  -- by the state: put off, answered at once, or answered in place of a wait
  | read env request hrequest hfunction huns hfree hnew hturn =>
    have h := reads_onNewReadRequest env request t
    generalize take ((t.numbered request).onNewReadRequest env request) = t' at h
    cases h with
    | deferred hstate => exact .readDeferred request hrequest hfunction huns hfree hnew hstate
    | idle hstate =>
      refine .transmits
        (transmits_read env hrequest hfunction huns hfree hnew ?_ hturn (t.numbered request) ?_)
      · simp [hstate]
      · rw [givenUp_idle hstate]
        rfl
    | waiting hstate =>
      refine .transmits (transmits_read env hrequest hfunction huns hfree hnew ?_ hturn
        ((t.numbered request).setTimer false) ?_)
      · rcases hstate with hstate | hstate <;> simp [hstate]
      · rw [givenUp_waiting]
        rcases hstate with hstate | hstate <;> simp [hstate]
  | undefer => exact .undefer t
  | unsolicitedNull env h hnull =>
    rw [checkForUnsolicitedNull_eq h hnull]
    exact .transmits (.unsolicitedNull env h hnull)
  | unsolicited env h hcheck =>
    have hannounces := announces_checkForUnsolicited env h hcheck
    generalize t.checkForUnsolicited env = t' at hannounces
    cases hannounces with
    | nothing => exact .noUnsolicited h
    | events hnull => exact .transmits (.unsolicited env h hnull)

/-- The addresses and the parameters never change. -/
theorem config_move {s t t' : OContext} {input : Input} (h : Move s input t t') :
    Configured t t' := by
  cases effect_of_move h with
  | transmits h =>
    cases h with
    | confirmNext _ _ _ _ _ _ _ _ u hu =>
      subst hu
      exact ⟨rfl, rfl⟩
    | _ => exact ⟨rfl, rfl⟩
  | _ => exact ⟨rfl, rfl⟩

theorem params_move {s t t' : OContext} {input : Input} (h : Move s input t t') :
    t'.params = t.params :=
  (config_move h).2

/-- The sequences of effects that a step can have. -/
abbrev Effects (s : OContext) (input : Input) : OContext → OContext → Prop :=
  Relation.ReflTransGen (Effect s input)

/-- **Rule for runs**: what every effect keeps holds in every state of a run whose steps are
    allowed. -/
theorem always_of_effects {ok : OContext → Input → Prop} {P : OContext → Prop}
    (heffect : ∀ s input t t', ok s input → P s → Effects s input s t → Effect s input t t' →
      P t → P t')
    {s : OContext} {inputs : List Input} (hs : P s) (hdeferred : DeferredOk s)
    (hok : Along step ok s inputs) : Always step P s inputs := by
  refine always_of_moves ?_ hs hdeferred hok
  intro s input t t' hinput hs hbefore hmove ht
  exact heffect s input t t' hinput hs (hbefore.lift id fun _ _ => effect_of_move)
    (effect_of_move hmove) ht

/-- **Rule for steps**: what every effect keeps, a step keeps. -/
theorem step_of_effects {P : OContext → Prop} {s : OContext} {input : Input} (hok : DeferredOk s)
    (heffect : ∀ t t', Effect s input t t' → P t → P t') (hs : P s) : P (s.step input) :=
  (moves_step hok input).1.invariant (fun t t' hmove => heffect t t' (effect_of_move hmove)) hs

/-! ## Offline -/

/-- An outstation that is offline waits for nothing. -/
structure OfflineOk (s : OContext) : Prop where
  state : s.isOnline = false → s.state = .Idle
  transmitting : s.isOnline = false → s.isTransmitting = false
  timer : s.isOnline = false → s.confirmTimer = false
  deferred : s.isOnline = false → s.deferred = none

variable {s t t' : OContext} {input : Input}

theorem OfflineOk.of_online (h : t.isOnline = true) : OfflineOk t := by
  have hcontra : ¬ t.isOnline = false := by simp [h]
  exact ⟨fun h => absurd h hcontra, fun h => absurd h hcontra, fun h => absurd h hcontra,
    fun h => absurd h hcontra⟩

theorem requests_offline (h : OfflineOk s) (hoffline : s.isOnline = false) (input : Input) :
    s.requests input = [] := by
  have hreceived : s.received input = none := by
    unfold received
    rw [hoffline]
    cases input with
    | receive => rfl
    | _ => rfl
  unfold requests
  rw [hreceived, h.deferred hoffline, h.transmitting hoffline]
  rfl

/-- Only the lower layer decides whether the outstation is online. -/
theorem isOnline_effect (h : Effect s input t t') (hinput : input ≠ .lowerLayerDown)
    (ht : s.isOnline = true → t.isOnline = true) (hs : s.isOnline = true) : t'.isOnline = true := by
  cases h with
  | layerDown hdown => exact absurd hdown hinput
  | online => rfl
  | transmits h =>
    cases h with
    | confirmNext _ _ _ _ _ _ _ _ u hu =>
      rw [hu]
      exact hs
    | _ => exact ht hs
  | _ => exact ht hs

/-- **An outstation that is offline does nothing that it would have to wait for.** -/
theorem offlineOk_effect (h : Effect s input t t') (hinput : input ≠ .lowerLayerDown)
    (hs : OfflineOk s) (hoffline : s.isOnline = false) (ht : OfflineOk t) : OfflineOk t' := by
  -- offline there is no request, no message, no timer and no task
  have hnone : ∀ {request : ParsedRequest}, request ∈ s.requests input → False := by
    intro request hrequest
    rw [requests_offline hs hoffline] at hrequest
    cases hrequest
  have hreceived : ∀ {request : ParsedRequest}, s.received input = some request → False := by
    intro request hrequest
    unfold received at hrequest
    rw [hoffline] at hrequest
    cases input with
    | receive => cases hrequest
    | _ => cases hrequest
  have htimer : s.confirmTimer = true → False := by simp [hs.timer hoffline]
  have hstart : t.canStartUnsolicited = true → t'.isOnline = t.isOnline → OfflineOk t' := by
    intro hstart hsame
    unfold canStartUnsolicited canTransmit at hstart
    simp only [Bool.and_eq_true] at hstart
    exact .of_online (hsame.trans hstart.1.1.1)
  cases h with
  | online => exact .of_online rfl
  | layerDown hdown => exact absurd hdown hinput
  | txReady _ _ hbusy => exact absurd (hbusy.symm.trans (hs.transmitting hoffline)) Bool.noConfusion
  | timeoutIdle _ _ h | timeoutNull _ _ h | timeoutGiveUp _ _ h => exact (htimer h).elim
  | updates | restartIIN | flag => exact ⟨hs.state, hs.transmitting, hs.timer, hs.deferred⟩
  | broadcast => exact ⟨fun _ => rfl, hs.transmitting, hs.timer, hs.deferred⟩
  | noAck _ _ _ _ _ h | defer _ h => exact (hreceived h).elim
  | confirmIgnored _ h | confirmLast _ h | confirmUnsolicited _ h | confirmNull _ h
  | repeatedReadDeferred _ h | readDeferred _ h => exact (hnone h).elim
  | undefer => exact ⟨ht.state, ht.transmitting, ht.timer, fun _ => rfl⟩
  | noUnsolicited h => exact hstart h rfl
  | transmits h =>
    cases h with
    | timeoutRetry _ _ h => exact (htimer h).elim
    | confirmNext _ _ h | repeatedNonRead _ h | repeatedRead _ h | nonRead _ _ h
    | nonReadAside _ _ h | read _ _ h | fileRead _ _ h => exact (hnone h).elim
    | unsolicitedNull _ h | unsolicited _ h => exact hstart h rfl

theorem offlineOk_step (hok : DeferredOk s) (hs : OfflineOk s) (input : Input) :
    OfflineOk (s.step input) := by
  by_cases hdown : input = .lowerLayerDown
  · subst hdown
    unfold step
    dsimp only
    split
    · exact ⟨fun _ => rfl, fun _ => rfl, fun _ => rfl, fun _ => rfl⟩
    · exact hs
  · cases honline : s.isOnline with
    | true =>
      have hstep : s.isOnline = true → (s.step input).isOnline = true :=
        step_of_effects (P := fun t => s.isOnline = true → t.isOnline = true) hok
          (fun t t' heffect ht => isOnline_effect heffect hdown ht) id
      exact .of_online (hstep honline)
    | false =>
      exact step_of_effects hok
        (fun t t' heffect ht => offlineOk_effect heffect hdown hs honline ht) hs

/-- What is known of every outstation that was constructed and has run. -/
structure Sound (s : OContext) : Prop where
  deferred : DeferredOk s
  offline : OfflineOk s

theorem Sound.online (h : Sound s) (hbusy : s.isTransmitting = true) : s.isOnline = true := by
  cases honline : s.isOnline with
  | true => rfl
  | false => exact absurd (hbusy.symm.trans (h.offline.transmitting honline)) Bool.noConfusion

theorem Sound.step (h : Sound s) (input : Input) : Sound (s.step input) :=
  ⟨(moves_step h.deferred input).2, offlineOk_step h.deferred h.offline input⟩

theorem sound_init (addresses : OpenDnp3.Link.Addresses) (params : OutstationParams)
    (numUnsolRetries : Option Nat) (unsolClassMask : ClassField) (config : EventBufferConfig)
    (database : Database) :
    Sound (.init addresses params numUnsolRetries unsolClassMask config database) :=
  ⟨deferredOk_of_none rfl, ⟨fun _ => rfl, fun _ => rfl, fun _ => rfl, fun _ => rfl⟩⟩

end OContext

end OpenDnp3.Outstation
