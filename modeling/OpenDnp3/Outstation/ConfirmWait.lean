import OpenDnp3.Outstation.Transmissions

/-!
# Waiting for confirms

An outstation that has sent a fragment with CON=1 waits for the confirm of it, and a timer limits
the wait.  Both can go wrong.  A repeated request that is no READ stops the timer while the
outstation goes on waiting.  And a fragment with CON=1 may leave in a state that does not expect
its confirm: when a broadcast adds CON to the answer to a request that comes while an unsolicited
response is awaited, or when an old response is sent again after its wait has ended.
-/

namespace OpenDnp3.Outstation

open App Lib
open Link (Addresses LinkBroadcastAddress)

namespace OContext

variable {s t t' : OContext} {input : Input}

/-! ## The timer -/

/-- A wait for a confirm has its timer. -/
def TimerOk (s : OContext) : Prop := s.state ≠ .Idle → s.confirmTimer = true

/-- **The condition**: while a solicited confirm is awaited, the request that is being answered is
    not repeated, unless it is a READ. -/
def KeepsTimer (s : OContext) (input : Input) : Prop :=
  s.state = .SolicitedConfirmWait → ∀ request ∈ s.requests input,
    request.header.function ≠ .READ → request.header.control.UNS = false →
      s.recognises request = false

instance (s : OContext) (input : Input) : Decidable (KeepsTimer s input) := by
  unfold KeepsTimer
  infer_instance

theorem timerOk_idle (h : t.state = .Idle) : TimerOk t := fun hwait => absurd h hwait

/-- A response that wants a confirm starts the timer. -/
theorem timerOk_sending (env : Env) (u : OContext) (kind : ResponseKind) (destination : UInt16)
    (seq : Fin 16) (iin : IINField) (loaded : Loaded) :
    TimerOk (u.sending env kind destination seq iin loaded) := by
  intro hwait
  change stateAfter (u.sentControl seq loaded.control) ≠ .Idle at hwait
  change ((u.sentControl seq loaded.control).CON || u.confirmTimer) = true
  unfold stateAfter at hwait
  split at hwait
  · rename_i hcon
    rw [hcon]
    rfl
  · exact absurd rfl hwait

theorem timerOk_effect (hok : KeepsTimer s input) (hs : TimerOk s) (heffect : Effect s input t t')
    (ht : TimerOk t) : TimerOk t' := by
  cases heffect with
  | online | txReady | updates | restartIIN | flag | noAck | defer | confirmIgnored => exact hs
  | layerDown | timeoutIdle | timeoutNull | timeoutGiveUp | broadcast
  | confirmLast | confirmUnsolicited | confirmNull => exact timerOk_idle rfl
  | repeatedReadDeferred | readDeferred | undefer | noUnsolicited => exact ht
  | transmits h =>
    cases h with
    | timeoutRetry | unsolicitedNull | unsolicited => exact fun _ => rfl
    | confirmNext | nonRead | read | fileRead => exact timerOk_sending _ _ _ _ _ _ _
    | repeatedNonRead request hrequest hfunction huns hrecognised =>
      intro hwait
      -- `hok` rules the repetition out in the one state where it cancels the timer
      have hstate : s.state ≠ .SolicitedConfirmWait := by
        intro hstate
        have hnew := hok hstate request hrequest hfunction huns
        exact absurd (hrecognised.symm.trans hnew) Bool.noConfusion
      rw [decide_eq_true hstate, hs hwait]
      rfl
    | repeatedRead =>
      intro hwait
      change (decide (t.state = .SolicitedConfirmWait) || t.confirmTimer) = true
      rw [ht hwait, Bool.or_true]
    | nonReadAside env request _ _ _ _ hstate st _ w =>
      intro hwait
      change (_ || s.confirmTimer) = true
      rw [hs hwait, Bool.or_true]

/-- **What the timer leads to**: back to the idle state, or to a repetition. -/
def Recovers (s : OContext) : Prop :=
  ∀ env, ∃ t, s.step (.confirmTimeout env) = t.checkForTaskStart env ∧
    (t.state = .Idle ∨ t = s.retried)

theorem recovers_of_timer (h : s.confirmTimer = true) : Recovers s := by
  intro env
  have hstep : s.step (.confirmTimeout env) =
      (take ((s.setTimer false).record [.confirmTimeout]).onConfirmTimeout).checkForTaskStart
        env := by
    unfold step
    dsimp only
    rw [h, if_pos rfl]
  refine ⟨_, hstep, ?_⟩
  have htimeout := timesOut_onConfirmTimeout s
  generalize take ((s.setTimer false).record [.confirmTimeout]).onConfirmTimeout = s' at htimeout
  cases htimeout with
  | idle | null | giveUp => exact .inl rfl
  | retry => exact .inr rfl

end OContext

open OContext

/-- **Every wait ends**: in every run in which no repeated request stops the timer, an outstation
    that waits for a confirm has its timer running, and the timer leads it out of the wait or to
    a repetition. -/
theorem waits_end (addresses : Addresses) (params : OutstationParams)
    (numUnsolRetries : Option Nat) (unsolClassMask : ClassField) (config : EventBufferConfig)
    (database : Database) (inputs : List Input)
    (hok : Along OContext.step KeepsTimer
      (.init addresses params numUnsolRetries unsolClassMask config database) inputs) :
    Always OContext.step
      (fun s => s.isOnline = true → s.state ≠ .Idle → s.confirmTimer = true ∧ s.Recovers)
      (.init addresses params numUnsolRetries unsolClassMask config database) inputs := by
  have h := always_of_effects (P := TimerOk)
    (fun s input t t' hinput hs _ heffect ht => timerOk_effect hinput hs heffect ht)
    (timerOk_idle rfl) (deferredOk_of_none rfl) hok
  refine h.mono fun s hs _ hwait => ?_
  exact ⟨hs hwait, recovers_of_timer (hs hwait)⟩

/-- The answer to a request has to be confirmed because of a broadcast, and the request is
    repeated. -/
def requestRepeated : List Input :=
  [.lowerLayerUp (Sample.env 0), Sample.broadcast 0xC0 2 [] 10, Sample.request 0xC1 23 [] 20,
    .txReady (Sample.env 30), Sample.request 0xC1 23 [] 40]

/-- **The outstation waits for a confirm without a timer.** -/
theorem wait_without_end :
    let s := run OContext.step (Sample.outstation 0 0 249 false) requestRepeated
    s.isOnline = true ∧ s.state = .SolicitedConfirmWait ∧ s.confirmTimer = false := by
  decide +kernel

/-- There the request is not repeated. -/
theorem waits_end_broadcast :
    let inputs := requestRepeated.take 4
    Along OContext.step KeepsTimer (Sample.outstation 0 0 249 false) inputs ∧
    (run OContext.step (Sample.outstation 0 0 249 false) inputs).state = .SolicitedConfirmWait ∧
    Always OContext.step
      (fun s => s.isOnline = true → s.state ≠ .Idle → s.confirmTimer = true ∧ s.Recovers)
      (Sample.outstation 0 0 249 false) inputs :=
  have hok : Along OContext.step KeepsTimer (Sample.outstation 0 0 249 false)
      (requestRepeated.take 4) := by
    decide +kernel
  ⟨hok, by decide +kernel, waits_end _ _ _ _ _ _ _ hok⟩

/-! ## The control field of a fragment -/

/-- The control field that a fragment begins with. -/
def fragmentControl (fragment : List UInt8) : Option AppControlField :=
  fragment.head?.map AppControlField.ofByte

/-- Is the application told that the confirm of a solicited or of an unsolicited response was
    processed? -/
def Action.processesConfirm (uns : Bool) : Action → Bool
  | .confirmProcessed u _ _ _ => u == uns
  | _ => false

namespace OContext

variable {s t t' : OContext} {input : Input}

variable {c : AppControlField} {iin : IINField} {u : OContext} {seq : Fin 16} {loaded : Loaded}
  {destination : UInt16} {kind : ResponseKind} {uns : Bool}

variable {w : HeaderWriter} {env : Env}

/-- A finished response begins with its control field. -/
theorem fragmentControl_finishResponse {header : APDUResponseHeader}
    (h : fragmentControl (TxBuffer.lastResponse
      ⟨(finishResponse w header).buffer, (finishResponse w header).position⟩) = some c) :
    c = header.control := by
  unfold fragmentControl TxBuffer.lastResponse finishResponse HeaderWriter.patch writeAt at h
  cases hposition : w.position with
  | zero =>
    rw [hposition] at h
    cases h
  | succ n =>
    rw [hposition] at h
    simp only [List.take_zero, List.nil_append, List.cons_append, List.take_succ_cons,
      List.head?_cons, Option.map_some, Option.some.injEq] at h
    rw [← h, AppControlField.ofByte_toByte]

theorem fragmentControl_sentTx
    (h : fragmentControl (u.sentTx env seq iin loaded).lastResponse = some c) :
    c = u.sentControl seq loaded.control := by
  have hcontrol := fragmentControl_finishResponse h
  rw [hcontrol]
  exact control_broadcastHeader (u.getResponseIIN env).1 _ seq rfl

theorem fragmentControl_unsolicitedTx
    (h : fragmentControl (u.unsolicitedTx iin w).lastResponse = some c) :
    c = u.unsolicitedControl := by
  have hcontrol := fragmentControl_finishResponse h
  rw [hcontrol, control_broadcastHeader u _ u.unsol.num rfl]
  rfl

theorem uns_loadResponse (u : OContext) (w : HeaderWriter) :
    (u.loadResponse w).2.control.UNS = false := by
  unfold loadResponse
  dsimp only
  split <;> rfl

theorem uns_loadRead (u : OContext) (objects : List UInt8) (w : HeaderWriter) :
    (u.loadRead objects w).2.2.control.UNS = false := by
  unfold loadRead
  dsimp only
  split
  · rfl
  · exact uns_loadResponse ..

/-- **The buffers hold responses of their channel**, under the number whose confirm counts. -/
def BufferOk (uns : Bool) (channel : Channel) : Prop :=
  ∀ c, fragmentControl channel.tx.lastResponse = some c → c.UNS = uns ∧ c.SEQ = channel.confirmNum

/-- Both buffers. -/
structure BuffersOk (s : OContext) : Prop where
  sol : BufferOk false s.sol
  unsol : BufferOk true s.unsol

theorem BuffersOk.answered (h : BuffersOk u) (huns : loaded.control.UNS = false) :
    BuffersOk (u.answered env kind destination seq iin loaded) where
  sol c hc := by
    rw [fragmentControl_sentTx hc]
    exact ⟨huns, rfl⟩
  unsol := h.unsol

theorem BuffersOk.sending (h : BuffersOk u) (huns : loaded.control.UNS = false) :
    BuffersOk (u.sending env kind destination seq iin loaded) :=
  have hanswered : BuffersOk (u.answered env kind destination seq iin loaded) := h.answered huns
  ⟨hanswered.sol, hanswered.unsol⟩

theorem BuffersOk.announced {events : List Nat} (h : BufferOk false u.sol) :
    BuffersOk (u.announced iin w events) where
  sol := h
  unsol c hc := by
    rw [fragmentControl_unsolicitedTx hc]
    exact ⟨rfl, rfl⟩

theorem buffersOk_effect (heffect : Effect s input t t') (hs : BuffersOk s) (ht : BuffersOk t) :
    BuffersOk t' := by
  cases heffect with
  | transmits h =>
    cases h with
    | confirmNext env request _ _ _ _ _ _ u hu st loaded hload =>
      have huns := uns_loadResponse u u.sol.tx.start
      rw [hload] at huns
      refine .sending ?_ huns
      rw [hu]
      exact ⟨hs.sol, hs.unsol⟩
    | nonRead => exact .sending ⟨hs.sol, hs.unsol⟩ rfl
    | nonReadAside => exact .answered ⟨hs.sol, hs.unsol⟩ rfl
    | read env request _ _ _ _ _ _ _ n st iin loaded hload =>
      have huns := uns_loadRead (t.handling request t.givenUp t.deferred t.fragmentCount t.station)
        request.objects t.sol.tx.start
      rw [hload] at huns
      exact .sending ⟨ht.sol, ht.unsol⟩ huns
    | fileRead => exact .sending ⟨ht.sol, ht.unsol⟩ rfl
    | unsolicitedNull =>
      exact .announced ht.sol
    | unsolicited =>
      exact .announced ht.sol
    | timeoutRetry | repeatedNonRead => exact ⟨hs.sol, hs.unsol⟩
    | repeatedRead => exact ⟨ht.sol, ht.unsol⟩
  | repeatedReadDeferred | readDeferred | undefer | noUnsolicited => exact ⟨ht.sol, ht.unsol⟩
  -- the other effects begin where the step began, and leave the buffers alone
  | _ => exact ⟨hs.sol, hs.unsol⟩

/-! ## Confirms that arrive next -/

/-- The log of a step only grows. -/
theorem log_effects {t₀ : OContext} (h : Effects s input t₀ t) :
    ∃ actions, t.station.log = t₀.station.log ++ actions := by
  induction h with
  | refl => exact ⟨[], (List.append_nil _).symm⟩
  | tail _ hlast ih =>
    obtain ⟨before, hbefore⟩ := ih
    rcases silent_or_transmits hlast with ⟨⟨actions, hlog, -⟩, -⟩ | ⟨_, _, htransmits⟩
    · exact ⟨before ++ actions, by rw [hlog, hbefore, List.append_assoc]⟩
    · obtain ⟨st, ⟨actions, hst, -⟩, hlog⟩ := (sends_of_transmits htransmits).log
      rw [hst, hbefore, List.append_assoc, List.append_assoc] at hlog
      exact ⟨_, hlog⟩

theorem log_checkForTaskStart (env : Env) (t : OContext) :
    ∃ actions, (t.checkForTaskStart env).station.log = t.station.log ++ actions := by
  have hknown : DeferredKnown t .setRestartIIN t := by
    intro r hr hfree
    refine ⟨mem_requests_of_deferred hr fun hbusy => ?_, .inr (ready_of_not_transmitting hfree).symm⟩
    exact absurd (hbusy.symm.trans hfree) Bool.noConfusion
  exact log_effects ((moves_checkForTaskStart env hknown).lift id fun _ _ => effect_of_move)

/-- **The confirm is accepted**: once the transmission is over, the next message is a confirm with
    this number, and the application is told that it was processed. -/
def AcceptsConfirm (s : OContext) (uns : Bool) (seq : Fin 16) : Prop :=
  ∀ (env env' later : Env) (message : Message) (request : ParsedRequest),
    s.isAccepted message.addresses = true → message.addresses.isBroadcast = false →
    parseRequest message = some request → request.header.function = .CONFIRM →
    request.header.control.UNS = uns → request.header.control.SEQ = seq →
    ((run OContext.step s [.txReady env, .receive message env' later]).station.log.drop
      (s.step (.txReady env)).station.log.length).any (Action.processesConfirm uns) = true

/-- The log of `t` goes on to that of `t'`, and on the way a confirm is processed. -/
def Processes (uns : Bool) (t t' : OContext) : Prop :=
  ∃ actions, t'.station.log = t.station.log ++ actions ∧
    actions.any (Action.processesConfirm uns) = true

theorem Processes.then {t'' : OContext} (h : Processes uns t t')
    (hlog : ∃ actions, t''.station.log = t'.station.log ++ actions) : Processes uns t t'' := by
  obtain ⟨actions, hactions, hany⟩ := h
  obtain ⟨later, hlater⟩ := hlog
  refine ⟨actions ++ later, ?_, ?_⟩
  · rw [hlater, hactions, List.append_assoc]
  · rw [List.any_append, hany, Bool.true_or]

theorem processes_solicitedConfirmed (t : OContext) (seq : Fin 16) :
    Processes false t (t.solicitedConfirmed seq) :=
  ⟨[_, _, _], by
    change t.station.log ++ [_] ++ [_] ++ [_] = _
    rw [List.append_assoc, List.append_assoc]
    rfl, rfl⟩

theorem processes_unsolicitedConfirmed (t : OContext) (seq : Fin 16) :
    Processes true t (t.unsolicitedConfirmed seq) :=
  ⟨[_, _], by
    change t.station.log ++ [_] ++ [_] = _
    rw [List.append_assoc]
    rfl, rfl⟩

theorem log_answered (env : Env) (u : OContext) (kind : ResponseKind) (destination : UInt16)
    (seq : Fin 16) (iin : IINField) (loaded : Loaded) :
    ∃ actions, (u.answered env kind destination seq iin loaded).station.log =
      u.station.log ++ actions := by
  exact ⟨_, List.append_assoc ..⟩

/-- **An awaited confirm is processed.** -/
theorem processes_of_awaits (env : Env) {request : ParsedRequest}
    (h : t.awaits request.header.control.UNS request.header.control.SEQ = true) :
    Processes request.header.control.UNS t (t.processConfirm env request) := by
  have hconfirms := confirms_processConfirm env request t
  generalize t.processConfirm env request = t' at hconfirms
  cases hconfirms with
  | ignored hignored => exact absurd (h.symm.trans hignored) Bool.noConfusion
  | done _ huns =>
    rw [huns]
    exact processes_solicitedConfirmed t request.header.control.SEQ
  -- the next fragment is loaded and logged behind the confirm
  | next _ huns =>
    rw [huns]
    have hload := log_loadResponse (t.solicitedConfirmed request.header.control.SEQ)
      (t.solicitedConfirmed request.header.control.SEQ).sol.tx.start
    rw [continueMultiFragResponse_eq]
    generalize (t.solicitedConfirmed request.header.control.SEQ).loadResponse
      (t.solicitedConfirmed request.header.control.SEQ).sol.tx.start = loaded at hload
    refine (processes_solicitedConfirmed t request.header.control.SEQ).then ?_
    rw [← hload]
    exact log_answered env loaded.1 _ _ _ _ _
  | unsolicited _ huns _ _ u hu =>
    rw [huns, hu]
    exact (processes_unsolicitedConfirmed t request.header.control.SEQ).then ⟨_, rfl⟩
  | null _ huns _ _ u hu =>
    rw [huns, hu]
    exact processes_unsolicitedConfirmed t request.header.control.SEQ

/-- Nothing is done at the end of a transmission while a confirm is awaited. -/
theorem step_txReady_of_waiting (env : Env) (honline : s.isOnline = true)
    (hbusy : s.isTransmitting = true) (hstate : s.state ≠ .Idle)
    (hdeferred : ∀ r, s.deferred = some r → r.header.function = .READ) :
    s.step (.txReady env) = s.ready := by
  have hstep : s.step (.txReady env) = s.ready.checkForTaskStart env := by
    unfold step
    rw [honline, hbusy]
    rfl
  rw [hstep]
  exact checkForTaskStart_of_waiting env hstate hdeferred

/-- **A wait for a confirm is a wait for the confirm that comes next.** -/
theorem acceptsConfirm_of_awaits (honline : s.isOnline = true) (hbusy : s.isTransmitting = true)
    (hdeferred : ∀ r, s.deferred = some r → r.header.function = .READ)
    (hawaits : s.awaits uns seq = true) : AcceptsConfirm s uns seq := by
  intro env env' later message request haccepted hbroadcast hparse hfunction huns hseq
  have hstate : s.state ≠ .Idle := by
    intro hidle
    unfold awaits at hawaits
    rw [hidle] at hawaits
    cases hawaits
  -- `OnTxReady` starts nothing, as only a READ can wait
  have hready := step_txReady_of_waiting env honline hbusy hstate hdeferred
  have hprocess : s.ready.processMessage env' message = s.ready.processConfirm env' request := by
    unfold processMessage
    rw [if_pos (show s.ready.isAccepted message.addresses = true from haccepted), hbroadcast,
      if_neg Bool.false_ne_true, hparse]
    dsimp only
    unfold processObjects
    rw [addresses_parseRequest hparse, hbroadcast, if_neg Bool.false_ne_true, hfunction]
    rfl
  have hreceive : s.ready.step (.receive message env' later) =
      (s.ready.processConfirm env' request).checkForTaskStart later := by
    simp [step, if_pos (show s.ready.isOnline = true from honline), hprocess]
  have hconfirmed : Processes uns s.ready (s.ready.processConfirm env' request) := by
    rw [← huns]
    refine processes_of_awaits env' ?_
    rw [huns, hseq]
    exact hawaits
  obtain ⟨actions, hactions, hany⟩ := hconfirmed.then (log_checkForTaskStart later _)
  change (((s.step (.txReady env)).step (.receive message env' later)).station.log.drop
    (s.step (.txReady env)).station.log.length).any _ = true
  rw [hready, hreceive, hactions, List.drop_left]
  exact hany

/-! ## The state in which a fragment leaves -/

/-- Has the last solicited response to be confirmed? -/
def lastAsksConfirm (s : OContext) : Bool :=
  (fragmentControl s.sol.tx.lastResponse).any (·.CON)

/-- **The condition** on the requests that a step handles.  While the confirm of an unsolicited
    response is awaited and a broadcast has to be confirmed, there is no new one but READs.  And
    if the last request is repeated whose response has to be confirmed, its confirm is still
    awaited; a READ may also wait for its turn, but not for one that comes without a confirm. -/
def AwaitsConfirms (s : OContext) (input : Input) : Prop :=
  ∀ request ∈ s.requests input, request.header.control.UNS = false →
    request.header.function ≠ .CONFIRM →
    (request.header.function ≠ .READ → s.recognises request = false →
      s.state = .UnsolicitedConfirmWait ∨ s.state = .NullUnsolicitedConfirmWait →
        s.lastBroadcastMessageReceived ≠ some .ShallConfirm) ∧
    (s.lastAsksConfirm = true → s.history.fullyEqualsLastRequest request = true →
      if request.header.function = .READ then s.state ≠ .Idle ∧ input.endsWait = false
      else s.state = .SolicitedConfirmWait)

instance (s : OContext) (input : Input) : Decidable (AwaitsConfirms s input) :=
  inferInstanceAs (Decidable (∀ request ∈ s.requests input,
    request.header.control.UNS = false → request.header.function ≠ .CONFIRM →
    (request.header.function ≠ .READ → s.recognises request = false →
      s.state = .UnsolicitedConfirmWait ∨ s.state = .NullUnsolicitedConfirmWait →
        s.lastBroadcastMessageReceived ≠ some .ShallConfirm) ∧
    (s.lastAsksConfirm = true → s.history.fullyEqualsLastRequest request = true →
      if request.header.function = .READ then s.state ≠ .Idle ∧ input.endsWait = false
      else s.state = .SolicitedConfirmWait)))

/-- Nothing has been sent yet: the last response is still the one from before the step, and while
    its request is remembered, only the inputs that end a wait lead to the idle state. -/
structure Unanswered (s : OContext) (input : Input) (t : OContext) : Prop where
  tx : t.isTransmitting = false → t.sol.tx = s.sol.tx
  history : t.isTransmitting = false → t.history.hasLast = true → t.history = s.history
  idle : t.isTransmitting = false → t.history.hasLast = true → t.state = .Idle →
    s.state = .Idle ∨ input.endsWait = true

theorem unanswered_self (s : OContext) (input : Input) : Unanswered s input s :=
  ⟨fun _ => rfl, fun _ _ => rfl, fun _ _ => .inl⟩

theorem Unanswered.of_ended (htx : t.sol.tx = s.sol.tx) (hhistory : t.history = s.history)
    (hends : input.endsWait = true) : Unanswered s input t :=
  ⟨fun _ => htx, fun _ _ => hhistory, fun _ _ _ => .inr hends⟩

theorem Unanswered.of_forgotten (htx : t.sol.tx = s.sol.tx) (h : t.history.hasLast = false) :
    Unanswered s input t :=
  ⟨fun _ => htx, fun _ hlast => absurd (hlast.symm.trans h) Bool.noConfusion,
    fun _ hlast => absurd (hlast.symm.trans h) Bool.noConfusion⟩

theorem unanswered_effect (heffect : Effect s input t t') (ht : Unanswered s input t) :
    Unanswered s input t' := by
  cases heffect with
  | online | txReady | updates | restartIIN | flag | noAck | defer | confirmIgnored =>
    exact ⟨fun _ => rfl, fun _ _ => rfl, fun _ _ => .inl⟩
  | layerDown | confirmLast | confirmUnsolicited | confirmNull => exact .of_forgotten rfl rfl
  | timeoutIdle _ hinput | timeoutNull _ hinput | timeoutGiveUp _ hinput =>
    exact .of_ended rfl rfl (by rw [hinput]; rfl)
  | broadcast message _ _ hinput hbroadcast =>
    refine .of_ended rfl rfl ?_
    rw [hinput]
    exact hbroadcast
  | repeatedReadDeferred | readDeferred | undefer | noUnsolicited =>
    exact ⟨ht.tx, ht.history, ht.idle⟩
  | transmits h =>
    have hbusy := (sends_of_transmits h).busy
    exact ⟨fun hfree => absurd (hbusy.symm.trans hfree) Bool.noConfusion,
      fun hfree => absurd (hbusy.symm.trans hfree) Bool.noConfusion,
      fun hfree => absurd (hbusy.symm.trans hfree) Bool.noConfusion⟩

/-- Does the outstation wait for the confirm of the solicited or of the unsolicited channel? -/
def waitsOn (t : OContext) (uns : Bool) : Prop :=
  if uns then t.awaitsUnsolicited else t.state = .SolicitedConfirmWait

theorem awaits_of_waitsOn (h : t.waitsOn uns)
    (hseq : seq = (t.channel uns).confirmNum) : t.awaits uns seq = true := by
  unfold waitsOn at h
  unfold awaits
  cases uns with
  | false =>
    rw [if_neg Bool.false_ne_true] at h
    rw [h, hseq]
    exact beq_self_eq_true _
  | true =>
    rw [if_pos rfl] at h
    rcases h with h | h
    · rw [h, hseq]
      exact beq_self_eq_true _
    · rw [h, hseq]
      exact beq_self_eq_true _

theorem waitsOn_sending (hc : fragmentControl (u.sentTx env seq iin loaded).lastResponse = some c)
    (hcon : c.CON = true) : (u.sending env kind destination seq iin loaded).waitsOn false := by
  rw [fragmentControl_sentTx hc] at hcon
  change stateAfter (u.sentControl seq loaded.control) = .SolicitedConfirmWait
  unfold stateAfter
  rw [hcon, if_pos rfl]

/-- **A fragment that has to be confirmed leaves in a state that waits for the confirm.** -/
theorem waitsOn_of_transmits (hok : AwaitsConfirms s input) (ht : Unanswered s input t)
    (h : Transmits s input uns destination t t')
    (hc : fragmentControl (t'.channel uns).tx.lastResponse = some c) (hcon : c.CON = true) :
    t'.waitsOn uns := by
  -- a fragment sent again asks for a confirm if the last response did
  have hasks : fragmentControl s.sol.tx.lastResponse = some c → s.lastAsksConfirm = true := by
    intro h
    unfold lastAsksConfirm
    rw [h]
    exact hcon
  cases h with
  | timeoutRetry _ _ _ hstate => exact hstate
  | confirmNext | nonRead | read | fileRead => exact waitsOn_sending hc hcon
  | repeatedNonRead request hrequest hfunction huns hrecognised hconfirm =>
    unfold recognises at hrecognised
    simp only [Bool.and_eq_true] at hrecognised
    have hstate := (hok request hrequest huns hconfirm).2 (hasks hc) hrecognised.2
    rw [if_neg hfunction] at hstate
    exact hstate
  | repeatedRead request hrequest hfunction huns hfree hrecognised hstate =>
    change fragmentControl t.sol.tx.lastResponse = some c at hc
    rw [ht.tx hfree] at hc
    unfold recognises at hrecognised
    simp only [Bool.and_eq_true] at hrecognised
    obtain ⟨⟨hlast, -⟩, hequal⟩ := hrecognised
    have hold : s.history.fullyEqualsLastRequest request = true := by
      rw [← ht.history hfree hlast]
      exact hequal
    have hconfirm : request.header.function ≠ .CONFIRM := by simp [hfunction]
    have hwaiting := (hok request hrequest huns hconfirm).2 (hasks hc) hold
    rw [if_pos hfunction] at hwaiting
    refine hstate.resolve_left fun hidle => ?_
    rcases ht.idle hfree hlast hidle with hidle | hends
    · exact hwaiting.1 hidle
    · exact absurd (hends.symm.trans hwaiting.2) Bool.noConfusion
  -- CON could only come from a broadcast that has to be confirmed
  | nonReadAside env request hrequest hfunction huns hnew hstate st _ w iin hconfirm =>
    have hbroadcast := (hok request hrequest huns hconfirm).1 hfunction hnew hstate
    rw [fragmentControl_sentTx hc] at hcon
    change (false || decide (s.lastBroadcastMessageReceived = some .ShallConfirm)) = true at hcon
    rw [Bool.false_or, decide_eq_true_iff] at hcon
    exact absurd hcon hbroadcast
  | unsolicitedNull =>
    unfold announcedNull
    dsimp only [announced, setState]
    split
    · exact .inr rfl
    · exact .inl rfl
  | unsolicited => exact .inl rfl

/-! ## The slot for the deferred request after a fragment -/

/-- Requests other than READs are put off only during a transmission. -/
theorem reads_effect (hfree : s.isTransmitting = false) (heffect : Effect s input t t')
    (hs : ∀ r, s.deferred = some r → r.header.function = .READ)
    (ht : ∀ r, t.deferred = some r → r.header.function = .READ) :
    ∀ r, t'.deferred = some r → r.header.function = .READ := by
  cases heffect with
  | layerDown | undefer => exact fun r hr => by cases hr
  | defer _ _ hbusy => exact absurd (hbusy.symm.trans hfree) Bool.noConfusion
  | repeatedReadDeferred request _ hfunction | readDeferred request _ hfunction =>
    intro r hr
    rw [← Option.some.inj hr]
    exact hfunction
  | noUnsolicited => exact ht
  | transmits h =>
    cases h with
    | confirmNext _ _ _ _ _ _ _ _ u hu =>
      rw [hu]
      exact hs
    | repeatedRead | read | fileRead | unsolicitedNull | unsolicited => exact ht
    | nonReadAside => exact fun r hr => by cases hr
    | _ => exact hs
  | _ => exact hs

/-- After a fragment only a READ waits for its turn. -/
theorem deferred_of_transmits {v : OContext} (hs : Sound s) (hbefore : Effects s input s u)
    (h : Transmits s input uns destination u v)
    (hstep : s.step input = v ∨ s.step input = v.setDeferred none) :
    ∀ r, (s.step input).deferred = some r → r.header.function = .READ := by
  -- by what the step began with: free, completing, or repeating
  rcases start_of_transmits hbefore h with hfree | hcompletes | ⟨-, rfl, hretries⟩
  · have hreads : ∀ r, s.deferred = some r → r.header.function = .READ :=
      fun r hr => (hs.deferred r hr).resolve_right (by rw [hfree]; exact Bool.false_ne_true)
    exact step_of_effects hs.deferred
      (fun t t' heffect ht => reads_effect hfree heffect hreads ht) hreads
  · intro r hr
    cases input with
    | txReady env =>
      unfold step at hr
      dsimp only at hr
      split at hr
      · rename_i hready
        have hcan : (s.setTransmitting false).canTransmit = true :=
          Bool.and_eq_true_iff.mpr ⟨(Bool.and_eq_true_iff.mp hready).1, rfl⟩
        rcases (deferred_checkForTaskStart env hr).2 with hbusy | ⟨hread, -⟩
        · exact absurd (hcan.symm.trans hbusy) Bool.noConfusion
        · exact hread
      · rename_i hidle
        refine (hs.deferred r hr).resolve_right fun hbusy => hidle ?_
        rw [hbusy, hs.online hbusy]
        rfl
    | lowerLayerDown =>
      unfold step at hr
      dsimp only at hr
      split at hr
      · cases hr
      · rename_i honline
        rw [hs.offline.deferred (Bool.eq_false_iff.mpr honline)] at hr
        cases hr
    | _ => cases hcompletes
  · intro r hr
    cases input with
    | confirmTimeout env =>
      have hnone : (s.step (.confirmTimeout env)).deferred = none := by
        rcases hstep with hstep | hstep
        · rw [hstep]
          exact hretries.2.2.2.2
        · rw [hstep]
          rfl
      rw [hnone] at hr
      cases hr
    | _ => exact hretries.elim

/-- **What a fragment with CON=1 promises**: the outstation waits for a confirm, and accepts the
    one that the fragment asks for. -/
def ConfirmsAwaited (s : OContext) (input : Input) : Prop :=
  ∀ p ∈ s.sent input, ∀ c, fragmentControl p.2 = some c → c.CON = true →
    (s.step input).state ≠ .Idle ∧ (s.step input).AcceptsConfirm c.UNS c.SEQ

theorem confirmsAwaited_step (hs : Sound s) (hbuffers : BuffersOk s)
    (hok : AwaitsConfirms s input) : ConfirmsAwaited s input := by
  intro p hp c hc hcon
  have hsent := sends_step hs.deferred input
  generalize hstep : s.step input = s' at hsent
  cases hsent with
  | nothing hsilent =>
    rw [← hstep] at hsilent
    rw [sent_of_silent hsilent] at hp
    cases hp
  | fragment u v uns destination hbefore hsilent htransmits hv =>
    have hsends := sends_of_transmits htransmits
    obtain ⟨deferred, rfl⟩ := eq_setDeferred hv
    rw [sent_of_sends hsilent hsends (congrArg (·.station.log) hstep), List.mem_singleton] at hp
    subst hp
    have hbuffersu : BuffersOk u ∧ Unanswered s input u := by
      clear hsilent htransmits hsends
      induction hbefore with
      | refl => exact ⟨hbuffers, unanswered_self s input⟩
      | tail _ hlast ih =>
        exact ⟨buffersOk_effect hlast hbuffers ih.1, unanswered_effect hlast ih.2⟩
    have hbuffersv := buffersOk_effect (.transmits htransmits) hbuffers hbuffersu.1
    -- the buffer's control field has the number that is awaited
    have hnumber : c.UNS = uns ∧ c.SEQ = (v.channel uns).confirmNum := by
      cases uns with
      | false => exact hbuffersv.sol c hc
      | true => exact hbuffersv.unsol c hc
    have hwaits := waitsOn_of_transmits hok hbuffersu.2 htransmits hc hcon
    have hawaits : v.awaits c.UNS c.SEQ = true := by
      rw [hnumber.1]
      exact awaits_of_waitsOn hwaits hnumber.2
    have hsound : Sound (v.setDeferred deferred) := hstep ▸ hs.step input
    have hdeferred : ∀ r, deferred = some r → r.header.function = .READ := by
      rw [← hstep] at hv
      have hreads := deferred_of_transmits hs hbefore htransmits hv
      rwa [hstep] at hreads
    refine ⟨fun (hidle : v.state = .Idle) => ?_,
      acceptsConfirm_of_awaits (hsound.online hsends.busy) hsends.busy hdeferred hawaits⟩
    unfold awaits at hawaits
    rw [hidle] at hawaits
    cases hawaits

end OContext

theorem bufferOk_ofSize (uns : Bool) (num confirmNum : Fin 16) (size : Nat) :
    BufferOk uns ⟨num, confirmNum, .ofSize size⟩ := by
  intro c hc
  cases hc

/-- **Every confirm that is asked for is awaited**, in every run whose steps meet the condition. -/
theorem confirms_awaited (addresses : Addresses) (params : OutstationParams)
    (numUnsolRetries : Option Nat) (unsolClassMask : ClassField) (config : EventBufferConfig)
    (database : Database) (inputs : List Input)
    (hok : Along OContext.step AwaitsConfirms
      (.init addresses params numUnsolRetries unsolClassMask config database) inputs) :
    Along OContext.step ConfirmsAwaited
      (.init addresses params numUnsolRetries unsolClassMask config database) inputs := by
  refine along_of_step (P := fun s => Sound s ∧ BuffersOk s) ?_ ?_ ⟨sound_init .., ?_⟩ hok
  · rintro s input ⟨hs, hbuffers⟩ -
    refine ⟨hs.step input, ?_⟩
    exact step_of_effects hs.deferred
      (fun t t' heffect ht => buffersOk_effect heffect hbuffers ht) hbuffers
  · rintro s input ⟨hs, hbuffers⟩ hinput
    exact confirmsAwaited_step hs hbuffers hinput
  · exact ⟨bufferOk_ofSize _ _ _ _, bufferOk_ofSize _ _ _ _⟩

/-- The answer to a request has to be confirmed because of a broadcast.  Its confirm does not come
    in time, and then the request is repeated. -/
def repeatedLate : List Input :=
  [.lowerLayerUp (Sample.env 0), Sample.broadcast 0xC0 2 [] 10, Sample.request 0xC1 23 [] 20,
    .txReady (Sample.env 30), .confirmTimeout (Sample.env 40)]

/-- An unsolicited response is sent while a broadcast has to be confirmed. -/
def announcedAfterBroadcast : List Input :=
  [.lowerLayerUp (Sample.env 0), .txReady (Sample.env 10), Sample.request 0xD0 0 [] 20,
    Sample.broadcast 0xC0 2 [] 30, Sample.change 0 true 40, .txReady (Sample.env 50)]

/-- **Two confirms that are asked for in vain**: that of the repeated answer, and that of the
    answer to a request which comes while the unsolicited response is awaited. -/
theorem confirm_not_awaited :
    ¬ ConfirmsAwaited (run OContext.step (Sample.outstation 0 0 249 false) repeatedLate)
      (Sample.request 0xC1 23 [] 50) ∧
    ¬ ConfirmsAwaited (run OContext.step (Sample.outstation 1 1 249 true) announcedAfterBroadcast)
      (Sample.request 0xC1 23 [] 60) := by
  -- in both cases the answer has CON=1 and SEQ=1
  have hcontrol : fragmentControl [225, 129, 129, 0, 52, 2, 7, 1, 0, 0] =
      some ⟨true, true, true, false, 1⟩ := by
    decide
  constructor
  · intro h
    obtain ⟨hstate, -⟩ := h (1, [225, 129, 129, 0, 52, 2, 7, 1, 0, 0]) (by decide +kernel) _
      hcontrol rfl
    -- nobody waits for its confirm
    apply hstate
    decide +kernel
  · intro h
    obtain ⟨-, haccepts⟩ := h (1, [225, 129, 129, 0, 52, 2, 7, 1, 0, 0]) (by decide +kernel) _
      hcontrol rfl
    -- its confirm is not the one that is awaited
    have hprocessed := haccepts (Sample.env 70) (Sample.env 80) (Sample.env 80)
      ⟨⟨1, 10⟩, [0xC1, 0]⟩ ⟨⟨1, 10⟩, ⟨.ofByte 0xC1, .CONFIRM⟩, []⟩ (by decide +kernel) (by decide)
      (by decide) rfl (by decide) (by decide)
    revert hprocessed
    decide +kernel

/-- There the confirm comes in time, and the request that is repeated is a new one. -/
theorem confirms_awaited_broadcast :
    let inputs := repeatedLate.take 4 ++ [Sample.request 0xC1 0 [] 40, Sample.request 0xC1 23 [] 50]
    Along OContext.step AwaitsConfirms (Sample.outstation 0 0 249 false) inputs ∧
      Along OContext.step ConfirmsAwaited (Sample.outstation 0 0 249 false) inputs :=
  have hok : Along OContext.step AwaitsConfirms (Sample.outstation 0 0 249 false)
      (repeatedLate.take 4 ++ [Sample.request 0xC1 0 [] 40, Sample.request 0xC1 23 [] 50]) := by
    decide +kernel
  ⟨hok, confirms_awaited _ _ _ _ _ _ _ hok⟩

end OpenDnp3.Outstation
