import OpenDnp3.Outstation.Control
import OpenDnp3.Outstation.Deferral

/-!
# Repeated requests

A master that gets no answer sends its request once more.  The outstation must not carry it out
a second time: it compares the request with the last one that it processed, and if they are the
same it repeats its last response.  What it compares and what it repeats are the history of
requests, the number of the solicited channel and the buffer of that channel.  They stay as they
are until another solicited request or an accepted confirm comes, or the lower layer goes down.
-/

namespace OpenDnp3.Outstation

open App Lib
open Link (Addresses)

/-! ## Requests and repetitions -/

/-- The requests consist of the same bytes. -/
def ParsedRequest.Repeats (q r : ParsedRequest) : Prop :=
  q.header = r.header ∧ q.objects = r.objects

instance (q r : ParsedRequest) : Decidable (q.Repeats r) :=
  inferInstanceAs (Decidable (_ ∧ _))

/-- A solicited request that wants an answer and is no READ. -/
structure ParsedRequest.IsSolicitedNonRead (r : ParsedRequest) : Prop where
  read : r.header.function ≠ .READ
  confirm : r.header.function ≠ .CONFIRM
  noAck : OContext.isNoAckFuncCode r.header.function = false
  uns : r.header.control.UNS = false

theorem ParsedRequest.Repeats.isSolicitedNonRead {q r : ParsedRequest} (h : q.Repeats r)
    (hr : r.IsSolicitedNonRead) : q.IsSolicitedNonRead := by
  constructor
  · rw [h.1]
    exact hr.read
  · rw [h.1]
    exact hr.confirm
  · rw [h.1]
    exact hr.noAck
  · rw [h.1]
    exact hr.uns

def Input.isLowerLayerDown : Input → Bool
  | .lowerLayerDown => true
  | _ => false

open Station

namespace OContext

variable {s t t' : OContext} {input : Input} {q r : ParsedRequest} {fragment : List UInt8}

/-- **The request that a step takes up**: one that is received while nothing is being transmitted,
    or the one in the slot when a transmission ends. -/
def TakesUp (s : OContext) (input : Input) (r : ParsedRequest) : Prop :=
  (s.isTransmitting = false ∧ s.received input = some r) ∨
    (s.isTransmitting = true ∧ s.deferred = some r ∧ input.isTxReady = true)

instance (s : OContext) (input : Input) (r : ParsedRequest) : Decidable (s.TakesUp input r) :=
  inferInstanceAs (Decidable (_ ∨ _))

/-- **What may happen between a request and its repetition**: the lower layer does not go down, no
    confirm is accepted, and no other request for an answer is received. -/
def Uninterrupted (r : ParsedRequest) (s : OContext) (input : Input) : Prop :=
  input.isLowerLayerDown = false ∧
    (∀ q ∈ s.requests input, s.TakesUp input q → q.header.function = .CONFIRM →
      s.awaits q.header.control.UNS q.header.control.SEQ = false) ∧
    (∀ q ∈ s.received input, q.header.function = .CONFIRM ∨
      isNoAckFuncCode q.header.function = true ∨ q.header.control.UNS = true ∨ q.Repeats r)

instance (r : ParsedRequest) (s : OContext) (input : Input) :
    Decidable (s.Uninterrupted r input) :=
  inferInstanceAs (Decidable (_ ∧ _ ∧ _))

/-- **The condition**: no request that is still to be answered waits in the slot, unless it is the
    same one. -/
def NoOtherWaits (r : ParsedRequest) (s : OContext) : Prop :=
  ∀ q ∈ s.deferred, q.header.function = .CONFIRM ∨ q.header.control.UNS = true ∨ q.Repeats r

instance (r : ParsedRequest) (s : OContext) : Decidable (s.NoOtherWaits r) :=
  inferInstanceAs (Decidable (∀ q ∈ s.deferred, _))

/-- **The outstation remembers the request and the response to it.** -/
structure Remembers (r : ParsedRequest) (fragment : List UInt8) (t : OContext) : Prop where
  history : t.history = .ofRequest r
  num : t.sol.num = r.header.control.SEQ
  response : t.sol.tx.lastResponse = fragment

theorem Remembers.of_eq (h : Remembers r fragment t) (hhistory : t'.history = t.history)
    (hsol : t'.sol = t.sol) : Remembers r fragment t' := by
  constructor
  · rw [hhistory, h.history]
  · rw [hsol, h.num]
  · rw [hsol, h.response]

theorem Remembers.recognises (h : Remembers r fragment t) (hsame : q.Repeats r) :
    t.recognises q = true := by
  unfold OContext.recognises RequestHistory.fullyEqualsLastRequest
  rw [h.history, h.num, hsame.1, hsame.2]
  simp [RequestHistory.ofRequest]

/-! ## A request that is taken up -/

variable (env : Env)

/-- The last response is sent once more, and nothing else is done. -/
theorem processRequest_recognised (hq : q.IsSolicitedNonRead)
    (hrecognised : t.recognises q = true) :
    ∃ timer, t.processRequest env q = t.retransmitted timer q.addresses.source := by
  have hrequest : t.processRequest env q = take (t.onRepeatNonReadRequest q) := by
    unfold processRequest onReceiveSolRequest
    rw [if_neg (by simp [hq.uns]), if_pos hrecognised, if_neg hq.read]
  rw [hrequest]
  have h := repeats_onRepeatNonReadRequest t hq.read
  generalize take (t.onRepeatNonReadRequest q) = t' at h
  cases h with
  | retransmit timer => exact ⟨timer, rfl⟩
  | deferred _ hread => exact absurd hread hq.read

theorem processRequest_new (hq : q.IsSolicitedNonRead) (hnew : t.recognises q = false) :
    t.processRequest env q = take ((t.numbered q).onNewNonReadRequest env q) := by
  unfold processRequest onReceiveSolRequest
  rw [if_neg (by simp [hq.uns]), if_neg (by simp [hnew])]
  rw [if_neg hq.read]
  rfl

/-- A request that is taken up is sent an answer. -/
theorem transmits_takesUp (hrequest : q ∈ s.requests input) (hq : q.IsSolicitedNonRead) :
    Transmits s input false q.addresses.source s.ready (s.ready.processRequest env q) := by
  cases hrecognised : s.recognises q with
  | true =>
    have hready : s.ready.processRequest env q = take (s.ready.onRepeatNonReadRequest q) := by
      unfold processRequest onReceiveSolRequest
      rw [if_neg (by simp [hq.uns]), if_pos (show s.ready.recognises q = true from hrecognised),
        if_neg hq.read]
    rw [hready]
    exact transmits_repeatedNonRead hrequest hq.read hq.uns hrecognised hq.confirm
  | false =>
    rw [processRequest_new env hq (show s.ready.recognises q = false from hrecognised)]
    exact transmits_nonRead hrequest hq.read hq.uns hrecognised hq.confirm
      (operates_onNewNonReadRequest env q s.ready)

theorem mem_requests (htakes : s.TakesUp input q)
    (hack : isNoAckFuncCode q.header.function = false) : q ∈ s.requests input := by
  rcases htakes with ⟨hfree, hreceived⟩ | ⟨-, hdeferred, hready⟩
  · exact mem_requests_of_received hreceived hack hfree
  · exact mem_requests_of_deferred hdeferred fun _ => hready

/-- **A step that takes up a request** sends the answer to it and starts nothing else. -/
theorem step_takesUp (hs : Sound s) (htakes : s.TakesUp input q)
    (hq : q.IsSolicitedNonRead) :
    ∃ env, s.step input = s.ready.processRequest env q ∨
      s.step input = (s.ready.processRequest env q).setDeferred none := by
  have hrequest := mem_requests htakes hq.noAck
  -- after the answer the outstation transmits, so that nothing else starts
  have hbusy : ∀ env, (s.ready.processRequest env q).canTransmit = false := fun env =>
    canTransmit_of_busy (sends_of_transmits (transmits_takesUp env hrequest hq)).busy
  rcases htakes with ⟨hfree, hreceived⟩ | ⟨hwas, hdeferred, hinput⟩
  · -- the request has just been received
    cases input with
    | receive message env later =>
      unfold received at hreceived
      dsimp only at hreceived
      split at hreceived
      · rename_i haccepted
        simp only [Bool.and_eq_true, Bool.not_eq_true'] at haccepted
        have hprocess : s.processMessage env message = s.processRequest env q := by
          unfold processMessage
          rw [if_pos haccepted.1.2, haccepted.2, if_neg Bool.false_ne_true, hreceived]
          dsimp only
          unfold processObjects
          rw [addresses_parseRequest hreceived, haccepted.2, if_neg Bool.false_ne_true, hq.noAck,
            if_neg Bool.false_ne_true, hfree, if_neg Bool.false_ne_true, if_neg hq.confirm]
        have hstep : s.step (.receive message env later) =
            (s.ready.processRequest env q).checkForTaskStart later := by
          unfold step
          dsimp only
          rw [haccepted.1.1, if_pos rfl, hprocess, ready_of_not_transmitting hfree]
        rw [checkForTaskStart_of_busy later (hbusy env)] at hstep
        exact ⟨env, .inl hstep⟩
      · cases hreceived
    | _ => cases hreceived
  · -- a transmission is over, and the request was waiting for that
    cases input with
    | txReady env =>
      have hdeferred' : s.ready.checkForDeferredRequest env =
          (s.ready.processRequest env q).setDeferred none := by
        have hprocess : s.ready.processDeferredRequest env q =
            (s.ready.processRequest env q, true) := by
          simp [processDeferredRequest, if_neg hq.confirm, if_neg hq.read]
        have hcan : s.ready.canTransmit = true := by
          unfold canTransmit
          rw [show s.ready.isOnline = true from hs.online hwas]
          rfl
        unfold checkForDeferredRequest
        rw [show s.ready.deferred = some q from hdeferred]
        dsimp only
        rw [if_pos hcan, hprocess]
        rfl
      have hstep : s.step (.txReady env) =
          ((s.ready.processRequest env q).setDeferred none).checkForTaskStart env := by
        have hready : s.step (.txReady env) = s.ready.checkForTaskStart env := by
          unfold step
          rw [hs.online hwas, hwas]
          rfl
        rw [hready]
        unfold checkForTaskStart
        rw [hdeferred', checkForDeferredRequest_none env rfl]
      have hstill : ((s.ready.processRequest env q).setDeferred none).canTransmit = false :=
        hbusy env
      rw [checkForTaskStart_of_busy env hstill] at hstep
      exact ⟨env, .inr hstep⟩
    | _ => cases hinput

/-- **Whoever processes a request remembers it**, with the response that is sent. -/
theorem remembers_of_takesUp (hs : Sound s) (htakes : s.TakesUp input r)
    (hr : r.IsSolicitedNonRead) :
    ∃ fragment, s.sent input = [(r.addresses.source, fragment)] ∧
      Remembers r fragment (s.step input) := by
  obtain ⟨env, hstep⟩ := step_takesUp hs htakes hr
  have htransmits := transmits_takesUp env (mem_requests htakes hr.noAck) hr
  obtain ⟨deferred, hstep⟩ := eq_setDeferred hstep
  have hsilent : Silent s.station s.ready.station := .refl _
  refine ⟨_, sent_of_sends hsilent (sends_of_transmits htransmits)
    (congrArg (·.station.log) hstep), ?_⟩
  have hremembers : Remembers r (s.ready.processRequest env r).sol.tx.lastResponse
      (s.ready.processRequest env r) := by
    cases hrecognised : s.ready.recognises r with
    | true =>
      -- the request was a repetition itself
      obtain ⟨timer, heq⟩ := processRequest_recognised env hr hrecognised
      rw [heq]
      have hnum := hrecognised
      unfold recognises at hnum
      simp only [Bool.and_eq_true, beq_iff_eq] at hnum
      exact ⟨history_of_recognises hrecognised, hnum.1.2, rfl⟩
    | false =>
      have hoperates := operates_onNewNonReadRequest env r s.ready
      rw [← processRequest_new env hr hrecognised] at hoperates
      generalize s.ready.processRequest env r = t' at hoperates
      cases hoperates with
      | idle =>
        obtain ⟨n, station, kind, iin, loaded, hanswer⟩ :=
          answers_respondToNonReadRequest env (s.ready.numbered r) r
        rw [hanswer]
        exact ⟨rfl, rfl, rfl⟩
      | waiting =>
        obtain ⟨n, station, kind, iin, loaded, hanswer⟩ :=
          answers_respondToNonReadRequest env ((s.ready.numbered r).setTimer false) r
        rw [hanswer]
        exact ⟨rfl, rfl, rfl⟩
      | aside =>
        obtain ⟨n, station, kind, iin, loaded, hanswer⟩ :=
          answers_respondToNonReadRequest env ((s.ready.numbered r).setDeferred none) r
        rw [hanswer]
        exact ⟨rfl, rfl, rfl⟩
  rw [hstep]
  exact hremembers.of_eq rfl rfl

/-- **A repeated request is answered from the buffer**, and nothing else is done. -/
theorem step_repetition (hs : Sound s) (h : Remembers r fragment s) (hr : r.IsSolicitedNonRead)
    (htakes : s.TakesUp input q) (hsame : q.Repeats r) :
    (s.step input).station = s.station.record [.transmit q.addresses.source fragment] := by
  have hq := hsame.isSolicitedNonRead hr
  obtain ⟨env, hstep⟩ := step_takesUp hs htakes hq
  have hrecognised : s.ready.recognises q = true := h.recognises hsame
  obtain ⟨timer, heq⟩ := processRequest_recognised env hq hrecognised
  rw [heq] at hstep
  obtain ⟨deferred, hstep⟩ := eq_setDeferred hstep
  rw [hstep, ← h.response]
  rfl

/-! ## Between the request and its repetition -/

theorem noAck_confirm (hconfirm : q.header.function = .CONFIRM) :
    isNoAckFuncCode q.header.function = false := by
  rw [hconfirm]
  rfl

/-- A confirm that is not awaited is only noted. -/
theorem processConfirm_ignored (h : t.awaits q.header.control.UNS q.header.control.SEQ = false) :
    t.processConfirm env q =
      t.record [.confirm q.header.control.UNS q.header.control.SEQ] := by
  have hconfirms := confirms_processConfirm env q t
  generalize t.processConfirm env q = t' at hconfirms
  unfold awaits at h
  cases hconfirms with
  | ignored => rfl
  | done hstate huns hseq | next hstate huns hseq => simp [hstate, huns, hseq] at h
  | unsolicited hstate huns hseq | null hstate huns hseq =>
    rcases hstate with hstate | hstate <;> simp [hstate, huns, hseq] at h

/-- **The same request from the slot**, or one that is ignored, changes nothing of what is
    remembered. -/
theorem remembers_processRequest (h : Remembers r fragment t) (hr : r.IsSolicitedNonRead)
    (hq : q.header.control.UNS = true ∨ q.Repeats r) :
    Remembers r fragment (t.processRequest env q) := by
  rcases hq with huns | hsame
  · unfold processRequest
    rw [huns, if_pos rfl]
    exact h
  · obtain ⟨timer, heq⟩ :=
      processRequest_recognised env (hsame.isSolicitedNonRead hr) (h.recognises hsame)
    rw [heq]
    exact h.of_eq rfl rfl

/-- A message that is allowed in between. -/
theorem remembers_processMessage {message : Message} {env later : Env}
    (hr : r.IsSolicitedNonRead) (h : Remembers r fragment s)
    (hquiet : s.Uninterrupted r (.receive message env later)) (honline : s.isOnline = true) :
    Remembers r fragment (s.processMessage env message) ∧
      ((s.processMessage env message).canTransmit = true →
        (s.processMessage env message).deferred = s.deferred ∧ s.isTransmitting = false) := by
  have hsame : ∀ {t : OContext}, t.history = s.history → t.sol = s.sol →
      t.deferred = s.deferred → t.isTransmitting = s.isTransmitting →
      Remembers r fragment t ∧ (t.canTransmit = true →
        t.deferred = s.deferred ∧ s.isTransmitting = false) := by
    intro t hhistory hsol hdeferred htransmitting
    exact ⟨h.of_eq hhistory hsol, fun hcan =>
      ⟨hdeferred, htransmitting.symm.trans (free_of_canTransmit hcan)⟩⟩
  obtain ⟨-, hconfirms, hallowed⟩ := hquiet
  obtain ⟨b, hb, -⟩ := s.updateLastBroadcastMessageReceived_eq message.addresses.destination
  have hreceives := receives_processMessage honline message env later
  generalize s.processMessage env message = t at hreceives
  cases hreceives with
  | dropped | noAck => exact hsame rfl rfl rfl rfl
  | flag | broadcast =>
    rw [hb]
    exact hsame rfl rfl rfl rfl
  | defer q _ hbusy =>
    -- the request has to wait
    exact ⟨h.of_eq rfl rfl,
      fun hcan => absurd (hbusy.symm.trans (free_of_canTransmit hcan)) Bool.noConfusion⟩
  | confirm q hreceived hfree hconfirm =>
    have htakes : s.TakesUp (.receive message env later) q := .inl ⟨hfree, hreceived⟩
    rw [processConfirm_ignored env
      (hconfirms q (mem_requests htakes (noAck_confirm hconfirm)) htakes hconfirm)]
    exact hsame rfl rfl rfl rfl
  | request q hreceived hack _ hconfirm =>
    rcases hallowed q hreceived with hkind | hkind | hkind | hkind
    · exact absurd hkind hconfirm
    · exact absurd (hkind.symm.trans hack) Bool.noConfusion
    · unfold processRequest
      rw [hkind, if_pos rfl]
      exact hsame rfl rfl rfl rfl
    · obtain ⟨timer, heq⟩ :=
        processRequest_recognised env (hkind.isSolicitedNonRead hr) (h.recognises hkind)
      rw [heq]
      exact ⟨h.of_eq rfl rfl, fun hcan => Bool.noConfusion (free_of_canTransmit hcan)⟩

/-- The reaction to an input that is allowed in between. -/
theorem remembers_reacts {env : Env} (hr : r.IsSolicitedNonRead)
    (h : Remembers r fragment s) (hquiet : s.Uninterrupted r input)
    (hreacts : Reacts s input env t) :
    Remembers r fragment t ∧ (t.canTransmit = true → t.deferred = s.deferred ∧
      (s.isTransmitting = false ∨ (t = s.ready ∧ s.isTransmitting = true ∧
        input.isTxReady = true))) := by
  have hstill : t.isTransmitting = s.isTransmitting → t.canTransmit = true →
      s.isTransmitting = false :=
    fun htransmitting hcan => htransmitting.symm.trans (free_of_canTransmit hcan)
  cases hreacts with
  | online | updates => exact ⟨h.of_eq rfl rfl, fun hcan => ⟨rfl, .inl (hstill rfl hcan)⟩⟩
  | ready env honline hbusy => exact ⟨h.of_eq rfl rfl, fun _ => ⟨rfl, .inr ⟨rfl, hbusy, rfl⟩⟩⟩
  | message message env later honline =>
    obtain ⟨hremembers, hslot⟩ := remembers_processMessage hr h hquiet honline
    exact ⟨hremembers, fun hcan => ⟨(hslot hcan).1, .inl (hslot hcan).2⟩⟩
  -- a timeout ends a wait or repeats an unsolicited response; neither is a request
  | timeout env htimer =>
    have htimeout := timesOut_onConfirmTimeout s
    have hdeferred := deferred_timeout htimeout
    have hbusy := isTransmitting_timeout htimeout
    have hremembers : Remembers r fragment
        (take ((s.setTimer false).record [.confirmTimeout]).onConfirmTimeout) := by
      generalize take ((s.setTimer false).record [.confirmTimeout]).onConfirmTimeout = s'
        at htimeout
      cases htimeout with
      | _ => exact h.of_eq rfl rfl
    refine ⟨hremembers, fun hcan => ⟨hdeferred, .inl ?_⟩⟩
    rw [Bool.eq_false_iff]
    exact fun hwas => absurd ((hbusy hwas).symm.trans (free_of_canTransmit hcan)) Bool.noConfusion

/-- Unsolicited responses have a channel of their own. -/
theorem remembers_unsolicited (h : Remembers r fragment t) :
    Remembers r fragment ((t.checkForUnsolicitedNull env).checkForUnsolicited env) := by
  have hnull : Remembers r fragment (t.checkForUnsolicitedNull env) := by
    unfold checkForUnsolicitedNull
    split
    · dsimp only
      rw [beginUnsolTx_eq]
      exact h.of_eq rfl rfl
    · exact h
  generalize t.checkForUnsolicitedNull env = u at hnull
  unfold checkForUnsolicited
  split
  · dsimp only
    split
    · rw [beginUnsolTx_eq]
      exact hnull.of_eq rfl rfl
    · exact hnull.of_eq rfl rfl
  · exact hnull

/-- The request in the slot is taken out of it. -/
theorem checkForTaskStart_processed {env : Env} {u : OContext} (hq : t.deferred = some q)
    (hcan : t.canTransmit = true) (hprocess : t.processDeferredRequest env q = (u, true)) :
    t.checkForTaskStart env =
      ((u.setDeferred none).checkForUnsolicitedNull env).checkForUnsolicited env := by
  have hslot : t.checkForDeferredRequest env = u.setDeferred none := by
    unfold checkForDeferredRequest
    rw [hq]
    dsimp only
    rw [if_pos hcan, hprocess]
    rfl
  unfold checkForTaskStart
  rw [hslot]

/-- The tasks that are checked do not interrupt, unless another request is in the slot. -/
theorem remembers_checkForTaskStart (hr : r.IsSolicitedNonRead) (h : Remembers r fragment t)
    (hconfirms : ∀ q, t.deferred = some q → t.canTransmit = true →
      q.header.function = .CONFIRM → t.awaits q.header.control.UNS q.header.control.SEQ = false)
    (hothers : t.NoOtherWaits r) : Remembers r fragment (t.checkForTaskStart env) := by
  cases hcan : t.canTransmit with
  | false =>
    rw [checkForTaskStart_of_busy env hcan]
    exact h
  | true =>
    cases hq : t.deferred with
    | none =>
      unfold checkForTaskStart
      rw [checkForDeferredRequest_none env hq]
      exact remembers_unsolicited env h
    | some q =>
      -- a request that is taken up, other than a confirm
      have hrequest : q.header.function ≠ .CONFIRM →
          t.processDeferredRequest env q = (t.processRequest env q, true) →
          Remembers r fragment (t.checkForTaskStart env) := by
        intro hconfirm hprocess
        have hkept := remembers_processRequest env h hr ((hothers q hq).resolve_left hconfirm)
        rw [checkForTaskStart_processed hq hcan hprocess]
        exact remembers_unsolicited env (hkept.of_eq rfl rfl)
      by_cases hconfirm : q.header.function = .CONFIRM
      · have hprocess : t.processDeferredRequest env q = (t.processConfirm env q, true) := by
          simp [processDeferredRequest, if_pos hconfirm]
        rw [checkForTaskStart_processed hq hcan hprocess,
          processConfirm_ignored env (hconfirms q hq hcan hconfirm)]
        exact remembers_unsolicited env (h.of_eq rfl rfl)
      · by_cases hread : q.header.function = .READ ∧ t.state ≠ .Idle
        · -- a READ waits until the outstation is idle
          rw [checkForTaskStart_of_waiting env hread.2]
          · exact h
          · intro q' hq'
            rw [hq, Option.some.injEq] at hq'
            rw [← hq']
            exact hread.1
        · refine hrequest hconfirm ?_
          unfold processDeferredRequest
          rw [if_neg hconfirm]
          split
          · rename_i hfunction
            rw [if_pos (not_not.mp (not_and.mp hread hfunction))]
          · rfl

/-- **An uninterrupted step keeps the request and its response in mind.** -/
theorem remembers_step (hs : Sound s) (hr : r.IsSolicitedNonRead) (h : Remembers r fragment s)
    (hquiet : s.Uninterrupted r input) (hothers : s.NoOtherWaits r) :
    Remembers r fragment (s.step input) := by
  have hparts := hquiet
  obtain ⟨hdown, hconfirms, -⟩ := hparts
  have hsteps := steps_step s input
  generalize s.step input = s' at hsteps
  cases hsteps with
  | same => exact h
  | down hinput =>
    rw [hinput] at hdown
    cases hdown
  | restartIIN => exact h.of_eq rfl rfl
  | tasks t env hreacts =>
    obtain ⟨hremembers, hslot⟩ := remembers_reacts hr h hquiet hreacts
    cases hcan : t.canTransmit with
    -- what has happened so far is all
    | false =>
      rw [checkForTaskStart_of_busy env hcan]
      exact hremembers
    -- the request in the slot gets its turn
    | true =>
      obtain ⟨hdeferred, hwas⟩ := hslot hcan
      apply remembers_checkForTaskStart env hr hremembers
      · intro q hq _ hconfirm
        rw [hdeferred] at hq
        rcases hwas with hfree | ⟨rfl, hbusy, hinput⟩
        · -- only READs are in the slot while nothing is being transmitted
          have hread := (hs.deferred q hq).resolve_right (by simp [hfree])
          rw [hread] at hconfirm
          cases hconfirm
        · have htakes : s.TakesUp input q := .inr ⟨hbusy, hq, hinput⟩
          exact hconfirms q (mem_requests htakes (noAck_confirm hconfirm)) htakes hconfirm
      · intro q hq
        exact hothers q (hdeferred ▸ hq)

end OContext

open OContext

/-- **A repeated request is not carried out again**: in every run, when a solicited request that
    is no READ is taken up and the same bytes are taken up again without an interruption in
    between, and no other request waits in the slot meanwhile, the fragment that is sent for the
    repetition is the fragment that was sent for the request, and nothing else happens to the
    station. -/
theorem repetition_not_executed (addresses : Addresses) (params : OutstationParams)
    (numUnsolRetries : Option Nat) (unsolClassMask : ClassField) (config : EventBufferConfig)
    (database : Database) (before between : List Input) (first again : Input)
    (r q : ParsedRequest) (s s' : OContext)
    (hs : s = run OContext.step
      (.init addresses params numUnsolRetries unsolClassMask config database) before)
    (hr : r.IsSolicitedNonRead) (hfirst : s.TakesUp first r)
    (hbetween : Along OContext.step
      (fun t input => t.Uninterrupted r input ∧ t.NoOtherWaits r) (s.step first) between)
    (hs' : s' = run OContext.step (s.step first) between) (hagain : s'.TakesUp again q)
    (hsame : q.Repeats r) :
    ∃ fragment, s.sent first = [(r.addresses.source, fragment)] ∧
      s'.sent again = [(q.addresses.source, fragment)] ∧
      (s'.step again).station = s'.station.record [.transmit q.addresses.source fragment] := by
  have hsound : Sound s := by
    rw [hs]
    exact invariant_run (fun s input h => h.step input) (sound_init ..) before
  obtain ⟨fragment, hsent, hremembers⟩ := remembers_of_takesUp hsound hfirst hr
  -- the answer is remembered over the steps in between
  have hlater : Sound s' ∧ Remembers r fragment s' := by
    rw [hs']
    have halways : Always OContext.step (fun t => Sound t ∧ Remembers r fragment t)
        (s.step first) between :=
      always_of_step (fun t input h hquiet =>
          ⟨h.1.step input, remembers_step h.1 hr h.2 hquiet.1 hquiet.2⟩)
        ⟨hsound.step first, hremembers⟩ hbetween
    exact halways.last
  have hstation := step_repetition hlater.1 hlater.2 hr hagain hsame
  refine ⟨fragment, hsent, ?_, hstation⟩
  unfold sent
  rw [hstation]
  simp [Station.record, Action.fragment?]

/-- A request for a delay measurement, an unsolicited response and its timeout, a change of a
    binary input, and the request again. -/
theorem repetition_not_executed_delay :
    let s := run OContext.step (Sample.outstation 1 1 249 true)
      [.lowerLayerUp (Sample.env 0), .txReady (Sample.env 10)]
    let first := Sample.request 0xC1 23 [] 20
    let between : List Input := [.txReady (Sample.env 30), Sample.change 0 true 40,
      .confirmTimeout (Sample.env 50), .txReady (Sample.env 60)]
    let s' := run OContext.step (s.step first) between
    ∃ fragment, s.sent first = [(1, fragment)] ∧
      s'.sent (Sample.request 0xC1 23 [] 70) = [(1, fragment)] ∧
      (s'.step (Sample.request 0xC1 23 [] 70)).station = s'.station.record [.transmit 1 fragment] :=
  repetition_not_executed _ _ _ _ _ _
    [.lowerLayerUp (Sample.env 0), .txReady (Sample.env 10)]
    [.txReady (Sample.env 30), Sample.change 0 true 40, .confirmTimeout (Sample.env 50),
      .txReady (Sample.env 60)]
    (Sample.request 0xC1 23 [] 20) (Sample.request 0xC1 23 [] 70)
    ⟨⟨1, 10⟩, ⟨.ofByte 0xC1, .DELAY_MEASURE⟩, []⟩ ⟨⟨1, 10⟩, ⟨.ofByte 0xC1, .DELAY_MEASURE⟩, []⟩
    _ _ rfl ⟨by decide, by decide, by decide, by decide⟩ (by decide +kernel) (by decide +kernel)
    rfl (by decide +kernel) ⟨rfl, rfl⟩

/-- The response to a READ of events is to be confirmed, and a second READ waits for that in the
    slot. -/
def readWaits : OContext :=
  run OContext.step (Sample.outstation 1 1 249 false)
    [.lowerLayerUp (Sample.env 0), Sample.change 0 true 10, Sample.request 0xC0 1 [60, 2, 6] 20,
      Sample.request 0xC1 1 [60, 1, 6] 30, .txReady (Sample.env 40)]

/-- **A READ from the slot makes the outstation forget**: with nothing but the ends of two
    transmissions in between, a DIRECT_OPERATE is carried out a second time when it is
    repeated. -/
theorem repetition_executed :
    let first := Sample.request 0xC2 5 latchOn 50
    let again := Sample.request 0xC2 5 latchOn 80
    let between : List Input := [.txReady (Sample.env 60), .txReady (Sample.env 70)]
    let r : ParsedRequest := ⟨⟨1, 10⟩, ⟨.ofByte 0xC2, .DIRECT_OPERATE⟩, latchOn⟩
    let s' := run OContext.step (readWaits.step first) between
    readWaits.TakesUp first r ∧
      Along OContext.step (OContext.Uninterrupted r) (readWaits.step first) between ∧
      s'.TakesUp again r ∧
      .operate .DirectOperate ⟨2, 50, latchOn⟩ [⟨⟨12, 1⟩, 0, latchOn.drop 5⟩] ∈
        (readWaits.step first).station.log ∧
      .operate .DirectOperate ⟨2, 80, latchOn⟩ [⟨⟨12, 1⟩, 0, latchOn.drop 5⟩] ∈
        (s'.step again).station.log := by
  decide +kernel

end OpenDnp3.Outstation
