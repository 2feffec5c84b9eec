import OpenDnp3.Outstation.Effects

/-!
# Transmissions

The outstation hands a fragment to the lower layer with `BeginTransmit` and is told by
`OnTxReady` that it is out.  In between, requests wait: they find `isTransmitting` set.  The
confirm timer does not wait.  It may expire while the answer to a request is still being
transmitted, and repeats the unsolicited response then.
-/

namespace OpenDnp3.Outstation

open App Lib
open Link (Addresses LinkBroadcastAddress)

/-! ## Fragments in the log -/

/-- The fragment that an action hands to the lower layer. -/
def Action.fragment? : Action → Option (UInt16 × List UInt8)
  | .transmit destination fragment => some (destination, fragment)
  | _ => none

/-- The inputs that end a transmission. -/
def Input.completes : Input → Bool
  | .txReady _ | .lowerLayerDown => true
  | _ => false

/-- What may be logged before a fragment of the solicited or of the unsolicited channel is handed
    to the lower layer. -/
def Action.precedes (uns : Bool) : Action → Bool
  | .transmit .. | .layerDown => false
  | .unsolicited .. => uns
  | _ => true

theorem Action.precedes_of_isLocal {a : Action} (h : a.isLocal = true) (uns : Bool) :
    a.precedes uns = true := by
  cases a <;> first | rfl | cases h

theorem Action.fragment?_of_precedes {a : Action} {uns : Bool} (h : a.precedes uns = true) :
    a.fragment? = none := by
  cases a <;> first | rfl | cases h

namespace Station

variable {st st' : Station} {uns : Bool}

/-- The log goes on, but nothing is transmitted. -/
abbrev Silent : Station → Station → Prop := Logs (·.fragment? = none)

/-- Nothing is transmitted and the lower layer does not go down.  A new unsolicited response may
    have been prepared. -/
abbrev Prepares (uns : Bool) : Station → Station → Prop := Logs (·.precedes uns = true)

theorem Prepares.silent (h : Prepares uns st st') : Silent st st' :=
  h.mono fun _ => Action.fragment?_of_precedes

theorem prepares_background (h : Background st st') : Prepares uns st st' :=
  (logs_background h).mono fun _ ha => Action.precedes_of_isLocal ha uns

theorem prepares_handled {params : OutstationParams} {now : Nat} {seq : Fin 16}
    {function : FunctionCode} {objects : List UInt8}
    (h : Handled params now seq function objects st st') : Prepares uns st st' :=
  (logs_handled h).mono fun _ ha => Action.precedes_of_isLocal ha uns

end Station

open Station

namespace OContext

/-! ## Effects that transmit -/

/-- A fragment is handed to the lower layer, after anything else that is done. -/
structure Sends (uns : Bool) (t t' : OContext) (destination : UInt16) (fragment : List UInt8) :
    Prop where
  log : ∃ st, Prepares uns t.station st ∧
    t'.station.log = st.log ++ [.transmit destination fragment]
  busy : t'.isTransmitting = true

theorem log_loadResponse (u : OContext) (w : HeaderWriter) :
    (u.loadResponse w).1.station.log = u.station.log := by
  unfold loadResponse
  dsimp only
  split <;> rfl

theorem log_loadRead (u : OContext) (objects : List UInt8) (w : HeaderWriter) :
    (u.loadRead objects w).1.station.log = u.station.log := by
  unfold loadRead
  dsimp only
  split
  · rfl
  · exact log_loadResponse ..

/-- A response is sent. -/
theorem sends_answered (env : Env) {t u : OContext} (h : Prepares false t.station u.station)
    (kind : ResponseKind) (destination : UInt16) (seq : Fin 16) (iin : IINField)
    (loaded : Loaded) :
    Sends false t (u.answered env kind destination seq iin loaded) destination
      (u.sentTx env seq iin loaded).lastResponse where
  log := by
    have hbuffer : Prepares false u.station
        (u.station.setEventBuffer u.station.eventBuffer.isOverflown.1) := .of_log rfl
    exact ⟨_, (h.trans hbuffer).trans (.record rfl), rfl⟩
  busy := rfl

theorem sends_sending (env : Env) {t u : OContext} (h : Prepares false t.station u.station)
    (kind : ResponseKind) (destination : UInt16) (seq : Fin 16) (iin : IINField)
    (loaded : Loaded) :
    Sends false t (u.sending env kind destination seq iin loaded) destination
      (u.sentTx env seq iin loaded).lastResponse :=
  ⟨(sends_answered env h kind destination seq iin loaded).log, rfl⟩

theorem sends_announced {t u : OContext} (h : Prepares true t.station u.station) (iin : IINField)
    (w : HeaderWriter) (events : List Nat) :
    Sends true t (u.announced iin w events) u.addresses.destination
      (u.unsolicitedTx iin w).lastResponse where
  log := ⟨_, h.trans (.record rfl), rfl⟩
  busy := rfl

theorem prepares_solicitedConfirm (st : Station) (seq : Fin 16) :
    Prepares false st (st.solicitedConfirm seq) := by
  have hconfirm : Prepares false st (st.record [.confirm false seq]) := .record rfl
  exact (hconfirm.trans (.record rfl)).trans (.record rfl)

theorem prepares_unsolicitedConfirm (st : Station) (seq : Fin 16) :
    Prepares false st (st.unsolicitedConfirm seq) := by
  have hconfirm : Prepares false st (st.record [.confirm true seq]) := .record rfl
  exact hconfirm.trans (.record rfl)

variable {s t t' : OContext} {input : Input}

/-- An effect that sends nothing. -/
structure Waits (t t' : OContext) : Prop where
  prepares : Prepares false t.station t'.station
  free : t'.isTransmitting = true → t.isTransmitting = true

variable {destination : UInt16} {uns : Bool}

/-- **What sends a fragment sends the one in its buffer.** -/
theorem sends_of_transmits (h : Transmits s input uns destination t t') :
    Sends uns t t' destination (t'.channel uns).tx.lastResponse := by
  cases h with
  | timeoutRetry => exact ⟨⟨_, .record rfl, rfl⟩, rfl⟩
  | confirmNext env request _ _ _ _ _ _ u hu st loaded hload =>
    have hconfirmed : Prepares false s.station u.station := by
      rw [hu]
      exact prepares_solicitedConfirm s.station request.header.control.SEQ
    have hlog := log_loadResponse u u.sol.tx.start
    rw [hload] at hlog
    exact sends_sending env (t := s.ready) (hconfirmed.trans (.of_log hlog)) _ _ _ _ _
  | repeatedNonRead => exact ⟨⟨s.station, .refl _, rfl⟩, rfl⟩
  | repeatedRead => exact ⟨⟨t.station, .refl _, rfl⟩, rfl⟩
  | nonRead env request _ _ _ _ _ st hhandled =>
    exact sends_sending env (prepares_handled hhandled) _ _ _ _ _
  | nonReadAside env request _ _ _ _ _ st hhandled =>
    exact sends_answered env (prepares_handled hhandled) _ _ _ _ _
  | read env request _ _ _ _ _ _ _ n st iin loaded hload =>
    have hlog := log_loadRead (t.handling request t.givenUp t.deferred t.fragmentCount t.station)
      request.objects t.sol.tx.start
    rw [hload] at hlog
    have hst : Prepares false t.station st := .of_log hlog
    exact sends_sending env hst _ _ _ _ _
  | fileRead env request _ _ _ _ _ _ _ st hst =>
    exact sends_sending env (prepares_background hst) _ _ _ _ _
  | unsolicitedNull env =>
    refine sends_announced ?_ _ _ _
    exact .of_log rfl
  | unsolicited env =>
    refine sends_announced ?_ _ _ _
    exact .of_log rfl

/-- Every other effect sends nothing; one of them takes the outstation offline. -/
theorem waits_or_transmits (h : Effect s input t t') :
    Waits t t' ∨ (t = s ∧ t' = s.onLowerLayerDown) ∨
      ∃ uns destination, Transmits s input uns destination t t' := by
  cases h with
  | transmits h => exact .inr (.inr ⟨_, _, h⟩)
  | online | restartIIN | noUnsolicited => exact .inl ⟨.of_log rfl, id⟩
  | layerDown => exact .inr (.inl ⟨rfl, rfl⟩)
  | txReady => exact .inl ⟨.refl _, Bool.noConfusion⟩
  | timeoutIdle | timeoutNull | timeoutGiveUp | confirmIgnored => exact .inl ⟨.record rfl, id⟩
  | updates updates env =>
    have hupdated := background_applyUpdates s.station env.timeSource updates
    exact .inl ⟨(prepares_background hupdated).trans (.of_log rfl), id⟩
  | flag | defer | repeatedReadDeferred | readDeferred | undefer => exact .inl ⟨.refl _, id⟩
  | broadcast _ _ _ _ _ _ _ st hst =>
    exact .inl ⟨(prepares_background hst).trans (.record rfl), id⟩
  | noAck => exact .inl ⟨prepares_background (background_processRequestNoAck ..), id⟩
  | confirmLast => exact .inl ⟨prepares_solicitedConfirm s.station _, Bool.noConfusion⟩
  | confirmUnsolicited =>
    exact .inl ⟨(prepares_unsolicitedConfirm s.station _).trans (.record rfl), Bool.noConfusion⟩
  | confirmNull => exact .inl ⟨prepares_unsolicitedConfirm s.station _, Bool.noConfusion⟩

/-- An effect that is none of those sends nothing. -/
theorem silent_or_transmits (h : Effect s input t t') :
    (Silent t.station t'.station ∧ (t'.isTransmitting = true → t.isTransmitting = true)) ∨
      ∃ uns destination, Transmits s input uns destination t t' := by
  rcases waits_or_transmits h with hwaits | ⟨rfl, rfl⟩ | htransmits
  · exact .inl ⟨hwaits.prepares.silent, hwaits.free⟩
  · exact .inl ⟨Logs.record rfl, Bool.noConfusion⟩
  · exact .inr htransmits

/-! ## Steps that transmit -/

/-- The confirm timer makes the outstation repeat an unsolicited response. -/
def Retries (s : OContext) : Input → Prop
  | .confirmTimeout _ =>
    s.confirmTimer = true ∧ s.awaitsUnsolicited ∧ s.completedNull = true ∧
      s.unsolRetries.retry.2 = true ∧ s.deferred = none
  | _ => False

/-- **What sends a fragment begins when nothing is being transmitted**, a repetition apart. -/
theorem free_of_transmits (h : Transmits s input uns destination t t') :
    t.isTransmitting = false ∨ (t = s ∧ t' = s.retried ∧ s.Retries input) := by
  have hstart : t.canStartUnsolicited = true → t.isTransmitting = false := by
    intro h
    unfold canStartUnsolicited canTransmit at h
    simp only [Bool.and_eq_true, Bool.not_eq_true'] at h
    exact h.1.1.2
  cases h with
  | timeoutRetry env hinput htimer hstate hnull hretry hdeferred =>
    subst hinput
    exact .inr ⟨rfl, rfl, htimer, hstate, hnull, hretry, hdeferred⟩
  | repeatedRead _ _ _ _ hfree | read _ _ _ _ _ hfree | fileRead _ _ _ _ _ hfree => exact .inl hfree
  | unsolicitedNull _ h | unsolicited _ h => exact .inl (hstart h)
  -- the others begin when the outstation is ready
  | _ => exact .inl rfl

/-- **Once something has been sent, a step only tidies up.** -/
theorem effect_after_send (h : Effect s input t t') (hbusy : t.isTransmitting = true)
    (hlog : t.station.log ≠ s.station.log) : t' = t.setDeferred none := by
  have hstuck : t.isTransmitting = false → False :=
    fun hfree => absurd (hbusy.symm.trans hfree) Bool.noConfusion
  cases h with
  | undefer => rfl
  | repeatedReadDeferred _ _ _ _ hfree | readDeferred _ _ _ _ hfree => exact (hstuck hfree).elim
  | noUnsolicited h =>
    unfold canStartUnsolicited canTransmit at h
    rw [hbusy] at h
    simp at h
  | transmits h =>
    rcases free_of_transmits h with hfree | ⟨rfl, -⟩
    · exact (hstuck hfree).elim
    · exact absurd rfl hlog
  -- the other effects begin in the state in which the step began
  | _ => exact absurd rfl hlog

/-- What a step has sent so far: nothing, or one fragment as the last thing it did. -/
inductive SentSoFar (s : OContext) (input : Input) (t : OContext) : Prop where
  | nothing (h : Silent s.station t.station)
  | fragment (u v : OContext) (uns : Bool) (destination : UInt16)
    (hbefore : Effects s input s u) (hsilent : Silent s.station u.station)
    (htransmits : Transmits s input uns destination u v) (ht : t = v ∨ t = v.setDeferred none)

/-- The slot is all that differs from the state in which the fragment was sent. -/
theorem eq_setDeferred {v : OContext} (h : t = v ∨ t = v.setDeferred none) :
    ∃ deferred, t = v.setDeferred deferred := by
  rcases h with h | h
  · exact ⟨v.deferred, h⟩
  · exact ⟨none, h⟩

theorem sentSoFar_effects (h : Effects s input s t) : SentSoFar s input t := by
  induction h with
  | refl => exact .nothing (.refl _)
  | @tail u v hbefore hlast ih =>
    cases ih with
    | nothing hsilent =>
      rcases silent_or_transmits hlast with hwaits | ⟨uns, destination, htransmits⟩
      · exact .nothing (hsilent.trans hwaits.1)
      · exact .fragment u v uns destination hbefore hsilent htransmits (.inl rfl)
    | fragment u' v' uns destination hbefore' hsilent htransmits hu =>
      -- after the fragment only the slot for the deferred request can change
      have hsends := sends_of_transmits htransmits
      obtain ⟨deferred, rfl⟩ := eq_setDeferred hu
      have hlog : v'.station.log ≠ s.station.log := by
        obtain ⟨st, hst, hv⟩ := hsends.log
        obtain ⟨actions, hactions, -⟩ := hsilent.trans hst.silent
        rw [hv, hactions, List.append_assoc]
        intro hsame
        have hlength := congrArg List.length hsame
        simp at hlength
      have hv := effect_after_send hlast hsends.busy hlog
      exact .fragment u' v' uns destination hbefore' hsilent htransmits (.inr hv)

/-- **A step sends at most one fragment, and ends with it.** -/
theorem sends_step (hok : DeferredOk s) (input : Input) : SentSoFar s input (s.step input) :=
  sentSoFar_effects ((moves_step hok input).1.lift id fun _ _ => effect_of_move)

/-- The fragments that a step hands to the lower layer. -/
def sent (s : OContext) (input : Input) : List (UInt16 × List UInt8) :=
  ((s.step input).station.log.drop s.station.log.length).filterMap Action.fragment?

theorem filterMap_silent {st st' : Station} (h : Silent st st') :
    (st'.log.drop st.log.length).filterMap Action.fragment? = [] := by
  obtain ⟨actions, hlog, hnone⟩ := h
  rw [hlog, List.drop_left, List.filterMap_eq_nil_iff]
  exact hnone

theorem sent_of_silent (h : Silent s.station (s.step input).station) : s.sent input = [] :=
  filterMap_silent h

theorem sent_of_sends {u v : OContext}
    {fragment : List UInt8} (hsilent : Silent s.station u.station)
    (hsends : Sends uns u v destination fragment)
    (hstep : (s.step input).station.log = v.station.log) :
    s.sent input = [(destination, fragment)] := by
  obtain ⟨st, hst, hlog⟩ := hsends.log
  obtain ⟨actions, hactions, hnone⟩ := hsilent.trans hst.silent
  unfold sent
  rw [hstep, hlog, hactions, List.append_assoc, List.drop_left, List.filterMap_append,
    List.filterMap_eq_nil_iff.mpr hnone]
  rfl

/-! ## When a transmission is over -/

/-- The number of fragments in the log. -/
def transmissions (st : Station) : Nat := (st.log.filterMap Action.fragment?).length

theorem transmissions_silent {st st' : Station} (h : Silent st st') :
    transmissions st' = transmissions st := by
  obtain ⟨actions, hlog, hnone⟩ := h
  unfold transmissions
  rw [hlog, List.filterMap_append, List.filterMap_eq_nil_iff.mpr hnone, List.append_nil]

theorem transmissions_sends {fragment : List UInt8} (h : Sends uns t t' destination fragment) :
    transmissions t'.station = transmissions t.station + 1 := by
  obtain ⟨st, hprepares, hlog⟩ := h.log
  rw [← transmissions_silent hprepares.silent]
  unfold transmissions
  rw [hlog, List.filterMap_append, List.length_append]
  rfl

/-- **A transmission begins with a fragment.** -/
theorem busy_effects {t₀ : OContext} (h : Effects s input t₀ t) :
    transmissions t₀.station ≤ transmissions t.station ∧
      (t.isTransmitting = true →
        t₀.isTransmitting = true ∨ transmissions t₀.station < transmissions t.station) := by
  induction h with
  | refl => exact ⟨Nat.le_refl _, .inl⟩
  | tail _ hlast ih =>
    rcases silent_or_transmits hlast with ⟨hsilent, hfree⟩ | ⟨_, _, htransmits⟩
    · rw [transmissions_silent hsilent]
      exact ⟨ih.1, fun h => ih.2 (hfree h)⟩
    · rw [transmissions_sends (sends_of_transmits htransmits)]
      exact ⟨Nat.le_succ_of_le ih.1, fun _ => .inr (Nat.lt_succ_of_le ih.1)⟩

/-- **Until a transmission is over, its bytes stay where they are.** -/
structure Undisturbed (s t : OContext) : Prop where
  busy : t.isTransmitting = true
  sol : t.sol.tx = s.sol.tx
  unsol : t.unsol.tx = s.unsol.tx

theorem undisturbed_effect (hinput : input.completes = false) (h : Effect s input t t')
    (ht : Undisturbed s t) : Undisturbed s t' := by
  have hbusy := ht.busy
  have hstuck : t.isTransmitting = false → False :=
    fun hfree => absurd (hbusy.symm.trans hfree) Bool.noConfusion
  cases h with
  | online
  | timeoutIdle | timeoutNull | timeoutGiveUp | updates | restartIIN | flag | broadcast
  | noAck | defer =>
    exact ⟨hbusy, rfl, rfl⟩
  | layerDown hdown =>
    rw [hdown] at hinput
    cases hinput
  | txReady _ hready =>
    rw [hready] at hinput
    cases hinput
  | repeatedReadDeferred _ _ _ _ hfree | readDeferred _ _ _ _ hfree => exact (hstuck hfree).elim
  | undefer | noUnsolicited => exact ⟨hbusy, ht.sol, ht.unsol⟩
  | transmits h =>
    rcases free_of_transmits h with hfree | ⟨rfl, rfl, -⟩
    · exact (hstuck hfree).elim
    · exact ⟨rfl, rfl, rfl⟩
  -- what is left begins when the outstation is ready again
  | _ => cases hbusy

theorem undisturbed_effects (hinput : input.completes = false) (hbusy : s.isTransmitting = true)
    (h : Effects s input s t) : Undisturbed s t := by
  induction h with
  | refl => exact ⟨hbusy, rfl, rfl⟩
  | tail _ hlast ih => exact undisturbed_effect hinput hlast ih

/-- **When a step sends**: nothing is being transmitted, or a transmission has just ended, or an
    unsolicited response is repeated. -/
theorem start_of_transmits (hbefore : Effects s input s t)
    (h : Transmits s input uns destination t t') :
    s.isTransmitting = false ∨ input.completes = true ∨
      (t = s ∧ t' = s.retried ∧ s.Retries input) := by
  rcases free_of_transmits h with hfree | hretries
  · cases hbusy : s.isTransmitting with
    | false => exact .inl rfl
    | true =>
      cases hinput : input.completes with
      | true => exact .inr (.inl rfl)
      | false =>
        have hkept := undisturbed_effects hinput hbusy hbefore
        exact absurd (hkept.busy.symm.trans hfree) Bool.noConfusion
  · exact .inr (.inr hretries)

/-- The answer to an OnTxReady is made by an outstation that is free. -/
theorem effects_txReady (env : Env) (honline : s.isOnline = true) (hbusy : s.isTransmitting = true) :
    Effects s (.txReady env) s.ready (s.step (.txReady env)) := by
  have hstep : s.step (.txReady env) = s.ready.checkForTaskStart env := by
    unfold step
    rw [honline, hbusy]
    rfl
  rw [hstep]
  exact (moves_checkForTaskStart env (reacted_ready env honline hbusy).known).lift id
    fun _ _ => effect_of_move

/-- **Whether a fragment is on its way after a step** that sends nothing. -/
theorem isTransmitting_step (hs : Sound s) (input : Input)
    (hsilent : Silent s.station (s.step input).station) :
    (s.step input).isTransmitting = (s.isTransmitting && !input.completes) := by
  have hsame := transmissions_silent hsilent
  -- only a transmission, which would show in the log, makes it busy
  have hbusy : (s.step input).isTransmitting = true → s.isTransmitting = true := by
    intro h
    have hchain : Effects s input s (s.step input) :=
      (moves_step hs.deferred input).1.lift id fun _ _ => effect_of_move
    refine ((busy_effects hchain).2 h).resolve_right ?_
    rw [hsame]
    exact Nat.lt_irrefl _
  cases hwas : s.isTransmitting with
  | false =>
    rw [Bool.false_and, Bool.eq_false_iff]
    intro h
    exact absurd ((hbusy h).symm.trans hwas) Bool.noConfusion
  | true =>
    have honline := hs.online hwas
    cases hinput : input.completes with
    | false =>
      have hkept : Undisturbed s (s.step input) :=
        step_of_effects hs.deferred (fun t t' heffect ht => undisturbed_effect hinput heffect ht)
          ⟨hwas, rfl, rfl⟩
      exact hkept.busy
    | true =>
      cases input with
      | txReady env =>
        rw [Bool.not_true, Bool.and_false, Bool.eq_false_iff]
        intro h
        rcases (busy_effects (effects_txReady env honline hwas)).2 h with hready | hmore
        · cases hready
        · rw [hsame] at hmore
          exact Nat.lt_irrefl _ hmore
      | lowerLayerDown =>
        unfold step
        rw [honline, if_pos rfl]
        rfl
      | _ => cases hinput

/-! ## The lower layer's view -/

/-- **The condition**: an unsolicited response is not repeated during a transmission. -/
def RepeatsInTurn (s : OContext) (input : Input) : Prop :=
  s.Retries input → s.isTransmitting = false

/-- A repetition that does not wait. -/
theorem step_retried (env : Env) (h : s.Retries (.confirmTimeout env)) :
    s.step (.confirmTimeout env) = s.retried := by
  obtain ⟨htimer, hstate, hnull, hretry, hdeferred⟩ := h
  have htimeout : take ((s.setTimer false).record [.confirmTimeout]).onConfirmTimeout =
      s.retried := by
    have h := timesOut_onConfirmTimeout s
    generalize take ((s.setTimer false).record [.confirmTimeout]).onConfirmTimeout = s' at h
    cases h with
    -- the other outcomes need another state, counter or slot
    | idle h =>
      exfalso
      rcases hstate with hstate | hstate
      · rw [hstate] at h
        rcases h with h | h <;> cases h
      · rw [hstate] at h
        rcases h with h | h <;> cases h
    | null _ h => exact absurd (hnull.symm.trans h) Bool.noConfusion
    | retry => rfl
    | giveUp _ _ h =>
      rcases h with h | h
      · exact absurd (hretry.symm.trans h) Bool.noConfusion
      · exact absurd hdeferred h
  unfold step
  dsimp only
  rw [htimer, if_pos rfl, htimeout]
  exact checkForTaskStart_of_busy env (canTransmit_of_busy rfl)

end OContext

open OContext

/-- An outstation and whether a fragment is on its way, as the calls of its lower layer tell. -/
def flightStep (p : OContext × Bool) (input : Input) : OContext × Bool :=
  (p.1.step input, if (p.1.sent input).isEmpty then p.2 && !input.completes else true)

/-- **What the lower layer may expect of a step**: a fragment comes alone and not before the one
    before it is out, and until then neither buffer changes. -/
structure TransmitsAlone (p : OContext × Bool) (input : Input) : Prop where
  inTurn : p.1.sent input ≠ [] → p.2 = false ∨ input.completes = true
  one : (p.1.sent input).length ≤ 1
  kept : p.2 = true → input.completes = false →
    (p.1.step input).sol.tx = p.1.sol.tx ∧ (p.1.step input).unsol.tx = p.1.unsol.tx

/-- The outstation knows whether a fragment is on its way. -/
structure FlightOk (p : OContext × Bool) : Prop where
  sound : Sound p.1
  flight : p.2 = p.1.isTransmitting

theorem flightOk_step {p : OContext × Bool} (h : FlightOk p) (input : Input) :
    FlightOk (flightStep p input) := by
  refine ⟨h.sound.step input, ?_⟩
  change (if (p.1.sent input).isEmpty then p.2 && !input.completes else true) =
    (p.1.step input).isTransmitting
  have hsent := sends_step h.sound.deferred input
  generalize hstep : p.1.step input = s' at hsent
  cases hsent with
  | nothing hsilent =>
    rw [← hstep] at hsilent ⊢
    rw [sent_of_silent hsilent, isTransmitting_step h.sound input hsilent, h.flight]
    rfl
  | fragment u v uns destination _ hsilent htransmits hv =>
    have hsends := sends_of_transmits htransmits
    obtain ⟨deferred, rfl⟩ := eq_setDeferred hv
    rw [sent_of_sends hsilent hsends (congrArg (·.station.log) hstep)]
    exact hsends.busy.symm

/-- **A step does what the lower layer expects exactly if no repetition comes too early.** -/
theorem transmitsAlone_iff {p : OContext × Bool} (h : FlightOk p) (input : Input) :
    TransmitsAlone p input ↔ p.1.RepeatsInTurn input := by
  obtain ⟨s, flight⟩ := p
  obtain ⟨hs, hflight⟩ := h
  change flight = s.isTransmitting at hflight
  constructor
  · intro halone
    cases input with
    | confirmTimeout env =>
      intro hretries
      rw [Bool.eq_false_iff]
      intro hbusy
      have hstep := step_retried env hretries
      have hsends : Sends true s s.retried s.addresses.destination s.unsol.tx.lastResponse :=
        ⟨⟨_, .record rfl, rfl⟩, rfl⟩
      have hsent : s.sent (.confirmTimeout env) = _ :=
        sent_of_sends (.refl s.station) hsends (congrArg (·.station.log) hstep)
      rcases halone.inTurn (by rw [hsent]; exact List.cons_ne_nil _ _) with hnot | hcompletes
      · rw [hflight, hbusy] at hnot
        cases hnot
      · cases hcompletes
    | _ => exact False.elim
  · intro hrepeats
    have hsent := sends_step hs.deferred input
    generalize hstep : s.step input = s' at hsent
    have hkept : flight = true → input.completes = false →
        (s.step input).sol.tx = s.sol.tx ∧ (s.step input).unsol.tx = s.unsol.tx := by
      intro hbusy hinput
      rw [hflight] at hbusy
      have hundisturbed : Undisturbed s (s.step input) :=
        step_of_effects hs.deferred (fun t t' heffect ht => undisturbed_effect hinput heffect ht)
          ⟨hbusy, rfl, rfl⟩
      exact ⟨hundisturbed.sol, hundisturbed.unsol⟩
    cases hsent with
    | nothing hsilent =>
      rw [← hstep] at hsilent
      have hnone := sent_of_silent hsilent
      refine ⟨fun h => absurd hnone h, ?_, hkept⟩
      rw [hnone]
      exact Nat.zero_le 1
    | fragment u v uns destination hbefore hsilent htransmits hv =>
      have hsends := sends_of_transmits htransmits
      obtain ⟨deferred, rfl⟩ := eq_setDeferred hv
      have hone := sent_of_sends hsilent hsends (congrArg (·.station.log) hstep)
      refine ⟨fun _ => ?_, ?_, hkept⟩
      · by_contra hnot
        rw [not_or, Bool.not_eq_false, Bool.not_eq_true] at hnot
        obtain ⟨hbusy, hinput⟩ := hnot
        rw [hflight] at hbusy
        -- a fragment during a transmission can only be a repetition
        rcases start_of_transmits hbefore htransmits with hfree | hcompletes | ⟨-, -, hretries⟩
        · exact absurd (hbusy.symm.trans hfree) Bool.noConfusion
        · exact absurd (hcompletes.symm.trans hinput) Bool.noConfusion
        · exact absurd (hbusy.symm.trans (hrepeats hretries)) Bool.noConfusion
      · rw [hone]
        exact Nat.le_refl 1

/-- **Fragments are transmitted one after the other** exactly in those runs in which no
    unsolicited response is repeated while another fragment is on its way. -/
theorem transmissions_alone (addresses : Addresses) (params : OutstationParams)
    (numUnsolRetries : Option Nat) (unsolClassMask : ClassField) (config : EventBufferConfig)
    (database : Database) (inputs : List Input) :
    Along flightStep TransmitsAlone
        (.init addresses params numUnsolRetries unsolClassMask config database, false) inputs ↔
      Along flightStep (fun p input => p.1.RepeatsInTurn input)
        (.init addresses params numUnsolRetries unsolClassMask config database, false) inputs :=
  along_iff_along (P := FlightOk) (fun _ input h => flightOk_step h input)
    (fun _ input h => transmitsAlone_iff h input) ⟨sound_init .., rfl⟩

/-- An unsolicited response waits for its confirm, the answer to a request is on its way, and the
    confirm timer expires. -/
def repeatedTooEarly : List Input :=
  [.lowerLayerUp (Sample.env 0), .txReady (Sample.env 10), Sample.request 0xD0 0 [] 20,
    Sample.change 0 true 30, .txReady (Sample.env 40), Sample.request 0xC0 23 [] 50]

/-- **The unsolicited response is repeated while the answer is still being transmitted.** -/
theorem transmission_overtaken :
    let p := run flightStep (Sample.outstation 1 1 249 true, false) repeatedTooEarly
    p.2 = true ∧ ¬ TransmitsAlone p (.confirmTimeout (Sample.env 60)) := by
  refine ⟨by decide +kernel, fun h => ?_⟩
  rcases h.inTurn (by decide +kernel) with hflight | hcompletes
  · exact absurd hflight (by decide +kernel)
  · cases hcompletes

end OpenDnp3.Outstation
