import OpenDnp3.Outstation.ConfirmWait

/-!
# Deferred READs

A READ that arrives during a transmission, or while the confirm of an unsolicited response is
awaited, is put into the slot for the deferred request.  It is taken out again as soon as the
outstation is idle and nothing is being transmitted.  But the slot has room for one request, and
a confirm that arrives during a transmission goes into the same slot.
-/

namespace OpenDnp3.Outstation

open App Lib
open Link (Addresses)

open Station

namespace OContext

variable {s t t' : OContext} {input : Input} {r : ParsedRequest}

/-! ## Answering the READ in the slot -/

/-- A request that is recognised is the one that is remembered. -/
theorem history_of_recognises (h : t.recognises r = true) : t.history = .ofRequest r := by
  unfold recognises RequestHistory.fullyEqualsLastRequest at h
  simp only [Bool.and_eq_true, beq_iff_eq] at h
  obtain ⟨⟨hlast, -⟩, ⟨⟨hheader, -⟩, hlength⟩, hdigest⟩ := h
  cases hhistory : t.history
  rw [hhistory] at hlast hheader hlength hdigest
  simp only at hlast hheader hlength hdigest
  rw [hlast, hheader, hlength, hdigest]
  rfl

/-- **An idle outstation answers a READ**, and remembers it. -/
theorem transmits_processRequest (env : Env) (hrequest : r ∈ s.requests input)
    (hread : r.header.function = .READ) (huns : r.header.control.UNS = false)
    (hfree : t.isTransmitting = false) (honline : t.isOnline = true) (hidle : t.state = .Idle) :
    Transmits s input false r.addresses.source t (t.processRequest env r) ∧
      (t.processRequest env r).history = .ofRequest r := by
  unfold processRequest onReceiveSolRequest
  rw [huns, if_neg Bool.false_ne_true]
  cases hrecognised : t.recognises r with
  | true =>
    -- the last response is sent once more
    rw [if_pos rfl, if_pos hread]
    have htransmits : Transmits s input false r.addresses.source t _ :=
      .repeatedRead r hrequest hread huns hfree hrecognised (.inl hidle)
    have hrepeat : take (t.onRepeatReadRequest r) =
        t.retransmitted (decide (t.state = .SolicitedConfirmWait) || t.confirmTimer)
          r.addresses.source := by
      rw [hidle]
      cases t
      cases hidle
      rfl
    rw [hrepeat]
    exact ⟨htransmits, history_of_recognises hrecognised⟩
  | false =>
    rw [if_neg Bool.false_ne_true]
    rw [if_pos hread]
    have hnew : (t.numbered r).onNewReadRequest env r =
        (t.numbered r).respondToReadRequest env r := by
      unfold onNewReadRequest
      rw [show (t.numbered r).state = .Idle from hidle]
    change Transmits s input false r.addresses.source t
        (take ((t.numbered r).onNewReadRequest env r)) ∧
      (take ((t.numbered r).onNewReadRequest env r)).history = .ofRequest r
    rw [hnew]
    constructor
    · apply transmits_read env hrequest hread huns hfree hrecognised
      · simp [hidle]
      · exact .inr ⟨honline, hidle⟩
      · rw [givenUp_idle hidle]
        rfl
    · obtain ⟨n, station, kind, iin, loaded, hanswer⟩ :=
        answers_respondToReadRequest env (t.numbered r) r
      rw [hanswer]
      rfl

/-- **What becomes of a READ in the slot** when the tasks are checked: it stays there while the
    outstation waits for something or a transmission is in progress, and is answered otherwise. -/
theorem served_checkForTaskStart (env : Env) (hknown : DeferredKnown s input t)
    (hdeferred : t.deferred = some r) (hread : r.header.function = .READ)
    (huns : r.header.control.UNS = false) :
    (t.checkForTaskStart env = t ∧ ¬ (t.state = .Idle ∧ t.canTransmit = true)) ∨
      ∃ u, Transmits s input false r.addresses.source t u ∧ u.history = .ofRequest r ∧
        t.checkForTaskStart env = u.setDeferred none := by
  cases hcan : t.canTransmit with
  | false =>
    left
    refine ⟨checkForTaskStart_of_busy env hcan, ?_⟩
    simp
  | true =>
    by_cases hidle : t.state = .Idle
    · right
      have hfree := free_of_canTransmit hcan
      have honline : t.isOnline = true := (Bool.and_eq_true_iff.mp hcan).1
      obtain ⟨htransmits, hhistory⟩ := transmits_processRequest env
        (hknown r hdeferred hfree).1 hread huns hfree honline hidle
      refine ⟨_, htransmits, hhistory, ?_⟩
      have hanswer : t.checkForDeferredRequest env = (t.processRequest env r).setDeferred none := by
        have hprocess : t.processDeferredRequest env r = (t.processRequest env r, true) := by
          unfold processDeferredRequest
          rw [hread, if_neg FunctionCode.noConfusion, if_pos rfl, if_pos hidle]
        unfold checkForDeferredRequest
        rw [hdeferred]
        dsimp only
        rw [hcan, if_pos rfl, hprocess]
        rfl
      -- the answer is being transmitted, so nothing else is started
      have hbusy : ((t.processRequest env r).setDeferred none).canTransmit = false :=
        canTransmit_of_busy (sends_of_transmits htransmits).busy
      have hrest := checkForTaskStart_of_busy env hbusy
      unfold checkForTaskStart at hrest ⊢
      rw [checkForDeferredRequest_none env rfl] at hrest
      rw [hanswer]
      exact hrest
    · left
      refine ⟨checkForTaskStart_of_waiting env hidle ?_, fun h => hidle h.1⟩
      intro q hq
      rw [hdeferred] at hq
      cases hq
      exact hread

/-! ## Steps -/

/-- No READ is left in the slot of an outstation that is idle and free to transmit. -/
def NotStuck (s : OContext) : Prop :=
  ∀ r, s.deferred = some r → r.header.function = .READ → ¬ (s.state = .Idle ∧ s.canTransmit = true)

/-- The READ is answered in this step: the outstation remembers it as its last request, and sends
    its last response to the master that sent the READ. -/
def ReadAnswered (s : OContext) (input : Input) (r : ParsedRequest) : Prop :=
  (s.step input).history = .ofRequest r ∧
    s.sent input = [(r.addresses.source, (s.step input).sol.tx.lastResponse)]

/-- **A READ in the slot is served.**  It stays there, which it only does while the outstation is
    not both idle and free to transmit; or it is answered; or the lower layer goes down or a newer
    request arrives that is no confirm. -/
def ReadsServed (s : OContext) (input : Input) : Prop :=
  ∀ r, s.deferred = some r → r.header.function = .READ → r.header.control.UNS = false →
    ((s.step input).deferred = some r ∧
      ¬ ((s.step input).state = .Idle ∧ (s.step input).canTransmit = true)) ∨
    s.ReadAnswered input r ∨ input = .lowerLayerDown ∨
    ∃ q, s.received input = some q ∧ q.header.function ≠ .CONFIRM

/-- **The condition**: while a READ is in the slot, no confirm arrives during a transmission. -/
def KeepsReads (s : OContext) (input : Input) : Prop :=
  ∀ r, s.deferred = some r → r.header.function = .READ → r.header.control.UNS = false →
    s.isTransmitting = true → ∀ q, s.received input = some q → q.header.function ≠ .CONFIRM

/-- The tasks are checked with the READ still in the slot. -/
theorem served_of_reacts {env : Env} (hok : DeferredOk s) (hreacts : Reacts s input env t)
    (hstep : s.step input = t.checkForTaskStart env) (hs : s.deferred = some r)
    (ht : t.deferred = some r) (hread : r.header.function = .READ)
    (huns : r.header.control.UNS = false) :
    ((s.step input).deferred = some r ∧
      ¬ ((s.step input).state = .Idle ∧ (s.step input).canTransmit = true)) ∨
    s.ReadAnswered input r := by
  rcases served_checkForTaskStart env (reacted_of_reacts hok hreacts).known ht hread huns with
    ⟨hsame, hwaiting⟩ | ⟨u, htransmits, hhistory, hanswered⟩
  · left
    rw [hstep, hsame]
    exact ⟨ht, hwaiting⟩
  · right
    have hsends := sends_of_transmits htransmits
    -- before the answer nothing was sent, for the outstation was free
    have hsilent : Silent s.station t.station := by
      have hsofar := sentSoFar_effects
        ((reacted_of_reacts hok hreacts).moves.lift id fun _ _ => effect_of_move)
      cases hsofar with
      | nothing h => exact h
      | fragment u' v uns destination _ _ h hv =>
        exfalso
        obtain ⟨deferred, rfl⟩ := eq_setDeferred hv
        have hbusy := (sends_of_transmits h).busy
        rcases free_of_transmits htransmits with hfree | ⟨rfl, -, hretries⟩
        · exact absurd (hbusy.symm.trans hfree) Bool.noConfusion
        · cases input with
          | confirmTimeout => exact absurd (hs.symm.trans hretries.2.2.2.2) (by simp)
          | _ => exact hretries
    constructor
    · rw [hstep, hanswered]
      exact hhistory
    · rw [sent_of_sends hsilent hsends (by rw [hstep, hanswered]; rfl), hstep, hanswered]
      rfl

/-- What a message that is no newer request does to the slot: nothing, unless it is a confirm that
    arrives during a transmission. -/
theorem deferred_processMessage {message : Message} {env later : Env}
    (honline : s.isOnline = true)
    (hnewer : ∀ q, s.received (.receive message env later) = some q →
      q.header.function = .CONFIRM ∧ s.isTransmitting = false) :
    (s.processMessage env message).deferred = s.deferred := by
  have hreceives := receives_processMessage honline message env later
  obtain ⟨b, hb, -⟩ := s.updateLastBroadcastMessageReceived_eq message.addresses.destination
  generalize s.processMessage env message = t at hreceives
  cases hreceives with
  | dropped | noAck => rfl
  | flag | broadcast =>
    rw [hb]
    rfl
  | defer q hq hbusy =>
    exact absurd (hbusy.symm.trans (hnewer q hq).2) Bool.noConfusion
  | confirm q => exact deferred_processConfirm env q s
  | request q hq _ _ hconfirm => exact absurd (hnewer q hq).1 hconfirm

/-- **A step serves the READ in the slot** if it meets the condition. -/
theorem served_step (hok : DeferredOk s) (hstuck : NotStuck s) (hkeeps : KeepsReads s input) :
    ReadsServed s input := by
  intro r hr hread huns
  by_cases hnewer : ∃ q, s.received input = some q ∧ q.header.function ≠ .CONFIRM
  · exact .inr (.inr (.inr hnewer))
  have hsteps := steps_step s input
  generalize hstep : s.step input = s' at hsteps
  cases hsteps with
  | same | restartIIN => exact .inl ⟨hr, hstuck r hr hread⟩
  | down hinput => exact .inr (.inr (.inl hinput))
  | tasks t env hreacts =>
    -- every reaction leaves the READ where it is
    have ht : t.deferred = some r := by
      cases hreacts with
      | online | ready | updates => exact hr
      | message message env later honline =>
        rw [deferred_processMessage honline]
        · exact hr
        · intro q hq
          have hconfirm : q.header.function = .CONFIRM := by
            by_contra hnot
            exact hnewer ⟨q, hq, hnot⟩
          refine ⟨hconfirm, Bool.eq_false_iff.mpr fun hbusy => ?_⟩
          exact hkeeps r hr hread huns hbusy q hq hconfirm
      | timeout =>
        rw [deferred_timeout (timesOut_onConfirmTimeout s)]
        exact hr
    rcases served_of_reacts hok hreacts hstep hr ht hread huns with hstays | hanswered
    · rw [hstep] at hstays
      exact .inl hstays
    · exact .inr (.inl hanswered)

/-- **A confirm that arrives during a transmission drives the READ out of the slot.** -/
theorem step_confirm_of_busy {q : ParsedRequest} (hs : Sound s) (hbusy : s.isTransmitting = true)
    (hq : s.received input = some q) (hconfirm : q.header.function = .CONFIRM) :
    s.step input = s.setDeferred (some q) := by
  cases input with
  | receive message env later =>
    have honline := hs.online hbusy
    unfold received at hq
    dsimp only at hq
    split at hq
    · rename_i haccepted
      simp only [Bool.and_eq_true, Bool.not_eq_true'] at haccepted
      have hprocess : s.processMessage env message = s.setDeferred (some q) := by
        unfold processMessage
        rw [haccepted.1.2, if_pos rfl, haccepted.2, if_neg Bool.false_ne_true, hq]
        dsimp only
        unfold processObjects
        rw [addresses_parseRequest hq, haccepted.2, if_neg Bool.false_ne_true, hconfirm, hbusy]
        rfl
      unfold step
      dsimp only
      rw [honline, if_pos rfl, hprocess]
      exact checkForTaskStart_of_busy _ (canTransmit_of_busy hbusy)
    · cases hq
  | _ => cases hq

theorem not_served_of_confirm {q : ParsedRequest} (hs : Sound s) (hr : s.deferred = some r)
    (hread : r.header.function = .READ) (huns : r.header.control.UNS = false)
    (hbusy : s.isTransmitting = true) (hq : s.received input = some q)
    (hconfirm : q.header.function = .CONFIRM) : ¬ ReadsServed s input := by
  have hstep := step_confirm_of_busy hs hbusy hq hconfirm
  intro hserved
  rcases hserved r hr hread huns with ⟨hstays, -⟩ | ⟨-, hsent⟩ | hdown | ⟨q', hq', hnot⟩
  · -- the slot holds the confirm now
    rw [hstep] at hstays
    cases hstays
    rw [hread] at hconfirm
    cases hconfirm
  · have hsilent : Silent s.station (s.step input).station := by
      rw [hstep]
      exact .refl _
    rw [sent_of_silent hsilent] at hsent
    cases hsent
  · subst hdown
    cases hq
  · rw [hq] at hq'
    cases hq'
    exact hnot hconfirm

/-- **When the tasks have been checked, no READ is stuck.** -/
theorem notStuck_checkForTaskStart (env : Env) (t : OContext) :
    NotStuck (t.checkForTaskStart env) := by
  intro r hr hread
  obtain ⟨hdeferred, hcan | ⟨-, hstate⟩⟩ := deferred_checkForTaskStart env hr
  · rw [checkForTaskStart_of_busy env hcan]
    rintro ⟨-, h⟩
    exact absurd (h.symm.trans hcan) Bool.noConfusion
  · have hsame : t.checkForTaskStart env = t := by
      apply checkForTaskStart_of_waiting env hstate
      intro q hq
      rw [hdeferred] at hq
      cases hq
      exact hread
    rw [hsame]
    exact fun h => hstate h.1

theorem notStuck_step (hstuck : NotStuck s) (input : Input) : NotStuck (s.step input) := by
  have hsteps := steps_step s input
  generalize s.step input = s' at hsteps
  cases hsteps with
  | same | restartIIN => exact hstuck
  | down => exact fun r hr => by cases hr
  | tasks t env => exact notStuck_checkForTaskStart env t

/-- **A step serves READs exactly if no confirm drives them out of the slot.** -/
theorem readsServed_iff (hs : Sound s) (hstuck : NotStuck s) (input : Input) :
    ReadsServed s input ↔ KeepsReads s input := by
  constructor
  · intro hserved r hr hread huns hbusy q hq hconfirm
    exact not_served_of_confirm hs hr hread huns hbusy hq hconfirm hserved
  · exact served_step hs.deferred hstuck

end OContext

open OContext

/-- **Deferred READs are served** exactly in those runs in which no confirm arrives during a
    transmission while a READ is in the slot. -/
theorem reads_served (addresses : Addresses) (params : OutstationParams)
    (numUnsolRetries : Option Nat) (unsolClassMask : ClassField) (config : EventBufferConfig)
    (database : Database) (inputs : List Input) :
    Along OContext.step ReadsServed
        (.init addresses params numUnsolRetries unsolClassMask config database) inputs ↔
      Along OContext.step KeepsReads
        (.init addresses params numUnsolRetries unsolClassMask config database) inputs := by
  apply along_iff_along (P := fun s => Sound s ∧ NotStuck s)
  · rintro s input ⟨hs, hstuck⟩
    exact ⟨hs.step input, notStuck_step hstuck input⟩
  · rintro s input ⟨hs, hstuck⟩
    exact readsServed_iff hs hstuck input
  · refine ⟨sound_init .., ?_⟩
    intro r hr
    cases hr

/-- While the answer to a request is being transmitted, a READ of class 0 arrives. -/
def readDuringTransmission : List Input :=
  [.lowerLayerUp (Sample.env 0), Sample.request 0xC0 23 [] 10, Sample.request 0xC1 1 [60, 1, 6] 20]

/-- **A confirm makes the outstation forget the READ.**  The READ is in the slot; after a confirm
    and the end of the transmission the outstation is idle and free, the slot is empty, and no
    answer to the READ was sent. -/
theorem read_forgotten :
    let s := run OContext.step (Sample.outstation 1 1 249 false) readDuringTransmission
    let confirm := Sample.request 0xC0 0 [] 30
    let s' := (s.step confirm).step (.txReady (Sample.env 40))
    ¬ ReadsServed s confirm ∧
      s.deferred.map (·.header.function) = some .READ ∧ s'.deferred = none ∧ s'.state = .Idle ∧
      s'.canTransmit = true ∧ s.sent confirm = [] ∧
      (s.step confirm).sent (.txReady (Sample.env 40)) = [] := by
  refine ⟨fun h => ?_, by decide +kernel⟩
  have hr : (run OContext.step (Sample.outstation 1 1 249 false) readDuringTransmission).deferred =
      some ⟨⟨1, 10⟩, ⟨.ofByte 0xC1, .READ⟩, [60, 1, 6]⟩ := by
    decide +kernel
  rcases h _ hr rfl (by decide) with ⟨hstays, -⟩ | ⟨-, hsent⟩ | hdown | ⟨q, hq, hnot⟩
  · revert hstays
    decide +kernel
  · revert hsent
    decide +kernel
  · cases hdown
  · have hconfirm : (run OContext.step (Sample.outstation 1 1 249 false)
        readDuringTransmission).received (Sample.request 0xC0 0 [] 30) =
          some ⟨⟨1, 10⟩, ⟨.ofByte 0xC0, .CONFIRM⟩, []⟩ := by
      decide +kernel
    rw [hconfirm] at hq
    cases hq
    exact hnot rfl

end OpenDnp3.Outstation
