import OpenDnp3.Link.LinkContext

/-!
# The secondary station answers

The secondary state machine waits in a `TransmitWait` state while one of its frames is in
flight or pending, and ignores requests meanwhile.  Here: in which runs it waits *exactly*
then, so that a station with nothing to transmit answers.

What is in flight is read off the channel, not off the station's own variable `txMode`: the two
part when the layer goes down and the channel still has frames, whose completions the station
then takes for those of later frames.

The primary station shares the channel with the secondary one.  `PriOnly c c'` says once
what anything on the primary side can do to the part of the context that matters to the
secondary side; all entry points but the secondary handlers are of that kind.
-/

namespace OpenDnp3.Link.LinkContext

open Lib
open Transport (Message)

/-- The number of frames of the secondary station that the channel has and has not completed. -/
def secInFlight (c : LinkContext) : Nat := c.channel.countP (!·.primary)

/-- A frame of the secondary station is in flight or pending. -/
def SecBusy (c : LinkContext) : Prop :=
  0 < c.secInFlight ∨ c.pendingSecTx.isSome = true

instance (c : LinkContext) : Decidable c.SecBusy := inferInstanceAs (Decidable (_ ∨ _))

/-- The secondary state machine waits exactly while a frame of its own is on its way. -/
def SecSettled (c : LinkContext) : Prop :=
  c.pSecState.isTransmitWait = true ↔ c.SecBusy

instance (c : LinkContext) : Decidable c.SecSettled := inferInstanceAs (Decidable (_ ↔ _))

/-! ## What the primary side can do -/

/-- The context `c'` comes from `c` by work of the primary side only. -/
structure PriOnly (c c' : LinkContext) : Prop where
  secState : c'.pSecState = c.pSecState
  config : c'.config = c.config
  pendingSec : c'.pendingSecTx = c.pendingSecTx
  txMode : c'.txMode = c.txMode ∨ (c.txMode = .Idle ∧ c'.txMode = .Primary ∧ c'.channel ≠ [])
  pendingPri : c'.pendingPriTx = c.pendingPriTx ∨ c'.txMode ≠ .Idle
  channel : c.channel <+: c'.channel
  inFlight : c'.secInFlight = c.secInFlight
  log : c.log <+: c'.log

namespace PriOnly

variable (c : LinkContext)

theorem refl : PriOnly c c where
  secState := rfl
  config := rfl
  pendingSec := rfl
  txMode := .inl rfl
  pendingPri := .inl rfl
  channel := List.prefix_rfl
  inFlight := rfl
  log := List.prefix_rfl

theorem trans {a b c : LinkContext} (hab : PriOnly a b) (hbc : PriOnly b c) : PriOnly a c where
  secState := hbc.secState.trans hab.secState
  config := hbc.config.trans hab.config
  pendingSec := hbc.pendingSec.trans hab.pendingSec
  -- a mode that was set stays set, and the frame is still in the channel
  txMode := by
    rcases hbc.txMode with h | ⟨hidle, hpri, hch⟩
    · rcases hab.txMode with h' | ⟨hidle', hpri', hch'⟩
      · exact .inl (h.trans h')
      · refine .inr ⟨hidle', h.trans hpri', ?_⟩
        intro hnil
        have hpre := hbc.channel
        rw [hnil, List.prefix_nil] at hpre
        exact hch' hpre
    · rcases hab.txMode with h' | ⟨-, hpri', -⟩
      · exact .inr ⟨h'.symm.trans hidle, hpri, hch⟩
      · rw [hpri'] at hidle
        cases hidle
  pendingPri := by
    rcases hbc.pendingPri with h | h
    · rcases hab.pendingPri with h' | h'
      · exact .inl (h.trans h')
      · -- the primary side does not end a transmission
        refine .inr ?_
        rcases hbc.txMode with heq | ⟨-, hpri, -⟩
        · rw [heq]
          exact h'
        · simp [hpri]
    · exact .inr h
  channel := hab.channel.trans hbc.channel
  inFlight := hbc.inFlight.trans hab.inFlight
  log := hab.log.trans hbc.log

/-- Anything that leaves transmissions and the secondary side alone. -/
theorem of_eq {c c' : LinkContext} (hsec : c'.pSecState = c.pSecState)
    (hconfig : c'.config = c.config) (hps : c'.pendingSecTx = c.pendingSecTx)
    (htx : c'.txMode = c.txMode) (hpp : c'.pendingPriTx = c.pendingPriTx)
    (hch : c'.channel = c.channel) (hlog : c.log <+: c'.log) : PriOnly c c' :=
  ⟨hsec, hconfig, hps, .inl htx, .inl hpp, hch ▸ List.prefix_rfl, by rw [secInFlight, hch]; rfl,
    hlog⟩

theorem emit (a : Action) : PriOnly c (c.emit a) :=
  of_eq rfl rfl rfl rfl rfl rfl (List.prefix_append _ _)

theorem setPri (state : PriState) : PriOnly c (c.setPri state) :=
  of_eq rfl rfl rfl rfl rfl rfl List.prefix_rfl

theorem setSegments (segments : Option Segments) : PriOnly c (c.setSegments segments) :=
  of_eq rfl rfl rfl rfl rfl rfl List.prefix_rfl

theorem setKeepAlive (timeout : Bool) : PriOnly c (c.setKeepAlive timeout) :=
  of_eq rfl rfl rfl rfl rfl rfl List.prefix_rfl

theorem setCallback (callback : Option Nat) : PriOnly c (c.setCallback callback) :=
  of_eq rfl rfl rfl rfl rfl rfl List.prefix_rfl

theorem startResponseTimer : PriOnly c c.startResponseTimer :=
  of_eq rfl rfl rfl rfl rfl rfl List.prefix_rfl

theorem cancelTimer : PriOnly c c.cancelTimer :=
  of_eq rfl rfl rfl rfl rfl rfl List.prefix_rfl

theorem restartKeepAliveTimer (now : Int) : PriOnly c (c.restartKeepAliveTimer now) :=
  of_eq rfl rfl rfl rfl rfl rfl List.prefix_rfl

theorem toggleReadFCB : PriOnly c c.toggleReadFCB :=
  of_eq rfl rfl rfl rfl rfl rfl List.prefix_rfl

theorem queuePri (frame : List UInt8) : PriOnly c (c.queuePri frame) := by
  have hformat : PriOnly c (c.formatPri frame) :=
    of_eq rfl rfl rfl rfl rfl rfl (List.prefix_append _ _)
  refine hformat.trans ?_
  simp only [LinkContext.queuePri, queueTransmit, ↓reduceIte]
  split
  · next hidle =>
    refine ⟨rfl, rfl, rfl, .inr ⟨hidle, rfl, ?_⟩, .inl rfl, List.prefix_append _ _,
      List.countP_append, List.prefix_append _ _⟩
    exact List.concat_ne_nil _ _
  · next hbusy =>
    exact ⟨rfl, rfl, rfl, .inl rfl, .inr hbusy, List.prefix_rfl, rfl, List.prefix_rfl⟩

theorem trySendRequestLinkStatus : PriOnly c c.trySendRequestLinkStatus := by
  rw [LinkContext.trySendRequestLinkStatus]
  split
  · exact (setKeepAlive c false).trans ((queuePri _ _).trans ((emit _ _).trans
      ((startResponseTimer _).trans (setPri _ _))))
  · exact refl c

theorem trySendUnconfirmed (segments : Segments) : PriOnly c (c.trySendUnconfirmed segments) := by
  rw [LinkContext.trySendUnconfirmed]
  split
  · exact (queuePri c _).trans (setPri _ _)
  · exact refl c

theorem tryStartTransmission : PriOnly c c.tryStartTransmission := by
  have hrequest : PriOnly c (if c.keepAliveTimeout then c.trySendRequestLinkStatus else c) := by
    split
    · exact trySendRequestLinkStatus c
    · exact refl c
  rw [LinkContext.tryStartTransmission]
  split
  · exact hrequest.trans (trySendUnconfirmed _ _)
  · exact hrequest

theorem priOnTxReady : PriOnly c c.priOnTxReady := by
  rw [LinkContext.priOnTxReady]
  split
  · refine (emit c .advance).trans ?_
    split
    · exact (setSegments _ _).trans (queuePri _ _)
    · exact (setSegments _ _).trans ((emit _ _).trans (setPri _ _))
  · exact refl c

theorem invokeCallback (result : Bool) : PriOnly c (c.invokeCallback result) := by
  rw [LinkContext.invokeCallback]
  split
  · exact (setCallback c none).trans (emit _ _)
  · exact refl c

theorem failKeepAlive (timeout : Bool) : PriOnly c (c.failKeepAlive timeout) := by
  rw [LinkContext.failKeepAlive]
  refine PriOnly.trans ?_ (invokeCallback _ _)
  split
  · exact emit c _
  · exact refl c

theorem priOnRefusal : PriOnly c c.priOnRefusal := by
  rw [LinkContext.priOnRefusal]
  split
  · exact (cancelTimer c).trans ((failKeepAlive _ false).trans (setPri _ _))
  · exact refl c

theorem priOnLinkStatus : PriOnly c c.priOnLinkStatus := by
  rw [LinkContext.priOnLinkStatus]
  split
  · exact (cancelTimer c).trans ((emit _ _).trans ((invokeCallback _ true).trans (setPri _ _)))
  · exact refl c

theorem priOnTimeout : PriOnly c c.priOnTimeout := by
  rw [LinkContext.priOnTimeout]
  split
  · exact (failKeepAlive c true).trans (setPri _ _)
  · exact refl c

theorem send (segments : Segments) : PriOnly c (c.send segments) := by
  rw [LinkContext.send]
  split
  · split
    · exact refl c
    · exact (setSegments c _).trans ((emit _ _).trans (tryStartTransmission _))
  · exact refl c

theorem sends (c : LinkContext) (sends : List Segments) :
    PriOnly c (sends.foldl LinkContext.send c) := by
  induction sends generalizing c with
  | nil => exact refl c
  | cons segments rest ih => exact (send c segments).trans (ih _)

theorem pushDataUp (message : Message) (sends : List Segments) :
    PriOnly c (c.pushDataUp message sends) :=
  (emit c _).trans (PriOnly.sends _ sends)

theorem rejectFrame (header : LinkHeaderFields) : PriOnly c (c.rejectFrame header) := by
  rw [LinkContext.rejectFrame]
  split_ifs
  · exact refl c
  · exact emit c _
  · exact emit c _
  · exact refl c

end PriOnly

/-! ## The transmit mode -/

/-- Nothing is pending while the station takes the channel to be free, a secondary frame waits
    for a primary one only, and the secondary frame that `txMode` speaks of is the only one in
    flight. -/
structure TxOrdered (c : LinkContext) : Prop where
  pendingSec : c.pendingSecTx.isSome = true → c.txMode = .Primary
  pendingPri : c.pendingPriTx.isSome = true → c.txMode ≠ .Idle
  channel : c.txMode ≠ .Idle → c.channel ≠ []
  inFlight : c.secInFlight = if c.txMode = .Secondary then 1 else 0

/-- What the steps that do no harm keep. -/
structure Sound (c : LinkContext) : Prop extends c.TxOrdered where
  settled : c.SecSettled

variable (config : LinkLayerConfig) (now : Int)

theorem sound_create : (create config now).Sound where
  pendingSec h := by cases h
  pendingPri h := by cases h
  channel h := absurd rfl h
  inFlight := rfl
  settled := by
    refine ⟨fun h => (by cases h), ?_⟩
    rintro (h | h) <;> cases h

section Ordered

variable {c c' : LinkContext}

/-- While the order is kept, `txMode` tells what is in flight. -/
theorem TxOrdered.secBusy_iff (h : c.TxOrdered) :
    c.SecBusy ↔ c.txMode = .Secondary ∨ c.pendingSecTx.isSome = true := by
  rw [SecBusy, h.inFlight]
  split <;> next hmode => simp [hmode]

theorem PriOnly.secBusy_iff (h : PriOnly c c') : c'.SecBusy ↔ c.SecBusy := by
  simp only [SecBusy, h.inFlight, h.pendingSec]

theorem PriOnly.secSettled_iff (h : PriOnly c c') : c'.SecSettled ↔ c.SecSettled := by
  simp only [SecSettled, h.secState, h.secBusy_iff]

theorem PriOnly.txOrdered (h : PriOnly c c') (hc : c.TxOrdered) : c'.TxOrdered where
  pendingSec hp := by
    rw [h.pendingSec] at hp
    rcases h.txMode with heq | ⟨-, hpri, -⟩
    · exact heq.trans (hc.pendingSec hp)
    · exact hpri
  pendingPri hp := by
    rcases h.pendingPri with heq | hne
    · rw [heq] at hp
      rcases h.txMode with heq' | ⟨-, hpri, -⟩
      · rw [heq']
        exact hc.pendingPri hp
      · simp [hpri]
    · exact hne
  -- the channel only grows on the primary side
  channel hne := by
    rcases h.txMode with heq | ⟨-, -, hch⟩
    · rw [heq] at hne
      intro hnil
      have hpre := h.channel
      rw [hnil, List.prefix_nil] at hpre
      exact hc.channel hne hpre
    · exact hch
  inFlight := by
    rw [h.inFlight, hc.inFlight]
    rcases h.txMode with heq | ⟨hidle, hpri, -⟩
    · rw [heq]
    · rw [hidle, hpri]
      rfl

theorem PriOnly.sound (h : PriOnly c c') (hc : c.Sound) : c'.Sound where
  toTxOrdered := h.txOrdered hc.toTxOrdered
  settled := h.secSettled_iff.mpr hc.settled

/-- A free secondary station gets its frame transmitted or at least queued. -/
theorem queueSec_spec (hc : c.TxOrdered) (hfree : ¬ c.SecBusy) (frame : List UInt8) :
    (c.queueSec frame).TxOrdered ∧ (c.queueSec frame).SecBusy := by
  have hmode : c.txMode ≠ .Secondary := fun h => hfree (hc.secBusy_iff.mpr (.inl h))
  have hnone : c.secInFlight = 0 := by rw [hc.inFlight, if_neg hmode]
  simp only [queueSec, queueTransmit, Bool.false_eq_true, ↓reduceIte]
  split
  · next hidle =>
    have hone : secInFlight (((c.formatSec frame).setTxMode .Secondary).beginTransmit false
        frame.length) = 1 :=
      List.countP_append.trans (congrArg (· + 1) hnone)
    refine ⟨⟨fun h => absurd (.inr h) hfree, ?_, ?_, hone⟩, .inl (hone ▸ Nat.one_pos)⟩
    · intro _
      exact LinkTransmitMode.noConfusion
    · intro _
      exact List.concat_ne_nil _ _
  · next hbusy =>
    have hpri : c.txMode = .Primary := by
      cases hm : c.txMode with
      | Idle => exact absurd hm hbusy
      | Primary => rfl
      | Secondary => exact absurd hm hmode
    exact ⟨⟨fun _ => hpri, hc.pendingPri, hc.channel, hc.inFlight⟩, .inr rfl⟩

/-! ## The secondary handlers -/

/-- A secondary handler either ignores the frame, or queues an answer and then waits. -/
inductive Answers (c : LinkContext) : LinkContext → Prop where
  | ignored : Answers c c
  | queued (frame : List UInt8) {d : LinkContext} (state : SecState)
      (hready : c.pSecState.isTransmitWait = false) (hpri : PriOnly (c.queueSec frame) d)
      (hwait : state.isTransmitWait = true) : Answers c (d.setSec state)

theorem Answers.sound (h : Answers c c') (hc : c.Sound) : c'.Sound := by
  cases h with
  | ignored => exact hc
  | queued frame state hready hpri hwait =>
    have hfree : ¬ c.SecBusy := by
      intro hbusy
      rw [hc.settled.mpr hbusy] at hready
      cases hready
    obtain ⟨hq, hbusy⟩ := queueSec_spec hc.toTxOrdered hfree frame
    have hqd := hpri.txOrdered hq
    have hbusy' := hpri.secBusy_iff.mpr hbusy
    exact ⟨⟨hqd.pendingSec, hqd.pendingPri, hqd.channel, hqd.inFlight⟩,
      ⟨fun _ => hbusy', fun _ => hwait⟩⟩

theorem answers_onTestLinkStatus (c : LinkContext) (source : UInt16) (fcb : Bool) :
    Answers c (c.onTestLinkStatus source fcb) := by
  rw [onTestLinkStatus]
  split
  · next hstate =>
    split
    · refine .queued _ _ ?_ (.toggleReadFCB _) rfl
      rw [hstate]
      rfl
    · exact .ignored
  · exact .ignored

theorem answers_onResetLinkStates (c : LinkContext) (source : UInt16) :
    Answers c (c.onResetLinkStates source) := by
  rw [onResetLinkStates]
  have hreset : ∀ d : LinkContext, PriOnly d d.resetReadFCB := fun d =>
    .of_eq rfl rfl rfl rfl rfl rfl List.prefix_rfl
  split
  · next hstate => exact .queued _ _ (by rw [hstate]; rfl) (hreset _) rfl
  · next hstate => exact .queued _ _ (by rw [hstate]; rfl) (hreset _) rfl
  · exact .ignored

theorem answers_onRequestLinkStatus (c : LinkContext) (source : UInt16) :
    Answers c (c.onRequestLinkStatus source) := by
  rw [onRequestLinkStatus]
  split
  · next hstate => exact .queued _ _ (by rw [hstate]; rfl) (.refl _) rfl
  · next hstate => exact .queued _ _ (by rw [hstate]; rfl) (.refl _) rfl
  · exact .ignored

/-- Delivering confirmed user data to the layer above is work of the primary side. -/
private theorem priOnly_deliver (c : LinkContext) (fcb : Bool) (message : Message)
    (sends : List Segments) :
    PriOnly c (if c.nextReadFCB = fcb then c.toggleReadFCB.pushDataUp message sends else c) := by
  split
  · exact (PriOnly.toggleReadFCB c).trans (.pushDataUp _ _ _)
  · exact .refl c

theorem answers_onConfirmedUserData (c : LinkContext) (source : UInt16) (fcb : Bool)
    (message : Message) (sends : List Segments) :
    Answers c (c.onConfirmedUserData source fcb false message sends) := by
  rw [onConfirmedUserData]
  split
  · next hstate =>
    exact .queued _ _ (by rw [hstate]; rfl) (priOnly_deliver (c.queueAck source) _ _ _) rfl
  · exact .ignored

/-- Confirmed user data sent as a broadcast: the reset station waits, but for nothing. -/
theorem onConfirmedUserData_broadcast (hc : c.Sound) (hstate : c.pSecState = .SLLS_Reset)
    (source : UInt16) (fcb : Bool) (message : Message) (sends : List Segments) :
    ¬ (c.onConfirmedUserData source fcb true message sends).SecSettled := by
  have hpri := priOnly_deliver c fcb message sends
  have hfree : ¬ c.SecBusy := by
    intro hbusy
    have hwait := hc.settled.mpr hbusy
    rw [hstate] at hwait
    cases hwait
  simp only [onConfirmedUserData, hstate, ↓reduceIte]
  intro hsettled
  exact hfree (hpri.secBusy_iff.mp (hsettled.mp rfl))

end Ordered

/-! ## One step -/

/-- The inputs after which the station no longer waits exactly while it is busy. -/
def Unsettles (c : LinkContext) : Input → Prop
  -- confirmed user data sent as a broadcast, accepted while the secondary station is reset
  | .onFrame _ header _ _ =>
    c.acceptsFrame header = true ∧ header.func = .PRI_CONFIRMED_USER_DATA ∧
      header.addresses.isBroadcast = true ∧ c.pSecState = .SLLS_Reset
  -- a primary frame is completed while a secondary one is in flight: the channel has kept the
  -- primary one from before the layer went down
  | .onTxReady => c.channel.head?.any (·.primary) = true ∧ 0 < c.secInFlight
  -- the layer goes down, and the channel keeps a secondary frame
  | .onLowerLayerDown dropped => c.isOnline = true ∧ dropped = false ∧ 0 < c.secInFlight
  | _ => False

instance (c : LinkContext) : ∀ i : Input, Decidable (c.Unsettles i)
  | .onFrame _ _ _ _ => inferInstanceAs (Decidable (_ ∧ _ ∧ _ ∧ _))
  | .onTxReady => inferInstanceAs (Decidable (_ ∧ _))
  | .onLowerLayerDown _ => inferInstanceAs (Decidable (_ ∧ _ ∧ _))
  | .send _ | .onResponseTimeout | .onKeepAliveTimeout _ | .checkLinkStatus _
  | .onLowerLayerUp _ _ => .isFalse id

/-- What a step from a sound context leads to. -/
structure SecStepOk (c' : LinkContext) (bad : Prop) : Prop where
  sound : ¬ bad → c'.Sound
  unsettled : bad → ¬ c'.SecSettled

section Step

variable {c c' : LinkContext}

/-- A step that keeps the context sound, with an exception that does not occur. -/
theorem SecStepOk.of_not {bad : Prop} (h : c'.Sound) (hbad : ¬ bad) : SecStepOk c' bad :=
  ⟨fun _ => h, fun hb => absurd hb hbad⟩

/-- Work of the primary side afterwards changes nothing. -/
theorem SecStepOk.priOnly {d : LinkContext} {bad : Prop} (h : SecStepOk d bad)
    (hd : PriOnly d c') : SecStepOk c' bad :=
  ⟨fun hb => hd.sound (h.sound hb), fun hb hs => h.unsettled hb (hd.secSettled_iff.mp hs)⟩

/-- Every frame but confirmed user data is work of the primary side or answered. -/
theorem dispatchFrame_other (hc : c.Sound) {header : LinkHeaderFields}
    (hne : header.func ≠ .PRI_CONFIRMED_USER_DATA) (userdata : List UInt8)
    (sends : List Segments) : (c.dispatchFrame header userdata sends).Sound := by
  rw [dispatchFrame]
  split
  · exact (PriOnly.priOnRefusal c).sound hc
  · exact (PriOnly.priOnRefusal c).sound hc
  · exact (PriOnly.priOnRefusal c).sound hc
  · exact (PriOnly.priOnLinkStatus c).sound hc
  · exact (answers_onTestLinkStatus c _ _).sound hc
  · exact (answers_onResetLinkStates c _).sound hc
  · exact (answers_onRequestLinkStatus c _).sound hc
  · next hfunc => exact absurd hfunc hne
  · exact (PriOnly.pushDataUp c _ _).sound hc
  · exact hc

theorem dispatchFrame_ok (hc : c.Sound) (header : LinkHeaderFields) (userdata : List UInt8)
    (sends : List Segments) :
    SecStepOk (c.dispatchFrame header userdata sends)
      (header.func = .PRI_CONFIRMED_USER_DATA ∧ header.addresses.isBroadcast = true ∧
        c.pSecState = .SLLS_Reset) := by
  by_cases hfunc : header.func = .PRI_CONFIRMED_USER_DATA
  · have hdispatch : c.dispatchFrame header userdata sends =
        c.onConfirmedUserData header.addresses.source header.fcb header.addresses.isBroadcast
          { addresses := header.addresses, payload := userdata } sends := by
      simp only [dispatchFrame, hfunc]
    rw [hdispatch]
    cases hb : header.addresses.isBroadcast with
    | false =>
      refine .of_not ((answers_onConfirmedUserData c _ _ _ sends).sound hc) ?_
      rintro ⟨-, h, -⟩
      cases h
    | true =>
      by_cases hstate : c.pSecState = .SLLS_Reset
      · exact ⟨fun h => absurd ⟨hfunc, rfl, hstate⟩ h,
          fun _ => onConfirmedUserData_broadcast hc hstate _ _ _ sends⟩
      · -- in every other state the frame is ignored
        have hignored : c.onConfirmedUserData header.addresses.source header.fcb true
            { addresses := header.addresses, payload := userdata } sends = c := by
          rw [onConfirmedUserData]
          split
          · next h => exact absurd h hstate
          · rfl
        rw [hignored]
        exact .of_not hc fun h => hstate h.2.2
  · exact .of_not (dispatchFrame_other hc hfunc userdata sends) fun h => hfunc h.1

theorem onFrame_ok (hc : c.Sound) (now : Int) (header : LinkHeaderFields)
    (userdata : List UInt8) (sends : List Segments) :
    SecStepOk (c.onFrame now header userdata sends)
      (c.Unsettles (.onFrame now header userdata sends)) := by
  rw [onFrame]
  split
  · next hacc =>
    have hpri := PriOnly.restartKeepAliveTimer c now
    have h := (dispatchFrame_ok (hpri.sound hc) header userdata sends).priOnly
      (.tryStartTransmission _)
    exact ⟨fun hb => h.sound fun hbad => hb ⟨hacc, hbad⟩, fun hb => h.unsettled hb.2⟩
  · next hacc => exact .of_not ((PriOnly.rejectFrame c header).sound hc) fun h => hacc h.1

/-! ## Completions -/

theorem PriOnly.tryPendingPriTx (c : LinkContext) : PriOnly c c.tryPendingPriTx := by
  rw [LinkContext.tryPendingPriTx]
  split
  · next hidle _ =>
    exact ⟨rfl, rfl, rfl, .inr ⟨hidle, rfl, List.concat_ne_nil _ _⟩,
      .inr LinkTransmitMode.noConfusion, List.prefix_append _ _, List.countP_append,
      List.prefix_append _ _⟩
  · exact .refl c

/-- With the channel taken to be free, pending frames are started, the secondary one first. -/
private theorem tryPending_spec (hidle : c.txMode = .Idle) :
    (c.secInFlight = 0 → c.tryPendingSecTx.tryPendingPriTx.TxOrdered) ∧
      c.tryPendingSecTx.tryPendingPriTx.pSecState = c.pSecState ∧
      (c.tryPendingSecTx.tryPendingPriTx.SecBusy ↔ c.SecBusy) := by
  cases hs : c.pendingSecTx with
  -- a pending answer goes first, and the primary station has to wait
  | some len =>
    rw [tryPendingSecTx_some hidle hs, tryPendingPriTx_busy LinkTransmitMode.noConfusion]
    have hcount : secInFlight (((c.beginTransmit false len).setPendingSec none).setTxMode
        .Secondary) = c.secInFlight + 1 := List.countP_append
    refine ⟨fun hnone => ⟨fun h => (by cases h), fun _ => LinkTransmitMode.noConfusion, ?_, ?_⟩,
      rfl, ?_⟩
    · exact fun _ => List.concat_ne_nil _ _
    · rw [hcount, hnone]
      rfl
    · exact ⟨fun _ => .inr (hs ▸ rfl), fun _ => .inl (hcount ▸ Nat.succ_pos _)⟩
  | none =>
    rw [tryPendingSecTx_none hs]
    have hpri := PriOnly.tryPendingPriTx c
    refine ⟨fun hnone => ?_, hpri.secState, hpri.secBusy_iff⟩
    have hps : ¬ c.pendingSecTx.isSome = true := by rw [hs]; exact Bool.false_ne_true
    cases hp : c.pendingPriTx with
    | some len =>
      rw [tryPendingPriTx_some hidle hp]
      exact ⟨fun h => absurd h hps, fun h => (by cases h), fun _ => List.concat_ne_nil _ _,
        List.countP_append.trans hnone⟩
    | none =>
      rw [tryPendingPriTx_none hp]
      refine ⟨fun h => absurd h hps, fun h => ?_, fun h => absurd hidle h, ?_⟩
      · rw [hp] at h
        cases h
      · rw [hnone, hidle]
        rfl

/-- When its frame is completed, the secondary station is ready again. -/
private theorem secOnTxReady_spec (c : LinkContext) :
    c.secOnTxReady.pSecState.isTransmitWait = false ∧
      (c.secOnTxReady.SecBusy ↔ c.SecBusy) ∧ (c.TxOrdered → c.secOnTxReady.TxOrdered) := by
  rw [secOnTxReady]
  split
  · exact ⟨rfl, Iff.rfl, fun h => ⟨h.pendingSec, h.pendingPri, h.channel, h.inFlight⟩⟩
  · exact ⟨rfl, Iff.rfl, fun h => ⟨h.pendingSec, h.pendingPri, h.channel, h.inFlight⟩⟩
  · next hnr hr =>
    refine ⟨?_, Iff.rfl, id⟩
    cases hs : c.pSecState with
    | SLLS_NotReset | SLLS_Reset => rfl
    | SLLS_TransmitWaitNotReset => exact absurd hs hnr
    | SLLS_TransmitWaitReset => exact absurd hs hr

/-- The frames in flight once the oldest one is completed. -/
private theorem secInFlight_cons {v : TxView} {rest : List TxView} (h : c.channel = v :: rest) :
    c.secInFlight = rest.countP (!·.primary) + if v.primary then 0 else 1 := by
  rw [secInFlight, h, List.countP_cons]
  cases v.primary <;> rfl

theorem onTxReady_ok (hc : c.Sound) {v : TxView} {rest : List TxView}
    (hchannel : c.channel = v :: rest) :
    SecStepOk ((c.setChannel rest).emit .complete).onTxReady (c.Unsettles .onTxReady) := by
  have hcount := secInFlight_cons hchannel
  have hhead : c.channel.head?.any (·.primary) = v.primary := by rw [hchannel]; rfl
  obtain ⟨hord, hsec, hbusy⟩ := tryPending_spec
    (c := ((c.setChannel rest).emit .complete).setTxMode .Idle) rfl
  have hbusy_iff : ((c.setChannel rest).emit .complete |>.setTxMode .Idle).SecBusy ↔
      0 < rest.countP (!·.primary) ∨ c.pendingSecTx.isSome = true := Iff.rfl
  by_cases hmode : c.txMode = .Secondary
  · -- the station takes the completion for that of its own frame, and no other one is pending
    have hmode' : ((c.setChannel rest).emit .complete).txMode = .Secondary := hmode
    have hone : c.secInFlight = 1 := by rw [hc.inFlight, if_pos hmode]
    have hpending : ¬ c.pendingSecTx.isSome = true := by
      intro h
      rw [hc.pendingSec h] at hmode
      cases hmode
    obtain ⟨hready, hbusy', hord'⟩ := secOnTxReady_spec (((c.setChannel rest).emit
      .complete).setTxMode .Idle).tryPendingSecTx.tryPendingPriTx
    rw [hbusy, hbusy_iff, or_iff_left hpending] at hbusy'
    simp only [onTxReady, hmode']
    cases hv : v.primary with
    | false =>
      have hrest : rest.countP (!·.primary) = 0 := by
        rw [hv, hone] at hcount
        simpa using hcount
      refine .of_not ((PriOnly.tryStartTransmission _).sound ⟨hord' (hord hrest), ?_⟩) ?_
      · rw [SecSettled, hbusy', hready, hrest]
        simp
      · rw [Unsettles, hhead, hv]
        simp
    | true =>
      -- an older frame was completed, and its own one is still in flight
      have hleft : 0 < rest.countP (!·.primary) := by
        rw [hv, hone] at hcount
        simpa using hcount.le
      refine ⟨fun h => absurd ⟨hhead.trans hv, hone ▸ Nat.one_pos⟩ h, fun _ hsettled => ?_⟩
      have hwait := ((PriOnly.tryStartTransmission _).secSettled_iff.mp hsettled).mpr
        (hbusy'.mpr hleft)
      rw [hready] at hwait
      cases hwait
  · have hnone : c.secInFlight = 0 := by rw [hc.inFlight, if_neg hmode]
    have hrest : rest.countP (!·.primary) = 0 := by omega
    have hsettled := hc.settled.trans (hc.secBusy_iff.trans (or_iff_right hmode))
    have hnot : ¬ c.Unsettles .onTxReady := by
      rintro ⟨-, h⟩
      exact absurd (hnone ▸ h) (Nat.lt_irrefl 0)
    rw [hrest, or_iff_right (Nat.lt_irrefl 0)] at hbusy_iff
    cases hmode' : c.txMode with
    | Secondary => exact absurd hmode' hmode
    | Idle =>
      -- nobody is waiting for this completion
      have hidle : ((c.setChannel rest).emit .complete).txMode = .Idle := hmode'
      simp only [onTxReady, hidle]
      refine .of_not ⟨⟨hc.pendingSec, hc.pendingPri, fun h => absurd hidle h, ?_⟩, ?_⟩ hnot
      · rw [hidle]
        exact hrest
      · exact hsettled.trans hbusy_iff.symm
    | Primary =>
      have hpri : ((c.setChannel rest).emit .complete).txMode = .Primary := hmode'
      simp only [onTxReady, hpri]
      have hpriOnly := (PriOnly.priOnTxReady (((c.setChannel rest).emit .complete).setTxMode
        .Idle).tryPendingSecTx.tryPendingPriTx).trans (.tryStartTransmission _)
      refine .of_not (hpriOnly.sound ⟨hord hrest, ?_⟩) hnot
      rw [SecSettled, hsec, hbusy, hbusy_iff]
      exact hsettled

/-! ## Every input -/

theorem step_ok (hc : c.Sound) (i : Input) : SecStepOk (c.step i) (c.Unsettles i) := by
  cases i with
  | send segments => exact .of_not ((PriOnly.send c segments).sound hc) id
  -- the secondary handlers run here and at the end of a transmission only
  | onFrame now header userdata sends => exact onFrame_ok hc now header userdata sends
  | onTxReady =>
    rw [step]
    split
    · next hnil =>
      refine .of_not hc ?_
      rintro ⟨h, -⟩
      rw [hnil] at h
      cases h
    · next v rest hchannel => exact onTxReady_ok hc hchannel
  -- everything up to the layer going down is the primary station's
  | onResponseTimeout =>
    refine .of_not ?_ id
    rw [step]
    split_ifs
    · exact ((PriOnly.cancelTimer c).trans ((PriOnly.priOnTimeout _).trans
        (.tryStartTransmission _))).sound hc
    · exact (PriOnly.cancelTimer c).sound hc
    · exact hc
  | onKeepAliveTimeout now =>
    refine .of_not ?_ id
    rw [step]
    split
    · refine PriOnly.sound (PriOnly.trans ?_ (.tryStartTransmission _)) hc
      refine PriOnly.trans ?_ (.restartKeepAliveTimer _ _)
      split
      · exact .setKeepAlive c true
      · exact .refl c
    · exact hc
  | checkLinkStatus callback =>
    refine .of_not ?_ id
    simp only [step, triggerLinkStatusCheck]
    split
    · exact ((PriOnly.setCallback c callback).trans
        ((PriOnly.setKeepAlive _ true).trans (.tryStartTransmission _))).sound hc
    · split
      · exact (PriOnly.emit c _).sound hc
      · exact hc
  | onLowerLayerUp now sends =>
    refine .of_not ?_ id
    rw [step, onLowerLayerUp]
    split
    · exact hc
    · refine PriOnly.sound (PriOnly.trans ?_ (PriOnly.sends _ sends)) hc
      exact .of_eq rfl rfl rfl rfl rfl rfl (List.prefix_append _ _)
  | onLowerLayerDown dropped =>
    rw [step, onLowerLayerDown]
    split
    · next honline =>
      refine ⟨fun hgood => ?_, ?_⟩
      · -- no secondary frame is left behind
        have hnone : List.countP (!·.primary) (if dropped then [] else c.channel) = 0 := by
          cases dropped with
          | true => rfl
          | false => exact Nat.eq_zero_of_not_pos fun h => hgood ⟨honline, rfl, h⟩
        refine ⟨⟨fun h => (by cases h), fun h => (by cases h), fun h => absurd rfl h, hnone⟩, ?_⟩
        refine ⟨fun h => (by cases h), ?_⟩
        rintro (h | h)
        · exact absurd (hnone ▸ h) (Nat.lt_irrefl 0)
        · cases h
      -- with a frame left behind the station is busy, but does not know it
      · rintro ⟨-, rfl, hleft⟩ hsettled
        exact Bool.false_ne_true (hsettled.mpr (.inl hleft))
    · next honline => exact .of_not hc fun h => honline h.1

end Step

/-! ## Runs -/

/-- The runs in which the station waits exactly while it is busy. -/
theorem always_secSettled_iff (inputs : List Input) :
    Always step SecSettled (create config now) inputs ↔
      Along step (fun c i => ¬ c.Unsettles i) (create config now) inputs := by
  have hsound := sound_create config now
  refine (always_and_iff (P := TxOrdered) ?_ hsound.toTxOrdered).trans
    (always_iff_along ?_ ⟨hsound.toTxOrdered, hsound.settled⟩)
  · intro c i hord hset hset'
    have h := step_ok ⟨hord, hset⟩ i
    exact (h.sound fun hbad => h.unsettled hbad hset').toTxOrdered
  · rintro c i ⟨hord, hset⟩
    have h := step_ok ⟨hord, hset⟩ i
    exact ⟨fun h' hbad => h.unsettled hbad h'.2,
      fun hgood => ⟨(h.sound hgood).toTxOrdered, (h.sound hgood).settled⟩⟩

/-- Runs without such an input stay sound. -/
theorem sound_run {inputs : List Input}
    (hok : Along step (fun c i => ¬ c.Unsettles i) (create config now) inputs) :
    (run step (create config now) inputs).Sound :=
  (always_of_step (P := Sound) (fun _ i hc hgood => (step_ok hc i).sound hgood)
    (sound_create config now) hok).last

/-! ## Answers -/

/-- The answer to a request about the link itself. -/
def answerTo (c : LinkContext) (header : LinkHeaderFields) : Option (List UInt8) :=
  match header.func with
  | .PRI_RESET_LINK_STATES => some (LinkFrame.formatAck c.config.IsMaster false
      header.addresses.source c.config.LocalAddr)
  | .PRI_REQUEST_LINK_STATUS => some (LinkFrame.formatLinkStatus c.config.IsMaster false
      header.addresses.source c.config.LocalAddr)
  | _ => none

/-- A frame from the configured remote to this station. -/
structure FromRemote (c : LinkContext) (header : LinkHeaderFields) : Prop where
  direction : header.isFromMaster ≠ c.config.IsMaster
  destination : header.addresses.destination = c.config.LocalAddr
  source : header.addresses.source = c.config.RemoteAddr
  notBroadcast : header.addresses.isBroadcast = false

section Answer

variable {c : LinkContext} {header : LinkHeaderFields}

theorem FromRemote.acceptsFrame (h : c.FromRemote header) (honline : c.isOnline = true) :
    c.acceptsFrame header = true := by
  simp only [LinkContext.acceptsFrame, honline, h.destination, h.source, h.notBroadcast,
    beq_self_eq_true, Bool.true_or, Bool.false_and, Bool.not_false, Bool.and_true, Bool.true_and,
    bne_iff_ne]
  exact h.direction

/-- With the channel free, a secondary frame is transmitted at once. -/
theorem queueSec_log (hidle : c.txMode = .Idle) (frame : List UInt8) :
    (c.queueSec frame).log = c.log ++ [.format false frame, .beginTransmit false frame] := by
  have htake : (writeAt c.secTxBuffer 0 frame).take frame.length = frame := by
    have h := take_add_writeAt frame (Nat.zero_le c.secTxBuffer.length)
    rwa [Nat.zero_add, List.take_zero, List.nil_append] at h
  have hmode : (c.formatSec frame).txMode = .Idle := hidle
  rw [queueSec, queueTransmit, if_pos hmode]
  simp [formatSec, setTxMode, beginTransmit, setChannel, emit, htake]

/-- A station that does not wait hands the answer to the channel. -/
theorem dispatchFrame_answers (hready : c.pSecState.isTransmitWait = false)
    (hidle : c.txMode = .Idle) {frame : List UInt8} (hanswer : c.answerTo header = some frame)
    (userdata : List UInt8) (sends : List Segments) :
    c.log ++ [.format false frame, .beginTransmit false frame] <+:
      (c.dispatchFrame header userdata sends).log := by
  rw [← queueSec_log hidle frame]
  rw [answerTo] at hanswer
  split at hanswer
  · next hfunc =>
    obtain rfl : _ = frame := Option.some.inj hanswer
    simp only [dispatchFrame, hfunc, onResetLinkStates]
    cases hs : c.pSecState with
    | SLLS_NotReset | SLLS_Reset => exact List.prefix_rfl
    | SLLS_TransmitWaitNotReset | SLLS_TransmitWaitReset => rw [hs] at hready; cases hready
  · next hfunc =>
    obtain rfl : _ = frame := Option.some.inj hanswer
    simp only [dispatchFrame, hfunc, onRequestLinkStatus]
    cases hs : c.pSecState with
    | SLLS_NotReset | SLLS_Reset => exact List.prefix_rfl
    | SLLS_TransmitWaitNotReset | SLLS_TransmitWaitReset => rw [hs] at hready; cases hready
  · cases hanswer

/-- A settled station with a free channel answers. -/
theorem onFrame_answers (hc : c.Sound) (honline : c.isOnline = true)
    (hquiet : c.channel = [] ∨ c.txMode = .Idle) (hremote : c.FromRemote header)
    {frame : List UInt8} (hanswer : c.answerTo header = some frame) (now : Int)
    (userdata : List UInt8) (sends : List Segments) :
    .beginTransmit false frame ∈
      (c.step (.onFrame now header userdata sends)).log.drop c.log.length := by
  -- a quiet channel means that no transmission is awaited
  have hidle : c.txMode = .Idle := by
    rcases hquiet with h | h
    · by_contra hne
      exact hc.channel hne h
    · exact h
  have hfree : ¬ c.SecBusy := by
    rw [hc.secBusy_iff]
    rintro (h | h)
    · rw [hidle] at h
      cases h
    · rw [hc.pendingSec h] at hidle
      cases hidle
  -- so the secondary station is in a state that answers
  have hready : c.pSecState.isTransmitWait = false := by
    rw [Bool.eq_false_iff]
    exact fun h => hfree (hc.settled.mp h)
  have hdispatch := dispatchFrame_answers (c := c.restartKeepAliveTimer now) hready hidle hanswer
    userdata sends
  have hlog := hdispatch.trans (PriOnly.tryStartTransmission _).log
  simp only [step, onFrame, hremote.acceptsFrame honline, ↓reduceIte]
  obtain ⟨rest, hrest⟩ := hlog
  rw [← hrest, List.append_assoc]
  change _ ∈ (c.log ++ _).drop c.log.length
  rw [List.drop_left]
  simp

end Answer

/-- **The secondary station waits exactly while it is busy** in precisely the runs without an
    input of `Unsettles`.  In these runs it answers requests about the link whenever nothing is
    being transmitted. -/
theorem secondary_station_settled (config : LinkLayerConfig) (now : Int) (inputs : List Input) :
    (Always step SecSettled (create config now) inputs ↔
      Along step (fun c i => ¬ c.Unsettles i) (create config now) inputs) ∧
    (Along step (fun c i => ¬ c.Unsettles i) (create config now) inputs →
      ∀ (now' : Int) (header : LinkHeaderFields) (frame userdata : List UInt8)
        (sends : List Segments),
        let c := run step (create config now) inputs
        c.isOnline = true → (c.channel = [] ∨ c.txMode = .Idle) → c.FromRemote header →
        c.answerTo header = some frame →
        .beginTransmit false frame ∈
          (c.step (.onFrame now' header userdata sends)).log.drop c.log.length) := by
  refine ⟨always_secSettled_iff config now inputs, ?_⟩
  intro hok now' header frame userdata sends c honline hquiet hremote hanswer
  exact onFrame_answers (sound_run config now hok) honline hquiet hremote hanswer now' userdata
    sends

/-- An outstation with address 1024 whose master has address 1. -/
def exampleConfig : LinkLayerConfig where
  IsMaster := false
  LocalAddr := 1024
  RemoteAddr := 1
  KeepAliveTimeout := 60000
  respondToAnySource := false

/-- A frame that the master sends. -/
def fromMaster (func : LinkFunction) (fcb fcv : Bool) (destination : UInt16) :
    LinkHeaderFields where
  func := func
  isFromMaster := true
  fcb := fcb
  fcvdfc := fcv
  addresses := { source := 1, destination := destination }

/-- The master resets the link, and again after the station has acknowledged that. -/
theorem secondary_station_settled_reset :
    let c := run step (create exampleConfig 0)
      [.onLowerLayerUp 0 [], .onFrame 0 (fromMaster .PRI_RESET_LINK_STATES false false 1024) [] [],
        .onTxReady]
    .beginTransmit false (LinkFrame.formatAck false false 1 1024) ∈
      (c.step (.onFrame 0 (fromMaster .PRI_RESET_LINK_STATES false false 1024) [] [])).log.drop
        c.log.length :=
  (secondary_station_settled exampleConfig 0 _).2 (by decide +kernel) 0 _ _ [] []
    (by decide +kernel) (by decide +kernel)
    ⟨by decide +kernel, by decide +kernel, by decide +kernel, by decide +kernel⟩
    (by decide +kernel)

/-- **A broadcast silences the secondary station**: after confirmed user data sent to all, the
    reset station waits although nothing is on its way, and a reset from the configured remote
    is not answered. -/
theorem secondary_station_silenced :
    let c := run step (create exampleConfig 0)
      [.onLowerLayerUp 0 [], .onFrame 0 (fromMaster .PRI_RESET_LINK_STATES false false 1024) [] [],
        .onTxReady, .onFrame 0 (fromMaster .PRI_CONFIRMED_USER_DATA true true 0xFFFF) [0xC0] []]
    ¬ c.SecSettled ∧ c.isOnline = true ∧ c.channel = [] ∧ c.txMode = .Idle ∧
      c.pSecState = .SLLS_TransmitWaitReset ∧
      (c.step (.onFrame 0 (fromMaster .PRI_RESET_LINK_STATES false false 1024) [] [])).log =
        c.log := by
  decide +kernel

end OpenDnp3.Link.LinkContext
