import OpenDnp3.Outstation.ConfirmWait
import OpenDnp3.Outstation.EventEncoding

/-!
# Unsolicited responses

After the lower layer has come up, the outstation first sends an unsolicited response without
objects, again and again until the master confirms it.  Only then do unsolicited responses carry
events, those of the classes that the master has enabled.  Every new response gets the next
sequence number; a repetition is the same bytes once more.

All of this is said of the log: what was handed to the lower layer, which confirms came in, and
when the lower layer went down.
-/

namespace OpenDnp3.Outstation

open App Lib
open Link (Addresses)

/-! ## Unsolicited fragments in the log -/

/-- The unsolicited fragment that an action hands to the lower layer. -/
def Action.unsolicited? : Action → Option (List UInt8)
  | .transmit _ fragment =>
    if (fragmentControl fragment).any (·.UNS) then some fragment else none
  | _ => none

/-- The last unsolicited fragment that was handed to the lower layer. -/
def lastUnsolicited (log : List Action) : Option (List UInt8) :=
  (log.filterMap Action.unsolicited?).getLast?

/-- Actions after which an older null response does not count any more. -/
def Action.renews : Action → Bool
  | .layerDown | .unsolicited .. => true
  | _ => false

/-- The last unsolicited response is a null response with this number: a fragment that is only a
    header. -/
def NullPending (seq : Fin 16) (log : List Action) : Prop :=
  ∃ past control destination fragment later,
    log = past ++ .unsolicited control [] :: .transmit destination fragment :: later ∧
      fragmentControl fragment = some control ∧ fragment.length ≤ 4 ∧ control.SEQ = seq ∧
      ∀ a ∈ later, a.renews = false

/-- **Since the lower layer came up, a null response was confirmed with its own number.** -/
def NullConfirmed (log : List Action) : Prop :=
  ∃ past seq later, log = past ++ .confirm true seq :: later ∧ NullPending seq past ∧
    .layerDown ∉ later

/-- Actions that have nothing to do with unsolicited responses. -/
def Action.isAside (a : Action) : Bool := !a.renews && a.unsolicited?.isNone

theorem Action.isAside_of_precedes {a : Action} (h : a.precedes false = true) :
    a.isAside = true := by
  cases a <;> first | rfl | cases h

section Log

variable {log actions : List Action} {seq : Fin 16}

theorem lastUnsolicited_aside (h : ∀ a ∈ actions, a.isAside = true) :
    lastUnsolicited (log ++ actions) = lastUnsolicited log := by
  have hnone : actions.filterMap Action.unsolicited? = [] := by
    rw [List.filterMap_eq_nil_iff]
    intro a ha
    have haside := h a ha
    simpa using (Bool.and_eq_true_iff.mp haside).2
  unfold lastUnsolicited
  rw [List.filterMap_append, hnone, List.append_nil]

theorem lastUnsolicited_transmit {destination : UInt16} {fragment : List UInt8}
    {control : AppControlField} (h : fragmentControl fragment = some control)
    (huns : control.UNS = true) :
    lastUnsolicited (log ++ [.transmit destination fragment]) = some fragment := by
  unfold lastUnsolicited
  simp [List.filterMap_append, Action.unsolicited?, h, huns]

theorem NullPending.append (h : NullPending seq log) (hactions : ∀ a ∈ actions, a.renews = false) :
    NullPending seq (log ++ actions) := by
  obtain ⟨past, control, destination, fragment, later, rfl, hcontrol, hlength, hseq, hlater⟩ := h
  refine ⟨past, control, destination, fragment, later ++ actions, by simp, hcontrol, hlength, hseq,
    ?_⟩
  intro a ha
  rcases List.mem_append.mp ha with ha | ha
  · exact hlater a ha
  · exact hactions a ha

theorem NullConfirmed.append (h : NullConfirmed log) (hactions : .layerDown ∉ actions) :
    NullConfirmed (log ++ actions) := by
  obtain ⟨past, seq, later, rfl, hpending, hlater⟩ := h
  refine ⟨past, seq, later ++ actions, by simp, hpending, ?_⟩
  simp [hlater, hactions]

/-- The confirm of the pending null response. -/
theorem NullPending.confirmed (h : NullPending seq log) (hactions : .layerDown ∉ actions) :
    NullConfirmed (log ++ .confirm true seq :: actions) :=
  ⟨log, seq, actions, rfl, h, hactions⟩

end Log

open Station

namespace OContext

variable {s t t' : OContext} {input : Input}

/-! ## The outstation and its log -/

/-- **What the outstation knows of its log.** -/
structure HandshakeOk (t : OContext) : Prop where
  confirmed : t.completedNull = true → NullConfirmed t.station.log
  pending : t.awaitsUnsolicited → t.completedNull = false →
    NullPending t.unsol.confirmNum t.station.log
  last : ∀ fragment control, lastUnsolicited t.station.log = some fragment →
    fragmentControl fragment = some control → control.SEQ + 1 = t.unsol.num
  repeats : t.awaitsUnsolicited → lastUnsolicited t.station.log = some t.unsol.tx.lastResponse
  room : t.awaitsUnsolicited ∨ t.completedNull = true → 4 ≤ t.unsol.tx.buffer.length

/-- Nothing happens to the unsolicited channel, except that a wait for a confirm may end. -/
structure UnsolKept (t t' : OContext) : Prop where
  unsol : t'.unsol = t.unsol
  completedNull : t'.completedNull = t.completedNull
  state : t'.awaitsUnsolicited → t.awaitsUnsolicited

theorem HandshakeOk.aside (h : HandshakeOk t) (hkept : UnsolKept t t')
    (hlog : Logs (·.isAside = true) t.station t'.station) : HandshakeOk t' := by
  obtain ⟨actions, hlog, haside⟩ := hlog
  -- nothing that was logged starts another handshake
  have hrenews : ∀ a ∈ actions, a.renews = false := by
    intro a ha
    have := haside a ha
    simpa using (Bool.and_eq_true_iff.mp this).1
  have hdown : .layerDown ∉ actions := fun hmem => absurd (hrenews _ hmem) (by simp [Action.renews])
  constructor
  · intro hnull
    rw [hlog]
    exact (h.confirmed (hkept.completedNull ▸ hnull)).append hdown
  · intro hstate hnull
    rw [hlog, hkept.unsol]
    exact (h.pending (hkept.state hstate) (hkept.completedNull ▸ hnull)).append hrenews
  · intro fragment control hfragment hcontrol
    rw [hlog, lastUnsolicited_aside haside] at hfragment
    rw [hkept.unsol]
    exact h.last fragment control hfragment hcontrol
  · intro hstate
    rw [hlog, lastUnsolicited_aside haside, hkept.unsol]
    exact h.repeats (hkept.state hstate)
  · intro hused
    rw [hkept.unsol]
    rw [hkept.completedNull] at hused
    exact h.room (hused.imp_left hkept.state)

theorem not_awaitsUnsolicited_of_idle (h : t.state = .Idle) : ¬ t.awaitsUnsolicited := by
  unfold awaitsUnsolicited
  simp [h]

theorem unsolKept_idle (hunsol : t'.unsol = t.unsol) (hnull : t'.completedNull = t.completedNull)
    (hidle : t'.state = .Idle) : UnsolKept t t' :=
  ⟨hunsol, hnull, fun h => absurd h (not_awaitsUnsolicited_of_idle hidle)⟩

variable {destination : UInt16} {w : HeaderWriter}

variable (env : Env) {u : OContext}

/-- A solicited response leads to the idle state or to the wait for its own confirm. -/
theorem unsolKept_sending {env : Env} {kind : ResponseKind} {seq : Fin 16} {iin : IINField}
    {loaded : Loaded} (hunsol : u.unsol = t.unsol) (hnull : u.completedNull = t.completedNull) :
    UnsolKept t (u.sending env kind destination seq iin loaded) := by
  refine ⟨hunsol, hnull, fun h => ?_⟩
  change stateAfter _ = .UnsolicitedConfirmWait ∨ stateAfter _ = .NullUnsolicitedConfirmWait at h
  unfold stateAfter at h
  split at h <;> simp at h

/-- Solicited fragments leave the unsolicited channel alone. -/
theorem unsolKept_of_transmits (h : Transmits s input false destination t t') :
    UnsolKept t t' := by
  cases h with
  | confirmNext _ _ _ _ _ _ _ _ u hu =>
    apply unsolKept_sending
    · rw [hu]
      rfl
    · rw [hu]
      rfl
  | repeatedNonRead | repeatedRead | nonReadAside => exact ⟨rfl, rfl, id⟩
  | nonRead | read | fileRead => exact unsolKept_sending rfl rfl

/-! ## New unsolicited responses -/

/-- The new response is in the buffer: its header, and then what is there. -/
theorem lastResponse_unsolicitedTx (u : OContext) (iin : IINField) {n : Nat}
    (h : w.position = 4 + n) :
    fragmentControl (u.unsolicitedTx iin w).lastResponse = some u.unsolicitedControl ∧
      (u.unsolicitedTx iin w).lastResponse.drop 4 = (w.buffer.drop 4).take n := by
  have hlast : ∃ b₁ b₂ b₃, (u.unsolicitedTx iin w).lastResponse =
      [u.unsolicitedControl.toByte, b₁, b₂, b₃] ++ (w.buffer.drop 4).take n := by
    unfold unsolicitedTx finishResponse HeaderWriter.patch writeAt TxBuffer.lastResponse
    rw [control_broadcastHeader u _ u.unsol.num rfl]
    dsimp only
    rw [h, Nat.add_comm]
    exact ⟨_, _, _, rfl⟩
  obtain ⟨b₁, b₂, b₃, hlast⟩ := hlast
  rw [hlast]
  constructor
  · simp [fragmentControl, AppControlField.ofByte_toByte]
  · rfl

theorem four_le_unsolicitedTx (u : OContext) (iin : IINField) (w : HeaderWriter) :
    4 ≤ (u.unsolicitedTx iin w).buffer.length := by
  unfold unsolicitedTx finishResponse HeaderWriter.patch writeAt
  simp

/-- What has been appended to the header is carried by the response. -/
theorem drop_unsolicitedTx (u : OContext) (iin : IINField) {tx : TxBuffer}
    {bytes : List UInt8} (h : Appends tx.start bytes w) :
    (u.unsolicitedTx iin w).lastResponse.drop 4 = bytes := by
  have htake : w.buffer.take (4 + bytes.length) = tx.buffer.take 4 ++ bytes := by
    have htake := h.take
    rw [h.position] at htake
    exact htake
  have hfour : (tx.buffer.take 4).length = 4 := by
    rw [List.length_take]
    exact Nat.min_eq_left h.fits_before
  rw [(u.lastResponse_unsolicitedTx iin h.position).2]
  have hdrop := congrArg (List.drop 4) htake
  rw [List.drop_take, Nat.add_sub_cancel_left, List.drop_left' hfour] at hdrop
  exact hdrop

/-- **A new unsolicited response** gets the next number and becomes the last one in the log. -/
theorem handshakeOk_announced {iin : IINField} {events : List Nat}
    (hconfirmed : u.completedNull = true → NullConfirmed u.station.log)
    (hnull : u.completedNull = false → events = [] ∧ w.position = 4)
    (hfirst : fragmentControl (u.unsolicitedTx iin w).lastResponse = some u.unsolicitedControl) :
    HandshakeOk (u.announced iin w events) := by
  have hlog : (u.announced iin w events).station.log = u.station.log ++
      [.unsolicited u.unsolicitedControl events] ++
      [.transmit u.addresses.destination (u.unsolicitedTx iin w).lastResponse] := rfl
  have hlast : lastUnsolicited (u.announced iin w events).station.log =
      some (u.unsolicitedTx iin w).lastResponse := by
    rw [hlog]
    exact lastUnsolicited_transmit hfirst rfl
  constructor
  · intro hcompleted
    rw [hlog, List.append_assoc]
    exact (hconfirmed hcompleted).append (by simp)
  · intro _ hcompleted
    obtain ⟨rfl, hposition⟩ := hnull hcompleted
    -- four bytes of header and no object: the null response
    have hempty := (u.lastResponse_unsolicitedTx iin (n := 0) hposition).2
    rw [List.take_zero, List.drop_eq_nil_iff] at hempty
    refine ⟨u.station.log, u.unsolicitedControl, u.addresses.destination,
      (u.unsolicitedTx iin w).lastResponse, [], ?_, hfirst, hempty, rfl, by simp⟩
    rw [hlog, List.append_assoc]
    rfl
  · intro fragment control hfragment hcontrol
    rw [hlast, Option.some.injEq] at hfragment
    rw [← hfragment, hfirst, Option.some.injEq] at hcontrol
    rw [← hcontrol]
    rfl
  · exact fun _ => hlast
  · exact fun _ => four_le_unsolicitedTx u iin w

/-- The null response. -/
theorem handshakeOk_announcedNull (hnull : t.completedNull = false) :
    HandshakeOk (t.announcedNull env) := by
  apply handshakeOk_announced
  · intro h
    exact absurd (hnull.symm.trans h) Bool.noConfusion
  · exact fun _ => ⟨rfl, rfl⟩
  · exact (lastResponse_unsolicitedTx _ _ (n := 0) rfl).1

/-- A response with events. -/
theorem handshakeOk_announcedEvents (hnull : t.completedNull = true) (h : HandshakeOk t) :
    HandshakeOk ((t.setStation (t.station.setShouldCheck false)).announcedEvents env) := by
  obtain ⟨written, bytes, -, happends, -⟩ := t.station.eventBuffer.encoded_load_selectAllByClass
    t.station.unsolClassMask (w := t.unsol.tx.start) (h.room (.inr hnull))
  apply handshakeOk_announced
  · exact fun _ => h.confirmed hnull
  · intro h
    exact absurd (hnull.symm.trans h) Bool.noConfusion
  · exact (lastResponse_unsolicitedTx _ _ happends.position).1

/-! ## Effect by effect -/

/-- What an effect does to the unsolicited channel. -/
inductive UnsolChange (s : OContext) (input : Input) (t t' : OContext) : Prop where
  | kept (h : UnsolKept t t') (hwaits : Waits t t')
  | down (ht : t = s) (ht' : t' = s.onLowerLayerDown)
  | confirmNull (seq : Fin 16) (hstate : t.awaitsUnsolicited) (hseq : t.unsol.confirmNum = seq)
    (hnull : t.completedNull = false)
    (ht' : t' = t.confirmed .Idle true ((t.station.unsolicitedConfirm seq).setShouldCheck true))
  | transmits (uns : Bool) (destination : UInt16) (h : Transmits s input uns destination t t')

theorem unsolChange_effect (h : Effect s input t t') : UnsolChange s input t t' := by
  rcases waits_or_transmits h with hwaits | ⟨rfl, rfl⟩ | ⟨uns, destination, htransmits⟩
  · cases h with
    | layerDown => exact .down rfl rfl
    | confirmNull request _ _ hstate _ hseq hnull =>
      exact .confirmNull request.header.control.SEQ hstate hseq hnull rfl
    | transmits h => exact .transmits _ _ h
    -- a wait is over
    | timeoutIdle => exact .kept (unsolKept_idle rfl rfl rfl) hwaits
    | timeoutNull => exact .kept (unsolKept_idle rfl rfl rfl) hwaits
    | timeoutGiveUp => exact .kept (unsolKept_idle rfl rfl rfl) hwaits
    | broadcast => exact .kept (unsolKept_idle rfl rfl rfl) hwaits
    | confirmLast => exact .kept (unsolKept_idle rfl rfl rfl) hwaits
    | confirmUnsolicited => exact .kept (unsolKept_idle rfl rfl rfl) hwaits
    -- the others leave the state alone
    | _ => exact .kept ⟨rfl, rfl, id⟩ hwaits
  · exact .down rfl rfl
  · exact .transmits uns destination htransmits

/-- What is logged while nothing is sent has nothing to do with unsolicited responses. -/
theorem Waits.aside (h : Waits t t') : Logs (·.isAside = true) t.station t'.station :=
  h.prepares.mono fun _ => Action.isAside_of_precedes

/-- A solicited fragment is no unsolicited one. -/
theorem isAside_of_bufferOk (h : BufferOk false t.sol) :
    (Action.transmit destination t.sol.tx.lastResponse).isAside = true := by
  unfold Action.isAside Action.unsolicited?
  cases hcontrol : fragmentControl t.sol.tx.lastResponse with
  | none => simp [hcontrol, Action.renews]
  | some c =>
    have huns := (h c hcontrol).1
    simp [hcontrol, huns, Action.renews]

/-- A solicited response. -/
theorem HandshakeOk.solicited (h : HandshakeOk t)
    (hbuffer : BufferOk false t'.sol) (htransmits : Transmits s input false destination t t') :
    HandshakeOk t' := by
  obtain ⟨st, hprepares, hlog⟩ := (sends_of_transmits htransmits).log
  apply h.aside (unsolKept_of_transmits htransmits)
  obtain ⟨actions, hst, hactions⟩ := hprepares.mono fun _ => Action.isAside_of_precedes
  refine ⟨actions ++ [.transmit destination t'.sol.tx.lastResponse], ?_, ?_⟩
  · rw [hlog, hst, List.append_assoc]
    rfl
  · intro a ha
    rcases List.mem_append.mp ha with ha | ha
    · exact hactions a ha
    · rw [List.mem_singleton.mp ha]
      exact isAside_of_bufferOk hbuffer

/-- The lower layer goes down: the next response will be a null response. -/
theorem HandshakeOk.down (h : HandshakeOk s) : HandshakeOk s.onLowerLayerDown where
  confirmed := Bool.noConfusion
  pending hstate := absurd hstate (not_awaitsUnsolicited_of_idle rfl)
  last fragment control hfragment := by
    have hlast : lastUnsolicited s.onLowerLayerDown.station.log =
        lastUnsolicited s.station.log := by
      change lastUnsolicited (s.station.log ++ [.layerDown]) = _
      simp [lastUnsolicited, Action.unsolicited?]
    rw [hlast] at hfragment
    exact h.last fragment control hfragment
  repeats hstate := absurd hstate (not_awaitsUnsolicited_of_idle rfl)
  room hused := by
    rcases hused with hstate | hnull
    · exact absurd hstate (not_awaitsUnsolicited_of_idle rfl)
    · cases hnull

/-- The null response is confirmed. -/
theorem HandshakeOk.confirmNull {seq : Fin 16} (h : HandshakeOk t) (hstate : t.awaitsUnsolicited)
    (hseq : t.unsol.confirmNum = seq) (hnull : t.completedNull = false) :
    HandshakeOk (t.confirmed .Idle true
      ((t.station.unsolicitedConfirm seq).setShouldCheck true)) := by
  have hlog := prepares_unsolicitedConfirm t.station seq
  obtain ⟨actions, hactions, haside⟩ := hlog.mono fun _ => Action.isAside_of_precedes
  constructor
  · intro _
    have hpending := h.pending hstate hnull
    rw [hseq] at hpending
    change NullConfirmed ((t.station.log ++ [.confirm true seq]) ++ [.confirmProcessed ..])
    rw [List.append_assoc]
    exact hpending.confirmed (by simp)
  · intro hidle
    exact absurd hidle (not_awaitsUnsolicited_of_idle rfl)
  · intro fragment control hfragment
    change lastUnsolicited (t.station.unsolicitedConfirm seq).log = some fragment at hfragment
    rw [hactions, lastUnsolicited_aside haside] at hfragment
    exact h.last fragment control hfragment
  · intro hidle
    exact absurd hidle (not_awaitsUnsolicited_of_idle rfl)
  · exact fun _ => h.room (.inl hstate)

/-- The unsolicited response is repeated. -/
theorem HandshakeOk.retried (h : HandshakeOk s) (hstate : s.awaitsUnsolicited)
    (hnull : s.completedNull = true) : HandshakeOk s.retried := by
  have hlast : lastUnsolicited s.retried.station.log = some s.unsol.tx.lastResponse := by
    have hbefore := h.repeats hstate
    change lastUnsolicited ((s.station.log ++ [.confirmTimeout]) ++
      [.transmit s.addresses.destination s.unsol.tx.lastResponse]) = _
    unfold lastUnsolicited at hbefore ⊢
    rw [List.append_assoc, List.filterMap_append]
    -- the same fragment has been transmitted before, so that it counts as unsolicited
    obtain ⟨a, -, ha⟩ := List.mem_filterMap.mp (List.mem_of_getLast? hbefore)
    cases a with
    | transmit destination fragment =>
      unfold Action.unsolicited? at ha
      dsimp only at ha
      split at ha
      · rename_i huns
        cases ha
        simp [Action.unsolicited?, huns]
      · cases ha
    | _ => cases ha
  constructor
  · intro _
    have htimeout : NullConfirmed (s.station.log ++ [.confirmTimeout]) :=
      (h.confirmed hnull).append (by simp)
    exact htimeout.append (by simp)
  · intro _ hnot
    exact absurd (hnull.symm.trans hnot) Bool.noConfusion
  · intro fragment control hfragment
    rw [hlast] at hfragment
    exact h.last fragment control ((h.repeats hstate).trans hfragment)
  · exact fun _ => hlast
  · exact fun _ => h.room (.inl hstate)

/-- **Every effect keeps the outstation and its log together.** -/
theorem handshakeOk_effect (heffect : Effect s input t t') (hbuffer : BuffersOk t')
    (h : HandshakeOk t) : HandshakeOk t' := by
  cases unsolChange_effect heffect with
  | kept hkept hwaits => exact h.aside hkept hwaits.aside
  | down ht ht' =>
    subst ht ht'
    exact h.down
  | confirmNull seq hstate hseq hnull ht' =>
    subst ht'
    exact h.confirmNull hstate hseq hnull
  | transmits uns destination htransmits =>
    cases uns with
    | false => exact h.solicited hbuffer.sol htransmits
    | true =>
      cases htransmits with
      | timeoutRetry _ _ _ hstate hnull => exact h.retried hstate hnull
      | unsolicitedNull env _ hnull => exact handshakeOk_announcedNull env hnull
      | unsolicited env _ hnull => exact handshakeOk_announcedEvents env hnull h

/-! ## What a step sends unsolicited -/

/-- The step has ended with a new unsolicited response, whose objects are events of classes that
    are enabled when it is built. -/
def CarriesEvents (s' : OContext) (destination : UInt16) (fragment : List UInt8)
    (control : AppControlField) : Prop :=
  ∃ past written,
    s'.station.log = past ++ [.unsolicited control (written.map EventRecord.id),
      .transmit destination fragment] ∧
    EventLists.Encoded written (fragment.drop 4) ∧
    ∀ r ∈ written, s'.station.unsolClassMask.hasEventType r.clazz = true ∧
      r.setState .written ∈ s'.station.eventBuffer.lists.events

/-- A new unsolicited response has the next number. -/
def AnnouncesNew (s s' : OContext) (destination : UInt16) (fragment : List UInt8)
    (control : AppControlField) : Prop :=
  CarriesEvents s' destination fragment control ∧
    ∀ last control', lastUnsolicited s.station.log = some last →
      fragmentControl last = some control' → control.SEQ = control'.SEQ + 1

/-- A repetition: the bytes of the last unsolicited response, after a timeout. -/
def AnnouncesAgain (s s' : OContext) (destination : UInt16) (fragment : List UInt8) : Prop :=
  s'.station.log = s.station.log ++ [.confirmTimeout, .transmit destination fragment] ∧
    lastUnsolicited s.station.log = some fragment

/-- **What a step may send unsolicited**: a fragment with objects only once a null response has
    been confirmed, and either a new response or a repetition. -/
def AnnouncesInOrder (s : OContext) (input : Input) : Prop :=
  ∀ p ∈ s.sent input, ∀ control, fragmentControl p.2 = some control → control.UNS = true →
    (4 < p.2.length → NullConfirmed (s.step input).station.log) ∧
      (AnnouncesNew s (s.step input) p.1 p.2 control ∨ AnnouncesAgain s (s.step input) p.1 p.2)

theorem carriesEvents_announced (iin : IINField) {events : List Nat} {written : List EventRecord}
    {bytes : List UInt8} (hids : events = written.map EventRecord.id)
    (hdrop : (u.unsolicitedTx iin w).lastResponse.drop 4 = bytes)
    (hencoded : EventLists.Encoded written bytes)
    (hclass : ∀ r ∈ written, u.station.unsolClassMask.hasEventType r.clazz = true ∧
      r.setState .written ∈ u.station.eventBuffer.lists.events) :
    CarriesEvents (u.announced iin w events) u.addresses.destination
      (u.unsolicitedTx iin w).lastResponse u.unsolicitedControl := by
  subst hids hdrop
  refine ⟨u.station.log, written, ?_, hencoded, hclass⟩
  change (u.station.log ++ [_]) ++ [_] = _
  rw [List.append_assoc]
  rfl

/-- A null response carries nothing. -/
theorem carriesEvents_announcedNull (t : OContext) :
    CarriesEvents (t.announcedNull env) t.addresses.destination
      (t.announcedNull env).unsol.tx.lastResponse t.unsolicitedControl := by
  apply carriesEvents_announced _ rfl (lastResponse_unsolicitedTx _ _ (n := 0) rfl).2 .nil
  simp

/-- **A response carries the events that were loaded for it.** -/
theorem carriesEvents_announcedEvents (hnull : t.completedNull = true) (h : HandshakeOk t)
    (t' : OContext)
    (ht' : t' = (t.setStation (t.station.setShouldCheck false)).announcedEvents env) :
    CarriesEvents t' t.addresses.destination t'.unsol.tx.lastResponse t.unsolicitedControl := by
  obtain ⟨written, bytes, hids, happends, hencoded, hclass⟩ :=
    t.station.eventBuffer.encoded_load_selectAllByClass t.station.unsolClassMask
      (w := t.unsol.tx.start) (h.room (.inr hnull))
  subst ht'
  apply carriesEvents_announced _ hids (drop_unsolicitedTx _ _ happends) hencoded
  intro r hr
  refine ⟨(hclass r hr).1, ?_⟩
  change _ ∈ (EventBuffer.isOverflown _).1.lists.events
  rw [EventBuffer.lists_isOverflown]
  exact (hclass r hr).2

/-- The effect that sends, in an outstation that knows its log. -/
theorem announces_of_transmits {control : AppControlField}
    (ht : HandshakeOk t) (hsame : lastUnsolicited t.station.log = lastUnsolicited s.station.log)
    (htransmits : Transmits s input true destination t t')
    (hcontrol : fragmentControl t'.unsol.tx.lastResponse = some control) :
    AnnouncesNew s t' destination t'.unsol.tx.lastResponse control ∨
      AnnouncesAgain s t' destination t'.unsol.tx.lastResponse := by
  have hnext : ∀ last control', lastUnsolicited s.station.log = some last →
      fragmentControl last = some control' → t.unsolicitedControl.SEQ = control'.SEQ + 1 := by
    intro last control' hlast hcontrol'
    rw [← hsame] at hlast
    exact (ht.last last control' hlast hcontrol').symm
  cases htransmits with
  -- a repetition, with the number it had
  | timeoutRetry _ _ _ hstate hnull =>
    right
    refine ⟨?_, ht.repeats hstate⟩
    change (s.station.log ++ [.confirmTimeout]) ++ [_] = _
    rw [List.append_assoc]
    rfl
  | unsolicitedNull env _ hnull =>
    left
    have hfirst : control = t.unsolicitedControl := fragmentControl_unsolicitedTx hcontrol
    subst hfirst
    exact ⟨carriesEvents_announcedNull env t, hnext⟩
  | unsolicited env _ hnull =>
    left
    have hfirst : control = t.unsolicitedControl := fragmentControl_unsolicitedTx hcontrol
    subst hfirst
    exact ⟨carriesEvents_announcedEvents env hnull ht _ rfl, hnext⟩

/-- A fragment with objects is sent once the null response has been confirmed. -/
theorem completedNull_of_transmits (htransmits : Transmits s input true destination t t')
    (hlong : 4 < t'.unsol.tx.lastResponse.length) : t'.completedNull = true := by
  cases htransmits with
  | timeoutRetry _ _ _ _ hnull | unsolicited _ _ hnull => exact hnull
  | unsolicitedNull env _ hnull =>
    have hempty : (t.announcedNull env).unsol.tx.lastResponse.drop 4 = [] :=
      (lastResponse_unsolicitedTx _ _ (n := 0) rfl).2
    rw [List.drop_eq_nil_iff] at hempty
    exact absurd hlong (Nat.not_lt_of_le hempty)

/-- What a run keeps. -/
structure Announcing (s : OContext) : Prop where
  sound : Sound s
  buffers : BuffersOk s
  handshake : HandshakeOk s

theorem Announcing.effects (hs : Announcing s) (h : Effects s input s t) :
    BuffersOk t ∧ HandshakeOk t := by
  induction h with
  | refl => exact ⟨hs.buffers, hs.handshake⟩
  | tail _ hlast ih =>
    have hbuffers := buffersOk_effect hlast hs.buffers ih.1
    exact ⟨hbuffers, handshakeOk_effect hlast hbuffers ih.2⟩

theorem Announcing.step (hs : Announcing s) (input : Input) : Announcing (s.step input) := by
  have hchain : Effects s input s (s.step input) :=
    (moves_step hs.sound.deferred input).1.lift id fun _ _ => effect_of_move
  have hkept := hs.effects hchain
  exact ⟨hs.sound.step input, hkept.1, hkept.2⟩

/-- Without a transmission no unsolicited fragment is added to the log. -/
theorem lastUnsolicited_silent {st st' : Station} (h : Silent st st') :
    lastUnsolicited st'.log = lastUnsolicited st.log := by
  obtain ⟨actions, hlog, hnone⟩ := h
  have hno : actions.filterMap Action.unsolicited? = [] := by
    rw [List.filterMap_eq_nil_iff]
    intro a ha
    cases a with
    | transmit destination fragment => cases hnone _ ha
    | _ => rfl
  unfold lastUnsolicited
  rw [hlog, List.filterMap_append, hno, List.append_nil]

/-- **A step announces in order.** -/
theorem announcesInOrder_step (hs : Announcing s) (input : Input) : AnnouncesInOrder s input := by
  have hafter := hs.step input
  cases sends_step hs.sound.deferred input with
  | nothing hsilent =>
    intro p hp
    rw [sent_of_silent hsilent] at hp
    cases hp
  | fragment u v uns destination hbefore hsilent htransmits hv =>
    obtain ⟨hbuffers, hhandshake⟩ := hs.effects hbefore
    obtain ⟨deferred, hstep⟩ := eq_setDeferred hv
    have hstation : (s.step input).station = v.station := congrArg (·.station) hstep
    have hcompleted : (s.step input).completedNull = v.completedNull :=
      congrArg (·.completedNull) hstep
    have hsent := sent_of_sends hsilent (sends_of_transmits htransmits)
      (congrArg Station.log hstation)
    intro p hp control hcontrol huns
    rw [hsent, List.mem_singleton] at hp
    subst hp
    cases uns with
    | false =>
      -- a solicited fragment does not have the bit
      have hv := buffersOk_effect (.transmits htransmits) hs.buffers hbuffers
      exact absurd (huns.symm.trans (hv.sol control hcontrol).1) Bool.noConfusion
    | true =>
      constructor
      · intro hlong
        apply hafter.handshake.confirmed
        rw [hcompleted]
        exact completedNull_of_transmits htransmits hlong
      · have hannounces := announces_of_transmits hhandshake (lastUnsolicited_silent hsilent)
          htransmits hcontrol
        unfold AnnouncesNew CarriesEvents AnnouncesAgain at hannounces ⊢
        rw [hstation]
        exact hannounces

theorem announcing_init (addresses : Addresses) (params : OutstationParams)
    (numUnsolRetries : Option Nat) (unsolClassMask : ClassField) (config : EventBufferConfig)
    (database : Database) :
    Announcing (.init addresses params numUnsolRetries unsolClassMask config database) where
  sound := sound_init ..
  buffers := ⟨bufferOk_ofSize _ _ _ _, bufferOk_ofSize _ _ _ _⟩
  handshake := by
    constructor
    · exact Bool.noConfusion
    · exact fun hstate => absurd hstate (not_awaitsUnsolicited_of_idle rfl)
    · intro fragment control hlast
      cases hlast
    · exact fun hstate => absurd hstate (not_awaitsUnsolicited_of_idle rfl)
    · rintro (hstate | hnull)
      · exact absurd hstate (not_awaitsUnsolicited_of_idle rfl)
      · cases hnull

end OContext

/-- **Unsolicited responses come in order**: in every run, one with objects is sent only after a
    null response has been confirmed since the lower layer came up; its objects are events of
    classes that were enabled when it was built; new responses are numbered one after the other,
    and a repetition is the bytes of the last one. -/
theorem unsolicited_in_order (addresses : Addresses) (params : OutstationParams)
    (numUnsolRetries : Option Nat) (unsolClassMask : ClassField) (config : EventBufferConfig)
    (database : Database) (inputs : List Input) :
    Along OContext.step OContext.AnnouncesInOrder
      (.init addresses params numUnsolRetries unsolClassMask config database) inputs := by
  apply along_of_invariant (P := OContext.Announcing)
  · exact fun s input hs => hs.step input
  · exact fun s input hs => OContext.announcesInOrder_step hs input
  · exact OContext.announcing_init ..

end OpenDnp3.Outstation
