import OpenDnp3.Outstation.Effects

/-!
# Select before operate

An OPERATE request is carried out when it goes with the selection that an earlier SELECT request
has left in the control state.  The control state keeps a number, a time, a length and a CRC of
the selected objects, and it keeps them until another SELECT succeeds or an OPERATE is refused:
an OPERATE that is carried out does not use the selection up.
-/

namespace OpenDnp3.Outstation

open App Lib
open Link (Addresses)

/-! ## What does not concern the control state -/

/-- The actions that concern select before operate. -/
def Action.concernsControl : Action → Bool
  | .select .. | .refused .. => true
  | .operate type _ _ => type == .SelectBeforeOperate
  | _ => false

theorem Action.concernsControl_of_isQuiet {a : Action} (h : a.isQuiet = true) :
    a.concernsControl = false := by
  cases a with
  | operate type _ _ =>
    cases type with
    | SelectBeforeOperate => cases h
    | DirectOperate | DirectOperateNoAck => rfl
  | select | refused => cases h
  | _ => rfl

namespace Station

/-- The control state is left alone. -/
structure ControlKept (st st' : Station) : Prop where
  control : st'.control = st.control
  log : ∃ actions, st'.log = st.log ++ actions ∧ ∀ a ∈ actions, a.concernsControl = false

namespace ControlKept

variable {st st' st'' : Station}

theorem of_eq (hcontrol : st'.control = st.control) (hlog : st'.log = st.log) :
    ControlKept st st' :=
  ⟨hcontrol, [], by rw [hlog, List.append_nil], by simp⟩

theorem refl (st : Station) : ControlKept st st := .of_eq rfl rfl

theorem trans (h : ControlKept st st') (h' : ControlKept st' st'') : ControlKept st st'' := by
  obtain ⟨actions, hlog, hactions⟩ := h.log
  obtain ⟨actions', hlog', hactions'⟩ := h'.log
  refine ⟨h'.control.trans h.control, actions ++ actions', ?_, ?_⟩
  · rw [hlog', hlog, List.append_assoc]
  · intro a ha
    rcases List.mem_append.mp ha with ha | ha
    · exact hactions a ha
    · exact hactions' a ha

theorem record {a : Action} (h : a.concernsControl = false) (st : Station) :
    ControlKept st (st.record [a]) :=
  ⟨rfl, [a], rfl, fun b hb => by rwa [List.mem_singleton.mp hb]⟩

theorem of_background (h : Background st st') : ControlKept st st' := by
  induction h with
  | refl => exact .refl st
  | tail _ hstep ih =>
    refine ih.trans ?_
    cases hstep with
    | feed event =>
      refine ⟨rfl, _, rfl, ?_⟩
      intro a ha
      unfold evictions at ha
      split at ha
      · cases ha
      · rw [List.mem_singleton.mp ha]
        rfl
    | quiet h =>
      obtain ⟨actions, hlog, hactions⟩ := h.log
      exact ⟨h.control, actions, hlog,
        fun a ha => Action.concernsControl_of_isQuiet (hactions a ha)⟩

end ControlKept

end Station

open Station

namespace OContext

theorem controlKept_answered {st : Station} {u : OContext} (h : ControlKept st u.station)
    (env : Env) (kind : ResponseKind) (destination : UInt16) (seq : Fin 16) (iin : IINField)
    (loaded : Loaded) :
    ControlKept st (u.answered env kind destination seq iin loaded).station := by
  have hbuffer : ControlKept st
      (u.station.setEventBuffer u.station.eventBuffer.isOverflown.1) := h.trans (.of_eq rfl rfl)
  exact (hbuffer.trans (.record rfl _)).trans (.record rfl _)

theorem controlKept_loadResponse (s : OContext) (w : HeaderWriter) :
    ControlKept s.station (s.loadResponse w).1.station := by
  unfold loadResponse
  dsimp only
  split <;> exact .of_eq rfl rfl

theorem controlKept_loadRead (s : OContext) (objects : List UInt8) (w : HeaderWriter) :
    ControlKept s.station (s.loadRead objects w).1.station := by
  unfold loadRead
  dsimp only
  split
  · exact .of_eq rfl rfl
  · rename_i database eventBuffer errors _
    have hselected : ControlKept s.station ((((s.setFragmentCount 0).unselectAll).station.setDatabase
        database).setEventBuffer eventBuffer) := .of_eq rfl rfl
    exact hselected.trans (controlKept_loadResponse (((s.setFragmentCount 0).unselectAll).setStation
      ((((s.setFragmentCount 0).unselectAll).station.setDatabase database).setEventBuffer
        eventBuffer)) w)

theorem controlKept_clearConfirmed (st : Station) (uns : Bool) (seq : Fin 16) :
    ControlKept st (st.clearConfirmed uns seq) := by
  have hbuffer : ControlKept st (st.setEventBuffer st.eventBuffer.clearWritten) := .of_eq rfl rfl
  exact hbuffer.trans (.record rfl _)

theorem controlKept_solicitedConfirm (st : Station) (seq : Fin 16) :
    ControlKept st (st.solicitedConfirm seq) := by
  have hconfirm : ControlKept st (st.record [.confirm false seq]) := .record rfl st
  exact (hconfirm.trans (controlKept_clearConfirmed ..)).trans (.record rfl _)

theorem controlKept_unsolicitedConfirm (st : Station) (seq : Fin 16) :
    ControlKept st (st.unsolicitedConfirm seq) :=
  (ControlKept.record rfl st).trans (.record rfl _)

theorem controlKept_announced {st : Station} {u : OContext} (h : ControlKept st u.station)
    (iin : IINField) (w : HeaderWriter) (events : List Nat) :
    ControlKept st (u.announced iin w events).station :=
  (h.trans (.record rfl _)).trans (.record rfl _)

/-- **Every move but a new request leaves the control state alone**, and a new request does to
    it what its handler does. -/
theorem control_move {s t t' : OContext} {input : Input} (h : Move s input t t') :
    ControlKept t.station t'.station ∨
      ∃ (env : Env) (request : ParsedRequest) (st : Station),
        request ∈ s.requests input ∧ request.header.control.UNS = false ∧
        s.recognises request = false ∧ t.station = s.station ∧
        Handled t.params env.now request.header.control.SEQ request.header.function
          request.objects t.station st ∧ ControlKept st t'.station := by
  cases effect_of_move h with
  | online | restartIIN | noUnsolicited => exact .inl (.of_eq rfl rfl)
  | layerDown =>
    have hbuffer : ControlKept s.station
        (s.station.setEventBuffer s.station.eventBuffer.unselect) := .of_eq rfl rfl
    exact .inl (hbuffer.trans (.record rfl _))
  | timeoutIdle | timeoutNull => exact .inl (.record rfl s.station)
  | timeoutGiveUp => exact .inl ((ControlKept.record rfl s.station).trans (.of_eq rfl rfl))
  | updates updates env =>
    have hupdated := background_applyUpdates s.station env.timeSource updates
    exact .inl (.trans (.of_background hupdated) (.of_eq rfl rfl))
  | broadcast _ _ _ _ _ _ _ st hst => exact .inl (.trans (.of_background hst) (.record rfl _))
  | noAck => exact .inl (.of_background (background_processRequestNoAck ..))
  | confirmIgnored => exact .inl (.record rfl _)
  | confirmLast => exact .inl (controlKept_solicitedConfirm ..)
  | confirmUnsolicited =>
    have hconfirm := controlKept_unsolicitedConfirm s.station
    exact .inl (((hconfirm _).trans (controlKept_clearConfirmed ..)).trans (.of_eq rfl rfl))
  | confirmNull => exact .inl ((controlKept_unsolicitedConfirm s.station _).trans (.of_eq rfl rfl))
  | transmits h =>
    cases h with
    | timeoutRetry => exact .inl ((ControlKept.record rfl s.station).trans (.record rfl _))
    | confirmNext env request _ _ _ _ _ _ u hu st loaded hload =>
      have hconfirm : ControlKept s.station u.station := by
        rw [hu]
        exact controlKept_solicitedConfirm ..
      have hkept := controlKept_loadResponse u u.sol.tx.start
      rw [hload] at hkept
      exact .inl (controlKept_answered (hconfirm.trans hkept) ..)
    | repeatedNonRead | repeatedRead => exact .inl (.record rfl _)
    | nonRead env request hrequest _ huns hnew _ st hhandled
    | nonReadAside env request hrequest _ huns hnew _ st hhandled =>
      exact .inr ⟨env, request, st, hrequest, huns, hnew, rfl, hhandled,
        controlKept_answered (.refl st) ..⟩
    | read env request _ _ _ _ _ _ _ n st iin loaded hload =>
      have hkept := controlKept_loadRead (t.handling request t.givenUp t.deferred t.fragmentCount
        t.station) request.objects t.sol.tx.start
      rw [hload] at hkept
      exact .inl (controlKept_answered hkept ..)
    | fileRead _ _ _ _ _ _ _ _ _ st hst =>
      exact .inl (controlKept_answered (.of_background hst) ..)
    | unsolicitedNull =>
      refine .inl (controlKept_announced ?_ ..)
      exact .of_eq rfl rfl
    | unsolicited =>
      refine .inl (controlKept_announced ?_ ..)
      exact .of_eq rfl rfl
  -- what is left does not touch the station
  | _ => exact .inl (.refl _)

end OContext

/-! ## Operations go back to selections -/

/-- The actions that end a selection. -/
def Action.revokes : Action → Bool
  | .select _ _ true | .refused .. => true
  | _ => false

theorem Action.revokes_of_not_concernsControl {a : Action} (h : a.concernsControl = false) :
    a.revokes = false := by
  cases a with
  | select | refused => cases h
  | _ => rfl

/-- The latest selection in the log: a SELECT that was recorded, every command of which was
    answered with SUCCESS if there were not too many, and nothing that ended it since. -/
def LatestSelection (params : OutstationParams) (log : List Action) (q : CommandRequest) : Prop :=
  ∃ past statuses since, log = past ++ .select q statuses true :: since ∧
    (statuses.length ≤ params.maxControlsPerRequest → ∀ status ∈ statuses, status = .SUCCESS) ∧
    ∀ a ∈ since, a.revokes = false

/-- **An authorised operation**: the latest selection was made with objects of the same length
    and the same CRC, under the number before, and not too long ago. -/
def Authorised (params : OutstationParams) (log : List Action) (r : CommandRequest) : Prop :=
  ∃ q, LatestSelection params log q ∧ q.objects.length = r.objects.length ∧
    Link.CRC.calcCrc q.objects = Link.CRC.calcCrc r.objects ∧ r.seq = q.seq + 1 ∧
    q.now ≤ r.now ∧ r.now - q.now < params.selectTimeout

/-- Operations on a selection are authorised. -/
def OperateAuthorised (params : OutstationParams) (past : List Action) (a : Action) : Prop :=
  ∀ r calls, a = .operate .SelectBeforeOperate r calls → Authorised params past r

/-- What the control state has to do with the log. -/
structure ControlOk (params : OutstationParams) (st : Station) : Prop where
  authorised : Justified (OperateAuthorised params) st.log
  selection : st.control.selected = true →
    ∃ q, LatestSelection params st.log q ∧ st.control = .select q

variable {params : OutstationParams} {st st' : Station}

variable {log : List Action} {seq : Fin 16}

theorem LatestSelection.append {actions : List Action} {q : CommandRequest}
    (h : LatestSelection params log q) (hactions : ∀ a ∈ actions, a.revokes = false) :
    LatestSelection params (log ++ actions) q := by
  obtain ⟨past, statuses, since, hlog, hsuccess, hsince⟩ := h
  refine ⟨past, statuses, since ++ actions, ?_, hsuccess, ?_⟩
  · rw [hlog, List.append_assoc, List.cons_append]
  · intro a ha
    rcases List.mem_append.mp ha with ha | ha
    · exact hsince a ha
    · exact hactions a ha

theorem ControlOk.kept (h : ControlOk params st)
    (hkept : ControlKept st st') : ControlOk params st' := by
  obtain ⟨actions, hlog, hactions⟩ := hkept.log
  refine ⟨?_, ?_⟩
  · rw [hlog]
    apply h.authorised.append
    rintro a ha past r calls rfl
    have := hactions _ ha
    cases this
  · intro hselected
    rw [hkept.control] at hselected ⊢
    obtain ⟨q, hlatest, hcontrol⟩ := h.selection hselected
    refine ⟨q, ?_, hcontrol⟩
    rw [hlog]
    exact hlatest.append fun a ha => Action.revokes_of_not_concernsControl (hactions a ha)

/-- A valid selection is the latest one. -/
theorem ControlOk.authorised_of_valid (h : ControlOk params st) {r : CommandRequest}
    (hvalid : st.control.validateSelection r params.selectTimeout = .SUCCESS) :
    Authorised params st.log r := by
  unfold ControlState.validateSelection at hvalid
  split at hvalid
  · rename_i hselected
    rw [Bool.and_eq_true, beq_iff_eq] at hselected
    obtain ⟨q, hlatest, hcontrol⟩ := h.selection hselected.1
    rw [hcontrol] at hselected hvalid
    split at hvalid
    · rename_i hle
      split at hvalid
      · rename_i htimeout
        split at hvalid
        · rename_i hsame
          exact ⟨q, hlatest, hsame.1, hsame.2, hselected.2.symm, hle, htimeout⟩
        · cases hvalid
      · cases hvalid
    · cases hvalid
  · cases hvalid

theorem ControlOk.handled {now : Nat} {function : FunctionCode} {objects : List UInt8}
    (h : ControlOk params st) (hhandled : Handled params now seq function objects st st') :
    ControlOk params st' := by
  cases hhandled with
  | background hbackground => exact h.kept (.of_background hbackground)
  | select statuses =>
    refine ⟨h.authorised.concat (fun r calls hr => by cases hr), ?_⟩
    intro hselected
    obtain ⟨q, hlatest, hcontrol⟩ := h.selection hselected
    exact ⟨q, hlatest.append (by simp [Action.revokes]), hcontrol⟩
  | selected statuses hfunction hlength hsuccess =>
    refine ⟨h.authorised.concat (fun r calls hr => by cases hr), ?_⟩
    intro _
    exact ⟨⟨seq, now, objects⟩, ⟨st.log, statuses, [], rfl, hsuccess, by simp⟩, rfl⟩
  | operate calls hfunction hvalid hbackground =>
    -- the commands that are carried out do not end the selection
    have hkept := ControlKept.of_background hbackground
    have hok := h.kept hkept
    have hauthorised := hok.authorised_of_valid (r := ⟨seq, now, objects⟩)
      (by rw [hkept.control]; exact hvalid)
    refine ⟨hok.authorised.concat (fun r calls hr => ?_), ?_⟩
    · cases hr
      exact hauthorised
    · intro hselected
      obtain ⟨q, hlatest, hcontrol⟩ := hok.selection hselected
      exact ⟨q, hlatest.append (by simp [Action.revokes]), hcontrol⟩
  | refused status =>
    refine ⟨h.authorised.concat (fun r calls hr => by cases hr), ?_⟩
    intro hselected
    cases hselected

theorem controlOk_move {s t t' : OContext} {input : Input} (hmove : OContext.Move s input t t')
    (h : ControlOk t.params t.station) : ControlOk t'.params t'.station := by
  rw [OContext.params_move hmove]
  rcases OContext.control_move hmove with hkept | ⟨env, request, st, -, -, -, -, hhandled, hkept⟩
  · exact h.kept hkept
  · exact (h.handled hhandled).kept hkept

/-- **Every operation on a selection goes back to a SELECT** that had objects of the same length
    and CRC, the number before and a time within the timeout, that succeeded, and since which
    nothing ended the selection. -/
theorem operate_authorised (addresses : Addresses) (params : OutstationParams)
    (numUnsolRetries : Option Nat) (unsolClassMask : ClassField) (config : EventBufferConfig)
    (database : Database) (inputs : List Input) :
    Justified (OperateAuthorised params)
      (run OContext.step
        (.init addresses params numUnsolRetries unsolClassMask config database)
        inputs).station.log := by
  have h : ∀ s, s = run OContext.step
      (.init addresses params numUnsolRetries unsolClassMask config database) inputs →
      s.params = params ∧ ControlOk s.params s.station := by
    rintro s rfl
    refine OContext.run_of_moves (P := fun s => s.params = params ∧ ControlOk s.params s.station)
      ?_ ⟨rfl, justified_nil, fun hselected => by cases hselected⟩
      (OContext.deferredOk_of_none rfl) inputs
    intro s input t t' hmove ht
    exact ⟨(OContext.params_move hmove).trans ht.1, controlOk_move hmove ht.2⟩
  obtain ⟨hparams, hok⟩ := h _ rfl
  rw [hparams] at hok
  exact hok.authorised

/-- Two commands for the control relay output block 0 that differ in their on-time. -/
def latchOn : List UInt8 := [12, 1, 0x17, 1, 0, 3, 1, 100, 0, 0, 0, 100, 0, 0, 0, 0]

def latchOnLonger : List UInt8 := [12, 1, 0x17, 1, 0, 3, 1, 29, 77, 1, 0, 100, 0, 0, 0, 0]

/-- SELECT for 100 ms, OPERATE for 85277 ms. -/
def longerRun : OContext :=
  run OContext.step (Sample.outstation 0 0 249 false)
    [.lowerLayerUp (Sample.env 0), Sample.request 0xC0 3 latchOn 10, .txReady (Sample.env 20),
      Sample.request 0xC1 4 latchOnLonger 30]

/-- A SELECT that arrives during a transmission and is handled when that is over, and an
    OPERATE. -/
def deferredSelect (received handled operated : Nat) : OContext :=
  run OContext.step (Sample.outstation 0 0 249 false)
    [.lowerLayerUp (Sample.env 0), Sample.request 0xCF 23 [] 0,
      Sample.request 0xC0 3 latchOn received, .txReady (Sample.env handled),
      .txReady (Sample.env handled), Sample.request 0xC1 4 latchOn operated]

/-- **A selection serves for other objects with the same CRC**, and its time is not the one at
    which the SELECT was received. -/
theorem operate_other_objects :
    (∃ r calls, .operate .SelectBeforeOperate r calls ∈ longerRun.station.log ∧ calls ≠ [] ∧
      ∀ q statuses recorded, .select q statuses recorded ∈ longerRun.station.log →
        q.objects ≠ r.objects) ∧
    ∃ received handled operated calls, calls ≠ [] ∧
      .operate .SelectBeforeOperate ⟨1, operated, latchOn⟩ calls ∈
        (deferredSelect received handled operated).station.log ∧
      (deferredSelect received handled operated).params.selectTimeout ≤ operated - received := by
  refine ⟨⟨⟨1, 30, latchOnLonger⟩, [⟨⟨12, 1⟩, 0, latchOnLonger.drop 5⟩], by decide +kernel,
    by simp, ?_⟩, 10, 20, 1015, [⟨⟨12, 1⟩, 0, latchOn.drop 5⟩], by simp, by decide +kernel⟩
  intro q statuses recorded h
  have hselects : ∀ a ∈ longerRun.station.log,
      (match a with
      | .select q _ _ => decide (q.objects ≠ latchOnLonger)
      | _ => true) = true := by
    decide +kernel
  exact of_decide_eq_true (hselects _ h)

/-! ## A selection is used once -/

/-- A SELECT every command of which was answered with SUCCESS. -/
def Action.isSuccessfulSelect : Action → Bool
  | .select _ statuses _ => statuses.all (· = .SUCCESS)
  | _ => false

/-- The number of an OPERATE request that was carried out on a selection. -/
def Action.operated : Action → Option (Fin 16)
  | .operate .SelectBeforeOperate r (_ :: _) => some r.seq
  | _ => none

/-- The numbers of the OPERATE requests carried out since the last successful SELECT. -/
def spent (log : List Action) : List (Fin 16) :=
  log.foldl (fun seqs a => if a.isSuccessfulSelect then [] else seqs ++ a.operated.toList) []

theorem spent_concat (log : List Action) (a : Action) :
    spent (log ++ [a]) =
      if a.isSuccessfulSelect then [] else spent log ++ a.operated.toList := by
  unfold spent
  rw [List.foldl_append, List.foldl_cons, List.foldl_nil]

theorem spent_append {actions : List Action} (h : ∀ a ∈ actions, a.concernsControl = false) :
    spent (log ++ actions) = spent log := by
  unfold spent
  rw [List.foldl_append]
  refine foldl_ignore (fun a ha seqs => ?_) _
  have ha : a.isSuccessfulSelect = false ∧ a.operated = none := by
    have hcontrol := h a ha
    cases a with
    | select => cases hcontrol
    | operate type =>
      cases type with
      | SelectBeforeOperate => cases hcontrol
      | DirectOperate | DirectOperateNoAck => exact ⟨rfl, rfl⟩
    | _ => exact ⟨rfl, rfl⟩
  rw [ha.1, ha.2]
  exact List.append_nil _

/-- Without a successful SELECT since, an OPERATE that was carried out is still spent. -/
theorem mem_spent {past since : List Action} {a : Action} (ha : a.operated = some seq)
    (hsince : ∀ b ∈ since, b.isSuccessfulSelect = false) : seq ∈ spent (past ++ a :: since) := by
  induction since using List.reverseRecOn with
  | nil =>
    have hselect : a.isSuccessfulSelect = false := by
      cases a with
      | select => cases ha
      | _ => rfl
    rw [spent_concat, hselect, ha]
    exact List.mem_append_right _ (List.mem_singleton_self seq)
  | append_singleton since b ih =>
    have hlog : past ++ a :: (since ++ [b]) = (past ++ a :: since) ++ [b] := by simp
    rw [hlog, spent_concat, hsince b (List.mem_append_right _ (List.mem_singleton_self b))]
    refine List.mem_append_left _ (ih fun c hc => hsince c ?_)
    exact List.mem_append_left _ hc

/-- An operation does not follow another one on the same selection. -/
def OperatesOnce (past : List Action) (a : Action) : Prop :=
  a.operated.isSome → spent past = []

/-- **Repetitions are recognised**: a request that would use a selection once more is taken for
    a repetition, and no SELECT has more commands than are handed on. -/
def RecognisesOperate (s : OContext) (input : Input) : Prop :=
  ∀ request ∈ s.requests input, request.header.control.UNS = false →
    (request.header.function = .OPERATE → request.header.control.SEQ ∈ spent s.station.log →
      s.recognises request = true) ∧
    (request.header.function = .SELECT →
      commandCount request.objects ≤ s.params.maxControlsPerRequest)

instance (s : OContext) (input : Input) : Decidable (RecognisesOperate s input) :=
  inferInstanceAs (Decidable (∀ request ∈ s.requests input, _ → _ ∧ _))

/-- What the control state has to do with the operations of the log. -/
structure OnceOk (st : Station) : Prop where
  once : Justified OperatesOnce st.log
  expected : st.control.selected = true → ∀ seq ∈ spent st.log, seq = st.control.expectedSeq

theorem OnceOk.kept (h : OnceOk st) (hkept : ControlKept st st') :
    OnceOk st' := by
  obtain ⟨actions, hlog, hactions⟩ := hkept.log
  refine ⟨?_, ?_⟩
  · rw [hlog]
    apply h.once.append
    intro a ha past hoperated
    have hcontrol := hactions a ha
    cases a with
    | operate type =>
      cases type with
      | SelectBeforeOperate => cases hcontrol
      | DirectOperate | DirectOperateNoAck => cases hoperated
    | _ => cases hoperated
  · rw [hlog, hkept.control, spent_append hactions]
    exact h.expected

/-- A valid selection is for the number of the request. -/
theorem expectedSeq_of_valid {c : ControlState} {r : CommandRequest} {timeout : Nat}
    (h : c.validateSelection r timeout = .SUCCESS) :
    c.selected = true ∧ c.expectedSeq = r.seq := by
  unfold ControlState.validateSelection at h
  split at h
  · rename_i hselected
    rwa [Bool.and_eq_true, beq_iff_eq] at hselected
  · cases h

theorem OnceOk.handled {now : Nat} {function : FunctionCode} {objects : List UInt8}
    (h : OnceOk st) (hoperate : function = .OPERATE → seq ∉ spent st.log)
    (hselect : function = .SELECT → commandCount objects ≤ params.maxControlsPerRequest)
    (hhandled : Handled params now seq function objects st st') : OnceOk st' := by
  have hother : ∀ {log : List Action} {a : Action}, Justified OperatesOnce log →
      a.operated = none → Justified OperatesOnce (log ++ [a]) := by
    intro log a hlog ha
    refine hlog.concat fun hoperated => ?_
    rw [ha] at hoperated
    cases hoperated
  cases hhandled with
  | background hbackground => exact h.kept (.of_background hbackground)
  | select statuses =>
    refine ⟨hother h.once rfl, ?_⟩
    intro hselected q hq
    change q ∈ spent (st.log ++ _) at hq
    rw [spent_concat] at hq
    split at hq
    · cases hq
    · exact h.expected hselected q (by simpa [Action.operated] using hq)
  | selected statuses hfunction hlength hsuccess =>
    refine ⟨hother h.once rfl, ?_⟩
    intro _ q hq
    -- all commands were answered with SUCCESS, so nothing is spent any more
    have hall : Action.isSuccessfulSelect (.select ⟨seq, now, objects⟩ statuses true) = true := by
      unfold Action.isSuccessfulSelect
      rw [List.all_eq_true]
      intro status hstatus
      exact decide_eq_true (hsuccess (by rw [hlength]; exact hselect hfunction) status hstatus)
    change q ∈ spent (st.log ++ _) at hq
    rw [spent_concat, hall] at hq
    cases hq
  | operate calls hfunction hvalid hbackground =>
    have hkept := ControlKept.of_background hbackground
    have hok := h.kept hkept
    obtain ⟨hselected, hexpected⟩ := expectedSeq_of_valid hvalid
    obtain ⟨actions, hlog, hactions⟩ := hkept.log
    have hsame : spent _ = spent st.log :=
      (congrArg spent hlog).trans (spent_append hactions)
    -- whatever was spent on this selection has the number of this request
    have hnone : spent st.log = [] := by
      rw [List.eq_nil_iff_forall_not_mem]
      intro q hq
      have hq' : q = seq := (h.expected hselected q hq).trans hexpected
      exact hoperate hfunction (hq' ▸ hq)
    refine ⟨hok.once.concat fun _ => hsame.trans hnone, ?_⟩
    intro _ q hq
    change q ∈ spent (_ ++ [_]) at hq
    rw [spent_concat, hsame, hnone] at hq
    cases calls with
    | nil => simp [Action.isSuccessfulSelect, Action.operated] at hq
    | cons call rest =>
      have hq' : q = seq := by simpa [Action.isSuccessfulSelect, Action.operated] using hq
      rw [hq']
      exact (hkept.control ▸ hexpected).symm
  | refused status =>
    refine ⟨hother h.once rfl, ?_⟩
    intro hselected
    cases hselected

theorem onceOk_move {s t t' : OContext} {input : Input} (hmove : OContext.Move s input t t')
    (hparams : t.params = s.params) (hok : RecognisesOperate s input) (h : OnceOk t.station) :
    OnceOk t'.station := by
  rcases OContext.control_move hmove with
    hkept | ⟨env, request, st, hrequest, huns, hnew, hstation, hhandled, hkept⟩
  · exact h.kept hkept
  · obtain ⟨hoperate, hselect⟩ := hok request hrequest huns
    refine (h.handled ?_ ?_ hhandled).kept hkept
    · intro hfunction hspent
      rw [hstation] at hspent
      rw [hoperate hfunction hspent] at hnew
      cases hnew
    · rw [hparams]
      exact hselect

/-- Two operations on selections have a successful SELECT between them. -/
def SelectBetween (log : List Action) : Prop :=
  ∀ past first between second future,
    log = past ++ first :: (between ++ second :: future) →
    first.operated.isSome → second.operated.isSome →
    ∃ a ∈ between, a.isSuccessfulSelect = true

theorem selectBetween_of_once (h : Justified OperatesOnce log) : SelectBetween log := by
  intro past first between second future hlog hfirst hsecond
  by_contra hnone
  obtain ⟨seq, hseq⟩ := Option.isSome_iff_exists.mp hfirst
  have hspent : seq ∈ spent (past ++ first :: between) := by
    refine mem_spent hseq fun b hb => ?_
    exact Bool.eq_false_iff.mpr fun hb' => hnone ⟨b, hb, hb'⟩
  have hempty := h (past ++ first :: between) second future (by simpa using hlog) hsecond
  rw [hempty] at hspent
  cases hspent

/-- **One execution for each selection**: in every run in which repetitions of OPERATE requests
    are recognised, two operations on selections have a successful SELECT between them. -/
theorem operate_once (addresses : Addresses) (params : OutstationParams)
    (numUnsolRetries : Option Nat) (unsolClassMask : ClassField) (config : EventBufferConfig)
    (database : Database) (inputs : List Input)
    (hok : Along OContext.step RecognisesOperate
      (.init addresses params numUnsolRetries unsolClassMask config database) inputs) :
    Always OContext.step (fun s => SelectBetween s.station.log)
      (.init addresses params numUnsolRetries unsolClassMask config database) inputs := by
  have h := OContext.always_of_moves (P := fun s => OnceOk s.station) ?_
    ⟨justified_nil, fun hselected => by cases hselected⟩ (OContext.deferredOk_of_none rfl) hok
  · exact h.mono fun s hs => selectBetween_of_once hs.once
  · intro s input t t' hinput _ hmoves hmove ht
    have hparams : t.params = s.params :=
      hmoves.invariant (P := fun u => u.params = s.params)
        (fun u u' hu hparams => (OContext.params_move hu).trans hparams) rfl
    exact onceOk_move hmove hparams hinput ht

/-- SELECT and OPERATE, then the connection is lost and the OPERATE is sent once more. -/
def reconnected : OContext :=
  run OContext.step (Sample.outstation 0 0 249 false)
    [.lowerLayerUp (Sample.env 0), Sample.request 0xC0 3 latchOn 10, .txReady (Sample.env 20),
      Sample.request 0xC1 4 latchOn 30, .txReady (Sample.env 40), .lowerLayerDown,
      .lowerLayerUp (Sample.env 50), Sample.request 0xC1 4 latchOn 60]

/-- **A repeated OPERATE that is not recognised is carried out again.** -/
theorem operate_twice : ¬ SelectBetween reconnected.station.log := by
  have hlog : reconnected.station.log = reconnected.station.log.take 3 ++
      .operate .SelectBeforeOperate ⟨1, 30, latchOn⟩ [⟨⟨12, 1⟩, 0, latchOn.drop 5⟩] ::
      ((reconnected.station.log.drop 4).take 3 ++
        .operate .SelectBeforeOperate ⟨1, 60, latchOn⟩ [⟨⟨12, 1⟩, 0, latchOn.drop 5⟩] ::
        reconnected.station.log.drop 8) := by
    decide +kernel
  have hnone : ∀ a ∈ (reconnected.station.log.drop 4).take 3, a.isSuccessfulSelect = false := by
    decide +kernel
  intro h
  obtain ⟨a, ha, hselect⟩ := h _ _ _ _ _ hlog rfl rfl
  rw [hnone a ha] at hselect
  cases hselect

/-- The inputs of a run in which the OPERATE is repeated right away. -/
def repeatedInputs : List Input :=
  [.lowerLayerUp (Sample.env 0), Sample.request 0xC0 3 latchOn 10, .txReady (Sample.env 20),
    Sample.request 0xC1 4 latchOn 30, .txReady (Sample.env 40), Sample.request 0xC1 4 latchOn 50]

/-- There the repetition is recognised. -/
theorem operate_once_repeated :
    Along OContext.step RecognisesOperate (Sample.outstation 0 0 249 false) repeatedInputs ∧
    Always OContext.step (fun s => SelectBetween s.station.log) (Sample.outstation 0 0 249 false)
      repeatedInputs :=
  have hok : Along OContext.step RecognisesOperate (Sample.outstation 0 0 249 false)
      repeatedInputs := by
    decide +kernel
  ⟨hok, operate_once _ _ _ _ _ _ _ hok⟩

end OpenDnp3.Outstation
