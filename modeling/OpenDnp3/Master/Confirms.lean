import OpenDnp3.Master.Ownership
import OpenDnp3.Master.Tasks

/-!
# Transmissions and confirms of a master

Requests and confirms are built in one buffer and sent one at a time.  A confirm that cannot be
sent at once waits in a queue, and a request that cannot be sent at once waits in `TASK_READY`.

The buffer is never touched while the lower layer may still read it.  The queue, however, is the
one part of a master that survives a layer that goes down.  A confirm that is left in it is sent
after the layer has come up again, although the response it belongs to is from before; and until
then it waits with nothing in its way.
-/

namespace OpenDnp3.Master

open App

variable {ι σ : Type}

/-! ## What the log says -/

section Log

variable (m : ι)

/-- The action writes to the buffer of the master or hands it to the lower layer. -/
def Action.UsesBuffer : Action ι → Prop
  | .build k _ | .transmit k _ _ => k = m
  | _ => False

/-- Actions that have nothing to do with transmissions of the master. -/
def Action.Still : Action ι → Prop
  | .build k _ | .transmit k _ _ | .onTxReady k | .onClose k | .queueConfirm k _ => k ≠ m
  | _ => True

variable {a : Action ι}

variable {m} in
theorem Action.still_of_master (h : a.master ≠ some m) : a.Still m := by
  cases a <;> simp_all [Action.master, Action.Still]

variable {m} in
theorem Action.Still.not_usesBuffer (h : a.Still m) : ¬a.UsesBuffer m := by
  cases a <;> simp_all [Action.Still, Action.UsesBuffer]

variable [DecidableEq ι]

/-- Follow the transmissions of a master. -/
def followTransmission (flying : Option (List UInt8)) : Action ι → Option (List UInt8)
  | .transmit k _ apdu => if k = m then some apdu else flying
  | .onTxReady k | .onClose k => if k = m then none else flying
  | _ => flying

/-- What the lower layer has been given and not yet reported as sent. -/
def outstanding (log : List (Action ι)) : Option (List UInt8) :=
  log.foldl (followTransmission m) none

def queuedConfirm : Action ι → Option APDUHeader
  | .queueConfirm k header => if k = m then some header else none
  | _ => none

def transmittedConfirm : Action ι → Option APDUHeader
  | .transmit k (.confirm header) _ => if k = m then some header else none
  | _ => none

def queuedConfirms (log : List (Action ι)) : List APDUHeader := log.filterMap (queuedConfirm m)

def transmittedConfirms (log : List (Action ι)) : List APDUHeader :=
  log.filterMap (transmittedConfirm m)

variable (log new : List (Action ι))

theorem queuedConfirms_append :
    queuedConfirms m (log ++ new) = queuedConfirms m log ++ queuedConfirms m new :=
  List.filterMap_append

theorem transmittedConfirms_append :
    transmittedConfirms m (log ++ new) = transmittedConfirms m log ++ transmittedConfirms m new :=
  List.filterMap_append

theorem outstanding_append :
    outstanding m (log ++ new) = new.foldl (followTransmission m) (outstanding m log) :=
  List.foldl_append

theorem Action.Still.follow (h : a.Still m) (flying : Option (List UInt8)) :
    followTransmission m flying a = flying := by
  cases a <;> simp_all [Action.Still, followTransmission]

theorem Action.Still.queuedConfirm (h : a.Still m) : queuedConfirm m a = none := by
  cases a <;> simp_all [Action.Still, Master.queuedConfirm]

theorem Action.Still.transmittedConfirm (h : a.Still m) :
    transmittedConfirm m a = none := by
  cases a with
  | transmit k what apdu => cases what <;> simp_all [Action.Still, Master.transmittedConfirm]
  | _ => rfl

end Log

/-! ## The transmission in progress -/

namespace Session

variable [DecidableEq ι] {s s' : Session ι σ}

/-- The buffer is free when it is used. -/
def Free (m : ι) (past : List (Action ι)) (a : Action ι) : Prop :=
  a.UsesBuffer m → outstanding m past = none

/-- What the log says about the transmission in progress, kept by every move. -/
structure InFlight (s : Session ι σ) : Prop where
  outstanding : outstanding s.self s.channel.log =
    if s.ctx.isSending then some s.ctx.txBuffer else none
  free : Lib.Justified (Free s.self) s.channel.log
  queue : queuedConfirms s.self s.channel.log =
    transmittedConfirms s.self s.channel.log ++ s.ctx.confirmQueue

/-- Something more is logged. -/
theorem InFlight.extend (h : s.InFlight) (hself : s'.self = s.self) {new : List (Action ι)}
    (hlog : s'.channel.log = s.channel.log ++ new)
    (houtstanding : new.foldl (followTransmission s.self)
      (if s.ctx.isSending then some s.ctx.txBuffer else none) =
        if s'.ctx.isSending then some s'.ctx.txBuffer else none)
    (hfree : Lib.Justified (Free s.self) (s.channel.log ++ new))
    (hqueue : s.ctx.confirmQueue ++ queuedConfirms s.self new =
      transmittedConfirms s.self new ++ s'.ctx.confirmQueue) : s'.InFlight where
  outstanding := by rw [hself, hlog, outstanding_append, h.outstanding, houtstanding]
  free := by rwa [hself, hlog]
  queue := by
    rw [hself, hlog, queuedConfirms_append, transmittedConfirms_append, h.queue,
      List.append_assoc, List.append_assoc, hqueue]

theorem InFlight.still (h : s.InFlight) (hself : s'.self = s.self)
    (hsending : s'.ctx.isSending = s.ctx.isSending) (hbuffer : s'.ctx.txBuffer = s.ctx.txBuffer)
    (hqueue : s'.ctx.confirmQueue = s.ctx.confirmQueue) {new : List (Action ι)}
    (hlog : s'.channel.log = s.channel.log ++ new) (hnew : ∀ a ∈ new, a.Still s.self) :
    s'.InFlight := by
  refine h.extend hself hlog ?_ ?_ ?_
  · rw [Lib.foldl_ignore fun a ha => (hnew a ha).follow, hsending, hbuffer]
  · exact h.free.append fun a ha past huses => absurd huses (hnew a ha).not_usesBuffer
  · have hqueued : queuedConfirms s.self new = [] :=
      List.filterMap_eq_nil_iff.mpr fun a ha => (hnew a ha).queuedConfirm
    have htransmitted : transmittedConfirms s.self new = [] :=
      List.filterMap_eq_nil_iff.mpr fun a ha => (hnew a ha).transmittedConfirm
    rw [hqueued, htransmitted, hqueue, List.append_nil, List.nil_append]

theorem InFlight.outstanding_eq_none (h : s.InFlight) (hidle : s.ctx.isSending = false) :
    Master.outstanding s.self s.channel.log = none := by
  rw [h.outstanding, hidle]
  rfl

/-- Something is built in the free buffer. -/
theorem InFlight.free_build (h : s.InFlight) (hidle : s.ctx.isSending = false)
    (apdu : List UInt8) : Lib.Justified (Free s.self) (s.channel.log ++ [.build s.self apdu]) :=
  h.free.concat fun _ => h.outstanding_eq_none hidle

/-- Something is built in the free buffer and handed to the lower layer. -/
theorem InFlight.free_send (h : s.InFlight) (hidle : s.ctx.isSending = false) (what : Sent ι)
    (apdu : List UInt8) :
    Lib.Justified (Free s.self)
      (s.channel.log ++ [.build s.self apdu, .transmit s.self what apdu]) := by
  have hsend := (h.free_build hidle apdu).concat (a := .transmit s.self what apdu) fun _ =>
    (outstanding_append ..).trans (h.outstanding_eq_none hidle)
  rwa [List.append_assoc] at hsend

theorem ctx_finished (s : Session ι σ) :
    s.finished.ctx = { s.ctx with activeTask := none, tstate := .IDLE } := by
  unfold finished assign completeActiveTask
  cases hactive : s.ctx.activeTask <;> simp [hactive]

/-- A request that is sent. -/
theorem InFlight.send_request (h : s.InFlight) (hidle : s.ctx.isSending = false) {t : TaskId ι}
    {apdu : List UInt8} (hself : s'.self = s.self) (hsending : s'.ctx.isSending = true)
    (hbuffer : s'.ctx.txBuffer = apdu) (hqueue : s'.ctx.confirmQueue = s.ctx.confirmQueue)
    (hlog : s'.channel.log =
      s.channel.log ++ [.build s.self apdu, .transmit s.self (.request t) apdu]) :
    s'.InFlight := by
  refine h.extend hself hlog ?_ (h.free_send hidle (.request t) apdu) ?_
  · simp [followTransmission, hsending, hbuffer]
  · exact (List.append_nil _).trans hqueue.symm

theorem InFlight.elsewhere (h : s.InFlight) (helse : s.Elsewhere s') : s'.InFlight := by
  obtain ⟨new, hlog, hnew⟩ := helse.log
  exact h.still helse.self (by rw [helse.ctx]) (by rw [helse.ctx]) (by rw [helse.ctx]) hlog
    fun a ha => Action.still_of_master (hnew a ha)

theorem InFlight.made (h : s.InFlight) {task : IMasterTask ι σ} (hmakes : Makes s s' task) :
    s'.InFlight := by
  obtain ⟨new, hlog, hnew⟩ := hmakes.log (P := (·.Still s.self)) trivial
  exact h.still hmakes.self (by rw [hmakes.ctx]) (by rw [hmakes.ctx]) (by rw [hmakes.ctx]) hlog hnew

/-- A layer that goes down ends the transmission and leaves the queue alone. -/
theorem InFlight.closed (h : s.InFlight) : s.closed.InFlight := by
  refine h.extend rfl (log_closed s) ?_ ?_ ?_
  · rw [Channel.closing, List.foldl_append]
    simp [followTransmission, Session.closed]
  · refine h.free.append fun a ha past huses => ?_
    obtain ⟨r, -, rfl⟩ | rfl := Channel.mem_closing _ ha <;> exact absurd huses id
  · have hqueued : queuedConfirms s.self (s.channel.closing s.self) = [] := by
      refine List.filterMap_eq_nil_iff.mpr fun a ha => ?_
      obtain ⟨r, -, rfl⟩ | rfl := Channel.mem_closing _ ha <;> rfl
    have htransmitted : transmittedConfirms s.self (s.channel.closing s.self) = [] := by
      refine List.filterMap_eq_nil_iff.mpr fun a ha => ?_
      obtain ⟨r, -, rfl⟩ | rfl := Channel.mem_closing _ ha <;> rfl
    rw [hqueued, htransmitted]
    exact List.append_nil _

variable [VirtualTask σ] {i : Input ι σ}

/-- Every move keeps the log, the buffer and the queue in agreement. -/
theorem InFlight.move (h : s.InFlight) (hmove : Move i s s') : s'.InFlight := by
  cases hmove with
  | receive | soe | receiveIIN => exact h.still rfl rfl rfl rfl rfl (by simp [Action.Still])
  | demand tasks =>
    exact h.still rfl rfl rfl rfl ((log_evaluate tasks).trans (List.append_nil _).symm) (by simp)
  | queue response =>
    refine h.extend rfl rfl rfl (h.free.concat fun huses => absurd huses id) ?_
    simp [queuedConfirms, transmittedConfirms, queuedConfirm, transmittedConfirm, enqueue]
  | sendConfirm confirm rest hqueue hidle =>
    refine h.extend rfl (log_sendConfirm s confirm rest) ?_ (h.free_send hidle _ _) ?_
    · simp [followTransmission, sendConfirm, build, transmit]
    · simp [queuedConfirms, transmittedConfirms, List.filterMap_cons, queuedConfirm,
        transmittedConfirm, hqueue, sendConfirm]
  | txDone =>
    refine h.extend rfl rfl ?_ (h.free.concat fun huses => absurd huses id) ?_
    · simp [followTransmission, txDone]
    · exact List.append_nil _
  | request t state apdu _ _ hidle =>
    exact h.send_request hidle rfl rfl rfl rfl (log_transmit_built s t state apdu)
  | requestOnly t state apdu _ _ hidle =>
    exact h.send_request hidle (self_finished _) (by rw [ctx_finished]; rfl)
      (by rw [ctx_finished]; rfl) (by rw [ctx_finished]; rfl)
      ((log_finished _).trans (log_transmit_built s t state apdu))
  | formatError t state apdu _ _ hidle =>
    -- the buffer is used, but nothing is sent
    refine h.extend (self_finished _)
      ((log_finished _).trans (log_completeTask_built s t state apdu _)) ?_ ?_ ?_
    · rw [ctx_finished]
      change _ = if s.ctx.isSending then _ else none
      rw [hidle]
      rfl
    · have hboth := (h.free_build hidle apdu).concat
        (a := .onComplete t .FAILURE_MESSAGE_FORMAT_ERROR) fun huses => absurd huses id
      rwa [List.append_assoc] at hboth
    · rw [ctx_finished]
      exact List.append_nil _
  | goOn t response state calls | again t response state calls =>
    exact h.still rfl rfl rfl rfl (log_answered s t response state calls) (by simp [Action.Still])
  | done t response state calls result completion =>
    refine h.still (self_finished _) (by rw [ctx_finished]; rfl) (by rw [ctx_finished]; rfl)
      (by rw [ctx_finished]; rfl)
      ((log_finished _).trans (log_completeTask_answered s t response state calls completion)) ?_
    simp [or_imp, forall_and, Action.Still]
  | timeout t =>
    exact h.still (self_finished _) (by rw [ctx_finished]; rfl) (by rw [ctx_finished]; rfl)
      (by rw [ctx_finished]; rfl) (log_finished _) (by simp [Action.Still])
  | up => exact h.still rfl rfl rfl rfl (log_opened s) (by simp [Action.Still])
  | bind u => exact h.made (makes_scheduleRecurringPollTask s u)
  | adhoc u => exact h.made (makes_scheduleAdhocTask s u)

end Session

/-! ## The queue drains -/

/-- No confirm waits unless something is being sent. -/
def MContext.Settled (c : MContext ι) : Prop := c.isSending = false → c.confirmQueue = []

namespace Session

variable {s s' : Session ι σ}

theorem settled_checkConfirmTransmit (s : Session ι σ) :
    s.checkConfirmTransmit.ctx.Settled := by
  obtain ⟨hnothing, heq⟩ | ⟨confirm, rest, -, -, heq⟩ := s.checkConfirmTransmit_cases
  · rw [heq]
    intro hidle
    simpa [hidle] using hnothing
  · rw [heq]
    nofun

theorem settled_confirmIfAsked (h : s.ctx.Settled) (response : Response) :
    (s.confirmIfAsked response).ctx.Settled := by
  unfold confirmIfAsked
  split
  · exact settled_checkConfirmTransmit _
  · exact h

theorem settled_onLowerLayerUp (h : s.ctx.Settled) : s.onLowerLayerUp.ctx.Settled := by
  unfold onLowerLayerUp
  split <;> exact h

variable [DecidableEq ι]

theorem settled_finished (h : s.ctx.Settled) : s.finished.ctx.Settled := by
  rw [ctx_finished]
  exact h

theorem ctx_processIIN (s : Session ι σ) (iin : IINField) : (s.processIIN iin).ctx = s.ctx := by
  have hdemand : ∀ (s : Session ι σ) task, (s.demandAndEvaluate task).ctx = s.ctx := by
    intro s task
    unfold demandAndEvaluate demand
    cases s.ctx.hasTask task <;> rfl
  have hif : ∀ (p : Prop) [Decidable p] (s : Session ι σ) task,
      (if p then s.demandAndEvaluate task else s).ctx = s.ctx := by
    intro p _ s task
    split
    · exact hdemand s task
    · rfl
  have hrestart : ∀ (p : Prop) [Decidable p],
      (if p then s.onRestartDetected.evaluate else s).ctx = s.ctx := by
    intro p _
    split
    · unfold onRestartDetected
      rw [foldl_demand]
      rfl
    · rfl
  simp only [processIIN, act, hif]
  exact hrestart _

theorem settled_onResponseTimeout (h : s.ctx.Settled) : s.onResponseTimeout.ctx.Settled := by
  unfold onResponseTimeout onResponseTimeoutEvent
  split
  · split
    · unfold onResponseTimeoutWaitForResponse
      cases hactive : s.ctx.activeTask with
      | none => exact h
      | some t =>
        exact settled_finished
          (s := (s.completeTask t .FAILURE_RESPONSE_TIMEOUT).incrementSolSeq) h
    · exact h
  · exact h

variable [VirtualTask σ]

theorem settled_resumeActiveTask (h : s.ctx.Settled) : (assign s.resumeActiveTask).ctx.Settled := by
  cases hactive : s.ctx.activeTask with
  | none =>
    simp only [resumeActiveTask, hactive]
    exact h
  | some t =>
    cases hbuild : VirtualTask.buildRequest (s.channel.objects t).state s.ctx.solSeq
        s.ctx.params.maxTxFragSize s.channel.utc with
    | mk state rest =>
      obtain ⟨success, apdu⟩ := rest
      simp only [resumeActiveTask, hactive, hbuild]
      cases success with
      | false =>
        exact settled_finished (s := (s.built t state apdu).completeTask t
          .FAILURE_MESSAGE_FORMAT_ERROR) h
      | true =>
        cases (s.channel.objects t).expectsResponse with
        | false =>
          exact settled_finished
            (s := ((s.built t state apdu).transmit (.request t) apdu).incrementSolSeq)
            fun hidle => Bool.noConfusion hidle
        | true => exact fun hidle => Bool.noConfusion hidle

theorem settled_onResponseWaitForResponse (h : s.ctx.Settled) (response : Response) :
    (assign (s.onResponseWaitForResponse response)).ctx.Settled := by
  by_cases hseq : response.header.control.SEQ = s.ctx.solSeq
  swap
  · unfold onResponseWaitForResponse
    rw [if_pos hseq]
    exact h
  cases hactive : s.ctx.activeTask with
  | none =>
    unfold onResponseWaitForResponse
    rw [if_neg (by simp [hseq]), hactive]
    exact h
  | some t =>
    cases hprocess : VirtualTask.processResponse (s.channel.objects t).state response
        s.channel.utc with
    | mk state rest =>
      obtain ⟨result, calls⟩ := rest
      rw [onResponseWaitForResponse_eq hactive hseq hprocess]
      have hanswered : (s.answered t response state calls).ctx.Settled := h
      -- by the result of the task: wait on, send again, or finish
      cases result with
      | OK_CONTINUE => exact settled_confirmIfAsked hanswered response
      | OK_REPEAT =>
        have hconfirm := settled_confirmIfAsked hanswered response
        dsimp only
        unfold startTaskTaskReady
        split
        · exact hconfirm
        · exact settled_resumeActiveTask hconfirm
      | OK_FINAL =>
        exact settled_finished (settled_confirmIfAsked
          (s := (s.answered t response state calls).completeTask t .SUCCESS) h response)
      | ERROR_BAD_RESPONSE =>
        exact settled_finished (settled_confirmIfAsked
          (s := (s.answered t response state calls).completeTask t .FAILURE_BAD_RESPONSE) h response)

theorem settled_onReceive (h : s.ctx.Settled) (message : Message) :
    (s.onReceive message).ctx.Settled := by
  unfold onReceive
  -- offline, other addresses or an unreadable message: nothing happens
  split
  · exact h
  split
  · exact h
  split
  · exact h
  split
  · exact h
  rename_i response _
  unfold processAPDU
  split
  · unfold processUnsolicitedResponse
    split
    · exact h
    · rw [ctx_processIIN]
      split
      · exact settled_checkConfirmTransmit _
      · exact h
  · unfold processResponse
    rw [ctx_processIIN]
    unfold onResponseEvent
    split
    · exact settled_onResponseWaitForResponse
        (s := s.act (.receive s.self response.header response.objects)) h response
    · exact h
  · exact h

theorem settled_onTxReady (h : s.ctx.Settled) : s.onTxReady.ctx.Settled := by
  unfold onTxReady
  split
  · exact h
  · exact settled_checkConfirmTransmit _

theorem settled_run (h : s.ctx.Settled) (t : TaskId ι) : (s.run t).1.ctx.Settled := by
  unfold run
  split
  · exact h
  split
  · exact h
  · exact settled_resumeActiveTask (s := s.begun t) h

end Session

namespace World

variable {w : World ι σ}

/-- No confirm of any master waits unless that master is sending something. -/
def Settled (w : World ι σ) : Prop := ∀ m, (w.masters m).Settled

theorem Settled.withChannel (h : w.Settled) (f : Channel ι σ → Channel ι σ) :
    (w.withChannel f).Settled := h

variable [DecidableEq ι]

theorem Settled.put (h : w.Settled) {s : Session ι σ} (hs : s.ctx.Settled) :
    (w.put s).Settled := by
  intro k
  by_cases hk : k = s.self
  · subst hk
    simpa [World.put] using hs
  · simpa [World.put, Function.update_of_ne hk] using h k

/-- Nothing is sent or built before the transmission in progress is over, its bytes stay in the
    buffer, and every confirm that was queued has been sent when there is none. -/
structure Transmits (m : ι) (w : World ι σ) : Prop where
  /-- `Transmit` and the writes to the buffer find no transmission in progress. -/
  exclusive : Lib.Justified (fun past a => a.UsesBuffer m → outstanding m past = none)
    w.channel.log
  /-- The lower layer's bytes are those in the buffer. -/
  kept : ∀ apdu, outstanding m w.channel.log = some apdu → (w.masters m).txBuffer = apdu
  /-- No confirm is left when nothing is being sent. -/
  drained : outstanding m w.channel.log = none →
    transmittedConfirms m w.channel.log = queuedConfirms m w.channel.log

theorem inFlight_init (setup : Setup ι σ) (now : Timestamp) (m : ι) :
    ((init setup now).session m).InFlight :=
  ⟨rfl, Lib.justified_nil, rfl⟩

/-- What is always true of the transmissions makes the rest a matter of the queue. -/
theorem transmits_iff_settled (h : ∀ m, (w.session m).InFlight) :
    (∀ m, Transmits m w) ↔ w.Settled := by
  have houtstanding : ∀ m, outstanding m w.channel.log =
      if (w.masters m).isSending then some (w.masters m).txBuffer else none :=
    fun m => (h m).outstanding
  have hqueue : ∀ m, queuedConfirms m w.channel.log =
      transmittedConfirms m w.channel.log ++ (w.masters m).confirmQueue := fun m => (h m).queue
  constructor
  · intro htransmits m hidle
    have hdrained := (htransmits m).drained (by rw [houtstanding, hidle]; rfl)
    rw [hqueue] at hdrained
    simpa using hdrained
  · intro hsettled m
    refine ⟨(h m).free, ?_, ?_⟩
    · intro apdu hsome
      rw [houtstanding] at hsome
      cases hsending : (w.masters m).isSending with
      | true => simpa [hsending] using hsome
      | false => simp [hsending] at hsome
    · intro hnone
      rw [houtstanding] at hnone
      cases hsending : (w.masters m).isSending with
      | true => simp [hsending] at hnone
      | false => rw [hqueue, hsettled m hsending, List.append_nil]

variable [VirtualTask σ]

theorem Settled.checkForTaskRun (h : w.Settled) : w.checkForTaskRun.Settled := by
  unfold World.checkForTaskRun
  dsimp only
  split
  · exact h
  split
  · exact h
  split
  · exact h.put (Session.settled_run (h _) _)
  · exact h

/-- Nothing but a layer that goes down leaves confirms in the queue of a master that does not
    send. -/
theorem Settled.step (h : w.Settled) {i : Input ι σ} (hi : ∀ m, i ≠ .onLowerLayerDown m) :
    (w.step i).Settled := by
  cases i with
  | onLowerLayerDown m => exact absurd rfl (hi m)
  | onLowerLayerUp m => exact h.put (Session.settled_onLowerLayerUp (h m))
  | onReceive m message => exact h.put (Session.settled_onReceive (h m) message)
  | onTxReady m => exact h.put (Session.settled_onTxReady (h m))
  | onResponseTimeout m => exact h.put (Session.settled_onResponseTimeout (h m))
  | scheduleRecurringPollTask m u =>
    refine h.put ?_
    rw [(Session.makes_scheduleRecurringPollTask _ u).ctx]
    exact h m
  | scheduleAdhocTask m u =>
    refine h.put ?_
    rw [(Session.makes_scheduleAdhocTask _ u).ctx]
    exact h m
  | checkForTaskRun | demand t | taskTimer => exact (h.withChannel _).checkForTaskRun
  | taskStartTimeout | clock now utc | assignClassDuringStartup m answer => exact h

/-- The queue of a master stays empty unless it sends, but for a layer that goes down. -/
theorem settled_step_iff (h : w.Settled) (i : Input ι σ) :
    (w.step i).Settled ↔ ∀ m, i = .onLowerLayerDown m → (w.masters m).isOnline = true →
      (w.masters m).confirmQueue = [] := by
  by_cases hdown : ∃ m, i = .onLowerLayerDown m
  · obtain ⟨m, rfl⟩ := hdown
    rw [step_onLowerLayerDown]
    split
    · rename_i honline
      constructor
      · intro hsettled k hk _
        cases hk
        have hqueue := hsettled m
        rw [show (w.put (w.session m).closed).masters m = (w.session m).closed.ctx by
          simp [World.put, Session.closed, World.session]] at hqueue
        exact hqueue rfl
      · intro hok
        exact h.put fun _ => hok m rfl honline
    · rename_i hoffline
      refine iff_of_true h fun k hk honline => ?_
      cases hk
      exact absurd honline hoffline
  · have hother : ∀ m, i ≠ .onLowerLayerDown m := fun m hm => hdown ⟨m, hm⟩
    exact iff_of_true (h.step hother) fun m hm => absurd hm (hother m)

/-! ## Runs -/

theorem inFlight_step (hw : w.Owned) (h : ∀ m, (w.session m).InFlight) (i : Input ι σ) (m : ι) :
    ((w.step i).session m).InFlight :=
  sessions_step (P := Session.InFlight) hw h (fun _ _ _ h hmove => h.move hmove)
    (fun _ _ h helse => h.elsewhere helse) (fun m _ _ => (h m).closed) m

/-- **Transmissions exclude each other, and the queue of confirms drains**, in every state of a
    run, exactly if no layer of the run goes down while its master has confirms in the queue. -/
theorem transmissions_iff (setup : Setup ι σ) (now : Timestamp) (inputs : List (Input ι σ)) :
    Lib.Always step (fun w => ∀ m, Transmits m w) (init setup now) inputs ↔
      Lib.Along step (fun w i => ∀ m, i = .onLowerLayerDown m → (w.masters m).isOnline = true →
        (w.masters m).confirmQueue = []) (init setup now) inputs := by
  have hstep : ∀ (w : World ι σ) i, (w.Owned ∧ ∀ m, (w.session m).InFlight) →
      (w.step i).Owned ∧ ∀ m, ((w.step i).session m).InFlight :=
    fun w i h => ⟨h.1.step i, inFlight_step h.1 h.2 i⟩
  have hinit : (init setup now).Owned ∧ ∀ m, ((init setup now).session m).InFlight :=
    ⟨owned_init setup now, inFlight_init setup now⟩
  rw [Lib.always_and_iff (fun w i h _ _ => hstep w i h) hinit]
  refine Lib.always_iff_along ?_ ⟨hinit, ?_⟩
  · rintro w i ⟨hinv, htransmits⟩
    have hsettled := (transmits_iff_settled hinv.2).mp htransmits
    rw [← settled_step_iff hsettled i, ← transmits_iff_settled (hstep w i hinv).2]
    exact ⟨And.right, fun h => ⟨hstep w i hinv, h⟩⟩
  · exact (transmits_iff_settled hinit.2).mpr fun _ _ => rfl

/-- A confirm waits behind another one when the layer goes down.  Nothing is being sent then, but
    the confirm is still in the queue, also when the layer has come up again. -/
theorem not_drained_after_down :
    ¬Transmits () (Lib.run step (init Single.setup 0)
      [.onLowerLayerUp (), Single.message [0xF0, 0x82, 0, 0], Single.message [0xF1, 0x82, 0, 0],
        .onLowerLayerDown (), .onLowerLayerUp ()]) := by
  intro h
  exact absurd (h.drained (by decide +kernel)) (by decide +kernel)

end World

/-! ## Confirms and responses -/

section Since

/-- Actions that are neither about responses nor about confirms of the master. -/
def Action.Mute (m : ι) : Action ι → Prop
  | .onOpen k | .receive k _ _ | .queueConfirm k _ | .transmit k (.confirm _) _ => k ≠ m
  | _ => True

theorem Action.mute_of_master {m : ι} {a : Action ι} (h : a.master ≠ some m) : a.Mute m := by
  cases a with
  | transmit k what apdu => cases what <;> simp_all [Action.master, Action.Mute]
  | _ => simp_all [Action.master, Action.Mute]

variable {new : List (Action ι)}

theorem onOpen_notMem_of_mute {m : ι} (hnew : ∀ a ∈ new, a.Mute m) :
    .onOpen m ∉ new := fun h => hnew _ h rfl

variable [DecidableEq ι] (m : ι)

/-- What the log says since the layer of the master was last opened. -/
def sinceOpen (log : List (Action ι)) : List (Action ι) :=
  log.foldl (fun since a => if a = .onOpen m then [] else since ++ [a]) []

/-- The kind and the number of a response that asks for a confirm. -/
def askOf (response : Response) : List (Bool × Fin 16) :=
  if response.header.control.CON ∧ (response.header.function = .RESPONSE ∨
      response.header.function = .UNSOLICITED_RESPONSE) then
    [(response.header.control.UNS, response.header.control.SEQ)]
  else []

def askedBy : Action ι → List (Bool × Fin 16)
  | .receive k header objects => if k = m then askOf ⟨header, objects⟩ else []
  | _ => []

/-- The responses since the layer was opened that ask for a confirm. -/
def asked (log : List (Action ι)) : List (Bool × Fin 16) := (sinceOpen m log).flatMap (askedBy m)

def kindOf (confirm : APDUHeader) : Bool × Fin 16 := (confirm.control.UNS, confirm.control.SEQ)

/-- The confirms since the layer was opened. -/
def confirmed (log : List (Action ι)) : List (Bool × Fin 16) :=
  (transmittedConfirms m (sinceOpen m log)).map kindOf

variable {m}

variable (log : List (Action ι))

theorem sinceOpen_append (hnew : .onOpen m ∉ new) :
    sinceOpen m (log ++ new) = sinceOpen m log ++ new := by
  induction new generalizing log with
  | nil => simp
  | cons a rest ih =>
    have ha : a ≠ .onOpen m := fun h => hnew (by simp [h])
    have hfirst : sinceOpen m (log ++ [a]) = sinceOpen m log ++ [a] := by
      simp [sinceOpen, ha]
    have hrest := ih (log ++ [a]) fun h => hnew (List.mem_cons_of_mem a h)
    rw [hfirst, List.append_assoc, List.append_assoc] at hrest
    exact hrest

theorem asked_append (hnew : .onOpen m ∉ new) :
    asked m (log ++ new) = asked m log ++ new.flatMap (askedBy m) := by
  rw [asked, sinceOpen_append log hnew, List.flatMap_append]
  rfl

theorem confirmed_append (hnew : .onOpen m ∉ new) :
    confirmed m (log ++ new) = confirmed m log ++ (transmittedConfirms m new).map kindOf := by
  rw [confirmed, sinceOpen_append log hnew, transmittedConfirms_append, List.map_append]
  rfl

end Since

namespace Session

variable [DecidableEq ι] {s s' : Session ι σ}

/-- A confirm and those before it are for responses that were received before, each for one of
    its own and in their order. -/
def Timely (m : ι) (past : List (Action ι)) (a : Action ι) : Prop :=
  ∀ confirm apdu, a = .transmit m (.confirm confirm) apdu →
    (confirmed m past ++ [kindOf confirm]).Sublist (asked m past)

/-- The confirms that were sent and those in the queue are for responses, in their order.  The
    last response is not among them as long as no confirm has been queued for it. -/
structure Matched (s : Session ι σ) : Prop where
  timely : Lib.Justified (Timely s.self) s.channel.log
  matched : ∃ used, asked s.self s.channel.log =
      used ++ ((unconfirmed s.self s.channel.log).map askOf).getD [] ∧
    (confirmed s.self s.channel.log ++ s.ctx.confirmQueue.map kindOf).Sublist used
  offline : s.ctx.isOnline = false → s.ctx.confirmQueue = []

section Mute

variable {m : ι} {new : List (Action ι)} (hnew : ∀ a ∈ new, a.Mute m)

include hnew

variable (log : List (Action ι))

theorem asked_of_mute : asked m (log ++ new) = asked m log := by
  have hnil : new.flatMap (askedBy m) = [] := by
    rw [List.flatMap_eq_nil_iff]
    intro a ha
    have hmute := hnew a ha
    cases a <;> simp_all [Action.Mute, askedBy]
  rw [asked_append log (onOpen_notMem_of_mute hnew), hnil, List.append_nil]

theorem confirmed_of_mute : confirmed m (log ++ new) = confirmed m log := by
  have hnil : transmittedConfirms m new = [] := by
    refine List.filterMap_eq_nil_iff.mpr fun a ha => ?_
    have hmute := hnew a ha
    cases a with
    | transmit k what apdu => cases what <;> simp_all [Action.Mute, transmittedConfirm]
    | _ => rfl
  rw [confirmed_append log (onOpen_notMem_of_mute hnew), hnil, List.map_nil, List.append_nil]

theorem unconfirmed_of_mute : unconfirmed m (log ++ new) = unconfirmed m log := by
  rw [unconfirmed_append]
  refine Lib.foldl_ignore (fun a ha last => ?_) _
  have hmute := hnew a ha
  cases a <;> simp_all [Action.Mute, keepUnconfirmed]

end Mute

theorem Matched.mute (h : s.Matched) (hself : s'.self = s.self)
    (hqueue : s'.ctx.confirmQueue = s.ctx.confirmQueue)
    (hoffline : s'.ctx.isOnline = false → s.ctx.isOnline = false ∨ s.ctx.confirmQueue = [])
    {new : List (Action ι)} (hlog : s'.channel.log = s.channel.log ++ new)
    (hnew : ∀ a ∈ new, a.Mute s.self) : s'.Matched where
  timely := by
    rw [hself, hlog]
    refine h.timely.append ?_
    rintro a ha past confirm apdu rfl
    exact absurd rfl (hnew _ ha)
  matched := by
    rw [hself, hlog, hqueue, asked_of_mute hnew, confirmed_of_mute hnew, unconfirmed_of_mute hnew]
    exact h.matched
  offline := by
    intro hoff
    rw [hqueue]
    exact (hoffline hoff).elim h.offline id

/-- Something more is logged. -/
theorem Matched.extend (hself : s'.self = s.self) {new : List (Action ι)}
    (hlog : s'.channel.log = s.channel.log ++ new) (hopen : .onOpen s.self ∉ new)
    (htimely : Lib.Justified (Timely s.self) (s.channel.log ++ new))
    (hoffline : s'.ctx.isOnline = false → s'.ctx.confirmQueue = [])
    (hmatched : ∃ used, asked s.self s.channel.log ++ new.flatMap (askedBy s.self) =
        used ++ ((new.foldl (keepUnconfirmed s.self) (unconfirmed s.self s.channel.log)).map
          askOf).getD [] ∧
      (confirmed s.self s.channel.log ++ ((transmittedConfirms s.self new).map kindOf ++
        s'.ctx.confirmQueue.map kindOf)).Sublist used) : s'.Matched where
  timely := by rwa [hself, hlog]
  matched := by
    rwa [hself, hlog, asked_append _ hopen, confirmed_append _ hopen, unconfirmed_append,
      List.append_assoc (confirmed ..)]
  offline := hoffline

/-- All confirms, sent or waiting, are for responses. -/
theorem Matched.sublist (h : s.Matched) :
    (confirmed s.self s.channel.log ++ s.ctx.confirmQueue.map kindOf).Sublist
      (asked s.self s.channel.log) := by
  obtain ⟨used, hasked, hsub⟩ := h.matched
  rw [hasked]
  exact hsub.trans (List.sublist_append_left ..)

theorem Matched.elsewhere (h : s.Matched) (helse : s.Elsewhere s') : s'.Matched := by
  obtain ⟨new, hlog, hnew⟩ := helse.log
  exact h.mute helse.self (by rw [helse.ctx]) (by rw [helse.ctx]; exact .inl) hlog
    fun a ha => Action.mute_of_master (hnew a ha)

theorem Matched.made (h : s.Matched) {task : IMasterTask ι σ} (hmakes : Makes s s' task) :
    s'.Matched := by
  obtain ⟨new, hlog, hnew⟩ := hmakes.log (P := (·.Mute s.self)) trivial
  exact h.mute hmakes.self (by rw [hmakes.ctx]) (by rw [hmakes.ctx]; exact .inl) hlog hnew

/-- A layer may go down if no confirm is waiting. -/
theorem Matched.closed (h : s.Matched) (hqueue : s.ctx.confirmQueue = []) : s.closed.Matched := by
  refine h.mute rfl rfl (fun _ => .inr hqueue) (log_closed s) fun a ha => ?_
  obtain ⟨r, -, rfl⟩ | rfl := Channel.mem_closing _ ha <;> trivial

/-- A confirm tells the kind and the number of the response it is for. -/
theorem kindOf_confirmOf {response : Response}
    (hkind : response.header.function = .RESPONSE ∨
      response.header.function = .UNSOLICITED_RESPONSE ∧ response.header.control.UNS = true)
    (hsolicited : response.header.function = .RESPONSE → response.header.control.UNS = false) :
    kindOf (confirmOf response) = (response.header.control.UNS, response.header.control.SEQ) := by
  obtain hfunction | ⟨hfunction, huns⟩ := hkind
  · simp [kindOf, confirmOf, hfunction, solicitedConfirm, hsolicited hfunction]
  · simp [kindOf, confirmOf, hfunction, unsolicitedConfirm, huns]

variable [VirtualTask σ] {i : Input ι σ}

/-- Every move keeps confirms and responses matched, if solicited responses do not claim to be
    unsolicited. -/
theorem Matched.move (h : s.Matched) (hmove : Move i s s')
    (hsolicited : ∀ response, i.Brings s.self response → response.header.control.CON = true →
      response.header.function = .RESPONSE → response.header.control.UNS = false) :
    s'.Matched := by
  cases hmove with
  | receive response =>
    have hopen : .onOpen s.self ∉ [Action.receive s.self response.header response.objects] := by
      simp
    refine Matched.extend (s := s) rfl rfl hopen (h.timely.concat (by simp [Timely])) h.offline ?_
    -- the last response is the one that may still get a confirm
    refine ⟨asked s.self s.channel.log, ?_, ?_⟩
    · simp [askedBy, keepUnconfirmed]
    · exact h.sublist
  | soe | receiveIIN | txDone => exact h.mute rfl rfl .inl rfl (by simp [Action.Mute])
  | demand tasks =>
    exact h.mute rfl rfl .inl ((log_evaluate tasks).trans (List.append_nil _).symm) (by simp)
  | queue response hi hlast hcon hkind honline =>
    have hopen : .onOpen s.self ∉ [Action.queueConfirm s.self (confirmOf response)] := by simp
    refine Matched.extend (s := s) rfl rfl hopen (h.timely.concat (by simp [Timely])) ?_ ?_
    · intro hoffline
      rw [show (s.enqueue (confirmOf response)).ctx.isOnline = true from honline] at hoffline
      cases hoffline
    · obtain ⟨used, hasked, hsub⟩ := h.matched
      have hask : askOf response = [kindOf (confirmOf response)] := by
        rw [kindOf_confirmOf hkind (hsolicited response hi hcon), askOf,
          if_pos ⟨hcon, hkind.imp_right And.left⟩]
      rw [hlast, Option.map_some, Option.getD_some, hask] at hasked
      refine ⟨asked s.self s.channel.log, ?_, ?_⟩
      · simp [askedBy, keepUnconfirmed]
      · rw [hasked]
        simpa [enqueue, transmittedConfirms, List.filterMap_cons, transmittedConfirm]
          using hsub.append_right [kindOf (confirmOf response)]
  | sendConfirm confirm rest hqueue hidle honline =>
    have hopen : .onOpen s.self ∉ [Action.build s.self
        [confirm.control.toByte, confirm.function.toType], .transmit s.self (.confirm confirm)
        [confirm.control.toByte, confirm.function.toType]] := by simp
    refine Matched.extend (s := s) rfl (log_sendConfirm s confirm rest) hopen ?_ ?_ ?_
    · have hbuild := h.timely.concat
        (a := .build s.self [confirm.control.toByte, confirm.function.toType]) (by simp [Timely])
      have hboth := hbuild.concat (a := .transmit s.self (.confirm confirm)
        [confirm.control.toByte, confirm.function.toType]) ?_
      · rwa [List.append_assoc] at hboth
      · -- it is the first confirm of the queue
        intro first apdu heq
        cases heq
        rw [confirmed_of_mute (by simp [Action.Mute]), asked_of_mute (by simp [Action.Mute])]
        refine List.Sublist.trans ?_ h.sublist
        simp [hqueue]
    · intro hoffline
      rw [show (s.sendConfirm confirm rest).ctx.isOnline = true from honline] at hoffline
      cases hoffline
    · obtain ⟨used, hasked, hsub⟩ := h.matched
      refine ⟨used, ?_, ?_⟩
      · simpa [askedBy, keepUnconfirmed] using hasked
      · simpa [hqueue, sendConfirm, transmittedConfirms, List.filterMap_cons, transmittedConfirm]
          using hsub
  | request t state apdu =>
    exact h.mute rfl rfl .inl (log_transmit_built s t state apdu) (by simp [Action.Mute])
  | requestOnly t state apdu =>
    exact h.mute (self_finished _) (by rw [ctx_finished]; rfl) (by rw [ctx_finished]; exact .inl)
      ((log_finished _).trans (log_transmit_built s t state apdu)) (by simp [Action.Mute])
  | formatError t state apdu =>
    exact h.mute (self_finished _) (by rw [ctx_finished]; rfl) (by rw [ctx_finished]; exact .inl)
      ((log_finished _).trans (log_completeTask_built s t state apdu _)) (by simp [Action.Mute])
  | goOn t response state calls | again t response state calls =>
    exact h.mute rfl rfl .inl (log_answered s t response state calls) (by simp [Action.Mute])
  | done t response state calls result completion =>
    refine h.mute (self_finished _) (by rw [ctx_finished]; rfl) (by rw [ctx_finished]; exact .inl)
      ((log_finished _).trans (log_completeTask_answered s t response state calls completion)) ?_
    simp [or_imp, forall_and, Action.Mute]
  | timeout t =>
    exact h.mute (self_finished _) (by rw [ctx_finished]; rfl) (by rw [ctx_finished]; exact .inl)
      (log_finished _) (by simp [Action.Mute])
  | up hi hoffline =>
    have hlog := log_opened s
    have hqueue : s.opened.ctx.confirmQueue = [] := h.offline hoffline
    have hsince : sinceOpen s.self (s.channel.log ++ [.onOpen s.self]) = [] := by
      simp [sinceOpen]
    refine ⟨?_, ⟨[], ?_, ?_⟩, fun _ => hqueue⟩
    · rw [hlog]
      exact h.timely.concat (by simp [Timely])
    · rw [hlog]
      change (sinceOpen s.self _).flatMap _ = [] ++ ((unconfirmed s.self _).map askOf).getD []
      rw [hsince, unconfirmed_append]
      simp [keepUnconfirmed]
    · rw [hlog, hqueue]
      change List.Sublist ((transmittedConfirms s.self (sinceOpen s.self _)).map kindOf ++ _) _
      rw [hsince]
      exact List.Sublist.refl _
  | bind u => exact h.made (makes_scheduleRecurringPollTask s u)
  | adhoc u => exact h.made (makes_scheduleAdhocTask s u)

end Session

namespace World

/-- The layer goes down only when no confirm is waiting, and no response that asks for a confirm
    is marked as unsolicited unless it is. -/
def Orderly (w : World ι σ) : Input ι σ → Prop
  | .onLowerLayerDown m => (w.masters m).isOnline = true → (w.masters m).confirmQueue = []
  | .onReceive _ message =>
    match parseResponse message.payload with
    | none => True
    | some response =>
      response.header.control.CON = true → response.header.function = .RESPONSE →
        response.header.control.UNS = false
  | _ => True

instance (w : World ι σ) (i : Input ι σ) : Decidable (w.Orderly i) :=
  match i with
  | .onLowerLayerDown m =>
    inferInstanceAs (Decidable ((w.masters m).isOnline = true → (w.masters m).confirmQueue = []))
  | .onReceive _ message =>
    match h : parseResponse message.payload with
    | none => .isTrue (by simp [Orderly, h])
    | some response =>
      decidable_of_iff (response.header.control.CON = true → response.header.function = .RESPONSE →
        response.header.control.UNS = false) (by simp [Orderly, h])
  | .onLowerLayerUp _ | .onTxReady _ | .onResponseTimeout _ | .scheduleRecurringPollTask _ _
  | .scheduleAdhocTask _ _ | .checkForTaskRun | .demand _ | .taskTimer | .taskStartTimeout
  | .clock _ _ | .assignClassDuringStartup _ _ => .isTrue trivial

variable [DecidableEq ι] [VirtualTask σ] {w : World ι σ}

theorem matched_step (hw : w.Owned) (h : ∀ m, (w.session m).Matched) {i : Input ι σ}
    (hi : w.Orderly i) (m : ι) : ((w.step i).session m).Matched := by
  refine sessions_step (P := Session.Matched) hw h ?_ (fun _ _ h helse => h.elsewhere helse) ?_ m
  · intro s s' _ hmatched hmove
    refine hmatched.move hmove ?_
    rintro response ⟨message, rfl, hparse⟩
    simpa [Orderly, hparse] using hi
  · rintro m rfl honline
    exact (h m).closed (hi honline)

/-- **Confirms are sent for responses since the last layer-up, one for each and in their order**,
    in every run in which the layer goes down only when no confirm is waiting and solicited
    responses are not marked as unsolicited. -/
theorem confirms_in_order (setup : Setup ι σ) (now : Timestamp) (inputs : List (Input ι σ))
    (hinputs : Lib.Along step Orderly (init setup now) inputs) (m : ι) :
    Lib.Justified (Session.Timely m) (Lib.run step (init setup now) inputs).channel.log := by
  have hall := Lib.always_of_step
    (P := fun w : World ι σ => w.Owned ∧ ∀ m, (w.session m).Matched)
    (fun w i h hi => ⟨h.1.step i, matched_step h.1 h.2 hi⟩)
    ⟨owned_init setup now, fun _ => ⟨Lib.justified_nil, ⟨[], rfl, .slnil⟩, fun _ => rfl⟩⟩ hinputs
  exact (hall.last.2 m).timely

/-- Two unsolicited responses are confirmed one after the other. -/
theorem confirms_in_order_two :
    Lib.Justified (Session.Timely ()) (Lib.run step (init Single.setup 0)
      [.onLowerLayerUp (), Single.message [0xF0, 0x82, 0, 0], Single.message [0xF1, 0x82, 0, 0],
        .onTxReady (), .onTxReady (), .onLowerLayerDown ()]).channel.log :=
  confirms_in_order Single.setup 0 _ (by decide +kernel) ()

/-- A confirm waits behind another one when the layer goes down, and a response comes in when the
    layer is up again. -/
def staleInputs : List (Input Unit (Task Empty)) :=
  [.onLowerLayerUp (), Single.message [0xF0, 0x82, 0, 0], Single.message [0xF1, 0x82, 0, 0],
    .onLowerLayerDown (), .onLowerLayerUp (), Single.message [0xF5, 0x82, 0, 0]]

/-- The confirm that was left in the queue is sent first, although the response it belongs to is
    from before the layer-up. -/
theorem stale_confirm :
    ¬Lib.Justified (Session.Timely ())
      (Lib.run step (init Single.setup 0) staleInputs).channel.log := by
  intro h
  have hsplit : (Lib.run step (init Single.setup 0) staleInputs).channel.log =
      (Lib.run step (init Single.setup 0) staleInputs).channel.log.take 17 ++
        .transmit () (.confirm (unsolicitedConfirm 1)) [0xD1, 0] ::
          (Lib.run step (init Single.setup 0) staleInputs).channel.log.drop 18 := by
    decide +kernel
  exact absurd (h _ _ _ hsplit _ _ rfl) (by decide +kernel)

end World

end OpenDnp3.Master
