import OpenDnp3.Master.Objects

/-!
# A restart of the outstation demands an integrity poll

A response with the `DEVICE_RESTART` bit resets the schedule of the integrity poll, so that it is
due at once.  Nothing but the completion of a run of the poll makes it due later.  If a run is in
progress when the response comes, its completion does so too, and the demand is lost.
-/

namespace OpenDnp3.Master

open App

variable {ι σ : Type}

/-! ## The bit is seen -/

namespace Session

variable {s s' : Session ι σ} [DecidableEq ι]

theorem due_demandAndEvaluate {t : TaskId ι} (h : (s.channel.objects t).behavior.IsDue)
    (task : StartupTask) :
    ((s.demandAndEvaluate task).channel.objects t).behavior.IsDue := by
  cases hhas : s.ctx.hasTask task with
  | false =>
    simp only [demandAndEvaluate, demand, hhas, Bool.false_eq_true, ↓reduceIte]
    exact h
  | true =>
    simp only [demandAndEvaluate, demand, hhas, ↓reduceIte, evaluate,
      Channel.postCheckForTaskRun_eq]
    obtain hobject | hobject := s.channel.object_setMinExpiration (.own s.self task) t
    · rwa [hobject]
    · rw [hobject]
      exact TaskBehavior.isDue_reset _

theorem due_onRestartDetected (h : s.ctx.hasTask .startupIntegrity = true) :
    (s.onRestartDetected.channel.objects (.own s.self .startupIntegrity)).behavior.IsDue := by
  rw [onRestartDetected, foldl_demand, demandAll, Channel.foldl_setMinExpiration]
  dsimp only
  rw [if_pos (by simp [h])]
  exact TaskBehavior.isDue_reset _

/-- **The integrity poll is due** when the bit has been seen. -/
theorem due_processIIN {iin : IINField} (hrestart : iin.isSet .DEVICE_RESTART = true)
    (hignore : s.ctx.params.ignoreRestartIIN = false)
    (hhas : s.ctx.hasTask .startupIntegrity = true) :
    ((s.processIIN iin).channel.objects (.own s.self .startupIntegrity)).behavior.IsDue := by
  have hif : ∀ (s' : Session ι σ) (b : Bool) (task : StartupTask),
      (s'.channel.objects (.own s.self .startupIntegrity)).behavior.IsDue →
      ((if b then s'.demandAndEvaluate task else s').channel.objects
        (.own s.self .startupIntegrity)).behavior.IsDue := by
    intro s' b task hdue
    split
    · exact due_demandAndEvaluate hdue task
    · exact hdue
  -- one after the other, in the order of the source
  refine hif _ _ .eventScan (hif _ _ .timeSynchronization (hif _ _ .startupIntegrity ?_))
  rw [if_pos (by simp [hrestart, hignore])]
  change (s.onRestartDetected.channel.postCheckForTaskRun.objects _).behavior.IsDue
  rw [Channel.postCheckForTaskRun_eq]
  exact due_onRestartDetected hhas

end Session

/-! ## The poll stays due -/

/-- A run of the task has started and finished. -/
def Finished (t : TaskId ι) (log : List (Action ι)) : Prop :=
  ∃ before between after result,
    log = before ++ .onStart t :: (between ++ .onComplete t result :: after)

theorem Finished.append {t : TaskId ι} {log : List (Action ι)} (h : Finished t log)
    (more : List (Action ι)) : Finished t (log ++ more) := by
  obtain ⟨before, between, after, result, rfl⟩ := h
  exact ⟨before, between, after ++ more, result, by simp⟩

theorem Finished.of_start {t : TaskId ι} {log : List (Action ι)} (h : .onStart t ∈ log)
    (more : List (Action ι)) (result : TaskCompletion) :
    Finished t (log ++ (more ++ [.onComplete t result])) := by
  obtain ⟨before, between, rfl⟩ := List.append_of_mem h
  exact ⟨before, between ++ more, [], result, by simp⟩

namespace World

variable {w w' : World ι σ} {m : ι} {t : TaskId ι} {base more : List (Action ι)}

/-- Since the log was `base`, the layer of the master has gone down, or a run of the task has
    started and finished, or the task is due; in that case a run of it that is in progress has
    started since. -/
def Demanded (m : ι) (t : TaskId ι) (base : List (Action ι)) (w : World ι σ) : Prop :=
  ∃ new, w.channel.log = base ++ new ∧
    (.onClose m ∈ new ∨ Finished t new ∨
      (w.channel.objects t).behavior.IsDue ∧
        ∀ k, w.channel.current = some ⟨t, k⟩ → .onStart t ∈ new)

/-- The task is not completed. -/
theorem Demanded.next (h : Demanded m t base w) (hlog : w'.channel.log = w.channel.log ++ more)
    (hdue : (w.channel.objects t).behavior.IsDue → (w'.channel.objects t).behavior.IsDue)
    (hcurrent : ∀ k, w'.channel.current = some ⟨t, k⟩ →
      w.channel.current = some ⟨t, k⟩ ∨ .onStart t ∈ more) : Demanded m t base w' := by
  obtain ⟨new, hbase, hcases⟩ := h
  refine ⟨new ++ more, by rw [hlog, hbase, List.append_assoc], ?_⟩
  obtain hclose | hfinished | ⟨hisDue, hstart⟩ := hcases
  · exact .inl (List.mem_append_left more hclose)
  · exact .inr (.inl (hfinished.append more))
  · refine .inr (.inr ⟨hdue hisDue, fun k hk => ?_⟩)
    obtain hk | hmore := hcurrent k hk
    · exact List.mem_append_left more (hstart k hk)
    · exact List.mem_append_right new hmore

theorem Demanded.completes (h : Demanded m t base w) {k : ι} {result : TaskCompletion}
    (hcurrent : w.channel.current = some ⟨t, k⟩)
    (hlog : w'.channel.log = w.channel.log ++ (more ++ [.onComplete t result])) :
    Demanded m t base w' := by
  obtain ⟨new, hbase, hcases⟩ := h
  refine ⟨new ++ (more ++ [.onComplete t result]), by rw [hlog, hbase, List.append_assoc], ?_⟩
  obtain hclose | hfinished | ⟨-, hstart⟩ := hcases
  · exact .inl (List.mem_append_left _ hclose)
  · exact .inr (.inl (hfinished.append _))
  · exact .inr (.inl (.of_start (hstart k hcurrent) more result))

theorem Demanded.closes (h : Demanded m t base w) (hlog : w'.channel.log = w.channel.log ++ more)
    (hclose : .onClose m ∈ more) : Demanded m t base w' := by
  obtain ⟨new, hbase, -⟩ := h
  refine ⟨new ++ more, by rw [hlog, hbase, List.append_assoc], .inl ?_⟩
  exact List.mem_append_right new hclose

variable [DecidableEq ι]

/-- Tasks that are ended together run only once; the task is not one of them. -/
theorem objects_completeAll_of_recurring {c : Channel ι σ} {records : List (Record ι)}
    {result : TaskCompletion} (ht : (c.objects t).isRecurring = true)
    (honce : ∀ r ∈ records, (c.objects r.task).isRecurring = false) :
    (c.completeAll records result).objects t = c.objects t := by
  refine Channel.objects_completeAll fun r hr heq => ?_
  have hfalse := honce r hr
  rw [heq, ht] at hfalse
  cases hfalse

theorem Demanded.closed (h : Demanded m t base w) (k : ι)
    (ht : (w.channel.objects t).isRecurring = true) :
    Demanded m t base (w.put (w.session k).closed) := by
  have hlog : (w.put (w.session k).closed).channel.log = w.channel.log ++ w.channel.closing k :=
    Session.log_closed (w.session k)
  by_cases hk : m = k
  · subst hk
    exact h.closes hlog (by simp [Channel.closing])
  · refine h.next hlog (fun hdue => ?_) fun k' hk' => .inl ?_
    · change ((w.channel.setRunnerOffline k).objects t).behavior.IsDue
      rw [Channel.setRunnerOffline_eq, Channel.postCheckForTaskRun_eq]
      rw [objects_completeAll_of_recurring ht]
      · exact hdue
      · intro r hr
        simpa using (List.mem_filter.mp hr).2
    · have hk' : (w.channel.setRunnerOffline k).current = some ⟨t, k'⟩ := hk'
      rw [Channel.current_setRunnerOffline] at hk'
      exact (Option.filter_eq_some_iff.mp hk').1

variable [VirtualTask σ] {i : Input ι σ}

theorem Demanded.turn (h : Demanded m t base w) (hw : w.Owned) (hknown : w.channel.Known t)
    (ht : (w.channel.objects t).isRecurring = true) (hturn : Turn i w w') :
    Demanded m t base w' := by
  -- a check can only make the task due earlier
  have hchecking : ∀ {prepare}, i.prepare = some prepare →
      Demanded m t base (w.checking prepare) := by
    intro prepare hprepare
    have hlog : (w.checking prepare).channel.log = w.channel.log ++ [] := by
      rw [checking_eq hprepare, List.append_nil]
    refine h.next hlog (fun hdue => ?_) fun k hk => .inl ?_
    · change ((prepare w.channel).objects t).behavior.IsDue
      obtain hobject | hobject := Input.object_prepare hprepare w.channel t
      · rwa [hobject]
      · rw [hobject]
        exact TaskBehavior.isDue_reset _
    · rw [checking_eq hprepare] at hk
      exact hk
  cases hturn with
  -- a move of a master: what matters is what it does to the schedule of the task
  | move k s hmove =>
    have hself : s.self = k := hmove.self
    subst hself
    obtain ⟨new, hlog, -⟩ := hmove.log
    have hcurrent : ∀ k, s.channel.current = some ⟨t, k⟩ → w.channel.current = some ⟨t, k⟩ := by
      intro k hk
      obtain hsame | ⟨hnone, -⟩ := hmove.current (hw s.self)
      · exact hsame.symm.trans hk
      · rw [hnone] at hk
        cases hk
    cases (hmove.touches (hw s.self) hknown).schedule with
    | same hbehavior =>
      refine h.next hlog (fun hdue => ?_) fun k hk => .inl (hcurrent k hk)
      change (s.channel.objects t).behavior.IsDue
      rw [hbehavior]
      exact hdue
    | demanded hbehavior =>
      refine h.next hlog (fun _ => ?_) fun k hk => .inl (hcurrent k hk)
      change (s.channel.objects t).behavior.IsDue
      rw [hbehavior]
      exact TaskBehavior.isDue_reset _
    -- the task that runs completes; if it started since, that is the end of it
    | completed result hrunning new hlog => exact h.completes hrunning hlog
  | recheck prepare hprepare | arm prepare best hprepare => exact hchecking hprepare
  -- the task is started now, if it is the best one
  | start prepare best hprepare =>
    have hlog : ((w.checking prepare).beginning best).channel.log =
        (w.checking prepare).channel.log ++ [.onStart best.task] := rfl
    refine (hchecking hprepare).next hlog (fun hdue => ?_) fun k hk => .inr ?_
    · rw [objects_beginning]
      by_cases hbest : t = best.task
      · subst hbest
        rw [Function.update_self]
        exact hdue
      · rw [Function.update_of_ne hbest]
        exact hdue
    · have hk : some best = some ⟨t, k⟩ := hk
      cases hk
      exact List.mem_singleton.mpr rfl
  | ran k t' => exact h.next rfl id fun k hk => .inl hk
  -- only tasks that do not recur wait in vain
  | timeoutTasks =>
    refine h.next (congrArg Channel.log (w.channel.completeAll_eq ..)) (fun hdue => ?_)
      fun k hk => .inl ?_
    · change ((w.channel.completeAll _ _).objects t).behavior.IsDue
      rw [objects_completeAll_of_recurring ht]
      · exact hdue
      · intro r hr
        have htimeout := (List.mem_filter.mp hr).2
        simp only [Channel.isTimedOut, Bool.and_eq_true, Bool.not_eq_true'] at htimeout
        exact htimeout.1
    · have hk : (w.channel.completeAll _ _).current = some ⟨t, k⟩ := hk
      rw [Channel.completeAll_eq] at hk
      exact hk
  | clock now utc =>
    have hadvance := advance_eq w.channel now utc
    have hlog : (advance w.channel now utc).log = w.channel.log ++ [] := by
      rw [hadvance, List.append_nil]
    refine h.next hlog (fun hdue => ?_) fun k hk => .inl ?_
    · change ((advance w.channel now utc).objects t).behavior.IsDue
      rw [hadvance]
      exact hdue
    · have hk : (advance w.channel now utc).current = some ⟨t, k⟩ := hk
      rw [hadvance] at hk
      exact hk
  -- whether a task is enabled has nothing to do with its schedule
  | assignClass k answer =>
    refine h.next (List.append_nil _).symm (fun hdue => ?_) fun k hk => .inl hk
    simp only [withChannel, Channel.modify]
    by_cases hk : t = .own k .assignClass
    · subst hk
      rw [Function.update_self]
      exact hdue
    · rw [Function.update_of_ne hk]
      exact hdue

/-- **The task stays due** until the layer goes down or a run of it that started since has
    finished. -/
theorem demanded_step (hw : w.Owned) (ht : ∀ m, t ≠ .own m .assignClass)
    (h : Demanded m t base w ∧ w.channel.Known t ∧ (w.channel.objects t).isRecurring = true)
    (i : Input ι σ) :
    Demanded m t base (w.step i) ∧ (w.step i).channel.Known t ∧
      ((w.step i).channel.objects t).isRecurring = true := by
  have hrecurring : IMasterTask.Preserved fun task : IMasterTask ι σ => task.isRecurring = true :=
    ⟨fun _ _ h => h, fun _ h => h, fun _ _ _ _ h => h, fun _ _ _ h => h⟩
  refine ⟨?_, object_step hrecurring ht hw h.2 i⟩
  have hboth := keeps_step (i := i) (P := fun w => Demanded m t base w ∧ w.channel.Known t ∧
      (w.channel.objects t).isRecurring = true) hw h
    (fun _ _ hw h hturn => ⟨h.1.turn hw h.2.1 h.2.2 hturn, object_turn hrecurring ht hw h.2 hturn⟩)
    fun k hi honline => ?_
  · exact hboth.1
  · refine ⟨h.1.closed k h.2.2, ?_⟩
    have hstep := object_step hrecurring ht hw h.2 i
    rw [hi, step_onLowerLayerDown, if_pos honline] at hstep
    exact hstep

end World

/-! ## A response is received -/

namespace Session

theorem current_confirmIfAsked (s : Session ι σ) (response : Response) :
    (s.confirmIfAsked response).channel.current = s.channel.current := by
  unfold confirmIfAsked
  split
  · unfold queueConfirm
    obtain ⟨-, heq⟩ | ⟨confirm, rest, -, -, heq⟩ := checkConfirmTransmit_cases
        (s.enqueue (solicitedConfirm response.header.control.SEQ))
    · rw [heq]
      rfl
    · rw [heq]
      rfl
  · rfl

variable {s s' : Session ι σ} [DecidableEq ι] [VirtualTask σ] {i : Input ι σ}

/-- What a master is constructed with. -/
def config (s : Session ι σ) : ι × MasterParams × (StartupTask → Bool) :=
  (s.self, s.ctx.params, s.ctx.hasTask)

theorem Move.config (h : Move i s s') : s'.config = s.config := by
  have hself := h.self
  unfold Session.config
  rw [hself]
  cases h with
  | requestOnly | formatError | done | timeout =>
    rw [ctx_finished]
    rfl
  | bind u => rw [(makes_scheduleRecurringPollTask s u).ctx]
  | adhoc u => rw [(makes_scheduleAdhocTask s u).ctx]
  | _ => rfl

theorem Moves.config (h : Moves i s s') : s'.config = s.config := by
  induction h with
  | refl => rfl
  | tail _ hmove ih => exact hmove.config.trans ih

/-- The current task can only have ended. -/
theorem Moves.current (h : Moves i s s') (howns : s.Owns) :
    s'.Owns ∧ (s'.channel.current = s.channel.current ∨ s'.channel.current = none) := by
  induction h with
  | refl => exact ⟨howns, .inl rfl⟩
  | tail _ hmove ih =>
    refine ⟨ih.1.move hmove, ?_⟩
    obtain hsame | ⟨hnone, -⟩ := hmove.current ih.1
    · rw [hsame]
      exact ih.2
    · exact .inr hnone

/-- The master listens to the message. -/
structure Accepts (s : Session ι σ) (message : Message) (response : Response) : Prop where
  isOnline : s.ctx.isOnline = true
  destination : message.addresses.destination = s.ctx.addresses.source
  source : message.addresses.source = s.ctx.addresses.destination
  payload : parseResponse message.payload = some response
  function : response.header.function = .RESPONSE ∨
    response.header.function = .UNSOLICITED_RESPONSE ∧ response.header.control.UNS = true

variable {response : Response} {message : Message}

theorem Accepts.onReceive (h : s.Accepts message response) :
    s.onReceive message =
      (s.act (.receive s.self response.header response.objects)).processAPDU response := by
  simp [Session.onReceive, h.isOnline, h.destination, h.source, h.payload]

/-- **A restart demands an integrity poll.** -/
theorem Accepts.due (h : s.Accepts message response)
    (hbusy : s.Busy) (hrestart : response.header.IIN.isSet .DEVICE_RESTART = true)
    (hignore : s.ctx.params.ignoreRestartIIN = false)
    (hhas : s.ctx.hasTask .startupIntegrity = true) :
    ((s.onReceive message).channel.objects (.own s.self .startupIntegrity)).behavior.IsDue := by
  -- the indications are looked at last, by a master of the same configuration
  have hlast : ∀ s' : Session ι σ, s'.config = s.config →
      ((s'.processIIN response.header.IIN).channel.objects
        (.own s.self .startupIntegrity)).behavior.IsDue := by
    intro s' hconfig
    simp only [Session.config, Prod.mk.injEq] at hconfig
    rw [← hconfig.1]
    exact due_processIIN hrestart (by rw [hconfig.2.1]; exact hignore)
      (by rw [hconfig.2.2]; exact hhas)
  rw [h.onReceive]
  unfold processAPDU
  obtain hfunction | ⟨hfunction, huns⟩ := h.function
  · rw [hfunction]
    refine hlast _ (Moves.config (i := .onReceive s.self message) ?_)
    exact .trans (.single (.receive s response ⟨message, rfl, h.payload⟩ h.isOnline))
      (moves_onResponseEvent ⟨message, rfl, h.payload⟩ hfunction (unconfirmed_receive s response)
        List.getLast?_concat h.isOnline hbusy)
  · rw [hfunction]
    simp only [processUnsolicitedResponse, huns, Bool.not_true, Bool.false_eq_true, ↓reduceIte]
    refine hlast _ ?_
    split
    · unfold queueConfirm
      obtain ⟨-, heq⟩ | ⟨confirm, rest, -, -, heq⟩ := checkConfirmTransmit_cases
          (((s.act (.receive s.self response.header response.objects)).callSOE _).enqueue
            (unsolicitedConfirm response.header.control.SEQ))
      · rw [heq]
        rfl
      · rw [heq]
        rfl
    · rfl

/-- The response ends the run of the active task. -/
theorem current_onResponseEvent (howns : s.Owns) {t : TaskId ι}
    (hactive : s.ctx.activeTask = some t) (hwait : s.ctx.tstate = .WAIT_FOR_RESPONSE)
    (hseq : response.header.control.SEQ = s.ctx.solSeq)
    (hends : (VirtualTask.processResponse (s.channel.objects t).state response
        s.channel.utc).2.1 = .OK_FINAL ∨
      (VirtualTask.processResponse (s.channel.objects t).state response
        s.channel.utc).2.1 = .ERROR_BAD_RESPONSE) :
    (assign (s.onResponseEvent response)).channel.current = none := by
  -- both ends give the task back to the scheduler
  have hdone : ∀ state calls completion,
      (assign ((((s.answered t response state calls).completeTask t completion).confirmIfAsked
        response).completeActiveTask, .IDLE)).channel.current = none := by
    intro state calls completion
    change (((s.answered t response state calls).completeTask t completion).confirmIfAsked
      response).finished.channel.current = none
    rw [← confirmIfAsked_finished, current_confirmIfAsked,
      finished_eq (s := (s.answered t response state calls).completeTask t completion) hactive
        (howns.busy t hactive).2]
  unfold onResponseEvent
  rw [hwait]
  cases hprocess : VirtualTask.processResponse (s.channel.objects t).state response
      s.channel.utc with
  | mk state rest =>
    obtain ⟨result, calls⟩ := rest
    rw [onResponseWaitForResponse_eq hactive hseq hprocess]
    rw [hprocess] at hends
    obtain rfl | rfl := hends
    · exact hdone state calls .SUCCESS
    · exact hdone state calls .FAILURE_BAD_RESPONSE

/-- The response is the last one of the active task. -/
structure Last (s : Session ι σ) (t : TaskId ι) (response : Response) : Prop where
  active : s.ctx.activeTask = some t
  waiting : s.ctx.tstate = .WAIT_FOR_RESPONSE
  function : response.header.function = .RESPONSE
  seq : response.header.control.SEQ = s.ctx.solSeq
  fin : response.header.control.FIN = true

theorem Accepts.current (h : s.Accepts message response) (howns : s.Owns) {t : TaskId ι}
    (hlast : (∀ k, s.channel.current ≠ some ⟨t, k⟩) ∨ s.Last t response)
    (hends : response.header.control.FIN = true →
      (VirtualTask.processResponse (s.channel.objects t).state response
        s.channel.utc).2.1 = .OK_FINAL ∨
      (VirtualTask.processResponse (s.channel.objects t).state response
        s.channel.utc).2.1 = .ERROR_BAD_RESPONSE) (k : ι) :
    (s.onReceive message).channel.current ≠ some ⟨t, k⟩ := by
  obtain hother | hlast := hlast
  -- another task is running: nothing that a response does makes this one current
  · have hmoves := moves_onReceive (i := .onReceive s.self message) message rfl howns.toBusy
    obtain hsame | hnone := (Moves.current hmoves howns).2
    · rw [hsame]
      exact hother k
    · rw [hnone]
      nofun
  -- its last response: the task is done, and the IIN bits start nothing
  · have howns' : (s.act (.receive s.self response.header response.objects)).Owns :=
      ⟨howns.idle, howns.busy⟩
    have hnone := current_onResponseEvent howns' hlast.active hlast.waiting hlast.seq
      (hends hlast.fin)
    have hmoves : Moves (.onReceive s.self message)
        (s.act (.receive s.self response.header response.objects)) _ :=
      moves_onResponseEvent ⟨message, rfl, h.payload⟩ hlast.function
        (unconfirmed_receive s response) List.getLast?_concat h.isOnline howns.toBusy
    have hIIN := (Moves.current (moves_processIIN (i := .onReceive s.self message) _
      response.header.IIN) (Moves.current hmoves howns').1).2
    rw [h.onReceive]
    simp only [processAPDU, hlast.function, processResponse]
    rw [hnone, or_self] at hIIN
    rw [hIIN]
    nofun

end Session

/-- A response with `FIN` ends a poll, one way or the other. -/
theorem PollTask.ends_of_fin (p : PollTask) {response : Response}
    (h : response.header.control.FIN = true) :
    (p.processResponse response).2.1 = .OK_FINAL ∨
      (p.processResponse response).2.1 = .ERROR_BAD_RESPONSE := by
  have hmeasurements : (p.processMeasurements response).2.1 = .OK_FINAL ∨
      (p.processMeasurements response).2.1 = .ERROR_BAD_RESPONSE := by
    simp only [processMeasurements, h, ↓reduceIte]
    cases (MeasurementHandler.processMeasurements (asResponseInfo response.header)
      response.objects).2 with
    | ok => exact .inl rfl
    | error => exact .inr rfl
  unfold processResponse
  split
  · split
    · exact .inr rfl
    · exact hmeasurements
  · split
    · exact hmeasurements
    · exact .inr rfl

/-! ## Runs -/

/-- The object is an enabled poll that comes back. -/
def IMasterTask.IsPoll {τ : Type} (task : IMasterTask ι (Task τ)) : Prop :=
  task.isRecurring = true ∧ task.isEnabled = true ∧ ∃ p, task.state = .poll p

theorem IMasterTask.preserved_isPoll {τ : Type} [VirtualTask τ] :
    Preserved (IsPoll (ι := ι) (τ := τ)) where
  behavior _ _ h := h
  initialized _ h := by
    obtain ⟨hrecurring, henabled, p, hp⟩ := h
    refine ⟨hrecurring, henabled, p.initialized, ?_⟩
    rw [hp]
    rfl
  built _ seq size now h := by
    obtain ⟨hrecurring, henabled, p, hp⟩ := h
    refine ⟨hrecurring, henabled, (p.buildRequest seq size).1, ?_⟩
    rw [hp]
    rfl
  processed _ response now h := by
    obtain ⟨hrecurring, henabled, p, hp⟩ := h
    refine ⟨hrecurring, henabled, (p.processResponse response).1, ?_⟩
    rw [hp]
    rfl

namespace World

/-- What is always true of the masters and of the integrity poll of one of them. -/
structure Polled {τ : Type} (params : ι → MasterParams) (m : ι) (w : World ι (Task τ)) : Prop where
  owned : w.Owned
  config : ∀ m, (w.session m).config = (m, params m, MasterTasks.hasTask (params m))
  poll : w.channel.Known (.own m .startupIntegrity) ∧
    (w.channel.objects (.own m .startupIntegrity)).IsPoll

theorem polled_init {τ : Type} {params : ι → MasterParams} {m : ι}
    (addresses : ι → Link.Addresses) (app : ι → MasterTasks.Application)
    (unused : IMasterTask ι (Task τ)) (now : Timestamp)
    (hmask : hasAnyClass (params m).startupIntegrityClassMask = true) :
    (init (MasterTasks.setup addresses params app unused) now).Polled params m where
  owned := owned_init _ now
  config _ := rfl
  poll := ⟨trivial, rfl, hmask, _, rfl⟩

variable [DecidableEq ι]

section

variable [VirtualTask σ] {w : World ι σ}

theorem config_step (hw : w.Owned) (params : ι → MasterParams) (hasTask : ι → StartupTask → Bool)
    (h : ∀ m, (w.session m).config = (m, params m, hasTask m)) (i : Input ι σ) (m : ι) :
    ((w.step i).session m).config = (m, params m, hasTask m) := by
  have hall := sessions_step (i := i)
    (P := fun s => s.config = (s.self, params s.self, hasTask s.self)) hw h ?_ ?_ ?_
  · exact hall m
  · intro s s' _ hs hmove
    rw [hmove.config, hmove.self]
    exact hs
  · intro s s' hs helse
    have hctx := helse.ctx
    rw [Session.config, helse.self, hctx]
    exact hs
  · intro m _ _
    exact h m

end

variable {τ : Type} [VirtualTask τ] {params : ι → MasterParams} {m : ι} {w : World ι (Task τ)}

theorem Polled.step (h : w.Polled params m) (i : Input ι (Task τ)) :
    (w.step i).Polled params m where
  owned := h.owned.step i
  config := config_step h.owned params (fun m => MasterTasks.hasTask (params m)) h.config i
  poll := object_step IMasterTask.preserved_isPoll (by simp) h.owned h.poll i

theorem Polled.run (h : w.Polled params m) (inputs : List (Input ι (Task τ))) :
    (Lib.run World.step w inputs).Polled params m :=
  Lib.invariant_run (fun _ i h => h.step i) h inputs

/-- The response demands the poll, and no run of it is in progress afterwards. -/
theorem Polled.received (h : w.Polled params m) (hignore : (params m).ignoreRestartIIN = false)
    {message : Message} {response : Response}
    (haccepts : (w.session m).Accepts message response)
    (hrestart : response.header.IIN.isSet .DEVICE_RESTART = true)
    (hundisturbed : (∀ k, w.channel.current ≠ some ⟨.own m .startupIntegrity, k⟩) ∨
      (w.session m).Last (.own m .startupIntegrity) response) :
    Demanded m (.own m .startupIntegrity) (w.step (.onReceive m message)).channel.log
      (w.step (.onReceive m message)) := by
  have hconfig := h.config m
  simp only [Session.config, Prod.mk.injEq] at hconfig
  refine ⟨[], (List.append_nil _).symm, .inr (.inr ⟨?_, fun k hk => ?_⟩)⟩
  · exact haccepts.due (h.owned m).toBusy hrestart (by rw [hconfig.2.1]; exact hignore)
      (by rw [hconfig.2.2]; rfl)
  · refine absurd hk (haccepts.current (h.owned m) hundisturbed (fun hfin => ?_) k)
    obtain ⟨p, hp⟩ := h.poll.2.2.2
    rw [show (w.session m).channel.objects _ = w.channel.objects _ from rfl, hp]
    exact p.ends_of_fin hfin

/-- **The integrity poll after a restart.**  In every run, when a master that does not ignore
    restarts receives a response or an unsolicited response with the `DEVICE_RESTART` bit, and its
    integrity poll is not running at that time or the response is the last one of that run, then
    from then on the poll is due, at the least time and not disabled, until the layer of the master
    has gone down or a run of the poll that started since has finished. -/
theorem integrity_poll_due (addresses : ι → Link.Addresses) (params : ι → MasterParams)
    (app : ι → MasterTasks.Application) (unused : IMasterTask ι (Task τ)) (now : Timestamp)
    (past future : List (Input ι (Task τ))) (m : ι)
    (hmask : hasAnyClass (params m).startupIntegrityClassMask = true)
    (hignore : (params m).ignoreRestartIIN = false) (message : Message) (response : Response)
    (haccepts : ((Lib.run step (init (MasterTasks.setup addresses params app unused) now)
      past).session m).Accepts message response)
    (hrestart : response.header.IIN.isSet .DEVICE_RESTART = true)
    (hundisturbed : (∀ k, (Lib.run step (init (MasterTasks.setup addresses params app unused) now)
        past).channel.current ≠ some ⟨.own m .startupIntegrity, k⟩) ∨
      ((Lib.run step (init (MasterTasks.setup addresses params app unused) now) past).session
        m).Last (.own m .startupIntegrity) response) :
    let w₁ := (Lib.run step (init (MasterTasks.setup addresses params app unused) now) past).step
      (.onReceive m message)
    let w := Lib.run step w₁ future
    ((w.channel.objects (.own m .startupIntegrity)).expirationTime = Timestamp.min ∧
      (w.channel.objects (.own m .startupIntegrity)).behavior.disabled = false) ∨
    .onClose m ∈ w.channel.log.drop w₁.channel.log.length ∨
    Finished (.own m .startupIntegrity) (w.channel.log.drop w₁.channel.log.length) := by
  intro w₁ w
  have hpast := (polled_init addresses app unused now hmask).run past
  have hfirst : w₁.Polled params m := hpast.step _
  have hdemanded := hpast.received hignore haccepts hrestart hundisturbed
  have hlast := Lib.invariant_run
    (P := fun w : World ι (Task τ) => w.Owned ∧
      Demanded m (.own m .startupIntegrity) w₁.channel.log w ∧
      w.channel.Known (.own m .startupIntegrity) ∧
      (w.channel.objects (.own m .startupIntegrity)).isRecurring = true)
    (fun w i h => ⟨h.1.step i, demanded_step h.1 (by simp) h.2 i⟩)
    ⟨hfirst.owned, hdemanded, hfirst.poll.1, hfirst.poll.2.1⟩ future
  -- what is demanded at the end, read off the log since the response
  obtain ⟨new, hlog, hcases⟩ := hlast.2.1
  have hnew : w.channel.log.drop w₁.channel.log.length = new := by
    rw [hlog, List.drop_left]
  rw [hnew]
  obtain hclose | hfinished | ⟨hdue, -⟩ := hcases
  · exact .inr (.inl hclose)
  · exact .inr (.inr hfinished)
  -- a task that is due and enabled expires at once
  · have henabled : (w.channel.objects (.own m .startupIntegrity)).isEnabled = true :=
      (hfirst.run future).poll.2.2.1
    refine .inl ⟨?_, hdue.2⟩
    rw [IMasterTask.expirationTime, henabled]
    exact hdue.1

/-- An unsolicited response with the bit comes when the integrity poll has ended: a run of the poll
    starts, and is not over yet. -/
theorem integrity_poll_due_unsolicited :
    let w₁ := (Lib.run step (init Single.setup 0)
      [.onLowerLayerUp (), .checkForTaskRun, .onTxReady (), Single.message [0xC0, 0x81, 0, 0]]).step
        (Single.message [0xD0, 0x82, 0x80, 0])
    let w := Lib.run step w₁ [.checkForTaskRun]
    ((w.channel.objects (.own () .startupIntegrity)).expirationTime = Timestamp.min ∧
      (w.channel.objects (.own () .startupIntegrity)).behavior.disabled = false) ∨
    .onClose () ∈ w.channel.log.drop w₁.channel.log.length ∨
    Finished (.own () .startupIntegrity) (w.channel.log.drop w₁.channel.log.length) :=
  integrity_poll_due _ _ _ _ 0 _ [.checkForTaskRun] () (by decide) (by decide) _
    ⟨⟨⟨.ofByte 0xD0, .UNSOLICITED_RESPONSE⟩, ⟨0x80, 0⟩⟩, []⟩
    ⟨by decide +kernel, by decide +kernel, by decide +kernel, by decide +kernel,
      .inr (by decide)⟩ (by decide) (.inl fun | () => by decide +kernel)

/-- The restart is announced while the integrity poll runs.  When the poll has ended, it is not due
    any more, although the layer has not gone down and no run has started since. -/
theorem restart_during_poll :
    let w₁ := (Lib.run step (init Single.setup 0)
      [.onLowerLayerUp (), .checkForTaskRun, .onTxReady ()]).step
        (Single.message [0xD0, 0x82, 0x80, 0])
    let w := Lib.run step w₁ [Single.message [0xC0, 0x81, 0, 0]]
    (w.channel.objects (.own () .startupIntegrity)).expirationTime = Timestamp.max ∧
      .onClose () ∉ w.channel.log.drop w₁.channel.log.length ∧
      .onStart (.own () .startupIntegrity) ∉ w.channel.log.drop w₁.channel.log.length := by
  decide +kernel

end World

end OpenDnp3.Master
