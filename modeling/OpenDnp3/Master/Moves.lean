import OpenDnp3.Master.MContext

/-!
# What a master can do

Every call of the executor is a sequence of moves of one master and of the scheduler.  `Move`
lists the moves of a master, each with its condition and its effect as a whole, and `Turn` adds
what the scheduler does.  `turns_step` cuts a step into turns; a property of runs then only has
to be checked for one turn at a time.  A layer that goes down is a turn by itself and stays
outside of `Turn`.

Between two moves of one event the state of the task is already the one that the event assigns
in the end.  The source assigns it last, but nothing looks at it in between.
-/

namespace OpenDnp3.Master

open App Relation

/-! ## Fields that the scheduler's operations leave alone -/

namespace Channel

variable {ι σ : Type} (c : Channel ι σ)

@[simp] theorem postCheckForTaskRun_eq : c.postCheckForTaskRun =
    { c with
      taskCheckPending := true
      posted := if c.taskCheckPending then c.posted else c.posted + 1 } := by
  rcases c with ⟨_, _, _, _, _, (_ | _), _⟩ <;> rfl

variable [DecidableEq ι]

/-- Ending the current task posts a check, and puts the task back if it is recurring. -/
theorem completeCurrentFor_current {t : TaskId ι} {m : ι} (h : c.current = some ⟨t, m⟩) :
    c.completeCurrentFor m =
      { c with
        taskCheckPending := true
        posted := if c.taskCheckPending then c.posted else c.posted + 1
        current := none
        tasks := if (c.objects t).isRecurring then c.tasks ++ [⟨t, m⟩] else c.tasks } := by
  simp only [completeCurrentFor, h, ne_eq, not_true_eq_false, ↓reduceIte, add, postCheckForTaskRun]
  cases (c.objects t).isRecurring <;> cases hpending : c.taskCheckPending <;> simp [hpending]

theorem completeCurrentFor_of_ne {m : ι} (h : ∀ t, c.current ≠ some ⟨t, m⟩) :
    c.completeCurrentFor m = c := by
  unfold completeCurrentFor
  cases hcurrent : c.current with
  | none => rfl
  | some r =>
    have hr : r.runner ≠ m := by
      rintro rfl
      exact h r.task hcurrent
    simp [hr]

theorem frame_completeCurrentFor (m : ι) :
    (c.completeCurrentFor m).objects = c.objects ∧ (c.completeCurrentFor m).log = c.log := by
  by_cases h : ∃ t, c.current = some ⟨t, m⟩
  · obtain ⟨t, ht⟩ := h
    simp [completeCurrentFor_current _ ht]
  · simp [completeCurrentFor_of_ne _ fun t ht => h ⟨t, ht⟩]

theorem act_completeCurrentFor (a : Action ι) (m : ι) :
    (c.act a).completeCurrentFor m = (c.completeCurrentFor m).act a := by
  by_cases h : ∃ t, c.current = some ⟨t, m⟩
  · obtain ⟨t, ht⟩ := h
    have ht' : (c.act a).current = some ⟨t, m⟩ := ht
    rw [completeCurrentFor_current _ ht, completeCurrentFor_current _ ht']
    rfl
  · have h' : ∀ t, c.current ≠ some ⟨t, m⟩ := fun t ht => h ⟨t, ht⟩
    have h'' : ∀ t, (c.act a).current ≠ some ⟨t, m⟩ := h'
    rw [completeCurrentFor_of_ne _ h', completeCurrentFor_of_ne _ h'']

end Channel

/-! ## Who is running -/

namespace Session

variable {ι σ : Type}

/-- The master has an active task whenever it is not idle. -/
def Busy (s : Session ι σ) : Prop := s.ctx.tstate ≠ .IDLE → ∃ t, s.ctx.activeTask = some t

/-- What the scheduler and the master know about each other: the master is idle and the
    scheduler runs none of its tasks, or both have the same task. -/
structure Owns (s : Session ι σ) : Prop where
  idle : s.ctx.activeTask = none → s.ctx.tstate = .IDLE ∧ ∀ t, s.channel.current ≠ some ⟨t, s.self⟩
  busy : ∀ t, s.ctx.activeTask = some t →
    s.ctx.tstate ≠ .IDLE ∧ s.channel.current = some ⟨t, s.self⟩

theorem Owns.toBusy {s : Session ι σ} (h : s.Owns) : s.Busy := by
  intro hstate
  cases hactive : s.ctx.activeTask with
  | none => exact absurd (h.idle hactive).1 hstate
  | some t => exact ⟨t, rfl⟩

/-! ## Confirms do not interfere with the task -/

section Confirms

variable (s : Session ι σ) (response : Response)

/-- Either there is nothing to send or no way to send it, or the first confirm is sent. -/
theorem checkConfirmTransmit_cases :
    (s.ctx.isSending = true ∨ s.ctx.confirmQueue = []) ∧ s.checkConfirmTransmit = s ∨
      ∃ confirm rest, s.ctx.isSending = false ∧ s.ctx.confirmQueue = confirm :: rest ∧
        s.checkConfirmTransmit = s.sendConfirm confirm rest := by
  unfold checkConfirmTransmit
  cases hsending : s.ctx.isSending with
  | true => exact .inl ⟨.inl rfl, rfl⟩
  | false =>
    cases hqueue : s.ctx.confirmQueue with
    | nil => exact .inl ⟨.inr rfl, rfl⟩
    | cons confirm rest => exact .inr ⟨confirm, rest, rfl, rfl, rfl⟩

/-- What leaves `isSending` and the queue alone, and commutes with the sending of a confirm,
    commutes with `CheckConfirmTransmit`. -/
theorem checkConfirmTransmit_comm (f : Session ι σ → Session ι σ) (s : Session ι σ)
    (hsending : (f s).ctx.isSending = s.ctx.isSending)
    (hqueue : (f s).ctx.confirmQueue = s.ctx.confirmQueue)
    (hsend : ∀ confirm rest, (f s).sendConfirm confirm rest = f (s.sendConfirm confirm rest)) :
    (f s).checkConfirmTransmit = f s.checkConfirmTransmit := by
  unfold checkConfirmTransmit
  rw [hsending, hqueue]
  cases s.ctx.isSending with
  | true => rfl
  | false =>
    cases s.ctx.confirmQueue with
    | nil => rfl
    | cons confirm rest => exact hsend confirm rest

theorem ctx_checkConfirmTransmit :
    s.checkConfirmTransmit.ctx.tstate = s.ctx.tstate ∧
      s.checkConfirmTransmit.ctx.activeTask = s.ctx.activeTask := by
  obtain ⟨-, heq⟩ | ⟨confirm, rest, -, -, heq⟩ := s.checkConfirmTransmit_cases
  · rw [heq]
    exact ⟨rfl, rfl⟩
  · rw [heq]
    exact ⟨rfl, rfl⟩

theorem assign_tstate {s : Session ι σ} {tstate : TaskState} (h : s.ctx.tstate = tstate) :
    assign (s, tstate) = s := by
  subst h
  rfl

theorem queueConfirm_assign (tstate : TaskState) (header : APDUHeader) :
    (assign (s, tstate)).queueConfirm header = assign (s.queueConfirm header, tstate) :=
  checkConfirmTransmit_comm (fun s => assign (s, tstate)) (s.enqueue header) rfl rfl
    fun _ _ => rfl

/-- A confirm for the response of the current event, if it asks for one. -/
def confirmIfAsked (s : Session ι σ) (response : Response) : Session ι σ :=
  if response.header.control.CON then s.queueConfirm (solicitedConfirm response.header.control.SEQ)
  else s

theorem ctx_confirmIfAsked :
    (s.confirmIfAsked response).ctx.tstate = s.ctx.tstate ∧
      (s.confirmIfAsked response).ctx.activeTask = s.ctx.activeTask := by
  unfold confirmIfAsked
  split
  · exact ctx_checkConfirmTransmit _
  · exact ⟨rfl, rfl⟩

theorem confirmIfAsked_assign (tstate : TaskState) :
    (assign (s, tstate)).confirmIfAsked response = assign (s.confirmIfAsked response, tstate) := by
  unfold confirmIfAsked
  split
  · exact queueConfirm_assign ..
  · rfl

variable [DecidableEq ι]

/-- The task is over, and the master idle. -/
def finished (s : Session ι σ) : Session ι σ := assign (s.completeActiveTask, .IDLE)

theorem queueConfirm_finished (header : APDUHeader) :
    s.finished.queueConfirm header = (s.queueConfirm header).finished := by
  have hqueue : s.finished.enqueue header = (s.enqueue header).finished := by
    unfold finished assign completeActiveTask enqueue
    cases hactive : s.ctx.activeTask <;> simp [Channel.act_completeCurrentFor]
  unfold queueConfirm
  rw [hqueue]
  refine checkConfirmTransmit_comm finished (s.enqueue header) ?_ ?_ fun confirm rest => ?_
  all_goals
    unfold finished assign completeActiveTask
    cases hactive : (s.enqueue header).ctx.activeTask <;>
      simp [sendConfirm, build, transmit, hactive, Channel.act_completeCurrentFor]

theorem confirmIfAsked_finished :
    s.finished.confirmIfAsked response = (s.confirmIfAsked response).finished := by
  unfold confirmIfAsked
  split
  · exact queueConfirm_finished ..
  · rfl

theorem self_finished : s.finished.self = s.self := by
  unfold finished assign completeActiveTask
  cases s.ctx.activeTask <;> rfl

theorem isOnline_finished : s.finished.ctx.isOnline = s.ctx.isOnline := by
  unfold finished assign completeActiveTask
  cases s.ctx.activeTask <;> rfl

theorem log_finished : s.finished.channel.log = s.channel.log := by
  unfold finished assign completeActiveTask
  cases s.ctx.activeTask with
  | none => rfl
  | some t => exact (s.channel.frame_completeCurrentFor s.self).2

end Confirms

end Session

/-! ## Moves of a master -/

variable {ι σ : Type} [DecidableEq ι]

/-- Keep the last response that the master received until a confirm is queued or the layer is
    opened again. -/
def keepUnconfirmed (m : ι) (last : Option Response) : Action ι → Option Response
  | .onOpen k => if k = m then none else last
  | .receive k header objects => if k = m then some ⟨header, objects⟩ else last
  | .queueConfirm k _ => if k = m then none else last
  | _ => last

/-- The last response that the master received and has not queued a confirm for. -/
def unconfirmed (m : ι) (log : List (Action ι)) : Option Response :=
  log.foldl (keepUnconfirmed m) none

theorem unconfirmed_append (m : ι) (log new : List (Action ι)) :
    unconfirmed m (log ++ new) = new.foldl (keepUnconfirmed m) (unconfirmed m log) :=
  List.foldl_append

theorem unconfirmed_soe (m : ι) (log : List (Action ι)) (k : ι) (calls : List SOECall) :
    unconfirmed m (log ++ calls.map (.soe k)) = unconfirmed m log := by
  rw [unconfirmed_append]
  induction calls with
  | nil => rfl
  | cons call rest ih => exact ih

/-- The confirm that a response asks for. -/
def confirmOf (response : Response) : APDUHeader :=
  match response.header.function with
  | .UNSOLICITED_RESPONSE => unsolicitedConfirm response.header.control.SEQ
  | _ => solicitedConfirm response.header.control.SEQ

/-- The input brings the response to the master. -/
def Input.Brings (i : Input ι σ) (m : ι) (response : Response) : Prop :=
  ∃ message, i = .onReceive m message ∧ parseResponse message.payload = some response

namespace Session

/-- The task has seen the response. -/
def answered (s : Session ι σ) (t : TaskId ι) (response : Response) (state : σ)
    (calls : List SOECall) : Session ι σ :=
  ((s.incrementSolSeq.act (.onResponse s.self t response)).callSOE calls).setTaskState t state

theorem unconfirmed_answered (s : Session ι σ) (t : TaskId ι) (response : Response) (state : σ)
    (calls : List SOECall) :
    unconfirmed s.self (s.answered t response state calls).channel.log =
      unconfirmed s.self s.channel.log := by
  have hlog : (s.answered t response state calls).channel.log =
      (s.channel.log ++ [.onResponse s.self t response]) ++ calls.map (.soe s.self) := rfl
  rw [hlog, unconfirmed_soe, unconfirmed_append]
  rfl

/-- What the master remembers of the log when it has received a response. -/
theorem unconfirmed_receive (s : Session ι σ) (response : Response) :
    unconfirmed s.self (s.act (.receive s.self response.header response.objects)).channel.log =
      some response := by
  refine (unconfirmed_append ..).trans ?_
  simp [keepUnconfirmed]

/-- The task has built its request. -/
def built (s : Session ι σ) (t : TaskId ι) (state : σ) (apdu : List UInt8) : Session ι σ :=
  (s.setTaskState t state).build apdu

/-- Own tasks are due at once. -/
def demandAll (s : Session ι σ) (tasks : List StartupTask) : Session ι σ :=
  { s with channel := tasks.foldl (fun c task => c.setMinExpiration (.own s.self task)) s.channel }

theorem foldl_demand (tasks : List StartupTask) (s : Session ι σ) :
    tasks.foldl (fun s task => (s.demand task).1) s = s.demandAll (tasks.filter s.ctx.hasTask) := by
  induction tasks generalizing s with
  | nil => rfl
  | cons task rest ih =>
    cases hhas : s.ctx.hasTask task with
    | false =>
      rw [List.foldl_cons, List.filter_cons_of_neg (by simp [hhas])]
      simp only [demand, hhas, Bool.false_eq_true, ↓reduceIte]
      exact ih s
    | true =>
      rw [List.foldl_cons, List.filter_cons_of_pos hhas]
      simp only [demand, hhas, ↓reduceIte]
      exact ih _

variable [VirtualTask σ]

/-- The moves of a master during an event, other than that its layer goes down. -/
inductive Move (i : Input ι σ) : Session ι σ → Session ι σ → Prop
  | receive (s : Session ι σ) (response : Response) (hi : i.Brings s.self response)
      (honline : s.ctx.isOnline = true) :
      Move i s (s.act (.receive s.self response.header response.objects))
  | soe (s : Session ι σ) (calls : List SOECall) : Move i s (s.callSOE calls)
  | receiveIIN (s : Session ι σ) (iin : IINField) : Move i s (s.act (.onReceiveIIN s.self iin))
  | demand (s : Session ι σ) (tasks : List StartupTask)
      (hhas : ∀ task ∈ tasks, s.ctx.hasTask task = true) : Move i s (s.demandAll tasks).evaluate
  -- confirms
  | queue (s : Session ι σ) (response : Response) (hi : i.Brings s.self response)
      (hlast : unconfirmed s.self s.channel.log = some response)
      (hcon : response.header.control.CON = true)
      (hkind : response.header.function = .RESPONSE ∨
        response.header.function = .UNSOLICITED_RESPONSE ∧ response.header.control.UNS = true)
      (honline : s.ctx.isOnline = true) :
      Move i s (s.enqueue (confirmOf response))
  | sendConfirm (s : Session ι σ) (confirm : APDUHeader) (rest : List APDUHeader)
      (hqueue : s.ctx.confirmQueue = confirm :: rest) (hidle : s.ctx.isSending = false)
      (honline : s.ctx.isOnline = true) : Move i s (s.sendConfirm confirm rest)
  | txDone (s : Session ι σ) (hsending : s.ctx.isSending = true) :
      Move i s s.txDone
  -- requests
  | request (s : Session ι σ) (t : TaskId ι) (state : σ) (apdu : List UInt8)
      (hactive : s.ctx.activeTask = some t) (hready : s.ctx.tstate = .TASK_READY)
      (hidle : s.ctx.isSending = false)
      (hbuild : VirtualTask.buildRequest (s.channel.objects t).state s.ctx.solSeq
        s.ctx.params.maxTxFragSize s.channel.utc = (state, true, apdu))
      (hexpects : (s.channel.objects t).expectsResponse = true) :
      Move i s (assign ((s.built t state apdu).transmit (.request t) apdu, .WAIT_FOR_RESPONSE))
  | requestOnly (s : Session ι σ) (t : TaskId ι) (state : σ) (apdu : List UInt8)
      (hactive : s.ctx.activeTask = some t) (hready : s.ctx.tstate = .TASK_READY)
      (hidle : s.ctx.isSending = false)
      (hbuild : VirtualTask.buildRequest (s.channel.objects t).state s.ctx.solSeq
        s.ctx.params.maxTxFragSize s.channel.utc = (state, true, apdu))
      (hexpects : (s.channel.objects t).expectsResponse = false) :
      Move i s ((s.built t state apdu).transmit (.request t) apdu).incrementSolSeq.finished
  | formatError (s : Session ι σ) (t : TaskId ι) (state : σ) (apdu : List UInt8)
      (hactive : s.ctx.activeTask = some t) (hready : s.ctx.tstate = .TASK_READY)
      (hidle : s.ctx.isSending = false)
      (hbuild : VirtualTask.buildRequest (s.channel.objects t).state s.ctx.solSeq
        s.ctx.params.maxTxFragSize s.channel.utc = (state, false, apdu)) :
      Move i s ((s.built t state apdu).completeTask t .FAILURE_MESSAGE_FORMAT_ERROR).finished
  -- responses
  | goOn (s : Session ι σ) (t : TaskId ι) (response : Response) (state : σ)
      (calls : List SOECall) (hi : i.Brings s.self response)
      (hactive : s.ctx.activeTask = some t) (hwait : s.ctx.tstate = .WAIT_FOR_RESPONSE)
      (hseq : response.header.control.SEQ = s.ctx.solSeq)
      (hprocess : VirtualTask.processResponse (s.channel.objects t).state response s.channel.utc =
        (state, .OK_CONTINUE, calls)) :
      Move i s (s.answered t response state calls)
  | again (s : Session ι σ) (t : TaskId ι) (response : Response) (state : σ)
      (calls : List SOECall) (hi : i.Brings s.self response)
      (hactive : s.ctx.activeTask = some t) (hwait : s.ctx.tstate = .WAIT_FOR_RESPONSE)
      (hseq : response.header.control.SEQ = s.ctx.solSeq)
      (hprocess : VirtualTask.processResponse (s.channel.objects t).state response s.channel.utc =
        (state, .OK_REPEAT, calls))
      (hfunction : response.header.function = .RESPONSE)
      (hreceived : s.channel.log.getLast? =
        some (.receive s.self response.header response.objects)) :
      Move i s (assign (s.answered t response state calls, .TASK_READY))
  | done (s : Session ι σ) (t : TaskId ι) (response : Response) (state : σ)
      (calls : List SOECall) (result : ResponseResult) (completion : TaskCompletion)
      (hi : i.Brings s.self response)
      (hactive : s.ctx.activeTask = some t) (hwait : s.ctx.tstate = .WAIT_FOR_RESPONSE)
      (hseq : response.header.control.SEQ = s.ctx.solSeq)
      (hprocess : VirtualTask.processResponse (s.channel.objects t).state response s.channel.utc =
        (state, result, calls))
      (hresult : result = .OK_FINAL ∧ completion = .SUCCESS ∨
        result = .ERROR_BAD_RESPONSE ∧ completion = .FAILURE_BAD_RESPONSE) :
      Move i s ((s.answered t response state calls).completeTask t completion).finished
  | timeout (s : Session ι σ) (t : TaskId ι) (hi : i = .onResponseTimeout s.self)
      (hactive : s.ctx.activeTask = some t) (hwait : s.ctx.tstate = .WAIT_FOR_RESPONSE) :
      Move i s (s.completeTask t .FAILURE_RESPONSE_TIMEOUT).incrementSolSeq.finished
  -- the layer and the user
  | up (s : Session ι σ) (hi : i = .onLowerLayerUp s.self) (hoffline : s.ctx.isOnline = false) :
      Move i s s.opened
  | bind (s : Session ι σ) (u : UserTask σ) (hi : i = .scheduleRecurringPollTask s.self u) :
      Move i s (s.scheduleRecurringPollTask u)
  | adhoc (s : Session ι σ) (u : UserTask σ) (hi : i = .scheduleAdhocTask s.self u) :
      Move i s (s.scheduleAdhocTask u)

/-! ## Methods as sequences of moves -/

/-- A sequence of moves. -/
abbrev Moves (i : Input ι σ) : Session ι σ → Session ι σ → Prop := ReflTransGen (Move i)

variable {i : Input ι σ} {s : Session ι σ}

theorem moves_checkConfirmTransmit (honline : s.ctx.isOnline = true) :
    Moves i s s.checkConfirmTransmit := by
  obtain ⟨-, heq⟩ | ⟨confirm, rest, hidle, hqueue, heq⟩ := s.checkConfirmTransmit_cases
  · rw [heq]
  · rw [heq]
    exact .single (.sendConfirm s confirm rest hqueue hidle honline)

variable {response : Response} {t : TaskId ι}

theorem moves_queueConfirm (hi : i.Brings s.self response)
    (hlast : unconfirmed s.self s.channel.log = some response)
    (hcon : response.header.control.CON = true) (hkind : response.header.function = .RESPONSE ∨
      response.header.function = .UNSOLICITED_RESPONSE ∧ response.header.control.UNS = true)
    (honline : s.ctx.isOnline = true) :
    Moves i s (s.queueConfirm (confirmOf response)) :=
  .trans (.single (.queue s response hi hlast hcon hkind honline))
    (moves_checkConfirmTransmit honline)

/-- `ResumeActiveTask` is one of the three moves that end `TASK_READY`. -/
theorem move_resumeActiveTask (hactive : s.ctx.activeTask = some t)
    (hready : s.ctx.tstate = .TASK_READY) (hidle : s.ctx.isSending = false) :
    Move i s (assign s.resumeActiveTask) := by
  cases hbuild : VirtualTask.buildRequest (s.channel.objects t).state s.ctx.solSeq
      s.ctx.params.maxTxFragSize s.channel.utc with
  | mk state rest =>
    obtain ⟨success, apdu⟩ := rest
    simp only [resumeActiveTask, hactive, hbuild]
    cases success with
    | false => exact .formatError s t state apdu hactive hready hidle hbuild
    | true =>
      cases hexpects : (s.channel.objects t).expectsResponse with
      | false => exact .requestOnly s t state apdu hactive hready hidle hbuild hexpects
      | true => exact .request s t state apdu hactive hready hidle hbuild hexpects

/-- The request does not depend on the state that will be assigned. -/
theorem resumeActiveTask_assign (hactive : s.ctx.activeTask = some t) (tstate : TaskState) :
    assign (assign (s, tstate)).resumeActiveTask = assign s.resumeActiveTask := by
  cases hbuild : VirtualTask.buildRequest (s.channel.objects t).state s.ctx.solSeq
      s.ctx.params.maxTxFragSize s.channel.utc with
  | mk state rest =>
    obtain ⟨success, apdu⟩ := rest
    simp only [resumeActiveTask, hactive, assign, hbuild]
    cases success <;> cases (s.channel.objects t).expectsResponse <;>
      simp [completeActiveTask, setTaskState, build, completeTask, transmit, incrementSolSeq,
        hactive]

/-! ### Responses -/

theorem moves_confirmIfAsked (s : Session ι σ)
    (hi : i.Brings s.self response) (hfunction : response.header.function = .RESPONSE)
    (hlast : unconfirmed s.self s.channel.log = some response)
    (honline : s.ctx.isOnline = true) : Moves i s (s.confirmIfAsked response) := by
  unfold confirmIfAsked
  split
  · rename_i hcon
    have hconfirm : confirmOf response = solicitedConfirm response.header.control.SEQ := by
      simp [confirmOf, hfunction]
    rw [← hconfirm]
    exact moves_queueConfirm hi hlast hcon (.inl hfunction) honline
  · exact .refl

/-- What happens to a response with the right sequence number. -/
theorem onResponseWaitForResponse_eq {state : σ}
    {result : ResponseResult} {calls : List SOECall} (hactive : s.ctx.activeTask = some t)
    (hseq : response.header.control.SEQ = s.ctx.solSeq)
    (hprocess : VirtualTask.processResponse (s.channel.objects t).state response s.channel.utc =
      (state, result, calls)) :
    s.onResponseWaitForResponse response =
      match result with
      | .OK_CONTINUE =>
        ((s.answered t response state calls).confirmIfAsked response, .WAIT_FOR_RESPONSE)
      | .OK_REPEAT => ((s.answered t response state calls).confirmIfAsked response).startTaskTaskReady
      | .OK_FINAL =>
        ((((s.answered t response state calls).completeTask t .SUCCESS).confirmIfAsked
          response).completeActiveTask, .IDLE)
      | .ERROR_BAD_RESPONSE =>
        ((((s.answered t response state calls).completeTask t .FAILURE_BAD_RESPONSE).confirmIfAsked
          response).completeActiveTask, .IDLE) := by
  have hprocess' : VirtualTask.processResponse (s.incrementSolSeq.channel.objects t).state
      response s.incrementSolSeq.channel.utc = (state, result, calls) := hprocess
  unfold onResponseWaitForResponse
  rw [if_neg (by simp [hseq]), hactive]
  simp only [onResponse, hprocess']
  cases result <;> rfl

/-- A response that ends the task. -/
theorem moves_done {state : σ} {result : ResponseResult}
    {completion : TaskCompletion} {calls : List SOECall} (hi : i.Brings s.self response)
    (hfunction : response.header.function = .RESPONSE)
    (hlast : unconfirmed s.self (s.answered t response state calls).channel.log = some response)
    (honline : s.ctx.isOnline = true) (hactive : s.ctx.activeTask = some t)
    (hwait : s.ctx.tstate = .WAIT_FOR_RESPONSE) (hseq : response.header.control.SEQ = s.ctx.solSeq)
    (hprocess : VirtualTask.processResponse (s.channel.objects t).state response s.channel.utc =
      (state, result, calls))
    (hresult : result = .OK_FINAL ∧ completion = .SUCCESS ∨
      result = .ERROR_BAD_RESPONSE ∧ completion = .FAILURE_BAD_RESPONSE) :
    Moves i s (((s.answered t response state calls).completeTask t completion).confirmIfAsked
      response).finished := by
  rw [← confirmIfAsked_finished]
  refine .trans (.single (.done s t response state calls result completion hi hactive hwait hseq
    hprocess hresult)) ?_
  have hself := self_finished ((s.answered t response state calls).completeTask t completion)
  refine moves_confirmIfAsked _ (hself ▸ hi) hfunction ?_ ?_
  · rw [log_finished, hself]
    exact (unconfirmed_append ..).trans hlast
  · exact (isOnline_finished _).trans honline

/-- A response to the active task: it goes on waiting, builds its next request, or is over. -/
theorem moves_onResponseWaitForResponse
    (hi : i.Brings s.self response) (hfunction : response.header.function = .RESPONSE)
    (hlast : unconfirmed s.self s.channel.log = some response) (hreceived : s.channel.log.getLast? =
      some (.receive s.self response.header response.objects))
    (honline : s.ctx.isOnline = true) (hactive : s.ctx.activeTask = some t)
    (hwait : s.ctx.tstate = .WAIT_FOR_RESPONSE) :
    Moves i s (assign (s.onResponseWaitForResponse response)) := by
  by_cases hseq : response.header.control.SEQ = s.ctx.solSeq
  swap
  · unfold onResponseWaitForResponse
    rw [if_pos hseq, assign_tstate hwait]
  cases hprocess : VirtualTask.processResponse (s.channel.objects t).state response
      s.channel.utc with
  | mk state rest =>
    obtain ⟨result, calls⟩ := rest
    rw [onResponseWaitForResponse_eq hactive hseq hprocess]
    have hlast' : unconfirmed s.self (s.answered t response state calls).channel.log =
        some response := (unconfirmed_answered ..).trans hlast
    cases result with
    | OK_CONTINUE =>
      -- the task waits for the next fragment
      have hstate : ((s.answered t response state calls).confirmIfAsked response).ctx.tstate =
          .WAIT_FOR_RESPONSE := (ctx_confirmIfAsked ..).1.trans hwait
      rw [assign_tstate hstate]
      exact .trans (.single (.goOn s t response state calls hi hactive hwait hseq hprocess))
        (moves_confirmIfAsked (s.answered t response state calls) hi hfunction hlast' honline)
    | OK_REPEAT =>
      -- the next request follows, unless a confirm has to be sent first
      refine .trans (.single (.again s t response state calls hi hactive hwait hseq hprocess
        hfunction hreceived)) ?_
      refine .trans (moves_confirmIfAsked (assign (s.answered t response state calls, .TASK_READY))
        hi hfunction hlast' honline) ?_
      rw [confirmIfAsked_assign]
      have hactive' : ((s.answered t response state calls).confirmIfAsked response).ctx.activeTask =
          some t := (ctx_confirmIfAsked ..).2.trans hactive
      dsimp only
      generalize (s.answered t response state calls).confirmIfAsked response = next at hactive'
      unfold startTaskTaskReady
      split
      · exact .refl
      · rename_i hidle
        rw [← resumeActiveTask_assign hactive' .TASK_READY]
        have hidle' : next.ctx.isSending = false := by simpa using hidle
        exact .single (move_resumeActiveTask hactive' rfl hidle')
    | OK_FINAL =>
      exact moves_done hi hfunction hlast' honline hactive hwait hseq hprocess (.inl ⟨rfl, rfl⟩)
    | ERROR_BAD_RESPONSE =>
      exact moves_done hi hfunction hlast' honline hactive hwait hseq hprocess (.inr ⟨rfl, rfl⟩)

/-! ### Indications -/

theorem moves_onRestartDetected (s : Session ι σ) (restart : Bool) :
    Moves i s (if restart then s.onRestartDetected.evaluate else s) := by
  split
  · unfold onRestartDetected
    rw [foldl_demand]
    exact .single (.demand s _ fun task htask => (List.mem_filter.mp htask).2)
  · exact .refl

theorem moves_demandAndEvaluate (s : Session ι σ) (needed : Bool) (task : StartupTask) :
    Moves i s (if needed then s.demandAndEvaluate task else s) := by
  split
  · cases hhas : s.ctx.hasTask task with
    | false => simp [demandAndEvaluate, demand, hhas, ReflTransGen.refl]
    | true =>
      simp only [demandAndEvaluate, demand, hhas, ↓reduceIte]
      exact .single (.demand s [task] (by simp [hhas]))
  · exact .refl

theorem moves_processIIN (s : Session ι σ) (iin : IINField) : Moves i s (s.processIIN iin) :=
  -- one after the other, in the order of the source
  ((((moves_onRestartDetected s _).trans
    (moves_demandAndEvaluate _ _ .startupIntegrity)).trans
    (moves_demandAndEvaluate _ _ .timeSynchronization)).trans
    (moves_demandAndEvaluate _ _ .eventScan)).tail
    (.receiveIIN _ iin)

/-! ### Messages -/

theorem moves_processUnsolicitedResponse (hi : i.Brings s.self response)
    (hfunction : response.header.function = .UNSOLICITED_RESPONSE)
    (hlast : unconfirmed s.self s.channel.log = some response)
    (honline : s.ctx.isOnline = true) : Moves i s (s.processUnsolicitedResponse response) := by
  unfold processUnsolicitedResponse
  split
  · exact .refl
  · rename_i huns
    have huns : response.header.control.UNS = true := by simpa using huns
    generalize MeasurementHandler.processMeasurements (asResponseInfo response.header)
      response.objects = measurements
    obtain ⟨calls, result⟩ := measurements
    refine .trans (.single (.soe s calls)) (.trans ?_ (moves_processIIN _ response.header.IIN))
    split
    · rename_i hconfirm
      have hcon : response.header.control.CON = true := by
        simp only [Bool.and_eq_true] at hconfirm
        exact hconfirm.2
      -- the confirm that is queued answers the response received last
      have heq : unsolicitedConfirm response.header.control.SEQ = confirmOf response := by
        simp [confirmOf, hfunction]
      rw [heq]
      refine moves_queueConfirm hi ?_ hcon (.inr ⟨hfunction, huns⟩) honline
      exact (unconfirmed_soe ..).trans hlast
    · exact .refl

theorem moves_onResponseEvent (hi : i.Brings s.self response)
    (hfunction : response.header.function = .RESPONSE)
    (hlast : unconfirmed s.self s.channel.log = some response) (hreceived : s.channel.log.getLast? =
      some (.receive s.self response.header response.objects))
    (honline : s.ctx.isOnline = true) (hbusy : s.Busy) :
    Moves i s (assign (s.onResponseEvent response)) := by
  unfold onResponseEvent
  cases hstate : s.ctx.tstate with
  | WAIT_FOR_RESPONSE =>
    obtain ⟨t, hactive⟩ := hbusy (by simp [hstate])
    exact moves_onResponseWaitForResponse hi hfunction hlast hreceived honline hactive hstate
  | IDLE | TASK_READY => simp only [assign_tstate hstate, ReflTransGen.refl]

theorem moves_processResponse (hi : i.Brings s.self response)
    (hfunction : response.header.function = .RESPONSE)
    (hlast : unconfirmed s.self s.channel.log = some response) (hreceived : s.channel.log.getLast? =
      some (.receive s.self response.header response.objects))
    (honline : s.ctx.isOnline = true) (hbusy : s.Busy) :
    Moves i s (s.processResponse response) :=
  (moves_onResponseEvent hi hfunction hlast hreceived honline hbusy).trans
    (moves_processIIN _ response.header.IIN)

theorem moves_onReceive (message : Message) (hi : i = .onReceive s.self message)
    (hbusy : s.Busy) : Moves i s (s.onReceive message) := by
  unfold onReceive
  split
  · exact .refl
  rename_i honline
  have honline : s.ctx.isOnline = true := by simpa using honline
  split
  · exact .refl
  split
  · exact .refl
  split
  · exact .refl
  rename_i response hparse
  have hbrings : i.Brings s.self response := ⟨message, hi, hparse⟩
  have hlast := unconfirmed_receive s response
  refine .trans (.single (.receive s response hbrings honline)) ?_
  unfold processAPDU
  split
  · rename_i hfunction
    exact moves_processUnsolicitedResponse hbrings hfunction hlast honline
  · rename_i hfunction
    refine moves_processResponse hbrings hfunction hlast ?_ honline hbusy
    exact List.getLast?_concat
  · exact .refl

/-! ### Other events -/

theorem isOnline_resumeActiveTask (s : Session ι σ) :
    (assign s.resumeActiveTask).ctx.isOnline = s.ctx.isOnline := by
  unfold resumeActiveTask
  cases hactive : s.ctx.activeTask with
  | none => rfl
  | some t =>
    dsimp only
    split
    · exact isOnline_finished _
    · split
      · rfl
      · exact isOnline_finished _

theorem moves_onTransmitComplete (hidle : s.ctx.isSending = false) (hbusy : s.Busy) :
    Moves i s (assign s.onTransmitComplete) := by
  unfold onTransmitComplete
  cases hstate : s.ctx.tstate with
  | TASK_READY =>
    obtain ⟨t, hactive⟩ := hbusy (by simp [hstate])
    exact .single (move_resumeActiveTask hactive hstate hidle)
  | IDLE | WAIT_FOR_RESPONSE => simp only [assign_tstate hstate, ReflTransGen.refl]

theorem isOnline_onTransmitComplete (s : Session ι σ) :
    (assign s.onTransmitComplete).ctx.isOnline = s.ctx.isOnline := by
  unfold onTransmitComplete
  split
  · exact isOnline_resumeActiveTask s
  · rfl

theorem moves_onTxReady (s : Session ι σ) (hbusy : s.Busy) : Moves i s s.onTxReady := by
  unfold onTxReady
  split
  · exact .refl
  rename_i hguard
  simp only [Bool.or_eq_true, Bool.not_eq_true', not_or, Bool.not_eq_false] at hguard
  refine .trans (.single (.txDone s hguard.2)) ?_
  refine .trans (moves_onTransmitComplete (s := s.txDone) rfl hbusy) ?_
  exact moves_checkConfirmTransmit ((isOnline_onTransmitComplete _).trans hguard.1)

theorem moves_onResponseTimeout (hi : i = .onResponseTimeout s.self) (hbusy : s.Busy) :
    Moves i s s.onResponseTimeout := by
  unfold onResponseTimeout
  split
  swap
  · exact .refl
  unfold onResponseTimeoutEvent
  cases hstate : s.ctx.tstate with
  | WAIT_FOR_RESPONSE =>
    obtain ⟨t, hactive⟩ := hbusy (by simp [hstate])
    simp only [onResponseTimeoutWaitForResponse, hactive]
    exact .single (.timeout s t hi hactive hstate)
  | IDLE | TASK_READY => simp only [assign_tstate hstate, ReflTransGen.refl]

theorem moves_onLowerLayerUp (hi : i = .onLowerLayerUp s.self) : Moves i s s.onLowerLayerUp := by
  unfold onLowerLayerUp
  split
  · exact .refl
  · rename_i hoffline
    exact .single (.up s hi (by simpa using hoffline))

/-- A master that has just begun a task builds its request, unless something is being sent. -/
theorem moves_run (hactive : s.ctx.activeTask = none) (hidle : s.ctx.tstate = .IDLE) :
    (s.run t).2 = true ∧ Moves i (s.begun t) (s.run t).1 := by
  unfold run
  rw [hactive, hidle]
  cases hsending : s.ctx.isSending with
  | true => exact ⟨rfl, .refl⟩
  | false => exact ⟨rfl, .single (move_resumeActiveTask rfl rfl hsending)⟩

/-- A move is a move of one and the same master. -/
theorem Move.self {s' : Session ι σ} (h : Move i s s') : s'.self = s.self := by
  cases h with
  | bind u =>
    unfold scheduleRecurringPollTask
    dsimp only
    split <;> rfl
  | adhoc u =>
    unfold scheduleAdhocTask
    dsimp only
    split <;> rfl
  | requestOnly | formatError | done | timeout => exact self_finished _
  | _ => rfl

end Session

/-! ## Turns of the channel -/

/-- The inputs that make the scheduler look for a task, and what they change before. -/
def Input.prepare : Input ι σ → Option (Channel ι σ → Channel ι σ)
  | .checkForTaskRun => some fun c => { c with posted := c.posted - 1 }
  | .demand t => some fun c => c.setMinExpiration t
  | .taskTimer => some fun c => { c with taskTimer := none }
  | _ => none

namespace World

@[simp] theorem session_put (w : World ι σ) (s : Session ι σ) : (w.put s).session s.self = s := by
  simp [session, put]

@[simp] theorem put_session (w : World ι σ) (m : ι) : w.put (w.session m) = w := by
  simp [session, put]

variable {s : Session ι σ}

theorem put_put (w : World ι σ) {s' : Session ι σ} (h : s'.self = s.self) :
    (w.put s).put s' = w.put s' := by
  simp [put, h]

/-- The scheduler and all masters agree on who is running. -/
def Owned (w : World ι σ) : Prop := ∀ m, (w.session m).Owns

variable [VirtualTask σ]

/-- The channel when the scheduler looks for a task. -/
def checking (w : World ι σ) (prepare : Channel ι σ → Channel ι σ) : World ι σ :=
  w.withChannel fun c => { prepare c with taskCheckPending := false }.restartTimeoutTimer

/-- The task is made the current one. -/
def claim (w : World ι σ) (r : Record ι) : World ι σ :=
  w.withChannel fun c => { c with current := some r, tasks := c.tasks.erase r }

/-- The task becomes the current one, and the active one of its master. -/
def beginning (w : World ι σ) (r : Record ι) : World ι σ :=
  (w.claim r).put (((w.claim r).session r.runner).begun r.task)

theorem objects_beginning (w : World ι σ) (r : Record ι) :
    (w.beginning r).channel.objects = Function.update w.channel.objects r.task
      { w.channel.objects r.task with
        state := VirtualTask.initialized (w.channel.objects r.task).state } := rfl

/-- The turns of the channel during an event, other than that a layer goes down. -/
inductive Turn (i : Input ι σ) : World ι σ → World ι σ → Prop
  | move (w : World ι σ) (m : ι) (s : Session ι σ) (hmove : (w.session m).Move i s) :
      Turn i w (w.put s)
  | recheck (w : World ι σ) (prepare : Channel ι σ → Channel ι σ) (hi : i.prepare = some prepare)
      (hnone : w.channel.current.isSome ∨ w.channel.tasks = []) : Turn i w (w.checking prepare)
  | arm (w : World ι σ) (prepare : Channel ι σ → Channel ι σ) (best : Record ι)
      (hi : i.prepare = some prepare) (hcurrent : w.channel.current = none)
      (hbest : (w.checking prepare).channel.bestTask = some best)
      (hlate : (w.checking prepare).channel.now < (w.checking prepare).channel.expirationTime best) :
      Turn i w ((w.checking prepare).withChannel fun c =>
        { c with taskTimer := some (c.expirationTime best) })
  | start (w : World ι σ) (prepare : Channel ι σ → Channel ι σ) (best : Record ι)
      (hi : i.prepare = some prepare) (hcurrent : w.channel.current = none)
      (hbest : (w.checking prepare).channel.bestTask = some best)
      (hdue : (w.checking prepare).channel.expirationTime best ≤ (w.checking prepare).channel.now) :
      Turn i w ((w.checking prepare).beginning best)
  | ran (w : World ι σ) (m : ι) (t : TaskId ι) : Turn i w (w.withChannel (·.act (.run m t true)))
  | timeoutTasks (w : World ι σ) : Turn i w (w.withChannel Channel.timeoutTasks)
  | clock (w : World ι σ) (now : Timestamp) (utc : Nat) (hi : i = .clock now utc) :
      Turn i w (w.withChannel fun c => advance c now utc)
  | assignClass (w : World ι σ) (m : ι) (answer : Bool)
      (hi : i = .assignClassDuringStartup m answer) :
      Turn i w (w.withChannel fun c =>
        c.modify (.own m .assignClass) fun task => { task with isEnabled := answer })

abbrev Turns (i : Input ι σ) : World ι σ → World ι σ → Prop := ReflTransGen (Turn i)

variable {i : Input ι σ} {w : World ι σ}

theorem turns_of_moves {s' : Session ι σ} (h : s.Moves i s') (w : World ι σ) :
    Turns i (w.put s) (w.put s') := by
  induction h with
  | refl => exact .refl
  | @tail mid last _ hmove ih =>
    have hturn := Turn.move (i := i) (w.put mid) mid.self last (by rwa [session_put])
    rw [put_put w hmove.self] at hturn
    exact ih.tail hturn

/-- The moves of one master are turns of the channel. -/
theorem turns_of_session {m : ι} (h : (w.session m).Moves i s) : Turns i w (w.put s) := by
  have hturns := turns_of_moves h w
  rwa [put_session] at hturns

/-- The scheduler starts a task of an idle master. -/
theorem turns_start {r : Record ι} (hactive : (w.masters r.runner).activeTask = none)
    (hidle : (w.masters r.runner).tstate = .IDLE) : Turns i (w.beginning r) (w.start r) := by
  have hrun := Session.moves_run (i := i) (s := (w.claim r).session r.runner) (t := r.task)
    hactive hidle
  have hstart : w.start r = ((w.claim r).put (((w.claim r).session r.runner).run r.task).1).withChannel
      (·.act (.run r.runner r.task (((w.claim r).session r.runner).run r.task).2)) := rfl
  rw [hstart, hrun.1]
  exact (turns_of_moves hrun.2 (w.claim r)).tail (.ran _ r.runner r.task)

/-- `CheckForTaskRun` on the channel that the input has prepared. -/
theorem checkForTaskRun_withChannel (w : World ι σ) (prepare : Channel ι σ → Channel ι σ) :
    (w.withChannel prepare).checkForTaskRun =
      if (w.checking prepare).channel.current.isSome then w.checking prepare
      else
        match (w.checking prepare).channel.bestTask with
        | none => w.checking prepare
        | some best =>
          if (w.checking prepare).channel.expirationTime best ≤ (w.checking prepare).channel.now then
            (w.checking prepare).start best
          else (w.checking prepare).withChannel fun c =>
            { c with taskTimer := some (c.expirationTime best) } := rfl

/-- `CheckForTaskRun` after what the input changes. -/
theorem turns_checkForTaskRun {prepare : Channel ι σ → Channel ι σ}
    (hi : i.prepare = some prepare)
    (hcurrent : ∀ c : Channel ι σ, (prepare c).current = c.current)
    (htasks : ∀ c : Channel ι σ, (prepare c).tasks = c.tasks) (hw : w.Owned) :
    Turns i w (w.withChannel prepare).checkForTaskRun := by
  have hcurrent' : (w.checking prepare).channel.current = w.channel.current :=
    hcurrent w.channel
  rw [checkForTaskRun_withChannel]
  split
  · rename_i hsome
    rw [hcurrent'] at hsome
    exact .single (.recheck w prepare hi (.inl hsome))
  rename_i hnone
  have hnone : w.channel.current = none := by
    rw [hcurrent'] at hnone
    simpa using hnone
  split
  · rename_i hbest
    have hempty : w.channel.tasks = [] := by
      have hchecking : (w.checking prepare).channel.tasks = w.channel.tasks := htasks w.channel
      unfold Channel.bestTask at hbest
      rw [hchecking] at hbest
      cases h : w.channel.tasks with
      | nil => rfl
      | cons r rest =>
        rw [h] at hbest
        cases hbest
    exact .single (.recheck w prepare hi (.inr hempty))
  · rename_i best hbest
    split
    · rename_i hdue
      have howns := hw best.runner
      cases hactive : (w.masters best.runner).activeTask with
      | none =>
        refine .trans (.single (.start w prepare best hi hnone hbest hdue)) ?_
        exact turns_start hactive (howns.idle hactive).1
      | some t =>
        -- a master with an active task has the current one
        have hsome := (howns.busy t hactive).2
        rw [show (w.session best.runner).channel.current = none from hnone] at hsome
        cases hsome
    · rename_i hlate
      exact .single (.arm w prepare best hi hnone hbest (Int.not_le.mp hlate))

/-- **What a step can do**: a step other than that a layer goes down is a sequence of turns. -/
theorem turns_step (hw : w.Owned) (hdown : ∀ m, i ≠ .onLowerLayerDown m) :
    Turns i w (w.step i) := by
  cases i with
  | onLowerLayerUp m => exact turns_of_session (Session.moves_onLowerLayerUp rfl)
  | onLowerLayerDown m => exact absurd rfl (hdown m)
  | onReceive m message =>
    exact turns_of_session (Session.moves_onReceive message rfl (hw m).toBusy)
  | onTxReady m => exact turns_of_session (Session.moves_onTxReady _ (hw m).toBusy)
  | onResponseTimeout m =>
    exact turns_of_session (Session.moves_onResponseTimeout rfl (hw m).toBusy)
  | scheduleRecurringPollTask m u => exact turns_of_session (.single (.bind _ u rfl))
  | scheduleAdhocTask m u => exact turns_of_session (.single (.adhoc _ u rfl))
  | checkForTaskRun | demand t | taskTimer =>
    exact turns_checkForTaskRun rfl (fun _ => rfl) (fun _ => rfl) hw
  | taskStartTimeout => exact .single (.timeoutTasks w)
  | clock now utc => exact .single (.clock w now utc rfl)
  | assignClassDuringStartup m answer => exact .single (.assignClass w m answer rfl)

/-- A layer that goes down. -/
theorem step_onLowerLayerDown (w : World ι σ) (m : ι) :
    w.step (.onLowerLayerDown m) =
      if (w.masters m).isOnline then w.put (w.session m).closed else w := by
  change w.put (if (w.masters m).isOnline then _ else _) = _
  split
  · rfl
  · exact put_session w m

end World

end OpenDnp3.Master
