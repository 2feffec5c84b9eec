import OpenDnp3.Master.Moves

/-!
# One task at a time

The scheduler remembers which task it runs, and each master which task is active.  The two are
updated in different places: the scheduler makes a task its current one before it calls the
master, a task can be over before that call returns, and a layer that goes down takes both away.
They always agree, so a master never refuses to run a task, and the scheduler never waits for a
task that nobody runs.
-/

namespace OpenDnp3.Master

open App

/-! ## The scheduler's operations in one piece -/

namespace Channel

variable {ι σ : Type} (c : Channel ι σ)

/-- Several tasks of a master are added with one check. -/
theorem foldl_add (ids : List (TaskId ι)) (m : ι) :
    ids.foldl (fun c t => c.add ⟨t, m⟩) c =
      { c with
        tasks := c.tasks ++ ids.map (⟨·, m⟩)
        taskCheckPending := c.taskCheckPending || !ids.isEmpty
        posted := if c.taskCheckPending || ids.isEmpty then c.posted else c.posted + 1 } := by
  induction ids generalizing c with
  | nil => simp
  | cons t rest ih =>
    rw [List.foldl_cons, ih]
    cases hpending : c.taskCheckPending <;> simp [add, postCheckForTaskRun, hpending]

variable [DecidableEq ι]

/-- Several own tasks of a master are demanded. -/
theorem foldl_setMinExpiration (tasks : List StartupTask) (m : ι) :
    tasks.foldl (fun c task => c.setMinExpiration (.own m task)) c =
      { c with
        objects := fun t =>
          if t ∈ tasks.map (.own m) then
            { c.objects t with behavior := (c.objects t).behavior.reset }
          else c.objects t } := by
  induction tasks generalizing c with
  | nil => simp
  | cons task rest ih =>
    rw [List.foldl_cons, ih]
    simp only [setMinExpiration, modify]
    congr 1
    funext t
    by_cases ht : t = .own m task
    · subst ht
      by_cases hrest : TaskId.own m task ∈ rest.map (.own m) <;>
        simp [hrest, TaskBehavior.reset]
    · simp [ht]

/-- Ending tasks is about the tasks and their blocking only. -/
theorem completeAll_eq (records : List (Record ι)) (result : TaskCompletion) :
    c.completeAll records result =
      { c with
        objects := (c.completeAll records result).objects
        blockingTasks := (c.completeAll records result).blockingTasks
        log := c.log ++ records.map (.onComplete ·.task result) } := by
  induction records generalizing c with
  | nil => simp [completeAll]
  | cons r rest ih =>
    have hcons : c.completeAll (r :: rest) result =
        (c.completeTask r.task result).completeAll rest result := rfl
    rw [hcons, ih]
    simp [completeTask]

/-- The tasks that a layer takes with it when it goes down. -/
def abandoned (m : ι) : List (Record ι) :=
  ((c.current.toList ++ c.tasks).filter (·.runner = m)).filter
    fun r => !(c.objects r.task).isRecurring

/-- A layer that goes down: its tasks are ended, leave the scheduler, and a check is posted. -/
theorem setRunnerOffline_eq (m : ι) :
    c.setRunnerOffline m =
      { c.completeAll (c.abandoned m) .FAILURE_NO_COMMS with
        current := c.current.filter (·.runner ≠ m)
        tasks := c.tasks.filter (·.runner ≠ m) }.postCheckForTaskRun := by
  have hfields := c.completeAll_eq (c.abandoned m) .FAILURE_NO_COMMS
  have hcurrent : (c.completeAll (c.abandoned m) .FAILURE_NO_COMMS).current = c.current := by
    rw [hfields]
  have htasks : (c.completeAll (c.abandoned m) .FAILURE_NO_COMMS).tasks = c.tasks := by
    rw [hfields]
  rw [← hcurrent, ← htasks]
  rfl

theorem log_setRunnerOffline (m : ι) :
    (c.setRunnerOffline m).log =
      c.log ++ (c.abandoned m).map (.onComplete ·.task .FAILURE_NO_COMMS) := by
  rw [setRunnerOffline_eq, postCheckForTaskRun_eq, completeAll_eq]

/-- What a layer logs when it goes down. -/
def closing (m : ι) : List (Action ι) :=
  (c.abandoned m).map (.onComplete ·.task .FAILURE_NO_COMMS) ++ [.onClose m]

theorem mem_closing {m : ι} {a : Action ι} (h : a ∈ c.closing m) :
    (∃ r ∈ c.abandoned m, a = .onComplete r.task .FAILURE_NO_COMMS) ∨ a = .onClose m := by
  obtain h | h := List.mem_append.mp h
  · obtain ⟨r, hr, rfl⟩ := List.mem_map.mp h
    exact .inl ⟨r, hr, rfl⟩
  · exact .inr (List.mem_singleton.mp h)

theorem current_setRunnerOffline (m : ι) :
    (c.setRunnerOffline m).current = c.current.filter (·.runner ≠ m) := by
  rw [setRunnerOffline_eq, postCheckForTaskRun_eq]

end Channel

/-! ## Whose actions they are -/

namespace Action

variable {ι : Type}

/-- The master that an action is about; the scheduler and the tasks act for themselves. -/
def master : Action ι → Option ι
  | .onOpen m | .onClose m | .build m _ | .transmit m _ _ | .onTxReady m | .receive m _ _
  | .onResponse m _ _ | .queueConfirm m _ | .soe m _ | .onReceiveIIN m _ => some m
  | .run _ _ _ | .onStart _ | .onComplete _ _ => none

/-- What a master can log in a move. -/
def Of (m : ι) : Action ι → Prop
  | .onOpen k | .build k _ | .transmit k _ _ | .onTxReady k | .receive k _ _
  | .onResponse k _ _ | .queueConfirm k _ | .soe k _ | .onReceiveIIN k _ => k = m
  | .onComplete _ _ => True
  | .onClose _ | .run _ _ _ | .onStart _ => False

theorem Of.master_ne {a : Action ι} {m k : ι} (h : a.Of m) (hk : k ≠ m) : a.master ≠ some k := by
  rintro hmaster
  cases a <;> simp only [master, Option.some.injEq, reduceCtorEq] at hmaster <;>
    first
    | exact hk (hmaster.symm.trans h)
    | exact h

end Action

namespace Session

variable {ι σ : Type} {s s' : Session ι σ}

/-- Nothing that matters for the agreement has changed. -/
theorem Owns.of_eq (h : s.Owns) (hself : s'.self = s.self)
    (hactive : s'.ctx.activeTask = s.ctx.activeTask)
    (hcurrent : s'.channel.current = s.channel.current)
    (hidle : s.ctx.activeTask = none → s'.ctx.tstate = s.ctx.tstate)
    (hbusy : s.ctx.tstate ≠ .IDLE → s'.ctx.tstate ≠ .IDLE) : s'.Owns where
  idle hnone := by
    rw [hactive] at hnone
    rw [hself, hcurrent, hidle hnone]
    exact h.idle hnone
  busy t hsome := by
    rw [hactive] at hsome
    rw [hself, hcurrent]
    exact ⟨hbusy (h.busy t hsome).1, (h.busy t hsome).2⟩

/-- Something happens that the master itself does not log: at most it gets a new task. -/
structure Elsewhere (s s' : Session ι σ) : Prop where
  self : s'.self = s.self
  ctx : s'.ctx = { s.ctx with tstate := s'.ctx.tstate, activeTask := s'.ctx.activeTask }
  log : ∃ new, s'.channel.log = s.channel.log ++ new ∧ ∀ a ∈ new, a.master ≠ some s.self

theorem log_sendConfirm (s : Session ι σ) (confirm : APDUHeader) (rest : List APDUHeader) :
    (s.sendConfirm confirm rest).channel.log = s.channel.log ++
      [.build s.self [confirm.control.toByte, confirm.function.toType],
        .transmit s.self (.confirm confirm) [confirm.control.toByte, confirm.function.toType]] :=
  List.append_assoc ..

theorem log_opened (s : Session ι σ) :
    s.opened.channel.log = s.channel.log ++ [.onOpen s.self] := by
  simp [opened, addAllTasks, act, Channel.act, Channel.foldl_add]

theorem current_opened (s : Session ι σ) : s.opened.channel.current = s.channel.current := by
  simp [opened, addAllTasks, act, Channel.act, Channel.foldl_add]

variable [DecidableEq ι]

theorem log_closed (s : Session ι σ) :
    s.closed.channel.log = s.channel.log ++ s.channel.closing s.self := by
  rw [Channel.closing, ← List.append_assoc, ← Channel.log_setRunnerOffline]
  rfl

/-- **A task is made for the user.**  It comes to the scheduler if the master is online.  If not, a
    task that runs only once is refused and hears of it at once.  A recurring task is bound to the
    master. -/
structure Makes (s s' : Session ι σ) (task : IMasterTask ι σ) : Prop where
  self : s'.self = s.self
  ctx : s'.ctx = { s.ctx with boundTasks :=
    s.ctx.boundTasks ++ if task.isRecurring then [.user s.channel.created] else [] }
  channel : s'.channel = { s.channel with
    objects := Function.update s.channel.objects (.user s.channel.created) task
    created := s.channel.created + 1
    tasks := s.channel.tasks ++
      if s.ctx.isOnline then [⟨.user s.channel.created, s.self⟩] else []
    taskCheckPending := s.channel.taskCheckPending || s.ctx.isOnline
    posted := if s.ctx.isOnline && !s.channel.taskCheckPending then s.channel.posted + 1
      else s.channel.posted
    log := s.channel.log ++ if s.ctx.isOnline || task.isRecurring then []
      else [.onComplete (.user s.channel.created) .FAILURE_NO_COMMS] }

theorem makes_scheduleRecurringPollTask (s : Session ι σ) (u : UserTask σ) :
    Makes s (s.scheduleRecurringPollTask u) (u.create s.self true) := by
  cases honline : s.ctx.isOnline <;> cases hpending : s.channel.taskCheckPending <;>
    constructor <;>
    simp [scheduleRecurringPollTask, create, honline, Channel.add, Channel.postCheckForTaskRun,
      hpending, UserTask.create]

theorem makes_scheduleAdhocTask (s : Session ι σ) (u : UserTask σ) :
    Makes s (s.scheduleAdhocTask u) { u.create s.self false with
      behavior := if s.ctx.isOnline then u.behavior else u.behavior.reset } := by
  cases honline : s.ctx.isOnline <;> cases hpending : s.channel.taskCheckPending <;>
    constructor <;>
    simp [scheduleAdhocTask, create, honline, Channel.add, Channel.postCheckForTaskRun, hpending,
      completeTask, Channel.completeTask, UserTask.create, TaskBehavior.completed,
      Channel.blockingAfter] <;>
    rw [← honline]

variable {task : IMasterTask ι σ}

theorem Owns.made (howns : s.Owns) (h : Makes s s' task) : s'.Owns :=
  howns.of_eq h.self (by rw [h.ctx]) (by rw [h.channel]) (by simp [h.ctx]) (by simp [h.ctx])

theorem Makes.log (h : Makes s s' task) {P : Action ι → Prop}
    (hP : P (.onComplete (.user s.channel.created) .FAILURE_NO_COMMS)) :
    ∃ new, s'.channel.log = s.channel.log ++ new ∧ ∀ a ∈ new, P a :=
  ⟨_, by rw [h.channel], by split <;> simp [hP]⟩

theorem Makes.current (h : Makes s s' task) : s'.channel.current = s.channel.current := by
  rw [h.channel]

theorem current_evaluate (tasks : List StartupTask) :
    (s.demandAll tasks).evaluate.channel.current = s.channel.current := by
  simp [demandAll, evaluate, Channel.foldl_setMinExpiration]

/-- The end of a task that the scheduler runs: both sides forget it, and a check is posted. -/
theorem finished_eq {t : TaskId ι} (hactive : s.ctx.activeTask = some t)
    (hcurrent : s.channel.current = some ⟨t, s.self⟩) :
    s.finished =
      { s with
        ctx := { s.ctx with activeTask := none, tstate := .IDLE }
        channel := { s.channel with
          taskCheckPending := true
          posted := if s.channel.taskCheckPending then s.channel.posted else s.channel.posted + 1
          current := none
          tasks := if (s.channel.objects t).isRecurring then s.channel.tasks ++ [⟨t, s.self⟩]
            else s.channel.tasks } } := by
  simp only [finished, assign, completeActiveTask, hactive,
    Channel.completeCurrentFor_current _ hcurrent]

/-! ## Moves -/

theorem Owns.finished {t : TaskId ι} (hactive : s.ctx.activeTask = some t)
    (hcurrent : s.channel.current = some ⟨t, s.self⟩) : s.finished.Owns := by
  rw [finished_eq hactive hcurrent]
  exact ⟨fun _ => ⟨rfl, by simp⟩, by simp⟩

theorem log_transmit_built (s : Session ι σ) (t : TaskId ι) (state : σ) (apdu : List UInt8) :
    ((s.built t state apdu).transmit (.request t) apdu).channel.log =
      s.channel.log ++ [.build s.self apdu, .transmit s.self (.request t) apdu] :=
  List.append_assoc ..

theorem log_completeTask_built (s : Session ι σ) (t : TaskId ι) (state : σ) (apdu : List UInt8)
    (result : TaskCompletion) :
    ((s.built t state apdu).completeTask t result).channel.log =
      s.channel.log ++ [.build s.self apdu, .onComplete t result] :=
  List.append_assoc ..

theorem log_evaluate (tasks : List StartupTask) :
    (s.demandAll tasks).evaluate.channel.log = s.channel.log := by
  simp [demandAll, evaluate, Channel.foldl_setMinExpiration]

theorem log_answered (s : Session ι σ) (t : TaskId ι) (response : Response) (state : σ)
    (calls : List SOECall) :
    (s.answered t response state calls).channel.log =
      s.channel.log ++ .onResponse s.self t response :: calls.map (.soe s.self) :=
  List.append_assoc ..

theorem log_completeTask_answered (s : Session ι σ) (t : TaskId ι) (response : Response)
    (state : σ) (calls : List SOECall) (result : TaskCompletion) :
    ((s.answered t response state calls).completeTask t result).channel.log =
      s.channel.log ++ (.onResponse s.self t response :: calls.map (.soe s.self) ++
        [.onComplete t result]) := by
  rw [← List.append_assoc, ← log_answered]
  rfl

variable [VirtualTask σ] {i : Input ι σ}

/-- A move only adds to the log. -/
theorem Move.log (h : Move i s s') :
    ∃ new, s'.channel.log = s.channel.log ++ new ∧ ∀ a ∈ new, a.Of s.self := by
  cases h with
  | receive | soe | receiveIIN | queue | txDone => exact ⟨_, rfl, by simp [Action.Of]⟩
  | demand tasks => exact ⟨[], by simp [log_evaluate], by simp [Action.Of]⟩
  | sendConfirm confirm rest => exact ⟨_, log_sendConfirm s confirm rest, by simp [Action.Of]⟩
  | request t state apdu => exact ⟨_, log_transmit_built s t state apdu, by simp [Action.Of]⟩
  | requestOnly t state apdu =>
    rw [log_finished]
    exact ⟨_, log_transmit_built s t state apdu, by simp [Action.Of]⟩
  | formatError t state apdu =>
    rw [log_finished]
    exact ⟨_, log_completeTask_built s t state apdu _, by simp [Action.Of]⟩
  | goOn t response state calls | again t response state calls =>
    exact ⟨_, log_answered s t response state calls, by simp [Action.Of]⟩
  | done t response state calls result completion =>
    rw [log_finished]
    exact ⟨_, log_completeTask_answered s t response state calls completion,
      by simp [or_imp, forall_and, Action.Of]⟩
  | timeout t =>
    rw [log_finished]
    exact ⟨_, rfl, by simp [Action.Of]⟩
  | up => exact ⟨_, log_opened s, by simp [Action.Of]⟩
  | bind u => exact (makes_scheduleRecurringPollTask s u).log trivial
  | adhoc u => exact (makes_scheduleAdhocTask s u).log trivial

/-- A move ends the current task of the master, or leaves the current task alone. -/
theorem Move.current (h : Move i s s') (howns : s.Owns) :
    s'.channel.current = s.channel.current ∨
      s'.channel.current = none ∧ ∃ t, s.channel.current = some ⟨t, s.self⟩ := by
  have hends : ∀ {mid : Session ι σ} {t}, s.ctx.activeTask = some t →
      mid.ctx.activeTask = s.ctx.activeTask → mid.channel.current = s.channel.current →
      mid.self = s.self → mid.finished.channel.current = none ∧
        ∃ t, s.channel.current = some ⟨t, s.self⟩ := by
    intro mid t hactive hmid hcurrent hself
    have hown := (howns.busy t hactive).2
    rw [finished_eq (hmid.trans hactive) (by rw [hcurrent, hself, hown])]
    exact ⟨rfl, t, hown⟩
  cases h with
  | demand tasks => exact .inl (current_evaluate tasks)
  | requestOnly t _ _ hactive | formatError t _ _ hactive | done t _ _ _ _ _ _ hactive
  | timeout t _ hactive => exact .inr (hends hactive rfl rfl rfl)
  | up => exact .inl (current_opened s)
  | bind u => exact .inl (makes_scheduleRecurringPollTask s u).current
  | adhoc u => exact .inl (makes_scheduleAdhocTask s u).current
  | _ => exact .inl rfl

/-- A move keeps the master and the scheduler in agreement. -/
theorem Owns.move (h : Move i s s') (howns : s.Owns) : s'.Owns := by
  have hself := h.self
  have hcurrent := h.current howns
  cases h with
  | receive | soe | receiveIIN | queue | sendConfirm | txDone | goOn =>
    exact ⟨howns.idle, howns.busy⟩
  | request t state apdu hactive | again t _ _ _ _ hactive =>
    exact howns.of_eq rfl rfl rfl (by simp [hactive]) (by simp [assign])
  | requestOnly t _ _ hactive | formatError t _ _ hactive | done t _ _ _ _ _ _ hactive
  | timeout t _ hactive => exact Owns.finished hactive (howns.busy t hactive).2
  | demand tasks => exact howns.of_eq hself rfl (current_evaluate tasks) (fun _ => rfl) id
  | up => exact howns.of_eq hself rfl (current_opened s) (fun _ => rfl) id
  | bind u => exact howns.made (makes_scheduleRecurringPollTask s u)
  | adhoc u => exact howns.made (makes_scheduleAdhocTask s u)

end Session

/-! ## Turns -/

namespace World

variable {ι σ : Type} {w w' : World ι σ}

variable (setup : Setup ι σ) (now : Timestamp) {m : ι}

theorem owned_init : (init setup now).Owned :=
  fun _ => ⟨fun _ => ⟨rfl, nofun⟩, nofun⟩

/-- The clock is all that changes when time passes. -/
theorem advance_eq (c : Channel ι σ) (now : Timestamp) (utc : Nat) :
    advance c now utc =
      { c with now := (advance c now utc).now, utc := (advance c now utc).utc } := by
  unfold advance
  split <;> rfl

/-- The masters are as before, and so is the current task. -/
theorem Owned.of_eq (hw : w.Owned) (hmasters : w'.masters = w.masters)
    (hcurrent : w'.channel.current = w.channel.current) : w'.Owned := by
  intro m
  have hctx : (w'.session m).ctx = (w.session m).ctx := congrFun hmasters m
  exact (hw m).of_eq rfl (by rw [hctx]) hcurrent (fun _ => by rw [hctx]) (by rw [hctx]; exact id)

/-- A master with an active task has the current one. -/
theorem Owned.activeTask_eq_none (hw : w.Owned) (h : ∀ t, w.channel.current ≠ some ⟨t, m⟩) :
    (w.masters m).activeTask = none := by
  cases hactive : (w.masters m).activeTask with
  | none => rfl
  | some t => exact absurd ((hw m).busy t hactive).2 (h t)

/-- The current task is the active task of its master, and no other master has one. -/
theorem Owned.activeTask_iff (hw : w.Owned) (m : ι) (t : TaskId ι) :
    (w.masters m).activeTask = some t ↔ w.channel.current = some ⟨t, m⟩ := by
  constructor
  · intro hactive
    exact ((hw m).busy t hactive).2
  · intro hcurrent
    cases hactive : (w.masters m).activeTask with
    | none => exact absurd hcurrent (((hw m).idle hactive).2 t)
    | some t' =>
      have hcurrent' := ((hw m).busy t' hactive).2
      rw [show (w.session m).channel.current = some ⟨t, m⟩ from hcurrent] at hcurrent'
      cases hcurrent'
      rfl

theorem Owned.current_isSome_iff (hw : w.Owned) :
    w.channel.current.isSome ↔ ∃! m, (w.masters m).activeTask.isSome := by
  have hactive : ∀ m, (w.masters m).activeTask.isSome →
      ∃ t, w.channel.current = some ⟨t, m⟩ := by
    intro m hsome
    obtain ⟨t, ht⟩ := Option.isSome_iff_exists.mp hsome
    exact ⟨t, (hw.activeTask_iff m t).mp ht⟩
  constructor
  · intro hsome
    obtain ⟨r, hr⟩ := Option.isSome_iff_exists.mp hsome
    refine ⟨r.runner, ?_, fun k hk => ?_⟩
    · simp [(hw.activeTask_iff r.runner r.task).mpr hr]
    · obtain ⟨t, ht⟩ := hactive k hk
      rw [hr] at ht
      cases ht
      rfl
  · rintro ⟨m, hm, -⟩
    obtain ⟨t, ht⟩ := hactive m hm
    simp [ht]

/-- A master that waits for a response has the current task. -/
theorem Owned.current_of_busy (hw : w.Owned) (h : (w.masters m).tstate ≠ .IDLE) :
    ∃ t, w.channel.current = some ⟨t, m⟩ := by
  obtain ⟨t, ht⟩ := (hw m).toBusy h
  exact ⟨t, ((hw m).busy t ht).2⟩

/-- An idle master agrees with every channel that does not run a task of it. -/
theorem Owned.idle (hw : w.Owned) {c : Channel ι σ} (hactive : (w.masters m).activeTask = none)
    (hc : ∀ t, c.current ≠ some ⟨t, m⟩) : Session.Owns ⟨m, w.masters m, c⟩ :=
  ⟨fun _ => ⟨((hw m).idle hactive).1, hc⟩, by simp [hactive]⟩

/-- Another master sees at most that the current task, which is not its own, is over. -/
theorem Owned.other (hw : w.Owned) {c : Channel ι σ} {k : ι} (hk : k ≠ m)
    (hcurrent : c.current = w.channel.current ∨
      c.current = none ∧ ∃ t, w.channel.current = some ⟨t, m⟩) :
    Session.Owns ⟨k, w.masters k, c⟩ := by
  obtain hsame | ⟨hnone, t, hwas⟩ := hcurrent
  · exact (hw k).of_eq rfl rfl hsame (fun _ => rfl) id
  · have hactive : (w.masters k).activeTask = none :=
      hw.activeTask_eq_none fun t' => by simp [hwas, hk.symm]
    exact hw.idle hactive (by simp [hnone])

/-- Every call of `Run` has been accepted. -/
def Accepted (w : World ι σ) : Prop :=
  ∀ m t accepted, .run m t accepted ∈ w.channel.log → accepted = true

theorem Accepted.append {new : List (Action ι)} (h : w.Accepted)
    (hlog : w'.channel.log = w.channel.log ++ new)
    (hnew : ∀ m t accepted, .run m t accepted ∈ new → accepted = true) : w'.Accepted := by
  intro m t accepted hmem
  rw [hlog, List.mem_append] at hmem
  exact hmem.elim (h m t accepted) (hnew m t accepted)

/-- The channel changes and adds to the log, but not for the master. -/
theorem elsewhere_of_log {new : List (Action ι)} (hmasters : w'.masters m = w.masters m)
    (hlog : w'.channel.log = w.channel.log ++ new) (hnew : ∀ a ∈ new, a.master ≠ some m) :
    (w.session m).Elsewhere (w'.session m) := by
  refine ⟨rfl, ?_, new, hlog, hnew⟩
  simp [World.session, hmasters]

theorem elsewhere_of_eq (hmasters : w'.masters m = w.masters m)
    (hlog : w'.channel.log = w.channel.log) : (w.session m).Elsewhere (w'.session m) :=
  elsewhere_of_log hmasters (hlog.trans (List.append_nil _).symm) (by simp)

variable [DecidableEq ι]

theorem session_put_of_ne (w : World ι σ) {s : Session ι σ} {k : ι} (hk : k ≠ s.self) :
    (w.put s).session k = ⟨k, w.masters k, s.channel⟩ := by
  simp [session, put, Function.update_of_ne hk]

/-- What comes before a check is about a timer, a posted check or the schedule of a task. -/
theorem checking_eq {i : Input ι σ} {prepare : Channel ι σ → Channel ι σ}
    (hi : i.prepare = some prepare) (w : World ι σ) :
    (w.checking prepare).channel =
      { w.channel with
        objects := (prepare w.channel).objects
        taskCheckPending := false
        posted := (prepare w.channel).posted
        taskTimer := (prepare w.channel).taskTimer
        taskStartTimeout := (w.checking prepare).channel.taskStartTimeout } := by
  cases i <;> cases hi <;> rfl

/-- A layer that goes down takes the task away on both sides. -/
theorem Owned.closed (hw : w.Owned) (m : ι) : (w.put (w.session m).closed).Owned := by
  have hcurrent : (w.session m).closed.channel.current =
      w.channel.current.filter (·.runner ≠ m) := w.channel.current_setRunnerOffline m
  intro k
  by_cases hk : k = m
  · subst hk
    have hsession := session_put w (w.session k).closed
    rw [show (w.session k).closed.self = k from rfl] at hsession
    rw [hsession]
    refine ⟨fun _ => ⟨rfl, fun t ht => ?_⟩, nofun⟩
    have hfilter := hcurrent.symm.trans ht
    simp only [Option.filter_eq_some_iff, decide_eq_true_eq] at hfilter
    exact hfilter.2 rfl
  · rw [session_put_of_ne w hk]
    refine hw.other hk ?_
    rw [hcurrent]
    cases h : w.channel.current with
    | none => exact .inl rfl
    | some r =>
      by_cases hr : r.runner = m
      · subst hr
        exact .inr ⟨by simp, r.task, rfl⟩
      · exact .inl (by simp [hr])

theorem Accepted.closed (h : w.Accepted) (m : ι) : (w.put (w.session m).closed).Accepted := by
  refine h.append (Session.log_closed (w.session m)) ?_
  intro k t accepted hmem
  obtain ⟨r, -, hr⟩ | hr := Channel.mem_closing _ hmem <;> cases hr

/-- A layer that goes down is nothing to the other masters. -/
theorem elsewhere_closed (w : World ι σ) {k : ι} (hk : k ≠ m) :
    (w.session k).Elsewhere ((w.put (w.session m).closed).session k) := by
  refine elsewhere_of_log (Function.update_of_ne hk ..) (Session.log_closed (w.session m)) ?_
  intro a ha
  obtain ⟨r, -, rfl⟩ | rfl := Channel.mem_closing _ ha
  · nofun
  · exact fun h => hk (Option.some.inj h).symm

variable [VirtualTask σ] {i : Input ι σ}

theorem Owned.beginning (hw : w.Owned) (hnone : w.channel.current = none) (r : Record ι) :
    (w.beginning r).Owned := by
  intro k
  by_cases hk : k = r.runner
  · subst hk
    have hsession := session_put (w.claim r) (((w.claim r).session r.runner).begun r.task)
    rw [show (((w.claim r).session r.runner).begun r.task).self = r.runner from rfl] at hsession
    rw [World.beginning, hsession]
    exact ⟨nofun, fun t ht => ⟨nofun, by cases ht; rfl⟩⟩
  · rw [World.beginning, session_put_of_ne _ hk]
    have hactive : (w.masters k).activeTask = none :=
      hw.activeTask_eq_none fun t => by simp [hnone]
    refine hw.idle hactive fun t ht => hk ?_
    have hr : some r = some ⟨t, k⟩ := ht
    cases hr
    rfl

/-- A turn keeps the scheduler and the masters in agreement. -/
theorem Owned.turn (hw : w.Owned) (h : Turn i w w') : w'.Owned := by
  have hchecking : ∀ {prepare}, i.prepare = some prepare → (w.checking prepare).Owned :=
    fun hi => hw.of_eq rfl (by rw [checking_eq hi])
  cases h with
  -- the master that moves keeps its part, and the others only see that the task may be gone
  | move m s hmove =>
    have hself : s.self = m := hmove.self
    subst hself
    intro k
    by_cases hk : k = s.self
    · subst hk
      rw [session_put]
      exact (hw s.self).move hmove
    · rw [session_put_of_ne w hk]
      exact hw.other hk (hmove.current (hw s.self))
  | recheck prepare hi => exact hchecking hi
  | arm prepare best hi => exact (hchecking hi).of_eq rfl rfl
  | start prepare best hi hcurrent =>
    exact (hchecking hi).beginning (by rw [checking_eq hi]; exact hcurrent) best
  | ran | assignClass => exact hw.of_eq rfl rfl
  | timeoutTasks =>
    refine hw.of_eq rfl ?_
    change (w.channel.completeAll _ _).current = w.channel.current
    rw [Channel.completeAll_eq]
  | clock now utc =>
    refine hw.of_eq rfl ?_
    change (advance w.channel now utc).current = w.channel.current
    rw [advance_eq]

/-! ## Steps and runs -/

/-- **Step rule**: what turns keep, and layers that go down, every step keeps. -/
theorem keeps_step {P : World ι σ → Prop} (hw : w.Owned) (hP : P w)
    (hturn : ∀ w w', w.Owned → P w → Turn i w w' → P w')
    (hdown : ∀ m, i = .onLowerLayerDown m → (w.masters m).isOnline = true →
      P (w.put (w.session m).closed)) : P (w.step i) := by
  by_cases hi : ∃ m, i = .onLowerLayerDown m
  · obtain ⟨m, rfl⟩ := hi
    rw [step_onLowerLayerDown]
    split
    · rename_i honline
      exact hdown m rfl honline
    · exact hP
  · have hturns : Turns i w (w.step i) := turns_step hw fun m hm => hi ⟨m, hm⟩
    generalize w.step i = last at hturns
    have hboth : last.Owned ∧ P last := by
      induction hturns with
      | refl => exact ⟨hw, hP⟩
      | tail _ h ih => exact ⟨ih.1.turn h, hturn _ _ ih.1 ih.2 h⟩
    exact hboth.2

/-- For each master, a turn is a move of its own or happens elsewhere. -/
theorem Turn.session (h : Turn i w w') (m : ι) :
    (w.session m).Move i (w'.session m) ∨ (w.session m).Elsewhere (w'.session m) := by
  have hchecking : ∀ {prepare}, i.prepare = some prepare →
      (w.checking prepare).channel.log = w.channel.log := by
    intro prepare hi
    rw [checking_eq hi]
  cases h with
  -- each entry of the log names the master that did it
  | move k s hmove =>
    have hself : s.self = k := hmove.self
    subst hself
    by_cases hm : m = s.self
    · subst hm
      rw [session_put]
      exact .inl hmove
    · obtain ⟨new, hlog, hnew⟩ := hmove.log
      refine .inr (elsewhere_of_log ?_ hlog fun a ha => (hnew a ha).master_ne hm)
      exact Function.update_of_ne hm ..
  | recheck prepare hi | arm prepare best hi =>
    exact .inr (elsewhere_of_eq rfl (hchecking hi))
  | start prepare best hi =>
    have hlog : ((w.checking prepare).beginning best).channel.log =
        w.channel.log ++ [.onStart best.task] := by
      rw [← hchecking hi]
      rfl
    by_cases hm : m = best.runner
    · -- the master gets the task
      subst hm
      refine .inr ⟨rfl, ?_, _, hlog, by simp [Action.master]⟩
      simp [World.session, beginning, put, Session.begun, Session.onStart, Session.act,
        Session.setTaskState, claim, withChannel, checking]
    · refine .inr (elsewhere_of_log ?_ hlog (by simp [Action.master]))
      exact Function.update_of_ne hm ..
  | ran k t => exact .inr (elsewhere_of_log rfl rfl (by simp [Action.master]))
  | timeoutTasks =>
    refine .inr (elsewhere_of_log rfl (congrArg Channel.log (w.channel.completeAll_eq ..)) ?_)
    intro a ha
    obtain ⟨r, -, rfl⟩ := List.mem_map.mp ha
    simp [Action.master]
  | clock now utc =>
    refine .inr (elsewhere_of_eq rfl ?_)
    change (advance w.channel now utc).log = w.channel.log
    rw [advance_eq]
  | assignClass => exact .inr (elsewhere_of_eq rfl rfl)

/-- **Step rule for masters**: what the moves of a master keep, and what happens elsewhere, and
    layers that go down, every step keeps for every master. -/
theorem sessions_step {P : Session ι σ → Prop} (hw : w.Owned) (hP : ∀ m, P (w.session m))
    (hmove : ∀ s s', s.Owns → P s → s.Move i s' → P s')
    (helse : ∀ s s', P s → s.Elsewhere s' → P s')
    (hdown : ∀ m, i = .onLowerLayerDown m → (w.masters m).isOnline = true →
      P (w.session m).closed) : ∀ m, P ((w.step i).session m) := by
  refine keeps_step (P := fun w => ∀ m, P (w.session m)) hw hP ?_ ?_
  · intro w w' hw hP hturn m
    obtain hm | hm := hturn.session m
    · exact hmove _ _ (hw m) (hP m) hm
    · exact helse _ _ (hP m) hm
  · intro m hi honline k
    by_cases hk : k = m
    · subst hk
      have hsession := session_put w (w.session k).closed
      rw [show (w.session k).closed.self = k from rfl] at hsession
      rw [hsession]
      exact hdown k hi honline
    · exact helse _ _ (hP k) (elsewhere_closed w hk)

theorem Owned.step (hw : w.Owned) (i : Input ι σ) : (w.step i).Owned :=
  keeps_step hw hw (fun _ _ _ hw h => hw.turn h) fun m _ _ => hw.closed m

/-- The scheduler and the masters agree in every state of every run. -/
theorem owned_run (inputs : List (Input ι σ)) : (Lib.run step (init setup now) inputs).Owned :=
  Lib.invariant_run (fun _ i hw => hw.step i) (owned_init setup now) inputs

theorem Accepted.turn (h : w.Accepted) (hturn : Turn i w w') : w'.Accepted := by
  have hchecking : ∀ {prepare}, i.prepare = some prepare →
      (w.checking prepare).channel.log = w.channel.log ++ [] := by
    intro prepare hi
    rw [checking_eq hi, List.append_nil]
  cases hturn with
  | move m s hmove =>
    obtain ⟨new, hlog, hnew⟩ := hmove.log
    exact h.append hlog fun m t accepted hmem => absurd (hnew _ hmem) id
  | recheck prepare hi | arm prepare best hi => exact h.append (hchecking hi) nofun
  | start prepare best hi =>
    have hlog : ((w.checking prepare).beginning best).channel.log =
        (w.checking prepare).channel.log ++ [.onStart best.task] := rfl
    rw [hchecking hi, List.append_nil] at hlog
    refine h.append hlog ?_
    intro m t accepted hmem
    simp at hmem
  | ran m t =>
    refine h.append rfl ?_
    intro k t' accepted hmem
    simp only [List.mem_singleton, Action.run.injEq] at hmem
    exact hmem.2.2
  | timeoutTasks =>
    refine h.append (congrArg Channel.log (w.channel.completeAll_eq ..)) ?_
    intro m t accepted hmem
    simp at hmem
  | clock now utc =>
    have hlog : (advance w.channel now utc).log = w.channel.log ++ [] := by
      rw [advance_eq, List.append_nil]
    exact h.append hlog nofun
  | assignClass => exact h.append (List.append_nil _).symm nofun

theorem accepted_run (inputs : List (Input ι σ)) :
    (Lib.run step (init setup now) inputs).Accepted := by
  have hboth := Lib.invariant_run (P := fun w : World ι σ => w.Owned ∧ w.Accepted)
    (fun w i h => ⟨h.1.step i, keeps_step h.1 h.2 (fun _ _ _ hP hturn => hP.turn hturn)
      fun m _ _ => h.2.closed m⟩)
    ⟨owned_init setup now, nofun⟩ inputs
  exact hboth.2

/-- **One task at a time.**  After any number of events of any number of masters, the scheduler
    has a current task exactly if one and only one master has an active task, and it is that one;
    at most one master waits for a response, no master has ever refused to run a task, and the
    master of the current task is busy with it. -/
theorem one_task_at_a_time (setup : Setup ι σ) (now : Timestamp) (inputs : List (Input ι σ)) :
    let w := Lib.run step (init setup now) inputs
    (w.channel.current.isSome ↔ ∃! m, (w.masters m).activeTask.isSome) ∧
    (∀ m t, (w.masters m).activeTask = some t ↔ w.channel.current = some ⟨t, m⟩) ∧
    (∀ m k, (w.masters m).tstate = .WAIT_FOR_RESPONSE →
      (w.masters k).tstate = .WAIT_FOR_RESPONSE → m = k) ∧
    (∀ m t accepted, .run m t accepted ∈ w.channel.log → accepted = true) ∧
    ∀ m t, w.channel.current = some ⟨t, m⟩ → (w.masters m).tstate ≠ .IDLE := by
  intro w
  have hw : w.Owned := owned_run setup now inputs
  refine ⟨hw.current_isSome_iff, hw.activeTask_iff, ?_, accepted_run setup now inputs, ?_⟩
  · intro m k hm hk
    obtain ⟨t, ht⟩ := hw.current_of_busy (by rw [hm]; nofun)
    obtain ⟨t', ht'⟩ := hw.current_of_busy (m := k) (by rw [hk]; nofun)
    rw [ht] at ht'
    cases ht'
    rfl
  · intro m t hcurrent
    exact ((hw m).busy t ((hw.activeTask_iff m t).mpr hcurrent)).1

end World

end OpenDnp3.Master
