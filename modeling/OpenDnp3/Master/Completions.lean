import OpenDnp3.Master.BestTask
import OpenDnp3.Master.Confirms

/-!
# Every task that starts is reported as complete

A task is started by the scheduler and ended in many places: by its response, by a timeout, by a
request that cannot be formatted, by a layer that goes down.  Each of them tells the task's
callback and the application, with two exceptions.  A task without a response ends when its
request has been handed to the lower layer, and nobody is told.  A recurring task that runs when
the layer goes down is taken from the scheduler, and nobody is told either.
-/

namespace OpenDnp3.Master

variable {ι σ : Type}

/-! ## What never changes about a task -/

/-- What the class and the constructor of a task fix for ever. -/
def IMasterTask.fixed (t : IMasterTask ι σ) : ι × Nat × Bool × Bool × Bool :=
  (t.context, t.priority, t.isRecurring, t.blocksLowerPriority, t.expectsResponse)

variable {t t' : IMasterTask ι σ}

theorem IMasterTask.context_eq (h : t'.fixed = t.fixed) :
    t'.context = t.context := congrArg (·.1) h

theorem IMasterTask.priority_eq (h : t'.fixed = t.fixed) :
    t'.priority = t.priority := congrArg (·.2.1) h

theorem IMasterTask.isRecurring_eq (h : t'.fixed = t.fixed) :
    t'.isRecurring = t.isRecurring := congrArg (·.2.2.1) h

theorem IMasterTask.expectsResponse_eq (h : t'.fixed = t.fixed) :
    t'.expectsResponse = t.expectsResponse := congrArg (·.2.2.2.2) h

namespace Channel

variable [DecidableEq ι] (c : Channel ι σ)

theorem fixed_update {objects : TaskId ι → IMasterTask ι σ} {t : TaskId ι} {task : IMasterTask ι σ}
    (h : task.fixed = (objects t).fixed) (t' : TaskId ι) :
    (Function.update objects t task t').fixed = (objects t').fixed := by
  by_cases ht : t' = t
  · subst ht
    rw [Function.update_self, h]
  · rw [Function.update_of_ne ht]

theorem fixed_modify {f : IMasterTask ι σ → IMasterTask ι σ} (hf : ∀ task, (f task).fixed = task.fixed)
    (t t' : TaskId ι) : ((c.modify t f).objects t').fixed = (c.objects t').fixed :=
  fixed_update (hf _) t'

theorem fixed_completeTask (t : TaskId ι) (result : TaskCompletion) (t' : TaskId ι) :
    ((c.completeTask t result).objects t').fixed = (c.objects t').fixed :=
  fixed_update (by rfl) t'

theorem fixed_completeAll (records : List (Record ι)) (result : TaskCompletion) (t : TaskId ι) :
    ((c.completeAll records result).objects t).fixed = (c.objects t).fixed := by
  induction records generalizing c with
  | nil => rfl
  | cons r rest ih =>
    exact (ih (c.completeTask r.task result)).trans (c.fixed_completeTask r.task result t)

end Channel

/-! ## The life of a task -/

/-- Where a task is in its life: not started yet, running, or over. -/
inductive Phase where
  | fresh
  | running
  | over
  deriving DecidableEq, Repr

section Phase

variable [DecidableEq ι]

/-- A task must be complete before it starts again, and is complete once.  It may be complete
    without having been started, when it has waited too long or the layer goes down. -/
def followTask (t : TaskId ι) : Phase → Action ι → Option Phase
  | .running, .onStart t' => if t' = t then none else some .running
  | phase, .onStart t' => if t' = t then some .running else some phase
  | .fresh, .onComplete _ _ => some .fresh
  | .running, .onComplete t' _ => if t' = t then some .over else some .running
  | .over, .onComplete t' _ => if t' = t then none else some .over
  | phase, _ => some phase

/-- Actions that are about the life of the task. -/
def Action.Concerns (t : TaskId ι) : Action ι → Prop
  | .onStart t' | .onComplete t' _ => t' = t
  | _ => False

theorem followTask_of_not_concerns {t : TaskId ι} {a : Action ι} (h : ¬a.Concerns t)
    (phase : Phase) : followTask t phase a = some phase := by
  cases a <;> cases phase <;> simp_all [Action.Concerns, followTask]

theorem watch_of_not_concerns {t : TaskId ι} {new : List (Action ι)}
    (h : ∀ a ∈ new, ¬a.Concerns t) (phase : Phase) :
    Lib.watch (followTask t) phase new = some phase :=
  Lib.watch_ignore fun a ha => followTask_of_not_concerns (h a ha) phase

end Phase

/-! ## Moves -/

/-- The action is about the life of some task. -/
def Action.IsLife : Action ι → Prop
  | .onStart _ | .onComplete _ _ => True
  | _ => False

theorem watch_of_not_isLife [DecidableEq ι] {new : List (Action ι)} (h : ∀ a ∈ new, ¬a.IsLife)
    (t : TaskId ι) (phase : Phase) : Lib.watch (followTask t) phase new = some phase := by
  refine watch_of_not_concerns (fun a ha => ?_) phase
  have hlife := h a ha
  cases a <;> simp_all [Action.IsLife, Action.Concerns]

namespace Session

variable {s s' : Session ι σ}

/-- No task begins, ends or comes to the scheduler. -/
structure Quiet (s s' : Session ι σ) : Prop where
  created : s'.channel.created = s.channel.created
  current : s'.channel.current = s.channel.current
  tasks : s'.channel.tasks = s.channel.tasks
  boundTasks : s'.ctx.boundTasks = s.ctx.boundTasks
  fixed : ∀ t, (s'.channel.objects t).fixed = (s.channel.objects t).fixed
  log : ∃ new, s'.channel.log = s.channel.log ++ new ∧ ∀ a ∈ new, ¬a.IsLife

/-- The task of the master is over, and somebody may be told. -/
structure Ends (s s' : Session ι σ) (t : TaskId ι) (told : List (Action ι)) : Prop where
  created : s'.channel.created = s.channel.created
  current : s.channel.current = some ⟨t, s.self⟩ ∧ s'.channel.current = none
  tasks : s'.channel.tasks =
    if (s.channel.objects t).isRecurring then s.channel.tasks ++ [⟨t, s.self⟩]
    else s.channel.tasks
  boundTasks : s'.ctx.boundTasks = s.ctx.boundTasks
  fixed : ∀ t, (s'.channel.objects t).fixed = (s.channel.objects t).fixed
  log : ∃ new, s'.channel.log = s.channel.log ++ (new ++ told) ∧ ∀ a ∈ new, ¬a.IsLife

variable [DecidableEq ι]

/-- A master that has the current task forgets it together with the scheduler. -/
theorem Ends.finished {mid : Session ι σ} {t : TaskId ι} {told : List (Action ι)}
    (howns : s.Owns) (hactive : s.ctx.activeTask = some t) (hself : mid.self = s.self)
    (hmid : mid.ctx.activeTask = s.ctx.activeTask)
    (hcurrent : mid.channel.current = s.channel.current)
    (hcreated : mid.channel.created = s.channel.created)
    (htasks : mid.channel.tasks = s.channel.tasks)
    (hbound : mid.ctx.boundTasks = s.ctx.boundTasks)
    (hfixed : ∀ t, (mid.channel.objects t).fixed = (s.channel.objects t).fixed)
    (hlog : ∃ new, mid.channel.log = s.channel.log ++ (new ++ told) ∧ ∀ a ∈ new, ¬a.IsLife) :
    Ends s mid.finished t told := by
  have hown := (howns.busy t hactive).2
  have hrecurring := IMasterTask.isRecurring_eq (hfixed t)
  rw [finished_eq (hmid.trans hactive) (by rw [hcurrent, hself, hown])]
  exact ⟨hcreated, ⟨hown, rfl⟩, by simp only [htasks, hself, hrecurring], hbound, hfixed, hlog⟩

/-- What a move means for the tasks of the channel. -/
inductive Life [VirtualTask σ] (i : Input ι σ) (s s' : Session ι σ) : Prop
  | quiet (h : Quiet s s')
  | ends (t : TaskId ι) (result : TaskCompletion) (h : Ends s s' t [.onComplete t result])
  /-- A task without a response is over, and nobody is told. -/
  | silent (t : TaskId ι) (hexpects : (s.channel.objects t).expectsResponse = false)
      (h : Ends s s' t [])
  | opened (hs : s' = s.opened)
  | bind (u : UserTask σ) (hi : i = .scheduleRecurringPollTask s.self u)
      (hs : s' = s.scheduleRecurringPollTask u)
  | adhoc (u : UserTask σ) (hi : i = .scheduleAdhocTask s.self u) (hs : s' = s.scheduleAdhocTask u)

variable [VirtualTask σ] {i : Input ι σ}

/-- What a move means for the tasks of the channel. -/
theorem Move.life (h : Move i s s') (howns : s.Owns) : Life i s s' := by
  -- the state of a task is its own affair; what the scheduler sees stays
  have hupdate : ∀ (t : TaskId ι) (state : σ) (t' : TaskId ι),
      ((s.setTaskState t state).channel.objects t').fixed = (s.channel.objects t').fixed :=
    fun t state => s.channel.fixed_modify (f := fun task => { task with state }) (fun _ => rfl) t
  cases h with
  | receive | soe | receiveIIN =>
    exact .quiet ⟨rfl, rfl, rfl, rfl, fun _ => rfl, _, rfl, by simp [Action.IsLife]⟩
  | demand tasks =>
    refine .quiet ⟨?_, current_evaluate tasks, ?_, rfl, ?_, [], ?_, by simp⟩
    · simp [demandAll, evaluate, Channel.foldl_setMinExpiration]
    · simp [demandAll, evaluate, Channel.foldl_setMinExpiration]
    · intro t
      simp only [demandAll, evaluate, Channel.foldl_setMinExpiration,
        Channel.postCheckForTaskRun_eq]
      split <;> rfl
    · rw [log_evaluate, List.append_nil]
  | queue | txDone =>
    exact .quiet ⟨rfl, rfl, rfl, rfl, fun _ => rfl, _, rfl, by simp [Action.IsLife]⟩
  | sendConfirm confirm rest =>
    exact .quiet ⟨rfl, rfl, rfl, rfl, fun _ => rfl, _, log_sendConfirm s confirm rest,
      by simp [Action.IsLife]⟩
  | request t state apdu =>
    exact .quiet ⟨rfl, rfl, rfl, rfl, hupdate t state, _, log_transmit_built s t state apdu,
      by simp [Action.IsLife]⟩
  -- a request without a response is the end of its task, and nobody is told
  | requestOnly t state apdu hactive _ _ _ hexpects =>
    refine .silent t hexpects (.finished howns hactive rfl rfl rfl rfl rfl rfl (hupdate t state) ?_)
    refine ⟨[.build s.self apdu, .transmit s.self (.request t) apdu], ?_, by simp [Action.IsLife]⟩
    rw [List.append_nil]
    exact log_transmit_built s t state apdu
  | formatError t state apdu hactive =>
    refine .ends t .FAILURE_MESSAGE_FORMAT_ERROR (.finished howns hactive rfl rfl rfl rfl rfl rfl
      ?_ ⟨[.build s.self apdu], log_completeTask_built s t state apdu _, by simp [Action.IsLife]⟩)
    exact fun t' => (Channel.fixed_completeTask _ t _ t').trans (hupdate t state t')
  -- a response that is not the last one
  | goOn t response state calls | again t response state calls =>
    exact .quiet ⟨rfl, rfl, rfl, rfl, hupdate t state, _, log_answered s t response state calls,
      by simp [Action.IsLife]⟩
  | done t response state calls result completion _ hactive =>
    refine .ends t completion (.finished howns hactive rfl rfl rfl rfl rfl rfl ?_
      ⟨_, log_completeTask_answered s t response state calls completion, by simp [Action.IsLife]⟩)
    exact fun t' => (Channel.fixed_completeTask _ t _ t').trans (hupdate t state t')
  | timeout t _ hactive =>
    refine .ends t .FAILURE_RESPONSE_TIMEOUT (.finished howns hactive rfl rfl rfl rfl rfl rfl ?_
      ⟨[], rfl, by simp⟩)
    exact fun t' => Channel.fixed_completeTask _ t _ t'
  | up => exact .opened rfl
  | bind u hi => exact .bind u hi rfl
  | adhoc u hi => exact .adhoc u hi rfl

end Session

/-! ## Where the tasks are -/

namespace Channel

/-- The task object exists. -/
def Known (c : Channel ι σ) : TaskId ι → Prop
  | .own _ _ => True
  | .user n => n < c.created

variable {c c' : Channel ι σ}

theorem Known.mono {t : TaskId ι} (h : c.Known t)
    (hcreated : c.created ≤ c'.created) : c'.Known t := by
  cases t with
  | own => trivial
  | user n => exact Nat.lt_of_lt_of_le h hcreated

variable [DecidableEq ι]

/-- How often the task is in the list of the scheduler. -/
def waiting (c : Channel ι σ) (t : TaskId ι) : Nat := (c.tasks.map (·.task)).count t

theorem waiting_pos {c : Channel ι σ} {r : Record ι} (h : r ∈ c.tasks) : 0 < c.waiting r.task :=
  List.count_pos_iff.mpr (List.mem_map_of_mem h)

theorem waiting_append {added : List (Record ι)} (h : c'.tasks = c.tasks ++ added) (t : TaskId ι) :
    c'.waiting t = c.waiting t + (added.map (·.task)).count t := by
  rw [waiting, h, List.map_append, List.count_append]
  rfl

theorem waiting_le (h : c'.tasks.Sublist c.tasks) (t : TaskId ι) :
    c'.waiting t ≤ c.waiting t :=
  (h.map _).count_le t

end Channel

namespace World

variable [DecidableEq ι]

/-- Where the task is in its life, by the log and by the scheduler. -/
structure Stage (c : Channel ι σ) (t : TaskId ι) (phase : Phase) : Prop where
  log : Lib.watch (followTask t) .fresh c.log = some phase
  running : phase = .running ↔ ∃ m, c.current = some ⟨t, m⟩
  /-- A task that runs only once is in the list once, and only until it runs. -/
  once : (c.objects t).isRecurring = false → c.waiting t ≤ 1 ∧ (0 < c.waiting t → phase = .fresh)
  unknown : ¬c.Known t → phase = .fresh

/-- Where each task is in its life, kept by every turn. -/
structure Tracked (w : World ι σ) : Prop where
  stage : ∀ t, ∃ phase, Stage w.channel t phase
  known : ∀ r ∈ w.channel.tasks, w.channel.Known r.task
  own : ∀ m task, (w.channel.objects (.own m task)).isRecurring = true
  bound : ∀ m, ∀ t ∈ (w.masters m).boundTasks,
    w.channel.Known t ∧ (w.channel.objects t).isRecurring = true
  /-- Every task gets a response. -/
  answered : ∀ t, w.channel.Known t → (w.channel.objects t).expectsResponse = true

variable {w w' : World ι σ} {c c' : Channel ι σ} {t : TaskId ι} {phase phase' : Phase}

theorem Stage.known_of_running (h : Stage c t phase) {m : ι} (hcurrent : c.current = some ⟨t, m⟩) :
    c.Known t := by
  by_contra hunknown
  have hrunning := h.running.mpr ⟨m, hcurrent⟩
  rw [h.unknown hunknown] at hrunning
  cases hrunning

/-- A running task that runs only once is not waiting. -/
theorem Stage.waiting_of_running (h : Stage c t phase) {m : ι} (hcurrent : c.current = some ⟨t, m⟩)
    (honce : (c.objects t).isRecurring = false) : c.waiting t = 0 := by
  by_contra hwaiting
  have hrunning := h.running.mpr ⟨m, hcurrent⟩
  rw [(h.once honce).2 (Nat.pos_of_ne_zero hwaiting)] at hrunning
  cases hrunning

/-- The task goes from one phase to another, or stays in it. -/
theorem Stage.next (h : Stage c t phase) {new : List (Action ι)} (hlog : c'.log = c.log ++ new)
    (hnew : Lib.watch (followTask t) phase new = some phase')
    (hrunning : phase' = .running ↔ ∃ m, c'.current = some ⟨t, m⟩)
    (honce : (c'.objects t).isRecurring = false →
      c'.waiting t ≤ 1 ∧ (0 < c'.waiting t → phase' = .fresh))
    (hunknown : ¬c'.Known t → phase' = .fresh) : Stage c' t phase' :=
  ⟨by rw [hlog, Lib.watch_append h.log, hnew], hrunning, honce, hunknown⟩

/-- Nothing happens to the task itself. -/
theorem Stage.same (h : Stage c t phase) {new : List (Action ι)} (hlog : c'.log = c.log ++ new)
    (hnew : Lib.watch (followTask t) phase new = some phase)
    (hcurrent : ∀ m, c'.current = some ⟨t, m⟩ ↔ c.current = some ⟨t, m⟩)
    (hwaiting : (c.objects t).isRecurring = false → c'.waiting t ≤ c.waiting t)
    (hrecurring : (c'.objects t).isRecurring = (c.objects t).isRecurring)
    (hcreated : c.created ≤ c'.created) : Stage c' t phase := by
  refine h.next hlog hnew ?_ ?_ ?_
  · rw [h.running]
    exact exists_congr fun m => (hcurrent m).symm
  · intro honce
    rw [hrecurring] at honce
    exact ⟨Nat.le_trans (hwaiting honce) (h.once honce).1,
      fun hpos => (h.once honce).2 (Nat.lt_of_lt_of_le hpos (hwaiting honce))⟩
  · exact fun hunknown => h.unknown fun hknown => hunknown (hknown.mono hcreated)

/-- Tasks that wait and run only once may be complete without having been started. -/
theorem Stage.watch_onComplete (h : Stage c t phase) {records : List (Record ι)}
    (hrecords : ∀ r ∈ records, r.task = t → r ∈ c.tasks ∧ (c.objects t).isRecurring = false)
    (result : TaskCompletion) :
    Lib.watch (followTask t) phase (records.map (.onComplete ·.task result)) = some phase := by
  refine Lib.watch_ignore fun a ha => ?_
  obtain ⟨r, hr, rfl⟩ := List.mem_map.mp ha
  by_cases htask : r.task = t
  · obtain ⟨hwaits, honce⟩ := hrecords r hr htask
    rw [(h.once honce).2 (htask ▸ Channel.waiting_pos hwaits)]
    rfl
  · exact followTask_of_not_concerns (a := .onComplete r.task result) htask phase

/-- Tasks keep what is fixed about them, so only the stages and what is new need a look. -/
theorem Tracked.of_stage (h : w.Tracked) (hcreated : w.channel.created ≤ w'.channel.created)
    (hfixed : ∀ t, w.channel.Known t → (w'.channel.objects t).fixed = (w.channel.objects t).fixed)
    (hstage : ∀ t, ∃ phase, Stage w'.channel t phase)
    (htasks : ∀ r ∈ w'.channel.tasks, r ∈ w.channel.tasks ∨ w'.channel.Known r.task)
    (hbound : ∀ m, ∀ t ∈ (w'.masters m).boundTasks, t ∈ (w.masters m).boundTasks ∨
      w'.channel.Known t ∧ (w'.channel.objects t).isRecurring = true)
    (hanswered : ∀ t, w'.channel.Known t → w.channel.Known t ∨
      (w'.channel.objects t).expectsResponse = true) : w'.Tracked where
  stage := hstage
  known r hr := (htasks r hr).elim (fun hr => (h.known r hr).mono hcreated) id
  own m task := (IMasterTask.isRecurring_eq (hfixed (.own m task) trivial)).trans (h.own m task)
  bound m t ht := by
    obtain ht | hnew := hbound m t ht
    · obtain ⟨hknown, hrecurring⟩ := h.bound m t ht
      exact ⟨hknown.mono hcreated, (IMasterTask.isRecurring_eq (hfixed t hknown)).trans hrecurring⟩
    · exact hnew
  answered t ht := by
    obtain hknown | hnew := hanswered t ht
    · exact (IMasterTask.expectsResponse_eq (hfixed t hknown)).trans (h.answered t hknown)
    · exact hnew

/-- The same when no task is made. -/
theorem Tracked.of_stage_eq (h : w.Tracked) (hcreated : w'.channel.created = w.channel.created)
    (hfixed : ∀ t, (w'.channel.objects t).fixed = (w.channel.objects t).fixed)
    (hbound : ∀ m, (w'.masters m).boundTasks = (w.masters m).boundTasks)
    (htasks : ∀ r ∈ w'.channel.tasks, r ∈ w.channel.tasks ∨ w.channel.Known r.task)
    (hstage : ∀ t, ∃ phase, Stage w'.channel t phase) : w'.Tracked := by
  refine h.of_stage (Nat.le_of_eq hcreated.symm) (fun t _ => hfixed t) hstage ?_ ?_ ?_
  · exact fun r hr => (htasks r hr).imp id fun hknown => hknown.mono (Nat.le_of_eq hcreated.symm)
  · intro m t ht
    rw [hbound] at ht
    exact .inl ht
  · exact fun t ht => .inl (ht.mono (Nat.le_of_eq hcreated))

/-- What is not about the life of tasks. -/
theorem Tracked.quiet (h : w.Tracked)
    (hbound : ∀ m, (w'.masters m).boundTasks = (w.masters m).boundTasks)
    (hcreated : w'.channel.created = w.channel.created)
    (hcurrent : w'.channel.current = w.channel.current)
    (htasks : w'.channel.tasks = w.channel.tasks)
    (hfixed : ∀ t, (w'.channel.objects t).fixed = (w.channel.objects t).fixed)
    (hlog : ∃ new, w'.channel.log = w.channel.log ++ new ∧ ∀ a ∈ new, ¬a.IsLife) :
    w'.Tracked := by
  obtain ⟨new, hlog, hnew⟩ := hlog
  refine h.of_stage_eq hcreated hfixed hbound (fun r hr => .inl (htasks ▸ hr)) fun t => ?_
  obtain ⟨phase, hstage⟩ := h.stage t
  refine ⟨phase, hstage.same hlog (watch_of_not_isLife hnew t phase) (by simp [hcurrent]) ?_
    (IMasterTask.isRecurring_eq (hfixed t)) (Nat.le_of_eq hcreated.symm)⟩
  simp [Channel.waiting, htasks]

theorem Tracked.quiet_of_eq (h : w.Tracked) (hmasters : w'.masters = w.masters)
    (hcreated : w'.channel.created = w.channel.created)
    (hcurrent : w'.channel.current = w.channel.current)
    (htasks : w'.channel.tasks = w.channel.tasks)
    (hfixed : ∀ t, (w'.channel.objects t).fixed = (w.channel.objects t).fixed)
    (hlog : w'.channel.log = w.channel.log) : w'.Tracked :=
  h.quiet (fun m => by rw [hmasters]) hcreated hcurrent htasks hfixed
    ⟨[], hlog.trans (List.append_nil _).symm, by simp⟩

theorem boundTasks_put {s : Session ι σ} (h : s.ctx.boundTasks = (w.masters s.self).boundTasks)
    (k : ι) : ((w.put s).masters k).boundTasks = (w.masters k).boundTasks := by
  by_cases hk : k = s.self
  · subst hk
    simp [put, h]
  · simp [put, Function.update_of_ne hk]

/-- The end of a task, of which the task hears. -/
theorem Tracked.ends (h : w.Tracked) {s : Session ι σ} {t : TaskId ι} {result : TaskCompletion}
    (hends : (w.session s.self).Ends s t [.onComplete t result]) : (w.put s).Tracked := by
  obtain ⟨new, hlog, hnew⟩ := hends.log
  have hcurrent : w.channel.current = some ⟨t, s.self⟩ := hends.current.1
  have hnone : (w.put s).channel.current = none := hends.current.2
  have hfixed : ∀ t, ((w.put s).channel.objects t).fixed = (w.channel.objects t).fixed :=
    hends.fixed
  have htasks : (w.put s).channel.tasks = if (w.channel.objects t).isRecurring then
    w.channel.tasks ++ [⟨t, s.self⟩] else w.channel.tasks := hends.tasks
  have hcreated : (w.put s).channel.created = w.channel.created := hends.created
  refine h.of_stage_eq hcreated hfixed (boundTasks_put hends.boundTasks) ?_ ?_
  · intro r hr
    rw [htasks] at hr
    -- a recurring task goes back into the list
    split at hr
    · refine (List.mem_append.mp hr).imp id fun hr => ?_
      obtain rfl := List.mem_singleton.mp hr
      obtain ⟨phase, hstage⟩ := h.stage t
      exact hstage.known_of_running hcurrent
    · exact .inl hr
  · intro t'
    obtain ⟨phase, hstage⟩ := h.stage t'
    have hquiet := watch_of_not_isLife hnew t' phase
    by_cases ht : t' = t
    · -- it was running, and is over
      subst ht
      have hrunning : phase = .running := hstage.running.mpr ⟨s.self, hcurrent⟩
      subst hrunning
      refine ⟨.over, hstage.next hlog ?_ (by simp [hnone]) ?_ ?_⟩
      · rw [Lib.watch_append hquiet]
        simp [Lib.watch, followTask]
      · intro honce
        rw [IMasterTask.isRecurring_eq (hfixed t')] at honce
        have hwaiting : (w.put s).channel.waiting t' = w.channel.waiting t' := by
          simp [Channel.waiting, htasks, honce]
        rw [hwaiting, hstage.waiting_of_running hcurrent honce]
        exact ⟨Nat.zero_le 1, fun hpos => absurd hpos (Nat.lt_irrefl 0)⟩
      · exact fun hunknown => absurd
          ((hstage.known_of_running hcurrent).mono (Nat.le_of_eq hcreated.symm)) hunknown
    -- the other tasks are not concerned
    · refine ⟨phase, hstage.same hlog ?_ ?_ ?_ (IMasterTask.isRecurring_eq (hfixed t'))
        (Nat.le_of_eq hcreated.symm)⟩
      · rw [Lib.watch_append hquiet]
        exact watch_of_not_concerns (by simp [Action.Concerns, Ne.symm ht]) phase
      · simp [hnone, hcurrent, Ne.symm ht]
      · intro _
        unfold Channel.waiting
        rw [htasks]
        split <;> simp [Ne.symm ht]

/-- Recurring tasks come to the list of the scheduler. -/
theorem Tracked.added (h : w.Tracked)
    (hbound : ∀ m, (w'.masters m).boundTasks = (w.masters m).boundTasks)
    (hcreated : w'.channel.created = w.channel.created)
    (hobjects : w'.channel.objects = w.channel.objects)
    (hcurrent : w'.channel.current = w.channel.current) {ids : List (TaskId ι)} {m : ι}
    (htasks : w'.channel.tasks = w.channel.tasks ++ ids.map (⟨·, m⟩))
    (hids : ∀ t ∈ ids, w.channel.Known t ∧ (w.channel.objects t).isRecurring = true)
    {a : Action ι} (hlog : w'.channel.log = w.channel.log ++ [a]) (ha : ¬a.IsLife) :
    w'.Tracked := by
  refine h.of_stage_eq hcreated (by simp [hobjects]) hbound ?_ fun t => ?_
  · intro r hr
    rw [htasks] at hr
    refine (List.mem_append.mp hr).imp id fun hr => ?_
    obtain ⟨t, ht, rfl⟩ := List.mem_map.mp hr
    exact (hids t ht).1
  · obtain ⟨phase, hstage⟩ := h.stage t
    refine ⟨phase, hstage.same hlog (watch_of_not_isLife (by simpa using ha) t phase)
      (by simp [hcurrent]) ?_ (by rw [hobjects]) (Nat.le_of_eq hcreated.symm)⟩
    · intro honce
      -- a task that runs only once is not among the new ones
      have hnot : t ∉ ids := fun ht => by simp [(hids t ht).2] at honce
      have hmap : (ids.map fun t => (⟨t, m⟩ : Record ι)).map (·.task) = ids := by
        simp [Function.comp_def]
      refine Nat.le_of_eq ((Channel.waiting_append htasks t).trans ?_)
      rw [hmap, List.count_eq_zero_of_not_mem hnot, Nat.add_zero]

/-- A layer that comes up brings recurring tasks. -/
theorem Tracked.opened (h : w.Tracked) (m : ι) : (w.put (w.session m).opened).Tracked := by
  have hchannel : (w.put (w.session m).opened).channel =
      { w.channel with
        tasks := w.channel.tasks ++ ((([StartupTask.clearRestart, .assignClass, .startupIntegrity,
          .eventScan, .enableUnsol, .disableUnsol, .timeSynchronization].filter
            (w.masters m).hasTask).map (TaskId.own m)) ++ (w.masters m).boundTasks).map (⟨·, m⟩)
        taskCheckPending := (w.put (w.session m).opened).channel.taskCheckPending
        posted := (w.put (w.session m).opened).channel.posted
        log := w.channel.log ++ [.onOpen m] } := by
    simp [put, Session.opened, Session.addAllTasks, Session.act, Channel.act, Channel.foldl_add,
      session]
  refine h.added (boundTasks_put rfl) (by rw [hchannel]) (by rw [hchannel]) (by rw [hchannel])
    (by rw [hchannel]) ?_ (by rw [hchannel]) (by simp [Action.IsLife])
  intro t ht
  obtain ht | ht := List.mem_append.mp ht
  · obtain ⟨task, -, rfl⟩ := List.mem_map.mp ht
    exact ⟨trivial, h.own m task⟩
  · exact h.bound m t ht

/-- A task is made for the user, and may be in the list of the scheduler. -/
theorem Tracked.made (h : w.Tracked) {s : Session ι σ} {task : IMasterTask ι σ}
    (hmakes : (w.session s.self).Makes s task) (hexpects : task.expectsResponse = true) :
    (w.put s).Tracked := by
  have hchannel : (w.put s).channel = _ := hmakes.channel
  -- the new task gets a number that no task had before
  have hunknown : ¬w.channel.Known (.user w.channel.created) := Nat.lt_irrefl _
  have hcreated : (w.put s).channel.created = w.channel.created + 1 := by
    rw [hchannel]
    rfl
  have hnew : (w.put s).channel.Known (.user w.channel.created) :=
    show w.channel.created < (w.put s).channel.created by omega
  have hobject : (w.put s).channel.objects (.user w.channel.created) = task := by
    rw [hchannel]
    exact Function.update_self ..
  have hfixed : ∀ t, t ≠ .user w.channel.created →
      ((w.put s).channel.objects t).fixed = (w.channel.objects t).fixed := by
    intro t ht
    rw [hchannel]
    exact congrArg IMasterTask.fixed (Function.update_of_ne ht ..)
  have hcurrent : (w.put s).channel.current = w.channel.current := hmakes.current
  -- the scheduler gets the task if the master is online
  obtain ⟨added, htasks, hadded, hlength⟩ : ∃ added : List (Record ι),
      (w.put s).channel.tasks = w.channel.tasks ++ added ∧
      (∀ r ∈ added, r.task = .user w.channel.created) ∧ added.length ≤ 1 := by
    refine ⟨_, by rw [hchannel]; rfl, ?_, ?_⟩ <;> split <;> simp [session]
  -- if not, a task that does not recur is told at once that it has failed
  obtain ⟨told, hlog, htold⟩ := hmakes.log rfl
    (P := (· = .onComplete (.user w.channel.created) .FAILURE_NO_COMMS))
  refine h.of_stage (by omega) ?_ (fun t => ?_) (fun r hr => ?_) (fun k t ht => ?_) fun t ht => ?_
  · rintro t ht
    refine hfixed t ?_
    rintro rfl
    exact hunknown ht
  · obtain ⟨phase, hstage⟩ := h.stage t
    by_cases ht : t = .user w.channel.created
    · -- nothing has happened to it before
      subst ht
      obtain rfl : phase = .fresh := hstage.unknown hunknown
      refine ⟨.fresh, hstage.next hlog (Lib.watch_ignore fun a ha => ?_) ?_ (fun _ => ?_)
        fun _ => rfl⟩
      · rw [htold a ha]
        rfl
      · rw [hstage.running, hcurrent]
      · have hzero : w.channel.waiting (.user w.channel.created) = 0 := by
          refine List.count_eq_zero_of_not_mem fun hmem => ?_
          obtain ⟨r, hr, htask⟩ := List.mem_map.mp hmem
          exact hunknown (htask ▸ h.known r hr)
        rw [Channel.waiting_append htasks, hzero, Nat.zero_add]
        refine ⟨List.count_le_length.trans ?_, fun _ => rfl⟩
        rwa [List.length_map]
    -- every other task stays where it is in its life
    · refine ⟨phase, hstage.same hlog (watch_of_not_concerns (fun a ha => ?_) phase)
        (by simp [hcurrent]) (fun _ => ?_) (IMasterTask.isRecurring_eq (hfixed t ht)) (by omega)⟩
      · rw [htold a ha]
        exact Ne.symm ht
      · rw [Channel.waiting_append htasks, List.count_eq_zero_of_not_mem, Nat.add_zero]
        intro hmem
        obtain ⟨r, hr, rfl⟩ := List.mem_map.mp hmem
        exact ht (hadded r hr)
  · rw [htasks] at hr
    exact (List.mem_append.mp hr).imp id fun hr => hadded r hr ▸ hnew
  · by_cases hk : k = s.self
    · subst hk
      simp only [put, Function.update_self, hmakes.ctx] at ht
      refine (List.mem_append.mp ht).imp id fun ht => ?_
      split at ht
      · rename_i hrecurring
        obtain rfl := List.mem_singleton.mp ht
        exact ⟨hnew, (congrArg _ hobject).trans hrecurring⟩
      · cases ht
    · exact .inl (by simpa [put, Function.update_of_ne hk] using ht)
  -- no task without a response has been made
  · by_cases hnot : t = .user w.channel.created
    · exact .inr (by rw [hnot, hobject, hexpects])
    · left
      cases t with
      | own => trivial
      | user n =>
        have hn : n < (w.put s).channel.created := ht
        have hne : n ≠ w.channel.created := fun heq => hnot (by rw [heq])
        exact show n < w.channel.created by omega

theorem channel_timeoutTasks (w : World ι σ) : (w.withChannel Channel.timeoutTasks).channel =
    { w.channel.completeAll (w.channel.tasks.filter w.channel.isTimedOut) .FAILURE_START_TIMEOUT with
      tasks := w.channel.tasks.filter fun r => !w.channel.isTimedOut r
      taskStartTimeout := (w.withChannel Channel.timeoutTasks).channel.taskStartTimeout } := rfl

/-- Tasks that waited too long are complete, and leave the list. -/
theorem Tracked.timeoutTasks (h : w.Tracked) : (w.withChannel Channel.timeoutTasks).Tracked := by
  have hchannel := w.channel_timeoutTasks
  have hfixed : ∀ t, ((w.withChannel Channel.timeoutTasks).channel.objects t).fixed =
      (w.channel.objects t).fixed := by
    intro t
    rw [hchannel]
    exact w.channel.fixed_completeAll _ _ t
  rw [Channel.completeAll_eq] at hchannel
  have hcreated : (w.withChannel Channel.timeoutTasks).channel.created = w.channel.created := by
    rw [hchannel]
  have hcurrent : (w.withChannel Channel.timeoutTasks).channel.current = w.channel.current := by
    rw [hchannel]
  have htasks : (w.withChannel Channel.timeoutTasks).channel.tasks.Sublist w.channel.tasks := by
    rw [hchannel]
    exact List.filter_sublist
  refine h.of_stage_eq hcreated hfixed (fun _ => rfl)
    (fun r hr => .inl (htasks.subset hr)) fun t => ?_
  obtain ⟨phase, hstage⟩ := h.stage t
  refine ⟨phase, hstage.same (by rw [hchannel]) (hstage.watch_onComplete ?_ _) (by simp [hcurrent])
    (fun _ => Channel.waiting_le htasks t) (IMasterTask.isRecurring_eq (hfixed t))
    (Nat.le_of_eq hcreated.symm)⟩
  rintro r hr rfl
  obtain ⟨hr, htimeout⟩ := List.mem_filter.mp hr
  simp only [Channel.isTimedOut, Bool.and_eq_true, Bool.not_eq_true'] at htimeout
  exact ⟨hr, htimeout.1⟩

/-- A layer that goes down takes the tasks of its master from the scheduler.  A task that runs is
    told so, unless it is a recurring one. -/
theorem Tracked.closed (h : w.Tracked) (m : ι)
    (honce : ∀ t, w.channel.current = some ⟨t, m⟩ → (w.channel.objects t).isRecurring = false) :
    (w.put (w.session m).closed).Tracked := by
  have hlog : (w.put (w.session m).closed).channel.log = w.channel.log ++ w.channel.closing m :=
    Session.log_closed (w.session m)
  have hcurrent : (w.put (w.session m).closed).channel.current =
      w.channel.current.filter (·.runner ≠ m) := w.channel.current_setRunnerOffline m
  have htasks : (w.put (w.session m).closed).channel.tasks =
      w.channel.tasks.filter (·.runner ≠ m) := by
    change (w.channel.setRunnerOffline m).tasks = _
    rw [Channel.setRunnerOffline_eq, Channel.postCheckForTaskRun_eq]
  have hcreated : (w.put (w.session m).closed).channel.created = w.channel.created := by
    change (w.channel.setRunnerOffline m).created = _
    rw [Channel.setRunnerOffline_eq, Channel.postCheckForTaskRun_eq, Channel.completeAll_eq]
  have hfixed : ∀ t, ((w.put (w.session m).closed).channel.objects t).fixed =
      (w.channel.objects t).fixed := by
    intro t
    change ((w.channel.setRunnerOffline m).objects t).fixed = _
    rw [Channel.setRunnerOffline_eq, Channel.postCheckForTaskRun_eq]
    exact w.channel.fixed_completeAll _ _ t
  -- all tasks of this master leave the list
  have hsublist : (w.put (w.session m).closed).channel.tasks.Sublist w.channel.tasks := by
    rw [htasks]
    exact List.filter_sublist
  refine h.of_stage_eq hcreated hfixed (boundTasks_put rfl)
    (fun r hr => .inl (hsublist.subset hr)) fun t => ?_
  obtain ⟨phase, hstage⟩ := h.stage t
  -- the entry for the closed layer itself concerns no task
  have hclose : ∀ phase, Lib.watch (followTask t) phase [.onClose m] = some phase :=
    watch_of_not_concerns (by simp [Action.Concerns])
  by_cases hrun : w.channel.current = some ⟨t, m⟩
  · -- it is told first, and is not in the list
    have hzero := hstage.waiting_of_running hrun (honce t hrun)
    have hrunning : phase = .running := hstage.running.mpr ⟨m, hrun⟩
    subst hrunning
    have habandoned : w.channel.abandoned m = ⟨t, m⟩ ::
        (w.channel.tasks.filter (·.runner = m)).filter
          fun r => !(w.channel.objects r.task).isRecurring := by
      simp [Channel.abandoned, hrun, honce t hrun]
    refine ⟨.over, hstage.next hlog ?_ (by simp [hcurrent, hrun]) (fun _ => ?_) ?_⟩
    · rw [Channel.closing, habandoned, List.map_cons, List.cons_append, Lib.watch]
      simp only [followTask, ↓reduceIte, Option.bind_some]
      rw [Lib.watch_append (watch_of_not_concerns (fun a ha hconcerns => ?_) .over), hclose]
      obtain ⟨r, hr, rfl⟩ := List.mem_map.mp ha
      have hr : r ∈ w.channel.tasks := (List.mem_filter.mp (List.mem_filter.mp hr).1).1
      have hpos := Channel.waiting_pos hr
      rw [show r.task = t from hconcerns] at hpos
      omega
    · have hle := Channel.waiting_le hsublist t
      rw [hzero] at hle
      exact ⟨by omega, fun hpos => by omega⟩
    · exact fun hunknown => absurd
        ((hstage.known_of_running hrun).mono (Nat.le_of_eq hcreated.symm)) hunknown
  -- a task that waits is told as well, but has not started
  · refine ⟨phase, hstage.same hlog ?_ (fun k => ?_) (fun _ => Channel.waiting_le hsublist t)
      (IMasterTask.isRecurring_eq (hfixed t)) (Nat.le_of_eq hcreated.symm)⟩
    · rw [Channel.closing, Lib.watch_append (hstage.watch_onComplete ?_ _), hclose]
      rintro r hr rfl
      obtain ⟨howned, hrecurring⟩ := List.mem_filter.mp hr
      obtain ⟨hall, hrunner⟩ := List.mem_filter.mp howned
      obtain hcur | htask := List.mem_append.mp hall
      · obtain rfl : r.runner = m := by simpa using hrunner
        exact absurd (Option.mem_toList.mp hcur) hrun
      · exact ⟨htask, by simpa using hrecurring⟩
    · rw [hcurrent]
      by_cases hk : k = m
      · subst hk
        simp [hrun]
      · simp [Option.filter_eq_some_iff, hk]

variable [VirtualTask σ] {i : Input ι σ}

/-- The scheduler starts a task of its list. -/
theorem Tracked.beginning (h : w.Tracked) (hnone : w.channel.current = none) {r : Record ι}
    (hr : r ∈ w.channel.tasks) : (w.beginning r).Tracked := by
  have hchannel : (w.beginning r).channel =
      { w.channel with
        objects := (w.beginning r).channel.objects
        current := some r
        tasks := w.channel.tasks.erase r
        log := w.channel.log ++ [.onStart r.task] } := rfl
  have hfixed : ∀ t, ((w.beginning r).channel.objects t).fixed = (w.channel.objects t).fixed := by
    rw [objects_beginning]
    exact Channel.fixed_update rfl
  have htasks : (w.beginning r).channel.tasks = w.channel.tasks.erase r := rfl
  refine h.of_stage_eq rfl hfixed (boundTasks_put rfl)
    (fun r' hr' => .inl (List.mem_of_mem_erase hr')) fun t => ?_
  obtain ⟨phase, hstage⟩ := h.stage t
  have hidle : phase ≠ .running := by
    intro hrunning
    obtain ⟨m, hm⟩ := hstage.running.mp hrunning
    rw [hnone] at hm
    cases hm
  by_cases ht : r.task = t
  · subst ht
    refine ⟨.running, hstage.next rfl ?_ ?_ ?_ ?_⟩
    · cases phase with
      | running => exact absurd rfl hidle
      | _ => simp [Lib.watch, followTask]
    · exact ⟨fun _ => ⟨r.runner, rfl⟩, fun _ => rfl⟩
    · intro honce
      rw [IMasterTask.isRecurring_eq (hfixed r.task)] at honce
      -- it was in the list once
      have hone := (hstage.once honce).1
      have hperm := ((List.perm_cons_erase hr).map (·.task)).count_eq r.task
      have hzero : (w.beginning r).channel.waiting r.task = 0 := by
        unfold Channel.waiting at hone ⊢
        rw [htasks]
        rw [List.map_cons, List.count_cons_self] at hperm
        omega
      rw [hzero]
      exact ⟨Nat.zero_le 1, fun hpos => absurd hpos (Nat.lt_irrefl 0)⟩
    · exact fun hunknown => absurd (h.known r hr) hunknown
  · refine ⟨phase, hstage.same rfl ?_ ?_ (fun _ => ?_)
      (IMasterTask.isRecurring_eq (hfixed t)) (Nat.le_refl _)⟩
    · exact watch_of_not_concerns (by simp [Action.Concerns, ht]) phase
    · intro m
      rw [hchannel, hnone]
      simp only [Option.some.injEq, reduceCtorEq, iff_false]
      rintro rfl
      exact ht rfl
    · exact Channel.waiting_le List.erase_sublist t

end World

/-- A check changes at most when a task is due. -/
theorem Input.fixed_prepare [DecidableEq ι] {i : Input ι σ} {prepare : Channel ι σ → Channel ι σ}
    (hi : i.prepare = some prepare) (c : Channel ι σ) (t : TaskId ι) :
    ((prepare c).objects t).fixed = (c.objects t).fixed := by
  cases i with
  | demand t' =>
    cases hi
    exact c.fixed_modify (f := fun task => { task with behavior := task.behavior.reset })
      (fun _ => rfl) t' t
  | checkForTaskRun | taskTimer =>
    cases hi
    rfl
  | _ => cases hi

/-! ## Runs -/

namespace World

variable [DecidableEq ι]

theorem tracked_init (setup : Setup ι σ) (now : Timestamp) : (init setup now).Tracked where
  stage _ := ⟨.fresh, rfl, by simp [init], fun _ => ⟨Nat.zero_le 1, fun _ => rfl⟩, fun _ => rfl⟩
  known _ hr := by cases hr
  own _ _ := rfl
  bound _ _ ht := by cases ht
  answered t ht := by
    cases t with
    | own => rfl
    | user n => exact absurd ht (Nat.not_lt_zero n)

variable [VirtualTask σ] {w w' : World ι σ} {i : Input ι σ}

/-- Only tasks that get a response are made, and no layer goes down while a recurring task of its
    master runs. -/
def Reports (w : World ι σ) : Input ι σ → Prop
  | .scheduleRecurringPollTask _ u | .scheduleAdhocTask _ u => u.expectsResponse = true
  | .onLowerLayerDown m =>
    match (w.masters m).activeTask with
    | none => True
    | some t => (w.channel.objects t).isRecurring = false
  | _ => True

instance (w : World ι σ) (i : Input ι σ) : Decidable (w.Reports i) :=
  match i with
  | .scheduleRecurringPollTask _ u | .scheduleAdhocTask _ u =>
    inferInstanceAs (Decidable (u.expectsResponse = true))
  | .onLowerLayerDown m =>
    match h : (w.masters m).activeTask with
    | none => .isTrue (by simp [Reports, h])
    | some t =>
      decidable_of_iff ((w.channel.objects t).isRecurring = false) (by simp [Reports, h])
  | .onLowerLayerUp _ | .onReceive _ _ | .onTxReady _ | .onResponseTimeout _ | .checkForTaskRun
  | .demand _ | .taskTimer | .taskStartTimeout | .clock _ _ | .assignClassDuringStartup _ _ =>
    .isTrue trivial

theorem Tracked.turn (h : w.Tracked) (hw : w.Owned) (hturn : Turn i w w')
    (hi : ∀ m u, i = .scheduleRecurringPollTask m u ∨ i = .scheduleAdhocTask m u →
      u.expectsResponse = true) : w'.Tracked := by
  have hchecking : ∀ {prepare}, i.prepare = some prepare → (w.checking prepare).Tracked := by
    intro prepare hprepare
    have hchannel := checking_eq hprepare w
    refine h.quiet_of_eq rfl (by rw [hchannel]) (by rw [hchannel]) (by rw [hchannel]) ?_
      (by rw [hchannel])
    intro t
    rw [hchannel]
    exact Input.fixed_prepare hprepare w.channel t
  cases hturn with
  | move m s hmove =>
    have hself : s.self = m := hmove.self
    subst hself
    cases hmove.life (hw s.self) with
    | quiet hq =>
      exact h.quiet (boundTasks_put hq.boundTasks) hq.created hq.current hq.tasks hq.fixed hq.log
    | ends t result he => exact h.ends he
    | silent t hexpects he =>
      -- every task of the scheduler gets a response
      obtain ⟨phase, hstage⟩ := h.stage t
      have htrue := h.answered t (hstage.known_of_running he.current.1)
      rw [show (w.channel.objects t).expectsResponse = false from hexpects] at htrue
      cases htrue
    | opened hs =>
      rw [hs]
      exact h.opened s.self
    | bind u hi' hs =>
      exact h.made (hs.symm ▸ Session.makes_scheduleRecurringPollTask (w.session s.self) u)
        (hi _ u (.inl hi'))
    | adhoc u hi' hs =>
      exact h.made (hs.symm ▸ Session.makes_scheduleAdhocTask (w.session s.self) u)
        (hi _ u (.inr hi'))
  | recheck prepare hprepare => exact hchecking hprepare
  | arm prepare best hprepare =>
    exact (hchecking hprepare).quiet_of_eq rfl rfl rfl rfl (fun _ => rfl) rfl
  | start prepare best hprepare hcurrent hbest =>
    refine (hchecking hprepare).beginning ?_ (Channel.mem_of_bestTask hbest)
    rw [checking_eq hprepare]
    exact hcurrent
  | ran m t =>
    exact h.quiet (fun _ => rfl) rfl rfl rfl (fun _ => rfl) ⟨_, rfl, by simp [Action.IsLife]⟩
  | timeoutTasks => exact h.timeoutTasks
  | clock now utc =>
    have hadvance := advance_eq w.channel now utc
    refine h.quiet_of_eq rfl ?_ ?_ ?_ (fun t => ?_) ?_
    all_goals
      simp only [withChannel]
      rw [hadvance]
  | assignClass m answer =>
    refine h.quiet_of_eq rfl rfl rfl rfl (fun t => ?_) rfl
    exact w.channel.fixed_modify (f := fun task => { task with isEnabled := answer })
      (fun _ => rfl) (.own m .assignClass) t

theorem Tracked.step (h : w.Tracked) (hw : w.Owned) (hi : w.Reports i) : (w.step i).Tracked := by
  refine keeps_step hw h (fun _ _ hw h hturn => h.turn hw hturn ?_) ?_
  · rintro m u (rfl | rfl) <;> exact hi
  · rintro m rfl -
    refine h.closed m fun t hcurrent => ?_
    have hactive := (hw.activeTask_iff m t).mpr hcurrent
    simpa [Reports, hactive] using hi

/-- **Every start of a task is followed by exactly one completion** before the task starts again,
    is discarded or leaves its master idle, in every run in which only tasks that get a response
    are made and no layer goes down while a recurring task runs: the monitor of the task gets
    through the log, and the task is running by the log exactly if it is active. -/
theorem completions (setup : Setup ι σ) (now : Timestamp) (inputs : List (Input ι σ))
    (hinputs : Lib.Along step Reports (init setup now) inputs) (t : TaskId ι) :
    ∃ phase, Lib.watch (followTask t) .fresh
        (Lib.run step (init setup now) inputs).channel.log = some phase ∧
      (phase = .running ↔
        ∃ m, ((Lib.run step (init setup now) inputs).masters m).activeTask = some t) := by
  have hall := Lib.always_of_step (P := fun w : World ι σ => w.Owned ∧ w.Tracked)
    (fun w i h hi => ⟨h.1.step i, h.2.step h.1 hi⟩) ⟨owned_init setup now, tracked_init setup now⟩
    hinputs
  obtain ⟨hw, htracked⟩ := hall.last
  obtain ⟨phase, hstage⟩ := htracked.stage t
  refine ⟨phase, hstage.log, hstage.running.trans ?_⟩
  exact exists_congr fun m => (hw.activeTask_iff m t).symm

/-- The integrity poll after the layer has come up, from its start to its response. -/
theorem completions_integrity :
    ∃ phase, Lib.watch (followTask (.own () .startupIntegrity)) .fresh
        (Lib.run step (init Single.setup 0)
          [.onLowerLayerUp (), .checkForTaskRun, .onTxReady (),
            Single.message [0xC0, 0x81, 0, 0]]).channel.log = some phase ∧
      (phase = .running ↔ ∃ m, ((Lib.run step (init Single.setup 0)
          [.onLowerLayerUp (), .checkForTaskRun, .onTxReady (),
            Single.message [0xC0, 0x81, 0, 0]]).masters m).activeTask =
              some (.own () .startupIntegrity)) :=
  completions Single.setup 0 _ (by decide +kernel) (.own () .startupIntegrity)

/-- A freeze that is not answered has been started and is no longer active, but nobody has been
    told that it is complete. -/
theorem freeze_not_reported :
    Lib.watch (followTask (.user 0)) .fresh
        (Lib.run step (init Single.setup 0)
          [.onLowerLayerUp (), .scheduleAdhocTask ()
            (.freeze .ImmediateFreezeNR build.noHeaders 10000), .checkForTaskRun]).channel.log =
      some .running ∧
    ((Lib.run step (init Single.setup 0)
      [.onLowerLayerUp (), .scheduleAdhocTask ()
        (.freeze .ImmediateFreezeNR build.noHeaders 10000), .checkForTaskRun]).masters
          ()).activeTask = none := by
  decide +kernel

end World

end OpenDnp3.Master
