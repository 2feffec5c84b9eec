import OpenDnp3.Master.Completions

/-!
# The scheduler starts the right task, and in time

The scheduler sleeps when nothing is due.  Whatever can make a task due earlier, or give the
scheduler something to choose from, posts a check; the timer is armed for the task that is due
first.  The one exception is the application's answer to `AssignClassDuringStartup`, which the
scheduler reads when it looks at the tasks and is not told about.
-/

namespace OpenDnp3.Master

variable {ι σ : Type}

/-! ## What a check starts -/

namespace World

variable [DecidableEq ι] [VirtualTask σ] {w w' : World ι σ} {i : Input ι σ}

/-- The scheduler calls `Run` of a master for the task, and the master accepts. -/
def Starts (w : World ι σ) (i : Input ι σ) (r : Record ι) : Prop :=
  .run r.runner r.task true ∈ (w.step i).channel.log.drop w.channel.log.length

instance (w : World ι σ) (i : Input ι σ) (r : Record ι) : Decidable (w.Starts i r) :=
  inferInstanceAs (Decidable (_ ∈ _))

theorem log_start {r : Record ι} (hactive : (w.masters r.runner).activeTask = none)
    (hidle : (w.masters r.runner).tstate = .IDLE) :
    ∃ new, (w.start r).channel.log = w.channel.log ++ new ++ [.run r.runner r.task true] ∧
      ∀ m t accepted, .run m t accepted ∉ new := by
  have hrun := Session.moves_run (i := .checkForTaskRun) (s := (w.claim r).session r.runner)
    (t := r.task) hactive hidle
  -- the moves of a master never start a task themselves
  have hmoves : ∀ {s s' : Session ι σ}, s.Moves .checkForTaskRun s' →
      ∃ new, s'.channel.log = s.channel.log ++ new ∧ ∀ m t accepted, .run m t accepted ∉ new := by
    intro s s' h
    induction h with
    | refl => exact ⟨[], (List.append_nil _).symm, by simp⟩
    | tail _ hmove ih =>
      obtain ⟨new, hlog, hnew⟩ := ih
      obtain ⟨more, hlog', hmore⟩ := hmove.log
      refine ⟨new ++ more, by rw [hlog', hlog, List.append_assoc], fun m t accepted hmem => ?_⟩
      obtain hmem | hmem := List.mem_append.mp hmem
      · exact hnew m t accepted hmem
      · exact hmore _ hmem
  obtain ⟨new, hlog, hnew⟩ := hmoves hrun.2
  refine ⟨.onStart r.task :: new, ?_, fun m t accepted hmem => ?_⟩
  · have hstart : (w.start r).channel.log =
        (((w.claim r).session r.runner).run r.task).1.channel.log ++
          [.run r.runner r.task (((w.claim r).session r.runner).run r.task).2] := rfl
    rw [hstart, hlog, hrun.1]
    change w.channel.log ++ [.onStart r.task] ++ new ++ _ = _
    simp
  · obtain hmem | hmem := List.mem_cons.mp hmem
    · cases hmem
    · exact hnew m t accepted hmem

/-- A check starts the best task if nothing is running and the task is due. -/
theorem starts_iff (hw : w.Owned) {prepare : Channel ι σ → Channel ι σ}
    (hi : i.prepare = some prepare) (r : Record ι) :
    w.Starts i r ↔ w.channel.current = none ∧ (prepare w.channel).bestTask = some r ∧
      (prepare w.channel).expirationTime r ≤ (prepare w.channel).now := by
  have hstep : w.step i = (w.withChannel prepare).checkForTaskRun := by
    cases i <;> cases hi <;> rfl
  have hcurrent : (w.checking prepare).channel.current = w.channel.current := by
    rw [checking_eq hi]
  have hlog : (w.checking prepare).channel.log = w.channel.log := by
    rw [checking_eq hi]
  -- the choice does not depend on what the check itself changes
  have hchoice : (w.checking prepare).channel.bestTask = (prepare w.channel).bestTask := rfl
  have hexpires : ∀ r, (w.checking prepare).channel.expirationTime r =
      (prepare w.channel).expirationTime r := fun _ => rfl
  have hnow : (w.checking prepare).channel.now = (prepare w.channel).now := rfl
  unfold Starts
  rw [hstep, checkForTaskRun_withChannel, hcurrent, hchoice, hnow]
  simp only [hexpires]
  cases hnone : w.channel.current with
  | some r' => simp [hlog]
  | none =>
    cases hbest : (prepare w.channel).bestTask with
    | none => simp [hlog]
    | some best =>
      by_cases hdue : (prepare w.channel).expirationTime best ≤ (prepare w.channel).now
      · have hactive : (w.masters best.runner).activeTask = none :=
          hw.activeTask_eq_none fun t => by simp [hnone]
        obtain ⟨new, hnew, hrun⟩ := log_start (w := w.checking prepare) hactive
          ((hw best.runner).idle hactive).1
        simp only [Option.isSome_none, Bool.false_eq_true, ↓reduceIte, hdue, hnew, hlog,
          List.append_assoc, List.drop_left, List.mem_append, List.mem_singleton,
          Action.run.injEq, hrun, false_or, and_true, true_and, Option.some.injEq]
        constructor
        · rintro ⟨hrunner, htask⟩
          cases r
          cases best
          cases hrunner
          cases htask
          exact ⟨rfl, hdue⟩
        · rintro ⟨rfl, -⟩
          exact ⟨rfl, rfl⟩
      · have hlate : (w.checking prepare).channel.log.drop w.channel.log.length = [] := by
          rw [hlog, List.drop_length]
        simp only [Option.isSome_none, Bool.false_eq_true, ↓reduceIte, hdue, withChannel, hlate,
          List.not_mem_nil, Option.some.injEq, true_and, false_iff, not_and]
        rintro rfl
        exact hdue

end World

/-! ## The scheduler wakes up in time -/

namespace Channel

variable {c c' : Channel ι σ} {t : TaskId ι}

/-- A check that is pending has been posted. -/
theorem posted_postCheckForTaskRun (h : c.taskCheckPending = true → 0 < c.posted) :
    0 < c.postCheckForTaskRun.posted := by
  unfold postCheckForTaskRun
  split
  · rename_i hpending
    exact h hpending
  · exact Nat.succ_pos _

variable [DecidableEq ι]

theorem blockingTasks_completeTask (c : Channel ι σ) (t : TaskId ι) (result : TaskCompletion) :
    (c.completeTask t result).blockingTasks =
      Function.update c.blockingTasks (c.objects t).context
        (blockingAfter (c.blockingTasks (c.objects t).context) t (c.objects t).blocksLowerPriority
          result) := rfl

variable {t' : TaskId ι} {result : TaskCompletion}

theorem objects_completeTask_of_ne (ht : t ≠ t') (result : TaskCompletion) :
    (c.completeTask t' result).objects t = c.objects t := Function.update_of_ne ht ..

theorem mem_blockingAfter {blocking : List (TaskId ι)} {blocks : Bool}
    (h : t ∈ blockingAfter blocking t' blocks result) : t ∈ blocking ∨ t = t' := by
  cases result with
  | FAILURE_NO_COMMS => exact .inl h
  | SUCCESS => exact .inl (List.mem_filter.mp h).1
  | _ =>
    cases blocks with
    | false => exact .inl h
    | true => exact (List.mem_insert_iff.mp h).symm

theorem mem_blockingTasks_completeTask {m : ι}
    (h : t ∈ (c.completeTask t' result).blockingTasks m) : t ∈ c.blockingTasks m ∨ t = t' := by
  by_cases hm : m = (c.objects t').context
  · subst hm
    rw [blockingTasks_completeTask, Function.update_self] at h
    exact mem_blockingAfter h
  · rw [blockingTasks_completeTask, Function.update_of_ne hm] at h
    exact .inl h

theorem mem_blockingTasks_completeAll {records : List (Record ι)} {m : ι}
    (h : t ∈ (c.completeAll records result).blockingTasks m) :
    t ∈ c.blockingTasks m ∨ ∃ r ∈ records, r.task = t := by
  induction records generalizing c with
  | nil => exact .inl h
  | cons r rest ih =>
    obtain h | ⟨r', hr', rfl⟩ := ih (c := c.completeTask r.task result) h
    · obtain h | rfl := mem_blockingTasks_completeTask h
      · exact .inl h
      · exact .inr ⟨r, List.mem_cons_self, rfl⟩
    · exact .inr ⟨r', List.mem_cons_of_mem r hr', rfl⟩

/-- A task that blocks stays one as long as tasks only fail to start. -/
theorem isBlocked_completeAll (records : List (Record ι)) (h : c.isBlocked t = true) :
    (c.completeAll records .FAILURE_START_TIMEOUT).isBlocked t = true := by
  induction records generalizing c with
  | nil => exact h
  | cons r rest ih =>
    refine ih (c := c.completeTask r.task .FAILURE_START_TIMEOUT) ?_
    have hfixed := c.fixed_completeTask r.task .FAILURE_START_TIMEOUT
    simp only [isBlocked, List.any_eq_true] at h ⊢
    obtain ⟨blocking, hmem, hblocks⟩ := h
    refine ⟨blocking, ?_, ?_⟩
    · rw [IMasterTask.context_eq (hfixed t)]
      by_cases hcontext : (c.objects t).context = (c.objects r.task).context
      · rw [blockingTasks_completeTask, hcontext, Function.update_self]
        rw [hcontext] at hmem
        simp only [blockingAfter]
        split
        · exact List.mem_insert_of_mem hmem
        · exact hmem
      · rw [blockingTasks_completeTask, Function.update_of_ne hcontext]
        exact hmem
    · rwa [IMasterTask.priority_eq (hfixed t), IMasterTask.priority_eq (hfixed blocking)]

theorem objects_completeAll {records : List (Record ι)} (h : ∀ r ∈ records, r.task ≠ t) :
    (c.completeAll records result).objects t = c.objects t := by
  induction records generalizing c with
  | nil => rfl
  | cons r rest ih =>
    have hrest := ih (c := c.completeTask r.task result)
      fun r' hr' => h r' (List.mem_cons_of_mem r hr')
    exact hrest.trans (objects_completeTask_of_ne (h r List.mem_cons_self).symm result)

theorem isBlocked_congr (hblocking : c'.blockingTasks = c.blockingTasks)
    (ht : (c'.objects t).fixed = (c.objects t).fixed)
    (hfixed : ∀ b m, b ∈ c.blockingTasks m → (c'.objects b).fixed = (c.objects b).fixed) :
    c'.isBlocked t = c.isBlocked t := by
  rw [Bool.eq_iff_iff]
  simp only [isBlocked, List.any_eq_true, hblocking, IMasterTask.context_eq ht,
    IMasterTask.priority_eq ht]
  refine exists_congr fun b => and_congr_right fun hb => ?_
  rw [IMasterTask.priority_eq (hfixed b _ hb)]

/-- The scheduler knows the task. -/
def Mentions (c : Channel ι σ) (t : TaskId ι) : Prop :=
  (∃ r ∈ c.tasks, r.task = t) ∨ (∃ r, c.current = some r ∧ r.task = t) ∨
    ∃ m, t ∈ c.blockingTasks m

/-- **The scheduler wakes up in time**: if nothing is running, a check is posted or the timer is
    armed, not later than any task that may run is due, provided that the application was `steady`
    so far. -/
structure Wakes (c : Channel ι σ) (steady : Prop) : Prop where
  now : c.now < Timestamp.max
  pending : c.taskCheckPending = true → 0 < c.posted
  woken : steady → c.current = none → ∀ r ∈ c.tasks, c.Ready r →
    0 < c.posted ∨ ∃ time, c.taskTimer = some time ∧ time ≤ c.expirationTime r

/-- Nothing has happened that the scheduler should know. -/
structure Calm (c c' : Channel ι σ) : Prop where
  current : c'.current = none → c.current = none
  tasks : ∀ r ∈ c'.tasks, r ∈ c.tasks
  pending : c'.taskCheckPending = c.taskCheckPending
  posted : c'.posted = c.posted
  timer : c'.taskTimer = c.taskTimer
  ready : ∀ r ∈ c'.tasks, c'.Ready r → c.Ready r ∧ c'.expirationTime r = c.expirationTime r

variable {steady : Prop}

theorem Wakes.of_posted (hnow : c'.now < Timestamp.max) (hposted : 0 < c'.posted) :
    c'.Wakes steady :=
  ⟨hnow, fun _ => hposted, fun _ _ _ _ _ => .inl hposted⟩

theorem Wakes.calm (h : c.Wakes steady) (hnow : c'.now < Timestamp.max) (hcalm : Calm c c') :
    c'.Wakes steady where
  now := hnow
  pending hpending := by
    rw [hcalm.posted]
    exact h.pending (hcalm.pending.symm.trans hpending)
  woken hsteady hnone r hr hready := by
    obtain ⟨hready, htime⟩ := hcalm.ready r hr hready
    rw [hcalm.posted, hcalm.timer, htime]
    exact h.woken hsteady (hcalm.current hnone) r (hcalm.tasks r hr) hready

/-- The tasks are as before, but for their own state. -/
theorem Calm.of_eq (hcurrent : c'.current = c.current) (htasks : c'.tasks = c.tasks)
    (hpending : c'.taskCheckPending = c.taskCheckPending) (hposted : c'.posted = c.posted)
    (htimer : c'.taskTimer = c.taskTimer) (hblocking : c'.blockingTasks = c.blockingTasks)
    (hfixed : ∀ t, c.Mentions t → (c'.objects t).fixed = (c.objects t).fixed)
    (htime : ∀ t, c.Mentions t → (c'.objects t).expirationTime = (c.objects t).expirationTime) :
    Calm c c' where
  current hnone := hcurrent.symm.trans hnone
  tasks r hr := htasks ▸ hr
  pending := hpending
  posted := hposted
  timer := htimer
  ready r hr hready := by
    have hr : c.Mentions r.task := .inl ⟨r, htasks ▸ hr, rfl⟩
    have hblocked := isBlocked_congr hblocking (hfixed r.task hr)
      fun b m hb => hfixed b (.inr (.inr ⟨m, hb⟩))
    have htime : c'.expirationTime r = c.expirationTime r := htime r.task hr
    refine ⟨⟨?_, hblocked.symm.trans hready.2⟩, htime⟩
    rw [Enabled, ← htime]
    exact hready.1

end Channel

namespace Session

variable {s s' : Session ι σ}

/-- Where the tasks of a session can come from: all of them have been made. -/
structure Listed (s s' : Session ι σ) : Prop where
  created : s.channel.created ≤ s'.channel.created
  mentions : ∀ t, s'.channel.Mentions t →
    s.channel.Mentions t ∨ t ∈ s.ctx.boundTasks ∨ s'.channel.Known t
  bound : ∀ t ∈ s'.ctx.boundTasks, t ∈ s.ctx.boundTasks ∨ s'.channel.Known t

theorem Listed.of_eq (hcreated : s'.channel.created = s.channel.created)
    (htasks : s'.channel.tasks = s.channel.tasks) (hcurrent : s'.channel.current = s.channel.current)
    (hblocking : s'.channel.blockingTasks = s.channel.blockingTasks)
    (hbound : s'.ctx.boundTasks = s.ctx.boundTasks) : Listed s s' where
  created := Nat.le_of_eq hcreated.symm
  mentions t ht := by
    rw [Channel.Mentions, htasks, hcurrent, hblocking] at ht
    exact .inl ht
  bound t ht := .inl (hbound ▸ ht)

variable [DecidableEq ι]

/-- A new task is in the list at most. -/
theorem Listed.made {task : IMasterTask ι σ} (h : Makes s s' task) : Listed s s' := by
  have hnew : s'.channel.Known (.user s.channel.created) := by
    rw [h.channel]
    exact Nat.lt_succ_self _
  have hsingle : ∀ {p : Bool} {α : Type} {a b : α}, b ∈ (if p then [a] else []) → b = a := by
    intro p α a b hb
    cases p <;> simp_all
  refine ⟨by rw [h.channel]; exact Nat.le_succ _, ?_, ?_⟩
  · rintro t (⟨r, hr, rfl⟩ | ⟨r, hr, rfl⟩ | ⟨m, hm⟩)
    · rw [h.channel] at hr
      obtain hr | hr := List.mem_append.mp hr
      · exact .inl (.inl ⟨r, hr, rfl⟩)
      · exact .inr (.inr (hsingle hr ▸ hnew))
    · rw [h.channel] at hr
      exact .inl (.inr (.inl ⟨r, hr, rfl⟩))
    · rw [h.channel] at hm
      exact .inl (.inr (.inr ⟨m, hm⟩))
  · intro t ht
    rw [h.ctx] at ht
    refine (List.mem_append.mp ht).imp id fun ht => ?_
    rw [hsingle ht]
    exact hnew

/-- The active task has come from the scheduler and goes back there. -/
theorem Listed.finished {mid : Session ι σ} {t : TaskId ι} (howns : s.Owns)
    (hactive : s.ctx.activeTask = some t) (hmid : mid.ctx.activeTask = s.ctx.activeTask)
    (hself : mid.self = s.self) (hcreated : mid.channel.created = s.channel.created)
    (htasks : mid.channel.tasks = s.channel.tasks)
    (hcurrent : mid.channel.current = s.channel.current)
    (hblocking : ∀ t' m, t' ∈ mid.channel.blockingTasks m →
      t' ∈ s.channel.blockingTasks m ∨ t' = t)
    (hbound : mid.ctx.boundTasks = s.ctx.boundTasks) : Listed s mid.finished := by
  have hown := (howns.busy t hactive).2
  -- a task comes back to the list or blocks only if it was running
  have hmentions : s.channel.Mentions t := .inr (.inl ⟨_, hown, rfl⟩)
  rw [finished_eq (hmid.trans hactive) (by rw [hcurrent, hself, hown])]
  refine ⟨Nat.le_of_eq hcreated.symm, ?_, fun t' ht' => .inl (hbound ▸ ht')⟩
  rintro t' (⟨r, hr, rfl⟩ | ⟨r, hr, -⟩ | ⟨m, hm⟩)
  · have hr : r ∈ if (mid.channel.objects t).isRecurring then mid.channel.tasks ++ [⟨t, mid.self⟩]
        else mid.channel.tasks := hr
    rw [htasks] at hr
    have hr : r ∈ s.channel.tasks ∨ r = ⟨t, mid.self⟩ := by
      split at hr
      · simpa using hr
      · exact .inl hr
    obtain hr | rfl := hr
    · exact .inl (.inl ⟨r, hr, rfl⟩)
    · exact .inl hmentions
  · cases hr
  · obtain hm | rfl := hblocking t' m hm
    · exact .inl (.inr (.inr ⟨m, hm⟩))
    · exact .inl hmentions

/-- The scheduler has been told to look at its tasks, or nothing has happened that it should
    know. -/
def Noticed (s s' : Session ι σ) : Prop :=
  s'.channel.now = s.channel.now ∧ (0 < s'.channel.posted ∨ s.channel.Calm s'.channel)

/-- The end of a task posts a check. -/
theorem Noticed.finished {mid : Session ι σ} {t : TaskId ι} (howns : s.Owns)
    (hposted : s.channel.taskCheckPending = true → 0 < s.channel.posted)
    (hactive : s.ctx.activeTask = some t) (hmid : mid.ctx.activeTask = s.ctx.activeTask)
    (hself : mid.self = s.self) (hcurrent : mid.channel.current = s.channel.current)
    (hpending : mid.channel.taskCheckPending = s.channel.taskCheckPending)
    (hpost : mid.channel.posted = s.channel.posted) (hnow : mid.channel.now = s.channel.now) :
    Noticed s mid.finished := by
  have hown := (howns.busy t hactive).2
  rw [finished_eq (hmid.trans hactive) (by rw [hcurrent, hself, hown])]
  refine ⟨hnow, .inl ?_⟩
  split
  · rename_i htrue
    rw [hpost]
    exact hposted (hpending.symm.trans htrue)
  · exact Nat.succ_pos _

/-- Tasks that are added post a check. -/
theorem Noticed.opened (hposted : s.channel.taskCheckPending = true → 0 < s.channel.posted) :
    Noticed s s.opened := by
  refine ⟨by simp [Session.opened, addAllTasks, act, Channel.act, Channel.foldl_add], ?_⟩
  simp only [Session.opened, addAllTasks, act, Channel.act, Channel.foldl_add]
  generalize _ ++ s.ctx.boundTasks = ids
  cases ids with
  | nil =>
    exact .inr (.of_eq rfl (List.append_nil _) (by simp) (by simp) rfl rfl (fun _ _ => rfl)
      fun _ _ => rfl)
  | cons id rest =>
    left
    cases hpending : s.channel.taskCheckPending with
    | true => simpa using hposted hpending
    | false => simp

/-- A new task that is added posts a check.  The scheduler does not get to know the others. -/
theorem Noticed.made (hposted : s.channel.taskCheckPending = true → 0 < s.channel.posted)
    (hknown : ∀ t, s.channel.Mentions t → s.channel.Known t) {task : IMasterTask ι σ}
    (h : Makes s s' task) : Noticed s s' := by
  unfold Noticed
  rw [h.channel]
  refine ⟨rfl, ?_⟩
  cases honline : s.ctx.isOnline with
  | true =>
    left
    cases hpending : s.channel.taskCheckPending with
    | true => simpa using hposted hpending
    | false => simp
  | false =>
    have hold : ∀ t, s.channel.Mentions t → Function.update s.channel.objects
        (.user s.channel.created) task t = s.channel.objects t := by
      intro t ht
      refine Function.update_of_ne ?_ ..
      rintro rfl
      exact Nat.lt_irrefl _ (hknown _ ht)
    exact .inr (.of_eq rfl (List.append_nil _) (Bool.or_false _) rfl rfl rfl
      (fun t ht => congrArg _ (hold t ht)) fun t ht => congrArg _ (hold t ht))

variable [VirtualTask σ] {i : Input ι σ}

/-- What a move means for the scheduler. -/
theorem Move.noticed (h : Move i s s') (howns : s.Owns)
    (hposted : s.channel.taskCheckPending = true → 0 < s.channel.posted)
    (hknown : ∀ t, s.channel.Mentions t → s.channel.Known t) : Noticed s s' := by
  -- the scheduler does not look at the state of a task
  have hstate : ∀ (t : TaskId ι) (state : σ) (t' : TaskId ι),
      ((s.setTaskState t state).channel.objects t').fixed = (s.channel.objects t').fixed ∧
      ((s.setTaskState t state).channel.objects t').expirationTime =
        (s.channel.objects t').expirationTime := by
    intro t state t'
    simp only [setTaskState, Channel.modify]
    by_cases ht : t' = t
    · subst ht
      rw [Function.update_self]
      exact ⟨rfl, rfl⟩
    · rw [Function.update_of_ne ht]
      exact ⟨rfl, rfl⟩
  cases h with
  | receive | soe | receiveIIN | queue | sendConfirm | txDone =>
    exact ⟨rfl, .inr (.of_eq rfl rfl rfl rfl rfl rfl (fun _ _ => rfl) fun _ _ => rfl)⟩
  | request t state apdu | goOn t response state calls | again t response state calls =>
    exact ⟨rfl, .inr (.of_eq rfl rfl rfl rfl rfl rfl (fun t' _ => (hstate t state t').1)
      fun t' _ => (hstate t state t').2)⟩
  -- each way for a task to end posts a check
  | requestOnly t _ _ hactive | formatError t _ _ hactive | done t _ _ _ _ _ _ hactive
  | timeout t _ hactive => exact .finished howns hposted hactive rfl rfl rfl rfl rfl rfl
  | demand tasks =>
    refine ⟨?_, .inl ?_⟩
    · simp [demandAll, evaluate, Channel.foldl_setMinExpiration]
    · rw [demandAll, Channel.foldl_setMinExpiration]
      exact Channel.posted_postCheckForTaskRun hposted
  | up => exact .opened hposted
  | bind u => exact .made hposted hknown (makes_scheduleRecurringPollTask s u)
  | adhoc u => exact .made hposted hknown (makes_scheduleAdhocTask s u)

theorem Move.listed (h : Move i s s') (howns : s.Owns) : Listed s s' := by
  cases h with
  | receive | soe | receiveIIN | queue | sendConfirm | txDone | request | goOn | again =>
    exact .of_eq rfl rfl rfl rfl rfl
  | requestOnly t _ _ hactive =>
    exact .finished howns hactive rfl rfl rfl rfl rfl (fun _ _ h => .inl h) rfl
  | formatError t state apdu hactive =>
    exact .finished howns hactive rfl rfl rfl rfl rfl (fun _ _ h =>
      Channel.mem_blockingTasks_completeTask (c := (s.built t state apdu).channel) h) rfl
  | done t response state calls _ _ _ hactive =>
    exact .finished howns hactive rfl rfl rfl rfl rfl (fun _ _ h =>
      Channel.mem_blockingTasks_completeTask (c := (s.answered t response state calls).channel) h)
      rfl
  | timeout t _ hactive =>
    exact .finished howns hactive rfl rfl rfl rfl rfl
      (fun _ _ h => Channel.mem_blockingTasks_completeTask h) rfl
  | demand tasks =>
    refine .of_eq ?_ ?_ ?_ ?_ rfl
    all_goals simp [demandAll, evaluate, Channel.foldl_setMinExpiration]
  -- the tasks of the master come from its own list or are those that it makes for itself
  | up =>
    have hchannel : s.opened.channel.created = s.channel.created ∧
        s.opened.channel.current = s.channel.current ∧
        s.opened.channel.blockingTasks = s.channel.blockingTasks := by
      simp [opened, addAllTasks, act, Channel.act, Channel.foldl_add]
    have htasks : s.opened.channel.tasks = s.channel.tasks ++
        (([StartupTask.clearRestart, .assignClass, .startupIntegrity, .eventScan, .enableUnsol,
          .disableUnsol, .timeSynchronization].filter s.ctx.hasTask).map (TaskId.own s.self) ++
            s.ctx.boundTasks).map (⟨·, s.self⟩) := by
      simp [opened, addAllTasks, act, Channel.act, Channel.foldl_add]
    refine ⟨Nat.le_of_eq hchannel.1.symm, ?_, fun t ht => .inl ht⟩
    rintro t (⟨r, hr, rfl⟩ | ⟨r, hr, rfl⟩ | ⟨m, hm⟩)
    · rw [htasks, List.mem_append] at hr
      obtain hr | hr := hr
      · exact .inl (.inl ⟨r, hr, rfl⟩)
      · obtain ⟨t, ht, rfl⟩ := List.mem_map.mp hr
        obtain ht | ht := List.mem_append.mp ht
        · obtain ⟨task, -, rfl⟩ := List.mem_map.mp ht
          exact .inr (.inr trivial)
        · exact .inr (.inl ht)
    · exact .inl (.inr (.inl ⟨r, hchannel.2.1 ▸ hr, rfl⟩))
    · exact .inl (.inr (.inr ⟨m, hchannel.2.2 ▸ hm⟩))
  | bind u => exact .made (makes_scheduleRecurringPollTask s u)
  | adhoc u => exact .made (makes_scheduleAdhocTask s u)

end Session

namespace World

variable [DecidableEq ι] {w w' : World ι σ}

/-- The scheduler wakes up in time, and knows only tasks that have been made. -/
structure Scheduled (w : World ι σ) (steady : Prop) : Prop where
  wakes : w.channel.Wakes steady
  known : ∀ t, w.channel.Mentions t → w.channel.Known t
  bound : ∀ m, ∀ t ∈ (w.masters m).boundTasks, w.channel.Known t

variable {steady : Prop}

theorem scheduled_init (setup : Setup ι σ) {now : Timestamp} (hnow : now < Timestamp.max) :
    (init setup now).Scheduled steady where
  wakes := ⟨hnow, nofun, fun _ _ => nofun⟩
  known := by
    rintro t (⟨r, hr, -⟩ | ⟨r, hr, -⟩ | ⟨m, hm⟩)
    · cases hr
    · cases hr
    · cases hm
  bound := fun _ => nofun

/-- Nothing is made, and nothing new gets to the scheduler. -/
theorem Scheduled.of_mentions (h : w.Scheduled steady) (hwakes : w'.channel.Wakes steady)
    (hcreated : w'.channel.created = w.channel.created)
    (hbound : ∀ m, (w'.masters m).boundTasks = (w.masters m).boundTasks)
    (hmentions : ∀ t, w'.channel.Mentions t → w.channel.Mentions t) : w'.Scheduled steady where
  wakes := hwakes
  known t ht := (h.known t (hmentions t ht)).mono (Nat.le_of_eq hcreated.symm)
  bound m t ht := (h.bound m t (hbound m ▸ ht)).mono (Nat.le_of_eq hcreated.symm)

theorem Scheduled.of_mentions_eq (h : w.Scheduled steady) (hwakes : w'.channel.Wakes steady)
    (hmasters : w'.masters = w.masters) (hcreated : w'.channel.created = w.channel.created)
    (htasks : w'.channel.tasks = w.channel.tasks) (hcurrent : w'.channel.current = w.channel.current)
    (hblocking : w'.channel.blockingTasks = w.channel.blockingTasks) : w'.Scheduled steady := by
  refine h.of_mentions hwakes hcreated (fun m => by rw [hmasters]) fun t ht => ?_
  rwa [Channel.Mentions, htasks, hcurrent, hblocking] at ht

/-- Tasks that waited too long leave the list, and block no less than before. -/
theorem Scheduled.timeoutTasks (h : w.Scheduled steady) :
    (w.withChannel Channel.timeoutTasks).Scheduled steady := by
  have hchannel := w.channel_timeoutTasks
  have hfields := w.channel.completeAll_eq (w.channel.tasks.filter w.channel.isTimedOut)
    .FAILURE_START_TIMEOUT
  have htasks : ∀ r ∈ (w.withChannel Channel.timeoutTasks).channel.tasks,
      r ∈ w.channel.tasks ∧ w.channel.isTimedOut r = false := by
    intro r hr
    rw [hchannel] at hr
    simpa using hr
  refine h.of_mentions (h.wakes.calm ?_ ⟨?_, fun r hr => (htasks r hr).1, ?_, ?_, ?_, ?_⟩) ?_
    (fun _ => rfl) ?_
  · rw [hchannel, hfields]
    exact h.wakes.now
  · rw [hchannel, hfields]
    exact id
  · rw [hchannel, hfields]
  · rw [hchannel, hfields]
  · rw [hchannel, hfields]
  · intro r hr hready
    -- whether a task is timed out depends on the task alone
    have hobjects : (w.withChannel Channel.timeoutTasks).channel.objects r.task =
        w.channel.objects r.task := by
      rw [hchannel]
      refine Channel.objects_completeAll fun r' hr' heq => ?_
      have htimeout := (List.mem_filter.mp hr').2
      rw [Channel.isTimedOut, heq] at htimeout
      have hnot := (htasks r hr).2
      rw [Channel.isTimedOut, htimeout] at hnot
      cases hnot
    have htime : (w.withChannel Channel.timeoutTasks).channel.expirationTime r =
        w.channel.expirationTime r := congrArg IMasterTask.expirationTime hobjects
    refine ⟨⟨?_, ?_⟩, htime⟩
    · rw [Channel.Enabled, ← htime]
      exact hready.1
    · by_contra hblocked
      have hstill := w.channel.isBlocked_completeAll (t := r.task)
        (w.channel.tasks.filter w.channel.isTimedOut) (by simpa using hblocked)
      have hready := hready.2
      rw [hchannel] at hready
      exact absurd (hstill.symm.trans hready) (by decide)
  · rw [hchannel, hfields]
  · rintro t (⟨r, hr, rfl⟩ | ⟨r, hr, rfl⟩ | ⟨m, hm⟩)
    · exact .inl ⟨r, (htasks r hr).1, rfl⟩
    · rw [hchannel, hfields] at hr
      exact .inr (.inl ⟨r, hr, rfl⟩)
    · rw [hchannel] at hm
      obtain hm | ⟨r, hr, rfl⟩ := Channel.mem_blockingTasks_completeAll hm
      · exact .inr (.inr ⟨m, hm⟩)
      · exact .inl ⟨r, (List.mem_filter.mp hr).1, rfl⟩

/-- A layer that goes down posts a check. -/
theorem Scheduled.closed (h : w.Scheduled steady) (m : ι) :
    (w.put (w.session m).closed).Scheduled steady := by
  have hfields := w.channel.completeAll_eq (w.channel.abandoned m) .FAILURE_NO_COMMS
  refine h.of_mentions (.of_posted ?_ ?_) ?_ (boundTasks_put rfl) ?_
  · change (w.channel.setRunnerOffline m).now < Timestamp.max
    rw [Channel.setRunnerOffline_eq, Channel.postCheckForTaskRun_eq, hfields]
    exact h.wakes.now
  · change 0 < (w.channel.setRunnerOffline m).posted
    rw [Channel.setRunnerOffline_eq]
    refine Channel.posted_postCheckForTaskRun ?_
    rw [hfields]
    exact h.wakes.pending
  · change (w.channel.setRunnerOffline m).created = w.channel.created
    rw [Channel.setRunnerOffline_eq, Channel.postCheckForTaskRun_eq, hfields]
  -- tasks that are given up had been in the list or running
  · have habandoned : ∀ r ∈ w.channel.abandoned m, w.channel.Mentions r.task := by
      intro r hr
      have hr := (List.mem_filter.mp (List.mem_filter.mp hr).1).1
      obtain hr | hr := List.mem_append.mp hr
      · exact .inr (.inl ⟨r, Option.mem_toList.mp hr, rfl⟩)
      · exact .inl ⟨r, hr, rfl⟩
    intro t ht
    change (w.channel.setRunnerOffline m).Mentions t at ht
    rw [Channel.setRunnerOffline_eq, Channel.Mentions, Channel.postCheckForTaskRun_eq] at ht
    obtain ⟨r, hr, rfl⟩ | ⟨r, hr, rfl⟩ | ⟨k, hk⟩ := ht
    · exact .inl ⟨r, (List.mem_filter.mp hr).1, rfl⟩
    · exact .inr (.inl ⟨r, (Option.filter_eq_some_iff.mp hr).1, rfl⟩)
    · obtain hk | ⟨r, hr, rfl⟩ := Channel.mem_blockingTasks_completeAll hk
      · exact .inr (.inr ⟨k, hk⟩)
      · exact habandoned r hr

/-- An answer that is not changed to true makes no task due earlier. -/
theorem Scheduled.assignClass (h : w.Scheduled steady) (m : ι) (answer : Bool)
    (hsteady : steady →
      answer = true → (w.channel.objects (.own m .assignClass)).isEnabled = true) :
    (w.withChannel fun c => c.modify (.own m .assignClass)
      fun task => { task with isEnabled := answer }).Scheduled steady := by
  have hfixed := w.channel.fixed_modify (f := fun task => { task with isEnabled := answer })
    (fun _ => rfl) (.own m .assignClass)
  refine h.of_mentions_eq ⟨h.wakes.now, h.wakes.pending, fun hkept => Channel.Wakes.woken
    (h.wakes.calm h.wakes.now ⟨id, fun r hr => hr, rfl, rfl, rfl, ?_⟩) hkept⟩ rfl rfl rfl rfl rfl
  intro r _ hready
  have hblocked : (w.channel.modify (.own m .assignClass)
      fun task => { task with isEnabled := answer }).isBlocked r.task =
        w.channel.isBlocked r.task :=
    Channel.isBlocked_congr rfl (hfixed r.task) fun b _ _ => hfixed b
  have htime : (w.channel.modify (.own m .assignClass)
      fun task => { task with isEnabled := answer }).expirationTime r =
        w.channel.expirationTime r := by
    have henabled := hready.1
    simp only [Channel.Enabled, Channel.expirationTime, withChannel, Channel.modify] at henabled ⊢
    -- only the task itself could become due, and `hsteady` rules that out
    by_cases ht : r.task = .own m .assignClass
    · rw [ht, Function.update_self] at henabled ⊢
      cases answer with
      | false => exact absurd rfl henabled
      | true => simp [IMasterTask.expirationTime, hsteady hkept rfl]
    · rw [Function.update_of_ne ht]
  refine ⟨⟨?_, hblocked.symm.trans hready.2⟩, htime⟩
  rw [Channel.Enabled, ← htime]
  exact hready.1

variable [VirtualTask σ] {i : Input ι σ}

theorem Scheduled.move (h : w.Scheduled steady) {s : Session ι σ} (howns : (w.session s.self).Owns)
    (hmove : (w.session s.self).Move i s) : (w.put s).Scheduled steady := by
  have hlisted := hmove.listed howns
  have hknown : ∀ t, w.channel.Known t → s.channel.Known t := fun _ ht => ht.mono hlisted.created
  obtain ⟨hnow, hcalm⟩ := hmove.noticed howns h.wakes.pending h.known
  have hnow : s.channel.now < Timestamp.max := by
    rw [hnow]
    exact h.wakes.now
  refine ⟨?_, fun t ht => ?_, fun m t ht => ?_⟩
  -- a check was posted, or no task is due any earlier
  · obtain hposted | hcalm := hcalm
    · exact .of_posted hnow hposted
    · exact h.wakes.calm hnow hcalm
  · obtain ht | ht | ht := hlisted.mentions t ht
    · exact hknown t (h.known t ht)
    · exact hknown t (h.bound s.self t ht)
    · exact ht
  · by_cases hm : m = s.self
    · subst hm
      have ht : t ∈ s.ctx.boundTasks := by
        simpa [put] using ht
      obtain ht | ht := hlisted.bound t ht
      · exact hknown t (h.bound s.self t ht)
      · exact ht
    · have ht : t ∈ (w.masters m).boundTasks := by
        simpa [put, hm] using ht
      exact hknown t (h.bound m t ht)

/-- A turn keeps the scheduler's view, unless the application changes its answer. -/
theorem Scheduled.turn (h : w.Scheduled steady) (hw : w.Owned) (hturn : Turn i w w')
    (hi : ∀ m answer, i ≠ .assignClassDuringStartup m answer) : w'.Scheduled steady := by
  have hchecking : ∀ {prepare}, i.prepare = some prepare →
      (w.checking prepare).channel.now < Timestamp.max ∧
      (w.checking prepare).channel.taskCheckPending = false := by
    intro prepare hprepare
    rw [checking_eq hprepare]
    exact ⟨h.wakes.now, rfl⟩
  cases hturn with
  | move m s hmove =>
    have hself : s.self = m := hmove.self
    subst hself
    exact h.move (hw s.self) hmove
  | recheck prepare hprepare hnone =>
    have hchannel := checking_eq hprepare w
    refine h.of_mentions_eq ⟨(hchecking hprepare).1, by simp [(hchecking hprepare).2], ?_⟩ rfl
      (by rw [hchannel]) (by rw [hchannel]) (by rw [hchannel]) (by rw [hchannel])
    intro _ hcurrent r hr
    -- nothing to choose from, or nothing to do
    rw [hchannel] at hcurrent hr
    obtain hsome | hempty := hnone
    · rw [show w.channel.current = none from hcurrent] at hsome
      cases hsome
    · rw [show r ∈ w.channel.tasks ↔ r ∈ [] by rw [hempty]] at hr
      cases hr
  | arm prepare best hprepare hcurrent hbest hlate =>
    have hchannel := checking_eq hprepare w
    refine h.of_mentions_eq ⟨(hchecking hprepare).1, by simp [withChannel, (hchecking hprepare).2],
      ?_⟩ rfl ?_ ?_ ?_ ?_
    · intro _ _ r hr hready
      exact .inr ⟨_, rfl, Channel.best_le_of_ready hbest hlate hr hready⟩
    all_goals
      simp only [withChannel]
      rw [hchannel]
  | start prepare best hprepare hcurrent hbest =>
    have hchannel := checking_eq hprepare w
    have hmem : best ∈ w.channel.tasks := by
      have hmem := Channel.mem_of_bestTask hbest
      rwa [hchannel] at hmem
    have hbegun : ((w.checking prepare).beginning best).channel =
        { (w.checking prepare).channel with
          objects := ((w.checking prepare).beginning best).channel.objects
          current := some best
          tasks := (w.checking prepare).channel.tasks.erase best
          log := (w.checking prepare).channel.log ++ [.onStart best.task] } := rfl
    refine h.of_mentions ⟨(hchecking hprepare).1, ?_, by rw [hbegun]; simp⟩ ?_
      (boundTasks_put rfl) ?_
    · rw [hbegun]
      simp [(hchecking hprepare).2]
    · rw [hbegun, hchannel]
    · rintro t (⟨r, hr, rfl⟩ | ⟨r, hr, rfl⟩ | ⟨m, hm⟩)
      · rw [hbegun, hchannel] at hr
        exact .inl ⟨r, List.mem_of_mem_erase hr, rfl⟩
      · rw [hbegun] at hr
        cases hr
        exact .inl ⟨best, hmem, rfl⟩
      · rw [hbegun, hchannel] at hm
        exact .inr (.inr ⟨m, hm⟩)
  | ran m t =>
    exact h.of_mentions_eq (h.wakes.calm h.wakes.now (.of_eq rfl rfl rfl rfl rfl rfl
      (fun _ _ => rfl) fun _ _ => rfl)) rfl rfl rfl rfl rfl
  | timeoutTasks => exact h.timeoutTasks
  | clock now utc =>
    have hadvance := advance_eq w.channel now utc
    have hnow : (advance w.channel now utc).now < Timestamp.max := by
      unfold advance
      split
      · rename_i hclock
        exact hclock.2
      · exact h.wakes.now
    refine h.of_mentions_eq (h.wakes.calm hnow (.of_eq ?_ ?_ ?_ ?_ ?_ ?_ (fun t _ => ?_)
      fun t _ => ?_)) rfl ?_ ?_ ?_ ?_
    all_goals
      simp only [withChannel]
      rw [hadvance]
  | assignClass m answer hi' => exact absurd hi' (hi m answer)

/-- The application does not change its answer to `AssignClassDuringStartup` to true. -/
def Steady (w : World ι σ) : Input ι σ → Prop
  | .assignClassDuringStartup m answer =>
    answer = true → (w.channel.objects (.own m .assignClass)).isEnabled = true
  | _ => True

instance (w : World ι σ) (i : Input ι σ) : Decidable (w.Steady i) :=
  match i with
  | .assignClassDuringStartup m answer =>
    inferInstanceAs
      (Decidable (answer = true → (w.channel.objects (.own m .assignClass)).isEnabled = true))
  | .onLowerLayerUp _ | .onLowerLayerDown _ | .onReceive _ _ | .onTxReady _
  | .onResponseTimeout _ | .scheduleRecurringPollTask _ _ | .scheduleAdhocTask _ _
  | .checkForTaskRun | .demand _ | .taskTimer | .taskStartTimeout | .clock _ _ => .isTrue trivial

theorem Scheduled.step (h : w.Scheduled steady) (hw : w.Owned) (hi : steady → w.Steady i) :
    (w.step i).Scheduled steady := by
  by_cases hanswer : ∃ m answer, i = .assignClassDuringStartup m answer
  · obtain ⟨m, answer, rfl⟩ := hanswer
    exact h.assignClass m answer hi
  · refine keeps_step (P := fun w => w.Scheduled steady) hw h
      (fun _ _ hw h hturn => h.turn hw hturn fun m answer heq => ?_) ?_
    · exact hanswer ⟨m, answer, heq⟩
    · exact fun m _ _ => h.closed m

/-! ## Runs -/

/-- **The scheduler.**  In every run, a check that starts a task starts the right one, exactly if
    at that time a task is running already, or some enabled task is not blocked, or no enabled task
    is due.  In every run in which the application does not change its answer to
    `AssignClassDuringStartup` to true, whenever nothing is running, a check is posted or the timer
    is armed, not later than any enabled task that is not blocked is due. -/
theorem schedule_iff (setup : Setup ι σ) {now : Timestamp} (hnow : now < Timestamp.max)
    (inputs : List (Input ι σ)) :
    let w := Lib.run step (init setup now) inputs
    (∀ i prepare, i.prepare = some prepare →
      ((∀ r, w.Starts i r → (prepare w.channel).Right r) ↔ (prepare w.channel).Unobstructed)) ∧
    (Lib.Along step Steady (init setup now) inputs →
      w.channel.current = none → ∀ r ∈ w.channel.tasks, w.channel.Enabled r →
      w.channel.isBlocked r.task = false →
      0 < w.channel.posted ∨
        ∃ time, w.channel.taskTimer = some time ∧ time ≤ w.channel.expirationTime r) := by
  intro w
  refine ⟨fun i prepare hi => ?_, fun hinputs hnone r hr henabled hblocked => ?_⟩
  · -- the clock stays below the time that stands for never, whatever the application answers
    have hw : w.Owned ∧ w.Scheduled False :=
      Lib.invariant_run (P := fun w : World ι σ => w.Owned ∧ w.Scheduled False)
        (fun w i h => ⟨h.1.step i, h.2.step h.1 False.elim⟩)
        ⟨owned_init setup now, scheduled_init setup hnow⟩ inputs
    have hsame : (prepare w.channel).current = w.channel.current ∧
        (prepare w.channel).now = w.channel.now := by
      cases i <;> cases hi <;> exact ⟨rfl, rfl⟩
    rw [← Channel.right_iff (by rw [hsame.2]; exact hw.2.wakes.now)]
    refine forall_congr' fun r => ?_
    rw [starts_iff hw.1 hi, hsame.1]
    constructor
    · exact fun h hnone hbest hdue => h ⟨hnone, hbest, hdue⟩
    · exact fun h hstarts => h hstarts.1 hstarts.2.1 hstarts.2.2
  · have hall := Lib.always_of_step (P := fun w : World ι σ => w.Owned ∧ w.Scheduled True)
      (fun w i h hi => ⟨h.1.step i, h.2.step h.1 fun _ => hi⟩)
      ⟨owned_init setup now, scheduled_init setup hnow⟩ hinputs
    have hw : w.Owned ∧ w.Scheduled True := hall.last
    exact hw.2.wakes.woken trivial hnone r hr ⟨henabled, hblocked⟩

/-- When the layer has come up, the check starts the integrity poll, and it is the right task; and
    the check has been posted. -/
theorem schedule_startup :
    (Lib.run step (init Single.setup 0) [.onLowerLayerUp ()]).Starts .checkForTaskRun
        ⟨.own () .startupIntegrity, ()⟩ ∧
      Channel.Right
        { (Lib.run step (init Single.setup 0) [.onLowerLayerUp ()]).channel with posted := 0 }
        ⟨.own () .startupIntegrity, ()⟩ ∧
      0 < (Lib.run step (init Single.setup 0) [.onLowerLayerUp ()]).channel.posted := by
  have hstarts : (Lib.run step (init Single.setup 0) [.onLowerLayerUp ()]).Starts .checkForTaskRun
      ⟨.own () .startupIntegrity, ()⟩ := by
    decide +kernel
  have hrun := schedule_iff Single.setup (show (0 : Timestamp) < Timestamp.max by decide)
    [.onLowerLayerUp ()]
  refine ⟨hstarts, (hrun.1 .checkForTaskRun _ rfl).mpr (by decide +kernel) _ hstarts, ?_⟩
  have hwoken := hrun.2 (by decide +kernel) rfl ⟨.own () .startupIntegrity, ()⟩
    (by decide +kernel) (by decide +kernel) (by decide +kernel)
  exact hwoken.resolve_right fun ⟨_, htimer, _⟩ => nomatch htimer

/-- The integrity poll has failed and is disabled for good, but it still blocks.  A scan that the
    user adds then is blocked, and is started nevertheless. -/
def blockedInputs : List (Input Unit (Task Empty)) :=
  [.onLowerLayerUp (), .checkForTaskRun, .onTxReady (), Single.message [0x40, 0x81, 0, 0],
    .scheduleRecurringPollTask () (.scan (.immediatePeriodic 1000 5000 60000) build.noHeaders)]

/-- The application wants to assign classes when the scheduler already sleeps. -/
def lateAnswerInputs : List (Input Unit (Task Empty)) :=
  [.onLowerLayerUp (), .checkForTaskRun, .onTxReady (), Single.message [0xC0, 0x81, 0, 0],
    .checkForTaskRun, .assignClassDuringStartup () true]

/-- A blocked task is started; and a task is due, but no check is posted and the timer is armed for
    the end of time. -/
theorem blocked_task_started :
    ((Lib.run step (init Single.setup 0) blockedInputs).Starts .checkForTaskRun ⟨.user 0, ()⟩ ∧
      (Lib.run step (init Single.setup 0) blockedInputs).channel.isBlocked (.user 0) = true) ∧
    (Lib.run step (init Single.setup 0) lateAnswerInputs).channel.current = none ∧
    ⟨.own () .assignClass, ()⟩ ∈
      (Lib.run step (init Single.setup 0) lateAnswerInputs).channel.tasks ∧
    (Lib.run step (init Single.setup 0) lateAnswerInputs).channel.Ready
      ⟨.own () .assignClass, ()⟩ ∧
    (Lib.run step (init Single.setup 0) lateAnswerInputs).channel.expirationTime
      ⟨.own () .assignClass, ()⟩ = Timestamp.min ∧
    (Lib.run step (init Single.setup 0) lateAnswerInputs).channel.posted = 0 ∧
    (Lib.run step (init Single.setup 0) lateAnswerInputs).channel.taskTimer =
      some Timestamp.max := by
  decide +kernel

end World

end OpenDnp3.Master
