import OpenDnp3.Master.Schedule

/-!
# What happens to a task object

A task object is shared by the scheduler, its master and the user.  Its virtual functions are
called by its master only while it is the active task; its schedule is reset by demands and
changed by its completion, and nothing else changes about it.
-/

namespace OpenDnp3.Master

variable {ι σ : Type}

/-- The object is the same but for its state and its schedule. -/
def IMasterTask.Like (task task' : IMasterTask ι σ) : Prop :=
  task' = { task with behavior := task'.behavior, state := task'.state }

theorem IMasterTask.Like.refl (task : IMasterTask ι σ) : task.Like task := rfl

namespace Session

section Equations

variable [DecidableEq ι]

theorem objects_finished (s : Session ι σ) : s.finished.channel.objects = s.channel.objects := by
  unfold finished assign completeActiveTask
  cases s.ctx.activeTask with
  | none => rfl
  | some t => exact (s.channel.frame_completeCurrentFor s.self).1

theorem objects_completeTask_setTaskState (s : Session ι σ) (t : TaskId ι) (state : σ)
    (result : TaskCompletion) :
    ((s.setTaskState t state).completeTask t result).channel.objects =
      Function.update s.channel.objects t
        { s.channel.objects t with
          behavior := (s.channel.objects t).behavior.completed result s.channel.now
          state } := by
  simp [setTaskState, completeTask, Channel.modify, Channel.completeTask]

end Equations

variable {s s' : Session ι σ}

/-- Where the state of a task can come from. -/
inductive NextState [VirtualTask σ] (state state' : σ) : Prop
  | same (h : state' = state)
  | built (seq : Fin 16) (size now : Nat) (h : state' = (VirtualTask.buildRequest state seq size now).1)
  | processed (response : Response) (now : Nat)
      (h : state' = (VirtualTask.processResponse state response now).1)

/-- Where the schedule of a task can come from: only a completion of the task while it runs makes
    it due later. -/
inductive NextSchedule (s s' : Session ι σ) (t : TaskId ι) : Prop
  | same (h : (s'.channel.objects t).behavior = (s.channel.objects t).behavior)
  | demanded (h : (s'.channel.objects t).behavior = (s.channel.objects t).behavior.reset)
  | completed (result : TaskCompletion) (hcurrent : s.channel.current = some ⟨t, s.self⟩)
      (new : List (Action ι)) (hlog : s'.channel.log = s.channel.log ++ (new ++ [.onComplete t result]))

/-- What a move does to a task object. -/
structure Touches [VirtualTask σ] (s s' : Session ι σ) (t : TaskId ι) : Prop where
  rest : (s.channel.objects t).Like (s'.channel.objects t)
  state : NextState (s.channel.objects t).state (s'.channel.objects t).state
  schedule : NextSchedule s s' t

variable [VirtualTask σ] {i : Input ι σ} {t : TaskId ι}

theorem Touches.of_eq (h : s'.channel.objects t = s.channel.objects t) : Touches s s' t := by
  refine ⟨?_, .same (by rw [h]), .same (by rw [h])⟩
  rw [h]
  exact .refl _

variable [DecidableEq ι]

/-- A virtual function of the task has been called. -/
theorem Touches.setTaskState {t' : TaskId ι} {state : σ}
    (hobjects : s'.channel.objects = (s.setTaskState t' state).channel.objects)
    (hstate : NextState (s.channel.objects t').state state) : Touches s s' t := by
  by_cases ht : t = t'
  · subst ht
    have hobject : s'.channel.objects t = { s.channel.objects t with state } := by
      rw [hobjects]
      exact Function.update_self ..
    refine ⟨?_, ?_, .same ?_⟩
    · rw [hobject]
      rfl
    · rw [hobject]
      exact hstate
    · rw [hobject]
  · refine .of_eq ?_
    rw [hobjects]
    exact Function.update_of_ne ht ..

/-- The active task is over, and is told. -/
theorem Touches.completed {mid : Session ι σ} {t' : TaskId ι} {behavior : TaskBehavior} {state : σ}
    (new : List (Action ι)) (result : TaskCompletion) (howns : s.Owns)
    (hactive : s.ctx.activeTask = some t')
    (hlog : mid.channel.log = s.channel.log ++ (new ++ [.onComplete t' result]))
    (hobjects : mid.channel.objects =
      Function.update s.channel.objects t' { s.channel.objects t' with behavior, state })
    (hstate : NextState (s.channel.objects t').state state) : Touches s mid.finished t := by
  by_cases ht : t = t'
  · subst ht
    have hobject : mid.finished.channel.objects t = { s.channel.objects t with behavior, state } := by
      rw [objects_finished, hobjects, Function.update_self]
    refine ⟨?_, ?_, .completed result (howns.busy t hactive).2 new (by rw [log_finished, hlog])⟩
    · rw [hobject]
      rfl
    · rw [hobject]
      exact hstate
  · refine .of_eq ?_
    rw [objects_finished, hobjects, Function.update_of_ne ht]

/-- What a move does to a task object. -/
theorem Move.touches (h : Move i s s') (howns : s.Owns) (hknown : s.channel.Known t) :
    Touches s s' t := by
  -- a task that is known is not the one that a move may make
  have hcreated : t ≠ .user s.channel.created := by
    rintro rfl
    exact Nat.lt_irrefl _ hknown
  cases h with
  | receive | soe | receiveIIN | queue | sendConfirm | txDone => exact .of_eq rfl
  | demand tasks =>
    have hobject : (s.demandAll tasks).evaluate.channel.objects t =
        if t ∈ tasks.map (TaskId.own s.self) then
          { s.channel.objects t with behavior := (s.channel.objects t).behavior.reset }
        else s.channel.objects t := by
      simp [demandAll, evaluate, Channel.foldl_setMinExpiration]
    split at hobject
    · refine ⟨?_, .same ?_, .demanded ?_⟩
      · rw [hobject]
        rfl
      · rw [hobject]
      · rw [hobject]
    · exact .of_eq hobject
  | request t' state apdu _ _ _ hbuild => 
    exact .setTaskState rfl (.built _ _ _ (by rw [hbuild]))
  -- the task is over, but its object stays as it is
  | requestOnly t' state apdu hactive _ _ hbuild =>
    refine .setTaskState ?_ (.built s.ctx.solSeq s.ctx.params.maxTxFragSize s.channel.utc
      (by rw [hbuild]))
    exact objects_finished _
  | goOn t' response state calls _ _ _ _ hprocess
  | again t' response state calls _ _ _ _ hprocess =>
    exact .setTaskState rfl (.processed response s.channel.utc (by rw [hprocess]))
  | formatError t' state apdu hactive _ _ hbuild =>
    exact .completed [.build s.self apdu] _ howns hactive (log_completeTask_built s t' state apdu _)
      (objects_completeTask_setTaskState s t' state _)
      (.built s.ctx.solSeq s.ctx.params.maxTxFragSize s.channel.utc (by rw [hbuild]))
  | done t' response state calls result completion _ hactive _ _ hprocess =>
    exact .completed _ completion howns hactive
      (log_completeTask_answered s t' response state calls completion)
      (objects_completeTask_setTaskState s t' state _)
      (.processed response s.channel.utc (by rw [hprocess]))
  | timeout t' _ hactive =>
    exact .completed [] .FAILURE_RESPONSE_TIMEOUT howns hactive rfl rfl (.same rfl)
  | up =>
    refine .of_eq ?_
    simp [opened, addAllTasks, act, Channel.act, Channel.foldl_add]
  | bind u =>
    refine .of_eq ?_
    rw [(makes_scheduleRecurringPollTask s u).channel]
    exact Function.update_of_ne hcreated ..
  | adhoc u =>
    refine .of_eq ?_
    rw [(makes_scheduleAdhocTask s u).channel]
    exact Function.update_of_ne hcreated ..

end Session

/-! ## Steps -/

/-- The virtual functions of a task keep the property, and it does not depend on the schedule. -/
structure IMasterTask.Preserved [VirtualTask σ] (Q : IMasterTask ι σ → Prop) : Prop where
  behavior : ∀ task behavior, Q task → Q { task with behavior }
  initialized : ∀ task, Q task → Q { task with state := VirtualTask.initialized task.state }
  built : ∀ task seq size now, Q task →
    Q { task with state := (VirtualTask.buildRequest task.state seq size now).1 }
  processed : ∀ task response now, Q task →
    Q { task with state := (VirtualTask.processResponse task.state response now).1 }

section

variable [VirtualTask σ] {Q : IMasterTask ι σ → Prop}

theorem IMasterTask.Preserved.like (hQ : Preserved Q) {task task' : IMasterTask ι σ}
    (hlike : task.Like task') (hstate : Session.NextState task.state task'.state) (h : Q task) :
    Q task' := by
  have hnext : Q { task with state := task'.state } := by
    cases hstate with
    | same heq =>
      rw [heq]
      exact h
    | built seq size now heq =>
      rw [heq]
      exact hQ.built task seq size now h
    | processed response now heq =>
      rw [heq]
      exact hQ.processed task response now h
  rw [hlike]
  exact hQ.behavior { task with state := task'.state } task'.behavior hnext

end

namespace Channel

variable [DecidableEq ι] (c : Channel ι σ)

/-- Ending tasks changes at most when the task is due. -/
theorem object_completeAll (records : List (Record ι)) (result : TaskCompletion) (t : TaskId ι) :
    ∃ behavior, (c.completeAll records result).objects t =
      { c.objects t with behavior } := by
  induction records generalizing c with
  | nil => exact ⟨(c.objects t).behavior, rfl⟩
  | cons r rest ih =>
    obtain ⟨behavior, hobject⟩ := ih (c.completeTask r.task result)
    refine ⟨behavior, hobject.trans ?_⟩
    by_cases ht : t = r.task
    · subst ht
      simp [completeTask]
    · rw [objects_completeTask_of_ne ht]

/-- A demand changes at most when the task is due. -/
theorem object_setMinExpiration (t' t : TaskId ι) :
    (c.setMinExpiration t').objects t = c.objects t ∨
      (c.setMinExpiration t').objects t =
        { c.objects t with behavior := (c.objects t).behavior.reset } := by
  by_cases ht : t = t'
  · subst ht
    exact .inr (Function.update_self ..)
  · exact .inl (Function.update_of_ne ht ..)

end Channel

/-- What comes before a check changes at most when the task is due. -/
theorem Input.object_prepare [DecidableEq ι] {i : Input ι σ} {prepare : Channel ι σ → Channel ι σ}
    (hi : i.prepare = some prepare) (c : Channel ι σ) (t : TaskId ι) :
    (prepare c).objects t = c.objects t ∨
      (prepare c).objects t = { c.objects t with behavior := (c.objects t).behavior.reset } := by
  cases i with
  | demand t' =>
    cases hi
    exact c.object_setMinExpiration t' t
  | checkForTaskRun | taskTimer =>
    cases hi
    exact .inl rfl
  | _ => cases hi

namespace World

variable [DecidableEq ι] [VirtualTask σ] {w w' : World ι σ} {i : Input ι σ}
  {Q : IMasterTask ι σ → Prop} {t : TaskId ι}

theorem object_turn (hQ : IMasterTask.Preserved Q) (ht : ∀ m, t ≠ .own m .assignClass)
    (hw : w.Owned) (h : w.channel.Known t ∧ Q (w.channel.objects t)) (hturn : Turn i w w') :
    w'.channel.Known t ∧ Q (w'.channel.objects t) := by
  obtain ⟨hknown, h⟩ := h
  -- a check touches at most the schedule of a task
  have hchecking : ∀ {prepare}, i.prepare = some prepare →
      (w.checking prepare).channel.Known t ∧ Q ((w.checking prepare).channel.objects t) := by
    intro prepare hprepare
    refine ⟨hknown.mono (Nat.le_of_eq ?_), ?_⟩
    · rw [checking_eq hprepare]
    · change Q ((prepare w.channel).objects t)
      obtain hobject | hobject := Input.object_prepare hprepare w.channel t
      · rwa [hobject]
      · rw [hobject]
        exact hQ.behavior _ _ h
  cases hturn with
  | move m s hmove =>
    have hself : s.self = m := hmove.self
    subst hself
    have htouches := hmove.touches (hw s.self) hknown
    exact ⟨hknown.mono (hmove.listed (hw s.self)).created, hQ.like htouches.rest htouches.state h⟩
  | recheck prepare hprepare | arm prepare best hprepare => exact hchecking hprepare
  | start prepare best hprepare =>
    refine ⟨(hchecking hprepare).1, ?_⟩
    rw [objects_beginning]
    by_cases hbest : t = best.task
    · subst hbest
      rw [Function.update_self]
      exact hQ.initialized _ (hchecking hprepare).2
    · rw [Function.update_of_ne hbest]
      exact (hchecking hprepare).2
  | ran => exact ⟨hknown, h⟩
  -- a task that waited too long completes: its schedule changes, nothing else
  | timeoutTasks =>
    obtain ⟨behavior, hobject⟩ := w.channel.object_completeAll
      (w.channel.tasks.filter w.channel.isTimedOut) .FAILURE_START_TIMEOUT t
    refine ⟨hknown.mono (Nat.le_of_eq ?_), ?_⟩
    · change w.channel.created = (w.channel.completeAll _ _).created
      rw [Channel.completeAll_eq]
    · change Q ((w.channel.completeAll _ _).objects t)
      rw [hobject]
      exact hQ.behavior _ _ h
  | clock now utc =>
    have hadvance := advance_eq w.channel now utc
    refine ⟨hknown.mono (Nat.le_of_eq ?_), ?_⟩
    all_goals
      simp only [withChannel]
      rw [hadvance]
    exact h
  | assignClass m answer =>
    refine ⟨hknown, ?_⟩
    simp only [withChannel, Channel.modify]
    rw [Function.update_of_ne (ht m)]
    exact h

/-- **Step rule for a task**: what the virtual functions of the task keep, every step keeps. -/
theorem object_step (hQ : IMasterTask.Preserved Q) (ht : ∀ m, t ≠ .own m .assignClass)
    (hw : w.Owned) (h : w.channel.Known t ∧ Q (w.channel.objects t)) (i : Input ι σ) :
    (w.step i).channel.Known t ∧ Q ((w.step i).channel.objects t) := by
  refine keeps_step (P := fun w => w.channel.Known t ∧ Q (w.channel.objects t)) hw h
    (fun _ _ hw h hturn => object_turn hQ ht hw h hturn) fun m _ _ => ?_
  obtain ⟨behavior, hobject⟩ := w.channel.object_completeAll (w.channel.abandoned m)
    .FAILURE_NO_COMMS t
  refine ⟨h.1.mono (Nat.le_of_eq ?_), ?_⟩
  · change w.channel.created = (w.channel.setRunnerOffline m).created
    rw [Channel.setRunnerOffline_eq, Channel.postCheckForTaskRun_eq, Channel.completeAll_eq]
  · change Q ((w.channel.setRunnerOffline m).objects t)
    rw [Channel.setRunnerOffline_eq, Channel.postCheckForTaskRun_eq]
    rw [hobject]
    exact hQ.behavior _ _ h.2

end World

end OpenDnp3.Master
