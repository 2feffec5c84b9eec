import Mathlib.Data.Prod.Lex
import OpenDnp3.Lib.FirstBest
import OpenDnp3.Master.Channel

/-!
# The search for a task

The scheduler goes through its tasks once and keeps the better of two: a task that is enabled
before one that is not, then one that is not blocked, then the one that is due first, where all
tasks that are due count the same, and then the one of better priority.  So the search is the
search for the first task of the least rank, and what it finds is right as long as some enabled
task is not blocked.  If all enabled tasks are blocked, the scheduler finds a blocked one.
-/

namespace OpenDnp3.Master

variable {ι σ : Type}

namespace Channel

/-! ## Comparisons -/

/-- The comparison prefers the task with the smaller key, and none if the keys are the same. -/
def Comparison.Decides {β : Type} [LinearOrder β] (comparison : Comparison) (left right : β) :
    Prop :=
  (comparison = .RIGHT ↔ right < left) ∧ (comparison = .SAME ↔ right = left)

/-- A second comparison breaks the ties of the first. -/
theorem Comparison.Decides.lex {β γ : Type} [LinearOrder β] [LinearOrder γ]
    {first second : Comparison} {left right : β} {left' right' : γ}
    (hfirst : first.Decides left right) (hsecond : second.Decides left' right') :
    (if first ≠ .SAME then first else second).Decides (toLex (left, left'))
      (toLex (right, right')) := by
  unfold Decides at *
  rw [Prod.Lex.toLex_lt_toLex, toLex.injective.eq_iff, Prod.mk.injEq]
  by_cases hsame : first = .SAME
  · have heq := hfirst.2.mp hsame
    simp [hsame, heq, hsecond.1, hsecond.2]
  · have hne : right ≠ left := fun heq => hsame (hfirst.2.mpr heq)
    simp [hsame, hne, hfirst.1]

theorem Comparison.decides_lt {β : Type} [LinearOrder β] (left right : β) :
    Comparison.Decides
      (if left < right then .LEFT else if right < left then .RIGHT else .SAME) left right := by
  unfold Decides
  rcases lt_trichotomy left right with h | h | h
  · simp [h, not_lt_of_gt h, ne_of_gt h]
  · simp [h]
  · simp [h, not_lt_of_gt h, ne_of_lt h]

variable (c : Channel ι σ)

theorem decides_compareEnabledStatus (left right : Record ι) :
    (c.compareEnabledStatus left right).Decides (decide (c.expirationTime left = Timestamp.max))
      (decide (c.expirationTime right = Timestamp.max)) := by
  unfold Comparison.Decides compareEnabledStatus
  split <;> split <;> simp [*]

/-! ## The rank of a task -/

theorem effectiveTime_of_due {r : Record ι} (h : c.expirationTime r ≤ c.now) :
    c.effectiveTime r = c.now :=
  if_pos (decide_eq_true h)

theorem effectiveTime_of_late {r : Record ι} (h : c.now < c.expirationTime r) :
    c.effectiveTime r = c.expirationTime r :=
  if_neg (by
    rw [IMasterTask.isExpired, decide_eq_true_eq]
    exact Int.not_le.mpr h)

variable [DecidableEq ι]

def Enabled (r : Record ι) : Prop := c.expirationTime r ≠ Timestamp.max

/-- The task may run when its time comes. -/
def Ready (r : Record ι) : Prop := c.Enabled r ∧ c.isBlocked r.task = false

/-- The task may run now. -/
def Competes (r : Record ι) : Prop := c.Ready r ∧ c.expirationTime r ≤ c.now

instance (r : Record ι) : Decidable (c.Enabled r) :=
  inferInstanceAs (Decidable (c.expirationTime r ≠ Timestamp.max))

instance (r : Record ι) : Decidable (c.Ready r) :=
  inferInstanceAs (Decidable (c.Enabled r ∧ c.isBlocked r.task = false))

/-- What the tasks are compared by. -/
def rank (r : Record ι) : Bool ×ₗ Bool ×ₗ Timestamp ×ₗ Nat :=
  toLex (decide (c.expirationTime r = Timestamp.max),
    toLex (c.isBlocked r.task, toLex (c.effectiveTime r, (c.objects r.task).priority)))

theorem decides_compareBlockedStatus (left right : Record ι) :
    (c.compareBlockedStatus left right).Decides (c.isBlocked left.task)
      (c.isBlocked right.task) := by
  unfold Comparison.Decides compareBlockedStatus
  split <;> split <;> simp [*]

/-- The comparison of two tasks is the comparison of their ranks. -/
theorem getBestTaskToRun_right (left right : Record ι) :
    c.getBestTaskToRun left right = .RIGHT ↔ c.rank right < c.rank left := by
  have hlex := (c.decides_compareEnabledStatus left right).lex
    ((c.decides_compareBlockedStatus left right).lex
      ((Comparison.decides_lt (c.effectiveTime left) (c.effectiveTime right)).lex
        (Comparison.decides_lt (c.objects left.task).priority (c.objects right.task).priority)))
  rw [rank, rank, ← hlex.1, getBestTaskToRun, compareTime, comparePriority]
  simp only [ne_eq, ite_not]

theorem bestTask_cons {first : Record ι} {rest : List (Record ι)} (h : c.tasks = first :: rest) :
    c.bestTask = some (Lib.firstBest c.rank first rest) := by
  unfold bestTask Lib.firstBest
  rw [h]
  simp only [getBestTaskToRun_right]

/-- **What the scheduler finds**: the first task of the least rank. -/
theorem bestTask_spec {r : Record ι} (h : c.bestTask = some r) :
    ∃ before after, c.tasks = before ++ r :: after ∧
      (∀ x ∈ before, c.rank r < c.rank x) ∧ ∀ x ∈ after, c.rank r ≤ c.rank x := by
  cases htasks : c.tasks with
  | nil =>
    rw [bestTask, htasks] at h
    cases h
  | cons first rest =>
    rw [c.bestTask_cons htasks] at h
    cases h
    exact Lib.firstBest_spec c.rank first rest

/-! ## What the rank says -/

variable {c} {r x : Record ι}

theorem Enabled.of_rank_le (hx : c.Enabled x) (h : c.rank r ≤ c.rank x) : c.Enabled r := by
  intro hr
  rw [rank, rank, Prod.Lex.toLex_le_toLex] at h
  have hx : c.expirationTime x ≠ Timestamp.max := hx
  simp only [hr, hx, decide_true, decide_false, reduceCtorEq, false_and, or_false] at h
  exact absurd h (by decide)

/-- Among enabled tasks that are both blocked, or both not, the time decides. -/
theorem effectiveTime_le_of_rank_le (hr : c.Enabled r) (hx : c.Enabled x)
    (hblocked : c.isBlocked r.task = c.isBlocked x.task) (h : c.rank r ≤ c.rank x) :
    c.effectiveTime r ≤ c.effectiveTime x := by
  rw [rank, rank, Prod.Lex.toLex_le_toLex] at h
  simp only [show c.expirationTime r ≠ Timestamp.max from hr,
    show c.expirationTime x ≠ Timestamp.max from hx, hblocked, Prod.Lex.toLex_le_toLex,
    lt_irrefl, false_or, true_and, decide_false] at h
  exact h.elim le_of_lt fun h => le_of_eq h.1

theorem Ready.of_rank_le (hx : c.Ready x) (h : c.rank r ≤ c.rank x) : c.Ready r := by
  have hr := hx.1.of_rank_le h
  refine ⟨hr, ?_⟩
  rw [rank, rank, Prod.Lex.toLex_le_toLex] at h
  simp only [show c.expirationTime r ≠ Timestamp.max from hr,
    show c.expirationTime x ≠ Timestamp.max from hx.1, hx.2, Prod.Lex.toLex_le_toLex,
    lt_irrefl, false_or, true_and, decide_false] at h
  exact h.elim (fun hlt => absurd hlt (by cases c.isBlocked r.task <;> decide)) And.left

/-- Tasks that may run now are compared by their priorities. -/
theorem Competes.rank_lt_iff (hr : c.Competes r) (hx : c.Competes x) :
    c.rank r < c.rank x ↔ (c.objects r.task).priority < (c.objects x.task).priority := by
  simp [rank, Prod.Lex.toLex_lt_toLex, effectiveTime_of_due _ hr.2, effectiveTime_of_due _ hx.2,
    show c.expirationTime r ≠ Timestamp.max from hr.1.1,
    show c.expirationTime x ≠ Timestamp.max from hx.1.1, hr.1.2, hx.1.2]

theorem mem_of_bestTask (h : c.bestTask = some r) : r ∈ c.tasks := by
  obtain ⟨before, after, htasks, -, -⟩ := c.bestTask_spec h
  rw [htasks]
  exact List.mem_append_right before List.mem_cons_self

theorem rank_best_le (h : c.bestTask = some r) (hx : x ∈ c.tasks) : c.rank r ≤ c.rank x := by
  obtain ⟨before, after, htasks, hbefore, hafter⟩ := c.bestTask_spec h
  rw [htasks] at hx
  obtain hx | hx := List.mem_append.mp hx
  · exact le_of_lt (hbefore x hx)
  · obtain rfl | hx := List.mem_cons.mp hx
    · exact le_refl _
    · exact hafter x hx

/-! ## The right task -/

variable (c) in
/-- The task is the one to start: it is enabled, not blocked and due, and no other such task has a
    better priority, or the same and has been in the list for longer. -/
structure Right (r : Record ι) : Prop where
  competes : c.Competes r
  first : ∃ before after, c.tasks = before ++ r :: after ∧
    (∀ x ∈ before, c.Competes x →
      (c.objects r.task).priority < (c.objects x.task).priority) ∧
    ∀ x ∈ after, c.Competes x → (c.objects r.task).priority ≤ (c.objects x.task).priority

variable (c) in
/-- A task is running, or some enabled task is not blocked, or no enabled task is due. -/
def Unobstructed : Prop :=
  c.current.isSome ∨ (∃ x ∈ c.tasks, c.Ready x) ∨
    ∀ x ∈ c.tasks, c.Enabled x → c.now < c.expirationTime x

instance (c : Channel ι σ) : Decidable c.Unobstructed :=
  inferInstanceAs (Decidable (_ ∨ _ ∨ _))

/-- The best task is the right one, if any enabled task may run. -/
theorem right_of_ready (hr : c.bestTask = some r) (hdue : c.expirationTime r ≤ c.now)
    (hx : x ∈ c.tasks) (hready : c.Ready x) : c.Right r := by
  have hcompetes : c.Competes r := ⟨hready.of_rank_le (rank_best_le hr hx), hdue⟩
  obtain ⟨before, after, htasks, hbefore, hafter⟩ := c.bestTask_spec hr
  refine ⟨hcompetes, before, after, htasks, fun y hy hcy => ?_, fun y hy hcy => ?_⟩
  · exact (hcompetes.rank_lt_iff hcy).mp (hbefore y hy)
  · exact Nat.le_of_not_lt fun hlt => not_lt_of_ge (hafter y hy) ((hcy.rank_lt_iff hcompetes).mpr hlt)

/-- If all enabled tasks are blocked and one is due, the best task is due. -/
theorem due_of_obstructed (hr : c.bestTask = some r) (hblocked : ∀ x ∈ c.tasks, ¬c.Ready x)
    (hx : x ∈ c.tasks) (henabled : c.Enabled x) (hdue : c.expirationTime x ≤ c.now) :
    c.expirationTime r ≤ c.now := by
  have hrank := rank_best_le hr hx
  have hall : ∀ y ∈ c.tasks, c.Enabled y → c.isBlocked y.task = true := by
    intro y hy hey
    by_contra hunblocked
    exact hblocked y hy ⟨hey, by simpa using hunblocked⟩
  have her := henabled.of_rank_le hrank
  have htime := effectiveTime_le_of_rank_le her henabled
    ((hall r (mem_of_bestTask hr) her).trans (hall x hx henabled).symm) hrank
  rw [effectiveTime_of_due c hdue] at htime
  by_contra hlate
  have hlate := Int.not_le.mp hlate
  rw [effectiveTime_of_late c hlate] at htime
  exact absurd htime (Int.not_le.mpr hlate)

/-- **The right task is started exactly if the tasks are not all blocked.** -/
theorem right_iff (hnow : c.now < Timestamp.max) :
    (∀ r, c.current = none → c.bestTask = some r → c.expirationTime r ≤ c.now → c.Right r) ↔
      c.Unobstructed := by
  constructor
  · intro hright
    by_contra hobstructed
    simp only [Unobstructed, not_or, Option.not_isSome_iff_eq_none, not_exists, not_and,
      not_forall, Int.not_lt] at hobstructed
    obtain ⟨hnone, hblocked, x, hx, henabled, hdue⟩ := hobstructed
    obtain ⟨first, rest, htasks⟩ := List.exists_cons_of_ne_nil (List.ne_nil_of_mem hx)
    have hbest := c.bestTask_cons htasks
    have hr := hright _ hnone hbest (due_of_obstructed hbest hblocked hx henabled hdue)
    exact hblocked _ (mem_of_bestTask hbest) hr.competes.1
  · intro hfree r hnone hr hdue
    obtain hsome | ⟨x, hx, hready⟩ | hlate := hfree
    · simp [hnone] at hsome
    · exact right_of_ready hr hdue hx hready
    · have henabled : c.Enabled r := ne_of_lt (lt_of_le_of_lt hdue hnow)
      exact absurd hdue (Int.not_le.mpr (hlate r (mem_of_bestTask hr) henabled))

/-- A timer for the best task is in time for every task that may run. -/
theorem best_le_of_ready (hr : c.bestTask = some r) (hlate : c.now < c.expirationTime r)
    (hx : x ∈ c.tasks) (hready : c.Ready x) : c.expirationTime r ≤ c.expirationTime x := by
  have hrank := rank_best_le hr hx
  have hrready := hready.of_rank_le hrank
  have htime := effectiveTime_le_of_rank_le hrready.1 hready.1 (hrready.2.trans hready.2.symm) hrank
  rw [effectiveTime_of_late c hlate] at htime
  obtain hdue | hlatex := le_or_gt (c.expirationTime x) c.now
  · rw [effectiveTime_of_due c hdue] at htime
    exact absurd htime (Int.not_le.mpr hlate)
  · rwa [effectiveTime_of_late c hlatex] at htime

end Channel

end OpenDnp3.Master
