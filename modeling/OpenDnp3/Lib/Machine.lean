import Mathlib.Data.List.Basic
import Mathlib.Data.List.Induction

/-!
# State machines, runs and monitors

A machine is a step function on states and inputs.  `run` is the state after a list of
inputs, `Always` says that every state of the run has a property, and `Along` says that
every input is taken in a state that allows it.

A *monitor* is a partial step function on the actions that a machine logs.  A log is
accepted when the monitor gets through it.  A machine whose steps keep a relation to the
monitor's state only ever produces accepted logs.  `Justified` is the other way to speak about a
log: each of its entries has a reason among the entries before it.
-/

namespace OpenDnp3.Lib

universe u v w

/-! ## Runs -/

section Run

variable {σ : Type u} {ι : Type v} (step : σ → ι → σ)

/-- The state after a run of inputs. -/
def run (s : σ) (inputs : List ι) : σ := inputs.foldl step s

/-- Every input of the run is taken in a state that allows it. -/
def Along (ok : σ → ι → Prop) : σ → List ι → Prop
  | _, [] => True
  | s, i :: rest => ok s i ∧ Along ok (step s i) rest

/-- Every state of the run has the property, the first and the last included. -/
def Always (P : σ → Prop) : σ → List ι → Prop
  | s, [] => P s
  | s, i :: rest => P s ∧ Always P (step s i) rest

instance decidableAlong (ok : σ → ι → Prop) [∀ s i, Decidable (ok s i)] :
    ∀ s inputs, Decidable (Along step ok s inputs)
  | _, [] => .isTrue trivial
  | s, i :: rest =>
    have := decidableAlong ok (step s i) rest
    inferInstanceAs (Decidable (_ ∧ _))

variable {step}

@[simp] theorem run_nil (s : σ) : run step s [] = s := rfl

@[simp] theorem run_cons (s : σ) (i : ι) (rest : List ι) :
    run step s (i :: rest) = run step (step s i) rest := rfl

theorem run_append (s : σ) (first second : List ι) :
    run step s (first ++ second) = run step (run step s first) second :=
  List.foldl_append

variable {ok : σ → ι → Prop} {P Q : σ → Prop}

variable {inputs : List ι} {s : σ}

theorem Always.mono (hPQ : ∀ s, P s → Q s)
    (h : Always step P s inputs) : Always step Q s inputs := by
  induction inputs generalizing s with
  | nil => exact hPQ s h
  | cons i rest ih => exact ⟨hPQ s h.1, ih h.2⟩

theorem Always.last (h : Always step P s inputs) :
    P (run step s inputs) := by
  induction inputs generalizing s with
  | nil => exact h
  | cons i rest ih => exact ih h.2

theorem Always.first (h : Always step P s inputs) : P s := by
  cases inputs with
  | nil => exact h
  | cons i rest => exact h.1

/-- **Invariant rule**: what allowed steps preserve holds in every state of an allowed run. -/
theorem always_of_step (hstep : ∀ s i, P s → ok s i → P (step s i))
    (hs : P s) (hok : Along step ok s inputs) : Always step P s inputs := by
  induction inputs generalizing s with
  | nil => exact hs
  | cons i rest ih => exact ⟨hs, ih (hstep s i hs hok.1) hok.2⟩

/-- The invariant rule for runs without restrictions. -/
theorem invariant_run (hstep : ∀ s i, P s → P (step s i)) (hs : P s) (inputs : List ι) :
    P (run step s inputs) := by
  induction inputs generalizing s with
  | nil => exact hs
  | cons i rest ih => exact ih (hstep s i hs)

/-- **Stuttering rule**: inputs that change nothing wherever an invariant holds can be left out
    of a run. -/
theorem run_filter {effective : ι → Bool} (hstep : ∀ s i, P s → P (step s i))
    (hidle : ∀ s i, P s → effective i = false → step s i = s) (hs : P s)
    (inputs : List ι) : run step s inputs = run step s (inputs.filter effective) := by
  induction inputs generalizing s with
  | nil => rfl
  | cons i rest ih =>
    rw [run_cons, ih (hstep s i hs)]
    cases heffective : effective i with
    | true => rw [List.filter_cons_of_pos heffective, run_cons]
    | false =>
      rw [List.filter_cons_of_neg (by simp [heffective]), hidle s i hs heffective]

/-- The invariant rule for a property that also speaks about the inputs taken so far. -/
theorem history_run {H : List ι → σ → Prop}
    (hstep : ∀ past s i, H past s → ok s i → H (past ++ [i]) (step s i)) {past : List ι}
    (hs : H past s) (hok : Along step ok s inputs) :
    H (past ++ inputs) (run step s inputs) := by
  induction inputs generalizing past s with
  | nil =>
    rw [List.append_nil]
    exact hs
  | cons i rest ih =>
    have h := ih (hstep past s i hs hok.1) hok.2
    rwa [List.append_assoc] at h

/-- A property of a run can be strengthened by what its steps keep as long as they have it. -/
theorem always_and_iff (hstep : ∀ s i, P s → Q s → Q (step s i) → P (step s i)) (hs : P s) :
    Always step Q s inputs ↔ Always step (fun s => P s ∧ Q s) s inputs := by
  refine ⟨fun h => ?_, fun h => h.mono fun _ => And.right⟩
  induction inputs generalizing s with
  | nil => exact ⟨hs, h⟩
  | cons i rest ih => exact ⟨⟨hs, h.1⟩, ih (hstep s i hs h.1 h.2.first) h.2⟩

/-- Two conditions on steps that agree wherever an invariant holds select the same runs. -/
theorem along_iff_along {ok' : σ → ι → Prop} (hstep : ∀ s i, P s → P (step s i))
    (hiff : ∀ s i, P s → (ok s i ↔ ok' s i)) (hs : P s) :
    Along step ok s inputs ↔ Along step ok' s inputs := by
  induction inputs generalizing s with
  | nil => exact Iff.rfl
  | cons i rest ih => exact and_congr (hiff s i hs) (ih (hstep s i hs))

/-- What allowed steps do wherever an invariant holds, they do all along an allowed run. -/
theorem along_of_step {ok' : σ → ι → Prop} (hstep : ∀ s i, P s → ok s i → P (step s i))
    (himp : ∀ s i, P s → ok s i → ok' s i) (hs : P s)
    (hok : Along step ok s inputs) : Along step ok' s inputs := by
  induction inputs generalizing s with
  | nil => trivial
  | cons i rest ih => exact ⟨himp s i hs hok.1, ih (hstep s i hs hok.1) hok.2⟩

/-- The same for runs without restrictions. -/
theorem along_of_invariant (hstep : ∀ s i, P s → P (step s i)) (himp : ∀ s i, P s → ok s i)
    (hs : P s) (inputs : List ι) : Along step ok s inputs := by
  induction inputs generalizing s with
  | nil => trivial
  | cons i rest ih => exact ⟨himp s i hs, ih (hstep s i hs)⟩

/-- When a step keeps the property exactly if it is allowed, the property holds throughout
    exactly the allowed runs. -/
theorem always_iff_along (hstep : ∀ s i, P s → (P (step s i) ↔ ok s i))
    (hs : P s) : Always step P s inputs ↔ Along step ok s inputs := by
  induction inputs generalizing s with
  | nil => exact ⟨fun _ => trivial, fun _ => hs⟩
  | cons i rest ih =>
    constructor
    · rintro ⟨-, hrest⟩
      have hnext : P (step s i) := hrest.first
      exact ⟨(hstep s i hs).mp hnext, (ih hnext).mp hrest⟩
    · rintro ⟨hok, hrest⟩
      have hnext : P (step s i) := (hstep s i hs).mpr hok
      exact ⟨hs, (ih hnext).mpr hrest⟩

end Run

/-! ## Monitors -/

section Monitor

variable {τ : Type u} {α : Type v} (next : τ → α → Option τ)

/-- The monitor's state after a log, if it accepts every action of it. -/
def watch : τ → List α → Option τ
  | m, [] => some m
  | m, a :: rest => (next m a).bind fun m' => watch m' rest

variable {next}

/-- Events that leave the monitor as it is. -/
theorem watch_ignore {m : τ} {l : List α} (h : ∀ a ∈ l, next m a = some m) :
    watch next m l = some m := by
  induction l with
  | nil => rfl
  | cons a rest ih =>
    rw [watch, h a List.mem_cons_self]
    exact ih fun b hb => h b (List.mem_cons_of_mem a hb)

theorem watch_append {m m' : τ} {first : List α} (h : watch next m first = some m')
    (second : List α) : watch next m (first ++ second) = watch next m' second := by
  induction first generalizing m with
  | nil =>
    cases h
    rfl
  | cons a rest ih =>
    simp only [watch, Option.bind_eq_some_iff] at h
    obtain ⟨m₁, hfirst, hrest⟩ := h
    simp only [List.cons_append, watch, hfirst, Option.bind_some]
    exact ih hrest

end Monitor

/-! ## Logs -/

section Log

variable {α : Type u} {ok : List α → α → Prop}

/-- Every entry of the log is justified by the entries before it. -/
def Justified (ok : List α → α → Prop) (log : List α) : Prop :=
  ∀ past a future, log = past ++ a :: future → ok past a

theorem justified_nil : Justified ok [] := by
  intro past a future h
  simp at h

theorem Justified.concat {log : List α} (h : Justified ok log) {a : α} (ha : ok log a) :
    Justified ok (log ++ [a]) := by
  intro past b future hsplit
  -- the entry is the last one, or one of the earlier ones
  rcases List.eq_nil_or_concat future with rfl | ⟨front, last, rfl⟩
  · obtain ⟨rfl, hb⟩ := List.append_inj' hsplit rfl
    cases hb
    exact ha
  · have hassoc : log ++ [a] = (past ++ b :: front) ++ [last] := by
      rw [hsplit, List.append_assoc, List.cons_append, List.concat_eq_append]
    obtain ⟨hlog, -⟩ := List.append_inj' hassoc rfl
    exact h past b front hlog

/-- Entries that are always justified. -/
theorem Justified.append {log : List α} (h : Justified ok log) {entries : List α}
    (hentries : ∀ a ∈ entries, ∀ past, ok past a) : Justified ok (log ++ entries) := by
  induction entries generalizing log with
  | nil =>
    rw [List.append_nil]
    exact h
  | cons a rest ih =>
    have hnext := h.concat (hentries a List.mem_cons_self log)
    have hrest := ih hnext fun b hb => hentries b (List.mem_cons_of_mem a hb)
    rwa [List.append_assoc] at hrest

/-- Entries that a summary of the log does not look at. -/
theorem foldl_ignore {τ : Type v} {f : τ → α → τ} {entries : List α}
    (h : ∀ a ∈ entries, ∀ t, f t a = t) (t : τ) : entries.foldl f t = t := by
  induction entries with
  | nil => rfl
  | cons a rest ih =>
    rw [List.foldl_cons, h a List.mem_cons_self]
    exact ih fun b hb => h b (List.mem_cons_of_mem a hb)

end Log

end OpenDnp3.Lib
