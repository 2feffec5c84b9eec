import OpenDnp3.Outstation.Effects

/-!
# Messages of strangers

An outstation that answers its own master only drops every message that is meant for another
station or comes from another one.  A dropped message is not without consequences, though: after
every message the outstation looks for work that can be started.  This file shows that there is
never any to be found: whatever a step leaves behind is *quiescent*, and in a quiescent state the
check for work changes nothing.  Two runs that differ in the messages of strangers only therefore
lead to the same state.
-/

namespace OpenDnp3.Outstation

open App Link Lib

namespace OContext

variable {s t : OContext}

/-! ## Quiescent states -/

/-- **No work can be started**: nothing can be transmitted, or a confirm is awaited and only a READ
    waits for its turn, or no request waits and unsolicited responses are off or have been
    checked for. -/
def Quiescent (s : OContext) : Prop :=
  s.canTransmit = false ∨
    (s.state ≠ .Idle ∧ ∀ r, s.deferred = some r → r.header.function = .READ) ∨
    (s.deferred = none ∧ (s.params.allowUnsolicited = false ∨
      s.completedNull = true ∧ s.station.shouldCheckForUnsolicited = false))

theorem checkForUnsolicitedNull_of_completed (env : Env)
    (h : s.canStartUnsolicited = false ∨ s.completedNull = true) :
    s.checkForUnsolicitedNull env = s := by
  unfold checkForUnsolicitedNull
  rw [if_neg]
  rcases h with hstart | hnull
  · simp [hstart]
  · simp [hnull]

theorem checkForUnsolicited_of_checked (env : Env)
    (h : s.canStartUnsolicited = false ∨ s.station.shouldCheckForUnsolicited = false) :
    s.checkForUnsolicited env = s := by
  unfold checkForUnsolicited
  rw [if_neg]
  rcases h with hstart | hcheck
  · simp [hstart]
  · simp [hcheck]

/-- In a quiescent state the check for work changes nothing. -/
theorem Quiescent.checkForTaskStart (h : s.Quiescent) (env : Env) :
    s.checkForTaskStart env = s := by
  rcases h with hbusy | ⟨hstate, hread⟩ | ⟨hnone, hunsolicited⟩
  · exact checkForTaskStart_of_busy env hbusy
  · exact checkForTaskStart_of_waiting env hstate hread
  · have hnull : s.canStartUnsolicited = false ∨ s.completedNull = true := by
      rcases hunsolicited with hoff | ⟨hnull, -⟩
      · exact .inl (by simp [canStartUnsolicited, hoff])
      · exact .inr hnull
    have hcheck : s.canStartUnsolicited = false ∨
        s.station.shouldCheckForUnsolicited = false := by
      rcases hunsolicited with hoff | ⟨-, hcheck⟩
      · exact .inl (by simp [canStartUnsolicited, hoff])
      · exact .inr hcheck
    unfold OContext.checkForTaskStart
    rw [checkForDeferredRequest_none env hnone, checkForUnsolicitedNull_of_completed env hnull,
      checkForUnsolicited_of_checked env hcheck]

/-! ## The check leaves nothing behind -/

theorem canTransmit_announced (s : OContext) (iin : IINField) (w : HeaderWriter)
    (events : List Nat) : (s.announced iin w events).canTransmit = false := by
  show (s.isOnline && !true) = false
  simp

/-- A deferred request is gone once its turn has come, unless it goes on waiting as before. -/
theorem deferred_checkForDeferredRequest (env : Env) (s : OContext) :
    (s.checkForDeferredRequest env).deferred = none ∨
      (s.checkForDeferredRequest env = s ∧ s.Quiescent) := by
  unfold checkForDeferredRequest
  split
  · rename_i hnone
    exact .inl hnone
  · rename_i r hsome
    cases hcan : s.canTransmit with
    | false => exact .inr ⟨rfl, .inl hcan⟩
    | true =>
      rw [if_pos rfl]
      cases hprocessed : (s.processDeferredRequest env r).2 with
      | true =>
        left
        simp [hprocessed, setDeferred]
      | false =>
        obtain ⟨hsame, hread, hstate⟩ := processDeferredRequest_false hprocessed
        right
        rw [hsame]
        refine ⟨rfl, .inr (.inl ⟨hstate, ?_⟩)⟩
        intro r' hr'
        rw [hsome] at hr'
        cases hr'
        exact hread

/-- After the check for the null response nothing can be sent, or none is due. -/
theorem checked_checkForUnsolicitedNull (env : Env) (s : OContext) :
    (s.checkForUnsolicitedNull env).canTransmit = false ∨
      (s.checkForUnsolicitedNull env = s ∧
        (s.canStartUnsolicited = false ∨ s.completedNull = true)) := by
  by_cases h : s.canStartUnsolicited = true ∧ s.completedNull = false
  · left
    rw [checkForUnsolicitedNull_eq h.1 h.2]
    exact canTransmit_announced ..
  · have hskip : s.canStartUnsolicited = false ∨ s.completedNull = true := by
      simpa [imp_iff_not_or] using h
    exact .inr ⟨checkForUnsolicitedNull_of_completed env hskip, hskip⟩

/-- The check for events sends them, or leaves everything but its own flag as it is. -/
theorem quiescent_checkForUnsolicited (env : Env) (hdeferred : s.deferred = none)
    (hnull : s.canStartUnsolicited = false ∨ s.completedNull = true) :
    (s.checkForUnsolicited env).Quiescent := by
  -- what a state without requests is like in which no unsolicited response can be started
  have hoff : s.canStartUnsolicited = false → s.Quiescent := by
    intro hstart
    rw [canStartUnsolicited, Bool.and_eq_false_iff, Bool.and_eq_false_iff] at hstart
    rcases hstart with (hcan | hstate) | hallow
    · exact .inl hcan
    · refine .inr (.inl ⟨by simpa using hstate, ?_⟩)
      intro r hr
      rw [hdeferred] at hr
      cases hr
    · exact .inr (.inr ⟨hdeferred, .inl hallow⟩)
  cases hstart : s.canStartUnsolicited with
  | false =>
    rw [checkForUnsolicited_of_checked env (.inl hstart)]
    exact hoff hstart
  | true =>
    have hcompleted : s.completedNull = true := by
      rcases hnull with hfalse | hcompleted
      · rw [hstart] at hfalse
        cases hfalse
      · exact hcompleted
    cases hcheck : s.station.shouldCheckForUnsolicited with
    | false =>
      rw [checkForUnsolicited_of_checked env (.inr hcheck)]
      exact .inr (.inr ⟨hdeferred, .inr ⟨hcompleted, hcheck⟩⟩)
    | true =>
      have hannounces := announces_checkForUnsolicited env hstart hcheck
      generalize s.checkForUnsolicited env = s' at hannounces
      cases hannounces with
      | nothing => exact .inr (.inr ⟨hdeferred, .inr ⟨hcompleted, rfl⟩⟩)
      | events => exact .inl (canTransmit_announced ..)

/-- **The check for work leaves no work behind.** -/
theorem quiescent_checkForTaskStart (env : Env) (s : OContext) :
    (s.checkForTaskStart env).Quiescent := by
  rcases deferred_checkForDeferredRequest env s with hnone | ⟨hsame, hquiescent⟩
  · unfold OContext.checkForTaskStart
    generalize s.checkForDeferredRequest env = u at hnone ⊢
    have hdeferred : (u.checkForUnsolicitedNull env).deferred = none := by
      rw [deferred_checkForUnsolicitedNull]
      exact hnone
    apply quiescent_checkForUnsolicited env hdeferred
    rcases checked_checkForUnsolicitedNull env u with hbusy | ⟨hsame, hchecked⟩
    · exact .inl (by simp [canStartUnsolicited, hbusy])
    · rw [hsame]
      exact hchecked
  · rw [hquiescent.checkForTaskStart]
    exact hquiescent

/-- **No step leaves work behind.** -/
theorem quiescent_step (h : s.Quiescent) (input : Input) : (s.step input).Quiescent := by
  have hsteps := steps_step s input
  generalize s.step input = s' at hsteps
  cases hsteps with
  | same | restartIIN => exact h
  | down => exact .inl rfl
  | tasks t env => exact quiescent_checkForTaskStart env t

section Runs

variable (addresses : Addresses) (params : OutstationParams) (numUnsolRetries : Option Nat)
  (unsolClassMask : ClassField) (config : EventBufferConfig) (database : Database)

/-- **No work is left lying**: every run ends in a quiescent state, and another check for work
    changes nothing there. -/
theorem quiescent_run (inputs : List Input) :
    let s := run step (init addresses params numUnsolRetries unsolClassMask config database) inputs
    s.Quiescent ∧ ∀ env, s.checkForTaskStart env = s := by
  intro s
  have hs : s.Quiescent :=
    invariant_run (P := Quiescent) (fun _ i h => quiescent_step h i) (.inl rfl) inputs
  exact ⟨hs, hs.checkForTaskStart⟩

/-- **No wait, transmission, timer or deferred request outlives the connection**, in any run. -/
theorem nothing_pending_offline (inputs : List Input) :
    let s := run step (init addresses params numUnsolRetries unsolClassMask config database) inputs
    s.isOnline = true ∨ s.state = .Idle ∧ s.isTransmitting = false ∧ s.confirmTimer = false ∧
      s.deferred = none := by
  intro s
  have hs : Sound s := invariant_run (fun _ i h => h.step i) (sound_init ..) inputs
  obtain ⟨hstate, hbusy, htimer, hslot⟩ := hs.offline
  cases hdown : s.isOnline with
  | true => exact .inl rfl
  | false => exact .inr ⟨hstate hdown, hbusy hdown, htimer hdown, hslot hdown⟩

end Runs

/-! ## Messages of strangers -/

/-- A message with another destination than the outstation with these addresses and a broadcast,
    or with another source than its master. -/
def isForeign (addresses : Addresses) : Input → Bool
  | .receive message _ _ =>
    (message.addresses.destination != addresses.source && !message.addresses.isBroadcast) ||
      message.addresses.source != addresses.destination
  | _ => false

/-- The states of an outstation with these addresses that answers its own master only. -/
structure Selective (addresses : Addresses) (s : OContext) : Prop where
  addresses_eq : s.addresses = addresses
  respondToAnyMaster : s.params.respondToAnyMaster = false
  quiescent : s.Quiescent
  deferredOk : s.DeferredOk

theorem Selective.step {addresses : Addresses} (h : s.Selective addresses) (input : Input) :
    (s.step input).Selective addresses := by
  obtain ⟨hmoves, hdeferred⟩ := moves_step h.deferredOk input
  have hconfig : Configured s (s.step input) := by
    refine hmoves.invariant (P := Configured s) ?_ ⟨rfl, rfl⟩
    intro t t' hmove ht
    have hmoved := config_move hmove
    exact ⟨hmoved.1.trans ht.1, hmoved.2.trans ht.2⟩
  refine ⟨hconfig.1.trans h.addresses_eq, ?_, quiescent_step h.quiescent input, hdeferred⟩
  rw [hconfig.2]
  exact h.respondToAnyMaster

/-- A foreign message is dropped, and the check for work that follows finds none. -/
theorem Selective.step_foreign {addresses : Addresses} (h : s.Selective addresses) {input : Input}
    (hforeign : isForeign addresses input = true) : s.step input = s := by
  cases input with
  | receive message env later =>
    have hdropped : s.isAccepted message.addresses = false := by
      unfold isAccepted
      rw [h.addresses_eq, h.respondToAnyMaster]
      simp only [isForeign, Bool.or_eq_true, Bool.and_eq_true, Bool.not_eq_true', bne_iff_ne]
        at hforeign
      rcases hforeign with ⟨hdestination, hbroadcast⟩ | hsource
      · simp [hdestination, hbroadcast]
      · simp [hsource]
    have hmessage : s.processMessage env message = s := by
      unfold processMessage
      rw [hdropped, if_neg Bool.false_ne_true]
    show (if s.isOnline then (s.processMessage env message).checkForTaskStart later else s) = s
    rw [hmessage, h.quiescent.checkForTaskStart, ite_self]
  | _ => cases hforeign

theorem selective_init (addresses : Addresses) (params : OutstationParams)
    (numUnsolRetries : Option Nat) (unsolClassMask : ClassField) (config : EventBufferConfig)
    (database : Database) (hparams : params.respondToAnyMaster = false) :
    (OContext.init addresses params numUnsolRetries unsolClassMask config database).Selective
      addresses :=
  ⟨rfl, hparams, .inl rfl, deferredOk_of_none rfl⟩

end OContext

/-- **Strangers have no influence**: two runs of an outstation that answers its own master only,
    and that have the same inputs once the foreign messages are left out, lead to the same state:
    to the same fragments and calls in its log, the same database, events and application. -/
theorem foreign_messages_unobserved (addresses : Addresses) (params : OutstationParams)
    (numUnsolRetries : Option Nat) (unsolClassMask : ClassField) (config : EventBufferConfig)
    (database : Database) (hparams : params.respondToAnyMaster = false)
    (first second : List Input)
    (hcommon : first.filter (fun i => !OContext.isForeign addresses i) =
      second.filter (fun i => !OContext.isForeign addresses i)) :
    run OContext.step (.init addresses params numUnsolRetries unsolClassMask config database)
        first =
      run OContext.step (.init addresses params numUnsolRetries unsolClassMask config database)
        second := by
  have hinit := OContext.selective_init addresses params numUnsolRetries unsolClassMask config
    database hparams
  have hfilter : ∀ inputs : List Input,
      run OContext.step (.init addresses params numUnsolRetries unsolClassMask config database)
          inputs =
        run OContext.step (.init addresses params numUnsolRetries unsolClassMask config database)
          (inputs.filter fun i => !OContext.isForeign addresses i) := by
    refine run_filter (P := OContext.Selective addresses) (fun s i h => h.step i) ?_ hinit
    intro s i h hforeign
    exact h.step_foreign (by simpa using hforeign)
  rw [hfilter first, hcommon, ← hfilter second]

/-- A READ of class 0 between two other stations, and one from another master. -/
def strangers (now : Nat) : List Input :=
  [.receive ⟨⟨1, 11⟩, [0xC0, 1, 60, 1, 6]⟩ (Sample.env now) (Sample.env now),
    .receive ⟨⟨2, 10⟩, [0xC0, 1, 60, 1, 6]⟩ (Sample.env now) (Sample.env now)]

/-- The outstation starts up and announces itself, and a point changes before its master confirms
    that. -/
def quiet : List Input :=
  [.lowerLayerUp (Sample.env 0), .txReady (Sample.env 10), Sample.change 0 true 20,
    Sample.request 0xD0 0 [] 30]

/-- The same with strangers around. -/
def crowded : List Input :=
  [.lowerLayerUp (Sample.env 0)] ++ strangers 5 ++ [.txReady (Sample.env 10)] ++ strangers 15 ++
    [Sample.change 0 true 20] ++ strangers 25 ++ [Sample.request 0xD0 0 [] 30] ++ strangers 35

theorem foreign_messages_unobserved_crowded :
    crowded ≠ quiet ∧
      run OContext.step (Sample.outstation 1 5 249 true) crowded =
        run OContext.step (Sample.outstation 1 5 249 true) quiet := by
  refine ⟨fun h => absurd (congrArg List.length h) (by decide), ?_⟩
  exact foreign_messages_unobserved ⟨10, 1⟩ ⟨4, 1000, true, 249, true, false, true⟩ (some 2)
    ⟨false, true, false, false⟩ ⟨5, 0, 0, 0, 0, 0, 0, 0⟩ (Sample.database 1) rfl crowded quiet rfl

end OpenDnp3.Outstation
