import OpenDnp3.Master.Completions

/-!
# A confirm says that the measurements have been delivered

A confirm lets the outstation forget its events, so the master should send one only when all
measurements of the response have been handed to the user.  The objects of an unsolicited
response have to parse before it is confirmed, but headers that the handler refuses, such as
relative times without a common time, do not matter.  A response to a poll is confirmed whatever
its objects are, and also when the fragment is out of place and its objects are not looked at.

So the property depends on the outstation: on responses that ask for a confirm only with objects
that parse, that the handler knows, and whose relative times follow a common time.
-/

namespace OpenDnp3.Master

open App

/-! ## Regular objects -/

namespace MeasurementHandler

/-- The headers that are handed on by themselves, or are a common time. -/
def isMeasurement : ParsedHeader → Bool
  | .countOf record _ =>
    record.enumeration = ⟨50, 1⟩ || record.enumeration = ⟨51, 1⟩ || record.enumeration = ⟨51, 2⟩
  | .rangeOf record _ _ | .bitsOf record _ _ =>
    record.enumeration.group = 34 || record.enumeration.group ∈ rangeGroups
  | .indexed record _ => record.enumeration.group = 34 || record.enumeration.group ∈ prefixGroups
  | .deviceAttribute .. => true
  | .allObjects _ | .count _ _ | .range _ _ | .indices _ _ | .freeFormat _ _ => false

/-- Binary inputs with a time relative to the common time. -/
def isRelative : ParsedHeader → Bool
  | .indexed record _ => record.enumeration = ⟨2, 3⟩ || record.enumeration = ⟨4, 3⟩
  | _ => false

/-- A header with one common time. -/
def setsCommonTime : ParsedHeader → Bool
  | .countOf record objects =>
    objects.length = 1 && (record.enumeration = ⟨51, 1⟩ || record.enumeration = ⟨51, 2⟩)
  | _ => false

/-- All headers are measurements, and relative times follow a common time. -/
def regularFrom (hasTime : Bool) : List ParsedHeader → Bool
  | [] => true
  | header :: rest =>
    isMeasurement header && (hasTime || !isRelative header) &&
      regularFrom (hasTime || setsCommonTime header) rest

/-- The objects parse, and are regular. -/
def regular (objects : List UInt8) : Bool :=
  match parse .Default isAllowed objects with
  | .error _ => false
  | .ok headers => regularFrom false headers

/-- The handler has a common time. -/
def HasTime (h : MeasurementHandler) : Prop := h.commonTimeOccurence.quality ≠ .INVALID

theorem time_checkForTxStart (h : MeasurementHandler) :
    h.checkForTxStart.commonTimeOccurence = h.commonTimeOccurence := by
  unfold checkForTxStart
  split <;> rfl

variable {h : MeasurementHandler}

theorem hasTime_loadValues (htime : h.HasTime) (record : HeaderRecord)
    (tsquality : TimestampQuality) (values : ParsedHeader) (cto : Option DNPTime) :
    (h.loadValues record tsquality values cto).1.HasTime := by
  unfold HasTime loadValues
  rw [time_checkForTxStart]
  exact htime

theorem hasTime_processCTO {quality : TimestampQuality}
    (hquality : quality ≠ .INVALID) (objects : List (List UInt8))
    (htime : objects.length ≠ 1 → h.HasTime) : (h.processCTO quality objects).1.HasTime := by
  unfold processCTO
  split
  · exact hquality
  · rename_i hone
    refine htime fun hlength => ?_
    obtain ⟨object, rfl⟩ := List.length_eq_one_iff.mp hlength
    exact hone object rfl

theorem errors_processCTO (h : MeasurementHandler) (quality : TimestampQuality)
    (objects : List (List UInt8)) : (h.processCTO quality objects).2 = .empty := by
  unfold processCTO
  split <;> rfl

theorem processRange_regular (h : MeasurementHandler) {record : HeaderRecord}
    (htaken : record.enumeration.group = 34 ∨ record.enumeration.group ∈ rangeGroups)
    (values : ParsedHeader) :
    (h.processRange record values).2 = .empty ∧
      (h.HasTime → (h.processRange record values).1.HasTime) := by
  unfold processRange
  split
  · exact ⟨rfl, fun htime => hasTime_loadValues htime _ _ _ _⟩
  · rename_i hnot
    rw [if_pos (htaken.resolve_left hnot)]
    exact ⟨rfl, fun htime => hasTime_loadValues htime _ _ _ _⟩

theorem processPrefix_regular (h : MeasurementHandler) {record : HeaderRecord}
    (htaken : record.enumeration.group = 34 ∨ record.enumeration.group ∈ prefixGroups)
    (hrelative : record.enumeration = ⟨2, 3⟩ ∨ record.enumeration = ⟨4, 3⟩ → h.HasTime)
    (values : ParsedHeader) :
    (h.processPrefix record values).2 = .empty ∧
      (h.HasTime → (h.processPrefix record values).1.HasTime) := by
  unfold processPrefix
  split
  · rename_i hgv
    rw [processWithCTO, if_neg (hrelative hgv)]
    exact ⟨rfl, fun htime => hasTime_loadValues htime _ _ _ _⟩
  · split
    · exact ⟨rfl, fun htime => hasTime_loadValues htime _ _ _ _⟩
    · rename_i hnot
      rw [if_pos (htaken.resolve_left hnot)]
      exact ⟨rfl, fun htime => hasTime_loadValues htime _ _ _ _⟩

/-- A regular header is taken, and the handler knows a common time behind it. -/
theorem processHeader_regular {header : ParsedHeader} {hasTime : Bool}
    (htime : hasTime = true → h.HasTime) (hmeasurement : isMeasurement header = true)
    (hrelative : (hasTime || !isRelative header) = true)
    (hattribute : ∀ set variation typeCode payload,
      header ≠ .deviceAttribute set variation typeCode payload) :
    (h.processHeader header).2 = .empty ∧
      ((hasTime || setsCommonTime header) = true → (h.processHeader header).1.HasTime) := by
  cases header with
  | countOf record objects =>
    simp only [processHeader]
    split
    · rename_i hgv
      refine ⟨rfl, fun hhas => hasTime_loadValues (htime ?_) _ _ _ _⟩
      simpa [setsCommonTime, hgv] using hhas
    · rename_i hgv
      refine ⟨errors_processCTO ..,
        fun hhas => hasTime_processCTO (by decide) objects fun hlength => ?_⟩
      exact htime (by simpa [setsCommonTime, hgv, hlength] using hhas)
    · rename_i hgv
      refine ⟨errors_processCTO ..,
        fun hhas => hasTime_processCTO (by decide) objects fun hlength => ?_⟩
      exact htime (by simpa [setsCommonTime, hgv, hlength] using hhas)
    -- no other count of objects is a measurement
    · rename_i h501 h511 h512
      simp only [isMeasurement, Bool.or_eq_true, decide_eq_true_eq] at hmeasurement
      obtain (hgv | hgv) | hgv := hmeasurement
      · exact absurd hgv h501
      · exact absurd hgv h511
      · exact absurd hgv h512
  | rangeOf record range objects =>
    obtain ⟨hempty, hhas⟩ := processRange_regular h
      (by simpa [isMeasurement] using hmeasurement) (.rangeOf record range objects)
    exact ⟨hempty, fun hor => hhas (htime (by simpa [setsCommonTime] using hor))⟩
  | bitsOf record range values =>
    obtain ⟨hempty, hhas⟩ := processRange_regular h
      (by simpa [isMeasurement] using hmeasurement) (.bitsOf record range values)
    exact ⟨hempty, fun hor => hhas (htime (by simpa [setsCommonTime] using hor))⟩
  | indexed record objects =>
    -- a relative time needs a common time before it
    have hneeds : record.enumeration = ⟨2, 3⟩ ∨ record.enumeration = ⟨4, 3⟩ → h.HasTime := by
      intro hgv
      refine htime ?_
      have hrel : isRelative (.indexed record objects) = true := by simpa [isRelative] using hgv
      simpa [hrel] using hrelative
    obtain ⟨hempty, hhas⟩ := processPrefix_regular h (by simpa [isMeasurement] using hmeasurement)
      hneeds (.indexed record objects)
    exact ⟨hempty, fun hor => hhas (htime (by simpa [setsCommonTime] using hor))⟩
  | deviceAttribute set variation typeCode payload => exact absurd rfl (hattribute _ _ _ _)
  | allObjects | count | range | indices | freeFormat => cases hmeasurement

theorem onHeader_regular {header : ParsedHeader} {hasTime : Bool}
    (herrors : h.errors = .empty) (htime : hasTime = true → h.HasTime)
    (hmeasurement : isMeasurement header = true)
    (hrelative : (hasTime || !isRelative header) = true) :
    (h.onHeader header).errors = .empty ∧
      ((hasTime || setsCommonTime header) = true → (h.onHeader header).HasTime) := by
  have htreated := (@treated_processHeader h header).errors
  cases header with
  | deviceAttribute set variation typeCode payload =>
    have hstart : h.checkForTxStart.errors = h.errors := by
      unfold checkForTxStart
      split <;> rfl
    refine ⟨hstart.trans herrors, fun hhas => ?_⟩
    unfold HasTime onHeader onDeviceAttribute
    rw [time_checkForTxStart]
    exact htime (by simpa [setsCommonTime] using hhas)
  | _ =>
    obtain ⟨hempty, hhas⟩ := processHeader_regular htime hmeasurement hrelative nofun
    refine ⟨?_, hhas⟩
    exact or_eq_empty_iff.mpr ⟨htreated.trans herrors, hempty⟩

/-- Regular headers leave no error. -/
theorem foldl_onHeader_regular (headers : List ParsedHeader)
    {hasTime : Bool} (herrors : h.errors = .empty) (htime : hasTime = true → h.HasTime)
    (hregular : regularFrom hasTime headers = true) :
    (headers.foldl onHeader h).errors = .empty := by
  induction headers generalizing h hasTime with
  | nil => exact herrors
  | cons header rest ih =>
    simp only [regularFrom, Bool.and_eq_true] at hregular
    obtain ⟨herrors, htime⟩ := onHeader_regular herrors htime hregular.1.1 hregular.1.2
    exact ih herrors htime hregular.2

/-- **Regular objects are complete**: no header is left out with an error. -/
theorem complete_of_regular {objects : List UInt8} (h : regular objects = true)
    (info : ResponseInfo) : complete info objects = true := by
  unfold regular at h
  unfold complete
  cases hparse : parse .Default isAllowed objects with
  | error result =>
    rw [hparse] at h
    cases h
  | ok headers =>
    rw [hparse] at h
    have hregular : regularFrom false headers = true := h
    refine decide_eq_true (foldl_onHeader_regular headers rfl (fun hfalse => ?_) hregular)
    cases hfalse

end MeasurementHandler

/-! ## What is logged when a response is received -/

variable {ι σ : Type}

section Log

variable [DecidableEq ι] (m : ι)

def soeCall : Action ι → Option SOECall
  | .soe k call => if k = m then some call else none
  | _ => none

/-- The calls of the user's handler by a master. -/
def soeCalls (log : List (Action ι)) : List SOECall := log.filterMap (soeCall m)

theorem mem_soeCalls {log : List (Action ι)} {call : SOECall} (h : .soe m call ∈ log) :
    call ∈ soeCalls m log :=
  List.mem_filterMap.mpr ⟨_, h, by simp [soeCall]⟩

end Log

/-- The action is not about a confirm that is queued. -/
def Action.NoQueue : Action ι → Prop
  | .queueConfirm _ _ => False
  | _ => True

theorem queuedConfirms_eq_nil [DecidableEq ι] {m : ι} {log : List (Action ι)}
    (h : ∀ a ∈ log, a.NoQueue) : queuedConfirms m log = [] := by
  refine List.filterMap_eq_nil_iff.mpr fun a ha => ?_
  have hno := h a ha
  cases a <;> first | rfl | exact absurd hno id

namespace Session

/-- Nothing but actions of one kind has been logged. -/
def Logs (P : Action ι → Prop) (s s' : Session ι σ) : Prop :=
  ∃ new, s'.channel.log = s.channel.log ++ new ∧ ∀ a ∈ new, P a

section Logs

variable {P : Action ι → Prop} {s s' s'' : Session ι σ}

theorem Logs.of_eq (h : s'.channel.log = s.channel.log) : Logs P s s' :=
  ⟨[], by rw [h, List.append_nil], by simp⟩

theorem Logs.trans (h : Logs P s s') (h' : Logs P s' s'') : Logs P s s'' := by
  obtain ⟨new, hlog, hnew⟩ := h
  obtain ⟨more, hlog', hmore⟩ := h'
  refine ⟨new ++ more, by rw [hlog', hlog, List.append_assoc], fun a ha => ?_⟩
  exact (List.mem_append.mp ha).elim (hnew a) (hmore a)

theorem Logs.any (h : Logs P s s') : Logs (fun _ => True) s s' := by
  obtain ⟨new, hlog, -⟩ := h
  exact ⟨new, hlog, fun _ _ => trivial⟩

/-- A confirm is queued, and nothing else of that kind is logged. -/
theorem logs_queueConfirm (s : Session ι σ) (header : APDUHeader) :
    Logs (fun _ => True) s (s.queueConfirm header) := by
  unfold queueConfirm
  obtain ⟨-, heq⟩ | ⟨confirm, rest, -, -, heq⟩ := (s.enqueue header).checkConfirmTransmit_cases
  · rw [heq]
    exact ⟨_, rfl, fun _ _ => trivial⟩
  · rw [heq]
    have henqueue : Logs (fun _ => True) s (s.enqueue header) := ⟨_, rfl, fun _ _ => trivial⟩
    exact henqueue.trans ⟨_, log_sendConfirm _ confirm rest, fun _ _ => trivial⟩

theorem logs_confirmIfAsked (s : Session ι σ) (response : Response) :
    Logs (fun _ => True) s (s.confirmIfAsked response) := by
  unfold confirmIfAsked
  split
  · exact logs_queueConfirm ..
  · exact .of_eq rfl

theorem confirmIfAsked_of_not_con (s : Session ι σ) {response : Response}
    (h : response.header.control.CON = false) : s.confirmIfAsked response = s := by
  simp [confirmIfAsked, h]

end Logs

section Queues

variable [VirtualTask σ] {s s' : Session ι σ}

/-- How a response comes to be confirmed: the calls that the user's handler got before, and who
    made them. -/
inductive Heard (s : Session ι σ) (response : Response) : List SOECall → Prop
  | unsolicited (hfunction : response.header.function = .UNSOLICITED_RESPONSE) :
      Heard s response (MeasurementHandler.processMeasurements (asResponseInfo response.header)
        response.objects).1
  | solicited (t : TaskId ι) (hfunction : response.header.function = .RESPONSE)
      (hactive : s.ctx.activeTask = some t) :
      Heard s response
        (VirtualTask.processResponse (s.channel.objects t).state response s.channel.utc).2.2

/-- What a message adds to the log: a confirm is queued only for a response that asks for one, and
    then the calls that were made for it are in the log as well. -/
def Queues (s : Session ι σ) (message : Message) (s' : Session ι σ) : Prop :=
  Logs Action.NoQueue s s' ∨
    ∃ response calls, parseResponse message.payload = some response ∧
      response.header.control.CON = true ∧ s.Heard response calls ∧
      ∃ new, s'.channel.log = s.channel.log ++ new ∧ ∀ call ∈ calls, .soe s.self call ∈ new

/-- The calls have been logged, and something more. -/
theorem Queues.of_logs {message : Message} {response : Response} {calls : List SOECall}
    (hparse : parseResponse message.payload = some response)
    (hcon : response.header.control.CON = true) (hheard : s.Heard response calls)
    (mid : Session ι σ) (before : List (Action ι))
    (hmid : mid.channel.log = s.channel.log ++ (before ++ calls.map (.soe s.self)))
    (hlogs : Logs (fun _ => True) mid s') : s.Queues message s' := by
  obtain ⟨new, hlog, -⟩ := hlogs
  refine .inr ⟨response, calls, hparse, hcon, hheard,
    before ++ calls.map (.soe s.self) ++ new, by rw [hlog, hmid, List.append_assoc], ?_⟩
  intro call hcall
  refine List.mem_append_left _ (List.mem_append_right _ ?_)
  exact List.mem_map.mpr ⟨call, hcall, rfl⟩

/-- The reception itself is logged first. -/
theorem Queues.receive {message : Message} (header : APDUResponseHeader) (objects : List UInt8)
    (h : (s.act (.receive s.self header objects)).Queues message s') : s.Queues message s' := by
  have hlog : (s.act (.receive s.self header objects)).channel.log =
      s.channel.log ++ [.receive s.self header objects] := rfl
  obtain hlogs | ⟨response, calls, hparse, hcon, hheard, new, hnew, hcalls⟩ := h
  · have hreceive : Logs Action.NoQueue s (s.act (.receive s.self header objects)) :=
      ⟨_, hlog, by simp [Action.NoQueue]⟩
    exact .inl (hreceive.trans hlogs)
  · refine .inr ⟨response, calls, hparse, hcon, ?_, .receive s.self header objects :: new, ?_,
      fun call hcall => List.mem_cons_of_mem _ (hcalls call hcall)⟩
    · cases hheard with
      | unsolicited hfunction => exact .unsolicited hfunction
      | solicited t hfunction hactive => exact .solicited t hfunction hactive
    · rw [hnew, hlog, List.append_assoc, List.singleton_append]

end Queues

theorem not_brings_check (m : ι) (response : Response) :
    ¬Input.Brings (.checkForTaskRun : Input ι σ) m response := by
  rintro ⟨message, hi, -⟩
  cases hi

variable [DecidableEq ι] [VirtualTask σ] {s s' : Session ι σ} {i : Input ι σ}

/-- Without a response, no confirm is queued. -/
theorem Move.noQueue (h : Move i s s') (hi : ∀ response, ¬i.Brings s.self response) :
    Logs Action.NoQueue s s' := by
  cases h with
  | receive response hbrings | queue response hbrings | goOn t response state calls hbrings
  | again t response state calls hbrings | done t response state calls result completion hbrings =>
    exact absurd hbrings (hi response)
  | soe | receiveIIN | txDone => exact ⟨_, rfl, by simp [Action.NoQueue]⟩
  | demand tasks => exact .of_eq (log_evaluate tasks)
  | sendConfirm confirm rest => exact ⟨_, log_sendConfirm s confirm rest, by simp [Action.NoQueue]⟩
  | request t state apdu => exact ⟨_, log_transmit_built s t state apdu, by simp [Action.NoQueue]⟩
  | requestOnly t state apdu =>
    exact ⟨_, (log_finished _).trans (log_transmit_built s t state apdu),
      by simp [Action.NoQueue]⟩
  | formatError t state apdu =>
    exact ⟨_, (log_finished _).trans (log_completeTask_built s t state apdu _),
      by simp [Action.NoQueue]⟩
  | timeout t => exact ⟨_, log_finished _, by simp [Action.NoQueue]⟩
  | up => exact ⟨_, log_opened s, by simp [Action.NoQueue]⟩
  | bind u => exact (makes_scheduleRecurringPollTask s u).log trivial
  | adhoc u => exact (makes_scheduleAdhocTask s u).log trivial

theorem Moves.noQueue (h : Moves i s s') (hi : ∀ m response, ¬i.Brings m response) :
    Logs Action.NoQueue s s' := by
  induction h with
  | refl => exact .of_eq rfl
  | tail _ hmove ih => exact ih.trans (hmove.noQueue (hi _))

/-- The indications queue nothing. -/
theorem noQueue_processIIN (s : Session ι σ) (iin : IINField) :
    Logs Action.NoQueue s (s.processIIN iin) :=
  Moves.noQueue (i := .checkForTaskRun) (moves_processIIN s iin) not_brings_check

/-- The next request queues nothing. -/
theorem noQueue_startTaskTaskReady {t : TaskId ι} (hactive : s.ctx.activeTask = some t) :
    Logs Action.NoQueue s (assign s.startTaskTaskReady) := by
  unfold startTaskTaskReady
  split
  · exact .of_eq rfl
  · rename_i hidle
    have hmove : Move .checkForTaskRun (assign (s, .TASK_READY))
        (assign (assign (s, .TASK_READY)).resumeActiveTask) :=
      move_resumeActiveTask hactive rfl (by simpa [assign] using hidle)
    rw [resumeActiveTask_assign hactive] at hmove
    exact hmove.noQueue (not_brings_check _)

variable {response : Response}

/-- The response of the active task: what is logged after the calls of the user's handler is a
    confirm only if the response asks for one. -/
theorem logs_onResponseWaitForResponse {t : TaskId ι} {state : σ}
    {result : ResponseResult} {calls : List SOECall} (hactive : s.ctx.activeTask = some t)
    (hseq : response.header.control.SEQ = s.ctx.solSeq)
    (hprocess : VirtualTask.processResponse (s.channel.objects t).state response s.channel.utc =
      (state, result, calls)) {P : Action ι → Prop}
    (hP : ∀ a : Action ι, a.NoQueue → P a)
    (hconfirm : ∀ s' : Session ι σ, Logs P s' (s'.confirmIfAsked response)) :
    Logs P (s.answered t response state calls)
      (assign (s.onResponseWaitForResponse response)) := by
  have hmono : ∀ {s' s'' : Session ι σ}, Logs Action.NoQueue s' s'' → Logs P s' s'' := by
    rintro s' s'' ⟨new, hlog, hnew⟩
    exact ⟨new, hlog, fun a ha => hP a (hnew a ha)⟩
  -- the two ends of a task differ in the result that is reported
  have hdone : ∀ completion, Logs P (s.answered t response state calls)
      (((s.answered t response state calls).completeTask t completion).confirmIfAsked
        response).finished := by
    intro completion
    have hcomplete : Logs P (s.answered t response state calls)
        ((s.answered t response state calls).completeTask t completion) :=
      ⟨[.onComplete t completion], rfl, fun a ha => hP a (by simp_all [Action.NoQueue])⟩
    exact hcomplete.trans ((hconfirm _).trans (.of_eq (log_finished _)))
  rw [onResponseWaitForResponse_eq hactive hseq hprocess]
  cases result with
  | OK_CONTINUE => exact hconfirm _
  | OK_REPEAT =>
    refine (hconfirm _).trans (hmono (noQueue_startTaskTaskReady (t := t) ?_))
    exact (ctx_confirmIfAsked ..).2.trans hactive
  | OK_FINAL => exact hdone .SUCCESS
  | ERROR_BAD_RESPONSE => exact hdone .FAILURE_BAD_RESPONSE

theorem queues_processUnsolicitedResponse {message : Message}
    (hparse : parseResponse message.payload = some response)
    (hfunction : response.header.function = .UNSOLICITED_RESPONSE) :
    s.Queues message (s.processUnsolicitedResponse response) := by
  unfold processUnsolicitedResponse
  split
  · exact .inl (.of_eq rfl)
  have hheard : s.Heard response _ := .unsolicited hfunction
  generalize MeasurementHandler.processMeasurements (asResponseInfo response.header)
    response.objects = measurements at hheard
  obtain ⟨calls, result⟩ := measurements
  dsimp only at hheard ⊢
  split
  · rename_i hconfirm
    simp only [Bool.and_eq_true] at hconfirm
    refine .of_logs hparse hconfirm.2 hheard (s.callSOE calls) [] rfl ?_
    exact (logs_queueConfirm ..).trans (noQueue_processIIN ..).any
  · have hcalls : Logs Action.NoQueue s (s.callSOE calls) := ⟨_, rfl, by simp [Action.NoQueue]⟩
    exact .inl (hcalls.trans (noQueue_processIIN ..))

theorem queues_processResponse {message : Message}
    (hparse : parseResponse message.payload = some response)
    (hfunction : response.header.function = .RESPONSE) (hbusy : s.Busy) :
    s.Queues message (s.processResponse response) := by
  -- a response that no task is waiting for is not confirmed
  have hignored : ∀ tstate, s.Queues message
      ((assign (s, tstate)).processIIN response.header.IIN) := by
    intro tstate
    have hassign : Logs Action.NoQueue s (assign (s, tstate)) := .of_eq rfl
    exact .inl (hassign.trans (noQueue_processIIN ..))
  unfold processResponse onResponseEvent
  cases hstate : s.ctx.tstate with
  | IDLE | TASK_READY => exact hignored _
  | WAIT_FOR_RESPONSE =>
    obtain ⟨t, hactive⟩ := hbusy (by rw [hstate]; nofun)
    by_cases hseq : response.header.control.SEQ = s.ctx.solSeq
    swap
    · unfold onResponseWaitForResponse
      rw [if_pos hseq]
      exact hignored _
    cases hprocess : VirtualTask.processResponse (s.channel.objects t).state response
        s.channel.utc with
    | mk state rest =>
      obtain ⟨result, calls⟩ := rest
      have hanswered := log_answered s t response state calls
      have hIIN := noQueue_processIIN (assign (s.onResponseWaitForResponse response))
        response.header.IIN
      cases hcon : response.header.control.CON with
      | false =>
        have hasked : Logs Action.NoQueue s (s.answered t response state calls) := by
          refine ⟨_, hanswered, ?_⟩
          simp [Action.NoQueue]
        have hlogs := logs_onResponseWaitForResponse hactive hseq hprocess
          (P := Action.NoQueue) (fun _ h => h) fun s' => by
            rw [confirmIfAsked_of_not_con s' hcon]
            exact .of_eq rfl
        exact .inl (hasked.trans (hlogs.trans hIIN))
      | true =>
        have hheard : s.Heard response _ := .solicited t hfunction hactive
        rw [hprocess] at hheard
        have hlogs := logs_onResponseWaitForResponse hactive hseq hprocess
          (P := fun _ => True) (fun _ _ => trivial) fun s' => logs_confirmIfAsked s' response
        exact .of_logs hparse hcon hheard _ [.onResponse s.self t response] hanswered
          (hlogs.trans hIIN.any)

/-- **Which responses are confirmed.** -/
theorem queued_onReceive (s : Session ι σ) (message : Message) (hbusy : s.Busy) :
    s.Queues message (s.onReceive message) := by
  unfold onReceive
  split
  · exact .inl (.of_eq rfl)
  split
  · exact .inl (.of_eq rfl)
  split
  · exact .inl (.of_eq rfl)
  split
  · exact .inl (.of_eq rfl)
  rename_i response hparse
  refine Queues.receive response.header response.objects ?_
  unfold processAPDU
  split
  · rename_i hfunction
    exact queues_processUnsolicitedResponse hparse hfunction
  · rename_i hfunction
    exact queues_processResponse hparse hfunction hbusy
  · exact .inl (.of_eq rfl)

end Session

/-! ## Runs -/

/-- The objects parse to the end, and the user got every header but the common times. -/
def Delivered (objects : List UInt8) (calls : List SOECall) : Prop :=
  ∃ headers, parse .Default MeasurementHandler.isAllowed objects = .ok headers ∧
    ∀ header ∈ headers, MeasurementHandler.isCommonTime header = true ∨
      MeasurementHandler.Handed calls header

instance (objects : List UInt8) (calls : List SOECall) : Decidable (Delivered objects calls) :=
  match h : parse .Default MeasurementHandler.isAllowed objects with
  | .error _ => .isFalse fun ⟨_, hok, _⟩ => by rw [h] at hok; cases hok
  | .ok headers =>
    decidable_of_iff (∀ header ∈ headers, MeasurementHandler.isCommonTime header = true ∨
      MeasurementHandler.Handed calls header) (by simp [Delivered, h])

theorem Delivered.of_regular {objects : List UInt8} (h : MeasurementHandler.regular objects = true)
    (info : ResponseInfo) {calls : List SOECall}
    (hcalls : (MeasurementHandler.processMeasurements info objects).1 ⊆ calls) :
    Delivered objects calls := by
  obtain ⟨headers, hparse, hall⟩ :=
    MeasurementHandler.handed_of_complete (MeasurementHandler.complete_of_regular h info)
  refine ⟨headers, hparse, fun header hheader => ?_⟩
  obtain hcommon | hhanded := hall header hheader
  · exact .inl hcommon
  · exact .inr (hhanded.mono hcalls)

/-- A fragment in its place is looked at. -/
theorem PollTask.calls_of_expected {p : PollTask} {response : Response}
    (h : response.header.control.FIR = true ↔ p.rxCount = 0) :
    (p.processResponse response).2.2 = (MeasurementHandler.processMeasurements
      (asResponseInfo response.header) response.objects).1 := by
  have hexpected : p.processResponse response = p.processMeasurements response := by
    unfold processResponse
    split
    · rename_i hfir
      rw [h.mp hfir]
      rfl
    · rename_i hfir
      have hpos : p.rxCount > 0 := by
        have hne : p.rxCount ≠ 0 := fun hzero => hfir (h.mpr hzero)
        exact UInt32.pos_iff_ne_zero.mpr hne
      rw [if_pos hpos]
  rw [hexpected]
  rfl

namespace World

variable {τ : Type} [VirtualTask τ]

/-- The master has an active poll. -/
def Polling (s : Session ι (Task τ)) (p : PollTask) : Prop :=
  ∃ t, s.ctx.activeTask = some t ∧ (s.channel.objects t).state = .poll p

/-- The objects of the response parse, the master knows all of them, and relative times follow a
    common time; a response to a poll is the first fragment exactly if it says so. -/
structure WellFormed (s : Session ι (Task τ)) (response : Response) : Prop where
  objects : MeasurementHandler.regular response.objects = true
  fir : ∀ p, response.header.function = .RESPONSE → Polling s p →
    (response.header.control.FIR = true ↔ p.rxCount = 0)

/-- What was heard is delivered, if the response is well formed. -/
theorem delivered_of_heard {s : Session ι (Task τ)} {response : Response} {calls all : List SOECall}
    (hwell : WellFormed s response) (hheard : s.Heard response calls)
    (hcalls : calls ⊆ all)
    (hkind : response.header.function = .UNSOLICITED_RESPONSE ∨ ∃ p, Polling s p) :
    Delivered response.objects all := by
  cases hheard with
  | unsolicited hfunction => exact .of_regular hwell.objects _ hcalls
  | solicited t hfunction hactive =>
    obtain hunsolicited | ⟨p, t', hactive', hpoll⟩ := hkind
    · rw [hfunction] at hunsolicited
      cases hunsolicited
    · obtain rfl : t = t' := Option.some.inj (hactive.symm.trans hactive')
      have hfir := hwell.fir p hfunction ⟨t, hactive, hpoll⟩
      refine .of_regular hwell.objects (asResponseInfo response.header) ?_
      rw [← PollTask.calls_of_expected hfir]
      rw [hpoll] at hcalls
      exact hcalls

variable [DecidableEq ι]

/-- A master queues a confirm only when it receives a response. -/
theorem queued_eq_nil [VirtualTask σ] {w : World ι σ} (hw : w.Owned) {i : Input ι σ} {m : ι}
    (hi : ∀ response, ¬i.Brings m response) :
    ∃ new, (w.step i).channel.log = w.channel.log ++ new ∧ queuedConfirms m new = [] := by
  have hall := sessions_step (i := i) (P := fun s => s.self = m → ∃ new,
    s.channel.log = w.channel.log ++ new ∧ queuedConfirms m new = []) hw
    (fun _ _ => ⟨[], (List.append_nil _).symm, rfl⟩) ?_ ?_ ?_
  · exact hall m rfl
  -- a move of this master brings no response, so it asks for no confirm
  · rintro s s' - hs hmove hself
    have hself : s.self = m := hmove.self.symm.trans hself
    obtain ⟨new, hlog, hnew⟩ := hs hself
    obtain ⟨more, hlog', hmore⟩ := hmove.noQueue (by rw [hself]; exact hi)
    refine ⟨new ++ more, by rw [hlog', hlog, List.append_assoc], ?_⟩
    rw [queuedConfirms_append, hnew, queuedConfirms_eq_nil hmore]
    rfl
  -- the confirms of other masters do not count
  · intro s s' hs helse hself
    have hself : s.self = m := helse.self.symm.trans hself
    obtain ⟨new, hlog, hnew⟩ := hs hself
    obtain ⟨more, hlog', hmore⟩ := helse.log
    refine ⟨new ++ more, by rw [hlog', hlog, List.append_assoc], ?_⟩
    have hnone : queuedConfirms m more = [] := by
      refine List.filterMap_eq_nil_iff.mpr fun a ha => ?_
      have hmaster := hmore a ha
      rw [hself] at hmaster
      cases a with
      | queueConfirm k header =>
        have hk : k ≠ m := fun hk => hmaster (by rw [hk]; rfl)
        simp [queuedConfirm, hk]
      | _ => rfl
    rw [queuedConfirms_append, hnew, hnone]
    rfl
  · intro k _ _ _
    refine ⟨_, Session.log_closed (w.session k), queuedConfirms_eq_nil fun a ha => ?_⟩
    obtain ⟨r, -, rfl⟩ | rfl := Channel.mem_closing _ ha <;> trivial

/-- **A confirm says that the measurements have been delivered.**  In every state that any run
    reaches, and for every next step in which the master receives only well-formed responses that
    ask for a confirm: what a master sends is what it has queued, in that order, and it queues a
    confirm only for a response that it receives in that step; if that is an unsolicited response or
    the master has an active poll, the objects of the response parse to the end and the user has got
    every header of measurements in this step. -/
theorem confirm_delivered (setup : Setup ι (Task τ)) (now : Timestamp)
    (inputs : List (Input ι (Task τ))) (i : Input ι (Task τ)) (m : ι)
    (hwell : ∀ response, i.Brings m response → response.header.control.CON = true →
      WellFormed ((Lib.run step (init setup now) inputs).session m) response) :
    let w := Lib.run step (init setup now) inputs
    let new := (w.step i).channel.log.drop w.channel.log.length
    (∃ waiting, queuedConfirms m (w.step i).channel.log =
      transmittedConfirms m (w.step i).channel.log ++ waiting) ∧
    (queuedConfirms m new ≠ [] → ∃ response, i.Brings m response ∧
      ((response.header.function = .UNSOLICITED_RESPONSE ∨ ∃ p, Polling (w.session m) p) →
        Delivered response.objects (soeCalls m new))) := by
  intro w new
  have hinvariant := Lib.invariant_run
    (P := fun w : World ι (Task τ) => w.Owned ∧ ∀ m, (w.session m).InFlight)
    (fun w i h => ⟨h.1.step i, inFlight_step h.1 h.2 i⟩)
    ⟨owned_init setup now, inFlight_init setup now⟩ inputs
  have hw : w.Owned ∧ ∀ m, (w.session m).InFlight := hinvariant
  refine ⟨⟨_, (inFlight_step hw.1 hw.2 i m).queue⟩, fun hqueued => ?_⟩
  -- only a message for this master can make it queue a confirm
  by_cases hi : ∃ message, i = .onReceive m message
  · obtain ⟨message, rfl⟩ := hi
    have hlog : (w.step (.onReceive m message)).channel.log =
        ((w.session m).onReceive message).channel.log := rfl
    obtain ⟨all, hall, hno⟩ | ⟨response, calls, hparse, hcon, hheard, all, hall, hcalls⟩ :=
      (w.session m).queued_onReceive message (hw.1 m).toBusy
    · have hnew : new = all := by
        change ((w.session m).onReceive message).channel.log.drop w.channel.log.length = all
        rw [hall]
        exact List.drop_left
      rw [hnew, queuedConfirms_eq_nil hno] at hqueued
      exact absurd rfl hqueued
    · have hnew : new = all := by
        change ((w.session m).onReceive message).channel.log.drop w.channel.log.length = all
        rw [hall]
        exact List.drop_left
      refine ⟨response, ⟨message, rfl, hparse⟩, fun hkind => ?_⟩
      refine delivered_of_heard (hwell response ⟨message, rfl, hparse⟩ hcon) hheard ?_ hkind
      intro call hcall
      rw [hnew]
      exact mem_soeCalls m (hcalls call hcall)
  · obtain ⟨all, hall, hnone⟩ := queued_eq_nil hw.1 (i := i) (m := m) (by
      rintro response ⟨message, hmessage, -⟩
      exact hi ⟨message, hmessage⟩)
    have hnew : new = all := by
      change (w.step i).channel.log.drop w.channel.log.length = all
      rw [hall, List.drop_left]
    rw [hnew, hnone] at hqueued
    exact absurd rfl hqueued

/-- An unsolicited response with one binary input is confirmed, and the user has got it. -/
theorem confirm_delivered_binary :
    Delivered [2, 1, 0x17, 1, 7, 0x81]
      (soeCalls () ((Lib.run step (init Single.setup 0) [.onLowerLayerUp ()]).step
        (Single.message [0xF0, 0x82, 0, 0, 2, 1, 0x17, 1, 7, 0x81])).channel.log) := by
  obtain ⟨response, ⟨message, hmessage, hparse⟩, hdelivered⟩ :=
    (confirm_delivered Single.setup 0 [.onLowerLayerUp ()]
      (Single.message [0xF0, 0x82, 0, 0, 2, 1, 0x17, 1, 7, 0x81]) () (by
        rintro response ⟨message, hmessage, hparse⟩ -
        cases hmessage
        cases hparse
        exact ⟨by decide +kernel, fun _ hfunction => by cases hfunction⟩)).2 (by decide +kernel)
  cases hmessage
  cases hparse
  exact hdelivered (.inl rfl)

/-- A response to a poll whose objects do not parse is confirmed; and so is an unsolicited response
    with a relative time but no common time, of which the user gets nothing. -/
theorem confirm_not_delivered :
    (let w := Lib.run step (init Single.setup 0)
        [.onLowerLayerUp (), .checkForTaskRun, .onTxReady ()]
      let new := (w.step (Single.message [0xE0, 0x81, 0, 0, 0xFF])).channel.log.drop
        w.channel.log.length
      queuedConfirms () new = [solicitedConfirm 0] ∧
        (w.masters ()).activeTask = some (.own () .startupIntegrity) ∧
        ¬Delivered [0xFF] (soeCalls () new)) ∧
    (let w := Lib.run step (init Single.setup 0) [.onLowerLayerUp ()]
      let new := (w.step (Single.message
        [0xF0, 0x82, 0, 0, 2, 3, 0x17, 1, 7, 0x81, 0x10, 0x00])).channel.log.drop
          w.channel.log.length
      queuedConfirms () new = [unsolicitedConfirm 0] ∧
        ¬Delivered [2, 3, 0x17, 1, 7, 0x81, 0x10, 0x00] (soeCalls () new)) := by
  decide +kernel

end World

end OpenDnp3.Master
