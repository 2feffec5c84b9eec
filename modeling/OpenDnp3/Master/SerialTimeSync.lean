import OpenDnp3.App.HeaderBytes
import OpenDnp3.Master.Tasks

/-!
# Setting the time over a serial line

`SerialTimeSyncTask` asks the outstation how long it takes to turn a message around, takes that
off the time between the request and the response, and adds half of the rest to the time it
writes.  The clock readings are unsigned 64-bit numbers, so a clock that is set back during the
measurement gives a time of almost 2^64 ms.  Half of it is no negative number, the task goes on,
and the 48 bits that are written lie before the master's clock.
-/

namespace OpenDnp3.Master

open App Lib

namespace SerialTimeSyncTask

/-! ## Runs -/

/-- What the task waits for: to be started, to be transmitted, or a response. -/
inductive Phase where
  | idle
  | ready
  | waiting
  deriving DecidableEq, Repr

/-- The requests that were built and the responses that were taken, with the clock readings. -/
inductive Entry where
  | measureDelay (now : Nat)
  | measured (now rtuTurnAroundTime : Nat)
  | writeTime (now time : Nat)
  deriving DecidableEq, Repr

structure Session where
  task : SerialTimeSyncTask
  phase : Phase
  log : List Entry

/-- The task is started, its request is built, a response comes, or a timeout or the channel
    ends it. -/
inductive Event where
  | onStart
  | transmit (seq : Fin 16) (size now : Nat)
  | onResponse (response : Response) (now : Nat)
  | onEnd

/-- The clock readings are below 2^47 ms. -/
def Event.Below : Event → Prop
  | .transmit _ _ now | .onResponse _ now => now < 2 ^ 47
  | _ => True

/-- The time in a request with a `Group50Var1` object. -/
def timeOf (request : List UInt8) : Option Nat :=
  match request.drop 2 with
  | [50, 1, 0x07, 1, b0, b1, b2, b3, b4, b5] => some (decodeLE [b0, b1, b2, b3, b4, b5])
  | _ => none

namespace Session

/-- The task as it is constructed. -/
def init : Session := ⟨⟨-1, 0⟩, .idle, []⟩

def transmit (s : Session) (seq : Fin 16) (size now : Nat) : Session :=
  let (task, _, request) := s.task.buildRequest seq size now
  let entries :=
    if s.task.delay < 0 then [.measureDelay now]
    else (timeOf request).toList.map (.writeTime now)
  ⟨task, .waiting, s.log ++ entries⟩

/-- A response after which the cycle is repeated was a measurement. -/
def onResponse (s : Session) (response : Response) (now : Nat) : Session :=
  match s.task.processResponse response now with
  | (task, .OK_REPEAT) =>
    ⟨task, .ready, s.log ++ (getTimeDelay response.objects).toList.map (.measured now)⟩
  | (task, _) => ⟨task, .idle, s.log⟩

def step (s : Session) : Event → Session
  | .onStart => ⟨s.task.initialized, .ready, s.log⟩
  | .transmit seq size now => if s.phase = .ready then s.transmit seq size now else s
  | .onResponse response now => if s.phase = .waiting then s.onResponse response now else s
  | .onEnd => { s with phase := .idle }

end Session

/-! ## What is required -/

/-- The last measurement: the clock at the request, and at the response with the turnaround. -/
def exchange (log : List Entry) : Option (Nat × Option (Nat × Nat)) :=
  log.foldl (fun last entry =>
    match entry with
    | .measureDelay now => some (now, none)
    | .measured now rtu => last.map fun (sent, _) => (sent, some (now, rtu))
    | .writeTime _ _ => last) none

/-- **The time is the master's clock and a delay** of no more than half of the time between
    request and response, and of nothing if that time is negative or shorter than the
    turnaround. -/
def Timely (sent received rtu now time : Nat) : Prop :=
  ∃ d, time = now + d ∧
    if (received : Int) - sent < rtu then d = 0 else 2 * (d : Int) ≤ received - sent

/-- A WRITE comes behind a measurement with a turnaround of 16 bits, and its time is right exactly
    if the clock had not been set back between the request and the response of the measurement. -/
def TimelyIff (past : List Entry) : Entry → Prop
  | .writeTime now time => ∃ sent received rtu,
      exchange past = some (sent, some (received, rtu)) ∧
        (rtu < 2 ^ 16 → (Timely sent received rtu now time ↔ sent ≤ received))
  | _ => True

/-! ## What is written -/

/-- The delay from the clock readings at the request and at the response. -/
def delayOf (sent received rtu : Nat) : Nat :=
  let sendReceiveTime := (received + 2 ^ 64 - sent) % 2 ^ 64
  if rtu ≤ sendReceiveTime then (sendReceiveTime - rtu) / 2 else 0

/-- **One exchange**: the 48 bits of the time are right exactly if the clock is not set back. -/
theorem timely_iff {sent received rtu now : Nat} (hsent : sent < 2 ^ 47)
    (hreceived : received < 2 ^ 47) (hnow : now < 2 ^ 47) (hrtu : rtu < 2 ^ 16) :
    Timely sent received rtu now ((now + delayOf sent received rtu) % 2 ^ 64 % 2 ^ 48) ↔
      sent ≤ received := by
  unfold Timely delayOf
  constructor
  · rintro ⟨d, hd, hbound⟩
    by_contra hback
    -- the difference wraps around: its half is 2^63 less some time, which the 48 bits lose
    rw [if_pos (by omega)] at hbound
    rw [if_pos (by omega)] at hd
    omega
  · intro hle
    have hdiff : (received + 2 ^ 64 - sent) % 2 ^ 64 = received - sent := by omega
    rw [hdiff]
    dsimp only
    split
    · refine ⟨(received - sent - rtu) / 2, by omega, ?_⟩
      rw [if_neg (by omega)]
      omega
    · refine ⟨0, by omega, ?_⟩
      rw [if_pos (by omega)]

/-- The WRITE has the six bytes of the time behind its header, if it has room for them. -/
theorem timeOf_writeTime (seq : Fin 16) (size n : Nat) {time : Nat}
    (h : timeOf (formatRequest .WRITE seq size (HeaderBuilder.ofOption
      (·.writeSingleValue ⟨50, 1⟩ (encodeLE 6 n)))).2 = some time) : time = n % 2 ^ 48 := by
  unfold formatRequest HeaderBuilder.ofOption at h
  dsimp only at h
  generalize hw : HeaderWriter.put ⟨List.replicate size 0, 0⟩
    [(AppControlField.request seq).toByte, FunctionCode.WRITE.toType] = w at h
  have hposition : w.position = 2 := by rw [← hw]; rfl
  cases hvalue : w.writeSingleValue ⟨50, 1⟩ (encodeLE 6 n) with
  | none =>
    rw [hvalue] at h
    have hnil : (w.buffer.take w.position).drop 2 = [] := by simp [hposition]
    simp [timeOf, hnil] at h
  | some w' =>
    rw [hvalue] at h
    -- a writer without room would have written nothing
    have hroom : w.position ≤ w.buffer.length := by
      by_contra hshort
      have hzero : w.remaining = 0 := by simp only [HeaderWriter.remaining]; omega
      simp [HeaderWriter.writeSingleValue, HeaderWriter.writeHeaderWithReserve, hzero] at hvalue
    have happends := HeaderWriter.writeSingleValue_eq_some hroom hvalue
    have hbytes : (w'.buffer.take w'.position).drop 2 =
        headerBytes ⟨50, 1⟩ .UINT8_CNT ++ (1 :: encodeLE 6 n) := by
      rw [happends.take]
      exact List.drop_left' (by rw [List.length_take]; omega)
    simp only [timeOf, hbytes] at h
    have hdecode := decodeLE_encodeLE 6 n
    exact (Option.some.inj h).symm.trans hdecode

/-- What is known between two events. -/
structure Session.Sound (s : Session) : Prop where
  times : Justified TimelyIff s.log
  below : ∀ sent answer, exchange s.log = some (sent, answer) → sent < 2 ^ 47
  /-- A request for the delay is outstanding. -/
  measuring : s.phase = .waiting → s.task.delay < 0 →
    ∃ answer, exchange s.log = some (s.task.start, answer)
  /-- The delay is that of the last measurement. -/
  measured : 0 ≤ s.task.delay → ∃ sent received rtu,
    exchange s.log = some (sent, some (received, rtu)) ∧ received < 2 ^ 47 ∧
      s.task.delay = delayOf sent received rtu

theorem exchange_concat (log : List Entry) (entry : Entry) :
    exchange (log ++ [entry]) = match entry with
      | .measureDelay now => some (now, none)
      | .measured now rtu => (exchange log).map fun (sent, _) => (sent, some (now, rtu))
      | .writeTime _ _ => exchange log := by
  simp [exchange]

variable {s : Session}

theorem Session.Sound.transmit (hs : s.Sound) (seq : Fin 16) (size : Nat) {now : Nat}
    (hnow : now < 2 ^ 47) : (s.transmit seq size now).Sound := by
  unfold Session.transmit buildRequest
  by_cases hdelay : s.task.delay < 0
  · rw [if_pos hdelay]
    simp only [hdelay, if_true]
    exact ⟨hs.times.concat trivial, by simpa [exchange_concat] using hnow,
      by simp [exchange_concat], fun hpos => absurd hdelay (by dsimp only at hpos; omega)⟩
  · obtain ⟨sent, received, rtu, hexchange, hreceived, heq⟩ := hs.measured (by omega)
    rw [if_neg hdelay]
    simp only [hdelay, if_false]
    cases htime : timeOf (formatRequest .WRITE seq size (HeaderBuilder.ofOption
        (·.writeSingleValue ⟨50, 1⟩ (encodeLE 6 ((now + s.task.delay.toNat) % 2 ^ 64))))).2 with
    | none =>
      rw [Option.toList_none, List.map_nil, List.append_nil]
      exact ⟨hs.times, hs.below, fun _ hneg => absurd hneg hdelay, hs.measured⟩
    | some time =>
      have hvalue := timeOf_writeTime seq size _ htime
      rw [heq, Int.toNat_natCast] at hvalue
      have hiff : rtu < 2 ^ 16 → (Timely sent received rtu now time ↔ sent ≤ received) := by
        rw [hvalue]
        exact timely_iff (hs.below _ _ hexchange) hreceived hnow
      refine ⟨hs.times.concat ⟨sent, received, rtu, hexchange, hiff⟩, ?_,
        fun _ hneg => absurd hneg hdelay, ?_⟩
      · simpa [exchange_concat] using hs.below
      · simpa [exchange_concat] using hs.measured

theorem Session.Sound.onResponse (hs : s.Sound) (hphase : s.phase = .waiting)
    (response : Response) {now : Nat} (hnow : now < 2 ^ 47) : (s.onResponse response now).Sound := by
  -- whatever does not measure keeps the task and the log
  have hsame : ∀ phase, phase ≠ .waiting → Session.Sound ⟨s.task, phase, s.log⟩ := fun phase hne =>
    ⟨hs.times, hs.below, fun hwaiting => absurd hwaiting hne, hs.measured⟩
  unfold Session.onResponse processResponse onResponseDelayMeas
  by_cases hdelay : s.task.delay < 0
  · rw [if_pos hdelay]
    split_ifs
    · cases htime : getTimeDelay response.objects with
      | none => exact hsame .idle (by decide)
      | some rtu =>
        obtain ⟨answer, hexchange⟩ := hs.measuring hphase hdelay
        have hlast : exchange (s.log ++ [.measured now rtu]) =
            some (s.task.start, some (now, rtu)) := by simp [exchange_concat, hexchange]
        have hstart := hs.below _ _ hexchange
        refine ⟨hs.times.concat trivial, ?_, fun hwaiting => (nomatch hwaiting), fun _ =>
          ⟨s.task.start, now, rtu, hlast, hnow, rfl⟩⟩
        intro sent answer' hsent
        simp_all
    · exact hsame .idle (by decide)
  · rw [if_neg hdelay]
    unfold nullResponseResult
    split_ifs <;> exact hsame .idle (by decide)

theorem Session.Sound.step (hs : s.Sound) {event : Event} (hevent : event.Below) :
    (s.step event).Sound := by
  cases event with
  | onStart =>
    exact ⟨hs.times, hs.below, fun hwaiting => (nomatch hwaiting), fun hpos => (nomatch hpos)⟩
  | transmit seq size now =>
    unfold Session.step
    dsimp only
    split_ifs
    · exact hs.transmit seq size hevent
    · exact hs
  | onResponse response now =>
    unfold Session.step
    dsimp only
    split_ifs with hphase
    · exact hs.onResponse hphase response hevent
    · exact hs
  | onEnd => exact ⟨hs.times, hs.below, fun hwaiting => (nomatch hwaiting), hs.measured⟩

theorem Session.sound_init : Session.init.Sound :=
  ⟨justified_nil, by simp [Session.init, exchange], fun hwaiting => (nomatch hwaiting),
    fun hpos => (nomatch hpos)⟩

/-- **Every time that is written in a run of the task** is right exactly if the clock had not been
    set back during the measurement before it. -/
theorem times_written_iff (events : List Event)
    (hbelow : Along Session.step (fun _ event => event.Below) .init events) :
    Justified TimelyIff (run Session.step .init events).log := by
  have hsound : Always Session.step Session.Sound .init events :=
    always_of_step (fun _ _ hs hevent => hs.step hevent) Session.sound_init hbelow
  exact hsound.last.times

/-- A response to DELAY_MEASURE with a turnaround of 4 ms. -/
def delayResponse : Response :=
  ⟨⟨⟨⟨true, true, false, false, 0⟩, .RESPONSE⟩, .empty⟩, [52, 2, 0x07, 1, 4, 0]⟩

/-- One synchronisation with the three readings of the clock. -/
def synchronised (sent received now : Nat) : List Event :=
  [.onStart, .transmit 0 249 sent, .onResponse delayResponse received, .transmit 1 249 now]

theorem times_written_iff_steady :
    (run Session.step .init (synchronised 1000 1014 1020)).log =
        [.measureDelay 1000, .measured 1014 4, .writeTime 1020 1025] ∧
      Justified TimelyIff (run Session.step .init (synchronised 1000 1014 1020)).log :=
  ⟨by decide +kernel, times_written_iff _ ⟨trivial, (by decide : 1000 < 2 ^ 47),
    (by decide : 1014 < 2 ^ 47), (by decide : 1020 < 2 ^ 47), trivial⟩⟩

/-- The clock is set back by 10 ms during the measurement: the time that is written lies 7 ms
    before the master's clock. -/
theorem times_written_set_back :
    (run Session.step .init (synchronised 1000 990 995)).log =
        [.measureDelay 1000, .measured 990 4, .writeTime 995 988] ∧
      ¬ Timely 1000 990 4 995 988 := by
  refine ⟨by decide +kernel, ?_⟩
  rintro ⟨d, hd, -⟩
  omega

end SerialTimeSyncTask

end OpenDnp3.Master
