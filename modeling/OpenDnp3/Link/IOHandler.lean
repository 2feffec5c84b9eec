import OpenDnp3.Lib.Machine
import OpenDnp3.Link.Header

/-!
# Sessions that share a channel

`IOHandler` hands the frames of any number of link sessions to one channel, one after the other,
and tells a session when its frame has been written.  The queue belongs to the channel: it is
cleared when the channel is closed, but not when a session goes offline.  A session that is
disabled and enabled again while its frame is being written is told that the frame is complete,
which it takes for a frame that it has sent since.

A session is called back while the handler is at work, and may transmit at once.  What it
transmits is part of the input.  The parser, the statistics and the listener are left out.
-/

namespace OpenDnp3.Link

open Lib

/-! ## The handler -/

namespace IOHandler

structure Session (ι : Type) where
  session : ι
  addresses : Addresses
  enabled : Bool
  online : Bool
  deriving DecidableEq, Repr

/-- A frame in the queue.  The number tells the transmissions apart; the code has none. -/
structure Transmission (ι : Type) where
  session : ι
  txdata : List UInt8
  number : Nat
  deriving DecidableEq, Repr

/-- What happens between the handler, its sessions and its channel. -/
inductive Action (ι : Type) where
  | onLowerLayerUp (session : ι)
  | onLowerLayerDown (session : ι)
  | beginTransmit (session : ι) (number : Nat) (data : List UInt8)
  | beginWrite (number : Nat) (data : List UInt8)
  | onTxReady (session : ι) (number : Nat)
  | closed
  deriving DecidableEq, Repr

end IOHandler

/-- The channel, if there is one, is writing or can write.  `accepted` counts the transmissions. -/
structure IOHandler (ι : Type) where
  close_existing : Bool
  isShutdown : Bool
  sessions : List (IOHandler.Session ι)
  txQueue : List (IOHandler.Transmission ι)
  channel : Option Bool
  accepted : Nat
  log : List (IOHandler.Action ι)
  deriving DecidableEq, Repr

namespace IOHandler

variable {ι : Type} [DecidableEq ι]

def init (close_existing : Bool) : IOHandler ι := ⟨close_existing, false, [], [], none, 0, []⟩

def isOnline (h : IOHandler ι) (s : ι) : Bool := h.sessions.any fun r => r.session = s && r.online

def isAnySessionEnabled (h : IOHandler ι) : Bool := h.sessions.any (·.enabled)

/-- `CheckForSend`. -/
def checkForSend (h : IOHandler ι) : IOHandler ι :=
  match h.txQueue, h.channel with
  | t :: _, some false =>
    { h with
      channel := some true
      log := h.log ++ [.beginWrite t.number t.txdata] }
  | _, _ => h

/-- Put a transmission into the queue. -/
def enqueue (s : ι) (h : IOHandler ι) (data : List UInt8) : IOHandler ι :=
  { h with
    txQueue := h.txQueue ++ [⟨s, data, h.accepted⟩]
    accepted := h.accepted + 1
    log := h.log ++ [.beginTransmit s h.accepted data] }

/-- `BeginTransmit`. -/
def beginTransmit (s : ι) (h : IOHandler ι) (data : List UInt8) : IOHandler ι :=
  if h.channel.isSome then (h.enqueue s data).checkForSend else h

/-- What a session transmits while it is being called. -/
def transmitAll (h : IOHandler ι) (s : ι) (frames : List (List UInt8)) : IOHandler ι :=
  frames.foldl (beginTransmit s) h

def setOnline (h : IOHandler ι) (s : ι) (online : Bool) : List (Session ι) :=
  h.sessions.map fun r => if r.session = s then { r with online := online } else r

/-- `Session::LowerLayerUp`. -/
def lowerLayerUp (frames : ι → List (List UInt8)) (h : IOHandler ι) (s : ι) : IOHandler ι :=
  if h.isOnline s then h
  else
    let h := { h with
      sessions := h.setOnline s true
      log := h.log ++ [Action.onLowerLayerUp s] }
    h.transmitAll s (frames s)

/-- `Session::LowerLayerDown`. -/
def lowerLayerDown (h : IOHandler ι) (s : ι) : IOHandler ι :=
  if h.isOnline s then
    { h with
      sessions := h.setOnline s false
      log := h.log ++ [.onLowerLayerDown s] }
  else h

/-- The channel is shut down, and the sessions are told. -/
def close (h : IOHandler ι) : IOHandler ι :=
  (h.sessions.map (·.session)).foldl lowerLayerDown
    { h with
      channel := none
      log := h.log ++ [.closed] }

/-- `Reset`. -/
def reset (h : IOHandler ι) : IOHandler ι :=
  let h := if h.channel.isSome then h.close else h
  { h with txQueue := [] }

/-- `AddContext`; a session is disabled by default. -/
def addContext (h : IOHandler ι) (s : ι) (addresses : Addresses) : IOHandler ι :=
  if h.sessions.any fun r => r.addresses = addresses || r.session = s then h
  else { h with sessions := h.sessions ++ [⟨s, addresses, false, false⟩] }

def setEnabled (h : IOHandler ι) (s : ι) (enabled : Bool) : IOHandler ι :=
  { h with sessions := h.sessions.map fun r => if r.session = s then { r with enabled } else r }

/-- `Enable`.  Without a channel the handler starts to get one. -/
def enable (h : IOHandler ι) (s : ι) (frames : ι → List (List UInt8)) : IOHandler ι :=
  if h.sessions.any fun r => r.session = s && !r.enabled then
    if h.channel.isSome then (h.setEnabled s true).lowerLayerUp frames s else h.setEnabled s true
  else h

/-- `Disable`. -/
def disable (h : IOHandler ι) (s : ι) : IOHandler ι :=
  if h.sessions.any fun r => r.session = s && r.enabled then
    let h := h.setEnabled s false
    let h := if h.channel.isSome then h.lowerLayerDown s else h
    if h.isAnySessionEnabled then h else h.reset
  else h

/-- `Remove`.  The channel stays, and so does the queue. -/
def remove (h : IOHandler ι) (s : ι) : IOHandler ι :=
  let h := if h.channel.isSome then h.lowerLayerDown s else h
  { h with sessions := h.sessions.filter (·.session ≠ s) }

/-- `OnNewChannel`. -/
def onNewChannel (h : IOHandler ι) (frames : ι → List (List UInt8)) : IOHandler ι :=
  if h.channel.isSome && !h.close_existing then h
  else
    ((h.sessions.filter (·.enabled)).map (·.session)).foldl (lowerLayerUp frames)
      { h.reset with channel := some false }

/-- `OnFrame`: every session that is enabled gets the frame. -/
def onFrame (h : IOHandler ι) (frames : ι → List (List UInt8)) : IOHandler ι :=
  ((h.sessions.filter (·.enabled)).map (·.session)).foldl (fun h s => h.transmitAll s (frames s)) h

/-- `OnWriteComplete` without an error. -/
def onWriteComplete (h : IOHandler ι) (frames : List (List UInt8)) : IOHandler ι :=
  match h.txQueue with
  | [] => h.checkForSend
  | t :: rest =>
    let h := { h with
      txQueue := rest
      log := h.log ++ [Action.onTxReady t.session t.number] }
    (h.transmitAll t.session frames).checkForSend

/-- The calls of the user and of the channel.  With a callback comes what the sessions that are
    called transmit; a read brings any number of frames. -/
inductive Input (ι : Type) where
  | addContext (session : ι) (addresses : Addresses)
  | enable (session : ι) (frames : ι → List (List UInt8))
  | disable (session : ι)
  | remove (session : ι)
  | beginTransmit (session : ι) (data : List UInt8)
  | onReadComplete (frames : List (ι → List (List UInt8)))
  | onReadError
  | onWriteComplete (frames : List (List UInt8))
  | onWriteError
  | onNewChannel (frames : ι → List (List UInt8))
  | shutdown

/-- One call.  The channel only calls back while it is in use, and completes a write only while
    it is writing. -/
def step (h : IOHandler ι) : Input ι → IOHandler ι
  | .addContext s addresses => h.addContext s addresses
  | .enable s frames => h.enable s frames
  | .disable s => h.disable s
  | .remove s => h.remove s
  | .beginTransmit s data => h.beginTransmit s data
  | .onReadComplete frames => if h.channel.isSome then frames.foldl onFrame h else h
  | .onReadError => if h.channel.isSome then h.reset else h
  | .onWriteComplete frames =>
    if h.channel = some true then { h with channel := some false }.onWriteComplete frames else h
  | .onWriteError => if h.channel = some true then h.reset else h
  | .onNewChannel frames => h.onNewChannel frames
  | .shutdown => if h.isShutdown then h else { h with isShutdown := true }.reset

/-! ## What is required -/

/-- The transmissions that the session has requested since it last went online. -/
def sinceUp (s : ι) (log : List (Action ι)) : Option (List Nat) :=
  log.foldl (fun numbers a =>
    match a with
    | .onLowerLayerUp s' => if s' = s then some [] else numbers
    | .beginTransmit s' n _ => if s' = s then numbers.map (· ++ [n]) else numbers
    | _ => numbers) none

/-- The write that has not been completed on a channel that is still open. -/
def inFlight (log : List (Action ι)) : Option Nat :=
  log.foldl (fun write a =>
    match a with
    | .beginWrite n _ => some n
    | .onTxReady _ _ | .closed => none
    | _ => write) none

/-- **Writes are issued one at a time, in the order requested, and a session is told about its own
    transmissions since it went online, once each.** -/
def Proper (past : List (Action ι)) : Action ι → Prop
  | .beginWrite n data => inFlight past = none ∧ (∃ s, .beginTransmit s n data ∈ past) ∧
      ∀ m data', .beginWrite m data' ∈ past → m < n
  | .onTxReady s n => (∃ numbers ∈ sinceUp s past, n ∈ numbers) ∧ ∀ s', .onTxReady s' n ∉ past
  | _ => True

/-- **The condition**: no session comes online that still has a transmission in the queue, and a
    session that transmits is online. -/
def Undisturbed (h : IOHandler ι) : Input ι → Prop
  | .enable s _ => h.isOnline s = false → ∀ t ∈ h.txQueue, t.session ≠ s
  | .beginTransmit s _ => h.isOnline s = true
  | .onReadComplete frames => ∀ f ∈ frames, ∀ s, f s ≠ [] → h.isOnline s = true
  | .onWriteComplete frames => frames ≠ [] → ∀ t ∈ h.txQueue.head?, h.isOnline t.session = true
  | _ => True

/-! ## What a step preserves -/

theorem sinceUp_concat (s : ι) (log : List (Action ι)) (a : Action ι) :
    sinceUp s (log ++ [a]) = match a with
      | .onLowerLayerUp s' => if s' = s then some [] else sinceUp s log
      | .beginTransmit s' n _ => if s' = s then (sinceUp s log).map (· ++ [n]) else sinceUp s log
      | _ => sinceUp s log := by
  simp [sinceUp]

omit [DecidableEq ι] in
theorem inFlight_concat (log : List (Action ι)) (a : Action ι) :
    inFlight (log ++ [a]) = match a with
      | .beginWrite n _ => some n
      | .onTxReady _ _ | .closed => none
      | _ => inFlight log := by
  simp [inFlight]

/-- **The queue and the log agree**: what is queued was requested by a session that has not come
    online since, the front of the queue is what the channel is writing, and everything that was
    written or completed before is older. -/
structure Orderly (h : IOHandler ι) : Prop where
  proper : Justified Proper h.log
  requested : ∀ t ∈ h.txQueue, .beginTransmit t.session t.number t.txdata ∈ h.log
  current : ∀ t ∈ h.txQueue, ∃ numbers ∈ sinceUp t.session h.log, t.number ∈ numbers
  sorted : h.txQueue.Pairwise (·.number < ·.number)
  accepted : ∀ t ∈ h.txQueue, t.number < h.accepted
  told : ∀ s n, .onTxReady s n ∈ h.log → n < h.accepted ∧ ∀ t ∈ h.txQueue, n < t.number
  written : ∀ n data, .beginWrite n data ∈ h.log → n < h.accepted ∧
    ∀ t ∈ h.txQueue, n ≤ t.number ∧ (h.channel = some false → n < t.number)
  flight : inFlight h.log = if h.channel = some true then h.txQueue.head?.map (·.number) else none
  busy : h.channel = some true → h.txQueue ≠ []
  up : ∀ s, h.isOnline s = true → (sinceUp s h.log).isSome = true

variable {h : IOHandler ι} {s : ι}

/-- What is known does not depend on which sessions are enabled. -/
theorem Orderly.of_sessions (ho : h.Orderly) {sessions : List (Session ι)}
    (hup : ∀ s, IOHandler.isOnline { h with sessions } s = true → h.isOnline s = true) :
    IOHandler.Orderly { h with sessions } :=
  { ho with up := fun s hs => ho.up s (hup s hs) }

/-- An entry that is not about writing keeps all that is known, for the transmissions that the
    entry leaves current. -/
theorem Orderly.record (ho : h.Orderly) {a : Action ι} (hproper : Proper h.log a)
    (hflight : inFlight (h.log ++ [a]) = inFlight h.log) (hwrite : ∀ n data, a ≠ .beginWrite n data)
    (htold : ∀ s n, a ≠ .onTxReady s n)
    (hcurrent : ∀ t ∈ h.txQueue, sinceUp t.session (h.log ++ [a]) = sinceUp t.session h.log)
    (hup : ∀ s, (sinceUp s h.log).isSome = true → (sinceUp s (h.log ++ [a])).isSome = true) :
    IOHandler.Orderly { h with log := h.log ++ [a] } where
  proper := ho.proper.concat hproper
  requested t ht := List.mem_append_left _ (ho.requested t ht)
  current t ht := by
    rw [hcurrent t ht]
    exact ho.current t ht
  sorted := ho.sorted
  accepted := ho.accepted
  told s n hn := ho.told s n (by simpa [(htold s n).symm] using hn)
  written n data hn := ho.written n data (by simpa [(hwrite n data).symm] using hn)
  flight := hflight.trans ho.flight
  busy := ho.busy
  up s hs := hup s (ho.up s hs)

theorem Orderly.enqueue (ho : h.Orderly) (hs : h.isOnline s = true) (data : List UInt8) :
    (h.enqueue s data).Orderly := by
  obtain ⟨numbers, hnumbers⟩ := Option.isSome_iff_exists.mp (ho.up s hs)
  -- the new transmission has the largest number, so it keeps the order
  have hold : ∀ t ∈ h.txQueue ++ [⟨s, data, h.accepted⟩], t ∈ h.txQueue ∨
      t = ⟨s, data, h.accepted⟩ := by simp
  constructor
  case proper => exact ho.proper.concat trivial
  case requested =>
    intro t ht
    rcases hold t ht with ht | rfl
    · simp [IOHandler.enqueue, ho.requested t ht]
    · simp [IOHandler.enqueue]
  -- only the session that sends gets a new number
  case current =>
    intro t ht
    rcases hold t ht with ht | rfl
    · obtain ⟨old, hold, hmem⟩ := ho.current t ht
      by_cases hst : s = t.session
      · exact ⟨old ++ [h.accepted], by simp_all [IOHandler.enqueue, sinceUp_concat]⟩
      · exact ⟨old, by simp_all [IOHandler.enqueue, sinceUp_concat]⟩
    · exact ⟨numbers ++ [h.accepted], by simp [IOHandler.enqueue, sinceUp_concat, hnumbers]⟩
  case sorted =>
    refine List.pairwise_append.mpr ⟨ho.sorted, List.pairwise_singleton _ _, ?_⟩
    simpa using ho.accepted
  case accepted =>
    intro t ht
    rcases hold t ht with ht | rfl
    · exact Nat.lt_succ_of_lt (ho.accepted t ht)
    · exact Nat.lt_succ_self _
  case told =>
    intro s' n hn
    obtain ⟨hlt, hall⟩ := ho.told s' n (by simpa [IOHandler.enqueue] using hn)
    refine ⟨Nat.lt_succ_of_lt hlt, fun t ht => ?_⟩
    rcases hold t ht with ht | rfl
    · exact hall t ht
    · exact hlt
  case written =>
    intro n data' hn
    obtain ⟨hlt, hall⟩ := ho.written n data' (by simpa [IOHandler.enqueue] using hn)
    refine ⟨Nat.lt_succ_of_lt hlt, fun t ht => ?_⟩
    rcases hold t ht with ht | rfl
    · exact hall t ht
    · exact ⟨Nat.le_of_lt hlt, fun _ => hlt⟩
  case flight =>
    have hflight := ho.flight
    have hbusy := ho.busy
    cases hqueue : h.txQueue <;> simp_all [IOHandler.enqueue, inFlight_concat]
  case busy => simp [IOHandler.enqueue]
  case up =>
    intro s' hs'
    have hsome := ho.up s' hs'
    by_cases hss : s = s' <;> simp_all [IOHandler.enqueue, sinceUp_concat]

/-- The front of the queue is written when the channel is free. -/
theorem Orderly.checkForSend (ho : h.Orderly) : h.checkForSend.Orderly := by
  unfold IOHandler.checkForSend
  split
  · rename_i t rest hqueue hfree
    have hflight := ho.flight
    have hsorted := ho.sorted
    have holder := ho.written
    simp only [hfree, hqueue, List.pairwise_cons] at hflight hsorted holder
    constructor
    -- nothing is in flight, and whatever was written before has a smaller number
    case proper =>
      have hrequested := ho.requested t (by simp [hqueue])
      refine ho.proper.concat ⟨by simpa using hflight, ⟨t.session, hrequested⟩, ?_⟩
      intro m data hm
      exact ((holder m data hm).2 t List.mem_cons_self).2 (by simp)
    case requested => exact fun t ht => List.mem_append_left _ (ho.requested t ht)
    case current => exact fun t ht => by simpa [sinceUp_concat] using ho.current t ht
    case sorted => exact ho.sorted
    case accepted => exact ho.accepted
    case told => exact fun s n hn => ho.told s n (by simpa using hn)
    -- the front is written now; the rest has larger numbers
    case written =>
      intro n data hn
      rcases List.mem_append.mp hn with hn | hn
      · exact ⟨(ho.written n data hn).1, fun t ht => ⟨((ho.written n data hn).2 t ht).1, by simp⟩⟩
      · obtain ⟨rfl, rfl⟩ : n = t.number ∧ data = t.txdata := by simpa using hn
        refine ⟨ho.accepted t (by simp [hqueue]), fun t' ht' => ⟨?_, by simp⟩⟩
        rw [hqueue] at ht'
        rcases List.mem_cons.mp ht' with rfl | ht'
        · exact Nat.le_refl _
        · exact Nat.le_of_lt (hsorted.1 t' ht')
    case flight => simp [inFlight_concat, hqueue]
    case busy => simp [hqueue]
    case up => exact fun s hs => by simpa [sinceUp_concat] using ho.up s hs
  · exact ho

/-- What a session transmits, if it is online. -/
theorem Orderly.transmitAll (ho : h.Orderly) {frames : List (List UInt8)}
    (hs : frames ≠ [] → h.isOnline s = true) :
    (h.transmitAll s frames).Orderly ∧ (h.transmitAll s frames).sessions = h.sessions ∧
      ∀ t ∈ (h.transmitAll s frames).txQueue, t ∈ h.txQueue ∨ t.session = s := by
  induction frames generalizing h with
  | nil => exact ⟨ho, rfl, fun t ht => .inl ht⟩
  | cons data frames ih =>
    have honline := hs (by simp)
    have hnext : (h.beginTransmit s data).Orderly ∧
        (h.beginTransmit s data).sessions = h.sessions ∧
        ∀ t ∈ (h.beginTransmit s data).txQueue, t ∈ h.txQueue ∨ t.session = s := by
      -- sending leaves the sessions and the queue alone
      have hsend : ∀ h : IOHandler ι, h.checkForSend.sessions = h.sessions ∧
          h.checkForSend.txQueue = h.txQueue := by
        intro h
        unfold IOHandler.checkForSend
        split <;> exact ⟨rfl, rfl⟩
      unfold beginTransmit
      split
      · refine ⟨(ho.enqueue honline data).checkForSend, (hsend _).1, fun t ht => ?_⟩
        rw [(hsend _).2, IOHandler.enqueue] at ht
        rcases List.mem_append.mp ht with ht | ht
        · exact .inl ht
        · exact .inr (by rw [List.mem_singleton.mp ht])
      · exact ⟨ho, rfl, fun t ht => .inl ht⟩
    obtain ⟨hnext, hsame, hqueued⟩ := hnext
    obtain ⟨horderly, hsessions, hrest⟩ :=
      ih hnext (by simpa [isOnline, hsame] using fun _ => honline)
    refine ⟨horderly, hsessions.trans hsame, fun t ht => ?_⟩
    rcases hrest t ht with ht | ht
    · exact hqueued t ht
    · exact .inr ht

omit [DecidableEq ι] in
theorem mem_of_mem_filter {sessions : List (Session ι)} {s : ι}
    (hs : s ∈ (sessions.filter (·.enabled)).map (·.session)) : s ∈ sessions.map (·.session) := by
  obtain ⟨r, hr, rfl⟩ := List.mem_map.mp hs
  exact List.mem_map.mpr ⟨r, List.mem_of_mem_filter hr, rfl⟩

theorem isOnline_setEnabled (s s' : ι) (enabled : Bool) :
    (h.setEnabled s enabled).isOnline s' = h.isOnline s' := by
  simp [isOnline, IOHandler.setEnabled, Function.comp_def, apply_ite]

@[simp] theorem setOnline_names (s : ι) (online : Bool) :
    (h.setOnline s online).map (·.session) = h.sessions.map (·.session) := by
  simp [setOnline, Function.comp_def, apply_ite]

theorem isOnline_setOnline (s s' : ι) (online : Bool) :
    IOHandler.isOnline { h with sessions := h.setOnline s online } s' =
      if s' = s then online && decide (s ∈ h.sessions.map (·.session)) else h.isOnline s' := by
  unfold isOnline setOnline
  generalize h.sessions = sessions
  induction sessions with
  | nil => simp
  | cons r rest ih =>
    rw [List.map_cons, List.any_cons, ih, List.map_cons, List.any_cons]
    by_cases hs : s' = s
    · subst hs
      by_cases hr : r.session = s'
      · simp +contextual [hr]
      · simp [hr, Ne.symm hr]
    · by_cases hr : r.session = s
      · simp [hr, hs, Ne.symm hs]
      · simp [hr, hs]

/-- **A session comes online** with none of its transmissions in the queue. -/
theorem Orderly.lowerLayerUp (ho : h.Orderly) (frames : ι → List (List UInt8))
    (hqueue : h.isOnline s = false → ∀ t ∈ h.txQueue, t.session ≠ s)
    (hknown : s ∈ h.sessions.map (·.session)) :
    (h.lowerLayerUp frames s).Orderly ∧
      (h.lowerLayerUp frames s).sessions.map (·.session) = h.sessions.map (·.session) ∧
      (∀ s', h.isOnline s' = true ∨ s' = s → (h.lowerLayerUp frames s).isOnline s' = true) ∧
      ∀ t ∈ (h.lowerLayerUp frames s).txQueue, t ∈ h.txQueue ∨ t.session = s := by
  unfold IOHandler.lowerLayerUp
  split
  · rename_i honline
    refine ⟨ho, rfl, ?_, fun t ht => .inl ht⟩
    rintro s' (hs' | rfl)
    · exact hs'
    · exact honline
  · rename_i hoffline
    have hcurrent := hqueue (by simpa using hoffline)
    -- the session is online before it is told, and may send from there
    have hnow : ∀ s', IOHandler.isOnline { h with sessions := h.setOnline s true } s' =
        if s' = s then true else h.isOnline s' := by
      intro s'
      rw [isOnline_setOnline]
      simp [hknown]
    have hlogged : IOHandler.Orderly { h with log := h.log ++ [.onLowerLayerUp s] } := by
      refine ho.record trivial (by simp [inFlight_concat]) (by simp) (by simp) ?_ ?_
      · intro t ht
        simp [sinceUp_concat, (hcurrent t ht).symm]
      · intro s'
        by_cases hs : s = s' <;> simp [sinceUp_concat, hs]
    have hup : IOHandler.Orderly
        { h with sessions := h.setOnline s true, log := h.log ++ [.onLowerLayerUp s] } := by
      refine { hlogged with up := fun s' hs' => ?_ }
      by_cases hs : s' = s
      · simp [sinceUp_concat, hs]
      · exact hlogged.up s' ((if_neg hs).symm.trans ((hnow s').symm.trans hs'))
    obtain ⟨horderly, hsessions, hqueued⟩ :=
      hup.transmitAll fun (_ : frames s ≠ []) => (hnow s).trans (if_pos rfl)
    refine ⟨horderly, ?_, ?_, hqueued⟩
    · rw [hsessions]
      exact setOnline_names s true
    · intro s' hs'
      unfold isOnline at hnow ⊢
      rw [hsessions, hnow]
      by_cases hs : s' = s <;> simp_all [isOnline]

theorem Orderly.lowerLayerDown (ho : h.Orderly) (s : ι) : (h.lowerLayerDown s).Orderly := by
  unfold IOHandler.lowerLayerDown
  split
  · have hlogged : IOHandler.Orderly { h with log := h.log ++ [.onLowerLayerDown s] } := by
      refine ho.record trivial ?_ ?_ ?_ ?_ ?_ <;> simp [inFlight_concat, sinceUp_concat]
    refine hlogged.of_sessions fun s' hs' => ?_
    have hnow := (isOnline_setOnline (h := h) s s' false).symm.trans hs'
    by_cases hs : s' = s
    · simp [hs] at hnow
    · exact (if_neg hs).symm.trans hnow
  · exact ho

/-- **The channel is closed and the queue is cleared.** -/
theorem Orderly.reset (ho : h.Orderly) : h.reset.Orderly ∧ h.reset.txQueue = [] ∧
    h.reset.channel = none ∧ h.reset.sessions.map (·.session) = h.sessions.map (·.session) := by
  -- without a channel nothing is in flight, so the queue may be dropped
  have hclosed : ∀ h' : IOHandler ι, h'.Orderly → h'.channel = none →
      IOHandler.Orderly { h' with txQueue := [] } := by
    intro h' ho' hnone
    exact ⟨ho'.proper, by simp, by simp, .nil, by simp,
      fun s n hn => ⟨(ho'.told s n hn).1, by simp⟩,
      fun n data hn => ⟨(ho'.written n data hn).1, by simp⟩, by simpa [hnone] using ho'.flight,
      by simp [hnone], ho'.up⟩
  unfold IOHandler.reset
  cases hchannel : h.channel with
  | none => exact ⟨hclosed h ho hchannel, rfl, hchannel, rfl⟩
  | some writing =>
    -- closing tells one session after the other
    have hclose : h.close.Orderly ∧ h.close.channel = none ∧
        h.close.sessions.map (·.session) = h.sessions.map (·.session) := by
      refine List.foldlRecOn (motive := fun h' : IOHandler ι => h'.Orderly ∧ h'.channel = none ∧
        h'.sessions.map (·.session) = h.sessions.map (·.session)) _ _ ⟨?_, rfl, rfl⟩ ?_
      · constructor
        case proper => exact ho.proper.concat trivial
        case requested => exact fun t ht => List.mem_append_left _ (ho.requested t ht)
        case current => exact fun t ht => by simpa [sinceUp_concat] using ho.current t ht
        case sorted => exact ho.sorted
        case accepted => exact ho.accepted
        case told => exact fun s n hn => ho.told s n (by simpa using hn)
        case written =>
          intro n data hn
          obtain ⟨hlt, hall⟩ := ho.written n data (by simpa using hn)
          exact ⟨hlt, fun t ht => ⟨(hall t ht).1, by simp⟩⟩
        case flight => simp [inFlight_concat]
        case busy => simp
        case up => exact fun s hs => by simpa [sinceUp_concat] using ho.up s hs
      · rintro h' ⟨ho', hnone, hnames⟩ s _
        refine ⟨ho'.lowerLayerDown s, ?_⟩
        unfold IOHandler.lowerLayerDown
        split
        · exact ⟨hnone, (setOnline_names s false).trans hnames⟩
        · exact ⟨hnone, hnames⟩
    exact ⟨hclosed _ hclose.1 hclose.2.1, rfl, hclose.2.1, hclose.2.2⟩

/-- **The write of the front is complete**, and its session is told. -/
theorem Orderly.pop (ho : h.Orderly) {t : Transmission ι} {rest : List (Transmission ι)}
    (hqueue : h.txQueue = t :: rest) :
    IOHandler.Orderly { h with
      txQueue := rest
      channel := some false
      log := h.log ++ [.onTxReady t.session t.number] } := by
  have hfront : t ∈ h.txQueue := by simp [hqueue]
  have hrest : ∀ t' ∈ rest, t' ∈ h.txQueue := by simp +contextual [hqueue]
  have hlater : ∀ t' ∈ rest, t.number < t'.number := by
    have hsorted := ho.sorted
    rw [hqueue, List.pairwise_cons] at hsorted
    exact hsorted.1
  constructor
  case proper =>
    refine ho.proper.concat ⟨ho.current t hfront, fun s' hs' => ?_⟩
    exact Nat.lt_irrefl _ ((ho.told s' _ hs').2 t hfront)
  case requested => exact fun t' ht' => List.mem_append_left _ (ho.requested t' (hrest t' ht'))
  case current => exact fun t' ht' => by simpa [sinceUp_concat] using ho.current t' (hrest t' ht')
  case sorted =>
    have hsorted := ho.sorted
    rw [hqueue, List.pairwise_cons] at hsorted
    exact hsorted.2
  case accepted => exact fun t' ht' => ho.accepted t' (hrest t' ht')
  case told =>
    intro s n hn
    rcases List.mem_append.mp hn with hn | hn
    · exact ⟨(ho.told s n hn).1, fun t' ht' => (ho.told s n hn).2 t' (hrest t' ht')⟩
    · obtain ⟨rfl, rfl⟩ : s = t.session ∧ n = t.number := by simpa using hn
      exact ⟨ho.accepted t hfront, hlater⟩
  case written =>
    intro n data hn
    obtain ⟨hlt, hall⟩ := ho.written n data (by simpa using hn)
    -- what has been written is not behind the front, and the rest is
    have hbefore := fun t' ht' => Nat.lt_of_le_of_lt (hall t hfront).1 (hlater t' ht')
    exact ⟨hlt, fun t' ht' => ⟨Nat.le_of_lt (hbefore t' ht'), fun _ => hbefore t' ht'⟩⟩
  case flight => simp [inFlight_concat]
  case busy => simp
  case up => exact fun s hs => by simpa [sinceUp_concat] using ho.up s hs

theorem Orderly.setEnabled (ho : h.Orderly) (s : ι) (enabled : Bool) :
    (h.setEnabled s enabled).Orderly :=
  ho.of_sessions fun s' hs' => (isOnline_setEnabled s s' enabled).symm.trans hs'

/-- **A new channel** starts with an empty queue; the sessions come online one after the other. -/
theorem Orderly.onNewChannel (ho : h.Orderly) (frames : ι → List (List UInt8)) :
    (h.onNewChannel frames).Orderly := by
  unfold IOHandler.onNewChannel
  split
  · exact ho
  · obtain ⟨hreset, hqueue, hnone, hnames⟩ := ho.reset
    have hstart : IOHandler.Orderly { h.reset with channel := some false } :=
      { hreset with
        written := fun n data hn => ⟨(hreset.written n data hn).1, by simp [hqueue]⟩
        flight := by simpa [hnone] using hreset.flight
        busy := by simp }
    -- only sessions that have come online have transmissions in the queue
    refine (List.foldlRecOn (motive := fun h' : IOHandler ι => h'.Orderly ∧
      (∀ t ∈ h'.txQueue, h'.isOnline t.session = true) ∧
      h'.sessions.map (·.session) = h.sessions.map (·.session)) _ _
      ⟨hstart, by simp [hqueue], hnames⟩ ?_).1
    rintro h' ⟨ho', honline, hnames'⟩ s hs
    obtain ⟨hup, hsame, hstay, hqueued⟩ := ho'.lowerLayerUp frames
      (fun hoffline t ht => by
        rintro rfl
        simp [honline t ht] at hoffline)
      (hnames' ▸ mem_of_mem_filter hs)
    refine ⟨hup, fun t ht => hstay _ ((hqueued t ht).imp (honline t) id), hsame.trans hnames'⟩

/-- **Frames arrive**, and the sessions that answer them are online. -/
theorem Orderly.onFrame (ho : h.Orderly) {frames : ι → List (List UInt8)}
    (hs : ∀ s, frames s ≠ [] → h.isOnline s = true) :
    (h.onFrame frames).Orderly ∧ (h.onFrame frames).sessions = h.sessions := by
  refine List.foldlRecOn (motive := fun h' : IOHandler ι => h'.Orderly ∧ h'.sessions = h.sessions)
    _ _ ⟨ho, rfl⟩ ?_
  rintro h' ⟨ho', hsame⟩ s _
  have honline : frames s ≠ [] → h'.isOnline s = true := by simpa [isOnline, hsame] using hs s
  obtain ⟨hnext, hsessions, _⟩ := ho'.transmitAll honline
  exact ⟨hnext, hsessions.trans hsame⟩

/-- **What a step that meets the condition preserves.** -/
theorem orderly_step (ho : h.Orderly) {input : Input ι} (hok : h.Undisturbed input) :
    (h.step input).Orderly := by
  cases input with
  | addContext s addresses =>
    show (h.addContext s addresses).Orderly
    unfold addContext
    split
    · exact ho
    · exact ho.of_sessions fun s' hs' => by simpa [isOnline] using hs'
  -- a layer that comes up must not find old frames of its own in the queue
  | enable s frames =>
    show (h.enable s frames).Orderly
    unfold enable
    split
    · rename_i hknown
      split
      · refine ((ho.setEnabled s true).lowerLayerUp frames
          (fun hoffline => hok ((isOnline_setEnabled s s true).symm.trans hoffline)) ?_).1
        obtain ⟨r, hr, hrs⟩ := List.any_eq_true.mp hknown
        simp only [Bool.and_eq_true, decide_eq_true_eq] at hrs
        have hnames : (h.setEnabled s true).sessions.map (·.session) =
            h.sessions.map (·.session) := by
          simp [IOHandler.setEnabled, Function.comp_def, apply_ite]
        rw [hnames, ← hrs.1]
        exact List.mem_map_of_mem hr
      · exact ho.setEnabled s true
    · exact ho
  -- the channel is closed with the last enabled session
  | disable s =>
    show (h.disable s).Orderly
    unfold disable
    split
    · have hdown : (if (h.setEnabled s false).channel.isSome then
          (h.setEnabled s false).lowerLayerDown s else h.setEnabled s false).Orderly := by
        split
        · exact (ho.setEnabled s false).lowerLayerDown s
        · exact ho.setEnabled s false
      dsimp only
      generalize (if (h.setEnabled s false).channel.isSome then
        (h.setEnabled s false).lowerLayerDown s else h.setEnabled s false) = h' at hdown ⊢
      split
      · exact hdown
      · exact hdown.reset.1
    · exact ho
  -- frames of a removed session stay in the queue
  | remove s =>
    have hdown : (if h.channel.isSome then h.lowerLayerDown s else h).Orderly := by
      split
      · exact ho.lowerLayerDown s
      · exact ho
    refine hdown.of_sessions fun s' hs' => ?_
    obtain ⟨r, hr, hrs⟩ := List.any_eq_true.mp hs'
    exact List.any_eq_true.mpr ⟨r, List.mem_of_mem_filter hr, hrs⟩
  | beginTransmit s data =>
    have hone : (h.transmitAll s [data]).Orderly := (ho.transmitAll fun _ => hok).1
    exact hone
  -- the sessions do not change while the frames of one read are handled
  | onReadComplete frames =>
    show Orderly (if h.channel.isSome then frames.foldl IOHandler.onFrame h else h)
    split
    · refine (List.foldlRecOn (motive := fun h' : IOHandler ι => h'.Orderly ∧
        h'.sessions = h.sessions) frames _ ⟨ho, rfl⟩ ?_).1
      rintro h' ⟨ho', hsame⟩ f hf
      have honline : ∀ s, f s ≠ [] → h'.isOnline s = true := by
        simpa [isOnline, hsame] using hok f hf
      exact ⟨(ho'.onFrame honline).1, (ho'.onFrame honline).2.trans hsame⟩
    · exact ho
  | onReadError =>
    show Orderly (if h.channel.isSome then h.reset else h)
    split
    · exact ho.reset.1
    · exact ho
  -- the front of the queue has been written, and its session may send at once
  | onWriteComplete frames =>
    show Orderly (if h.channel = some true then
      IOHandler.onWriteComplete { h with channel := some false } frames else h)
    split
    · rename_i hwriting
      -- a write in progress means that the queue is not empty
      cases hqueue : h.txQueue with
      | nil => exact absurd hqueue (ho.busy hwriting)
      | cons t rest =>
        have hfront : frames ≠ [] → h.isOnline t.session = true := fun hframes =>
          hok hframes t (by simp [hqueue])
        have hdone := ((ho.pop hqueue).transmitAll hfront).1.checkForSend
        simpa [IOHandler.onWriteComplete, hqueue] using hdone
    · exact ho
  | onWriteError =>
    show Orderly (if h.channel = some true then h.reset else h)
    split
    · exact ho.reset.1
    · exact ho
  | onNewChannel frames => exact ho.onNewChannel frames
  | shutdown =>
    show Orderly (if h.isShutdown then h else IOHandler.reset { h with isShutdown := true })
    split
    · exact ho
    · exact (IOHandler.Orderly.reset (h := { h with isShutdown := true }) { ho with }).1

theorem orderly_init (close_existing : Bool) : (init close_existing : IOHandler ι).Orderly where
  proper := justified_nil
  requested := by simp [init]
  current := by simp [init]
  sorted := .nil
  accepted := by simp [init]
  told := by simp [init]
  written := by simp [init]
  flight := rfl
  busy := by simp [init]
  up := by simp [init, isOnline]

/-- **Sessions that share a channel**: in every run in which no session comes online with a
    transmission of its own in the queue, and only sessions that are online transmit, writes are
    issued one at a time in the order requested, and a session is told about each of its
    transmissions since it went online at most once. -/
theorem transmissions_proper (close_existing : Bool) (inputs : List (Input ι))
    (hok : Along step Undisturbed (init close_existing) inputs) :
    Justified Proper (run step (init close_existing) inputs).log := by
  have hall : Always step Orderly (init close_existing) inputs :=
    always_of_step (fun _ _ ho hok => orderly_step ho hok) (orderly_init close_existing) hok
  exact hall.last.proper

/-- Two sessions on one channel, named by a `Bool`, after the channel has come up. -/
def sharedChannel : List (Input Bool) :=
  [.addContext false ⟨1, 10⟩, .addContext true ⟨1, 20⟩, .enable false fun _ => [],
    .enable true fun _ => [], .onNewChannel fun _ => []]

/-- The second session waits for the first, and answers its completion with another frame. -/
theorem transmissions_proper_shared :
    (run step (init false) (sharedChannel ++ [.beginTransmit false [1], .beginTransmit true [2],
        .onWriteComplete [], .disable false, .enable false fun _ => [[3]],
        .onWriteComplete [[4]]])).log.drop 2 =
      [.beginTransmit false 0 [1], .beginWrite 0 [1], .beginTransmit true 1 [2],
        .onTxReady false 0, .beginWrite 1 [2], .onLowerLayerDown false, .onLowerLayerUp false,
        .beginTransmit false 2 [3], .onTxReady true 1, .beginTransmit true 3 [4],
        .beginWrite 2 [3]] ∧
      Justified Proper (run step (init false) (sharedChannel ++ [.beginTransmit false [1],
        .beginTransmit true [2], .onWriteComplete [], .disable false,
        .enable false fun _ => [[3]], .onWriteComplete [[4]]])).log := by
  refine ⟨by decide, transmissions_proper false _ ?_⟩
  refine ⟨trivial, trivial, ?_, ?_, trivial, ?_, ?_, ?_, trivial, ?_, ?_, trivial⟩ <;>
    unfold Undisturbed <;> decide

/-- A session that is disabled and enabled again while its frame is being written is told about
    the frame from before. -/
theorem onTxReady_after_restart :
    ¬ Justified Proper (run step (init false) (sharedChannel ++ [.beginTransmit false [1],
      .disable false, .enable false fun _ => [[3]], .onWriteComplete []])).log := by
  intro hproper
  -- the last entry but one, with the log before it
  obtain ⟨⟨numbers, hnumbers, hmem⟩, -⟩ := hproper
    [.onLowerLayerUp false, .onLowerLayerUp true, .beginTransmit false 0 [1], .beginWrite 0 [1],
      .onLowerLayerDown false, .onLowerLayerUp false, .beginTransmit false 1 [3]]
    (.onTxReady false 0) [.beginWrite 1 [3]] (by decide)
  have hsince : numbers = [1] := by simpa [sinceUp] using hnumbers.symm
  simp [hsince] at hmem

end IOHandler

end OpenDnp3.Link
