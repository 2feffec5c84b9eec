import OpenDnp3.Master.TaskBehavior

/-!
# Session keys and how long they last

Each user has a pair of session keys.  They end with a time, counted from the moment they were
set, or with a number of authenticated messages, whichever comes first.  The time is looked at when
the keys are asked for; the number is latched into a status when a message is counted.
-/

namespace OpenDnp3.SecAuth

open Lib Master

/-- `KeyStatus`. -/
inductive KeyStatus
  | UNDEFINED
  | OK
  | NOT_INIT
  | COMM_FAIL
  | AUTH_FAIL
  deriving DecidableEq, Repr

/-- `SessionKeysView`: a pair of keys, in whatever buffer. -/
structure SessionKeysView where
  controlKey : List UInt8
  monitorKey : List UInt8
  deriving DecidableEq, Repr

/-- `AuthSizes::MAX_SESSION_KEY_SIZE_BYTES`. -/
def maxSessionKeySize : Nat := 32

/-- `SessionKeys`: the used parts of two buffers of that size. -/
structure SessionKeys where
  control : List UInt8
  monitor : List UInt8
  fits : control.length ≤ maxSessionKeySize ∧ monitor.length ≤ maxSessionKeySize

namespace SessionKeys

def empty : SessionKeys := ⟨[], [], by decide⟩

/-- `SessionKeys::SetKeys` copies what its buffers can hold. -/
def ofView (view : SessionKeysView) : SessionKeys where
  control := view.controlKey.take maxSessionKeySize
  monitor := view.monitorKey.take maxSessionKeySize
  fits := ⟨List.length_take_le .., List.length_take_le ..⟩

def getView (keys : SessionKeys) : SessionKeysView := ⟨keys.control, keys.monitor⟩

end SessionKeys

/-- The keys cut to the size of the buffers. -/
def SessionKeysView.cut (view : SessionKeysView) : SessionKeysView :=
  ⟨view.controlKey.take maxSessionKeySize, view.monitorKey.take maxSessionKeySize⟩

/-! ## One user -/

/-- The session keys of a user, with what ends their validity: a time and a count. -/
structure SessionEntry where
  status : KeyStatus
  keys : SessionKeys
  expirationTime : Timestamp
  authCount : UInt32
  maxAuthCount : UInt32
  keyDuration : TimeDuration

namespace SessionEntry

def new (duration : TimeDuration) (maxAuth : UInt32) : SessionEntry :=
  ⟨.NOT_INIT, SessionKeys.empty, Timestamp.min, 0, maxAuth, duration⟩

variable (entry : SessionEntry)

def setKeys (view : SessionKeysView) (now : Timestamp) : SessionEntry :=
  { entry with
    keys := SessionKeys.ofView view
    status := .OK
    authCount := 0
    expirationTime := Timestamp.plus now entry.keyDuration }

def checkTimeValidity (now : Timestamp) : KeyStatus :=
  if entry.expirationTime ≤ now then .COMM_FAIL else .OK

def getKeyStatus (now : Timestamp) : KeyStatus :=
  if entry.status ≠ .OK then entry.status else entry.checkTimeValidity now

/-- `SessionEntry::TryGetKeyView`: the view is written only with the result `OK`. -/
def tryGetKeyView (now : Timestamp) : Except KeyStatus SessionKeysView :=
  if entry.getKeyStatus now = .OK then .ok entry.keys.getView
  else .error (entry.getKeyStatus now)

def incrementAuthCount (now : Timestamp) : SessionEntry × KeyStatus :=
  if entry.status ≠ .OK then
    (entry, entry.status)
  else if entry.checkTimeValidity now ≠ .OK then
    -- the end is latched: no later call looks at the time again
    ({ entry with status := entry.checkTimeValidity now }, entry.checkTimeValidity now)
  else if entry.maxAuthCount ≤ entry.authCount + 1 then
    ({ entry with authCount := entry.authCount + 1, status := .COMM_FAIL }, .COMM_FAIL)
  else
    ({ entry with authCount := entry.authCount + 1 }, .OK)

end SessionEntry

/-! ## All users -/

/-- `SessionStore`: the map `sessions` by what it gives for a user number. -/
structure SessionStore where
  sessions : UInt16 → Option SessionEntry
  keyDuration : TimeDuration
  maxAuthCount : UInt32

/-- The calls, each for one user at one time. -/
inductive SessionCall
  | setKeys (userNum : UInt16) (view : SessionKeysView) (now : Timestamp)
  | getKeyStatus (userNum : UInt16) (now : Timestamp)
  | tryGetKeyView (userNum : UInt16) (now : Timestamp)
  | incrementAuthCount (userNum : UInt16) (now : Timestamp)

namespace SessionCall

def user : SessionCall → UInt16
  | setKeys userNum .. | getKeyStatus userNum .. | tryGetKeyView userNum ..
  | incrementAuthCount userNum .. => userNum

def time : SessionCall → Timestamp
  | setKeys _ _ now | getKeyStatus _ now | tryGetKeyView _ now | incrementAuthCount _ now => now

end SessionCall

/-- What a call returns. -/
inductive SessionOutcome
  | done
  | status (status : KeyStatus)
  | view (result : Except KeyStatus SessionKeysView)
  deriving DecidableEq

namespace SessionStore

def new (keyDuration : TimeDuration) (maxAuthCount : UInt32) : SessionStore :=
  ⟨fun _ => none, keyDuration, maxAuthCount⟩

variable (store : SessionStore)

/-- `SessionStore::GetOrCreate`. -/
def getOrCreate (userNum : UInt16) : SessionEntry :=
  (store.sessions userNum).getD (SessionEntry.new store.keyDuration store.maxAuthCount)

def setKeys (userNum : UInt16) (view : SessionKeysView) (now : Timestamp) : SessionStore :=
  { store with
    sessions := Function.update store.sessions userNum
      (some ((store.getOrCreate userNum).setKeys view now)) }

def getKeyStatus (userNum : UInt16) (now : Timestamp) : KeyStatus :=
  match store.sessions userNum with
  | none => .NOT_INIT
  | some entry => entry.getKeyStatus now

def tryGetKeyView (userNum : UInt16) (now : Timestamp) : Except KeyStatus SessionKeysView :=
  match store.sessions userNum with
  | none => .error .NOT_INIT
  | some entry => entry.tryGetKeyView now

def incrementAuthCount (userNum : UInt16) (now : Timestamp) : SessionStore × KeyStatus :=
  match store.sessions userNum with
  | none => (store, .NOT_INIT)
  | some entry =>
    ({ store with
        sessions :=
          Function.update store.sessions userNum (some (entry.incrementAuthCount now).1) },
      (entry.incrementAuthCount now).2)

/-- The state after a call. -/
def step : SessionCall → SessionStore
  | .setKeys userNum view now => store.setKeys userNum view now
  | .getKeyStatus .. | .tryGetKeyView .. => store
  | .incrementAuthCount userNum now => (store.incrementAuthCount userNum now).1

/-- The result of a call. -/
def outcome : SessionCall → SessionOutcome
  | .setKeys .. => .done
  | .getKeyStatus userNum now => .status (store.getKeyStatus userNum now)
  | .tryGetKeyView userNum now => .view (store.tryGetKeyView userNum now)
  | .incrementAuthCount userNum now => .status (store.incrementAuthCount userNum now).2

/-! ## Users do not touch each other -/

/-- What a call of the user does to the entry of the user. -/
def entryStep (duration : TimeDuration) (maxAuth : UInt32) (entry : Option SessionEntry) :
    SessionCall → Option SessionEntry
  | .setKeys _ view now => some ((entry.getD (.new duration maxAuth)).setKeys view now)
  | .getKeyStatus .. | .tryGetKeyView .. => entry
  | .incrementAuthCount _ now => entry.map fun e => (e.incrementAuthCount now).1

variable {store}

theorem config_step (call : SessionCall) :
    (store.step call).keyDuration = store.keyDuration ∧
      (store.step call).maxAuthCount = store.maxAuthCount := by
  cases call with
  | setKeys userNum view now | getKeyStatus userNum now | tryGetKeyView userNum now =>
    exact ⟨rfl, rfl⟩
  | incrementAuthCount userNum now =>
    rw [step, incrementAuthCount]
    split <;> exact ⟨rfl, rfl⟩

theorem sessions_step_self (call : SessionCall) :
    (store.step call).sessions call.user =
      entryStep store.keyDuration store.maxAuthCount (store.sessions call.user) call := by
  cases call with
  | setKeys userNum view now => exact Function.update_self ..
  | getKeyStatus userNum now | tryGetKeyView userNum now => rfl
  | incrementAuthCount userNum now =>
    rw [step, incrementAuthCount, entryStep, SessionCall.user]
    cases hentry : store.sessions userNum with
    | none => exact hentry
    | some entry => exact Function.update_self ..

variable {call : SessionCall}

theorem sessions_step_other {user : UInt16} (hne : call.user ≠ user) :
    (store.step call).sessions user = store.sessions user := by
  cases call with
  | setKeys userNum view now => exact Function.update_of_ne (Ne.symm hne) ..
  | getKeyStatus userNum now | tryGetKeyView userNum now => rfl
  | incrementAuthCount userNum now =>
    rw [step, incrementAuthCount]
    split
    · rfl
    · exact Function.update_of_ne (Ne.symm hne) ..

/-- Two stores look alike to one user. -/
def Alike (user : UInt16) (s t : SessionStore) : Prop :=
  s.sessions user = t.sessions user ∧ s.keyDuration = t.keyDuration ∧
    s.maxAuthCount = t.maxAuthCount

variable {user : UInt16} {s t : SessionStore}

theorem Alike.step_self (h : Alike user s t) (huser : call.user = user) :
    Alike user (s.step call) (t.step call) := by
  obtain ⟨hentry, hduration, hmax⟩ := h
  refine ⟨?_, ?_, ?_⟩
  · subst huser
    rw [sessions_step_self, sessions_step_self, hentry, hduration, hmax]
  · rw [(config_step call).1, (config_step call).1, hduration]
  · rw [(config_step call).2, (config_step call).2, hmax]

theorem Alike.step_other (h : Alike user s t) (huser : call.user ≠ user) :
    Alike user (s.step call) t := by
  obtain ⟨hentry, hduration, hmax⟩ := h
  exact ⟨(sessions_step_other huser).trans hentry, (config_step call).1.trans hduration,
    (config_step call).2.trans hmax⟩

/-- The calls of the other users can be left out. -/
theorem Alike.run_filter (calls : List SessionCall) (h : Alike user s t) :
    Alike user (run step s calls) (run step t (calls.filter (·.user = user))) := by
  induction calls generalizing s t with
  | nil => exact h
  | cons call rest ih =>
    by_cases huser : call.user = user
    · rw [List.filter_cons_of_pos (by simpa using huser)]
      exact ih (h.step_self huser)
    · rw [List.filter_cons_of_neg (by simpa using huser)]
      exact ih (h.step_other huser)

theorem Alike.outcome_eq (h : Alike user s t) (huser : call.user = user) :
    s.outcome call = t.outcome call := by
  subst huser
  have hentry := h.1
  cases call with
  | setKeys userNum view now => rfl
  | getKeyStatus userNum now =>
    simp only [SessionCall.user] at hentry
    simp only [outcome, getKeyStatus, hentry]
  | tryGetKeyView userNum now =>
    simp only [SessionCall.user] at hentry
    simp only [outcome, tryGetKeyView, hentry]
  | incrementAuthCount userNum now =>
    simp only [SessionCall.user] at hentry
    simp only [outcome, incrementAuthCount, hentry]
    split <;> rfl

/-! ## The history of a user -/

/-- The last keys that were set for the user, when, and how many messages were counted since; the
    newest call stands first. -/
def lastSet (user : UInt16) : List SessionCall → Option (SessionKeysView × Timestamp × Nat)
  | [] => none
  | .setKeys userNum view now :: earlier =>
    if userNum = user then some (view, now, 0) else lastSet user earlier
  | .incrementAuthCount userNum _ :: earlier =>
    (lastSet user earlier).map fun (view, set, count) =>
      (view, set, if userNum = user then count + 1 else count)
  | .getKeyStatus .. :: earlier | .tryGetKeyView .. :: earlier => lastSet user earlier

theorem lastSet_other (hne : call.user ≠ user) (earlier : List SessionCall) :
    lastSet user (call :: earlier) = lastSet user earlier := by
  cases call with
  | setKeys userNum view now => exact if_neg hne
  | getKeyStatus userNum now | tryGetKeyView userNum now => rfl
  | incrementAuthCount userNum now =>
    rw [lastSet]
    simp only [SessionCall.user] at hne
    simp [hne]

variable {duration : TimeDuration} {maxAuth : UInt32}

/-- An entry agrees with keys set at a time and a number of messages counted since, seen from a
    later time. -/
structure Reflects (entry : SessionEntry) (duration : TimeDuration) (maxAuth : UInt32)
    (view : SessionKeysView) (set : Timestamp) (count : Nat) (now : Timestamp) : Prop where
  keys : entry.keys.getView = view.cut
  expires : entry.expirationTime = Timestamp.plus set duration
  bound : entry.maxAuthCount = maxAuth
  status : entry.status = .OK ∧ entry.authCount.toNat = count ∧ count < maxAuth.toNat ∨
    entry.status = .COMM_FAIL ∧ (maxAuth.toNat ≤ count ∨ Timestamp.plus set duration ≤ now)

section Entry

variable {entry : SessionEntry} {view : SessionKeysView} {set now later : Timestamp} {count : Nat}

theorem Reflects.mono (h : Reflects entry duration maxAuth view set count now)
    (hle : now ≤ later) : Reflects entry duration maxAuth view set count later where
  keys := h.keys
  expires := h.expires
  bound := h.bound
  status := h.status.imp_right fun ⟨hstatus, hend⟩ =>
    ⟨hstatus, hend.imp_right fun hpast => Int.le_trans hpast hle⟩

theorem reflects_setKeys (hmax : 1 ≤ maxAuth) (hduration : entry.keyDuration = duration)
    (hbound : entry.maxAuthCount = maxAuth) (view : SessionKeysView) (now : Timestamp) :
    Reflects (entry.setKeys view now) duration maxAuth view now 0 now where
  keys := rfl
  expires := by rw [SessionEntry.setKeys, hduration]
  bound := hbound
  status := Or.inl ⟨rfl, rfl, UInt32.le_iff_toNat_le.mp hmax⟩

/-- Counting a message: the entry follows, and latches the end when it comes. -/
theorem Reflects.increment (h : Reflects entry duration maxAuth view set count now) :
    Reflects (entry.incrementAuthCount now).1 duration maxAuth view set (count + 1) now := by
  obtain ⟨hkeys, hexpires, hbound, hstatus⟩ := h
  unfold SessionEntry.incrementAuthCount
  rcases hstatus with ⟨hok, hcount, hlt⟩ | ⟨hfail, hend⟩
  · rw [if_neg (not_not.mpr hok)]
    by_cases hpast : entry.expirationTime ≤ now
    · -- the time is over
      have hcheck : entry.checkTimeValidity now = .COMM_FAIL := if_pos hpast
      rw [hcheck, if_pos (by decide)]
      exact ⟨hkeys, hexpires, hbound, Or.inr ⟨rfl, Or.inr (hexpires ▸ hpast)⟩⟩
    · have hcheck : entry.checkTimeValidity now = .OK := if_neg hpast
      rw [hcheck, if_neg (by decide)]
      -- the count is below the maximum, so it does not wrap
      have hnext : (entry.authCount + 1).toNat = count + 1 := by
        have hmax := maxAuth.toNat_lt
        rw [UInt32.toNat_add, hcount]
        exact Nat.mod_eq_of_lt (by simpa using Nat.lt_of_le_of_lt hlt hmax)
      split
      · -- this message is the last one
        rename_i hfull
        rw [UInt32.le_iff_toNat_le, hbound, hnext] at hfull
        exact ⟨hkeys, hexpires, hbound, Or.inr ⟨rfl, Or.inl hfull⟩⟩
      · rename_i hroom
        rw [UInt32.le_iff_toNat_le, hbound, hnext] at hroom
        exact ⟨hkeys, hexpires, hbound, Or.inl ⟨hok, hnext, Nat.lt_of_not_le hroom⟩⟩
  · have hne : entry.status ≠ .OK := by
      rw [hfail]
      decide
    rw [if_pos hne]
    exact ⟨hkeys, hexpires, hbound,
      Or.inr ⟨hfail, hend.imp_left fun hle => Nat.le_succ_of_le hle⟩⟩

/-- What an entry gives out. -/
theorem Reflects.tryGetKeyView (h : Reflects entry duration maxAuth view set count now)
    {given : SessionKeysView} :
    entry.tryGetKeyView now = .ok given ↔
      now < Timestamp.plus set duration ∧ count < maxAuth.toNat ∧ given = view.cut := by
  obtain ⟨hkeys, hexpires, -, hstatus⟩ := h
  have hgiven : entry.tryGetKeyView now = .ok given ↔
      entry.getKeyStatus now = .OK ∧ given = view.cut := by
    rw [SessionEntry.tryGetKeyView, hkeys]
    split
    · rename_i hok
      rw [Except.ok.injEq, and_iff_right hok, eq_comm]
    · rename_i hbad
      exact iff_of_false (by rintro ⟨⟩) fun hok => hbad hok.1
  rw [hgiven, SessionEntry.getKeyStatus, ← and_assoc]
  refine and_congr_left fun _ => ?_
  rcases hstatus with ⟨hok, -, hlt⟩ | ⟨hfail, hend⟩
  · -- nothing is latched, so the time decides
    rw [if_neg (not_not.mpr hok), SessionEntry.checkTimeValidity, hexpires, and_iff_left hlt]
    split
    · rename_i hpast
      exact iff_of_false (by decide) (Int.not_lt.mpr hpast)
    · rename_i hfuture
      exact iff_of_true rfl (Int.not_le.mp hfuture)
  · -- an end was latched, and it still stands
    rw [hfail, if_pos (by decide)]
    refine iff_of_false (by decide) fun ⟨hfuture, hlt⟩ => ?_
    rcases hend with hfull | hpast
    · exact absurd hlt (Nat.not_lt.mpr hfull)
    · exact absurd hfuture (Int.not_lt.mpr hpast)

end Entry

/-- What the store knows of the user is what the history says. -/
def Knows (user : UInt16) (duration : TimeDuration) (maxAuth : UInt32) (store : SessionStore)
    (history : List SessionCall) (now : Timestamp) : Prop :=
  store.keyDuration = duration ∧ store.maxAuthCount = maxAuth ∧
    match store.sessions user with
    | none => lastSet user history = none
    | some entry => entry.keyDuration = duration ∧ ∃ view set count,
        lastSet user history = some (view, set, count) ∧
          Reflects entry duration maxAuth view set count now

theorem keyDuration_increment (entry : SessionEntry) (now : Timestamp) :
    (entry.incrementAuthCount now).1.keyDuration = entry.keyDuration := by
  unfold SessionEntry.incrementAuthCount
  split
  · rfl
  · split
    · rfl
    · split <;> rfl

variable {history : List SessionCall} {now later : Timestamp}

theorem Knows.mono (h : Knows user duration maxAuth store history now) (hle : now ≤ later) :
    Knows user duration maxAuth store history later := by
  obtain ⟨hduration, hmaxAuth, hentry⟩ := h
  refine ⟨hduration, hmaxAuth, ?_⟩
  cases hsession : store.sessions user with
  | none =>
    rw [hsession] at hentry
    exact hentry
  | some entry =>
    rw [hsession] at hentry
    obtain ⟨hd, view, set, count, hlast, hreflects⟩ := hentry
    exact ⟨hd, view, set, count, hlast, hreflects.mono hle⟩

/-- **One call** keeps store and history together. -/
theorem Knows.step (hmax : 1 ≤ maxAuth) (call : SessionCall)
    (h : Knows user duration maxAuth store history call.time) :
    Knows user duration maxAuth (store.step call) (call :: history) call.time := by
  obtain ⟨hduration, hmaxAuth, hentry⟩ := h
  refine ⟨(config_step call).1.trans hduration, (config_step call).2.trans hmaxAuth, ?_⟩
  by_cases huser : call.user = user
  case neg =>
    rw [sessions_step_other huser, lastSet_other huser]
    exact hentry
  subst huser
  rw [sessions_step_self, hduration, hmaxAuth]
  cases call with
  | getKeyStatus userNum now | tryGetKeyView userNum now => exact hentry
  | setKeys userNum view now =>
    simp only [SessionCall.user, entryStep] at hentry ⊢
    -- a new entry and an old one have the same limits
    have hlimits : ((store.sessions userNum).getD (.new duration maxAuth)).keyDuration = duration ∧
        ((store.sessions userNum).getD (.new duration maxAuth)).maxAuthCount = maxAuth := by
      cases hsession : store.sessions userNum with
      | none => exact ⟨rfl, rfl⟩
      | some entry =>
        rw [hsession] at hentry
        obtain ⟨hd, view', set, count, -, hreflects⟩ := hentry
        exact ⟨hd, hreflects.bound⟩
    exact ⟨hlimits.1, view, now, 0, if_pos rfl, reflects_setKeys hmax hlimits.1 hlimits.2 view now⟩
  | incrementAuthCount userNum now =>
    simp only [SessionCall.user, SessionCall.time, entryStep] at hentry ⊢
    cases hsession : store.sessions userNum with
    | none =>
      rw [hsession] at hentry
      simp [lastSet, hentry]
    | some entry =>
      rw [hsession] at hentry
      obtain ⟨hd, view, set, count, hlast, hreflects⟩ := hentry
      refine ⟨(keyDuration_increment entry now).trans hd, view, set, count + 1, ?_,
        hreflects.increment⟩
      simp [lastSet, hlast]

/-- **Runs of calls** at times that do not decrease. -/
theorem reflects_run (duration : TimeDuration) (hmax : 1 ≤ maxAuth) (user : UInt16)
    (calls : List SessionCall) (now : Timestamp)
    (htimes : (calls.map SessionCall.time ++ [now]).Pairwise (· ≤ ·)) :
    Knows user duration maxAuth (run step (new duration maxAuth) calls) calls.reverse now := by
  -- from the last call back, since a history has its newest call first
  induction calls using List.reverseRecOn generalizing now with
  | nil => exact ⟨rfl, rfl, rfl⟩
  | append_singleton calls call ih =>
    rw [List.map_append, List.map_singleton] at htimes
    obtain ⟨hbefore, -, hlater⟩ := List.pairwise_append.mp htimes
    have hle : call.time ≤ now :=
      hlater call.time (List.mem_append_right _ List.mem_cons_self) now List.mem_cons_self
    rw [List.reverse_append, run, List.foldl_append]
    exact ((ih call.time hbefore).step hmax call).mono hle

/-- **Session keys and the history**: whatever the calls were, a user gets keys exactly if keys
    were set for this user, their time is not over, and fewer messages than allowed were counted
    since.  They are the keys that were set last, cut to the size of the buffers.  Calls for other
    users make no difference to any result. -/
theorem tryGetKeyView_iff_history (hmax : 1 ≤ maxAuth) (user : UInt16) (calls : List SessionCall)
    (now : Timestamp) (htimes : (calls.map SessionCall.time ++ [now]).Pairwise (· ≤ ·)) :
    (∀ given, (run step (new duration maxAuth) calls).tryGetKeyView user now = .ok given ↔
      ∃ view set count, lastSet user calls.reverse = some (view, set, count) ∧
        now < Timestamp.plus set duration ∧ count < maxAuth.toNat ∧ given = view.cut) ∧
      ∀ call, SessionCall.user call = user →
        (run step (new duration maxAuth) calls).outcome call =
          (run step (new duration maxAuth) (calls.filter (·.user = user))).outcome call := by
  constructor
  · intro given
    obtain ⟨-, -, hentry⟩ := reflects_run duration hmax user calls now htimes
    rw [tryGetKeyView]
    cases hsession : (run step (new duration maxAuth) calls).sessions user with
    | none =>
      rw [hsession] at hentry
      refine iff_of_false (by rintro ⟨⟩) ?_
      rintro ⟨view, set, count, hlast, -⟩
      rw [hentry] at hlast
      cases hlast
    | some entry =>
      rw [hsession] at hentry
      obtain ⟨-, view, set, count, hlast, hreflects⟩ := hentry
      simp only [hlast, Option.some.injEq, Prod.mk.injEq]
      rw [hreflects.tryGetKeyView]
      constructor
      · exact fun h => ⟨view, set, count, ⟨rfl, rfl, rfl⟩, h⟩
      · rintro ⟨_, _, _, ⟨rfl, rfl, rfl⟩, h⟩
        exact h
  -- calls for other users leave this one's entry alone
  · exact fun call huser => (Alike.run_filter calls ⟨rfl, rfl, rfl⟩).outcome_eq huser

/-- Two messages may be counted; user 1 counts one, user 2 another. -/
theorem tryGetKeyView_sample :
    (run step (new 100 2) [.setKeys 1 ⟨[1], [2]⟩ 10, .setKeys 2 ⟨[3], [4]⟩ 11,
      .incrementAuthCount 1 12, .incrementAuthCount 2 12]).tryGetKeyView 1 50 = .ok ⟨[1], [2]⟩ :=
  ((tryGetKeyView_iff_history (by decide) 1 [.setKeys 1 ⟨[1], [2]⟩ 10, .setKeys 2 ⟨[3], [4]⟩ 11,
    .incrementAuthCount 1 12, .incrementAuthCount 2 12] 50 (by decide)).1 _).mpr
      ⟨⟨[1], [2]⟩, 10, 1, by decide, by decide, by decide, by decide⟩

/-- A key of 33 bytes comes back shorter. -/
theorem tryGetKeyView_cut :
    let calls := [.setKeys 1 ⟨List.replicate 33 7, [2]⟩ 10]
    lastSet 1 calls.reverse = some (⟨List.replicate 33 7, [2]⟩, 10, 0) ∧
      (run step (new 100 2) calls).tryGetKeyView 1 50 = .ok ⟨List.replicate 32 7, [2]⟩ := by
  decide

end SessionStore

end OpenDnp3.SecAuth
