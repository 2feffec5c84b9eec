import Mathlib.Data.List.TakeDrop
import OpenDnp3.SecAuth.Objects

/-!
# Changing keys

Two procedures change keys, and each begins with a random challenge of the outstation that the
master has to repeat.  `SessionKeyChangeState` writes a key status object and later recognises it;
`UpdateKeyChangeState` writes a challenge and keeps what is needed to verify the reply.  Both
change their state before the last point at which they can fail.
-/

namespace OpenDnp3.SecAuth

open App Lib

/-! ## Session keys -/

/-- `Group120Var5::Read`, as far as it is compared: the two numbers, if the object is long enough
    for its fixed part and for the challenge it announces. -/
def Group120Var5.readNumbers (buffer : List UInt8) : Option (UInt32 × UInt16) :=
  match buffer.drop 6 with
  | _ :: _ :: _ :: low :: high :: rest =>
    if rest.length < decodeLE [low, high] then none
    else some (decodeU32 buffer, decodeU16 (buffer.drop 4))
  | _ => none

/-- The arguments of `FormatKeyStatusResponse`. -/
structure StatusCall where
  writer : HeaderWriter
  userNum : UInt16
  hmacType : HMACType
  keyWrapAlgo : KeyWrapAlgorithm
  status : KeyStatus
  hmac : List UInt8
  random : Draw

/-- `SessionKeyChangeState`; of `statusRsp` only the numbers are read. -/
structure SessionKeyChangeState where
  challengeSize : Nat
  bounded : challengeSize ≤ maxChallengeDataSize
  keyChangeSeqNum : UInt32
  statusKSQ : UInt32
  statusUser : UInt16

namespace SessionKeyChangeState

def new (challengeSize : Nat) : SessionKeyChangeState :=
  ⟨getBoundedChallengeSize challengeSize, getBoundedChallengeSize_le _, 0, 0, 0⟩

variable (s : SessionKeyChangeState)

/-- The object of a call. -/
def statusRsp (c : StatusCall) : Group120Var5 :=
  ⟨s.keyChangeSeqNum + 1, c.userNum, c.keyWrapAlgo, c.status, c.hmacType,
    c.random.take s.challengeSize, c.hmac⟩

/-- `FormatKeyStatusResponse`: the state, and the object if it was written. -/
def formatKeyStatusResponse (c : StatusCall) : SessionKeyChangeState × Option Group120Var5 :=
  if c.random.ok = false then
    (s, none)
  else
    -- the numbers are kept even if there is no room for the object
    ({ s with
        keyChangeSeqNum := s.keyChangeSeqNum + 1
        statusKSQ := s.keyChangeSeqNum + 1
        statusUser := c.userNum },
      (writeFreeFormat c.writer ⟨120, 5⟩ (s.statusRsp c).bytes).map fun _ => s.statusRsp c)

/-- `EqualsLastStatusResponse`. -/
def equalsLastStatusResponse (object : List UInt8) : Bool :=
  match Group120Var5.readNumbers object with
  | none => false
  -- neither the status nor the challenge nor the HMAC is compared
  | some (ksq, user) => ksq == s.statusKSQ && user == s.statusUser

/-- The object begins with these numbers, and has a challenge as long as it says. -/
def Names (ksq : UInt32) (user : UInt16) (object : List UInt8) : Prop :=
  ∃ algo status hmac len rest, len < 65536 ∧ len ≤ List.length rest ∧
    object = encodeU32 ksq ++ (encodeU16 user ++
      (algo :: status :: hmac :: (encodeLE 2 len ++ rest)))

variable {object : List UInt8}

theorem readNumbers_of_names {ksq : UInt32} {user : UInt16} (h : Names ksq user object) :
    Group120Var5.readNumbers object = some (ksq, user) := by
  obtain ⟨algo, status, hmac, len, rest, hlen, hle, rfl⟩ := h
  generalize hbehind : algo :: status :: hmac :: (encodeLE 2 len ++ rest) = behind
  have hdrop : (encodeU32 ksq ++ (encodeU16 user ++ behind)).drop 6 = behind := by
    rw [← List.append_assoc]
    exact List.drop_left' (by simp)
  have hskip : (encodeU32 ksq ++ (encodeU16 user ++ behind)).drop 4 = encodeU16 user ++ behind :=
    List.drop_left' (length_encodeU32 ksq)
  rw [Group120Var5.readNumbers, hdrop, hskip, ← hbehind]
  simp only [encodeLE, List.cons_append, List.nil_append, decodeLE_pair hlen,
    if_neg (Nat.not_lt.mpr hle), decodeU32_encodeU32_append, decodeU16_encodeU16_append]

theorem names_of_readNumbers {ksq : UInt32} {user : UInt16}
    (h : Group120Var5.readNumbers object = some (ksq, user)) : Names ksq user object := by
  unfold Group120Var5.readNumbers at h
  split at h
  case h_2 => cases h
  rename_i algo status hmac low high rest hdrop
  split at h
  · cases h
  rename_i hlong
  cases h
  -- something stands behind the numbers, so the numbers are complete
  have hlength : 6 ≤ object.length := by
    by_contra hshort
    rw [List.drop_eq_nil_of_le (by omega)] at hdrop
    cases hdrop
  have htwo : 2 ≤ (object.drop 4).length := by
    rw [List.length_drop]
    omega
  have hfirst : encodeU32 (decodeU32 object) = object.take 4 := encodeU32_decodeU32 (by omega)
  have hrest : (object.drop 4).drop 2 = object.drop 6 := List.drop_drop
  have hsmall : decodeLE [low, high] < 65536 := by simpa using decodeLE_lt [low, high]
  refine ⟨algo, status, hmac, decodeLE [low, high], rest, hsmall, Nat.le_of_not_lt hlong, ?_⟩
  rw [encodeLE_pair, hfirst, encodeU16_decodeU16 htwo, List.cons_append, List.cons_append,
    List.nil_append, ← hdrop, ← hrest, List.take_append_drop, List.take_append_drop]

/-- **What is recognised**: the numbers of the object formatted last, and nothing else of it. -/
theorem equalsLastStatusResponse_eq_true_iff :
    s.equalsLastStatusResponse object = true ↔ Names s.statusKSQ s.statusUser object := by
  rw [equalsLastStatusResponse]
  split
  · rename_i hnone
    refine iff_of_false (by decide) fun hnames => ?_
    rw [readNumbers_of_names hnames] at hnone
    cases hnone
  · rename_i ksq user hread
    rw [Bool.and_eq_true, beq_iff_eq, beq_iff_eq]
    constructor
    · rintro ⟨rfl, rfl⟩
      exact names_of_readNumbers hread
    · intro hnames
      rw [readNumbers_of_names hnames, Option.some.injEq, Prod.mk.injEq] at hread
      exact ⟨hread.1.symm, hread.2.symm⟩

end SessionKeyChangeState

/-- The state beside the object that was written last. -/
structure StatusHistory where
  state : SessionKeyChangeState
  written : Option Group120Var5

namespace StatusHistory

open SessionKeyChangeState

def start (challengeSize : Nat) : StatusHistory := ⟨.new challengeSize, none⟩

def step (s : StatusHistory) (c : StatusCall) : StatusHistory :=
  ⟨(s.state.formatKeyStatusResponse c).1, (s.state.formatKeyStatusResponse c).2.or s.written⟩

/-- The bytes of the object written last, with up to seven zeros behind them. -/
def Genuine (s : StatusHistory) (object : List UInt8) : Prop :=
  ∃ rsp ∈ s.written, ∃ n ≤ 7, object = rsp.bytes ++ List.replicate n 0

/-- Challenges are as short as the buffer. -/
def Short (s : StatusHistory) : Prop := ∀ rsp ∈ s.written, rsp.challengeData.length ≤ 64

theorem short_step (s : StatusHistory) (c : StatusCall) (h : s.Short) : (s.step c).Short := by
  intro rsp hrsp
  simp only [step, formatKeyStatusResponse] at hrsp
  split at hrsp
  · exact h rsp hrsp
  · rcases Option.or_eq_some_iff.mp hrsp with hnew | ⟨-, hold⟩
    · obtain ⟨-, -, rfl⟩ := Option.map_eq_some_iff.mp hnew
      exact Nat.le_trans (Nat.le_of_eq (Draw.length_take _ s.state.bounded)) s.state.bounded
    · exact h rsp hold

/-- An object with zeros behind it still has its own numbers. -/
theorem names_bytes {rsp : Group120Var5} (hshort : rsp.challengeData.length ≤ 64) (n : Nat) :
    Names rsp.keyChangeSeqNum rsp.userNum (rsp.bytes ++ List.replicate n 0) := by
  refine ⟨rsp.keyWrapAlgo.toType, rsp.keyStatus.toType, rsp.hmacAlgo.toType,
    rsp.challengeData.length, rsp.challengeData ++ (rsp.hmacValue ++ List.replicate n 0),
    by omega, ?_, ?_⟩
  · rw [List.length_append]
    omega
  · simp [Group120Var5.bytes]

/-- Behind the numbers formatted last, anything may stand. -/
theorem exists_forged (s : StatusHistory) : ∃ object,
    s.state.equalsLastStatusResponse object = true ∧ ¬ s.Genuine object := by
  -- an object that is longer than the one written last with all its padding
  let size := (s.written.map fun rsp => rsp.bytes.length).getD 0
  refine ⟨encodeU32 s.state.statusKSQ ++ (encodeU16 s.state.statusUser ++
    (0 :: 0 :: 0 :: (encodeLE 2 0 ++ List.replicate (size + 8) 0))), ?_, ?_⟩
  · rw [equalsLastStatusResponse_eq_true_iff]
    exact ⟨0, 0, 0, 0, _, by decide, Nat.zero_le _, rfl⟩
  · rintro ⟨rsp, hrsp, n, hn, heq⟩
    have hsize : size = rsp.bytes.length := by
      simp only [size, show s.written = some rsp from hrsp]
      rfl
    have hlength := congrArg List.length heq
    simp [hsize] at hlength
    omega

/-- An object written last is recognised exactly if its numbers are the ones formatted last. -/
theorem recognised_genuine_iff {s : StatusHistory} (hshort : s.Short) :
    (∀ object, s.Genuine object → s.state.equalsLastStatusResponse object = true) ↔
      ∀ rsp ∈ s.written,
        rsp.keyChangeSeqNum = s.state.statusKSQ ∧ rsp.userNum = s.state.statusUser := by
  constructor
  · intro haccepted rsp hrsp
    have hlast := haccepted _ ⟨rsp, hrsp, 0, Nat.zero_le _, rfl⟩
    -- only one pair of numbers can be read from an object
    rw [equalsLastStatusResponse_eq_true_iff] at hlast
    have hread := readNumbers_of_names hlast
    rw [readNumbers_of_names (names_bytes (hshort rsp hrsp) 0), Option.some.injEq,
      Prod.mk.injEq] at hread
    exact hread
  · rintro hnumbers object ⟨rsp, hrsp, n, -, rfl⟩
    obtain ⟨hksq, huser⟩ := hnumbers rsp hrsp
    rw [equalsLastStatusResponse_eq_true_iff, ← hksq, ← huser]
    exact names_bytes (hshort rsp hrsp) n

/-- **Recognising the status object**: after every history of calls some object is recognised that
    is not the one written last.  That one is recognised, with any padding, if and only if its
    numbers are the ones formatted last. -/
theorem status_recognised_iff (challengeSize : Nat) (history : List StatusCall) :
    let s := run step (start challengeSize) history
    ¬ (∀ object, s.state.equalsLastStatusResponse object = true → s.Genuine object) ∧
      ((∀ object, s.Genuine object → s.state.equalsLastStatusResponse object = true) ↔
        ∀ rsp ∈ s.written,
          rsp.keyChangeSeqNum = s.state.statusKSQ ∧ rsp.userNum = s.state.statusUser) := by
  intro s
  have hstart : (start challengeSize).Short := fun rsp hrsp => absurd hrsp (by simp [start])
  refine ⟨fun hall => ?_, recognised_genuine_iff (invariant_run short_step hstart history)⟩
  obtain ⟨object, haccepted, hforged⟩ := s.exists_forged
  exact hforged (hall object haccepted)

/-- A call that writes an object with a challenge of four zeros. -/
def sampleCall (size : Nat) : StatusCall :=
  ⟨⟨List.replicate size 0, 0⟩, 1, .NO_MAC_VALUE, .AES_128, .OK, [], ⟨Vector.replicate _ 0, true⟩⟩

/-- An object with another status and another challenge is recognised. -/
theorem forged_status_recognised :
    let s := run step (start 4) [sampleCall 50]
    let forged : Group120Var5 := ⟨1, 1, .AES_128, .AUTH_FAIL, .NO_MAC_VALUE, [9, 9, 9, 9], []⟩
    s.state.equalsLastStatusResponse forged.bytes = true ∧ ¬ s.Genuine forged.bytes := by
  refine ⟨by decide +kernel, ?_⟩
  rintro ⟨rsp, hrsp, n, -, heq⟩
  have hwritten : (run step (start 4) [sampleCall 50]).written =
      some ⟨1, 1, .AES_128, .OK, .NO_MAC_VALUE, [0, 0, 0, 0], []⟩ := by decide +kernel
  rw [hwritten] at hrsp
  cases hrsp
  -- the status stands in the eighth byte
  have hbyte := congrArg (List.take 8) heq
  rw [List.take_append_of_le_length (by decide)] at hbyte
  exact absurd hbyte (by decide)

end StatusHistory

/-! ## Update keys -/

/-- `UpdateKeyChangeState::VerificationData` as a caller sees it. -/
structure VerificationData where
  username : List UInt8
  masterChallenge : List UInt8
  outstationChallenge : List UInt8
  keyChangeSeqNum : UInt32
  userNum : UInt16
  deriving DecidableEq

/-- The arguments of `WriteUpdateKeyChangeResponse`. -/
structure UpdateCall where
  writer : HeaderWriter
  ksq : UInt32
  username : List UInt8
  masterChallengeData : List UInt8
  freeUserNum : UInt16
  random : Draw

/-- What is stored: the challenges are views of the two buffers, and only their lengths are part
    of it. -/
structure StoredData where
  username : List UInt8
  masterLength : Nat
  outstationLength : Nat
  keyChangeSeqNum : UInt32
  userNum : UInt16

/-- `UpdateKeyChangeState`, with the data while it is valid. -/
structure UpdateKeyChangeState where
  challengeSize : Nat
  bounded : challengeSize ≤ maxChallengeDataSize
  data : Option StoredData
  masterChallengeBuffer : List UInt8
  outstationChallengeBuffer : List UInt8

namespace UpdateKeyChangeState

def new (challengeSize : Nat) : UpdateKeyChangeState :=
  ⟨getBoundedChallengeSize challengeSize, getBoundedChallengeSize_le _, none,
    List.replicate maxChallengeDataSize 0, List.replicate maxChallengeDataSize 0⟩

variable (s : UpdateKeyChangeState)

/-- The reply of a call. -/
def reply (c : UpdateCall) : Group120Var12 :=
  ⟨c.ksq, c.freeUserNum, c.random.take s.challengeSize⟩

/-- Both challenges go into the buffers before anything can fail. -/
def overwrite (c : UpdateCall) : UpdateKeyChangeState :=
  { s with
    masterChallengeBuffer :=
      writeAt s.masterChallengeBuffer 0 (c.masterChallengeData.take maxChallengeDataSize)
    outstationChallengeBuffer :=
      writeAt s.outstationChallengeBuffer 0 (c.random.take s.challengeSize) }

/-- `WriteUpdateKeyChangeResponse`. -/
def writeUpdateKeyChangeResponse (c : UpdateCall) : UpdateKeyChangeState × Bool :=
  if c.random.ok = false then
    (s.overwrite c, false)
  else
    match writeFreeFormat c.writer ⟨120, 12⟩ (s.reply c).bytes with
    | none => (s.overwrite c, false)
    | some _ =>
      -- the views keep their lengths and go on looking at the buffers
      ({ s.overwrite c with
          data := some ⟨c.username, min c.masterChallengeData.length maxChallengeDataSize,
            s.challengeSize, c.ksq, c.freeUserNum⟩ }, true)

/-- `Reset`. -/
def reset : UpdateKeyChangeState := { s with data := none }

/-- Stored data, with what its views show now. -/
def view (d : StoredData) : VerificationData :=
  ⟨d.username, s.masterChallengeBuffer.take d.masterLength,
    s.outstationChallengeBuffer.take d.outstationLength, d.keyChangeSeqNum, d.userNum⟩

/-- `VerifyUserAndKSQ`. -/
def verifyUserAndKSQ (ksq : UInt32) (userNum : UInt16) : Option VerificationData :=
  (s.data.filter fun d => ksq == d.keyChangeSeqNum && userNum == d.userNum).map s.view

/-- The generator works and the writer has room for the reply. -/
def Writes (c : UpdateCall) : Prop := c.random.ok = true ∧ HasRoom c.writer (s.reply c).bytes

variable {s}

variable {c : UpdateCall}

theorem write_of_writes (h : s.Writes c) :
    s.writeUpdateKeyChangeResponse c =
      ({ s.overwrite c with
          data := some ⟨c.username, min c.masterChallengeData.length maxChallengeDataSize,
            s.challengeSize, c.ksq, c.freeUserNum⟩ }, true) := by
  cases hwrite : writeFreeFormat c.writer ⟨120, 12⟩ (s.reply c).bytes with
  | none => exact absurd h.2 ((writeFreeFormat_eq_none_iff _).mp hwrite)
  | some w => simp [writeUpdateKeyChangeResponse, h.1, hwrite]

theorem write_of_not_writes (h : ¬ s.Writes c) :
    s.writeUpdateKeyChangeResponse c = (s.overwrite c, false) := by
  cases hok : c.random.ok with
  | false => simp only [writeUpdateKeyChangeResponse, hok, if_true]
  | true =>
    have hnone := (writeFreeFormat_eq_none_iff ⟨120, 12⟩).mpr fun hroom => h ⟨hok, hroom⟩
    simp [writeUpdateKeyChangeResponse, hok, hnone]

/-- A view of what has just been written from the start of a buffer. -/
theorem take_overwritten (buffer bytes : List UInt8) :
    (writeAt buffer 0 bytes).take bytes.length = bytes := by
  have htake := take_add_writeAt bytes (Nat.zero_le buffer.length)
  rw [Nat.zero_add, List.take_zero, List.nil_append] at htake
  exact htake

/-- What a view shows after its buffer has been overwritten from the start. -/
theorem take_overwritten_eq_iff {buffer bytes : List UInt8} {n : Nat} :
    (writeAt buffer 0 bytes).take n = buffer.take n ↔
      bytes.take n = (buffer.take n).take bytes.length := by
  have hbehind : (buffer.drop bytes.length).take (n - bytes.length) =
      (buffer.take n).drop bytes.length := List.drop_take.symm
  have hafter : (writeAt buffer 0 bytes).take n =
      bytes.take n ++ (buffer.take n).drop bytes.length := by
    rw [writeAt, List.take_zero, List.nil_append, Nat.zero_add, List.take_append, hbehind]
  have hbefore : buffer.take n =
      (buffer.take n).take bytes.length ++ (buffer.take n).drop bytes.length :=
    (List.take_append_drop ..).symm
  rw [hafter]
  nth_rewrite 2 [hbefore]
  exact List.append_left_inj _

/-- What a call writes into the buffers is what the views of stored data show there. -/
def Undisturbed (s : UpdateKeyChangeState) (c : UpdateCall) (d : StoredData) : Prop :=
  let copied := c.masterChallengeData.take maxChallengeDataSize
  let drawn := c.random.take s.challengeSize
  copied.take d.masterLength = (s.view d).masterChallenge.take copied.length ∧
    drawn.take d.outstationLength = (s.view d).outstationChallenge.take drawn.length

theorem view_overwrite_eq_iff {d : StoredData} :
    (s.overwrite c).view d = s.view d ↔ s.Undisturbed c d := by
  simp only [view, overwrite, VerificationData.mk.injEq, true_and, and_true, Undisturbed,
    take_overwritten_eq_iff]

end UpdateKeyChangeState

/-- The calls of a history. -/
inductive UpdateStep
  | write (call : UpdateCall)
  | reset

/-- The state beside the last call that wrote a response. -/
structure UpdateHistory where
  state : UpdateKeyChangeState
  last : Option UpdateCall

namespace UpdateHistory

open UpdateKeyChangeState

def start (challengeSize : Nat) : UpdateHistory := ⟨.new challengeSize, none⟩

def step (s : UpdateHistory) : UpdateStep → UpdateHistory
  | .write c =>
    ⟨(s.state.writeUpdateKeyChangeResponse c).1,
      if (s.state.writeUpdateKeyChangeResponse c).2 then some c else s.last⟩
  | .reset => ⟨s.state.reset, s.last⟩

/-- The verification data of a call, complete. -/
def verification (s : UpdateHistory) (c : UpdateCall) : VerificationData :=
  ⟨c.username, c.masterChallengeData, c.random.take s.state.challengeSize, c.ksq, c.freeUserNum⟩

/-- Whatever is verified, the data is that of the last response. -/
def Sound (s : UpdateHistory) : Prop :=
  ∀ ksq user data, s.state.verifyUserAndKSQ ksq user = some data →
    ∃ c ∈ s.last, data = s.verification c

/-- A call that writes a response has a master challenge that can be kept; one that fails leaves
    no trace in the challenges that are kept. -/
def Keeps (s : UpdateHistory) (i : UpdateStep) : Prop :=
  ∀ c, i = .write c →
    (s.state.Writes c → c.masterChallengeData.length ≤ maxChallengeDataSize) ∧
    (¬ s.state.Writes c → ∀ d ∈ s.state.data, s.state.Undisturbed c d)

variable {s : UpdateHistory}

theorem sound_iff :
    s.Sound ↔ ∀ d ∈ s.state.data, ∃ c ∈ s.last, s.state.view d = s.verification c := by
  constructor
  · intro h d hd
    apply h d.keyChangeSeqNum d.userNum
    rw [verifyUserAndKSQ, hd]
    simp
  · intro h ksq user data hverify
    obtain ⟨d, hd, rfl⟩ := Option.map_eq_some_iff.mp hverify
    exact h d (Option.filter_eq_some_iff.mp hd).1

/-- **A response is written**: what is stored is complete if the master challenge fits. -/
theorem sound_write_iff {c : UpdateCall} (h : s.state.Writes c) :
    (s.step (.write c)).Sound ↔ c.masterChallengeData.length ≤ maxChallengeDataSize := by
  -- the outstation's own challenge always fits, so only the copy of the other one can be cut
  generalize hcopied : c.masterChallengeData.take maxChallengeDataSize = copied
  have hlength : min c.masterChallengeData.length maxChallengeDataSize = copied.length := by
    rw [← hcopied, List.length_take, Nat.min_comm]
  have hmaster : (writeAt s.state.masterChallengeBuffer 0 copied).take copied.length = copied :=
    take_overwritten _ copied
  generalize hdrawn : c.random.take s.state.challengeSize = drawn
  have hsize : s.state.challengeSize = drawn.length := by
    rw [← hdrawn, Draw.length_take _ s.state.bounded]
  have houtstation : (writeAt s.state.outstationChallengeBuffer 0 drawn).take drawn.length =
      drawn := take_overwritten _ drawn
  rw [sound_iff, step, write_of_writes h]
  simp only [Option.mem_def, Option.some.injEq, forall_eq', exists_eq_left', if_true, view,
    overwrite, verification, hcopied, hdrawn, hlength, VerificationData.mk.injEq, true_and,
    and_true, hmaster]
  rw [hsize, houtstation, and_iff_left rfl, ← hcopied]
  exact List.take_eq_self_iff _

/-- **A response is not written**: the data stays right if nothing of it was overwritten. -/
theorem sound_failed_iff {c : UpdateCall} (hsound : s.Sound) (h : ¬ s.state.Writes c) :
    (s.step (.write c)).Sound ↔ ∀ d ∈ s.state.data, s.state.Undisturbed c d := by
  rw [sound_iff] at hsound
  have hstep : s.step (.write c) = ⟨s.state.overwrite c, s.last⟩ := by
    rw [step, write_of_not_writes h]
    rfl
  rw [sound_iff, hstep]
  refine forall₂_congr fun d hd => ?_
  -- the last response is the same as before, so the views have to show the same
  obtain ⟨last, hlast, hview⟩ := hsound d hd
  rw [← view_overwrite_eq_iff, hview]
  constructor
  · rintro ⟨other, hother, heq⟩
    cases Option.mem_unique hlast hother
    exact heq
  · exact fun heq => ⟨last, hlast, heq⟩

theorem sound_step_iff (s : UpdateHistory) (i : UpdateStep) (hsound : s.Sound) :
    (s.step i).Sound ↔ s.Keeps i := by
  cases i with
  | reset =>
    refine iff_of_true (sound_iff.mpr ?_) (by rintro c ⟨⟩)
    rintro d ⟨⟩
  | write c =>
    have hkeeps : s.Keeps (.write c) ↔
        (s.state.Writes c → c.masterChallengeData.length ≤ maxChallengeDataSize) ∧
          (¬ s.state.Writes c → ∀ d ∈ s.state.data, s.state.Undisturbed c d) := by
      constructor
      · exact fun h => h c rfl
      · rintro h _ ⟨⟩
        exact h
    rw [hkeeps]
    by_cases hwrites : s.state.Writes c
    · rw [sound_write_iff hwrites]
      exact ⟨fun h => ⟨fun _ => h, fun hnot => absurd hwrites hnot⟩, fun h => h.1 hwrites⟩
    · rw [sound_failed_iff hsound hwrites]
      exact ⟨fun h => ⟨fun hyes => absurd hyes hwrites, fun _ => h⟩, fun h => h.2 hwrites⟩

/-- **Verification data over a history**: it is always complete and that of the last response, if
    and only if every call that writes a response has a master challenge of at most 64 bytes, and
    every call that fails while data is stored writes into the buffers what is there. -/
theorem verification_data_iff (challengeSize : Nat) (history : List UpdateStep) :
    Always step Sound (start challengeSize) history ↔
      Along step Keeps (start challengeSize) history := by
  have hstart : (start challengeSize).Sound := by
    rw [sound_iff]
    rintro d ⟨⟩
  exact always_iff_along sound_step_iff hstart

/-- A call with a writer of this size. -/
def sampleUpdate (challenge : List UInt8) (ok : Bool) : UpdateCall :=
  ⟨⟨List.replicate 50 0, 0⟩, 1, [111, 112], challenge, 7, ⟨Vector.replicate _ 0, ok⟩⟩

/-- A call fails, but its challenge is verified for the one before it. -/
theorem failed_call_changes_challenge :
    let s := run step (start 4) [.write (sampleUpdate [1, 2, 3, 4] true),
      .write (sampleUpdate [9, 9, 9, 9] false)]
    s.last.map (·.masterChallengeData) = some [1, 2, 3, 4] ∧
      (s.state.verifyUserAndKSQ 1 7).map (·.masterChallenge) = some [9, 9, 9, 9] := by
  decide +kernel

end UpdateHistory

end OpenDnp3.SecAuth
