import OpenDnp3.SecAuth.Objects

/-!
# Challenges of the outstation

A critical request is put off until its sender has answered a challenge.  `ChallengeState` keeps
the request, and the response with the challenge, since the answer is an HMAC of both.  It also
tells the header of the request that it keeps.
-/

namespace OpenDnp3.SecAuth

open App Lib

/-! ## The code -/

/-- `DEFAULT_MAX_APDU_SIZE`. -/
def maxASDUSize : Nat := 2048

/-- `DeferredASDU`: a copy that its buffer can hold, if one is set. -/
structure DeferredASDU where
  data : Option (List UInt8)
  fits : ∀ asdu ∈ data, asdu.length ≤ maxASDUSize

namespace DeferredASDU

def empty : DeferredASDU := ⟨none, by simp⟩

/-- `DeferredASDU::Set`; what is too long leaves the old copy in place. -/
def set (d : DeferredASDU) (asdu : List UInt8) : DeferredASDU :=
  if h : asdu.length ≤ maxASDUSize then ⟨some asdu, by rintro _ ⟨⟩; exact h⟩ else d

def get (d : DeferredASDU) : List UInt8 := d.data.getD []

theorem length_get_le (d : DeferredASDU) : d.get.length ≤ maxASDUSize := by
  unfold get
  cases hdata : d.data with
  | none => exact Nat.zero_le _
  | some asdu => exact d.fits asdu hdata

theorem get_set_of_le {d : DeferredASDU} {asdu : List UInt8} (h : asdu.length ≤ maxASDUSize) :
    (d.set asdu).get = asdu := by
  rw [set, dif_pos h]
  rfl

theorem get_set_eq_iff {d : DeferredASDU} {asdu : List UInt8} :
    (d.set asdu).get = asdu ↔ asdu.length ≤ maxASDUSize := by
  constructor
  · intro h
    rw [← h]
    exact length_get_le _
  · exact get_set_of_le

end DeferredASDU

/-- `APDUResponse`: a buffer with the four bytes of its header behind the position. -/
structure APDUResponse extends HeaderWriter where
  header : 4 ≤ position
  fits : position ≤ buffer.length

/-- `SetFunction` and `SetControl`. -/
def APDUResponse.setHeader (r : APDUResponse) (function : FunctionCode)
    (control : AppControlField) : HeaderWriter :=
  ⟨(r.buffer.set 1 function.toType).set 0 control.toByte, r.position⟩

/-- The arguments of `WriteChallenge`; the random bytes are those that its generator gives. -/
structure Challenge where
  fragment : List UInt8
  header : APDUHeader
  response : APDUResponse
  hmacType : HMACType
  random : Draw

/-- `HMACProvider` as a function of key and input, with the size it cuts its results to. -/
structure HMACProvider where
  outputSize : Nat
  compute : List UInt8 → List UInt8 → Vector UInt8 outputSize

/-- The last challenge and the request it was made for; its size is bounded. -/
structure ChallengeState where
  challengeSize : Nat
  bounded : challengeSize ≤ maxChallengeDataSize
  criticalASDU : DeferredASDU
  challengeFragment : List UInt8
  seqNumber : UInt32

namespace ChallengeState

def new (challengeSize : Nat) : ChallengeState :=
  ⟨getBoundedChallengeSize challengeSize, getBoundedChallengeSize_le _, DeferredASDU.empty, [], 0⟩

/-- `AuthSizes::MAX_OUTSTATION_CHALLENGE_RESPONSE_FRAGMENT_SIZE`: two bytes of header are counted
    in, not four. -/
def maxChallengeResponseSize : Nat := 2 + 6 + 4 + 2 + 1 + 1 + maxChallengeDataSize

variable (s : ChallengeState) (c : Challenge)

/-- The object that is written; 0 is the unknown user, 1 the reason `CRITICAL`. -/
def challengeObject : Group120Var1 :=
  ⟨s.seqNumber + 1, 0, c.hmacType, 1, c.random.take s.challengeSize⟩

/-- `ChallengeState::WriteChallenge`: the new state, the response as written, and the result. -/
def writeChallenge : ChallengeState × HeaderWriter × Bool :=
  let stored := { s with criticalASDU := s.criticalASDU.set c.fragment }
  let response := c.response.setHeader .AUTH_RESPONSE c.header.control
  if c.random.ok = false then
    (stored, response, false)
  else
    -- a number is used up even if the object does not fit
    let stored := { stored with seqNumber := s.seqNumber + 1 }
    match writeFreeFormat response ⟨120, 1⟩ (s.challengeObject c).bytes with
    | none => (stored, response, false)
    | some response =>
      let asdu := response.buffer.take response.position
      if maxChallengeResponseSize < asdu.length then (stored, response, false)
      else ({ stored with challengeFragment := asdu }, response, true)

/-- `ChallengeState::VerifyAuthenticity`. -/
def verifyAuthenticity (key : List UInt8) (provider : HMACProvider) (hmac : List UInt8) : Bool :=
  if provider.outputSize ≠ hmac.length then false
  else hmac == (provider.compute key (s.challengeFragment ++ s.criticalASDU.get)).toList

def getCriticalASDU : List UInt8 := s.criticalASDU.get

/-- `ChallengeState::GetCriticalHeader`: a control field and the number of a function code. -/
def getCriticalHeader : AppControlField × UInt8 :=
  match s.criticalASDU.get with
  -- in a request the control field is the first byte
  | first :: second :: _ => (AppControlField.ofByte second, first)
  | _ => (AppControlField.ofByte 0xC0, FunctionCode.UNKNOWN.toType)

/-! ## When a challenge is written -/

/-- The generator works, the response has room, and with four bytes of header it is not too long
    to be kept. -/
def Writes : Prop :=
  c.random.ok = true ∧ 14 + s.challengeSize ≤ c.response.remaining ∧
    c.response.position + 14 + s.challengeSize ≤ maxChallengeResponseSize

variable {s c}

theorem length_challengeObject : (s.challengeObject c).bytes.length = 8 + s.challengeSize := by
  simp only [challengeObject, Group120Var1.bytes, List.length_append, length_encodeU32,
    length_encodeU16, List.length_cons, List.length_nil, Draw.length_take c.random s.bounded]

theorem hasRoom_iff :
    HasRoom (c.response.setHeader .AUTH_RESPONSE c.header.control) (s.challengeObject c).bytes ↔
      14 + s.challengeSize ≤ c.response.remaining := by
  rw [HasRoom, length_challengeObject]
  simp only [APDUResponse.setHeader, HeaderWriter.remaining, List.length_set]
  omega

/-- The request is stored before anything can fail. -/
theorem criticalASDU_writeChallenge :
    (s.writeChallenge c).1.criticalASDU = s.criticalASDU.set c.fragment := by
  unfold writeChallenge
  split
  · rfl
  · dsimp only
    split
    · rfl
    · split <;> rfl

/-- With room for the object, the response grows by the object and its header. -/
theorem written_response (hroom : 14 + s.challengeSize ≤ c.response.remaining) :
    ∃ w, writeFreeFormat (c.response.setHeader .AUTH_RESPONSE c.header.control) ⟨120, 1⟩
        (s.challengeObject c).bytes = some w ∧
      (w.buffer.take w.position).length = c.response.position + 14 + s.challengeSize := by
  have hfits : (c.response.setHeader .AUTH_RESPONSE c.header.control).position ≤
      (c.response.setHeader .AUTH_RESPONSE c.header.control).buffer.length := by
    simp only [APDUResponse.setHeader, List.length_set]
    exact c.response.fits
  obtain ⟨w, hwrite, hposition, hend⟩ :=
    writeFreeFormat_of_hasRoom ⟨120, 1⟩ hfits (hasRoom_iff.mpr hroom)
  refine ⟨w, hwrite, ?_⟩
  rw [List.length_take, Nat.min_eq_left hend, hposition, length_challengeObject]
  simp only [APDUResponse.setHeader]
  omega

/-- **A challenge is written**: the response is kept as it is. -/
theorem writeChallenge_of_writes (h : s.Writes c) :
    (s.writeChallenge c).2.2 = true ∧
      (s.writeChallenge c).1.challengeFragment =
        (s.writeChallenge c).2.1.buffer.take (s.writeChallenge c).2.1.position := by
  obtain ⟨hok, hroom, hsize⟩ := h
  obtain ⟨w, hwrite, hlength⟩ := written_response hroom
  rw [← hlength] at hsize
  have hkept : ¬ maxChallengeResponseSize < (w.buffer.take w.position).length :=
    Nat.not_lt.mpr hsize
  simp only [writeChallenge, hok, hwrite, if_neg hkept, Bool.true_eq_false, if_false, and_self]

/-- **No challenge is written**: the old one stays. -/
theorem writeChallenge_of_not_writes (h : ¬ s.Writes c) :
    (s.writeChallenge c).2.2 = false ∧
      (s.writeChallenge c).1.challengeFragment = s.challengeFragment := by
  cases hok : c.random.ok with
  | false => simp only [writeChallenge, hok, if_true, and_self]
  | true =>
    by_cases hroom : 14 + s.challengeSize ≤ c.response.remaining
    · -- there is room, but the response is too long to be kept
      obtain ⟨w, hwrite, hlength⟩ := written_response hroom
      have hlong : maxChallengeResponseSize < (w.buffer.take w.position).length := by
        rw [hlength]
        exact Nat.not_le.mp fun hsize => h ⟨hok, hroom, hsize⟩
      simp only [writeChallenge, hok, hwrite, if_pos hlong, Bool.true_eq_false, if_false, and_self]
    · have hnone := (writeFreeFormat_eq_none_iff ⟨120, 1⟩).mpr fun hr => hroom (hasRoom_iff.mp hr)
      simp [writeChallenge, hok, hnone]

/-- When a challenge is written. -/
theorem writeChallenge_eq_true_iff : (s.writeChallenge c).2.2 = true ↔ s.Writes c := by
  constructor
  · intro htrue
    by_contra hnot
    rw [(writeChallenge_of_not_writes hnot).1] at htrue
    cases htrue
  · exact fun h => (writeChallenge_of_writes h).1

/-- What is accepted: the HMAC of the response and the request that are kept. -/
theorem verifyAuthenticity_iff {key hmac : List UInt8} {provider : HMACProvider} :
    s.verifyAuthenticity key provider hmac = true ↔
      hmac = (provider.compute key (s.challengeFragment ++ s.getCriticalASDU)).toList := by
  rw [verifyAuthenticity, getCriticalASDU]
  split
  · rename_i hsize
    refine iff_of_false (by decide) ?_
    rintro rfl
    exact hsize Vector.length_toList.symm
  · exact beq_iff_eq

/-! ## The request that is kept -/

/-- `APDUHeaderParser::ParseRequest`. -/
def parseRequest : List UInt8 → Option APDUHeader
  | control :: function :: _ =>
    some ⟨AppControlField.ofByte control, FunctionCode.fromType function⟩
  | _ => none

theorem toByte_ofByte (byte : UInt8) : (AppControlField.ofByte byte).toByte = byte := by
  have hall : ∀ n < 256, (AppControlField.ofByte (UInt8.ofNat n)).toByte = UInt8.ofNat n := by
    decide +kernel
  have hbyte := hall byte.toNat byte.toNat_lt
  rw [UInt8.ofNat_toNat] at hbyte
  exact hbyte

/-- The request is kept and its header is told, and until the next challenge exactly the HMAC of
    the response as written and the request is accepted. -/
def Guards (s : ChallengeState) (c : Challenge) : Prop :=
  (s.writeChallenge c).2.2 = true →
    (s.writeChallenge c).1.getCriticalASDU = c.fragment ∧
    (s.writeChallenge c).1.getCriticalHeader = (c.header.control, c.header.function.toType) ∧
    ∀ key provider hmac, (s.writeChallenge c).1.verifyAuthenticity key provider hmac = true ↔
      hmac = (HMACProvider.compute provider key
        ((s.writeChallenge c).2.1.buffer.take (s.writeChallenge c).2.1.position ++
          c.fragment)).toList

/-- The request can be kept, and it makes no difference that control field and function code are
    read in the wrong order: they are one byte, which is a function code. -/
def Keepable (fragment : List UInt8) : Prop :=
  fragment.length ≤ maxASDUSize ∧
    ∃ byte rest, fragment = byte :: byte :: rest ∧ (FunctionCode.fromType byte).toType = byte

/-- The two bytes of the header are taken for each other. -/
theorem getCriticalHeader_eq_iff {first second : UInt8} {rest : List UInt8}
    (hkept : s.getCriticalASDU = first :: second :: rest) :
    s.getCriticalHeader =
        (AppControlField.ofByte first, (FunctionCode.fromType second).toType) ↔
      first = second ∧ (FunctionCode.fromType second).toType = second := by
  have hheader : s.getCriticalHeader = (AppControlField.ofByte second, first) := by
    rw [getCriticalASDU] at hkept
    rw [getCriticalHeader, hkept]
  rw [hheader, Prod.mk.injEq]
  constructor
  · rintro ⟨hcontrol, hfunction⟩
    have hbytes := congrArg AppControlField.toByte hcontrol
    rw [toByte_ofByte, toByte_ofByte] at hbytes
    subst hbytes
    exact ⟨rfl, hfunction.symm⟩
  · rintro ⟨rfl, hfunction⟩
    exact ⟨rfl, hfunction.symm⟩

/-- The calls of a history. -/
def step (s : ChallengeState) (c : Challenge) : ChallengeState := (s.writeChallenge c).1

/-- **The request and its header**: after any history, a challenge for a request whose header is
    parsed guards this request, if and only if no challenge is written or the request is not too
    long and begins with one function code twice. -/
theorem critical_request_iff (challengeSize : Nat) (history : List Challenge) (c : Challenge)
    (hparsed : parseRequest c.fragment = some c.header) :
    (run step (new challengeSize) history).Guards c ↔
      ((run step (new challengeSize) history).Writes c → Keepable c.fragment) := by
  generalize run step (new challengeSize) history = s
  rw [Guards, writeChallenge_eq_true_iff]
  refine imp_congr_right fun hwrites => ?_
  have hasdu : (s.writeChallenge c).1.getCriticalASDU = c.fragment ↔
      c.fragment.length ≤ maxASDUSize := by
    rw [getCriticalASDU, criticalASDU_writeChallenge, DeferredASDU.get_set_eq_iff]
  rw [hasdu, Keepable]
  refine and_congr_right fun hle => ?_
  have hkept := hasdu.mpr hle
  -- what is accepted follows from what is kept
  have hverify : ∀ key provider hmac,
      (s.writeChallenge c).1.verifyAuthenticity key provider hmac = true ↔
        hmac = (HMACProvider.compute provider key
          ((s.writeChallenge c).2.1.buffer.take (s.writeChallenge c).2.1.position ++
            c.fragment)).toList := by
    intro key provider hmac
    rw [verifyAuthenticity_iff, (writeChallenge_of_writes hwrites).2, hkept]
  rw [and_iff_left hverify]
  -- a header was parsed, so the request has two bytes at least
  rcases hfragment : c.fragment with _ | ⟨first, _ | ⟨second, rest⟩⟩ <;>
    rw [hfragment] at hparsed hkept
  · cases hparsed
  · cases hparsed
  · have hheader : c.header = ⟨AppControlField.ofByte first, FunctionCode.fromType second⟩ :=
      (Option.some.inj hparsed).symm
    rw [hheader, getCriticalHeader_eq_iff hkept]
    constructor
    · rintro ⟨rfl, hcode⟩
      exact ⟨first, rest, rfl, hcode⟩
    · rintro ⟨byte, rest', heq, hcode⟩
      cases heq
      exact ⟨rfl, hcode⟩

/-- A response with nothing in it yet. -/
def emptyResponse (size : Nat) (h : 4 ≤ size) : APDUResponse :=
  ⟨⟨List.replicate size 0, 4⟩, Nat.le_refl 4, by simpa using h⟩

/-- A challenge for a request without objects, with random bytes that are all zero. -/
def sampleChallenge (control function : UInt8) (ok : Bool) : Challenge where
  fragment := [control, function]
  header := ⟨AppControlField.ofByte control, FunctionCode.fromType function⟩
  response := emptyResponse 100 (by decide)
  hmacType := .HMAC_SHA256_TRUNC_16
  random := ⟨Vector.replicate _ 0, ok⟩

/-- A control field with the sequence number 3, and the function code 3. -/
theorem critical_request_three :
    (run step (new 4) []).Guards (sampleChallenge 0x03 0x03 true) :=
  (critical_request_iff 4 [] (sampleChallenge 0x03 0x03 true) rfl).mpr fun _ =>
    ⟨by decide, 0x03, [], rfl, rfl⟩

/-- A request to operate is told to have an unknown function code. -/
theorem critical_header_swapped :
    ((new 4).writeChallenge (sampleChallenge 0xC3 0x04 true)).2.2 = true ∧
      ((new 4).writeChallenge (sampleChallenge 0xC3 0x04 true)).1.getCriticalHeader =
        (AppControlField.ofByte 0x04, 0xC3) := by
  decide +kernel

/-! ## Failures -/

/-- A failure has a reason, and it changes nothing that can be seen. -/
def FailsHarmlessly (s : ChallengeState) (c : Challenge) : Prop :=
  (s.writeChallenge c).2.2 = false →
    (c.random.ok = false ∨ c.response.remaining < 14 + s.challengeSize) ∧
    (s.writeChallenge c).1.getCriticalASDU = s.getCriticalASDU ∧
    ∀ key provider hmac, (s.writeChallenge c).1.verifyAuthenticity key provider hmac =
      s.verifyAuthenticity key provider hmac

/-- **Failures of a challenge**: after any history, for a request that can be kept and a response
    without objects, a failure is due to the generator or to the room and changes nothing, if and
    only if the challenge has at most 62 bytes when both are fine, and the request is the one that
    is kept already when they are not. -/
theorem failure_harmless_iff (challengeSize : Nat) (history : List Challenge) (c : Challenge)
    (hlength : c.fragment.length ≤ maxASDUSize) (hempty : c.response.position = 4) :
    let s := run step (new challengeSize) history
    s.FailsHarmlessly c ↔
      if c.random.ok = true ∧ 14 + s.challengeSize ≤ c.response.remaining then
        s.challengeSize ≤ 62
      else s.getCriticalASDU = c.fragment := by
  intro s
  have hmax : maxChallengeResponseSize = 80 := rfl
  have hkept : (s.writeChallenge c).1.getCriticalASDU = c.fragment := by
    rw [getCriticalASDU, criticalASDU_writeChallenge, DeferredASDU.get_set_of_le hlength]
  split
  · rename_i hfine
    have hwrites : s.Writes c ↔ s.challengeSize ≤ 62 := by
      simp only [Writes, hfine, true_and, hempty, hmax]
      omega
    rw [← hwrites]
    constructor
    · intro hharmless
      by_contra hnot
      -- there is no reason for this failure
      rcases (hharmless (writeChallenge_of_not_writes hnot).1).1 with hok | hroom
      · rw [hfine.1] at hok
        cases hok
      · exact absurd hfine.2 (Nat.not_le.mpr hroom)
    · intro h hfalse
      rw [(writeChallenge_of_writes h).1] at hfalse
      cases hfalse
  · rename_i hbad
    -- here the reason is given, and what can be seen is the request, which was replaced
    have hnot : ¬ s.Writes c := fun h => hbad ⟨h.1, h.2.1⟩
    obtain ⟨hfalse, hfragment⟩ := writeChallenge_of_not_writes hnot
    have hreason : c.random.ok = false ∨ c.response.remaining < 14 + s.challengeSize := by
      rcases not_and_or.mp hbad with hok | hroom
      · exact Or.inl (Bool.eq_false_iff.mpr hok)
      · exact Or.inr (Nat.not_le.mp hroom)
    constructor
    · intro hharmless
      rw [← hkept]
      exact (hharmless hfalse).2.1.symm
    · intro hsame _
      have hasdu := hkept.trans hsame.symm
      refine ⟨hreason, hasdu, fun key provider hmac => ?_⟩
      rw [Bool.eq_iff_iff, verifyAuthenticity_iff, verifyAuthenticity_iff, hfragment, hasdu]

/-- The request was stored before, so nothing is lost when the generator fails. -/
theorem failure_harmless_again :
    (run step (new 4) [sampleChallenge 0xC3 0x04 true]).FailsHarmlessly
      (sampleChallenge 0xC3 0x04 false) :=
  (failure_harmless_iff 4 [sampleChallenge 0xC3 0x04 true] (sampleChallenge 0xC3 0x04 false)
    (by decide) rfl).mpr (by decide +kernel)

/-- With the largest challenge nothing is ever written, and a failure replaces the request. -/
theorem failure_without_reason :
    ((new 64).writeChallenge (sampleChallenge 0xC3 0x04 true)).2.2 = false ∧
      14 + (new 64).challengeSize ≤ (sampleChallenge 0xC3 0x04 true).response.remaining ∧
      ((new 64).writeChallenge (sampleChallenge 0xC3 0x04 true)).1.getCriticalASDU = [0xC3, 0x04] ∧
      (new 64).getCriticalASDU = [] := by
  decide +kernel

end ChallengeState

end OpenDnp3.SecAuth
