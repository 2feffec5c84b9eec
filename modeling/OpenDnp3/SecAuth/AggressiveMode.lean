import OpenDnp3.App.APDUParser

/-!
# The trailer of an aggressive mode request

In aggressive mode a request carries its own authentication.  Behind its objects stands a free
format header with a single object, Group120Var9: the HMAC of everything before it.  Only the size
of the HMAC is known in advance, so `ParseHMAC` finds the trailer from the end of the fragment.
-/

namespace OpenDnp3.SecAuth

open App Lib

/-- `AggModeHMACResult`: the authenticated objects and the value of Group120Var9. -/
structure AggModeHMAC where
  objects : List UInt8
  hmac : List UInt8
  deriving DecidableEq, Repr

/-- `AggressiveModeParser::ParseHMAC`.  Sizes are 32-bit numbers. -/
def parseHMAC (remainder : List UInt8) (hmacSize : Nat) : Except ParseResult AggModeHMAC :=
  let trailerSize := (6 + hmacSize) % 2 ^ 32
  if remainder.length < trailerSize then
    .error .NOT_ENOUGH_DATA_FOR_HEADER
  else
    let objectsSize := (remainder.length - trailerSize) % 2 ^ 32
    match remainder.drop objectsSize with
    | group :: variation :: qualifier :: rest =>
      if GroupVariation.ofWire group variation ≠ some ⟨120, 9⟩ then
        .error .UNKNOWN_OBJECT
      else if QualifierCode.ofByte qualifier ≠ .UINT8_CNT_UINT16_FREE_FORMAT then
        .error .UNKNOWN_QUALIFIER
      else
        match rest with
        -- the count is read, but nothing depends on it
        | _ :: low :: high :: value =>
          if decodeLE [low, high] ≠ value.length then
            .error .NOT_ENOUGH_DATA_FOR_OBJECTS
          else if decodeLE [low, high] = hmacSize then
            .ok ⟨remainder.take objectsSize, value⟩
          else
            .error .NOT_ENOUGH_DATA_FOR_OBJECTS
        | _ => .error .NOT_ENOUGH_DATA_FOR_HEADER
    | _ => .error .NOT_ENOUGH_DATA_FOR_HEADER

/-- The free format header with this count, and the HMAC behind it. -/
def trailer (count : UInt8) (hmac : List UInt8) : List UInt8 :=
  [120, 9, 0x5B, count] ++ encodeLE 2 hmac.length ++ hmac

theorem length_trailer (count : UInt8) (hmac : List UInt8) :
    (trailer count hmac).length = 6 + hmac.length := by
  simp [trailer]
  omega

/-! ## The fixed bytes of the header -/

theorem eq_of_ofWire {group variation : UInt8}
    (h : GroupVariation.ofWire group variation = some ⟨120, 9⟩) : group = 120 ∧ variation = 9 := by
  unfold GroupVariation.ofWire at h
  split at h
  · rw [Option.some.injEq, GroupVariation.mk.injEq] at h
    exact ⟨UInt8.toNat_inj.mp h.1, UInt8.toNat_inj.mp h.2⟩
  · -- the groups whose variations share an entry are others
    split at h <;> simp at h

theorem eq_of_ofByte {qualifier : UInt8}
    (h : QualifierCode.ofByte qualifier = .UINT8_CNT_UINT16_FREE_FORMAT) : qualifier = 0x5B := by
  unfold QualifierCode.ofByte at h
  split at h <;> cases h
  rename_i hbyte
  exact UInt8.toNat_inj.mp hbyte

/-! ## What is accepted -/

variable {r : List UInt8} {n : Nat}

/-- A trailer is found behind any objects that a 32-bit number can count, whatever its count. -/
theorem parseHMAC_trailer (a : AggModeHMAC) (count : UInt8) (hsize : a.hmac.length < 65536)
    (hobjects : a.objects.length < 2 ^ 32) :
    parseHMAC (a.objects ++ trailer count a.hmac) a.hmac.length = .ok a := by
  have htrailer : (6 + a.hmac.length) % 2 ^ 32 = 6 + a.hmac.length := Nat.mod_eq_of_lt (by omega)
  have hlength : (a.objects ++ trailer count a.hmac).length =
      a.objects.length + (6 + a.hmac.length) := by
    rw [List.length_append, length_trailer]
  unfold parseHMAC
  simp only [htrailer, hlength, Nat.add_sub_cancel, Nat.mod_eq_of_lt hobjects, List.drop_left,
    List.take_left]
  rw [if_neg (by omega)]
  have hobject : GroupVariation.ofWire 120 9 = some ⟨120, 9⟩ := by decide
  have hqualifier : QualifierCode.ofByte 0x5B = .UINT8_CNT_UINT16_FREE_FORMAT := by decide
  simp [trailer, encodeLE, decodeLE_pair hsize, hobject, hqualifier]

/-- **What `ParseHMAC` accepts**: some objects with a trailer behind them.  The count of the
    trailer may be any byte. -/
theorem parseHMAC_eq_ok_iff (hn : n < 65536) (a : AggModeHMAC) :
    parseHMAC r n = .ok a ↔
      a.hmac.length = n ∧ a.objects.length < 2 ^ 32 ∧
        ∃ count, r = a.objects ++ trailer count a.hmac := by
  constructor
  · intro h
    unfold parseHMAC at h
    dsimp only at h
    split at h
    · cases h
    generalize hsize : (r.length - (6 + n) % 2 ^ 32) % 2 ^ 32 = size at h
    have hlt : size < 2 ^ 32 := hsize ▸ Nat.mod_lt _ (by decide)
    split at h
    case h_2 => cases h
    rename_i group variation qualifier rest hdrop
    split at h
    · cases h
    rename_i hobject
    split at h
    · cases h
    rename_i hqualifier
    split at h
    case h_2 => cases h
    rename_i count low high value
    split at h
    · cases h
    rename_i hvalue
    split at h
    case isFalse => cases h
    rename_i hexpected
    cases h
    -- every byte of the header is known, but the count
    obtain ⟨rfl, rfl⟩ := eq_of_ofWire (not_not.mp hobject)
    cases eq_of_ofByte (not_not.mp hqualifier)
    have hlength : value.length = n := (not_not.mp hvalue).symm.trans hexpected
    refine ⟨hlength, ?_, count, ?_⟩
    · exact Nat.lt_of_le_of_lt (List.length_take_le ..) hlt
    · rw [trailer, ← not_not.mp hvalue, encodeLE_pair]
      calc r = r.take size ++ r.drop size := (List.take_append_drop ..).symm
        _ = _ := by rw [hdrop]; rfl
  · rintro ⟨rfl, hobjects, count, rfl⟩
    exact parseHMAC_trailer a count hn hobjects

/-- **The format, up to the count**: `ParseHMAC` accepts exactly the strings that end in a trailer
    with the count 1, and splits them there, if and only if the trailer at the end of the string,
    where there is one, has this count just in case a 32-bit number can count the bytes before
    it. -/
theorem parseHMAC_exact_iff (r : List UInt8) (hn : n < 65536) :
    (∀ a, parseHMAC r n = .ok a ↔ a.hmac.length = n ∧ r = a.objects ++ trailer 1 a.hmac) ↔
      ∀ count (a : AggModeHMAC), a.hmac.length = n → r = a.objects ++ trailer count a.hmac →
        (count = 1 ↔ a.objects.length < 2 ^ 32) := by
  constructor
  · intro hexact count a hlength hr
    constructor
    · rintro rfl
      exact ((parseHMAC_eq_ok_iff hn a).mp ((hexact a).mpr ⟨hlength, hr⟩)).2.1
    · intro hobjects
      have hparsed := (parseHMAC_eq_ok_iff hn a).mpr ⟨hlength, hobjects, count, hr⟩
      have hsame := hr.symm.trans ((hexact a).mp hparsed).2
      simpa [trailer] using hsame
  · intro hcount a
    rw [parseHMAC_eq_ok_iff hn]
    constructor
    · rintro ⟨hlength, hobjects, count, hr⟩
      cases (hcount count a hlength hr).mpr hobjects
      exact ⟨hlength, hr⟩
    · rintro ⟨hlength, hr⟩
      exact ⟨hlength, (hcount 1 a hlength hr).mp rfl, 1, hr⟩

/-- One object byte, and an HMAC of two bytes. -/
theorem parseHMAC_exact_sample :
    parseHMAC ([6] ++ trailer 1 [7, 8]) 2 = .ok ⟨[6], [7, 8]⟩ := by
  refine ((parseHMAC_exact_iff _ (by decide)).mpr ?_ ⟨[6], [7, 8]⟩).mpr ⟨rfl, rfl⟩
  intro count a hlength hr
  have hobjects : a.objects.length = 1 := by
    have h := congrArg List.length hr
    rw [List.length_append, List.length_append, length_trailer, length_trailer, hlength] at h
    simpa using h.symm
  have hsame := (List.append_inj hr hobjects.symm).2
  simp only [trailer, hlength, List.cons_append, List.nil_append, List.cons.injEq] at hsame
  exact iff_of_true hsame.2.2.2.1.symm (by rw [hobjects]; decide)

/-- Two HMACs are announced, and one is there. -/
theorem parseHMAC_wrong_count :
    parseHMAC (trailer 2 [7]) 1 = .ok ⟨[], [7]⟩ ∧
      ¬ ∃ objects hmac, trailer 2 [7] = objects ++ trailer 1 hmac ∧ hmac.length = 1 := by
  refine ⟨by decide +kernel, ?_⟩
  rintro ⟨objects, hmac, heq, hlength⟩
  have hobjects : objects.length = 0 := by
    have h := congrArg List.length heq
    rw [List.length_append, length_trailer, length_trailer, hlength] at h
    simpa using h.symm
  cases List.eq_nil_of_length_eq_zero hobjects
  simp [trailer] at heq

end OpenDnp3.SecAuth
