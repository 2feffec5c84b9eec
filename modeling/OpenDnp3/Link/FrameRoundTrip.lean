import OpenDnp3.Link.ParserCorrect

/-!
# Formatted frames are found again

A frame written by one of the format functions, whatever follows it in the stream, is the
first thing the reference scan delivers, and the scan goes on right behind it.
-/

namespace OpenDnp3.Link

open Lib
open ShiftableBuffer (StartsFrame)

/-! ## The header of a formatted frame -/

/-- The CONTROL byte keeps the function and the three flags apart. -/
theorem controlByte_spec (isMaster fcb fcvdfc : Bool) {func : LinkFunction}
    (hfunc : func ≠ .INVALID) (length : UInt8) (src dest : UInt16) :
    let h : LinkHeader := ⟨length, src, dest, LinkHeader.controlByte isMaster fcb fcvdfc func⟩
    h.getFuncEnum = func ∧ h.isFromMaster = isMaster ∧ h.isFcbSet = fcb ∧
      h.isFcvDfcSet = fcvdfc := by
  simp only [LinkHeader.getFuncEnum, LinkHeader.isFromMaster, LinkHeader.isFcbSet,
    LinkHeader.isFcvDfcSet]
  cases func with
  | INVALID => exact absurd rfl hfunc
  | _ => revert isMaster fcb fcvdfc; decide

theorem ne_invalid_of_legalBits {func : LinkFunction} {fcb fcv : Bool}
    (h : func.legalBits fcb fcv = true) : func ≠ .INVALID := by
  rintro rfl
  cases h

section Formatted

variable (isMaster fcb fcv : Bool) (func : LinkFunction) (dest src : UInt16)

/-- The header that `formatHeader` writes. -/
private def headerOf (len : Nat) : LinkHeader where
  length := UInt8.ofNat (len + LPDU_MIN_LENGTH)
  src := src
  dest := dest
  ctrl := LinkHeader.controlByte isMaster fcb fcv func

private theorem read_formatHeader (len : Nat) (rest : List UInt8) :
    LinkHeader.read (LinkFrame.formatHeader len isMaster fcb fcv func dest src ++ rest) =
      headerOf isMaster fcb fcv func dest src len :=
  LinkHeader.read_write_append _ rest

private theorem headerOf_length {len : Nat} (hlen : len ≤ LPDU_MAX_USER_DATA_SIZE) :
    (headerOf isMaster fcb fcv func dest src len).length.toNat = len + 5 := by
  simp only [LPDU_MAX_USER_DATA_SIZE] at hlen
  simp only [headerOf, LPDU_MIN_LENGTH, UInt8.toNat_ofNat']
  omega

variable {func} {fcb} {fcv}

theorem validHeader_formatHeader {len : Nat} (hlen : len ≤ LPDU_MAX_USER_DATA_SIZE)
    (hlegal : func.legalBits fcb fcv = true)
    (hpayload : func.carriesUserData = decide (0 < len)) (rest : List UInt8) :
    validHeader (LinkFrame.formatHeader len isMaster fcb fcv func dest src ++ rest) = true := by
  obtain ⟨hf, -, hb, hv⟩ := controlByte_spec isMaster fcb fcv (ne_invalid_of_legalBits hlegal)
    (UInt8.ofNat (len + LPDU_MIN_LENGTH)) src dest
  have hcrc := CRC.isCorrectCRC_addCrc ([0x05, 0x64, UInt8.ofNat (len + LPDU_MIN_LENGTH),
    LinkHeader.controlByte isMaster fcb fcv func] ++ encodeU16 dest ++ encodeU16 src) rest
  have hstart : StartsFrame
      (LinkFrame.formatHeader len isMaster fcb fcv func dest src ++ rest) := ⟨rfl, rfl⟩
  have hfive : decide (5 < len + 5) = decide (0 < len) := by
    congr 1
    simp only [eq_iff_iff]
    omega
  have hlength := headerOf_length isMaster fcb fcv func dest src hlen
  simp only [validHeader, read_formatHeader, hlength, hstart, decide_true, Bool.true_and]
  simp only [headerOf] at hlength ⊢
  rw [hf, hb, hv, hlegal, hpayload, hfive]
  simp only [beq_self_eq_true, Bool.and_true, Bool.and_eq_true, decide_eq_true_eq]
  exact ⟨hcrc, Nat.le_add_left _ _⟩

/-- **A formatted frame is delivered**, and the scan goes on behind it. -/
theorem scan_format {userData : List UInt8} (hlen : userData.length ≤ LPDU_MAX_USER_DATA_SIZE)
    (hlegal : func.legalBits fcb fcv = true)
    (hpayload : func.carriesUserData = decide (0 < userData.length)) (rest : List UInt8) :
    scan (LinkFrame.formatHeader userData.length isMaster fcb fcv func dest src ++
        LinkFrame.writeUserData userData userData.length ++ rest) =
      { fields :=
          { func := func
            isFromMaster := isMaster
            fcb := fcb
            fcvdfc := fcv
            addresses := { source := src, destination := dest } }
        userData := userData } :: scan rest := by
  set hdr := LinkFrame.formatHeader userData.length isMaster fcb fcv func dest src with hhdr
  set body := LinkFrame.writeUserData userData userData.length with hbody
  have hhdrLen : hdr.length = 10 := LinkHeader.length_write _
  have hbodyLen : body.length = LinkFrame.calcUserDataSize userData.length :=
    LinkFrame.length_writeUserData _ _ rfl
  have hread : LinkHeader.read (hdr ++ body) =
      headerOf isMaster fcb fcv func dest src userData.length :=
    read_formatHeader isMaster fcb fcv func dest src _ body
  have hdecl : declaredLength (hdr ++ body) = userData.length := by
    rw [declaredLength, hread, headerOf_length isMaster fcb fcv func dest src hlen]
    omega
  have hsize : declaredSize (hdr ++ body) = (hdr ++ body).length := by
    rw [← calcFrameSize_declaredLength, hdecl, LinkFrame.calcFrameSize, List.length_append,
      hhdrLen, hbodyLen, LPDU_HEADER_SIZE]
  have hdrop : (hdr ++ body).drop 10 = body := List.drop_left' hhdrLen
  obtain ⟨hval, huser⟩ := LinkFrame.read_writeUserData userData.length userData [] rfl
  rw [← hbody, List.append_nil] at hval huser
  have hblocks : blocksCorrect (hdr ++ body) = true := by
    rw [blocksCorrect_eq, hdrop, hdecl, hval]
  -- the delivered frame: the fields come from the header, the data from the body
  obtain ⟨hf, hm, hb, hv⟩ := controlByte_spec isMaster fcb fcv (ne_invalid_of_legalBits hlegal)
    (UInt8.ofNat (userData.length + LPDU_MIN_LENGTH)) src dest
  have hdata : (declaredFrame (hdr ++ body)).userData = userData := by
    rw [declaredFrame_userData, hdrop, hdecl, huser]
  have hfields : (declaredFrame (hdr ++ body)).fields =
      { func := func
        isFromMaster := isMaster
        fcb := fcb
        fcvdfc := fcv
        addresses := { source := src, destination := dest } } := by
    simp only [declaredFrame, hread]
    simp only [headerOf, hf, hm, hb, hv]
  have hvalid := validHeader_formatHeader isMaster dest src hlen hlegal hpayload body
  rw [← hhdr] at hvalid
  rw [scan_complete rest (by rw [List.length_append]; omega) hvalid (Nat.le_of_eq hsize), hblocks,
    if_pos rfl, hsize, List.drop_length, List.nil_append]
  exact congrArg₂ List.cons (congrArg₂ Frame.mk hfields hdata) rfl

end Formatted

/-- The frames that carry transport segments. -/
theorem scan_formatUnconfirmedUserData (isMaster : Bool) (dest src : UInt16)
    {userData : List UInt8} (hpos : 0 < userData.length)
    (hlen : userData.length ≤ LPDU_MAX_USER_DATA_SIZE) (rest : List UInt8) :
    scan (LinkFrame.formatUnconfirmedUserData isMaster dest src userData ++ rest) =
      { fields :=
          { func := .PRI_UNCONFIRMED_USER_DATA
            isFromMaster := isMaster
            fcb := false
            fcvdfc := false
            addresses := { source := src, destination := dest } }
        userData := userData } :: scan rest := by
  rw [LinkFrame.formatUnconfirmedUserData, LinkFrame.formatUserData,
    if_neg (Nat.not_lt_of_le hlen)]
  refine scan_format isMaster dest src hlen rfl ?_ rest
  rw [decide_eq_true hpos]
  rfl

/-! ## All format functions -/

namespace LinkFrame

/-- A call of one of the format functions, with its arguments. -/
inductive FormatCall where
  | formatAck (isMaster isRcvBuffFull : Bool) (dest src : UInt16)
  | formatNack (isMaster isRcvBuffFull : Bool) (dest src : UInt16)
  | formatLinkStatus (isMaster isRcvBuffFull : Bool) (dest src : UInt16)
  | formatNotSupported (isMaster isRcvBuffFull : Bool) (dest src : UInt16)
  | formatResetLinkStates (isMaster : Bool) (dest src : UInt16)
  | formatRequestLinkStatus (isMaster : Bool) (dest src : UInt16)
  | formatTestLinkStatus (isMaster fcb : Bool) (dest src : UInt16)
  | formatConfirmedUserData (isMaster fcb : Bool) (dest src : UInt16) (userData : List UInt8)
  | formatUnconfirmedUserData (isMaster : Bool) (dest src : UInt16) (userData : List UInt8)

namespace FormatCall

/-- The bytes that the call returns. -/
def bytes : FormatCall → List UInt8
  | .formatAck isMaster full dest src => LinkFrame.formatAck isMaster full dest src
  | .formatNack isMaster full dest src => LinkFrame.formatNack isMaster full dest src
  | .formatLinkStatus isMaster full dest src => LinkFrame.formatLinkStatus isMaster full dest src
  | .formatNotSupported isMaster full dest src =>
    LinkFrame.formatNotSupported isMaster full dest src
  | .formatResetLinkStates isMaster dest src => LinkFrame.formatResetLinkStates isMaster dest src
  | .formatRequestLinkStatus isMaster dest src =>
    LinkFrame.formatRequestLinkStatus isMaster dest src
  | .formatTestLinkStatus isMaster fcb dest src =>
    LinkFrame.formatTestLinkStatus isMaster fcb dest src
  | .formatConfirmedUserData isMaster fcb dest src userData =>
    LinkFrame.formatConfirmedUserData isMaster fcb dest src userData
  | .formatUnconfirmedUserData isMaster dest src userData =>
    LinkFrame.formatUnconfirmedUserData isMaster dest src userData

/-- The frame that was asked for. -/
def frame : FormatCall → Frame
  | .formatAck isMaster full dest src => ⟨⟨.SEC_ACK, isMaster, false, full, ⟨src, dest⟩⟩, []⟩
  | .formatNack isMaster full dest src => ⟨⟨.SEC_NACK, isMaster, false, full, ⟨src, dest⟩⟩, []⟩
  | .formatLinkStatus isMaster full dest src =>
    ⟨⟨.SEC_LINK_STATUS, isMaster, false, full, ⟨src, dest⟩⟩, []⟩
  | .formatNotSupported isMaster full dest src =>
    ⟨⟨.SEC_NOT_SUPPORTED, isMaster, false, full, ⟨src, dest⟩⟩, []⟩
  | .formatResetLinkStates isMaster dest src =>
    ⟨⟨.PRI_RESET_LINK_STATES, isMaster, false, false, ⟨src, dest⟩⟩, []⟩
  | .formatRequestLinkStatus isMaster dest src =>
    ⟨⟨.PRI_REQUEST_LINK_STATUS, isMaster, false, false, ⟨src, dest⟩⟩, []⟩
  | .formatTestLinkStatus isMaster fcb dest src =>
    ⟨⟨.PRI_TEST_LINK_STATES, isMaster, fcb, true, ⟨src, dest⟩⟩, []⟩
  | .formatConfirmedUserData isMaster fcb dest src userData =>
    ⟨⟨.PRI_CONFIRMED_USER_DATA, isMaster, fcb, true, ⟨src, dest⟩⟩, userData⟩
  | .formatUnconfirmedUserData isMaster dest src userData =>
    ⟨⟨.PRI_UNCONFIRMED_USER_DATA, isMaster, false, false, ⟨src, dest⟩⟩, userData⟩

/-- The user data, where there is any, has 1 to 250 bytes. -/
def Fits : FormatCall → Prop
  | .formatConfirmedUserData _ _ _ _ userData | .formatUnconfirmedUserData _ _ _ userData =>
    0 < userData.length ∧ userData.length ≤ LPDU_MAX_USER_DATA_SIZE
  | _ => True

/-- Every call writes a header and the body of its user data, with bits that are legal for its
    function. -/
theorem bytes_eq {call : FormatCall} (hfits : call.Fits) :
    let fields := call.frame.fields
    let userData := call.frame.userData
    call.bytes = LinkFrame.formatHeader userData.length fields.isFromMaster fields.fcb
        fields.fcvdfc fields.func fields.addresses.destination fields.addresses.source ++
        LinkFrame.writeUserData userData userData.length ∧
      userData.length ≤ LPDU_MAX_USER_DATA_SIZE ∧
      fields.func.legalBits fields.fcb fields.fcvdfc = true ∧
      fields.func.carriesUserData = decide (0 < userData.length) := by
  cases call with
  | formatConfirmedUserData | formatUnconfirmedUserData =>
    refine ⟨?_, hfits.2, rfl, (decide_eq_true hfits.1).symm⟩
    exact if_neg (Nat.not_lt_of_le hfits.2)
  | _ =>
    refine ⟨?_, Nat.zero_le _, rfl, rfl⟩
    rw [frame, List.length_nil, writeUserData_zero, List.append_nil]
    rfl

end FormatCall

/-- **A formatted frame is parsed again**, whatever comes behind it and however the bytes are cut
    into reads.  What a parser delivers after it is what one delivers that starts at the first
    byte behind the frame. -/
theorem format_parsed (call : FormatCall) (hfits : call.Fits) (rest : List UInt8)
    (p q : LinkLayerParser) (hp : p.Searching) (hq : q.Searching) (chunks later : List (List UInt8))
    (hchunks : chunks.flatten = call.bytes ++ rest) (hfit : p.Offered chunks)
    (hlater : later.flatten = rest) (hfit' : q.Offered later) :
    (p.onReads chunks).2 = call.frame :: (q.onReads later).2 ∧
      call.bytes.length ≤ LPDU_MAX_FRAME_SIZE := by
  obtain ⟨hbytes, hlen, hlegal, hpayload⟩ := call.bytes_eq hfits
  constructor
  · rw [LinkLayerParser.onReads_eq_scan hp hfit, LinkLayerParser.onReads_eq_scan hq hfit', hchunks,
      hlater, hbytes]
    exact scan_format _ _ _ hlen hlegal hpayload rest
  · rw [hbytes, List.length_append, length_writeUserData _ _ rfl, formatHeader,
      LinkHeader.length_write, calcUserDataSize_eq]
    simp only [LPDU_MAX_USER_DATA_SIZE] at hlen
    simp only [LPDU_HEADER_SIZE, LPDU_MAX_FRAME_SIZE]
    split <;> omega

/-- User data of two blocks, cut inside the first one, with two bytes behind it. -/
def sampleData : FormatCall := .formatUnconfirmedUserData true 1 2 (List.replicate 18 5)

theorem format_parsed_data :
    (LinkLayerParser.create.onReads
        [sampleData.bytes.take 15, sampleData.bytes.drop 15 ++ [7, 8]]).2 = [sampleData.frame] ∧
      sampleData.bytes.length ≤ LPDU_MAX_FRAME_SIZE :=
  format_parsed sampleData ⟨by decide, by decide⟩ [7, 8] .create .create
    LinkLayerParser.searching_create LinkLayerParser.searching_create _ [[7, 8]]
    (by decide +kernel) ⟨by decide +kernel, by decide +kernel, trivial⟩ rfl
    ⟨by decide +kernel, trivial⟩

/-- **Frames on a noisy line**: with any bytes before each of them but the two start bytes, and
    however all this is cut into reads, the frames are parsed in order, and then what follows. -/
theorem formats_parsed (parts : List (List UInt8 × FormatCall)) (rest : List UInt8)
    (hparts : ∀ q ∈ parts, q.2.Fits ∧ ¬[0x05, 0x64] <:+: q.1)
    (p : LinkLayerParser) (hp : p.Searching) (chunks : List (List UInt8)) (hfit : p.Offered chunks)
    (hbytes : chunks.flatten = parts.flatMap (fun q => q.1 ++ q.2.bytes) ++ rest) :
    (p.onReads chunks).2 = parts.map (·.2.frame) ++ scan rest := by
  rw [LinkLayerParser.onReads_eq_scan hp hfit, hbytes]
  clear hbytes
  induction parts with
  | nil => rfl
  | cons part parts ih =>
    obtain ⟨hfits, hnoise⟩ := hparts part List.mem_cons_self
    obtain ⟨hbytes, hlen, hlegal, hpayload⟩ := part.2.bytes_eq hfits
    rw [List.flatMap_cons, List.append_assoc, List.append_assoc, hbytes, scan_noise hnoise]
    · rw [scan_format _ _ _ hlen hlegal hpayload, ih fun q hq => hparts q (.tail part hq)]
      rfl
    · -- the noise is followed by the first start byte
      exact fun h => absurd (Option.some.inj h) (by decide)

/-- A stray byte before a frame. -/
theorem formats_parsed_stray :
    (LinkLayerParser.create.onReads [[0x05], (FormatCall.formatAck true false 1 2).bytes]).2 =
      [(FormatCall.formatAck true false 1 2).frame] ++ scan [] :=
  formats_parsed [([0x05], .formatAck true false 1 2)] []
    (List.forall_mem_singleton.mpr ⟨trivial, by decide⟩) .create LinkLayerParser.searching_create _
    ⟨by decide +kernel, by decide +kernel, trivial⟩ rfl

end LinkFrame

end OpenDnp3.Link
