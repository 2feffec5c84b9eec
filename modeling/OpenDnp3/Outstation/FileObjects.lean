import OpenDnp3.App.HeaderBytes
import OpenDnp3.Master.Directory
import OpenDnp3.Outstation.OContext

/-!
# The objects of file requests and responses

File objects do not go through the object parser or the object writer: each request handler
picks the fields out of its one group 70 object by hand, and each response writer puts its
object together by hand.
-/

namespace OpenDnp3.Outstation

open App Lib
open Master (FileStatus)

/-! ## Strings in requests -/

/-- The requests whose object gives strings by offset and length. -/
inductive FileRequest where
  | openFile
  | deleteFile
  | authenticateFile
  deriving DecidableEq, Repr

/-- A string in an object: the offset and the length that the object's fields state, and the
    position where the handler takes it from. -/
structure StringField where
  position : Nat
  offset : Nat
  length : Nat
  deriving DecidableEq, Repr

/-- The strings that a call hands to the application. -/
def FileCall.strings : FileCall → List (List UInt8)
  | .getFileInfo filename | .openFile filename .. | .deleteFile filename => [filename]
  | .authenticateFile username password => [username, password]
  | _ => []

namespace FileRequest

/-- The variation of the object. -/
def variation : FileRequest → UInt8
  | openFile | deleteFile => 3
  | authenticateFile => 2

/-- The bytes before the strings. -/
def fixedLength : FileRequest → Nat
  | openFile | deleteFile => 26
  | authenticateFile => 12

/-- The string fields of the object at the start of the data. -/
def fields (request : FileRequest) (data : List UInt8) : List StringField :=
  let number (at_ : Nat) : Nat := (decodeU16 (data.drop at_)).toNat
  match request with
  | openFile => [⟨26, number 0, number 2⟩]
  | deleteFile => [⟨number 0, number 0, number 2⟩]
  | authenticateFile => [⟨12, number 0, number 2⟩, ⟨12 + number 2, number 4, number 6⟩]

/-- The object of a request: its length, and all bytes from its start on. -/
def object (request : FileRequest) (objects : List UInt8) : Option (Nat × List UInt8) :=
  (readGroup70 [request.variation] 0 request.fixedLength objects).map Prod.snd

/-- The handlers of an outstation with a file handler. -/
def handle (request : FileRequest) (replies : FileReplies) (objects : List UInt8)
    (w : HeaderWriter) (maxTxFragSize : Nat) : FileAnswer :=
  match request with
  | openFile => handleOpenFile true replies objects w maxTxFragSize
  | deleteFile => handleDeleteFile true replies objects w
  | authenticateFile => handleAuthenticateFile true replies objects w

/-- **Own strings**: every string in a call is the one that the object's fields name and lies in
    the object; an object for which this is not so, and anything that is not such an object,
    is refused without a call. -/
structure OwnStrings (request : FileRequest) (objects : List UInt8) (answer : FileAnswer) :
    Prop where
  called : ∀ call ∈ answer.2.2, ∃ dataLen data, request.object objects = some (dataLen, data) ∧
    call.strings = (request.fields data).map (fun field =>
      slice (data.take dataLen) field.offset field.length) ∧
    ∀ field ∈ request.fields data, field.offset + field.length ≤ dataLen
  refused : (∀ dataLen data, request.object objects = some (dataLen, data) →
      ∃ field ∈ request.fields data, dataLen < field.offset + field.length) →
    answer.1 = IINBit.PARAM_ERROR.mask ∧ answer.2.2 = []

/-! ### What the handlers take -/

/-- A string that is taken only if it is not empty and all of it is there. -/
def takeString (data : List UInt8) (length : Nat) : List UInt8 :=
  if 0 < length && length ≤ data.length then data.take length else []

variable {data : List UInt8} {dataLen : Nat}

theorem takeString_eq_iff {string : List UInt8} {length : Nat} (h : string.length = length) :
    takeString data length = string ↔ data.take length = string := by
  subst h
  unfold takeString
  split
  · rfl
  · rename_i hnot
    simp only [Bool.and_eq_true, decide_eq_true_eq, not_and, Nat.not_le] at hnot
    by_cases hzero : string.length = 0
    · rw [List.eq_nil_of_length_eq_zero hzero]
      simp
    · -- too few bytes are left: what is taken is shorter than the string either way
      have hlt : data.length < string.length := hnot (Nat.pos_of_ne_zero hzero)
      constructor
      · intro heq
        rw [← heq] at hzero
        exact absurd rfl hzero
      · intro heq
        have hlength := congrArg List.length heq
        rw [List.length_take] at hlength
        omega

/-- The strings that a handler takes. -/
def taken (request : FileRequest) (data : List UInt8) : List (List UInt8) :=
  let number (at_ : Nat) : Nat := (decodeU16 (data.drop at_)).toNat
  match request with
  | openFile => [slice data 26 (number 2)]
  | deleteFile => [slice data (number 0) (number 2)]
  | authenticateFile =>
    let rest := data.drop 12
    let userNameLength := number 2
    let hasUserName := 0 < userNameLength && userNameLength ≤ rest.length
    [takeString rest userNameLength,
      takeString (if hasUserName then rest.drop userNameLength else rest) (number 6)]

/-- Where the object says, when it says a range inside. -/
theorem slice_object {offset length : Nat} (h : offset + length ≤ dataLen) :
    slice (data.take dataLen) offset length = slice data offset length := by
  unfold slice
  rw [List.drop_take, List.take_take, Nat.min_eq_left (by omega)]

/-- **The strings taken are the ones named** exactly when the bytes at the handler's positions
    are those at the stated offsets. -/
theorem taken_eq_iff (request : FileRequest) (hlen : dataLen ≤ data.length)
    (hinside : ∀ field ∈ request.fields data, field.offset + field.length ≤ dataLen) :
    request.taken data = (request.fields data).map
        (fun field => slice (data.take dataLen) field.offset field.length) ↔
      ∀ field ∈ request.fields data,
        slice data field.position field.length = slice data field.offset field.length := by
  have hnamed : (request.fields data).map
      (fun field => slice (data.take dataLen) field.offset field.length) =
      (request.fields data).map fun field => slice data field.offset field.length :=
    List.map_congr_left fun field hfield => slice_object (hinside field hfield)
  rw [hnamed]
  cases request with
  | openFile | deleteFile => simp [taken, fields]
  | authenticateFile =>
    simp only [fields, List.mem_cons, List.not_mem_nil, or_false, forall_eq_or_imp,
      forall_eq] at hinside
    have huser := length_slice (Nat.le_trans hinside.1 hlen)
    have hpassword := length_slice (Nat.le_trans hinside.2 hlen)
    simp only [taken, fields, List.map_cons, List.map_nil, List.cons.injEq, and_true,
      List.mem_cons, List.not_mem_nil, or_false, forall_eq_or_imp, forall_eq]
    rw [takeString_eq_iff huser, takeString_eq_iff hpassword]
    -- the password is looked for behind the user name, if that was taken
    refine and_congr_right fun heq => ?_
    have hrest : (if (0 < (decodeU16 (data.drop 2)).toNat &&
          (decodeU16 (data.drop 2)).toNat ≤ (data.drop 12).length) = true
        then (data.drop 12).drop (decodeU16 (data.drop 2)).toNat else data.drop 12) =
        data.drop (12 + (decodeU16 (data.drop 2)).toNat) := by
      have hfits := congrArg List.length heq
      rw [huser, List.length_take] at hfits
      split
      · exact List.drop_drop
      · rename_i hnot
        simp only [Bool.and_eq_true, decide_eq_true_eq, not_and] at hnot
        have hzero : (decodeU16 (data.drop 2)).toNat = 0 := by omega
        rw [hzero]
    rw [hrest]
    rfl

/-- A DELETE_FILE request with an object of variation 3. -/
theorem deleteFileName_of_var3 {objects : List UInt8} (h : objects.getD 1 0 ≠ 8) :
    deleteFileName objects = (readGroup70 [3] 0 26 objects).map fun (_, _, data) =>
      slice data (decodeU16 data).toNat (decodeU16 (data.drop 2)).toNat := by
  match objects, h with
  | group :: var :: qc :: count :: len0 :: len1 :: data, h =>
    have hvar : var ≠ 8 := h
    simp only [deleteFileName, readGroup70, List.contains_cons, List.contains_nil,
      beq_eq_false_iff_ne.mpr hvar, Bool.false_or, Bool.or_false, Nat.zero_le, true_and, and_true]
    by_cases hread : group = 70 ∧ (var == 3) = true ∧ qc = 0x5B ∧
        decodeLE [len0, len1] ≤ data.length
    · by_cases hlong : 26 ≤ decodeLE [len0, len1]
      · simp [hread, hvar, hlong, Nat.not_lt.mpr hlong, slice]
      · simp [hread, hvar, hlong, Nat.lt_of_not_le hlong]
    · have hnot : ¬ (group = 70 ∧ (var == 3) = true ∧ qc = 0x5B ∧
          decodeLE [len0, len1] ≤ data.length ∧ 26 ≤ decodeLE [len0, len1]) :=
        fun hall => hread ⟨hall.1, hall.2.1, hall.2.2.1, hall.2.2.2.1⟩
      rw [if_neg hread, if_neg hnot]
      rfl
  | [], _ | [_], _ | [_, _], _ | [_, _, _], _ | [_, _, _, _], _ | [_, _, _, _, _], _ => rfl

/-- **The step of a request**: an object is read and one call is made with the strings taken
    from it, or the request is refused. -/
theorem handle_spec (request : FileRequest) (replies : FileReplies) (objects : List UInt8)
    (w : HeaderWriter) (maxTxFragSize : Nat)
    (hvariation : request = deleteFile → objects.getD 1 0 ≠ 8) :
    match request.object objects with
    | none => (request.handle replies objects w maxTxFragSize).1 = IINBit.PARAM_ERROR.mask ∧
        (request.handle replies objects w maxTxFragSize).2.2 = []
    | some (_, data) => ∃ call, (request.handle replies objects w maxTxFragSize).1 = .empty ∧
        (request.handle replies objects w maxTxFragSize).2.2 = [call] ∧
        call.strings = request.taken data := by
  cases request with
  | openFile =>
    simp only [object, handle, handleOpenFile, variation, fixedLength]
    cases readGroup70 [3] 0 26 objects with
    | none => exact ⟨rfl, rfl⟩
    | some read => exact ⟨_, rfl, rfl, rfl⟩
  | authenticateFile =>
    simp only [object, handle, handleAuthenticateFile, variation, fixedLength]
    cases readGroup70 [2] 0 12 objects with
    | none => exact ⟨rfl, rfl⟩
    | some read => exact ⟨_, rfl, rfl, rfl⟩
  -- without variation 8 the object has to be of variation 3
  | deleteFile =>
    simp only [object, handle, handleDeleteFile, variation, fixedLength]
    rw [deleteFileName_of_var3 (hvariation rfl)]
    cases readGroup70 [3] 0 26 objects with
    | none => exact ⟨rfl, rfl⟩
    | some read => exact ⟨_, rfl, rfl, rfl⟩

/-- An object that is read is all there. -/
theorem object_length {request : FileRequest} {objects : List UInt8}
    (h : request.object objects = some (dataLen, data)) : dataLen ≤ data.length := by
  unfold object readGroup70 at h
  split at h
  · dsimp only at h
    split at h
    · rename_i hread
      cases h
      exact hread.2.2.2.2.1
    · cases h
  · cases h

/-- **A request hands on the object's own strings exactly when**, if there is an object, each
    of its ranges lies inside it and the bytes where the handler looks are those of the range.
    DELETE_FILE requests with a file specification (variation 8) have no such fields. -/
theorem ownStrings_iff (request : FileRequest) (replies : FileReplies) (objects : List UInt8)
    (w : HeaderWriter) (maxTxFragSize : Nat)
    (hvariation : request = deleteFile → objects.getD 1 0 ≠ 8) :
    OwnStrings request objects (request.handle replies objects w maxTxFragSize) ↔
      ∀ dataLen data, request.object objects = some (dataLen, data) →
        ∀ field ∈ request.fields data, field.offset + field.length ≤ dataLen ∧
          slice data field.position field.length = slice data field.offset field.length := by
  have hspec := request.handle_spec replies objects w maxTxFragSize hvariation
  cases hobject : request.object objects with
  | none =>
    rw [hobject] at hspec
    refine ⟨fun _ _ _ h => (nomatch h), fun _ => ⟨?_, fun _ => hspec⟩⟩
    intro call hcall
    rw [hspec.2] at hcall
    cases hcall
  | some read =>
    obtain ⟨dataLen, data⟩ := read
    rw [hobject] at hspec
    obtain ⟨call, -, hcalls, hstrings⟩ := hspec
    have hlen := object_length hobject
    constructor
    -- a string is its own if it is taken from its own place
    · rintro h _ _ ⟨⟩ field hfield
      obtain ⟨_, _, hread, hown, hinside⟩ := h.called call (by rw [hcalls]; simp)
      cases hobject.symm.trans hread
      rw [hstrings, taken_eq_iff request hlen hinside] at hown
      exact ⟨hinside field hfield, hown field hfield⟩
    · intro h
      have hinside := fun field hfield => (h dataLen data rfl field hfield).1
      refine ⟨?_, ?_⟩
      · intro call' hcall
        rw [hcalls, List.mem_singleton] at hcall
        subst hcall
        refine ⟨dataLen, data, hobject, ?_, hinside⟩
        rw [hstrings, taken_eq_iff request hlen hinside]
        exact fun field hfield => (h dataLen data rfl field hfield).2
      · intro hrefused
        obtain ⟨field, hfield, hlt⟩ := hrefused dataLen data hobject
        exact absurd (hinside field hfield) (Nat.not_le.mpr hlt)

/-- The object of an OPEN_FILE or DELETE_FILE request that states a length, and a name of two
    bytes at an offset. -/
def openObject (dataLen offset : UInt8) (rest : List UInt8) : List UInt8 :=
  [70, 3, 0x5B, 1, dataLen, 0, offset, 0, 2, 0] ++ List.replicate 22 0 ++ rest

/-- The name is behind the fixed part and belongs to the object, for a file that is opened and for
    one that is deleted. -/
theorem ownStrings_iff_open :
    OwnStrings .openFile (openObject 28 26 [97, 98])
        (handle .openFile (Sample.env 0).file (openObject 28 26 [97, 98])
          ⟨List.replicate 100 0, 0⟩ 2048) ∧
      OwnStrings .deleteFile (openObject 28 26 [97, 98])
        (handle .deleteFile (Sample.env 0).file (openObject 28 26 [97, 98])
          ⟨List.replicate 100 0, 0⟩ 2048) := by
  constructor
  · refine (ownStrings_iff .openFile _ _ _ _ (fun h => nomatch h)).mpr ?_
    rintro _ _ ⟨⟩
    decide
  · refine (ownStrings_iff .deleteFile _ _ _ _ (fun _ => by decide)).mpr ?_
    rintro _ _ ⟨⟩
    decide

/-- The object ends before the name: the file is opened under a name made of the bytes behind
    the object.  And a name that the object puts at offset 0 is taken from there, too. -/
theorem openFile_beside_object :
    let answer (dataLen offset : UInt8) := handle .openFile (Sample.env 0).file
      (openObject dataLen offset [97, 98]) ⟨List.replicate 100 0, 0⟩ 2048
    (answer 26 26).2.2.map FileCall.strings = [[[97, 98]]] ∧
      ¬ OwnStrings .openFile (openObject 26 26 [97, 98]) (answer 26 26) ∧
      (answer 28 0).2.2.map FileCall.strings = [[[97, 98]]] ∧
      ¬ OwnStrings .openFile (openObject 28 0 [97, 98]) (answer 28 0) := by
  refine ⟨by decide, ?_, by decide, ?_⟩
  all_goals
    intro h
    obtain ⟨_, _, hread, hown, -⟩ := h.called _ (List.mem_singleton_self _)
    cases hread
    exact absurd hown (by decide)

end FileRequest

/-! ## Responses

`Group70.fits` is what the response writers return: they check the room for the length that
they are about to state. -/

namespace Group70

/-- Do the writers return true? -/
def fits (w : HeaderWriter) (dataLen : Nat) : Bool := 6 + dataLen ≤ w.remaining

/-- The bytes of a free-format object with count 1 before its data. -/
def start (variation : UInt8) (dataLen : Nat) : List UInt8 :=
  [70, variation, Master.UINT8_CNT_UINT16_FREE_FORMAT, 1] ++ encodeLE 2 dataLen

/-- **What a response writer is for**: it writes nothing and says so, or it writes one object
    that states its length and that the master reads as `object`. -/
def Recovered {α : Type} (w w' : HeaderWriter) (returned : Bool) (variation : UInt8)
    (read : List UInt8 → Option α) (object : α) : Prop :=
  (returned = false ∧ w' = w) ∨
    (returned = true ∧ ∃ body : List UInt8, body.length < 65536 ∧
      Appends w (start variation body.length ++ body) w' ∧
      read (start variation body.length ++ body) = some object)

theorem getD_writeRawBytes {w : HeaderWriter} {bytes : List UInt8}
    (h : bytes.length ≤ w.remaining) : (w.writeRawBytes bytes).getD w = w.put bytes := by
  rw [HeaderWriter.writeRawBytes, if_neg (Nat.not_lt.mpr h), Option.getD_some]

/-- Bytes that fit are appended, others are left out. -/
theorem appends_writeParts (parts : List (List UInt8)) (w : HeaderWriter)
    (hw : w.position ≤ w.buffer.length) (hfits : parts.flatten.length ≤ w.remaining) :
    Appends w parts.flatten (parts.foldl (fun w bytes => (w.writeRawBytes bytes).getD w) w) := by
  induction parts generalizing w with
  | nil => exact .refl hw
  | cons bytes parts ih =>
    rw [List.flatten_cons, List.length_append] at hfits
    have hput := Appends.put bytes hw (by omega)
    have hroom := hput.remaining
    rw [List.foldl_cons, getD_writeRawBytes (by omega), List.flatten_cons]
    exact hput.trans (ih (w.put bytes) hput.fits (by omega))

/-- **An object whose stated length is that of its parts** is written as a whole or not at all. -/
theorem recovered_writeFreeFormat {α : Type} {w : HeaderWriter}
    (hw : w.position ≤ w.buffer.length) {variation : UInt8} {dataLen : Nat}
    {parts : List (List UInt8)} (hlength : parts.flatten.length = dataLen)
    (hlt : dataLen < 65536) {read : List UInt8 → Option α} {object : α}
    (hread : read (start variation dataLen ++ parts.flatten) = some object) :
    Recovered w (writeFreeFormat w variation dataLen parts) (fits w dataLen) variation read
      object := by
  subst hlength
  by_cases hroom : 6 + parts.flatten.length ≤ w.remaining
  · refine .inr ⟨decide_eq_true hroom, parts.flatten, hlt, ?_, hread⟩
    have hheader := Appends.put [70, variation, Master.UINT8_CNT_UINT16_FREE_FORMAT] hw
      (by simp only [List.length_cons, List.length_nil]; omega)
    have hrest := hheader.remaining
    simp only [List.length_cons, List.length_nil] at hrest
    -- count and length, then the parts, in the room behind the header
    have hparts := appends_writeParts ([1] :: encodeLE 2 parts.flatten.length :: parts) _
      hheader.fits (by
        simp only [List.flatten_cons, List.length_append, List.length_singleton, length_encodeLE]
        omega)
    have heq : writeFreeFormat w variation parts.flatten.length parts =
        ([1] :: encodeLE 2 parts.flatten.length :: parts).foldl
          (fun w bytes => (w.writeRawBytes bytes).getD w)
          (w.put [70, variation, Master.UINT8_CNT_UINT16_FREE_FORMAT]) := by
      rw [writeFreeFormat, if_neg (by omega), HeaderWriter.writeHeader, if_neg (by omega)]
      rfl
    rw [heq]
    simpa [start] using hheader.trans hparts
  · refine .inl ⟨decide_eq_false hroom, ?_⟩
    rw [writeFreeFormat, if_pos (by omega)]

/-! ### What the master reads -/

theorem readFreeFormat_start (variation : UInt8) (minLength : Nat) {dataLen : Nat}
    (hdataLen : dataLen < 65536) (body : List UInt8) :
    Master.readFreeFormat variation minLength (start variation dataLen ++ body) =
      if body.length < dataLen || dataLen < minLength then none else some (dataLen, body) := by
  have hlen : (decodeU16 (encodeLE 2 dataLen ++ body)).toNat = dataLen := by
    have hcode : encodeLE 2 dataLen = encodeU16 (UInt16.ofNat dataLen) := by
      rw [encodeU16, UInt16.toNat_ofNat', Nat.mod_eq_of_lt hdataLen]
    rw [hcode, decodeU16_encodeU16_append, UInt16.toNat_ofNat', Nat.mod_eq_of_lt hdataLen]
  have hdrop : (encodeLE 2 dataLen ++ body).drop 2 = body := rfl
  have hlong : ¬ (encodeLE 2 dataLen ++ body).length < 2 := by
    rw [List.length_append, length_encodeLE]
    omega
  simp only [Master.readFreeFormat, start, List.cons_append, List.nil_append, bne_self_eq_false,
    Bool.or_self, Bool.false_eq_true, if_false, hlong, hlen, hdrop,
    if_neg (show ¬ (1 : UInt8) < 1 by decide)]

/-- A block that is read from a whole object has room for its data. -/
theorem length_of_readVar5 {body : List UInt8} (hbody : body.length < 65536)
    {object : Master.Group70Var5}
    (h : Master.readGroup70Var5 (start 5 body.length ++ body) = some object) :
    8 + object.fileData.length < 65536 := by
  rw [Master.readGroup70Var5, readFreeFormat_start 5 8 hbody] at h
  split at h
  · cases h
  · cases h
    simp only [List.length_take, List.length_drop]
    omega

/-- A description that is read from a whole object has room for the name, and a time of six
    bytes. -/
theorem bounds_of_readVar7 {body : List UInt8} (hbody : body.length < 65536)
    {info : Master.FileInfo}
    (h : Master.readGroup70Var7 (start 7 body.length ++ body) = some info) :
    20 + info.fileName.length < 65536 ∧ info.timeOfCreation < 2 ^ 48 := by
  rw [Master.readGroup70Var7, readFreeFormat_start 7 20 hbody] at h
  split at h
  · cases h
  · rename_i hlong
    simp only [Bool.or_eq_true, decide_eq_true_eq, not_or, Nat.not_lt] at hlong
    cases h
    refine ⟨?_, ?_⟩
    · simp only [List.length_take, List.length_drop]
      omega
    · have htime := decodeLE_lt ((body.drop 10).take 6)
      have hsix : ((body.drop 10).take 6).length = 6 := by
        rw [List.length_take, List.length_drop]
        omega
      rw [hsix] at htime
      exact htime

/-! ### The responses -/

/-- A call of one of the response writers.  Block numbers have 31 bits, and permissions are
    those of a user, a group and the world. -/
inductive Response where
  | var4 (fileHandle fileSize : UInt32) (maxBlockSize requestId : UInt16) (status : FileStatus)
  | var5 (fileHandle blockNum : UInt32) (lastBlock : Bool) (data : List UInt8)
      (hblock : blockNum < 0x80000000)
  | var6 (fileHandle blockNum : UInt32) (status : FileStatus)
  | var7 (info : FileInfo) (permissions : Master.FilePermissions)
      (hpermissions : info.permissions = permissions.toRaw)

namespace Response

/-- The length that the object states. -/
def dataLen : Response → Nat
  | var4 .. => 13
  | var5 _ _ _ data _ => (8 + data.length) % 65536
  | var6 .. => 9
  | var7 info _ _ => (20 + info.fileName.length % 65536) % 65536

/-- Does the master get back what was written, if anything was? -/
def IsRecovered (w : HeaderWriter) (response : Response) : Prop :=
  let returned := fits w response.dataLen
  match response with
  | var4 fileHandle fileSize maxBlockSize requestId status =>
    Recovered w (writeVar4Response w fileHandle fileSize maxBlockSize requestId status) returned 4
      Master.readGroup70Var4 ⟨fileHandle, fileSize, maxBlockSize, requestId, status⟩
  | var5 fileHandle blockNum lastBlock data _ =>
    Recovered w (writeVar5Response w fileHandle blockNum lastBlock data) returned 5
      Master.readGroup70Var5 ⟨fileHandle, blockNum, lastBlock, data⟩
  | var6 fileHandle blockNum status =>
    Recovered w (writeVar6Response w fileHandle blockNum status) returned 6
      Master.readGroup70Var6 ⟨fileHandle, blockNum, status⟩
  | var7 info permissions _ =>
    Recovered w (writeVar7Response w info) returned 7 Master.readGroup70Var7
      ⟨info.fileName, info.type, info.size, info.timeOfCreation.toNat, permissions, info.requestId⟩

/-- The data fits into an object, and the time into six bytes. -/
def Sized : Response → Prop
  | var5 _ _ _ data _ => 8 + data.length < 65536
  | var7 info _ _ => 20 + info.fileName.length < 65536 ∧ info.timeOfCreation.toNat < 2 ^ 48
  | _ => True

variable {w : HeaderWriter}

/-- The command status. -/
theorem isRecovered_var4 (hw : w.position ≤ w.buffer.length) (fileHandle fileSize : UInt32)
    (maxBlockSize requestId : UInt16) (status : FileStatus) :
    (var4 fileHandle fileSize maxBlockSize requestId status).IsRecovered w := by
  show Recovered w (writeFreeFormat w 4 13 _) (fits w 13) 4 _ _
  refine recovered_writeFreeFormat hw (by simp) (by decide) ?_
  rw [Master.readGroup70Var4, readFreeFormat_start 4 13 (by decide), if_neg (by simp)]
  show some (Master.Group70Var4.mk (decodeU32 (encodeU32 fileHandle ++ _))
    (decodeU32 (encodeU32 fileSize ++ _)) (decodeU16 (encodeU16 maxBlockSize ++ _))
    (decodeU16 (encodeU16 requestId ++ [status.code])) ⟨status.code⟩) = _
  simp only [decodeU32_encodeU32_append, decodeU16_encodeU16_append]

/-- A block whose data fits into an object. -/
theorem isRecovered_var5 (hw : w.position ≤ w.buffer.length) (fileHandle : UInt32)
    {blockNum : UInt32} (lastBlock : Bool) {data : List UInt8} (hblock : blockNum < 0x80000000)
    (hdata : 8 + data.length < 65536) :
    (var5 fileHandle blockNum lastBlock data hblock).IsRecovered w := by
  have hlen : (8 + data.length) % 65536 = 8 + data.length := Nat.mod_eq_of_lt hdata
  simp only [IsRecovered, dataLen, writeVar5Response, hlen]
  refine recovered_writeFreeFormat hw (by simp; omega) hdata ?_
  rw [Master.readGroup70Var5, readFreeFormat_start 5 8 hdata, if_neg (by simp; omega)]
  simp only [List.flatten_cons, List.flatten_nil, List.append_nil, List.append_assoc,
    Option.map_some]
  have hnumber : decodeU32 ((encodeU32 fileHandle ++
      (encodeU32 (Master.blockField blockNum lastBlock) ++ data)).drop 4) =
      Master.blockField blockNum lastBlock := decodeU32_encodeU32_append _ _
  have hrest : ((encodeU32 fileHandle ++ (encodeU32 (Master.blockField blockNum lastBlock) ++
      data)).drop 8).take (8 + data.length - 8) = data := by
    rw [Nat.add_sub_cancel_left]
    exact List.take_length
  rw [Master.blockField] at hnumber hrest
  rw [hnumber, hrest, ← Master.blockField, Master.blockField_last hblock,
    Master.blockField_number hblock, decodeU32_encodeU32_append]

/-- The status of a block. -/
theorem isRecovered_var6 (hw : w.position ≤ w.buffer.length) (fileHandle blockNum : UInt32)
    (status : FileStatus) : (var6 fileHandle blockNum status).IsRecovered w := by
  show Recovered w (writeFreeFormat w 6 9 _) (fits w 9) 6 _ _
  refine recovered_writeFreeFormat hw (by simp) (by decide) ?_
  rw [Master.readGroup70Var6, readFreeFormat_start 6 9 (by decide), if_neg (by simp)]
  show some (Master.Group70Var6.mk (decodeU32 (encodeU32 fileHandle ++ _))
    (decodeU32 (encodeU32 blockNum ++ [status.code])) ⟨status.code⟩) = _
  simp only [decodeU32_encodeU32_append]

/-- A description whose name fits into an object, with a time of six bytes. -/
theorem isRecovered_var7 (hw : w.position ≤ w.buffer.length) {info : FileInfo}
    {permissions : Master.FilePermissions} (hpermissions : info.permissions = permissions.toRaw)
    (hname : 20 + info.fileName.length < 65536) (htime : info.timeOfCreation.toNat < 2 ^ 48) :
    (var7 info permissions hpermissions).IsRecovered w := by
  -- nothing is cut off by the 16-bit lengths
  have hmod : info.fileName.length % 65536 = info.fileName.length :=
    Nat.mod_eq_of_lt (by omega)
  have hlen : (20 + info.fileName.length) % 65536 = 20 + info.fileName.length :=
    Nat.mod_eq_of_lt hname
  simp only [IsRecovered, dataLen, writeVar7Response, hmod, hlen, List.take_length]
  refine recovered_writeFreeFormat hw (by simp; omega) hname ?_
  rw [Master.readGroup70Var7, readFreeFormat_start 7 20 hname, if_neg (by simp; omega)]
  simp only [List.flatten_cons, List.flatten_nil, List.append_nil, List.append_assoc,
    Option.map_some]
  have hcode : encodeLE 2 info.fileName.length = encodeU16 (UInt16.ofNat info.fileName.length) := by
    rw [encodeU16, UInt16.toNat_ofNat', Nat.mod_eq_of_lt (by omega)]
  have hread : decodeLE (encodeLE 6 info.timeOfCreation.toNat) = info.timeOfCreation.toNat := by
    rw [decodeLE_encodeLE]
    exact Nat.mod_eq_of_lt htime
  rw [hcode, hpermissions]
  show some (Master.FileInfo.mk
    (info.fileName.take (decodeU16 (encodeU16 (UInt16.ofNat info.fileName.length) ++ _)).toNat)
    (decodeU16 (encodeU16 info.type ++ _)) (decodeU32 (encodeU32 info.size ++ _))
    (decodeLE (encodeLE 6 info.timeOfCreation.toNat))
    (.fromRaw (decodeU16 (encodeU16 permissions.toRaw ++ _)))
    (decodeU16 (encodeU16 info.requestId ++ _))) = _
  rw [decodeU16_encodeU16_append, decodeU16_encodeU16_append, decodeU32_encodeU32_append,
    decodeU16_encodeU16_append, decodeU16_encodeU16_append, hread,
    Master.FilePermissions.fromRaw_toRaw, UInt16.toNat_ofNat', Nat.mod_eq_of_lt (by omega),
    List.take_length]

/-- A writer without room for the stated length writes nothing, and says so. -/
theorem isRecovered_of_full {response : Response} (h : w.remaining < 6 + response.dataLen) :
    response.IsRecovered w := by
  have hfits : fits w response.dataLen = false := decide_eq_false (Nat.not_le.mpr h)
  cases response <;> exact .inl ⟨hfits, if_pos (by simp only [dataLen] at h; omega)⟩

/-- **The responses come back exactly when** their data and time fit into an object, or the
    writer has no room for the length it states. -/
theorem isRecovered_iff {w : HeaderWriter} (hw : w.position ≤ w.buffer.length)
    (response : Response) :
    response.IsRecovered w ↔ response.Sized ∨ w.remaining < 6 + response.dataLen := by
  constructor
  · intro h
    by_cases hfull : w.remaining < 6 + response.dataLen
    · exact .inr hfull
    · have hfits : fits w response.dataLen = true := decide_eq_true (Nat.le_of_not_lt hfull)
      left
      -- the fixed objects have no lengths that could be wrong
      cases response with
      | var4 | var6 => exact trivial
      | var5 fileHandle blockNum lastBlock data hblock =>
        rcases h with ⟨hfalse, -⟩ | ⟨-, body, hbody, -, hread⟩
        · cases hfits.symm.trans hfalse
        · exact length_of_readVar5 hbody hread
      | var7 info permissions hpermissions =>
        rcases h with ⟨hfalse, -⟩ | ⟨-, body, hbody, -, hread⟩
        · cases hfits.symm.trans hfalse
        · exact bounds_of_readVar7 hbody hread
  · rintro (hsized | hfull)
    · cases response with
      | var4 => exact isRecovered_var4 hw ..
      | var5 => exact isRecovered_var5 hw _ _ _ hsized
      | var6 => exact isRecovered_var6 hw ..
      | var7 => exact isRecovered_var7 hw _ hsized.1 hsized.2
    · exact isRecovered_of_full hfull

/-- A block of three bytes. -/
theorem isRecovered_block :
    IsRecovered ⟨List.replicate 50 0, 0⟩ (var5 7 1 true [1, 2, 3] (by decide)) :=
  (isRecovered_iff (by decide) _).mpr (.inl (show 8 + [1, 2, 3].length < 65536 by decide))

/-- A file handler that gives 65536 bytes for one block: the response states a length of 8, and
    no data follows. -/
theorem isRecovered_oversized :
    let data := List.replicate 65536 (0 : UInt8)
    let w : HeaderWriter := ⟨List.replicate 50 0, 0⟩
    (writeVar5Response w 7 1 true data).position = 14 ∧
      ¬ IsRecovered w (var5 7 1 true data (by decide)) := by
  intro data w
  have hdata : data.length = 65536 := List.length_replicate
  clear_value data
  refine ⟨?_, ?_⟩
  · have hlen : (8 + data.length) % 65536 = 8 := by rw [hdata]
    simp only [writeVar5Response, hlen]
    -- after the fixed fields 36 bytes are left
    have hroom : ∀ w' : HeaderWriter, w'.remaining = 36 → (w'.writeRawBytes data).getD w' = w' := by
      intro w' hw'
      rw [HeaderWriter.writeRawBytes, if_pos (by rw [hw', hdata]; decide)]
      rfl
    exact congrArg HeaderWriter.position (hroom _ (by decide +kernel))
  · rintro (⟨hfalse, -⟩ | ⟨-, body, hbody, -, hread⟩)
    · have hfits : fits w ((8 + data.length) % 65536) = true := by rw [hdata]; decide +kernel
      cases hfits.symm.trans hfalse
    · -- no object has room for that much data
      have hlt : 8 + data.length < 65536 := length_of_readVar5 hbody hread
      omega

end Response

end Group70

end OpenDnp3.Outstation
