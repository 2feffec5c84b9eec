import OpenDnp3.Lib.Memory
import OpenDnp3.Master.FileTransferTask

/-!
# Descriptions of files

`ReadDirectoryTask` of the master reads the descriptions of all files of a directory.  It reads
the directory like a file, block after block, and takes the result apart when it is complete.
The entries follow each other without any separation: each states the offset and the size of its
file name, which ends the entry.
-/

namespace OpenDnp3.Master

open App Lib

/-! ## Descriptions -/

/-- The rights of one class of users. -/
structure FilePermissionSet where
  read : Bool
  write : Bool
  execute : Bool
  deriving DecidableEq, Repr

structure FilePermissions where
  owner : FilePermissionSet
  group : FilePermissionSet
  world : FilePermissionSet
  deriving DecidableEq, Repr

namespace FilePermissions

def fromRaw (raw : UInt16) : FilePermissions where
  owner := ⟨raw &&& 0x100 != 0, raw &&& 0x080 != 0, raw &&& 0x040 != 0⟩
  group := ⟨raw &&& 0x020 != 0, raw &&& 0x010 != 0, raw &&& 0x008 != 0⟩
  world := ⟨raw &&& 0x004 != 0, raw &&& 0x002 != 0, raw &&& 0x001 != 0⟩

def toRaw (p : FilePermissions) : UInt16 :=
  (if p.world.execute then 0x001 else 0) ||| (if p.world.write then 0x002 else 0) |||
    (if p.world.read then 0x004 else 0) ||| (if p.group.execute then 0x008 else 0) |||
    (if p.group.write then 0x010 else 0) ||| (if p.group.read then 0x020 else 0) |||
    (if p.owner.execute then 0x040 else 0) ||| (if p.owner.write then 0x080 else 0) |||
    (if p.owner.read then 0x100 else 0)

/-- Nine bits hold the permissions. -/
theorem fromRaw_toRaw (p : FilePermissions) : fromRaw p.toRaw = p := by
  obtain ⟨⟨a, b, c⟩, ⟨d, e, f⟩, ⟨g, h, i⟩⟩ := p
  revert a b c d e f g h i
  decide +kernel

end FilePermissions

structure FileInfo where
  fileName : List UInt8
  type : UInt16
  size : UInt32
  timeOfCreation : Nat
  permissions : FilePermissions
  requestId : UInt16
  deriving DecidableEq, Repr

/-- What an object of variation 7 says.  The file name is behind the fixed fields, whatever its
    offset, and the length of the object does not bound it. -/
def readGroup70Var7 (objects : List UInt8) : Option FileInfo :=
  (readFreeFormat 7 20 objects).map fun (_, data) =>
    { fileName := (data.drop 20).take (decodeU16 (data.drop 2)).toNat
      type := decodeU16 (data.drop 4)
      size := decodeU32 (data.drop 6)
      timeOfCreation := decodeLE ((data.drop 10).take 6)
      permissions := .fromRaw (decodeU16 (data.drop 16))
      requestId := decodeU16 (data.drop 18) }

/-! ## A directory -/

structure DirectoryReadResult where
  summary : TaskCompletion
  statusCode : FileStatus
  /-- The entries, unless a read left the received data. -/
  entries : Option (List FileInfo)
  deriving DecidableEq, Repr

/-- A directory, which is read block by block like a file. -/
structure ReadDirectoryTask where
  state : FileTransferState
  fileHandle : UInt32
  expectedBlockNum : UInt32
  maxBlockSize : UInt16
  lastStatus : FileStatus
  rawData : List UInt8
  lastBlockReceived : Bool
  deriving DecidableEq, Repr

namespace ReadDirectoryTask

/-- The task after `Initialize`. -/
def initialized : ReadDirectoryTask where
  state := .OPEN_FILE
  fileHandle := 0
  expectedBlockNum := 0
  maxBlockSize := 2048
  lastStatus := .SUCCESS
  rawData := []
  lastBlockReceived := false

/-- The start that the parsers of this task share; unlike those of `FileTransferTask` they do
    not look at the count. -/
def readObject (variation : UInt8) (minLength : Nat) (objects : List UInt8) :
    Option (Nat × List UInt8) :=
  match objects with
  | group :: var :: qc :: _ :: len0 :: len1 :: data =>
    let dataLen := decodeLE [len0, len1]
    if group = 70 ∧ var = variation ∧ qc = UINT8_CNT_UINT16_FREE_FORMAT ∧
        dataLen ≤ data.length ∧ minLength ≤ dataLen then
      some (dataLen, data)
    else none
  | _ => none

def parseGroup70Var4 (t : ReadDirectoryTask) (objects : List UInt8) : Option ReadDirectoryTask :=
  (readObject 4 13 objects).map fun (_, data) =>
    { t with
      fileHandle := decodeU32 data
      maxBlockSize := decodeU16 (data.drop 8)
      lastStatus := ⟨data.getD 12 0⟩ }

def parseGroup70Var5 (t : ReadDirectoryTask) (objects : List UInt8) : Option ReadDirectoryTask :=
  (readObject 5 8 objects).map fun (dataLen, data) =>
    let blockNum := decodeU32 (data.drop 4)
    { t with
      lastBlockReceived := blockNum &&& 0x80000000 != 0
      rawData := t.rawData ++ (data.drop 8).take (dataLen - 8)
      expectedBlockNum := (blockNum &&& 0x7FFFFFFF) + 1 }

def parseGroup70Var6 (t : ReadDirectoryTask) (objects : List UInt8) : Option ReadDirectoryTask :=
  (readObject 6 9 objects).map fun (_, data) => { t with lastStatus := ⟨data.getD 8 0⟩ }

/-- `ptr[i]` to `ptr[i + n - 1]` as a number, where the data begins at `ptr`. -/
def readAt (data : List UInt8) (i n : Nat) : Option Nat :=
  if i + n ≤ data.length then some (decodeLE (slice data i n)) else none

/-- The file name of an entry: as much of it as there is data. -/
def readName (data : List UInt8) (fileNameOffset fileNameSize : Nat) : Option (List UInt8) :=
  if 0 < fileNameSize && fileNameOffset ≤ data.length then
    let nameAvailable := min fileNameSize (data.length - fileNameOffset)
    if fileNameOffset + nameAvailable ≤ data.length then
      some (slice data fileNameOffset nameAvailable)
    else none
  else some []

/-- The loop of `ParseDirectoryEntries`, with at most `fuel` passes; `data` begins at `ptr` and
    has `remaining` bytes.  There is no result when the passes do not suffice or when a read
    leaves the data. -/
def entryLoop : Nat → List UInt8 → Option (List FileInfo)
  | 0, _ => none
  | fuel + 1, data =>
    if data.length < 18 then some []
    else do
      let fileNameOffset ← readAt data 0 2
      let fileNameSize ← readAt data 2 2
      let fileType ← readAt data 4 2
      let fileSize ← readAt data 6 4
      let timeOfCreation ← readAt data 10 6
      let permissions ← readAt data 16 2
      let entrySize := fileNameOffset + fileNameSize
      if data.length < entrySize || entrySize < 18 then some []
      else do
        let fileName ← readName data fileNameOffset fileNameSize
        let rest ← entryLoop fuel (data.drop entrySize)
        some (⟨fileName, .ofNat fileType, .ofNat fileSize, timeOfCreation,
          .fromRaw (.ofNat permissions), 0⟩ :: rest)

/-- `ParseDirectoryEntries`.  Every pass takes bytes away, so this many suffice. -/
def parseDirectoryEntries (rawData : List UInt8) : Option (List FileInfo) :=
  entryLoop (rawData.length + 1) rawData

/-- `ProcessResponse` in state `READ_BLOCK`. -/
def processRead (t : ReadDirectoryTask) (objects : List UInt8) :
    ReadDirectoryTask × ResponseResult :=
  match objects with
  | 70 :: 5 :: _ :: _ =>
    match t.parseGroup70Var5 objects with
    | none => ({ t with state := .CLOSE_FILE }, .OK_REPEAT)
    | some t => (if t.lastBlockReceived then { t with state := .CLOSE_FILE } else t, .OK_REPEAT)
  | 70 :: 6 :: _ :: _ =>
    ({ (t.parseGroup70Var6 objects).getD t with state := .CLOSE_FILE }, .OK_REPEAT)
  | _ => ({ t with state := .CLOSE_FILE }, .OK_REPEAT)

def processResponse (t : ReadDirectoryTask) (response : Response) :
    ReadDirectoryTask × ResponseResult :=
  if !validateSingleResponse response.header then (t, .ERROR_BAD_RESPONSE)
  else if FileTransferTask.refused response.header then
    ({ t with lastStatus := .NOT_EXIST }, .OK_FINAL)
  else
    match t.state with
    | .OPEN_FILE =>
      match t.parseGroup70Var4 response.objects with
      | none => (t, .ERROR_BAD_RESPONSE)
      | some t =>
        if t.lastStatus ≠ .SUCCESS then (t, .OK_FINAL)
        else ({ t with state := .READ_BLOCK, expectedBlockNum := 0 }, .OK_REPEAT)
    | .READ_BLOCK => t.processRead response.objects
    | .CLOSE_FILE => (t, .OK_FINAL)

/-- `OnTaskComplete`: the entries are taken apart only now. -/
def onTaskComplete (t : ReadDirectoryTask) (result : TaskCompletion) : DirectoryReadResult where
  summary := result
  statusCode := t.lastStatus
  entries :=
    if result = .SUCCESS ∧ t.lastStatus = .SUCCESS ∧ t.rawData ≠ [] then
      parseDirectoryEntries t.rawData
    else some []

/-- The task as a kind of master task. -/
def taskClass : TaskClass ReadDirectoryTask DirectoryReadResult where
  initialized := initialized
  processResponse := processResponse
  onTaskComplete := onTaskComplete

/-! ### The loop stays in the data -/

theorem isSome_readAt {data : List UInt8} {i n : Nat} (h : i + n ≤ data.length) :
    readAt data i n = some (decodeLE (slice data i n)) := if_pos h

/-- The name of an entry that lies in the data. -/
theorem readName_eq {data : List UInt8} {fileNameOffset fileNameSize : Nat}
    (h : fileNameOffset + fileNameSize ≤ data.length) :
    readName data fileNameOffset fileNameSize = some (slice data fileNameOffset fileNameSize) := by
  have havailable : min fileNameSize (data.length - fileNameOffset) = fileNameSize := by omega
  by_cases hempty : fileNameSize = 0
  · subst hempty
    simp [readName, slice]
  · have hname : (0 < fileNameSize && fileNameOffset ≤ data.length) = true := by
      simp only [Bool.and_eq_true, decide_eq_true_eq]
      omega
    simp only [readName, hname, havailable, h, if_true]

/-- **Termination and bounds**: with more passes than bytes the loop ends, and no read leaves the
    data. -/
theorem isSome_entryLoop (fuel : Nat) : ∀ data : List UInt8, data.length < fuel →
    (entryLoop fuel data).isSome := by
  induction fuel with
  | zero =>
    intro data h
    exact absurd h (Nat.not_lt_zero _)
  | succ fuel ih =>
    intro data h
    unfold entryLoop
    split
    · rfl
    -- the fixed part of 18 bytes is there
    · have hread : ∀ i n, i + n ≤ 18 → readAt data i n = some (decodeLE (slice data i n)) :=
        fun i n hin => isSome_readAt (by omega)
      simp only [hread 0 2 (by omega), hread 2 2 (by omega), hread 4 2 (by omega),
        hread 6 4 (by omega), hread 10 6 (by omega), hread 16 2 (by omega), Option.bind_eq_bind,
        Option.bind_some]
      split
      · rfl
      · rename_i hsize
        simp only [Bool.or_eq_true, decide_eq_true_eq, not_or, Nat.not_lt] at hsize
        have hrest := ih (data.drop (decodeLE (slice data 0 2) + decodeLE (slice data 2 2)))
          (by rw [List.length_drop]; omega)
        obtain ⟨rest, hrest⟩ := Option.isSome_iff_exists.mp hrest
        rw [readName_eq hsize.1, hrest]
        rfl

/-- Whatever was received, the loop over the entries ends and stays inside the data. -/
theorem isSome_parseDirectoryEntries (rawData : List UInt8) :
    (parseDirectoryEntries rawData).isSome :=
  isSome_entryLoop _ rawData (Nat.lt_succ_self _)

end ReadDirectoryTask

/-! ### Entries -/

/-- An entry of a directory as it is sent: the fixed fields, possibly more bytes, and the name.
    The permissions are the raw field. -/
structure DirectoryEntry where
  fileName : List UInt8
  type : UInt16
  size : UInt32
  timeOfCreation : Nat
  permissions : UInt16
  gap : List UInt8
  name_lt : fileName.length < 65536
  offset_lt : 18 + gap.length < 65536
  time_lt : timeOfCreation < 2 ^ 48

namespace DirectoryEntry

def encode (e : DirectoryEntry) : List UInt8 :=
  encodeLE 2 (18 + e.gap.length) ++ encodeLE 2 e.fileName.length ++ encodeU16 e.type ++
    encodeU32 e.size ++ encodeLE 6 e.timeOfCreation ++ encodeU16 e.permissions ++ e.gap ++
    e.fileName

/-- What the user is to be told about it. -/
def info (e : DirectoryEntry) : FileInfo :=
  ⟨e.fileName, e.type, e.size, e.timeOfCreation, .fromRaw e.permissions, 0⟩

theorem length_encode (e : DirectoryEntry) :
    e.encode.length = 18 + e.gap.length + e.fileName.length := by
  simp only [encode, List.length_append, length_encodeLE, length_encodeU16, length_encodeU32]

/-- **One pass** of the loop at the start of an entry reports the entry and goes on behind it. -/
theorem entryLoop_encode (e : DirectoryEntry) (fuel : Nat) (rest : List UInt8) :
    ReadDirectoryTask.entryLoop (fuel + 1) (e.encode ++ rest) =
      (ReadDirectoryTask.entryLoop fuel rest).map (e.info :: ·) := by
  have hlength : (e.encode ++ rest).length =
      18 + e.gap.length + e.fileName.length + rest.length := by
    rw [List.length_append, length_encode]
  have hread : ∀ i n, i + n ≤ 18 → ReadDirectoryTask.readAt (e.encode ++ rest) i n =
      some (decodeLE (slice (e.encode ++ rest) i n)) :=
    fun i n hin => ReadDirectoryTask.isSome_readAt (by omega)
  have hoffset : decodeLE (slice (e.encode ++ rest) 0 2) = 18 + e.gap.length :=
    (decodeLE_encodeLE 2 _).trans (Nat.mod_eq_of_lt e.offset_lt)
  have hname : decodeLE (slice (e.encode ++ rest) 2 2) = e.fileName.length :=
    (decodeLE_encodeLE 2 _).trans (Nat.mod_eq_of_lt e.name_lt)
  have htype : decodeLE (slice (e.encode ++ rest) 4 2) = e.type.toNat :=
    (decodeLE_encodeLE 2 _).trans (Nat.mod_eq_of_lt e.type.toNat_lt)
  have hsize : decodeLE (slice (e.encode ++ rest) 6 4) = e.size.toNat :=
    (decodeLE_encodeLE 4 _).trans (Nat.mod_eq_of_lt e.size.toNat_lt)
  have htime : decodeLE (slice (e.encode ++ rest) 10 6) = e.timeOfCreation :=
    (decodeLE_encodeLE 6 _).trans (Nat.mod_eq_of_lt e.time_lt)
  have hpermissions : decodeLE (slice (e.encode ++ rest) 16 2) = e.permissions.toNat :=
    (decodeLE_encodeLE 2 _).trans (Nat.mod_eq_of_lt e.permissions.toNat_lt)
  -- the name is the last part of the entry
  have hfile : slice (e.encode ++ rest) (18 + e.gap.length) e.fileName.length = e.fileName := by
    have hfront : (encodeLE 2 (18 + e.gap.length) ++ encodeLE 2 e.fileName.length ++
        encodeU16 e.type ++ encodeU32 e.size ++ encodeLE 6 e.timeOfCreation ++
        encodeU16 e.permissions ++ e.gap).length = 18 + e.gap.length := by
      simp only [List.length_append, length_encodeLE, length_encodeU16, length_encodeU32]
    rw [slice, encode, List.append_assoc _ e.fileName, List.drop_left' hfront, List.take_left]
  have hnext : (e.encode ++ rest).drop (18 + e.gap.length + e.fileName.length) = rest := by
    rw [← length_encode, List.drop_left]
  rw [ReadDirectoryTask.entryLoop, if_neg (by omega)]
  simp only [hread 0 2 (by omega), hread 2 2 (by omega), hread 4 2 (by omega),
    hread 6 4 (by omega), hread 10 6 (by omega), hread 16 2 (by omega), hoffset, hname, htype,
    hsize, htime, hpermissions, Option.bind_eq_bind, Option.bind_some]
  rw [if_neg (by simp only [Bool.or_eq_true, decide_eq_true_eq]; omega),
    ReadDirectoryTask.readName_eq (by omega), hfile, hnext, Option.bind_some, info,
    UInt16.ofNat_toNat, UInt32.ofNat_toNat, UInt16.ofNat_toNat]
  cases ReadDirectoryTask.entryLoop fuel rest <;> rfl

/-- The entries of a directory, one behind the other. -/
def encodeAll (entries : List DirectoryEntry) : List UInt8 := entries.flatMap encode

variable (entries : List DirectoryEntry)

/-- The loop reports a whole sequence of entries. -/
theorem entryLoop_encodeAll (fuel : Nat) (h : entries.length < fuel) :
    ReadDirectoryTask.entryLoop fuel (encodeAll entries) = some (entries.map info) := by
  induction entries generalizing fuel with
  | nil =>
    obtain ⟨fuel, rfl⟩ := Nat.exists_eq_succ_of_ne_zero (Nat.ne_of_gt h)
    rfl
  | cons e entries ih =>
    obtain ⟨fuel, rfl⟩ := Nat.exists_eq_succ_of_ne_zero (Nat.ne_of_gt (Nat.zero_lt_of_lt h))
    have hrest := ih fuel (Nat.lt_of_succ_lt_succ h)
    rw [encodeAll] at hrest
    rw [encodeAll, List.flatMap_cons, entryLoop_encode, hrest]
    rfl

theorem length_le_encodeAll : entries.length ≤ (encodeAll entries).length := by
  induction entries with
  | nil => exact Nat.le_refl 0
  | cons e entries ih =>
    rw [encodeAll] at ih
    rw [encodeAll, List.flatMap_cons, List.length_append, length_encode, List.length_cons]
    omega

theorem parseDirectoryEntries_encodeAll :
    ReadDirectoryTask.parseDirectoryEntries (encodeAll entries) = some (entries.map info) :=
  entryLoop_encodeAll entries _ (Nat.lt_succ_of_le (length_le_encodeAll entries))

end DirectoryEntry

/-! ### Reading a directory in blocks -/

/-- A single response in which the outstation refuses nothing. -/
structure Accepted where
  header : APDUResponseHeader
  single : validateSingleResponse header = true
  not_refused : FileTransferTask.refused header = false

/-- The number of a block, marked in the top bit if it is the last one. -/
def blockField (blockNum : UInt32) (last : Bool) : UInt32 :=
  if last then blockNum ||| 0x80000000 else blockNum

theorem blockField_last {blockNum : UInt32} (h : blockNum < 0x80000000) (last : Bool) :
    (blockField blockNum last &&& 0x80000000 != 0) = last := by
  have hlt : blockNum.toNat < 2 ^ 31 := UInt32.lt_iff_toNat_lt.mp h
  have htop : (0x80000000 : UInt32).toNat = 2 ^ 31 := rfl
  cases last with
  | false =>
    have hclear : blockNum &&& 0x80000000 = 0 := by
      apply UInt32.toNat_inj.mp
      apply Nat.eq_of_testBit_eq
      intro i
      rw [UInt32.toNat_and, Nat.testBit_and, htop, Nat.testBit_two_pow]
      by_cases hi : 31 = i
      · subst hi
        rw [Nat.testBit_lt_two_pow hlt]
        rfl
      · simp [hi]
    simp [blockField, hclear]
  | true =>
    have hset : (blockNum ||| 0x80000000) &&& 0x80000000 = 0x80000000 := by
      apply UInt32.toNat_inj.mp
      apply Nat.eq_of_testBit_eq
      intro i
      simp only [UInt32.toNat_and, UInt32.toNat_or, Nat.testBit_and, Nat.testBit_or]
      cases blockNum.toNat.testBit i <;> simp
    simp [blockField, hset]

theorem blockField_number {blockNum : UInt32} (h : blockNum < 0x80000000) (last : Bool) :
    blockField blockNum last &&& 0x7FFFFFFF = blockNum := by
  have hlt : blockNum.toNat < 2 ^ 31 := UInt32.lt_iff_toNat_lt.mp h
  have hlow : (0x7FFFFFFF : UInt32).toNat = 2 ^ 31 - 1 := rfl
  have htop : (0x80000000 : UInt32).toNat = 2 ^ 31 := rfl
  apply UInt32.toNat_inj.mp
  apply Nat.eq_of_testBit_eq
  intro i
  -- the number has no bits from 31 on, and the mask has only those below
  have hbit : ¬ i < 31 → blockNum.toNat.testBit i = false := fun hi =>
    Nat.testBit_lt_two_pow (Nat.lt_of_lt_of_le hlt (Nat.pow_le_pow_right (by omega) (by omega)))
  rw [UInt32.toNat_and, Nat.testBit_and, hlow, Nat.testBit_two_pow_sub_one]
  by_cases hi : i < 31
  · have hne : 31 ≠ i := by omega
    cases last with
    | false => simp [blockField, hi]
    | true =>
      simp only [blockField, if_true, UInt32.toNat_or, Nat.testBit_or, htop, Nat.testBit_two_pow,
        hi, hne, decide_false, decide_true, Bool.or_false, Bool.and_true]
  · simp [hi, hbit hi]

/-- A block of a file and the response that brings it. -/
structure FileBlock extends Accepted where
  fileHandle : UInt32
  blockNum : UInt32
  data : List UInt8
  blockNum_lt : blockNum < 0x80000000
  length_lt : 8 + data.length < 65536

/-- The response with the block. -/
def FileBlock.response (block : FileBlock) (last : Bool) : Response where
  header := block.header
  objects := [70, 5, UINT8_CNT_UINT16_FREE_FORMAT, 1] ++ encodeLE 2 (8 + block.data.length) ++
    (encodeU32 block.fileHandle ++
      (encodeU32 (blockField block.blockNum last) ++ block.data))

namespace ReadDirectoryTask

/-- The response to the open request says that the directory is open. -/
structure Opened extends Accepted where
  objects : List UInt8
  success : (initialized.parseGroup70Var4 objects).map ReadDirectoryTask.lastStatus =
    some .SUCCESS

/-- All responses of a directory that is read in blocks. -/
def responses (opened : Opened) (blocks : List FileBlock) (final : FileBlock) (closed : Accepted)
    (closeObjects : List UInt8) : List TaskInput :=
  .onResponse ⟨opened.header, opened.objects⟩ ::
    (blocks.map fun block => .onResponse (block.response false)) ++
    [.onResponse (final.response true), .onResponse ⟨closed.header, closeObjects⟩]

/-- The bytes of the blocks. -/
def received (blocks : List FileBlock) (final : FileBlock) : List UInt8 :=
  (blocks.flatMap FileBlock.data) ++ final.data

theorem processResponse_accepted (t : ReadDirectoryTask) (accepted : Accepted)
    (objects : List UInt8) (hstate : t.state = .READ_BLOCK) :
    t.processResponse ⟨accepted.header, objects⟩ = t.processRead objects := by
  simp [processResponse, accepted.single, accepted.not_refused, hstate]

theorem readObject_start (variation : UInt8) (minLength : Nat) {dataLen : Nat}
    (hdataLen : dataLen < 65536) (body : List UInt8) :
    readObject variation minLength
        ([70, variation, UINT8_CNT_UINT16_FREE_FORMAT, 1] ++ encodeLE 2 dataLen ++ body) =
      if dataLen ≤ body.length ∧ minLength ≤ dataLen then some (dataLen, body) else none := by
  have hlen : decodeLE [UInt8.ofNat dataLen, UInt8.ofNat (dataLen / 256)] = dataLen :=
    (decodeLE_encodeLE 2 dataLen).trans (Nat.mod_eq_of_lt hdataLen)
  simp [readObject, encodeLE, hlen]

/-- **The step of one block**: its data is appended, and the last one ends the reading. -/
theorem processRead_block (t : ReadDirectoryTask) (block : FileBlock) (last : Bool) :
    ∃ t', t.processRead (block.response last).objects = (t', .OK_REPEAT) ∧
      t'.rawData = t.rawData ++ block.data ∧ t'.lastStatus = t.lastStatus ∧
      t'.state = if last then .CLOSE_FILE else t.state := by
  have hread : readObject 5 8 (block.response last).objects =
      some (8 + block.data.length, encodeU32 block.fileHandle ++
        (encodeU32 (blockField block.blockNum last) ++ block.data)) := by
    refine (readObject_start 5 8 block.length_lt _).trans (if_pos ?_)
    simp only [List.length_append, length_encodeU32]
    omega
  have hdata : ((encodeU32 block.fileHandle ++ (encodeU32 (blockField block.blockNum last) ++
      block.data)).drop 8).take (8 + block.data.length - 8) = block.data := by
    rw [Nat.add_sub_cancel_left]
    exact List.take_length
  -- the block field holds the number and the mark of the last block
  have hnumber : decodeU32 ((encodeU32 block.fileHandle ++
      (encodeU32 (blockField block.blockNum last) ++ block.data)).drop 4) =
      blockField block.blockNum last := decodeU32_encodeU32_append _ _
  have hparse : t.parseGroup70Var5 (block.response last).objects = some
      { t with
        lastBlockReceived := last
        rawData := t.rawData ++ block.data
        expectedBlockNum := block.blockNum + 1 } := by
    rw [parseGroup70Var5, hread, Option.map_some]
    simp only [hdata, hnumber, blockField_last block.blockNum_lt,
      blockField_number block.blockNum_lt]
  have hobjects : t.processRead (block.response last).objects =
      match t.parseGroup70Var5 (block.response last).objects with
      | none => ({ t with state := .CLOSE_FILE }, .OK_REPEAT)
      | some t =>
        (if t.lastBlockReceived then { t with state := .CLOSE_FILE } else t, .OK_REPEAT) := rfl
  rw [hobjects, hparse]
  cases last with
  | false | true => exact ⟨_, rfl, rfl, rfl, rfl⟩

/-- **The run over the blocks** before the last one. -/
theorem run_blocks (blocks : List FileBlock) (t : ReadDirectoryTask)
    (hstate : t.state = .READ_BLOCK) :
    ∃ t', run taskClass.step (.running t)
        (blocks.map fun block => .onResponse (block.response false)) = .running t' ∧
      t'.rawData = t.rawData ++ blocks.flatMap FileBlock.data ∧ t'.lastStatus = t.lastStatus ∧
      t'.state = .READ_BLOCK := by
  induction blocks generalizing t with
  | nil => exact ⟨t, rfl, (List.append_nil _).symm, rfl, hstate⟩
  | cons block blocks ih =>
    obtain ⟨next, hprocess, hdata, hstatus, hnext⟩ := t.processRead_block block false
    have hstep : taskClass.step (.running t) (.onResponse (block.response false)) =
        .running next := by
      simp only [TaskClass.step, TaskClass.onResponse, taskClass]
      rw [show block.response false = ⟨block.header, (block.response false).objects⟩ from rfl,
        processResponse_accepted t block.toAccepted _ hstate, hprocess]
    obtain ⟨t', hrun, hdata', hstatus', hstate'⟩ := ih next (hnext.trans hstate)
    refine ⟨t', ?_, ?_, hstatus'.trans hstatus, hstate'⟩
    · rw [List.map_cons, run_cons, hstep, hrun]
    · rw [hdata', hdata, List.flatMap_cons, List.append_assoc]

/-- **The run of a whole directory** ends with success and what the loop makes of the data. -/
theorem execute_responses (opened : Opened) (blocks : List FileBlock) (final : FileBlock)
    (closed : Accepted) (closeObjects : List UInt8) :
    taskClass.execute (responses opened blocks final closed closeObjects) =
      .complete ⟨.SUCCESS, .SUCCESS, parseDirectoryEntries (received blocks final)⟩ := by
  -- the open response
  obtain ⟨t, hopen, hsuccess⟩ := Option.map_eq_some_iff.mp opened.success
  have hempty : t.rawData = [] := by
    obtain ⟨read, -, rfl⟩ := Option.map_eq_some_iff.mp hopen
    rfl
  have hfirst : taskClass.step (.running initialized) (.onResponse ⟨opened.header, opened.objects⟩)
      = .running { t with state := .READ_BLOCK, expectedBlockNum := 0 } := by
    have hstate : initialized.state = .OPEN_FILE := rfl
    simp [TaskClass.step, TaskClass.onResponse, taskClass, processResponse, opened.single,
      opened.not_refused, hstate, hopen, hsuccess]
  -- the blocks
  obtain ⟨t', hrun, hdata, hstatus, hstate⟩ :=
    run_blocks blocks { t with state := .READ_BLOCK, expectedBlockNum := 0 } rfl
  obtain ⟨last, hprocess, hdata', hstatus', hstate'⟩ := t'.processRead_block final true
  have hfinal : taskClass.step (.running t') (.onResponse (final.response true)) =
      .running last := by
    simp only [TaskClass.step, TaskClass.onResponse, taskClass]
    rw [show final.response true = ⟨final.header, (final.response true).objects⟩ from rfl,
      processResponse_accepted t' final.toAccepted _ hstate, hprocess]
  have hraw : last.rawData = received blocks final := by
    rw [hdata', hdata, hempty]
    rfl
  have hlast : last.lastStatus = .SUCCESS := hstatus'.trans (hstatus.trans hsuccess)
  -- the response to the close request ends the task
  have hclose : taskClass.step (.running last) (.onResponse ⟨closed.header, closeObjects⟩) =
      .complete (last.onTaskComplete .SUCCESS) := by
    simp [TaskClass.step, TaskClass.onResponse, taskClass, processResponse, closed.single,
      closed.not_refused, hstate']
  rw [TaskClass.execute, responses, List.cons_append, run_cons, run_append]
  show run taskClass.step (run taskClass.step (taskClass.step (.running initialized) _) _) _ = _
  rw [hfirst, hrun, run_cons, hfinal, run_cons, hclose, run_nil, onTaskComplete, hlast, hraw]
  by_cases hnil : received blocks final = []
  · simp only [hnil, ne_eq, not_true_eq_false, and_false, if_false]
    rfl
  · simp [hnil]

/-- **A directory listing is right** when reading it stays in the received data and, if it is
    reported as a success, the data is a complete sequence of entries and these are reported. -/
structure Listing (data : List UInt8) (result : DirectoryReadResult) : Prop where
  inside : result.entries.isSome
  complete : result.summary = .SUCCESS → result.statusCode = .SUCCESS →
    ∃ entries, data = DirectoryEntry.encodeAll entries
  exact : ∀ entries, data = DirectoryEntry.encodeAll entries →
    result = ⟨.SUCCESS, .SUCCESS, some (entries.map DirectoryEntry.info)⟩

/-- **The listing of a directory is right exactly when** the blocks bring a complete sequence of
    entries, however it is split. -/
theorem listing_iff (opened : Opened) (blocks : List FileBlock) (final : FileBlock)
    (closed : Accepted) (closeObjects : List UInt8) :
    (∃ result, taskClass.execute (responses opened blocks final closed closeObjects) =
        .complete result ∧ Listing (received blocks final) result) ↔
      ∃ entries, received blocks final = DirectoryEntry.encodeAll entries := by
  rw [execute_responses]
  constructor
  · rintro ⟨result, heq, h⟩
    cases heq
    exact h.complete rfl rfl
  · rintro ⟨entries, hdata⟩
    refine ⟨_, rfl, isSome_parseDirectoryEntries _, fun _ _ => ⟨entries, hdata⟩, ?_⟩
    intro entries' hdata'
    rw [hdata', DirectoryEntry.parseDirectoryEntries_encodeAll]

/-- A block that is cut off inside an entry: the task reports an empty directory. -/
theorem listing_truncated :
    let header : APDUResponseHeader := ⟨⟨⟨true, true, false, false, 0⟩, .RESPONSE⟩, .empty⟩
    let open_ : Response := ⟨header, [70, 4, 0x5B, 1, 13, 0, 1, 0, 0, 0, 0, 0, 0, 0, 0, 4, 0, 0, 0]⟩
    let block : Response := ⟨header, [70, 5, 0x5B, 1, 11, 0, 1, 0, 0, 0, 0, 0, 0, 0x80, 18, 0, 5]⟩
    let result : DirectoryReadResult := ⟨.SUCCESS, .SUCCESS, some []⟩
    taskClass.execute [.onResponse open_, .onResponse block, .onResponse ⟨header, []⟩] =
        .complete result ∧ ¬ Listing [18, 0, 5] result := by
  refine ⟨by decide +kernel, ?_⟩
  intro h
  obtain ⟨entries, hdata⟩ := h.complete rfl rfl
  -- an entry alone has at least 18 bytes
  cases entries with
  | nil => cases hdata
  | cons e entries =>
    have hlength := congrArg List.length hdata
    rw [DirectoryEntry.encodeAll, List.flatMap_cons, List.length_append,
      DirectoryEntry.length_encode] at hlength
    simp only [List.length_cons, List.length_nil] at hlength
    omega

end ReadDirectoryTask

end OpenDnp3.Master
