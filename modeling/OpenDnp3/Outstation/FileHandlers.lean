import OpenDnp3.App.HeaderWriter
import OpenDnp3.Master.FileTransferTask

/-!
# File requests

The outstation does not parse file objects with the object parser.  Each file request has its
own reader of the one group 70 object it expects, makes at most one call of the application's
file handler, and answers with one group 70 object.
-/

namespace OpenDnp3.Outstation

open App Lib
open Master (FileStatus)

/-! ## The file handler -/

structure FileInfo where
  fileName : List UInt8
  type : UInt16
  size : UInt32
  timeOfCreation : UInt64
  permissions : UInt16
  requestId : UInt16
  deriving DecidableEq, Repr

structure FileOpenResult where
  status : FileStatus
  fileHandle : UInt32
  fileSize : UInt32
  maxBlockSize : UInt16
  deriving DecidableEq, Repr

structure FileBlockResult where
  status : FileStatus
  data : List UInt8
  lastBlock : Bool
  deriving DecidableEq, Repr

/-- The calls of `IFileHandler`. -/
inductive FileCall where
  | getFileInfo (filename : List UInt8)
  | openFile (filename : List UInt8) (authKey : UInt32) (permissions mode maxBlockSize
      requestId : UInt16)
  | readBlock (fileHandle blockNum : UInt32)
  | writeBlock (fileHandle blockNum : UInt32) (lastBlock : Bool) (data : List UInt8)
  | closeFile (fileHandle : UInt32) (requestId : UInt16)
  | deleteFile (filename : List UInt8)
  | abortFile (fileHandle : UInt32)
  | authenticateFile (username password : List UInt8)
  deriving DecidableEq, Repr

/-- What the file handler would answer to the call that a request makes. -/
structure FileReplies where
  getFileInfo : FileStatus × FileInfo
  openFile : FileOpenResult
  readBlock : FileBlockResult
  writeBlock : FileStatus
  closeFile : FileStatus
  deleteFile : FileStatus
  authenticateFile : FileStatus × UInt32
  deriving DecidableEq, Repr

/-! ## Writing group 70 objects -/

namespace Group70

/-- One object in free format.  Nothing is written when the stated length does not fit; a part
    that does not fit behind it is left out. -/
def writeFreeFormat (w : HeaderWriter) (variation : UInt8) (dataLen : Nat)
    (parts : List (List UInt8)) : HeaderWriter :=
  if w.remaining < 3 + 1 + 2 + dataLen then w
  else
    match w.writeHeader ⟨70, variation⟩ .UINT8_CNT_UINT16_FREE_FORMAT with
    | none => w
    | some w =>
      ([1] :: encodeLE 2 dataLen :: parts).foldl (fun w bytes => (w.writeRawBytes bytes).getD w) w

/-- `WriteGroup70Var4Response`: the status of a file command. -/
def writeVar4Response (w : HeaderWriter) (fileHandle fileSize : UInt32)
    (maxBlockSize requestId : UInt16) (status : FileStatus) : HeaderWriter :=
  writeFreeFormat w 4 13
    [encodeU32 fileHandle ++ encodeU32 fileSize ++ encodeU16 maxBlockSize ++ encodeU16 requestId ++
      [status.code]]

/-- `WriteGroup70Var5Response`: a file block.  The length of the object is a 16-bit number. -/
def writeVar5Response (w : HeaderWriter) (fileHandle blockNum : UInt32) (lastBlock : Bool)
    (data : List UInt8) : HeaderWriter :=
  let blockField := if lastBlock then blockNum ||| 0x80000000 else blockNum
  writeFreeFormat w 5 ((8 + data.length) % 65536)
    [encodeU32 fileHandle ++ encodeU32 blockField, data]

/-- `WriteGroup70Var6Response`: the status of a block. -/
def writeVar6Response (w : HeaderWriter) (fileHandle blockNum : UInt32) (status : FileStatus) :
    HeaderWriter :=
  writeFreeFormat w 6 9 [encodeU32 fileHandle ++ encodeU32 blockNum ++ [status.code]]

/-- `WriteGroup70Var7Response`: the description of a file. -/
def writeVar7Response (w : HeaderWriter) (info : FileInfo) : HeaderWriter :=
  let fileNameLen := info.fileName.length % 65536
  writeFreeFormat w 7 ((20 + fileNameLen) % 65536)
    [encodeLE 2 20 ++ encodeLE 2 fileNameLen ++ encodeU16 info.type ++ encodeU32 info.size ++
      encodeLE 6 info.timeOfCreation.toNat ++ encodeU16 info.permissions ++
      encodeU16 info.requestId,
     info.fileName.take fileNameLen]

end Group70

/-! ## Reading requests -/

/-- The start that all readers share: a group 70 header with one of the given variations in
    free format, a count, and a length that the rest of the request covers.  The result has
    the variation, the stated length and all bytes behind it. -/
def readGroup70 (variations : List UInt8) (minCount minLen : Nat) (objects : List UInt8) :
    Option (UInt8 × Nat × List UInt8) :=
  match objects with
  | group :: var :: qc :: count :: len0 :: len1 :: data =>
    let dataLen := decodeLE [len0, len1]
    if group = 70 ∧ variations.contains var ∧ qc = 0x5B ∧ minCount ≤ count.toNat ∧
        dataLen ≤ data.length ∧ minLen ≤ dataLen then
      some (var, dataLen, data)
    else none
  | _ => none

/-- The answer to a file request: its indications, the response so far, and the calls made. -/
abbrev FileAnswer := IINField × HeaderWriter × List FileCall

/-- A request that cannot be read is a parameter error and calls nobody. -/
def fileAnswer (hasFileHandler : Bool) (w : HeaderWriter) (read : Option α)
    (answer : α → HeaderWriter × FileCall) : FileAnswer :=
  if hasFileHandler then
    match read with
    | none => (IINBit.PARAM_ERROR.mask, w, [])
    | some request =>
      let (w, call) := answer request
      (.empty, w, [call])
  else (IINBit.FUNC_NOT_SUPPORTED.mask, w, [])

/-- `IsFileReadRequest`: group 70 in the first header. -/
def isFileReadRequest (objects : List UInt8) : Bool :=
  3 ≤ objects.length && objects.getD 0 0 == 70

/-- `IsFileWriteRequest`. -/
def isFileWriteRequest (objects : List UInt8) : Bool :=
  3 ≤ objects.length && objects.getD 0 0 == 70 && objects.getD 1 0 == 5

variable (hasFileHandler : Bool) (replies : FileReplies) (objects : List UInt8) (w : HeaderWriter)

/-- The answer to a READ of a file block. -/
def handleFileRead : FileAnswer :=
  fileAnswer hasFileHandler w (readGroup70 [5] 1 8 objects) fun (_, _, data) =>
    let fileHandle := decodeU32 data
    let blockNum := decodeU32 (data.drop 4)
    let result := replies.readBlock
    if result.status = .SUCCESS then
      (Group70.writeVar5Response w fileHandle blockNum result.lastBlock result.data,
        .readBlock fileHandle blockNum)
    else
      (Group70.writeVar6Response w fileHandle blockNum result.status,
        .readBlock fileHandle blockNum)

/-- `HandleOpenFile`.  The block size is cut so that a block fits into a response. -/
def handleOpenFile (maxTxFragSize : Nat) : FileAnswer :=
  fileAnswer hasFileHandler w (readGroup70 [3] 0 26 objects) fun (_, _, data) =>
    let fileNameLength := decodeU16 (data.drop 2)
    let permissions := decodeU16 (data.drop 10)
    let authKey := decodeU32 (data.drop 12)
    let mode := decodeU16 (data.drop 20)
    let maxBlockSize := decodeU16 (data.drop 22)
    let requestId := decodeU16 (data.drop 24)
    let filename := (data.drop 26).take fileNameLength.toNat
    let maxDataInApdu := UInt16.ofNat (if maxTxFragSize > 18 then maxTxFragSize - 18 else 1)
    let result := replies.openFile
    (Group70.writeVar4Response w result.fileHandle result.fileSize
        (min result.maxBlockSize maxDataInApdu) requestId result.status,
      .openFile filename authKey permissions mode (min maxBlockSize maxDataInApdu) requestId)

def handleCloseFile : FileAnswer :=
  fileAnswer hasFileHandler w (readGroup70 [4] 0 13 objects) fun (_, _, data) =>
    let fileHandle := decodeU32 data
    let requestId := decodeU16 (data.drop 10)
    (Group70.writeVar4Response w fileHandle 0 0 requestId replies.closeFile,
      .closeFile fileHandle requestId)

/-- The file name of a DELETE_FILE request, by its variation. -/
def deleteFileName : Option (List UInt8) :=
  (readGroup70 [8, 3] 0 0 objects).bind fun (var, dataLen, data) =>
    if var = 8 then some (data.take dataLen)
    else if dataLen < 26 then none
    else
      let fileNameOffset := decodeU16 data
      let fileNameLength := decodeU16 (data.drop 2)
      some (((objects.drop 6).drop fileNameOffset.toNat).take fileNameLength.toNat)

def handleDeleteFile : FileAnswer :=
  fileAnswer hasFileHandler w (deleteFileName objects) fun filename =>
    (Group70.writeVar4Response w 0 0 0 0 replies.deleteFile, .deleteFile filename)

def handleGetFileInfo : FileAnswer :=
  fileAnswer hasFileHandler w (readGroup70 [8] 0 0 objects) fun (_, dataLen, data) =>
    let filename := data.take dataLen
    let (status, info) := replies.getFileInfo
    if status = .SUCCESS then (Group70.writeVar7Response w info, .getFileInfo filename)
    else (Group70.writeVar4Response w 0 0 0 0 status, .getFileInfo filename)

/-- `HandleAuthenticateFile`.  The names are taken in sequence, whatever their offsets are. -/
def handleAuthenticateFile : FileAnswer :=
  fileAnswer hasFileHandler w (readGroup70 [2] 0 12 objects) fun (_, _, data) =>
    let userNameLength := (decodeU16 (data.drop 2)).toNat
    let passwordLength := (decodeU16 (data.drop 6)).toNat
    let data := data.drop 12
    let hasUserName := 0 < userNameLength && userNameLength ≤ data.length
    let username := if hasUserName then data.take userNameLength else []
    let data := if hasUserName then data.drop userNameLength else data
    let password :=
      if 0 < passwordLength && passwordLength ≤ data.length then data.take passwordLength else []
    let (status, authKey) := replies.authenticateFile
    (Group70.writeVar4Response w authKey 0 0 0 status, .authenticateFile username password)

/-- `FileStatus::CLOSE_ABORT`. -/
def CLOSE_ABORT : FileStatus := ⟨6⟩

def handleAbortFile : FileAnswer :=
  fileAnswer hasFileHandler w (readGroup70 [4] 0 13 objects) fun (_, _, data) =>
    let fileHandle := decodeU32 data
    (Group70.writeVar4Response w fileHandle 0 0 0 CLOSE_ABORT, .abortFile fileHandle)

/-- The answer to a WRITE of a file block. -/
def handleFileWrite : FileAnswer :=
  fileAnswer hasFileHandler w (readGroup70 [5] 1 8 objects) fun (_, dataLen, data) =>
    let fileHandle := decodeU32 data
    let blockField := decodeU32 (data.drop 4)
    let blockNum := blockField &&& 0x7FFFFFFF
    let lastBlock := blockField &&& 0x80000000 != 0
    (Group70.writeVar6Response w fileHandle blockNum replies.writeBlock,
      .writeBlock fileHandle blockNum lastBlock ((data.drop 8).take (dataLen - 8)))

end OpenDnp3.Outstation
