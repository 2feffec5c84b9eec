import OpenDnp3.Lib.LittleEndian
import OpenDnp3.Master.MasterTask

/-!
# Reading a file from an outstation

The task opens the file, reads block after block until one has the last-block bit set, and
closes the file.  At the end the user gets the data if the task succeeded and the last status
it has seen is `SUCCESS`.

## Objects

The answers are free-format objects of group 70: variation 4 (command status) to the open
request, variation 5 (file transport) or variation 6 (transport status) to the read requests.
-/

namespace OpenDnp3.Master

open App Lib

/-! ## Group 70 objects -/

/-- A status code as it is on the wire; a byte without a name is kept as it is. -/
structure FileStatus where
  code : UInt8
  deriving DecidableEq, Repr

namespace FileStatus

def SUCCESS : FileStatus := ⟨0⟩
def NOT_EXIST : FileStatus := ⟨7⟩

end FileStatus

/-- The qualifier of free-format objects. -/
def UINT8_CNT_UINT16_FREE_FORMAT : UInt8 := 0x5B

/-- The first free-format object of group 70 with variation `variation`: its declared length,
    which is at least `minLength`, and the bytes from its start on. -/
def readFreeFormat (variation : UInt8) (minLength : Nat) (objects : List UInt8) :
    Option (Nat × List UInt8) :=
  match objects with
  | group :: var :: qc :: data =>
    if group != 70 || var != variation || qc != UINT8_CNT_UINT16_FREE_FORMAT then none
    else
      match data with
      | [] => none
      | count :: data =>
        if count < 1 then none
        else if data.length < 2 then none
        else
          let dataLen := (decodeU16 data).toNat
          let data := data.drop 2
          if data.length < dataLen || dataLen < minLength then none else some (dataLen, data)
  | _ => none

/-- A command status object. -/
structure Group70Var4 where
  fileHandle : UInt32
  fileSize : UInt32
  maxBlockSize : UInt16
  requestId : UInt16
  status : FileStatus
  deriving DecidableEq, Repr

/-- A block of a file. -/
structure Group70Var5 where
  fileHandle : UInt32
  blockNum : UInt32
  lastBlock : Bool
  fileData : List UInt8
  deriving DecidableEq, Repr

/-- A transport status object. -/
structure Group70Var6 where
  fileHandle : UInt32
  blockNum : UInt32
  status : FileStatus
  deriving DecidableEq, Repr

def readGroup70Var4 (objects : List UInt8) : Option Group70Var4 :=
  (readFreeFormat 4 13 objects).map fun (_, data) =>
    { fileHandle := decodeU32 data
      fileSize := decodeU32 (data.drop 4)
      maxBlockSize := decodeU16 (data.drop 8)
      requestId := decodeU16 (data.drop 10)
      status := ⟨data.getD 12 0⟩ }

/-- The top bit of the block number marks the last block. -/
def readGroup70Var5 (objects : List UInt8) : Option Group70Var5 :=
  (readFreeFormat 5 8 objects).map fun (dataLen, data) =>
    let blockNum := decodeU32 (data.drop 4)
    { fileHandle := decodeU32 data
      blockNum := blockNum &&& 0x7FFFFFFF
      lastBlock := blockNum &&& 0x80000000 != 0
      fileData := (data.drop 8).take (dataLen - 8) }

def readGroup70Var6 (objects : List UInt8) : Option Group70Var6 :=
  (readFreeFormat 6 9 objects).map fun (_, data) =>
    { fileHandle := decodeU32 data
      blockNum := decodeU32 (data.drop 4)
      status := ⟨data.getD 8 0⟩ }

/-! ## The task -/

inductive FileTransferState where
  | OPEN_FILE
  | READ_BLOCK
  | CLOSE_FILE
  deriving DecidableEq, Repr

/-- A file that is read block by block. -/
structure FileTransferTask where
  state : FileTransferState
  fileHandle : UInt32
  expectedBlockNum : UInt32
  maxBlockSize : UInt16
  lastStatus : FileStatus
  fileData : List UInt8
  lastBlockReceived : Bool
  deriving DecidableEq, Repr

structure FileReadResult where
  summary : TaskCompletion
  statusCode : FileStatus
  data : List UInt8
  deriving DecidableEq, Repr

namespace FileTransferTask

/-- The task after `Initialize`. -/
def initialized : FileTransferTask where
  state := .OPEN_FILE
  fileHandle := 0
  expectedBlockNum := 0
  maxBlockSize := 2048
  lastStatus := .SUCCESS
  fileData := []
  lastBlockReceived := false

def parseGroup70Var4 (t : FileTransferTask) (objects : List UInt8) : Option FileTransferTask :=
  (readGroup70Var4 objects).map fun object =>
    { t with
      fileHandle := object.fileHandle
      maxBlockSize := object.maxBlockSize
      lastStatus := object.status }

/-- Take a block's data.  Its file handle is not compared with the task's, nor its number with
    the one that was expected. -/
def appendBlock (t : FileTransferTask) (block : Group70Var5) : FileTransferTask :=
  { t with
    lastBlockReceived := block.lastBlock
    fileData := t.fileData ++ block.fileData
    expectedBlockNum := block.blockNum + 1 }

def parseGroup70Var5 (t : FileTransferTask) (objects : List UInt8) : Option FileTransferTask :=
  (readGroup70Var5 objects).map t.appendBlock

def parseGroup70Var6 (t : FileTransferTask) (objects : List UInt8) : Option FileTransferTask :=
  (readGroup70Var6 objects).map fun object => { t with lastStatus := object.status }

/-- `ProcessResponse` in state `OPEN_FILE`. -/
def processOpen (t : FileTransferTask) (objects : List UInt8) :
    FileTransferTask × ResponseResult :=
  match t.parseGroup70Var4 objects with
  | none => (t, .ERROR_BAD_RESPONSE)
  | some t =>
    if t.lastStatus ≠ .SUCCESS then
      -- open failed, no need to close
      (t, .OK_FINAL)
    else ({ t with state := .READ_BLOCK, expectedBlockNum := 0 }, .OK_REPEAT)

/-- `ProcessResponse` in state `READ_BLOCK`. -/
def processRead (t : FileTransferTask) (objects : List UInt8) :
    FileTransferTask × ResponseResult :=
  match objects with
  | 70 :: 5 :: _ :: _ =>
    match t.parseGroup70Var5 objects with
    | none => ({ t with state := .CLOSE_FILE }, .OK_REPEAT)
    | some t =>
      if t.lastBlockReceived then ({ t with state := .CLOSE_FILE }, .OK_REPEAT)
      else (t, .OK_REPEAT)
  | 70 :: 6 :: _ :: _ =>
    -- whether the object could be parsed does not matter
    ({ (t.parseGroup70Var6 objects).getD t with state := .CLOSE_FILE }, .OK_REPEAT)
  | _ =>
    -- unexpected response, try to close
    ({ t with state := .CLOSE_FILE }, .OK_REPEAT)

/-- The outstation refuses the function or its parameters. -/
def refused (header : APDUResponseHeader) : Bool :=
  header.IIN.isSet .FUNC_NOT_SUPPORTED || header.IIN.isSet .PARAM_ERROR

def processResponse (t : FileTransferTask) (response : Response) :
    FileTransferTask × ResponseResult :=
  if !validateSingleResponse response.header then (t, .ERROR_BAD_RESPONSE)
  else if refused response.header then ({ t with lastStatus := .NOT_EXIST }, .OK_FINAL)
  else
    match t.state with
    | .OPEN_FILE => t.processOpen response.objects
    | .READ_BLOCK => t.processRead response.objects
    | .CLOSE_FILE => (t, .OK_FINAL)

def onTaskComplete (t : FileTransferTask) (result : TaskCompletion) : FileReadResult where
  summary := result
  statusCode := t.lastStatus
  data := if result = .SUCCESS ∧ t.lastStatus = .SUCCESS then t.fileData else []

/-- The task as a kind of master task. -/
def taskClass : TaskClass FileTransferTask FileReadResult where
  initialized := initialized
  processResponse := processResponse
  onTaskComplete := onTaskComplete

end FileTransferTask

end OpenDnp3.Master
