import OpenDnp3.Link.Crc
import OpenDnp3.Outstation.CommandStatus
import OpenDnp3.Outstation.EventStorage
import OpenDnp3.Outstation.FileHandlers

/-!
# What the request handlers work on

The members of `OContext` that handlers of requests can change form the `Station`: database,
event buffer, control and time state, static indications and the mask of unsolicited classes.
The members that belong to the exchange of fragments are elsewhere, out of the handlers' reach.

The station also keeps the log of the outstation: what it sent, what it called, which events
left the buffer and why.  Nothing the code does depends on the log.
-/

namespace OpenDnp3.Outstation

open App

/-! ## Commands -/

inductive OperateType where
  | SelectBeforeOperate
  | DirectOperate
  | DirectOperateNoAck
  deriving DecidableEq, Repr

/-- A command of a request: its kind, index and object. -/
structure Command where
  gv : GroupVariation
  index : Nat
  object : List UInt8
  deriving DecidableEq, Repr

/-- A SELECT or OPERATE request as the control state sees it. -/
structure CommandRequest where
  seq : Fin 16
  now : Nat
  objects : List UInt8
  deriving DecidableEq, Repr

/-- The mutable state for select-before-operate controls. -/
structure ControlState where
  selected : Bool
  expectedSeq : Fin 16
  selectTime : Nat
  digest : UInt16
  length : Nat
  deriving DecidableEq, Repr

namespace ControlState

def fresh : ControlState := ⟨false, 0, 0, 0, 0⟩

/-- Does the request match the selection, in time? -/
def validateSelection (c : ControlState) (r : CommandRequest) (timeout : Nat) : CommandStatus :=
  if c.selected && c.expectedSeq == r.seq then
    if c.selectTime ≤ r.now then
      if r.now - c.selectTime < timeout then
        if c.length = r.objects.length ∧ c.digest = Link.CRC.calcCrc r.objects then .SUCCESS
        else .NO_SELECT
      else .TIMEOUT
    else .TIMEOUT
  else .NO_SELECT

def select (r : CommandRequest) : ControlState :=
  ⟨true, r.seq + 1, r.now, Link.CRC.calcCrc r.objects, r.objects.length⟩

def unselect (c : ControlState) : ControlState := { c with selected := false }

end ControlState

/-! ## Time synchronization -/

/-- The time at which RECORD_CURRENT_TIME was handled, and the number that must follow. -/
structure TimeSyncState where
  valid : Bool
  time : Nat
  difference : Nat
  expectedSeqNum : Fin 16
  deriving DecidableEq, Repr

namespace TimeSyncState

def fresh : TimeSyncState := ⟨false, 0, 0, 0⟩

def recordCurrentTime (t : TimeSyncState) (seq : Fin 16) (now : Nat) : TimeSyncState :=
  { t with valid := true, time := now, expectedSeqNum := seq + 1 }

/-- The recorded time serves once, for the request with the next sequence number. -/
def calcTimeDifference (t : TimeSyncState) (seq : Fin 16) (now : Nat) : Option TimeSyncState :=
  if t.valid && t.expectedSeqNum == seq && t.time ≤ now then
    some { t with difference := now - t.time, valid := false }
  else none

end TimeSyncState

/-! ## The log -/

/-- What a solicited fragment answers: the first fragment for a READ with its sequence number, a
    later fragment of the same series, or the answer to any other request, reads of file blocks
    included. -/
inductive ResponseKind where
  | first (request : Fin 16)
  | next
  | other
  deriving DecidableEq, Repr

/-- What the outstation does, as far as it can be seen from outside or concerns the contents of
    the event buffer. -/
inductive Action where
  /-- `ILowerLayer::BeginTransmit`. -/
  | transmit (destination : UInt16) (fragment : List UInt8)
  /-- A solicited fragment is sent for the first time; `events` are those written into it. -/
  | response (kind : ResponseKind) (control : AppControlField) (events : List Nat)
  /-- An unsolicited fragment is sent for the first time. -/
  | unsolicited (control : AppControlField) (events : List Nat)
  /-- A CONFIRM reaches the state machine. -/
  | confirm (uns : Bool) (seq : Fin 16)
  /-- The CONFIRM removes these events from the buffer. -/
  | cleared (uns : Bool) (seq : Fin 16) (events : List Nat)
  /-- An update pushes an event out of the full list `typed` of its type. -/
  | evicted (event : Nat) (typed : List Nat) (capacity : Nat)
  | confirmTimeout
  | broadcast
  | layerDown
  /-- A SELECT request with the status each command was answered with. -/
  | select (request : CommandRequest) (statuses : List CommandStatus) (recorded : Bool)
  /-- An operation request that was carried out, with the commands handed to the application. -/
  | operate (type : OperateType) (request : CommandRequest) (calls : List Command)
  /-- An OPERATE request without a valid selection. -/
  | refused (request : CommandRequest) (status : CommandStatus)
  | file (call : FileCall)
  | writeAbsoluteTime (time : Nat)
  | writeTimeAndInterval (values : List (Nat × List UInt8))
  | recordClassAssignment (type : Database.AssignClassType) (clazz : PointClass) (range : Range)
  | restart (warm : Bool)
  /-- `IOutstationApplication::OnConfirmProcessed`. -/
  | confirmProcessed (uns : Bool) (class1 class2 class3 : Nat)
  deriving DecidableEq, Repr

/-! ## The station -/

/-- What the functions that handle a request work on: data, events, selection and flags. -/
structure Station where
  database : Database
  eventBuffer : EventBuffer
  staticIIN : IINField
  control : ControlState
  time : TimeSyncState
  unsolClassMask : ClassField
  shouldCheckForUnsolicited : Bool
  log : List Action

namespace Station

def setDatabase (st : Station) (database : Database) : Station := { st with database }

def setEventBuffer (st : Station) (eventBuffer : EventBuffer) : Station := { st with eventBuffer }

def setStaticIIN (st : Station) (staticIIN : IINField) : Station := { st with staticIIN }

def setControl (st : Station) (control : ControlState) : Station := { st with control }

def setTime (st : Station) (time : TimeSyncState) : Station := { st with time }

def setUnsolClassMask (st : Station) (unsolClassMask : ClassField) : Station :=
  { st with unsolClassMask }

def setShouldCheck (st : Station) (shouldCheckForUnsolicited : Bool) : Station :=
  { st with shouldCheckForUnsolicited }

def record (st : Station) (actions : List Action) : Station :=
  { st with log := st.log ++ actions }

/-- What the log says about an event that a new event of this type pushes out. -/
def evictions (lists : EventLists) (type : EventType) : List Action :=
  match lists.evicted type with
  | none => []
  | some oldest =>
    [.evicted oldest.id ((lists.getList type).map EventRecord.id) (lists.config.capacity type)]

/-- `IEventReceiver::Update`. -/
def feed (st : Station) (event : AnyEvent) : Station :=
  (st.setEventBuffer (st.eventBuffer.update event)).record
    (evictions st.eventBuffer.lists event.type)

/-- Events in the order in which the database hands them on. -/
def feedAll (st : Station) (events : List AnyEvent) : Station := events.foldl feed st

/-- One call of the update interface. -/
def applyUpdate (now : DNPTime) (st : Station) (update : Database.Update) : Station :=
  let (db, events) := st.database.apply now update
  (st.setDatabase db).feedAll events

def applyUpdates (st : Station) (now : DNPTime) (updates : List Database.Update) : Station :=
  updates.foldl (applyUpdate now) st

end Station

end OpenDnp3.Outstation
