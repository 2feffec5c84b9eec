import OpenDnp3.App.APDUParser
import OpenDnp3.App.Measurement
import OpenDnp3.Master.MasterTask

/-!
# Handing measurements to the user

`MeasurementHandler` is the handler with which the master reads the objects of a response: every
header of measurements goes to the user's `ISOEHandler`, the headers with a common time of
occurrence are remembered for the relative times behind them.  A header that it does not know,
and one with relative times that no common time precedes, is left out; that is recorded as an
error of the handler, while the parser goes on.
-/

namespace OpenDnp3.Master

open App Lib

/-! ## Calls of the user's handler -/

/-- Which fragment of which kind of response the objects are from. -/
structure ResponseInfo where
  unsolicited : Bool
  fir : Bool
  fin : Bool
  deriving DecidableEq, Repr

def asResponseInfo (header : APDUResponseHeader) : ResponseInfo :=
  ⟨header.function = .UNSOLICITED_RESPONSE, header.control.FIR, header.control.FIN⟩

structure HeaderInfo where
  gv : GroupVariation
  qualifier : QualifierCode
  tsquality : TimestampQuality
  headerIndex : Nat
  deriving DecidableEq, Repr

/-- The calls of the `ISOEHandler`.  A collection is the header it was read from, with the time
    that is added to the times of its values. -/
inductive SOECall where
  | onRawAPDU (info : ResponseInfo) (objects : List UInt8)
  | beginFragment (info : ResponseInfo)
  | process (info : HeaderInfo) (values : ParsedHeader) (cto : Option DNPTime)
  | onDeviceAttribute (set variation typeCode : UInt8) (payload : List UInt8)
  | endFragment (info : ResponseInfo)
  deriving DecidableEq, Repr

/-! ## The handler -/

/-- The objects with an absolute time. -/
def hasAbsoluteTime : GroupVariation → Bool
  | ⟨2, 2⟩ | ⟨4, 2⟩ | ⟨11, 2⟩ | ⟨13, 2⟩ => true
  | ⟨21, v⟩ | ⟨22, v⟩ | ⟨23, v⟩ => v = 5 || v = 6 || v = 7 || v = 8
  | ⟨31, v⟩ => v = 3 || v = 4
  | ⟨32, v⟩ | ⟨33, v⟩ | ⟨42, v⟩ | ⟨43, v⟩ => v = 3 || v = 4 || v = 7 || v = 8
  | ⟨50, v⟩ => v = 1 || v = 3 || v = 4
  | ⟨51, v⟩ => v = 1 || v = 2
  | ⟨122, 2⟩ => true
  | _ => false

/-- The handler between the parser and the application of the master. -/
structure MeasurementHandler where
  info : ResponseInfo
  txInitiated : Bool
  commonTimeOccurence : DNPTime
  /-- The calls so far. -/
  calls : List SOECall
  /-- What `Record` keeps of the results of the headers. -/
  errors : IINField
  deriving DecidableEq, Repr

namespace MeasurementHandler

/-- The handler for a response; its objects have been shown to the user as they are. -/
def start (info : ResponseInfo) (objects : List UInt8) : MeasurementHandler where
  info := info
  txInitiated := false
  commonTimeOccurence := .invalid
  calls := [.onRawAPDU info objects]
  errors := .empty

def modeFromType (gv : GroupVariation) : TimestampQuality :=
  if hasAbsoluteTime gv then .SYNCHRONIZED else .INVALID

def checkForTxStart (h : MeasurementHandler) : MeasurementHandler :=
  if h.txInitiated then h
  else { h with txInitiated := true, calls := h.calls ++ [.beginFragment h.info] }

/-- `LoadValues`: the header goes to the user. -/
def loadValues (h : MeasurementHandler) (record : HeaderRecord) (tsquality : TimestampQuality)
    (values : ParsedHeader) (cto : Option DNPTime) : MeasurementHandler × IINField :=
  let h := h.checkForTxStart
  ({ h with
    calls := h.calls ++
      [.process ⟨record.enumeration, record.qualifier, tsquality, record.headerIndex⟩ values cto] },
    .empty)

/-- `ProcessWithCTO`: relative times need a common time. -/
def processWithCTO (h : MeasurementHandler) (record : HeaderRecord) (values : ParsedHeader) :
    MeasurementHandler × IINField :=
  if h.commonTimeOccurence.quality = .INVALID then
    (h, IINBit.PARAM_ERROR.mask)
  else
    h.loadValues record h.commonTimeOccurence.quality values (some h.commonTimeOccurence)

/-- The headers with a common time.  More than one time in a header is no time. -/
def processCTO (h : MeasurementHandler) (quality : TimestampQuality)
    (objects : List (List UInt8)) : MeasurementHandler × IINField :=
  match objects with
  | [object] => ({ h with commonTimeOccurence := ⟨decodeLE object, quality⟩ }, .empty)
  | _ => (h, .empty)

/-- The groups whose objects `MeasurementHandler` takes with a range.  Groups 70 and 85 to 88
    come out of free-format headers as octet strings. -/
def rangeGroups : List Nat :=
  [1, 3, 10, 20, 21, 30, 31, 40, 50, 70, 85, 86, 87, 88, 102, 110, 112]

/-- The groups whose objects it takes with an index each. -/
def prefixGroups : List Nat := [2, 4, 11, 13, 22, 23, 32, 33, 42, 43, 111, 113]

def processRange (h : MeasurementHandler) (record : HeaderRecord) (values : ParsedHeader) :
    MeasurementHandler × IINField :=
  if record.enumeration.group = 34 then h.loadValues record .INVALID values none
  else if record.enumeration.group ∈ rangeGroups then
    h.loadValues record (modeFromType record.enumeration) values none
  else unsupportedHeader h

def processPrefix (h : MeasurementHandler) (record : HeaderRecord) (values : ParsedHeader) :
    MeasurementHandler × IINField :=
  if record.enumeration = ⟨2, 3⟩ ∨ record.enumeration = ⟨4, 3⟩ then h.processWithCTO record values
  else if record.enumeration.group = 34 then h.loadValues record .INVALID values none
  else if record.enumeration.group ∈ prefixGroups then
    h.loadValues record (modeFromType record.enumeration) values none
  else unsupportedHeader h

/-- The `ProcessHeader` that the source overloads by the type of the collection. -/
def processHeader (h : MeasurementHandler) (header : ParsedHeader) :
    MeasurementHandler × IINField :=
  match header with
  | .countOf record objects =>
    match record.enumeration with
    | ⟨50, 1⟩ => h.loadValues record .INVALID header none
    | ⟨51, 1⟩ => h.processCTO .SYNCHRONIZED objects
    | ⟨51, 2⟩ => h.processCTO .UNSYNCHRONIZED objects
    | _ => unsupportedHeader h
  | .rangeOf record _ _ | .bitsOf record _ _ => h.processRange record header
  | .indexed record _ => h.processPrefix record header
  | _ => unsupportedHeader h

def onDeviceAttribute (h : MeasurementHandler) (set variation typeCode : UInt8)
    (payload : List UInt8) : MeasurementHandler :=
  let h := h.checkForTxStart
  { h with calls := h.calls ++ [.onDeviceAttribute set variation typeCode payload] }

/-- `OnHeader`: process and record.  Device attributes have no result to record. -/
def onHeader (h : MeasurementHandler) (header : ParsedHeader) : MeasurementHandler :=
  match header with
  | .deviceAttribute set variation typeCode payload =>
    h.onDeviceAttribute set variation typeCode payload
  | header =>
    let (h, iin) := h.processHeader header
    { h with errors := h.errors.or iin }

/-- The destructor ends the fragment if one was begun. -/
def finish (h : MeasurementHandler) : List SOECall :=
  if h.txInitiated then h.calls ++ [.endFragment h.info] else h.calls

/-- `MeasurementHandler::IsAllowed`. -/
def isAllowed : Whitelist := fun _ _ _ => true

/-- `MeasurementHandler::ProcessMeasurements`: the calls of the user's handler, and whether the
    objects parse. -/
def processMeasurements (info : ResponseInfo) (objects : List UInt8) :
    List SOECall × Except ParseResult Unit :=
  match parse .Default isAllowed objects with
  | .error result => ((start info objects).finish, .error result)
  | .ok headers => ((headers.foldl onHeader (start info objects)).finish, .ok ())

/-! ## What the user gets -/

/-- The headers that are for the handler itself. -/
def isCommonTime : ParsedHeader → Bool
  | .countOf record _ => record.enumeration = ⟨51, 1⟩ || record.enumeration = ⟨51, 2⟩
  | _ => false

/-- The user got this header. -/
def Handed (calls : List SOECall) : ParsedHeader → Prop
  | .deviceAttribute set variation typeCode payload =>
    .onDeviceAttribute set variation typeCode payload ∈ calls
  | header => ∃ info cto, .process info header cto ∈ calls

/-- The call hands the header on. -/
def hands (header : ParsedHeader) : SOECall → Bool
  | .process _ values _ => values = header
  | _ => false

theorem hands_iff {calls : List SOECall} {header : ParsedHeader} :
    calls.any (hands header) = true ↔ ∃ info cto, .process info header cto ∈ calls := by
  rw [List.any_eq_true]
  constructor
  · rintro ⟨call, hcall, hhands⟩
    cases call with
    | process info values cto =>
      obtain rfl : values = header := of_decide_eq_true hhands
      exact ⟨info, cto, hcall⟩
    | _ => cases hhands
  · rintro ⟨info, cto, hcall⟩
    exact ⟨_, hcall, decide_eq_true rfl⟩

instance (calls : List SOECall) (header : ParsedHeader) : Decidable (Handed calls header) :=
  match header with
  | .deviceAttribute set variation typeCode payload =>
    inferInstanceAs (Decidable (.onDeviceAttribute set variation typeCode payload ∈ calls))
  | .allObjects _ | .count _ _ | .range _ _ | .indices _ _ | .countOf _ _ | .rangeOf _ _ _
  | .bitsOf _ _ _ | .indexed _ _ | .freeFormat _ _ =>
    decidable_of_iff (calls.any (hands _) = true) hands_iff

/-- The objects parse to the end, and no header is left out with an error. -/
def complete (info : ResponseInfo) (objects : List UInt8) : Bool :=
  match parse .Default isAllowed objects with
  | .error _ => false
  | .ok headers => (headers.foldl onHeader (start info objects)).errors = .empty

theorem or_eq_empty_iff {a b : IINField} : a.or b = .empty ↔ a = .empty ∧ b = .empty := by
  obtain ⟨al, am⟩ := a
  obtain ⟨bl, bm⟩ := b
  simp only [IINField.or, IINField.empty, IINField.mk.injEq, UInt8.or_eq_zero_iff]
  tauto

theorem calls_checkForTxStart (h : MeasurementHandler) : h.calls <+: h.checkForTxStart.calls := by
  unfold checkForTxStart
  split
  · exact List.prefix_refl _
  · exact List.prefix_append _ _

/-- What can become of a header: the user gets it, it is a common time, or it is refused.  Calls
    are never taken back, and errors are left to `onHeader`. -/
structure Treated (h : MeasurementHandler) (header : ParsedHeader)
    (result : MeasurementHandler × IINField) : Prop where
  calls : h.calls <+: result.1.calls
  errors : result.1.errors = h.errors
  outcome : result.2 = .empty →
    isCommonTime header = true ∨ ∃ info cto, .process info header cto ∈ result.1.calls

variable {h : MeasurementHandler} {header : ParsedHeader}

variable (record : HeaderRecord)

theorem treated_loadValues (tsquality : TimestampQuality) (cto : Option DNPTime) :
    Treated h header (h.loadValues record tsquality header cto) where
  calls := (calls_checkForTxStart h).trans (List.prefix_append _ _)
  errors := by
    unfold loadValues checkForTxStart
    split <;> rfl
  outcome _ := .inr ⟨⟨record.enumeration, record.qualifier, tsquality, record.headerIndex⟩, cto,
    List.mem_append_right _ (List.mem_singleton.mpr rfl)⟩

/-- A header that is refused changes nothing. -/
theorem treated_refused {iin : IINField} (hiin : iin ≠ .empty) : Treated h header (h, iin) where
  calls := List.prefix_refl _
  errors := rfl
  outcome hempty := absurd hempty hiin

theorem treated_unsupported : Treated h header (unsupportedHeader h) :=
  treated_refused (by decide)

theorem treated_processCTO (quality : TimestampQuality) (objects : List (List UInt8))
    (hcto : isCommonTime header = true) : Treated h header (h.processCTO quality objects) := by
  unfold processCTO
  split
  all_goals
    exact ⟨List.prefix_refl _, rfl, fun _ => .inl hcto⟩

theorem treated_processWithCTO : Treated h header (h.processWithCTO record header) := by
  unfold processWithCTO
  split
  · exact treated_refused (by decide)
  · exact treated_loadValues ..

theorem treated_processRange : Treated h header (h.processRange record header) := by
  unfold processRange
  split
  · exact treated_loadValues ..
  · split
    · exact treated_loadValues ..
    · exact treated_unsupported

theorem treated_processPrefix : Treated h header (h.processPrefix record header) := by
  unfold processPrefix
  split
  · exact treated_processWithCTO record
  · split
    · exact treated_loadValues ..
    · split
      · exact treated_loadValues ..
      · exact treated_unsupported

theorem treated_processHeader : Treated h header (h.processHeader header) := by
  cases header with
  | countOf record objects =>
    simp only [processHeader]
    split
    · exact treated_loadValues ..
    · rename_i hgv
      exact treated_processCTO _ objects (by simp [isCommonTime, hgv])
    · rename_i hgv
      exact treated_processCTO _ objects (by simp [isCommonTime, hgv])
    · exact treated_unsupported
  | rangeOf record | bitsOf record => exact treated_processRange record
  | indexed record => exact treated_processPrefix record
  | allObjects | count | range | indices | freeFormat | deviceAttribute =>
    exact treated_unsupported

theorem Handed.mono {calls calls' : List SOECall} (hsub : calls ⊆ calls')
    (hheader : Handed calls header) : Handed calls' header := by
  cases header with
  | deviceAttribute => exact hsub hheader
  | _ =>
    obtain ⟨info, cto, hmem⟩ := hheader
    exact ⟨info, cto, hsub hmem⟩

/-- One header: calls are only added, and it leaves no error only if it was handed on. -/
theorem onHeader_handed (h : MeasurementHandler) (header : ParsedHeader) :
    h.calls <+: (h.onHeader header).calls ∧
      ((h.onHeader header).errors = .empty → h.errors = .empty ∧
        (isCommonTime header = true ∨ Handed (h.onHeader header).calls header)) := by
  have ht := @treated_processHeader h header
  cases header with
  | deviceAttribute set variation typeCode payload =>
    have herrors : h.checkForTxStart.errors = h.errors := by
      unfold checkForTxStart
      split <;> rfl
    refine ⟨(calls_checkForTxStart h).trans (List.prefix_append _ _), fun hnone => ⟨?_, .inr ?_⟩⟩
    · rw [← herrors]
      exact hnone
    · exact List.mem_append_right _ (List.mem_singleton.mpr rfl)
  | _ =>
    refine ⟨ht.calls, fun hnone => ?_⟩
    obtain ⟨hbefore, hiin⟩ := or_eq_empty_iff.mp hnone
    exact ⟨ht.errors.symm.trans hbefore, ht.outcome hiin⟩

/-- All headers, from any state of the handler. -/
theorem foldl_onHeader_handed (headers : List ParsedHeader) (h : MeasurementHandler) :
    h.calls <+: (headers.foldl onHeader h).calls ∧
      ((headers.foldl onHeader h).errors = .empty → h.errors = .empty ∧
        ∀ header ∈ headers, isCommonTime header = true ∨
          Handed (headers.foldl onHeader h).calls header) := by
  induction headers generalizing h with
  | nil => exact ⟨List.prefix_refl _, fun hnone => ⟨hnone, by simp⟩⟩
  | cons header rest ih =>
    obtain ⟨hcalls, hhead⟩ := onHeader_handed h header
    obtain ⟨hmore, hrest⟩ := ih (h.onHeader header)
    refine ⟨hcalls.trans hmore, fun hnone => ?_⟩
    obtain ⟨hmid, htail⟩ := hrest hnone
    obtain ⟨hbefore, hfirst⟩ := hhead hmid
    refine ⟨hbefore, fun other hmem => ?_⟩
    rcases List.mem_cons.mp hmem with rfl | hmem
    · exact hfirst.imp_right (Handed.mono hmore.subset)
    · exact htail other hmem

theorem calls_finish (h : MeasurementHandler) : h.calls <+: h.finish := by
  unfold finish
  split
  · exact List.prefix_append _ _
  · exact List.prefix_refl _

/-- **Nothing is lost without a trace**: when the objects parse and no header is an error, the
    user got every header, the common times apart. -/
theorem handed_of_complete {info : ResponseInfo} {objects : List UInt8}
    (hcomplete : complete info objects = true) :
    ∃ headers, parse .Default isAllowed objects = .ok headers ∧
      ∀ header ∈ headers, isCommonTime header = true ∨
        Handed (processMeasurements info objects).1 header := by
  unfold complete at hcomplete
  unfold processMeasurements
  cases hparse : parse .Default isAllowed objects with
  | error result =>
    rw [hparse] at hcomplete
    cases hcomplete
  | ok headers =>
    rw [hparse] at hcomplete
    have hnone := of_decide_eq_true hcomplete
    refine ⟨headers, rfl, fun header hmem => ?_⟩
    have h := ((foldl_onHeader_handed headers (start info objects)).2 hnone).2 header hmem
    exact h.imp_right (Handed.mono (calls_finish _).subset)

end MeasurementHandler

end OpenDnp3.Master
