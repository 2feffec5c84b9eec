import Mathlib.Tactic.Common

/-!
# Measurements

The measurement types an outstation reports, the event classes, the variations a point can
be reported in, and the *specifications* that the database and the event buffer are
parameterised with (`BinarySpec`, `CounterSpec`, …).

Floating point values are IEEE doubles (`Float`); no proof looks inside them.
-/

namespace OpenDnp3.App

/-! ## Values -/

inductive TimestampQuality where
  | SYNCHRONIZED
  | UNSYNCHRONIZED
  | INVALID
  deriving DecidableEq, Repr

/-- Milliseconds since 1970, with a quality. -/
structure DNPTime where
  value : Nat
  quality : TimestampQuality
  deriving DecidableEq, Repr

namespace DNPTime

/-- `DNPTime(value)`: a time without a stated quality is synchronized. -/
def ofValue (value : Nat) : DNPTime := ⟨value, .SYNCHRONIZED⟩

/-- The default constructor. -/
def invalid : DNPTime := ⟨0, .INVALID⟩

end DNPTime

/-- A value with its quality flags and time. -/
structure TypedMeasurement (T : Type) where
  value : T
  flags : UInt8
  time : DNPTime
  deriving DecidableEq, Repr

namespace TypedMeasurement

def ONLINE : UInt8 := 0x01
def RESTART : UInt8 := 0x02

/-- What the default constructor of a measurement makes of the value it starts with. -/
def restart {T : Type} (value : T) : TypedMeasurement T := ⟨value, RESTART, .invalid⟩

/-- `meas.flags = flags`: the value is left alone, also where the flags repeat it. -/
def setFlags {T : Type} (meas : TypedMeasurement T) (flags : UInt8) : TypedMeasurement T :=
  { meas with flags }

end TypedMeasurement

inductive DoubleBit where
  | INTERMEDIATE
  | DETERMINED_OFF
  | DETERMINED_ON
  | INDETERMINATE
  deriving DecidableEq, Repr

/-- Up to 255 bytes. -/
structure OctetString where
  data : List UInt8
  size_le : data.length ≤ 255
  deriving DecidableEq, Repr

structure TimeAndInterval where
  time : DNPTime
  interval : UInt32
  units : UInt8
  deriving DecidableEq, Repr

/-! ## Classes and event modes -/

inductive PointClass where
  | Class0
  | Class1
  | Class2
  | Class3
  deriving DecidableEq, Repr

inductive EventClass where
  | EC1
  | EC2
  | EC3
  deriving DecidableEq, Repr

/-- `convert_to_event_class`: class 0 has no events. -/
def PointClass.toEventClass : PointClass → Option EventClass
  | .Class0 => none
  | .Class1 => some .EC1
  | .Class2 => some .EC2
  | .Class3 => some .EC3

/-- A set of classes. -/
structure ClassField where
  class0 : Bool
  class1 : Bool
  class2 : Bool
  class3 : Bool
  deriving DecidableEq, Repr

namespace ClassField

def none : ClassField := ⟨false, false, false, false⟩

def ofEventClass (ec : EventClass) : ClassField :=
  ⟨false, ec == .EC1, ec == .EC2, ec == .EC3⟩

def ofPointClass (pc : PointClass) : ClassField :=
  ⟨pc == .Class0, pc == .Class1, pc == .Class2, pc == .Class3⟩

def intersects (a b : ClassField) : Bool :=
  a.class0 && b.class0 || a.class1 && b.class1 || a.class2 && b.class2 || a.class3 && b.class3

/-- Take the classes of `field` out. -/
def clear (a field : ClassField) : ClassField :=
  ⟨a.class0 && !field.class0, a.class1 && !field.class1, a.class2 && !field.class2,
    a.class3 && !field.class3⟩

/-- Put the classes of `field` in. -/
def set (a field : ClassField) : ClassField :=
  ⟨a.class0 || field.class0, a.class1 || field.class1, a.class2 || field.class2,
    a.class3 || field.class3⟩

def hasEventType (a : ClassField) : EventClass → Bool
  | .EC1 => a.class1
  | .EC2 => a.class2
  | .EC3 => a.class3

end ClassField

/-- How an update behaves with respect to events. -/
inductive EventMode where
  | Detect
  | Force
  | Suppress
  | EventOnly
  deriving DecidableEq, Repr

/-! ## Variations -/

inductive StaticBinaryVariation where
  | Group1Var1 | Group1Var2
  deriving DecidableEq, Repr

inductive StaticDoubleBinaryVariation where
  | Group3Var2
  deriving DecidableEq, Repr

inductive StaticBinaryOutputStatusVariation where
  | Group10Var2
  deriving DecidableEq, Repr

inductive StaticCounterVariation where
  | Group20Var1 | Group20Var2 | Group20Var5 | Group20Var6
  deriving DecidableEq, Repr

inductive StaticFrozenCounterVariation where
  | Group21Var1 | Group21Var2 | Group21Var5 | Group21Var6 | Group21Var9 | Group21Var10
  deriving DecidableEq, Repr

inductive StaticAnalogVariation where
  | Group30Var1 | Group30Var2 | Group30Var3 | Group30Var4 | Group30Var5 | Group30Var6
  deriving DecidableEq, Repr

inductive StaticAnalogOutputStatusVariation where
  | Group40Var1 | Group40Var2 | Group40Var3 | Group40Var4
  deriving DecidableEq, Repr

inductive StaticTimeAndIntervalVariation where
  | Group50Var4
  deriving DecidableEq, Repr

inductive StaticOctetStringVariation where
  | Group110Var0
  deriving DecidableEq, Repr

inductive EventBinaryVariation where
  | Group2Var1 | Group2Var2 | Group2Var3
  deriving DecidableEq, Repr

inductive EventDoubleBinaryVariation where
  | Group4Var1 | Group4Var2 | Group4Var3
  deriving DecidableEq, Repr

inductive EventBinaryOutputStatusVariation where
  | Group11Var1 | Group11Var2
  deriving DecidableEq, Repr

inductive EventCounterVariation where
  | Group22Var1 | Group22Var2 | Group22Var5 | Group22Var6
  deriving DecidableEq, Repr

inductive EventFrozenCounterVariation where
  | Group23Var1 | Group23Var2 | Group23Var5 | Group23Var6
  deriving DecidableEq, Repr

inductive EventAnalogVariation where
  | Group32Var1 | Group32Var2 | Group32Var3 | Group32Var4
  | Group32Var5 | Group32Var6 | Group32Var7 | Group32Var8
  deriving DecidableEq, Repr

inductive EventAnalogOutputStatusVariation where
  | Group42Var1 | Group42Var2 | Group42Var3 | Group42Var4
  | Group42Var5 | Group42Var6 | Group42Var7 | Group42Var8
  deriving DecidableEq, Repr

inductive EventOctetStringVariation where
  | Group111Var0
  deriving DecidableEq, Repr

/-! ## Specifications -/

/-- What the templates of the database and of the event buffer take from a measurement type. -/
structure Spec where
  Meas : Type
  StaticVariation : Type
  EventVariation : Type
  Deadband : Type
  /-- The default-constructed measurement. -/
  default : Meas
  DefaultStaticVariation : StaticVariation
  /-- Does the new value differ enough from the last event's value to be an event? -/
  isEvent : (old_value new_value : Meas) → Deadband → Bool
  /-- `check_for_promotion`: the variation a value is really selected in. -/
  checkForPromotion : Meas → StaticVariation → StaticVariation
  [decStatic : DecidableEq StaticVariation]
  [decEvent : DecidableEq EventVariation]

attribute [instance] Spec.decStatic Spec.decEvent

/-- Flag-valued types have an event for each change of the flags. -/
def flagsDiffer {T : Type} (old_value new_value : TypedMeasurement T) (_ : Unit) : Bool :=
  old_value.flags != new_value.flags

/-- Counters have an event when the flags change or the count moves by more than the
    deadband, up or down. -/
def counterDiffers (old_value new_value : TypedMeasurement UInt32) (deadband : UInt32) : Bool :=
  if old_value.flags != new_value.flags then
    true
  else
    let diff :=
      if new_value.value > old_value.value then new_value.value.toNat - old_value.value.toNat
      else old_value.value.toNat - new_value.value.toNat
    diff > deadband.toNat

/-- The same for analogs; an infinite difference is always an event. -/
def analogDiffers (old_value new_value : TypedMeasurement Float) (deadband : Float) : Bool :=
  if new_value.flags != old_value.flags then
    true
  else
    let diff := (new_value.value - old_value.value).abs
    diff.isInf || decide (diff > deadband)

/-- `IsQualityOnlineOnly`: no flag but ONLINE, the state bit aside. -/
def isQualityOnlineOnly (binary : TypedMeasurement Bool) : Bool :=
  binary.flags &&& 0x7F == TypedMeasurement.ONLINE

/-- The packed format has no room for flags: a point with any flag but ONLINE goes out with
    flags. -/
def promoteBinary (value : TypedMeasurement Bool) :
    StaticBinaryVariation → StaticBinaryVariation
  | .Group1Var1 => if isQualityOnlineOnly value then .Group1Var1 else .Group1Var2
  | .Group1Var2 => .Group1Var2

abbrev BinarySpec : Spec where
  Meas := TypedMeasurement Bool
  StaticVariation := StaticBinaryVariation
  EventVariation := EventBinaryVariation
  Deadband := Unit
  default := .restart false
  DefaultStaticVariation := .Group1Var2
  isEvent := flagsDiffer
  checkForPromotion := promoteBinary

abbrev DoubleBitBinarySpec : Spec where
  Meas := TypedMeasurement DoubleBit
  StaticVariation := StaticDoubleBinaryVariation
  EventVariation := EventDoubleBinaryVariation
  Deadband := Unit
  default := .restart .INDETERMINATE
  DefaultStaticVariation := .Group3Var2
  isEvent := flagsDiffer
  checkForPromotion _ variation := variation

abbrev BinaryOutputStatusSpec : Spec where
  Meas := TypedMeasurement Bool
  StaticVariation := StaticBinaryOutputStatusVariation
  EventVariation := EventBinaryOutputStatusVariation
  Deadband := Unit
  default := .restart false
  DefaultStaticVariation := .Group10Var2
  isEvent := flagsDiffer
  checkForPromotion _ variation := variation

abbrev CounterSpec : Spec where
  Meas := TypedMeasurement UInt32
  StaticVariation := StaticCounterVariation
  EventVariation := EventCounterVariation
  Deadband := UInt32
  default := .restart 0
  DefaultStaticVariation := .Group20Var1
  isEvent := counterDiffers
  checkForPromotion _ variation := variation

abbrev FrozenCounterSpec : Spec where
  Meas := TypedMeasurement UInt32
  StaticVariation := StaticFrozenCounterVariation
  EventVariation := EventFrozenCounterVariation
  Deadband := UInt32
  default := .restart 0
  DefaultStaticVariation := .Group21Var1
  isEvent := counterDiffers
  checkForPromotion _ variation := variation

abbrev AnalogSpec : Spec where
  Meas := TypedMeasurement Float
  StaticVariation := StaticAnalogVariation
  EventVariation := EventAnalogVariation
  Deadband := Float
  default := .restart 0
  DefaultStaticVariation := .Group30Var1
  isEvent := analogDiffers
  checkForPromotion _ variation := variation

abbrev AnalogOutputStatusSpec : Spec where
  Meas := TypedMeasurement Float
  StaticVariation := StaticAnalogOutputStatusVariation
  EventVariation := EventAnalogOutputStatusVariation
  Deadband := Float
  default := .restart 0
  DefaultStaticVariation := .Group40Var1
  isEvent := analogDiffers
  checkForPromotion _ variation := variation

abbrev OctetStringSpec : Spec where
  Meas := OctetString
  StaticVariation := StaticOctetStringVariation
  EventVariation := EventOctetStringVariation
  Deadband := Unit
  default := ⟨[0], by decide⟩
  DefaultStaticVariation := .Group110Var0
  isEvent old_value new_value _ := old_value.data != new_value.data
  checkForPromotion _ variation := variation

/-- Times and intervals have no events: there is no event variation. -/
abbrev TimeAndIntervalSpec : Spec where
  Meas := TimeAndInterval
  StaticVariation := StaticTimeAndIntervalVariation
  EventVariation := Unit
  Deadband := Unit
  default := ⟨.ofValue 0, 0, 0⟩
  DefaultStaticVariation := .Group50Var4
  isEvent _ _ _ := false
  checkForPromotion _ variation := variation

end OpenDnp3.App
