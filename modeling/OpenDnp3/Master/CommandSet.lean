import Mathlib.Data.List.Forall2
import OpenDnp3.Master.Command
import OpenDnp3.Master.MContext

/-!
# Sets of commands

A user puts commands into headers, one type of command each, and the set is written into a
request.  Whether the indices of a header take one byte or two is decided while the header is
written.
-/

namespace OpenDnp3.Master

open App

/-! ## Records -/

/-- A command with its index. -/
structure CommandRecord (t : CommandType) where
  index : UInt16
  command : t.Target

namespace CommandRecord

variable {t : CommandType}

def create (index : UInt16) (command : t.Target) : CommandRecord t :=
  ⟨index, command⟩

end CommandRecord

/-! ## Headers -/

/-- Commands of one type.  One byte for each index is only allowed if all of them fit. -/
structure TypedCommandHeader (t : CommandType) where
  useSingleByteIndex : Bool
  records : List (CommandRecord t)
  fits : useSingleByteIndex = true → ∀ r ∈ records, r.index.toNat ≤ 255

namespace TypedCommandHeader

variable {t : CommandType}

def empty (t : CommandType) : TypedCommandHeader t where
  useSingleByteIndex := true
  records := []
  fits := by
    intro _ r hr
    cases hr

def add (h : TypedCommandHeader t) (command : t.Target) (index : UInt16) :
    TypedCommandHeader t where
  useSingleByteIndex := if index.toNat > 255 then false else h.useSingleByteIndex
  records := h.records ++ [.create index command]
  fits := by
    intro hsingle r hr
    split at hsingle
    · cases hsingle
    · rename_i hindex
      obtain hr | hr := List.mem_append.mp hr
      · exact h.fits hsingle r hr
      · rw [List.mem_singleton.mp hr]
        exact Nat.not_lt.mp hindex

def indexType (h : TypedCommandHeader t) : IndexType := if h.useSingleByteIndex then .U8 else .U16

/-- Single byte indices if they are all small enough and the optimization is allowed. -/
def qualified (h : TypedCommandHeader t) (mode : IndexQualifierMode) : TypedCommandHeader t where
  useSingleByteIndex := h.useSingleByteIndex && mode = .allow_one_byte
  records := h.records
  fits := by
    intro hsingle
    rw [Bool.and_eq_true] at hsingle
    exact h.fits hsingle.1

def serializer (t : CommandType) : DNP3Serializer t.Target where
  id := ⟨UInt8.ofNat t.gv.group, UInt8.ofNat t.gv.variation⟩
  size := commandSize t.gv
  write := t.write

/-- Write the commands up to the first one that does not fit. -/
def writeRecords (it : PrefixedWriteIterator t.Target) (w : HeaderWriter) :
    List (CommandRecord t) → PrefixedWriteIterator t.Target × HeaderWriter × Bool
  | [] => (it, w, true)
  | r :: records =>
    match it.write w r.command r.index.toNat with
    | none => (it, w, false)
    | some (it, w) => writeRecords it w records

def write (h : TypedCommandHeader t) (w : HeaderWriter) (mode : IndexQualifierMode) :
    TypedCommandHeader t × HeaderWriter × Bool :=
  if h.records.isEmpty then (h, w, false)
  else
    let h := h.qualified mode
    match PrefixedWriteIterator.start? w h.indexType h.indexType.prefixQualifier (serializer t) with
    | (none, w) => (h, w, false)
    | (some it, w) =>
      let (it, w, success) := writeRecords it w h.records
      (h, it.finish w, success)

end TypedCommandHeader

/-! ## Sets -/

/-- The headers of a set. -/
abbrev CommandSet := List (Sigma TypedCommandHeader)

namespace CommandSetOps

/-- `CommandSetOps::Write`, up to the first header that cannot be written. -/
def write (set : CommandSet) (w : HeaderWriter) (mode : IndexQualifierMode) :
    CommandSet × HeaderWriter × Bool :=
  match set with
  | [] => ([], w, true)
  | ⟨t, h⟩ :: later =>
    match h.write w mode with
    | (h, w, false) => (⟨t, h⟩ :: later, w, false)
    | (h, w, true) =>
      let (later, w, success) := write later w mode
      (⟨t, h⟩ :: later, w, success)

/-- The objects and qualifiers of `CommandSetOps::IsAllowed`. -/
def isAllowed (_ : Nat) (gv : GroupVariation) (qc : QualifierCode) : Bool :=
  match qc with
  | .UINT8_CNT_UINT8_INDEX | .UINT16_CNT_UINT16_INDEX =>
    match gv with
    | ⟨12, 1⟩ | ⟨41, 1⟩ | ⟨41, 2⟩ | ⟨41, 3⟩ | ⟨41, 4⟩ => true
    | _ => false
  | _ => false

theorem isAllowed_iff (n : Nat) (gv : GroupVariation) (qc : QualifierCode) :
    isAllowed n gv qc = true ↔
      gv ∈ commandVariations ∧ ∃ t : IndexType, qc = t.prefixQualifier := by
  have hgv : ∀ gv : GroupVariation, (match gv with
      | ⟨12, 1⟩ | ⟨41, 1⟩ | ⟨41, 2⟩ | ⟨41, 3⟩ | ⟨41, 4⟩ => true
      | _ => false) = true ↔ gv ∈ commandVariations := by
    intro gv
    unfold commandVariations
    split <;> simp_all
  have hqualifier : (∃ t : IndexType, qc = t.prefixQualifier) ↔
      qc = .UINT8_CNT_UINT8_INDEX ∨ qc = .UINT16_CNT_UINT16_INDEX := by
    constructor
    · rintro ⟨t, rfl⟩
      cases t with
      | U8 => exact .inl rfl
      | U16 => exact .inr rfl
    · rintro (rfl | rfl)
      · exact ⟨.U8, rfl⟩
      · exact ⟨.U16, rfl⟩
  rw [hqualifier, ← hgv gv]
  unfold isAllowed
  cases qc <;> simp

end CommandSetOps

/-! ## The bytes of a set -/

namespace TypedCommandHeader

variable {t : CommandType}

/-- The commands behind their indices. -/
def items (h : TypedCommandHeader t) : List (Nat × List UInt8) :=
  h.records.map fun r => (r.index.toNat, t.write r.command)

/-- The bytes of the header; a count that is too large is cut off. -/
def objectBytes (h : TypedCommandHeader t) : List UInt8 :=
  headerBytes (serializer t).id h.indexType.prefixQualifier ++
    (h.indexType.encode h.items.length ++ h.items.flatMap h.indexType.entry)

theorem itemsFit (h : TypedCommandHeader t) : ItemsFit h.indexType (commandSize t.gv) h.items := by
  intro item hitem
  obtain ⟨r, hr, rfl⟩ := List.mem_map.mp hitem
  refine ⟨?_, t.length_write r.command⟩
  unfold indexType
  split
  · rename_i hsingle
    exact h.fits hsingle r hr
  · exact Nat.le_of_lt_succ r.index.toNat_lt

/-- The header as the parser knows it, provided that its count is not cut off. -/
def toHeader (h : TypedCommandHeader t) (hne : h.items ≠ [])
    (hlength : h.items.length ≤ h.indexType.maxValue) : CommandHeader where
  gv := t.gv
  indexType := h.indexType
  items := h.items
  known := t.gv_mem
  fit := h.itemsFit
  ne_nil := hne
  length_le := hlength

theorem writeRecords_spec {it it' : PrefixedWriteIterator t.Target} {w w₁ w₂ : HeaderWriter}
    {lead objects : List UInt8} (records : List (CommandRecord t))
    (hserializer : it.serializer = serializer t) (hopen : it.Open w lead objects w₁)
    (hwrite : writeRecords it w₁ records = (it', w₂, true)) :
    it'.indexType = it.indexType ∧ it'.count = it.count + records.length ∧
      it'.Open w lead (objects ++ (records.map fun r =>
        (r.index.toNat, t.write r.command)).flatMap it.indexType.entry) w₂ := by
  induction records generalizing it w₁ objects with
  | nil =>
    cases hwrite
    exact ⟨rfl, rfl, by rw [List.map_nil, List.flatMap_nil, List.append_nil]; exact hopen⟩
  | cons r records ih =>
    unfold writeRecords at hwrite
    split at hwrite
    · cases hwrite
    · rename_i it₁ w₃ hone
      have hsize : (it.serializer.write r.command).length = it.serializer.size := by
        rw [hserializer]
        exact t.length_write r.command
      -- one entry more is written, and the header stays open
      obtain ⟨htype, hserializer₁, hcount, hopen₁⟩ := hopen.write hsize hone
      obtain ⟨htype', hcount', hopen'⟩ :=
        ih (hserializer₁.trans hserializer) hopen₁ hwrite
      refine ⟨htype'.trans htype, ?_, ?_⟩
      · rw [hcount', hcount, List.length_cons]
        omega
      · have hentry : it.entryBytes r.index.toNat r.command =
            it.indexType.entry (r.index.toNat, t.write r.command) := by
          unfold PrefixedWriteIterator.entryBytes IndexType.entry
          rw [hserializer]
          rfl
        rw [htype, hentry, List.append_assoc] at hopen'
        rw [List.map_cons, List.flatMap_cons]
        exact hopen'

/-- **The bytes of a header.** -/
theorem write_spec {h h' : TypedCommandHeader t} {w w' : HeaderWriter}
    {mode : IndexQualifierMode} (hposition : w.position ≤ w.buffer.length)
    (hwrite : h.write w mode = (h', w', true)) :
    h' = h.qualified mode ∧ h'.items ≠ [] ∧ Appends w h'.objectBytes w' := by
  unfold write at hwrite
  split at hwrite
  · cases hwrite
  rename_i hne
  dsimp only at hwrite
  split at hwrite
  · cases hwrite
  · rename_i it w₁ hstart
    obtain ⟨htype, hserializer, hcount, hopen, -⟩ :=
      PrefixedWriteIterator.open_start hposition hstart
    generalize hrecords : writeRecords it w₁ (h.qualified mode).records = written at hwrite
    obtain ⟨it', w₂, success⟩ := written
    cases hwrite
    obtain ⟨htype', hcount', hopen'⟩ := writeRecords_spec _ hserializer hopen hrecords
    refine ⟨rfl, ?_, ?_⟩
    · intro hnil
      have hempty := List.map_eq_nil_iff.mp hnil
      exact hne (List.isEmpty_iff.mpr hempty)
    · have hfinish := hopen'.finish
      rw [htype', htype, hcount', hcount, Nat.zero_add, List.nil_append] at hfinish
      have hlength : (h.qualified mode).items.length = (h.qualified mode).records.length :=
        List.length_map ..
      unfold objectBytes
      rw [hlength]
      exact hfinish

theorem length_objectBytes (h : TypedCommandHeader t) :
    h.objectBytes.length =
      3 + h.indexType.size + h.records.length * (h.indexType.size + commandSize t.gv) := by
  have hlength : h.items.length = h.records.length := List.length_map ..
  unfold objectBytes
  rw [List.length_append, List.length_append, IndexType.length_encode,
    length_flatMap_entry h.itemsFit, hlength, Nat.add_assoc]
  rfl

theorem writeRecords_succeeds {it : PrefixedWriteIterator t.Target} {w w₁ : HeaderWriter}
    {lead objects : List UInt8} (records : List (CommandRecord t))
    (hserializer : it.serializer = serializer t) (hopen : it.Open w lead objects w₁)
    (hroom : lead.length + it.indexType.size + objects.length +
      records.length * (it.indexType.size + commandSize t.gv) ≤ w.remaining) :
    (writeRecords it w₁ records).2.2 = true := by
  induction records generalizing it w₁ objects with
  | nil => rfl
  | cons r records ih =>
    obtain ⟨hole, hhole, happends⟩ := hopen.appends
    have hremaining := happends.remaining
    rw [List.length_append, List.length_append, hhole] at hremaining
    rw [List.length_cons, Nat.succ_mul] at hroom
    have hsize : it.serializer.size = commandSize t.gv := by rw [hserializer]; rfl
    have hsome : (it.write w₁ r.command r.index.toNat).isSome = true := by
      apply PrefixedWriteIterator.write_isSome
      omega
    obtain ⟨⟨it₁, w₂⟩, hone⟩ := Option.isSome_iff_exists.mp hsome
    have hwritten : (it.serializer.write r.command).length = it.serializer.size := by
      rw [hserializer]
      exact t.length_write r.command
    obtain ⟨htype, hserializer₁, -, hopen₁⟩ := hopen.write hwritten hone
    -- every entry takes the same room
    have hentry : (it.entryBytes r.index.toNat r.command).length =
        it.indexType.size + commandSize t.gv := by
      unfold PrefixedWriteIterator.entryBytes
      rw [List.length_append, IndexType.length_encode, hwritten, hsize]
    unfold writeRecords
    rw [hone]
    refine ih (hserializer₁.trans hserializer) hopen₁ ?_
    rw [htype, List.length_append, hentry]
    omega

/-- A header is written where its bytes fit. -/
theorem write_succeeds {h : TypedCommandHeader t} {w : HeaderWriter} {mode : IndexQualifierMode}
    (hposition : w.position ≤ w.buffer.length) (hne : h.records ≠ [])
    (hroom : (h.qualified mode).objectBytes.length ≤ w.remaining) :
    (h.write w mode).2.2 = true := by
  rw [length_objectBytes] at hroom
  have hone : 3 + (2 * (h.qualified mode).indexType.size + (serializer t).size) ≤ w.remaining := by
    have hcount : 1 ≤ (h.qualified mode).records.length := List.length_pos_iff.mpr hne
    have hmul := Nat.mul_le_mul_right ((h.qualified mode).indexType.size + commandSize t.gv) hcount
    change 3 + (2 * _ + commandSize t.gv) ≤ _
    omega
  have hsome := PrefixedWriteIterator.start_isSome (h.qualified mode).indexType.prefixQualifier hone
  unfold write
  rw [if_neg (by rw [List.isEmpty_iff]; exact hne)]
  dsimp only
  split
  · rename_i hnone
    rw [hnone] at hsome
    cases hsome
  · rename_i it w₁ hstart
    obtain ⟨htype, hserializer, -, hopen, -⟩ := PrefixedWriteIterator.open_start hposition hstart
    refine writeRecords_succeeds _ hserializer hopen ?_
    rw [htype]
    exact hroom

end TypedCommandHeader

namespace CommandSetOps

/-- The bytes of a set. -/
def objectBytes (set : CommandSet) : List UInt8 := set.flatMap fun h => h.2.objectBytes

/-- The set with the widths of the indices decided. -/
def qualified (set : CommandSet) (mode : IndexQualifierMode) : CommandSet :=
  set.map fun h => ⟨h.1, h.2.qualified mode⟩

/-- **The bytes that a set is written as.** -/
theorem write_spec {set set' : CommandSet} {w w' : HeaderWriter} {mode : IndexQualifierMode}
    (hposition : w.position ≤ w.buffer.length) (hwrite : write set w mode = (set', w', true)) :
    set' = qualified set mode ∧ (∀ h ∈ set', h.2.items ≠ []) ∧ Appends w (objectBytes set') w' := by
  induction set generalizing set' w with
  | nil =>
    cases hwrite
    exact ⟨rfl, fun h hh => absurd hh List.not_mem_nil, .refl hposition⟩
  | cons header later ih =>
    obtain ⟨t, h⟩ := header
    unfold write at hwrite
    generalize hone : h.write w mode = written at hwrite
    obtain ⟨h₁, w₁, success⟩ := written
    cases success with
    | false => cases hwrite
    | true =>
      dsimp only at hwrite
      generalize hrest : write later w₁ mode = written at hwrite
      obtain ⟨later', w₂, success⟩ := written
      cases hwrite
      obtain ⟨rfl, hne, happends⟩ := TypedCommandHeader.write_spec hposition hone
      obtain ⟨rfl, hall, happends'⟩ := ih happends.fits hrest
      refine ⟨rfl, ?_, ?_⟩
      · intro header hheader
        obtain rfl | hheader := List.mem_cons.mp hheader
        · exact hne
        · exact hall header hheader
      · exact happends.trans happends'

/-- A callback hands on the commands of a header, in order. -/
def Delivered (h : Sigma TypedCommandHeader) (call : ParsedHeader) : Prop :=
  ∃ record objects, call = .indexed record objects ∧ record.enumeration = h.1.gv ∧
    List.Forall₂ (fun (r : CommandRecord h.1) (object : Nat × List UInt8) =>
      object.1 = r.index.toNat ∧ h.1.SameValues (h.1.read object.2) r.command)
      h.2.records objects

/-- The objects of a header are its commands where those are consistent. -/
theorem forall₂_items_iff {t : CommandType} (h : TypedCommandHeader t) :
    List.Forall₂ (fun (r : CommandRecord t) (object : Nat × List UInt8) =>
        object.1 = r.index.toNat ∧ t.SameValues (t.read object.2) r.command) h.records h.items ↔
      ∀ r ∈ h.records, t.Consistent r.command := by
  unfold TypedCommandHeader.items
  rw [List.forall₂_map_right_iff, List.forall₂_same]
  refine forall₂_congr fun r _ => ?_
  rw [t.sameValues_read_write_iff]
  exact and_iff_right rfl

theorem bytes_inj {h h' : CommandHeader} (heq : h.bytes = h'.bytes) : h = h' := by
  have hparse : parse .Default isAllowed h.bytes = .ok (parsedFrom 0 [h]) := by
    rw [parse_eq_parsedFrom_iff isAllowed_iff, List.flatMap_singleton]
  have hparse' : parse .Default isAllowed h.bytes = .ok (parsedFrom 0 [h']) := by
    rw [parse_eq_parsedFrom_iff isAllowed_iff, List.flatMap_singleton, heq]
  rw [hparse] at hparse'
  exact List.singleton_inj.mp (parsedFrom_inj (Except.ok.inj hparse'))

/-- A header that is read with the right commands has been read from its own bytes. -/
theorem eq_toHeader {t : CommandType} {h : TypedCommandHeader t} {e : CommandHeader}
    {rest rest' : List UInt8} (hne : h.items ≠ [])
    (hbytes : h.objectBytes ++ rest = e.bytes ++ rest') (hgv : e.gv = t.gv)
    (hcount : e.items.length = h.items.length) :
    ∃ hlength : h.items.length ≤ h.indexType.maxValue, e = h.toHeader hne hlength ∧
      rest = rest' := by
  -- the qualifier is the third byte
  have hqualifier : some h.indexType.prefixQualifier.toByte =
      some e.indexType.prefixQualifier.toByte := congrArg (fun bytes => bytes[2]?) hbytes
  have htype : e.indexType = h.indexType := by
    cases htype : h.indexType <;> cases htype' : e.indexType <;> rw [htype, htype'] at hqualifier <;>
      first | rfl | cases hqualifier
  have hlength : h.items.length ≤ h.indexType.maxValue := by
    rw [← hcount, ← htype]
    exact e.length_le
  have hsame : (h.toHeader hne hlength).bytes.length = e.bytes.length := by
    rw [CommandHeader.length_bytes, CommandHeader.length_bytes, hgv, htype, hcount]
    rfl
  obtain ⟨hhead, hrest⟩ := List.append_inj hbytes hsame
  have hheader : h.toHeader hne hlength = e := bytes_inj hhead
  exact ⟨hlength, hheader.symm, hrest⟩

/-- **When the bytes of a set are read as its commands.** -/
theorem objectBytes_iff (set : CommandSet) (headerIndex : Nat) (hne : ∀ h ∈ set, h.2.items ≠ []) :
    (∃ hs : List CommandHeader, objectBytes set = hs.flatMap CommandHeader.bytes ∧
        List.Forall₂ Delivered set (parsedFrom headerIndex hs)) ↔
      ∀ h ∈ set, h.2.items.length ≤ h.2.indexType.maxValue ∧
        ∀ r ∈ h.2.records, h.1.Consistent r.command := by
  induction set generalizing headerIndex with
  | nil =>
    refine iff_of_true ⟨[], rfl, .nil⟩ ?_
    intro h hh
    cases hh
  | cons header later ih =>
    obtain ⟨t, h⟩ := header
    have hne₁ : h.items ≠ [] := hne ⟨t, h⟩ List.mem_cons_self
    have ih' := ih (headerIndex + 1) fun h hh => hne h (List.mem_cons_of_mem _ hh)
    rw [List.forall_mem_cons]
    constructor
    · rintro ⟨hs, hbytes, hdelivered⟩
      cases hs with
      | nil => cases hdelivered
      | cons e hs =>
        obtain ⟨hone, hlater⟩ := List.forall₂_cons.mp hdelivered
        obtain ⟨record, objects, hcall, hgv, hobjects⟩ := hone
        cases hcall
        have hcount : e.items.length = h.items.length := by
          rw [← hobjects.length_eq]
          exact (List.length_map _).symm
        unfold objectBytes at hbytes
        rw [List.flatMap_cons, List.flatMap_cons] at hbytes
        -- the count tells where the first header ends
        obtain ⟨hlength, rfl, hrest⟩ := eq_toHeader hne₁ hbytes hgv hcount
        refine ⟨⟨hlength, (forall₂_items_iff h).mp hobjects⟩, ?_⟩
        exact ih'.mp ⟨hs, hrest, hlater⟩
    · rintro ⟨⟨hlength, hconsistent⟩, hothers⟩
      obtain ⟨hs, hbytes, hdelivered⟩ := ih'.mpr hothers
      refine ⟨h.toHeader hne₁ hlength :: hs, ?_, .cons ?_ hdelivered⟩
      · unfold objectBytes at hbytes ⊢
        rw [List.flatMap_cons, List.flatMap_cons, hbytes]
        rfl
      · exact ⟨_, _, rfl, rfl, (forall₂_items_iff h).mpr hconsistent⟩

/-- **A set that is written is read as its commands**, header by header and command by command,
    exactly when no count is too large for the width of its indices and the raw code of every
    control relay output block has the parts that the block has. -/
theorem write_parses_iff {set set' : CommandSet} {w w' : HeaderWriter} {mode : IndexQualifierMode}
    (hposition : w.position ≤ w.buffer.length) (hwrite : write set w mode = (set', w', true)) :
    ∃ bytes, Appends w bytes w' ∧
      ((∃ calls, parse .Default isAllowed bytes = .ok calls ∧ List.Forall₂ Delivered set calls) ↔
        ∀ h ∈ set, h.2.records.length ≤ (h.2.qualified mode).indexType.maxValue ∧
          ∀ r ∈ h.2.records, h.1.Consistent r.command) := by
  obtain ⟨rfl, hne, happends⟩ := write_spec hposition hwrite
  refine ⟨objectBytes (qualified set mode), happends, ?_⟩
  -- the parser accepts exactly the bytes of command headers
  have hparse : (∃ calls, parse .Default isAllowed (objectBytes (qualified set mode)) = .ok calls ∧
      List.Forall₂ Delivered set calls) ↔
      ∃ hs : List CommandHeader,
        objectBytes (qualified set mode) = hs.flatMap CommandHeader.bytes ∧
        List.Forall₂ Delivered (qualified set mode) (parsedFrom 0 hs) := by
    have hdelivered : ∀ calls, List.Forall₂ Delivered (qualified set mode) calls ↔
        List.Forall₂ Delivered set calls := by
      intro calls
      unfold qualified
      rw [List.forall₂_map_left_iff]
      rfl
    constructor
    · rintro ⟨calls, hparse, hcalls⟩
      obtain ⟨hs, hbytes, rfl⟩ := (parse_commands_iff isAllowed_iff).mp hparse
      exact ⟨hs, hbytes, (hdelivered _).mpr hcalls⟩
    · rintro ⟨hs, hbytes, hcalls⟩
      exact ⟨_, (parse_commands_iff isAllowed_iff).mpr ⟨hs, hbytes, rfl⟩, (hdelivered _).mp hcalls⟩
  rw [hparse, objectBytes_iff _ 0 hne]
  unfold qualified
  rw [List.forall_mem_map]
  refine forall₂_congr fun h _ => ?_
  have hlength : (h.2.qualified mode).items.length = h.2.records.length := List.length_map ..
  rw [hlength]
  rfl

end CommandSetOps

/-- This many commands for the analog output 0. -/
def manyOutputs (n : Nat) : TypedCommandHeader .aoInt16 where
  useSingleByteIndex := true
  records := List.replicate n (.create 0 ⟨0, .SUCCESS⟩)
  fits := by
    intro _ r hr
    rw [(List.mem_replicate.mp hr).2]
    decide

theorem parse_count_of_zero (rest : List UInt8) :
    parse .Default CommandSetOps.isAllowed (41 :: 2 :: 0x17 :: 0 :: rest) =
      .error .COUNT_OF_ZERO := rfl

/-- A header with 256 commands and indices of one byte is written with a count of zero. -/
theorem write_count_wraps {h : TypedCommandHeader .aoInt16} {w : HeaderWriter}
    (hsingle : h.useSingleByteIndex = true) (hlength : h.records.length = 256)
    (hposition : w.position ≤ w.buffer.length) (hroom : 1028 ≤ w.remaining) :
    ∃ set' w' bytes, CommandSetOps.write [⟨.aoInt16, h⟩] w .allow_one_byte = (set', w', true) ∧
      Appends w bytes w' ∧
      parse .Default CommandSetOps.isAllowed bytes = .error .COUNT_OF_ZERO := by
  have htype : (h.qualified .allow_one_byte).indexType = .U8 := by
    change (if (h.useSingleByteIndex && true) = true then IndexType.U8 else .U16) = .U8
    rw [hsingle]
    rfl
  have hbytes : (h.qualified .allow_one_byte).objectBytes.length = 1028 := by
    rw [TypedCommandHeader.length_objectBytes, htype]
    change 3 + 1 + h.records.length * (1 + 3) = _
    rw [hlength]
  have hsuccess : (h.write w .allow_one_byte).2.2 = true := by
    refine TypedCommandHeader.write_succeeds hposition ?_ (by rw [hbytes]; exact hroom)
    rw [← List.length_pos_iff, hlength]
    decide
  generalize hone : h.write w .allow_one_byte = written at hsuccess
  obtain ⟨h', w', success⟩ := written
  cases hsuccess
  obtain ⟨rfl, -, happends⟩ := TypedCommandHeader.write_spec hposition hone
  refine ⟨[⟨.aoInt16, h.qualified .allow_one_byte⟩], w', _, ?_, happends, ?_⟩
  · simp [CommandSetOps.write, hone]
  · have hcount : (h.qualified .allow_one_byte).items.length = 256 :=
      (List.length_map _).trans hlength
    unfold TypedCommandHeader.objectBytes
    rw [hcount, htype]
    exact parse_count_of_zero _

/-- The count of 256 commands does not fit into the one byte that their indices take. -/
theorem write_256_does_not_parse :
    ∃ set' w' bytes,
      CommandSetOps.write [⟨.aoInt16, manyOutputs 256⟩] ⟨List.replicate 2048 0, 2⟩
        .allow_one_byte = (set', w', true) ∧
      Appends ⟨List.replicate 2048 0, 2⟩ bytes w' ∧
      parse .Default CommandSetOps.isAllowed bytes = .error .COUNT_OF_ZERO := by
  apply write_count_wraps rfl List.length_replicate
  · rw [List.length_replicate]
    decide
  · unfold HeaderWriter.remaining
    rw [List.length_replicate]
    decide

/-- Two commands are written and read back. -/
theorem write_parses_two :
    ∃ bytes calls, parse .Default CommandSetOps.isAllowed bytes = .ok calls ∧
      List.Forall₂ CommandSetOps.Delivered [⟨.aoInt16, manyOutputs 2⟩] calls := by
  obtain ⟨bytes, -, hiff⟩ :=
    CommandSetOps.write_parses_iff (w := ⟨List.replicate 20 0, 2⟩) (by decide)
      (show CommandSetOps.write [⟨.aoInt16, manyOutputs 2⟩] ⟨List.replicate 20 0, 2⟩
        .allow_one_byte = ([⟨.aoInt16, (manyOutputs 2).qualified .allow_one_byte⟩],
          ⟨[0, 0, 41, 2, 0x17, 2, 0, 0, 0, 0, 0, 0, 0, 0, 0, 0, 0, 0, 0, 0], 14⟩, true) from rfl)
  refine ⟨bytes, hiff.mpr ?_⟩
  intro h hh
  rw [List.mem_singleton.mp hh]
  refine ⟨by decide, fun r _ => trivial⟩

end OpenDnp3.Master
