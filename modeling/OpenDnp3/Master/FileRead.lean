import OpenDnp3.Master.FileTransferTask

/-!
# What a successful file read delivers

`Delivers` is the purpose of the task: the data is that of the blocks `0, 1, …, n` of the
opened file, the last of which is marked.  The task gives the user such data as long as every
response to a read request is the expected block or reports a failure (`Expected`), and any
other response can end in a success with other data.
-/

namespace OpenDnp3.Master

open Lib

/-! ## Whole files -/

/-- These blocks are the whole file with this handle, in order. -/
structure WholeFile (handle : UInt32) (blocks : List Group70Var5) : Prop where
  handles : ∀ b ∈ blocks, b.fileHandle = handle
  numbers : blocks.map (fun b => b.blockNum.toNat) = List.range blocks.length
  last : ∃ init final, blocks = init ++ [final] ∧ final.lastBlock = true ∧
    ∀ b ∈ init, b.lastBlock = false

/-- The responses that a task got open a file and then deliver all of its blocks, and `data` is
    their content. -/
def Delivers (inputs : List TaskInput) (data : List UInt8) : Prop :=
  ∃ (opened : Response) (status : Group70Var4) (reads : List Response)
    (blocks : List Group70Var5) (rest : List TaskInput),
    inputs = .onResponse opened :: (reads.map TaskInput.onResponse ++ rest) ∧
    readGroup70Var4 opened.objects = some status ∧
    reads.map (fun r => readGroup70Var5 r.objects) = blocks.map some ∧
    WholeFile status.fileHandle blocks ∧ data = blocks.flatMap Group70Var5.fileData

theorem Delivers.append {inputs : List TaskInput} {data : List UInt8} (h : Delivers inputs data)
    (later : List TaskInput) : Delivers (inputs ++ later) data := by
  obtain ⟨opened, status, reads, blocks, rest, rfl, hstatus, hreads, hfile, hdata⟩ := h
  refine ⟨opened, status, reads, blocks, rest ++ later, ?_, hstatus, hreads, hfile, hdata⟩
  rw [List.cons_append, List.append_assoc]

namespace FileTransferTask

/-! ## Expected responses -/

/-- The object is the block that the task asked for. -/
def isExpectedBlock (t : FileTransferTask) (objects : List UInt8) : Bool :=
  (readGroup70Var5 objects).any fun b =>
    b.fileHandle == t.fileHandle && b.blockNum == t.expectedBlockNum

/-- The object reports that the block cannot be read. -/
def reportsFailure (objects : List UInt8) : Bool :=
  (readGroup70Var6 objects).any fun s => s.status != .SUCCESS

/-- A response that the task accepts while reading is the block it asked for or reports a
    failure. -/
def Expected : Execution FileTransferTask FileReadResult → TaskInput → Prop
  | .running t, .onResponse r =>
    t.state = .READ_BLOCK → validateSingleResponse r.header = true → refused r.header = false →
      t.isExpectedBlock r.objects = true ∨ reportsFailure r.objects = true
  | _, _ => True

variable {objects : List UInt8}

theorem isExpectedBlock_iff {t : FileTransferTask} :
    t.isExpectedBlock objects = true ↔
      ∃ b, readGroup70Var5 objects = some b ∧ b.fileHandle = t.fileHandle ∧
        b.blockNum = t.expectedBlockNum := by
  simp only [isExpectedBlock, Option.any_eq_true, Bool.and_eq_true, beq_iff_eq]

instance : ∀ e i, Decidable (Expected e i)
  | .running _, .onResponse _ => inferInstanceAs (Decidable (_ → _ → _ → _))
  | .running _, .onResponseTimeout | .running _, .onLowerLayerClose
  | .running _, .onStartTimeout | .running _, .onMessageFormatError => .isTrue trivial
  | .complete _, _ => .isTrue trivial

/-! ## Objects -/

theorem readFreeFormat_shape {variation : UInt8} {minLength : Nat}
    {x : Nat × List UInt8} (h : readFreeFormat variation minLength objects = some x) :
    ∃ qc tail, objects = 70 :: variation :: qc :: tail := by
  unfold readFreeFormat at h
  split at h
  · next group var qc data =>
    split at h
    · cases h
    · next hhead =>
      simp only [Bool.or_eq_true, bne_iff_ne, not_or, not_not] at hhead
      obtain ⟨⟨rfl, rfl⟩, -⟩ := hhead
      exact ⟨qc, data, rfl⟩
  · cases h

theorem readGroup70Var5_shape {b : Group70Var5}
    (h : readGroup70Var5 objects = some b) : ∃ qc tail, objects = 70 :: 5 :: qc :: tail := by
  obtain ⟨x, hx, -⟩ := Option.map_eq_some_iff.mp h
  exact readFreeFormat_shape hx

theorem readGroup70Var6_shape {s : Group70Var6}
    (h : readGroup70Var6 objects = some s) : ∃ qc tail, objects = 70 :: 6 :: qc :: tail := by
  obtain ⟨x, hx, -⟩ := Option.map_eq_some_iff.mp h
  exact readFreeFormat_shape hx

/-- Without its top bit, a block number can be counted up. -/
theorem readGroup70Var5_next {b : Group70Var5}
    (h : readGroup70Var5 objects = some b) : (b.blockNum + 1).toNat = b.blockNum.toNat + 1 := by
  obtain ⟨x, -, rfl⟩ := Option.map_eq_some_iff.mp h
  have hlt : ∀ n : UInt32, (n &&& 0x7FFFFFFF).toNat < 2 ^ 31 := by
    intro n
    rw [UInt32.toNat_and]
    exact Nat.and_lt_two_pow _ (by decide)
  rw [UInt32.toNat_add]
  exact Nat.mod_eq_of_lt (Nat.lt_of_lt_of_le (Nat.add_lt_add_right (hlt _) 1) (by decide))

/-! ## Steps -/

section Steps

variable {t : FileTransferTask} {r : Response} {objects : List UInt8}

/-- An accepted response is handled according to the task's state. -/
theorem processResponse_accepted (hvalid : validateSingleResponse r.header = true)
    (hrefused : refused r.header = false) : t.processResponse r =
      match t.state with
      | .OPEN_FILE => t.processOpen r.objects
      | .READ_BLOCK => t.processRead r.objects
      | .CLOSE_FILE => (t, .OK_FINAL) := by
  cases hstate : t.state <;> simp [processResponse, hvalid, hrefused, hstate]

/-- A response that is not accepted does not lead to a success. -/
theorem step_not_accepted
    (h : ¬ (validateSingleResponse r.header = true ∧ refused r.header = false)) :
    ∃ result, taskClass.step (.running t) (.onResponse r) = .complete result ∧
      ¬ (result.summary = .SUCCESS ∧ result.statusCode = .SUCCESS) := by
  simp only [TaskClass.step, TaskClass.onResponse, taskClass, processResponse]
  by_cases hvalid : validateSingleResponse r.header = true
  · have hrefused : refused r.header = true := by
      rw [← Bool.not_eq_false]
      exact fun hf => h ⟨hvalid, hf⟩
    simp only [hvalid, hrefused, Bool.not_true, Bool.false_eq_true, ↓reduceIte]
    have hstatus : FileStatus.NOT_EXIST ≠ .SUCCESS := by decide
    exact ⟨_, rfl, fun hs => hstatus hs.2⟩
  · simp only [hvalid, Bool.not_false, ↓reduceIte]
    exact ⟨_, rfl, fun hs => absurd hs.1 TaskCompletion.noConfusion⟩

/-- A block is taken whatever its handle and its number are. -/
theorem processRead_block {b : Group70Var5} (h : readGroup70Var5 objects = some b) :
    t.processRead objects =
      (if b.lastBlock then { t.appendBlock b with state := .CLOSE_FILE } else t.appendBlock b,
        .OK_REPEAT) := by
  obtain ⟨qc, tail, rfl⟩ := readGroup70Var5_shape h
  simp only [processRead, parseGroup70Var5, h, Option.map_some]
  split
  · next hlast => rw [if_pos (show b.lastBlock = true from hlast)]
  · next hlast => rw [if_neg (show ¬ b.lastBlock = true from hlast)]

/-- Anything else that arrives while reading closes the file. -/
theorem processRead_other (h : readGroup70Var5 objects = none) :
    ∃ status, t.processRead objects =
        ({ t with state := .CLOSE_FILE, lastStatus := status }, .OK_REPEAT) ∧
      status = ((readGroup70Var6 objects).map Group70Var6.status).getD t.lastStatus := by
  unfold processRead
  split
  · refine ⟨t.lastStatus, ?_, ?_⟩
    · simp only [parseGroup70Var5, h, Option.map_none]
    · cases h6 : readGroup70Var6 _ with
      | none => rfl
      | some s =>
        obtain ⟨qc, tail, heq⟩ := readGroup70Var6_shape h6
        simp at heq
  · refine ⟨_, ?_, rfl⟩
    simp only [parseGroup70Var6]
    cases readGroup70Var6 _ with
    | none | some s => rfl
  · next hne =>
    refine ⟨t.lastStatus, rfl, ?_⟩
    cases h6 : readGroup70Var6 objects with
    | none => rfl
    | some s =>
      obtain ⟨qc, tail, rfl⟩ := readGroup70Var6_shape h6
      exact absurd rfl (hne qc tail)

end Steps

/-! ## What the task knows -/

/-- The task is reading the file with this handle and has got these blocks of it, in order. -/
structure Reading (t : FileTransferTask) (handle : UInt32) (blocks : List Group70Var5) : Prop where
  state : t.state = .READ_BLOCK
  status : t.lastStatus = .SUCCESS
  fileHandle : t.fileHandle = handle
  data : t.fileData = blocks.flatMap Group70Var5.fileData
  expected : t.expectedBlockNum.toNat = blocks.length
  handles : ∀ b ∈ blocks, b.fileHandle = handle
  numbers : blocks.map (fun b => b.blockNum.toNat) = List.range blocks.length
  not_last : ∀ b ∈ blocks, b.lastBlock = false

/-- What a task with these inputs is like. -/
def Consistent (inputs : List TaskInput) : Execution FileTransferTask FileReadResult → Prop
  | .running t =>
    match t.state with
    | .OPEN_FILE => inputs = [] ∧ t = initialized
    | .READ_BLOCK =>
      ∃ (opened : Response) (status : Group70Var4) (reads : List Response)
        (blocks : List Group70Var5),
        inputs = .onResponse opened :: reads.map TaskInput.onResponse ∧
        readGroup70Var4 opened.objects = some status ∧
        reads.map (fun r => readGroup70Var5 r.objects) = blocks.map some ∧
        t.Reading status.fileHandle blocks
    | .CLOSE_FILE => t.lastStatus = .SUCCESS → Delivers inputs t.fileData
  | .complete result =>
    result.summary = .SUCCESS ∧ result.statusCode = .SUCCESS → Delivers inputs result.data

section Run

variable {t : FileTransferTask} {inputs : List TaskInput}

/-- The expected block, appended to those that the task has. -/
theorem Reading.numbers_append {handle : UInt32} {blocks : List Group70Var5}
    (h : t.Reading handle blocks) {b : Group70Var5} (hnum : b.blockNum = t.expectedBlockNum) :
    (blocks ++ [b]).map (fun b => b.blockNum.toNat) = List.range (blocks ++ [b]).length := by
  rw [List.map_append, List.map_singleton, h.numbers, hnum, h.expected, List.length_append,
    List.length_singleton, List.range_succ]

theorem Reading.handles_append {handle : UInt32} {blocks : List Group70Var5}
    (h : t.Reading handle blocks) {b : Group70Var5} (hhandle : b.fileHandle = t.fileHandle) :
    ∀ b' ∈ blocks ++ [b], b'.fileHandle = handle := by
  intro b' hb'
  rcases List.mem_append.mp hb' with hmem | hmem
  · exact h.handles b' hmem
  · obtain rfl := List.mem_singleton.mp hmem
    exact hhandle.trans h.fileHandle

variable {r : Response}

theorem Consistent.open (hstate : t.state = .OPEN_FILE) (h : Consistent inputs (.running t))
    (hvalid : validateSingleResponse r.header = true) (hrefused : refused r.header = false) :
    Consistent (inputs ++ [.onResponse r]) (taskClass.step (.running t) (.onResponse r)) := by
  simp only [Consistent, hstate] at h
  obtain ⟨rfl, rfl⟩ := h
  simp only [TaskClass.step, TaskClass.onResponse, taskClass,
    processResponse_accepted hvalid hrefused, initialized, processOpen, parseGroup70Var4]
  cases hread : readGroup70Var4 r.objects with
  | none => exact fun hs => absurd hs.1 TaskCompletion.noConfusion
  | some status =>
    by_cases hok : status.status = .SUCCESS
    · simp only [Option.map_some, ne_eq, hok, not_true_eq_false, ↓reduceIte]
      refine ⟨r, status, [], [], rfl, hread, rfl, rfl, rfl, rfl, rfl, rfl, ?_, rfl, ?_⟩
      · exact fun b hb => by cases hb
      · exact fun b hb => by cases hb
    · simp only [Option.map_some, ne_eq, hok, not_false_eq_true, ↓reduceIte]
      exact fun hs => absurd hs.2 hok

theorem Consistent.read (hstate : t.state = .READ_BLOCK) (h : Consistent inputs (.running t))
    (hvalid : validateSingleResponse r.header = true) (hrefused : refused r.header = false)
    (hexp : t.isExpectedBlock r.objects = true ∨ reportsFailure r.objects = true) :
    Consistent (inputs ++ [.onResponse r]) (taskClass.step (.running t) (.onResponse r)) := by
  simp only [Consistent, hstate] at h
  obtain ⟨opened, status, reads, blocks, rfl, hopened, hreads, hreading⟩ := h
  simp only [TaskClass.step, TaskClass.onResponse, taskClass,
    processResponse_accepted hvalid hrefused, hstate]
  -- the responses so far, with the new one at their end
  have hinputs : TaskInput.onResponse opened :: reads.map TaskInput.onResponse ++ [.onResponse r] =
      .onResponse opened :: (reads ++ [r]).map TaskInput.onResponse := by
    rw [List.map_append]
    rfl
  rcases hexp with hblock | hfail
  · -- the expected block
    obtain ⟨b, hb, hhandle, hnum⟩ := isExpectedBlock_iff.mp hblock
    have hreads' : (reads ++ [r]).map (fun r => readGroup70Var5 r.objects) =
        (blocks ++ [b]).map some := by
      rw [List.map_append, List.map_append, hreads, List.map_singleton, hb]
      rfl
    have hdata : t.fileData ++ b.fileData = (blocks ++ [b]).flatMap Group70Var5.fileData := by
      rw [hreading.data, List.flatMap_append, List.flatMap_singleton]
    simp only [processRead_block hb]
    cases hlast : b.lastBlock with
    -- the last block: the file is closed next, whatever comes then
    | true =>
      intro _
      refine ⟨opened, status, reads ++ [r], blocks ++ [b], [], ?_, hopened, hreads', ?_, hdata⟩
      · rw [List.append_nil]
        exact hinputs
      · exact ⟨hreading.handles_append hhandle, hreading.numbers_append hnum, blocks, b, rfl, hlast,
          hreading.not_last⟩
    | false =>
      have hstate' : (t.appendBlock b).state = .READ_BLOCK := hstate
      simp only [Consistent, Bool.false_eq_true, ↓reduceIte, hstate']
      refine ⟨opened, status, reads ++ [r], blocks ++ [b], hinputs, hopened, hreads', hstate,
        hreading.status, hreading.fileHandle, hdata, ?_, hreading.handles_append hhandle,
        hreading.numbers_append hnum, ?_⟩
      · change (b.blockNum + 1).toNat = _
        rw [readGroup70Var5_next hb, hnum, hreading.expected, List.length_append]
        rfl
      · intro b' hb'
        rcases List.mem_append.mp hb' with hmem | hmem
        · exact hreading.not_last b' hmem
        · obtain rfl := List.mem_singleton.mp hmem
          exact hlast
  · -- a failure: the file is closed, and the status is no success
    obtain ⟨st, hst, hne⟩ := (Option.any_eq_true ..).mp hfail
    -- an object cannot be of both variations
    have hnone : readGroup70Var5 r.objects = none := by
      cases hb : readGroup70Var5 r.objects with
      | none => rfl
      | some b =>
        obtain ⟨_, _, h5⟩ := readGroup70Var5_shape hb
        obtain ⟨_, _, h6⟩ := readGroup70Var6_shape hst
        rw [h5] at h6
        simp at h6
    obtain ⟨status', hprocess, hstatus'⟩ := processRead_other (t := t) hnone
    simp only [hprocess]
    intro hsuccess
    rw [hst] at hstatus'
    have hbad : st.status = .SUCCESS := hstatus'.symm.trans hsuccess
    rw [hbad] at hne
    cases hne

theorem Consistent.close (hstate : t.state = .CLOSE_FILE) (h : Consistent inputs (.running t))
    (hvalid : validateSingleResponse r.header = true) (hrefused : refused r.header = false) :
    Consistent (inputs ++ [.onResponse r]) (taskClass.step (.running t) (.onResponse r)) := by
  simp only [Consistent, hstate] at h
  simp only [TaskClass.step, TaskClass.onResponse, taskClass,
    processResponse_accepted hvalid hrefused, hstate]
  rintro ⟨-, hstatus⟩
  have hstatus' : t.lastStatus = .SUCCESS := hstatus
  have hdata : (t.onTaskComplete .SUCCESS).data = t.fileData :=
    if_pos ⟨rfl, hstatus'⟩
  rw [hdata]
  exact (h hstatus').append _

/-- One step of the task keeps what it knows consistent with its inputs. -/
theorem Consistent.step {e : Execution FileTransferTask FileReadResult} {i : TaskInput}
    (h : Consistent inputs e) (hexp : Expected e i) :
    Consistent (inputs ++ [i]) (taskClass.step e i) := by
  cases e with
  | complete result => exact fun hs => (h hs).append [i]
  | running t =>
    cases i with
    | onResponse r =>
      by_cases hacc : validateSingleResponse r.header = true ∧ refused r.header = false
      · obtain ⟨hvalid, hrefused⟩ := hacc
        cases hstate : t.state with
        | OPEN_FILE => exact h.open hstate hvalid hrefused
        | READ_BLOCK => exact h.read hstate hvalid hrefused (hexp hstate hvalid hrefused)
        | CLOSE_FILE => exact h.close hstate hvalid hrefused
      · obtain ⟨result, hresult, hbad⟩ := step_not_accepted (t := t) hacc
        rw [hresult]
        exact fun hs => absurd hs hbad
    | onResponseTimeout | onLowerLayerClose | onStartTimeout | onMessageFormatError =>
      exact fun hs => absurd hs.1 TaskCompletion.noConfusion

/-- A run of expected responses. -/
theorem consistent_execute (hexp : Along taskClass.step Expected (.running initialized) inputs) :
    Consistent inputs (taskClass.execute inputs) := by
  have hstart : Consistent [] (.running initialized) := ⟨rfl, rfl⟩
  exact history_run (H := Consistent) (fun _ _ _ h hi => h.step hi) hstart hexp

/-! ## Unexpected responses -/

private theorem responses_append {reads reads' : List Response} {extra : List TaskInput}
    (h : reads'.map TaskInput.onResponse = reads.map TaskInput.onResponse ++ extra) :
    ∃ more, reads' = reads ++ more ∧ extra = more.map TaskInput.onResponse := by
  obtain ⟨front, back, rfl, hfront, hback⟩ := List.map_eq_append_iff.mp h
  have hinj : Function.Injective TaskInput.onResponse := fun _ _ h => TaskInput.onResponse.inj h
  obtain rfl : front = reads := List.map_injective_iff.mpr hinj hfront
  exact ⟨back, rfl, hback.symm⟩

private theorem blocks_append {reads more : List Response} {blocks blocks' : List Group70Var5}
    (h : reads.map (fun r => readGroup70Var5 r.objects) = blocks.map some)
    (h' : (reads ++ more).map (fun r => readGroup70Var5 r.objects) = blocks'.map some) :
    ∃ new, blocks' = blocks ++ new ∧
      more.map (fun r => readGroup70Var5 r.objects) = new.map some := by
  rw [List.map_append, h] at h'
  obtain ⟨front, back, rfl, hfront, hback⟩ := List.map_eq_append_iff.mp h'.symm
  have hinj : Function.Injective (some : Group70Var5 → _) := fun _ _ h => Option.some.inj h
  obtain rfl : front = blocks := List.map_injective_iff.mpr hinj hfront
  exact ⟨back, rfl, hback.symm⟩

/-- After a response that is not the expected block, the file is not delivered whatever comes
    later. -/
theorem not_delivers (hexp : Along taskClass.step Expected (.running initialized) inputs)
    (ht : taskClass.execute inputs = .running t) (hstate : t.state = .READ_BLOCK)
    (hr : t.isExpectedBlock r.objects = false) (later : List TaskInput) (data : List UInt8) :
    ¬ Delivers (inputs ++ .onResponse r :: later) data := by
  have hcons := consistent_execute hexp
  rw [ht] at hcons
  simp only [Consistent, hstate] at hcons
  obtain ⟨opened, status, reads, blocks, rfl, hopened, hreads, hreading⟩ := hcons
  rintro ⟨opened', status', reads', blocks', rest, heq, hopened', hreads', hfile, -⟩
  obtain ⟨hhead, htail⟩ := List.cons.inj heq
  cases hhead
  obtain rfl : status = status' := Option.some.inj (hopened.symm.trans hopened')
  obtain ⟨init, final, hblocks', hfinal, -⟩ := hfile.last
  -- the last block is not among those that the task has got
  have hnot_old : ∀ more, blocks = blocks' ++ more → False := by
    rintro more rfl
    have hmem : final ∈ blocks' ++ more := by
      rw [hblocks']
      simp
    rw [hreading.not_last final hmem] at hfinal
    cases hfinal
  rcases List.append_eq_append_iff.mp htail with ⟨extra, hextra, hrest⟩ | ⟨extra, hextra, -⟩
  · obtain ⟨more, rfl, rfl⟩ := responses_append hextra
    obtain ⟨new, rfl, hnew⟩ := blocks_append hreads hreads'
    cases more with
    | nil =>
      -- nothing but what the task has got
      obtain rfl : new = [] := List.map_eq_nil_iff.mp hnew.symm
      exact hnot_old [] (by rw [List.append_nil, List.append_nil])
    | cons r' more =>
      -- the response is one of the blocks, so it is the expected one
      obtain rfl : r = r' := TaskInput.onResponse.inj (List.cons.inj hrest).1
      obtain ⟨b, new, rfl, hb, -⟩ := List.map_eq_cons_iff.mp hnew.symm
      have hnum := congrArg (fun l => l[blocks.length]?) hfile.numbers
      have hmem : b ∈ blocks ++ b :: new := List.mem_append_right _ (List.mem_cons_self ..)
      have hexpected : t.isExpectedBlock r.objects = true := by
        refine isExpectedBlock_iff.mpr ⟨b, hb.symm, ?_, ?_⟩
        · exact (hfile.handles b hmem).trans hreading.fileHandle.symm
        · simp at hnum
          exact UInt32.toNat_inj.mp (hnum.trans hreading.expected.symm)
      rw [hr] at hexpected
      cases hexpected
  · obtain ⟨more, rfl, rfl⟩ := responses_append hextra
    obtain ⟨new, hblocks, -⟩ := blocks_append hreads' hreads
    exact hnot_old new hblocks

/-- A response with these objects and nothing unusual in its header. -/
def answer (objects : List UInt8) : Response where
  header := { control := .request 0, function := .RESPONSE, IIN := .empty }
  objects := objects

/-- Closing the file ends the task with whatever it has. -/
theorem run_close (hstate : t.state = .CLOSE_FILE) (hstatus : t.lastStatus = .SUCCESS) :
    run taskClass.step (.running t) [.onResponse (answer [])] =
      .complete ⟨.SUCCESS, .SUCCESS, t.fileData⟩ := by
  have hprocess : t.processResponse (answer []) = (t, .OK_FINAL) := by
    rw [processResponse_accepted rfl rfl, hstate]
  simp only [run_cons, run_nil, TaskClass.step, TaskClass.onResponse, taskClass, hprocess,
    onTaskComplete, hstatus, and_self, ↓reduceIte]

/-- A block of no data that is marked as the last one. -/
def lastBlockAnswer : Response :=
  answer [70, 5, 0x5B, 1, 8, 0, 0, 0, 0, 0, 0, 0, 0, 0x80]

/-- Whatever block arrives while reading, the task can still succeed. -/
theorem run_last_block (hstate : t.state = .READ_BLOCK) (hstatus : t.lastStatus = .SUCCESS) :
    run taskClass.step (.running t) [.onResponse lastBlockAnswer, .onResponse (answer [])] =
      .complete ⟨.SUCCESS, .SUCCESS, t.fileData⟩ := by
  have hread : readGroup70Var5 lastBlockAnswer.objects =
      some { fileHandle := 0, blockNum := 0, lastBlock := true, fileData := [] } := by
    decide +kernel
  have hstep : taskClass.step (.running t) (.onResponse lastBlockAnswer) =
      .running { t with
        state := .CLOSE_FILE, lastBlockReceived := true, expectedBlockNum := 1 } := by
    simp only [TaskClass.step, TaskClass.onResponse, taskClass]
    rw [processResponse_accepted rfl rfl, hstate]
    simp only [processRead_block hread, appendBlock, ↓reduceIte, List.append_nil]
    rfl
  rw [run_cons, hstep]
  exact run_close rfl hstatus

/-- A response that is neither the expected block nor a failure can end in a success. -/
theorem run_unexpected (hstate : t.state = .READ_BLOCK) (hstatus : t.lastStatus = .SUCCESS)
    (hvalid : validateSingleResponse r.header = true)
    (hrefused : refused r.header = false) (hfail : reportsFailure r.objects = false) :
    ∃ later data, run taskClass.step (.running t) (.onResponse r :: later) =
      .complete ⟨.SUCCESS, .SUCCESS, data⟩ := by
  simp only [run_cons, TaskClass.step, TaskClass.onResponse]
  have hprocess : taskClass.processResponse t r = t.processRead r.objects := by
    change t.processResponse r = _
    rw [processResponse_accepted hvalid hrefused, hstate]
  rw [hprocess]
  cases hb : readGroup70Var5 r.objects with
  -- a block out of order is stored like any other
  | some b =>
    rw [processRead_block hb]
    cases hlast : b.lastBlock with
    | true => exact ⟨_, _, run_close rfl hstatus⟩
    | false => exact ⟨_, _, run_last_block hstate hstatus⟩
  -- without a block the file is closed, and the status stays what it was
  | none =>
    obtain ⟨status, hother, hstatus'⟩ := processRead_other (t := t) hb
    rw [hother]
    refine ⟨_, _, run_close rfl ?_⟩
    cases h6 : readGroup70Var6 r.objects with
    | none =>
      rw [hstatus', h6]
      exact hstatus
    | some s =>
      rw [reportsFailure, h6] at hfail
      rw [hstatus', h6]
      simpa using hfail

end Run

/-- **A successful file read delivers the file** as long as every response to a read request is
    the block that was asked for or reports a failure; and after any other response the task can
    succeed without having delivered it. -/
theorem success_delivers_file (inputs : List TaskInput)
    (hexp : Along taskClass.step Expected (.running initialized) inputs) :
    (∀ data, taskClass.execute inputs = .complete ⟨.SUCCESS, .SUCCESS, data⟩ →
      Delivers inputs data) ∧
    ∀ i, ¬ Expected (taskClass.execute inputs) i →
      ∃ later data, taskClass.execute (inputs ++ i :: later) =
          .complete ⟨.SUCCESS, .SUCCESS, data⟩ ∧ ¬ Delivers (inputs ++ i :: later) data := by
  refine ⟨?_, ?_⟩
  · intro data hexec
    have hcons := consistent_execute hexp
    rw [hexec] at hcons
    exact hcons ⟨rfl, rfl⟩
  · intro i hbad
    cases hexec : taskClass.execute inputs with
    | complete result =>
      rw [hexec] at hbad
      exact absurd trivial hbad
    | running t =>
      rw [hexec] at hbad
      cases i with
      | onResponse r =>
        simp only [Expected, Classical.not_imp, not_or, Bool.not_eq_true] at hbad
        obtain ⟨hstate, hvalid, hrefused, hblock, hfail⟩ := hbad
        -- while blocks are read the status is still that of the open request
        have hstatus : t.lastStatus = .SUCCESS := by
          have hcons := consistent_execute hexp
          rw [hexec] at hcons
          simp only [Consistent, hstate] at hcons
          obtain ⟨_, _, _, _, -, -, -, hreading⟩ := hcons
          exact hreading.status
        obtain ⟨later, data, hrun⟩ := run_unexpected hstate hstatus hvalid hrefused hfail
        refine ⟨later, data, ?_, not_delivers hexp hexec hstate hblock later data⟩
        rw [TaskClass.execute, run_append]
        rw [TaskClass.execute] at hexec
        exact (congrArg (fun e => run taskClass.step e _) hexec).trans hrun
      | onResponseTimeout | onLowerLayerClose | onStartTimeout | onMessageFormatError =>
        exact absurd trivial hbad

/-- The answers to the requests for a file of two blocks with handle 7. -/
def twoBlockAnswers : List TaskInput :=
  [.onResponse (answer ([70, 4, 0x5B, 1, 13, 0] ++ [7, 0, 0, 0, 3, 0, 0, 0, 0, 8, 0, 0, 0])),
    .onResponse (answer ([70, 5, 0x5B, 1, 10, 0] ++ [7, 0, 0, 0, 0, 0, 0, 0, 0x41, 0x42])),
    .onResponse (answer ([70, 5, 0x5B, 1, 9, 0] ++ [7, 0, 0, 0, 1, 0, 0, 0x80, 0x43])),
    .onResponse (answer [])]

/-- A file of two blocks. -/
theorem success_delivers_two_blocks : Delivers twoBlockAnswers [0x41, 0x42, 0x43] :=
  (success_delivers_file twoBlockAnswers (by decide +kernel)).1 [0x41, 0x42, 0x43]
    (by decide +kernel)

/-- **A truncated file is a success**: the first read request is answered by a block that is not
    the last, the second by a response without objects.  The task closes the file and gives the
    user the first block as if it were the file. -/
theorem truncated_file_success :
    let inputs := twoBlockAnswers.take 2 ++ .onResponse (answer []) :: [.onResponse (answer [])]
    taskClass.execute inputs = .complete ⟨.SUCCESS, .SUCCESS, [0x41, 0x42]⟩ ∧
      ¬ Delivers inputs [0x41, 0x42] := by
  refine ⟨by decide +kernel, ?_⟩
  have hexec : taskClass.execute (twoBlockAnswers.take 2) = .running
      { state := .READ_BLOCK
        fileHandle := 7
        expectedBlockNum := 1
        maxBlockSize := 2048
        lastStatus := .SUCCESS
        fileData := [0x41, 0x42]
        lastBlockReceived := false } := by
    decide +kernel
  exact not_delivers (by decide +kernel) hexec rfl (by decide +kernel) _ _

end FileTransferTask

end OpenDnp3.Master
