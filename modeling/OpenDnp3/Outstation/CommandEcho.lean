import OpenDnp3.App.CommandHeader
import OpenDnp3.Outstation.Background
import OpenDnp3.Outstation.OContext

/-!
# The echo of a command request

The response to SELECT, OPERATE and DIRECT_OPERATE repeats the objects of the request with the
status of each command in its last byte.  It is built header by header, with iterators whose
failures nobody looks at; what makes it complete is the one comparison of lengths before the
first command.
-/

namespace OpenDnp3.Outstation

open App

/-! ## The answers -/

/-- The commands of a header. -/
def commandsOf (h : CommandHeader) : List Command :=
  h.items.map fun item => ⟨h.gv, item.1, item.2⟩

/-- What the action has to say to a command behind the earlier ones.  The command handler is not
    asked about commands with the queue flag. -/
def actionStatus (env : Env) (action : CommandAction) (earlier : List Command)
    (command : Command) : CommandStatus :=
  match action with
  | .constant status => status
  | .adapter _ =>
    if CommandRun.isQUFlagSet command then .NOT_SUPPORTED
    else (env.command (earlier.countP fun c => !CommandRun.isQUFlagSet c)).status

/-- The status of a command behind the earlier ones. -/
def answer (env : Env) (maxCommands : Nat) (action : CommandAction) (earlier : List Command)
    (command : Command) : CommandStatus :=
  if earlier.length < maxCommands then actionStatus env action earlier command
  else .TOO_MANY_OPS

/-- The statuses of commands behind the earlier ones. -/
def answers (env : Env) (maxCommands : Nat) (action : CommandAction) :
    List Command → List Command → List CommandStatus
  | _, [] => []
  | earlier, command :: later =>
    answer env maxCommands action earlier command ::
      answers env maxCommands action (earlier ++ [command]) later

section

variable {env : Env} {maxCommands : Nat} {action : CommandAction}

@[simp] theorem length_answers (earlier commands : List Command) :
    (answers env maxCommands action earlier commands).length = commands.length := by
  induction commands generalizing earlier with
  | nil => rfl
  | cons command commands ih => rw [answers, List.length_cons, List.length_cons, ih]

theorem answers_append (earlier first second : List Command) :
    answers env maxCommands action earlier (first ++ second) =
      answers env maxCommands action earlier first ++
        answers env maxCommands action (earlier ++ first) second := by
  induction first generalizing earlier with
  | nil => rw [List.append_nil]; rfl
  | cons command first ih =>
    rw [List.cons_append, answers, answers, ih, List.cons_append, List.append_assoc,
      List.singleton_append]

theorem answers_concat (earlier commands : List Command) (command : Command) :
    answers env maxCommands action earlier (commands ++ [command]) =
      answers env maxCommands action earlier commands ++
        [answer env maxCommands action (earlier ++ commands) command] :=
  answers_append earlier commands [command]

/-- Commands beyond the maximum are refused. -/
theorem answers_of_le {earlier : List Command} (h : maxCommands ≤ earlier.length)
    (commands : List Command) :
    answers env maxCommands action earlier commands =
      List.replicate commands.length .TOO_MANY_OPS := by
  induction commands generalizing earlier with
  | nil => rfl
  | cons command commands ih =>
    have hlater : maxCommands ≤ (earlier ++ [command]).length := by
      rw [List.length_append]
      omega
    rw [answers, answer, if_neg (by omega), ih hlater, List.length_cons, List.replicate_succ]

end

/-! ## A response that repeats a request -/

/-- A header without the statuses of its commands. -/
def bodyOf (h : CommandHeader) : GroupVariation × IndexType × List (Nat × List UInt8) :=
  (h.gv, h.indexType, h.items.map fun item => (item.1, item.2.dropLast))

/-- The statuses of the commands of a header. -/
def statusBytes (h : CommandHeader) : List UInt8 := h.items.map fun item => item.2.getLastD 0

/-- **The response repeats the headers of the request with these statuses**: other headers with
    the same objects, indices and values, but for the last byte of each command. -/
def EchoedWith (request : List CommandHeader) (statuses : List CommandStatus)
    (response : List UInt8) : Prop :=
  ∃ headers : List CommandHeader, response = headers.flatMap CommandHeader.bytes ∧
    headers.map bodyOf = request.map bodyOf ∧
    headers.flatMap statusBytes = statuses.map CommandStatus.toType ∧
    response.length = (request.flatMap CommandHeader.bytes).length

theorem length_bytes_of_bodyOf {h h' : CommandHeader} (heq : bodyOf h = bodyOf h') :
    h.bytes.length = h'.bytes.length := by
  have hgv : h.gv = h'.gv := congrArg (·.1) heq
  have htype : h.indexType = h'.indexType := congrArg (·.2.1) heq
  have hitems := congrArg (·.2.2.length) heq
  unfold bodyOf at hitems
  rw [List.length_map, List.length_map] at hitems
  rw [h.length_bytes, h'.length_bytes, hgv, htype, hitems]

namespace EchoedWith

variable {request later : List CommandHeader} {statuses statuses' : List CommandStatus}
  {response response' : List UInt8}

theorem nil : EchoedWith [] [] [] := ⟨[], rfl, rfl, rfl, rfl⟩

/-- One more header. -/
theorem cons {h e : CommandHeader} (hbody : bodyOf e = bodyOf h)
    (hstatuses : statusBytes e = statuses.map CommandStatus.toType)
    (hlater : EchoedWith later statuses' response') :
    EchoedWith (h :: later) (statuses ++ statuses') (e.bytes ++ response') := by
  obtain ⟨headers, rfl, hbodies, hall, hlength⟩ := hlater
  refine ⟨e :: headers, ?_, ?_, ?_, ?_⟩
  · rw [List.flatMap_cons]
  · rw [List.map_cons, List.map_cons, hbody, hbodies]
  · rw [List.flatMap_cons, hstatuses, hall, List.map_append]
  · rw [List.length_append, hlength, length_bytes_of_bodyOf hbody, List.flatMap_cons,
      List.length_append]

end EchoedWith

/-! ## The handler's counters -/

namespace CommandRun

/-- **The handler after these commands.**  What was handed on is counted only as long as no
    command has been refused. -/
structure Tracks (env : Env) (maxCommands : Nat) (action : CommandAction) (done : List Command)
    (run : CommandRun) : Prop where
  numRequests : run.numRequests = min done.length maxCommands
  calls : done.length ≤ maxCommands → ∀ isSelect, action = .adapter isSelect →
    run.calls.length = done.countP fun c => !isQUFlagSet c
  statuses : run.statuses = answers env maxCommands action [] done

variable {env : Env} {maxCommands : Nat} {action : CommandAction} {done : List Command}
  {run : CommandRun}

theorem tracks_start (st : Station) (writer : Option HeaderWriter) :
    Tracks env maxCommands action [] (start st writer) :=
  ⟨(Nat.zero_min _).symm, fun _ _ _ => rfl, rfl⟩

/-- Only the writer is another one. -/
theorem Tracks.setWriter (h : Tracks env maxCommands action done run)
    (writer : Option HeaderWriter) :
    Tracks env maxCommands action done { run with writer } :=
  ⟨h.numRequests, h.calls, h.statuses⟩

theorem processCommand_status (h : Tracks env maxCommands action done run) (command : Command) :
    (processCommand env maxCommands action run command).2 =
      answer env maxCommands action done command := by
  unfold processCommand answer
  rw [h.numRequests]
  by_cases hroom : done.length < maxCommands
  · rw [if_pos (by omega), if_pos hroom]
    unfold doAction actionStatus
    cases haction : action with
    | constant status => rfl
    | adapter isSelect =>
      dsimp only
      split
      · rfl
      · simp [callHandler, h.calls (by omega) isSelect haction]
  · rw [if_neg (by omega), if_neg hroom]

/-- What processing a command leaves to `count`. -/
theorem processCommand_frame (run : CommandRun) (command : Command) :
    let run' := (processCommand env maxCommands action run command).1
    run'.writer = run.writer ∧ run'.statuses = run.statuses ∧
      run'.numRequests =
        if run.numRequests < maxCommands then run.numRequests + 1 else run.numRequests := by
  unfold processCommand doAction callHandler
  cases action with
  | constant status => split <;> exact ⟨rfl, rfl, rfl⟩
  | adapter isSelect =>
    dsimp only
    split
    · split <;> exact ⟨rfl, rfl, rfl⟩
    · exact ⟨rfl, rfl, rfl⟩

theorem processCommand_calls (isSelect : Bool) (run : CommandRun) (command : Command)
    (hroom : run.numRequests < maxCommands) :
    (processCommand env maxCommands (.adapter isSelect) run command).1.calls =
      if isQUFlagSet command then run.calls else run.calls ++ [command] := by
  unfold processCommand doAction callHandler
  rw [if_pos hroom]
  dsimp only
  split <;> rfl

/-- **One more command.** -/
theorem Tracks.command (h : Tracks env maxCommands action done run) (command : Command) :
    Tracks env maxCommands action (done ++ [command])
      ((processCommand env maxCommands action run command).1.count
        (processCommand env maxCommands action run command).2) := by
  have hstatus := processCommand_status h command
  obtain ⟨-, hstatuses, hrequests⟩ := processCommand_frame run command
  have hanswers : answers env maxCommands action [] (done ++ [command]) =
      answers env maxCommands action [] done ++ [answer env maxCommands action done command] :=
    answers_concat [] done command
  refine ⟨?_, ?_, ?_⟩
  · change (processCommand env maxCommands action run command).1.numRequests = _
    rw [hrequests, h.numRequests, List.length_append, List.length_singleton]
    split <;> omega
  · intro hlength isSelect haction
    rw [List.length_append, List.length_singleton] at hlength
    subst haction
    change List.length (processCommand env maxCommands (.adapter isSelect) run command).1.calls = _
    rw [processCommand_calls isSelect run command (by rw [h.numRequests]; omega),
      List.countP_append, ← h.calls (by omega) isSelect rfl]
    -- commands with the QU flag are not handed to the command handler
    by_cases hflag : isQUFlagSet command = true
    · rw [if_pos hflag]
      simp [hflag]
    · rw [if_neg hflag]
      simp [hflag]
  · change (processCommand env maxCommands action run command).1.statuses ++ _ = _
    rw [hstatuses, hstatus, hanswers, h.statuses]

/-! ## The echo of one header -/

/-- **A header being answered**: these commands have been written behind the header. -/
def Working (gv : GroupVariation) (t : IndexType) (w : HeaderWriter) (lead : List UInt8)
    (echoed : List (Nat × List UInt8)) (e : Echo) : Prop :=
  ∃ it w₁, e.iter = some it ∧ e.run.writer = some w₁ ∧ it.indexType = t ∧
    it.serializer = serializer gv ∧ it.count = echoed.length ∧
    it.Open w lead (echoed.flatMap t.entry) w₁

variable {gv : GroupVariation} {t : IndexType} {w : HeaderWriter} {lead : List UInt8}
  {echoed : List (Nat × List UInt8)} {e : Echo}

/-- Another command fits where the bytes of all commands fit. -/
theorem Working.write (h : Working gv t w lead echoed e) (hfit : ItemsFit t (commandSize gv) echoed)
    {index : Nat} {object : List UInt8} (hsize : object.length = commandSize gv)
    (hroom : lead.length + t.size + (echoed.length + 1) * (t.size + commandSize gv) ≤
      w.remaining) :
    Working gv t w lead (echoed ++ [(index, object)]) (e.write object index) := by
  obtain ⟨it, w₁, hiter, hwriter, htype, hserializer, hcount, hopen⟩ := h
  obtain ⟨hole, hhole, happends⟩ := hopen.appends
  have hremaining := happends.remaining
  rw [List.length_append, List.length_append, hhole, htype, length_flatMap_entry hfit]
    at hremaining
  rw [Nat.succ_mul] at hroom
  have hserializerSize : it.serializer.size = commandSize gv := by
    rw [hserializer]
    rfl
  -- `hroom` leaves room for this entry
  have hsome : (it.write w₁ object index).isSome = true := by
    apply PrefixedWriteIterator.write_isSome
    rw [hserializerSize, htype]
    omega
  obtain ⟨⟨it', w₂⟩, hwrite⟩ := Option.isSome_iff_exists.mp hsome
  have hobject : (it.serializer.write object).length = it.serializer.size := by
    rw [hserializerSize, hserializer]
    exact hsize
  obtain ⟨htype', hserializer', hcount', hopen'⟩ := hopen.write hobject hwrite
  have hecho : e.write object index = ⟨{ e.run with writer := some w₂ }, some it', e.iin⟩ := by
    simp [Echo.write, hiter, hwriter, hwrite]
  rw [hecho]
  refine ⟨it', w₂, rfl, rfl, htype'.trans htype, hserializer'.trans hserializer, ?_, ?_⟩
  · rw [hcount', hcount, List.length_append]
    rfl
  · have hentry : it.entryBytes index object = t.entry (index, object) := by
      unfold PrefixedWriteIterator.entryBytes IndexType.entry
      rw [htype, hserializer]
      rfl
    rw [hentry] at hopen'
    rw [List.flatMap_append, List.flatMap_singleton]
    exact hopen'

/-- The items with their statuses. -/
def answeredItems (items : List (Nat × List UInt8)) (statuses : List CommandStatus) :
    List (Nat × List UInt8) :=
  items.zipWith (fun item status => (item.1, withStatus item.2 status)) statuses

theorem length_withStatus {object : List UInt8} (h : 0 < object.length) (status : CommandStatus) :
    (withStatus object status).length = object.length := by
  unfold withStatus
  rw [List.length_append, List.length_dropLast, List.length_singleton]
  omega

@[simp] theorem run_write_tracks (h : Tracks env maxCommands action done e.run)
    (object : List UInt8) (index : Nat) :
    Tracks env maxCommands action done (e.write object index).run := by
  unfold Echo.write
  split
  · split
    · exact h.setWriter _
    · exact h
  · exact h

/-- The loop over the commands of a header. -/
theorem respondToCommands_spec (hgv : gv ∈ commandVariations)
    (items : List (Nat × List UInt8)) (hitems : ItemsFit t (commandSize gv) items)
    (hworking : Working gv t w lead echoed e)
    (htracks : Tracks env maxCommands action done e.run)
    (hfit : ItemsFit t (commandSize gv) echoed)
    (hroom : lead.length + t.size +
      (echoed.length + items.length) * (t.size + commandSize gv) ≤ w.remaining) :
    let commands := items.map fun item => (⟨gv, item.1, item.2⟩ : Command)
    let e' := items.foldl (respondToCommand env maxCommands action gv) e
    Working gv t w lead
        (echoed ++ answeredItems items (answers env maxCommands action done commands)) e' ∧
      Tracks env maxCommands action (done ++ commands) e'.run := by
  induction items generalizing echoed e done with
  | nil =>
    change Working gv t w lead (echoed ++ []) e ∧ Tracks env maxCommands action (done ++ []) e.run
    rw [List.append_nil, List.append_nil]
    exact ⟨hworking, htracks⟩
  | cons item items ih =>
    obtain ⟨hindex, hsize⟩ := hitems item List.mem_cons_self
    have hpos := commandSize_pos hgv
    have hstatus := processCommand_status htracks ⟨gv, item.1, item.2⟩
    -- the echo of this command
    set status := answer env maxCommands action done ⟨gv, item.1, item.2⟩ with hdef
    have hwritten : (withStatus item.2 status).length = commandSize gv := by
      rw [length_withStatus (by omega), hsize]
    rw [List.length_cons] at hroom
    have hone : Working gv t w lead (echoed ++ [(item.1, withStatus item.2 status)])
        (respondToCommand env maxCommands action gv e item) := by
      unfold respondToCommand
      dsimp only
      rw [hstatus]
      refine Working.write ?_ hfit hwritten ?_
      · obtain ⟨it, w₁, hiter, hwriter, hrest⟩ := hworking
        refine ⟨it, w₁, hiter, ?_, hrest⟩
        exact (processCommand_frame e.run _).1.trans hwriter
      · refine Nat.le_trans (Nat.add_le_add_left (Nat.mul_le_mul_right _ ?_) _) hroom
        omega
    have htracks' : Tracks env maxCommands action (done ++ [⟨gv, item.1, item.2⟩])
        (respondToCommand env maxCommands action gv e item).run :=
      run_write_tracks (htracks.command ⟨gv, item.1, item.2⟩) _ _
    have hfit' : ItemsFit t (commandSize gv)
        (echoed ++ [(item.1, withStatus item.2 status)]) := by
      intro other hother
      obtain hother | hother := List.mem_append.mp hother
      · exact hfit other hother
      · rw [List.mem_singleton.mp hother]
        exact ⟨hindex, hwritten⟩
    have hroom' : lead.length + t.size +
        ((echoed ++ [(item.1, withStatus item.2 status)]).length + items.length) *
          (t.size + commandSize gv) ≤ w.remaining := by
      rw [List.length_append, List.length_singleton, Nat.add_assoc _ 1, Nat.add_comm 1]
      exact hroom
    have hlater := ih (fun other hother => hitems other (List.mem_cons_of_mem _ hother)) hone
      htracks' hfit' hroom'
    dsimp only at hlater ⊢
    rw [List.map_cons, List.foldl_cons, answers, ← hdef]
    rw [List.append_assoc, List.append_assoc] at hlater
    exact hlater

variable {statuses : List CommandStatus}

theorem length_answeredItems {items : List (Nat × List UInt8)}
    (h : statuses.length = items.length) :
    (answeredItems items statuses).length = items.length := by
  unfold answeredItems
  rw [List.length_zipWith, h, Nat.min_self]

theorem mem_answeredItems {items : List (Nat × List UInt8)}
    {item : Nat × List UInt8} (h : item ∈ answeredItems items statuses) :
    ∃ old ∈ items, ∃ status, item = (old.1, withStatus old.2 status) := by
  unfold answeredItems at h
  obtain ⟨i, hi, rfl⟩ := List.mem_iff_getElem.mp h
  rw [List.length_zipWith, Nat.lt_min] at hi
  exact ⟨items[i], List.getElem_mem hi.1, statuses[i], List.getElem_zipWith⟩

/-- A header with the statuses of its commands. -/
def answered (h : CommandHeader) (statuses : List CommandStatus)
    (hlength : statuses.length = h.items.length) : CommandHeader where
  gv := h.gv
  indexType := h.indexType
  items := answeredItems h.items statuses
  known := h.known
  fit := by
    intro item hitem
    obtain ⟨old, hold, status, rfl⟩ := mem_answeredItems hitem
    obtain ⟨hindex, hsize⟩ := h.fit old hold
    have hpos := commandSize_pos h.known
    exact ⟨hindex, (length_withStatus (by omega) status).trans hsize⟩
  ne_nil := by
    intro hnil
    have hzero := congrArg List.length hnil
    rw [length_answeredItems hlength] at hzero
    exact h.ne_nil (List.length_eq_zero_iff.mp hzero)
  length_le := by
    rw [length_answeredItems hlength]
    exact h.length_le

theorem bodyOf_answered (h : CommandHeader) (hlength : statuses.length = h.items.length) :
    bodyOf (answered h statuses hlength) = bodyOf h := by
  have hitems : (answeredItems h.items statuses).map (fun item => (item.1, item.2.dropLast)) =
      h.items.map fun item => (item.1, item.2.dropLast) := by
    rw [answeredItems, ← List.map_uncurry_zip_eq_zipWith, List.map_map]
    simp only [Function.comp_def, Function.uncurry_def, withStatus, List.dropLast_concat]
    conv_rhs => rw [← List.map_fst_zip (Nat.le_of_eq hlength.symm), List.map_map]
    rfl
  unfold bodyOf answered
  rw [hitems]

theorem statusBytes_answered (h : CommandHeader) (hlength : statuses.length = h.items.length) :
    statusBytes (answered h statuses hlength) = statuses.map CommandStatus.toType := by
  have hitems : (answeredItems h.items statuses).map (fun item => item.2.getLastD 0) =
      statuses.map CommandStatus.toType := by
    rw [answeredItems, ← List.map_uncurry_zip_eq_zipWith, List.map_map]
    simp only [Function.comp_def, Function.uncurry_def, withStatus, List.getLastD_concat]
    conv_rhs => rw [← List.map_snd_zip (Nat.le_of_eq hlength), List.map_map]
    rfl
  exact hitems

/-- The header of the answer is begun where one command fits. -/
theorem working_startEcho (h : CommandHeader) (headerIndex : Nat)
    (hwriter : run.writer = some w) (hposition : w.position ≤ w.buffer.length)
    (hroom : h.bytes.length ≤ w.remaining)
    (htracks : Tracks env maxCommands action done run) :
    Working h.gv h.indexType w
        (headerBytes ⟨UInt8.ofNat h.gv.group, UInt8.ofNat h.gv.variation⟩
          h.indexType.prefixQualifier) [] (run.startEcho (h.record headerIndex)) ∧
      Tracks env maxCommands action done (run.startEcho (h.record headerIndex)).run := by
  have hchoice : (if (h.record headerIndex).qualifier = .UINT8_CNT_UINT8_INDEX then
      (IndexType.U8, QualifierCode.UINT8_CNT_UINT8_INDEX)
      else (IndexType.U16, QualifierCode.UINT16_CNT_UINT16_INDEX)) =
        (h.indexType, h.indexType.prefixQualifier) := by
    unfold CommandHeader.record
    cases h.indexType <;> rfl
  -- the header has a command
  have hone : 3 + (2 * h.indexType.size + (serializer h.gv).size) ≤ w.remaining := by
    have hlength := h.length_bytes
    have hcount : 1 ≤ h.items.length := List.length_pos_iff.mpr h.ne_nil
    have hmul := Nat.mul_le_mul_right (h.indexType.size + commandSize h.gv) hcount
    change 3 + (2 * h.indexType.size + commandSize h.gv) ≤ _
    omega
  have hsome := PrefixedWriteIterator.start_isSome h.indexType.prefixQualifier hone
  obtain ⟨it, hit⟩ := Option.isSome_iff_exists.mp hsome
  have hstart : PrefixedWriteIterator.start? w h.indexType h.indexType.prefixQualifier
      (serializer h.gv) = (some it,
        (PrefixedWriteIterator.start? w h.indexType h.indexType.prefixQualifier
          (serializer h.gv)).2) := by
    rw [← hit]
  generalize (PrefixedWriteIterator.start? w h.indexType h.indexType.prefixQualifier
    (serializer h.gv)).2 = w₁ at hstart
  obtain ⟨htype, hserializer, hcount, hopen, -⟩ :=
    PrefixedWriteIterator.open_start hposition hstart
  have hecho : run.startEcho (h.record headerIndex) =
      ⟨{ run with writer := some w₁ }, some it, .empty⟩ := by
    have henumeration : (h.record headerIndex).enumeration = h.gv := rfl
    unfold startEcho
    rw [hwriter]
    dsimp only
    rw [hchoice, henumeration]
    rw [hstart]
  rw [hecho]
  exact ⟨⟨it, w₁, rfl, rfl, htype, hserializer, hcount, hopen⟩, htracks.setWriter _⟩

/-- **The echo of a header.** -/
theorem respondToHeader_spec (h : CommandHeader) (headerIndex : Nat)
    (hwriter : run.writer = some w) (hposition : w.position ≤ w.buffer.length)
    (hroom : h.bytes.length ≤ w.remaining)
    (htracks : Tracks env maxCommands action done run) :
    let run' := (respondToHeader env maxCommands action run (h.record headerIndex) h.items).1
    ∃ e w', bodyOf e = bodyOf h ∧
      statusBytes e = (answers env maxCommands action done (commandsOf h)).map
        CommandStatus.toType ∧
      run'.writer = some w' ∧ Appends w e.bytes w' ∧
      Tracks env maxCommands action (done ++ commandsOf h) run' := by
  obtain ⟨hworking, hbegun⟩ := working_startEcho h headerIndex hwriter hposition hroom htracks
  have hlength : (answers env maxCommands action done (commandsOf h)).length =
      h.items.length := by
    rw [length_answers]
    exact List.length_map ..
  -- the room for the whole header is there before its first command
  have hall : 3 + h.indexType.size +
      (([] : List (Nat × List UInt8)).length + h.items.length) *
        (h.indexType.size + commandSize h.gv) ≤ w.remaining := by
    rw [List.length_nil, Nat.zero_add, ← h.length_bytes]
    exact hroom
  obtain ⟨⟨it, w₁, hiter, hwriter', htype, -, hcount, hopen⟩, htracks'⟩ :=
    respondToCommands_spec h.known h.items h.fit hworking hbegun
      (fun item hitem => absurd hitem List.not_mem_nil) hall
  have hfinish := hopen.finish
  rw [htype, hcount, List.nil_append] at hfinish
  have hrun : (respondToHeader env maxCommands action run (h.record headerIndex) h.items).1 =
      { (h.items.foldl (respondToCommand env maxCommands action h.gv)
          (run.startEcho (h.record headerIndex))).run with writer := some (it.finish w₁) } := by
    change Echo.finish (h.items.foldl (respondToCommand env maxCommands action h.gv)
      (run.startEcho (h.record headerIndex))) = _
    unfold Echo.finish
    rw [hiter, hwriter']
  rw [hrun]
  exact ⟨answered h _ hlength, it.finish w₁, bodyOf_answered h hlength,
    statusBytes_answered h hlength, rfl, hfinish, htracks'.setWriter _⟩

/-! ## The echo of a request -/

/-- The loop over the headers of the request. -/
theorem onHeaders_spec (hs : List CommandHeader) (headerIndex : Nat) (r : HandlerRun CommandRun)
    (hwriter : r.state.writer = some w) (hposition : w.position ≤ w.buffer.length)
    (hroom : (hs.flatMap CommandHeader.bytes).length ≤ w.remaining)
    (htracks : Tracks env maxCommands action done r.state) :
    let r' := (parsedFrom headerIndex hs).foldl
      (onHeader (commandResponseHandler env maxCommands action)) r
    ∃ response w', EchoedWith hs (answers env maxCommands action done (hs.flatMap commandsOf))
        response ∧
      r'.state.writer = some w' ∧ Appends w response w' ∧
      Tracks env maxCommands action (done ++ hs.flatMap commandsOf) r'.state := by
  induction hs generalizing headerIndex r w done with
  | nil =>
    refine ⟨[], w, .nil, hwriter, .refl hposition, ?_⟩
    rw [List.flatMap_nil, List.append_nil]
    exact htracks
  | cons h hs ih =>
    rw [List.flatMap_cons, List.length_append] at hroom
    obtain ⟨e, w₁, hbody, hstatuses, hwriter₁, happends, htracks₁⟩ :=
      respondToHeader_spec h headerIndex hwriter hposition (by omega) htracks
    have hremaining := happends.remaining
    rw [length_bytes_of_bodyOf hbody] at hremaining
    obtain ⟨response, w₂, hechoed, hwriter₂, happends₂, htracks₂⟩ :=
      ih (headerIndex + 1)
        (onHeader (commandResponseHandler env maxCommands action) r (h.parsed headerIndex))
        hwriter₁ happends.fits (by omega) htracks₁
    refine ⟨e.bytes ++ response, w₂, ?_, hwriter₂, happends.trans happends₂, ?_⟩
    · rw [List.flatMap_cons, answers_append]
      exact .cons hbody hstatuses hechoed
    · rw [List.flatMap_cons, ← List.append_assoc]
      exact htracks₂

end CommandRun

theorem isAllowedCommand_iff (gv : GroupVariation) (qc : QualifierCode) :
    isAllowedCommand gv qc = true ↔
      gv ∈ commandVariations ∧ ∃ t : IndexType, qc = t.prefixQualifier := by
  have hqualifier : (qc == .UINT8_CNT_UINT8_INDEX || qc == .UINT16_CNT_UINT16_INDEX) = true ↔
      ∃ t : IndexType, qc = t.prefixQualifier := by
    rw [Bool.or_eq_true, beq_iff_eq, beq_iff_eq]
    constructor
    · rintro (rfl | rfl)
      · exact ⟨.U8, rfl⟩
      · exact ⟨.U16, rfl⟩
    · rintro ⟨t, rfl⟩
      cases t with
      | U8 => exact .inl rfl
      | U16 => exact .inr rfl
  unfold isAllowedCommand
  rw [Bool.and_eq_true, hqualifier, List.contains_iff_mem, and_comm]
  rfl

/-- **The echo of a request**, for any action. -/
theorem runCommands_spec (env : Env) (maxCommands : Nat) (action : CommandAction)
    (hs : List CommandHeader) (st : Station) {w : HeaderWriter}
    (hposition : w.position ≤ w.buffer.length)
    (hroom : (hs.flatMap CommandHeader.bytes).length ≤ w.remaining) :
    ∃ response run iin,
      runCommands env maxCommands action (hs.flatMap CommandHeader.bytes) (.start st (some w)) =
        .ok (run, iin) ∧
      EchoedWith hs (answers env maxCommands action [] (hs.flatMap commandsOf)) response ∧
      run.writer = some (run.writer.getD w) ∧ Appends w response (run.writer.getD w) ∧
      run.Tracks env maxCommands action (hs.flatMap commandsOf) := by
  have hparse : parse .Default (commandResponseHandler env maxCommands action).isAllowed
      (hs.flatMap CommandHeader.bytes) = .ok (parsedFrom 0 hs) :=
    (parse_commands_iff fun _ => isAllowedCommand_iff).mpr ⟨hs, rfl, rfl⟩
  have hrun : runCommands env maxCommands action (hs.flatMap CommandHeader.bytes)
      (.start st (some w)) =
        .ok ((onHeaders (commandResponseHandler env maxCommands action)
            (CommandRun.start st (some w)) (parsedFrom 0 hs)).state,
          (onHeaders (commandResponseHandler env maxCommands action)
            (CommandRun.start st (some w)) (parsedFrom 0 hs)).errors) := by
    unfold runCommands handleObjects
    rw [hparse]
    rfl
  obtain ⟨response, w', hechoed, hwriter, happends, htracks⟩ :=
    CommandRun.onHeaders_spec hs 0 ⟨CommandRun.start st (some w), .empty, 0⟩ rfl hposition hroom
      (CommandRun.tracks_start st (some w))
  obtain rfl : Option.getD _ w = w' := congrArg (·.getD w) hwriter
  exact ⟨response, _, _, hrun, hechoed, hwriter, happends, htracks⟩

/-- What an OPERATE request does with its commands: without a valid selection they are all
    answered with the fault of the selection. -/
def operateAction (params : OutstationParams) (env : Env) (seq : Fin 16) (objects : List UInt8)
    (st : Station) : CommandAction :=
  let result := st.control.validateSelection ⟨seq, env.now, objects⟩ params.selectTimeout
  if result = .SUCCESS then .adapter false else .constant result

section

variable (params : OutstationParams) (env : Env) (seq : Fin 16) (hs : List CommandHeader)
  (st : Station) {w : HeaderWriter} (hposition : w.position ≤ w.buffer.length)
  (hroom : (hs.flatMap CommandHeader.bytes).length ≤ w.remaining)

include hposition hroom

theorem handleSelect_echoed :
    ∃ response, EchoedWith hs
        (answers env params.maxControlsPerRequest (.adapter true) [] (hs.flatMap commandsOf))
        response ∧
      Appends w response
        (handleSelect params env seq (hs.flatMap CommandHeader.bytes) w st).2.1 := by
  obtain ⟨response, run, iin, hrun, hechoed, -, happends, -⟩ :=
    runCommands_spec env params.maxControlsPerRequest (.adapter true) hs st hposition hroom
  refine ⟨response, hechoed, ?_⟩
  unfold handleSelect
  rw [if_neg (Nat.not_lt.mpr hroom), hrun]
  exact happends

theorem handleOperate_echoed :
    ∃ response, EchoedWith hs
        (answers env params.maxControlsPerRequest
          (operateAction params env seq (hs.flatMap CommandHeader.bytes) st) []
          (hs.flatMap commandsOf)) response ∧
      Appends w response
        (handleOperate params env seq (hs.flatMap CommandHeader.bytes) w st).2.1 := by
  unfold handleOperate operateAction
  rw [if_neg (Nat.not_lt.mpr hroom)]
  dsimp only
  generalize st.control.validateSelection _ _ = result
  split
  · obtain ⟨response, run, iin, hrun, hechoed, -, happends, -⟩ :=
      runCommands_spec env params.maxControlsPerRequest (.adapter false) hs st hposition hroom
    refine ⟨response, hechoed, ?_⟩
    rw [hrun]
    exact happends
  · -- every command gets the fault of the selection
    obtain ⟨response, run, iin, hrun, hechoed, -, happends, -⟩ :=
      runCommands_spec env params.maxControlsPerRequest (.constant result) hs
        ((st.setControl st.control.unselect).record
          [.refused ⟨seq, env.now, hs.flatMap CommandHeader.bytes⟩ result]) hposition hroom
    refine ⟨response, hechoed, ?_⟩
    unfold handleCommandWithConstant
    rw [hrun]
    exact happends

theorem handleDirectOperate_echoed (opType : OperateType) :
    ∃ response w', EchoedWith hs
        (answers env params.maxControlsPerRequest (.adapter false) [] (hs.flatMap commandsOf))
        response ∧
      (handleDirectOperate params env seq opType (hs.flatMap CommandHeader.bytes) (some w)
        st).2.1 = some w' ∧
      Appends w response w' := by
  obtain ⟨response, run, iin, hrun, hechoed, hwriter, happends, -⟩ :=
    runCommands_spec env params.maxControlsPerRequest (.adapter false) hs st hposition hroom
  have hfits : (some w).any (fun w => decide ((hs.flatMap CommandHeader.bytes).length >
      w.remaining)) = false := decide_eq_false (Nat.not_lt.mpr hroom)
  refine ⟨response, _, hechoed, ?_, happends⟩
  unfold handleDirectOperate
  rw [hfits, hrun]
  exact hwriter

end

/-- **The response repeats the request.**  For objects that parse and fit, each of the functions
    appends the headers of the request with the statuses of their commands. -/
theorem commands_echoed (params : OutstationParams) (env : Env) (seq : Fin 16)
    (objects : List UInt8) (calls : List ParsedHeader) (w : HeaderWriter) (st : Station)
    (opType : OperateType) (hposition : w.position ≤ w.buffer.length)
    (hroom : objects.length ≤ w.remaining)
    (hparse : parse .Default (fun _ => isAllowedCommand) objects = .ok calls) :
    ∃ hs : List CommandHeader, objects = hs.flatMap CommandHeader.bytes ∧
      calls = parsedFrom 0 hs ∧
      (∃ response, EchoedWith hs
          (answers env params.maxControlsPerRequest (.adapter true) [] (hs.flatMap commandsOf))
          response ∧
        Appends w response (handleSelect params env seq objects w st).2.1) ∧
      (∃ response, EchoedWith hs
          (answers env params.maxControlsPerRequest (operateAction params env seq objects st) []
            (hs.flatMap commandsOf)) response ∧
        Appends w response (handleOperate params env seq objects w st).2.1) ∧
      ∃ response w', EchoedWith hs
          (answers env params.maxControlsPerRequest (.adapter false) [] (hs.flatMap commandsOf))
          response ∧
        (handleDirectOperate params env seq opType objects (some w) st).2.1 = some w' ∧
        Appends w response w' := by
  obtain ⟨hs, rfl, rfl⟩ := (parse_commands_iff fun _ => isAllowedCommand_iff).mp hparse
  exact ⟨hs, rfl, rfl, handleSelect_echoed params env seq hs st hposition hroom,
    handleOperate_echoed params env seq hs st hposition hroom,
    handleDirectOperate_echoed params env seq hs st hposition hroom opType⟩

/-! ## When a selection is recorded -/

/-- Every command of the request is answered with success. -/
def AllAnswered (params : OutstationParams) (env : Env) (objects : List UInt8)
    (w : HeaderWriter) : Prop :=
  objects.length ≤ w.remaining ∧
    ∃ hs, parse .Default (fun _ => isAllowedCommand) objects = .ok (parsedFrom 0 hs) ∧
      ∀ status ∈ answers env params.maxControlsPerRequest (.adapter true) []
        (hs.flatMap commandsOf), status = .SUCCESS

section

variable {env : Env} {maxCommands : Nat} {action : CommandAction}

/-- The commands up to the maximum, and those beyond it. -/
theorem answers_split (commands : List Command) :
    answers env maxCommands action [] commands =
      answers env maxCommands action [] (commands.take maxCommands) ++
        List.replicate (commands.length - maxCommands) .TOO_MANY_OPS := by
  have hparts : answers env maxCommands action [] commands =
      answers env maxCommands action [] (commands.take maxCommands) ++
        answers env maxCommands action (commands.take maxCommands)
          (commands.drop maxCommands) := by
    have happend : answers env maxCommands action []
        (commands.take maxCommands ++ commands.drop maxCommands) = _ := answers_append [] _ _
    rwa [List.take_append_drop] at happend
  rw [hparts]
  congr 1
  rcases Nat.le_total commands.length maxCommands with hle | hle
  · rw [List.drop_eq_nil_of_le hle, Nat.sub_eq_zero_of_le hle]
    rfl
  · rw [answers_of_le (by rw [List.length_take]; omega), List.length_drop]

/-- As many successes as commands were counted: all up to the maximum succeeded. -/
theorem count_success_eq_iff (commands : List Command) :
    (answers env maxCommands action [] commands).count .SUCCESS =
        min commands.length maxCommands ↔
      ∀ status ∈ answers env maxCommands action [] (commands.take maxCommands),
        status = .SUCCESS := by
  have hbeyond : (List.replicate (commands.length - maxCommands)
      CommandStatus.TOO_MANY_OPS).count .SUCCESS = 0 := by
    rw [List.count_replicate]
    rfl
  have hlength : (answers env maxCommands action [] (commands.take maxCommands)).length =
      min commands.length maxCommands := by
    rw [length_answers, List.length_take, Nat.min_comm]
  rw [answers_split, List.count_append, hbeyond, Nat.add_zero, ← hlength, List.count_eq_length]
  exact ⟨fun h status hmem => (h status hmem).symm, fun h status hmem => (h status hmem).symm⟩

/-- All are answered with success: all up to the maximum, and none beyond it. -/
theorem all_success_iff (commands : List Command) :
    (∀ status ∈ answers env maxCommands action [] commands, status = .SUCCESS) ↔
      (∀ status ∈ answers env maxCommands action [] (commands.take maxCommands),
        status = .SUCCESS) ∧ commands.length ≤ maxCommands := by
  rw [answers_split]
  constructor
  · intro h
    refine ⟨fun status hmem => h status (List.mem_append_left _ hmem), ?_⟩
    by_contra hlt
    have hmem : CommandStatus.TOO_MANY_OPS ∈
        List.replicate (commands.length - maxCommands) CommandStatus.TOO_MANY_OPS := by
      rw [List.mem_replicate]
      exact ⟨by omega, rfl⟩
    cases h _ (List.mem_append_right _ hmem)
  · rintro ⟨hfirst, hle⟩ status hmem
    rw [Nat.sub_eq_zero_of_le hle, List.replicate_zero, List.append_nil] at hmem
    exact hfirst status hmem

end

/-- **What SELECT records**: a selection if all commands up to the maximum succeeded, whatever
    comes beyond it. -/
theorem control_handleSelect (params : OutstationParams) (env : Env) (seq : Fin 16)
    (hs : List CommandHeader) (st : Station) {w : HeaderWriter}
    (hposition : w.position ≤ w.buffer.length)
    (hroom : (hs.flatMap CommandHeader.bytes).length ≤ w.remaining) :
    (handleSelect params env seq (hs.flatMap CommandHeader.bytes) w st).1.control =
      if (∀ status ∈ answers env params.maxControlsPerRequest (.adapter true) []
          ((hs.flatMap commandsOf).take params.maxControlsPerRequest), status = .SUCCESS) then
        .select ⟨seq, env.now, hs.flatMap CommandHeader.bytes⟩
      else st.control := by
  obtain ⟨response, run, iin, hrun, -, -, -, htracks⟩ :=
    runCommands_spec env params.maxControlsPerRequest (.adapter true) hs st hposition hroom
  have hcounted : run.Counted params.maxControlsPerRequest :=
    CommandRun.runCommands_invariant (P := CommandRun.Counted params.maxControlsPerRequest)
      (fun _ _ h => ⟨h.success, h.requests⟩)
      (fun _ command h => CommandRun.counted_processCommand h command)
      (CommandRun.counted_start _ _ _) hrun
  have hstation : run.station = st := CommandRun.station_runCommands (by decide) hrun
  -- only the commands within the limit are counted
  have hall : run.allCommandsSuccessful = true ↔
      ∀ status ∈ answers env params.maxControlsPerRequest (.adapter true) []
        ((hs.flatMap commandsOf).take params.maxControlsPerRequest), status = .SUCCESS := by
    unfold CommandRun.allCommandsSuccessful
    rw [beq_iff_eq, htracks.numRequests, hcounted.success, htracks.statuses,
      ← count_success_eq_iff]
    exact eq_comm
  unfold handleSelect
  rw [if_neg (Nat.not_lt.mpr hroom), hrun]
  dsimp only
  rw [hstation]
  by_cases hsuccess : run.allCommandsSuccessful = true
  · rw [if_pos hsuccess, if_pos (hall.mp hsuccess)]
    rfl
  · rw [if_neg hsuccess, if_neg (fun h => hsuccess (hall.mpr h))]
    rfl

theorem commandCount_eq {objects : List UInt8} {hs : List CommandHeader}
    (h : parse .Default (fun _ => isAllowedCommand) objects = .ok (parsedFrom 0 hs)) :
    commandCount objects = (hs.flatMap commandsOf).length := by
  have hsum : ∀ (hs : List CommandHeader) (headerIndex : Nat),
      ((parsedFrom headerIndex hs).map commandsIn).sum = (hs.flatMap commandsOf).length := by
    intro hs
    induction hs with
    | nil => exact fun _ => rfl
    | cons header hs ih =>
      intro headerIndex
      have hcommands : (commandsOf header).length = header.items.length := List.length_map ..
      rw [parsedFrom, List.map_cons, List.sum_cons, ih, List.flatMap_cons, List.length_append,
        hcommands]
      rfl
  unfold commandCount
  rw [h]
  exact hsum hs 0

/-- A request that does not fit or does not parse records nothing. -/
theorem control_handleSelect_refused (params : OutstationParams) (env : Env) (seq : Fin 16)
    (objects : List UInt8) (w : HeaderWriter) (st : Station)
    (h : objects.length ≤ w.remaining →
      ∀ calls, parse .Default (fun _ => isAllowedCommand) objects ≠ .ok calls) :
    (handleSelect params env seq objects w st).1.control = st.control := by
  unfold handleSelect
  split
  · rfl
  · rename_i hroom
    cases hparse : parse .Default (fun _ => isAllowedCommand) objects with
    | ok calls => exact absurd hparse (h (Nat.not_lt.mp hroom) calls)
    | error result =>
      have hrun : runCommands env params.maxControlsPerRequest (.adapter true) objects
          (.start st (some w)) = .error result := by
        change (parse .Default (fun _ => isAllowedCommand) objects >>= _) = _
        rw [hparse]
        rfl
      rw [hrun]

/-- **A selection is recorded exactly when every command was answered with success**, unless the
    request has more commands than the maximum and those up to the maximum all succeed. -/
theorem select_recorded_iff (params : OutstationParams) (env : Env) (seq : Fin 16)
    (objects : List UInt8) (w : HeaderWriter) (st : Station)
    (hposition : w.position ≤ w.buffer.length) :
    (∀ control,
      (AllAnswered params env objects w →
        (handleSelect params env seq objects w (st.setControl control)).1.control =
          .select ⟨seq, env.now, objects⟩) ∧
      (¬AllAnswered params env objects w →
        (handleSelect params env seq objects w (st.setControl control)).1.control = control)) ↔
      ∀ hs, objects.length ≤ w.remaining →
        parse .Default (fun _ => isAllowedCommand) objects = .ok (parsedFrom 0 hs) →
        (hs.flatMap commandsOf).length ≤ params.maxControlsPerRequest ∨
          ∃ status ∈ answers env params.maxControlsPerRequest (.adapter true) []
            ((hs.flatMap commandsOf).take params.maxControlsPerRequest), status ≠ .SUCCESS := by
  have hparsed : ∀ hs, parse .Default (fun _ => isAllowedCommand) objects =
      .ok (parsedFrom 0 hs) ↔ objects = hs.flatMap CommandHeader.bytes :=
    fun hs => parse_eq_parsedFrom_iff fun _ => isAllowedCommand_iff
  constructor
  · intro hclaim hs hroom hparse
    by_contra hnot
    rw [not_or] at hnot
    obtain ⟨hmany, hsuccess⟩ := hnot
    have hfirst : ∀ status ∈ answers env params.maxControlsPerRequest (.adapter true) []
        ((hs.flatMap commandsOf).take params.maxControlsPerRequest), status = .SUCCESS := by
      intro status hmem
      by_contra hne
      exact hsuccess ⟨status, hmem, hne⟩
    have hnone : ¬AllAnswered params env objects w := by
      rintro ⟨-, hs', hparse', hall⟩
      rw [hparse] at hparse'
      obtain rfl := parsedFrom_inj (Except.ok.inj hparse')
      exact hmany ((all_success_iff _).mp hall).2
    -- the selection is there although the control state had none
    have hcontrol := (hclaim .fresh).2 hnone
    obtain rfl := (hparsed hs).mp hparse
    rw [control_handleSelect params env seq hs _ hposition hroom, if_pos hfirst] at hcontrol
    have hselected : true = false := congrArg ControlState.selected hcontrol
    cases hselected
  · intro hcondition control
    refine ⟨?_, fun hnone => ?_⟩
    · rintro ⟨hroom, hs, hparse, hall⟩
      obtain rfl := (hparsed hs).mp hparse
      rw [control_handleSelect params env seq hs _ hposition hroom,
        if_pos ((all_success_iff _).mp hall).1]
    · by_cases hfits : objects.length ≤ w.remaining ∧
          ∃ calls, parse .Default (fun _ => isAllowedCommand) objects = .ok calls
      · obtain ⟨hroom, calls, hparse⟩ := hfits
        obtain ⟨hs, rfl, rfl⟩ := (parse_commands_iff fun _ => isAllowedCommand_iff).mp hparse
        rw [control_handleSelect params env seq hs _ hposition hroom, if_neg]
        · rfl
        · intro hfirst
          obtain hle | ⟨status, hmem, hne⟩ := hcondition hs hroom hparse
          · exact hnone ⟨hroom, hs, hparse, (all_success_iff _).mpr ⟨hfirst, hle⟩⟩
          · exact hne (hfirst status hmem)
      · refine control_handleSelect_refused params env seq objects w (st.setControl control) ?_
        exact fun hroom calls hparse => hfits ⟨hroom, calls, hparse⟩

namespace Sample

/-- An outstation that takes this many controls at a time. -/
def controlParams (maxControlsPerRequest : Nat) : OutstationParams :=
  ⟨maxControlsPerRequest, 1000, true, 249, false, false, true⟩

/-- Two control relay output blocks, for the indices 3 and 4. -/
def twoBlocks : List UInt8 :=
  [12, 1, 0x17, 2, 3, 1, 1, 1, 0, 0, 0, 1, 0, 0, 0, 0, 4, 1, 1, 1, 0, 0, 0, 1, 0, 0, 0, 0]

end Sample

/-- With one control at a time, both blocks are repeated. -/
theorem commands_echoed_twoBlocks :
    let w : HeaderWriter := ⟨List.replicate 249 0, 4⟩
    let st := (Sample.outstation 0 0 249 false).station
    ∃ hs : List CommandHeader, Sample.twoBlocks = hs.flatMap CommandHeader.bytes ∧
      [.indexed ⟨⟨12, 1⟩, 12, 1, .UINT8_CNT_UINT8_INDEX, 0⟩
        [(3, [1, 1, 1, 0, 0, 0, 1, 0, 0, 0, 0]), (4, [1, 1, 1, 0, 0, 0, 1, 0, 0, 0, 0])]] =
          parsedFrom 0 hs ∧
      (∃ response, EchoedWith hs
          (answers (Sample.env 0) 1 (.adapter true) [] (hs.flatMap commandsOf)) response ∧
        Appends w response
          (handleSelect (Sample.controlParams 1) (Sample.env 0) 0 Sample.twoBlocks w st).2.1) ∧
      (∃ response, EchoedWith hs
          (answers (Sample.env 0) 1 (operateAction (Sample.controlParams 1) (Sample.env 0) 0
            Sample.twoBlocks st) [] (hs.flatMap commandsOf)) response ∧
        Appends w response
          (handleOperate (Sample.controlParams 1) (Sample.env 0) 0 Sample.twoBlocks w st).2.1) ∧
      ∃ response w', EchoedWith hs
          (answers (Sample.env 0) 1 (.adapter false) [] (hs.flatMap commandsOf)) response ∧
        (handleDirectOperate (Sample.controlParams 1) (Sample.env 0) 0 .DirectOperate
          Sample.twoBlocks (some w) st).2.1 = some w' ∧
        Appends w response w' :=
  commands_echoed (Sample.controlParams 1) (Sample.env 0) 0 Sample.twoBlocks
    [.indexed ⟨⟨12, 1⟩, 12, 1, .UINT8_CNT_UINT8_INDEX, 0⟩
      [(3, [1, 1, 1, 0, 0, 0, 1, 0, 0, 0, 0]), (4, [1, 1, 1, 0, 0, 0, 1, 0, 0, 0, 0])]]
    ⟨List.replicate 249 0, 4⟩ (Sample.outstation 0 0 249 false).station .DirectOperate
    (by decide +kernel) (by decide +kernel) (by decide +kernel)

/-- With one control at a time, the second of two blocks is refused and the selection is recorded
    all the same. -/
theorem select_recorded_beyond_maximum :
    (handleSelect (Sample.controlParams 1) (Sample.env 0) 0 Sample.twoBlocks
        ⟨List.replicate 249 0, 4⟩ (Sample.outstation 0 0 249 false).station).1.control =
        .select ⟨0, 0, Sample.twoBlocks⟩ ∧
      ¬AllAnswered (Sample.controlParams 1) (Sample.env 0) Sample.twoBlocks
        ⟨List.replicate 249 0, 4⟩ := by
  refine ⟨by decide +kernel, ?_⟩
  rintro ⟨-, hs, hparse, hall⟩
  have htwo : commandCount Sample.twoBlocks = 2 := by decide +kernel
  have hle := ((all_success_iff _).mp hall).2
  rw [← commandCount_eq hparse, htwo] at hle
  exact absurd hle (by decide)

/-- The header that these bytes are. -/
def Sample.twoBlocksHeader : CommandHeader where
  gv := ⟨12, 1⟩
  indexType := .U8
  items := [(3, [1, 1, 1, 0, 0, 0, 1, 0, 0, 0, 0]), (4, [1, 1, 1, 0, 0, 0, 1, 0, 0, 0, 0])]
  known := by decide
  fit := by
    unfold ItemsFit
    decide
  ne_nil := by decide
  length_le := by decide

/-- With two controls at a time there is nothing beyond the maximum. -/
theorem select_recorded_within_maximum :
    AllAnswered (Sample.controlParams 2) (Sample.env 0) Sample.twoBlocks
        ⟨List.replicate 249 0, 4⟩ ∧
      (handleSelect (Sample.controlParams 2) (Sample.env 0) 0 Sample.twoBlocks
        ⟨List.replicate 249 0, 4⟩
        ((Sample.outstation 0 0 249 false).station.setControl .fresh)).1.control =
          .select ⟨0, 0, Sample.twoBlocks⟩ := by
  have hcondition : ∀ hs, Sample.twoBlocks.length ≤
      HeaderWriter.remaining ⟨List.replicate 249 0, 4⟩ →
      parse .Default (fun _ => isAllowedCommand) Sample.twoBlocks = .ok (parsedFrom 0 hs) →
      (hs.flatMap commandsOf).length ≤ 2 ∨
        ∃ status ∈ answers (Sample.env 0) 2 (.adapter true) []
          ((hs.flatMap commandsOf).take 2), status ≠ .SUCCESS := by
    intro hs _ hparse
    rw [← commandCount_eq hparse]
    exact .inl (by decide +kernel)
  have hall : AllAnswered (Sample.controlParams 2) (Sample.env 0) Sample.twoBlocks
      ⟨List.replicate 249 0, 4⟩ :=
    ⟨by decide +kernel, [Sample.twoBlocksHeader], by decide +kernel, by decide +kernel⟩
  have hrecorded := (select_recorded_iff (Sample.controlParams 2) (Sample.env 0) 0
    Sample.twoBlocks ⟨List.replicate 249 0, 4⟩ (Sample.outstation 0 0 249 false).station
    (by decide +kernel)).mpr hcondition .fresh
  exact ⟨hall, hrecorded.1 hall⟩

end OpenDnp3.Outstation
