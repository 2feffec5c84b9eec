import OpenDnp3.Outstation.Handlers

/-!
# What handlers of requests can do

Most of what a request makes the station do concerns neither the exchange of fragments nor the
selection of controls: new events go into the event buffer, points change, the application is
called.  `Background` says what such work leaves alone, whatever handler did it.
-/

namespace OpenDnp3.Outstation

open App

/-! ## Selections of the database -/

namespace StaticDataMap

variable {S : Spec}

theorem selected_modify (setFlags : S.Meas → UInt8 → S.Meas) (m : StaticDataMap S)
    (start stop : Nat) (flags : UInt8) :
    (m.modify setFlags start stop flags).1.selected = m.selected := by
  unfold modify
  split
  · rfl
  · -- the loop only updates points
    refine List.foldlRecOn
      (motive := fun acc : StaticDataMap S × List (Event S) => acc.1.selected = m.selected)
      _ _ rfl ?_
    intro acc hacc p _
    exact (acc.1.selected_update _ _ _).trans hacc

end StaticDataMap

namespace Database

/-- No point is selected that was not selected before. -/
def NoNewSelection (db db' : Database) : Prop :=
  db'.hasAnySelection = true → db.hasAnySelection = true

theorem NoNewSelection.of_eq {db db' : Database}
    (h : db'.hasAnySelection = db.hasAnySelection) : NoNewSelection db db' :=
  fun hany => h ▸ hany

/-- Which updates freeze counters. -/
def Update.isFreeze : Update → Bool
  | .freezeCounter .. => true
  | _ => false

variable (db : Database)

theorem hasAnySelection_modify (type : FlagsType) (start stop : Nat) (flags : UInt8) :
    (db.modify type start stop flags).1.hasAnySelection = db.hasAnySelection := by
  cases type <;>
    simp only [modify, hasAnySelection, StaticDataMap.hasAnySelection, setCounter,
      setFrozenCounter, StaticDataMap.selected_modify]

/-- Only a freeze has anything to do with selections. -/
theorem hasAnySelection_apply {db : Database} {now : DNPTime} {update : Update}
    (h : update.isFreeze = false) : (db.apply now update).1.hasAnySelection = db.hasAnySelection := by
  cases update with
  | freezeCounter => cases h
  | modify type start stop flags => exact db.hasAnySelection_modify type start stop flags
  | timeAndInterval meas index =>
    have hselected : (db.time_and_interval.updateTimeAndInterval meas index).1.selected =
        db.time_and_interval.selected := by
      unfold StaticDataMap.updateTimeAndInterval
      split <;> rfl
    simp only [apply, hasAnySelection, StaticDataMap.hasAnySelection, hselected]
  | _ =>
    simp only [apply, hasAnySelection, StaticDataMap.hasAnySelection, setCounter,
      StaticDataMap.selected_update]

/-- A frozen counter that is selected after freezing was selected before. -/
theorem Frozen.selected_frozen {clear : Bool} {mode : EventMode} {now : DNPTime}
    {db db' : Database} (h : Frozen clear mode now db db')
    (hany : db'.frozen_counter.hasAnySelection = true) :
    db.frozen_counter.hasAnySelection = true := by
  rw [StaticDataMap.hasAnySelection_iff] at hany ⊢
  obtain ⟨i, c', hfind, hselected⟩ := hany
  rw [h.frozen, Option.map_eq_some_iff] at hfind
  obtain ⟨c, hc, rfl⟩ := hfind
  refine ⟨i, c, hc, ?_⟩
  unfold freezeFrozenCell at hselected
  split at hselected
  · split at hselected <;> exact hselected
  · exact hselected

/-- Freezing uses up the selection of the counters and leaves the others alone. -/
theorem noNewSelection_freezeSelectedCounters (counter : StaticDataMap CounterSpec) (clear : Bool)
    (mode : EventMode) (now : DNPTime) :
    NoNewSelection db ((db.setCounter counter).freezeSelectedCounters clear mode now).1 := by
  have hfrozen := frozen_freezeSelectedCounters clear mode now (db.setCounter counter)
  have hcounter := not_selected_freezeSelectedCounters clear mode now (db.setCounter counter)
  generalize ((db.setCounter counter).freezeSelectedCounters clear mode now).1 = db'
    at hfrozen hcounter ⊢
  intro hany
  have helsewhere := hfrozen.elsewhere
  have hbinary : db'.binary_input = db.binary_input := (congrArg binary_input helsewhere :)
  have hdouble : db'.double_binary = db.double_binary := (congrArg double_binary helsewhere :)
  have hanalog : db'.analog_input = db.analog_input := (congrArg analog_input helsewhere :)
  have hoStatus : db'.binary_output_status = db.binary_output_status :=
    (congrArg binary_output_status helsewhere :)
  have hao : db'.analog_output_status = db.analog_output_status :=
    (congrArg analog_output_status helsewhere :)
  have htime : db'.time_and_interval = db.time_and_interval := (congrArg time_and_interval helsewhere :)
  have hoctets : db'.octet_string = db.octet_string := (congrArg octet_string helsewhere :)
  have hselected : db'.frozen_counter.hasAnySelection = true →
      db.frozen_counter.hasAnySelection = true := hfrozen.selected_frozen
  simp only [hasAnySelection, hbinary, hdouble, hanalog, hoStatus, hao, htime, hoctets, hcounter,
    Bool.or_eq_true, Bool.or_false] at hany ⊢
  tauto

theorem noNewSelection_apply (now : DNPTime) (update : Update) :
    NoNewSelection db (db.apply now update).1 := by
  by_cases hfreeze : update.isFreeze = true
  · cases update with
    | freezeCounter index clear mode =>
      exact db.noNewSelection_freezeSelectedCounters _ clear mode now
    | _ => cases hfreeze
  · exact .of_eq (hasAnySelection_apply (Bool.eq_false_iff.mpr hfreeze))

theorem hasAnySelection_assignWith {assign : Assigner}
    (h : ∀ S m, (assign S m).1.selected = m.selected) (type : AssignClassType) :
    (db.assignWith assign type).1.hasAnySelection = db.hasAnySelection := by
  cases type <;>
    simp only [assignWith, hasAnySelection, StaticDataMap.hasAnySelection, setCounter,
      setFrozenCounter, h]

theorem hasAnySelection_assignClassToAll (type : AssignClassType) (clazz : PointClass) :
    (db.assignClassToAll type clazz).1.hasAnySelection = db.hasAnySelection :=
  db.hasAnySelection_assignWith (fun _ _ => rfl) type

theorem hasAnySelection_assignClassToRange (type : AssignClassType) (clazz : PointClass)
    (range : Range) :
    (db.assignClassToRange type clazz range).1.hasAnySelection = db.hasAnySelection :=
  db.hasAnySelection_assignWith (fun _ _ => rfl) type

end Database

/-! ## Background work -/

/-- Actions that concern neither the exchange of fragments, nor the contents of the event
    buffer, nor the selection of controls. -/
def Action.isQuiet : Action → Bool
  | .file _ | .writeAbsoluteTime _ | .writeTimeAndInterval _ | .recordClassAssignment ..
  | .restart _ => true
  | .operate type _ _ => type != .SelectBeforeOperate
  | _ => false

namespace Station

/-- A change that the events, the selection of controls and the log hardly notice. -/
structure Quiet (st st' : Station) : Prop where
  lists : st'.eventBuffer.lists = st.eventBuffer.lists
  control : st'.control = st.control
  log : ∃ actions, st'.log = st.log ++ actions ∧ ∀ a ∈ actions, a.isQuiet = true
  selection : st.database.NoNewSelection st'.database

inductive BackgroundStep : Station → Station → Prop where
  | feed (st : Station) (event : AnyEvent) : BackgroundStep st (st.feed event)
  | quiet {st st' : Station} (h : Quiet st st') : BackgroundStep st st'

/-- Any number of new events and quiet changes. -/
abbrev Background : Station → Station → Prop := Relation.ReflTransGen BackgroundStep

theorem Quiet.background {st st' : Station} (h : Quiet st st') : Background st st' :=
  .single (.quiet h)

/-- Any number of quiet changes that leave the event buffer alone. -/
abbrev Calm : Station → Station → Prop :=
  Relation.ReflTransGen fun st st' => Quiet st st' ∧ st'.eventBuffer = st.eventBuffer

theorem Calm.background {st st' : Station} (h : Calm st st') : Background st st' :=
  h.lift id fun _ _ hstep => .quiet hstep.1

theorem Calm.eventBuffer {st st' : Station} (h : Calm st st') :
    st'.eventBuffer = st.eventBuffer := by
  induction h with
  | refl => rfl
  | tail _ hlast ih => exact hlast.2.trans ih

theorem Quiet.calm {st st' : Station} (h : Quiet st st')
    (hbuffer : st'.eventBuffer = st.eventBuffer) : Calm st st' :=
  .single ⟨h, hbuffer⟩

/-- A change of the members that `Quiet` does not mention. -/
theorem Quiet.of_eq {st st' : Station} (hlists : st'.eventBuffer.lists = st.eventBuffer.lists)
    (hcontrol : st'.control = st.control) (hlog : st'.log = st.log)
    (hdatabase : st'.database = st.database) : Quiet st st' where
  lists := hlists
  control := hcontrol
  log := ⟨[], by rw [hlog, List.append_nil], by simp⟩
  selection := by rw [hdatabase]; exact id

theorem quiet_setDatabase {st : Station} {db : Database} (h : st.database.NoNewSelection db) :
    Quiet st (st.setDatabase db) where
  lists := rfl
  control := rfl
  log := ⟨[], (List.append_nil _).symm, by simp⟩
  selection := h

theorem quiet_record {st : Station} {actions : List Action}
    (h : ∀ a ∈ actions, a.isQuiet = true) : Quiet st (st.record actions) where
  lists := rfl
  control := rfl
  log := ⟨actions, rfl, h⟩
  selection := id

theorem quiet_record_one {st : Station} {a : Action} (h : a.isQuiet = true) :
    Quiet st (st.record [a]) :=
  quiet_record fun b hb => by rwa [List.mem_singleton.mp hb]

variable (st : Station)

theorem quiet_setStaticIIN (iin : IINField) : Quiet st (st.setStaticIIN iin) :=
  .of_eq rfl rfl rfl rfl

theorem quiet_setTime (time : TimeSyncState) : Quiet st (st.setTime time) :=
  .of_eq rfl rfl rfl rfl

theorem quiet_setUnsolClassMask (mask : ClassField) : Quiet st (st.setUnsolClassMask mask) :=
  .of_eq rfl rfl rfl rfl

theorem quiet_setShouldCheck (b : Bool) : Quiet st (st.setShouldCheck b) :=
  .of_eq rfl rfl rfl rfl

theorem background_feedAll (events : List AnyEvent) : Background st (st.feedAll events) := by
  induction events generalizing st with
  | nil => exact .refl
  | cons event events ih => exact .head (.feed st event) (ih _)

theorem background_applyUpdate (now : DNPTime) (update : Database.Update) :
    Background st (st.applyUpdate now update) :=
  (quiet_setDatabase (st.database.noNewSelection_apply now update)).background.trans
    (background_feedAll _ _)

theorem background_applyUpdates (now : DNPTime) (updates : List Database.Update) :
    Background st (st.applyUpdates now updates) := by
  induction updates generalizing st with
  | nil => exact .refl
  | cons update updates ih => exact (st.background_applyUpdate now update).trans (ih _)

end Station

open Station

/-! ## The handlers -/

variable {objects : List UInt8}

/-- **Rule for handlers of objects**: a handler whose callbacks do steps of one kind does steps of
    this kind, whether the objects parse or not. -/
theorem steps_iinOf {σ : Type} {R : Station → Station → Prop} (station : σ → Station)
    {handler : APDUHandler σ} {settings : ParserSettings} (s : σ)
    (step : ∀ s n header, header.IsAllowed handler.isAllowed →
      Relation.ReflTransGen R (station s) (station (handler.processHeader s n header).1)) :
    Relation.ReflTransGen R (station s)
      (station (iinOf s (handleObjects handler settings objects s)).1) := by
  cases h : handleObjects handler settings objects s with
  | error result => exact .refl
  | ok result =>
    refine handleObjects_invariant
      (P := fun t => Relation.ReflTransGen R (station s) (station t)) ?_ .refl h
    intro t n header hallowed ht
    exact ht.trans (step t n header hallowed)

variable (params : OutstationParams) (env : Env) (seq : Fin 16) (function : FunctionCode)

theorem calm_writeTime (run : WriteRun) (time : Nat) :
    Calm run.station (run.writeTime env time).1.station :=
  (quiet_record_one rfl).calm rfl

theorem calm_writeHandler (run : WriteRun) (n : Nat) (header : ParsedHeader) :
    Calm run.station ((writeHandler env seq).processHeader run n header).1.station := by
  unfold writeHandler
  dsimp only
  -- by the kind of header; each write hands on a time or clears the restart bit
  split
  · split
    · unfold WriteRun.writeIIN
      split
      · split
        · exact (quiet_setStaticIIN run.station _).calm rfl
        · exact .refl
      · exact .refl
    · exact .refl
  · split
    · unfold WriteRun.writeAbsoluteTime
      split
      · exact .refl
      · split
        · exact .refl
        · split
          · exact calm_writeTime env run _
          · exact .refl
    · split
      · unfold WriteRun.writeRecordedTime
        split
        · exact .refl
        · split
          · exact .refl
          · split
            · split
              · exact .refl
              · rename_i sync _
                exact ((quiet_setTime run.station sync).calm rfl).trans
                  (calm_writeTime env ⟨run.station.setTime sync, _, _⟩ _)
            · exact .refl
      · exact .refl
  · split
    · unfold WriteRun.writeTimeAndInterval
      split
      · exact .refl
      · exact (quiet_record_one rfl).calm rfl
    · exact .refl
  · exact .refl

/-- Writing times and indications does not touch the events. -/
theorem calm_handleWrite (objects : List UInt8) (st : Station) :
    Calm st (handleWrite env seq objects st).1 :=
  steps_iinOf WriteRun.station ⟨st, false, false⟩
    fun run n header _ => calm_writeHandler env seq run n header

theorem calm_assigned {run : AssignRun} {type : Database.AssignClassType} {db : Database}
    (actual : Range) (h : db.hasAnySelection = run.station.database.hasAnySelection) :
    Calm run.station (run.assigned type db actual).station := by
  have hdatabase : Quiet run.station (run.station.setDatabase db) := quiet_setDatabase (.of_eq h)
  unfold AssignRun.assigned
  split
  · exact (hdatabase.calm rfl).trans ((quiet_record_one rfl).calm rfl)
  · exact hdatabase.calm rfl

theorem calm_assignClassHandler (run : AssignRun) (n : Nat) (header : ParsedHeader) :
    Calm run.station (assignClassHandler.processHeader run n header).1.station := by
  unfold assignClassHandler
  dsimp only
  split
  · split
    · split
      · exact calm_assigned _ (Database.hasAnySelection_assignClassToAll _ _ _)
      · exact .refl
    · unfold AssignRun.recordClass
      split <;> exact .refl
  · split
    · split
      · exact calm_assigned _ (Database.hasAnySelection_assignClassToRange _ _ _ _)
      · exact .refl
    · exact .refl
  · exact .refl

/-- Neither does the assignment of classes. -/
theorem calm_handleAssignClass (objects : List UInt8) (st : Station) :
    Calm st (handleAssignClass env objects st).1 := by
  unfold handleAssignClass
  split
  · exact steps_iinOf AssignRun.station ⟨st, none, .Class0⟩
      fun run n header _ => calm_assignClassHandler run n header
  · exact .refl

theorem background_handleDisableUnsolicited (objects : List UInt8) (st : Station) :
    Background st (handleDisableUnsolicited objects st).1 := by
  unfold handleDisableUnsolicited
  split
  · exact (quiet_setUnsolClassMask st _).background
  · exact .refl

theorem background_handleEnableUnsolicited (objects : List UInt8) (st : Station) :
    Background st (handleEnableUnsolicited objects st).1 := by
  unfold handleEnableUnsolicited
  split
  · exact (quiet_setUnsolClassMask st _).background.trans (quiet_setShouldCheck _ true).background
  · exact .refl

theorem background_freezeRequestHandler (clear : Bool) (now : DNPTime) (st : Station) (n : Nat)
    (header : ParsedHeader)
    (hallowed : header.IsAllowed (freezeRequestHandler clear now).isAllowed) :
    Background st ((freezeRequestHandler clear now).processHeader st n header).1 := by
  -- the whitelist lets nothing but group 20 variation 0 through
  have hgroup : ∀ record ∈ header.record?, record.enumeration = ⟨20, 0⟩ := by
    intro record hrecord
    have h := hallowed record hrecord
    change FreezeRequestHandler.isAllowed record.enumeration record.qualifier = true at h
    unfold FreezeRequestHandler.isAllowed at h
    split at h
    · cases h
    · rename_i hgv
      exact not_not.mp hgv
  unfold freezeRequestHandler
  dsimp only
  split
  · rename_i record
    rw [hgroup record rfl]
    refine (quiet_setDatabase ?_).background.trans (background_feedAll _ _)
    exact st.database.noNewSelection_freezeSelectedCounters _ clear .Detect now
  · rename_i record range
    rw [hgroup record rfl]
    refine (quiet_setDatabase ?_).background.trans (background_feedAll _ _)
    exact st.database.noNewSelection_freezeSelectedCounters _ clear .Detect now
  · exact .refl

theorem background_handleFreeze (clear : Bool) (env : Env) (objects : List UInt8)
    (st : Station) : Background st (handleFreeze clear env objects st).1 := by
  have h : Background st (iinOf st (handleObjects (freezeRequestHandler clear env.timeSource)
      .NoContents objects st)).1 :=
    steps_iinOf id st (background_freezeRequestHandler clear env.timeSource)
  unfold handleFreeze
  cases hrun : handleObjects (freezeRequestHandler clear env.timeSource) .NoContents objects st with
  | error result => exact .refl
  | ok result =>
    rw [hrun] at h
    exact h

theorem background_handleRecordCurrentTime (st : Station) :
    Background st (handleRecordCurrentTime env seq st).1 :=
  (quiet_setTime st _).background

theorem background_handleRestart (warm : Bool) (objects : List UInt8) (w : HeaderWriter)
    (st : Station) : Background st (handleRestart env warm objects w st).1 := by
  unfold handleRestart
  split
  · dsimp only
    split
    · exact .refl
    · exact (quiet_record_one rfl).background
    · exact (quiet_record_one rfl).background
  · exact .refl

theorem background_recordFile (st : Station) (answer : FileAnswer) :
    Background st (recordFile st answer).1 := by
  refine (quiet_record ?_).background
  intro a ha
  obtain ⟨call, -, rfl⟩ := List.mem_map.mp ha
  rfl

/-! ## Commands -/

namespace CommandRun

section Rule

variable {env : Env} {maxCommands : Nat} {action : CommandAction} {P : CommandRun → Prop}
  (hwriter : ∀ run writer, P run → P { run with writer })
  (hcommand : ∀ run command, P run →
    P ((processCommand env maxCommands action run command).1.count
      (processCommand env maxCommands action run command).2))

include hwriter in
theorem write_invariant {e : Echo} (h : P e.run) (object : List UInt8) (index : Nat) :
    P (e.write object index).run := by
  unfold Echo.write
  split
  · split
    · exact hwriter e.run _ h
    · exact h
  · exact h

include hwriter hcommand

theorem respondToHeader_invariant {run : CommandRun} (h : P run) (record : HeaderRecord)
    (objects : List (Nat × List UInt8)) :
    P (respondToHeader env maxCommands action run record objects).1 := by
  have hstart : P (run.startEcho record).run := by
    unfold startEcho
    split
    · exact h
    · exact hwriter run _ h
  -- the loop over the commands of the header
  have hloop : ∀ (objects : List (Nat × List UInt8)) (e : Echo), P e.run →
      P (objects.foldl (respondToCommand env maxCommands action record.enumeration) e).run := by
    intro objects
    induction objects with
    | nil => exact fun e he => he
    | cons item objects ih =>
      intro e he
      exact ih _ (write_invariant hwriter (hcommand e.run _ he) _ _)
  have hend := hloop objects _ hstart
  unfold respondToHeader Echo.finish
  dsimp only
  split
  · exact hwriter _ _ hend
  · exact hend

/-- **Rule for commands**: what the writer does not matter for and every command keeps, the
    request keeps. -/
theorem runCommands_invariant {run run' : CommandRun} {iin : IINField} (h : P run)
    (hrun : runCommands env maxCommands action objects run = .ok (run', iin)) : P run' := by
  refine handleObjects_invariant ?_ h hrun
  intro run n header _ hP
  unfold commandResponseHandler
  dsimp only
  split
  · exact respondToHeader_invariant hwriter hcommand hP _ _
  · exact hP

end Rule

theorem background_processCommand (env : Env) (maxCommands : Nat) (action : CommandAction)
    (run : CommandRun) (command : Command) :
    Background run.station (processCommand env maxCommands action run command).1.station := by
  unfold processCommand
  split
  · unfold doAction
    split
    · exact .refl
    · split
      · exact .refl
      · unfold callHandler
        split
        · exact .refl
        · exact background_applyUpdates _ _ _
  · exact .refl

variable {maxCommands : Nat} {action : CommandAction} {run run' : CommandRun}

variable {env : Env}

/-- Only operating reaches the update interface. -/
theorem station_processCommand (h : action ≠ .adapter false) (run : CommandRun)
    (command : Command) :
    (processCommand env maxCommands action run command).1.station = run.station := by
  unfold processCommand
  split
  · unfold doAction
    split
    · rfl
    · split
      · rfl
      · rename_i isSelect _
        cases isSelect with
        | false => exact absurd rfl h
        | true => rfl
  · rfl

theorem background_runCommands {iin : IINField}
    (h : runCommands env maxCommands action objects run = .ok (run', iin)) :
    Background run.station run'.station := by
  refine runCommands_invariant (P := fun r => Background run.station r.station) ?_ ?_ .refl h
  · exact fun _ _ hr => hr
  · exact fun r command hr => hr.trans (background_processCommand env maxCommands action r command)

theorem station_runCommands {iin : IINField} (haction : action ≠ .adapter false)
    (h : runCommands env maxCommands action objects run = .ok (run', iin)) :
    run'.station = run.station := by
  refine runCommands_invariant (P := fun r => r.station = run.station) ?_ ?_ rfl h
  · exact fun _ _ hr => hr
  · exact fun r command hr => (station_processCommand haction r command).trans hr

/-- How the counters of the handler go with the statuses: a command beyond the maximum has a
    status but is not counted. -/
structure Counted (maxCommands : Nat) (run : CommandRun) : Prop where
  success : run.numSuccess = run.statuses.count .SUCCESS
  requests : run.numRequests = min maxCommands run.statuses.length

theorem counted_start (maxCommands : Nat) (st : Station) (w : Option HeaderWriter) :
    Counted maxCommands (.start st w) := ⟨rfl, (Nat.min_zero _).symm⟩

theorem Counted.count (h : Counted maxCommands run)
    (hsuccess : run'.numSuccess = run.numSuccess) (hstatuses : run'.statuses = run.statuses)
    (hrequests : run'.numRequests = run.numRequests + 1 ∧ run.numRequests < maxCommands ∨
      run'.numRequests = run.numRequests ∧ maxCommands ≤ run.numRequests)
    (status : CommandStatus) : Counted maxCommands (run'.count status) where
  success := by
    simp only [CommandRun.count, List.count_append, List.count_singleton, hsuccess, hstatuses,
      h.success]
    by_cases hs : status = .SUCCESS <;> simp [hs]
  requests := by
    have hmin := h.requests
    simp only [CommandRun.count, List.length_append, List.length_singleton, hstatuses]
    omega

theorem counted_processCommand (h : Counted maxCommands run) (command : Command) :
    Counted maxCommands ((processCommand env maxCommands action run command).1.count
      (processCommand env maxCommands action run command).2) := by
  unfold processCommand
  split
  · rename_i hlt
    have hcount : ∀ run' : CommandRun, run'.numSuccess = run.numSuccess →
        run'.statuses = run.statuses → run'.numRequests = run.numRequests + 1 →
        ∀ status, Counted maxCommands (run'.count status) :=
      fun run' hsuccess hstatuses hrequests =>
        h.count hsuccess hstatuses (.inl ⟨hrequests, hlt⟩)
    unfold doAction
    split
    · apply hcount <;> rfl
    · split <;> apply hcount <;> rfl
  · rename_i hge
    exact h.count rfl rfl (.inr ⟨rfl, Nat.le_of_not_lt hge⟩) _

theorem statuses_processCommand (env : Env) (maxCommands : Nat) (action : CommandAction)
    (run : CommandRun) (command : Command) :
    (processCommand env maxCommands action run command).1.statuses = run.statuses := by
  unfold processCommand
  split
  · unfold doAction
    split
    · rfl
    · split <;> rfl
  · rfl

theorem statuses_write (e : Echo) (object : List UInt8) (index : Nat) :
    (e.write object index).run.statuses = e.run.statuses :=
  write_invariant (P := fun run => run.statuses = e.run.statuses) (fun _ _ h => h) rfl object index

theorem length_respondToHeader (env : Env) (maxCommands : Nat) (action : CommandAction)
    (run : CommandRun) (record : HeaderRecord) (objects : List (Nat × List UInt8)) :
    (respondToHeader env maxCommands action run record objects).1.statuses.length =
      run.statuses.length + objects.length := by
  have hloop : ∀ (objects : List (Nat × List UInt8)) (e : Echo),
      (objects.foldl (respondToCommand env maxCommands action record.enumeration)
        e).run.statuses.length = e.run.statuses.length + objects.length := by
    intro objects
    induction objects with
    | nil => exact fun e => rfl
    | cons item objects ih =>
      intro e
      rw [List.foldl_cons, ih]
      simp only [respondToCommand, statuses_write, CommandRun.count, List.length_append,
        statuses_processCommand, List.length_cons, List.length_nil]
      omega
  have hstart : (run.startEcho record).run.statuses = run.statuses := by
    unfold startEcho
    split <;> rfl
  have hfinish : ∀ e : Echo, e.finish.statuses = e.run.statuses := by
    intro e
    unfold Echo.finish
    split <;> rfl
  change (Echo.finish _).statuses.length = _
  rw [hfinish, hloop, hstart]

/-- When no command is beyond the maximum, success of all that were counted is success of
    all. -/
theorem Counted.all_success (h : Counted maxCommands run)
    (hall : run.allCommandsSuccessful = true) (hmax : run.statuses.length ≤ maxCommands) :
    ∀ status ∈ run.statuses, status = .SUCCESS := by
  have heq : run.numRequests = run.numSuccess := beq_iff_eq.mp hall
  have hlength : run.statuses.count .SUCCESS = run.statuses.length := by
    rw [← h.success, ← heq, h.requests]
    exact Nat.min_eq_right hmax
  intro status hmem
  exact (List.count_eq_length.mp hlength status hmem).symm

end CommandRun

open CommandRun

/-- How many commands a callback hands on. -/
def commandsIn : ParsedHeader → Nat
  | .indexed _ objects => objects.length
  | _ => 0

/-- How many commands a request has. -/
def commandCount (objects : List UInt8) : Nat :=
  match parse .Default (fun _ gv qc => isAllowedCommand gv qc) objects with
  | .ok headers => (headers.map commandsIn).sum
  | .error _ => 0

/-- Every command gets a status. -/
theorem length_statuses_runCommands {env : Env} {maxCommands : Nat} {action : CommandAction}
    {run run' : CommandRun} {iin : IINField}
    (h : runCommands env maxCommands action objects run = .ok (run', iin)) :
    run'.statuses.length = run.statuses.length + commandCount objects := by
  -- one status for each command, header by header
  have hheader : ∀ (r : HandlerRun CommandRun) (header : ParsedHeader),
      (onHeader (commandResponseHandler env maxCommands action) r header).state.statuses.length =
        r.state.statuses.length + commandsIn header := by
    intro r header
    cases header with
    | indexed record objects => exact length_respondToHeader env maxCommands action _ record objects
    | _ => rfl
  have hloop : ∀ (headers : List ParsedHeader) (r : HandlerRun CommandRun),
      (headers.foldl (onHeader (commandResponseHandler env maxCommands action))
        r).state.statuses.length = r.state.statuses.length + (headers.map commandsIn).sum := by
    intro headers
    induction headers with
    | nil => exact fun r => rfl
    | cons header headers ih =>
      intro r
      rw [List.foldl_cons, ih, hheader, List.map_cons, List.sum_cons, Nat.add_assoc]
  unfold commandCount
  change (parse .Default (fun _ gv qc => isAllowedCommand gv qc) objects >>= _) = _ at h
  cases hparse : parse .Default (fun _ gv qc => isAllowedCommand gv qc) objects with
  | error e =>
    rw [hparse] at h
    cases h
  | ok headers =>
    rw [hparse] at h
    cases h
    exact hloop headers ⟨run, .empty, 0⟩

theorem background_handleDirectOperate {opType : OperateType}
    (htype : opType ≠ .SelectBeforeOperate) (objects : List UInt8) (w : Option HeaderWriter)
    (st : Station) : Background st (handleDirectOperate params env seq opType objects w st).1 := by
  unfold handleDirectOperate
  split
  · exact .refl
  · have hrecord : ∀ run : CommandRun, Background run.station
        ((run.station.record [.operate opType ⟨seq, env.now, objects⟩ run.calls]).setShouldCheck
          true) := by
      intro run
      refine (quiet_record_one ?_).background.trans (quiet_setShouldCheck _ true).background
      simpa [Action.isQuiet] using htype
    cases hrun : runCommands env params.maxControlsPerRequest (.adapter false) objects
        (.start st w) with
    | error result => exact hrecord (.start st w)
    | ok result => exact (background_runCommands hrun).trans (hrecord result.1)

theorem station_handleCommandWithConstant (objects : List UInt8) (w : HeaderWriter)
    (status : CommandStatus) (st : Station) :
    (handleCommandWithConstant params env objects w status st).1 = st := by
  unfold handleCommandWithConstant
  split
  · rename_i run iin hrun
    exact station_runCommands (by simp) hrun
  · rfl

/-! ## Requests -/

theorem background_processRequestNoAck (objects : List UInt8) (st : Station) :
    Background st (processRequestNoAck params env seq function objects st) := by
  unfold processRequestNoAck
  split
  · exact background_handleDirectOperate params env seq (by simp) objects none st
  · exact background_handleFreeze false env objects st
  · exact background_handleFreeze true env objects st
  · exact .refl

theorem background_processBroadcastRequest (objects : List UInt8) (st : Station) :
    Background st (processBroadcastRequest params env seq function objects st) := by
  unfold processBroadcastRequest
  split
  · exact (calm_handleWrite env seq objects st).background
  · exact background_processRequestNoAck params env seq _ objects st
  · exact background_processRequestNoAck params env seq _ objects st
  · exact background_processRequestNoAck params env seq _ objects st
  · exact (calm_handleAssignClass env objects st).background
  · split
    · exact .refl
    · exact background_handleRecordCurrentTime env seq st
  · split
    · exact background_handleDisableUnsolicited objects st
    · exact .refl
  · split
    · exact background_handleEnableUnsolicited objects st
    · exact .refl
  · exact .refl

/-- **What a request that is no READ does to the station**: background work, a SELECT with its
    outcome, an OPERATE that was carried out on a valid selection, or an OPERATE that was
    refused and lost the selection. -/
inductive Handled (params : OutstationParams) (now : Nat) (seq : Fin 16)
    (function : FunctionCode) (objects : List UInt8) (st : Station) : Station → Prop where
  | background {st' : Station} (h : Background st st') :
    Handled params now seq function objects st st'
  | select (statuses : List CommandStatus) (hfunction : function = .SELECT)
    (hlength : statuses.length = commandCount objects) :
    Handled params now seq function objects st
      (st.record [.select ⟨seq, now, objects⟩ statuses false])
  | selected (statuses : List CommandStatus) (hfunction : function = .SELECT)
    (hlength : statuses.length = commandCount objects)
    (hsuccess : statuses.length ≤ params.maxControlsPerRequest →
      ∀ status ∈ statuses, status = .SUCCESS) :
    Handled params now seq function objects st
      ((st.record [.select ⟨seq, now, objects⟩ statuses true]).setControl
        (.select ⟨seq, now, objects⟩))
  | operate {st₁ : Station} (calls : List Command) (hfunction : function = .OPERATE)
    (hvalid : st.control.validateSelection ⟨seq, now, objects⟩ params.selectTimeout = .SUCCESS)
    (h : Background st st₁) :
    Handled params now seq function objects st
      ((st₁.record [.operate .SelectBeforeOperate ⟨seq, now, objects⟩ calls]).setShouldCheck true)
  | refused (status : CommandStatus) (hfunction : function = .OPERATE) :
    Handled params now seq function objects st
      ((st.setControl st.control.unselect).record [.refused ⟨seq, now, objects⟩ status])

theorem handled_handleSelect (objects : List UInt8) (w : HeaderWriter) (st : Station) :
    Handled params env.now seq .SELECT objects st
      (handleSelect params env seq objects w st).1 := by
  unfold handleSelect
  split
  · exact .background .refl
  · cases hrun : runCommands env params.maxControlsPerRequest (.adapter true) objects
        (.start st (some w)) with
    | error result => exact .background .refl
    | ok result =>
      obtain ⟨run, errors⟩ := result
      have hstation : run.station = st := station_runCommands (by simp) hrun
      have hlength : run.statuses.length = commandCount objects := by
        rw [length_statuses_runCommands hrun]
        exact Nat.zero_add _
      have hcounted : Counted params.maxControlsPerRequest run :=
        runCommands_invariant (P := Counted params.maxControlsPerRequest)
          (fun _ _ h => ⟨h.success, h.requests⟩)
          (fun _ command h => counted_processCommand h command) (counted_start _ _ _) hrun
      dsimp only
      rw [hstation]
      split
      · rename_i hall
        rw [hall]
        exact .selected run.statuses rfl hlength (hcounted.all_success hall)
      · rename_i hall
        rw [Bool.eq_false_iff.mpr hall]
        exact .select run.statuses rfl hlength

theorem handled_handleOperate (objects : List UInt8) (w : HeaderWriter) (st : Station) :
    Handled params env.now seq .OPERATE objects st
      (handleOperate params env seq objects w st).1 := by
  unfold handleOperate
  split
  · exact .background .refl
  · dsimp only
    split
    · rename_i hvalid
      cases hrun : runCommands env params.maxControlsPerRequest (.adapter false) objects
          (.start st (some w)) with
      | error result => exact .operate [] rfl hvalid .refl
      | ok result => exact .operate result.1.calls rfl hvalid (background_runCommands hrun)
    · rw [station_handleCommandWithConstant]
      exact .refused _ rfl

/-- Every handler but those of SELECT and OPERATE works in the background. -/
theorem handled_handleNonReadResponse (objects : List UInt8) (w : HeaderWriter) (st : Station) :
    Handled params env.now seq function objects st
      (handleNonReadResponse params env seq function objects w st).1 := by
  cases function with
  | SELECT => exact handled_handleSelect params env seq objects w st
  | OPERATE => exact handled_handleOperate params env seq objects w st
  | WRITE =>
    apply Handled.background
    simp only [handleNonReadResponse]
    split
    · exact background_recordFile st _
    · exact (calm_handleWrite env seq objects st).background
  | DIRECT_OPERATE =>
    exact .background (background_handleDirectOperate params env seq (by simp) objects (some w) st)
  | COLD_RESTART => exact .background (background_handleRestart env false objects w st)
  | WARM_RESTART => exact .background (background_handleRestart env true objects w st)
  | ASSIGN_CLASS => exact .background (calm_handleAssignClass env objects st).background
  | RECORD_CURRENT_TIME =>
    apply Handled.background
    simp only [handleNonReadResponse]
    split
    · exact background_handleRecordCurrentTime env seq st
    · exact .refl
  | DISABLE_UNSOLICITED =>
    apply Handled.background
    simp only [handleNonReadResponse]
    split
    · exact background_handleDisableUnsolicited objects st
    · exact .refl
  | ENABLE_UNSOLICITED =>
    apply Handled.background
    simp only [handleNonReadResponse]
    split
    · exact background_handleEnableUnsolicited objects st
    · exact .refl
  | IMMED_FREEZE => exact .background (background_handleFreeze false env objects st)
  | FREEZE_CLEAR => exact .background (background_handleFreeze true env objects st)
  | OPEN_FILE | CLOSE_FILE | DELETE_FILE | GET_FILE_INFO | AUTHENTICATE_FILE | ABORT_FILE =>
    exact .background (background_recordFile st _)
  | _ => exact .background .refl

/-! ## The log -/

/-- What handlers and updates log, as opposed to the exchange of fragments. -/
def Action.isLocal : Action → Bool
  | .transmit .. | .response .. | .unsolicited .. | .confirm .. | .cleared .. | .confirmTimeout
  | .broadcast | .layerDown | .confirmProcessed .. => false
  | _ => true

theorem Action.isLocal_of_isQuiet {a : Action} (h : a.isQuiet = true) : a.isLocal = true := by
  cases a <;> first | rfl | cases h

namespace Station

/-- The log goes on, with actions of one kind only. -/
def Logs (p : Action → Prop) (st st' : Station) : Prop :=
  ∃ actions, st'.log = st.log ++ actions ∧ ∀ a ∈ actions, p a

namespace Logs

variable {p q : Action → Prop} {st st' st'' : Station}

theorem of_log (h : st'.log = st.log) : Logs p st st' := ⟨[], by simp [h], by simp⟩

theorem refl (st : Station) : Logs p st st := of_log rfl

theorem trans (h : Logs p st st') (h' : Logs p st' st'') : Logs p st st'' := by
  obtain ⟨first, hfirst, hp⟩ := h
  obtain ⟨second, hsecond, hp'⟩ := h'
  refine ⟨first ++ second, by rw [hsecond, hfirst, List.append_assoc], ?_⟩
  intro a ha
  rcases List.mem_append.mp ha with ha | ha
  · exact hp a ha
  · exact hp' a ha

theorem record {a : Action} (h : p a) : Logs p st (st.record [a]) := ⟨[a], rfl, by simpa using h⟩

theorem mono (hpq : ∀ a, p a → q a) (h : Logs p st st') : Logs q st st' := by
  obtain ⟨actions, hlog, hp⟩ := h
  exact ⟨actions, hlog, fun a ha => hpq a (hp a ha)⟩

end Logs

variable {st st' : Station}

/-- No background work logs an exchange of fragments. -/
theorem logs_background (h : Background st st') : Logs (·.isLocal = true) st st' := by
  induction h with
  | refl => exact .refl st
  | tail _ hstep ih =>
    refine ih.trans ?_
    cases hstep with
    | feed event =>
      refine ⟨_, rfl, fun a ha => ?_⟩
      unfold evictions at ha
      split at ha
      · cases ha
      · rw [List.mem_singleton.mp ha]
        rfl
    | quiet h =>
      obtain ⟨actions, hlog, hactions⟩ := h.log
      exact ⟨actions, hlog, fun a ha => Action.isLocal_of_isQuiet (hactions a ha)⟩

theorem logs_handled {params : OutstationParams} {now : Nat} {seq : Fin 16}
    {function : FunctionCode} (h : Handled params now seq function objects st st') :
    Logs (·.isLocal = true) st st' := by
  cases h with
  | background h => exact logs_background h
  | select => exact .record rfl
  | selected statuses =>
    have hselect : Logs (·.isLocal = true) st
        (st.record [.select ⟨seq, now, objects⟩ statuses true]) := .record rfl
    exact hselect.trans (.of_log rfl)
  | @operate st₁ calls _ _ h =>
    have hoperate : Logs (·.isLocal = true) st₁
        (st₁.record [.operate .SelectBeforeOperate ⟨seq, now, objects⟩ calls]) := .record rfl
    exact ((logs_background h).trans hoperate).trans (.of_log rfl)
  | refused =>
    have hcontrol : Logs (·.isLocal = true) st (st.setControl st.control.unselect) := .of_log rfl
    exact hcontrol.trans (.record rfl)

end Station

/-! ## READ -/

/-- A READ selects in the event buffer and does nothing else to it. -/
theorem eventBuffer_readHandler {P : EventBuffer → Prop}
    (hselect : ∀ b gv maximum, P b → P (b.selectMaxCount gv maximum).1)
    {settings : ParserSettings} {db db' : Database} {b b' : EventBuffer} {iin : IINField} (h : P b)
    (hrun : handleObjects readHandler settings objects (db, b) = .ok ((db', b'), iin)) : P b' := by
  refine handleObjects_invariant (P := fun st => P st.2) ?_ h hrun
  intro st n header _ hst
  unfold readHandler
  cases header with
  | allObjects record =>
    dsimp only
    split
    · exact hst
    · exact hselect st.2 record.enumeration EventBuffer.MAX hst
    · exact hst
  | count record count => exact hselect st.2 record.enumeration count hst
  | _ => exact hst

end OpenDnp3.Outstation
