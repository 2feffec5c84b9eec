import OpenDnp3.Lib.Machine
import OpenDnp3.Lib.SortedAssoc

/-!
# The users an outstation knows

The table is a map from user numbers to users, which a scan visits in the order of the numbers.
Lookups go by number or by name.  Removal goes by name and ends at the first match, so a name that
stands under two numbers keeps one of them.
-/

namespace OpenDnp3.SecAuth

open Lib

/-- `KeyWrapAlgorithm`. -/
inductive KeyWrapAlgorithm
  | AES_128
  | AES_256
  | UNDEFINED
  deriving DecidableEq, Repr

/-- `UpdateKey::GetKeyWrapAlgorithm`: the size of a key decides. -/
def getKeyWrapAlgorithm (size : Nat) : KeyWrapAlgorithm :=
  if size = 16 then .AES_128 else if size = 32 then .AES_256 else .UNDEFINED

/-- `UpdateKey`: a key of a size that has no algorithm is stored as no bytes. -/
structure UpdateKey where
  data : List UInt8
  sized : data = [] ∨ getKeyWrapAlgorithm data.length ≠ .UNDEFINED
  deriving DecidableEq

namespace UpdateKey

def algorithm (key : UpdateKey) : KeyWrapAlgorithm := getKeyWrapAlgorithm key.data.length

/-- `UpdateKey::IsValid`. -/
def isValid (key : UpdateKey) : Bool := key.algorithm != .UNDEFINED

end UpdateKey

/-- `OutstationUserInfo`; the role by its code, the permissions by their bits. -/
structure OutstationUserInfo where
  userNum : UInt16
  userName : List UInt8
  role : UInt16
  roleExpDays : UInt16
  updateKey : UpdateKey
  permissions : UInt64
  deriving DecidableEq

/-- `OutstationUserDatabase`: the map `users` in the order its iterators visit it. -/
structure OutstationUserDatabase where
  users : List (Nat × OutstationUserInfo)
  sorted : KeySorted users
  keyed : ∀ p ∈ users, p.1 = p.2.userNum.toNat

namespace OutstationUserDatabase

def empty : OutstationUserDatabase where
  users := []
  sorted := List.Pairwise.nil
  keyed _ h := absurd h List.not_mem_nil

variable (db : OutstationUserDatabase)

/-- `OutstationUserDatabase::FindByUserNum`. -/
def findByUserNum (userNum : UInt16) : Option OutstationUserInfo :=
  db.users.lookup userNum.toNat

/-- `OutstationUserDatabase::FindByUserName`: the first match of the scan. -/
def findByUserName (userName : List UInt8) : Option OutstationUserInfo :=
  (db.users.find? fun p => p.2.userName == userName).map Prod.snd

/-- `OutstationUserDatabase::AddOrUpdate`. -/
def addOrUpdate (info : OutstationUserInfo) : OutstationUserDatabase where
  users := insertKey info.userNum.toNat info db.users
  sorted := keySorted_insertKey db.sorted _ _
  keyed p hp := by
    rcases (KeySorted.mem_insertKey db.sorted).mp hp with rfl | hmem
    · rfl
    · exact db.keyed p hmem.1

/-- `OutstationUserDatabase::Delete`: the scan ends with the first match. -/
def delete (userName : List UInt8) : OutstationUserDatabase where
  users := db.users.eraseP fun p => p.2.userName == userName
  sorted := db.sorted.sublist List.eraseP_sublist
  keyed p hp := db.keyed p (List.mem_of_mem_eraseP hp)

/-- `OutstationUserDatabase::GetUpdateKey`: only a valid key is returned. -/
def getUpdateKey (userNum : UInt16) : Option UpdateKey :=
  (db.users.lookup userNum.toNat).bind fun info =>
    if info.updateKey.isValid then some info.updateKey else none

/-! ## The lookups -/

/-- The user is in the table, under its own number. -/
def Has (info : OutstationUserInfo) : Prop := (info.userNum.toNat, info) ∈ db.users

/-- Some lookup gives this user, or its update key. -/
def Returns (info : OutstationUserInfo) : Prop :=
  (∃ num, db.findByUserNum num = some info) ∨ (∃ name, db.findByUserName name = some info) ∨
    ∃ num key, db.getUpdateKey num = some key ∧ db.findByUserNum num = some info

/-- The lookups by name and by number agree. -/
def Agrees : Prop :=
  ∀ name info, db.findByUserName name = some info →
    info.userName = name ∧ db.findByUserNum info.userNum = some info

variable {db} {info : OutstationUserInfo}

theorem has_of_mem {p : Nat × OutstationUserInfo} (h : p ∈ db.users) : db.Has p.2 := by
  have hkey := db.keyed p h
  rw [Has, ← hkey]
  exact h

theorem has_of_findByUserNum {num : UInt16} (h : db.findByUserNum num = some info) :
    db.Has info :=
  has_of_mem (mem_of_lookup h)

theorem Has.findByUserNum (h : db.Has info) : db.findByUserNum info.userNum = some info :=
  db.sorted.lookup_of_mem h

theorem findByUserName_spec {name : List UInt8} (h : db.findByUserName name = some info) :
    db.Has info ∧ info.userName = name := by
  obtain ⟨p, hfind, rfl⟩ := Option.map_eq_some_iff.mp h
  exact ⟨has_of_mem (List.mem_of_find?_eq_some hfind), by simpa using List.find?_some hfind⟩

theorem agrees : db.Agrees := by
  intro name info h
  obtain ⟨hhas, hname⟩ := findByUserName_spec h
  exact ⟨hname, hhas.findByUserNum⟩

/-- **The lookups together**: they give the users of the table and no others. -/
theorem returns_iff : db.Returns info ↔ db.Has info := by
  constructor
  · rintro (⟨num, h⟩ | ⟨name, h⟩ | ⟨num, key, -, h⟩)
    · exact has_of_findByUserNum h
    · exact (findByUserName_spec h).1
    · exact has_of_findByUserNum h
  · exact fun h => Or.inl ⟨info.userNum, h.findByUserNum⟩

/-! ## Removal -/

/-- How many numbers have this name. -/
def numbersOf (db : OutstationUserDatabase) (name : List UInt8) : Nat :=
  db.users.countP fun p => p.2.userName == name

theorem numbersOf_eq_zero_iff {name : List UInt8} :
    db.numbersOf name = 0 ↔ ∀ info, db.Has info → info.userName ≠ name := by
  rw [numbersOf, List.countP_eq_zero]
  constructor
  · intro h info hhas hname
    exact h _ hhas (by simpa using hname)
  · intro h p hp hname
    exact h p.2 (has_of_mem hp) (by simpa using hname)

theorem numbersOf_delete (db : OutstationUserDatabase) (name : List UInt8) :
    (db.delete name).numbersOf name = db.numbersOf name - 1 := by
  simp only [numbersOf, delete]
  generalize (fun p : Nat × OutstationUserInfo => p.2.userName == name) = found
  induction db.users with
  | nil => rfl
  | cons p rest ih =>
    by_cases hp : found p = true
    · -- here the scan ends
      rw [List.eraseP_cons_of_pos hp, List.countP_cons_of_pos hp, Nat.add_sub_cancel]
    · rw [List.eraseP_cons_of_neg hp, List.countP_cons_of_neg hp, List.countP_cons_of_neg hp]
      exact ih

theorem has_of_has_delete {name : List UInt8} (h : (db.delete name).Has info) : db.Has info :=
  List.mem_of_mem_eraseP h

/-- A removal leaves the users with other names as they are. -/
theorem findByUserNum_delete {name : List UInt8} {num : UInt16} (hname : info.userName ≠ name) :
    (db.delete name).findByUserNum num = some info ↔ db.findByUserNum num = some info := by
  have hmem : (num.toNat, info) ∈ (db.delete name).users ↔ (num.toNat, info) ∈ db.users :=
    List.mem_eraseP_of_neg (by simpa using hname)
  rw [findByUserNum, findByUserNum, ← (db.delete name).sorted.mem_iff_lookup, hmem,
    db.sorted.mem_iff_lookup]

theorem has_addOrUpdate {new : OutstationUserInfo} :
    (db.addOrUpdate new).Has info ↔ info = new ∨ db.Has info ∧ info.userNum ≠ new.userNum := by
  have hkey : info.userNum.toNat = new.userNum.toNat ↔ info.userNum = new.userNum :=
    UInt16.toNat_inj
  rw [Has, addOrUpdate, KeySorted.mem_insertKey db.sorted, Prod.mk.injEq, Ne, hkey, Has]
  exact or_congr_left (and_iff_right_of_imp fun h => congrArg (·.userNum) h)

/-! ## Runs -/

/-- The calls that change the table. -/
inductive Call
  | addOrUpdate (info : OutstationUserInfo)
  | delete (userName : List UInt8)

/-- The table, and the names that were removed and not added since. -/
structure Audit where
  db : OutstationUserDatabase
  removed : List (List UInt8)

namespace Audit

def start : Audit := ⟨empty, []⟩

def step (s : Audit) : Call → Audit
  | .addOrUpdate info => ⟨s.db.addOrUpdate info, s.removed.filter (· != info.userName)⟩
  | .delete name => ⟨s.db.delete name, name :: s.removed⟩

/-- No lookup gives a user whose name was removed. -/
def Gone (s : Audit) : Prop :=
  ∀ name ∈ s.removed, ∀ info, s.db.Returns info → info.userName ≠ name

/-- A removal changes nothing about the other names. -/
def KeepsOthers (s : Audit) (call : Call) : Prop :=
  ∀ name, call = .delete name → ∀ info, info.userName ≠ name → ∀ num,
    ((s.step call).db.findByUserNum num = some info ↔ s.db.findByUserNum num = some info)

/-- The name to be removed stands under one number at most. -/
def Once (s : Audit) (call : Call) : Prop :=
  ∀ name, call = .delete name → s.db.numbersOf name ≤ 1

theorem gone_iff {s : Audit} : s.Gone ↔ ∀ name ∈ s.removed, s.db.numbersOf name = 0 := by
  simp only [Gone, returns_iff, numbersOf_eq_zero_iff]

theorem gone_addOrUpdate {s : Audit} (hgone : s.Gone) (info : OutstationUserInfo) :
    (s.step (.addOrUpdate info)).Gone := by
  intro name hname other hother
  obtain ⟨hremoved, hne⟩ := List.mem_filter.mp hname
  rcases has_addOrUpdate.mp (returns_iff.mp hother) with rfl | ⟨hhas, -⟩
  · exact Ne.symm (by simpa using hne)
  · exact hgone name hremoved other (returns_iff.mpr hhas)

/-- **One removal**: it is complete exactly if the name stood under one number at most. -/
theorem gone_delete_iff {s : Audit} (hgone : s.Gone) (name : List UInt8) :
    (s.step (.delete name)).Gone ↔ s.db.numbersOf name ≤ 1 := by
  rw [gone_iff] at hgone ⊢
  -- a removal does not bring back a name that was removed before
  have hrest : ∀ other ∈ s.removed, (s.db.delete name).numbersOf other = 0 := fun other hother =>
    numbersOf_eq_zero_iff.mpr fun info hhas =>
      numbersOf_eq_zero_iff.mp (hgone other hother) info (has_of_has_delete hhas)
  have hnew := numbersOf_delete s.db name
  constructor
  · intro h
    have hzero : (s.db.delete name).numbersOf name = 0 := h name List.mem_cons_self
    omega
  · intro hle other hother
    rcases List.mem_cons.mp hother with rfl | hmem
    · exact hnew.trans (Nat.sub_eq_zero_of_le hle)
    · exact hrest other hmem

theorem gone_step_iff (s : Audit) (call : Call) (hgone : s.Gone) :
    (s.step call).Gone ↔ s.Once call := by
  cases call with
  | addOrUpdate info => exact iff_of_true (gone_addOrUpdate hgone info) (by rintro name ⟨⟩)
  | delete name =>
    rw [gone_delete_iff hgone]
    constructor
    · rintro h other ⟨⟩
      exact h
    · exact fun h => h name rfl

theorem keepsOthers (s : Audit) (call : Call) : s.KeepsOthers call := by
  rintro name rfl info hname num
  exact findByUserNum_delete hname

/-- **Removal by name**: in a run of calls no lookup ever gives a user whose name was removed, a
    removal leaves the other users alone, and the two lookups agree, if and only if every name that
    is removed stands under one number at most at that moment. -/
theorem delete_complete_iff (calls : List Call) :
    (Always step (fun s => s.Gone ∧ s.db.Agrees) start calls ∧ Along step KeepsOthers start calls) ↔
      Along step Once start calls := by
  have hstart : start.Gone := fun name h => absurd h List.not_mem_nil
  have hkeeps : Along step KeepsOthers start calls :=
    along_of_invariant (P := fun _ => True) (fun _ _ _ => trivial)
      (fun s call _ => keepsOthers s call) trivial calls
  have hstep : ∀ s call, s.Gone ∧ s.db.Agrees →
      ((step s call).Gone ∧ (step s call).db.Agrees ↔ s.Once call) := fun s call h => by
    rw [and_iff_left agrees]
    exact gone_step_iff s call h.1
  -- the other users and the agreement need no condition, so the names that are gone decide
  rw [and_iff_left hkeeps]
  exact always_iff_along hstep ⟨hstart, agrees⟩

/-- A user without a key. -/
def sampleUser (num : UInt16) (name : List UInt8) : OutstationUserInfo :=
  ⟨num, name, 0, 0, ⟨[], Or.inl rfl⟩, 0⟩

/-- One name is added under two numbers and removed; the second stays. -/
theorem delete_incomplete :
    let s := run step start [.addOrUpdate (sampleUser 1 [111, 112]),
      .addOrUpdate (sampleUser 2 [111, 112]), .delete [111, 112]]
    [111, 112] ∈ s.removed ∧ s.db.findByUserNum 2 = some (sampleUser 2 [111, 112]) := by
  decide

end Audit

end OutstationUserDatabase

end OpenDnp3.SecAuth
