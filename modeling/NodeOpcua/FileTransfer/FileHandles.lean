import NodeOpcua.FileTransfer.FileType
import NodeOpcua.Library.Leases
import NodeOpcua.Library.Mealy

set_option autoImplicit false

/-!
# The bookkeeping of the handles of files

A handle is a lease of its file, and the file counts its leases. The table of the handles is a table
of leases in which a call of `Open` has reserved its handle before it is granted.

## Main definitions

* `FileServer.leaseTable`, `FileServer.validHandles`, `FileServer.KeepsHandles`.
* `FileServer.StepCondition`.
-/

namespace NodeOpcua

open OpenFileModeMask
open FileEvent (isFailure)
open FileTypeM (_getFileInfo _prepare update _addFile)

variable {U : CaseMapping} {F C : Type}

/-! ### The handles as leases -/

/-- The lease of a handle. -/
def FileAccessData.lease (e : FileAccessData U F) : Lease ℕ F :=
  ⟨e.handle, e.file, hasBit e.openMode WriteBit⟩

/-- The handle of a call of `Open`. -/
def PendingCall.opening? (call : PendingCall F C) : Option ℕ :=
  match call.continuation with
  | .opening _ _ fileHandle => some fileHandle
  | _ => none

/-- The handle that is the argument of a method. -/
def FileRequest.fileHandle? : FileRequest → Option ℕ
  | openFile _ => none
  | closeFile fileHandle => some fileHandle
  | readFile fileHandle _ => some fileHandle
  | writeFile fileHandle _ => some fileHandle
  | setPositionFile fileHandle _ => some fileHandle
  | getPositionFile fileHandle => some fileHandle

/-- What a method asks of the entry of its handle. -/
def FileRequest.accepts (e : FileAccessData U F) : FileRequest → Bool
  | openFile _ => false
  | closeFile _ => true
  | readFile _ length => 0 ≤ length && hasBit e.openMode ReadBit && e.position.2 ≤ e.size
  | writeFile _ data => hasBit e.openMode WriteBit && data.isSome
  | setPositionFile _ _ => true
  | getPositionFile _ => true

namespace FileServer

/-- **The table of the handles**, as a table of leases: those of the calls of `Open` that wait are
reserved. -/
def leaseTable (s : FileServer U F C) : LeaseTable F where
  last := s.addressSpace._prepare.currentFileHandle
  table := (s.addressSpace.files.filter (!·.deleted)).map FileAccessData.lease
  reserved := s.calls.filterMap PendingCall.opening?

/-- **The valid handles**: those of the table for which no call of `Open` waits. -/
def validHandles (s : FileServer U F C) : List (Lease ℕ F) := s.leaseTable.granted

/-! ### The table of leases under the operations of the model -/

variable {fileHandle : ℕ} {e : FileAccessData U F}

lemma _getFileInfo_eq_some {m : FileTypeM U F} {session : Option (FileSession U)}
    (h : m._getFileInfo session fileHandle = some e) :
    e ∈ m.files ∧ e.handle = fileHandle ∧ e.deleted = false ∧ e.sessionId = _getSessionId session := by
  unfold _getFileInfo at h
  split at h
  · exact nomatch h
  · next found hfound =>
    split at h
    · next hsame =>
      obtain rfl := Option.some.inj h
      have hkeys := List.find?_some hfound
      simp only [Bool.and_eq_true, decide_eq_true_eq, Bool.not_eq_true'] at hkeys
      exact ⟨List.mem_of_find?_eq_some hfound, hkeys.1, hkeys.2,
        Subtype.ext ((sameNodeId_eq_true_iff _ _).mp hsame).1⟩
    · exact nomatch h

/-- `_prepare` changes the counter of the handles once. -/
lemma _prepare_prepare (m : FileTypeM U F) : m._prepare._prepare = m._prepare := by
  unfold _prepare
  split_ifs <;> simp_all

section

variable (s : FileServer U F C)

/-- The table of leases does not see `_prepare`. -/
@[simp] lemma leaseTable_prepare :
    leaseTable { s with addressSpace := s.addressSpace._prepare } = s.leaseTable := by
  simp only [leaseTable, _prepare_prepare]
  rfl

lemma leaseTable_updateFileInfo (fileHandle : ℕ) {change : FileAccessData U F → FileAccessData U F}
    (hchange : ∀ e, (change e).lease = e.lease ∧ (change e).deleted = e.deleted) :
    (s.updateFileInfo fileHandle change).leaseTable = s.leaseTable := by
  have hfiles : ∀ files : List (FileAccessData U F),
      ((files.map fun e => if e.handle = fileHandle then change e else e).filter
        (!·.deleted)).map FileAccessData.lease =
      (files.filter (!·.deleted)).map FileAccessData.lease := by
    intro files
    induction files with
    | nil => rfl
    | cons e files ih =>
      rw [List.map_cons, List.filter_cons, List.filter_cons]
      split_ifs <;> simp_all
  simp only [leaseTable, updateFileInfo, update, hfiles]
  rfl

/-- **A handle that is closed** is removed from the table of leases. -/
lemma leaseTable_close (fileHandle : ℕ) :
    leaseTable { s with addressSpace := s.addressSpace._close fileHandle } =
      s.leaseTable.remove fileHandle := by
  have hfiles : ∀ files : List (FileAccessData U F),
      ((files.map fun e => if e.handle = fileHandle then { e with deleted := true } else e).filter
        (!·.deleted)).map FileAccessData.lease =
      Lease.release fileHandle ((files.filter (!·.deleted)).map FileAccessData.lease) := by
    intro files
    induction files with
    | nil => rfl
    | cons e files ih =>
      by_cases hhandle : e.handle = fileHandle <;> cases hdel : e.deleted <;>
        simp_all [Lease.release, FileAccessData.lease]
  simp only [leaseTable, LeaseTable.remove, FileTypeM._close, update, ← hfiles]
  simp only [_prepare, LeaseTable.mk.injEq, and_true]
  split_ifs <;> simp_all

/-- A call that waits and is no call of `Open` reserves nothing. -/
lemma leaseTable_wait {call : PendingCall F C} (h : call.opening? = none) :
    (s.wait call).leaseTable = s.leaseTable := by
  simp [leaseTable, wait, h]

end

variable {index : ℕ}

lemma exists_split {α : Type} {l : List α} {a : α} (h : l[index]? = some a) :
    ∃ before after, l = before ++ a :: after ∧ l.eraseIdx index = before ++ after ∧
      ∀ b, l.set index b = before ++ b :: after := by
  obtain ⟨hlt, rfl⟩ := List.getElem?_eq_some_iff.mp h
  refine ⟨l.take index, l.drop (index + 1), ?_, List.eraseIdx_eq_take_drop_succ _ _, fun b => ?_⟩
  · rw [List.getElem_cons_drop, List.take_append_drop]
  · rw [List.set_eq_take_append_cons_drop, if_pos hlt]

/-- A call that ends and is no call of `Open` had reserved nothing. -/
lemma leaseTable_ended (s : FileServer U F C) {call : PendingCall F C}
    (hcall : s.calls[index]? = some call) (h : call.opening? = none) :
    (s.ended index).leaseTable = s.leaseTable := by
  obtain ⟨before, after, hcalls, herase, -⟩ := exists_split hcall
  have hresv : (s.ended index).leaseTable.reserved = s.leaseTable.reserved := by
    simp only [leaseTable, ended, herase]
    rw [hcalls]
    simp [h]
  exact congrArg (LeaseTable.mk _ _) hresv

/-- **A call of `Open` that ends** has its handle no longer reserved. -/
lemma leaseTable_ended_opening (s : FileServer U F C) (hwf : s.leaseTable.WellFormed)
    {call : PendingCall F C} (hcall : s.calls[index]? = some call)
    (h : call.opening? = some fileHandle) :
    (s.ended index).leaseTable = s.leaseTable.grant fileHandle := by
  obtain ⟨before, after, hcalls, herase, -⟩ := exists_split hcall
  have hresv : s.leaseTable.reserved =
      before.filterMap PendingCall.opening? ++
        fileHandle :: after.filterMap PendingCall.opening? := by
    simp [leaseTable, hcalls, h]
  have hnot : fileHandle ∉ before.filterMap PendingCall.opening? := by
    have hnodup := hwf.reserved_nodup
    rw [hresv, List.nodup_append] at hnodup
    exact fun hmem => hnodup.2.2 fileHandle hmem fileHandle List.mem_cons_self rfl
  have herased : (s.ended index).leaseTable.reserved = s.leaseTable.reserved.erase fileHandle := by
    rw [hresv, List.erase_append_right _ hnot, List.erase_cons_head]
    simp [leaseTable, ended, herase]
  exact congrArg (LeaseTable.mk _ _) herased

lemma leaseTable_waitAgain (s : FileServer U F C) {call call' : PendingCall F C}
    (hcall : s.calls[index]? = some call) (h : call'.opening? = call.opening?) :
    (s.waitAgain index call').leaseTable = s.leaseTable := by
  obtain ⟨before, after, hcalls, -, hset⟩ := exists_split hcall
  have hresv : (s.waitAgain index call').leaseTable.reserved = s.leaseTable.reserved := by
    simp only [leaseTable, waitAgain, hset]
    rw [hcalls]
    simp only [List.filterMap_append, List.filterMap_cons, h]
  exact congrArg (LeaseTable.mk _ _) hresv

/-! ### The handles of the calls that wait -/

/-- **A call that waits has its own handle**: that of `Open` is in the table, for its file, and that
of `Close` is one of its file when it is still in the table. -/
def Owned (t : LeaseTable F) (call : PendingCall F C) : Prop :=
  match call.continuation with
  | .opening _ mode fileHandle => ⟨fileHandle, call.object, hasBit mode WriteBit⟩ ∈ t.table
  | .closing fileHandle =>
    fileHandle ≤ t.last ∧ ∀ l ∈ t.table, l.key = fileHandle → l.resource = call.object
  | .reading _ _ => True
  | .writing _ => True

variable {t : LeaseTable F}

section

variable {call : PendingCall F C} (h : Owned t call)
include h

lemma Owned.reserve (file : F) (writes : Bool) : Owned (t.reserve file writes) call := by
  unfold Owned at h ⊢
  split at h
  · exact List.mem_append_left _ h
  · refine ⟨Nat.le_succ_of_le h.1, fun l hl hkey => ?_⟩
    rcases List.mem_append.mp hl with hl | hl
    · exact h.2 l hl hkey
    · rw [List.mem_singleton.mp hl] at hkey
      simp only at hkey
      omega
  · trivial
  · trivial

lemma Owned.grant (key : ℕ) :
    Owned (t.grant key) call := h

lemma Owned.remove {key : ℕ} (hkey : call.opening? ≠ some key) : Owned (t.remove key) call := by
  unfold Owned PendingCall.opening? at *
  split at h
  · next hcall =>
    rw [hcall] at hkey
    exact Lease.mem_release.mpr ⟨h, fun heq => hkey (congrArg some heq)⟩
  · exact ⟨h.1, fun l hl => h.2 l (Lease.mem_release.mp hl).1⟩
  · trivial
  · trivial

end

/-! ### The methods with a handle -/

/-- **What a method with a handle does**: it changes neither the table of leases nor what is kept for
the files, it may wait, for its own handle, and it fails exactly when it does not accept the
handle. -/
structure HandleCall (s : FileServer U F C) (context : C) (object : F) (fileHandle : ℕ)
    (request : FileRequest) (r : FileServer U F C × List (FileEvent F)) : Prop where
  sameTable : r.1.leaseTable = s.leaseTable
  sameFileData : r.1.fileData = s.fileData
  sameObject : r.1.object = s.object
  waits : r.1.calls = s.calls ∨ ∃ call, r.1.calls = s.calls ++ [call] ∧ call.context = context ∧
    call.object = object ∧ call.opening? = none ∧ ∀ other, call.continuation = .closing other →
      other = fileHandle ∧ ∃ e, s.addressSpace._getFileInfo (s.session context) fileHandle = some e ∧
        request.accepts e = true
  fails : r.2.any isFailure = true ↔
    ∀ e, s.addressSpace._getFileInfo (s.session context) fileHandle = some e →
      request.accepts e = false

section HandleCalls

variable {s r : FileServer U F C} {context : C} {object : F} {fileHandle : ℕ} {request : FileRequest}

lemma handleCall_fail {events : List (FileEvent F)} (hr : r = s ∨
      r = { s with addressSpace := s.addressSpace._prepare })
    (hevents : events.any isFailure = true)
    (haccepts : ∀ e, s.addressSpace._getFileInfo (s.session context) fileHandle = some e →
      request.accepts e = false) :
    HandleCall s context object fileHandle request (r, events) := by
  rcases hr with rfl | rfl
  · exact ⟨rfl, rfl, rfl, Or.inl rfl, iff_of_true hevents haccepts⟩
  · exact ⟨leaseTable_prepare s, rfl, rfl, Or.inl rfl, iff_of_true hevents haccepts⟩

variable {e : FileAccessData U F}

section

variable (hinfo : s.addressSpace._getFileInfo (s.session context) fileHandle = some e)
  (haccepts : request.accepts e = true)
include hinfo haccepts

lemma handleCall_await {cont : FileContinuation F}
    (hopening : (PendingCall.mk context object cont).opening? = none)
    (hclosing : ∀ other, cont = .closing other → other = fileHandle)
    (operation : FsOperation) :
    HandleCall s context object fileHandle request
      (({ s with addressSpace := s.addressSpace._prepare } : FileServer U F C).await
        ⟨context, object, cont⟩ object operation) where
  sameTable := (leaseTable_wait _ hopening).trans (leaseTable_prepare s)
  sameFileData := rfl
  sameObject := rfl
  waits := Or.inr ⟨_, rfl, rfl, rfl, hopening, fun other hother =>
    ⟨hclosing other hother, e, hinfo, haccepts⟩⟩
  fails := by
    refine iff_of_false (by simp [await, isFailure]) fun hall => ?_
    rw [hall e hinfo] at haccepts
    exact Bool.false_ne_true haccepts

lemma handleCall_reply (hcalls : r.calls = s.calls)
    (htable : r.leaseTable = s.leaseTable) (hdata : r.fileData = s.fileData)
    (hobj : r.object = s.object) (outputArguments : List OutputArgument) :
    HandleCall s context object fileHandle request (r.reply .Good outputArguments) where
  sameTable := htable
  sameFileData := hdata
  sameObject := hobj
  waits := Or.inl hcalls
  fails := by
    refine iff_of_false (by simp [reply, isFailure]) fun hall => ?_
    rw [hall e hinfo] at haccepts
    exact Bool.false_ne_true haccepts

end

lemma _closeFile_spec (s : FileServer U F C) (ctx : C) (object : F) (fileHandle : ℕ) :
    HandleCall s ctx object fileHandle (.closeFile fileHandle)
      (s._closeFile ctx object fileHandle) := by
  unfold _closeFile
  cases hinfo : s.addressSpace._getFileInfo (s.session ctx) fileHandle with
  | none => exact handleCall_fail (Or.inr rfl) rfl (by simp [hinfo])
  | some e =>
    refine handleCall_await hinfo rfl rfl (fun other hother => ?_) _
    injection hother with hother
    exact hother.symm

lemma readLength_neg_iff {length : ℤ} (h : 0 ≤ length) (maxChunkSizeBytes maxMessageSize size
    position : ℕ) :
    readLength maxChunkSizeBytes maxMessageSize length size position < 0 ↔ size < position := by
  unfold readLength
  dsimp only
  split_ifs <;> omega

section

variable (s : FileServer U F C) (context : C) (object : F) (fileHandle : ℕ)

lemma _readFile_spec
    (length : ℤ) : HandleCall s context object fileHandle (.readFile fileHandle length)
      (s._readFile context object fileHandle length) := by
  unfold _readFile
  by_cases hlen : length < 0
  · rw [if_pos hlen]
    exact handleCall_fail (Or.inl rfl) rfl fun e _ => by
      simp [FileRequest.accepts, not_le.mpr hlen]
  · rw [if_neg hlen]
    cases hinfo : s.addressSpace._getFileInfo (s.session context) fileHandle with
    | none => exact handleCall_fail (Or.inr rfl) rfl (by simp [hinfo])
    | some e =>
      dsimp only
      by_cases hread : hasBit e.openMode ReadBit = true
      · rw [if_neg (by simp [hread])]
        by_cases hbehind : e.size < e.position.2
        · rw [if_pos ((readLength_neg_iff (not_lt.mp hlen) _ _ _ _).mpr hbehind)]
          refine handleCall_fail (Or.inr rfl) rfl fun e' he' => ?_
          rw [hinfo] at he'
          obtain rfl := Option.some.inj he'
          simp [FileRequest.accepts, not_le.mpr hbehind]
        · rw [if_neg (mt (readLength_neg_iff (not_lt.mp hlen) _ _ _ _).mp hbehind)]
          exact handleCall_await hinfo
            (by simp [FileRequest.accepts, hread, not_lt.mp hlen, not_lt.mp hbehind]) rfl
            (by simp) _
      · rw [if_pos (by simpa using hread)]
        refine handleCall_fail (Or.inr rfl) rfl fun e' he' => ?_
        rw [hinfo] at he'
        obtain rfl := Option.some.inj he'
        simp [FileRequest.accepts, hread]

lemma _writeFile_spec
    (data : Option Buffer) : HandleCall s context object fileHandle (.writeFile fileHandle data)
      (s._writeFile context object fileHandle data) := by
  unfold _writeFile
  cases hinfo : s.addressSpace._getFileInfo (s.session context) fileHandle with
  | none => exact handleCall_fail (Or.inr rfl) rfl (by simp [hinfo])
  | some e =>
    dsimp only
    by_cases hwrite : hasBit e.openMode WriteBit = true
    · rw [if_neg (by simp [hwrite])]
      cases data with
      | none => exact handleCall_fail (Or.inr rfl) rfl (by simp [FileRequest.accepts])
      | some data =>
        exact handleCall_await hinfo (by simp [FileRequest.accepts, hwrite]) rfl
          (by simp) _
    · rw [if_pos (by simpa using hwrite)]
      refine handleCall_fail (Or.inr rfl) rfl fun e' he' => ?_
      rw [hinfo] at he'
      obtain rfl := Option.some.inj he'
      simp [FileRequest.accepts, hwrite]

lemma _setPositionFile_spec (position : ℕ × ℕ) :
    HandleCall s context object fileHandle (.setPositionFile fileHandle position)
      (s._setPositionFile context fileHandle position) := by
  unfold _setPositionFile
  cases hinfo : s.addressSpace._getFileInfo (s.session context) fileHandle with
  | none => exact handleCall_fail (Or.inr rfl) rfl (by simp [hinfo])
  | some e =>
    refine handleCall_reply hinfo rfl ?_ ?_ ?_ ?_ _
    · rfl
    · refine (leaseTable_updateFileInfo _ _ ?_).trans (leaseTable_prepare s)
      exact fun _ => ⟨rfl, rfl⟩
    · rfl
    · rfl

lemma _getPositionFile_spec :
    HandleCall s context object fileHandle (.getPositionFile fileHandle)
      (s._getPositionFile context fileHandle) := by
  unfold _getPositionFile
  cases hinfo : s.addressSpace._getFileInfo (s.session context) fileHandle with
  | none => exact handleCall_fail (Or.inr rfl) rfl (by simp [hinfo])
  | some e =>
    refine handleCall_reply hinfo rfl ?_ ?_ ?_ ?_ _
    · rfl
    · exact leaseTable_prepare s
    · rfl
    · rfl

end

end HandleCalls

lemma _getFileInfo_addFile (s : FileServer U F C) (hwf : s.leaseTable.WellFormed)
    (session : Option (FileSession U)) (file : F) (mode : UInt8) :
    ∃ e, (s.addressSpace._addFile session file mode).2._getFileInfo session
      (s.addressSpace._addFile session file mode).1 = some e := by
  have hold : s.addressSpace.files.find? (fun e =>
      e.handle = s.addressSpace._prepare.currentFileHandle + 1 && !e.deleted) = none := by
    refine List.find?_eq_none.mpr fun e he hfound => ?_
    simp only [Bool.and_eq_true, decide_eq_true_eq, Bool.not_eq_true'] at hfound
    have hmem : e.lease ∈ s.leaseTable.table :=
      List.mem_map_of_mem (List.mem_filter.mpr ⟨he, by simp [hfound.2]⟩)
    have hle : e.handle ≤ s.addressSpace._prepare.currentFileHandle := hwf.le_last _ hmem
    omega
  have hsame : sameNodeId (_getSessionId session).1 (_getSessionId session).1 = .ok true :=
    (sameNodeId_eq_true_iff _ _).mpr ⟨rfl, (_getSessionId session).2⟩
  unfold _getFileInfo _addFile
  rw [List.find?_append, List.find?_cons_of_pos (by simp)]
  have hfiles : s.addressSpace._prepare.files = s.addressSpace.files := rfl
  rw [hfiles, hold, Option.none_or]
  dsimp only
  rw [hsame]
  exact ⟨_, rfl⟩

/-- The table of leases after an entry was added and a call of `Open` waits for it. -/
lemma leaseTable_addFile (s : FileServer U F C) (session : Option (FileSession U)) (file : F)
    (mode : UInt8) (ctx : C) (stage : OpenStage F) :
    (wait { s with addressSpace := (s.addressSpace._addFile session file mode).2._prepare }
      ⟨ctx, file, .opening stage mode (s.leaseTable.last + 1)⟩).leaseTable =
      s.leaseTable.reserve file (hasBit mode WriteBit) := by
  unfold leaseTable
  simp [LeaseTable.reserve, wait, _addFile, _prepare, FileAccessData.lease,
    PendingCall.opening?]

/-- **`_openFile`** refuses the mode, or reserves a new handle and waits. -/
lemma _openFile_spec (s : FileServer U F C) (hwf : s.leaseTable.WellFormed) (ctx : C)
    (object : F) (mode : UInt8) :
    (∃ events, s._openFile ctx object mode = (s, events) ∧
      events.any isFailure = true) ∨
    ∃ stage events, s._openFile ctx object mode =
      (wait { s with
        addressSpace := (s.addressSpace._addFile (s.session ctx) object mode).2._prepare }
          ⟨ctx, object, .opening stage mode (s.leaseTable.last + 1)⟩, events) ∧
      events.any isFailure = false := by
  unfold _openFile
  dsimp only
  obtain ⟨e, he⟩ := _getFileInfo_addFile s hwf (s.session ctx) object mode
  split_ifs with hflags hread hrefresh
  · exact Or.inl ⟨_, rfl, rfl⟩
  all_goals
    rw [he]
    refine Or.inr ?_
  · exact ⟨_, _, rfl, rfl⟩
  · exact ⟨_, _, rfl, rfl⟩
  · exact ⟨_, _, rfl, rfl⟩

/-! ### What is expected of a step -/

variable [DecidableEq F] [DecidableEq C]

/-- A step ends a call and the call is not good. -/
def Fails (s : FileServer U F C) (a : FileInput F C) : Prop :=
  (s.step a).2.any isFailure = true

/-- **A failed `Open` leaves no handle**: not the one it had reserved, and no other one. -/
def FailedOpenLeavesNone (s : FileServer U F C) : FileInput F C → Prop
  | .call context object request => request.fileHandle? = none →
      s.Fails (.call context object request) →
      (s.step (.call context object request)).1.leaseTable.table = s.leaseTable.table
  | .resume index outcome => ∀ call fileHandle, s.calls[index]? = some call →
      call.opening? = some fileHandle → s.Fails (.resume index outcome) →
      ∀ l ∈ (s.step (.resume index outcome)).1.leaseTable.table, l.key ≠ fileHandle

/-- **A handle is refused** on any file other than its own, and for any session other than its
own. -/
def RefusesOthers (s : FileServer U F C) : FileInput F C → Prop
  | .call context object request => ∀ fileHandle, request.fileHandle? = some fileHandle →
      ¬ s.Fails (.call context object request) →
      ∃ e ∈ s.addressSpace.files, e.handle = fileHandle ∧ e.deleted = false ∧ e.file = object ∧
        e.sessionId = _getSessionId (s.session context)
  | .resume _ _ => True

/-- **What is expected of a step**: the count of every file is the number of its valid handles, a
failed `Open` leaves no handle, a handle of another file or session is refused, and a file that is
open for writing has no other handle. -/
structure KeepsHandles (s : FileServer U F C) (a : FileInput F C) : Prop where
  counted : ∀ file,
    ((s.step a).1.fileData file).openCount = (Lease.on (s.step a).1.validHandles file).length
  failedOpen : s.FailedOpenLeavesNone a
  refused : s.RefusesOthers a
  exclusive : Lease.Exclusive (s.step a).1.validHandles

/-! ### The condition -/

/-- A method whose argument is a handle is called on the file of the handle, or does not accept
it. -/
def CallCondition (s : FileServer U F C) (context : C) (object : F) (request : FileRequest) : Prop :=
  ∀ fileHandle e, request.fileHandle? = some fileHandle →
    s.addressSpace._getFileInfo (s.session context) fileHandle = some e →
    request.accepts e = true → e.file = object

/-- The condition for a call that goes on: the operations of `Open` succeed, and its handle is
admitted beside the valid ones; and a handle that is closed is valid. -/
def ResumeCondition (s : FileServer U F C) (call : PendingCall F C) (outcome : Option FsResult) :
    Prop :=
  match call.continuation with
  | .opening .refreshFileContentFunc _ _ => outcome.isSome
  | .opening .refresh _ _ => True
  | .opening .refreshed _ _ => True
  | .opening (.opening _) _ _ => outcome.isSome
  | .opening (.stat _) mode fileHandle =>
    outcome.isSome ∧ Lease.Admits s.validHandles ⟨fileHandle, call.object, hasBit mode WriteBit⟩
  | .closing fileHandle => outcome.isSome → ∃ l ∈ s.validHandles, l.key = fileHandle
  | .reading _ _ => True
  | .writing _ => True

/-- The condition for a step. -/
def StepCondition (s : FileServer U F C) : FileInput F C → Prop
  | .call context object request => s.CallCondition context object request
  | .resume index outcome => ∀ call, s.calls[index]? = some call → s.ResumeCondition call outcome

/-! ### The invariant -/

/-- **The invariant**: the table is well formed, the calls that wait have their own handles and an
object in their context, the count of every file is the number of its valid handles, and a file that
is open for writing has no other one. -/
structure Inv (s : FileServer U F C) : Prop where
  wellFormed : s.leaseTable.WellFormed
  owned : ∀ call ∈ s.calls, Owned s.leaseTable call
  context : ∀ call ∈ s.calls, s.object call.context ≠ none
  counted : ∀ file, (s.fileData file).openCount = (Lease.on s.validHandles file).length
  exclusive : Lease.Exclusive s.validHandles

/-- The start: no handle was given, no file is open and no call waits. -/
structure Initial (s : FileServer U F C) : Prop where
  currentFileHandle : s.addressSpace.currentFileHandle = 0
  files : s.addressSpace.files = []
  openCount : ∀ file, (s.fileData file).openCount = 0
  calls : s.calls = []

/-! ### Keeping the invariant -/

variable {s s' : FileServer U F C}

omit [DecidableEq C] in
/-- **The frame rule**: when the table of leases and the counts are the same, only the calls that wait
have to be looked at. -/
lemma Inv.frame (h : s.Inv) (htable : s'.leaseTable = s.leaseTable)
    (hcount : ∀ file, (s'.fileData file).openCount = (s.fileData file).openCount)
    (howned : ∀ call ∈ s'.calls, Owned s.leaseTable call)
    (hcontext : ∀ call ∈ s'.calls, s'.object call.context ≠ none) : s'.Inv where
  wellFormed := htable ▸ h.wellFormed
  owned := htable ▸ howned
  context := hcontext
  counted file := by
    rw [hcount, validHandles, htable]
    exact h.counted file
  exclusive := by
    rw [validHandles, htable]
    exact h.exclusive

variable {s : FileServer U F C}

lemma Inv.context_update (h : s.Inv) (ctx : C) (object : F) :
    ∀ call ∈ s.calls, Function.update s.object ctx (some object) call.context ≠ none := by
  intro call hcall
  by_cases heq : call.context = ctx
  · rw [heq, Function.update_self]
    exact Option.some_ne_none _
  · rw [Function.update_of_ne heq]
    exact h.context call hcall

/-- When a step changes neither the valid handles nor the counts, it is left to see that a failed
`Open` leaves no handle, and that other handles are refused. -/
lemma keepsHandles_iff_of_same (h : s.Inv) {a : FileInput F C}
    (hvalid : (s.step a).1.validHandles = s.validHandles)
    (hcount : ∀ file, ((s.step a).1.fileData file).openCount = (s.fileData file).openCount) :
    s.KeepsHandles a ↔ s.FailedOpenLeavesNone a ∧ s.RefusesOthers a := by
  refine ⟨fun hkeeps => ⟨hkeeps.failedOpen, hkeeps.refused⟩, fun hboth => ⟨?_, hboth.1, hboth.2, ?_⟩⟩
  · intro file
    rw [hcount, hvalid]
    exact h.counted file
  · rw [hvalid]
    exact h.exclusive

/-! ### Calls -/

omit [DecidableEq F] in
lemma execute_spec (s : FileServer U F C) (ctx : C) (object : F) {request : FileRequest}
    (hreq : request.fileHandle? = some fileHandle) :
    HandleCall { s with object := Function.update s.object ctx (some object) } ctx object
      fileHandle request (s.execute ctx object request) := by
  cases request with
  | openFile mode => exact nomatch hreq
  | closeFile other =>
    obtain rfl := Option.some.inj hreq
    exact _closeFile_spec _ ctx object other
  | readFile other length =>
    obtain rfl := Option.some.inj hreq
    exact _readFile_spec _ ctx object other length
  | writeFile other data =>
    obtain rfl := Option.some.inj hreq
    exact _writeFile_spec _ ctx object other data
  | setPositionFile other position =>
    obtain rfl := Option.some.inj hreq
    exact _setPositionFile_spec _ ctx object other position
  | getPositionFile other =>
    obtain rfl := Option.some.inj hreq
    exact _getPositionFile_spec _ ctx object other

omit [DecidableEq F] [DecidableEq C] in
lemma lease_mem_table (he : e ∈ s.addressSpace.files) (hdel : e.deleted = false) :
    e.lease ∈ s.leaseTable.table :=
  List.mem_map_of_mem (List.mem_filter.mpr ⟨he, by simp [hdel]⟩)

/-- **A call of a method with a handle keeps the invariant**, when its condition holds. -/
lemma Inv.call {s : FileServer U F C} (h : s.Inv) {ctx : C} {object : F} {request : FileRequest}
    {fileHandle : ℕ} (hreq : request.fileHandle? = some fileHandle)
    (hcond : s.CallCondition ctx object request) : (s.execute ctx object request).1.Inv := by
  have hspec := execute_spec s ctx object hreq
  refine h.frame hspec.sameTable (fun file => by rw [hspec.sameFileData]) ?_ ?_
  · obtain hcalls | ⟨call, hcalls, hcontext, hobj, hopening, hclosing⟩ := hspec.waits
    · rw [hcalls]
      exact h.owned
    · rw [hcalls]
      intro other hother
      rcases List.mem_append.mp hother with hother | hother
      · exact h.owned other hother
      · rw [List.mem_singleton.mp hother]
        unfold Owned
        split
        · next hcall => exact absurd hopening (by simp [PendingCall.opening?, hcall])
        · next hcall =>
          obtain ⟨rfl, e, hinfo, haccepts⟩ := hclosing _ hcall
          obtain ⟨he, hhandle, hdel, -⟩ := _getFileInfo_eq_some hinfo
          have hmem := lease_mem_table he hdel
          refine ⟨hhandle ▸ h.wellFormed.le_last _ hmem, fun l hl hkey => ?_⟩
          rw [h.wellFormed.eq_of_key hl hmem (hkey.trans hhandle.symm), hobj]
          exact hcond _ e hreq hinfo haccepts
        · trivial
        · trivial
  · rw [hspec.sameObject]
    obtain hcalls | ⟨call, hcalls, hcontext, -⟩ := hspec.waits
    · rw [hcalls]
      exact h.context_update ctx object
    · rw [hcalls]
      intro other hother
      rcases List.mem_append.mp hother with hother | hother
      · exact h.context_update ctx object other hother
      · rw [List.mem_singleton.mp hother, hcontext]
        simp

variable {context : C} {object : F}

/-- **A call of a method with a handle** does what is expected exactly when its condition holds. -/
lemma call_keepsHandles_iff (h : s.Inv)
    {request : FileRequest} (hreq : request.fileHandle? = some fileHandle) :
    s.KeepsHandles (.call context object request) ↔ s.CallCondition context object request := by
  have hspec := execute_spec s context object hreq
  have hvalid : (s.step (.call context object request)).1.validHandles = s.validHandles :=
    congrArg LeaseTable.granted hspec.sameTable
  rw [keepsHandles_iff_of_same h hvalid fun file => by rw [step, hspec.sameFileData]]
  have hfailed : s.FailedOpenLeavesNone (.call context object request) := by
    intro hnone
    rw [hreq] at hnone
    exact nomatch hnone
  rw [and_iff_right hfailed]
  have hfails : s.Fails (.call context object request) ↔
      ∀ e, s.addressSpace._getFileInfo (s.session context) fileHandle = some e →
        request.accepts e = false := hspec.fails
  constructor
  · intro hrefuses other e hother hinfo haccepts
    obtain rfl := Option.some.inj (hreq.symm.trans hother)
    have hnot : ¬ s.Fails (.call context object request) := by
      intro hfail
      rw [hfails.mp hfail e hinfo] at haccepts
      exact Bool.false_ne_true haccepts
    obtain ⟨e', he', hhandle', hdel', hfile', -⟩ := hrefuses _ hreq hnot
    obtain ⟨he, hhandle, hdel, -⟩ := _getFileInfo_eq_some hinfo
    have hlease := h.wellFormed.eq_of_key (lease_mem_table he hdel)
      (lease_mem_table he' hdel') (hhandle.trans hhandle'.symm)
    exact (congrArg Lease.resource hlease).trans hfile'
  · intro hcond other hother hnot
    obtain rfl := Option.some.inj (hreq.symm.trans hother)
    rw [hfails] at hnot
    push Not at hnot
    obtain ⟨e, hinfo, haccepts⟩ := hnot
    obtain ⟨he, hhandle, hdel, hsess⟩ := _getFileInfo_eq_some hinfo
    exact ⟨e, he, hhandle, hdel,
      hcond _ e hreq hinfo (by simpa using haccepts), hsess⟩

/-- **A call of `Open`** keeps the invariant and does what is expected. -/
lemma open_keepsHandles (h : s.Inv) (ctx : C) (object : F)
    (mode : UInt8) : (s.execute ctx object (.openFile mode)).1.Inv ∧
      s.KeepsHandles (.call ctx object (.openFile mode)) := by
  set t : FileServer U F C :=
    { s with object := Function.update s.object ctx (some object) } with ht
  have hspec : (∃ events, s.execute ctx object (.openFile mode) = (t, events) ∧
      events.any isFailure = true) ∨ _ :=
    _openFile_spec t h.wellFormed ctx object mode
  have hrefuses : s.RefusesOthers (.call ctx object (.openFile mode)) := nofun
  obtain ⟨events, hstep, -⟩ | ⟨stage, events, hstep, hevents⟩ := hspec
  · refine ⟨?_, (keepsHandles_iff_of_same h ?_ ?_).mpr ⟨fun _ _ => ?_, hrefuses⟩⟩
    · rw [hstep]
      exact h.frame rfl (fun _ => rfl) h.owned (h.context_update ctx object)
    · rw [step, hstep]
      rfl
    · rw [step, hstep]
      exact fun _ => rfl
    · rw [step, hstep]
      rfl
  · have hstep' : s.execute ctx object (.openFile mode) = _ := hstep
    have htable : (s.execute ctx object (.openFile mode)).1.leaseTable =
        s.leaseTable.reserve object (hasBit mode WriteBit) := by
      rw [hstep']
      exact leaseTable_addFile t (t.session ctx) object mode ctx stage
    have hvalid : (s.execute ctx object (.openFile mode)).1.validHandles = s.validHandles := by
      rw [validHandles, htable]
      exact h.wellFormed.granted_reserve object _
    have hcount : (s.execute ctx object (.openFile mode)).1.fileData = s.fileData := by
      rw [hstep']
      rfl
    refine ⟨⟨?_, ?_, ?_, ?_, ?_⟩, (keepsHandles_iff_of_same (a := .call ctx object (.openFile mode)) h
      hvalid ?_).mpr ⟨fun _ hfails => ?_, hrefuses⟩⟩
    · rw [htable]
      exact h.wellFormed.reserve object _
    · rw [htable, hstep']
      intro call hcall
      rcases List.mem_append.mp hcall with hcall | hcall
      · exact (h.owned call hcall).reserve object _
      · rw [List.mem_singleton.mp hcall]
        exact List.mem_append_right _ (List.mem_singleton.mpr rfl)
    · rw [hstep']
      intro call hcall
      rcases List.mem_append.mp hcall with hcall | hcall
      · exact h.context_update ctx object call hcall
      · rw [List.mem_singleton.mp hcall]
        simp [wait, ht]
    · intro file
      rw [hcount, hvalid]
      exact h.counted file
    · rw [hvalid]
      exact h.exclusive
    · exact fun file => congrArg FileTypeData.openCount (congrFun hcount file)
    · have hno : (s.execute ctx object (.openFile mode)).2.any isFailure = false := by
        rw [hstep']
        exact hevents
      exact absurd (hno.symm.trans hfails) Bool.false_ne_true

/-! ### Calls that go on -/

section

variable {call : PendingCall F C} (hcall : s.calls[index]? = some call) (outcome : Option FsResult)
include hcall

lemma step_resume :
    s.step (.resume index outcome) = s.resume index call outcome := by
  rw [step, hcall]

omit [DecidableEq F] [DecidableEq C] in
lemma stepCondition_resume :
    s.StepCondition (.resume index outcome) ↔ s.ResumeCondition call outcome :=
  ⟨fun h => h call hcall, fun h other hother => by
    rw [hcall] at hother
    exact Option.some.inj hother ▸ h⟩

end

variable {events : List (FileEvent F)}

/-- **A quiet step**: a call goes on, and neither the table of leases nor a count changes. It does
what is expected when it is no failure of a call of `Open`. -/
lemma resume_quiet (h : s.Inv) {call : PendingCall F C}
    (hcall : s.calls[index]? = some call) (outcome : Option FsResult)
    (hresume : s.resume index call outcome = (s', events)) (htable : s'.leaseTable = s.leaseTable)
    (hcount : ∀ file, (s'.fileData file).openCount = (s.fileData file).openCount)
    (hcalls : ∀ other ∈ s'.calls, Owned s.leaseTable other ∧ s.object other.context ≠ none)
    (hobj : s'.object = s.object)
    (hfails : call.opening? = none ∨ events.any isFailure = false) :
    (s.step (.resume index outcome)).1.Inv ∧ s.KeepsHandles (.resume index outcome) := by
  have hstep := (step_resume hcall outcome).trans hresume
  refine ⟨?_, (keepsHandles_iff_of_same h ?_ ?_).mpr ⟨?_, trivial⟩⟩
  · rw [hstep]
    refine h.frame htable hcount (fun other hother => (hcalls other hother).1) ?_
    rw [hobj]
    exact fun other hother => (hcalls other hother).2
  · rw [hstep, validHandles, htable]
    rfl
  · rw [hstep]
    exact hcount
  · intro other fileHandle hother hopening hfail
    obtain rfl := Option.some.inj (hcall.symm.trans hother)
    rw [Fails, hstep] at hfail
    rcases hfails with hfails | hfails
    · exact nomatch hopening.symm.trans hfails
    · exact absurd (hfails.symm.trans hfail) Bool.false_ne_true

omit [DecidableEq C] in
lemma Inv.calls_ended (h : s.Inv) (index : ℕ) :
    ∀ other ∈ (s.ended index).calls, Owned s.leaseTable other ∧ s.object other.context ≠ none :=
  fun other hother => ⟨h.owned other (List.mem_of_mem_eraseIdx hother),
    h.context other (List.mem_of_mem_eraseIdx hother)⟩

variable {stage : OpenStage F} {mode : UInt8}

omit [DecidableEq C] in
/-- The calls after one of `Open` waits again. -/
lemma Inv.calls_waitAgain (h : s.Inv)
    (hcall : s.calls[index]? = some ⟨context, object, .opening stage mode fileHandle⟩)
    (stage' : OpenStage F) :
    ∀ other ∈ s.calls.set index ⟨context, object, .opening stage' mode fileHandle⟩,
      Owned s.leaseTable other ∧ s.object other.context ≠ none := by
  have howned := h.owned _ (List.mem_of_getElem? hcall)
  have hcontext := h.context _ (List.mem_of_getElem? hcall)
  intro other hother
  rcases List.mem_or_eq_of_mem_set hother with hother | rfl
  · exact ⟨h.owned other hother, h.context other hother⟩
  · exact ⟨howned, hcontext⟩

omit [DecidableEq C] in
lemma openCount_updateFileData (s : FileServer U F C) (object file : F)
    (change : FileTypeData → FileTypeData) (delta : ℤ)
    (hchange : ∀ d, (change d).openCount = d.openCount + delta) :
    ((s.updateFileData object change).fileData file).openCount =
      (s.fileData file).openCount + if object = file then delta else 0 := by
  simp only [updateFileData]
  by_cases heq : file = object
  · rw [heq, Function.update_self, if_pos rfl, hchange]
  · rw [Function.update_of_ne heq, if_neg (Ne.symm heq), add_zero]

section

variable (h : s.Inv)
  (hcall : s.calls[index]? = some ⟨context, object, .opening stage mode fileHandle⟩)
include h hcall

/-- **A failure of `Open`** leaves its handle in the table. -/
lemma not_keepsHandles_of_open_fails {outcome : Option FsResult}
    (hresume : s.resume index ⟨context, object, .opening stage mode fileHandle⟩ outcome =
      (s.ended index, events)) (hevents : events.any isFailure = true) :
    ¬ s.KeepsHandles (.resume index outcome) := by
  intro hkeeps
  have hstep := (step_resume hcall outcome).trans hresume
  have hfails : s.Fails (.resume index outcome) := by
    rw [Fails, hstep]
    exact hevents
  refine hkeeps.failedOpen _ fileHandle hcall rfl hfails ⟨fileHandle, object, hasBit mode WriteBit⟩
    ?_ rfl
  rw [hstep, leaseTable_ended_opening s h.wellFormed hcall rfl]
  exact h.owned _ (List.mem_of_getElem? hcall)

/-- **A call of `Open` that goes on** does what is expected exactly when its condition holds, and then
the invariant is kept. -/
lemma resumeOpen_keepsHandles_iff (outcome : Option FsResult) :
    (s.ResumeCondition ⟨context, object, .opening stage mode fileHandle⟩ outcome →
      (s.step (.resume index outcome)).1.Inv) ∧
    (s.KeepsHandles (.resume index outcome) ↔
      s.ResumeCondition ⟨context, object, .opening stage mode fileHandle⟩ outcome) := by
  cases stage with
  | refreshFileContentFunc =>
    cases outcome with
    | none =>
      refine ⟨fun h => absurd h Bool.false_ne_true, iff_of_false ?_ Bool.false_ne_true⟩
      exact not_keepsHandles_of_open_fails h hcall rfl rfl
    | some refreshed =>
      have hquiet := resume_quiet h hcall (some refreshed) rfl
        (leaseTable_waitAgain s hcall rfl) (fun _ => rfl) (h.calls_waitAgain hcall _) rfl (Or.inr rfl)
      exact ⟨fun _ => hquiet.1, iff_of_true hquiet.2 rfl⟩
  | refresh =>
    have hquiet := resume_quiet h hcall outcome rfl ?_ ?_ (h.calls_waitAgain hcall _) rfl
      (Or.inr rfl)
    · exact ⟨fun _ => hquiet.1, iff_of_true hquiet.2 trivial⟩
    · exact leaseTable_waitAgain (s.updateFileData object _) hcall rfl
    · intro file
      have hcount := openCount_updateFileData s object file (fun d =>
        { d with fileSize := outcome.elim 0 (·.value) }) 0 fun d => (add_zero _).symm
      rw [ite_self, add_zero] at hcount
      cases outcome <;> exact hcount
  | refreshed =>
    cases hobj : s.object context with
    | none => exact absurd hobj (h.context _ (List.mem_of_getElem? hcall))
    | some abstractFs =>
      have hresume : s.resume index ⟨context, object, .opening .refreshed mode fileHandle⟩ outcome =
          (s.waitAgain index ⟨context, object, .opening (.opening abstractFs) mode fileHandle⟩,
            [.operation abstractFs
              (.openFile (s.fileData object).filename (toNodeJSMode mode))]) := by
        simp only [resume, resumeOpen, hobj]
      have hquiet := resume_quiet h hcall outcome hresume (leaseTable_waitAgain s hcall rfl)
        (fun _ => rfl) (h.calls_waitAgain hcall _) rfl (Or.inr rfl)
      exact ⟨fun _ => hquiet.1, iff_of_true hquiet.2 trivial⟩
  | opening abstractFs =>
    cases outcome with
    | none =>
      refine ⟨fun h => absurd h Bool.false_ne_true, iff_of_false ?_ Bool.false_ne_true⟩
      exact not_keepsHandles_of_open_fails h hcall rfl rfl
    | some opened =>
      have hquiet := resume_quiet h hcall (some opened) rfl ?_ (fun _ => rfl)
        (h.calls_waitAgain hcall _) rfl (Or.inr rfl)
      · exact ⟨fun _ => hquiet.1, iff_of_true hquiet.2 rfl⟩
      · refine (leaseTable_waitAgain (s.updateFileInfo fileHandle _) hcall ?_).trans
          (leaseTable_updateFileInfo s fileHandle ?_)
        · rfl
        · exact fun _ => ⟨rfl, rfl⟩
  | stat abstractFs =>
    cases outcome with
    | none =>
      refine ⟨fun h => absurd h.1 Bool.false_ne_true, iff_of_false ?_ fun h => Bool.false_ne_true h.1⟩
      exact not_keepsHandles_of_open_fails h hcall rfl rfl
    | some stat =>
      set lease : Lease ℕ F := ⟨fileHandle, object, hasBit mode WriteBit⟩ with hlease
      have hopened : lease ∈ s.leaseTable.table := h.owned _ (List.mem_of_getElem? hcall)
      have hresv : lease.key ∈ s.leaseTable.reserved :=
        List.mem_filterMap.mpr ⟨_, List.mem_of_getElem? hcall, rfl⟩
      have hstep := step_resume hcall (some stat)
      have htable : (s.step (.resume index (some stat))).1.leaseTable =
          s.leaseTable.grant fileHandle := by
        rw [hstep]
        refine Eq.trans ?_ (leaseTable_ended_opening s h.wellFormed hcall rfl)
        exact leaseTable_updateFileInfo (s.ended index) fileHandle fun _ => ⟨rfl, rfl⟩
      have hperm : (s.step (.resume index (some stat))).1.validHandles.Perm
          (s.validHandles ++ [lease]) := by
        rw [validHandles, htable]
        exact h.wellFormed.perm_granted_grant hopened hresv
      have hcnt : ∀ file, ((s.step (.resume index (some stat))).1.fileData file).openCount =
          (Lease.on (s.step (.resume index (some stat))).1.validHandles file).length := by
        intro file
        rw [Lease.length_on_perm hperm, Lease.length_on_concat, Nat.cast_add, ← h.counted file,
          hstep]
        refine (openCount_updateFileData s object file
          (fun d => { d with openCount := d.openCount + 1 }) 1 fun _ => rfl).trans ?_
        rw [Nat.cast_ite, Nat.cast_one, Nat.cast_zero]
      have hnew : ∀ a ∈ s.validHandles, a.key ≠ lease.key := by
        intro a ha heq
        exact (LeaseTable.mem_granted.mp ha).2 (heq ▸ hresv)
      have hexcl : Lease.Exclusive (s.step (.resume index (some stat))).1.validHandles ↔
          Lease.Admits s.validHandles lease := by
        rw [Lease.exclusive_perm hperm]
        exact Lease.exclusive_concat_iff hnew h.exclusive
      refine ⟨fun hcond => ⟨?_, ?_, ?_, hcnt, hexcl.mpr hcond.2⟩,
        fun hkeeps => ⟨rfl, hexcl.mp hkeeps.exclusive⟩,
        fun hcond => ⟨hcnt, ?_, trivial, hexcl.mpr hcond.2⟩⟩
      · rw [htable]
        exact h.wellFormed.grant fileHandle
      · rw [htable, hstep]
        exact fun other hother => ((h.calls_ended index other hother).1).grant fileHandle
      · rw [hstep]
        exact fun other hother => (h.calls_ended index other hother).2
      · intro other otherHandle _ _ hfails
        rw [Fails, hstep] at hfails
        exact absurd hfails Bool.false_ne_true

end

/-- **A call of `Close` that goes on** does what is expected exactly when its condition holds, and
then the invariant is kept. -/
lemma resumeClose_keepsHandles_iff (h : s.Inv)
    (hcall : s.calls[index]? = some ⟨context, object, .closing fileHandle⟩)
    (outcome : Option FsResult) :
    (s.ResumeCondition ⟨context, object, .closing fileHandle⟩ outcome →
      (s.step (.resume index outcome)).1.Inv) ∧
    (s.KeepsHandles (.resume index outcome) ↔
      s.ResumeCondition ⟨context, object, .closing fileHandle⟩ outcome) := by
  cases outcome with
  | none =>
    have hquiet := resume_quiet h hcall none rfl (leaseTable_ended s hcall rfl) (fun _ => rfl)
      (h.calls_ended index) rfl (Or.inl rfl)
    exact ⟨fun _ => hquiet.1, iff_of_true hquiet.2 nofun⟩
  | some closed =>
    have hstep := step_resume hcall (some closed)
    have htable : (s.step (.resume index (some closed))).1.leaseTable =
        s.leaseTable.remove fileHandle := by
      rw [hstep]
      refine (leaseTable_close (s.ended index) fileHandle).trans ?_
      rw [leaseTable_ended s hcall rfl]
    have hvalid : (s.step (.resume index (some closed))).1.validHandles =
        Lease.release fileHandle s.validHandles := by
      rw [validHandles, htable]
      exact s.leaseTable.granted_remove fileHandle
    have hcount : ∀ file, ((s.step (.resume index (some closed))).1.fileData file).openCount =
        (s.fileData file).openCount + if object = file then -1 else 0 := by
      intro file
      rw [hstep]
      exact openCount_updateFileData s object file
        (fun d => { d with openCount := d.openCount - 1 }) (-1) fun _ => rfl
    have hexcl : Lease.Exclusive (s.step (.resume index (some closed))).1.validHandles := by
      rw [hvalid]
      exact h.exclusive.release fileHandle
    -- the handle of a call of `Close` is one of its file as long as it is in the table
    have hown := (h.owned _ (List.mem_of_getElem? hcall)).2
    have hcnt : s.ResumeCondition ⟨context, object, .closing fileHandle⟩ (some closed) →
        ∀ file, ((s.step (.resume index (some closed))).1.fileData file).openCount =
          (Lease.on (s.step (.resume index (some closed))).1.validHandles file).length := by
      intro hcond file
      obtain ⟨l, hl, hkey⟩ := hcond rfl
      have hlen := Lease.length_on_release h.wellFormed.granted_nodup hl file
      have hresrc := hown l (LeaseTable.mem_granted.mp hl).1 hkey
      rw [hresrc, hkey] at hlen
      rw [hcount, hvalid, h.counted file, validHandles, hlen]
      split_ifs <;> omega
    refine ⟨fun hcond => ⟨?_, ?_, ?_, hcnt hcond, hexcl⟩, fun hkeeps _ => ?_,
      fun hcond => ⟨hcnt hcond, ?_, trivial, hexcl⟩⟩
    · obtain ⟨l, hl, hkey⟩ := hcond rfl
      rw [htable]
      exact h.wellFormed.remove (hkey ▸ (LeaseTable.mem_granted.mp hl).2)
    · obtain ⟨l, hl, hkey⟩ := hcond rfl
      rw [htable, hstep]
      intro other hother
      refine ((h.calls_ended index other hother).1).remove fun hopening => ?_
      refine (LeaseTable.mem_granted.mp hl).2 (List.mem_filterMap.mpr ⟨other, ?_, ?_⟩)
      · exact List.mem_of_mem_eraseIdx hother
      · rw [hopening, hkey]
    · rw [hstep]
      exact fun other hother => (h.calls_ended index other hother).2
    · by_contra hnone
      push Not at hnone
      have hcnt := hkeeps.counted object
      rw [hcount, hvalid, Lease.release_of_not_mem hnone, if_pos rfl, h.counted object] at hcnt
      omega
    · intro other otherHandle hother hopening
      obtain rfl := Option.some.inj (hcall.symm.trans hother)
      exact nomatch hopening

/-- **A call of `Read` or `Write` that goes on** changes neither a handle nor a count of openings. -/
lemma resume_keepsHandles (h : s.Inv) {call : PendingCall F C}
    (hcall : s.calls[index]? = some call) (outcome : Option FsResult)
    (hcont : (∃ fileHandle length, call.continuation = .reading fileHandle length) ∨
      ∃ fileHandle, call.continuation = .writing fileHandle) :
    (s.step (.resume index outcome)).1.Inv ∧ s.KeepsHandles (.resume index outcome) := by
  have hopening : call.opening? = none := by
    obtain ⟨_, _, h⟩ | ⟨_, h⟩ := hcont <;> rw [PendingCall.opening?, h]
  have hended := leaseTable_ended s hcall hopening
  obtain ⟨fileHandle, length, hread⟩ | ⟨fileHandle, hwriting⟩ := hcont
  · have hresume : s.resume index call outcome =
        s.resumeRead index fileHandle length outcome := by rw [resume, hread]
    cases outcome with
    | none =>
      exact resume_quiet h hcall none hresume hended (fun _ => rfl) (h.calls_ended index) rfl
        (Or.inl hopening)
    | some read =>
      refine resume_quiet h hcall (some read) hresume ?_ (fun _ => rfl) (h.calls_ended index) rfl
        (Or.inl hopening)
      refine (leaseTable_updateFileInfo (s.ended index) fileHandle ?_).trans hended
      exact fun _ => ⟨rfl, rfl⟩
  · have hresume : s.resume index call outcome =
        s.resumeWrite index call.context fileHandle outcome := by rw [resume, hwriting]
    cases outcome with
    | none =>
      exact resume_quiet h hcall none hresume hended (fun _ => rfl) (h.calls_ended index) rfl
        (Or.inl hopening)
    | some written =>
      have hupdated : ((s.ended index).updateFileInfo fileHandle fun e =>
          { e with
            position := (e.position.1, e.position.2 + written.value)
            size := max e.size (e.position.2 + written.value) }).leaseTable = s.leaseTable := by
        refine (leaseTable_updateFileInfo (s.ended index) fileHandle ?_).trans hended
        exact fun _ => ⟨rfl, rfl⟩
      unfold resumeWrite at hresume
      dsimp only at hresume
      split at hresume
      · refine resume_quiet h hcall (some written) hresume hupdated (fun file => ?_)
          (h.calls_ended index) rfl (Or.inl hopening)
        next object info _ _ =>
          refine (openCount_updateFileData s object file (fun d =>
            { d with fileSize := max d.fileSize info.position.2 }) 0 fun d => (add_zero _).symm).trans
              ?_
          rw [ite_self, add_zero]
      · exact resume_quiet h hcall (some written) hresume hupdated (fun _ => rfl)
          (h.calls_ended index) rfl (Or.inl hopening)

/-! ### Steps and runs -/

/-- **A step** does what is expected exactly when its condition holds, and then the invariant is
kept. -/
lemma step_keepsHandles_iff (h : s.Inv) (a : FileInput F C) :
    (s.StepCondition a → (s.step a).1.Inv) ∧ (s.KeepsHandles a ↔ s.StepCondition a) := by
  cases a with
  | call ctx object request =>
    cases hreq : request.fileHandle? with
    | none =>
      obtain ⟨mode, rfl⟩ : ∃ mode, request = .openFile mode := by
        cases request with
        | openFile mode => exact ⟨mode, rfl⟩
        | _ => exact nomatch hreq
      have hopen := open_keepsHandles h ctx object mode
      exact ⟨fun _ => hopen.1, iff_of_true hopen.2 nofun⟩
    | some fileHandle =>
      exact ⟨h.call hreq, call_keepsHandles_iff h hreq⟩
  | resume index outcome =>
    cases hcall : s.calls[index]? with
    | none =>
      have hstep : s.step (.resume index outcome) = (s, []) := by rw [step, hcall]
      have hcond : s.StepCondition (.resume index outcome) := by
        intro call hsome
        exact nomatch hcall.symm.trans hsome
      refine ⟨fun _ => hstep ▸ h, iff_of_true ?_ hcond⟩
      refine (keepsHandles_iff_of_same h ?_ ?_).mpr ⟨?_, trivial⟩
      · rw [hstep]
      · exact fun _ => by rw [hstep]
      · intro call fileHandle hsome
        exact nomatch hcall.symm.trans hsome
    | some call =>
      rw [stepCondition_resume hcall outcome]
      obtain ⟨ctx, object, cont⟩ := call
      cases cont with
      | opening stage mode fileHandle => exact resumeOpen_keepsHandles_iff h hcall outcome
      | closing fileHandle => exact resumeClose_keepsHandles_iff h hcall outcome
      | reading fileHandle length =>
        have hread := resume_keepsHandles h hcall outcome (Or.inl ⟨_, _, rfl⟩)
        exact ⟨fun _ => hread.1, iff_of_true hread.2 trivial⟩
      | writing fileHandle =>
        have hwrite := resume_keepsHandles h hcall outcome (Or.inr ⟨_, rfl⟩)
        exact ⟨fun _ => hwrite.1, iff_of_true hwrite.2 trivial⟩

omit [DecidableEq C] in
lemma Initial.inv (h : s.Initial) : s.Inv where
  wellFormed := by
    refine ⟨?_, ?_, ?_, ?_⟩ <;> simp [leaseTable, h.files, h.calls]
  owned := by simp [h.calls]
  context := by simp [h.calls]
  counted file := by
    rw [h.openCount file]
    simp [validHandles, leaseTable, LeaseTable.granted, h.files, Lease.on]
  exclusive := by
    simp [validHandles, leaseTable, LeaseTable.granted, h.files, Lease.Exclusive]

/-- **The handles of a run**: in every run of calls of the methods of any files by any sessions, where
the calls may wait for one another and every operation may fail, each step does what is expected of
the handles exactly when it meets its condition. -/
theorem run_keepsHandles_iff (s : FileServer U F C) (hinitial : s.Initial)
    (inputs : List (FileInput F C)) :
    Mealy.Along step KeepsHandles s inputs ↔ Mealy.Along step StepCondition s inputs :=
  (Mealy.along_iff step (I := Inv) (fun _ a h => (step_keepsHandles_iff h a).1)
    (fun _ a h => ((step_keepsHandles_iff h a).2).symm) hinitial.inv inputs).symm

/-- A file is opened for reading, and closed on the file itself. -/
theorem run_keepsHandles_read_close :
    let s : FileServer .ascii Bool Unit :=
      { addressSpace := { currentFileHandle := 0, files := [] }
        fileData := fun _ =>
          { filename := "/tmp/file"
            maxChunkSizeBytes := 16777216
            hasRefreshFileContentFunc := false
            openCount := 0
            fileSize := 3 }
        session := fun _ => some { sessionId := ⟨⟨1, .numeric 1⟩, nofun⟩, maxMessageSize := none }
        object := fun _ => none
        calls := [] }
    let goesOn : FileInput Bool Unit := .resume 0 (some { value := 3 })
    Mealy.Along step KeepsHandles s
      [.call () false (.openFile OpenFileMode.Read), goesOn, goesOn, goesOn,
        .call () false (.closeFile 42), goesOn] := by
  refine (run_keepsHandles_iff _ ⟨rfl, rfl, fun _ => rfl, rfl⟩ _).mpr
    ⟨nofun, ?_, ?_, ?_, ?_, ?_, trivial⟩
  · intro call hcall
    obtain rfl := Option.some.inj hcall
    trivial
  · intro call hcall
    obtain rfl := Option.some.inj hcall
    rfl
  · intro call hcall
    obtain rfl := Option.some.inj hcall
    exact ⟨rfl, by decide⟩
  · intro fileHandle e hreq hinfo _
    obtain rfl := Option.some.inj hreq
    obtain rfl := Option.some.inj hinfo
    rfl
  · intro call hcall
    obtain rfl := Option.some.inj hcall
    exact fun _ => by decide

/-- **Not every run keeps its handles**: an `Open` whose file cannot be opened leaves its handle; a
file is opened for writing a second time; and the handle of one file is closed on another one. -/
theorem runs_not_keepsHandles :
    let s : FileServer .ascii Bool Unit :=
      { addressSpace := { currentFileHandle := 0, files := [] }
        fileData := fun _ =>
          { filename := "/tmp/file"
            maxChunkSizeBytes := 16777216
            hasRefreshFileContentFunc := false
            openCount := 0
            fileSize := 3 }
        session := fun _ => some { sessionId := ⟨⟨1, .numeric 1⟩, nofun⟩, maxMessageSize := none }
        object := fun _ => none
        calls := [] }
    let openFile : FileInput Bool Unit := .call () false (.openFile OpenFileMode.Write)
    let opened : FileInput Bool Unit := .resume 0 (some { value := 3 })
    s.Initial ∧ ¬ Mealy.Along step KeepsHandles s [openFile, .resume 0 none] ∧
      ¬ Mealy.Along step KeepsHandles s [openFile, opened, opened, openFile, opened, opened] ∧
      ¬ Mealy.Along step KeepsHandles s [openFile, opened, opened, .call () true (.closeFile 42)] := by
  refine ⟨⟨rfl, rfl, fun _ => rfl, rfl⟩, fun h => ?_, fun h => ?_, fun h => ?_⟩
  · exact absurd (h.2.1.counted false) (by decide)
  · exact absurd h.2.2.2.2.2.1.exclusive (by decide)
  · obtain ⟨e, he, -, -, hfile, -⟩ := h.2.2.2.1.refused 42 rfl (by unfold Fails; decide)
    revert e
    decide

end FileServer

end NodeOpcua
