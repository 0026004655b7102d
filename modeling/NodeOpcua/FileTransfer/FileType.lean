import Mathlib.Logic.Function.Basic
import NodeOpcua.NodeId.Basic
import NodeOpcua.StatusCode

set_option autoImplicit false

/-!
# The methods of file objects

An object of `FileType` stands for a file of the server. A client opens it, and reads and writes with
the handle it gets. The handles of all files are in one table of the address space, and every file
counts how often it is open.

## Main definitions

* `FileAccessData`, `FileTypeM`, `FileTypeData`, `FileServer`, `FileServer._openFile`, `_closeFile`,
  `_readFile`, `_writeFile`, `_setPositionFile`, `_getPositionFile`, `FileServer.step`.

## Design

* A call that waits is in a list, with what is left of it; it goes on when its operation succeeds or
  fails, in any order with the other calls.
* A session has one context for all its calls, whose `object` is that of the last call. There are no
  interceptors between the call and the method.
* The entry of a handle is kept after it was deleted from the table, for the calls that still use it.
  It has the file it was opened on, at which no function of the source looks.
* A handle is a natural number.
-/

namespace NodeOpcua

/-! ### The modes -/

namespace OpenFileModeMask

def ReadBit : UInt8 := 0x01
def WriteBit : UInt8 := 0x02
def EraseExistingBit : UInt8 := 0x04
def AppendBit : UInt8 := 0x08

end OpenFileModeMask

namespace OpenFileMode

open OpenFileModeMask

def Read : UInt8 := ReadBit
def Write : UInt8 := WriteBit
def ReadWrite : UInt8 := ReadBit + WriteBit
def WriteEraseExisting : UInt8 := EraseExistingBit + WriteBit
def ReadWriteEraseExisting : UInt8 := EraseExistingBit + WriteBit + ReadBit
def WriteAppend : UInt8 := AppendBit + WriteBit
def ReadWriteAppend : UInt8 := AppendBit + WriteBit + ReadBit

end OpenFileMode

/-- `toNodeJSMode`. -/
def toNodeJSMode (opcuaMode : UInt8) : String :=
  if opcuaMode = OpenFileMode.Read then "r"
  else if opcuaMode = OpenFileMode.ReadWrite ∨ opcuaMode = OpenFileMode.Write then "r+"
  else if opcuaMode = OpenFileMode.ReadWriteAppend ∨ opcuaMode = OpenFileMode.WriteAppend then "a+"
  else if opcuaMode = OpenFileMode.WriteEraseExisting ∨
      opcuaMode = OpenFileMode.ReadWriteEraseExisting then "w+"
  else "?"

/-- A bit of a mode is set. -/
def hasBit (mode bit : UInt8) : Bool := mode &&& bit ≠ 0

/-! ### The sessions and the table of the handles -/

section

variable (U : CaseMapping)

/-- The identifier of a session is not a null byte string. -/
abbrev SessionId := { nodeId : NodeId U // nodeId.value ≠ .byteString none }

/-- What is used of a session. The maximal size of a message is missing when there is no channel or
its settings are not known. -/
structure FileSession where
  sessionId : SessionId U
  maxMessageSize : Option ℕ

/-- **What is kept for a handle**, with the file it was opened on and whether it was deleted from the
table. -/
structure FileAccessData (F : Type) where
  fd : ℤ
  handle : ℕ
  openMode : UInt8
  position : ℕ × ℕ
  size : ℕ
  sessionId : SessionId U
  file : F
  deleted : Bool

/-- **The table of the handles**: `$$currentFileHandle`, which is 0 when it is not set, and
`$$files`. -/
structure FileTypeM (F : Type) where
  currentFileHandle : ℕ
  files : List (FileAccessData U F)

end

variable {U : CaseMapping} {F C : Type}

/-- `_getSessionId`. -/
def _getSessionId (session : Option (FileSession U)) : SessionId U :=
  match session with
  | none => ⟨⟨0, .numeric 0⟩, nofun⟩
  | some session => session.sessionId

/-- `getContextMaxMessageSize`. -/
def getContextMaxMessageSize (session : Option (FileSession U)) : ℕ :=
  match session with
  | none => 0
  | some session => session.maxMessageSize.getD 0

namespace FileTypeM

variable (m : FileTypeM U F)

/-- `_prepare`. -/
def _prepare : FileTypeM U F :=
  { m with currentFileHandle := if m.currentFileHandle = 0 then 41 else m.currentFileHandle }

/-- `_addFile`, for a file. -/
def _addFile (session : Option (FileSession U)) (file : F) (openMode : UInt8) :
    ℕ × FileTypeM U F :=
  let m := m._prepare
  let fileHandle := m.currentFileHandle + 1
  let _fileData : FileAccessData U F :=
    { fd := -1
      handle := fileHandle
      openMode := openMode
      position := (0, 0)
      size := 0
      sessionId := _getSessionId session
      file := file
      deleted := false }
  (fileHandle, { currentFileHandle := fileHandle, files := m.files ++ [_fileData] })

/-- `_getFileInfo`: the entry of a handle, when it is one of the session. -/
def _getFileInfo (session : Option (FileSession U)) (fileHandle : ℕ) :
    Option (FileAccessData U F) :=
  match m.files.find? fun e => e.handle = fileHandle && !e.deleted with
  | none => none
  | some _fileInfo =>
    match sameNodeId _fileInfo.sessionId.1 (_getSessionId session).1 with
    | .ok true => some _fileInfo
    | _ => none

/-- The entry of a handle is changed. -/
def update (fileHandle : ℕ) (change : FileAccessData U F → FileAccessData U F) :
    FileTypeM U F :=
  { m with files := m.files.map fun e => if e.handle = fileHandle then change e else e }

/-- `_close`. -/
def _close (fileHandle : ℕ) : FileTypeM U F :=
  m._prepare.update fileHandle fun e => { e with deleted := true }

end FileTypeM

/-! ### The files and the calls -/

/-- **What is kept for a file.** -/
structure FileTypeData where
  filename : String
  maxChunkSizeBytes : ℕ
  hasRefreshFileContentFunc : Bool
  openCount : ℤ
  fileSize : ℕ
  deriving DecidableEq, Repr

/-- An operation on a file system, or the function that refreshes a file. -/
inductive FsOperation
  | refreshFileContentFunc
  | refresh (filename : String)
  | openFile (filename flags : String)
  | stat (filename : String)
  | close (fd : ℤ)
  | read (fd : ℤ) (length position : ℕ)
  | write (fd : ℤ) (data : Buffer) (position : ℕ)
  deriving DecidableEq, Repr

/-- What an operation gives when it succeeds: the descriptor, the size or the number of bytes, and
the buffer that was read into. -/
structure FsResult where
  value : ℕ := 0
  buffer : Buffer := []
  deriving DecidableEq, Repr

/-- Where a call of `Open` waits. A call that has a file system at hand keeps the file whose file
system it is. -/
inductive OpenStage (F : Type)
  | refreshFileContentFunc
  | refresh
  | refreshed
  | opening (abstractFs : F)
  | stat (abstractFs : F)
  deriving DecidableEq, Repr

/-- What is left of a call that waits. -/
inductive FileContinuation (F : Type)
  | opening (stage : OpenStage F) (mode : UInt8) (fileHandle : ℕ)
  | closing (fileHandle : ℕ)
  | reading (fileHandle : ℕ) (length : ℕ)
  | writing (fileHandle : ℕ)
  deriving DecidableEq, Repr

/-- **A call that waits**: its context, and the object it was made on. -/
structure PendingCall (F C : Type) where
  context : C
  object : F
  continuation : FileContinuation F
  deriving DecidableEq, Repr

/-- An output argument. -/
inductive OutputArgument
  | uint32 (value : ℕ)
  | uint64 (value : ℕ × ℕ)
  | byteString (value : Buffer)
  deriving DecidableEq, Repr

/-- The result of a call. -/
structure FileCallResult where
  statusCode : StatusCode
  outputArguments : List OutputArgument := []
  deriving DecidableEq, Repr

/-- What happens in a step: an operation of the file system of a file is started, the call returns,
or it throws. -/
inductive FileEvent (F : Type)
  | operation (abstractFs : F) (operation : FsOperation)
  | returned (result : FileCallResult)
  | rejected
  deriving DecidableEq, Repr

/-- A call ends and is not good. -/
def FileEvent.isFailure : FileEvent F → Bool
  | operation _ _ => false
  | returned result => result.statusCode ≠ .Good
  | rejected => true

/-- A method with its arguments. -/
inductive FileRequest
  | openFile (mode : UInt8)
  | closeFile (fileHandle : ℕ)
  | readFile (fileHandle : ℕ) (length : ℤ)
  | writeFile (fileHandle : ℕ) (data : Option Buffer)
  | setPositionFile (fileHandle : ℕ) (position : ℕ × ℕ)
  | getPositionFile (fileHandle : ℕ)
  deriving DecidableEq, Repr

/-- **The server**: the table, the files, the session of each context and the object of its last call,
and the calls that wait. -/
structure FileServer (U : CaseMapping) (F C : Type) where
  addressSpace : FileTypeM U F
  fileData : F → FileTypeData
  session : C → Option (FileSession U)
  object : C → Option F
  calls : List (PendingCall F C)

/-- A method of an object is called, or a waiting call goes on with what its operation gave, which is
nothing when it failed. -/
inductive FileInput (F C : Type)
  | call (context : C) (object : F) (request : FileRequest)
  | resume (index : ℕ) (outcome : Option FsResult)
  deriving DecidableEq, Repr

namespace FileServer

section

variable (s : FileServer U F C)

/-- The call returns. -/
def reply (statusCode : StatusCode)
    (outputArguments : List OutputArgument := []) : FileServer U F C × List (FileEvent F) :=
  (s, [.returned { statusCode := statusCode, outputArguments := outputArguments }])

/-- The call throws. -/
def reject : FileServer U F C × List (FileEvent F) := (s, [.rejected])

/-- The call waits. -/
def wait (call : PendingCall F C) : FileServer U F C :=
  { s with calls := s.calls ++ [call] }

/-- The call waits for an operation. -/
def await (call : PendingCall F C) (abstractFs : F)
    (operation : FsOperation) : FileServer U F C × List (FileEvent F) :=
  (s.wait call, [.operation abstractFs operation])

/-- The entry of a handle is changed. -/
def updateFileInfo (fileHandle : ℕ)
    (change : FileAccessData U F → FileAccessData U F) : FileServer U F C :=
  { s with addressSpace := s.addressSpace.update fileHandle change }

end

/-- What is kept for a file is changed. -/
def updateFileData [DecidableEq F] (s : FileServer U F C) (file : F)
    (change : FileTypeData → FileTypeData) : FileServer U F C :=
  { s with fileData := Function.update s.fileData file (change (s.fileData file)) }

/-! ### The methods -/

/-- **`_openFile`**: the handle is in the table before anything can fail. -/
def _openFile (s : FileServer U F C) (context : C) (object : F) (mode : UInt8) :
    FileServer U F C × List (FileEvent F) :=
  let flags := toNodeJSMode mode
  if flags = "?" then s.reply .BadInvalidArgument
  else
    let (fileHandle, m) := s.addressSpace._addFile (s.session context) object mode
    let s := { s with addressSpace := m._prepare }
    match m._getFileInfo (s.session context) fileHandle with
    | none => s.reply .BadInvalidArgument
    | some _ =>
      let fileData := s.fileData object
      if mode = OpenFileMode.Read then
        if fileData.hasRefreshFileContentFunc then
          s.await ⟨context, object, .opening .refreshFileContentFunc mode fileHandle⟩ object
            .refreshFileContentFunc
        else (s.wait ⟨context, object, .opening .refreshed mode fileHandle⟩, [])
      else
        s.await ⟨context, object, .opening (.opening object) mode fileHandle⟩ object
          (.openFile fileData.filename flags)

/-- **`_closeFile`.** -/
def _closeFile (s : FileServer U F C) (context : C) (object : F) (fileHandle : ℕ) :
    FileServer U F C × List (FileEvent F) :=
  let _fileInfo := s.addressSpace._getFileInfo (s.session context) fileHandle
  let s := { s with addressSpace := s.addressSpace._prepare }
  match _fileInfo with
  | none => s.reply .BadInvalidArgument
  | some _fileInfo => s.await ⟨context, object, .closing fileHandle⟩ object (.close _fileInfo.fd)

/-- The length that is read: not more than the file, a byte string and a message allow, and not more
than what is left of the file. -/
def readLength (maxChunkSizeBytes maxMessageSize : ℕ) (length : ℤ) (size position : ℕ) : ℤ :=
  let length := min length maxChunkSizeBytes
  let length := min length (16 * 1024 * 1024)
  let maxMessageSize : ℤ := maxMessageSize - 1024
  let length := if 0 < maxMessageSize then min length maxMessageSize else length
  min (size - position) length

section

variable (s : FileServer U F C) (context : C)

/-- **`_readFile`**: a buffer of a negative length is not allocated. -/
def _readFile (object : F) (fileHandle : ℕ) (length : ℤ) :
    FileServer U F C × List (FileEvent F) :=
  if length < 0 then s.reply .BadInvalidArgument
  else
    let _fileInfo := s.addressSpace._getFileInfo (s.session context) fileHandle
    let s := { s with addressSpace := s.addressSpace._prepare }
    match _fileInfo with
    | none => s.reply .BadInvalidState
    | some _fileInfo =>
      if !hasBit _fileInfo.openMode OpenFileModeMask.ReadBit then s.reply .BadInvalidState
      else
        let length := readLength (s.fileData object).maxChunkSizeBytes
          (getContextMaxMessageSize (s.session context)) length _fileInfo.size _fileInfo.position.2
        if length < 0 then s.reject
        else
          s.await ⟨context, object, .reading fileHandle length.toNat⟩ object
            (.read _fileInfo.fd length.toNat _fileInfo.position.2)

/-- **`_writeFile`.** -/
def _writeFile (object : F) (fileHandle : ℕ)
    (data : Option Buffer) : FileServer U F C × List (FileEvent F) :=
  let _fileInfo := s.addressSpace._getFileInfo (s.session context) fileHandle
  let s := { s with addressSpace := s.addressSpace._prepare }
  match _fileInfo with
  | none => s.reply .BadInvalidArgument
  | some _fileInfo =>
    if !hasBit _fileInfo.openMode OpenFileModeMask.WriteBit then s.reply .BadInvalidState
    else
      match data with
      | none => s.reply .BadUnexpectedError
      | some data =>
        s.await ⟨context, object, .writing fileHandle⟩ object
          (.write _fileInfo.fd data _fileInfo.position.2)

/-- `_setPositionFile`. -/
def _setPositionFile (fileHandle : ℕ) (position : ℕ × ℕ) :
    FileServer U F C × List (FileEvent F) :=
  let _fileInfo := s.addressSpace._getFileInfo (s.session context) fileHandle
  let s := { s with addressSpace := s.addressSpace._prepare }
  match _fileInfo with
  | none => s.reply .BadInvalidArgument
  | some _ => (s.updateFileInfo fileHandle fun e => { e with position := position }).reply .Good

/-- `_getPositionFile`. -/
def _getPositionFile (fileHandle : ℕ) :
    FileServer U F C × List (FileEvent F) :=
  let _fileInfo := s.addressSpace._getFileInfo (s.session context) fileHandle
  let s := { s with addressSpace := s.addressSpace._prepare }
  match _fileInfo with
  | none => s.reply .BadInvalidArgument
  | some _fileInfo => s.reply .Good [.uint64 _fileInfo.position]

end

/-- The object of the context is that of the call, and the method is called. -/
def execute [DecidableEq C] (s : FileServer U F C) (context : C) (object : F) :
    FileRequest → FileServer U F C × List (FileEvent F) :=
  let s := { s with object := Function.update s.object context (some object) }
  fun
  | .openFile mode => s._openFile context object mode
  | .closeFile fileHandle => s._closeFile context object fileHandle
  | .readFile fileHandle length => s._readFile context object fileHandle length
  | .writeFile fileHandle data => s._writeFile context object fileHandle data
  | .setPositionFile fileHandle position => s._setPositionFile context fileHandle position
  | .getPositionFile fileHandle => s._getPositionFile context fileHandle

/-! ### What is left of a call -/

/-- The call has ended. -/
def ended (s : FileServer U F C) (index : ℕ) : FileServer U F C :=
  { s with calls := s.calls.eraseIdx index }

/-- The call waits again. -/
def waitAgain (s : FileServer U F C) (index : ℕ) (call : PendingCall F C) : FileServer U F C :=
  { s with calls := s.calls.set index call }

variable [DecidableEq F]

section

variable (s : FileServer U F C) (index : ℕ)

/-- **The rest of `_openFile`.** The file system is that of the object of the context, which is looked
up after the file was refreshed. -/
def resumeOpen (context : C) (object : F) (stage : OpenStage F)
    (mode : UInt8) (fileHandle : ℕ) (outcome : Option FsResult) :
    FileServer U F C × List (FileEvent F) :=
  let filename := (s.fileData object).filename
  let again (stage : OpenStage F) : PendingCall F C :=
    ⟨context, object, .opening stage mode fileHandle⟩
  match stage with
  | .refreshFileContentFunc =>
    match outcome with
    | none => (s.ended index).reject
    | some _ => (s.waitAgain index (again .refresh), [.operation object (.refresh filename)])
  | .refresh =>
    let size := match outcome with
      | none => 0
      | some stat => stat.value
    ((s.updateFileData object fun d => { d with fileSize := size }).waitAgain index
      (again .refreshed), [])
  | .refreshed =>
    match s.object context with
    | none => (s.ended index).reject
    | some abstractFs =>
      (s.waitAgain index (again (.opening abstractFs)),
        [.operation abstractFs (.openFile filename (toNodeJSMode mode))])
  | .opening abstractFs =>
    match outcome with
    | none => (s.ended index).reply .BadUnexpectedError
    | some opened =>
      let s := s.updateFileInfo fileHandle fun e => { e with fd := opened.value, position := (0, 0) }
      (s.waitAgain index (again (.stat abstractFs)), [.operation abstractFs (.stat filename)])
  | .stat _ =>
    match outcome with
    | none => (s.ended index).reply .BadUnexpectedError
    | some stat =>
      let fileLength := stat.value
      let s := s.updateFileInfo fileHandle fun e =>
        { e with
          position := if hasBit mode OpenFileModeMask.AppendBit then (e.position.1, fileLength)
            else e.position
          size := if hasBit mode OpenFileModeMask.EraseExistingBit then 0 else fileLength }
      let s := s.updateFileData object fun d => { d with openCount := d.openCount + 1 }
      (s.ended index).reply .Good [.uint32 fileHandle]

/-- **The rest of `_closeFile`.** -/
def resumeClose (object : F) (fileHandle : ℕ)
    (outcome : Option FsResult) : FileServer U F C × List (FileEvent F) :=
  match outcome with
  | none => (s.ended index).reject
  | some _ =>
    let s := { s with addressSpace := s.addressSpace._close fileHandle }
    let s := s.updateFileData object fun d => { d with openCount := d.openCount - 1 }
    (s.ended index).reply .Good

/-- **The rest of `_readFile`.** -/
def resumeRead (fileHandle length : ℕ)
    (outcome : Option FsResult) : FileServer U F C × List (FileEvent F) :=
  match outcome with
  | none => (s.ended index).reply .BadUnexpectedError
  | some read =>
    let s := s.updateFileInfo fileHandle fun e =>
      { e with position := (e.position.1, e.position.2 + read.value) }
    (s.ended index).reply .Good [.byteString ((read.buffer.take length).take read.value)]

/-- **The rest of `_writeFile`.** The file whose size grows is the object of the context. -/
def resumeWrite (context : C) (fileHandle : ℕ)
    (outcome : Option FsResult) : FileServer U F C × List (FileEvent F) :=
  match outcome with
  | none => (s.ended index).reply .BadUnexpectedError
  | some written =>
    let s := s.updateFileInfo fileHandle fun e =>
      let position := e.position.2 + written.value
      { e with position := (e.position.1, position), size := max e.size position }
    match s.object context, s.addressSpace.files.find? fun e => e.handle = fileHandle with
    | some object, some _fileInfo =>
      let s := s.updateFileData object fun d =>
        { d with fileSize := max d.fileSize _fileInfo.position.2 }
      (s.ended index).reply .Good
    | _, _ => (s.ended index).reply .BadUnexpectedError

/-- A call goes on. -/
def resume (call : PendingCall F C) (outcome : Option FsResult) :
    FileServer U F C × List (FileEvent F) :=
  match call.continuation with
  | .opening stage mode fileHandle =>
    s.resumeOpen index call.context call.object stage mode fileHandle outcome
  | .closing fileHandle => s.resumeClose index call.object fileHandle outcome
  | .reading fileHandle length => s.resumeRead index fileHandle length outcome
  | .writing fileHandle => s.resumeWrite index call.context fileHandle outcome

end

/-- **A step of the server**: a method is called, or a waiting call goes on. -/
def step [DecidableEq C] (s : FileServer U F C) :
    FileInput F C → FileServer U F C × List (FileEvent F)
  | .call context object request => s.execute context object request
  | .resume index outcome =>
    match s.calls[index]? with
    | none => (s, [])
    | some call => s.resume index call outcome

end FileServer

end NodeOpcua
