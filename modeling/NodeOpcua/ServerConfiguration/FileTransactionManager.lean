import Mathlib.Logic.Function.Basic
import NodeOpcua.BinaryStream

set_option autoImplicit false

/-!
# Transactions on files

The server changes its certificates in a transaction: the new content of a file is staged in a
temporary folder, and the operations that move it into place or remove a file are applied together.

## Main definitions

* `FileSystem`, `_copyFile`, `_deleteFile`, `_moveFile`, `_moveFileWithBackup`,
  `FileTransactionManager`.

## Design

* Every call of the file system has an outcome that is given from outside. A copy that fails may leave
  its destination as it was, or anything in it.
* A name of a temporary file is random in the source. Here the names are numbered, and they are not
  names of other files.
* The clean-up tasks are left out, and so are operations that are neither writes nor removals.
-/

namespace NodeOpcua

/-- A path: that of a file, or that of a temporary file with its number. -/
inductive TransactionPath (P : Type)
  | file (path : P)
  | temporary (number : ℕ)
  deriving DecidableEq, Repr

/-- **The file system**: the content of every path, when there is a file. -/
abbrev FileSystem (P : Type) := TransactionPath P → Option Buffer

/-- What a copy does: it succeeds; or it fails, and leaves the destination as it was or as it is
given. -/
inductive CopyOutcome
  | done
  | failed (left : Option (Option Buffer))
  deriving DecidableEq, Repr

variable {P : Type} [DecidableEq P]

section

variable (fs : FileSystem P)

/-- `_copyFile`: a failure is logged. -/
def _copyFile (source dest : TransactionPath P) (outcome : CopyOutcome) :
    FileSystem P :=
  match fs source with
  | none => fs
  | some content =>
    match outcome with
    | .done => Function.update fs dest (some content)
    | .failed none => fs
    | .failed (some left) => Function.update fs dest left

/-- `_deleteFile`: a failure is logged. -/
def _deleteFile (file : TransactionPath P) (deleted : Bool) : FileSystem P :=
  match fs file with
  | none => fs
  | some _ => if deleted then Function.update fs file none else fs

/-- `_moveFile`: the source is deleted whether or not it was copied. -/
def _moveFile (source dest : TransactionPath P) (copy : CopyOutcome)
    (deleted : Bool) : FileSystem P :=
  _deleteFile (_copyFile fs source dest copy) source deleted

/-- `_moveFileWithBackup`. -/
def _moveFileWithBackup (source dest backupPath : TransactionPath P)
    (backup copy : CopyOutcome) (deleted : Bool) : FileSystem P :=
  _moveFile (_copyFile fs dest backupPath backup) source dest copy deleted

end

/-- A pending operation: a temporary file is moved into place, or a file is removed. -/
inductive FileOperation (P : Type)
  | move (source : ℕ) (dest : P)
  | remove (filePath : P)
  deriving DecidableEq, Repr

/-- The outcomes of the steps of an operation: the temporary folder is created, the backup is made,
the file is copied, and a file is deleted. -/
structure OperationOutcome where
  tmpdir : Bool := true
  backup : CopyOutcome := .done
  copy : CopyOutcome := .done
  deleted : Bool := true
  deriving DecidableEq, Repr

/-- The outcomes of all steps of a transaction: those of the operations, of restoring the backups with
their deletion, of the deletion of the backups, and of that of the temporary folder. -/
structure TransactionOutcome where
  operation : ℕ → OperationOutcome
  restore : ℕ → CopyOutcome × Bool
  cleanup : ℕ → Bool
  folder : Bool

/-- **The manager of a transaction**, with the file system, and the number of temporary files that were
named. -/
structure FileTransactionManager (P : Type) where
  fs : FileSystem P
  pendingFileOps : List (FileOperation P)
  backupFiles : List (P × ℕ)
  tmpdir : Bool
  names : ℕ

namespace FileTransactionManager

omit [DecidableEq P] in
/-- A new manager. -/
def new (fs : FileSystem P) : FileTransactionManager P where
  fs := fs
  pendingFileOps := []
  backupFiles := []
  tmpdir := false
  names := 0

section

variable (m : FileTransactionManager P)

/-- `getTmpDir`: the folder is there, or is created; nothing when this throws. -/
def getTmpDir (created : Bool) : Option (FileTransactionManager P) :=
  if m.tmpdir then some m
  else if created then some { m with tmpdir := true }
  else none

/-- The name of a new temporary file. -/
def uniqueFileName : ℕ × FileTransactionManager P :=
  (m.names, { m with names := m.names + 1 })

/-- **`stageFile`**: the content is written to a temporary file, and its move is pending. Nothing is
pending when this throws. -/
def stageFile (destinationPath : P) (content : Buffer)
    (created : Bool) (written : CopyOutcome) : FileTransactionManager P × Bool :=
  match m.getTmpDir created with
  | none => (m, false)
  | some m =>
    let (tempFilePath, m) := m.uniqueFileName
    match written with
    | .done =>
      ({ m with
        fs := Function.update m.fs (.temporary tempFilePath) (some content)
        pendingFileOps := m.pendingFileOps ++ [.move tempFilePath destinationPath] }, true)
    | .failed none => (m, false)
    | .failed (some left) =>
      ({ m with fs := Function.update m.fs (.temporary tempFilePath) left }, false)

/-- `stageFileRemoval`. -/
def stageFileRemoval (filePath : P) : FileTransactionManager P :=
  { m with pendingFileOps := m.pendingFileOps ++ [.remove filePath] }

/-- `backupFiles.set`. -/
def setBackup (dest : P) (backupPath : ℕ) :
    FileTransactionManager P :=
  { m with
    backupFiles :=
      if dest ∈ m.backupFiles.map Prod.fst then
        m.backupFiles.map fun entry => if entry.1 = dest then (dest, backupPath) else entry
      else m.backupFiles ++ [(dest, backupPath)] }

/-- `moveFileWithBackupTracked`; nothing when this throws. -/
def moveFileWithBackupTracked (source : ℕ) (dest : P)
    (outcome : OperationOutcome) : Option (FileTransactionManager P) :=
  match m.getTmpDir outcome.tmpdir with
  | none => none
  | some m =>
    let (backupPath, m) := m.uniqueFileName
    let m := m.setBackup dest backupPath
    some { m with
      fs := _moveFileWithBackup m.fs (.temporary source) (.file dest) (.temporary backupPath)
        outcome.backup outcome.copy outcome.deleted }

/-- The operation of `stageFileRemoval`; nothing when this throws. -/
def removeFile (filePath : P) (outcome : OperationOutcome) :
    Option (FileTransactionManager P) :=
  match m.fs (.file filePath) with
  | none => some m
  | some _ =>
    match m.getTmpDir outcome.tmpdir with
    | none => none
    | some m =>
      let (backupPath, m) := m.uniqueFileName
      let m := m.setBackup filePath backupPath
      let fs := _copyFile m.fs (.file filePath) (.temporary backupPath) outcome.backup
      some { m with fs := _deleteFile fs (.file filePath) outcome.deleted }

/-- An operation is executed; nothing when it throws. -/
def execute (operation : FileOperation P)
    (outcome : OperationOutcome) : Option (FileTransactionManager P) :=
  match operation with
  | .move source dest => m.moveFileWithBackupTracked source dest outcome
  | .remove filePath => m.removeFile filePath outcome

end

/-- The operations are executed one after the other, until one throws. They are numbered, and the
second component says that none throws. -/
def executeAll (outcome : ℕ → OperationOutcome) :
    ℕ → FileTransactionManager P → List (FileOperation P) → FileTransactionManager P × Bool
  | _, m, [] => (m, true)
  | index, m, operation :: rest =>
    match m.execute operation (outcome index) with
    | none => (m, false)
    | some m => executeAll outcome (index + 1) m rest

variable (m : FileTransactionManager P)

/-- `rollbackTransaction`: each backup that exists is copied to its file, and deleted. -/
def rollbackTransaction (restore : ℕ → CopyOutcome × Bool) :
    FileTransactionManager P :=
  { m with
    fs := m.backupFiles.zipIdx.foldl (fun fs entry =>
      let backupPath : TransactionPath P := .temporary entry.1.2
      match fs backupPath with
      | none => fs
      | some _ =>
        _deleteFile (_copyFile fs backupPath (.file entry.1.1) (restore entry.2).1) backupPath
          (restore entry.2).2) m.fs }

/-- `cleanupBackupFiles`. -/
def cleanupBackupFiles (cleanup : ℕ → Bool) :
    FileTransactionManager P :=
  { m with
    fs := m.backupFiles.zipIdx.foldl
      (fun fs entry => _deleteFile fs (.temporary entry.1.2) (cleanup entry.2)) m.fs
    backupFiles := [] }

/-- `cleanupTempFolder`. -/
def cleanupTempFolder (removed : Bool) : FileTransactionManager P :=
  if m.tmpdir then
    { m with
      fs := fun path =>
        match path with
        | .file path => m.fs (.file path)
        | .temporary number => if removed then none else m.fs (.temporary number)
      tmpdir := false }
  else m

/-- **`applyFileOps`**. The second component says that it resolves. -/
def applyFileOps (outcome : TransactionOutcome) :
    FileTransactionManager P × Bool :=
  let fileOperation := m.pendingFileOps
  let m := { m with pendingFileOps := [] }
  match executeAll outcome.operation 0 m fileOperation with
  | (m, true) => ((m.cleanupBackupFiles outcome.cleanup).cleanupTempFolder outcome.folder, true)
  | (m, false) =>
    (({ m.rollbackTransaction outcome.restore with backupFiles := [] } :
      FileTransactionManager P).cleanupTempFolder outcome.folder, false)

end FileTransactionManager

end NodeOpcua
