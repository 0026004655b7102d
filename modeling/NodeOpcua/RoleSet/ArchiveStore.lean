import Mathlib.Logic.Function.Basic
import NodeOpcua.BinaryStream

set_option autoImplicit false

/-!
# The archive of the role set

The sections of the role set are saved in one file. Saving writes a temporary file next to it, which
is then renamed; every call of the file system is a point where other saves and loads may run.

## Main definitions

* `RoleSetArchive`, `ArchiveFormat.readArchive`.
* `ArchiveStore`, `ArchiveStore.saveStep`, `ArchiveStore.readStep`.
* `ArchiveStore.step`.

## Design

* A name in the file system refers to an inode, and a file that is open stays the same inode when its
  name is renamed or is given to another one. Opening a file for writing truncates it. Bytes
  are written and read a few at a time.
* Every call may fail; what was written before stays. The directory of the file is not modelled.
* The values of the sections are of any type, and so are the functions that print and parse JSON and
  that encrypt, with the random numbers that they take.
* The saves are numbered in the order in which they are started. The number of the save that renamed last
  is kept for what is stated about the file only.
-/

namespace NodeOpcua

/-! ### Archives and their texts -/

/-- The sections of an archive. -/
inductive ArchiveSection
  | identities
  | roles
  | restrictions
  | users
  deriving DecidableEq, Repr

/-- `RoleSetArchive`: what is undefined is omitted. -/
structure RoleSetArchive (V : Type) where
  version : ℕ
  sections : ArchiveSection → Option V

/-- `ROLE_SET_ARCHIVE_VERSION`. -/
def ROLE_SET_ARCHIVE_VERSION : ℕ := 2

/-- What `JSON.parse` gives: the fields of an archive, or of the envelope of an encrypted one. -/
structure ParsedArchive (V : Type) where
  version : Option ℕ
  encrypted : Option Buffer
  sections : ArchiveSection → Option V

/-- **JSON and encryption**, as the store uses them. -/
structure ArchiveFormat (V : Type) where
  stringify : RoleSetArchive V → Buffer
  encrypt : Buffer → String → ℕ → Buffer
  isBlank : Buffer → Bool
  parse : Buffer → Option (ParsedArchive V)
  decrypt : Buffer → String → Option Buffer

namespace ArchiveFormat

variable {V : Type} (format : ArchiveFormat V)

/-- The payload of `writeArchive`. -/
def payload (secret : Option String) (archive : RoleSetArchive V) (random : ℕ) : Buffer :=
  match secret with
  | none => format.stringify archive
  | some secret => format.encrypt (format.stringify archive) secret random

/-- The checks of the version in `readArchive`. -/
def checkVersion (parsed : ParsedArchive V) : Except String (RoleSetArchive V) :=
  match parsed.version with
  | none => .error "has no version field — not a RoleSet archive"
  | some version =>
    if ROLE_SET_ARCHIVE_VERSION < version then
      .error "was written by a newer archive format; upgrade node-opcua to read it"
    else .ok ⟨version, parsed.sections⟩

/-- **`readArchive`**, of the text of a file or of no file. -/
def readArchive (secret : Option String) : Option Buffer →
    Except String (Option (RoleSetArchive V))
  | none => .ok none
  | some text =>
    if format.isBlank text then .ok none
    else
      match format.parse text with
      | none => .error "is not a valid archive (JSON parse failed)"
      | some parsed =>
        match parsed.encrypted with
        | none => (checkVersion parsed).map some
        | some envelope =>
          match secret with
          | none => .error "is encrypted but no secret was provided"
          | some secret =>
            match (format.decrypt envelope secret).bind format.parse with
            | none => .error "cannot decrypt (wrong secret or corrupt)"
            | some parsed => (checkVersion parsed).map some

end ArchiveFormat

/-! ### The store and its file -/

/-- Where a save is: before the call that it makes next. -/
inductive SaveStage
  | mkdir
  | openTmp
  | write (inode position : ℕ)
  | rename
  | settle
  deriving DecidableEq, Repr

/-- **A save under way**, with the snapshot that it was started with. -/
structure ArchiveSave (V : Type) where
  number : ℕ
  archive : RoleSetArchive V
  payload : Buffer
  stage : SaveStage

/-- Where a read is. -/
inductive ReadStage
  | openFile
  | read (inode : ℕ) (text : Buffer)
  | settle (text : Option Buffer)
  deriving DecidableEq, Repr

/-- A read under way: that of a `load`, or of any other reader. -/
structure ArchiveRead where
  number : ℕ
  load : Bool
  stage : ReadStage
  deriving DecidableEq, Repr

/-- **The store**, the two names that it uses in the file system, and what is under way. The providers
answer what is `live`. -/
structure ArchiveStore (V : Type) where
  secret : Option String
  registered : ArchiveSection → Bool
  live : ArchiveSection → Option V
  _loaded : Option (RoleSetArchive V)
  contents : ℕ → Buffer
  inodes : ℕ
  tmp : Option ℕ
  file : Option ℕ
  saves : List (ArchiveSave V)
  reads : List ArchiveRead
  started : ℕ
  readers : ℕ
  lastRenamed : ℕ

/-- What can be seen of a step. -/
inductive ArchiveOutput (V : Type)
  | changed
  | started (number : ℕ) (archive : RoleSetArchive V) (payload : Buffer)
  | renamed (number : ℕ)
  | saved (number : ℕ)
  | failed (number : ℕ)
  | read (text : Option Buffer)
  | loaded (archive : Option (RoleSetArchive V))

namespace ArchiveStore

variable {V : Type} (format : ArchiveFormat V)

/-- The sections of an archive that may be missing. -/
def sectionOf (archive : Option (RoleSetArchive V)) (name : ArchiveSection) : Option V :=
  archive.bind fun archive => archive.sections name

section

variable (store : ArchiveStore V)

/-- The archive that `save` writes: a provider is asked, or the last value is taken. -/
def snapshot : RoleSetArchive V where
  version := ROLE_SET_ARCHIVE_VERSION
  sections := fun name =>
    if store.registered name then store.live name else sectionOf store._loaded name

/-- What the file holds. -/
def text : Option Buffer := store.file.map store.contents

/-- A save at its next stage. -/
def setSave (save : ArchiveSave V) (stage : SaveStage) : ArchiveStore V :=
  { store with
    saves := store.saves.map fun s => if s.number = save.number then { save with stage } else s }

/-- A save that has ended. -/
def endSave (number : ℕ) : ArchiveStore V :=
  { store with saves := store.saves.filter fun s => s.number ≠ number }

/-- A save that fails. -/
def failSave (number : ℕ) : ArchiveStore V × List (ArchiveOutput V) :=
  (store.endSave number, [.failed number])

end

/-- A content with some bytes written at a position, after a hole when it is shorter. -/
def writeAt (content : Buffer) (position : ℕ) (bytes : Buffer) : Buffer :=
  content.take position ++ List.replicate (position - content.length) 0 ++ bytes ++
    content.drop (position + bytes.length)

section

variable (store : ArchiveStore V)

/-- **The next call of a save**, which fails or is done; at most `n + 1` bytes are written. -/
def saveStep (save : ArchiveSave V) (done : Bool) (n : ℕ) :
    ArchiveStore V × List (ArchiveOutput V) :=
  match save.stage with
  | .mkdir => if done then (store.setSave save .openTmp, []) else store.failSave save.number
  | .openTmp =>
    if !done then store.failSave save.number
    else
      match store.tmp with
      | some inode =>
        ({ store with contents := Function.update store.contents inode [] }.setSave save
          (.write inode 0), [])
      | none =>
        ({ store with
            contents := Function.update store.contents store.inodes []
            inodes := store.inodes + 1
            tmp := some store.inodes }.setSave save (.write store.inodes 0), [])
  | .write inode position =>
    if !done then store.failSave save.number
    else
      let bytes := (save.payload.drop position).take (n + 1)
      let content := writeAt (store.contents inode) position bytes
      let stage :=
        if position + bytes.length = save.payload.length then .rename
        else .write inode (position + bytes.length)
      ({ store with contents := Function.update store.contents inode content }.setSave save stage,
        [])
  | .rename =>
    if !done then store.failSave save.number
    else
      match store.tmp with
      | none => store.failSave save.number
      | some inode =>
        ({ store with
            tmp := none
            file := some inode
            lastRenamed := save.number }.setSave save .settle, [.renamed save.number])
  | .settle =>
    ({ store with _loaded := some save.archive }.endSave save.number, [.saved save.number])

/-- A read at its next stage. -/
def setRead (read : ArchiveRead) (stage : ReadStage) : ArchiveStore V :=
  { store with
    reads := store.reads.map fun r => if r.number = read.number then { read with stage } else r }

/-- A read that has ended. -/
def endRead (number : ℕ) : ArchiveStore V :=
  { store with reads := store.reads.filter fun r => r.number ≠ number }

/-- **The next call of a read**, which fails or is done; at most `n + 1` bytes are read. -/
def readStep (read : ArchiveRead) (done : Bool) (n : ℕ) :
    ArchiveStore V × List (ArchiveOutput V) :=
  match read.stage with
  | .openFile =>
    if !done then (store.endRead read.number, [])
    else
      match store.file with
      | none => (store.setRead read (.settle none), [.read none])
      | some inode => (store.setRead read (.read inode []), [])
  | .read inode text =>
    if !done then (store.endRead read.number, [])
    else
      match ((store.contents inode).drop text.length).take (n + 1) with
      | [] => (store.setRead read (.settle (some text)), [.read (some text)])
      | bytes => (store.setRead read (.read inode (text ++ bytes)), [])
  | .settle text =>
    if !read.load then (store.endRead read.number, [])
    else
      match format.readArchive store.secret text with
      | .error _ => (store.endRead read.number, [])
      | .ok archive =>
        ({ store with _loaded := archive }.endRead read.number, [.loaded archive])

end

/-- What may happen next. -/
inductive Event (V : Type)
  | setProvider (name : ArchiveSection)
  | mutate (name : ArchiveSection) (value : Option V)
  | save (random : ℕ)
  | saveStep (number : ℕ) (done : Bool) (n : ℕ)
  | readArchive (load : Bool)
  | readStep (number : ℕ) (done : Bool) (n : ℕ)

/-- **What happens at an event**, with what can be seen of it. -/
def step (store : ArchiveStore V) : Event V → ArchiveStore V × List (ArchiveOutput V)
  | .setProvider name =>
    ({ store with registered := Function.update store.registered name true }, [.changed])
  | .mutate name value => ({ store with live := Function.update store.live name value }, [.changed])
  | .save random =>
    let archive := store.snapshot
    let payload := format.payload store.secret archive random
    let number := store.started + 1
    ({ store with
        started := number
        saves := store.saves ++ [{ number, archive, payload, stage := .mkdir }] },
      [.started number archive payload])
  | .saveStep number done n =>
    match store.saves.find? fun s => s.number = number with
    | none => (store, [])
    | some save => store.saveStep save done n
  | .readArchive load =>
    ({ store with
        readers := store.readers + 1
        reads := store.reads ++ [{ number := store.readers, load, stage := .openFile }] }, [])
  | .readStep number done n =>
    match store.reads.find? fun r => r.number = number with
    | none => (store, [])
    | some read => store.readStep format read done n

/-- **A new store** on a file system where there may be a file, and a temporary file that was left. -/
def new (secret : Option String) (live : ArchiveSection → Option V) (file tmp : Option Buffer) :
    ArchiveStore V where
  secret := secret
  registered := fun _ => false
  live := live
  _loaded := none
  contents := fun inode => if inode = 0 then file.getD [] else tmp.getD []
  inodes := 2
  tmp := tmp.map fun _ => 1
  file := file.map fun _ => 0
  saves := []
  reads := []
  started := 0
  readers := 0
  lastRenamed := 0

end ArchiveStore

end NodeOpcua
