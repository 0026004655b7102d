import Mathlib.Data.List.Forall2
import NodeOpcua.ServerConfiguration.FileTransactionManager

set_option autoImplicit false

/-!
# What a transaction on files leaves

A transaction of writes and removals should be applied as a whole or not at all. The steps of an
operation log their failures and throw nothing, so the transaction resolves also when one of them
failed.

## Main definitions

* `StagedOperation`, `FileTransactionManager.AllOrNothing`.
* `FileTransactionManager.Effective`, `FileTransactionManager.FolderFails`.
-/

namespace NodeOpcua

open Function (update update_of_ne update_self)

variable {P : Type} [DecidableEq P]

/-! ### What was staged -/

/-- A call of `stageFile`, with the outcomes of its steps, or of `stageFileRemoval`. -/
inductive Staging (P : Type)
  | stageFile (destinationPath : P) (content : Buffer) (created : Bool) (written : CopyOutcome)
  | stageFileRemoval (filePath : P)
  deriving DecidableEq, Repr

/-- **What was staged**: a file is to have a content, or is to be removed. -/
inductive StagedOperation (P : Type)
  | write (destinationPath : P) (content : Buffer)
  | remove (filePath : P)
  deriving DecidableEq, Repr

namespace StagedOperation

/-- The file of an operation. -/
def path : StagedOperation P → P
  | write destinationPath _ => destinationPath
  | remove filePath => filePath

/-- What the file is to be. -/
def result : StagedOperation P → Option Buffer
  | write _ content => some content
  | remove _ => none

/-- The files after the operations, in order. -/
def applyAll (files : P → Option Buffer) (staged : List (StagedOperation P)) : P → Option Buffer :=
  staged.foldl (fun files operation => update files operation.path operation.result) files

/-- **What is in the file** after the steps of an operation. -/
def left (files : P → Option Buffer) (outcome : OperationOutcome) :
    StagedOperation P → Option Buffer
  | write destinationPath content =>
    match outcome.copy with
    | .done => some content
    | .failed none => files destinationPath
    | .failed (some left) => left
  | remove filePath => if outcome.deleted then none else files filePath

end StagedOperation

/-- The temporary file that an operation moves. -/
def FileOperation.source? : FileOperation P → Option ℕ
  | .move source _ => some source
  | .remove _ => none

namespace FileTransactionManager

open StagedOperation

/-- The files, without the temporary ones. -/
def files (m : FileTransactionManager P) (path : P) : Option Buffer := m.fs (.file path)

/-- A call of `stageFile` that creates the temporary folder, when it is not there yet. -/
def createsFolder : Staging P → Bool
  | .stageFile _ _ created _ => created
  | .stageFileRemoval _ => false

/-- A call of the manager, with what it staged. -/
def stage (m : FileTransactionManager P) :
    Staging P → FileTransactionManager P × Option (StagedOperation P)
  | .stageFile destinationPath content created written =>
    match m.stageFile destinationPath content created written with
    | (m, true) => (m, some (.write destinationPath content))
    | (m, false) => (m, none)
  | .stageFileRemoval filePath => (m.stageFileRemoval filePath, some (.remove filePath))

/-- The calls of the manager, with what they staged. -/
def stageAll (m : FileTransactionManager P) :
    List (Staging P) → FileTransactionManager P × List (StagedOperation P)
  | [] => (m, [])
  | call :: calls =>
    let (m, operation) := m.stage call
    let (m, operations) := stageAll m calls
    (m, operation.toList ++ operations)

/-- **All or nothing**: when the transaction resolves, the files are what all operations make of them,
and every staged content was in its place after its operation; when it rejects, the files are what
they were. -/
structure AllOrNothing (m : FileTransactionManager P) (staged : List (StagedOperation P))
    (outcome : TransactionOutcome) : Prop where
  resolved : (m.applyFileOps outcome).2 = true →
    (m.applyFileOps outcome).1.files = applyAll m.files staged
  inPlace : (m.applyFileOps outcome).2 = true → ∀ n destinationPath content,
    staged[n]? = some (.write destinationPath content) →
      (executeAll outcome.operation 0 { m with pendingFileOps := [] }
        (m.pendingFileOps.take (n + 1))).1.files destinationPath = some content
  rejected : (m.applyFileOps outcome).2 = false → (m.applyFileOps outcome).1.files = m.files

/-! ### The condition -/

/-- **The temporary folder cannot be created**: no call of `stageFile` created it, and this fails for
the first removal of a file that exists. -/
def FolderFails (files : P → Option Buffer) (outcome : ℕ → OperationOutcome) :
    ℕ → List (StagedOperation P) → Prop
  | _, [] => False
  | index, operation :: rest =>
    if operation.result = none ∧ files operation.path = none then
      FolderFails files outcome (index + 1) rest
    else (outcome index).tmpdir = false

/-- **The operations are effective**: each write leaves its content in the file, and each removal
leaves no file, unless a later operation is on the same file. -/
def Effective (files : P → Option Buffer) (outcome : ℕ → OperationOutcome) :
    ℕ → List (StagedOperation P) → Prop
  | _, [] => True
  | index, operation :: rest =>
    (operation.left files (outcome index) = operation.result ∨
      operation.result = none ∧ ∃ later ∈ rest, later.path = operation.path) ∧
    Effective (update files operation.path (operation.left files (outcome index))) outcome
      (index + 1) rest

/-- What is in the files after the steps of all operations. -/
def leftAll (files : P → Option Buffer) (outcome : ℕ → OperationOutcome) :
    ℕ → List (StagedOperation P) → P → Option Buffer
  | _, [] => files
  | index, operation :: rest =>
    leftAll (update files operation.path (operation.left files (outcome index))) outcome
      (index + 1) rest

/-! ### The effect of the operations -/

/-- **The last operation on a file decides** what is in it: what the steps leave is what the
operations make of other files, and every write is in its place, exactly when the files without an
operation agree and the operations are effective.

**Proof sketch.** Induction on the operations. After the first one, the two sides agree on its file
exactly when it was effective, which matters unless a later operation is on the same file. -/
lemma leftAll_eq_applyAll_iff (out : ℕ → OperationOutcome) (staged : List (StagedOperation P)) :
    ∀ (index : ℕ) (files files' : P → Option Buffer),
      (leftAll files out index staged = applyAll files' staged ∧
        ∀ n dest content, staged[n]? = some (.write dest content) →
          leftAll files out index (staged.take (n + 1)) dest = some content) ↔
      (∀ p, (∀ operation ∈ staged, operation.path ≠ p) → files p = files' p) ∧
        Effective files out index staged := by
  induction staged with
  | nil =>
    intro index files files'
    simp [leftAll, applyAll, Effective, funext_iff]
  | cons operation rest ih =>
    intro index files files'
    set files₁ := update files operation.path (operation.left files (out index))
      with hfiles₁
    set files₁' := update files' operation.path operation.result with hfiles₁'
    have hagree : (∀ p, (∀ later ∈ rest, later.path ≠ p) → files₁ p = files₁' p) ↔
        (∀ p, (∀ later ∈ operation :: rest, later.path ≠ p) → files p = files' p) ∧
          ((∀ later ∈ rest, later.path ≠ operation.path) →
            operation.left files (out index) = operation.result) := by
      constructor
      · intro h
        refine ⟨fun p hp => ?_, fun hrest => ?_⟩
        · have hne : p ≠ operation.path := (hp operation List.mem_cons_self).symm
          have := h p fun later hlater => hp later (List.mem_cons_of_mem _ hlater)
          rwa [hfiles₁, hfiles₁', update_of_ne hne, update_of_ne hne] at this
        · have := h operation.path hrest
          rwa [hfiles₁, hfiles₁', update_self, update_self] at this
      · rintro ⟨hother, hown⟩ p hp
        by_cases heq : p = operation.path
        · rw [heq] at hp ⊢
          rw [hfiles₁, hfiles₁', update_self, update_self]
          exact hown hp
        · rw [hfiles₁, hfiles₁', update_of_ne heq, update_of_ne heq]
          refine hother p fun later hlater => ?_
          rcases List.mem_cons.mp hlater with rfl | hlater
          · exact Ne.symm heq
          · exact hp later hlater
    -- the place of the first write is looked at right after it
    have hplace : (∀ n dest content,
        (operation :: rest)[n]? = some (.write dest content) →
          leftAll files out index ((operation :: rest).take (n + 1)) dest =
            some content) ↔
        (operation.result ≠ none → operation.left files (out index) = operation.result) ∧
          ∀ n dest content, rest[n]? = some (.write dest content) →
            leftAll files₁ out (index + 1) (rest.take (n + 1)) dest =
              some content := by
      constructor
      · intro h
        refine ⟨fun hres => ?_, fun n => h (n + 1)⟩
        cases hop : operation with
        | remove filePath =>
          rw [hop] at hres
          exact absurd rfl hres
        | write dest content =>
          have := h 0 dest content (by rw [hop]; rfl)
          rw [hop] at this
          simpa [leftAll, StagedOperation.path, StagedOperation.result] using this
      · rintro ⟨hfirst, hrest⟩ n dest content hn
        cases n with
        | zero =>
          obtain rfl : operation = .write dest content := Option.some.inj hn
          have := hfirst (by simp [StagedOperation.result])
          simpa [leftAll, StagedOperation.path, StagedOperation.result] using this
        | succ n => exact hrest n dest content hn
    have ih := ih (index + 1) files₁ files₁'
    rw [hagree] at ih
    rw [hplace]
    constructor
    · rintro ⟨hleft, hfirst, hrest⟩
      obtain ⟨⟨hother, hown⟩, heff⟩ := ih.mp ⟨hleft, hrest⟩
      refine ⟨hother, ?_, heff⟩
      by_cases hlater : ∃ later ∈ rest, later.path = operation.path
      · by_cases hres : operation.result = none
        · exact Or.inr ⟨hres, hlater⟩
        · exact Or.inl (hfirst hres)
      · push Not at hlater
        exact Or.inl (hown hlater)
    · rintro ⟨hother, hop, heff⟩
      have hown : (∀ later ∈ rest, later.path ≠ operation.path) →
          operation.left files (out index) = operation.result := by
        intro hnone
        rcases hop with hop | ⟨-, later, hlater, hpath⟩
        · exact hop
        · exact absurd hpath (hnone later hlater)
      obtain ⟨hleft, hrest⟩ := ih.mpr ⟨⟨hother, hown⟩, heff⟩
      refine ⟨hleft, fun hres => ?_, hrest⟩
      rcases hop with hop | ⟨hnone, -⟩
      · exact hop
      · exact absurd hnone hres

/-! ### The pending operations -/

/-- A pending operation is what was staged: the temporary file of a move has the content. -/
def Matches (m : FileTransactionManager P) : FileOperation P → StagedOperation P → Prop
  | .move source dest, .write destinationPath content =>
    dest = destinationPath ∧ m.fs (.temporary source) = some content ∧ source < m.names
  | .remove filePath, .remove filePath' => filePath = filePath'
  | _, _ => False

/-- **The operations are ready**: they are those that were staged, each with a temporary file of its
own; the temporary folder is there when a file is moved, and when there is a backup. -/
structure Ready (m : FileTransactionManager P) (operations : List (FileOperation P))
    (staged : List (StagedOperation P)) : Prop where
  isMatch : List.Forall₂ (Matches m) operations staged
  nodup : (operations.filterMap FileOperation.source?).Nodup
  folder : operations.filterMap FileOperation.source? ≠ [] → m.tmpdir = true
  backups : m.tmpdir = false → m.backupFiles = []

variable {path : TransactionPath P}

lemma _copyFile_of_ne (fs : FileSystem P) (source dest : TransactionPath P) (out : CopyOutcome)
    (h : path ≠ dest) : _copyFile fs source dest out path = fs path := by
  unfold _copyFile
  cases fs source with
  | none => rfl
  | some content =>
    cases out with
    | done => exact update_of_ne h _ _
    | failed left =>
      cases left with
      | none => rfl
      | some left => exact update_of_ne h _ _

lemma _copyFile_self {fs : FileSystem P} {source dest : TransactionPath P} {content : Buffer}
    (h : fs source = some content) (out : CopyOutcome) :
    _copyFile fs source dest out dest =
      match out with
      | .done => some content
      | .failed none => fs dest
      | .failed (some left) => left := by
  unfold _copyFile
  rw [h]
  cases out with
  | done => exact update_self _ _ _
  | failed left =>
    cases left with
    | none => rfl
    | some left => exact update_self _ _ _

section

variable (fs : FileSystem P) (file : TransactionPath P) (deleted : Bool)

lemma _deleteFile_of_ne (h : path ≠ file) : _deleteFile fs file deleted path = fs path := by
  unfold _deleteFile
  cases fs file with
  | none => rfl
  | some content =>
    cases deleted with
    | false => rfl
    | true => exact update_of_ne h _ _

lemma _deleteFile_self :
    _deleteFile fs file deleted file = if deleted then none else fs file := by
  unfold _deleteFile
  cases hfile : fs file with
  | none =>
    rw [ite_self]
    exact hfile
  | some content =>
    cases deleted with
    | false => exact hfile
    | true => exact update_self _ _ _

end

variable {later : List (StagedOperation P)} {m m' : FileTransactionManager P}
    {rest : List (FileOperation P)} {operation : FileOperation P} {staged : StagedOperation P}

omit [DecidableEq P] in
/-- **What is ready stays ready**, when the temporary files of the other operations are kept. -/
lemma Ready.tail (h : Ready m (operation :: rest) (staged :: later)) (hnames : m.names ≤ m'.names)
    (hfiles : ∀ n < m.names, operation.source? ≠ some n →
      m'.fs (.temporary n) = m.fs (.temporary n))
    (hfolder : m.tmpdir = true → m'.tmpdir = true)
    (hbackups : m'.tmpdir = false → m'.backupFiles = []) : Ready m' rest later := by
  have hnot : ∀ n, operation.source? = some n → n ∉ rest.filterMap FileOperation.source? := by
    intro n hn
    have hnodup := h.nodup
    rw [List.filterMap_cons_some hn, List.nodup_cons] at hnodup
    exact hnodup.1
  have hmatch := (List.forall₂_cons.mp h.isMatch).2
  refine ⟨?_, ?_, fun hne => hfolder (h.folder ?_), hbackups⟩
  · refine List.forall₂_iff_get.mpr ⟨hmatch.length_eq, fun i h₁ h₂ => ?_⟩
    have hi := (List.forall₂_iff_get.mp hmatch).2 i h₁ h₂
    have hmem : rest.get ⟨i, h₁⟩ ∈ rest := List.get_mem _ _
    generalize rest.get ⟨i, h₁⟩ = other at hi hmem ⊢
    cases other with
    | remove filePath =>
      generalize later.get ⟨i, h₂⟩ = operation' at hi ⊢
      cases operation' <;> exact hi
    | move source dest =>
      generalize later.get ⟨i, h₂⟩ = operation' at hi ⊢
      cases operation' with
      | remove filePath => exact hi
      | write destinationPath content =>
        obtain ⟨hdest, hcont, hlt⟩ := hi
        refine ⟨hdest, ?_, by omega⟩
        rw [hfiles source hlt fun heq => hnot source heq
          (List.mem_filterMap.mpr ⟨_, hmem, rfl⟩), hcont]
  · have hnodup := h.nodup
    cases hsrc : operation.source? with
    | none => rwa [List.filterMap_cons_none hsrc] at hnodup
    | some n =>
      rw [List.filterMap_cons_some hsrc] at hnodup
      exact (List.nodup_cons.mp hnodup).2
  · cases hsrc : operation.source? with
    | none => rwa [List.filterMap_cons_none hsrc]
    | some n =>
      rw [List.filterMap_cons_some hsrc]
      exact List.cons_ne_nil _ _

variable {m : FileTransactionManager P}

/-- **A move** throws nothing once the folder is there, and leaves in its file what the copy
leaves. -/
lemma execute_move {source : ℕ} {dest : P} {content : Buffer}
    (hfolder : m.tmpdir = true) (hcont : m.fs (.temporary source) = some content)
    (hlt : source < m.names) (out : OperationOutcome) :
    ∃ m', m.execute (.move source dest) out = some m' ∧
      m'.files = update m.files dest ((write dest content).left m.files out) ∧
      m'.names = m.names + 1 ∧ m'.tmpdir = true ∧
      ∀ n < m.names, n ≠ source → m'.fs (.temporary n) = m.fs (.temporary n) := by
  have hsrc : _copyFile m.fs (.file dest) (.temporary m.names) out.backup
      (.temporary source) = some content := by
    rw [_copyFile_of_ne _ _ _ _ (by simp; omega), hcont]
  have hexec : m.execute (.move source dest) out =
      some { m.uniqueFileName.2.setBackup dest m.names with
        fs := _moveFileWithBackup m.fs (.temporary source) (.file dest) (.temporary m.names)
          out.backup out.copy out.deleted } := by
    rw [execute, moveFileWithBackupTracked, getTmpDir, if_pos hfolder]
    rfl
  refine ⟨_, hexec, ?_, rfl, hfolder, fun n hn hne => ?_⟩
  · funext path
    simp only [files, _moveFileWithBackup, _moveFile]
    rw [_deleteFile_of_ne _ _ _ (by simp)]
    by_cases hpath : path = dest
    · rw [hpath, update_self, _copyFile_self hsrc]
      unfold left
      cases out.copy with
      | done => rfl
      | failed left =>
        cases left with
        | none => exact _copyFile_of_ne _ _ _ _ (by simp)
        | some left => rfl
    · rw [update_of_ne hpath, _copyFile_of_ne _ _ _ _ (by simpa using hpath),
        _copyFile_of_ne _ _ _ _ (by simp)]
      rfl
  · simp only [_moveFileWithBackup, _moveFile]
    rw [_deleteFile_of_ne _ _ _ (by simpa using hne), _copyFile_of_ne _ _ _ _ (by simp),
      _copyFile_of_ne _ _ _ _ (by simp; omega)]

/-- **A removal** skips a file that does not exist, throws when the folder cannot be created, and
otherwise leaves in its file what the deletion leaves. -/
lemma execute_remove (m : FileTransactionManager P) (filePath : P) (out : OperationOutcome) :
    (m.files filePath = none ∧ m.execute (.remove filePath) out = some m) ∨
    (m.files filePath ≠ none ∧ m.tmpdir = false ∧ out.tmpdir = false ∧
      m.execute (.remove filePath) out = none) ∨
    (m.files filePath ≠ none ∧ (m.tmpdir = true ∨ out.tmpdir = true) ∧
      ∃ m', m.execute (.remove filePath) out = some m' ∧
        m'.files = update m.files filePath
          ((remove filePath : StagedOperation P).left m.files out) ∧
        m'.names = m.names + 1 ∧ m'.tmpdir = true ∧
        ∀ n < m.names, m'.fs (.temporary n) = m.fs (.temporary n)) := by
  simp only [execute]
  unfold removeFile
  cases hfile : m.fs (.file filePath) with
  | none => exact Or.inl ⟨hfile, rfl⟩
  | some content =>
    have hne : m.files filePath ≠ none := by
      rw [files, hfile]
      exact Option.some_ne_none _
    -- the folder that is used is there already, or is created
    have hremoved : ∀ m₁ : FileTransactionManager P, m₁.fs = m.fs → m₁.names = m.names →
        m₁.tmpdir = true → ∃ m' : FileTransactionManager P,
          some { m₁.uniqueFileName.2.setBackup filePath m₁.uniqueFileName.1 with
            fs := _deleteFile (_copyFile m₁.fs (.file filePath) (.temporary m₁.names)
              out.backup) (.file filePath) out.deleted } = some m' ∧
          m'.files = update m.files filePath
            ((remove filePath : StagedOperation P).left m.files out) ∧
          m'.names = m.names + 1 ∧ m'.tmpdir = true ∧
          ∀ n < m.names, m'.fs (.temporary n) = m.fs (.temporary n) := by
      intro m₁ hfs hnames htmpdir
      refine ⟨_, rfl, ?_, congrArg (· + 1) hnames, htmpdir, fun n hn => ?_⟩
      · funext path
        simp only [files]
        by_cases hpath : path = filePath
        · rw [hpath, update_self, _deleteFile_self, _copyFile_of_ne _ _ _ _ (by simp), hfs]
          rfl
        · rw [update_of_ne hpath, _deleteFile_of_ne _ _ _ (by simpa using hpath),
            _copyFile_of_ne _ _ _ _ (by simp), hfs]
          rfl
      · dsimp only
        rw [_deleteFile_of_ne _ _ _ (by simp), _copyFile_of_ne _ _ _ _ (by simp; omega), hfs]
    unfold getTmpDir
    by_cases hfolder : m.tmpdir = true
    · rw [if_pos hfolder]
      exact Or.inr (Or.inr ⟨hne, Or.inl hfolder, hremoved m rfl rfl hfolder⟩)
    · rw [if_neg hfolder]
      by_cases hcre : out.tmpdir = true
      · rw [if_pos hcre]
        exact Or.inr (Or.inr ⟨hne, Or.inr hcre,
          hremoved { m with tmpdir := true } rfl rfl rfl⟩)
      · rw [if_neg hcre]
        exact Or.inr (Or.inl ⟨hne, by simpa using hfolder, by simpa using hcre, rfl⟩)

/-- **An operation that is ready** skips its file, throws, or leaves in its file what its steps
leave. -/
lemma execute_ready
    (h : Ready m (operation :: rest) (staged :: later)) (out : OperationOutcome) :
    (m.tmpdir = false ∧ ¬ (staged.result = none ∧ m.files staged.path = none) ∧
      out.tmpdir = false ∧ m.execute operation out = none) ∨
    ((m.tmpdir = true ∨ staged.result = none ∧ m.files staged.path = none ∨ out.tmpdir = true) ∧
      ∃ m', m.execute operation out = some m' ∧ Ready m' rest later ∧
        m'.files = update m.files staged.path (staged.left m.files out) ∧
        (m'.tmpdir = false ↔
          m.tmpdir = false ∧ staged.result = none ∧ m.files staged.path = none)) := by
  have hmatch := (List.forall₂_cons.mp h.isMatch).1
  cases operation with
  | move source dest =>
    cases staged with
    | remove filePath => exact absurd hmatch id
    | write destinationPath content =>
      obtain ⟨rfl, hcont, hlt⟩ := hmatch
      have hfolder := h.folder (by simp [FileOperation.source?])
      obtain ⟨m', hexec, hfiles, hnames, hfolder', hkept⟩ :=
        execute_move hfolder hcont hlt out
      refine Or.inr ⟨Or.inl hfolder, m', hexec, ?_, hfiles, ?_⟩
      · refine h.tail (by omega) (fun n hn hne => hkept n hn ?_) (fun _ => hfolder')
          fun hnot => absurd (hfolder'.symm.trans hnot) Bool.false_ne_true.symm
        rintro rfl
        exact hne rfl
      · simp [hfolder, hfolder']
  | remove filePath =>
    cases staged with
    | write destinationPath content => exact absurd hmatch id
    | remove filePath' =>
      obtain rfl : filePath = filePath' := hmatch
      obtain ⟨hnone, hexec⟩ | ⟨hne, hfolder, hcre, hexec⟩ |
        ⟨hne, hfolder, m', hexec, hfiles, hnames, hfolder', hkept⟩ :=
          execute_remove m filePath out
      · refine Or.inr ⟨Or.inr (Or.inl ⟨rfl, hnone⟩), m, hexec, ?_, ?_, ?_⟩
        · exact h.tail (Nat.le_refl _) (fun _ _ _ => rfl) id h.backups
        · refine (Function.update_eq_self_iff.mpr ?_).symm
          change (if out.deleted then none else m.files filePath) = m.files filePath
          rw [hnone, ite_self]
        · exact ⟨fun hfolder => ⟨hfolder, rfl, hnone⟩, fun hall => hall.1⟩
      · exact Or.inl ⟨hfolder, fun hboth => hne hboth.2, hcre, hexec⟩
      · refine Or.inr ⟨hfolder.imp_right Or.inr, m', hexec, ?_, hfiles, ?_⟩
        · exact h.tail (by omega) (fun n hn _ => hkept n hn) (fun _ => hfolder')
            fun hnot => absurd (hfolder'.symm.trans hnot) Bool.false_ne_true.symm
        · rw [hfolder']
          exact iff_of_false Bool.false_ne_true.symm fun hall => hne hall.2.2

/-- **The operations that are ready** throw when the folder cannot be created, and then the files are
what they were and there is no backup; otherwise they leave in the files what their steps leave.

**Proof sketch.** Induction on the operations. The folder is not there only as long as the files that
are to be removed do not exist. -/
lemma executeAll_ready (out : ℕ → OperationOutcome) (ops : List (FileOperation P)) :
    ∀ (index : ℕ) (m : FileTransactionManager P) (staged : List (StagedOperation P)),
      Ready m ops staged →
      ((m.tmpdir = false ∧ FolderFails m.files out index staged) ∧
        ∃ m', executeAll out index m ops = (m', false) ∧ m'.files = m.files ∧
          m'.backupFiles = []) ∨
      (¬ (m.tmpdir = false ∧ FolderFails m.files out index staged) ∧
        ∃ m', executeAll out index m ops = (m', true) ∧
          m'.files = leftAll m.files out index staged) := by
  induction ops with
  | nil =>
    intro index m staged h
    obtain rfl := List.forall₂_nil_left_iff.mp h.isMatch
    exact Or.inr ⟨fun hfails => hfails.2, m, rfl, rfl⟩
  | cons operation rest ih =>
    intro index m staged h
    cases staged with
    | nil => exact absurd h.isMatch (by simp)
    | cons first later =>
      unfold executeAll FolderFails leftAll
      obtain ⟨hfolder, hskip, hcre, hexec⟩ | ⟨hcase, m', hexec, hready, hfiles, htmpdir⟩ :=
        execute_ready h (out index)
      · rw [hexec, if_neg hskip]
        exact Or.inl ⟨⟨hfolder, hcre⟩, m, rfl, rfl, h.backups hfolder⟩
      · rw [hexec]
        -- an operation that is skipped leaves everything as it was
        have hskipped : first.result = none → m.files first.path = none → m'.files = m.files := by
          intro hres hnone
          rw [hfiles]
          refine Function.update_eq_self_iff.mpr ?_
          cases first with
          | write dest content => exact absurd hres (Option.some_ne_none _)
          | remove filePath =>
            change (if (out index).deleted then none else m.files filePath) = m.files filePath
            rw [show m.files filePath = none from hnone, ite_self]
        have hfails : (m'.tmpdir = false ∧ FolderFails m'.files out (index + 1) later) ↔
            m.tmpdir = false ∧ (if first.result = none ∧ m.files first.path = none then
              FolderFails m.files out (index + 1) later
              else (out index).tmpdir = false) := by
          rw [htmpdir]
          by_cases hskip : first.result = none ∧ m.files first.path = none
          · rw [if_pos hskip, hskipped hskip.1 hskip.2]
            exact ⟨fun hall => ⟨hall.1.1, hall.2⟩, fun hall => ⟨⟨hall.1, hskip⟩, hall.2⟩⟩
          · rw [if_neg hskip]
            refine iff_of_false (fun hall => hskip hall.1.2) fun hall => ?_
            rcases hcase with hfolder | hskip' | hcre
            · exact absurd (hfolder.symm.trans hall.1) Bool.false_ne_true.symm
            · exact hskip hskip'
            · exact absurd (hcre.symm.trans hall.2) Bool.false_ne_true.symm
        rw [← hfails]
        obtain ⟨hthrows, m'', hrest, hsame, hbackups⟩ | ⟨hnot, m'', hrest, hleft⟩ :=
          ih (index + 1) m' later hready
        · refine Or.inl ⟨hthrows, m'', hrest, hsame.trans ?_, hbackups⟩
          have hskip := (htmpdir.mp hthrows.1).2
          exact hskipped hskip.1 hskip.2
        · rw [← hfiles]
          exact Or.inr ⟨hnot, m'', hrest, hleft⟩

/-! ### Staging -/

variable {staged : List (StagedOperation P)} {operations : List (FileOperation P)}

omit [DecidableEq P] in
lemma Ready.source_lt (h : Ready m operations staged) :
    ∀ n ∈ operations.filterMap FileOperation.source?, n < m.names := by
  intro n hn
  obtain ⟨operation, hmem, hsrc⟩ := List.mem_filterMap.mp hn
  obtain ⟨i, hi, rfl⟩ := List.getElem_of_mem hmem
  have hmatch := (List.forall₂_iff_get.mp h.isMatch).2 i hi (h.isMatch.length_eq ▸ hi)
  rw [List.get_eq_getElem] at hmatch
  generalize operations[i] = operation at hmatch hsrc
  generalize staged.get _ = first at hmatch
  cases operation with
  | remove filePath => exact nomatch hsrc
  | move source dest =>
    obtain rfl := Option.some.inj hsrc
    cases first with
    | remove filePath => exact absurd hmatch id
    | write destinationPath content => exact hmatch.2.2

omit [DecidableEq P] in
lemma Ready.kept (h : Ready m operations staged) (hnames : m.names ≤ m'.names)
    (hfiles : ∀ n < m.names, m'.fs (.temporary n) = m.fs (.temporary n))
    (hfolder : m.tmpdir = true → m'.tmpdir = true) (hbackups : m'.backupFiles = m.backupFiles) :
    Ready m' operations staged where
  isMatch := by
    refine h.isMatch.imp fun operation first hmatch => ?_
    cases operation <;> cases first
    · obtain ⟨hdest, hcont, hlt⟩ := hmatch
      exact ⟨hdest, (hfiles _ hlt).trans hcont, by omega⟩
    · exact hmatch
    · exact hmatch
    · exact hmatch
  nodup := h.nodup
  folder hne := hfolder (h.folder hne)
  backups hnot := by
    rw [hbackups]
    refine h.backups ?_
    cases hold : m.tmpdir with
    | false => rfl
    | true => exact absurd ((hfolder hold).symm.trans hnot) Bool.false_ne_true.symm

/-- `stageFile` when the temporary folder is there. -/
lemma stage_stageFile {m m₁ : FileTransactionManager P} {created : Bool}
    (h : m.getTmpDir created = some m₁) (dest : P) (content : Buffer)
    (written : CopyOutcome) :
    m.stage (.stageFile dest content created written) =
      match written with
      | .done =>
        ({ m₁ with
          fs := update m₁.fs (.temporary m₁.names) (some content)
          pendingFileOps := m₁.pendingFileOps ++ [.move m₁.names dest]
          names := m₁.names + 1 }, some (.write dest content))
      | .failed none => ({ m₁ with names := m₁.names + 1 }, none)
      | .failed (some left) =>
        ({ m₁ with
          fs := update m₁.fs (.temporary m₁.names) left
          names := m₁.names + 1 }, none) := by
  simp only [stage, stageFile, h, uniqueFileName]
  cases written with
  | done => rfl
  | failed left => cases left <;> rfl

/-- **A call of the manager** keeps the files, and what is staged is ready. -/
lemma stage_ready {before : List (StagedOperation P)}
    (h : Ready m m.pendingFileOps before) (call : Staging P) :
    Ready (m.stage call).1 (m.stage call).1.pendingFileOps (before ++ (m.stage call).2.toList) ∧
      (m.stage call).1.files = m.files ∧
      ((m.stage call).1.tmpdir = false ↔ m.tmpdir = false ∧ createsFolder call = false) := by
  cases call with
  | stageFileRemoval filePath =>
    refine ⟨⟨?_, ?_, ?_, h.backups⟩, rfl, (and_iff_left rfl).symm⟩
    · exact List.rel_append h.isMatch (List.Forall₂.cons rfl List.Forall₂.nil)
    · simpa [stage, stageFileRemoval, List.filterMap_cons, FileOperation.source?] using h.nodup
    · simpa [stage, stageFileRemoval, List.filterMap_cons, FileOperation.source?] using h.folder
  | stageFile dest content created written =>
    -- the folder that is used is there already, or is created
    have hstaged : ∀ m₁ : FileTransactionManager P, m.getTmpDir created = some m₁ →
        m₁.tmpdir = true → m₁.fs = m.fs → m₁.names = m.names →
        m₁.pendingFileOps = m.pendingFileOps → m₁.backupFiles = m.backupFiles →
        Ready (m.stage (.stageFile dest content created written)).1
          (m.stage (.stageFile dest content created written)).1.pendingFileOps
          (before ++ (m.stage (.stageFile dest content created written)).2.toList) ∧
        (m.stage (.stageFile dest content created written)).1.files = m.files ∧
        (m.stage (.stageFile dest content created written)).1.tmpdir = true := by
      intro m₁ hdir hfolder hfs hnames hpend hbackups
      rw [stage_stageFile hdir]
      cases written with
      | done =>
        refine ⟨⟨?_, ?_, fun _ => hfolder, fun hnot => ?_⟩, ?_, hfolder⟩
        · dsimp only
          rw [hpend]
          set m₂ : FileTransactionManager P := { m₁ with
            fs := update m₁.fs (.temporary m₁.names) (some content)
            pendingFileOps := m.pendingFileOps ++ [.move m₁.names dest]
            names := m₁.names + 1 } with hm₂
          have hkept : Ready m₂ m.pendingFileOps before := by
            refine h.kept (by rw [hm₂]; dsimp only; omega) (fun n hn => ?_) (fun _ => hfolder)
              hbackups
            rw [hm₂]
            dsimp only
            rw [update_of_ne (by simp; omega), hfs]
          refine List.rel_append hkept.isMatch (List.Forall₂.cons ⟨rfl, ?_, ?_⟩ List.Forall₂.nil)
          · exact update_self _ _ _
          · exact Nat.lt_succ_self _
        · dsimp only
          rw [hpend, List.filterMap_append, List.nodup_append]
          refine ⟨h.nodup, by simp [FileOperation.source?], fun n hn n' hn' => ?_⟩
          have hlt := h.source_lt n hn
          obtain rfl : n' = m₁.names := by simpa [FileOperation.source?] using hn'
          omega
        · exact absurd (hfolder.symm.trans hnot) Bool.false_ne_true.symm
        · funext path
          simp only [files]
          rw [update_of_ne (by simp), hfs]
      | failed left =>
        cases left with
        | none =>
          simp only [Option.toList_none, List.append_nil]
          rw [hpend]
          refine ⟨h.kept (by dsimp only; omega) (fun n hn => ?_) (fun _ => hfolder) hbackups, ?_,
            hfolder⟩
          · rw [hfs]
          · funext path
            simp only [files, hfs]
        | some left =>
          simp only [Option.toList_none, List.append_nil]
          rw [hpend]
          refine ⟨h.kept (by dsimp only; omega) (fun n hn => ?_) (fun _ => hfolder) hbackups, ?_,
            hfolder⟩
          · dsimp only
            rw [update_of_ne (by simp; omega), hfs]
          · funext path
            simp only [files]
            rw [update_of_ne (by simp), hfs]
    by_cases hfolder : m.tmpdir = true
    · obtain ⟨hready, hfiles, hdir⟩ := hstaged m (by rw [getTmpDir, if_pos hfolder]) hfolder rfl rfl
        rfl rfl
      refine ⟨hready, hfiles, ?_⟩
      rw [hdir, hfolder]
      simp
    · cases created with
      | true =>
        obtain ⟨hready, hfiles, hdir⟩ := hstaged { m with tmpdir := true }
          (by rw [getTmpDir, if_neg hfolder, if_pos rfl]) rfl rfl rfl rfl rfl
        refine ⟨hready, hfiles, ?_⟩
        rw [hdir]
        simp [createsFolder]
      | false =>
        have hstage : m.stage (.stageFile dest content false written) = (m, none) := by
          rw [stage, stageFile, getTmpDir, if_neg hfolder, if_neg Bool.false_ne_true]
        rw [hstage]
        refine ⟨?_, rfl, (and_iff_left rfl).symm⟩
        simpa using h

/-- **Staging** keeps the files, and what is staged is ready. -/
lemma stageAll_ready (calls : List (Staging P)) :
    ∀ (m : FileTransactionManager P) (before : List (StagedOperation P)),
      Ready m m.pendingFileOps before →
      Ready (m.stageAll calls).1 (m.stageAll calls).1.pendingFileOps
        (before ++ (m.stageAll calls).2) ∧
      (m.stageAll calls).1.files = m.files ∧
      ((m.stageAll calls).1.tmpdir = false ↔
        m.tmpdir = false ∧ ∀ call ∈ calls, createsFolder call = false) := by
  induction calls with
  | nil =>
    intro m before h
    refine ⟨?_, rfl, by simp [stageAll]⟩
    simpa [stageAll] using h
  | cons call calls ih =>
    intro m before h
    obtain ⟨hready, hfiles, hfolder⟩ := stage_ready h call
    obtain ⟨hready', hfiles', hfolder'⟩ := ih _ _ hready
    refine ⟨?_, hfiles'.trans hfiles, ?_⟩
    · rw [List.append_assoc] at hready'
      exact hready'
    · rw [List.forall_mem_cons, ← and_assoc, ← hfolder]
      exact hfolder'

/-! ### The transaction -/

lemma files_cleanupBackupFiles (m : FileTransactionManager P) (cleanup : ℕ → Bool) :
    (m.cleanupBackupFiles cleanup).files = m.files := by
  have hfold : ∀ (entries : List ((P × ℕ) × ℕ)) (fs : FileSystem P) (path : P),
      entries.foldl (fun fs entry => _deleteFile fs (.temporary entry.1.2) (cleanup entry.2)) fs
        (.file path) = fs (.file path) := by
    intro entries
    induction entries with
    | nil => exact fun _ _ => rfl
    | cons entry entries ih =>
      intro fs path
      rw [List.foldl_cons, ih, _deleteFile_of_ne _ _ _ (by simp)]
  funext path
  exact hfold _ m.fs path

omit [DecidableEq P] in
lemma files_cleanupTempFolder (m : FileTransactionManager P) (removed : Bool) :
    (m.cleanupTempFolder removed).files = m.files := by
  unfold cleanupTempFolder
  split_ifs <;> rfl

/-- **The transaction** rejects when the folder cannot be created, with the files as they were;
otherwise it resolves, with what the steps of the operations leave. -/
lemma applyFileOps_ready (h : Ready m m.pendingFileOps staged) (out : TransactionOutcome) :
    ((m.tmpdir = false ∧ FolderFails m.files out.operation 0 staged) ∧
      (m.applyFileOps out).2 = false ∧ (m.applyFileOps out).1.files = m.files) ∨
    (¬ (m.tmpdir = false ∧ FolderFails m.files out.operation 0 staged) ∧
      (m.applyFileOps out).2 = true ∧
      (m.applyFileOps out).1.files = leftAll m.files out.operation 0 staged) := by
  have hready : Ready { m with pendingFileOps := [] } m.pendingFileOps staged :=
    h.kept (Nat.le_refl _) (fun _ _ => rfl) id rfl
  unfold applyFileOps
  dsimp only
  obtain ⟨hfails, m', hexec, hfiles, hbackups⟩ | ⟨hnot, m', hexec, hfiles⟩ :=
    executeAll_ready out.operation m.pendingFileOps 0 _ staged hready
  · rw [hexec]
    refine Or.inl ⟨hfails, rfl, ?_⟩
    rw [files_cleanupTempFolder]
    refine Eq.trans ?_ hfiles
    unfold files rollbackTransaction
    rw [hbackups]
    rfl
  · rw [hexec]
    refine Or.inr ⟨hnot, rfl, ?_⟩
    rw [files_cleanupTempFolder, files_cleanupBackupFiles, hfiles]
    rfl

omit [DecidableEq P] in
lemma Ready.take (h : Ready m operations staged) (n : ℕ) :
    Ready m (operations.take n) (staged.take n) where
  isMatch := List.forall₂_take n h.isMatch
  nodup := h.nodup.sublist ((List.take_sublist n operations).filterMap _)
  folder hne := h.folder fun hnil => hne <| List.sublist_nil.mp <|
    hnil ▸ (List.take_sublist n operations).filterMap FileOperation.source?
  backups := h.backups

omit [DecidableEq P] in
lemma folderFails_of_take {files : P → Option Buffer} {out : ℕ → OperationOutcome}
    (staged : List (StagedOperation P)) :
    ∀ (n index : ℕ), FolderFails files out index (staged.take n) →
      FolderFails files out index staged := by
  induction staged with
  | nil => simp
  | cons operation rest ih =>
    intro n index h
    cases n with
    | zero => exact absurd h id
    | succ n =>
      rw [List.take_succ_cons] at h
      unfold FolderFails at h ⊢
      split_ifs at h ⊢
      · exact ih n (index + 1) h
      · exact h

/-- **When a transaction is all or nothing**: for every file system, every sequence of staged writes
and removals and every outcome of their steps, the transaction is applied as a whole or not at all
exactly when the temporary folder cannot be created or all operations are effective. -/
theorem applyFileOps_allOrNothing_iff (fs : FileSystem P) (calls : List (Staging P))
    (outcome : TransactionOutcome) :
    ((new fs).stageAll calls).1.AllOrNothing ((new fs).stageAll calls).2 outcome ↔
      ((∀ call ∈ calls, createsFolder call = false) ∧
        FolderFails (new fs).files outcome.operation 0 ((new fs).stageAll calls).2) ∨
      Effective (new fs).files outcome.operation 0 ((new fs).stageAll calls).2 := by
  have hnew : Ready (new fs) (new fs).pendingFileOps [] :=
    ⟨List.Forall₂.nil, List.nodup_nil, fun hne => absurd rfl hne, fun _ => rfl⟩
  obtain ⟨hready, hfiles, hfolder⟩ := stageAll_ready calls (new fs) [] hnew
  rw [List.nil_append] at hready
  have hfolder : ((new fs).stageAll calls).1.tmpdir = false ↔
      ∀ call ∈ calls, createsFolder call = false := hfolder.trans (and_iff_right rfl)
  generalize ((new fs).stageAll calls).1 = m at hready hfiles hfolder ⊢
  generalize ((new fs).stageAll calls).2 = staged at hready ⊢
  rw [← hfolder, ← hfiles]
  obtain ⟨hfails, hres, hsame⟩ | ⟨hnot, hres, hleft⟩ := applyFileOps_ready hready outcome
  · refine iff_of_true ⟨fun hresol => ?_, fun hresol => ?_, fun _ => hsame⟩ (Or.inl hfails)
    · exact absurd (hresol.symm.trans hres) Bool.false_ne_true.symm
    · exact absurd (hresol.symm.trans hres) Bool.false_ne_true.symm
  · have hplace : ∀ n, (executeAll outcome.operation 0 { m with pendingFileOps := [] }
        (m.pendingFileOps.take (n + 1))).1.files =
          leftAll m.files outcome.operation 0 (staged.take (n + 1)) := by
      intro n
      have hready' : Ready { m with pendingFileOps := [] } m.pendingFileOps staged :=
        hready.kept (Nat.le_refl _) (fun _ _ => rfl) id rfl
      obtain ⟨hfails, -⟩ | ⟨-, m', hexec, hleft'⟩ :=
        executeAll_ready outcome.operation _ 0 _ _ (hready'.take (n + 1))
      · exact absurd ⟨hfails.1, folderFails_of_take staged (n + 1) 0 hfails.2⟩ hnot
      · rw [hexec]
        exact hleft'
    have hiff := leftAll_eq_applyAll_iff outcome.operation staged 0 m.files m.files
    rw [and_iff_right fun _ _ => rfl] at hiff
    rw [or_iff_right hnot, ← hiff, ← hleft]
    constructor
    · intro h
      exact ⟨h.resolved hres, fun n destinationPath content hn => by
        rw [← hplace]
        exact h.inPlace hres n destinationPath content hn⟩
    · rintro ⟨hall, hin⟩
      refine ⟨fun _ => hall, fun _ n destinationPath content hn => ?_, fun hrejected => ?_⟩
      · rw [hplace]
        exact hin n destinationPath content hn
      · exact absurd (hres.symm.trans hrejected) Bool.false_ne_true.symm

/-- **A transaction that is neither**: the copy of a staged content fails, the transaction resolves,
and the content is in no file. -/
theorem applyFileOps_not_allOrNothing :
    let m := (new (fun _ => none : FileSystem Bool)).stageAll [.stageFile true [1] true .done]
    let outcome : TransactionOutcome :=
      { operation := fun _ => { copy := .failed none }
        restore := fun _ => (.done, true)
        cleanup := fun _ => true
        folder := true }
    (m.1.applyFileOps outcome).2 = true ∧ (m.1.applyFileOps outcome).1.fs = (fun _ => none) ∧
      ¬ m.1.AllOrNothing m.2 outcome := by
  refine ⟨by decide, ?_, fun h => ?_⟩
  · funext path
    cases path with
    | file path => cases path <;> decide
    | temporary number => rfl
  · exact absurd (congrFun (h.resolved (by decide)) true) (by decide)

end FileTransactionManager

end NodeOpcua
