import Mathlib.Data.List.Induction
import Mathlib.Data.List.Nodup
import Mathlib.Data.Nat.Basic
import Mathlib.Order.Basic
import NodeOpcua.Library.Mealy
import NodeOpcua.RoleSet.ArchiveStore

set_option autoImplicit false

/-!
# The archive keeps its sections

The file is to hold what was saved last, as a whole. All saves use one temporary file, so this depends
on the order in which they open and rename it.

## Main definitions

* `ArchiveStore.Consistent`.
* `ArchiveStore.ArchiveCondition`.
* `ArchiveStore.Snapshots`, `ArchiveStore.Files`, `ArchiveStore.Readers` —
  the three parts of the invariant.
-/

namespace NodeOpcua

open List (mem_append mem_append_left append_assoc append_nil not_mem_nil)
open Function (update update_of_ne update_self)

namespace ArchiveStore

variable {V : Type}

/-! ### What is expected -/

/-- The sections, or the answer of `load`, have changed. -/
def isChange : ArchiveOutput V → Bool
  | .changed => true
  | .loaded _ => true
  | _ => false

section

variable (L : List (ArchiveOutput V))

/-- What was seen since the last change. -/
def recent : List (ArchiveOutput V) :=
  L.foldl (fun l o => if isChange o then [] else l ++ [o]) []

/-- What was loaded last. -/
def lastLoaded : Option (RoleSetArchive V) :=
  L.foldl (fun archive o => match o with | .loaded archive => archive | _ => archive) none

/-- The saves that renamed the file, in order. -/
def renamings : List ℕ :=
  L.filterMap fun o => match o with | .renamed number => some number | _ => none

end

/-- **The archive as it should be**: the states of the registered sections, and the values that were
loaded last of the others. -/
def expected (s : ArchiveStore V) (L : List (ArchiveOutput V)) : RoleSetArchive V where
  version := ROLE_SET_ARCHIVE_VERSION
  sections := fun name => if s.registered name then s.live name else sectionOf (lastLoaded L) name

/-- **A whole text**: that of a save, or the one that was there in the beginning. -/
def Whole (initial : Option Buffer) (L : List (ArchiveOutput V)) (text : Option Buffer) : Prop :=
  text = initial ∨ ∃ number archive payload,
    .started number archive payload ∈ L ∧ text = some payload

/-- **What is expected.** Once all saves have ended, and one that was started after the last change was
done, the file holds the archive as it should be. All readers get whole texts. No save replaces one that
was started later. -/
structure Consistent (format : ArchiveFormat V) (initial : Option Buffer) (s : ArchiveStore V)
    (L : List (ArchiveOutput V)) : Prop where
  complete : s.saves = [] →
    (∃ number archive payload, .started number archive payload ∈ recent L ∧
      .saved number ∈ recent L) →
      ∃ random, s.text = some (format.payload s.secret (s.expected L) random)
  whole : ∀ text, .read text ∈ L → Whole initial L text
  inOrder : (renamings L).Pairwise (· < ·)

/-! ### The condition -/

/-- The save uses the temporary file. -/
def SaveStage.holds : SaveStage → Bool
  | .write _ _ => true
  | .rename => true
  | _ => false

/-- **When an event leaves the archive as expected.** A save opens the temporary file when no other save
is using it and no save that was started later has renamed it. When a save ends, the values that it has
written of the sections without provider are those that were loaded last. -/
structure ArchiveCondition (s : ArchiveStore V) (event : Event V) : Prop where
  exclusive : ∀ number n, event = .saveStep number true n → ∀ t ∈ s.saves, t.number = number →
    t.stage = .openTmp → ∀ u ∈ s.saves, SaveStage.holds u.stage = false
  inOrder : ∀ number n, event = .saveStep number true n → ∀ t ∈ s.saves, t.number = number →
    t.stage = .openTmp → s.lastRenamed < number
  current : ∀ number done n, event = .saveStep number done n → ∀ t ∈ s.saves, t.number = number →
    t.stage = .settle → ∀ name, s.registered name = false →
      t.archive.sections name = sectionOf s._loaded name

/-! ### The invariant -/

/-- **Snapshots**: what is known of the saves that were started, and of the values that were loaded. -/
structure Snapshots (format : ArchiveFormat V) (L : List (ArchiveOutput V)) (s : ArchiveStore V) :
    Prop where
  numbered : (s.saves.map (·.number)).Nodup
  begun : ∀ t ∈ s.saves, .started t.number t.archive t.payload ∈ L
  bounded : ∀ number archive payload, .started number archive payload ∈ L →
    0 < number ∧ number ≤ s.started
  unique : ∀ number archive payload archive' payload', .started number archive payload ∈ L →
    .started number archive' payload' ∈ L → archive = archive' ∧ payload = payload'
  printed : ∀ number archive payload, .started number archive payload ∈ L →
    ∃ random, payload = format.payload s.secret archive random
  asExpected : ∀ number archive payload, .started number archive payload ∈ recent L →
    archive = s.expected L
  upward : ∀ number archive payload number' archive' payload',
    .started number archive payload ∈ recent L → .started number' archive' payload' ∈ L →
      number ≤ number' → .started number' archive' payload' ∈ recent L
  loaded : ∀ name, s.registered name = false →
    sectionOf s._loaded name = sectionOf (lastLoaded L) name

/-- **Files**: one save uses the temporary file at most, and it is later than the saves that renamed. -/
structure Files (initial : Option Buffer) (L : List (ArchiveOutput V)) (s : ArchiveStore V) :
    Prop where
  tmpInode : ∀ inode, s.tmp = some inode → inode < s.inodes ∧ s.file ≠ some inode
  fileInode : ∀ inode, s.file = some inode → inode < s.inodes
  writing : ∀ t ∈ s.saves, ∀ inode position, t.stage = .write inode position →
    s.tmp = some inode ∧ position ≤ t.payload.length ∧
      s.contents inode = t.payload.take position
  written : ∀ t ∈ s.saves, t.stage = .rename →
    ∃ inode, s.tmp = some inode ∧ s.contents inode = t.payload
  alone : ∀ t ∈ s.saves, ∀ u ∈ s.saves, SaveStage.holds t.stage = true →
    SaveStage.holds u.stage = true → t.number = u.number
  later : ∀ t ∈ s.saves, SaveStage.holds t.stage = true → s.lastRenamed < t.number
  settling : ∀ t ∈ s.saves, t.stage = .settle → t.number ≤ s.lastRenamed
  saved : ∀ number, .saved number ∈ L → number ≤ s.lastRenamed
  sorted : (renamings L).Pairwise (· < ·)
  renamed : ∀ number ∈ renamings L, number ≤ s.lastRenamed
  held : s.lastRenamed = 0 ∧ s.text = initial ∨
    ∃ archive payload, .started s.lastRenamed archive payload ∈ L ∧ s.text = some payload

/-- **Readers**: who reads has the beginning of a text that is whole, in a file that nothing is written
to. -/
structure Readers (initial : Option Buffer) (L : List (ArchiveOutput V)) (s : ArchiveStore V) :
    Prop where
  reading : ∀ r ∈ s.reads, ∀ inode text, r.stage = .read inode text →
    inode < s.inodes ∧ s.tmp ≠ some inode ∧ text <+: s.contents inode ∧
      Whole initial L (some (s.contents inode))
  whole : ∀ text, .read text ∈ L → Whole initial L text

/-! ### What was seen -/

variable {L : List (ArchiveOutput V)} {s : ArchiveStore V} {format : ArchiveFormat V}
  {initial : Option Buffer}

lemma recent_concat (L : List (ArchiveOutput V)) (o : ArchiveOutput V) :
    recent (L ++ [o]) = if isChange o then [] else recent L ++ [o] := by
  simp [recent]

lemma lastLoaded_concat (L : List (ArchiveOutput V)) (o : ArchiveOutput V) :
    lastLoaded (L ++ [o]) = match o with | .loaded archive => archive | _ => lastLoaded L := by
  cases o <;> simp [lastLoaded]

lemma renamings_append (L L' : List (ArchiveOutput V)) :
    renamings (L ++ L') = renamings L ++ renamings L' := List.filterMap_append

lemma recent_subset {o : ArchiveOutput V} (h : o ∈ recent L) : o ∈ L := by
  induction L using List.reverseRecOn with
  | nil => cases h
  | append_singleton L o' ih =>
    rw [recent_concat] at h
    split_ifs at h
    · cases h
    · rw [mem_append] at h ⊢
      exact h.imp_left ih

lemma Whole.append {text : Option Buffer} (h : Whole initial L text) (L' : List (ArchiveOutput V)) :
    Whole initial (L ++ L') text :=
  h.imp_right fun ⟨number, archive, payload, hmem, heq⟩ =>
    ⟨number, archive, payload, mem_append_left _ hmem, heq⟩

variable {stage : SaveStage}

/-- An output that neither starts a save nor is a change. -/
def Quiet (o : ArchiveOutput V) : Prop :=
  isChange o = false ∧ ∀ number archive payload, o ≠ .started number archive payload

variable {L' : List (ArchiveOutput V)} {number : ℕ}

lemma started_mem_append (hquiet : ∀ o ∈ L', Quiet o)
    {archive : RoleSetArchive V} {payload : Buffer} :
    .started number archive payload ∈ L ++ L' ↔ .started number archive payload ∈ L := by
  rw [mem_append]
  exact or_iff_left fun hmem => (hquiet _ hmem).2 number archive payload rfl

lemma recent_append (hquiet : ∀ o ∈ L', Quiet o) :
    recent (L ++ L') = recent L ++ L' := by
  induction L' using List.reverseRecOn with
  | nil => simp
  | append_singleton L' o ih =>
    rw [← append_assoc, recent_concat, if_neg (by simp [(hquiet o (by simp)).1]),
      ih fun o ho => hquiet o (by simp [ho]), append_assoc]

lemma lastLoaded_append (hquiet : ∀ o ∈ L', Quiet o) :
    lastLoaded (L ++ L') = lastLoaded L := by
  induction L' using List.reverseRecOn with
  | nil => simp
  | append_singleton L' o ih =>
    have ho := (hquiet o (by simp)).1
    rw [← append_assoc, lastLoaded_concat, ih fun o ho => hquiet o (by simp [ho])]
    cases o with
    | loaded archive => cases ho
    | _ => rfl

/-! ### Saves -/

lemma mem_setSave {save t : ArchiveSave V} (hsave : save ∈ s.saves) :
    t ∈ (s.setSave save stage).saves ↔
      t = { save with stage } ∨ t ∈ s.saves ∧ t.number ≠ save.number := by
  rw [setSave, List.mem_map]
  constructor
  · rintro ⟨u, hu, rfl⟩
    by_cases heq : u.number = save.number
    · exact Or.inl (if_pos heq)
    · rw [if_neg heq]
      exact Or.inr ⟨hu, heq⟩
  · rintro (rfl | ⟨ht, hne⟩)
    · exact ⟨save, hsave, if_pos rfl⟩
    · exact ⟨t, ht, if_neg hne⟩

lemma map_number_setSave (save : ArchiveSave V) (stage : SaveStage) :
    (s.setSave save stage).saves.map (·.number) = s.saves.map (·.number) := by
  rw [setSave, List.map_map]
  refine List.map_congr_left fun u _ => ?_
  by_cases heq : u.number = save.number <;> simp [heq]

lemma mem_endSave {t : ArchiveSave V} :
    t ∈ (s.endSave number).saves ↔ t ∈ s.saves ∧ t.number ≠ number := by
  simp [endSave]

/-! ### Snapshots -/

variable {s' : ArchiveStore V}

section

variable (h : Snapshots format L s)
include h

lemma Snapshots.mono (hquiet : ∀ o ∈ L', Quiet o) (hnumbered : (s'.saves.map (·.number)).Nodup)
    (hsaves : ∀ t ∈ s'.saves, ∃ u ∈ s.saves,
      u.number = t.number ∧ u.archive = t.archive ∧ u.payload = t.payload)
    (hstart : s'.started = s.started) (hsecret : s'.secret = s.secret)
    (hreg : s'.registered = s.registered) (hlive : s'.live = s.live)
    (hload : ∀ name, s.registered name = false →
      sectionOf s'._loaded name = sectionOf s._loaded name) :
    Snapshots format (L ++ L') s' := by
  have hexp : s'.expected (L ++ L') = s.expected L := by
    unfold expected
    rw [lastLoaded_append hquiet, hreg, hlive]
  have hrecent : ∀ {number archive payload},
      ArchiveOutput.started (V := V) number archive payload ∈ recent (L ++ L') ↔
        .started number archive payload ∈ recent L := by
    intro number archive payload
    rw [recent_append hquiet, started_mem_append hquiet]
  constructor
  · exact hnumbered
  · intro t ht
    obtain ⟨u, hu, hnum, harchive, hpay⟩ := hsaves t ht
    rw [started_mem_append hquiet, ← hnum, ← harchive, ← hpay]
    exact h.begun u hu
  · intro number archive payload hmem
    rw [hstart]
    exact h.bounded number archive payload ((started_mem_append hquiet).mp hmem)
  · intro number archive payload archive' payload' hmem hmem'
    exact h.unique number archive payload archive' payload' ((started_mem_append hquiet).mp hmem)
      ((started_mem_append hquiet).mp hmem')
  · intro number archive payload hmem
    rw [hsecret]
    exact h.printed number archive payload ((started_mem_append hquiet).mp hmem)
  · intro number archive payload hmem
    rw [hexp]
    exact h.asExpected number archive payload (hrecent.mp hmem)
  · intro number archive payload number' archive' payload' hmem hmem' hle
    exact hrecent.mpr (h.upward number archive payload number' archive' payload'
      (hrecent.mp hmem) ((started_mem_append hquiet).mp hmem') hle)
  · intro name hname
    rw [hreg] at hname
    rw [hload name hname, lastLoaded_append hquiet]
    exact h.loaded name hname

lemma Snapshots.change {o : ArchiveOutput V}
    (ho : isChange o = true) (hsaves : s'.saves = s.saves) (hstarted : s'.started = s.started)
    (hsecret : s'.secret = s.secret)
    (hload : ∀ name, s'.registered name = false →
      sectionOf s'._loaded name = sectionOf (lastLoaded (L ++ [o])) name) :
    Snapshots format (L ++ [o]) s' := by
  have hrecent : recent (L ++ [o]) = [] := by rw [recent_concat, if_pos ho]
  have hmem : ∀ {number archive payload},
      ArchiveOutput.started (V := V) number archive payload ∈ L ++ [o] →
        .started number archive payload ∈ L := by
    intro number archive payload hmem
    rcases List.mem_append.mp hmem with hmem | hmem
    · exact hmem
    · rw [← List.mem_singleton.mp hmem] at ho
      cases ho
  constructor
  · rw [hsaves]
    exact h.numbered
  · intro t ht
    rw [hsaves] at ht
    exact mem_append_left _ (h.begun t ht)
  · intro number archive payload hstart
    rw [hstarted]
    exact h.bounded number archive payload (hmem hstart)
  · intro number archive payload archive' payload' hstart hstart'
    exact h.unique number archive payload archive' payload' (hmem hstart) (hmem hstart')
  · intro number archive payload hstart
    rw [hsecret]
    exact h.printed number archive payload (hmem hstart)
  · intro number archive payload hstart
    rw [hrecent] at hstart
    cases hstart
  · intro number archive payload number' archive' payload' hstart
    rw [hrecent] at hstart
    cases hstart
  · exact hload

lemma Snapshots.snapshot_eq : s.snapshot = s.expected L := by
  unfold snapshot expected
  congr 1
  funext name
  by_cases hname : s.registered name = true
  · rw [if_pos hname, if_pos hname]
  · rw [if_neg hname, if_neg hname, h.loaded name (by simpa using hname)]

lemma Snapshots.save (random : ℕ) :
    Snapshots format (L ++ (s.step format (.save random)).2) (s.step format (.save random)).1 := by
  have hnew : ∀ {number archive payload}, ArchiveOutput.started (V := V) number archive payload ∈
      L ++ (s.step format (.save random)).2 →
        .started number archive payload ∈ L ∨ number = s.started + 1 ∧ archive = s.snapshot ∧
          payload = format.payload s.secret s.snapshot random := by
    intro number archive payload hmem
    refine (List.mem_append.mp hmem).imp_right fun hmem => ?_
    obtain ⟨rfl, rfl, rfl⟩ := ArchiveOutput.started.inj (List.mem_singleton.mp hmem)
    exact ⟨rfl, rfl, rfl⟩
  have hrecent : recent (L ++ (s.step format (.save random)).2) =
      recent L ++ (s.step format (.save random)).2 := by
    simp only [step]
    rw [recent_concat, if_neg (by simp [isChange])]
  have hload : lastLoaded (L ++ (s.step format (.save random)).2) = lastLoaded L := by
    simp [step, lastLoaded]
  have hexp : (s.step format (.save random)).1.expected
      (L ++ (s.step format (.save random)).2) = s.expected L := by
    unfold expected
    rw [hload]
    rfl
  constructor
  · simp only [step, List.map_append, List.map_cons, List.map_nil]
    refine List.Nodup.append h.numbered (List.nodup_singleton _) ?_
    rw [List.disjoint_singleton]
    intro hmem
    obtain ⟨t, ht, heq⟩ := List.mem_map.mp hmem
    have hle := (h.bounded _ _ _ (h.begun t ht)).2
    omega
  · intro t ht
    rcases List.mem_append.mp ht with ht | ht
    · exact mem_append_left _ (h.begun t ht)
    · rw [List.mem_singleton.mp ht]
      exact List.mem_append_right _ (List.mem_singleton_self _)
  · intro number archive payload hmem
    have hstart : (s.step format (.save random)).1.started = s.started + 1 := rfl
    rcases hnew hmem with hmem | ⟨rfl, -, -⟩
    · have hbound := h.bounded number archive payload hmem
      omega
    · omega
  · intro number archive payload archive' payload' hmem hmem'
    rcases hnew hmem with hmem | ⟨rfl, rfl, rfl⟩
    · rcases hnew hmem' with hmem' | ⟨rfl, -, -⟩
      · exact h.unique number archive payload archive' payload' hmem hmem'
      · have hbound := h.bounded _ _ _ hmem
        omega
    · rcases hnew hmem' with hmem' | ⟨-, rfl, rfl⟩
      · have hbound := h.bounded _ _ _ hmem'
        omega
      · exact ⟨rfl, rfl⟩
  · intro number archive payload hmem
    rcases hnew hmem with hmem | ⟨rfl, rfl, rfl⟩
    · exact h.printed number archive payload hmem
    · exact ⟨random, rfl⟩
  · intro number archive payload hmem
    rw [hexp]
    rw [hrecent, mem_append] at hmem
    rcases hmem with hmem | hmem
    · exact h.asExpected number archive payload hmem
    · obtain ⟨rfl, rfl, rfl⟩ := ArchiveOutput.started.inj (List.mem_singleton.mp hmem)
      exact h.snapshot_eq
  · intro number archive payload number' archive' payload' hmem hmem' hle
    rw [hrecent, mem_append] at hmem ⊢
    rcases List.mem_append.mp hmem' with hmem' | hmem'
    · rcases hmem with hmem | hmem
      · exact Or.inl (h.upward number archive payload number' archive' payload' hmem hmem' hle)
      · obtain ⟨rfl, -, -⟩ := ArchiveOutput.started.inj (List.mem_singleton.mp hmem)
        have hbound := (h.bounded _ _ _ hmem').2
        omega
    · exact Or.inr hmem'
  · intro name hname
    rw [hload]
    exact h.loaded name hname

end

/-! ### Files -/

lemma Files.whole (h : Files initial L s) : Whole initial L s.text := by
  rcases h.held with ⟨-, htext⟩ | ⟨archive, payload, hmem, htext⟩
  · exact Or.inl htext
  · exact Or.inr ⟨_, archive, payload, hmem, htext⟩

lemma Files.mono (h : Files initial L s)
    (hoL : ∀ o ∈ L', (∀ number, o ≠ .saved number) ∧ ∀ number, o ≠ .renamed number)
    (hsaves : ∀ t ∈ s'.saves, t ∈ s.saves ∨ t.stage = .mkdir ∨ t.stage = .openTmp)
    (htmp : s'.tmp = s.tmp) (hfile : s'.file = s.file) (hinodes : s'.inodes = s.inodes)
    (hcont : s'.contents = s.contents) (hlast : s'.lastRenamed = s.lastRenamed) :
    Files initial (L ++ L') s' := by
  have hsaved : ∀ number, .saved number ∈ L ++ L' → .saved number ∈ L := fun number hmem =>
    (List.mem_append.mp hmem).elim id fun hmem => absurd rfl ((hoL _ hmem).1 number)
  have hrenamed : renamings (L ++ L') = renamings L := by
    have hnone : renamings L' = [] := by
      refine List.filterMap_eq_nil_iff.mpr fun o ho => ?_
      cases o with
      | renamed number => exact absurd rfl ((hoL _ ho).2 number)
      | _ => rfl
    rw [renamings_append, hnone, append_nil]
  have hholds : ∀ t ∈ s'.saves, SaveStage.holds t.stage = true → t ∈ s.saves := by
    intro t ht hhold
    rcases hsaves t ht with ht | hstage | hstage
    · exact ht
    · rw [hstage] at hhold
      cases hhold
    · rw [hstage] at hhold
      cases hhold
  constructor
  · rw [htmp, hfile, hinodes]
    exact h.tmpInode
  · rw [hfile, hinodes]
    exact h.fileInode
  · intro t ht inode position hstage
    rw [htmp, hcont]
    exact h.writing t (hholds t ht (by rw [hstage]; rfl)) inode position hstage
  · intro t ht hstage
    rw [htmp, hcont]
    exact h.written t (hholds t ht (by rw [hstage]; rfl)) hstage
  · exact fun t ht u hu htholds huholds =>
      h.alone t (hholds t ht htholds) u (hholds u hu huholds) htholds huholds
  · rw [hlast]
    exact fun t ht htholds => h.later t (hholds t ht htholds) htholds
  · intro t ht hstage
    rw [hlast]
    rcases hsaves t ht with ht | hother | hother
    · exact h.settling t ht hstage
    · rw [hother] at hstage
      cases hstage
    · rw [hother] at hstage
      cases hstage
  · rw [hlast]
    exact fun number hmem => h.saved number (hsaved number hmem)
  · rw [hrenamed]
    exact h.sorted
  · rw [hrenamed, hlast]
    exact h.renamed
  · have htext : s'.text = s.text := by rw [text, text, hfile, hcont]
    rw [hlast, htext]
    exact h.held.imp_right fun ⟨archive, payload, hmem, heq⟩ =>
      ⟨archive, payload, mem_append_left _ hmem, heq⟩

variable {save : ArchiveSave V}

lemma Files.hold (h : Files initial L s)
    (hholds : SaveStage.holds stage = true) (hlater : s.lastRenamed < save.number)
    (hsaves : ∀ t ∈ s'.saves, t = { save with stage } ∨
      t ∈ s.saves ∧ SaveStage.holds t.stage = false)
    (htmp : ∀ inode, s'.tmp = some inode → inode < s'.inodes ∧ s.file ≠ some inode)
    (hfile : s'.file = s.file) (hinodes : s.inodes ≤ s'.inodes)
    (hcont : ∀ inode, s.file = some inode → s'.contents inode = s.contents inode)
    (hlast : s'.lastRenamed = s.lastRenamed)
    (hwrite : ∀ inode position, stage = .write inode position → s'.tmp = some inode ∧
      position ≤ save.payload.length ∧ s'.contents inode = save.payload.take position)
    (hrename : stage = .rename →
      ∃ inode, s'.tmp = some inode ∧ s'.contents inode = save.payload) :
    Files initial L s' := by
  have hcases : ∀ t ∈ s'.saves, SaveStage.holds t.stage = true → t = { save with stage } := by
    intro t ht hhold
    rcases hsaves t ht with heq | ⟨-, hnot⟩
    · exact heq
    · rw [hnot] at hhold
      cases hhold
  constructor
  · rw [hfile]
    exact htmp
  · rw [hfile]
    exact fun inode hinode => Nat.lt_of_lt_of_le (h.fileInode inode hinode) hinodes
  · intro t ht inode position hstage
    obtain rfl := hcases t ht (by rw [hstage]; rfl)
    exact hwrite inode position hstage
  · intro t ht hstage
    obtain rfl := hcases t ht (by rw [hstage]; rfl)
    exact hrename hstage
  · intro t ht u hu htholds huholds
    rw [hcases t ht htholds, hcases u hu huholds]
  · intro t ht htholds
    rw [hlast, hcases t ht htholds]
    exact hlater
  · intro t ht hstage
    rw [hlast]
    rcases hsaves t ht with rfl | ⟨ht, -⟩
    · rw [show stage = .settle from hstage] at hholds
      cases hholds
    · exact h.settling t ht hstage
  · rw [hlast]
    exact h.saved
  · exact h.sorted
  · rw [hlast]
    exact h.renamed
  · have htext : s'.text = s.text := by
      rw [text, text, hfile]
      exact Option.map_congr fun inode hinode => hcont inode hinode
    rw [hlast, htext]
    exact h.held

variable {inode : ℕ}

/-- **The file is renamed.** -/
lemma Files.rename (h : Files initial L s) (hsave : save ∈ s.saves)
    (hstage : save.stage = .rename) (htmp : s.tmp = some inode)
    (hbegun : .started save.number save.archive save.payload ∈ L) :
    Files initial (L ++ [.renamed save.number])
      ({ s with tmp := none, file := some inode, lastRenamed := save.number }.setSave save .settle) := by
  have hholds : SaveStage.holds save.stage = true := by rw [hstage]; rfl
  have hlater := h.later save hsave hholds
  have hcont : s.contents inode = save.payload := by
    obtain ⟨inode', htmp', hcont⟩ := h.written save hsave hstage
    obtain rfl := Option.some.inj (htmp.symm.trans htmp')
    exact hcont
  -- no other save uses the temporary file
  have hothers : ∀ t ∈ ({ s with tmp := none, file := some inode, lastRenamed := save.number }.setSave
      save .settle).saves, SaveStage.holds t.stage = false := by
    intro t ht
    rcases (mem_setSave (s := { s with tmp := none, file := some inode, lastRenamed := save.number })
      hsave).mp ht with rfl | ⟨ht, hne⟩
    · rfl
    · cases hhold : SaveStage.holds t.stage with
      | false => rfl
      | true => exact absurd (h.alone t ht save hsave hhold hholds) hne
  have hnot : ∀ {P : Prop}, ∀ t ∈ ({ s with
      tmp := none, file := some inode, lastRenamed := save.number }.setSave save .settle).saves,
      SaveStage.holds t.stage = true → P :=
    fun t ht hhold => absurd ((hothers t ht).symm.trans hhold) Bool.false_ne_true
  constructor
  · exact fun inode' htmp' => nomatch htmp'
  · intro inode' hinode'
    obtain rfl := Option.some.inj hinode'
    exact (h.tmpInode inode htmp).1
  · exact fun t ht inode' position hwrite => hnot t ht (by rw [hwrite]; rfl)
  · exact fun t ht hrename => hnot t ht (by rw [hrename]; rfl)
  · exact fun t ht u _ hhold _ => hnot t ht hhold
  · exact fun t ht hhold => hnot t ht hhold
  · intro t ht hsettle
    rcases (mem_setSave (s := { s with tmp := none, file := some inode, lastRenamed := save.number })
      hsave).mp ht with rfl | ⟨ht, -⟩
    · exact le_rfl
    · exact (h.settling t ht hsettle).trans hlater.le
  · intro number hmem
    rcases List.mem_append.mp hmem with hmem | hmem
    · exact (h.saved number hmem).trans hlater.le
    · exact nomatch List.mem_singleton.mp hmem
  · rw [renamings_append]
    refine List.pairwise_append.mpr ⟨h.sorted, List.pairwise_singleton _ _, fun n hn m hm => ?_⟩
    rw [List.mem_singleton.mp hm]
    exact Nat.lt_of_le_of_lt (h.renamed n hn) hlater
  · intro number hmem
    rw [renamings_append] at hmem
    rcases List.mem_append.mp hmem with hmem | hmem
    · exact (h.renamed number hmem).trans hlater.le
    · exact (List.mem_singleton.mp hmem).le
  · exact Or.inr ⟨save.archive, save.payload, mem_append_left _ hbegun,
      congrArg some hcont⟩

lemma Files.settle (h : Files initial L s) (hsave : save ∈ s.saves)
    (hstage : save.stage = .settle) :
    Files initial (L ++ [.saved save.number])
      ({ s with _loaded := some save.archive }.endSave save.number) := by
  have hmem : ∀ t ∈ ({ s with _loaded := some save.archive }.endSave save.number).saves,
      t ∈ s.saves := fun t ht =>
    (mem_endSave (s := { s with _loaded := some save.archive })).mp ht |>.1
  have hrenamed : renamings (L ++ [.saved save.number]) = renamings L := by
    rw [renamings_append]
    exact append_nil _
  constructor
  · exact h.tmpInode
  · exact h.fileInode
  · exact fun t ht => h.writing t (hmem t ht)
  · exact fun t ht => h.written t (hmem t ht)
  · exact fun t ht u hu => h.alone t (hmem t ht) u (hmem u hu)
  · exact fun t ht => h.later t (hmem t ht)
  · exact fun t ht => h.settling t (hmem t ht)
  · intro number hsaved
    rcases List.mem_append.mp hsaved with hsaved | hsaved
    · exact h.saved number hsaved
    · obtain rfl := ArchiveOutput.saved.inj (List.mem_singleton.mp hsaved)
      exact h.settling save hsave hstage
  · rw [hrenamed]
    exact h.sorted
  · rw [hrenamed]
    exact h.renamed
  · exact h.held.imp_right fun ⟨archive, payload, hstart, heq⟩ =>
      ⟨archive, payload, mem_append_left _ hstart, heq⟩

/-! ### Readers -/

lemma Readers.mono (h : Readers initial L s) (hoL : ∀ text, .read text ∉ L')
    (hreads : ∀ r ∈ s'.reads, r ∈ s.reads ∨ ∀ inode text, r.stage ≠ .read inode text)
    (hinodes : s.inodes ≤ s'.inodes)
    (hcont : ∀ inode, inode < s.inodes → s.tmp ≠ some inode →
      s'.tmp ≠ some inode ∧ s'.contents inode = s.contents inode) :
    Readers initial (L ++ L') s' := by
  constructor
  · intro r hr inode text hstage
    rcases hreads r hr with hr | hnot
    · obtain ⟨hlt, htmp, hbegin, hwhole⟩ := h.reading r hr inode text hstage
      obtain ⟨htmp', hsame⟩ := hcont inode hlt htmp
      rw [hsame]
      exact ⟨Nat.lt_of_lt_of_le hlt hinodes, htmp', hbegin, hwhole.append L'⟩
    · exact absurd hstage (hnot inode text)
  · intro text hmem
    rcases List.mem_append.mp hmem with hmem | hmem
    · exact (h.whole text hmem).append L'
    · exact absurd hmem (hoL text)

lemma mem_setRead {read r : ArchiveRead} {stage : ReadStage}
    (hr : r ∈ (s.setRead read stage).reads) : r = { read with stage } ∨ r ∈ s.reads := by
  obtain ⟨u, hu, rfl⟩ := List.mem_map.mp hr
  by_cases heq : u.number = read.number
  · exact Or.inl (if_pos heq)
  · exact Or.inr (by rwa [if_neg heq])

lemma mem_endRead {r : ArchiveRead} (hr : r ∈ (s.endRead number).reads) :
    r ∈ s.reads := List.mem_of_mem_filter hr

lemma Readers.setRead_read (h : Readers initial L s) {read : ArchiveRead} {text : Buffer}
    (hlt : inode < s.inodes) (htmp : s.tmp ≠ some inode) (hbegin : text <+: s.contents inode)
    (hwhole : Whole initial L (some (s.contents inode))) :
    Readers initial L (s.setRead read (.read inode text)) := by
  refine ⟨fun r hr inode' text' hstage => ?_, h.whole⟩
  rcases mem_setRead hr with rfl | hr
  · obtain ⟨rfl, rfl⟩ := ReadStage.read.inj hstage
    exact ⟨hlt, htmp, hbegin, hwhole⟩
  · exact h.reading r hr inode' text' hstage

lemma Readers.setRead_settle (h : Readers initial L s) {read : ArchiveRead} {text : Option Buffer}
    (hwhole : Whole initial L text) :
    Readers initial (L ++ [.read text]) (s.setRead read (.settle text)) := by
  refine ⟨fun r hr inode' text' hstage => ?_, fun text' hmem => ?_⟩
  · rcases mem_setRead hr with rfl | hr
    · cases hstage
    · obtain ⟨hlt, htmp, hbegin, hwhole'⟩ := h.reading r hr inode' text' hstage
      exact ⟨hlt, htmp, hbegin, hwhole'.append _⟩
  · rcases List.mem_append.mp hmem with hmem | hmem
    · exact (h.whole text' hmem).append _
    · rw [ArchiveOutput.read.inj (List.mem_singleton.mp hmem)]
      exact hwhole.append _

/-! ### Steps -/

/-- **The invariant.** -/
structure Orderly (format : ArchiveFormat V) (initial : Option Buffer) (L : List (ArchiveOutput V))
    (s : ArchiveStore V) : Prop where
  snapshots : Snapshots format L s
  files : Files initial L s
  readers : Readers initial L s

lemma Orderly.fail (h : Orderly format initial L s) (number : ℕ) :
    Orderly format initial (L ++ (s.failSave number).2) (s.failSave number).1 := by
  have hmem : ∀ t ∈ (s.failSave number).1.saves, t ∈ s.saves := fun t ht => (mem_endSave.mp ht).1
  refine ⟨h.snapshots.mono ?_ ?_ (fun t ht => ⟨t, hmem t ht, rfl, rfl, rfl⟩) rfl rfl rfl rfl
      fun _ _ => rfl,
    h.files.mono ?_ (fun t ht => Or.inl (hmem t ht)) rfl rfl rfl rfl rfl,
    h.readers.mono ?_ (fun r hr => Or.inl hr) (Nat.le_refl _) fun _ _ htmp => ⟨htmp, rfl⟩⟩
  · simp [failSave, Quiet, isChange]
  · exact h.snapshots.numbered.sublist (List.filter_sublist.map _)
  · simp [failSave]
  · simp [failSave]

lemma Snapshots.setSave (h : Snapshots format L s) (hsave : save ∈ s.saves)
    (hquiet : ∀ o ∈ L', Quiet o) (hsaves : s'.saves = s.saves) (hstart : s'.started = s.started)
    (hsecret : s'.secret = s.secret) (hreg : s'.registered = s.registered)
    (hlive : s'.live = s.live) (hload : s'._loaded = s._loaded) :
    Snapshots format (L ++ L') (s'.setSave save stage) := by
  refine h.mono hquiet ?_ (fun t ht => ?_) hstart hsecret hreg hlive
    fun name _ => congrArg (sectionOf · name) hload
  · rw [map_number_setSave, hsaves]
    exact h.numbered
  · rcases (mem_setSave (hsaves ▸ hsave)).mp ht with rfl | ⟨ht, -⟩
    · exact ⟨save, hsave, rfl, rfl, rfl⟩
    · exact ⟨t, hsaves ▸ ht, rfl, rfl, rfl⟩

/-- **A save opens the temporary file.** -/
lemma Orderly.openTmp (h : Orderly format initial L s) (hsave : save ∈ s.saves)
    (hfree : ∀ t ∈ s.saves, SaveStage.holds t.stage = false) (hlater : s.lastRenamed < save.number)
    (hlt : inode < s'.inodes) (hnot : s.file ≠ some inode)
    (hold : ∀ i, i < s.inodes → s.tmp ≠ some i → inode ≠ i) (hinodes : s.inodes ≤ s'.inodes)
    (hs' : s' = { s with
      contents := update s.contents inode []
      inodes := s'.inodes
      tmp := some inode }) :
    Orderly format initial (L ++ []) (s'.setSave save (.write inode 0)) := by
  have htmp : s'.tmp = some inode := by rw [hs']
  have hcont : s'.contents = update s.contents inode [] := by rw [hs']
  have hsaves : s'.saves = s.saves := by rw [hs']
  refine ⟨h.snapshots.setSave hsave (fun o ho => nomatch ho) hsaves (by rw [hs']) (by rw [hs'])
      (by rw [hs']) (by rw [hs']) (by rw [hs']), ?_, ?_⟩
  · rw [append_nil]
    have hholds : SaveStage.holds (.write inode 0) = true := rfl
    refine h.files.hold hholds hlater (fun t ht => ?_)
      (fun i hi => ?_) (by rw [setSave, hs']) hinodes (fun i hi => ?_) (by rw [setSave, hs'])
      (fun i position hstage => ?_) nofun
    · exact ((mem_setSave (hsaves ▸ hsave)).mp ht).imp_right
        fun hboth => ⟨hsaves ▸ hboth.1, hfree t (hsaves ▸ hboth.1)⟩
    · obtain rfl := Option.some.inj (htmp.symm.trans hi)
      exact ⟨hlt, hnot⟩
    · have hne : i ≠ inode := fun heq => hnot (heq ▸ hi)
      exact (congrFun hcont i).trans (update_of_ne hne _ _)
    · obtain ⟨rfl, rfl⟩ := SaveStage.write.inj hstage
      refine ⟨htmp, Nat.zero_le _, (congrFun hcont inode).trans ?_⟩
      rw [update_self, List.take_zero]
  · refine h.readers.mono (fun _ => not_mem_nil) (fun r hr => Or.inl (by rwa [setSave, hs'] at hr))
      hinodes fun i hi htmp' => ?_
    have hne := hold i hi htmp'
    refine ⟨fun heq => hne (Option.some.inj (htmp.symm.trans heq)),
      (congrFun hcont i).trans (update_of_ne (Ne.symm hne) _ _)⟩

lemma writeAt_take {payload : Buffer} {position : ℕ} (hle : position ≤ payload.length) (n : ℕ) :
    writeAt (payload.take position) position ((payload.drop position).take n) =
      payload.take (position + ((payload.drop position).take n).length) := by
  have hlen : (payload.take position).length = position := by
    rw [List.length_take]
    omega
  have htake : payload.take (position + n) =
      payload.take position ++ (payload.drop position).take n := List.take_add
  have hall : payload.take (position + ((payload.drop position).take n).length) =
      payload.take (position + n) := by
    rw [List.length_take, List.length_drop]
    by_cases hn : n ≤ payload.length - position
    · rw [Nat.min_eq_left hn]
    · rw [Nat.min_eq_right (by omega), List.take_of_length_le (by omega),
        List.take_of_length_le (by omega)]
  have hbefore : (payload.take position).take position = payload.take position :=
    List.take_of_length_le (by omega)
  have hafter : (payload.take position).drop
      (position + ((payload.drop position).take n).length) = [] :=
    List.drop_of_length_le (by omega)
  rw [writeAt, hall, htake, hlen, hbefore, hafter, Nat.sub_self, List.replicate_zero,
    append_nil, append_nil]

section

variable (h : Orderly format initial L s)
include h

/-- **A save writes.** -/
lemma Orderly.write (hsave : save ∈ s.saves)
    {inode position : ℕ} (hstage : save.stage = .write inode position) (n : ℕ) :
    Orderly format initial (L ++ (s.saveStep save true n).2) (s.saveStep save true n).1 := by
  obtain ⟨htmp, hle, hcont⟩ := h.files.writing save hsave inode position hstage
  have hholds : SaveStage.holds save.stage = true := by rw [hstage]; rfl
  have hwrit := writeAt_take hle (n + 1)
  rw [← hcont] at hwrit
  simp only [saveStep, hstage, Bool.not_true, Bool.false_eq_true, if_false]
  set bytes := (save.payload.drop position).take (n + 1) with hbytes
  have hlen : position + bytes.length ≤ save.payload.length := by
    rw [hbytes, List.length_take, List.length_drop]
    omega
  set s' : ArchiveStore V := { s with
    contents := update s.contents inode (writeAt (s.contents inode) position bytes) }
    with hs'
  have hself : s'.contents inode = save.payload.take (position + bytes.length) := by
    rw [hs', ← hwrit]
    exact update_self ..
  have hother : ∀ i, i ≠ inode → s'.contents i = s.contents i :=
    fun i hi => update_of_ne hi ..
  have hcases : ∀ stage, SaveStage.holds stage = true →
      (∀ i q, stage = .write i q → i = inode ∧ q = position + bytes.length) →
      (stage = .rename → position + bytes.length = save.payload.length) →
      Orderly format initial (L ++ []) (s'.setSave save stage) := by
    intro stage hstage' hwrite hrename
    refine ⟨h.snapshots.setSave hsave (fun o ho => nomatch ho) rfl rfl rfl rfl rfl rfl, ?_, ?_⟩
    · rw [append_nil]
      refine h.files.hold hstage' (h.files.later save hsave hholds)
        (fun t ht => ?_) h.files.tmpInode rfl (Nat.le_refl _) (fun i hi => hother i ?_) rfl
        (fun i q hq => ?_) fun hq => ?_
      · refine ((mem_setSave (s := s') hsave).mp ht).imp_right fun hboth => ⟨hboth.1, ?_⟩
        cases hhold : SaveStage.holds t.stage with
        | false => rfl
        | true => exact absurd (h.files.alone t hboth.1 save hsave hhold hholds) hboth.2
      · rintro rfl
        exact (h.files.tmpInode i htmp).2 hi
      · obtain ⟨rfl, rfl⟩ := hwrite i q hq
        exact ⟨htmp, hlen, hself⟩
      · refine ⟨inode, htmp, hself.trans ?_⟩
        rw [hrename hq, List.take_length]
    · refine h.readers.mono (fun _ => not_mem_nil) (fun r hr => Or.inl hr) (Nat.le_refl _)
        fun i _ htmp' => ⟨htmp', hother i ?_⟩
      rintro rfl
      exact htmp' htmp
  by_cases hend : position + bytes.length = save.payload.length
  · rw [if_pos hend]
    exact hcases .rename rfl nofun fun _ => hend
  · rw [if_neg hend]
    refine hcases _ rfl (fun i q hq => ?_) nofun
    obtain ⟨rfl, rfl⟩ := SaveStage.write.inj hq
    exact ⟨rfl, rfl⟩

/-- **The next call of a save** keeps the invariant. -/
lemma Orderly.saveStep (hsave : save ∈ s.saves)
    {done : Bool} {n : ℕ} (ha : ArchiveCondition s (.saveStep save.number done n)) :
    Orderly format initial (L ++ (s.saveStep save done n).2) (s.saveStep save done n).1 := by
  have hfail : done = false → save.stage ≠ .settle → s.saveStep save done n = s.failSave save.number := by
    rintro rfl hsettle
    unfold ArchiveStore.saveStep
    cases hstage : save.stage with
    | settle => exact absurd hstage hsettle
    | _ => rfl
  match hstage : save.stage with
  | .settle =>
    have hstep : s.saveStep save done n =
        ({ s with _loaded := some save.archive }.endSave save.number, [.saved save.number]) := by
      unfold ArchiveStore.saveStep
      rw [hstage]
    rw [hstep]
    refine ⟨h.snapshots.mono ?_ ?_ (fun t ht => ⟨t, (mem_endSave.mp ht).1, rfl, rfl, rfl⟩)
        rfl rfl rfl rfl (ha.current _ done n rfl save hsave rfl hstage),
      h.files.settle hsave hstage,
      h.readers.mono (by simp) (fun r hr => Or.inl hr) (Nat.le_refl _) fun _ _ htmp => ⟨htmp, rfl⟩⟩
    · simp [Quiet, isChange]
    · exact h.snapshots.numbered.sublist (List.filter_sublist.map _)
  | .mkdir =>
    cases done with
    | false =>
      rw [hfail rfl (by rw [hstage]; nofun)]
      exact h.fail save.number
    | true =>
      have hstep : s.saveStep save true n = (s.setSave save .openTmp, []) := by
        unfold ArchiveStore.saveStep
        rw [hstage]
        rfl
      rw [hstep]
      refine ⟨h.snapshots.setSave hsave (fun o ho => nomatch ho) rfl rfl rfl rfl rfl rfl,
        h.files.mono (fun o ho => nomatch ho) (fun t ht => ?_) rfl rfl rfl rfl rfl,
        h.readers.mono (fun _ => not_mem_nil) (fun r hr => Or.inl hr) (Nat.le_refl _)
          fun _ _ htmp => ⟨htmp, rfl⟩⟩
      rcases (mem_setSave hsave).mp ht with rfl | ⟨ht, -⟩
      · exact Or.inr (Or.inr rfl)
      · exact Or.inl ht
  | .openTmp =>
    cases done with
    | false =>
      rw [hfail rfl (by rw [hstage]; nofun)]
      exact h.fail save.number
    | true =>
      have hfree := ha.exclusive _ n rfl save hsave rfl hstage
      have hlater := ha.inOrder _ n rfl save hsave rfl hstage
      cases htmp : s.tmp with
      | some inode =>
        have hstep : s.saveStep save true n =
            ({ s with contents := update s.contents inode [] }.setSave save
              (.write inode 0), []) := by
          unfold ArchiveStore.saveStep
          rw [hstage, htmp]
          rfl
        obtain ⟨hlt, hnot⟩ := h.files.tmpInode inode htmp
        rw [hstep]
        refine h.openTmp hsave hfree hlater hlt hnot (fun i _ hne heq => ?_) (Nat.le_refl _) ?_
        · exact hne (heq ▸ htmp)
        · rw [← htmp]
      | none =>
        have hstep : s.saveStep save true n =
            ({ s with
                contents := update s.contents s.inodes []
                inodes := s.inodes + 1
                tmp := some s.inodes }.setSave save (.write s.inodes 0), []) := by
          unfold ArchiveStore.saveStep
          rw [hstage, htmp]
          rfl
        rw [hstep]
        refine h.openTmp hsave hfree hlater (Nat.lt_succ_self _) (fun hfile => ?_)
          (fun i hi _ heq => ?_) (Nat.le_succ _) rfl
        · exact Nat.lt_irrefl _ (h.files.fileInode _ hfile)
        · omega
  | .write inode position =>
    cases done with
    | false =>
      rw [hfail rfl (by rw [hstage]; nofun)]
      exact h.fail save.number
    | true => exact h.write hsave hstage n
  | .rename =>
    cases done with
    | false =>
      rw [hfail rfl (by rw [hstage]; nofun)]
      exact h.fail save.number
    | true =>
      obtain ⟨inode, htmp, -⟩ := h.files.written save hsave hstage
      have hstep : s.saveStep save true n =
          ({ s with tmp := none, file := some inode, lastRenamed := save.number }.setSave save .settle,
            [.renamed save.number]) := by
        unfold ArchiveStore.saveStep
        rw [hstage, htmp]
        rfl
      rw [hstep]
      refine ⟨h.snapshots.setSave hsave ?_ rfl rfl rfl rfl rfl rfl,
        h.files.rename hsave hstage htmp (h.snapshots.begun save hsave),
        h.readers.mono (by simp) (fun r hr => Or.inl hr) (Nat.le_refl _)
          fun _ _ _ => ⟨nofun, rfl⟩⟩
      simp [Quiet, isChange]

/-- **The next call of a read** keeps the invariant. -/
lemma Orderly.readStep (read : ArchiveRead) (hread : read ∈ s.reads) (done : Bool) (n : ℕ) :
    Orderly format initial (L ++ (s.readStep format read done n).2)
      (s.readStep format read done n).1 := by
  -- a read that ends, or moves on, leaves the saves and the files
  have hquiet : ∀ {s' : ArchiveStore V} {L' : List (ArchiveOutput V)},
      (∀ o ∈ L', ∃ text, o = .read text) → (∃ reads, s' = { s with reads }) →
        Readers initial (L ++ L') s' → Orderly format initial (L ++ L') s' := by
    rintro s' L' hL' ⟨reads, rfl⟩ hreaders
    refine ⟨h.snapshots.mono (fun o ho => ?_) h.snapshots.numbered
        (fun t ht => ⟨t, ht, rfl, rfl, rfl⟩) rfl rfl rfl rfl fun _ _ => rfl,
      h.files.mono (fun o ho => ?_) (fun t ht => Or.inl ht) rfl rfl rfl rfl rfl, hreaders⟩
    · obtain ⟨text, rfl⟩ := hL' o ho
      exact ⟨rfl, nofun⟩
    · obtain ⟨text, rfl⟩ := hL' o ho
      exact ⟨nofun, nofun⟩
  have hend : ∀ {archive}, Readers initial L ({ s with _loaded := archive }.endRead read.number) := by
    intro archive
    have hreaders : Readers initial (L ++ [])
        ({ s with _loaded := archive }.endRead read.number) := h.readers.mono
      (fun _ => not_mem_nil) (fun r hr => Or.inl (mem_endRead (s := { s with _loaded := archive }) hr)) (Nat.le_refl _)
      fun _ _ htmp => ⟨htmp, rfl⟩
    rwa [append_nil] at hreaders
  have hended : Orderly format initial (L ++ []) (s.endRead read.number) :=
    hquiet (fun o ho => nomatch ho) ⟨_, rfl⟩ (by rw [append_nil]; exact hend)
  match hstage : read.stage with
  | .openFile =>
    cases done with
    | false =>
      unfold ArchiveStore.readStep
      rw [hstage]
      exact hended
    | true =>
      cases hfile : s.file with
      | none =>
        have hstep : s.readStep format read true n =
            (s.setRead read (.settle none), [.read none]) := by
          unfold ArchiveStore.readStep
          rw [hstage, hfile]
          rfl
        have hwhole := h.files.whole
        rw [text, hfile] at hwhole
        rw [hstep]
        exact hquiet (by simp) ⟨_, rfl⟩ (h.readers.setRead_settle hwhole)
      | some inode =>
        have hstep : s.readStep format read true n = (s.setRead read (.read inode []), []) := by
          unfold ArchiveStore.readStep
          rw [hstage, hfile]
          rfl
        have hwhole := h.files.whole
        rw [text, hfile] at hwhole
        rw [hstep]
        refine hquiet (fun o ho => nomatch ho) ⟨_, rfl⟩ ?_
        rw [append_nil]
        exact h.readers.setRead_read (h.files.fileInode inode hfile)
          (fun htmp => (h.files.tmpInode inode htmp).2 hfile) List.nil_prefix hwhole
  | .read inode text =>
    cases done with
    | false =>
      unfold ArchiveStore.readStep
      rw [hstage]
      exact hended
    | true =>
      obtain ⟨hlt, htmp, ⟨rest, hrest⟩, hwhole⟩ := h.readers.reading read hread inode text hstage
      have hdrop : (s.contents inode).drop text.length = rest := by
        rw [← hrest, List.drop_left]
      cases rest with
      | nil =>
        have hstep : s.readStep format read true n =
            (s.setRead read (.settle (some text)), [.read (some text)]) := by
          unfold ArchiveStore.readStep
          rw [hstage]
          simp only [Bool.not_true, Bool.false_eq_true, if_false, hdrop, List.take_nil]
        rw [append_nil] at hrest
        rw [hstep]
        exact hquiet (by simp) ⟨_, rfl⟩ (h.readers.setRead_settle (hrest ▸ hwhole))
      | cons b rest =>
        have hstep : s.readStep format read true n =
            (s.setRead read (.read inode (text ++ (b :: rest.take n))), []) := by
          unfold ArchiveStore.readStep
          rw [hstage]
          simp only [Bool.not_true, Bool.false_eq_true, if_false, hdrop, List.take_succ_cons]
        rw [hstep]
        refine hquiet (fun o ho => nomatch ho) ⟨_, rfl⟩ ?_
        rw [append_nil]
        refine h.readers.setRead_read hlt htmp ⟨rest.drop n, ?_⟩ hwhole
        rw [← hrest, append_assoc, List.cons_append, List.take_append_drop]
  | .settle text =>
    unfold ArchiveStore.readStep
    rw [hstage]
    dsimp only
    split_ifs with hload
    · exact hended
    · split
      · exact hended
      · next archive _ =>
        refine ⟨h.snapshots.change rfl rfl rfl rfl fun name _ => ?_,
          h.files.mono (by simp) (fun t ht => Or.inl ht) rfl rfl rfl rfl rfl,
          h.readers.mono (by simp)
            (fun r hr => Or.inl (mem_endRead (s := { s with _loaded := archive }) hr))
            (Nat.le_refl _) fun _ _ htmp => ⟨htmp, rfl⟩⟩
        rw [lastLoaded_concat]
        rfl

end

/-- **Every event that meets its condition keeps the invariant.** -/
theorem Orderly.step (h : Orderly format initial L s) {event : Event V}
    (ha : ArchiveCondition s event) :
    Orderly format initial (L ++ (s.step format event).2) (s.step format event).1 := by
  cases event with
  | setProvider name =>
    refine ⟨h.snapshots.change rfl rfl rfl rfl fun name' hname => ?_,
      h.files.mono (by simp [ArchiveStore.step]) (fun t ht => Or.inl ht) rfl rfl rfl rfl rfl,
      h.readers.mono (by simp [ArchiveStore.step]) (fun r hr => Or.inl hr) (Nat.le_refl _)
        fun _ _ htmp => ⟨htmp, rfl⟩⟩
    rw [lastLoaded_concat]
    refine h.snapshots.loaded name' ?_
    by_cases heq : name' = name
    · subst heq
      exact absurd ((update_self ..).symm.trans hname) (by decide)
    · exact (update_of_ne heq ..).symm.trans hname
  | mutate name value =>
    refine ⟨h.snapshots.change rfl rfl rfl rfl fun name' hname => ?_,
      h.files.mono (by simp [ArchiveStore.step]) (fun t ht => Or.inl ht) rfl rfl rfl rfl rfl,
      h.readers.mono (by simp [ArchiveStore.step]) (fun r hr => Or.inl hr) (Nat.le_refl _)
        fun _ _ htmp => ⟨htmp, rfl⟩⟩
    rw [lastLoaded_concat]
    exact h.snapshots.loaded name' hname
  | save random =>
    refine ⟨h.snapshots.save random,
      h.files.mono (by simp [ArchiveStore.step]) (fun t ht => ?_) rfl rfl rfl rfl rfl,
      h.readers.mono (by simp [ArchiveStore.step]) (fun r hr => Or.inl hr) (Nat.le_refl _)
        fun _ _ htmp => ⟨htmp, rfl⟩⟩
    rcases List.mem_append.mp ht with ht | ht
    · exact Or.inl ht
    · rw [List.mem_singleton.mp ht]
      exact Or.inr (Or.inl rfl)
  | saveStep number done n =>
    unfold ArchiveStore.step
    dsimp only
    split
    · rwa [append_nil]
    · next save hfind =>
      obtain rfl : save.number = number := by simpa using List.find?_some hfind
      exact h.saveStep (List.mem_of_find?_eq_some hfind) ha
  | readArchive load =>
    refine ⟨h.snapshots.mono (fun o ho => nomatch ho) h.snapshots.numbered
        (fun t ht => ⟨t, ht, rfl, rfl, rfl⟩) rfl rfl rfl rfl fun _ _ => rfl,
      h.files.mono (fun o ho => nomatch ho) (fun t ht => Or.inl ht) rfl rfl rfl rfl rfl,
      h.readers.mono (fun _ => not_mem_nil) (fun r hr => ?_) (Nat.le_refl _)
        fun _ _ htmp => ⟨htmp, rfl⟩⟩
    rcases List.mem_append.mp hr with hr | hr
    · exact Or.inl hr
    · rw [List.mem_singleton.mp hr]
      exact Or.inr nofun
  | readStep number done n =>
    unfold ArchiveStore.step
    dsimp only
    split
    · rwa [append_nil]
    · next read hfind => exact h.readStep read (List.mem_of_find?_eq_some hfind) done n

lemma Orderly.consistent (h : Orderly format initial L s) : Consistent format initial s L := by
  refine ⟨?_, h.readers.whole, h.files.sorted⟩
  rintro - ⟨number, archive, payload, hstart, hsaved⟩
  have hle := h.files.saved number (recent_subset hsaved)
  rcases h.files.held with ⟨hzero, -⟩ | ⟨archive', payload', hheld, htext⟩
  · have hpos := (h.snapshots.bounded number archive payload (recent_subset hstart)).1
    omega
  · -- the save that renamed last is not older, so it has the archive as it should be
    have hrecent := h.snapshots.upward number archive payload _ archive' payload' hstart hheld hle
    obtain ⟨random, rfl⟩ := h.snapshots.printed _ archive' payload' hheld
    rw [h.snapshots.asExpected _ archive' _ hrecent] at htext
    exact ⟨random, htext⟩

/-! ### Runs -/

lemma orderly_new (format : ArchiveFormat V) (secret : Option String)
    (live : ArchiveSection → Option V) (file tmp : Option Buffer) :
    Orderly format file [] (new secret live file tmp) := by
  refine ⟨⟨List.nodup_nil, nofun, nofun, nofun, nofun, nofun, nofun, fun _ _ => rfl⟩,
    ⟨?_, ?_, nofun, nofun, nofun, nofun, nofun, nofun, List.Pairwise.nil, nofun, Or.inl ⟨rfl, ?_⟩⟩,
    ⟨nofun, nofun⟩⟩
  · cases tmp <;> cases file <;> simp [new]
  · cases file <;> simp [new]
  · cases file <;> simp [new, text]

/-- **The archive keeps its sections** in a run whose events meet their conditions.

**Proof sketch.** The invariant holds of a new store, is kept by every event that meets its condition, and
says what is expected. -/
theorem run_consistent (format : ArchiveFormat V) (secret : Option String)
    (live : ArchiveSection → Option V) (file tmp : Option Buffer) (events : List (Event V))
    (h : Mealy.Along (step format) ArchiveCondition (new secret live file tmp) events) :
    Consistent format file (Mealy.run (step format) (new secret live file tmp) events).1
      (Mealy.run (step format) (new secret live file tmp) events).2 :=
  (Mealy.run_log (I := Orderly format file) (fun _ _ _ hI ha => hI.step ha)
    (orderly_new format secret live file tmp) h).consistent

lemma archiveCondition_of_alone {t : ArchiveSave V} (hsaves : s.saves = [t])
    (hopen : t.stage = .openTmp → s.lastRenamed < t.number)
    (hsettle : t.stage = .settle → ∀ name, s.registered name = false →
      t.archive.sections name = sectionOf s._loaded name) (event : Event V) :
    ArchiveCondition s event := by
  have hmem : ∀ u ∈ s.saves, u = t := fun u hu => by rwa [hsaves, List.mem_singleton] at hu
  constructor
  · intro number n _ u hu _ hstage v hv
    rw [hmem v hv, ← hmem u hu, hstage]
    rfl
  · intro number n _ u hu hnum hstage
    rw [hmem u hu] at hnum hstage
    exact hnum ▸ hopen hstage
  · intro number done n _ u hu _ hstage
    rw [hmem u hu] at hstage ⊢
    exact hsettle hstage

/-- `JSON.stringify`, of an archive whose sections are texts of ASCII characters that need no escapes,
without encryption. -/
def plainFormat : ArchiveFormat String where
  stringify := fun archive =>
    let member (name : String) (value : Option String) : List Char :=
      match value with
      | none => []
      | some value => (",\n  \"" ++ name ++ "\": \"").toList ++ value.toList ++ ['"']
    ("\x7b\n  \"version\": 2".toList ++ member "identities" (archive.sections .identities) ++
      member "roles" (archive.sections .roles) ++
      member "restrictions" (archive.sections .restrictions) ++
      member "users" (archive.sections .users) ++ "\n\x7d".toList).map fun c => c.toNat.toUInt8
  encrypt := fun text _ _ => text
  isBlank := fun text => text.isEmpty
  parse := fun _ => none
  decrypt := fun text _ => some text

/-- The answers of the providers. -/
def answers (identities : String) : ArchiveSection → Option String
  | .identities => some identities
  | _ => none

/-- The calls of a save that fails nowhere. -/
def callsOf (number : ℕ) : List (Event String) :=
  [.saveStep number true 0, .saveStep number true 0, .saveStep number true 1000,
    .saveStep number true 0, .saveStep number true 0]

/-- A save that is alone leaves the archive as it should be. -/
theorem run_consistent_alone :
    Mealy.Along (step plainFormat) ArchiveCondition (new none (answers "AAEC") none none)
        ([.setProvider .identities, .save 0] ++ callsOf 1) ∧
      Consistent plainFormat none
        (Mealy.run (step plainFormat) (new none (answers "AAEC") none none)
          ([.setProvider .identities, .save 0] ++ callsOf 1)).1
        (Mealy.run (step plainFormat) (new none (answers "AAEC") none none)
          ([.setProvider .identities, .save 0] ++ callsOf 1)).2 := by
  have hcond : Mealy.Along (step plainFormat) ArchiveCondition
      (new none (answers "AAEC") none none)
      ([.setProvider .identities, .save 0] ++ callsOf 1) := by
    refine ⟨⟨nofun, nofun, nofun⟩, ⟨nofun, nofun, nofun⟩, ?_, ?_, ?_, ?_, ?_, trivial⟩
    · exact archiveCondition_of_alone rfl (by nofun) (by nofun) _
    · exact archiveCondition_of_alone rfl (fun _ => by decide) (by nofun) _
    · exact archiveCondition_of_alone rfl (by nofun) (by nofun) _
    · exact archiveCondition_of_alone rfl (by nofun) (by nofun) _
    · refine archiveCondition_of_alone rfl (by nofun) (fun _ name hname => ?_) _
      cases name with
      | identities => cases hname
      | _ => rfl
  exact ⟨hcond, run_consistent plainFormat none (answers "AAEC") none none _ hcond⟩

/-- An earlier save makes its calls after a later one. -/
def overtaken : List (Event String) :=
  [.setProvider .identities, .save 0, .mutate .identities (some "AQID"), .save 0] ++
    (callsOf 2 ++ callsOf 1)

/-- **Not every run leaves the archive as it should be**: the file holds what it was before the last
change, though a save that was started after it was done. -/
theorem archives_not_consistent :
    ¬ ∀ (format : ArchiveFormat String) (secret : Option String)
      (live : ArchiveSection → Option String) (file tmp : Option Buffer)
      (events : List (Event String)),
      Consistent format file (Mealy.run (step format) (new secret live file tmp) events).1
        (Mealy.run (step format) (new secret live file tmp) events).2 := by
  intro hall
  have hend := hall plainFormat none (answers "AAEC") none none overtaken
  obtain ⟨random, htext⟩ := hend.complete rfl ⟨2, _, _, List.Mem.head _,
    List.Mem.tail _ (List.Mem.tail _ (List.Mem.head _))⟩
  have hne : (plainFormat.stringify ⟨2, answers "AAEC"⟩ : Buffer) ≠
      plainFormat.stringify ⟨2, answers "AQID"⟩ := by decide
  exact hne (Option.some.inj htext)

end ArchiveStore

end NodeOpcua
