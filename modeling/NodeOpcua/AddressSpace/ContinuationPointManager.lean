import Mathlib.Data.List.AList
import NodeOpcua.Library.Mealy
import NodeOpcua.Library.Paging
import NodeOpcua.StatusCode
import NodeOpcua.Utf8
import Std.Data.String.ToNat

set_option autoImplicit false

/-!
# The continuation points of the sessions

A `Browse` or a `HistoryRead` whose result is too long answers with a first block and a
continuation point, with which the client asks for the rest. `ContinuationPointManager` is the
store of these rests: every session has its own, and all of them number their points with one
counter of the process.

## Main definitions

* `ContinuationPointManager`, `ContinuationPointManager.Process`.
* `ContinuationPointManager.PointHistory`.

## Design

* The elements of the lists have one type: the store does not tell the results of a browse from
  those of a history read.
* The `Map` is an `AList`; the counter is a natural number.
* A continuation point is any byte string of the client; the store compares its UTF-8 text.
-/

namespace NodeOpcua

open BinaryStream (toUtf8String utf8Decode)
open Prod (snd)

/-- What a request says of continuation points. -/
structure ContinuationData where
  continuationPoint : Option Buffer
  releaseContinuationPoints : Bool := false
  deriving DecidableEq, Repr

/-- What a method of the manager answers. -/
structure IContinuationPointInfo (T : Type) where
  continuationPoint : Option Buffer
  values : Option (List T)
  statusCode : StatusCode
  deriving DecidableEq, Repr

namespace ContinuationPointManager

/-- What is kept for a continuation point. -/
structure Data (T : Type) where
  maxElements : ℕ
  values : List T
  deriving DecidableEq, Repr

end ContinuationPointManager

/-- The store of a session: the data of its points under the text of their keys. -/
structure ContinuationPointManager (T : Type) where
  _map : AList fun _ : String => ContinuationPointManager.Data T := ∅

namespace ContinuationPointManager

variable {T : Type}

section

variable (m : ContinuationPointManager T) (keyHash : String)

/-- `_map.get`. -/
def get : Option (Data T) :=
  m._map.lookup keyHash

/-- `_map.set`. -/
def set (data : Data T) :
    ContinuationPointManager T := { _map := m._map.insert keyHash data }

/-- `_map.delete`. -/
def delete : ContinuationPointManager T :=
  { _map := m._map.erase keyHash }

end

@[simp] lemma get_empty (keyHash : String) : ({} : ContinuationPointManager T).get keyHash = none :=
  rfl

@[simp] lemma get_set_self (m : ContinuationPointManager T) (keyHash : String) (data : Data T) :
    (m.set keyHash data).get keyHash = some data := AList.lookup_insert _

variable {keyHash other : String}

section

variable (m : ContinuationPointManager T)

@[simp] lemma get_set_of_ne
    (h : other ≠ keyHash) (data : Data T) : (m.set keyHash data).get other = m.get other :=
  AList.lookup_insert_ne h

@[simp] lemma get_delete_self (keyHash : String) :
    (m.delete keyHash).get keyHash = none := AList.lookup_erase _ _

@[simp] lemma get_delete_of_ne (h : other ≠ keyHash) : (m.delete keyHash).get other = m.get other :=
  AList.lookup_erase_ne h

end

/-- `make_key`, for the counter after its increment: its decimal digits. -/
def make_key (counter : ℕ) : Buffer := counter.repr.toUTF8.data.toList

/-- `hasReachedMaximum`; a maximum of 0 is none. -/
def hasReachedMaximum (m : ContinuationPointManager T) (maxContinuationPoint : ℕ) : Bool :=
  if maxContinuationPoint = 0 then false else maxContinuationPoint ≤ m._map.keys.length

/-- `BadContinuationPointInvalid`, without values. -/
def invalid : IContinuationPointInfo T :=
  { continuationPoint := none, values := none, statusCode := .BadContinuationPointInvalid }

/-- `_register`: the answer, the counter and the store. -/
def _register (counter : ℕ) (m : ContinuationPointManager T) (maxValues : ℕ) (values : List T)
    (continuationData : ContinuationData) :
    IContinuationPointInfo T × ℕ × ContinuationPointManager T :=
  if continuationData.releaseContinuationPoints ∧ continuationData.continuationPoint = none then
    ({ continuationPoint := none, values := some [],
       statusCode := .BadContinuationPointInvalid }, counter, m)
  else if 1 ≤ maxValues ∧ values.length = 0 then
    ({ continuationPoint := none, values := none, statusCode := .GoodNoData }, counter, m)
  else
    let maxValues := if maxValues = 0 then values.length else maxValues
    if values.length ≤ maxValues then
      ({ continuationPoint := none, values := some values, statusCode := .Good }, counter, m)
    else
      -- `splice` leaves in `values` what the block does not take
      let key := make_key (counter + 1)
      ({ continuationPoint := some key, values := some (values.take maxValues),
         statusCode := .Good }, counter + 1,
        m.set (toUtf8String key)
          { maxElements := maxValues, values := values.drop maxValues })

/-- `_getNext`: the answer and the store. -/
def _getNext (m : ContinuationPointManager T) (numValues : ℕ)
    (continuationData : ContinuationData) :
    IContinuationPointInfo T × ContinuationPointManager T :=
  match continuationData.continuationPoint with
  | none => (invalid, m)
  | some continuationPoint =>
    let keyHash := toUtf8String continuationPoint
    match m.get keyHash with
    | none => (invalid, m)
    | some data =>
      if continuationData.releaseContinuationPoints then
        ({ continuationPoint := none, values := some [], statusCode := .Good },
          m.delete keyHash)
      else
        let count := if numValues = 0 then data.maxElements else numValues
        if data.values.drop count = [] then
          -- no more data available for next call
          ({ continuationPoint := none, values := some (data.values.take count),
             statusCode := .Good }, m.delete keyHash)
        else
          ({ continuationPoint := some continuationPoint,
             values := some (data.values.take count), statusCode := .Good },
            m.set keyHash { data with values := data.values.drop count })

/-- `registerReferences`. -/
def registerReferences (counter : ℕ) (m : ContinuationPointManager T) (maxElements : ℕ)
    (values : List T) (continuationData : ContinuationData) :=
  _register counter m maxElements values continuationData

/-- `registerHistoryReadRaw`. -/
def registerHistoryReadRaw (counter : ℕ) (m : ContinuationPointManager T) (numValuesPerNode : ℕ)
    (dataValues : List T) (continuationData : ContinuationData) :=
  _register counter m numValuesPerNode dataValues continuationData

section

variable (m : ContinuationPointManager T)

section

variable (numValues : ℕ) (continuationData : ContinuationData)

/-- `getNextReferences`. -/
def getNextReferences :=
  _getNext m numValues continuationData

/-- `getNextHistoryReadRaw`. -/
def getNextHistoryReadRaw :=
  _getNext m numValues continuationData

end

/-- `clearContinuationPoint`. -/
def clearContinuationPoint (continuationPoint : Buffer) :
    ContinuationPointManager T :=
  m.delete (toUtf8String continuationPoint)

/-- `clearContinuationPoints`: the answer and the store. -/
def clearContinuationPoints (continuationPoints : List Buffer) :
    IContinuationPointInfo T × ContinuationPointManager T :=
  ({ continuationPoint := none, values := some [], statusCode := .Good },
    continuationPoints.foldl clearContinuationPoint m)

end

/-- `clear`. -/
def clear (_m : ContinuationPointManager T) : ContinuationPointManager T := {}

/-- `dispose`. -/
def dispose (m : ContinuationPointManager T) : ContinuationPointManager T := m.clear

/-! ### The stores of all sessions -/

/-- A call of a method of the manager. -/
inductive Operation (T : Type)
  | registerReferences (maxElements : ℕ) (values : List T) (continuationData : ContinuationData)
  | registerHistoryReadRaw (numValuesPerNode : ℕ) (dataValues : List T)
      (continuationData : ContinuationData)
  | getNextReferences (numValues : ℕ) (continuationData : ContinuationData)
  | getNextHistoryReadRaw (numValues : ℕ) (continuationData : ContinuationData)
  | clearContinuationPoint (continuationPoint : Buffer)
  | clearContinuationPoints (continuationPoints : List Buffer)
  | clear
  | dispose

/-- The answer of a call, where the method has one. -/
def perform (counter : ℕ) (m : ContinuationPointManager T) :
    Operation T → Option (IContinuationPointInfo T) × ℕ × ContinuationPointManager T
  | .registerReferences maxElements values continuationData =>
    let r := registerReferences counter m maxElements values continuationData
    (some r.1, r.2)
  | .registerHistoryReadRaw numValuesPerNode dataValues continuationData =>
    let r := registerHistoryReadRaw counter m numValuesPerNode dataValues continuationData
    (some r.1, r.2)
  | .getNextReferences numValues continuationData =>
    let r := getNextReferences m numValues continuationData
    (some r.1, counter, r.2)
  | .getNextHistoryReadRaw numValues continuationData =>
    let r := getNextHistoryReadRaw m numValues continuationData
    (some r.1, counter, r.2)
  | .clearContinuationPoint continuationPoint =>
    (none, counter, clearContinuationPoint m continuationPoint)
  | .clearContinuationPoints continuationPoints =>
    let r := clearContinuationPoints m continuationPoints
    (some r.1, counter, r.2)
  | .clear => (none, counter, clear m)
  | .dispose => (none, counter, dispose m)

/-- The process: the counter of the module, and the manager of each session. -/
structure Process (S T : Type) where
  counter : ℕ
  managers : S → ContinuationPointManager T

/-- A call in a session, with its answer. -/
structure Exchange (S T : Type) where
  session : S
  operation : Operation T
  answer : Option (IContinuationPointInfo T)

variable {S : Type} [DecidableEq S]

/-- One call in a session. -/
def step (p : Process S T) (call : S × Operation T) : Process S T × List (Exchange S T) :=
  let r := perform p.counter (p.managers call.1) call.2
  ({ counter := r.2.1, managers := Function.update p.managers call.1 r.2.2 },
    [{ session := call.1, operation := call.2, answer := r.1 }])

/-- The process before any session has registered a list. -/
def start (counter : ℕ) : Process S T := { counter, managers := fun _ => {} }

/-! ### What a client sees of a point -/

/-- How a point stands. -/
inductive PointStatus
  | active
  | exhausted
  | released
  deriving DecidableEq, Repr

/-- What has been seen of a point: its list, the number of elements asked for at first, and the
blocks, each with the number that was asked for. -/
structure PointHistory (T : Type) where
  original : List T
  maxElements : ℕ
  blocks : List (ℕ × List T)
  status : PointStatus
  deriving DecidableEq, Repr

/-- The elements received, in order. -/
def PointHistory.received (h : PointHistory T) : List T := (h.blocks.map snd).flatten

/-- An active point is released. -/
def PointHistory.release (h : PointHistory T) : PointHistory T :=
  if h.status = .active then { h with status := .released } else h

/-- The answer to a registration: a new point has its list and its first block. -/
def observeRegister (point : Buffer) (maxValues : ℕ) (values : List T)
    (answer : IContinuationPointInfo T) (h : Option (PointHistory T)) : Option (PointHistory T) :=
  if answer.continuationPoint = some point then
    some { original := values, maxElements := maxValues,
           blocks := [(maxValues, answer.values.getD [])], status := .active }
  else h

/-- The answer to a request for the next block, or to a release. -/
def observeGetNext (point : Buffer) (numValues : ℕ) (continuationData : ContinuationData)
    (answer : IContinuationPointInfo T) (h : Option (PointHistory T)) : Option (PointHistory T) :=
  if continuationData.continuationPoint = some point ∧ answer.statusCode = .Good then
    h.map fun h =>
      if continuationData.releaseContinuationPoints then h.release
      else { h with
        blocks := h.blocks ++
          [(if numValues = 0 then h.maxElements else numValues, answer.values.getD [])]
        status := if answer.continuationPoint = none then .exhausted else .active }
  else h

/-- What a call in its session and the answer tell the client of a point. -/
def observe (point : Buffer) (h : Option (PointHistory T)) (operation : Operation T)
    (answer : Option (IContinuationPointInfo T)) : Option (PointHistory T) :=
  match operation, answer with
  | .registerReferences maxValues values _, some answer
  | .registerHistoryReadRaw maxValues values _, some answer =>
    observeRegister point maxValues values answer h
  | .getNextReferences numValues continuationData, some answer
  | .getNextHistoryReadRaw numValues continuationData, some answer =>
    observeGetNext point numValues continuationData answer h
  | .clearContinuationPoint continuationPoint, _ =>
    if continuationPoint = point then h.map PointHistory.release else h
  | .clearContinuationPoints continuationPoints, _ =>
    if point ∈ continuationPoints then h.map PointHistory.release else h
  | .clear, _ | .dispose, _ => h.map PointHistory.release
  | _, none => h

/-- The history of a point of a session over the calls of all sessions. -/
def pointHistory (session : S) (point : Buffer) (exchanges : List (Exchange S T)) :
    Option (PointHistory T) :=
  exchanges.foldl
    (fun h e => if e.session = session then observe point h e.operation e.answer else h) none

/-! ### Keys -/

lemma toUtf8String_make_key (n : ℕ) : toUtf8String (make_key n) = n.repr :=
  BinaryStream.toUtf8String_toUTF8 _

lemma make_key_injective {n k : ℕ} (h : make_key n = make_key k) : n = k := by
  apply Nat.repr_injective
  rw [← toUtf8String_make_key, h, toUtf8String_make_key]

variable {point : Buffer}

/-- **The bytes of a key are the only ones with its text**, whatever a client sends. -/
lemma eq_make_key {n : ℕ}
    (h : toUtf8String point = toUtf8String (make_key n)) :
    point = make_key n := by
  rw [toUtf8String_make_key] at h
  have hchars : utf8Decode {} point = n.repr.toList := by
    rw [← h]
    exact String.toList_ofList.symm
  have hascii : ∀ c ∈ utf8Decode {} point, c.toNat < 0x80 := by
    intro c hc
    rw [hchars, Nat.toList_repr] at hc
    have := Nat.isDigit_of_mem_toDigits (by omega) (by omega) hc
    simp only [Char.isDigit, Bool.and_eq_true, decide_eq_true_eq, UInt32.le_iff_toNat_le] at this
    exact Nat.lt_of_le_of_lt this.2 (by decide)
  rw [BinaryStream.eq_of_utf8Decode_ascii hascii, hchars, make_key, ← BinaryStream.toUTF8_ofList,
    String.ofList_toList]

/-! ### The store agrees with what the clients have seen -/

/-- What is kept for a point agrees with its history: a point that was never issued has nothing;
for an active one the rest of its list is kept; nothing is kept for a closed one. -/
inductive Agrees (counter : ℕ) (point : Buffer) : Option (PointHistory T) → Option (Data T) → Prop
  | unissued : Agrees counter point none none
  | active (h : PointHistory T) (n : ℕ) (hn : n ≤ counter) (hpoint : point = make_key n)
      (r : Paging.Reading h.original) (hblocks : h.blocks = r.blocks) (hrest : r.rest ≠ [])
      (hmax : 0 < h.maxElements) (hstatus : h.status = .active) :
      Agrees counter point (some h) (some { maxElements := h.maxElements, values := r.rest })
  | closed (h : PointHistory T) (n : ℕ) (hn : n ≤ counter) (hpoint : point = make_key n)
      (r : Paging.Reading h.original) (hblocks : h.blocks = r.blocks)
      (hrest : h.status = .exhausted → r.rest = []) (hstatus : h.status ≠ .active) :
      Agrees counter point (some h) none

variable {h : Option (PointHistory T)} {d : Option (Data T)}

lemma Agrees.mono {counter counter' : ℕ} (hle : counter ≤ counter')
    (hagree : Agrees counter point h d) :
    Agrees counter' point h d := by
  cases hagree with
  | unissued => exact .unissued
  | active h n hn hpoint r hblocks hrest hmax hstatus =>
    exact .active h n (by omega) hpoint r hblocks hrest hmax hstatus
  | closed h n hn hpoint r hblocks hrest hstatus =>
    exact .closed h n (by omega) hpoint r hblocks hrest hstatus

variable {counter : ℕ}

lemma Agrees.fresh
    (hagree : Agrees counter (make_key (counter + 1)) h d) : h = none ∧ d = none := by
  cases hagree with
  | unissued => exact ⟨rfl, rfl⟩
  | active h n hn hpoint | closed h n hn hpoint =>
    have := make_key_injective hpoint
    omega

variable {data : Data T}

lemma Agrees.exists_key
    (hagree : Agrees counter point h (some data)) : ∃ n, point = make_key n := by
  cases hagree with
  | active h n hn hpoint => exact ⟨n, hpoint⟩

lemma Agrees.maxElements_eq {h : PointHistory T}
    (hagree : Agrees counter point (some h) (some data)) : data.maxElements = h.maxElements := by
  cases hagree with
  | active => rfl

lemma Agrees.release
    (hagree : Agrees counter point h d) :
    Agrees counter point (h.map PointHistory.release) none := by
  cases hagree with
  | unissued => exact .unissued
  | active h n hn hpoint r hblocks hrest hmax hstatus =>
    rw [Option.map_some, PointHistory.release, if_pos hstatus]
    exact .closed _ n hn hpoint r hblocks (fun h => nomatch h) (fun h => nomatch h)
  | closed h n hn hpoint r hblocks hrest hstatus =>
    rw [Option.map_some, PointHistory.release, if_neg hstatus]
    exact .closed h n hn hpoint r hblocks hrest hstatus

/-- **The next block of an active point**: when nothing is left, its data is deleted. -/
lemma Agrees.next {counter : ℕ} {point : Buffer} {h : PointHistory T} {data : Data T}
    (hagree : Agrees counter point (some h) (some data)) (count : ℕ) :
    Agrees counter point
      (some { h with
        blocks := h.blocks ++ [(count, data.values.take count)]
        status := if data.values.drop count = [] then .exhausted else .active })
      (if data.values.drop count = [] then none
        else some { data with values := data.values.drop count }) := by
  cases hagree with
  | active h n hn hpoint r hblocks hrest hmax hstatus =>
    have hblocks' : h.blocks ++ [(count, r.rest.take count)] = (r.next count).blocks := by
      rw [Paging.Reading.next_blocks, hblocks]
    by_cases hdrop : r.rest.drop count = []
    · rw [if_pos hdrop, if_pos hdrop]
      exact .closed _ n hn hpoint (r.next count) hblocks' (fun _ => hdrop) (fun h => nomatch h)
    · rw [if_neg hdrop, if_neg hdrop]
      exact .active
        { h with blocks := h.blocks ++ [(count, r.rest.take count)], status := .active }
        n hn hpoint (r.next count) hblocks' hdrop hmax rfl

/-- The store of a session agrees with the histories of all points. -/
def StoreAgrees (counter : ℕ) (m : ContinuationPointManager T)
    (history : Buffer → Option (PointHistory T)) : Prop :=
  ∀ point, Agrees counter point (history point) (m.get (toUtf8String point))

variable {m : ContinuationPointManager T} {history : Buffer → Option (PointHistory T)}

section

variable (hm : StoreAgrees counter m history)
include hm

lemma StoreAgrees.toUtf8String_ne
    {point other : Buffer}
    (hdata : m.get (toUtf8String point) = some data) (hne : other ≠ point) :
    toUtf8String other ≠ toUtf8String point := by
  obtain ⟨n, rfl⟩ := (hdata ▸ hm point).exists_key
  exact fun h => hne (eq_make_key h)

/-- **Deletion**: the points of a list are released, the others are left alone. -/
lemma StoreAgrees.delete
    (point : Buffer) :
    StoreAgrees counter (m.delete (toUtf8String point)) fun other =>
      if point = other then (history other).map PointHistory.release else history other := by
  intro other
  dsimp only
  by_cases heq : point = other
  · rw [if_pos heq, heq, get_delete_self]
    exact (hm other).release
  rw [if_neg heq]
  by_cases htext : toUtf8String other = toUtf8String point
  · -- the two texts are the same, so nothing is kept under either
    have hnone : m.get (toUtf8String other) = none := by
      cases hdata : m.get (toUtf8String other) with
      | none => rfl
      | some data => exact absurd htext.symm (hm.toUtf8String_ne hdata heq)
    rw [htext, get_delete_self, ← hnone]
    exact hm other
  · rw [get_delete_of_ne _ htext]
    exact hm other

lemma StoreAgrees.clearContinuationPoints
    (points : List Buffer) :
    StoreAgrees counter (points.foldl clearContinuationPoint m) fun other =>
      if other ∈ points then (history other).map PointHistory.release else history other := by
  induction points generalizing m history with
  | nil => simpa using hm
  | cons point points ih =>
    intro other
    have h := ih (hm.delete point) other
    have hrelease : ∀ h : PointHistory T, h.release.release = h.release := by
      intro h
      unfold PointHistory.release
      split_ifs with h1 h2
      · simp at h2
      · rfl
      · rfl
    have hhistory : (if other ∈ point :: points then (history other).map PointHistory.release
        else history other) = if other ∈ points then
          (if point = other then (history other).map PointHistory.release
            else history other).map PointHistory.release
        else if point = other then (history other).map PointHistory.release
        else history other := by
      by_cases hmem : other ∈ points <;> by_cases heq : point = other <;>
        simp [hmem, heq, Option.map_map, Function.comp_def, hrelease, eq_comm]
    dsimp only
    rw [hhistory]
    exact h

lemma StoreAgrees.clear :
    StoreAgrees counter (clear m) fun other => (history other).map PointHistory.release :=
  fun other => (hm other).release

end

/-- **What a registration answers.** Either the point is the next key, which has not been issued,
and the store has the rest of the list under it; or there is no point, and a good answer has the
whole list. -/
lemma register_cases (counter : ℕ) (m : ContinuationPointManager T) (maxValues : ℕ)
    (values : List T) (data : ContinuationData) :
    (_register counter m maxValues values data =
        ({ continuationPoint := some (make_key (counter + 1)),
           values := some (values.take maxValues), statusCode := .Good }, counter + 1,
          m.set (toUtf8String (make_key (counter + 1)))
            { maxElements := maxValues, values := values.drop maxValues }) ∧
      0 < maxValues ∧ values.drop maxValues ≠ []) ∨
    ∃ answer, _register counter m maxValues values data = (answer, counter, m) ∧
      answer.continuationPoint = none ∧
      (answer.statusCode = .Good →
        answer.values = some values ∧ (maxValues ≠ 0 → values.length ≤ maxValues)) := by
  unfold _register
  by_cases h1 : data.releaseContinuationPoints = true ∧
      data.continuationPoint = none
  · rw [if_pos h1]
    refine .inr ⟨_, rfl, rfl, fun h => ?_⟩
    exact absurd (show StatusCode.BadContinuationPointInvalid = .Good from h) (by decide)
  rw [if_neg h1]
  by_cases h2 : 1 ≤ maxValues ∧ values.length = 0
  · rw [if_pos h2]
    refine .inr ⟨_, rfl, rfl, fun h => ?_⟩
    exact absurd (show StatusCode.GoodNoData = .Good from h) (by decide)
  rw [if_neg h2]
  by_cases h3 : maxValues = 0
  · rw [if_pos h3, if_pos le_rfl]
    exact .inr ⟨_, rfl, rfl, fun _ => ⟨rfl, fun h => absurd h3 h⟩⟩
  rw [if_neg h3]
  by_cases h4 : values.length ≤ maxValues
  · rw [if_pos h4]
    exact .inr ⟨_, rfl, rfl, fun _ => ⟨rfl, fun _ => h4⟩⟩
  · rw [if_neg h4]
    exact .inl ⟨rfl, by omega, by simpa using h4⟩

/-- **Registration**: a new point starts with its first block. -/
lemma StoreAgrees.register
    (hm : StoreAgrees counter m history)
    (maxValues : ℕ) (values : List T) (data : ContinuationData) :
    let r := _register counter m maxValues values data
    StoreAgrees r.2.1 r.2.2 fun point =>
      observeRegister point maxValues values r.1 (history point) := by
  intro r point
  rcases register_cases counter m maxValues values data with
    ⟨hr, hpos, hrest⟩ | ⟨answer, hr, hpoint, -⟩
  · rw [show r = _ from hr]
    dsimp only [observeRegister, Option.getD_some]
    by_cases heq : make_key (counter + 1) = point
    · subst heq
      rw [if_pos rfl, get_set_self]
      exact .active
        { original := values, maxElements := maxValues,
          blocks := [(maxValues, values.take maxValues)], status := .active }
        (counter + 1) le_rfl rfl ((Paging.Reading.start values).next maxValues) rfl hrest hpos rfl
    · rw [if_neg fun h => heq (Option.some.inj h),
        get_set_of_ne _ fun h => heq (eq_make_key h).symm]
      exact (hm point).mono (Nat.le_succ counter)
  · rw [show r = _ from hr]
    dsimp only [observeRegister]
    rw [hpoint, if_neg (fun h => nomatch h)]
    exact hm point

/-- **What a request for the next block answers**, by what the store has for the point. -/
lemma getNext_of_none {data : ContinuationData}
    (h : ∀ point, data.continuationPoint = some point →
      m.get (toUtf8String point) = none) (numValues : ℕ) :
    _getNext m numValues data = (invalid, m) := by
  unfold _getNext
  cases hpoint : data.continuationPoint with
  | none => rfl
  | some point =>
    dsimp only
    rw [h point hpoint]

lemma getNext_release
    (hdata : m.get (toUtf8String point) = some data) (numValues : ℕ) :
    _getNext m numValues { continuationPoint := some point, releaseContinuationPoints := true } =
      ({ continuationPoint := none, values := some [], statusCode := .Good },
        m.delete (toUtf8String point)) := by
  unfold _getNext
  dsimp only
  rw [hdata]
  rfl

lemma getNext_block
    (hdata : m.get (toUtf8String point) = some data) (numValues : ℕ) :
    let count := if numValues = 0 then data.maxElements else numValues
    _getNext m numValues { continuationPoint := some point } =
      if data.values.drop count = [] then
        ({ continuationPoint := none, values := some (data.values.take count),
           statusCode := .Good }, m.delete (toUtf8String point))
      else
        ({ continuationPoint := some point, values := some (data.values.take count),
           statusCode := .Good },
          m.set (toUtf8String point)
            { data with values := data.values.drop count }) := by
  unfold _getNext
  dsimp only
  rw [hdata]
  rfl

/-- **The next block, or a release.** -/
lemma StoreAgrees.getNext
    (hm : StoreAgrees counter m history)
    (numValues : ℕ) (continuationData : ContinuationData) :
    let r := _getNext m numValues continuationData
    StoreAgrees counter r.2 fun point =>
      observeGetNext point numValues continuationData r.1 (history point) := by
  intro r
  by_cases hnone : ∀ point, continuationData.continuationPoint = some point →
      m.get (toUtf8String point) = none
  · rw [show r = _ from getNext_of_none hnone numValues]
    intro point
    have hbad : ¬ (continuationData.continuationPoint = some point ∧
        (invalid : IContinuationPointInfo T).statusCode = .Good) := by
      intro h
      exact absurd (show StatusCode.BadContinuationPointInvalid = .Good from h.2) (by decide)
    simp only [observeGetNext, if_neg hbad]
    exact hm point
  obtain ⟨point, hpoint, data, hdata⟩ : ∃ point,
      continuationData.continuationPoint = some point ∧
        ∃ data, m.get (toUtf8String point) = some data := by
    push Not at hnone
    exact hnone.imp fun point h => ⟨h.1, Option.ne_none_iff_exists'.mp h.2⟩
  obtain ⟨_, release⟩ := continuationData
  obtain rfl : _ = some point := hpoint
  cases release with
  | true =>
    rw [show r = _ from getNext_release hdata numValues]
    intro other
    have h := hm.delete point other
    simpa [observeGetNext] using h
  | false =>
    have hblock := getNext_block hdata numValues
    obtain ⟨h, hhistory, hagree⟩ : ∃ h, history point = some h ∧
        Agrees counter point (some h) (some data) := by
      have hagree := hm point
      rw [hdata] at hagree
      generalize history point = hist at hagree
      cases hagree with
      | active h n hn hpoint reading hblocks hrest hmax hstatus =>
        exact ⟨h, rfl, .active h n hn hpoint reading hblocks hrest hmax hstatus⟩
    have hmax := hagree.maxElements_eq
    rw [hmax] at hblock
    generalize hcount : (if numValues = 0 then h.maxElements else numValues) = count at hblock
    have hnext := hagree.next count
    intro other
    by_cases heq : point = other
    · subst heq
      rw [show r = _ from hblock]
      by_cases hdrop : data.values.drop count = []
      · simp only [if_pos hdrop] at hnext ⊢
        simpa [observeGetNext, hhistory, hcount] using hnext
      · simp only [if_neg hdrop] at hnext ⊢
        simpa [observeGetNext, hhistory, hcount, hmax] using hnext
    · have hne := hm.toUtf8String_ne hdata fun h => heq h.symm
      have hother : ∀ P : Prop, ¬ (some point = some other ∧ P) :=
        fun _ h => heq (Option.some.inj h.1)
      simp only [observeGetNext, if_neg (hother _)]
      rw [show r = _ from hblock]
      by_cases hdrop : data.values.drop count = []
      · rw [if_pos hdrop, get_delete_of_ne _ hne]
        exact hm other
      · rw [if_neg hdrop, get_set_of_ne _ hne]
        exact hm other

/-! ### Runs -/

/-- **One call** keeps the store of its session in agreement with the histories. -/
lemma StoreAgrees.perform
    (hm : StoreAgrees counter m history)
    (op : Operation T) :
    let r := perform counter m op
    StoreAgrees r.2.1 r.2.2 fun point => observe point (history point) op r.1 := by
  cases op with
  | registerReferences maxElements values data =>
    exact hm.register maxElements values data
  | registerHistoryReadRaw numValuesPerNode dataValues data =>
    exact hm.register numValuesPerNode dataValues data
  | getNextReferences numValues data => exact hm.getNext numValues data
  | getNextHistoryReadRaw numValues data =>
    exact hm.getNext numValues data
  | clearContinuationPoint continuationPoint => exact hm.delete continuationPoint
  | clearContinuationPoints continuationPoints =>
    exact hm.clearContinuationPoints continuationPoints
  | clear => exact hm.clear
  | dispose => exact hm.clear

lemma le_perform (counter : ℕ) (m : ContinuationPointManager T) (op : Operation T) :
    counter ≤ (perform counter m op).2.1 := by
  have hregister : ∀ maxValues values data,
      counter ≤ (_register counter m maxValues values data).2.1 := by
    intro maxValues values data
    rcases register_cases counter m maxValues values data with
      ⟨hr, -⟩ | ⟨answer, hr, -⟩
    · rw [hr]
      exact Nat.le_succ counter
    · rw [hr]
  cases op with
  | registerReferences maxElements values data
  | registerHistoryReadRaw numValuesPerNode dataValues data => exact hregister _ _ _
  | getNextReferences | getNextHistoryReadRaw => exact le_rfl
  | clearContinuationPoint | clearContinuationPoints | clear | dispose => exact le_rfl

/-- All the stores agree with what the exchanges tell. -/
def ProcessAgrees (exchanges : List (Exchange S T)) (p : Process S T) : Prop :=
  ∀ session, StoreAgrees p.counter (p.managers session) fun point =>
    pointHistory session point exchanges

lemma pointHistory_append (sess : S) (point : Buffer) (exchanges : List (Exchange S T))
    (e : Exchange S T) :
    pointHistory sess point (exchanges ++ [e]) =
      if e.session = sess then
        observe point (pointHistory sess point exchanges) e.operation e.answer
      else pointHistory sess point exchanges := by
  rw [pointHistory, List.foldl_append]
  rfl

/-- **One step of the process** keeps every session in agreement: the call changes the store of
its own session only. -/
lemma ProcessAgrees.step {exchanges : List (Exchange S T)} {p : Process S T}
    (hp : ProcessAgrees exchanges p) (call : S × Operation T) :
    ProcessAgrees (exchanges ++ (step p call).2) (step p call).1 := by
  intro sess
  obtain ⟨caller, operation⟩ := call
  have hstep := (hp caller).perform operation
  intro point
  dsimp only [ContinuationPointManager.step]
  rw [pointHistory_append]
  by_cases heq : caller = sess
  · subst heq
    rw [if_pos rfl, Function.update_self]
    exact hstep point
  · rw [if_neg heq, Function.update_of_ne (Ne.symm heq)]
    exact (hp sess point).mono (le_perform _ _ _)

/-- **Every run** keeps the stores in agreement with what the clients have seen. -/
theorem processAgrees (counter : ℕ) (calls : List (S × Operation T)) :
    ProcessAgrees (Mealy.run step (start counter) calls).2
      (Mealy.run step (start counter) calls).1 := by
  have h : ProcessAgrees ([] ++ (Mealy.run step (start counter) calls).2)
      (Mealy.run step (start counter) calls).1 := by
    refine Mealy.run_log (A := fun _ _ => True) ?_ ?_ ?_
    · exact fun L p call hp _ => hp.step call
    · exact fun sess point => .unissued
    · exact Mealy.along_of_forall step fun _ _ _ => trivial
  rwa [List.nil_append] at h

/-- A closed point, or one that was never issued, answers `BadContinuationPointInvalid`. -/
lemma Agrees.getNext_invalid
    (hagree : Agrees counter point h (m.get (toUtf8String point)))
    (hclo : ∀ h', h = some h' → h'.status ≠ .active) (numValues : ℕ) (release : Bool) :
    (_getNext m numValues ⟨some point, release⟩).1 = invalid := by
  have hnone : m.get (toUtf8String point) = none := by
    generalize m.get (toUtf8String point) = d at hagree
    cases hagree with
    | unissued => rfl
    | active h n hn hpoint r hblocks hrest hmax hstatus => exact absurd hstatus (hclo h rfl)
    | closed => rfl
  rw [getNext_of_none]
  rintro _ ⟨⟩
  exact hnone

lemma Agrees.received {h : PointHistory T}
    (hagree : Agrees counter point (some h) d) :
    h.received <+: h.original ∧ (∀ b ∈ h.blocks, b.2.length ≤ b.1) ∧
      (h.status = .exhausted → h.received = h.original) := by
  unfold PointHistory.received
  cases hagree with
  | active _ n hn hpoint r hblocks hrest hmax hstatus =>
    rw [hblocks]
    exact ⟨r.isPrefix, r.bounded, fun h => absurd (hstatus.symm.trans h) (by decide)⟩
  | closed _ n hn hpoint r hblocks hrest hstatus =>
    rw [hblocks]
    exact ⟨r.isPrefix, r.bounded, fun h => r.flatten_eq_iff.mpr (hrest h)⟩

/-- **The answer of an active point**: a nonempty block, and the point until nothing is left. -/
lemma Agrees.getNext_active
    {h : PointHistory T}
    (hagree : Agrees counter point (some h) (m.get (toUtf8String point)))
    (hstatus : h.status = .active) (numValues : ℕ) :
    ∃ block, block ≠ [] ∧
      block.length ≤ (if numValues = 0 then h.maxElements else numValues) ∧
      h.received ++ block <+: h.original ∧ ∃ next,
        (_getNext m numValues ⟨some point, false⟩).1 =
          { continuationPoint := next, values := some block, statusCode := .Good } ∧
        (h.received ++ block = h.original ∧ next = none ∨
          h.received ++ block ≠ h.original ∧ next = some point) := by
  generalize hdata : m.get (toUtf8String point) = d at hagree
  cases hagree with
  | closed _ n hn hpoint r hblocks hrest hclo => exact absurd hstatus hclo
  | active _ n hn hpoint r hblocks hrest hmax _ =>
    have hblock := getNext_block hdata numValues
    have hcount : 0 < if numValues = 0 then h.maxElements else numValues := by
      split_ifs <;> omega
    generalize (if numValues = 0 then h.maxElements else numValues) = count at hblock hcount
    have hrecv : h.received ++ r.rest.take count =
        ((r.next count).blocks.map snd).flatten := by
      rw [PointHistory.received, hblocks]
      simp
    refine ⟨r.rest.take count, ?_, List.length_take_le _ _, ?_, ?_⟩
    · have := List.length_pos_of_ne_nil hrest
      apply List.ne_nil_of_length_pos
      rw [List.length_take]
      omega
    · rw [hrecv]
      exact (r.next count).isPrefix
    rw [hblock, hrecv, ne_eq, (r.next count).flatten_eq_iff, Paging.Reading.next_rest]
    by_cases hdrop : r.rest.drop count = []
    · rw [if_pos hdrop]
      exact ⟨none, rfl, .inl ⟨hdrop, rfl⟩⟩
    · rw [if_neg hdrop]
      exact ⟨some point, rfl, .inr ⟨hdrop, rfl⟩⟩

/-- **Continuation points lose and duplicate nothing.** After any calls of any sessions, for every
session and every byte string a client may send as a continuation point:

* a registration issues a point that no session has been given before, or none; then a good answer
  has the whole list, within the maximum that was asked for;
* a point that was never issued in the session answers `BadContinuationPointInvalid`;
* the blocks of an issued point, each within the maximum asked for, are a prefix of its list in
  order, and the whole list once the point is exhausted;
* an active point answers a nonempty next block, and the point itself until the list is complete;
* an exhausted or released point answers `BadContinuationPointInvalid`. -/
theorem continuationPoints_lossless (counter : ℕ) (calls : List (S × Operation T)) (session : S) :
    let run := Mealy.run step (start counter) calls
    let m := run.1.managers session
    (∀ maxValues values continuationData,
      let answer := (_register run.1.counter m maxValues values continuationData).1
      match answer.continuationPoint with
      | some point => ∀ other, pointHistory other point run.2 = none
      | none => answer.statusCode = .Good →
          answer.values = some values ∧ (maxValues ≠ 0 → values.length ≤ maxValues)) ∧
    ∀ point,
      match pointHistory session point run.2 with
      | none => ∀ numValues release, (_getNext m numValues ⟨some point, release⟩).1 = invalid
      | some h =>
        h.received <+: h.original ∧ (∀ b ∈ h.blocks, b.2.length ≤ b.1) ∧
        match h.status with
        | .active => ∀ numValues, ∃ block, block ≠ [] ∧
            block.length ≤ (if numValues = 0 then h.maxElements else numValues) ∧
            h.received ++ block <+: h.original ∧ ∃ next,
              (_getNext m numValues ⟨some point, false⟩).1 =
                { continuationPoint := next, values := some block, statusCode := .Good } ∧
              (h.received ++ block = h.original ∧ next = none ∨
                h.received ++ block ≠ h.original ∧ next = some point)
        | .exhausted => h.received = h.original ∧
            ∀ numValues release, (_getNext m numValues ⟨some point, release⟩).1 = invalid
        | .released =>
            ∀ numValues release, (_getNext m numValues ⟨some point, release⟩).1 = invalid := by
  intro run m
  have hagree : ProcessAgrees run.2 run.1 := processAgrees counter calls
  refine ⟨fun maxValues values continuationData => ?_, fun point => ?_⟩
  · rcases register_cases run.1.counter m maxValues values continuationData with
      ⟨hr, -⟩ | ⟨answer, hr, hpoint, hgood⟩
    · rw [hr]
      exact fun other => (hagree other _).fresh.1
    · rw [hr]
      dsimp only
      rw [hpoint]
      exact hgood
  · have hpoint : Agrees run.1.counter point (pointHistory session point run.2)
        (m.get (toUtf8String point)) := hagree session point
    cases hhistory : pointHistory session point run.2 with
    | none =>
      rw [hhistory] at hpoint
      exact fun numValues release => hpoint.getNext_invalid (fun _ h => nomatch h) numValues release
    | some h =>
      rw [hhistory] at hpoint
      obtain ⟨hstart, hbounded, hexhausted⟩ := hpoint.received
      have hclo : h.status ≠ .active → ∀ numValues release,
          (_getNext m numValues ⟨some point, release⟩).1 = invalid := by
        intro hne
        apply hpoint.getNext_invalid
        rintro _ ⟨⟩
        exact hne
      refine ⟨hstart, hbounded, ?_⟩
      cases hstatus : h.status with
      | active => exact hpoint.getNext_active hstatus
      | exhausted => exact ⟨hexhausted hstatus, hclo (hstatus ▸ fun h => nomatch h)⟩
      | released => exact hclo (hstatus ▸ fun h => nomatch h)

end ContinuationPointManager

end NodeOpcua
