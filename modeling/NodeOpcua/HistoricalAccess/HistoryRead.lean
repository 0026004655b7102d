import NodeOpcua.HistoricalAccess.HistoryReadRaw

set_option autoImplicit false

/-!
# History reads

A history read is dispatched on the kind of its details, after the right of the user to read the
history was checked. A variable without a historian has a method of its own.

## Main definitions

* `UAVariable`, `UAVariable._historyReadHistorian`, `UAVariable._historyReadDefault`,
  `UAVariable.historyRead`.

## Design

* A read may not come back: then there is no call. The function for processed reads is a parameter,
  since it reads the raw values of its variable itself.
* The index range and the data encoding are not looked at.
-/

namespace NodeOpcua

open BuiltIn

variable {U : CaseMapping} {X : Type}

/-- `ReadProcessedDetails`. -/
structure ReadProcessedDetails (U : CaseMapping) where
  startTime : Option Date
  endTime : Option Date
  processingInterval : Number
  aggregateType : Option (List (NodeId U))

/-- The details of a read, by their kind. -/
inductive HistoryReadDetails (U : CaseMapping)
  | readRawModified (details : ReadRawModifiedDetails)
  | readEvent
  | readProcessed (details : ReadProcessedDetails U)
  | readAtTime
  | other

/-- The options of the aggregates that the count looks at. -/
structure AggregateConfigurationOptions where
  treatUncertainAsBad : Bool
  percentDataBad : Option ℕ
  deriving DecidableEq, Repr

/-- **The part of a variable that its history needs**. The configuration of the aggregates may be
missing. -/
structure UAVariable (U : CaseMapping) (X : Type) where
  varHistorian : Option (VariableHistorian U X)
  userAccessLevel : Option ℕ
  getAggregateConfiguration : Except String AggregateConfigurationOptions

/-- `AccessLevelFlag.CurrentRead`. -/
def AccessLevelFlag.CurrentRead : ℕ := 0x01

/-- `AccessLevelFlag.HistoryRead`. -/
def AccessLevelFlag.HistoryRead : ℕ := 0x04

/-- `AddressSpace_installHistoricalDataNode`: the variable gets a historian, and its history may be
read. -/
def AddressSpace_installHistoricalDataNode (historian : VariableHistorian U X)
    (userAccessLevel : Option ℕ)
    (getAggregateConfiguration : Except String AggregateConfigurationOptions) : UAVariable U X where
  varHistorian := some historian
  userAccessLevel := userAccessLevel.map
    (· ||| AccessLevelFlag.CurrentRead ||| AccessLevelFlag.HistoryRead)
  getAggregateConfiguration := getAggregateConfiguration

namespace UAVariable

/-- `checkAccessLevelPrivate`. -/
def checkAccessLevelPrivate (node : UAVariable U X) (accessLevel : ℕ) : Bool :=
  match node.userAccessLevel with
  | none => true
  | some userAccessLevel => userAccessLevel &&& accessLevel = accessLevel

/-- `canUserReadHistory`. -/
def canUserReadHistory (node : UAVariable U X) (context : HistoryContext U X) : Bool :=
  if !context.checkPermission then false
  else node.checkAccessLevelPrivate AccessLevelFlag.HistoryRead

/-- `_historyReadModify`. -/
def _historyReadModify (context : HistoryContext U X) : HistoryReadCall U X :=
  .answer context { historyData := some [], statusCode := .BadUnexpectedError }

/-- `_historyReadRawModify`. -/
def _historyReadRawModify (historian : VariableHistorian U X) (context : HistoryContext U X)
    (details : ReadRawModifiedDetails) (continuationData : ContinuationData) :
    HistoryReadCall U X :=
  if !details.isReadModified then _historyReadRaw historian context details continuationData
  else _historyReadModify context

/-- What `addressSpace._readProcessedDetails` does, when it comes back. -/
abbrev ReadProcessed (U : CaseMapping) (X : Type) :=
  UAVariable U X → HistoryContext U X → ReadProcessedDetails U → Option (HistoryReadCall U X)

section

variable (node : UAVariable U X) (historian : VariableHistorian U X)
  (readProcessed : Option (ReadProcessed U X)) (context : HistoryContext U X)
  (details : HistoryReadDetails U)

/-- The kind of the details decides what is done. -/
def dispatch (continuationData : ContinuationData) :
    Option (HistoryReadCall U X) :=
  match details with
  | .readRawModified details =>
    some (_historyReadRawModify historian context details continuationData)
  | .readEvent =>
    some (.answer context { historyData := some [], statusCode := .BadHistoryOperationUnsupported })
  | .readProcessed details =>
    match readProcessed with
    | none => some (.answer context
        { historyData := some [], statusCode := .BadHistoryOperationUnsupported })
    | some readProcessed => readProcessed node context details
  | .readAtTime =>
    some (.answer context { historyData := some [], statusCode := .BadHistoryOperationUnsupported })
  | .other =>
    some (.answer context { historyData := some [], statusCode := .BadHistoryOperationUnsupported })

/-- `_historyRead` of a variable with a historian: the refusal does not return. -/
def _historyReadHistorian (continuationData : ContinuationData) :
    Option (HistoryReadCall U X) :=
  let refused : List (HistoryReadResult U X) :=
    if !node.canUserReadHistory context then [{ statusCode := .BadUserAccessDenied }] else []
  (node.dispatch historian readProcessed context details continuationData).map fun call =>
    { call with answers := refused ++ call.answers }

end

/-- `_historyRead` of a variable without a historian: the refusals do not return. -/
def _historyReadDefault (node : UAVariable U X) (context : HistoryContext U X) :
    HistoryReadCall U X :=
  let denied : List (HistoryReadResult U X) :=
    if !context.checkPermission then [{ statusCode := .BadUserAccessDenied }] else []
  let unsupported : List (HistoryReadResult U X) :=
    if !node.canUserReadHistory context then
      [{ statusCode := .BadHistoryOperationUnsupported }]
    else []
  { answers := denied ++ unsupported ++ [{ statusCode := .BadHistoryOperationUnsupported }]
    context }

/-- **A history read**. -/
def historyRead (node : UAVariable U X) (readProcessed : Option (ReadProcessed U X))
    (context : HistoryContext U X) (details : HistoryReadDetails U)
    (continuationData : ContinuationData) : Option (HistoryReadCall U X) :=
  match node.varHistorian with
  | some historian =>
    node._historyReadHistorian historian readProcessed context details continuationData
  | none => some (node._historyReadDefault context)

lemma checkAccessLevelPrivate_install (historian : VariableHistorian U X)
    (userAccessLevel : Option ℕ)
    (getAggregateConfiguration : Except String AggregateConfigurationOptions) :
    (AddressSpace_installHistoricalDataNode historian userAccessLevel
      getAggregateConfiguration).checkAccessLevelPrivate AccessLevelFlag.HistoryRead = true := by
  unfold checkAccessLevelPrivate AddressSpace_installHistoricalDataNode
  cases userAccessLevel with
  | none => rfl
  | some level =>
    simp only [Option.map_some, decide_eq_true_eq]
    apply Nat.eq_of_testBit_eq
    intro i
    rw [Nat.testBit_and, Nat.testBit_or]
    cases Nat.testBit AccessLevelFlag.HistoryRead i <;> simp

/-- **A raw read** with the right to read the history. -/
lemma historyRead_raw {node : UAVariable U X} {historian : VariableHistorian U X}
    (hhistorian : node.varHistorian = some historian)
    (readProcessed : Option (ReadProcessed U X)) {ctx : HistoryContext U X}
    (hright : node.canUserReadHistory ctx = true) {details : ReadRawModifiedDetails}
    (hmodified : details.isReadModified = false) (data : ContinuationData) :
    node.historyRead readProcessed ctx (.readRawModified details) data =
      some (_historyReadRaw historian ctx details data) := by
  rw [historyRead, hhistorian]
  simp [_historyReadHistorian, hright, dispatch, _historyReadRawModify, hmodified]

end UAVariable

end NodeOpcua
