import OpcuaServer.Harvest

/-!
# Creating, removing and feeding monitored items

`createMonitoredItem` checks the request against the address space in a fixed order and answers
the first failure with its status code and no change; a request that passes gets the identifier
`getNextMonitoredItemId()` hands out (an argument here: the counter `g_monitoredItemId` is global
to the module and shared by every subscription), a revised sampling interval, and a place in the
item map. Index-range validity, data-encoding support and filter validation are decided by other
packages; their verdicts enter through the request and the context.
-/

namespace OpcuaServer

inductive AttributeId where
  | value | invalid | other (attributeId : ℕ)
  deriving DecidableEq, Repr

inductive MonitoringFilter where
  | eventFilter | dataChangeFilter | aggregateFilter
  deriving DecidableEq, Repr

inductive FilterResult where
  | eventFilterResult | aggregateFilterResult
  deriving DecidableEq, Repr

structure ItemToMonitor where
  nodeId : ℕ
  attributeId : AttributeId
  /-- `indexRange.isValid()`. -/
  indexRangeValid : Bool
  /-- `dataEncoding.name`; the empty string is an absent name. -/
  dataEncodingName : String
  /-- `is_valid_dataEncoding(dataEncoding)`. -/
  dataEncodingValid : Bool

structure MonitoringParameters where
  samplingInterval : ℚ
  queueSize : ℕ
  discardOldest : Bool
  filter : Option MonitoringFilter

structure MonitoredItemCreateRequest where
  itemToMonitor : ItemToMonitor
  monitoringMode : MonitoringMode
  requestedParameters : MonitoringParameters

structure MonitoredItemCreateResult where
  statusCode : StatusCode
  /-- The default of the result structure, `0xFFFFFFFF`, stays on a Bad result. -/
  monitoredItemId : ℕ := 0xFFFFFFFF
  revisedSamplingInterval : ℚ := 0
  revisedQueueSize : ℕ := 0
  filterResult : Option FilterResult := none

/-- A node of the address space, as far as creating a monitored item reads it. -/
structure UANode where
  nodeId : ℕ
  /-- `node instanceof UAVariable`. -/
  isVariable : Bool
  /-- `node.minimumSamplingInterval`, `none` when absent. -/
  minimumSamplingInterval : Option ℚ
  /-- The value read for `MinimumSamplingInterval`, `none` when the read is not Good. -/
  minimumSamplingIntervalAttribute : Option ℚ

/-- The collaborators the subscription reads and does not own: the address space, the filter
check of `validate_filter.js`, and `MonitoredItem.minimumSamplingInterval` and
`MonitoredItem.maximumSamplingInterval`. -/
structure Context where
  nodes : List UANode
  validateFilter : Option MonitoringFilter → ItemToMonitor → UANode → StatusCode
  minimumSamplingInterval : ℚ
  maximumSamplingInterval : ℚ

def Context.findNode (ctx : Context) (nodeId : ℕ) : Option UANode := ctx.nodes.find? (·.nodeId = nodeId)

/-- A key below `2^32 - 1` is an array index: `Object.keys` lists those first, in ascending order,
and the other keys after them in the order they were added. -/
def isArrayIndex (k : ℕ) : Bool := k < 4294967295

/-- Where `Object.keys` lists a key the map does not hold yet: an array index goes before the first
larger index or the first other key, and any other key goes last. -/
def placeNewMonitoredItem (item : MonitoredItem) : List MonitoredItem → List MonitoredItem
  | [] => [item]
  | m::ms =>
      if isArrayIndex item.monitoredItemId ∧
          (item.monitoredItemId < m.monitoredItemId ∨ !isArrayIndex m.monitoredItemId) then item :: m :: ms
      else m :: placeNewMonitoredItem item ms

/-- `monitoredItems[id] = item`: a key the map holds keeps its place and takes the new item; a new
key goes where `Object.keys` lists it. -/
def insertMonitoredItem (item : MonitoredItem) (ms : List MonitoredItem) : List MonitoredItem :=
  if ms.any (·.monitoredItemId = item.monitoredItemId) then
    ms.map fun m => if m.monitoredItemId = item.monitoredItemId then item else m
  else placeNewMonitoredItem item ms

section Insert

open scoped List

variable {item : MonitoredItem} {ms : List MonitoredItem}

/-- A new key adds its item and moves no other. -/
theorem placeNewMonitoredItem_perm : placeNewMonitoredItem item ms ~ item :: ms := by
  induction ms with
  | nil => rfl
  | cons m ms ih =>
      simp only [placeNewMonitoredItem]
      split_ifs
      · rfl
      · exact (ih.cons m).trans (.swap _ _ _)

/-- A key above every key of the map goes last, array index or not. -/
theorem placeNewMonitoredItem_of_lt (h : ∀ m ∈ ms, m.monitoredItemId < item.monitoredItemId) :
    placeNewMonitoredItem item ms = ms ++ [item] := by
  induction ms with
  | nil => rfl
  | cons m ms ih =>
      have hm := h m (.head _)
      have hidx : isArrayIndex item.monitoredItemId = true → isArrayIndex m.monitoredItemId = true := by
        simp only [isArrayIndex, decide_eq_true_eq]
        omega
      have hplace : ¬(isArrayIndex item.monitoredItemId = true ∧
          (item.monitoredItemId < m.monitoredItemId ∨ (!isArrayIndex m.monitoredItemId) = true)) :=
        fun ⟨hi, hlt⟩ => hlt.elim (fun h' => absurd h' (not_lt.2 hm.le)) fun h' => by simp [hidx hi] at h'
      rw [placeNewMonitoredItem, if_neg hplace, ih fun m' hm' => h m' (.tail _ hm')]
      rfl

theorem insertMonitoredItem_of_not_mem (h : item.monitoredItemId ∉ ms.map (·.monitoredItemId)) :
    insertMonitoredItem item ms = placeNewMonitoredItem item ms := by
  rw [insertMonitoredItem, if_neg]
  simp only [List.any_eq_true, decide_eq_true_eq, not_exists, not_and]
  exact fun m hm he => h (List.mem_map.2 ⟨m, hm, he⟩)

/-- A key the map holds keeps every key where it was. -/
theorem insertMonitoredItem_ids_of_mem (h : item.monitoredItemId ∈ ms.map (·.monitoredItemId)) :
    (insertMonitoredItem item ms).map (·.monitoredItemId) = ms.map (·.monitoredItemId) := by
  obtain ⟨m₀, hm₀, he⟩ := List.mem_map.1 h
  rw [insertMonitoredItem, if_pos (List.any_eq_true.2 ⟨m₀, hm₀, decide_eq_true he⟩), List.map_map]
  exact List.map_congr_left fun m _ => by dsimp only [Function.comp_apply]; split_ifs with hm <;> simp [hm]

/-- An item with a fresh id is added and replaces nothing. -/
theorem insertMonitoredItem_ids (h : item.monitoredItemId ∉ ms.map (·.monitoredItemId)) :
    (insertMonitoredItem item ms).map (·.monitoredItemId) ~ item.monitoredItemId :: ms.map (·.monitoredItemId) := by
  rw [insertMonitoredItem_of_not_mem h]
  exact placeNewMonitoredItem_perm.map _

theorem mem_insertMonitoredItem {m : MonitoredItem} (h : item.monitoredItemId ∉ ms.map (·.monitoredItemId))
    (hm : m ∈ ms) : m ∈ insertMonitoredItem item ms := by
  rw [insertMonitoredItem_of_not_mem h]
  exact placeNewMonitoredItem_perm.mem_iff.2 (.tail _ hm)

/-- The map holds each key once. -/
theorem insertMonitoredItem_nodup (h : (ms.map (·.monitoredItemId)).Nodup) :
    ((insertMonitoredItem item ms).map (·.monitoredItemId)).Nodup := by
  by_cases hk : item.monitoredItemId ∈ ms.map (·.monitoredItemId)
  · rwa [insertMonitoredItem_ids_of_mem hk]
  · exact (insertMonitoredItem_ids hk).nodup_iff.2 (List.nodup_cons.2 ⟨hk, h⟩)

end Insert

def processFilter : Option MonitoringFilter → Option FilterResult
  | some .eventFilter => some .eventFilterResult
  | some .aggregateFilter => some .aggregateFilterResult
  | some .dataChangeFilter | none => none

namespace Subscription

variable (ctx : Context) (s : Subscription)

/-- A negative request means the publishing interval; `0` means the node's own minimum when it
can be read (asserted to lie within the monitored item limits); other requests are clamped to
those limits. The result is never below the node's `minimumSamplingInterval`. -/
def adjustSamplingInterval (samplingInterval : ℚ) (node : UANode) : Except Fault ℚ :=
  let revised : Except Fault ℚ :=
    if samplingInterval < 0 then .ok s.publishingInterval
    else if samplingInterval = 0 then
      match node.minimumSamplingIntervalAttribute with
      | some v =>
          if 0 ≤ v ∧ v ≤ ctx.maximumSamplingInterval then .ok v
          else .error (.assertion "samplingInterval >= 0 && samplingInterval <= MonitoredItem.maximumSamplingInterval")
      | none => .ok samplingInterval
    else if samplingInterval < ctx.minimumSamplingInterval then .ok ctx.minimumSamplingInterval
    else if ctx.maximumSamplingInterval < samplingInterval then .ok ctx.maximumSamplingInterval
    else .ok samplingInterval
  revised.map fun r => max r (orDefault node.minimumSamplingInterval 0)

def createMonitoredItemStep2 (request : MonitoredItemCreateRequest) (node : UANode)
    (monitoredItemId : ℕ) : Except Fault (MonitoredItemCreateResult × Subscription) :=
  let s := { s with monitoredItemIdCounter := s.monitoredItemIdCounter+1 }
  (s.adjustSamplingInterval ctx request.requestedParameters.samplingInterval node).map fun si =>
    let item : MonitoredItem :=
      ⟨monitoredItemId, .invalid, si, request.requestedParameters.queueSize,
        request.requestedParameters.discardOldest, []⟩
    (⟨.good, monitoredItemId, si, item.queueSize, processFilter request.requestedParameters.filter⟩,
     { s with monitoredItems := insertMonitoredItem item s.monitoredItems })

/-- `_createMonitoredItemStep3`: the new item takes the requested monitoring mode. -/
def setMonitoringMode (monitoredItemId : ℕ) (mode : MonitoringMode) : Subscription :=
  { s with monitoredItems := s.monitoredItems.map fun m =>
      if m.monitoredItemId = monitoredItemId then { m with monitoringMode := mode } else m }

def createMonitoredItem (request : MonitoredItemCreateRequest) (monitoredItemId : ℕ) :
    Except Fault (MonitoredItemCreateResult × Subscription) :=
  let item := request.itemToMonitor
  let handleError (statusCode : StatusCode) : Except Fault (MonitoredItemCreateResult × Subscription) :=
    .ok ({ statusCode }, s)
  match ctx.findNode item.nodeId with
  | none => handleError .badNodeIdUnknown
  | some node =>
      if item.attributeId = .value ∧ !node.isVariable then handleError .badAttributeIdInvalid
      else if item.attributeId = .invalid then handleError .badAttributeIdInvalid
      else if !item.indexRangeValid then handleError .badIndexRangeInvalid
      else if item.dataEncodingName ≠ "" ∧ item.attributeId ≠ .value then
        handleError .badDataEncodingInvalid
      else if !item.dataEncodingValid then handleError .badDataEncodingUnsupported
      else
        let statusCodeFilter := ctx.validateFilter request.requestedParameters.filter item node
        if statusCodeFilter ≠ .good then handleError statusCodeFilter
        else (s.createMonitoredItemStep2 ctx request node monitoredItemId).map fun (result, s) =>
          (result, (s.emit (.monitoredItem monitoredItemId)).setMonitoringMode monitoredItemId
            request.monitoringMode)

/-- `terminate()` and `dispose()` of the item belong to the monitored item; the map loses it. -/
def removeMonitoredItem (monitoredItemId : ℕ) : StatusCode × Subscription :=
  if s.monitoredItems.any (·.monitoredItemId = monitoredItemId) then
    (.good, { s.emit (.removeMonitoredItem monitoredItemId) with
      monitoredItems := s.monitoredItems.filter (·.monitoredItemId ≠ monitoredItemId) })
  else (.badMonitoredItemIdInvalid, s)

/-- Modelled from the spec: sampling makes a monitored item buffer a notification in its bounded
queue. -/
def sample (monitoredItemId : ℕ) (n : ItemNotification) : Subscription :=
  { s with monitoredItems := s.monitoredItems.map fun m =>
      if m.monitoredItemId = monitoredItemId then m.enqueueNotification n else m }

end Subscription

end OpcuaServer
