import Mathlib.Data.Rat.Floor

/-!
# Status codes, notification payloads and the subscription's trace

The server-side subscription engine of node-opcua (`subscription.js`) exchanges three kinds of
values with the rest of the server: status codes, notification payloads, and calls on the
publish engine and on its own event emitter. This module fixes them. Payloads are opaque beyond
their kind and client handle. Wall-clock publish times, debug logging and the diagnostics
counters are not modelled: no branch of the engine reads them.

Two collaborators live in other packages. `SequenceNumberGenerator`
(`node-opcua-secure-channel`) and the monitored item (`monitored_item.js`) are modelled from the
specification: a counter from 1 that does not wrap, and a buffer of notifications that a harvest
drains. Every call the subscription makes on the publish engine, every event it emits and every
message `_addNotificationMessage` enqueues is appended to the subscription's trace, together with
a marker for each operation invoked on it.
-/

namespace OpcuaServer

/-- The status codes this part of the server returns or reports. `other` stands for whatever an
external validator (the filter check of `validate_filter.js`) may answer beyond these. -/
inductive StatusCode where
  | good
  | goodSubscriptionTransferred
  | badTimeout
  | badSequenceNumberUnknown
  | badNodeIdUnknown
  | badAttributeIdInvalid
  | badIndexRangeInvalid
  | badDataEncodingInvalid
  | badDataEncodingUnsupported
  | badMonitoredItemIdInvalid
  | badConditionBranchAlreadyAcked
  | badConditionBranchAlreadyConfirmed
  | other (code : ℕ)
  deriving DecidableEq, Repr

inductive SubscriptionState where
  | closed | creating | normal | late | keepalive | terminated
  deriving DecidableEq, Repr

/-- What a monitored item buffers: a `MonitoredItemNotification` (a data change) or an
`EventFieldList` (an event). -/
inductive ItemNotification where
  | monitoredItemNotification (clientHandle value : ℕ)
  | eventFieldList (clientHandle : ℕ) (eventFields : List ℕ)
  deriving DecidableEq, Repr

namespace ItemNotification

def isMonitoredItemNotification : ItemNotification → Bool
  | monitoredItemNotification .. => true
  | eventFieldList .. => false

def isEventFieldList : ItemNotification → Bool
  | monitoredItemNotification .. => false
  | eventFieldList .. => true

@[simp] theorem isEventFieldList_eq_not (n : ItemNotification) :
    n.isEventFieldList = !n.isMonitoredItemNotification := by
  cases n <;> rfl

end ItemNotification

/-- One entry of a NotificationMessage's `notificationData` array. -/
inductive NotificationData where
  | dataChangeNotification (monitoredItems : List ItemNotification)
  | eventNotificationList (events : List ItemNotification)
  | statusChangeNotification (statusCode : StatusCode)
  deriving DecidableEq, Repr

/-- A NotificationMessage. `_addNotificationMessage` asserts that `notificationData` has one or
two entries ("as per spec part 3"); the field makes a message without them unbuildable. -/
structure NotificationMessage where
  sequenceNumber : ℕ
  notificationData : List NotificationData
  notificationData_length : notificationData.length = 1 ∨ notificationData.length = 2
  deriving DecidableEq

/-- The envelope `_addNotificationMessage` pushes on `_pending_notifications` and
`_popNotificationToSend` moves to `_sent_notifications`. The source also stores the message's
sequence number beside it; both are written once from the same value, so it is a projection. -/
structure Envelope where
  notification : NotificationMessage
  startTick : ℕ
  deriving DecidableEq

def Envelope.sequenceNumber (e : Envelope) : ℕ := e.notification.sequenceNumber

/-- Modelled from the spec: `SequenceNumberGenerator` of `node-opcua-secure-channel`, a counter
that starts at 1 and does not wrap. -/
structure SequenceNumberGenerator where
  counter : ℕ := 1
  deriving DecidableEq, Repr

namespace SequenceNumberGenerator

/-- `next()` returns the counter and advances it. -/
def next (g : SequenceNumberGenerator) : ℕ × SequenceNumberGenerator := (g.counter, ⟨g.counter+1⟩)

/-- `future()` previews the number `next()` would return. -/
def future (g : SequenceNumberGenerator) : ℕ := g.counter

end SequenceNumberGenerator

inductive MonitoringMode where
  | invalid | disabled | sampling | reporting
  deriving DecidableEq, Repr

/-- Modelled from the spec: the monitored item contract. `queue` is the buffer that
`extractMonitoredItemNotifications` drains; an item reports `hasMonitoredItemNotifications`
exactly when it is non-empty. -/
structure MonitoredItem where
  monitoredItemId : ℕ
  monitoringMode : MonitoringMode
  samplingInterval : ℚ
  queueSize : ℕ
  discardOldest : Bool
  queue : List ItemNotification
  deriving DecidableEq

def MonitoredItem.hasMonitoredItemNotifications (m : MonitoredItem) : Bool := !m.queue.isEmpty

namespace MonitoredItem

/-- Modelled from the spec: the item buffers at most `queueSize` notifications, a size of 0 being
taken as 1. On a full queue a new notification drops the oldest entry when `discardOldest` is set,
and replaces the newest otherwise. -/
def enqueueNotification (m : MonitoredItem) (n : ItemNotification) : MonitoredItem :=
  if m.queue.length < max m.queueSize 1 then { m with queue := m.queue ++ [n] }
  else if m.discardOldest then { m with queue := m.queue.tail ++ [n] }
  else { m with queue := m.queue.dropLast ++ [n] }

/-- The entry that `enqueueNotification` drops to make room, if the queue is full. -/
def discarded (m : MonitoredItem) : List ItemNotification :=
  if m.queue.length < max m.queueSize 1 then []
  else if m.discardOldest then m.queue.take 1
  else m.queue.drop (m.queue.length - 1)

@[simp] theorem enqueueNotification_monitoredItemId (m : MonitoredItem) (n : ItemNotification) :
    (m.enqueueNotification n).monitoredItemId = m.monitoredItemId := by
  unfold enqueueNotification
  split_ifs <;> rfl

open scoped List in
/-- The new queue and the dropped entry are the old queue and the new notification. -/
theorem queue_enqueueNotification (m : MonitoredItem) (n : ItemNotification) :
    (m.enqueueNotification n).queue ++ m.discarded ~ m.queue ++ [n] := by
  unfold enqueueNotification discarded
  split_ifs
  · rw [List.append_nil]
  · calc m.queue.tail ++ [n] ++ m.queue.take 1 ~ m.queue.take 1 ++ (m.queue.tail ++ [n]) := List.perm_append_comm
      _ = m.queue ++ [n] := by rw [← List.append_assoc, ← List.drop_one, List.take_append_drop]
  · calc m.queue.dropLast ++ [n] ++ m.queue.drop (m.queue.length - 1)
        ~ m.queue.dropLast ++ (m.queue.drop (m.queue.length - 1) ++ [n]) := by
          rw [List.append_assoc]
          exact List.perm_append_comm.append_left _
      _ = m.queue ++ [n] := by rw [← List.append_assoc, List.dropLast_eq_take, List.take_append_drop]

end MonitoredItem

/-- The operations invoked on a subscription, as the trace marks them. -/
inductive Call where
  | tick | processSubscription | modify | setPublishingMode | resetLifeTimeAndKeepAliveCounters
  | acknowledgeNotification | notifyTransfer | terminate | createMonitoredItem
  | removeMonitoredItem | sample
  deriving DecidableEq, Repr

/-- One entry of the trace. `invoked` marks the start of an operation and `added` the message
`_addNotificationMessage` enqueues; the others are calls on the publish engine
(`onTick` is `_on_tick`) and events the subscription emits. -/
inductive Event where
  | invoked (call : Call)
  | onTick
  | expired
  | added (message : NotificationMessage)
  | notification
  | notificationMessage (message : NotificationMessage)
  | sendNotificationMessage (subscriptionId sequenceNumber : ℕ)
      (notificationData : List NotificationData) (moreNotifications initial : Bool)
  | sendKeepAliveResponse (subscriptionId futureSequenceNumber : ℕ) (accepted : Bool)
  | keepalive (futureSequenceNumber : ℕ)
  | reTick
  | terminated
  | onCloseSubscription
  | monitoredItem (monitoredItemId : ℕ)
  | removeMonitoredItem (monitoredItemId : ℕ)
  deriving DecidableEq

/-- How an operation can fail to return: a failed `assert`, or a loop that never exits. -/
inductive Fault where
  | assertion (message : String)
  | diverges
  deriving DecidableEq, Repr

end OpcuaServer
