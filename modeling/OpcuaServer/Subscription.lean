import OpcuaServer.Parameters

/-!
# The subscription record, its counters and its two message queues

A `Subscription` holds the fields of the source object that some branch of the engine reads or
writes: the revised parameters, the keep-alive and lifetime counters, the pending queue and the
retransmission queue, the sequence number generator, the monitored items in key order, the
cache `_hasMonitoredItemNotifications`, whether the interval timer is armed, and the trace.

The queue operations are translated one to one. `discardOldSentNotifications` is `splice(len -
100)`, which keeps the *oldest* `len - 100` entries; `acknowledgeNotification` scans the whole
queue and removes the last entry with the requested number.
-/

namespace OpcuaServer

structure Subscription where
  id : ℕ
  publishingInterval : ℚ
  maxKeepAliveCount : ℤ
  lifeTimeCount : ℤ
  /-- `none` is `undefined`, which `modify` stores when the request omits the field. -/
  maxNotificationsPerPublish : Option ℤ
  publishingEnabled : Bool
  keepAliveCounter : ℤ
  lifeTimeCounter : ℕ
  pendingNotifications : List Envelope
  sentNotifications : List Envelope
  sequenceNumberGenerator : SequenceNumberGenerator
  state : SubscriptionState
  publishIntervalCount : ℕ
  /-- Keyed by `monitoredItemId`, in `Object.keys` order. -/
  monitoredItems : List MonitoredItem
  monitoredItemIdCounter : ℕ
  messageSent : Bool
  unacknowledgedMessageCount : ℤ
  /-- `timerId !== null`. -/
  timerActive : Bool
  /-- `_hasMonitoredItemNotifications`; never initialised by the constructor, so falsy. -/
  hasMonitoredItemNotificationsCache : Bool
  trace : List Event

namespace Subscription

variable (s : Subscription)

@[simps] def emit (e : Event) : Subscription := { s with trace := s.trace ++ [e] }

@[simps] def resetKeepAliveCounter : Subscription := { s with keepAliveCounter := 0 }
@[simps] def increaseKeepAliveCounter : Subscription := { s with keepAliveCounter := s.keepAliveCounter+1 }
def keepAliveCounterHasExpired : Prop := s.maxKeepAliveCount ≤ s.keepAliveCounter

@[simps] def resetLifeTimeCounter : Subscription := { s with lifeTimeCounter := 0 }
@[simps] def increaseLifeTimeCounter : Subscription := { s with lifeTimeCounter := s.lifeTimeCounter+1 }
def lifeTimeHasExpired : Prop := s.lifeTimeCount ≤ s.lifeTimeCounter

@[simp] def resetLifeTimeAndKeepAliveCounters : Subscription :=
  s.resetLifeTimeCounter.resetKeepAliveCounter

instance : Decidable s.keepAliveCounterHasExpired := inferInstanceAs (Decidable (_ ≤ _))
instance : Decidable s.lifeTimeHasExpired := inferInstanceAs (Decidable (_ ≤ _))

@[simps] def stopTimer : Subscription := { s with timerActive := false }

/-- `_start_timer`: the first publishing cycle must end with a message, so the keep-alive
counter starts at its maximum. -/
@[simps] def startTimer : Subscription := { s with keepAliveCounter := s.maxKeepAliveCount, timerActive := true }

def getFutureSequenceNumber : ℕ := s.sequenceNumberGenerator.future

def hasPendingNotifications : Bool := !s.pendingNotifications.isEmpty

@[simps] def addNotificationMessage (notificationData : List NotificationData)
    (h : notificationData.length = 1 ∨ notificationData.length = 2) : Subscription :=
  let message : NotificationMessage := ⟨s.sequenceNumberGenerator.counter, notificationData, h⟩
  { s with sequenceNumberGenerator := s.sequenceNumberGenerator.next.2
           pendingNotifications := s.pendingNotifications ++ [⟨message, s.publishIntervalCount⟩]
           trace := s.trace ++ [.added message] }

def getMessageForSequenceNumber (sequenceNumber : ℕ) : Option Envelope :=
  s.sentNotifications.find? (·.sequenceNumber = sequenceNumber)

def getAvailableSequenceNumbers : List ℕ := s.sentNotifications.map (·.notification.sequenceNumber)

def maxNotificationMessagesInQueue : ℕ := 100

/-- `splice(len - 100)` keeps the first `len - 100` entries. -/
@[simps] def discardOldSentNotifications : Subscription :=
  { s with sentNotifications :=
      if maxNotificationMessagesInQueue ≤ s.sentNotifications.length then
        s.sentNotifications.take (s.sentNotifications.length - maxNotificationMessagesInQueue)
      else s.sentNotifications }

/-- The callback of `_.find` never answers true, so it visits every entry and remembers the last
index whose number matches. -/
def lastIndexOf (sequenceNumber : ℕ) : ℕ → Option ℕ → List Envelope → Option ℕ
  | _, found, [] => found
  | i, found, e::es =>
      lastIndexOf sequenceNumber (i+1) (if e.sequenceNumber = sequenceNumber then some i else found) es

def acknowledgeNotification (sequenceNumber : ℕ) : StatusCode × Subscription :=
  match lastIndexOf sequenceNumber 0 none s.sentNotifications with
  | none => (.badSequenceNumberUnknown, s)
  | some i => (.good, { s with sentNotifications := s.sentNotifications.eraseIdx i
                               unacknowledgedMessageCount := s.unacknowledgedMessageCount-1 })

@[simp] theorem hasPendingNotifications_iff :
    s.hasPendingNotifications = true ↔ s.pendingNotifications ≠ [] := by
  simp [hasPendingNotifications, List.isEmpty_iff]

end Subscription

end OpcuaServer
