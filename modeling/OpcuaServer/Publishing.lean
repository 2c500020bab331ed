import OpcuaServer.MonitoredItems

/-!
# The publishing cycle

`_tick` runs once per publishing interval, and again at once (`setImmediate`) after a dispatch
that leaves messages pending. A tick on a CLOSED subscription does nothing. Otherwise it trims
the retransmission queue, counts one interval against the lifetime, and terminates the
subscription with a `StatusChangeNotification(BadTimeout)` when the lifetime is used up. With
no publish request available and something to send it goes LATE; with a request it dispatches
the oldest pending message (harvesting the monitored items first when nothing is pending), and
otherwise it runs the keep-alive procedure.

The publish engine's answers are arguments: the number of publish requests it holds, read
before anything is sent, and whether `send_keep_alive_response` consumed a request.
-/

namespace OpcuaServer

namespace Subscription

variable (s : Subscription)

/-- `_publish_pending_notifications` followed by `_popNotificationToSend`. Callers dispatch only
when `hasPendingNotifications`, which the source asserts; an empty queue is left alone. -/
def publishPendingNotifications : Subscription :=
  match s.pendingNotifications with
  | [] => s
  | e::rest =>
      let s := { s.emit .notification with pendingNotifications := rest
                                           sentNotifications := s.sentNotifications ++ [e] }
      let s := (s.emit (.notificationMessage e.notification)).emit
        (.sendNotificationMessage s.id e.notification.sequenceNumber e.notification.notificationData
          (!rest.isEmpty) false)
      let s := { s with messageSent := true
                        unacknowledgedMessageCount := s.unacknowledgedMessageCount+1 }
      let s := s.resetLifeTimeAndKeepAliveCounters
      if s.state = .closed then s else { s with state := .normal }

/-- `_sendKeepAliveResponse`: the keep-alive carries the number the next allocation will get. -/
def sendKeepAliveResponse (accepted : Bool) : Subscription :=
  let future := s.getFutureSequenceNumber
  let s := s.emit (.sendKeepAliveResponse s.id future accepted)
  if accepted then { s.emit (.keepalive future) with messageSent := true, state := .keepalive } else s

def processKeepAlive (accepted : Bool) : Subscription :=
  let s := s.increaseKeepAliveCounter
  if s.keepAliveCounterHasExpired then
    let s := s.sendKeepAliveResponse accepted
    if accepted then s.resetLifeTimeAndKeepAliveCounters else { s with state := .late }
  else s

/-- Dispatch the oldest pending message; if more remain and the state is NORMAL, schedule an
immediate re-tick (`setImmediate`). -/
def dispatch : Subscription :=
  let s := s.publishPendingNotifications
  if s.state = .normal ∧ s.hasPendingNotifications then s.emit .reTick else s

/-- `process_subscription`. The getter's cached answer is reset at once by the harvest it
triggers, so the cache write is not repeated here. -/
def processSubscription (pendingPublishRequestCount : ℕ) (accepted : Bool) : Except Fault Subscription :=
  if pendingPublishRequestCount = 0 then
    .error (.assertion "subscription.publishEngine.pendingPublishRequestCount > 0")
  else if !s.publishingEnabled then .ok (s.processKeepAlive accepted)
  else
    let harvested : Except Fault Subscription :=
      if !s.hasPendingNotifications && s.hasMonitoredItemNotifications then s.harvestMonitoredItems
      else .ok s
    harvested.map fun s => if s.hasPendingNotifications then s.dispatch else s.processKeepAlive accepted

/-- `removeMonitoredItem` on each key in turn. -/
def removeMonitoredItems (keys : List ℕ) : Subscription :=
  keys.foldl (fun s k => (s.removeMonitoredItem k).2) s

def terminate : Subscription :=
  if s.state = .closed then s
  else
    let s := s.stopTimer.removeMonitoredItems (s.monitoredItems.map (·.monitoredItemId))
    ({ s with state := .closed }.emit .terminated).emit .onCloseSubscription

/-- The part of `_tick` before the expiry check: trim the retransmission queue, call the engine's
`_on_tick`, and count one publishing interval against the lifetime. -/
@[simps] def beginTick : Subscription :=
  { s.discardOldSentNotifications with trace := s.trace ++ [.onTick]
                                       publishIntervalCount := s.publishIntervalCount+1
                                       lifeTimeCounter := s.lifeTimeCounter+1 }

/-- The lifetime is used up: emit `expired`, queue a `StatusChangeNotification(BadTimeout)` and
terminate. -/
def expire : Subscription :=
  ((s.emit .expired).addNotificationMessage [.statusChangeNotification .badTimeout] (.inl rfl)).terminate

def tick (pendingPublishRequestCount : ℕ) (accepted : Bool) : Except Fault Subscription :=
  if s.state = .closed then .ok s
  else
    let s := s.beginTick
    if s.lifeTimeHasExpired then .ok s.expire
    else if pendingPublishRequestCount = 0 then
      if s.hasPendingNotifications then .ok { s with state := .late }
      else if s.hasMonitoredItemNotifications then
        .ok { s with state := .late, hasMonitoredItemNotificationsCache := true }
      else .ok (s.processKeepAlive accepted)
    else if s.hasPendingNotifications then s.processSubscription pendingPublishRequestCount accepted
    else if s.hasMonitoredItemNotifications then
      { s with hasMonitoredItemNotificationsCache := true }.processSubscription
        pendingPublishRequestCount accepted
    else .ok (s.processKeepAlive accepted)

/-! ## One closed form per step of the cycle -/

section Spec

variable {s}

theorem publishPendingNotifications_of_cons {e : Envelope} {rest : List Envelope}
    (h : s.pendingNotifications = e::rest) :
    s.publishPendingNotifications =
      { s with pendingNotifications := rest
               sentNotifications := s.sentNotifications ++ [e]
               trace := s.trace ++ [.notification, .notificationMessage e.notification,
                 .sendNotificationMessage s.id e.notification.sequenceNumber
                   e.notification.notificationData (!rest.isEmpty) false]
               messageSent := true
               unacknowledgedMessageCount := s.unacknowledgedMessageCount+1
               lifeTimeCounter := 0
               keepAliveCounter := 0
               state := if s.state = .closed then .closed else .normal } := by
  unfold publishPendingNotifications
  rw [h]
  split_ifs with hc <;> simp [hc, resetLifeTimeCounter, resetKeepAliveCounter]

theorem processKeepAlive_of_lt {a : Bool} (h : s.keepAliveCounter+1 < s.maxKeepAliveCount) :
    s.processKeepAlive a = { s with keepAliveCounter := s.keepAliveCounter+1 } := by
  simp [processKeepAlive, keepAliveCounterHasExpired, not_le.mpr h, increaseKeepAliveCounter]

theorem processKeepAlive_of_ge_accepted (h : s.maxKeepAliveCount ≤ s.keepAliveCounter+1) :
    s.processKeepAlive true =
      { s with trace := s.trace ++ [.sendKeepAliveResponse s.id s.sequenceNumberGenerator.counter true,
                 .keepalive s.sequenceNumberGenerator.counter]
               messageSent := true
               state := .keepalive
               lifeTimeCounter := 0
               keepAliveCounter := 0 } := by
  simp [processKeepAlive, keepAliveCounterHasExpired, h, sendKeepAliveResponse,
    getFutureSequenceNumber, SequenceNumberGenerator.future, increaseKeepAliveCounter, emit,
    resetLifeTimeCounter, resetKeepAliveCounter]

theorem processKeepAlive_of_ge_refused (h : s.maxKeepAliveCount ≤ s.keepAliveCounter+1) :
    s.processKeepAlive false =
      { s with trace := s.trace ++ [.sendKeepAliveResponse s.id s.sequenceNumberGenerator.counter false]
               keepAliveCounter := s.keepAliveCounter+1
               state := .late } := by
  simp [processKeepAlive, keepAliveCounterHasExpired, h, sendKeepAliveResponse,
    getFutureSequenceNumber, SequenceNumberGenerator.future, increaseKeepAliveCounter, emit,
    resetLifeTimeCounter, resetKeepAliveCounter]

theorem dispatch_of_cons {e : Envelope} {rest : List Envelope} (h : s.pendingNotifications = e::rest) :
    s.dispatch =
      { s with pendingNotifications := rest
               sentNotifications := s.sentNotifications ++ [e]
               trace := s.trace ++ [.notification, .notificationMessage e.notification,
                 .sendNotificationMessage s.id e.notification.sequenceNumber
                   e.notification.notificationData (!rest.isEmpty) false] ++
                 (if s.state ≠ .closed ∧ rest ≠ [] then [.reTick] else [])
               messageSent := true
               unacknowledgedMessageCount := s.unacknowledgedMessageCount+1
               lifeTimeCounter := 0
               keepAliveCounter := 0
               state := if s.state = .closed then .closed else .normal } := by
  unfold dispatch
  rw [publishPendingNotifications_of_cons h]
  by_cases hc : s.state = .closed <;> by_cases hr : rest = [] <;> simp [hc, hr, emit]

theorem removeMonitoredItems_eq (keys : List ℕ) : ∃ E : List Event,
    (∀ e ∈ E, ∃ k, e = .removeMonitoredItem k) ∧
    s.removeMonitoredItems keys =
      { s with monitoredItems := s.monitoredItems.filter (fun m => m.monitoredItemId ∉ keys)
               trace := s.trace ++ E } := by
  induction keys generalizing s with
  | nil => exact ⟨[], by simp, by rw [List.filter_eq_self.mpr fun _ _ => by simp, List.append_nil]; rfl⟩
  | cons k ks ih =>
      obtain ⟨E, hE, heq⟩ := @ih (s.removeMonitoredItem k).2
      simp only [removeMonitoredItems, List.foldl_cons] at heq ⊢
      rw [heq]
      unfold removeMonitoredItem
      split_ifs with hk
      · refine ⟨.removeMonitoredItem k :: E, by simpa using hE, ?_⟩
        simp [List.filter_filter, Bool.and_comm]
      · refine ⟨E, hE, ?_⟩
        simp only [List.any_eq_true, decide_eq_true_eq, not_exists, not_and] at hk
        have : s.monitoredItems.filter (fun m => m.monitoredItemId ∉ k::ks) =
            s.monitoredItems.filter (fun m => m.monitoredItemId ∉ ks) :=
          List.filter_congr fun m hm => by simp [hk m hm]
        rw [this]

theorem terminate_of_ne_closed (h : s.state ≠ .closed) : ∃ E : List Event,
    (∀ e ∈ E, ∃ k, e = .removeMonitoredItem k) ∧
    s.terminate =
      { s with timerActive := false
               monitoredItems := []
               state := .closed
               trace := s.trace ++ E ++ [.terminated, .onCloseSubscription] } := by
  obtain ⟨E, hE, heq⟩ := s.stopTimer.removeMonitoredItems_eq (s.monitoredItems.map (·.monitoredItemId))
  refine ⟨E, hE, ?_⟩
  simp only [terminate, if_neg h, heq]
  simpa [stopTimer, emit] using fun m hm => ⟨m, hm, rfl⟩

theorem terminate_of_closed (h : s.state = .closed) : s.terminate = s := if_pos h

/-- The expiry path: `expired`, the BadTimeout message, the item removals, `terminated`. -/
theorem expire_of_ne_closed (h : s.state ≠ .closed) : ∃ E : List Event,
    (∀ e ∈ E, ∃ k, e = .removeMonitoredItem k) ∧
    s.expire =
      { s with timerActive := false
               monitoredItems := []
               state := .closed
               sequenceNumberGenerator := ⟨s.sequenceNumberGenerator.counter+1⟩
               pendingNotifications := s.pendingNotifications ++
                 [⟨⟨s.sequenceNumberGenerator.counter, [.statusChangeNotification .badTimeout], .inl rfl⟩,
                   s.publishIntervalCount⟩]
               trace := s.trace ++ [.expired, .added ⟨s.sequenceNumberGenerator.counter,
                   [.statusChangeNotification .badTimeout], .inl rfl⟩] ++ E ++
                 [.terminated, .onCloseSubscription] } := by
  obtain ⟨E, hE, heq⟩ := @terminate_of_ne_closed ((s.emit .expired).addNotificationMessage
    [.statusChangeNotification .badTimeout] (.inl rfl)) (by simpa using h)
  refine ⟨E, hE, ?_⟩
  simp only [expire, heq]
  simp [emit, SequenceNumberGenerator.next]

/-- What `process_subscription` can do, once it has passed its assertion. -/
theorem processSubscription_cases {c : ℕ} {a : Bool} {s' : Subscription}
    (h : s.processSubscription c a = .ok s') : 0 < c ∧
    ((s.publishingEnabled = false ∧ s' = s.processKeepAlive a) ∨
     (s.publishingEnabled = true ∧ ∃ t, ((t = s ∧ (s.pendingNotifications ≠ [] ∨
        s.hasMonitoredItemNotifications = false)) ∨ (s.pendingNotifications = [] ∧
        s.hasMonitoredItemNotifications = true ∧ s.harvestMonitoredItems = .ok t)) ∧
      ((t.pendingNotifications ≠ [] ∧ s' = t.dispatch) ∨
       (t.pendingNotifications = [] ∧ s' = t.processKeepAlive a)))) := by
  unfold processSubscription at h
  by_cases hc : c = 0
  · simp [hc] at h
  refine ⟨Nat.pos_of_ne_zero hc, ?_⟩
  cases he : s.publishingEnabled
  · simp only [hc, he, if_false, Bool.not_false, if_true, Except.ok.injEq] at h
    exact .inl ⟨rfl, h.symm⟩
  refine .inr ⟨rfl, ?_⟩
  simp only [hc, he, if_false, Bool.not_true, Bool.false_eq_true] at h
  have finish : ∀ t : Subscription, (if t.hasPendingNotifications = true then t.dispatch else t.processKeepAlive a) = s' →
      (t.pendingNotifications ≠ [] ∧ s' = t.dispatch) ∨
      (t.pendingNotifications = [] ∧ s' = t.processKeepAlive a) := by
    intro t ht
    split_ifs at ht with hp
    · exact .inl ⟨by simpa using hp, ht.symm⟩
    · exact .inr ⟨by simpa using hp, ht.symm⟩
  by_cases hh : s.pendingNotifications = [] ∧ s.hasMonitoredItemNotifications = true
  · have hb : (!s.hasPendingNotifications && s.hasMonitoredItemNotifications) = true := by
      simp [hasPendingNotifications, hh.1, hh.2]
    obtain ⟨t, hv⟩ | ⟨f, hv⟩ : (∃ t, s.harvestMonitoredItems = .ok t) ∨
        ∃ f, s.harvestMonitoredItems = .error f := by
      cases s.harvestMonitoredItems <;> simp
    · simp only [hb, hv, if_true, Except.map, Except.ok.injEq] at h
      exact ⟨t, .inr ⟨hh.1, hh.2, hv⟩, finish t h⟩
    · simp [hb, hv, Except.map] at h
  · have hb : (!s.hasPendingNotifications && s.hasMonitoredItemNotifications) = false := by
      simpa [hasPendingNotifications, List.isEmpty_iff] using hh
    simp only [hb, Bool.false_eq_true, if_false, Except.map, Except.ok.injEq] at h
    exact ⟨s, .inl ⟨rfl, by simpa [imp_iff_not_or] using hh⟩, finish s h⟩

theorem processKeepAlive_state_ne_closed (h : s.state ≠ .closed) (a : Bool) :
    (s.processKeepAlive a).state ≠ .closed := by
  by_cases hk : s.keepAliveCounter+1 < s.maxKeepAliveCount
  · rwa [processKeepAlive_of_lt hk]
  cases a
  · simp [processKeepAlive_of_ge_refused (not_lt.mp hk)]
  · simp [processKeepAlive_of_ge_accepted (not_lt.mp hk)]

/-- The keep-alive procedure leaves both message queues and the unacknowledged count alone. -/
@[simp] theorem processKeepAlive_sentNotifications (a : Bool) :
    (s.processKeepAlive a).sentNotifications = s.sentNotifications := by
  by_cases hk : s.keepAliveCounter+1 < s.maxKeepAliveCount
  · rw [processKeepAlive_of_lt hk]
  cases a
  · rw [processKeepAlive_of_ge_refused (not_lt.mp hk)]
  · rw [processKeepAlive_of_ge_accepted (not_lt.mp hk)]

@[simp] theorem processKeepAlive_unacknowledgedMessageCount (a : Bool) :
    (s.processKeepAlive a).unacknowledgedMessageCount = s.unacknowledgedMessageCount := by
  by_cases hk : s.keepAliveCounter+1 < s.maxKeepAliveCount
  · rw [processKeepAlive_of_lt hk]
  cases a
  · rw [processKeepAlive_of_ge_refused (not_lt.mp hk)]
  · rw [processKeepAlive_of_ge_accepted (not_lt.mp hk)]

@[simp] theorem processKeepAlive_maxNotificationsPerPublish (a : Bool) :
    (s.processKeepAlive a).maxNotificationsPerPublish = s.maxNotificationsPerPublish := by
  by_cases hk : s.keepAliveCounter+1 < s.maxKeepAliveCount
  · rw [processKeepAlive_of_lt hk]
  cases a
  · rw [processKeepAlive_of_ge_refused (not_lt.mp hk)]
  · rw [processKeepAlive_of_ge_accepted (not_lt.mp hk)]

theorem dispatch_state_ne_closed (h : s.state ≠ .closed) (hp : s.pendingNotifications ≠ []) :
    s.dispatch.state = .normal := by
  obtain ⟨e, rest, he⟩ := List.exists_cons_of_ne_nil hp
  simp [dispatch_of_cons he, h]

theorem harvestMonitoredItems_state {s' : Subscription} (hv : s.harvestMonitoredItems = .ok s') :
    s'.state = s.state := by
  obtain ⟨bodies, -, rfl⟩ := s.harvestMonitoredItems_eq hv
  rfl

theorem processSubscription_state_ne_closed {c : ℕ} {a : Bool} {s' : Subscription}
    (h : s.state ≠ .closed) (hv : s.processSubscription c a = .ok s') : s'.state ≠ .closed := by
  obtain ⟨-, ⟨-, rfl⟩ | ⟨-, t, ht, ⟨hp, rfl⟩ | ⟨-, rfl⟩⟩⟩ := processSubscription_cases hv
  · exact processKeepAlive_state_ne_closed h a
  all_goals
    have h' : t.state ≠ .closed := by
      obtain ⟨rfl, -⟩ | ⟨-, -, hv⟩ := ht
      exacts [h, (harvestMonitoredItems_state hv).trans_ne h]
  · simp [dispatch_state_ne_closed h' hp]
  · exact processKeepAlive_state_ne_closed h' a

/-- `_tick` forward, when nothing is pending and no monitored item reports: the keep-alive path,
with or without a publish request. -/
theorem tick_of_keepAlive {c : ℕ} {a : Bool} (hc : s.state ≠ .closed)
    (hx : ¬s.beginTick.lifeTimeHasExpired) (hp : s.pendingNotifications = [])
    (hm : s.beginTick.hasMonitoredItemNotifications = false) :
    s.tick c a = .ok (s.beginTick.processKeepAlive a) := by
  have hp' : s.beginTick.hasPendingNotifications = false := by simp [hasPendingNotifications, hp]
  simp only [tick, hc, hx, hp', hm, if_false, Bool.false_eq_true]
  split_ifs <;> rfl

/-- `_tick` forward, with a publish request, nothing pending and a monitored item reporting. -/
theorem tick_of_monitored {c : ℕ} {a : Bool} (hc : s.state ≠ .closed)
    (hx : ¬s.beginTick.lifeTimeHasExpired) (hpos : 0 < c) (hp : s.pendingNotifications = [])
    (hm : s.beginTick.hasMonitoredItemNotifications = true) :
    s.tick c a = { s.beginTick with hasMonitoredItemNotificationsCache := true }.processSubscription c a := by
  have hp' : s.beginTick.hasPendingNotifications = false := by simp [hasPendingNotifications, hp]
  simp [tick, hc, hx, hp', hm, hpos.ne']

/-- `process_subscription` forward, when it harvests. -/
theorem processSubscription_of_monitored {c : ℕ} {a : Bool} (hpos : 0 < c)
    (he : s.publishingEnabled = true) (hp : s.pendingNotifications = [])
    (hm : s.hasMonitoredItemNotifications = true) :
    s.processSubscription c a = s.harvestMonitoredItems.map
      fun t => if t.hasPendingNotifications then t.dispatch else t.processKeepAlive a := by
  simp [processSubscription, hpos.ne', he, hp, hm, hasPendingNotifications]

/-- `_tick` on an open subscription whose lifetime is used up returns, expired. -/
theorem tick_of_expired {c : ℕ} {a : Bool} (hc : s.state ≠ .closed) (hx : s.beginTick.lifeTimeHasExpired) :
    s.tick c a = .ok s.beginTick.expire := by
  simp only [tick, if_neg hc, if_pos hx]

/-- What `_tick` can do. -/
theorem tick_cases {c : ℕ} {a : Bool} {s' : Subscription} (h : s.tick c a = .ok s') :
    (s.state = .closed ∧ s' = s) ∨
    (s.state ≠ .closed ∧ s.beginTick.lifeTimeHasExpired ∧ s' = s.beginTick.expire) ∨
    (s.state ≠ .closed ∧ ¬s.beginTick.lifeTimeHasExpired ∧
      ((c = 0 ∧ s.pendingNotifications ≠ [] ∧ s' = { s.beginTick with state := .late }) ∨
       (c = 0 ∧ s.pendingNotifications = [] ∧ s.beginTick.hasMonitoredItemNotifications = true ∧
         s' = { s.beginTick with state := .late, hasMonitoredItemNotificationsCache := true }) ∨
       (s.pendingNotifications = [] ∧ s.beginTick.hasMonitoredItemNotifications = false ∧
         s' = s.beginTick.processKeepAlive a) ∨
       (0 < c ∧ s.pendingNotifications ≠ [] ∧ s.beginTick.processSubscription c a = .ok s') ∨
       (0 < c ∧ s.pendingNotifications = [] ∧ s.beginTick.hasMonitoredItemNotifications = true ∧
         { s.beginTick with hasMonitoredItemNotificationsCache := true }.processSubscription c a =
           .ok s'))) := by
  unfold tick at h
  by_cases hcl : s.state = .closed
  · exact .inl ⟨hcl, by simpa [hcl, eq_comm] using h⟩
  simp only [hcl, if_false] at h
  by_cases hx : s.beginTick.lifeTimeHasExpired
  · exact .inr (.inl ⟨hcl, hx, by simpa [hx, eq_comm] using h⟩)
  refine .inr (.inr ⟨hcl, hx, ?_⟩)
  have hp : s.beginTick.hasPendingNotifications = true ↔ s.pendingNotifications ≠ [] := by
    simp [hasPendingNotifications, List.isEmpty_iff]
  simp only [hx, if_false] at h
  split_ifs at h with hc hpe hm hpe hm
  · exact .inl ⟨hc, hp.1 hpe, (Except.ok.inj h).symm⟩
  · exact .inr (.inl ⟨hc, by simpa [hp] using hpe, hm, (Except.ok.inj h).symm⟩)
  · exact .inr (.inr (.inl ⟨by simpa [hp] using hpe, by simpa using hm, (Except.ok.inj h).symm⟩))
  · exact .inr (.inr (.inr (.inl ⟨Nat.pos_of_ne_zero hc, hp.1 hpe, h⟩)))
  · exact .inr (.inr (.inr (.inr ⟨Nat.pos_of_ne_zero hc, by simpa [hp] using hpe, hm, h⟩)))
  · exact .inr (.inr (.inl ⟨by simpa [hp] using hpe, by simpa using hm, (Except.ok.inj h).symm⟩))

end Spec

end Subscription

end OpcuaServer
