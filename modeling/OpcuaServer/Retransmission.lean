import OpcuaServer.Lifetime

/-!
# The retransmission queue at its bound

`_publish_pending_notifications` moves every dispatched message to `_sent_notifications` and
counts it in `_unacknowledgedMessageCount`; `acknowledgeNotification` takes one entry out and
uncounts it. `discardOldSentNotifications` runs first in every `_tick`: the source's comment asks
that on overflow "the oldest sent NotificationMessage gets deleted", but `splice(len - 100)`
keeps the oldest `len - 100` entries, so at exactly 100 it empties the queue, the message
dispatched last included, and it leaves the count as it was.

A subscription with one reporting item gets there under the most helpful engine: each publishing
cycle (the item samples a value, and the next tick finds a publish request) dispatches one
message, and no client acknowledges. `Idle` is the state between two cycles and
`Idle.cycle` one cycle; `Idle.cycles` iterates it up to the bound. The tick after the hundredth
cycle discards all hundred messages, while the count stays at 100 and every later
`acknowledgeNotification` answers `BadSequenceNumberUnknown`.
-/

namespace OpcuaServer

open Subscription

/-- The value the monitored item reports in every cycle below. -/
def sampledValue : ItemNotification := .monitoredItemNotification 1 0

/-- One publishing cycle: item `1` samples a value, and the next tick finds a publish request. -/
def publishingCycle : List Op := [.sample 1 sampledValue, .tick 1 true]

/-- The message a cycle enqueues and dispatches, numbered `c`. -/
def cycleMessage (c : ℕ) : NotificationMessage := ⟨c, [.dataChangeNotification [sampledValue]], .inl rfl⟩

@[simp] theorem cycleMessage_sequenceNumber (c : ℕ) : (cycleMessage c).sequenceNumber = c := rfl

/-- The events of one cycle of subscription `id` whose message is numbered `c`. -/
def cycleEvents (id c : ℕ) : List Event :=
  [.invoked .sample, .invoked .tick, .onTick, .added (cycleMessage c), .notification,
    .notificationMessage (cycleMessage c),
    .sendNotificationMessage id c (cycleMessage c).notificationData false false]

@[simp] theorem dispatched_cycleEvents (id c : ℕ) :
    dispatched (cycleEvents id c) = [(cycleMessage c).contents] := rfl

theorem acknowledge_not_mem_cycleEvents (id c : ℕ) :
    Event.invoked .acknowledgeNotification ∉ cycleEvents id c := by
  simp [cycleEvents]

/-- Between two publishing cycles: open and publishing, nothing pending, a single item `1` with an
empty queue, no limit on the notifications of a message (`maxNotificationsPerPublish` 0, so a
harvest makes one chunk), no cached flag, and an interval of lifetime to spare. -/
structure Idle (s : Subscription) : Prop where
  not_closed : s.state ≠ .closed
  enabled : s.publishingEnabled = true
  no_pending : s.pendingNotifications = []
  item : ∃ m, s.monitoredItems = [m] ∧ m.monitoredItemId = 1 ∧ m.queue = []
  chunked : s.maxNotificationsPerPublish = some 0
  no_cache : s.hasMonitoredItemNotificationsCache = false
  alive : (s.lifeTimeCounter : ℤ) + 1 < s.lifeTimeCount

/-- With one notification buffered and chunks of any size, the harvest makes one body. -/
theorem collectLoop_sampledValue :
    collectLoop (some 0) 1 [sampledValue] = .ok [⟨(cycleMessage 0).notificationData, .inl rfl⟩] := rfl

/-- One publishing cycle from an idle state with room in the retransmission queue: the sample
fills the item's queue, the tick harvests it into message `c` and dispatches it, and the state is
idle again. -/
theorem Idle.cycle {ctx : Context} {s : Subscription} (h : Idle s) (hs : s.sentNotifications.length < 100) :
    ∃ s', run ctx s publishingCycle = .ok s' ∧ Idle s' ∧
      s'.sentNotifications = s.sentNotifications ++
        [⟨cycleMessage s.sequenceNumberGenerator.counter, s.publishIntervalCount + 1⟩] ∧
      s'.unacknowledgedMessageCount = s.unacknowledgedMessageCount + 1 ∧
      s'.sequenceNumberGenerator.counter = s.sequenceNumberGenerator.counter + 1 ∧
      s'.trace = s.trace ++ cycleEvents s.id s.sequenceNumberGenerator.counter := by
  obtain ⟨m, hm, hid, hq⟩ := h.item
  set c := s.sequenceNumberGenerator.counter
  -- the tick starts from `u`, the state after the sample
  set u : Subscription := { s with monitoredItems := [{ m with queue := [sampledValue] }]
                                   trace := s.trace ++ [.invoked .sample, .invoked .tick] } with hu
  have hrun : run ctx s publishingCycle = (u.tick 1 true).bind (run ctx · []) := by
    have : ((s.emit (.invoked .sample)).sample 1 sampledValue).emit (.invoked .tick) = u := by
      simp [u, sample, emit, hm, hid, hq, MonitoredItem.enqueueNotification]
    rw [← this]
    rfl
  have hc : u.state ≠ .closed := h.not_closed
  have hx : ¬u.beginTick.lifeTimeHasExpired := by
    have := h.alive
    simp [lifeTimeHasExpired, u]
    omega
  have hm₁ : u.beginTick.hasMonitoredItemNotifications = true := by
    simp [hasMonitoredItemNotifications, u, MonitoredItem.hasMonitoredItemNotifications]
  set v : Subscription := { u.beginTick with hasMonitoredItemNotificationsCache := true } with hv
  have hps := @processSubscription_of_monitored v 1 true one_pos h.enabled h.no_pending
    (by simp [hasMonitoredItemNotifications, v])
  have hflat : v.monitoredItems.flatMap (·.queue) = [sampledValue] := by simp [v, u]
  have hcl : collectLoop v.maxNotificationsPerPublish (v.monitoredItems.flatMap (·.queue)).length
      (v.monitoredItems.flatMap (·.queue)) = .ok [⟨(cycleMessage 0).notificationData, .inl rfl⟩] := by
    rw [hflat]
    exact h.chunked ▸ collectLoop_sampledValue
  have hH : v.harvestMonitoredItems = .ok
      { s with monitoredItems := [{ m with queue := [] }]
               sequenceNumberGenerator := ⟨c + 1⟩
               pendingNotifications := [⟨cycleMessage c, s.publishIntervalCount + 1⟩]
               trace := s.trace ++ [.invoked .sample, .invoked .tick, .onTick, .added (cycleMessage c)]
               publishIntervalCount := s.publishIntervalCount + 1
               lifeTimeCounter := s.lifeTimeCounter + 1 } := by
    rw [harvestMonitoredItems_of_collectLoop v hcl]
    simp [v, u, h.no_pending, h.no_cache, numberBodies, drainMonitoredItems, maxNotificationMessagesInQueue,
      not_le.mpr hs, cycleMessage]
  rw [tick_of_monitored hc hx one_pos h.no_pending hm₁, hps, hH] at hrun
  simp only [Except.map, hasPendingNotifications_iff, ne_eq, reduceCtorEq, not_false_eq_true, if_true] at hrun
  rw [dispatch_of_cons rfl] at hrun
  refine ⟨_, hrun, ⟨?_, ?_, ?_, ?_, ?_, ?_, ?_⟩, ?_, ?_, ?_, ?_⟩
  all_goals simp [h.not_closed, h.enabled, hid, h.chunked, h.no_cache, cycleEvents]
  have := h.alive
  omega

/-- `k` publishing cycles from an idle state with room for `k` more messages: the messages
numbered from the generator's value on are dispatched in order and all stay in the
retransmission queue, and no acknowledgement is asked for. -/
theorem Idle.cycles {ctx : Context} {A : Subscription → Op → Prop}
    (hA : ∀ t, ∀ op ∈ publishingCycle, A t op) {k : ℕ} {s : Subscription} (hr : Reachable ctx A s)
    (h : Idle s) (hk : s.sentNotifications.length + k ≤ 100) :
    ∃ s', Reachable ctx A s' ∧ Idle s' ∧
      s'.getAvailableSequenceNumbers =
        s.getAvailableSequenceNumbers ++ List.range' s.sequenceNumberGenerator.counter k ∧
      s'.unacknowledgedMessageCount = s.unacknowledgedMessageCount + k ∧
      ∃ E, s'.trace = s.trace ++ E ∧ Event.invoked .acknowledgeNotification ∉ E ∧
        (dispatched E).map Prod.fst = List.range' s.sequenceNumberGenerator.counter k := by
  induction k generalizing s with
  | zero => exact ⟨s, hr, h, by simp, by simp, [], by simp⟩
  | succ k ih =>
      obtain ⟨t, hrun, ht, hsent, hcount, hctr, htrace⟩ := h.cycle (by omega)
      obtain ⟨s', hr', h', havail, hcount', E, hE, hack, hdisp⟩ :=
        ih (hr.run hA hrun) ht (by simp [hsent]; omega)
      refine ⟨s', hr', h', ?_, by rw [hcount', hcount]; push_cast; ring,
        cycleEvents s.id s.sequenceNumberGenerator.counter ++ E, by rw [hE, htrace, List.append_assoc],
        by simp [acknowledge_not_mem_cycleEvents, hack], ?_⟩
      · rw [havail]
        simp [getAvailableSequenceNumbers, hsent, hctr, List.range'_succ]
      · simp [hdisp, hctr, List.range'_succ, NotificationMessage.contents]

/-- The engine of this module: it keeps its promise to call `process_subscription` on LATE
subscriptions only, and every tick finds a publish request and a keep-alive accepted. -/
def ServedEngine (s : Subscription) (op : Op) : Prop := op.Promised s ∧ op.Served

theorem publishingCycle_served (t : Subscription) : ∀ op ∈ publishingCycle, ServedEngine t op := by
  simp [publishingCycle, ServedEngine, Op.Promised, Op.Served]

/-- A subscription created with the defaults and holding item `1` of `valueRequest` is idle, with
nothing dispatched, queued or acknowledged and the generator at `1`. -/
theorem idle_after_createMonitoredItem :
    ∃ s, Reachable variableContext ServedEngine s ∧ Idle s ∧ s.sentNotifications = [] ∧
      s.unacknowledgedMessageCount = 0 ∧ s.sequenceNumberGenerator.counter = 1 ∧
      dispatched s.trace = [] ∧ Event.invoked .acknowledgeNotification ∉ s.trace := by
  have hrun : (run variableContext (Subscription.create {}) [.createMonitoredItem valueRequest 1]).toOption.any
      (fun s => s.state != .closed && s.publishingEnabled && s.pendingNotifications.isEmpty &&
        s.monitoredItems.map (fun m => (m.monitoredItemId, m.queue)) == [(1, [])] &&
        s.maxNotificationsPerPublish == some 0 && !s.hasMonitoredItemNotificationsCache &&
        decide ((s.lifeTimeCounter : ℤ) + 1 < s.lifeTimeCount) && s.sentNotifications.isEmpty &&
        s.unacknowledgedMessageCount == 0 && s.sequenceNumberGenerator.counter == 1 &&
        (dispatched s.trace).isEmpty && decide (Event.invoked .acknowledgeNotification ∉ s.trace)) = true := by
    rw [Subscription.create_of_defaults _ rfl rfl rfl]
    decide
  obtain ⟨s, hs, hp⟩ := (Reachable.create _ : Reachable variableContext ServedEngine _).exists_of_run
    (fun t op hop => by simp only [List.mem_singleton] at hop; subst hop; exact ⟨trivial, trivial⟩) hrun
  simp only [Bool.and_eq_true, bne_iff_ne, ne_eq, beq_iff_eq, List.isEmpty_iff, Bool.not_eq_true',
    decide_eq_true_eq, List.map_eq_cons_iff,
    List.map_eq_nil_iff, Prod.mk.injEq] at hp
  obtain ⟨⟨⟨⟨⟨⟨⟨⟨⟨⟨⟨hc, he⟩, hpend⟩, ⟨m, _, hmi, ⟨hid, hq⟩, rfl⟩⟩, hmax⟩, hcache⟩, hlife⟩, hsent⟩, hcount⟩,
    hctr⟩, hdisp⟩, hack⟩ := hp
  exact ⟨s, hs, ⟨hc, he, hpend, ⟨m, hmi, hid, hq⟩, hmax, hcache, hlife⟩, hsent, hcount, hctr, hdisp, hack⟩

/-- A hundred cycles from `idle_after_createMonitoredItem`, then one more tick, which finds the
retransmission queue full and nothing to send. -/
theorem hundred_cycles_then_tick :
    ∃ s s', Reachable variableContext ServedEngine s ∧
      s.getAvailableSequenceNumbers = List.range' 1 100 ∧ s.unacknowledgedMessageCount = 100 ∧
      Event.invoked .acknowledgeNotification ∉ s.trace ∧
      (dispatched s.trace).map Prod.fst = List.range' 1 100 ∧
      step variableContext s (.tick 1 true) = .ok s' ∧
      s'.sentNotifications = [] ∧ s'.unacknowledgedMessageCount = 100 := by
  obtain ⟨s₀, hr₀, h₀, hsent₀, hcount₀, hctr₀, hdisp₀, hack₀⟩ := idle_after_createMonitoredItem
  obtain ⟨s, hr, h, havail, hcount, E, hE, hack, hdisp⟩ :=
    h₀.cycles publishingCycle_served hr₀ (show s₀.sentNotifications.length + 100 ≤ 100 by simp [hsent₀])
  simp only [getAvailableSequenceNumbers, hsent₀, hctr₀, List.map_nil, List.nil_append] at havail
  have hlen : s.sentNotifications.length = 100 := by simpa using congrArg List.length havail
  obtain ⟨m, hm, -, hq⟩ := h.item
  have hv : step variableContext s (.tick 1 true) =
      .ok ((s.emit (.invoked .tick)).beginTick.processKeepAlive true) :=
    @tick_of_keepAlive (s.emit (.invoked .tick)) 1 true h.not_closed
      (by have := h.alive; simp [lifeTimeHasExpired]; omega) h.no_pending
      (by simp [hasMonitoredItemNotifications, h.no_cache, hm, hq,
        MonitoredItem.hasMonitoredItemNotifications])
  refine ⟨s, _, hr, havail, by rw [hcount, hcount₀]; rfl, by simp [hE, hack₀, hack],
    by simp [hE, hdisp₀, hdisp, hctr₀], hv, by simp [hlen, maxNotificationMessagesInQueue],
    by simp [hcount, hcount₀]⟩

/-- Message `100` was the last one dispatched and is unacknowledged, yet the next tick takes it
out of the retransmission queue together with the 99 before it. -/
theorem discard_empties_full_retransmission_queue :
    ∃ s s', Reachable variableContext ServedEngine s ∧
      Event.invoked .acknowledgeNotification ∉ s.trace ∧
      (dispatched s.trace).map Prod.fst = List.range' 1 100 ∧
      s.getAvailableSequenceNumbers = List.range' 1 100 ∧
      (s.getMessageForSequenceNumber 100).isSome ∧
      step variableContext s (.tick 1 true) = .ok s' ∧
      s'.getAvailableSequenceNumbers = [] ∧ s'.getMessageForSequenceNumber 100 = none := by
  obtain ⟨s, s', hr, havail, -, hack, hdisp, hv, hsent, -⟩ := hundred_cycles_then_tick
  have h100 : 100 ∈ s.getAvailableSequenceNumbers := by simp [havail]
  simp only [getAvailableSequenceNumbers, List.mem_map] at h100
  obtain ⟨e, he, he100⟩ := h100
  refine ⟨s, s', hr, hack, hdisp, havail, ?_, hv, by simp [getAvailableSequenceNumbers, hsent],
    by simp [getMessageForSequenceNumber, hsent]⟩
  simpa [getMessageForSequenceNumber, List.find?_isSome] using ⟨e, he, he100⟩

/-- After the discard the count still says 100 while the queue is empty, and no acknowledgement
can bring it down: every sequence number is unknown. -/
theorem unacknowledged_count_outlives_queue :
    ∃ s, Reachable variableContext ServedEngine s ∧ s.unacknowledgedMessageCount = 100 ∧
      s.sentNotifications = [] ∧ ∀ n, s.acknowledgeNotification n = (.badSequenceNumberUnknown, s) := by
  obtain ⟨s, s', hr, -, -, -, -, hv, hsent, hcount⟩ := hundred_cycles_then_tick
  exact ⟨s', hr.step (show ServedEngine s (.tick 1 true) from ⟨trivial, one_pos, rfl⟩) hv, hcount, hsent,
    fun n => by simp [acknowledgeNotification, hsent, lastIndexOf]⟩

end OpcuaServer
