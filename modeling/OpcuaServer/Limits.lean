import OpcuaServer.Retransmission

/-!
# The revised parameters and the limit on notifications per message

The constructor passes `maxNotificationsPerPublish` through `_adjust_maxNotificationsPerPublish`,
which clamps it at `0`; `modify` copies the request's value as it is, an omitted one included.
The harvest cuts the drained queues into chunks with `while (n)`: a non-negative limit makes every
chunk non-empty, so the loop ends within the length of the queue and every message has one or two
entries (`harvestMonitoredItems_ok_of_nonneg`, and from it `tick_ok_of_nonneg`). The chunks are
those of `Chunked`, so the messages are `⌈|L| / m⌉` many and carry the queue's data changes and
events in order, none lost or repeated (`collectNotificationData_chunks`). A negative limit
makes the loop run forever, and an omitted one (`NaN`) yields an empty chunk and fails the
assertion: after such a `modify`, the first tick with a notification to harvest does not return.

Only the constructor and `modify` write the revised parameters (`step_parameters`), so in a run
whose `modify` requests all carry a non-negative limit every tick returns. Both pass the timing
requests through the `_adjust_*` functions, which is why every reachable state keeps the interval,
the keep-alive count and the lifetime count within their bounds, whatever was requested
(`revised_timing_within_bounds`).
-/

namespace OpcuaServer

open Subscription

/-! ## Harvesting under a non-negative limit -/

/-- Fuel equal to the length of the queue is enough: each round takes a non-empty chunk. -/
theorem collectLoop_ok_of_nonneg {k : ℤ} (hk : 0 ≤ k) {fuel : ℕ} {items : List ItemNotification}
    (hf : items.length ≤ fuel) : ∃ bodies, collectLoop (some k) fuel items = .ok bodies :=
  let ⟨_, bodies, h, _⟩ := collectLoop_chunked hk hf
  ⟨bodies, h⟩

theorem harvestMonitoredItems_ok_of_nonneg {s : Subscription} {k : ℤ}
    (hmax : s.maxNotificationsPerPublish = some k) (hk : 0 ≤ k) : ∃ t, s.harvestMonitoredItems = .ok t := by
  obtain ⟨bodies, hb⟩ := collectLoop_ok_of_nonneg hk (le_refl (s.monitoredItems.flatMap (·.queue)).length)
  exact ⟨_, harvestMonitoredItems_of_collectLoop s (by rw [hmax]; exact hb)⟩

/-- The harvest under a non-negative limit `m` returns. It cuts the drained queues `L` into
consecutive non-empty chunks and sends `⌈|L| / m⌉` messages, or under `m = 0` one message, none for
an empty `L`. It loses, repeats and reorders no data change and no event, and under `m > 0` no
message carries more than `m` entries. -/
theorem collectNotificationData_chunks (s : Subscription) {m : ℤ} (hmax : s.maxNotificationsPerPublish = some m)
    (hm : 0 ≤ m) (L : List ItemNotification) (hL : s.monitoredItems.flatMap (·.queue) = L) :
    ∃ chunks bodies,
      s.collectNotificationData = .ok ({ s.drainMonitoredItems with hasMonitoredItemNotificationsCache := false }, bodies) ∧
      Chunked m L chunks bodies ∧ (m = 0 → chunks = if L = [] then [] else [L]) ∧
      bodies.length = (if m = 0 then (if L = [] then 0 else 1) else L.length ⌈/⌉ m.toNat) ∧
      bodies.flatMap (fun b => b.1.flatMap NotificationData.dataChanges) = L.filter (·.isMonitoredItemNotification) ∧
      bodies.flatMap (fun b => b.1.flatMap NotificationData.events) = L.filter (·.isEventFieldList) ∧
      (0 < m → ∀ b ∈ bodies,
        (b.1.flatMap NotificationData.dataChanges).length + (b.1.flatMap NotificationData.events).length ≤ m.toNat) := by
  subst hL
  obtain ⟨chunks, bodies, hb, hc⟩ := collectLoop_chunked hm (le_refl (s.monitoredItems.flatMap (·.queue)).length)
  refine ⟨chunks, bodies, ?_, hc, fun h0 => (h0 ▸ hc).eq_of_zero, hc.length_bodies_eq hm, hc.dataChanges_eq,
    hc.events_eq, fun h => hc.entries_le h⟩
  simp only [collectNotificationData, hmax, hb]

theorem collectNotificationData_chunks_of_two :
    ∃ (s : Subscription) (L : List ItemNotification), s.maxNotificationsPerPublish = some 2 ∧ 0 ≤ (2 : ℤ) ∧
      s.monitoredItems.flatMap (·.queue) = L ∧ L.length = 8 ∧
      ∃ chunks bodies,
        s.collectNotificationData = .ok ({ s.drainMonitoredItems with hasMonitoredItemNotificationsCache := false }, bodies) ∧
        Chunked 2 L chunks bodies ∧ ((2 : ℤ) = 0 → chunks = if L = [] then [] else [L]) ∧
        bodies.length = (if (2 : ℤ) = 0 then (if L = [] then 0 else 1) else L.length ⌈/⌉ (2 : ℤ).toNat) ∧
        bodies.flatMap (fun b => b.1.flatMap NotificationData.dataChanges) = L.filter (·.isMonitoredItemNotification) ∧
        bodies.flatMap (fun b => b.1.flatMap NotificationData.events) = L.filter (·.isEventFieldList) ∧
        (0 < (2 : ℤ) → ∀ b ∈ bodies,
          (b.1.flatMap NotificationData.dataChanges).length + (b.1.flatMap NotificationData.events).length ≤
            (2 : ℤ).toNat) :=
  let s : Subscription :=
    { create {} with
      maxNotificationsPerPublish := some 2
      monitoredItems := [⟨1, .reporting, 100, 10, true, List.replicate 5 (.monitoredItemNotification 1 0) ++
        List.replicate 3 (.eventFieldList 1 [])⟩] }
  ⟨s, _, rfl, by decide, rfl, rfl, collectNotificationData_chunks s rfl (by decide) _ rfl⟩

theorem processSubscription_ok_of_nonneg {s : Subscription} {c : ℕ} {a : Bool} {k : ℤ} (hpos : 0 < c)
    (hmax : s.maxNotificationsPerPublish = some k) (hk : 0 ≤ k) :
    ∃ t, s.processSubscription c a = .ok t := by
  obtain ⟨t, ht⟩ := harvestMonitoredItems_ok_of_nonneg hmax hk
  simp only [processSubscription, if_neg hpos.ne']
  split_ifs
  · exact ⟨_, rfl⟩
  · rw [ht]
    exact ⟨_, rfl⟩
  · exact ⟨_, rfl⟩

/-- Under a non-negative limit a tick always returns. -/
theorem tick_ok_of_nonneg {s : Subscription} {c : ℕ} {a : Bool} {k : ℤ}
    (hmax : s.maxNotificationsPerPublish = some k) (hk : 0 ≤ k) : ∃ t, s.tick c a = .ok t := by
  have hmax' : s.beginTick.maxNotificationsPerPublish = some k := by simpa using hmax
  unfold tick
  by_cases hclosed : s.state = .closed
  · exact ⟨_, if_pos hclosed⟩
  rw [if_neg hclosed]
  dsimp only
  by_cases hx : s.beginTick.lifeTimeHasExpired
  · exact ⟨_, if_pos hx⟩
  rw [if_neg hx]
  by_cases hc : c = 0
  · -- without a publish request every branch returns at once
    rw [if_pos hc]
    split_ifs <;> exact ⟨_, rfl⟩
  -- with one, the pending and the harvesting branches call `process_subscription`
  rw [if_neg hc]
  split_ifs
  iterate 2 exact processSubscription_ok_of_nonneg (Nat.pos_of_ne_zero hc) hmax' hk
  exact ⟨_, rfl⟩

/-! ## Only the constructor and `modify` write the revised parameters -/

section Frame

variable {s t : Subscription}

/-- The revised timing and the limit. -/
def Subscription.parameters (s : Subscription) : ℚ × ℤ × ℤ × Option ℤ :=
  (s.publishingInterval, s.maxKeepAliveCount, s.lifeTimeCount, s.maxNotificationsPerPublish)

theorem processKeepAlive_parameters (a : Bool) : (s.processKeepAlive a).parameters = s.parameters := by
  by_cases hk : s.keepAliveCounter+1 < s.maxKeepAliveCount
  · rw [processKeepAlive_of_lt hk]; rfl
  cases a
  · rw [processKeepAlive_of_ge_refused (not_lt.mp hk)]; rfl
  · rw [processKeepAlive_of_ge_accepted (not_lt.mp hk)]; rfl

theorem processSubscription_parameters {c : ℕ} {a : Bool}
    (hv : s.processSubscription c a = .ok t) : t.parameters = s.parameters := by
  obtain ⟨-, ⟨-, rfl⟩ | ⟨-, u, hu, ⟨hp, rfl⟩ | ⟨-, rfl⟩⟩⟩ := processSubscription_cases hv
  · exact processKeepAlive_parameters a
  all_goals
    have hu' : u.parameters = s.parameters := by
      obtain ⟨rfl, -⟩ | ⟨-, -, hv⟩ := hu
      · rfl
      · obtain ⟨bodies, -, rfl⟩ := s.harvestMonitoredItems_eq hv
        rfl
  · obtain ⟨e, rest, he⟩ := List.exists_cons_of_ne_nil hp
    rw [dispatch_of_cons he]
    exact hu'
  · exact (processKeepAlive_parameters a).trans hu'

theorem tick_parameters {c : ℕ} {a : Bool} (hv : s.tick c a = .ok t) : t.parameters = s.parameters := by
  have hb : s.beginTick.parameters = s.parameters := by simp [Subscription.parameters]
  obtain ⟨-, rfl⟩ | ⟨hc, -, rfl⟩ | ⟨-, -, hv⟩ := tick_cases hv
  · rfl
  · obtain ⟨E, -, heq⟩ := @expire_of_ne_closed s.beginTick (by simpa using hc)
    rw [heq]
    simp [Subscription.parameters]
  obtain ⟨-, -, rfl⟩ | ⟨-, -, -, rfl⟩ | ⟨-, -, rfl⟩ | ⟨-, -, hv⟩ | ⟨-, -, -, hv⟩ := hv
  · simp [Subscription.parameters]
  · simp [Subscription.parameters]
  · exact (processKeepAlive_parameters a).trans hb
  · exact (processSubscription_parameters hv).trans hb
  · exact (processSubscription_parameters hv).trans (by simp [Subscription.parameters])

theorem terminate_parameters : s.terminate.parameters = s.parameters := by
  by_cases hc : s.state = .closed
  · rw [terminate_of_closed hc]
  · obtain ⟨E, -, heq⟩ := terminate_of_ne_closed hc
    rw [heq]
    rfl

/-- Every operation but `modify` keeps the revised parameters. -/
theorem step_parameters {ctx : Context} {op : Op} (hv : step ctx s op = .ok t)
    (hop : ∀ p, op ≠ .modify p) : t.parameters = s.parameters := by
  cases op with
  | tick c a => exact @tick_parameters (s.emit (.invoked .tick)) t c a hv
  | processSubscription c a =>
      exact @processSubscription_parameters (s.emit (.invoked .processSubscription)) t c a hv
  | modify p => exact absurd rfl (hop p)
  | setPublishingMode b =>
      cases Except.ok.inj hv
      rw [setPublishingMode_eq]
      rfl
  | acknowledgeNotification n =>
      cases Except.ok.inj hv
      obtain ⟨sent, -, count, heq⟩ := (s.emit _).acknowledgeNotification_eq n
      rw [heq]
      rfl
  | terminate =>
      cases Except.ok.inj hv
      exact terminate_parameters
  | createMonitoredItem r i =>
      obtain ⟨res, hc⟩ := step_createMonitoredItem hv
      obtain ⟨E, -, heq⟩ := createMonitoredItem_eq hc
      rw [heq]
      rfl
  | removeMonitoredItem i =>
      cases Except.ok.inj hv
      obtain ⟨E, -, heq⟩ := (s.emit _).removeMonitoredItem_eq i
      rw [heq]
      rfl
  | _ =>
      cases Except.ok.inj hv
      rfl

theorem step_maxNotificationsPerPublish {ctx : Context} {op : Op} (hv : step ctx s op = .ok t)
    (hop : ∀ p, op ≠ .modify p) : t.maxNotificationsPerPublish = s.maxNotificationsPerPublish :=
  congrArg (fun p => p.2.2.2) (step_parameters hv hop)

end Frame

/-! ## Runs whose requests keep the limit non-negative -/

/-- The operation is not a `modify` asking for a negative or omitted limit. -/
def Op.KeepsLimit : Op → Prop
  | .modify p => ∃ k, p.maxNotificationsPerPublish = some k ∧ 0 ≤ k
  | _ => True

theorem Reachable.limit_nonneg {ctx : Context} {s : Subscription}
    (h : Reachable ctx (fun _ op => op.KeepsLimit) s) : ∃ k, s.maxNotificationsPerPublish = some k ∧ 0 ≤ k := by
  induction h with
  | create o => exact ⟨_, rfl, adjustMaxNotificationsPerPublish_nonneg _⟩
  | @step s t op _ hop hv ih =>
      cases op with
      | modify p =>
          cases Except.ok.inj hv
          exact hop
      | _ =>
          obtain ⟨k, hk, h0⟩ := ih
          exact ⟨k, (step_maxNotificationsPerPublish hv (by simp)).trans hk, h0⟩

/-! ## The revised timing stays within its bounds -/

theorem RevisedTiming.of_parameters {s t : Subscription}
    (h : RevisedTiming s.publishingInterval s.maxKeepAliveCount s.lifeTimeCount)
    (he : t.parameters = s.parameters) :
    RevisedTiming t.publishingInterval t.maxKeepAliveCount t.lifeTimeCount := by
  simp only [Subscription.parameters, Prod.mk.injEq] at he
  rw [he.1, he.2.1, he.2.2.1]
  exact h

theorem Reachable.revisedTiming {ctx : Context} {A : Subscription → Op → Prop} {s : Subscription}
    (h : Reachable ctx A s) : RevisedTiming s.publishingInterval s.maxKeepAliveCount s.lifeTimeCount := by
  induction h with
  | create o => exact revisedTiming_adjust _ _ _
  | @step s t op _ _ hv ih =>
      cases op with
      | modify p =>
          cases Except.ok.inj hv
          exact revisedTiming_adjust _ _ _
      | _ => exact ih.of_parameters (step_parameters hv (by simp))

/-- From the constructor through any operations, `modify` with any requested values included,
the interval stays within 50 ms and 15 days, the keep-alive count within 2 and 12000, and the
lifetime count at least three keep-alive counts and five seconds of intervals; so the lifetime
count exceeds the keep-alive count, which is positive. -/
theorem revised_timing_within_bounds {ctx : Context} {A : Subscription → Op → Prop} {s : Subscription}
    (h : Reachable ctx A s) :
    50 ≤ s.publishingInterval ∧ s.publishingInterval ≤ 15*24*3600*1000 ∧
      2 ≤ s.maxKeepAliveCount ∧ s.maxKeepAliveCount ≤ 12000 ∧
      3 * s.maxKeepAliveCount ≤ s.lifeTimeCount ∧ ⌈5000 / s.publishingInterval⌉ ≤ s.lifeTimeCount ∧
      0 < s.maxKeepAliveCount ∧ s.maxKeepAliveCount < s.lifeTimeCount := by
  have t := h.revisedTiming
  exact ⟨t.interval_ge, t.interval_le, t.keepAlive_ge, t.keepAlive_le, t.three_mul_le, t.ceil_le,
    by linarith [t.keepAlive_ge], by linarith [t.keepAlive_ge, t.three_mul_le]⟩

/-- A construction asking for a negative interval, a zero keep-alive count and a negative
lifetime, then a `modify` that omits every request. -/
theorem revised_timing_within_bounds_after_modify :
    ∃ s, Reachable variableContext (fun _ _ => True) s ∧
      50 ≤ s.publishingInterval ∧ s.publishingInterval ≤ 15*24*3600*1000 ∧
      2 ≤ s.maxKeepAliveCount ∧ s.maxKeepAliveCount ≤ 12000 ∧
      3 * s.maxKeepAliveCount ≤ s.lifeTimeCount ∧ ⌈5000 / s.publishingInterval⌉ ≤ s.lifeTimeCount ∧
      0 < s.maxKeepAliveCount ∧ s.maxKeepAliveCount < s.lifeTimeCount := by
  have hr : Reachable variableContext (fun _ _ => True) _ :=
    (Reachable.create
      { publishingInterval := some (-5), maxKeepAliveCount := some 0, lifeTimeCount := some (-3) }).step
      trivial (show step variableContext _ (.modify {}) = .ok _ from rfl)
  exact ⟨_, hr, revised_timing_within_bounds hr⟩

/-- When every `modify` of the run asks for a non-negative limit, every tick returns, and so does
every `process_subscription` made while the engine holds a publish request. -/
theorem tick_returns_under_nonneg_limits {ctx : Context} {s : Subscription}
    (h : Reachable ctx (fun _ op => op.KeepsLimit) s) :
    (∀ c a, ∃ t, step ctx s (.tick c a) = .ok t) ∧
    ∀ c a, 0 < c → ∃ t, step ctx s (.processSubscription c a) = .ok t := by
  obtain ⟨k, hk, h0⟩ := h.limit_nonneg
  exact ⟨fun c a => @tick_ok_of_nonneg (s.emit (.invoked .tick)) c a k hk h0,
    fun c a hc => @processSubscription_ok_of_nonneg (s.emit (.invoked .processSubscription)) c a k hc hk h0⟩

theorem tick_returns_under_nonneg_limits_after_create :
    ∃ t, step variableContext (Subscription.create {}) (.tick 1 true) = .ok t :=
  (tick_returns_under_nonneg_limits (Reachable.create {})).1 1 true

/-! ## A `modify` without the clamp -/

/-- From an open state with nothing pending and a notification to harvest, a tick that finds a
publish request fails exactly as the harvest loop does under the stored limit. -/
theorem tick_of_collectLoop_error {s : Subscription} {c : ℕ} {a : Bool} {f : Fault}
    (hc : s.state ≠ .closed) (hx : (s.lifeTimeCounter : ℤ) + 1 < s.lifeTimeCount) (hpos : 0 < c)
    (he : s.publishingEnabled = true) (hp : s.pendingNotifications = [])
    (hi : s.monitoredItems.flatMap (·.queue) ≠ [])
    (hf : collectLoop s.maxNotificationsPerPublish (s.monitoredItems.flatMap (·.queue)).length
      (s.monitoredItems.flatMap (·.queue)) = .error f) : s.tick c a = .error f := by
  have hm : s.beginTick.hasMonitoredItemNotifications = true := by
    simp only [hasMonitoredItemNotifications, beginTick_monitoredItems, discardOldSentNotifications_monitoredItems,
      Bool.or_eq_true, List.any_eq_true, MonitoredItem.hasMonitoredItemNotifications]
    exact .inr (by simpa [List.flatMap_eq_nil_iff, List.isEmpty_iff] using hi)
  set v : Subscription := { s.beginTick with hasMonitoredItemNotificationsCache := true }
  have hv : v.harvestMonitoredItems = .error f := by
    simp only [harvestMonitoredItems, collectNotificationData]
    rw [show v.monitoredItems = s.monitoredItems from rfl,
      show v.maxNotificationsPerPublish = s.maxNotificationsPerPublish from rfl, hf]
  rw [tick_of_monitored hc (by simp [lifeTimeHasExpired]; omega) hpos hp hm,
    @processSubscription_of_monitored v c a hpos he hp (by simp [v, hasMonitoredItemNotifications]), hv]
  rfl

/-- `modify` stores a negative or an omitted limit as it is, and the next tick with a sampled
value to harvest does not return: it loops forever, or it fails the assertion on the number of
`notificationData` entries. -/
theorem modify_stores_unclamped_limit :
    (∃ s, Reachable variableContext ServedEngine s ∧ s.maxNotificationsPerPublish = some (-1) ∧
      step variableContext s (.tick 1 true) = .error .diverges) ∧
    (∃ s, Reachable variableContext ServedEngine s ∧ s.maxNotificationsPerPublish = none ∧
      step variableContext s (.tick 1 true) =
        .error (.assertion "notifications.length === 1 || notifications.length === 2")) := by
  have hfail : ∀ m : Option ℤ, m = some (-1) ∨ m = none → ∃ s, Reachable variableContext ServedEngine s ∧
      s.maxNotificationsPerPublish = m ∧ s.state ≠ .closed ∧ s.publishingEnabled = true ∧
      s.pendingNotifications = [] ∧ s.monitoredItems.flatMap (·.queue) ≠ [] ∧
      (s.lifeTimeCounter : ℤ) + 1 < s.lifeTimeCount := by
    intro m hm
    have hmod := (Reachable.create {} : Reachable variableContext ServedEngine _).step
      (show ServedEngine _ (.modify { maxNotificationsPerPublish := m }) from ⟨trivial, trivial⟩)
      (congrArg Except.ok (modify_of_defaults _ rfl rfl rfl rfl
        (by simp [Subscription.create_of_defaults {} rfl rfl rfl])))
    obtain ⟨s, hs, hp⟩ := hmod.exists_of_run (fun t op hop => by
        simp only [List.mem_cons, List.mem_singleton, List.not_mem_nil, or_false] at hop
        rcases hop with rfl | rfl <;> exact ⟨trivial, trivial⟩)
      (show (run variableContext _ [.createMonitoredItem valueRequest 1, .sample 1 sampledValue]).toOption.any
        (fun s => s.maxNotificationsPerPublish == m && s.state != .closed && s.publishingEnabled &&
          s.pendingNotifications.isEmpty && !(s.monitoredItems.flatMap (·.queue)).isEmpty &&
          decide ((s.lifeTimeCounter : ℤ) + 1 < s.lifeTimeCount)) = true by
        rw [Subscription.create_of_defaults _ rfl rfl rfl]
        rcases hm with rfl | rfl <;> decide)
    simp only [Bool.and_eq_true, beq_iff_eq, bne_iff_ne, ne_eq, List.isEmpty_iff, Bool.not_eq_true',
      decide_eq_true_eq] at hp
    exact ⟨s, hs, hp.1.1.1.1.1, hp.1.1.1.1.2, hp.1.1.1.2, hp.1.1.2, by simpa [List.isEmpty_iff] using hp.1.2, hp.2⟩
  obtain ⟨s, hs, hmax, hc, he, hp, hi, hx⟩ := hfail _ (.inl rfl)
  obtain ⟨u, hu, hmax', hc', he', hp', hi', hx'⟩ := hfail _ (.inr rfl)
  refine ⟨⟨s, hs, hmax, @tick_of_collectLoop_error (s.emit (.invoked .tick)) 1 true _ hc hx one_pos he hp hi ?_⟩,
    ⟨u, hu, hmax', @tick_of_collectLoop_error (u.emit (.invoked .tick)) 1 true _ hc' hx' one_pos he' hp' hi' ?_⟩⟩
  · rw [show (s.emit (.invoked .tick)).maxNotificationsPerPublish = some (-1) from hmax]
    exact collectLoop_of_neg (by norm_num) _ _ hi (List.length_pos.mpr hi)
  · rw [show (u.emit (.invoked .tick)).maxNotificationsPerPublish = none from hmax']
    exact collectLoop_none _ _ hi' (List.length_pos.mpr hi')

end OpcuaServer
