import OpcuaServer.Sequencing

/-!
# Publishing disabled

`setPublishingMode(false)` leaves the publishing cycle running: `_tick` still counts the lifetime
and the keep-alives, but `process_subscription` goes straight to the keep-alive procedure while
`publishingEnabled` is false, so no tick, re-tick or `process_subscription` call harvests the
monitored items or hands a message to the engine (`tick_monitoredItems_of_disabled`). Until
publishing is enabled again the pending queue stays as it is; only the lifetime expiry appends
its `BadTimeout` notice, and it closes the subscription.

`Muted s t` says what such a stretch does between two of its states. Every operation but
`setPublishingMode(true)` keeps it (`Muted.step`), and so does every run of them (`Muted.run`).
-/

namespace OpcuaServer

open Subscription

namespace Subscription

variable {s t : Subscription} {c : ℕ} {a : Bool}

@[simp] theorem processKeepAlive_monitoredItems (a : Bool) :
    (s.processKeepAlive a).monitoredItems = s.monitoredItems := by
  by_cases hk : s.keepAliveCounter+1 < s.maxKeepAliveCount
  · rw [processKeepAlive_of_lt hk]
  cases a
  · rw [processKeepAlive_of_ge_refused (not_lt.mp hk)]
  · rw [processKeepAlive_of_ge_accepted (not_lt.mp hk)]

theorem processSubscription_of_disabled (h : s.publishingEnabled = false)
    (hv : s.processSubscription c a = .ok t) : t = s.processKeepAlive a := by
  obtain ⟨-, ⟨-, rfl⟩ | ⟨he, -⟩⟩ := processSubscription_cases hv
  · rfl
  · exact absurd (h.symm.trans he) Bool.false_ne_true

/-- With publishing disabled a tick never drains the monitored items; only the expiry, which
closes the subscription, removes them. -/
theorem tick_monitoredItems_of_disabled (h : s.publishingEnabled = false) (hv : s.tick c a = .ok t) :
    t.monitoredItems = s.monitoredItems ∨ (t.state = .closed ∧ t.monitoredItems = []) := by
  rcases tick_cases hv with ⟨-, ht⟩ | ⟨hc, -, ht⟩ | ⟨-, -, hv⟩
  · exact .inl (congrArg _ ht)
  · obtain ⟨E, -, heq⟩ := @expire_of_ne_closed s.beginTick hc
    rw [ht, heq]
    exact .inr ⟨rfl, rfl⟩
  refine .inl ?_
  have hb : s.beginTick.publishingEnabled = false := h
  rcases hv with ⟨-, -, ht⟩ | ⟨-, -, -, ht⟩ | ⟨-, -, ht⟩ | ⟨-, -, hv⟩ | ⟨-, -, -, hv⟩
  iterate 2 rw [ht]; rfl
  · rw [ht, processKeepAlive_monitoredItems]; rfl
  · rw [processSubscription_of_disabled hb hv, processKeepAlive_monitoredItems]; rfl
  · have hc : ({ s.beginTick with hasMonitoredItemNotificationsCache := true } : Subscription).publishingEnabled =
        false := h
    rw [processSubscription_of_disabled hc hv, processKeepAlive_monitoredItems]; rfl

end Subscription

/-- From `s` to `t` publishing stays disabled. The trace grows by events that dispatch nothing and
enqueue nothing but `BadTimeout` notices. The pending queue only grows, and not at all unless
the subscription was terminated on the way. -/
structure Muted (s t : Subscription) : Prop where
  disabled : t.publishingEnabled = false
  trace : ∃ E, t.trace = s.trace ++ E ∧ dispatched E = [] ∧
    (∀ x ∈ enqueued E, x.2 = [.statusChangeNotification .badTimeout]) ∧
    (.terminated ∉ E → t.pendingNotifications = s.pendingNotifications)
  pending : s.pendingNotifications <+: t.pendingNotifications

/-- The item removals of `terminate` neither enqueue nor dispatch. -/
theorem enqueued_dispatched_of_removals {E : List Event} (hE : ∀ e ∈ E, ∃ k, e = .removeMonitoredItem k) :
    enqueued E = [] ∧ dispatched E = [] := by
  simp only [enqueued, dispatched, List.flatMap_eq_nil_iff]
  exact ⟨fun e he => by obtain ⟨k, rfl⟩ := hE e he; rfl, fun e he => by obtain ⟨k, rfl⟩ := hE e he; rfl⟩

namespace Muted

variable {s t u : Subscription}

theorem refl (h : s.publishingEnabled = false) : Muted s s :=
  ⟨h, ⟨[], by simp, rfl, by simp, fun _ => rfl⟩, List.prefix_refl _⟩

theorem trans (h₁ : Muted s t) (h₂ : Muted t u) : Muted s u := by
  obtain ⟨E₁, ht₁, hd₁, he₁, hp₁⟩ := h₁.trace
  obtain ⟨E₂, ht₂, hd₂, he₂, hp₂⟩ := h₂.trace
  refine ⟨h₂.disabled, ⟨E₁ ++ E₂, by rw [ht₂, ht₁, List.append_assoc], by simp [hd₁, hd₂], ?_, ?_⟩,
    h₁.pending.trans h₂.pending⟩
  · simp only [enqueued_append, List.mem_append]
    rintro x (hx | hx)
    exacts [he₁ x hx, he₂ x hx]
  · intro hE
    simp only [List.mem_append, not_or] at hE
    rw [hp₂ hE.2, hp₁ hE.1]

/-- A step that keeps publishing disabled and the pending queue, and emits events that neither
enqueue nor dispatch. -/
theorem of_quiet (hd : t.publishingEnabled = false) (E : List Event) (ht : t.trace = s.trace ++ E)
    (hq : enqueued E = []) (hdisp : dispatched E = [])
    (hp : t.pendingNotifications = s.pendingNotifications) : Muted s t :=
  ⟨hd, ⟨E, ht, hdisp, by simp [hq], fun _ => hp⟩, by rw [hp]⟩

theorem emit (h : s.publishingEnabled = false) (e : Event) (hq : e.enqueued = []) (hd : e.dispatched = []) :
    Muted s (s.emit e) :=
  of_quiet h [e] rfl (by simp [hq]) (by simp [hd]) rfl

theorem processKeepAlive (h : s.publishingEnabled = false) (a : Bool) : Muted s (s.processKeepAlive a) := by
  by_cases hk : s.keepAliveCounter+1 < s.maxKeepAliveCount
  · rw [processKeepAlive_of_lt hk]
    exact of_quiet h [] (List.append_nil _).symm rfl rfl rfl
  cases a
  · rw [processKeepAlive_of_ge_refused (not_lt.mp hk)]
    exact of_quiet h _ rfl rfl rfl rfl
  · rw [processKeepAlive_of_ge_accepted (not_lt.mp hk)]
    exact of_quiet h _ rfl rfl rfl rfl

theorem beginTick (h : s.publishingEnabled = false) : Muted s s.beginTick :=
  of_quiet h [.onTick] rfl rfl rfl rfl

/-- The expiry enqueues its `BadTimeout` notice and terminates. -/
theorem expire (h : s.publishingEnabled = false) (hc : s.state ≠ .closed) : Muted s s.expire := by
  obtain ⟨E, hE, heq⟩ := expire_of_ne_closed hc
  obtain ⟨hq, hd⟩ := enqueued_dispatched_of_removals hE
  rw [heq]
  refine ⟨h, ⟨[.expired, .added ⟨s.sequenceNumberGenerator.counter, [.statusChangeNotification .badTimeout], .inl rfl⟩] ++
    E ++ [.terminated, .onCloseSubscription], by simp only [List.append_assoc], ?_, ?_, fun hT => (hT (by simp)).elim⟩,
    List.prefix_append _ _⟩
  · simp [hd, Event.dispatched]
  · simp [hq, Event.enqueued, NotificationMessage.contents]

theorem terminate (h : s.publishingEnabled = false) : Muted s s.terminate := by
  by_cases hc : s.state = .closed
  · rw [terminate_of_closed hc]
    exact refl h
  obtain ⟨E, hE, heq⟩ := terminate_of_ne_closed hc
  obtain ⟨hq, hd⟩ := enqueued_dispatched_of_removals hE
  rw [heq]
  exact ⟨h, ⟨_, List.append_assoc _ _ _, by simp [hd, Event.dispatched], by simp [hq, Event.enqueued],
    fun hT => (hT (by simp)).elim⟩, List.prefix_refl _⟩

theorem processSubscription (h : s.publishingEnabled = false) {c : ℕ} {a : Bool}
    (hv : s.processSubscription c a = .ok t) : Muted s t := by
  obtain ⟨-, ⟨-, rfl⟩ | ⟨he, -⟩⟩ := processSubscription_cases hv
  · exact processKeepAlive h a
  · exact absurd (h.symm.trans he) Bool.false_ne_true

theorem tick (h : s.publishingEnabled = false) {c : ℕ} {a : Bool} (hv : s.tick c a = .ok t) : Muted s t := by
  have hb := beginTick h
  obtain ⟨-, rfl⟩ | ⟨hc, -, rfl⟩ | ⟨-, -, hv⟩ := tick_cases hv
  · exact refl h
  · exact hb.trans (expire hb.disabled hc)
  obtain ⟨-, -, rfl⟩ | ⟨-, -, -, rfl⟩ | ⟨-, -, rfl⟩ | ⟨-, -, hv⟩ | ⟨-, -, -, hv⟩ := hv
  · exact of_quiet h [.onTick] rfl rfl rfl rfl
  · exact of_quiet h [.onTick] rfl rfl rfl rfl
  · exact hb.trans (processKeepAlive hb.disabled a)
  · exact hb.trans (processSubscription hb.disabled hv)
  · have hcache : Muted s { s.beginTick with hasMonitoredItemNotificationsCache := true } :=
      of_quiet h [.onTick] rfl rfl rfl rfl
    exact hcache.trans (processSubscription hb.disabled hv)

/-- Every operation but `setPublishingMode(true)` keeps publishing disabled and the stretch muted. -/
theorem step (h : s.publishingEnabled = false) {ctx : Context} {op : Op}
    (hop : op ≠ .setPublishingMode true) (hv : OpcuaServer.step ctx s op = .ok t) : Muted s t := by
  have h0 := emit h (.invoked op.call) rfl rfl
  refine h0.trans ?_
  have hd := h0.disabled
  cases op with
  | tick c a => exact tick hd hv
  | processSubscription c a => exact processSubscription hd hv
  | modify p =>
      cases Except.ok.inj hv
      exact of_quiet hd [] (List.append_nil _).symm rfl rfl rfl
  | setPublishingMode b =>
      cases Except.ok.inj hv
      obtain rfl : b = false := by simpa using hop
      exact of_quiet (by rw [setPublishingMode_eq]) [] (by rw [setPublishingMode_eq, List.append_nil]) rfl rfl
        (by rw [setPublishingMode_eq])
  | resetLifeTimeAndKeepAliveCounters =>
      cases Except.ok.inj hv
      exact of_quiet hd [] (List.append_nil _).symm rfl rfl rfl
  | acknowledgeNotification n =>
      cases Except.ok.inj hv
      obtain ⟨sent, -, count, heq⟩ := (s.emit _).acknowledgeNotification_eq n
      rw [heq]
      exact of_quiet hd [] (List.append_nil _).symm rfl rfl rfl
  | notifyTransfer =>
      cases Except.ok.inj hv
      exact of_quiet hd _ rfl rfl rfl rfl
  | terminate =>
      cases Except.ok.inj hv
      exact terminate hd
  | createMonitoredItem r i =>
      obtain ⟨res, ht⟩ := step_createMonitoredItem hv
      obtain ⟨E, hE, heq⟩ := createMonitoredItem_eq ht
      rw [heq]
      obtain rfl | rfl := hE <;> exact of_quiet hd _ rfl rfl rfl rfl
  | removeMonitoredItem i =>
      cases Except.ok.inj hv
      obtain ⟨E, hE, heq⟩ := (s.emit _).removeMonitoredItem_eq i
      rw [heq]
      obtain rfl | rfl := hE <;> exact of_quiet hd _ rfl rfl rfl rfl
  | sample i n =>
      cases Except.ok.inj hv
      exact of_quiet hd [] (List.append_nil _).symm rfl rfl rfl

theorem run (h : s.publishingEnabled = false) {ctx : Context} {ops : List Op}
    (hops : .setPublishingMode true ∉ ops) (hr : OpcuaServer.run ctx s ops = .ok t) : Muted s t := by
  induction ops generalizing s with
  | nil =>
      cases hr
      exact refl h
  | cons op ops ih =>
      rw [List.mem_cons, not_or] at hops
      cases hs : OpcuaServer.step ctx s op with
      | error f => simp [OpcuaServer.run, hs, bind, Except.bind] at hr
      | ok u =>
          simp only [OpcuaServer.run, hs, bind, Except.bind] at hr
          have hu := step h (Ne.symm hops.1) hs
          exact hu.trans (ih hu.disabled hops.2 hr)

end Muted

/-- While publishing is disabled, neither a tick nor `process_subscription` harvests or dispatches,
and from the call that disables publishing to the one that enables it again no message is handed
to the engine through `_publish_pending_notifications`. The messages then pending stay pending,
unchanged and in order, until the subscription is terminated; only the expiry's `BadTimeout`
notice is enqueued behind them. -/
theorem publishing_disabled_sends_only_keepAlives {ctx : Context} {s t : Subscription} {ops : List Op}
    (hd : s.publishingEnabled = false) (hops : .setPublishingMode true ∉ ops) (hr : run ctx s ops = .ok t) :
    t.publishingEnabled = false ∧
    (∃ E, t.trace = s.trace ++ E ∧ dispatched E = [] ∧
      (∀ x ∈ enqueued E, x.2 = [.statusChangeNotification .badTimeout]) ∧
      (.terminated ∉ E → t.pendingNotifications = s.pendingNotifications)) ∧
    s.pendingNotifications <+: t.pendingNotifications ∧
    ∀ (u u' : Subscription) (c : ℕ) (a : Bool), u.publishingEnabled = false →
      (u.processSubscription c a = .ok u' → u' = u.processKeepAlive a) ∧
      (u.tick c a = .ok u' → u'.monitoredItems = u.monitoredItems ∨ (u'.state = .closed ∧ u'.monitoredItems = [])) :=
  have hm := Muted.run hd hops hr
  ⟨hm.disabled, hm.trace, hm.pending, fun _ _ _ _ hu =>
    ⟨processSubscription_of_disabled hu, tick_monitoredItems_of_disabled hu⟩⟩

theorem publishing_disabled_sends_only_keepAlives_after_sample :
    ∃ t, run variableContext (Subscription.create { publishingEnabled := some false })
        [.createMonitoredItem valueRequest 1, .sample 1 (.monitoredItemNotification 1 0), .tick 1 true,
         .processSubscription 1 true] = .ok t ∧
      (Subscription.create { publishingEnabled := some false }).publishingEnabled = false ∧
      .setPublishingMode true ∉ [Op.createMonitoredItem valueRequest 1, .sample 1 (.monitoredItemNotification 1 0),
        .tick 1 true, .processSubscription 1 true] ∧
      t.publishingEnabled = false ∧
      (∃ E, t.trace = (Subscription.create { publishingEnabled := some false }).trace ++ E ∧ dispatched E = [] ∧
        (∀ x ∈ enqueued E, x.2 = [.statusChangeNotification .badTimeout]) ∧
        (.terminated ∉ E → t.pendingNotifications =
          (Subscription.create { publishingEnabled := some false }).pendingNotifications)) ∧
      (Subscription.create { publishingEnabled := some false }).pendingNotifications <+: t.pendingNotifications ∧
      ∀ (u u' : Subscription) (c : ℕ) (a : Bool), u.publishingEnabled = false →
        (u.processSubscription c a = .ok u' → u' = u.processKeepAlive a) ∧
        (u.tick c a = .ok u' → u'.monitoredItems = u.monitoredItems ∨
          (u'.state = .closed ∧ u'.monitoredItems = [])) := by
  have hok : (run variableContext (Subscription.create { publishingEnabled := some false })
      [.createMonitoredItem valueRequest 1, .sample 1 (.monitoredItemNotification 1 0), .tick 1 true,
       .processSubscription 1 true]).toOption.isSome = true := by
    rw [Subscription.create_of_defaults _ rfl rfl rfl]
    decide
  obtain ⟨t, ht⟩ := Option.isSome_iff_exists.mp hok
  have hr : run variableContext (Subscription.create { publishingEnabled := some false })
      [.createMonitoredItem valueRequest 1, .sample 1 (.monitoredItemNotification 1 0), .tick 1 true,
       .processSubscription 1 true] = .ok t := by
    revert ht
    cases run variableContext _ _ <;> simp [Except.toOption]
  exact ⟨t, hr, rfl, by simp, publishing_disabled_sends_only_keepAlives rfl (by simp) hr⟩

end OpcuaServer
