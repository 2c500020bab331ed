import OpcuaServer.Limits

/-!
# Serving a subscription: messages and keep-alives

A publishing cycle served by an engine that holds a request and accepts keep-alives does one of
three things (`CycleOutcome`): it dispatches the oldest pending message, it sends a keep-alive,
or it only counts one more interval on the keep-alive counter. Which one depends on the state:
with publishing enabled and something to publish (a pending message, or a monitored item with
notifications) the cycle dispatches; otherwise the keep-alive procedure sends once the counter
reaches `maxKeepAliveCount`. A LATE subscription served by a request therefore leaves LATE
exactly when it has something to publish or its keep-alive is due (`late_subscription_served`);
with publishing disabled it only counts an interval and stays LATE with a buffered notification,
although the comment on the LATE state says the next request is processed and the keep-alive
counter is not used (`late_disabled_subscription_stays_late`).

`ticksSinceMessage` reads the keep-alive count off the trace: `none` until the first tick after
creation or `modify`, then the ticks since the last message or keep-alive, or since an external
`resetLifeTimeAndKeepAliveCounters`. In a served run the keep-alive counter equals it, which gives
the cadence of messages; when every `modify` of the run keeps the limit on notifications
non-negative, every tick returns, so the cadence is kept (`tick_sends_on_keepAlive_cadence`).
-/

namespace OpcuaServer

open Subscription

/-- The keep-alive count after an event, from `n` before it. -/
def Event.keepAliveStep : Option ℕ → Event → Option ℕ
  | _, invoked .modify => none
  | _, invoked .resetLifeTimeAndKeepAliveCounters => some 0
  | _, sendNotificationMessage _ _ _ _ false | _, keepalive _ => some 0
  | n, onTick => n.map (·+1)
  | n, _ => n

/-- `none` until the first tick after creation or `modify`; then the ticks since the last message
or keep-alive sent, or since an external reset of the counters. -/
def ticksSinceMessage (t : List Event) : Option ℕ := t.foldl Event.keepAliveStep none

@[simp] theorem ticksSinceMessage_append (t E : List Event) :
    ticksSinceMessage (t ++ E) = E.foldl Event.keepAliveStep (ticksSinceMessage t) :=
  List.foldl_append _ _ _ _

/-- Publishing is enabled, and a message is pending or a monitored item holds notifications. -/
def HasPublishable (s : Subscription) : Prop :=
  s.publishingEnabled = true ∧ (s.pendingNotifications ≠ [] ∨ ∃ m ∈ s.monitoredItems, m.queue ≠ [])

/-- Events that publish nothing and leave the keep-alive count. -/
def Event.Silent (e : Event) : Prop :=
  e.dispatched = [] ∧ (∀ k, e ≠ .keepalive k) ∧ ∀ x, e.keepAliveStep x = x

theorem foldl_keepAliveStep_silent {A : List Event} (hA : ∀ e ∈ A, e.Silent) (x : Option ℕ) :
    A.foldl Event.keepAliveStep x = x := by
  induction A generalizing x with
  | nil => rfl
  | cons e A ih =>
      rw [List.foldl_cons, (hA e (.head _)).2.2 x]
      exact ih (fun e he => hA e (.tail _ he)) x

theorem dispatched_silent {A : List Event} (hA : ∀ e ∈ A, e.Silent) : dispatched A = [] := by
  simpa [dispatched, List.flatMap_eq_nil_iff] using fun e he => (hA e he).1

/-- One cycle from `t` to `t'` through the events `E`: a dispatch, a keep-alive, or one more
interval counted. -/
def CycleOutcome (t t' : Subscription) (E : List Event) : Prop :=
  t'.maxKeepAliveCount = t.maxKeepAliveCount ∧
  ((dispatched E ≠ [] ∧ (∀ k, .keepalive k ∉ E) ∧ t'.keepAliveCounter = 0 ∧ t'.state = .normal ∧
      ∀ x, E.foldl Event.keepAliveStep x = some 0) ∨
   (dispatched E = [] ∧ t.maxKeepAliveCount ≤ t.keepAliveCounter + 1 ∧ (∃ k, .keepalive k ∈ E) ∧
      t'.keepAliveCounter = 0 ∧ t'.state = .keepalive ∧ ∀ x, E.foldl Event.keepAliveStep x = some 0) ∨
   (dispatched E = [] ∧ t.keepAliveCounter + 1 < t.maxKeepAliveCount ∧ (∀ k, .keepalive k ∉ E) ∧
      t'.keepAliveCounter = t.keepAliveCounter + 1 ∧ t'.state = t.state ∧
      ∀ x, E.foldl Event.keepAliveStep x = x))

namespace CycleOutcome

variable {t u t' : Subscription} {E : List Event}

/-- An outcome reads only the counters and the state it starts from. -/
theorem congr_left (h : CycleOutcome u t' E) (h₁ : u.keepAliveCounter = t.keepAliveCounter)
    (h₂ : u.maxKeepAliveCount = t.maxKeepAliveCount) (h₃ : u.state = t.state) :
    CycleOutcome t t' E := by
  rwa [CycleOutcome, ← h₁, ← h₂, ← h₃]

theorem prepend (h : CycleOutcome t t' E) {A : List Event} (hA : ∀ e ∈ A, e.Silent) :
    CycleOutcome t t' (A ++ E) := by
  have hk : ∀ k, .keepalive k ∉ A := fun k hk => (hA _ hk).2.1 k rfl
  simpa only [CycleOutcome, dispatched_append, dispatched_silent hA, List.nil_append, List.mem_append,
    hk, false_or, List.foldl_append, foldl_keepAliveStep_silent hA] using h

end CycleOutcome

theorem processKeepAlive_outcome (t : Subscription) : ∃ E,
    (t.processKeepAlive true).trace = t.trace ++ E ∧ dispatched E = [] ∧
    CycleOutcome t (t.processKeepAlive true) E := by
  by_cases hk : t.keepAliveCounter+1 < t.maxKeepAliveCount
  · rw [processKeepAlive_of_lt hk]
    exact ⟨[], by simp, rfl, rfl, .inr (.inr ⟨rfl, hk, by simp, rfl, rfl, fun _ => rfl⟩)⟩
  · rw [processKeepAlive_of_ge_accepted (not_lt.mp hk)]
    refine ⟨_, rfl, by simp [Event.dispatched], rfl, .inr (.inl ?_)⟩
    exact ⟨by simp [Event.dispatched], not_lt.mp hk, ⟨t.sequenceNumberGenerator.counter, by simp⟩, rfl, rfl,
      fun _ => by simp [Event.keepAliveStep]⟩

theorem dispatch_outcome {t : Subscription} (hp : t.pendingNotifications ≠ [])
    (hc : t.state ≠ .closed) : ∃ E, t.dispatch.trace = t.trace ++ E ∧ dispatched E ≠ [] ∧
    CycleOutcome t t.dispatch E := by
  obtain ⟨e, rest, he⟩ := List.exists_cons_of_ne_nil hp
  rw [dispatch_of_cons he]
  refine ⟨_, List.append_assoc _ _ _, by split_ifs <;> simp [Event.dispatched], rfl, .inl ⟨?_, ?_,
    rfl, by simp [hc], ?_⟩⟩ <;> split_ifs <;> simp [Event.dispatched, Event.keepAliveStep]

/-- After a harvest from an empty pending queue, something is pending exactly when a monitored
item held notifications. -/
theorem harvest_pending_iff {t u : Subscription} (hv : t.harvestMonitoredItems = .ok u)
    (hp : t.pendingNotifications = []) :
    u.pendingNotifications ≠ [] ↔ ∃ m ∈ t.monitoredItems, m.queue ≠ [] := by
  obtain ⟨bodies, hc, rfl⟩ := t.harvestMonitoredItems_eq hv
  have hq : (∃ m ∈ t.monitoredItems, m.queue ≠ []) ↔ t.monitoredItems.flatMap (·.queue) ≠ [] := by
    simp [List.flatMap_eq_nil_iff]
  rw [hq, hp, List.nil_append, ne_eq, ← List.length_eq_zero, numberBodies_length, List.length_eq_zero]
  constructor
  · intro hb hnil
    rw [hnil] at hc
    simp [collectLoop] at hc
    exact hb hc
  · exact collectLoop_ne_nil hc

theorem harvest_silent {t u : Subscription} (hv : t.harvestMonitoredItems = .ok u) :
    ∃ A, u.trace = t.trace ++ A ∧ (∀ e ∈ A, e.Silent) ∧ u.keepAliveCounter = t.keepAliveCounter ∧
      u.maxKeepAliveCount = t.maxKeepAliveCount ∧ u.state = t.state ∧
      u.publishingEnabled = t.publishingEnabled := by
  obtain ⟨bodies, -, rfl⟩ := t.harvestMonitoredItems_eq hv
  refine ⟨_, rfl, fun e he => ?_, rfl, rfl, rfl, rfl⟩
  obtain ⟨x, -, rfl⟩ := List.mem_map.mp he
  exact ⟨rfl, fun _ h => Event.noConfusion h, fun _ => rfl⟩

/-- A served `process_subscription` on an open subscription: the outcome, and it dispatches
exactly when there is something to publish. -/
theorem processSubscription_outcome {t t' : Subscription} {c : ℕ} (hc : t.state ≠ .closed)
    (hv : t.processSubscription c true = .ok t') :
    ∃ E, t'.trace = t.trace ++ E ∧ (dispatched E ≠ [] ↔ HasPublishable t) ∧ CycleOutcome t t' E := by
  obtain ⟨-, ⟨he, rfl⟩ | ⟨he, u, hu, ⟨hp, rfl⟩ | ⟨hp, rfl⟩⟩⟩ := processSubscription_cases hv
  · obtain ⟨E, ht, hd, ho⟩ := processKeepAlive_outcome t
    exact ⟨E, ht, by simp [hd, HasPublishable, he], ho⟩
  · obtain ⟨rfl, hpm⟩ | ⟨ht, hm, hv⟩ := hu
    · obtain ⟨E, ht, hd, ho⟩ := dispatch_outcome hp hc
      exact ⟨E, ht, iff_of_true hd ⟨he, .inl hp⟩, ho⟩
    · obtain ⟨A, hA, hs, hk, hmk, hst, -⟩ := harvest_silent hv
      obtain ⟨E, ht', hd, ho⟩ := dispatch_outcome hp (hst.trans_ne hc)
      refine ⟨A ++ E, by rw [ht', hA, List.append_assoc], iff_of_true ?_ ⟨he, .inr ?_⟩,
        (ho.prepend hs).congr_left hk hmk hst⟩
      · rwa [dispatched_append, dispatched_silent hs, List.nil_append]
      · exact (harvest_pending_iff hv ht).mp hp
  · obtain ⟨E, ht, hd, ho⟩ := processKeepAlive_outcome u
    obtain ⟨rfl, hpm⟩ | ⟨ht', hm, hv⟩ := hu
    · refine ⟨E, ht, iff_of_false (by simpa using hd) ?_, ho⟩
      rintro ⟨-, hne | ⟨m, hm, hq⟩⟩
      · exact hne hp
      · simp only [hp, ne_eq, not_true_eq_false, false_or, hasMonitoredItemNotifications,
          Bool.or_eq_false_iff, List.any_eq_false] at hpm
        exact hpm.2 m hm (by simpa [MonitoredItem.hasMonitoredItemNotifications, List.isEmpty_iff] using hq)
    · obtain ⟨A, hA, hs, hk, hmk, hst, -⟩ := harvest_silent hv
      refine ⟨A ++ E, by rw [ht, hA, List.append_assoc], iff_of_false ?_ ?_,
        (ho.prepend hs).congr_left hk hmk hst⟩
      · rw [dispatched_append, dispatched_silent hs, List.nil_append, hd]
        exact fun h => h rfl
      · rintro ⟨-, hne | hq⟩
        · exact hne ht'
        · exact ((harvest_pending_iff hv ht').mpr hq) hp

/-- Whether there is something to publish depends on three fields only. -/
theorem HasPublishable.congr {u t : Subscription} (h₁ : u.publishingEnabled = t.publishingEnabled)
    (h₂ : u.pendingNotifications = t.pendingNotifications) (h₃ : u.monitoredItems = t.monitoredItems) :
    HasPublishable u ↔ HasPublishable t := by
  rw [HasPublishable, HasPublishable, h₁, h₂, h₃]

/-- A served tick on an open subscription that does not expire it. -/
theorem tick_outcome {t t' : Subscription} {c : ℕ} (hc : t.state ≠ .closed)
    (hx : ¬t.beginTick.lifeTimeHasExpired) (hpos : 0 < c) (hv : t.tick c true = .ok t') :
    ∃ E, t'.trace = t.trace ++ .onTick :: E ∧ (dispatched E ≠ [] ↔ HasPublishable t) ∧
      CycleOutcome t t' E := by
  have hc₁ : t.beginTick.state ≠ .closed := by simpa using hc
  obtain ⟨hc₂, -⟩ | ⟨-, hx', -⟩ | ⟨-, -, hv⟩ := tick_cases hv
  · exact absurd hc₂ hc
  · exact absurd hx' hx
  obtain ⟨rfl, -⟩ | ⟨rfl, -⟩ | ⟨hp, hm, rfl⟩ | ⟨-, -, hv⟩ | ⟨-, -, -, hv⟩ := hv
  · exact absurd hpos (lt_irrefl 0)
  · exact absurd hpos (lt_irrefl 0)
  · obtain ⟨E, ht, hd, ho⟩ := processKeepAlive_outcome t.beginTick
    refine ⟨E, by simp [ht], iff_of_false (by simpa using hd) ?_, ho.congr_left rfl rfl rfl⟩
    rintro ⟨-, hne | ⟨m, hm', hq⟩⟩
    · exact hne hp
    · simp only [hasMonitoredItemNotifications, Bool.or_eq_false_iff, List.any_eq_false] at hm
      exact hm.2 m hm' (by simpa [MonitoredItem.hasMonitoredItemNotifications, List.isEmpty_iff] using hq)
  · obtain ⟨E, ht, hd, ho⟩ := processSubscription_outcome hc₁ hv
    exact ⟨E, by simp [ht], hd.trans (HasPublishable.congr rfl rfl rfl), ho.congr_left rfl rfl rfl⟩
  · have hc₃ : ({ t.beginTick with hasMonitoredItemNotificationsCache := true }).state ≠ .closed := hc₁
    obtain ⟨E, ht, hd, ho⟩ := processSubscription_outcome hc₃ hv
    exact ⟨E, by simp [ht], hd.trans (HasPublishable.congr rfl rfl rfl), ho.congr_left rfl rfl rfl⟩

/-- What a served outcome from a LATE state does. -/
theorem CycleOutcome.from_late {t t' : Subscription} {E : List Event} (h : CycleOutcome t t' E)
    (hd : dispatched E ≠ [] ↔ HasPublishable t) (hl : t.state = .late) :
    (HasPublishable t → dispatched E ≠ [] ∧ (∀ k, .keepalive k ∉ E) ∧ t'.state = .normal) ∧
    (¬HasPublishable t → dispatched E = [] ∧
      (t.maxKeepAliveCount ≤ t.keepAliveCounter + 1 → (∃ k, .keepalive k ∈ E) ∧ t'.state = .keepalive) ∧
      (t.keepAliveCounter + 1 < t.maxKeepAliveCount → (∀ k, .keepalive k ∉ E) ∧ t'.state = .late)) := by
  obtain ⟨-, ⟨h1, h2, -, h4, -⟩ | ⟨h1, h2, h3, -, h5, -⟩ | ⟨h1, h2, h3, -, h5, -⟩⟩ := h
  · exact ⟨fun _ => ⟨h1, h2, h4⟩, fun hp => absurd (hd.mp h1) hp⟩
  · exact ⟨fun hp => absurd (hd.mpr hp) (by simpa using h1), fun _ => ⟨h1, fun _ => ⟨h3, h5⟩,
      fun hk => absurd h2 (not_le.mpr hk)⟩⟩
  · exact ⟨fun hp => absurd (hd.mpr hp) (by simpa using h1), fun _ => ⟨h1, fun hk => absurd hk
      (not_le.mpr h2), fun _ => ⟨h3, h5.trans hl⟩⟩⟩

/-- A LATE subscription under a non-negative limit, served by a publish request on a
`process_subscription` call or a tick, returns. A tick that expires it ends it CLOSED; otherwise,
with publishing enabled and something to publish it dispatches a message and goes NORMAL, and
without it runs the keep-alive procedure, which sends a keep-alive and goes KEEPALIVE once the
counter is due, and leaves it LATE before that. -/
theorem late_subscription_served {ctx : Context} {s : Subscription} {op : Op} {c : ℕ} {k : ℤ}
    (hl : s.state = .late) (hop : op = .tick c true ∨ op = .processSubscription c true) (hc : 0 < c)
    (hmax : s.maxNotificationsPerPublish = some k) (hk : 0 ≤ k) :
    ∃ s', step ctx s op = .ok s' ∧
    ((op = .tick c true ∧ s.beginTick.lifeTimeHasExpired ∧ s'.state = .closed) ∨
    ∃ E, s'.trace = s.trace ++ E ∧
      (HasPublishable s → dispatched E ≠ [] ∧ (∀ k, .keepalive k ∉ E) ∧ s'.state = .normal) ∧
      (¬HasPublishable s → dispatched E = [] ∧
        (s.maxKeepAliveCount ≤ s.keepAliveCounter + 1 → (∃ k, .keepalive k ∈ E) ∧ s'.state = .keepalive) ∧
        (s.keepAliveCounter + 1 < s.maxKeepAliveCount → (∀ k, .keepalive k ∉ E) ∧ s'.state = .late))) := by
  rcases hop with rfl | rfl
  · obtain ⟨s', hv⟩ := @tick_ok_of_nonneg (s.emit (.invoked .tick)) c true k hmax hk
    refine ⟨s', hv, ?_⟩
    have hc₀ : (s.emit (.invoked .tick)).state ≠ .closed := by simp [hl]
    by_cases hx : s.beginTick.lifeTimeHasExpired
    · obtain ⟨hc', -⟩ | ⟨-, -, rfl⟩ | ⟨-, hx', -⟩ := tick_cases hv
      · exact absurd hc' hc₀
      · obtain ⟨E, -, heq⟩ := @expire_of_ne_closed ((s.emit (.invoked .tick)).beginTick) hc₀
        exact .inl ⟨rfl, hx, by rw [heq]⟩
      · exact absurd hx hx'
    · obtain ⟨E, ht, hd, ho⟩ := tick_outcome hc₀ hx hc hv
      refine .inr ⟨.invoked .tick :: .onTick :: E, by simp [ht], ?_⟩
      have hp : HasPublishable (s.emit (.invoked .tick)) ↔ HasPublishable s := HasPublishable.congr rfl rfl rfl
      simpa only [hp, emit_keepAliveCounter, emit_maxKeepAliveCount, dispatched_cons, Event.dispatched,
        List.nil_append, List.mem_cons, reduceCtorEq, false_or] using ho.from_late hd hl
  · obtain ⟨s', hv⟩ := @processSubscription_ok_of_nonneg (s.emit (.invoked .processSubscription)) c true k hc
      hmax hk
    refine ⟨s', hv, .inr ?_⟩
    have hc₀ : (s.emit (.invoked .processSubscription)).state ≠ .closed := by simp [hl]
    obtain ⟨E, ht, hd, ho⟩ := processSubscription_outcome hc₀ hv
    refine ⟨.invoked .processSubscription :: E, by simp [ht], ?_⟩
    have hp : HasPublishable (s.emit (.invoked .processSubscription)) ↔ HasPublishable s :=
      HasPublishable.congr rfl rfl rfl
    simpa only [hp, emit_keepAliveCounter, emit_maxKeepAliveCount, dispatched_cons, Event.dispatched,
      List.nil_append, List.mem_cons, reduceCtorEq, false_or] using ho.from_late hd hl

/-- Publishing disabled: an accepted keep-alive resets the counter, a tick without a request finds
a buffered notification and sets LATE, and the next tick, served by a request, only counts one
more interval on the keep-alive counter: it sends nothing and the subscription stays LATE. -/
theorem late_disabled_subscription_stays_late :
    ∃ s s', Reachable variableContext (fun _ _ => True) s ∧ s.state = .late ∧
      s.publishingEnabled = false ∧ s.hasMonitoredItemNotifications = true ∧
      step variableContext s (.tick 1 true) = .ok s' ∧ s'.state = .late ∧
      s'.keepAliveCounter = s.keepAliveCounter + 1 ∧ s'.trace = s.trace ++ [.invoked .tick, .onTick] := by
  have hrun : (run variableContext (Subscription.create { publishingEnabled := some false })
      [.tick 1 true, .createMonitoredItem valueRequest 1, .sample 1 (.monitoredItemNotification 1 7),
       .tick 0 true]).toOption.any
      (fun s => s.state == .late && !s.publishingEnabled && s.hasMonitoredItemNotifications &&
        (step variableContext s (.tick 1 true)).toOption.any
        fun s' => s'.state == .late && s'.keepAliveCounter == s.keepAliveCounter + 1 &&
          s'.trace == s.trace ++ [.invoked .tick, .onTick]) = true := by
    rw [Subscription.create_of_defaults _ rfl rfl rfl]
    decide
  obtain ⟨s, hs, hp⟩ := (Reachable.create _ : Reachable variableContext (fun _ _ => True) _).exists_of_run
    (fun _ _ _ => trivial) hrun
  simp only [Bool.and_eq_true, beq_iff_eq, Bool.not_eq_true'] at hp
  obtain ⟨s', hv, hp'⟩ := exists_ok_of_any hp.2
  simp only [Bool.and_eq_true, beq_iff_eq] at hp'
  exact ⟨s, s', hs, hp.1.1.1, hp.1.1.2, hp.1.2, hv, hp'.1.1, hp'.1.2, hp'.2⟩

/-! ## The cadence of a served subscription -/

/-- The keep-alive counter of a served subscription is the count read off the trace. -/
structure KeepAliveInv (s : Subscription) : Prop where
  not_late : s.state ≠ .late
  counter : s.keepAliveCounter = (ticksSinceMessage s.trace).elim s.maxKeepAliveCount Nat.cast
  lt : ∀ n, ticksSinceMessage s.trace = some n → (n : ℤ) < s.maxKeepAliveCount

namespace KeepAliveInv

variable {s t : Subscription}

/-- Steps that add only events leaving the count, and keep the counters. -/
theorem silent (h : KeepAliveInv s) (A : List Event) (hA : ∀ e ∈ A, ∀ x, e.keepAliveStep x = x)
    (ht : t.trace = s.trace ++ A) (hs : t.state ≠ .late) (hk : t.keepAliveCounter = s.keepAliveCounter)
    (hm : t.maxKeepAliveCount = s.maxKeepAliveCount) : KeepAliveInv t := by
  have hf : ticksSinceMessage t.trace = ticksSinceMessage s.trace := by
    rw [ht, ticksSinceMessage_append]
    clear ht
    induction A generalizing s with
    | nil => rfl
    | cons e A ih =>
        rw [List.foldl_cons, hA e (.head _)]
        exact ih h (fun e he => hA e (.tail _ he)) hk hm
  exact ⟨hs, by rw [hk, hm, hf, h.counter], by rw [hf, hm]; exact h.lt⟩

theorem emit (h : KeepAliveInv s) (e : Event) (he : ∀ x, e.keepAliveStep x = x) :
    KeepAliveInv (s.emit e) :=
  h.silent [e] (by simpa using he) rfl h.not_late rfl rfl

theorem tick (h : KeepAliveInv s) (hc : CounterInv 0 s) {c : ℕ} (hpos : 0 < c)
    (hv : s.tick c true = .ok t) : KeepAliveInv t := by
  by_cases hcl : s.state = .closed
  · obtain ⟨-, rfl⟩ | ⟨hc', -⟩ | ⟨hc', -⟩ := tick_cases hv
    exacts [h, absurd hcl hc', absurd hcl hc']
  obtain ⟨E, ht, -, hm, ho⟩ := tick_outcome hcl hc.not_expired hpos hv
  have hf : ticksSinceMessage t.trace = E.foldl Event.keepAliveStep
      ((ticksSinceMessage s.trace).map (·+1)) := by
    rw [ht, ticksSinceMessage_append, List.foldl_cons]
    rfl
  have two := hc.two_le
  rcases ho with ⟨-, -, hk, hs, hE⟩ | ⟨-, -, -, hk, hs, hE⟩ | ⟨-, hlt, -, hk, hs, hE⟩
  · exact ⟨by simp [hs], by simp [hf, hE, hk], by simp [hf, hE, hm]; omega⟩
  · exact ⟨by simp [hs], by simp [hf, hE, hk], by simp [hf, hE, hm]; omega⟩
  · refine ⟨hs.trans_ne h.not_late, ?_, ?_⟩ <;> rw [hf, hE, hm] <;>
      cases hn : ticksSinceMessage s.trace with
      | none =>
          have := h.counter
          simp only [hn, Option.elim_none] at this
          omega
      | some n =>
          have := h.counter
          simp only [hn, Option.elim_some] at this
          simp only [Option.map_some', Option.elim_some, Option.some.injEq, forall_eq', hk]
          push_cast
          omega

theorem step (h : KeepAliveInv s) (hc : CounterInv 0 s) {ctx : Context} {op : Op}
    (hop : op.Served ∧ op.Promised s) (hv : OpcuaServer.step ctx s op = .ok t) : KeepAliveInv t := by
  cases op with
  | tick c a =>
      obtain ⟨⟨hpos, rfl⟩, -⟩ := hop
      have hc₀ : CounterInv 0 (s.emit (.invoked .tick)) := hc.congr rfl rfl rfl rfl
      exact (h.emit (.invoked .tick) fun _ => rfl).tick hc₀ hpos hv
  | processSubscription c a => exact absurd hop.2.1 h.not_late
  | modify p =>
      cases Except.ok.inj hv
      rw [modify_eq]
      exact ⟨h.not_late, by simp [Event.keepAliveStep, Op.call], by simp [Event.keepAliveStep, Op.call]⟩
  | setPublishingMode b =>
      cases Except.ok.inj hv
      refine h.silent [.invoked .setPublishingMode] (by simp [Event.keepAliveStep])
        (by rw [setPublishingMode_eq]; rfl)
        ?_ (by rw [setPublishingMode_eq]; rfl) (by rw [setPublishingMode_eq]; rfl)
      rw [setPublishingMode_eq]
      split_ifs <;> simp [h.not_late]
  | resetLifeTimeAndKeepAliveCounters =>
      cases Except.ok.inj hv
      have := hc.two_le
      exact ⟨h.not_late, by simp [Event.keepAliveStep, Op.call], by
        simp [Event.keepAliveStep, Op.call]; omega⟩
  | acknowledgeNotification n =>
      cases Except.ok.inj hv
      obtain ⟨sent, -, count, heq⟩ := (s.emit _).acknowledgeNotification_eq n
      rw [heq]
      exact h.silent [_] (by simp [Event.keepAliveStep, Op.call]) rfl h.not_late rfl rfl
  | notifyTransfer =>
      cases Except.ok.inj hv
      exact h.silent [_, _] (by simp [Event.keepAliveStep, Op.call]) (List.append_assoc _ _ _)
        h.not_late rfl rfl
  | terminate =>
      cases Except.ok.inj hv
      by_cases hcl : (s.emit (.invoked Op.terminate.call)).state = .closed
      · rw [terminate_of_closed hcl]
        exact h.silent [_] (by simp [Event.keepAliveStep, Op.call]) rfl h.not_late rfl rfl
      · obtain ⟨E, hE, heq⟩ := terminate_of_ne_closed hcl
        rw [heq]
        refine h.silent (.invoked .terminate :: E ++ [.terminated, .onCloseSubscription]) ?_
          (by simp [Op.call]) (by simp) rfl rfl
        intro e he x
        simp only [List.cons_append, List.mem_cons, List.mem_append, List.not_mem_nil, or_false] at he
        rcases he with rfl | he | rfl | rfl
        · rfl
        · obtain ⟨k, rfl⟩ := hE e he
          rfl
        · rfl
        · rfl
  | createMonitoredItem r i =>
      obtain ⟨res, hcr⟩ := step_createMonitoredItem hv
      obtain ⟨E, hE, heq⟩ := createMonitoredItem_eq hcr
      rw [heq]
      refine h.silent (.invoked .createMonitoredItem :: E) ?_ (by simp [Op.call]) h.not_late rfl rfl
      rcases hE with rfl | rfl <;> simp [Event.keepAliveStep]
  | removeMonitoredItem i =>
      cases Except.ok.inj hv
      obtain ⟨E, hE, heq⟩ := (s.emit _).removeMonitoredItem_eq i
      rw [heq]
      refine h.silent (.invoked .removeMonitoredItem :: E) ?_ (by simp [Op.call]) h.not_late rfl rfl
      rcases hE with rfl | rfl <;> simp [Event.keepAliveStep]
  | sample i n =>
      cases Except.ok.inj hv
      exact h.silent [.invoked .sample] (by simp [Event.keepAliveStep]) rfl h.not_late rfl rfl

theorem create (o : Options) : KeepAliveInv (Subscription.create o) :=
  ⟨by simp [Subscription.create], rfl, by simp [ticksSinceMessage, Subscription.create]⟩

end KeepAliveInv

theorem Reachable.keepAliveInv {ctx : Context} {s : Subscription}
    (h : Reachable ctx (fun s op => op.Served ∧ op.Promised s) s) : CounterInv 0 s ∧ KeepAliveInv s := by
  induction h with
  | create o => exact ⟨CounterInv.create o, KeepAliveInv.create o⟩
  | step _ hop hv ih => exact ⟨ih.1.step hop.1 hv, ih.2.step ih.1 hop hv⟩

/-- In a run where every tick finds a publish request, every keep-alive is accepted and every
`modify` asks for a non-negative limit, a tick on an open subscription returns; it sends at most
one of a message and a keep-alive; it sends one when it is the first tick since creation or
`modify`; and it sends a keep-alive exactly when it sends no message and it is the
`maxKeepAliveCount`-th tick since the last message, keep-alive or external reset of the counters,
a count that never passes `maxKeepAliveCount`. -/
theorem tick_sends_on_keepAlive_cadence {ctx : Context} {s : Subscription} {c : ℕ} {a : Bool}
    (h : Reachable ctx (fun s op => op.Served ∧ op.Promised s ∧ op.KeepsLimit) s) (hc : s.state ≠ .closed)
    (hop : (Op.tick c a).Served) :
    (∀ n, ticksSinceMessage s.trace = some n → (n : ℤ) < s.maxKeepAliveCount) ∧
    ∃ s' E, step ctx s (.tick c a) = .ok s' ∧ s'.trace = s.trace ++ .invoked .tick :: .onTick :: E ∧
      ¬(dispatched E ≠ [] ∧ ∃ k, .keepalive k ∈ E) ∧
      (ticksSinceMessage s.trace = none → dispatched E ≠ [] ∨ ∃ k, .keepalive k ∈ E) ∧
      ((∃ k, .keepalive k ∈ E) ↔ dispatched E = [] ∧
        ∀ n, ticksSinceMessage s.trace = some n → (n : ℤ) + 1 = s.maxKeepAliveCount) := by
  obtain ⟨hci, hk⟩ := (h.mono fun _ _ hA => ⟨hA.1, hA.2.1⟩).keepAliveInv
  obtain ⟨k, hmax, hk₀⟩ := (h.mono fun _ _ hA => hA.2.2).limit_nonneg
  obtain ⟨s', hv⟩ := @tick_ok_of_nonneg (s.emit (.invoked .tick)) c a k hmax hk₀
  obtain ⟨hpos, rfl⟩ := hop
  have hc₀ : CounterInv 0 (s.emit (.invoked .tick)) := hci.congr rfl rfl rfl rfl
  have hc₁ : (s.emit (.invoked .tick)).state ≠ .closed := by simpa using hc
  obtain ⟨E, ht, -, -, ho⟩ := tick_outcome hc₁ hc₀.not_expired hpos hv
  refine ⟨hk.lt, s', E, hv, by simp [ht], ?_⟩
  have hcount := hk.counter
  have hlt := hk.lt
  rcases ho with ⟨hd, hka, -⟩ | ⟨hd, hge, hka, -⟩ | ⟨hd, hlt', hka, -⟩
  · exact ⟨fun h => h.2.elim fun k hk' => hka k hk', fun _ => .inl hd,
      iff_of_false (fun ⟨k, hk'⟩ => hka k hk') fun h => hd h.1⟩
  · refine ⟨fun h => h.1 hd, fun _ => .inr hka, iff_of_true hka ⟨hd, fun n hn => ?_⟩⟩
    have := hlt n hn
    simp only [hn, Option.elim_some] at hcount
    simp only [emit_keepAliveCounter, emit_maxKeepAliveCount] at hge
    omega
  · cases hn : ticksSinceMessage s.trace with
    | none =>
        simp only [hn, Option.elim_none] at hcount
        simp only [emit_keepAliveCounter, emit_maxKeepAliveCount] at hlt'
        omega
    | some n =>
        simp only [hn, Option.elim_some] at hcount
        simp only [emit_keepAliveCounter, emit_maxKeepAliveCount] at hlt'
        refine ⟨fun h => h.1 hd, fun h => absurd h (by simp), iff_of_false (fun ⟨k, hk'⟩ => hka k hk')
          fun h => ?_⟩
        have := h.2 n rfl
        omega

/-- Two served ticks from creation: the first sends a keep-alive, and the third would send the
next one. -/
theorem tick_sends_on_keepAlive_cadence_third_tick :
    ∃ s, Reachable variableContext (fun s op => op.Served ∧ op.Promised s ∧ op.KeepsLimit) s ∧
      s.state ≠ .closed ∧ (Op.tick 1 true).Served ∧
      (∀ n, ticksSinceMessage s.trace = some n → (n : ℤ) < s.maxKeepAliveCount) ∧
      ∃ s' E, step variableContext s (.tick 1 true) = .ok s' ∧
        s'.trace = s.trace ++ .invoked .tick :: .onTick :: E ∧
        ¬(dispatched E ≠ [] ∧ ∃ k, .keepalive k ∈ E) ∧
        (ticksSinceMessage s.trace = none → dispatched E ≠ [] ∨ ∃ k, .keepalive k ∈ E) ∧
        ((∃ k, .keepalive k ∈ E) ↔ dispatched E = [] ∧
          ∀ n, ticksSinceMessage s.trace = some n → (n : ℤ) + 1 = s.maxKeepAliveCount) := by
  have hrun : (run variableContext (Subscription.create {}) [.tick 1 true, .tick 1 true]).toOption.any
      (fun s => s.state != .closed) = true := by
    rw [Subscription.create_of_defaults _ rfl rfl rfl]
    decide
  have hA : ∀ (t : Subscription), ∀ op ∈ [Op.tick 1 true, .tick 1 true],
      op.Served ∧ op.Promised t ∧ op.KeepsLimit := by
    intro t op hop
    simp only [List.mem_cons, List.mem_singleton, List.not_mem_nil, or_false, or_self] at hop
    subst hop
    exact ⟨⟨Nat.one_pos, rfl⟩, trivial, trivial⟩
  obtain ⟨s, hs, hp⟩ := (Reachable.create _ : Reachable variableContext _ _).exists_of_run hA hrun
  simp only [bne_iff_ne, ne_eq] at hp
  exact ⟨s, hs, hp, ⟨Nat.one_pos, rfl⟩, tick_sends_on_keepAlive_cadence hs hp ⟨Nat.one_pos, rfl⟩⟩

/-- Two served runs against the cadence as the spec words it. An external reset between two
ticks moves the next keep-alive: the second tick after the one that sent a keep-alive sends
nothing. And the first tick after a `modify` of a closed subscription sends nothing. -/
theorem keepAlive_cadence_moved_by_reset_or_close :
    (∃ ctx s s' t₁ t₂, Reachable ctx (fun s op => op.Served ∧ op.Promised s) s ∧
      s.maxKeepAliveCount = 2 ∧ s.trace = t₁ ++ .keepalive 1 :: t₂ ∧ t₂.count .onTick = 1 ∧
      (∀ e ∈ t₂, e.dispatched = [] ∧ ∀ k, e ≠ .keepalive k) ∧
      step ctx s (.tick 1 true) = .ok s' ∧ s'.trace = s.trace ++ [.invoked .tick, .onTick]) ∧
    (∃ ctx s s' t, Reachable ctx (fun s op => op.Served ∧ op.Promised s) s ∧
      s.trace = t ++ [.invoked .modify] ∧
      step ctx s (.tick 1 true) = .ok s' ∧ s'.trace = s.trace ++ [.invoked .tick]) := by
  have hA₁ : ∀ (t : Subscription), ∀ op ∈ [Op.tick 1 true, .tick 1 true, .resetLifeTimeAndKeepAliveCounters],
      op.Served ∧ op.Promised t := by
    intro t op hop
    simp only [List.mem_cons, List.mem_singleton, List.not_mem_nil, or_false] at hop
    rcases hop with rfl | rfl | rfl <;> exact ⟨by simp [Op.Served], trivial⟩
  have hA₂ : ∀ (t : Subscription), ∀ op ∈ [Op.terminate, .modify {}], op.Served ∧ op.Promised t := by
    intro t op hop
    simp only [List.mem_cons, List.mem_singleton, List.not_mem_nil, or_false] at hop
    rcases hop with rfl | rfl <;> exact ⟨trivial, trivial⟩
  have hreset : (run variableContext (Subscription.create {})
      [.tick 1 true, .tick 1 true, .resetLifeTimeAndKeepAliveCounters]).toOption.any
      (fun s => s.maxKeepAliveCount == 2 &&
        s.trace == [.invoked .tick, .onTick, .sendKeepAliveResponse 0 1 true] ++
          .keepalive 1 :: [.invoked .tick, .onTick, .invoked .resetLifeTimeAndKeepAliveCounters] &&
        (step variableContext s (.tick 1 true)).toOption.any
          fun s' => s'.trace == s.trace ++ [.invoked .tick, .onTick]) = true := by
    rw [Subscription.create_of_defaults _ rfl rfl rfl]
    decide
  have hclose : (run variableContext (Subscription.create {}) [.terminate, .modify {}]).toOption.any
      (fun s => s.trace == [.invoked .terminate, .terminated, .onCloseSubscription] ++ [.invoked .modify] &&
        (step variableContext s (.tick 1 true)).toOption.any
          fun s' => s'.trace == s.trace ++ [.invoked .tick]) = true := by
    rw [Subscription.create_of_defaults _ rfl rfl rfl]
    decide
  obtain ⟨s, hs, hp⟩ := (Reachable.create _ : Reachable variableContext _ _).exists_of_run hA₁ hreset
  obtain ⟨u, hu, hq⟩ := (Reachable.create _ : Reachable variableContext _ _).exists_of_run hA₂ hclose
  simp only [Bool.and_eq_true, beq_iff_eq] at hp hq
  obtain ⟨s', hv, hp'⟩ := exists_ok_of_any hp.2
  obtain ⟨u', hw, hq'⟩ := exists_ok_of_any hq.2
  simp only [beq_iff_eq] at hp' hq'
  have hquiet : ∀ e ∈ [Event.invoked .tick, .onTick, .invoked .resetLifeTimeAndKeepAliveCounters],
      e.dispatched = [] ∧ ∀ k, e ≠ .keepalive k := by
    intro e he
    simp only [List.mem_cons, List.mem_singleton, List.not_mem_nil, or_false] at he
    rcases he with rfl | rfl | rfl <;> simp [Event.dispatched]
  exact ⟨⟨_, s, s', _, _, hs, hp.1.1, hp.1.2, by decide, hquiet, hv, hp'⟩,
    ⟨_, u, u', _, hu, hq.1, hw, hq'⟩⟩

end OpcuaServer
