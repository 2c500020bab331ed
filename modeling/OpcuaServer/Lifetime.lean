import OpcuaServer.Sequencing

/-!
# The lifetime of a subscription

`_tick` counts every publishing interval against the lifetime and ends the subscription once
`_life_time_counter` reaches `lifeTimeCount`. A dispatched message, an accepted keep-alive,
`modify`, `setPublishingMode` and `resetLifeTimeAndKeepAliveCounters` start the count again.

When every tick finds a publish request and every keep-alive is accepted, the keep-alive counter
stays ahead of the lifetime counter and is reset before it passes `maxKeepAliveCount`, which is at
most a third of `lifeTimeCount`: no tick expires, and the trace holds neither `expired` nor a
BadTimeout notification (`served_subscription_never_expires`).

In any run, `ticksSinceReset` reads the count off the trace; while the subscription is open the
counter equals it and stays below `lifeTimeCount`, so a tick ends the subscription exactly when
it is the `lifeTimeCount`-th since the last reset (`tick_expires_iff_lifetime_spent`). This rests
on the publish engine's promise to serve LATE subscriptions only: `process_subscription` does not
look at the state, and a refused keep-alive on a closed subscription would reopen it as LATE.
-/

namespace OpcuaServer

open Subscription

/-! ## Events that do not come from an expiry -/

/-- Neither `expired` nor the enqueueing of a `StatusChangeNotification(BadTimeout)`. -/
def Event.Benign (e : Event) : Prop :=
  e ≠ .expired ∧ ∀ m, e = .added m → .statusChangeNotification .badTimeout ∉ m.notificationData

/-- `t` continues the trace of `s` with benign events. -/
def Extends (s t : Subscription) : Prop := ∃ E, t.trace = s.trace ++ E ∧ ∀ e ∈ E, e.Benign

namespace Extends

variable {s t u : Subscription}

theorem of_trace_eq (h : t.trace = s.trace) : Extends s t := ⟨[], by simpa using h, by simp⟩

theorem trans (h₁ : Extends s t) (h₂ : Extends t u) : Extends s u := by
  obtain ⟨E₁, h₁, hE₁⟩ := h₁
  obtain ⟨E₂, h₂, hE₂⟩ := h₂
  exact ⟨E₁ ++ E₂, by rw [h₂, h₁, List.append_assoc],
    fun e he => (List.mem_append.mp he).elim (hE₁ e) (hE₂ e)⟩

theorem emit {e : Event} (he : e.Benign) : Extends s (s.emit e) := ⟨[e], rfl, by simpa using he⟩

theorem processKeepAlive (a : Bool) : Extends s (s.processKeepAlive a) := by
  by_cases hk : s.keepAliveCounter+1 < s.maxKeepAliveCount
  · rw [processKeepAlive_of_lt hk]
    exact of_trace_eq rfl
  cases a
  · rw [processKeepAlive_of_ge_refused (not_lt.mp hk)]
    exact ⟨_, rfl, by simp [Event.Benign]⟩
  · rw [processKeepAlive_of_ge_accepted (not_lt.mp hk)]
    exact ⟨_, rfl, by simp [Event.Benign]⟩

theorem dispatch (hp : s.pendingNotifications ≠ []) : Extends s s.dispatch := by
  obtain ⟨e, rest, he⟩ := List.exists_cons_of_ne_nil hp
  rw [dispatch_of_cons he]
  refine ⟨_, List.append_assoc _ _ _, ?_⟩
  split_ifs <;> simp only [Event.Benign, List.mem_append, List.mem_cons, List.not_mem_nil, or_false,
    forall_eq_or_imp, forall_eq, ne_eq, reduceCtorEq, not_false_eq_true, false_implies, implies_true,
    and_self, List.cons_append, List.nil_append]

/-- Harvested messages carry data changes and events only. -/
theorem harvestMonitoredItems (hv : s.harvestMonitoredItems = .ok t) : Extends s t := by
  obtain ⟨bodies, hc, rfl⟩ := s.harvestMonitoredItems_eq hv
  refine ⟨_, rfl, ?_⟩
  simp only [List.mem_map]
  rintro _ ⟨e, he, rfl⟩
  obtain ⟨b, hb, hd⟩ := mem_numberBodies he
  refine ⟨by simp, fun m hm => ?_⟩
  cases hm
  rw [hd]
  exact collectLoop_no_statusChange hc b hb _

theorem processSubscription {c : ℕ} {a : Bool} (hv : s.processSubscription c a = .ok t) :
    Extends s t := by
  obtain ⟨-, ⟨-, rfl⟩ | ⟨-, u, hu, ⟨hp, rfl⟩ | ⟨-, rfl⟩⟩⟩ := processSubscription_cases hv
  · exact processKeepAlive a
  all_goals
    have h' : Extends s u := by
      obtain ⟨rfl, -⟩ | ⟨-, -, hv⟩ := hu
      exacts [of_trace_eq rfl, harvestMonitoredItems hv]
  · exact h'.trans (dispatch hp)
  · exact h'.trans (processKeepAlive a)

theorem beginTick : Extends s s.beginTick := ⟨[.onTick], rfl, by simp [Event.Benign]⟩

theorem terminate : Extends s s.terminate := by
  by_cases hc : s.state = .closed
  · rw [terminate_of_closed hc]
    exact of_trace_eq rfl
  obtain ⟨E, hE, heq⟩ := terminate_of_ne_closed hc
  rw [heq]
  refine ⟨E ++ [.terminated, .onCloseSubscription], List.append_assoc _ _ _, fun e he => ?_⟩
  rcases List.mem_append.mp he with he | he
  · obtain ⟨k, rfl⟩ := hE e he
    simp [Event.Benign]
  · rcases List.mem_pair.mp he with rfl | rfl <;> simp [Event.Benign]

/-- A tick that does not reach the expiry branch. -/
theorem tick {c : ℕ} {a : Bool} (hv : s.tick c a = .ok t)
    (hx : s.state ≠ .closed → ¬s.beginTick.lifeTimeHasExpired) : Extends s t := by
  obtain ⟨-, rfl⟩ | ⟨hc, he, -⟩ | ⟨-, -, hv⟩ := tick_cases hv
  · exact of_trace_eq rfl
  · exact absurd he (hx hc)
  obtain ⟨-, -, rfl⟩ | ⟨-, -, -, rfl⟩ | ⟨-, -, rfl⟩ | ⟨-, -, hv⟩ | ⟨-, -, -, hv⟩ := hv
  · exact beginTick.trans (of_trace_eq rfl)
  · exact beginTick.trans (of_trace_eq rfl)
  · exact beginTick.trans (processKeepAlive a)
  · exact beginTick.trans (processSubscription hv)
  · have h' : Extends s.beginTick { s.beginTick with hasMonitoredItemNotificationsCache := true } :=
      of_trace_eq rfl
    exact beginTick.trans (h'.trans (processSubscription hv))

theorem step {ctx : Context} {op : Op} (hv : OpcuaServer.step ctx s op = .ok t)
    (hx : ∀ c a, op = .tick c a → s.state ≠ .closed → ¬s.beginTick.lifeTimeHasExpired) :
    Extends s t := by
  have h0 : Extends s (s.emit (.invoked op.call)) := emit (by simp [Event.Benign])
  cases op with
  | tick c a => exact h0.trans (tick hv (hx c a rfl))
  | processSubscription c a => exact h0.trans (processSubscription hv)
  | setPublishingMode b =>
      cases Except.ok.inj hv
      exact h0.trans (of_trace_eq (by rw [setPublishingMode_eq]))
  | acknowledgeNotification n =>
      cases Except.ok.inj hv
      obtain ⟨sent, -, count, heq⟩ := (s.emit _).acknowledgeNotification_eq n
      rw [heq]
      exact h0.trans (of_trace_eq rfl)
  | notifyTransfer =>
      cases Except.ok.inj hv
      exact h0.trans ⟨_, rfl, by simp [Event.Benign]⟩
  | terminate =>
      cases Except.ok.inj hv
      exact h0.trans terminate
  | createMonitoredItem r i =>
      obtain ⟨res, hc⟩ := step_createMonitoredItem hv
      obtain ⟨E, hE, heq⟩ := createMonitoredItem_eq hc
      rw [heq]
      exact h0.trans ⟨E, rfl, by rcases hE with rfl | rfl <;> simp [Event.Benign]⟩
  | removeMonitoredItem i =>
      cases Except.ok.inj hv
      obtain ⟨E, hE, heq⟩ := (s.emit _).removeMonitoredItem_eq i
      rw [heq]
      exact h0.trans ⟨E, rfl, by rcases hE with rfl | rfl <;> simp [Event.Benign]⟩
  | _ =>
      cases Except.ok.inj hv
      exact h0.trans (of_trace_eq rfl)

end Extends

/-! ## A served subscription never expires -/

/-- The publish engine holds a request at every tick and accepts every keep-alive. -/
def Op.Served : Op → Prop
  | .tick c a | .processSubscription c a => 0 < c ∧ a = true
  | _ => True

/-- The counters of a served subscription, `slack` intervals into a publishing cycle. -/
structure CounterInv (slack : ℤ) (s : Subscription) : Prop where
  lifeTime_le : (s.lifeTimeCounter : ℤ) ≤ s.keepAliveCounter + slack
  keepAlive_le : s.keepAliveCounter ≤ s.maxKeepAliveCount
  two_le : 2 ≤ s.maxKeepAliveCount
  three_mul_le : s.maxKeepAliveCount * 3 ≤ s.lifeTimeCount

namespace CounterInv

variable {k : ℤ} {s t : Subscription}

theorem congr (h : CounterInv k s) (h₁ : t.lifeTimeCounter = s.lifeTimeCounter)
    (h₂ : t.keepAliveCounter = s.keepAliveCounter) (h₃ : t.maxKeepAliveCount = s.maxKeepAliveCount)
    (h₄ : t.lifeTimeCount = s.lifeTimeCount) : CounterInv k t :=
  ⟨h₁ ▸ h₂ ▸ h.1, h₂ ▸ h₃ ▸ h.2, h₃ ▸ h.3, h₃ ▸ h₄ ▸ h.4⟩

theorem mono (h : CounterInv k s) {k' : ℤ} (hk : k ≤ k') : CounterInv k' s :=
  ⟨h.1.trans (by omega), h.2, h.3, h.4⟩

/-- An accepted keep-alive resets both counters; otherwise the keep-alive counter catches up. -/
theorem processKeepAlive (h : CounterInv 1 s) : CounterInv 0 (s.processKeepAlive true) := by
  have := h.two_le
  by_cases hk : s.keepAliveCounter+1 < s.maxKeepAliveCount
  · rw [processKeepAlive_of_lt hk]
    exact ⟨by simpa using h.1, hk.le, h.3, h.4⟩
  · rw [processKeepAlive_of_ge_accepted (not_lt.mp hk)]
    exact ⟨by simp, by simp; omega, h.3, h.4⟩

theorem dispatch (h : CounterInv k s) (hp : s.pendingNotifications ≠ []) : CounterInv 0 s.dispatch := by
  have := h.two_le
  obtain ⟨e, rest, he⟩ := List.exists_cons_of_ne_nil hp
  rw [dispatch_of_cons he]
  exact ⟨by simp, by simp; omega, h.3, h.4⟩

theorem harvestMonitoredItems (h : CounterInv k s) (hv : s.harvestMonitoredItems = .ok t) :
    CounterInv k t := by
  obtain ⟨bodies, -, rfl⟩ := s.harvestMonitoredItems_eq hv
  exact h.congr rfl rfl rfl rfl

theorem processSubscription (h : CounterInv 1 s) {c : ℕ} (hv : s.processSubscription c true = .ok t) :
    CounterInv 0 t := by
  obtain ⟨-, ⟨-, rfl⟩ | ⟨-, u, hu, ⟨hp, rfl⟩ | ⟨-, rfl⟩⟩⟩ := processSubscription_cases hv
  · exact h.processKeepAlive
  all_goals
    have h' : CounterInv 1 u := by
      obtain ⟨rfl, -⟩ | ⟨-, -, hv⟩ := hu
      exacts [h, h.harvestMonitoredItems hv]
  · exact h'.dispatch hp
  · exact h'.processKeepAlive

theorem beginTick (h : CounterInv 0 s) : CounterInv 1 s.beginTick :=
  ⟨by simpa using h.1, h.2, h.3, h.4⟩

/-- The lifetime counter is at most `maxKeepAliveCount + 1` after the increment, below
`lifeTimeCount`. -/
theorem not_expired (h : CounterInv 0 s) : ¬s.beginTick.lifeTimeHasExpired := by
  have := h.1; have := h.2; have := h.3; have := h.4
  simp only [lifeTimeHasExpired, beginTick_lifeTimeCounter, beginTick_lifeTimeCount,
    discardOldSentNotifications_lifeTimeCount, not_le]
  push_cast
  omega

theorem tick (h : CounterInv 0 s) {c : ℕ} (hc : 0 < c) (hv : s.tick c true = .ok t) :
    CounterInv 0 t := by
  obtain ⟨-, rfl⟩ | ⟨-, hx, -⟩ | ⟨-, -, hv⟩ := tick_cases hv
  · exact h
  · exact absurd hx h.not_expired
  obtain ⟨rfl, -⟩ | ⟨rfl, -⟩ | ⟨-, -, rfl⟩ | ⟨-, -, hv⟩ | ⟨-, -, -, hv⟩ := hv
  · exact absurd hc (lt_irrefl 0)
  · exact absurd hc (lt_irrefl 0)
  · exact h.beginTick.processKeepAlive
  · exact h.beginTick.processSubscription hv
  · have h' : CounterInv 1 { s.beginTick with hasMonitoredItemNotificationsCache := true } :=
      h.beginTick.congr rfl rfl rfl rfl
    exact h'.processSubscription hv

theorem terminate (h : CounterInv k s) : CounterInv k s.terminate := by
  by_cases hc : s.state = .closed
  · rwa [terminate_of_closed hc]
  · obtain ⟨E, -, heq⟩ := terminate_of_ne_closed hc
    rw [heq]
    exact h.congr rfl rfl rfl rfl

theorem step (h : CounterInv 0 s) {ctx : Context} {op : Op} (hop : op.Served)
    (hv : OpcuaServer.step ctx s op = .ok t) : CounterInv 0 t := by
  have h0 : CounterInv 0 (s.emit (.invoked op.call)) := h.congr rfl rfl rfl rfl
  have hka : 0 ≤ s.keepAliveCounter := by have := h.1; omega
  cases op with
  | tick c a =>
      obtain ⟨hc, rfl⟩ := hop
      exact h0.tick hc hv
  | processSubscription c a =>
      obtain ⟨-, rfl⟩ := hop
      exact (h0.mono zero_le_one).processSubscription hv
  | modify p =>
      cases Except.ok.inj hv
      rw [modify_eq]
      exact ⟨by simpa using (adjustMaxKeepAliveCount_bounds _).1.trans' (by norm_num), le_rfl,
        (adjustMaxKeepAliveCount_bounds _).1, three_mul_le_adjustLifeTimeCount _ _ _⟩
  | setPublishingMode b =>
      cases Except.ok.inj hv
      rw [setPublishingMode_eq]
      exact ⟨by simpa using hka, h.2, h.3, h.4⟩
  | resetLifeTimeAndKeepAliveCounters =>
      cases Except.ok.inj hv
      exact ⟨by simp, by simp; have := h.3; omega, h.3, h.4⟩
  | acknowledgeNotification n =>
      cases Except.ok.inj hv
      obtain ⟨sent, -, count, heq⟩ := (s.emit _).acknowledgeNotification_eq n
      rw [heq]
      exact h0.congr rfl rfl rfl rfl
  | terminate =>
      cases Except.ok.inj hv
      exact h0.terminate
  | createMonitoredItem r i =>
      obtain ⟨res, hc⟩ := step_createMonitoredItem hv
      obtain ⟨E, -, heq⟩ := createMonitoredItem_eq hc
      rw [heq]
      exact h0.congr rfl rfl rfl rfl
  | removeMonitoredItem i =>
      cases Except.ok.inj hv
      obtain ⟨E, -, heq⟩ := (s.emit _).removeMonitoredItem_eq i
      rw [heq]
      exact h0.congr rfl rfl rfl rfl
  | _ =>
      cases Except.ok.inj hv
      exact h0.congr rfl rfl rfl rfl

theorem create (o : Options) : CounterInv 0 (Subscription.create o) :=
  ⟨by simpa [Subscription.create] using (adjustMaxKeepAliveCount_bounds _).1.trans' (by norm_num),
    le_rfl, (adjustMaxKeepAliveCount_bounds _).1, three_mul_le_adjustLifeTimeCount _ _ _⟩

end CounterInv

theorem Reachable.served {ctx : Context} {s : Subscription}
    (h : Reachable ctx (fun _ op => op.Served) s) : CounterInv 0 s ∧ ∀ e ∈ s.trace, e.Benign := by
  induction h with
  | create o => exact ⟨CounterInv.create o, by simp [Subscription.create]⟩
  | step _ hop hv ih =>
      obtain ⟨E, ht, hE⟩ := Extends.step hv fun _ _ _ _ => ih.1.not_expired
      refine ⟨ih.1.step hop hv, fun e he => ?_⟩
      rw [ht] at he
      exact (List.mem_append.mp he).elim (ih.2 e) (hE e)

/-- When every tick finds a publish request and every keep-alive is accepted, the counters keep
`_life_time_counter ≤ _keep_alive_counter ≤ maxKeepAliveCount < lifeTimeCount` between ticks, no
tick reaches `lifeTimeHasExpired`, and the subscription never emits `expired` nor enqueues a
BadTimeout notification. -/
theorem served_subscription_never_expires {ctx : Context} {s : Subscription}
    (h : Reachable ctx (fun _ op => op.Served) s) :
    ((s.lifeTimeCounter : ℤ) ≤ s.keepAliveCounter ∧ s.keepAliveCounter ≤ s.maxKeepAliveCount ∧
      s.maxKeepAliveCount < s.lifeTimeCount) ∧
    ¬s.beginTick.lifeTimeHasExpired ∧ Event.expired ∉ s.trace ∧
    ∀ m, Event.added m ∈ s.trace → .statusChangeNotification .badTimeout ∉ m.notificationData := by
  obtain ⟨hc, hb⟩ := h.served
  refine ⟨⟨by simpa using hc.1, hc.2, by linarith [hc.3, hc.4]⟩, hc.not_expired,
    fun he => (hb _ he).1 rfl, fun m hm => (hb _ hm).2 m rfl⟩

/-- Twenty served ticks on a fresh subscription whose lifetime count is 6. -/
theorem served_subscription_never_expires_twenty_ticks :
    ∃ s, Reachable variableContext (fun _ op => op.Served) s ∧ s.publishIntervalCount = 20 ∧
    ((s.lifeTimeCounter : ℤ) ≤ s.keepAliveCounter ∧ s.keepAliveCounter ≤ s.maxKeepAliveCount ∧
      s.maxKeepAliveCount < s.lifeTimeCount) ∧
    ¬s.beginTick.lifeTimeHasExpired ∧ Event.expired ∉ s.trace ∧
    ∀ m, Event.added m ∈ s.trace → .statusChangeNotification .badTimeout ∉ m.notificationData := by
  have hrun : (run variableContext (Subscription.create {}) (List.replicate 20 (.tick 1 true))).toOption.any
      (fun s => s.publishIntervalCount == 20) = true := by
    rw [Subscription.create_of_defaults _ rfl rfl rfl]
    decide
  have hA : ∀ (t : Subscription), ∀ op ∈ List.replicate 20 (Op.tick 1 true), op.Served := by
    intro t op hop
    obtain ⟨-, rfl⟩ := List.mem_replicate.mp hop
    exact ⟨Nat.one_pos, rfl⟩
  obtain ⟨s, hs, hp⟩ := (Reachable.create _ : Reachable variableContext _ _).exists_of_run hA hrun
  exact ⟨s, hs, by simpa using hp, served_subscription_never_expires hs⟩

/-! ## Expiry counts the ticks since the last reset -/

/-- The lifetime count after an event, from `n` before it. -/
def Event.lifeTimeStep : ℕ → Event → ℕ
  | _, invoked .modify | _, invoked .setPublishingMode
  | _, invoked .resetLifeTimeAndKeepAliveCounters => 0
  | _, sendNotificationMessage _ _ _ _ false | _, keepalive _ => 0
  | n, onTick => n+1
  | n, _ => n

/-- The ticks since the most recent lifetime reset; the trace starts at creation. -/
def ticksSinceReset (t : List Event) : ℕ := t.foldl Event.lifeTimeStep 0

@[simp] theorem ticksSinceReset_append (t E : List Event) :
    ticksSinceReset (t ++ E) = E.foldl Event.lifeTimeStep (ticksSinceReset t) :=
  List.foldl_append _ _ _ _

/-- `_life_time_counter` counts the ticks since the last reset and is below `lifeTimeCount`. -/
structure LifeCount (s : Subscription) : Prop where
  eq : s.lifeTimeCounter = ticksSinceReset s.trace
  lt : (s.lifeTimeCounter : ℤ) < s.lifeTimeCount

namespace LifeCount

variable {s t : Subscription}

theorem pos (h : LifeCount s) : 0 < s.lifeTimeCount := by
  have := h.lt
  omega

theorem congr (h : LifeCount s) (h₁ : t.lifeTimeCounter = s.lifeTimeCounter)
    (h₂ : t.trace = s.trace) (h₃ : t.lifeTimeCount = s.lifeTimeCount) : LifeCount t :=
  ⟨h₁ ▸ h₂ ▸ h.1, h₁ ▸ h₃ ▸ h.2⟩

/-- After a reset the counter is `0`, and so is the count read off the trace. -/
theorem of_reset (h₁ : t.lifeTimeCounter = 0) (h₂ : ticksSinceReset t.trace = 0)
    (h₃ : 0 < t.lifeTimeCount) : LifeCount t :=
  ⟨by rw [h₁, h₂], by rw [h₁]; exact_mod_cast h₃⟩

/-- Events that neither reset nor tick leave the count. -/
theorem append (h : LifeCount s) {E : List Event} (hE : ∀ e ∈ E, ∀ n, e.lifeTimeStep n = n)
    (h₁ : t.lifeTimeCounter = s.lifeTimeCounter) (h₂ : t.trace = s.trace ++ E)
    (h₃ : t.lifeTimeCount = s.lifeTimeCount) : LifeCount t := by
  refine ⟨?_, h₁ ▸ h₃ ▸ h.2⟩
  rw [h₂, ticksSinceReset_append, h₁, h.eq]
  clear h₂
  induction E with
  | nil => rfl
  | cons e E ih =>
      rw [List.foldl_cons, hE e (.head _)]
      exact ih fun e he => hE e (.tail _ he)

theorem emit (h : LifeCount s) (e : Event) (he : ∀ n, e.lifeTimeStep n = n) : LifeCount (s.emit e) :=
  @append s (s.emit e) h [e] (by simpa using he) rfl rfl rfl

theorem processKeepAlive (h : LifeCount s) (a : Bool) : LifeCount (s.processKeepAlive a) := by
  by_cases hk : s.keepAliveCounter+1 < s.maxKeepAliveCount
  · rw [processKeepAlive_of_lt hk]
    exact h.congr rfl rfl rfl
  cases a
  · rw [processKeepAlive_of_ge_refused (not_lt.mp hk)]
    exact h.append (fun e he n => by rw [List.mem_singleton.mp he]; rfl) rfl rfl rfl
  · rw [processKeepAlive_of_ge_accepted (not_lt.mp hk)]
    exact of_reset rfl (by simp [Event.lifeTimeStep]) h.pos

theorem dispatch (h : LifeCount s) (hp : s.pendingNotifications ≠ []) : LifeCount s.dispatch := by
  obtain ⟨e, rest, he⟩ := List.exists_cons_of_ne_nil hp
  rw [dispatch_of_cons he]
  refine of_reset rfl ?_ h.pos
  split_ifs <;> simp [Event.lifeTimeStep]

theorem harvestMonitoredItems (h : LifeCount s) (hv : s.harvestMonitoredItems = .ok t) :
    LifeCount t := by
  obtain ⟨bodies, -, rfl⟩ := s.harvestMonitoredItems_eq hv
  exact h.append (fun e he n => by obtain ⟨x, -, rfl⟩ := List.mem_map.mp he; rfl) rfl rfl rfl

theorem processSubscription (h : LifeCount s) {c : ℕ} {a : Bool}
    (hv : s.processSubscription c a = .ok t) : LifeCount t := by
  obtain ⟨-, ⟨-, rfl⟩ | ⟨-, u, hu, ⟨hp, rfl⟩ | ⟨-, rfl⟩⟩⟩ := processSubscription_cases hv
  · exact h.processKeepAlive a
  all_goals
    have h' : LifeCount u := by
      obtain ⟨rfl, -⟩ | ⟨-, -, hv⟩ := hu
      exacts [h, h.harvestMonitoredItems hv]
  · exact h'.dispatch hp
  · exact h'.processKeepAlive a

theorem beginTick (h : LifeCount s) (hx : ¬s.beginTick.lifeTimeHasExpired) : LifeCount s.beginTick :=
  ⟨by simp [h.eq, Event.lifeTimeStep], by simpa [lifeTimeHasExpired] using hx⟩

/-- A tick on an open subscription either expires it or keeps it open and counted. -/
theorem tick (h : LifeCount s) (hc : s.state ≠ .closed) {c : ℕ} {a : Bool} (hv : s.tick c a = .ok t) :
    (s.beginTick.lifeTimeHasExpired ∧ t = s.beginTick.expire) ∨
    (¬s.beginTick.lifeTimeHasExpired ∧ t.state ≠ .closed ∧ LifeCount t) := by
  obtain ⟨hc', -⟩ | ⟨-, hx, rfl⟩ | ⟨-, hx, hv⟩ := tick_cases hv
  · exact absurd hc' hc
  · exact .inl ⟨hx, rfl⟩
  refine .inr ⟨hx, ?_⟩
  have hb := h.beginTick hx
  have hc' : s.beginTick.state ≠ .closed := by simpa using hc
  obtain ⟨-, -, rfl⟩ | ⟨-, -, -, rfl⟩ | ⟨-, -, rfl⟩ | ⟨-, -, hv⟩ | ⟨-, -, -, hv⟩ := hv
  · exact ⟨by simp, hb.congr rfl rfl rfl⟩
  · exact ⟨by simp, hb.congr rfl rfl rfl⟩
  · exact ⟨processKeepAlive_state_ne_closed hc' a, hb.processKeepAlive a⟩
  · exact ⟨processSubscription_state_ne_closed hc' hv, hb.processSubscription hv⟩
  · have hb' : LifeCount { s.beginTick with hasMonitoredItemNotificationsCache := true } :=
      hb.congr rfl rfl rfl
    have hc'' : ({ s.beginTick with hasMonitoredItemNotificationsCache := true }).state ≠ .closed := hc'
    exact ⟨processSubscription_state_ne_closed hc'' hv, hb'.processSubscription hv⟩

end LifeCount

/-- While the subscription is open, its lifetime counter is counted and bounded. -/
theorem LifeCount.step {ctx : Context} {s t : Subscription} {op : Op}
    (h : s.state ≠ .closed → LifeCount s) (hop : op.Promised s) (hv : step ctx s op = .ok t) :
    t.state ≠ .closed → LifeCount t := by
  intro ht
  by_cases hs : s.state = .closed
  · exact absurd (step_state_of_closed hs hop hv) ht
  have h := h hs
  cases op with
  | tick c a =>
      rcases (h.emit (.invoked .tick) fun _ => rfl).tick hs hv with ⟨-, rfl⟩ | ⟨-, -, h'⟩
      · obtain ⟨E, -, heq⟩ := @expire_of_ne_closed ((s.emit (.invoked .tick)).beginTick) hs
        exact absurd (by rw [heq]) ht
      · exact h'
  | processSubscription c a =>
      exact (h.emit (.invoked .processSubscription) fun _ => rfl).processSubscription hv
  | modify p =>
      cases Except.ok.inj hv
      rw [modify_eq]
      refine of_reset rfl (by simp [Event.lifeTimeStep, Op.call]) ?_
      have := three_mul_le_adjustLifeTimeCount
        (some (orDefault p.requestedLifetimeCount s.lifeTimeCount)) (adjustMaxKeepAliveCount
          (some (orDefault p.requestedMaxKeepAliveCount s.maxKeepAliveCount)))
        (adjustPublishingInterval (some (orDefault p.requestedPublishingInterval 0)))
      have := adjustMaxKeepAliveCount_bounds (some (orDefault p.requestedMaxKeepAliveCount s.maxKeepAliveCount))
      simp only [emit_maxKeepAliveCount, emit_lifeTimeCount]
      omega
  | setPublishingMode b =>
      cases Except.ok.inj hv
      rw [setPublishingMode_eq]
      exact of_reset rfl (by simp [Event.lifeTimeStep, Op.call]) h.pos
  | resetLifeTimeAndKeepAliveCounters =>
      cases Except.ok.inj hv
      exact of_reset rfl (by simp [Event.lifeTimeStep, Op.call]) h.pos
  | acknowledgeNotification n =>
      cases Except.ok.inj hv
      obtain ⟨sent, -, count, heq⟩ := (s.emit _).acknowledgeNotification_eq n
      rw [heq]
      exact (h.emit (.invoked .acknowledgeNotification) fun _ => rfl).congr rfl rfl rfl
  | notifyTransfer =>
      cases Except.ok.inj hv
      exact @append s _ h [_, _] (by simp [Event.lifeTimeStep, Op.call]) rfl (List.append_assoc _ _ _) rfl
  | terminate =>
      cases Except.ok.inj hv
      obtain ⟨E, -, heq⟩ := @terminate_of_ne_closed (s.emit (.invoked Op.terminate.call)) hs
      exact absurd (by rw [heq]) ht
  | createMonitoredItem r i =>
      obtain ⟨res, hc⟩ := step_createMonitoredItem hv
      obtain ⟨E, hE, heq⟩ := createMonitoredItem_eq hc
      rw [heq]
      exact (h.emit (.invoked .createMonitoredItem) fun _ => rfl).append
        (by rcases hE with rfl | rfl <;> simp [Event.lifeTimeStep]) rfl rfl rfl
  | removeMonitoredItem i =>
      cases Except.ok.inj hv
      obtain ⟨E, hE, heq⟩ := (s.emit _).removeMonitoredItem_eq i
      rw [heq]
      exact (h.emit (.invoked .removeMonitoredItem) fun _ => rfl).append
        (by rcases hE with rfl | rfl <;> simp [Event.lifeTimeStep]) rfl rfl rfl
  | sample i n =>
      cases Except.ok.inj hv
      exact (h.emit (.invoked .sample) fun _ => rfl).congr rfl rfl rfl

theorem LifeCount.create (o : Options) : LifeCount (Subscription.create o) := by
  refine of_reset rfl rfl ?_
  have := three_mul_le_adjustLifeTimeCount o.lifeTimeCount (adjustMaxKeepAliveCount o.maxKeepAliveCount)
    (adjustPublishingInterval o.publishingInterval)
  have := adjustMaxKeepAliveCount_bounds o.maxKeepAliveCount
  simp only [Subscription.create, startTimer_lifeTimeCount]
  omega

theorem Reachable.lifeCount {ctx : Context} {s : Subscription} (h : Reachable ctx Op.Promised s) :
    s.state ≠ .closed → LifeCount s := by
  induction h with
  | create o => exact fun _ => LifeCount.create o
  | step _ hop hv ih => exact LifeCount.step ih hop hv

/-- In every run where the engine keeps its promise, an open subscription has
`_life_time_counter < lifeTimeCount`, and a tick on it ends it exactly when it is the
`lifeTimeCount`-th tick since the last lifetime reset: that tick returns, having emitted `expired`,
enqueued one BadTimeout message and closed the subscription, and no other tick that returns
closes it. -/
theorem tick_expires_iff_lifetime_spent {ctx : Context} {s : Subscription}
    (h : Reachable ctx Op.Promised s) :
    (s.state ≠ .closed → (s.lifeTimeCounter : ℤ) < s.lifeTimeCount) ∧
    ∀ c a, s.state ≠ .closed →
      (∀ s', step ctx s (.tick c a) = .ok s' → s'.state = .closed →
        (ticksSinceReset s.trace : ℤ) + 1 = s.lifeTimeCount) ∧
      ((ticksSinceReset s.trace : ℤ) + 1 = s.lifeTimeCount → ∃ s', step ctx s (.tick c a) = .ok s' ∧
        s'.state = .closed ∧ ∃ m E, m.notification.notificationData = [.statusChangeNotification .badTimeout] ∧
          s'.pendingNotifications = s.pendingNotifications ++ [m] ∧
          s'.trace = s.trace ++ .invoked .tick :: .onTick :: .expired :: E) := by
  refine ⟨fun hc => (h.lifeCount hc).lt, fun c a hc => ?_⟩
  have hl := h.lifeCount hc
  have hiff : (s.emit (.invoked .tick)).beginTick.lifeTimeHasExpired ↔
      (ticksSinceReset s.trace : ℤ) + 1 = s.lifeTimeCount := by
    have := hl.lt
    simp only [lifeTimeHasExpired, beginTick_lifeTimeCounter, beginTick_lifeTimeCount,
      discardOldSentNotifications_lifeTimeCount, discardOldSentNotifications_lifeTimeCounter,
      emit_lifeTimeCounter, emit_lifeTimeCount, ← hl.eq]
    push_cast
    omega
  refine ⟨fun s' hv hs' => ?_, fun hspent => ?_⟩
  · rcases (hl.emit (.invoked .tick) fun _ => rfl).tick hc hv with ⟨hx, -⟩ | ⟨-, hs'', -⟩
    exacts [hiff.mp hx, absurd hs' hs'']
  · have hc₁ : (s.emit (.invoked (Op.tick c a).call)).state ≠ .closed := hc
    obtain ⟨E, -, heq⟩ := @expire_of_ne_closed ((s.emit (.invoked (Op.tick c a).call)).beginTick) hc₁
    refine ⟨_, tick_of_expired hc₁ (hiff.mpr hspent), by rw [heq], _,
      .added ⟨s.sequenceNumberGenerator.counter, [.statusChangeNotification .badTimeout], .inl rfl⟩ :: E ++
        [.terminated, .onCloseSubscription], rfl, by rw [heq]; rfl, by rw [heq]; simp [Op.call]⟩

/-- With no publish request at all, five ticks leave the counter at 5 of 6. -/
theorem tick_expires_iff_lifetime_spent_five_ticks :
    ∃ s, Reachable variableContext Op.Promised s ∧ s.lifeTimeCounter = 5 ∧
    (s.state ≠ .closed → (s.lifeTimeCounter : ℤ) < s.lifeTimeCount) ∧
    ∀ c a, s.state ≠ .closed →
      (∀ s', step variableContext s (.tick c a) = .ok s' → s'.state = .closed →
        (ticksSinceReset s.trace : ℤ) + 1 = s.lifeTimeCount) ∧
      ((ticksSinceReset s.trace : ℤ) + 1 = s.lifeTimeCount → ∃ s', step variableContext s (.tick c a) = .ok s' ∧
        s'.state = .closed ∧ ∃ m E, m.notification.notificationData = [.statusChangeNotification .badTimeout] ∧
          s'.pendingNotifications = s.pendingNotifications ++ [m] ∧
          s'.trace = s.trace ++ .invoked .tick :: .onTick :: .expired :: E) := by
  have hrun : (run variableContext (Subscription.create {}) (List.replicate 5 (.tick 0 false))).toOption.any
      (fun s => s.lifeTimeCounter == 5) = true := by
    rw [Subscription.create_of_defaults _ rfl rfl rfl]
    decide
  have hA : ∀ (t : Subscription), ∀ op ∈ List.replicate 5 (Op.tick 0 false), op.Promised t := by
    intro t op hop
    obtain ⟨-, rfl⟩ := List.mem_replicate.mp hop
    trivial
  obtain ⟨s, hs, hp⟩ := (Reachable.create _ : Reachable variableContext _ _).exists_of_run hA hrun
  exact ⟨s, hs, by simpa using hp, tick_expires_iff_lifetime_spent hs⟩

end OpcuaServer
