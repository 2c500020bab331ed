import OpcuaServer.Limits

/-!
# Closing a subscription

`terminate` stops the timer, removes every monitored item and sets CLOSED; on a CLOSED
subscription it returns at once, so `terminated` and `on_close_subscription` come from the first
call only. Every operation keeps a CLOSED subscription CLOSED (`step_state_of_closed`), but two of
them never look at the state: `modify` stops and restarts the publishing timer, and
`createMonitoredItem` inserts its item. `dispose`, which follows `terminate`, asserts that the
subscription holds no item and no timer, and fails after either.

What does hold is that closing happens once: an operation either closes an open subscription,
emitting `terminated` and `on_close_subscription` once each, or emits neither and keeps the state
open or closed as it was (`step_closing`). Over a whole run where the engine serves only LATE
subscriptions, each of the two events is in the trace once if the subscription is CLOSED and
never otherwise (`closing_emitted_once`).
-/

namespace OpcuaServer

open Subscription

/-- The two assertions of `dispose`; what it clears afterwards no modelled operation reads. -/
def Subscription.dispose (s : Subscription) : Except Fault Unit :=
  if s.monitoredItems.length ≠ 0 then .error (.assertion "MonitoredItems haven't been  deleted first !!!")
  else if s.timerActive then .error (.assertion "Subscription timer haven't been terminated")
  else .ok ()

/-- `modify` re-arms the timer whatever the state, and keeps the state. -/
@[simp] theorem modify_timerActive (s : Subscription) (p : ModifyParam) : (s.modify p).timerActive = true := rfl

@[simp] theorem modify_state (s : Subscription) (p : ModifyParam) : (s.modify p).state = s.state := rfl

@[simp] theorem modify_monitoredItems (s : Subscription) (p : ModifyParam) :
    (s.modify p).monitoredItems = s.monitoredItems := rfl

/-- A subscription terminated right after its creation stays CLOSED under `modify` and
`createMonitoredItem`, yet the first re-arms its timer and the second gives it an item; `dispose`
then fails the assertion on each. -/
theorem closed_subscription_rearmed :
    ∃ s, Reachable variableContext ServedEngine s ∧ s.state = .closed ∧ s.timerActive = false ∧
      s.monitoredItems = [] ∧ s.dispose = .ok () ∧
      (∃ t, step variableContext s (.modify {}) = .ok t ∧ t.state = .closed ∧ t.timerActive = true ∧
        t.dispose = .error (.assertion "Subscription timer haven't been terminated")) ∧
      (∃ t, step variableContext s (.createMonitoredItem valueRequest 1) = .ok t ∧ t.state = .closed ∧
        t.monitoredItems ≠ [] ∧
        t.dispose = .error (.assertion "MonitoredItems haven't been  deleted first !!!")) := by
  set s₀ := (Subscription.create {}).emit (.invoked .terminate)
  have hs : Reachable variableContext ServedEngine s₀.terminate :=
    (Reachable.create {}).step (show ServedEngine _ .terminate from ⟨trivial, trivial⟩) rfl
  obtain ⟨E, -, heq⟩ := @terminate_of_ne_closed s₀ (by simp [s₀, Subscription.create])
  have hc : s₀.terminate.state = .closed := by rw [heq]
  have hm : s₀.terminate.monitoredItems = [] := by rw [heq]
  have hti : s₀.terminate.timerActive = false := by rw [heq]
  obtain ⟨t, ht, hp⟩ := @exists_ok_of_any _ (step variableContext s₀.terminate (.createMonitoredItem valueRequest 1))
    (fun t => t.state == .closed && decide (t.monitoredItems ≠ [])) (by
      simp only [s₀]
      rw [Subscription.create_of_defaults _ rfl rfl rfl]
      decide)
  simp only [Bool.and_eq_true, beq_iff_eq, decide_eq_true_eq] at hp
  refine ⟨_, hs, hc, hti, hm, by simp [Subscription.dispose, hm, hti],
    ⟨_, rfl, hc, rfl, by simp [Subscription.dispose, hm]⟩, ⟨t, ht, hp.1, hp.2, ?_⟩⟩
  simp [Subscription.dispose, hp.2]

/-! ## Closing happens once -/

/-- `t` continues the trace of `s` with neither `terminated` nor `on_close_subscription`. -/
def NoClosing (s t : Subscription) : Prop :=
  ∃ E, t.trace = s.trace ++ E ∧ ∀ e ∈ E, e ≠ .terminated ∧ e ≠ .onCloseSubscription

namespace NoClosing

variable {s t u : Subscription}

theorem of_trace_eq (h : t.trace = s.trace) : NoClosing s t := ⟨[], by simpa using h, by simp⟩

theorem trans (h₁ : NoClosing s t) (h₂ : NoClosing t u) : NoClosing s u := by
  obtain ⟨E₁, h₁, hE₁⟩ := h₁
  obtain ⟨E₂, h₂, hE₂⟩ := h₂
  exact ⟨E₁ ++ E₂, by rw [h₂, h₁, List.append_assoc],
    fun e he => (List.mem_append.mp he).elim (hE₁ e) (hE₂ e)⟩

theorem processKeepAlive (a : Bool) : NoClosing s (s.processKeepAlive a) := by
  by_cases hk : s.keepAliveCounter+1 < s.maxKeepAliveCount
  · rw [processKeepAlive_of_lt hk]
    exact of_trace_eq rfl
  cases a
  · rw [processKeepAlive_of_ge_refused (not_lt.mp hk)]
    exact ⟨_, rfl, by simp⟩
  · rw [processKeepAlive_of_ge_accepted (not_lt.mp hk)]
    exact ⟨_, rfl, by simp⟩

theorem dispatch (hp : s.pendingNotifications ≠ []) : NoClosing s s.dispatch := by
  obtain ⟨e, rest, he⟩ := List.exists_cons_of_ne_nil hp
  rw [dispatch_of_cons he]
  refine ⟨_, List.append_assoc _ _ _, ?_⟩
  split_ifs <;> simp

theorem harvestMonitoredItems (hv : s.harvestMonitoredItems = .ok t) : NoClosing s t := by
  obtain ⟨bodies, -, rfl⟩ := s.harvestMonitoredItems_eq hv
  exact ⟨_, rfl, by simp⟩

theorem processSubscription {c : ℕ} {a : Bool} (hv : s.processSubscription c a = .ok t) :
    NoClosing s t := by
  obtain ⟨-, ⟨-, rfl⟩ | ⟨-, u, hu, ⟨hp, rfl⟩ | ⟨-, rfl⟩⟩⟩ := processSubscription_cases hv
  · exact processKeepAlive a
  all_goals
    have h' : NoClosing s u := by
      obtain ⟨rfl, -⟩ | ⟨-, -, hv⟩ := hu
      exacts [of_trace_eq rfl, harvestMonitoredItems hv]
  · exact h'.trans (dispatch hp)
  · exact h'.trans (processKeepAlive a)

/-- A tick that neither finds the subscription closed nor expires it keeps it open. -/
theorem tick {c : ℕ} {a : Bool} (hv : s.tick c a = .ok t) (hc : s.state ≠ .closed)
    (hx : ¬s.beginTick.lifeTimeHasExpired) : NoClosing s t ∧ t.state ≠ .closed := by
  have hc₁ : s.beginTick.state ≠ .closed := hc
  have hb : NoClosing s s.beginTick := ⟨[.onTick], rfl, by simp⟩
  obtain ⟨hcl, -⟩ | ⟨-, hx', -⟩ | ⟨-, -, hv⟩ := tick_cases hv
  · exact absurd hcl hc
  · exact absurd hx' hx
  obtain ⟨-, -, rfl⟩ | ⟨-, -, -, rfl⟩ | ⟨-, -, rfl⟩ | ⟨-, -, hv⟩ | ⟨-, -, -, hv⟩ := hv
  · exact ⟨hb.trans (of_trace_eq rfl), by simp⟩
  · exact ⟨hb.trans (of_trace_eq rfl), by simp⟩
  · exact ⟨hb.trans (processKeepAlive a), processKeepAlive_state_ne_closed hc₁ a⟩
  · exact ⟨hb.trans (processSubscription hv), processSubscription_state_ne_closed hc₁ hv⟩
  · have hb' : NoClosing s { s.beginTick with hasMonitoredItemNotificationsCache := true } :=
      hb.trans (of_trace_eq rfl)
    have hc' : ({ s.beginTick with hasMonitoredItemNotificationsCache := true } : Subscription).state ≠ .closed :=
      hc
    exact ⟨hb'.trans (processSubscription hv), processSubscription_state_ne_closed hc' hv⟩

end NoClosing

/-- One operation either closes an open subscription, emitting `terminated` and
`on_close_subscription` once each after the removal of its items, or emits neither and keeps the
state open or closed as it was. -/
theorem step_closing {ctx : Context} {s t : Subscription} {op : Op} (hop : op.Promised s)
    (hv : step ctx s op = .ok t) :
    (NoClosing s t ∧ (t.state = .closed ↔ s.state = .closed)) ∨
    (s.state ≠ .closed ∧ t.state = .closed ∧ ∃ E, t.trace = s.trace ++ E ++ [.terminated, .onCloseSubscription] ∧
      ∀ e ∈ E, e ≠ .terminated ∧ e ≠ .onCloseSubscription) := by
  have h0 : NoClosing s (s.emit (.invoked op.call)) := ⟨[_], rfl, by simp⟩
  cases op with
  | tick c a =>
      by_cases hc : s.state = .closed
      · have hv' := hv
        obtain ⟨-, rfl⟩ | ⟨hc', -⟩ | ⟨hc', -⟩ := tick_cases hv'
        · exact .inl ⟨h0, Iff.rfl⟩
        all_goals exact absurd hc hc'
      by_cases hx : (s.emit (.invoked (Op.tick c a).call)).beginTick.lifeTimeHasExpired
      · obtain ⟨hcl, -⟩ | ⟨-, -, rfl⟩ | ⟨-, hx', -⟩ := tick_cases hv
        · exact absurd hcl hc
        · obtain ⟨E, hE, heq⟩ := @expire_of_ne_closed (s.emit (.invoked (Op.tick c a).call)).beginTick hc
          refine .inr ⟨hc, by rw [heq], [.invoked .tick, .onTick, .expired,
            .added ⟨s.sequenceNumberGenerator.counter, [.statusChangeNotification .badTimeout], .inl rfl⟩] ++ E,
            by rw [heq]; simp [Op.call], ?_⟩
          intro e he
          simp only [List.cons_append, List.mem_cons, List.nil_append] at he
          rcases he with rfl | rfl | rfl | rfl | he
          any_goals simp
          obtain ⟨k, rfl⟩ := hE e he
          simp
        · exact absurd hx hx'
      obtain ⟨hn, ht⟩ := NoClosing.tick hv hc hx
      exact .inl ⟨h0.trans hn, iff_of_false ht hc⟩
  | processSubscription c a =>
      have hc : (s.emit (.invoked .processSubscription)).state ≠ .closed := by simp [hop.1]
      exact .inl ⟨h0.trans (@NoClosing.processSubscription _ t c a hv),
        iff_of_false (@processSubscription_state_ne_closed _ c a t hc hv) hc⟩
  | setPublishingMode b =>
      cases Except.ok.inj hv
      refine .inl ⟨h0.trans (.of_trace_eq (by rw [setPublishingMode_eq])), ?_⟩
      rw [setPublishingMode_eq]
      split_ifs with h <;> simp_all
  | acknowledgeNotification n =>
      cases Except.ok.inj hv
      obtain ⟨sent, -, count, heq⟩ := (s.emit _).acknowledgeNotification_eq n
      rw [heq]
      exact .inl ⟨h0.trans (.of_trace_eq rfl), Iff.rfl⟩
  | notifyTransfer =>
      cases Except.ok.inj hv
      exact .inl ⟨h0.trans ⟨_, rfl, by simp⟩, Iff.rfl⟩
  | terminate =>
      cases Except.ok.inj hv
      by_cases hc : (s.emit (.invoked Op.terminate.call)).state = .closed
      · rw [terminate_of_closed hc]
        exact .inl ⟨h0, Iff.rfl⟩
      · obtain ⟨E, hE, heq⟩ := terminate_of_ne_closed hc
        rw [heq]
        refine .inr ⟨hc, rfl, .invoked .terminate :: E, by simp [Op.call], fun e he => ?_⟩
        rcases List.mem_cons.mp he with rfl | he
        · simp
        · obtain ⟨k, rfl⟩ := hE e he
          simp
  | createMonitoredItem r i =>
      obtain ⟨res, hcr⟩ := step_createMonitoredItem hv
      obtain ⟨E, hE, heq⟩ := createMonitoredItem_eq hcr
      rw [heq]
      exact .inl ⟨h0.trans ⟨E, rfl, by rcases hE with rfl | rfl <;> simp⟩, Iff.rfl⟩
  | removeMonitoredItem i =>
      cases Except.ok.inj hv
      obtain ⟨E, hE, heq⟩ := (s.emit _).removeMonitoredItem_eq i
      rw [heq]
      exact .inl ⟨h0.trans ⟨E, rfl, by rcases hE with rfl | rfl <;> simp⟩, Iff.rfl⟩
  | _ =>
      cases Except.ok.inj hv
      exact .inl ⟨h0, Iff.rfl⟩

/-- In every run where the engine serves only LATE subscriptions, `terminated` and
`on_close_subscription` are each in the trace once if the subscription is CLOSED and never
otherwise: a second `terminate`, or any operation after closing, emits neither. -/
theorem closing_emitted_once {ctx : Context} {s : Subscription} (h : Reachable ctx Op.Promised s) :
    s.trace.count .terminated = (if s.state = .closed then 1 else 0) ∧
    s.trace.count .onCloseSubscription = (if s.state = .closed then 1 else 0) := by
  induction h with
  | create o => simp [Subscription.create]
  | @step s t op _ hop hv ih =>
      rcases step_closing hop hv with ⟨⟨E, ht, hE⟩, hiff⟩ | ⟨hs, ht, E, htr, hE⟩
      · have h₁ : E.count .terminated = 0 := List.count_eq_zero.mpr fun h => (hE _ h).1 rfl
        have h₂ : E.count .onCloseSubscription = 0 := List.count_eq_zero.mpr fun h => (hE _ h).2 rfl
        simp [ht, List.count_append, h₁, h₂, ih, hiff]
      · have h₁ : E.count .terminated = 0 := List.count_eq_zero.mpr fun h => (hE _ h).1 rfl
        have h₂ : E.count .onCloseSubscription = 0 := List.count_eq_zero.mpr fun h => (hE _ h).2 rfl
        simp [htr, List.count_append, h₁, h₂, ih, hs, ht]

/-- Terminated twice, a subscription has emitted `terminated` once. -/
theorem closing_emitted_once_after_two_terminates :
    ∃ s, Reachable variableContext Op.Promised s ∧ s.state = .closed ∧
      s.trace.count (.invoked .terminate) = 2 ∧ s.trace.count .terminated = 1 := by
  obtain ⟨s, hs, hp⟩ := (Reachable.create _ : Reachable variableContext Op.Promised _).exists_of_run
    (fun _ op hop => by obtain rfl | rfl := List.mem_pair.mp hop <;> trivial)
    (show (run variableContext (Subscription.create {}) [.terminate, .terminate]).toOption.any
      (fun s => s.state == .closed && s.trace.count (.invoked .terminate) == 2) = true by
        rw [Subscription.create_of_defaults _ rfl rfl rfl]
        decide)
  simp only [Bool.and_eq_true, beq_iff_eq] at hp
  have h₁ := (closing_emitted_once hs).1
  rw [if_pos hp.1] at h₁
  exact ⟨s, hs, hp.1, hp.2, h₁⟩

end OpcuaServer
