import OpcuaServer.Publishing

/-!
# Runs of a subscription

A run starts from the constructor and applies operations in any order: timer ticks (the
immediate re-ticks included, which are ticks like any other), the client's service calls, the
publish engine's calls, and monitored items buffering notifications. `step` marks each operation
in the trace before running it. `Reachable ctx A` collects the states of every run whose
operations satisfy `A`; an operation that fails an assertion or never returns ends the run.

The publish engine (`server_publish_engine.js`) is not part of the repository. As the spec says,
it calls `process_subscription` to serve a LATE subscription when a publish request arrives;
`Op.Promised` records that promise.
-/

namespace OpcuaServer

namespace Subscription

variable (s : Subscription)

def create (o : Options) : Subscription :=
  let publishingInterval := adjustPublishingInterval o.publishingInterval
  let maxKeepAliveCount := adjustMaxKeepAliveCount o.maxKeepAliveCount
  startTimer
    { id := o.id, publishingInterval, maxKeepAliveCount
      lifeTimeCount := adjustLifeTimeCount o.lifeTimeCount maxKeepAliveCount publishingInterval
      maxNotificationsPerPublish := some (adjustMaxNotificationsPerPublish o.maxNotificationsPerPublish)
      publishingEnabled := adjustPublishinEnable o.publishingEnabled
      keepAliveCounter := 0, lifeTimeCounter := 0, pendingNotifications := []
      sentNotifications := [], sequenceNumberGenerator := {}, state := .creating
      publishIntervalCount := 0, monitoredItems := [], monitoredItemIdCounter := 0
      messageSent := false, unacknowledgedMessageCount := 0, timerActive := false
      hasMonitoredItemNotificationsCache := false, trace := [] }

/-- With the default timing requests the revised interval is 1000 ms, the keep-alive count 2 and
the lifetime count 6. -/
theorem create_of_defaults (o : Options) (hp : o.publishingInterval = none)
    (hk : o.maxKeepAliveCount = none) (hl : o.lifeTimeCount = none) :
    create o = { id := o.id, publishingInterval := 1000, maxKeepAliveCount := 2, lifeTimeCount := 6
                 maxNotificationsPerPublish := some (adjustMaxNotificationsPerPublish o.maxNotificationsPerPublish)
                 publishingEnabled := adjustPublishinEnable o.publishingEnabled
                 keepAliveCounter := 2, lifeTimeCounter := 0, pendingNotifications := []
                 sentNotifications := [], sequenceNumberGenerator := {}, state := .creating
                 publishIntervalCount := 0, monitoredItems := [], monitoredItemIdCounter := 0
                 messageSent := false, unacknowledgedMessageCount := 0, timerActive := true
                 hasMonitoredItemNotificationsCache := false, trace := [] } := by
  simp only [create, startTimer, adjustLifeTimeCount, adjustPublishingInterval, adjustMaxKeepAliveCount,
    orDefault, hp, hk, hl]
  norm_num [defaultPublishingInterval, minimumPublishingInterval, maximumPublishingInterval,
    minimumMaxKeepAliveCount, maximumMaxKeepAliveCount]

/-- An omitted or zero request keeps the current keep-alive and lifetime counts; the publishing
interval falls back to the default. `maxNotificationsPerPublish` is stored as given. -/
def modify (param : ModifyParam) : Subscription :=
  let publishingInterval := adjustPublishingInterval (some (orDefault param.requestedPublishingInterval 0))
  let maxKeepAliveCount :=
    adjustMaxKeepAliveCount (some (orDefault param.requestedMaxKeepAliveCount s.maxKeepAliveCount))
  let lifeTimeCount := adjustLifeTimeCount
    (some (orDefault param.requestedLifetimeCount s.lifeTimeCount)) maxKeepAliveCount publishingInterval
  { s with publishingInterval, maxKeepAliveCount, lifeTimeCount
           maxNotificationsPerPublish := param.maxNotificationsPerPublish }
    |>.resetLifeTimeAndKeepAliveCounters |>.stopTimer |>.startTimer

def setPublishingMode (publishingEnabled : Bool) : StatusCode × Subscription :=
  let s := { s with publishingEnabled }.resetLifeTimeCounter
  (.good, if !publishingEnabled ∧ s.state ≠ .closed then { s with state := .normal } else s)

/-- The transfer notice takes a sequence number of its own and goes straight to the engine. -/
def notifyTransfer : Subscription :=
  let sequenceNumber := s.sequenceNumberGenerator.counter
  { s with sequenceNumberGenerator := s.sequenceNumberGenerator.next.2 }.emit
    (.sendNotificationMessage s.id sequenceNumber
      [.statusChangeNotification .goodSubscriptionTransferred] false true)

/-! ## Closed forms -/

section Spec

variable {s}

theorem modify_eq (p : ModifyParam) : s.modify p =
    let publishingInterval := adjustPublishingInterval (some (orDefault p.requestedPublishingInterval 0))
    let maxKeepAliveCount :=
      adjustMaxKeepAliveCount (some (orDefault p.requestedMaxKeepAliveCount s.maxKeepAliveCount))
    { s with publishingInterval, maxKeepAliveCount
             lifeTimeCount := adjustLifeTimeCount (some (orDefault p.requestedLifetimeCount s.lifeTimeCount))
               maxKeepAliveCount publishingInterval
             maxNotificationsPerPublish := p.maxNotificationsPerPublish
             lifeTimeCounter := 0
             keepAliveCounter := maxKeepAliveCount
             timerActive := true } := rfl

/-- A `modify` with no timing request on a subscription with the default timing keeps that timing
and restarts the timer. -/
theorem modify_of_defaults (p : ModifyParam) (hp : p.requestedPublishingInterval = none)
    (hk : p.requestedMaxKeepAliveCount = none) (hl : p.requestedLifetimeCount = none)
    (hm : s.maxKeepAliveCount = 2) (hL : s.lifeTimeCount = 6) :
    s.modify p = { s with publishingInterval := 1000, maxKeepAliveCount := 2, lifeTimeCount := 6
                          maxNotificationsPerPublish := p.maxNotificationsPerPublish
                          lifeTimeCounter := 0, keepAliveCounter := 2, timerActive := true } := by
  simp only [modify_eq, adjustLifeTimeCount, adjustPublishingInterval, adjustMaxKeepAliveCount, orDefault,
    hp, hk, hl, hm, hL]
  norm_num [defaultPublishingInterval, minimumPublishingInterval, maximumPublishingInterval,
    minimumMaxKeepAliveCount, maximumMaxKeepAliveCount]

theorem setPublishingMode_eq (b : Bool) : (s.setPublishingMode b).2 =
    { s with publishingEnabled := b
             lifeTimeCounter := 0
             state := if !b ∧ s.state ≠ .closed then .normal else s.state } := by
  unfold setPublishingMode
  dsimp only [resetLifeTimeCounter]
  split_ifs <;> rfl

theorem notifyTransfer_eq : s.notifyTransfer =
    { s with sequenceNumberGenerator := ⟨s.sequenceNumberGenerator.counter+1⟩
             trace := s.trace ++ [.sendNotificationMessage s.id s.sequenceNumberGenerator.counter
               [.statusChangeNotification .goodSubscriptionTransferred] false true] } := rfl

/-- Acknowledging removes at most one entry and touches nothing but the queue and the count. -/
theorem acknowledgeNotification_eq (n : ℕ) : ∃ sent : List Envelope, sent.Sublist s.sentNotifications ∧
    ∃ count : ℤ, (s.acknowledgeNotification n).2 =
      { s with sentNotifications := sent, unacknowledgedMessageCount := count } := by
  unfold acknowledgeNotification
  split
  · exact ⟨_, List.Sublist.refl _, _, rfl⟩
  · exact ⟨_, List.eraseIdx_sublist _ _, _, rfl⟩

theorem removeMonitoredItem_eq (i : ℕ) : ∃ E : List Event, (E = [] ∨ E = [.removeMonitoredItem i]) ∧
    (s.removeMonitoredItem i).2 =
      { s with monitoredItems := (s.removeMonitoredItem i).2.monitoredItems, trace := s.trace ++ E } := by
  unfold removeMonitoredItem
  split_ifs
  · exact ⟨_, .inr rfl, rfl⟩
  · exact ⟨[], .inl rfl, by simp⟩

/-- One check of `createMonitoredItem`, with the answer `handleError` gives. -/
theorem handleError_ite_cases {c : Prop} [Decidable c] {x res : MonitoredItemCreateResult} {s' : Subscription}
    {rest : Except Fault (MonitoredItemCreateResult × Subscription)}
    (h : (if c then .ok (x, s) else rest) = .ok (res, s')) : (c ∧ res = x ∧ s' = s) ∨ rest = .ok (res, s') := by
  by_cases hc : c
  · rw [if_pos hc] at h
    obtain ⟨rfl, rfl⟩ := Prod.mk.inj (Except.ok.inj h)
    exact .inl ⟨hc, rfl, rfl⟩
  · rw [if_neg hc] at h
    exact .inr h

/-- What `createMonitoredItem` can answer: a Bad status and no change, or Good with the given id,
where `_createMonitoredItemStep2` has counted the item and put it in the map with an empty queue,
and `_createMonitoredItemStep3` has set its monitoring mode. -/
theorem createMonitoredItem_cases {ctx : Context} {r : MonitoredItemCreateRequest} {i : ℕ}
    {res : MonitoredItemCreateResult} {s' : Subscription} (h : s.createMonitoredItem ctx r i = .ok (res, s')) :
    (res.statusCode ≠ .good ∧ s' = s) ∨
    (res.statusCode = .good ∧ res.monitoredItemId = i ∧ ∃ si : ℚ,
      s' = { s with monitoredItems := (insertMonitoredItem ⟨i, .invalid, si, r.requestedParameters.queueSize,
                      r.requestedParameters.discardOldest, []⟩ s.monitoredItems).map fun m =>
                      if m.monitoredItemId = i then { m with monitoringMode := r.monitoringMode } else m
                    monitoredItemIdCounter := s.monitoredItemIdCounter + 1
                    trace := s.trace ++ [.monitoredItem i] }) := by
  unfold createMonitoredItem at h
  dsimp only at h
  split at h
  · obtain ⟨rfl, rfl⟩ := Prod.mk.inj (Except.ok.inj h)
    exact .inl ⟨by decide, rfl⟩
  rename_i node _
  -- the five checks of the request, each answered with a Bad status
  iterate 5 (rcases handleError_ite_cases h with ⟨-, rfl, rfl⟩ | h; · exact .inl ⟨by decide, rfl⟩)
  rcases handleError_ite_cases h with ⟨hf, rfl, rfl⟩ | h
  · exact .inl ⟨hf, rfl⟩
  cases hs : s.createMonitoredItemStep2 ctx r node i with
  | error f => simp [hs, Except.map] at h
  | ok p =>
      simp only [hs, Except.map, Except.ok.injEq, Prod.mk.injEq] at h
      obtain ⟨rfl, rfl⟩ := h
      unfold createMonitoredItemStep2 at hs
      cases ha : adjustSamplingInterval ctx { s with monitoredItemIdCounter := s.monitoredItemIdCounter+1 }
          r.requestedParameters.samplingInterval node with
      | error f => simp [ha, Except.map] at hs
      | ok si =>
          simp only [ha, Except.map, Except.ok.injEq] at hs
          subst hs
          exact .inr ⟨rfl, rfl, si, rfl⟩

/-- The frame of `createMonitoredItem`: only the map, the item counter and the trace change. -/
theorem createMonitoredItem_eq {ctx : Context} {r : MonitoredItemCreateRequest} {i : ℕ}
    {res : MonitoredItemCreateResult} {s' : Subscription} (h : s.createMonitoredItem ctx r i = .ok (res, s')) :
    ∃ E : List Event, (E = [] ∨ E = [.monitoredItem i]) ∧
      s' = { s with monitoredItems := s'.monitoredItems
                    monitoredItemIdCounter := s'.monitoredItemIdCounter
                    trace := s.trace ++ E } := by
  rcases createMonitoredItem_cases h with ⟨-, rfl⟩ | ⟨-, -, si, rfl⟩
  · exact ⟨[], .inl rfl, by simp⟩
  · exact ⟨_, .inr rfl, rfl⟩

end Spec

end Subscription

inductive Op where
  | tick (pendingPublishRequestCount : ℕ) (keepAliveAccepted : Bool)
  | processSubscription (pendingPublishRequestCount : ℕ) (keepAliveAccepted : Bool)
  | modify (param : ModifyParam)
  | setPublishingMode (publishingEnabled : Bool)
  | resetLifeTimeAndKeepAliveCounters
  | acknowledgeNotification (sequenceNumber : ℕ)
  | notifyTransfer
  | terminate
  | createMonitoredItem (request : MonitoredItemCreateRequest) (monitoredItemId : ℕ)
  | removeMonitoredItem (monitoredItemId : ℕ)
  | sample (monitoredItemId : ℕ) (notification : ItemNotification)

def Op.call : Op → Call
  | tick .. => .tick
  | processSubscription .. => .processSubscription
  | modify _ => .modify
  | setPublishingMode _ => .setPublishingMode
  | resetLifeTimeAndKeepAliveCounters => .resetLifeTimeAndKeepAliveCounters
  | acknowledgeNotification _ => .acknowledgeNotification
  | notifyTransfer => .notifyTransfer
  | terminate => .terminate
  | createMonitoredItem .. => .createMonitoredItem
  | removeMonitoredItem _ => .removeMonitoredItem
  | sample .. => .sample

/-- Modelled from the spec: the publish engine calls `process_subscription` only on a LATE
subscription and only while it holds a publish request. -/
def Op.Promised (s : Subscription) : Op → Prop
  | processSubscription c _ => s.state = .late ∧ 0 < c
  | _ => True

open Subscription in
def step (ctx : Context) (s : Subscription) (op : Op) : Except Fault Subscription :=
  let s := s.emit (.invoked op.call)
  match op with
  | .tick c a => s.tick c a
  | .processSubscription c a => s.processSubscription c a
  | .modify p => .ok (s.modify p)
  | .setPublishingMode b => .ok (s.setPublishingMode b).2
  | .resetLifeTimeAndKeepAliveCounters => .ok s.resetLifeTimeAndKeepAliveCounters
  | .acknowledgeNotification n => .ok (s.acknowledgeNotification n).2
  | .notifyTransfer => .ok s.notifyTransfer
  | .terminate => .ok s.terminate
  | .createMonitoredItem r i => (s.createMonitoredItem ctx r i).map Prod.snd
  | .removeMonitoredItem i => .ok (s.removeMonitoredItem i).2
  | .sample i n => .ok (s.sample i n)

theorem step_createMonitoredItem {ctx : Context} {s s' : Subscription} {r : MonitoredItemCreateRequest}
    {i : ℕ} (hv : step ctx s (.createMonitoredItem r i) = .ok s') :
    ∃ res, (s.emit (.invoked .createMonitoredItem)).createMonitoredItem ctx r i = .ok (res, s') := by
  simp only [step, Except.map] at hv
  split at hv
  · cases hv
  · exact ⟨_, by cases Except.ok.inj hv; assumption⟩

/-- A closed subscription stays closed: every operation but `process_subscription` keeps the
state, and the engine calls that one on LATE subscriptions only. -/
theorem step_state_of_closed {ctx : Context} {s s' : Subscription} {op : Op} (h : s.state = .closed)
    (hop : op.Promised s) (hv : step ctx s op = .ok s') : s'.state = .closed := by
  cases op with
  | tick c a =>
      rcases Subscription.tick_cases hv with ⟨-, rfl⟩ | ⟨hc, -⟩ | ⟨hc, -⟩
      exacts [h, absurd h hc, absurd h hc]
  | processSubscription c a => simp [Op.Promised, h] at hop
  | setPublishingMode b =>
      cases Except.ok.inj hv
      simp [Subscription.setPublishingMode_eq, h]
  | acknowledgeNotification n =>
      cases Except.ok.inj hv
      obtain ⟨sent, -, count, heq⟩ := (s.emit _).acknowledgeNotification_eq n
      rw [heq]
      exact h
  | terminate =>
      cases Except.ok.inj hv
      rw [@Subscription.terminate_of_closed (s.emit _) h]
      exact h
  | createMonitoredItem r i =>
      obtain ⟨res, hc⟩ := step_createMonitoredItem hv
      obtain ⟨E, -, heq⟩ := Subscription.createMonitoredItem_eq hc
      rw [heq]
      exact h
  | removeMonitoredItem i =>
      cases Except.ok.inj hv
      obtain ⟨E, -, heq⟩ := (s.emit _).removeMonitoredItem_eq i
      rw [heq]
      exact h
  | _ =>
      cases Except.ok.inj hv
      exact h

/-- The states of the runs whose every operation satisfies `A`. -/
inductive Reachable (ctx : Context) (A : Subscription → Op → Prop) : Subscription → Prop
  | create (o : Options) : Reachable ctx A (Subscription.create o)
  | step {s s' : Subscription} {op : Op} :
      Reachable ctx A s → A s op → step ctx s op = .ok s' → Reachable ctx A s'

/-- A run whose operations satisfy `A` satisfies every weaker admissibility. -/
theorem Reachable.mono {ctx : Context} {A B : Subscription → Op → Prop} {s : Subscription}
    (h : Reachable ctx A s) (hAB : ∀ t op, A t op → B t op) : Reachable ctx B s := by
  induction h with
  | create o => exact .create o
  | step _ hop hv ih => exact ih.step (hAB _ _ hop) hv

/-- The operations of a list, one after another; the first failure ends the run. -/
def run (ctx : Context) : Subscription → List Op → Except Fault Subscription
  | s, [] => .ok s
  | s, op::ops => (step ctx s op).bind (run ctx · ops)

theorem Reachable.run {ctx : Context} {A : Subscription → Op → Prop} {s s' : Subscription}
    {ops : List Op} (h : Reachable ctx A s) (hA : ∀ t, ∀ op ∈ ops, A t op)
    (hr : OpcuaServer.run ctx s ops = .ok s') : Reachable ctx A s' := by
  induction ops generalizing s with
  | nil => cases hr; exact h
  | cons op ops ih =>
      cases hs : OpcuaServer.step ctx s op with
      | error f => simp [OpcuaServer.run, hs, bind, Except.bind] at hr
      | ok t =>
          simp only [OpcuaServer.run, hs, bind, Except.bind] at hr
          exact ih (h.step (hA s op (.head _)) hs) (fun t op hop => hA t op (.tail _ hop)) hr

/-- A run of given operations that ends in a state where `p` holds. -/
theorem Reachable.exists_of_run {ctx : Context} {A : Subscription → Op → Prop} {s : Subscription}
    {ops : List Op} {p : Subscription → Bool} (h : Reachable ctx A s) (hA : ∀ t, ∀ op ∈ ops, A t op)
    (hp : (OpcuaServer.run ctx s ops).toOption.any p = true) :
    ∃ s', Reachable ctx A s' ∧ p s' = true := by
  cases hr : OpcuaServer.run ctx s ops with
  | error f => simp [hr, Except.toOption] at hp
  | ok s' => exact ⟨s', h.run hA hr, by simpa [hr, Except.toOption] using hp⟩

/-- A computation whose result satisfies `p`. -/
theorem exists_ok_of_any {α : Type} {x : Except Fault α} {p : α → Bool} (h : x.toOption.any p = true) :
    ∃ a, x = .ok a ∧ p a = true := by
  cases x <;> simp_all [Except.toOption]

/-- A context whose address space holds one variable, node `1`, and whose filter check accepts
every filter. The sampling limits are node-opcua's `MonitoredItem.minimumSamplingInterval` (50 ms)
and `MonitoredItem.maximumSamplingInterval` (one hour). -/
def variableContext : Context := ⟨[⟨1, true, none, none⟩], fun _ _ _ => .good, 50, 3600000⟩

/-- Monitor the value of node `1`, sampling every 100 ms into a queue of two that discards the
oldest entry. -/
def valueRequest : MonitoredItemCreateRequest :=
  ⟨⟨1, .value, true, "", true⟩, .reporting, ⟨100, 2, true, none⟩⟩

end OpcuaServer
