import OpcuaServer.Run
import Mathlib.Data.List.Sort
import Mathlib.Algebra.BigOperators.Group.List

/-!
# Sequence numbers and the order of dispatch

Every number the generator hands out appears once in the trace: on the message
`_addNotificationMessage` enqueues, on the transfer notice, and (previewed, not consumed) on
each keep-alive. `NumberedFrom` says that each such number is the generator's value at that
point of the trace. `SeqInv` adds that the pending queue is exactly the enqueued messages not
yet dispatched, and that the retransmission queue is drawn, in order, from the dispatched ones.
Every operation keeps `SeqInv`; from it, the numbers in the retransmission queue followed by
the pending queue strictly increase, and dispatch is first in, first out.
-/

namespace OpcuaServer

/-- A message's number and `notificationData`, as `send_notification_message` receives them. -/
def NotificationMessage.contents (m : NotificationMessage) : ℕ × List NotificationData :=
  (m.sequenceNumber, m.notificationData)

namespace Event

/-- The message `_addNotificationMessage` enqueued. -/
def enqueued : Event → List (ℕ × List NotificationData)
  | added m => [m.contents]
  | _ => []

/-- The message `_publish_pending_notifications` handed to the publish engine. -/
def dispatched : Event → List (ℕ × List NotificationData)
  | sendNotificationMessage _ n d _ false => [(n, d)]
  | _ => []

/-- Whether the event consumed a number of the generator. -/
def allocates : Event → ℕ
  | added _ | sendNotificationMessage _ _ _ _ true => 1
  | _ => 0

/-- The number the event carries straight from the generator. -/
def number? : Event → Option ℕ
  | added m => some m.sequenceNumber
  | sendNotificationMessage _ n _ _ true | sendKeepAliveResponse _ n _ | keepalive n => some n
  | _ => none

/-- Neither allocates, enqueues nor dispatches, and carries only the generator's value `c`. -/
def Quiet (c : ℕ) (e : Event) : Prop :=
  e.enqueued = [] ∧ e.dispatched = [] ∧ e.allocates = 0 ∧ ∀ k, e.number? = some k → k = c

/-- An event with no number that neither allocates, enqueues nor dispatches is quiet at every
value of the generator. -/
theorem quiet_of_unnumbered {e : Event} (c : ℕ) (h₁ : e.enqueued = []) (h₂ : e.dispatched = [])
    (h₃ : e.allocates = 0) (h₄ : e.number? = none) : e.Quiet c :=
  ⟨h₁, h₂, h₃, fun _ h => by rw [h₄] at h; cases h⟩

/-- A keep-alive event carries the generator's value. -/
theorem quiet_of_number {e : Event} {c : ℕ} (h₁ : e.enqueued = []) (h₂ : e.dispatched = [])
    (h₃ : e.allocates = 0) (h₄ : e.number? = some c) : e.Quiet c :=
  ⟨h₁, h₂, h₃, fun _ h => (Option.some.inj (h₄ ▸ h)).symm⟩

end Event

def enqueued (t : List Event) : List (ℕ × List NotificationData) := t.flatMap Event.enqueued
def dispatched (t : List Event) : List (ℕ × List NotificationData) := t.flatMap Event.dispatched
def allocations (t : List Event) : ℕ := (t.map Event.allocates).sum

@[simp] theorem enqueued_append (a b : List Event) : enqueued (a ++ b) = enqueued a ++ enqueued b := by
  simp [enqueued]
@[simp] theorem dispatched_append (a b : List Event) :
    dispatched (a ++ b) = dispatched a ++ dispatched b := by simp [dispatched]
@[simp] theorem allocations_append (a b : List Event) :
    allocations (a ++ b) = allocations a + allocations b := by simp [allocations]
@[simp] theorem enqueued_cons (e : Event) (t : List Event) :
    enqueued (e :: t) = e.enqueued ++ enqueued t := rfl
@[simp] theorem dispatched_cons (e : Event) (t : List Event) :
    dispatched (e :: t) = e.dispatched ++ dispatched t := rfl
@[simp] theorem allocations_cons (e : Event) (t : List Event) :
    allocations (e :: t) = e.allocates + allocations t := by simp [allocations]
@[simp] theorem enqueued_nil : enqueued [] = [] := rfl
@[simp] theorem dispatched_nil : dispatched [] = [] := rfl
@[simp] theorem allocations_nil : allocations [] = 0 := rfl

/-- Each number an event carries is the generator's value there, starting from `n`. -/
def NumberedFrom : ℕ → List Event → Prop
  | _, [] => True
  | n, e::es => (∀ k, e.number? = some k → k = n) ∧ NumberedFrom (n + e.allocates) es

theorem numberedFrom_append (n : ℕ) (a b : List Event) :
    NumberedFrom n (a ++ b) ↔ NumberedFrom n a ∧ NumberedFrom (n + allocations a) b := by
  induction a generalizing n with
  | nil => simp [NumberedFrom]
  | cons e es ih =>
      rw [List.cons_append]
      simp only [NumberedFrom, ih, allocations, List.map_cons, List.sum_cons, Nat.add_assoc, and_assoc]

/-- Events that only carry the current number keep the numbering and allocate nothing. -/
theorem quiet_events {c : ℕ} {E : List Event} (h : ∀ e ∈ E, e.Quiet c) :
    NumberedFrom c E ∧ allocations E = 0 ∧ enqueued E = [] ∧ dispatched E = [] := by
  induction E with
  | nil => simp [NumberedFrom]
  | cons e es ih =>
      obtain ⟨h1, h2, h3, h4⟩ := h e (by simp)
      obtain ⟨i1, i2, i3, i4⟩ := ih fun x hx => h x (by simp [hx])
      refine ⟨⟨h4, by simpa [h3] using i1⟩, ?_, ?_, ?_⟩
      · simp [allocations, h3] at i2 ⊢; exact i2
      · simpa [enqueued, h1] using i3
      · simpa [dispatched, h2] using i4

/-- Enqueued numbers strictly increase and start at the numbering's origin. -/
theorem enqueued_sorted {n : ℕ} {t : List Event} (h : NumberedFrom n t) :
    ((enqueued t).map Prod.fst).Sorted (· < ·) ∧ ∀ p ∈ enqueued t, n ≤ p.1 := by
  induction t generalizing n with
  | nil => simp
  | cons e es ih =>
      obtain ⟨he, hes⟩ := h
      obtain ⟨hs, hge⟩ := ih hes
      cases e with
      | added m =>
          have hm : m.sequenceNumber = n := he _ rfl
          simp only [enqueued, List.flatMap_cons, Event.enqueued, List.singleton_append,
            List.map_cons, List.sorted_cons, List.mem_cons, forall_eq_or_imp] at hs hge ⊢
          refine ⟨⟨fun b hb => ?_, hs⟩, by simp [NotificationMessage.contents, hm], fun p hp => ?_⟩
          · obtain ⟨p, hp, rfl⟩ := List.mem_map.mp hb
            have := hge p hp
            simp only [NotificationMessage.contents, Event.allocates] at this ⊢
            omega
          · have := hge p hp
            simp only [Event.allocates] at this
            omega
      | _ =>
          simp only [enqueued, List.flatMap_cons, Event.enqueued, List.nil_append] at hs hge ⊢
          exact ⟨hs, fun p hp => le_trans (Nat.le_add_right _ _) (hge p hp)⟩

/-- The sequence-number invariant of a subscription. -/
structure SeqInv (s : Subscription) : Prop where
  numbered : NumberedFrom 1 s.trace
  counter : s.sequenceNumberGenerator.counter = 1 + allocations s.trace
  fifo : dispatched s.trace ++ s.pendingNotifications.map (·.notification.contents) = enqueued s.trace
  sent : (s.sentNotifications.map (·.notification.contents)).Sublist (dispatched s.trace)

namespace SeqInv

open Subscription

variable {s s' : Subscription}

/-- A step that emits only quiet events, keeps the generator and the pending queue, and at most
drops entries of the retransmission queue. -/
theorem quiet (h : SeqInv s) (E : List Event)
    (hE : ∀ e ∈ E, e.Quiet s.sequenceNumberGenerator.counter) (ht : s'.trace = s.trace ++ E)
    (hg : s'.sequenceNumberGenerator = s.sequenceNumberGenerator)
    (hp : s'.pendingNotifications = s.pendingNotifications)
    (hs : (s'.sentNotifications.map (·.notification.contents)).Sublist
      (s.sentNotifications.map (·.notification.contents))) : SeqInv s' := by
  obtain ⟨q1, q2, q3, q4⟩ := quiet_events hE
  refine ⟨?_, ?_, ?_, ?_⟩
  · rw [ht, numberedFrom_append]
    exact ⟨h.numbered, by rwa [← h.counter]⟩
  · rw [hg, ht, allocations_append, q2, Nat.add_zero, h.counter]
  · rw [ht, hp, dispatched_append, enqueued_append, q3, q4, List.append_nil, List.append_nil, h.fifo]
  · rw [ht, dispatched_append, q4, List.append_nil]
    exact hs.trans h.sent

theorem congr (h : SeqInv s) (ht : s'.trace = s.trace)
    (hg : s'.sequenceNumberGenerator = s.sequenceNumberGenerator)
    (hp : s'.pendingNotifications = s.pendingNotifications)
    (hs : s'.sentNotifications = s.sentNotifications) : SeqInv s' :=
  h.quiet [] (by simp) (by simpa using ht) hg hp (by rw [hs])

theorem emit (h : SeqInv s) {e : Event} (he : e.Quiet s.sequenceNumberGenerator.counter) :
    SeqInv (s.emit e) :=
  h.quiet [e] (by simpa using he) rfl rfl rfl (List.Sublist.refl _)

theorem addNotificationMessage (h : SeqInv s) (d : List NotificationData)
    (hd : d.length = 1 ∨ d.length = 2) : SeqInv (s.addNotificationMessage d hd) := by
  refine ⟨?_, ?_, ?_, ?_⟩
  · simp only [addNotificationMessage_trace, numberedFrom_append, NumberedFrom, Event.number?,
      Option.some.injEq, ← h.counter]
    exact ⟨h.numbered, fun k hk => hk.symm, trivial⟩
  · simp [h.counter, Event.allocates, SequenceNumberGenerator.next]
    omega
  · simp [← h.fifo, Event.enqueued, Event.dispatched, NotificationMessage.contents]
  · simpa using h.sent.trans (List.sublist_append_left _ _)

theorem addNotificationMessages (h : SeqInv s) (bodies : List NotificationBody) :
    SeqInv (s.addNotificationMessages bodies) := by
  induction bodies generalizing s with
  | nil => exact h
  | cons b bs ih => exact ih (h.addNotificationMessage b.1 b.2)

theorem harvestMonitoredItems (h : SeqInv s) (hv : s.harvestMonitoredItems = .ok s') : SeqInv s' := by
  obtain ⟨bodies, -, rfl⟩ := s.harvestMonitoredItems_eq hv
  have h0 : SeqInv { s with monitoredItems := s.drainMonitoredItems.monitoredItems
                            hasMonitoredItemNotificationsCache := false } := h.congr rfl rfl rfl rfl
  have := h0.addNotificationMessages bodies
  rwa [addNotificationMessages_eq] at this

theorem dispatch (h : SeqInv s) (hp : s.pendingNotifications ≠ []) : SeqInv s.dispatch := by
  obtain ⟨e, rest, he⟩ := List.exists_cons_of_ne_nil hp
  rw [dispatch_of_cons he]
  -- the optional re-tick carries no number
  obtain ⟨q1, q2, q3, q4⟩ := @quiet_events (1 + allocations s.trace)
      (if s.state ≠ .closed ∧ rest ≠ [] then [.reTick] else []) fun x hx => by
    split_ifs at hx
    · obtain rfl := List.mem_singleton.mp hx
      exact Event.quiet_of_unnumbered _ rfl rfl rfl rfl
    · cases hx
  generalize (if s.state ≠ .closed ∧ rest ≠ [] then [Event.reTick] else []) = R at q1 q2 q3 q4 ⊢
  have hfifo := h.fifo
  rw [he] at hfifo
  refine ⟨?_, ?_, ?_, ?_⟩
  · simp only [numberedFrom_append, allocations_append]
    exact ⟨⟨h.numbered, by simp [NumberedFrom, Event.number?, Event.allocates]⟩,
      by simpa [Event.allocates] using q1⟩
  · simp [h.counter, q2, Event.allocates]
  · simpa [q3, q4, Event.dispatched, Event.enqueued, NotificationMessage.contents] using hfifo
  · simpa [q4, Event.dispatched, NotificationMessage.contents] using
      h.sent.append (.refl [e.notification.contents])

theorem processKeepAlive (h : SeqInv s) (a : Bool) : SeqInv (s.processKeepAlive a) := by
  by_cases hk : s.keepAliveCounter+1 < s.maxKeepAliveCount
  · rw [processKeepAlive_of_lt hk]
    exact h.congr rfl rfl rfl rfl
  cases a
  · rw [processKeepAlive_of_ge_refused (not_lt.mp hk)]
    refine h.quiet _ (fun e he => ?_) rfl rfl rfl (.refl _)
    obtain rfl := List.mem_singleton.mp he
    exact Event.quiet_of_number rfl rfl rfl rfl
  · rw [processKeepAlive_of_ge_accepted (not_lt.mp hk)]
    refine h.quiet _ (fun e he => ?_) rfl rfl rfl (.refl _)
    obtain rfl | rfl := List.mem_pair.mp he <;> exact Event.quiet_of_number rfl rfl rfl rfl

theorem processSubscription (h : SeqInv s) {c : ℕ} {a : Bool} (hv : s.processSubscription c a = .ok s') :
    SeqInv s' := by
  obtain ⟨-, ⟨-, rfl⟩ | ⟨-, t, ht, ⟨hp, rfl⟩ | ⟨-, rfl⟩⟩⟩ := processSubscription_cases hv
  · exact h.processKeepAlive a
  all_goals
    have h' : SeqInv t := by
      obtain ⟨rfl, -⟩ | ⟨-, -, hv⟩ := ht
      exacts [h, h.harvestMonitoredItems hv]
  · exact h'.dispatch hp
  · exact h'.processKeepAlive a

/-- Removal events and the closing pair carry no number. -/
theorem terminate (h : SeqInv s) : SeqInv s.terminate := by
  by_cases hc : s.state = .closed
  · rwa [terminate_of_closed hc]
  obtain ⟨E, hE, heq⟩ := terminate_of_ne_closed hc
  rw [heq]
  refine h.quiet (E ++ [.terminated, .onCloseSubscription]) ?_ (List.append_assoc _ _ _) rfl rfl (.refl _)
  intro e he
  obtain he | rfl | rfl := by simpa using he
  · obtain ⟨k, rfl⟩ := hE e he
    exact Event.quiet_of_unnumbered _ rfl rfl rfl rfl
  all_goals exact Event.quiet_of_unnumbered _ rfl rfl rfl rfl

theorem expire (h : SeqInv s) : SeqInv s.expire :=
  ((h.emit (Event.quiet_of_unnumbered _ rfl rfl rfl rfl : Event.expired.Quiet _)).addNotificationMessage
    _ _).terminate

theorem beginTick (h : SeqInv s) : SeqInv s.beginTick := by
  refine h.quiet [.onTick] (fun e he => ?_) rfl rfl rfl ?_
  · obtain rfl := List.mem_singleton.mp he
    exact Event.quiet_of_unnumbered _ rfl rfl rfl rfl
  simp only [beginTick_sentNotifications, discardOldSentNotifications_sentNotifications]
  split_ifs
  · exact (List.take_sublist _ _).map _
  · exact .refl _

theorem tick (h : SeqInv s) {c : ℕ} {a : Bool} (hv : s.tick c a = .ok s') : SeqInv s' := by
  obtain ⟨-, rfl⟩ | ⟨-, -, rfl⟩ | ⟨-, -, hv⟩ := tick_cases hv
  · exact h
  · exact h.beginTick.expire
  obtain ⟨-, -, rfl⟩ | ⟨-, -, -, rfl⟩ | ⟨-, -, rfl⟩ | ⟨-, -, hv⟩ | ⟨-, -, -, hv⟩ := hv
  · exact h.beginTick.congr rfl rfl rfl rfl
  · exact h.beginTick.congr rfl rfl rfl rfl
  · exact h.beginTick.processKeepAlive a
  · exact h.beginTick.processSubscription hv
  · have h' : SeqInv { s.beginTick with hasMonitoredItemNotificationsCache := true } :=
      h.beginTick.congr rfl rfl rfl rfl
    exact h'.processSubscription hv

/-- The transfer notice takes the generator's number and goes to the engine unqueued. -/
theorem notifyTransfer (h : SeqInv s) : SeqInv s.notifyTransfer := by
  rw [notifyTransfer_eq]
  refine ⟨?_, ?_, ?_, ?_⟩
  · simp only [numberedFrom_append, NumberedFrom, Event.number?, Option.some.injEq, ← h.counter]
    exact ⟨h.numbered, fun k hk => hk.symm, trivial⟩
  · simp [h.counter, Event.allocates]
    omega
  · simpa [Event.dispatched, Event.enqueued] using h.fifo
  · simpa [Event.dispatched] using h.sent

theorem step (h : SeqInv s) {ctx : Context} {op : Op} (hv : step ctx s op = .ok s') : SeqInv s' := by
  have h0 : SeqInv (s.emit (.invoked op.call)) :=
    h.emit (Event.quiet_of_unnumbered _ rfl rfl rfl rfl)
  cases op with
  | tick c a => exact h0.tick hv
  | processSubscription c a => exact h0.processSubscription hv
  | modify p =>
      cases Except.ok.inj hv
      exact h0.congr rfl rfl rfl rfl
  | setPublishingMode b =>
      cases Except.ok.inj hv
      exact h0.congr (by rw [setPublishingMode_eq]) (by rw [setPublishingMode_eq])
        (by rw [setPublishingMode_eq]) (by rw [setPublishingMode_eq])
  | resetLifeTimeAndKeepAliveCounters =>
      cases Except.ok.inj hv
      exact h0.congr rfl rfl rfl rfl
  | acknowledgeNotification n =>
      cases Except.ok.inj hv
      obtain ⟨sent, hsent, count, heq⟩ := (s.emit _).acknowledgeNotification_eq n
      rw [heq]
      exact h0.quiet [] (by simp) (by simp) rfl rfl (hsent.map _)
  | notifyTransfer =>
      cases Except.ok.inj hv
      exact h0.notifyTransfer
  | terminate =>
      cases Except.ok.inj hv
      exact h0.terminate
  | createMonitoredItem r i =>
      obtain ⟨res, ht⟩ := step_createMonitoredItem hv
      obtain ⟨E, hE, heq⟩ := createMonitoredItem_eq ht
      rw [heq]
      refine h0.quiet E (fun e he => ?_) rfl rfl rfl (.refl _)
      obtain rfl | rfl := hE
      · cases he
      · obtain rfl := List.mem_singleton.mp he
        exact Event.quiet_of_unnumbered _ rfl rfl rfl rfl
  | removeMonitoredItem i =>
      cases Except.ok.inj hv
      obtain ⟨E, hE, heq⟩ := (s.emit _).removeMonitoredItem_eq i
      rw [heq]
      refine h0.quiet E (fun e he => ?_) rfl rfl rfl (.refl _)
      obtain rfl | rfl := hE
      · cases he
      · obtain rfl := List.mem_singleton.mp he
        exact Event.quiet_of_unnumbered _ rfl rfl rfl rfl
  | sample i n =>
      cases Except.ok.inj hv
      exact h0.congr rfl rfl rfl rfl

theorem create (o : Options) : SeqInv (Subscription.create o) :=
  ⟨trivial, rfl, rfl, .slnil⟩

end SeqInv

theorem Reachable.seqInv {ctx : Context} {A : Subscription → Op → Prop} {s : Subscription}
    (h : Reachable ctx A s) : SeqInv s := by
  induction h with
  | create o => exact SeqInv.create o
  | step _ _ hv ih => exact ih.step hv

namespace SeqInv

variable {s : Subscription}

theorem dispatched_prefix (h : SeqInv s) : dispatched s.trace <+: enqueued s.trace := ⟨_, h.fifo⟩

theorem dispatched_sorted (h : SeqInv s) : ((dispatched s.trace).map Prod.fst).Sorted (· < ·) :=
  (enqueued_sorted h.numbered).1.sublist (h.dispatched_prefix.sublist.map _)

/-- The retransmission queue and then the pending queue, in increasing number. -/
theorem queues_sorted (h : SeqInv s) :
    ((s.sentNotifications ++ s.pendingNotifications).map (·.sequenceNumber)).Sorted (· < ·) := by
  have hsub : ((s.sentNotifications ++ s.pendingNotifications).map (·.notification.contents)).Sublist
      (enqueued s.trace) := by
    rw [← h.fifo, List.map_append]
    exact h.sent.append (.refl _)
  simpa [List.map_map, Function.comp_def, Envelope.sequenceNumber, NotificationMessage.contents] using
    (enqueued_sorted h.numbered).1.sublist (hsub.map Prod.fst)

end SeqInv

/-- A keep-alive carries the number the generator hands out next. No message enqueued after it
has a smaller number; a message dispatched after it with a smaller number was already pending
(enqueued, not yet dispatched) when the keep-alive went out. -/
theorem keepAlive_carries_next_number {ctx : Context} {A : Subscription → Op → Prop} {s : Subscription}
    (h : Reachable ctx A s) {t₁ t₂ : List Event} {id k : ℕ} {accepted : Bool}
    (ht : s.trace = t₁ ++ .sendKeepAliveResponse id k accepted :: t₂) :
    k = 1 + allocations t₁ ∧ (∀ p ∈ enqueued t₂, k ≤ p.1) ∧
    ∀ p ∈ dispatched t₂, p.1 < k → p ∈ enqueued t₁ ∧ p ∉ dispatched t₁ := by
  have hi := h.seqInv
  have hn := hi.numbered
  rw [ht, numberedFrom_append] at hn
  obtain ⟨-, hk, ht₂⟩ := hn
  obtain rfl : k = 1 + allocations t₁ := hk k rfl
  have hge : ∀ p ∈ enqueued t₂, 1 + allocations t₁ ≤ p.1 := (enqueued_sorted ht₂).2
  refine ⟨rfl, hge, fun p hp hlt => ?_⟩
  have hpre := hi.dispatched_prefix
  have hsorted := hi.dispatched_sorted
  simp only [ht, dispatched_append, enqueued_append, dispatched_cons, enqueued_cons, Event.dispatched,
    Event.enqueued, List.nil_append] at hpre hsorted
  have hmem : p ∈ enqueued t₁ ++ enqueued t₂ := hpre.subset (List.mem_append_right _ hp)
  refine ⟨(List.mem_append.mp hmem).resolve_right fun h' => (hge p h').not_lt hlt, fun hd => ?_⟩
  rw [List.map_append] at hsorted
  exact lt_irrefl _ ((List.pairwise_append.mp hsorted).2.2 _ (List.mem_map_of_mem _ hd) _
    (List.mem_map_of_mem _ hp))

/-- The first keep-alive of a fresh subscription announces 1. -/
theorem keepAlive_carries_next_number_first_tick :
    ∃ s, Reachable variableContext (fun _ _ => True) s ∧
      s.trace = [.invoked .tick, .onTick] ++ .sendKeepAliveResponse 0 1 true :: [.keepalive 1] ∧
      1 = 1 + allocations [.invoked .tick, .onTick] ∧ (∀ p ∈ enqueued [.keepalive 1], 1 ≤ p.1) ∧
      ∀ p ∈ dispatched [.keepalive 1], p.1 < 1 →
        p ∈ enqueued [.invoked .tick, .onTick] ∧ p ∉ dispatched [.invoked .tick, .onTick] := by
  have hrun : (run variableContext (Subscription.create {}) [.tick 1 true]).toOption.any
      (fun s => s.trace == [.invoked .tick, .onTick, .sendKeepAliveResponse 0 1 true, .keepalive 1]) =
        true := by
    rw [Subscription.create_of_defaults _ rfl rfl rfl]
    decide
  obtain ⟨s, hs, hp⟩ := (Reachable.create _ : Reachable variableContext (fun _ _ => True) _).exists_of_run
    (fun _ _ _ => trivial) hrun
  have ht : s.trace = [.invoked .tick, .onTick] ++ .sendKeepAliveResponse 0 1 true :: [.keepalive 1] := by
    simpa using hp
  exact ⟨s, hs, ht, keepAlive_carries_next_number hs ht⟩

/-- With one notification per message, a harvest of two notifications leaves message 2 pending;
publishing is then disabled, the keep-alive announces 3, and message 2 follows it. -/
theorem keepAlive_overtaken_by_pending_message :
    ∃ ctx s, Reachable ctx (fun _ _ => True) s ∧ ∃ id k accepted n d more,
      [Event.sendKeepAliveResponse id k accepted, .sendNotificationMessage id n d more false].Sublist
        s.trace ∧ n < k := by
  have hrun : (run variableContext (Subscription.create { maxNotificationsPerPublish := some 1 })
      [.createMonitoredItem valueRequest 1, .sample 1 (.monitoredItemNotification 1 7),
       .sample 1 (.monitoredItemNotification 1 8), .tick 1 true, .setPublishingMode false,
       .tick 1 true, .tick 1 true, .setPublishingMode true, .tick 1 true]).toOption.any
      (fun s => decide ([Event.sendKeepAliveResponse 0 3 true, .sendNotificationMessage 0 2
        [.dataChangeNotification [.monitoredItemNotification 1 8]] false false].Sublist s.trace)) = true := by
    rw [Subscription.create_of_defaults _ rfl rfl rfl]
    decide
  obtain ⟨s, hs, hp⟩ := (Reachable.create _ : Reachable variableContext (fun _ _ => True) _).exists_of_run
    (fun _ _ _ => trivial) hrun
  exact ⟨_, s, hs, _, _, _, _, _, _, of_decide_eq_true hp, by decide⟩

end OpcuaServer
