import OpcuaServer.Sequencing

/-!
# The unacknowledged count and the retransmission queue

`_publish_pending_notifications` moves each dispatched message to `_sent_notifications` and adds
one to `_unacknowledgedMessageCount`; `acknowledgeNotification` takes one entry out and subtracts
one. `discardOldSentNotifications`, the first thing every `_tick` does, takes entries out and
subtracts nothing. So the count minus the length of the queue (`unacknowledgedGap`) never falls:
acknowledging and dispatching keep it, trimming raises it, and nothing else touches either side
(`step_unacknowledgedGap_le`). It is zero at creation, so in every run, whatever the engine and the
client do, the count is at least the length of the queue and never negative
(`sent_length_le_unacknowledged`). Once the trim has dropped messages the two never meet again.

`acknowledgeNotification` scans the whole queue and keeps the last index whose number matches.
The numbers in the queue are distinct in every run (they strictly increase, `SeqInv`), so the
scan finds the one entry carrying the number, if any: acknowledging answers Good exactly for the
available numbers, takes out that one entry and nothing else, and a second acknowledgement of the
same number is refused (`acknowledgeNotification_good_iff_available`). For the same reason
`getMessageForSequenceNumber`, whose first match Republish answers with, returns the one message
dispatched with the number asked for (`republish_returns_dispatched_message`).
-/

namespace OpcuaServer

namespace Subscription

/-- Messages counted as unacknowledged that `_sent_notifications` no longer holds. -/
def unacknowledgedGap (s : Subscription) : ℤ := s.unacknowledgedMessageCount - s.sentNotifications.length

/-- An index `lastIndexOf` returns is the one it started with or a position of the list. -/
theorem lastIndexOf_lt {n i j : ℕ} {found : Option ℕ} {l : List Envelope}
    (h : lastIndexOf n i found l = some j) : found = some j ∨ j < i + l.length := by
  induction l generalizing i found with
  | nil => exact .inl h
  | cons e l ih =>
      rw [lastIndexOf] at h
      rcases ih h with hf | hj
      · split_ifs at hf
        · exact .inr (by simp only [Option.some.injEq] at hf; simp only [List.length_cons]; omega)
        · exact .inl hf
      · exact .inr (by simp only [List.length_cons]; omega)

/-- Acknowledging keeps the gap: a hit removes one entry and uncounts it, a miss changes nothing. -/
theorem acknowledgeNotification_unacknowledgedGap (s : Subscription) (n : ℕ) :
    (s.acknowledgeNotification n).2.unacknowledgedGap = s.unacknowledgedGap := by
  unfold acknowledgeNotification
  split
  · rfl
  · next i hi =>
      have hlt : i < s.sentNotifications.length := by
        simpa using (lastIndexOf_lt hi).resolve_left (by simp)
      simp only [unacknowledgedGap, List.length_eraseIdx_of_lt hlt]
      omega

/-- Past every entry numbered `n`, the scan keeps what it had found. -/
theorem lastIndexOf_of_not_mem {n i : ℕ} {found : Option ℕ} {l : List Envelope}
    (h : n ∉ l.map (·.sequenceNumber)) : lastIndexOf n i found l = found := by
  induction l generalizing i found with
  | nil => rfl
  | cons e l ih =>
      rw [List.map_cons, List.mem_cons, not_or] at h
      rw [lastIndexOf, if_neg (Ne.symm h.1), ih h.2]

/-- An entry numbered `n` that no later entry repeats is the one the scan returns. -/
theorem lastIndexOf_of_last {n i : ℕ} {found : Option ℕ} {l₁ l₂ : List Envelope} {e : Envelope}
    (he : e.sequenceNumber = n) (h₂ : n ∉ l₂.map (·.sequenceNumber)) :
    lastIndexOf n i found (l₁ ++ e :: l₂) = some (i + l₁.length) := by
  induction l₁ generalizing i found with
  | nil => rw [List.nil_append, lastIndexOf, if_pos he, lastIndexOf_of_not_mem h₂]; rfl
  | cons x l₁ ih =>
      rw [List.cons_append, lastIndexOf, ih, List.length_cons]
      congr 1
      omega

variable {s : Subscription} {n : ℕ}

theorem acknowledgeNotification_of_not_mem (h : n ∉ s.getAvailableSequenceNumbers) :
    s.acknowledgeNotification n = (.badSequenceNumberUnknown, s) := by
  rw [acknowledgeNotification, @lastIndexOf_of_not_mem n 0 none s.sentNotifications h]

theorem acknowledgeNotification_of_split {l₁ l₂ : List Envelope} {e : Envelope}
    (hs : s.sentNotifications = l₁ ++ e :: l₂) (he : e.sequenceNumber = n)
    (h₂ : n ∉ l₂.map (·.sequenceNumber)) :
    s.acknowledgeNotification n =
      (.good, { s with sentNotifications := l₁ ++ l₂
                       unacknowledgedMessageCount := s.unacknowledgedMessageCount - 1 }) := by
  simp only [acknowledgeNotification, hs, lastIndexOf_of_last he h₂, Nat.zero_add,
    List.eraseIdx_append_of_length_le le_rfl, Nat.sub_self, List.eraseIdx_cons_zero]

/-- With distinct numbers, an available number is carried by exactly one entry. -/
theorem exists_split_of_mem (hnd : s.getAvailableSequenceNumbers.Nodup)
    (h : n ∈ s.getAvailableSequenceNumbers) : ∃ l₁ e l₂, s.sentNotifications = l₁ ++ e :: l₂ ∧
      e.sequenceNumber = n ∧ n ∉ (l₁ ++ l₂).map (·.sequenceNumber) := by
  obtain ⟨e, he, rfl⟩ := List.mem_map.mp h
  obtain ⟨l₁, l₂, hs⟩ := List.append_of_mem he
  refine ⟨l₁, e, l₂, hs, rfl, ?_⟩
  rw [getAvailableSequenceNumbers, hs, List.map_append, List.map_cons, List.nodup_middle] at hnd
  simpa only [List.map_append] using (List.nodup_cons.mp hnd).1

end Subscription

open Subscription

/-- In every run the numbers in the retransmission queue are distinct. -/
theorem Reachable.availableSequenceNumbers_nodup {ctx : Context} {A : Subscription → Op → Prop}
    {s : Subscription} (h : Reachable ctx A s) : s.getAvailableSequenceNumbers.Nodup := by
  have hs := h.seqInv.queues_sorted
  rw [List.map_append] at hs
  exact List.Sorted.nodup (List.Pairwise.sublist (List.sublist_append_left _ _) hs)

/-- In every reachable state, acknowledging `n` answers Good exactly when `n` is available; then
it removes the one entry numbered `n`, keeps the others in order and uncounts one message.
Otherwise it answers `BadSequenceNumberUnknown` and changes nothing, so a second acknowledgement
of the same number is always refused. -/
theorem acknowledgeNotification_good_iff_available {ctx : Context} {A : Subscription → Op → Prop}
    {s : Subscription} (h : Reachable ctx A s) (n : ℕ) :
    ((s.acknowledgeNotification n).1 = .good ↔ n ∈ s.getAvailableSequenceNumbers) ∧
    (n ∈ s.getAvailableSequenceNumbers → ∃ l₁ e l₂, s.sentNotifications = l₁ ++ e :: l₂ ∧
      e.sequenceNumber = n ∧ n ∉ (l₁ ++ l₂).map (·.sequenceNumber) ∧
      (s.acknowledgeNotification n).2 =
        { s with sentNotifications := l₁ ++ l₂
                 unacknowledgedMessageCount := s.unacknowledgedMessageCount - 1 }) ∧
    (n ∉ s.getAvailableSequenceNumbers → s.acknowledgeNotification n = (.badSequenceNumberUnknown, s)) ∧
    ((s.acknowledgeNotification n).2.acknowledgeNotification n).1 = .badSequenceNumberUnknown := by
  by_cases hn : n ∈ s.getAvailableSequenceNumbers
  · obtain ⟨l₁, e, l₂, hs, he, hu⟩ := exists_split_of_mem h.availableSequenceNumbers_nodup hn
    have hack := acknowledgeNotification_of_split hs he fun h₂ => hu (by simp [h₂])
    refine ⟨by simp [hack, hn], fun _ => ⟨l₁, e, l₂, hs, he, hu, by rw [hack]⟩, absurd hn, ?_⟩
    rw [hack]
    exact congrArg Prod.fst (acknowledgeNotification_of_not_mem hu)
  · have hack := acknowledgeNotification_of_not_mem hn
    exact ⟨by simp [hack, hn], fun h => absurd h hn, fun _ => hack, by rw [hack, hack]⟩

/-- The one message of a dispatched cycle is acknowledged once, then refused. -/
theorem acknowledgeNotification_twice_after_dispatch :
    ∃ s, Reachable variableContext (fun _ _ => True) s ∧ s.getAvailableSequenceNumbers = [1] ∧
      (s.acknowledgeNotification 1).1 = .good ∧
      ((s.acknowledgeNotification 1).2.acknowledgeNotification 1).1 = .badSequenceNumberUnknown := by
  obtain ⟨s, hs, hp⟩ := (Reachable.create _ : Reachable variableContext (fun _ _ => True) _).exists_of_run
    (fun _ _ _ => trivial)
    (show (run variableContext (Subscription.create {})
        [.createMonitoredItem valueRequest 1, .sample 1 (.monitoredItemNotification 1 0), .tick 1 true]).toOption.any
      (fun s => s.getAvailableSequenceNumbers == [1]) = true by
        rw [Subscription.create_of_defaults _ rfl rfl rfl]
        decide)
  have hav : s.getAvailableSequenceNumbers = [1] := by simpa using hp
  have hack := acknowledgeNotification_good_iff_available hs 1
  exact ⟨s, hs, hav, hack.1.mpr (by simp [hav]), hack.2.2.2⟩

/-- In every reachable state, `getMessageForSequenceNumber n`, which Republish answers from, finds a
message exactly when `n` is available, and what it finds is the message `send_notification_message`
received with the number `n`: a queue entry carrying `n` whose contents were dispatched, and no other
dispatched message carries `n`. -/
theorem republish_returns_dispatched_message {ctx : Context} {A : Subscription → Op → Prop}
    {s : Subscription} (h : Reachable ctx A s) (n : ℕ) :
    ((s.getMessageForSequenceNumber n).isSome ↔ n ∈ s.getAvailableSequenceNumbers) ∧
    ∀ e, s.getMessageForSequenceNumber n = some e →
      e ∈ s.sentNotifications ∧ e.sequenceNumber = n ∧ e.notification.contents ∈ dispatched s.trace ∧
      ∀ d, (n, d) ∈ dispatched s.trace → e.notification.notificationData = d := by
  have hs := h.seqInv
  refine ⟨by simp [getMessageForSequenceNumber, getAvailableSequenceNumbers, Envelope.sequenceNumber], ?_⟩
  intro e he
  have hmem := List.mem_of_find?_eq_some he
  have hn : e.sequenceNumber = n := by simpa using List.find?_some he
  -- the queue holds dispatched messages, and the dispatched numbers are distinct
  have hd : e.notification.contents ∈ dispatched s.trace := hs.sent.subset (List.mem_map_of_mem _ hmem)
  refine ⟨hmem, hn, hd, fun d hnd => ?_⟩
  have heq : e.notification.contents = (n, d) := List.inj_on_of_nodup_map hs.dispatched_sorted.nodup hd hnd hn
  exact congrArg Prod.snd heq

/-- After one dispatched cycle, Republish finds message 1, with the one value that was sampled. -/
theorem republish_returns_dispatched_message_after_dispatch :
    ∃ s, Reachable variableContext (fun _ _ => True) s ∧ s.getAvailableSequenceNumbers = [1] ∧
      (s.getMessageForSequenceNumber 1).isSome ∧
      ∀ e, s.getMessageForSequenceNumber 1 = some e → e.notification.contents ∈ dispatched s.trace := by
  obtain ⟨s, hs, hp⟩ := (Reachable.create _ : Reachable variableContext (fun _ _ => True) _).exists_of_run
    (fun _ _ _ => trivial)
    (show (run variableContext (Subscription.create {})
        [.createMonitoredItem valueRequest 1, .sample 1 (.monitoredItemNotification 1 0), .tick 1 true]).toOption.any
      (fun s => s.getAvailableSequenceNumbers == [1]) = true by
        rw [Subscription.create_of_defaults _ rfl rfl rfl]
        decide)
  have hav : s.getAvailableSequenceNumbers = [1] := by simpa using hp
  have hrep := republish_returns_dispatched_message hs 1
  exact ⟨s, hs, hav, hrep.1.mpr (by simp [hav]), fun e he => (hrep.2 e he).2.2.1⟩

section Gap

variable {s t : Subscription}

theorem processKeepAlive_unacknowledgedGap (a : Bool) :
    (s.processKeepAlive a).unacknowledgedGap = s.unacknowledgedGap := by
  simp [unacknowledgedGap]

theorem dispatch_unacknowledgedGap (hp : s.pendingNotifications ≠ []) :
    s.dispatch.unacknowledgedGap = s.unacknowledgedGap := by
  obtain ⟨e, rest, he⟩ := List.exists_cons_of_ne_nil hp
  simp only [dispatch_of_cons he, unacknowledgedGap, List.length_append, List.length_singleton]
  push_cast
  ring

theorem harvestMonitoredItems_unacknowledgedGap (hv : s.harvestMonitoredItems = .ok t) :
    t.unacknowledgedGap = s.unacknowledgedGap := by
  obtain ⟨bodies, -, rfl⟩ := s.harvestMonitoredItems_eq hv
  rfl

theorem processSubscription_unacknowledgedGap {c : ℕ} {a : Bool} (hv : s.processSubscription c a = .ok t) :
    t.unacknowledgedGap = s.unacknowledgedGap := by
  obtain ⟨-, ⟨-, rfl⟩ | ⟨-, u, hu, ⟨hp, rfl⟩ | ⟨-, rfl⟩⟩⟩ := processSubscription_cases hv
  · exact processKeepAlive_unacknowledgedGap a
  all_goals
    have hu' : u.unacknowledgedGap = s.unacknowledgedGap := by
      obtain ⟨rfl, -⟩ | ⟨-, -, hv⟩ := hu
      exacts [rfl, harvestMonitoredItems_unacknowledgedGap hv]
  · exact (dispatch_unacknowledgedGap hp).trans hu'
  · exact (processKeepAlive_unacknowledgedGap a).trans hu'

/-- The trim is the one place the gap grows: it drops entries and keeps the count. -/
theorem beginTick_unacknowledgedGap : s.unacknowledgedGap ≤ s.beginTick.unacknowledgedGap := by
  have hle : s.discardOldSentNotifications.sentNotifications.length ≤ s.sentNotifications.length := by
    rw [discardOldSentNotifications_sentNotifications]
    split_ifs
    exacts [List.length_take_le' _ _, le_rfl]
  simp only [unacknowledgedGap, beginTick_unacknowledgedMessageCount, beginTick_sentNotifications,
    discardOldSentNotifications_unacknowledgedMessageCount]
  omega

theorem terminate_unacknowledgedGap : s.terminate.unacknowledgedGap = s.unacknowledgedGap := by
  by_cases hc : s.state = .closed
  · rw [terminate_of_closed hc]
  · obtain ⟨E, -, heq⟩ := terminate_of_ne_closed hc
    rw [heq]
    rfl

theorem tick_unacknowledgedGap {c : ℕ} {a : Bool} (hv : s.tick c a = .ok t) :
    s.unacknowledgedGap ≤ t.unacknowledgedGap := by
  obtain ⟨-, rfl⟩ | ⟨hc, -, rfl⟩ | ⟨-, -, hv⟩ := tick_cases hv
  · exact le_rfl
  · obtain ⟨E, -, heq⟩ := @expire_of_ne_closed s.beginTick (by simpa using hc)
    rw [heq]
    exact beginTick_unacknowledgedGap
  obtain ⟨-, -, rfl⟩ | ⟨-, -, -, rfl⟩ | ⟨-, -, rfl⟩ | ⟨-, -, hv⟩ | ⟨-, -, -, hv⟩ := hv
  · exact beginTick_unacknowledgedGap
  · exact beginTick_unacknowledgedGap
  · exact beginTick_unacknowledgedGap.trans_eq (processKeepAlive_unacknowledgedGap a).symm
  · exact beginTick_unacknowledgedGap.trans_eq (processSubscription_unacknowledgedGap hv).symm
  · exact beginTick_unacknowledgedGap.trans_eq (processSubscription_unacknowledgedGap hv).symm

/-- No operation lowers the gap. -/
theorem step_unacknowledgedGap_le {ctx : Context} {op : Op} (hv : step ctx s op = .ok t) :
    s.unacknowledgedGap ≤ t.unacknowledgedGap := by
  cases op with
  | tick c a => exact @tick_unacknowledgedGap (s.emit (.invoked .tick)) t c a hv
  | processSubscription c a =>
      exact (@processSubscription_unacknowledgedGap (s.emit (.invoked .processSubscription)) t c a hv).ge
  | acknowledgeNotification n =>
      cases Except.ok.inj hv
      exact ((s.emit _).acknowledgeNotification_unacknowledgedGap n).ge
  | terminate =>
      cases Except.ok.inj hv
      exact terminate_unacknowledgedGap.ge
  | createMonitoredItem r i =>
      obtain ⟨res, hc⟩ := step_createMonitoredItem hv
      obtain ⟨E, -, heq⟩ := createMonitoredItem_eq hc
      rw [heq]
      exact le_rfl
  | removeMonitoredItem i =>
      cases Except.ok.inj hv
      obtain ⟨E, -, heq⟩ := (s.emit _).removeMonitoredItem_eq i
      rw [heq]
      exact le_rfl
  | setPublishingMode b =>
      cases Except.ok.inj hv
      rw [setPublishingMode_eq]
      exact le_rfl
  | _ =>
      cases Except.ok.inj hv
      exact le_rfl

end Gap

/-- In every run, whatever the engine and the client do, `_unacknowledgedMessageCount` is at least
the number of messages held for retransmission, and so never negative. -/
theorem sent_length_le_unacknowledged {ctx : Context} {A : Subscription → Op → Prop} {s : Subscription}
    (h : Reachable ctx A s) : (s.sentNotifications.length : ℤ) ≤ s.unacknowledgedMessageCount := by
  suffices 0 ≤ s.unacknowledgedGap by rw [unacknowledgedGap] at this; omega
  induction h with
  | create o => simp [unacknowledgedGap, Subscription.create]
  | step _ _ hv ih => exact ih.trans (step_unacknowledgedGap_le hv)

/-- After one sampled value has been dispatched, the count is one and covers the queue. -/
theorem sent_length_le_unacknowledged_after_dispatch :
    ∃ s, Reachable variableContext (fun _ _ => True) s ∧ s.unacknowledgedMessageCount = 1 ∧
      (s.sentNotifications.length : ℤ) ≤ s.unacknowledgedMessageCount := by
  obtain ⟨s, hs, hp⟩ := (Reachable.create _ : Reachable variableContext (fun _ _ => True) _).exists_of_run
    (fun _ _ _ => trivial)
    (show (run variableContext (Subscription.create {})
        [.createMonitoredItem valueRequest 1, .sample 1 (.monitoredItemNotification 1 0), .tick 1 true]).toOption.any
      (fun s => s.unacknowledgedMessageCount == 1) = true by
        rw [Subscription.create_of_defaults _ rfl rfl rfl]
        decide)
  exact ⟨s, hs, by simpa using hp, sent_length_le_unacknowledged hs⟩

end OpcuaServer
