import OpcuaServer.Subscription
import Mathlib.Algebra.Order.Floor.Div

/-!
# Harvesting the monitored items

`_harvestMonitoredItems` drains every monitored item, in key order, into one list, cuts it into
chunks of at most `maxNotificationsPerPublish` entries (all of it when that is `0`) and turns each
chunk into the one or two entries of a NotificationMessage: a `DataChangeNotification` with the
chunk's data changes, then an `EventNotificationList` with its events.

The loop of `extract_notifications_chunk` is `while (n)`. It runs `n` times when `n ≥ 0`, never
when `n` is `NaN` (an `undefined` limit), and forever when `n < 0`; the fuel below is enough for
the first case and no fuel is enough for the last (`chunkLoop_of_neg`). An empty chunk fails the
assertion that a message has one or two entries.
-/

namespace OpcuaServer

/-- The `n` of `extract_notifications_chunk`; `none` is the `NaN` of `Math.min(len, undefined)`. -/
def chunkSize (maxNotificationsPerPublish : Option ℤ) (length : ℕ) : Option ℤ :=
  match maxNotificationsPerPublish with
  | some m => some (if m = 0 then length else min length m)
  | none => none

/-- `while (n) { chunk.push(items.shift()); n--; }`. On an empty queue `shift()` yields
`undefined`, which only happens on the diverging path (`n < 0`) and is not pushed here. -/
def chunkLoop {α : Type} : ℕ → ℤ → List α → List α → Option (List α × List α)
  | 0, _, _, _ => none
  | fuel+1, n, chunk, items =>
      if n = 0 then some (chunk, items) else chunkLoop fuel (n-1) (chunk ++ items.head?.toList) items.tail

def extractNotificationsChunk (items : List ItemNotification) (maxNotificationsPerPublish : Option ℤ) :
    Except Fault (List ItemNotification × List ItemNotification) :=
  match chunkSize maxNotificationsPerPublish items.length with
  | none => .ok ([], items)
  | some n =>
      match chunkLoop (items.length+1) n [] items with
      | some r => .ok r
      | none => .error .diverges

/-- The one or two `notificationData` entries of a chunk, data changes first. -/
def notificationDataOf (chunk : List ItemNotification) : List NotificationData :=
  let dataChanged := chunk.filter (·.isMonitoredItemNotification)
  let events := chunk.filter (·.isEventFieldList)
  (if dataChanged.isEmpty then [] else [.dataChangeNotification dataChanged]) ++
    (if events.isEmpty then [] else [.eventNotificationList events])

/-- The `notificationData` of one message to enqueue. -/
abbrev NotificationBody := {d : List NotificationData // d.length = 1 ∨ d.length = 2}

/-- `while (all_notifications.length > 0)`; every round removes a non-empty chunk, so fuel equal
to the length suffices (`collectLoop` never reaches its `0` case from there). -/
def collectLoop (maxNotificationsPerPublish : Option ℤ) :
    ℕ → List ItemNotification → Except Fault (List NotificationBody)
  | _, [] => .ok []
  | 0, _::_ => .error .diverges
  | fuel+1, items@(_::_) =>
      match extractNotificationsChunk items maxNotificationsPerPublish with
      | .error f => .error f
      | .ok (chunk, rest) =>
          if h : (notificationDataOf chunk).length = 1 ∨ (notificationDataOf chunk).length = 2 then
            match collectLoop maxNotificationsPerPublish fuel rest with
            | .error f => .error f
            | .ok more => .ok (⟨notificationDataOf chunk, h⟩ :: more)
          else .error (.assertion "notifications.length === 1 || notifications.length === 2")

theorem chunkLoop_of_neg {α : Type} {n : ℤ} (hn : n < 0) (fuel : ℕ) (chunk items : List α) :
    chunkLoop fuel n chunk items = none := by
  induction fuel generalizing n chunk items with
  | zero => rfl
  | succ fuel ih => simp only [chunkLoop, if_neg hn.ne, ih (by omega : n-1 < 0)]

theorem chunkLoop_of_nonneg {α : Type} (fuel : ℕ) (n : ℕ) (chunk items : List α)
    (hn : n ≤ items.length) (hf : n < fuel) :
    chunkLoop fuel n chunk items = some (chunk ++ items.take n, items.drop n) := by
  induction fuel generalizing n chunk items with
  | zero => omega
  | succ fuel ih =>
      cases n with
      | zero => simp [chunkLoop]
      | succ n =>
          cases items with
          | nil => simp at hn
          | cons x xs =>
              simp only [chunkLoop, Nat.cast_succ, add_sub_cancel_right]
              rw [if_neg (by omega), ih n _ _ (by simpa using hn) (by omega)]
              simp

theorem extractNotificationsChunk_of_neg {k : ℤ} (hk : k < 0) (items : List ItemNotification) :
    extractNotificationsChunk items (some k) = .error .diverges := by
  have hn : min (items.length : ℤ) k = k := min_eq_right (by omega)
  simp only [extractNotificationsChunk, chunkSize, if_neg hk.ne, hn, chunkLoop_of_neg hk]

theorem extractNotificationsChunk_none (items : List ItemNotification) :
    extractNotificationsChunk items none = .ok ([], items) := rfl

/-- With a non-negative limit the loop runs `n` times, `n` the limit or the whole length. -/
theorem extractNotificationsChunk_of_nonneg {k : ℤ} (hk : 0 ≤ k) (items : List ItemNotification) :
    extractNotificationsChunk items (some k) =
      .ok (items.take (if k = 0 then items.length else min items.length k.toNat),
           items.drop (if k = 0 then items.length else min items.length k.toNat)) := by
  have hsize : chunkSize (some k) items.length =
      some ((if k = 0 then items.length else min items.length k.toNat : ℕ) : ℤ) := by
    by_cases h0 : k = 0
    · simp only [chunkSize, if_pos h0]
    · simp only [chunkSize, if_neg h0, Nat.cast_min, Int.toNat_of_nonneg hk]
  simp only [extractNotificationsChunk, hsize]
  rw [chunkLoop_of_nonneg _ _ _ _ (by split_ifs <;> simp) (by split_ifs <;> omega), List.nil_append]

theorem collectLoop_of_neg {k : ℤ} (hk : k < 0) (fuel : ℕ) (items : List ItemNotification)
    (hi : items ≠ []) (hf : 0 < fuel) : collectLoop (some k) fuel items = .error .diverges := by
  obtain ⟨fuel, rfl⟩ : ∃ f, fuel = f+1 := ⟨fuel-1, by omega⟩
  obtain ⟨x, xs, rfl⟩ := List.exists_cons_of_ne_nil hi
  simp only [collectLoop, extractNotificationsChunk_of_neg hk]

theorem collectLoop_none (fuel : ℕ) (items : List ItemNotification) (hi : items ≠ [])
    (hf : 0 < fuel) : collectLoop none fuel items =
      .error (.assertion "notifications.length === 1 || notifications.length === 2") := by
  obtain ⟨fuel, rfl⟩ : ∃ f, fuel = f+1 := ⟨fuel-1, by omega⟩
  obtain ⟨x, xs, rfl⟩ := List.exists_cons_of_ne_nil hi
  simp [collectLoop, extractNotificationsChunk_none, notificationDataOf]

/-- Enqueued messages, numbered from `c`, all stamped with the same tick. -/
def numberBodies (c startTick : ℕ) : List NotificationBody → List Envelope
  | [] => []
  | b::bs => ⟨⟨c, b.1, b.2⟩, startTick⟩ :: numberBodies (c+1) startTick bs

@[simp] theorem numberBodies_length (c t : ℕ) (bs : List NotificationBody) :
    (numberBodies c t bs).length = bs.length := by
  induction bs generalizing c <;> simp [numberBodies, *]

theorem mem_numberBodies {c t : ℕ} {bs : List NotificationBody} {e : Envelope}
    (h : e ∈ numberBodies c t bs) : ∃ b ∈ bs, e.notification.notificationData = b.1 := by
  induction bs generalizing c with
  | nil => simp [numberBodies] at h
  | cons b bs ih =>
      rcases List.mem_cons.mp h with rfl | h
      · exact ⟨b, List.mem_cons_self _ _, rfl⟩
      · obtain ⟨b', hb', he⟩ := ih h
        exact ⟨b', List.mem_cons_of_mem _ hb', he⟩

/-- A harvested message holds data changes and events, never a status change. -/
theorem statusChangeNotification_not_mem_notificationDataOf (chunk : List ItemNotification)
    (c : StatusCode) : .statusChangeNotification c ∉ notificationDataOf chunk := by
  simp only [notificationDataOf]
  split_ifs <;> simp

theorem collectLoop_no_statusChange {m : Option ℤ} {fuel : ℕ} {items : List ItemNotification}
    {bodies : List NotificationBody} (h : collectLoop m fuel items = .ok bodies) :
    ∀ b ∈ bodies, ∀ c, .statusChangeNotification c ∉ b.1 := by
  induction fuel generalizing items bodies with
  | zero =>
      cases items <;> simp [collectLoop] at h
      subst h
      simp
  | succ fuel ih =>
      cases items with
      | nil =>
          simp [collectLoop] at h
          subst h
          simp
      | cons x xs =>
          simp only [collectLoop] at h
          split at h
          · cases h
          split_ifs at h with hl
          split at h
          · cases h
          cases h
          rintro b (_ | ⟨_, hb⟩) c
          · exact statusChangeNotification_not_mem_notificationDataOf _ c
          · exact ih ‹_› b hb c

/-- A non-empty queue never yields an empty harvest. -/
theorem collectLoop_ne_nil {m : Option ℤ} {fuel : ℕ} {items : List ItemNotification}
    {bodies : List NotificationBody} (h : collectLoop m fuel items = .ok bodies) (hi : items ≠ []) :
    bodies ≠ [] := by
  obtain ⟨x, xs, rfl⟩ := List.exists_cons_of_ne_nil hi
  cases fuel with
  | zero => simp [collectLoop] at h
  | succ fuel =>
      simp only [collectLoop] at h
      split at h
      · cases h
      split_ifs at h
      split at h
      · cases h
      cases h
      simp

/-! ## The chunks under a non-negative limit -/

/-- A non-empty chunk has a data-change entry, an event entry, or both. -/
theorem notificationDataOf_length {chunk : List ItemNotification} (hc : chunk ≠ []) :
    (notificationDataOf chunk).length = 1 ∨ (notificationDataOf chunk).length = 2 := by
  obtain ⟨x, xs, rfl⟩ := List.exists_cons_of_ne_nil hc
  cases hx : x.isMonitoredItemNotification <;>
    simp only [notificationDataOf, List.filter_cons, ItemNotification.isEventFieldList_eq_not, hx,
      Bool.not_false, Bool.not_true, Bool.false_eq_true, ↓reduceIte, List.isEmpty_cons] <;>
    split_ifs <;> simp

/-- The data changes a `notificationData` entry carries. -/
def NotificationData.dataChanges : NotificationData → List ItemNotification
  | .dataChangeNotification monitoredItems => monitoredItems
  | _ => []

/-- The events a `notificationData` entry carries. -/
def NotificationData.events : NotificationData → List ItemNotification
  | .eventNotificationList events => events
  | _ => []

@[simp] theorem flatMap_dataChanges_notificationDataOf (chunk : List ItemNotification) :
    (notificationDataOf chunk).flatMap NotificationData.dataChanges =
      chunk.filter (·.isMonitoredItemNotification) := by
  simp only [notificationDataOf, List.flatMap_append]
  cases chunk.filter (·.isMonitoredItemNotification) <;> cases chunk.filter (·.isEventFieldList) <;> simp [NotificationData.dataChanges]

@[simp] theorem flatMap_events_notificationDataOf (chunk : List ItemNotification) :
    (notificationDataOf chunk).flatMap NotificationData.events = chunk.filter (·.isEventFieldList) := by
  simp only [notificationDataOf, List.flatMap_append]
  cases chunk.filter (·.isMonitoredItemNotification) <;> cases chunk.filter (·.isEventFieldList) <;> simp [NotificationData.events]

/-- What the harvest loop makes of the queue `items` under a limit `k ≥ 0`: consecutive non-empty
chunks that make up the queue, all of it in one chunk when `k = 0`, otherwise chunks of `k`
entries but the last, which has at most `k`; and one message per chunk. -/
structure Chunked (k : ℤ) (items : List ItemNotification) (chunks : List (List ItemNotification))
    (bodies : List NotificationBody) : Prop where
  flatten_eq : chunks.flatten = items
  ne_nil : ∀ c ∈ chunks, c ≠ []
  length_le_one : k = 0 → chunks.length ≤ 1
  length_le : 0 < k → ∀ c ∈ chunks, c.length ≤ k.toNat
  length_dropLast : 0 < k → ∀ c ∈ chunks.dropLast, c.length = k.toNat
  bodies_eq : bodies.map Subtype.val = chunks.map notificationDataOf

theorem Chunked.nil (k : ℤ) : Chunked k [] [] [] :=
  ⟨rfl, by simp, by simp, by simp, by simp, rfl⟩

/-- Under a non-negative limit the loop returns with fuel equal to the queue's length. -/
theorem collectLoop_chunked {k : ℤ} (hk : 0 ≤ k) {fuel : ℕ} {items : List ItemNotification}
    (hf : items.length ≤ fuel) :
    ∃ chunks bodies, collectLoop (some k) fuel items = .ok bodies ∧ Chunked k items chunks bodies := by
  induction fuel generalizing items with
  | zero =>
      obtain rfl := List.eq_nil_of_length_eq_zero (Nat.le_zero.mp hf)
      exact ⟨[], [], rfl, .nil k⟩
  | succ fuel ih =>
      cases items with
      | nil => exact ⟨[], [], rfl, .nil k⟩
      | cons x xs =>
          have hn : 0 < (if k = 0 then (x::xs).length else min (x::xs).length k.toNat) ∧
              (if k = 0 then (x::xs).length else min (x::xs).length k.toNat) ≤ (x::xs).length := by
            split_ifs <;> simp only [List.length_cons] <;> omega
          simp only [collectLoop, extractNotificationsChunk_of_nonneg hk]
          generalize hsize : (if k = 0 then (x::xs).length else min (x::xs).length k.toNat) = n at hn ⊢
          have hchunk : (x::xs).take n ≠ [] := by simp [List.take_eq_nil_iff]; omega
          have hdrop : ((x::xs).drop n).length ≤ fuel := by
            simp only [List.length_drop, List.length_cons] at hf ⊢; omega
          obtain ⟨chunks, more, hmore, hc⟩ := ih hdrop
          -- a chunk follows only when this one stopped at the limit
          have hrest : chunks ≠ [] → n = k.toNat ∧ k ≠ 0 := by
            intro hne
            obtain ⟨c, hmem⟩ := List.exists_mem_of_ne_nil _ hne
            have hd : (x::xs).drop n ≠ [] := hc.flatten_eq ▸ by
              simp only [ne_eq, List.flatten_eq_nil_iff, not_forall]; exact ⟨c, hmem, hc.ne_nil c hmem⟩
            simp only [ne_eq, List.drop_eq_nil_iff, not_le] at hd
            split_ifs at hsize with h0 <;> omega
          have hnk (h0 : 0 < k) : n ≤ k.toNat := by rw [← hsize, if_neg h0.ne']; exact min_le_right _ _
          refine ⟨(x::xs).take n :: chunks, _, by rw [dif_pos (notificationDataOf_length hchunk), hmore],
            ⟨by simp [hc.flatten_eq], ?_, ?_, ?_, ?_, by simp [hc.bodies_eq]⟩⟩
          · rintro c (_ | ⟨_, hmem⟩)
            exacts [hchunk, hc.ne_nil c hmem]
          · intro h0
            rcases chunks with _ | ⟨d, ds⟩
            exacts [le_rfl, absurd h0 (hrest (List.cons_ne_nil _ _)).2]
          · rintro h0 c (_ | ⟨_, hmem⟩)
            exacts [(List.length_take_le _ _).trans (hnk h0), hc.length_le h0 c hmem]
          · intro h0
            rcases chunks with _ | ⟨d, ds⟩
            · simp
            · rw [List.dropLast_cons_of_ne_nil (List.cons_ne_nil _ _)]
              rintro c (_ | ⟨_, hmem⟩)
              · rw [List.length_take, (hrest (List.cons_ne_nil _ _)).1.symm]; omega
              · exact hc.length_dropLast h0 c hmem

/-- Chunks of `k` entries but the last, none empty, are `⌈length / k⌉` many. -/
theorem length_eq_ceilDiv {k : ℕ} (hk : 0 < k) {chunks : List (List ItemNotification)}
    (hne : ∀ c ∈ chunks, c ≠ []) (hle : ∀ c ∈ chunks, c.length ≤ k)
    (hlast : ∀ c ∈ chunks.dropLast, c.length = k) : chunks.length = chunks.flatten.length ⌈/⌉ k := by
  induction chunks with
  | nil => simp
  | cons c cs ih =>
      have hc := List.length_pos.mpr (hne c (.head _))
      rw [Nat.ceilDiv_eq_add_pred_div]
      rcases cs with _ | ⟨d, ds⟩
      · have := hle c (.head _)
        simp only [List.length_singleton, List.flatten_cons, List.flatten_nil, List.append_nil]
        rw [Nat.div_eq_of_lt_le] <;> omega
      · have hck : c.length = k := hlast c (by simp)
        have ih' := ih (fun c hc => hne c (.tail _ hc)) (fun c hc => hle c (.tail _ hc))
          (fun c hc => hlast c (by rw [List.dropLast_cons_of_ne_nil (by simp)]; exact .tail _ hc))
        have hnum : (c :: d :: ds).flatten.length + k - 1 = (d :: ds).flatten.length + k - 1 + k := by
          rw [List.flatten_cons, List.length_append, hck]; omega
        rw [Nat.ceilDiv_eq_add_pred_div] at ih'
        rw [List.length_cons, ih', hnum, Nat.add_div_right _ hk]

namespace Chunked

variable {k : ℤ} {items : List ItemNotification} {chunks : List (List ItemNotification)}
  {bodies : List NotificationBody}

theorem eq_of_zero (h : Chunked 0 items chunks bodies) : chunks = if items = [] then [] else [items] := by
  rcases chunks with _ | ⟨c, _ | ⟨d, ds⟩⟩
  · simp [← h.flatten_eq]
  · simp [← h.flatten_eq, h.ne_nil c (.head _)]
  · exact absurd (h.length_le_one rfl) (by simp)

theorem length_bodies (h : Chunked k items chunks bodies) : bodies.length = chunks.length := by
  simpa using congrArg List.length h.bodies_eq

/-- One message when the limit is `0` and there is something to send, `⌈length / k⌉` otherwise. -/
theorem length_bodies_eq (hk : 0 ≤ k) (h : Chunked k items chunks bodies) :
    bodies.length = if k = 0 then (if items = [] then 0 else 1) else items.length ⌈/⌉ k.toNat := by
  rw [h.length_bodies]
  by_cases h0 : k = 0
  · subst h0
    rw [if_pos rfl, h.eq_of_zero]
    split_ifs <;> rfl
  · have hpos : 0 < k := lt_of_le_of_ne hk (Ne.symm h0)
    rw [if_neg h0, ← h.flatten_eq]
    exact length_eq_ceilDiv (by omega) h.ne_nil (h.length_le hpos) (h.length_dropLast hpos)

theorem flatMap_bodies (h : Chunked k items chunks bodies) (f : NotificationData → List ItemNotification) :
    bodies.flatMap (fun b => b.1.flatMap f) = chunks.flatMap (fun c => (notificationDataOf c).flatMap f) := by
  simpa only [List.flatMap_map] using congrArg (List.flatMap · (fun d => d.flatMap f)) h.bodies_eq

/-- Across all messages the data changes are the queue's, none lost or repeated, in order. -/
theorem dataChanges_eq (h : Chunked k items chunks bodies) :
    bodies.flatMap (fun b => b.1.flatMap NotificationData.dataChanges) =
      items.filter (·.isMonitoredItemNotification) := by
  rw [h.flatMap_bodies, ← h.flatten_eq, List.filter_flatten]
  simp only [flatMap_dataChanges_notificationDataOf]
  rfl

/-- Across all messages the events are the queue's, none lost or repeated, in order. -/
theorem events_eq (h : Chunked k items chunks bodies) :
    bodies.flatMap (fun b => b.1.flatMap NotificationData.events) = items.filter (·.isEventFieldList) := by
  rw [h.flatMap_bodies, ← h.flatten_eq, List.filter_flatten]
  simp only [flatMap_events_notificationDataOf]
  rfl

/-- Under a positive limit no message carries more than `k` entries. -/
theorem entries_le (hk : 0 < k) (h : Chunked k items chunks bodies) :
    ∀ b ∈ bodies, (b.1.flatMap NotificationData.dataChanges).length +
      (b.1.flatMap NotificationData.events).length ≤ k.toNat := by
  intro b hb
  obtain ⟨c, hc, hbc⟩ := List.mem_map.mp (h.bodies_eq ▸ List.mem_map_of_mem Subtype.val hb)
  rw [← hbc, flatMap_dataChanges_notificationDataOf, flatMap_events_notificationDataOf]
  simpa only [ItemNotification.isEventFieldList_eq_not, ← List.length_eq_length_filter_add]
    using h.length_le hk c hc

end Chunked

namespace Subscription

variable (s : Subscription)

/-- The getter `hasMonitoredItemNotifications`: the cache, else a scan of the items. A scan that
answers true also sets the cache. -/
def hasMonitoredItemNotifications : Bool :=
  s.hasMonitoredItemNotificationsCache || s.monitoredItems.any (·.hasMonitoredItemNotifications)

/-- `extractMonitoredItemNotifications` on every item, in key order. -/
def drainMonitoredItems : Subscription :=
  { s with monitoredItems := s.monitoredItems.map fun m => { m with queue := [] } }

def collectNotificationData : Except Fault (Subscription × List NotificationBody) :=
  let all := s.monitoredItems.flatMap (·.queue)
  match collectLoop s.maxNotificationsPerPublish all.length all with
  | .error f => .error f
  | .ok bodies => .ok ({ s.drainMonitoredItems with hasMonitoredItemNotificationsCache := false }, bodies)

def addNotificationMessages (bodies : List NotificationBody) : Subscription :=
  bodies.foldl (fun s b => s.addNotificationMessage b.1 b.2) s

/-- Enqueuing a harvest allocates consecutive numbers and records each message in the trace. -/
theorem addNotificationMessages_eq (bodies : List NotificationBody) :
    s.addNotificationMessages bodies =
      { s with sequenceNumberGenerator := ⟨s.sequenceNumberGenerator.counter+bodies.length⟩
               pendingNotifications := s.pendingNotifications ++
                 numberBodies s.sequenceNumberGenerator.counter s.publishIntervalCount bodies
               trace := s.trace ++ (numberBodies s.sequenceNumberGenerator.counter
                 s.publishIntervalCount bodies).map (fun e => Event.added e.notification) } := by
  induction bodies generalizing s with
  | nil => simp [addNotificationMessages, numberBodies]
  | cons b bs ih =>
      simp only [addNotificationMessages, List.foldl_cons] at ih ⊢
      rw [ih]
      simp [numberBodies, SequenceNumberGenerator.next, Nat.add_assoc, Nat.add_comm 1]

def harvestMonitoredItems : Except Fault Subscription :=
  match s.collectNotificationData with
  | .error f => .error f
  | .ok (s, bodies) => .ok { s.addNotificationMessages bodies with hasMonitoredItemNotificationsCache := false }

/-- The harvest, forward: once the loop has cut the queues into `bodies`. -/
theorem harvestMonitoredItems_of_collectLoop {bodies : List NotificationBody}
    (h : collectLoop s.maxNotificationsPerPublish (s.monitoredItems.flatMap (·.queue)).length
      (s.monitoredItems.flatMap (·.queue)) = .ok bodies) :
    s.harvestMonitoredItems = .ok
      { s with sequenceNumberGenerator := ⟨s.sequenceNumberGenerator.counter+bodies.length⟩
               pendingNotifications := s.pendingNotifications ++
                 numberBodies s.sequenceNumberGenerator.counter s.publishIntervalCount bodies
               trace := s.trace ++ (numberBodies s.sequenceNumberGenerator.counter
                 s.publishIntervalCount bodies).map (fun e => Event.added e.notification)
               monitoredItems := s.drainMonitoredItems.monitoredItems
               hasMonitoredItemNotificationsCache := false } := by
  simp only [harvestMonitoredItems, collectNotificationData, h,
    addNotificationMessages_eq]
  rfl

theorem harvestMonitoredItems_eq {s' : Subscription} (h : s.harvestMonitoredItems = .ok s') :
    ∃ bodies : List NotificationBody,
    collectLoop s.maxNotificationsPerPublish (s.monitoredItems.flatMap (·.queue)).length
      (s.monitoredItems.flatMap (·.queue)) = .ok bodies ∧ s' =
      { s with sequenceNumberGenerator := ⟨s.sequenceNumberGenerator.counter+bodies.length⟩
               pendingNotifications := s.pendingNotifications ++
                 numberBodies s.sequenceNumberGenerator.counter s.publishIntervalCount bodies
               trace := s.trace ++ (numberBodies s.sequenceNumberGenerator.counter
                 s.publishIntervalCount bodies).map (fun e => Event.added e.notification)
               monitoredItems := s.drainMonitoredItems.monitoredItems
               hasMonitoredItemNotificationsCache := false } := by
  unfold harvestMonitoredItems collectNotificationData at h
  cases hc : collectLoop s.maxNotificationsPerPublish (s.monitoredItems.flatMap (·.queue)).length
      (s.monitoredItems.flatMap (·.queue)) with
  | error f => simp only [hc, reduceCtorEq] at h
  | ok bodies =>
      simp only [hc, Except.ok.injEq] at h
      rw [← h, addNotificationMessages_eq]
      exact ⟨bodies, rfl, rfl⟩

end Subscription

end OpcuaServer
