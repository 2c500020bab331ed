import OpcuaServer.GetMonitoredItems

/-!
# From the queues of the monitored items to the messages

A monitored item buffers what it samples in a queue of `queueSize` entries; a sample into a full
queue drops one entry to make room (`MonitoredItem.enqueueNotification`). `_harvestMonitoredItems`
drains every queue, in key order, into the messages it enqueues. Each chunk becomes a
`DataChangeNotification` and an `EventNotificationList`, so within a chunk the data changes come
before the events. Up to that reordering the harvest moves each queued notification into exactly
one message (`collectLoop_perm`). `removeMonitoredItem`, `terminate` and the expiry in `_tick` drop
the queues of the items they remove, and a creation that reuses a key drops the queue of the entry
it replaces.

`Flow S D s t` compares two states. It says the notifications of the messages enqueued between `s`
and `t`, with those still queued in `t`, are among those queued in `s` and the samples `S`, each
at most once. When no item was created and the keys are those of `s`, they are all of them but
the entries `D` that full queues dropped. Every operation is a `Flow` with what it samples and
what its sample overflows (`Flow.step`), and flows compose. So over any run nothing is invented or
duplicated, and nothing is lost but to a full queue, unless an item goes (`notifications_flow`).
-/

namespace OpcuaServer

open Subscription
open scoped List

/-- The notifications an entry of `notificationData` carries; a status change carries none. -/
def NotificationData.entries (d : NotificationData) : List ItemNotification := d.dataChanges ++ d.events

/-- The notifications of the messages a trace enqueued, in order. -/
def delivered (t : List Event) : List ItemNotification :=
  (enqueued t).flatMap fun m => m.2.flatMap NotificationData.entries

@[simp] theorem delivered_append (a b : List Event) : delivered (a ++ b) = delivered a ++ delivered b := by
  simp [delivered]

/-- The notifications waiting in the items' queues, in key order. -/
def Subscription.queued (s : Subscription) : List ItemNotification := s.monitoredItems.flatMap (·.queue)

/-- What an operation samples into the map: the notification of `sample`, when an item has the key. -/
def sampled (s : Subscription) : Op → List ItemNotification
  | .sample i n => if s.monitoredItems.any (·.monitoredItemId = i) then [n] else []
  | _ => []

/-- What an operation's sample drops from a full queue to make room. -/
def overflowed (s : Subscription) : Op → List ItemNotification
  | .sample i _ => s.monitoredItems.flatMap fun m => if m.monitoredItemId = i then m.discarded else []
  | _ => []

/-- What `f` reads off each operation of a run, in the state the operation starts from, up to the
run's first failure. -/
def collectDuring (ctx : Context) (f : Subscription → Op → List ItemNotification) :
    Subscription → List Op → List ItemNotification
  | _, [] => []
  | s, op :: ops =>
      match step ctx s op with
      | .ok t => f s op ++ collectDuring ctx f t ops
      | .error _ => []

/-! ## The harvest -/

/-- A chunk's message carries the chunk's notifications, data changes first. -/
theorem flatMap_entries_notificationDataOf (chunk : List ItemNotification) :
    (notificationDataOf chunk).flatMap NotificationData.entries ~ chunk := by
  have h : (notificationDataOf chunk).flatMap NotificationData.entries =
      chunk.filter (·.isMonitoredItemNotification) ++ chunk.filter (·.isEventFieldList) := by
    simp only [notificationDataOf, List.flatMap_append]
    cases chunk.filter (·.isMonitoredItemNotification) <;> cases chunk.filter (·.isEventFieldList) <;>
      simp [NotificationData.entries, NotificationData.dataChanges, NotificationData.events]
  rw [h]
  simpa using List.filter_append_perm (·.isMonitoredItemNotification) chunk

/-- `chunk.push(items.shift())` moves entries from the front of the queue to the chunk. -/
theorem chunkLoop_append {α : Type} {fuel : ℕ} {n : ℤ} {chunk items c r : List α}
    (h : chunkLoop fuel n chunk items = some (c, r)) : c ++ r = chunk ++ items := by
  induction fuel generalizing n chunk items with
  | zero => simp [chunkLoop] at h
  | succ fuel ih =>
      simp only [chunkLoop] at h
      split_ifs at h
      · simp only [Option.some.injEq, Prod.mk.injEq] at h
        obtain ⟨rfl, rfl⟩ := h
        rfl
      · rw [ih h]
        cases items <;> simp

theorem extractNotificationsChunk_append {items chunk rest : List ItemNotification} {m : Option ℤ}
    (h : extractNotificationsChunk items m = .ok (chunk, rest)) : chunk ++ rest = items := by
  unfold extractNotificationsChunk at h
  split at h
  · simp only [Except.ok.injEq, Prod.mk.injEq] at h
    obtain ⟨rfl, rfl⟩ := h
    rfl
  · split at h
    · rename_i hc
      cases h
      exact chunkLoop_append hc
    · cases h

/-- The harvest loop puts every notification of the queue into exactly one message. -/
theorem collectLoop_perm {m : Option ℤ} {fuel : ℕ} {items : List ItemNotification}
    {bodies : List NotificationBody} (h : collectLoop m fuel items = .ok bodies) :
    bodies.flatMap (fun b => b.1.flatMap NotificationData.entries) ~ items := by
  induction fuel generalizing items bodies with
  | zero =>
      cases items with
      | nil =>
          cases h
          rfl
      | cons x xs => simp [collectLoop] at h
  | succ fuel ih =>
      cases items with
      | nil =>
          cases h
          rfl
      | cons x xs =>
          simp only [collectLoop] at h
          split at h
          · cases h
          rename_i chunk rest hx
          split at h
          · split at h
            · cases h
            rename_i more hm
            cases h
            rw [List.flatMap_cons, ← extractNotificationsChunk_append hx]
            exact (flatMap_entries_notificationDataOf chunk).append (ih hm)
          · cases h

theorem delivered_numberBodies (c t : ℕ) (bs : List NotificationBody) :
    delivered ((numberBodies c t bs).map fun e => Event.added e.notification) =
      bs.flatMap fun b => b.1.flatMap NotificationData.entries := by
  induction bs generalizing c with
  | nil => rfl
  | cons b bs ih =>
      rw [numberBodies, List.map_cons, List.flatMap_cons, ← ih (c+1), ← List.singleton_append, delivered_append]
      simp [delivered, enqueued, Event.enqueued, NotificationMessage.contents]

/-! ## The queues under each change of the map -/

theorem sublist_flatMap {α β : Type} {l₁ l₂ : List α} (h : l₁ <+ l₂) (f : α → List β) :
    l₁.flatMap f <+ l₂.flatMap f := by
  induction h with
  | slnil => exact .slnil
  | cons a _ ih => exact ih.trans (List.sublist_append_right _ _)
  | cons₂ a _ ih => exact ih.append_left _

theorem flatMap_sublist_flatMap {α β : Type} {f g : α → List β} (h : ∀ a, f a <+ g a) (l : List α) :
    l.flatMap f <+ l.flatMap g := by
  induction l with
  | nil => exact .slnil
  | cons a l ih => simpa only [List.flatMap_cons] using (h a).append ih

theorem perm_append_swap {α : Type} (x y z : List α) : x ++ y ++ z ~ x ++ z ++ y := by
  simpa only [List.append_assoc] using (@List.perm_append_comm _ y z).append_left x

/-- Rewriting entries without touching their queues keeps the queued notifications. -/
theorem flatMap_queue_map_of_queue {f : MonitoredItem → MonitoredItem} (ms : List MonitoredItem)
    (hf : ∀ m, (f m).queue = m.queue) : (ms.map f).flatMap (·.queue) = ms.flatMap (·.queue) := by
  rw [List.flatMap_map]
  exact List.flatMap_congr fun m _ => hf m

/-- An item with an empty queue adds nothing to the queued notifications, wherever it goes. -/
theorem flatMap_queue_placeNewMonitoredItem {item : MonitoredItem} (hq : item.queue = [])
    (ms : List MonitoredItem) : (placeNewMonitoredItem item ms).flatMap (·.queue) = ms.flatMap (·.queue) := by
  induction ms with
  | nil => simp [placeNewMonitoredItem, hq]
  | cons m ms ih =>
      simp only [placeNewMonitoredItem]
      split_ifs
      · simp [hq]
      · simp [ih]

/-- An insertion with an empty queue drops at most the queue of the entry it replaces. -/
theorem flatMap_queue_insertMonitoredItem {item : MonitoredItem} (hq : item.queue = [])
    (ms : List MonitoredItem) : (insertMonitoredItem item ms).flatMap (·.queue) <+ ms.flatMap (·.queue) := by
  unfold insertMonitoredItem
  split_ifs
  · rw [List.flatMap_map]
    exact flatMap_sublist_flatMap (fun m => by split_ifs <;> simp [hq]) ms
  · rw [flatMap_queue_placeNewMonitoredItem hq]

/-- Sampling buffers the notification in the one item with the key, if there is one; that item
drops what its full queue makes room from. -/
theorem flatMap_queue_sample {i : ℕ} {n : ItemNotification} {ms : List MonitoredItem}
    (hnd : (ms.map (·.monitoredItemId)).Nodup) :
    (ms.map fun m => if m.monitoredItemId = i then m.enqueueNotification n else m).flatMap (·.queue) ++
        ms.flatMap (fun m => if m.monitoredItemId = i then m.discarded else []) ~
      ms.flatMap (·.queue) ++ if ms.any (·.monitoredItemId = i) then [n] else [] := by
  induction ms with
  | nil => simp
  | cons m ms ih =>
      rw [List.map_cons, List.nodup_cons] at hnd
      by_cases hm : m.monitoredItemId = i
      · -- no other key is `i`, so only `m` changes and only `m` drops
        have hne : ∀ m' ∈ ms, m'.monitoredItemId ≠ i := fun m' hm' h =>
          hnd.1 (List.mem_map.2 ⟨m', hm', h.trans hm.symm⟩)
        have hrest : (ms.map fun m => if m.monitoredItemId = i then m.enqueueNotification n else m) = ms :=
          (List.map_congr_left fun m' hm' => if_neg (hne m' hm')).trans (List.map_id ms)
        have hdrop : (ms.flatMap fun m => if m.monitoredItemId = i then m.discarded else []) = [] :=
          List.flatMap_eq_nil_iff.2 fun m' hm' => if_neg (hne m' hm')
        simp only [List.map_cons, hm, ↓reduceIte, List.flatMap_cons, hrest, hdrop, List.any_cons, decide_True,
          Bool.true_or, List.append_nil]
        calc _ ~ (m.enqueueNotification n).queue ++ m.discarded ++ ms.flatMap (·.queue) := perm_append_swap _ _ _
          _ ~ m.queue ++ [n] ++ ms.flatMap (·.queue) := (m.queue_enqueueNotification n).append_right _
          _ ~ _ := perm_append_swap _ _ _
      · simp only [List.map_cons, hm, ↓reduceIte, List.flatMap_cons, List.any_cons, decide_False,
          Bool.false_or, List.nil_append, List.append_assoc]
        exact (ih hnd.2).append_left _

/-! ## Flows between two states -/

/-- From `s` to `t` the trace grows; the notifications of the messages enqueued in between and
those queued in `t` are among those queued in `s` and the samples `S`, each at most once; and when
no item was created, the keys only shrink, and if they are those of `s` nothing was dropped but the
entries `D` full queues made room from. -/
structure Flow (S D : List ItemNotification) (s t : Subscription) : Prop where
  grows : s.trace <+: t.trace
  sub : delivered t.trace ++ t.queued <+~ delivered s.trace ++ s.queued ++ S
  shrink : createdItems t.trace = createdItems s.trace → t.monitoredItemIds <+ s.monitoredItemIds
  exact : createdItems t.trace = createdItems s.trace → t.monitoredItemIds = s.monitoredItemIds →
    delivered t.trace ++ t.queued ++ D ~ delivered s.trace ++ s.queued ++ S

/-- Between two points of a trace that created nothing more, nothing more was created. -/
theorem createdItems_between {a b c : List Event} (hab : a <+: b) (hbc : b <+: c)
    (h : createdItems c = createdItems a) : createdItems b = createdItems a ∧ createdItems c = createdItems b := by
  obtain ⟨x, rfl⟩ := hab
  obtain ⟨y, rfl⟩ := hbc
  have hl := congrArg List.length h
  simp only [createdItems_append, List.length_append] at hl ⊢
  have hx : createdItems x = [] := List.eq_nil_of_length_eq_zero (by omega)
  have hy : createdItems y = [] := List.eq_nil_of_length_eq_zero (by omega)
  simp [hx, hy]

namespace Flow

variable {S S' D D' : List ItemNotification} {s t u : Subscription}

theorem trans (h₁ : Flow S D s t) (h₂ : Flow S' D' t u) : Flow (S ++ S') (D ++ D') s u := by
  refine ⟨h₁.grows.trans h₂.grows, h₂.sub.trans ?_, fun hc => ?_, fun hc hk => ?_⟩
  · simpa only [List.append_assoc] using (List.subperm_append_right S').2 h₁.sub
  · obtain ⟨h₁c, h₂c⟩ := createdItems_between h₁.grows h₂.grows hc
    exact (h₂.shrink h₂c).trans (h₁.shrink h₁c)
  · obtain ⟨h₁c, h₂c⟩ := createdItems_between h₁.grows h₂.grows hc
    have hts := h₁.shrink h₁c
    have hut := h₂.shrink h₂c
    -- keys that shrink twice and end where they started never shrank
    have hts' : t.monitoredItemIds = s.monitoredItemIds :=
      hts.eq_of_length (le_antisymm hts.length_le (hk ▸ hut.length_le))
    have hut' : u.monitoredItemIds = t.monitoredItemIds := hk.trans hts'.symm
    calc delivered u.trace ++ u.queued ++ (D ++ D') ~ delivered u.trace ++ u.queued ++ D' ++ D := by
          rw [← List.append_assoc]
          exact perm_append_swap _ _ _
      _ ~ delivered t.trace ++ t.queued ++ S' ++ D := (h₂.exact h₂c hut').append_right D
      _ ~ delivered t.trace ++ t.queued ++ D ++ S' := perm_append_swap _ _ _
      _ ~ delivered s.trace ++ s.queued ++ S ++ S' := (h₁.exact h₁c hts').append_right S'
      _ = delivered s.trace ++ s.queued ++ (S ++ S') := List.append_assoc _ _ _

/-- A step whose trace events carry no notification: the queues may lose entries, all of them
only if an item went. -/
theorem of_trace (E : List Event) (ht : t.trace = s.trace ++ E) (hd : delivered E = [])
    (hsub : t.queued <+~ s.queued) (hids : createdItems E = [] → t.monitoredItemIds <+ s.monitoredItemIds)
    (hq : createdItems E = [] → t.monitoredItemIds = s.monitoredItemIds → t.queued ~ s.queued) :
    Flow [] [] s t := by
  refine ⟨⟨E, ht.symm⟩, ?_, fun hc => hids (by simpa [ht] using hc), fun hc hk => ?_⟩
  · rw [ht, delivered_append, hd, List.append_nil, List.append_nil]
    exact (List.subperm_append_left _).2 hsub
  · simp only [ht, delivered_append, hd, List.append_nil]
    exact (hq (by simpa [ht] using hc) hk).append_left _

/-- A step that keeps the map and enqueues nothing. -/
theorem quiet (E : List Event) (ht : t.trace = s.trace ++ E) (hd : delivered E = [])
    (hm : t.monitoredItems = s.monitoredItems) : Flow [] [] s t :=
  have hq : t.queued = s.queued := by simp only [queued, hm]
  have hk : t.monitoredItemIds = s.monitoredItemIds := by simp only [monitoredItemIds, hm]
  of_trace E ht hd (hq ▸ .refl _) (fun _ => hk ▸ .refl _) (fun _ _ => hq ▸ .refl _)

theorem congr (ht : t.trace = s.trace) (hm : t.monitoredItems = s.monitoredItems) : Flow [] [] s t :=
  quiet [] (by rw [ht, List.append_nil]) rfl hm

theorem processKeepAlive (a : Bool) : Flow [] [] s (s.processKeepAlive a) := by
  by_cases hk : s.keepAliveCounter+1 < s.maxKeepAliveCount
  · rw [processKeepAlive_of_lt hk]
    exact congr rfl rfl
  cases a
  · rw [processKeepAlive_of_ge_refused (not_lt.mp hk)]
    exact quiet _ rfl rfl rfl
  · rw [processKeepAlive_of_ge_accepted (not_lt.mp hk)]
    exact quiet _ rfl rfl rfl

theorem dispatch : Flow [] [] s s.dispatch := by
  cases hp : s.pendingNotifications with
  | nil =>
      have hd : s.dispatch = s := by
        simp [Subscription.dispatch, publishPendingNotifications, hp, hasPendingNotifications]
      rw [hd]
      exact congr rfl rfl
  | cons e rest =>
      rw [dispatch_of_cons hp]
      refine quiet _ (List.append_assoc _ _ _) ?_ rfl
      split_ifs <;> rfl

/-- The harvest empties every queue into the messages it enqueues. -/
theorem harvestMonitoredItems (hv : s.harvestMonitoredItems = .ok t) : Flow [] [] s t := by
  obtain ⟨bodies, hc, rfl⟩ := s.harvestMonitoredItems_eq hv
  have hq : (s.drainMonitoredItems.monitoredItems.flatMap (·.queue)) = [] := by
    simp [drainMonitoredItems]
  have hp := collectLoop_perm hc
  refine ⟨⟨_, rfl⟩, ?_, fun _ => ?_, fun _ _ => ?_⟩
  · show delivered (s.trace ++ _) ++ s.drainMonitoredItems.monitoredItems.flatMap (·.queue) <+~ _
    rw [hq, delivered_append, delivered_numberBodies, List.append_nil, List.append_nil]
    exact ((hp.append_left _).trans (.refl _)).subperm
  · exact (harvestMonitoredItems_monitoredItemIds hv) ▸ .refl _
  · show delivered (s.trace ++ _) ++ s.drainMonitoredItems.monitoredItems.flatMap (·.queue) ++ [] ~ _
    simp only [hq, delivered_append, delivered_numberBodies, List.append_nil]
    exact hp.append_left _

theorem processSubscription {c : ℕ} {a : Bool} (hv : s.processSubscription c a = .ok t) : Flow [] [] s t := by
  obtain ⟨-, ⟨-, rfl⟩ | ⟨-, u, hu, ht⟩⟩ := processSubscription_cases hv
  · exact processKeepAlive a
  have h₁ : Flow [] [] s u := by
    rcases hu with ⟨rfl, -⟩ | ⟨-, -, hu⟩
    exacts [congr rfl rfl, harvestMonitoredItems hu]
  rcases ht with ⟨-, rfl⟩ | ⟨-, rfl⟩
  · exact h₁.trans dispatch
  · exact h₁.trans (processKeepAlive a)

/-- Terminating drops every queue, and emits one removal per item. -/
theorem terminate : Flow [] [] s s.terminate := by
  by_cases hc : s.state = .closed
  · rw [terminate_of_closed hc]
    exact congr rfl rfl
  obtain ⟨E, hE, heq⟩ := terminate_of_ne_closed hc
  rw [heq]
  refine of_trace (E ++ [.terminated, .onCloseSubscription]) (List.append_assoc _ _ _) ?_
    (List.nil_subperm) (fun _ => List.nil_sublist _) (fun _ hk => ?_)
  · have he : enqueued E = [] := by
      simp only [enqueued, List.flatMap_eq_nil_iff]
      intro e he
      obtain ⟨k, rfl⟩ := hE e he
      rfl
    simp [delivered, he, Event.enqueued]
  · have hm : s.monitoredItems = [] := List.map_eq_nil_iff.mp hk.symm
    simp [queued, hm]

/-- The expiry enqueues a status change, which carries no notification, and terminates. -/
theorem expire : Flow [] [] s s.expire := by
  have h₁ : Flow [] [] s (s.emit .expired) := quiet [.expired] rfl rfl rfl
  have h₂ : Flow [] [] (s.emit .expired)
      ((s.emit .expired).addNotificationMessage [.statusChangeNotification .badTimeout] (.inl rfl)) :=
    quiet _ rfl (by simp [delivered, enqueued, Event.enqueued, NotificationMessage.contents,
      NotificationData.entries, NotificationData.dataChanges, NotificationData.events]) rfl
  exact (h₁.trans h₂).trans terminate

theorem beginTick : Flow [] [] s s.beginTick := quiet [.onTick] rfl rfl rfl

theorem tick {c : ℕ} {a : Bool} (hv : s.tick c a = .ok t) : Flow [] [] s t := by
  rcases tick_cases hv with ⟨-, rfl⟩ | ⟨-, -, rfl⟩ | ⟨-, -, hv⟩
  · exact congr rfl rfl
  · exact beginTick.trans expire
  rcases hv with ⟨-, -, rfl⟩ | ⟨-, -, -, rfl⟩ | ⟨-, -, rfl⟩ | ⟨-, -, hv⟩ | ⟨-, -, -, hv⟩
  · exact beginTick.trans (congr rfl rfl)
  · exact beginTick.trans (congr rfl rfl)
  · exact beginTick.trans (processKeepAlive a)
  · exact beginTick.trans (processSubscription hv)
  · have hc : Flow [] [] s.beginTick { s.beginTick with hasMonitoredItemNotificationsCache := true } := congr rfl rfl
    exact (beginTick.trans hc).trans (processSubscription hv)

/-- A creation adds an empty queue; reusing a key drops the queue it replaces. -/
theorem createMonitoredItem {ctx : Context} {r : MonitoredItemCreateRequest} {i : ℕ}
    {res : MonitoredItemCreateResult} (h : s.createMonitoredItem ctx r i = .ok (res, t)) : Flow [] [] s t := by
  rcases createMonitoredItem_cases h with ⟨-, rfl⟩ | ⟨-, -, si, hs'⟩
  · exact congr rfl rfl
  have hm := congrArg Subscription.monitoredItems hs'
  dsimp only at hm
  have hq : t.queued <+ s.queued := by
    rw [queued, hm, flatMap_queue_map_of_queue _ fun m => by split_ifs <;> rfl]
    exact flatMap_queue_insertMonitoredItem rfl _
  refine of_trace [.monitoredItem i] (by rw [hs']) rfl hq.subperm (fun hc => ?_) (fun hc => ?_) <;>
    simp [createdItems, Event.createdItem] at hc

theorem removeMonitoredItem (i : ℕ) : Flow [] [] s (s.removeMonitoredItem i).2 := by
  unfold Subscription.removeMonitoredItem
  split_ifs
  · refine of_trace [.removeMonitoredItem i] rfl rfl (sublist_flatMap (List.filter_sublist _) _).subperm
      (fun _ => (List.filter_sublist _).map _) (fun _ hk => ?_)
    -- the same number of keys: the filter kept every item
    have hf : s.monitoredItems.filter (·.monitoredItemId ≠ i) = s.monitoredItems :=
      (List.filter_sublist _).eq_of_length (by simpa [monitoredItemIds] using congrArg List.length hk)
    show (s.monitoredItems.filter (·.monitoredItemId ≠ i)).flatMap (·.queue) ~ _
    rw [hf]
    rfl
  · exact congr rfl rfl

theorem sample (hnd : s.monitoredItemIds.Nodup) (i : ℕ) (n : ItemNotification) :
    Flow (sampled s (.sample i n)) (overflowed s (.sample i n)) s (s.sample i n) := by
  have hp : delivered s.trace ++ (s.sample i n).queued ++ overflowed s (.sample i n) ~
      delivered s.trace ++ s.queued ++ sampled s (.sample i n) := by
    simpa only [List.append_assoc] using (flatMap_queue_sample hnd).append_left (delivered s.trace)
  refine ⟨⟨[], List.append_nil _⟩, (List.sublist_append_left _ _).subperm.trans hp.subperm, fun _ => ?_,
    fun _ _ => hp⟩
  simp [Subscription.sample, monitoredItemIds, Function.comp_def, apply_ite MonitoredItem.monitoredItemId]

/-- Every operation is a flow with what it samples and what its sample overflows. -/
theorem step {ctx : Context} {op : Op} (hnd : s.monitoredItemIds.Nodup) (hv : OpcuaServer.step ctx s op = .ok t) :
    Flow (sampled s op) (overflowed s op) s t := by
  have h0 : Flow [] [] s (s.emit (.invoked op.call)) := quiet [_] rfl rfl rfl
  cases op with
  | tick c a =>
      simp only [OpcuaServer.step, Op.call] at hv
      exact h0.trans (tick hv)
  | processSubscription c a =>
      simp only [OpcuaServer.step, Op.call] at hv
      exact h0.trans (processSubscription hv)
  | createMonitoredItem r i =>
      obtain ⟨res, hcr⟩ := step_createMonitoredItem hv
      exact h0.trans (createMonitoredItem hcr)
  | removeMonitoredItem i =>
      simp only [OpcuaServer.step, Op.call, Except.ok.injEq] at hv
      subst hv
      exact h0.trans (removeMonitoredItem i)
  | sample i n =>
      simp only [OpcuaServer.step, Op.call, Except.ok.injEq] at hv
      subst hv
      exact h0.trans (sample (show (s.emit (.invoked .sample)).monitoredItemIds.Nodup from hnd) i n)
  | terminate =>
      simp only [OpcuaServer.step, Op.call, Except.ok.injEq] at hv
      subst hv
      exact h0.trans terminate
  | setPublishingMode b =>
      simp only [OpcuaServer.step, Op.call, Except.ok.injEq] at hv
      subst hv
      exact h0.trans (congr (by rw [setPublishingMode_eq]; rfl) (by rw [setPublishingMode_eq]; rfl))
  | acknowledgeNotification n =>
      simp only [OpcuaServer.step, Op.call, Except.ok.injEq] at hv
      subst hv
      obtain ⟨sent, -, count, heq⟩ := (s.emit (.invoked .acknowledgeNotification)).acknowledgeNotification_eq n
      exact h0.trans (congr (by rw [heq]; rfl) (by rw [heq]; rfl))
  | notifyTransfer =>
      simp only [OpcuaServer.step, Op.call, Except.ok.injEq] at hv
      subst hv
      exact h0.trans (quiet [_] rfl rfl rfl)
  | modify p | resetLifeTimeAndKeepAliveCounters =>
      simp only [OpcuaServer.step, Op.call, Except.ok.injEq] at hv
      subst hv
      exact h0.trans (congr rfl rfl)

/-- Over any run from a reachable state. -/
theorem run {ctx : Context} {ops : List Op} (hs : Reachable ctx (fun _ _ => True) s)
    (hr : OpcuaServer.run ctx s ops = .ok t) :
    Flow (collectDuring ctx sampled s ops) (collectDuring ctx overflowed s ops) s t := by
  induction ops generalizing s with
  | nil =>
      cases hr
      exact congr rfl rfl
  | cons op ops ih =>
      cases hst : OpcuaServer.step ctx s op with
      | error f => simp [OpcuaServer.run, hst, Except.bind] at hr
      | ok u =>
          simp only [OpcuaServer.run, hst, Except.bind] at hr
          simp only [collectDuring, hst]
          exact (step hs.monitoredItemIds_nodup hst).trans (ih (hs.step trivial hst) hr)

end Flow

end OpcuaServer
