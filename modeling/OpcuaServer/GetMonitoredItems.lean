import OpcuaServer.ItemBookkeeping

/-!
# `getMonitoredItems` and the order of the item map

`monitoredItems` is a plain object keyed by `monitoredItemId`. `Object.keys` lists the keys that
are array indices (below `2^32 - 1`) first, in ascending order, and the others after them in the
order they were added; the model keeps the map as a list in that order. `monitoredItems[id] = item`
replaces the entry with the same key in place or puts a new key where `Object.keys` lists it
(`insertMonitoredItem`); `delete`, `terminate`, the harvest and sampling keep or drop entries and
never move one (`step_monitoredItemIds_sublist`). So whatever ids the caller hands out, every key
appears once (`Reachable.monitoredItemIds_nodup`). On a server the ids come from one counter that
lies above every id created so far, so each new key goes last and the keys stay strictly
increasing, past `2^32 - 1` too (`Server.Reachable.monitoredItemIds_sorted`).

`getMonitoredItems` is the Part 4 method a client calls after a lost CreateMonitoredItems
response, to learn which items exist. It answers Good, with `serverHandles` the keys as
`Object.keys` gives them: decimal strings, in that order. So in every server state the handles
spell, in increasing order, exactly the ids the subscription created and has not removed
(`getMonitoredItems_lists_live_items`).
-/

namespace OpcuaServer

open Subscription
open scoped List

/-- The answer of `getMonitoredItems`. `clientHandles` is left out: `MonitoredItem` does not
model the client handle. -/
structure GetMonitoredItemsResult where
  serverHandles : List String
  statusCode : StatusCode
  deriving DecidableEq

/-- `getMonitoredItems`: `serverHandles` are the keys of `Object.keys(monitoredItems)`, which are
strings. -/
def Subscription.getMonitoredItems (s : Subscription) : GetMonitoredItemsResult :=
  ⟨s.monitoredItems.map fun m => toString m.monitoredItemId, .good⟩

/-! ## The keys under each operation -/

@[simp] theorem monitoredItemIds_emit (s : Subscription) (e : Event) :
    (s.emit e).monitoredItemIds = s.monitoredItemIds := rfl

/-- Rewriting entries without touching their ids keeps the keys. -/
theorem ids_map_of_id {f : MonitoredItem → MonitoredItem} (hf : ∀ m, (f m).monitoredItemId = m.monitoredItemId)
    (ms : List MonitoredItem) : (ms.map f).map (·.monitoredItemId) = ms.map (·.monitoredItemId) := by
  rw [List.map_map]
  exact List.map_congr_left fun m _ => hf m

theorem publishPendingNotifications_monitoredItems (s : Subscription) :
    s.publishPendingNotifications.monitoredItems = s.monitoredItems := by
  cases h : s.pendingNotifications with
  | nil => simp only [publishPendingNotifications, h]
  | cons e rest => rw [publishPendingNotifications_of_cons h]

theorem dispatch_monitoredItems (s : Subscription) : s.dispatch.monitoredItems = s.monitoredItems := by
  unfold dispatch
  dsimp only
  split <;> exact publishPendingNotifications_monitoredItems s

theorem harvestMonitoredItems_monitoredItemIds {s t : Subscription} (hv : s.harvestMonitoredItems = .ok t) :
    t.monitoredItemIds = s.monitoredItemIds := by
  obtain ⟨bodies, -, rfl⟩ := harvestMonitoredItems_eq _ hv
  simp [monitoredItemIds, drainMonitoredItems, Function.comp_def]

/-- `process_subscription` drains queues and sends; it keeps every key. -/
theorem processSubscription_monitoredItemIds {s t : Subscription} {c : ℕ} {a : Bool}
    (hv : s.processSubscription c a = .ok t) : t.monitoredItemIds = s.monitoredItemIds := by
  obtain ⟨-, ⟨-, rfl⟩ | ⟨-, u, hu, ht⟩⟩ := processSubscription_cases hv
  · simp [monitoredItemIds]
  have hu : u.monitoredItemIds = s.monitoredItemIds := by
    rcases hu with ⟨rfl, -⟩ | ⟨-, -, hu⟩
    exacts [rfl, harvestMonitoredItems_monitoredItemIds hu]
  rcases ht with ⟨-, rfl⟩ | ⟨-, rfl⟩
  · rw [← hu, monitoredItemIds, dispatch_monitoredItems]
    rfl
  · simpa [monitoredItemIds] using hu

/-- `_tick` keeps every key, or, on expiry, terminates and drops them all. -/
theorem tick_monitoredItemIds {s t : Subscription} {c : ℕ} {a : Bool} (hv : s.tick c a = .ok t) :
    t.monitoredItemIds <+ s.monitoredItemIds := by
  have keep : ∀ u : Subscription, u.monitoredItems = s.monitoredItems → u.monitoredItemIds <+ s.monitoredItemIds :=
    fun u h => by rw [monitoredItemIds, h]; rfl
  have hb : s.beginTick.monitoredItems = s.monitoredItems := by
    simp only [beginTick_monitoredItems, discardOldSentNotifications_monitoredItems]
  rcases tick_cases hv with ⟨-, rfl⟩ | ⟨hc, -, rfl⟩ | ⟨-, -, hv⟩
  · exact .refl _
  · obtain ⟨E, -, heq⟩ := @expire_of_ne_closed s.beginTick hc
    rw [heq]
    exact List.nil_sublist _
  rcases hv with ⟨-, -, rfl⟩ | ⟨-, -, -, rfl⟩ | ⟨-, -, rfl⟩ | ⟨-, -, hv⟩ | ⟨-, -, -, hv⟩
  · exact keep _ hb
  · exact keep _ hb
  · exact keep _ ((processKeepAlive_monitoredItems a).trans hb)
  all_goals
    rw [processSubscription_monitoredItemIds hv]
    exact keep _ hb

/-- Every operation but `createMonitoredItem` keeps some of the keys, in order. -/
theorem step_monitoredItemIds_sublist {ctx : Context} {s t : Subscription} {op : Op}
    (hop : ∀ r i, op ≠ .createMonitoredItem r i) (hv : step ctx s op = .ok t) :
    t.monitoredItemIds <+ s.monitoredItemIds := by
  cases op with
  | createMonitoredItem r i => exact absurd rfl (hop r i)
  | tick c a =>
      simp only [step, Op.call] at hv
      have h := tick_monitoredItemIds hv
      rwa [monitoredItemIds_emit] at h
  | processSubscription c a =>
      simp only [step, Op.call] at hv
      rw [processSubscription_monitoredItemIds hv, monitoredItemIds_emit]
  | removeMonitoredItem i =>
      simp only [step, Op.call, Except.ok.injEq] at hv
      subst hv
      unfold removeMonitoredItem
      split_ifs
      · exact (List.filter_sublist _).map _
      · exact .refl _
  | sample i n =>
      simp only [step, Op.call, Except.ok.injEq] at hv
      subst hv
      simp [sample, monitoredItemIds, Function.comp_def, apply_ite MonitoredItem.monitoredItemId]
  | terminate =>
      simp only [step, Op.call, Except.ok.injEq] at hv
      subst hv
      by_cases hc : (s.emit (.invoked .terminate)).state = .closed
      · rw [terminate_of_closed hc]
        exact .refl _
      · obtain ⟨E, -, heq⟩ := terminate_of_ne_closed hc
        rw [heq]
        exact List.nil_sublist _
  | acknowledgeNotification n =>
      simp only [step, Op.call, Except.ok.injEq] at hv
      subst hv
      obtain ⟨sent, -, count, heq⟩ := (s.emit (.invoked .acknowledgeNotification)).acknowledgeNotification_eq n
      rw [heq]
      exact .refl _
  | setPublishingMode b =>
      simp only [step, Op.call, Except.ok.injEq] at hv
      subst hv
      rw [setPublishingMode_eq]
      exact .refl _
  | modify p | resetLifeTimeAndKeepAliveCounters | notifyTransfer =>
      simp only [step, Op.call, Except.ok.injEq] at hv
      subst hv
      exact .refl _

/-- `createMonitoredItem` keeps the keys, or puts the key it was handed where `Object.keys` lists
it. -/
theorem createMonitoredItem_monitoredItemIds {ctx : Context} {s t : Subscription} {r : MonitoredItemCreateRequest}
    {i : ℕ} {res : MonitoredItemCreateResult} (hcr : s.createMonitoredItem ctx r i = .ok (res, t)) :
    t.monitoredItemIds = s.monitoredItemIds ∨ ∃ item : MonitoredItem, item.monitoredItemId = i ∧
      t.monitoredItemIds = (insertMonitoredItem item s.monitoredItems).map (·.monitoredItemId) := by
  rcases createMonitoredItem_cases hcr with ⟨-, rfl⟩ | ⟨-, -, si, rfl⟩
  · exact .inl rfl
  · exact .inr ⟨_, rfl, ids_map_of_id (fun m => by split_ifs <;> rfl) _⟩

/-- In every reachable state of a subscription, whatever ids `createMonitoredItem` is handed, the
item map holds each key once. -/
theorem Reachable.monitoredItemIds_nodup {ctx : Context} {A : Subscription → Op → Prop} {s : Subscription}
    (h : Reachable ctx A s) : s.monitoredItemIds.Nodup := by
  induction h with
  | create o => exact List.nodup_nil
  | @step s t op _ _ hv ih =>
      cases op with
      | createMonitoredItem r i =>
          obtain ⟨res, hcr⟩ := step_createMonitoredItem hv
          rcases createMonitoredItem_monitoredItemIds hcr with ht | ⟨item, -, ht⟩
          · rwa [ht]
          · rw [ht]
            exact insertMonitoredItem_nodup ih
      | _ => exact ih.sublist (step_monitoredItemIds_sublist (by simp) hv)

/-! ## The subscriptions of a server -/

/-- Every subscription of a reachable server is a reachable subscription: the server only creates
subscriptions and forwards operations to them. -/
theorem Server.Reachable.subscription_reachable {ctx : Context} {srv : Server} (h : Server.Reachable ctx srv) :
    ∀ s ∈ srv.subscriptions, OpcuaServer.Reachable ctx (fun _ _ => True) s := by
  induction h with
  | init => simp [Server.init]
  | @step srv srv' op _ hv ih =>
      -- the subscription at `i` replaced by one step of it
      have hset : ∀ {i : ℕ} {s s' : Subscription} {o : Op}, srv.subscriptions[i]? = some s →
          OpcuaServer.step ctx s o = .ok s' →
          ∀ x ∈ srv.subscriptions.set i s', OpcuaServer.Reachable ctx (fun _ _ => True) x := by
        intro i s s' o hs hst x hx
        rcases List.mem_or_eq_of_mem_set hx with hx | rfl
        exacts [ih x hx, (ih s (List.getElem?_mem hs)).step trivial hst]
      -- an operation forwarded to the subscription at `i`, if there is one
      have hcall : ∀ {i : ℕ} {o : Op}, srv.call ctx i o = .ok srv' →
          ∀ x ∈ srv'.subscriptions, OpcuaServer.Reachable ctx (fun _ _ => True) x := by
        intro i o hv
        rcases Server.call_cases hv with rfl | ⟨s, s', hs, hst, rfl⟩
        exacts [ih, hset hs hst]
      cases op with
      | createSubscription o =>
          cases hv
          simp only [List.mem_append, List.mem_singleton]
          rintro s (hs | rfl)
          exacts [ih s hs, .create o]
      | createMonitoredItem i r =>
          rcases Server.step_createMonitoredItem_eq hv with rfl | ⟨s, res, s', hs, hcr, rfl⟩
          · exact ih
          · exact hset hs (show OpcuaServer.step ctx s (.createMonitoredItem r srv.gMonitoredItemId) = .ok s' by
              simp [OpcuaServer.step, hcr, Op.call, Except.map])
      | removeMonitoredItem i k => exact hcall hv
      | terminate i => exact hcall hv

/-- On a server every subscription keeps its keys strictly increasing: the id a creation takes
lies above every key of the subscription, so it goes last. -/
theorem Server.Reachable.monitoredItemIds_sorted {ctx : Context} {srv : Server} (h : Server.Reachable ctx srv) :
    ∀ s ∈ srv.subscriptions, s.monitoredItemIds.Sorted (· < ·) := by
  induction h with
  | init => simp [Server.init]
  | @step srv srv' op hr hv ih =>
      have hset : ∀ {i : ℕ} {s' : Subscription}, s'.monitoredItemIds.Sorted (· < ·) →
          ∀ x ∈ srv.subscriptions.set i s', x.monitoredItemIds.Sorted (· < ·) := fun hs' x hx =>
        (List.mem_or_eq_of_mem_set hx).elim (ih x) (· ▸ hs')
      -- removing and terminating keep some keys, in order
      have hcall : ∀ {i : ℕ} {o : Op}, (∀ r k, o ≠ .createMonitoredItem r k) → srv.call ctx i o = .ok srv' →
          ∀ x ∈ srv'.subscriptions, x.monitoredItemIds.Sorted (· < ·) := by
        intro i o ho hv
        rcases Server.call_cases hv with rfl | ⟨s, s', hs, hst, rfl⟩
        exacts [ih, hset ((ih s (List.getElem?_mem hs)).sublist (step_monitoredItemIds_sublist ho hst))]
      cases op with
      | createSubscription o =>
          cases hv
          simp only [List.mem_append, List.mem_singleton]
          rintro s (hs | rfl)
          exacts [ih s hs, List.sorted_nil]
      | createMonitoredItem i r =>
          rcases Server.step_createMonitoredItem_eq hv with rfl | ⟨s, res, s', hs, hcr, rfl⟩
          · exact ih
          have hmem := List.getElem?_mem hs
          have hlt : ∀ m ∈ s.monitoredItems, m.monitoredItemId < srv.gMonitoredItemId := fun m hm =>
            hr.inv.below s hmem _ ((hr.inv.items s hmem).subset (List.mem_map_of_mem _ hm))
          refine hset ?_
          rcases createMonitoredItem_monitoredItemIds hcr with ht | ⟨item, hid, ht⟩
          · exact ht ▸ ih s hmem
          have hfresh : item.monitoredItemId ∉ s.monitoredItemIds := fun hk =>
            let ⟨m, hm, he⟩ := List.mem_map.1 hk
            lt_irrefl _ (hid ▸ he ▸ hlt m hm)
          rw [ht, emit_monitoredItems, insertMonitoredItem_of_not_mem hfresh,
            placeNewMonitoredItem_of_lt (hid ▸ hlt), List.map_append]
          refine List.pairwise_append.2 ⟨ih s hmem, List.pairwise_singleton _ _, fun a ha b hb => ?_⟩
          obtain ⟨m, hm, rfl⟩ := List.mem_map.1 ha
          obtain rfl := List.mem_singleton.1 hb
          exact (hlt m hm).trans_eq hid.symm
      | removeMonitoredItem i k => exact hcall (by simp) hv
      | terminate i => exact hcall (by simp) hv

/-- In every state of a server, after any interleaving of creations, removals and terminations on
its subscriptions, `getMonitoredItems` on a subscription answers Good, and its `serverHandles` spell,
in strictly increasing order, exactly the ids that subscription created and has not removed. -/
theorem getMonitoredItems_lists_live_items {ctx : Context} {srv : Server} (h : Server.Reachable ctx srv)
    {s : Subscription} (hs : s ∈ srv.subscriptions) :
    s.getMonitoredItems.statusCode = .good ∧
    ∃ ids : List ℕ, s.getMonitoredItems.serverHandles = ids.map toString ∧ ids.Sorted (· < ·) ∧
      createdItems s.trace ~ ids ++ removedItems s.trace :=
  ⟨rfl, s.monitoredItemIds, by simp [getMonitoredItems, monitoredItemIds],
    h.monitoredItemIds_sorted s hs, (h.inv.items s hs).perm⟩

/-- Two items created on one subscription and the first removed: the handles are `["2"]`. -/
theorem getMonitoredItems_lists_live_items_after_remove :
    ∃ srv, Server.Reachable variableContext srv ∧ ∃ s ∈ srv.subscriptions,
      s.getMonitoredItems.serverHandles = ["2"] ∧ s.getMonitoredItems.statusCode = .good ∧
      ∃ ids : List ℕ, s.getMonitoredItems.serverHandles = ids.map toString ∧ ids.Sorted (· < ·) ∧
        createdItems s.trace ~ ids ++ removedItems s.trace := by
  have h₁ : Server.Reachable variableContext { Server.init with subscriptions := [Subscription.create {}] } :=
    .step .init (show Server.step _ _ (.createSubscription {}) = _ from rfl)
  have hrun : (Server.run variableContext { Server.init with subscriptions := [Subscription.create {}] }
      [.createMonitoredItem 0 valueRequest, .createMonitoredItem 0 valueRequest, .removeMonitoredItem 0 1]).toOption.any
      (fun srv => srv.subscriptions.any fun s => s.getMonitoredItems.serverHandles == ["2"]) = true := by
    rw [Subscription.create_of_defaults _ rfl rfl rfl]
    decide
  obtain ⟨srv, hr, hp⟩ := exists_ok_of_any hrun
  obtain ⟨s, hs, hh⟩ := List.any_eq_true.1 hp
  exact ⟨srv, h₁.run hr, s, hs, by simpa using hh, getMonitoredItems_lists_live_items (h₁.run hr) hs⟩

end OpcuaServer
