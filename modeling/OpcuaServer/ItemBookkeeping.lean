import OpcuaServer.PublishingMode

/-!
# Bookkeeping of monitored items

Three pieces of state follow the monitored items without being them: the cache
`_hasMonitoredItemNotifications` behind the getter `hasMonitoredItemNotifications`, the count
`monitoredItemCount`, and the module-level counter `g_monitoredItemId` that numbers the items of
every subscription.

The cache is reset by the harvest only. `removeMonitoredItem` leaves it set, so once the only item
with notifications is removed the getter still answers true, and the next tick without a publish
request sends the subscription LATE with nothing to send (`cache_outlives_removed_item`).

The count is the number of keys of the item map. `terminate` empties the map, but on a CLOSED
subscription it returns at once, and `createMonitoredItem` never looks at the state: an item
created after the first `terminate` outlives the second (`terminate_keeps_item_of_closed_subscription`).

The counter hands out each id once. Every id a subscription ever created lies below it, so a
creation that answers Good replaces no entry of any map, one that answers Bad changes no map and
no counter, and each map holds exactly the ids its subscription created and has not removed
(`monitoredItem_ids_fresh`).
-/

namespace OpcuaServer

open Subscription
open scoped List

/-! ## The cache after a removal -/

/-- After the only item with notifications is removed the getter still answers true, though no
item holds a notification and nothing is pending; a tick without a publish request then sends the
subscription from KEEPALIVE to LATE instead of running the keep-alive procedure. -/
theorem cache_outlives_removed_item :
    ∃ s, Reachable variableContext (fun _ _ => True) s ∧ s.hasMonitoredItemNotifications = true ∧
      s.monitoredItems.any (·.hasMonitoredItemNotifications) = false ∧ s.pendingNotifications = [] ∧
      s.state = .keepalive ∧ ∃ t, step variableContext s (.tick 0 true) = .ok t ∧ t.state = .late := by
  have hrun : (run variableContext (Subscription.create { publishingEnabled := some false })
      [.createMonitoredItem valueRequest 1, .sample 1 (.monitoredItemNotification 1 0), .tick 1 true,
       .setPublishingMode true, .removeMonitoredItem 1]).toOption.any
      (fun s => s.hasMonitoredItemNotifications && !s.monitoredItems.any (·.hasMonitoredItemNotifications) &&
        s.pendingNotifications.isEmpty && s.state == .keepalive &&
        (step variableContext s (.tick 0 true)).toOption.any (·.state == .late)) = true := by
    rw [Subscription.create_of_defaults _ rfl rfl rfl]
    decide
  obtain ⟨s, hs, hp⟩ := (Reachable.create _ : Reachable variableContext (fun _ _ => True) _).exists_of_run
    (fun _ _ _ => trivial) hrun
  simp only [Bool.and_eq_true, Bool.not_eq_true', List.isEmpty_iff, beq_iff_eq] at hp
  obtain ⟨⟨⟨⟨h₁, h₂⟩, h₃⟩, h₄⟩, h₅⟩ := hp
  obtain ⟨t, ht, hl⟩ := exists_ok_of_any h₅
  exact ⟨s, hs, h₁, h₂, h₃, h₄, t, ht, by simpa using hl⟩

/-! ## The ids a subscription creates and removes -/

/-- `monitoredItemCount`: the number of keys of the item map. -/
def Subscription.monitoredItemCount (s : Subscription) : ℕ := s.monitoredItems.length

/-- The keys of the item map, in `Object.keys` order. -/
def Subscription.monitoredItemIds (s : Subscription) : List ℕ := s.monitoredItems.map (·.monitoredItemId)

namespace Event

/-- The id a `monitoredItem` event announces: the item `createMonitoredItem` just added. -/
def createdItem : Event → List ℕ
  | monitoredItem i => [i]
  | _ => []

/-- The id a `removeMonitoredItem` event announces. -/
def removedItem : Event → List ℕ
  | removeMonitoredItem i => [i]
  | _ => []

end Event

def createdItems (t : List Event) : List ℕ := t.flatMap Event.createdItem
def removedItems (t : List Event) : List ℕ := t.flatMap Event.removedItem

@[simp] theorem createdItems_append (a b : List Event) :
    createdItems (a ++ b) = createdItems a ++ createdItems b := by simp [createdItems]
@[simp] theorem removedItems_append (a b : List Event) :
    removedItems (a ++ b) = removedItems a ++ removedItems b := by simp [removedItems]
@[simp] theorem createdItems_cons (e : Event) (t : List Event) :
    createdItems (e :: t) = e.createdItem ++ createdItems t := rfl
@[simp] theorem removedItems_cons (e : Event) (t : List Event) :
    removedItems (e :: t) = e.removedItem ++ removedItems t := rfl
@[simp] theorem createdItems_nil : createdItems [] = [] := rfl
@[simp] theorem removedItems_nil : removedItems [] = [] := rfl

/-- The item map holds each id once, and exactly the ids created and not yet removed. -/
structure ItemInv (s : Subscription) : Prop where
  nodup : s.monitoredItemIds.Nodup
  perm : createdItems s.trace ~ s.monitoredItemIds ++ removedItems s.trace

namespace ItemInv

variable {s t : Subscription}

theorem subset (h : ItemInv s) : s.monitoredItemIds ⊆ createdItems s.trace :=
  fun _ hk => h.perm.symm.subset (List.mem_append_left _ hk)

/-- The count is the number of creations less the number of removals. -/
theorem count_eq (h : ItemInv s) :
    s.monitoredItemCount + (removedItems s.trace).length = (createdItems s.trace).length := by
  rw [h.perm.length_eq, List.length_append, Subscription.monitoredItemCount, Subscription.monitoredItemIds,
    List.length_map]

theorem create (o : Options) : ItemInv (Subscription.create o) := ⟨List.nodup_nil, .nil⟩

/-- A step that keeps the map's keys and neither creates nor removes an item. -/
theorem of_quiet (h : ItemInv s) (E : List Event) (ht : t.trace = s.trace ++ E)
    (hc : createdItems E = []) (hr : removedItems E = []) (hk : t.monitoredItemIds = s.monitoredItemIds) :
    ItemInv t :=
  ⟨hk ▸ h.nodup, by simpa only [ht, createdItems_append, removedItems_append, hc, hr, List.append_nil, hk] using h.perm⟩

theorem congr (h : ItemInv s) (ht : t.trace = s.trace) (hk : t.monitoredItems = s.monitoredItems) : ItemInv t :=
  h.of_quiet [] (by rw [ht, List.append_nil]) rfl rfl (by rw [Subscription.monitoredItemIds, hk]; rfl)

theorem emit (h : ItemInv s) (e : Event) (hc : e.createdItem = []) (hr : e.removedItem = []) :
    ItemInv (s.emit e) :=
  h.of_quiet [e] rfl (by simp [hc]) (by simp [hr]) rfl

theorem removeMonitoredItem (h : ItemInv s) (k : ℕ) : ItemInv (s.removeMonitoredItem k).2 := by
  unfold Subscription.removeMonitoredItem
  split_ifs with hk
  · have hmem : k ∈ s.monitoredItemIds := by simpa [Subscription.monitoredItemIds] using hk
    -- the ids are distinct, so the filter drops exactly the one entry with id `k`
    have hids : (s.monitoredItems.filter (·.monitoredItemId ≠ k)).map (·.monitoredItemId) =
        s.monitoredItemIds.erase k := by
      rw [h.nodup.erase_eq_filter, Subscription.monitoredItemIds, List.filter_map]
      exact congrArg _ (List.filter_congr fun x _ => by rw [Bool.eq_iff_iff]; simp)
    constructor
    · show ((s.monitoredItems.filter (·.monitoredItemId ≠ k)).map (·.monitoredItemId)).Nodup
      rw [hids]
      exact h.nodup.erase k
    · show createdItems (s.trace ++ [.removeMonitoredItem k]) ~
        (s.monitoredItems.filter (·.monitoredItemId ≠ k)).map (·.monitoredItemId) ++
          removedItems (s.trace ++ [.removeMonitoredItem k])
      simp only [hids, createdItems_append, removedItems_append, createdItems_cons, removedItems_cons,
        Event.createdItem, Event.removedItem, createdItems_nil, removedItems_nil, List.append_nil]
      calc createdItems s.trace ~ s.monitoredItemIds ++ removedItems s.trace := h.perm
        _ ~ (k :: s.monitoredItemIds.erase k) ++ removedItems s.trace := (List.perm_cons_erase hmem).append_right _
        _ ~ s.monitoredItemIds.erase k ++ (removedItems s.trace ++ [k]) := by
            rw [← List.append_assoc]
            exact @List.perm_append_comm _ [k] (_ ++ _)
  · exact h

theorem removeMonitoredItems (h : ItemInv s) (keys : List ℕ) : ItemInv (s.removeMonitoredItems keys) := by
  induction keys generalizing s with
  | nil => exact h
  | cons k ks ih => exact ih (h.removeMonitoredItem k)

theorem terminate (h : ItemInv s) : ItemInv s.terminate := by
  unfold Subscription.terminate
  split_ifs
  · exact h
  · have hu : ItemInv s.stopTimer := h.congr rfl rfl
    have hc : ItemInv { s.stopTimer.removeMonitoredItems (s.monitoredItems.map (·.monitoredItemId)) with
        state := .closed } := (hu.removeMonitoredItems _).congr rfl rfl
    exact ((hc.emit .terminated rfl rfl).emit .onCloseSubscription rfl rfl)

/-- Each operation the server forwards to a subscription keeps the map's ids and the created ids in
step; none of them creates an item. -/
theorem step_forwarded (h : ItemInv s) {ctx : Context} {op : Op}
    (hop : op = .terminate ∨ ∃ k, op = .removeMonitoredItem k) (hv : OpcuaServer.step ctx s op = .ok t) :
    ItemInv t ∧ createdItems t.trace = createdItems s.trace := by
  have h0 : ItemInv (s.emit (.invoked op.call)) := h.emit _ rfl rfl
  obtain rfl | ⟨k, rfl⟩ := hop <;> cases Except.ok.inj hv
  · refine ⟨h0.terminate, ?_⟩
    by_cases hc : s.state = .closed
    · rw [@terminate_of_closed (s.emit _) hc]
      simp [Event.createdItem]
    · obtain ⟨E, hE, heq⟩ := @terminate_of_ne_closed (s.emit _) hc
      rw [heq]
      simpa [Event.createdItem, createdItems] using fun e he => by obtain ⟨k, rfl⟩ := hE e he; rfl
  · refine ⟨h0.removeMonitoredItem k, ?_⟩
    obtain ⟨E, hE, heq⟩ := (s.emit (.invoked (Op.removeMonitoredItem k).call)).removeMonitoredItem_eq k
    rw [heq]
    obtain rfl | rfl := hE <;> simp [Event.createdItem]

end ItemInv

/-- Replacing the entry at `i` changes a flat map by the replaced entry's part. -/
theorem flatMap_set_perm {α β : Type} {l : List α} {i : ℕ} {a : α} (b : α) (f : α → List β)
    (h : l[i]? = some a) : (l.set i b).flatMap f ++ f a ~ l.flatMap f ++ f b := by
  induction l generalizing i with
  | nil => simp at h
  | cons x xs ih =>
      cases i with
      | zero =>
          obtain rfl : x = a := by simpa using h
          simp only [List.set_cons_zero, List.flatMap_cons]
          calc f b ++ xs.flatMap f ++ f x ~ f x ++ (f b ++ xs.flatMap f) := List.perm_append_comm
            _ ~ f x ++ (xs.flatMap f ++ f b) := List.perm_append_comm.append_left _
            _ = f x ++ xs.flatMap f ++ f b := (List.append_assoc _ _ _).symm
      | succ i =>
          simp only [List.set_cons_succ, List.flatMap_cons, List.append_assoc]
          exact (ih (by simpa using h)).append_left _

/-- An entry replaced by one whose part grows by `X`. -/
theorem flatMap_set_perm_of_eq {α β : Type} {l : List α} {i : ℕ} {a b : α} {f : α → List β} {X : List β}
    (h : l[i]? = some a) (hf : f b = f a ++ X) : (l.set i b).flatMap f ~ l.flatMap f ++ X :=
  (List.perm_append_right_iff (f a)).1 <| (flatMap_set_perm b f h).trans <| by
    rw [hf, List.append_assoc]
    exact List.perm_append_comm.append_left _

theorem map_set_of_eq {α β : Type} {l : List α} {i : ℕ} {a b : α} {f : α → β} (h : l[i]? = some a)
    (hf : f b = f a) : (l.set i b).map f = l.map f := by
  induction l generalizing i with
  | nil => simp at h
  | cons x xs ih =>
      cases i with
      | zero =>
          obtain rfl : x = a := by simpa using h
          simp [hf]
      | succ i => simp [ih (by simpa using h)]

/-! ## One server: subscriptions sharing `g_monitoredItemId` -/

/-- What the subscriptions of one server share: `g_monitoredItemId`, module-level in
`subscription.js` and read by every subscription's `getNextMonitoredItemId()`; the subscriptions,
by index; and the results `createMonitoredItem` answered, oldest first. -/
structure Server where
  gMonitoredItemId : ℕ
  subscriptions : List Subscription
  results : List MonitoredItemCreateResult

inductive ServerOp where
  | createSubscription (options : Options)
  | createMonitoredItem (subscription : ℕ) (request : MonitoredItemCreateRequest)
  | removeMonitoredItem (subscription : ℕ) (monitoredItemId : ℕ)
  | terminate (subscription : ℕ)

/-- The ids answered with Good, in order. -/
def goodIds (results : List MonitoredItemCreateResult) : List ℕ :=
  (results.filter (·.statusCode = .good)).map (·.monitoredItemId)

@[simp] theorem goodIds_append_of_good {results : List MonitoredItemCreateResult} {res : MonitoredItemCreateResult}
    (h : res.statusCode = .good) : goodIds (results ++ [res]) = goodIds results ++ [res.monitoredItemId] := by
  simp [goodIds, h]

@[simp] theorem goodIds_append_of_bad {results : List MonitoredItemCreateResult} {res : MonitoredItemCreateResult}
    (h : res.statusCode ≠ .good) : goodIds (results ++ [res]) = goodIds results := by
  simp [goodIds, h]

namespace Server

/-- `var g_monitoredItemId = 1;`, and no subscription yet. -/
def init : Server := ⟨1, [], []⟩

/-- An operation on the subscription at index `i`; one on no subscription changes nothing. -/
def call (ctx : Context) (srv : Server) (i : ℕ) (op : Op) : Except Fault Server :=
  match srv.subscriptions[i]? with
  | none => .ok srv
  | some s => (OpcuaServer.step ctx s op).map fun s' => { srv with subscriptions := srv.subscriptions.set i s' }

/-- A creation runs the subscription's `createMonitoredItem` as `step` does, with the id
`getNextMonitoredItemId()` hands out. That call is made by `_createMonitoredItemStep2`, which is
exactly when the answer is Good (`createMonitoredItem_cases`), so the counter moves with it. -/
def step (ctx : Context) (srv : Server) : ServerOp → Except Fault Server
  | .createSubscription o => .ok { srv with subscriptions := srv.subscriptions ++ [Subscription.create o] }
  | .createMonitoredItem i r =>
      match srv.subscriptions[i]? with
      | none => .ok srv
      | some s =>
          ((s.emit (.invoked .createMonitoredItem)).createMonitoredItem ctx r srv.gMonitoredItemId).map
            fun (res, s') =>
              { gMonitoredItemId := if res.statusCode = .good then srv.gMonitoredItemId + 1 else srv.gMonitoredItemId
                subscriptions := srv.subscriptions.set i s'
                results := srv.results ++ [res] }
  | .removeMonitoredItem i k => srv.call ctx i (.removeMonitoredItem k)
  | .terminate i => srv.call ctx i .terminate

def run (ctx : Context) : Server → List ServerOp → Except Fault Server
  | srv, [] => .ok srv
  | srv, op::ops => (srv.step ctx op).bind (run ctx · ops)

/-- The states of the server along any interleaving of its operations. -/
inductive Reachable (ctx : Context) : Server → Prop
  | init : Reachable ctx init
  | step {srv srv' : Server} {op : ServerOp} : Reachable ctx srv → srv.step ctx op = .ok srv' → Reachable ctx srv'

theorem Reachable.run {ctx : Context} {srv srv' : Server} {ops : List ServerOp} (h : Reachable ctx srv)
    (hr : Server.run ctx srv ops = .ok srv') : Reachable ctx srv' := by
  induction ops generalizing srv with
  | nil => cases hr; exact h
  | cons op ops ih =>
      cases hs : srv.step ctx op with
      | error f => simp [Server.run, hs, bind, Except.bind] at hr
      | ok t =>
          simp only [Server.run, hs, bind, Except.bind] at hr
          exact ih (h.step hs) hr

end Server

theorem Server.step_createMonitoredItem_eq {ctx : Context} {srv srv' : Server} {i : ℕ}
    {r : MonitoredItemCreateRequest} (hv : srv.step ctx (.createMonitoredItem i r) = .ok srv') :
    srv' = srv ∨ ∃ s res s', srv.subscriptions[i]? = some s ∧
      (s.emit (.invoked .createMonitoredItem)).createMonitoredItem ctx r srv.gMonitoredItemId = .ok (res, s') ∧
      srv' = { gMonitoredItemId := if res.statusCode = .good then srv.gMonitoredItemId + 1 else srv.gMonitoredItemId
               subscriptions := srv.subscriptions.set i s'
               results := srv.results ++ [res] } := by
  simp only [Server.step] at hv
  split at hv
  · exact .inl (Except.ok.inj hv).symm
  rename_i s hs
  cases hcr : (s.emit (.invoked .createMonitoredItem)).createMonitoredItem ctx r srv.gMonitoredItemId with
  | error f => simp [hcr, Except.map] at hv
  | ok p =>
      simp only [hcr, Except.map, Except.ok.injEq] at hv
      exact .inr ⟨s, p.1, p.2, hs, hcr, hv.symm⟩

/-- An operation forwarded to the subscription at `i` replaces that subscription by one step of it,
or, when there is none, changes nothing. -/
theorem Server.call_cases {ctx : Context} {srv srv' : Server} {i : ℕ} {op : Op} (hv : srv.call ctx i op = .ok srv') :
    srv' = srv ∨ ∃ s s', srv.subscriptions[i]? = some s ∧ OpcuaServer.step ctx s op = .ok s' ∧
      srv' = { srv with subscriptions := srv.subscriptions.set i s' } := by
  unfold Server.call at hv
  split at hv
  · exact .inl (Except.ok.inj hv).symm
  rename_i s hs
  cases hst : OpcuaServer.step ctx s op with
  | error f => simp [hst, Except.map] at hv
  | ok s' =>
      simp only [hst, Except.map, Except.ok.injEq] at hv
      exact .inr ⟨s, s', hs, hst, hv.symm⟩

/-- Every id a subscription created lies below the counter and was created once, by one
subscription; every id answered with Good lies below the counter and was answered once. -/
structure ServerInv (srv : Server) : Prop where
  items : ∀ s ∈ srv.subscriptions, ItemInv s
  below : ∀ s ∈ srv.subscriptions, ∀ k ∈ createdItems s.trace, k < srv.gMonitoredItemId
  disjoint : (srv.subscriptions.flatMap fun s => createdItems s.trace).Nodup
  goodIds_nodup : (goodIds srv.results).Nodup
  goodIds_below : ∀ k ∈ goodIds srv.results, k < srv.gMonitoredItemId

namespace ServerInv

variable {srv srv' : Server} {ctx : Context}

theorem init : ServerInv Server.init :=
  ⟨by simp [Server.init], by simp [Server.init], by simp [Server.init], by simp [Server.init, goodIds],
    by simp [Server.init, goodIds]⟩

theorem createSubscription (h : ServerInv srv) (o : Options) :
    ServerInv { srv with subscriptions := srv.subscriptions ++ [Subscription.create o] } := by
  have hc : createdItems (Subscription.create o).trace = [] := rfl
  refine ⟨?_, ?_, ?_, h.goodIds_nodup, h.goodIds_below⟩
  · simp only [List.mem_append, List.mem_singleton]
    rintro s (hs | rfl)
    exacts [h.items s hs, ItemInv.create o]
  · simp only [List.mem_append, List.mem_singleton]
    rintro s (hs | rfl)
    exacts [h.below s hs, by simp [hc]]
  · simpa [hc] using h.disjoint

/-- Removing and terminating keep the created ids, and so the invariant. -/
theorem call (h : ServerInv srv) {i : ℕ} {op : Op} (hop : op = .terminate ∨ ∃ k, op = .removeMonitoredItem k)
    (hv : srv.call ctx i op = .ok srv') : ServerInv srv' := by
  rcases Server.call_cases hv with rfl | ⟨s, s', hs, hst, rfl⟩
  · exact h
  obtain ⟨hinv, hcr⟩ := (h.items s (List.getElem?_mem hs)).step_forwarded hop hst
  refine ⟨fun x hx => ?_, fun x hx => ?_, ?_, h.goodIds_nodup, h.goodIds_below⟩
  · rcases List.mem_or_eq_of_mem_set hx with hx | rfl
    exacts [h.items x hx, hinv]
  · rcases List.mem_or_eq_of_mem_set hx with hx | rfl
    exacts [h.below x hx, hcr ▸ h.below s (List.getElem?_mem hs)]
  · exact ((flatMap_set_perm_of_eq hs (by rw [hcr, List.append_nil])).trans
      (by rw [List.append_nil])).nodup_iff.2 h.disjoint

/-- A creation answered Bad leaves every map as it was; one answered Good takes the counter's id,
which no subscription created before, and moves the counter past it. -/
theorem createMonitoredItem (h : ServerInv srv) {i : ℕ} {r : MonitoredItemCreateRequest}
    (hv : srv.step ctx (.createMonitoredItem i r) = .ok srv') : ServerInv srv' := by
  rcases Server.step_createMonitoredItem_eq hv with rfl | ⟨s, res, s', hs, hcr, rfl⟩
  · exact h
  have hmem := List.getElem?_mem hs
  have h0 : ItemInv (s.emit (.invoked .createMonitoredItem)) := (h.items s hmem).emit _ rfl rfl
  have hc0 : createdItems (s.emit (.invoked .createMonitoredItem)).trace = createdItems s.trace := by
    simp [Event.createdItem]
  rcases createMonitoredItem_cases hcr with ⟨hbad, rfl⟩ | ⟨hgood, hid, si, hs'⟩
  · rw [if_neg hbad]
    refine ⟨fun x hx => ?_, fun x hx => ?_, ?_, by simpa [hbad] using h.goodIds_nodup,
      by simpa [hbad] using h.goodIds_below⟩
    · rcases List.mem_or_eq_of_mem_set hx with hx | rfl
      exacts [h.items x hx, h0]
    · rcases List.mem_or_eq_of_mem_set hx with hx | rfl
      exacts [h.below x hx, hc0 ▸ h.below s hmem]
    · exact ((flatMap_set_perm_of_eq hs (by rw [hc0, List.append_nil])).trans
        (by rw [List.append_nil])).nodup_iff.2 h.disjoint
  · rw [if_pos hgood]
    set g := srv.gMonitoredItemId
    have hitems := congrArg Subscription.monitoredItems hs'
    have htr := congrArg Subscription.trace hs'
    dsimp only at hitems htr
    have hfresh : g ∉ (s.emit (.invoked .createMonitoredItem)).monitoredItemIds :=
      fun hg => lt_irrefl _ (h.below s hmem g (hc0 ▸ h0.subset hg))
    have hperm : s'.monitoredItemIds ~ g :: (s.emit (.invoked .createMonitoredItem)).monitoredItemIds := by
      rw [Subscription.monitoredItemIds, hitems, List.map_map]
      refine List.Perm.trans (List.Perm.of_eq (List.map_congr_left fun m _ => ?_)) (insertMonitoredItem_ids hfresh)
      simp only [Function.comp_apply]
      split_ifs <;> rfl
    have hcs : createdItems s'.trace = createdItems s.trace ++ [g] := by
      rw [htr, createdItems_append, hc0]
      rfl
    have hrs : removedItems s'.trace = removedItems (s.emit (.invoked .createMonitoredItem)).trace := by
      rw [htr, removedItems_append]
      exact List.append_nil _
    have hinv : ItemInv s' := by
      refine ⟨hperm.nodup_iff.2 (List.nodup_cons.2 ⟨hfresh, h0.nodup⟩), ?_⟩
      rw [hcs, hrs, ← hc0]
      calc _ ~ _ ++ [g] := h0.perm.append_right _
        _ ~ (g :: _) ++ _ := List.perm_append_singleton _ _
        _ ~ _ := hperm.symm.append_right _
    have hbelow : ∀ k ∈ srv.subscriptions.flatMap fun s => createdItems s.trace, k < g := by
      simp only [List.mem_flatMap]
      rintro k ⟨x, hx, hk⟩
      exact h.below x hx k hk
    refine ⟨fun x hx => ?_, fun x hx k hk => ?_, ?_, ?_, ?_⟩
    · rcases List.mem_or_eq_of_mem_set hx with hx | rfl
      exacts [h.items x hx, hinv]
    · rcases List.mem_or_eq_of_mem_set hx with hx | rfl
      · exact Nat.lt_succ_of_lt (h.below x hx k hk)
      · rw [hcs, List.mem_append, List.mem_singleton] at hk
        rcases hk with hk | rfl
        exacts [Nat.lt_succ_of_lt (h.below s hmem k hk), Nat.lt_succ_self _]
    · refine ((flatMap_set_perm_of_eq hs hcs).trans (List.perm_append_singleton _ _)).nodup_iff.2 ?_
      exact List.nodup_cons.2 ⟨fun hg => lt_irrefl _ (hbelow g hg), h.disjoint⟩
    · rw [goodIds_append_of_good hgood, hid]
      exact (List.perm_append_singleton _ _).nodup_iff.2
        (List.nodup_cons.2 ⟨fun hg => lt_irrefl _ (h.goodIds_below g hg), h.goodIds_nodup⟩)
    · rw [goodIds_append_of_good hgood, hid]
      simp only [List.mem_append, List.mem_singleton]
      rintro k (hk | rfl)
      exacts [Nat.lt_succ_of_lt (h.goodIds_below k hk), Nat.lt_succ_self _]

theorem step (h : ServerInv srv) {op : ServerOp} (hv : srv.step ctx op = .ok srv') : ServerInv srv' := by
  cases op with
  | createSubscription o =>
      cases hv
      exact h.createSubscription o
  | createMonitoredItem i r => exact h.createMonitoredItem hv
  | removeMonitoredItem i k => exact h.call (.inr ⟨k, rfl⟩) hv
  | terminate i => exact h.call (.inl rfl) hv

end ServerInv

theorem Server.Reachable.inv {ctx : Context} {srv : Server} (h : Server.Reachable ctx srv) : ServerInv srv := by
  induction h with
  | init => exact .init
  | step _ hv ih => exact ih.step hv

/-- No id sits in two maps, nor twice in one. -/
theorem nodup_flatMap_monitoredItemIds {l : List Subscription} (hi : ∀ s ∈ l, ItemInv s)
    (hd : (l.flatMap fun s => createdItems s.trace).Nodup) : (l.flatMap (·.monitoredItemIds)).Nodup := by
  induction l with
  | nil => simp
  | cons x xs ih =>
      rw [List.flatMap_cons, List.nodup_append] at hd ⊢
      obtain ⟨-, hxs, hdis⟩ := hd
      refine ⟨(hi x (.head _)).nodup, ih (fun s hs => hi s (.tail _ hs)) hxs, fun k hk hk' => ?_⟩
      obtain ⟨s, hs, hks⟩ := List.mem_flatMap.1 hk'
      exact hdis ((hi x (.head _)).subset hk) (List.mem_flatMap.2 ⟨s, hs, (hi s (.tail _ hs)).subset hks⟩)

/-- An item created on a CLOSED subscription is answered Good, and the `terminate` that follows
returns at once and leaves it in the map: the count after `terminate` is 1. -/
theorem terminate_keeps_item_of_closed_subscription :
    ∃ srv srv', Server.Reachable variableContext srv ∧ srv.subscriptions.map (·.state) = [.closed] ∧
      goodIds srv.results = [1] ∧ srv.step variableContext (.terminate 0) = .ok srv' ∧
      srv'.subscriptions.map (·.monitoredItemCount) = [1] := by
  have h₁ : Server.Reachable variableContext { Server.init with subscriptions := [Subscription.create {}] } :=
    .step .init (show Server.step _ _ (.createSubscription {}) = _ from rfl)
  have hrun : (Server.run variableContext { Server.init with subscriptions := [Subscription.create {}] }
      [.terminate 0, .createMonitoredItem 0 valueRequest]).toOption.any (fun srv =>
        srv.subscriptions.map (·.state) == [.closed] && goodIds srv.results == [1] &&
        (srv.step variableContext (.terminate 0)).toOption.any
          (·.subscriptions.map (·.monitoredItemCount) == [1])) = true := by
    rw [Subscription.create_of_defaults _ rfl rfl rfl]
    decide
  obtain ⟨srv, hr, hp⟩ := exists_ok_of_any hrun
  simp only [Bool.and_eq_true, beq_iff_eq] at hp
  obtain ⟨⟨hst, hgood⟩, hterm⟩ := hp
  obtain ⟨srv', hv, hc⟩ := exists_ok_of_any hterm
  exact ⟨srv, srv', h₁.run hr, hst, hgood, hv, by simpa using hc⟩

/-- Across the subscriptions of one server and any interleaving of creations, removals and
terminations: the ids answered with Good are distinct, no id sits in two maps, and each map holds
exactly the ids its subscription created and has not removed, so its count is the number of its
creations less the number of its removals. The next creation either answers Bad and changes no map
and no counter, or answers Good with the counter's id, which no map holds, and keeps every entry. -/
theorem monitoredItem_ids_fresh {ctx : Context} {srv : Server} (h : Server.Reachable ctx srv) :
    (goodIds srv.results).Nodup ∧ (srv.subscriptions.flatMap (·.monitoredItemIds)).Nodup ∧
    (∀ s ∈ srv.subscriptions, createdItems s.trace ~ s.monitoredItemIds ++ removedItems s.trace ∧
      s.monitoredItemCount + (removedItems s.trace).length = (createdItems s.trace).length) ∧
    ∀ (i : ℕ) (r : MonitoredItemCreateRequest) (srv' : Server), srv.step ctx (.createMonitoredItem i r) = .ok srv' →
      (srv'.gMonitoredItemId = srv.gMonitoredItemId ∧ goodIds srv'.results = goodIds srv.results ∧
        srv'.subscriptions.map (·.monitoredItems) = srv.subscriptions.map (·.monitoredItems) ∧
        srv'.subscriptions.map (·.monitoredItemIdCounter) = srv.subscriptions.map (·.monitoredItemIdCounter)) ∨
      (srv'.gMonitoredItemId = srv.gMonitoredItemId + 1 ∧
        goodIds srv'.results = goodIds srv.results ++ [srv.gMonitoredItemId] ∧
        srv.gMonitoredItemId ∉ srv.subscriptions.flatMap (·.monitoredItemIds) ∧
        ∀ (j : ℕ) (s : Subscription), srv.subscriptions[j]? = some s →
          ∃ s', srv'.subscriptions[j]? = some s' ∧ ∀ m ∈ s.monitoredItems, m ∈ s'.monitoredItems) := by
  have hi := h.inv
  have hfresh : srv.gMonitoredItemId ∉ srv.subscriptions.flatMap (·.monitoredItemIds) := fun hg => by
    obtain ⟨s, hs, hk⟩ := List.mem_flatMap.1 hg
    exact lt_irrefl _ (hi.below s hs _ ((hi.items s hs).subset hk))
  refine ⟨hi.goodIds_nodup, nodup_flatMap_monitoredItemIds hi.items hi.disjoint,
    fun s hs => ⟨(hi.items s hs).perm, (hi.items s hs).count_eq⟩, fun i r srv' hv => ?_⟩
  rcases Server.step_createMonitoredItem_eq hv with rfl | ⟨s, res, s', hs, hcr, rfl⟩
  · exact .inl ⟨rfl, rfl, rfl, rfl⟩
  rcases createMonitoredItem_cases hcr with ⟨hbad, rfl⟩ | ⟨hgood, hid, si, hs'⟩
  · exact .inl ⟨if_neg hbad, goodIds_append_of_bad hbad, map_set_of_eq hs rfl, map_set_of_eq hs rfl⟩
  refine .inr ⟨if_pos hgood, by rw [goodIds_append_of_good hgood, hid], hfresh, fun j s₀ hj => ?_⟩
  by_cases hij : i = j
  · subst hij
    obtain rfl : s₀ = s := Option.some.inj (hj.symm.trans hs)
    refine ⟨s', by simp [List.getElem?_set, (List.getElem?_eq_some_iff.1 hs).1], fun m hm => ?_⟩
    -- the old entry keeps its id, which is not the counter's
    have hne : m.monitoredItemId ≠ srv.gMonitoredItemId := fun he =>
      hfresh (List.mem_flatMap.2 ⟨s₀, List.getElem?_mem hs, List.mem_map.2 ⟨m, hm, he⟩⟩)
    have hnew : srv.gMonitoredItemId ∉ (s₀.emit (.invoked .createMonitoredItem)).monitoredItems.map
        (·.monitoredItemId) := fun hg => hfresh (List.mem_flatMap.2 ⟨s₀, List.getElem?_mem hs, hg⟩)
    rw [hs']
    exact List.mem_map.2 ⟨m, mem_insertMonitoredItem hnew hm, if_neg hne⟩
  · exact ⟨s₀, by rw [List.getElem?_set, if_neg hij, hj], fun m hm => hm⟩

theorem monitoredItem_ids_fresh_after_create :
    ∃ srv, Server.Reachable variableContext srv ∧ goodIds srv.results = [1] ∧
    (goodIds srv.results).Nodup ∧ (srv.subscriptions.flatMap (·.monitoredItemIds)).Nodup ∧
    (∀ s ∈ srv.subscriptions, createdItems s.trace ~ s.monitoredItemIds ++ removedItems s.trace ∧
      s.monitoredItemCount + (removedItems s.trace).length = (createdItems s.trace).length) ∧
    ∀ (i : ℕ) (r : MonitoredItemCreateRequest) (srv' : Server),
      srv.step variableContext (.createMonitoredItem i r) = .ok srv' →
      (srv'.gMonitoredItemId = srv.gMonitoredItemId ∧ goodIds srv'.results = goodIds srv.results ∧
        srv'.subscriptions.map (·.monitoredItems) = srv.subscriptions.map (·.monitoredItems) ∧
        srv'.subscriptions.map (·.monitoredItemIdCounter) = srv.subscriptions.map (·.monitoredItemIdCounter)) ∨
      (srv'.gMonitoredItemId = srv.gMonitoredItemId + 1 ∧
        goodIds srv'.results = goodIds srv.results ++ [srv.gMonitoredItemId] ∧
        srv.gMonitoredItemId ∉ srv.subscriptions.flatMap (·.monitoredItemIds) ∧
        ∀ (j : ℕ) (s : Subscription), srv.subscriptions[j]? = some s →
          ∃ s', srv'.subscriptions[j]? = some s' ∧ ∀ m ∈ s.monitoredItems, m ∈ s'.monitoredItems) := by
  have h₁ : Server.Reachable variableContext { Server.init with subscriptions := [Subscription.create {}] } :=
    .step .init (show Server.step _ _ (.createSubscription {}) = _ from rfl)
  have hrun : (Server.run variableContext { Server.init with subscriptions := [Subscription.create {}] }
      [.createMonitoredItem 0 valueRequest]).toOption.any (fun srv => goodIds srv.results == [1]) = true := by
    rw [Subscription.create_of_defaults _ rfl rfl rfl]
    decide
  obtain ⟨srv, hr, hp⟩ := exists_ok_of_any hrun
  exact ⟨srv, h₁.run hr, by simpa using hp, monitoredItem_ids_fresh (h₁.run hr)⟩

end OpcuaServer
