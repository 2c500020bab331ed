import OpcuaServer.Run

/-!
# The subscription state diagram

The design describes the subscription as a machine over six states, and says what moves it. A sent
NotificationMessage makes it NORMAL, and so does disabling publishing. An accepted keep-alive makes
it KEEPALIVE. A publishing interval with something to send and no publish request makes it LATE,
and so does a refused keep-alive. `terminate` makes it CLOSED. CREATING is only the initial state,
and CLOSED and TERMINATED are absorbing.

Most moves are recorded by one trace event (`SubscriptionState.enteredBy`): `notification` for
NORMAL, a refused `send_keep_alive_response` for LATE, `keepalive` for KEEPALIVE and `terminated`
for CLOSED. `Follows s t` says that `t` keeps the state of `s`, or that `s` was open and an event
between the two traces enters the state of `t`; each function of the publishing cycle follows it,
by one lemma each, and `Follows` composes. Two moves are made by the operation rather than an
event: `setPublishingMode(false)`, and a `_tick` without a publish request while a message is
pending or `hasMonitoredItemNotifications` (the getter the code reads) answers true.
`Op.Enters` is the whole table, and `DiagramStep s op t` says one operation moves along it. Every
operation the engine keeps its promise on is such a step (`step_diagram`), so every run of them is
a run of the diagram (`state_follows_diagram`); CLOSED stays CLOSED, and no move enters CREATING or
TERMINATED: the code leaves CREATING for good and never reaches TERMINATED.

`process_subscription` itself never looks at the state. On a CLOSED subscription it would run
the keep-alive procedure and leave CLOSED; the engine's promise to call it on LATE
subscriptions only (`Op.Promised`) is what keeps CLOSED absorbing.
-/

namespace OpcuaServer

open Subscription

/-- The trace events by which the publishing cycle enters a state. -/
def SubscriptionState.enteredBy : SubscriptionState → Event → Bool
  | .normal, .notification => true
  | .late, .sendKeepAliveResponse _ _ false => true
  | .keepalive, .keepalive _ => true
  | .closed, .terminated => true
  | _, _ => false

@[simp] theorem SubscriptionState.enteredBy_creating (e : Event) : SubscriptionState.creating.enteredBy e = false := by
  cases e <;> rfl

@[simp] theorem SubscriptionState.enteredBy_terminated (e : Event) :
    SubscriptionState.terminated.enteredBy e = false := by
  cases e <;> rfl

/-- `t` follows `s` along the diagram: the trace grows by `E`, and the state stays, or leaves an
open state for one that an event of `E` enters. -/
def Follows (s t : Subscription) : Prop :=
  ∃ E, t.trace = s.trace ++ E ∧ (t.state = s.state ∨ s.state ≠ .closed ∧ ∃ e ∈ E, t.state.enteredBy e)

/-- The design's moves into the state `q`, for the operation `op` on `s` recording the events `E`:
an event that enters `q`; disabling publishing, into NORMAL; or a tick without a publish request
while a message is pending or the items report notifications, into LATE. -/
def Op.Enters (op : Op) (s : Subscription) (E : List Event) (q : SubscriptionState) : Prop :=
  (∃ e ∈ E, q.enteredBy e) ∨ q = .normal ∧ op = .setPublishingMode false ∨
    q = .late ∧ (∃ a, op = .tick 0 a) ∧ (s.pendingNotifications ≠ [] ∨ s.hasMonitoredItemNotifications = true)

/-- One operation moves along the diagram: the trace grows by `E`, and the state stays, or leaves
an open state by one of the design's moves. -/
def DiagramStep (s : Subscription) (op : Op) (t : Subscription) : Prop :=
  ∃ E, t.trace = s.trace ++ E ∧ (t.state = s.state ∨ s.state ≠ .closed ∧ op.Enters s E t.state)

/-- One operation that the engine keeps its promise on. -/
def PromisedStep (ctx : Context) (s t : Subscription) : Prop := ∃ op, op.Promised s ∧ step ctx s op = .ok t

namespace Follows

variable {s t u : Subscription}

theorem of_state_eq (E : List Event) (ht : t.trace = s.trace ++ E) (hs : t.state = s.state) : Follows s t :=
  ⟨E, ht, .inl hs⟩

theorem enter (e : Event) {E : List Event} (ht : t.trace = s.trace ++ E) (hs : s.state ≠ .closed)
    (he : e ∈ E) (hen : t.state.enteredBy e) : Follows s t :=
  ⟨E, ht, .inr ⟨hs, e, he, hen⟩⟩

theorem refl (s : Subscription) : Follows s s := of_state_eq [] (List.append_nil _).symm rfl

theorem trans (h₁ : Follows s t) (h₂ : Follows t u) : Follows s u := by
  obtain ⟨E₁, ht, h₁⟩ := h₁
  obtain ⟨E₂, hu, h₂⟩ := h₂
  refine ⟨E₁ ++ E₂, by rw [hu, ht, List.append_assoc], ?_⟩
  rcases h₂ with h₂ | ⟨hc, e, he, hen⟩
  · rcases h₁ with h₁ | ⟨hc, e, he, hen⟩
    · exact .inl (h₂.trans h₁)
    · exact .inr ⟨hc, e, List.mem_append_left _ he, h₂ ▸ hen⟩
  · have hs : s.state ≠ .closed := h₁.elim (fun h => h ▸ hc) And.left
    exact .inr ⟨hs, e, List.mem_append_right _ he, hen⟩

/-- A CLOSED subscription stays CLOSED. -/
theorem closed (h : Follows s t) (hc : s.state = .closed) : t.state = .closed := by
  obtain ⟨E, -, h | ⟨hc', -⟩⟩ := h
  exacts [h.trans hc, absurd hc hc']

/-- A state that no event enters is never entered. -/
theorem state_eq_of_not_entered (h : Follows s t) (hn : ∀ e, t.state.enteredBy e = false) :
    t.state = s.state := by
  obtain ⟨E, -, h | ⟨-, e, -, hen⟩⟩ := h
  exacts [h, absurd hen (by simp [hn])]

theorem processKeepAlive (hc : s.state ≠ .closed) (a : Bool) : Follows s (s.processKeepAlive a) := by
  by_cases hk : s.keepAliveCounter+1 < s.maxKeepAliveCount
  · rw [processKeepAlive_of_lt hk]
    exact refl s
  cases a
  · rw [processKeepAlive_of_ge_refused (not_lt.mp hk)]
    exact enter _ rfl hc (List.mem_singleton_self _) rfl
  · rw [processKeepAlive_of_ge_accepted (not_lt.mp hk)]
    exact enter _ rfl hc (List.mem_cons_of_mem _ (List.mem_singleton_self _)) rfl

theorem dispatch (hp : s.pendingNotifications ≠ []) : Follows s s.dispatch := by
  obtain ⟨e, rest, he⟩ := List.exists_cons_of_ne_nil hp
  rw [dispatch_of_cons he]
  by_cases hc : s.state = .closed
  · exact of_state_eq _ (List.append_assoc _ _ _) (if_pos hc |>.trans hc.symm)
  · exact enter .notification (List.append_assoc _ _ _) hc (by simp) (by rw [if_neg hc]; rfl)

theorem harvestMonitoredItems (hv : s.harvestMonitoredItems = .ok t) : Follows s t := by
  obtain ⟨bodies, -, rfl⟩ := s.harvestMonitoredItems_eq hv
  exact of_state_eq _ rfl rfl

theorem processSubscription {c : ℕ} {a : Bool} (hc : s.state ≠ .closed)
    (hv : s.processSubscription c a = .ok t) : Follows s t := by
  obtain ⟨-, ⟨-, rfl⟩ | ⟨-, u, hu, ⟨hp, rfl⟩ | ⟨-, rfl⟩⟩⟩ := processSubscription_cases hv
  · exact processKeepAlive hc a
  all_goals
    have hsu : Follows s u ∧ u.state ≠ .closed := by
      obtain ⟨rfl, -⟩ | ⟨-, -, hv⟩ := hu
      exacts [⟨refl _, hc⟩, ⟨harvestMonitoredItems hv, (harvestMonitoredItems_state hv).trans_ne hc⟩]
  · exact hsu.1.trans (dispatch hp)
  · exact hsu.1.trans (processKeepAlive hsu.2 a)

theorem terminate : Follows s s.terminate := by
  by_cases hc : s.state = .closed
  · rw [terminate_of_closed hc]
    exact refl s
  obtain ⟨E, -, heq⟩ := terminate_of_ne_closed hc
  rw [heq]
  exact enter .terminated (List.append_assoc _ _ _) hc (by simp) rfl

theorem expire (hc : s.state ≠ .closed) : Follows s s.expire := by
  obtain ⟨E, -, heq⟩ := expire_of_ne_closed hc
  rw [heq]
  exact enter .terminated ((List.append_assoc _ _ _).trans (List.append_assoc _ _ _)) hc (by simp) rfl

/-- A tick follows the diagram, or, without a publish request and with something to send, makes
an open subscription LATE. -/
theorem tick {c : ℕ} {a : Bool} (hv : s.tick c a = .ok t) :
    Follows s t ∨ c = 0 ∧ s.state ≠ .closed ∧
      (s.pendingNotifications ≠ [] ∨ s.hasMonitoredItemNotifications = true) ∧ t.state = .late ∧
      ∃ E, t.trace = s.trace ++ E := by
  have hb : Follows s s.beginTick := of_state_eq _ (beginTick_trace s) rfl
  obtain ⟨-, rfl⟩ | ⟨hc, -, rfl⟩ | ⟨hc, -, hv⟩ := tick_cases hv
  · exact .inl (refl _)
  · exact .inl (hb.trans (expire hc))
  have hc₁ : s.beginTick.state ≠ .closed := hc
  obtain ⟨hc₀, hp, rfl⟩ | ⟨hc₀, -, hm, rfl⟩ | ⟨-, -, rfl⟩ | ⟨-, -, hv⟩ | ⟨-, -, -, hv⟩ := hv
  · exact .inr ⟨hc₀, hc, .inl hp, rfl, _, rfl⟩
  · exact .inr ⟨hc₀, hc, .inr hm, rfl, _, rfl⟩
  · exact .inl (hb.trans (@processKeepAlive s.beginTick hc₁ a))
  · exact .inl (hb.trans (@processSubscription s.beginTick t c a hc₁ hv))
  · exact .inl (hb.trans ((of_state_eq [] (List.append_nil _).symm rfl).trans
      (@processSubscription { s.beginTick with hasMonitoredItemNotificationsCache := true } t c a hc₁ hv)))

theorem diagramStep (h : Follows s t) (op : Op) : DiagramStep s op t := by
  obtain ⟨E, ht, h | ⟨hc, he⟩⟩ := h
  exacts [⟨E, ht, .inl h⟩, ⟨E, ht, .inr ⟨hc, .inl he⟩⟩]

end Follows

namespace DiagramStep

variable {s t : Subscription} {op : Op}

/-- A CLOSED subscription stays CLOSED. -/
theorem closed (h : DiagramStep s op t) (hc : s.state = .closed) : t.state = .closed := by
  obtain ⟨E, -, h | ⟨hc', -⟩⟩ := h
  exacts [h.trans hc, absurd hc hc']

/-- No move enters CREATING or TERMINATED. -/
theorem state_eq_of_not_entered (h : DiagramStep s op t) (hq : t.state = .creating ∨ t.state = .terminated) :
    t.state = s.state := by
  obtain ⟨E, -, h | ⟨-, hen⟩⟩ := h
  · exact h
  · rcases hq with hq | hq <;> simp [Op.Enters, hq] at hen

end DiagramStep

/-- Every operation the engine keeps its promise on is a move of the diagram. -/
theorem step_diagram {ctx : Context} {s t : Subscription} {op : Op} (hop : op.Promised s)
    (hv : step ctx s op = .ok t) : DiagramStep s op t := by
  have h₀ : Follows s (s.emit (.invoked op.call)) := .of_state_eq _ rfl rfl
  cases op with
  | tick c a =>
      rcases Follows.tick hv with hf | ⟨rfl, hc, hp, hl, E, ht⟩
      · exact (h₀.trans hf).diagramStep _
      · exact ⟨_, ht.trans (List.append_assoc _ _ _), .inr ⟨hc, .inr (.inr ⟨hl, ⟨a, rfl⟩, hp⟩)⟩⟩
  | processSubscription c a => exact (h₀.trans (.processSubscription (by simp [hop.1]) hv)).diagramStep _
  | setPublishingMode b =>
      cases Except.ok.inj hv
      rw [setPublishingMode_eq]
      by_cases hb : (!b ∧ (s.emit (.invoked (Op.setPublishingMode b).call)).state ≠ .closed)
      · rw [if_pos hb]
        exact ⟨_, rfl, .inr ⟨hb.2, .inr (.inl ⟨rfl, by simpa using hb.1⟩)⟩⟩
      · rw [if_neg hb]
        exact ⟨_, rfl, .inl rfl⟩
  | acknowledgeNotification n =>
      cases Except.ok.inj hv
      obtain ⟨sent, -, count, heq⟩ := (s.emit _).acknowledgeNotification_eq n
      rw [heq]
      exact ⟨_, rfl, .inl rfl⟩
  | terminate =>
      cases Except.ok.inj hv
      exact (h₀.trans .terminate).diagramStep _
  | createMonitoredItem r i =>
      obtain ⟨res, hcr⟩ := step_createMonitoredItem hv
      obtain ⟨E, -, heq⟩ := createMonitoredItem_eq hcr
      rw [heq]
      exact ⟨_, List.append_assoc _ _ _, .inl rfl⟩
  | removeMonitoredItem i =>
      cases Except.ok.inj hv
      obtain ⟨E, -, heq⟩ := (s.emit _).removeMonitoredItem_eq i
      rw [heq]
      exact ⟨_, List.append_assoc _ _ _, .inl rfl⟩
  | notifyTransfer =>
      cases Except.ok.inj hv
      rw [notifyTransfer_eq]
      exact ⟨_, List.append_assoc _ _ _, .inl rfl⟩
  | _ =>
      cases Except.ok.inj hv
      exact ⟨_, rfl, .inl rfl⟩

/-- Every run of operations that the engine keeps its promise on is a run of the design's state
diagram: each operation keeps the state or moves an open subscription by one of the design's moves.
So a CLOSED subscription stays CLOSED, and CREATING and TERMINATED are never entered. -/
theorem state_follows_diagram {ctx : Context} {s s' : Subscription}
    (h : Relation.ReflTransGen (PromisedStep ctx) s s') :
    Relation.ReflTransGen (fun u v => ∃ op, step ctx u op = .ok v ∧ DiagramStep u op v) s s' ∧
      (s.state = .closed → s'.state = .closed) ∧
      (s'.state = .creating ∨ s'.state = .terminated → s'.state = s.state) := by
  have hd : Relation.ReflTransGen (fun u v => ∃ op, step ctx u op = .ok v ∧ DiagramStep u op v) s s' :=
    h.mono fun u v ⟨op, hop, hv⟩ => ⟨op, hv, step_diagram hop hv⟩
  clear h
  refine ⟨hd, fun hc => ?_, ?_⟩
  · induction hd with
    | refl => exact hc
    | tail _ hst ih =>
        obtain ⟨op, -, hst⟩ := hst
        exact hst.closed ih
  · induction hd with
    | refl => exact fun _ => rfl
    | tail _ hst ih =>
        obtain ⟨op, -, hst⟩ := hst
        intro hq
        have heq := hst.state_eq_of_not_entered hq
        exact heq.trans (ih (heq ▸ hq))

/-- The first tick of a fresh subscription with a publish request sends the first keep-alive
and moves from CREATING to KEEPALIVE. -/
theorem state_follows_diagram_first_keepAlive :
    ∃ s', Relation.ReflTransGen (PromisedStep variableContext) (Subscription.create {}) s' ∧
      s'.state = .keepalive ∧
      Relation.ReflTransGen (fun u v => ∃ op, step variableContext u op = .ok v ∧ DiagramStep u op v)
        (Subscription.create {}) s' ∧
      ((Subscription.create {}).state = .closed → s'.state = .closed) ∧
      (s'.state = .creating ∨ s'.state = .terminated → s'.state = (Subscription.create {}).state) := by
  obtain ⟨t, ht, hp⟩ := @exists_ok_of_any _ (step variableContext (Subscription.create {}) (.tick 1 true))
    (fun t => t.state == .keepalive) (by rw [Subscription.create_of_defaults _ rfl rfl rfl]; decide)
  have hr : Relation.ReflTransGen (PromisedStep variableContext) (Subscription.create {}) t :=
    .single ⟨.tick 1 true, trivial, ht⟩
  exact ⟨t, hr, by simpa using hp, state_follows_diagram hr⟩

end OpcuaServer
