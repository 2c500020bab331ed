import OpcuaServer.AcknowledgeableCondition

/-!
# The Acknowledge/Confirm workflow of a branch, over whole runs

A branch receives a sequence of calls: the method handlers `_acknowledge_method` and
`_confirm_method`, and the server helpers `autoConfirmBranch` and
`acknowledgeAndAutoConfirmBranch`. `runCalls` makes them in order, each on the condition and the
branch the previous one left; a call that fails its assertion ends the run, whose partial effects
are not modelled.

`Workflow` says what the calls are for: whether the branch is acknowledged, whether it is confirmed
(and whether it can be), whether it is retained, and how many `acknowledged` and `confirmed` events
and audit events have been raised. `ConditionCall.apply_workflow` shows that each call that returns
moves the branch's workflow exactly as `Workflow.step` does, so that every run of the code is a run
of the workflow (`runCalls_workflow`). From the workflow: a branch is acknowledged at most once over
any run, it is confirmed at most once per Acknowledge call (plus once if it was unconfirmed), and a
retained branch is acknowledged and waits for confirmation. `BranchInv` adds what
`_set_twoStateVariable` keeps: each entry's label matches its value, and the live node shows the
current branch.
-/

namespace OpcuaServer

/-- The calls a branch receives; the methods take the branch `with_condition_method` resolves. -/
inductive ConditionCall where
  | acknowledge (eventId : Option ℕ) (comment : String)
  | confirm (eventId : Option ℕ) (comment : String)
  | autoConfirm (comment : String)
  | acknowledgeAndAutoConfirm (comment : String)
  deriving DecidableEq, Repr

namespace ConditionCall

/-- One call; a method's status goes back to the client and changes nothing here. -/
def apply (c : AcknowledgeableCondition) (b : ConditionSnapshot) :
    ConditionCall → Except Fault (AcknowledgeableCondition × ConditionSnapshot)
  | acknowledge eventId comment => (c.acknowledgeMethod eventId comment b).map (·.2)
  | confirm eventId comment => (c.confirmMethod eventId comment b).map (·.2)
  | autoConfirm comment => c.autoConfirmBranch b comment
  | acknowledgeAndAutoConfirm comment => c.acknowledgeAndAutoConfirmBranch b comment

/-- The calls that go through `_acknowledge_branch`. -/
def acknowledges : ConditionCall → Bool
  | acknowledge .. | acknowledgeAndAutoConfirm _ => true
  | confirm .. | autoConfirm _ => false

end ConditionCall

/-- The calls made in order on one branch. -/
def runCalls (c : AcknowledgeableCondition) (b : ConditionSnapshot) :
    List ConditionCall → Except Fault (AcknowledgeableCondition × ConditionSnapshot)
  | [] => .ok (c, b)
  | call :: calls =>
      match call.apply c b with
      | .error f => .error f
      | .ok (c, b) => runCalls c b calls

namespace ConditionEvent

@[simp] def isAcknowledged : ConditionEvent → Bool
  | acknowledged .. => true
  | valueChanged .. | newBranchState _ | raiseEvent .. | auditConditionComment .. | confirmed .. => false

@[simp] def isConfirmed : ConditionEvent → Bool
  | confirmed .. => true
  | valueChanged .. | newBranchState _ | raiseEvent .. | auditConditionComment .. | acknowledged .. => false

/-- An event raised with the given event type. -/
@[simp] def isRaised (eventType : String) : ConditionEvent → Bool
  | raiseEvent t _ _ => t == eventType
  | valueChanged .. | newBranchState _ | auditConditionComment .. | acknowledged .. | confirmed .. => false

end ConditionEvent

/-! ## The workflow -/

/-- The state of a branch in the Acknowledge/Confirm workflow. `confirmed` is `none` while the
branch holds no ConfirmedState; `hasConfirmedState` says whether the condition has one. -/
structure Workflow where
  hasConfirmedState : Bool
  acked : Bool
  confirmed : Option Bool
  retain : Bool
  acknowledgements : ℕ
  acknowledgeAudits : ℕ
  confirmations : ℕ
  confirmAudits : ℕ
  deriving DecidableEq, Repr

namespace Workflow

/-- `_acknowledge_branch` first makes the branch wait for confirmation: unconfirmed and retained,
or, without ConfirmedState, no longer retained. -/
@[simps] def awaitConfirmation (w : Workflow) : Workflow :=
  { w with confirmed := if w.hasConfirmedState then some false else w.confirmed
           retain := w.hasConfirmedState }

/-- `_setAckedState` and what follows: an unacknowledged branch is acknowledged and audited. -/
@[simps] def setAcked (w : Workflow) : Workflow :=
  { w with acked := true
           acknowledgements := w.acknowledgements + if w.acked then 0 else 1
           acknowledgeAudits := w.acknowledgeAudits + if w.acked then 0 else 1 }

/-- Acknowledging an acknowledged branch changes nothing. -/
theorem setAcked_of_acked {w : Workflow} (h : w.acked = true) : w.setAcked = w := by
  cases w
  simp_all [setAcked]

def acknowledge (w : Workflow) : Workflow := w.awaitConfirmation.setAcked

/-- An unconfirmed branch is confirmed, released, and audited. -/
@[simps] def confirm (w : Workflow) : Workflow :=
  { w with confirmed := some true, retain := false, confirmations := w.confirmations + 1,
           confirmAudits := w.confirmAudits + 1 }

/-- The server confirms only an unconfirmed branch of a condition with ConfirmedState. -/
def autoConfirm (w : Workflow) : Option Workflow :=
  if w.hasConfirmedState ∧ w.confirmed = some false then some w.confirm else none

/-- The Confirm method leaves a confirmed branch as it is. -/
def step (w : Workflow) : ConditionCall → Option Workflow
  | .acknowledge .. => some w.acknowledge
  | .confirm .. =>
      if w.hasConfirmedState then w.confirmed.map fun v => if v then w else w.confirm else none
  | .autoConfirm _ => w.autoConfirm
  | .acknowledgeAndAutoConfirm _ => { w with retain := false }.acknowledge.autoConfirm

def run (w : Workflow) : List ConditionCall → Option Workflow
  | [] => some w
  | call :: calls =>
      match w.step call with
      | none => none
      | some w => w.run calls

/-- A retained branch is acknowledged and waits for confirmation. -/
def RetainedAwaiting (w : Workflow) : Prop := w.retain = true → w.acked = true ∧ w.confirmed = some false

/-- What one step can do: acknowledge, leave a confirmed branch, confirm, or both. -/
theorem step_cases {w w' : Workflow} {call : ConditionCall} (h : w.step call = some w') :
    (w' = w.acknowledge ∧ call.acknowledges = true) ∨ (w' = w ∧ w.confirmed = some true) ∨
    (w' = w.confirm ∧ w.hasConfirmedState = true ∧ w.confirmed = some false) ∨
    (w' = { w with retain := false }.acknowledge.confirm ∧ w.hasConfirmedState = true ∧
      call.acknowledges = true) := by
  cases call with
  | acknowledge => exact .inl ⟨(Option.some.inj h).symm, rfl⟩
  | confirm =>
      simp only [step] at h
      split_ifs at h with hs
      cases hc : w.confirmed with
      | none => simp [hc] at h
      | some v =>
          cases v <;> simp only [hc, Option.map_some', Option.some.injEq, Bool.false_eq_true, ↓reduceIte] at h
          exacts [.inr (.inr (.inl ⟨h.symm, hs, rfl⟩)), .inr (.inl ⟨h.symm, rfl⟩)]
  | autoConfirm =>
      simp only [step, autoConfirm] at h
      split_ifs at h with hc
      exact .inr (.inr (.inl ⟨(Option.some.inj h).symm, hc⟩))
  | acknowledgeAndAutoConfirm =>
      simp only [step, autoConfirm] at h
      split_ifs at h with hc
      exact .inr (.inr (.inr ⟨(Option.some.inj h).symm, hc.1, rfl⟩))

variable {w w' : Workflow} {call : ConditionCall} {calls : List ConditionCall}

/-- An acknowledgement turns the one unacknowledged branch into an acknowledged one, with one
`acknowledged` event and one audit event. -/
theorem step_acknowledgements (h : w.step call = some w') :
    w'.acknowledgements + (if w'.acked then 0 else 1) = w.acknowledgements + (if w.acked then 0 else 1) ∧
    w'.acknowledgeAudits + w.acknowledgements = w.acknowledgeAudits + w'.acknowledgements ∧
    (w.acked = true → w'.acked = true) := by
  rcases step_cases h with ⟨rfl, -⟩ | ⟨rfl, -⟩ | ⟨rfl, -⟩ | ⟨rfl, -⟩
  · cases ha : w.acked <;> simp [acknowledge, ha]
    omega
  · simp
  · simp
  · cases ha : w.acked <;> simp [acknowledge, ha]
    omega

/-- A confirmation needs an unconfirmed branch, and only an acknowledging call unconfirms one. -/
theorem step_confirmations (h : w.step call = some w') :
    w'.confirmations + (if w'.confirmed = some true then 0 else 1) ≤
      w.confirmations + (if w.confirmed = some true then 0 else 1) + (if call.acknowledges then 1 else 0) ∧
    w'.confirmAudits + w.confirmations = w.confirmAudits + w'.confirmations := by
  rcases step_cases h with ⟨rfl, ha⟩ | ⟨rfl, -⟩ | ⟨rfl, -, hc⟩ | ⟨rfl, -, ha⟩
  · simp only [acknowledge, setAcked_confirmations, awaitConfirmation_confirmations, setAcked_confirmed,
      awaitConfirmation_confirmed, setAcked_confirmAudits, awaitConfirmation_confirmAudits, ha, ↓reduceIte, and_true]
    split_ifs <;> omega
  · simp
  · simp [hc]
    omega
  · simp [acknowledge, ha]
    omega

theorem step_retainedAwaiting (h : w.step call = some w') (hr : w.RetainedAwaiting) :
    w'.RetainedAwaiting := by
  rcases step_cases h with ⟨rfl, -⟩ | ⟨rfl, -⟩ | ⟨rfl, -⟩ | ⟨rfl, -⟩
  · intro h'
    simp only [acknowledge, setAcked_retain, awaitConfirmation_retain] at h'
    simp [acknowledge, h']
  · exact hr
  all_goals simp [RetainedAwaiting, acknowledge]

theorem run_acknowledgements (h : w.run calls = some w') :
    w'.acknowledgements + (if w'.acked then 0 else 1) = w.acknowledgements + (if w.acked then 0 else 1) ∧
    w'.acknowledgeAudits + w.acknowledgements = w.acknowledgeAudits + w'.acknowledgements ∧
    (w.acked = true → w'.acked = true) := by
  induction calls generalizing w with
  | nil => cases Option.some.inj h; exact ⟨rfl, rfl, id⟩
  | cons call calls ih =>
      cases hs : w.step call with
      | none => simp [run, hs] at h
      | some w₁ =>
          simp only [run, hs] at h
          obtain ⟨a₁, b₁, c₁⟩ := step_acknowledgements hs
          obtain ⟨a₂, b₂, c₂⟩ := ih h
          exact ⟨a₂.trans a₁, by omega, c₂ ∘ c₁⟩

theorem run_confirmations (h : w.run calls = some w') :
    w'.confirmations + (if w'.confirmed = some true then 0 else 1) ≤
      w.confirmations + (if w.confirmed = some true then 0 else 1) + calls.countP (·.acknowledges) ∧
    w'.confirmAudits + w.confirmations = w.confirmAudits + w'.confirmations := by
  induction calls generalizing w with
  | nil => cases Option.some.inj h; exact ⟨by simp, rfl⟩
  | cons call calls ih =>
      cases hs : w.step call with
      | none => simp [run, hs] at h
      | some w₁ =>
          simp only [run, hs] at h
          obtain ⟨a₁, b₁⟩ := step_confirmations hs
          obtain ⟨a₂, b₂⟩ := ih h
          rw [List.countP_cons]
          exact ⟨by omega, by omega⟩

theorem run_retainedAwaiting (h : w.run calls = some w') (hr : w.RetainedAwaiting) :
    w'.RetainedAwaiting := by
  induction calls generalizing w with
  | nil => cases Option.some.inj h; exact hr
  | cons call calls ih =>
      cases hs : w.step call with
      | none => simp [run, hs] at h
      | some w₁ =>
          simp only [run, hs] at h
          exact ih h (step_retainedAwaiting hs hr)

end Workflow

/-- The workflow state of the branch `b` of the condition `c`. -/
def AcknowledgeableCondition.workflow (c : AcknowledgeableCondition) (b : ConditionSnapshot) :
    Workflow :=
  ⟨c.confirmedState.isSome, b.ackedState.id, b.confirmedState.map (·.id), b.retain,
   c.events.countP (·.isAcknowledged),
   c.events.countP (·.isRaised "AuditConditionAcknowledgeEventType"),
   c.events.countP (·.isConfirmed),
   c.events.countP (·.isRaised "AuditConditionConfirmEventType")⟩

theorem except_bind_eq_ok {α β : Type} {x : Except Fault α} {f : α → Except Fault β} {r : β} :
    x >>= f = .ok r ↔ ∃ a, x = .ok a ∧ f a = .ok r := by
  cases x <;> simp [bind, Except.bind]

theorem except_map_eq_ok {α β : Type} {x : Except Fault α} {f : α → β} {r : β} :
    x.map f = .ok r ↔ ∃ a, x = .ok a ∧ f a = r := by
  cases x <;> simp [Except.map]

namespace AcknowledgeableCondition

variable {c c' : AcknowledgeableCondition} {b b' : ConditionSnapshot}

/-! ### What each function does when it returns -/

theorem setTwoStateVariable_ok {v : TwoStateName} {x : Bool}
    (h : c.setTwoStateVariable b v x = .ok (c', b')) :
    ∃ node, c.twoStateNode v = some node ∧
      b' = b.set v ⟨x, if x then node.trueState else node.falseState⟩ ∧
      c' = (if b.isCurrentBranch then c.setTwoStateNodeValue v x else c).emit (.valueChanged b.branchId v x) := by
  cases hn : c.twoStateNode v with
  | none => simp [setTwoStateVariable, hn] at h
  | some node =>
      simp only [setTwoStateVariable, hn, Except.ok.injEq, Prod.mk.injEq] at h
      obtain ⟨rfl, rfl⟩ := h
      exact ⟨node, rfl, rfl, by cases v <;> rfl⟩

/-- `_setAckedState` refuses an acked branch and otherwise writes AckedState. -/
theorem setAckedState_ok {x : Bool} {st : StatusCode} (h : c.setAckedState b x = .ok (st, c', b')) :
    (b.ackedState.id && x) = true ∧ st = .badConditionBranchAlreadyAcked ∧ c' = c ∧ b' = b ∨
    (b.ackedState.id && x) = false ∧ st = .good ∧ c.setTwoStateVariable b .ackedState x = .ok (c', b') := by
  have hg : b.getAckedState = .ok b.ackedState.id := rfl
  cases hx : (b.ackedState.id && x)
  · cases hs : c.setTwoStateVariable b .ackedState x with
    | error f => simp [setAckedState, hg, hx, hs, bind, Except.bind, pure, Except.pure] at h
    | ok r =>
        simp only [setAckedState, hg, hx, hs, bind, Except.bind, pure, Except.pure, Bool.false_eq_true,
          ↓reduceIte, Except.ok.injEq, Prod.mk.injEq] at h
        obtain ⟨rfl, rfl, rfl⟩ := h
        exact .inr ⟨rfl, rfl, rfl⟩
  · simp only [setAckedState, hg, hx, bind, Except.bind, pure, Except.pure, ↓reduceIte, Except.ok.injEq,
      Prod.mk.injEq] at h
    obtain ⟨rfl, rfl, rfl⟩ := h
    exact .inl ⟨rfl, rfl, rfl, rfl⟩

/-- `_acknowledge_branch`: the branch is prepared (ConfirmedState written and retained, or released
without ConfirmedState), `_setAckedState` runs on it, and only a Good answer goes on to the comment,
the new branch state, the audit event and `acknowledged`. -/
theorem acknowledgeBranch_ok {eventId : Option ℕ} {comment message : String} {st : Option StatusCode}
    (h : c.acknowledgeBranch eventId comment b message = .ok (st, c', b')) :
    ∃ c₁ b₁ st₂ c₂ b₂,
      (c.confirmedState = none ∧ c₁ = c ∧ b₁ = b.setRetain false ∨
        ∃ b₀, c.setTwoStateVariable b .confirmedState false = .ok (c₁, b₀) ∧ b₁ = b₀.setRetain true) ∧
      c₁.setAckedState b₁ true = .ok (st₂, c₂, b₂) ∧
      (st₂ ≠ .good ∧ c' = c₂ ∧ b' = b₂ ∨
        st₂ = .good ∧ b' = b₂.setComment comment ∧
          c' = ((c₂.raiseNewBranchState b').raiseAuditConditionAcknowledgeEvent b').emit
            (.acknowledged eventId comment b')) := by
  have tail : ∀ {st₂ : StatusCode} {c₂ : AcknowledgeableCondition} {b₂ : ConditionSnapshot},
      (if st₂ ≠ .good then pure (some st₂, c₂, b₂) else
        pure (none, ((c₂.raiseNewBranchState (b₂.setComment comment)).raiseAuditConditionAcknowledgeEvent
          (b₂.setComment comment)).emit (.acknowledged eventId comment (b₂.setComment comment)),
          b₂.setComment comment) : Except Fault _) = .ok (st, c', b') →
      st₂ ≠ .good ∧ c' = c₂ ∧ b' = b₂ ∨ st₂ = .good ∧ b' = b₂.setComment comment ∧
        c' = ((c₂.raiseNewBranchState b').raiseAuditConditionAcknowledgeEvent b').emit
          (.acknowledged eventId comment b') := by
    intro st₂ c₂ b₂ h
    by_cases hst : st₂ = .good
    · simp only [hst, ne_eq, not_true_eq_false, ↓reduceIte, pure, Except.pure, Except.ok.injEq,
        Prod.mk.injEq] at h
      obtain ⟨-, rfl, rfl⟩ := h
      exact .inr ⟨hst, rfl, rfl⟩
    · simp only [hst, ne_eq, not_false_eq_true, ↓reduceIte, pure, Except.pure, Except.ok.injEq,
        Prod.mk.injEq] at h
      obtain ⟨-, rfl, rfl⟩ := h
      exact .inl ⟨hst, rfl, rfl⟩
  cases hc : c.confirmedState with
  | none =>
      simp only [acknowledgeBranch, hc, Option.isSome_none, Bool.false_eq_true, ↓reduceIte, pure_bind,
        except_bind_eq_ok] at h
      obtain ⟨⟨st₂, c₂, b₂⟩, h₁, h₂⟩ := h
      exact ⟨c, _, st₂, c₂, b₂, .inl ⟨rfl, rfl, rfl⟩, h₁, tail h₂⟩
  | some node =>
      simp only [acknowledgeBranch, hc, Option.isSome_some, ↓reduceIte, setConfirmedState, Option.isNone_some,
        Bool.false_eq_true, except_bind_eq_ok] at h
      obtain ⟨⟨c₁, b₁⟩, h₁, ⟨st₂, c₂, b₂⟩, h₂, h₃⟩ := h
      cases hs : c.setTwoStateVariable b .confirmedState false with
      | error f => simp [hs, Except.map] at h₁
      | ok r =>
          simp only [hs, Except.map, Except.ok.injEq, Prod.mk.injEq] at h₁
          obtain ⟨rfl, rfl⟩ := h₁
          exact ⟨_, _, st₂, c₂, b₂, .inr ⟨r.2, rfl, rfl⟩, h₂, tail h₃⟩

/-- `_confirm_branch`: ConfirmedState written true, the branch released and commented, then the
comment and confirm audit events, the new branch state and `confirmed`. -/
theorem confirmBranch_ok {comment message : String} (h : c.confirmBranch comment b message = .ok (c', b')) :
    ∃ c₁ b₁, c.setTwoStateVariable b .confirmedState true = .ok (c₁, b₁) ∧
      b' = (b₁.setRetain false).setComment comment ∧
      c' = (((c₁.raiseAuditConditionCommentEvent message b.eventId comment).raiseAuditConditionConfirmEvent
        b').raiseNewBranchState b').emit (.confirmed b.eventId comment b') := by
  cases hc : c.confirmedState with
  | none => simp [confirmBranch, setConfirmedState, hc, bind, Except.bind] at h
  | some node =>
      simp only [confirmBranch, setConfirmedState, hc, Option.isNone_some, Bool.false_eq_true, ↓reduceIte,
        except_bind_eq_ok] at h
      obtain ⟨⟨c₁, b₁⟩, h₁, h₂⟩ := h
      simp only [pure, Except.pure, Except.ok.injEq, Prod.mk.injEq] at h₂
      obtain ⟨rfl, rfl⟩ := h₂
      exact ⟨c₁, b₁, h₁, rfl, rfl⟩

/-- `_acknowledge_method` answers Good with whatever `_acknowledge_branch` did. -/
theorem acknowledgeMethod_ok {eventId : Option ℕ} {comment : String} {st : StatusCode}
    (h : c.acknowledgeMethod eventId comment b = .ok (st, c', b')) :
    st = .good ∧ ∃ st₁, c.acknowledgeBranch eventId comment b "Method/Acknowledged" = .ok (st₁, c', b') := by
  simp only [acknowledgeMethod, except_bind_eq_ok] at h
  obtain ⟨⟨st₁, c₁, b₁⟩, h₁, h₂⟩ := h
  simp only [pure, Except.pure, Except.ok.injEq, Prod.mk.injEq] at h₂
  obtain ⟨rfl, rfl, rfl⟩ := h₂
  exact ⟨rfl, st₁, h₁⟩

/-- `_confirm_method` on the branch of its event id: refused on a confirmed branch, with nothing
changed, and otherwise `_confirm_branch`. -/
theorem confirmMethod_ok {eventId : Option ℕ} {comment : String} {st : StatusCode}
    (h : c.confirmMethod eventId comment b = .ok (st, c', b')) :
    eventId = some b.eventId ∧
      (c.getConfirmedState b = .ok true ∧ st = .badConditionBranchAlreadyConfirmed ∧ c' = c ∧ b' = b ∨
        c.getConfirmedState b = .ok false ∧ st = .good ∧
          c.confirmBranch comment b "Method/Confirm" = .ok (c', b')) := by
  obtain _ | e := eventId
  · simp [confirmMethod] at h
  by_cases he : b.eventId = e
  swap
  · simp [confirmMethod, he] at h
  subst he
  simp only [confirmMethod, ne_eq, not_true_eq_false, ↓reduceIte, except_bind_eq_ok] at h
  obtain ⟨v, hg, h⟩ := h
  refine ⟨rfl, ?_⟩
  cases v with
  | true =>
      simp only [↓reduceIte, pure, Except.pure, Except.ok.injEq, Prod.mk.injEq] at h
      obtain ⟨rfl, rfl, rfl⟩ := h
      exact .inl ⟨hg, rfl, rfl, rfl⟩
  | false =>
      -- the refusal is skipped through `pure ()`
      simp only [Bool.false_eq_true, ↓reduceIte, except_bind_eq_ok, pure, Except.pure, Except.ok.injEq,
        Prod.mk.injEq] at h
      obtain ⟨_, -, ⟨c₁, b₁⟩, h₁, rfl, rfl, rfl⟩ := h
      exact .inr ⟨hg, rfl, h₁⟩

theorem autoConfirmBranch_ok {comment : String} (h : c.autoConfirmBranch b comment = .ok (c', b')) :
    c.getConfirmedState b = .ok false ∧ c.confirmBranch comment b "Server/Confirm" = .ok (c', b') := by
  simp only [autoConfirmBranch, except_bind_eq_ok] at h
  obtain ⟨v, hg, h⟩ := h
  cases v
  · exact ⟨hg, h⟩
  · simp at h

theorem acknowledgeAndAutoConfirmBranch_ok {comment : String}
    (h : c.acknowledgeAndAutoConfirmBranch b comment = .ok (c', b')) :
    ∃ st c₁ b₁, c.acknowledgeBranch (some b.eventId) comment (b.setRetain false) "Server/Acknowledge" =
      .ok (st, c₁, b₁) ∧ c₁.autoConfirmBranch b₁ comment = .ok (c', b') := by
  simp only [acknowledgeAndAutoConfirmBranch, except_bind_eq_ok] at h
  obtain ⟨⟨st, c₁, b₁⟩, h₁, h₂⟩ := h
  exact ⟨st, c₁, b₁, h₁, h₂⟩

/-! ### The workflow of each function -/

@[simp] theorem workflow_setTwoStateNodeValue (v : TwoStateName) (x : Bool) :
    (c.setTwoStateNodeValue v x).workflow = c.workflow := by
  funext b
  cases v <;> simp [workflow, setTwoStateNodeValue]

theorem workflow_hasConfirmedState : (c.workflow b).hasConfirmedState = c.confirmedState.isSome :=
  rfl

@[simp] theorem workflow_setRetain (r : Bool) :
    c.workflow (b.setRetain r) = { c.workflow b with retain := r } := rfl

@[simp] theorem workflow_setComment (comment : String) : c.workflow (b.setComment comment) = c.workflow b :=
  rfl

@[simp] theorem workflow_set_ackedState (x : TwoStateValue) :
    c.workflow (b.set .ackedState x) = { c.workflow b with acked := x.id } := rfl

@[simp] theorem workflow_set_confirmedState (x : TwoStateValue) :
    c.workflow (b.set .confirmedState x) = { c.workflow b with confirmed := some x.id } := rfl

/-- The workflow counts the events it names and reads nothing else of the event list. -/
@[simp] theorem workflow_emit (e : ConditionEvent) (b : ConditionSnapshot) :
    (c.emit e).workflow b =
      { c.workflow b with
        acknowledgements := (c.workflow b).acknowledgements + if e.isAcknowledged then 1 else 0
        acknowledgeAudits := (c.workflow b).acknowledgeAudits +
          if e.isRaised "AuditConditionAcknowledgeEventType" then 1 else 0
        confirmations := (c.workflow b).confirmations + if e.isConfirmed then 1 else 0
        confirmAudits := (c.workflow b).confirmAudits +
          if e.isRaised "AuditConditionConfirmEventType" then 1 else 0 } := by
  simp only [workflow, emit, List.countP_append, List.countP_singleton]

/-- A `value_changed` changes no count, and the live node keeps whether it has ConfirmedState. -/
theorem setTwoStateVariable_workflow {v : TwoStateName} {x : Bool}
    (h : c.setTwoStateVariable b v x = .ok (c', b')) : c'.workflow = c.workflow := by
  obtain ⟨node, -, -, rfl⟩ := setTwoStateVariable_ok h
  funext b
  simp [apply_ite AcknowledgeableCondition.workflow]

theorem acknowledgeBranch_workflow {eventId : Option ℕ} {comment message : String}
    {st : Option StatusCode} (h : c.acknowledgeBranch eventId comment b message = .ok (st, c', b')) :
    c'.workflow b' = (c.workflow b).acknowledge := by
  obtain ⟨c₁, b₁, st₂, c₂, b₂, hprep, hack, htail⟩ := acknowledgeBranch_ok h
  have h₁ : c₁.workflow b₁ = (c.workflow b).awaitConfirmation := by
    rcases hprep with ⟨hc, rfl, rfl⟩ | ⟨b₀, hs, rfl⟩
    · simp [Workflow.awaitConfirmation, workflow_hasConfirmedState, hc]
    · obtain ⟨node, hn, rfl, -⟩ := setTwoStateVariable_ok hs
      have hc : c.confirmedState = some node := hn
      simp [setTwoStateVariable_workflow hs, Workflow.awaitConfirmation, workflow_hasConfirmedState, hc]
  rw [Workflow.acknowledge, ← h₁]
  rcases setAckedState_ok hack with ⟨ha, hst, rfl, rfl⟩ | ⟨ha, rfl, hs⟩
  · rcases htail with ⟨-, rfl, rfl⟩ | ⟨hg, -⟩
    · simp only [Bool.and_true] at ha
      exact (Workflow.setAcked_of_acked ha).symm
    · exact absurd (hst.symm.trans hg) (by decide)
  · rcases htail with ⟨hg, -⟩ | ⟨-, rfl, rfl⟩
    · exact absurd rfl hg
    · obtain ⟨node, -, rfl, -⟩ := setTwoStateVariable_ok hs
      have ha : (c₁.workflow b₁).acked = false := by simpa using ha
      simp [raiseNewBranchState, raiseAuditConditionAcknowledgeEvent, raiseAuditEvent,
        setTwoStateVariable_workflow hs, Workflow.setAcked, ha]

theorem confirmBranch_workflow {comment message : String}
    (h : c.confirmBranch comment b message = .ok (c', b')) :
    (c.workflow b).hasConfirmedState = true ∧ c'.workflow b' = (c.workflow b).confirm := by
  obtain ⟨c₁, b₁, hs, rfl, rfl⟩ := confirmBranch_ok h
  obtain ⟨node, hn, rfl, -⟩ := setTwoStateVariable_ok hs
  have hc : c.confirmedState = some node := hn
  refine ⟨by simp [workflow_hasConfirmedState, hc], ?_⟩
  simp [raiseNewBranchState, raiseAuditConditionCommentEvent, raiseAuditConditionConfirmEvent, raiseAuditEvent,
    setTwoStateVariable_workflow hs, Workflow.confirm]

/-- `getConfirmedState` answers exactly when the condition has ConfirmedState and the branch holds
one. -/
theorem getConfirmedState_eq_ok {v : Bool} :
    c.getConfirmedState b = .ok v ↔
      (c.workflow b).hasConfirmedState = true ∧ (c.workflow b).confirmed = some v := by
  cases hc : c.confirmedState <;> cases hb : b.confirmedState <;>
    simp [getConfirmedState, ConditionSnapshot.getTwoStateVariable, ConditionSnapshot.get, workflow, hc, hb]

theorem autoConfirmBranch_workflow {comment : String}
    (h : c.autoConfirmBranch b comment = .ok (c', b')) :
    (c.workflow b).autoConfirm = some (c'.workflow b') := by
  obtain ⟨hg, hcb⟩ := autoConfirmBranch_ok h
  obtain ⟨hs, hv⟩ := getConfirmedState_eq_ok.mp hg
  simp [Workflow.autoConfirm, hs, hv, (confirmBranch_workflow hcb).2]

end AcknowledgeableCondition

open AcknowledgeableCondition in
/-- Each call that returns moves the branch's workflow as `Workflow.step` does. -/
theorem ConditionCall.apply_workflow {c c' : AcknowledgeableCondition} {b b' : ConditionSnapshot}
    {call : ConditionCall} (h : call.apply c b = .ok (c', b')) :
    (c.workflow b).step call = some (c'.workflow b') := by
  cases call with
  | acknowledge eventId comment =>
      obtain ⟨⟨st, c₁, b₁⟩, hm, ⟨⟩⟩ := except_map_eq_ok.mp h
      obtain ⟨-, st₁, hab⟩ := acknowledgeMethod_ok hm
      rw [Workflow.step, acknowledgeBranch_workflow hab]
  | confirm eventId comment =>
      obtain ⟨⟨st, c₁, b₁⟩, hm, ⟨⟩⟩ := except_map_eq_ok.mp h
      obtain ⟨-, ⟨hg, -, rfl, rfl⟩ | ⟨hg, -, hcb⟩⟩ := confirmMethod_ok hm
      · obtain ⟨hs, hv⟩ := getConfirmedState_eq_ok.mp hg
        simp [Workflow.step, hs, hv]
      · obtain ⟨hs, hv⟩ := getConfirmedState_eq_ok.mp hg
        simp [Workflow.step, hs, hv, (confirmBranch_workflow hcb).2]
  | autoConfirm comment => exact autoConfirmBranch_workflow h
  | acknowledgeAndAutoConfirm comment =>
      obtain ⟨st, c₁, b₁, hab, hac⟩ := acknowledgeAndAutoConfirmBranch_ok h
      have hr : c.workflow (b.setRetain false) = { c.workflow b with retain := false } := rfl
      rw [Workflow.step, ← hr, ← acknowledgeBranch_workflow hab]
      exact autoConfirmBranch_workflow hac

/-- Every run of the code is a run of the workflow. -/
theorem runCalls_workflow {c c' : AcknowledgeableCondition} {b b' : ConditionSnapshot}
    {calls : List ConditionCall} (h : runCalls c b calls = .ok (c', b')) :
    (c.workflow b).run calls = some (c'.workflow b') := by
  induction calls generalizing c b with
  | nil =>
      simp only [runCalls, Except.ok.injEq, Prod.mk.injEq] at h
      obtain ⟨rfl, rfl⟩ := h
      rfl
  | cons call calls ih =>
      cases ha : call.apply c b with
      | error f => simp [runCalls, ha] at h
      | ok r =>
          obtain ⟨c₁, b₁⟩ := r
          simp only [runCalls, ha] at h
          rw [Workflow.run, ConditionCall.apply_workflow ha]
          exact ih h

/-- A property of the condition and the branch that `_acknowledge_branch`, `_confirm_branch` and
`setRetain` keep is kept by every call. -/
theorem ConditionCall.apply_preserves (P : AcknowledgeableCondition → ConditionSnapshot → Prop)
    (hack : ∀ {c c' b b' eventId comment message st},
      c.acknowledgeBranch eventId comment b message = .ok (st, c', b') → P c b → P c' b')
    (hconf : ∀ {c c' b b' comment message}, c.confirmBranch comment b message = .ok (c', b') → P c b → P c' b')
    (hret : ∀ {c b r}, P c b → P c (b.setRetain r)) {c c' : AcknowledgeableCondition}
    {b b' : ConditionSnapshot} {call : ConditionCall} (h : call.apply c b = .ok (c', b')) (hp : P c b) :
    P c' b' := by
  open AcknowledgeableCondition in
  cases call with
  | acknowledge eventId comment =>
      obtain ⟨⟨st, c₁, b₁⟩, hm, ⟨⟩⟩ := except_map_eq_ok.mp h
      exact hack (acknowledgeMethod_ok hm).2.choose_spec hp
  | confirm eventId comment =>
      obtain ⟨⟨st, c₁, b₁⟩, hm, ⟨⟩⟩ := except_map_eq_ok.mp h
      obtain ⟨-, ⟨-, -, rfl, rfl⟩ | ⟨-, -, hcb⟩⟩ := confirmMethod_ok hm
      exacts [hp, hconf hcb hp]
  | autoConfirm comment => exact hconf (autoConfirmBranch_ok h).2 hp
  | acknowledgeAndAutoConfirm comment =>
      obtain ⟨st, c₁, b₁, hab, hac⟩ := acknowledgeAndAutoConfirmBranch_ok h
      exact hconf (autoConfirmBranch_ok hac).2 (hack hab (hret hp))

theorem runCalls_preserves (P : AcknowledgeableCondition → ConditionSnapshot → Prop)
    (hack : ∀ {c c' b b' eventId comment message st},
      c.acknowledgeBranch eventId comment b message = .ok (st, c', b') → P c b → P c' b')
    (hconf : ∀ {c c' b b' comment message}, c.confirmBranch comment b message = .ok (c', b') → P c b → P c' b')
    (hret : ∀ {c b r}, P c b → P c (b.setRetain r)) {c c' : AcknowledgeableCondition}
    {b b' : ConditionSnapshot} {calls : List ConditionCall} (h : runCalls c b calls = .ok (c', b'))
    (hp : P c b) : P c' b' := by
  induction calls generalizing c b with
  | nil =>
      simp only [runCalls, Except.ok.injEq, Prod.mk.injEq] at h
      obtain ⟨rfl, rfl⟩ := h
      exact hp
  | cons call calls ih =>
      cases ha : call.apply c b with
      | error f => simp [runCalls, ha] at h
      | ok r =>
          simp only [runCalls, ha] at h
          exact ih h (ConditionCall.apply_preserves P hack hconf hret ha hp)

/-! ## What every run of calls on a branch does -/

section Runs

variable {c c' : AcknowledgeableCondition} {b b' : ConditionSnapshot} {calls : List ConditionCall}

/-- Over any run of Acknowledge and Confirm calls on a branch, the branch is acknowledged at most
once, and not at all if it was acknowledged at the start: `acknowledged` is raised at most once, each
time with one `AuditConditionAcknowledgeEventType`, and the branch ends acknowledged exactly when it
started so or the run raised `acknowledged`. -/
theorem acknowledged_at_most_once (h : runCalls c b calls = .ok (c', b')) :
    c'.events.countP (·.isAcknowledged) ≤
      c.events.countP (·.isAcknowledged) + (if b.ackedState.id then 0 else 1) ∧
    (b'.ackedState.id = true ↔
      b.ackedState.id = true ∨ c.events.countP (·.isAcknowledged) < c'.events.countP (·.isAcknowledged)) ∧
    c'.events.countP (·.isRaised "AuditConditionAcknowledgeEventType") + c.events.countP (·.isAcknowledged) =
      c.events.countP (·.isRaised "AuditConditionAcknowledgeEventType") +
        c'.events.countP (·.isAcknowledged) := by
  obtain ⟨h₁, h₂, h₃⟩ := Workflow.run_acknowledgements (runCalls_workflow h)
  simp only [AcknowledgeableCondition.workflow] at h₁ h₂ h₃
  refine ⟨?_, ?_, h₂⟩
  · split_ifs at h₁ ⊢ <;> omega
  · cases ha : b.ackedState.id <;> cases ha' : b'.ackedState.id <;> simp [ha, ha'] at h₁ h₃ ⊢ <;> omega

/-- The spec's S5 on a condition without ConfirmedState: the second Acknowledge raises nothing. -/
theorem acknowledged_at_most_once_of_two_acknowledges :
    ∃ c' b', runCalls ⟨⟨"Acknowledged", "Unacknowledged", false⟩, none, []⟩
        ⟨none, 7, ⟨false, "Unacknowledged"⟩, none, false, ""⟩
        [.acknowledge (some 7) "first", .acknowledge (some 7) "again"] = .ok (c', b') ∧
      c'.events.countP (·.isAcknowledged) ≤ 1 ∧ b'.ackedState.id = true ∧
      c'.events.countP (·.isRaised "AuditConditionAcknowledgeEventType") =
        c'.events.countP (·.isAcknowledged) := by
  obtain ⟨c', b', h⟩ : ∃ c' b', runCalls ⟨⟨"Acknowledged", "Unacknowledged", false⟩, none, []⟩
      ⟨none, 7, ⟨false, "Unacknowledged"⟩, none, false, ""⟩
      [.acknowledge (some 7) "first", .acknowledge (some 7) "again"] = .ok (c', b') := ⟨_, _, rfl⟩
  obtain ⟨h₁, -, h₃⟩ := acknowledged_at_most_once h
  have hb : b'.ackedState.id = true := by cases h; rfl
  exact ⟨c', b', h, by simpa using h₁, hb, by simpa using h₃⟩

/-- Over any run, the branch is confirmed at most once per call that goes through
`_acknowledge_branch`, plus once if it was not confirmed at the start: each `confirmed` event comes
with one `AuditConditionConfirmEventType`. -/
theorem confirmed_once_per_acknowledge (h : runCalls c b calls = .ok (c', b')) :
    c'.events.countP (·.isConfirmed) ≤ c.events.countP (·.isConfirmed) + calls.countP (·.acknowledges) +
      (if b.confirmedState.map (·.id) = some true then 0 else 1) ∧
    c'.events.countP (·.isRaised "AuditConditionConfirmEventType") + c.events.countP (·.isConfirmed) =
      c.events.countP (·.isRaised "AuditConditionConfirmEventType") + c'.events.countP (·.isConfirmed) := by
  obtain ⟨h₁, h₂⟩ := Workflow.run_confirmations (runCalls_workflow h)
  simp only [AcknowledgeableCondition.workflow] at h₁ h₂
  exact ⟨by omega, by omega⟩

/-- Acknowledge, Confirm, Acknowledge again (refused, but it unconfirms the branch), Confirm again:
two confirmations, within the bound of two Acknowledge calls plus one. -/
theorem confirmed_once_per_acknowledge_of_reacknowledge :
    ∃ c' b', runCalls ⟨⟨"Acknowledged", "Unacknowledged", false⟩, some ⟨"Confirmed", "Unconfirmed", false⟩, []⟩
        ⟨none, 7, ⟨false, "Unacknowledged"⟩, some ⟨false, "Unconfirmed"⟩, false, ""⟩
        [.acknowledge (some 7) "a", .confirm (some 7) "c", .acknowledge (some 7) "a", .confirm (some 7) "c"] =
        .ok (c', b') ∧
      c'.events.countP (·.isConfirmed) ≤ 3 ∧
      c'.events.countP (·.isRaised "AuditConditionConfirmEventType") = c'.events.countP (·.isConfirmed) := by
  obtain ⟨c', b', h⟩ : ∃ c' b', runCalls
      ⟨⟨"Acknowledged", "Unacknowledged", false⟩, some ⟨"Confirmed", "Unconfirmed", false⟩, []⟩
      ⟨none, 7, ⟨false, "Unacknowledged"⟩, some ⟨false, "Unconfirmed"⟩, false, ""⟩
      [.acknowledge (some 7) "a", .confirm (some 7) "c", .acknowledge (some 7) "a", .confirm (some 7) "c"] =
      .ok (c', b') := ⟨_, _, rfl⟩
  obtain ⟨h₁, h₂⟩ := confirmed_once_per_acknowledge h
  exact ⟨c', b', h, by simpa [ConditionCall.acknowledges] using h₁, by simpa using h₂⟩

/-- A retained branch stays one that is acknowledged and waits for confirmation, over any run. -/
theorem retained_branch_awaits_confirmation (h : runCalls c b calls = .ok (c', b'))
    (hr : b.retain = true → b.ackedState.id = true ∧ b.confirmedState.map (·.id) = some false) :
    b'.retain = true → b'.ackedState.id = true ∧ b'.confirmedState.map (·.id) = some false :=
  Workflow.run_retainedAwaiting (runCalls_workflow h) hr

theorem retained_branch_awaits_confirmation_after_acknowledge :
    ∃ c' b', runCalls ⟨⟨"Acknowledged", "Unacknowledged", false⟩, some ⟨"Confirmed", "Unconfirmed", false⟩, []⟩
        ⟨none, 7, ⟨false, "Unacknowledged"⟩, some ⟨false, "Unconfirmed"⟩, false, ""⟩
        [.acknowledge (some 7) "a"] = .ok (c', b') ∧
      (b'.retain = true → b'.ackedState.id = true ∧ b'.confirmedState.map (·.id) = some false) := by
  obtain ⟨c', b', h⟩ : ∃ c' b', runCalls
      ⟨⟨"Acknowledged", "Unacknowledged", false⟩, some ⟨"Confirmed", "Unconfirmed", false⟩, []⟩
      ⟨none, 7, ⟨false, "Unacknowledged"⟩, some ⟨false, "Unconfirmed"⟩, false, ""⟩
      [.acknowledge (some 7) "a"] = .ok (c', b') := ⟨_, _, rfl⟩
  exact ⟨c', b', h, retained_branch_awaits_confirmation h nofun⟩

end Runs

end OpcuaServer
