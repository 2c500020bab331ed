import OpcuaServer.Basic

/-!
# Acknowledging and confirming a condition branch

A branch is a `ConditionSnapshot`: the values of the condition's variables at one moment, the
current branch (`branchId` null) among them. `_set_twoStateVariable` writes a two-state variable
into the snapshot, as its boolean `V.id` and its label `V`, copies the value to the live
condition node when the branch is current, and emits `value_changed`.

`_acknowledge_branch` first prepares the branch for confirmation (`confirmedState := false`,
`retain := true`, or `retain := false` without ConfirmedState) and only then asks `_setAckedState`,
which refuses an acked branch with `BadConditionBranchAlreadyAcked`. `_confirm_method` checks first:
on a confirmed branch it answers `BadConditionBranchAlreadyConfirmed` and touches nothing. The
server helpers answer no status: `autoConfirmBranch` asserts that the branch is not confirmed yet.

The branch operations of `condition.js` (`setRetain`, `setComment`, `raiseNewBranchState`,
`_raiseAuditConditionCommentEvent`, `with_condition_method`) are not part of the source here and
are modelled from the spec.
-/

namespace OpcuaServer

/-- A `UATwoStateVariable` node of the condition with the labels its machinery installs. -/
structure TwoStateVariable where
  trueState : String
  falseState : String
  value : Bool
  deriving DecidableEq, Repr

/-- The two entries `V.id` and `V` a snapshot keeps for a two-state variable. -/
structure TwoStateValue where
  id : Bool
  text : String
  deriving DecidableEq, Repr

inductive TwoStateName where
  | ackedState | confirmedState
  deriving DecidableEq, Repr

def TwoStateName.name : TwoStateName → String
  | ackedState => "ackedState"
  | confirmedState => "confirmedState"

/-- A branch. `branchId = none` is `NodeId.NullNodeId`, the current branch; `confirmedState` is
present when the condition has the optional ConfirmedState. -/
structure ConditionSnapshot where
  branchId : Option ℕ
  eventId : ℕ
  ackedState : TwoStateValue
  confirmedState : Option TwoStateValue
  retain : Bool
  comment : String
  deriving DecidableEq, Repr

/-- What the condition and its snapshots emit or raise. -/
inductive ConditionEvent where
  | valueChanged (branchId : Option ℕ) (varName : TwoStateName) (value : Bool)
  | newBranchState (branch : ConditionSnapshot)
  | raiseEvent (eventType : String) (eventId : ℕ) (comment : String)
  | auditConditionComment (sourceName : String) (eventId : ℕ) (comment : String)
  | acknowledged (eventId : Option ℕ) (comment : String) (branch : ConditionSnapshot)
  | confirmed (eventId : ℕ) (comment : String) (branch : ConditionSnapshot)
  deriving DecidableEq, Repr

/-- The live condition node: the mandatory AckedState, the optional ConfirmedState, and what it
has emitted, oldest first. -/
structure AcknowledgeableCondition where
  ackedState : TwoStateVariable
  confirmedState : Option TwoStateVariable
  events : List ConditionEvent
  deriving DecidableEq, Repr

namespace ConditionSnapshot

variable (b : ConditionSnapshot)

def isCurrentBranch : Bool := b.branchId.isNone

def get : TwoStateName → Option TwoStateValue
  | .ackedState => some b.ackedState
  | .confirmedState => b.confirmedState

def set : TwoStateName → TwoStateValue → ConditionSnapshot
  | .ackedState, v => { b with ackedState := v }
  | .confirmedState, v => { b with confirmedState := some v }

/-- Modelled from the spec: `branch.retain := retain`. -/
def setRetain (retain : Bool) : ConditionSnapshot := { b with retain }

/-- Modelled from the spec: `branch.comment := comment`. -/
def setComment (comment : String) : ConditionSnapshot := { b with comment }

/-- `_get_twoStateVariable`: throws when the snapshot has no such variable. -/
def getTwoStateVariable (varName : TwoStateName) : Except Fault Bool :=
  match b.get varName with
  | none => .error (.assertion ("Cannot find TwoStateVariable with name " ++ varName.name))
  | some v => .ok v.id

/-- `getAckedState`; AckedState is mandatory, so its `throw` for a missing node cannot happen. -/
def getAckedState : Except Fault Bool := b.getTwoStateVariable .ackedState

end ConditionSnapshot

namespace AcknowledgeableCondition

variable (c : AcknowledgeableCondition)

def emit (e : ConditionEvent) : AcknowledgeableCondition := { c with events := c.events ++ [e] }

def twoStateNode : TwoStateName → Option TwoStateVariable
  | .ackedState => some c.ackedState
  | .confirmedState => c.confirmedState

/-- `twoStateNode.setValue(value)` on the live node. -/
def setTwoStateNodeValue : TwoStateName → Bool → AcknowledgeableCondition
  | .ackedState, v => { c with ackedState := { c.ackedState with value := v } }
  | .confirmedState, v => { c with confirmedState := c.confirmedState.map ({ · with value := v }) }

/-- Modelled from the spec: publishes the branch's state. -/
def raiseNewBranchState (b : ConditionSnapshot) : AcknowledgeableCondition := c.emit (.newBranchState b)

/-- Modelled from the spec: `AuditConditionCommentEventType(message, eventId, comment)`. -/
def raiseAuditConditionCommentEvent (sourceName : String) (eventId : ℕ) (comment : String) :
    AcknowledgeableCondition :=
  c.emit (.auditConditionComment sourceName eventId comment)

/-- An audit event of the given type about the branch, with its event id and comment. -/
def raiseAuditEvent (eventType : String) (b : ConditionSnapshot) : AcknowledgeableCondition :=
  c.emit (.raiseEvent eventType b.eventId b.comment)

def raiseAuditConditionAcknowledgeEvent (b : ConditionSnapshot) : AcknowledgeableCondition :=
  c.raiseAuditEvent "AuditConditionAcknowledgeEventType" b

def raiseAuditConditionConfirmEvent (b : ConditionSnapshot) : AcknowledgeableCondition :=
  c.raiseAuditEvent "AuditConditionConfirmEventType" b

/-- `_set_twoStateVariable`: store the value and its label in the snapshot, copy the value to the
live node on the current branch, and emit `value_changed`. -/
def setTwoStateVariable (b : ConditionSnapshot) (varName : TwoStateName) (value : Bool) :
    Except Fault (AcknowledgeableCondition × ConditionSnapshot) :=
  match c.twoStateNode varName with
  | none => .error (.assertion "twoStateNode")
  | some node =>
      let b := b.set varName ⟨value, if value then node.trueState else node.falseState⟩
      let c := if b.isCurrentBranch then c.setTwoStateNodeValue varName value else c
      .ok (c.emit (.valueChanged b.branchId varName value), b)

/-- `_setAckedState`: refuses to acknowledge an acked branch. -/
def setAckedState (b : ConditionSnapshot) (requestedAckedState : Bool) :
    Except Fault (StatusCode × AcknowledgeableCondition × ConditionSnapshot) := do
  let ackedState ← b.getAckedState
  if ackedState && requestedAckedState then return (.badConditionBranchAlreadyAcked, c, b)
  let (c, b) ← c.setTwoStateVariable b .ackedState requestedAckedState
  return (.good, c, b)

def getConfirmedState (b : ConditionSnapshot) : Except Fault Bool :=
  if c.confirmedState.isNone then .error (.assertion "Must have a confirmed state")
  else b.getTwoStateVariable .confirmedState

def setConfirmedState (b : ConditionSnapshot) (confirmedState : Bool) :
    Except Fault (AcknowledgeableCondition × ConditionSnapshot) :=
  if c.confirmedState.isNone then
    .error (.assertion "Must have a confirmed state.  Add ConfirmedState to the optionals")
  else c.setTwoStateVariable b .confirmedState confirmedState

/-- `_acknowledge_branch`: the answer is `some` status when `_setAckedState` refuses, and `none`
(`undefined`) when the branch is acknowledged. -/
def acknowledgeBranch (eventId : Option ℕ) (comment : String) (b : ConditionSnapshot) (_message : String) :
    Except Fault (Option StatusCode × AcknowledgeableCondition × ConditionSnapshot) := do
  let (c, b) ← if c.confirmedState.isSome then
      (c.setConfirmedState b false).map fun (c, b) => (c, b.setRetain true)
    else pure (c, b.setRetain false)
  let (statusCode, c, b) ← c.setAckedState b true
  if statusCode ≠ .good then return (some statusCode, c, b)
  let b := b.setComment comment
  let c := (c.raiseNewBranchState b).raiseAuditConditionAcknowledgeEvent b
  return (none, c.emit (.acknowledged eventId comment b), b)

/-- `_acknowledge_method`, with the branch `with_condition_method` resolved from the event id
(modelled from the spec). -/
def acknowledgeMethod (eventId : Option ℕ) (comment : String) (b : ConditionSnapshot) :
    Except Fault (StatusCode × AcknowledgeableCondition × ConditionSnapshot) := do
  let (_, c, b) ← c.acknowledgeBranch eventId comment b "Method/Acknowledged"
  return (.good, c, b)

/-- `_confirm_branch`; its `eventId` argument is shadowed by `var eventId = branch.getEventId()`. -/
def confirmBranch (comment : String) (b : ConditionSnapshot) (message : String) :
    Except Fault (AcknowledgeableCondition × ConditionSnapshot) := do
  let eventId := b.eventId
  let (c, b) ← c.setConfirmedState b true
  let b := (b.setRetain false).setComment comment
  let c := ((c.raiseAuditConditionCommentEvent message eventId comment).raiseAuditConditionConfirmEvent b).raiseNewBranchState b
  return (c.emit (.confirmed eventId comment b), b)

/-- `_confirm_method`, with the branch `with_condition_method` resolved from the event id
(modelled from the spec). -/
def confirmMethod (eventId : Option ℕ) (comment : String) (b : ConditionSnapshot) :
    Except Fault (StatusCode × AcknowledgeableCondition × ConditionSnapshot) :=
  match eventId with
  | none => .error (.assertion "eventId instanceof Buffer")
  | some eventId =>
      if b.eventId ≠ eventId then
        .error (.assertion "branch.getEventId().toString(\"hex\") === eventId.toString(\"hex\")")
      else do
        if ← c.getConfirmedState b then return (.badConditionBranchAlreadyConfirmed, c, b)
        let (c, b) ← c.confirmBranch comment b "Method/Confirm"
        return (.good, c, b)

def autoConfirmBranch (b : ConditionSnapshot) (comment : String) :
    Except Fault (AcknowledgeableCondition × ConditionSnapshot) := do
  if ← c.getConfirmedState b then .error (.assertion "already confirmed ?")
  else c.confirmBranch comment b "Server/Confirm"

def acknowledgeAndAutoConfirmBranch (b : ConditionSnapshot) (comment : String) :
    Except Fault (AcknowledgeableCondition × ConditionSnapshot) := do
  let eventId := b.eventId
  let (_, c, b) ← c.acknowledgeBranch (some eventId) comment (b.setRetain false) "Server/Acknowledge"
  c.autoConfirmBranch b comment

/-! ## A branch already in the target state -/

section Refusal

variable {c : AcknowledgeableCondition} {b : ConditionSnapshot}

/-- `_set_twoStateVariable` writes the named variable only: the live node of the other variable is
kept, and the one event it adds is its `value_changed`. -/
theorem setTwoStateVariable_frame {v : TwoStateName} {node : TwoStateVariable}
    (h : c.twoStateNode v = some node) (value : Bool) :
    ∃ c', c.setTwoStateVariable b v value =
        .ok (c', b.set v ⟨value, if value then node.trueState else node.falseState⟩) ∧
      c'.events = c.events ++ [.valueChanged b.branchId v value] ∧
      ∀ w, w ≠ v → c'.twoStateNode w = c.twoStateNode w := by
  simp only [setTwoStateVariable, h]
  refine ⟨_, rfl, ?_, fun w hw => ?_⟩
  · cases v <;> split_ifs <;> rfl
  · cases v <;> cases w <;> first | exact absurd rfl hw | (split_ifs <;> rfl)

theorem confirmMethod_of_confirmed (comment : String) (h : c.getConfirmedState b = .ok true) :
    c.confirmMethod (some b.eventId) comment b = .ok (.badConditionBranchAlreadyConfirmed, c, b) := by
  simp [confirmMethod, h, bind, Except.bind, pure, Except.pure]

theorem autoConfirmBranch_of_confirmed (comment : String) (h : c.getConfirmedState b = .ok true) :
    c.autoConfirmBranch b comment = .error (.assertion "already confirmed ?") := by
  simp [autoConfirmBranch, h, bind, Except.bind]

/-- The server helper has no status to answer with: on a confirmed branch it stops at its
assertion. -/
theorem autoConfirmBranch_already_confirmed_asserts :
    ∃ (c : AcknowledgeableCondition) (b : ConditionSnapshot), c.getConfirmedState b = .ok true ∧
      b.getAckedState = .ok true ∧ c.autoConfirmBranch b "" = .error (.assertion "already confirmed ?") :=
  ⟨⟨⟨"Acknowledged", "Unacknowledged", true⟩, some ⟨"Confirmed", "Unconfirmed", true⟩, []⟩,
    ⟨none, 1, ⟨true, "Acknowledged"⟩, some ⟨true, "Confirmed"⟩, false, ""⟩, rfl, rfl, rfl⟩

/-- `_setAckedState` refuses an acked branch and changes nothing. -/
theorem setAckedState_of_acked (h : b.ackedState.id = true) :
    c.setAckedState b true = .ok (.badConditionBranchAlreadyAcked, c, b) := by
  simp [setAckedState, ConditionSnapshot.getAckedState, ConditionSnapshot.getTwoStateVariable,
    ConditionSnapshot.get, h, bind, Except.bind, pure, Except.pure]

/-- On an acked branch `_acknowledge_branch` answers `BadConditionBranchAlreadyAcked`. Before
that it has only prepared the branch for confirmation: ackedState, comment and the live AckedState
are untouched, and the one event is the `value_changed` of ConfirmedState. -/
theorem acknowledgeBranch_of_acked (eventId : Option ℕ) (comment message : String)
    (h : b.ackedState.id = true) :
    ∃ c' b', c.acknowledgeBranch eventId comment b message = .ok (some .badConditionBranchAlreadyAcked, c', b') ∧
      b'.ackedState = b.ackedState ∧ b'.comment = b.comment ∧ c'.ackedState = c.ackedState ∧
      ∃ E, c'.events = c.events ++ E ∧ ∀ e ∈ E, ∃ v, e = .valueChanged b.branchId .confirmedState v := by
  cases hc : c.confirmedState with
  | none =>
      refine ⟨c, b.setRetain false, ?_, rfl, rfl, rfl, [], by simp, by simp⟩
      simp [acknowledgeBranch, hc, @setAckedState_of_acked c (b.setRetain false) h,
        bind, Except.bind, pure, Except.pure]
  | some node =>
      -- ConfirmedState is written first, on the snapshot and, on the current branch, on the live node
      obtain ⟨c₁, hset, hevents, hframe⟩ := @setTwoStateVariable_frame c b .confirmedState node hc false
      let b₁ := b.set .confirmedState ⟨false, node.falseState⟩
      refine ⟨c₁, b₁.setRetain true, ?_, rfl, rfl, ?_, _, hevents, by simp⟩
      · simp [acknowledgeBranch, setConfirmedState, hc, hset, Except.map,
          @setAckedState_of_acked c₁ (b₁.setRetain true) h, bind, Except.bind, pure, Except.pure]
      · exact Option.some.inj (hframe .ackedState nofun)

end Refusal

/-- A Confirm call on a confirmed branch is refused with `BadConditionBranchAlreadyConfirmed` and
changes nothing; `_acknowledge_branch` on an acked branch answers `BadConditionBranchAlreadyAcked`,
keeps ackedState, comment and the live AckedState, and raises only `value_changed` events of
ConfirmedState; `autoConfirmBranch` on a confirmed branch stops at its assertion. -/
theorem already_in_target_state_refused (c : AcknowledgeableCondition) (b : ConditionSnapshot)
    (eventId : Option ℕ) (comment message : String) :
    (c.getConfirmedState b = .ok true →
      c.confirmMethod (some b.eventId) comment b = .ok (.badConditionBranchAlreadyConfirmed, c, b)) ∧
    (b.ackedState.id = true →
      ∃ c' b', c.acknowledgeBranch eventId comment b message = .ok (some .badConditionBranchAlreadyAcked, c', b') ∧
        b'.ackedState = b.ackedState ∧ b'.comment = b.comment ∧ c'.ackedState = c.ackedState ∧
        ∃ E, c'.events = c.events ++ E ∧ ∀ e ∈ E, ∃ v, e = .valueChanged b.branchId .confirmedState v) ∧
    (c.getConfirmedState b = .ok true →
      c.autoConfirmBranch b comment = .error (.assertion "already confirmed ?")) :=
  ⟨confirmMethod_of_confirmed comment, acknowledgeBranch_of_acked eventId comment message,
    autoConfirmBranch_of_confirmed comment⟩

theorem already_in_target_state_refused_acked_confirmed :
    ∃ (c : AcknowledgeableCondition) (b : ConditionSnapshot),
      c.getConfirmedState b = .ok true ∧ b.ackedState.id = true ∧
      c.confirmMethod (some b.eventId) "" b = .ok (.badConditionBranchAlreadyConfirmed, c, b) ∧
      (∃ c' b', c.acknowledgeBranch none "" b "" = .ok (some .badConditionBranchAlreadyAcked, c', b')) ∧
      c.autoConfirmBranch b "" = .error (.assertion "already confirmed ?") :=
  let c : AcknowledgeableCondition :=
    ⟨⟨"Acknowledged", "Unacknowledged", true⟩, some ⟨"Confirmed", "Unconfirmed", true⟩, []⟩
  let b : ConditionSnapshot := ⟨none, 1, ⟨true, "Acknowledged"⟩, some ⟨true, "Confirmed"⟩, false, ""⟩
  have h := already_in_target_state_refused c b none "" ""
  let ⟨c', b', hack, _⟩ := h.2.1 rfl
  ⟨c, b, rfl, rfl, h.1 rfl, ⟨c', b', hack⟩, h.2.2 rfl⟩

end AcknowledgeableCondition

end OpcuaServer
