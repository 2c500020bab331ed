import OpcuaServer.ConditionWorkflow

/-!
# A branch agrees with its condition node

A snapshot keeps two entries for each two-state variable: its boolean `V.id` and its text `V`.
`_set_twoStateVariable` is the only function that writes either. It writes both at once, taking the
text from the node's `_trueState` or `_falseState`, and on the current branch it copies the boolean
to the live node as well. So three things hold in every snapshot. Each text is the node's label for
its boolean. The snapshot has ConfirmedState exactly when the node has. On the current branch, the
node and the snapshot hold the same booleans. `BranchInv` says this.

`setRetain`, `setComment` and the raised events touch none of these fields. One lemma per primitive
shows the invariant is kept; each branch function is assembled from those lemmas, and
`runCalls_preserves` carries the invariant over every run of calls.
-/

namespace OpcuaServer

/-- The text `_set_twoStateVariable` writes for the boolean of `v`. -/
def TwoStateVariable.Labels (node : TwoStateVariable) (v : TwoStateValue) : Prop :=
  v.text = if v.id then node.trueState else node.falseState

instance TwoStateVariable.decidableLabels (node : TwoStateVariable) (v : TwoStateValue) :
    Decidable (node.Labels v) :=
  inferInstanceAs (Decidable (_ = _))

instance decidableOptionRel {α β : Type} {r : α → β → Prop} [∀ a b, Decidable (r a b)] :
    ∀ o p, Decidable (Option.Rel r o p)
  | some a, some b => decidable_of_iff (r a b) ⟨.some, fun | .some h => h⟩
  | none, none => isTrue .none
  | some _, none | none, some _ => isFalse nofun

/-- The branch `b` agrees with the condition node `c`: each text is the node's label for its
boolean, ConfirmedState is in the snapshot exactly when it is on the node, and the live node holds
the current branch's booleans. -/
structure BranchInv (c : AcknowledgeableCondition) (b : ConditionSnapshot) : Prop where
  ackedLabel : c.ackedState.Labels b.ackedState
  confirmedLabel : Option.Rel TwoStateVariable.Labels c.confirmedState b.confirmedState
  mirror : b.isCurrentBranch = true →
    c.ackedState.value = b.ackedState.id ∧ c.confirmedState.map (·.value) = b.confirmedState.map (·.id)

instance BranchInv.decidable (c : AcknowledgeableCondition) (b : ConditionSnapshot) :
    Decidable (BranchInv c b) :=
  decidable_of_iff (c.ackedState.Labels b.ackedState ∧
      Option.Rel TwoStateVariable.Labels c.confirmedState b.confirmedState ∧
      (b.isCurrentBranch = true →
        c.ackedState.value = b.ackedState.id ∧ c.confirmedState.map (·.value) = b.confirmedState.map (·.id)))
    ⟨fun ⟨h₁, h₂, h₃⟩ => ⟨h₁, h₂, h₃⟩, fun ⟨h₁, h₂, h₃⟩ => ⟨h₁, h₂, h₃⟩⟩

/-- A fresh condition with ConfirmedState, unacknowledged and unconfirmed, on its current branch. -/
example : BranchInv ⟨⟨"Acknowledged", "Unacknowledged", false⟩, some ⟨"Confirmed", "Unconfirmed", false⟩, []⟩
    ⟨none, 7, ⟨false, "Unacknowledged"⟩, some ⟨false, "Unconfirmed"⟩, false, ""⟩ := by
  decide

namespace BranchInv

variable {c c' : AcknowledgeableCondition} {b b' : ConditionSnapshot}

@[simp] theorem emit_iff (e : ConditionEvent) : BranchInv (c.emit e) b ↔ BranchInv c b :=
  ⟨fun ⟨h₁, h₂, h₃⟩ => ⟨h₁, h₂, h₃⟩, fun ⟨h₁, h₂, h₃⟩ => ⟨h₁, h₂, h₃⟩⟩

@[simp] theorem setRetain_iff (r : Bool) : BranchInv c (b.setRetain r) ↔ BranchInv c b :=
  ⟨fun ⟨h₁, h₂, h₃⟩ => ⟨h₁, h₂, h₃⟩, fun ⟨h₁, h₂, h₃⟩ => ⟨h₁, h₂, h₃⟩⟩

@[simp] theorem setComment_iff (comment : String) : BranchInv c (b.setComment comment) ↔ BranchInv c b :=
  ⟨fun ⟨h₁, h₂, h₃⟩ => ⟨h₁, h₂, h₃⟩, fun ⟨h₁, h₂, h₃⟩ => ⟨h₁, h₂, h₃⟩⟩

@[simp] theorem isCurrentBranch_set (v : TwoStateName) (x : TwoStateValue) :
    (b.set v x).isCurrentBranch = b.isCurrentBranch := by
  cases v <;> rfl

open AcknowledgeableCondition in
/-- `_set_twoStateVariable` writes the boolean, its label and, on the current branch, the live
value together. -/
theorem setTwoStateVariable {v : TwoStateName} {x : Bool}
    (h : c.setTwoStateVariable b v x = .ok (c', b')) (hi : BranchInv c b) : BranchInv c' b' := by
  obtain ⟨node, hn, rfl, rfl⟩ := setTwoStateVariable_ok h
  obtain ⟨ha, hcf, hm⟩ := hi
  rw [emit_iff]
  cases v with
  | ackedState =>
      cases hn
      cases hcur : b.isCurrentBranch
      · exact ⟨rfl, hcf, by simp [hcur]⟩
      · exact ⟨rfl, hcf, fun _ => ⟨rfl, (hm hcur).2⟩⟩
  | confirmedState =>
      have hc : c.confirmedState = some node := hn
      cases hcur : b.isCurrentBranch
      · refine ⟨ha, ?_, by simp [hcur]⟩
        simp only [isCurrentBranch_set, hcur, Bool.false_eq_true, ↓reduceIte, hc]
        exact .some rfl
      · refine ⟨ha, ?_, fun _ => ⟨(hm hcur).1, ?_⟩⟩
        · simp only [isCurrentBranch_set, hcur, ↓reduceIte, setTwoStateNodeValue, hc, Option.map_some']
          exact .some rfl
        · simp [setTwoStateNodeValue, hc, ConditionSnapshot.set]

open AcknowledgeableCondition in
theorem acknowledgeBranch {eventId : Option ℕ} {comment message : String} {st : Option StatusCode}
    (h : c.acknowledgeBranch eventId comment b message = .ok (st, c', b')) (hi : BranchInv c b) :
    BranchInv c' b' := by
  obtain ⟨c₁, b₁, st₂, c₂, b₂, hprep, hack, htail⟩ := acknowledgeBranch_ok h
  have h₁ : BranchInv c₁ b₁ := by
    rcases hprep with ⟨-, rfl, rfl⟩ | ⟨b₀, hs, rfl⟩
    · simpa using hi
    · simpa using setTwoStateVariable hs hi
  have h₂ : BranchInv c₂ b₂ := by
    rcases setAckedState_ok hack with ⟨-, -, rfl, rfl⟩ | ⟨-, -, hs⟩
    exacts [h₁, setTwoStateVariable hs h₁]
  rcases htail with ⟨-, rfl, rfl⟩ | ⟨-, rfl, rfl⟩
  · exact h₂
  · simpa [raiseNewBranchState, raiseAuditConditionAcknowledgeEvent, raiseAuditEvent] using h₂

open AcknowledgeableCondition in
theorem confirmBranch {comment message : String} (h : c.confirmBranch comment b message = .ok (c', b'))
    (hi : BranchInv c b) : BranchInv c' b' := by
  obtain ⟨c₁, b₁, hs, rfl, rfl⟩ := confirmBranch_ok h
  simpa [raiseNewBranchState, raiseAuditConditionCommentEvent, raiseAuditConditionConfirmEvent,
    raiseAuditEvent] using setTwoStateVariable hs hi

end BranchInv

/-- Over any run of Acknowledge and Confirm calls, a branch that agrees with its condition node
keeps agreeing with it: every text is the node's label for its boolean, ConfirmedState is in the
snapshot exactly when it is on the node, and the live node holds the current branch's booleans. -/
theorem branch_agrees_with_node {c c' : AcknowledgeableCondition} {b b' : ConditionSnapshot}
    {calls : List ConditionCall} (h : runCalls c b calls = .ok (c', b')) (hi : BranchInv c b) :
    BranchInv c' b' :=
  runCalls_preserves BranchInv BranchInv.acknowledgeBranch BranchInv.confirmBranch
    (fun hp => (BranchInv.setRetain_iff _).mpr hp) h hi

theorem branch_agrees_with_node_after_acknowledge_and_confirm :
    ∃ c' b', runCalls ⟨⟨"Acknowledged", "Unacknowledged", false⟩, some ⟨"Confirmed", "Unconfirmed", false⟩, []⟩
        ⟨none, 7, ⟨false, "Unacknowledged"⟩, some ⟨false, "Unconfirmed"⟩, false, ""⟩
        [.acknowledge (some 7) "a", .confirm (some 7) "c"] = .ok (c', b') ∧ BranchInv c' b' := by
  obtain ⟨c', b', h⟩ : ∃ c' b', runCalls
      ⟨⟨"Acknowledged", "Unacknowledged", false⟩, some ⟨"Confirmed", "Unconfirmed", false⟩, []⟩
      ⟨none, 7, ⟨false, "Unacknowledged"⟩, some ⟨false, "Unconfirmed"⟩, false, ""⟩
      [.acknowledge (some 7) "a", .confirm (some 7) "c"] = .ok (c', b') := ⟨_, _, rfl⟩
  exact ⟨c', b', h, branch_agrees_with_node h (by decide)⟩

end OpcuaServer
