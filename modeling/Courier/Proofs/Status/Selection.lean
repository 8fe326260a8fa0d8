import Courier.Proofs.Alike.Parts

/-! Rules made of rules.

    Rules can be put together, and what is put together can be a part again. However deep they lie, the
    rules at the leaves decide as if they stood in one row: the first one that claims a status decodes its
    failure, and nobody is left without a rule (`handled_by_leaf`). -/

namespace Courier

variable {W : Type}

/-- In place of the body, as elements and as bytes, there is the failure that `fail` comes to, if it ever
    does. -/
structure Response.Fails (r : Response W) (fail : W → W × Option Failure) : Prop where
  body : ∀ w, r.body w = (w, Stream.once fun u => ((fail u).1, (fail u).2.elim .never .error))
  data : ∀ w, r.data w = ((fail w).1, (fail w).2.elim .never .error)

namespace Status

namespace Rule

/-! ### Trees -/

/-- Rules put together to any depth. -/
inductive Tree (W : Type) where
  | leaf (rule : Rule W)
  | node (parts : List (Tree W))

/-- What is decoded of a response that no rule claims. -/
def unmatched (_ : String) (response : Response W) (w : W) : W × Option Failure :=
  (w, some (.other ("no status handler for status " ++ toString response.status)))

/-- Several rules as one; `otherwise` is what is decoded of a response that none of them claims. -/
def firstOr (otherwise : String → Response W → W → W × Option Failure) (rules : List (Rule W)) : Rule W where
  name := "composite"
  claims := fun status => (select rules status).isSome
  decode := fun key response w => match select rules response.status with
    | some rule => rule.decode key response w
    | none => otherwise key response w

theorem firstOf_eq (rules : List (Rule W)) : firstOf rules = firstOr unmatched rules := rfl

mutual

/-- The rules at the leaves, from left to right. -/
def Tree.leaves : Tree W → List (Rule W)
  | .leaf rule => [rule]
  | .node parts => leavesOf parts

/-- The rules at the leaves of several trees. -/
def leavesOf : List (Tree W) → List (Rule W)
  | [] => []
  | t :: ts => t.leaves ++ leavesOf ts

end

mutual

/-- The tree as one rule. -/
def Tree.rule (otherwise : String → Response W → W → W × Option Failure) : Tree W → Rule W
  | .leaf rule => rule
  | .node parts => firstOr otherwise (rulesOf otherwise parts)

/-- Several trees, each as one rule. -/
def rulesOf (otherwise : String → Response W → W → W × Option Failure) : List (Tree W) → List (Rule W)
  | [] => []
  | t :: ts => t.rule otherwise :: rulesOf otherwise ts

end

variable (otherwise : String → Response W → W → W × Option Failure)

theorem rulesOf_eq_map (ts : List (Tree W)) : rulesOf otherwise ts = ts.map (Tree.rule otherwise) := by
  induction ts with
  | nil => rfl
  | cons t ts ih => rw [rulesOf, ih, List.map_cons]

theorem leavesOf_eq_flatMap (ts : List (Tree W)) : leavesOf ts = ts.flatMap Tree.leaves := by
  induction ts with
  | nil => rfl
  | cons t ts ih => rw [leavesOf, ih, List.flatMap_cons]

/-! ### Selection -/

/-- For a status, the rule is as good as the one that was found; if none was, it does not claim it. -/
structure Decides (rule : Rule W) (status : Nat) (found : Option (Rule W)) : Prop where
  claims : rule.claims status = found.isSome
  decode : ∀ leaf ∈ found, ∀ key response, response.status = status →
    rule.decode key response = leaf.decode key response

theorem select_append (rules rules' : List (Rule W)) (status : Nat) :
    select (rules ++ rules') status = (select rules status).or (select rules' status) :=
  List.find?_append

/-- The first of several rules decides if the first of their leaves is the one it stands for. -/
theorem firstOr_decides {rules : List (Rule W)} {status : Nat} {found : Option (Rule W)}
    (h : match select rules status with
      | some rule => rule.Decides status found
      | none => found = none) : (firstOr otherwise rules).Decides status found := by
  cases hs : select rules status with
  | none =>
    rw [hs] at h
    subst h
    exact ⟨by simp only [firstOr, hs], nofun⟩
  | some rule =>
    rw [hs] at h
    have hclaims : rule.claims status = true := List.find?_some (p := fun r : Rule W => r.claims status) hs
    refine ⟨?_, fun leaf hleaf key response hstatus => ?_⟩
    · rw [← h.claims, hclaims]
      simp only [firstOr, hs]
      rfl
    · rw [← h.decode leaf hleaf key response hstatus]
      simp only [firstOr, hstatus, hs]

mutual

/-- A tree decides as the first of its leaves that claims the status. -/
theorem Tree.rule_decides (status : Nat) : ∀ t : Tree W,
    (t.rule otherwise).Decides status (select t.leaves status)
  | .leaf rule => by
    rw [Tree.rule, Tree.leaves, select, List.find?_singleton]
    cases h : rule.claims status with
    | false => exact ⟨h, nofun⟩
    | true =>
      refine ⟨h, fun leaf hleaf key response _ => ?_⟩
      cases hleaf
      rfl
  | .node parts => by
    rw [Tree.rule, Tree.leaves]
    exact firstOr_decides otherwise (rulesOf_decide status parts)

theorem rulesOf_decide (status : Nat) : ∀ ts : List (Tree W),
    match select (rulesOf otherwise ts) status with
      | some rule => rule.Decides status (select (leavesOf ts) status)
      | none => select (leavesOf ts) status = none
  | [] => rfl
  | t :: ts => by
    have ht := t.rule_decides status
    have hts := rulesOf_decide status ts
    rw [leavesOf, select_append, rulesOf, select, List.find?_cons]
    -- the first tree claims the status if one of its leaves does
    cases hfound : select t.leaves status with
    | none =>
      have hclaims : (t.rule otherwise).claims status = false := by rw [ht.claims, hfound]; rfl
      rw [hclaims]
      exact hts
    | some leaf =>
      have hclaims : (t.rule otherwise).claims status = true := by rw [ht.claims, hfound]; rfl
      rw [hclaims]
      rw [hfound] at ht
      exact ht

end

/-- What is claimed is what some leaf claims. -/
theorem Tree.claims_rule (t : Tree W) (status : Nat) :
    (t.rule otherwise).claims status = t.leaves.any fun leaf => leaf.claims status := by
  rw [(t.rule_decides otherwise status).claims, select, List.isSome_find?]

end Rule

/-! ### Responses -/

/-- What rules in a row make of a response: the first one that claims its status puts a failure in place of
    the body, which it decodes of the response as it was; if none does, the response is left alone. -/
def Handled (leaves : List (Rule W)) (key : String) (response handled : Response W) : Prop :=
  match Rule.select leaves response.status with
  | none => handled = response
  | some leaf => handled.status = response.status ∧ handled.headers = response.headers ∧
    handled.Fails (leaf.decode key response)

theorem Faulted.make_fails (rule : Rule W) (key : String) (response : Response W) :
    (Faulted.make rule key response).toResponse.Fails (rule.decode key response) where
  body w := congrArg (fun fail => (w, Stream.once fail)) (funext (make_fail rule key response))
  data w := make_fail rule key response w

variable [Ambient W]

theorem handle_decided {rule : Rule W} {leaves : List (Rule W)} (key : String) (response : Response W)
    (w : W) (h : rule.Decides response.status (Rule.select leaves response.status)) :
    Handled leaves key response (handle rule key response w).2 := by
  rw [Handled, handle, h.claims]
  cases hs : Rule.select leaves response.status with
  | none => rfl
  | some leaf =>
    have hdecode : rule.decode key response = leaf.decode key response := h.decode leaf hs key response rfl
    refine ⟨rfl, rfl, ?_⟩
    rw [← hdecode]
    exact Faulted.make_fails rule key response

/-- The rules of a client: those that were added, and behind them the standard one. -/
def clientRules (added : List (Rule.Tree W)) : Rule.Tree W := .node (added ++ [.leaf .standard])

theorem leaves_clientRules (added : List (Rule.Tree W)) :
    (clientRules added).leaves = added.flatMap Rule.Tree.leaves ++ [.standard] := by
  rw [clientRules, Rule.Tree.leaves, Rule.leavesOf_eq_flatMap, List.flatMap_append]
  rfl

theorem clientRules_claims (added : List (Rule.Tree W)) (status : Nat) :
    (Rule.select (added.flatMap Rule.Tree.leaves ++ [.standard]) status).isSome = true
      ↔ 400 ≤ status ∨ ∃ leaf ∈ added.flatMap Rule.Tree.leaves, leaf.claims status = true := by
  have hstandard : (Rule.standard (W := W)).claims status = true ↔ 400 ≤ status := decide_eq_true_iff
  rw [Rule.select, List.isSome_find?, List.any_append, Bool.or_eq_true, List.any_eq_true, Or.comm]
  simp only [List.any_cons, List.any_nil, Bool.or_false, hstandard]

theorem rule_clientRules (added : List (Rule.Tree W)) :
    (clientRules added).rule Rule.unmatched
      = .firstOf (added.map (Rule.Tree.rule Rule.unmatched) ++ [.standard]) := by
  rw [clientRules, Rule.Tree.rule, Rule.rulesOf_eq_map, List.map_append, Rule.firstOf_eq]
  rfl

/-- However deep rules lie in a tree, the tree claims what some leaf claims, and the first leaf that claims
    the status of a response puts its failure in place of the body; without such a leaf the response is left
    alone. What would be decoded without a leaf makes no difference. The rules of a client are the leaves
    of those that were added and the standard one behind them, so that each status from 400 on becomes a
    failure, and below that those which an added rule claims. -/
theorem handled_by_leaf (otherwise : String → Response W → W → W × Option Failure) (t : Rule.Tree W)
    (key : String) (response : Response W) (w : W) (wire : Wire W) (b : Blueprint W)
    (added : List (Rule.Tree W)) (request : Request W) :
    (∀ status, (t.rule otherwise).claims status = t.leaves.any fun leaf => leaf.claims status) ∧
    Handled t.leaves key response (handle (t.rule otherwise) key response w).2 ∧
    (∀ parts : List (Rule.Tree W), (Rule.Tree.node parts).rule Rule.unmatched
      = .firstOf (parts.map (Rule.Tree.rule Rule.unmatched))) ∧
    (match (b.sent wire).execute request w,
        (Blueprint.attempt wire { b with rules := added.map (Rule.Tree.rule Rule.unmatched) }).execute request w with
      | (w₁, .error e), attempt => attempt = (w₁, .error e)
      | (w₁, .never), attempt => attempt = (w₁, .never)
      | (_, .ok r), attempt => ∃ handled w₂,
        Handled (added.flatMap Rule.Tree.leaves ++ [.standard]) b.endpoint.key r handled ∧
        attempt = ((Mapper.applyAll b.mappers handled w₂).1, .ok (Mapper.applyAll b.mappers handled w₂).2)) ∧
    ∀ status, (Rule.select (added.flatMap Rule.Tree.leaves ++ [.standard]) status).isSome = true
      ↔ 400 ≤ status ∨ ∃ leaf ∈ added.flatMap Rule.Tree.leaves, leaf.claims status = true := by
  refine ⟨t.claims_rule otherwise, handle_decided key response w (t.rule_decides otherwise _),
    fun parts => ?_, ?_, clientRules_claims added⟩
  · rw [Rule.Tree.rule, Rule.rulesOf_eq_map, Rule.firstOf_eq]
  · have hsent : Blueprint.sent wire { b with rules := added.map (Rule.Tree.rule Rule.unmatched) }
        = b.sent wire := rfl
    rw [Blueprint.attempt_execute, hsent]
    rcases (b.sent wire).execute request w with ⟨w₁, e | r | _⟩
    · rfl
    · have hdecides := (clientRules added).rule_decides Rule.unmatched r.status
      rw [leaves_clientRules, rule_clientRules] at hdecides
      exact ⟨_, _, handle_decided b.endpoint.key r w₁ hdecides, rfl⟩
    · rfl

end Status
end Courier
