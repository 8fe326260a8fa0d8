import Courier.Proofs.Json.Members

/-! Values whose members are in their order.

    Every object of the library keeps its members in the order of their keys, each key once; a value is
    ordered if all objects in it do. What the members of an object hold is smaller than the object, so
    what can be told of an object by its members is told of all values (`Json.memberwise`). -/

namespace Courier

mutual

/-- All objects in the value have their members in the order of their keys, each key once. -/
def Json.Ordered : Json → Prop
  | .array items => ItemsOrdered items
  | .object members => Members.Sorted members ∧ MembersOrdered members
  | _ => True
termination_by structural j => j

/-- All items are ordered. -/
def Json.ItemsOrdered : List Json → Prop
  | [] => True
  | j :: js => Json.Ordered j ∧ Json.ItemsOrdered js
termination_by structural js => js

/-- The values of all members are ordered. -/
def Json.MembersOrdered : List (String × Json) → Prop
  | [] => True
  | (_, j) :: ms => Json.Ordered j ∧ Json.MembersOrdered ms
termination_by structural ms => ms

end

mutual

/-- Whether all objects in a value have their members in order can be told by going through it. -/
def Json.decidableOrdered : (j : Json) → Decidable j.Ordered
  | .array items => Json.decidableItemsOrdered items
  | .object members =>
    have := Json.decidableMembersOrdered members
    inferInstanceAs (Decidable (Members.Sorted members ∧ Json.MembersOrdered members))
  | .null => isTrue trivial
  | .bool _ => isTrue trivial
  | .number _ => isTrue trivial
  | .string _ => isTrue trivial
termination_by structural j => j

def Json.decidableItemsOrdered : (js : List Json) → Decidable (Json.ItemsOrdered js)
  | [] => isTrue trivial
  | j :: js =>
    have := Json.decidableOrdered j
    have := Json.decidableItemsOrdered js
    inferInstanceAs (Decidable (j.Ordered ∧ Json.ItemsOrdered js))
termination_by structural js => js

def Json.decidableMembersOrdered : (ms : List (String × Json)) → Decidable (Json.MembersOrdered ms)
  | [] => isTrue trivial
  | (_, j) :: ms =>
    have := Json.decidableOrdered j
    have := Json.decidableMembersOrdered ms
    inferInstanceAs (Decidable (j.Ordered ∧ Json.MembersOrdered ms))
termination_by structural ms => ms

end

instance : DecidablePred Json.Ordered := Json.decidableOrdered

namespace Members

variable {key k : String} {v : Json} {ms : List (String × Json)}

theorem get?_cons_self (key : String) (v : Json) (ms : List (String × Json)) :
    get? key ((key, v) :: ms) = some v := by
  rw [get?, beq_self_eq_true]
  rfl

theorem get?_cons_of_ne (h : k ≠ key) (v : Json) (ms : List (String × Json)) :
    get? key ((k, v) :: ms) = get? key ms := by
  rw [get?, beq_false_of_ne h]
  rfl

/-- What stands before all keys is none of them. -/
theorem get?_of_lt (h : ∀ m ∈ ms, key < m.1) : get? key ms = none := by
  induction ms with
  | nil => rfl
  | cons m ms ih =>
    obtain ⟨hm, hms⟩ := List.forall_mem_cons.mp h
    have hne : m.1 ≠ key := fun heq => String.lt_irrefl key (heq ▸ hm)
    rw [get?_cons_of_ne hne, ih hms]

/-- What stands before the first key is none of them. -/
theorem get?_of_before (h : Sorted ((k, v) :: ms)) (hlt : key < k) : get? key ((k, v) :: ms) = none :=
  get?_of_lt fun m hm => by
    rcases List.mem_cons.mp hm with rfl | hmem
    · exact hlt
    · exact String.lt_trans hlt ((sorted_cons.mp h).1 m hmem)

/-- Members in the order of their keys are known by what every key has. -/
theorem eq_of_get?_eq {ns : List (String × Json)} (hms : Sorted ms) (hns : Sorted ns)
    (h : ∀ key, get? key ms = get? key ns) : ms = ns := by
  induction ms generalizing ns with
  | nil =>
    cases ns with
    | nil => rfl
    | cons n ns =>
      have hfound := h n.1
      rw [get?_cons_self] at hfound
      cases hfound
  | cons m ms ih =>
    obtain ⟨k, v⟩ := m
    cases ns with
    | nil =>
      have hfound := h k
      rw [get?_cons_self] at hfound
      cases hfound
    | cons n ns =>
      obtain ⟨k', v'⟩ := n
      -- a key before all others would be missing on the other side
      have hkey : k = k' := by
        refine String.le_antisymm (String.not_lt.mp fun hlt => ?_) (String.not_lt.mp fun hlt => ?_)
        · have hmissing := get?_of_before hms hlt
          rw [h k', get?_cons_self] at hmissing
          cases hmissing
        · have hmissing := get?_of_before hns hlt
          rw [← h k, get?_cons_self] at hmissing
          cases hmissing
      subst hkey
      have hvalue : v = v' := by simpa only [get?_cons_self, Option.some.injEq] using h k
      obtain ⟨hfirst, hrest⟩ := sorted_cons.mp hms
      obtain ⟨hfirst', hrest'⟩ := sorted_cons.mp hns
      rw [hvalue, ih hrest hrest' fun key => ?_]
      by_cases hk : k = key
      · subst hk
        rw [get?_of_lt hfirst, get?_of_lt hfirst']
      · simpa only [get?_cons_of_ne hk] using h key

end Members

mutual

/-- What holds of everything but objects, and of an object if it holds of what its members hold, holds
    of all values. -/
@[elab_as_elim]
theorem Json.memberwise {motive : Json → Prop}
    (object : ∀ ms, (∀ key v, Members.get? key ms = some v → motive v) → motive (.object ms))
    (other : ∀ j : Json, j.isObject = false → motive j) : ∀ j, motive j
  | .object ms => object ms (Members.memberwise object other ms)
  | .null => other .null rfl
  | .bool b => other (.bool b) rfl
  | .number n => other (.number n) rfl
  | .string s => other (.string s) rfl
  | .array js => other (.array js) rfl
termination_by structural j => j

theorem Members.memberwise {motive : Json → Prop}
    (object : ∀ ms, (∀ key v, Members.get? key ms = some v → motive v) → motive (.object ms))
    (other : ∀ j : Json, j.isObject = false → motive j) :
    ∀ (ms : List (String × Json)) (key : String) (v : Json), Members.get? key ms = some v → motive v
  | (k, j) :: ms, key, v, h => by
    by_cases hkey : k = key
    · subst hkey
      rw [Members.get?_cons_self] at h
      cases h
      exact Json.memberwise object other j
    · rw [Members.get?_cons_of_ne hkey] at h
      exact Members.memberwise object other ms key v h
termination_by structural ms => ms

end

theorem Json.MembersOrdered.get? {key : String} {v : Json} : ∀ {ms : List (String × Json)},
    MembersOrdered ms → Members.get? key ms = some v → v.Ordered
  | [], _, h => nomatch h
  | (k, j) :: ms, ⟨hj, hms⟩, h => by
    by_cases hkey : k = key
    · subst hkey
      rw [Members.get?_cons_self] at h
      cases h
      exact hj
    · rw [Members.get?_cons_of_ne hkey] at h
      exact hms.get? h

end Courier
