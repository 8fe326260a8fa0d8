import Courier.Proofs.Json.Value

/-! Texts and the values they hold.

    What a text holds can be printed and read again: it does not nest too deep and its keys are in their
    order (`fits_of_parse`). Reading its print gives it back exactly if each of its numbers comes back
    (`reread?_self`); a print with anything but blanks behind it is no text of a value (`parse_append`). -/

namespace Courier

/-- What succeeds step by step succeeds in each step. -/
theorem bind_ok {ε α β : Type} {x : Except ε α} {f : α → Except ε β} {b : β} (h : x >>= f = .ok b) :
    ∃ a, x = .ok a ∧ f a = .ok b := by
  cases x with
  | error e => cases h
  | ok a => exact ⟨a, rfl, h⟩

namespace Json

open Text (charsBytes)

/-! ### Numbers of a value -/

mutual

/-- The numbers in a value. -/
def numbers : Json → List Number
  | .number n => [n]
  | .array items => itemsNumbers items
  | .object members => membersNumbers members
  | _ => []
termination_by structural j => j

/-- The numbers in items. -/
def itemsNumbers : List Json → List Number
  | [] => []
  | j :: js => numbers j ++ itemsNumbers js
termination_by structural js => js

/-- The numbers in the values of members. -/
def membersNumbers : List (String × Json) → List Number
  | [] => []
  | (_, j) :: ms => numbers j ++ membersNumbers ms
termination_by structural ms => ms

end

/-- All numbers in the value come back when they are printed and read again. -/
def Stable (j : Json) : Prop := ∀ n ∈ j.numbers, n.reread? = some n

mutual

theorem reread?_self : ∀ j : Json, j.reread? = some j ↔ j.Stable
  | .null => by simp [Stable, numbers, reread?]
  | .bool _ => by simp [Stable, numbers, reread?]
  | .string _ => by simp [Stable, numbers, reread?]
  | .number n => by simp [Stable, numbers, reread?]
  | .array items => by
    have hitems := itemsReread?_self items
    simpa [Stable, numbers, reread?] using hitems
  | .object members => by
    have hmembers := membersReread?_self members
    simpa [Stable, numbers, reread?] using hmembers
termination_by structural j => j

theorem itemsReread?_self : ∀ js : List Json,
    itemsReread? js = some js ↔ ∀ n ∈ itemsNumbers js, n.reread? = some n
  | [] => by simp [itemsNumbers, itemsReread?]
  | j :: js => by
    have hj := reread?_self j
    have hjs := itemsReread?_self js
    rw [Stable] at hj
    rw [itemsNumbers, List.forall_mem_append, ← hj, ← hjs]
    simp [itemsReread?, Option.bind_eq_some_iff]
termination_by structural js => js

theorem membersReread?_self : ∀ ms : List (String × Json),
    membersReread? ms = some ms ↔ ∀ n ∈ membersNumbers ms, n.reread? = some n
  | [] => by simp [membersNumbers, membersReread?]
  | (k, j) :: ms => by
    have hj := reread?_self j
    have hms := membersReread?_self ms
    rw [Stable] at hj
    rw [membersNumbers, List.forall_mem_append, ← hj, ← hms]
    simp [membersReread?, Option.bind_eq_some_iff]
termination_by structural ms => ms

end

/-- Whole numbers come back. -/
theorem whole_reread? (n : Int) (h : IsWord n) :
    (Number.whole n h).reread? = some (.whole n h) := by
  obtain ⟨x, hx, htext, hnumber⟩ := Number.whole_spelled n h
  rw [reread?_of_spelled hx htext, hnumber]

/-! ### Printed values as texts -/

theorem blanks_rest_isEmpty : ∀ (s : Spot) (rest : Bytes),
    (Cursor.blanks ⟨s, rest⟩).rest.isEmpty = rest.all isBlank
  | s, [] => rfl
  | s, b :: rest => by
    rw [Cursor.blanks, passBlanks]
    cases hb : isBlank b with
    | true => simpa [Cursor.blanks, hb] using blanks_rest_isEmpty (s.next b) rest
    | false => simp [hb]

/-- A printed value with something behind it is a text of what it is read as, as long as there are only
    blanks behind it. -/
theorem parse_append {j : Json} (hj : j.Fits 0) {rest : Bytes} (hrest : Numeral.Ends rest) :
    (parse (j.toBytes ++ rest)).toOption = if rest.all isBlank then j.reread? else none := by
  have hfuel : 2 * (charsBytes j.chars).length ≤ 2 * (j.toBytes ++ rest).length + 2 := by
    rw [List.length_append, toBytes]
    omega
  obtain ⟨root, stop, hread, hroot⟩ := (readValue_chars j _ ⟨1, 0⟩ hj hfuel hrest).node
  have hstart : readValue (2 * (j.toBytes ++ rest).length + 2) 0 (.start (j.toBytes ++ rest))
      = (root, some ⟨stop, rest⟩) := hread
  rw [parse, Document.ofBytes, hstart]
  simp only [Document.toJson, blanks_rest_isEmpty]
  rw [← hroot]
  cases rest.all isBlank <;> cases root.toJson <;> rfl

/-- A printed value is a text of what it is read as. -/
theorem parse_toBytes {j : Json} (hj : j.Fits 0) : (parse j.toBytes).toOption = j.reread? := by
  simpa using parse_append hj Numeral.ends_nil

/-! ### Values of texts -/

theorem itemsFit_iff {level : Nat} : ∀ {js : List Json}, ItemsFit js level ↔ ∀ j ∈ js, j.Fits level
  | [] => ⟨fun _ => nofun, fun _ => trivial⟩
  | j :: js => by rw [ItemsFit, itemsFit_iff, List.forall_mem_cons]

theorem membersFit_iff {level : Nat} : ∀ {ms : List (String × Json)},
    MembersFit ms level ↔ ∀ m ∈ ms, m.2.Fits level
  | [] => ⟨fun _ => nofun, fun _ => trivial⟩
  | (k, j) :: ms => by rw [MembersFit, membersFit_iff, List.forall_mem_cons]

mutual

/-- What can be read within a container can be read outside it. -/
theorem Fits.outside : ∀ {j : Json} {level : Nat}, j.Fits (level + 1) → j.Fits level
  | .null, _, _ => trivial
  | .bool _, _, _ => trivial
  | .number _, _, _ => trivial
  | .string _, _, _ => trivial
  | .array items, level, h => by
    rw [Fits] at h ⊢
    exact ⟨Nat.lt_of_succ_lt h.1, h.2.outside⟩
  | .object members, level, h => by
    rw [Fits] at h ⊢
    exact ⟨Nat.lt_of_succ_lt h.1, h.2.1.outside, h.2.2⟩
termination_by structural j => j

theorem ItemsFit.outside : ∀ {js : List Json} {level : Nat}, ItemsFit js (level + 1) → ItemsFit js level
  | [], _, _ => trivial
  | j :: js, _, h => by
    rw [ItemsFit] at h ⊢
    exact ⟨h.1.outside, h.2.outside⟩
termination_by structural js => js

theorem MembersFit.outside : ∀ {ms : List (String × Json)} {level : Nat}, MembersFit ms (level + 1) →
    MembersFit ms level
  | [], _, _ => trivial
  | (k, j) :: ms, _, h => by
    rw [MembersFit] at h ⊢
    exact ⟨h.1.outside, h.2.outside⟩
termination_by structural ms => ms

end

theorem scalar_fits (s : Scalar) (level : Nat) : s.toJson.Fits level := by
  cases s <;> trivial

section Trees

variable {node : Node} {nodes : List Node} {members : List (Key × Node)} {close : Close} {j : Json}
  {start peek : Mark} {level : Nat} {c : Cursor}

theorem entry_ok {u : Unit} (h : check (entry level c) = .ok u) : level < maxDepth := by
  rw [entry] at h
  split at h
  · assumption
  · cases h

/-- A list with a value was entered, and each of its items has one. -/
theorem array_ok (h : (Node.array start peek (entry level c) nodes close).toJson = .ok j) :
    ∃ js, level < maxDepth ∧ Node.itemsToJson nodes = .ok js ∧ j = .array js := by
  rw [Node.toJson] at h
  obtain ⟨_, hentry, h⟩ := bind_ok h
  obtain ⟨js, hjs, h⟩ := bind_ok h
  obtain ⟨_, -, h⟩ := bind_ok h
  cases h
  exact ⟨js, entry_ok hentry, hjs, rfl⟩

/-- An object with a value was entered, and each of its members has one. -/
theorem object_ok (h : (Node.object start peek (entry level c) members close).toJson = .ok j) :
    ∃ ms, level < maxDepth ∧ Node.membersToJson members = .ok ms ∧ j = .object (Members.ofList ms) := by
  rw [Node.toJson] at h
  obtain ⟨_, hentry, h⟩ := bind_ok h
  obtain ⟨ms, hms, h⟩ := bind_ok h
  obtain ⟨_, -, h⟩ := bind_ok h
  cases h
  exact ⟨ms, entry_ok hentry, hms, rfl⟩

theorem items_ok {js : List Json} (h : Node.itemsToJson (node :: nodes) = .ok js) :
    ∃ j js', node.toJson = .ok j ∧ Node.itemsToJson nodes = .ok js' ∧ js = j :: js' := by
  rw [Node.itemsToJson] at h
  obtain ⟨j, hj, h⟩ := bind_ok h
  obtain ⟨js', hjs, h⟩ := bind_ok h
  cases h
  exact ⟨j, js', hj, hjs, rfl⟩

theorem members_ok {key : Key} {ms : List (String × Json)}
    (h : Node.membersToJson ((key, node) :: members) = .ok ms) :
    ∃ name j ms', node.toJson = .ok j ∧ Node.membersToJson members = .ok ms' ∧ ms = (name, j) :: ms' := by
  rw [Node.membersToJson] at h
  obtain ⟨name, -, h⟩ := bind_ok h
  obtain ⟨j, hj, h⟩ := bind_ok h
  obtain ⟨ms', hms, h⟩ := bind_ok h
  cases h
  exact ⟨name, j, ms', hj, hms, rfl⟩

theorem document_ok {d : Document} (h : d.toJson = .ok j) : d.root.toJson = .ok j := by
  rw [Document.toJson] at h
  obtain ⟨v, hroot, h⟩ := bind_ok h
  obtain ⟨_, -, h⟩ := bind_ok h
  cases h
  exact hroot

end Trees

theorem item_cases (fuel level : Nat) (c : Cursor) : ∃ tail, (match readValue fuel level c with
      | (node, none) => ([node], Close.unreached, none)
      | (node, some after) =>
        (node :: (readItems fuel level false after).1, (readItems fuel level false after).2)).1
        = (readValue fuel level c).1 :: tail ∧
      (tail = [] ∨ ∃ after, tail = (readItems fuel level false after).1) := by
  rcases readValue fuel level c with ⟨node, _ | after⟩
  · exact ⟨[], rfl, .inl rfl⟩
  · exact ⟨_, rfl, .inr ⟨after, rfl⟩⟩

/-- Items are none, or a value and what follows it. -/
theorem readItems_cases (fuel level : Nat) (first : Bool) (c : Cursor) :
    (readItems (fuel + 1) level first c).1 = [] ∨ ∃ c' tail,
      (readItems (fuel + 1) level first c).1 = (readValue fuel level c').1 :: tail ∧
        (tail = [] ∨ ∃ after, tail = (readItems fuel level false after).1) := by
  rw [readItems]
  simp only
  split
  · exact .inl rfl
  split
  · exact .inl rfl
  split
  · exact .inr ⟨_, item_cases ..⟩
  split
  · split
    · exact .inl rfl
    · exact .inr ⟨_, item_cases ..⟩
  · exact .inl rfl

theorem member_cases (fuel level : Nat) (unclosed : Bool) (key : Key) (colon : Cursor) : ∃ key' node tail,
    (if unclosed then ([(key, hole colon .expectedColon)], Close.unreached, none)
      else match colon.rest with
      | [] => ([(key, hole colon .endInObject)], .unreached, none)
      | b :: rest =>
        if b == 58 then match readValue fuel level ⟨colon.spot.next b, rest⟩ with
          | (node, none) => ([(key, node)], .unreached, none)
          | (node, some after) =>
            ((key, node) :: (readMembers fuel level false after).1,
              (readMembers fuel level false after).2)
        else ([(key, hole colon .expectedColon)], .unreached, none)).1 = (key', node) :: tail ∧
      ((∃ c' cause, node = hole c' cause) ∨ ∃ c', node = (readValue fuel level c').1) ∧
      (tail = [] ∨ ∃ after, tail = (readMembers fuel level false after).1) := by
  split
  · exact ⟨key, _, [], rfl, .inl ⟨_, _, rfl⟩, .inl rfl⟩
  split
  · exact ⟨key, _, [], rfl, .inl ⟨_, _, rfl⟩, .inl rfl⟩
  split
  · next b rest _ _ =>
    rcases hread : readValue fuel level ⟨colon.spot.next b, rest⟩ with ⟨node, _ | after⟩
    · exact ⟨key, node, [], rfl, .inr ⟨_, (congrArg Prod.fst hread).symm⟩, .inl rfl⟩
    · exact ⟨key, node, _, rfl, .inr ⟨_, (congrArg Prod.fst hread).symm⟩, .inr ⟨after, rfl⟩⟩
  · exact ⟨key, _, [], rfl, .inl ⟨_, _, rfl⟩, .inl rfl⟩

/-- Members are none, or a member and what follows it; its value may be missing. -/
theorem readMembers_cases (fuel level : Nat) (first : Bool) (c : Cursor) :
    (readMembers (fuel + 1) level first c).1 = [] ∨ ∃ key node tail,
      (readMembers (fuel + 1) level first c).1 = (key, node) :: tail ∧
        ((∃ c' cause, node = hole c' cause) ∨ ∃ c', node = (readValue fuel level c').1) ∧
        (tail = [] ∨ ∃ after, tail = (readMembers fuel level false after).1) := by
  rw [readMembers]
  simp only
  split
  · exact .inl rfl
  split
  · exact .inl rfl
  split
  · split
    · exact .inr (member_cases ..)
    · exact .inl rfl
  split
  · split
    · exact .inl rfl
    · exact .inr (member_cases ..)
    · exact .inl rfl
    · exact .inl rfl
  · exact .inl rfl

mutual

/-- What is read under `level` containers can be read there again. -/
theorem readValue_fits : ∀ (fuel level : Nat) (c : Cursor) {j : Json},
    (readValue fuel level c).1.toJson = .ok j → j.Fits level
  | 0, level, c, _, h => nomatch h
  | fuel + 1, level, c0, j, h => by
    have hscan : ∀ {α : Type} (peek : Spot) (scan : Scan α) (f : α → Scalar),
        (ofScan peek scan f).1.toJson = .ok j → j.Fits level := by
      intro α peek scan f h
      cases hvalue : scan.value with
      | error e => simp [ofScan, Node.toJson, hvalue, Except.map] at h
      | ok a =>
        simp only [ofScan, Node.toJson, hvalue, Except.map, Except.ok.injEq] at h
        rw [← h]
        exact scalar_fits (f a) level
    rw [readValue] at h
    simp only at h
    -- scalars fit anywhere; only lists and objects need a level
    split at h
    · cases h
    split at h
    · exact hscan _ _ _ h
    split at h
    · exact hscan _ _ _ h
    split at h
    · exact hscan _ _ _ h
    split at h
    · exact hscan _ _ _ h
    split at h
    · exact hscan _ _ _ h
    split at h
    · exact hscan _ _ _ h
    split at h
    · obtain ⟨js, hentry, hitems, rfl⟩ := array_ok h
      exact ⟨hentry, readItems_fits fuel (level + 1) true _ hitems⟩
    split at h
    · obtain ⟨ms, hentry, hmembers, rfl⟩ := object_ok h
      have hfit := readMembers_fits fuel (level + 1) true _ hmembers
      refine ⟨hentry, membersFit_iff.mpr fun m hm => ?_, Members.ofList_sorted ms⟩
      exact membersFit_iff.mp hfit m (Members.mem_ofList hm)
    · cases h
termination_by structural fuel => fuel

theorem readItems_fits : ∀ (fuel level : Nat) (first : Bool) (c : Cursor) {js : List Json},
    Node.itemsToJson (readItems fuel level first c).1 = .ok js → ItemsFit js level
  | 0, _, _, _, _, h => by cases h; trivial
  | fuel + 1, level, first, c0, js, h => by
    rcases readItems_cases fuel level first c0 with hnil | ⟨c', tail, hcons, htail⟩
    · rw [hnil] at h
      cases h
      trivial
    · rw [hcons] at h
      obtain ⟨j, js, hj, hjs, rfl⟩ := items_ok h
      refine ⟨readValue_fits fuel level c' hj, ?_⟩
      rcases htail with rfl | ⟨after, rfl⟩
      · cases hjs
        trivial
      · exact readItems_fits fuel level false after hjs
termination_by structural fuel => fuel

theorem readMembers_fits : ∀ (fuel level : Nat) (first : Bool) (c : Cursor) {ms : List (String × Json)},
    Node.membersToJson (readMembers fuel level first c).1 = .ok ms → MembersFit ms level
  | 0, _, _, _, _, h => by cases h; trivial
  | fuel + 1, level, first, c0, ms, h => by
    rcases readMembers_cases fuel level first c0 with hnil | ⟨key, node, tail, hcons, hnode, htail⟩
    · rw [hnil] at h
      cases h
      trivial
    · rw [hcons] at h
      obtain ⟨name, j, ms, hj, hms, rfl⟩ := members_ok h
      refine ⟨?_, ?_⟩
      · rcases hnode with ⟨c', cause, rfl⟩ | ⟨c', rfl⟩
        · cases hj
        · exact readValue_fits fuel level c' hj
      · rcases htail with rfl | ⟨after, rfl⟩
        · cases hms
          trivial
        · exact readMembers_fits fuel level false after hms
termination_by structural fuel => fuel

end

/-- What a text holds can be read again. -/
theorem fits_of_parse {text : Bytes} {j : Json} (h : parse text = .ok j) : j.Fits 0 := by
  have hread : (Document.ofBytes text).root = (readValue (2 * text.length + 2) 0 (.start text)).1 := by
    rw [Document.ofBytes]
    rcases readValue (2 * text.length + 2) 0 (.start text) with ⟨root, _ | after⟩ <;> rfl
  exact readValue_fits _ 0 _ (hread ▸ document_ok h)

end Json
end Courier
