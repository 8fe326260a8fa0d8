import Courier.Proofs.Json.Parse

/-! A newline at the end of a text.

    A text and the same text with a newline behind it are read in step (`readValue_newline`): as long as
    there are bytes left both readers stand before the same byte at the same place, and where the shorter
    text ends within a value, neither of them can go on. So the newline changes nothing but the places of
    faults (`parse_newline`). -/

namespace Courier.Json

/-- A relation holds between two choices if it holds whichever way they go. -/
theorem rel_ite {α : Type} {R : α → α → Prop} {p : Prop} [Decidable p] {a b a' b' : α}
    (hthen : p → R a a') (helse : ¬p → R b b') : R (if p then a else b) (if p then a' else b') := by
  by_cases h : p
  · rw [if_pos h, if_pos h]
    exact hthen h
  · rw [if_neg h, if_neg h]
    exact helse h

/-! ### Cursors -/

/-- Before the same bytes at the same place, a newline being behind those of the second; or both at an end,
    the newline passed. -/
inductive Cursor.Newlined : Cursor → Cursor → Prop
  | more (s : Spot) (rest : Bytes) : Newlined ⟨s, rest⟩ ⟨s, rest ++ [10]⟩
  | done (s s' : Spot) : Newlined ⟨s, []⟩ ⟨s', []⟩

/-- Behind the blanks: both at an end, or before the same byte, with less than `n` bytes behind it. -/
inductive Cursor.Facing (n : Nat) : Cursor → Cursor → Prop
  | done (s s' : Spot) : Facing n ⟨s, []⟩ ⟨s', []⟩
  | byte (s : Spot) (b : UInt8) (rest : Bytes) (h : rest.length < n) :
      Facing n ⟨s, b :: rest⟩ ⟨s, b :: (rest ++ [10])⟩

theorem Cursor.Facing.mono {n m : Nat} {c c' : Cursor} (h : Facing n c c') (hnm : n ≤ m) : Facing m c c' := by
  cases h with
  | done s s' => exact .done s s'
  | byte s b rest h => exact .byte s b rest (Nat.lt_of_lt_of_le h hnm)

theorem passBlanks_newline (s : Spot) (rest : Bytes) :
    Cursor.Facing rest.length (passBlanks s rest) (passBlanks s (rest ++ [10])) := by
  induction rest generalizing s with
  | nil => exact .done s (s.next 10)
  | cons b rest ih =>
    rw [List.cons_append, passBlanks, passBlanks]
    exact rel_ite (fun _ => (ih (s.next b)).mono (Nat.le_succ _)) fun _ => .byte s b rest (Nat.lt_succ_self _)

theorem Cursor.Newlined.blanks {c c' : Cursor} (h : c.Newlined c') :
    Cursor.Facing c.rest.length c.blanks c'.blanks := by
  cases h with
  | more s rest => exact passBlanks_newline s rest
  | done s s' => exact .done s s'

/-! ### Scans -/

/-- Scans that come to the same end with less than `n` bytes left, or that both cannot go on. -/
inductive ScansAgree {α : Type} (n : Nat) : Scan α → Scan α → Prop
  | same (value : Except Fault α) (s : Spot) (rest : Bytes) (h : rest.length < n) :
      ScansAgree n ⟨value, none, ⟨s, rest⟩⟩ ⟨value, none, ⟨s, rest ++ [10]⟩⟩
  | fail (f skip f' skip' : Fault) (after after' : Cursor) :
      ScansAgree n ⟨.error f, some skip, after⟩ ⟨.error f', some skip', after'⟩

section Scans

variable {α : Type} {n m : Nat} {scan scan' : Scan α}

theorem ScansAgree.mono (h : ScansAgree n scan scan') (hnm : n ≤ m) : ScansAgree m scan scan' := by
  cases h with
  | same value s rest h => exact .same value s rest (Nat.lt_of_lt_of_le h hnm)
  | fail f skip f' skip' after after' => exact .fail f skip f' skip' after after'

/-- No word has a newline in it. -/
theorem word_newline (value : α) (s : Spot) {ws : Bytes} (hws : 10 ∉ ws) (rest : Bytes) :
    ScansAgree (rest.length + 1) (word value s ws rest) (word value s ws (rest ++ [10])) := by
  induction ws generalizing s rest with
  | nil => exact .same (.ok value) s rest (Nat.lt_succ_self _)
  | cons w ws ih =>
    obtain ⟨hw, hws⟩ := not_or.mp (mt List.mem_cons.mpr hws)
    cases rest with
    | nil =>
      rw [List.nil_append, word, word, if_neg (by simpa using hw)]
      exact .fail ..
    | cons b rest =>
      rw [List.cons_append, word, word]
      exact rel_ite (fun _ => (ih (s.next b) hws rest).mono (Nat.le_succ _)) fun _ => .fail ..

/-- A newline is no digit of an escape. -/
theorem hex4?_newline (a b c : UInt8) : hex4? a b c 10 = none := by
  rw [hex4?]
  cases hexDigit? a <;> cases hexDigit? b <;> cases hexDigit? c <;> rfl

theorem scanString_newline : ∀ (q : Quote) (s : Spot) (bs : Bytes),
    ScansAgree (bs.length + 1) (scanString q s bs) (scanString q s (bs ++ [10]))
  | _, _, [] => .fail ..
  | q, s, b :: rest => by
    have hstep := scanString.eq_def q s (b :: rest)
    have hstep' := scanString.eq_def q s (b :: (rest ++ [10]))
    simp only at hstep hstep'
    rw [List.cons_append, hstep, hstep']
    have hshorter : rest.length < (b :: rest).length + 1 := Nat.lt_add_right 1 (Nat.lt_succ_self _)
    refine rel_ite (fun _ => .same _ _ rest hshorter) fun _ => rel_ite (fun _ => ?_) fun _ =>
      rel_ite (fun _ => .fail ..) fun _ => (scanString_newline _ _ rest).mono (Nat.le_succ _)
    -- behind a backslash
    cases rest with
    | nil => exact .fail ..
    | cons e rest1 =>
      rw [List.cons_append]
      simp only
      refine rel_ite (fun _ => ?_) fun _ => ?_
      · rcases rest1 with _ | ⟨h1, _ | ⟨h2, _ | ⟨h3, _ | ⟨h4, rest2⟩⟩⟩⟩
        · exact .fail ..
        · exact .fail ..
        · exact .fail ..
        · simp only [List.cons_append, List.nil_append]
          rw [hex4?_newline]
          exact .fail ..
        · simp only [List.cons_append]
          cases hex4? h1 h2 h3 h4 with
          | none => exact .fail ..
          | some n => exact (scanString_newline _ _ rest2).mono (Nat.le_add_right _ 6)
      · cases escape? e with
        | none => exact .fail ..
        | some c => exact (scanString_newline _ _ rest1).mono (by simp)
termination_by structural _ _ bs => bs

namespace Numeral

theorem digits_newline (s : Spot) (rest : Bytes) : ∃ ds stop left, left.length ≤ rest.length ∧
    digits s rest = (ds, ⟨stop, left⟩) ∧ digits s (rest ++ [10]) = (ds, ⟨stop, left ++ [10]⟩) := by
  induction rest generalizing s with
  | nil => exact ⟨[], s, [], Nat.le_refl _, rfl, rfl⟩
  | cons b rest ih =>
    rw [List.cons_append, digits, digits]
    cases digit? b with
    | none => exact ⟨[], s, b :: rest, Nat.le_refl _, rfl, rfl⟩
    | some d =>
      obtain ⟨ds, stop, left, hleft, h, h'⟩ := ih (s.next b)
      exact ⟨d :: ds, stop, left, Nat.le_succ_of_le hleft, by rw [h], by rw [h']⟩

/-- Reads an exponent behind its sign, `true` for minus. -/
def readPower (p : Parts) (down : Bool) (c : Cursor) : Scan Number := match c.rest with
  | [] => ⟨.error (c.fault .endInValue), some (c.fault .invalidNumber), c⟩
  | b :: rest => match digit? b with
    | none => .stop (c.peekFault .invalidNumber) ⟨c.peek, rest⟩
    | some _ =>
      let ds := digits c.spot c.rest
      ⟨{ p with exponent := some (down, c.spot, ds.1) }.value ds.2.spot, none, ds.2⟩

/-- The sign of an exponent, and what stands behind it. -/
def sign (c : Cursor) : Bool × Cursor := match c.rest with
  | 43 :: rest => (false, ⟨c.spot.next 43, rest⟩)
  | 45 :: rest => (true, ⟨c.spot.next 45, rest⟩)
  | _ => (false, c)

theorem readExponent_eq (p : Parts) (c : Cursor) : readExponent p c = readPower p (sign c).1 (sign c).2 := rfl

theorem sign_newline (s : Spot) (rest : Bytes) : ∃ down here left, left.length ≤ rest.length ∧
    sign ⟨s, rest⟩ = (down, ⟨here, left⟩) ∧ sign ⟨s, rest ++ [10]⟩ = (down, ⟨here, left ++ [10]⟩) := by
  cases rest with
  | nil => exact ⟨false, s, [], Nat.le_refl _, rfl, rfl⟩
  | cons b rest =>
    by_cases hplus : b = 43
    · subst hplus
      exact ⟨false, s.next 43, rest, Nat.le_succ _, rfl, rfl⟩
    by_cases hminus : b = 45
    · subst hminus
      exact ⟨true, s.next 45, rest, Nat.le_succ _, rfl, rfl⟩
    have hnone : ∀ rest, sign ⟨s, b :: rest⟩ = (false, ⟨s, b :: rest⟩) := by
      intro rest
      rw [sign.eq_def]
      split
      · next h => cases h; exact absurd rfl hplus
      · next h => cases h; exact absurd rfl hminus
      · rfl
    exact ⟨false, s, b :: rest, Nat.le_refl _, hnone _, hnone _⟩

theorem readPower_newline (p : Parts) (down : Bool) (s : Spot) (rest : Bytes) :
    ScansAgree (rest.length + 1) (readPower p down ⟨s, rest⟩) (readPower p down ⟨s, rest ++ [10]⟩) := by
  cases rest with
  | nil => exact .fail ..
  | cons b rest =>
    obtain ⟨ds, stop, left, hleft, h, h'⟩ := digits_newline s (b :: rest)
    rw [List.cons_append] at h'
    simp only [readPower, List.cons_append, h, h']
    cases digit? b with
    | none => exact .fail ..
    | some _ => exact .same _ stop left (Nat.lt_succ_of_le hleft)

theorem readExponent_newline (p : Parts) (s : Spot) (rest : Bytes) :
    ScansAgree (rest.length + 1) (readExponent p ⟨s, rest⟩) (readExponent p ⟨s, rest ++ [10]⟩) := by
  obtain ⟨down, here, left, hleft, h, h'⟩ := sign_newline s rest
  rw [readExponent_eq, readExponent_eq, h, h']
  exact (readPower_newline p down here left).mono (Nat.succ_le_succ hleft)

theorem readTail_newline (p : Parts) (s : Spot) (rest : Bytes) :
    ScansAgree (rest.length + 1) (readTail p ⟨s, rest⟩) (readTail p ⟨s, rest ++ [10]⟩) := by
  cases rest with
  | nil => exact .same _ s [] (Nat.lt_succ_self _)
  | cons b rest =>
    rw [List.cons_append, readTail, readTail]
    exact rel_ite (fun _ => (readExponent_newline p (s.next b) rest).mono (Nat.le_succ _))
      fun _ => .same _ s (b :: rest) (Nat.lt_succ_self _)

theorem readFraction_newline (p : Parts) (s : Spot) (rest : Bytes) :
    ScansAgree (rest.length + 1) (readFraction p ⟨s, rest⟩) (readFraction p ⟨s, rest ++ [10]⟩) := by
  cases rest with
  | nil => exact readTail_newline p s []
  | cons b rest =>
    by_cases hpoint : b = 46
    · subst hpoint
      obtain ⟨ds, stop, left, hleft, h, h'⟩ := digits_newline (s.next 46) rest
      rw [List.cons_append, readFraction, readFraction]
      simp only [h, h']
      refine rel_ite (fun _ => .fail ..) fun _ => ?_
      exact (readTail_newline _ stop left).mono (by simp only [List.length_cons]; omega)
    · have hplain : ∀ rest, readFraction p ⟨s, b :: rest⟩ = readTail p ⟨s, b :: rest⟩ := by
        intro rest
        rw [readFraction.eq_def]
        split
        · next h => cases h; exact absurd rfl hpoint
        · rfl
      rw [List.cons_append, hplain, hplain]
      exact readTail_newline p s (b :: rest)

theorem read_newline (negative : Bool) (s : Spot) (rest : Bytes) :
    ScansAgree rest.length (read negative ⟨s, rest⟩) (read negative ⟨s, rest ++ [10]⟩) := by
  cases rest with
  | nil => exact .fail ..
  | cons b rest =>
    obtain ⟨ds, stop, left, hleft, h, h'⟩ := digits_newline (s.next b) rest
    rw [List.cons_append]
    simp only [read, digits]
    rcases digit? b with _ | _ | d
    · exact .fail ..
    · have hzero := readFraction_newline ⟨negative, [0], [], none⟩ (s.next b) rest
      cases rest with
      | nil => exact hzero
      | cons b1 rest => exact rel_ite (fun _ => .fail ..) fun _ => hzero
    · simp only [h, h']
      exact (readFraction_newline _ stop left).mono (Nat.succ_le_succ hleft)

end Numeral
end Scans

/-! ### Values and parts -/

/-- Readings of the same value, with less than `n` bytes left, or of none. -/
inductive ReadsAgree (n : Nat) : Node × Option Cursor → Node × Option Cursor → Prop
  | same (node : Node) (s : Spot) (rest : Bytes) (h : rest.length < n) :
      ReadsAgree n (node, some ⟨s, rest⟩) (node, some ⟨s, rest ++ [10]⟩)
  | fail {node node' : Node} (h : node.toJson.toOption = none) (h' : node'.toJson.toOption = none) :
      ReadsAgree n (node, none) (node', none)

/-- No container has these parts and this end. -/
def Unread {β : Type} (parts : Except Fault β) (close : Close) : Prop :=
  ∀ v, parts = .ok v → close.read ≠ .ok ()

/-- Readings of the same parts up to the end of their container, with less than `n` bytes left, or of
    parts that make none. -/
inductive PartsAgree {α β : Type} (value : List α → Except Fault β) (n : Nat) :
    List α × Close × Option Cursor → List α × Close × Option Cursor → Prop
  | same (parts : List α) (close : Close) (s : Spot) (rest : Bytes) (h : rest.length < n) :
      PartsAgree value n (parts, close, some ⟨s, rest⟩) (parts, close, some ⟨s, rest ++ [10]⟩)
  | fail {parts parts' : List α} {close close' : Close} (h : Unread (value parts) close)
      (h' : Unread (value parts') close') : PartsAgree value n (parts, close, none) (parts', close', none)

section Parts

variable {α β : Type} {value : List α → Except Fault β} {n m : Nat} {node : Node} {nodes : List Node}
  {key : Key} {fields : List (Key × Node)} {close : Close} {parts : Except Fault β}
  {start peek : Mark} {entry : Option Fault}

theorem ReadsAgree.mono {r r' : Node × Option Cursor} (h : ReadsAgree n r r') (hnm : n ≤ m) :
    ReadsAgree m r r' := by
  cases h with
  | same node s rest h => exact .same node s rest (Nat.lt_of_lt_of_le h hnm)
  | fail h h' => exact .fail h h'

theorem PartsAgree.mono {r r' : List α × Close × Option Cursor} (h : PartsAgree value n r r') (hnm : n ≤ m) :
    PartsAgree value m r r' := by
  cases h with
  | same parts close s rest h => exact .same parts close s rest (Nat.lt_of_lt_of_le h hnm)
  | fail h h' => exact .fail h h'

theorem unread_broken (read skip : Fault) : Unread parts (.broken read skip) := fun _ _ h => nomatch h

theorem unread_item (h : node.toJson.toOption = none) : Unread (Node.itemsToJson (node :: nodes)) close := by
  intro js hjs
  obtain ⟨j, -, hj, -⟩ := items_ok hjs
  rw [hj] at h
  cases h

theorem Unread.items (h : Unread (Node.itemsToJson nodes) close) :
    Unread (Node.itemsToJson (node :: nodes)) close := by
  intro js hjs
  obtain ⟨-, js', -, hjs', -⟩ := items_ok hjs
  exact h js' hjs'

theorem unread_member (h : node.toJson.toOption = none) :
    Unread (Node.membersToJson ((key, node) :: fields)) close := by
  intro ms hms
  obtain ⟨-, j, -, hj, -, -⟩ := members_ok hms
  rw [hj] at h
  cases h

theorem Unread.members (h : Unread (Node.membersToJson fields) close) :
    Unread (Node.membersToJson ((key, node) :: fields)) close := by
  intro ms hms
  obtain ⟨-, -, ms', -, hms', -⟩ := members_ok hms
  exact h ms' hms'

theorem Unread.array (h : Unread (Node.itemsToJson nodes) close) :
    (Node.array start peek entry nodes close).toJson.toOption = none := by
  cases hvalue : (Node.array start peek entry nodes close).toJson with
  | error f => rfl
  | ok j =>
    rw [Node.toJson] at hvalue
    obtain ⟨_, -, hvalue⟩ := bind_ok hvalue
    obtain ⟨js, hjs, hvalue⟩ := bind_ok hvalue
    obtain ⟨_, hclose, -⟩ := bind_ok hvalue
    exact absurd hclose (h js hjs)

theorem Unread.object (h : Unread (Node.membersToJson fields) close) :
    (Node.object start peek entry fields close).toJson.toOption = none := by
  cases hvalue : (Node.object start peek entry fields close).toJson with
  | error f => rfl
  | ok j =>
    rw [Node.toJson] at hvalue
    obtain ⟨_, -, hvalue⟩ := bind_ok hvalue
    obtain ⟨ms, hms, hvalue⟩ := bind_ok hvalue
    obtain ⟨_, hclose, -⟩ := bind_ok hvalue
    exact absurd hclose (h ms hms)

theorem ScansAgree.ofScan {scan scan' : Scan α} (h : ScansAgree n scan scan') (peek : Spot)
    (f : α → Scalar) : ReadsAgree n (ofScan peek scan f) (ofScan peek scan' f) := by
  cases h with
  | same value s rest h => exact .same _ s rest h
  | fail f skip f' skip' after after' => exact .fail rfl rfl

theorem PartsAgree.array {r r' : List Node × Close × Option Cursor}
    (h : PartsAgree Node.itemsToJson n r r') (start peek : Mark) (entry : Option Fault) :
    ReadsAgree n (.array start peek entry r.1 r.2.1, r.2.2) (.array start peek entry r'.1 r'.2.1, r'.2.2) := by
  cases h with
  | same nodes close s rest h => exact .same _ s rest h
  | fail h h' => exact .fail h.array h'.array

theorem PartsAgree.object {r r' : List (Key × Node) × Close × Option Cursor}
    (h : PartsAgree Node.membersToJson n r r') (start peek : Mark) (entry : Option Fault) :
    ReadsAgree n (.object start peek entry r.1 r.2.1, r.2.2) (.object start peek entry r'.1 r'.2.1, r'.2.2) := by
  cases h with
  | same members close s rest h => exact .same _ s rest h
  | fail h h' => exact .fail h.object h'.object

/-- An item, and what follows it. -/
def itemThen (more : Cursor → List Node × Close × Option Cursor) :
    Node × Option Cursor → List Node × Close × Option Cursor
  | (node, none) => ([node], .unreached, none)
  | (node, some after) => (node :: (more after).1, (more after).2)

/-- A member, and what follows it. -/
def memberThen (more : Cursor → List (Key × Node) × Close × Option Cursor) (key : Key) :
    Node × Option Cursor → List (Key × Node) × Close × Option Cursor
  | (node, none) => ([(key, node)], .unreached, none)
  | (node, some after) => ((key, node) :: (more after).1, (more after).2)

/-- Reads a member behind its key. -/
def memberOf (read : Cursor → Node × Option Cursor) (more : Cursor → List (Key × Node) × Close × Option Cursor)
    (scan : Scan String) : List (Key × Node) × Close × Option Cursor :=
  let colon := scan.after.blanks
  let key : Key := ⟨scan.value, scan.skip, afterKey colon⟩
  if scan.skip.isSome then ([(key, hole colon .expectedColon)], .unreached, none)
  else match colon.rest with
    | [] => ([(key, hole colon .endInObject)], .unreached, none)
    | b :: rest =>
      if b == 58 then memberThen more key (read ⟨colon.spot.next b, rest⟩)
      else ([(key, hole colon .expectedColon)], .unreached, none)

theorem ReadsAgree.itemThen {more more' : Cursor → List Node × Close × Option Cursor}
    {r r' : Node × Option Cursor} (h : ReadsAgree n r r')
    (hmore : ∀ s rest, rest.length < n →
      PartsAgree Node.itemsToJson n (more ⟨s, rest⟩) (more' ⟨s, rest ++ [10]⟩)) :
    PartsAgree Node.itemsToJson n (itemThen more r) (itemThen more' r') := by
  cases h with
  | fail h h' => exact .fail (unread_item h) (unread_item h')
  | same node s rest h =>
    have htail := hmore s rest h
    rw [Json.itemThen, Json.itemThen]
    generalize more ⟨s, rest⟩ = tail at htail ⊢
    generalize more' ⟨s, rest ++ [10]⟩ = tail' at htail ⊢
    cases htail with
    | same nodes close s rest h => exact .same (node :: nodes) close s rest h
    | fail h h' => exact .fail h.items h'.items

theorem ReadsAgree.memberThen {more more' : Cursor → List (Key × Node) × Close × Option Cursor} (key : Key)
    {r r' : Node × Option Cursor} (h : ReadsAgree n r r')
    (hmore : ∀ s rest, rest.length < n →
      PartsAgree Node.membersToJson n (more ⟨s, rest⟩) (more' ⟨s, rest ++ [10]⟩)) :
    PartsAgree Node.membersToJson n (memberThen more key r) (memberThen more' key r') := by
  cases h with
  | fail h h' => exact .fail (unread_member h) (unread_member h')
  | same node s rest h =>
    have htail := hmore s rest h
    rw [Json.memberThen, Json.memberThen]
    generalize more ⟨s, rest⟩ = tail at htail ⊢
    generalize more' ⟨s, rest ++ [10]⟩ = tail' at htail ⊢
    cases htail with
    | same members close s rest h => exact .same ((key, node) :: members) close s rest h
    | fail h h' => exact .fail h.members h'.members

theorem ScansAgree.memberOf {read read' : Cursor → Node × Option Cursor}
    {more more' : Cursor → List (Key × Node) × Close × Option Cursor} {scan scan' : Scan String}
    (h : ScansAgree n scan scan')
    (hread : ∀ s rest, rest.length < n → ReadsAgree n (read ⟨s, rest⟩) (read' ⟨s, rest ++ [10]⟩))
    (hmore : ∀ s rest, rest.length < n →
      PartsAgree Node.membersToJson n (more ⟨s, rest⟩) (more' ⟨s, rest ++ [10]⟩)) :
    PartsAgree Node.membersToJson n (memberOf read more scan) (memberOf read' more' scan') := by
  cases h with
  | fail f skip f' skip' after after' => exact .fail (unread_member rfl) (unread_member rfl)
  | same value s rest h =>
    have hcolon := (Cursor.Newlined.more s rest).blanks
    simp only [Json.memberOf, Option.isSome_none, Bool.false_eq_true, ↓reduceIte]
    generalize Cursor.blanks ⟨s, rest⟩ = colon at hcolon ⊢
    generalize Cursor.blanks ⟨s, rest ++ [10]⟩ = colon' at hcolon ⊢
    cases hcolon with
    | done s s' => exact .fail (unread_member rfl) (unread_member rfl)
    | byte s b left hleft =>
      refine rel_ite (fun hb => ?_) fun _ => .fail (unread_member rfl) (unread_member rfl)
      cases eq_of_beq hb
      exact (hread (s.next 58) left (Nat.lt_trans hleft h)).memberThen _ hmore

/-- Reads an item behind a comma and blanks. -/
def itemBehind (item : Cursor → List Node × Close × Option Cursor) (here : Cursor) :
    List Node × Close × Option Cursor := match here.rest with
  | 93 :: _ => ([], .broken (here.peekFault .trailingComma) (here.peekFault .expectedValue), none)
  | _ => item here

/-- Reads a member behind a comma and blanks. -/
def memberBehind (read : Cursor → Node × Option Cursor)
    (more : Cursor → List (Key × Node) × Close × Option Cursor) (here : Cursor) :
    List (Key × Node) × Close × Option Cursor := match here.rest with
  | [] => ([], .broken (here.fault .endInValue) (here.fault .endInObject), none)
  | 34 :: rest => memberOf read more (Cursor.string ⟨here.spot.next 34, rest⟩)
  | 125 :: _ => ([], .broken (here.peekFault .trailingComma) (here.peekFault .keyNotString), none)
  | _ => ([], brokenAt here .keyNotString, none)

theorem Cursor.Facing.itemBehind {item item' : Cursor → List Node × Close × Option Cursor} {here here' : Cursor}
    (h : Facing n here here')
    (hitem : ∀ c c', c.Newlined c' → c.rest.length ≤ n → PartsAgree Node.itemsToJson m (item c) (item' c')) :
    PartsAgree Node.itemsToJson m (itemBehind item here) (itemBehind item' here') := by
  cases h with
  | done s s' => exact hitem _ _ (.done s s') (Nat.zero_le _)
  | byte s b rest hrest =>
    by_cases hclose : b = 93
    · subst hclose
      exact .fail (unread_broken _ _) (unread_broken _ _)
    have hother : ∀ (item : Cursor → List Node × Close × Option Cursor) (rest : Bytes),
        Json.itemBehind item ⟨s, b :: rest⟩ = item ⟨s, b :: rest⟩ := by
      intro item rest
      rw [Json.itemBehind.eq_def]
      split
      · next h => cases h; exact absurd rfl hclose
      · rfl
    rw [hother, hother]
    exact hitem _ _ (.more s (b :: rest)) hrest

theorem Cursor.Facing.memberBehind {read read' : Cursor → Node × Option Cursor}
    {more more' : Cursor → List (Key × Node) × Close × Option Cursor} {here here' : Cursor}
    (h : Facing n here here')
    (hmember : ∀ s rest, rest.length < n → PartsAgree Node.membersToJson m
      (memberOf read more (Cursor.string ⟨s, rest⟩)) (memberOf read' more' (Cursor.string ⟨s, rest ++ [10]⟩))) :
    PartsAgree Node.membersToJson m (memberBehind read more here) (memberBehind read' more' here') := by
  cases h with
  | done s s' => exact .fail (unread_broken _ _) (unread_broken _ _)
  | byte s b rest hrest =>
    by_cases hquote : b = 34
    · subst hquote
      exact hmember (s.next 34) rest hrest
    have hother : ∀ (read : Cursor → Node × Option Cursor)
        (more : Cursor → List (Key × Node) × Close × Option Cursor) (rest : Bytes),
        ∃ f skip, Json.memberBehind read more ⟨s, b :: rest⟩ = ([], .broken f skip, none) := by
      intro read more rest
      rw [Json.memberBehind.eq_def]
      split
      · next h => cases h
      · next h => cases h; exact absurd rfl hquote
      · exact ⟨_, _, rfl⟩
      · exact ⟨_, _, rfl⟩
    obtain ⟨f, skip, h⟩ := hother read more rest
    obtain ⟨f', skip', h'⟩ := hother read' more' (rest ++ [10])
    rw [h, h']
    exact .fail (unread_broken _ _) (unread_broken _ _)

end Parts

/-! ### Readers -/

-- The readers call each other with one unit of fuel less, and a cursor only moves forward. The fuel of
-- either text is therefore a bound on what is left of the first one, and never runs out.

mutual

theorem readValue_newline : ∀ (fuel fuel' level : Nat) {c c' : Cursor}, c.Newlined c' →
    2 * c.rest.length < fuel → 2 * c.rest.length < fuel' →
    ReadsAgree c.rest.length (readValue fuel level c) (readValue fuel' level c')
  | fuel + 1, fuel' + 1, level, c0, c0', h, hfuel, hfuel' => by
    have hfacing := h.blanks
    rw [readValue, readValue]
    simp only
    generalize c0.blanks = c at hfacing ⊢
    generalize c0'.blanks = c' at hfacing ⊢
    generalize c0.rest.length = n at hfuel hfuel' hfacing ⊢
    cases hfacing with
    | done s s' => exact .fail rfl rfl
    | byte s b rest hrest =>
      -- three words, a minus, a digit, a text, a list, an object
      refine rel_ite (fun _ => ((word_newline _ _ (by decide) rest).ofScan _ _).mono hrest) fun _ =>
        rel_ite (fun _ => ((word_newline _ _ (by decide) rest).ofScan _ _).mono hrest) fun _ =>
        rel_ite (fun _ => ((word_newline _ _ (by decide) rest).ofScan _ _).mono hrest) fun _ =>
        rel_ite (fun _ => ((Numeral.read_newline true _ rest).ofScan _ _).mono (Nat.le_of_lt hrest)) fun _ =>
        rel_ite (fun _ => ?_) fun _ =>
        rel_ite (fun _ => ((scanString_newline _ _ rest).ofScan _ _).mono hrest) fun _ =>
        rel_ite (fun _ => ?_) fun _ =>
        rel_ite (fun _ => ?_) fun _ => .fail rfl rfl
      · have hread := Numeral.read_newline false s (b :: rest)
        exact (hread.ofScan _ _).mono hrest
      · have hitems := readItems_newline fuel fuel' (level + 1) true (.more (s.next b) rest)
          (by simp only; omega) (by simp only; omega)
        exact (hitems.array _ _ _).mono (Nat.le_of_lt hrest)
      · have hmembers := readMembers_newline fuel fuel' (level + 1) true (.more (s.next b) rest)
          (by simp only; omega) (by simp only; omega)
        exact (hmembers.object _ _ _).mono (Nat.le_of_lt hrest)
termination_by structural fuel => fuel

theorem readItems_newline : ∀ (fuel fuel' level : Nat) (first : Bool) {c c' : Cursor}, c.Newlined c' →
    2 * c.rest.length + 1 < fuel → 2 * c.rest.length + 1 < fuel' →
    PartsAgree Node.itemsToJson c.rest.length (readItems fuel level first c) (readItems fuel' level first c')
  | fuel + 1, fuel' + 1, level, first, c0, c0', h, hfuel, hfuel' => by
    have hitem : ∀ {c c' : Cursor}, c.Newlined c' → c.rest.length ≤ c0.rest.length →
        PartsAgree Node.itemsToJson c0.rest.length
          (itemThen (readItems fuel level false) (readValue fuel level c))
          (itemThen (readItems fuel' level false) (readValue fuel' level c')) := by
      intro c c' hc hlen
      have hvalue := (readValue_newline fuel fuel' level hc (by omega) (by omega)).mono hlen
      refine hvalue.itemThen fun s rest hrest => ?_
      exact (readItems_newline fuel fuel' level false (.more s rest) (by simp only; omega)
        (by simp only; omega)).mono (Nat.le_of_lt hrest)
    have hfacing := h.blanks
    rw [readItems, readItems]
    simp only
    generalize c0.blanks = c at hfacing ⊢
    generalize c0'.blanks = c' at hfacing ⊢
    generalize c0.rest.length = n at hfuel hfuel' hfacing hitem ⊢
    cases hfacing with
    | done s s' => exact .fail (unread_broken _ _) (unread_broken _ _)
    | byte s b rest hrest =>
      refine rel_ite (fun _ => .same _ _ _ rest hrest) fun _ => rel_ite (fun _ => ?_) fun _ =>
        rel_ite (fun _ => ?_) fun _ => .fail (unread_broken _ _) (unread_broken _ _)
      · exact hitem (.more s (b :: rest)) hrest
      · exact (Cursor.Newlined.more (s.next b) rest).blanks.itemBehind fun c c' hc hlen =>
          hitem hc (Nat.le_trans hlen (Nat.le_of_lt hrest))
termination_by structural fuel => fuel

theorem readMembers_newline : ∀ (fuel fuel' level : Nat) (first : Bool) {c c' : Cursor}, c.Newlined c' →
    2 * c.rest.length + 1 < fuel → 2 * c.rest.length + 1 < fuel' →
    PartsAgree Node.membersToJson c.rest.length (readMembers fuel level first c)
      (readMembers fuel' level first c')
  | fuel + 1, fuel' + 1, level, first, c0, c0', h, hfuel, hfuel' => by
    have hmember : ∀ (s : Spot) (rest : Bytes), rest.length < c0.rest.length →
        PartsAgree Node.membersToJson c0.rest.length
          (memberOf (readValue fuel level) (readMembers fuel level false) (Cursor.string ⟨s, rest⟩))
          (memberOf (readValue fuel' level) (readMembers fuel' level false) (Cursor.string ⟨s, rest ++ [10]⟩)) := by
      intro s rest hlen
      have hkey := (scanString_newline ⟨[], none, none⟩ s rest).mono hlen
      refine hkey.memberOf (fun s rest hrest => ?_) fun s rest hrest => ?_
      · exact (readValue_newline fuel fuel' level (.more s rest) (by simp only; omega)
          (by simp only; omega)).mono (Nat.le_of_lt hrest)
      · exact (readMembers_newline fuel fuel' level false (.more s rest) (by simp only; omega)
          (by simp only; omega)).mono (Nat.le_of_lt hrest)
    have hfacing := h.blanks
    rw [readMembers, readMembers]
    simp only
    generalize c0.blanks = c at hfacing ⊢
    generalize c0'.blanks = c' at hfacing ⊢
    generalize c0.rest.length = n at hfuel hfuel' hfacing hmember ⊢
    cases hfacing with
    | done s s' => exact .fail (unread_broken _ _) (unread_broken _ _)
    | byte s b rest hrest =>
      refine rel_ite (fun _ => .same _ _ _ rest hrest) fun _ => rel_ite (fun _ => rel_ite (fun hb => ?_)
        fun _ => .fail (unread_broken _ _) (unread_broken _ _)) fun _ =>
        rel_ite (fun _ => ?_) fun _ => .fail (unread_broken _ _) (unread_broken _ _)
      · exact hmember (s.next 34) rest hrest
      · exact (Cursor.Newlined.more (s.next b) rest).blanks.memberBehind
          fun s rest' hlen => hmember s rest' (Nat.lt_trans hlen hrest)
termination_by structural fuel => fuel

end

/-! ### Whole texts -/

/-- A newline behind a text changes nothing but the places of faults. -/
theorem parse_newline (text : Bytes) : (parse (text ++ [10])).toOption = (parse text).toOption := by
  have hread := readValue_newline (2 * text.length + 2) (2 * (text ++ [10]).length + 2) 0
    (.more ⟨1, 0⟩ text) (by simp only; omega) (by simp only [List.length_append]; omega)
  rw [parse, parse, Document.ofBytes, Document.ofBytes, Cursor.start, Cursor.start]
  generalize readValue (2 * text.length + 2) 0 ⟨⟨1, 0⟩, text⟩ = r at hread ⊢
  generalize readValue (2 * (text ++ [10]).length + 2) 0 ⟨⟨1, 0⟩, text ++ [10]⟩ = r' at hread ⊢
  have hfail : ∀ (root : Node) (trailing : Option Fault), root.toJson.toOption = none →
      (Document.toJson ⟨root, trailing⟩).toOption = none := by
    intro root trailing h
    cases hroot : root.toJson with
    | ok j => rw [hroot] at h; cases h
    | error f => simp only [Document.toJson, hroot]; rfl
  cases hread with
  | fail h h' => simp only [hfail _ _ h, hfail _ _ h']
  | same root s rest _ =>
    have hbehind := (Cursor.Newlined.more s rest).blanks
    simp only
    generalize Cursor.blanks ⟨s, rest⟩ = c at hbehind ⊢
    generalize Cursor.blanks ⟨s, rest ++ [10]⟩ = c' at hbehind ⊢
    cases hbehind <;> rfl

end Courier.Json
