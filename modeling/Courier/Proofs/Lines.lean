import Courier.Proofs.Codec
import Courier.Proofs.Json.Newline
import Courier.Proofs.Stream
import Mathlib.Data.List.Forall2

/-! Lines of values that arrive in chunks.

    However bytes are cut into chunks, the lines that are decoded as they arrive are the lines of all the
    bytes, each with its newline but for the last (`decodeLines_gives`). A newline at the end of a line
    changes nothing, so the values are those of the bytes as a whole, up to the first line that is no
    value (`lines_decoded`). -/

namespace Courier.Codec

variable {W : Type}

/-- All lines: those that are complete, and what is left. -/
def linesOf (bs : Bytes) : List Bytes := (cutLines bs).1 ++ [(cutLines bs).2]

/-- The items of lines that are decoded one by one, and `more` behind them: blank lines are passed, and
    nothing follows a line that is no value. -/
def lineItems (more : List (Except Failure Json)) : List Bytes → List (Except Failure Json)
  | [] => more
  | l :: ls =>
    if isBlank l then lineItems more ls
    else match decodeText l with
      | .ok j => .ok j :: lineItems more ls
      | .error e => [.error e]

/-! ### Lines that are cut -/

theorem linesOf_newline (bs : Bytes) : linesOf (10 :: bs) = [10] :: linesOf bs := rfl

theorem cutLines_cons {b : UInt8} (hb : b ≠ 10) (bs : Bytes) : cutLines (b :: bs) = match (cutLines bs).1 with
    | [] => ([], b :: (cutLines bs).2)
    | l :: ls => ((b :: l) :: ls, (cutLines bs).2) := by
  have hne : (b == 10) = false := beq_false_of_ne hb
  rw [cutLines, hne]
  rfl

theorem linesOf_cons {b : UInt8} (hb : b ≠ 10) (bs : Bytes) :
    linesOf (b :: bs) = (linesOf bs).modifyHead (b :: ·) := by
  rw [linesOf, linesOf, cutLines_cons hb]
  cases (cutLines bs).1 <;> rfl

/-- Bytes that arrive later make lines with what is left of those before. -/
theorem linesOf_append (bs more : Bytes) :
    linesOf (bs ++ more) = (cutLines bs).1 ++ linesOf ((cutLines bs).2 ++ more) := by
  induction bs with
  | nil => rfl
  | cons b bs ih =>
    by_cases hb : b = 10
    · subst hb
      rw [List.cons_append, linesOf_newline, ih]
      rfl
    · rw [List.cons_append, linesOf_cons hb, ih, cutLines_cons hb]
      cases (cutLines bs).1 with
      | nil => exact (linesOf_cons hb _).symm
      | cons l ls => rfl

/-- No line is complete in what is left. -/
theorem cutLines_left (bs : Bytes) : cutLines (cutLines bs).2 = ([], (cutLines bs).2) := by
  induction bs with
  | nil => rfl
  | cons b bs ih =>
    by_cases hb : b = 10
    · subst hb
      exact ih
    · rw [cutLines_cons hb]
      cases (cutLines bs).1 with
      | nil => rw [cutLines_cons hb, ih]
      | cons l ls => exact ih

/-! ### Lines that are decoded -/

theorem lineItems_append (more : List (Except Failure Json)) (ls ls' : List Bytes) :
    lineItems more (ls ++ ls') = lineItems (lineItems more ls') ls := by
  induction ls with
  | nil => rfl
  | cons l ls ih =>
    rw [List.cons_append, lineItems, lineItems, ih]

theorem emitLines_gives {next : Stream W (Except Failure Json)} {more : List (Except Failure Json)}
    (h : next.Gives more) (ls : List Bytes) : (emitLines next ls).Gives (lineItems more ls) := by
  induction ls with
  | nil => exact h
  | cons l ls ih =>
    rw [emitLines, lineItems]
    split
    · exact ih
    · intro w
      cases decodeText l with
      | ok j => exact ⟨_, rfl, ih⟩
      | error e => exact ⟨[], rfl, fun _ => rfl⟩

/-- Lines of which `buffer` has arrived are decoded as the lines of all bytes. -/
theorem linesFrom_gives : ∀ {s : Step W (Except Failure Bytes)} {data buffer : Bytes}, s.Carries data →
    cutLines buffer = ([], buffer) → (linesFrom buffer s).Gives (lineItems [] (linesOf (buffer ++ data)))
  -- the buffer is the last line, the only one that may lack its newline
  | .done w, _, buffer, rfl, hbuffer => by
    rw [List.append_nil, linesOf, hbuffer, linesFrom, List.nil_append, lineItems, lineItems]
    split
    · rfl
    · cases decodeText buffer <;> exact ⟨[], rfl, fun _ => rfl⟩
  | .item w (.ok chunk) more, _, buffer, ⟨rest, rfl, hmore⟩, hbuffer => by
    rw [← List.append_assoc, linesOf_append, lineItems_append, linesFrom]
    exact emitLines_gives (fun w' => linesFrom_gives (hmore w') (cutLines_left _)) _ w

/-- However the bytes are cut into chunks, their lines are decoded one by one. -/
theorem decodeLines_gives {chunks : Stream W (Except Failure Bytes)} {data : Bytes} (h : chunks.Carries data) :
    (decodeLines chunks).Gives (lineItems [] (linesOf data)) := fun w => linesFrom_gives (h w) rfl

/-! ### Lines and pieces -/

/-- The pieces between newlines are the lines, some of them without their newline. -/
theorem linesOf_pieces (bs : Bytes) :
    List.Forall₂ (fun l piece => l = piece ∨ l = piece ++ [10]) (linesOf bs) (bs.splitOn 10) := by
  induction bs with
  | nil => exact .cons (.inl rfl) .nil
  | cons b bs ih =>
    rw [List.splitOn_cons_eq_if_modifyHead]
    by_cases hb : b = 10
    · subst hb
      exact .cons (.inr rfl) ih
    · rw [linesOf_cons hb, if_neg (by simpa using hb)]
      generalize linesOf bs = ls at ih ⊢
      generalize bs.splitOn 10 = pieces at ih ⊢
      cases ih with
      | nil => exact .nil
      | cons hl hls =>
        refine .cons (hl.imp ?_ ?_) hls <;> rintro rfl <;> rfl

theorem isBlank_newline (bs : Bytes) : isBlank (bs ++ [10]) = isBlank bs := by
  rw [isBlank, isBlank, List.all_append]
  exact Bool.and_true _

theorem decodeText_newline (bs : Bytes) : (decodeText (bs ++ [10])).toOption = (decodeText bs).toOption := by
  rw [decodeText_toOption, decodeText_toOption, Json.parse_newline]

/-- A text that is refused is malformed. -/
theorem decodeText_error {bs : Bytes} {e : Failure} (h : decodeText bs = .error e) : ∃ m, e = .decode m := by
  rw [decodeText] at h
  split at h
  · cases h
  · cases h
    exact ⟨_, rfl⟩

/-- Whether a text is a value does not depend on its newline. -/
theorem decodeText_line {l piece : Bytes} (h : l = piece ∨ l = piece ++ [10]) :
    isBlank l = isBlank piece ∧ ((∃ j, decodeText l = .ok j ∧ decodeText piece = .ok j) ∨
      ∃ m m', decodeText l = .error (.decode m) ∧ decodeText piece = .error (.decode m')) := by
  have hvalue : (decodeText l).toOption = (decodeText piece).toOption := by
    rcases h with rfl | rfl
    · rfl
    · exact decodeText_newline piece
  refine ⟨?_, ?_⟩
  · rcases h with rfl | rfl
    · rfl
    · exact isBlank_newline piece
  cases hl : decodeText l with
  | ok j => cases hp : decodeText piece with
    | ok j' =>
      rw [hl, hp] at hvalue
      cases hvalue
      exact .inl ⟨j, rfl, rfl⟩
    | error e =>
      rw [hl, hp] at hvalue
      cases hvalue
  | error e => cases hp : decodeText piece with
    | ok j' =>
      rw [hl, hp] at hvalue
      cases hvalue
    | error e' =>
      obtain ⟨m, rfl⟩ := decodeText_error hl
      obtain ⟨m', rfl⟩ := decodeText_error hp
      exact .inr ⟨m, m', rfl, rfl⟩

/-- The first piece that is neither blank nor a value: the elements of those before it, and what is wrong
    with it. -/
def BreaksAt (pieces : List Bytes) (before : List Json) (message : String) : Prop :=
  ∃ good bad rest, pieces.filter (fun piece => !isBlank piece) = good ++ bad :: rest ∧
    good.map decodeText = before.map .ok ∧ decodeText bad = .error (.decode message)

/-- Lines decoded one by one, and the same pieces decoded all at once: the same elements, or the elements
    of the pieces before the first malformed one and a failure, in place of a failure alone. -/
theorem lines_decoded {ls pieces : List Bytes}
    (h : List.Forall₂ (fun l piece => l = piece ∨ l = piece ++ [10]) ls pieces) :
    (∃ js, lineItems [] ls = js.map .ok ∧ decodeEach pieces = .ok js) ∨
      ∃ js m m', BreaksAt pieces js m' ∧ lineItems [] ls = js.map .ok ++ [.error (.decode m)] ∧
        decodeEach pieces = .error (.decode m') := by
  induction h with
  | nil => exact .inl ⟨[], rfl, rfl⟩
  | @cons l piece ls pieces hl hls ih =>
    obtain ⟨hblank, hvalue⟩ := decodeText_line hl
    rw [lineItems, decodeEach, hblank]
    cases hpiece : isBlank piece with
    | true =>
      simp only [BreaksAt, List.filter_cons, hpiece, Bool.not_true, Bool.false_eq_true, ↓reduceIte]
      exact ih
    | false =>
      simp only [BreaksAt, List.filter_cons, hpiece, Bool.not_false, Bool.false_eq_true, ↓reduceIte]
      rcases hvalue with ⟨j, hl, hp⟩ | ⟨m, m', hl, hp⟩
      · rw [hl, hp]
        rcases ih with ⟨js, hitems, heach⟩ | ⟨js, m, m', ⟨good, bad, rest, hgood, hjs, hbad⟩, hitems, heach⟩
        · refine .inl ⟨j :: js, ?_, ?_⟩
          · rw [hitems]; rfl
          · rw [heach]; rfl
        · refine .inr ⟨j :: js, m, m', ⟨piece :: good, bad, rest, ?_, ?_, hbad⟩, ?_, ?_⟩
          · rw [hgood]; rfl
          · rw [List.map_cons, hp, hjs]; rfl
          · rw [hitems]; rfl
          · rw [heach]; rfl
      · rw [hl, hp]
        exact .inr ⟨[], m, m', ⟨[], piece, _, rfl, rfl, hp⟩, rfl, rfl⟩

end Courier.Codec
