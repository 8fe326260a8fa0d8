import Courier.Json.Numeral
import Courier.Proofs.Text.Utf8

/-! Numerals are read up to their end.

    A spelling is what a numeral is made of: a sign, whole digits without zeros in front, digits behind a
    point, a signed exponent. Whatever stands behind a numeral, as long as it cannot belong to it, the
    numeral is read to its end, and its number depends on its spelling only (`read_spelling`). -/

namespace Courier.Json.Numeral

open Text (charsBytes)

/-! ### Digits -/

/-- The byte of a digit. -/
def digitByte (d : Nat) : UInt8 := (Nat.digitChar d).toNat.toUInt8

theorem digit?_digitByte : ∀ d < 10, digit? (digitByte d) = some d := by decide

theorem digitChar_ascii : ∀ d < 10, (Nat.digitChar d).toNat < 0x80 := by decide

theorem charsBytes_digits {ds : List Nat} (h : ∀ d ∈ ds, d < 10) :
    charsBytes (ds.map Nat.digitChar) = ds.map digitByte := by
  have hascii : ∀ c ∈ ds.map Nat.digitChar, c.toNat < 0x80 := by
    intro c hc
    obtain ⟨d, hd, rfl⟩ := List.mem_map.mp hc
    exact digitChar_ascii d (h d hd)
  rw [Text.charsBytes_ascii hascii, List.map_map]
  rfl

/-- No digit follows. -/
def EndsDigits (rest : Bytes) : Prop := ∀ b more, rest = b :: more → digit? b = none

theorem digits_append : ∀ {ds : List Nat} (s : Spot) {rest : Bytes}, (∀ d ∈ ds, d < 10) →
    EndsDigits rest → ∃ s', digits s (ds.map digitByte ++ rest) = (ds, ⟨s', rest⟩)
  | [], s, [], _, _ => ⟨s, rfl⟩
  | [], s, b :: more, _, hrest => ⟨s, by simp [digits, hrest b more rfl]⟩
  | d :: ds, s, rest, h, hrest => by
    obtain ⟨s', ih⟩ := digits_append (s.next (digitByte d)) (fun d' hd' => h d' (.tail d hd')) hrest
    refine ⟨s', ?_⟩
    rw [List.map_cons, List.cons_append, digits, digit?_digitByte d (h d List.mem_cons_self)]
    simp only [ih]

/-! ### Spellings -/

/-- What a numeral is made of; the exponent has a sign, `true` for minus. -/
structure Spelling where
  negative : Bool
  whole : List Nat
  fraction : List Nat
  exponent : Option (Bool × List Nat)

/-- Digits are digits, and no zero stands in front of other digits. -/
structure Spelling.Sound (x : Spelling) : Prop where
  whole : ∀ d ∈ x.whole, d < 10
  first : x.whole = [0] ∨ ∃ d ds, x.whole = d :: ds ∧ d ≠ 0
  fraction : ∀ d ∈ x.fraction, d < 10
  exponent : ∀ down ds, x.exponent = some (down, ds) → ds ≠ [] ∧ ∀ d ∈ ds, d < 10

namespace Spelling

/-- The characters of the digits behind the point. -/
def fractionChars (x : Spelling) : List Char :=
  if x.fraction.isEmpty then [] else '.' :: x.fraction.map Nat.digitChar

/-- The characters of the exponent. -/
def exponentChars (x : Spelling) : List Char := x.exponent.elim [] fun e =>
  'e' :: (if e.1 then '-' else '+') :: e.2.map Nat.digitChar

/-- The characters behind the sign. -/
def unsigned (x : Spelling) : List Char := x.whole.map Nat.digitChar ++ x.fractionChars ++ x.exponentChars

/-- The characters of a numeral. -/
def chars (x : Spelling) : List Char := (if x.negative then ['-'] else []) ++ x.unsigned

/-- The parts that are read, the exponent's digits starting at a place. -/
def parts (x : Spelling) (s : Spot) : Parts :=
  ⟨x.negative, x.whole, x.fraction, x.exponent.map fun e => (e.1, s, e.2)⟩

/-- The number that is spelled, if it is one. -/
def number? (x : Spelling) : Option Number := Numeral.number? x.negative x.whole x.fraction x.exponent

/-- Places matter only to failures. -/
theorem value_toOption (x : Spelling) (s stop : Spot) : ((x.parts s).value stop).toOption = x.number? := by
  have hexponent : (x.parts s).exponent.map (fun e => (e.1, e.2.2)) = x.exponent := by
    rw [parts, Option.map_map]
    exact Option.map_id'
  have hnumber : Numeral.number? (x.parts s).negative (x.parts s).whole (x.parts s).fraction
      ((x.parts s).exponent.map fun e => (e.1, e.2.2)) = x.number? := by
    rw [hexponent]
    rfl
  rw [Parts.value, hnumber]
  cases x.number? <;> rfl

end Spelling

/-! ### Reading -/

/-- Nothing follows that could belong to a numeral. -/
def Ends (rest : Bytes) : Prop :=
  ∀ b more, rest = b :: more → digit? b = none ∧ b ≠ 46 ∧ isExponentMark b = false

theorem Ends.endsDigits {rest : Bytes} (h : Ends rest) : EndsDigits rest :=
  fun b more hrest => (h b more hrest).1

variable {x : Spelling} {rest : Bytes}

theorem readTail_none (hrest : Ends rest) (p : Parts) (s : Spot) :
    readTail p ⟨s, rest⟩ = ⟨p.value s, none, ⟨s, rest⟩⟩ := by
  cases rest with
  | nil => rfl
  | cons b more =>
    obtain ⟨-, -, hmark⟩ := hrest b more rfl
    simp [readTail, hmark]

/-- The digits of an exponent, behind its sign. -/
theorem readExponent_digits (down : Bool) {ds : List Nat} (hne : ds ≠ []) (hds : ∀ d ∈ ds, d < 10)
    (hrest : Ends rest) (p : Parts) (s : Spot) : ∃ stop here,
      readExponent p ⟨s, (if down then 45 else 43) :: (ds.map digitByte ++ rest)⟩
        = ⟨{ p with exponent := some (down, here, ds) }.value stop, none, ⟨stop, rest⟩⟩ := by
  have hsigned : ∀ here, ∃ stop, digits here (ds.map digitByte ++ rest) = (ds, ⟨stop, rest⟩) :=
    fun here => digits_append here hds hrest.endsDigits
  obtain ⟨d, ds', rfl⟩ := List.exists_cons_of_ne_nil hne
  have hd := digit?_digitByte d (hds d List.mem_cons_self)
  cases down with
  | true =>
    obtain ⟨stop, hstop⟩ := hsigned (s.next 45)
    rw [List.map_cons, List.cons_append] at hstop
    refine ⟨stop, s.next 45, ?_⟩
    simp [readExponent, hd, hstop]
  | false =>
    obtain ⟨stop, hstop⟩ := hsigned (s.next 43)
    rw [List.map_cons, List.cons_append] at hstop
    refine ⟨stop, s.next 43, ?_⟩
    simp [readExponent, hd, hstop]

/-- An exponent, if there is one. -/
theorem readTail_spelling (hx : x.Sound) (hrest : Ends rest) (s : Spot) : ∃ stop here,
    readTail ⟨x.negative, x.whole, x.fraction, none⟩ ⟨s, charsBytes x.exponentChars ++ rest⟩
      = ⟨(x.parts here).value stop, none, ⟨stop, rest⟩⟩ := by
  rcases x with ⟨negative, whole, fraction, _ | ⟨down, ds⟩⟩
  · exact ⟨s, s, readTail_none hrest _ s⟩
  · obtain ⟨hne, hds⟩ := hx.exponent down ds rfl
    obtain ⟨stop, here, hread⟩ := readExponent_digits down hne hds hrest
      ⟨negative, whole, fraction, none⟩ (s.next 101)
    refine ⟨stop, here, ?_⟩
    have hbytes : charsBytes (Spelling.exponentChars ⟨negative, whole, fraction, some (down, ds)⟩) ++ rest
        = 101 :: (if down then 45 else 43) :: (ds.map digitByte ++ rest) := by
      have hdigits := charsBytes_digits hds
      cases down <;> simp only [Spelling.exponentChars, Option.elim_some, Text.charsBytes_cons, hdigits] <;> rfl
    rw [hbytes, readTail]
    simp only [isExponentMark]
    exact hread

theorem exponentChars_head (hrest : Ends rest) (b : UInt8) (more : Bytes)
    (h : charsBytes x.exponentChars ++ rest = b :: more) : digit? b = none ∧ b ≠ 46 := by
  rcases x with ⟨negative, whole, fraction, _ | ⟨down, ds⟩⟩
  · obtain ⟨hdigit, hpoint, -⟩ := hrest b more h
    exact ⟨hdigit, hpoint⟩
  · have hmark : charsBytes (Spelling.exponentChars ⟨negative, whole, fraction, some (down, ds)⟩) ++ rest
        = 101 :: (charsBytes ((if down then '-' else '+') :: ds.map Nat.digitChar) ++ rest) := rfl
    rw [hmark] at h
    cases h
    decide

theorem fractionChars_head (hrest : Ends rest) (b : UInt8) (more : Bytes)
    (h : charsBytes (x.fractionChars ++ x.exponentChars) ++ rest = b :: more) : digit? b = none := by
  rw [Spelling.fractionChars] at h
  split at h
  · exact (exponentChars_head hrest b more h).1
  · have hpoint : charsBytes ('.' :: x.fraction.map Nat.digitChar ++ x.exponentChars) ++ rest
        = 46 :: (charsBytes (x.fraction.map Nat.digitChar ++ x.exponentChars) ++ rest) := rfl
    rw [hpoint] at h
    cases h
    decide

/-- Point and exponent, if they are there. -/
theorem readFraction_spelling (hx : x.Sound) (hrest : Ends rest) (s : Spot) : ∃ stop here,
    readFraction ⟨x.negative, x.whole, [], none⟩
        ⟨s, charsBytes (x.fractionChars ++ x.exponentChars) ++ rest⟩
      = ⟨(x.parts here).value stop, none, ⟨stop, rest⟩⟩ := by
  have hhead := exponentChars_head (x := x) hrest
  cases hf : x.fraction with
  | nil =>
    obtain ⟨stop, here, htail⟩ := readTail_spelling hx hrest s
    refine ⟨stop, here, ?_⟩
    rw [hf] at htail
    have hnone : x.fractionChars = [] := by rw [Spelling.fractionChars, hf]; rfl
    rw [hnone, List.nil_append, readFraction.eq_def]
    split
    · next h => exact absurd rfl (hhead 46 _ h).2
    · exact htail
  | cons d ds =>
    have hpoint : charsBytes (x.fractionChars ++ x.exponentChars) ++ rest
        = 46 :: (x.fraction.map digitByte ++ (charsBytes x.exponentChars ++ rest)) := by
      have hchars : x.fractionChars = '.' :: x.fraction.map Nat.digitChar := by
        rw [Spelling.fractionChars, hf]; rfl
      rw [hchars, Text.charsBytes_append, Text.charsBytes_cons, charsBytes_digits hx.fraction,
        List.append_assoc]
      rfl
    obtain ⟨s', hdigits⟩ := digits_append (s.next 46) hx.fraction fun b more h => (hhead b more h).1
    obtain ⟨stop, here, htail⟩ := readTail_spelling hx hrest s'
    refine ⟨stop, here, ?_⟩
    have hsome : x.fraction.isEmpty = false := by rw [hf]; rfl
    rw [hpoint, readFraction]
    simp only [hdigits, hsome, Bool.false_eq_true, ↓reduceIte]
    exact htail

/-- A numeral behind its sign. -/
theorem read_spelling (hx : x.Sound) (hrest : Ends rest) (s : Spot) : ∃ value stop,
    read x.negative ⟨s, charsBytes x.unsigned ++ rest⟩ = ⟨value, none, ⟨stop, rest⟩⟩ ∧
      value.toOption = x.number? := by
  have hhead := fractionChars_head (x := x) hrest
  have hbytes : charsBytes x.unsigned ++ rest
      = x.whole.map digitByte ++ (charsBytes (x.fractionChars ++ x.exponentChars) ++ rest) := by
    rw [Spelling.unsigned, List.append_assoc, Text.charsBytes_append, charsBytes_digits hx.whole,
      List.append_assoc]
  rw [hbytes]
  generalize htail : charsBytes (x.fractionChars ++ x.exponentChars) ++ rest = tail at *
  rcases hx.first with hzero | ⟨d, ds, hcons, hne⟩
  · obtain ⟨stop, here, hread⟩ := readFraction_spelling hx hrest (s.next 48)
    rw [htail, hzero] at hread
    refine ⟨_, stop, ?_, x.value_toOption here stop⟩
    rw [hzero]
    cases tail with
    | nil => exact hread
    | cons b more =>
      have hb := hhead b more rfl
      have hstep : read x.negative ⟨s, [0].map digitByte ++ b :: more⟩
          = if (digit? b).isSome then .stop (Cursor.peekFault ⟨s.next 48, b :: more⟩ .invalidNumber)
              ⟨s.next 48, b :: more⟩
            else readFraction ⟨x.negative, [0], [], none⟩ ⟨s.next 48, b :: more⟩ := rfl
      rw [hstep, hb]
      exact hread
  · obtain ⟨s', hdigits⟩ := digits_append s hx.whole hhead
    obtain ⟨stop, here, hread⟩ := readFraction_spelling hx hrest s'
    rw [htail] at hread
    refine ⟨_, stop, ?_, x.value_toOption here stop⟩
    have hd := digit?_digitByte d (hx.whole d (hcons ▸ List.mem_cons_self))
    rw [hcons] at hdigits hread ⊢
    rw [List.map_cons, List.cons_append] at hdigits ⊢
    rw [read]
    simp only [hd, hdigits]
    exact hread

end Courier.Json.Numeral
