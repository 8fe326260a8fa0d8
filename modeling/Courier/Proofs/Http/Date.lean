import Courier.Http.Date
import Mathlib.Algebra.Order.BigOperators.Group.List
import Mathlib.Data.List.Induction
import Mathlib.Data.Nat.Digits.Defs

/-! Numbers and dates of header fields.

    Digits are read as the number they denote. A date begins with the name of a weekday, so it is neither a
    number nor has it a sign; and it is not so far away that its seconds would exceed 64 bits. -/

namespace Courier.Http

/-! ### Numbers -/

/-- One or more decimal digits, and the number they denote. -/
def IsNumeral (cs : List Char) (n : Nat) : Prop :=
  cs ≠ [] ∧ (∀ c ∈ cs, c.isDigit) ∧ n = Nat.ofDigits 10 (cs.reverse.map fun c => c.toNat - 48)

namespace Date

theorem number?_concat (cs : List Char) (c : Char) :
    number? (cs ++ [c]) = (number? cs).bind fun n => (digit? c).map (n * 10 + ·) := by
  have hlast : ∀ n, [c].foldlM (fun n c => (digit? c).map (n * 10 + ·)) n = (digit? c).map (n * 10 + ·) :=
    fun n => bind_pure _
  rw [number?, List.foldlM_append]
  exact congrArg (number? cs).bind (funext hlast)

theorem number?_eq_some_iff {cs : List Char} {n : Nat} : number? cs = some n ↔
    (∀ c ∈ cs, c.isDigit) ∧ n = Nat.ofDigits 10 (cs.reverse.map fun c => c.toNat - 48) := by
  induction cs using List.reverseRecOn generalizing n with
  | nil => exact ⟨fun h => ⟨nofun, (Option.some.inj h).symm⟩, fun h => congrArg some h.2.symm⟩
  | append_singleton cs c ih =>
    rw [number?_concat, Option.bind_eq_some_iff, List.forall_mem_append, List.forall_mem_singleton,
      List.reverse_append, List.reverse_singleton, List.singleton_append, List.map_cons, Nat.ofDigits_cons]
    simp only [ih, digit?]
    constructor
    · rintro ⟨m, ⟨hall, rfl⟩, hn⟩
      split at hn
      · next hc =>
        simp only [Option.map_some, Option.some.injEq] at hn
        exact ⟨⟨hall, hc⟩, by rw [← hn]; omega⟩
      · cases hn
    · rintro ⟨⟨hall, hc⟩, rfl⟩
      refine ⟨_, ⟨hall, rfl⟩, ?_⟩
      rw [if_pos hc, Option.map_some]
      exact congrArg some (by omega)

/-! ### Dates -/

/-- Whether the text begins with the first letter of a weekday. -/
def hasInitial (cs : List Char) : Bool := cs.head?.any ['M', 'T', 'W', 'F', 'S'].contains

theorem place?_mem {names : List (List Char)} {name : List Char} {k : Nat} (h : place? names name = some k) :
    name ∈ names := by
  rw [place?, Option.map_eq_some_iff] at h
  obtain ⟨i, hi, -⟩ := h
  obtain ⟨hlt, hname, -⟩ := List.findIdx?_eq_some_iff_getElem.mp hi
  exact (eq_of_beq hname) ▸ List.getElem_mem hlt

theorem initial_of_shortWeekday {cs : List Char} {k : Nat} (h : shortWeekday? (slice cs 0 3) = some k) :
    hasInitial cs := by
  have hnames : ∀ name ∈ weekdays.map (·.take 3), hasInitial name := by decide
  have hname := hnames _ (place?_mem h)
  cases cs with
  | nil => cases hname
  | cons c cs => exact hname

theorem initial_of_fixed {cs : List Char} {d : Date} (h : fixed? cs = some d) : hasInitial cs := by
  cases hday : shortWeekday? (slice cs 0 3) with
  | some k => exact initial_of_shortWeekday hday
  | none => simp [fixed?, hday] at h

theorem initial_of_spaced {cs : List Char} {d : Date} (h : spaced? cs = some d) : hasInitial cs := by
  cases hday : shortWeekday? (slice cs 0 3) with
  | some k => exact initial_of_shortWeekday hday
  | none => simp [spaced?, hday] at h

theorem initial_of_dashed {cs : List Char} {d : Date} (h : dashed? cs = some d) : hasInitial cs := by
  cases hday : fullWeekday? cs with
  | none => simp [dashed?, hday] at h
  | some w =>
    rw [fullWeekday?, Option.map_eq_some_iff] at hday
    obtain ⟨⟨name, k⟩, hfound, -⟩ := hday
    have hnames : ∀ w ∈ weekdays.zipIdx, hasInitial w.1 := by decide
    have hname : hasInitial name := hnames _ (List.mem_of_find?_eq_some hfound)
    have hprefix := List.find?_some hfound
    obtain ⟨rest, rfl⟩ : name ++ [',', ' '] <+: cs := List.isPrefixOf_iff_prefix.mp hprefix
    cases name with
    | nil => cases hname
    | cons c name => exact hname

/-- In each of its forms a date begins with a weekday. -/
theorem initial_of_ofText {cs : List Char} {d : Date} (h : ofText? (String.ofList cs) = some d) :
    hasInitial cs := by
  simp only [ofText?, String.toList_ofList] at h
  cases hfixed : fixed? cs with
  | some d' => exact initial_of_fixed hfixed
  | none =>
    cases hdashed : dashed? cs with
    | some d' => exact initial_of_dashed hdashed
    | none =>
      cases hspaced : spaced? cs with
      | some d' => exact initial_of_spaced hspaced
      | none => simp [hfixed, hdashed, hspaced] at h

theorem isReal_of_ofText {s : String} {d : Date} (h : ofText? s = some d) : d.isReal := by
  rw [ofText?] at h
  split at h
  · cases h
  · obtain ⟨d', -, hd⟩ := Option.bind_eq_some_iff.mp h
    rw [Option.ite_none_right_eq_some] at hd
    obtain ⟨hreal, hd⟩ := hd
    cases hd
    exact hreal

/-- A date is no number. -/
theorem not_isNumeral_of_ofText {cs : List Char} {d : Date} (h : ofText? (String.ofList cs) = some d) (n : Nat) :
    ¬ IsNumeral cs n := by
  rintro ⟨-, hall, -⟩
  have hinitial := initial_of_ofText h
  cases cs with
  | nil => cases hinitial
  | cons c cs =>
    have hletters : ['M', 'T', 'W', 'F', 'S'].all (!·.isDigit) = true := by decide
    have hletter := List.all_eq_true.mp hletters c (List.contains_iff_mem.mp hinitial)
    rw [hall c (.head _)] at hletter
    cases hletter

theorem monthLengths_le (year : Nat) : ∀ n ∈ monthLengths year, n ≤ 31 := by
  rw [monthLengths]
  split <;> decide

/-- The days of a year's months, up to some month. -/
theorem sum_monthLengths_le (year k : Nat) : ((monthLengths year).take k).foldl (· + ·) 0 ≤ 366 := by
  have hsum : (monthLengths year).sum ≤ 366 := by
    rw [monthLengths]
    split <;> decide
  rw [← List.sum_eq_foldl]
  exact ((List.take_sublist k _).sum_le_sum fun _ _ => Nat.zero_le _).trans hsum

theorem seconds_lt {d : Date} (h : d.isReal) : d.seconds < 2 ^ 64 := by
  simp only [isReal, Bool.and_eq_true, decide_eq_true_eq] at h
  obtain ⟨⟨⟨⟨⟨⟨⟨hsecond, hminute⟩, hhour⟩, -⟩, hyear⟩, -⟩, hday⟩, -⟩ := h
  have hmonths := sum_monthLengths_le d.year (d.month - 1)
  have hlength : ((monthLengths d.year)[d.month - 1]?).getD 0 ≤ 31 := by
    cases hmonth : (monthLengths d.year)[d.month - 1]? with
    | none => exact Nat.zero_le _
    | some n => exact monthLengths_le d.year n (List.mem_of_getElem? hmonth)
  have hdays : d.days ≤ 9999 * 366 + 366 + 366 := by
    simp only [days, daysToYear]
    omega
  simp only [seconds]
  omega

end Date
end Courier.Http
