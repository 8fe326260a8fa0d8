import Courier.Proofs.Retry.Call

/-! What a call has gone through.

    The marks of a call tell its attempts in their order: those that failed and were tried again, each
    with its failure, and the last one with what became of it (`path_history`). A failure is tried again
    under the number it has among the failures of the call, before the first element and after it. -/

namespace Courier.Retry

variable {W : Type}

/-- What was had of an attempt that was answered. -/
structure Part where
  status : Nat
  headers : Http.Headers
  elements : List Json

/-- An attempt that failed; `part` is missing if it was never answered. -/
structure Trial where
  part : Option Part
  failure : Failure

/-- What became of the last attempt. A policy may put a failure of its own in place of the last one, or end
    with the last one when it has no answer left; it may wait for good when it is asked, and the attempt may
    never go on. -/
inductive Ending where
  | reading (part : Part)
  | finished (part : Part)
  | failed (trial : Trial) (answer : Option Failure)
  | unanswered (trial : Trial)
  | stalled (part : Option Part)

/-- The attempts of a call. -/
structure History where
  trials : List Trial
  ending : Ending

/-! ### Marks -/

/-- The marks of an attempt that was answered. -/
def Part.marks (p : Part) : List Mark := .sent :: .arrived p.status p.headers :: p.elements.map .delivered

/-- The marks of an attempt that failed. -/
def Trial.marks (t : Trial) : List Mark := t.part.elim [.sent] Part.marks ++ [.failed t.failure]

/-- The marks of attempts that were tried again, `n` being the number of the first retry. -/
def retried : Nat → List Trial → List Mark
  | _, [] => []
  | n, t :: ts => t.marks ++ .granted n t.failure :: retried (n + 1) ts

/-- The marks of the last attempt. -/
def Ending.marks : Ending → List Mark
  | .reading p => p.marks
  | .finished p => p.marks ++ [.finished]
  | .failed t answer => t.marks ++ [answer.elim .closed .declined]
  | .unanswered t => t.marks
  | .stalled p => p.elim [.sent] Part.marks ++ [.stalled]

/-- The marks of a call. -/
def History.marks (h : History) : List Mark := retried 1 h.trials ++ h.ending.marks

/-! ### What the caller has of it -/

/-- The elements of an attempt that failed. -/
def Trial.elements (t : Trial) : List Json := t.part.elim [] Part.elements

/-- The elements of the last attempt. -/
def Ending.elements : Ending → List Json
  | .reading p => p.elements
  | .finished p => p.elements
  | .failed t _ => t.elements
  | .unanswered t => t.elements
  | .stalled p => p.elim [] Part.elements

/-- The elements of all attempts. -/
def History.elements (h : History) : List Json := h.trials.flatMap Trial.elements ++ h.ending.elements

/-- Status and headers of a body that starts with an element. -/
def Part.opened (p : Part) : Option (Nat × Http.Headers) :=
  if p.elements.isEmpty then none else some (p.status, p.headers)

/-- Status and headers of the last attempt, if its body starts with an element or is empty. -/
def Ending.opened : Ending → Option (Nat × Http.Headers)
  | .reading p => p.opened
  | .finished p => some (p.status, p.headers)
  | .failed t _ => t.part.bind Part.opened
  | .unanswered t => t.part.bind Part.opened
  | .stalled p => p.bind Part.opened

/-- Status and headers of the first attempt whose body starts with an element or is empty. -/
def History.opened (h : History) : Option (Nat × Http.Headers) :=
  (h.trials.findSome? fun t => t.part.bind Part.opened).or h.ending.opened

/-- The failure of the call. -/
def Ending.verdict : Ending → Option Failure
  | .failed t answer => some (answer.getD t.failure)
  | _ => none

/-- Whether nothing more can happen. -/
def Ending.over : Ending → Prop
  | .reading _ => False
  | _ => True

/-- Whether nothing will ever come of the call. -/
def Ending.waits : Ending → Bool
  | .unanswered _ => true
  | .stalled _ => true
  | _ => false

/-! ### Marks of a history -/

theorem retried_concat (t : Trial) (n : Nat) (ts : List Trial) :
    retried n (ts ++ [t]) = retried n ts ++ (t.marks ++ [.granted (n + ts.length) t.failure]) := by
  induction ts generalizing n with
  | nil => rfl
  | cons t' ts ih =>
    have hn : n + 1 + ts.length = n + (ts.length + 1) := by omega
    simp [retried, ih, hn]

theorem Part.elements_marks (p : Part) : Retry.elements p.marks = p.elements := by
  have hmap : (p.elements.map Mark.delivered).filterMap Mark.element? = p.elements := by
    rw [List.filterMap_map]
    exact List.filterMap_some
  exact hmap

theorem Trial.elements_marks (t : Trial) : Retry.elements t.marks = t.elements := by
  rcases t with ⟨_ | p, e⟩
  · rfl
  · have hfailed : Retry.elements [.failed e] = [] := rfl
    rw [marks, elements_append, hfailed, List.append_nil]
    exact p.elements_marks

theorem elements_retried (n : Nat) (ts : List Trial) :
    elements (retried n ts) = ts.flatMap Trial.elements := by
  induction ts generalizing n with
  | nil => rfl
  | cons t ts ih =>
    have hgranted : elements (.granted n t.failure :: retried (n + 1) ts) = elements (retried (n + 1) ts) := rfl
    rw [retried, elements_append, t.elements_marks, hgranted, ih, List.flatMap_cons]

theorem Ending.elements_marks : ∀ x : Ending, Retry.elements x.marks = x.elements
  | .reading p => p.elements_marks
  | .finished p => by rw [marks, elements_append, p.elements_marks]; exact List.append_nil _
  | .failed t answer => by
    have hanswer : Retry.elements [answer.elim .closed .declined] = [] := by cases answer <;> rfl
    rw [marks, elements_append, t.elements_marks, hanswer, List.append_nil]
    rfl
  | .unanswered t => t.elements_marks
  | .stalled none => rfl
  | .stalled (some p) => by
    rw [marks, elements_append, Option.elim_some, p.elements_marks]
    exact List.append_nil _

theorem History.elements_marks (h : History) : Retry.elements h.marks = h.elements := by
  rw [marks, elements_append, elements_retried, h.ending.elements_marks]
  rfl

theorem Part.handedOut_marks (p : Part) (last : Option (Nat × Http.Headers)) (rest : List Mark) :
    handedOut last (p.marks ++ rest) = p.opened.or (handedOut (some (p.status, p.headers)) rest) := by
  rcases p with ⟨status, headers, _ | ⟨j, js⟩⟩ <;> rfl

theorem Trial.handedOut_marks (t : Trial) (last : Option (Nat × Http.Headers)) (rest : List Mark) :
    ∃ last', handedOut last (t.marks ++ rest) = (t.part.bind Part.opened).or (handedOut last' rest) := by
  rcases t with ⟨_ | p, e⟩
  · exact ⟨last, rfl⟩
  · refine ⟨some (p.status, p.headers), ?_⟩
    rw [marks, List.append_assoc]
    exact p.handedOut_marks last _

theorem Ending.handedOut_marks (last : Option (Nat × Http.Headers)) :
    ∀ x : Ending, handedOut last x.marks = x.opened
  | .reading p => by
    have hp := p.handedOut_marks last []
    rw [List.append_nil] at hp
    rw [marks, hp]
    exact Option.or_none
  | .finished p => by
    rw [marks, p.handedOut_marks, opened, Part.opened]
    split <;> rfl
  | .failed t answer => by
    obtain ⟨last', ht⟩ := t.handedOut_marks last [answer.elim .closed .declined]
    have hanswer : handedOut last' [answer.elim .closed .declined] = none := by cases answer <;> rfl
    rw [marks, ht, hanswer]
    exact Option.or_none
  | .unanswered t => by
    obtain ⟨last', ht⟩ := t.handedOut_marks last []
    rw [List.append_nil] at ht
    rw [marks, ht]
    exact Option.or_none
  | .stalled none => rfl
  | .stalled (some p) => by
    rw [marks, Option.elim_some, p.handedOut_marks]
    exact Option.or_none

theorem handedOut_retried (x : Ending) : ∀ (n : Nat) (ts : List Trial)
    (last : Option (Nat × Http.Headers)), handedOut last (retried n ts ++ x.marks)
      = (ts.findSome? fun t => t.part.bind Part.opened).or x.opened
  | _, [], last => x.handedOut_marks last
  | n, t :: ts, last => by
    obtain ⟨last', ht⟩ := t.handedOut_marks last (.granted n t.failure :: (retried (n + 1) ts ++ x.marks))
    have ih := handedOut_retried x (n + 1) ts last'
    have hgranted : handedOut last' (.granted n t.failure :: (retried (n + 1) ts ++ x.marks))
        = handedOut last' (retried (n + 1) ts ++ x.marks) := rfl
    rw [retried, List.append_assoc, List.cons_append, ht, hgranted, ih, List.findSome?_cons]
    cases t.part.bind Part.opened <;> rfl

theorem History.handedOut_marks (h : History) : handedOut none h.marks = h.opened :=
  handedOut_retried h.ending 1 h.trials none

theorem Ending.marks_ne_nil : ∀ x : Ending, x.marks ≠ []
  | .reading _ => nofun
  | .finished _ => nofun
  | .failed ⟨none, _⟩ _ => nofun
  | .failed ⟨some _, _⟩ _ => nofun
  | .unanswered ⟨none, _⟩ => nofun
  | .unanswered ⟨some _, _⟩ => nofun
  | .stalled none => nofun
  | .stalled (some _) => nofun

/-- If nothing is delivered before the last mark, only the last attempt can have had an element, and no
    more than one. -/
theorem History.elements_of_dropLast (h : History) (hm : h.marks.dropLast.all (!·.yields)) :
    h.trials.flatMap Trial.elements = [] ∧ h.ending.elements.length ≤ 1 := by
  have hsplit : h.marks.dropLast = retried 1 h.trials ++ h.ending.marks.dropLast :=
    List.dropLast_append_of_ne_nil h.ending.marks_ne_nil
  rw [hsplit, List.all_append, Bool.and_eq_true] at hm
  refine ⟨(elements_retried 1 h.trials).symm.trans (elements_of_not_yields hm.1), ?_⟩
  have hlast := List.dropLast_concat_getLast h.ending.marks_ne_nil
  rw [← h.ending.elements_marks, ← hlast, elements_append, elements_of_not_yields hm.2, List.nil_append]
  exact List.length_filterMap_le _ _

/-! ### Paths make histories -/

/-- The marks so far tell of attempts that lead to the phase. -/
def Tells (seen : List Mark) : Phase W → Prop
  | .due _ _ n => ∃ ts, ts.length = n ∧ seen = retried 1 ts
  | .reading _ _ _ n => ∃ ts p, ts.length = n ∧ seen = History.marks ⟨ts, .reading p⟩
  | .asking _ _ last n => ∃ ts t, ts.length = n ∧ t.failure = last ∧
      seen = History.marks ⟨ts, .unanswered t⟩
  | .complete => ∃ ts p, seen = History.marks ⟨ts, .finished p⟩
  | .failed e => ∃ ts t answer, answer.getD t.failure = e ∧ seen = History.marks ⟨ts, .failed t answer⟩
  | .stalled => ∃ ts p, seen = History.marks ⟨ts, .stalled p⟩
  | .unanswered => ∃ ts t, seen = History.marks ⟨ts, .unanswered t⟩

variable [Ambient W] {acts : W → W → Prop} {a : Attempts W}

theorem tells_turn {seen ms : List Mark} {w w' : W} {s s' : Phase W} (h : Turn acts a w s ms w' s')
    (hs : Tells seen s) : Tells (seen ++ ms) s' := by
  cases h with
  | refuse =>
    obtain ⟨ts, hn, rfl⟩ := hs
    exact ⟨ts, ⟨none, _⟩, hn, rfl, by simp [History.marks, Ending.marks, Trial.marks]⟩
  | stall =>
    obtain ⟨ts, -, rfl⟩ := hs
    exact ⟨ts, none, rfl⟩
  | @arrive _ _ _ _ _ r _ _ _ =>
    obtain ⟨ts, hn, rfl⟩ := hs
    exact ⟨ts, ⟨r.status, r.headers, []⟩, hn, rfl⟩
  | @deliver _ _ _ _ _ _ j _ =>
    obtain ⟨ts, p, hn, rfl⟩ := hs
    exact ⟨ts, { p with elements := p.elements ++ [j] }, hn, by simp [History.marks, Ending.marks, Part.marks]⟩
  | finish =>
    obtain ⟨ts, p, -, rfl⟩ := hs
    exact ⟨ts, p, by simp [History.marks, Ending.marks]⟩
  | collapse =>
    obtain ⟨ts, p, hn, rfl⟩ := hs
    exact ⟨ts, ⟨some p, _⟩, hn, rfl, by simp [History.marks, Ending.marks, Trial.marks]⟩
  | dry =>
    obtain ⟨ts, p, -, rfl⟩ := hs
    exact ⟨ts, some p, by simp [History.marks, Ending.marks]⟩
  | grant =>
    obtain ⟨ts, t, hn, rfl, rfl⟩ := hs
    refine ⟨ts ++ [t], by simp [hn], ?_⟩
    rw [retried_concat, hn]
    simp [History.marks, Ending.marks, Nat.add_comm]
  | @decline _ _ _ _ _ e _ =>
    obtain ⟨ts, t, -, -, rfl⟩ := hs
    exact ⟨ts, t, some e, rfl, by simp [History.marks, Ending.marks]⟩
  | silence =>
    obtain ⟨ts, t, -, hlast, rfl⟩ := hs
    exact ⟨ts, t, none, hlast, by simp [History.marks, Ending.marks]⟩
  | never =>
    obtain ⟨ts, t, -, -, rfl⟩ := hs
    exact ⟨ts, t, List.append_nil _⟩
  | pause => rwa [List.append_nil]

/-- The phase is the one that the last attempt has led to. -/
inductive Phase.Ends : Phase W → Ending → Prop
  | reading {items session queue n p} : Ends (.reading items session queue n) (.reading p)
  | finished {p} : Ends .complete (.finished p)
  | failed {t answer} : Ends (.failed (answer.getD t.failure)) (.failed t answer)
  | stalled {p} : Ends .stalled (.stalled p)
  | unanswered {t} : Ends .unanswered (.unanswered t)

omit [Ambient W] in
theorem Phase.Ends.same {s : Phase W} {x : Ending} (h : s.Ends x) :
    s.failure? = x.verdict ∧ (s.over ↔ x.over) ∧ s.waits = x.waits := by
  cases h <;> exact ⟨rfl, .rfl, rfl⟩

/-- A path that the caller can see the end of tells a history. -/
theorem path_history {w w' : W} {s s' : Phase W} {ms : List Mark} (hpath : Path acts a w s ms w' s')
    (hs : Tells [] s) (hidle : s'.idle) : ∃ h : History, ms = h.marks ∧ s'.Ends h.ending := by
  have ht : Tells ms s' := by simpa using hpath.keeps (I := fun seen _ s => Tells seen s) tells_turn _ hs
  cases s' with
  | due => exact hidle.elim
  | asking => exact hidle.elim
  | reading =>
    obtain ⟨ts, p, -, rfl⟩ := ht
    exact ⟨⟨ts, .reading p⟩, rfl, .reading⟩
  | complete =>
    obtain ⟨ts, p, rfl⟩ := ht
    exact ⟨⟨ts, .finished p⟩, rfl, .finished⟩
  | failed e =>
    obtain ⟨ts, t, answer, rfl, rfl⟩ := ht
    exact ⟨⟨ts, .failed t answer⟩, rfl, .failed⟩
  | stalled =>
    obtain ⟨ts, p, rfl⟩ := ht
    exact ⟨⟨ts, .stalled p⟩, rfl, .stalled⟩
  | unanswered =>
    obtain ⟨ts, t, rfl⟩ := ht
    exact ⟨⟨ts, .unanswered t⟩, rfl, .unanswered⟩

end Courier.Retry
