import Courier.Mapper

/-! Responses that are rewritten one after the other.

    Each rewriting looks at the status that those before it have left. The last response has the status
    that comes out of all changes in their order and the headers of the first one. It has no body if one
    of the rewritings that applied took it away, and else the body of the first one; the body itself is
    not touched before somebody asks for it (`rewritten_in_order`). -/

namespace Courier

variable {W : Type}

/-- A way to rewrite the responses of one status, or of all: with another status, if one is given, and
    without their body, if so asked. -/
structure Rewriting where
  name : String
  only : Option Nat
  status : Option Nat
  emptyBody : Bool

namespace Rewriting

/-- Whether responses of a status are rewritten. -/
def applies (m : Rewriting) (status : Nat) : Bool := m.only.isNone || m.only == some status

/-- Rewrites responses. -/
def mapper (m : Rewriting) : Mapper W where
  name := m.name
  map := fun r => if m.applies r.status then Mapper.change m.status m.emptyBody r else r

/-- Takes what is not found for an empty success. -/
def notFound : Rewriting := ⟨"ignore404", some 404, some 200, true⟩

/-- The status of a response that had the given one. -/
def next (status : Nat) (m : Rewriting) : Nat := if m.applies status then m.status.getD status else status

/-- The status of a response that had the given one, with all changes in their order. -/
def statusAfter (ms : List Rewriting) (status : Nat) : Nat := ms.foldl next status

/-- One of the rewritings applies to the status that those before it leave, and takes the body away. -/
def Empties (ms : List Rewriting) (status : Nat) : Prop :=
  ∃ front m back, ms = front ++ m :: back ∧ m.applies (statusAfter front status) = true ∧ m.emptyBody = true

variable {m : Rewriting} {ms front back : List Rewriting} {status : Nat}

theorem notFound_mapper : (notFound.mapper : Mapper W) = .ignore404 := by
  have happlies : ∀ status, notFound.applies status = (status == 404) := fun status =>
    (Option.some_beq_some (a := 404) (b := status)).trans BEq.comm
  simp only [mapper, happlies]
  rfl

theorem next_of_not (h : m.applies status = false) : next status m = status := by
  rw [next, h]
  rfl

theorem statusAfter_cons (m : Rewriting) (ms : List Rewriting) (status : Nat) :
    statusAfter (m :: ms) status = statusAfter ms (next status m) := rfl

theorem statusAfter_append (front back : List Rewriting) (status : Nat) :
    statusAfter (front ++ back) status = statusAfter back (statusAfter front status) := List.foldl_append

theorem not_empties_nil (status : Nat) : ¬Empties [] status := by
  rintro ⟨front, m, back, h, -⟩
  exact List.append_ne_nil_of_right_ne_nil front (List.cons_ne_nil m back) h.symm

/-- The body is gone behind the first rewriting, or behind those that go on from its status. -/
theorem empties_cons : Empties (m :: ms) status
    ↔ (m.applies status = true ∧ m.emptyBody = true) ∨ Empties ms (next status m) := by
  constructor
  · rintro ⟨_ | ⟨m', front⟩, n, back, hms, happlies, hempty⟩
    · obtain ⟨rfl, -⟩ := List.cons.inj hms
      exact .inl ⟨happlies, hempty⟩
    · obtain ⟨rfl, rfl⟩ := List.cons.inj hms
      exact .inr ⟨front, n, back, rfl, happlies, hempty⟩
  · rintro (⟨happlies, hempty⟩ | ⟨front, n, back, rfl, happlies, hempty⟩)
    · exact ⟨[], m, ms, rfl, happlies, hempty⟩
    · exact ⟨m :: front, n, back, rfl, happlies, hempty⟩

/-- A status that has become that of what is not found is caught, and the body is gone. -/
theorem caught (h : statusAfter front status = 404) : Empties (front ++ notFound :: back) status ∧
    statusAfter (front ++ notFound :: back) status = statusAfter back 200 := by
  refine ⟨⟨front, notFound, back, rfl, by rw [h]; rfl, rfl⟩, ?_⟩
  rw [statusAfter_append, h]
  rfl

/-! ### Responses -/

/-- The response without its body: whoever asks for it gets nothing, and nothing is done for it. -/
def Bodiless (r : Response W) : Prop := (∀ w, r.body w = (w, .empty)) ∧ ∀ w, r.data w = (w, .ok [])

/-- What rewritings make of a response. -/
structure Rewritten (ms : List Rewriting) (r r' : Response W) : Prop where
  status : r'.status = statusAfter ms r.status
  headers : r'.headers = r.headers
  emptied : Empties ms r.status → Bodiless r'
  body : ¬Empties ms r.status → r'.body = r.body
  data : ¬Empties ms r.status → r'.data = r.data

theorem Rewritten.passed {r r' : Response W} (happlies : m.applies r.status = false) (h : Rewritten ms r r') :
    Rewritten (m :: ms) r r' := by
  have hempties : Empties (m :: ms) r.status ↔ Empties ms r.status := by
    rw [empties_cons, next_of_not happlies, happlies]
    simp
  refine ⟨?_, h.headers, fun he => h.emptied (hempties.mp he), fun he => h.body (mt hempties.mpr he),
    fun he => h.data (mt hempties.mpr he)⟩
  rw [h.status, statusAfter_cons, next_of_not happlies]

theorem Rewritten.changed {r r' : Response W} (happlies : m.applies r.status = true)
    (h : Rewritten ms (Mapper.change m.status m.emptyBody r) r') : Rewritten (m :: ms) r r' := by
  have hnext : next r.status m = m.status.getD r.status := by rw [next, happlies]; rfl
  have hempties : Empties (m :: ms) r.status ↔ m.emptyBody = true ∨ Empties ms (m.status.getD r.status) := by
    rw [empties_cons, hnext, happlies]
    simp
  obtain ⟨hstatus, hheaders, hemptied, hbody, hdata⟩ := h
  refine ⟨?_, hheaders, fun he => ?_, fun he => ?_, fun he => ?_⟩
  · rw [hstatus, statusAfter_cons, hnext]
    rfl
  · -- A body that one of the later ones takes away is gone as well as one that this one takes.
    by_cases hlater : Empties ms (m.status.getD r.status)
    · exact hemptied hlater
    · have hgone : m.emptyBody = true := (hempties.mp he).resolve_right hlater
      rw [Bodiless, hbody hlater, hdata hlater, Mapper.change, hgone]
      exact ⟨fun _ => rfl, fun _ => rfl⟩
  · obtain ⟨hkept, hlater⟩ := not_or.mp (mt hempties.mpr he)
    rw [hbody hlater, Mapper.change]
    exact if_neg hkept
  · obtain ⟨hkept, hlater⟩ := not_or.mp (mt hempties.mpr he)
    rw [hdata hlater, Mapper.change]
    exact if_neg hkept

theorem map_of_not {r : Response W} (h : m.applies r.status = false) : m.mapper.map r = r := by
  rw [mapper]
  exact if_neg (by rw [h]; decide)

/-- One more rewriting, before all others. -/
theorem Rewritten.cons {r r' : Response W} (h : Rewritten ms (m.mapper.map r) r') : Rewritten (m :: ms) r r' := by
  cases happlies : m.applies r.status with
  | false => exact .passed happlies (map_of_not happlies ▸ h)
  | true =>
    have hmap : m.mapper.map r = Mapper.change m.status m.emptyBody r := if_pos happlies
    exact .changed happlies (hmap ▸ h)

end Rewriting

/-! ### Exchanges -/

namespace Mapper

variable [Ambient W]

/-- Mappers leave nothing but lines in the log. -/
theorem apply_world (m : Mapper W) (r : Response W) (w : W) : (m.apply r w).2 = m.map r ∧
    ∃ lines : List String, (m.apply r w).1
      = lines.foldl (fun w line => Ambient.record .debug "ResponseMapper" line w) w := by
  rw [apply]
  split
  · exact ⟨rfl, [], rfl⟩
  · exact ⟨rfl, [_], rfl⟩

theorem applyAll_world : ∀ (ms : List (Mapper W)) (r : Response W) (w : W), ∃ lines : List String,
    (applyAll ms r w).1 = lines.foldl (fun w line => Ambient.record .debug "ResponseMapper" line w) w
  | [], _, _ => ⟨[], rfl⟩
  | m :: ms, r, w => by
    obtain ⟨-, lines, hlines⟩ := m.apply_world r w
    obtain ⟨lines', hlines'⟩ := applyAll_world ms (m.apply r w).2 (m.apply r w).1
    refine ⟨lines ++ lines', ?_⟩
    rw [List.foldl_append, ← hlines, ← hlines']
    rfl

theorem applyAll_append : ∀ (front back : List (Mapper W)) (r : Response W) (w : W),
    applyAll (front ++ back) r w = applyAll back (applyAll front r w).2 (applyAll front r w).1
  | [], _, _, _ => rfl
  | m :: front, back, r, w => applyAll_append front back (m.apply r w).2 (m.apply r w).1

/-- What was taken for an empty success once is not looked at again. -/
theorem ignore404_twice (back : List (Mapper W)) (r : Response W) (w : W) :
    applyAll (ignore404 :: ignore404 :: back) r w = applyAll (ignore404 :: back) r w := by
  have hstatus : ((ignore404.apply r w).2.status == 404) = false := by
    rw [(apply_world _ r w).1]
    simp only [ignore404]
    split
    · rfl
    · next h => exact Bool.eq_false_iff.mpr h
  have hsecond : ignore404.apply (ignore404.apply r w).2 (ignore404.apply r w).1 = ignore404.apply r w := by
    have hmap : ignore404.map (ignore404.apply r w).2 = (ignore404.apply r w).2 :=
      if_neg (by rw [hstatus]; decide)
    rw [apply, hmap]
    exact if_pos (beq_self_eq_true _)
  show applyAll back (ignore404.apply (ignore404.apply r w).2 (ignore404.apply r w).1).2
    (ignore404.apply (ignore404.apply r w).2 (ignore404.apply r w).1).1 = _
  rw [hsecond]
  rfl

end Mapper

namespace Rewriting

variable [Ambient W]

theorem applyAll_rewritten : ∀ (ms : List Rewriting) (r : Response W) (w : W),
    Rewritten ms r (Mapper.applyAll (ms.map mapper) r w).2
  | [], r, _ => ⟨rfl, rfl, fun h => absurd h (not_empties_nil _), fun _ => rfl, fun _ => rfl⟩
  | m :: ms, r, w => by
    have hrest := applyAll_rewritten ms (m.mapper.apply r w).2 (m.mapper.apply r w).1
    rw [(Mapper.apply_world _ r w).1] at hrest
    have happlied : (Mapper.applyAll ((m :: ms).map mapper) r w).2
        = (Mapper.applyAll (ms.map mapper) (m.mapper.map r) (m.mapper.apply r w).1).2 := by
      rw [← (Mapper.apply_world m.mapper r w).1]
      rfl
    rw [happlied]
    exact hrest.cons

/-- Where none applies, nothing happens, not even in the log. -/
theorem applyAll_of_none : ∀ {ms : List Rewriting} {r : Response W} (w : W), (∀ m ∈ ms, m.applies r.status = false) →
    Mapper.applyAll (ms.map mapper) r w = (w, r)
  | [], _, _, _ => rfl
  | m :: ms, r, w, h => by
    obtain ⟨hm, hms⟩ := List.forall_mem_cons.mp h
    have happly : m.mapper.apply r w = (w, r) := by
      rw [Mapper.apply, map_of_not hm]
      exact if_pos (beq_self_eq_true _)
    rw [List.map_cons, Mapper.applyAll, happly]
    exact applyAll_of_none w hms

/-- Whatever the exchange within, the rewritings and the request: a failure is passed on, as is that nothing
    comes, and of a response `Rewritten` tells what becomes of it. Till then nothing happens but lines in the
    log; where no rewriting applies not even that, and the response is passed on as it is. A status that has
    become 404 is caught by `notFound` further on, which is the mapper `ignore404`; two of these in a row do
    what one does. -/
theorem rewritten_in_order (ms : List Rewriting) (inner : Exchange W) (request : Request W) (w : W) :
    (match inner.execute request w with
      | (w', .error e) => (Mapper.exchange (ms.map mapper) inner).execute request w = (w', .error e)
      | (w', .never) => (Mapper.exchange (ms.map mapper) inner).execute request w = (w', .never)
      | (w', .ok r) => ∃ (lines : List String) (r' : Response W),
        (Mapper.exchange (ms.map mapper) inner).execute request w
          = (lines.foldl (fun w line => Ambient.record .debug "ResponseMapper" line w) w', .ok r') ∧
        Rewritten ms r r' ∧ ((∀ m ∈ ms, m.applies r.status = false) → lines = [] ∧ r' = r)) ∧
    (∀ front back status, statusAfter front status = 404 → Empties (front ++ notFound :: back) status ∧
      statusAfter (front ++ notFound :: back) status = statusAfter back 200) ∧
    (notFound.mapper : Mapper W) = .ignore404 ∧
    ∀ front back : List (Mapper W),
      (Mapper.exchange (front ++ .ignore404 :: .ignore404 :: back) inner).execute request w
        = (Mapper.exchange (front ++ .ignore404 :: back) inner).execute request w := by
  have hexecute : ∀ mappers : List (Mapper W), (Mapper.exchange mappers inner).execute request w
      = match inner.execute request w with
        | (w', .error e) => (w', .error e)
        | (w', .never) => (w', .never)
        | (w', .ok r) => ((Mapper.applyAll mappers r w').1, .ok (Mapper.applyAll mappers r w').2) := fun _ => rfl
  refine ⟨?_, fun _ _ _ => caught, notFound_mapper, fun front back => ?_⟩
  · rw [hexecute]
    rcases inner.execute request w with ⟨w', e | r | _⟩
    · rfl
    · obtain ⟨lines, hlines⟩ := Mapper.applyAll_world (ms.map mapper) r w'
      by_cases hnone : ∀ m ∈ ms, m.applies r.status = false
      · have hsame := applyAll_of_none w' hnone
        have hrewritten := applyAll_rewritten ms r w'
        simp only [hsame] at hrewritten ⊢
        exact ⟨[], r, rfl, hrewritten, fun _ => ⟨rfl, rfl⟩⟩
      · simp only [hlines]
        exact ⟨lines, _, rfl, applyAll_rewritten ms r w', fun h => absurd h hnone⟩
    · rfl
  · rw [hexecute, hexecute]
    rcases inner.execute request w with ⟨w', e | r | _⟩
    · rfl
    · simp only [Mapper.applyAll_append, Mapper.ignore404_twice]
    · rfl

end Rewriting
end Courier
