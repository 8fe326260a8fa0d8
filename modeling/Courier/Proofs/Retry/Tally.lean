import Courier.Proofs.Quiet

/-! Parts of a client that keep a tally.

    The parts of a client note each request that an interceptor changes, each one that is sent, and each
    failure of an attempt. Each attempt runs through all interceptors once (`attempt_tallied`), and the
    client with the notes is like the one without them (`tallied_alike`). -/

namespace Courier

variable {W : Type}

/-! ### Notes -/

/-- What is written down about attempts. -/
inductive Tally where
  | applied (interceptor : Nat)
  | sent
  | failed (failure : Failure)
deriving DecidableEq

/-- What a transport writes down. -/
def Scribe.tally : Scribe W Tally := ⟨fun _ => [.sent], fun e => [.failed e], fun _ _ => [], fun _ => [], [], []⟩

/-- Interceptors that note their number. -/
def Interceptor.numbered : Nat → List (Interceptor W) → List (Interceptor (Noted W Tally))
  | _, [] => []
  | k, i :: is => i.noted [.applied k] :: numbered (k + 1) is

/-- What is written down about an item of a body. -/
def Tally.ofItem : Except Failure Json → List Tally
  | .ok _ => []
  | .error e => [.failed e]

/-- A body that notes its failure. -/
def Tally.tap (items : Stream (Noted W Tally) (Except Failure Json)) :
    Stream (Noted W Tally) (Except Failure Json) := Stream.tap (fun item v => v.write (ofItem item)) items

/-- Leaves a response as it is and notes a failure in its body. -/
def Mapper.tally : Mapper (Noted W Tally) where
  name := "tally"
  map := fun r => { r with body := fun v => match r.body v with
    | (v, items) => (v, Tally.tap items) }

/-- The client's parts with their notes, and the policy. The failures of an attempt are those of the
    transport and those that are left in its body by status rules and mappers. -/
def Blueprint.tallied (wire : Wire W) (p : Retry.BasicPolicy) [Ambient W] (b : Blueprint W) :
    Blueprint (Noted W Tally) where
  endpoint := b.endpoint
  target := b.target
  transport := some <|
    (b.transport.getD (Transport.exchange wire ⟨none, true, none⟩ b.endpoint.arity)).noted .tally
  interceptors := Interceptor.numbered 0 b.interceptors
  rules := b.rules.map Status.Rule.noted
  mappers := b.mappers.map Mapper.noted ++ [.tally]
  policy := some p.toPolicy
  listener := b.listener.map (Listener.noted fun _ => [])

/-- The notes of an attempt up to its failure: all interceptors in their order, then the transport. -/
def Tally.attempt (n : Nat) : List Tally := (List.range' 0 n).map Tally.applied ++ [.sent]

/-- The notes of attempts that failed. -/
def Tally.attempts (n : Nat) (es : List Failure) : List Tally :=
  es.flatMap fun e => attempt n ++ [.failed e]

theorem Tally.attempts_concat (n : Nat) (es : List Failure) (e : Failure) :
    attempts n (es ++ [e]) = attempts n es ++ attempt n ++ [.failed e] := by
  simp [attempts]

/-! ### One attempt -/

variable [Ambient W]

theorem Interceptor.applyAll_numbered : ∀ (k : Nat) (is : List (Interceptor W))
    (r : Request (Noted W Tally)) (v : Noted W Tally),
    (applyAll (numbered k is) r v).1.notes = v.notes ++ (List.range' k is.length).map Tally.applied
  | _, [], _, v => (List.append_nil v.notes).symm
  | k, i :: is, r, v => by
    rw [numbered, applyAll]
    rcases hi : (i.noted [Tally.applied k]).apply r (Ambient.record .trace "Interceptor"
      ("applying '" ++ (i.noted [Tally.applied k]).name ++ "'") v) with ⟨v', r'⟩
    have hnotes : v'.notes = v.notes ++ [.applied k] := congrArg (·.1.notes) hi.symm
    have ih := applyAll_numbered (k + 1) is r' v'
    rw [hnotes, List.append_assoc] at ih
    exact ih

/-- An exchange whose runs are attempts of a client with so many interceptors. -/
structure Exchange.Tallied (n : Nat) (x : Exchange (Noted W Tally)) : Prop where
  refused : ∀ {request v v' e}, x.execute request v = (v', .error e) →
    v'.notes = v.notes ++ Tally.attempt n ++ [.failed e]
  never : ∀ {request v v'}, x.execute request v = (v', .never) → v'.notes = v.notes ++ Tally.attempt n
  arrived : ∀ {request v v' r}, x.execute request v = (v', .ok r) →
    v'.notes = v.notes ++ Tally.attempt n ∧ ∀ u, (r.body u).1.notes = u.notes ∧
      ∃ q : Stream (Noted W Tally) (Except Failure Json), q.Quiet ∧ (r.body u).2 = Tally.tap q

namespace Blueprint

variable (wire : Wire W) (wire' : Wire (Noted W Tally)) (p : Retry.BasicPolicy) (b : Blueprint W)

theorem sent_notes {request : Request (Noted W Tally)} {v v' : Noted W Tally}
    {result : Eventual Failure (Response (Noted W Tally))}
    (h : ((b.tallied wire p).sent wire').execute request v = (v', result)) : match result with
      | .error e => v'.notes = v.notes ++ Tally.attempt b.interceptors.length ++ [.failed e]
      | .never => v'.notes = v.notes ++ Tally.attempt b.interceptors.length
      | .ok r => v'.notes = v.notes ++ Tally.attempt b.interceptors.length ∧ r.Quiet := by
  rw [sent_execute] at h
  have happlied := Interceptor.applyAll_numbered 0 b.interceptors request v
  cases result with
  | error e =>
    rw [Exchange.notes_of_error h]
    simp only [tallied, happlied]
    simp [Tally.attempt, Scribe.tally]
  | never =>
    rw [Exchange.notes_of_never h]
    simp only [tallied, happlied]
    simp [Tally.attempt, Scribe.tally]
  | ok r =>
    obtain ⟨hnotes, r', rfl⟩ := Exchange.notes_of_ok h
    refine ⟨?_, Response.noted_quiet rfl rfl rfl r'⟩
    rw [hnotes]
    simp only [tallied, happlied]
    simp [Tally.attempt, Scribe.tally]

/-- The rule of a client. -/
abbrev rule (b : Blueprint W) : Status.Rule (Noted W Tally) :=
  .firstOf (b.rules.map Status.Rule.noted ++ [.standard])

theorem rule_quiet : b.rule.Quiet := by
  refine Status.Rule.orStandard_quiet fun r hr => ?_
  obtain ⟨r', -, rfl⟩ := List.mem_map.mp hr
  exact r'.noted_quiet

theorem attempt_tallied : ((b.tallied wire p).attempt wire').Tallied b.interceptors.length where
  refused {request v v' e} h := by
    rw [attempt_execute] at h
    rcases hs : ((b.tallied wire p).sent wire').execute request v with ⟨v₁, e' | r | _⟩ <;> rw [hs] at h <;>
      cases h
    exact b.sent_notes wire wire' p hs
  never {request v v'} h := by
    rw [attempt_execute] at h
    rcases hs : ((b.tallied wire p).sent wire').execute request v with ⟨v₁, e' | r | _⟩ <;> rw [hs] at h <;>
      cases h
    exact b.sent_notes wire wire' p hs
  arrived {request v v' r} h := by
    rw [attempt_execute] at h
    rcases hs : ((b.tallied wire p).sent wire').execute request v with ⟨v₁, e' | r₁ | _⟩
    · rw [hs] at h
      cases h
    · obtain ⟨hsent, hr₁⟩ := b.sent_notes wire wire' p hs
      obtain ⟨hchecked, hr₂⟩ := Status.handle_quiet b.rule_quiet b.endpoint.key hr₁ v₁
      obtain ⟨hmapped, q, hq, hlast⟩ := Mapper.applyAll_noted .tally b.mappers
        (Status.handle b.rule b.endpoint.key r₁ v₁).2 (Status.handle b.rule b.endpoint.key r₁ v₁).1 hr₂
      rw [hs] at h
      cases h
      -- what was quiet up to the last mapper is tapped by it
      refine ⟨hmapped.trans (hchecked.trans hsent), fun u => ?_⟩
      have hbody : ∀ r : Response (Noted W Tally), r = Mapper.tally.map q → (r.body u).1.notes = u.notes ∧
          ∃ q : Stream (Noted W Tally) (Except Failure Json), q.Quiet ∧ (r.body u).2 = Tally.tap q := by
        rintro r rfl
        exact ⟨(hq.body u).1, (q.body u).2, (hq.body u).2, rfl⟩
      exact hbody _ hlast
    · rw [hs] at h
      cases h

end Blueprint

/-! ### Tallies change nothing -/

omit [Ambient W] in
theorem Interceptor.numbered_alike (k : Nat) (is : List (Interceptor W)) :
    List.Forall₂ (Interceptor.Alike Noted.Over Request.Over) (numbered k is) is := by
  induction is generalizing k with
  | nil => exact .nil
  | cons i is ih => exact .cons (i.noted_alike [Tally.applied k]) (ih (k + 1))

omit [Ambient W] in
theorem Tally.tap_alike : ∀ {s : Step (Noted W Tally) (Except Failure Json)} {t : Step W (Except Failure Json)},
    s.Alike Noted.Over t → (s.tap fun item v => v.write (ofItem item)).Alike Noted.Over t
  | .done _, .done _, h => h
  | .item _ _ _, .item _ _ _, ⟨hv, rfl, hmore⟩ => ⟨hv, rfl, fun v w h => tap_alike (hmore v w h)⟩
  | .never _, .never _, h => h

omit [Ambient W] in
theorem Mapper.tally_alike {r : Response (Noted W Tally)} {r' : Response W} (h : r.Alike Noted.Over r') :
    (Mapper.tally.map r).Alike Noted.Over r' where
  status := h.status
  headers := h.headers
  body v w hv := by
    obtain ⟨hagree, hitems⟩ := h.body v w hv
    exact ⟨hagree, fun v w hv => Tally.tap_alike (hitems v w hv)⟩
  data := h.data

/-- A last mapper that leaves a response as it is may be missing. -/
theorem Mapper.applyAll_alike (ms : List (Mapper W)) (r : Response (Noted W Tally)) (r' : Response W)
    (hr : r.Alike Noted.Over r') (v : Noted W Tally) (w : W) (hv : v.Over w) :
    Noted.Over (applyAll (ms.map Mapper.noted ++ [.tally]) r v).1 (applyAll ms r' w).1 ∧
      (applyAll (ms.map Mapper.noted ++ [.tally]) r v).2.Alike Noted.Over (applyAll ms r' w).2 := by
  induction ms generalizing r r' v w with
  | nil =>
    have happly : Mapper.tally.apply r v = (v, Mapper.tally.map r) := if_pos (beq_self_eq_true r.status)
    have happlied : applyAll [Mapper.tally] r v = (v, Mapper.tally.map r) := by
      rw [applyAll, happly]
      rfl
    rw [List.map_nil, List.nil_append, happlied]
    exact ⟨hv, tally_alike hr⟩
  | cons m ms ih =>
    obtain ⟨hagree, hmapped⟩ := apply_alike Noted.ambient_alike.toEffectsAlike m.noted_alike hr hv
    exact ih _ _ hmapped _ _ hagree

/-- A blueprint with notes and the policy is like the blueprint with the policy. -/
theorem Blueprint.tallied_alike (wire : Wire W) (wire' : Wire (Noted W Tally)) (p : Retry.BasicPolicy)
    (b : Blueprint W) :
    (b.tallied wire p).Alike Noted.Over Request.Over wire' wire { b with policy := some p.toPolicy } where
  endpoint := rfl
  transport := Exchange.noted_alike .tally _
  interceptors := Interceptor.numbered_alike 0 b.interceptors
  rules := List.forall₂_map_left_iff.mpr (List.forall₂_same.mpr fun rule _ => rule.noted_alike)
  mappers := Mapper.applyAll_alike b.mappers
  policy := .some (p.toPolicy_alike Noted.ambient_alike.toEffectsAlike)
  listener := by
    rw [tallied]
    cases b.listener with
    | some l => exact .some (l.noted_alike fun _ => [])
    | none => exact .none

end Courier
