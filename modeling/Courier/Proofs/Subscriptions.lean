import Courier.Request
import Mathlib.Data.List.Basic
import Mathlib.Data.List.Induction

/-! Bodies with several subscribers who read in turns.

    A body is cold: every subscriber gets its items from the first one on, whoever else reads it or
    another body, and however far. A hook on a body has a flag of its own for each subscription
    (`subscribe_tapFirst`): it sees the first chunk that passes there, once, after the hooks within;
    failures pass it by (`subscriptions_apart`). -/

namespace Courier

variable {W α : Type}

/-! ### Hooks with flags -/

/-- Each item shown to a hook until one is a chunk; `seen` tells whether one was. -/
def Step.tapOnce (hook : Bytes → W → W) : Bool → Step W (Except Failure Bytes) → Step W (Except Failure Bytes)
  | _, .done w => .done w
  | _, .never w => .never w
  | true, .item w x more => .item w x fun w' => tapOnce hook true (more w')
  | false, .item w (.error e) more => .item w (.error e) fun w' => tapOnce hook false (more w')
  | false, .item w (.ok c) more => .item (hook c w) (.ok c) fun w' => tapOnce hook true (more w')

/-- A hook that has seen a chunk sees nothing more. -/
theorem Step.tapOnce_seen (hook : Bytes → W → W) : ∀ s : Step W (Except Failure Bytes), s.tapOnce hook true = s
  | .done _ => rfl
  | .item w x more => by
    have hmore : (fun w' => (more w').tapOnce hook true) = more := funext fun w' => tapOnce_seen hook (more w')
    rw [tapOnce, hmore]
  | .never _ => rfl

namespace Body

theorem emit_concat (taps : List (Bytes → W → W)) (hook : Bytes → W → W) :
    ∀ (items : List (Except Failure Bytes)) (w : W),
      emit (taps ++ [hook]) items w = (emit taps items w).tapOnce hook false
  | [], _ => rfl
  | .error e :: items, w => by
    have hrest : emit (taps ++ [hook]) items = fun w' => (emit taps items w').tapOnce hook false :=
      funext (emit_concat taps hook items)
    rw [emit, emit, Step.tapOnce, hrest]
  | .ok c :: items, w => by
    have hrest : (fun w' => (Stream.ofList items w').tapOnce hook true) = Stream.ofList items :=
      funext fun w' => Step.tapOnce_seen hook (Stream.ofList items w')
    show Step.item _ _ _ = Step.item _ _ fun w' => (Stream.ofList items w').tapOnce hook true
    rw [hrest, List.foldl_append, List.foldl_cons, List.foldl_nil]

/-- A subscription to a body with one more hook is one to the body, shown to the hook with a new flag. -/
theorem subscribe_tapFirst (b : Body W) (hook : Bytes → W → W) (w : W) :
    (b.tapFirst hook).subscribe w = (b.subscribe w).tapOnce hook false := emit_concat b.taps hook b.items w

/-- The body with hooks around it, the first one innermost. -/
def tapped (hooks : List (Bytes → W → W)) (b : Body W) : Body W := hooks.foldl (fun b hook => b.tapFirst hook) b

theorem tapped_eq : ∀ (hooks : List (Bytes → W → W)) (b : Body W), b.tapped hooks = ⟨b.items, b.taps ++ hooks⟩
  | [], b => by rw [List.append_nil]; rfl
  | hook :: hooks, b => by
    have hrest : tapped (hook :: hooks) b = (b.tapFirst hook).tapped hooks := rfl
    rw [hrest, tapped_eq hooks, tapFirst, List.append_assoc, List.singleton_append]

/-! ### What is left of a subscription -/

/-- The chunk, if an answer is one. -/
def chunk? : Option (Except Failure Bytes) → Option Bytes
  | some (.ok c) => some c
  | _ => none

/-- The first chunk among answers. -/
def firstChunk (answers : List (Option (Except Failure Bytes))) : Option Bytes := answers.findSome? chunk?

theorem firstChunk_concat (answers : List (Option (Except Failure Bytes))) (x : Option (Except Failure Bytes)) :
    firstChunk (answers ++ [x]) = (firstChunk answers).or (chunk? x) := by
  have hlast : firstChunk [x] = chunk? x := by
    rw [firstChunk, List.findSome?_cons]
    cases chunk? x <;> rfl
  rw [firstChunk, List.findSome?_append]
  exact congrArg _ hlast

/-- The first answers to who asks for items; none behind the last item. -/
def answers (b : Body W) (n : Nat) : List (Option (Except Failure Bytes)) := (List.range n).map fun k => b.items[k]?

theorem answers_succ (b : Body W) (n : Nat) : b.answers (n + 1) = b.answers n ++ [b.items[n]?] := by
  rw [answers, List.range_succ, List.map_append, answers]
  rfl

/-- What is left of a subscription when so many items were asked for. -/
def rest (b : Body W) (n : Nat) : Stream W (Except Failure Bytes) :=
  if (firstChunk (b.answers n)).isSome then Stream.ofList (b.items.drop n) else emit b.taps (b.items.drop n)

/-- What the hooks do when the next item is asked for after so many. -/
def hooked (b : Body W) (n : Nat) (w : W) : W := match firstChunk (b.answers n), chunk? b.items[n]? with
  | none, some c => b.taps.foldl (fun w tap => tap c w) w
  | _, _ => w

end Body

/-- The surroundings after an answer, the item if there is one, and what is left then. -/
def Step.answer : Step W α → W × Option α × Stream W α
  | .done w => (w, none, .empty)
  | .item w x more => (w, some x, more)
  | .never w => (w, none, .never)

namespace Body

/-- A subscription hands out its items one by one. -/
theorem rest_answer (b : Body W) (n : Nat) (w : W) :
    (b.rest n w).answer = (b.hooked n w, b.items[n]?, b.rest (n + 1)) := by
  have hfirst : firstChunk (b.answers (n + 1)) = (firstChunk (b.answers n)).or (chunk? b.items[n]?) := by
    rw [answers_succ, firstChunk_concat]
  rw [rest, rest, hooked, hfirst]
  cases hitem : b.items[n]? with
  | none =>
    have hlength : b.items.length ≤ n := List.getElem?_eq_none_iff.mp hitem
    rw [List.drop_of_length_le hlength, List.drop_of_length_le (Nat.le_succ_of_le hlength)]
    cases firstChunk (b.answers n) <;> rfl
  | some x =>
    obtain ⟨hn, rfl⟩ := List.getElem?_eq_some_iff.mp hitem
    rw [List.drop_eq_getElem_cons hn]
    cases firstChunk (b.answers n) <;> cases b.items[n] <;> rfl

end Body

/-! ### Readers in turns -/

/-- What somebody does: subscribe to a body, or ask a subscription for its next item. Subscriptions are
    numbered in their order. -/
inductive Turn (W : Type) where
  | subscribe (body : Body W)
  | read (subscriber : Nat)

/-- The surroundings, what is left of each subscription, and every answer with the number of who got it. -/
structure Readers (W : Type) where
  world : W
  rests : List (Stream W (Except Failure Bytes))
  record : List (Nat × Option (Except Failure Bytes))

namespace Readers

open Body

/-- One turn; there is no answer for who has not subscribed. -/
def turn (s : Readers W) : Turn W → Readers W
  | .subscribe b => { s with rests := s.rests ++ [b.subscribe] }
  | .read i => match s.rests[i]? with
    | none => s
    | some rest => match (rest s.world).answer with
      | (w, x, more) => ⟨w, s.rests.set i more, s.record ++ [(i, x)]⟩

/-- All turns, from surroundings without subscriptions. -/
def run (w : W) (turns : List (Turn W)) : Readers W := turns.foldl turn ⟨w, [], []⟩

/-- The bodies that are subscribed to, by the numbers of the subscriptions. -/
def bodies (turns : List (Turn W)) : List (Body W) := turns.filterMap fun
  | .subscribe b => some b
  | .read _ => none

/-- What a subscriber got. -/
def got (i : Nat) (record : List (Nat × Option (Except Failure Bytes))) : List (Option (Except Failure Bytes)) :=
  (record.filter fun e => e.1 == i).map Prod.snd

/-- A first chunk for a subscriber, given the first chunks before. -/
def opening (found : List (Nat × Bytes)) : Nat × Option (Except Failure Bytes) → List (Nat × Bytes)
  | (i, some (.ok c)) => if i ∈ found.map Prod.fst then [] else [(i, c)]
  | _ => []

/-- The first chunk of each subscriber who got one, in the order in which they passed. -/
def firstChunks (record : List (Nat × Option (Except Failure Bytes))) : List (Nat × Bytes) :=
  record.foldl (fun found e => found ++ opening found e) []

/-- Shows a first chunk to all hooks of the body it comes from. -/
def showTo (bs : List (Body W)) (w : W) (first : Nat × Bytes) : W := match bs[first.1]? with
  | some b => b.taps.foldl (fun w tap => tap first.2 w) w
  | none => w

variable {record : List (Nat × Option (Except Failure Bytes))} {bs : List (Body W)} {w : W} {s : Readers W}

theorem got_concat_self (i : Nat) (x : Option (Except Failure Bytes)) :
    got i (record ++ [(i, x)]) = got i record ++ [x] := by
  simp [got]

theorem got_concat_of_ne {i j : Nat} (h : j ≠ i) (x : Option (Except Failure Bytes)) :
    got i (record ++ [(j, x)]) = got i record := by
  simp [got, h]

theorem got_alone (i : Nat) (xs : List (Option (Except Failure Bytes))) : got i (xs.map fun x => (i, x)) = xs := by
  simp [got, List.filter_map, Function.comp_def]

theorem got_of_unknown {i : Nat} (h : ∀ e ∈ record, e.1 ≠ i) : got i record = [] := by
  rw [got, List.filter_eq_nil_iff.mpr fun e he => by simpa using h e he, List.map_nil]

theorem firstChunks_concat (e : Nat × Option (Except Failure Bytes)) :
    firstChunks (record ++ [e]) = firstChunks record ++ opening (firstChunks record) e := by
  rw [firstChunks, List.foldl_append]
  rfl

/-- An answer is a first chunk if it is a chunk and there was none for this subscriber. -/
theorem mem_opening {found : List (Nat × Bytes)} {i j : Nat} {c : Bytes} {x : Option (Except Failure Bytes)} :
    (i, c) ∈ opening found (j, x) ↔ j = i ∧ i ∉ found.map Prod.fst ∧ chunk? x = some c := by
  rcases x with _ | e | c'
  · simp [opening, chunk?]
  · simp [opening, chunk?]
  · rw [opening]
    split
    · next h =>
      refine ⟨fun h => absurd h List.not_mem_nil, ?_⟩
      rintro ⟨rfl, hnew, -⟩
      exact absurd h hnew
    · next h =>
      simp only [List.mem_singleton, Prod.mk.injEq, chunk?, Option.some.injEq]
      constructor
      · rintro ⟨rfl, rfl⟩
        exact ⟨rfl, h, rfl⟩
      · rintro ⟨rfl, -, rfl⟩
        exact ⟨rfl, rfl⟩

/-- The first chunks are those of the subscribers. -/
theorem mem_firstChunks {i : Nat} {c : Bytes} : (i, c) ∈ firstChunks record ↔ firstChunk (got i record) = some c := by
  induction record using List.reverseRecOn generalizing c with
  | nil => exact iff_of_false List.not_mem_nil (Option.some_ne_none c).symm
  | append_singleton record e ih =>
    obtain ⟨j, x⟩ := e
    have hold : i ∈ (firstChunks record).map Prod.fst ↔ ∃ c, firstChunk (got i record) = some c := by
      simp only [List.mem_map, Prod.exists, exists_and_right, exists_eq_right, ih]
    rw [firstChunks_concat, List.mem_append, mem_opening, ih, hold]
    by_cases hj : j = i
    · subst hj
      rw [got_concat_self, firstChunk_concat]
      cases firstChunk (got j record) <;> simp
    · rw [got_concat_of_ne hj]
      simp [hj]

theorem mem_subscribers {i : Nat} :
    i ∈ (firstChunks record).map Prod.fst ↔ (firstChunk (got i record)).isSome = true := by
  simp only [List.mem_map, Prod.exists, exists_and_right, exists_eq_right, mem_firstChunks, Option.isSome_iff_exists]

/-- No subscriber has two. -/
theorem firstChunks_nodup : ((firstChunks record).map Prod.fst).Nodup := by
  induction record using List.reverseRecOn with
  | nil => exact List.nodup_nil
  | append_singleton record e ih =>
    rw [firstChunks_concat, List.map_append]
    refine List.nodup_append.mpr ⟨ih, ?_, ?_⟩
    · obtain ⟨i, _ | _ | c⟩ := e
      · exact List.nodup_nil
      · exact List.nodup_nil
      · rw [opening]
        split
        · exact List.nodup_nil
        · exact List.pairwise_singleton ..
    · intro i hi j hj hij
      subst hij
      obtain ⟨⟨i, c⟩, hc, rfl⟩ := List.mem_map.mp hj
      exact (mem_opening.mp hc).2.1 hi

/-- Who got a first chunk is in the record. -/
theorem firstChunks_known {first : Nat × Bytes} (h : first ∈ firstChunks record) : ∃ e ∈ record, e.1 = first.1 := by
  by_contra hunknown
  have hgot : got first.1 record = [] := got_of_unknown fun e he hi => hunknown ⟨e, he, hi⟩
  have hfirst := mem_firstChunks.mp h
  rw [hgot] at hfirst
  exact absurd hfirst.symm (Option.some_ne_none _)

/-- Readers whose subscriptions are to the given bodies: each got the first items of its body and has the rest;
    each first chunk was shown to the hooks of its body, and nothing else was shown to any. -/
structure Fits (bs : List (Body W)) (w : W) (s : Readers W) : Prop where
  rests : s.rests = bs.mapIdx fun i b => b.rest (got i s.record).length
  answers : ∀ i b, bs[i]? = some b → got i s.record = b.answers (got i s.record).length
  known : ∀ e ∈ s.record, e.1 < bs.length
  world : s.world = (firstChunks s.record).foldl (showTo bs) w

theorem Fits.subscribe (h : Fits bs w s) (b : Body W) : Fits (bs ++ [b]) w (s.turn (.subscribe b)) := by
  have hnew : got bs.length s.record = [] := got_of_unknown fun e he => Nat.ne_of_lt (h.known e he)
  refine ⟨?_, fun i b' hb' => ?_, fun e he => ?_, ?_⟩
  · show s.rests ++ [b.subscribe] = _
    rw [List.mapIdx_concat]
    show _ = List.mapIdx _ bs ++ [b.rest (got bs.length s.record).length]
    rw [hnew, h.rests]
    rfl
  · show got i s.record = b'.answers (got i s.record).length
    rw [List.getElem?_append] at hb'
    split at hb'
    · exact h.answers i b' hb'
    · next hi =>
      rw [got_of_unknown fun e he => Nat.ne_of_lt (Nat.lt_of_lt_of_le (h.known e he) (Nat.not_lt.mp hi))]
      rfl
  · rw [List.length_append]
    exact Nat.lt_add_right _ (h.known e he)
  · show s.world = _
    rw [h.world]
    refine List.foldl_ext _ _ _ fun w first hfirst => ?_
    obtain ⟨e, he, hi⟩ := firstChunks_known hfirst
    have hold : (bs ++ [b])[first.1]? = bs[first.1]? := List.getElem?_append_left (hi ▸ h.known e he)
    rw [showTo, showTo, hold]

/-- What the next answer of a subscription does: its item is handed out, and a first chunk is shown to the hooks. -/
theorem Fits.next (h : Fits bs w s) {i : Nat} {b : Body W} (hb : bs[i]? = some b) :
    s.turn (.read i) = ⟨b.hooked (got i s.record).length s.world,
      s.rests.set i (b.rest ((got i s.record).length + 1)), s.record ++ [(i, b.items[(got i s.record).length]?)]⟩ := by
  have hrest : s.rests[i]? = some (b.rest (got i s.record).length) := by
    rw [h.rests, List.getElem?_mapIdx, hb]
    rfl
  simp only [turn, hrest, rest_answer]

/-- The hooks are shown what is a first chunk for the subscriber. -/
theorem hooked_eq {i : Nat} {b : Body W} (hb : bs[i]? = some b) (n : Nat) (hgot : got i record = b.answers n) (w : W) :
    b.hooked n w = (opening (firstChunks record) (i, b.items[n]?)).foldl (showTo bs) w := by
  have hold : i ∈ (firstChunks record).map Prod.fst ↔ (firstChunk (b.answers n)).isSome = true := hgot ▸ mem_subscribers
  rw [hooked]
  rcases b.items[n]? with _ | e | c
  · cases firstChunk (b.answers n) <;> rfl
  · cases firstChunk (b.answers n) <;> rfl
  · rw [opening]
    cases hfirst : firstChunk (b.answers n) with
    | none =>
      rw [if_neg fun hi => by simpa [hfirst] using hold.mp hi]
      show _ = showTo bs w (i, c)
      rw [showTo, hb]
      rfl
    | some c' =>
      rw [if_pos (hold.mpr (hfirst ▸ rfl))]
      rfl

theorem Fits.read (h : Fits bs w s) (i : Nat) : Fits bs w (s.turn (.read i)) := by
  cases hb : bs[i]? with
  | none =>
    have hrest : s.rests[i]? = none := by
      rw [h.rests, List.getElem?_mapIdx, hb]
      rfl
    simpa only [turn, hrest] using h
  | some b =>
    rw [h.next hb]
    refine ⟨?_, fun j b' hb' => ?_, fun e he => ?_, ?_⟩
    · refine List.ext_getElem? fun j => ?_
      rw [List.getElem?_mapIdx]
      by_cases hj : i = j
      · subst hj
        have hi : i < s.rests.length := by
          rw [h.rests, List.length_mapIdx]
          exact (List.getElem?_eq_some_iff.mp hb).1
        rw [List.getElem?_set_self hi, hb, got_concat_self, List.length_append]
        rfl
      · rw [List.getElem?_set_ne hj, got_concat_of_ne hj, h.rests, List.getElem?_mapIdx]
    · by_cases hj : i = j
      · subst hj
        obtain rfl : b = b' := Option.some.inj (hb ▸ hb')
        rw [got_concat_self, List.length_append, List.length_singleton, answers_succ, ← h.answers i b hb]
      · rw [got_concat_of_ne hj]
        exact h.answers j b' hb'
    · rcases List.mem_append.mp he with he | he
      · exact h.known e he
      · rw [List.mem_singleton.mp he]
        exact (List.getElem?_eq_some_iff.mp hb).1
    · rw [hooked_eq hb _ (h.answers i b hb), firstChunks_concat, List.foldl_append, ← h.world]

/-- Readers stay what `Fits` says, turn after turn. -/
theorem run_fits (w : W) (turns : List (Turn W)) : Fits (bodies turns) w (run w turns) := by
  induction turns using List.reverseRecOn with
  | nil => exact ⟨rfl, fun _ _ h => absurd h.symm (Option.some_ne_none _), fun _ h => absurd h List.not_mem_nil, rfl⟩
  | append_singleton turns t ih =>
    rw [run, List.foldl_append, bodies, List.filterMap_append]
    cases t with
    | subscribe b => exact ih.subscribe b
    | read i => exact (List.append_nil (bodies turns)).symm ▸ ih.read i

/-- Who reads alone gets the items of the body. -/
theorem run_alone (w : W) (b : Body W) : ∀ n : Nat,
    (run w (.subscribe b :: List.replicate n (.read 0))).record = (b.answers n).map fun x => (0, x)
  | 0 => rfl
  | n + 1 => by
    have hbodies : bodies (.subscribe b :: List.replicate n (.read 0)) = [b] := by
      have hreads : bodies (List.replicate n (.read 0)) = ([] : List (Body W)) := List.filterMap_replicate_of_none rfl
      exact congrArg (List.cons b) hreads
    have hfits := hbodies ▸ run_fits w (.subscribe b :: List.replicate n (.read 0))
    have hlast : run w (.subscribe b :: List.replicate (n + 1) (.read 0))
        = (run w (.subscribe b :: List.replicate n (.read 0))).turn (.read 0) := by
      rw [List.replicate_succ', ← List.cons_append, run, List.foldl_append]
      rfl
    have hcount : (b.answers n).length = n := by rw [answers, List.length_map, List.length_range]
    rw [hlast, hfits.next rfl, run_alone w b n, got_alone, hcount, answers_succ, List.map_append]
    rfl

/-- Whoever subscribes to whatever bodies and reads in whatever turns: each subscription gets the items of its
    body one by one, the same as one without hooks that is read alone, and with its next answer the next item.
    Hooks see the first chunk of each subscription when it is handed out, the hooks of one body in their order,
    and see nothing else; no subscription has two first chunks, and its first chunk is the first of its answers
    that is one, whatever failures come before. The hooks of a body are those that were put around it, the first
    one innermost, and each goes by what its own subscription was shown. -/
theorem subscriptions_apart (w : W) (turns : List (Turn W)) :
    (∀ i b, (bodies turns)[i]? = some b →
      got i (run w turns).record = b.answers (got i (run w turns).record).length ∧
      (∀ w' : W, (run w' (.subscribe (.ofItems b.items) ::
          List.replicate (got i (run w turns).record).length (.read 0))).record
        = (got i (run w turns).record).map fun x => (0, x)) ∧
      (run w (turns ++ [.read i])).record
        = (run w turns).record ++ [(i, b.items[(got i (run w turns).record).length]?)]) ∧
    (run w turns).world = (firstChunks (run w turns).record).foldl (showTo (bodies turns)) w ∧
    ((firstChunks (run w turns).record).map Prod.fst).Nodup ∧
    (∀ i c, (i, c) ∈ firstChunks (run w turns).record ↔ firstChunk (got i (run w turns).record) = some c) ∧
    (∀ (hooks : List (Bytes → W → W)) (items : List (Except Failure Bytes)),
      tapped hooks (.ofItems items) = ⟨items, hooks⟩) ∧
    ∀ (b : Body W) (hook : Bytes → W → W) (w' : W),
      (b.tapFirst hook).subscribe w' = (b.subscribe w').tapOnce hook false := by
  have hfits := run_fits w turns
  refine ⟨fun i b hb => ⟨hfits.answers i b hb, fun w' => ?_, ?_⟩, hfits.world, firstChunks_nodup,
    fun _ _ => mem_firstChunks, fun hooks items => tapped_eq hooks (.ofItems items), subscribe_tapFirst⟩
  · have hsame : (Body.ofItems b.items : Body W).answers = b.answers := rfl
    rw [run_alone, hsame, ← hfits.answers i b hb]
  · have hlast : run w (turns ++ [.read i]) = (run w turns).turn (.read i) := List.foldl_concat ..
    rw [hlast, hfits.next hb]

end Readers
end Courier
