import Courier.Proofs.Alike.Stage
import Courier.Proofs.Lines
import Courier.Proofs.Noted

/-! Lines and the chunks that they take.

    What lines are decoded to depends on the bytes of the chunks and on how these end, not on where the
    bytes are cut. A value is handed out as soon as the chunk with its newline is there, and nothing is
    taken behind a failure (`decodeLines_scheduled`). -/

namespace Courier.Codec

variable {W α E : Type}

/-! ### Sources -/

/-- The chunks before the first failure. -/
def goodChunks : List (Except Failure Bytes) → List Bytes
  | .ok chunk :: rest => chunk :: goodChunks rest
  | _ => []

/-- The first failure. -/
def firstFailure : List (Except Failure Bytes) → Option Failure
  | [] => none
  | .error e :: _ => some e
  | .ok _ :: rest => firstFailure rest

/-- The bytes before the first failure. -/
def bytesOf (source : List (Except Failure Bytes)) : Bytes := (goodChunks source).flatten

/-- The lines that end in a newline, with it. -/
def completeLines (bs : Bytes) : List Bytes := (bs.splitOn 10).dropLast.map (· ++ [10])

/-- What stands behind the last newline. -/
def openLine (bs : Bytes) : Bytes := (bs.splitOn 10).getLastD []

/-- The number of the chunk with the `i`-th newline, both counted from one. -/
def chunkOf : List Bytes → Nat → Nat
  | [], _ => 0
  | c :: cs, i => if i ≤ c.count 10 then 1 else chunkOf cs (i - c.count 10) + 1

/-! ### Schedules -/

/-- What is taken of a source: an item of it, or that it has ended. -/
inductive Pull where
  | item (item : Except Failure Bytes)
  | ended

/-- All that can be taken of a source, in order. -/
def pullsOf (source : List (Except Failure Bytes)) : List Pull := source.map .item ++ [.ended]

/-- The stream hands out these items, each when so many of all pulls were made, and ends after `last` of
    them. What else is done to the surroundings between two items does not matter. -/
def Scheduled (all : List E) (last : Nat) : Step (Noted W E) α → List (Nat × α) → Prop
  | .done v, [] => v.notes = all.take last
  | .item v x more, (k, y) :: items =>
    v.notes = all.take k ∧ x = y ∧ ∀ w, Scheduled all last (more ⟨w, v.notes⟩) items
  | _, _ => False

/-- The items of lines of which `i` stand before the first, each with the pulls up to its newline, and
    `more` behind them. -/
def timedItems (pulls : Nat → Nat) (more : List (Nat × Except Failure Json)) :
    Nat → List Bytes → List (Nat × Except Failure Json)
  | _, [] => more
  | i, l :: ls =>
    if isBlank l then timedItems pulls more (i + 1) ls
    else match decodeText l with
      | .ok j => (pulls (i + 1), .ok j) :: timedItems pulls more (i + 1) ls
      | .error e => [(pulls (i + 1), .error e)]

/-- The item behind all complete lines: the failure of the source, or what the open line is decoded to
    unless it is blank. -/
def lastItem (failure : Option Failure) (line : Bytes) : List (Except Failure Json) := match failure with
  | some e => [.error e]
  | none => if isBlank line then [] else [decodeText line]

/-- The items that the lines of a source are decoded to, each with the number of pulls before it. -/
def schedule (source : List (Except Failure Bytes)) : List (Nat × Except Failure Json) :=
  let chunks := goodChunks source
  timedItems (chunkOf chunks)
    ((lastItem (firstFailure source) (openLine (bytesOf source))).map fun x => (chunks.length + 1, x)) 0
    (completeLines (bytesOf source))

/-- The number of pulls before the end: none behind a failure, else all of `total`. -/
def pullsAtEnd (total : Nat) : List (Nat × Except Failure Json) → Nat
  | [] => total
  | (_, .ok _) :: items => pullsAtEnd total items
  | (k, .error _) :: _ => k

/-! ### Lines and newlines -/

theorem cutLines_eq (bs : Bytes) : cutLines bs = (completeLines bs, openLine bs) := by
  have hne : ∀ bs : Bytes, bs.splitOn 10 ≠ [] := fun bs => List.splitOn_ne_nil 10 bs
  induction bs with
  | nil => rfl
  | cons b bs ih =>
    rw [completeLines, openLine] at ih ⊢
    rw [List.splitOn_cons_eq_if_modifyHead]
    obtain ⟨piece, pieces, hpieces⟩ := List.exists_cons_of_ne_nil (hne bs)
    rw [hpieces] at ih ⊢
    by_cases hb : b = 10
    · subst hb
      rw [cutLines, ih]
      rfl
    · rw [cutLines_cons hb, ih, if_neg (by simpa using hb)]
      cases pieces <;> rfl

/-- There are as many complete lines as newlines. -/
theorem cutLines_length (bs : Bytes) : (cutLines bs).1.length = bs.count 10 := by
  induction bs with
  | nil => rfl
  | cons b bs ih =>
    by_cases hb : b = 10
    · subst hb
      rw [List.count_cons_self, ← ih]
      rfl
    · rw [List.count_cons_of_ne hb, ← ih, cutLines_cons hb]
      cases (cutLines bs).1 <;> rfl

/-- Bytes that arrive later make lines with what is left of those before. -/
theorem cutLines_append (bs more : Bytes) : cutLines (bs ++ more)
    = ((cutLines bs).1 ++ (cutLines ((cutLines bs).2 ++ more)).1, (cutLines ((cutLines bs).2 ++ more)).2) := by
  have hlines := linesOf_append bs more
  rw [linesOf, linesOf, ← List.append_assoc] at hlines
  obtain ⟨hcomplete, hopen⟩ := List.append_inj' hlines rfl
  exact Prod.ext hcomplete (List.cons.inj hopen).1

/-- The chunk that brings the number of newlines to `i` is the one with the `i`-th newline. -/
theorem chunkOf_eq {chunks : List Bytes} {n i : Nat} (hbefore : (chunks.take n).flatten.count 10 < i)
    (hafter : i ≤ (chunks.take (n + 1)).flatten.count 10) : chunkOf chunks i = n + 1 := by
  induction chunks generalizing n i with
  | nil =>
    simp only [List.take_nil, List.flatten_nil, List.count_nil] at hafter hbefore
    omega
  | cons c cs ih =>
    rw [chunkOf]
    cases n with
    | zero =>
      simp only [Nat.zero_add, List.take_succ_cons, List.take_zero, List.flatten_cons, List.flatten_nil,
        List.append_nil] at hafter
      rw [if_pos hafter]
    | succ n =>
      simp only [List.take_succ_cons, List.flatten_cons, List.count_append] at hbefore hafter
      rw [if_neg (by omega), ih (n := n) (by omega) (by omega)]

/-- The `i`-th newline is in its chunk, and in none before. -/
theorem chunkOf_spec {chunks : List Bytes} {i : Nat} (hpos : 0 < i) (hi : i ≤ chunks.flatten.count 10) :
    ∃ n, chunkOf chunks i = n + 1 ∧ (chunks.take n).flatten.count 10 < i ∧
      i ≤ (chunks.take (n + 1)).flatten.count 10 := by
  induction chunks generalizing i with
  | nil =>
    simp only [List.flatten_nil, List.count_nil] at hi
    omega
  | cons c cs ih =>
    rw [chunkOf]
    by_cases hc : i ≤ c.count 10
    · exact ⟨0, if_pos hc, by simpa using hpos, by simpa using hc⟩
    · simp only [List.flatten_cons, List.count_append] at hi
      obtain ⟨n, hn, hbefore, hafter⟩ := ih (i := i - c.count 10) (by omega) (by omega)
      refine ⟨n + 1, by rw [if_neg hc, hn], ?_, ?_⟩ <;>
        simp only [List.take_succ_cons, List.flatten_cons, List.count_append] <;> omega

/-! ### Timed items -/

section Timed

variable {pulls pulls' : Nat → Nat} {more : List (Nat × Except Failure Json)}

theorem timedItems_append (i : Nat) (ls ls' : List Bytes) :
    timedItems pulls more i (ls ++ ls') = timedItems pulls (timedItems pulls more (i + ls.length) ls') i ls := by
  induction ls generalizing i with
  | nil => rfl
  | cons l ls ih =>
    have hlength : i + (l :: ls).length = i + 1 + ls.length := by
      rw [List.length_cons]
      omega
    rw [List.cons_append, timedItems, timedItems, ih, hlength]

theorem timedItems_congr {i : Nat} {ls : List Bytes}
    (h : ∀ m, i < m → m ≤ i + ls.length → pulls m = pulls' m) :
    timedItems pulls more i ls = timedItems pulls' more i ls := by
  induction ls generalizing i with
  | nil => rfl
  | cons l ls ih =>
    rw [List.length_cons] at h
    have hrest := ih (i := i + 1) fun m hm hm' => h m (by omega) (by omega)
    rw [timedItems, timedItems, hrest, h (i + 1) (by omega) (by omega)]

/-- Without the pulls, the items are those of the lines. -/
theorem timedItems_snd (i : Nat) (ls : List Bytes) :
    (timedItems pulls more i ls).map Prod.snd = lineItems (more.map Prod.snd) ls := by
  induction ls generalizing i with
  | nil => rfl
  | cons l ls ih =>
    rw [timedItems, lineItems, ← ih (i + 1)]
    split
    · rfl
    · cases decodeText l <;> rfl

end Timed

theorem schedule_snd (source : List (Except Failure Bytes)) : (schedule source).map Prod.snd
    = lineItems (lastItem (firstFailure source) (openLine (bytesOf source))) (completeLines (bytesOf source)) := by
  rw [schedule, timedItems_snd, List.map_map]
  exact congrArg (lineItems · _) (List.map_id _)

/-! ### Decoding on schedule -/

/-- Lines of one chunk are handed out without another pull. -/
theorem emitLines_scheduled {all : List E} {total k : Nat} {next : Stream (Noted W E) (Except Failure Json)}
    {items : List (Nat × Except Failure Json)}
    (hnext : ∀ w, Scheduled all (pullsAtEnd total items) (next ⟨w, all.take k⟩) items) (i : Nat) (ls : List Bytes) :
    ∀ w, Scheduled all (pullsAtEnd total (timedItems (fun _ => k) items i ls))
      (emitLines next ls ⟨w, all.take k⟩) (timedItems (fun _ => k) items i ls) := by
  induction ls generalizing i with
  | nil => exact hnext
  | cons l ls ih =>
    intro w
    rw [emitLines, timedItems]
    by_cases hl : isBlank l = true
    · rw [if_pos hl, if_pos hl]
      exact ih (i + 1) w
    · rw [if_neg hl, if_neg hl]
      cases decodeText l with
      | ok j => exact ⟨rfl, rfl, ih (i + 1)⟩
      | error e => exact ⟨rfl, rfl, fun _ => rfl⟩

/-- One more is taken of what is left. -/
theorem take_drop_succ {xs rest : List α} {x : α} {n : Nat} (h : xs.drop n = x :: rest) :
    xs.take (n + 1) = xs.take n ++ [x] ∧ xs.drop (n + 1) = rest := by
  rw [List.take_add, ← List.drop_drop, h]
  exact ⟨rfl, rfl⟩

section Arriving

variable {chunks : List Bytes} {buffer chunk : Bytes} {n : Nat}

/-- The lines that a chunk completes have their newlines in it. -/
theorem count_arrived (hbuffer : cutLines buffer = ([], buffer))
    (htake : chunks.take (n + 1) = chunks.take n ++ [chunk]) : (chunks.take (n + 1)).flatten.count 10
      = (chunks.take n).flatten.count 10 + (cutLines (buffer ++ chunk)).1.length := by
  have hnone : buffer.count 10 = 0 := by rw [← cutLines_length, hbuffer]; rfl
  rw [htake, List.flatten_append, List.count_append, cutLines_length, List.count_append, hnone]
  simp

theorem timedItems_arrived (hbuffer : cutLines buffer = ([], buffer))
    (htake : chunks.take (n + 1) = chunks.take n ++ [chunk]) (more : List (Nat × Except Failure Json)) :
    timedItems (chunkOf chunks) more ((chunks.take n).flatten.count 10) (cutLines (buffer ++ chunk)).1
      = timedItems (fun _ => n + 1) more ((chunks.take n).flatten.count 10) (cutLines (buffer ++ chunk)).1 := by
  refine timedItems_congr fun m hm hm' => chunkOf_eq hm ?_
  rwa [count_arrived hbuffer htake]

end Arriving

variable {all : List Pull} {chunks : List Bytes}

/-- Lines of which `buffer` has arrived with the first `n` chunks are decoded on schedule. -/
theorem linesFrom_scheduled (t : Step W (Except Failure Bytes)) :
    ∀ {rest : List (Except Failure Bytes)} {buffer : Bytes} {n : Nat}, t.Gives rest →
      cutLines buffer = ([], buffer) → all.drop n = pullsOf rest → chunks.drop n = goodChunks rest →
      n ≤ chunks.length → ∀ items, items = timedItems (chunkOf chunks)
        ((lastItem (firstFailure rest) (cutLines (buffer ++ bytesOf rest)).2).map fun x => (chunks.length + 1, x))
        ((chunks.take n).flatten.count 10) (cutLines (buffer ++ bytesOf rest)).1 →
      Scheduled all (pullsAtEnd (chunks.length + 1) items)
        (linesFrom buffer (t.noted (fun x => [.item x]) [.ended] [] (all.take n))) items := by
  induction t with
  | done w =>
    intro rest buffer n hgives hbuffer hall hchunks hn items hitems
    obtain rfl : rest = [] := hgives
    have hlength : chunks.length = n := Nat.le_antisymm (List.drop_eq_nil_iff.mp hchunks) hn
    obtain ⟨htaken, -⟩ := take_drop_succ hall
    simp only [bytesOf, goodChunks, List.flatten_nil, List.append_nil, hbuffer, firstFailure, lastItem,
      timedItems] at hitems
    subst hitems
    rw [Step.noted, ← htaken, linesFrom, hlength]
    split
    · rfl
    · refine ⟨rfl, rfl, fun w => ?_⟩
      rw [List.map_nil]
      cases decodeText buffer <;> rfl
  | item w x more ih =>
    intro rest buffer n hgives hbuffer hall hchunks hn items hitems
    obtain ⟨rest, rfl, hmore⟩ := hgives
    obtain ⟨htaken, hdrop⟩ := take_drop_succ hall
    cases x with
    | error e =>
      have hlength : chunks.length = n := Nat.le_antisymm (List.drop_eq_nil_iff.mp hchunks) hn
      simp only [bytesOf, goodChunks, List.flatten_nil, List.append_nil, hbuffer, firstFailure, lastItem,
        timedItems] at hitems
      subst hitems
      rw [Step.noted, ← htaken, linesFrom, hlength]
      exact ⟨rfl, rfl, fun _ => rfl⟩
    | ok chunk =>
      obtain ⟨htake, hnext⟩ := take_drop_succ hchunks
      have hlt : n < chunks.length := by
        rw [← List.drop_eq_nil_iff.not.trans Nat.not_le, hchunks]
        exact List.cons_ne_nil _ _
      have hbytes : buffer ++ bytesOf (.ok chunk :: rest) = buffer ++ chunk ++ bytesOf rest := by
        rw [bytesOf, goodChunks, List.flatten_cons, List.append_assoc]
        rfl
      rw [hbytes, cutLines_append, timedItems_append, ← count_arrived hbuffer htake, firstFailure,
        timedItems_arrived hbuffer htake] at hitems
      subst hitems
      rw [Step.noted, ← htaken, linesFrom]
      exact emitLines_scheduled (fun w => ih w (hmore w) (cutLines_left _) hdrop hnext hlt _ rfl) _ _ w
  | never w => exact fun hgives => hgives.elim

/-- A stream on schedule has the items of the schedule, also without the notes of its source. -/
theorem Scheduled.gives {all : List E} {last : Nat} : ∀ {t : Step (Noted W E) α} {t' : Step W α}
    {items : List (Nat × α)}, Scheduled all last t items → t.Alike Noted.Over t' → t'.Gives (items.map Prod.snd)
  | .done _, .done _, [], _, _ => rfl
  | .item v _ _, .item _ _ _, _ :: _, ⟨_, rfl, hmore⟩, ⟨_, rfl, halike⟩ =>
    ⟨_, rfl, fun w => (hmore w).gives (halike ⟨w, v.notes⟩ w rfl)⟩

/-- The schedule says when the stream ends. -/
theorem Scheduled.last_eq {all : List E} {last last' : Nat} : ∀ {t : Step (Noted W E) α} {items : List (Nat × α)},
    Scheduled all last t items → Scheduled all last' t items → all.take last = all.take last'
  | .done _, [], h, h' => h.symm.trans h'
  | .item v _ _, _ :: _, ⟨_, _, h⟩, ⟨_, _, h'⟩ => (h v.world).last_eq (h' v.world)

theorem decodeLines_onSchedule {s : Stream W (Except Failure Bytes)} {source : List (Except Failure Bytes)}
    (h : s.Gives source) (w : W) :
    Scheduled (pullsOf source) (pullsAtEnd ((goodChunks source).length + 1) (schedule source))
      (decodeLines (s.noted (fun x => [.item x]) [.ended] []) ⟨w, []⟩) (schedule source) := by
  refine linesFrom_scheduled (s w) (n := 0) (h w) rfl rfl rfl (Nat.zero_le _) _ ?_
  rw [List.nil_append, cutLines_eq]
  rfl

/-- The items are those of the bytes before the first failure of the source: what each complete line is
    decoded to up to the first that is no value, then the failure, or what the open line is decoded to at
    the end. So they do not depend on how the bytes are cut. Each is handed out when the source has been
    asked for the chunk with its newline, or for its end, and for nothing more; nothing is taken behind a
    failure, else the stream ends when the source has. -/
theorem decodeLines_scheduled {s : Stream W (Except Failure Bytes)} {source : List (Except Failure Bytes)}
    (h : s.Gives source) (w : W) :
    Scheduled (pullsOf source) (pullsAtEnd ((goodChunks source).length + 1) (schedule source))
      (decodeLines (s.noted (fun x => [.item x]) [.ended] []) ⟨w, []⟩) (schedule source) ∧
    (decodeLines s w).Gives ((schedule source).map Prod.snd) ∧
    (schedule source).map Prod.snd = lineItems (lastItem (firstFailure source) (openLine (bytesOf source)))
      (completeLines (bytesOf source)) ∧
    (∀ source', bytesOf source' = bytesOf source → firstFailure source' = firstFailure source →
      (schedule source').map Prod.snd = (schedule source).map Prod.snd) ∧
    ∀ i, 0 < i → i ≤ (bytesOf source).count 10 → ∃ n, chunkOf (goodChunks source) i = n + 1 ∧
      ((goodChunks source).take n).flatten.count 10 < i ∧
      i ≤ ((goodChunks source).take (n + 1)).flatten.count 10 := by
  have hscheduled := decodeLines_onSchedule h w
  refine ⟨hscheduled, ?_, schedule_snd source, fun source' hbytes hfailure => ?_, fun i => chunkOf_spec⟩
  · exact hscheduled.gives (decodeLines_alike (Stream.noted_alike _ _ _ s) ⟨w, []⟩ w rfl)
  · rw [schedule_snd, schedule_snd, hbytes, hfailure]

/-- The bytes of two lines cut inside the first, with a chunk in between that is empty, and a failure
    behind the rest of a third. -/
def cutInside : List (Except Failure Bytes) :=
  [.ok (Text.bytes "[1"), .ok [], .ok (Text.bytes "]\n\n2\n3"), .error (.other "torn")]

theorem schedule_cutInside : schedule cutInside
    = [(3, .ok (.array [.ofNat 1])), (3, .ok (.ofNat 2)), (4, .error (.other "torn"))] := rfl

/-- The failure takes the place of the third line. -/
theorem scheduled_of_cutInside : (Stream.ofList cutInside : Stream Unit _).Gives cutInside ∧
    Scheduled (pullsOf cutInside) 4
      (decodeLines ((Stream.ofList cutInside).noted (fun x => [.item x]) [.ended] []) ⟨(), []⟩)
      [(3, .ok (.array [.ofNat 1])), (3, .ok (.ofNat 2)), (4, .error (.other "torn"))] := by
  have hgives : (Stream.ofList cutInside : Stream Unit _).Gives cutInside := Stream.ofList_gives _
  obtain ⟨hscheduled, -⟩ := decodeLines_scheduled hgives ()
  rw [schedule_cutInside] at hscheduled
  exact ⟨hgives, hscheduled⟩

/-- A line and an empty one, each in a chunk of its own. -/
def blankEnd : List (Except Failure Bytes) := [.ok (Text.bytes "1\n"), .ok (Text.bytes "\n")]

/-- The empty line is taken behind the last item. -/
theorem pulled_behind_last :
    Scheduled (pullsOf blankEnd) 3
      (decodeLines ((Stream.ofList blankEnd).noted (fun x => [.item x]) [.ended] []) ⟨(), []⟩)
      [(1, .ok (.ofNat 1))] ∧
    ¬ Scheduled (pullsOf blankEnd) 1
      (decodeLines ((Stream.ofList blankEnd).noted (fun x => [.item x]) [.ended] []) ⟨(), []⟩)
      [(1, .ok (.ofNat 1))] := by
  have hscheduled := decodeLines_onSchedule (Stream.ofList_gives (W := Unit) blankEnd) ()
  have hschedule : schedule blankEnd = [(1, .ok (.ofNat 1))] := rfl
  rw [hschedule] at hscheduled
  refine ⟨hscheduled, fun hnone => ?_⟩
  have hsame := congrArg List.length (hscheduled.last_eq hnone)
  simp [pullsAtEnd, goodChunks, blankEnd, pullsOf] at hsame

end Courier.Codec
