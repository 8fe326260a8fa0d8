import Courier.Proofs.Lines

/-! Bodies off the wire and bodies in memory.

    The body of an answer is decoded while its chunks come in, or when all of them are there. Either way
    its elements are those of the same bytes in memory; if there is a malformed text, the elements before
    it may have been handed out already (`body_agrees`). -/

namespace Courier

namespace Codec

variable {type : Option String} {data : Bytes}

/-- Pieces of blanks are blank. -/
theorem splitOn_blank (h : isBlank data = true) : ∀ piece ∈ data.splitOn 10, isBlank piece = true := by
  induction data with
  | nil => simp [isBlank]
  | cons b bs ih =>
    rw [isBlank, List.all_cons, Bool.and_eq_true] at h
    have hpieces := ih h.2
    rw [List.splitOn_cons_eq_if_modifyHead]
    split
    · exact List.forall_mem_cons.mpr ⟨rfl, hpieces⟩
    · generalize bs.splitOn 10 = pieces at hpieces ⊢
      cases pieces with
      | nil => exact List.forall_mem_nil _
      | cons piece pieces =>
        obtain ⟨hpiece, hpieces⟩ := List.forall_mem_cons.mp hpieces
        refine List.forall_mem_cons.mpr ⟨?_, hpieces⟩
        rw [isBlank, List.all_cons, h.1]
        exact hpiece

theorem decodeEach_blank {lines : List Bytes} (h : ∀ l ∈ lines, isBlank l = true) :
    decodeEach lines = .ok [] := by
  induction lines with
  | nil => rfl
  | cons l ls ih =>
    obtain ⟨hl, hls⟩ := List.forall_mem_cons.mp h
    rw [decodeEach, hl, if_pos rfl, ih hls]

/-- The lines of a body are decoded one by one, also if all of them are blank. -/
theorem decodeBody_lines (htype : isStreaming type = true) (data : Bytes) :
    decodeBody .flux type data = decodeEach (data.splitOn 10) := by
  cases hblank : isBlank data with
  | true => rw [decodeBody_blank hblank, decodeEach_blank (splitOn_blank hblank)]
  | false => rw [decodeBody_many hblank, htype, if_pos rfl]

/-- A body that is decoded as a whole has elements, or it is malformed. -/
theorem decodeBody_cases (arity : Arity) (type : Option String) (data : Bytes) :
    (∃ js, decodeBody arity type data = .ok js) ∨ ∃ m, decodeBody arity type data = .error (.decode m) := by
  have hmap : ∀ f : Json → List Json, (∃ js, (decodeText data).map f = .ok js) ∨
      ∃ m, (decodeText data).map f = .error (.decode m) := by
    intro f
    cases hvalue : decodeText data with
    | ok j => exact .inl ⟨f j, rfl⟩
    | error e =>
      obtain ⟨m, rfl⟩ := decodeText_error hvalue
      exact .inr ⟨m, rfl⟩
  cases hblank : isBlank data with
  | true => exact .inl ⟨[], decodeBody_blank hblank⟩
  | false => cases arity with
  | mono =>
    rw [decodeBody_one hblank]
    exact hmap _
  | flux =>
    rw [decodeBody_many hblank]
    split
    · rcases lines_decoded (linesOf_pieces data) with ⟨js, -, heach⟩ | ⟨-, -, m', -, -, heach⟩
      · exact .inl ⟨js, heach⟩
      · exact .inr ⟨m', heach⟩
    · exact hmap _

end Codec

variable {W : Type} {data : Bytes}

theorem BufferedResponse.gives (r : BufferedResponse) : (r.toResponse : Response W).Gives r.elements :=
  fun _ => ⟨Stream.ofList r.elements, rfl, Stream.ofList_gives r.elements⟩

/-- A body that is read as a whole has the elements of all its bytes. -/
theorem wholeBody_gives {chunks : Stream W (Except Failure Bytes)} (h : chunks.Carries data) (status : Nat)
    (arity : Arity) (headers : Http.Headers) :
    (Transport.wholeBody arity (Codec.contentType headers) chunks).Gives
      (BufferedResponse.elements ⟨status, arity, headers, data⟩) := by
  intro w
  obtain ⟨w', hread⟩ := h.readAll w
  rw [Transport.wholeBody, BufferedResponse.elements, hread]
  simp only
  cases Codec.decodeBody arity (Codec.contentType headers) data with
  | error e => exact ⟨[], rfl, fun _ => rfl⟩
  | ok js => exact Stream.ofList_gives _ w'

/-- The body of an answer off the wire, however its bytes were cut into chunks, and the body of a response
    that has these bytes in memory have the same elements, or a malformed text fails them both. If lines
    are decoded as they arrive, the elements of those before the malformed one come first. -/
theorem body_agrees (arity : Arity) (status : Nat) (headers : Http.Headers)
    {chunks : Stream W (Except Failure Bytes)} (h : chunks.Carries data) :
    ∃ items buffered : List (Except Failure Json),
      (Transport.toResponse arity status headers chunks).Gives items ∧
      (BufferedResponse.toResponse ⟨status, arity, headers, data⟩ : Response W).Gives buffered ∧
      ((∃ js : List Json, items = js.map .ok ∧ buffered = js.map .ok) ∨
        ∃ m m', buffered = [.error (.decode m')] ∧
          if arity = .flux ∧ Codec.isStreaming (Codec.contentType headers) = true then
            ∃ js : List Json, Codec.BreaksAt (data.splitOn 10) js m' ∧ items = js.map .ok ++ [.error (.decode m)]
          else items = [.error (.decode m)] ∧ m = m') := by
  have hbuffered := BufferedResponse.gives (W := W) ⟨status, arity, headers, data⟩
  by_cases hlines : arity = .flux ∧ Codec.isStreaming (Codec.contentType headers) = true
  · simp only [if_pos hlines]
    obtain ⟨rfl, htype⟩ := hlines
    refine ⟨_, _, fun w => ⟨_, ?_, Codec.decodeLines_gives h⟩, hbuffered, ?_⟩
    · simp only [Transport.toResponse, htype, beq_self_eq_true, Bool.and_self, ↓reduceIte]
    · rw [BufferedResponse.elements, Codec.decodeBody_lines htype]
      rcases Codec.lines_decoded (Codec.linesOf_pieces data) with
        ⟨js, hitems, heach⟩ | ⟨js, m, m', hbreaks, hitems, heach⟩
      · rw [hitems, heach]
        exact .inl ⟨js, rfl, rfl⟩
      · rw [hitems, heach]
        exact .inr ⟨m, m', rfl, js, hbreaks, rfl⟩
  · simp only [if_neg hlines]
    have hwhole : (arity == .flux && Codec.isStreaming (Codec.contentType headers)) = false := by
      rw [Bool.eq_false_iff]
      simpa using hlines
    refine ⟨_, _, fun w => ⟨_, ?_, wholeBody_gives h status arity headers⟩, hbuffered, ?_⟩
    · simp only [Transport.toResponse, hwhole, Bool.false_eq_true, ↓reduceIte]
    · rw [BufferedResponse.elements]
      rcases Codec.decodeBody_cases arity (Codec.contentType headers) data with ⟨js, hjs⟩ | ⟨m, hm⟩
      · rw [hjs]
        exact .inl ⟨js, rfl, rfl⟩
      · rw [hm]
        exact .inr ⟨m, m, rfl, rfl, rfl⟩

/-- The headers of a body of lines. -/
def lineHeaders : Http.Headers :=
  [(Codec.contentTypeName, [⟨Text.bytes "application/x-ndjson", false⟩])]

/-- Lines that are cut within a number; a blank one among them, and a list that does not end. -/
def torn : List Bytes := [Text.bytes "1\n \r\n2", Text.bytes "5\n[\n3"]

/-- The numbers before the list are handed out if lines are decoded as they arrive. -/
theorem body_of_torn : (Stream.ofList (torn.map .ok) : Stream Unit (Except Failure Bytes)).Carries torn.flatten ∧
    Codec.BreaksAt (torn.flatten.splitOn 10) [.ofNat 1, .ofNat 25] "EOF while parsing a list at line 1 column 1" ∧
    ∃ items buffered : List (Except Failure Json),
      (Transport.toResponse .flux 200 lineHeaders (Stream.ofList (torn.map .ok)) : Response Unit).Gives items ∧
      (BufferedResponse.toResponse ⟨200, .flux, lineHeaders, torn.flatten⟩ : Response Unit).Gives buffered ∧
      ((∃ js : List Json, items = js.map .ok ∧ buffered = js.map .ok) ∨
        ∃ m m', buffered = [.error (.decode m')] ∧
          if Arity.flux = .flux ∧ Codec.isStreaming (Codec.contentType lineHeaders) = true then
            ∃ js : List Json, Codec.BreaksAt (torn.flatten.splitOn 10) js m' ∧
              items = js.map .ok ++ [.error (.decode m)]
          else items = [.error (.decode m)] ∧ m = m') := by
  have hchunks := Stream.ofList_carries (W := Unit) torn
  refine ⟨hchunks, ⟨[Text.bytes "1", Text.bytes "25"], Text.bytes "[", [Text.bytes "3"], ?_, ?_, ?_⟩,
    body_agrees .flux 200 lineHeaders hchunks⟩
  · decide +kernel
  · rfl
  · rfl

end Courier
