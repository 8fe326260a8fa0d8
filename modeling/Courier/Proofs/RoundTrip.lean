import Courier.Proofs.Body
import Courier.Proofs.Json.Depth

/-! Lines of values, written and read again.

    A printed value has no newline in it, so lines of printed values fall apart where they were put
    together. Values that come back from their print come back from their lines, from bytes that arrive
    in chunks as well as from bytes in memory (`lines_round_trip`). -/

namespace Courier

variable {W : Type}

namespace Codec

variable {type : Option String} {js : List Json}

/-- Bytes whose lines are values are decoded to these as they arrive. -/
theorem decodeLines_ok {chunks : Stream W (Except Failure Bytes)} {data : Bytes} (hchunks : chunks.Carries data)
    (h : decodeEach (data.splitOn 10) = .ok js) : (decodeLines chunks).Gives (js.map .ok) := by
  have hgives := decodeLines_gives hchunks
  rcases lines_decoded (linesOf_pieces data) with ⟨js', hitems, heach⟩ | ⟨_, _, _, -, -, heach⟩
  · rw [h] at heach
    cases heach
    rw [← hitems]
    exact hgives
  · rw [h] at heach
    cases heach

/-- Lines of values that nest no deeper than readers follow, whose numbers are whole, are read as these
    values, as a body in memory and however they are cut into chunks. The chunks of a request body with
    these lines are the lines, one for each value. As one result, the first value is read again. -/
theorem lines_round_trip (hordered : ∀ j ∈ js, j.Ordered) (hdepth : ∀ j ∈ js, j.depth ≤ 127)
    (hwhole : ∀ j ∈ js, j.Whole) (htype : isStreaming type = true) :
    decodeBody .flux type (encodeElements .flux js) = .ok js ∧
    (∀ (W : Type) (chunks : Stream W (Except Failure Bytes)), chunks.Carries (encodeElements .flux js) →
      (decodeLines chunks).Gives (js.map .ok)) ∧
    ((js.map fun j => j.toBytes ++ [10]).flatten = encodeElements .flux js ∧
      ∀ W : Type, (Body.lines js : Body W).subscribe.Gives (js.map fun j => .ok (j.toBytes ++ [10]))) ∧
    ∀ other, decodeBody .mono other (encodeElements .mono js) = .ok (js.take 1) := by
  have hfits : ∀ j ∈ js, j.Fits 0 := fun j hj => (hordered j hj).fits (by rw [Nat.zero_add]; exact hdepth j hj)
  have hback : Json.itemsReread? js = some js := itemsReread?_iff.mpr fun j hj => (hwhole j hj).stable
  have hfirst : Json.itemsReread? (js.take 1) = some (js.take 1) :=
    itemsReread?_iff.mpr fun j hj => (hwhole j (List.mem_of_mem_take hj)).stable
  have hok : ∀ {x : Except Failure (List Json)} {js : List Json}, x.toOption = some js → x = .ok js := by
    intro x js h
    cases x with
    | ok _ => cases h; rfl
    | error _ => cases h
  have hmany : decodeBody .flux type (encodeElements .flux js) = .ok js := by
    have hread := decodeBody_encodeElements .flux type hfits
    rw [readBack, htype, if_pos rfl, hback] at hread
    exact hok hread
  refine ⟨hmany, fun W chunks hchunks => ?_, ⟨?_, fun W => Body.subscribe_gives _⟩, fun other => ?_⟩
  · rw [decodeBody_lines htype] at hmany
    exact decodeLines_ok hchunks hmany
  · rw [encodeElements, List.flatMap_def]
  · have hread := decodeBody_encodeElements .mono other hfits
    rw [readBack, hfirst] at hread
    exact hok hread

/-- An object with a text of two lines in a list, and a number. -/
def notes : List Json :=
  [.object [("lines", .array [.string "a\n\"b\"\u0001", .null]), ("size", .number (.whole (-2) (by decide)))],
    .ofNat 18446744073709551615]

/-- The line break within the text is escaped. -/
theorem notes_round_trip : isStreaming (some "application/jsonl") = true ∧
    decodeBody .flux (some "application/jsonl") (encodeElements .flux notes) = .ok notes ∧
    (∀ (W : Type) (chunks : Stream W (Except Failure Bytes)), chunks.Carries (encodeElements .flux notes) →
      (decodeLines chunks).Gives (notes.map .ok)) ∧
    ((notes.map fun j => j.toBytes ++ [10]).flatten = encodeElements .flux notes ∧
      ∀ W : Type, (Body.lines notes : Body W).subscribe.Gives (notes.map fun j => .ok (j.toBytes ++ [10]))) ∧
    ∀ other, decodeBody .mono other (encodeElements .mono notes) = .ok (notes.take 1) := by
  have hordered : ∀ j ∈ notes, j.Ordered := by
    have hkeys : ["lines", "size"].Pairwise (· < ·) := by decide
    refine List.forall_mem_cons.mpr ⟨⟨hkeys, ?_⟩, List.forall_mem_singleton.mpr trivial⟩
    simp [Json.Ordered, Json.MembersOrdered, Json.ItemsOrdered]
  have hdepth : ∀ j ∈ notes, j.depth ≤ 127 := by
    simp [notes, Json.depth, Json.ofNat, Json.membersDepth, Json.itemsDepth]
  have hwhole : ∀ j ∈ notes, j.Whole := by
    refine List.forall_mem_cons.mpr ⟨?_, List.forall_mem_singleton.mpr ?_⟩
    · exact List.forall_mem_singleton.mpr ⟨-2, by decide, rfl⟩
    · exact List.forall_mem_singleton.mpr ⟨18446744073709551615, by decide, rfl⟩
  exact ⟨rfl, lines_round_trip hordered hdepth hwhole rfl⟩

end Codec
end Courier
