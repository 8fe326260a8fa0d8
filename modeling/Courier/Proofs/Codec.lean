import Courier.Codec
import Courier.Proofs.Json.Parse
import Courier.Proofs.Json.Print

/-! Bodies of printed elements.

    `readBack` says what the bytes of some elements decode to, as one result, as lines or as one text
    (`decodeBody_encodeElements`). As lines, elements come back one by one. As one text there is no room
    for two: elements come back only if there is at most one of them and it is no list. -/

namespace Courier.Codec

variable {arity : Arity} {type : Option String} {data : Bytes} {j : Json} {js : List Json}

/-! ### Decoded elements -/

theorem decodeText_toOption (data : Bytes) : (decodeText data).toOption = (Json.parse data).toOption := by
  rw [decodeText]
  cases Json.parse data <;> rfl

theorem decodeText_fits (h : decodeText data = .ok j) : j.Fits 0 := by
  rw [decodeText] at h
  cases hparse : Json.parse data with
  | ok v =>
    rw [hparse] at h
    cases h
    exact Json.fits_of_parse hparse
  | error f =>
    rw [hparse] at h
    cases h

theorem decodeEach_fits {lines : List Bytes} (h : decodeEach lines = .ok js) : ∀ j ∈ js, j.Fits 0 := by
  induction lines generalizing js with
  | nil =>
    cases h
    nofun
  | cons l ls ih =>
    rw [decodeEach] at h
    split at h
    · exact ih h
    · obtain ⟨j, hj, h⟩ := bind_ok h
      obtain ⟨js', hjs, h⟩ := bind_ok h
      cases h
      exact List.forall_mem_cons.mpr ⟨decodeText_fits hj, ih hjs⟩

theorem decodeBody_blank (h : isBlank data = true) : decodeBody arity type data = .ok [] := by
  cases arity <;> simp only [decodeBody, h, ↓reduceIte]

theorem decodeBody_one (h : isBlank data = false) :
    decodeBody .mono type data = (decodeText data).map ([·]) := by
  simp only [decodeBody, h, Bool.false_eq_true, ↓reduceIte]

/-- A list is the elements it holds, any other value is one element. -/
def elementsOf : Json → List Json
  | .array items => items
  | other => [other]

theorem decodeBody_many (h : isBlank data = false) : decodeBody .flux type data
    = if isStreaming type then decodeEach (data.splitOn 10) else (decodeText data).map elementsOf := by
  simp only [decodeBody, h, Bool.false_eq_true, ↓reduceIte]
  rfl

/-- Each element of a body that was decoded can be read again. -/
theorem decodeBody_fits (h : decodeBody arity type data = .ok js) : ∀ j ∈ js, j.Fits 0 := by
  have hmap : ∀ f : Json → List Json, (decodeText data).map f = .ok js → ∃ v, v.Fits 0 ∧ f v = js := by
    intro f h
    cases hv : decodeText data with
    | error e => rw [hv] at h; cases h
    | ok v => rw [hv] at h; cases h; exact ⟨v, decodeText_fits hv, rfl⟩
  cases hblank : isBlank data with
  | true =>
    rw [decodeBody_blank hblank] at h
    cases h
    nofun
  | false => cases arity with
  | mono =>
    rw [decodeBody_one hblank] at h
    obtain ⟨v, hv, rfl⟩ := hmap _ h
    exact List.forall_mem_singleton.mpr hv
  | flux =>
    rw [decodeBody_many hblank] at h
    split at h
    · exact decodeEach_fits h
    · obtain ⟨v, hv, rfl⟩ := hmap _ h
      cases v with
      | array items => exact Json.itemsFit_iff.mp hv.2.outside
      | _ => exact List.forall_mem_singleton.mpr hv

/-- One result is at most one element. -/
theorem decodeBody_mono (h : decodeBody .mono type data = .ok js) : js = [] ∨ ∃ j, js = [j] := by
  cases hblank : isBlank data with
  | true =>
    rw [decodeBody_blank hblank] at h
    cases h
    exact .inl rfl
  | false =>
    rw [decodeBody_one hblank] at h
    cases hv : decodeText data with
    | error e => rw [hv] at h; cases h
    | ok v => rw [hv] at h; cases h; exact .inr ⟨v, rfl⟩

/-! ### Encoded elements -/

/-- What the bytes of many elements are read as, all lines as one text. -/
def linesAsText : List Json → Option (List Json)
  | [] => some []
  | [j] => j.reread?.map elementsOf
  | _ => none

/-- What the bytes of some elements are read as. -/
def readBack (arity : Arity) (type : Option String) (js : List Json) : Option (List Json) := match arity with
  | .mono => Json.itemsReread? (js.take 1)
  | .flux => if isStreaming type then Json.itemsReread? js else linesAsText js

theorem toBytes_not_blank (j : Json) (rest : Bytes) : isBlank (j.toBytes ++ rest) = false := by
  obtain ⟨b, more, hhead, hb⟩ := Json.chars_head j
  have hbyte : isBlankByte b = false := by
    have hvisible := hb.visible
    rw [isBlankByte]
    simp only [Bool.or_eq_false_iff, beq_eq_false_iff_ne]
    refine ⟨⟨⟨⟨?_, ?_⟩, ?_⟩, ?_⟩, ?_⟩ <;> rintro rfl <;> exact absurd hvisible (by decide)
  rw [isBlank, Json.toBytes, hhead, List.cons_append, List.all_cons, hbyte, Bool.false_and]

/-- Lines of printed values fall apart into these. -/
theorem splitOn_lines (js : List Json) :
    (js.flatMap fun j => j.toBytes ++ [10]).splitOn 10 = js.map Json.toBytes ++ [[]] := by
  induction js with
  | nil => rfl
  | cons j js ih =>
    have hline : 10 ∉ j.toBytes := by
      intro hmem
      exact absurd (j.toBytes_visible 10 hmem) (by decide)
    rw [List.flatMap_cons, List.append_assoc, List.singleton_append,
      List.splitOn_append_cons_self_of_not_mem hline, ih]
    rfl

theorem decodeEach_lines (h : ∀ j ∈ js, j.Fits 0) :
    (decodeEach (js.map Json.toBytes ++ [[]])).toOption = Json.itemsReread? js := by
  induction js with
  | nil => rfl
  | cons j js ih =>
    obtain ⟨hj, hjs⟩ := List.forall_mem_cons.mp h
    have hblank : isBlank j.toBytes = false := by simpa using toBytes_not_blank j []
    have hvalue : (decodeText j.toBytes).toOption = j.reread? := by
      rw [decodeText_toOption, Json.parse_toBytes hj]
    rw [List.map_cons, List.cons_append, decodeEach, hblank, Json.itemsReread?, ← hvalue, ← ih hjs]
    cases decodeText j.toBytes <;> cases decodeEach (js.map Json.toBytes ++ [[]]) <;> rfl

/-- Lines, read as one text, are a text of the first as long as it is the only one. -/
theorem decodeText_lines (hj : j.Fits 0) (js : List Json) :
    (decodeText ((j :: js).flatMap fun j => j.toBytes ++ [10])).toOption
      = if js.isEmpty then j.reread? else none := by
  have hend : Json.Numeral.Ends (10 :: js.flatMap fun j => j.toBytes ++ [10]) := by
    intro b more h
    cases h
    decide
  have hread := Json.parse_append hj hend
  rw [decodeText_toOption, List.flatMap_cons, List.append_assoc, List.singleton_append, hread]
  cases js with
  | nil => rfl
  | cons j' js =>
    obtain ⟨b, more, hhead, hb⟩ := Json.chars_head j'
    rw [List.flatMap_cons, Json.toBytes, hhead]
    simp only [List.cons_append, List.all_cons, hb.blank, Bool.false_and, Bool.and_false]
    rfl

theorem map_toOption {ε α β : Type} (x : Except ε α) (f : α → β) : (x.map f).toOption = x.toOption.map f := by
  cases x <;> rfl

/-- What a body of encoded elements decodes to. -/
theorem decodeBody_encodeElements (arity : Arity) (type : Option String) (h : ∀ j ∈ js, j.Fits 0) :
    (decodeBody arity type (encodeElements arity js)).toOption = readBack arity type js := by
  cases js with
  | nil =>
    have hblank : isBlank (encodeElements arity []) = true := by cases arity <;> rfl
    rw [decodeBody_blank hblank]
    cases arity with
    | mono => rfl
    | flux => cases htype : isStreaming type <;> simp only [readBack, htype] <;> rfl
  | cons j js => cases arity with
  | mono =>
    have hblank : isBlank j.toBytes = false := by simpa using toBytes_not_blank j []
    rw [encodeElements, decodeBody_one hblank, map_toOption, decodeText_toOption,
      Json.parse_toBytes (h j List.mem_cons_self), readBack, List.take_succ_cons, List.take_zero]
    cases hread : j.reread? <;> simp [Json.itemsReread?, hread]
  | flux =>
    have hblank : isBlank (encodeElements .flux (j :: js)) = false := by
      rw [encodeElements, List.flatMap_cons, List.append_assoc]
      exact toBytes_not_blank j _
    rw [decodeBody_many hblank, readBack, encodeElements]
    cases isStreaming type with
    | true => rw [if_pos rfl, if_pos rfl, splitOn_lines, decodeEach_lines h]
    | false =>
      rw [if_neg Bool.false_ne_true, if_neg Bool.false_ne_true, map_toOption,
        decodeText_lines (h j List.mem_cons_self)]
      cases js <;> rfl

/-! ### Elements that come back -/

/-- No list is read in place of the only item it holds. -/
theorem reread?_ne_wrapped : ∀ j : Json, j.reread? ≠ some (.array [j])
  | .null => nofun
  | .bool _ => nofun
  | .string _ => nofun
  | .number n => by cases hn : n.reread? <;> simp [Json.reread?, hn]
  | .object ms => by cases hms : Json.membersReread? ms <;> simp [Json.reread?, hms]
  | .array [] => by simp [Json.reread?, Json.itemsReread?]
  | .array [j] => by
    have ih := reread?_ne_wrapped j
    simpa [Json.reread?, Json.itemsReread?, Option.bind_eq_some_iff] using ih
  | .array (j :: j' :: js) => by
    simp [Json.reread?, Json.itemsReread?, Option.bind_eq_some_iff]

/-- Whether elements come back from their bytes: all of their numbers do, and unless they are one result
    or lines there is at most one of them, and it is no list. -/
def ReadsBack (arity : Arity) (type : Option String) (js : List Json) : Prop :=
  (∀ j ∈ js, j.Stable) ∧
    (arity = .flux → isStreaming type = false → js = [] ∨ ∃ j, js = [j] ∧ ∀ items, j ≠ .array items)

theorem itemsReread?_iff {js : List Json} : Json.itemsReread? js = some js ↔ ∀ j ∈ js, j.Stable := by
  rw [Json.itemsReread?_self]
  induction js with
  | nil => simp [Json.itemsNumbers]
  | cons j js ih => rw [Json.itemsNumbers, List.forall_mem_append, ih, List.forall_mem_cons, Json.Stable]

/-- A lone element comes back from its line unless it is a list. -/
theorem elementsOf_reread (j : Json) : j.reread?.map elementsOf = some [j] ↔
    j.Stable ∧ ∀ items, j ≠ .array items := by
  rw [← Json.reread?_self]
  cases j with
  | array items =>
    refine ⟨fun h => ?_, fun h => absurd rfl (h.2 items)⟩
    simp only [Json.reread?, Option.map_map, Option.map_eq_some_iff, Function.comp_apply, elementsOf] at h
    obtain ⟨items', hitems, rfl⟩ := h
    match items, hitems with
    | [item], hitem =>
      have hwrapped : item.reread? = some (.array [item]) := by
        simpa [Json.itemsReread?, Option.bind_eq_some_iff] using hitem
      exact absurd hwrapped (reread?_ne_wrapped item)
    | _ :: _ :: _, hitems => simp [Json.itemsReread?, Option.bind_eq_some_iff] at hitems
  | number n => simp [Json.reread?, Option.map_eq_some_iff, elementsOf]
  | object ms => simp [Json.reread?, Option.map_eq_some_iff, elementsOf]
  | _ => simp [Json.reread?, elementsOf]

theorem linesAsText_self : linesAsText js = some js ↔
    (∀ j ∈ js, j.Stable) ∧ (js = [] ∨ ∃ j, js = [j] ∧ ∀ items, j ≠ .array items) := by
  match js with
  | [] => simp [linesAsText]
  | [j] => simpa [linesAsText] using elementsOf_reread j
  | _ :: _ :: _ => simp [linesAsText]

theorem readBack_self (hone : arity = .mono → js = [] ∨ ∃ j, js = [j]) :
    readBack arity type js = some js ↔ ReadsBack arity type js := by
  cases arity with
  | mono =>
    have htake : js.take 1 = js := by
      rcases hone rfl with rfl | ⟨j, rfl⟩ <;> rfl
    simp [readBack, htake, ReadsBack, itemsReread?_iff]
  | flux =>
    cases htype : isStreaming type with
    | true => simp [readBack, ReadsBack, htype, itemsReread?_iff]
    | false => simp [readBack, ReadsBack, htype, linesAsText_self]

/-- Elements of a body come back from their bytes exactly if nothing of the kind stands in the way. -/
theorem decode_encode_iff (h : decodeBody arity type data = .ok js) :
    decodeBody arity type (encodeElements arity js) = .ok js ↔ ReadsBack arity type js := by
  have hone : arity = .mono → js = [] ∨ ∃ j, js = [j] := by
    rintro rfl
    exact decodeBody_mono h
  rw [← readBack_self hone, ← decodeBody_encodeElements arity type (decodeBody_fits h)]
  cases decodeBody arity type (encodeElements arity js) <;> simp [Except.toOption]

end Courier.Codec
