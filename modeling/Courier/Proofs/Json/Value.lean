import Courier.Json.Reader
import Courier.Json.Printer
import Courier.Proofs.Json.Members
import Courier.Proofs.Json.Number
import Courier.Proofs.Json.Quote

/-! Printed values read back.

    A value that is printed and read again is the same but for its numbers, each of which is printed and
    read again by itself (`parse_toBytes`). Whole numbers come back as they were; doubles may not. -/

namespace Courier

open Text (charsBytes)

/-! ### Numbers -/

/-- The number that is read in place of a number that is printed. -/
def Number.reread? (n : Number) : Option Number := match Json.parse (charsBytes n.text.toList) with
  | .ok (.number m) => some m
  | _ => none

namespace Json

/-! ### Values -/

mutual

/-- The value with its numbers printed and read again. -/
def reread? : Json → Option Json
  | .null => some .null
  | .bool b => some (.bool b)
  | .number n => n.reread?.map .number
  | .string s => some (.string s)
  | .array items => (itemsReread? items).map .array
  | .object members => (membersReread? members).map .object
termination_by structural j => j

/-- Items with their numbers printed and read again. -/
def itemsReread? : List Json → Option (List Json)
  | [] => some []
  | j :: js => do
    let j ← reread? j
    let js ← itemsReread? js
    return j :: js
termination_by structural js => js

/-- Members with their numbers printed and read again. -/
def membersReread? : List (String × Json) → Option (List (String × Json))
  | [] => some []
  | (k, j) :: ms => do
    let j ← reread? j
    let ms ← membersReread? ms
    return (k, j) :: ms
termination_by structural ms => ms

end

mutual

/-- Whether the value can be read under `level` containers: it does not nest too deep, and the members
    of its objects are in the order of their keys, each key once. -/
def Fits : Json → Nat → Prop
  | .array items, level => level < maxDepth ∧ ItemsFit items (level + 1)
  | .object members, level => level < maxDepth ∧ MembersFit members (level + 1) ∧ Members.Sorted members
  | _, _ => True
termination_by structural j => j

/-- Whether all items can be read. -/
def ItemsFit : List Json → Nat → Prop
  | [], _ => True
  | j :: js, level => Fits j level ∧ ItemsFit js level
termination_by structural js => js

/-- Whether the values of all members can be read. -/
def MembersFit : List (String × Json) → Nat → Prop
  | [], _ => True
  | (_, j) :: ms, level => Fits j level ∧ MembersFit ms level
termination_by structural ms => ms

end

/-! ### Reading what was printed -/

/-- A value was read, the text behind it is left. -/
structure Reads (read : Node × Option Cursor) (value : Option Json) (rest : Bytes) : Prop where
  value : read.1.toJson.toOption = value
  rest : ∃ s, read.2 = some ⟨s, rest⟩

/-- Items were read up to the end of their list, the text behind it is left. -/
structure ReadsItems (read : List Node × Close × Option Cursor) (items : Option (List Json))
    (rest : Bytes) : Prop where
  items : (Node.itemsToJson read.1).toOption = items
  close : read.2.1.read = .ok ()
  rest : ∃ s, read.2.2 = some ⟨s, rest⟩

/-- Members were read up to the end of their object, the text behind it is left. -/
structure ReadsMembers (read : List (Key × Node) × Close × Option Cursor)
    (members : Option (List (String × Json))) (rest : Bytes) : Prop where
  members : (Node.membersToJson read.1).toOption = members
  close : read.2.1.read = .ok ()
  rest : ∃ s, read.2.2 = some ⟨s, rest⟩

/-! ### Single steps -/

section Steps

variable {fuel level : Nat} {s s' : Spot} {b : UInt8} {more bs : Bytes} {node : Node} {after : Cursor}
  {k : String}

theorem blanks_cons (h : isBlank b = false) (s : Spot) (rest : Bytes) :
    Cursor.blanks ⟨s, b :: rest⟩ = ⟨s, b :: rest⟩ := by
  rw [Cursor.blanks, passBlanks, h]
  rfl

/-- A byte that a value starts with: no blank, no control, no comma and nothing that closes. -/
structure Opens (b : UInt8) : Prop where
  visible : 32 < b.toNat
  comma : b ≠ 44
  bracket : b ≠ 93
  brace : b ≠ 125

theorem Opens.blank (hb : Opens b) : isBlank b = false := by
  have hvisible := hb.visible
  rw [isBlank]
  simp only [Bool.or_eq_false_iff, beq_eq_false_iff_ne]
  refine ⟨⟨⟨?_, ?_⟩, ?_⟩, ?_⟩ <;> rintro rfl <;> exact absurd hvisible (by decide)

theorem readValue_array (fuel level : Nat) (s : Spot) (more : Bytes) : readValue (fuel + 1) level ⟨s, 91 :: more⟩
    = (.array (some s) (some (s.next 91)) (entry level ⟨s, 91 :: more⟩)
        (readItems fuel (level + 1) true ⟨s.next 91, more⟩).1
        (readItems fuel (level + 1) true ⟨s.next 91, more⟩).2.1,
      (readItems fuel (level + 1) true ⟨s.next 91, more⟩).2.2) := rfl

theorem readValue_object (fuel level : Nat) (s : Spot) (more : Bytes) : readValue (fuel + 1) level ⟨s, 123 :: more⟩
    = (.object (some s) (some (s.next 123)) (entry level ⟨s, 123 :: more⟩)
        (readMembers fuel (level + 1) true ⟨s.next 123, more⟩).1
        (readMembers fuel (level + 1) true ⟨s.next 123, more⟩).2.1,
      (readMembers fuel (level + 1) true ⟨s.next 123, more⟩).2.2) := rfl

theorem readItems_first (hb : Opens b)
    (hread : readValue fuel level ⟨s, b :: more⟩ = (node, some after)) :
    readItems (fuel + 1) level true ⟨s, b :: more⟩
      = (node :: (readItems fuel level false after).1, (readItems fuel level false after).2) := by
  rw [readItems]
  simp only [blanks_cons hb.blank, beq_iff_eq, hb.bracket, ↓reduceIte, hread]

theorem readItems_comma (hb : Opens b)
    (hread : readValue fuel level ⟨s.next 44, b :: more⟩ = (node, some after)) :
    readItems (fuel + 1) level false ⟨s, 44 :: b :: more⟩
      = (node :: (readItems fuel level false after).1, (readItems fuel level false after).2) := by
  have hcomma : isBlank 44 = false := by decide
  rw [readItems]
  simp only [blanks_cons hcomma, blanks_cons hb.blank]
  simp [hb.bracket, hread]

theorem readMembers_first (hscan : Cursor.string ⟨s.next 34, bs⟩ = ⟨.ok k, none, ⟨s', 58 :: more⟩⟩)
    (hread : readValue fuel level ⟨s'.next 58, more⟩ = (node, some after)) :
    readMembers (fuel + 1) level true ⟨s, 34 :: bs⟩
      = ((⟨.ok k, none, some s'⟩, node) :: (readMembers fuel level false after).1,
        (readMembers fuel level false after).2) := by
  have hquote : isBlank 34 = false := by decide
  have hcolon : isBlank 58 = false := by decide
  rw [readMembers]
  simp only [blanks_cons hquote, hscan, blanks_cons hcolon, hread]
  rfl

theorem readMembers_comma
    (hscan : Cursor.string ⟨(s.next 44).next 34, bs⟩ = ⟨.ok k, none, ⟨s', 58 :: more⟩⟩)
    (hread : readValue fuel level ⟨s'.next 58, more⟩ = (node, some after)) :
    readMembers (fuel + 1) level false ⟨s, 44 :: 34 :: bs⟩
      = ((⟨.ok k, none, some s'⟩, node) :: (readMembers fuel level false after).1,
        (readMembers fuel level false after).2) := by
  have hquote : isBlank 34 = false := by decide
  have hcomma : isBlank 44 = false := by decide
  have hcolon : isBlank 58 = false := by decide
  rw [readMembers]
  simp only [blanks_cons hcomma, blanks_cons hquote, hscan, blanks_cons hcolon, hread]
  rfl

end Steps

/-! ### Numerals -/

section Numerals

variable {x : Numeral.Spelling}

theorem opens_digitByte : ∀ d < 10, Opens (Numeral.digitByte d) := by
  have hall : ∀ d < 10, 32 < (Numeral.digitByte d).toNat ∧ Numeral.digitByte d ≠ 44 ∧
      Numeral.digitByte d ≠ 93 ∧ Numeral.digitByte d ≠ 125 := by decide
  intro d hd
  obtain ⟨hvisible, hcomma, hbracket, hbrace⟩ := hall d hd
  exact ⟨hvisible, hcomma, hbracket, hbrace⟩

theorem unsigned_head (hx : x.Sound) : ∃ d more, d < 10 ∧
    charsBytes x.unsigned = Numeral.digitByte d :: more := by
  obtain ⟨d, ds, hwhole⟩ : ∃ d ds, x.whole = d :: ds := by
    rcases hx.first with h | ⟨d, ds, h, -⟩
    · exact ⟨0, [], h⟩
    · exact ⟨d, ds, h⟩
  refine ⟨d, charsBytes (ds.map Nat.digitChar ++ x.fractionChars ++ x.exponentChars),
    hx.whole d (hwhole ▸ List.mem_cons_self), ?_⟩
  have hdigit : Text.charBytes (Nat.digitChar d) = [Numeral.digitByte d] := by
    have hall : ∀ d < 10, Text.charBytes (Nat.digitChar d) = [Numeral.digitByte d] := by decide
    exact hall d (hx.whole d (hwhole ▸ List.mem_cons_self))
  rw [Numeral.Spelling.unsigned, hwhole, List.map_cons, List.cons_append, List.cons_append,
    Text.charsBytes_cons, hdigit]
  rfl

theorem chars_negative (h : x.negative = true) : charsBytes x.chars = 45 :: charsBytes x.unsigned := by
  rw [Numeral.Spelling.chars, h]
  rfl

theorem chars_positive (h : x.negative = false) : charsBytes x.chars = charsBytes x.unsigned := by
  rw [Numeral.Spelling.chars, h]
  rfl

theorem spelling_head (hx : x.Sound) : ∃ b more, charsBytes x.chars = b :: more ∧ Opens b := by
  cases hsign : x.negative with
  | true => exact ⟨45, _, chars_negative hsign, by decide, by decide, by decide, by decide⟩
  | false =>
    obtain ⟨d, more, hd, hbytes⟩ := unsigned_head hx
    exact ⟨_, more, (chars_positive hsign).trans hbytes, opens_digitByte d hd⟩

/-- A numeral is read as its number. -/
theorem readValue_spelling (hx : x.Sound) {rest : Bytes} (hrest : Numeral.Ends rest) (fuel level : Nat)
    (s : Spot) : ∃ (value : Except Fault Number) (stop peek : Spot),
      readValue (fuel + 1) level ⟨s, charsBytes x.chars ++ rest⟩
        = (.scalar (some peek) (some stop) (value.map .number) none, some ⟨stop, rest⟩) ∧
      value.toOption = x.number? := by
  cases hsign : x.negative with
  | true =>
    obtain ⟨value, stop, hread, hvalue⟩ := Numeral.read_spelling hx hrest (s.next 45)
    refine ⟨value, stop, s.next 45, ?_, hvalue⟩
    have hstep : readValue (fuel + 1) level ⟨s, 45 :: (charsBytes x.unsigned ++ rest)⟩
        = ofScan (s.next 45) (Numeral.read true ⟨s.next 45, charsBytes x.unsigned ++ rest⟩) .number := rfl
    rw [chars_negative hsign, List.cons_append, hstep, ← hsign, hread]
    rfl
  | false =>
    obtain ⟨value, stop, hread, hvalue⟩ := Numeral.read_spelling hx hrest s
    obtain ⟨d, more, hd, hbytes⟩ := unsigned_head hx
    refine ⟨value, stop, s.next (Numeral.digitByte d), ?_, hvalue⟩
    have hother : ∀ d < 10, Numeral.digitByte d ≠ 110 ∧ Numeral.digitByte d ≠ 116 ∧
        Numeral.digitByte d ≠ 102 ∧ Numeral.digitByte d ≠ 45 := by decide
    obtain ⟨hn, ht, hf, hminus⟩ := hother d hd
    rw [hsign, hbytes, List.cons_append] at hread
    rw [chars_positive hsign, hbytes, List.cons_append, readValue]
    simp only [blanks_cons (opens_digitByte d hd).blank, beq_iff_eq, hn, ht, hf, hminus,
      Numeral.digit?_digitByte d hd, Option.isSome_some, ↓reduceIte, hread]
    rfl

theorem Numeral.ends_nil : Numeral.Ends [] := nofun

/-- A number is read again as what its text spells. -/
theorem reread?_of_spelled {n : Number} (hx : x.Sound) (htext : n.text.toList = x.chars) :
    n.reread? = x.number? := by
  obtain ⟨value, stop, peek, hread, hvalue⟩ := readValue_spelling hx Numeral.ends_nil
    (2 * (charsBytes x.chars).length + 1) 0 ⟨1, 0⟩
  rw [List.append_nil] at hread
  have hparse : parse (charsBytes x.chars) = value.map .number := by
    rw [parse, Document.ofBytes, Cursor.start, hread]
    cases value <;> rfl
  rw [Number.reread?, htext, hparse, ← hvalue]
  cases value <;> rfl

end Numerals

/-! ### Trees -/

section Trees

variable {node : Node} {items : List Node} {members : List (Key × Node)} {close : Close} {start peek : Mark}

theorem array_toOption (hclose : close.read = .ok ()) :
    (Node.array start peek none items close).toJson.toOption
      = (Node.itemsToJson items).toOption.map .array := by
  rw [Node.toJson, hclose]
  cases Node.itemsToJson items <;> rfl

theorem object_toOption (hclose : close.read = .ok ()) :
    (Node.object start peek none members close).toJson.toOption
      = (Node.membersToJson members).toOption.map fun ms => .object (Members.ofList ms) := by
  rw [Node.toJson, hclose]
  cases Node.membersToJson members <;> rfl

theorem items_toOption : (Node.itemsToJson (node :: items)).toOption = do
    let j ← node.toJson.toOption
    let js ← (Node.itemsToJson items).toOption
    return j :: js := by
  rw [Node.itemsToJson]
  cases node.toJson <;> cases Node.itemsToJson items <;> rfl

theorem members_toOption {k : String} {mark : Mark} :
    (Node.membersToJson ((⟨.ok k, none, mark⟩, node) :: members)).toOption = do
      let j ← node.toJson.toOption
      let ms ← (Node.membersToJson members).toOption
      return (k, j) :: ms := by
  rw [Node.membersToJson]
  cases node.toJson <;> cases Node.membersToJson members <;> rfl

/-- Members that are read again keep their keys. -/
theorem membersReread?_keys : ∀ {ms ms' : List (String × Json)}, membersReread? ms = some ms' →
    ms'.map Prod.fst = ms.map Prod.fst
  | [], _, h => by cases h; rfl
  | (k, j) :: ms, _, h => by
    simp only [membersReread?, Option.bind_eq_bind, Option.bind_eq_some_iff] at h
    obtain ⟨j', -, ms', hms, h⟩ := h
    cases h
    rw [List.map_cons, membersReread?_keys hms, List.map_cons]

end Trees

/-! ### Values -/

theorem ends_comma (more : Bytes) : Numeral.Ends (44 :: more) := by
  intro b more' h
  cases h
  decide

theorem ends_bracket (more : Bytes) : Numeral.Ends (93 :: more) := by
  intro b more' h
  cases h
  decide

theorem ends_brace (more : Bytes) : Numeral.Ends (125 :: more) := by
  intro b more' h
  cases h
  decide

theorem itemsChars_ends (js : List Json) (rest : Bytes) :
    Numeral.Ends (charsBytes (itemsChars js) ++ rest) := by
  cases js with
  | nil => exact ends_bracket rest
  | cons j js => exact ends_comma _

theorem membersChars_ends (ms : List (String × Json)) (rest : Bytes) :
    Numeral.Ends (charsBytes (membersChars ms) ++ rest) := by
  cases ms with
  | nil => exact ends_brace rest
  | cons m ms => exact ends_comma _

/-- A value starts with a byte that opens values. -/
theorem chars_head (v : Json) : ∃ b more, charsBytes v.chars = b :: more ∧ Opens b := by
  cases v with
  | null => exact ⟨110, _, rfl, by decide, by decide, by decide, by decide⟩
  | bool b =>
    cases b with
    | true => exact ⟨116, _, rfl, by decide, by decide, by decide, by decide⟩
    | false => exact ⟨102, _, rfl, by decide, by decide, by decide, by decide⟩
  | number n =>
    obtain ⟨x, hx, htext⟩ := n.text_spelled
    rw [chars, htext]
    exact spelling_head hx
  | string s => exact ⟨34, _, rfl, by decide, by decide, by decide, by decide⟩
  | array items =>
    cases items <;> exact ⟨91, _, rfl, by decide, by decide, by decide, by decide⟩
  | object members =>
    cases members <;> exact ⟨123, _, rfl, by decide, by decide, by decide, by decide⟩

theorem array_bytes (j : Json) (js : List Json) : charsBytes (Json.array (j :: js)).chars
    = 91 :: (charsBytes j.chars ++ charsBytes (itemsChars js)) := by
  rw [chars, List.cons_append, Text.charsBytes_cons, Text.charsBytes_append]
  rfl

theorem items_bytes (j : Json) (js : List Json) : charsBytes (itemsChars (j :: js))
    = 44 :: (charsBytes j.chars ++ charsBytes (itemsChars js)) := by
  rw [itemsChars, List.cons_append, Text.charsBytes_cons, Text.charsBytes_append]
  rfl

theorem object_bytes (k : String) (j : Json) (ms : List (String × Json)) :
    charsBytes (Json.object ((k, j) :: ms)).chars = 123 :: (charsBytes (stringChars k) ++
      58 :: (charsBytes j.chars ++ charsBytes (membersChars ms))) := by
  rw [chars, List.append_assoc, List.cons_append, Text.charsBytes_cons, Text.charsBytes_append,
    List.cons_append, Text.charsBytes_cons, Text.charsBytes_append]
  rfl

theorem members_bytes (k : String) (j : Json) (ms : List (String × Json)) :
    charsBytes (membersChars ((k, j) :: ms)) = 44 :: (charsBytes (stringChars k) ++
      58 :: (charsBytes j.chars ++ charsBytes (membersChars ms))) := by
  rw [membersChars, List.append_assoc, List.cons_append, Text.charsBytes_cons, Text.charsBytes_append,
    List.cons_append, Text.charsBytes_cons, Text.charsBytes_append]
  rfl

theorem readValue_number (n : Number) (fuel level : Nat) (s : Spot) {rest : Bytes}
    (hrest : Numeral.Ends rest) :
    Reads (readValue (fuel + 1) level ⟨s, charsBytes (Json.number n).chars ++ rest⟩)
      (Json.number n).reread? rest := by
  obtain ⟨x, hx, htext⟩ := n.text_spelled
  obtain ⟨value, stop, peek, hread, hvalue⟩ := readValue_spelling hx hrest fuel level s
  rw [chars, htext, hread, reread?, reread?_of_spelled hx htext, ← hvalue]
  exact ⟨by cases value <;> rfl, stop, rfl⟩

theorem readValue_string (text : String) (fuel level : Nat) (s : Spot) (rest : Bytes) :
    Reads (readValue (fuel + 1) level ⟨s, charsBytes (Json.string text).chars ++ rest⟩)
      (some (.string text)) rest := by
  obtain ⟨bs, stop, hbytes, hscan⟩ := scan_stringChars text (s.next 34) rest
  have hstep : readValue (fuel + 1) level ⟨s, 34 :: bs⟩
      = ofScan (s.next 34) (Cursor.string ⟨s.next 34, bs⟩) .string := rfl
  rw [chars, hbytes, hstep, hscan]
  exact ⟨rfl, stop, rfl⟩

theorem Reads.node {read : Node × Option Cursor} {value : Option Json} {rest : Bytes}
    (h : Reads read value rest) : ∃ node s, read = (node, some ⟨s, rest⟩) ∧
      node.toJson.toOption = value := by
  obtain ⟨hvalue, s, hrest⟩ := h
  exact ⟨read.1, s, by rw [← hrest], hvalue⟩

theorem ReadsItems.cons {node : Node} {read : List Node × Close × Option Cursor} {j : Json}
    {js : List Json} {rest : Bytes} (hnode : node.toJson.toOption = reread? j)
    (h : ReadsItems read (itemsReread? js) rest) :
    ReadsItems (node :: read.1, read.2) (itemsReread? (j :: js)) rest := by
  refine ⟨?_, h.close, h.rest⟩
  rw [items_toOption, hnode, h.items]
  rfl

theorem ReadsMembers.cons {node : Node} {read : List (Key × Node) × Close × Option Cursor} {k : String}
    {mark : Mark} {j : Json} {ms : List (String × Json)} {rest : Bytes}
    (hnode : node.toJson.toOption = reread? j) (h : ReadsMembers read (membersReread? ms) rest) :
    ReadsMembers ((⟨.ok k, none, mark⟩, node) :: read.1, read.2) (membersReread? ((k, j) :: ms)) rest := by
  refine ⟨?_, h.close, h.rest⟩
  rw [members_toOption, hnode, h.members]
  rfl

/-- The items of a list make the list, if it does not nest too deep. -/
theorem ReadsItems.array {read : List Node × Close × Option Cursor} {js : List Json} {rest : Bytes}
    (h : ReadsItems read (itemsReread? js) rest) (start peek : Mark) :
    Reads (.array start peek none read.1 read.2.1, read.2.2) (reread? (.array js)) rest :=
  ⟨(array_toOption h.close).trans (by rw [h.items, reread?]), h.rest⟩

/-- The members of an object make the object, if they are in their order. -/
theorem ReadsMembers.object {read : List (Key × Node) × Close × Option Cursor}
    {ms : List (String × Json)} {rest : Bytes} (h : ReadsMembers read (membersReread? ms) rest)
    (hms : Members.Sorted ms) (start peek : Mark) :
    Reads (.object start peek none read.1 read.2.1, read.2.2) (reread? (.object ms)) rest := by
  refine ⟨(object_toOption h.close).trans ?_, h.rest⟩
  rw [h.members, reread?]
  cases hreread : membersReread? ms with
  | none => rfl
  | some ms' =>
    have hsorted : Members.Sorted ms' := by rwa [Members.Sorted, membersReread?_keys hreread]
    rw [Option.map_some, Members.ofList_of_sorted hsorted]
    rfl

mutual

/-- A printed value is read to its end, whatever stands behind it that is no part of a number. -/
theorem readValue_chars : ∀ (v : Json) (fuel : Nat) {level : Nat} (s : Spot) {rest : Bytes}, v.Fits level →
    2 * (charsBytes v.chars).length ≤ fuel → Numeral.Ends rest →
    Reads (readValue fuel level ⟨s, charsBytes v.chars ++ rest⟩) v.reread? rest
  | .null, fuel + 1, level, s, rest, _, _, _ => ⟨rfl, _, rfl⟩
  | .bool true, fuel + 1, level, s, rest, _, _, _ => ⟨rfl, _, rfl⟩
  | .bool false, fuel + 1, level, s, rest, _, _, _ => ⟨rfl, _, rfl⟩
  | .number n, fuel, level, s, rest, _, hfuel, hrest => by
    obtain ⟨b, more, hhead, -⟩ := chars_head (.number n)
    rw [hhead, List.length_cons] at hfuel
    obtain ⟨fuel, rfl⟩ : ∃ f, fuel = f + 1 := ⟨fuel - 1, by omega⟩
    exact readValue_number n fuel level s hrest
  | .string text, fuel + 1, level, s, rest, _, _, _ => readValue_string text fuel level s rest
  | .array [], fuel + 2, level, s, rest, hfits, _, _ => by
    rw [Fits] at hfits
    have hentry : entry level ⟨s, 91 :: 93 :: rest⟩ = none := if_pos hfits.1
    have hread : readValue (fuel + 2) level ⟨s, charsBytes (Json.array []).chars ++ rest⟩
        = _ := readValue_array (fuel + 1) level s (93 :: rest)
    have hitems : ReadsItems (readItems (fuel + 1) (level + 1) true ⟨s.next 91, 93 :: rest⟩)
        (itemsReread? []) rest := ⟨rfl, rfl, _, rfl⟩
    rw [hread, hentry]
    exact hitems.array _ _
  | .array (j :: js), fuel, level, s, rest, hfits, hfuel, _ => by
    rw [Fits, ItemsFit] at hfits
    obtain ⟨hlevel, hj, hjs⟩ := hfits
    rw [array_bytes, List.length_cons, List.length_append] at hfuel
    -- one level of fuel goes to the bracket and one to the list
    obtain ⟨fuel, rfl⟩ : ∃ f, fuel = f + 2 := ⟨fuel - 2, by omega⟩
    obtain ⟨b, more, hhead, hb⟩ := chars_head j
    obtain ⟨node, stop, hread, hnode⟩ := (readValue_chars j fuel (s.next 91) hj (by omega)
      (itemsChars_ends js rest)).node
    have hitems := readItems_chars js fuel stop rest hjs (by omega)
    have hentry : ∀ more, entry level ⟨s, 91 :: more⟩ = none := fun _ => if_pos hlevel
    rw [array_bytes, List.cons_append, List.append_assoc, readValue_array, hentry]
    rw [hhead, List.cons_append] at hread ⊢
    rw [readItems_first hb hread]
    exact (hitems.cons hnode).array _ _
  | .object [], fuel + 2, level, s, rest, hfits, _, _ => by
    rw [Fits] at hfits
    have hentry : entry level ⟨s, 123 :: 125 :: rest⟩ = none := if_pos hfits.1
    have hread : readValue (fuel + 2) level ⟨s, charsBytes (Json.object []).chars ++ rest⟩
        = _ := readValue_object (fuel + 1) level s (125 :: rest)
    have hmembers : ReadsMembers (readMembers (fuel + 1) (level + 1) true ⟨s.next 123, 125 :: rest⟩)
        (membersReread? []) rest := ⟨rfl, rfl, _, rfl⟩
    rw [hread, hentry]
    exact hmembers.object .nil _ _
  | .object ((k, j) :: ms), fuel, level, s, rest, hfits, hfuel, _ => by
    rw [Fits, MembersFit] at hfits
    obtain ⟨hlevel, ⟨hj, hms⟩, hsorted⟩ := hfits
    rw [object_bytes, List.length_cons, List.length_append, List.length_cons, List.length_append] at hfuel
    obtain ⟨fuel, rfl⟩ : ∃ f, fuel = f + 2 := ⟨fuel - 2, by omega⟩
    obtain ⟨bs, colon, hbytes, hscan⟩ := scan_stringChars k ((s.next 123).next 34)
      (58 :: (charsBytes j.chars ++ (charsBytes (membersChars ms) ++ rest)))
    obtain ⟨node, stop, hread, hnode⟩ := (readValue_chars j fuel (colon.next 58) hj (by omega)
      (membersChars_ends ms rest)).node
    have hmembers := readMembers_chars ms fuel stop rest hms (by omega)
    have hentry : ∀ more, entry level ⟨s, 123 :: more⟩ = none := fun _ => if_pos hlevel
    rw [object_bytes, List.cons_append, List.append_assoc, List.cons_append, List.append_assoc, hbytes,
      readValue_object, hentry, readMembers_first hscan hread]
    exact (hmembers.cons hnode).object hsorted _ _
termination_by structural v => v

/-- Items behind the first are read to the end of their list. -/
theorem readItems_chars : ∀ (js : List Json) (fuel : Nat) {level : Nat} (s : Spot) (rest : Bytes),
    ItemsFit js level → 2 * (charsBytes (itemsChars js)).length ≤ fuel →
    ReadsItems (readItems fuel level false ⟨s, charsBytes (itemsChars js) ++ rest⟩) (itemsReread? js) rest
  | [], fuel + 1, level, s, rest, _, _ => ⟨rfl, rfl, _, rfl⟩
  | j :: js, fuel, level, s, rest, hfits, hfuel => by
    rw [ItemsFit] at hfits
    obtain ⟨hj, hjs⟩ := hfits
    rw [items_bytes, List.length_cons, List.length_append] at hfuel
    obtain ⟨fuel, rfl⟩ : ∃ f, fuel = f + 1 := ⟨fuel - 1, by omega⟩
    obtain ⟨b, more, hhead, hb⟩ := chars_head j
    obtain ⟨node, stop, hread, hnode⟩ := (readValue_chars j fuel (s.next 44) hj (by omega)
      (itemsChars_ends js rest)).node
    have hitems := readItems_chars js fuel stop rest hjs (by omega)
    rw [items_bytes, List.cons_append, List.append_assoc]
    rw [hhead, List.cons_append] at hread ⊢
    rw [readItems_comma hb hread]
    exact hitems.cons hnode
termination_by structural js => js

/-- Members behind the first are read to the end of their object. -/
theorem readMembers_chars : ∀ (ms : List (String × Json)) (fuel : Nat) {level : Nat} (s : Spot)
    (rest : Bytes), MembersFit ms level → 2 * (charsBytes (membersChars ms)).length ≤ fuel →
    ReadsMembers (readMembers fuel level false ⟨s, charsBytes (membersChars ms) ++ rest⟩)
      (membersReread? ms) rest
  | [], fuel + 1, level, s, rest, _, _ => ⟨rfl, rfl, _, rfl⟩
  | (k, j) :: ms, fuel, level, s, rest, hfits, hfuel => by
    rw [MembersFit] at hfits
    obtain ⟨hj, hms⟩ := hfits
    rw [members_bytes, List.length_cons, List.length_append, List.length_cons, List.length_append] at hfuel
    obtain ⟨fuel, rfl⟩ : ∃ f, fuel = f + 1 := ⟨fuel - 1, by omega⟩
    obtain ⟨bs, colon, hbytes, hscan⟩ := scan_stringChars k ((s.next 44).next 34)
      (58 :: (charsBytes j.chars ++ (charsBytes (membersChars ms) ++ rest)))
    obtain ⟨node, stop, hread, hnode⟩ := (readValue_chars j fuel (colon.next 58) hj (by omega)
      (membersChars_ends ms rest)).node
    have hmembers := readMembers_chars ms fuel stop rest hms (by omega)
    rw [members_bytes, List.cons_append, List.append_assoc, List.cons_append, List.append_assoc, hbytes,
      readMembers_comma hscan hread]
    exact hmembers.cons hnode
termination_by structural ms => ms

end

end Json
end Courier
