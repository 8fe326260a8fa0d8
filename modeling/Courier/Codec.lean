import Courier.Failure
import Courier.Http.Header
import Courier.Json.Printer
import Courier.Json.Reader
import Courier.Stream

/-! Bytes of a body and the values in it.

    A method has one result or many. The body of one result is a JSON text. The body of many is a JSON
    array, or a JSON text per line where the content type says so; lines are decoded as they arrive. -/

namespace Courier

/-- How many results a method has: at most one, or any number. -/
inductive Arity where
  | mono
  | flux
deriving DecidableEq, Repr

/-- The arity as diagnostics show it. -/
def Arity.text : Arity → String
  | .mono => "Mono"
  | .flux => "Flux"

namespace Codec

/-- The name of the header that tells the form of a body. -/
def contentTypeName : Http.HeaderName := ⟨"content-type"⟩

/-- Whether the character is a blank within a header value. -/
def isValueBlank (c : Char) : Bool := c == ' ' || c == '\t'

/-- The text without blanks around it. -/
def trimmed (cs : List Char) : List Char :=
  ((cs.dropWhile isValueBlank).reverse.dropWhile isValueBlank).reverse

/-- The media type of a body, in small letters and without parameters. -/
def contentType (hs : Http.Headers) : Option String := do
  let value ← Http.Headers.get? contentTypeName hs
  let text ← value.text?
  return Text.lowerAscii (String.ofList (trimmed (text.toList.takeWhile (· != ';'))))

/-- The media types of which each line is a value. -/
def lineTypes : List String := ["application/x-ndjson", "application/stream+json", "application/jsonl"]

/-- Whether each line of such a body is a value. -/
def isStreaming : Option String → Bool
  | some t => lineTypes.contains t
  | none => false

/-- Whether the byte is a blank, form feeds included. -/
def isBlankByte (b : UInt8) : Bool := b == 32 || b == 9 || b == 10 || b == 12 || b == 13

/-- Whether there are blanks only. -/
def isBlank (bs : Bytes) : Bool := bs.all isBlankByte

/-- The value of a text. -/
def decodeText (bs : Bytes) : Except Failure Json := match Json.parse bs with
  | .ok j => .ok j
  | .error f => .error (.ofJson f)

/-- The values of lines that are not blank. -/
def decodeEach : List Bytes → Except Failure (List Json)
  | [] => .ok []
  | l :: ls =>
    if isBlank l then decodeEach ls
    else do
      let j ← decodeText l
      let js ← decodeEach ls
      return j :: js

/-- The values of a whole body. -/
def decodeBody (arity : Arity) (type : Option String) (data : Bytes) : Except Failure (List Json) :=
  if isBlank data then .ok []
  else match arity with
    | .mono => (decodeText data).map ([·])
    | .flux =>
      if isStreaming type then decodeEach (data.splitOn 10)
      else (decodeText data).map fun
        | .array items => items
        | other => [other]

/-- The bytes of a body with these values. -/
def encodeElements : Arity → List Json → Bytes
  | .mono, [] => []
  | .mono, j :: _ => j.toBytes
  | .flux, js => js.flatMap fun j => j.toBytes ++ [10]

/-- The lines that are complete, each with its end, and what is left. -/
def cutLines : Bytes → List Bytes × Bytes
  | [] => ([], [])
  | b :: rest =>
    let (lines, left) := cutLines rest
    if b == 10 then ([10] :: lines, left)
    else match lines with
      | [] => ([], b :: left)
      | l :: ls => ((b :: l) :: ls, left)

variable {W : Type}

/-- Hands out the values of complete lines, then goes on; the first line that is no value ends it. -/
def emitLines (next : Stream W (Except Failure Json)) : List Bytes → Stream W (Except Failure Json)
  | [] => next
  | l :: ls =>
    if isBlank l then emitLines next ls
    else fun w => match decodeText l with
      | .ok j => .item w (.ok j) (emitLines next ls)
      | .error e => .item w (.error e) .done

/-- Decodes lines of which `buffer` has arrived. -/
def linesFrom (buffer : Bytes) : Step W (Except Failure Bytes) → Step W (Except Failure Json)
  | .done w => if isBlank buffer then .done w else .item w (decodeText buffer) .done
  | .item w (.error e) _ => .item w (.error e) .done
  | .item w (.ok chunk) more =>
    let cut := cutLines (buffer ++ chunk)
    emitLines (fun w' => linesFrom cut.2 (more w')) cut.1 w
  | .never w => .never w

/-- Decodes lines as chunks arrive: a value is handed out as soon as its line is complete, the last one
    at the end of the chunks. Nothing follows a failure. -/
def decodeLines (chunks : Stream W (Except Failure Bytes)) : Stream W (Except Failure Json) := fun w =>
  linesFrom [] (chunks w)

end Codec
end Courier
