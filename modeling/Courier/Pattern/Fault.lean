import Courier.Pattern.Span

/-! Faults of patterns, and how they are shown.

    A report repeats the pattern and underlines the piece at fault, and a second one where two pieces
    contradict each other. A pattern of several lines is shown with their numbers between rules. -/

namespace Courier.Pattern

/-- Why a text is no pattern. -/
inductive Cause where
  | classEscape
  | descendingRange
  | rangeEnd
  | openClass
  | invalidDecimal
  | emptyHexadecimal
  | invalidHexadecimal
  | hexadecimalDigit
  | escapeEnd
  | unknownEscape
  | danglingNegation
  | repeatedFlag
  | repeatedNegation
  | flagEnd
  | unknownFlag
  | repeatedName
  | emptyName
  | invalidName
  | nameEnd
  | openGroup
  | unopenedGroup
  | tooDeep (limit : Nat)
  | descendingCount
  | emptyCount
  | openCount
  | nothingRepeated
  | openWordEdge
  | unknownWordEdge
  | wordEdgeEnd
  | invalidProperty
  | backreference
  | lookAround
  | unicodeForbidden
  | invalidUtf8
  | unknownProperty
  | unknownPropertyValue
  | unknownShorthand
  | unknownCase
deriving DecidableEq, Repr

/-- The cause in words. -/
def Cause.text : Cause → String
  | .classEscape => "invalid escape sequence found in character class"
  | .descendingRange => "invalid character class range, the start must be <= the end"
  | .rangeEnd => "invalid range boundary, must be a literal"
  | .openClass => "unclosed character class"
  | .invalidDecimal => "decimal literal invalid"
  | .emptyHexadecimal => "hexadecimal literal empty"
  | .invalidHexadecimal => "hexadecimal literal is not a Unicode scalar value"
  | .hexadecimalDigit => "invalid hexadecimal digit"
  | .escapeEnd => "incomplete escape sequence, reached end of pattern prematurely"
  | .unknownEscape => "unrecognized escape sequence"
  | .danglingNegation => "dangling flag negation operator"
  | .repeatedFlag => "duplicate flag"
  | .repeatedNegation => "flag negation operator repeated"
  | .flagEnd => "expected flag but got end of regex"
  | .unknownFlag => "unrecognized flag"
  | .repeatedName => "duplicate capture group name"
  | .emptyName => "empty capture group name"
  | .invalidName => "invalid capture group character"
  | .nameEnd => "unclosed capture group name"
  | .openGroup => "unclosed group"
  | .unopenedGroup => "unopened group"
  | .tooDeep limit =>
    "exceed the maximum number of nested parentheses/brackets (" ++ toString limit ++ ")"
  | .descendingCount => "invalid repetition count range, the start must be <= the end"
  | .emptyCount => "repetition quantifier expects a valid decimal"
  | .openCount => "unclosed counted repetition"
  | .nothingRepeated => "repetition operator missing expression"
  | .openWordEdge =>
    "special word boundary assertion is either unclosed or contains an invalid character"
  | .unknownWordEdge =>
    "unrecognized special word boundary assertion, valid choices are: start, end, start-half or end-half"
  | .wordEdgeEnd =>
    "found either the beginning of a special word boundary or a bounded repetition on a \\b with an"
      ++ " opening brace, but no closing brace"
  | .invalidProperty => "invalid Unicode character class"
  | .backreference => "backreferences are not supported"
  | .lookAround => "look-around, including look-ahead and look-behind, is not supported"
  | .unicodeForbidden => "Unicode not allowed here"
  | .invalidUtf8 => "pattern can match invalid UTF-8"
  | .unknownProperty => "Unicode property not found"
  | .unknownPropertyValue => "Unicode property value not found"
  | .unknownShorthand =>
    "Unicode-aware Perl class not found (make sure the unicode-perl feature is enabled)"
  | .unknownCase =>
    "Unicode-aware case insensitivity matching is not available (make sure the unicode-case feature"
      ++ " is enabled)"

/-- A cause, the piece of the pattern at fault, and another piece that it contradicts. -/
structure Fault where
  cause : Cause
  span : Span
  other : Option Span
deriving DecidableEq, Repr

/-- A fault of one piece. -/
def Cause.at (cause : Cause) (span : Span) : Fault := ⟨cause, span, none⟩

/-- A line without the return that ends it. -/
def withoutReturn (line : List Char) : List Char :=
  if line.getLast? == some '\r' then line.dropLast else line

/-- The lines of a text; what follows the last break is a line unless it is empty. -/
def linesOf (pattern : List Char) : List (List Char) :=
  match (pattern.splitOn '\n').reverse with
  | [] :: rest => (rest.map withoutReturn).reverse
  | last :: rest => (last :: rest.map withoutReturn).reverse
  | [] => []

/-- The width of line numbers, none where there is one line. -/
def numberWidth (pattern : List Char) : Nat :=
  let count := (linesOf pattern).length + (if pattern.getLast? == some '\n' then 1 else 0)
  if count ≤ 1 then 0 else (toString count).length

/-- What stands before a line; `width` is that of line numbers. -/
def lineMargin (width number : Nat) : List Char :=
  if width == 0 then List.replicate 4 ' '
  else
    let digits := (toString number).toList
    List.replicate (width - digits.length) ' ' ++ digits ++ [':', ' ']

/-- Adds the marks of a piece to those of earlier ones in its line. -/
def underline (marks : List Char) (s : Span) : List Char :=
  marks ++ List.replicate (s.start.column - 1 - marks.length) ' ' ++
    List.replicate (max 1 (s.stop.column - s.start.column)) '^'

/-- A line and the marks below it. -/
def shownLine (spans : List Span) (width number : Nat) (line : List Char) : List (List Char) :=
  let margin := lineMargin width number
  let text := margin ++ line
  match spans.filter fun s => s.isInLine && s.start.line == number with
  | [] => [text]
  | here => [text, List.replicate margin.length ' ' ++ here.foldl underline []]

/-- What is said of a piece of several lines. -/
def linesNote (s : Span) : String :=
  "on line " ++ toString s.start.line ++ " (column " ++ toString s.start.column ++ ") through line " ++
    toString s.stop.line ++ " (column " ++ toString (s.stop.column - 1) ++ ")"

/-- The rule above and below a pattern of several lines. -/
def rule : String := String.ofList (List.replicate 79 '~')

/-- The report of a fault in a pattern. -/
def Fault.report (f : Fault) (pattern : List Char) : String :=
  let spans := (f.span :: f.other.toList).mergeSort Span.before
  let width := numberWidth pattern
  let shown := ((linesOf pattern).zipIdx 1).flatMap fun l => shownLine spans width l.2 l.1
  let body := shown.map String.ofList
  let framed := if pattern.contains '\n' then
    [rule] ++ body ++ [rule] ++ (spans.filter fun s => !s.isInLine).map linesNote else body
  "\n".intercalate (["regex parse error:"] ++ framed ++ ["error: " ++ f.cause.text])

end Courier.Pattern
