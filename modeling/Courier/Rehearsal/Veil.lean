import Courier.Config.Error
import Courier.Failure
import Courier.Text.Piece

/-! Hiding what differs from run to run: names and times of calls, and the words of others. -/

namespace Courier.Rehearsal

/-- Puts `ID` in place of the last eight characters, if these are hexadecimal digits. -/
def hideId (text : String) : String :=
  let cs := text.toList
  let id := cs.drop (cs.length - 8)
  if id.length == 8 && id.all fun c => (Text.hexDigit? c).isSome then
    String.ofList (cs.take (cs.length - 8)) ++ "ID"
  else text

/-- Hides the name of the call before the first mark of a text. -/
def hideCallBefore (mark text : String) : String := match text.splitOn mark with
  | before :: after :: rest => String.intercalate mark (hideId before :: after :: rest)
  | _ => text

/-- Hides a number of milliseconds in parentheses at the end of a text. -/
def hideMillis (text : String) : String := match text.toList.reverse with
  | ')' :: 's' :: 'm' :: rest =>
    let digits := rest.takeWhile Char.isDigit
    match rest.drop digits.length with
    | '(' :: before => if digits.isEmpty then text else String.ofList before.reverse ++ "(_ms)"
    | _ => text
  | _ => text

/-- Hides the name and the time of a call in a record of it. -/
def hideCall (message : String) : String :=
  if !message.startsWith "[" then message
  else
    let mark := if (message.splitOn "] -->").length > 1 then "] -->" else "] <--"
    hideMillis (hideCallBefore mark message)

/-- How the text of a transport failure begins. -/
def transportStart (kind : TransportKind) : String := "transport error (" ++ kind.text ++ "): "

/-- Hides the words of a transport failure. -/
def hideTransport (text : String) : String :=
  let kinds : List TransportKind := [.connect, .request, .body, .redirect, .other]
  match kinds.find? fun k => text.startsWith (transportStart k) with
  | some k => transportStart k ++ "masked"
  | none => text

/-- Cuts a text behind a mark that is followed by further words. -/
def cutBehind (mark text : String) : String := match text.splitOn (mark ++ ": ") with
  | before :: _ :: _ => before ++ mark
  | _ => text

/-- Hides the words of a parser. -/
def hideParser (text : String) : String := cutBehind "invalid YAML" (cutBehind "invalid TOML" text)

end Courier.Rehearsal
