import Courier.Listener.Basic
import Courier.Response
import Courier.Text.Quoted

/-! Calls that are watched.

    The listener hears of the request, of the first chunk of each subscription to its body, of the
    response and of each element of its body as it is handed out. Nothing is read on the listener's
    behalf. -/

namespace Courier.Listener

variable {W : Type} [Ambient W]

/-- The request with a hook on its body. -/
def watchRequest (l : Listener W) (call : CallContext) (r : Request W) : Request W :=
  { r with body := r.body.map (Body.tapFirst fun chunk => l.notify (.requestBody call chunk)) }

/-- Tells of an element, or of the failure in its place. -/
def tellItem (l : Listener W) (call : CallContext) (item : Except Failure Json) (w : W) : W :=
  let elapsed := call.elapsed w
  match item with
  | .ok j => l.notify (.bodyElement call j elapsed) w
  | .error e => l.notify (.errorReceived call e elapsed) w

/-- The response with a hook on the elements of its body. -/
def watchResponse (l : Listener W) (call : CallContext) (r : Response W) : Response W :=
  { r with body := fun w => match r.body w with
      | (w', items) => (w', items.tap (l.tellItem call)) }

/-- The exchange with a listener. -/
def exchange (l : Listener W) (methodKey : String) (inner : Exchange W) : Exchange W where
  shown := "LoggerReactiveHttpClient \x7b method_key: " ++ Text.quoted methodKey ++ ", inner: " ++ inner.shown
    ++ " \x7d"
  execute := fun request w =>
    let (w, call) := CallContext.start methodKey request w
    let w := l.notify (.requestStarted call request) w
    match inner.execute (l.watchRequest call request) w with
    | (w, .ok response) =>
      let told := l.notify (.responseReceived call response.status response.headers (call.elapsed w)) w
      (told, .ok (l.watchResponse call response))
    | (w, .error e) => (l.notify (.errorReceived call e (call.elapsed w)) w, .error e)
    | (w, .never) => (w, .never)

end Courier.Listener
