import BigScript.Net.Exchange
import BigScript.Number.Decimal
import BigScript.Number.Read

/-!
# The echo network

A network for trying scripts out.  Every host answers in the same way: with a description of the
request, or, for some paths, with a redirection, a status, a given text or a broken encoding.
-/

namespace BigScript
namespace Echo

/-- The number at the end of a path. -/
def numberAfter? (path start : String) : Option Int :=
  if Text.startsWith path start then Number.parseInt? (Text.withoutStart path start) else none

/-- A request in lines: method, host and target, agent, type, the headers of its own, the body. -/
def describe (request : Request) : String :=
  let own := request.headers.filter fun entry => Text.startsWith entry.1 "X-"
  Text.join "\n"
    ([request.method ++ " " ++ request.host ++ " " ++ request.target,
      "agent=" ++ request.agent, "type=" ++ request.contentType] ++
      own.map (fun entry => entry.1 ++ "=" ++ entry.2) ++ ["body=" ++ request.body])

/-- The statuses whose answers have no body. -/
def isBare (status : Int) : Bool := status == 204 || status == 304 || (100 ≤ status && status < 200)

/-- Answers a request. -/
def network : Network := fun request =>
  let path := (Address.read ("http://h" ++ request.target)).path
  match numberAfter? path "/redirect/" with
  | some n =>
    let next := if n > 1 then "/redirect/" ++ Number.intText (n - 1) else "/final"
    .ok { status := 302, location := some next }
  | none =>
    match numberAfter? path "/status/" with
    | some n =>
      .ok { status := n.toNat, body := if isBare n then "" else "status " ++ Number.intText n }
    | none =>
      if Text.startsWith path "/say/" then .ok { body := Text.withoutStart path "/say/" }
      else if path == "/badgzip" then .ok { encoding := "gzip" }
      else .ok { body := describe request }

end Echo
end BigScript
