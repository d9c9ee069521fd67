import FoodDispatch.MapsModels
import FoodDispatch.PrepEstimator

/-! The client of the Distance Matrix API: every outcome of the transport and
every JSON value of a reply is turned into a result, or escapes as an exception. -/
namespace FoodDispatch

structure MapsClient where
  apiKey : String
  started : Bool

/-- `_http.get`: the two exceptions it raises, or a reply whose body is `none`
when `response.json()` raises. -/
inductive Transport where
  | timeoutException
  | requestError (text : String)
  | response (statusCode : ℤ) (body : Option Json)

namespace MapsClient

def init (settings : Settings) (apiKey : Option String) : MapsClient :=
  let given := apiKey.getD ""
  ⟨if given = "" then settings.googleMapsApiKey else given,false⟩

def start (client : MapsClient) : MapsClient := {client with started := true}

def stop (client : MapsClient) : MapsClient := {client with started := false}

/-- `body["rows"][0]["elements"][0]`. -/
def firstElement (body : Dict) : Except PyException Json := do
  let rows ← body.item "rows"
  let row ← rows.first
  let elements ← row.item "elements"
  elements.first

/-- `body.get(key, ["?"])[0]`, an argument of a log call. -/
def loggedAddress (body : Dict) (key : String) : Except PyException Json :=
  (body.get key (.list [.str "?"])).first

/-- `int(element[key]["value"])`. -/
def quantity (element : Dict) (key : String) : Except PyException ℤ := do
  let node ← element.item key
  let value ← node.item "value"
  PyInt.ofJson value

/-- Traffic data is preferred whenever the element has it. -/
def durationKey (element : Dict) : String :=
  if (element.lookup "duration_in_traffic").isSome then "duration_in_traffic" else "duration"

def routePayload (element : Dict) : Except PyException (ℤ × ℤ) := do
  let duration ← quantity element (durationKey element)
  let distance ← quantity element "distance"
  return (duration,distance)

def parseElement (body element : Dict) : Except PyException RouteETAResult :=
  let elementStatus := element.get "status" .null
  if elementStatus.equals ElementStatus.OK then
    match routePayload element with
    | .ok (duration,distance) => .ok (.success duration distance)
    | .error .keyError | .error .typeError | .error (.valueError _) =>
      .ok (.failure (.text "Invalid route payload"))
    | .error error => .error error
  else do
    let _ ← loggedAddress body "origin_addresses"
    let _ ← loggedAddress body "destination_addresses"
    return .failure (.withJson "Element status: " elementStatus)

def parseResponse : Option Json → Except PyException RouteETAResult
  | none => .ok (.failure (.text "Invalid JSON response"))
  | some json => do
    let body ← json.asDict
    let apiStatus := body.get "status" .null
    if apiStatus.equals DistanceMatrixStatus.OK then
      match firstElement body with
      | .error .keyError | .error .indexError =>
        return .failure (.text "Unexpected response structure")
      | .error error => throw error
      | .ok found => parseElement body (← found.asDict)
    else return .failure (.withJson "API status: " apiStatus)

def getDrivingEta (client : MapsClient) (transport : Transport) :
    Except PyException RouteETAResult :=
  if client.apiKey = "" then .ok (.failure (.text "API key not configured"))
  else if !client.started then .ok (.failure (.text "Client not initialised"))
  else match transport with
    | .timeoutException => .ok (.failure (.text "Request timed out"))
    | .requestError text => .ok (.failure (.withText "Network error: " text))
    | .response statusCode body =>
      if statusCode ≠ 200 then .ok (.failure (.withInt "HTTP " statusCode))
      else parseResponse body

end MapsClient
end FoodDispatch
