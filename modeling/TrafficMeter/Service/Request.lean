import TrafficMeter.Period.Parser
import TrafficMeter.Service.Query
import TrafficMeter.Store.Basic
import TrafficMeter.Display.Codec

set_option autoImplicit false

namespace TrafficMeter

inductive Method
  | get
  | post
deriving DecidableEq, Repr

/-- What a request asks for. -/
inductive Route
  | greeting
  | version
  | chart
  | counters
  | periods
  | reset
  | live
deriving DecidableEq, Repr

namespace Route

def ofPath? (path : String) : Option Route :=
  match path with
  | "/" => some greeting
  | "/version" => some version
  | "/api/chart" => some chart
  | "/api/counters" => some counters
  | "/api/periods" => some periods
  | "/api/reset" => some reset
  | "/ws/volumes" => some live
  | _ => none

/-- Only a reset changes anything. -/
def method : Route → Method
  | reset => .post
  | _ => .get

end Route

/-- Why a request was refused. -/
inductive RequestFault
  | unknownPath
  | wrongMethod
  /-- The path of live clients, without the headers of one. -/
  | notLive
  | badQuery
  | period (reason : PeriodFault)
  | lookup (reason : LookupFault)
  | store (reason : StoreFault)
deriving DecidableEq, Repr

namespace RequestFault

def status : RequestFault → Nat
  | unknownPath => 404
  | wrongMethod => 405
  | notLive | badQuery | period _ => 400
  | lookup .noSnapshot => 503
  | lookup (.unknownServer _) | store (.unknownServer _) => 404
  | store _ => 502

def message : RequestFault → String
  | unknownPath | wrongMethod => ""
  | notLive => "Connection header did not include 'upgrade'"
  | badQuery => "Failed to deserialize query string"
  | period reason => reason.message
  | lookup reason => reason.message
  | store reason => reason.message

/-- Requests that reach no page are refused in plain text. -/
def isPlain : RequestFault → Bool
  | unknownPath | wrongMethod | notLive => true
  | _ => false

end RequestFault

/-- What a request is answered with if all goes well. -/
inductive Page
  | greeting
  | version
  | chart (chart : Chart)
  | counters (summary : Summary)
  | periods (periods : List Period)
  | reset (index : Nat)
deriving DecidableEq, Repr

namespace Page

def toJson (number : BinaryFraction → Json) : Page → Json
  | greeting => .ofString "volstats: download volume statistics"
  | version => .ofFields [("name", .ofString "volstats"), ("version", .ofString "0.1.0")]
  | chart shown => shown.toJson number
  | counters shown => shown.toJson
  | periods shown => .ofList Period.toJson shown
  | reset index => .ofFields [("reset", .int index)]

end Page

/-- An answer to a request. -/
structure Response where
  status : Nat
  body : Json
  /-- Any page may read the answer. -/
  allowOrigin : String

namespace Response

def ofResult (number : BinaryFraction → Json) (result : Except RequestFault Page) : Response :=
  match result with
  | .ok page => ⟨200, page.toJson number, "*"⟩
  | .error reason =>
    { status := reason.status
      body :=
        if reason.isPlain then .ofString reason.message
        else .ofFields [("error", .ofString reason.message)]
      allowOrigin := "*" }

end Response

/-- Characters of the scheme of an address. -/
def isSchemeChar (char : Char) : Bool :=
  char.isAlphanum || char = '+' || char = '-' || char = '.'

/-- The part of an address from its path on. An address begins with its path, or with a scheme and
an authority, behind which no path is a slash; any other has neither path nor parameters. -/
def pathOnward (address : List Char) : List Char :=
  match address, address.dropWhile isSchemeChar with
  | '/' :: _, _ => address
  | _, ':' :: '/' :: '/' :: rest =>
    let onward := rest.dropWhile fun char => char ≠ '/' && char ≠ '?'
    if onward.head? = some '/' then onward else '/' :: onward
  | _, _ => []

/-- Path and parameters of an address; what follows a hash sign is not sent. -/
def splitAddress (address : String) : String × List Char :=
  let sent := pathOnward (address.toList.takeWhile (· ≠ '#'))
  (String.ofList (sent.takeWhile (· ≠ '?')), (sent.dropWhile (· ≠ '?')).drop 1)

/-- The route of an address, if it takes the method. -/
def findRoute (method : Method) (path : String) : Except RequestFault Route :=
  match Route.ofPath? path with
  | none => .error .unknownPath
  | some route => if route.method = method then .ok route else .error .wrongMethod

namespace History

/-- The chart that a query asks for. The query is judged before the data is looked at. -/
def chartPage (history : History) (years : YearLimits) (query : Query) :
    Except RequestFault Chart := do
  let some request := query.chartRequest? | throw .badQuery
  let period ← (request.period.mapM (Period.parse years)).mapError .period
  let range ← (ChartRange.ofParts request.range period).mapError .period
  (history.chart range request.scope).mapError .lookup

/-- The counters that a query asks for. -/
def countersPage (history : History) (zone : Zone) (query : Query) :
    Except RequestFault Summary := do
  let some scope := query.scope? | throw .badQuery
  (history.summary scope zone).mapError .lookup

end History

/-- The server whose counter a query asks to reset, and the text of the store after it. -/
def resetPage (source : AggregateSource) (now : Int) (file : Option String) (query : Query) :
    Except RequestFault (Scope × String) := do
  let some scope := query.scope? | throw .badQuery
  let file ← (Store.reset source now scope file).mapError .store
  return (scope, file)

end TrafficMeter
