import TrafficMeter.Service.Command

set_option autoImplicit false

namespace TrafficMeter

/-- What a live client is told. -/
inductive LiveMessage
  | frame (frame : Frame)
  | error (text : String)
deriving DecidableEq, Repr

/-- What a live client goes through. -/
inductive LiveEvent
  /-- A new batch came in, which makes this the newest history. -/
  | published (history : History)
  | received (text : String)
deriving DecidableEq, Repr

/-- An open live client: the viewer, and the history it saw last. -/
structure LiveClient where
  viewer : Viewer
  history : History
deriving DecidableEq, Repr

namespace LiveClient

/-- What is sent when the display is drawn; before the first batch there is nothing to draw. -/
def rendering (client : LiveClient) (zone : Zone) : List LiveMessage :=
  match client.viewer.render client.history zone with
  | .ok frame => [.frame frame]
  | .error .noSnapshot => []
  | .error reason => [.error reason.message]

def start (years : YearLimits) (history : History) : LiveClient := ⟨.start years, history⟩

/-- Does as a text says, and tells whether a redraw is due now. -/
def obey (history : History) (text : String) : ViewerM String Bool :=
  match Command.ofText? text with
  | none => throw "invalid command"
  | some command => (Viewer.perform history command.action).mapError ActionFault.message

/-- The client with the viewer that it is left with. A redraw that is due is drawn, and a refusal is
told in its own words. -/
def follow (client : LiveClient) (zone : Zone) (outcome : Viewer × Except String Bool) :
    LiveClient × List LiveMessage :=
  let client := { client with viewer := outcome.1 }
  match outcome.2 with
  | .ok now => (client, if now then client.rendering zone else [])
  | .error reason => (client, [.error reason])

/-- The client after an event, and the messages it is sent. -/
def step (zone : Zone) (client : LiveClient) : LiveEvent → LiveClient × List LiveMessage
  | .published history =>
    { client with history }.follow zone ((ViewerM.ofChange Viewer.askRedraw).on client.viewer)
  | .received text => client.follow zone ((obey client.history text).on client.viewer)

end LiveClient

namespace LiveMessage

def toJson (number : BinaryFraction → Json) : LiveMessage → Json
  | frame shown => .ofFields (("type", .ofString "frame") :: shown.fields number)
  | error text => .ofFields [("type", .ofString "error"), ("error", .ofString text)]

end LiveMessage

end TrafficMeter
