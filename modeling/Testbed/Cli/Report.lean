import Testbed.Session.Basic
import Testbed.Text.Json

namespace Testbed.Session

def padded (width : Nat) (s : String) : String :=
  s ++ String.ofList (List.replicate (width - s.length) ' ')

def Running.switchLine (running : Running) (switch : String) (controller : Endpoint) : String :=
  let state := ((running.stateOf? switch).map BindingState.name).getD ""
  padded 12 switch ++ " " ++ padded 20 state ++ " controller " ++ controller.text

def Running.summary (running : Running) : List String :=
  running.controllersByName.map (fun (switch, e) => running.switchLine switch e) ++
    running.topology.links.map (fun l => "link " ++ l.text) ++
    [s!"{running.tuned.length} host interfaces tuned"]

def errorLines (e : ReleaseError) : List String :=
  Text.jsonObject [Text.jsonField "node" [Text.quoteJson e.node],
    Text.jsonField "message" [Text.quoteJson e.message]]

def Report.jsonLines (r : Report) : List String :=
  let texts (names : List String) := Text.jsonArray (names.map fun s => [Text.quoteJson s])
  Text.jsonObject [Text.jsonField "stopped" (texts r.stopped),
    Text.jsonField "released_links" (texts r.releasedLinks),
    Text.jsonField "errors" (Text.jsonArray (r.errors.map errorLines))]

end Testbed.Session
