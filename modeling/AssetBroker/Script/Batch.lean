import AssetBroker.Script.Common
import AssetBroker.Batch.Sink

/-!
# Driving a batch sink

A script of reports and queries against one sink whose values are strings.
Each step answers its value and the deliveries it caused; the answer also
lists every delivery in order. After `finish` the sink is gone and further
steps are refused.
-/

namespace AssetBroker

namespace Script

def outcomeJson {α : Type} (encode : α → Json) : Except ElementError α → Json
  | .ok v => .obj [("ok", encode v)]
  | .error e => .obj [("err", elementJson e)]

def deliveryJson {α : Type} (encode : α → Json) (d : Delivery α) : Json :=
  (outcomeJson encode d.outcome).withFields [("index", .int d.index)]

/-- One step on a live sink: the value answered and the sink after it, or
`none` for the sink when the step finished it. -/
def sinkStep (r : SinkRun String) (step : Json) : Read (Json × Option (SinkRun String)) := do
  match ← needStr step "do" with
  | "success" => return (.null, some (r.success (← needNat step "index") (← needStr step "value")))
  | "error" =>
    let i ← needNat step "index"
    let e ← readElementError step
    return (.null, some (r.error i e))
  | "report" =>
    let i ← needNat step "index"
    match step.field? "ok" with
    | some v => return (.null, some (r.success i (← asStr v)))
    | none => return (.null, some (r.error i (← readElementError (← need step "err"))))
  | "finish" => return (.null, none)
  | "is_aborted" => return (.bool r.sink.aborted, some r)
  | "stops_on_error" => return (.bool r.sink.stopOnError, some r)
  | "is_reported" => return (.bool (r.sink.isReported (← needNat step "index")), some r)
  | "unreported" => return (.arr (r.sink.unreported.map fun (i : Nat) => Json.int i), some r)
  | "len" => return (.int r.sink.len, some r)
  | "is_empty" => return (.bool (r.sink.len == 0), some r)
  | other => .error (badInput ("unknown step '" ++ other ++ "'"))

/-- Runs the steps in order; a finished sink refuses the rest. Returns the
step answers, all deliveries and the events logged. -/
def runSinkSteps (r : SinkRun String) : List Json → List Json × List (Delivery String) × Trail
  | [] => ([], r.delivered, r.trail)
  | step :: rest =>
    let before := r.delivered.length
    match sinkStep r step with
    | .error refusal =>
      let (answers, all, trail) := runSinkSteps r rest
      (refusal.withFields [("delivered", .arr [])] :: answers, all, trail)
    | .ok (value, some r') =>
      let fresh := r'.delivered.drop before
      let (answers, all, trail) := runSinkSteps r' rest
      (.obj [("value", value), ("delivered", .arr (fresh.map (deliveryJson Json.str)))] :: answers, all, trail)
    | .ok (_, none) =>
      let r' := r.finish
      let fresh := r'.delivered.drop before
      let finished := rest.map fun _ =>
        Json.obj [("error", .str "SinkFinished"), ("message", .str "sink already finished"),
          ("delivered", .arr [])]
      (.obj [("value", .null), ("delivered", .arr (fresh.map (deliveryJson Json.str)))] :: finished,
        r'.delivered, r'.trail)

def batchSink (req : Json) : Read (Json × Trail) := do
  let len ← needNat req "len"
  let stop ← boolOr req "stop_on_error" false
  let steps ← asList (← need req "steps")
  let (answers, all, trail) := runSinkSteps (SinkRun.fresh len stop) steps
  return (.obj [("events", .arr (all.map (deliveryJson Json.str))), ("steps", .arr answers)], trail)

end Script

end AssetBroker
