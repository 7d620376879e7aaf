import EventLedger.Metrics

/-!
# The page of metrics

Metrics are served as lines of text: a series with its labels, a blank and a value. Besides what
was counted and measured the page tells that the service has started.
-/
namespace EventLedger.Metrics

/-- The text of a label's value: backslashes, quotes and ends of lines are marked. -/
def labelValue (value : String) : String :=
  String.ofList (value.toList.flatMap fun c =>
    if c = '\n' then ['\\', 'n']
    else if c = '"' || c = '\\' then ['\\', c]
    else [c])

/-- The labels of a series in braces, if it has any. -/
def labelText (labels : List (String × String)) : String :=
  if labels.isEmpty then ""
  else
    let parts := labels.map fun (name, value) => name ++ "=\"" ++ labelValue value ++ "\""
    "\x7b" ++ ",".intercalate parts ++ "\x7d"

/-- A line of the page. -/
def line (series : String) (labels : List (String × String)) (value : Nat) : String :=
  series ++ labelText labels ++ " " ++ toString value

/-- The line of a counter, whose labels are shown in the order in which they were given. -/
def counterLine (counter : Counter) (value : Nat) : String :=
  line counter.name counter.labels.reverse value

/-- The line that tells how often a queue's messages were measured. -/
def durationLine (queue : String) (values : List Nat) : String :=
  line (durationName ++ "_count") [("queue", queue)] values.length

/-- The line of the start of a service. -/
def startLine (service : String) : String := line "service_starts_total" [("service", service)] 1

/-- The counts on the page of a service. -/
def page (service : String) (metrics : Metrics) : List String :=
  startLine service :: metrics.counters.map (fun (counter, value) => counterLine counter value) ++
    metrics.durations.map fun (queue, values) => durationLine queue values

/-- What is answered to whoever asks whether the service is there. -/
def healthText : String := "OK"

/-- The first line of the answer to whoever asks for another page. -/
def missingStatus : String := "HTTP/1.1 404 Not Found"

end EventLedger.Metrics
