import EventLedger.Broker.Transcript
import EventLedger.Database.Rehearsal
import EventLedger.Log.Line
import EventLedger.Service

/-!
# Rehearsals of the service

A rehearsal runs the whole service in a given environment, with the database and the broker of
rehearsals. Both are found at addresses of their own, and nothing is found elsewhere. A stop is
asked for when the script is over, and as soon as the log has a line with a given text.
-/
namespace EventLedger.Service

/-- How the service is asked to stop. -/
inductive StopRequest where
  /-- From outside. -/
  | terminate
  /-- From the keyboard. -/
  | interrupt
  deriving DecidableEq, Repr

/-- What is logged about a wish to stop. -/
def StopRequest.record (request : StopRequest) : Log.Record :=
  let word := match request with
    | .terminate => "SIGTERM"
    | .interrupt => "Ctrl+C"
  { level := .info, target := logTarget, fields := [], span := none,
    message := "Received " ++ word ++ ", starting graceful shutdown..." }

/-- A move of the broker, where a message comes with the mishaps of the database from then on. -/
inductive Move where
  /-- It delivers a message. -/
  | deliver (kind : EventKind) (body : Json.Bytes) (mishaps : List Database.Mishap)
      (loss : Option Broker.Loss)
  /-- Another move. -/
  | other (move : Broker.Move)

/-- What is rehearsed. -/
structure Rehearsal where
  /-- The environment. -/
  environment : Settings.Environment
  /-- The files. -/
  files : FileTree
  /-- Whether the metrics can be served. -/
  canServeMetrics : Bool
  /-- The mishaps of the database before the first message. -/
  mishaps : List Database.Mishap
  /-- The moves of the broker. -/
  moves : List Move
  /-- The request that the broker refuses in its first session. -/
  refusal : Option Broker.Refusal
  /-- The text in a line at which a stop is asked for. -/
  stopText : Option String

/-- What comes of a rehearsal. -/
structure Report where
  /-- Why the service could not run, if so. -/
  failure : Option Failure
  /-- The settings, if they could be loaded, and the filter of the log. -/
  settings : Option (Settings × Log.Filter)
  /-- What happened. -/
  journal : Journal
  /-- What the broker noted. -/
  notes : List Broker.Note
  /-- The number of moves that were not made. -/
  unread : Nat

namespace Rehearsal

/-- What is said if somebody else serves where the metrics shall be served. -/
def addressTaken : String := "Address already in use (os error 98)"

/-- The address of the broker. -/
def brokerUrl : String := "amqp://rehearsal/%2f"

/-- A move of the broker to a service with settings. -/
def moveFor (settings : Settings) : Move → Broker.Move
  | .deliver kind body mishaps loss =>
    let pool : Database.Pool := { isClosed := false }
    let database := Database.Rehearsal.ofMishaps mishaps
    let limit := settings.consumer.timeLimit
    .deliver kind body
      (fun event => (pool.storeWithin Database.Rehearsal.answer database limit event).1) loss
  | .other move => move

/-- The script of the broker. -/
def script (rehearsal : Rehearsal) (settings : Settings) : Broker.Script :=
  .ofMoves (rehearsal.moves.map (moveFor settings)) rehearsal.refusal
    (Broker.setUp settings.broker.prefetch settings.consumer.virtualHost settings.broker.usageQueue
      settings.broker.auditQueue)

/-- Whether the settings lead to the broker. -/
def findsBroker (settings : Settings) : Bool := settings.broker.url = brokerUrl

/-- What the service meets besides its broker. -/
def surroundings (rehearsal : Rehearsal) : Surroundings Database.Rehearsal where
  peer := Database.Rehearsal.answer
  database := .ofMishaps rehearsal.mishaps
  network := Database.Rehearsal.network
  metricsRefusal := if rehearsal.canServeMetrics then none else some addressTaken
  horizon := Database.Rehearsal.horizon
  closing := some 0

/-- What the sessions with the broker meet. -/
def sessions (rehearsal : Rehearsal) (settings : Settings) : List Broker.Session :=
  if findsBroker settings then (rehearsal.script settings).sessions
  else [{ refusedAt := some 0, wakes := [] }]

/-- Whether a text is somewhere in another one. -/
def occursIn (text whole : String) : Bool := text.isEmpty || 1 < (whole.splitOn text).length

/-- The texts of a line. -/
def texts (line : Log.Line) : List String :=
  [line.level.text, line.target, line.message] ++
    line.fields.flatMap fun (name, value) => [name, value]

/-- The world of the rehearsal. -/
def world (rehearsal : Rehearsal) (filter : Log.Filter) : World :=
  { World.start with
    stopsAt := fun record =>
      match rehearsal.stopText with
      | none => false
      | some text =>
        filter.keeps record && (texts (.ofRecord filter record)).any (occursIn text) }

/-- Rehearse with settings. -/
def runWith (rehearsal : Rehearsal) (settings : Settings) : Report :=
  let filter := Service.filter rehearsal.environment rehearsal.files settings
  let run := Service.run settings rehearsal.surroundings (rehearsal.sessions settings)
    (rehearsal.world filter)
  let (notes, moves) :=
    if findsBroker settings then Broker.transcript (rehearsal.script settings) run.journal
    else ([], rehearsal.moves.map (moveFor settings))
  { failure := match run.value with
      | some (.error failure) => some failure
      | _ => none
    settings := some (settings, filter), journal := run.journal,
    notes := notes.filter fun note => !note.isOfStore, unread := moves.length }

/-- Rehearse. -/
def run (rehearsal : Rehearsal) : Report :=
  match Service.load .native rehearsal.environment rehearsal.files with
  | .ok settings => rehearsal.runWith settings
  | .error failure =>
    { failure := some failure, settings := none, journal := [], notes := [],
      unread := rehearsal.moves.length }

end Rehearsal

namespace Report

/-- The lines of the log, if it is written in JSON; without settings there is nothing to write. -/
def lines (report : Report) : Option (List Log.Line) :=
  match report.settings with
  | none => some []
  | some (settings, filter) =>
    if settings.observability.logsJson then some (Log.lines filter report.journal) else none

/-- Whether a stop was asked for. -/
def wasStopped (report : Report) : Bool :=
  report.journal.any fun entry =>
    match entry.what with
    | .signalled .stop _ => true
    | _ => false

/-- The line about the wish to stop, if it is written. -/
def stopLine? (report : Report) (request : StopRequest) : Option Log.Line :=
  match report.settings with
  | none => none
  | some (settings, filter) =>
    if settings.observability.logsJson && report.wasStopped && filter.keeps request.record then
      some (.ofRecord filter request.record)
    else none

end Report

end EventLedger.Service
