import EventLedger.Proofs.Accounting
import EventLedger.Proofs.Queues

/-!
# Nothing is lost

Whatever happens to a worker, its broker and its database, a published message whose body is an
event is held by the broker or accounted for by the database. What carries this is where the worker
stands: between deliveries, at a delivery that it has received, or in the call that stores the
event of one. A settlement that lets go of a message comes after the whole of its call.
-/
namespace EventLedger

open Broker (Message Queues Shipment)
open Database (Call Converses Server ServerMove Sound Standing Utterance)

/-! ## Where the worker stands -/

/-- The last call is for an event, and something remains to be said of a whole. -/
def Database.Server.Awaits (server : Server) (event : Event) (remaining whole : List Utterance) :
    Prop :=
  ∃ call, server.calls[server.calls.length - 1]? = some call ∧ call.event = event ∧
    call.said ++ remaining = whole

/-- The broker has delivered what a task received. -/
def Task.IsDelivered (task : Task) (queues : Queues) : Prop :=
  ∃ shipment ∈ queues.delivered, shipment.tag = task.delivery.tag ∧
    shipment.message.kind = task.delivery.kind ∧ shipment.message.body = task.delivery.body

/-- What the broker and the database are still to notice of a worker, by where it stands. -/
inductive Ready (consumer : Consumer) (queues : Queues) (server : Server) :
    List Occurrence → Prop where
  /-- The worker is between deliveries. -/
  | between {script : List Occurrence} (later : Scripted consumer script) :
      Ready consumer queues server script
  /-- The worker has received a delivery. -/
  | received {task : Task} {script : List Occurrence} (later : Scripted consumer script)
      (delivered : task.IsDelivered queues) :
      Ready consumer queues server (task.remaining consumer ++ script)
  /-- The worker is in the call for the event of a delivery. -/
  | storing {task : Task} {event : Event} {remaining : List Utterance} {script : List Occurrence}
      (later : Scripted consumer script) (delivered : task.IsDelivered queues)
      (decoded : Event.ofBody task.delivery.kind task.delivery.body = .ok event)
      (awaits : server.Awaits event remaining (task.said event)) :
      Ready consumer queues server
        (remaining.map spoken ++
          .settled task.delivery.tag (task.decision consumer) :: script)

/-- What is said of a task belongs to a conversation that stores its event. -/
theorem Task.converses (task : Task) (event : Event) : Converses event (task.said event) := by
  unfold said
  split
  · exact ⟨_, List.prefix_rfl⟩
  · exact ⟨[], List.nil_prefix⟩

namespace Database.Server.Awaits

variable {server : Server} {event : Event} {remaining whole : List Utterance}

/-- A new call on a new connection has said nothing. -/
theorem beginWith (server : Server) (event : Event) (whole : List Utterance) :
    (server.beginWith event .fresh).Awaits event whole whole := by
  refine ⟨.fresh event .fresh, ?_, rfl, rfl⟩
  simp [Server.beginWith]

/-- A new call has said nothing, whatever connection it gets. -/
theorem begin (server : Server) (event : Event) (reused : Option Nat) (whole : List Utterance) :
    (server.begin event reused).Awaits event whole whole := by
  obtain same | ⟨place, same⟩ := server.begin_cases event reused <;> rw [same]
  · exact beginWith server event whole
  · exact beginWith _ event whole

/-- The server says nothing for a caller. -/
theorem move (awaits : server.Awaits event remaining whole) (move : ServerMove) :
    (server.move move).Awaits event remaining whole := by
  obtain ⟨call, found, own, told⟩ := awaits
  obtain ⟨connection, kept⟩ := found_move found move
  rw [← server.length_move move] at kept
  exact ⟨_, kept, own, told⟩

/-- A caller says one thing more. -/
theorem say {utterance : Utterance}
    (awaits : server.Awaits event (utterance :: remaining) whole) {change : Call → Call}
    (own : ∀ call, (change call).event = call.event)
    (adds : ∀ call, (change call).said = call.said ++ [utterance]) :
    (server.onCall (server.calls.length - 1) change).Awaits event remaining whole := by
  obtain ⟨call, found, rfl, told⟩ := awaits
  have changed := found_onCall found (server.calls.length - 1) change
  rw [if_pos rfl] at changed
  refine ⟨change call, ?_, own call, ?_⟩
  · rw [onCall, List.length_modify]
    exact changed
  · rw [adds, List.append_assoc, List.singleton_append, told]

end Database.Server.Awaits

namespace Ready

variable {consumer : Consumer} {queues : Queues} {server : Server} {noticed : List Occurrence}

/-- The worker stays where it is while deliveries and its call stay as they are. -/
theorem stays (ready : Ready consumer queues server noticed) {laterQueues : Queues}
    {laterServer : Server}
    (delivered : ∀ shipment ∈ queues.delivered, shipment ∈ laterQueues.delivered)
    (awaits : ∀ event remaining whole, server.Awaits event remaining whole →
      laterServer.Awaits event remaining whole) :
    Ready consumer laterQueues laterServer noticed := by
  cases ready with
  | between later => exact .between later
  | received later isDelivered =>
    obtain ⟨shipment, among, same⟩ := isDelivered
    exact .received later ⟨shipment, delivered shipment among, same⟩
  | storing later isDelivered decoded waits =>
    obtain ⟨shipment, among, same⟩ := isDelivered
    exact .storing later ⟨shipment, delivered shipment among, same⟩ decoded (awaits _ _ _ waits)

end Ready

/-! ## What is kept -/

/-- Whatever happens, this is kept: the server is sound, deliveries are told apart, and every
message that holds an event is held or accounted for. -/
structure Kept (consumer : Consumer) (queues : Queues) (server : Server)
    (noticed : List Occurrence) : Prop where
  /-- The server is sound. -/
  sound : Sound server
  /-- Deliveries are told apart. -/
  tidy : queues.Tidy
  /-- Every message that holds an event is held or accounted for. -/
  safe : ∀ message ∈ queues.published, ∀ event,
    Event.ofBody message.kind message.body = .ok event →
      queues.Holds message ∨ server.Accounts event
  /-- Where the worker stands. -/
  ready : Ready consumer queues server noticed

namespace Kept

variable {consumer : Consumer} {queues laterQueues : Queues} {server laterServer : Server}
  {noticed laterNoticed : List Occurrence}

/-- Nothing is lost by a change of queues that goes on holding every message. -/
theorem onQueues (kept : Kept consumer queues server noticed) (tidy : laterQueues.Tidy)
    (published : laterQueues.published = queues.published)
    (holds : ∀ message, queues.Holds message → laterQueues.Holds message)
    (ready : Ready consumer laterQueues server laterNoticed) :
    Kept consumer laterQueues server laterNoticed where
  sound := kept.sound
  tidy := tidy
  safe := by
    intro message among event decoded
    rw [published] at among
    exact (kept.safe message among event decoded).imp (holds message) id
  ready := ready

/-- Nothing is lost when the server goes on. -/
theorem onServer (kept : Kept consumer queues server noticed) (sound : Sound laterServer)
    (goesOn : server.GoesOn laterServer)
    (ready : Ready consumer queues laterServer laterNoticed) :
    Kept consumer queues laterServer laterNoticed where
  sound := sound
  tidy := kept.tidy
  safe := by
    intro message among event decoded
    exact (kept.safe message among event decoded).imp id (·.goesOn goesOn)
  ready := ready

/-- A message is published. -/
theorem publish (kept : Kept consumer queues server noticed) (kind : EventKind)
    (body : Json.Bytes) : Kept consumer (queues.publish kind body) server noticed where
  sound := kept.sound
  tidy := kept.tidy.publish kind body
  safe := by
    intro message among event decoded
    obtain ⟨earlier, holds⟩ | holds := Broker.Queues.holds_publish kind body among
    · exact (kept.safe message earlier event decoded).imp holds id
    · exact .inl holds
  ready := kept.ready.stays (fun _ among => among) fun _ _ _ waits => waits

/-- A message is delivered. -/
theorem deliver (kept : Kept consumer queues server noticed) (place : Nat) :
    Kept consumer (queues.deliver place) server noticed := by
  have published : (queues.deliver place).published = queues.published := by
    unfold Broker.Queues.deliver
    split
    · split <;> rfl
    · rfl
  have delivered : ∀ shipment ∈ queues.delivered, shipment ∈ (queues.deliver place).delivered := by
    intro shipment among
    unfold Broker.Queues.deliver
    split
    · split
      · exact List.mem_append_left _ among
      · exact among
    · exact among
  exact kept.onQueues (kept.tidy.deliver place) published (fun _ holds => holds.deliver place)
    (kept.ready.stays delivered fun _ _ _ waits => waits)

/-- The session ends. -/
theorem endSession (kept : Kept consumer queues server noticed)
    (ready : Ready consumer queues.endSession server laterNoticed) :
    Kept consumer queues.endSession server laterNoticed :=
  kept.onQueues kept.tidy.endSession rfl (fun _ holds => holds.endSession) ready

/-- The database does something. -/
theorem move (kept : Kept consumer queues server noticed) (move : ServerMove) :
    Kept consumer queues (server.move move) noticed :=
  kept.onServer (kept.sound.move move).1 (Database.Server.goesOn_move kept.sound move)
    (kept.ready.stays (fun _ among => among) fun _ _ _ waits => waits.move move)

/-- A settlement that lets go of a message only if its event is accounted for loses nothing. -/
theorem settle (kept : Kept consumer queues server noticed) {task : Task} {script : List Occurrence}
    (later : Scripted consumer script) (delivered : task.IsDelivered queues)
    (accounted : task.decision consumer ≠ .requeue → ∀ event,
      Event.ofBody task.delivery.kind task.delivery.body = .ok event → server.Accounts event) :
    Kept consumer (queues.settle task.delivery.tag (task.decision consumer)) server script where
  sound := kept.sound
  tidy := kept.tidy.settle _ _
  safe := by
    intro message among event decoded
    have published : message ∈ queues.published := by
      cases decided : task.decision consumer <;> rw [decided] at among <;> exact among
    obtain holds | accounts := kept.safe message published event decoded
    · obtain still | ⟨letsGo, other, unsettled, tag, rfl⟩ := holds.settle _ _
      · exact .inl still
      · obtain ⟨shipment, own, sameTag, sameKind, sameBody⟩ := delivered
        -- the message that goes away is the one that the task has received
        obtain rfl : other = shipment :=
          kept.tidy.tags other (kept.tidy.known other unsettled) shipment own
            (tag.trans sameTag.symm)
        rw [sameKind, sameBody] at decoded
        exact .inr (accounted letsGo event decoded)
    · exact .inr accounts
  ready := .between later

/-- The caller that stores the event of a delivery says one thing more. -/
theorem say (kept : Kept consumer queues server noticed) {task : Task} {event : Event}
    {utterance : Utterance} {remaining : List Utterance} {script : List Occurrence}
    {change : Call → Call} (own : ∀ call, (change call).event = call.event)
    (adds : ∀ call, (change call).said = call.said ++ [utterance])
    (stands : ∀ call isStored, server.calls[server.calls.length - 1]? = some call →
      Converses call.event (call.said ++ [utterance]) →
      Standing (server.calls.length - 1) call isStored →
      Standing (server.calls.length - 1) (change call) isStored)
    (later : Scripted consumer script) (delivered : task.IsDelivered queues)
    (decoded : Event.ofBody task.delivery.kind task.delivery.body = .ok event)
    (awaits : server.Awaits event (utterance :: remaining) (task.said event)) :
    Kept consumer queues (server.onCall (server.calls.length - 1) change)
      (remaining.map spoken ++
        .settled task.delivery.tag (task.decision consumer) :: script) := by
  have further : ∀ call, server.calls[server.calls.length - 1]? = some call →
      Converses call.event (call.said ++ [utterance]) := by
    intro call found
    obtain ⟨last, same, rfl, told⟩ := awaits
    cases found.symm.trans same
    obtain ⟨replies, begins⟩ := task.converses call.event
    refine ⟨replies, List.IsPrefix.trans ⟨remaining, ?_⟩ begins⟩
    rw [← told, List.append_assoc, List.singleton_append]
  have sound : Sound (server.onCall (server.calls.length - 1) change) := by
    refine kept.sound.onCall own ?_ ?_
    · intro call found _
      rw [adds]
      exact further call found
    · intro call isStored found _ standing
      exact stands call isStored found (further call found) standing
  have goesOn : server.GoesOn (server.onCall (server.calls.length - 1) change) := by
    apply server.goesOn_onCall
    intro call
    rw [adds]
    exact List.prefix_append _ _
  exact kept.onServer sound goesOn (.storing later delivered decoded (awaits.say own adds))

end Kept

/-! ## What a worker does -/

namespace Deployment

variable {consumer : Consumer} {deployment later : Deployment} {noticed rest : List Occurrence}

/-- The deployment keeps everything while some things are still to be noticed of its worker. -/
def Keeps (consumer : Consumer) (deployment : Deployment) (noticed : List Occurrence) : Prop :=
  Kept consumer deployment.queues deployment.server noticed

/-- What is not noticed changes nothing. -/
theorem follow?_of_unnoticed {what : Occurrence} (unnoticed : what.isNoticed = false)
    (arrives : Bool) (reused : Option Nat) :
    deployment.follow? arrives reused what = some deployment := by
  cases what with
  | requested _ | sessionClosed | received _ _ _ | storeCalled _ | executed _ | replied _
  | settled _ _ => cases unnoticed
  | _ => rfl

/-- A settlement that may not arrive loses nothing. -/
theorem Keeps.settle (keeps : Keeps consumer deployment noticed) {task : Task}
    {script : List Occurrence} (scripted : Scripted consumer script)
    (delivered : task.IsDelivered deployment.queues)
    (accounted : task.decision consumer ≠ .requeue → ∀ event,
      Event.ofBody task.delivery.kind task.delivery.body = .ok event →
        deployment.server.Accounts event)
    {arrives : Bool} {reused : Option Nat}
    (followed : deployment.follow? arrives reused
      (.settled task.delivery.tag (task.decision consumer)) = some later) :
    Keeps consumer later script := by
  cases followed
  cases arrives with
  | true => exact Kept.settle keeps scripted delivered accounted
  | false => exact Kept.onQueues keeps keeps.tidy rfl (fun _ holds => holds) (.between scripted)

/-- Between deliveries, the worker makes a request, closes its session or receives a delivery. -/
theorem Keeps.follow_between (keeps : Keeps consumer deployment noticed) {what : Occurrence}
    (script : Scripted consumer (what :: rest)) {arrives : Bool} {reused : Option Nat}
    (followed : deployment.follow? arrives reused what = some later) :
    Keeps consumer later rest := by
  generalize list : what :: rest = whole at script
  cases script with
  | nil => cases list
  | requested request script =>
    cases list
    cases request with
    | connect _ =>
      cases followed
      cases arrives with
      | true =>
        exact Kept.onQueues keeps (.beginSession _) rfl (fun _ holds => holds.beginSession)
          (.between script)
      | false => exact Kept.endSession keeps (.between script)
    | _ =>
      cases followed
      exact Kept.onQueues keeps keeps.tidy rfl (fun _ holds => holds) (.between script)
  | closed script =>
    cases list
    cases followed
    exact Kept.endSession keeps (.between script)
  | task task script =>
    cases list
    simp only [follow?] at followed
    split at followed
    · rename_i delivered
      cases followed
      exact Kept.onQueues keeps keeps.tidy rfl (fun _ holds => holds)
        (.received script (Broker.Queues.exists_of_hasDelivered delivered))
    · cases followed

/-- With a delivery that it has received, the worker calls its store or settles. -/
theorem Keeps.follow_received (keeps : Keeps consumer deployment noticed) {task : Task}
    {script : List Occurrence} (scripted : Scripted consumer script)
    (delivered : task.IsDelivered deployment.queues) {what : Occurrence}
    (remains : task.remaining consumer ++ script = what :: rest) {arrives : Bool}
    {reused : Option Nat}
    (followed : deployment.follow? arrives reused what = some later) :
    Keeps consumer later rest := by
  unfold Task.remaining Task.storing at remains
  cases decoded : Event.ofBody task.delivery.kind task.delivery.body with
  | error error =>
    rw [decoded] at remains
    cases remains
    apply keeps.settle scripted delivered ?_ followed
    intro _ event absurd
    cases decoded.symm.trans absurd
  | ok event =>
    rw [decoded] at remains
    simp only [List.cons_append, List.append_assoc, List.cons.injEq] at remains
    obtain ⟨rfl, rfl⟩ := remains
    cases followed
    exact Kept.onServer keeps (keeps.sound.begin event reused)
      (Database.Server.goesOn_begin keeps.sound event reused)
      (.storing scripted delivered decoded (.begin _ event reused _))

/-- In the call for the event of a delivery, the worker goes on with the conversation or settles. -/
theorem Keeps.follow_storing (keeps : Keeps consumer deployment noticed) {task : Task}
    {event : Event} {remaining : List Utterance} {script : List Occurrence}
    (scripted : Scripted consumer script) (delivered : task.IsDelivered deployment.queues)
    (decoded : Event.ofBody task.delivery.kind task.delivery.body = .ok event)
    (awaits : deployment.server.Awaits event remaining (task.said event)) {what : Occurrence}
    (remains : remaining.map spoken ++
      .settled task.delivery.tag (task.decision consumer) :: script = what :: rest)
    {arrives : Bool} {reused : Option Nat}
    (followed : deployment.follow? arrives reused what = some later) :
    Keeps consumer later rest := by
  cases remaining with
  | nil =>
    cases remains
    apply keeps.settle scripted delivered ?_ followed
    intro letsGo other same
    cases decoded.symm.trans same
    obtain ⟨call, found, own, told⟩ := awaits
    rw [List.append_nil] at told
    exact Task.accounts keeps.sound found own told decoded letsGo
  | cons utterance more =>
    cases remains
    cases utterance with
    | sent statement =>
      cases followed
      exact Kept.say keeps (fun _ => rfl) (fun _ => rfl)
        (fun _ _ _ further standing => standing.send further) scripted delivered decoded awaits
    | replied reply =>
      change deployment.hear? reply = some later at followed
      unfold hear? at followed
      split at followed
      · rename_i lost
        cases followed
        cases lost
        exact Kept.say keeps (fun _ => rfl) (fun _ => rfl)
          (fun _ _ _ further standing => standing.lose further) scripted delivered decoded awaits
      · split at followed
        · rename_i comes
          cases followed
          refine Kept.say keeps (fun _ => rfl) (fun _ => rfl) ?_ scripted delivered decoded awaits
          intro call isStored found further standing
          rw [lastCall?, found] at comes
          exact standing.hear comes further
        · cases followed

/-- Whatever the worker does next, nothing is lost. -/
theorem Keeps.follow {what : Occurrence} (keeps : Keeps consumer deployment (what :: rest))
    {arrives : Bool} {reused : Option Nat}
    (followed : deployment.follow? arrives reused what = some later) :
    Keeps consumer later rest := by
  have ready := keeps.ready
  generalize remains : what :: rest = whole at ready
  cases ready with
  | between script =>
    rw [← remains] at script
    exact keeps.follow_between script followed
  | received script delivered =>
    exact keeps.follow_received script delivered remains.symm followed
  | storing script delivered decoded awaits =>
    exact keeps.follow_storing script delivered decoded awaits remains.symm followed

/-- Nothing is lost when the worker does the next thing, or cannot do it. -/
theorem Keeps.work (keeps : Keeps consumer deployment deployment.worker.noticed)
    (arrives : Bool) (reused : Option Nat) :
    Keeps consumer (deployment.work arrives reused)
      (deployment.work arrives reused).worker.noticed := by
  unfold Deployment.work
  split
  · exact keeps
  · rename_i entry rest journal
    rw [journal] at keeps
    split
    · rename_i later followed
      change Keeps consumer later (Journal.noticed rest)
      cases noticed : entry.what.isNoticed with
      | false =>
        rw [follow?_of_unnoticed noticed] at followed
        cases followed
        simpa [Journal.noticed, Journal.only, noticed] using keeps
      | true =>
        have listed : Journal.noticed (entry :: rest) = entry.what :: Journal.noticed rest := by
          simp [Journal.noticed, Journal.only, noticed]
        rw [listed] at keeps
        exact keeps.follow followed
    · rw [journal]
      exact keeps

/-- Nothing is lost by anything that happens. -/
theorem Keeps.step (keeps : Keeps consumer deployment deployment.worker.noticed)
    (move : DeploymentMove) :
    Keeps consumer (deployment.step move) (deployment.step move).worker.noticed := by
  cases move with
  | publish kind body => exact Kept.publish keeps kind body
  | deliver place => exact Kept.deliver keeps place
  | lose =>
    exact Kept.endSession keeps (keeps.ready.stays (fun _ among => among) fun _ _ _ waits => waits)
  | database move => exact Kept.move keeps move
  | work arrives reused => exact keeps.work arrives reused

/-- Nothing is lost however much happens to a worker whose journal is a script. -/
theorem keeps_run {worker : Journal} (scripted : Scripted consumer worker.noticed)
    (moves : List DeploymentMove) :
    Keeps consumer (run worker moves) (run worker moves).worker.noticed := by
  suffices steps : ∀ deployment : Deployment,
      Keeps consumer deployment deployment.worker.noticed →
        Keeps consumer (moves.foldl Deployment.step deployment)
          (moves.foldl Deployment.step deployment).worker.noticed from
    steps (.start worker) ⟨.empty, .empty, nofun, .between scripted⟩
  intro deployment keeps
  induction moves generalizing deployment with
  | nil => exact keeps
  | cons move rest ih => exact ih _ (keeps.step move)

/-- No event is lost: a message from which one can be read is held by the broker, or there is a row
with exactly that event, or the database was asked to insert an audit event and refused because its
user does not exist. -/
structure LosesNothing (deployment : Deployment) : Prop where
  /-- Messages of the queue of usage events. -/
  usage : ∀ message ∈ deployment.queues.published, message.kind = .usage →
    ∀ event, UsageEvent.ofBody message.body = .ok event →
      deployment.queues.Holds message ∨
        ∃ row ∈ deployment.server.tables.usage, row.event = event
  /-- Messages of the queue of audit events. -/
  audit : ∀ message ∈ deployment.queues.published, message.kind = .audit →
    ∀ event, AuditEvent.ofBody message.body = .ok event →
      deployment.queues.Holds message ∨
        (∃ row ∈ deployment.server.tables.audit, row.event = event) ∨
        ∃ call ∈ deployment.server.calls, ∃ detail,
          [.sent (.insertAudit event), .replied (.refused .foreignKey detail)] <+: call.said

/-- Whatever a supervised worker meets, and whatever its broker and its database do in between, no
event is lost. -/
theorem run_losesNothing (consumer : Consumer) (prefetch : UInt16) (retryDelay : Nat)
    (attempts : List (Supervision.Attempt WorkerSession)) (world : World)
    (moves : List DeploymentMove) :
    (run (workerJournal consumer prefetch retryDelay attempts world) moves).LosesNothing := by
  have kept := keeps_run (scripted_workerJournal consumer prefetch retryDelay attempts world) moves
  constructor
  · intro message among own event accepted
    have decoded : Event.ofBody message.kind message.body = .ok (.usage event) := by
      rw [own, Event.ofBody_eq_ok]
      exact accepted
    obtain holds | row | absurd := kept.safe message among _ decoded
    · exact .inl holds
    · exact .inr row
    · cases absurd
  · intro message among own event accepted
    have decoded : Event.ofBody message.kind message.body = .ok (.audit event) := by
      rw [own, Event.ofBody_eq_ok]
      exact accepted
    exact kept.safe message among _ decoded

/-- A login is published, delivered, stored and acknowledged, while the worker does whatever it can
do in between. -/
def login : Deployment :=
  let body := "\x7b\"type\":\"audit_event\",\"action\":\"login\"\x7d".toUTF8.toList
  let access : Database.Access := ⟨.pool false [.done], 3, false⟩
  let wake : WorkerWake := ⟨0, .signal, .delivery ⟨.audit, 1, body⟩ access ⟨false, 0, none⟩⟩
  let consumer : Consumer := { usageQueue := "usage", auditQueue := "audit", timeLimit := 10 }
  let worker := workerJournal consumer 1 5 [⟨⟨none, [wake]⟩, .signal⟩]
    ⟨0, .running, none, fun _ => false⟩
  let works := List.replicate worker.length (.work true none)
  run worker (.publish .audit body :: works ++ .deliver 0 :: works ++
    .database (.serve 0) :: works)

/-- The broker does let go: after a login has been dealt with, its row is there and its message is
held no longer. -/
theorem login_losesNothing :
    login.LosesNothing ∧ login.queues.published.length = 1 ∧
      login.queues.queued = [] ∧ login.queues.unsettled = [] ∧
      login.server.tables.audit.map (·.event.action) = ["login"] :=
  ⟨run_losesNothing _ _ _ _ _ _, by decide +kernel⟩

end Deployment

end EventLedger
