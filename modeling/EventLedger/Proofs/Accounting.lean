import EventLedger.Proofs.DailyTotals
import EventLedger.Proofs.Script

/-!
# Where events are accounted for

An event is accounted for when the database has a row of it, or when the database has refused to
insert it because its user does not exist. It stays accounted for whatever the database and its
callers do. A task lets go of its delivery only for an event that is accounted for: the event is
acknowledged after every statement was done, and thrown away after the only statement of an audit
event was refused.
-/
namespace EventLedger.Database

/-- The tables have a row of an event. -/
def Tables.HasRow (tables : Tables) : Event → Prop
  | .usage event => ∃ row ∈ tables.usage, row.event = event
  | .audit event => ∃ row ∈ tables.audit, row.event = event

/-- What is said when an audit event is refused because its user does not exist. -/
def refusal (event : AuditEvent) (detail : String) : List Utterance :=
  [.sent (.insertAudit event), .replied (.refused .foreignKey detail)]

namespace Tables

variable {tables later : Tables} {place : Nat} {event : Event}

/-- An event that a call has written has a row. -/
theorem hasRow_of_writes (written : event ∈ tables.writes place) : tables.HasRow event := by
  rcases List.mem_append.mp written with usage | audit
  · obtain ⟨row, own, rfl⟩ := List.mem_map.mp usage
    exact ⟨row, (List.mem_filter.mp own).1, rfl⟩
  · obtain ⟨row, own, rfl⟩ := List.mem_map.mp audit
    exact ⟨row, (List.mem_filter.mp own).1, rfl⟩

/-- Storing another event keeps the rows. -/
theorem HasRow.storing {day : Day} {other : Event} (row : tables.HasRow event)
    (stored : tables.changeAll? (storing place day other) = some later) : later.HasRow event := by
  have usage : ∀ row ∈ tables.usage, row ∈ later.usage := by
    intro row among
    cases other with
    | usage other =>
      obtain ⟨totals, _, rfl⟩ := eq_of_storing_usage stored
      exact List.mem_append_left _ among
    | audit other =>
      obtain rfl := eq_of_storing_audit stored
      exact among
  have audit : ∀ row ∈ tables.audit, row ∈ later.audit := by
    intro row among
    cases other with
    | usage other =>
      obtain ⟨totals, _, rfl⟩ := eq_of_storing_usage stored
      exact among
    | audit other =>
      obtain rfl := eq_of_storing_audit stored
      exact List.mem_append_left _ among
  cases event with
  | usage event =>
    obtain ⟨row, among, same⟩ := row
    exact ⟨row, usage row among, same⟩
  | audit event =>
    obtain ⟨row, among, same⟩ := row
    exact ⟨row, audit row among, same⟩

end Tables

namespace Server

variable {server later : Server} {place : Nat} {call : Call} {event : Event}

/-- The database has refused to insert an event because its user does not exist. -/
def HasRefused (server : Server) : Event → Prop
  | .usage _ => False
  | .audit event => ∃ call ∈ server.calls, ∃ detail, refusal event detail <+: call.said

/-- An event has a row or has been refused. -/
def Accounts (server : Server) (event : Event) : Prop :=
  server.tables.HasRow event ∨ server.HasRefused event

/-- A server goes on to a later one: every row is kept, and what has been said stays said. -/
structure GoesOn (server later : Server) : Prop where
  /-- The rows are kept. -/
  rows : ∀ event, server.tables.HasRow event → later.tables.HasRow event
  /-- What a call has said is the beginning of what it says. -/
  calls : ∀ (place : Nat) (call : Call), server.calls[place]? = some call →
    ∃ further, later.calls[place]? = some further ∧ call.said <+: further.said

/-- What is accounted for stays so. -/
theorem Accounts.goesOn (accounts : server.Accounts event) (goesOn : server.GoesOn later) :
    later.Accounts event := by
  obtain row | refused := accounts
  · exact .inl (goesOn.rows event row)
  · right
    cases event with
    | usage event => exact refused
    | audit event =>
      obtain ⟨call, among, detail, begins⟩ := refused
      obtain ⟨place, found⟩ := List.mem_iff_getElem?.mp among
      obtain ⟨further, kept, said⟩ := goesOn.calls place call found
      exact ⟨further, List.mem_of_getElem? kept, detail, begins.trans said⟩

/-- A call that is found is changed or not. -/
theorem found_onCall (found : server.calls[place]? = some call) (other : Nat)
    (change : Call → Call) :
    (server.onCall other change).calls[place]? =
      some (if other = place then change call else call) := by
  rw [onCall, List.getElem?_modify, found]
  split <;> rfl

/-- A change that takes nothing back lets a server go on. -/
theorem goesOn_onCall (server : Server) (place : Nat) {change : Call → Call}
    (adds : ∀ call : Call, call.said <+: (change call).said) :
    server.GoesOn (server.onCall place change) where
  rows := fun _ row => row
  calls := by
    intro other call found
    refine ⟨_, found_onCall found place change, ?_⟩
    split
    · exact adds call
    · exact List.prefix_rfl

/-- A new call on a new connection lets a server go on. -/
theorem goesOn_beginWith (server : Server) (event : Event) :
    server.GoesOn (server.beginWith event .fresh) where
  rows := fun _ row => row
  calls := by
    intro place call found
    have within := (List.getElem?_eq_some_iff.mp found).1
    refine ⟨call, ?_, List.prefix_rfl⟩
    rw [beginWith, List.getElem?_append_left within, found]

/-- Whatever the server does, it changes the connection of one call at most. -/
theorem calls_move (server : Server) (move : ServerMove) :
    (server.move move).calls = server.calls ∨
      ∃ place change, (server.move move).calls = (server.onConnection place change).calls := by
  unfold Server.move
  split
  · exact .inl rfl
  · rename_i place
    split
    · split
      · rename_i transaction _
        exact .inr ⟨place, (·.done transaction), rfl⟩
      · exact .inr ⟨_, _, rfl⟩
    · exact .inl rfl
  · split
    · exact .inr ⟨_, _, rfl⟩
    · exact .inl rfl
  · exact .inr ⟨_, _, rfl⟩

/-- Whatever the server does, a call goes on with its event and with what it has said. -/
theorem found_move (found : server.calls[place]? = some call) (move : ServerMove) :
    ∃ connection, (server.move move).calls[place]? = some { call with connection } := by
  obtain same | ⟨other, change, same⟩ := server.calls_move move
  · exact ⟨call.connection, by rw [same, found]⟩
  · rw [same, onConnection, found_onCall found]
    split
    · exact ⟨_, rfl⟩
    · exact ⟨call.connection, rfl⟩

/-- The server makes no calls. -/
theorem length_move (server : Server) (move : ServerMove) :
    (server.move move).calls.length = server.calls.length := by
  obtain same | ⟨other, change, same⟩ := server.calls_move move
  · rw [same]
  · rw [same, onConnection, onCall, List.length_modify]

/-- A sound server goes on whatever it does. -/
theorem goesOn_move (sound : Sound server) (move : ServerMove) :
    server.GoesOn (server.move move) where
  rows := by
    intro event row
    have effect := (sound.move move).2
    generalize (server.move move).tables = tables at effect
    cases effect with
    | nothing => exact row
    | stored _ _ made => exact row.storing made
  calls := by
    intro place call found
    obtain ⟨connection, kept⟩ := found_move found move
    exact ⟨_, kept, List.prefix_rfl⟩

/-- A server that goes on and goes on again goes on. -/
theorem GoesOn.trans {middle : Server} (first : server.GoesOn middle)
    (second : middle.GoesOn later) : server.GoesOn later where
  rows := fun event row => second.rows event (first.rows event row)
  calls := by
    intro place call found
    obtain ⟨between, kept, said⟩ := first.calls place call found
    obtain ⟨further, also, more⟩ := second.calls place between kept
    exact ⟨further, also, said.trans more⟩

/-- A new call lets a server go on, whatever connection it gets. -/
theorem goesOn_begin (sound : Sound server) (event : Event) (reused : Option Nat) :
    server.GoesOn (server.begin event reused) := by
  obtain same | ⟨place, same⟩ := server.begin_cases event reused <;> rw [same]
  · exact goesOn_beginWith server event
  · exact (goesOn_move sound (.abort place)).trans (goesOn_beginWith _ event)

/-- A call that has heard that every statement is done has its row. -/
theorem accounts_of_heard (sound : Sound server) (found : server.calls[place]? = some call)
    (heard : (statementsFor call.event).length ≤
      (call.said.filterMap Utterance.reply?).count .done) : server.Accounts call.event := by
  obtain ⟨isStored, standing, writes⟩ := sound.stands found
  rw [standing.isStored_of_heard heard] at writes
  have written : call.event ∈ server.tables.writes place := by simp [writes]
  exact .inl (Tables.hasRow_of_writes written)

end Server

namespace Meeting

/-- How it ends when a store meets something. -/
def ending (meeting : Meeting) (event : Event) : Ending :=
  match meeting with
  | .pool true _ => .failed .poolClosed
  | .pool false replies => (storeEvent scripted replies event).last.ending
  | .failed error _ => .failed error
  | .waiting => .unanswered

/-- A store responds by how it ends. -/
theorem response_eq (meeting : Meeting) (event : Event) :
    ∃ said, meeting.response event = Pool.answerTo event said (meeting.ending event) := by
  cases meeting with
  | pool isClosed replies => cases isClosed <;> exact ⟨_, rfl⟩
  | failed error early => exact ⟨_, rfl⟩
  | waiting => exact ⟨_, rfl⟩

/-- It ends well only if the database was talked to. -/
theorem eq_pool_of_done {meeting : Meeting} {event : Event} (ends : meeting.ending event = .done) :
    ∃ replies, meeting = .pool false replies ∧
      (storeEvent scripted replies event).last = .done := by
  cases meeting with
  | pool isClosed replies =>
    cases isClosed with
    | true => cases ends
    | false =>
      refine ⟨replies, rfl, ?_⟩
      simp only [ending] at ends
      cases last : (storeEvent scripted replies event).last with
      | done => rfl
      | refused _ _ | lost | silent => simp [last, Reply.ending] at ends
  | failed error early => cases ends
  | waiting => cases ends

/-- It ends with a refusal for the event's user only if the database was talked to. -/
theorem eq_pool_of_refused {meeting : Meeting} {event : Event} {detail : String}
    (ends : meeting.ending event = .failed (.refused .foreignKey detail)) :
    ∃ replies, meeting = .pool false replies ∧
      (storeEvent scripted replies event).last = .refused .foreignKey detail := by
  cases meeting with
  | pool isClosed replies =>
    cases isClosed with
    | true => cases ends
    | false =>
      refine ⟨replies, rfl, ?_⟩
      simp only [ending] at ends
      cases last : (storeEvent scripted replies event).last with
      | refused violation text =>
        simp only [last, Reply.ending, Ending.failed.injEq, DatabaseError.refused.injEq] at ends
        rw [ends.1, ends.2]
      | done | lost | silent => simp [last, Reply.ending] at ends
  | failed error early =>
    cases ends
    exact absurd rfl (early detail)
  | waiting => cases ends

end Meeting

/-- An answer in time is a success or a failure, and tells how it ended. -/
theorem Access.ending_of_answersWithin {access : Access} {event : Event} {timeLimit : Nat}
    {answer : Except StoreError Unit}
    (answers : (access.response event).AnswersWithin timeLimit answer) :
    (access.meeting.ending event = .done ∧ answer = .ok ()) ∨
      ∃ error, access.meeting.ending event = .failed error ∧
        answer = .error (.ofFailure event.kind error) := by
  obtain ⟨said, responds⟩ := access.meeting.response_eq event
  obtain ⟨delay, due, _, given⟩ := answers
  simp only [Access.response, responds] at due given
  cases ends : access.meeting.ending event with
  | done =>
    rw [ends] at given
    exact .inl ⟨rfl, given.symm⟩
  | failed error =>
    rw [ends] at given
    exact .inr ⟨error, rfl, given.symm⟩
  | unanswered =>
    rw [ends] at due
    cases due

/-- When the only statement of an audit event is refused, nothing else is said. -/
theorem said_of_refused {replies : List Reply} {event : AuditEvent} {detail : String}
    (ends : (storeEvent scripted replies (.audit event)).last = .refused .foreignKey detail) :
    (storeEvent scripted replies (.audit event)).said = refusal event detail := by
  rcases replies with _ | ⟨reply, more⟩
  · cases ends
  · cases reply with
    | refused violation text =>
      obtain ⟨rfl, rfl⟩ : violation = .foreignKey ∧ text = detail := by
        simpa [storeEvent, statementsFor, converse, scripted] using ends
      rfl
    | done | lost | silent => cases ends

end EventLedger.Database

namespace EventLedger

open Consumer (Handling)
open Database (Access Call Meeting Server refusal rounds statementsFor)

/-- A failure rejects an event only if the database refused an audit event for its user. -/
theorem StoreError.refused_of_rejected {kind : EventKind} {error cause : DatabaseError}
    (rejected : StoreError.ofFailure kind error = .rejected cause) :
    kind = .audit ∧ ∃ detail, error = .refused .foreignKey detail := by
  have usage : ∀ error, StoreError.ofUsageFailure error ≠ .rejected cause := by
    rintro (_ | _ | _ | _ | _ | _ | _ | _ | _ | _) <;> exact nofun
  cases kind with
  | usage => exact absurd rejected (usage error)
  | audit =>
    refine ⟨rfl, ?_⟩
    simp only [ofFailure] at rejected
    unfold ofAuditFailure at rejected
    split at rejected
    · exact ⟨_, rfl⟩
    · exact absurd rejected (usage error)

namespace Task

variable {consumer : Consumer} {task : Task} {event : Event}

/-- The decision is that of the response of the task's store. -/
theorem decision_eq (decoded : Event.ofBody task.delivery.kind task.delivery.body = .ok event) :
    task.decision consumer =
      ((task.access.response event).outcomeWithin consumer.timeLimit).decision := by
  simp only [decision, Handling.outcome, handling, decoded]

/-- A delivery that is acknowledged has been stored by rounds, one for each statement. -/
theorem said_of_acknowledge
    (decoded : Event.ofBody task.delivery.kind task.delivery.body = .ok event)
    (decided : task.decision consumer = .acknowledge) :
    task.said event = rounds (statementsFor event) := by
  rw [decision_eq decoded, Consumer.StoreResponse.decision_eq_acknowledge] at decided
  obtain ⟨ends, _⟩ | ⟨error, _, absurd⟩ := Access.ending_of_answersWithin decided
  · obtain ⟨replies, met, last⟩ := Meeting.eq_pool_of_done ends
    rw [said, met]
    exact Database.said_of_done last
  · cases absurd

/-- A delivery that is thrown away though its body is an event holds an audit event that was
refused for its user. -/
theorem said_of_drop
    (decoded : Event.ofBody task.delivery.kind task.delivery.body = .ok event)
    (decided : task.decision consumer = .drop) :
    ∃ audit detail, event = .audit audit ∧ task.said event = refusal audit detail := by
  rw [decision_eq decoded, Consumer.StoreResponse.decision_eq_drop] at decided
  obtain ⟨cause, answers⟩ := decided
  obtain ⟨_, absurd⟩ | ⟨error, ends, rejected⟩ := Access.ending_of_answersWithin answers
  · cases absurd
  · obtain ⟨kind, detail, rfl⟩ := StoreError.refused_of_rejected (Except.error.inj rejected).symm
    cases event with
    | usage event => cases kind
    | audit event =>
      obtain ⟨replies, met, last⟩ := Meeting.eq_pool_of_refused ends
      refine ⟨event, detail, rfl, ?_⟩
      rw [said, met]
      exact Database.said_of_refused last

/-- A task that lets go of its delivery, after all has been said, leaves its event accounted for. -/
theorem accounts {server : Server} {place : Nat} {call : Call} (sound : Database.Sound server)
    (found : server.calls[place]? = some call) (own : call.event = event)
    (told : call.said = task.said event)
    (decoded : Event.ofBody task.delivery.kind task.delivery.body = .ok event)
    (letsGo : task.decision consumer ≠ .requeue) : server.Accounts event := by
  cases decided : task.decision consumer with
  | acknowledge =>
    rw [said_of_acknowledge decoded decided] at told
    rw [← own] at told ⊢
    have heard : (call.said.filterMap Database.Utterance.reply?).count .done =
        (statementsFor call.event).length := by
      rw [told, Database.replies_rounds, List.count_replicate_self]
    exact Server.accounts_of_heard sound found (Nat.le_of_eq heard.symm)
  | drop =>
    obtain ⟨audit, detail, rfl, refused⟩ := said_of_drop decoded decided
    have heard : refusal audit detail ++ [] = call.said := by
      rw [told, refused, List.append_nil]
    exact .inr ⟨call, List.mem_of_getElem? found, detail, [], heard⟩
  | requeue => exact absurd decided letsGo

end Task

end EventLedger
