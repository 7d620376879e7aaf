import EventLedger.Proofs.Conversation

/-!
# Where calls stand

A call stands at a place of its plan: some statements are done, and of the others the first may
have been sent, be done already, or have failed. The transaction on the server is a function of
that place, so that only the last statement of a plan can change the tables, by all changes of the
event at once. Whatever a caller or the server does, a call goes on to such a place. It begins with
no transaction: the pool rolls back what a call has left open before it hands out its connection
again, `Connection.release_eq_fresh`.
-/
namespace EventLedger.Database

/-! ## Connections that are handed out -/

/-- A connection that the pool hands out again is as good as a new one: the server still has it,
nothing that was asked is left, and no transaction is open. -/
theorem Connection.release_eq_fresh {connection : Connection} (ready : connection.isReady = true) :
    connection.release = .fresh := by
  obtain ⟨isOpen, unasked⟩ := Bool.and_eq_true_iff.mp ready
  have quiet : connection.asked = none := Option.isNone_iff_eq_none.mp unasked
  rw [release, isOpen, quiet, fresh]

namespace Server

variable (server : Server)

/-- So is every connection that has been given back. -/
theorem eq_fresh_of_released? {place : Nat} {connection : Connection}
    (released : server.released? place = some connection) : connection = .fresh := by
  unfold released? at released
  split at released
  next call _ =>
    split at released
    next givenBack =>
      cases released
      exact Connection.release_eq_fresh (Bool.and_eq_true_iff.mp givenBack).2
    · cases released
  · cases released

/-- A call that gets the connection of an earlier one begins as one that gets a new connection,
after the earlier one has lost its own. -/
theorem begin_cases (event : Event) (reused : Option Nat) :
    server.begin event reused = server.beginWith event .fresh ∨
      ∃ place, server.begin event reused = (server.move (.abort place)).beginWith event .fresh := by
  unfold begin
  cases reused with
  | none => exact .inl rfl
  | some place =>
    cases released : server.released? place with
    | none => exact .inl (by simp only [released])
    | some connection =>
      have same := server.eq_fresh_of_released? released
      exact .inr ⟨place, by simp only [released, same]; rfl⟩

/-- A call that begins leaves the tables as they are. -/
theorem tables_begin (event : Event) (reused : Option Nat) :
    (server.begin event reused).tables = server.tables := by
  obtain same | ⟨place, same⟩ := server.begin_cases event reused <;> rw [same] <;> rfl

end Server

/-! ## Plans -/

/-- The changes by which a call stores an event on a day. -/
def storing (place : Nat) (day : Day) : Event → List Change
  | .usage event => [.usageRow { call := place, event, day }, .addition day event]
  | .audit event => [.auditRow { call := place, event }]

/-- How the plan of an event is divided into what is done and what is not, and the transaction that
has begun in between. -/
inductive Position (place : Nat) :
    Event → (before rest : List Statement) → Option Transaction → Prop where
  /-- Nothing is done for a usage event. -/
  | usageStart (event : UsageEvent) :
      Position place (.usage event) []
        [.begin, .insertUsage event, .addToDay event, .commit] none
  /-- A transaction has begun. -/
  | begun (event : UsageEvent) (day : Day) :
      Position place (.usage event) [.begin] [.insertUsage event, .addToDay event, .commit]
        (some { day, changes := [], isBroken := false })
  /-- The row of a usage event is part of the transaction. -/
  | inserted (event : UsageEvent) (day : Day) :
      Position place (.usage event) [.begin, .insertUsage event] [.addToDay event, .commit]
        (some { day, changes := [.usageRow { call := place, event, day }], isBroken := false })
  /-- All changes are part of the transaction. -/
  | added (event : UsageEvent) (day : Day) :
      Position place (.usage event) [.begin, .insertUsage event, .addToDay event] [.commit]
        (some { day, changes := storing place day (.usage event), isBroken := false })
  /-- Everything is done for a usage event. -/
  | usageStored (event : UsageEvent) :
      Position place (.usage event) [.begin, .insertUsage event, .addToDay event, .commit] [] none
  /-- Nothing is done for an audit event. -/
  | auditStart (event : AuditEvent) :
      Position place (.audit event) [] [.insertAudit event] none
  /-- Everything is done for an audit event. -/
  | auditStored (event : AuditEvent) :
      Position place (.audit event) [.insertAudit event] [] none

/-- A part of a transaction is added to it, and the tables stay as they are. -/
theorem execute?_part {tables later : Tables} {today : Day} {place : Nat} {begun : Transaction}
    {statement : Statement} {after : Option Transaction}
    (part : statement.kind = .insertUsage ∨ statement.kind = .addToDay)
    (whole : begun.isBroken = false)
    (executed : tables.execute? today place (some begun) statement = some (later, after)) :
    later = tables ∧
      after = some { begun with
        changes := begun.changes ++ statement.changes place begun.day } := by
  cases statement with
  | insertUsage _ | addToDay _ =>
    simp only [Tables.execute?, whole, Bool.false_eq_true, ↓reduceIte] at executed
    split at executed
    · cases executed
      exact ⟨rfl, by rw [whole]⟩
    · cases executed
  | begin | commit | rollback | ping | insertAudit _ => obtain ⟨⟨⟩⟩ | ⟨⟨⟩⟩ := part

namespace Position

variable {place : Nat} {event : Event} {before rest : List Statement} {statement : Statement}
  {transaction : Option Transaction}

/-- What is done and what is not make up the plan. -/
theorem plan (position : Position place event before rest transaction) :
    statementsFor event = before ++ rest := by
  cases position <;> rfl

/-- Every plan begins with nothing done. -/
theorem start (place : Nat) (event : Event) :
    Position place event [] (statementsFor event) none := by
  cases event with
  | usage event => exact .usageStart event
  | audit event => exact .auditStart event

/-- What a statement of a plan does: the last one changes the tables by all changes of the event,
and the others leave them as they are. -/
theorem execute {tables later : Tables} {today : Day} {after : Option Transaction}
    (position : Position place event before (statement :: rest) transaction)
    (executed : tables.execute? today place transaction statement = some (later, after)) :
    Position place event (before ++ [statement]) rest after ∧
      if rest = [] then ∃ day, tables.changeAll? (storing place day event) = some later
      else later = tables := by
  cases position with
  | usageStart event =>
    simp only [Tables.execute?, Option.some.injEq, Prod.mk.injEq] at executed
    obtain ⟨rfl, rfl⟩ := executed
    exact ⟨.begun event today, by rw [if_neg (List.cons_ne_nil _ _)]⟩
  | begun event day =>
    obtain ⟨rfl, rfl⟩ := execute?_part (.inl rfl) rfl executed
    exact ⟨.inserted event day, by rw [if_neg (List.cons_ne_nil _ _)]⟩
  | inserted event day =>
    obtain ⟨rfl, rfl⟩ := execute?_part (.inr rfl) rfl executed
    exact ⟨.added event day, by rw [if_neg (List.cons_ne_nil _ _)]⟩
  | added event day =>
    simp only [Tables.execute?, Bool.false_eq_true, ↓reduceIte] at executed
    split at executed
    · rename_i changed made
      cases executed
      exact ⟨.usageStored event, (if_pos rfl).mpr ⟨day, made⟩⟩
    · cases executed
  | auditStart event =>
    simp only [Tables.execute?] at executed
    split at executed
    · rename_i changed made
      cases executed
      exact ⟨.auditStored event, (if_pos rfl).mpr ⟨today, made⟩⟩
    · cases executed

end Position

/-- What has been said after a statement whose reply is not heard, or is the loss of the
connection. -/
inductive Unheard : List Utterance → Prop where
  /-- Nothing has come back. -/
  | waiting : Unheard []
  /-- The connection is lost. -/
  | lost : Unheard [.replied .lost]

/-- What has been said after a statement that failed, and the reply that may be on its way. -/
inductive Failing : List Utterance → Option Reply → Prop where
  /-- The refusal is on its way. -/
  | refusing (violation : Violation) (detail : String) :
      Failing [] (some (.refused violation detail))
  /-- The connection is lost. -/
  | lost (reply : Option Reply) : Failing [.replied .lost] reply
  /-- The refusal has been heard. -/
  | refused (violation : Violation) (detail : String) (reply : Option Reply) :
      Failing [.replied (.refused violation detail)] reply
  /-- What was begun is being undone. -/
  | undone (violation : Violation) (detail : String) (reply : Option Reply) :
      Failing [.replied (.refused violation detail), .sent .rollback] reply

/-- Where a call stands, and whether its event is stored. -/
inductive Standing (place : Nat) (call : Call) : (isStored : Bool) → Prop where
  /-- Some statements are done, and the caller knows it. -/
  | idle {before rest : List Statement} {transaction : Option Transaction}
      (position : Position place call.event before rest transaction)
      (said : call.said = rounds before)
      (asked : call.connection.asked = none) (reply : call.connection.reply = none)
      (held : call.connection.isOpen = true → call.connection.transaction = transaction) :
      Standing place call rest.isEmpty
  /-- The next statement has been sent, and the server has not taken it up. -/
  | asked {before rest : List Statement} {statement : Statement}
      {transaction : Option Transaction} {tail : List Utterance}
      (position : Position place call.event before (statement :: rest) transaction)
      (said : call.said = rounds before ++ .sent statement :: tail) (unheard : Unheard tail)
      (asked : call.connection.asked = some statement) (reply : call.connection.reply = none)
      (held : call.connection.isOpen = true → call.connection.transaction = transaction) :
      Standing place call false
  /-- The next statement is done, and the caller does not know it. -/
  | served {before rest : List Statement} {statement : Statement}
      {transaction : Option Transaction} {tail : List Utterance}
      (position : Position place call.event (before ++ [statement]) rest transaction)
      (said : call.said = rounds before ++ .sent statement :: tail) (unheard : Unheard tail)
      (asked : call.connection.asked = none) (reply : call.connection.reply = some .done)
      (held : call.connection.isOpen = true → call.connection.transaction = transaction) :
      Standing place call rest.isEmpty
  /-- The next statement has failed, and nothing will be changed any more. -/
  | failed {before rest : List Statement} {statement : Statement} {tail : List Utterance}
      {onItsWay : Option Reply} (plan : statementsFor call.event = before ++ statement :: rest)
      (said : call.said = rounds before ++ .sent statement :: tail)
      (failing : Failing tail onItsWay) (reply : call.connection.reply = onItsWay)
      (asked : ∀ other, call.connection.asked = some other → other = .rollback ∧ tail ≠ [])
      (broken : ∀ begun, call.connection.transaction = some begun → begun.isBroken = true) :
      Standing place call false

/-- A caller who has not heard the reply hears it next. -/
theorem Converses.next_of_unheard {event : Event} {before rest : List Statement}
    {statement : Statement} {tail : List Utterance} {utterance : Utterance}
    (plan : statementsFor event = before ++ statement :: rest) (unheard : Unheard tail)
    (converses : Converses event (rounds before ++ .sent statement :: tail ++ [utterance])) :
    tail = [] ∧ ∃ reply, utterance = .replied reply := by
  rw [List.append_assoc, List.cons_append] at converses
  cases unheard with
  | waiting => exact ⟨rfl, converses.replied_of_sent plan⟩
  | lost => cases converses.nil_of_lost plan

/-- A caller whose statement failed hears of it next, or undoes what was begun. -/
theorem Converses.next_of_failing {event : Event} {before rest : List Statement}
    {statement : Statement} {tail : List Utterance} {reply : Option Reply}
    {utterance : Utterance} (plan : statementsFor event = before ++ statement :: rest)
    (failing : Failing tail reply)
    (converses : Converses event (rounds before ++ .sent statement :: tail ++ [utterance])) :
    (tail = [] ∧ ∃ reply, utterance = .replied reply) ∨
      (utterance = .sent .rollback ∧
        ∃ violation detail, tail = [.replied (.refused violation detail)]) := by
  rw [List.append_assoc, List.cons_append] at converses
  cases failing with
  | refusing violation detail => exact .inl ⟨rfl, converses.replied_of_sent plan⟩
  | lost _ => cases converses.nil_of_lost plan
  | refused violation detail _ =>
    have undoes := converses.rollback_of_refused plan
    exact .inr ⟨by simpa using undoes, violation, detail, rfl⟩
  | undone violation detail _ =>
    have undoes := converses.rollback_of_refused plan
    simp at undoes

/-- What was said with one thing more. -/
theorem rounds_append_sent (before : List Statement) (statement : Statement)
    (tail : List Utterance) (utterance : Utterance) :
    rounds before ++ .sent statement :: tail ++ [utterance] =
      rounds before ++ .sent statement :: (tail ++ [utterance]) := by
  rw [List.append_assoc, List.cons_append]

namespace Position

/-- What is to be done after one more statement. -/
theorem plan_concat {place : Nat} {event : Event} {before rest : List Statement}
    {statement : Statement} {transaction : Option Transaction}
    (position : Position place event (before ++ [statement]) rest transaction) :
    statementsFor event = before ++ statement :: rest := by
  rw [position.plan, List.append_assoc, List.singleton_append]

end Position

namespace Standing

variable {place : Nat} {call : Call} {isStored : Bool}

/-- A call begins with nothing done, on a connection in which nothing is going on. -/
theorem fresh (place : Nat) (event : Event) : Standing place (.fresh event .fresh) false := by
  have position := Position.start place event
  have unfinished : (statementsFor event).isEmpty = false := by cases event <;> rfl
  rw [← unfinished]
  exact .idle position rfl rfl rfl fun _ => rfl

/-- A statement that may come next in the conversation is sent. -/
theorem send (standing : Standing place call isStored) {statement : Statement}
    (converses : Converses call.event (call.said ++ [.sent statement])) :
    Standing place (call.send statement) isStored := by
  cases standing with
  | idle position said asked reply held =>
    rw [said] at converses
    obtain ⟨next, others, rfl, same⟩ := converses.sent_of_rounds position.plan
    cases same
    exact .asked position (by rw [← said]; rfl) .waiting rfl reply held
  | asked position said unheard asked reply held =>
    rw [said] at converses
    obtain ⟨_, _, same⟩ := converses.next_of_unheard position.plan unheard
    cases same
  | served position said unheard asked reply held =>
    rw [said] at converses
    obtain ⟨_, _, same⟩ := converses.next_of_unheard position.plan_concat unheard
    cases same
  | failed plan said failing reply asked broken =>
    rw [said] at converses
    obtain ⟨_, _, same⟩ | ⟨same, violation, detail, rfl⟩ :=
      converses.next_of_failing plan failing
    · cases same
    · cases same
      refine .failed plan ?_ (.undone violation detail _) rfl ?_ broken
      · change call.said ++ [.sent .rollback] = _
        rw [said, rounds_append_sent]
        rfl
      · intro other sent
        exact ⟨(Option.some.inj sent).symm, nofun⟩

/-- The reply on its way, which may come next in the conversation, is heard. -/
theorem hear (standing : Standing place call isStored) {reply : Reply}
    (comes : call.connection.reply = some reply)
    (converses : Converses call.event (call.said ++ [.replied reply])) :
    Standing place (call.hear reply) isStored := by
  cases standing with
  | idle position said asked silent held =>
    rw [silent] at comes
    cases comes
  | asked position said unheard asked silent held =>
    rw [silent] at comes
    cases comes
  | served position said unheard asked answered held =>
    rw [said] at converses
    obtain ⟨rfl, _⟩ := converses.next_of_unheard position.plan_concat unheard
    rw [answered] at comes
    cases comes
    refine .idle position ?_ asked rfl held
    change call.said ++ [.replied .done] = _
    rw [said, rounds_append_sent, rounds_concat]
    rfl
  | failed plan said failing answered asked broken =>
    rw [said] at converses
    obtain ⟨rfl, _⟩ | ⟨same, _⟩ := converses.next_of_failing plan failing
    · rw [answered] at comes
      cases failing with
      | refusing violation detail =>
        cases comes
        refine .failed plan ?_ (.refused violation detail _) rfl ?_ broken
        · change call.said ++ [.replied (.refused violation detail)] = _
          rw [said, rounds_append_sent]
          rfl
        · intro other sent
          exact ⟨(asked other sent).1, nofun⟩
    · cases same

/-- The loss of the connection, which may come next in the conversation, is heard. -/
theorem lose (standing : Standing place call isStored)
    (converses : Converses call.event (call.said ++ [.replied .lost])) :
    Standing place call.lose isStored := by
  have spoken : call.lose.said = call.said ++ [.replied .lost] := rfl
  cases standing with
  | idle position said asked silent held =>
    rw [said] at converses
    obtain ⟨_, _, _, same⟩ := converses.sent_of_rounds position.plan
    cases same
  | asked position said unheard asked silent held =>
    rw [said] at converses
    obtain ⟨rfl, _⟩ := converses.next_of_unheard position.plan unheard
    rw [said, rounds_append_sent] at spoken
    exact .asked position spoken .lost asked silent held
  | served position said unheard asked answered held =>
    rw [said] at converses
    obtain ⟨rfl, _⟩ := converses.next_of_unheard position.plan_concat unheard
    rw [said, rounds_append_sent] at spoken
    exact .served position spoken .lost asked answered held
  | failed plan said failing answered asked broken =>
    rw [said] at converses
    obtain ⟨rfl, _⟩ | ⟨same, _⟩ := converses.next_of_failing plan failing
    · rw [said, rounds_append_sent] at spoken
      refine .failed plan spoken (.lost _) rfl ?_ broken
      intro other sent
      exact ⟨(asked other sent).1, nofun⟩
    · cases same

/-- The caller gives up. -/
theorem giveUp (standing : Standing place call isStored) :
    Standing place { call with hasGivenUp := true } isStored := by
  cases standing with
  | idle position said asked silent held => exact .idle position said asked silent held
  | asked position said unheard asked silent held =>
    exact .asked position said unheard asked silent held
  | served position said unheard asked answered held =>
    exact .served position said unheard asked answered held
  | failed plan said failing answered asked broken =>
    exact .failed plan said failing answered asked broken

/-- The server loses the connection. -/
theorem abort (standing : Standing place call isStored) :
    Standing place { call with connection := call.connection.abort } isStored := by
  cases standing with
  | idle position said asked silent held => exact .idle position said asked silent nofun
  | asked position said unheard asked silent held =>
    exact .asked position said unheard asked silent nofun
  | served position said unheard asked answered held =>
    exact .served position said unheard asked answered nofun
  | failed plan said failing answered asked broken =>
    exact .failed plan said failing answered asked nofun

/-- After a refusal, nothing is left that could be committed. -/
theorem broken_of_refuse (connection : Connection) (statement : Statement)
    (violation : Violation) (detail : String) (begun : Transaction)
    (left : (connection.refuse statement violation detail).transaction = some begun) :
    begun.isBroken = true := by
  cases statement with
  | commit => cases left
  | begin | rollback | ping | insertUsage _ | addToDay _ | insertAudit _ =>
    obtain ⟨earlier, _, rfl⟩ := Option.map_eq_some_iff.mp left
    rfl

/-- The server refuses the statement that has been sent. -/
theorem refuse (standing : Standing place call isStored) {statement : Statement}
    (arrived : call.connection.asked = some statement) (violation : Violation)
    (detail : String) :
    Standing place
      { call with connection := call.connection.refuse statement violation detail } isStored := by
  have broken := broken_of_refuse call.connection statement violation detail
  cases standing with
  | idle position said asked silent held =>
    rw [asked] at arrived
    cases arrived
  | asked position said unheard asked silent held =>
    cases unheard with
    | waiting =>
      exact .failed position.plan said (.refusing violation detail) rfl nofun broken
    | lost => exact .failed position.plan said (.lost _) rfl nofun broken
  | served position said unheard asked answered held =>
    rw [asked] at arrived
    cases arrived
  | failed plan said failing answered asked _ =>
    have spoken := (asked statement arrived).2
    cases failing with
    | refusing _ _ => exact absurd rfl spoken
    | lost _ => exact .failed plan said (.lost _) rfl nofun broken
    | refused earlier text _ => exact .failed plan said (.refused earlier text _) rfl nofun broken
    | undone earlier text _ => exact .failed plan said (.undone earlier text _) rfl nofun broken

/-- The server does the statement that has been sent. With the last statement of a plan, all
changes of the event are made, and with no other one anything is changed. -/
theorem serve (standing : Standing place call isStored) {statement : Statement}
    {tables later : Tables} {today : Day} {after : Option Transaction}
    (isOpen : call.connection.isOpen = true)
    (arrived : call.connection.asked = some statement)
    (executed : tables.execute? today place call.connection.transaction statement =
      some (later, after)) :
    ∃ nowStored, Standing place { call with connection := call.connection.done after } nowStored ∧
      (nowStored = isStored ∧ later = tables ∨
        isStored = false ∧ nowStored = true ∧
          ∃ day, tables.changeAll? (storing place day call.event) = some later) := by
  cases standing with
  | idle position said asked silent held =>
    rw [asked] at arrived
    cases arrived
  | @asked before rest next transaction tail position said unheard asked silent held =>
    rw [asked] at arrived
    cases arrived
    rw [held isOpen] at executed
    obtain ⟨moved, changed⟩ := position.execute executed
    refine ⟨rest.isEmpty, .served moved said unheard rfl rfl fun _ => rfl, ?_⟩
    cases rest with
    | nil => exact .inr ⟨rfl, rfl, by simpa using changed⟩
    | cons further others => exact .inl ⟨rfl, by simpa using changed⟩
  | served position said unheard asked answered held =>
    rw [asked] at arrived
    cases arrived
  | failed plan said failing answered asked _ =>
    obtain ⟨rfl, spoken⟩ := asked statement arrived
    simp only [Tables.execute?, Option.some.injEq, Prod.mk.injEq] at executed
    obtain ⟨rfl, rfl⟩ := executed
    refine ⟨false, ?_, .inl ⟨rfl, rfl⟩⟩
    cases failing with
    | refusing _ _ => exact absurd rfl spoken
    | lost _ => exact .failed plan said (.lost _) rfl nofun nofun
    | refused earlier text _ => exact .failed plan said (.refused earlier text _) rfl nofun nofun
    | undone earlier text _ => exact .failed plan said (.undone earlier text _) rfl nofun nofun

/-- A caller who waits for a reply, or whose statement failed, has not heard that every statement is
done. -/
theorem count_done_lt {before rest : List Statement} {statement : Statement}
    {tail : List Utterance} (plan : statementsFor call.event = before ++ statement :: rest)
    (said : call.said = rounds before ++ .sent statement :: tail)
    (silent : (tail.filterMap Utterance.reply?).count .done = 0) :
    (call.said.filterMap Utterance.reply?).count .done < (statementsFor call.event).length := by
  have sent : (Utterance.sent statement :: tail).filterMap Utterance.reply? =
      tail.filterMap Utterance.reply? := rfl
  rw [said, plan, List.filterMap_append, List.count_append, replies_rounds,
    List.count_replicate_self, sent, silent, List.length_append, List.length_cons]
  omega

/-- A caller who has heard that every statement is done has stored the event. -/
theorem isStored_of_heard (standing : Standing place call isStored)
    (heard : (statementsFor call.event).length ≤
      (call.said.filterMap Utterance.reply?).count .done) : isStored = true := by
  cases standing with
  | @idle before rest _ position said asked reply held =>
    rw [said, replies_rounds, List.count_replicate_self, position.plan, List.length_append]
      at heard
    have all : rest.length = 0 := by omega
    simp [List.length_eq_zero_iff.mp all]
  | asked position said unheard asked reply held =>
    have unfinished := count_done_lt position.plan said (by cases unheard <;> rfl)
    omega
  | served position said unheard asked reply held =>
    have unfinished := count_done_lt position.plan_concat said (by cases unheard <;> rfl)
    omega
  | failed plan said failing reply asked broken =>
    have unfinished := count_done_lt plan said (by cases failing <;> rfl)
    omega

/-- A call that has answered well has stored its event. -/
theorem isStored_of_answer? (standing : Standing place call isStored)
    (answered : call.answer? = some (.ok ())) : isStored = true := by
  apply standing.isStored_of_heard
  have ended : (call.exchange []).last = .done := by
    unfold Call.answer? at answered
    cases last : (call.exchange []).last with
    | done => rfl
    | silent =>
      simp only [last] at answered
      cases answered
    -- After any other reply the answer is an error.
    | lost | refused _ _ =>
      simp only [last] at answered
      split at answered <;> cases answered
  have heard := length_le_count_done ended
  rwa [List.append_nil] at heard

end Standing

end EventLedger.Database
