import EventLedger.Database.Attempt
import EventLedger.Proofs.Conversation

/-!
# What an attempt says

An attempt to store an event says the first part of a transaction: rounds of statements that were
done, and at most one more statement, for which no reply or a failure comes back, `Attempted`.
Whatever the database replies and whenever the time is over, nothing more is sent but that what was
begun shall be undone. For a usage event that gives the order of its requests, when it is committed,
and what the store answers: `attempt_transacts`. The conversations without delays are attempts in
which only finding a connection takes time, `storeWithin_eq_attempt`.
-/
namespace EventLedger.Database

variable {σ : Type}

/-! ## Attempts on statements -/

/-- What an attempt says when it is left: nothing, or that what was begun shall be undone. -/
def Leaving (said : List Utterance) : Prop := said = [] ∨ said = [.sent .rollback]

/-- What is said in an attempt on statements, and how it ends. -/
inductive Attempted : List Statement → List Utterance → Ending → Prop where
  /-- Every statement is done. -/
  | finished : Attempted [] [] .done
  /-- The attempt is dropped before the next statement reaches the database. -/
  | unsent {statement : Statement} {rest : List Statement} {left : List Utterance}
      (leaving : Leaving left) : Attempted (statement :: rest) left .unanswered
  /-- The attempt is dropped while it waits for a reply. -/
  | dropped {statement : Statement} {rest : List Statement} {left : List Utterance}
      (leaving : Leaving left) :
      Attempted (statement :: rest) (.sent statement :: left) .unanswered
  /-- The statement fails. -/
  | failed {statement : Statement} {rest : List Statement} {reply : Reply}
      {left : List Utterance} (failing : reply ≠ .done) (leaving : Leaving left) :
      Attempted (statement :: rest) (.sent statement :: .replied reply :: left) reply.ending
  /-- The statement is done, and the attempt goes on. -/
  | round {statement : Statement} {rest : List Statement} {said : List Utterance}
      {ending : Ending} (later : Attempted rest said ending) :
      Attempted (statement :: rest) (.sent statement :: .replied .done :: said) ending

/-- An attempt may be left with a rollback or without. -/
theorem attempted_leave {statements : List Statement} {said : List Utterance} {ending : Ending}
    (line : Line σ) (undoes : Bool) (database : σ)
    (left : ∀ left, Leaving left → Attempted statements (said ++ left) ending) :
    Attempted statements (line.leave undoes said ending database).said
      (line.leave undoes said ending database).ending := by
  cases undoes with
  | true => exact left _ (.inr rfl)
  | false =>
    have bare := left [] (.inl rfl)
    rwa [List.append_nil] at bare

/-- A conversation within a limit of time is an attempt. -/
theorem attempted_converseWithin (line : Line σ) (begun : Bool) (left : Nat) (database : σ)
    (statements : List Statement) :
    Attempted statements (converseWithin line begun left database statements).said
      (converseWithin line begun left database statements).ending := by
  induction statements generalizing begun left database with
  | nil => exact .finished
  | cons statement rest ih =>
    rw [converseWithin]
    dsimp only
    split
    next => exact attempted_leave _ _ _ fun _ leaving => .unsent leaving
    split
    next => exact attempted_leave _ _ _ fun _ leaving => .dropped leaving
    split
    next => exact .round (ih _ _ _)
    next failing => exact attempted_leave _ _ _ fun _ leaving => .failed failing leaving

/-- No reply is heard when an attempt is left, and nothing is sent but a rollback. -/
theorem Leaving.only {said : List Utterance} {utterance : Utterance} (leaving : Leaving said)
    (inside : utterance ∈ said) : utterance = .sent .rollback := by
  obtain rfl | rfl := leaving
  · cases inside
  · exact List.mem_singleton.mp inside

namespace Attempted

variable {statements : List Statement} {said before after : List Utterance} {ending : Ending}

/-- The first statements are sent, and maybe a rollback. -/
theorem sent_prefix (attempted : Attempted statements said ending) :
    ∃ sent, sent <+: statements ∧ (said.filterMap Utterance.statement? = sent ∨
      said.filterMap Utterance.statement? = sent ++ [.rollback]) := by
  have left {said : List Utterance} (leaving : Leaving said) (sent : List Statement) :
      sent ++ said.filterMap Utterance.statement? = sent ∨
        sent ++ said.filterMap Utterance.statement? = sent ++ [.rollback] := by
    obtain rfl | rfl := leaving
    · exact .inl (List.append_nil sent)
    · exact .inr rfl
  induction attempted with
  | finished => exact ⟨[], List.prefix_rfl, .inl rfl⟩
  | unsent leaving => exact ⟨[], List.nil_prefix, left leaving []⟩
  | @dropped statement rest _ leaving =>
    exact ⟨[statement], List.prefix_append [statement] rest, left leaving [statement]⟩
  | @failed statement rest _ _ _ leaving =>
    exact ⟨[statement], List.prefix_append [statement] rest, left leaving [statement]⟩
  | @round statement _ _ _ _ ih =>
    obtain ⟨sent, first, same⟩ := ih
    refine ⟨statement :: sent, List.cons_prefix_cons.mpr ⟨rfl, first⟩, ?_⟩
    obtain same | same := same
    · exact .inl (congrArg (statement :: ·) same)
    · exact .inr (congrArg (statement :: ·) same)

/-- A statement is sent when those before it are done, or it undoes what was begun. -/
theorem rounds_of_sent (attempted : Attempted statements said ending) {statement : Statement}
    (whole : said = before ++ .sent statement :: after) :
    statement = .rollback ∨
      ∃ done rest, statements = done ++ statement :: rest ∧ before = rounds done := by
  have left {said : List Utterance} (leaving : Leaving said)
      (inside : .sent statement ∈ said) : statement = .rollback := by
    cases leaving.only inside
    rfl
  induction attempted generalizing before with
  | finished => simp at whole
  | unsent leaving => exact .inl (left leaving (by simp [whole]))
  | @dropped first rest said leaving =>
    cases before with
    | nil =>
      cases whole
      exact .inr ⟨[], rest, rfl, rfl⟩
    | cons _ before =>
      obtain ⟨_, whole⟩ := List.cons.inj whole
      exact .inl (left leaving (by simp [whole]))
  | @failed first rest reply said _ leaving =>
    rcases before with _ | ⟨_, _ | ⟨_, before⟩⟩
    · cases whole
      exact .inr ⟨[], rest, rfl, rfl⟩
    · simp at whole
    · simp only [List.cons_append, List.cons.injEq] at whole
      exact .inl (left leaving (by simp [whole]))
  | @round first rest said ending later ih =>
    rcases before with _ | ⟨_, _ | ⟨_, before⟩⟩
    · cases whole
      exact .inr ⟨[], rest, rfl, rfl⟩
    · simp at whole
    · simp only [List.cons_append, List.cons.injEq] at whole
      obtain ⟨rfl, rfl, whole⟩ := whole
      obtain undoes | ⟨done, rest', rfl, rfl⟩ := ih whole
      · exact .inl undoes
      · exact .inr ⟨first :: done, rest', rfl, rfl⟩

/-- After a failure nothing is sent but a rollback, and the attempt ends with it. -/
theorem leaving_of_failure (attempted : Attempted statements said ending) {reply : Reply}
    (whole : said = before ++ .replied reply :: after) (failing : reply ≠ .done) :
    Leaving after ∧ ending = reply.ending := by
  have left {said : List Utterance} (leaving : Leaving said) (inside : .replied reply ∈ said) :
      False := by
    cases leaving.only inside
  induction attempted generalizing before with
  | finished => simp at whole
  | unsent leaving => exact (left leaving (by simp [whole])).elim
  | @dropped first rest said leaving =>
    cases before with
    | nil => cases whole
    | cons _ before =>
      obtain ⟨_, whole⟩ := List.cons.inj whole
      exact (left leaving (by simp [whole])).elim
  | @failed first rest reply' said _ leaving =>
    rcases before with _ | ⟨_, _ | ⟨_, before⟩⟩
    · cases whole
    · cases whole
      exact ⟨leaving, rfl⟩
    · simp only [List.cons_append, List.cons.injEq] at whole
      exact (left leaving (by simp [whole])).elim
  | @round first rest said ending later ih =>
    rcases before with _ | ⟨_, _ | ⟨_, before⟩⟩
    · cases whole
    · cases whole
      exact absurd rfl failing
    · simp only [List.cons_append, List.cons.injEq] at whole
      exact ih whole.2.2

/-- What is said after a statement was done is an attempt on the remaining ones. -/
theorem after_round (attempted : Attempted statements said ending) {statement : Statement}
    (whole : said = before ++ .sent statement :: .replied .done :: after) :
    ∃ done rest, statements = done ++ statement :: rest ∧ before = rounds done ∧
      Attempted rest after ending := by
  have left {said : List Utterance} (leaving : Leaving said) (inside : .replied .done ∈ said) :
      False := by
    cases leaving.only inside
  induction attempted generalizing before with
  | finished => simp at whole
  | unsent leaving => exact (left leaving (by simp [whole])).elim
  | @dropped first rest said leaving =>
    cases before with
    | nil =>
      obtain ⟨_, whole⟩ := List.cons.inj whole
      exact (left leaving (by simp [whole])).elim
    | cons _ before =>
      obtain ⟨_, whole⟩ := List.cons.inj whole
      exact (left leaving (by simp [whole])).elim
  | @failed first rest reply said failing leaving =>
    rcases before with _ | ⟨_, _ | ⟨_, before⟩⟩
    · cases whole
      exact absurd rfl failing
    · simp at whole
    · simp only [List.cons_append, List.cons.injEq] at whole
      exact (left leaving (by simp [whole])).elim
  | @round first rest said ending later ih =>
    rcases before with _ | ⟨_, _ | ⟨_, before⟩⟩
    · cases whole
      exact ⟨[], rest, rfl, rfl, later⟩
    · simp at whole
    · simp only [List.cons_append, List.cons.injEq] at whole
      obtain ⟨rfl, rfl, whole⟩ := whole
      obtain ⟨done, rest', rfl, rfl, others⟩ := ih whole
      exact ⟨first :: done, rest', rfl, rfl, others⟩

/-- An attempt that ends well is made of rounds, one for each statement. -/
theorem rounds_of_done (attempted : Attempted statements said .done) :
    said = rounds statements := by
  generalize ends : Ending.done = ending at attempted
  induction attempted with
  | finished => rfl
  | unsent | dropped => cases ends
  | @failed _ _ reply _ failing =>
    cases reply with
    | done => exact absurd rfl failing
    | refused | lost | silent => cases ends
  | @round statement _ _ _ _ ih =>
    exact congrArg ([.sent statement, .replied .done] ++ ·) (ih ends)

/-- An attempt that fails has heard the failure. -/
theorem reply_of_failed {cause : DatabaseError}
    (attempted : Attempted statements said (.failed cause)) :
    ∃ before reply after, said = before ++ .replied reply :: after ∧
      reply.ending = .failed cause := by
  generalize ends : Ending.failed cause = ending at attempted
  induction attempted with
  | finished | unsent | dropped => cases ends
  | @failed statement _ reply left => exact ⟨[.sent statement], reply, left, rfl, rfl⟩
  | @round statement _ _ _ _ ih =>
    obtain ⟨before, reply, after, rfl, fails⟩ := ih ends
    exact ⟨.sent statement :: .replied .done :: before, reply, after, rfl, fails⟩

end Attempted

/-! ## Attempts without delays -/

/-- When everything takes no time, an attempt is a conversation. -/
theorem converseWithin_instant (peer : Peer σ) (begun : Bool) (left : Nat) (database : σ)
    (statements : List Statement) :
    converseWithin (.instant peer) begun left database statements =
      { said := (converse peer begun database statements).said
        ending := (converse peer begun database statements).last.ending
        database := (converse peer begun database statements).database } := by
  induction statements generalizing begun left database with
  | nil => rfl
  | cons statement rest ih =>
    rw [converseWithin, converse]
    dsimp only [Line.instant] at ih ⊢
    generalize peer database statement = replied
    obtain ⟨reply, later⟩ := replied
    cases reply with
    | done => simp [ih]
    | silent => simp [Line.leave, Reply.heard, Reply.keepsConnection, Reply.ending]
    | lost => simp [Line.leave, Reply.heard, Reply.keepsConnection, Reply.ending]
    | refused violation detail =>
      cases begun with
      | true => simp [Line.leave, Reply.heard, Reply.keepsConnection, Reply.ending]
      | false => simp [Line.leave, Reply.heard, Reply.keepsConnection, Reply.ending]

/-- What a store does within a limit of time is an attempt in which only finding a connection takes
time. -/
theorem storeWithin_eq_attempt (pool : Pool) (peer : Peer σ) (database : σ) (limit : Nat)
    (event : Event) :
    pool.storeWithin peer database limit event =
      let attempt := pool.attempt (.found 1) (.instant peer) database limit event
      (Pool.answerTo event attempt.said attempt.ending, attempt.database) := by
  cases closed : pool.isClosed with
  | true => simp [Pool.storeWithin, Pool.store, Pool.attempt, closed]
  | false =>
    cases limit with
    | zero => simp [Pool.storeWithin, Pool.attempt, closed]
    | succ limit =>
      simp [Pool.storeWithin, Pool.store, Pool.attempt, closed, converseWithin_instant, storeEvent]

/-! ## Attempts to store an event -/

variable {pool : Pool} {search : Search} {limit : Nat}

/-- The first failure that an attempt meets. -/
inductive FirstFailure (pool : Pool) (search : Search) (limit : Nat) (said : List Utterance) :
    DatabaseError → Prop where
  /-- The pool has been closed. -/
  | closed (isClosed : pool.isClosed = true) : FirstFailure pool search limit said .poolClosed
  /-- It turns out in time that no connection can be had. -/
  | search {delay : Nat} {cause : DatabaseError} (isOpen : pool.isClosed = false)
      (fails : search = .failed delay cause) (inTime : delay ≤ limit) :
      FirstFailure pool search limit said cause
  /-- The reply to a statement is a failure. -/
  | reply {before after : List Utterance} {reply : Reply} {cause : DatabaseError}
      (isOpen : pool.isClosed = false) (whole : said = before ++ .replied reply :: after)
      (fails : reply.ending = .failed cause) : FirstFailure pool search limit said cause

/-- An attempt meets a failure before it says anything, or it is one on the statements of the
event. -/
theorem attempt_cases (pool : Pool) (search : Search) (line : Line σ) (database : σ) (limit : Nat)
    (event : Event) :
    (∃ cause, FirstFailure pool search limit [] cause ∧
      (∀ other, FirstFailure pool search limit [] other → other = cause) ∧
      (pool.attempt search line database limit event).said = [] ∧
      (pool.attempt search line database limit event).ending = .failed cause) ∨
    pool.isClosed = false ∧ (∀ delay cause, search = .failed delay cause → limit < delay) ∧
      Attempted (statementsFor event) (pool.attempt search line database limit event).said
        (pool.attempt search line database limit event).ending := by
  obtain ⟨first, rest, plan⟩ : ∃ first rest, statementsFor event = first :: rest := by
    cases event <;> exact ⟨_, _, rfl⟩
  cases closed : pool.isClosed with
  | true =>
    have refused : pool.attempt search line database limit event =
        { said := [], ending := .failed .poolClosed, database } := if_pos closed
    rw [refused]
    refine .inl ⟨.poolClosed, .closed closed, ?_, rfl, rfl⟩
    rintro other (_ | ⟨isOpen⟩ | ⟨isOpen⟩)
    · rfl
    · rw [closed] at isOpen
      cases isOpen
    · rw [closed] at isOpen
      cases isOpen
  | false =>
    have noLonger : ¬pool.isClosed = true := by simp [closed]
    rw [Pool.attempt.eq_def, if_neg noLonger, plan]
    cases search with
    | found delay =>
      refine .inr ⟨rfl, by simp, ?_⟩
      dsimp only
      split
      · exact .unsent (.inl rfl)
      · exact attempted_converseWithin _ _ _ _ _
    | endless => exact .inr ⟨rfl, by simp, .unsent (.inl rfl)⟩
    | failed delay cause =>
      by_cases late : limit < delay
      · refine .inr ⟨rfl, ?_, ?_⟩
        · rintro _ _ ⟨⟩
          exact late
        · dsimp only
          rw [if_pos late]
          exact .unsent (.inl rfl)
      · refine .inl ⟨cause, .search closed rfl (Nat.le_of_not_lt late), ?_, rfl, if_neg late⟩
        rintro other (isClosed | ⟨_, fails, _⟩ | ⟨_, whole, _⟩)
        · exact absurd isClosed noLonger
        · cases fails
          rfl
        · simp at whole

/-- The first failure that an attempt meets is what it ends with. -/
theorem firstFailure_iff (pool : Pool) (search : Search) (line : Line σ) (database : σ)
    (limit : Nat) (event : Event) {cause : DatabaseError} :
    FirstFailure pool search limit (pool.attempt search line database limit event).said cause ↔
      (pool.attempt search line database limit event).ending = .failed cause := by
  obtain ⟨only, fails, unique, said, ends⟩ | ⟨isOpen, noFailure, attempted⟩ :=
    attempt_cases pool search line database limit event
  · rw [said, ends, Ending.failed.injEq]
    constructor
    · exact fun failure => (unique cause failure).symm
    · rintro rfl
      exact fails
  · constructor
    · rintro (isClosed | ⟨_, fails, inTime⟩ | ⟨_, whole, fails⟩)
      · rw [isOpen] at isClosed
        cases isClosed
      · exact absurd (noFailure _ _ fails) (Nat.not_lt_of_le inTime)
      · have failing : ∀ reply : Reply, reply.ending = .failed cause → reply ≠ .done := by
          rintro _ fails rfl
          cases fails
        rw [← fails]
        exact (attempted.leaving_of_failure whole (failing _ fails)).2
    · intro ends
      rw [ends] at attempted
      obtain ⟨before, reply, after, whole, fails⟩ := attempted.reply_of_failed
      exact .reply isOpen whole fails

/-- What is sent for a statement: its text and the values bound to it. -/
def Statement.request (statement : Statement) : String × List Parameter :=
  (statement.sql, statement.parameters)

/-- The requests of a transaction that stores a usage event. -/
def usageRequests (event : UsageEvent) : List (String × List Parameter) :=
  [("BEGIN", []),
    ("INSERT INTO usage_events (user_id, generation_id, input_tokens, output_tokens, model) " ++
        "VALUES ($1, $2, $3, $4, $5)",
      [.uuid event.userId, .uuid event.generationId, .count event.inputTokens,
        .count event.outputTokens, .text event.model]),
    ("INSERT INTO daily_usage (user_id, day, input_tokens, output_tokens) " ++
        "VALUES ($1, CURRENT_DATE, $2, $3) ON CONFLICT (user_id, day) DO UPDATE SET " ++
        "input_tokens = daily_usage.input_tokens + EXCLUDED.input_tokens, " ++
        "output_tokens = daily_usage.output_tokens + EXCLUDED.output_tokens",
      [.uuid event.userId, .count event.inputTokens, .count event.outputTokens]),
    ("COMMIT", [])]

/-- An attempt to store a usage event is one transaction, or the first part of one. -/
structure Transacts (pool : Pool) (search : Search) (limit : Nat) (event : UsageEvent)
    (attempt : Attempt σ) : Prop where
  /-- The requests are the first ones of a transaction, with a rollback after them or without. -/
  requests : ∃ sent, sent <+: usageRequests event ∧
    (attempt.sent.map Statement.request = sent ∨
      attempt.sent.map Statement.request = sent ++ [("ROLLBACK", [])])
  /-- The commit is sent only after the other statements were done. -/
  commits : ∀ before after, attempt.said = before ++ .sent .commit :: after →
    before = rounds [.begin, .insertUsage event, .addToDay event]
  /-- The store answers with success exactly if it hears that the commit is done. -/
  confirmed : attempt.answer? (.usage event) = some (.ok ()) ↔
    [.sent .commit, .replied .done] <:+: attempt.said
  /-- After the first reply that is no success, nothing is sent but a rollback. -/
  stops : ∀ before reply after, attempt.said = before ++ .replied reply :: after →
    reply ≠ .done → after = [] ∨ after = [.sent .rollback]
  /-- There is at most one first failure. -/
  first : ∀ cause other, FirstFailure pool search limit attempt.said cause →
    FirstFailure pool search limit attempt.said other → cause = other
  /-- The store answers with an error exactly if there is one, and it is what that means. -/
  failure : ∀ error, attempt.answer? (.usage event) = some (.error error) ↔
    ∃ cause, FirstFailure pool search limit attempt.said cause ∧ error = .ofUsageFailure cause
  /-- The error is fatal if the pool has been closed, and retriable otherwise. -/
  kind : ∀ error, attempt.answer? (.usage event) = some (.error error) →
    error = .fatal .poolClosed ∧ FirstFailure pool search limit attempt.said .poolClosed ∨
      ∃ cause, cause ≠ .poolClosed ∧ FirstFailure pool search limit attempt.said cause ∧
        error = .retriable cause

/-- What an error of the database means is fatal for a closed pool, and retriable otherwise. -/
theorem ofUsageFailure_cases (cause : DatabaseError) :
    cause = .poolClosed ∧ StoreError.ofUsageFailure cause = .fatal .poolClosed ∨
      cause ≠ .poolClosed ∧ StoreError.ofUsageFailure cause = .retriable cause := by
  cases cause with
  | poolClosed => exact .inl ⟨rfl, rfl⟩
  | _ => exact .inr ⟨by simp, rfl⟩

/-- A store answers with success if its attempt ends with every statement done. -/
theorem answer?_eq_ok {attempt : Attempt σ} {event : Event} :
    attempt.answer? event = some (.ok ()) ↔ attempt.ending = .done := by
  rw [Attempt.answer?]
  cases attempt.ending with
  | done => exact iff_of_true rfl rfl
  | failed cause => exact iff_of_false nofun nofun
  | unanswered => exact iff_of_false nofun nofun

/-- It answers with an error if the attempt has failed, for what that means. -/
theorem answer?_eq_error {attempt : Attempt σ} {event : UsageEvent} {error : StoreError} :
    attempt.answer? (.usage event) = some (.error error) ↔
      ∃ cause, attempt.ending = .failed cause ∧ error = .ofUsageFailure cause := by
  rw [Attempt.answer?]
  cases attempt.ending with
  | done =>
    refine iff_of_false nofun ?_
    rintro ⟨_, ⟨⟩, _⟩
  | failed cause =>
    constructor
    · rintro ⟨⟩
      exact ⟨cause, rfl, rfl⟩
    · rintro ⟨_, ⟨⟩, rfl⟩
      rfl
  | unanswered =>
    refine iff_of_false nofun ?_
    rintro ⟨_, ⟨⟩, _⟩

/-- What a transaction ends with is the commit. -/
theorem commit_place {event : UsageEvent} {done rest : List Statement}
    (plan : statementsFor (.usage event) = done ++ .commit :: rest) :
    done = [.begin, .insertUsage event, .addToDay event] ∧ rest = [] := by
  rcases done with _ | ⟨first, _ | ⟨second, _ | ⟨third, _ | ⟨fourth, done⟩⟩⟩⟩
  -- The first three statements are no commits, and there is no fifth one.
  · cases plan
  · cases plan
  · cases plan
  · cases plan
    exact ⟨rfl, rfl⟩
  · simp [statementsFor] at plan

/-- Whatever the database replies and whenever the time is over, an attempt to store a usage event
is one transaction or the first part of one. -/
theorem attempt_transacts (pool : Pool) (search : Search) (line : Line σ) (database : σ)
    (limit : Nat) (event : UsageEvent) :
    Transacts pool search limit event
      (pool.attempt search line database limit (.usage event)) := by
  have failures (cause : DatabaseError) := @firstFailure_iff _ pool search line database limit
    (.usage event) cause
  have cases := attempt_cases pool search line database limit (.usage event)
  generalize pool.attempt search line database limit (.usage event) = attempt at failures cases ⊢
  have shape : attempt.said = [] ∧ attempt.ending ≠ .done ∨
      Attempted (statementsFor (.usage event)) attempt.said attempt.ending := by
    obtain ⟨cause, _, _, said, ends⟩ | ⟨_, _, attempted⟩ := cases
    · exact .inl ⟨said, by simp [ends]⟩
    · exact .inr attempted
  have failure (error : StoreError) :
      attempt.answer? (.usage event) = some (.error error) ↔
        ∃ cause, FirstFailure pool search limit attempt.said cause ∧
          error = .ofUsageFailure cause := by
    simp only [failures]
    exact answer?_eq_error
  refine ⟨?requests, ?commits, ?confirmed, ?stops, ?first, failure, ?kind⟩
  case requests =>
    have plan : (statementsFor (.usage event)).map Statement.request = usageRequests event := rfl
    obtain ⟨said, _⟩ | attempted := shape
    · exact ⟨[], List.nil_prefix, .inl (by simp [Attempt.sent, said])⟩
    · obtain ⟨sent, first, same⟩ := attempted.sent_prefix
      refine ⟨sent.map Statement.request, plan ▸ first.map _, ?_⟩
      obtain same | same := same
      · exact .inl (congrArg _ same)
      · refine .inr ((congrArg (List.map Statement.request) same).trans ?_)
        rw [List.map_append]
        rfl
  case commits =>
    intro before after whole
    obtain ⟨said, _⟩ | attempted := shape
    · simp [said] at whole
    · obtain undoes | ⟨done, rest, plan, rfl⟩ := attempted.rounds_of_sent whole
      · cases undoes
      · rw [(commit_place plan).1]
  case confirmed =>
    rw [answer?_eq_ok]
    obtain ⟨said, noSuccess⟩ | attempted := shape
    · exact iff_of_false noSuccess (by simp [said])
    · constructor
      · intro ends
        rw [ends] at attempted
        rw [attempted.rounds_of_done]
        exact ⟨rounds [.begin, .insertUsage event, .addToDay event], [], rfl⟩
      · rintro ⟨before, after, whole⟩
        rw [List.append_assoc] at whole
        obtain ⟨done, rest, plan, _, later⟩ := attempted.after_round whole.symm
        rw [(commit_place plan).2] at later
        generalize attempt.ending = ending at later
        cases later
        rfl
  case stops =>
    intro before reply after whole failing
    obtain ⟨said, _⟩ | attempted := shape
    · simp [said] at whole
    · exact (attempted.leaving_of_failure whole failing).1
  case first =>
    intro cause other fails again
    rw [failures] at fails again
    exact Ending.failed.inj (fails.symm.trans again)
  case kind =>
    intro error answer
    obtain ⟨cause, fails, rfl⟩ := (failure error).mp answer
    obtain ⟨rfl, fatal⟩ | ⟨other, retriable⟩ := ofUsageFailure_cases cause
    · exact .inl ⟨fatal, fails⟩
    · exact .inr ⟨cause, other, fails, retriable⟩

end EventLedger.Database
