import EventLedger.Database.Server

/-!
# Beginnings of conversations

A conversation that stores an event is a list of rounds, in each of which a statement is sent and
done, followed by the statement for which something else comes back. Whatever a caller says next is
settled by the rounds so far: the next statement of the plan, or the end of what was begun.
-/
namespace EventLedger.Database

/-- Statements that were sent and done, one after another. -/
def rounds (statements : List Statement) : List Utterance :=
  statements.flatMap fun statement => [.sent statement, .replied .done]

/-- What a caller hears in rounds. -/
theorem replies_rounds (statements : List Statement) :
    (rounds statements).filterMap Utterance.reply? =
      List.replicate statements.length .done := by
  induction statements with
  | nil => rfl
  | cons statement rest ih =>
    simp only [rounds, List.flatMap_cons, List.filterMap_append] at ih ⊢
    rw [ih]
    rfl

/-- One more round. -/
theorem rounds_concat (statements : List Statement) (statement : Statement) :
    rounds (statements ++ [statement]) =
      rounds statements ++ [.sent statement, .replied .done] := by
  simp [rounds]

/-- What is said about the first of some statements: it is done and the others follow, or the
conversation ends with what comes back. -/
inductive Opens (statement : Statement) (rest : List Statement) : List Utterance → Prop where
  /-- Nothing comes back. -/
  | silent : Opens statement rest [.sent statement]
  /-- The connection is lost. -/
  | lost : Opens statement rest [.sent statement, .replied .lost]
  /-- The statement is refused. -/
  | refused (violation : Violation) (detail : String) :
      Opens statement rest [.sent statement, .replied (.refused violation detail)]
  /-- The statement is refused, and what was begun is undone. -/
  | undone (violation : Violation) (detail : String) :
      Opens statement rest
        [.sent statement, .replied (.refused violation detail), .sent .rollback]
  /-- The statement is done, and the others follow. -/
  | done (begun : Bool) (replies : List Reply) :
      Opens statement rest
        (.sent statement :: .replied .done :: (converse scripted begun replies rest).said)

/-- A conversation about statements begins with the first one. -/
theorem opens_converse (begun : Bool) (replies : List Reply) (statement : Statement)
    (rest : List Statement) :
    Opens statement rest (converse scripted begun replies (statement :: rest)).said := by
  rcases replies with _ | ⟨reply, more⟩
  · cases begun <;> exact .silent
  · cases reply with
    | done => exact .done _ more
    | lost => cases begun <;> exact .lost
    | silent => cases begun <;> exact .silent
    | refused violation detail =>
      cases begun with
      | false => exact .refused violation detail
      | true => exact .undone violation detail

/-- A conversation begins with rounds only if it goes on about the other statements. -/
theorem said_of_rounds_prefix {begun : Bool} {before rest : List Statement}
    {replies : List Reply}
    (begins : rounds before <+: (converse scripted begun replies (before ++ rest)).said) :
    ∃ later more, (converse scripted begun replies (before ++ rest)).said =
      rounds before ++ (converse scripted later more rest).said := by
  induction before generalizing begun replies with
  | nil => exact ⟨begun, replies, rfl⟩
  | cons statement others ih =>
    have opens := opens_converse begun replies statement (others ++ rest)
    rw [List.cons_append] at begins ⊢
    generalize (converse scripted begun replies (statement :: (others ++ rest))).said = said
      at begins opens
    cases opens with
    | silent | lost | refused _ _ | undone _ _ => simp [rounds] at begins
    | done later more =>
      have further : rounds others <+: (converse scripted later more (others ++ rest)).said := by
        simpa [rounds] using begins
      obtain ⟨last, remaining, same⟩ := ih further
      exact ⟨last, remaining, by rw [same]; rfl⟩

/-- What has been said so far may go on to a conversation that stores an event. -/
def Converses (event : Event) (said : List Utterance) : Prop :=
  ∃ replies, said <+: (storeEvent scripted replies event).said

/-- What is said after rounds belongs to a conversation on the remaining statements. -/
theorem Converses.after_rounds {event : Event} {before rest : List Statement}
    {said : List Utterance} (plan : statementsFor event = before ++ rest)
    (converses : Converses event (rounds before ++ said)) :
    ∃ begun replies, said <+: (converse scripted begun replies rest).said := by
  obtain ⟨replies, begins⟩ := converses
  rw [storeEvent, plan] at begins
  obtain ⟨later, more, same⟩ := said_of_rounds_prefix ((List.prefix_append _ _).trans begins)
  rw [same] at begins
  exact ⟨later, more, (List.prefix_append_right_inj _).mp begins⟩

/-- What is said after rounds is about the next statement. -/
theorem Converses.opens {event : Event} {before rest : List Statement} {statement : Statement}
    {said : List Utterance} (plan : statementsFor event = before ++ statement :: rest)
    (converses : Converses event (rounds before ++ said)) :
    ∃ whole, Opens statement rest whole ∧ said <+: whole := by
  obtain ⟨begun, replies, begins⟩ := converses.after_rounds plan
  exact ⟨_, opens_converse begun replies statement rest, begins⟩

/-- After rounds, the next statement of the plan is sent. -/
theorem Converses.sent_of_rounds {event : Event} {before rest : List Statement}
    {utterance : Utterance} (plan : statementsFor event = before ++ rest)
    (converses : Converses event (rounds before ++ [utterance])) :
    ∃ statement others, rest = statement :: others ∧ utterance = .sent statement := by
  cases rest with
  | nil =>
    obtain ⟨begun, replies, begins⟩ := converses.after_rounds plan
    simp [converse] at begins
  | cons statement others =>
    refine ⟨statement, others, rfl, ?_⟩
    obtain ⟨whole, opens, begins⟩ := converses.opens plan
    cases opens <;> simpa using begins

/-- After a statement, its reply comes back. -/
theorem Converses.replied_of_sent {event : Event} {before rest : List Statement}
    {statement : Statement} {utterance : Utterance}
    (plan : statementsFor event = before ++ statement :: rest)
    (converses : Converses event (rounds before ++ [.sent statement, utterance])) :
    ∃ reply, utterance = .replied reply := by
  obtain ⟨whole, opens, begins⟩ := converses.opens plan
  cases opens <;> simp at begins <;> exact ⟨_, begins⟩

/-- After a refusal, nothing is said but that what was begun shall be undone. -/
theorem Converses.rollback_of_refused {event : Event} {before rest : List Statement}
    {statement : Statement} {violation : Violation} {detail : String} {said : List Utterance}
    (plan : statementsFor event = before ++ statement :: rest)
    (converses : Converses event
      (rounds before ++ .sent statement :: .replied (.refused violation detail) :: said)) :
    said <+: [.sent .rollback] := by
  obtain ⟨whole, opens, begins⟩ := converses.opens plan
  cases opens with
  | silent | lost | done _ _ => simp at begins
  | refused kind text =>
    have ends : said = [] := by
      simp at begins
      exact begins.2
    rw [ends]
    exact List.nil_prefix
  | undone kind text =>
    simp at begins
    exact begins.2

/-- After the connection is lost, nothing is said. -/
theorem Converses.nil_of_lost {event : Event} {before rest : List Statement}
    {statement : Statement} {said : List Utterance}
    (plan : statementsFor event = before ++ statement :: rest)
    (converses : Converses event (rounds before ++ .sent statement :: .replied .lost :: said)) :
    said = [] := by
  obtain ⟨whole, opens, begins⟩ := converses.opens plan
  cases opens <;> simp at begins
  exact begins

/-- Every conversation about statements begins by sending the first one. -/
theorem sent_prefix_converse (begun : Bool) (replies : List Reply) (statement : Statement)
    (rest : List Statement) :
    [.sent statement] <+: (converse scripted begun replies (statement :: rest)).said := by
  have opens := opens_converse begun replies statement rest
  generalize (converse scripted begun replies (statement :: rest)).said = whole at opens ⊢
  cases opens <;> simp

/-- What is said first is the first statement. -/
theorem first_said {begun : Bool} {replies : List Reply} {statement : Statement}
    {rest : List Statement} {first : Utterance}
    (begins : [first] <+: (converse scripted begun replies (statement :: rest)).said) :
    first = .sent statement := by
  have sent := sent_prefix_converse begun replies statement rest
  have same := List.prefix_of_prefix_length_le begins sent (Nat.le_refl _)
  exact List.head_eq_of_cons_eq (same.eq_of_length rfl)

/-- What is said first is the first statement, and what is said next is the first reply. -/
theorem first_two_said {begun : Bool} {replies : List Reply} {statement : Statement}
    {rest : List Statement} {first second : Utterance} {said : List Utterance}
    (begins : first :: second :: said <+:
      (converse scripted begun replies (statement :: rest)).said) :
    ∃ reply others, replies = reply :: others ∧ first = .sent statement ∧
      second = .replied reply := by
  rcases replies with _ | ⟨reply, others⟩
  · cases begun <;> simp [converse, scripted, Reply.heard, Reply.keepsConnection] at begins
  · refine ⟨reply, others, rfl, ?_⟩
    cases reply <;> cases begun <;>
      simp [converse, scripted, Reply.heard, Reply.keepsConnection] at begins <;>
      simp [begins]

/-- What comes after a reply that ends a conversation makes no difference. -/
theorem said_of_not_done (begun : Bool) {reply : Reply} (ends : reply ≠ .done)
    (some others : List Reply) (statement : Statement) (rest : List Statement) :
    (converse scripted begun (reply :: some) (statement :: rest)).said =
      (converse scripted begun (reply :: others) (statement :: rest)).said := by
  cases reply with
  | done => exact absurd rfl ends
  | refused _ _ | lost | silent => cases begun <;> rfl

/-- What is heard are the first replies. -/
theorem heard_prefix {begun : Bool} {statements : List Statement} {replies : List Reply}
    {said : List Utterance} (begins : said <+: (converse scripted begun replies statements).said) :
    said.filterMap Utterance.reply? <+: replies := by
  induction statements generalizing begun replies said with
  | nil =>
    rw [List.prefix_nil.mp begins]
    exact List.nil_prefix
  | cons statement rest ih =>
    rcases said with _ | ⟨first, _ | ⟨second, said⟩⟩
    · exact List.nil_prefix
    · rw [first_said begins]
      exact List.nil_prefix
    · obtain ⟨reply, others, rfl, rfl, rfl⟩ := first_two_said begins
      have heard : (.sent statement :: .replied reply :: said).filterMap Utterance.reply? =
          reply :: said.filterMap Utterance.reply? := rfl
      rw [heard]
      apply List.cons_prefix_cons.mpr ⟨rfl, ?_⟩
      cases reply with
      | done =>
        have further : said <+:
            (converse scripted (begun || statement.kind = .begin) others rest).said := by
          simpa [converse, scripted] using begins
        exact ih further
      | silent => simp [converse, scripted, Reply.heard, Reply.keepsConnection] at begins
      | lost =>
        have ends : said = [] := by
          simpa [converse, scripted, Reply.heard, Reply.keepsConnection] using begins
        rw [ends]
        exact List.nil_prefix
      | refused violation detail =>
        have ends : said <+: [.sent .rollback] := by
          cases begun <;>
            simp [converse, scripted, Reply.heard, Reply.keepsConnection] at begins <;>
            simp [begins]
        have nothing : said.filterMap Utterance.reply? <+: [] := ends.filterMap _
        rw [List.prefix_nil.mp nothing]
        exact List.nil_prefix

/-- What has been said depends on the replies that were heard and on no others. -/
theorem said_prefix_of_heard {begun : Bool} {statements : List Statement} {replies : List Reply}
    {said : List Utterance} (begins : said <+: (converse scripted begun replies statements).said)
    (more : List Reply) :
    said <+:
      (converse scripted begun (said.filterMap Utterance.reply? ++ more) statements).said := by
  induction statements generalizing begun replies said with
  | nil => exact begins
  | cons statement rest ih =>
    rcases said with _ | ⟨first, _ | ⟨second, said⟩⟩
    · exact List.nil_prefix
    · rw [first_said begins]
      exact sent_prefix_converse _ _ _ _
    · obtain ⟨reply, others, rfl, rfl, rfl⟩ := first_two_said begins
      have heard : (.sent statement :: .replied reply :: said).filterMap Utterance.reply? ++ more =
          reply :: (said.filterMap Utterance.reply? ++ more) := rfl
      rw [heard]
      by_cases goesOn : reply = .done
      · subst goesOn
        have further : said <+:
            (converse scripted (begun || statement.kind = .begin) others rest).said := by
          simpa [converse, scripted] using begins
        exact List.cons_prefix_cons.mpr ⟨rfl, List.cons_prefix_cons.mpr ⟨rfl, ih further⟩⟩
      · rwa [said_of_not_done begun goesOn _ others]

/-- A conversation that ends well is made of rounds, one for each statement. -/
theorem said_of_done {begun : Bool} {statements : List Statement} {replies : List Reply}
    (ends : (converse scripted begun replies statements).last = .done) :
    (converse scripted begun replies statements).said = rounds statements := by
  induction statements generalizing begun replies with
  | nil => rfl
  | cons statement rest ih =>
    rcases replies with _ | ⟨reply, more⟩
    · simp [converse, scripted, Reply.keepsConnection] at ends
    · cases reply with
      | done =>
        have others := @ih (begun || statement.kind = .begin) more ends
        exact congrArg ([.sent statement, .replied .done] ++ ·) others
      | refused violation detail =>
        cases begun <;> simp [converse, scripted, Reply.keepsConnection] at ends
      | lost | silent => simp [converse, scripted, Reply.keepsConnection] at ends

/-- A conversation that ends well has heard that every statement is done. -/
theorem length_le_count_done {begun : Bool} {statements : List Statement} {replies : List Reply}
    (ends : (converse scripted begun replies statements).last = .done) :
    statements.length ≤ replies.count .done := by
  have whole : (converse scripted begun replies statements).said <+:
      (converse scripted begun replies statements).said := List.prefix_rfl
  have first := heard_prefix whole
  have heard := first.sublist.count_le .done
  rwa [said_of_done ends, replies_rounds, List.count_replicate_self] at heard

end EventLedger.Database
