import EventLedger.Proofs.Dialogue

/-!
# What is left open

Whatever is opened is closed later on: `Followed` says so of a journal, which is what a worker owes
when it stops. A visit that has ended has closed its session and settled what it gave to its store,
and a course of supervision that has ended has ended all its attempts.
-/
namespace EventLedger

open Consumer (Serving Handling Feed IsSilent)
open Broker (Visit Session Request)

/-- Whatever is opened is closed later on. -/
def Followed (opens closes : Occurrence → Bool) : List Occurrence → Prop
  | [] => True
  | what :: rest =>
    (opens what = true → ∃ other ∈ rest, closes other = true) ∧ Followed opens closes rest

namespace Followed

variable {opens closes : Occurrence → Bool} {first second whats : List Occurrence}

/-- What closes something closes all that has been opened before it. -/
theorem closing (closed : ∃ other ∈ second, closes other = true)
    (after : Followed opens closes second) : Followed opens closes (first ++ second) := by
  obtain ⟨other, among, closing⟩ := closed
  induction first with
  | nil => exact after
  | cons what rest ih =>
    exact ⟨fun _ => ⟨other, List.mem_append_right _ among, closing⟩, ih⟩

/-- What is followed in two journals is followed in one after the other. -/
theorem append (before : Followed opens closes first) (after : Followed opens closes second) :
    Followed opens closes (first ++ second) := by
  induction first with
  | nil => exact after
  | cons what rest ih =>
    obtain ⟨closed, others⟩ := before
    refine ⟨fun opened => ?_, ih others⟩
    obtain ⟨other, among, closing⟩ := closed opened
    exact ⟨other, List.mem_append_left _ among, closing⟩

/-- Where nothing is opened, nothing is to be closed. -/
theorem of_none (none : ∀ what ∈ whats, opens what = false) : Followed opens closes whats := by
  induction whats with
  | nil => trivial
  | cons what rest ih =>
    rw [List.forall_mem_cons] at none
    exact ⟨fun opened => absurd opened (by simp [none.1]), ih none.2⟩

/-- It is enough to look at a sort in which everything is opened. -/
theorem of_filter {keep : Occurrence → Bool} (kept : ∀ what, opens what = true → keep what = true)
    (among : Followed opens closes (whats.filter keep)) : Followed opens closes whats := by
  induction whats with
  | nil => trivial
  | cons what rest ih =>
    rw [List.filter_cons] at among
    cases keeps : keep what with
    | false =>
      rw [if_neg (by simp [keeps])] at among
      exact ⟨fun opened => absurd (kept what opened) (by simp [keeps]), ih among⟩
    | true =>
      rw [if_pos keeps] at among
      refine ⟨fun opened => ?_, ih among.2⟩
      obtain ⟨other, listed, closing⟩ := among.1 opened
      exact ⟨other, List.mem_of_mem_filter listed, closing⟩

/-- Blocks that are each followed are followed in a row. -/
theorem flatMap {α : Type} {block : α → List Occurrence}
    (each : ∀ item, Followed opens closes (block item)) (items : List α) :
    Followed opens closes (items.flatMap block) := by
  induction items with
  | nil => trivial
  | cons item rest ih => exact (each item).append ih

end Followed

/-! ## Nothing is open -/

/-- Whether something is asked for that needs a session. -/
def opensSession : Occurrence → Bool
  | .requested request => !Session.precedesChannel request
  | _ => false

/-- Whether a session is closed. -/
def closesSession : Occurrence → Bool
  | .sessionClosed => true
  | _ => false

/-- Whether the store is called. -/
def opensCall : Occurrence → Bool
  | .storeCalled _ => true
  | _ => false

/-- Whether the queue is told about a delivery, which it is when its call has ended. -/
def closesCall : Occurrence → Bool
  | .settled _ _ => true
  | _ => false

/-- Whether an attempt ends. -/
def endsAttempt : Occurrence → Bool
  | .attemptEnded _ => true
  | _ => false

/-- At the end of a journal nothing is open. -/
structure AtRest (journal : Journal) : Prop where
  /-- No session with the broker. -/
  sessions : Followed opensSession closesSession (journal.map Entry.what)
  /-- No call of the store. -/
  calls : Followed opensCall closesCall (journal.map Entry.what)
  /-- No attempt. -/
  attempts : Followed isStart endsAttempt (journal.map Entry.what)

/-- Whether something is opened. -/
def isOpening (what : Occurrence) : Bool := opensSession what || opensCall what || isStart what

/-- A session is opened by a request. -/
theorem isRequest_of_opensSession (what : Occurrence) (opens : opensSession what = true) :
    isRequest what = true := by
  cases what <;> first | rfl | cases opens

/-- Neither signals nor what a store says open anything. -/
theorem isSilent_isOpening : IsSilent isOpening := ⟨fun _ _ => rfl, fun _ => rfl⟩

/-- Where nothing is of a sort, nothing that happens is of it. -/
theorem Journal.forall_of_only_eq_nil {sort : Occurrence → Bool} {journal : Journal}
    (none : journal.only sort = []) : ∀ what ∈ journal.map Entry.what, sort what = false := by
  simpa [Journal.only, List.filter_eq_nil_iff] using none

namespace AtRest

variable {first second : Journal}

/-- Two runs at rest are at rest one after the other. -/
theorem append (before : AtRest first) (after : AtRest second) : AtRest (first ++ second) := by
  constructor <;> rw [List.map_append]
  · exact before.sessions.append after.sessions
  · exact before.calls.append after.calls
  · exact before.attempts.append after.attempts

/-- Where nothing is opened, nothing is open. -/
theorem of_lacks (none : first.only isOpening = []) : AtRest first := by
  have unopened := Journal.forall_of_only_eq_nil none
  simp only [isOpening, Bool.or_eq_false_iff] at unopened
  exact ⟨.of_none fun what among => (unopened what among).1.1,
    .of_none fun what among => (unopened what among).1.2,
    .of_none fun what among => (unopened what among).2⟩

/-- An attempt in which nothing is left open and no other one is made. -/
theorem attempt (inner : AtRest first) (unmarked : first.only isMark = []) (start finish : Nat)
    (result : Except WorkerError Unit) :
    AtRest (⟨start, .attemptStarted⟩ :: (first ++ [⟨finish, .attemptEnded result⟩])) := by
  have unstarted : ∀ what ∈ first.map Entry.what, isStart what = false := by
    apply Journal.forall_of_only_eq_nil
    rw [Journal.only_isStart, unmarked]
    rfl
  constructor <;> simp only [List.map_cons, List.map_append, List.map_nil]
  · exact ⟨nofun, inner.sessions.append ⟨nofun, trivial⟩⟩
  · exact ⟨nofun, inner.calls.append ⟨nofun, trivial⟩⟩
  · refine ⟨fun _ => ⟨_, List.mem_append_right _ List.mem_cons_self, rfl⟩, ?_⟩
    exact (Followed.of_none unstarted).append ⟨nofun, trivial⟩

end AtRest

/-! ## Visits -/

namespace Consumer

/-- What is done with an item settles it after its call of the store. -/
theorem Serving.followed_deeds (consumer : Consumer) (serving : Serving) :
    Followed opensCall closesCall (serving.deeds consumer) := by
  unfold deeds
  cases serving.handling? with
  | none => exact ⟨nofun, trivial⟩
  | some handling =>
    simp only [Handling.block, Handling.deeds, Handling.storeCall]
    cases Event.ofBody handling.delivery.kind handling.delivery.body <;>
      simp [Followed, opensCall, closesCall]

end Consumer

namespace Broker.Visit

variable (visit : Visit)

/-- A visit that has left has closed its session. -/
theorem closes_leave {result : Except WorkerError Unit} {world : World}
    (left : (visit.leave result world).value.isSome) :
    ∃ other ∈ (visit.leave result world).journal.map Entry.what, closesSession other = true := by
  unfold leave at left ⊢
  cases leaving : visit.leaving with
  | none =>
    rw [leaving] at left
    cases left
  | some leaving =>
    refine ⟨.sessionClosed, ?_, rfl⟩
    simp [Session.close, Sim.bind_apply, Sim.happen]

/-- A visit that has consumed to an end has closed its session. -/
theorem closes_consume {consumer : Consumer} {prefetch : UInt16} {turns : Nat} {world : World}
    (ended : (visit.consume consumer prefetch turns world).value.isSome) :
    ∃ other ∈ (visit.consume consumer prefetch turns world).journal.map Entry.what,
      closesSession other = true := by
  change (((visit.feed.run consumer turns [] >>= visit.afterLoop)
    (Session.reportStart consumer prefetch world).world).value).isSome at ended
  rw [Sim.bind_value] at ended
  change ∃ other ∈ (Run.journal ((Session.reportStart consumer prefetch >>= fun _ =>
    visit.feed.run consumer turns [] >>= visit.afterLoop) world)).map Entry.what, _
  rw [Sim.bind_journal, Sim.bind_journal, List.map_append, List.map_append]
  generalize visit.feed.run consumer turns [] _ = run at ended
  unfold afterLoop at ended ⊢
  cases result : run.value.result with
  | none =>
    rw [result] at ended
    cases ended
  | some value =>
    rw [result] at ended
    obtain ⟨other, among, closes⟩ := visit.closes_leave ended
    exact ⟨other, List.mem_append_right _ (List.mem_append_right _ among), closes⟩

/-- What comes before a session is closed leaves no session open. -/
theorem followed_sessions {first second : Journal} (content : second.only isRequest = [])
    (closes : ∃ other ∈ second.map Entry.what, closesSession other = true) :
    Followed opensSession closesSession ((first ++ second).map Entry.what) := by
  have unasked := Journal.forall_of_only_eq_nil content
  rw [List.map_append]
  refine .closing closes (.of_none fun what among => ?_)
  by_contra opens
  have asked := isRequest_of_opensSession what (by simpa using opens)
  rw [unasked what among] at asked
  cases asked

/-- Without any request beyond that for a channel, no session is open. -/
theorem followed_of_requests {journal : Journal}
    (early : ∀ request ∈ journal.requests, Session.precedesChannel request = true) :
    Followed opensSession closesSession (journal.map Entry.what) := by
  refine .of_none fun what among => ?_
  obtain ⟨entry, listed, rfl⟩ := List.mem_map.mp among
  cases asked : entry.what with
  | requested request =>
    have sent : request ∈ journal.requests :=
      List.mem_filterMap.mpr ⟨entry, listed, by rw [asked]⟩
    simp [opensSession, early request sent]
  | _ => rfl

/-- A request that precedes the channel is sent after none but such. -/
theorem precedesChannel_of_mem_take {consumer : Consumer} {prefetch : UInt16} {index : Nat}
    {request : Request} (is : (agreedRequests consumer prefetch)[index]? = some request)
    (precedes : Session.precedesChannel request = true) :
    ∀ other ∈ (agreedRequests consumer prefetch).take (index + 1),
      Session.precedesChannel other = true := by
  intro other sent
  rw [precedesChannel_agreedRequests is, decide_eq_true_eq] at precedes
  have first : other ∈ [Request.connect consumer.virtualHost, .channel] :=
    (List.take_prefix_take_left precedes).subset sent
  simp only [List.mem_cons, List.not_mem_nil, or_false] at first
  obtain rfl | rfl := first <;> rfl

/-- A visit that has ended has closed its session. -/
theorem followed_sessions_run (consumer : Consumer) (prefetch : UInt16) (turns : Nat)
    {world : World} (ended : (visit.run consumer prefetch turns world).value.isSome) :
    Followed opensSession closesSession
      ((visit.run consumer prefetch turns world).journal.map Entry.what) := by
  have prepares : visit.Prepares _ 0 (agreedRequests consumer prefetch)
      (visit.run consumer prefetch turns world) :=
    prepares_setUp visit (visit.consume consumer prefetch turns) 0 _ world
  generalize visit.run consumer prefetch turns world = run at ended prepares ⊢
  cases prepares with
  | granted asked all asks =>
    have content := visit.lacks_consume isSilent_isRequest rfl isOfLoop_of_isRequest consumer
      prefetch turns asked.world
    exact followed_sessions content (visit.closes_consume ended)
  | refused index asked is earlier refuses asks =>
    rename_i request reason
    cases precedes : Session.precedesChannel request with
    | false =>
      have left : visit.endRefused request reason = visit.leave (.error (.broker reason)) := by
        simp [endRefused, precedes]
      rw [Run.andThen, left] at ended ⊢
      exact followed_sessions (visit.lacks_leave isSilent_isRequest rfl _ asked.world)
        (visit.closes_leave ended)
    -- There is no channel yet, and so nothing to close.
    | true =>
      have whole := asks.append (visit.asks_endRefused request reason asked.world)
      refine followed_of_requests fun other sent => ?_
      have requests : Journal.requests (Run.andThen asked _).journal = _ := whole.requests
      rw [requests, List.append_nil] at sent
      exact precedesChannel_of_mem_take is precedes other sent
  | ignored index asked inside earlier ignores asks => cases ended

/-- A visit that has ended leaves nothing open. -/
theorem atRest_run (consumer : Consumer) (prefetch : UInt16) (turns : Nat) {world : World}
    (ended : (visit.run consumer prefetch turns world).value.isSome) :
    AtRest (visit.run consumer prefetch turns world).journal := by
  obtain ⟨servings, visited⟩ := visited_run consumer prefetch turns visit world
  refine ⟨visit.followed_sessions_run consumer prefetch turns ended, ?_, ?_⟩
  · have kept : ∀ what, opensCall what = true → what.isDeed = true := by
      intro what opens
      cases what <;> first | rfl | cases opens
    have deeds : Followed opensCall closesCall
        (visit.run consumer prefetch turns world).journal.deeds := by
      rw [visited.deeds]
      exact .flatMap (Serving.followed_deeds consumer) servings
    exact .of_filter kept deeds
  · refine .of_none (Journal.forall_of_only_eq_nil ?_)
    rw [Journal.only_isStart, visited.unmarked]
    rfl

end Broker.Visit

/-! ## Courses -/

namespace Supervision

variable {consumer : Consumer} {prefetch : UInt16} {turns : Nat}

/-- An attempt that is watched to its end is at rest. -/
theorem atRest_watchAttempt {visit : Visit} {world : World}
    (ended : (watchAttempt (Visit.run consumer prefetch turns) visit world).value.isSome) :
    AtRest (watchAttempt (Visit.run consumer prefetch turns) visit world).journal := by
  rw [watchAttempt_apply] at ended ⊢
  simp only at ended ⊢
  have inner := visit.atRest_run consumer prefetch turns ended
  have unmarked := Visit.unmarked_run consumer prefetch turns visit world
  obtain ⟨result, is⟩ := Option.isSome_iff_exists.mp ended
  simp only [is, Option.map_some, Option.toList_some]
  exact inner.attempt unmarked _ _ _

/-- A course that has ended leaves nothing open. -/
theorem Coursed.atRest {retryDelay : Nat} {visits : Nat → Attempt Visit} {watched made : Nat}
    {world : World} {rounds : List Round} {run : Run (Option SupervisionEnd)}
    (coursed : Coursed retryDelay (Visit.run consumer prefetch turns) visits watched made world
      rounds run) (ended : run.value.isSome) : AtRest run.journal := by
  have announced (message : String) (ending : SupervisionEnd) (begun : World) :
      AtRest (announce message ending begun).journal :=
    .of_lacks (lacks_announce isSilent_isOpening message ending begun)
  have paused (error : WorkerError) (tie : Sim.Tie) (begun : World) :
      AtRest (pause retryDelay error tie begun).journal :=
    .of_lacks (lacks_pause isSilent_isOpening rfl retryDelay error tie begun)
  induction coursed with
  | declined stopped => exact announced _ _ _
  | unwatched goesOn => cases ended
  | unfinished goesOn is unended => cases ended
  | finished goesOn is well =>
    subst is
    exact (atRest_watchAttempt (by simp [well])).append (announced _ _ _)
  | cancelled goesOn is failed waits noticed =>
    subst is
    subst waits
    exact (atRest_watchAttempt (by simp [failed])).append
      ((paused _ _ _).append (announced _ _ _))
  | retried goesOn is failed waits unnoticed later ih =>
    subst is
    subst waits
    exact (atRest_watchAttempt (by simp [failed])).append ((paused _ _ _).append (ih ended))

/-- Supervision of visits that has ended leaves nothing open. -/
theorem atRest_course {retryDelay watched : Nat} {visits : Nat → Attempt Visit} {world : World}
    (ended : (course retryDelay (Visit.run consumer prefetch turns) visits watched 0
      world).value.isSome) :
    AtRest (course retryDelay (Visit.run consumer prefetch turns) visits watched 0
      world).journal := by
  obtain ⟨rounds, coursed⟩ :=
    coursed_course (Visit.run consumer prefetch turns) retryDelay visits watched 0 world
  exact coursed.atRest ended

end Supervision

end EventLedger
