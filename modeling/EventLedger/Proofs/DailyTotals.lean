import EventLedger.Proofs.Balance

/-!
# Totals of days

Whatever happens between stores and a server, in whatever order, every call has written its event
once or nothing, and the totals of every user's day are the sums over the rows of that day. Both
follow from where each call stands, which every move keeps: the tables change by one event at once
or not at all.
-/
namespace EventLedger.Database

/-- A server on which every call stands at a place of its plan and has written what it says, and
whose tables are balanced. -/
structure Sound (server : Server) : Prop where
  /-- What has been said may go on to a whole conversation. -/
  converses : ∀ {place : Nat} {call : Call}, server.calls[place]? = some call →
    Converses call.event call.said
  /-- A call has written its event or nothing. -/
  stands : ∀ {place : Nat} {call : Call}, server.calls[place]? = some call →
    ∃ isStored, Standing place call isStored ∧
      server.tables.writes place = if isStored then [call.event] else []
  /-- Nothing is written but by a call. -/
  others : ∀ {place}, server.calls.length ≤ place → server.tables.writes place = []
  /-- The totals are the sums over the rows. -/
  balanced : server.tables.Balanced

/-- The tables after one move of a sound server: they are the same, or one call has stored its
event. -/
inductive Effect (server : Server) : Tables → Prop where
  /-- Nothing is changed. -/
  | nothing : Effect server server.tables
  /-- A call that has not written anything stores its event. -/
  | stored {place : Nat} {call : Call} {day : Day} {later : Tables}
      (found : server.calls[place]? = some call) (fresh : server.tables.writes place = [])
      (made : server.tables.changeAll? (storing place day call.event) = some later) :
      Effect server later

/-- The calls after a change of one of them. -/
theorem Server.calls_onCall {server : Server} {place other : Nat} {change : Call → Call}
    {call : Call} (found : (server.onCall place change).calls[other]? = some call) :
    (other ≠ place ∧ server.calls[other]? = some call) ∨
      (other = place ∧ ∃ earlier, server.calls[place]? = some earlier ∧ call = change earlier) := by
  rw [onCall, List.getElem?_modify] at found
  obtain ⟨earlier, before, same⟩ := Option.map_eq_some_iff.mp found
  by_cases own : place = other
  · subst own
    exact .inr ⟨rfl, earlier, before, by simpa using same.symm⟩
  · have kept : earlier = call := by simpa [own] using same
    exact .inl ⟨Ne.symm own, kept ▸ before⟩

/-- There is nothing to change at a place where there is no call. -/
theorem Server.onCall_of_none {server : Server} {place : Nat} (change : Call → Call)
    (missing : server.calls[place]? = none) : server.onCall place change = server := by
  have beyond := List.getElem?_eq_none_iff.mp missing
  simp only [onCall, List.modify_eq_self beyond]

namespace Sound

variable {server : Server} {place : Nat} {call : Call}

/-- A server that holds nothing is sound. -/
theorem empty : Sound .empty where
  converses := by simp [Server.empty]
  stands := by simp [Server.empty]
  others := fun _ => rfl
  balanced := Tables.balanced_empty

/-- A sound server stays sound when a call goes on to a place that agrees with the tables. -/
theorem replace (sound : Sound server) (found : server.calls[place]? = some call)
    {change : Call → Call} {later : Tables} {nowStored : Bool}
    (event : (change call).event = call.event)
    (converses : Converses call.event (change call).said)
    (standing : Standing place (change call) nowStored)
    (own : later.writes place = if nowStored then [call.event] else [])
    (foreign : ∀ other, other ≠ place → later.writes other = server.tables.writes other)
    (balanced : later.Balanced) : Sound ({ server with tables := later }.onCall place change) where
  converses := by
    intro other changed after
    obtain ⟨_, same⟩ | ⟨rfl, earlier, before, rfl⟩ := Server.calls_onCall after
    · exact sound.converses same
    · cases found.symm.trans before
      rw [event]
      exact converses
  stands := by
    intro other changed after
    obtain ⟨different, same⟩ | ⟨rfl, earlier, before, rfl⟩ := Server.calls_onCall after
    · obtain ⟨isStored, standing, writes⟩ := sound.stands same
      exact ⟨isStored, standing, (foreign other different).trans writes⟩
    · cases found.symm.trans before
      rw [event]
      exact ⟨nowStored, standing, own⟩
  others := by
    intro other beyond
    have within := (List.getElem?_eq_some_iff.mp found).1
    have outside : server.calls.length ≤ other := by simpa [Server.onCall] using beyond
    exact (foreign other (by omega)).trans (sound.others outside)
  balanced := balanced

/-- A sound server stays sound when a call goes on and nothing is stored. -/
theorem onCall (sound : Sound server) {change : Call → Call}
    (event : ∀ call, (change call).event = call.event)
    (converses : ∀ call, server.calls[place]? = some call →
      Converses call.event call.said → Converses call.event (change call).said)
    (stands : ∀ call isStored, server.calls[place]? = some call →
      Converses call.event call.said → Standing place call isStored →
      Standing place (change call) isStored) :
    Sound (server.onCall place change) := by
  cases found : server.calls[place]? with
  | none => rwa [Server.onCall_of_none change found]
  | some call =>
    obtain ⟨isStored, standing, writes⟩ := sound.stands found
    have said := sound.converses found
    exact sound.replace found (event call) (converses call found said)
      (stands call isStored found said standing) writes (fun _ _ => rfl) sound.balanced

/-- A new call on a new connection keeps the server sound. -/
theorem beginWith (sound : Sound server) (event : Event) :
    Sound (server.beginWith event .fresh) where
  converses := by
    intro place call found
    simp only [Server.beginWith, List.getElem?_append] at found
    split at found
    · exact sound.converses found
    · rw [List.getElem?_singleton] at found
      split at found
      · cases found
        exact ⟨[], List.nil_prefix⟩
      · cases found
  stands := by
    intro place call found
    simp only [Server.beginWith, List.getElem?_append] at found
    split at found
    · exact sound.stands found
    · rename_i beyond
      rw [List.getElem?_singleton] at found
      split at found
      · cases found
        exact ⟨false, .fresh place event, sound.others (Nat.le_of_not_lt beyond)⟩
      · cases found
  others := by
    intro place beyond
    rw [Server.beginWith, List.length_append] at beyond
    exact sound.others (by omega)
  balanced := sound.balanced

/-- The statement that the server may take up has been sent by a call. -/
theorem found_of_pending? {connection : Connection} {statement : Statement}
    (pending : server.pending? place = some (connection, statement)) :
    ∃ call, server.calls[place]? = some call ∧ call.connection = connection ∧
      connection.isOpen = true ∧ connection.asked = some statement := by
  unfold Server.pending? at pending
  split at pending
  · rename_i call found
    split at pending
    · rename_i isOpen
      obtain ⟨asked, arrived, same⟩ := Option.map_eq_some_iff.mp pending
      cases same
      exact ⟨call, found, rfl, isOpen, arrived⟩
    · cases pending
  · cases pending

/-- A statement that is refused keeps the server sound. -/
theorem refuse (sound : Sound server) {connection : Connection}
    {statement : Statement} (pending : server.pending? place = some (connection, statement))
    (violation : Violation) (detail : String) :
    Sound (server.onConnection place (·.refuse statement violation detail)) := by
  obtain ⟨call, found, rfl, isOpen, arrived⟩ := found_of_pending? pending
  refine sound.onCall (fun _ => rfl) (fun _ _ converses => converses) ?_
  intro other isStored same _ standing
  cases found.symm.trans same
  exact standing.refuse arrived violation detail

/-- A statement that is done keeps the server sound, and stores one event at most. -/
theorem serve (sound : Sound server) {connection : Connection}
    {statement : Statement} {tables : Tables} {transaction : Option Transaction}
    (pending : server.pending? place = some (connection, statement))
    (executed : server.tables.execute? server.today place connection.transaction statement =
      some (tables, transaction)) :
    Sound ({ server with tables }.onConnection place (·.done transaction)) ∧
      Effect server tables := by
  obtain ⟨call, found, rfl, isOpen, arrived⟩ := found_of_pending? pending
  obtain ⟨isStored, standing, writes⟩ := sound.stands found
  have said := sound.converses found
  obtain ⟨nowStored, moved, ⟨rfl, rfl⟩ | ⟨rfl, rfl, day, made⟩⟩ :=
    standing.serve isOpen arrived executed
  · exact ⟨sound.replace found rfl said moved writes (fun _ _ => rfl) sound.balanced, .nothing⟩
  · have own : tables.writes place = [call.event] := Tables.writes_of_storing made writes
    exact ⟨sound.replace found rfl said moved own
      (fun _ different => Tables.writes_of_storing_of_ne made different)
      (sound.balanced.storing made), .stored found writes made⟩

/-- Whatever a sound server does, it stays sound and stores one event at most. -/
theorem move (sound : Sound server) (move : ServerMove) :
    Sound (server.move move) ∧ Effect server (server.move move).tables := by
  cases move with
  | date day =>
    exact ⟨⟨sound.converses, sound.stands, sound.others, sound.balanced⟩, .nothing⟩
  | serve place =>
    simp only [Server.move]
    split
    · rename_i connection statement pending
      split
      · rename_i tables transaction executed
        exact sound.serve pending executed
      · exact ⟨sound.refuse pending _ _, .nothing⟩
    · exact ⟨sound, .nothing⟩
  | refuse place violation detail =>
    simp only [Server.move]
    split
    · rename_i connection statement pending
      exact ⟨sound.refuse pending _ _, .nothing⟩
    · exact ⟨sound, .nothing⟩
  | abort place =>
    refine ⟨sound.onCall (fun _ => rfl) (fun _ _ converses => converses) ?_, .nothing⟩
    intro call isStored _ _ standing
    exact standing.abort

/-- What a caller says or hears next belongs to a conversation. -/
theorem converses_next? (converses : Converses call.event call.said) {more : List Reply}
    {utterance : Utterance} (next : call.next? more = some utterance) :
    call.said ++ [utterance] <+: (call.exchange more).said := by
  obtain ⟨replies, begins⟩ := converses
  obtain ⟨rest, whole⟩ : call.said <+: (call.exchange more).said :=
    said_prefix_of_heard begins more
  unfold Call.next? at next
  split at next
  · cases next
  · rw [← whole, List.getElem?_append_right (Nat.le_refl _), Nat.sub_self] at next
    cases rest with
    | nil => cases next
    | cons first others =>
      cases next
      exact ⟨others, by rw [← whole, List.append_assoc]; rfl⟩

/-- A caller goes on with a statement that belongs to a conversation, or not at all. -/
theorem proceed_cases (converses : Converses call.event call.said) :
    call.proceed = call ∨ ∃ statement, call.proceed = call.send statement ∧
      Converses call.event (call.said ++ [.sent statement]) := by
  unfold Call.proceed
  split
  · rename_i statement next
    exact .inr ⟨statement, rfl, _, converses_next? converses next⟩
  · exact .inl rfl

/-- A caller hears the reply on its way as a part of a conversation, or does not hear it. -/
theorem tryHear_cases (converses : Converses call.event call.said) :
    call.tryHear = call ∨ ∃ reply, call.tryHear = call.hear reply ∧
      call.connection.reply = some reply ∧
      Converses call.event (call.said ++ [.replied reply]) := by
  unfold Call.tryHear
  split
  · rename_i reply comes
    split
    · rename_i heard next
      have begins := converses_next? converses next
      have first := heard_prefix begins
      rw [List.filterMap_append, List.prefix_append_right_inj] at first
      have same : heard = reply := by simpa [Utterance.reply?] using first
      exact .inr ⟨reply, rfl, comes, _, same ▸ begins⟩
    · exact .inl rfl
  · exact .inl rfl

/-- A caller hears of the loss of the connection as a part of a conversation, or does not hear of
it. -/
theorem tryLose_cases (converses : Converses call.event call.said) :
    call.tryLose = call ∨ (call.tryLose = call.lose ∧
      Converses call.event (call.said ++ [.replied .lost])) := by
  unfold Call.tryLose
  split
  · rename_i heard next
    have begins := converses_next? converses next
    have first := heard_prefix begins
    rw [List.filterMap_append, List.prefix_append_right_inj] at first
    have same : heard = .lost := by simpa [Utterance.reply?] using first
    exact .inr ⟨rfl, _, same ▸ begins⟩
  · exact .inl rfl

/-- A sound server stays sound when a call goes on in a way that keeps where it stands. -/
theorem goOn (sound : Sound server) {change : Call → Call}
    (event : ∀ call, (change call).event = call.event)
    (kept : ∀ call isStored, Converses call.event call.said → Standing place call isStored →
      Converses call.event (change call).said ∧ Standing place (change call) isStored) :
    Sound (server.onCall place change) := by
  refine sound.onCall event ?_ ?_
  · intro call found converses
    obtain ⟨isStored, standing, _⟩ := sound.stands found
    exact (kept call isStored converses standing).1
  · intro call isStored _ converses standing
    exact (kept call isStored converses standing).2

/-- A new call keeps the server sound, whatever connection it gets. -/
theorem begin (sound : Sound server) (event : Event) (reused : Option Nat) :
    Sound (server.begin event reused) := by
  obtain same | ⟨place, same⟩ := server.begin_cases event reused <;> rw [same]
  · exact sound.beginWith event
  · exact (sound.move (.abort place)).1.beginWith event

/-- Whatever happens between stores and a sound server, it stays sound and one event at most is
stored. -/
theorem step (sound : Sound server) (move : StoreMove) :
    Sound (server.step move) ∧ Effect server (server.step move).tables := by
  cases move with
  | server move => exact sound.move move
  | call event reused =>
    refine ⟨sound.begin event reused, ?_⟩
    rw [Server.step, Server.tables_begin]
    exact .nothing
  | proceed place =>
    refine ⟨sound.goOn ?_ ?_, .nothing⟩
    · intro call
      unfold Call.proceed
      split <;> rfl
    · intro call isStored converses standing
      obtain same | ⟨statement, same, further⟩ := proceed_cases converses <;> rw [same]
      · exact ⟨converses, standing⟩
      · exact ⟨further, standing.send further⟩
  | hear place =>
    refine ⟨sound.goOn ?_ ?_, .nothing⟩
    · intro call
      unfold Call.tryHear
      split
      · split <;> rfl
      · rfl
    · intro call isStored converses standing
      obtain same | ⟨reply, same, comes, further⟩ := tryHear_cases converses <;> rw [same]
      · exact ⟨converses, standing⟩
      · exact ⟨further, standing.hear comes further⟩
  | lose place =>
    refine ⟨sound.goOn ?_ ?_, .nothing⟩
    · intro call
      unfold Call.tryLose
      split <;> rfl
    · intro call isStored converses standing
      obtain same | ⟨same, further⟩ := tryLose_cases converses <;> rw [same]
      · exact ⟨converses, standing⟩
      · exact ⟨further, standing.lose further⟩
  | giveUp place =>
    refine ⟨sound.goOn (fun _ => rfl) ?_, .nothing⟩
    intro call isStored converses standing
    exact ⟨converses, standing.giveUp⟩

/-- Whatever has happened, the server is sound. -/
theorem run (moves : List StoreMove) : Sound (.run moves) := by
  suffices steps : ∀ server, Sound server → Sound (moves.foldl Server.step server) from
    steps _ .empty
  intro server sound
  induction moves generalizing server with
  | nil => exact sound
  | cons move rest ih => exact ih _ (sound.step move).1

end Sound

/-- What a call has done to the totals: for a usage event one row or none, and none otherwise. A
call that has answered well has written its event. -/
structure WritesOnce (tables : Tables) (place : Nat) (call : Call) : Prop where
  /-- A usage event has one row or none. -/
  usage : ∀ event, call.event = .usage event →
    tables.rowsOf place = [] ∨ ∃ day, tables.rowsOf place = [{ call := place, event, day }]
  /-- An audit event has no row among them. -/
  audit : ∀ event, call.event = .audit event → tables.rowsOf place = []
  /-- A call for a usage event that has answered well has its row. -/
  answered : call.answer? = some (.ok ()) → ∀ event, call.event = .usage event →
    ∃ day, tables.rowsOf place = [{ call := place, event, day }]

/-- A call on a sound server writes once. -/
theorem Sound.writesOnce {server : Server} (sound : Sound server) {place : Nat} {call : Call}
    (found : server.calls[place]? = some call) : WritesOnce server.tables place call := by
  obtain ⟨isStored, standing, writes⟩ := sound.stands found
  constructor
  · intro event own
    cases isStored with
    | false => exact .inl (Tables.rowsOf_of_writes_nil writes)
    | true => exact .inr (Tables.rowsOf_of_writes_usage (own ▸ writes))
  · intro event own
    cases isStored with
    | false => exact Tables.rowsOf_of_writes_nil writes
    | true => exact Tables.rowsOf_of_writes_audit (own ▸ writes)
  · intro answered event own
    rw [standing.isStored_of_answer? answered] at writes
    exact Tables.rowsOf_of_writes_usage (own ▸ writes)

/-- Every row has been written by a call for its event. -/
theorem Sound.call_of_row {server : Server} (sound : Sound server) {row : UsageRow}
    (among : row ∈ server.tables.usage) :
    ∃ call, server.calls[row.call]? = some call ∧ call.event = .usage row.event := by
  have written : .usage row.event ∈ server.tables.writes row.call :=
    Tables.mem_writes_of_row among
  cases found : server.calls[row.call]? with
  | none =>
    rw [sound.others (List.getElem?_eq_none_iff.mp found)] at written
    cases written
  | some call =>
    obtain ⟨isStored, _, writes⟩ := sound.stands found
    rw [writes] at written
    cases isStored with
    | false => cases written
    | true => exact ⟨call, rfl, (List.mem_singleton.mp written).symm⟩

/-- The totals and rows after one thing more has happened: they are the same, or one call without
a row has got its row and the addition of its tokens. -/
inductive Adds (server later : Server) : Prop where
  /-- Neither table is changed. -/
  | nothing (usage : later.tables.usage = server.tables.usage)
      (daily : later.tables.daily = server.tables.daily)
  /-- One row and its addition are made. -/
  | row (place : Nat) (call : Call) (event : UsageEvent) (day : Day) (totals : DayTotals)
      (found : server.calls[place]? = some call) (own : call.event = .usage event)
      (fresh : server.tables.rowsOf place = [])
      (added : DayTotals.plus? (server.tables.daily event.userId day) event = some totals)
      (usage : later.tables.usage = server.tables.usage ++ [{ call := place, event, day }])
      (daily : later.tables.daily =
        (server.tables.withTotals event.userId day totals).daily)

/-- A move that stores one event at most adds one row at most. -/
theorem Effect.adds {server later : Server} (effect : Effect server later.tables) :
    Adds server later := by
  generalize tables : later.tables = changed at effect
  cases effect with
  | nothing => exact .nothing (by rw [tables]) (by rw [tables])
  | @stored place call day _ found fresh made =>
    cases own : call.event with
    | usage event =>
      rw [own] at made
      obtain ⟨totals, added, rfl⟩ := Tables.eq_of_storing_usage made
      exact .row place call event day totals found own (Tables.rowsOf_of_writes_nil fresh) added
        (by rw [tables]) (by rw [tables])
    | audit event =>
      rw [own] at made
      obtain rfl := Tables.eq_of_storing_audit made
      exact .nothing (by rw [tables]) (by rw [tables])

/-- Whatever happens between stores and the server, the totals of every day are the exact sums over
its rows, every call makes one row with its addition or nothing, and the totals depend on what was
committed and not on the order. -/
theorem run_keepsTotals (moves : List StoreMove) :
    let server := Server.run moves
    (∀ user day,
      ((server.tables.daily user day).isSome = true ↔
        ∃ row ∈ server.tables.usage, row.event.userId = user ∧ row.day = day) ∧
      ∀ totals, server.tables.daily user day = some totals →
        totals.inputTokens.value =
          ((server.tables.eventsOn user day).map (·.inputTokens.value)).sum ∧
        totals.outputTokens.value =
          ((server.tables.eventsOn user day).map (·.outputTokens.value)).sum) ∧
    (∀ place call, server.calls[place]? = some call →
      WritesOnce server.tables place call) ∧
    (∀ row ∈ server.tables.usage, ∃ call, server.calls[row.call]? = some call ∧
      call.event = .usage row.event) ∧
    (∀ move, Adds server (server.step move)) ∧
    ∀ others,
      (server.tables.usage.map fun row => (row.event, row.day)).Perm
        ((Server.run others).tables.usage.map fun row => (row.event, row.day)) →
      server.tables.daily = (Server.run others).tables.daily := by
  intro server
  have sound : Sound server := Sound.run moves
  refine ⟨?_, ?_, ?_, ?_, ?_⟩
  · intro user day
    refine ⟨sound.balanced.isSome_iff user day, ?_⟩
    intro totals found
    have sums := sound.balanced user day
    rw [found] at sums
    exact sums.2
  · intro place call found
    exact sound.writesOnce found
  · intro row among
    exact sound.call_of_row among
  · intro move
    exact (sound.step move).2.adds
  · intro others same
    exact sound.balanced.daily_eq (Sound.run others).balanced same

/-- A call that goes through all its rounds leaves a row and the first totals of its day. -/
example :
    let event : UsageEvent := ⟨⟨1⟩, ⟨2⟩, ⟨30, by decide⟩, ⟨4, by decide⟩, "model"⟩
    let round : List StoreMove := [.proceed 0, .server (.serve 0), .hear 0]
    let server := Server.run (.call (.usage event) none :: (List.replicate 4 round).flatten)
    server.tables.usage.map (·.event) = [event] ∧
      server.tables.daily event.userId 0 = some ⟨event.inputTokens, event.outputTokens⟩ := by
  decide +kernel

/-- What a call has begun and given up is not stored by the call that gets its connection. -/
example :
    let event (model : String) : Event :=
      .usage ⟨⟨1⟩, ⟨2⟩, ⟨30, by decide⟩, ⟨4, by decide⟩, model⟩
    let round (place : Nat) : List StoreMove :=
      [.proceed place, .server (.serve place), .hear place]
    let server := Server.run
      (.call (event "first") none :: round 0 ++ round 0 ++ .giveUp 0 ::
        .call (event "second") (some 0) :: (List.replicate 4 (round 1)).flatten)
    server.tables.usage.map (·.event.model) = ["second"] := by
  decide +kernel

end EventLedger.Database
