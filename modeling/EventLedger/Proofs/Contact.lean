import EventLedger.Proofs.Absence
import EventLedger.Service

/-!
# The first contact with the database

A pool is made exactly if the database is found at the address of the settings before the pool runs
out of patience, and its reply to a ping comes within the limit and is success, `Pool.Reaches`. The
journal then shows when the ping was sent and when it was answered. Otherwise an error comes of it,
or the process breaks off.
-/
namespace EventLedger

open Consumer (IsSilent)

/-- A sort that has to do neither with the database nor with records and the signal. -/
structure IsRemote (sort : Occurrence → Bool) : Prop extends IsSilent sort where
  /-- Statements are left out. -/
  ignoresStatements : ∀ statement, sort (.executed statement) = false
  /-- Replies are left out. -/
  ignoresReplies : ∀ reply, sort (.replied reply) = false
  /-- Spans are left out. -/
  ignoresSpans : ∀ span, sort (.spanClosed span) = false

/-- What happens is noted at its time. -/
theorem Sim.happen_noted (what : Occurrence) (world : World) :
    [⟨world.now, what⟩].Sublist (Sim.happen what world).journal := by
  unfold Sim.happen
  split
  · split
    · exact List.sublist_append_left [_] [_]
    · exact List.Sublist.refl _
  · exact List.Sublist.refl _

namespace Database

variable {σ : Type} (peer : Peer σ) (database : σ)

/-- The last reply of a ping is the reply to it. -/
theorem ping_last : (ping peer database).last = (peer database .ping).1 := by
  simp only [ping, converse]
  generalize peer database .ping = answer
  obtain ⟨reply, later⟩ := answer
  cases reply <;> rfl

/-- What is said in a ping that is done. -/
theorem ping_said (done : (peer database .ping).1 = .done) :
    (ping peer database).said = [.sent .ping, .replied .done] := by
  simp only [ping, converse]
  generalize peer database .ping = answer at done ⊢
  obtain ⟨reply, later⟩ := answer
  cases done
  rfl

namespace Pool

/-- What is logged when reaching the database begins. -/
def announcement : Log.Record :=
  { level := .info, target := logTarget, message := "正在连接数据库...", fields := [],
    span := some connecting }

/-- The database is found at the address of the settings, so many milliseconds away, before the pool
runs out of patience, and its reply to a ping is success, takes so many more and comes within the
limit. -/
structure Reaches (network : Address → Reach) (horizon : Nat) (settings : DatabaseSettings)
    (way pace : Nat) : Prop where
  /-- The database is there. -/
  found : ∃ address, Address.ofText? settings.url = some address ∧
    network address = .database way pace
  /-- The process does not break off. -/
  unbroken : breakOff? horizon settings = none
  /-- There is some patience. -/
  patient : settings.connectTimeout.nanos ≠ 0
  /-- The way to the database does not take longer. -/
  near : way ≤ settings.connectTimeout.millis
  /-- There is some time. -/
  limited : settings.pingTimeout.nanos ≠ 0
  /-- The reply comes within it. -/
  inTime : way + pace ≤ settings.pingTimeout.millis
  /-- The reply is success. -/
  done : (peer database .ping).1 = .done

variable {peer database} {network : Address → Reach} {horizon : Nat}
  {settings : DatabaseSettings} {pool : Pool}

/-! ## Waiting for a reply -/

/-- What is due within the limit comes at its time. -/
theorem await_of_le {limit : Duration} {due : Nat} (inTime : due ≤ limit.millis) (passed : Nat)
    (goOn : Sim (Except ServiceError Unit)) (world : World) :
    await limit passed due goOn world =
      (Sim.wait (due - passed) world).andThen (goOn (Sim.wait (due - passed) world).world) := by
  rw [await, if_neg (Nat.not_lt.mpr inTime), Sim.bind_eq_andThen]

/-- Nothing good comes of what is due too late or goes on to an error. -/
theorem await_fails {limit : Duration} {passed due : Nat} {goOn : Sim (Except ServiceError Unit)}
    (fails : due ≤ limit.millis → ∀ world, ∃ error, (goOn world).value = .error error)
    (world : World) : ∃ error, (await limit passed due goOn world).value = .error error := by
  by_cases late : limit.millis < due
  · rw [await, if_pos late]
    exact ⟨_, rfl⟩
  · have inTime : due ≤ limit.millis := Nat.not_lt.mp late
    rw [await_of_le inTime]
    exact fails inTime _

/-- A ping whose reply is no success, or comes too late, fails. -/
theorem hear_fails {limit : Duration} {way pace : Nat}
    (fails : way + pace ≤ limit.millis → (peer database .ping).1 ≠ .done) (world : World) :
    ∃ error, (hear (ping peer database) limit way pace world).value = .error error := by
  rw [← ping_last] at fails
  unfold hear
  simp only [Sim.bind_value]
  cases reply : (ping peer database).last with
  | done =>
    simp only [Reply.ending]
    exact await_fails (fun inTime => absurd reply (fails inTime)) _
  | refused violation detail =>
    simp only [Reply.ending]
    exact await_fails (fun _ _ => ⟨_, rfl⟩) _
  | lost =>
    simp only [Reply.ending]
    exact await_fails (fun _ _ => ⟨_, rfl⟩) _
  | silent =>
    simp only [Reply.ending]
    exact ⟨_, rfl⟩

/-- A ping that is answered in time is sent now, and answered at its time. -/
theorem hear_done (done : (peer database .ping).1 = .done) {limit : Duration} {way pace : Nat}
    (inTime : way + pace ≤ limit.millis) (world : World) :
    (hear (ping peer database) limit way pace world).value = .ok () ∧
      [⟨world.now, .executed .ping⟩, ⟨world.now + pace, .replied .done⟩].Sublist
        (hear (ping peer database) limit way pace world).journal := by
  have said := ping_said peer database done
  have last := (ping_last peer database).trans done
  unfold hear
  rw [last, said]
  simp only [List.take, List.drop, List.map, Reply.ending, Sim.bind_eq_andThen]
  rw [await_of_le inTime]
  refine ⟨rfl, ?_⟩
  simp [Run.andThen, Consumer.perform, Sim.happenAll, Consumer.StoreDeed.occurrence, Sim.happen,
    Sim.bind_apply, Sim.wait_now]

/-! ## Finding a connection -/

/-- A connection is found if the way to it is no longer than the pool's patience and the limit, and
there is some time at all. -/
theorem finds_iff {limit : Duration} {way : Nat} :
    pool.finds limit way = true ↔ pool.patience.nanos ≠ 0 ∧ limit.nanos ≠ 0 ∧
      way ≤ pool.patience.millis ∧ way ≤ limit.millis := by
  simp [finds, and_assoc]

/-- The pool finds a database that is reached. -/
theorem Reaches.finds {way pace : Nat}
    (reaches : Reaches peer database network horizon settings way pace) :
    (ofSettings settings).finds settings.pingTimeout way = true :=
  finds_iff.mpr ⟨reaches.patient, reaches.limited, reaches.near,
    Nat.le_trans (Nat.le_add_right _ _) reaches.inTime⟩

/-- A search that finds nothing ends with an error. -/
theorem findNone_fails (pool : Pool) (limit : Duration) (world : World) :
    ∃ error, (pool.findNone limit world).value = .error error := by
  by_cases impatient : pool.patience.millis ≤ limit.millis
  · rw [findNone, if_pos impatient]
    exact ⟨_, rfl⟩
  · rw [findNone, if_neg impatient]
    exact ⟨_, rfl⟩

/-- A connection that is found is there after the way to it. -/
theorem find_of_finds {limit : Duration} {way : Nat} (found : pool.finds limit way = true)
    (goOn : Sim (Except ServiceError Unit)) (world : World) :
    pool.find limit way goOn world =
      (Sim.wait way world).andThen (goOn (Sim.wait way world).world) := by
  rw [find, if_pos found, Sim.bind_eq_andThen]

/-- Nothing good comes of a search that finds nothing or goes on to an error. -/
theorem find_fails {limit : Duration} {way : Nat} {goOn : Sim (Except ServiceError Unit)}
    (fails : pool.finds limit way = true → ∀ world, ∃ error, (goOn world).value = .error error)
    (world : World) : ∃ error, (pool.find limit way goOn world).value = .error error := by
  by_cases found : pool.finds limit way = true
  · rw [find_of_finds found]
    exact fails found _
  · rw [find, if_neg found]
    exact pool.findNone_fails limit world

/-! ## Health and the pool -/

/-- A check of an open pool fails, unless the database is found and answers in time. -/
theorem checkHealth_fails (isOpen : pool.isClosed = false) {reach : Reach} {limit : Duration}
    (fails : ∀ way pace, reach = .database way pace → pool.finds limit way = true →
      way + pace ≤ limit.millis → (peer database .ping).1 ≠ .done) (world : World) :
    ∃ error, (checkHealth pool peer database reach limit world).value.1 = .error error := by
  unfold checkHealth
  rw [isOpen]
  cases reach with
  | nobody => exact pool.findNone_fails limit world
  | unreachable way error => exact find_fails (fun _ _ => ⟨_, rfl⟩) world
  | database way pace =>
    exact find_fails (fun found => hear_fails (fails way pace rfl found)) world

/-- A check of an open pool is passed if the database is found and answers in time. -/
theorem checkHealth_done (isOpen : pool.isClosed = false) {limit : Duration} {way pace : Nat}
    (found : pool.finds limit way = true) (done : (peer database .ping).1 = .done)
    (inTime : way + pace ≤ limit.millis) (world : World) :
    let checked := checkHealth pool peer database (.database way pace) limit world
    checked.value.1 = .ok () ∧
      [⟨world.now + way, .executed .ping⟩, ⟨world.now + way + pace, .replied .done⟩].Sublist
        checked.journal := by
  simp only [checkHealth, isOpen, Bool.false_eq_true, ↓reduceIte, Sim.bind_apply,
    find_of_finds found, Run.andThen, Sim.pure_apply, List.append_nil]
  obtain ⟨value, noted⟩ := hear_done done inTime (Sim.wait way world).world
  rw [Sim.wait_now] at noted
  exact ⟨value, noted.trans (List.sublist_append_right _ _)⟩

/-- A database that can be reached after three seconds is not waited for by a pool that has patience
for one, whatever the limit of its ping. -/
example :
    let pool : Pool := { isClosed := false, patience := .ofSeconds 1 }
    let peer : Peer Unit := fun database _ => (.done, database)
    let checked := pool.checkHealth peer () (.database 3000 0) (.ofSeconds 5) World.start
    checked.value.1 = .error (.database .poolTimedOut) ∧ checked.world.now = 1000 := by
  decide +kernel

/-- What comes of a pool that is made is what comes of the check of its health. -/
theorem made_value (pool : Pool) (checked : Except ServiceError Unit × σ) (world : World) :
    (pool.made checked world).value.1 = (checked.1.mapError .error).map fun _ => pool := by
  obtain ⟨result, later⟩ := checked
  cases result <;> rfl

/-- What comes of the first contact is what comes of the check. -/
theorem firstContact_value {address : Address} (is : Address.ofText? settings.url = some address)
    (unbroken : breakOff? horizon settings = none) (world : World) :
    (firstContact peer database network horizon settings world).value.1 =
      (((ofSettings settings).checkHealth peer database (network address) settings.pingTimeout
        world).value.1.mapError .error).map fun _ => ofSettings settings := by
  simp only [firstContact, is, unbroken, Sim.bind_value, made_value]

/-- What happens in the check happens in the first contact. -/
theorem firstContact_journal {address : Address}
    (is : Address.ofText? settings.url = some address)
    (unbroken : breakOff? horizon settings = none) (world : World) :
    ((ofSettings settings).checkHealth peer database (network address) settings.pingTimeout
        world).journal.Sublist
      (firstContact peer database network horizon settings world).journal := by
  unfold firstContact
  rw [is, unbroken]
  exact List.sublist_append_left _ _

/-- The first contact with a database that is reached ends with a pool. -/
theorem firstContact_done {way pace : Nat}
    (reaches : Reaches peer database network horizon settings way pace) (world : World) :
    let met := firstContact peer database network horizon settings world
    met.value.1 = .ok (ofSettings settings) ∧
      [⟨world.now + way, .executed .ping⟩, ⟨world.now + way + pace, .replied .done⟩].Sublist
        met.journal := by
  obtain ⟨address, is, here⟩ := reaches.found
  obtain ⟨passed, noted⟩ := checkHealth_done rfl reaches.finds reaches.done reaches.inTime world
  rw [← here] at passed noted
  refine ⟨?_, noted.trans (firstContact_journal is reaches.unbroken world)⟩
  rw [firstContact_value is reaches.unbroken, passed]
  rfl

/-- The first contact with a database that is not reached ends without one. -/
theorem firstContact_fails
    (fails : ∀ way pace, ¬Reaches peer database network horizon settings way pace)
    (world : World) : ∃ failure,
    (firstContact peer database network horizon settings world).value.1 = .error failure := by
  cases is : Address.ofText? settings.url with
  | none =>
    unfold firstContact
    rw [is]
    exact ⟨_, rfl⟩
  | some address =>
    cases breaks : breakOff? horizon settings with
    | some message =>
      unfold firstContact
      rw [is, breaks]
      exact ⟨_, rfl⟩
    | none =>
      have checked : ∃ error, ((ofSettings settings).checkHealth peer database (network address)
          settings.pingTimeout world).value.1 = .error error := by
        refine checkHealth_fails rfl (fun way pace here found inTime done => ?_) world
        obtain ⟨patient, limited, near, _⟩ := finds_iff.mp found
        exact fails way pace ⟨⟨address, is, here⟩, breaks, patient, near, limited, inTime, done⟩
      obtain ⟨error, failed⟩ := checked
      rw [firstContact_value is breaks, failed]
      exact ⟨_, rfl⟩

/-- A pool is made if the database is reached, and the ping is noted when it is sent and when it is
answered. -/
theorem connect_done {way pace : Nat}
    (reaches : Reaches peer database network horizon settings way pace) (world : World) :
    let made := connect peer database network horizon settings world
    made.value.1 = .ok (ofSettings settings) ∧
      [⟨world.now, .logged announcement⟩, ⟨world.now + way, .executed .ping⟩,
        ⟨world.now + way + pace, .replied .done⟩].Sublist made.journal := by
  have announced : [⟨world.now, .logged announcement⟩].Sublist
      (report "正在连接数据库..." world).journal := Sim.happen_noted _ world
  obtain ⟨value, noted⟩ :=
    firstContact_done reaches (report "正在连接数据库..." world).world
  have now : (report "正在连接数据库..." world).world.now = world.now := Sim.happen_now _ world
  rw [now] at noted
  simp only [connect, Sim.bind_apply, Sim.pure_apply, List.append_nil]
  exact ⟨value, announced.append (noted.trans (List.sublist_append_left _ _))⟩

/-- No pool is made if the database is not reached. -/
theorem connect_fails
    (fails : ∀ way pace, ¬Reaches peer database network horizon settings way pace)
    (world : World) : ∃ failure,
    (connect peer database network horizon settings world).value.1 = .error failure :=
  firstContact_fails fails (report "正在连接数据库..." world).world

/-! ## What a contact is made of -/

/-- Whether it can happen while the database is being reached. -/
def isOfContact : Occurrence → Bool
  | .logged _ | .executed _ | .replied _ | .spanClosed _ => true
  | _ => false

/-- What holds of waiting, of what can happen and of one run after another holds of reaching the
database. -/
structure Carries (holds : (α : Type) → Sim α → Prop) : Prop where
  /-- Of no run. -/
  pure : ∀ {α : Type} (value : α), holds α (Pure.pure value)
  /-- Of one run after another. -/
  bind : ∀ {α β : Type} {first : Sim α} {next : α → Sim β}, holds α first →
    (∀ value, holds β (next value)) → holds β (first >>= next)
  /-- Of waiting. -/
  wait : ∀ millis, holds Unit (Sim.wait millis)
  /-- Of what can happen. -/
  happen : ∀ what, isOfContact what = true → holds Unit (Sim.happen what)

namespace Carries

variable {holds : (α : Type) → Sim α → Prop} (carries : Carries holds)
include carries

/-- It holds of saying something to the database and hearing its replies. -/
theorem say (said : List Utterance) : holds _ (Consumer.perform (said.map .said)) := by
  induction said with
  | nil => exact carries.pure ()
  | cons utterance rest ih =>
    refine carries.bind (carries.happen _ ?_) fun _ => ih
    cases utterance <;> rfl

/-- It holds of giving up. -/
theorem giveUp (limit : Duration) (passed : Nat) : holds _ (giveUp limit passed) :=
  carries.bind (carries.wait _) fun _ => carries.pure _

/-- It holds of waiting for a reply, if it holds of what comes after it. -/
theorem await (limit : Duration) (passed due : Nat) {goOn : Sim (Except ServiceError Unit)}
    (later : holds _ goOn) : holds _ (await limit passed due goOn) := by
  unfold Pool.await
  split
  · exact carries.giveUp limit passed
  · exact carries.bind (carries.wait _) fun _ => later

/-- It holds of an exchange. -/
theorem hear (exchange : Exchange σ) (limit : Duration) (way pace : Nat) :
    holds _ (hear exchange limit way pace) := by
  unfold Pool.hear
  refine carries.bind (carries.say _) fun _ => ?_
  cases exchange.last.ending with
  | unanswered => exact carries.giveUp limit way
  | done =>
    exact carries.await _ _ _ (carries.bind (carries.say _) fun _ => carries.pure _)
  | failed error =>
    exact carries.await _ _ _ (carries.bind (carries.say _) fun _ => carries.pure _)

/-- It holds of a search that finds nothing. -/
theorem findNone (pool : Pool) (limit : Duration) : holds _ (pool.findNone limit) := by
  unfold Pool.findNone
  split
  · exact carries.bind (carries.wait _) fun _ => carries.pure _
  · exact carries.giveUp limit 0

/-- It holds of a search, if it holds of what comes after it. -/
theorem find (pool : Pool) (limit : Duration) (way : Nat) {goOn : Sim (Except ServiceError Unit)}
    (later : holds _ goOn) : holds _ (pool.find limit way goOn) := by
  unfold Pool.find
  split
  · exact carries.bind (carries.wait _) fun _ => later
  · exact carries.findNone pool limit

/-- It holds of a check of a pool's health. -/
theorem checkHealth (pool : Pool) (reach : Reach) (limit : Duration) :
    holds _ (pool.checkHealth peer database reach limit) := by
  unfold Pool.checkHealth
  split
  · exact carries.pure _
  · cases reach with
    | nobody => exact carries.bind (carries.findNone pool limit) fun _ => carries.pure _
    | unreachable way error =>
      exact carries.bind (carries.find pool limit way (carries.pure _)) fun _ => carries.pure _
    | database way pace =>
      exact carries.bind (carries.find pool limit way (carries.hear _ limit way pace)) fun _ =>
        carries.pure _

/-- It holds of reaching the database. -/
theorem connect : holds _ (connect peer database network horizon settings) := by
  have said (message : String) : holds _ (report message) := carries.happen _ rfl
  have contact : holds _ (firstContact peer database network horizon settings) := by
    unfold firstContact
    split
    · exact carries.pure _
    · exact carries.pure _
    · refine carries.bind (carries.checkHealth _ _ _) fun checked => ?_
      obtain ⟨result, later⟩ := checked
      unfold made
      cases result with
      | ok _ => exact carries.bind (said _) fun _ => carries.pure _
      | error error => exact carries.pure _
  exact carries.bind (said _) fun _ => carries.bind contact fun _ =>
    carries.bind (carries.happen _ rfl) fun _ => carries.pure _

end Carries

/-- Reaching the database has to do with nothing else. -/
theorem lacks_connect {sort : Occurrence → Bool} (remote : IsRemote sort) :
    (connect peer database network horizon settings).Lacks sort := by
  have carries : Carries fun _ run => run.Lacks sort := by
    refine ⟨.pure, .bind, .wait remote.toIsSilent, fun what ofContact =>
      .happen remote.toIsSilent ?_⟩
    cases what with
    | logged record => exact remote.ignoresRecords record
    | executed statement => exact remote.ignoresStatements statement
    | replied reply => exact remote.ignoresReplies reply
    | spanClosed span => exact remote.ignoresSpans span
    | _ => cases ofContact
  exact carries.connect

/-- Reaching the database keeps time. -/
theorem orderly_connect : (connect peer database network horizon settings).Orderly := by
  have carries : Carries fun _ run => run.Orderly := by
    refine ⟨.pure, .bind, .wait, fun what ofContact => .happen ?_⟩
    rintro change source rfl
    cases ofContact
  exact carries.connect

end Pool

end Database

end EventLedger
