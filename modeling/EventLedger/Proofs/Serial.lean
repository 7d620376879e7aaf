import EventLedger.Proofs.Turns

/-!
# One delivery after another

What a loop does falls into blocks, one for each delivery that it takes: the delivery is taken, its
store is called at most once, it is settled once and measured once, and only then the next one is
taken. A turn of the loop either stops before it takes anything or does one block, so that a run of
any number of turns is a list of blocks by induction on the turns.
-/
namespace EventLedger.Consumer

/-! ## Feeds -/

namespace Feed

/-- The delivery at a place of a queue, if there is one. -/
def handling? (feed : Feed) (kind : EventKind) (place : Nat) : Option Handling :=
  (feed.offer kind place).bind fun offer => offer.item.handling? kind

/-- What comes next is the first item of its queue that has not been taken. -/
theorem offer_of_next? {feed : Feed} {taken : List EventKind} {now : Nat} {kind : EventKind}
    {offer : Offer} (next : feed.next? taken now = some (kind, offer)) :
    feed.offer kind (taken.count kind) = some offer := by
  unfold next? head? at next
  split at next
  · cases next
  · cases next
    assumption
  · cases next
    assumption
  · simp only at next
    split at next
    · cases next
      assumption
    · split at next
      · cases next
        assumption
      · split at next <;> cases next <;> assumption

/-- Nothing comes next only if both queues have nothing more to hand out. -/
theorem offer_of_next?_eq_none {feed : Feed} {taken : List EventKind} {now : Nat}
    (next : feed.next? taken now = none) (kind : EventKind) :
    feed.offer kind (taken.count kind) = none := by
  unfold next? head? at next
  split at next
  · cases kind <;> assumption
  · cases next
  · cases next
  · simp only at next
    split at next
    · cases next
    · split at next
      · cases next
      · split at next <;> cases next

end Feed

/-- The deliveries of a queue. -/
def ofKind (kind : EventKind) (handlings : List Handling) : List Handling :=
  handlings.filter fun handling => handling.delivery.kind = kind

/-- How a loop stands that has dealt with deliveries: the deeds after them, and the result. Only a
store that has ended makes a delivery the last one. -/
inductive Concludes (consumer : Consumer) :
    List Handling → List Occurrence → Option (Except WorkerError Unit) → Prop where
  /-- The loop has not ended. -/
  | pending {handlings : List Handling}
      (mild : ∀ handling ∈ handlings, (handling.outcome consumer).fatalError? = none) :
      Concludes consumer handlings [] none
  /-- The loop has stopped while it waited. -/
  | stopped {handlings : List Handling}
      (mild : ∀ handling ∈ handlings, (handling.outcome consumer).fatalError? = none) :
      Concludes consumer handlings [] (some (.ok ()))
  /-- The deliveries of a queue have failed. -/
  | failed {handlings : List Handling} (kind : EventKind) (reason : String)
      (mild : ∀ handling ∈ handlings, (handling.outcome consumer).fatalError? = none) :
      Concludes consumer handlings [.took kind]
        (some (.error (.consume (consumer.queueName kind) reason)))
  /-- The deliveries of a queue have ended. -/
  | closed {handlings : List Handling} (kind : EventKind)
      (mild : ∀ handling ∈ handlings, (handling.outcome consumer).fatalError? = none) :
      Concludes consumer handlings [.took kind]
        (some (.error (.streamClosed (consumer.queueName kind))))
  /-- The store has ended with the last delivery. -/
  | storeEnded {earlier : List Handling} (last : Handling) (error : StoreError)
      (mild : ∀ handling ∈ earlier, (handling.outcome consumer).fatalError? = none)
      (fatal : (last.outcome consumer).fatalError? = some error) :
      Concludes consumer (earlier ++ [last]) [] (some (.error (.store error)))

/-- A delivery after which the loop goes on can stand before the others. -/
theorem Concludes.cons {consumer : Consumer} {handlings : List Handling}
    {final : List Occurrence} {result : Option (Except WorkerError Unit)} {first : Handling}
    (mild : (first.outcome consumer).fatalError? = none)
    (concludes : Concludes consumer handlings final result) :
    Concludes consumer (first :: handlings) final result := by
  cases concludes with
  | pending others => exact .pending (List.forall_mem_cons.mpr ⟨mild, others⟩)
  | stopped others => exact .stopped (List.forall_mem_cons.mpr ⟨mild, others⟩)
  | failed kind reason others =>
    exact .failed kind reason (List.forall_mem_cons.mpr ⟨mild, others⟩)
  | closed kind others => exact .closed kind (List.forall_mem_cons.mpr ⟨mild, others⟩)
  | storeEnded last error others fatal =>
    exact .storeEnded last error (List.forall_mem_cons.mpr ⟨mild, others⟩) fatal

/-- A run of a loop on a feed deals with deliveries one after another, after some items have been
taken. -/
structure Serves (feed : Feed) (consumer : Consumer) (turns : Nat) (taken : List EventKind)
    (handlings : List Handling) (final : List Occurrence) (run : Run Feed.Progress) : Prop where
  /-- The deeds are the blocks of the deliveries, one after another. -/
  blocks : run.journal.deeds = handlings.flatMap (Handling.block consumer) ++ final
  /-- The deliveries of each queue are those which the queue hands out, in its order. -/
  order : ∀ kind, (ofKind kind handlings).map some =
    (List.range' (taken.count kind) (ofKind kind handlings).length).map (feed.handling? kind)
  /-- How the loop stands after them. -/
  concludes : Concludes consumer handlings final run.value.result
  /-- The loop ends well only if it shall not go on. -/
  stops : run.value.result = some (.ok ()) → run.world.signal ≠ .running
  /-- The loop has not ended only if its turns are over, or if both queues are silent. -/
  pauses : run.value.result = none → handlings.length = turns ∨
    ∀ kind, feed.offer kind (taken.count kind + (ofKind kind handlings).length) = none

/-- The deliveries of a queue when one more is put in front. -/
theorem ofKind_cons (kind : EventKind) (first : Handling) (rest : List Handling) :
    ofKind kind (first :: rest) =
      if first.delivery.kind = kind then first :: ofKind kind rest else ofKind kind rest := by
  simp [ofKind, List.filter_cons]

/-- The next delivery of a queue stands before those that the queue hands out after it. -/
theorem order_cons {feed : Feed} {taken : List EventKind} {first : Handling}
    {rest : List Handling}
    (offered : feed.handling? first.delivery.kind (taken.count first.delivery.kind) = some first)
    (order : ∀ kind, (ofKind kind rest).map some =
      (List.range' ((taken ++ [first.delivery.kind]).count kind) (ofKind kind rest).length).map
        (feed.handling? kind)) (kind : EventKind) :
    (ofKind kind (first :: rest)).map some =
      (List.range' (taken.count kind) (ofKind kind (first :: rest)).length).map
        (feed.handling? kind) := by
  have later := order kind
  rw [List.count_append] at later
  rw [ofKind_cons]
  by_cases same : first.delivery.kind = kind
  · subst same
    rw [if_pos rfl, List.length_cons, List.range'_succ, List.map_cons, List.map_cons, offered]
    rw [List.count_singleton_self] at later
    rw [later]
  · rw [if_neg same]
    have absent : [first.delivery.kind].count kind = 0 := by
      rw [List.count_eq_zero]
      simpa using Ne.symm same
    rwa [absent, Nat.add_zero] at later

/-- A run that takes a delivery and goes on deals with it first. -/
theorem Serves.cons {feed : Feed} {consumer : Consumer} {turns : Nat} {taken : List EventKind}
    {first : Handling} {handlings : List Handling} {final : List Occurrence}
    {later run : Run Feed.Progress}
    (serves : Serves feed consumer turns (taken ++ [first.delivery.kind]) handlings final later)
    (offered : feed.handling? first.delivery.kind (taken.count first.delivery.kind) = some first)
    (mild : (first.outcome consumer).fatalError? = none)
    (deeds : run.journal.deeds = first.block consumer ++ later.journal.deeds)
    (world : run.world = later.world) (value : run.value = later.value) :
    Serves feed consumer (turns + 1) taken (first :: handlings) final run where
  blocks := by
    rw [deeds, serves.blocks, List.flatMap_cons, List.append_assoc]
  order := order_cons offered serves.order
  concludes := by
    rw [value]
    exact serves.concludes.cons mild
  stops := by
    rw [value, world]
    exact serves.stops
  pauses := by
    rw [value]
    intro pending
    obtain all | silent := serves.pauses pending
    · left
      rw [List.length_cons, all]
    · right
      intro kind
      have unoffered := silent kind
      rw [List.count_append] at unoffered
      rw [ofKind_cons, ← unoffered]
      by_cases same : first.delivery.kind = kind
      · subst same
        rw [if_pos rfl, List.length_cons, List.count_singleton_self]
        congr 1
        omega
      · have absent : [first.delivery.kind].count kind = 0 := by
          rw [List.count_eq_zero]
          simpa using Ne.symm same
        rw [if_neg same, absent, Nat.add_zero]

/-- A run that stops before it takes a delivery deals with none. -/
theorem Serves.stopped {feed : Feed} {consumer : Consumer} {turns : Nat} {taken : List EventKind}
    {run : Run Feed.Progress} (deeds : run.journal.deeds = [])
    (signal : run.world.signal ≠ .running) (result : run.value.result = some (.ok ())) :
    Serves feed consumer turns taken [] [] run where
  blocks := deeds
  order := fun _ => rfl
  concludes := by
    rw [result]
    exact .stopped (by simp)
  stops := fun _ => signal
  pauses := by simp [result]

/-- A run that waits before it takes a delivery deals with none. -/
theorem Serves.pending {feed : Feed} {consumer : Consumer} {turns : Nat} {taken : List EventKind}
    {run : Run Feed.Progress} (deeds : run.journal.deeds = [])
    (result : run.value.result = none)
    (pauses : turns = 0 ∨ ∀ kind, feed.offer kind (taken.count kind) = none) :
    Serves feed consumer turns taken [] [] run where
  blocks := deeds
  order := fun _ => rfl
  concludes := by
    rw [result]
    exact .pending (by simp)
  stops := by simp [result]
  pauses := fun _ => pauses.imp Eq.symm id

/-- A run that ends with an error before it takes a delivery deals with none. -/
theorem Serves.failed {feed : Feed} {consumer : Consumer} {turns : Nat} {taken : List EventKind}
    {final : List Occurrence} {error : WorkerError} {run : Run Feed.Progress}
    (deeds : run.journal.deeds = final) (result : run.value.result = some (.error error))
    (concludes : Concludes consumer [] final (some (.error error))) :
    Serves feed consumer turns taken [] final run where
  blocks := deeds
  order := fun _ => rfl
  concludes := by
    rw [result]
    exact concludes
  stops := by simp [result]
  pauses := by simp [result]

/-- A run that ends with a delivery because the store has ended deals with that one. -/
theorem Serves.last {feed : Feed} {consumer : Consumer} {turns : Nat} {taken : List EventKind}
    {handling : Handling} {error : StoreError} {run : Run Feed.Progress}
    (offered : feed.handling? handling.delivery.kind (taken.count handling.delivery.kind) =
      some handling)
    (fatal : (handling.outcome consumer).fatalError? = some error)
    (deeds : run.journal.deeds = handling.block consumer)
    (result : run.value.result = some (.error (.store error))) :
    Serves feed consumer turns taken [handling] [] run where
  blocks := by simp [deeds]
  order := order_cons offered fun _ => rfl
  concludes := by
    have ended : Concludes consumer ([] ++ [handling]) [] (some (.error (.store error))) :=
      .storeEnded handling error (by simp) fatal
    rw [result]
    exact ended
  stops := by simp [result]
  pauses := by simp [result]

/-- A run for which nothing comes next. -/
theorem Feed.run_succ_of_none {feed : Feed} {taken : List EventKind} {world : World}
    (next : feed.next? taken world.now = none) (consumer : Consumer) (turns : Nat) :
    feed.run consumer (turns + 1) taken world =
      let turned := Consumer.turn consumer none world
      match turned.value with
      | .declined => ⟨turned.journal, turned.world, { taken, result := some (.ok ()) }⟩
      | _ => ⟨turned.journal, turned.world, { taken, result := none }⟩ := by
  rw [Feed.run, Sim.world_bind]
  simp only [next, Sim.bind_apply]
  cases (Consumer.turn consumer none world).value <;> simp

/-- A run for which an item comes next. -/
theorem Feed.run_succ_of_some {feed : Feed} {taken : List EventKind} {world : World}
    {kind : EventKind} {offer : Offer} (next : feed.next? taken world.now = some (kind, offer))
    (consumer : Consumer) (turns : Nat) :
    feed.run consumer (turns + 1) taken world =
      let turned := Consumer.turn consumer (some (feed.wake taken world.now kind offer)) world
      match turned.value with
      | .goesOn =>
        let later := feed.run consumer turns (taken ++ [kind]) turned.world
        ⟨turned.journal ++ later.journal, later.world, later.value⟩
      | .ended result =>
        ⟨turned.journal, turned.world, { taken := taken ++ [kind], result := some result }⟩
      | .declined => ⟨turned.journal, turned.world, { taken, result := some (.ok ()) }⟩
      | .stuck => ⟨turned.journal, turned.world, { taken, result := none }⟩ := by
  rw [Feed.run, Sim.world_bind]
  simp only [next, Sim.bind_apply]
  cases (Consumer.turn consumer (some (feed.wake taken world.now kind offer)) world).value <;> simp

/-- An item is a delivery of its queue, or it ends the loop. -/
theorem Item.cases_of_kind (kind : EventKind) (item : Item) :
    (∃ handling, item.handling? kind = some handling ∧ handling.delivery.kind = kind ∧
      item.arrival kind = handling.arrival) ∨
    (∃ reason, item = .failure reason) ∨ item = .closed := by
  cases item with
  | message tag body store settlement => exact .inl ⟨_, rfl, rfl, rfl⟩
  | failure reason => exact .inr (.inl ⟨reason, rfl⟩)
  | closed => exact .inr (.inr rfl)

/-- When nothing comes next, a turn stops or waits. -/
theorem Feed.serves_of_none {feed : Feed} {taken : List EventKind} {world : World}
    (next : feed.next? taken world.now = none) (consumer : Consumer) (turns : Nat) :
    Serves feed consumer (turns + 1) taken [] []
      (feed.run consumer (turns + 1) taken world) := by
  rw [run_succ_of_none next]
  obtain declines | stuck := turn_none_cases isSilent_isDeed consumer world
  · simp only [declines.value]
    exact .stopped declines.only declines.signal rfl
  · simp only [stuck]
    exact .pending rfl rfl (.inr (offer_of_next?_eq_none next))

/-- When an item comes next, a turn stops, or takes a delivery before the turns that follow, or ends
the loop. -/
theorem Feed.serves_of_some {feed : Feed} {taken : List EventKind} {world : World}
    {kind : EventKind} {offer : Offer} (next : feed.next? taken world.now = some (kind, offer))
    {consumer : Consumer} {turns : Nat}
    (follows : ∀ taken world, ∃ handlings final,
      Serves feed consumer turns taken handlings final (feed.run consumer turns taken world)) :
    ∃ handlings final, Serves feed consumer (turns + 1) taken handlings final
      (feed.run consumer (turns + 1) taken world) := by
  have offered := offer_of_next? next
  rw [run_succ_of_some next]
  obtain declines | ⟨begun, value, later, deeds⟩ :=
    turn_some_cases isSilent_isDeed consumer (feed.wake taken world.now kind offer) world
  · refine ⟨[], [], ?_⟩
    simp only [declines.value]
    exact .stopped declines.only declines.signal rfl
  · have arrival : (feed.wake taken world.now kind offer).arrival = offer.item.arrival kind := rfl
    rw [arrival] at value later deeds
    obtain ⟨handling, found, own, arrives⟩ | ⟨reason, failure⟩ | closed :=
      offer.item.cases_of_kind kind
    · subst own
      have here : feed.handling? handling.delivery.kind
          (taken.count handling.delivery.kind) = some handling := by
        rw [handling?, offered]
        exact found
      rw [arrives, take_delivery_value] at value
      rw [arrives] at deeds
      have block := deeds.trans (deeds_take_delivery consumer handling begun)
      cases fatal : (handling.outcome consumer).fatalError? with
      | none =>
        obtain ⟨handlings, final, serves⟩ := follows (taken ++ [handling.delivery.kind])
          (Consumer.turn consumer (some (feed.wake taken world.now _ offer)) world).world
        refine ⟨handling :: handlings, final, ?_⟩
        simp only [value, Handling.turn, fatal]
        refine serves.cons here fatal ?_ rfl rfl
        rw [← block]
        exact Journal.only_append _ _ _
      | some error =>
        refine ⟨[handling], [], ?_⟩
        simp only [value, Handling.turn, fatal]
        exact .last here fatal block rfl
    · rw [failure] at value deeds
      have result : (Consumer.turn consumer (some (feed.wake taken world.now kind offer))
          world).value = .ended (.error (.consume (consumer.queueName kind) reason)) := value
      refine ⟨[], [.took kind], ?_⟩
      simp only [result]
      exact .failed deeds rfl (.failed kind reason (by simp))
    · rw [closed] at value deeds
      have result : (Consumer.turn consumer (some (feed.wake taken world.now kind offer))
          world).value = .ended (.error (.streamClosed (consumer.queueName kind))) := value
      refine ⟨[], [.took kind], ?_⟩
      simp only [result]
      exact .failed deeds rfl (.closed kind (by simp))

/-- Every run of a loop on a feed deals with deliveries one after another. -/
theorem Feed.run_serves (feed : Feed) (consumer : Consumer) (turns : Nat) (taken : List EventKind)
    (world : World) :
    ∃ handlings final,
      Serves feed consumer turns taken handlings final (feed.run consumer turns taken world) := by
  induction turns generalizing taken world with
  | zero => exact ⟨[], [], .pending rfl rfl (.inl rfl)⟩
  | succ turns ih =>
    cases next : feed.next? taken world.now with
    | none => exact ⟨[], [], serves_of_none next consumer turns⟩
    | some choice => exact serves_of_some next ih

/-! ## Moments of a run -/

/-- The delivery that is received, if one is. -/
def receipt? : Occurrence → Option Nat
  | .received _ tag _ => some tag
  | _ => none

/-- A part of a list of blocks is some whole blocks and a part of the next one. -/
theorem prefix_flatMap_append {α β : Type} (block : α → List β) (final : List β) (items : List α)
    {earlier : List β} (before : earlier <+: items.flatMap block ++ final) :
    ∃ whole part, whole <+: items ∧ earlier = whole.flatMap block ++ part ∧
      (whole = items ∧ part <+: final ∨
        ∃ item, whole ++ [item] <+: items ∧ part <+: block item) := by
  induction items generalizing earlier with
  | nil => exact ⟨[], earlier, List.prefix_refl _, rfl, .inl ⟨rfl, before⟩⟩
  | cons item rest ih =>
    obtain ⟨later, split⟩ := before
    rw [List.flatMap_cons, List.append_assoc, List.append_eq_append_iff] at split
    obtain ⟨missing, block_eq, _⟩ | ⟨others, earlier_eq, others_eq⟩ := split
    · exact ⟨[], earlier, List.nil_prefix, rfl,
        .inr ⟨item, ⟨rest, rfl⟩, ⟨missing, block_eq.symm⟩⟩⟩
    · obtain ⟨whole, part, among, rfl, last⟩ := ih ⟨later, others_eq.symm⟩
      refine ⟨item :: whole, part, List.cons_prefix_cons.mpr ⟨rfl, among⟩, ?_, ?_⟩
      · rw [earlier_eq, List.flatMap_cons, List.append_assoc]
      · obtain ⟨all, ended⟩ | ⟨next, following, begun⟩ := last
        · exact .inl ⟨by rw [all], ended⟩
        · exact .inr ⟨next, List.cons_prefix_cons.mpr ⟨rfl, following⟩, begun⟩

/-- The deliveries that have been received have been settled, in the same order, but for the last
one at most. -/
structure SettlesInTurn (deeds : List Occurrence) : Prop where
  /-- The first ones have been settled. -/
  order : (deeds.filterMap Journal.settlement?).map Prod.fst <+: deeds.filterMap receipt?
  /-- At most one has not. -/
  few : (deeds.filterMap receipt?).length ≤ (deeds.filterMap Journal.settlement?).length + 1

namespace Handling

/-- In a block as far as it has come, one delivery at most is not settled. -/
theorem settlesInTurn_of_prefix_block {consumer : Consumer} {handling : Handling}
    {part : List Occurrence} (begun : part <+: handling.block consumer) : SettlesInTurn part := by
  unfold block deeds storeCall at begun
  split at begun <;>
    simp only [List.nil_append, List.cons_append, List.prefix_cons_iff, List.prefix_nil] at begun
  · obtain rfl | ⟨_, rfl, rfl | ⟨_, rfl, rfl | ⟨_, rfl, rfl | ⟨_, rfl, rfl⟩⟩⟩⟩ := begun <;>
      constructor <;> simp [List.filterMap_cons, receipt?, Journal.settlement?]
  · obtain rfl | ⟨_, rfl, rfl | ⟨_, rfl, rfl | ⟨_, rfl, rfl | ⟨_, rfl, rfl | ⟨_, rfl, rfl⟩⟩⟩⟩⟩ :=
      begun <;> constructor <;> simp [List.filterMap_cons, receipt?, Journal.settlement?]

/-- Whole blocks receive and settle the same deliveries. -/
theorem receipts_blocks (consumer : Consumer) (handlings : List Handling) :
    (handlings.flatMap (block consumer)).filterMap receipt? =
      ((handlings.flatMap (block consumer)).filterMap Journal.settlement?).map Prod.fst := by
  induction handlings with
  | nil => rfl
  | cons first rest ih =>
    simp only [List.flatMap_cons, List.filterMap_append, List.map_append, ih]
    congr 1
    unfold block deeds storeCall
    split <;> rfl

/-- Whole blocks settle each delivery once, in order. -/
theorem settlements_blocks (consumer : Consumer) (handlings : List Handling) :
    (handlings.flatMap (block consumer)).filterMap Journal.settlement? =
      handlings.map fun handling =>
        (handling.delivery.tag, (handling.outcome consumer).decision) := by
  induction handlings with
  | nil => rfl
  | cons first rest ih =>
    rw [List.flatMap_cons, List.filterMap_append, ih, List.map_cons, ← List.singleton_append]
    congr 1
    exact settlements_deeds consumer first

end Handling

/-- After deliveries that have all been settled, one more may be waiting for its settlement. -/
theorem SettlesInTurn.after {whole part : List Occurrence}
    (settled : whole.filterMap receipt? = (whole.filterMap Journal.settlement?).map Prod.fst)
    (settles : SettlesInTurn part) : SettlesInTurn (whole ++ part) where
  order := by
    rw [List.filterMap_append, List.filterMap_append, List.map_append, settled]
    exact (List.prefix_append_right_inj _).mpr settles.order
  few := by
    have same := congrArg List.length settled
    have few := settles.few
    rw [List.length_map] at same
    rw [List.filterMap_append, List.filterMap_append, List.length_append, List.length_append]
    omega

/-- After whole blocks, one more delivery may be waiting for its settlement. -/
theorem SettlesInTurn.after_blocks {consumer : Consumer} (whole : List Handling)
    {part : List Occurrence} (settles : SettlesInTurn part) :
    SettlesInTurn (whole.flatMap (Handling.block consumer) ++ part) :=
  settles.after (Handling.receipts_blocks consumer whole)

/-- What is left over at the end of a run settles nothing. -/
theorem Concludes.final_eq {consumer : Consumer} {handlings : List Handling}
    {final : List Occurrence} {result : Option (Except WorkerError Unit)}
    (concludes : Concludes consumer handlings final result) :
    final = [] ∨ ∃ kind, final = [.took kind] := by
  cases concludes with
  | pending _ | stopped _ | storeEnded _ _ _ _ => exact .inl rfl
  | failed kind _ _ | closed kind _ => exact .inr ⟨kind, rfl⟩

/-- After the blocks, nothing is received or settled. -/
theorem settlesInTurn_of_prefix_final {final part : List Occurrence}
    (final_eq : final = [] ∨ ∃ kind, final = [.took kind]) (ended : part <+: final) :
    SettlesInTurn part := by
  obtain rfl | ⟨kind, rfl⟩ := final_eq
  · rw [List.prefix_nil.mp ended]
    constructor <;> simp
  · obtain rfl | ⟨_, rfl, rest⟩ := List.prefix_cons_iff.mp ended
    · constructor <;> simp
    · rw [List.prefix_nil.mp rest]
      constructor <;> simp [List.filterMap_cons, receipt?, Journal.settlement?]

/-! ## Runs of the loop -/

/-- A run on a feed is the run on the arrivals that the feed brings about, as far as it goes. -/
structure Follows (consumer : Consumer) (wakes : List Wake) (world : World)
    (run : Run Feed.Progress) : Prop where
  /-- What happens is the beginning of what happens then. -/
  journal : run.journal <+: (loop consumer wakes world).journal
  /-- If it has ended, it is all that happens then. -/
  ended : ∀ result, run.value.result = some result →
    (loop consumer wakes world).journal = run.journal ∧
      (loop consumer wakes world).value.result = result

/-- A run follows a run on arrivals, and if it has ended it leaves the world as that one does. -/
structure Ensues (consumer : Consumer) (wakes : List Wake) (world : World)
    (run : Run Feed.Progress) : Prop extends Follows consumer wakes world run where
  /-- The world is the same. -/
  after : ∀ result, run.value.result = some result → (loop consumer wakes world).world = run.world

/-- A loop on a feed is a loop on arrivals. -/
theorem Feed.run_ensues (feed : Feed) (consumer : Consumer) (turns : Nat)
    (taken : List EventKind) (world : World) :
    ∃ wakes, Ensues consumer wakes world (feed.run consumer turns taken world) := by
  induction turns generalizing taken world with
  | zero => exact ⟨[], ⟨List.nil_prefix, nofun⟩, nofun⟩
  | succ turns ih =>
    cases next : feed.next? taken world.now with
    | none =>
      rw [run_succ_of_none next]
      cases comes : world.signalTime? with
      | none =>
        rw [turn_none_of_signalTime?_eq_none consumer comes]
        exact ⟨[], ⟨List.nil_prefix, nofun⟩, nofun⟩
      | some time =>
        let wake : Wake := ⟨time - world.now, .signal, .closed .usage⟩
        rw [turn_none_eq_turn_some consumer (.closed .usage) comes]
        refine ⟨[wake], ?_⟩
        cases turned : (Consumer.turn consumer (some wake) world).value <;>
          refine ⟨⟨?_, ?_⟩, ?_⟩ <;> simp [wake, loop_cons, turned]
    | some choice =>
      obtain ⟨kind, offer⟩ := choice
      rw [run_succ_of_some next]
      let wake := feed.wake taken world.now kind offer
      cases turned : (Consumer.turn consumer (some wake) world).value with
      | goesOn =>
        obtain ⟨wakes, ensues⟩ :=
          ih (taken ++ [kind]) (Consumer.turn consumer (some wake) world).world
        refine ⟨wake :: wakes, ⟨?_, ?_⟩, ?_⟩
        · simpa only [wake, loop_cons, turned, List.prefix_append_right_inj] using ensues.journal
        · simpa [wake, loop_cons, turned] using ensues.ended
        · simpa [wake, loop_cons, turned] using ensues.after
      | ended _ | declined | stuck =>
        refine ⟨[wake], ⟨?_, ?_⟩, ?_⟩ <;> simp [wake, loop_cons, turned]

/-- A run of the loop is a waking after another. -/
theorem Feed.run_follows (feed : Feed) (consumer : Consumer) (turns : Nat)
    (taken : List EventKind) (world : World) :
    ∃ wakes, Follows consumer wakes world (feed.run consumer turns taken world) := by
  obtain ⟨wakes, ensues⟩ := feed.run_ensues consumer turns taken world
  exact ⟨wakes, ensues.toFollows⟩

/-- A run of a loop deals with one delivery after another: its deeds are whole blocks, of which at
any moment the last one may be unfinished, and each delivery is settled once, in its queue's
order. -/
theorem run_isSerial (feed : Feed) (consumer : Consumer) (turns : Nat) (world : World) :
    let run := feed.run consumer turns [] world
    ∃ handlings final,
      Serves feed consumer turns [] handlings final run ∧
      run.journal.settlements = handlings.map (fun handling =>
        (handling.delivery.tag, (handling.outcome consumer).decision)) ∧
      (∀ earlier : Journal, earlier <+: run.journal →
        SettlesInTurn earlier.deeds ∧
        ∃ whole part, whole <+: handlings ∧
          earlier.deeds = whole.flatMap (Handling.block consumer) ++ part ∧
          (whole = handlings ∧ part <+: final ∨
            ∃ handling, whole ++ [handling] <+: handlings ∧
              part <+: handling.block consumer)) ∧
      ∃ wakes, Follows consumer wakes world run := by
  intro run
  obtain ⟨handlings, final, serves⟩ := feed.run_serves consumer turns [] world
  have final_eq := serves.concludes.final_eq
  refine ⟨handlings, final, serves, ?_, ?_, feed.run_follows consumer turns [] world⟩
  · have unsettled : final.filterMap Journal.settlement? = [] := by
      obtain rfl | ⟨kind, rfl⟩ := final_eq <;> rfl
    rw [Journal.settlements_eq, serves.blocks, List.filterMap_append,
      Handling.settlements_blocks, unsettled, List.append_nil]
  · intro earlier before
    have deeds : earlier.deeds <+: handlings.flatMap (Handling.block consumer) ++ final := by
      rw [← serves.blocks]
      exact (before.map _).filter _
    obtain ⟨whole, part, among, deeds_eq, last⟩ :=
      prefix_flatMap_append (Handling.block consumer) final handlings deeds
    refine ⟨?_, whole, part, among, deeds_eq, last⟩
    rw [deeds_eq]
    apply SettlesInTurn.after_blocks
    obtain ⟨_, ended⟩ | ⟨handling, _, begun⟩ := last
    · exact settlesInTurn_of_prefix_final final_eq ended
    · exact Handling.settlesInTurn_of_prefix_block begun

end EventLedger.Consumer
