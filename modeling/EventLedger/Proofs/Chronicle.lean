import EventLedger.Proofs.Counting
import EventLedger.Proofs.Stopping
import Mathlib.Data.List.Basic

/-!
# What a journal tells of each item

The journal of a loop, without what is said about the signal, is one part after another, a part for
each item that was taken, and at last the notice that the loop stops. The part of an item is a
function of the item alone. What a queue is told, what is logged about its messages and how long
they took can be found in the parts of its items.
-/
namespace EventLedger

/-- Whether the wish to go on changes. -/
def Occurrence.isChange : Occurrence → Bool
  | .signalled _ _ => true
  | _ => false

/-- Whether it is something else than a change of the wish to go on. -/
def Occurrence.isNote (what : Occurrence) : Bool := !what.isChange

/-- Whether it tells how far the loop has come with an item. -/
def Occurrence.isFrame : Occurrence → Bool
  | .took _ | .received _ _ _ | .measured _ _ _ => true
  | _ => false

/-- Whether it can happen between the receipt of a delivery and its measurement. -/
def Occurrence.isWithin : Occurrence → Bool
  | .took _ | .received _ _ _ | .measured _ _ _ | .signalled _ _ => false
  | _ => true

/-- Signals are no notes. -/
theorem isNote_ignoresSignals : Sim.IgnoresSignals Occurrence.isNote := fun _ _ => rfl

/-- What happens during the handling of a delivery is noted. -/
theorem Occurrence.isNote_of_isWithin {what : Occurrence} (within : what.isWithin = true) :
    what.isNote = true := by
  cases what <;> first | rfl | cases within

/-- It does not frame the handling. -/
theorem Occurrence.isFrame_of_isWithin {what : Occurrence} (within : what.isWithin = true) :
    what.isFrame = false := by
  cases what <;> first | rfl | cases within

namespace Journal

/-- The record that is logged, if one is. -/
def record? : Occurrence → Option Log.Record
  | .logged record => some record
  | _ => none

/-- What happens with the deliveries of a queue, with each from its receipt to its measurement.
`inside` tells whether one of them is being dealt with at the beginning. -/
def share (kind : EventKind) (inside : Bool) : List Occurrence → List Occurrence
  | [] => []
  | .received other tag body :: rest =>
    if other = kind then .received other tag body :: share kind true rest
    else share kind false rest
  | .measured queue decision millis :: rest =>
    if inside then .measured queue decision millis :: share kind false rest
    else share kind false rest
  | what :: rest => if inside then what :: share kind inside rest else share kind inside rest

/-- What happened with the deliveries of a queue, leaving out what is said about the signal. -/
def ofQueue (kind : EventKind) (journal : Journal) : List Occurrence :=
  share kind false (journal.only Occurrence.isNote)

/-- What a queue was told, with the tags of its deliveries. -/
def settlementsOf (kind : EventKind) (journal : Journal) : List (Nat × Decision) :=
  (journal.ofQueue kind).filterMap settlement?

/-- What was logged while the deliveries of a queue were dealt with. -/
def recordsOf (kind : EventKind) (journal : Journal) : List Log.Record :=
  (journal.ofQueue kind).filterMap record?

/-- The queue from which something is taken, if something is. -/
def taking? : Occurrence → Option EventKind
  | .took kind => some kind
  | _ => none

/-- The queues from which something was taken, in order. -/
def takings (journal : Journal) : List EventKind :=
  journal.filterMap fun entry => taking? entry.what

/-- The takings of one journal come before those of a later one. -/
@[simp]
theorem takings_append (first second : Journal) :
    takings (first ++ second) = first.takings ++ second.takings :=
  List.filterMap_append

/-- What neither begins nor ends the share of a queue is in it, or not, as a whole. -/
theorem share_within_append {part : List Occurrence} (within : ∀ what ∈ part, what.isWithin = true)
    (kind : EventKind) (inside : Bool) (rest : List Occurrence) :
    share kind inside (part ++ rest) =
      (if inside then part else []) ++ share kind inside rest := by
  induction part with
  | nil => cases inside <;> rfl
  | cons what more ih =>
    have first := within what List.mem_cons_self
    have others := ih fun what listed => within what (List.mem_cons_of_mem _ listed)
    rw [List.cons_append]
    cases what <;> first
      | (simp only [share, others]; cases inside <;> rfl)
      | cases first

end Journal

namespace Consumer

/-! ## Parts -/

/-- What is logged when a loop stops. -/
def stopRecord : Log.Record :=
  { level := .info, target := logTarget, message := "worker 消费者停止", fields := [], span := none }

/-- What is noted when a loop has come to a result. -/
def farewell : Option (Except WorkerError Unit) → List Occurrence
  | some (.ok ()) => [.logged stopRecord]
  | _ => []

/-- A farewell is no frame. -/
theorem isWithin_farewell (result : Option (Except WorkerError Unit)) :
    ∀ what ∈ farewell result, what.isWithin = true := by
  unfold farewell
  split <;> simp [Occurrence.isWithin]

namespace Handling

/-- What happens with a delivery between its receipt and its measurement. -/
def middle (consumer : Consumer) (handling : Handling) : List Occurrence :=
  handling.storing consumer ++
    [.logged (outcomeRecord consumer handling.delivery.kind (handling.outcome consumer)),
      .settled handling.delivery.tag (handling.outcome consumer).decision] ++
    handling.complaint consumer

/-- A delivery is received at first and measured at last. -/
theorem occurrences_eq (consumer : Consumer) (handling : Handling) :
    handling.occurrences consumer =
      .received handling.delivery.kind handling.delivery.tag handling.delivery.body ::
        (handling.middle consumer ++ [.measured (consumer.queueName handling.delivery.kind)
          (handling.outcome consumer).decision (handling.millis consumer)]) := by
  simp [occurrences, middle]

/-- Between them no other delivery is received or measured. -/
theorem isWithin_middle (consumer : Consumer) (handling : Handling) :
    ∀ what ∈ handling.middle consumer, what.isWithin = true := by
  have deeds : ∀ deed : StoreDeed, deed.occurrence.isWithin = true := by
    rintro ((_ | _) | _ | _) <;> rfl
  have noticed : ∀ response : StoreResponse, ∀ what ∈ response.answerNoticed consumer.timeLimit,
      what.isWithin = true := by
    intro response
    unfold StoreResponse.answerNoticed
    split
    · simp
    · split <;> simp [Occurrence.isWithin]
  have storing : ∀ what ∈ handling.storing consumer, what.isWithin = true := by
    unfold storing
    split
    · simp
    · simp only [StoreResponse.occurrences, List.forall_mem_append, List.forall_mem_map]
      exact ⟨⟨⟨by simp [Occurrence.isWithin], fun deed _ => deeds deed⟩, noticed _⟩,
        fun deed _ => deeds deed⟩
  have complaint : ∀ what ∈ handling.complaint consumer, what.isWithin = true := by
    unfold complaint
    split <;> simp [Occurrence.isWithin]
  simp only [middle, List.forall_mem_append]
  exact ⟨⟨storing, by simp [Occurrence.isWithin]⟩, complaint⟩

/-- All that happens with a delivery is in the share of its queue. -/
theorem share_occurrences_append (consumer : Consumer) (handling : Handling) (kind : EventKind)
    (inside : Bool) (rest : List Occurrence) :
    Journal.share kind inside (handling.occurrences consumer ++ rest) =
      (if handling.delivery.kind = kind then handling.occurrences consumer else []) ++
        Journal.share kind false rest := by
  rw [occurrences_eq]
  simp only [List.cons_append, List.append_assoc, List.nil_append, Journal.share]
  rw [Journal.share_within_append (isWithin_middle consumer handling),
    Journal.share_within_append (isWithin_middle consumer handling)]
  split <;> simp [Journal.share]

end Handling

namespace Serving

/-- What happens with an item after it has been taken. -/
def doings (consumer : Consumer) (serving : Serving) : List Occurrence :=
  match serving.handling? with
  | some handling => handling.occurrences consumer
  | none => []

/-- The part of an item: it is taken, and dealt with. -/
def notes (consumer : Consumer) (serving : Serving) : List Occurrence :=
  .took serving.kind :: serving.doings consumer

/-- What tells how far the loop has come with an item. -/
def frame (consumer : Consumer) (serving : Serving) : List Occurrence :=
  .took serving.kind ::
    match serving.handling? with
    | some handling =>
      [.received handling.delivery.kind handling.delivery.tag handling.delivery.body,
        .measured (consumer.queueName handling.delivery.kind) (handling.outcome consumer).decision
          (handling.millis consumer)]
    | none => []

/-- The measurement of an item, if it is a message. -/
def measurement? (consumer : Consumer) (serving : Serving) : Option Measurement :=
  serving.handling?.map fun handling =>
    { queue := consumer.queueName serving.kind, decision := (handling.outcome consumer).decision,
      millis := handling.millis consumer }

variable (consumer : Consumer)

/-- The message is a delivery of the queue from which it is taken. -/
theorem kind_of_handling? {serving : Serving} {handling : Handling}
    (message : serving.handling? = some handling) : handling.delivery.kind = serving.kind := by
  obtain ⟨kind, item⟩ := serving
  cases item with
  | message tag body store settlement =>
    obtain rfl := Option.some.inj message
    rfl
  | failure reason => cases message
  | closed => cases message

/-- Nothing in the part of an item is a change of the wish to go on. -/
theorem isNote_notes (serving : Serving) :
    ∀ what ∈ serving.notes consumer, what.isNote = true := by
  unfold notes doings
  cases serving.handling? with
  | none => simp [Occurrence.isNote, Occurrence.isChange]
  | some handling =>
    simp only [Handling.occurrences_eq, List.forall_mem_cons, List.forall_mem_append]
    exact ⟨rfl, rfl, fun what among =>
      Occurrence.isNote_of_isWithin (handling.isWithin_middle consumer what among), rfl, by simp⟩

/-- The part of an item is in the share of its queue, but for the taking of it. -/
theorem share_notes_append (serving : Serving) (kind : EventKind) (rest : List Occurrence) :
    Journal.share kind false (serving.notes consumer ++ rest) =
      (if serving.kind = kind then serving.doings consumer else []) ++
        Journal.share kind false rest := by
  unfold notes doings
  cases message : serving.handling? with
  | none => simp [Journal.share]
  | some handling =>
    have own := kind_of_handling? message
    simp only [List.cons_append, Journal.share, Bool.false_eq_true, ↓reduceIte,
      Handling.share_occurrences_append, own]

/-- A view that looks only at how far the loop has come sees the frame of an item. -/
theorem filterMap_notes {α : Type} {view : Occurrence → Option α}
    (blind : ∀ what, what.isFrame = false → view what = none) (serving : Serving) :
    (serving.notes consumer).filterMap view = (serving.frame consumer).filterMap view := by
  unfold notes doings frame
  cases serving.handling? with
  | none => rfl
  | some handling =>
    have within : (handling.middle consumer).filterMap view = [] :=
      List.filterMap_eq_nil_iff.mpr fun what among =>
        blind what (Occurrence.isFrame_of_isWithin (handling.isWithin_middle consumer what among))
    simp only [Handling.occurrences_eq, List.filterMap_cons, List.filterMap_append, within,
      List.nil_append]

/-- A message is measured once, for its queue. -/
theorem measurements_frame (serving : Serving) :
    (serving.frame consumer).filterMap Occurrence.measurement? =
      (serving.measurement? consumer).toList := by
  unfold frame measurement?
  cases message : serving.handling? with
  | none => rfl
  | some handling =>
    simp only [kind_of_handling? message]
    rfl

/-- An item is taken once, from its queue. -/
theorem takings_frame (serving : Serving) :
    (serving.frame consumer).filterMap Journal.taking? = [serving.kind] := by
  unfold frame
  cases serving.handling? <;> rfl

end Serving

/-- What happens when an item is taken. -/
theorem only_take {keep : Occurrence → Bool} (ignores : Sim.IgnoresSignals keep)
    (consumer : Consumer) (serving : Serving) (world : World) :
    (take consumer (serving.item.arrival serving.kind) world).journal.only keep =
      (serving.notes consumer).filter keep := by
  obtain ⟨kind, item⟩ := serving
  cases item with
  | message tag body store settlement =>
    exact only_take_delivery ignores consumer { delivery := ⟨kind, tag, body⟩, store, settlement }
      world
  | failure reason => simp [take, Sim.only_happen ignores, Serving.notes, Serving.doings,
      Serving.handling?, Item.handling?, Item.arrival]
  | closed => simp [take, Sim.only_happen ignores, Serving.notes, Serving.doings,
      Serving.handling?, Item.handling?, Item.arrival]

/-- What happens when the loop declines. -/
theorem notes_decline (world : World) :
    (decline world).journal.only Occurrence.isNote = [.logged stopRecord] := by
  rw [decline, Sim.bind_pure_apply]
  exact Sim.only_happen isNote_ignoresSignals _ _

/-! ## Runs -/

/-- The journal of a run tells of the items that it takes, after others have been taken. -/
structure Recounts (feed : Feed) (consumer : Consumer) (taken : List EventKind)
    (servings : List Serving) (run : Run Feed.Progress) : Prop where
  /-- The feed hands the items out. -/
  handed : feed.HandsOut taken servings
  /-- The journal is their parts, and the notice that the loop stops, if it does. -/
  notes : run.journal.only Occurrence.isNote =
    servings.flatMap (Serving.notes consumer) ++ farewell run.value.result

/-- Nothing is noted while an item is waited for. -/
theorem only_isNote_waited_append {waited : Journal} {world begun : World}
    (waits : Waits world waited begun) (consumer : Consumer) (serving : Serving) :
    Journal.only Occurrence.isNote
        (waited ++ (take consumer (serving.item.arrival serving.kind) begun).journal) =
      serving.notes consumer := by
  rw [Journal.only_append, waits.quiet.only isNote_ignoresSignals, List.nil_append,
    only_take isNote_ignoresSignals, List.filter_eq_self]
  exact serving.isNote_notes consumer

namespace Recounts

variable {feed : Feed} {consumer : Consumer} {taken : List EventKind} {world begun : World}
  {waited : Journal}

/-- A run that declines says so. -/
theorem declined (waits : Waits world waited begun) :
    Recounts feed consumer taken [] ⟨waited ++ (decline begun).journal, (decline begun).world,
      { taken, result := some (.ok ()) }⟩ where
  handed := .nil
  notes := by
    rw [Journal.only_append, waits.quiet.only isNote_ignoresSignals, notes_decline]
    rfl

variable {kind : EventKind} {offer : Offer}
  (waits : Waits world waited begun) (offered : feed.offer kind (taken.count kind) = some offer)
include waits offered

/-- A run that ends with an item tells of that one. -/
theorem last {error : WorkerError} :
    Recounts feed consumer taken [⟨kind, offer.item⟩]
      ⟨waited ++ (take consumer (offer.item.arrival kind) begun).journal,
        (take consumer (offer.item.arrival kind) begun).world,
        { taken := taken ++ [kind], result := some (.error error) }⟩ where
  handed := .cons offered .nil
  notes := by
    rw [only_isNote_waited_append waits consumer ⟨kind, offer.item⟩]
    simp [farewell]

/-- A run that deals with an item and goes on tells of that one first. -/
theorem cons {servings : List Serving} {later : Run Feed.Progress}
    (recounts : Recounts feed consumer (taken ++ [kind]) servings later) :
    Recounts feed consumer taken (⟨kind, offer.item⟩ :: servings)
      ⟨waited ++ (take consumer (offer.item.arrival kind) begun).journal ++ later.journal,
        later.world, later.value⟩ where
  handed := .cons offered recounts.handed
  notes := by
    rw [Journal.only_append, only_isNote_waited_append waits consumer ⟨kind, offer.item⟩,
      recounts.notes, List.flatMap_cons, List.append_assoc]

end Recounts

/-- The journal of every run tells of what it takes. -/
theorem Feed.run_recounts (feed : Feed) (consumer : Consumer) (turns : Nat)
    (taken : List EventKind) (world : World) :
    ∃ servings, Recounts feed consumer taken servings (feed.run consumer turns taken world) := by
  induction turns generalizing taken world with
  | zero => exact ⟨[], .nil, rfl⟩
  | succ turns ih =>
    generalize feed.run consumer (turns + 1) taken world = run,
      feed.steps_run consumer turns taken world = steps
    cases steps with
    | declined waits halted => exact ⟨[], .declined waits⟩
    | stuck never => exact ⟨[], .nil, rfl⟩
    | ended waits offered failure => exact ⟨_, .last waits offered⟩
    | wentOn waits offered mild follows =>
      subst follows
      obtain ⟨servings, recounts⟩ := ih _ _
      exact ⟨_, .cons waits offered recounts⟩

/-! ## Views of a run -/

/-- The items of a queue. -/
def fromQueue (kind : EventKind) (servings : List Serving) : List Serving :=
  servings.filter fun serving => serving.kind = kind

/-- An item of a queue is what the queue hands out at its place. -/
theorem Feed.HandsOut.offer_of_getElem? {feed : Feed} {taken : List EventKind}
    {servings : List Serving} (handed : feed.HandsOut taken servings) {kind : EventKind}
    {place : Nat} {serving : Serving} (found : (fromQueue kind servings)[place]? = some serving) :
    ∃ offer, feed.offer kind (taken.count kind + place) = some offer ∧
      serving = ⟨kind, offer.item⟩ := by
  induction handed generalizing place with
  | nil => cases found
  | @cons taken own offer rest offered later ih =>
    rw [List.count_append] at ih
    rw [fromQueue, List.filter_cons] at found
    by_cases same : own = kind
    · subst same
      rw [List.count_singleton_self] at ih
      rw [if_pos (by simp)] at found
      cases place with
      | zero => exact ⟨offer, offered, (Option.some.inj found).symm⟩
      | succ place =>
        obtain ⟨next, offeredNext, rfl⟩ := ih found
        have place_eq : taken.count own + 1 + place = taken.count own + (place + 1) := by omega
        exact ⟨next, place_eq ▸ offeredNext, rfl⟩
    · have absent : [own].count kind = 0 := by simpa [List.count_singleton] using same
      rw [absent, Nat.add_zero] at ih
      rw [if_neg (by simpa using same)] at found
      exact ih found

/-- The shares of the queues are the parts of their items. -/
theorem share_flatMap_notes (consumer : Consumer) (kind : EventKind) (servings : List Serving)
    {rest : List Occurrence} (within : ∀ what ∈ rest, what.isWithin = true) :
    Journal.share kind false (servings.flatMap (Serving.notes consumer) ++ rest) =
      (fromQueue kind servings).flatMap (Serving.doings consumer) := by
  induction servings with
  | nil =>
    have := Journal.share_within_append within kind false []
    simpa [fromQueue, Journal.share] using this
  | cons serving more ih =>
    rw [List.flatMap_cons, List.append_assoc, Serving.share_notes_append, ih, fromQueue, fromQueue,
      List.filter_cons]
    by_cases own : serving.kind = kind <;> simp [own]

namespace Recounts

variable {feed : Feed} {consumer : Consumer} {taken : List EventKind} {servings : List Serving}
  {run : Run Feed.Progress}

/-- What happens with the deliveries of a queue is what happens with its items. -/
theorem ofQueue_eq (recounts : Recounts feed consumer taken servings run) (kind : EventKind) :
    run.journal.ofQueue kind = (fromQueue kind servings).flatMap (Serving.doings consumer) := by
  rw [Journal.ofQueue, recounts.notes]
  exact share_flatMap_notes consumer kind servings (isWithin_farewell _)

/-- A view that looks only at how far the loop has come sees the frames of the items. -/
theorem filterMap_eq {α : Type} {view : Occurrence → Option α}
    (recounts : Recounts feed consumer taken servings run)
    (blind : ∀ what, what.isFrame = false → view what = none) :
    run.journal.filterMap (fun entry => view entry.what) =
      servings.flatMap fun serving => (serving.frame consumer).filterMap view := by
  have changes : ∀ what : Occurrence, what.isNote = false → view what = none := by
    intro what change
    refine blind what ?_
    cases what <;> first | rfl | cases change
  have parting : (farewell run.value.result).filterMap view = [] :=
    List.filterMap_eq_nil_iff.mpr fun what among =>
      blind what (Occurrence.isFrame_of_isWithin (isWithin_farewell _ what among))
  rw [Journal.filterMap_only changes, recounts.notes, List.filterMap_append, parting,
    List.append_nil, List.filterMap_flatMap]
  simp only [Serving.filterMap_notes consumer blind]

/-- Items are taken one after another. -/
theorem takings_eq (recounts : Recounts feed consumer taken servings run) :
    run.journal.takings = servings.map Serving.kind := by
  have blind : ∀ what : Occurrence, what.isFrame = false → Journal.taking? what = none := by
    intro what other
    cases what <;> first | rfl | cases other
  rw [Journal.takings, recounts.filterMap_eq blind]
  simp only [Serving.takings_frame]
  exact List.map_eq_flatMap.symm

/-- As many items are taken from a queue as it hands out. -/
theorem count_takings (recounts : Recounts feed consumer taken servings run) (kind : EventKind) :
    run.journal.takings.count kind = (fromQueue kind servings).length := by
  rw [recounts.takings_eq, List.count_eq_countP, List.countP_map, List.countP_eq_length_filter,
    fromQueue]
  congr 2

/-- Messages are measured one after another. -/
theorem measurements_eq (recounts : Recounts feed consumer taken servings run) :
    run.journal.measurements = servings.filterMap (Serving.measurement? consumer) := by
  have blind : ∀ what : Occurrence, what.isFrame = false → what.measurement? = none := by
    intro what other
    cases what <;> first | rfl | cases other
  rw [Journal.measurements, recounts.filterMap_eq blind, List.filterMap_eq_flatMap_toList]
  simp only [Serving.measurements_frame]

end Recounts

end Consumer

end EventLedger
