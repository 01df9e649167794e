import Mathlib.Data.List.Nodup
import Mathlib.Data.List.Pairwise

/-!
# A server that takes tickets from a queue

Tickets are put at the end of a queue and taken from its front.  A taken
ticket is answered at once, or it is served first and answered when the
service ends.  Some tickets are awaited by the caller that put them, and a
ticket has at most one answer.

A service is sound when nothing that is awaited has been lost: every awaited
ticket has its one answer, still waits or is being served, and the services
began in the order in which the tickets were put.  Each operation keeps a
service sound; the two that abandon tickets do so exactly when all the
abandoned tickets already have their answer.
-/

namespace TurningGood.Foundation

universe u v

/-- What a service reads of a ticket. -/
class Ticket (Item : Type u) where
  /-- the position in the order of the puts -/
  serial : Item → Nat
  /-- whether somebody waits for the answer -/
  awaited : Item → Bool

/-- The queue, the ticket being served, and the history of a service. -/
structure FifoService (Item : Type u) (Answer : Type v) where
  waiting : List Item
  inService : Option Item
  issued : List Item
  begun : List Nat
  answers : List (Nat × Answer)

namespace FifoService

open Ticket

variable {Item : Type u} {Answer : Type v} [Ticket Item]

/-- The ticket with this serial has its answer. -/
def Answered (service : FifoService Item Answer) (serial : Nat) : Prop :=
  serial ∈ service.answers.map Prod.fst

instance (service : FifoService Item Answer) (serial : Nat) :
    Decidable (service.Answered serial) :=
  inferInstanceAs (Decidable (_ ∈ _))

/-- Nobody waits in vain for this ticket. -/
def Settled (service : FifoService Item Answer) (item : Item) : Prop :=
  awaited item = true → service.Answered (serial item)

/-! ## Operations -/

/-- Put a new ticket at the end of the queue. -/
def put (service : FifoService Item Answer) (item : Item) :
    FifoService Item Answer :=
  { service with
    waiting := service.waiting ++ [item]
    issued := service.issued ++ [item] }

/-- Answer a ticket that is awaited and has no answer yet. -/
def answer (service : FifoService Item Answer) (item : Item)
    (reply : Answer) : FifoService Item Answer :=
  if awaited item = true ∧ ¬ service.Answered (serial item) then
    { service with
      answers := service.answers ++ [(serial item, reply)] }
  else
    service

/-- Take the front ticket, leaving `rest`, and answer it. -/
def answerFront (service : FifoService Item Answer) (item : Item)
    (rest : List Item) (reply : Answer) : FifoService Item Answer :=
  { service with waiting := rest }.answer item reply

/-- Take the front ticket, leaving `rest`, and begin to serve it. -/
def beginFront (service : FifoService Item Answer) (item : Item)
    (rest : List Item) : FifoService Item Answer :=
  { service with
    waiting := rest
    inService := some item
    begun := service.begun ++ [serial item] }

/-- The service of a ticket ends with an answer. -/
def endService (service : FifoService Item Answer) (item : Item)
    (reply : Answer) : FifoService Item Answer :=
  { service with inService := none }.answer item reply

/-- The service ends without an answer. -/
def abandonService (service : FifoService Item Answer) :
    FifoService Item Answer :=
  { service with inService := none }

/-- Answer every waiting ticket in turn and empty the queue. -/
def answerAll (service : FifoService Item Answer) (reply : Answer) :
    FifoService Item Answer :=
  service.waiting.foldl (fun current item => current.answer item reply)
    { service with waiting := [] }

section AnswerLemmas

variable (service : FifoService Item Answer) (item : Item) (reply : Answer)

@[simp]
theorem answer_waiting : (service.answer item reply).waiting = service.waiting := by
  unfold answer
  split_ifs <;> rfl

@[simp]
theorem answer_inService : (service.answer item reply).inService = service.inService := by
  unfold answer
  split_ifs <;> rfl

@[simp]
theorem answer_issued : (service.answer item reply).issued = service.issued := by
  unfold answer
  split_ifs <;> rfl

@[simp]
theorem answer_begun : (service.answer item reply).begun = service.begun := by
  unfold answer
  split_ifs <;> rfl

theorem abandonService_answer : (service.answer item reply).abandonService =
      service.endService item reply := by
  unfold endService answer abandonService
  split_ifs <;> first | rfl | contradiction

theorem answered_answer_iff (query : Nat) :
    (service.answer item reply).Answered query ↔ service.Answered query ∨
        (awaited item = true ∧ query = serial item) := by
  unfold answer
  split_ifs with fresh
  · simp [Answered, fresh.1]
  · constructor
    · exact Or.inl
    · rintro (answered | ⟨isAwaited, rfl⟩)
      · exact answered
      · by_contra missing
        exact fresh ⟨isAwaited, missing⟩

theorem settled_answer : (service.answer item reply).Settled item := fun isAwaited =>
  (answered_answer_iff service item reply _).mpr (Or.inr ⟨isAwaited, rfl⟩)

theorem Settled.answer {other : Item} (settled : service.Settled other) :
    (service.answer item reply).Settled other := fun isAwaited =>
  (answered_answer_iff service item reply _).mpr (Or.inl (settled isAwaited))

theorem answer_answers_nodup (once : (service.answers.map Prod.fst).Nodup) :
    ((service.answer item reply).answers.map Prod.fst).Nodup := by
  unfold FifoService.answer
  split_ifs with fresh
  · rw [List.map_append, List.nodup_append]
    refine ⟨once, List.nodup_singleton _, ?_⟩
    intro left leftMember right rightMember
    rw [List.map_singleton, List.mem_singleton] at rightMember
    subst right
    intro same
    subst left
    exact fresh.2 leftMember
  · exact once

end AnswerLemmas

/-- Every awaited ticket is answered once, or waits, or is being served. -/
structure Sound (service : FifoService Item Answer) : Prop where
  once : (service.answers.map Prod.fst).Nodup
  accounted : ∀ item ∈ service.issued, service.Settled item ∨ item ∈ service.waiting ∨
      service.inService = some item
  fifo : service.begun.Pairwise (· < ·)

/-- The order in which tickets were put and taken. -/
structure Ordered (service : FifoService Item Answer) : Prop where
  serials : service.issued.map serial = List.range service.issued.length
  waiting : service.waiting <:+ service.issued
  begun : ∀ earlier ∈ service.begun, ∀ item ∈ service.waiting, earlier < serial item
  begunIssued : ∀ earlier ∈ service.begun, earlier < service.issued.length
  inService : ∀ item, service.inService = some item →
    item ∈ service.issued ∧ serial item ∈ service.begun

variable {service : FifoService Item Answer}

theorem Ordered.waiting_increasing (ordered : service.Ordered) :
    (service.waiting.map serial).Pairwise (· < ·) := by
  have whole : (service.issued.map serial).Pairwise (· < ·) := by
    rw [ordered.serials]
    exact List.pairwise_lt_range
  exact whole.sublist (ordered.waiting.sublist.map serial)

theorem Sound.put (sound : service.Sound) (item : Item) : (service.put item).Sound where
  once := sound.once
  accounted := by
    intro other member
    rcases List.mem_append.mp member with old | new
    · rcases sound.accounted other old with settled | waits | served
      · exact Or.inl settled
      · exact Or.inr (Or.inl (List.mem_append_left _ waits))
      · exact Or.inr (Or.inr served)
    · exact Or.inr (Or.inl (List.mem_append_right _ new))
  fifo := sound.fifo

variable {item : Item}

theorem Ordered.put (ordered : service.Ordered) (fresh : serial item = service.issued.length) :
    (service.put item).Ordered where
  serials := by
    simp [FifoService.put, ordered.serials, fresh, List.range_succ]
  waiting := by
    rcases ordered.waiting with ⟨before, whole⟩
    exact ⟨before, by simp [FifoService.put, ← whole]⟩
  begun := by
    intro earlier member other waits
    rcases List.mem_append.mp waits with old | new
    · exact ordered.begun earlier member other old
    · rw [List.mem_singleton] at new
      subst other
      rw [fresh]
      exact ordered.begunIssued earlier member
  begunIssued := by
    intro earlier member
    have := ordered.begunIssued earlier member
    simp only [FifoService.put, List.length_append, List.length_singleton]
    omega
  inService := by
    intro other served
    have known := ordered.inService other served
    exact ⟨List.mem_append_left _ known.1, known.2⟩

theorem Sound.answer (sound : service.Sound) (item : Item) (reply : Answer) :
    (service.answer item reply).Sound where
  once := answer_answers_nodup service item reply sound.once
  accounted := by
    intro other member
    rw [answer_issued] at member
    rw [answer_waiting, answer_inService]
    exact (sound.accounted other member).imp_left (Settled.answer service item reply)
  fifo := by
    rw [answer_begun]
    exact sound.fifo

theorem Ordered.answer (ordered : service.Ordered) (item : Item) (reply : Answer) :
    (service.answer item reply).Ordered where
  serials := by simpa using ordered.serials
  waiting := by simpa using ordered.waiting
  begun := by simpa using ordered.begun
  begunIssued := by simpa using ordered.begunIssued
  inService := by simpa using ordered.inService

variable {rest : List Item}

theorem Sound.answerFront (sound : service.Sound)
    (front : service.waiting = item :: rest) (reply : Answer) :
    (service.answerFront item rest reply).Sound where
  once := answer_answers_nodup _ item reply sound.once
  accounted := by
    intro other member
    simp only [FifoService.answerFront, answer_issued] at member
    simp only [FifoService.answerFront, answer_waiting, answer_inService]
    rcases sound.accounted other member with settled | waits | served
    · exact Or.inl (Settled.answer _ item reply settled)
    · rw [front] at waits
      rcases List.mem_cons.mp waits with same | later
      · subst other
        exact Or.inl (settled_answer _ item reply)
      · exact Or.inr (Or.inl later)
    · exact Or.inr (Or.inr served)
  fifo := by
    simp only [FifoService.answerFront, answer_begun]
    exact sound.fifo

theorem Ordered.takeFront (ordered : service.Ordered) (front : service.waiting = item :: rest) :
    { service with waiting := rest }.Ordered :=
  { ordered with
    waiting := (List.suffix_cons item rest).trans (front ▸ ordered.waiting)
    begun := by
      intro earlier member other waits
      exact ordered.begun earlier member other (front ▸ List.mem_cons_of_mem item waits) }

theorem Ordered.answerFront (ordered : service.Ordered)
    (front : service.waiting = item :: rest) (reply : Answer) :
    (service.answerFront item rest reply).Ordered :=
  (ordered.takeFront front).answer item reply

theorem Sound.beginFront (sound : service.Sound) (ordered : service.Ordered)
    (front : service.waiting = item :: rest) (idle : service.inService = none) :
    (service.beginFront item rest).Sound where
  once := sound.once
  accounted := by
    intro other member
    rcases sound.accounted other member with settled | waits | served
    · exact Or.inl settled
    · rw [front] at waits
      rcases List.mem_cons.mp waits with same | later
      · exact Or.inr (Or.inr (congrArg some same.symm))
      · exact Or.inr (Or.inl later)
    · rw [idle] at served
      contradiction
  fifo := by
    simp only [FifoService.beginFront]
    rw [List.pairwise_append]
    refine ⟨sound.fifo, List.pairwise_singleton _ _, ?_⟩
    intro earlier member later atEnd
    rw [List.mem_singleton] at atEnd
    subst later
    exact ordered.begun earlier member item (front ▸ List.mem_cons_self)

theorem Ordered.beginFront (ordered : service.Ordered) (front : service.waiting = item :: rest) :
    (service.beginFront item rest).Ordered := by
  have taken := ordered.takeFront front
  have itemIssued : item ∈ service.issued :=
    ordered.waiting.subset (front ▸ List.mem_cons_self)
  refine
    { serials := taken.serials
      waiting := taken.waiting
      begun := ?_
      begunIssued := ?_
      inService := ?_ }
  · intro earlier member other waits
    rcases List.mem_append.mp member with old | new
    · exact taken.begun earlier old other waits
    · rw [List.mem_singleton] at new
      subst earlier
      have increasing := ordered.waiting_increasing
      rw [front, List.map_cons, List.pairwise_cons] at increasing
      exact increasing.1 _ (List.mem_map_of_mem waits)
  · intro earlier member
    rcases List.mem_append.mp member with old | new
    · exact taken.begunIssued earlier old
    · rw [List.mem_singleton] at new
      subst earlier
      have inRange : serial item ∈ service.issued.map serial :=
        List.mem_map_of_mem itemIssued
      rw [ordered.serials, List.mem_range] at inRange
      exact inRange
  · intro other served
    simp only [FifoService.beginFront, Option.some.injEq] at served
    subst other
    exact ⟨itemIssued, List.mem_append_right _ List.mem_cons_self⟩

theorem Ordered.abandonService (ordered : service.Ordered) :
    service.abandonService.Ordered :=
  { ordered with
    inService := by simp [FifoService.abandonService] }

theorem Sound.endService (sound : service.Sound)
    (served : service.inService = some item) (reply : Answer) :
    (service.endService item reply).Sound where
  once := answer_answers_nodup _ item reply sound.once
  accounted := by
    intro other member
    simp only [FifoService.endService, answer_issued] at member
    simp only [FifoService.endService, answer_waiting, answer_inService]
    rcases sound.accounted other member with settled | waits | same
    · exact Or.inl (Settled.answer _ item reply settled)
    · exact Or.inr (Or.inl waits)
    · rw [served, Option.some.injEq] at same
      subst other
      exact Or.inl (settled_answer _ item reply)
  fifo := by
    simp only [FifoService.endService, answer_begun]
    exact sound.fifo

theorem Ordered.endService (ordered : service.Ordered) (item : Item)
    (reply : Answer) : (service.endService item reply).Ordered :=
  ordered.abandonService.answer item reply

theorem Sound.abandonService_iff (sound : service.Sound)
    (ordered : service.Ordered) (served : service.inService = some item) :
    service.abandonService.Sound ↔ service.Settled item := by
  have known := ordered.inService item served
  constructor
  · intro after
    rcases after.accounted item known.1 with settled | waits | still
    · exact settled
    · exact absurd (ordered.begun _ known.2 item waits) (Nat.lt_irrefl _)
    · simp [FifoService.abandonService] at still
  · intro settled
    refine ⟨sound.once, ?_, sound.fifo⟩
    intro other member
    rcases sound.accounted other member with settledOther | waits | same
    · exact Or.inl settledOther
    · exact Or.inr (Or.inl waits)
    · rw [served, Option.some.injEq] at same
      exact Or.inl (same ▸ settled)

theorem foldl_answer_sound (items : List Item) (reply : Answer)
    (service : FifoService Item Answer) (ordered : service.Ordered)
    (once : (service.answers.map Prod.fst).Nodup)
    (fifo : service.begun.Pairwise (· < ·))
    (accounted : ∀ item ∈ service.issued, service.Settled item ∨ item ∈ items) :
    let after :=
      items.foldl (fun current item => current.answer item reply) service
    after.Sound ∧ after.Ordered ∧ (∀ item ∈ after.issued, after.Settled item) ∧
      after.waiting = service.waiting ∧
      after.inService = service.inService ∧
      after.issued = service.issued := by
  induction items generalizing service with
  | nil =>
    have settled : ∀ item ∈ service.issued, service.Settled item := by
      simpa using accounted
    exact ⟨⟨once, fun item member => Or.inl (settled item member), fifo⟩,
        ordered, settled, rfl, rfl, rfl⟩
  | cons item rest induction =>
    have step := induction (service.answer item reply)
      (ordered.answer item reply)
      (answer_answers_nodup service item reply once)
      (by simpa using fifo)
      (by
        intro other member
        rw [answer_issued] at member
        rcases accounted other member with settled | waits
        · exact Or.inl (Settled.answer service item reply settled)
        · rcases List.mem_cons.mp waits with same | later
          · subst other
            exact Or.inl (settled_answer service item reply)
          · exact Or.inr later)
    simpa using step

theorem Ordered.emptyQueue (ordered : service.Ordered) :
    { service with waiting := [] }.Ordered :=
  { ordered with
    waiting := List.nil_suffix
    begun := by simp }

theorem Sound.answerAll (sound : service.Sound) (ordered : service.Ordered)
    (idle : service.inService = none) (reply : Answer) :
    (service.answerAll reply).Sound ∧ (service.answerAll reply).Ordered ∧
      (∀ item ∈ (service.answerAll reply).issued, (service.answerAll reply).Settled item) ∧
      (service.answerAll reply).waiting = [] ∧
      (service.answerAll reply).inService = none ∧
      (service.answerAll reply).issued = service.issued := by
  have accounted : ∀ item ∈ service.issued,
      service.Settled item ∨ item ∈ service.waiting := by
    intro item member
    rcases sound.accounted item member with settled | waits | served
    · exact Or.inl settled
    · exact Or.inr waits
    · rw [idle] at served
      contradiction
  rcases foldl_answer_sound service.waiting reply
      { service with waiting := [] } ordered.emptyQueue
      sound.once sound.fifo accounted with
    ⟨after, afterOrdered, settled, waiting, served, issued⟩
  exact ⟨after, afterOrdered, settled, waiting, served.trans idle, issued⟩

theorem Sound.settled_iff (sound : service.Sound) (ordered : service.Ordered)
    (idle : service.inService = none) :
    (∀ item ∈ service.issued, service.Settled item) ↔
      ∀ item ∈ service.waiting, service.Settled item := by
  constructor
  · exact fun settled item waits =>
      settled item (ordered.waiting.subset waits)
  · intro settled item member
    rcases sound.accounted item member with done | waits | served
    · exact done
    · exact settled item waits
    · rw [idle] at served
      contradiction

end FifoService

end TurningGood.Foundation
