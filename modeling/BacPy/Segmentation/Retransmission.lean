import BacPy.Segmentation.TransferAgreement

/-! How often a segment is transmitted during one transfer.

A sending TSM answers every SegmentACK of an unfinished transfer with the window after the
acknowledged segment. Where the acknowledged segment ends the window that is outstanding, the
answer holds new segments only; a SegmentACK from inside the window has the rest of it sent again.
-/

namespace BacPy

open Library

namespace SegmentSender

def windowIndices (self : SegmentSender) : List Nat :=
  List.range' self.windowStartIdx (self.endIdx - self.windowStartIdx)

/-- What is transmitted for an index. -/
def entry (self : SegmentSender) (idx : Nat) : Nat × Bytes × Bool :=
  (idx % 256, self.segments.getD idx [], decide (idx < self.segments.length - 1))

theorem fillWindow_eq (self : SegmentSender)
    : self.fillWindow = self.windowIndices.map self.entry :=
  rfl

/-- The window holds each index from its start to its end once. -/
theorem count_windowIndices (self : SegmentSender) (idx : Nat)
    : self.windowIndices.count idx
      = if self.windowStartIdx ≤ idx ∧ idx < self.endIdx then 1 else 0 := by
  rw [windowIndices, List.count_range_1']
  congr 1
  apply propext
  omega

end SegmentSender

/-- An acknowledgement ends the transfer of a sending end or has its next window sent. -/
theorem SendingEnd.onSegmentAck_cases (self : SendingEnd) (ack)
    : ((self.onSegmentAck ack).2 = (false, [])
        ∧ (self.onSegmentAck ack).1.sender.segments = self.sender.segments)
      ∨ (1 ≤ ack.actualWindowSize ∧ ack.actualWindowSize ≤ 127 ∧ self.onSegmentAck ack
          = ({ sender := (self.sender.handleSegmentAck ack.sequenceNumber ack.actualWindowSize
                ack.negative).1 }, true,
              (self.sender.handleSegmentAck ack.sequenceNumber ack.actualWindowSize
                ack.negative).1.fillWindow)) := by
  unfold onSegmentAck
  split
  · exact Or.inl ⟨rfl, rfl⟩
  · next inside =>
      dsimp only
      split
      · exact Or.inl ⟨rfl, rfl⟩
      · exact Or.inr ⟨by omega, by omega, rfl⟩

-- A transfer with its record

/-- A transfer with a record of its sending end: the index of every segment transmitted, the
segment timeouts fired and the negative SegmentACKs delivered.
-/
structure Ledger where
  transfer : Transfer
  transmitted : List Nat
  timeouts : Nat := 0
  negatives : Nat := 0

namespace Ledger

open Transfer (Event)

def negativeArrives (self : Ledger) : Event → Bool
  | .ackArrives index => self.transfer.acks[index]?.any fun ack => ack.negative
  | _ => false

/-- The indices a step transmits: the window of the sending end, if the step was its own and did
not end its transfer.
-/
def transmission (next : Transfer) : Event → List Nat
  | .ackArrives _ | .sendingTimeout =>
    if next.sending then next.sendingEnd.sender.windowIndices else []
  | _ => []

/-- One step of the transfer, recorded. -/
def step (self : Ledger) (event : Event) : Option Ledger :=
  (self.transfer.step event).map fun next => {
    transfer := next
    transmitted := self.transmitted ++ transmission next event
    timeouts := self.timeouts + if event = .sendingTimeout then 1 else 0
    negatives := self.negatives + if self.negativeArrives event then 1 else 0
  }

/-- A transfer whose sender has sent its first window, towards any receiving end and with any
acknowledgements already under way.
-/
def opened (retries : Nat) (sender : SegmentSender) (receivingEnd : ReceivingEnd)
    (receiving : Bool) (acks : List Acknowledgement) : Ledger where
  transfer := {
    retries
    sendingEnd := { sender }
    receivingEnd
    receiving
    segments := sender.fillWindow
    acks
  }
  transmitted := sender.windowIndices

/-- The record is what was transmitted, and no segment was transmitted more often than its first
time, the timeouts and the negative SegmentACKs account for.
-/
structure Bounded (ledger : Ledger) : Prop where
  accounts : ledger.transfer.segments
    = ledger.transmitted.map ledger.transfer.sendingEnd.sender.entry
  atMost : ∀ idx, ledger.transmitted.count idx ≤ 1 + ledger.timeouts + ledger.negatives

/-- A positive SegmentACK arrives that acknowledges less than the outstanding window. -/
def Repeats (self : Ledger) : Event → Prop
  | .ackArrives index =>
    ∃ ack ∈ self.transfer.acks[index]?, ack.negative = false
      ∧ 1 ≤ ack.actualWindowSize ∧ ack.actualWindowSize ≤ 127
      ∧ self.transfer.sendingEnd.sender.seqToIdx ack.sequenceNumber + 1
        < self.transfer.sendingEnd.sender.endIdx
  | _ => False

instance (self : Ledger) : DecidablePred self.Repeats
  | .ackArrives _ => inferInstanceAs (Decidable (∃ ack ∈ _, _))
  | .segmentArrives _ | .sendingTimeout | .receivingTimeout => inferInstanceAs (Decidable False)

/-- Segments behind the window were transmitted on timeouts and negative SegmentACKs only. -/
structure Accounted (ledger : Ledger) : Prop extends ledger.Bounded where
  beyond : ledger.transfer.sending = true
    → ∀ idx, ledger.transfer.sendingEnd.sender.endIdx ≤ idx
      → ledger.transmitted.count idx ≤ ledger.timeouts + ledger.negatives

variable {self next : Ledger} {event : Event}

/-- A step that transmits nothing keeps the account, as long as the window stays. -/
theorem Accounted.silent (accounted : self.Accounted)
    (same : next.transfer.sendingEnd.sender.segments
      = self.transfer.sendingEnd.sender.segments)
    (segments : next.transfer.segments = self.transfer.segments)
    (transmitted : next.transmitted = self.transmitted)
    (timeouts : self.timeouts ≤ next.timeouts) (negatives : self.negatives ≤ next.negatives)
    (window : next.transfer.sending = true → self.transfer.sending = true
      ∧ next.transfer.sendingEnd.sender = self.transfer.sendingEnd.sender)
    : next.Accounted where
  accounts := by
    rw [segments, transmitted, accounted.accounts]
    unfold SegmentSender.entry
    rw [same]
  atMost := by
    intro idx
    have bound := accounted.atMost idx
    rw [transmitted]
    omega
  beyond := by
    intro active idx past
    obtain ⟨before, sender⟩ := window active
    rw [sender] at past
    have bound := accounted.beyond before idx past
    rw [transmitted]
    omega

/-- A step that transmits a window keeps the account: a new reason allows any window, and
without one the window has to begin where the last one ended.
-/
theorem Accounted.window (accounted : self.Accounted) (before : self.transfer.sending = true)
    (same : next.transfer.sendingEnd.sender.segments
      = self.transfer.sendingEnd.sender.segments)
    (segments : next.transfer.segments
      = self.transfer.segments ++ next.transfer.sendingEnd.sender.fillWindow)
    (transmitted : next.transmitted
      = self.transmitted ++ next.transfer.sendingEnd.sender.windowIndices)
    (timeouts : self.timeouts ≤ next.timeouts) (negatives : self.negatives ≤ next.negatives)
    (reason : self.timeouts + self.negatives < next.timeouts + next.negatives
      ∨ (self.transfer.sendingEnd.sender.endIdx
          ≤ next.transfer.sendingEnd.sender.windowStartIdx
        ∧ self.transfer.sendingEnd.sender.endIdx ≤ next.transfer.sendingEnd.sender.endIdx))
    : next.Accounted where
  accounts := by
    rw [segments, transmitted, List.map_append, accounted.accounts, SegmentSender.fillWindow_eq]
    unfold SegmentSender.entry
    rw [same]
  atMost := by
    intro idx
    have bound := accounted.atMost idx
    rw [transmitted, List.count_append, SegmentSender.count_windowIndices]
    rcases reason with counted | ⟨onward, _⟩
    · split <;> omega
    · split
      · next inside =>
          have fresh := accounted.beyond before idx (Nat.le_trans onward inside.1)
          omega
      · omega
  beyond := by
    intro _ idx past
    have outside : ¬ (next.transfer.sendingEnd.sender.windowStartIdx ≤ idx
        ∧ idx < next.transfer.sendingEnd.sender.endIdx) := by
      omega
    rw [transmitted, List.count_append, SegmentSender.count_windowIndices, if_neg outside]
    rcases reason with counted | ⟨_, farther⟩
    · have bound := accounted.atMost idx
      omega
    · have bound := accounted.beyond before idx (Nat.le_trans farther past)
      omega

/-- An acknowledgement keeps the account, unless it is positive and from inside the window. -/
theorem Accounted.ackArrives (accounted : self.Accounted) {index ack}
    (found : self.transfer.acks[index]? = some ack) (active : self.transfer.sending = true)
    (honest : ¬ self.Repeats (.ackArrives index))
    (moved : next.transfer
      = self.transfer.withSending (self.transfer.sendingEnd.onSegmentAck ack))
    (transmitted : next.transmitted
      = self.transmitted ++ transmission next.transfer (.ackArrives index))
    (timeouts : next.timeouts = self.timeouts)
    (negatives : next.negatives = self.negatives + if ack.negative then 1 else 0)
    : next.Accounted := by
  rcases self.transfer.sendingEnd.onSegmentAck_cases ack
    with ⟨ended, same⟩ | ⟨lower, upper, answered⟩
  · have stopped : next.transfer.sending = false := by
      rw [moved]
      exact congrArg Prod.fst ended
    refine accounted.silent (by rw [moved]; exact same) ?_ ?_ (by omega) (by omega) ?_
    · rw [moved, Transfer.withSending, ended, List.append_nil]
    · simp [transmitted, transmission, stopped]
    · simp [stopped]
  · have goesOn : next.transfer.sending = true := by
      rw [moved, answered]
      rfl
    refine accounted.window active (by rw [moved, answered]; rfl)
      (by rw [moved, answered]; rfl) ?_ (by omega) (by omega) ?_
    · simp [transmitted, transmission, goesOn]
    · cases sign : ack.negative with
      | true =>
        rw [sign, if_pos rfl] at negatives
        exact Or.inl (by omega)
      | false =>
        -- a positive acknowledgement ends the window, so that the next one lies behind it
        have ends : self.transfer.sendingEnd.sender.endIdx
            ≤ self.transfer.sendingEnd.sender.seqToIdx ack.sequenceNumber + 1 := by
          by_contra inside
          exact honest ⟨ack, found, sign, lower, upper, Nat.lt_of_not_le inside⟩
        have total : self.transfer.sendingEnd.sender.endIdx
            ≤ self.transfer.sendingEnd.sender.segments.length :=
          Nat.min_le_left ..
        have window : next.transfer.sendingEnd.sender
            = (self.transfer.sendingEnd.sender.handleSegmentAck ack.sequenceNumber
                ack.actualWindowSize ack.negative).1 := by
          rw [moved, answered]
          rfl
        refine Or.inr ⟨by rw [window]; exact ends, ?_⟩
        rw [window]
        exact Nat.le_min.mpr ⟨total, Nat.le_trans ends (Nat.le_add_right ..)⟩

/-- Every step keeps the account, unless it answers a positive acknowledgement from inside the
window.
-/
theorem Accounted.step (accounted : self.Accounted) (honest : ¬ self.Repeats event)
    (stepped : self.step event = some next)
    : next.Accounted := by
  obtain ⟨transfer, moved, rfl⟩ := Option.map_eq_some_iff.mp stepped
  cases event with
  | segmentArrives index =>
    simp only [Transfer.step] at moved
    split at moved
    · obtain ⟨segment, _, rfl⟩ := Option.map_eq_some_iff.mp moved
      exact accounted.silent rfl rfl (List.append_nil _) (Nat.le_add_right ..)
        (Nat.le_add_right ..) fun active => ⟨active, rfl⟩
    · cases moved
  | receivingTimeout =>
    simp only [Transfer.step] at moved
    split at moved
    · cases moved
      exact accounted.silent rfl rfl (List.append_nil _) (Nat.le_add_right ..)
        (Nat.le_add_right ..) fun active => ⟨active, rfl⟩
    · cases moved
  | sendingTimeout =>
    simp only [Transfer.step] at moved
    split at moved
    · next active =>
        cases moved
        by_cases retry : self.transfer.sendingEnd.segRetryCount < self.transfer.retries
        · refine accounted.window active ?_ ?_ ?_ (Nat.le_add_right ..) (Nat.le_add_right ..)
            (Or.inl ?_)
          all_goals simp [Transfer.withSending, SendingEnd.onSegmentTimeout, retry, transmission,
            negativeArrives]
        · refine accounted.silent ?_ ?_ ?_ (Nat.le_add_right ..) (Nat.le_add_right ..) ?_
          all_goals simp [Transfer.withSending, SendingEnd.onSegmentTimeout, retry, transmission]
    · cases moved
  | ackArrives index =>
    simp only [Transfer.step] at moved
    split at moved
    · next active =>
        obtain ⟨ack, found, rfl⟩ := Option.map_eq_some_iff.mp moved
        exact accounted.ackArrives found active honest rfl rfl (by simp)
          (by simp [negativeArrives, found])
    · cases moved

/-- The first window is accounted for. -/
theorem accounted_opened (retries : Nat) (sender : SegmentSender) (receivingEnd : ReceivingEnd)
    (receiving : Bool) (acks)
    : (opened retries sender receivingEnd receiving acks).Accounted where
  accounts := rfl
  atMost := by
    intro idx
    simp only [opened, SegmentSender.count_windowIndices]
    split <;> omega
  beyond := by
    intro _ idx past
    simp only [opened, SegmentSender.count_windowIndices] at past ⊢
    rw [if_neg (by omega)]

/-- Without positive acknowledgements from inside the window, no segment is transmitted more
often than timeouts and negative acknowledgements account for, whatever the network does.
-/
theorem always_bounded (retries : Nat) (sender : SegmentSender) (receivingEnd : ReceivingEnd)
    (receiving : Bool) (acks : List Acknowledgement) (events : List Event)
    (honest : Meets step (fun ledger event => ¬ ledger.Repeats event)
      (opened retries sender receivingEnd receiving acks) events)
    : Always step Bounded (opened retries sender receivingEnd receiving acks) events :=
  always_of_meets (fun accounted allowed stepped => accounted.step allowed stepped)
    Accounted.toBounded (accounted_opened ..) honest

/-- The record of a whole transfer, the first acknowledgement of the receiver included. -/
def started (retries ourWindowSize : Nat) (sender : SegmentSender) : Ledger :=
  let transfer := Transfer.start retries ourWindowSize sender
  opened retries sender transfer.receivingEnd transfer.receiving transfer.acks

/-- The first acknowledgement is lost, and the sender repeats its window before the last one
arrives.
-/
theorem retransmission_bounded
    : Always step Bounded (started 3 4 Transfer.fourSegments)
        [.segmentArrives 1, .sendingTimeout, .segmentArrives 2, .segmentArrives 3,
          .ackArrives 1] :=
  always_bounded 3 Transfer.fourSegments _ _ _ _ (by decide +kernel)

/-- Nothing is lost, and the acknowledgement of segment 0 has the other three sent again. -/
theorem firstAck_repeats_window
    : (run step (started 3 4 Transfer.fourSegments) [.ackArrives 0]).map (fun ledger =>
          (ledger.transmitted, ledger.timeouts, ledger.negatives))
        = some ([0, 1, 2, 3, 1, 2, 3], 0, 0)
      ∧ ¬ Always step Bounded (started 3 4 Transfer.fourSegments) [.ackArrives 0] := by
  have reached : (run step (started 3 4 Transfer.fourSegments) [.ackArrives 0]).map (fun ledger =>
      (ledger.transmitted, ledger.timeouts, ledger.negatives))
      = some ([0, 1, 2, 3, 1, 2, 3], 0, 0) := by
    decide +kernel
  refine ⟨reached, fun always => ?_⟩
  obtain ⟨final, ran, facts⟩ := Option.map_eq_some_iff.mp reached
  have atMost := (always_iff_prefixes.mp always _ [] final (by simp) ran).atMost 1
  simp only [Prod.mk.injEq] at facts
  rw [facts.1, facts.2.1, facts.2.2] at atMost
  exact absurd atMost (by decide)

end Ledger

end BacPy
