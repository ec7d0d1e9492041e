import BacPy.App.ApplicationSteps
import BacPy.Library.Runs

/-! The invariant of the server side that holds in every run: the table leads to objects with its
keys, and every dispatch in progress belongs to one transaction that awaits its response.
-/

namespace BacPy

open Library

namespace ServerTSM

/-- The table, the objects and the dispatches in progress fit together. -/
structure Sound (tsm : ServerTSM) (busy : List Nat) : Prop where
  entries : ∀ key ref, tsm.transactions.get key = some ref
    → ∃ txn, tsm.objects.get ref = some txn ∧ txn.key = key
  bounded : ∀ ref txn, tsm.objects.get ref = some txn → ref < tsm.nextRef
  coherent : tsm.AllCoherent
  once : busy.Nodup
  awaiting : ∀ ref ∈ busy, ∃ txn, tsm.objects.get ref = some txn ∧ txn.state = .awaitResponse

namespace Sound

variable {self : ServerTSM} {busy : List Nat} {key : Key} {ref : Nat}
  {old new txn : ServerTransaction}

/-- The order of the dispatches does not matter. -/
theorem perm {busy'} (sound : self.Sound busy) (same : busy'.Perm busy)
    : self.Sound busy' where
  entries := sound.entries
  bounded := sound.bounded
  coherent := sound.coherent
  once := same.nodup_iff.mpr sound.once
  awaiting := fun ref member => sound.awaiting ref (same.mem_iff.mp member)

/-- A dispatch may end at any time. -/
theorem finish (sound : self.Sound (ref :: busy)) : self.Sound busy where
  entries := sound.entries
  bounded := sound.bounded
  coherent := sound.coherent
  once := (List.nodup_cons.mp sound.once).2
  awaiting := fun other member => sound.awaiting other (List.mem_cons_of_mem _ member)

/-- A transaction in a transfer has no dispatch in progress. -/
theorem not_busy (sound : self.Sound busy) (found : self.objects.get ref = some txn)
    (elsewhere : txn.state ≠ .awaitResponse)
    : ref ∉ busy := by
  intro member
  obtain ⟨same, found', awaits⟩ := sound.awaiting ref member
  rw [found] at found'
  exact elsewhere (Option.some.inj found' ▸ awaits)

theorem not_busy_of_segmenting (sound : self.Sound busy)
    (found : self.objects.get ref = some txn) (segmenting : txn.Segmenting)
    : ref ∉ busy := by
  apply sound.not_busy found
  rcases segmenting with state | state <;> simp [state]

/-- The entry under a key, with its object, in a sound TSM. -/
theorem key_eq (sound : self.Sound busy) (stored : self.transactions.get key = some ref)
    (found : self.objects.get ref = some txn)
    : txn.key = key := by
  obtain ⟨same, found', keyed⟩ := sound.entries key ref stored
  rw [found] at found'
  exact Option.some.inj found' ▸ keyed

/-- Rewriting an object under its key keeps the TSM sound, if it has no dispatch in progress or
still awaits its response.
-/
theorem write (sound : self.Sound busy) (found : self.objects.get ref = some old)
    (sameKey : new.key = old.key) (coherent : new.Coherent)
    (free : ref ∈ busy → new.state = .awaitResponse)
    : (self.write ref new).Sound busy where
  entries := by
    intro key other stored
    obtain ⟨txn, present, keyed⟩ := sound.entries key other stored
    rw [get_write]
    split
    · next same =>
        refine ⟨new, rfl, ?_⟩
        rw [same, found] at present
        rw [sameKey, Option.some.inj present, keyed]
    · exact ⟨txn, present, keyed⟩
  bounded := by
    intro other txn present
    rw [get_write] at present
    split at present
    · next same => exact same ▸ sound.bounded ref old found
    · exact sound.bounded other txn present
  coherent := by
    intro other txn present
    rw [get_write] at present
    split at present
    · exact Option.some.inj present ▸ coherent
    · exact sound.coherent other txn present
  once := sound.once
  awaiting := by
    intro other member
    rw [get_write]
    split
    · next same => exact ⟨new, rfl, free (same ▸ member)⟩
    · exact sound.awaiting other member

/-- Removing an entry keeps the TSM sound. -/
theorem pop (sound : self.Sound busy) (key : Key)
    : ({ self with transactions := self.transactions.pop key } : ServerTSM).Sound busy where
  entries := by
    intro other ref stored
    rw [Dict.get_pop] at stored
    split at stored
    · cases stored
    · exact sound.entries other ref stored
  bounded := sound.bounded
  coherent := sound.coherent
  once := sound.once
  awaiting := sound.awaiting

/-- A new object under the next reference keeps the TSM sound, and its dispatch may start. -/
theorem create (sound : self.Sound busy) (keyed : txn.key = key) (coherent : txn.Coherent)
    : ({
        self.write self.nextRef txn with
        nextRef := self.nextRef + 1
        transactions := self.transactions.set key self.nextRef
      } : ServerTSM).Sound busy where
  entries := by
    intro other ref stored
    dsimp only at stored ⊢
    rw [get_write]
    rw [Dict.get_set] at stored
    split at stored
    · next same =>
        rw [if_pos (Option.some.inj stored).symm]
        exact ⟨txn, rfl, same ▸ keyed⟩
    · obtain ⟨txn', present, keyed'⟩ := sound.entries other ref stored
      have below := sound.bounded ref txn' present
      rw [if_neg (by omega)]
      exact ⟨txn', present, keyed'⟩
  bounded := by
    intro other txn' present
    dsimp only at present ⊢
    rw [get_write] at present
    split at present
    · omega
    · have below := sound.bounded other txn' present
      omega
  coherent := by
    intro other txn' present
    dsimp only at present
    rw [get_write] at present
    split at present
    · exact Option.some.inj present ▸ coherent
    · exact sound.coherent other txn' present
  once := sound.once
  awaiting := by
    intro other member
    obtain ⟨txn', present, awaits⟩ := sound.awaiting other member
    have below := sound.bounded other txn' present
    dsimp only
    rw [get_write, if_neg (by omega)]
    exact ⟨txn', present, awaits⟩

theorem start (sound : self.Sound busy) (found : self.objects.get ref = some txn)
    (awaits : txn.state = .awaitResponse) (fresh : ref ∉ busy)
    : self.Sound (ref :: busy) where
  entries := sound.entries
  bounded := sound.bounded
  coherent := sound.coherent
  once := List.nodup_cons.mpr ⟨fresh, sound.once⟩
  awaiting := by
    intro other member
    rcases List.mem_cons.mp member with rfl | member
    · exact ⟨txn, found, awaits⟩
    · exact sound.awaiting other member

/-- Aborting an object that has no dispatch in progress keeps the TSM sound. -/
theorem abort {reason} (sound : self.Sound busy) (found : self.objects.get ref = some old)
    (sameKey : new.key = old.key) (coherent : new.Coherent) (free : ref ∉ busy)
    : (self.abortServerTransaction ref new reason).1.Sound busy := by
  have written : (self.write ref { new.cancelTimeout with cachedResponse := none }).Sound busy :=
    sound.write found sameKey coherent.cancelTimeout.release fun member => absurd member free
  exact written.pop new.key

-- Steps of the TSM

/-- Progress or abort of a transfer keeps the TSM sound. -/
theorem entryAction {next sent} (sound : self.Sound busy) (action : self.EntryAction key next sent)
    : next.Sound busy := by
  cases action with
  | rewritten stored found segmenting continues coherent armed sends =>
    exact sound.write found continues.key coherent fun member =>
      absurd member (sound.not_busy_of_segmenting found segmenting)
  | aborted stored found segmenting continues coherent =>
    exact sound.abort found continues.key coherent
      (sound.not_busy_of_segmenting found segmenting)

/-- A received request keeps the TSM sound, and returned data belongs to a transaction whose
dispatch may start.
-/
theorem received {pdu next sent result} (sound : self.Sound busy)
    (received : self.Received key pdu (next, sent, result))
    : next.Sound busy
      ∧ ∀ ref data, result = some (ref, some data) → next.Sound (ref :: busy) := by
  generalize outcome : (next, sent, result) = triple at received
  cases received with
  | entry step noData =>
    cases outcome
    refine ⟨?_, fun ref data same => absurd same (noData ref data)⟩
    cases step with
    | unchanged same silent => exact same ▸ sound
    | acted action => exact sound.entryAction action
  | resent stored found elsewhere cached =>
    cases outcome
    exact ⟨sound, fun ref data same => by cases same⟩
  | @completed ref old new ack data stored found receiving continues awaits unarmed _ =>
    cases outcome
    have fresh := sound.not_busy_of_segmenting found (Or.inl receiving)
    have written : (self.write ref new).Sound busy :=
      sound.write found continues.key (.of_settled (Or.inl awaits) (Or.inl unarmed))
        fun _ => awaits
    refine ⟨written, ?_⟩
    intro other data' same
    cases same
    exact written.start (by rw [get_write, if_pos rfl]) awaits fresh
  | @created txn apdus data absent keyed coherent armed fresh awaits maxApduLength acks =>
    cases outcome
    have stored := sound.create keyed coherent
    refine ⟨stored, ?_⟩
    intro other data' same
    cases same
    refine stored.start (by rw [get_write, if_pos rfl]) (awaits rfl) ?_
    intro member
    obtain ⟨txn', present, _⟩ := sound.awaiting _ member
    exact absurd (sound.bounded _ _ present) (Nat.lt_irrefl _)

/-- The end of a dispatch leaves a sound TSM without it. -/
theorem finished {source next sent} (sound : self.Sound (ref :: busy))
    (found : self.objects.get ref = some txn)
    (step : Application.Finished self ref txn source next sent)
    : next.Sound busy := by
  have fresh := (List.nodup_cons.mp sound.once).1
  have coherent := sound.coherent ref txn found
  have awaits : txn.state = .awaitResponse := by
    obtain ⟨same, found', awaits⟩ := sound.awaiting ref List.mem_cons_self
    rw [found] at found'
    exact Option.some.inj found' ▸ awaits
  cases step with
  | responded fits =>
    exact sound.finish.write found rfl (.of_settled (Or.inr rfl) (Or.inr rfl))
      fun member => absurd member fresh
  | @segmented sender serviceChoice data accepted created =>
    have moved := ServerTransaction.fillAndSendResponseWindow_fst
      (show (txn.sendingResponse sender serviceChoice data).segmentSender = some sender from rfl)
    unfold writeAndSend
    rw [moved]
    refine sound.finish.write found rfl ?_ fun member => absurd member fresh
    exact ⟨fun receiving => (by cases receiving), fun _ => rfl, fun _ _ => Or.inr rfl⟩
  | aborted => exact sound.finish.abort found rfl coherent fresh

/-- A timer keeps the TSM sound, whichever entry its callback acts on. -/
theorem fired {next sent} (sound : self.Sound busy) (step : self.fireTimer ref = some (next, sent))
    : next.Sound busy := by
  simp only [fireTimer, Option.bind_eq_some_iff, Option.map_eq_some_iff] at step
  obtain ⟨txn, found, timer, armed, acted⟩ := step
  have spent : (self.write ref txn.cancelTimeout).Sound busy := by
    refine sound.write found rfl (sound.coherent ref txn found).cancelTimeout ?_
    intro member
    obtain ⟨same, found', awaits⟩ := sound.awaiting ref member
    rw [found] at found'
    exact Option.some.inj found' ▸ awaits
  cases timer with
  | onTimeout =>
    dsimp only at acted
    unfold onTimeout at acted
    split at acted
    · cases acted
      exact spent.pop txn.key
    · next other txn' present =>
        cases acted
        obtain ⟨_, found'⟩ := lookup_eq_some.mp present
        have released : ((self.write ref txn.cancelTimeout).write other
            { txn' with cachedResponse := none }).Sound busy := by
          refine spent.write found' rfl (spent.coherent other txn' found').release ?_
          intro member
          obtain ⟨same, found'', awaits⟩ := spent.awaiting other member
          rw [found'] at found''
          exact Option.some.inj found'' ▸ awaits
        exact released.pop txn.key
  | onServerSegmentTimeout waitForSeg =>
    dsimp only at acted
    cases present : (self.write ref txn.cancelTimeout).lookup txn.key with
    | none =>
      simp only [onServerSegmentTimeout, present, Prod.mk.injEq] at acted
      exact acted.1 ▸ spent
    | some entry =>
      obtain ⟨other, txn'⟩ := entry
      obtain ⟨stored, found'⟩ := lookup_eq_some.mp present
      by_cases segmenting : txn'.Segmenting
      · have action := onServerSegmentTimeout_action stored found' segmenting
          (spent.coherent other txn' found')
        rw [acted] at action
        exact spent.entryAction action
      · rw [onServerSegmentTimeout_settled stored found' segmenting] at acted
        cases acted
        exact spent

end Sound

end ServerTSM

namespace Application

variable {self next : Application} {event : Event} {sent : List Sent}

def ServerSound (self : Application) : Prop :=
  self.serverTsm.Sound self.busy ∧ self.PlainRequests

theorem serverSound_started (clientTsm : ClientTSM) (retries proposedWindowSize : Nat)
    : (started clientTsm retries proposedWindowSize).ServerSound := by
  refine ⟨⟨?_, ?_, ?_, List.nodup_nil, ?_⟩, ?_⟩
  · intro key ref stored
    cases stored
  · intro ref txn found
    cases found
  · intro ref txn found
    cases found
  · intro ref member
    cases member
  · intro pdu source member
    cases member

/-- Every effect keeps the server side sound, by cases on the effect. -/
theorem Effect.sound (effect : self.Effect event next sent)
    (sound : self.serverTsm.Sound self.busy)
    : next.serverTsm.Sound next.busy := by
  cases effect with
  | quiet same tasks client => exact same ▸ sound.perm tasks
  | entry unowned step tasks =>
    refine (?_ : next.serverTsm.Sound self.busy).perm tasks
    cases step with
    | unchanged same silent => exact same ▸ sound
    | acted action => exact sound.entryAction action
  | received request received idle tasks => exact (sound.received received).1.perm tasks
  | accepted request received tasks => exact ((sound.received received).2 _ _ rfl).perm tasks
  | refused request received plain tasks => exact (sound.received received).1.perm tasks
  | dropped starts task drops same tasks silent =>
    exact same ▸ (sound.perm tasks.symm).finish
  | finished ends task found step tasks => exact (sound.perm tasks.symm).finished found step
  | fired fires step tasks =>
    rw [tasks]
    exact sound.fired step

/-- Every step keeps the server side sound. -/
theorem step_serverSound (sound : self.ServerSound)
    (moved : self.step event = some (next, sent))
    : next.ServerSound :=
  ⟨(step_effect sound.1.coherent sound.2 moved).sound sound.1, step_plainRequests sound.2 moved⟩

end Application

end BacPy
