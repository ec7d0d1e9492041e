import BacPy.App.ServerInvariants

/-! At most one execution for each server transaction.

Handlers hold transaction objects, timers act by key. As long as no cleanup timer fires under a
running dispatch, the object of every dispatch and of every armed timer is the one in the table,
and nothing that belongs to one transaction touches another.
-/

namespace BacPy

open Library

namespace ServerTSM

/-- Whatever belongs to an object finds that object under its key. -/
structure Owned (tsm : ServerTSM) (busy : List Nat) : Prop where
  stored : ∀ ref ∈ busy, ∀ txn, tsm.objects.get ref = some txn
    → tsm.transactions.get txn.key = some ref
  armed : ∀ ref txn, tsm.objects.get ref = some txn → txn.timeoutHandle.isSome
    → tsm.transactions.get txn.key = some ref

/-- Objects other than `own`, and their entries, are as before. -/
def SparesOthers (self next : ServerTSM) (own : Nat) : Prop :=
  ∀ other txn, other ≠ own → self.objects.get other = some txn
    → next.objects.get other = some txn
      ∧ (self.transactions.get txn.key = some other
        → next.transactions.get txn.key = some other)

/-- Every Abort sent for a transaction is sent for `own`. -/
def AbortsFor (own : Nat) (sent : List Sent) : Prop :=
  ∀ message ∈ sent, message.transaction.isSome → ∀ abort, message.apdu = .abort abort
    → message.transaction = some own

theorem abortsFor_sentFor (own : Nat) (txn) (expectingReply : Bool) (apdus : List APDU)
    : AbortsFor own (sentFor own txn expectingReply apdus) := by
  intro message member _ abort _
  obtain ⟨apdu, _, rfl⟩ := List.mem_map.mp member
  rfl

variable {self next : ServerTSM} {busy : List Nat} {key : Key} {ref : Nat}
  {old new txn : ServerTransaction} {sent : List Sent}

theorem SparesOthers.refl (self : ServerTSM) (own : Nat) : self.SparesOthers self own :=
  fun _ _ _ found => ⟨found, id⟩

theorem SparesOthers.trans {middle own} (first : self.SparesOthers middle own)
    (second : middle.SparesOthers next own)
    : self.SparesOthers next own := by
  intro other txn different found
  obtain ⟨found', kept⟩ := first other txn different found
  obtain ⟨found'', kept'⟩ := second other txn different found'
  exact ⟨found'', fun stored => kept' (kept stored)⟩

theorem sparesOthers_write (self : ServerTSM) (ref : Nat) (new)
    : self.SparesOthers (self.write ref new) ref := by
  intro other txn different found
  rw [get_write, if_neg different]
  exact ⟨found, id⟩

/-- Removing the entry that holds `own` spares all others. -/
theorem sparesOthers_pop {own} (stored : self.transactions.get key = some own)
    : self.SparesOthers { self with transactions := self.transactions.pop key } own := by
  intro other txn different found
  refine ⟨found, fun stored' => ?_⟩
  dsimp only
  rw [Dict.get_pop_ne, stored']
  intro same
  rw [same, stored] at stored'
  exact different (Option.some.inj stored').symm

/-- Aborting the object of an entry spares all others. -/
theorem sparesOthers_abort {reason} (stored : self.transactions.get new.key = some ref)
    : self.SparesOthers (self.abortServerTransaction ref new reason).1 ref :=
  (sparesOthers_write self ref { new.cancelTimeout with cachedResponse := none }).trans
    (sparesOthers_pop stored)

namespace Owned

theorem perm {busy'} (owned : self.Owned busy) (same : busy'.Perm busy)
    : self.Owned busy' where
  stored := fun ref member => owned.stored ref (same.mem_iff.mp member)
  armed := owned.armed

theorem finish (owned : self.Owned (ref :: busy)) : self.Owned busy where
  stored := fun other member => owned.stored other (List.mem_cons_of_mem _ member)
  armed := owned.armed

theorem start (owned : self.Owned busy) (found : self.objects.get ref = some txn)
    (stored : self.transactions.get txn.key = some ref)
    : self.Owned (ref :: busy) where
  stored := by
    intro other member txn' found'
    rcases List.mem_cons.mp member with rfl | member
    · rw [found] at found'
      exact Option.some.inj found' ▸ stored
    · exact owned.stored other member txn' found'
  armed := owned.armed

/-- Rewriting the object of an entry keeps everything owned. -/
theorem write (owned : self.Owned busy) (stored : self.transactions.get new.key = some ref)
    : (self.write ref new).Owned busy where
  stored := by
    intro other member txn found
    rw [get_write] at found
    split at found
    · next same =>
        rw [same, ← Option.some.inj found]
        exact stored
    · exact owned.stored other member txn found
  armed := by
    intro other txn found armed
    rw [get_write] at found
    split at found
    · next same =>
        rw [same, ← Option.some.inj found]
        exact stored
    · exact owned.armed other txn found armed

/-- Removing an entry whose object has neither dispatch nor timer keeps everything owned. -/
theorem pop (owned : self.Owned busy) (stored : self.transactions.get key = some ref)
    (found : self.objects.get ref = some txn) (free : ref ∉ busy)
    (unarmed : txn.timeoutHandle = none)
    : ({ self with transactions := self.transactions.pop key } : ServerTSM).Owned busy where
  stored := by
    intro other member txn' found'
    have stored' := owned.stored other member txn' found'
    dsimp only
    rw [Dict.get_pop_ne, stored']
    intro same
    rw [same, stored] at stored'
    exact free (Option.some.inj stored' ▸ member)
  armed := by
    intro other txn' found' armed
    have stored' := owned.armed other txn' found' armed
    dsimp only
    rw [Dict.get_pop_ne, stored']
    intro same
    rw [same, stored] at stored'
    rw [← Option.some.inj stored', found] at found'
    simp [← Option.some.inj found', unarmed] at armed

/-- Aborting the object of an entry keeps everything owned, once its dispatch is over. -/
theorem abort {reason} (owned : self.Owned busy) (stored : self.transactions.get new.key = some ref)
    (free : ref ∉ busy)
    : (self.abortServerTransaction ref new reason).1.Owned busy := by
  have written : (self.write ref { new.cancelTimeout with cachedResponse := none }).Owned busy :=
    owned.write stored
  exact written.pop stored (by rw [get_write, if_pos rfl]) free rfl

/-- A new object under a free key keeps everything owned. -/
theorem create (owned : self.Owned busy) (absent : self.transactions.get key = none)
    (keyed : txn.key = key)
    : ({
        self.write self.nextRef txn with
        nextRef := self.nextRef + 1
        transactions := self.transactions.set key self.nextRef
      } : ServerTSM).Owned busy := by
  have others (other : Nat) (txn' : ServerTransaction)
      (stored : self.transactions.get txn'.key = some other)
      : (self.transactions.set key self.nextRef).get txn'.key = some other := by
    rw [Dict.get_set_ne, stored]
    intro same
    rw [same, absent] at stored
    cases stored
  have own : (self.transactions.set key self.nextRef).get txn.key = some self.nextRef := by
    rw [keyed, Dict.get_set_self]
  constructor
  · intro other member txn' found
    dsimp only at found ⊢
    rw [get_write] at found
    split at found
    · next same =>
        rw [same, ← Option.some.inj found]
        exact own
    · exact others other txn' (owned.stored other member txn' found)
  · intro other txn' found armed
    dsimp only at found ⊢
    rw [get_write] at found
    split at found
    · next same =>
        rw [same, ← Option.some.inj found]
        exact own
    · exact others other txn' (owned.armed other txn' found armed)

end Owned

-- Steps of the TSM

/-- Progress or abort of a transfer stays within the object of its entry. -/
theorem EntryAction.own (action : self.EntryAction key next sent) (sound : self.Sound busy)
    (owned : self.Owned busy)
    : next.Owned busy
      ∧ ∃ own, self.transactions.get key = some own ∧ self.SparesOthers next own
        ∧ AbortsFor own sent := by
  cases action with
  | @rewritten ref old new apdus stored found segmenting continues coherent armed sends =>
    have keyed : self.transactions.get new.key = some ref := by
      rw [continues.key, sound.key_eq stored found, stored]
    exact ⟨owned.write keyed, ref, stored, sparesOthers_write self ref new,
      abortsFor_sentFor ref new true apdus⟩
  | @aborted ref old new reason stored found segmenting continues coherent =>
    have keyed : self.transactions.get new.key = some ref := by
      rw [continues.key, sound.key_eq stored found, stored]
    exact ⟨owned.abort keyed (sound.not_busy_of_segmenting found segmenting), ref, stored,
      sparesOthers_abort keyed, abortsFor_sentFor ref new false _⟩

theorem EntryStep.own (step : self.EntryStep key next sent) (sound : self.Sound busy)
    (owned : self.Owned busy)
    : next.Owned busy ∧ ∃ own, self.SparesOthers next own ∧ AbortsFor own sent := by
  cases step with
  | unchanged same silent =>
    rw [same, silent]
    exact ⟨owned, 0, .refl self 0, fun message member => (by cases member)⟩
  | acted action =>
    obtain ⟨kept, own, _, spares, aborts⟩ := action.own sound owned
    exact ⟨kept, own, spares, aborts⟩

/-- A received request stays within one object, which it may have created. -/
theorem Received.own {pdu result} (received : self.Received key pdu (next, sent, result))
    (sound : self.Sound busy) (owned : self.Owned busy)
    : next.Owned busy ∧ (∃ own, self.SparesOthers next own ∧ AbortsFor own sent)
      ∧ ∀ ref data, result = some (ref, some data) → next.Owned (ref :: busy) := by
  generalize outcome : (next, sent, result) = triple at received
  cases received with
  | entry step noData =>
    cases outcome
    obtain ⟨kept, spares⟩ := step.own sound owned
    exact ⟨kept, spares, fun ref data same => absurd same (noData ref data)⟩
  | @resent ref old response stored found elsewhere cached =>
    cases outcome
    refine ⟨owned, ⟨ref, .refl self ref, ?_⟩, fun ref data same => by cases same⟩
    intro message member _ abort _
    rw [List.mem_singleton.mp member]
  | @completed ref old new ack data stored found receiving continues awaits unarmed numbered =>
    cases outcome
    have keyed : self.transactions.get new.key = some ref := by
      rw [continues.key, sound.key_eq stored found, stored]
    refine ⟨owned.write keyed, ⟨ref, sparesOthers_write self ref new,
      abortsFor_sentFor ref new true _⟩, ?_⟩
    intro other data' same
    cases same
    exact (owned.write keyed).start (by rw [get_write, if_pos rfl]) keyed
  | @created txn apdus data absent keyed coherent armed fresh awaits maxApduLength acks =>
    cases outcome
    have free : self.transactions.get key = none := by
      cases stored : self.transactions.get key with
      | none => rfl
      | some other =>
        obtain ⟨txn', found, _⟩ := sound.entries key other stored
        rw [lookup_eq_some.mpr ⟨stored, found⟩] at absent
        cases absent
    have kept := owned.create free keyed
    refine ⟨kept, ⟨self.nextRef, ?_, abortsFor_sentFor self.nextRef txn true apdus⟩, ?_⟩
    · intro other txn' different found
      dsimp only
      rw [get_write, if_neg different]
      refine ⟨found, fun stored => ?_⟩
      rw [Dict.get_set_ne, stored]
      intro same
      rw [same, free] at stored
      cases stored
    · intro other data' same
      cases same
      refine kept.start (by rw [get_write, if_pos rfl]) ?_
      dsimp only
      rw [keyed, Dict.get_set_self]

/-- The end of a dispatch stays within its own object. -/
theorem Owned.finished {source} (owned : self.Owned (ref :: busy))
    (sound : self.Sound (ref :: busy)) (found : self.objects.get ref = some txn)
    (step : Application.Finished self ref txn source next sent)
    : next.Owned busy ∧ self.SparesOthers next ref ∧ AbortsFor ref sent := by
  have free := (List.nodup_cons.mp sound.once).1
  have stored := owned.stored ref List.mem_cons_self txn found
  cases step with
  | responded fits =>
    refine ⟨owned.finish.write stored, sparesOthers_write self ref _, ?_⟩
    intro message member _ abort _
    rw [List.mem_singleton.mp member]
  | @segmented sender serviceChoice data accepted created =>
    have moved := ServerTransaction.fillAndSendResponseWindow_fst
      (show (txn.sendingResponse sender serviceChoice data).segmentSender = some sender from rfl)
    unfold writeAndSend
    rw [moved]
    exact ⟨owned.finish.write stored, sparesOthers_write self ref _,
      abortsFor_sentFor ref _ true _⟩
  | aborted =>
    exact ⟨owned.finish.abort stored free, sparesOthers_abort stored,
      abortsFor_sentFor ref _ false _⟩

/-- A timer stays within its own object. Its callback acts by key, but the entry under that key
is the object itself.
-/
theorem Owned.fired (owned : self.Owned busy) (sound : self.Sound busy)
    (step : self.fireTimer ref = some (next, sent))
    : self.SparesOthers next ref ∧ AbortsFor ref sent
      ∧ ((∀ txn, self.objects.get ref = some txn → txn.timeoutHandle = some .onTimeout
          → ref ∉ busy) → next.Owned busy) := by
  simp only [fireTimer, Option.bind_eq_some_iff, Option.map_eq_some_iff] at step
  obtain ⟨txn, found, timer, armed, acted⟩ := step
  have stored := owned.armed ref txn found (by simp [armed])
  have spentOwned : (self.write ref txn.cancelTimeout).Owned busy := owned.write stored
  have spares := sparesOthers_write self ref txn.cancelTimeout
  have here : (self.write ref txn.cancelTimeout).objects.get ref = some txn.cancelTimeout := by
    rw [get_write, if_pos rfl]
  have present : (self.write ref txn.cancelTimeout).lookup txn.key
      = some (ref, txn.cancelTimeout) :=
    lookup_eq_some.mpr ⟨stored, here⟩
  cases timer with
  | onTimeout =>
    dsimp only at acted
    simp only [onTimeout, present, Prod.mk.injEq] at acted
    obtain ⟨rfl, rfl⟩ := acted
    refine ⟨?_, fun message member => (by cases member), fun idle => ?_⟩
    · exact (spares.trans (sparesOthers_write _ ref _)).trans (sparesOthers_pop stored)
    · have released : ((self.write ref txn.cancelTimeout).write ref
          { txn.cancelTimeout with cachedResponse := none }).Owned busy :=
        spentOwned.write stored
      exact released.pop stored (by rw [get_write, if_pos rfl]) (idle txn found armed) rfl
  | onServerSegmentTimeout waitForSeg =>
    dsimp only at acted
    have segmenting : txn.cancelTimeout.Segmenting :=
      (sound.coherent ref txn found).segmentTimer waitForSeg armed
    have spent : (self.write ref txn.cancelTimeout).Sound busy :=
      sound.write found rfl (sound.coherent ref txn found).cancelTimeout fun member =>
        absurd member (sound.not_busy_of_segmenting found segmenting)
    have storedSpent : (self.write ref txn.cancelTimeout).transactions.get txn.key = some ref :=
      stored
    have action := onServerSegmentTimeout_action storedSpent here segmenting
      (spent.coherent ref _ here)
    rw [acted] at action
    obtain ⟨kept, own, storedOwn, sparesOwn, aborts⟩ := action.own spent spentOwned
    rw [write_transactions, stored] at storedOwn
    cases storedOwn
    exact ⟨spares.trans sparesOwn, aborts, fun _ => kept⟩

end ServerTSM

namespace Application

variable {self next : Application} {event : Event} {sent : List Sent}

def dispatchKeys (self : Application) : List Key :=
  self.busy.filterMap fun ref => (self.serverTsm.objects.get ref).map ServerTransaction.key

/-- At most one execution for each transaction: a request whose dispatch is in progress has its
transaction in the table, no second dispatch for the same source and invoke ID, and no event
changes, aborts or removes transactions other than the one it belongs to.
-/
structure ExecutesAtMostOnce (app : Application) : Prop where
  stored : ∀ ref ∈ app.busy, ∃ txn, app.serverTsm.objects.get ref = some txn
    ∧ app.serverTsm.transactions.get txn.key = some ref
  once : app.dispatchKeys.Nodup
  apart : ∀ event next sent, app.step event = some (next, sent)
    → ∃ own, (∀ ref, app.owner event = some ref → own = ref)
      ∧ app.serverTsm.SparesOthers next.serverTsm own ∧ ServerTSM.AbortsFor own sent

/-- The cleanup timer of a transaction fires while its dispatch is queued or running. -/
def ExpiresDuringDispatch (self : Application) (event : Event) : Prop :=
  ∃ ref txn, event = .serverTimerFires ref ∧ self.serverTsm.objects.get ref = some txn
    ∧ txn.timeoutHandle = some .onTimeout ∧ ref ∈ self.busy

/-- Every effect stays within one object, the owner of the event. -/
theorem Effect.apart (effect : self.Effect event next sent)
    (sound : self.serverTsm.Sound self.busy) (owned : self.serverTsm.Owned self.busy)
    : ∃ own, (∀ ref, self.owner event = some ref → own = ref)
      ∧ self.serverTsm.SparesOthers next.serverTsm own ∧ ServerTSM.AbortsFor own sent := by
  have anyOwner (unowned : self.owner event = none) (own : Nat)
      : ∀ ref, self.owner event = some ref → own = ref := by
    intro ref owner
    rw [unowned] at owner
    cases owner
  cases effect with
  | quiet same tasks client =>
    refine ⟨(self.owner event).getD 0, fun ref owner => by simp [owner], ?_, ?_⟩
    · rw [same]
      exact .refl _ _
    · intro message member marked
      simp [client message member] at marked
  | entry unowned step tasks =>
    obtain ⟨_, own, spares, aborts⟩ := step.own sound owned
    exact ⟨own, anyOwner unowned own, spares, aborts⟩
  | received request received idle tasks =>
    obtain ⟨_, ⟨own, spares, aborts⟩, _⟩ := received.own sound owned
    exact ⟨own, anyOwner (owner_of_requestOf request) own, spares, aborts⟩
  | accepted request received tasks =>
    obtain ⟨_, ⟨own, spares, aborts⟩, _⟩ := received.own sound owned
    exact ⟨own, anyOwner (owner_of_requestOf request) own, spares, aborts⟩
  | refused request received plain tasks =>
    obtain ⟨_, ⟨own, spares, aborts⟩, _⟩ := received.own sound owned
    exact ⟨own, anyOwner (owner_of_requestOf request) own, spares, aborts⟩
  | dropped starts task drops same tasks silent =>
    refine ⟨0, anyOwner (by rw [starts]; rfl) 0, ?_, ?_⟩
    · rw [same]
      exact .refl _ _
    · intro message member
      rw [silent] at member
      cases member
  | @finished index outcome ref serviceChoice serviceData source txn ends task found step tasks =>
    obtain ⟨_, spares, aborts⟩ :=
      (owned.perm tasks.symm).finished (sound.perm tasks.symm) found step
    refine ⟨ref, fun other owner => ?_, spares, aborts⟩
    simpa [ends, owner, task, Task.transaction?, Application.owner] using owner
  | @fired ref fires step tasks =>
    obtain ⟨spares, aborts, _⟩ := owned.fired sound step
    refine ⟨ref, fun other owner => ?_, spares, aborts⟩
    simpa [fires, Application.owner] using owner

/-- Every effect but an expiry during a dispatch keeps everything owned. -/
theorem Effect.owned (effect : self.Effect event next sent)
    (sound : self.serverTsm.Sound self.busy) (owned : self.serverTsm.Owned self.busy)
    (allowed : ¬ self.ExpiresDuringDispatch event)
    : next.serverTsm.Owned next.busy := by
  cases effect with
  | quiet same tasks client => exact same ▸ owned.perm tasks
  | entry unowned step tasks => exact (step.own sound owned).1.perm tasks
  | received request received idle tasks => exact (received.own sound owned).1.perm tasks
  | accepted request received tasks =>
    exact ((received.own sound owned).2.2 _ _ rfl).perm tasks
  | refused request received plain tasks => exact (received.own sound owned).1.perm tasks
  | dropped starts task drops same tasks silent => exact same ▸ (owned.perm tasks.symm).finish
  | finished ends task found step tasks =>
    exact ((owned.perm tasks.symm).finished (sound.perm tasks.symm) found step).1
  | @fired ref fires step tasks =>
    rw [tasks]
    apply (owned.fired sound step).2.2
    intro txn found cleanup member
    exact allowed ⟨ref, txn, fires, found, cleanup, member⟩

theorem executesAtMostOnce_of_owned (sound : self.ServerSound)
    (owned : self.serverTsm.Owned self.busy)
    : self.ExecutesAtMostOnce where
  stored := by
    intro ref member
    obtain ⟨txn, found, _⟩ := sound.1.awaiting ref member
    exact ⟨txn, found, owned.stored ref member txn found⟩
  once := by
    refine List.pairwise_filterMap.mpr (sound.1.once.imp_of_mem ?_)
    intro ref ref' member member' different key keyed key' keyed' same
    obtain ⟨txn, found, rfl⟩ := Option.map_eq_some_iff.mp keyed
    obtain ⟨txn', found', rfl⟩ := Option.map_eq_some_iff.mp keyed'
    have stored := owned.stored ref member txn found
    rw [same, owned.stored ref' member' txn' found'] at stored
    exact different (Option.some.inj stored).symm
  apart := fun event next sent moved =>
    (step_effect sound.1.coherent sound.2 moved).apart sound.1 owned

/-- An expiry during a dispatch takes the transaction of that dispatch out of the table. -/
theorem not_executesAtMostOnce_of_expiry (owned : self.serverTsm.Owned self.busy) (expires : self.ExpiresDuringDispatch event)
    (moved : self.step event = some (next, sent))
    : ¬ next.ExecutesAtMostOnce := by
  obtain ⟨ref, txn, rfl, found, cleanup, member⟩ := expires
  have stored := owned.stored ref member txn found
  have here : (self.serverTsm.write ref txn.cancelTimeout).objects.get ref
      = some txn.cancelTimeout := by
    rw [ServerTSM.get_write, if_pos rfl]
  have present : (self.serverTsm.write ref txn.cancelTimeout).lookup txn.key
      = some (ref, txn.cancelTimeout) :=
    ServerTSM.lookup_eq_some.mpr ⟨stored, here⟩
  simp only [step, ServerTSM.fireTimer, found, cleanup, Option.bind_some, Option.map_some,
    ServerTSM.onTimeout, present, withServer, Option.some.injEq, Prod.mk.injEq] at moved
  intro atMostOnce
  rw [← moved.1] at atMostOnce
  obtain ⟨txn', found', stored'⟩ := atMostOnce.stored ref member
  dsimp only at found' stored'
  rw [ServerTSM.get_write, if_pos rfl] at found'
  have keyed : txn'.key = txn.key := Option.some.inj found' ▸ rfl
  rw [keyed, Dict.get_pop_self] at stored'
  cases stored'

/-- Every state of a run executes requests at most once exactly when the run fires no cleanup
timer during a dispatch.
-/
theorem always_executesAtMostOnce_iff (clientTsm : ClientTSM) (retries proposedWindowSize : Nat)
    (events : List Event)
    : Always advance ExecutesAtMostOnce (started clientTsm retries proposedWindowSize) events
      ↔ Meets advance (fun app event => ¬ app.ExpiresDuringDispatch event)
          (started clientTsm retries proposedWindowSize) events := by
  refine @always_iff_meets Application Event advance _
    (fun app => app.ServerSound ∧ app.serverTsm.Owned app.busy) _ ?_ ?_ ?_ _ _ ?_
  · rintro app event app' ⟨sound, owned⟩ allowed moved
    obtain ⟨sent, stepped⟩ := advance_eq_some.mp moved
    exact ⟨step_serverSound sound stepped,
      (step_effect sound.1.coherent sound.2 stepped).owned sound.1 owned allowed⟩
  · exact fun inv => executesAtMostOnce_of_owned inv.1 inv.2
  · rintro app event app' ⟨sound, owned⟩ expires moved
    obtain ⟨sent, stepped⟩ := advance_eq_some.mp moved
    exact not_executesAtMostOnce_of_expiry owned (not_not.mp expires) stepped
  · refine ⟨serverSound_started clientTsm retries proposedWindowSize, ?_, ?_⟩
    · intro ref member
      cases member
    · intro ref txn found
      cases found

/-- The transaction of a slow WriteProperty handler expires, and the client retransmits. -/
def expiryEvents : List Event :=
  let write : Event := .apduReceived [0x00, 0x05, 7, 15, 0x0C] { macAddress := [10] }
  [write, .taskStarts 0, .serverTimerFires 0, write, .taskStarts 1]

/-- After the expiry the retransmitted request is executed a second time, while the first
execution is still running.
-/
theorem expiry_executes_twice
    : (run advance (started {} 3 16) expiryEvents).map (fun app => app.handlerCalls)
        = some [
          { transaction := 0, serviceChoice := 15, serviceData := [0x0C],
            source := { macAddress := [10] } },
          { transaction := 1, serviceChoice := 15, serviceData := [0x0C],
            source := { macAddress := [10] } }]
      ∧ ¬ Always advance ExecutesAtMostOnce (started {} 3 16) expiryEvents := by
  refine ⟨by decide +kernel, fun always => ?_⟩
  have keys : (run advance (started {} 3 16) expiryEvents).map dispatchKeys
      = some [({ macAddress := [10] }, 7), ({ macAddress := [10] }, 7)] := by
    decide +kernel
  obtain ⟨final, ran, twice⟩ := Option.map_eq_some_iff.mp keys
  have once := (always_iff_prefixes.mp always expiryEvents [] final (by simp) ran).once
  rw [twice] at once
  simp at once

end Application

end BacPy
