import BacPy.App.ServerInvariants

/-! Every entry of the server table is on its way out: it has an armed timer or a dispatch in
progress. The one exit that breaks this is a dispatch that DCC drops after the last segment of a
request has cancelled the timer.
-/

namespace BacPy

open Library

namespace ServerTSM

/-- Something will happen to the transaction by itself: its timer or the end of its dispatch. -/
def Waits (self : ServerTSM) (busy : List Nat) (ref : Nat) : Prop :=
  (∃ txn, self.objects.get ref = some txn ∧ txn.timeoutHandle.isSome) ∨ ref ∈ busy

/-- Every entry of the table, except those under `apart`, has a timer or a dispatch. -/
def UnblockedApart (self : ServerTSM) (busy : List Nat) (apart : Key) : Prop :=
  ∀ key ref, key ≠ apart → self.transactions.get key = some ref → self.Waits busy ref

/-- Every entry of the table has a timer or a dispatch. -/
def Unblocked (self : ServerTSM) (busy : List Nat) : Prop :=
  ∀ key ref, self.transactions.get key = some ref → self.Waits busy ref

variable {self next : ServerTSM} {busy : List Nat} {key : Key} {ref : Nat}
  {old new txn : ServerTransaction} {sent : List Sent}

/-- Waiting depends on the members of `busy` only. -/
theorem Unblocked.perm {busy'} (unblocked : self.Unblocked busy) (same : busy'.Perm busy)
    : self.Unblocked busy' := by
  intro key ref stored
  rcases unblocked key ref stored with armed | member
  · exact Or.inl armed
  · exact Or.inr (same.mem_iff.mpr member)

/-- Another object keeps waiting when one object is rewritten. -/
theorem Waits.write_ne {other} (waits : self.Waits busy other) (different : other ≠ ref)
    : (self.write ref new).Waits busy other := by
  rcases waits with ⟨txn, found, armed⟩ | member
  · exact Or.inl ⟨txn, by rw [get_write, if_neg different, found], armed⟩
  · exact Or.inr member

/-- An object written with an armed timer waits. -/
theorem waits_write (armed : new.timeoutHandle.isSome) : (self.write ref new).Waits busy ref :=
  Or.inl ⟨new, by rw [get_write, if_pos rfl], armed⟩

/-- Writing an armed object under the key of `ref` restores what holds apart from that key. -/
theorem UnblockedApart.write (unblocked : self.UnblockedApart busy key)
    (stored : self.transactions.get key = some ref) (armed : new.timeoutHandle.isSome)
    : (self.write ref new).Unblocked busy := by
  intro other ref' stored'
  by_cases same : ref' = ref
  · exact same ▸ waits_write armed
  · refine (unblocked other ref' ?_ stored').write_ne same
    intro sameKey
    rw [write_transactions, sameKey, stored] at stored'
    exact same (Option.some.inj stored').symm

/-- Removing the entry under the key restores what holds apart from it. -/
theorem UnblockedApart.pop (unblocked : self.UnblockedApart busy key)
    : ({ self with transactions := self.transactions.pop key } : ServerTSM).Unblocked busy := by
  intro other ref stored
  rw [Dict.get_pop] at stored
  split at stored
  · cases stored
  · next different => exact unblocked other ref different stored

/-- Rewriting an object leaves the entries under all other keys waiting. -/
theorem UnblockedApart.write_apart (unblocked : self.UnblockedApart busy old.key)
    (sound : self.Sound busy) (found : self.objects.get ref = some old)
    : (self.write ref new).UnblockedApart busy old.key := by
  intro other ref' different stored
  refine (unblocked other ref' different stored).write_ne ?_
  rintro rfl
  exact different (sound.key_eq stored found).symm

/-- Aborting an object leaves no entry under its key. -/
theorem UnblockedApart.abort {reason} (unblocked : self.UnblockedApart busy old.key)
    (sound : self.Sound busy) (found : self.objects.get ref = some old)
    (sameKey : new.key = old.key)
    : (self.abortServerTransaction ref new reason).1.Unblocked busy := by
  have written : (self.write ref { new.cancelTimeout with cachedResponse := none }).UnblockedApart
      busy new.key :=
    sameKey ▸ unblocked.write_apart sound found
  exact written.pop

/-- Progress or abort of a transfer makes up for its own entry. -/
theorem UnblockedApart.entryAction (unblocked : self.UnblockedApart busy key)
    (sound : self.Sound busy) (action : self.EntryAction key next sent)
    : next.Unblocked busy := by
  cases action with
  | rewritten stored found segmenting continues coherent armed sends =>
    exact unblocked.write stored armed
  | aborted stored found segmenting continues coherent =>
    have keyed := sound.key_eq stored found
    exact UnblockedApart.abort (keyed ▸ unblocked) sound found continues.key

theorem Unblocked.apart (unblocked : self.Unblocked busy) (key : Key)
    : self.UnblockedApart busy key :=
  fun other ref _ stored => unblocked other ref stored

/-- A received request leaves every entry waiting, if returned data is dispatched. -/
theorem Unblocked.received {pdu result} (unblocked : self.Unblocked busy) (sound : self.Sound busy)
    (received : self.Received key pdu (next, sent, result))
    : ((∀ ref data, result ≠ some (ref, some data)) ∨ pdu.sequenceNumber = none
        → next.Unblocked busy)
      ∧ ∀ ref data, result = some (ref, some data) → next.Unblocked (ref :: busy) := by
  have weaken (tsm : ServerTSM) (ref : Nat) (holds : tsm.Unblocked busy)
      : tsm.Unblocked (ref :: busy) :=
    fun key other stored => (holds key other stored).imp id (List.mem_cons_of_mem _)
  generalize outcome : (next, sent, result) = triple at received
  cases received with
  | entry step noData =>
    cases outcome
    refine ⟨fun _ => ?_, fun ref data same => absurd same (noData ref data)⟩
    cases step with
    | unchanged same silent => exact same ▸ unblocked
    | acted action => exact (unblocked.apart key).entryAction sound action
  | resent stored found elsewhere cached =>
    cases outcome
    exact ⟨fun _ => unblocked, fun ref data same => by cases same⟩
  | @completed ref old new ack data stored found receiving continues awaits unarmed numbered =>
    cases outcome
    refine ⟨?_, ?_⟩
    · rintro (idle | plain)
      · exact absurd rfl (idle ref data)
      · simp [plain] at numbered
    · intro other data' same key' ref' stored'
      cases same
      by_cases own : ref' = ref
      · exact Or.inr (own ▸ List.mem_cons_self)
      · exact Waits.write_ne (weaken self ref unblocked key' ref' stored') own
  | @created txn apdus data absent keyed coherent armed fresh awaits maxApduLength acks =>
    cases outcome
    have stored : ({
        self.write self.nextRef txn with
        nextRef := self.nextRef + 1
        transactions := self.transactions.set key self.nextRef
      } : ServerTSM).Unblocked busy := by
      intro key' ref' stored'
      by_cases own : ref' = self.nextRef
      · exact own ▸ waits_write armed
      · rw [Dict.get_set] at stored'
        split at stored'
        · exact absurd (Option.some.inj stored').symm own
        · exact (unblocked key' ref' stored').write_ne own
    exact ⟨fun _ => stored, fun ref data same => weaken _ ref stored⟩

/-- The end of a dispatch arms a timer or removes the entry. -/
theorem Unblocked.finished {source} (unblocked : self.Unblocked (ref :: busy))
    (sound : self.Sound (ref :: busy)) (found : self.objects.get ref = some txn)
    (step : Application.Finished self ref txn source next sent)
    : next.Unblocked busy := by
  have others (key' : Key) (ref' : Nat) (stored : self.transactions.get key' = some ref')
      (different : ref' ≠ ref)
      : self.Waits busy ref' :=
    (unblocked key' ref' stored).imp id fun member =>
      (List.mem_cons.mp member).resolve_left different
  have rewritten (new : ServerTransaction) (armed : new.timeoutHandle.isSome)
      : (self.write ref new).Unblocked busy := by
    intro key' ref' stored
    by_cases own : ref' = ref
    · exact own ▸ waits_write armed
    · exact (others key' ref' stored own).write_ne own
  cases step with
  | responded fits => exact rewritten _ rfl
  | @segmented sender serviceChoice data accepted created =>
    have moved := ServerTransaction.fillAndSendResponseWindow_fst
      (show (txn.sendingResponse sender serviceChoice data).segmentSender = some sender from rfl)
    unfold writeAndSend
    rw [moved]
    exact rewritten _ rfl
  | aborted =>
    refine UnblockedApart.abort ?_ sound.finish found rfl
    intro key' ref' different stored
    refine others key' ref' stored ?_
    rintro rfl
    exact different (sound.key_eq stored found).symm

/-- A timer leaves every entry waiting: its callback removes the entry under the key of its own
transaction, or rearms it, or finds the entry of another transaction that waits by itself.
-/
theorem Unblocked.fired (unblocked : self.Unblocked busy) (sound : self.Sound busy)
    (step : self.fireTimer ref = some (next, sent))
    : next.Unblocked busy := by
  simp only [fireTimer, Option.bind_eq_some_iff, Option.map_eq_some_iff] at step
  obtain ⟨txn, found, timer, armed, acted⟩ := step
  have apart : (self.write ref txn.cancelTimeout).UnblockedApart busy txn.key :=
    (unblocked.apart txn.key).write_apart sound found
  have spent : (self.write ref txn.cancelTimeout).Sound busy := by
    refine sound.write found rfl (sound.coherent ref txn found).cancelTimeout ?_
    intro member
    obtain ⟨same, found', awaits⟩ := sound.awaiting ref member
    rw [found] at found'
    exact Option.some.inj found' ▸ awaits
  cases timer with
  | onTimeout =>
    dsimp only at acted
    unfold onTimeout at acted
    split at acted
    · cases acted
      exact apart.pop
    · next other txn' present =>
        cases acted
        obtain ⟨stored, found'⟩ := lookup_eq_some.mp present
        have keyed := spent.key_eq stored found'
        have released : ((self.write ref txn.cancelTimeout).write other
            { txn' with cachedResponse := none }).UnblockedApart busy txn.key :=
          keyed ▸ UnblockedApart.write_apart (keyed ▸ apart) spent found'
        exact released.pop
  | onServerSegmentTimeout waitForSeg =>
    dsimp only at acted
    cases present : (self.write ref txn.cancelTimeout).lookup txn.key with
    | none =>
      simp only [onServerSegmentTimeout, present, Prod.mk.injEq] at acted
      rw [← acted.1]
      intro key' ref' stored
      refine apart key' ref' ?_ stored
      rintro rfl
      obtain ⟨txn', found', _⟩ := spent.entries _ _ stored
      rw [lookup_eq_some.mpr ⟨stored, found'⟩] at present
      cases present
    | some entry =>
      obtain ⟨other, txn'⟩ := entry
      obtain ⟨stored, found'⟩ := lookup_eq_some.mp present
      by_cases segmenting : txn'.Segmenting
      · have action := onServerSegmentTimeout_action stored found' segmenting
          (spent.coherent other txn' found')
        rw [acted] at action
        exact apart.entryAction spent action
      · rw [onServerSegmentTimeout_settled stored found' segmenting] at acted
        cases acted
        have foreign : other ≠ ref := by
          rintro rfl
          rw [get_write, if_pos rfl] at found'
          have own := (sound.coherent other txn found).segmentTimer waitForSeg armed
          exact segmenting (Option.some.inj found' ▸ own)
        intro key' ref' stored'
        by_cases same : key' = txn.key
        · subst same
          rw [stored] at stored'
          cases stored'
          exact (unblocked txn.key other stored).write_ne foreign
        · exact apart key' ref' same stored'

end ServerTSM

namespace Application

variable {self next : Application} {event : Event} {sent : List Sent}

/-- DCC drops the dispatch of a transaction in the table whose timer the last segment of the
request has cancelled.
-/
def DropsUntimedDispatch (self : Application) (event : Event) : Prop :=
  ∃ index ref serviceChoice serviceData source txn,
    event = .taskStarts index
    ∧ self.backgroundTasks[index]? = some (.dispatchRequest ref serviceChoice serviceData source)
    ∧ self.dccDrops serviceChoice = true
    ∧ self.serverTsm.objects.get ref = some txn
    ∧ txn.timeoutHandle = none
    ∧ self.serverTsm.transactions.get txn.key = some ref

/-- Every effect but the drop of an untimed dispatch leaves every entry waiting. -/
theorem Effect.unblocked (effect : self.Effect event next sent)
    (sound : self.serverTsm.Sound self.busy)
    (unblocked : self.serverTsm.Unblocked self.busy) (timed : ¬ self.DropsUntimedDispatch event)
    : next.serverTsm.Unblocked next.busy := by
  cases effect with
  | quiet same tasks client => exact same ▸ unblocked.perm tasks
  | entry unowned step tasks =>
    refine (?_ : next.serverTsm.Unblocked self.busy).perm tasks
    cases step with
    | unchanged same silent => exact same ▸ unblocked
    | acted action => exact (unblocked.apart _).entryAction sound action
  | received request received idle tasks =>
    exact ((unblocked.received sound received).1 (Or.inl idle)).perm tasks
  | accepted request received tasks =>
    exact ((unblocked.received sound received).2 _ _ rfl).perm tasks
  | refused request received plain tasks =>
    exact ((unblocked.received sound received).1 (Or.inr plain)).perm tasks
  | @dropped index ref serviceChoice serviceData source starts task drops same tasks silent =>
    rw [same]
    intro key ref' stored
    rcases (unblocked.perm tasks.symm) key ref' stored with armed | member
    · exact Or.inl armed
    · rcases List.mem_cons.mp member with rfl | member
      · obtain ⟨txn, found, keyed⟩ := sound.entries key ref' stored
        have armed : txn.timeoutHandle ≠ none := fun untimed =>
          timed ⟨index, ref', serviceChoice, serviceData, source, txn, starts, task, drops,
            found, untimed, keyed ▸ stored⟩
        exact Or.inl ⟨txn, found, Option.isSome_iff_ne_none.mpr armed⟩
      · exact Or.inr member
  | finished ends task found step tasks =>
    exact (unblocked.perm tasks.symm).finished (sound.perm tasks.symm) found step
  | fired fires step tasks =>
    rw [tasks]
    exact unblocked.fired sound step

/-- The drop of an untimed dispatch leaves its entry without timer and dispatch. -/
theorem not_unblocked_of_drop (sound : self.ServerSound)
    (untimed : self.DropsUntimedDispatch event) (moved : self.step event = some (next, sent))
    : ¬ next.serverTsm.Unblocked next.busy := by
  obtain ⟨index, ref, serviceChoice, serviceData, source, txn, rfl, task, drops, found, timer,
    stored⟩ := untimed
  simp only [step, task, Option.bind_some, startTask, startDispatch, drops, if_true,
    Option.map_some, Option.some.injEq, Prod.mk.injEq] at moved
  have split := busy_perm task
  have once := (sound.1.perm split.symm).once
  intro unblocked
  rw [← moved.1] at unblocked
  rcases unblocked txn.key ref stored with ⟨txn', found', armed⟩ | member
  · rw [found] at found'
    simp [← Option.some.inj found', timer] at armed
  · exact (List.nodup_cons.mp once).1 member

/-- No entry of the server table is stuck in any state of a run exactly when the run never starts
the dispatch of a request with cancelled timer while DCC forbids its service.
-/
theorem always_unblocked_iff (clientTsm : ClientTSM) (retries proposedWindowSize : Nat)
    (events : List Event)
    : Always advance (fun app => app.serverTsm.Unblocked app.busy)
        (started clientTsm retries proposedWindowSize) events
      ↔ Meets advance (fun app event => ¬ app.DropsUntimedDispatch event)
          (started clientTsm retries proposedWindowSize) events := by
  refine @always_iff_meets Application Event advance _
    (fun app => app.ServerSound ∧ app.serverTsm.Unblocked app.busy) _ ?_ ?_ ?_ _ _ ?_
  · rintro app event app' ⟨sound, unblocked⟩ timed moved
    obtain ⟨sent, stepped⟩ := advance_eq_some.mp moved
    exact ⟨step_serverSound sound stepped,
      (step_effect sound.1.coherent sound.2 stepped).unblocked sound.1 unblocked timed⟩
  · exact fun inv => inv.2
  · rintro app event app' ⟨sound, _⟩ untimed moved
    obtain ⟨sent, stepped⟩ := advance_eq_some.mp moved
    exact not_unblocked_of_drop sound (not_not.mp untimed) stepped
  · refine ⟨serverSound_started clientTsm retries proposedWindowSize, ?_⟩
    intro key ref stored
    cases stored

/-- A two-segment WriteProperty request arrives while DCC is DISABLE. -/
def dccDropEvents : List Event :=
  [.dccStateChanges .disable,
    .apduReceived [0x0C, 0x05, 7, 0, 4, 15, 0x0C] { macAddress := [10] },
    .apduReceived [0x08, 0x05, 7, 1, 4, 15, 0x3E] { macAddress := [10] },
    .taskStarts 0]

/-- The dropped request leaves an entry behind that nothing will ever remove. -/
theorem dccDrop_leaves_stuck_transaction
    : ¬ Always advance (fun app => app.serverTsm.Unblocked app.busy) (started {} 3 16)
        dccDropEvents := by
  intro always
  have reached : (run advance (started {} 3 16) dccDropEvents).map (fun app =>
      (app.serverTsm.transactions.get ({ macAddress := [10] }, 7),
        (app.serverTsm.objects.get 0).map ServerTransaction.timeoutHandle, app.busy))
      = some (some 0, some none, []) := by
    decide +kernel
  obtain ⟨final, ran, facts⟩ := Option.map_eq_some_iff.mp reached
  simp only [Prod.mk.injEq] at facts
  obtain ⟨stored, timer, idle⟩ := facts
  have unblocked := always_iff_prefixes.mp always dccDropEvents [] final (by simp) ran
  rcases unblocked _ 0 stored with ⟨txn, found, armed⟩ | member
  · rw [found, Option.map_some, Option.some.injEq] at timer
    simp [timer] at armed
  · simp [idle] at member

end Application

end BacPy
