import BacPy.Encoding.Values
import BacPy.Library.Dict
import BacPy.Library.Futures
import BacPy.Library.Runs
import BacPy.SecureConnect.Connection

/-! The address resolutions of the node switch, and the answer that concurrent calls share. -/

namespace BacPy

open Library

/-- `AddressResolutionAckPayload.decode`, `none` for octets that are not UTF-8. -/
def decodeWebsocketUris (data : Bytes) : Option (List String) := do
  let text ← decodeUtf8 data
  if text = "" then some []
  else some (((text.toList.splitOn ' ').map String.ofList).take 16)

-- Calls

/-- Where a call of `resolve_address` is. -/
inductive CallPhase where
  /-- It made the future, and awaits `hub_send`. -/
  | sending
  /-- It made the future, and awaits it under a timeout. -/
  | resolving (expired mustCancel : Bool)
  /-- It awaits the future that another call made. -/
  | joined (owner : Nat) (mustCancel : Bool)
  /-- It is over; it made or awaited the future of the call named here, if any. -/
  | returned (shared : Option Nat) (uris : List String)
  /-- A `CancelledError` has left it. -/
  | cancelled
  | raised (exception : ScException)
  deriving DecidableEq

/-- A call of `resolve_address`, in a task of its own. -/
structure ResolveCall where
  dest : SCVMAC
  phase : CallPhase
  /-- Someone has called `task.cancel()`. -/
  cancelRequested : Bool := false
  deriving DecidableEq

/-- The call made a future and is not over. -/
def CallPhase.Owns (phase : CallPhase) : Prop :=
  phase = .sending ∨ ∃ expired mustCancel, phase = .resolving expired mustCancel

/-- The part of an `SCNodeSwitch` that resolves addresses. A future is named by the call that made it.
-/
structure AddressResolutions where
  maxConnections : Nat := 100
  pendingResolutions : Dict SCVMAC Nat := .empty
  futures : Dict Nat (Library.Future (List String)) := .empty
  calls : Dict Nat ResolveCall := .empty

/-- How `hub_send` fails. -/
inductive HubSendError where
  | cancelledError
  | exception (exception : ScException)

namespace AddressResolutions

inductive Event where
  /-- A task calls `resolve_address`. -/
  | resolve (id : Nat) (dest : SCVMAC)
  /-- The `hub_send` of a call ends. -/
  | sent (id : Nat) (outcome : Except HubSendError Unit)
  /-- An Address-Resolution-ACK is handled. -/
  | ack (msg : SCMessage)
  /-- The timeout of a call is over. -/
  | expire (id : Nat)
  /-- Someone cancels the task of a call. -/
  | cancel (id : Nat)
  /-- A task goes on, since the future it awaits is settled. -/
  | resume (id : Nat)

def future (switch : AddressResolutions) (id : Nat) : Library.Future (List String) :=
  (switch.futures.get id).getD .pending

def setFuture (switch : AddressResolutions) (id : Nat) (future : Library.Future (List String))
    : AddressResolutions :=
  { switch with futures := switch.futures.set id future }

def setCall (switch : AddressResolutions) (id : Nat) (call : ResolveCall) : AddressResolutions :=
  { switch with calls := switch.calls.set id call }

-- Steps

/-- The call that made the future is over: the `finally` takes its entry out. -/
def finish (switch : AddressResolutions) (id : Nat) (call : ResolveCall) (phase : CallPhase)
    : AddressResolutions :=
  { switch with pendingResolutions := switch.pendingResolutions.pop call.dest }.setCall id
    { call with phase }

/-- A task goes on if the future it awaits is settled. The call that made the future catches its
cancellation.
-/
def goOn (switch : AddressResolutions) (id : Nat) (call : ResolveCall) : Option AddressResolutions :=
  match call.phase with
  | .resolving _ mustCancel =>
    ((switch.future id).awaited mustCancel).map fun result =>
      switch.finish id call (.returned (some id) (result.getD []))
  | .joined owner mustCancel =>
    ((switch.future owner).awaited mustCancel).map fun result =>
      switch.setCall id { call with
        phase := (result.map (.returned (some owner))).getD .cancelled
      }
  | _ => none

/-- `await fut`, which does not wait for a future that is settled already. -/
def awaitFuture (switch : AddressResolutions) (id : Nat) (call : ResolveCall) : AddressResolutions :=
  (switch.goOn id call).getD (switch.setCall id call)

/-- A call makes a future, enters it and awaits `hub_send`. -/
def opened (switch : AddressResolutions) (id : Nat) (dest : SCVMAC) : AddressResolutions :=
  ({ switch with pendingResolutions := switch.pendingResolutions.set dest id }.setFuture id
    .pending).setCall id { dest, phase := .sending }

/-- `resolve_address` up to its first wait. -/
def resolve (switch : AddressResolutions) (id : Nat) (dest : SCVMAC) : AddressResolutions :=
  match switch.pendingResolutions.get dest with
  | some owner => switch.awaitFuture id { dest, phase := .joined owner false }
  | none =>
    if switch.maxConnections ≤ switch.pendingResolutions.keys.length then
      switch.setCall id { dest, phase := .returned none [] }
    else switch.opened id dest

/-- `hub_send` is over: `TimeoutError`, `OSError` and `CancelledError` are caught. -/
def sent (switch : AddressResolutions) (id : Nat) (call : ResolveCall) (outcome : Except HubSendError Unit)
    : AddressResolutions :=
  match outcome with
  | .ok () => switch.awaitFuture id { call with phase := .resolving false false }
  | .error .cancelledError => switch.finish id call (.returned (some id) [])
  | .error (.exception exception) =>
    if exception = .osError then switch.finish id call (.returned (some id) [])
    else switch.finish id call (.raised exception)

def handleAddressResolutionAck (switch : AddressResolutions) (msg : SCMessage) : AddressResolutions :=
  match msg.originating.bind switch.pendingResolutions.get with
  | none => switch
  | some owner =>
    if switch.future owner = .pending then
      match decodeWebsocketUris msg.payload with
      | none => switch
      | some uris => switch.setFuture owner ((switch.future owner).setResult uris)
    else switch

/-- `task.cancel()`, for a task that awaits the future of `owner`. -/
def cancelTask (switch : AddressResolutions) (owner id : Nat) (call : ResolveCall)
    (phase : Bool → CallPhase) (mustCancel : Bool)
    : AddressResolutions :=
  (switch.setFuture owner (switch.future owner).cancel).setCall id
    { call with phase := phase (mustCancel || (switch.future owner).mustCancel) }

def step (switch : AddressResolutions) (event : Event) : Option AddressResolutions :=
  match event with
  | .resolve id dest => if (switch.calls.get id).isSome then none else some (switch.resolve id dest)
  | .sent id outcome => do
      let call ← switch.calls.get id
      if call.phase = .sending then some (switch.sent id call outcome) else none
  | .ack msg => some (switch.handleAddressResolutionAck msg)
  | .expire id => do
      let call ← switch.calls.get id
      match call.phase with
      | .resolving false mustCancel =>
        some (switch.cancelTask id id call (.resolving true) mustCancel)
      | _ => none
  | .cancel id => do
      let call ← switch.calls.get id
      let asked := { call with cancelRequested := true }
      match call.phase with
      -- `hub_send` gets the cancellation, and ends as it will
      | .sending => some (switch.setCall id asked)
      | .resolving expired mustCancel =>
        some (switch.cancelTask id id asked (.resolving expired) mustCancel)
      | .joined owner mustCancel =>
        some (switch.cancelTask owner id asked (.joined owner) mustCancel)
      | _ => none
  | .resume id => do
      let call ← switch.calls.get id
      switch.goOn id call

-- The shared answer

/-- What the calls that share a future answer: the acknowledged URIs, or none. -/
def answer (switch : AddressResolutions) (shared : Option Nat) : List String :=
  match shared.map switch.future with
  | some (.done uris) => uris
  | _ => []

/-- Nobody awaits `hub_send`, or a timeout, or has anything to go on with. -/
def Still (switch : AddressResolutions) : Prop :=
  ∀ id call, switch.calls.get id = some call → ¬ call.phase.Owns ∧ switch.goOn id call = none

/-- What holds after the events of a run. -/
structure AnswersShared (switch : AddressResolutions) (events : List Event) : Prop where
  same : ∀ id call shared uris, switch.calls.get id = some call
    → call.phase = .returned shared uris → uris = switch.answer shared
  acknowledged : ∀ id call shared uris, switch.calls.get id = some call
    → call.phase = .returned shared uris
    → uris = [] ∨ ∃ msg, .ack msg ∈ events ∧ msg.originating = some call.dest
      ∧ decodeWebsocketUris msg.payload = some uris
  asked : ∀ id call, switch.calls.get id = some call → call.phase = .cancelled
    → call.cancelRequested = true
  notRaised : ∀ id call exception, switch.calls.get id = some call
    → call.phase ≠ .raised exception
  goesOn : ∀ id call owner mustCancel, switch.calls.get id = some call
    → call.phase = .joined owner mustCancel
    → switch.future owner ≠ .pending
      ∨ ∃ other, switch.calls.get owner = some other ∧ other.phase.Owns
  released : ∀ dest id, switch.pendingResolutions.get dest = some id
    → ∃ call, switch.calls.get id = some call ∧ call.dest = dest ∧ call.phase.Owns
  ends : switch.Still
    → (∀ id call, switch.calls.get id = some call
        → (∃ shared uris, call.phase = .returned shared uris) ∨ call.cancelRequested = true)
      ∧ ∀ dest, switch.pendingResolutions.get dest = none

/-- No call but `id` waits for the future of `owner`. -/
def Unshared (switch : AddressResolutions) (owner id : Nat) : Prop :=
  ∀ other call, switch.calls.get other = some call → other ≠ id
    → ∀ mustCancel, call.phase ≠ .joined owner mustCancel

/-- The future of the call may be given up: no acknowledgement has come, and while none can come any
more no other call waits for it.
-/
def Abandonable (switch : AddressResolutions) (owner id : Nat) : Prop :=
  (∀ uris, switch.future owner ≠ .done uris)
    ∧ (switch.future owner = .pending → switch.Unshared owner id)

/-- The steps that do no harm: `hub_send` fails only with an OSError or a cancellation; a send that
fails, a timeout and a cancellation of the call that made the future come without an acknowledgement
and while no other call waits; a call that waits is cancelled when the future is settled or when it is
the only one; and no call joins a cancelled future.
-/
def Undisturbed (switch : AddressResolutions) (event : Event) : Prop :=
  match event with
  | .resolve _ dest => ∀ owner, switch.pendingResolutions.get dest = some owner
      → switch.future owner ≠ .cancelled
  | .sent id (.error error) =>
    (error = .cancelledError ∨ error = .exception .osError) ∧ switch.Abandonable id id
  | .expire id => switch.Abandonable id id
  | .cancel id => ∀ call, switch.calls.get id = some call
      → (∀ expired mustCancel, call.phase = .resolving expired mustCancel
          → switch.Abandonable id id)
        ∧ ∀ owner mustCancel, call.phase = .joined owner mustCancel
          → switch.future owner = .pending → switch.Unshared owner id
  | _ => True

-- The invariant

/-- A call made the future of this name, for this VMAC. -/
def Made (switch : AddressResolutions) (owner : Nat) (dest : SCVMAC) : Prop :=
  ∃ call, switch.calls.get owner = some call ∧ call.dest = dest

def Fits (switch : AddressResolutions) (id : Nat) (call : ResolveCall) : Prop :=
  match call.phase with
  | .sending => switch.pendingResolutions.get call.dest = some id
  | .resolving _ mustCancel =>
    switch.pendingResolutions.get call.dest = some id
      ∧ (mustCancel = true → switch.future id = .cancelled)
  | .joined owner mustCancel =>
    (mustCancel = true ∨ switch.future owner = .cancelled → call.cancelRequested = true)
      ∧ (switch.future owner = .pending
        → switch.pendingResolutions.get call.dest = some owner)
      ∧ switch.Made owner call.dest
  | .returned shared uris =>
    uris = switch.answer shared
      ∧ ∀ owner, shared = some owner
        → (switch.future owner = .pending
            → switch.pendingResolutions.get call.dest ≠ some owner)
          ∧ switch.Made owner call.dest
  | .cancelled => call.cancelRequested = true
  | .raised _ => False

/-- Every call fits, and the entries are those of the calls that made a future and are not over. -/
structure Consistent (switch : AddressResolutions) : Prop where
  fits : ∀ id call, switch.calls.get id = some call → switch.Fits id call
  released : ∀ dest id, switch.pendingResolutions.get dest = some id
    → ∃ call, switch.calls.get id = some call ∧ call.dest = dest ∧ call.phase.Owns

variable {switch next : AddressResolutions} {id owner : Nat} {call : ResolveCall} {dest : SCVMAC}
  {event : Event} {value : Library.Future (List String)}

@[simp] theorem future_setFuture (switch : AddressResolutions) (id other : Nat)
    (value : Library.Future (List String))
    : (switch.setFuture id value).future other = if other = id then value else switch.future other := by
  by_cases same : other = id <;> simp [setFuture, future, Dict.get_set, same]

@[simp] theorem future_setCall (switch : AddressResolutions) (id : Nat) (call : ResolveCall)
    : (switch.setCall id call).future = switch.future :=
  rfl

/-- A call that made its future and is not over is in the table. -/
theorem Fits.listed (fits : switch.Fits id call) (owns : call.phase.Owns)
    : switch.pendingResolutions.get call.dest = some id := by
  rcases owns with sending | ⟨expired, mustCancel, resolving⟩
  · simpa [Fits, sending] using fits
  · simp only [Fits, resolving] at fits
    exact fits.1

theorem Made.setCall (made : switch.Made owner dest)
    (keeps : ∀ old, switch.calls.get id = some old → old.dest = call.dest)
    : (switch.setCall id call).Made owner dest := by
  obtain ⟨old, there, same⟩ := made
  by_cases this : owner = id
  · subst this
    exact ⟨call, by simp [AddressResolutions.setCall], (keeps old there).symm.trans same⟩
  · exact ⟨old, by simpa [AddressResolutions.setCall, Dict.get_set, this] using there, same⟩

/-- The call makes, awaits or has shared the future of `owner`. -/
def Names (id : Nat) (call : ResolveCall) (owner : Nat) : Prop :=
  match call.phase with
  | .sending => owner = id
  | .resolving _ _ => owner = id
  | .joined shared _ => owner = shared
  | .returned shared _ => shared = some owner
  | .cancelled => False
  | .raised _ => False

/-- What holds of a call only depends on the future that it names, on the entry of that, and on the VMACs.
By cases on its phase.
-/
theorem Fits.mono (fits : switch.Fits id call)
    (futures : ∀ owner, Names id call owner → next.future owner = switch.future owner)
    (listed : ∀ owner, switch.pendingResolutions.get call.dest = some owner
      → (owner = id
        ∨ switch.future owner = .pending ∧ ∃ mustCancel, call.phase = .joined owner mustCancel)
      → next.pendingResolutions.get call.dest = some owner)
    (unlisted : ∀ owner, Names id call owner → next.pendingResolutions.get call.dest = some owner
      → switch.pendingResolutions.get call.dest = some owner)
    (made : ∀ owner dest, switch.Made owner dest → next.Made owner dest)
    : next.Fits id call := by
  cases phase : call.phase with
  | sending =>
    simp only [Fits, phase] at fits ⊢
    exact listed id fits (.inl rfl)
  | resolving expired mustCancel =>
    simp only [Fits, Names, phase] at fits futures ⊢
    rw [futures id rfl]
    exact ⟨listed id fits.1 (.inl rfl), fits.2⟩
  | joined owner mustCancel =>
    simp only [Fits, Names, phase] at fits futures ⊢
    rw [futures owner rfl]
    refine ⟨fits.1, fun pending => ?_, made _ _ fits.2.2⟩
    exact listed owner (fits.2.1 pending) (.inr ⟨pending, mustCancel, phase⟩)
  | returned shared uris =>
    simp only [Fits, Names, phase] at fits futures unlisted ⊢
    have same : next.answer shared = switch.answer shared := by
      cases shared with
      | none => rfl
      | some owner => simp only [answer, Option.map_some, futures owner rfl]
    rw [same]
    refine ⟨fits.1, fun owner names => ?_⟩
    obtain ⟨gone, made'⟩ := fits.2 owner names
    rw [futures owner names]
    exact ⟨fun pending entry => gone pending (unlisted owner names entry), made _ _ made'⟩
  | cancelled =>
    simp only [Fits, phase] at fits ⊢
    exact fits
  | raised exception => simp [Fits, phase] at fits

theorem Fits.congr (fits : switch.Fits id call) (futures : next.future = switch.future)
    (table : next.pendingResolutions = switch.pendingResolutions)
    (made : ∀ owner dest, switch.Made owner dest → next.Made owner dest)
    : next.Fits id call :=
  fits.mono (fun owner _ => congrFun futures owner) (fun _ entry _ => table ▸ entry)
    (fun _ _ entry => table ▸ entry) made

/-- The VMAC of a call that is replaced. -/
theorem keeps_dest {call'} (there : switch.calls.get id = some call')
    (same : call'.dest = call.dest)
    : ∀ old, switch.calls.get id = some old → old.dest = call.dest := by
  intro old there'
  rw [← Option.some.inj (there.symm.trans there'), same]

/-- An entry leads to its call. -/
theorem Consistent.owned (consistent : switch.Consistent) (there : switch.calls.get id = some call)
    (listed : switch.pendingResolutions.get dest = some id)
    : call.dest = dest ∧ call.phase.Owns := by
  obtain ⟨call', there', rest⟩ := consistent.released dest id listed
  cases there.symm.trans there'
  exact rest

/-- One call is replaced. -/
theorem Consistent.setCall (consistent : switch.Consistent)
    (keeps : ∀ old, switch.calls.get id = some old → old.dest = call.dest)
    (fits : (switch.setCall id call).Fits id call)
    (owns : ∀ dest, switch.pendingResolutions.get dest = some id
      → call.dest = dest ∧ call.phase.Owns)
    : (switch.setCall id call).Consistent := by
  constructor
  · intro other call' there
    by_cases this : other = id
    · subst this
      obtain rfl : call = call' := by simpa [AddressResolutions.setCall] using there
      exact fits
    · have before : switch.calls.get other = some call' := by
        simpa [AddressResolutions.setCall, Dict.get_set, this] using there
      exact (consistent.fits other call' before).congr rfl rfl fun _ _ made => made.setCall keeps
  · intro dest other entry
    by_cases this : other = id
    · subst this
      exact ⟨call, by simp [AddressResolutions.setCall], owns dest entry⟩
    · obtain ⟨call', there, rest⟩ := consistent.released dest other entry
      exact ⟨call', by simpa [AddressResolutions.setCall, Dict.get_set, this] using there, rest⟩

/-- A pending future of an entry is settled: no call that is over awaited it, and those that wait for
it are to be told of a cancellation only if they asked for one.
-/
theorem Consistent.settle (consistent : switch.Consistent)
    (entry : switch.pendingResolutions.get dest = some owner)
    (pending : switch.future owner = .pending) (settled : value ≠ .pending)
    (told : value = .cancelled → ∀ id call mustCancel, switch.calls.get id = some call
      → call.phase = .joined owner mustCancel → call.cancelRequested = true)
    : (switch.setFuture owner value).Consistent := by
  refine ⟨?_, consistent.released⟩
  intro id call there
  have fits := consistent.fits id call there
  have others : ∀ other, other ≠ owner
      → (switch.setFuture owner value).future other = switch.future other := by
    intro other different
    rw [future_setFuture, if_neg different]
  by_cases names : Names id call owner
  · cases phase : call.phase with
    | sending =>
      simp only [Fits, phase] at fits ⊢
      exact fits
    | resolving expired mustCancel =>
      simp only [Fits, Names, phase] at fits names ⊢
      refine ⟨fits.1, fun must => ?_⟩
      have cancelled := fits.2 must
      rw [← names, pending] at cancelled
      cases cancelled
    | joined shared mustCancel =>
      simp only [Fits, Names, phase] at fits names ⊢
      subst names
      rw [future_setFuture, if_pos rfl]
      refine ⟨fun why => ?_, fun same => absurd same settled, fits.2.2⟩
      rcases why with must | cancelled
      · exact fits.1 (.inl must)
      · exact told cancelled id call mustCancel there phase
    | returned shared uris =>
      simp only [Fits, Names, phase] at fits names
      obtain ⟨unlisted, call', there', dest'⟩ := fits.2 owner names
      obtain ⟨same, _⟩ := consistent.owned there' entry
      exact absurd (by rw [← dest', same, entry]) (unlisted pending)
    | cancelled => simp [Names, phase] at names
    | raised exception => simp [Names, phase] at names
  · refine fits.mono (fun other named => others other fun same => names (same ▸ named)) ?_ ?_ ?_
    · exact fun _ entry _ => entry
    · exact fun _ _ entry => entry
    · exact fun _ _ made => made

/-- A call that made a future is over with the answer, and no call waits for it in vain. -/
theorem Consistent.finish (consistent : switch.Consistent) (there : switch.calls.get id = some call)
    (owns : call.phase.Owns)
    (unshared : switch.future id = .pending → switch.Unshared id id)
    : (switch.finish id call (.returned (some id) (switch.answer (some id)))).Consistent := by
  have entry := (consistent.fits id call there).listed owns
  have table : (switch.finish id call (.returned (some id) (switch.answer (some id)))).pendingResolutions
      = switch.pendingResolutions.pop call.dest :=
    rfl
  have apart : ∀ other dest, other ≠ id → switch.pendingResolutions.get dest = some other
      → dest ≠ call.dest := by
    intro other dest different listed same
    rw [same, entry] at listed
    exact different (Option.some.inj listed).symm
  have made : ∀ owner dest, switch.Made owner dest
      → (switch.finish id call (.returned (some id) (switch.answer (some id)))).Made owner dest :=
    fun owner dest made => made.setCall (keeps_dest there rfl)
  constructor
  · intro other call' there'
    by_cases this : other = id
    · subst this
      obtain rfl : _ = call' := by
        simpa only [AddressResolutions.finish, AddressResolutions.setCall, Dict.get_set_self,
          Option.some.injEq] using there'
      refine ⟨rfl, ?_⟩
      intro owner same
      cases same
      refine ⟨?_, made _ _ ⟨call, there, rfl⟩⟩
      intro _ listed
      simp [table] at listed
    · have before : switch.calls.get other = some call' := by
        simpa only [AddressResolutions.finish, AddressResolutions.setCall,
          Dict.get_set_ne this] using there'
      refine (consistent.fits other call' before).mono (fun _ _ => rfl) ?_ ?_ made
      · intro owner listed why
        have different : owner ≠ id := by
          rintro rfl
          rcases why with same | ⟨pending, mustCancel, joined⟩
          · exact this same.symm
          · exact unshared pending other call' before this mustCancel joined
        rw [table, Dict.get_pop_ne (apart owner _ different listed)]
        exact listed
      · intro owner _ listed
        rw [table, Dict.get_pop] at listed
        split at listed
        · cases listed
        · exact listed
  · intro dest other listed
    rw [table, Dict.get_pop] at listed
    split at listed
    · cases listed
    · next different =>
        obtain ⟨call', there', same, rest⟩ := consistent.released dest other listed
        have this : other ≠ id := by
          rintro rfl
          exact different (consistent.owned there listed).1.symm
        exact ⟨call', by
          simpa only [AddressResolutions.finish, AddressResolutions.setCall, Dict.get_set_ne this]
            using there', same, rest⟩

-- One step

/-- What a call that made its future answers when it gives up. -/
theorem answer_abandoned (free : ∀ uris, switch.future id ≠ .done uris)
    : switch.answer (some id) = [] := by
  simp only [answer, Option.map_some]
  cases settled : switch.future id with
  | done uris => exact absurd settled (free uris)
  | _ => rfl

/-- A call that goes on with a settled future keeps the invariant. -/
theorem Consistent.goOn (consistent : switch.Consistent) (there : switch.calls.get id = some call)
    (gone : switch.goOn id call = some next)
    : next.Consistent := by
  have fits := consistent.fits id call there
  unfold AddressResolutions.goOn at gone
  split at gone
  · next expired mustCancel phase =>
      obtain ⟨result, awaited, rfl⟩ := Option.map_eq_some_iff.mp gone
      simp only [Fits, phase] at fits
      have settled : switch.future id ≠ .pending := by
        intro pending
        simp [Library.Future.awaited_eq_none.mpr pending] at awaited
      have answered : result.getD [] = switch.answer (some id) := by
        cases result with
        | some uris =>
          obtain ⟨done, _⟩ := Library.Future.awaited_result.mp awaited
          simp [answer, done]
        | none =>
          have cancelled : switch.future id = .cancelled := by
            rcases Library.Future.awaited_cancelled.mp awaited with here | ⟨_, must⟩
            · exact here
            · exact fits.2 must
          simp [answer, cancelled]
      rw [answered]
      exact consistent.finish there (.inr ⟨expired, mustCancel, phase⟩) fun pending =>
        absurd pending settled
  · next owner mustCancel phase =>
      obtain ⟨result, awaited, rfl⟩ := Option.map_eq_some_iff.mp gone
      simp only [Fits, phase] at fits
      refine consistent.setCall (keeps_dest there rfl) ?_ ?_
      · cases result with
        | some uris =>
          obtain ⟨done, _⟩ := Library.Future.awaited_result.mp awaited
          refine ⟨by simp [answer, done], ?_⟩
          intro owner' same
          cases same
          refine ⟨fun pending => ?_, fits.2.2.setCall (keeps_dest there rfl)⟩
          rw [future_setCall, done] at pending
          cases pending
        | none =>
          rcases Library.Future.awaited_cancelled.mp awaited with cancelled | ⟨_, must⟩
          · exact fits.1 (.inr cancelled)
          · exact fits.1 (.inl must)
      · intro dest listed
        have owns := (consistent.owned there listed).2
        simp [CallPhase.Owns, phase] at owns
  · cases gone

/-- Going on does not look at the entry of the call itself. -/
theorem goOn_setCall (switch : AddressResolutions) (id : Nat) (call : ResolveCall)
    : (switch.setCall id call).goOn id call = switch.goOn id call := by
  unfold goOn
  split <;> simp [finish, setCall, future, Dict.set_set]

/-- A call that waits, or does not have to. -/
theorem Consistent.awaitFuture (consistent : (switch.setCall id call).Consistent)
    : (switch.awaitFuture id call).Consistent := by
  unfold AddressResolutions.awaitFuture
  cases gone : switch.goOn id call with
  | none => exact consistent
  | some next =>
    exact consistent.goOn (by simp [AddressResolutions.setCall])
      ((goOn_setCall switch id call).trans gone)

theorem futures_opened (switch : AddressResolutions) (dest : SCVMAC) (different : owner ≠ id)
    : (switch.opened id dest).future owner = switch.future owner := by
  rw [opened, future_setCall, future_setFuture, if_neg different]
  rfl

theorem calls_opened (switch : AddressResolutions) (dest : SCVMAC) (different : owner ≠ id)
    : (switch.opened id dest).calls.get owner = switch.calls.get owner := by
  simp only [opened, setCall, setFuture, Dict.get_set_ne different]

/-- A call makes a future, while there is no entry. -/
theorem Consistent.opened (consistent : switch.Consistent) (fresh : switch.calls.get id = none)
    (absent : switch.pendingResolutions.get dest = none)
    : (switch.opened id dest).Consistent := by
  have table : (switch.opened id dest).pendingResolutions = switch.pendingResolutions.set dest id :=
    rfl
  have kept : ∀ {dest' owner}, switch.pendingResolutions.get dest' = some owner
      → (switch.pendingResolutions.set dest id).get dest' = some owner := by
    intro dest' owner listed
    have different : dest' ≠ dest := by
      rintro rfl
      rw [absent] at listed
      cases listed
    rw [Dict.get_set_ne different]
    exact listed
  have old : ∀ owner dest', switch.Made owner dest' → owner ≠ id := by
    intro owner dest' made same
    obtain ⟨call, there, _⟩ := made
    rw [same, fresh] at there
    cases there
  have made : ∀ owner dest', switch.Made owner dest' → (switch.opened id dest).Made owner dest' := by
    intro owner dest' made
    have different := old owner dest' made
    obtain ⟨call, there, same⟩ := made
    exact ⟨call, (calls_opened switch dest different).trans there, same⟩
  constructor
  · intro other call there
    by_cases this : other = id
    · subst this
      cases (Dict.get_set_self ..).symm.trans there
      exact Dict.get_set_self ..
    · have before : switch.calls.get other = some call :=
        (calls_opened switch dest this).symm.trans there
      have fits := consistent.fits other call before
      have named : ∀ owner, Names other call owner → owner ≠ id := by
        intro owner names
        cases phase : call.phase with
        | sending | resolving =>
          simp only [Names, phase] at names
          exact names ▸ this
        | joined shared mustCancel =>
          simp only [Fits, Names, phase] at fits names
          exact names ▸ old _ _ fits.2.2
        | returned shared uris =>
          simp only [Fits, Names, phase] at fits names
          exact old _ _ (fits.2 owner names).2
        | cancelled | raised => simp [Names, phase] at names
      refine fits.mono (fun owner names => futures_opened switch dest (named owner names)) ?_ ?_ made
      · exact fun owner listed _ => kept listed
      · intro owner names listed
        rw [table, Dict.get_set] at listed
        split at listed
        · exact absurd (Option.some.inj listed).symm (named owner names)
        · exact listed
  · intro dest' other listed
    rw [table, Dict.get_set] at listed
    split at listed
    · next same =>
        cases listed
        exact ⟨_, Dict.get_set_self .., same.symm, .inl rfl⟩
    · obtain ⟨call, there, rest⟩ := consistent.released dest' other listed
      exact ⟨call, (calls_opened switch dest (old other _ ⟨call, there, rfl⟩)).trans there, rest⟩

theorem Consistent.resolve (consistent : switch.Consistent) (fresh : switch.calls.get id = none)
    (live : ∀ owner, switch.pendingResolutions.get dest = some owner
      → switch.future owner ≠ .cancelled)
    : (switch.resolve id dest).Consistent := by
  have keeps : ∀ {call : ResolveCall} old, switch.calls.get id = some old
      → old.dest = call.dest := by
    intro call old there
    rw [fresh] at there
    cases there
  have unlisted : ∀ dest, switch.pendingResolutions.get dest ≠ some id := by
    intro dest listed
    obtain ⟨call, there, _⟩ := consistent.released dest id listed
    rw [fresh] at there
    cases there
  unfold AddressResolutions.resolve
  split
  · next owner listed =>
      obtain ⟨maker, there, same, _⟩ := consistent.released dest owner listed
      refine (consistent.setCall keeps ?_ fun dest' entry => absurd entry (unlisted dest')).awaitFuture
      refine ⟨?_, fun _ => listed, Made.setCall ⟨maker, there, same⟩ keeps⟩
      intro why
      rcases why with must | cancelled
      · cases must
      · exact absurd cancelled (live owner listed)
  · next absent =>
      split
      · refine consistent.setCall keeps ⟨rfl, ?_⟩ fun dest' entry => absurd entry (unlisted dest')
        intro owner same
        cases same
      · exact consistent.opened fresh absent

theorem Consistent.sent (consistent : switch.Consistent) (there : switch.calls.get id = some call)
    (phase : call.phase = .sending) {outcome} (undisturbed : switch.Undisturbed (.sent id outcome))
    : (switch.sent id call outcome).Consistent := by
  have entry := (consistent.fits id call there).listed (.inl phase)
  cases outcome with
  | ok _ =>
    refine Consistent.awaitFuture (consistent.setCall (keeps_dest there rfl)
      ⟨entry, fun must => by cases must⟩ ?_)
    exact fun dest listed => ⟨(consistent.owned there listed).1, .inr ⟨false, false, rfl⟩⟩
  | error error =>
    obtain ⟨known, free, unshared⟩ := undisturbed
    have finished := consistent.finish there (.inl phase) unshared
    rw [answer_abandoned free] at finished
    rcases known with rfl | rfl <;> exact finished

theorem Consistent.handleAddressResolutionAck (consistent : switch.Consistent) (msg : SCMessage)
    : (switch.handleAddressResolutionAck msg).Consistent := by
  unfold AddressResolutions.handleAddressResolutionAck
  split
  · exact consistent
  · next owner found =>
      obtain ⟨dest, _, entry⟩ := Option.bind_eq_some_iff.mp found
      split
      · next pending =>
          split
          · exact consistent
          · rw [pending]
            exact consistent.settle entry pending (by simp) (by simp)
      · exact consistent

/-- Cancelling a task settles the future it awaits, if that is pending. -/
theorem Consistent.cancelTask {phase mustCancel}
    (replaced : (switch.setCall id { call with
      phase := phase (mustCancel || (switch.future owner).mustCancel)
    }).Consistent)
    (entry : switch.future owner = .pending → switch.pendingResolutions.get dest = some owner)
    (told : switch.future owner = .pending → ∀ other waiting mustCancel',
      (switch.setCall id { call with phase := phase mustCancel }).calls.get other = some waiting
      → waiting.phase = .joined owner mustCancel' → waiting.cancelRequested = true)
    : (switch.cancelTask owner id call phase mustCancel).Consistent := by
  by_cases pending : switch.future owner = .pending
  · have settled : ((switch.setCall id { call with
        phase := phase (mustCancel || (switch.future owner).mustCancel)
      }).setFuture owner .cancelled).Consistent := by
      refine replaced.settle (entry pending) pending (by simp) fun _ => ?_
      simpa [pending, Library.Future.mustCancel] using told pending
    rw [AddressResolutions.cancelTask, pending] at *
    exact settled
  · rw [AddressResolutions.cancelTask, Library.Future.cancel_settled pending]
    refine ⟨fun other waiting there => ?_, replaced.released⟩
    refine (replaced.fits other waiting there).congr ?_ rfl fun _ _ made => made
    funext other'
    rw [future_setCall, future_setFuture, future_setCall]
    split
    · next same => rw [same]
    · rfl

/-- The call that made the future is cancelled or times out, without harm to others. -/
theorem Consistent.cancelOwner (consistent : switch.Consistent) {old}
    (there : switch.calls.get id = some old) {expired expired' mustCancel}
    (phase : old.phase = .resolving expired mustCancel) (same : old.dest = call.dest)
    (free : switch.Abandonable id id)
    : (switch.cancelTask id id call (.resolving expired') mustCancel).Consistent := by
  have fits := consistent.fits id old there
  simp only [Fits, phase] at fits
  refine Consistent.cancelTask (consistent.setCall (keeps_dest there same) ⟨same ▸ fits.1, ?_⟩ ?_)
    (fun _ => fits.1) ?_
  · intro must
    rcases Bool.or_eq_true_iff.mp must with earlier | now
    · exact fits.2 earlier
    · cases settled : switch.future id with
      | pending => exact absurd settled (Library.Future.mustCancel_iff.mp now)
      | done uris => exact absurd settled (free.1 uris)
      | cancelled => exact settled
  · intro dest listed
    exact ⟨same.symm.trans (consistent.owned there listed).1, .inr ⟨_, _, rfl⟩⟩
  · intro pending other waiting mustCancel' there' joined
    by_cases this : other = id
    · subst this
      cases (Dict.get_set_self ..).symm.trans there'
      cases joined
    · exact absurd joined (free.2 pending other waiting
        ((Dict.get_set_ne this).symm.trans there') this mustCancel')

/-- A call that waits is cancelled, without harm to others. -/
theorem Consistent.cancelJoined (consistent : switch.Consistent) {old}
    (there : switch.calls.get id = some old) {mustCancel}
    (phase : old.phase = .joined owner mustCancel)
    (alone : switch.future owner = .pending → switch.Unshared owner id)
    : (switch.cancelTask owner id { old with cancelRequested := true } (.joined owner)
        mustCancel).Consistent := by
  have fits := consistent.fits id old there
  simp only [Fits, phase] at fits
  refine Consistent.cancelTask (consistent.setCall (keeps_dest there rfl) ⟨fun _ => rfl, fits.2.1,
    fits.2.2.setCall (keeps_dest there rfl)⟩ ?_) fits.2.1 ?_
  · intro dest listed
    have owns := (consistent.owned there listed).2
    simp [CallPhase.Owns, phase] at owns
  · intro pending other waiting mustCancel' there' joined
    by_cases this : other = id
    · subst this
      cases (Dict.get_set_self ..).symm.trans there'
      rfl
    · exact absurd joined (alone pending other waiting
        ((Dict.get_set_ne this).symm.trans there') this mustCancel')

/-- One event keeps the invariant, if it is undisturbed, by cases on the event. -/
theorem consistent_step (consistent : switch.Consistent) (undisturbed : switch.Undisturbed event)
    (moved : switch.step event = some next)
    : next.Consistent := by
  cases event with
  | resolve id dest =>
    simp only [step] at moved
    split at moved
    · cases moved
    · next absent =>
        cases moved
        exact consistent.resolve (by simpa using absent) undisturbed
  | sent id outcome =>
    obtain ⟨call, there, moved⟩ := Option.bind_eq_some_iff.mp moved
    split at moved
    · next phase =>
        cases moved
        exact consistent.sent there phase undisturbed
    · cases moved
  | ack msg =>
    cases moved
    exact consistent.handleAddressResolutionAck msg
  | expire id =>
    obtain ⟨call, there, moved⟩ := Option.bind_eq_some_iff.mp moved
    split at moved
    · next mustCancel phase =>
        cases moved
        exact consistent.cancelOwner there phase rfl undisturbed
    · cases moved
  | cancel id =>
    obtain ⟨call, there, moved⟩ := Option.bind_eq_some_iff.mp moved
    obtain ⟨resolving, joined⟩ := undisturbed call there
    dsimp only at moved
    split at moved
    · next phase =>
        cases moved
        have entry := (consistent.fits id call there).listed (.inl phase)
        refine consistent.setCall (keeps_dest there rfl) ?_ ?_
        · simp only [Fits, phase]
          exact entry
        · intro dest listed
          have owned := consistent.owned there listed
          exact owned
    · next expired mustCancel phase =>
        cases moved
        exact consistent.cancelOwner there phase rfl (resolving expired mustCancel phase)
    · next owner mustCancel phase =>
        cases moved
        exact consistent.cancelJoined there phase (joined owner mustCancel phase)
    · cases moved
  | resume id =>
    obtain ⟨call, there, moved⟩ := Option.bind_eq_some_iff.mp moved
    exact consistent.goOn there moved

-- Acknowledgements

/-- No VMAC of a call and no answer is new, other than through an acknowledgement. -/
structure Follows (switch next : AddressResolutions) : Prop where
  made : ∀ id dest, switch.Made id dest → next.Made id dest
  done : ∀ id uris, next.future id = .done uris → switch.future id = .done uris

theorem Follows.setCall (there : switch.calls.get id = some call) {call'}
    (same : call'.dest = call.dest)
    : switch.Follows (switch.setCall id call') := by
  exact ⟨fun _ _ made => made.setCall (keeps_dest there same.symm), fun _ _ done => done⟩

theorem Follows.finish (there : switch.calls.get id = some call) {call'}
    (same : call'.dest = call.dest) (phase : CallPhase)
    : switch.Follows (switch.finish id call' phase) :=
  have replaced : switch.Follows (switch.setCall id { call' with phase }) := .setCall there same
  ⟨replaced.made, fun _ _ done => done⟩

theorem Follows.goOn (there : switch.calls.get id = some call) {call'}
    (same : call'.dest = call.dest) (gone : switch.goOn id call' = some next)
    : switch.Follows next := by
  unfold AddressResolutions.goOn at gone
  split at gone
  · obtain ⟨result, _, rfl⟩ := Option.map_eq_some_iff.mp gone
    exact .finish there same _
  · obtain ⟨result, _, rfl⟩ := Option.map_eq_some_iff.mp gone
    exact .setCall there same
  · cases gone

theorem Follows.trans {last} (first : switch.Follows next) (second : next.Follows last)
    : switch.Follows last :=
  ⟨fun id dest made => second.made id dest (first.made id dest made),
    fun id uris done => first.done id uris (second.done id uris done)⟩

theorem Follows.awaitFuture (entered : switch.Follows (switch.setCall id call))
    : switch.Follows (switch.awaitFuture id call) := by
  unfold AddressResolutions.awaitFuture
  cases gone : switch.goOn id call with
  | none => exact entered
  | some next =>
    exact entered.trans (.goOn (Dict.get_set_self ..) rfl
      ((goOn_setCall switch id call).trans gone))

theorem Follows.cancelTask (there : switch.calls.get id = some call) {call'}
    (same : call'.dest = call.dest) (phase : Bool → CallPhase) (mustCancel : Bool)
    : switch.Follows (switch.cancelTask owner id call' phase mustCancel) := by
  have replaced : switch.Follows (switch.setCall id { call' with
      phase := phase (mustCancel || (switch.future owner).mustCancel)
    }) :=
    .setCall there same
  refine ⟨replaced.made, ?_⟩
  intro other uris done
  rw [AddressResolutions.cancelTask, future_setCall, future_setFuture] at done
  split at done
  · next same =>
      subst same
      cases settled : switch.future other with
      | done _ => simpa [settled, Library.Future.cancel] using done
      | _ => simp [settled, Library.Future.cancel] at done
  · exact done

theorem Follows.resolve (fresh : switch.calls.get id = none)
    : switch.Follows (switch.resolve id dest) := by
  have entered : ∀ call, switch.Follows (switch.setCall id call) := by
    intro call
    refine ⟨fun _ _ made => made.setCall ?_, fun _ _ done => done⟩
    intro old there
    rw [fresh] at there
    cases there
  unfold AddressResolutions.resolve
  split
  · exact (entered _).awaitFuture
  · split
    · exact entered _
    · refine ⟨(entered { dest, phase := .sending }).made, ?_⟩
      intro other uris done
      by_cases this : other = id
      · simp [this, opened] at done
      · rwa [futures_opened switch dest this] at done

/-- One event, by cases on it: either it answers nothing, or it is an acknowledgement that answers the
call whose VMAC it comes from.
-/
theorem follows_step (moved : switch.step event = some next)
    : switch.Follows next
      ∨ ∃ msg owner dest uris, event = .ack msg ∧ msg.originating = some dest
        ∧ switch.pendingResolutions.get dest = some owner
        ∧ decodeWebsocketUris msg.payload = some uris
        ∧ next = switch.setFuture owner (.done uris) := by
  cases event with
  | resolve id dest =>
    simp only [step] at moved
    split at moved
    · cases moved
    · next absent =>
        cases moved
        exact .inl (.resolve (by simpa using absent))
  | sent id outcome =>
    obtain ⟨call, there, moved⟩ := Option.bind_eq_some_iff.mp moved
    split at moved
    · cases moved
      refine .inl ?_
      unfold sent
      split
      · exact (Follows.setCall there (by rfl)).awaitFuture
      · exact .finish there (by rfl) _
      · split <;> exact .finish there (by rfl) _
    · cases moved
  | ack msg =>
    cases moved
    have nothing : switch.Follows switch := ⟨fun _ _ made => made, fun _ _ done => done⟩
    simp only [handleAddressResolutionAck]
    split
    · exact .inl nothing
    · next owner found =>
        obtain ⟨dest, from_, entry⟩ := Option.bind_eq_some_iff.mp found
        split
        · next pending =>
            split
            · exact .inl nothing
            · next uris decoded =>
                exact .inr ⟨msg, owner, dest, uris, rfl, from_, entry, decoded, by simp [pending]⟩
        · exact .inl nothing
  | expire id =>
    obtain ⟨call, there, moved⟩ := Option.bind_eq_some_iff.mp moved
    split at moved
    · cases moved
      exact .inl (.cancelTask there (by rfl) _ _)
    · cases moved
  | cancel id =>
    obtain ⟨call, there, moved⟩ := Option.bind_eq_some_iff.mp moved
    dsimp only at moved
    split at moved
    · cases moved
      exact .inl (.setCall there (by rfl))
    · cases moved
      exact .inl (.cancelTask there (by rfl) _ _)
    · cases moved
      exact .inl (.cancelTask there (by rfl) _ _)
    · cases moved
  | resume id =>
    obtain ⟨call, there, moved⟩ := Option.bind_eq_some_iff.mp moved
    exact .inl (.goOn there (by rfl) moved)

/-- A call keeps its VMAC in a run, by run induction. -/
theorem made_run {events final dest'} (ran : run step switch events = some final)
    (made : switch.Made id dest) (made' : final.Made id dest')
    : dest = dest' := by
  induction events generalizing switch with
  | nil =>
    cases ran
    obtain ⟨call, there, same⟩ := made
    obtain ⟨call', there', same'⟩ := made'
    cases there.symm.trans there'
    exact same.symm.trans same'
  | cons event rest ih =>
    obtain ⟨next, moved, ran⟩ := Option.bind_eq_some_iff.mp ran
    rcases follows_step moved with follows | ⟨_, _, _, _, _, _, _, _, rfl⟩
    · exact ih ran (follows.made id dest made)
    · exact ih ran made

/-- An answer that is new in a run was acknowledged from the VMAC of the call, by run induction. -/
theorem acknowledged_run {events final uris} (consistent : switch.Consistent)
    (meets : Meets step Undisturbed switch events) (ran : run step switch events = some final)
    (done : final.future id = .done uris) (made : final.Made id dest)
    : switch.future id = .done uris
      ∨ ∃ msg, .ack msg ∈ events ∧ msg.originating = some dest
        ∧ decodeWebsocketUris msg.payload = some uris := by
  induction events generalizing switch with
  | nil =>
    cases ran
    exact .inl done
  | cons event rest ih =>
    obtain ⟨next, moved, ran⟩ := Option.bind_eq_some_iff.mp ran
    obtain ⟨allowed, later⟩ := meets next moved
    rcases ih (consistent_step consistent allowed moved) later ran with before | ⟨msg, member, rest'⟩
    · rcases follows_step moved with follows
        | ⟨msg, owner, dest', uris', same, from_, entry, decoded, rfl⟩
      · exact .inl (follows.done id uris before)
      · by_cases this : id = owner
        · subst this
          have same' : uris' = uris := by simpa using before
          subst same same'
          refine .inr ⟨msg, List.mem_cons_self, from_.trans (congrArg some ?_), decoded⟩
          obtain ⟨call, there, same, _⟩ := consistent.released dest' id entry
          exact made_run ran ⟨call, there, same⟩ made
        · rw [future_setFuture, if_neg this] at before
          exact .inl before
    · exact .inr ⟨msg, List.mem_cons_of_mem _ member, rest'⟩

/-- The property of the states reached. -/
theorem Consistent.shared (consistent : switch.Consistent) {events}
    (acknowledged : ∀ id dest uris, switch.Made id dest → switch.future id = .done uris
      → ∃ msg, .ack msg ∈ events ∧ msg.originating = some dest
        ∧ decodeWebsocketUris msg.payload = some uris)
    : switch.AnswersShared events where
  same := by
    intro id call shared uris there phase
    have fits := consistent.fits id call there
    simp only [Fits, phase] at fits
    exact fits.1
  acknowledged := by
    intro id call shared uris there phase
    have fits := consistent.fits id call there
    simp only [Fits, phase] at fits
    obtain ⟨answered, made⟩ := fits
    cases shared with
    | none => exact .inl answered
    | some owner =>
      cases settled : switch.future owner with
      | done uris' =>
        obtain rfl : uris = uris' := by simpa [answer, settled] using answered
        exact .inr (acknowledged owner call.dest uris (made owner rfl).2 settled)
      | _ => exact .inl (by simpa [answer, settled] using answered)
  asked := by
    intro id call there phase
    have fits := consistent.fits id call there
    simpa only [Fits, phase] using fits
  notRaised := by
    intro id call exception there phase
    have fits := consistent.fits id call there
    simp [Fits, phase] at fits
  goesOn := by
    intro id call owner mustCancel there phase
    have fits := consistent.fits id call there
    simp only [Fits, phase] at fits
    by_cases pending : switch.future owner = .pending
    · obtain ⟨other, there', _, owns⟩ := consistent.released _ _ (fits.2.1 pending)
      exact .inr ⟨other, there', owns⟩
    · exact .inl pending
  released := consistent.released
  ends := by
    intro still
    have empty : ∀ dest, switch.pendingResolutions.get dest = none := by
      intro dest
      cases entry : switch.pendingResolutions.get dest with
      | none => rfl
      | some id =>
        obtain ⟨call, there, _, owns⟩ := consistent.released dest id entry
        exact absurd owns (still id call there).1
    refine ⟨?_, empty⟩
    intro id call there
    obtain ⟨owns, stuck⟩ := still id call there
    have fits := consistent.fits id call there
    cases phase : call.phase with
    | sending => exact absurd (.inl phase) owns
    | resolving expired mustCancel => exact absurd (.inr ⟨expired, mustCancel, phase⟩) owns
    | joined owner mustCancel =>
      simp only [AddressResolutions.goOn, phase, Option.map_eq_none_iff, Library.Future.awaited_eq_none] at stuck
      simp only [Fits, phase] at fits
      have listed := fits.2.1 stuck
      rw [empty] at listed
      cases listed
    | returned shared uris => exact .inl ⟨shared, uris, rfl⟩
    | cancelled => exact .inr (by simpa only [Fits, phase] using fits)
    | raised exception => simp [Fits, phase] at fits

/-- In a run of undisturbed steps the concurrent calls share one answer. -/
theorem answersShared_run (maxConnections : Nat) (events : List Event)
    (final : AddressResolutions) (undisturbed : Meets step Undisturbed { maxConnections } events)
    (ran : run step { maxConnections } events = some final)
    : final.AnswersShared events := by
  have start : ({ maxConnections } : AddressResolutions).Consistent := by
    constructor
    · intro id call there
      cases there
    · intro dest id entry
      cases entry
  have consistent := invariant_run consistent_step start undisturbed ran
  refine consistent.shared ?_
  intro id dest uris made done
  rcases acknowledged_run start undisturbed ran done made with before | acknowledged
  · cases before
  · exact acknowledged

/-- Two calls for one VMAC; the hub takes the request, and the acknowledgement comes. -/
theorem answersShared_run_pair
    : let dest := SCVMAC.numbered 7
      let ack : SCMessage := {
        function := .addressResolutionAck, messageId := 0, originating := some dest
        payload := [119, 115, 58, 32, 119, 115, 115, 58]
      }
      let events : List Event := [.resolve 0 dest, .resolve 1 dest, .sent 0 (.ok ()), .ack ack,
        .resume 1, .resume 0]
      ∃ final, run step {} events = some final
        ∧ final.calls.get 1 = some { dest, phase := .returned (some 0) ["ws:", "wss:"] }
        ∧ final.AnswersShared events := by
  intro dest ack events
  have some_ : (run step {} events).isSome := by decide +kernel
  obtain ⟨final, ran⟩ := Option.isSome_iff_exists.mp some_
  have last : (run step {} events).bind (·.calls.get 1)
      = some { dest, phase := .returned (some 0) ["ws:", "wss:"] } := by
    decide +kernel
  rw [ran] at last
  refine ⟨final, ran, last, answersShared_run 100 events final ?_ ran⟩
  intro first moved
  refine ⟨(fun owner entry => by cases entry), ?_⟩
  cases moved
  intro second moved
  refine ⟨?_, ?_⟩
  · intro owner entry
    obtain rfl : 0 = owner := Option.some.inj entry
    decide
  · simp only [Meets, Undisturbed, true_and]
    intros
    trivial

/-- Two calls for one VMAC, and no acknowledgement: the timeout of the first one cancels the future
they share, and a CancelledError that nobody asked for leaves the second one.
-/
theorem timeout_cancels_waiter
    : let dest := SCVMAC.numbered 7
      let events : List Event := [.resolve 0 dest, .resolve 1 dest, .sent 0 (.ok ()), .expire 0,
        .resume 0, .resume 1]
      ∃ final, run step {} events = some final
        ∧ final.calls.get 0 = some { dest, phase := .returned (some 0) [] }
        ∧ final.calls.get 1 = some { dest, phase := .cancelled, cancelRequested := false }
        ∧ ¬ final.AnswersShared events := by
  refine ⟨_, rfl, rfl, rfl, ?_⟩
  intro shared
  have asked := shared.asked 1 _ rfl rfl
  cases asked

end AddressResolutions

end BacPy
