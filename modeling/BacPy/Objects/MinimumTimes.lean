import BacPy.Library.FloatOrder
import BacPy.Objects.CommandRuns
import BacPy.Objects.PlainObjects

/-! Minimum on and off times: a present value that has been reached is held until its minimum time
is over, whatever is commanded meanwhile.
-/

namespace BacPy

open Library

namespace BACnetObject

-- Commands and expiry checks

/-- `check_min_time_expiry` at the time `now`. The clock is read again, at `later`, when the value
that is reached then is held in its turn.
-/
def checkMinTimeExpiry (now later : Float) : Stateful Raised BACnetObject Bool := fun obj =>
  match obj.minTimeLock with
  | none => (.ok false, obj)
  | some (until_, oldLocked) =>
    if now < until_ then (.ok false, obj)
    else
      let obj := { obj with minTimeLock := none }
      match obj.commands with
      | none => (.ok true, obj)
      | some slots => reevaluate slots oldLocked later obj
where
  /-- Re-resolve the present value from the priority array. -/
  reevaluate (slots : Vector CommandSlot 16) (oldLocked : Value) (later : Float)
      : Stateful Raised BACnetObject Bool := fun obj =>
    let new := ((winningSlot? slots).map CommandSlot.value).getD (obj.get .relinquishDefault)
    let obj := obj.set .presentValue new
    if !new.pyEq oldLocked ∧ new ≠ .none then
      match obj.startLockIfNeeded new later with
      | .ok held => (.ok true, held)
      | .error raised => (.error raised, obj)
    else (.ok true, obj)

/-- `write_property` of the present value. -/
def commandPresentValue (value : Value) (priority arrayIndex : Option Nat) (now : Float)
    : Stateful Raised BACnetObject Unit := do
  Stateful.consults fun obj => obj.checkWrite .presentValue value
  let definition ← Stateful.consults fun obj => obj.writable .presentValue
  storeValue definition .presentValue value priority arrayIndex now

end BACnetObject

namespace BACnetObject

-- Holds

/-- What happens to the present value of a binary object. -/
inductive MinTimeEvent where
  | command (value : Value) (priority arrayIndex : Option Nat) (now : Float)
  /-- the clock is read twice -/
  | expiryCheck (now later : Float)

def MinTimeEvent.time : MinTimeEvent → Float
  | .command _ _ _ now => now
  | .expiryCheck now _ => now

/-- When the event is over, and a present value that it changes has changed. -/
def MinTimeEvent.over : MinTimeEvent → Float
  | .command _ _ _ now => now
  | .expiryCheck _ later => later

/-- The object after an event, whether it succeeds or raises. -/
def undergo (obj : BACnetObject) : MinTimeEvent → BACnetObject
  | .command value priority arrayIndex now =>
    (obj.commandPresentValue value priority arrayIndex now).2
  | .expiryCheck now later => (checkMinTimeExpiry now later obj).2

def winningCommand (obj : BACnetObject) : Value :=
  match obj.commands with
  | none => obj.get .relinquishDefault
  | some slots => (obj.commandingSlot slots).value

/-- The present value is held at this time. -/
def HeldAt (obj : BACnetObject) (now : Float) : Prop :=
  ∃ until_ locked, obj.minTimeLock = some (until_, locked) ∧ now < until_

def minimumTimeOf (value : Value) : Option PropertyIdentifier :=
  if value.pyEq (.int 1) then some .minimumOnTime
  else if value.pyEq (.int 0) then some .minimumOffTime
  else none

def HasMinimumTime (obj : BACnetObject) (value : Value) (seconds : Float) : Prop :=
  ∃ prop, minimumTimeOf value = some prop
    ∧ (obj.get prop).truthy
    ∧ startLockIfNeeded.positive (obj.get prop) = .ok true
    ∧ startLockIfNeeded.secondsOf (obj.get prop) = .ok seconds

/-- A commandable object with minimum times, nothing in the slot that is reserved for them, and a
present value at what it is held at.
-/
structure Timed (obj : BACnetObject) (slots : Vector CommandSlot 16) : Prop where
  minOnOffTime : obj.cls.minOnOffTime = true
  reserved : (obj.cls.definition? .minimumOnTime).isSome
    ∨ (obj.cls.definition? .minimumOffTime).isSome
  commands : obj.commands = some slots
  slotSix : (slots.get 5).value = .none
  held : ∀ until_ locked, obj.minTimeLock = some (until_, locked) → obj.get .presentValue = locked

/-- The event is an accepted command or a check that is due, at a time when the present value is
not held.
-/
def Settles (obj : BACnetObject) (event : MinTimeEvent) : Prop :=
  ¬ obj.HeldAt event.time
    ∧ match event with
      | .command value priority arrayIndex now =>
        (obj.commandPresentValue value priority arrayIndex now).1 = .ok ()
      | .expiryCheck _ _ => obj.minTimeLock.isSome

/-- A present value that is reached, after the lock of the last one is gone: it may be locked, and
it is if it is another one and has a minimum time.
-/
structure Reached (old : Value) (event : MinTimeEvent) (after : BACnetObject) : Prop where
  lock : after.minTimeLock = none
    ∨ ∃ seconds, after.minTimeLock = some (event.over + seconds, after.get .presentValue)
  started : ∀ seconds, old ≠ .none → (after.get .presentValue).pyEq old = false
    → after.HasMinimumTime (after.get .presentValue) seconds
    → after.minTimeLock = some (event.over + seconds, after.get .presentValue)

/-- What an event can do to an object: nothing, to command what is held, or to settle. -/
inductive Outcome (obj : BACnetObject) (event : MinTimeEvent) (after : BACnetObject) : Prop where
  | idle (same : after = obj) (unsettled : ¬ obj.Settles event)
  | kept (held : obj.HeldAt event.time) (others : Vector CommandSlot 16)
    (commands : after.commands = some others) (slotSix : (others.get 5).value = .none)
    (agrees : Agrees commandProperties obj after)
    (presentValue : after.get .presentValue = obj.get .presentValue)
    (lock : after.minTimeLock = obj.minTimeLock)
  | settled (free : ¬ obj.HeldAt event.time) (others : Vector CommandSlot 16)
    (commands : after.commands = some others) (slotSix : (others.get 5).value = .none)
    (agrees : Agrees commandProperties obj after)
    (presentValue : after.get .presentValue = (after.commandingSlot others).value)
    (reached : Reached (obj.get .presentValue) event after)

variable {obj before after : BACnetObject} {slots others : Vector CommandSlot 16} {value : Value}
  {priority arrayIndex : Option Nat} {now later seconds : Float} {event : MinTimeEvent}

-- What an event can do

/-- A lock that is started leaves everything else, and names the value that has been reached. -/
theorem startLockIfNeeded_cases (started : obj.startLockIfNeeded value now = .ok after)
    : after = obj ∨ ∃ seconds, after = { obj with minTimeLock := some (now + seconds, value) } := by
  have lockFor : ∀ time, (do
      if time.truthy then
        if ← startLockIfNeeded.positive time then
          let seconds ← startLockIfNeeded.secondsOf time
          .ok { obj with minTimeLock := some (now + seconds, value) }
        else .ok obj
      else .ok obj : Except Raised BACnetObject) = .ok after
      → after = obj
        ∨ ∃ seconds, after = { obj with minTimeLock := some (now + seconds, value) } := by
    intro time locked
    cases truthy : time.truthy with
    | false => exact .inl (by simpa [truthy] using locked.symm)
    | true =>
      cases positive : startLockIfNeeded.positive time with
      | error raised => simp [truthy, positive, bind, Except.bind] at locked
      | ok isPositive =>
        cases isPositive with
        | false => exact .inl (by simpa [truthy, positive, bind, Except.bind] using locked.symm)
        | true =>
          cases known : startLockIfNeeded.secondsOf time with
          | error raised => simp [truthy, positive, known, bind, Except.bind] at locked
          | ok seconds =>
            exact .inr ⟨seconds, by
              simpa [truthy, positive, known, bind, Except.bind] using locked.symm⟩
  simp only [startLockIfNeeded] at started
  split at started
  · exact lockFor _ started
  · split at started
    · exact lockFor _ started
    · exact .inl (Except.ok.inj started).symm

theorem startLockIfNeeded_minimum (minimum : obj.HasMinimumTime value seconds)
    : obj.startLockIfNeeded value now
      = .ok { obj with minTimeLock := some (now + seconds, value) } := by
  obtain ⟨prop, whose, truthy, positive, known⟩ := minimum
  simp only [minimumTimeOf] at whose
  simp only [startLockIfNeeded]
  split at whose
  · next active =>
      cases whose
      simp [active, truthy, positive, known, bind, Except.bind]
  · next notActive =>
      split at whose
      · next inactive =>
          cases whose
          simp [notActive, inactive, truthy, positive, known, bind, Except.bind]
      · cases whose

/-- A lock changes nothing that is read of the properties. -/
theorem get_withLock (lock : Option (Float × Value)) (prop : PropertyIdentifier)
    : ({ obj with minTimeLock := lock } : BACnetObject).get prop = obj.get prop :=
  rfl

/-- A present value that is reached without a lock, once it has been locked if need be. -/
theorem Reached.of_lock {reached old} (unlocked : reached.minTimeLock = none)
    (ended : after = reached ∨ ∃ seconds,
      after = { reached with
        minTimeLock := some (event.over + seconds, reached.get .presentValue) })
    (started : ∀ seconds, old ≠ .none → (reached.get .presentValue).pyEq old = false
      → reached.HasMinimumTime (reached.get .presentValue) seconds
      → after = { reached with
        minTimeLock := some (event.over + seconds, reached.get .presentValue) })
    : Reached old event after := by
  rcases ended with rfl | ⟨locked, rfl⟩
  · refine ⟨.inl unlocked, ?_⟩
    intro seconds initialized changed minimum
    rw [started seconds initialized changed minimum]
    rfl
  · refine ⟨.inr ⟨locked, rfl⟩, ?_⟩
    intro seconds initialized changed minimum
    rw [started seconds initialized changed minimum]
    rfl

theorem reached_holdChanged {reached} (unlocked : reached.minTimeLock = none)
    : Reached (before.get .presentValue) (.command value priority arrayIndex now)
        (holdMinTime.holdChanged before now reached).2 := by
  simp only [holdMinTime.holdChanged]
  by_cases changes : (!(reached.get .presentValue).pyEq (before.get .presentValue)) = true
      ∧ before.get .presentValue ≠ .none
  · simp only [if_pos changes]
    cases started : reached.startLockIfNeeded (reached.get .presentValue) now with
    | error raised =>
      refine .of_lock unlocked (.inl rfl) ?_
      intro seconds _ _ minimum
      rw [startLockIfNeeded_minimum minimum] at started
      cases started
    | ok locked =>
      refine .of_lock unlocked (startLockIfNeeded_cases started) ?_
      intro seconds _ _ minimum
      rw [startLockIfNeeded_minimum minimum] at started
      exact (Except.ok.inj started).symm
  · simp only [if_neg changes]
    refine .of_lock unlocked (.inl rfl) ?_
    intro seconds initialized changed _
    exact absurd ⟨by simp [changed], initialized⟩ changes

/-- A command at a priority that is not reserved fills another slot than the sixth. -/
theorem baseWriteWithPriority_slotSix (timed : obj.Timed slots) {number}
    (written : obj.baseWriteWithPriority slots value number = .ok after)
    : ∃ others, after = obj.commandedTo others ∧ (others.get 5).value = .none := by
  simp only [baseWriteWithPriority] at written
  split at written
  · next inRange =>
      split at written
      · cases written
      · next allowed =>
          have different : number ≠ 6 := fun six => allowed ⟨six, timed.reserved⟩
          refine ⟨_, (Except.ok.inj written).symm, ?_⟩
          have elsewhere : (slots.set (number - 1) { value })[5] = slots[5] :=
            Vector.getElem_set_ne _ _ (by omega)
          exact (congrArg CommandSlot.value elsewhere).trans timed.slotSix
  · cases written

/-- Slots that are resolved determine the present value. -/
theorem commandedTo_presentValue (commands : obj.commands = some slots)
    : (obj.commandedTo others).get .presentValue
      = ((obj.commandedTo others).commandingSlot others).value := by
  have same : ({ obj with commands := some others } : BACnetObject).commandingSlot others
      = obj.commandingSlot others := by
    rw [commandingSlot, commandingSlot, get, stored_withSlots commands (by decide), get]
  rw [commandedTo_commandingSlot commands, commandedTo, resolve_eq, get_set_ne (by decide),
    get_set_ne (by decide), get_set_self _ (by decide), same]

/-- What an accepted command leaves, while the value is held and otherwise. -/
theorem outcome_holdMinTime (timed : obj.Timed slots) (slotSix : (others.get 5).value = .none)
    : obj.Outcome (.command value priority arrayIndex now)
        (holdMinTime obj (obj.commandedTo others) now (obj.commandedTo others)).2 := by
  have agrees : Agrees commandProperties obj (obj.commandedTo others) :=
    (agrees_commands timed.commands).trans (agrees_resolve _)
  have resolved : (obj.commandedTo others).get .presentValue
      = ((obj.commandedTo others).commandingSlot others).value :=
    commandedTo_presentValue timed.commands
  have settled : ¬ obj.HeldAt now → ∀ lock, lock = none →
      obj.Outcome (.command value priority arrayIndex now)
        (holdMinTime.holdChanged obj now { obj.commandedTo others with minTimeLock := lock }).2 := by
    intro free lock unlocked
    have same : SameCommands (obj.commandedTo others) (holdMinTime.holdChanged obj now
        { obj.commandedTo others with minTimeLock := lock }).2 :=
      (⟨rfl, rfl, fun _ _ => rfl⟩ : SameCommands (obj.commandedTo others)
        { obj.commandedTo others with minTimeLock := lock }).trans sameCommands_holdChanged
    refine .settled free others (same.commands.trans commandedTo_commands) slotSix ?_ ?_
      (reached_holdChanged unlocked)
    · exact agrees.trans ((agrees_minTimeLock lock).trans (agrees_holdChanged now))
    · rw [same.get (by decide), same.commandingSlot, resolved]
  simp only [holdMinTime, commandedTo_minTimeLock]
  cases locked? : obj.minTimeLock with
  | none =>
    have free : ¬ obj.HeldAt now := by
      rintro ⟨until_, locked, there, _⟩
      rw [locked?] at there
      cases there
    have unlocked : (obj.commandedTo others).minTimeLock = none :=
      commandedTo_minTimeLock.trans locked?
    exact settled free (obj.commandedTo others).minTimeLock unlocked
  | some lock =>
    obtain ⟨until_, locked⟩ := lock
    dsimp only
    split
    · next active =>
        refine .kept ⟨until_, locked, locked?, active⟩ others commandedTo_commands slotSix
          (agrees.trans (agrees_set _ (by decide))) ?_ commandedTo_minTimeLock
        rw [get_set_self _ (by decide), timed.held until_ locked locked?]
    · next isOver =>
        have free : ¬ obj.HeldAt now := by
          rintro ⟨other, another, there, active⟩
          rw [locked?] at there
          cases there
          exact isOver active
        exact settled free none rfl

theorem outcome_command (timed : obj.Timed slots)
    : obj.Outcome (.command value priority arrayIndex now)
        (obj.undergo (.command value priority arrayIndex now)) := by
  have refused : ∀ raised, obj.commandPresentValue value priority arrayIndex now
      = (.error raised, obj) → obj.Outcome (.command value priority arrayIndex now)
        (obj.commandPresentValue value priority arrayIndex now).2 := by
    intro raised same
    rw [same]
    refine .idle rfl fun settles => ?_
    have done := settles.2
    simp only [same] at done
    cases done
  show obj.Outcome _ (obj.commandPresentValue value priority arrayIndex now).2
  cases checked : obj.checkWrite .presentValue value with
  | error raised =>
    exact refused raised (by simp [commandPresentValue, Stateful.bind_apply, checked])
  | ok _ =>
    cases writable : obj.writable .presentValue with
    | error raised =>
      exact refused raised (by simp [commandPresentValue, Stateful.bind_apply, checked, writable])
    | ok definition =>
      have stored : obj.commandPresentValue value priority arrayIndex now
          = writeWithPriority slots (coerceValue definition value) (priority.getD 16) now obj := by
        simp [commandPresentValue, Stateful.bind_apply, checked, writable, storeValue, commandsOf,
          timed.commands]
      cases written : obj.baseWriteWithPriority slots (coerceValue definition value)
          (priority.getD 16) with
      | error raised =>
        exact refused raised (by rw [stored, writeWithPriority, written])
      | ok base =>
        obtain ⟨others, rfl, slotSix⟩ := baseWriteWithPriority_slotSix timed written
        have held : obj.commandPresentValue value priority arrayIndex now
            = holdMinTime obj (obj.commandedTo others) now (obj.commandedTo others) := by
          rw [stored, writeWithPriority, written]
          exact if_pos timed.minOnOffTime
        rw [held]
        exact outcome_holdMinTime timed slotSix

/-- After a check that is due, the present value is locked if need be. -/
theorem reached_reevaluate {old} (unlocked : obj.minTimeLock = none)
    : Reached old (.expiryCheck now later)
        (checkMinTimeExpiry.reevaluate slots old later obj).2 := by
  simp only [checkMinTimeExpiry.reevaluate]
  generalize ((winningSlot? slots).map CommandSlot.value).getD (obj.get .relinquishDefault) = new
  have here : (obj.set .presentValue new).get .presentValue = new := get_set_self _ (by decide)
  have none_ : (obj.set .presentValue new).minTimeLock = none := unlocked
  by_cases changes : (!new.pyEq old) = true ∧ new ≠ .none
  · simp only [if_pos changes]
    cases started : (obj.set .presentValue new).startLockIfNeeded new later with
    | error raised =>
      refine .of_lock none_ (.inl rfl) ?_
      intro seconds _ _ minimum
      rw [here] at minimum
      rw [startLockIfNeeded_minimum minimum] at started
      cases started
    | ok locked =>
      refine .of_lock none_ (here.symm ▸ startLockIfNeeded_cases started) ?_
      intro seconds _ _ minimum
      rw [here] at minimum ⊢
      rw [startLockIfNeeded_minimum minimum] at started
      exact (Except.ok.inj started).symm
  · simp only [if_neg changes]
    refine .of_lock none_ (.inl rfl) ?_
    intro seconds _ changed minimum
    rw [here] at changed minimum
    refine absurd ⟨by simp [changed], ?_⟩ changes
    rintro rfl
    obtain ⟨prop, whose, -⟩ := minimum
    cases whose

/-- A check that is due puts the winning command into the present value, and may lock it. -/
theorem reevaluate_eq (obj : BACnetObject) (slots) (old : Value) (later : Float)
    : ∃ lock, (checkMinTimeExpiry.reevaluate slots old later obj).2
        = { obj.set .presentValue (obj.commandingSlot slots).value with minTimeLock := lock } := by
  have winner : ((winningSlot? slots).map CommandSlot.value).getD (obj.get .relinquishDefault)
      = (obj.commandingSlot slots).value := by
    simp only [commandingSlot]
    cases winningSlot? slots <;> rfl
  simp only [checkMinTimeExpiry.reevaluate, winner]
  split
  · cases started : (obj.set .presentValue (obj.commandingSlot slots).value).startLockIfNeeded
        (obj.commandingSlot slots).value later with
    | error raised => exact ⟨obj.minTimeLock, rfl⟩
    | ok locked =>
      rcases startLockIfNeeded_cases started with rfl | ⟨seconds, rfl⟩
      · exact ⟨obj.minTimeLock, rfl⟩
      · exact ⟨_, rfl⟩
  · exact ⟨obj.minTimeLock, rfl⟩

theorem commandingSlot_set
    : (obj.set .presentValue value).commandingSlot slots = obj.commandingSlot slots := by
  rw [commandingSlot, commandingSlot, get_set_ne (by decide)]

/-- What a check does that is due. -/
theorem outcome_reevaluate (timed : obj.Timed slots) (free : ¬ obj.HeldAt now)
    : obj.Outcome (.expiryCheck now later)
        (checkMinTimeExpiry.reevaluate slots (obj.get .presentValue) later
          { obj with minTimeLock := none }).2 := by
  obtain ⟨lock, ended⟩ :=
    reevaluate_eq { obj with minTimeLock := none } slots (obj.get .presentValue) later
  refine .settled free slots ?_ timed.slotSix ?_ ?_ (reached_reevaluate rfl)
  · rw [ended]
    exact timed.commands
  · rw [ended]
    exact (agrees_minTimeLock none).trans
      ((agrees_set _ (by decide)).trans (agrees_minTimeLock lock))
  · rw [ended, get_withLock, get_set_self _ (by decide)]
    exact congrArg CommandSlot.value commandingSlot_set.symm

theorem outcome_expiryCheck (timed : obj.Timed slots)
    : obj.Outcome (.expiryCheck now later) (obj.undergo (.expiryCheck now later)) := by
  simp only [undergo, checkMinTimeExpiry]
  cases locked? : obj.minTimeLock with
  | none =>
    refine .idle rfl fun settles => ?_
    have locked : obj.minTimeLock.isSome := settles.2
    simp [locked?] at locked
  | some lock =>
    obtain ⟨until_, oldLocked⟩ := lock
    dsimp only
    split
    · next active =>
        exact .idle rfl fun settles => settles.1 ⟨until_, oldLocked, locked?, active⟩
    · next isOver =>
        have free : ¬ obj.HeldAt now := by
          rintro ⟨other, another, there, active⟩
          rw [locked?] at there
          cases there
          exact isOver active
        have old : obj.get .presentValue = oldLocked := timed.held until_ oldLocked locked?
        split
        · next missing =>
            rw [timed.commands] at missing
            cases missing
        · next there =>
            cases timed.commands.symm.trans there
            exact old ▸ outcome_reevaluate timed free

theorem outcome (timed : obj.Timed slots) : ∀ event, obj.Outcome event (obj.undergo event)
  | .command _ _ _ _ => outcome_command timed
  | .expiryCheck _ _ => outcome_expiryCheck timed

-- Steps

/-- Every event leaves a timed object, with the same class and the same minimum times. -/
theorem timed_step (timed : obj.Timed slots) (event : MinTimeEvent)
    : ∃ others, (obj.undergo event).Timed others := by
  rcases outcome timed event with ⟨same, _⟩ | ⟨_, others, commands, slotSix, agrees, value, lock⟩
    | ⟨_, others, commands, slotSix, agrees, _, reached⟩
  · exact ⟨slots, same.symm ▸ timed⟩
  · refine ⟨others, agrees.cls ▸ timed.minOnOffTime, agrees.cls ▸ timed.reserved, commands, slotSix,
      ?_⟩
    intro until_ locked there
    rw [value]
    exact timed.held until_ locked (lock ▸ there)
  · refine ⟨others, agrees.cls ▸ timed.minOnOffTime, agrees.cls ▸ timed.reserved, commands, slotSix,
      ?_⟩
    intro until_ locked there
    rcases reached.lock with unlocked | ⟨seconds, started⟩
    · rw [unlocked] at there
      cases there
    · rw [started] at there
      cases there
      rfl

/-- A present value is not touched while it is held. -/
theorem undergo_held (timed : obj.Timed slots) (event : MinTimeEvent)
    (held : obj.HeldAt event.time)
    : (obj.undergo event).get .presentValue = obj.get .presentValue
        ∧ (obj.undergo event).minTimeLock = obj.minTimeLock := by
  rcases outcome timed event with ⟨same, _⟩ | ⟨_, _, _, _, _, value, lock⟩ | ⟨free, _⟩
  · rw [same]
    exact ⟨rfl, rfl⟩
  · exact ⟨value, lock⟩
  · exact absurd held free

/-- A value with a minimum time is equal to itself, as it is equal to a number. -/
theorem pyEq_self_of_minimum (minimum : obj.HasMinimumTime value seconds)
    : value.pyEq value = true := by
  have number : value.isNan = false := by
    obtain ⟨prop, whose, -⟩ := minimum
    cases nan : value.isNan with
    | false => rfl
    | true => simp [minimumTimeOf, Value.pyEq, nan] at whose
  simp [Value.pyEq, number]

theorem undergo_locks (timed : obj.Timed slots) {event}
    (initialized : obj.get .presentValue ≠ .none)
    (changes : ((obj.undergo event).get .presentValue).pyEq (obj.get .presentValue) = false)
    (minimum : (obj.undergo event).HasMinimumTime ((obj.undergo event).get .presentValue) seconds)
    : (obj.undergo event).minTimeLock
      = some (event.over + seconds, (obj.undergo event).get .presentValue) := by
  have itself := pyEq_self_of_minimum minimum
  rcases outcome timed event with ⟨same, _⟩ | ⟨_, _, _, _, _, value, _⟩ | ⟨_, _, _, _, _, _, reached⟩
  · rw [same] at changes itself
    rw [itself] at changes
    cases changes
  · rw [value] at changes itself
    rw [itself] at changes
    cases changes
  · exact reached.started seconds initialized changes minimum

/-- An event that settles leaves what the commands resolve to. -/
theorem undergo_settles (timed : obj.Timed slots) {event} (settles : obj.Settles event)
    : (obj.undergo event).get .presentValue = (obj.undergo event).winningCommand := by
  rcases outcome timed event with ⟨_, unsettled⟩ | ⟨held, _⟩ | ⟨_, others, commands, _, _, value, _⟩
  · exact absurd settles unsettled
  · exact absurd held settles.1
  · rw [winningCommand, commands]
    exact value

-- Runs

def undergoAll (obj : BACnetObject) (events : List MinTimeEvent) : BACnetObject :=
  events.foldl undergo obj

/-- Every run leaves a timed object, by induction on the events. -/
theorem timed_run (timed : obj.Timed slots) (events)
    : ∃ others, (obj.undergoAll events).Timed others := by
  induction events generalizing obj slots with
  | nil => exact ⟨slots, timed⟩
  | cons event rest ih =>
    obtain ⟨others, next⟩ := timed_step timed event
    exact ih next

/-- A lock holds the present value through all events before its end, by induction on them. -/
theorem held_run (timed : obj.Timed slots) {until_ time locked}
    (lock : obj.minTimeLock = some (until_, locked)) (before : time < until_) {events}
    (past : ∀ event ∈ events, event.time ≤ time)
    : (obj.undergoAll events).get .presentValue = obj.get .presentValue := by
  induction events generalizing obj slots with
  | nil => rfl
  | cons event rest ih =>
    have early : event.time < until_ :=
      FloatOrder.lt_of_le_of_lt (past event List.mem_cons_self) before
    obtain ⟨value, kept⟩ := undergo_held timed event ⟨until_, locked, lock, early⟩
    obtain ⟨others, next⟩ := timed_step timed event
    have onward := ih next (kept.trans lock) fun later member =>
      past later (List.mem_cons_of_mem _ member)
    exact onward.trans value

/-- The minimum times of an object are kept.

A present value that changes to one with a minimum time, and not from Null, stays the same at every
later time before that is over, whatever has happened by then. An accepted command and a check that
is due leave the present value that the commands resolve to, once it is not held. The reserved slot
is null.
-/
structure KeepsMinimumTimes (obj : BACnetObject) : Prop where
  holds : ∀ first later time seconds, obj.get .presentValue ≠ .none
    → ((obj.undergo first).get .presentValue).pyEq (obj.get .presentValue) = false
    → (obj.undergo first).HasMinimumTime ((obj.undergo first).get .presentValue) seconds
    → time < first.over + seconds
    → (∀ event ∈ later, event.time ≤ time)
    → ((obj.undergo first).undergoAll later).get .presentValue
      = (obj.undergo first).get .presentValue
  settles : ∀ event, obj.Settles event
    → (obj.undergo event).get .presentValue = (obj.undergo event).winningCommand
  slotSix : ∀ slots, obj.commands = some slots → (slots.get 5).value = .none

theorem timed_construct {cls instanceNumber initialProperties}
    (minOnOffTime : cls.minOnOffTime = true)
    (reserved : (cls.definition? .minimumOnTime).isSome
      ∨ (cls.definition? .minimumOffTime).isSome) (commandable : cls.commandable.isSome)
    : (construct cls instanceNumber initialProperties).Timed (Vector.replicate 16 {}) := by
  have unlocked : (construct cls instanceNumber initialProperties).minTimeLock = none := by
    have kept : ∀ (obj : BACnetObject) prop value,
        (obj.set prop value).minTimeLock = obj.minTimeLock := fun _ _ _ => rfl
    have start : (cls.setup.foldl initialize_
        (baseInit cls instanceNumber initialProperties)).minTimeLock = none :=
      (initialize_keeps kept _ _).trans (baseInit_keeps kept cls instanceNumber initialProperties)
    simp only [construct, initialize_keeps kept]
    cases cls.commandable with
    | none => exact start
    | some relinquishDefault =>
      simp only [Option.elim, initCommandable]
      split <;> exact start
  obtain ⟨relinquishDefault, there⟩ := Option.isSome_iff_exists.mp commandable
  refine ⟨?_, ?_, ?_, by decide, ?_⟩
  · rwa [cls_construct]
  · rwa [cls_construct]
  · rw [commands_construct, there, Option.map_some]
  · intro until_ locked lock
    rw [unlocked] at lock
    cases lock

/-- After every run of commands, relinquishes and expiry checks, the minimum times are kept. -/
theorem keepsMinimumTimes_run (obj : BACnetObject) (slots : Vector CommandSlot 16)
    (timed : obj.Timed slots) (events : List MinTimeEvent)
    : (obj.undergoAll events).KeepsMinimumTimes := by
  obtain ⟨others, reached⟩ := timed_run timed events
  refine ⟨?_, fun event => undergo_settles reached, ?_⟩
  · intro first later time seconds initialized changes minimum before past
    obtain ⟨_, next⟩ := timed_step reached first
    exact held_run next (undergo_locks reached initialized changes minimum) before past
  · intro slots commands
    cases reached.commands.symm.trans commands
    exact reached.slotSix

/-- A Binary Output that has to be on and off for ten seconds at least. -/
def tenSeconds (relinquishDefault : Value) : BACnetObject :=
  construct binaryOutputObject 1 [(.objectName, .str "BO-1"), (.minimumOnTime, .int 10),
    (.minimumOffTime, .int 10), (.relinquishDefault, relinquishDefault)]

/-- A command, and another one that is held for nine more seconds. -/
theorem keepsMinimumTimes_run_output
    : ((tenSeconds (.enum binaryPvEnum 0)).undergoAll
        [.command (.int 1) none none 0, .command (.int 0) (some 8) none 1]).KeepsMinimumTimes :=
  keepsMinimumTimes_run (tenSeconds (.enum binaryPvEnum 0)) (Vector.replicate 16 {})
    (timed_construct (by decide) (by decide) (by decide)) _

/-- With a Relinquish_Default of Null, a relinquish leaves a present value of Null. From there the
output is commanded to be active at 30 s and inactive at 31 s, and it is.
-/
theorem active_from_null_for_a_second
    : let relinquished := (tenSeconds .none).undergoAll
        [.command (.int 1) none none 0, .command .none none none 20]
      let active := relinquished.undergo (.command (.int 1) none none 30)
      relinquished.get .presentValue = .none
        ∧ active.get .presentValue = .enum binaryPvEnum 1
        ∧ active.get .minimumOnTime = .int 10
        ∧ (31 : Float) < 30 + 10
        ∧ (active.undergo (.command (.int 0) none none 31)).get .presentValue
          = .enum binaryPvEnum 0 := by
  decide +kernel

end BACnetObject

end BacPy
