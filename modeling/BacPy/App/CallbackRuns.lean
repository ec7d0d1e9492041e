import BacPy.App.CallbackCycles
import BacPy.Library.Runs

/-! Whether the change callbacks of the trend log engine match the trend logs, over whole runs. -/

namespace BacPy

open Library
open TrendLogEngine (evaluateCycle unregisterAllCov Distinct)

-- Runs

/-- The task of the engine: none, the loop, or one that an exception has ended. -/
inductive EngineTask where
  | none | running | failed

/-- What the last step was, if that was one of the engine. -/
inductive EngineMoment (Time : Type) where
  | evaluated (now : Time)
  | stopped
  | between
  deriving DecidableEq

/-- The trend logs in the order of the database, the other objects in it, and the engine. -/
structure TrendLogWorld (Time : Type) where
  logs : List TrendLogObject := []
  others : List ObjectIdentifier := []
  logsMade : Nat := 0
  engine : TrendLogEngine := {}
  task : EngineTask := .none
  moment : EngineMoment Time := .between

/-- Objects come, change, and go; the engine starts, evaluates all trend logs, or stops. -/
inductive TrendLogEvent (Time : Type) where
  | createLog (instanceNumber : Fin 4194304) (config : TrendLogConfig)
  | createOther (objectIdentifier : ObjectIdentifier)
  | delete (objectIdentifier : ObjectIdentifier)
  | configure (objectIdentifier : ObjectIdentifier) (config : TrendLogConfig)
  | start
  | evaluate (now : Time)
  | stop

namespace TrendLogWorld

variable {Time : Type}

/-- `db.get(object_id) is not None` -/
def present (world : TrendLogWorld Time) (oid : ObjectIdentifier) : Bool :=
  world.logs.any (fun log => decide (log.identity.objectIdentifier = oid))
    || decide (oid ∈ world.others)

theorem present_of_mem {world : TrendLogWorld Time} {log : TrendLogObject}
    (member : log ∈ world.logs)
    : world.present log.identity.objectIdentifier := by
  unfold present
  rw [Bool.or_eq_true, List.any_eq_true]
  exact .inl ⟨log, member, decide_eq_true rfl⟩

variable [LinearOrder Time] (timestamp : BACnetDateTime → Time)

def step (world : TrendLogWorld Time) : TrendLogEvent Time → Option (TrendLogWorld Time)
  | .createLog instanceNumber config =>
    let objectIdentifier : ObjectIdentifier := { objectType := .trendLog, instanceNumber }
    if world.present objectIdentifier then none
    else
      let identity := { number := world.logsMade, objectIdentifier }
      some {
        world with
        logs := world.logs ++ [{ config with identity }]
        logsMade := world.logsMade + 1
        moment := .between
      }
  | .createOther oid =>
    if oid.objectType = .trendLog ∨ world.present oid then none
    else some { world with others := world.others ++ [oid], moment := .between }
  | .delete oid =>
    if oid.objectType = .device ∨ ¬ world.present oid then none
    else
      some {
        world with
        logs := world.logs.filter fun log => log.identity.objectIdentifier ≠ oid
        others := world.others.erase oid
        moment := .between
      }
  | .configure oid config =>
    some {
      world with
      logs := world.logs.map fun log =>
        if log.identity.objectIdentifier = oid then { config with identity := log.identity }
        else log
      moment := .between
    }
  | .start =>
    match world.task with
    | .none => some { world with task := .running, moment := .between }
    | _ => some { world with moment := .between }
  | .evaluate now =>
    match world.task with
    | .running =>
      let (outcome, engine) :=
        evaluateCycle timestamp world.present now world.logs world.engine
      match outcome with
      | .ok () => some { world with engine, moment := .evaluated now }
      | .error _ => some { world with engine, task := .failed, moment := .evaluated now }
    | _ => none
  | .stop =>
    match world.task with
    -- `stop` awaits the task, and raises what has ended it
    | .failed => some { world with moment := .stopped }
    | _ =>
      let engine := (unregisterAllCov world.logs world.engine).2
      some { world with engine, task := .none, moment := .stopped }

/-- After an evaluation the callbacks match the trend logs, and after `stop` there are none. -/
def Matched (world : TrendLogWorld Time) : Prop :=
  match world.moment with
  | .evaluated now => world.engine.Exact timestamp now world.logs
  | .stopped => ∀ key, world.engine.under key = []
  | .between => True

/-- The condition on the steps of the engine. -/
def InOrder (world : TrendLogWorld Time) : TrendLogEvent Time → Prop
  | .evaluate now => world.engine.Orderly timestamp world.present now world.logs
  | .stop => world.engine.Traceable world.logs
  | _ => True

-- The invariant

/-- What holds as long as the callbacks have always matched. -/
structure Sound (world : TrendLogWorld Time) : Prop where
  bookkeeping : world.engine.Bookkeeping
  distinct : Distinct world.logs
  made : ∀ log ∈ world.logs, log.identity.number < world.logsMade
  owned : world.engine.Owned world.logs
  older : ∀ key, ∀ callback ∈ world.engine.under key, callback.log.number < world.logsMade
  unfailed : world.task ≠ .failed
  matched : world.Matched timestamp

variable {timestamp} {world next : TrendLogWorld Time} {event : TrendLogEvent Time}
  {logs : List TrendLogObject}

/-- Other trend logs with identities that were there already. -/
theorem Sound.relog (sound : world.Sound timestamp)
    (distinct : Distinct logs)
    (known : ∀ log ∈ logs, ∃ old ∈ world.logs, old.identity = log.identity)
    : Sound timestamp { world with logs, moment := .between } where
  bookkeeping := sound.bookkeeping
  distinct := distinct
  made log member := by
    obtain ⟨old, there, same⟩ := known log member
    exact same ▸ sound.made old there
  owned key callback registered log member number := by
    obtain ⟨old, there, same⟩ := known log member
    rw [← same] at number ⊢
    exact sound.owned key callback registered old there number
  older := sound.older
  unfailed := sound.unfailed
  matched := trivial

/-- A new trend log has a number of its own. -/
theorem Sound.createLog (sound : world.Sound timestamp) {oid : ObjectIdentifier}
    (absent : ¬ world.present oid) (config : TrendLogConfig)
    : Sound timestamp {
        world with
        logs := world.logs
          ++ [{ config with identity := { number := world.logsMade, objectIdentifier := oid } }]
        logsMade := world.logsMade + 1
        moment := .between
      } where
  bookkeeping := sound.bookkeeping
  distinct := by
    constructor
    · rw [List.map_append]
      refine sound.distinct.identifiers.append (List.nodup_singleton _) ?_
      intro other member new
      rw [List.mem_singleton.mp new] at member
      obtain ⟨log, there, same⟩ := List.mem_map.mp member
      have inside := present_of_mem there
      rw [same] at inside
      exact absent inside
    · rw [List.map_append]
      refine sound.distinct.numbers.append (List.nodup_singleton _) ?_
      intro other member new
      rw [List.mem_singleton.mp new] at member
      obtain ⟨log, there, same⟩ := List.mem_map.mp member
      exact absurd same (Nat.ne_of_lt (sound.made log there))
  made log member := by
    rcases List.mem_append.mp member with old | new
    · exact Nat.lt_succ_of_lt (sound.made log old)
    · rw [List.mem_singleton.mp new]
      exact Nat.lt_succ_self _
  owned key callback registered log member number := by
    rcases List.mem_append.mp member with old | new
    · exact sound.owned key callback registered log old number
    · rw [List.mem_singleton.mp new] at number
      exact absurd number (Nat.ne_of_lt (sound.older key callback registered))
  older key callback registered := Nat.lt_succ_of_lt (sound.older key callback registered)
  unfailed := sound.unfailed
  matched := trivial

theorem Sound.evaluate (sound : world.Sound timestamp) {now}
    (orderly : world.engine.Orderly timestamp world.present now world.logs)
    : ∃ engine, evaluateCycle timestamp world.present now world.logs world.engine
          = (.ok (), engine)
        ∧ Sound timestamp { world with engine, moment := .evaluated now } := by
  obtain ⟨engine, done, bookkeeping, traceable, exact⟩ :=
    orderly.cycle sound.distinct sound.bookkeeping
  refine ⟨engine, done, bookkeeping, sound.distinct, sound.made, ?_, ?_, sound.unfailed, exact⟩
  · intro key callback registered log member number
    exact (traceable.fits sound.distinct member).numbered registered number
  · intro key callback registered
    obtain ⟨log, member, own, _⟩ := traceable key callback registered
    exact own ▸ sound.made log member

/-- Stopping with callbacks that can be traced. -/
theorem Sound.stop (sound : world.Sound timestamp) (traceable : world.engine.Traceable world.logs)
    : Sound timestamp {
        world with
        engine := (unregisterAllCov world.logs world.engine).2
        task := .none
        moment := .stopped
      } := by
  obtain ⟨engine, done, bookkeeping, none⟩ :=
    traceable.unregisterAll sound.distinct sound.bookkeeping
  have stopped : (unregisterAllCov world.logs world.engine).2
      = { engine with covSubscriptions := ∅ } := by
    unfold unregisterAllCov
    rw [Stateful.bind_apply, done]
    rfl
  rw [stopped]
  have empty : ∀ key, ∀ callback, callback ∉ engine.under key := by
    intro key callback registered
    rw [none] at registered
    cases registered
  refine ⟨⟨fun oid => ?_, fun registered => ?_, bookkeeping.nodup, fun registered => ?_,
    bookkeeping.labelled⟩, sound.distinct, sound.made, fun key callback registered => ?_,
    fun key callback registered => ?_, nofun, none⟩
  · refine ⟨fun member => absurd member (Finset.notMem_empty oid), ?_⟩
    rintro ⟨key, callback, registered, _⟩
    exact absurd registered (empty key callback)
  · exact absurd registered (empty _ _)
  · exact absurd registered (empty _ _)
  · exact absurd registered (empty key callback)
  · exact absurd registered (empty key callback)

-- Steps

theorem Sound.untouched (sound : world.Sound timestamp) (others) {task} (unfailed : task ≠ .failed)
    : Sound timestamp { world with others, task, moment := .between } :=
  ⟨sound.bookkeeping, sound.distinct, sound.made, sound.owned, sound.older, unfailed, trivial⟩

/-- A step in order keeps the invariant. -/
theorem Sound.step (sound : world.Sound timestamp) (order : world.InOrder timestamp event)
    (stepped : world.step timestamp event = some next)
    : next.Sound timestamp := by
  cases event with
  | createLog instanceNumber config =>
    dsimp only [TrendLogWorld.step] at stepped
    split at stepped
    · cases stepped
    · next absent =>
        cases stepped
        exact sound.createLog absent config
  | createOther oid =>
    dsimp only [TrendLogWorld.step] at stepped
    split at stepped
    · cases stepped
    · cases stepped
      exact sound.untouched _ sound.unfailed
  | delete oid =>
    dsimp only [TrendLogWorld.step] at stepped
    split at stepped
    · cases stepped
    · cases stepped
      have fewer := world.logs.filter_sublist
        (p := fun log => decide (log.identity.objectIdentifier ≠ oid))
      have kept := sound.relog (sound.distinct.sublist fewer)
        fun log member => ⟨log, fewer.subset member, rfl⟩
      exact kept.untouched _ sound.unfailed
  | configure oid config =>
    dsimp only [TrendLogWorld.step] at stepped
    cases stepped
    have same : ∀ log : TrendLogObject,
        (if log.identity.objectIdentifier = oid then { config with identity := log.identity }
          else log : TrendLogObject).identity = log.identity := by
      intro log
      split
      · rfl
      · rfl
    refine sound.relog (sound.distinct.map same) fun log member => ?_
    obtain ⟨old, there, rfl⟩ := List.mem_map.mp member
    exact ⟨old, there, (same old).symm⟩
  | start =>
    dsimp only [TrendLogWorld.step] at stepped
    split at stepped
    · cases stepped
      exact sound.untouched _ nofun
    · cases stepped
      exact sound.untouched _ sound.unfailed
  | evaluate now =>
    obtain ⟨engine, done, later⟩ := sound.evaluate order
    dsimp only [TrendLogWorld.step] at stepped
    rw [done] at stepped
    split at stepped
    · cases stepped
      exact later
    · cases stepped
  | stop =>
    dsimp only [TrendLogWorld.step] at stepped
    split at stepped
    · next failed => exact absurd failed sound.unfailed
    · cases stepped
      exact sound.stop order

/-- A step of the engine that leaves what it should was in order. -/
theorem Sound.inOrder (sound : world.Sound timestamp)
    (stepped : world.step timestamp event = some next) (matched : next.Matched timestamp)
    : world.InOrder timestamp event := by
  cases event with
  | evaluate now =>
    have exact : (evaluateCycle timestamp world.present now world.logs
        world.engine).2.Exact timestamp now world.logs := by
      dsimp only [TrendLogWorld.step] at stepped
      split at stepped
      · rcases outcome : evaluateCycle timestamp world.present now world.logs
          world.engine with ⟨exception | done, engine⟩
        · rw [outcome] at stepped
          cases stepped
          exact matched
        · rw [outcome] at stepped
          cases stepped
          exact matched
      · cases stepped
    exact TrendLogEngine.orderly_of_exact sound.distinct sound.bookkeeping sound.owned exact
  | stop =>
    dsimp only [TrendLogWorld.step] at stepped
    split at stepped
    · next failed => exact absurd failed sound.unfailed
    · cases stepped
      exact TrendLogEngine.traceable_of_none sound.bookkeeping sound.owned matched
  | createLog | createOther | delete | configure | start => trivial

theorem sound_start : Sound timestamp ({} : TrendLogWorld Time) where
  bookkeeping := {
    subscribed := fun oid => ⟨fun member => absurd member (Finset.notMem_empty oid),
      fun ⟨_, _, registered, _⟩ => nomatch registered⟩
    single := fun registered => nomatch registered
    nodup := fun _ => List.nodup_nil
    stored := fun registered => nomatch registered
    labelled := fun found => nomatch found
  }
  distinct := ⟨List.nodup_nil, List.nodup_nil⟩
  made _ member := nomatch member
  owned _ _ registered := nomatch registered
  older _ _ registered := nomatch registered
  unfailed := nofun
  matched := trivial

/-- The callbacks match the trend logs after all evaluations, and are gone after all stops, in the
runs with orderly steps, and in no others.
-/
theorem matched_iff_inOrder (timestamp : BACnetDateTime → Time) (events : List (TrendLogEvent Time))
    : Always (step timestamp) (Matched timestamp) {} events
      ↔ Meets (step timestamp) (InOrder timestamp) {} events := by
  apply always_iff_meets (fun sound order stepped => Sound.step sound order stepped)
    (fun sound => sound.matched) ?_ sound_start
  intro world event next sound disorder stepped matched
  exact disorder (sound.inOrder stepped matched)

def analogValueLog (prop : PropertyIdentifier) : TrendLogConfig :=
  {
    logEnable := true
    loggingType := some .cov
    logDeviceObjectProperty := some {
      objectIdentifier := { objectType := .analogValue, instanceNumber := 1 }
      propertyIdentifier := prop.number.val
    }
  }

/-- A trend log is subscribed, and then references another property. -/
def redirected : List (TrendLogEvent Int) :=
  [
    .createOther { objectType := .analogValue, instanceNumber := 1 },
    .createLog 1 (analogValueLog .presentValue), .start, .evaluate 0,
    .configure { objectType := .trendLog, instanceNumber := 1 } (analogValueLog .statusFlags),
    .evaluate 1
  ]

/-- The callback of a trend log stays where the trend log has referenced something. -/
theorem redirected_unmatched
    : ¬ ∀ (timestamp : BACnetDateTime → Int) (events : List (TrendLogEvent Int)),
      Always (step timestamp) (Matched timestamp) {} events := by
  intro always
  let oid : ObjectIdentifier := { objectType := .analogValue, instanceNumber := 1 }
  have ran : (Library.run (step fun _ => (0 : Int)) {} redirected).map
        (fun world => (world.moment, (world.engine.under (oid, .presentValue)).length,
          world.logs.map TrendLogObject.key?))
      = some (.evaluated 1, 1, [some (oid, .statusFlags)]) := by decide +kernel
  obtain ⟨world, reached, shown⟩ := Option.map_eq_some_iff.mp ran
  obtain ⟨moment, shown⟩ := Prod.mk.inj shown
  obtain ⟨length, keys⟩ := Prod.mk.inj shown
  have matched : world.Matched fun _ => (0 : Int) :=
    always_iff_prefixes.mp (always _ redirected) redirected [] world (List.append_nil _).symm
      reached
  unfold Matched at matched
  rw [moment] at matched
  obtain ⟨callback, registered⟩ := List.length_pos_iff_exists_mem.mp (length ▸ Nat.one_pos)
  obtain ⟨log, member, _, references, _⟩ := matched.wanted _ callback registered
  have listed := List.mem_map_of_mem (f := TrendLogObject.key?) member
  rw [keys, references, List.mem_singleton] at listed
  exact absurd listed (by decide)

end TrendLogWorld

end BacPy
