import BacPy.App.CallbackSteps

/-! When a cycle of the trend log engine puts its callbacks right. -/

namespace BacPy

open Library
open Stateful (Preserves)
open Stateful (forEach bind_apply)

namespace TrendLogEngine

variable {Time : Type} [LinearOrder Time] (timestamp : BACnetDateTime → Time)
  (present : ObjectIdentifier → Bool) (now : Time)

-- What should be registered

/-- The callbacks are exactly one for each trend log that is to record changes of value, under the
key of its reference.
-/
structure Exact (engine : TrendLogEngine) (logs : List TrendLogObject) : Prop where
  /-- each callback belongs to a trend log that references what it is registered for -/
  wanted : ∀ key, ∀ callback ∈ engine.under key, ∃ log ∈ logs,
    log.LogsCov timestamp now ∧ log.key? = some key ∧ callback.log = log.identity
  one : ∀ log ∈ logs, log.LogsCov timestamp now → ∃ key callback, log.key? = some key
    ∧ (engine.under key).filter (fun other => other.log = log.identity) = [callback]

/-- The trend log of each callback is still there, and still has the reference for which the
callback was registered.
-/
def Traceable (engine : TrendLogEngine) (logs : List TrendLogObject) : Prop :=
  ∀ key, ∀ callback ∈ engine.under key, ∃ log ∈ logs,
    log.identity = callback.log ∧ log.key? = some key

def Subscribed (engine : TrendLogEngine) (log : TrendLogObject) : Prop :=
  log.identity.objectIdentifier ∈ engine.covSubscriptions

instance (engine : TrendLogEngine) (log : TrendLogObject) : Decidable (engine.Subscribed log) :=
  inferInstanceAs (Decidable (_ ∈ _))

def Starts (engine : TrendLogEngine) (log : TrendLogObject) : Prop :=
  log.LogsCov timestamp now ∧ ¬ engine.Subscribed log

/-- The number of callbacks under a key when a cycle has evaluated the trend logs before some place,
and not yet those after it.
-/
def callbacksAmid (engine : TrendLogEngine) (key : CallbackKey) (before after : List TrendLogObject)
    : Nat :=
  before.countP (fun log => log.LogsCov timestamp now ∧ log.key? = some key)
    + after.countP fun log => engine.Subscribed log ∧ log.key? = some key

/-- All trend logs that are to be subscribed in a cycle find less than 100 callbacks. -/
def Room (engine : TrendLogEngine) (before after : List TrendLogObject) : Prop :=
  ∀ earlier log later, after = earlier ++ log :: later → engine.Starts timestamp now log →
    ∀ key, log.key? = some key →
      engine.callbacksAmid timestamp now key (before ++ earlier) later < 100

/-- When a cycle puts the callbacks right: they can be traced; each trend log that is to be
subscribed references an object in the database, and finds less than 100 callbacks there; and no
subscribed one has a Logging_Type that the engine does not know.
-/
structure Orderly (engine : TrendLogEngine) (logs : List TrendLogObject) : Prop where
  traceable : engine.Traceable logs
  target : ∀ log ∈ logs, engine.Starts timestamp now log →
    ∃ key, log.key? = some key ∧ present key.1
  room : engine.Room timestamp now [] logs
  known : ∀ log ∈ logs, engine.Subscribed log → log.isActive timestamp now →
    log.loggingType ≠ none

-- The stages of a cycle

/-- Trend logs have different identifiers, and are different objects. -/
structure Distinct (logs : List TrendLogObject) : Prop where
  identifiers : (logs.map fun log => log.identity.objectIdentifier).Nodup
  numbers : (logs.map fun log => log.identity.number).Nodup

/-- In a cycle the trend logs that were evaluated have their callbacks, and the others still have
those that they had at its start.
-/
structure Stage (start : TrendLogEngine) (before after : List TrendLogObject)
    (engine : TrendLogEngine) : Prop where
  bookkeeping : engine.Bookkeeping
  holders : ∀ key identity, (∃ callback ∈ engine.under key, callback.log = identity)
    ↔ ∃ log, log.identity = identity ∧ log.key? = some key
      ∧ (log ∈ before ∧ log.LogsCov timestamp now ∨ log ∈ after ∧ start.Subscribed log)

variable {timestamp present now} {start engine next : TrendLogEngine} {log other : TrendLogObject}
  {logs before after : List TrendLogObject} {key : CallbackKey} {callback : CovCallback}

theorem Distinct.same_identifier (distinct : Distinct logs) (member : log ∈ logs)
    (also : other ∈ logs)
    (same : log.identity.objectIdentifier = other.identity.objectIdentifier)
    : log = other :=
  List.inj_on_of_nodup_map distinct.identifiers member also same

theorem Distinct.same_number (distinct : Distinct logs) (member : log ∈ logs)
    (also : other ∈ logs) (same : log.identity.number = other.identity.number)
    : log = other :=
  List.inj_on_of_nodup_map distinct.numbers member also same

theorem Distinct.sublist {fewer} (distinct : Distinct logs) (part : fewer.Sublist logs)
    : Distinct fewer :=
  ⟨distinct.identifiers.sublist (part.map _), distinct.numbers.sublist (part.map _)⟩

theorem Distinct.map (distinct : Distinct logs) {configure}
    (same : ∀ log, (configure log).identity = log.identity)
    : Distinct (logs.map configure) := by
  constructor
  · rw [List.map_map]
    exact (List.map_congr_left fun log _ => congrArg _ (same log)) ▸ distinct.identifiers
  · rw [List.map_map]
    exact (List.map_congr_left fun log _ => congrArg _ (same log)) ▸ distinct.numbers

/-- A cycle starts from what can be traced. -/
theorem Stage.begin (distinct : Distinct logs) (bookkeeping : start.Bookkeeping)
    (traceable : start.Traceable logs)
    : Stage timestamp now start [] logs start := by
  refine ⟨bookkeeping, fun key identity => ⟨?_, ?_⟩⟩
  · rintro ⟨callback, registered, rfl⟩
    obtain ⟨log, member, own, references⟩ := traceable key callback registered
    refine ⟨log, own, references, .inr ⟨member, ?_⟩⟩
    exact (bookkeeping.subscribed _).mpr ⟨key, callback, registered, own ▸ rfl⟩
  · rintro ⟨log, rfl, references, ⟨member, _⟩ | ⟨member, subscribed⟩⟩
    · cases member
    · obtain ⟨other, callback, registered, same⟩ := (bookkeeping.subscribed _).mp subscribed
      obtain ⟨holder, there, own, also⟩ := traceable other callback registered
      obtain rfl := distinct.same_identifier there member (own ▸ same)
      cases also.symm.trans references
      exact ⟨callback, registered, own.symm⟩

/-- What can be traced fits all trend logs. -/
theorem Traceable.fits (traceable : engine.Traceable logs) (distinct : Distinct logs)
    (member : log ∈ logs)
    : engine.Fits log := by
  constructor
  · intro key callback registered same
    obtain ⟨holder, there, own, references⟩ := traceable key callback registered
    obtain rfl := distinct.same_identifier there member (own ▸ same)
    exact ⟨own.symm, references⟩
  · intro key callback registered same
    obtain ⟨holder, there, own, references⟩ := traceable key callback registered
    obtain rfl := distinct.same_number there member (own ▸ same)
    exact own.symm

/-- The callbacks of a stage can be traced. -/
theorem Stage.traceable (stage : Stage timestamp now start before after engine)
    : engine.Traceable (before ++ after) := by
  intro key callback registered
  obtain ⟨log, own, references, evaluated | waiting⟩ :=
    (stage.holders key callback.log).mp ⟨callback, registered, rfl⟩
  · exact ⟨log, List.mem_append_left _ evaluated.1, own, references⟩
  · exact ⟨log, List.mem_append_right _ waiting.1, own, references⟩

/-- A trend log that has not been evaluated is subscribed if it was. -/
theorem Stage.subscribed_iff (stage : Stage timestamp now start before after engine)
    (distinct : Distinct (before ++ after)) (member : log ∈ after)
    (traced : start.Subscribed log → ∃ key, log.key? = some key)
    : engine.Subscribed log ↔ start.Subscribed log := by
  have inside : log ∈ before ++ after := List.mem_append_right _ member
  constructor
  · intro subscribed
    obtain ⟨key, callback, registered, same⟩ := (stage.bookkeeping.subscribed _).mp subscribed
    obtain ⟨holder, own, references, evaluated | waiting⟩ :=
      (stage.holders key callback.log).mp ⟨callback, registered, rfl⟩
    · have also : holder ∈ before ++ after := List.mem_append_left _ evaluated.1
      obtain rfl := distinct.same_identifier also inside (own ▸ same)
      have apart := (List.nodup_append.mp (List.Nodup.of_map _ distinct.identifiers)).2.2
      exact absurd rfl (apart _ evaluated.1 _ member)
    · have also : holder ∈ before ++ after := List.mem_append_right _ waiting.1
      obtain rfl := distinct.same_identifier also inside (own ▸ same)
      exact waiting.2
  · intro subscribed
    obtain ⟨key, references⟩ := traced subscribed
    obtain ⟨callback, registered, own⟩ := (stage.holders key log.identity).mpr
      ⟨log, rfl, references, .inr ⟨member, subscribed⟩⟩
    exact (stage.bookkeeping.subscribed _).mpr ⟨key, callback, registered, own ▸ rfl⟩

/-- The next stage, after the evaluation of one trend log. -/
theorem Stage.evaluated (stage : Stage timestamp now start before (log :: after) engine)
    (distinct : Distinct (before ++ log :: after))
    (updated : Updated engine next log (log.LogsCov timestamp now))
    : Stage timestamp now start (before ++ [log]) after next := by
  refine ⟨updated.bookkeeping, fun key identity => ?_⟩
  have inside : log ∈ before ++ log :: after := by simp
  have different : ∀ {other}, other ∈ before ∨ other ∈ after →
      other.identity.objectIdentifier ≠ log.identity.objectIdentifier := by
    intro other member same
    have unique := List.Nodup.of_map _ distinct.identifiers
    rw [List.nodup_middle, List.nodup_cons] at unique
    have also : other ∈ before ++ log :: after := by
      rcases member with first | later
      · simp [first]
      · simp [later]
    obtain rfl := distinct.same_identifier also inside same
    exact unique.1 (List.mem_append.mpr member)
  by_cases own : identity.objectIdentifier = log.identity.objectIdentifier
  · constructor
    · rintro ⟨callback, registered, rfl⟩
      obtain ⟨logs, same, references⟩ := updated.here registered own
      exact ⟨log, same.symm, references, .inl ⟨by simp, logs⟩⟩
    · rintro ⟨other, rfl, references, ⟨member, logs⟩ | ⟨member, _⟩⟩
      · rcases List.mem_append.mp member with first | last
        · exact absurd own (different (.inl first))
        · obtain rfl := List.mem_singleton.mp last
          obtain ⟨found, also, callback, registered, same⟩ := updated.there logs
          cases also.symm.trans references
          exact ⟨callback, registered, same⟩
      · exact absurd own (different (.inr member))
  · have unchanged : (∃ callback ∈ next.under key, callback.log = identity)
        ↔ ∃ callback ∈ engine.under key, callback.log = identity := by
      constructor
      · rintro ⟨callback, registered, rfl⟩
        exact ⟨callback, (updated.elsewhere own).mp registered, rfl⟩
      · rintro ⟨callback, registered, rfl⟩
        exact ⟨callback, (updated.elsewhere own).mpr registered, rfl⟩
    rw [unchanged, stage.holders]
    constructor
    · rintro ⟨other, rfl, references, ⟨member, logs⟩ | ⟨member, subscribed⟩⟩
      · exact ⟨other, rfl, references, .inl ⟨List.mem_append_left _ member, logs⟩⟩
      · rcases List.mem_cons.mp member with rfl | later
        · exact absurd rfl own
        · exact ⟨other, rfl, references, .inr ⟨later, subscribed⟩⟩
    · rintro ⟨other, rfl, references, ⟨member, logs⟩ | ⟨member, subscribed⟩⟩
      · rcases List.mem_append.mp member with first | last
        · exact ⟨other, rfl, references, .inl ⟨first, logs⟩⟩
        · obtain rfl := List.mem_singleton.mp last
          exact absurd rfl own
      · exact ⟨other, rfl, references, .inr ⟨List.mem_cons_of_mem _ member, subscribed⟩⟩

theorem Stage.length_under (stage : Stage timestamp now start before after engine)
    (distinct : Distinct (before ++ after)) (key : CallbackKey)
    : (engine.under key).length = start.callbacksAmid timestamp now key before after := by
  let holding := before.filter (fun log => log.LogsCov timestamp now ∧ log.key? = some key)
    ++ after.filter fun log => start.Subscribed log ∧ log.key? = some key
  have same : ((engine.under key).map CovCallback.log).Perm
      (holding.map TrendLogObject.identity) := by
    apply (List.perm_ext_iff_of_nodup ?_ ?_).mpr
    · intro identity
      rw [List.mem_map, List.mem_map, stage.holders]
      constructor
      · rintro ⟨log, own, references, evaluated | waiting⟩
        · exact ⟨log, by simp [holding, evaluated, references], own⟩
        · exact ⟨log, by simp [holding, waiting, references], own⟩
      · rintro ⟨log, member, own⟩
        rcases List.mem_append.mp member with first | later
        · simp only [List.mem_filter, decide_eq_true_eq] at first
          exact ⟨log, own, first.2.2, .inl ⟨first.1, first.2.1⟩⟩
        · simp only [List.mem_filter, decide_eq_true_eq] at later
          exact ⟨log, own, later.2.2, .inr ⟨later.1, later.2.1⟩⟩
    · apply List.Nodup.map_on _ (stage.bookkeeping.nodup key)
      intro callback registered another also same
      exact (stage.bookkeeping.single registered also (congrArg _ same)).2
    · have parts : holding.Sublist (before ++ after) :=
        List.Sublist.append List.filter_sublist List.filter_sublist
      apply List.Nodup.of_map TrendLogIdentity.number
      rw [List.map_map]
      exact distinct.numbers.sublist (parts.map _)
  have lengths := same.length_eq
  rw [List.length_map, List.length_map, List.length_append] at lengths
  rw [lengths, callbacksAmid, List.countP_eq_length_filter, List.countP_eq_length_filter]

-- Cycles

/-- What a cycle needs of the trend logs, apart from room. -/
structure Ready (timestamp : BACnetDateTime → Time) (present : ObjectIdentifier → Bool) (now : Time)
    (start : TrendLogEngine) (logs : List TrendLogObject) : Prop where
  traced : ∀ log ∈ logs, start.Subscribed log → ∃ key, log.key? = some key
  target : ∀ log ∈ logs, start.Starts timestamp now log →
    ∃ key, log.key? = some key ∧ present key.1
  known : ∀ log ∈ logs, start.Subscribed log → log.isActive timestamp now →
    log.loggingType ≠ none

/-- The evaluation of one trend log, if there is room. -/
theorem Stage.evaluate (stage : Stage timestamp now start before (log :: after) engine)
    (distinct : Distinct (before ++ log :: after))
    (ready : Ready timestamp present now start (log :: after))
    (room : start.Starts timestamp now log → ∀ key, log.key? = some key →
      start.callbacksAmid timestamp now key before after < 100)
    : ∃ next, evaluateTrendlog timestamp present now log engine = (.ok (), next)
        ∧ Stage timestamp now start (before ++ [log]) after next := by
  have first : log ∈ log :: after := List.mem_cons_self
  have subscribed := stage.subscribed_iff distinct first (ready.traced log first)
  have fits := stage.traceable.fits distinct (List.mem_append_right _ first)
  obtain ⟨next, done, updated⟩ := @evaluateTrendlog_updated engine log present Time _ timestamp now
    stage.bookkeeping fits
    (fun logs unsubscribed => by
      have starts : start.Starts timestamp now log :=
        ⟨logs, fun was => unsubscribed (subscribed.mpr was)⟩
      obtain ⟨key, references, there⟩ := ready.target log first starts
      refine ⟨key, references, there, ?_⟩
      rw [stage.length_under distinct, callbacksAmid, List.countP_cons_of_neg]
      · exact room starts key references
      · simp [starts.2])
    (fun was => ready.known log first (subscribed.mp was))
  exact ⟨next, done, stage.evaluated distinct updated⟩

theorem room_cons
    : start.Room timestamp now before (log :: after)
      ↔ (start.Starts timestamp now log → ∀ key, log.key? = some key →
            start.callbacksAmid timestamp now key before after < 100)
        ∧ start.Room timestamp now (before ++ [log]) after := by
  unfold Room
  constructor
  · intro room
    constructor
    · intro starts key references
      simpa using room [] log after rfl starts key references
    · intro earlier other later split starts key references
      simpa using room (log :: earlier) other later (by simp [split]) starts key references
  · rintro ⟨here, rest⟩ earlier other later split starts key references
    cases earlier with
    | nil =>
      obtain ⟨rfl, rfl⟩ := List.cons.inj split
      simpa using here starts key references
    | cons head earlier =>
      obtain ⟨rfl, rfl⟩ := List.cons.inj split
      simpa using rest earlier other later rfl starts key references

theorem Ready.tail (ready : Ready timestamp present now start (log :: after))
    : Ready timestamp present now start after where
  traced other member := ready.traced other (List.mem_cons_of_mem _ member)
  target other member := ready.target other (List.mem_cons_of_mem _ member)
  known other member := ready.known other (List.mem_cons_of_mem _ member)

/-- A cycle with room for all callbacks goes through all stages, by induction on the trend logs that
it has not evaluated yet.
-/
theorem Stage.cycle (stage : Stage timestamp now start before after engine)
    (distinct : Distinct (before ++ after)) (ready : Ready timestamp present now start after)
    (room : start.Room timestamp now before after)
    : ∃ next, evaluateCycle timestamp present now after engine = (.ok (), next)
        ∧ Stage timestamp now start (before ++ after) [] next := by
  induction after generalizing before engine with
  | nil => exact ⟨engine, rfl, (List.append_nil before).symm ▸ stage⟩
  | cons log rest ih =>
    obtain ⟨here, later⟩ := room_cons.mp room
    obtain ⟨reached, done, onward⟩ := stage.evaluate distinct ready here
    have moved : before ++ log :: rest = before ++ [log] ++ rest := by simp
    obtain ⟨next, ended, last⟩ := ih onward (moved ▸ distinct) ready.tail later
    refine ⟨next, ?_, moved ▸ last⟩
    rw [evaluateCycle, forEach, bind_apply, done]
    exact ended

/-- A registration that is refused leaves the callbacks as they are. -/
theorem subscribe_full (full : 100 ≤ (engine.under key).length)
    : ∃ exception next, subscribe log key engine = (.error exception, next)
        ∧ ∀ key, next.under key = engine.under key := by
  unfold subscribe ChangeCallbacks.register
  dsimp only
  have refused : 100 ≤ (engine.changeCallbacks.under key).length := full
  rw [if_pos refused]
  exact ⟨_, _, rfl, fun _ => rfl⟩

/-- A cycle without room leaves a trend log without its callback, by induction on the trend logs
that it has not evaluated yet: the first one without room raises.
-/
theorem Stage.cycle_full (stage : Stage timestamp now start before after engine)
    (distinct : Distinct (before ++ after)) (ready : Ready timestamp present now start after)
    (full : ¬ start.Room timestamp now before after)
    : ∃ log ∈ after, log.LogsCov timestamp now ∧ ∀ key,
        ∀ callback ∈ (evaluateCycle timestamp present now after engine).2.under key,
          callback.log ≠ log.identity := by
  induction after generalizing before engine with
  | nil =>
    refine absurd ?_ full
    intro earlier log later split
    cases earlier <;> cases split
  | cons log rest ih =>
    have first : log ∈ log :: rest := List.mem_cons_self
    by_cases here : start.Starts timestamp now log → ∀ key, log.key? = some key →
        start.callbacksAmid timestamp now key before rest < 100
    · obtain ⟨reached, done, onward⟩ := stage.evaluate distinct ready here
      have moved : before ++ log :: rest = before ++ [log] ++ rest := by simp
      have later : ¬ start.Room timestamp now (before ++ [log]) rest :=
        fun room => full (room_cons.mpr ⟨here, room⟩)
      obtain ⟨missing, member, logs, none⟩ := ih onward (moved ▸ distinct) ready.tail later
      refine ⟨missing, List.mem_cons_of_mem _ member, logs, ?_⟩
      rw [evaluateCycle, forEach, bind_apply, done]
      exact none
    · push Not at here
      obtain ⟨starts, key, references, full⟩ := here
      refine ⟨log, first, starts.1, ?_⟩
      have subscribed := stage.subscribed_iff distinct first (ready.traced log first)
      have unsubscribed : ¬ engine.Subscribed log := fun was => starts.2 (subscribed.mp was)
      obtain ⟨found, also, there⟩ := ready.target log first starts
      cases references.symm.trans also
      have crowded : 100 ≤ (engine.under key).length := by
        rw [stage.length_under distinct, callbacksAmid, List.countP_cons_of_neg]
        · exact full
        · simp [starts.2]
      obtain ⟨exception, next, raised, same⟩ := @subscribe_full engine log key crowded
      have ended : evaluateTrendlog timestamp present now log engine
          = (.error exception, next) := by
        unfold evaluateTrendlog
        rw [if_pos starts.1.1, starts.1.2]
        exact (handleCov_target unsubscribed references there).trans raised
      rw [evaluateCycle, forEach, bind_apply, ended]
      intro other callback registered own
      rw [same] at registered
      exact stage.bookkeeping.foreign unsubscribed registered (own ▸ rfl)

-- Stopping

/-- `_unregister_all_cov` finds all callbacks that can be traced, by induction on the trend logs. -/
theorem Traceable.unregisterAll (traceable : engine.Traceable logs) (distinct : Distinct logs)
    (bookkeeping : engine.Bookkeeping)
    : ∃ next, forEach unregisterCov logs engine = (.ok (), next) ∧ next.Bookkeeping
        ∧ ∀ key, next.under key = [] := by
  induction logs generalizing engine with
  | nil =>
    refine ⟨engine, rfl, bookkeeping, fun key => List.eq_nil_iff_forall_not_mem.mpr ?_⟩
    intro callback registered
    obtain ⟨log, member, _⟩ := traceable key callback registered
    cases member
  | cons log rest ih =>
    have fits := traceable.fits distinct List.mem_cons_self
    obtain ⟨reached, done, updated⟩ := unregisterCov_updated bookkeeping fits
    have onward : reached.Traceable rest := by
      intro key callback registered
      have different : callback.log.objectIdentifier ≠ log.identity.objectIdentifier :=
        fun same => (updated.here registered same).1
      obtain ⟨holder, member, own, references⟩ :=
        traceable key callback ((updated.elsewhere different).mp registered)
      rcases List.mem_cons.mp member with rfl | later
      · exact absurd (own ▸ rfl) different
      · exact ⟨holder, later, own, references⟩
    have apart : Distinct rest := ⟨distinct.identifiers.of_cons, distinct.numbers.of_cons⟩
    obtain ⟨next, ended, last⟩ := ih onward apart updated.bookkeeping
    refine ⟨next, ?_, last⟩
    rw [forEach, bind_apply, done]
    exact ended

-- What cycles leave alone

/-- A cycle takes away a callback only at a trend log with its number that is to have none. -/
theorem evaluateCycle_keeps (labelled : engine.Labelled) (registered : callback ∈ engine.under key)
    : callback ∈ (evaluateCycle timestamp present now logs engine).2.under key
      ∨ ∃ log ∈ logs, callback.log.number = log.identity.number ∧ log.key? = some key
        ∧ Releases timestamp now log := by
  have kept : Preserves (fun engine : TrendLogEngine => engine.Labelled
      ∧ (callback ∈ engine.under key ∨ ∃ log ∈ logs, callback.log.number = log.identity.number
        ∧ log.key? = some key ∧ Releases timestamp now log))
      (evaluateCycle timestamp present now logs) := by
    apply Preserves.forEach
    intro log member
    apply Preserves.of_final
    rintro engine ⟨labelled, there | gone⟩
    · refine ⟨evaluateTrendlog_labelled labelled, ?_⟩
      refine (evaluateTrendlog_keeps there).imp_right ?_
      rintro ⟨stored, references, releases⟩
      exact ⟨log, member, labelled _ _ stored, references, releases⟩
    · exact ⟨evaluateTrendlog_labelled labelled, .inr gone⟩
  exact (kept.final ⟨labelled, .inl registered⟩).2

/-- `_unregister_all_cov` takes away a callback only at a trend log with its number. -/
theorem unregisterAll_keeps (registered : callback ∈ engine.under key) (labelled : engine.Labelled)
    : callback ∈ (forEach unregisterCov logs engine).2.under key
      ∨ ∃ log ∈ logs, callback.log.number = log.identity.number ∧ log.key? = some key := by
  have kept : Preserves (fun engine : TrendLogEngine => engine.Labelled
      ∧ (callback ∈ engine.under key ∨ ∃ log ∈ logs, callback.log.number = log.identity.number
        ∧ log.key? = some key))
      (forEach unregisterCov logs) := by
    apply Preserves.forEach
    intro log member
    apply Preserves.of_final
    rintro engine ⟨labelled, there | gone⟩
    · refine ⟨unregisterCov_labelled labelled, ?_⟩
      refine (unregisterCov_keeps there).imp_right ?_
      rintro ⟨stored, references⟩
      exact ⟨log, member, labelled _ _ stored, references⟩
    · exact ⟨unregisterCov_labelled labelled, .inr gone⟩
  exact (kept.final ⟨labelled, .inl registered⟩).2

theorem unregisterAllCov_under (engine logs) (key : CallbackKey)
    : (unregisterAllCov logs engine).2.under key
      = (forEach unregisterCov logs engine).2.under key := by
  unfold unregisterAllCov
  rw [bind_apply]
  rcases forEach unregisterCov logs engine with ⟨exception | done, next⟩
  · rfl
  · rfl

/-- A trend log that references nothing in the database does not get a callback in a cycle. -/
theorem evaluateCycle_absent {identity}
    (absent : ∀ key, ∀ callback ∈ engine.under key, callback.log ≠ identity)
    (unable : ∀ log ∈ logs, log.identity = identity → ¬ ∃ key, log.key? = some key ∧ present key.1)
    : ∀ key, ∀ callback ∈ (evaluateCycle timestamp present now logs engine).2.under key,
        callback.log ≠ identity := by
  have kept : Preserves (fun engine : TrendLogEngine =>
      ∀ key, ∀ callback ∈ engine.under key, callback.log ≠ identity)
      (evaluateCycle timestamp present now logs) := by
    apply Preserves.forEach
    intro log member
    apply Preserves.of_final
    intro engine absent key callback there
    rcases evaluateTrendlog_arrival there with before | ⟨own, target⟩
    · exact absent key callback before
    · intro same
      exact unable log member (own.symm.trans same) target
  exact kept.final absent

-- Orderly cycles are the ones that are exact

/-- At the end of all stages the callbacks are exact. -/
theorem Stage.exact (stage : Stage timestamp now start logs [] engine)
    (referenced : ∀ log ∈ logs, log.LogsCov timestamp now → ∃ key, log.key? = some key)
    : engine.Exact timestamp now logs := by
  constructor
  · intro key callback registered
    obtain ⟨log, own, references, evaluated | waiting⟩ :=
      (stage.holders key callback.log).mp ⟨callback, registered, rfl⟩
    · exact ⟨log, evaluated.1, evaluated.2, references, own.symm⟩
    · cases waiting.1
  · intro log member logsCov
    obtain ⟨key, references⟩ := referenced log member logsCov
    obtain ⟨callback, registered, own⟩ := (stage.holders key log.identity).mpr
      ⟨log, rfl, references, .inl ⟨member, logsCov⟩⟩
    refine ⟨key, callback, references, List.perm_singleton.mp ?_⟩
    apply (List.perm_ext_iff_of_nodup ((stage.bookkeeping.nodup key).filter _)
      (List.nodup_singleton _)).mpr
    intro another
    rw [List.mem_filter, decide_eq_true_eq, List.mem_singleton]
    constructor
    · rintro ⟨there, same⟩
      exact (stage.bookkeeping.single there registered (congrArg _ (same.trans own.symm))).2
    · rintro rfl
      exact ⟨registered, own⟩

/-- A subscribed trend log references what its callback is registered for. -/
theorem Traceable.traced (traceable : start.Traceable logs) (distinct : Distinct logs)
    (bookkeeping : start.Bookkeeping) (member : log ∈ logs) (subscribed : start.Subscribed log)
    : ∃ key, log.key? = some key := by
  obtain ⟨key, callback, registered, same⟩ := (bookkeeping.subscribed _).mp subscribed
  exact ⟨key, ((traceable.fits distinct member).own registered same).2⟩

theorem Orderly.ready (orderly : start.Orderly timestamp present now logs)
    (distinct : Distinct logs) (bookkeeping : start.Bookkeeping)
    : Ready timestamp present now start logs where
  traced _ member := orderly.traceable.traced distinct bookkeeping member
  target := orderly.target
  known := orderly.known

/-- An orderly cycle ends, and leaves exact callbacks. -/
theorem Orderly.cycle (orderly : start.Orderly timestamp present now logs)
    (distinct : Distinct logs) (bookkeeping : start.Bookkeeping)
    : ∃ next, evaluateCycle timestamp present now logs start = (.ok (), next)
        ∧ next.Bookkeeping ∧ next.Traceable logs ∧ next.Exact timestamp now logs := by
  have ready := orderly.ready distinct bookkeeping
  have stage := @Stage.begin Time _ timestamp now start logs distinct bookkeeping orderly.traceable
  obtain ⟨next, done, last⟩ := stage.cycle distinct ready orderly.room
  refine ⟨next, done, last.bookkeeping, ?_, last.exact fun log member logsCov => ?_⟩
  · have traceable := last.traceable
    rwa [List.nil_append, List.append_nil] at traceable
  · by_cases subscribed : start.Subscribed log
    · exact ready.traced log member subscribed
    · obtain ⟨key, references, _⟩ := orderly.target log member ⟨logsCov, subscribed⟩
      exact ⟨key, references⟩

/-- The callbacks over trend logs of the database are over those with their numbers. -/
def Owned (engine : TrendLogEngine) (logs : List TrendLogObject) : Prop :=
  ∀ key, ∀ callback ∈ engine.under key, ∀ log ∈ logs,
    callback.log.number = log.identity.number → callback.log = log.identity

/-- If `_unregister_all_cov` has left no callback, all could be traced. -/
theorem traceable_of_none (bookkeeping : start.Bookkeeping) (owned : start.Owned logs)
    (none : ∀ key, (unregisterAllCov logs start).2.under key = [])
    : start.Traceable logs := by
  intro key callback registered
  rcases @unregisterAll_keeps start logs key callback registered
    (fun _ _ => bookkeeping.labelled) with stays | ⟨log, member, number, references⟩
  · rw [← unregisterAllCov_under, none] at stays
    cases stays
  · exact ⟨log, member, (owned key callback registered log member number).symm, references⟩

/-- Exact callbacks after a cycle were left by an orderly one. -/
theorem orderly_of_exact (distinct : Distinct logs) (bookkeeping : start.Bookkeeping)
    (owned : start.Owned logs)
    (exact : (evaluateCycle timestamp present now logs start).2.Exact timestamp now logs)
    : start.Orderly timestamp present now logs := by
  have labelled : start.Labelled := fun _ _ => bookkeeping.labelled
  have traceable : start.Traceable logs := by
    intro key callback registered
    rcases @evaluateCycle_keeps Time _ timestamp present now start logs key callback labelled
      registered with stays | ⟨log, member, same, references, _⟩
    · obtain ⟨log, member, _, references, own⟩ := exact.wanted key callback stays
      exact ⟨log, member, own.symm, references⟩
    · exact ⟨log, member, (owned key callback registered log member same).symm, references⟩
  have target : ∀ log ∈ logs, start.Starts timestamp now log →
      ∃ key, log.key? = some key ∧ present key.1 := by
    intro log member starts
    by_contra unable
    obtain ⟨key, callback, _, one⟩ := exact.one log member starts.1
    have there : callback ∈ ((evaluateCycle timestamp present now logs start).2.under key).filter
        fun other => other.log = log.identity := one ▸ List.mem_singleton_self _
    rw [List.mem_filter, decide_eq_true_eq] at there
    refine evaluateCycle_absent ?_ ?_ key callback there.1 there.2
    · intro other another registered own
      exact bookkeeping.foreign starts.2 registered (own ▸ rfl)
    · intro other also same
      obtain rfl := distinct.same_number also member (congrArg _ same)
      exact unable
  have known : ∀ log ∈ logs, start.Subscribed log → log.isActive timestamp now →
      log.loggingType ≠ none := by
    intro log member subscribed active
    obtain ⟨key, callback, registered, same⟩ := (bookkeeping.subscribed _).mp subscribed
    have own := ((traceable.fits distinct member).own registered same).1
    rcases @evaluateCycle_keeps Time _ timestamp present now start logs key callback labelled
      registered with stays | ⟨other, also, number, _, releases⟩
    · obtain ⟨other, also, logsCov, _, shared⟩ := exact.wanted key callback stays
      obtain rfl := distinct.same_number also member (congrArg _ (shared.symm.trans own))
      rw [logsCov.2]
      nofun
    · obtain rfl := distinct.same_number also member (number.symm.trans (congrArg _ own))
      exact (releases active).1
  refine ⟨traceable, target, ?_, known⟩
  by_contra full
  have ready : Ready timestamp present now start logs :=
    ⟨fun _ member => traceable.traced distinct bookkeeping member, target, known⟩
  have stage := @Stage.begin Time _ timestamp now start logs distinct bookkeeping traceable
  obtain ⟨log, member, logsCov, missing⟩ := stage.cycle_full distinct ready full
  obtain ⟨key, callback, _, one⟩ := exact.one log member logsCov
  have there : callback ∈ ((evaluateCycle timestamp present now logs start).2.under key).filter
      fun other => other.log = log.identity := one ▸ List.mem_singleton_self _
  rw [List.mem_filter, decide_eq_true_eq] at there
  exact missing key callback there.1 there.2

end TrendLogEngine

end BacPy
