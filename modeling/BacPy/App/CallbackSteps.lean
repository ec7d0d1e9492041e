import BacPy.App.TrendLogCallbacks

/-! What the methods of the trend log engine do to its callbacks. -/

namespace BacPy

open Library
open ChangeCallbacks (under_unregister register under_set)

theorem BACnetDeviceObjectPropertyReference.key_fst {ref : BACnetDeviceObjectPropertyReference}
    {key : CallbackKey} (found : ref.key = .ok key)
    : key.1 = ref.objectIdentifier := by
  unfold BACnetDeviceObjectPropertyReference.key at found
  cases converted : PropertyIdentifier.ofInt ref.propertyIdentifier with
  | error exception =>
    rw [converted] at found
    cases found
  | ok property =>
    rw [converted] at found
    cases found
    rfl

theorem TrendLogObject.key?_eq_some {log : TrendLogObject} {key : CallbackKey}
    : log.key? = some key ↔ ∃ ref, log.logDeviceObjectProperty = some ref ∧ ref.key = .ok key := by
  unfold TrendLogObject.key?
  rw [Option.bind_eq_some_iff]
  constructor
  · rintro ⟨ref, referenced, found⟩
    refine ⟨ref, referenced, ?_⟩
    cases converted : ref.key with
    | error exception =>
      rw [converted] at found
      cases found
    | ok other =>
      rw [converted] at found
      cases found
      rfl
  · rintro ⟨ref, referenced, found⟩
    exact ⟨ref, referenced, by rw [found]; rfl⟩

namespace TrendLogEngine

-- Bookkeeping

/-- Each subscription has one callback, which is stored at its trend log. -/
structure Bookkeeping (engine : TrendLogEngine) : Prop where
  subscribed : ∀ oid, oid ∈ engine.covSubscriptions
    ↔ ∃ key, ∃ callback ∈ engine.under key, callback.log.objectIdentifier = oid
  single : ∀ {key other callback another}, callback ∈ engine.under key →
    another ∈ engine.under other →
    callback.log.objectIdentifier = another.log.objectIdentifier →
    key = other ∧ callback = another
  nodup : ∀ key, (engine.under key).Nodup
  stored : ∀ {key callback}, callback ∈ engine.under key →
    engine.covCallback.get callback.log.number = some callback
  labelled : ∀ {number callback}, engine.covCallback.get number = some callback →
    callback.log.number = number

/-- The callback of a subscription with the identifier of the trend log is one of this trend log,
for the object and property that it references.
-/
structure Fits (engine : TrendLogEngine) (log : TrendLogObject) : Prop where
  own : ∀ {key callback}, callback ∈ engine.under key →
    callback.log.objectIdentifier = log.identity.objectIdentifier →
    callback.log = log.identity ∧ log.key? = some key
  numbered : ∀ {key callback}, callback ∈ engine.under key →
    callback.log.number = log.identity.number → callback.log = log.identity

/-- The trend log has a callback if and only if it is wanted, and nothing else has changed. -/
structure Updated (engine next : TrendLogEngine) (log : TrendLogObject) (wanted : Prop) : Prop where
  bookkeeping : next.Bookkeeping
  elsewhere : ∀ {key callback},
    callback.log.objectIdentifier ≠ log.identity.objectIdentifier →
    (callback ∈ next.under key ↔ callback ∈ engine.under key)
  here : ∀ {key callback}, callback ∈ next.under key →
    callback.log.objectIdentifier = log.identity.objectIdentifier →
    wanted ∧ callback.log = log.identity ∧ log.key? = some key
  there : wanted → ∃ key, log.key? = some key
    ∧ ∃ callback ∈ next.under key, callback.log = log.identity

variable {engine next : TrendLogEngine} {log : TrendLogObject} {key : CallbackKey}
  {callback : CovCallback}

theorem Bookkeeping.foreign (bookkeeping : engine.Bookkeeping)
    (unsubscribed : log.identity.objectIdentifier ∉ engine.covSubscriptions)
    (registered : callback ∈ engine.under key)
    : callback.log.objectIdentifier ≠ log.identity.objectIdentifier :=
  fun same => unsubscribed ((bookkeeping.subscribed _).mpr ⟨key, callback, registered, same⟩)

/-- A trend log that is not subscribed, and is not wanted. -/
theorem Bookkeeping.updated (bookkeeping : engine.Bookkeeping)
    (unsubscribed : log.identity.objectIdentifier ∉ engine.covSubscriptions)
    : Updated engine engine log False where
  bookkeeping := bookkeeping
  elsewhere _ := Iff.rfl
  here registered same := absurd same (bookkeeping.foreign unsubscribed registered)
  there := False.elim

-- Unsubscribing

theorem mem_under_unregister (bookkeeping : engine.Bookkeeping) {other : CallbackKey}
    {another : CovCallback} (registered : callback ∈ engine.under key)
    : another ∈ (engine.changeCallbacks.unregister key callback).under other
      ↔ another ∈ engine.under other
        ∧ another.log.objectIdentifier ≠ callback.log.objectIdentifier := by
  rw [under_unregister]
  split
  · next same =>
      subst same
      change another ∈ (engine.under other).erase callback ↔ _
      rw [(bookkeeping.nodup other).mem_erase_iff]
      constructor
      · rintro ⟨different, there⟩
        exact ⟨there, fun same => different (bookkeeping.single there registered same).2⟩
      · rintro ⟨there, different⟩
        exact ⟨fun same => different (same ▸ rfl), there⟩
  · next different =>
      constructor
      · intro there
        exact ⟨there, fun same => different (bookkeeping.single there registered same).1⟩
      · exact And.left

/-- `_unregister_cov` takes away the callback of a trend log that fits. -/
theorem unregisterCov_updated (bookkeeping : engine.Bookkeeping) (fits : engine.Fits log)
    : ∃ next, unregisterCov log engine = (.ok (), next) ∧ Updated engine next log False := by
  unfold unregisterCov
  dsimp only
  split
  · next unsubscribed => exact ⟨engine, rfl, bookkeeping.updated unsubscribed⟩
  · next subscribed =>
      obtain ⟨key, callback, registered, same⟩ :=
        (bookkeeping.subscribed _).mp (not_not.mp subscribed)
      obtain ⟨own, references⟩ := fits.own registered same
      obtain ⟨ref, referenced, found⟩ := TrendLogObject.key?_eq_some.mp references
      have stored := bookkeeping.stored registered
      rw [own] at stored
      rw [referenced, stored]
      dsimp only
      rw [found]
      refine ⟨_, rfl, ?_⟩
      have left := fun other another =>
        @mem_under_unregister engine key callback bookkeeping other another registered
      refine ⟨⟨fun oid => ?_, fun first second => ?_, fun other => ?_, fun there => ?_,
        bookkeeping.labelled⟩, fun different => ?_, fun remains own => ?_, False.elim⟩
      · change oid ∈ engine.covSubscriptions.erase log.identity.objectIdentifier ↔ _
        rw [Finset.mem_erase, bookkeeping.subscribed]
        constructor
        · rintro ⟨different, other, another, there, rfl⟩
          refine ⟨other, another, (left _ _).mpr ⟨there, ?_⟩, rfl⟩
          rw [same]
          exact different
        · rintro ⟨other, another, there, rfl⟩
          obtain ⟨before, different⟩ := (left _ _).mp there
          rw [same] at different
          exact ⟨different, other, another, before, rfl⟩
      · exact bookkeeping.single ((left _ _).mp first).1 ((left _ _).mp second).1
      · change (ChangeCallbacks.under _ other).Nodup
        rw [under_unregister]
        split
        · exact (bookkeeping.nodup key).erase callback
        · exact bookkeeping.nodup other
      · exact bookkeeping.stored ((left _ _).mp there).1
      · refine (left _ _).trans ⟨And.left, fun there => ⟨there, ?_⟩⟩
        rw [same]
        exact different
      · exact absurd (own.trans same.symm) ((left _ _).mp remains).2

-- Subscribing

/-- A new callback is registered for a trend log that has none. -/
theorem subscribe_updated (bookkeeping : engine.Bookkeeping) (fits : engine.Fits log)
    (unsubscribed : log.identity.objectIdentifier ∉ engine.covSubscriptions)
    (references : log.key? = some key) (room : (engine.under key).length < 100)
    : ∃ next, subscribe log key engine = (.ok (), next) ∧ Updated engine next log True := by
  have foreign : ∀ {other another}, another ∈ engine.under other →
      another.log.objectIdentifier ≠ log.identity.objectIdentifier :=
    fun there => bookkeeping.foreign unsubscribed there
  unfold subscribe register
  have free : ¬ 100 ≤ (engine.changeCallbacks.under key).length := Nat.not_le.mpr room
  dsimp only
  rw [if_neg free]
  refine ⟨_, rfl, ?_⟩
  generalize made : CovCallback.mk engine.callbacksMade log.identity = callback
  have owned : callback.log = log.identity := made ▸ rfl
  have registered : ∀ other another,
      another ∈ ChangeCallbacks.under
          (engine.changeCallbacks.set key (engine.changeCallbacks.under key ++ [callback])) other
        ↔ another ∈ engine.under other ∨ other = key ∧ another = callback := by
    intro other another
    rw [under_set]
    split
    · next same =>
        subst same
        simp [under]
    · next different => simp [different, under]
  refine ⟨⟨fun oid => ?_, fun first second same => ?_, fun other => ?_, fun there => ?_,
    fun found => ?_⟩, fun different => ?_, fun there same => ?_, fun _ => ?_⟩
  · change oid ∈ insert log.identity.objectIdentifier engine.covSubscriptions ↔ _
    rw [Finset.mem_insert, bookkeeping.subscribed]
    constructor
    · rintro (rfl | ⟨other, another, there, rfl⟩)
      · exact ⟨key, callback, (registered _ _).mpr (.inr ⟨rfl, rfl⟩), owned ▸ rfl⟩
      · exact ⟨other, another, (registered _ _).mpr (.inl there), rfl⟩
    · rintro ⟨other, another, there, rfl⟩
      rcases (registered _ _).mp there with before | ⟨_, rfl⟩
      · exact .inr ⟨other, another, before, rfl⟩
      · exact .inl (owned ▸ rfl)
  · rcases (registered _ _).mp first with before | ⟨rfl, rfl⟩
    · rcases (registered _ _).mp second with also | ⟨rfl, rfl⟩
      · exact bookkeeping.single before also same
      · exact absurd (same.trans (owned ▸ rfl)) (foreign before)
    · rcases (registered _ _).mp second with also | ⟨rfl, rfl⟩
      · exact absurd (same.symm.trans (owned ▸ rfl)) (foreign also)
      · exact ⟨rfl, rfl⟩
  · change (ChangeCallbacks.under _ other).Nodup
    rw [under_set]
    split
    · refine (bookkeeping.nodup key).append (List.nodup_singleton _) ?_
      intro another there new
      rw [List.mem_singleton.mp new] at there
      exact foreign there (owned ▸ rfl)
    · exact bookkeeping.nodup other
  · change (engine.covCallback.set _ _).get _ = _
    rcases (registered _ _).mp there with before | ⟨_, rfl⟩
    · rw [Dict.get_set_ne]
      · exact bookkeeping.stored before
      · exact fun same => foreign before (fits.numbered before same ▸ rfl)
    · rw [owned]
      exact Dict.get_set_self _ _ _
  · change (engine.covCallback.set _ _).get _ = _ at found
    rw [Dict.get_set] at found
    split at found
    · next same =>
        cases found
        rw [owned, same]
    · exact bookkeeping.labelled found
  · refine (registered _ _).trans ⟨?_, .inl⟩
    rintro (before | ⟨_, rfl⟩)
    · exact before
    · exact absurd (owned ▸ rfl) different
  · rcases (registered _ _).mp there with before | ⟨rfl, rfl⟩
    · exact absurd same (foreign before)
    · exact ⟨trivial, owned, references⟩
  · exact ⟨key, references, callback, (registered _ _).mpr (.inr ⟨rfl, rfl⟩), owned⟩

variable {present : ObjectIdentifier → Bool}

/-- `_handle_cov` for a trend log that is not subscribed, and references an object. -/
theorem handleCov_target (unsubscribed : log.identity.objectIdentifier ∉ engine.covSubscriptions)
    (references : log.key? = some key) (there : present key.1)
    : handleCov present log engine = subscribe log key engine := by
  obtain ⟨ref, referenced, found⟩ := TrendLogObject.key?_eq_some.mp references
  rw [BACnetDeviceObjectPropertyReference.key_fst found] at there
  unfold handleCov
  rw [if_neg unsubscribed, referenced]
  dsimp only
  rw [if_pos there, found]

/-- `_handle_cov` leaves a trend log with a callback, if it has one or can get one. -/
theorem handleCov_updated (bookkeeping : engine.Bookkeeping) (fits : engine.Fits log)
    (target : log.identity.objectIdentifier ∉ engine.covSubscriptions →
      ∃ key, log.key? = some key ∧ present key.1 ∧ (engine.under key).length < 100)
    : ∃ next, handleCov present log engine = (.ok (), next) ∧ Updated engine next log True := by
  by_cases subscribed : log.identity.objectIdentifier ∈ engine.covSubscriptions
  · have unchanged : handleCov present log engine = (.ok (), engine) := if_pos subscribed
    obtain ⟨key, callback, registered, same⟩ := (bookkeeping.subscribed _).mp subscribed
    obtain ⟨own, references⟩ := fits.own registered same
    refine ⟨engine, unchanged, bookkeeping, fun _ => Iff.rfl, fun there also => ?_, fun _ => ?_⟩
    · exact ⟨trivial, fits.own there also⟩
    · exact ⟨key, references, callback, registered, own⟩
  · obtain ⟨key, references, there, room⟩ := target subscribed
    rw [handleCov_target subscribed references there]
    exact subscribe_updated bookkeeping fits subscribed references room

-- Evaluating

theorem Updated.of_iff {wanted also : Prop} (updated : Updated engine next log wanted)
    (same : wanted ↔ also)
    : Updated engine next log also :=
  propext same ▸ updated

variable {Time : Type} [LinearOrder Time] {timestamp : BACnetDateTime → Time} {now : Time}

/-- `_evaluate_trendlog` puts the callback of a trend log right. -/
theorem evaluateTrendlog_updated (bookkeeping : engine.Bookkeeping) (fits : engine.Fits log)
    (target : log.LogsCov timestamp now →
      log.identity.objectIdentifier ∉ engine.covSubscriptions →
      ∃ key, log.key? = some key ∧ present key.1 ∧ (engine.under key).length < 100)
    (known : log.identity.objectIdentifier ∈ engine.covSubscriptions →
      log.isActive timestamp now → log.loggingType ≠ none)
    : ∃ next, evaluateTrendlog timestamp present now log engine = (.ok (), next)
        ∧ Updated engine next log (log.LogsCov timestamp now) := by
  unfold evaluateTrendlog
  have released : ¬ log.LogsCov timestamp now → ∃ next, unregisterCov log engine = (.ok (), next)
      ∧ Updated engine next log (log.LogsCov timestamp now) := by
    intro unwanted
    obtain ⟨next, done, updated⟩ := unregisterCov_updated bookkeeping fits
    exact ⟨next, done, updated.of_iff ⟨False.elim, unwanted⟩⟩
  split
  · next active =>
      cases kind : log.loggingType with
      | none =>
        have unsubscribed := fun subscribed => known subscribed active kind
        refine ⟨engine, rfl, (bookkeeping.updated unsubscribed).of_iff ⟨False.elim, ?_⟩⟩
        rintro ⟨_, cov⟩
        rw [kind] at cov
        cases cov
      | some loggingType =>
        cases loggingType with
        | cov =>
          have logs : log.LogsCov timestamp now := ⟨active, kind⟩
          obtain ⟨next, done, updated⟩ := handleCov_updated bookkeeping fits (target logs)
          exact ⟨next, done, updated.of_iff ⟨fun _ => logs, fun _ => trivial⟩⟩
        | polled => exact released fun logs => nomatch kind.symm.trans logs.2
        | triggered => exact released fun logs => nomatch kind.symm.trans logs.2
  · next inactive => exact released fun logs => inactive logs.1

-- Callbacks stay

/-- `_cov_callback` of a trend log is one of its own closures. -/
def Labelled (engine : TrendLogEngine) : Prop :=
  ∀ number callback, engine.covCallback.get number = some callback → callback.log.number = number

/-- `_unregister_cov` takes away only the callback that is stored at the trend log, and only where
the trend log references something now.
-/
theorem unregisterCov_keeps (registered : callback ∈ engine.under key)
    : callback ∈ (unregisterCov log engine).2.under key
      ∨ engine.covCallback.get log.identity.number = some callback ∧ log.key? = some key := by
  unfold unregisterCov
  dsimp only
  split
  · exact .inl registered
  · split
    · next ref stored referenced found =>
        cases made : ref.key with
        | error exception => exact .inl registered
        | ok other =>
          change callback ∈ (engine.changeCallbacks.unregister other stored).under key ∨ _
          rw [under_unregister]
          split
          · next same =>
              subst same
              by_cases own : callback = stored
              · subst own
                exact .inr ⟨found, TrendLogObject.key?_eq_some.mpr ⟨ref, referenced, made⟩⟩
              · exact .inl ((List.mem_erase_of_ne own).mpr registered)
          · exact .inl registered
    · exact .inl registered

theorem subscribe_keeps {other : CallbackKey} (registered : callback ∈ engine.under key)
    : callback ∈ (subscribe log other engine).2.under key := by
  unfold subscribe register
  dsimp only
  by_cases full : 100 ≤ (engine.changeCallbacks.under other).length
  · rw [if_pos full]
    exact registered
  · rw [if_neg full]
    change callback ∈ ChangeCallbacks.under (Dict.set _ _ _) key
    rw [under_set]
    split
    · next same => exact List.mem_append_left _ (same ▸ registered)
    · exact registered

theorem handleCov_keeps (registered : callback ∈ engine.under key)
    : callback ∈ (handleCov present log engine).2.under key := by
  unfold handleCov
  split
  · exact registered
  · split
    · exact registered
    · next ref referenced =>
        split
        · cases ref.key with
          | error exception => exact registered
          | ok other => exact subscribe_keeps registered
        · exact registered

/-- The trend log is to have no callback, and its Logging_Type is one that the engine knows. -/
def Releases (timestamp : BACnetDateTime → Time) (now : Time) (log : TrendLogObject) : Prop :=
  log.isActive timestamp now → log.loggingType ≠ none ∧ log.loggingType ≠ some .cov

/-- `_evaluate_trendlog` takes away only the callback of the trend log, where it references
something now, and only if it is to have none.
-/
theorem evaluateTrendlog_keeps (registered : callback ∈ engine.under key)
    : callback ∈ (evaluateTrendlog timestamp present now log engine).2.under key
      ∨ engine.covCallback.get log.identity.number = some callback ∧ log.key? = some key
        ∧ Releases timestamp now log := by
  unfold evaluateTrendlog
  split
  · next active =>
      cases kind : log.loggingType with
      | none => exact .inl registered
      | some loggingType =>
        have released : log.loggingType ≠ some .cov → Releases timestamp now log :=
          fun other _ => ⟨by rw [kind]; nofun, other⟩
        cases loggingType with
        | cov => exact .inl (handleCov_keeps registered)
        | polled =>
          exact (unregisterCov_keeps registered).imp_right fun ⟨stored, references⟩ =>
            ⟨stored, references, released (by rw [kind]; nofun)⟩
        | triggered =>
          exact (unregisterCov_keeps registered).imp_right fun ⟨stored, references⟩ =>
            ⟨stored, references, released (by rw [kind]; nofun)⟩
  · next inactive =>
      exact (unregisterCov_keeps registered).imp_right fun ⟨stored, references⟩ =>
        ⟨stored, references, fun active => absurd active inactive⟩

theorem unregisterCov_labelled (labelled : engine.Labelled)
    : (unregisterCov log engine).2.Labelled := by
  unfold unregisterCov
  dsimp only
  split
  · exact labelled
  · split
    · next ref stored referenced found =>
        cases ref.key with
        | error exception => exact labelled
        | ok key => exact labelled
    · exact labelled

/-- Closures are stored at the trend logs that they are over. -/
theorem evaluateTrendlog_labelled (labelled : engine.Labelled)
    : (evaluateTrendlog timestamp present now log engine).2.Labelled := by
  have subscribed : ∀ key, (subscribe log key engine).2.Labelled := by
    intro key number callback found
    have stored : (engine.covCallback.set log.identity.number
        { number := engine.callbacksMade, log := log.identity }).get number = some callback := by
      unfold subscribe at found
      dsimp only at found
      split at found
      · exact found
      · exact found
    rw [Dict.get_set] at stored
    split at stored
    · next same =>
        cases stored
        exact same.symm
    · exact labelled number callback stored
  unfold evaluateTrendlog
  split
  · cases log.loggingType with
    | none => exact labelled
    | some loggingType =>
      cases loggingType with
      | cov =>
        change (handleCov present log engine).2.Labelled
        unfold handleCov
        split
        · exact labelled
        · split
          · exact labelled
          · next ref referenced =>
              split
              · cases ref.key with
                | error exception => exact labelled
                | ok key => exact subscribed key
              · exact labelled
      | polled => exact unregisterCov_labelled labelled
      | triggered => exact unregisterCov_labelled labelled
  · exact unregisterCov_labelled labelled

-- Callbacks come

theorem unregisterCov_arrival (there : callback ∈ (unregisterCov log engine).2.under key)
    : callback ∈ engine.under key := by
  unfold unregisterCov at there
  dsimp only at there
  split at there
  · exact there
  · split at there
    · next ref stored referenced found =>
        cases made : ref.key with
        | error exception =>
          rw [made] at there
          exact there
        | ok other =>
          rw [made] at there
          change callback ∈ (engine.changeCallbacks.unregister other stored).under key at there
          rw [under_unregister] at there
          split at there
          · next same => exact same ▸ List.mem_of_mem_erase there
          · exact there
    · exact there

/-- A new callback is one of the trend log, which references an object in the database. -/
theorem handleCov_arrival (there : callback ∈ (handleCov present log engine).2.under key)
    : callback ∈ engine.under key
      ∨ callback.log = log.identity ∧ ∃ found, log.key? = some found ∧ present found.1 := by
  unfold handleCov at there
  split at there
  · exact .inl there
  · split at there
    · exact .inl there
    · next ref referenced =>
        split at there
        · next exists_ =>
            cases made : ref.key with
            | error exception =>
              rw [made] at there
              exact .inl there
            | ok other =>
              rw [made] at there
              change callback ∈ (subscribe log other engine).2.under key at there
              unfold subscribe register at there
              dsimp only at there
              by_cases full : 100 ≤ (engine.changeCallbacks.under other).length
              · rw [if_pos full] at there
                exact .inl there
              · rw [if_neg full] at there
                change callback ∈ ChangeCallbacks.under (Dict.set _ _ _) key at there
                rw [under_set] at there
                split at there
                · next same =>
                    rcases List.mem_append.mp there with before | new
                    · exact .inl (same ▸ before)
                    · rw [List.mem_singleton.mp new]
                      refine .inr ⟨rfl, other, ?_, ?_⟩
                      · exact TrendLogObject.key?_eq_some.mpr ⟨ref, referenced, made⟩
                      · rw [BACnetDeviceObjectPropertyReference.key_fst made]
                        exact exists_
                · exact .inl there
        · exact .inl there

theorem evaluateTrendlog_arrival
    (there : callback ∈ (evaluateTrendlog timestamp present now log engine).2.under key)
    : callback ∈ engine.under key
      ∨ callback.log = log.identity ∧ ∃ found, log.key? = some found ∧ present found.1 := by
  unfold evaluateTrendlog at there
  split at there
  · cases kind : log.loggingType with
    | none =>
      rw [kind] at there
      exact .inl there
    | some loggingType =>
      rw [kind] at there
      cases loggingType with
      | cov => exact handleCov_arrival there
      | polled => exact .inl (unregisterCov_arrival there)
      | triggered => exact .inl (unregisterCov_arrival there)
  · exact .inl (unregisterCov_arrival there)

end TrendLogEngine

end BacPy
