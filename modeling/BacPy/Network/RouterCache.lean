import BacPy.Library.Runs
import BacPy.Network.NetworkLayer
import Mathlib.Algebra.Order.Ring.Rat
import Mathlib.Data.Nat.Cast.Order.Ring

/-! The router cache of a network layer, over all runs: it stays within its bound, an eviction
spares the younger entries, and a lookup tells what the history of the cache tells.
-/

namespace BacPy

open Library
open Stateful (Preserves)
open OrderedDict (AgedOut size values get_set get_pop assign)

/-- The router that a history, its latest record first, leaves stored for a network, and when it
was stored or seen last.
-/
def routeOf (dnet : Nat) : List RouteRecord → Option (Bytes × Rat)
  | [] => none
  | .stored network routerMac time :: rest =>
    if network = dnet then some (routerMac, time) else routeOf dnet rest
  | .refreshed network time :: rest =>
    if network = dnet then (routeOf dnet rest).map fun route => (route.1, time)
    else routeOf dnet rest
  | .evicted gone _ :: rest =>
    if dnet ∈ gone.map RouterCacheEntry.network then none else routeOf dnet rest

/-- An eviction takes place in a full cache, and takes entries as old as any that it leaves. -/
def RouteRecord.OldestFirst : RouteRecord → Prop
  | .evicted gone left =>
    gone.length + left.length = NetworkLayer.maxRouterCache
      ∧ ∀ entry ∈ gone, ∀ other ∈ left, entry.lastSeen ≤ other.lastSeen
  | _ => True

namespace NetworkLayer

variable {clock : Nat → Rat} {ttl : Rat} {layer : NetworkLayer}

-- Room

theorem agedOut_evictStale (layer : NetworkLayer) (now : Rat)
    : AgedOut RouterCacheEntry.lastSeen layer.routerCache
        (layer.evictStaleCacheEntries now).routerCache := by
  refine @OrderedDict.agedOut_pop_filter _ _ _ _ _ _ _
    (fun entry : RouterCacheEntry => layer.cacheTtl < now - entry.lastSeen) _
    fun {entry left} stale fresh => ?_
  have younger := lt_of_le_of_lt (not_lt.mp fresh) stale
  exact le_of_lt ((sub_lt_sub_iff_left now).mp younger)

theorem agedOut_evictOldest (layer : NetworkLayer)
    : AgedOut RouterCacheEntry.lastSeen layer.routerCache
        layer.evictOldest.routerCache := by
  rw [evictOldest]
  split
  · exact .refl _
  · next least => exact OrderedDict.agedOut_pop_argmin least

/-- Whatever is removed to make room is as old as any entry that is left. -/
theorem agedOut_makeRoom (layer : NetworkLayer) (now : Rat)
    : AgedOut RouterCacheEntry.lastSeen layer.routerCache
        (layer.makeRoom now).routerCache := by
  dsimp only [makeRoom]
  split
  · exact (layer.agedOut_evictStale now).trans (agedOut_evictOldest _)
  · exact layer.agedOut_evictStale now

/-- There is room for one more entry, afterwards. -/
theorem size_makeRoom (bounded : layer.routerCache.size ≤ maxRouterCache) (now : Rat)
    : (layer.makeRoom now).routerCache.size < maxRouterCache := by
  have fewer : (layer.evictStaleCacheEntries now).routerCache.size ≤ maxRouterCache :=
    Nat.le_trans (OrderedDict.size_foldl_pop_le _ _) bounded
  dsimp only [makeRoom]
  split
  · next full =>
      rw [evictOldest]
      split
      · next empty =>
          have nothing := List.argmin_eq_none.mp empty
          rw [size, nothing] at full
          exact absurd full (by decide)
      · next least =>
          have there := OrderedDict.mem_entries.mp (List.argmin_mem least)
          exact Nat.lt_of_lt_of_le (OrderedDict.size_pop_lt there) fewer
  · next room => exact Nat.not_le.mp room

@[simp] theorem cacheTtl_makeRoom (now : Rat) : (layer.makeRoom now).cacheTtl = layer.cacheTtl := by
  dsimp only [makeRoom]
  split
  · rw [evictOldest]
    split <;> rfl
  · rfl

@[simp] theorem readings_makeRoom (now : Rat) : (layer.makeRoom now).readings = layer.readings := by
  dsimp only [makeRoom]
  split
  · rw [evictOldest]
    split <;> rfl
  · rfl

@[simp] theorem records_makeRoom (now : Rat) : (layer.makeRoom now).records = layer.records := by
  dsimp only [makeRoom]
  split
  · rw [evictOldest]
    split <;> rfl
  · rfl

-- The cache and its history

/-- The cache holds what its history leaves stored, except for what has gone stale. -/
structure Remembers (clock : Nat → Rat) (ttl : Rat) (layer : NetworkLayer) : Prop where
  sameTtl : layer.cacheTtl = ttl
  bounded : layer.routerCache.size ≤ maxRouterCache
  named : ∀ {network entry}, layer.routerCache.get network = some entry → entry.network = network
  held : ∀ {network entry}, layer.routerCache.get network = some entry
    → routeOf network layer.records = some (entry.routerMac, entry.lastSeen)
  expired : ∀ {network route}, layer.routerCache.get network = none
    → routeOf network layer.records = some route → ttl < layer.monotonic clock - route.2
  oldestFirst : ∀ record ∈ layer.records, record.OldestFirst

/-- What has gone stale stays stale. -/
theorem Remembers.tick (monotone : Monotone clock) (remembers : Remembers clock ttl layer)
    : Remembers clock ttl layer.tick where
  sameTtl := remembers.sameTtl
  bounded := remembers.bounded
  named := remembers.named
  held := remembers.held
  expired gone stored :=
    lt_of_lt_of_le (remembers.expired gone stored)
      (sub_le_sub_right (monotone (Nat.le_succ layer.readings)) _)
  oldestFirst := remembers.oldestFirst

/-- An eviction is in the history, so a network that lost its entry has no route there. -/
theorem Remembers.ensureCacheCapacity (monotone : Monotone clock)
    (remembers : Remembers clock ttl layer)
    : Remembers clock ttl (layer.ensureCacheCapacity clock)
      ∧ (layer.ensureCacheCapacity clock).routerCache.size < maxRouterCache := by
  rw [NetworkLayer.ensureCacheCapacity]
  split
  · next room => exact ⟨remembers, room⟩
  · next full =>
      have ticked := remembers.tick monotone
      have aged := layer.tick.agedOut_makeRoom (layer.monotonic clock)
      have room := size_makeRoom ticked.bounded (layer.monotonic clock)
      have whole := aged.length_add_size
      refine ⟨⟨?_, room.le, fun there => ticked.named (aged.kept there), ?_, ?_, ?_⟩, room⟩
      · rw [cacheTtl_makeRoom]
        exact ticked.sameTtl
      · intro network entry there
        have still := aged.kept there
        dsimp only
        rw [routeOf, if_neg, records_makeRoom]
        · exact ticked.held still
        · intro member
          obtain ⟨gone, evicted, same⟩ := List.mem_map.mp member
          obtain ⟨⟨other, _⟩, chosen, rfl⟩ := List.mem_map.mp evicted
          obtain ⟨before, absent⟩ := List.mem_filter.mp chosen
          have key := remembers.named (OrderedDict.mem_entries.mp before)
          rw [← same, key] at there
          rw [there] at absent
          cases absent
      · intro network route gone stored
        dsimp only at stored
        rw [routeOf, records_makeRoom] at stored
        split at stored
        · cases stored
        · next unaffected =>
            cases before : layer.routerCache.get network with
            | none =>
              have stale := ticked.expired before stored
              rwa [monotonic, readings_makeRoom]
            | some entry =>
              refine absurd (List.mem_map.mpr ⟨entry, List.mem_map.mpr ⟨(network, entry),
                List.mem_filter.mpr ⟨OrderedDict.mem_entries.mpr before, ?_⟩, rfl⟩,
                remembers.named before⟩) unaffected
              dsimp only
              rw [gone]
              rfl
      · intro record member
        dsimp only at member
        rw [records_makeRoom] at member
        rcases List.mem_cons.mp member with rfl | earlier
        · constructor
          · rw [List.length_map, values, List.length_map]
            exact whole.trans (Nat.le_antisymm remembers.bounded (Nat.not_lt.mp full))
          · intro entry evicted other spared
            obtain ⟨⟨network, _⟩, chosen, rfl⟩ := List.mem_map.mp evicted
            obtain ⟨before, absent⟩ := List.mem_filter.mp chosen
            obtain ⟨left, there⟩ := OrderedDict.mem_values.mp spared
            exact aged.oldest (OrderedDict.mem_entries.mp before) (Option.isNone_iff_eq_none.mp absent)
              there
        · exact ticked.oldestFirst record earlier

/-- There is room for an entry, or an entry to overwrite. -/
def HasRoomFor (layer : NetworkLayer) (network : Nat) : Prop :=
  layer.routerCache.size < maxRouterCache ∨ (layer.routerCache.get network).isSome

theorem Remembers.ensureRoomFor (monotone : Monotone clock)
    (remembers : Remembers clock ttl layer) (network : Nat)
    : Remembers clock ttl (layer.ensureRoomFor clock network)
      ∧ (layer.ensureRoomFor clock network).HasRoomFor network := by
  rw [NetworkLayer.ensureRoomFor]
  split
  · obtain ⟨kept, room⟩ := remembers.ensureCacheCapacity monotone
    exact ⟨kept, .inl room⟩
  · next there => exact ⟨remembers, .inr (by simpa [Option.isSome_iff_ne_none] using there)⟩

/-- A new value for a network fits where there is room for it. -/
theorem size_set_le {network entry} (bounded : layer.routerCache.size ≤ maxRouterCache)
    (room : layer.HasRoomFor network)
    : (layer.routerCache.set network entry).size ≤ maxRouterCache := by
  cases there : layer.routerCache.get network with
  | none =>
    rcases room with room | present
    · rw [OrderedDict.size_set_of_none there]
      exact room
    · rw [there] at present
      cases present
  | some old =>
    rw [OrderedDict.size_set_of_some (by rw [there]; rfl)]
    exact bounded

/-- A route that is stored, or seen again, is the one the history tells then. -/
theorem Remembers.update {network routerMac time record} (remembers : Remembers clock ttl layer)
    (room : layer.HasRoomFor network)
    (told : routeOf network (record :: layer.records) = some (routerMac, time))
    (others : ∀ other, other ≠ network
      → routeOf other (record :: layer.records) = routeOf other layer.records)
    (fair : record.OldestFirst)
    : Remembers clock ttl
        { layer with
          routerCache := layer.routerCache.set network { network, routerMac, lastSeen := time }
          records := record :: layer.records } where
  sameTtl := remembers.sameTtl
  bounded := size_set_le remembers.bounded room
  named {other entry} there := by
    rw [get_set] at there
    split at there
    · next same =>
        cases there
        exact same.symm
    · exact remembers.named there
  held {other entry} there := by
    rw [get_set] at there
    split at there
    · next same =>
        cases there
        rw [same]
        exact told
    · next different =>
        rw [others other different]
        exact remembers.held there
  expired {other route} gone stored := by
    rw [get_set] at gone
    split at gone
    · cases gone
    · next different =>
        rw [others other different] at stored
        exact remembers.expired gone stored
  oldestFirst other member := by
    rcases List.mem_cons.mp member with rfl | earlier
    · exact fair
    · exact remembers.oldestFirst other earlier

theorem Remembers.store {network} (remembers : Remembers clock ttl layer)
    (room : layer.HasRoomFor network) (routerMac : Bytes) (lastSeen : Rat)
    : Remembers clock ttl (layer.store network routerMac lastSeen) :=
  remembers.update room (by rw [routeOf, if_pos rfl])
    (fun _ different => by rw [routeOf, if_neg (Ne.symm different)]) trivial

-- The operations on the cache

theorem Remembers.addRoute (monotone : Monotone clock) (remembers : Remembers clock ttl layer)
    (network : Nat) (routerMac : Bytes)
    : Remembers clock ttl (layer.addRoute clock network routerMac) := by
  obtain ⟨kept, room⟩ := remembers.ensureCacheCapacity monotone
  exact (kept.tick monotone).store (.inl room) routerMac _

/-- A lookup deletes an entry only once it is stale. -/
theorem Remembers.getRouterForNetwork (monotone : Monotone clock)
    (remembers : Remembers clock ttl layer) (dnet : Nat)
    : Remembers clock ttl (layer.getRouterForNetwork clock dnet).2 := by
  have ticked := remembers.tick monotone
  rw [NetworkLayer.getRouterForNetwork]
  split
  · exact remembers
  · next entry found =>
      split
      · next stale =>
          refine ⟨ticked.sameTtl, Nat.le_trans OrderedDict.size_pop_le ticked.bounded, ?_, ?_, ?_,
            ticked.oldestFirst⟩
          · intro network other there
            rw [get_pop] at there
            split at there
            · cases there
            · exact ticked.named there
          · intro network other there
            rw [get_pop] at there
            split at there
            · cases there
            · exact ticked.held there
          · intro network route gone stored
            rw [get_pop] at gone
            split at gone
            · next same =>
                have known := (remembers.held (same ▸ found)).symm.trans stored
                rw [← Option.some.inj known]
                rw [remembers.sameTtl] at stale
                exact lt_of_lt_of_le stale
                  (sub_le_sub_right (monotone (Nat.le_succ layer.readings)) _)
            · exact ticked.expired gone stored
      · exact ticked

/-- The loop of an I-Am-Router-To-Network, by induction on the networks. -/
theorem Remembers.handleIAmRouter (monotone : Monotone clock)
    (remembers : Remembers clock ttl layer) (networks : List Nat) (sourceMac : Bytes)
    : Remembers clock ttl (layer.handleIAmRouter clock networks sourceMac) := by
  have loop : ∀ (now : Rat) (layer : NetworkLayer), Remembers clock ttl layer
      → Remembers clock ttl (networks.foldl (fun layer dnet =>
          (layer.ensureRoomFor clock dnet).store dnet sourceMac now) layer) := by
    intro now
    induction networks with
    | nil => exact fun _ kept => kept
    | cons dnet rest ih =>
      intro layer kept
      obtain ⟨still, room⟩ := kept.ensureRoomFor monotone dnet
      exact ih _ (still.store room sourceMac now)
  exact loop _ _ (remembers.tick monotone)

theorem Remembers.storeSource (monotone : Monotone clock) (remembers : Remembers clock ttl layer)
    (snet : Nat) (sourceMac : Bytes)
    : Remembers clock ttl (layer.storeSource clock snet sourceMac) := by
  obtain ⟨kept, room⟩ := remembers.ensureRoomFor monotone snet
  exact (kept.tick monotone).store room sourceMac _

/-- A routed APDU refreshes a fresh entry, and stores its sender where there is none. -/
theorem Remembers.learnRouterFromSource (monotone : Monotone clock)
    (remembers : Remembers clock ttl layer) (snet : Nat) (sourceMac : Bytes)
    : Remembers clock ttl (layer.learnRouterFromSource clock snet sourceMac) := by
  have ticked := remembers.tick monotone
  rw [NetworkLayer.learnRouterFromSource]
  split
  · exact remembers.storeSource monotone snet sourceMac
  · next existing found =>
      obtain ⟨network, routerMac, lastSeen⟩ := existing
      obtain rfl : network = snet := remembers.named found
      dsimp only
      split
      · refine ticked.update (.inr ?_) ?_ ?_ trivial
        · change (layer.routerCache.get network).isSome
          rw [found]
          rfl
        · change routeOf network (.refreshed network (layer.monotonic clock) :: layer.records) = _
          rw [routeOf, if_pos rfl, remembers.held found]
          rfl
        · intro other different
          rw [routeOf, if_neg (Ne.symm different)]
      · exact ticked.storeSource monotone network sourceMac

/-- A lookup returns what the history leaves stored, as long as that is fresh. -/
theorem Remembers.lookup_eq (remembers : Remembers clock ttl layer) (dnet : Nat)
    : (layer.getRouterForNetwork clock dnet).1
      = ((routeOf dnet layer.records).filter fun route =>
          layer.monotonic clock - route.2 ≤ ttl).map Prod.fst := by
  rw [NetworkLayer.getRouterForNetwork]
  cases found : layer.routerCache.get dnet with
  | none =>
    cases stored : routeOf dnet layer.records with
    | none => rfl
    | some route =>
      have stale := remembers.expired found stored
      simp [Option.filter, not_le.mpr stale]
  | some entry =>
    rw [remembers.held found, remembers.sameTtl]
    by_cases stale : ttl < layer.monotonic clock - entry.lastSeen
    · simp [Option.filter, stale, not_le.mpr stale]
    · simp [Option.filter, stale, not_lt.mp stale]

-- Sending and receiving

/-- The layer's cache is in accord with its history, whatever has been put out. -/
def CacheSound (clock : Nat → Rat) (ttl : Rat) (layering : Layering) : Prop :=
  Remembers clock ttl layering.layer

theorem preserves_emit (output : LayerOutput)
    : Preserves (CacheSound clock ttl) (emit output) :=
  Preserves.modifies fun _ sound => sound

theorem preserves_change {update}
    (kept : ∀ layer, Remembers clock ttl layer → Remembers clock ttl (update layer))
    : Preserves (CacheSound clock ttl) (change update) :=
  Preserves.modifies fun layering sound => kept layering.layer sound

theorem preserves_broadcastMessage (msg)
    : Preserves (CacheSound clock ttl) (broadcastMessage msg) := by
  apply Preserves.bind_lift
  intro data _
  apply Preserves.bind_lift
  intro encoded _
  exact preserves_emit _

theorem preserves_sendNetworkNumberIs
    : Preserves (CacheSound clock ttl) sendNetworkNumberIs := by
  apply Preserves.bind_reads
  intro layering _
  split
  · exact .pure ()
  · exact preserves_broadcastMessage _

theorem preserves_lookup (monotone : Monotone clock) (dnet : Nat)
    : Preserves (CacheSound clock ttl) (lookup clock dnet) :=
  Preserves.of_final fun _ sound => Remembers.getRouterForNetwork monotone sound dnet

theorem preserves_sendRemote (monotone : Monotone clock) (encoded : Bytes)
    (destination : BACnetAddress)
    : Preserves (CacheSound clock ttl) (sendRemote clock encoded destination) := by
  rw [sendRemote]
  split
  · exact .raise _
  · next dnet _ =>
      apply Preserves.bind (preserves_lookup monotone dnet)
      intro found
      cases found with
      | some routerMac => exact preserves_emit _
      | none =>
        apply Preserves.bind (preserves_emit _)
        intro _
        exact preserves_broadcastMessage _

theorem preserves_send (monotone : Monotone clock) (apdu : Bytes) (destination : BACnetAddress)
    (expectingReply : Bool) (priority)
    : Preserves (CacheSound clock ttl)
        (send clock apdu destination expectingReply priority) := by
  apply Preserves.bind_lift
  intro encoded _
  repeat' split
  · exact preserves_emit _
  · exact preserves_emit _
  · exact preserves_emit _
  · exact preserves_sendRemote monotone encoded destination

theorem preserves_sendNetworkMessage (messageType : Nat) (data : Bytes) (destination)
    : Preserves (CacheSound clock ttl)
        (sendNetworkMessage messageType data destination) := by
  apply Preserves.bind_lift
  intro encoded _
  cases destination with
  | none => exact preserves_emit _
  | some address =>
    dsimp only
    split
    · exact preserves_emit _
    · exact preserves_emit _

theorem preserves_handleMessage (monotone : Monotone clock) (msg) (npdu : NPDU) (sourceMac : Bytes)
    : Preserves (CacheSound clock ttl) (handleMessage clock msg npdu sourceMac) := by
  cases msg with
  | iAmRouterToNetwork networks =>
    exact preserves_change fun _ kept => kept.handleIAmRouter monotone networks sourceMac
  | networkNumberIs network configured =>
    rw [handleMessage, handleNetworkNumberIs]
    repeat' split
    · exact .pure ()
    · exact .pure ()
    · apply preserves_change
      intro layer kept
      split
      · exact kept
      · exact ⟨kept.sameTtl, kept.bounded, kept.named, kept.held, kept.expired, kept.oldestFirst⟩
  | whatIsNetworkNumber =>
    rw [handleMessage, handleWhatIsNetworkNumber]
    split
    · exact .pure ()
    · apply Preserves.bind_reads
      intro layering _
      exact .when fun _ => preserves_sendNetworkNumberIs
  | _ => exact .pure ()

theorem preserves_handleNetworkMessage (monotone : Monotone clock) (npdu : NPDU)
    (sourceMac : Bytes)
    : Preserves (CacheSound clock ttl) (handleNetworkMessage clock npdu sourceMac) := by
  rw [handleNetworkMessage]
  repeat' split
  · exact .pure ()
  · exact .pure ()
  · apply Preserves.bind (preserves_handleMessage monotone _ npdu sourceMac)
    intro _
    exact preserves_emit _

theorem preserves_learnFrom (monotone : Monotone clock) (source : BACnetAddress)
    (sourceMac : Bytes)
    : Preserves (CacheSound clock ttl) (learnFrom clock source sourceMac) := by
  rw [learnFrom]
  split
  · exact .pure ()
  · next snet _ =>
      exact .when fun _ =>
        preserves_change fun _ kept => kept.learnRouterFromSource monotone snet sourceMac

theorem preserves_onNpduReceived (monotone : Monotone clock) (data sourceMac : Bytes)
    : Preserves (CacheSound clock ttl) (onNpduReceived clock data sourceMac) := by
  rw [onNpduReceived]
  split
  · exact .pure ()
  · next npdu _ =>
      split
      · exact preserves_handleNetworkMessage monotone npdu sourceMac
      · split
        · next source _ =>
            apply Preserves.bind (preserves_learnFrom monotone source sourceMac)
            intro _
            exact preserves_emit _
        · exact preserves_emit _

-- Runs

/-- Every step keeps the cache in accord with its history. -/
theorem remembers_step (monotone : Monotone clock) {next event}
    (remembers : Remembers clock ttl layer) (moved : step clock layer event = some next)
    : Remembers clock ttl next := by
  cases event with
  | addRoute network routerMac =>
    exact Option.some.inj moved ▸ remembers.addRoute monotone network routerMac
  | getRouterForNetwork dnet =>
    exact Option.some.inj moved ▸ remembers.getRouterForNetwork monotone dnet
  | send apdu destination expectingReply priority =>
    rw [← Option.some.inj moved]
    exact (preserves_send monotone apdu destination expectingReply priority).final remembers
  | sendNetworkMessage messageType data destination =>
    rw [← Option.some.inj moved]
    exact (preserves_sendNetworkMessage messageType data destination).final remembers
  | receive data sourceMac =>
    rw [← Option.some.inj moved]
    exact (preserves_onNpduReceived monotone data sourceMac).final remembers

/-- In every run of a network layer, the cache stays within its bound, a lookup returns the router
that was stored last for the network and not evicted since, if it was stored or seen again no
longer ago than the time to live, and every eviction, in a full cache, takes the oldest entries.
-/
theorem routerCache_serves (monotone : Monotone clock) (networkNumber : Option Nat)
    (networkNumberConfigured : Bool) (cacheTtl : Rat) (events : List Event) (final : NetworkLayer)
    (ran : run (step clock) { networkNumber, networkNumberConfigured, cacheTtl } events = some final)
    : final.routerCache.size ≤ maxRouterCache
      ∧ (∀ dnet, (final.getRouterForNetwork clock dnet).1
          = ((routeOf dnet final.records).filter fun route =>
              final.monotonic clock - route.2 ≤ cacheTtl).map Prod.fst)
      ∧ ∀ record ∈ final.records, record.OldestFirst := by
  have start : Remembers clock cacheTtl { networkNumber, networkNumberConfigured, cacheTtl } := by
    refine ⟨rfl, Nat.zero_le _, ?_, ?_, ?_, ?_⟩
    · intro network entry there
      cases there
    · intro network entry there
      cases there
    · intro network route _ stored
      cases stored
    · intro record member
      cases member
  have remembers := invariant_every_run (remembers_step monotone) start ran
  exact ⟨remembers.bounded, remembers.lookup_eq, remembers.oldestFirst⟩

/-- A layer that has heard of network 5 from one router at 0, and had an APDU from there through
another one at 200.
-/
def refreshedLayer : NetworkLayer where
  routerCache := ({} : OrderedDict Nat RouterCacheEntry).set 5 ⟨5, [10], 200⟩
  readings := 2
  records := [.refreshed 5 200, .stored 5 [10] 0]

/-- The run to this layer, and a lookup 400 after the router was stored. -/
theorem routerCache_serves_refreshed
    : (refreshedLayer.getRouterForNetwork (fun reading => 200 * reading) 5).1 = some [10] := by
  have ran : run (step fun reading => 200 * reading) { cacheTtl := 300 } [
      .receive [1, 0x80, 1, 0, 5] [10],
      .receive [1, 0x08, 0, 5, 1, 9, 0x10, 8] [11]
    ] = some refreshedLayer := by decide +kernel
  have monotone : Monotone fun reading : Nat => (200 * reading : Rat) :=
    fun _ _ later => mul_le_mul_of_nonneg_left (Nat.cast_le.mpr later) (by decide)
  exact ((routerCache_serves monotone none false 300 _ _ ran).2.1 5).trans (by decide +kernel)

-- A flood of routes

/-- Routes to as many networks, all through one router. -/
def routes (count : Nat) : List Event :=
  (List.range count).map fun network => .addRoute (network + 1) [7]

def routeEntries (count : Nat) : List (Nat × RouterCacheEntry) :=
  (List.range count).map fun network => (network + 1, ⟨network + 1, [7], 0⟩)

/-- A layer that has as many routes, and stored the first of them. -/
structure HasRoutes (count : Nat) (layer : NetworkLayer) : Prop where
  sameTtl : layer.cacheTtl = 300
  entries : layer.routerCache.entries = routeEntries count
  first : 0 < count → .stored 1 [7] 0 ∈ layer.records

/-- An assignment to a new key stands at the end. -/
theorem assign_routeEntries (count : Nat) (entry)
    : assign (routeEntries count) (count + 1) entry
      = routeEntries count ++ [(count + 1, entry)] := by
  have atEnd : ∀ entries : List (Nat × RouterCacheEntry),
      (∀ other ∈ entries, other.1 ≠ count + 1)
      → assign entries (count + 1) entry = entries ++ [(count + 1, entry)] := by
    intro entries different
    induction entries with
    | nil => rfl
    | cons other rest ih =>
      rw [assign, if_neg (different other List.mem_cons_self),
        ih fun later member => different later (List.mem_cons_of_mem _ member)]
      rfl
  apply atEnd
  intro other member
  obtain ⟨network, inside, rfl⟩ := List.mem_map.mp member
  have smaller := List.mem_range.mp inside
  exact fun same => absurd (Nat.succ.inj same) smaller.ne

/-- As long as there is room, every route of the flood is there, by induction on their number. -/
theorem hasRoutes_run {count} (room : count ≤ maxRouterCache)
    : ∃ layer, run (step fun _ => 0) {} (routes count) = some layer ∧ HasRoutes count layer := by
  induction count with
  | zero => exact ⟨{}, rfl, rfl, rfl, fun absent => absurd absent (Nat.lt_irrefl 0)⟩
  | succ count ih =>
    obtain ⟨layer, ran, sameTtl, entries, first⟩ := ih (Nat.le_of_succ_le room)
    have small : layer.routerCache.size < maxRouterCache := by
      rw [size, entries, routeEntries, List.length_map, List.length_range]
      exact room
    refine ⟨layer.addRoute (fun _ => 0) (count + 1) [7], ?_, ?_⟩
    · rw [routes, List.range_succ, List.map_append, run_append]
      change (run (step fun _ => 0) {} (routes count)).bind _ = _
      rw [ran]
      rfl
    · rw [addRoute, ensureCacheCapacity, if_pos small]
      refine ⟨sameTtl, ?_, fun _ => ?_⟩
      · change assign layer.routerCache.entries (count + 1) _ = _
        rw [entries, assign_routeEntries, routeEntries, routeEntries, List.range_succ,
          List.map_append]
        rfl
      · cases count with
        | zero => exact List.mem_cons_self
        | succ count => exact List.mem_cons_of_mem _ (first (Nat.succ_pos count))

/-- Of routes of one moment, the first is the oldest. -/
theorem argmin_routeEntries (count : Nat)
    : (routeEntries (count + 1)).argmin (fun entry => entry.2.lastSeen) = some (1, ⟨1, [7], 0⟩) := by
  have first : ∀ entries : List (Nat × RouterCacheEntry), (∀ other ∈ entries, other.2.lastSeen = 0)
      → ((1, ⟨1, [7], 0⟩) :: entries).argmin (fun entry => entry.2.lastSeen)
        = some (1, ⟨1, [7], 0⟩) := by
    intro entries same
    rw [List.argmin_cons]
    cases least : entries.argmin fun entry : Nat × RouterCacheEntry => entry.2.lastSeen with
    | none => rfl
    | some other =>
      dsimp only
      rw [if_neg (by rw [same other (List.argmin_mem least)]; exact lt_irrefl _)]
  rw [routeEntries, List.range_succ_eq_map, List.map_cons, List.map_map]
  apply first
  intro other member
  obtain ⟨network, _, rfl⟩ := List.mem_map.mp member
  rfl

theorem makeRoom_of_fresh {now oldest}
    (fresh : ∀ entry ∈ layer.routerCache.entries, ¬ layer.cacheTtl < now - entry.2.lastSeen)
    (full : maxRouterCache ≤ layer.routerCache.size)
    (least : layer.routerCache.entries.argmin (fun entry => entry.2.lastSeen) = some oldest)
    : layer.makeRoom now = { layer with routerCache := layer.routerCache.pop oldest.1 } := by
  have same : layer.evictStaleCacheEntries now = layer := by
    have none : (layer.routerCache.entries.filter fun entry =>
        layer.cacheTtl < now - entry.2.lastSeen) = [] :=
      List.filter_eq_nil_iff.mpr fun entry member => by simpa using fresh entry member
    dsimp only [evictStaleCacheEntries]
    rw [none]
    rfl
  dsimp only [makeRoom]
  rw [same, if_pos full, evictOldest, least]

/-- One more route than there is room for takes the first, which is as fresh as the others. -/
theorem evicts_first (full : HasRoutes maxRouterCache layer)
    : ((layer.addRoute (fun _ => 0) 2000 [7]).getRouterForNetwork (fun _ => 0) 1).1 = none
      ∧ .stored 1 [7] 0 ∈ (layer.addRoute (fun _ => 0) 2000 [7]).records
      ∧ (layer.addRoute (fun _ => 0) 2000 [7]).cacheTtl = 300 := by
  have size : layer.routerCache.size = maxRouterCache := by
    rw [size, full.entries, routeEntries, List.length_map, List.length_range]
  have evicted : layer.tick.makeRoom 0
      = { layer.tick with routerCache := layer.tick.routerCache.pop 1 } := by
    have least : layer.routerCache.entries.argmin (fun entry => entry.2.lastSeen)
        = some (1, ⟨1, [7], 0⟩) := full.entries ▸ argmin_routeEntries 1023
    refine @makeRoom_of_fresh layer.tick 0 _ ?_ size.ge least
    intro entry member
    change entry ∈ layer.routerCache.entries at member
    rw [full.entries] at member
    obtain ⟨network, _, rfl⟩ := List.mem_map.mp member
    change ¬ layer.cacheTtl < 0 - 0
    rw [full.sameTtl, sub_self]
    decide
  have noRoom : ¬ layer.routerCache.size < maxRouterCache := size.not_lt
  have lost : (layer.addRoute (fun _ => 0) 2000 [7]).routerCache.get 1 = none := by
    rw [addRoute, ensureCacheCapacity, if_neg noRoom, monotonic, evicted]
    change ((layer.routerCache.pop 1).set 2000 _).get 1 = none
    rw [OrderedDict.get_set_ne (by decide), OrderedDict.get_pop_self]
  refine ⟨by rw [getRouterForNetwork, lost], ?_, ?_⟩
  · rw [addRoute, ensureCacheCapacity, if_neg noRoom, monotonic, evicted]
    exact List.mem_cons_of_mem _ (List.mem_cons_of_mem _ (full.first (by decide)))
  · rw [addRoute, ensureCacheCapacity, if_neg noRoom, monotonic, evicted]
    exact full.sameTtl

/-- A router is forgotten while it is fresh, for 1024 others, and one that was stored 400 before is
returned, as an APDU came through another one.
-/
theorem fresh_route_forgotten
    : (∃ layer, run (step fun _ => 0) {} (routes maxRouterCache ++ [.addRoute 2000 [7]]) = some layer
        ∧ .stored 1 [7] 0 ∈ layer.records
        ∧ layer.monotonic (fun _ => 0) - 0 ≤ layer.cacheTtl
        ∧ (layer.getRouterForNetwork (fun _ => 0) 1).1 = none)
      ∧ run (step fun reading => 200 * reading) {} [
          .receive [1, 0x80, 1, 0, 5] [10],
          .receive [1, 0x08, 0, 5, 1, 9, 0x10, 8] [11]
        ] = some refreshedLayer
      ∧ (refreshedLayer.getRouterForNetwork (fun reading => 200 * reading) 5).1 = some [10] := by
  refine ⟨?_, by decide +kernel, by decide +kernel⟩
  obtain ⟨layer, ran, full⟩ := hasRoutes_run (Nat.le_refl maxRouterCache)
  obtain ⟨lost, stored, sameTtl⟩ := evicts_first full
  refine ⟨layer.addRoute (fun _ => 0) 2000 [7], ?_, stored, ?_, lost⟩
  · rw [run_append, ran]
    rfl
  · change (0 : Rat) - 0 ≤ _
    rw [sameTtl, sub_self]
    decide

end NetworkLayer

end BacPy
