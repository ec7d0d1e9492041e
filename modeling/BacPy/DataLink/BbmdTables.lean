import BacPy.DataLink.Bbmd

/-! The tables of `BBMDManager` as it stores them: what it forwards by is computed when the broadcast
distribution table changes, and kept beside it. Messages are answered as by a manager that computes
all of it anew, and the tables stay in step over whole runs.
-/

namespace BacPy

open Library
open BBMDManager (managed decodeBdt sendResult)

/-- A `BBMDManager` with the tables that `_rebuild_forward_cache` fills, and the file that the
distribution table is saved to. The entries of the file are all that is read of it; what cannot be
read is no content.
-/
structure BbmdTables where
  manager : BBMDManager
  bdtForwardCache : List BIPAddress := []
  bdtUnicastMask : OrderedDict BIPAddress Bool := {}
  bdtPeers : List (BDTEntry × BIPAddress) := []
  /-- `_bdt_backup_path is not None` -/
  hasBackupPath : Bool := false
  backup : Option (List BDTEntry) := none

/-- What happens to a BBMD: a datagram arrives, the cleanup loop runs, the table is set, the manager
is started, an attribute is set, or the file is changed by someone else.
-/
inductive BbmdEvent where
  | datagram (now : Rat) (data : Bytes) (addr : BIPAddress)
  | purge (now : Rat)
  | setBdt (entries : List BDTEntry)
  | start
  | acceptFdRegistrations (value : Bool)
  | globalAddress (value : Option BIPAddress)
  | fileChange (content : Option (List BDTEntry))

namespace BbmdTables

/-- What a handler that touches no stored table leaves. -/
def withManager (tables : BbmdTables)
    (result : Except PyException (BBMDManager × List BbmdOutput × Bool))
    : Except PyException (BbmdTables × List BbmdOutput × Bool) := do
  let (manager, outputs, consumed) ← result
  .ok ({ tables with manager }, outputs, consumed)

-- The distribution table

/-- `{entry.address: entry.broadcast_mask == _ALL_ONES_MASK for entry in bdt}` -/
def unicastMasks (bdt : List BDTEntry) : OrderedDict BIPAddress Bool :=
  bdt.foldl (fun masks entry =>
    masks.set entry.address (decide (entry.broadcastMask = allOnesMask))) {}

def rebuildForwardCache (tables : BbmdTables) : BbmdTables :=
  let bdtForwardCache := tables.manager.bdt.map computeForwardAddress
  { tables with
    bdtForwardCache
    bdtUnicastMask := unicastMasks tables.manager.bdt
    bdtPeers := (tables.manager.bdt.zip bdtForwardCache).filter fun entry =>
      entry.1.address ≠ tables.manager.localAddress }

/-- `_save_bdt_backup`, when the file can be written. -/
def saveBdtBackup (tables : BbmdTables) : BbmdTables :=
  if tables.hasBackupPath then { tables with backup := some tables.manager.bdt } else tables

def setBdt (tables : BbmdTables) (entries : List BDTEntry) : BbmdTables :=
  ({ tables with manager := tables.manager.setBdt entries } : BbmdTables).rebuildForwardCache
    |>.saveBdtBackup

def loadBdtBackup (tables : BbmdTables) : BbmdTables :=
  if tables.hasBackupPath = false ∨ tables.manager.bdt ≠ [] then tables
  else
    match tables.backup with
    | none => tables
    | some entries =>
      ({ tables with manager := tables.manager.setBdt entries } : BbmdTables).rebuildForwardCache

def handleWriteBdt (tables : BbmdTables) (data : Bytes) (source : BIPAddress)
    : Except PyException (BbmdTables × List BbmdOutput × Bool) :=
  if tables.manager.allowWriteBdt = false ∨ data.length % 10 ≠ 0
      ∨ tables.manager.maxBdtEntries < data.length / 10 then
    tables.withManager
      (managed (tables.manager.sendResult .writeBroadcastDistributionTableNak source))
  else do
    let entries ← decodeBdt data
    let tables := ({ tables with manager := tables.manager.setBdt entries }
      : BbmdTables).rebuildForwardCache.saveBdtBackup
    tables.withManager
      (managed (tables.manager.sendResult .successfulCompletion source))

-- Forwarding by the stored tables

def isUnicastBdtMask (tables : BbmdTables) (address : BIPAddress) : Bool :=
  (tables.bdtUnicastMask.get address).getD true

/-- The loops of `_forward_to_peers_and_fds`. -/
def recipients (tables : BbmdTables) (originatingSource : BIPAddress)
    (excludeFd : Option BIPAddress)
    : List BIPAddress :=
  ((tables.bdtPeers.map Prod.snd).filter fun dest =>
    dest ≠ originatingSource ∧ some dest ≠ tables.manager.globalAddress)
    ++ tables.manager.foreignDevices.filter fun fd => some fd ≠ excludeFd

def forwardToPeersAndFds (tables : BbmdTables) (npdu : Bytes) (originatingSource : BIPAddress)
    (excludeFd : Option BIPAddress := none)
    : Except PyException (List BbmdOutput) := do
  let forwardedSource := tables.manager.globalAddress.getD originatingSource
  let forwarded ← encodeBvll .forwardedNpdu npdu (some forwardedSource)
  .ok ((tables.recipients originatingSource excludeFd).map fun dest => .send forwarded dest)

def handleForwardedNpdu (tables : BbmdTables) (npdu : Bytes)
    (originatingSource udpSource : BIPAddress)
    : Except PyException (List BbmdOutput) := do
  let forwarded ← encodeBvll .forwardedNpdu npdu (some originatingSource)
  let fds := tables.manager.foreignDevices.filter fun fd => fd ≠ originatingSource
  let wire := if tables.isUnicastBdtMask udpSource then tables.manager.broadcastAddress.toList
    else []
  .ok ((fds ++ wire).map (fun dest => .send forwarded dest)
    ++ tables.manager.localBroadcast npdu originatingSource)

def handleDistributeBroadcast (tables : BbmdTables) (npdu : Bytes) (source : BIPAddress)
    : Except PyException (List BbmdOutput) := do
  if (tables.manager.fdt.get source).isNone then
    let (_, outputs) ← tables.manager.sendResult .distributeBroadcastToNetworkNak source
    .ok outputs
  else
    let outputs ← tables.forwardToPeersAndFds npdu source (some source)
    .ok (outputs ++ tables.manager.localBroadcast npdu source)

def handleBvlc (tables : BbmdTables) (now : Rat) (function : BvlcFunction) (data : Bytes)
    (source : BIPAddress) (udpSource : Option BIPAddress := none)
    : Except PyException (BbmdTables × List BbmdOutput × Bool) :=
  let manager := tables.manager
  if function = .forwardedNpdu
      ∧ (source = manager.localAddress ∨ some source = manager.globalAddress) then
    .ok (tables, [], true)
  else
    match function with
    | .originalBroadcastNpdu => tables.withManager
        (manager.unchanged (tables.forwardToPeersAndFds data source) false)
    | .forwardedNpdu => tables.withManager
        (manager.unchanged (tables.handleForwardedNpdu data source (udpSource.getD source)) false)
    | .registerForeignDevice => tables.withManager
        (managed (manager.handleRegisterForeignDevice now data source))
    | .readBroadcastDistributionTable => tables.withManager
        (managed (manager.handleReadBdt source))
    | .writeBroadcastDistributionTable => tables.handleWriteBdt data source
    | .readForeignDeviceTable => tables.withManager
        (managed (manager.handleReadFdt now source))
    | .deleteForeignDeviceTableEntry => tables.withManager
        (managed (manager.handleDeleteFdtEntry data source))
    | .distributeBroadcastToNetwork => tables.withManager
        (manager.unchanged (tables.handleDistributeBroadcast data source) true)
    | _ => .ok (tables, [], false)

/-- A datagram that arrives; nothing is left of one that cannot be decoded or whose handler raises,
which it does before it changes anything.
-/
def onDatagram (tables : BbmdTables) (now : Rat) (data : Bytes) (addr : BIPAddress) : BbmdTables :=
  match decodeBvll data with
  | .error _ => tables
  | .ok msg =>
    match tables.handleBvlc now msg.function msg.data (msg.originatingAddress.getD addr)
      (some addr) with
    | .error _ => tables
    | .ok (tables, _, _) => tables

def step (tables : BbmdTables) : BbmdEvent → BbmdTables
  | .datagram now data addr => tables.onDatagram now data addr
  | .purge now => { tables with manager := tables.manager.purgeExpiredFdtEntries now }
  | .setBdt entries => tables.setBdt entries
  | .start => tables.loadBdtBackup
  | .acceptFdRegistrations value =>
    { tables with manager := { tables.manager with acceptFdRegistrations := value } }
  | .globalAddress value => { tables with manager := { tables.manager with globalAddress := value } }
  | .fileChange content => { tables with backup := content }

-- Tables in step

/-- The stored tables are those of the distribution table: all forward addresses, whether the mask
of the last entry for an address is all ones, and the entries of other BBMDs with theirs.
-/
structure Derived (tables : BbmdTables) : Prop where
  forwardCache : tables.bdtForwardCache = tables.manager.bdt.map computeForwardAddress
  unicastMask : ∀ address, tables.bdtUnicastMask.get address
    = (tables.manager.bdt.reverse.find? fun entry => entry.address = address).map
      fun entry => decide (entry.broadcastMask = allOnesMask)
  peers : tables.bdtPeers
    = (tables.manager.bdt.filter fun entry => entry.address ≠ tables.manager.localAddress).map
      fun entry => (entry, computeForwardAddress entry)

/-- The masks by address, by induction on the entries from the last one on. -/
theorem get_unicastMasks (bdt : List BDTEntry) (address : BIPAddress)
    : (unicastMasks bdt).get address
      = (bdt.reverse.find? fun entry => entry.address = address).map
        fun entry => decide (entry.broadcastMask = allOnesMask) := by
  induction bdt using List.reverseRecOn with
  | nil => rfl
  | append_singleton front last ih =>
    rw [unicastMasks, List.foldl_append, List.foldl_cons, List.foldl_nil, OrderedDict.get_set,
      List.reverse_append, List.reverse_singleton, List.singleton_append, List.find?_cons]
    by_cases same : address = last.address
    · rw [if_pos same, decide_eq_true same.symm]
      rfl
    · rw [if_neg same, decide_eq_false fun here => same here.symm]
      exact ih

/-- Entries beside what is computed of them, by induction on the entries. -/
theorem filter_zip_map {Item Result : Type} (items : List Item) (compute : Item → Result)
    (keep : Item → Bool)
    : (items.zip (items.map compute)).filter (fun entry => keep entry.1)
      = (items.filter keep).map fun item => (item, compute item) := by
  induction items with
  | nil => rfl
  | cons item rest ih =>
    rw [List.map_cons, List.zip_cons_cons, List.filter_cons, List.filter_cons, ih]
    split
    · rfl
    · rfl

theorem derived_rebuild (tables : BbmdTables) : tables.rebuildForwardCache.Derived where
  forwardCache := rfl
  unicastMask := get_unicastMasks tables.manager.bdt
  peers := filter_zip_map tables.manager.bdt computeForwardAddress fun entry =>
    entry.address ≠ tables.manager.localAddress

variable {tables next : BbmdTables}

/-- Changes of anything but the distribution table and the own address keep the tables in step. -/
theorem Derived.congr (derived : tables.Derived) (bdt : next.manager.bdt = tables.manager.bdt)
    (address : next.manager.localAddress = tables.manager.localAddress)
    (forwardCache : next.bdtForwardCache = tables.bdtForwardCache)
    (unicastMask : next.bdtUnicastMask = tables.bdtUnicastMask)
    (peers : next.bdtPeers = tables.bdtPeers)
    : next.Derived where
  forwardCache := by rw [forwardCache, bdt, derived.forwardCache]
  unicastMask := by rw [unicastMask, bdt]; exact derived.unicastMask
  peers := by rw [peers, bdt, address, derived.peers]

theorem derived_saveBdtBackup (derived : tables.Derived) : tables.saveBdtBackup.Derived := by
  unfold saveBdtBackup
  split
  · exact derived.congr rfl rfl rfl rfl rfl
  · exact derived

/-- What the stored tables tell is what is computed anew. -/
theorem Derived.isUnicastBdtMask_eq (derived : tables.Derived) (address : BIPAddress)
    : tables.isUnicastBdtMask address = tables.manager.isUnicastBdtMask address := by
  rw [isUnicastBdtMask, derived.unicastMask, BBMDManager.isUnicastBdtMask]
  cases tables.manager.bdt.reverse.find? fun entry => entry.address = address with
  | none => rfl
  | some entry => rfl

theorem Derived.recipients_eq (derived : tables.Derived) (source : BIPAddress) (excludeFd)
    : tables.recipients source excludeFd = tables.manager.recipients source excludeFd := by
  have peers : tables.bdtPeers.map Prod.snd = tables.manager.peers := by
    rw [derived.peers, List.map_map]
    rfl
  rw [recipients, peers, BBMDManager.recipients]

theorem Derived.forwardToPeersAndFds_eq (derived : tables.Derived) (npdu : Bytes)
    (source : BIPAddress) (excludeFd)
    : tables.forwardToPeersAndFds npdu source excludeFd
      = tables.manager.forwardToPeersAndFds npdu source excludeFd := by
  rw [forwardToPeersAndFds, derived.recipients_eq, BBMDManager.forwardToPeersAndFds]

theorem Derived.handleForwardedNpdu_eq (derived : tables.Derived) (npdu : Bytes)
    (source udpSource : BIPAddress)
    : tables.handleForwardedNpdu npdu source udpSource
      = tables.manager.handleForwardedNpdu npdu source udpSource := by
  rw [handleForwardedNpdu, derived.isUnicastBdtMask_eq, BBMDManager.handleForwardedNpdu,
    BBMDManager.wire]

theorem Derived.handleDistributeBroadcast_eq (derived : tables.Derived) (npdu : Bytes)
    (source : BIPAddress)
    : tables.handleDistributeBroadcast npdu source
      = tables.manager.handleDistributeBroadcast npdu source := by
  rw [handleDistributeBroadcast, derived.forwardToPeersAndFds_eq,
    BBMDManager.handleDistributeBroadcast]

end BbmdTables

-- What a message changes

namespace BBMDManager

variable {manager next : BBMDManager} {outputs : List BbmdOutput} {consumed : Bool}

/-- What any message but a Write-BDT may do to the tables: a device is registered if it is there or
there is room for it, or one is deleted.
-/
inductive ForeignChange (manager : BBMDManager) : BBMDManager → Prop where
  | none : ForeignChange manager manager
  | registered (source : BIPAddress) (ttl : Nat) (expiry : Rat)
      (room : (manager.fdt.get source).isSome ∨ manager.fdt.size < manager.maxFdtEntries)
      : ForeignChange manager (manager.register source ttl expiry)
  | deleted (address : BIPAddress) : ForeignChange manager (manager.unregister address)

theorem ForeignChange.bdt (change : ForeignChange manager next) : next.bdt = manager.bdt := by
  cases change <;> rfl

theorem ForeignChange.localAddress (change : ForeignChange manager next)
    : next.localAddress = manager.localAddress := by
  cases change <;> rfl

theorem ForeignChange.maxFdtEntries (change : ForeignChange manager next)
    : next.maxFdtEntries = manager.maxFdtEntries := by
  cases change <;> rfl

/-- The foreign device table does not outgrow its limit. -/
theorem ForeignChange.size (change : ForeignChange manager next)
    (bounded : manager.fdt.size ≤ manager.maxFdtEntries)
    : next.fdt.size ≤ next.maxFdtEntries := by
  cases change with
  | none => exact bounded
  | registered source ttl expiry room =>
    change (manager.fdt.set source _).size ≤ manager.maxFdtEntries
    cases found : manager.fdt.get source with
    | none =>
      rw [OrderedDict.size_set_of_none found]
      rw [found] at room
      exact room.resolve_left (by decide)
    | some entry => rwa [OrderedDict.size_set_of_some (by rw [found]; rfl)]
  | deleted address => exact Nat.le_trans OrderedDict.size_pop_le bounded

def resultOctets (code : BvlcResultCode) : Bytes :=
  0x81 :: BvlcFunction.bvlcResult.toOctet :: (toBytes 6 2 ++ toBytes code.toNat 2)

/-- A result can always be sent. -/
theorem sendResult_eq (manager : BBMDManager) (code) (destination : BIPAddress)
    : manager.sendResult code destination
      = .ok (manager, [.send (resultOctets code) destination]) := by
  have length : packLength (4 + (toBytes code.toNat 2).length) = .ok (toBytes 6 2) := by
    rw [length_toBytes]
    exact packLength_ok (by decide)
  rw [sendResult, encodeBvll, if_neg (by decide), length]
  rfl

theorem managed_eq_ok {result}
    : managed result = .ok (next, outputs, consumed)
      ↔ result = .ok (next, outputs) ∧ consumed = true := by
  rw [managed, bind_eq_ok]
  constructor
  · rintro ⟨⟨manager, sent⟩, rfl, same⟩
    cases same
    exact ⟨rfl, rfl⟩
  · rintro ⟨rfl, rfl⟩
    exact ⟨_, rfl, rfl⟩

theorem unchanged_eq_ok {result handled}
    : manager.unchanged result handled = .ok (next, outputs, consumed)
      ↔ result = .ok outputs ∧ next = manager ∧ consumed = handled := by
  rw [unchanged, bind_eq_ok]
  constructor
  · rintro ⟨sent, rfl, same⟩
    cases same
    exact ⟨rfl, rfl, rfl⟩
  · rintro ⟨rfl, rfl, rfl⟩
    exact ⟨_, rfl, rfl⟩

theorem foreignChange_of_result {other code destination}
    (sent : other.sendResult code destination = .ok (next, outputs))
    (change : ForeignChange manager other)
    : ForeignChange manager next := by
  rw [sendResult_eq] at sent
  cases sent
  exact change

theorem foreignChange_register {now data source}
    (handled : manager.handleRegisterForeignDevice now data source = .ok (next, outputs))
    : ForeignChange manager next := by
  unfold handleRegisterForeignDevice at handled
  dsimp only at handled
  split at handled
  · exact foreignChange_of_result handled .none
  · split at handled
    · exact foreignChange_of_result handled .none
    · next room =>
        refine foreignChange_of_result handled (.registered source _ _ ?_)
        cases found : manager.fdt.get source with
        | none => exact .inr (Nat.lt_of_not_le fun full => room ⟨by rw [found]; rfl, full⟩)
        | some entry => exact .inl rfl

theorem foreignChange_delete {data source}
    (handled : manager.handleDeleteFdtEntry data source = .ok (next, outputs))
    : ForeignChange manager next := by
  unfold handleDeleteFdtEntry at handled
  split at handled
  · exact foreignChange_of_result handled .none
  · obtain ⟨address, _, handled⟩ := bind_eq_ok.mp handled
    split at handled
    · exact foreignChange_of_result handled (.deleted address)
    · exact foreignChange_of_result handled .none

theorem foreignChange_readBdt {source}
    (handled : manager.handleReadBdt source = .ok (next, outputs))
    : ForeignChange manager next := by
  obtain ⟨ack, _, same⟩ := bind_eq_ok.mp handled
  cases same
  exact .none

theorem foreignChange_readFdt {now source}
    (handled : manager.handleReadFdt now source = .ok (next, outputs))
    : ForeignChange manager next := by
  obtain ⟨ack, _, same⟩ := bind_eq_ok.mp handled
  cases same
  exact .none

/-- Devices that are purged are deleted one by one, by induction on them. -/
theorem purgeExpiredFdtEntries_spec (manager : BBMDManager) (now : Rat)
    : (manager.purgeExpiredFdtEntries now).bdt = manager.bdt
      ∧ (manager.purgeExpiredFdtEntries now).localAddress = manager.localAddress
      ∧ (manager.purgeExpiredFdtEntries now).maxFdtEntries = manager.maxFdtEntries
      ∧ (manager.fdt.size ≤ manager.maxFdtEntries
        → (manager.purgeExpiredFdtEntries now).fdt.size
          ≤ (manager.purgeExpiredFdtEntries now).maxFdtEntries) := by
  unfold purgeExpiredFdtEntries
  dsimp only
  generalize (manager.fdt.entries.filter fun entry => entry.2.expiry ≤ now).map Prod.fst = expired
  induction expired generalizing manager with
  | nil => exact ⟨rfl, rfl, rfl, id⟩
  | cons address rest ih =>
    have change : ForeignChange manager (manager.unregister address) := .deleted address
    obtain ⟨bdt, localAddress, limit, size⟩ := ih (manager.unregister address)
    exact ⟨bdt, localAddress, limit, fun bounded => size (change.size bounded)⟩

end BBMDManager

namespace BbmdTables

variable {tables next : BbmdTables} {outputs : List BbmdOutput} {consumed : Bool} {now : Rat}
  {function : BvlcFunction} {data : Bytes} {source : BIPAddress} {udpSource : Option BIPAddress}

theorem withManager_eq_ok {result}
    : tables.withManager result = .ok (next, outputs, consumed)
      ↔ ∃ manager, result = .ok (manager, outputs, consumed) ∧ next = { tables with manager } := by
  rw [withManager, bind_eq_ok]
  constructor
  · rintro ⟨⟨manager, sent, handled⟩, rfl, same⟩
    cases same
    exact ⟨manager, rfl, rfl⟩
  · rintro ⟨manager, rfl, rfl⟩
    exact ⟨_, rfl, rfl⟩

/-- A message changes the foreign device table, or it is a Write-BDT that is accepted. -/
theorem handleBvlc_cases
    (handled : tables.handleBvlc now function data source udpSource = .ok (next, outputs, consumed))
    : (∃ manager, BBMDManager.ForeignChange tables.manager manager ∧ next = { tables with manager })
      ∨ function = .writeBroadcastDistributionTable ∧ ∃ entries,
        decodeBdt data = .ok entries ∧ next = tables.setBdt entries := by
  have quiet {result : Except PyException (List BbmdOutput)} {told : Bool}
      (handled : tables.withManager (tables.manager.unchanged result told)
        = .ok (next, outputs, consumed))
      : ∃ manager, BBMDManager.ForeignChange tables.manager manager
        ∧ next = { tables with manager } := by
    obtain ⟨manager, outcome, rfl⟩ := withManager_eq_ok.mp handled
    obtain ⟨_, rfl, _⟩ := BBMDManager.unchanged_eq_ok.mp outcome
    exact ⟨_, .none, rfl⟩
  have table {result : Except PyException (BBMDManager × List BbmdOutput)}
      (handled : tables.withManager (managed result) = .ok (next, outputs, consumed))
      (change : ∀ manager, result = .ok (manager, outputs)
        → BBMDManager.ForeignChange tables.manager manager)
      : ∃ manager, BBMDManager.ForeignChange tables.manager manager
        ∧ next = { tables with manager } := by
    obtain ⟨manager, outcome, rfl⟩ := withManager_eq_ok.mp handled
    exact ⟨manager, change manager (BBMDManager.managed_eq_ok.mp outcome).1, rfl⟩
  unfold handleBvlc at handled
  dsimp only at handled
  split at handled
  · cases handled
    exact .inl ⟨_, .none, rfl⟩
  · split at handled
    · exact .inl (quiet handled)
    · exact .inl (quiet handled)
    · exact .inl (table handled fun _ => BBMDManager.foreignChange_register)
    · exact .inl (table handled fun _ => BBMDManager.foreignChange_readBdt)
    · unfold handleWriteBdt at handled
      split at handled
      · exact .inl (table handled fun _ sent => BBMDManager.foreignChange_of_result sent .none)
      · obtain ⟨entries, decoded, handled⟩ := bind_eq_ok.mp handled
        dsimp only at handled
        rw [BBMDManager.sendResult_eq] at handled
        obtain ⟨manager, outcome, same⟩ := withManager_eq_ok.mp handled
        cases outcome
        exact .inr ⟨rfl, entries, decoded, same⟩
    · exact .inl (table handled fun _ => BBMDManager.foreignChange_readFdt)
    · exact .inl (table handled fun _ => BBMDManager.foreignChange_delete)
    · exact .inl (quiet handled)
    · cases handled
      exact .inl ⟨_, .none, rfl⟩

/-- What is stored makes no difference to what is sent, nor to the tables that are not derived. -/
theorem Derived.handleBvlc_manager (derived : tables.Derived)
    : (fun result => (result.1.manager, result.2.1, result.2.2))
          <$> tables.handleBvlc now function data source udpSource
        = tables.manager.handleBvlc now function data source udpSource := by
  have plain (result : Except PyException (BBMDManager × List BbmdOutput × Bool))
      : (fun result => (result.1.manager, result.2.1, result.2.2)) <$> tables.withManager result
        = result := by
    cases result with
    | error failure => rfl
    | ok value => rfl
  unfold handleBvlc BBMDManager.handleBvlc
  dsimp only
  split
  · rfl
  · cases function with
    | originalBroadcastNpdu =>
      rw [plain, derived.forwardToPeersAndFds_eq, BBMDManager.handleOriginalBroadcast]
    | forwardedNpdu => rw [plain, derived.handleForwardedNpdu_eq]
    | distributeBroadcastToNetwork => rw [plain, derived.handleDistributeBroadcast_eq]
    | writeBroadcastDistributionTable =>
      dsimp only
      rw [handleWriteBdt, BBMDManager.handleWriteBdt]
      split
      · rw [plain]
      · cases decoded : decodeBdt data with
        | error failure => rfl
        | ok entries =>
          change _ <$> (withManager _ (managed (sendResult _ _ _)))
            = managed (sendResult _ _ _)
          rw [BBMDManager.sendResult_eq, BBMDManager.sendResult_eq]
          change Except.ok _ = Except.ok _
          have saved : (tables.setBdt entries).manager = tables.manager.setBdt entries := by
            unfold setBdt saveBdtBackup
            split
            · rfl
            · rfl
          exact congrArg (fun manager : BBMDManager => Except.ok
            (manager, [BbmdOutput.send (BBMDManager.resultOctets .successfulCompletion) source],
              true)) saved
    | registerForeignDevice => exact plain _
    | readBroadcastDistributionTable => exact plain _
    | readForeignDeviceTable => exact plain _
    | deleteForeignDeviceTableEntry => exact plain _
    | bvlcResult => rfl
    | readBroadcastDistributionTableAck => rfl
    | readForeignDeviceTableAck => rfl
    | originalUnicastNpdu => rfl
    | secureBvll => rfl

-- Runs

/-- The stored tables are derived, and the foreign device table is within its limit. -/
structure InStep (tables : BbmdTables) : Prop where
  derived : tables.Derived
  bounded : tables.manager.fdt.size ≤ tables.manager.maxFdtEntries

theorem setBdt_spec (tables : BbmdTables) (entries : List BDTEntry)
    : (tables.setBdt entries).manager = tables.manager.setBdt entries
      ∧ (tables.setBdt entries).Derived := by
  unfold setBdt
  refine ⟨?_, derived_saveBdtBackup (derived_rebuild _)⟩
  unfold saveBdtBackup
  split
  · rfl
  · rfl

theorem InStep.setBdt (inStep : tables.InStep) (entries : List BDTEntry)
    : (tables.setBdt entries).InStep := by
  obtain ⟨manager, derived⟩ := setBdt_spec tables entries
  refine ⟨derived, ?_⟩
  rw [manager]
  exact inStep.bounded

theorem InStep.handleBvlc (inStep : tables.InStep)
    (handled : tables.handleBvlc now function data source udpSource = .ok (next, outputs, consumed))
    : next.InStep := by
  rcases handleBvlc_cases handled with ⟨manager, change, rfl⟩ | ⟨_, entries, _, rfl⟩
  · exact ⟨inStep.derived.congr change.bdt change.localAddress rfl rfl rfl,
      change.size inStep.bounded⟩
  · exact inStep.setBdt entries

theorem InStep.step (inStep : tables.InStep) (event : BbmdEvent) : (tables.step event).InStep := by
  cases event with
  | datagram now data addr =>
    change (tables.onDatagram now data addr).InStep
    unfold onDatagram
    split
    · exact inStep
    · split
      · exact inStep
      · next handled => exact inStep.handleBvlc handled
  | purge now =>
    obtain ⟨bdt, localAddress, _, size⟩ :=
      BBMDManager.purgeExpiredFdtEntries_spec tables.manager now
    exact ⟨inStep.derived.congr bdt localAddress rfl rfl rfl, size inStep.bounded⟩
  | setBdt entries => exact inStep.setBdt entries
  | start =>
    change tables.loadBdtBackup.InStep
    unfold loadBdtBackup
    split
    · exact inStep
    · split
      · exact inStep
      · exact ⟨derived_rebuild _, inStep.bounded⟩
  | acceptFdRegistrations value =>
    exact ⟨inStep.derived.congr rfl rfl rfl rfl rfl, inStep.bounded⟩
  | globalAddress value => exact ⟨inStep.derived.congr rfl rfl rfl rfl rfl, inStep.bounded⟩
  | fileChange content => exact ⟨inStep.derived.congr rfl rfl rfl rfl rfl, inStep.bounded⟩

/-- A manager as it is made: all tables are empty. -/
structure Fresh (tables : BbmdTables) : Prop where
  fdt : tables.manager.fdt.entries = []
  bdt : tables.manager.bdt = []
  bdtForwardCache : tables.bdtForwardCache = []
  bdtUnicastMask : tables.bdtUnicastMask.entries = []
  bdtPeers : tables.bdtPeers = []

theorem Fresh.inStep (fresh : tables.Fresh) : tables.InStep where
  derived := {
    forwardCache := by rw [fresh.bdtForwardCache, fresh.bdt]; rfl
    unicastMask := by
      intro address
      rw [OrderedDict.get, fresh.bdtUnicastMask, fresh.bdt]
      rfl
    peers := by rw [fresh.bdtPeers, fresh.bdt]; rfl
  }
  bounded := by rw [OrderedDict.size, fresh.fdt]; exact Nat.zero_le _

/-- Any events keep them in step, by induction on the events. -/
theorem InStep.run (inStep : tables.InStep) (events : List BbmdEvent)
    : (events.foldl BbmdTables.step tables).InStep := by
  induction events generalizing tables with
  | nil => exact inStep
  | cons event rest ih => exact ih (inStep.step event)

/-- In every run a manager answers as one that computes everything from its distribution table. -/
theorem answers_as_computed (fresh : tables.Fresh) (events : List BbmdEvent)
    : (fun result => (result.1.manager, result.2.1, result.2.2))
          <$> (events.foldl step tables).handleBvlc now function data source udpSource
        = (events.foldl step tables).manager.handleBvlc now function data source udpSource :=
  (fresh.inStep.run events).derived.handleBvlc_manager

end BbmdTables

-- The octets of the distribution table

/-- The address that is read from six octets has them as its encoding. -/
theorem BIPAddress.encode_decode {data} (size : data.length = 6)
    : ∃ address, decode data = .ok address ∧ address.encode = data := by
  refine ⟨_, if_neg (by omega), ?_⟩
  have host : (slice data 0 4).length = 4 := by
    rw [slice, List.length_take, List.length_drop]
    omega
  have port : (slice data 4 6).length = 2 := by
    rw [slice, List.length_take, List.length_drop]
    omega
  have hostSmall := fromBytes_lt (slice data 0 4)
  have portSmall := fromBytes_lt (slice data 4 6)
  have hostBack := toBytes_fromBytes (slice data 0 4)
  have portBack := toBytes_fromBytes (slice data 4 6)
  rw [host] at hostSmall hostBack
  rw [port] at portSmall portBack
  rw [encode, UInt32.toNat_ofNat', UInt16.toNat_ofNat',
    Nat.mod_eq_of_lt (show fromBytes (slice data 0 4) < 2 ^ 32 from hostSmall),
    Nat.mod_eq_of_lt (show fromBytes (slice data 4 6) < 2 ^ 16 from portSmall), hostBack, portBack, slice, slice, List.drop_zero]
  have rest : (data.drop 4).take (6 - 4) = data.drop 4 := List.take_of_length_le (by
    rw [List.length_drop]
    omega)
  rw [rest]
  exact List.take_append_drop 4 data

/-- The entry that is read from ten octets has them as its encoding. -/
theorem BDTEntry.encode_decode {data} (size : data.length = 10)
    : ∃ entry, decode data = .ok entry ∧ entry.encode = data := by
  have front : (slice data 0 6).length = 6 := by
    rw [slice, List.length_take, List.length_drop]
    omega
  obtain ⟨address, read, same⟩ := BIPAddress.encode_decode front
  refine ⟨_, bind_eq_ok.mpr ⟨address, read, rfl⟩, ?_⟩
  have mask : (slice data 6 10).length = 4 := by
    rw [slice, List.length_take, List.length_drop]
    omega
  have small := fromBytes_lt (slice data 6 10)
  have back := toBytes_fromBytes (slice data 6 10)
  rw [mask] at small back
  rw [encode, same, UInt32.toNat_ofNat',
    Nat.mod_eq_of_lt (show fromBytes (slice data 6 10) < 2 ^ 32 from small), back, slice, slice,
    List.drop_zero]
  have rest : (data.drop 6).take (10 - 6) = data.drop 6 := List.take_of_length_le (by
    rw [List.length_drop]
    omega)
  rw [rest]
  exact List.take_append_drop 6 data

namespace BBMDManager

/-- The chunks of ten octets that data consists of, by induction on their number. -/
theorem flatMap_chunks {data count} (inside : 10 * count ≤ data.length)
    : (List.range count).flatMap (fun i => slice data (10 * i) (10 * i + 10))
      = data.take (10 * count) := by
  induction count with
  | zero => rfl
  | succ count ih =>
    rw [List.range_succ, List.flatMap_append, ih (by omega), List.flatMap_singleton, slice,
      Nat.mul_succ, Nat.add_sub_cancel_left, List.take_add]

/-- Entries that are read have the octets that they are read from as their encodings. -/
theorem encode_decodeBdt {data} (whole : data.length % 10 = 0)
    : ∃ entries, decodeBdt data = .ok entries ∧ entries.flatMap BDTEntry.encode = data := by
  have each : ∀ i ∈ List.range (data.length / 10), ∃ entry,
      BDTEntry.decode (slice data (10 * i) (10 * i + 10)) = .ok entry
      ∧ entry.encode = slice data (10 * i) (10 * i + 10) := by
    intro i member
    have inside := List.mem_range.mp member
    exact BDTEntry.encode_decode (length_slice (by omega))
  obtain ⟨entries, decoded⟩ := exists_mapM_ok_iff.mpr fun i member =>
    (each i member).imp fun entry read => read.1
  refine ⟨entries, decoded, ?_⟩
  have chunks : entries.map BDTEntry.encode
      = (List.range (data.length / 10)).map fun i => slice data (10 * i) (10 * i + 10) := by
    have pairs := mapM_ok_iff.mp decoded
    clear decoded
    generalize List.range (data.length / 10) = indices at each pairs
    induction pairs with
    | nil => rfl
    | cons read _ ih =>
      obtain ⟨entry', read', same⟩ := each _ List.mem_cons_self
      cases Except.ok.inj (read.symm.trans read')
      rw [List.map_cons, List.map_cons, same,
        ih fun other member => each other (List.mem_cons_of_mem _ member)]
  have full : 10 * (data.length / 10) = data.length := by omega
  rw [List.flatMap_def, chunks, ← List.flatMap_def, flatMap_chunks (by omega), full, List.take_length]

end BBMDManager

/-- What is left of a datagram behind the header fits an answer. -/
theorem length_of_decodeBvll {data msg} (decoded : decodeBvll data = .ok msg)
    : msg.data.length ≤ 65531 := by
  unfold decodeBvll at decoded
  split at decoded
  · next type function first second rest =>
      have small := fromBytes_lt [first, second]
      rw [show [first, second].length = 2 from rfl] at small
      have sliced (start : Nat) (behind : 4 ≤ start)
          : (slice (type :: function :: first :: second :: rest) start
              (fromBytes [first, second])).length ≤ 65531 := by
        rw [slice, List.length_take]
        omega
      split at decoded
      · cases decoded
      · split at decoded
        · cases decoded
        · dsimp only at decoded
          split at decoded
          · cases decoded
          · split at decoded
            · split at decoded
              · cases decoded
              · obtain ⟨address, _, same⟩ := bind_eq_ok.mp decoded
                rw [← Except.ok.inj same]
                exact sliced 10 (by decide)
            · rw [← Except.ok.inj decoded]
              exact sliced 4 (by decide)
  · cases decoded

namespace BbmdTables

variable {tables next : BbmdTables} {outputs : List BbmdOutput} {consumed : Bool} {now : Rat}
  {data : Bytes} {source : BIPAddress} {udpSource : Option BIPAddress}

-- Registration again

/-- A device that is there is registered again, whether the table is full or not. -/
theorem handleBvlc_register_again (accepts : tables.manager.acceptFdRegistrations = true)
    (there : (tables.manager.fdt.get source).isSome) (long : 2 ≤ data.length)
    (positive : 1 ≤ fromBytes (slice data 0 2))
    : ∃ next,
        tables.handleBvlc now .registerForeignDevice data source udpSource
          = .ok (next, [.send (BBMDManager.resultOctets .successfulCompletion) source], true)
        ∧ (next.manager.fdt.get source).map FDTEntry.expiry
          = some (now + (min (fromBytes (slice data 0 2)) 3600 : Nat) + 30) := by
  have accepted : ¬ (tables.manager.acceptFdRegistrations = false ∨ data.length < 2
      ∨ fromBytes (slice data 0 2) < 1) := by
    rw [accepts]
    simp only [Bool.true_eq_false, false_or]
    omega
  have known : ¬ ((tables.manager.fdt.get source).isNone = true
      ∧ tables.manager.maxFdtEntries ≤ tables.manager.fdt.size) := by
    rw [Option.isNone_iff_eq_none]
    exact fun full => absurd there (by rw [full.1]; decide)
  have answered : tables.manager.handleRegisterForeignDevice now data source
      = .ok (tables.manager.register source (min (fromBytes (slice data 0 2)) 3600)
          (now + (min (fromBytes (slice data 0 2)) 3600 : Nat) + 30),
        [.send (BBMDManager.resultOctets .successfulCompletion) source]) := by
    rw [BBMDManager.handleRegisterForeignDevice]
    dsimp only
    rw [if_neg accepted, if_neg known, BBMDManager.sendResult_eq]
  refine ⟨{ tables with
    manager := tables.manager.register source (min (fromBytes (slice data 0 2)) 3600)
      (now + (min (fromBytes (slice data 0 2)) 3600 : Nat) + 30) }, ?_, ?_⟩
  · unfold handleBvlc
    dsimp only
    rw [if_neg fun forwarded => absurd forwarded.1 (by decide), answered]
    rfl
  · change ((tables.manager.fdt.set source _).get source).map FDTEntry.expiry = _
    rw [OrderedDict.get_set_self]
    rfl

-- Reading what was written

theorem setBdt_of_accepted
    (handled : tables.handleBvlc now .writeBroadcastDistributionTable data source udpSource
      = .ok (next, outputs, consumed))
    (accepted : .send (BBMDManager.resultOctets .successfulCompletion) source ∈ outputs)
    : next.manager.bdt.flatMap BDTEntry.encode = data := by
  unfold handleBvlc at handled
  dsimp only at handled
  rw [if_neg fun forwarded => absurd forwarded.1 (by decide)] at handled
  unfold handleWriteBdt at handled
  split at handled
  · rw [BBMDManager.sendResult_eq] at handled
    cases handled
    rw [List.mem_singleton, BbmdOutput.send.injEq] at accepted
    exact absurd accepted.1 (by decide)
  · next whole =>
      obtain ⟨entries, decoded, same⟩ := BBMDManager.encode_decodeBdt
        (show data.length % 10 = 0 by omega)
      rw [decoded] at handled
      change withManager _ (managed (sendResult _ _ _)) = _ at handled
      rw [BBMDManager.sendResult_eq] at handled
      cases handled
      change (tables.setBdt entries).manager.bdt.flatMap BDTEntry.encode = data
      rw [(setBdt_spec tables entries).1]
      exact same

def KeepsBdt : BbmdEvent → Prop
  | .datagram _ data _ =>
    ∀ msg, decodeBvll data = .ok msg → msg.function ≠ .writeBroadcastDistributionTable
  | .setBdt _ | .start => False
  | .purge _ | .acceptFdRegistrations _ | .globalAddress _ | .fileChange _ => True

theorem bdt_step {event} (keeps : KeepsBdt event)
    : (tables.step event).manager.bdt = tables.manager.bdt := by
  cases event with
  | datagram now data addr =>
    change (tables.onDatagram now data addr).manager.bdt = tables.manager.bdt
    unfold onDatagram
    split
    · rfl
    · next msg decoded =>
        split
        · rfl
        · next handled =>
            rcases handleBvlc_cases handled with ⟨manager, change, rfl⟩ | ⟨write, _⟩
            · exact change.bdt
            · exact absurd write (keeps msg decoded)
  | purge now => exact (BBMDManager.purgeExpiredFdtEntries_spec tables.manager now).1
  | setBdt entries => exact keeps.elim
  | start => exact keeps.elim
  | acceptFdRegistrations value => rfl
  | globalAddress value => rfl
  | fileChange content => rfl

theorem bdt_run {events : List BbmdEvent} (keep : ∀ event ∈ events, KeepsBdt event)
    : (events.foldl step tables).manager.bdt = tables.manager.bdt := by
  induction events generalizing tables with
  | nil => rfl
  | cons event rest ih =>
    rw [List.forall_mem_cons] at keep
    exact (ih keep.2).trans (bdt_step keep.1)

theorem handleBvlc_readBdt {octets} (same : tables.manager.bdt.flatMap BDTEntry.encode = octets)
    (short : octets.length ≤ 65531)
    : ∃ ack, encodeBvll .readBroadcastDistributionTableAck octets = .ok ack
        ∧ tables.handleBvlc now .readBroadcastDistributionTable data source udpSource
          = .ok (tables, [.send ack source], true) := by
  refine ⟨_, bind_eq_ok.mpr ⟨_, packLength_ok (by omega), rfl⟩, ?_⟩
  unfold handleBvlc
  dsimp only
  rw [if_neg fun forwarded => absurd forwarded.1 (by decide), BBMDManager.handleReadBdt, same,
    encodeBvll, if_neg (by decide), packLength_ok (by omega)]
  rfl

-- The tables in every reachable state

theorem maxFdtEntries_step (event : BbmdEvent)
    : (tables.step event).manager.maxFdtEntries = tables.manager.maxFdtEntries := by
  cases event with
  | datagram now data addr =>
    change (tables.onDatagram now data addr).manager.maxFdtEntries = tables.manager.maxFdtEntries
    unfold onDatagram
    split
    · rfl
    · split
      · rfl
      · next handled =>
          rcases handleBvlc_cases handled with ⟨manager, change, rfl⟩ | ⟨_, entries, _, rfl⟩
          · exact change.maxFdtEntries
          · rw [(setBdt_spec tables entries).1]
            rfl
  | purge now => exact (BBMDManager.purgeExpiredFdtEntries_spec tables.manager now).2.2.1
  | setBdt entries =>
    change (tables.setBdt entries).manager.maxFdtEntries = _
    rw [(setBdt_spec tables entries).1]
    rfl
  | start =>
    change tables.loadBdtBackup.manager.maxFdtEntries = _
    unfold loadBdtBackup
    split
    · rfl
    · split
      · rfl
      · rfl
  | acceptFdRegistrations value => rfl
  | globalAddress value => rfl
  | fileChange content => rfl

theorem maxFdtEntries_run (events : List BbmdEvent)
    : (events.foldl step tables).manager.maxFdtEntries = tables.manager.maxFdtEntries := by
  induction events generalizing tables with
  | nil => rfl
  | cons event rest ih => exact ih.trans (maxFdtEntries_step event)

/-- What holds of the tables: at most so many foreign devices are registered, what is stored beside
the distribution table is derived from it, a registration again moves the expiry if registrations are
accepted and its time to live is positive, and an accepted Write-BDT is read back while the table is
not set.
-/
structure Sound (tables : BbmdTables) (limit : Nat) : Prop where
  bounded : tables.manager.fdt.size ≤ limit
  derived : tables.Derived
  registration : ∀ now data source udpSource, tables.manager.acceptFdRegistrations = true
    → (tables.manager.fdt.get source).isSome → 2 ≤ data.length
    → 1 ≤ fromBytes (slice data 0 2)
    → ∃ next,
      tables.handleBvlc now .registerForeignDevice data source udpSource
        = .ok (next, [.send (BBMDManager.resultOctets .successfulCompletion) source], true)
      ∧ (next.manager.fdt.get source).map FDTEntry.expiry
        = some (now + (min (fromBytes (slice data 0 2)) 3600 : Nat) + 30)
  readBack : ∀ now datagram msg source udpSource next outputs consumed,
    decodeBvll datagram = .ok msg → msg.function = .writeBroadcastDistributionTable
    → tables.handleBvlc now msg.function msg.data source udpSource = .ok (next, outputs, consumed)
    → .send (BBMDManager.resultOctets .successfulCompletion) source ∈ outputs
    → ∀ events : List BbmdEvent, (∀ event ∈ events, KeepsBdt event)
    → ∀ later data reader udpReader, ∃ ack,
      encodeBvll .readBroadcastDistributionTableAck msg.data = .ok ack
      ∧ (events.foldl step next).handleBvlc later .readBroadcastDistributionTable data reader udpReader
        = .ok (events.foldl step next, [.send ack reader], true)

/-- A BBMD with room for one foreign device. -/
def smallBbmd : BbmdTables where
  manager := {
    localAddress := { host := 0xC0A80001, port := 0xBAC0 }
    maxFdtEntries := 1
    allowWriteBdt := true
  }

/-- A station of another network. -/
def visitor : BIPAddress := { host := 0x0A000009, port := 0xBAC0 }

/-- The registration of the visitor for a minute. -/
def visitorRegisters : BbmdEvent :=
  .datagram 0 [0x81, 0x05, 0x00, 0x06, 0x00, 0x3C] visitor

/-- A broadcast of the visitor, once it is registered. -/
theorem answers_as_computed_visitor
    : let tables := [visitorRegisters].foldl step smallBbmd
      (fun result => (result.1.manager, result.2.1, result.2.2))
          <$> tables.handleBvlc 10 .distributeBroadcastToNetwork [1] visitor none
        = tables.manager.handleBvlc 10 .distributeBroadcastToNetwork [1] visitor none :=
  answers_as_computed ⟨rfl, rfl, rfl, rfl, rfl⟩ [visitorRegisters]

end BbmdTables

end BacPy
