import BacPy.Library.OrderedDict
import BacPy.Library.Runs
import BacPy.Network.Address
import BacPy.Services.VirtualTerminal

/-! `DefaultServerHandlers`: the virtual terminal services, and the sessions they open and close in runs
of requests from any sources.
-/

namespace BacPy

open Library
open Stateful (bind_apply)
open Stateful (lift refuseIf modifies reads forEach)

/-- An entry of `_vt_sessions`. -/
structure VtSession where
  source : BACnetAddress
  vtClass : vtClassEnum.Member
  remoteSession : Nat

/-- What the handlers keep in the application, and `VT_CLASSES_SUPPORTED` of the device, which is empty
if the device does not have it.
-/
structure VtServer where
  vtClassesSupported : List Nat := []
  sessions : OrderedDict Nat VtSession := {}
  sessionCounter : Nat := 0

namespace VtServer

/-- A computation of the handlers that may raise. -/
abbrev Action (Result : Type) := Stateful Raised VtServer Result

def maxVtSessions : Nat := 64

def Supports (server : VtServer) (vtClass : vtClassEnum.Member) : Prop :=
  server.vtClassesSupported = [] ∨ vtClass.number ∈ server.vtClassesSupported

instance decidableSupports (server : VtServer) (vtClass : vtClassEnum.Member)
    : Decidable (server.Supports vtClass) :=
  inferInstanceAs (Decidable (_ ∨ _))

/-- The next session, under the number the counter then has. -/
def openSession (request : VTOpenRequest) (source : BACnetAddress) (server : VtServer) : VtServer :=
  { server with
    sessionCounter := server.sessionCounter + 1
    sessions := server.sessions.set (server.sessionCounter + 1) {
      source, vtClass := request.vtClass, remoteSession := request.localVtSessionIdentifier } }

def handleVtOpen (data : Bytes) (source : BACnetAddress) : Action Bytes := do
  let request ← lift (VTOpenRequest.decode.run data)
  refuseIf (fun server => ¬ server.Supports request.vtClass) (.bacnetError .vt .unknownVtClass)
  refuseIf (fun server => maxVtSessions ≤ server.sessions.size)
    (.bacnetError .resources .noVtSessionsAvailable)
  modifies (openSession request source)
  let sessionCounter ← reads sessionCounter
  lift (raising (VTOpenACK.encode { remoteVtSessionIdentifier := sessionCounter }))

/-- The session exists, and has been opened by the source of the request. -/
def Owns (server : VtServer) (source : BACnetAddress) (sessionId : Nat) : Prop :=
  ∃ session ∈ server.sessions.get sessionId, session.source = source

instance decidableOwns (server : VtServer) (source : BACnetAddress) (sessionId : Nat)
    : Decidable (server.Owns source sessionId) :=
  inferInstanceAs (Decidable (∃ session ∈ server.sessions.get sessionId, _))

def refuseUnlessOwned (source : BACnetAddress) (sessionId : Nat) : Action Unit :=
  refuseIf (fun server => ¬ server.Owns source sessionId) (.bacnetError .vt .unknownVtSession)

/-- One pass of the loop of `handle_vt_close`. -/
def closeSession (source : BACnetAddress) (sessionId : Nat) : Action Unit := do
  refuseUnlessOwned source sessionId
  modifies fun server => { server with sessions := server.sessions.pop sessionId }

def handleVtClose (data : Bytes) (source : BACnetAddress) : Action Unit := do
  let request ← lift (VTCloseRequest.decode.run data)
  forEach (closeSession source) request.listOfRemoteVtSessionIdentifiers

def handleVtData (data : Bytes) (source : BACnetAddress) : Action Bytes := do
  let request ← lift (VTDataRequest.decode.run data)
  refuseUnlessOwned source request.vtSessionIdentifier
  lift (raising (VTDataACK.encode { allNewDataAccepted := true }))

-- What the handlers do

section Handlers

variable {data : Bytes} {source : BACnetAddress} {server : VtServer}

/-- A VT-Open that is not refused. -/
structure Accepts (server : VtServer) (data : Bytes) (request : VTOpenRequest) : Prop where
  decoded : VTOpenRequest.decode.run data = .ok request
  supported : server.Supports request.vtClass
  free : server.sessions.size < maxVtSessions

theorem handleVtOpen_of_accepts {request} (accepts : server.Accepts data request)
    : handleVtOpen data source server
      = (raising (VTOpenACK.encode { remoteVtSessionIdentifier := server.sessionCounter + 1 }),
        server.openSession request source) := by
  have free := Nat.not_le.mpr accepts.free
  simp [handleVtOpen, accepts.decoded, accepts.supported, free, bind_apply, refuseIf,
    openSession]

/-- A VT-Open that is not accepted changes nothing. -/
theorem handleVtOpen_of_refused (refused : ∀ request, ¬ server.Accepts data request)
    : ∃ raised, handleVtOpen data source server = (.error raised, server) := by
  unfold handleVtOpen
  cases decoded : VTOpenRequest.decode.run data with
  | error raised => exact ⟨raised, rfl⟩
  | ok request =>
    by_cases supported : server.Supports request.vtClass
    · have full : maxVtSessions ≤ server.sessions.size :=
        Nat.le_of_not_lt fun free => refused request ⟨decoded, supported, free⟩
      exact ⟨.bacnetError .resources .noVtSessionsAvailable, by
        simp [bind_apply, refuseIf, supported, full]⟩
    · exact ⟨.bacnetError .vt .unknownVtClass, by
        simp [bind_apply, refuseIf, supported]⟩

theorem refuseUnlessOwned_of_owns {sessionId} (owns : server.Owns source sessionId)
    : refuseUnlessOwned source sessionId server = (.ok (), server) := by
  simp [refuseUnlessOwned, refuseIf, owns]

theorem refuseUnlessOwned_of_not_owns {sessionId} (owns : ¬ server.Owns source sessionId)
    : refuseUnlessOwned source sessionId server
      = (.error (.bacnetError .vt .unknownVtSession), server) := by
  simp [refuseUnlessOwned, refuseIf, owns]

theorem closeSession_of_owns {sessionId} (owns : server.Owns source sessionId)
    : closeSession source sessionId server
      = (.ok (), { server with sessions := server.sessions.pop sessionId }) := by
  simp [closeSession, bind_apply, refuseUnlessOwned_of_owns owns]

theorem closeSession_of_not_owns {sessionId} (owns : ¬ server.Owns source sessionId)
    : closeSession source sessionId server = (.error (.bacnetError .vt .unknownVtSession), server) := by
  simp [closeSession, bind_apply, refuseUnlessOwned_of_not_owns owns]

/-- The sessions of `after` are sessions of `before`, and those that are missing were opened by the
source.
-/
structure ClosedBy (source : BACnetAddress) (before after : VtServer) : Prop where
  counter : after.sessionCounter = before.sessionCounter
  size : after.sessions.size ≤ before.sessions.size
  kept : ∀ sessionId session, after.sessions.get sessionId = some session →
    before.sessions.get sessionId = some session
  owned : ∀ sessionId session, before.sessions.get sessionId = some session →
    after.sessions.get sessionId = none → session.source = source

theorem ClosedBy.refl (server : VtServer) : ClosedBy source server server where
  counter := rfl
  size := Nat.le_refl _
  kept _ _ found := found
  owned _ _ found missing := by rw [found] at missing; cases missing

/-- One session more is closed. -/
theorem ClosedBy.closeSession {before sessionId} (closed : ClosedBy source before server)
    : ClosedBy source before (closeSession source sessionId server).2 := by
  by_cases owns : server.Owns source sessionId
  · rw [closeSession_of_owns owns]
    refine ⟨closed.counter, Nat.le_trans OrderedDict.size_pop_le closed.size, ?_, ?_⟩
    · intro other session found
      rw [OrderedDict.get_pop] at found
      split at found
      · cases found
      · exact closed.kept other session found
    · intro other session found missing
      by_cases same : other = sessionId
      · obtain ⟨stored, here, opened⟩ := owns
        have earlier := closed.kept _ _ here
        rw [← same, found] at earlier
        cases earlier
        exact opened
      · rw [OrderedDict.get_pop_ne same] at missing
        exact closed.owned other session found missing
  · rw [closeSession_of_not_owns owns]
    exact closed

theorem closedBy_forEach (sessionIds : List Nat)
    : ClosedBy source server (forEach (closeSession source) sessionIds server).2 := by
  have preserves : Stateful.Preserves (ClosedBy source server)
      (forEach (closeSession source) sessionIds) :=
    .forEach fun _ _ => .of_final fun _ closed => closed.closeSession
  exact preserves.final (.refl server)

theorem closedBy_handleVtClose : ClosedBy source server (handleVtClose data source server).2 := by
  unfold handleVtClose
  cases VTCloseRequest.decode.run data with
  | error raised => exact .refl server
  | ok request => exact closedBy_forEach request.listOfRemoteVtSessionIdentifiers

/-- Another session can be closed as before. -/
theorem owns_pop_iff {sessionId other}
    : Owns { server with sessions := server.sessions.pop sessionId } source other
      ↔ other ≠ sessionId ∧ server.Owns source other := by
  unfold Owns
  rw [OrderedDict.get_pop]
  by_cases same : other = sessionId
  · simp [same]
  · simp [same]

/-- All sessions of a list are closed exactly if it names sessions of the source, and none twice. -/
theorem forEach_closeSession_ok_iff {sessionIds}
    : (forEach (closeSession source) sessionIds server).1 = .ok ()
      ↔ sessionIds.Nodup ∧ ∀ sessionId ∈ sessionIds, server.Owns source sessionId := by
  induction sessionIds generalizing server with
  | nil => simp [forEach]
  | cons first rest ih =>
    rw [forEach, bind_apply, List.nodup_cons, List.forall_mem_cons]
    by_cases owns : server.Owns source first
    · rw [closeSession_of_owns owns]
      dsimp only
      rw [ih]
      simp only [owns_pop_iff]
      constructor
      · rintro ⟨distinct, others⟩
        exact ⟨⟨fun member => (others first member).1 rfl, distinct⟩, owns,
          fun sessionId member => (others sessionId member).2⟩
      · rintro ⟨⟨fresh, distinct⟩, _, others⟩
        exact ⟨distinct, fun sessionId member =>
          ⟨fun same => fresh (same ▸ member), others sessionId member⟩⟩
    · rw [closeSession_of_not_owns owns]
      simp [owns]

/-- If the loop raises, it has closed no session exactly if it could not close the first one. -/
theorem forEach_closeSession_kept_iff {sessionIds raised}
    (failed : (forEach (closeSession source) sessionIds server).1 = .error raised)
    : (forEach (closeSession source) sessionIds server).2.sessions = server.sessions
      ↔ ∀ first ∈ sessionIds.head?, ¬ server.Owns source first := by
  cases sessionIds with
  | nil => cases failed
  | cons first rest =>
    rw [forEach, bind_apply]
    by_cases owns : server.Owns source first
    · have opened := owns
      obtain ⟨session, found, _⟩ := opened
      rw [closeSession_of_owns owns]
      simp only [List.head?_cons, Option.mem_some_iff, forall_eq', owns, not_true_eq_false, iff_false]
      intro same
      have closed := @closedBy_forEach source { server with sessions := server.sessions.pop first } rest
      have stays := closed.kept first session (by rw [same]; exact found)
      simp at stays
    · rw [closeSession_of_not_owns owns]
      simp [owns]

/-- Data is accepted for a session of the source. -/
theorem owns_of_handleVtData {octets} (sent : (handleVtData data source server).1 = .ok octets)
    : ∃ request, VTDataRequest.decode.run data = .ok request
        ∧ server.Owns source request.vtSessionIdentifier := by
  obtain ⟨request, decoded, accepted⟩ := Stateful.bind_lift_ok_iff.mp sent
  refine ⟨request, decoded, ?_⟩
  by_contra owns
  simp [bind_apply, refuseUnlessOwned_of_not_owns owns] at accepted

theorem handleVtData_snd : (handleVtData data source server).2 = server := by
  unfold handleVtData
  cases VTDataRequest.decode.run data with
  | error raised => rfl
  | ok request =>
    by_cases owns : server.Owns source request.vtSessionIdentifier
    · simp [bind_apply, refuseUnlessOwned_of_owns owns]
    · simp [bind_apply, refuseUnlessOwned_of_not_owns owns]

end Handlers

end VtServer

/-- A request of a client. -/
inductive VtRequest where
  | vtOpen (data : Bytes) (source : BACnetAddress)
  | vtClose (data : Bytes) (source : BACnetAddress)
  | vtData (data : Bytes) (source : BACnetAddress)

/-- A server, and who has been given each session identifier last. -/
structure VtRun where
  server : VtServer := {}
  openedBy : Dict Nat BACnetAddress := .empty

namespace VtRun

open VtServer

/-- The identifier that a client reads in the answer to its VT-Open. -/
def handedOut : Except Raised Bytes → Option Nat
  | .ok octets => (VTOpenACK.decode.run octets).toOption.map (·.remoteVtSessionIdentifier)
  | .error _ => none

def next (state : VtRun) : VtRequest → VtRun
  | .vtOpen data source => {
      server := (handleVtOpen data source state.server).2
      openedBy := ((handedOut (handleVtOpen data source state.server).1).map fun sessionId =>
        state.openedBy.set sessionId source).getD state.openedBy }
  | .vtClose data source => { state with server := (handleVtClose data source state.server).2 }
  | .vtData data source => { state with server := (handleVtData data source state.server).2 }

def step (state : VtRun) (request : VtRequest) : Option VtRun := some (state.next request)

/-- What holds of a request and the sessions it leaves. -/
structure Correct (state : VtRun) (request : VtRequest) : Prop where
  bounded : (state.next request).server.sessions.size ≤ 64
  handsOut : ∀ data source sessionId, request = .vtOpen data source →
    handedOut (handleVtOpen data source state.server).1 = some sessionId →
      sessionId ≤ 255 ∧ state.server.sessions.get sessionId = none
  closes : ∀ sessionId session, state.server.sessions.get sessionId = some session →
    (state.next request).server.sessions.get sessionId = none →
      ∃ data source, request = .vtClose data source ∧ state.openedBy.get sessionId = some source
  sends : ∀ data source octets, request = .vtData data source →
    (handleVtData data source state.server).1 = .ok octets →
      ∃ sent, VTDataRequest.decode.run data = .ok sent
        ∧ state.openedBy.get sent.vtSessionIdentifier = some source
  fails : ∀ data source raised, request = .vtClose data source →
    (handleVtClose data source state.server).1 = .error raised →
      (state.next request).server.sessions = state.server.sessions

/-- No session is opened after 255 others, and a VT-Close whose first session can be closed names
sessions of its source only, and none twice.
-/
def WithinLimits (state : VtRun) : VtRequest → Prop
  | .vtOpen data _ => ∀ request, VTOpenRequest.decode.run data = .ok request →
    state.server.Supports request.vtClass → state.server.sessions.size < maxVtSessions →
      state.server.sessionCounter < 255
  | .vtClose data source => ∀ request, VTCloseRequest.decode.run data = .ok request →
    (∃ first ∈ request.listOfRemoteVtSessionIdentifiers.head?, state.server.Owns source first) →
      request.listOfRemoteVtSessionIdentifiers.Nodup
        ∧ ∀ sessionId ∈ request.listOfRemoteVtSessionIdentifiers, state.server.Owns source sessionId
  | .vtData _ _ => True

/-- No more identifiers than an octet can hold have been counted, each session has one of them, and the
source of a session has been given its identifier.
-/
structure Sound (state : VtRun) : Prop where
  bounded : state.server.sessions.size ≤ 64
  counted : state.server.sessionCounter ≤ 255
  numbered : ∀ sessionId session, state.server.sessions.get sessionId = some session →
    sessionId ≤ state.server.sessionCounter
  opened : ∀ sessionId session, state.server.sessions.get sessionId = some session →
    state.openedBy.get sessionId = some session.source

variable {state : VtRun} {data : Bytes} {source : BACnetAddress} {request : VtRequest}

/-- Fewer sessions of the same sources. -/
theorem Sound.closedBy (sound : state.Sound) {server} (closed : ClosedBy source state.server server)
    : Sound { state with server } where
  bounded := Nat.le_trans closed.size sound.bounded
  counted := closed.counter ▸ sound.counted
  numbered sessionId session found :=
    closed.counter ▸ sound.numbered sessionId session (closed.kept sessionId session found)
  opened sessionId session found := sound.opened sessionId session (closed.kept sessionId session found)

/-- The identifier of an accepted VT-Open is the next number of the counter. -/
theorem Sound.handedOut_eq (sound : state.Sound) {accepted}
    (accepts : state.server.Accepts data accepted)
    : handedOut (handleVtOpen data source state.server).1 = some (state.server.sessionCounter + 1) := by
  have small : state.server.sessionCounter + 1 ≤ 0xFFFFFFFF := by
    have := sound.counted
    omega
  obtain ⟨octets, encoded, read⟩ :=
    @VTOpenACK.readsBack { remoteVtSessionIdentifier := state.server.sessionCounter + 1 } small
  rw [handleVtOpen_of_accepts accepts, encoded]
  simp [handedOut, read, Except.toOption]

theorem Sound.fresh (sound : state.Sound)
    : state.server.sessions.get (state.server.sessionCounter + 1) = none := by
  cases found : state.server.sessions.get (state.server.sessionCounter + 1) with
  | none => rfl
  | some session =>
    have := sound.numbered _ session found
    omega

theorem next_vtData : state.next (.vtData data source) = state := by
  simp [next, handleVtData_snd]

/-- A VT-Open that is refused changes nothing. -/
theorem next_of_refused (refused : ∀ request, ¬ state.server.Accepts data request)
    : state.next (.vtOpen data source) = state := by
  obtain ⟨raised, same⟩ := @handleVtOpen_of_refused data source state.server refused
  simp [next, same, handedOut]

/-- What an accepted VT-Open leaves. -/
theorem Sound.next_of_accepts (sound : state.Sound) {accepted}
    (accepts : state.server.Accepts data accepted)
    : state.next (.vtOpen data source) = {
        server := state.server.openSession accepted source
        openedBy := state.openedBy.set (state.server.sessionCounter + 1) source } := by
  simp only [next, sound.handedOut_eq accepts, Option.map_some, Option.getD_some]
  rw [handleVtOpen_of_accepts accepts]

theorem Sound.openSession (sound : state.Sound) (room : state.server.sessionCounter < 255)
    (free : state.server.sessions.size < maxVtSessions) (accepted : VTOpenRequest)
    : Sound {
        server := state.server.openSession accepted source
        openedBy := state.openedBy.set (state.server.sessionCounter + 1) source } where
  bounded := by
    simp only [VtServer.openSession, OrderedDict.size_set_of_none sound.fresh]
    exact free
  counted := room
  numbered sessionId session found := by
    simp only [VtServer.openSession, OrderedDict.get_set] at found ⊢
    split at found
    · omega
    · have := sound.numbered sessionId session found
      omega
  opened sessionId session found := by
    simp only [VtServer.openSession, OrderedDict.get_set] at found
    rw [Dict.get_set]
    split at found
    · cases found
      simp_all
    · rename_i other
      rw [if_neg other]
      exact sound.opened sessionId session found

/-- Every correct step keeps the invariant, by cases on the request. -/
theorem Sound.next (sound : state.Sound) (correct : state.Correct request) : (state.next request).Sound := by
  cases request with
  | vtOpen data source =>
    by_cases accepts : ∃ accepted, state.server.Accepts data accepted
    · obtain ⟨accepted, accepts⟩ := accepts
      have room := (correct.handsOut data source _ rfl (sound.handedOut_eq accepts)).1
      rw [sound.next_of_accepts accepts]
      exact sound.openSession room accepts.free accepted
    · rw [next_of_refused (not_exists.mp accepts)]
      exact sound
  | vtClose data source => exact sound.closedBy closedBy_handleVtClose
  | vtData data source =>
    rw [next_vtData]
    exact sound

theorem Sound.openedBy_of_owns (sound : state.Sound) {sessionId}
    (owns : state.server.Owns source sessionId)
    : state.openedBy.get sessionId = some source := by
  obtain ⟨session, found, rfl⟩ := owns
  exact sound.opened sessionId session found

/-- A VT-Open is correct exactly if it is refused or has a number left. -/
theorem Sound.correct_vtOpen_iff (sound : state.Sound)
    : state.Correct (.vtOpen data source) ↔ state.WithinLimits (.vtOpen data source) := by
  constructor
  · intro correct accepted decoded supported free
    exact (correct.handsOut data source _ rfl (sound.handedOut_eq ⟨decoded, supported, free⟩)).1
  · intro room
    by_cases accepts : ∃ accepted, state.server.Accepts data accepted
    · obtain ⟨accepted, accepts⟩ := accepts
      have number := @handedOut_eq _ data source sound _ accepts
      have room := room accepted accepts.decoded accepts.supported accepts.free
      have after := @Sound.openSession _ source sound room accepts.free accepted
      rw [← sound.next_of_accepts accepts] at after
      refine ⟨after.bounded, ?_, ?_, by rintro _ _ _ ⟨⟩, by rintro _ _ _ ⟨⟩⟩
      · rintro _ _ sessionId ⟨⟩ handed
        rw [number] at handed
        cases handed
        exact ⟨room, sound.fresh⟩
      · intro sessionId session found missing
        rw [sound.next_of_accepts accepts] at missing
        simp only [VtServer.openSession, OrderedDict.get_set] at missing
        split at missing
        · cases missing
        · rw [found] at missing
          cases missing
    · have same := @next_of_refused _ data source (not_exists.mp accepts)
      refine ⟨by rw [same]; exact sound.bounded, ?_, ?_, by rintro _ _ _ ⟨⟩, by rintro _ _ _ ⟨⟩⟩
      · rintro _ _ sessionId ⟨⟩ handed
        obtain ⟨raised, failed⟩ := @handleVtOpen_of_refused data source state.server (not_exists.mp accepts)
        rw [failed] at handed
        cases handed
      · intro sessionId session found missing
        rw [same, found] at missing
        cases missing

/-- A VT-Close is correct exactly if it closes all of its sessions, or not the first one. -/
theorem Sound.correct_vtClose_iff (sound : state.Sound)
    : state.Correct (.vtClose data source) ↔ state.WithinLimits (.vtClose data source) := by
  have closed := @closedBy_handleVtClose data source state.server
  constructor
  · intro correct request decoded starts
    obtain ⟨first, head, owns⟩ := starts
    have fails := correct.fails data source
    simp only [VtRun.next, handleVtClose, decoded] at fails
    cases outcome : (forEach (closeSession source) request.listOfRemoteVtSessionIdentifiers
        state.server).1 with
    | ok done => exact forEach_closeSession_ok_iff.mp outcome
    | error raised =>
      have kept := (forEach_closeSession_kept_iff outcome).mp (fails raised trivial outcome)
      exact absurd owns (kept first head)
  · intro within
    refine ⟨(sound.closedBy closed).bounded, by rintro _ _ _ ⟨⟩, ?_, by rintro _ _ _ ⟨⟩, ?_⟩
    · intro sessionId session found missing
      have owned := closed.owned sessionId session found missing
      exact ⟨data, source, rfl, owned ▸ sound.opened sessionId session found⟩
    · rintro _ _ raised ⟨⟩ failed
      simp only [VtRun.next]
      unfold handleVtClose at failed ⊢
      cases decoded : VTCloseRequest.decode.run data with
      | error raised => rfl
      | ok request =>
        rw [decoded] at failed
        refine (forEach_closeSession_kept_iff failed).mpr ?_
        intro first head owns
        have done := forEach_closeSession_ok_iff.mpr (within request decoded ⟨first, head, owns⟩)
        cases done.symm.trans failed

/-- A VT-Data is always correct. -/
theorem Sound.correct_vtData (sound : state.Sound) : state.Correct (.vtData data source) := by
  refine ⟨by rw [next_vtData]; exact sound.bounded, by rintro _ _ _ ⟨⟩, ?_, ?_, by rintro _ _ _ ⟨⟩⟩
  · intro sessionId session found missing
    rw [next_vtData, found] at missing
    cases missing
  · rintro _ _ octets ⟨⟩ accepted
    obtain ⟨sent, decoded, owns⟩ := owns_of_handleVtData accepted
    exact ⟨sent, decoded, sound.openedBy_of_owns owns⟩

theorem Sound.correct_iff (sound : state.Sound) : state.Correct request ↔ state.WithinLimits request := by
  cases request with
  | vtOpen data source => exact sound.correct_vtOpen_iff
  | vtClose data source => exact sound.correct_vtClose_iff
  | vtData data source => exact iff_of_true sound.correct_vtData trivial

/-- A server without sessions. -/
def start (vtClassesSupported : List Nat) : VtRun := { server := { vtClassesSupported } }

theorem sound_start (vtClassesSupported : List Nat) : (start vtClassesSupported).Sound where
  bounded := Nat.zero_le _
  counted := Nat.zero_le _
  numbered _ _ found := by cases found
  opened _ _ found := by cases found

/-- In a run every request is correct if and only if every request is within the limits. -/
theorem vt_sessions_run_iff (vtClassesSupported : List Nat) (requests : List VtRequest)
    : Meets step Correct (start vtClassesSupported) requests
      ↔ Meets step WithinLimits (start vtClassesSupported) requests := by
  have keeps {state : VtRun} {request : VtRequest} {after : VtRun} (sound : state.Sound)
      (correct : state.Correct request) (stepped : step state request = some after)
      : after.Sound := by
    cases stepped
    exact sound.next correct
  exact meets_congr keeps (fun sound _ => sound.correct_iff) (sound_start _)

/-- A session is closed by a VT-Close that fails at the session behind it. -/
theorem failed_close_closes
    : ¬ ∀ vtClassesSupported requests, Meets step Correct (start vtClassesSupported) requests := by
  intro correct
  have here := correct [] [.vtOpen [0x91, 0, 0x21, 9] {}, .vtClose [0x21, 1, 0x21, 2] {}]
  have close := ((here _ rfl).2 _ rfl).1
  have kept := close.fails _ _ (.bacnetError .vt .unknownVtSession) rfl (by decide)
  exact absurd (congrArg OrderedDict.size kept) (by decide)

end VtRun

end BacPy
