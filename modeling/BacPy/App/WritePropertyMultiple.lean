import BacPy.App.CleanFailures

/-! WriteProperty and WritePropertyMultiple when they fail: a write is refused before anything
has changed, but the writes before it in the same request are not taken back.
-/

namespace BacPy

open Library
open Stateful (FailsTo)

namespace Server

variable {server : Server} {now : Float} {ref : Nat} {pv : BACnetPropertyValue}

/-- The database and the subscriptions are as they were. -/
structure SameState (before after : Server) : Prop where
  contents : before.db.SameContents after.db
  cov : after.cov = before.cov

theorem SameState.refl (server : Server) : SameState server server := ⟨.refl _, rfl⟩

/-- A computation on the database that leaves it alone when it raises. -/
theorem onDb_fails {Result : Type} {program : ObjectDatabase.Action Result}
    (fails : FailsTo server.db.SameContents program server.db)
    : FailsTo (SameState server) (onDb program) server := by
  rcases outcome : (program server.db).1 with raised | result
  · exact .of_final ⟨fails.final outcome, rfl⟩
  · have done : (onDb program server).1 = .ok result := outcome
    exact .of_ok done

-- One write

def written (now : Float) (ref : Nat) (pv : BACnetPropertyValue) (value : Value) (server : Server)
    : Server :=
  (onDb (ObjectDatabase.writeProperty ref pv.propertyIdentifier value pv.priority
    pv.propertyArrayIndex now) server).2

/-- Every COV notification that a written property calls for can be built, and every audit record
can be appended.
-/
def Announced (now : Float) (ref : Nat) (prop : PropertyIdentifier) (server : Server) : Prop :=
  ∃ notified, notifyChange ref prop now server = (.ok (), notified)
    ∧ (ObjectDatabase.recordOperation .write (notified.identifierOf ref) notified.db).1 = .ok ()

theorem onDb_writeProperty_ok_iff {value : Value}
    : (onDb (ObjectDatabase.writeProperty ref pv.propertyIdentifier value pv.priority
        pv.propertyArrayIndex now) server).1 = .ok ()
      ↔ ∀ obj, server.db.heap.get ref = some obj
        → server.db.WriteAccepted obj pv.propertyIdentifier value pv.priority
          pv.propertyArrayIndex now := by
  dsimp only [onDb]
  cases stored : server.db.heap.get ref with
  | none =>
    simp only [reduceCtorEq, false_implies, implies_true, iff_true]
    unfold ObjectDatabase.writeProperty
    rw [stored]
  | some obj =>
    rw [ObjectDatabase.writeProperty_ok_iff stored]
    simp

variable [JapaneseCodec]

/-- A write is carried out: the octets are a value, the object accepts it, and it is announced. -/
def EntryAccepted (now : Float) (entry : Nat × BACnetPropertyValue) (server : Server) : Prop :=
  ∃ value, decodeWritten entry.2.value = .ok value
    ∧ (∀ obj, server.db.heap.get entry.1 = some obj
      → server.db.WriteAccepted obj entry.2.propertyIdentifier value entry.2.priority
        entry.2.propertyArrayIndex now)
    ∧ Announced now entry.1 entry.2.propertyIdentifier (written now entry.1 entry.2 value server)

/-- A write does not stop half-way: once it has changed something, nothing is left that can fail. -/
def EntryReady (now : Float) (entry : Nat × BACnetPropertyValue) (server : Server) : Prop :=
  ∀ value, decodeWritten entry.2.value = .ok value
    → (∀ obj, server.db.heap.get entry.1 = some obj
      → server.db.WriteReady obj entry.2.propertyIdentifier value entry.2.priority
        entry.2.propertyArrayIndex now)
      ∧ ((∀ obj, server.db.heap.get entry.1 = some obj
        → server.db.WriteAccepted obj entry.2.propertyIdentifier value entry.2.priority
          entry.2.propertyArrayIndex now)
        → Announced now entry.1 entry.2.propertyIdentifier
          (written now entry.1 entry.2 value server))

/-- What is left to do after a value has been decoded. -/
theorem writeEntry_ok_iff
    : (writeEntry now ref pv server).1 = .ok () ↔ EntryAccepted now (ref, pv) server := by
  unfold writeEntry EntryAccepted
  rw [Stateful.bind_lift_ok_iff]
  refine exists_congr fun value => and_congr_right fun _ => ?_
  rw [Stateful.bind_ok_iff, ← onDb_writeProperty_ok_iff]
  constructor
  · rintro ⟨_, reached, same, later⟩
    obtain ⟨_, notified, told, recorded⟩ := Stateful.bind_ok_iff.mp later
    have reached_ : reached = written now ref pv value server := by
      rw [written, same]
    subst reached_
    exact ⟨congrArg Prod.fst same, notified, told, recorded⟩
  · rintro ⟨accepted, notified, told, recorded⟩
    exact ⟨(), written now ref pv value server, Prod.ext accepted rfl,
      Stateful.bind_ok_iff.mpr ⟨(), notified, told, recorded⟩⟩

/-- A write that is ready is refused before it changes anything, or carried out. -/
theorem writeEntry_fails (ready : EntryReady now (ref, pv) server)
    : FailsTo (SameState server) (writeEntry now ref pv) server := by
  apply FailsTo.bind_lift (.refl _)
  intro value decoded
  obtain ⟨clean, announced⟩ := ready value decoded
  by_cases accepted : ∀ obj, server.db.heap.get ref = some obj
      → server.db.WriteAccepted obj pv.propertyIdentifier value pv.priority
        pv.propertyArrayIndex now
  · have carriedOut : (writeEntry now ref pv server).1 = .ok () :=
      writeEntry_ok_iff.mpr ⟨value, decoded, accepted, announced accepted⟩
    rw [writeEntry, Stateful.bind_lift_ok_iff] at carriedOut
    obtain ⟨other, same, done⟩ := carriedOut
    cases decoded.symm.trans same
    exact .of_ok done
  · apply FailsTo.bind (onDb_fails (ObjectDatabase.writeProperty_fails clean))
    intro _ reached same
    exact absurd (onDb_writeProperty_ok_iff.mp (congrArg Prod.fst same)) accepted

-- Many writes

/-- A request is carried out as a whole or not at all if all of its writes are accepted in their
turn, or already the first one is refused.
-/
def AllOrNothing (now : Float) (specs : List WriteAccessSpecification) (server : Server) : Prop :=
  ∀ entries, server.validate specs = .ok entries
    → Stateful.InTurn (EntryAccepted now) (fun entry => writeEntry now entry.1 entry.2) entries
        server
      ∨ ∃ entry rest, entries = entry :: rest ∧ ¬ EntryAccepted now entry server
        ∧ EntryReady now entry server

theorem handleWritePropertyMultiple_fails {specs} (allOrNothing : AllOrNothing now specs server)
    : FailsTo (SameState server) (handleWritePropertyMultiple now specs) server := by
  apply FailsTo.bind_consults (.refl _)
  intro entries validated
  apply FailsTo.forEach
  rcases allOrNothing entries validated with accepted | ⟨entry, rest, rfl, refused, ready⟩
  · left
    exact (Stateful.forEach_ok_iff fun entry _ state => writeEntry_ok_iff).mpr accepted
  · right
    exact ⟨entry, rest, rfl, writeEntry_fails ready, fun done =>
      refused (writeEntry_ok_iff.mp done)⟩

def oneInteger : Server where
  db := (ObjectDatabase.add 0
    (({} : ObjectDatabase).allocate (.construct (integerValueObject true) 1 []))).2
  device := 1

/-- Octets that are no value are refused before anything is written. -/
def truncatedWrite : List WriteAccessSpecification := [{
  objectIdentifier := ⟨.integerValue, 1⟩
  listOfProperties := [{ propertyIdentifier := .presentValue, value := [0x21] }]
}]

/-- A write that is accepted, and one that cannot be decoded. -/
def twoWrites : List WriteAccessSpecification := [{
  objectIdentifier := ⟨.integerValue, 1⟩
  listOfProperties := [{ propertyIdentifier := .presentValue, value := [0x21, 5] },
    { propertyIdentifier := .presentValue, value := [0x21] }]
}]

end Server

end BacPy
