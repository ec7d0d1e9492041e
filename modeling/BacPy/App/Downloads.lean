import BacPy.App.Backup

/-! The loop of `_download_file` with a server that may answer anything: every request is determined
by the blocks that came before it.
-/

namespace BacPy

open Library

/-- A download, with the requests sent so far, the latest first. -/
structure Download where
  fileOffset : Nat := 0
  buf : Bytes := []
  finished : Bool := false
  asked : List ReadAccess

namespace Download

def start (chunkSize : Nat) : Download := { asked := [.stream 0 chunkSize] }

/-- One round of the loop: an acknowledgement ends it, or leads to the next request. -/
def received (chunkSize : Nat) (download : Download) (ack : AtomicReadFileACK) : Option Download :=
  if download.finished then none
  else
    match ack.accessMethod with
    | .records _ _ _ => none
    | .stream _ fileData =>
      if ack.endOfFile then
        some { download with buf := download.buf ++ fileData, finished := true }
      else
        let fileOffset := download.fileOffset + fileData.length
        some {
          fileOffset
          buf := download.buf ++ fileData
          finished := false
          asked := .stream fileOffset chunkSize :: download.asked
        }

/-- The client's loop takes such rounds. -/
theorem downloadFrom_succ (fileOid) (chunkSize rounds : Nat) (download : Download)
    (going : download.finished = false)
    : Client.downloadFrom fileOid chunkSize (rounds + 1) download.fileOffset download.buf
      = Client.atomicReadFile fileOid (.stream download.fileOffset chunkSize) >>= fun ack =>
        (download.received chunkSize ack).elim (Client.computed (.error (.builtin .assertionError)))
          fun next => if next.finished then pure next.buf
            else Client.downloadFrom fileOid chunkSize rounds next.fileOffset next.buf := by
  rw [Client.downloadFrom]
  congr 1
  funext ack
  unfold received
  rw [going, if_neg Bool.false_ne_true]
  cases ack.accessMethod with
  | records => rfl
  | stream _ fileData => cases ack.endOfFile <;> rfl

variable {chunkSize : Nat} {download next : Download} {ack : AtomicReadFileACK}

/-- A block that does not end the file has some data. -/
def Progresses (ack : AtomicReadFileACK) : Prop :=
  ack.endOfFile = true ∨ ∀ position fileData, ack.accessMethod = .stream position fileData →
    fileData ≠ []

/-- The blocks are those of a file of this length: no data is past its end. -/
def Within (length : Nat) (download : Download) (ack : AtomicReadFileACK) : Prop :=
  ∀ position fileData, ack.accessMethod = .stream position fileData →
    download.fileOffset + fileData.length ≤ length

/-- What a round makes of a download. -/
theorem received_cases (moved : download.received chunkSize ack = some next)
    : ∃ position fileData, ack.accessMethod = .stream position fileData
      ∧ (ack.endOfFile = true ∧ next.finished = true ∧ next.fileOffset = download.fileOffset
          ∧ next.asked = download.asked
        ∨ ack.endOfFile = false ∧ next.fileOffset = download.fileOffset + fileData.length
          ∧ next.asked = .stream next.fileOffset chunkSize :: download.asked) := by
  unfold received at moved
  split at moved
  · cases moved
  · split at moved
    · cases moved
    · next position fileData stream =>
        refine ⟨position, fileData, stream, ?_⟩
        split at moved
        · next ends =>
            cases moved
            exact .inl ⟨ends, rfl, rfl, rfl⟩
        · next goesOn =>
            cases moved
            exact .inr ⟨Bool.eq_false_of_not_eq_true goesOn, rfl, rfl⟩

/-- The requests so far are different, the latest at the offset and the others before it. -/
structure Advances (chunkSize : Nat) (download : Download) : Prop where
  latest : .stream download.fileOffset chunkSize ∈ download.asked
  earlier : ∀ request ∈ download.asked, ∃ offset ≤ download.fileOffset,
    request = .stream (offset : Nat) chunkSize
  nodup : download.asked.Nodup

theorem advances_received (advances : download.Advances chunkSize) (progresses : Progresses ack)
    (moved : download.received chunkSize ack = some next)
    : next.Advances chunkSize := by
  obtain ⟨position, fileData, stream, ⟨_, _, offset, asked⟩ | ⟨goesOn, offset, asked⟩⟩ :=
    received_cases moved
  · exact ⟨offset ▸ asked ▸ advances.latest, offset ▸ asked ▸ advances.earlier, asked ▸ advances.nodup⟩
  · have some : 0 < fileData.length := by
      rcases progresses with ends | some
      · cases goesOn.symm.trans ends
      · exact List.length_pos_iff.mpr (some _ _ stream)
    refine ⟨by simp [asked], ?_, ?_⟩
    · rw [asked]
      rintro request (_ | ⟨_, member⟩)
      · exact ⟨_, Nat.le_refl _, rfl⟩
      · obtain ⟨before, le, same⟩ := advances.earlier _ member
        exact ⟨before, by omega, same⟩
    · rw [asked]
      refine List.nodup_cons.mpr ⟨fun again => ?_, advances.nodup⟩
      obtain ⟨before, le, same⟩ := advances.earlier _ again
      have := (ReadAccess.stream.inj same).1
      omega

/-- An empty block that does not end the file leads to the same request again. -/
theorem repeats_received (advances : download.Advances chunkSize) (stands : ¬ Progresses ack)
    (moved : download.received chunkSize ack = some next)
    : ¬ next.asked.Nodup := by
  obtain ⟨position, fileData, stream, ⟨ends, _⟩ | ⟨_, offset, asked⟩⟩ := received_cases moved
  · exact absurd (.inl ends) stands
  · have empty : fileData = [] := by
      by_contra some
      refine stands (.inr fun _ _ other => ?_)
      cases stream.symm.trans other
      exact some
    rw [asked, offset, empty]
    exact fun nodup => (List.nodup_cons.mp nodup).1 advances.latest

/-- With progress, a file is read in at most one request more than it has octets, by run
induction.
-/
theorem length_le_of_run {length acks final} (ran : run (received chunkSize) download acks = some final)
    (progresses : Meets (received chunkSize) (fun _ => Progresses) download acks)
    (within : Meets (received chunkSize) (Within length) download acks)
    (inside : download.fileOffset ≤ length)
    : download.fileOffset + acks.length ≤ length + 1 := by
  induction acks generalizing download with
  | nil => exact Nat.le_succ_of_le inside
  | cons ack rest ih =>
    cases moved : download.received chunkSize ack with
    | none => simp [moved] at ran
    | some next =>
      have later : run (received chunkSize) next rest = some final := by simpa [moved] using ran
      obtain ⟨here, progress⟩ := progresses next moved
      obtain ⟨bound, inside⟩ := within next moved
      obtain ⟨position, fileData, stream, ⟨_, isOver, _⟩ | ⟨goesOn, offset, _⟩⟩ :=
        received_cases moved
      · cases rest with
        | nil => exact Nat.succ_le_succ (by assumption)
        | cons other rest => simp [received, isOver] at later
      · have bound := bound _ _ stream
        have some : 0 < fileData.length := by
          rcases here with ends | some
          · cases goesOn.symm.trans ends
          · exact List.length_pos_iff.mpr (some _ _ stream)
        have := ih later progress inside (by omega)
        simp only [List.length_cons]
        omega

/-- Whatever a server answers, no request is sent twice if and only if every block that does not end
the file has some data. Where that is so, the blocks of a finite file are read in a finite number of
requests.
-/
theorem progresses_iff (chunkSize : Nat) (acks : List AtomicReadFileACK)
    : (Always (received chunkSize) (fun download => download.asked.Nodup) (start chunkSize) acks
        ↔ Meets (received chunkSize) (fun _ => Progresses) (start chunkSize) acks)
      ∧ ∀ length final, run (received chunkSize) (start chunkSize) acks = some final →
          Meets (received chunkSize) (fun _ => Progresses) (start chunkSize) acks →
          Meets (received chunkSize) (Within length) (start chunkSize) acks →
            acks.length ≤ length + 1 := by
  have advances : (start chunkSize).Advances chunkSize := by
    refine ⟨List.mem_cons_self, fun request member => ⟨0, Nat.le_refl 0, ?_⟩, List.nodup_singleton _⟩
    exact List.mem_singleton.mp member
  refine ⟨always_iff_meets advances_received Advances.nodup repeats_received advances, ?_⟩
  intro length final ran progresses within
  have := length_le_of_run ran progresses within (Nat.zero_le length)
  simpa [start] using this

/-- A server that answers with empty blocks is asked for the same octets for ever. -/
theorem same_request_forever
    : let ack : AtomicReadFileACK := { endOfFile := false, accessMethod := .stream 0 [] }
      ∀ rounds, ∃ final, run (received 1024) (start 1024) (List.replicate rounds ack) = some final
        ∧ final.asked = List.replicate (rounds + 1) (.stream 0 1024) := by
  intro ack rounds
  have rounds (again : Nat)
      : run (received 1024) { asked := List.replicate (again + 1) (.stream 0 1024) }
          (List.replicate rounds ack)
        = some { asked := List.replicate (rounds + again + 1) (.stream 0 1024) } := by
    induction rounds generalizing again with
    | zero => simp
    | succ rounds ih =>
      rw [Nat.succ_add_eq_add_succ]
      exact ih (again + 1)
  exact ⟨_, rounds 0, rfl⟩

end Download

end BacPy
