import BacPy.Services.AlarmSummary
import BacPy.Services.FileAccess

/-! The alarm query and file access services read back what they write, as long as no octet string is
so long that it is taken for an attack.
-/

namespace BacPy

open Library Decoder

/-- Every well-formed message comes back. The octets of a bit string, of file data or of a record
are at most a mebibyte, with the count of unused bits in front of a bit string.
-/
theorem query_services_read_back :
    (∀ ack : GetAlarmSummaryACK, ack.listOfAlarmSummaries.length < 10000 →
        (∀ summary ∈ ack.listOfAlarmSummaries,
          summary.acknowledgedTransitions.data.length < 1048576) →
        ReadsBack GetAlarmSummaryACK.encode GetAlarmSummaryACK.decode ack)
      ∧ (∀ request : GetEnrollmentSummaryRequest, request.WellFormed →
        ReadsBack GetEnrollmentSummaryRequest.encode GetEnrollmentSummaryRequest.decode request)
      ∧ (∀ ack : GetEnrollmentSummaryACK, ack.listOfEnrollmentSummaries.length < 10000 →
        (∀ summary ∈ ack.listOfEnrollmentSummaries, summary.Fits) →
        ReadsBack GetEnrollmentSummaryACK.encode GetEnrollmentSummaryACK.decode ack)
      ∧ (∀ ack : GetEventInformationACK, ack.listOfEventSummaries.length < 10000 →
        (∀ summary ∈ ack.listOfEventSummaries, summary.WellFormed) →
        ReadsBack GetEventInformationACK.encode GetEventInformationACK.decode ack)
      ∧ (∀ request : AtomicReadFileRequest, request.accessMethod.Fits →
        ReadsBack AtomicReadFileRequest.encode AtomicReadFileRequest.decode request)
      ∧ (∀ ack : AtomicReadFileACK, ack.accessMethod.Fits →
        ReadsBack AtomicReadFileACK.encode AtomicReadFileACK.decode ack)
      ∧ (∀ request : AtomicWriteFileRequest, request.accessMethod.Fits →
        ReadsBack AtomicWriteFileRequest.encode AtomicWriteFileRequest.decode request)
      ∧ (∀ ack : AtomicWriteFileACK, FitsSigned ack.fileStart →
        ReadsBack AtomicWriteFileACK.encode AtomicWriteFileACK.decode ack) :=
  ⟨fun ack few sane => Decoder.run_of_carries (ack.carries few sane) rfl,
    fun _ wellFormed => Decoder.run_of_carries (GetEnrollmentSummaryRequest.carries wellFormed)
      (.inl rfl),
    fun ack few fits => Decoder.run_of_carries (ack.carries few fits) rfl,
    fun ack few wellFormed => Decoder.run_of_carries (ack.carries few wellFormed) trivial,
    fun _ fits => Decoder.run_of_carries (AtomicReadFileRequest.carries fits) trivial,
    fun _ fits => Decoder.run_of_carries (AtomicReadFileACK.carries fits) trivial,
    fun _ fits => Decoder.run_of_carries (AtomicWriteFileRequest.carries fits) trivial,
    fun _ fits => Decoder.run_of_carries (AtomicWriteFileACK.carries fits) trivial⟩

/-- A summary of an event that was never acknowledged, and filters, records and file data of every
kind.
-/
theorem queries_read_back :
    ReadsBack GetAlarmSummaryACK.encode GetAlarmSummaryACK.decode
        ⟨[⟨⟨.analogInput, 1⟩, ⟨3, by decide⟩, ⟨[0xA0], 5, by decide⟩⟩]⟩
      ∧ ReadsBack GetEnrollmentSummaryRequest.encode GetEnrollmentSummaryRequest.decode
        { acknowledgmentFilter := ⟨0, by decide⟩, priorityMin := some 3, priorityMax := some 255 }
      ∧ ReadsBack GetEnrollmentSummaryACK.encode GetEnrollmentSummaryACK.decode ⟨[]⟩
      ∧ ReadsBack GetEventInformationACK.encode GetEventInformationACK.decode
        ⟨[{ objectIdentifier := ⟨.analogInput, 1⟩
            eventState := ⟨2, by decide⟩
            acknowledgedTransitions := ⟨[], 0, by decide⟩
            eventTimeStamps := {
              toOffnormal := .dateTime ⟨⟨2154, 12, 31, 0xFF⟩, ⟨0, 0, 0, 0⟩⟩
              toFault := .sequenceNumber 7
              toNormal := .time ⟨0xFF, 0xFF, 0xFF, 0xFF⟩
            }
            notifyType := ⟨0, by decide⟩
            eventEnable := ⟨[0xE0], 5, by decide⟩
            eventPriorities := ⟨1, 2, 255⟩ }], true⟩
      ∧ ReadsBack AtomicReadFileRequest.encode AtomicReadFileRequest.decode
        ⟨⟨.file, 1⟩, .stream (-1) 10⟩
      ∧ ReadsBack AtomicReadFileACK.encode AtomicReadFileACK.decode ⟨true, .records (-1) 2 [[], [7]]⟩
      ∧ ReadsBack AtomicWriteFileRequest.encode AtomicWriteFileRequest.decode
        ⟨⟨.file, 1⟩, .stream 0 []⟩
      ∧ ReadsBack AtomicWriteFileACK.encode AtomicWriteFileACK.decode ⟨false, 4⟩ := by
  obtain ⟨alarms, query, enrollments, events, read, answer, write, written⟩ :=
    query_services_read_back
  refine ⟨alarms _ (by decide) ?_, query _ ⟨rfl, by decide, by decide, by decide⟩,
    enrollments _ (by decide) nofun, events _ (by decide) ?_, read _ ⟨⟨by decide, by decide⟩, by decide⟩,
    answer _ ⟨⟨by decide, by decide⟩, by decide, rfl, by decide⟩,
    write _ ⟨⟨by decide, by decide⟩, by decide⟩, written _ ⟨by decide, by decide⟩⟩
  · rw [List.forall_mem_singleton]
    decide
  · rw [List.forall_mem_singleton]
    refine ⟨by decide, by decide, ?_, by decide, by decide, by decide⟩
    simp [PerTransition.Each, BACnetTimeStamp.WellFormed, BACnetTimeStamp.YearKept,
      BACnetTimeStamp.ValidDate, BACnetTimeStamp.ValidTime]

/-- File data of more than a mebibyte does not come back. -/
theorem long_stream_refused (fileIdentifier) {start fileData} (fits : FitsSigned start)
    (long : 1048576 < fileData.length) (small : fileData.length ≤ 0xFFFFFFFF)
    : (∃ octets, AtomicWriteFileRequest.encode ⟨fileIdentifier, .stream start fileData⟩ = .ok octets)
      ∧ ¬ ReadsBack AtomicWriteFileRequest.encode AtomicWriteFileRequest.decode
        ⟨fileIdentifier, .stream start fileData⟩ := by
  obtain ⟨octets, failure, encoded, failed⟩ := long_stream_fails fileIdentifier fits long small
  refine ⟨⟨octets, encoded⟩, ?_⟩
  rintro ⟨_, same, decoded⟩
  cases encoded.symm.trans same
  cases failed.symm.trans decoded

/-- A mebibyte and one octet of file data do not come back. -/
theorem not_long_stream_read_back :
    FitsSigned 0
      ∧ (∃ octets, AtomicWriteFileRequest.encode
          ⟨⟨.file, 1⟩, .stream 0 (List.replicate 1048577 0)⟩ = .ok octets)
      ∧ ¬ ReadsBack AtomicWriteFileRequest.encode AtomicWriteFileRequest.decode
        ⟨⟨.file, 1⟩, .stream 0 (List.replicate 1048577 0)⟩ := by
  have size : (List.replicate 1048577 (0 : UInt8)).length = 1048577 := List.length_replicate
  have fits : FitsSigned 0 := ⟨by decide, by decide⟩
  exact ⟨fits, long_stream_refused ⟨.file, 1⟩ fits (by omega) (by omega)⟩

end BacPy
