import A2jMidi.Basic

/-!
# Event retrieval: `parseAlsaEvent` and `retrieve`

`retrieve` folds `processClosure` over the events `receiverQueue::process` drains up to
the deadline (`drainUpTo`, the queue's interface in the spec); the closure keeps the first
non-zero code of the callback in `err` and stops calling it from then on, while later events
are still decoded and consumed.  The callback is a `std::function`, so it runs in an arbitrary
monad.  `retrieve_eq_deliver` shows the fold is the early-exit delivery loop of the spec over
the events that decode to MIDI bytes.
-/

namespace A2jMidi

/-- `MAX_MIDI_EVENT_SIZE` -/
def maxMidiEventSize : Nat := 16

/-- `ENOENT` of Linux's `errno.h`. -/
def enoent : Int := 2

/-- `ENOMEM` of Linux's `errno.h`. -/
def enomem : Int := 12

/-- A point of `sysClock::SteadyClock`, as a count of its ticks. -/
abbrev TimePoint := Int

/--
What `snd_midi_event_decode` reports for one sequencer event: its return value, never more
than the size of the buffer it is given, and the `MAX_MIDI_EVENT_SIZE` bytes of that buffer.
-/
structure Decoded where
  evLength : Int
  buffer : List UInt8
  buffer_length : buffer.length = maxMidiEventSize
  evLength_le : evLength ≤ maxMidiEventSize

/-- `parseAlsaEvent`: the MIDI bytes of the event, or the empty event. -/
def parseAlsaEvent (decoded : Decoded) : List UInt8 :=
  if decoded.evLength ≤ 0 then
    if decoded.evLength = -enoent then []
    else []
  else decoded.buffer.take decoded.evLength.toNat

/--
`drainUpTo` of the receiver queue, whose module is not under `src/` (the spec gives its
interface): the events at the head of the queue captured at or before `deadline`, in queue
order, and the queue left behind.
-/
def drainUpTo (deadline : TimePoint) (queue : List (Decoded × TimePoint)) :
    List (Decoded × TimePoint) × List (Decoded × TimePoint) :=
  queue.span fun event => event.2 ≤ deadline

/-- An event decodes to MIDI bytes exactly when the decoder wrote some. -/
theorem parseAlsaEvent_eq_nil_iff (decoded : Decoded) :
    parseAlsaEvent decoded = [] ↔ decoded.evLength ≤ 0 := by
  unfold parseAlsaEvent
  split
  · simp_all
  · refine iff_of_false (fun h => ?_) ‹_›
    rcases List.take_eq_nil_iff.mp h with h | h
    · omega
    · simpa [h, maxMidiEventSize] using decoded.buffer_length

section Retrieve

variable {m : Type → Type} [Monad m]

/-- `processClosure`: decode one drained event and hand it on while no callback failed. -/
def processClosure (forEachClosure : List UInt8 → TimePoint → m CInt) (err : CInt)
    (event : Decoded × TimePoint) : m CInt :=
  let midiEvent := parseAlsaEvent event.1
  if !midiEvent.isEmpty && err == CInt.zero then forEachClosure midiEvent event.2
  else pure err

/--
`retrieve`.  `receiverQueue::process` (its module is not under `src/`) is taken as the
batch of events it drains up to the deadline, in queue order, each with its time stamp and
what the decoder reports for it; it applies the closure to each of them.
-/
def retrieve (stateFlag : State) (drained : List (Decoded × TimePoint))
    (forEachClosure : List UInt8 → TimePoint → m CInt) : m CInt :=
  if stateFlag != .running then pure CInt.minusOne
  else drained.foldlM (processClosure forEachClosure) CInt.zero

/-- The spec's delivery: the callback on each event in order until it returns a non-zero code. -/
def deliver (forEachClosure : List UInt8 → TimePoint → m CInt) :
    List (List UInt8 × TimePoint) → m CInt
  | [] => pure CInt.zero
  | (midiEvent, timeStamp) :: rest => do
      let code ← forEachClosure midiEvent timeStamp
      if code == CInt.zero then deliver forEachClosure rest else pure code

/-- The drained events that reach the callback: those with a non-empty MIDI message. -/
def deliverable (drained : List (Decoded × TimePoint)) : List (List UInt8 × TimePoint) :=
  drained.filterMap fun event =>
    if (parseAlsaEvent event.1).isEmpty then none else some (parseAlsaEvent event.1, event.2)

end Retrieve

section Refinement

variable {m : Type → Type} [Monad m] [LawfulMonad m]

/-- Once a callback failed, the rest of the batch is consumed without another call. -/
theorem foldlM_processClosure_of_ne (forEachClosure : List UInt8 → TimePoint → m CInt)
    {err : CInt} (herr : err ≠ CInt.zero) (drained : List (Decoded × TimePoint)) :
    drained.foldlM (processClosure forEachClosure) err = pure err := by
  induction drained with
  | nil => rfl
  | cons event drained ih => simp [processClosure, herr, ih]

theorem foldlM_processClosure_zero (forEachClosure : List UInt8 → TimePoint → m CInt)
    (drained : List (Decoded × TimePoint)) :
    drained.foldlM (processClosure forEachClosure) CInt.zero =
      deliver forEachClosure (deliverable drained) := by
  induction drained with
  | nil => rfl
  | cons event drained ih =>
      by_cases hempty : (parseAlsaEvent event.1).isEmpty
      · have hnil := List.isEmpty_iff.mp hempty
        simp [processClosure, deliverable, hempty, hnil, ih]
      · simp only [List.foldlM_cons, processClosure, hempty, Bool.not_false, beq_self_eq_true,
          Bool.and_self, if_true, deliverable, List.filterMap_cons, if_false, deliver]
        congr 1
        funext code
        by_cases hcode : code = CInt.zero
        · simp [hcode, ih, deliverable]
        · simp [hcode, foldlM_processClosure_of_ne forEachClosure hcode]

/--
A SysEx message longer than `MAX_MIDI_EVENT_SIZE` bytes: the decoder answers `-ENOMEM`.
-/
def longSysEx : Decoded := ⟨-enomem, List.replicate 16 0, by decide, by decide⟩

/--
The buffer `parseAlsaEvent` hands the decoder is smaller than a long SysEx message: the
decoder answers `-ENOMEM`, which is only logged, and `retrieve` consumes the message without
calling the callback, which would have answered `1`, and returns `0`.
-/
theorem retrieve_drops_failed_decode :
    longSysEx.evLength = -enomem ∧ parseAlsaEvent longSysEx = [] ∧
      Id.run (retrieve .running [(longSysEx, 0)] fun _ _ => ⟨1, by decide⟩) = CInt.zero := by
  decide

/--
An event is consumed without reaching the callback exactly when the decoder wrote no bytes
for it, whatever its error, or an earlier callback failed; the status comes from the
callbacks alone.
-/
theorem retrieve_skips_undecoded (drained : List (Decoded × TimePoint))
    (forEachClosure : List UInt8 → TimePoint → m CInt) :
    retrieve .running drained forEachClosure =
      deliver forEachClosure (drained.filterMap fun event =>
        if 0 < event.1.evLength then some (event.1.buffer.take event.1.evLength.toNat, event.2)
        else none) := by
  rw [retrieve, if_neg (by decide), foldlM_processClosure_zero, deliverable]
  congr 1
  refine List.filterMap_congr fun event _ => ?_
  by_cases h : 0 < event.1.evLength
  · have hne : ¬parseAlsaEvent event.1 = [] := by rw [parseAlsaEvent_eq_nil_iff]; omega
    have hp : parseAlsaEvent event.1 = event.1.buffer.take event.1.evLength.toNat := by
      rw [parseAlsaEvent, if_neg (by omega)]
    rw [if_pos h, ← hp]
    simp [hne]
  · have hnil : parseAlsaEvent event.1 = [] := by rw [parseAlsaEvent_eq_nil_iff]; omega
    simp [h, hnil]

end Refinement

end A2jMidi
