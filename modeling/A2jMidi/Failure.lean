import A2jMidi.Lifecycle

/-!
# Calls that throw

A call refused by its state check (`BadStateException`) or by the one-port check
(`ServerException`) throws before it writes anything.  A call that fails later does not
undo what it did first: `open` keeps the sequencer session it opened when naming the
client fails, and `activate` leaves the monitoring flag set and the monitor thread running
when `receiverQueue::start` throws.  `badState_iff` gives the state check of each operation
and the text of its `BadStateException`.
-/

namespace A2jMidi

/-- The exceptions of the state checks, thrown before an operation writes anything. -/
def Exception.isRefusal : Exception → Bool
  | .badState _ => true
  | .server _ => true
  | _ => false

/-- A call refused by a state check leaves the process as it was. -/
theorem step_of_refusal {c : Call} {s : Process} {e : Exception}
    (h : (c.step s).1 = .error e) (he : e.isRefusal) : (c.step s).2 = s := by
  cases c <;> simp at h ⊢ <;> (try split_ifs at h ⊢) <;> cases h <;>
    first | rfl | simp [Exception.isRefusal] at he

/--
From the initial process, an `open` whose `snd_seq_set_client_name` fails throws with the
sequencer session it opened still open and no global holding it; from the process after a
successful `open`, an `activate` whose `receiverQueue::start` throws leaves
`g_monitoringActive` set and a monitor thread running, in state `idle`.
-/
theorem failed_calls_keep_effects :
    Call.step (.open (ascii "a2j") ⟨CInt.zero, CInt.minusOne, CInt.zero, CInt.zero⟩)
        Process.init =
      (.error (.runtime (ascii "ALSA cannot set client name.")),
        { Process.init with openSequencers := [0], nextHandle := 1 }) ∧
    let opened := (Call.step (.open (ascii "a2j") openAsClient128) Process.init).2
    opened.stateFlag = .idle ∧
    Call.step (.activate true false) opened =
      (.error .receiverQueue, { opened with monitoringActive := true, monitors := [.check] }) :=
  ⟨rfl, rfl, rfl⟩

/-! ## The texts of `BadStateException` -/

/--
The state check an operation makes before anything else: the states it accepts, and the text
its `BadStateException` starts with.
-/
def Call.stateCheck : Call → Option ((State → Bool) × List UInt8)
  | .open .. => some ((· == .closed), ascii "Cannot open ALSA client. Wrong state ")
  | .newReceiverPort .. => some ((· == .idle), ascii "Cannot create input port. Wrong state ")
  | .activate .. => some ((· == .idle), ascii "Cannot create activate. Wrong state ")
  | .onMonitorConnections _ =>
      some ((· != .running), ascii "Cannot register an OnMonitorConnectionsHandler. Wrong state ")
  | _ => none

/--
A call throws `BadStateException` exactly when its state check refuses the state it finds, and
the message is the check's text followed by the name of that state.
-/
theorem badState_iff {c : Call} {s : Process} {what : List UInt8} :
    (c.step s).1 = .error (.badState what) ↔
      ∃ check ∈ c.stateCheck, check.1 s.stateFlag = false ∧
        check.2 ++ stateAsString s.stateFlag = what := by
  cases c <;> simp [Call.stateCheck] <;> split_ifs <;> simp_all

end A2jMidi
