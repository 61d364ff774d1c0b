import A2jMidi.Threads
import A2jMidi.Handles

/-!
# Calls and monitor threads in any order

A step of a monitor thread moves that thread alone (`Process.setMonitor`); a call acts on the
handles and the life cycle as `Call.handlesStep` and `Call.controlStep` say.  Each invariant
below is kept by one step of either kind, so it holds along every interleaving from the
initial process (`Run.invariant`):

* an open client holds a live sequencer session and a live parser;
* in a run where no `open` fails after `snd_seq_open`, nothing else is open, and nothing at
  all once the client is closed; each `open` that does fail there leaves at most one session
  and one parser more;
* from a closed client, a successful `open` followed by `close` leaves open exactly what was
  open before;
* while the client runs, `g_monitoringActive` is set and some monitor thread is inside its
  loop, and a closed client has the flag cleared.

Whether an `open` fails after `snd_seq_open` depends on the state it is made in, so the failed
`open`s of a run are counted along it (`failedOpens`): a run is determined by its labels.
-/

namespace A2jMidi

/-- A property kept by every step a run takes holds at its end. -/
theorem Run.invariant {P : Process → Prop} {Q : Label → Prop}
    (hstep : ∀ {s l s'}, Step s l s' → Q l → P s → P s') {s s' : Process}
    {labels : List Label} (hrun : Run s labels s') (hq : ∀ l ∈ labels, Q l) (hs : P s) : P s' := by
  induction hrun with
  | nil => exact hs
  | cons hst _ ih =>
      exact ih (fun l hl => hq l (List.mem_cons_of_mem _ hl))
        (hstep hst (hq _ (List.mem_cons_self ..)) hs)

/-- A step that is an `open` failing after `snd_seq_open` succeeded, from state `stateFlag`. -/
def Label.failsMidOpen : Label → State → Bool
  | .call c, stateFlag => c.failsMidOpen stateFlag
  | _, _ => false

/-- The steps of a run from `s` that are an `open` failing after `snd_seq_open` succeeded. -/
def failedOpens : Process → List Label → Nat
  | _, [] => 0
  | s, l :: ls => (if l.failsMidOpen s.stateFlag then 1 else 0) + failedOpens (l.apply s) ls

/--
A property of the handles and the state flag, with a count that each `open` failing after
`snd_seq_open` raises by one, that every call keeps holds along runs, with the failed `open`s
of the run counted: the monitor threads and the receiver queue touch neither.
-/
theorem Run.handles_count {P : Nat → Handles → State → Prop}
    (hcall : ∀ (c : Call) (s : Process) (n : Nat), P n s.handles s.stateFlag →
      P (n + if c.failsMidOpen s.stateFlag then 1 else 0) (c.step s).2.handles
        (c.step s).2.stateFlag)
    {s s' : Process} {labels : List Label} (hrun : Run s labels s') {n : Nat}
    (hs : P n s.handles s.stateFlag) : P (n + failedOpens s labels) s'.handles s'.stateFlag := by
  induction hrun generalizing n with
  | nil => exact hs
  | cons hst _ ih =>
      rw [failedOpens, ← hst.eq_apply, ← Nat.add_assoc]
      cases hst with
      | call c => exact ih (hcall c _ n hs)
      | read _ | begin _ _ | skip _ _ | finish _ | wake _ | push _ _ =>
          simpa only [Label.failsMidOpen, Bool.false_eq_true, if_false, Nat.add_zero] using ih hs

/-- A property of the handles and the state flag that every call keeps holds along runs. -/
theorem Run.handles_invariant {P : Handles → State → Prop}
    (hcall : ∀ (c : Call) (s : Process),
      P s.handles s.stateFlag → P (c.step s).2.handles (c.step s).2.stateFlag)
    {s s' : Process} {labels : List Label} (hrun : Run s labels s')
    (hs : P s.handles s.stateFlag) : P s'.handles s'.stateFlag :=
  hrun.handles_count (P := fun _ => P) (fun c s _ h => hcall c s h) (n := 0) hs

theorem init_held : Process.init.handles.Held Process.init.stateFlag :=
  ⟨fun _ h => (nomatch h), fun _ h => (nomatch h), fun h => absurd rfl h⟩

theorem init_exact : Process.init.handles.Exact Process.init.stateFlag :=
  ⟨rfl, rfl, fun _ => ⟨rfl, rfl⟩⟩

/--
In every interleaving of calls and monitor-thread steps from the initial process, the session
and the parser the globals hold are open in the library, and an open client holds both: each
call made in `idle` or `running` that hands `g_sequencerHandle` or `g_midiEventParserHandle`
to the library hands it a live one.
-/
theorem run_holds_handles {labels : List Label} {s : Process} (hrun : Run Process.init labels s) :
    (∀ h ∈ s.sequencerHandle, h ∈ s.openSequencers) ∧
      (∀ p ∈ s.midiEventParserHandle, p ∈ s.openParsers) ∧
      (s.stateFlag ≠ .closed → s.sequencerHandle.isSome ∧ s.midiEventParserHandle.isSome) := by
  have h := hrun.handles_invariant (fun c _ h => step_held c h) init_held
  exact ⟨h.sequencer_open, h.parser_open, h.held⟩

theorem run_holds_handles_running :
    ∃ s, Run Process.init
      [.call (.open (ascii "a2j") openAsClient128),
        .call (.newReceiverPort (ascii "in") (ascii "synth") CInt.zero),
        .call (.activate true true)] s ∧
      s.stateFlag = .running ∧
      (∀ h ∈ s.sequencerHandle, h ∈ s.openSequencers) ∧
      (∀ p ∈ s.midiEventParserHandle, p ∈ s.openParsers) ∧
      (s.stateFlag ≠ .closed → s.sequencerHandle.isSome ∧ s.midiEventParserHandle.isSome) :=
  have hrun := Run.cons (.call _ _) <| .cons (.call _ _) <| .cons (.call _ _) (.nil _)
  ⟨_, hrun, rfl, run_holds_handles hrun⟩

/--
In every interleaving from the initial process in which no `open` made in a closed client fails
after `snd_seq_open` succeeded, the sequencer sessions and parsers open in the library are
exactly those the globals hold, and none is open while the client is closed.
-/
theorem run_releases_handles {labels : List Label} {s : Process}
    (hrun : Run Process.init labels s) (hopen : failedOpens Process.init labels = 0) :
    s.openSequencers = s.sequencerHandle.toList ∧
      s.openParsers = s.midiEventParserHandle.toList ∧
      (s.stateFlag = .closed → s.openSequencers = [] ∧ s.openParsers = []) := by
  have hexact := hrun.handles_count (P := fun n h stateFlag => n = 0 → h.Exact stateFlag)
    (fun c s n h hzero => by
      cases hf : c.failsMidOpen s.stateFlag
      · exact step_exact hf (h (by simpa [hf] using hzero))
      · simp [hf] at hzero)
    (n := 0) (fun _ => init_exact)
  obtain ⟨hseq, hpar, hclosed⟩ := hexact (by simpa using hopen)
  refine ⟨hseq, hpar, fun hs => ?_⟩
  obtain ⟨hs₁, hs₂⟩ := hclosed hs
  exact ⟨hseq.trans (by simp [Process.handles] at hs₁ ⊢; simp [hs₁]),
    hpar.trans (by simp [Process.handles] at hs₂ ⊢; simp [hs₂])⟩

/-- A second `open`, whose naming would fail, is refused in `idle` and opens nothing. -/
theorem run_releases_handles_after_close :
    ∃ s, Run Process.init
      [.call (.open (ascii "a2j") openAsClient128),
        .call (.open (ascii "a2j") ⟨CInt.zero, CInt.minusOne, CInt.zero, CInt.zero⟩),
        .call (.activate true true), .call .stop, .call .close] s ∧
      s.stateFlag = .closed ∧
      s.openSequencers = s.sequencerHandle.toList ∧
      s.openParsers = s.midiEventParserHandle.toList ∧
      (s.stateFlag = .closed → s.openSequencers = [] ∧ s.openParsers = []) :=
  have hrun := Run.cons (.call _ _) <| .cons (.call _ _) <| .cons (.call _ _) <|
    .cons (.call _ _) <| .cons (.call _ _) (.nil _)
  have hopen : failedOpens Process.init
      [.call (.open (ascii "a2j") openAsClient128),
        .call (.open (ascii "a2j") ⟨CInt.zero, CInt.minusOne, CInt.zero, CInt.zero⟩),
        .call (.activate true true), .call .stop, .call .close] = 0 := rfl
  ⟨_, hrun, rfl, run_releases_handles hrun hopen⟩

theorem Run.bounded {s s' : Process} {labels : List Label} (hrun : Run s labels s') {n : Nat}
    (hheld : s.handles.Held s.stateFlag) (hb : s.handles.Bounded s.stateFlag n) :
    s'.handles.Bounded s'.stateFlag (n + failedOpens s labels) :=
  (hrun.handles_count (P := fun n h stateFlag => h.Held stateFlag ∧ h.Bounded stateFlag n)
    (fun c _ _ h => ⟨step_held c h.1, step_bounded c h.1 h.2⟩) ⟨hheld, hb⟩).2

/--
In every interleaving from the initial process, the sequencer sessions open in the library,
and likewise the parsers, number at most one while the client is open and none while it is
closed, besides one for each call of the run that is an `open`, made in a closed client,
failing after `snd_seq_open` succeeded.
-/
theorem run_open_handles_bound {labels : List Label} {s : Process}
    (hrun : Run Process.init labels s) :
    s.openSequencers.length ≤
        (if s.stateFlag = .closed then 0 else 1) + failedOpens Process.init labels ∧
      s.openParsers.length ≤
        (if s.stateFlag = .closed then 0 else 1) + failedOpens Process.init labels := by
  simpa only [Nat.zero_add] using hrun.bounded init_held (n := 0) ⟨Nat.zero_le _, Nat.zero_le _⟩

theorem run_open_handles_bound_after_failed_open :
    ∃ s, Run Process.init
      [.call (.open (ascii "a2j") ⟨CInt.zero, CInt.minusOne, CInt.zero, CInt.zero⟩),
        .call (.open (ascii "a2j") openAsClient128), .call .close] s ∧
      s.stateFlag = .closed ∧ s.openSequencers.length = 1 ∧
      s.openSequencers.length ≤
        (if s.stateFlag = .closed then 0 else 1) + failedOpens Process.init
          [.call (.open (ascii "a2j") ⟨CInt.zero, CInt.minusOne, CInt.zero, CInt.zero⟩),
            .call (.open (ascii "a2j") openAsClient128), .call .close] ∧
      s.openParsers.length ≤
        (if s.stateFlag = .closed then 0 else 1) + failedOpens Process.init
          [.call (.open (ascii "a2j") ⟨CInt.zero, CInt.minusOne, CInt.zero, CInt.zero⟩),
            .call (.open (ascii "a2j") openAsClient128), .call .close] :=
  have hrun := Run.cons (.call _ _) <| .cons (.call _ _) <| .cons (.call _ _) (.nil _)
  ⟨_, hrun, rfl, rfl, run_open_handles_bound hrun⟩

theorem init_fresh : Process.init.handles.Fresh :=
  ⟨fun _ h => (nomatch h), fun _ h => (nomatch h)⟩

/--
From every process an interleaving reaches with the client closed, an `open` that returns
normally followed by `close` leaves open in the library exactly the sequencer sessions and
parsers that were open before, with no global holding one: `close` undoes `open`, whatever
earlier failed calls left behind.
-/
theorem run_open_close_round_trip {labels : List Label} {s : Process}
    (hrun : Run Process.init labels s) (hs : s.stateFlag = .closed) {name : List UInt8}
    {alsa : OpenOutcome} (hok : (Call.step (.open name alsa) s).1 = .ok ()) :
    let s' := (Call.close.step (Call.step (.open name alsa) s).2).2
    s'.openSequencers = s.openSequencers ∧ s'.openParsers = s.openParsers ∧
      s'.sequencerHandle = none ∧ s'.midiEventParserHandle = none ∧ s'.stateFlag = .closed := by
  have hf := hrun.handles_invariant (P := fun h _ => h.Fresh) (fun c _ h => step_fresh c h)
    init_fresh
  have h := open_close_handles hf hs hok
  exact ⟨congrArg Handles.openSequencers h, congrArg Handles.openParsers h,
    congrArg Handles.sequencerHandle h, congrArg Handles.midiEventParserHandle h,
    Call.close_closes _⟩

theorem run_open_close_round_trip_after_leak :
    ∃ s, Run Process.init
      [.call (.open (ascii "a2j") ⟨CInt.zero, CInt.minusOne, CInt.zero, CInt.zero⟩)] s ∧
      s.stateFlag = .closed ∧ s.openSequencers = [0] ∧
      (Call.step (.open (ascii "a2j") openAsClient128) s).1 = .ok () ∧
      let s' := (Call.close.step (Call.step (.open (ascii "a2j") openAsClient128) s).2).2
      s'.openSequencers = s.openSequencers ∧ s'.openParsers = s.openParsers ∧
        s'.sequencerHandle = none ∧ s'.midiEventParserHandle = none ∧ s'.stateFlag = .closed :=
  have hrun := Run.cons (.call _ _) (.nil _)
  ⟨_, hrun, rfl, rfl, rfl, run_open_close_round_trip hrun rfl rfl⟩

/-! ## The connection monitor lives while the client runs -/

/-- While the client runs the flag is set and some thread is in its loop; closed, it is clear. -/
structure Control.Monitored (k : Control) : Prop where
  running : k.stateFlag = .running → k.monitoringActive = true ∧ k.monitors.any Monitor.looping
  closed : k.stateFlag = .closed → k.monitoringActive = false

theorem controlStep_monitored (c : Call) {k : Control} (h : k.Monitored) :
    (c.controlStep k).2.Monitored := by
  obtain ⟨hrun, hclosed⟩ := h
  cases c <;> simp only [Call.controlStep] <;> (try split_ifs) <;>
    first
    | exact ⟨hrun, hclosed⟩
    | constructor <;> simp_all [Monitor.looping]

/-- A monitor-thread step that leaves the thread in its loop while the flag is set. -/
theorem setMonitor_monitored {s : Process} {i : Nat} {m₀ m : Monitor}
    (hi : s.monitors[i]? = some m₀) (hm : s.monitoringActive = true → m.looping = true)
    (h : s.control.Monitored) : (s.setMonitor i m).control.Monitored := by
  refine ⟨fun hs => ?_, h.closed⟩
  obtain ⟨hflag, -⟩ := h.running hs
  refine ⟨hflag, List.any_eq_true.mpr ⟨m, ?_, hm hflag⟩⟩
  exact List.mem_set _ _ (List.getElem?_eq_some_iff.mp hi).1 _

theorem step_monitored {s s' : Process} {l : Label} (hst : Step s l s')
    (h : s.control.Monitored) : s'.control.Monitored := by
  cases hst with
  | call c s => rw [step_control]; exact controlStep_monitored c h
  | read hi => exact setMonitor_monitored hi (fun hf => by simp [hf, Monitor.looping]) h
  | begin hi _ | skip hi _ | finish hi | wake hi => exact setMonitor_monitored hi (fun _ => rfl) h
  | push _ _ => exact h

/--
In every interleaving of calls and monitor-thread steps from the initial process, while the
client is `running` the monitoring flag is set and some monitor thread is inside its loop, so
the connections are monitored; a closed client has the flag cleared.
-/
theorem run_monitor_alive {labels : List Label} {s : Process} (hrun : Run Process.init labels s) :
    (s.stateFlag = .running → s.monitoringActive = true ∧ ∃ i, s.inLoop i) ∧
      (s.stateFlag = .closed → s.monitoringActive = false) := by
  have h : s.control.Monitored := hrun.invariant (Q := fun _ => True)
    (fun hst _ h => step_monitored hst h) (fun _ _ => trivial) ⟨fun h => (nomatch h), fun _ => rfl⟩
  refine ⟨fun hs => ?_, h.closed⟩
  obtain ⟨hflag, hany⟩ := h.running hs
  obtain ⟨m, hm, hl⟩ := List.any_eq_true.mp hany
  obtain ⟨i, hi⟩ := List.mem_iff_getElem?.mp hm
  simp only [Process.control] at hi
  exact ⟨hflag, i, by simp [Process.inLoop, hi, hl]⟩

theorem run_monitor_alive_in_handler :
    ∃ s, Run Process.init
      [.call (.open (ascii "a2j") openAsClient128),
        .call (.newReceiverPort (ascii "in") (ascii "synth") CInt.zero),
        .call (.activate true true), .read 0 true, .begin 0] s ∧
      s.stateFlag = .running ∧
      (s.stateFlag = .running → s.monitoringActive = true ∧ ∃ i, s.inLoop i) ∧
      (s.stateFlag = .closed → s.monitoringActive = false) :=
  have hrun : Run Process.init
      [.call (.open (ascii "a2j") openAsClient128),
        .call (.newReceiverPort (ascii "in") (ascii "synth") CInt.zero),
        .call (.activate true true), .read 0 true, .begin 0] _ :=
    .cons (.call _ _) <| .cons (.call _ _) <| .cons (.call _ _) <| .cons (.read rfl) <|
      .cons (.begin rfl (by decide)) (.nil _)
  ⟨_, hrun, rfl, run_monitor_alive hrun⟩

end A2jMidi
