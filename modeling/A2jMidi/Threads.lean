import A2jMidi.Lifecycle

/-!
# The monitor threads

`activateConnectionMonitoring` sets `g_monitoringActive` and starts a detached thread that
runs `monitorLoop`: read the flag, call the handler if there is one, sleep, and again until
it reads the flag as false.  The public calls hold `g_stateAccessMutex` and are atomic; the
threads take no lock, so their steps interleave with the calls in any order.  The sequencer's
own context pushes captured events on the receiver queue, in capture-time order, between any
two steps.

A call of the handler is one step here, and it always returns: a run of `Run` never stops.
A handler that throws ends the program (`std::terminate`); `Handler` models that, with the
handler taken read by read, and shows that each of its runs is one of `Run` with the same
calls.  So the runs here over-approximate those of the program, and what holds along every
run here holds along every run of the program.

Once the flag is false, and until the next `activate`, every read sees false: a thread
begins at most the one invocation it was about to begin, leaves its loop at its next read,
and no thread enters a loop.  Nothing makes a thread leave before the next `activate` sets
the flag again.
-/

namespace A2jMidi

/-- The atomic steps of the system: a public call, or one step of monitor thread `i`. -/
inductive Label where
  | call (c : Call)
  /-- Thread `i` reads `g_monitoringActive` and sees `value`. -/
  | read (i : Nat) (value : Bool)
  /-- Thread `i` finds a handler and calls it. -/
  | begin (i : Nat)
  /-- Thread `i` finds no handler. -/
  | skip (i : Nat)
  /-- The handler thread `i` called returns. -/
  | finish (i : Nat)
  /-- Thread `i` wakes from `sleep_for(MONITOR_INTERVAL)`. -/
  | wake (i : Nat)
  /-- The sequencer's context pushes a captured event, with its capture time, on the queue. -/
  | push (event : Decoded × TimePoint)

def Process.setMonitor (s : Process) (i : Nat) (m : Monitor) : Process :=
  { s with monitors := s.monitors.set i m }

/-- One step of the system. -/
inductive Step : Process → Label → Process → Prop where
  | call (c : Call) (s : Process) : Step s (.call c) (c.step s).2
  | read {s : Process} {i : Nat} (h : s.monitors[i]? = some .check) :
      Step s (.read i s.monitoringActive)
        (s.setMonitor i (if s.monitoringActive then .invoke else .done))
  | begin {s : Process} {i : Nat} (h : s.monitors[i]? = some .invoke)
      (hh : s.onMonitorConnectionsHandler ≠ .none) : Step s (.begin i) (s.setMonitor i .inHandler)
  | skip {s : Process} {i : Nat} (h : s.monitors[i]? = some .invoke)
      (hh : s.onMonitorConnectionsHandler = .none) : Step s (.skip i) (s.setMonitor i .sleeping)
  | finish {s : Process} {i : Nat} (h : s.monitors[i]? = some .inHandler) :
      Step s (.finish i) (s.setMonitor i .sleeping)
  | wake {s : Process} {i : Nat} (h : s.monitors[i]? = some .sleeping) :
      Step s (.wake i) (s.setMonitor i .check)
  | push {s : Process} (event : Decoded × TimePoint) (h : ∀ e ∈ s.queue, e.2 ≤ event.2) :
      Step s (.push event) { s with queue := s.queue ++ [event] }

/-- A run of the system, with the steps it takes in order. -/
inductive Run : Process → List Label → Process → Prop where
  | nil (s : Process) : Run s [] s
  | cons {s s' s'' : Process} {l : Label} {ls : List Label} :
      Step s l s' → Run s' ls s'' → Run s (l :: ls) s''

/-- The process a step with this label leaves, where it can be taken. -/
def Label.apply : Label → Process → Process
  | .call c, s => (c.step s).2
  | .read i _, s => s.setMonitor i (if s.monitoringActive then .invoke else .done)
  | .begin i, s => s.setMonitor i .inHandler
  | .skip i, s | .finish i, s => s.setMonitor i .sleeping
  | .wake i, s => s.setMonitor i .check
  | .push event, s => { s with queue := s.queue ++ [event] }

/-- A run is determined by its labels. -/
theorem Step.eq_apply {s s' : Process} {l : Label} (h : Step s l s') : s' = l.apply s := by
  cases h <;> rfl

def Label.isActivate : Label → Bool
  | .call (.activate ..) => true
  | _ => false

def Label.isBegin (i : Nat) : Label → Bool
  | .begin j => j == i
  | _ => false

def Label.reads (i : Nat) : Label → Bool
  | .read j _ => j == i
  | _ => false

/-- The invocations of the handler a thread at this point begins without reading the flag. -/
def Monitor.pending : Monitor → Nat
  | .invoke => 1
  | _ => 0

/-- Inside the while-loop of `monitorLoop`. -/
def Monitor.looping : Monitor → Bool
  | .done => false
  | _ => true

def Process.pendingAt (s : Process) (i : Nat) : Nat := (s.monitors[i]?).elim 0 Monitor.pending

def Process.inLoop (s : Process) (i : Nat) : Bool := (s.monitors[i]?).any Monitor.looping

theorem getElem?_setMonitor {s : Process} {i j : Nat} {m₀ m : Monitor}
    (h : s.monitors[i]? = some m₀) :
    (s.setMonitor i m).monitors[j]? = if i = j then some m else s.monitors[j]? := by
  rw [Process.setMonitor, List.getElem?_set, if_pos (List.getElem?_eq_some_iff.mp h).1]

/-- With the flag false, a call other than `activate` keeps it false and starts no thread. -/
theorem controlStep_quiet {c : Call} {k : Control} (hc : (Label.call c).isActivate = false)
    (hk : k.monitoringActive = false) :
    (c.controlStep k).2.monitoringActive = false ∧ (c.controlStep k).2.monitors = k.monitors := by
  cases c <;> simp only [Label.isActivate, Call.controlStep] at hc ⊢ <;> (try split_ifs) <;>
    simp_all

/-- What `step_quiet` says of a step. -/
def QuietStep (s : Process) (l : Label) (s' : Process) : Prop :=
  s'.monitoringActive = false ∧ s'.monitors.length = s.monitors.length ∧ ∀ j,
    (∀ v, l = .read j v → v = false) ∧
    (if l.isBegin j then 1 else 0) + s'.pendingAt j ≤ s.pendingAt j ∧
    s'.inLoop j = (s.inLoop j && !l.reads j)

/-- A step of thread `i` from `m₀` to `m`, checked on that thread alone. -/
theorem monitorStep_quiet {s : Process} {i : Nat} {m₀ m : Monitor} {l : Label}
    (hflag : s.monitoringActive = false) (h : s.monitors[i]? = some m₀)
    (hread : ∀ j v, l = .read j v → v = false)
    (hl : ∀ j, j ≠ i → l.isBegin j = false ∧ l.reads j = false)
    (hi : (if l.isBegin i then 1 else 0) + m.pending ≤ m₀.pending ∧
      m.looping = (m₀.looping && !l.reads i)) :
    QuietStep s l (s.setMonitor i m) := by
  refine ⟨hflag, List.length_set .., fun j => ⟨hread j, ?_⟩⟩
  by_cases hij : i = j
  · subst hij
    simpa [Process.pendingAt, Process.inLoop, getElem?_setMonitor h, h] using hi
  · simp [Process.pendingAt, Process.inLoop, getElem?_setMonitor h, hij, hl j (Ne.symm hij)]

/--
A step taken while the flag is false, other than `activate`: the flag stays false, no thread
starts, a read sees false, a `begin` uses up the invocation its thread was about to begin,
and a thread leaves its loop exactly when it reads.
-/
theorem step_quiet {s s' : Process} {l : Label} (hstep : Step s l s')
    (hflag : s.monitoringActive = false) (hl : l.isActivate = false) : QuietStep s l s' := by
  cases hstep with
  | call c s =>
      obtain ⟨hflag', hmon⟩ := controlStep_quiet (k := s.control) hl hflag
      rw [← monitoringActive_step, ← monitors_step] at *
      simp [QuietStep, Process.pendingAt, Process.inLoop, hflag', hmon, Label.isBegin,
        Label.reads, Process.control]
  | read h =>
      simp only [hflag, Bool.false_eq_true, if_false]
      exact monitorStep_quiet hflag h (fun _ _ hv => by cases hv; rfl)
        (fun j hj => by simp [Label.isBegin, Label.reads, Ne.symm hj])
        (by simp [Label.isBegin, Label.reads, Monitor.pending, Monitor.looping])
  | begin h _ | skip h _ | finish h | wake h =>
      exact monitorStep_quiet hflag h (fun _ _ hv => by cases hv)
        (fun j hj => by simp [Label.isBegin, Label.reads, Ne.symm hj])
        (by simp [Label.isBegin, Label.reads, Monitor.pending, Monitor.looping])
  | push _ _ =>
      refine ⟨hflag, rfl, fun j => ⟨fun _ hv => (nomatch hv), ?_, ?_⟩⟩ <;>
        simp [Label.isBegin, Label.reads, Process.pendingAt, Process.inLoop]

/-- `step_quiet` over a whole run without `activate`. -/
theorem run_quiet {s s' : Process} {labels : List Label} (hrun : Run s labels s')
    (hflag : s.monitoringActive = false) (hact : ∀ l ∈ labels, l.isActivate = false) :
    s'.monitoringActive = false ∧ s'.monitors.length = s.monitors.length ∧ ∀ j,
      (∀ v, Label.read j v ∈ labels → v = false) ∧
      (labels.filter (Label.isBegin j)).length + s'.pendingAt j ≤ s.pendingAt j ∧
      s'.inLoop j = (s.inLoop j && !labels.any (Label.reads j)) := by
  induction hrun with
  | nil s => simp [hflag]
  | @cons s₀ s₁ s₂ l ls hstep _ ih =>
      obtain ⟨hflag₁, hlen₁, hj₁⟩ := step_quiet hstep hflag (hact _ (List.mem_cons_self ..))
      obtain ⟨hflag₂, hlen₂, hj₂⟩ := ih hflag₁ fun l hl => hact l (List.mem_cons_of_mem _ hl)
      refine ⟨hflag₂, hlen₂.trans hlen₁, fun j => ?_⟩
      obtain ⟨hr₁, hc₁, hi₁⟩ := hj₁ j
      obtain ⟨hr₂, hc₂, hi₂⟩ := hj₂ j
      refine ⟨fun v hv => ?_, ?_, by rw [hi₂, hi₁, List.any_cons, Bool.not_or, Bool.and_assoc]⟩
      · rcases List.mem_cons.mp hv with hv | hv
        · exact hr₁ v hv.symm
        · exact hr₂ v hv
      · rw [List.filter_cons]
        cases hb : l.isBegin j
        · simp only [hb, Bool.false_eq_true, if_false] at hc₁ ⊢
          omega
        · simp only [hb, if_true, List.length_cons] at hc₁ ⊢
          omega

/--
An `activate` from `idle` whose thread starts adds one monitor thread to those already
there.  While the flag is false and until the next `activate`, no thread starts, and a
thread is inside its loop at the end exactly when it was at the start and has not read the
flag since: the threads still in their loops when the next `activate` comes run on beside
the one it starts.
-/
theorem monitor_threads_after_stop :
    (∀ (s : Process) (queueStarts : Bool), s.stateFlag = .idle →
      ((Call.activate true queueStarts).step s).2.monitors = s.monitors ++ [.check]) ∧
    (∀ (s s' : Process) (labels : List Label), s.monitoringActive = false → Run s labels s' →
      (∀ l ∈ labels, l.isActivate = false) →
        s'.monitors.length = s.monitors.length ∧
        ∀ i, s'.inLoop i = (s.inLoop i && !labels.any (Label.reads i))) := by
  refine ⟨fun s q h => ?_, fun s s' labels hflag hrun hact => ?_⟩
  · rw [monitors_step]
    cases q <;> simp [Call.controlStep, Process.control, h]
  · obtain ⟨-, hlen, hj⟩ := run_quiet hrun hflag hact
    exact ⟨hlen, fun i => (hj i).2.2⟩

/-- `activate` right after `stop`, before the first thread read the flag: two threads loop. -/
theorem two_monitor_threads_after_restart :
    ∃ s, Run Process.init
      [.call (.open (ascii "a2j") openAsClient128), .call (.activate true true), .call .stop,
        .call (.activate true true)] s ∧
      s.stateFlag = .running ∧ s.monitors = [.check, .check] ∧ s.inLoop 0 ∧ s.inLoop 1 :=
  ⟨_, .cons (.call _ _) <| .cons (.call _ _) <| .cons (.call _ _) <| .cons (.call _ _) (.nil _),
    rfl, rfl, rfl, rfl⟩

end A2jMidi
