import A2jMidi.Session

/-!
# The life cycle of the session

The state flag, the receiver port, the monitor handler, the monitoring flag and the monitor
threads form the `Control` of a process.  `Call.controlStep` says in a few lines what each
public call does to it, and `control_step` shows that the operations of `Session` do
exactly that, from every process.  The life-cycle facts are read off `Call.controlStep` and
lifted to every run of calls.
-/

namespace A2jMidi

/-- The part of a process that the life cycle and the monitor threads depend on. -/
structure Control where
  stateFlag : State
  portId : CInt
  handler : Handler
  monitoringActive : Bool
  monitors : List Monitor
  deriving DecidableEq

@[simp]
theorem isOk_ok {ε α : Type} (a : α) : (Except.ok a : Except ε α).isOk = true := rfl

@[simp]
theorem isOk_error {ε α : Type} (e : ε) : (Except.error e : Except ε α).isOk = false := rfl

def Process.control (s : Process) : Control :=
  ⟨s.stateFlag, s.portId, s.onMonitorConnectionsHandler, s.monitoringActive, s.monitors⟩

/-- What a call does to the control: whether it returns normally, and the control after it. -/
def Call.controlStep : Call → Control → Bool × Control
  | .open _ alsa, k =>
      if k.stateFlag != .closed || alsaError alsa.seqOpen || alsaError alsa.setClientName ||
          alsaError alsa.eventNew then (false, k)
      else if alsaError alsa.clientId then (false, { k with portId := nullId })
      else (true, { k with portId := nullId, stateFlag := .idle })
  | .newReceiverPort _ _ createPort, k =>
      if k.stateFlag != .idle || k.portId != nullId || alsaError createPort then (false, k)
      else (true, { k with portId := createPort, handler := .default })
  | .activate threadStarts queueStarts, k =>
      if k.stateFlag != .idle then (false, k)
      else if !threadStarts then (false, { k with monitoringActive := true })
      else if !queueStarts then
        (false, { k with monitoringActive := true, monitors := k.monitors ++ [.check] })
      else
        (true, { k with
          monitoringActive := true, monitors := k.monitors ++ [.check], stateFlag := .running })
  | .stop, k =>
      (true, if k.stateFlag == .running then
        { k with monitoringActive := false, stateFlag := .idle } else k)
  | .close, k =>
      (true, if k.stateFlag == .closed then k
        else { k with monitoringActive := false, portId := nullId, stateFlag := .closed })
  | .onMonitorConnections handler, k =>
      if k.stateFlag == .running then (false, k) else (true, { k with handler := handler })
  | _, k => (true, k)

/-- The operations of `Session` act on the control as `Call.controlStep` says. -/
theorem control_step (c : Call) (s : Process) :
    ((c.step s).1.isOk, (c.step s).2.control) = c.controlStep s.control := by
  cases c <;> simp [Call.controlStep, Process.control] <;> split_ifs <;> simp_all

theorem step_control (c : Call) (s : Process) :
    (c.step s).2.control = (c.controlStep s.control).2 :=
  congrArg Prod.snd (control_step c s)

theorem step_isOk (c : Call) (s : Process) : (c.step s).1.isOk = (c.controlStep s.control).1 :=
  congrArg Prod.fst (control_step c s)

theorem stateFlag_step (c : Call) (s : Process) :
    (c.step s).2.stateFlag = (c.controlStep s.control).2.stateFlag :=
  congrArg Control.stateFlag (step_control c s)

theorem handler_step (c : Call) (s : Process) :
    (c.step s).2.onMonitorConnectionsHandler = (c.controlStep s.control).2.handler :=
  congrArg Control.handler (step_control c s)

theorem monitoringActive_step (c : Call) (s : Process) :
    (c.step s).2.monitoringActive = (c.controlStep s.control).2.monitoringActive :=
  congrArg Control.monitoringActive (step_control c s)

theorem monitors_step (c : Call) (s : Process) :
    (c.step s).2.monitors = (c.controlStep s.control).2.monitors :=
  congrArg Control.monitors (step_control c s)

/-- The processes that some sequence of public calls reaches from the initial one. -/
inductive Reachable : Process → Prop where
  | init : Reachable Process.init
  | step {s : Process} (c : Call) : Reachable s → Reachable (c.step s).2

/-- A run of calls: each call with how it returned, and the process at the end. -/
def runCalls : Process → List Call → List (Call × Except Exception Unit) × Process
  | s, [] => ([], s)
  | s, c :: cs =>
      let rest := runCalls (c.step s).2 cs
      ((c, (c.step s).1) :: rest.1, rest.2)

def Call.isNewReceiverPort : Call → Bool
  | .newReceiverPort .. => true
  | _ => false

def Call.isClose : Call → Bool
  | .close => true
  | _ => false

/-! ## The edges of `g_stateFlag` -/

/-- The edges of the life cycle, each with the operation that takes it. -/
def Call.Edge : Call → State → State → Prop
  | .open .., .closed, .idle => True
  | .activate .., .idle, .running => True
  | .stop, .running, .idle => True
  | .close, .idle, .closed => True
  | .close, .running, .closed => True
  | _, _, _ => False

theorem controlStep_stateFlag (c : Call) (k : Control) :
    (c.controlStep k).2.stateFlag = k.stateFlag ∨
      c.Edge k.stateFlag (c.controlStep k).2.stateFlag := by
  cases c <;> simp only [Call.controlStep] <;> (try split_ifs) <;> cases h : k.stateFlag <;>
    simp_all [Call.Edge]

/-! ## The receiver port lives inside an open client -/

/-- A receiver port exists only while the client is open. -/
def Control.PortInv (k : Control) : Prop := k.portId ≠ nullId → k.stateFlag ≠ .closed

theorem alsaError_nullId : alsaError nullId = true := rfl

theorem controlStep_portInv (c : Call) {k : Control} (h : k.PortInv) :
    (c.controlStep k).2.PortInv := by
  cases c <;> simp only [Call.controlStep] <;> (try split_ifs) <;> simp_all [Control.PortInv]

theorem reachable_portInv {s : Process} (h : Reachable s) : s.control.PortInv := by
  induction h with
  | init => exact fun h => absurd rfl h
  | step c _ ih => rw [step_control]; exact controlStep_portInv c ih

/-! ## One receiver port between an `open` and the next `close` -/

/-- A receiver port exists and the client is open. -/
def Control.Claimed (k : Control) : Prop := k.portId ≠ nullId ∧ k.stateFlag ≠ .closed

/-- A `newReceiverPort` that returns normally leaves a port in an open client. -/
theorem controlStep_newReceiverPort {c : Call} {k : Control} (hc : c.isNewReceiverPort)
    (hok : (c.controlStep k).1) : (c.controlStep k).2.Claimed := by
  cases c with
  | newReceiverPort _ _ createPort =>
      simp only [Call.controlStep] at hok ⊢
      split_ifs at hok ⊢ with h
      simp only [Bool.or_eq_true, bne_iff_ne, ne_eq, not_or, not_not, Bool.not_eq_true] at h
      refine ⟨fun he => ?_, by simp [h.1]⟩
      simp only at he
      simp [he, alsaError_nullId] at h
  | _ => simp [Call.isNewReceiverPort] at hc

/-- While a port is claimed, every call but `close` keeps it, and `newReceiverPort` throws. -/
theorem controlStep_claimed {c : Call} {k : Control} (hc : c.isClose = false) (h : k.Claimed) :
    (c.controlStep k).2.Claimed ∧ (c.isNewReceiverPort → (c.controlStep k).1 = false) := by
  obtain ⟨hp, hs⟩ := h
  cases c <;> simp only [Call.isClose, Call.isNewReceiverPort, Call.controlStep] at hc ⊢ <;>
    (try split_ifs) <;> simp_all [Control.Claimed]

theorem runCalls_claimed {s : Process} (h : s.control.Claimed) {calls : List Call}
    {mid post : List (Call × Except Exception Unit)} {c₂ : Call}
    (hlog : (runCalls s calls).1 = mid ++ (c₂, .ok ()) :: post) (hc₂ : c₂.isNewReceiverPort) :
    ∃ e ∈ mid, e.1.isClose := by
  induction calls generalizing s mid with
  | nil => cases mid <;> simp [runCalls] at hlog
  | cons c calls ih =>
      cases mid with
      | nil =>
          simp only [runCalls, List.nil_append, List.cons.injEq, Prod.mk.injEq] at hlog
          obtain ⟨⟨rfl, hok⟩, -⟩ := hlog
          have hclose : c.isClose = false := by
            cases c <;> simp_all [Call.isClose, Call.isNewReceiverPort]
          have hfalse := step_isOk c s
          rw [hok, (controlStep_claimed hclose h).2 hc₂] at hfalse
          contradiction
      | cons e mid =>
          simp only [runCalls, List.cons_append, List.cons.injEq] at hlog
          obtain ⟨rfl, hrest⟩ := hlog
          cases hclose : c.isClose
          · have hnext : (c.step s).2.control.Claimed := by
              rw [step_control]
              exact (controlStep_claimed hclose h).1
            obtain ⟨e', he', hclose'⟩ := ih hnext hrest
            exact ⟨e', List.mem_cons_of_mem _ he', hclose'⟩
          · exact ⟨_, List.mem_cons_self _ _, hclose⟩

/-- Any two `newReceiverPort` calls that return normally in a run have a `close` between them. -/
theorem runCalls_newReceiverPort {s : Process} {calls : List Call}
    {pre mid post : List (Call × Except Exception Unit)} {c₁ c₂ : Call}
    (hlog : (runCalls s calls).1 = pre ++ (c₁, .ok ()) :: (mid ++ (c₂, .ok ()) :: post))
    (hc₁ : c₁.isNewReceiverPort) (hc₂ : c₂.isNewReceiverPort) : ∃ e ∈ mid, e.1.isClose := by
  induction calls generalizing s pre with
  | nil => cases pre <;> simp [runCalls] at hlog
  | cons c calls ih =>
      cases pre with
      | nil =>
          simp only [runCalls, List.nil_append, List.cons.injEq, Prod.mk.injEq] at hlog
          obtain ⟨⟨rfl, hok⟩, hrest⟩ := hlog
          have hclaimed : (c.step s).2.control.Claimed := by
            rw [step_control]
            exact controlStep_newReceiverPort hc₁ (by rw [← step_isOk, hok]; rfl)
          exact runCalls_claimed hclaimed hrest hc₂
      | cons e pre =>
          simp only [runCalls, List.cons_append, List.cons.injEq] at hlog
          exact ih hlog.2

/-! ## The monitor handler changes outside `running` -/

theorem controlStep_handler (c : Call) {k : Control}
    (h : (c.controlStep k).2.handler ≠ k.handler) : k.stateFlag ≠ .running := by
  cases c <;> simp only [Call.controlStep] at h <;> (try split_ifs at h) <;> simp_all

/--
Every call moves `g_stateFlag` along the edge of its operation or leaves it; a receiver port
exists only in `idle` or `running`; two `newReceiverPort` calls that return normally have a
`close` between them; the monitor handler changes only in calls made outside `running`.
-/
theorem session_lifecycle :
    (∀ (c : Call) (s : Process),
      (c.step s).2.stateFlag = s.stateFlag ∨ c.Edge s.stateFlag (c.step s).2.stateFlag) ∧
    (∀ s : Process, Reachable s → s.portId ≠ nullId →
      s.stateFlag = .idle ∨ s.stateFlag = .running) ∧
    (∀ (s : Process) (calls : List Call) (pre mid post : List (Call × Except Exception Unit))
      (c₁ c₂ : Call),
      (runCalls s calls).1 = pre ++ (c₁, .ok ()) :: (mid ++ (c₂, .ok ()) :: post) →
      c₁.isNewReceiverPort → c₂.isNewReceiverPort → ∃ e ∈ mid, e.1.isClose) ∧
    (∀ (c : Call) (s : Process),
      (c.step s).2.onMonitorConnectionsHandler ≠ s.onMonitorConnectionsHandler →
      s.stateFlag ≠ .running) := by
  refine ⟨fun c s => ?_, fun s hs hp => ?_,
    fun _ _ _ _ _ _ _ hlog hc₁ hc₂ => runCalls_newReceiverPort hlog hc₁ hc₂, fun c s h => ?_⟩
  · rw [stateFlag_step]
    exact controlStep_stateFlag c s.control
  · have hopen := reachable_portInv hs hp
    cases h : s.stateFlag <;> simp_all [Process.control]
  · rw [handler_step] at h
    exact controlStep_handler c h

end A2jMidi
