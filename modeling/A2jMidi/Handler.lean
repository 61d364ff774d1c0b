import A2jMidi.System
import A2jMidi.Connect

/-!
# The default handler, read by read

`monitorLoop` calls `g_onMonitorConnectionsHandler(g_connectTo)` without taking
`g_stateAccessMutex`, and `defaultConnectionsHandler` reads the globals as it goes: it tests
`g_connectTo` and `g_portId`, queries the subscribers of the receiver port, resolves the
target, and hands `g_sequencerHandle` and `g_portId` to `snd_seq_connect_from`.  `Threads`
takes a call of a handler as one step; here a thread inside `defaultConnectionsHandler` takes
one step per read, and the public calls can come between any two of them.  A request the
sequencer rejects throws out of `monitorLoop` and ends the program: after it no step is taken.

* Hiding the steps inside the handler, every interleaving of this model is one of `Threads`
  with the same calls in the same order, so what holds along those holds here.
* A thread that takes its steps with nothing in between sends what one run of
  `defaultConnectionsHandler` sends, through the session the globals hold.
-/

namespace A2jMidi

/-- Where a thread is inside `defaultConnectionsHandler` and the `tryToConnect` it calls. -/
inductive HandlerPC where
  /-- At `if (connectTo.empty())`. -/
  | connectTo
  /-- At `if (g_portId == NULL_ID)`. -/
  | portId
  /-- At `receiverPortGetConnectionsInternal()`. -/
  | connections
  /-- In `tryToConnect`: at `if (designation.empty())`, then `toProfile` and `findPort`. -/
  | resolve
  /-- At `snd_seq_connect_from`, with the port `findPort` answered. -/
  | connect (target : PortID)
  deriving DecidableEq

/-- Past the test of `g_portId`. -/
def HandlerPC.tested : HandlerPC → Bool
  | .connectTo | .portId => false
  | _ => true

def HandlerPC.isConnect : HandlerPC → Bool
  | .connect _ => true
  | _ => false

/--
Where a thread at `pc` goes after one step, reading the globals of `s` and what the sequencer
answers; `none` when the handler returns.
-/
def HandlerPC.next (senderPort : PortCaps) (sequencer : Sequencer) (s : Process) :
    HandlerPC → Option HandlerPC
  | .connectTo => if s.connectTo.isEmpty then none else some .portId
  | .portId => if s.portId == nullId then none else some .connections
  | .connections =>
      if (receiverPortGetConnectionsInternal sequencer.subscribers).isEmpty then some .resolve
      else none
  | .resolve =>
      if s.connectTo.isEmpty then none
      else some (.connect (Id.run (findPort (toProfile senderPort s.connectTo) matchCallback
        sequencer.clients)))
  | .connect _ => none

/-- A request handed to `snd_seq_connect_from`, with the session `g_sequencerHandle` held. -/
structure SentRequest where
  session : Option Nat
  request : ConnectRequest
  deriving DecidableEq

/-- What a thread at `pc` hands to `snd_seq_connect_from`, reading the globals of `s`. -/
def HandlerPC.sends (s : Process) : HandlerPC → List SentRequest
  | .connect target => [⟨s.sequencerHandle, ⟨s.portId, target⟩⟩]
  | _ => []

/--
The system of `Threads` with, for each monitor thread, where it is inside
`defaultConnectionsHandler`; the requests sent so far; and whether a rejected request ended
the program (`std::terminate`).
-/
structure World where
  process : Process
  handlerAt : Nat → Option HandlerPC
  sent : List SentRequest
  terminated : Bool

def World.init : World := ⟨Process.init, fun _ => none, [], false⟩

/-- The world after thread `i` takes one step inside the handler from `pc`. -/
def World.advance (w : World) (senderPort : PortCaps) (sequencer : Sequencer) (i : Nat)
    (pc : HandlerPC) : World :=
  let next := pc.next senderPort sequencer w.process
  { process := if next.isNone then w.process.setMonitor i .sleeping else w.process
    handlerAt := Function.update w.handlerAt i next
    sent := w.sent ++ pc.sends w.process
    terminated := pc.isConnect && alsaError sequencer.connectFrom }

/-- The steps of `Threads` taken here as they are: all but entering and leaving the handler. -/
def World.Coarse (w : World) : Label → Prop
  | .begin _ => w.process.onMonitorConnectionsHandler ≠ .default
  | .finish i => w.handlerAt i = none
  | _ => True

inductive FineLabel where
  | step (l : Label)
  /-- Thread `i` calls `defaultConnectionsHandler`. -/
  | enter (i : Nat)
  /-- Thread `i` takes a step inside the handler, with what the sequencer answers to it. -/
  | inner (i : Nat) (sequencer : Sequencer)

/-- One step of the system, with `SENDER_PORT` as `senderPort`. -/
inductive FineStep (senderPort : PortCaps) : World → FineLabel → World → Prop where
  | step {w : World} {l : Label} {s' : Process} (hs : Step w.process l s') (hl : w.Coarse l)
      (ht : w.terminated = false) : FineStep senderPort w (.step l) { w with process := s' }
  | enter {w : World} {i : Nat} (h : w.process.monitors[i]? = some .invoke)
      (hh : w.process.onMonitorConnectionsHandler = .default) (ht : w.terminated = false) :
      FineStep senderPort w (.enter i)
        { w with process := w.process.setMonitor i .inHandler
                 handlerAt := Function.update w.handlerAt i (some .connectTo) }
  | inner {w : World} {i : Nat} (pc : HandlerPC) (sequencer : Sequencer)
      (h : w.handlerAt i = some pc) (ht : w.terminated = false) :
      FineStep senderPort w (.inner i sequencer) (w.advance senderPort sequencer i pc)

inductive FineRun (senderPort : PortCaps) : World → List FineLabel → World → Prop where
  | nil (w : World) : FineRun senderPort w [] w
  | cons {w w' w'' : World} {l : FineLabel} {ls : List FineLabel} :
      FineStep senderPort w l w' → FineRun senderPort w' ls w'' → FineRun senderPort w (l :: ls) w''

variable {senderPort : PortCaps}

/-! ## Hiding the steps inside the handler -/

theorem Run.append {s s' s'' : Process} {l₁ l₂ : List Label} (h₁ : Run s l₁ s')
    (h₂ : Run s' l₂ s'') : Run s (l₁ ++ l₂) s'' := by
  induction h₁ with
  | nil => exact h₂
  | cons hst _ ih => exact .cons hst (ih h₂)

theorem FineRun.append {w w' w'' : World} {l₁ l₂ : List FineLabel}
    (h₁ : FineRun senderPort w l₁ w') (h₂ : FineRun senderPort w' l₂ w'') :
    FineRun senderPort w (l₁ ++ l₂) w'' := by
  induction h₁ with
  | nil => exact h₂
  | cons hst _ ih => exact .cons hst (ih h₂)

/-- A property kept by every step a run takes holds at its end. -/
theorem FineRun.invariant {P : World → Prop} {Q : FineLabel → Prop}
    (hstep : ∀ {w fl w'}, FineStep senderPort w fl w' → Q fl → P w → P w') {w w' : World}
    {fls : List FineLabel} (hrun : FineRun senderPort w fls w') (hq : ∀ fl ∈ fls, Q fl)
    (hw : P w) : P w' := by
  induction hrun with
  | nil => exact hw
  | cons hst _ ih =>
      exact ih (fun fl hfl => hq fl (List.mem_cons_of_mem _ hfl))
        (hstep hst (hq _ (List.mem_cons_self ..)) hw)

@[simp]
theorem advance_handlerAt_self (w : World) (sequencer : Sequencer) (i : Nat) (pc : HandlerPC) :
    (w.advance senderPort sequencer i pc).handlerAt i = pc.next senderPort sequencer w.process :=
  Function.update_same ..

@[simp]
theorem advance_process (w : World) (sequencer : Sequencer) (i : Nat) (pc : HandlerPC) :
    (w.advance senderPort sequencer i pc).process =
      if (pc.next senderPort sequencer w.process).isNone then w.process.setMonitor i .sleeping
      else w.process := rfl

@[simp]
theorem advance_sent (w : World) (sequencer : Sequencer) (i : Nat) (pc : HandlerPC) :
    (w.advance senderPort sequencer i pc).sent = w.sent ++ pc.sends w.process := rfl

@[simp]
theorem advance_terminated (w : World) (sequencer : Sequencer) (i : Nat) (pc : HandlerPC) :
    (w.advance senderPort sequencer i pc).terminated =
      (pc.isConnect && alsaError sequencer.connectFrom) := rfl

/-- A step inside the handler before `snd_seq_connect_from` that goes on moves its thread alone. -/
theorem advance_of_next {w : World} {sequencer : Sequencer} {i : Nat} {pc pc' : HandlerPC}
    (hn : pc.next senderPort sequencer w.process = some pc') (hc : pc.isConnect = false)
    (ht : w.terminated = false) :
    w.advance senderPort sequencer i pc =
      { w with handlerAt := Function.update w.handlerAt i (some pc') } := by
  cases pc <;> simp_all [World.advance, HandlerPC.sends, HandlerPC.isConnect]

/-- A run that begins with such a step of thread `i`. -/
theorem FineRun.inner_of_next {w w' : World} {i : Nat} {pc : HandlerPC} (pc' : HandlerPC)
    {sequencer : Sequencer} {fls : List FineLabel} (hi : w.handlerAt i = some pc)
    (ht : w.terminated = false) (hn : pc.next senderPort sequencer w.process = some pc')
    (hc : pc.isConnect = false)
    (hrun : FineRun senderPort { w with handlerAt := Function.update w.handlerAt i (some pc') }
      fls w') :
    FineRun senderPort w (.inner i sequencer :: fls) w' := by
  have hst := @FineStep.inner senderPort w i pc sequencer hi ht
  rw [advance_of_next hn hc ht] at hst
  exact .cons hst hrun

/--
With a target and a receiver port, and no subscriber to it, a thread that has just called the
handler takes four steps that move it alone, up to `snd_seq_connect_from` with the port
`findPort` answers for the target.
-/
theorem fineRun_to_connect {w : World} {i : Nat} (sequencer : Sequencer)
    (hi : w.handlerAt i = some .connectTo) (ht : w.terminated = false)
    (hA : w.process.connectTo ≠ []) (hB : w.process.portId ≠ nullId)
    (hC : sequencer.subscribers = []) :
    FineRun senderPort w (List.replicate 4 (.inner i sequencer))
      { w with handlerAt := Function.update w.handlerAt i (some (.connect (Id.run (findPort
        (toProfile senderPort w.process.connectTo) matchCallback sequencer.clients)))) } := by
  refine .inner_of_next .portId hi ht (by simp [HandlerPC.next, hA]) rfl ?_
  refine .inner_of_next .connections (Function.update_same ..) ht
    (by simp [HandlerPC.next, hB]) rfl ?_
  refine .inner_of_next .resolve (Function.update_same ..) ht
    (by simp [HandlerPC.next, receiverPortGetConnectionsInternal, hC]) rfl ?_
  refine .inner_of_next (.connect (Id.run (findPort (toProfile senderPort w.process.connectTo)
    matchCallback sequencer.clients))) (Function.update_same ..) ht
    (by simp [HandlerPC.next, hA]) rfl ?_
  simp only [Function.update_idem]
  exact .nil _

/-- The program has ended: no step follows. -/
theorem not_fineStep_of_terminated {w w' : World} {fl : FineLabel} (ht : w.terminated = true) :
    ¬FineStep senderPort w fl w' := by
  intro hst
  cases hst <;> simp_all

/--
A thread that has just called the handler and takes its steps with nothing in between, the
sequencer answering each as `sequencer`, hands `snd_seq_connect_from` the requests of one run
of `defaultConnectionsHandler` through the session `g_sequencerHandle` holds, ends the program
exactly when that run throws, and otherwise goes back to `sleep_for`.
-/
theorem handler_runs_alone {w : World} {i : Nat} (sequencer : Sequencer)
    (hi : w.handlerAt i = some .connectTo) (ht : w.terminated = false) :
    let run := (defaultConnectionsHandler senderPort sequencer w.process.portId
      w.process.connectTo).run.run []
    ∃ n w', FineRun senderPort w (List.replicate n (.inner i sequencer)) w' ∧
      w'.handlerAt i = none ∧ w'.process = w.process.setMonitor i .sleeping ∧
      w'.sent = w.sent ++ run.2.map (SentRequest.mk w.process.sequencerHandle) ∧
      w'.terminated = !run.1.isOk := by
  by_cases hA : w.process.connectTo = []
  · refine ⟨1, _, .cons (.inner _ sequencer hi ht) (.nil _), ?_⟩
    simp [HandlerPC.next, HandlerPC.sends, HandlerPC.isConnect, hA, defaultConnectionsHandler]
  by_cases hB : w.process.portId = nullId
  · refine ⟨2, _, .cons (.inner _ sequencer hi ht) <|
      .cons (.inner .portId sequencer (by simp [HandlerPC.next, hA]) rfl) (.nil _), ?_⟩
    simp [HandlerPC.next, HandlerPC.sends, HandlerPC.isConnect, hA, hB, defaultConnectionsHandler]
  by_cases hC : sequencer.subscribers = []
  · refine ⟨5, _, (fineRun_to_connect sequencer hi ht hA hB hC).append
      (.cons (.inner _ sequencer (Function.update_same _ _ _) ht) (.nil _)), ?_⟩
    simp [HandlerPC.next, HandlerPC.sends, HandlerPC.isConnect, defaultConnectionsHandler,
      receiverPortGetConnectionsInternal, tryToConnect, hA, hB, hC]
    split_ifs with h
    · exact ⟨rfl, h.trans rfl⟩
    · exact ⟨rfl, (Bool.eq_false_iff.mpr h).trans rfl⟩
  · refine ⟨3, _, .cons (.inner _ sequencer hi ht) <|
      .cons (.inner .portId sequencer (by simp [HandlerPC.next, hA]) rfl) <|
      .cons (.inner .connections sequencer (by simp [HandlerPC.next, hA, hB]) rfl) (.nil _), ?_⟩
    simp [HandlerPC.next, HandlerPC.sends, HandlerPC.isConnect, receiverPortGetConnectionsInternal,
      hA, hB, hC, defaultConnectionsHandler]

theorem handler_runs_alone_out :
    let w : World := ⟨{ Process.init with
      portId := CInt.zero, sequencerHandle := some 0, connectTo := ascii "out" },
      fun _ => some .connectTo, [], false⟩
    let run := (defaultConnectionsHandler (sndSeqPortCapRead ||| sndSeqPortCapSubsRead)
      synthSequencer w.process.portId w.process.connectTo).run.run []
    w.handlerAt 0 = some .connectTo ∧ w.terminated = false ∧
      ∃ n w', FineRun (sndSeqPortCapRead ||| sndSeqPortCapSubsRead) w
          (List.replicate n (.inner 0 synthSequencer)) w' ∧
        w'.handlerAt 0 = none ∧ w'.process = w.process.setMonitor 0 .sleeping ∧
        w'.sent = w.sent ++ run.2.map (SentRequest.mk w.process.sequencerHandle) ∧
        w'.terminated = !run.1.isOk :=
  ⟨rfl, rfl, handler_runs_alone synthSequencer rfl rfl⟩

/-! ## Runs to `snd_seq_connect_from` -/

/-- Open a client, create the receiver port with target `connectTo`, activate, and let monitor
thread 0 call the handler. -/
def enterLabels (connectTo : List UInt8) : List FineLabel :=
  [.step (.call (.open (ascii "a2j") openAsClient128)),
    .step (.call (.newReceiverPort (ascii "in") connectTo CInt.zero)),
    .step (.call (.activate true true)), .step (.read 0 true), .enter 0]

/--
Open a client, create the receiver port with target `out`, activate, and let monitor thread 0
call the handler and take its steps, with the sequencer of `Synth`, up to
`snd_seq_connect_from`.
-/
def connectLabels : List FineLabel :=
  enterLabels (ascii "out") ++ List.replicate 4 (.inner 0 synthSequencer)

/-- The run of `enterLabels` and its last world. -/
theorem fineRun_enterLabels (senderPort : PortCaps) (connectTo : List UInt8) :
    ∃ w, FineRun senderPort World.init (enterLabels connectTo) w ∧ w.terminated = false ∧
      w.sent = [] ∧ w.process.stateFlag = .running ∧ w.process.portId = CInt.zero ∧
      w.process.sequencerHandle = some 0 ∧ w.process.connectTo = connectTo ∧
      w.handlerAt 0 = some .connectTo :=
  ⟨_, .cons (.step (.call _ _) trivial rfl) <| .cons (.step (.call _ _) trivial rfl) <|
    .cons (.step (.call _ _) trivial rfl) <| .cons (.step (.read rfl) trivial rfl) <|
    .cons (.enter rfl rfl rfl) (.nil _), rfl, rfl, rfl, rfl, rfl, rfl, rfl⟩

theorem fineRun_connectLabels (senderPort : PortCaps) :
    ∃ w, FineRun senderPort World.init connectLabels w ∧ w.terminated = false ∧ w.sent = [] ∧
      w.process.stateFlag = .running ∧ w.process.portId = CInt.zero ∧
      w.process.sequencerHandle = some 0 ∧
      w.handlerAt 0 = some (.connect (Id.run (findPort (toProfile senderPort (ascii "out"))
        matchCallback synthSequencer.clients))) :=
  have ⟨_, hrun, ht, hs, hflag, hp, hseq, htarget, hi⟩ :=
    fineRun_enterLabels senderPort (ascii "out")
  ⟨_, hrun.append (fineRun_to_connect synthSequencer hi ht (by rw [htarget]; decide)
      (by simp [hp, CInt.ext_iff, nullId, CInt.minusOne, CInt.zero]) rfl),
    ht, hs, hflag, hp, hseq, by simp [htarget]⟩

end A2jMidi
