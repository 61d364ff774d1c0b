import A2jMidi.Failure
import A2jMidi.Handler

/-!
# What the monitor threads send

Properties of every interleaving of the read-by-read model of `defaultConnectionsHandler`:

* In an interleaving without `close`, every request goes to the receiver port through an open
  sequencer session.  A `close` between a thread's test of `g_portId` and its request makes
  it hand a released session and `NULL_ID` to `snd_seq_connect_from`.
* With an empty connection target nothing is ever sent.
* A target that no port matches is still sent, from `NULL_PORT_ID`; the sequencer refuses
  it, and the exception ends the program instead of the thread's next tick.
-/

namespace A2jMidi

variable {senderPort : PortCaps}

/-! ## Requests go to the live receiver port while the client stays open -/

theorem portId_step (c : Call) (s : Process) :
    (c.step s).2.portId = (c.controlStep s.control).2.portId :=
  congrArg Control.portId (step_control c s)

/--
While a receiver port exists, a call other than `close` keeps it and the handles: `open` is
refused in a client that is not closed, and `newReceiverPort` while a port exists.
-/
theorem step_keeps_port {c : Call} (hc : c.isClose = false) {s : Process}
    (hp : s.portId ≠ nullId) (hinv : s.control.PortInv) :
    (c.step s).2.portId = s.portId ∧ (c.step s).2.handles = s.handles := by
  have hs : s.stateFlag ≠ .closed := hinv hp
  cases c with
  | «open» name alsa =>
      rw [step_of_refusal (badState_iff.mpr ⟨_, rfl, by simpa using hs, rfl⟩) rfl]
      exact ⟨rfl, rfl⟩
  | newReceiverPort name connectTo createPort =>
      have hrefused : ∃ e, (Call.step (.newReceiverPort name connectTo createPort) s).1 =
          .error e ∧ e.isRefusal := by
        by_cases hi : s.stateFlag = .idle
        · exact ⟨.server (ascii "Cannot create more that one port."), by simp [hi, hp], rfl⟩
        · exact ⟨_, badState_iff.mpr ⟨_, rfl, by simpa using hi, rfl⟩, rfl⟩
      obtain ⟨e, he, hr⟩ := hrefused
      rw [step_of_refusal he hr]
      exact ⟨rfl, rfl⟩
  | close => exact absurd hc (by decide)
  | activate | stop | retrieve | receiverPortGetConnections | clientName | portName | state
  | onMonitorConnections =>
      rw [portId_step, handles_step]
      simp only [Call.controlStep, Call.handlesStep]
      (try split_ifs) <;> simp [Process.control]

/--
The handles the globals hold are open, a receiver port lives in an open client, a thread past
its test of `g_portId` finds a receiver port, and every request sent so far went to the
receiver port there is, through the session the globals hold.
-/
structure World.Live (w : World) : Prop where
  held : w.process.handles.Held w.process.stateFlag
  port : w.process.control.PortInv
  tested : ∀ i pc, w.handlerAt i = some pc → pc.tested → w.process.portId ≠ nullId
  sent : ∀ r ∈ w.sent, r = ⟨w.process.sequencerHandle, ⟨w.process.portId, r.request.source⟩⟩ ∧
    w.process.portId ≠ nullId

theorem HandlerPC.tested_next {pc pc' : HandlerPC} {sequencer : Sequencer} {s : Process}
    (h : pc.next senderPort sequencer s = some pc') (ht : pc'.tested) :
    pc.tested ∨ s.portId ≠ nullId := by
  cases pc with
  | connectTo =>
      simp only [HandlerPC.next] at h
      split_ifs at h
      cases h
      exact absurd ht (by decide)
  | portId =>
      simp only [HandlerPC.next] at h
      split_ifs at h with hp
      cases h
      exact .inr (by simpa using hp)
  | connections | resolve => exact .inl rfl
  | connect _ => cases h

theorem tested_update {f : Nat → Option HandlerPC} {i : Nat} {x : Option HandlerPC} {p : Prop}
    (hf : ∀ j pc, f j = some pc → pc.tested → p) (hx : ∀ pc, x = some pc → pc.tested → p) :
    ∀ j pc, Function.update f i x j = some pc → pc.tested → p := by
  intro j pc hj
  rw [Function.update_apply] at hj
  split_ifs at hj
  exacts [hx pc hj, hf j pc hj]

/-- A step that leaves the globals as they were keeps `World.Live`. -/
theorem World.Live.frame {w w' : World} (h : w.Live) (hp : w'.process.portId = w.process.portId)
    (hh : w'.process.handles = w.process.handles)
    (hs : w'.process.stateFlag = w.process.stateFlag)
    (htested : ∀ i pc, w'.handlerAt i = some pc → pc.tested → w.process.portId ≠ nullId)
    (hsent : ∀ r ∈ w'.sent, r = ⟨w.process.sequencerHandle, ⟨w.process.portId, r.request.source⟩⟩ ∧
      w.process.portId ≠ nullId) : w'.Live := by
  have hseq : w'.process.sequencerHandle = w.process.sequencerHandle :=
    congrArg Handles.sequencerHandle hh
  refine ⟨?_, ?_, ?_, ?_⟩
  · rw [hh, hs]; exact h.held
  · show w'.process.portId ≠ nullId → w'.process.stateFlag ≠ .closed
    rw [hp, hs]; exact h.port
  · rw [hp]; exact htested
  · rw [hp, hseq]; exact hsent

theorem live_call {w : World} {c : Call} (hc : c.isClose = false) (h : w.Live) :
    ({ w with process := (c.step w.process).2 } : World).Live := by
  refine ⟨step_held c h.held, ?_, fun i pc hi ht => ?_, fun r hr => ?_⟩
  · rw [step_control]; exact controlStep_portInv c h.port
  · have hp := h.tested i pc hi ht
    rw [(step_keeps_port hc hp h.port).1]; exact hp
  · obtain ⟨hr, hp⟩ := h.sent r hr
    obtain ⟨hport, hhandles⟩ := step_keeps_port hc hp h.port
    have hseq : (c.step w.process).2.sequencerHandle = w.process.sequencerHandle :=
      congrArg Handles.sequencerHandle hhandles
    exact ⟨hr.trans (by simp only [hseq, hport]), fun he => hp (hport.symm.trans he)⟩

theorem live_advance {w : World} {i : Nat} {pc : HandlerPC} {sequencer : Sequencer}
    (hi : w.handlerAt i = some pc) (h : w.Live) : (w.advance senderPort sequencer i pc).Live := by
  have hglobals : (w.advance senderPort sequencer i pc).process.portId = w.process.portId ∧
      (w.advance senderPort sequencer i pc).process.handles = w.process.handles ∧
      (w.advance senderPort sequencer i pc).process.stateFlag = w.process.stateFlag := by
    rw [advance_process]; split <;> exact ⟨rfl, rfl, rfl⟩
  have hsends : ∀ r ∈ pc.sends w.process,
      r = ⟨w.process.sequencerHandle, ⟨w.process.portId, r.request.source⟩⟩ ∧
        w.process.portId ≠ nullId := by
    cases pc with
    | connect target =>
        simp only [HandlerPC.sends, List.mem_singleton]
        rintro r rfl
        exact ⟨rfl, h.tested i _ hi rfl⟩
    | _ => simp [HandlerPC.sends]
  refine h.frame hglobals.1 hglobals.2.1 hglobals.2.2
    (tested_update h.tested fun pc' hn ht => ?_) ?_
  · exact (HandlerPC.tested_next hn ht).elim (h.tested i pc hi) id
  · simpa only [advance_sent, List.mem_append] using fun r hr => hr.elim (h.sent r) (hsends r)

theorem fineStep_live {w w' : World} {fl : FineLabel} (hst : FineStep senderPort w fl w')
    (hc : fl ≠ .step (.call .close)) (h : w.Live) : w'.Live := by
  cases hst with
  | step hs _ _ =>
      cases hs with
      | call c _ => exact live_call (by cases c <;> first | rfl | exact absurd rfl hc) h
      | read _ | begin _ _ | skip _ _ | finish _ | wake _ | push _ _ =>
          exact h.frame rfl rfl rfl h.tested h.sent
  | enter _ _ _ =>
      exact h.frame rfl rfl rfl (tested_update h.tested fun _ hx ht => by
        cases hx; exact absurd ht (by decide)) h.sent
  | inner _ _ hi _ => exact live_advance hi h

theorem init_live : World.init.Live :=
  ⟨init_held, fun h => absurd rfl h, fun _ _ h => (nomatch h), fun _ h => (nomatch h)⟩

/--
In every interleaving from the initial world in which `close` is never called, every request
a thread inside `defaultConnectionsHandler` hands to `snd_seq_connect_from` goes to the
receiver port the client has, through the sequencer session the globals hold, and that session
is open in the library.
-/
theorem fineRun_requests_live {fls : List FineLabel} {w : World}
    (hrun : FineRun senderPort World.init fls w) (hclose : FineLabel.step (.call .close) ∉ fls) :
    ∀ r ∈ w.sent, r.session = w.process.sequencerHandle ∧ r.request.dest = w.process.portId ∧
      w.process.portId ≠ nullId ∧
        ∃ h ∈ w.process.sequencerHandle, h ∈ w.process.openSequencers := by
  have h : w.Live := hrun.invariant (Q := (· ≠ .step (.call .close))) fineStep_live
    (fun _ hfl he => hclose (he ▸ hfl)) init_live
  intro r hr
  obtain ⟨hr, hp⟩ := h.sent r hr
  obtain ⟨x, hx⟩ := Option.isSome_iff_exists.mp (h.held.held (h.port hp)).1
  rw [hr]
  exact ⟨rfl, rfl, hp, x, hx, h.held.sequencer_open x hx⟩

theorem fineRun_requests_live_connect :
    ∃ w, FineRun (sndSeqPortCapRead ||| sndSeqPortCapSubsRead) World.init
        (connectLabels ++ [.inner 0 synthSequencer]) w ∧ w.sent ≠ [] ∧
      FineLabel.step (.call .close) ∉ connectLabels ++ [.inner 0 synthSequencer] ∧
      ∀ r ∈ w.sent, r.session = w.process.sequencerHandle ∧ r.request.dest = w.process.portId ∧
        w.process.portId ≠ nullId ∧
          ∃ h ∈ w.process.sequencerHandle, h ∈ w.process.openSequencers :=
  have ⟨_, hrun, ht, hs, _, _, _, hc⟩ := fineRun_connectLabels _
  have hrun := hrun.append (.cons (.inner _ synthSequencer hc ht) (.nil _))
  have hclose : FineLabel.step (.call .close) ∉ connectLabels ++ [.inner 0 synthSequencer] := by
    simp [connectLabels, enterLabels]
  ⟨_, hrun, by simp [hs, HandlerPC.sends], hclose, fineRun_requests_live hrun hclose⟩

/--
A `close` after monitor thread 0 has resolved its target and before its
`snd_seq_connect_from`: the thread hands the library the sequencer session `close` released,
and `NULL_ID` as the receiver port.
-/
theorem handler_sends_after_close :
    ∃ w, FineRun (sndSeqPortCapRead ||| sndSeqPortCapSubsRead) World.init
        (connectLabels ++ [.step (.call .close), .inner 0 synthSequencer]) w ∧
      w.process.stateFlag = .closed ∧
        w.sent = [⟨none, ⟨nullId, ⟨⟨20, by decide⟩, CInt.zero⟩⟩⟩] := by
  obtain ⟨w, hrun, ht, hs, hflag, -, -, hc⟩ := fineRun_connectLabels
    (sndSeqPortCapRead ||| sndSeqPortCapSubsRead)
  have htarget : Id.run (findPort (toProfile (sndSeqPortCapRead ||| sndSeqPortCapSubsRead)
      (ascii "out")) matchCallback synthSequencer.clients) = ⟨⟨20, by decide⟩, CInt.zero⟩ := by
    decide
  refine ⟨_, hrun.append (.cons (.step (.call .close _) trivial ht) <|
    .cons (.inner _ synthSequencer hc ht) (.nil _)), ?_, ?_⟩
  · simp [hflag, HandlerPC.next, Process.setMonitor]
  · simp [HandlerPC.sends, hs, hflag, htarget]

/-! ## A target no port matches -/

/--
A target that no port matches, while nothing is connected to the receiver port: `tryToConnect`
only logs it and still sends a request, from `NULL_PORT_ID`, which the sequencer refuses; the
`std::runtime_error` leaves `defaultConnectionsHandler` and `monitorLoop` and ends the program,
so monitor thread 0 never comes to its next tick.
-/
theorem unresolved_target_ends_program :
    (defaultConnectionsHandler (sndSeqPortCapRead ||| sndSeqPortCapSubsRead)
        ⟨[], [], CInt.minusOne⟩ CInt.zero (ascii "synth")).run.run [] =
      (.error (.runtime (ascii "ALSA cannot connect to port [synth]")),
        [⟨CInt.zero, nullPortId⟩]) ∧
    ∃ w, FineRun (sndSeqPortCapRead ||| sndSeqPortCapSubsRead) World.init
        (enterLabels (ascii "synth") ++ List.replicate 5 (.inner 0 ⟨[], [], CInt.minusOne⟩)) w ∧
      w.sent = [⟨some 0, ⟨CInt.zero, nullPortId⟩⟩] ∧ w.terminated = true ∧
      ∀ fl w', ¬FineStep (sndSeqPortCapRead ||| sndSeqPortCapSubsRead) w fl w' := by
  refine ⟨unresolved_target_request _, ?_⟩
  obtain ⟨w, hrun, ht, hs, -, hp, hseq, htarget, hi⟩ :=
    fineRun_enterLabels (sndSeqPortCapRead ||| sndSeqPortCapSubsRead) (ascii "synth")
  have hfind : Id.run (findPort (toProfile (sndSeqPortCapRead ||| sndSeqPortCapSubsRead)
      (ascii "synth")) matchCallback []) = nullPortId := by
    decide
  refine ⟨_, hrun.append <| (fineRun_to_connect _ hi ht (by rw [htarget]; decide)
    (by rw [hp]; decide) rfl).append (.cons (.inner _ _ rfl ht) (.nil _)),
    ?_, ?_, fun _ _ => not_fineStep_of_terminated ?_⟩
  · simp [HandlerPC.sends, hs, hseq, hp, htarget, hfind]
  all_goals rfl

/-! ## No target, no request -/

/-- The connection target a call hands over: `newReceiverPort` stores it in `g_connectTo`. -/
def Call.target : Call → Option (List UInt8)
  | .newReceiverPort _ connectTo _ => some connectTo
  | _ => none

/-- Only a `newReceiverPort` that returns normally writes `g_connectTo`. -/
theorem connectTo_step (c : Call) (s : Process) :
    (c.step s).2.connectTo =
      if (c.controlStep s.control).1 then c.target.getD s.connectTo else s.connectTo := by
  cases c <;> simp [Call.controlStep, Call.target, Process.control] <;> split_ifs <;> simp_all

/-- `g_connectTo` is empty, no thread got past its test, and nothing was sent. -/
structure World.Untargeted (w : World) : Prop where
  target : w.process.connectTo = []
  entered : ∀ i pc, w.handlerAt i = some pc → pc = .connectTo
  sent : w.sent = []

theorem fineStep_untargeted {w w' : World} {fl : FineLabel} (hst : FineStep senderPort w fl w')
    (hc : ∀ c, fl = .step (.call c) → ∀ t ∈ c.target, t = []) (h : w.Untargeted) :
    w'.Untargeted := by
  obtain ⟨htarget, hentered, hsent⟩ := h
  cases hst with
  | step hs _ _ =>
      cases hs with
      | call c _ =>
          refine ⟨?_, hentered, hsent⟩
          rw [connectTo_step]
          cases ht : c.target with
          | none => split_ifs <;> simp [htarget]
          | some t => split_ifs <;> simp [htarget, hc c rfl t ht]
      | read _ | begin _ _ | skip _ _ | finish _ | wake _ | push _ _ =>
          exact ⟨htarget, hentered, hsent⟩
  | enter _ _ _ =>
      refine ⟨htarget, fun j pc hj => ?_, hsent⟩
      simp only [Function.update_apply] at hj
      split_ifs at hj
      exacts [(Option.some_injective _ hj).symm, hentered j pc hj]
  | @inner i pc sequencer hi _ =>
      obtain rfl := hentered i pc hi
      have hn : HandlerPC.connectTo.next senderPort sequencer w.process = none := by
        simp [HandlerPC.next, htarget]
      refine ⟨by simp [hn, htarget, Process.setMonitor], fun j pc' hj => ?_, by
        simp [HandlerPC.sends, hsent]⟩
      simp only [World.advance, hn, Function.update_apply] at hj
      split_ifs at hj
      exact hentered j pc' hj

/--
In every interleaving from the initial world in which each `newReceiverPort` registers an
empty connection target, no monitor thread gets past the handler's test of `g_connectTo`, and
the handler never hands a request to `snd_seq_connect_from`, however many ticks run.
-/
theorem fineRun_untargeted_silent {fls : List FineLabel} {w : World}
    (hrun : FineRun senderPort World.init fls w)
    (htarget : ∀ c, FineLabel.step (.call c) ∈ fls → ∀ t ∈ c.target, t = []) :
    w.sent = [] ∧ ∀ i pc, w.handlerAt i = some pc → pc = .connectTo := by
  have hw : w.Untargeted := hrun.invariant fineStep_untargeted
    (fun _ hfl c he => htarget c (he ▸ hfl)) ⟨rfl, fun _ _ h => (nomatch h), rfl⟩
  exact ⟨hw.sent, hw.entered⟩

theorem fineRun_untargeted_silent_tick :
    let labels : List FineLabel :=
      [.step (.call (.open (ascii "a2j") openAsClient128)),
        .step (.call (.newReceiverPort (ascii "in") [] CInt.zero)),
        .step (.call (.activate true true)), .step (.read 0 true), .enter 0,
        .inner 0 synthSequencer]
    ∃ w, FineRun (sndSeqPortCapRead ||| sndSeqPortCapSubsRead) World.init labels w ∧
      (∀ c, FineLabel.step (.call c) ∈ labels → ∀ t ∈ c.target, t = []) ∧
      w.sent = [] ∧ ∀ i pc, w.handlerAt i = some pc → pc = .connectTo := by
  intro labels
  have htarget : ∀ c, FineLabel.step (.call c) ∈ labels → ∀ t ∈ c.target, t = [] := by
    intro c hc t ht
    simp only [labels, List.mem_cons, FineLabel.step.injEq, Label.call.injEq, reduceCtorEq,
      List.not_mem_nil, or_false, false_or] at hc
    rcases hc with rfl | rfl | rfl <;> simp_all [Call.target]
  have hrun : FineRun (sndSeqPortCapRead ||| sndSeqPortCapSubsRead) World.init labels _ :=
    .cons (.step (.call _ _) trivial rfl) <| .cons (.step (.call _ _) trivial rfl) <|
    .cons (.step (.call _ _) trivial rfl) <| .cons (.step (.read rfl) trivial rfl) <|
    .cons (.enter rfl rfl rfl) <| .cons (.inner _ synthSequencer rfl rfl) (.nil _)
  exact ⟨_, hrun, htarget, fineRun_untargeted_silent hrun htarget⟩

end A2jMidi
