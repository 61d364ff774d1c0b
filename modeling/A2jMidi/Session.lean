import A2jMidi.Connect
import A2jMidi.Retrieve

/-!
# The session: the public operations of `alsaClient`

The globals of `alsa_client.cpp`, the handles the ALSA library holds open, the receiver
queue and the monitor threads form one `Process`.  Each public operation is a computation in
`ExceptT Exception (StateM Process)`: as in C++, what an operation changed before it throws
stays changed.  What the ALSA library answers to each call an operation makes is a
parameter of the operation, so that every outcome of every call is covered.  One lemma per
operation (`Call.step_open`, ...) gives the whole effect of a call on the process; the later
modules read the operations through these lemmas only.
-/

namespace A2jMidi

/--
`OnMonitorConnectionsHandler`: an empty `std::function`, `defaultConnectionsHandler`, or
any other handler a caller registers.
-/
inductive Handler where
  | none
  | default
  | custom (id : Nat)
  deriving DecidableEq

/-- Where a monitor thread is in `monitorLoop`. -/
inductive Monitor where
  /-- At `while (g_monitoringActive)`. -/
  | check
  /-- Read the flag as true; at `if (g_onMonitorConnectionsHandler)`. -/
  | invoke
  /-- Inside the call of the handler. -/
  | inHandler
  /-- In `sleep_for(MONITOR_INTERVAL)`. -/
  | sleeping
  /-- Read the flag as false and left the loop. -/
  | done
  deriving DecidableEq

/--
The globals of `alsa_client.cpp`, the handles open in the ALSA library, the events waiting in
the receiver queue with their capture times, and the monitor threads.
-/
structure Process where
  portId : CInt
  sequencerHandle : Option Nat
  midiEventParserHandle : Option Nat
  clientId : CInt
  stateFlag : State
  connectTo : List UInt8
  onMonitorConnectionsHandler : Handler
  monitoringActive : Bool
  openSequencers : List Nat
  openParsers : List Nat
  nextHandle : Nat
  queue : List (Decoded × TimePoint)
  monitors : List Monitor

/-- The process before any call: the static initializers of `alsa_client.cpp`. -/
def Process.init : Process where
  portId := nullId
  sequencerHandle := none
  midiEventParserHandle := none
  clientId := nullId
  stateFlag := .closed
  connectTo := []
  onMonitorConnectionsHandler := .none
  monitoringActive := false
  openSequencers := []
  openParsers := []
  nextHandle := 0
  queue := []
  monitors := []

abbrev ClientM := ExceptT Exception (StateM Process)

namespace ClientM

variable {α β : Type} {s : Process}

@[simp]
theorem run_pure (a : α) : (pure a : ClientM α).run.run s = (.ok a, s) := rfl

@[simp]
theorem run_bind (x : ClientM α) (f : α → ClientM β) :
    (x >>= f).run.run s =
      match x.run.run s with
      | (.ok a, s') => (f a).run.run s'
      | (.error e, s') => (.error e, s') := by
  simp only [ExceptT.run_bind, StateT.run_bind]
  rcases x.run.run s with ⟨_ | _, _⟩ <;> rfl

@[simp]
theorem run_get : (get : ClientM Process).run.run s = (.ok s, s) := rfl

@[simp]
theorem run_set (s' : Process) : (set s' : ClientM PUnit).run.run s = (.ok ⟨⟩, s') := rfl

@[simp]
theorem run_modify (f : Process → Process) :
    (modify f : ClientM PUnit).run.run s = (.ok ⟨⟩, f s) := rfl

@[simp]
theorem run_throw (e : Exception) : (throw e : ClientM α).run.run s = (.error e, s) := rfl

@[simp]
theorem run_map (f : α → β) (x : ClientM α) :
    (f <$> x).run.run s =
      match x.run.run s with
      | (.ok a, s') => (.ok (f a), s')
      | (.error e, s') => (.error e, s') := by
  simp only [ExceptT.run_map, StateT.run_map]
  rcases x.run.run s with ⟨_ | _, _⟩ <;> rfl

@[simp]
theorem run_discard (x : ClientM α) :
    (discard x).run.run s =
      match x.run.run s with
      | (.ok _, s') => (.ok ⟨⟩, s')
      | (.error e, s') => (.error e, s') :=
  run_map _ x

@[simp]
theorem run_ite (c : Prop) [Decidable c] (x y : ClientM α) :
    (if c then x else y).run.run s = if c then x.run.run s else y.run.run s := by
  split <;> rfl

end ClientM

/-- `snd_seq_open` succeeded: a new sequencer session is open. -/
def openSequencer : ClientM Nat := do
  let s ← get
  set { s with openSequencers := s.nextHandle :: s.openSequencers, nextHandle := s.nextHandle + 1 }
  pure s.nextHandle

/-- `snd_midi_event_new` succeeded: a new MIDI event parser is open. -/
def openParser : ClientM Nat := do
  let s ← get
  set { s with openParsers := s.nextHandle :: s.openParsers, nextHandle := s.nextHandle + 1 }
  pure s.nextHandle

/-- What the ALSA library answers to the calls `open` makes. -/
structure OpenOutcome where
  seqOpen : CInt
  setClientName : CInt
  eventNew : CInt
  clientId : CInt

/-- What the ALSA library answers to an `open` that succeeds, as client 128. -/
def openAsClient128 : OpenOutcome := ⟨CInt.zero, CInt.zero, CInt.zero, ⟨128, by decide⟩⟩

def «open» (clientName : List UInt8) (alsa : OpenOutcome) : ClientM Unit := do
  let s ← get
  if s.stateFlag != .closed then
    throw (.badState (ascii "Cannot open ALSA client. Wrong state " ++ stateAsString s.stateFlag))
  if alsaError alsa.seqOpen then throw (.runtime (ascii "ALSA cannot open sequencer"))
  let newSequencerHandle ← openSequencer
  if alsaError alsa.setClientName then throw (.runtime (ascii "ALSA cannot set client name."))
  if alsaError alsa.eventNew then throw (.runtime (ascii "ALSA cannot create MIDI parser."))
  let newParserHandle ← openParser
  modify fun s => { s with
    portId := nullId, sequencerHandle := some newSequencerHandle
    midiEventParserHandle := some newParserHandle, clientId := alsa.clientId }
  if alsaError alsa.clientId then throw (.runtime (ascii "ALSA cannot create client"))
  modify fun s => { s with stateFlag := .idle }

def onMonitorConnections (handler : Handler) : ClientM Unit := do
  let s ← get
  if s.stateFlag == .running then
    throw (.badState (ascii "Cannot register an OnMonitorConnectionsHandler. Wrong state " ++
      stateAsString s.stateFlag))
  set { s with onMonitorConnectionsHandler := handler }

/-- `newReceiverPort`; `createPort` is what `snd_seq_create_simple_port` returns. -/
def newReceiverPort (portName connectTo : List UInt8) (createPort : CInt) : ClientM Unit := do
  let s ← get
  if s.stateFlag != .idle then
    throw (.badState (ascii "Cannot create input port. Wrong state " ++ stateAsString s.stateFlag))
  if s.portId != nullId then throw (.server (ascii "Cannot create more that one port."))
  modify fun s => { s with portId := createPort }
  if alsaError createPort then
    modify fun s => { s with portId := nullId }
    throw (.runtime (ascii "ALSA cannot create port"))
  modify fun s => { s with connectTo := connectTo }
  onMonitorConnections .default

/-- `receiverPortGetConnections`; `subscribers` are the subscribers the sequencer has. -/
def receiverPortGetConnections (subscribers : List PortID) : ClientM (List PortID) := do
  let s ← get
  if s.stateFlag == .closed then return []
  if s.portId == nullId then return []
  return receiverPortGetConnectionsInternal subscribers

def stopConnectionMonitoring : ClientM Unit :=
  modify fun s => { s with monitoringActive := false }

/-- `stopInternal`; `receiverQueue::stop` acts on the queue's module only. -/
def stopInternal : ClientM Unit :=
  stopConnectionMonitoring

/-- Free the parser and close the sequencer session; `snd_seq_close`'s error is only logged. -/
def releaseHandles : ClientM Unit :=
  modify fun s => { s with
    openParsers := s.openParsers.filter (some · != s.midiEventParserHandle)
    openSequencers := s.openSequencers.filter (some · != s.sequencerHandle) }

def close : ClientM Unit := do
  let s ← get
  if s.stateFlag == .closed then return
  stopInternal
  releaseHandles
  modify fun s => { s with
    portId := nullId, sequencerHandle := none, midiEventParserHandle := none
    clientId := nullId, stateFlag := .closed }

/-- `clientName`; `info` is the name `snd_seq_get_client_info` reports, if it succeeds. -/
def clientName (info : Option (List UInt8)) : ClientM (List UInt8) := do
  let s ← get
  if s.stateFlag == .closed then return []
  return info.getD []

/-- `portName`; `info` is the name `snd_seq_get_port_info` reports, if it succeeds. -/
def portName (info : Option (List UInt8)) : ClientM (List UInt8) := do
  let s ← get
  if s.stateFlag == .closed then return []
  if s.portId == nullId then return []
  return info.getD []

def state : ClientM State := do
  let s ← get
  return s.stateFlag

/-- `activateConnectionMonitoring`; `threadStarts` is whether `std::thread` starts the thread. -/
def activateConnectionMonitoring (threadStarts : Bool) : ClientM Unit := do
  modify fun s => { s with monitoringActive := true }
  if !threadStarts then throw .system
  modify fun s => { s with monitors := s.monitors ++ [.check] }

/-- `activateInternal`; `queueStarts` is whether `receiverQueue::start` returns normally. -/
def activateInternal (threadStarts queueStarts : Bool) : ClientM Unit := do
  activateConnectionMonitoring threadStarts
  if !queueStarts then throw .receiverQueue

def activate (threadStarts queueStarts : Bool) : ClientM Unit := do
  let s ← get
  if s.stateFlag != .idle then
    throw (.badState (ascii "Cannot create activate. Wrong state " ++ stateAsString s.stateFlag))
  activateInternal threadStarts queueStarts
  modify fun s => { s with stateFlag := .running }

def stop : ClientM Unit := do
  let s ← get
  if s.stateFlag != .running then return
  stopInternal
  modify fun s => { s with stateFlag := .idle }

/--
The public `retrieve`, with a callback without effects of its own: past the state check,
`receiverQueue::process` drains the events captured up to `deadline` and applies the closure
to them; outside `running` the queue is not touched.
-/
def retrieveCall (deadline : TimePoint) (forEachClosure : List UInt8 → TimePoint → CInt) :
    ClientM CInt := do
  let s ← get
  let (drained, rest) :=
    if s.stateFlag = .running then drainUpTo deadline s.queue else ([], s.queue)
  set { s with queue := rest }
  return Id.run (retrieve s.stateFlag drained fun e t => pure (forEachClosure e t))

/-- One call of a public operation, with what the ALSA library answers to it. -/
inductive Call where
  | «open» (clientName : List UInt8) (alsa : OpenOutcome)
  | newReceiverPort (portName connectTo : List UInt8) (createPort : CInt)
  | activate (threadStarts queueStarts : Bool)
  | stop
  | close
  | retrieve (deadline : TimePoint) (forEachClosure : List UInt8 → TimePoint → CInt)
  | receiverPortGetConnections (subscribers : List PortID)
  | clientName (info : Option (List UInt8))
  | portName (info : Option (List UInt8))
  | state
  | onMonitorConnections (handler : Handler)

def Call.exec : Call → ClientM Unit
  | .open name alsa => A2jMidi.open name alsa
  | .newReceiverPort name connectTo createPort =>
      A2jMidi.newReceiverPort name connectTo createPort
  | .activate threadStarts queueStarts => A2jMidi.activate threadStarts queueStarts
  | .stop => A2jMidi.stop
  | .close => A2jMidi.close
  | .retrieve deadline forEachClosure => discard (retrieveCall deadline forEachClosure)
  | .receiverPortGetConnections subscribers =>
      discard (A2jMidi.receiverPortGetConnections subscribers)
  | .clientName info => discard (A2jMidi.clientName info)
  | .portName info => discard (A2jMidi.portName info)
  | .state => discard A2jMidi.state
  | .onMonitorConnections handler => A2jMidi.onMonitorConnections handler

/-- One call from a process: whether it returned normally or threw, and the process after it. -/
def Call.step (c : Call) (s : Process) : Except Exception Unit × Process :=
  c.exec.run.run s

/-! ## What each call does -/

/--
`open` is refused outside `closed`; past `snd_seq_open` each failure keeps what was done
before it: the session opened, then the parser and the globals holding both.
-/
@[simp]
theorem Call.step_open (name : List UInt8) (alsa : OpenOutcome) (s : Process) :
    Call.step (.open name alsa) s =
      let opened := { s with
        openSequencers := s.nextHandle :: s.openSequencers, nextHandle := s.nextHandle + 1 }
      let held := { opened with
        openParsers := (s.nextHandle + 1) :: s.openParsers, nextHandle := s.nextHandle + 2
        portId := nullId, sequencerHandle := some s.nextHandle
        midiEventParserHandle := some (s.nextHandle + 1), clientId := alsa.clientId }
      if s.stateFlag ≠ .closed then
        (.error (.badState (ascii "Cannot open ALSA client. Wrong state " ++
          stateAsString s.stateFlag)), s)
      else if alsaError alsa.seqOpen then
        (.error (.runtime (ascii "ALSA cannot open sequencer")), s)
      else if alsaError alsa.setClientName then
        (.error (.runtime (ascii "ALSA cannot set client name.")), opened)
      else if alsaError alsa.eventNew then
        (.error (.runtime (ascii "ALSA cannot create MIDI parser.")), opened)
      else if alsaError alsa.clientId then
        (.error (.runtime (ascii "ALSA cannot create client")), held)
      else (.ok (), { held with stateFlag := .idle }) := by
  simp only [Call.step, Call.exec, A2jMidi.open, openSequencer, openParser]
  by_cases h : s.stateFlag = .closed <;> simp [h]

/--
`newReceiverPort` is refused outside `idle` and while a port exists; a port the library
refuses leaves the process as it was; otherwise the port, the target and the default handler
are set.
-/
@[simp]
theorem Call.step_newReceiverPort (portName connectTo : List UInt8) (createPort : CInt)
    (s : Process) :
    Call.step (.newReceiverPort portName connectTo createPort) s =
      if s.stateFlag ≠ .idle then
        (.error (.badState (ascii "Cannot create input port. Wrong state " ++
          stateAsString s.stateFlag)), s)
      else if s.portId ≠ nullId then
        (.error (.server (ascii "Cannot create more that one port.")), s)
      else if alsaError createPort then (.error (.runtime (ascii "ALSA cannot create port")), s)
      else (.ok (), { s with portId := createPort, connectTo := connectTo,
                             onMonitorConnectionsHandler := .default }) := by
  by_cases hs : s.stateFlag = .idle <;> by_cases hp : s.portId = nullId <;>
    simp [Call.step, Call.exec, A2jMidi.newReceiverPort, onMonitorConnections, hs, hp]
  split_ifs
  · rw [← hp, ← hs]
  · rfl

/--
`activate` is refused outside `idle`; it sets the monitoring flag before it starts the thread,
and the thread runs on when `receiverQueue::start` throws.
-/
@[simp]
theorem Call.step_activate (threadStarts queueStarts : Bool) (s : Process) :
    Call.step (.activate threadStarts queueStarts) s =
      let flagged := { s with monitoringActive := true }
      let started := { flagged with monitors := s.monitors ++ [.check] }
      if s.stateFlag ≠ .idle then
        (.error (.badState (ascii "Cannot create activate. Wrong state " ++
          stateAsString s.stateFlag)), s)
      else if threadStarts = false then (.error .system, flagged)
      else if queueStarts = false then (.error .receiverQueue, started)
      else (.ok (), { started with stateFlag := .running }) := by
  simp only [Call.step, Call.exec, A2jMidi.activate, activateInternal,
    activateConnectionMonitoring]
  by_cases hs : s.stateFlag = .idle <;> cases threadStarts <;> cases queueStarts <;> simp [hs]

@[simp]
theorem Call.step_stop (s : Process) :
    Call.stop.step s = (.ok (), if s.stateFlag = .running then
      { s with monitoringActive := false, stateFlag := .idle } else s) := by
  by_cases hs : s.stateFlag = .running <;>
    simp [Call.step, Call.exec, A2jMidi.stop, stopInternal, stopConnectionMonitoring, hs]

@[simp]
theorem Call.step_close (s : Process) :
    Call.close.step s = (.ok (), if s.stateFlag = .closed then s else { s with
      monitoringActive := false
      openParsers := s.openParsers.filter (some · != s.midiEventParserHandle)
      openSequencers := s.openSequencers.filter (some · != s.sequencerHandle)
      portId := nullId, sequencerHandle := none, midiEventParserHandle := none
      clientId := nullId, stateFlag := .closed }) := by
  by_cases hs : s.stateFlag = .closed <;>
    simp [Call.step, Call.exec, A2jMidi.close, stopInternal, stopConnectionMonitoring,
      releaseHandles, hs]

/-- `close` leaves the client closed, from every state. -/
theorem Call.close_closes (s : Process) : (Call.close.step s).2.stateFlag = .closed := by
  by_cases hs : s.stateFlag = .closed <;> simp [hs]

/--
In `running`, `retrieve` takes the events captured up to the deadline off the queue and returns
what `retrieve` answers for them; outside `running` it returns `-1` and leaves the queue.
-/
theorem retrieveCall_run (deadline : TimePoint) (forEachClosure : List UInt8 → TimePoint → CInt)
    (s : Process) :
    (retrieveCall deadline forEachClosure).run.run s =
      if s.stateFlag = .running then
        (.ok (Id.run (retrieve .running (drainUpTo deadline s.queue).1
            fun e t => pure (forEachClosure e t))),
          { s with queue := (drainUpTo deadline s.queue).2 })
      else (.ok CInt.minusOne, s) := by
  by_cases hs : s.stateFlag = .running
  · simp [retrieveCall, retrieve, Except.map, hs]
  · simp [retrieveCall, retrieve, hs]
    rfl

@[simp]
theorem Call.step_retrieve (deadline : TimePoint) (forEachClosure : List UInt8 → TimePoint → CInt)
    (s : Process) :
    Call.step (.retrieve deadline forEachClosure) s = (.ok (), if s.stateFlag = .running then
      { s with queue := (drainUpTo deadline s.queue).2 } else s) := by
  by_cases hs : s.stateFlag = .running <;> simp [Call.step, Call.exec, retrieveCall_run, hs]

@[simp]
theorem Call.step_receiverPortGetConnections (subscribers : List PortID) (s : Process) :
    Call.step (.receiverPortGetConnections subscribers) s = (.ok (), s) := by
  simp [Call.step, Call.exec, A2jMidi.receiverPortGetConnections]
  split_ifs <;> rfl

@[simp]
theorem Call.step_clientName (info : Option (List UInt8)) (s : Process) :
    Call.step (.clientName info) s = (.ok (), s) := by
  simp [Call.step, Call.exec, A2jMidi.clientName]
  split_ifs <;> rfl

@[simp]
theorem Call.step_portName (info : Option (List UInt8)) (s : Process) :
    Call.step (.portName info) s = (.ok (), s) := by
  simp [Call.step, Call.exec, A2jMidi.portName]
  split_ifs <;> rfl

@[simp]
theorem Call.step_state (s : Process) : Call.state.step s = (.ok (), s) := rfl

/-- `onMonitorConnections` is refused in `running`. -/
@[simp]
theorem Call.step_onMonitorConnections (handler : Handler) (s : Process) :
    Call.step (.onMonitorConnections handler) s =
      if s.stateFlag = .running then
        (.error (.badState (ascii "Cannot register an OnMonitorConnectionsHandler. Wrong state " ++
          stateAsString s.stateFlag)), s)
      else (.ok (), { s with onMonitorConnectionsHandler := handler }) := by
  by_cases hs : s.stateFlag = .running <;>
    simp [Call.step, Call.exec, A2jMidi.onMonitorConnections, hs]

end A2jMidi
