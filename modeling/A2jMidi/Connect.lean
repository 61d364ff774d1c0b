import A2jMidi.Matcher

/-!
# One tick of the default connection handler

`defaultConnectionsHandler` runs on a monitor thread once per tick: with a connection target,
a receiver port and nothing connected to it, it resolves the target with `toProfile` and
`findPort` and asks the sequencer to connect.  `tryToConnect` only logs a target that does
not resolve and still sends the request, with `NULL_PORT_ID` as its source; a request the
sequencer rejects throws `std::runtime_error`, which nothing in `monitorLoop` catches.
-/

namespace A2jMidi

/-- What the sequencer answers to the queries and the request of one run of the handler. -/
structure Sequencer where
  /--
  The subscribers of the receiver port, which `snd_seq_query_port_subscribers` reports one
  index at a time.
  -/
  subscribers : List PortID
  /-- The clients and their ports, as the queries of `findPort` report them. -/
  clients : List ClientInfo
  /-- What `snd_seq_connect_from` returns. -/
  connectFrom : CInt

/-- A `snd_seq_connect_from` request: the receiver port and the sender port. -/
structure ConnectRequest where
  dest : CInt
  source : PortID
  deriving DecidableEq

/-- The handler's effects: the requests it sends, and the exception it may throw. -/
abbrev HandlerM := ExceptT Exception (StateM (List ConnectRequest))

/-- `match`, handed to `findPort` as its callback. -/
def matchCallback : MatchCallback Id :=
  fun caps port clientName portName requested =>
    pure («match» caps port clientName portName requested)

/-! ## The subscriber query of `receiverPortGetConnectionsInternal` -/

/--
The loop of `receiverPortGetConnectionsInternal` at subscription index `index`, with the
ports found so far: `snd_seq_query_port_subscribers` reports the subscriber at an index below
the number of subscribers of the port and fails from there on.
-/
def querySubscribers (subscribers : List PortID) (index : Nat) (result : List PortID) :
    List PortID :=
  if h : index < subscribers.length then
    querySubscribers subscribers (index + 1) (result ++ [subscribers[index]])
  else result
termination_by subscribers.length - index

/-- `receiverPortGetConnectionsInternal`, over the subscribers the sequencer has for the port. -/
def receiverPortGetConnectionsInternal (subscribers : List PortID) : List PortID :=
  querySubscribers subscribers 0 []

@[simp]
theorem querySubscribers_eq (subscribers : List PortID) (index : Nat) (result : List PortID) :
    querySubscribers subscribers index result = result ++ subscribers.drop index := by
  induction index, result using querySubscribers.induct subscribers with
  | case1 index result h ih =>
      rw [querySubscribers, dif_pos h, ih, List.drop_eq_getElem_cons h, List.append_assoc,
        List.singleton_append]
  | case2 index result h =>
      rw [querySubscribers, dif_neg h, List.drop_eq_nil_of_le (Nat.le_of_not_lt h),
        List.append_nil]

/--
`receiverPortGetConnectionsInternal` reports every subscriber of the port, each once and in
the sequencer's index order, and its loop stops at the first index the query fails on.
-/
theorem receiverPortGetConnectionsInternal_eq (subscribers : List PortID) :
    receiverPortGetConnectionsInternal subscribers = subscribers := by
  rw [receiverPortGetConnectionsInternal, querySubscribers_eq, List.nil_append, List.drop_zero]

/-! ## One run of the handler -/

/--
`tryToConnect`; `senderPort` is `SENDER_PORT` of `alsa_util.h`, which is not under `src/`,
and `portId` is `g_portId`.
-/
def tryToConnect (senderPort : PortCaps) (sequencer : Sequencer) (portId : CInt)
    (designation : List UInt8) : HandlerM Unit := do
  if designation.isEmpty then return
  let searchProfile := toProfile senderPort designation
  let target := Id.run (findPort searchProfile matchCallback sequencer.clients)
  modify (· ++ [⟨portId, target⟩])
  if alsaError sequencer.connectFrom then
    throw (.runtime (ascii "ALSA cannot connect to port [" ++ designation ++ ascii "]"))

def defaultConnectionsHandler (senderPort : PortCaps) (sequencer : Sequencer) (portId : CInt)
    (connectTo : List UInt8) : HandlerM Unit := do
  if connectTo.isEmpty then return
  if portId == nullId then return
  let connected := receiverPortGetConnectionsInternal sequencer.subscribers
  if !connected.isEmpty then return
  tryToConnect senderPort sequencer portId connectTo

/--
With an empty target, no receiver port or a port already connected, one run of the handler
sends nothing.  Otherwise it sends exactly one request, from the port `findPort` answers for
the target (`NULL_PORT_ID` included) to the receiver port, and returns normally exactly when
the sequencer accepts it; a rejected request throws, with the target in the message.
-/
theorem defaultConnectionsHandler_requests (senderPort : PortCaps) (sequencer : Sequencer)
    (portId : CInt) (t : List UInt8) :
    (defaultConnectionsHandler senderPort sequencer portId t).run.run [] =
      if t = [] ∨ portId = nullId ∨ sequencer.subscribers ≠ [] then (.ok (), [])
      else
        (if alsaError sequencer.connectFrom then
            .error (.runtime (ascii "ALSA cannot connect to port [" ++ t ++ ascii "]"))
          else .ok (),
          [⟨portId,
            Id.run (findPort (toProfile senderPort t) matchCallback sequencer.clients)⟩]) := by
  by_cases ht : t = [] <;> by_cases hp : portId = nullId <;>
    by_cases hs : sequencer.subscribers = [] <;>
    simp [defaultConnectionsHandler, receiverPortGetConnectionsInternal, tryToConnect, ht, hp, hs]
  split_ifs <;> rfl

/--
A target that no port matches, while the receiver port has no connection: whatever
`SENDER_PORT` is, the handler still sends a request, from `NULL_PORT_ID`, and the
sequencer's refusal leaves the handler as an exception.
-/
theorem unresolved_target_request (senderPort : PortCaps) :
    (defaultConnectionsHandler senderPort ⟨[], [], CInt.minusOne⟩ CInt.zero
        (ascii "synth")).run.run [] =
      (.error (.runtime (ascii "ALSA cannot connect to port [synth]")),
        [⟨CInt.zero, nullPortId⟩]) := by
  have hfind : Id.run (findPort (toProfile senderPort (ascii "synth")) matchCallback []) =
      nullPortId := by
    unfold findPort
    split <;> rfl
  simp only [defaultConnectionsHandler, receiverPortGetConnectionsInternal, querySubscribers_eq,
    tryToConnect, hfind]
  rfl

/-! ## Where the handler's request comes from -/

theorem toProfile_caps (caps : PortCaps) (designation : List UInt8) :
    (toProfile caps designation).caps = caps := by
  unfold toProfile
  split
  · rfl
  · split
    · rfl
    · split <;> rfl

theorem fulfills_of_match {caps : PortCaps} {port : PortID} {clientName portName : List UInt8}
    {requested : PortProfile} (h : «match» caps port clientName portName requested) :
    fulfills caps requested.caps := by
  unfold «match» at h
  by_cases hf : fulfills caps requested.caps
  · exact hf
  · simp [hf] at h

theorem findM?_id {α : Type} (p : α → Bool) (l : List α) :
    l.findM? (m := Id) (fun a => pure (p a)) = l.find? p := by
  induction l with
  | nil => rfl
  | cons a l ih =>
      simp only [List.findM?, List.find?_cons]
      cases p a
      · exact ih
      · rfl

/-- `findPort` with `match`: the first port in query order that `match` accepts. -/
theorem findPort_matchCallback (requested : PortProfile) (clients : List ClientInfo) :
    Id.run (findPort requested matchCallback clients) =
      if requested.hasError then nullPortId
      else (((enumeration clients).find? fun c =>
        «match» c.caps c.port c.clientName c.portName requested).map Candidate.port).getD
          nullPortId := by
  unfold findPort
  split
  · rfl
  · have hask : Candidate.ask matchCallback requested =
        fun c => (pure («match» c.caps c.port c.clientName c.portName requested) : Id Bool) := rfl
    simp only [findPortIn_eq_findM?, hask, findM?_id]
    rfl

/-- The requests of one run of the handler. -/
theorem defaultConnectionsHandler_sent (senderPort : PortCaps) (sequencer : Sequencer)
    (portId : CInt) (t : List UInt8) :
    ((defaultConnectionsHandler senderPort sequencer portId t).run.run []).2 =
      if t = [] ∨ portId = nullId ∨ sequencer.subscribers ≠ [] then []
      else [⟨portId,
        Id.run (findPort (toProfile senderPort t) matchCallback sequencer.clients)⟩] := by
  rw [defaultConnectionsHandler_requests]
  split <;> rfl

/--
Every request a run of the handler sends goes to the receiver port and comes from
`NULL_PORT_ID` or from a port of the sequencer that `match` accepts for the target, which has
every capability of `SENDER_PORT`: the handler never connects a port that cannot be read.
-/
theorem defaultConnectionsHandler_sources (senderPort : PortCaps) (sequencer : Sequencer)
    (portId : CInt) (t : List UInt8) {r : ConnectRequest}
    (hr : r ∈ ((defaultConnectionsHandler senderPort sequencer portId t).run.run []).2) :
    r.dest = portId ∧ (r.source = nullPortId ∨ ∃ c ∈ enumeration sequencer.clients,
      c.port = r.source ∧ fulfills c.caps senderPort ∧
        «match» c.caps c.port c.clientName c.portName (toProfile senderPort t)) := by
  rw [defaultConnectionsHandler_sent] at hr
  split_ifs at hr
  · simp at hr
  · obtain rfl := List.mem_singleton.mp hr
    refine ⟨rfl, ?_⟩
    rw [findPort_matchCallback]
    split
    · exact Or.inl rfl
    · cases hfind : (enumeration sequencer.clients).find? fun c =>
          «match» c.caps c.port c.clientName c.portName (toProfile senderPort t) with
      | none => exact Or.inl rfl
      | some c =>
          have hm := List.find?_some hfind
          refine Or.inr ⟨c, List.mem_of_find?_eq_some hfind, rfl, ?_, hm⟩
          simpa [toProfile_caps] using fulfills_of_match hm

/--
A sequencer with one client, `Synth` (client 20), whose port 0, `out`, can be read and
subscribed to; nothing is connected to the receiver port, and connecting succeeds.
-/
def synthSequencer : Sequencer :=
  ⟨[], [⟨⟨20, by decide⟩, ascii "Synth",
    [⟨CInt.zero, ascii "out", sndSeqPortCapRead ||| sndSeqPortCapSubsRead⟩]⟩], CInt.zero⟩

theorem defaultConnectionsHandler_sources_synth :
    let r : ConnectRequest := ⟨CInt.zero, ⟨⟨20, by decide⟩, CInt.zero⟩⟩
    r ∈ ((defaultConnectionsHandler (sndSeqPortCapRead ||| sndSeqPortCapSubsRead) synthSequencer
        CInt.zero (ascii "out")).run.run []).2 ∧
      r.dest = CInt.zero ∧ (r.source = nullPortId ∨ ∃ c ∈ enumeration synthSequencer.clients,
        c.port = r.source ∧ fulfills c.caps (sndSeqPortCapRead ||| sndSeqPortCapSubsRead) ∧
          «match» c.caps c.port c.clientName c.portName
            (toProfile (sndSeqPortCapRead ||| sndSeqPortCapSubsRead) (ascii "out"))) :=
  have hr : (⟨CInt.zero, ⟨⟨20, by decide⟩, CInt.zero⟩⟩ : ConnectRequest) ∈
      ((defaultConnectionsHandler (sndSeqPortCapRead ||| sndSeqPortCapSubsRead) synthSequencer
        CInt.zero (ascii "out")).run.run []).2 := by
    rw [defaultConnectionsHandler_sent]
    decide
  ⟨hr, defaultConnectionsHandler_sources _ _ _ _ hr⟩

theorem client_of_mem_enumeration {clients : List ClientInfo} {c : Candidate}
    (h : c ∈ enumeration clients) : ∃ client ∈ clients, c.port.client = client.client := by
  obtain ⟨client, hclient, hc⟩ := List.mem_flatMap.mp h
  obtain ⟨info, -, rfl⟩ := List.mem_map.mp hc
  exact ⟨client, hclient, rfl⟩

/--
With a target `toProfile` accepts, a receiver port and nothing connected to it, when some
port of the sequencer matches the target the handler's one request comes from the first such
port in query order, and never from `NULL_PORT_ID`, ALSA's client numbers being
non-negative.
-/
theorem defaultConnectionsHandler_resolves (senderPort : PortCaps) (sequencer : Sequencer)
    (portId : CInt) (t : List UInt8) (ht : (toProfile senderPort t).hasError = false)
    (hp : portId ≠ nullId) (hs : sequencer.subscribers = [])
    (hclients : ∀ client ∈ sequencer.clients, 0 ≤ client.client.val)
    (hmatch : ∃ c ∈ enumeration sequencer.clients,
      «match» c.caps c.port c.clientName c.portName (toProfile senderPort t)) :
    ∃ c, (enumeration sequencer.clients).find? (fun c =>
        «match» c.caps c.port c.clientName c.portName (toProfile senderPort t)) = some c ∧
      ((defaultConnectionsHandler senderPort sequencer portId t).run.run []).2 =
        [⟨portId, c.port⟩] ∧ c.port ≠ nullPortId := by
  have ht' : t ≠ [] := by
    rintro rfl
    simp [toProfile] at ht
  obtain ⟨c, hfind⟩ := Option.isSome_iff_exists.mp (List.find?_isSome.mpr hmatch)
  obtain ⟨client, hclient, hc⟩ := client_of_mem_enumeration (List.mem_of_find?_eq_some hfind)
  refine ⟨c, hfind, ?_, fun hnull => ?_⟩
  · simp [defaultConnectionsHandler_sent, findPort_matchCallback, ht, ht', hp, hs, hfind]
  · have := hclients client hclient
    rw [← hc, hnull] at this
    exact absurd this (by decide)

theorem defaultConnectionsHandler_resolves_synth :
    (toProfile (sndSeqPortCapRead ||| sndSeqPortCapSubsRead) (ascii "out")).hasError = false ∧
      ∃ c, (enumeration synthSequencer.clients).find? (fun c =>
          «match» c.caps c.port c.clientName c.portName
            (toProfile (sndSeqPortCapRead ||| sndSeqPortCapSubsRead) (ascii "out"))) = some c ∧
        ((defaultConnectionsHandler (sndSeqPortCapRead ||| sndSeqPortCapSubsRead) synthSequencer
            CInt.zero (ascii "out")).run.run []).2 = [⟨CInt.zero, c.port⟩] ∧
          c.port ≠ nullPortId :=
  have ht : (toProfile (sndSeqPortCapRead ||| sndSeqPortCapSubsRead) (ascii "out")).hasError =
      false := by decide
  ⟨ht, defaultConnectionsHandler_resolves _ _ _ _ ht (by decide) rfl (by decide) (by decide)⟩

end A2jMidi
