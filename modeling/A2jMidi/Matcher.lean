import A2jMidi.Profile

/-!
# Port matching and search: `match` and `findPort`

`match` decides whether one port fits a profile; `findPort` walks the sequencer's clients
and their ports in query order and returns the first port the callback accepts.  The
callback is a `std::function` and may have effects, so `findPort` is written in an
arbitrary monad; `findPortIn_eq_findM?` shows that the two nested loops are one
first-match search over the flattened enumeration, in every lawful monad.
-/

namespace A2jMidi

/--
Modelled from the spec: `fulfills(caps, requested)` of `alsa_util.h`, which is not under
`src/`: the port's capabilities satisfy the requested mask when they contain every
requested flag.
-/
def fulfills (caps requested : PortCaps) : Bool := caps &&& requested == requested

/-- `match`, the implementation of `MatchCallback`. -/
def «match» (caps : PortCaps) (port : PortID) (clientName portName : List UInt8)
    (requested : PortProfile) : Bool :=
  if !fulfills caps requested.caps then false
  else
    let normalClientName := normalizedIdentifier clientName
    let normalPortName := normalizedIdentifier portName
    if requested.hasColon then
      (requested.firstInt == port.client &&
          (requested.secondInt == port.port ||
            normalizedIdentifier requested.secondName == normalPortName)) ||
        (normalizedIdentifier requested.firstName == normalClientName &&
          (normalizedIdentifier requested.secondName == normalPortName ||
            requested.secondInt == port.port))
    else normalizedIdentifier requested.firstName == normalPortName

theorem token_decimal (n : Nat) : Token (decimal n) :=
  ⟨decimal_ne_nil n, fun h => by
    have := isDigit_of_mem_decimal h
    revert this
    decide⟩

/-- The number of a port, printed and parsed back as `toProfile` does, is the number. -/
theorem identifierStrToInt_decimal {n : CInt} (h : 0 ≤ n.val) :
    identifierStrToInt (normalizedIdentifier (decimal n.val.toNat)) = n := by
  rw [normalizedIdentifier_of_digits fun _ => isDigit_of_mem_decimal, identifierStrToInt,
    stoi_decimal, Int.toNat_of_nonneg h, CInt.ofInt?_val]
  rfl

/--
A port matches its own designations: its port name, its client and port names around a
colon, and its client and port numbers around a colon.
-/
theorem match_own_designation {portCaps mask : PortCaps} {c p : CInt} {cn pn : List UInt8}
    (hcaps : fulfills portCaps mask) (hc : 0 ≤ c.val) (hp : 0 ≤ p.val) :
    (Token pn → «match» portCaps ⟨c, p⟩ cn pn (toProfile mask pn)) ∧
    (Token cn → Token pn → «match» portCaps ⟨c, p⟩ cn pn (toProfile mask (cn ++ colon :: pn))) ∧
    «match» portCaps ⟨c, p⟩ cn pn
      (toProfile mask (decimal c.val.toNat ++ colon :: decimal p.val.toNat)) := by
  refine ⟨fun hpn => ?_, fun hcn hpn => ?_, ?_⟩
  · simp [toProfile_of_token hpn, «match», oneNameProfile, hcaps, normalizedIdentifier_idem]
  · simp [toProfile_of_tokens hcn hpn, «match», twoNamesProfile, hcaps,
      normalizedIdentifier_idem]
  · simp [toProfile_of_tokens (token_decimal _) (token_decimal _), «match», twoNamesProfile,
      hcaps, identifierStrToInt_decimal hc, identifierStrToInt_decimal hp]

theorem match_own_designation_port :
    fulfills 3 1 ∧ (0 : Int) ≤ 20 ∧ (0 : Int) ≤ 0 ∧
    «match» 3 ⟨⟨20, by decide⟩, ⟨0, by decide⟩⟩ (ascii "Synth") (ascii "in")
      (toProfile 1 (decimal 20 ++ colon :: decimal 0)) :=
  ⟨by decide, by decide, by decide,
    (@match_own_designation 3 1 ⟨20, by decide⟩ ⟨0, by decide⟩ (ascii "Synth") (ascii "in")
      (by decide) (by decide) (by decide)).2.2⟩

/-- A port as the sequencer's port query reports it. -/
structure PortInfo where
  port : CInt
  name : List UInt8
  capability : PortCaps

/-- A client as the sequencer's client query reports it, with its ports in query order. -/
structure ClientInfo where
  client : CInt
  name : List UInt8
  ports : List PortInfo

/-- `MatchCallback`, in the monad of the callback's effects. -/
abbrev MatchCallback (m : Type → Type) :=
  PortCaps → PortID → List UInt8 → List UInt8 → PortProfile → m Bool

section FindPort

variable {m : Type → Type} [Monad m]

/-- The inner loop of `findPort`: the ports of one client, until the callback accepts one. -/
def findPortOf (requested : PortProfile) (matchCallback : MatchCallback m) (clientNr : CInt)
    (clientName : List UInt8) : List PortInfo → m (Option PortID)
  | [] => pure none
  | info :: ports => do
      let portId : PortID := ⟨clientNr, info.port⟩
      if ← matchCallback info.capability portId clientName info.name requested then
        pure (some portId)
      else findPortOf requested matchCallback clientNr clientName ports

/-- The outer loop of `findPort`: the clients in query order. -/
def findPortIn (requested : PortProfile) (matchCallback : MatchCallback m) :
    List ClientInfo → m (Option PortID)
  | [] => pure none
  | client :: clients => do
      match ← findPortOf requested matchCallback client.client client.name client.ports with
      | some portId => pure (some portId)
      | none => findPortIn requested matchCallback clients

def findPort (requested : PortProfile) (matchCallback : MatchCallback m)
    (clients : List ClientInfo) : m PortID :=
  if requested.hasError then pure nullPortId
  else do
    let found ← findPortIn requested matchCallback clients
    pure (found.getD nullPortId)

end FindPort

/-- A port as `findPort` hands it to the callback. -/
structure Candidate where
  caps : PortCaps
  port : PortID
  clientName : List UInt8
  portName : List UInt8

/-- The ports of a client, in the order the callback sees them. -/
def candidatesOf (client : ClientInfo) : List Candidate :=
  client.ports.map fun info => ⟨info.capability, ⟨client.client, info.port⟩, client.name, info.name⟩

/-- The whole enumeration: clients in order, then ports in order within each client. -/
def enumeration (clients : List ClientInfo) : List Candidate :=
  clients.flatMap candidatesOf

section Refinement

variable {m : Type → Type} [Monad m] [LawfulMonad m]

theorem findM?_append {α : Type} (p : α → m Bool) (l₁ l₂ : List α) :
    (l₁ ++ l₂).findM? p = (do
      match ← l₁.findM? p with
      | some a => pure (some a)
      | none => l₂.findM? p) := by
  induction l₁ with
  | nil => simp
  | cons a l₁ ih =>
      simp only [List.cons_append, List.findM?, bind_assoc]
      congr
      funext b
      cases b <;> simp [ih]

/-- The callback applied to one candidate of the enumeration. -/
def Candidate.ask (matchCallback : MatchCallback m) (requested : PortProfile) (c : Candidate) :
    m Bool :=
  matchCallback c.caps c.port c.clientName c.portName requested

theorem findPortOf_eq_findM? (requested : PortProfile) (matchCallback : MatchCallback m)
    (client : ClientInfo) (ports : List PortInfo) :
    findPortOf requested matchCallback client.client client.name ports =
      Option.map Candidate.port <$>
        (candidatesOf { client with ports := ports }).findM?
          (Candidate.ask matchCallback requested) := by
  induction ports with
  | nil => simp [findPortOf, candidatesOf]
  | cons info ports ih =>
      simp only [findPortOf, candidatesOf, List.map_cons, List.findM?, map_bind] at ih ⊢
      congr
      funext b
      cases b <;> simp [ih, candidatesOf]

/-- The two loops of `findPort` are one first-match search over the enumeration. -/
theorem findPortIn_eq_findM? (requested : PortProfile) (matchCallback : MatchCallback m)
    (clients : List ClientInfo) :
    findPortIn requested matchCallback clients =
      Option.map Candidate.port <$>
        (enumeration clients).findM? (Candidate.ask matchCallback requested) := by
  induction clients with
  | nil => simp [findPortIn, enumeration]
  | cons client clients ih =>
      have hof := findPortOf_eq_findM? requested matchCallback client client.ports
      simp only [enumeration] at ih
      simp only [findPortIn, enumeration, List.flatMap_cons, findM?_append, map_bind, hof,
        bind_map_left, ih]
      congr 1
      funext r
      cases r <;> simp

end Refinement

/--
A callback that answers with `pred` and records every port it is asked about, with the
profile it is handed.
-/
def recordingCallback (pred : Candidate → PortProfile → Bool) :
    MatchCallback (StateM (List (Candidate × PortProfile))) :=
  fun caps port clientName portName requested => do
    let c : Candidate := ⟨caps, port, clientName, portName⟩
    modify (· ++ [(c, requested)])
    pure (pred c requested)

theorem findM?_recording (pred : Candidate → PortProfile → Bool) (requested : PortProfile)
    (l : List Candidate) (calls : List (Candidate × PortProfile)) :
    (l.findM? (Candidate.ask (recordingCallback pred) requested)).run calls =
      (l.find? (pred · requested), calls ++
        (l.takeWhile (fun c => !pred c requested) ++ (l.find? (pred · requested)).toList).map
          (·, requested)) := by
  induction l generalizing calls with
  | nil => simp
  | cons c l ih =>
      cases hc : pred c requested <;>
        simp [Candidate.ask, recordingCallback, hc, ih, List.find?_cons, List.takeWhile_cons]

/--
`findPort` asks the callback about the ports in enumeration order, up to and including the
first one it accepts, handing it the requested profile each time, and returns that port; with
no match it asks about every port once and returns `NULL_PORT_ID`; a profile in error is
answered at once, with no call.
-/
theorem findPort_first_match (requested : PortProfile) (pred : Candidate → PortProfile → Bool)
    (clients : List ClientInfo) :
    (findPort requested (recordingCallback pred) clients).run [] =
      let first := (enumeration clients).find? (pred · requested)
      if requested.hasError then (nullPortId, [])
      else ((first.map Candidate.port).getD nullPortId,
        ((enumeration clients).takeWhile (fun c => !pred c requested) ++ first.toList).map
          (·, requested)) := by
  unfold findPort
  split
  · rfl
  · simp [findPortIn_eq_findM?, findM?_recording]

end A2jMidi
