import A2jMidi.Lifecycle

/-!
# Sequencer sessions and MIDI event parsers

`open` opens a sequencer session (`snd_seq_open`) and a MIDI event parser
(`snd_midi_event_new`) and hands both to the globals; `close` frees the parser and closes
the session the globals hold.  `Call.handlesStep` says what each public call does to them,
and `handles_step` shows that the operations of `Session` do exactly that.
`handlesStep_cases` sorts every call into four outcomes (keep, strand a session, install,
release); each invariant below is checked on those four:

* `Handles.Held`: in an open client the globals hold a session and a parser that are open,
  so each call that hands `g_sequencerHandle` to the library hands it a live session;
* `Handles.Exact`: without an `open` made in a closed client that throws after `snd_seq_open`
  succeeded (`Call.failsMidOpen`), the sessions and parsers open are exactly those the globals
  hold, and none once closed;
* `Handles.Bounded`: each such failed `open` leaves at most one session and one parser more;
* `Handles.Fresh`: every open handle was handed out before the next one, so `close` after a
  successful `open` leaves open exactly what was open before (`open_close_handles`).
-/

namespace A2jMidi

/-- The sequencer sessions and parsers of a process: those the globals hold, those open. -/
structure Handles where
  sequencerHandle : Option Nat
  midiEventParserHandle : Option Nat
  openSequencers : List Nat
  openParsers : List Nat
  nextHandle : Nat

def Process.handles (s : Process) : Handles :=
  ⟨s.sequencerHandle, s.midiEventParserHandle, s.openSequencers, s.openParsers, s.nextHandle⟩

/-- `snd_seq_open` succeeded and a later call of `open` failed: a session no global holds. -/
def Handles.strand (k : Handles) : Handles :=
  { k with openSequencers := k.nextHandle :: k.openSequencers, nextHandle := k.nextHandle + 1 }

/-- `open` hands a new session and a new parser to the globals. -/
def Handles.install (k : Handles) : Handles :=
  { sequencerHandle := some k.nextHandle, midiEventParserHandle := some (k.nextHandle + 1)
    openSequencers := k.nextHandle :: k.openSequencers
    openParsers := (k.nextHandle + 1) :: k.openParsers, nextHandle := k.nextHandle + 2 }

/-- `close` frees the parser and closes the session the globals hold. -/
def Handles.release (k : Handles) : Handles :=
  { k with
    sequencerHandle := none, midiEventParserHandle := none
    openSequencers := k.openSequencers.filter (some · != k.sequencerHandle)
    openParsers := k.openParsers.filter (some · != k.midiEventParserHandle) }

/-- What a call does to the handles of a process in state `stateFlag`. -/
def Call.handlesStep : Call → State → Handles → Handles
  | .open _ alsa, stateFlag, k =>
      if stateFlag != .closed || alsaError alsa.seqOpen then k
      else if alsaError alsa.setClientName || alsaError alsa.eventNew then k.strand
      else k.install
  | .close, stateFlag, k => if stateFlag == .closed then k else k.release
  | _, _, k => k

/-- The operations of `Session` act on the handles as `Call.handlesStep` says. -/
theorem handles_step (c : Call) (s : Process) :
    (c.step s).2.handles = c.handlesStep s.stateFlag s.handles := by
  cases c <;> simp [Call.handlesStep, Process.handles] <;> split_ifs <;>
    simp_all [Handles.strand, Handles.install, Handles.release]

/-! ## The four things a call does to the handles -/

/--
An `open` made in state `stateFlag` that passes its state check and whose library calls fail
after `snd_seq_open` succeeded.
-/
def Call.failsMidOpen : Call → State → Bool
  | .open _ alsa, stateFlag =>
      stateFlag == .closed && !alsaError alsa.seqOpen &&
        (alsaError alsa.setClientName || alsaError alsa.eventNew || alsaError alsa.clientId)
  | _, _ => false

/--
A call keeps the handles, and leaves the client open or closed as it was; or an `open` that
fails after `snd_seq_open` strands a session; or `open` installs a session and a parser,
leaving the client closed only when it fails; or `close` releases what the globals hold.
-/
theorem handlesStep_cases (c : Call) (k : Control) (h : Handles) :
    (c.handlesStep k.stateFlag h = h ∧
      ((c.controlStep k).2.stateFlag = .closed ↔ k.stateFlag = .closed)) ∨
    (c.handlesStep k.stateFlag h = h.strand ∧ k.stateFlag = .closed ∧
      (c.controlStep k).2.stateFlag = .closed ∧ c.failsMidOpen k.stateFlag) ∨
    (c.handlesStep k.stateFlag h = h.install ∧ k.stateFlag = .closed ∧
      ((c.controlStep k).2.stateFlag = .closed → c.failsMidOpen k.stateFlag)) ∨
    (c.handlesStep k.stateFlag h = h.release ∧ k.stateFlag ≠ .closed ∧
      (c.controlStep k).2.stateFlag = .closed) := by
  cases c with
  | «open» name alsa =>
      by_cases hs : k.stateFlag = .closed
      · simp only [Call.handlesStep, Call.controlStep, Call.failsMidOpen, hs, bne_self_eq_false,
          beq_self_eq_true, Bool.false_or, Bool.true_and]
        cases hq : alsaError alsa.seqOpen
        · cases hm : alsaError alsa.setClientName || alsaError alsa.eventNew
          · refine Or.inr (Or.inr (Or.inl ⟨by simp [hq, hm], trivial, fun hc => ?_⟩))
            revert hc
            cases alsaError alsa.clientId <;> simp [hq, hm]
          · exact Or.inr (Or.inl ⟨by simp [hq, hm], trivial, by simp [hq, hm, hs]⟩)
        · exact Or.inl (by simp [hq, hs])
      · have hs' : (k.stateFlag != .closed) = true := bne_iff_ne.mpr hs
        exact Or.inl (by simp [Call.handlesStep, Call.controlStep, hs'])
  | close =>
      by_cases hs : k.stateFlag = .closed
      · exact Or.inl (by simp [Call.handlesStep, Call.controlStep, hs])
      · exact Or.inr (Or.inr (Or.inr (by simp [Call.handlesStep, Call.controlStep, hs])))
  | activate threadStarts queueStarts =>
      refine Or.inl ⟨rfl, ?_⟩
      simp only [Call.controlStep]
      split_ifs <;> simp_all
  | stop =>
      refine Or.inl ⟨rfl, ?_⟩
      simp only [Call.controlStep]
      split <;> simp_all
  | newReceiverPort | onMonitorConnections =>
      refine Or.inl ⟨rfl, ?_⟩
      simp only [Call.controlStep]
      split <;> rfl
  | retrieve | receiverPortGetConnections | clientName | portName | state =>
      exact Or.inl ⟨rfl, Iff.rfl⟩

/-! ## An open client holds live handles -/

/-- The handles the globals hold are open, and an open client holds a session and a parser. -/
structure Handles.Held (k : Handles) (stateFlag : State) : Prop where
  sequencer_open : ∀ h ∈ k.sequencerHandle, h ∈ k.openSequencers
  parser_open : ∀ p ∈ k.midiEventParserHandle, p ∈ k.openParsers
  held : stateFlag ≠ .closed → k.sequencerHandle.isSome ∧ k.midiEventParserHandle.isSome

theorem handlesStep_held (c : Call) {k : Control} {h : Handles} (hk : h.Held k.stateFlag) :
    (c.handlesStep k.stateFlag h).Held (c.controlStep k).2.stateFlag := by
  obtain ⟨hseq, hpar, hheld⟩ := hk
  rcases handlesStep_cases c k h with ⟨he, hst⟩ | ⟨he, -, hst, -⟩ | ⟨he, -, -⟩ | ⟨he, -, hst⟩ <;>
    rw [he]
  · exact ⟨hseq, hpar, fun hs => hheld (mt hst.mpr hs)⟩
  · exact ⟨fun x hx => List.mem_cons_of_mem _ (hseq x hx), hpar, fun hs => absurd hst hs⟩
  · exact ⟨by simp [Handles.install], by simp [Handles.install], fun _ => ⟨rfl, rfl⟩⟩
  · exact ⟨by simp [Handles.release], by simp [Handles.release], fun hs => absurd hst hs⟩

theorem step_held (c : Call) {s : Process} (h : s.handles.Held s.stateFlag) :
    (c.step s).2.handles.Held (c.step s).2.stateFlag := by
  rw [handles_step, stateFlag_step]
  exact handlesStep_held c (k := s.control) h

/-! ## Without a failed `open`, nothing is left open -/

/-- The sessions and parsers open are those the globals hold, and none in a closed client. -/
structure Handles.Exact (k : Handles) (stateFlag : State) : Prop where
  sequencers : k.openSequencers = k.sequencerHandle.toList
  parsers : k.openParsers = k.midiEventParserHandle.toList
  closed : stateFlag = .closed → k.sequencerHandle = none ∧ k.midiEventParserHandle = none

theorem filter_toList_self (o : Option Nat) : o.toList.filter (some · != o) = [] := by
  cases o <;> simp

theorem handlesStep_exact {c : Call} {k : Control} (hc : c.failsMidOpen k.stateFlag = false)
    {h : Handles}
    (hk : h.Exact k.stateFlag) :
    (c.handlesStep k.stateFlag h).Exact (c.controlStep k).2.stateFlag := by
  obtain ⟨hseq, hpar, hclosed⟩ := hk
  rcases handlesStep_cases c k h with ⟨he, hst⟩ | ⟨-, -, -, hf⟩ | ⟨he, hk, hf⟩ | ⟨he, -, hst⟩
  · rw [he]
    exact ⟨hseq, hpar, fun hs => hclosed (hst.mp hs)⟩
  · simp only [hc, Bool.false_eq_true] at hf
  · obtain ⟨hs₁, hs₂⟩ := hclosed hk
    rw [he]
    refine ⟨by simp [Handles.install, hseq, hs₁], by simp [Handles.install, hpar, hs₂],
      fun hs => ?_⟩
    exact absurd (hf hs) (by simp [hc])
  · rw [he]
    exact ⟨by simp only [Handles.release, hseq, filter_toList_self, Option.toList_none],
      by simp only [Handles.release, hpar, filter_toList_self, Option.toList_none],
      fun _ => ⟨rfl, rfl⟩⟩

theorem step_exact {c : Call} {s : Process} (hc : c.failsMidOpen s.stateFlag = false)
    (h : s.handles.Exact s.stateFlag) : (c.step s).2.handles.Exact (c.step s).2.stateFlag := by
  rw [handles_step, stateFlag_step]
  exact handlesStep_exact (k := s.control) hc h

/-! ## Each failed `open` leaves at most one session and one parser behind -/

/-- Besides `n` others, at most one session and one parser are open, and none once closed. -/
def Handles.Bounded (k : Handles) (stateFlag : State) (n : Nat) : Prop :=
  k.openSequencers.length ≤ (if stateFlag = .closed then 0 else 1) + n ∧
    k.openParsers.length ≤ (if stateFlag = .closed then 0 else 1) + n

theorem length_filter_ne_held {l : List Nat} {x : Nat} (hx : x ∈ l) :
    (l.filter (some · != some x)).length + 1 ≤ l.length := by
  have := (List.length_filter_lt_length_iff_exists (p := fun y => some y != some x)).mpr
    ⟨x, hx, by simp⟩
  omega

theorem handlesStep_bounded (c : Call) {k : Control} {h : Handles} {n : Nat}
    (hheld : h.Held k.stateFlag) (hb : h.Bounded k.stateFlag n) :
    (c.handlesStep k.stateFlag h).Bounded (c.controlStep k).2.stateFlag
      (n + if c.failsMidOpen k.stateFlag then 1 else 0) := by
  obtain ⟨hseq, hpar, hheld⟩ := hheld
  obtain ⟨hbs, hbp⟩ := hb
  rcases handlesStep_cases c k h with ⟨he, hst⟩ | ⟨he, hk, hst, hf⟩ | ⟨he, hk, hf⟩ |
    ⟨he, hk, hst⟩ <;> rw [he] <;> simp only [Handles.Bounded]
  · simp only [hst]
    split_ifs at hbs hbp ⊢ <;> constructor <;> omega
  · rw [if_pos hf]
    simp only [hk, hst, if_true] at hbs hbp ⊢
    simp only [Handles.strand, List.length_cons]
    omega
  · simp only [hk, if_true] at hbs hbp
    simp only [Handles.install, List.length_cons]
    by_cases hs : (c.controlStep k).2.stateFlag = .closed
    · rw [if_pos (hf hs)]
      simp only [hs, if_true]
      omega
    · simp only [hs, if_false]
      constructor <;> split <;> omega
  · obtain ⟨hsome, hpsome⟩ := hheld hk
    obtain ⟨x, hx⟩ := Option.isSome_iff_exists.mp hsome
    obtain ⟨y, hy⟩ := Option.isSome_iff_exists.mp hpsome
    have hx' := length_filter_ne_held (hseq x (hx ▸ rfl))
    have hy' := length_filter_ne_held (hpar y (hy ▸ rfl))
    simp only [hk, if_false] at hbs hbp
    simp only [hst, if_true, Handles.release, hx, hy]
    constructor <;> split <;> omega

theorem step_bounded (c : Call) {s : Process} {n : Nat} (hheld : s.handles.Held s.stateFlag)
    (hb : s.handles.Bounded s.stateFlag n) :
    (c.step s).2.handles.Bounded (c.step s).2.stateFlag
      (n + if c.failsMidOpen s.stateFlag then 1 else 0) := by
  rw [handles_step, stateFlag_step]
  exact handlesStep_bounded c (k := s.control) hheld hb

/-! ## `close` undoes a successful `open` -/

/-- Every session and parser open in the library was handed out before `nextHandle`. -/
def Handles.Fresh (k : Handles) : Prop :=
  (∀ x ∈ k.openSequencers, x < k.nextHandle) ∧ ∀ x ∈ k.openParsers, x < k.nextHandle

theorem handlesStep_fresh (c : Call) (k : Control) {h : Handles} (hf : h.Fresh) :
    (c.handlesStep k.stateFlag h).Fresh := by
  obtain ⟨hs, hp⟩ := hf
  rcases handlesStep_cases c k h with ⟨he, -⟩ | ⟨he, -⟩ | ⟨he, -⟩ | ⟨he, -⟩ <;> rw [he]
  · exact ⟨hs, hp⟩
  · refine ⟨fun x hx => ?_, fun x hx => Nat.lt_succ_of_lt (hp x hx)⟩
    rcases List.mem_cons.mp hx with rfl | hx
    · exact Nat.lt_succ_self _
    · exact Nat.lt_succ_of_lt (hs x hx)
  · refine ⟨fun x hx => ?_, fun x hx => ?_⟩ <;> rcases List.mem_cons.mp hx with rfl | hx
    · simp [Handles.install]
    · have := hs x hx
      simp only [Handles.install]
      omega
    · simp [Handles.install]
    · have := hp x hx
      simp only [Handles.install]
      omega
  · exact ⟨fun x hx => hs x (List.mem_filter.mp hx).1, fun x hx => hp x (List.mem_filter.mp hx).1⟩

theorem step_fresh (c : Call) {s : Process} (h : s.handles.Fresh) : (c.step s).2.handles.Fresh := by
  rw [handles_step]
  exact handlesStep_fresh c s.control h

theorem filter_ne_fresh {l : List Nat} {n m : Nat} (hl : ∀ x ∈ l, x < n) (hm : n ≤ m) :
    (m :: l).filter (some · != some m) = l := by
  rw [List.filter_cons_of_neg (by simp), List.filter_eq_self.mpr]
  intro x hx
  have := hl x hx
  simp only [bne_iff_ne, ne_eq, Option.some.injEq]
  omega

/-- An `open` that returns normally from a closed process installs a session and a parser. -/
theorem open_installs {s : Process} (hs : s.stateFlag = .closed) {name : List UInt8}
    {alsa : OpenOutcome} (hok : (Call.step (.open name alsa) s).1 = .ok ()) :
    (Call.step (.open name alsa) s).2.handles = s.handles.install ∧
      (Call.step (.open name alsa) s).2.stateFlag = .idle := by
  have hok' := step_isOk (.open name alsa) s
  rw [hok, isOk_ok] at hok'
  simp only [Call.controlStep, Process.control, hs, bne_self_eq_false, Bool.false_or] at hok'
  split_ifs at hok' with h₁ h₂
  simp only [Bool.or_eq_true, not_or, Bool.not_eq_true] at h₁ h₂
  rw [handles_step, stateFlag_step]
  simp [Call.handlesStep, Call.controlStep, Process.control, hs, h₁, h₂]

/--
From a closed process whose handles are fresh, an `open` that returns normally followed by
`close` leaves open in the library exactly the sessions and parsers open before, and the
globals holding none.
-/
theorem open_close_handles {s : Process} (hf : s.handles.Fresh) (hs : s.stateFlag = .closed)
    {name : List UInt8} {alsa : OpenOutcome} (hok : (Call.step (.open name alsa) s).1 = .ok ()) :
    (Call.close.step (Call.step (.open name alsa) s).2).2.handles =
      { s.handles.install with
        sequencerHandle := none, midiEventParserHandle := none
        openSequencers := s.openSequencers, openParsers := s.openParsers } := by
  obtain ⟨hinst, hidle⟩ := open_installs hs hok
  obtain ⟨hseq, hpar⟩ := hf
  rw [handles_step, hinst, hidle]
  simp only [Call.handlesStep, Handles.release, Handles.install, beq_iff_eq, reduceCtorEq,
    if_false, filter_ne_fresh hseq le_rfl, filter_ne_fresh hpar (Nat.le_succ _)]
  rfl

end A2jMidi
