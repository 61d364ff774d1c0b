import Mathlib.Data.List.Basic

/-!
# The data model of `alsaClient`

A `std::string` is a list of bytes and a C++ `int` an integer of the 32-bit range.
Port identities, capability masks, the client state and the exceptions of the public
operations are declared here; the ALSA library's own constants keep their values from
`alsa/seq.h`.
-/

namespace A2jMidi

/-- The bytes of an ASCII literal of the source. -/
def ascii (text : String) : List UInt8 := text.toList.map Char.toUInt8

/-- A C++ `int`: an integer of the 32-bit two's complement range. -/
@[ext]
structure CInt where
  val : Int
  inRange : -2147483648 ≤ val ∧ val ≤ 2147483647
  deriving DecidableEq

namespace CInt

/-- The `int` with a given value, when the value is in range. -/
def ofInt? (v : Int) : Option CInt :=
  if h : -2147483648 ≤ v ∧ v ≤ 2147483647 then some ⟨v, h⟩ else none

def zero : CInt := ⟨0, by decide⟩

def minusOne : CInt := ⟨-1, by decide⟩

@[simp]
theorem ofInt?_val (n : CInt) : ofInt? n.val = some n := by
  simp [ofInt?, n.inRange]

end CInt

/-- `NULL_ID`: no client, no port. -/
def nullId : CInt := CInt.minusOne

/-- `PortID`: a client number and a port number, compared field by field. -/
structure PortID where
  client : CInt
  port : CInt
  deriving DecidableEq

/-- `NULL_PORT_ID`: the port identity that denotes "not found". -/
def nullPortId : PortID := ⟨nullId, nullId⟩

/-- `PortCaps`, an `unsigned int` mask of `SND_SEQ_PORT_CAP_*` flags. -/
abbrev PortCaps := UInt32

def sndSeqPortCapRead : PortCaps := 1
def sndSeqPortCapSubsRead : PortCaps := 32

/--
`ALSA_ERROR(err, what)` of `alsa_util.h` (not under `src/`): ALSA calls report a
failure by a negative return value, which the macro logs.
-/
def alsaError (err : CInt) : Bool := decide (err.val < 0)

/-- `State`: the life cycle of the `alsaClient`. -/
inductive State where
  | closed
  | idle
  | running
  deriving DecidableEq, Repr

def stateAsString : State → List UInt8
  | .closed => ascii "closed"
  | .idle => ascii "idle"
  | .running => ascii "running"

/--
What the public operations throw: `BadStateException`, `ServerException`,
`std::runtime_error`, `std::system_error` when `std::thread` cannot start a thread,
and whatever `receiverQueue::start` throws (its module is not under `src/`).
-/
inductive Exception where
  | badState (what : List UInt8)
  | server (what : List UInt8)
  | runtime (what : List UInt8)
  | system
  | receiverQueue
  deriving DecidableEq

end A2jMidi
