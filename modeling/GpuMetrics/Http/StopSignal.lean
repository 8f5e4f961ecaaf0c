/-!
# The stop signal

The server is told to stop over a **watch**: a place that holds a latest value, in which writing
replaces what was there. The server's loop waits until there is something it has not seen, or
until nobody can write any more; then it looks at the latest value and ends if it is `true`. It
also ends when the writer is gone.

Waiting and looking are two steps, so a value may be replaced between them.
-/

namespace GpuMetrics.Http

/-- A watch with one reader. -/
structure Watch where
  latest : Bool
  /-- How often a value was written. -/
  version : Nat
  /-- The version that the reader saw last. -/
  seen : Nat
  /-- Whether the writer is gone. -/
  closed : Bool
  deriving DecidableEq, Repr

namespace Watch

/-- A watch that nobody has written to. -/
def fresh : Watch := ⟨false, 0, 0, false⟩

/-- The watch after a value was written. -/
def send (w : Watch) (value : Bool) : Watch :=
  { w with latest := value, version := w.version + 1 }

/-- The watch after the writer is gone. -/
def drop (w : Watch) : Watch := { w with closed := true }

/-- Whether there is something that the reader has not seen. -/
def hasUnseen (w : Watch) : Bool := w.seen != w.version

end Watch

/-- Where the server's loop stands. -/
inductive LoopPhase where
  /-- It waits for a change. -/
  | waiting
  /-- It has noticed a change and is about to look at the value. -/
  | looking
  /-- It has ended, and the server stops accepting requests. -/
  | ended
  deriving DecidableEq, Repr

/-- The server's loop and its watch. -/
structure StopLoop where
  watch : Watch
  phase : LoopPhase
  deriving DecidableEq, Repr

namespace StopLoop

/-- The loop of a server that was just started. -/
def fresh : StopLoop := ⟨.fresh, .waiting⟩

/-- A step of the loop. While it waits and there is nothing to notice, the step changes nothing. -/
def step (l : StopLoop) : StopLoop :=
  match l.phase with
  | .waiting =>
    if l.watch.hasUnseen then
      { watch := { l.watch with seen := l.watch.version }, phase := .looking }
    else if l.watch.closed then { l with phase := .ended }
    else l
  | .looking => { l with phase := if l.watch.latest then .ended else .waiting }
  | .ended => l

/-- Writing to the loop's watch. -/
def send (l : StopLoop) (value : Bool) : StopLoop := { l with watch := l.watch.send value }

/-- The writer going away. -/
def drop (l : StopLoop) : StopLoop := { l with watch := l.watch.drop }

/-- The loop once it has nothing left to notice. Four steps are enough: to look at a value, to
notice one more, to look at it, and to find the writer gone. -/
def settle (l : StopLoop) : StopLoop := l.step.step.step.step

/-- A settled loop stays as it is. -/
theorem step_settle (l : StopLoop) : l.settle.step = l.settle := by
  obtain ⟨⟨latest, version, seen, closed⟩, phase⟩ := l
  by_cases h : seen = version <;> cases latest <;> cases closed <;> cases phase <;>
    simp [settle, step, Watch.hasUnseen, h]

end StopLoop

/-- What can happen to a running server's loop. -/
inductive LoopAction where
  | send (value : Bool)
  | drop
  | step
  deriving DecidableEq, Repr

/-- The loop after an action. -/
def StopLoop.act (l : StopLoop) : LoopAction → StopLoop
  | .send value => l.send value
  | .drop => l.drop
  | .step => l.step

/-- The loop after a sequence of actions. -/
def StopLoop.run (l : StopLoop) (actions : List LoopAction) : StopLoop :=
  actions.foldl StopLoop.act l

@[simp] theorem StopLoop.run_nil (l : StopLoop) : l.run [] = l := rfl

@[simp] theorem StopLoop.run_cons (l : StopLoop) (a : LoopAction) (rest : List LoopAction) :
    l.run (a :: rest) = (l.act a).run rest := rfl

/-- **A loop that has ended stays ended**, whatever is written to its watch. -/
theorem StopLoop.phase_act_of_ended {l : StopLoop} (ended : l.phase = .ended) (a : LoopAction) :
    (l.act a).phase = .ended := by
  cases a with
  | send value => exact ended
  | drop => exact ended
  | step => simp [StopLoop.act, StopLoop.step, ended]

end GpuMetrics.Http
