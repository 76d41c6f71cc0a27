/-!
# Worker pools

A list is mapped by several workers at once. A feeder hands the elements out, each worker applies
the function to what it gets and hands the result to a collector, which puts it where the element
stood. Handing over is one move of both sides. Which of the possible moves comes next is left to a
scheduler.

* `Pool`: the state of a pool; `Pool.move?` makes a move.
* `Pool.run`: makes moves, always the first one that is possible.
* `mapParallel`: maps a list by a pool.
-/

namespace FlagFlow

/-- What a worker does: it waits for an element, holds the result for the element at a place, or has
stopped. -/
inductive Worker (β : Type) where
  | idle
  | holding (place : Nat) (result : β)
  | stopped
  deriving DecidableEq, Repr

def Worker.isStopped {β : Type} : Worker β → Bool
  | stopped => true
  | _ => false

/-- A pool that maps a list. Elements that have not been handed out and results have their places.
Input and output are closed when it is announced that nothing more comes. -/
structure Pool (α β : Type) where
  input : List (Nat × α)
  inputClosed : Bool := false
  workers : List (Worker β)
  outputClosed : Bool := false
  results : List (Option β)
  finished : Bool := false

/-- A move of a pool. The feeder hands the next element to a worker, a worker hands its result to
the collector, and each learns of the end that the one before it announces. -/
inductive Move where
  | feed (w : Nat)
  | closeInput
  | stop (w : Nat)
  | deliver (w : Nat)
  | closeOutput
  | finish
  deriving DecidableEq, Repr

namespace Pool

variable {α β : Type}

def start (xs : List α) (workers : Nat) : Pool α β where
  input := xs.zipIdx.map fun e => (e.2, e.1)
  workers := List.replicate workers .idle
  results := List.replicate xs.length none

/-- The state after a move, if the move is possible. -/
def move? (f : α → β) (p : Pool α β) : Move → Option (Pool α β)
  | .feed w =>
    match p.input, p.workers[w]? with
    | (i, x) :: rest, some .idle =>
      some { p with input := rest, workers := p.workers.set w (.holding i (f x)) }
    | _, _ => none
  | .closeInput => if p.input.isEmpty && !p.inputClosed then some { p with inputClosed := true } else none
  | .stop w =>
    match p.inputClosed, p.workers[w]? with
    | true, some .idle => some { p with workers := p.workers.set w .stopped }
    | _, _ => none
  | .deliver w =>
    match p.finished, p.workers[w]? with
    | false, some (.holding i y) =>
      some { p with workers := p.workers.set w .idle, results := p.results.set i (some y) }
    | _, _ => none
  | .closeOutput =>
    if p.workers.all Worker.isStopped && !p.outputClosed then
      some { p with outputClosed := true } else none
  | .finish => if p.outputClosed && !p.finished then some { p with finished := true } else none

/-- All moves that a pool with `n` workers could make. -/
def moves (n : Nat) : List Move :=
  let each (move : Nat → Move) := (List.range n).map move
  each .deliver ++ each .feed ++ [.closeInput] ++ each .stop ++ [.closeOutput, .finish]

/-- Makes up to `fuel` moves, always the first one that is possible. -/
def run (f : α → β) : Nat → Pool α β → Pool α β
  | 0, p => p
  | fuel + 1, p =>
    match (moves p.workers.length).findSome? (p.move? f) with
    | some p => run f fuel p
    | none => p

end Pool

/-- The number of workers for a setting; there is at least one. -/
def workerCount (setting : Int) : Nat := if setting ≤ 0 then 1 else setting.toNat

/-- Maps a list by a pool of workers. Every element takes two moves, every worker one to stop, and
three announcements end the work. -/
def mapParallel {α β : Type} (f : α → β) (xs : List α) (workers : Int) : List β :=
  let n := workerCount workers
  ((Pool.start xs n).run f (2 * xs.length + n + 3)).results.filterMap id

end FlagFlow
