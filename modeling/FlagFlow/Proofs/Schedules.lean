import FlagFlow.Pool
import Mathlib.Data.List.Perm.Basic

/-!
# Schedules of a worker pool

A scheduler may choose any possible move of a pool at any time. Whatever it chooses, the pool hands
out every element once, writes every result once and where its element stood, and is never stuck
before the collector has ended.

* `Pool.Step`: the moves with what they need and what they change; `Pool.move?_eq_some_iff`: there
  are no others.
* `Pool.Schedule`: the moves that lead from one state to another; `Pool.receipts`, `Pool.writes`:
  what the workers receive and what is written on the way.
* `Pool.OnTrack`: what holds at any time; `Pool.OnTrack.step`, `Pool.Schedule.onTrack`: moves and
  schedules keep it.
* `Pool.exists_step`, `Pool.Schedule.length_add_remaining`: there is a next move, and there are only
  so many.
* **`Pool.every_schedule_maps`**: the result of every schedule.
-/

namespace FlagFlow

open scoped List

/-- The place of the element whose result a worker has. -/
def Worker.place? {β : Type} : Worker β → Option Nat
  | holding i _ => some i
  | _ => none

/-- The number of moves that a worker has left: it stops, and before it delivers what it has. -/
def Worker.movesLeft {β : Type} : Worker β → Nat
  | idle => 1
  | holding _ _ => 2
  | stopped => 0

@[simp]
theorem Worker.isStopped_iff {β : Type} {w : Worker β} : w.isStopped = true ↔ w = .stopped := by
  cases w <;> simp [isStopped]

namespace Pool

variable {α β : Type} {f : α → β} {p q : Pool α β} {m : Move} {xs : List α}

/-! ## Moves -/

/-- The moves, with what they need and what they change. -/
inductive Step (f : α → β) (p : Pool α β) : Move → Pool α β → Prop
  | feed {w i : Nat} {x : α} {rest : List (Nat × α)} :
    p.input = (i, x) :: rest → p.workers[w]? = some .idle →
      Step f p (.feed w) { p with input := rest, workers := p.workers.set w (.holding i (f x)) }
  | closeInput : p.input = [] → p.inputClosed = false →
    Step f p .closeInput { p with inputClosed := true }
  | stop {w : Nat} : p.inputClosed = true → p.workers[w]? = some .idle →
      Step f p (.stop w) { p with workers := p.workers.set w .stopped }
  | deliver {w i : Nat} {y : β} : p.finished = false → p.workers[w]? = some (.holding i y) →
      Step f p (.deliver w)
        { p with workers := p.workers.set w .idle, results := p.results.set i (some y) }
  | closeOutput : (∀ w ∈ p.workers, w = .stopped) → p.outputClosed = false →
      Step f p .closeOutput { p with outputClosed := true }
  | finish : p.outputClosed = true → p.finished = false → Step f p .finish { p with finished := true }

theorem move?_eq_some_iff : p.move? f m = some q ↔ Step f p m q := by
  constructor
  · intro h
    cases m with
    | feed w =>
      simp only [move?] at h
      split at h
      · rename_i hinput hworker
        cases h
        exact .feed hinput hworker
      · cases h
    | closeInput =>
      simp only [move?, Bool.and_eq_true, List.isEmpty_iff, Bool.not_eq_true'] at h
      split at h
      · rename_i hclose
        cases h
        exact .closeInput hclose.1 hclose.2
      · cases h
    | stop w =>
      simp only [move?] at h
      split at h
      · rename_i hclosed hworker
        cases h
        exact .stop hclosed hworker
      · cases h
    | deliver w =>
      simp only [move?] at h
      split at h
      · rename_i hfinished hworker
        cases h
        exact .deliver hfinished hworker
      · cases h
    | closeOutput =>
      simp only [move?] at h
      split at h
      · rename_i hclose
        simp only [Bool.and_eq_true, List.all_eq_true, Worker.isStopped_iff, Bool.not_eq_true']
          at hclose
        cases h
        exact .closeOutput hclose.1 hclose.2
      · cases h
    | finish =>
      simp only [move?, Bool.and_eq_true, Bool.not_eq_true'] at h
      split at h
      · rename_i hfinish
        cases h
        exact .finish hfinish.1 hfinish.2
      · cases h
  · intro h
    cases h with
    | feed hinput hworker => simp [move?, hinput, hworker]
    | closeInput hinput hclosed => simp [move?, hinput, hclosed]
    | stop hclosed hworker => simp [move?, hclosed, hworker]
    | deliver hfinished hworker => simp [move?, hfinished, hworker]
    | closeOutput hworkers hclosed => simpa [move?, hclosed] using hworkers
    | finish hclosed hfinished => simp [move?, hclosed, hfinished]

/-! ## Schedules -/

/-- The moves of a scheduler, each with the state before it, lead from the state `p` to another
one. -/
inductive Schedule (f : α → β) (p : Pool α β) : List (Pool α β × Move) → Pool α β → Prop
  | nil : Schedule f p [] p
  | snoc {tr : List (Pool α β × Move)} {q r : Pool α β} {m : Move} :
      Schedule f p tr q → q.move? f m = some r → Schedule f p (tr ++ [(q, m)]) r

/-- The worker that receives an element in a move, with the place of the element. -/
def receipt? (p : Pool α β) : Move → Option (Nat × Nat)
  | .feed w => p.input.head?.map fun e => (w, e.1)
  | _ => none

/-- The place where a move writes a result. -/
def write? (p : Pool α β) : Move → Option Nat
  | .deliver w => (p.workers[w]?).bind Worker.place?
  | _ => none

/-- What the workers receive on the way. -/
def receipts (tr : List (Pool α β × Move)) : List (Nat × Nat) := tr.filterMap fun e => e.1.receipt? e.2

/-- The places that are written on the way. -/
def writes (tr : List (Pool α β × Move)) : List Nat := tr.filterMap fun e => e.1.write? e.2

/-! ## What holds at any time -/

/-- The places of the elements whose results the workers have. -/
def held (p : Pool α β) : List Nat := p.workers.filterMap Worker.place?

/-- There are workers, what they hold is right, and they have stopped only where there is reason
to. -/
structure Orderly (f : α → β) (xs : List α) (p : Pool α β) : Prop where
  workers : p.workers ≠ []
  holding : ∀ i y, .holding i y ∈ p.workers → (xs.map f)[i]? = some y
  stopped : .stopped ∈ p.workers → p.inputClosed = true
  output_closed : p.outputClosed = true → ∀ w ∈ p.workers, w = .stopped

/-- The elements are received in order. Their places are written or held, each once, and what is
written is right. Nothing is closed too early. -/
structure OnTrack (f : α → β) (xs : List α) (p : Pool α β) (received written : List Nat) : Prop
    extends Orderly f xs p where
  received_eq : received = List.range received.length
  le : received.length ≤ xs.length
  input : p.input = (xs.zipIdx.map fun e => (e.2, e.1)).drop received.length
  places : written ++ p.held ~ received
  length_results : p.results.length = xs.length
  results : ∀ i ∈ written, p.results[i]? = some ((xs.map f)[i]?)
  input_closed : p.inputClosed = true → p.input = []
  finished : p.finished = true → p.outputClosed = true

variable {received written : List Nat} {w : Nat} {a b : Worker β}

theorem onTrack_start (f : α → β) (xs : List α) {n : Nat} (hn : 0 < n) :
    OnTrack f xs (start xs n) [] [] where
  workers := by
    simp only [start, ne_eq, List.replicate_eq_nil_iff]
    omega
  holding i y h := by simp [start] at h
  stopped h := by simp [start] at h
  output_closed h := by cases h
  received_eq := rfl
  le := Nat.zero_le _
  input := rfl
  places := by simp [held, start, Worker.place?]
  length_results := by simp [start]
  results := by simp
  input_closed h := by cases h
  finished h := by cases h

theorem Orderly.set (h : Orderly f xs p) (hw : p.workers[w]? = some a) (ha : a ≠ .stopped)
    (hholding : ∀ i y, b = .holding i y → (xs.map f)[i]? = some y)
    (hstopped : b = .stopped → p.inputClosed = true) (hworkers : q.workers = p.workers.set w b)
    (hinput : q.inputClosed = p.inputClosed) (houtput : q.outputClosed = p.outputClosed) :
    Orderly f xs q where
  workers := by simpa [hworkers] using h.workers
  holding i y hmem := by
    rw [hworkers] at hmem
    rcases List.mem_or_eq_of_mem_set hmem with hmem | heq
    · exact h.holding i y hmem
    · exact hholding i y heq.symm
  stopped hmem := by
    rw [hworkers] at hmem
    rw [hinput]
    rcases List.mem_or_eq_of_mem_set hmem with hmem | heq
    · exact h.stopped hmem
    · exact hstopped heq.symm
  output_closed hclosed := by
    rw [houtput] at hclosed
    exact absurd (h.output_closed hclosed a (List.mem_of_getElem? hw)) ha

theorem exists_perm_set (hw : p.workers[w]? = some a) (b : Worker β) :
    ∃ others, p.workers ~ a :: others ∧ p.workers.set w b ~ b :: others := by
  obtain ⟨hlt, rfl⟩ := List.getElem?_eq_some_iff.mp hw
  exact ⟨p.workers.eraseIdx w, (List.getElem_cons_eraseIdx_perm hlt).symm,
    List.set_perm_cons_eraseIdx hlt b⟩

theorem zipIdx_drop_eq_cons {k i : Nat} {x : α} {rest : List (Nat × α)}
    (h : (xs.zipIdx.map fun e => (e.2, e.1)).drop k = (i, x) :: rest) :
    i = k ∧ xs[k]? = some x ∧ rest = (xs.zipIdx.map fun e => (e.2, e.1)).drop (k + 1) := by
  have hget : (xs.zipIdx.map fun e => (e.2, e.1))[k]? = some (i, x) := by
    rw [← List.head?_drop, h, List.head?_cons]
  have hrest : rest = (xs.zipIdx.map fun e => (e.2, e.1)).drop (k + 1) := by
    rw [← List.tail_drop, h, List.tail_cons]
  rw [List.getElem?_map, List.getElem?_zipIdx, Option.map_map] at hget
  obtain ⟨x', hx', heq⟩ := Option.map_eq_some_iff.mp hget
  simp only [Function.comp_apply, Nat.zero_add, Prod.mk.injEq] at heq
  obtain ⟨rfl, rfl⟩ := heq
  exact ⟨rfl, hx', hrest⟩

theorem OnTrack.feed (h : OnTrack f xs p received written) {i : Nat} {x : α} {rest : List (Nat × α)}
    (hinput : p.input = (i, x) :: rest) (hw : p.workers[w]? = some .idle) :
    OnTrack f xs { p with input := rest, workers := p.workers.set w (.holding i (f x)) }
      (received ++ [i]) written := by
  obtain ⟨rfl, hx, hrest⟩ := zipIdx_drop_eq_cons (h.input.symm.trans hinput)
  obtain ⟨others, hold, hnew⟩ := exists_perm_set hw (.holding received.length (f x))
  refine { h with
    toOrderly := h.toOrderly.set hw (by simp) ?_ (by simp) rfl rfl rfl
    received_eq := ?_, le := ?_, input := ?_, places := ?_, input_closed := ?_ }
  · rintro i y ⟨⟩
    rw [List.getElem?_map, hx, Option.map_some]
  · rw [List.length_append, List.length_singleton, List.range_succ, ← h.received_eq]
  · rw [List.length_append, List.length_singleton]
    exact (List.getElem?_eq_some_iff.mp hx).1
  · rw [List.length_append, List.length_singleton]
    exact hrest
  · calc written ++ (p.workers.set w (.holding received.length (f x))).filterMap Worker.place?
      _ ~ written ++ received.length :: others.filterMap Worker.place? :=
        (hnew.filterMap Worker.place?).append_left written
      _ ~ received.length :: (written ++ others.filterMap Worker.place?) := List.perm_middle
      _ ~ received.length :: (written ++ p.held) :=
        ((hold.symm.filterMap Worker.place?).append_left written).cons _
      _ ~ received.length :: received := h.places.cons _
      _ ~ received ++ [received.length] := (List.perm_append_singleton _ _).symm
  · intro hclosed
    rw [h.input_closed hclosed] at hinput
    cases hinput

theorem OnTrack.stop (h : OnTrack f xs p received written) (hclosed : p.inputClosed = true)
    (hw : p.workers[w]? = some .idle) :
    OnTrack f xs { p with workers := p.workers.set w .stopped } received written := by
  obtain ⟨others, hold, hnew⟩ := exists_perm_set hw .stopped
  have hheld : (p.workers.set w .stopped).filterMap Worker.place? ~ p.held :=
    (hnew.filterMap Worker.place?).trans (hold.symm.filterMap Worker.place?)
  exact { h with
    toOrderly := h.toOrderly.set hw (by simp) (by simp) (fun _ => hclosed) rfl rfl rfl
    places := (hheld.append_left written).trans h.places }

theorem OnTrack.deliver (h : OnTrack f xs p received written) {i : Nat} {y : β}
    (hw : p.workers[w]? = some (.holding i y)) :
    OnTrack f xs
      { p with workers := p.workers.set w .idle, results := p.results.set i (some y) } received
      (written ++ [i]) := by
  obtain ⟨others, hold, hnew⟩ := exists_perm_set hw .idle
  have hy := h.holding i y (List.mem_of_getElem? hw)
  refine { h with
    toOrderly := h.toOrderly.set hw (by simp) (by simp) (by simp) rfl rfl rfl
    places := ?_, length_results := ?_, results := ?_ }
  · calc written ++ [i] ++ (p.workers.set w .idle).filterMap Worker.place?
      _ ~ written ++ [i] ++ others.filterMap Worker.place? :=
        (hnew.filterMap Worker.place?).append_left _
      _ = written ++ i :: others.filterMap Worker.place? := by
        rw [List.append_assoc, List.singleton_append]
      _ ~ written ++ p.held := (hold.symm.filterMap Worker.place?).append_left written
      _ ~ received := h.places
  · rw [List.length_set, h.length_results]
  · intro j hj
    by_cases hij : i = j
    · subst hij
      have hlt : i < p.results.length := by
        rw [h.length_results, ← List.length_map f]
        exact (List.getElem?_eq_some_iff.mp hy).1
      rw [List.getElem?_set_self hlt, hy]
    · rw [List.getElem?_set_ne hij]
      exact h.results j (by simpa [Ne.symm hij] using hj)

/-- **What a move keeps.** -/
theorem OnTrack.step (h : OnTrack f xs p received written) (hm : Step f p m q) :
    OnTrack f xs q (received ++ (p.receipt? m).toList.map Prod.snd)
      (written ++ (p.write? m).toList) := by
  cases hm with
  | feed hinput hw => simpa [receipt?, write?, hinput] using h.feed hinput hw
  | closeInput hinput hclosed =>
    simp only [receipt?, write?, Option.toList_none, List.map_nil, List.append_nil]
    exact { h with input_closed := fun _ => hinput, stopped := fun _ => rfl }
  | stop hclosed hw => simpa [receipt?, write?] using h.stop hclosed hw
  | deliver hfinished hw => simpa [receipt?, write?, hw, Worker.place?] using h.deliver hw
  | closeOutput hworkers hclosed =>
    simp only [receipt?, write?, Option.toList_none, List.map_nil, List.append_nil]
    exact { h with output_closed := fun _ => hworkers, finished := fun _ => rfl }
  | finish hclosed hfinished =>
    simp only [receipt?, write?, Option.toList_none, List.map_nil, List.append_nil]
    exact { h with finished := fun _ => hclosed }

/-- **What a schedule keeps.** -/
theorem Schedule.onTrack {tr : List (Pool α β × Move)} (h : OnTrack f xs p [] [])
    (htr : Schedule f p tr q) :
    OnTrack f xs q ((receipts tr).map Prod.snd) (writes tr) := by
  induction htr with
  | nil => exact h
  | @snoc tr q r m _ hm ih =>
    have hreceipts : receipts (tr ++ [(q, m)]) = receipts tr ++ (q.receipt? m).toList := by
      cases hq : q.receipt? m <;> simp [receipts, hq]
    have hwrites : writes (tr ++ [(q, m)]) = writes tr ++ (q.write? m).toList := by
      cases hq : q.write? m <;> simp [writes, hq]
    rw [hreceipts, hwrites, List.map_append]
    exact ih.step (move?_eq_some_iff.mp hm)

theorem Schedule.exists_of_mem {tr : List (Pool α β × Move)} (htr : Schedule f p tr q)
    {e : Pool α β × Move} (he : e ∈ tr) : ∃ tr' r, Schedule f p tr' e.1 ∧ Step f e.1 e.2 r := by
  induction htr with
  | nil => cases he
  | snoc htr hm ih =>
    rcases List.mem_append.mp he with he | he
    · exact ih he
    · obtain rfl := List.mem_singleton.mp he
      exact ⟨_, _, htr, move?_eq_some_iff.mp hm⟩

theorem OnTrack.not_deliver (h : OnTrack f xs p received written) (hclosed : p.outputClosed = true) :
    ¬ Step f p (.deliver w) q := by
  intro hm
  cases hm with
  | deliver _ hw => cases h.output_closed hclosed _ (List.mem_of_getElem? hw)

/-! ## The end of a schedule -/

/-- **No state before the end is stuck.** -/
theorem exists_step (f : α → β) (hend : p.finished = false) : ∃ m q, Step f p m q := by
  by_cases hout : p.outputClosed = true
  · exact ⟨_, _, .finish hout hend⟩
  · rw [Bool.not_eq_true] at hout
    by_cases hall : ∀ w ∈ p.workers, w = .stopped
    · exact ⟨_, _, .closeOutput hall hout⟩
    · simp only [not_forall] at hall
      obtain ⟨a, hmem, ha⟩ := hall
      obtain ⟨w, hw⟩ := List.getElem?_of_mem hmem
      cases a with
      | stopped => exact absurd rfl ha
      | holding i y => exact ⟨_, _, .deliver hend hw⟩
      | idle =>
        -- an idle worker receives the next element, or learns that there is none
        cases hinput : p.input with
        | cons e rest => exact ⟨_, _, .feed hinput hw⟩
        | nil =>
          cases hclosed : p.inputClosed with
          | false => exact ⟨_, _, .closeInput hinput hclosed⟩
          | true => exact ⟨_, _, .stop hclosed hw⟩

theorem OnTrack.length_received (h : OnTrack f xs p received written) :
    received.length = xs.length - p.input.length := by
  have hle := h.le
  rw [h.input, List.length_drop, List.length_map, List.length_zipIdx]
  omega

/-- When the collector has ended, every element has been received and every result written. -/
theorem OnTrack.of_finished (h : OnTrack f xs p received written) (hend : p.finished = true) :
    received = List.range xs.length ∧ written ~ List.range xs.length ∧
      p.results = xs.map fun x => some (f x) := by
  have hall := h.output_closed (h.finished hend)
  have hstopped : .stopped ∈ p.workers := by
    obtain ⟨a, ha⟩ := List.exists_mem_of_ne_nil p.workers h.workers
    exact hall a ha ▸ ha
  have hreceived : received = List.range xs.length := by
    have hlength := h.length_received
    rw [h.input_closed (h.stopped hstopped)] at hlength
    rw [h.received_eq, hlength]
    rfl
  have hheld : p.held = [] := by
    rw [held, List.filterMap_eq_nil_iff]
    intro a ha
    rw [hall a ha]
    rfl
  have hwritten : written ~ List.range xs.length := by
    have hplaces := h.places
    rwa [hheld, List.append_nil, hreceived] at hplaces
  refine ⟨hreceived, hwritten, List.ext_getElem? fun i => ?_⟩
  by_cases hi : i < xs.length
  · rw [h.results i (hwritten.mem_iff.mpr (List.mem_range.mpr hi))]
    simp [hi]
  · rw [List.getElem?_eq_none (by rw [h.length_results]; omega),
      List.getElem?_eq_none (by rw [List.length_map]; omega)]

/-! ## The number of moves -/

/-- The number of moves that workers have left. -/
def load : List (Worker β) → Nat
  | [] => 0
  | w :: ws => w.movesLeft + load ws

/-- The number of moves that are left. An element that has not been handed out takes two, and there
are three announcements. -/
def remaining (p : Pool α β) : Nat :=
  2 * p.input.length + load p.workers + (if p.inputClosed then 0 else 1) +
    (if p.outputClosed then 0 else 1) + if p.finished then 0 else 1

theorem load_perm {ws ws' : List (Worker β)} (h : ws ~ ws') : load ws = load ws' := by
  induction h with
  | nil => rfl
  | cons w _ ih => simp only [load, ih]
  | swap v w ws =>
    simp only [load]
    omega
  | trans _ _ ih ih' => exact ih.trans ih'

theorem load_set (hw : p.workers[w]? = some a) (b : Worker β) :
    load (p.workers.set w b) + a.movesLeft = load p.workers + b.movesLeft := by
  obtain ⟨others, hold, hnew⟩ := exists_perm_set hw b
  rw [load_perm hold, load_perm hnew]
  simp only [load]
  omega

/-- **Every move is one of those that are left.** -/
theorem remaining_step (hm : Step f p m q) : q.remaining + 1 = p.remaining := by
  cases hm with
  | @feed w i x rest hinput hw =>
    have hload : load (p.workers.set w (.holding i (f x))) + 1 = load p.workers + 2 := load_set hw _
    simp only [remaining, hinput, List.length_cons]
    omega
  | closeInput hinput hclosed =>
    simp only [remaining, hclosed, if_true, Bool.false_eq_true, if_false]
    omega
  | @stop w hclosed hw =>
    have hload : load (p.workers.set w .stopped) + 1 = load p.workers + 0 := load_set hw _
    simp only [remaining]
    omega
  | @deliver w i y hfinished hw =>
    have hload : load (p.workers.set w .idle) + 2 = load p.workers + 1 := load_set hw _
    simp only [remaining]
    omega
  | closeOutput hworkers hclosed =>
    simp only [remaining, hclosed, if_true, Bool.false_eq_true, if_false]
    omega
  | finish hclosed hfinished => simp only [remaining, hfinished, if_true, Bool.false_eq_true, if_false]

theorem load_replicate_idle (n : Nat) : load (List.replicate n (Worker.idle : Worker β)) = n := by
  induction n with
  | zero => rfl
  | succ n ih =>
    rw [List.replicate_succ, load, ih, Worker.movesLeft]
    omega

theorem remaining_start (xs : List α) (n : Nat) :
    (start xs n : Pool α β).remaining = 2 * xs.length + n + 3 := by
  simp [remaining, start, load_replicate_idle]

theorem Schedule.length_add_remaining {tr : List (Pool α β × Move)} (htr : Schedule f p tr q) :
    tr.length + q.remaining = p.remaining := by
  induction htr with
  | nil => simp
  | snoc _ hm ih =>
    have hstep := remaining_step (move?_eq_some_iff.mp hm)
    rw [List.length_append, List.length_singleton]
    omega

/-! ## One schedule -/

theorem mem_moves (hm : Step f p m q) : m ∈ moves p.workers.length := by
  have hlt : ∀ {w : Nat} {a : Worker β}, p.workers[w]? = some a → w < p.workers.length :=
    fun h => (List.getElem?_eq_some_iff.mp h).1
  cases hm with
  | feed _ hw => simp [moves, hlt hw]
  | closeInput => simp [moves]
  | stop _ hw => simp [moves, hlt hw]
  | deliver _ hw => simp [moves, hlt hw]
  | closeOutput => simp [moves]
  | finish => simp [moves]

theorem Schedule.cons {tr : List (Pool α β × Move)} {r : Pool α β} (hm : p.move? f m = some q)
    (htr : Schedule f q tr r) : Schedule f p ((p, m) :: tr) r := by
  induction htr with
  | nil => exact .snoc .nil hm
  | snoc _ hm' ih => exact .snoc ih hm'

theorem finished_of_no_move (h : ∀ m ∈ moves p.workers.length, p.move? f m = none) :
    p.finished = true := by
  by_contra hfinished
  rw [Bool.not_eq_true] at hfinished
  obtain ⟨m, q, hm⟩ := exists_step f hfinished
  have hnone := h m (mem_moves hm)
  rw [move?_eq_some_iff.mpr hm] at hnone
  cases hnone

/-- Making the first possible move each time comes to the end. -/
theorem exists_schedule_run (f : α → β) (fuel : Nat) (p : Pool α β) :
    ∃ tr, Schedule f p tr (run f fuel p) ∧ (p.remaining ≤ fuel → (run f fuel p).finished = true) := by
  induction fuel generalizing p with
  | zero =>
    refine ⟨[], .nil, fun hle => ?_⟩
    by_contra hfinished
    rw [run, Bool.not_eq_true] at hfinished
    simp only [remaining, hfinished, Bool.false_eq_true, if_false] at hle
    omega
  | succ fuel ih =>
    cases hfind : (moves p.workers.length).findSome? (p.move? f) with
    | none =>
      have hrun : run f (fuel + 1) p = p := by simp [run, hfind]
      rw [hrun]
      exact ⟨[], .nil, fun _ => finished_of_no_move (List.findSome?_eq_none_iff.mp hfind)⟩
    | some q =>
      obtain ⟨m, -, hm⟩ := List.exists_of_findSome?_eq_some hfind
      have hrun : run f (fuel + 1) p = run f fuel q := by simp [run, hfind]
      obtain ⟨tr, htr, hfinished⟩ := ih q
      have hstep := remaining_step (move?_eq_some_iff.mp hm)
      rw [hrun]
      exact ⟨(p, m) :: tr, htr.cons hm, fun hle => hfinished (by omega)⟩

theorem workerCount_pos (setting : Int) : 0 < workerCount setting := by
  unfold workerCount
  split <;> omega

/-- **A pool maps a list under every schedule.** No element or result is lost or doubled, and no
state before the end is stuck. -/
theorem every_schedule_maps (f : α → β) (xs : List α) (setting : Int) :
    (∀ tr q, Schedule f (start xs (workerCount setting)) tr q →
      (receipts tr).map Prod.snd = List.range (xs.length - q.input.length) ∧
      (writes tr).Nodup ∧ writes tr ⊆ (receipts tr).map Prod.snd ∧
      (∀ e ∈ tr, e.1.outputClosed = true → ∀ w, e.2 ≠ .deliver w) ∧
      (q.outputClosed = true → ∀ w ∈ q.workers, w = .stopped) ∧
      (q.finished = false → ∃ m r, q.move? f m = some r) ∧
      tr.length ≤ 2 * xs.length + workerCount setting + 3 ∧
      (q.finished = true → (receipts tr).map Prod.snd = List.range xs.length ∧
        writes tr ~ List.range xs.length ∧ q.results = xs.map fun x => some (f x))) ∧
    mapParallel f xs setting = xs.map f := by
  have hstart := onTrack_start f xs (workerCount_pos setting)
  have hremaining := remaining_start (β := β) xs (workerCount setting)
  constructor
  · intro tr q htr
    have h := htr.onTrack hstart
    have hlength := htr.length_add_remaining
    have hnodup : (writes tr ++ q.held).Nodup :=
      h.places.nodup_iff.mpr (h.received_eq ▸ List.nodup_range)
    refine ⟨?_, (List.nodup_append.mp hnodup).1, ?_, ?_, h.output_closed, ?_, by omega, h.of_finished⟩
    · rw [h.received_eq, h.length_received]
    · exact fun i hi => h.places.subset (List.mem_append_left _ hi)
    · intro e he hclosed w hw
      obtain ⟨tr', r, htr', hm⟩ := htr.exists_of_mem he
      exact (htr'.onTrack hstart).not_deliver hclosed (hw ▸ hm)
    · intro hfinished
      obtain ⟨m, r, hm⟩ := exists_step f hfinished
      exact ⟨m, r, move?_eq_some_iff.mpr hm⟩
  · obtain ⟨tr, htr, hend⟩ := exists_schedule_run f (2 * xs.length + workerCount setting + 3)
      (start xs (workerCount setting))
    obtain ⟨-, -, hresults⟩ := (htr.onTrack hstart).of_finished (hend (Nat.le_of_eq hremaining))
    rw [mapParallel, hresults, List.filterMap_map]
    exact congrFun List.filterMap_eq_map xs

/-- The second worker delivers two results before the first one delivers the first. -/
theorem every_schedule_maps_overtaking :
    ∃ tr q, Schedule (fun n => n * n) (start [3, 1, 2] (workerCount 2)) tr q ∧ q.finished = true ∧
      receipts tr = [(0, 0), (1, 1), (1, 2)] ∧ writes tr = [1, 2, 0] ∧
      writes tr ~ List.range 3 ∧ q.results = [some 9, some 1, some 4] ∧
      mapParallel (fun n => n * n) [3, 1, 2] 2 = [9, 1, 4] := by
  have hstart := Schedule.nil (f := fun n => n * n) (p := start [3, 1, 2] (workerCount 2))
  have htr :=
    ((((((((((hstart.snoc (m := .feed 0) rfl).snoc (m := .feed 1) rfl).snoc
      (m := .deliver 1) rfl).snoc (m := .feed 1) rfl).snoc (m := .closeInput) rfl).snoc
      (m := .deliver 1) rfl).snoc (m := .stop 1) rfl).snoc (m := .deliver 0) rfl).snoc
      (m := .stop 0) rfl).snoc (m := .closeOutput) rfl).snoc (m := .finish) rfl
  obtain ⟨hall, hmap⟩ := every_schedule_maps (fun n => n * n) [3, 1, 2] 2
  obtain ⟨-, -, -, -, -, -, -, hend⟩ := hall _ _ htr
  obtain ⟨-, hwrites, hresults⟩ := hend rfl
  exact ⟨_, _, htr, rfl, rfl, rfl, hwrites, hresults, hmap⟩

end Pool

end FlagFlow
