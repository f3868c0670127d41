import ClusterFleet.Hub.Runner
import ClusterFleet.Hub.State

/-!
# Hub — the schedule

Programs that take turns on one hub. A program runs until it must wait. Time stands still while
any program can run, and then goes on to the next timer; timers have whole milliseconds. One
program is in front: when something it waits for has happened it runs before all others. The
others run in the order in which they became ready. Whoever waits for a key is served first come,
first served.
-/

namespace ClusterFleet

/-- A program at the point it has come to. -/
inductive Paused (α : Type) where
  /-- It has not begun. -/
  | fresh (p : Program α)
  /-- It sleeps until the tick `wake`, or until the tick of a deadline before that. -/
  | asleep (wake : Nat) (deadline : Option Nat) (timer : Nat) (next : Bool → Program α)
  /-- It waits for a key. -/
  | waiting (next : Option Key → Program α)
  /-- It has ended. -/
  | finished (a : α)
  /-- It was broken off. -/
  | aborted

/-- Who waits for a key. -/
inductive Waiter where
  /-- The program in front. -/
  | front
  /-- A task behind it. -/
  | task (id : Nat)
  deriving DecidableEq, Repr

/-- What a task behind the front does. -/
inductive Errand where
  /-- It takes one key. -/
  | taker (p : Paused (Option Key))
  /-- It works on key after key. -/
  | worker (p : Paused Bool)
  /-- It adds all sets to the queue at fixed intervals, next at the given moment. -/
  | sweeper (due : Moment) (timer : Nat) (interval : Span)

/-- A task behind the front. -/
structure Task where
  /-- Its number. -/
  id : Nat
  /-- What it does. -/
  errand : Errand

/-- A turn that somebody behind the front is ready for. -/
inductive Turn where
  /-- A task goes on. -/
  | task (id : Nat)
  /-- A delayed addition is made. -/
  | add (key : Key)
  /-- The runner starts its workers. -/
  | begin

/-- Whether the runner was started, and whether it has ended. -/
inductive RunnerState where
  /-- It was never started. -/
  | idle
  /-- It is at work; these of its tasks still are. -/
  | running (workers : List Nat)
  /-- All its workers have ended. -/
  | ended
  deriving DecidableEq, Repr

/-- A hub and all that runs on it. -/
structure Schedule (σ : Type) where
  /-- The hub. -/
  hub : Hub σ
  /-- The settings of the runner. -/
  settings : Settings
  /-- Whether a key was announced while nobody waited. -/
  permit : Bool
  /-- Those who wait for a key, in the order they came. -/
  line : List Waiter
  /-- Whether the program in front has been woken. -/
  frontWoken : Bool
  /-- The turns that can be taken, in order. -/
  ready : List Turn
  /-- The tasks. -/
  tasks : List Task
  /-- The number of tasks so far. -/
  spawned : Nat
  /-- The runner. -/
  runner : RunnerState

namespace Schedule

variable {σ : Type}

/-- Nothing runs yet. -/
def start (hub : Hub σ) (settings : Settings) : Schedule σ :=
  ⟨hub, settings, false, [], false, [], [], 0, .idle⟩

/-- The tick that the clock shows. -/
def now (s : Schedule σ) : Nat := s.hub.clock.tick

/-! ## Waking -/

/-- Announces one key: the one who has waited longest is woken; if nobody waits, the announcement
is kept for the next one who asks. -/
def announce (s : Schedule σ) : Schedule σ :=
  match s.line with
  | [] => { s with permit := true }
  | .front :: rest => { s with line := rest, frontWoken := true }
  | .task id :: rest => { s with line := rest, ready := s.ready ++ [.task id] }

/-- Wakes everybody who waits for a key. -/
def announceAll (s : Schedule σ) : Schedule σ :=
  let turns := s.line.filterMap fun
    | .front => none
    | .task id => some (Turn.task id)
  { s with
    line := []
    frontWoken := s.frontWoken || s.line.contains .front
    ready := s.ready ++ turns }

/-- Whether a call puts a key at the end of the queue, so that one who waits can be served. -/
def announces (queue : WorkQueue) : Call → Bool
  | .add key => queue.accepts key
  | .addAfter key delay => delay = Span.zero && queue.accepts key
  | .release key => queue.requeues key
  | _ => false

variable [Authority σ]

/-- Answers a call, and wakes who waits for a key if the call brought one. -/
def answer (c : Call) (s : Schedule σ) : c.Answer × Schedule σ :=
  let (a, hub) := s.hub.answer c
  let after := { s with hub := hub }
  (a, if announces s.hub.queue c then after.announce else after)

/-! ## Running one program -/

/-- Sets a timer for a wait that begins now. -/
def sleepFrom (s : Schedule σ) (delay : Span) (deadline : Option Moment)
    (next : Bool → Program α) : Paused α × Schedule σ :=
  (.asleep (s.hub.clock.after delay).tick (deadline.map Moment.tick) s.hub.timers next,
   { s with hub := { s.hub with timers := s.hub.timers + 1 } })

/-- Runs a program until it must wait or ends. -/
def run (self : Waiter) : Program α → Schedule σ → Paused α × Schedule σ
  | .done a, s => (.finished a, s)
  | .abort, s => (.aborted, s)
  | .call c next, s =>
    let (a, s) := s.answer c
    run self (next a) s
  | .sleep delay deadline next, s =>
    if (s.hub.clock.after delay).tick ≤ s.now then run self (next true) s
    else if (deadline.map Moment.tick).any (· ≤ s.now) then run self (next false) s
    else s.sleepFrom delay deadline next
  | .take next, s =>
    -- whoever asks looks at the queue itself, so what was announced is used up
    let s := { s with permit := false }
    match s.hub.queue.pop with
    | (.key key, queue) => run self (next (some key)) { s with hub := { s.hub with queue := queue } }
    | (.closed, _) => run self (next none) s
    | (.wait, _) => (.waiting next, { s with line := s.line ++ [self] })

/-- Lets a program go on that may have been woken; if what it waits for has not happened, it goes
on waiting. -/
def resume (self : Waiter) : Paused α → Schedule σ → Paused α × Schedule σ
  | .fresh p, s => run self p s
  | .asleep wake deadline timer next, s =>
    if wake ≤ s.now then run self (next true) s
    else if deadline.any (· ≤ s.now) then run self (next false) s
    else (.asleep wake deadline timer next, s)
  | .waiting next, s => if s.line.contains self then (.waiting next, s) else run self (.take next) s
  | .finished a, s => (.finished a, s)
  | .aborted, s => (.aborted, s)

/-! ## Tasks -/

/-- Starts a task behind the front. -/
def spawn (errand : Errand) (s : Schedule σ) : Schedule σ :=
  { s with
    tasks := s.tasks ++ [⟨s.spawned, errand⟩]
    spawned := s.spawned + 1
    ready := s.ready ++ [.task s.spawned] }

/-- Puts a task at the point it has come to. -/
def update (id : Nat) (errand : Errand) (s : Schedule σ) : Schedule σ :=
  { s with tasks := s.tasks.map fun t => if t.id = id then { t with errand := errand } else t }

/-- Ends a worker. With the last one the runner ends, and its sweeper with it. -/
def endWorker (id : Nat) (s : Schedule σ) : Schedule σ :=
  match s.runner with
  | .running workers =>
    let rest := workers.filter (· ≠ id)
    if rest.isEmpty then
      { s with
        runner := .ended
        tasks := s.tasks.filter fun t => match t.errand with
          | .sweeper .. => false
          | _ => true }
    else { s with runner := .running rest }
  | _ => s

/-- A worker whose program has come to a new point: after a key it goes on with the next at once. -/
def continueWorker (id : Nat) (p : Paused Bool) (s : Schedule σ) : Schedule σ :=
  match p with
  | .finished true =>
    let s := s.update id (.worker (.fresh (Runner.processNext s.settings)))
    { s with ready := .task id :: s.ready }
  | .finished false | .aborted => (s.update id (.worker p)).endWorker id
  | _ => s.update id (.worker p)

/-- A sweeper whose time may have come. -/
def continueSweeper (id : Nat) (due : Moment) (timer : Nat) (interval : Span) (s : Schedule σ) :
    Schedule σ :=
  if due.tick ≤ s.now then
    let (_, s) := s.run (.task id) Runner.resync
    let s := s.update id (.sweeper (due.after interval) s.hub.timers interval)
    let s := { s with hub := { s.hub with timers := s.hub.timers + 1 } }
    -- more than one interval has gone by: it sweeps again before anybody else
    if (due.after interval).tick ≤ s.now then { s with ready := .task id :: s.ready } else s
  else s.update id (.sweeper due timer interval)

/-- Starts the runner: all sets are added, and then the sweeper and the workers are started. An
interval of no length starts no sweeper. -/
def beginRunner (s : Schedule σ) : Schedule σ :=
  let (_, s) := s.run .front Runner.resync
  let s := match s.settings.resyncInterval with
    | some interval =>
      if interval = Span.zero then s
      else s.spawn (.sweeper (s.hub.clock.after interval) s.hub.timers interval)
    | none => s
  let workers := Nat.max s.settings.workers 1
  let first := s.spawned
  let s := (List.range workers).foldl
    (fun s _ => s.spawn (.worker (.fresh (Runner.processNext s.settings)))) s
  { s with runner := .running ((List.range workers).map (first + ·)) }

/-- Takes a turn. -/
def take (turn : Turn) (s : Schedule σ) : Schedule σ :=
  match turn with
  | .add key => (s.answer (.add key)).2
  | .begin => s.beginRunner
  | .task id => match s.tasks.find? fun t => t.id = id with
    | none => s
    | some task => match task.errand with
      | .taker p =>
        let (p, s) := s.resume (.task id) p
        s.update id (.taker p)
      | .worker p =>
        let (p, s) := s.resume (.task id) p
        s.continueWorker id p
      | .sweeper due timer interval => s.continueSweeper id due timer interval

/-- Takes turns until none is left, at most the given number. -/
def settle : Nat → Schedule σ → Schedule σ
  | 0, s => s
  | fuel + 1, s =>
    match s.ready with
    | [] => s
    | turn :: rest => settle fuel (({ s with ready := rest } : Schedule σ).take turn)

/-! ## Time -/

/-- The tick at which a sleeping program wakes. -/
def Paused.tick? : Paused α → Option (Nat × Nat)
  | .asleep wake deadline timer _ => some ((deadline.map (Nat.min wake)).getD wake, timer)
  | _ => none

/-- The tick and timer that a task waits for. -/
def timerOf (t : Task) : Option (Nat × Nat) :=
  match t.errand with
  | .taker p => Paused.tick? p
  | .worker p => Paused.tick? p
  | .sweeper due timer _ => some (due.tick, timer)

/-- All timers of those behind the front, with their ticks, numbers and turns. -/
def timers (s : Schedule σ) : List (Nat × Nat × Turn) :=
  (s.tasks.filterMap fun t => (timerOf t).map fun p => (p.1, p.2, Turn.task t.id)) ++
  s.hub.delayed.map fun d => (d.due.tick, d.timer, Turn.add d.key)

/-- The least of some numbers. -/
def least : List Nat → Option Nat
  | [] => none
  | n :: rest => match least rest with
    | none => some n
    | some m => some (Nat.min n m)

/-- Moves the clock to a tick, and readies whoever it wakes. -/
def moveTo (tick : Nat) (s : Schedule σ) : Schedule σ :=
  let due := (s.timers.filter fun t => t.1 ≤ tick).mergeSort fun a b =>
    a.1 < b.1 || (a.1 = b.1 && a.2.1 ≤ b.2.1)
  { s with
    hub :=
      { s.hub with
        clock := if s.now < tick then Moment.ofTick tick else s.hub.clock
        delayed := s.hub.delayed.filter fun d => !(d.due.tick ≤ tick) }
    ready := s.ready ++ due.map fun t => t.2.2 }

/-! ## The program in front -/

/-- How the program in front ended. -/
inductive Ending (α : Type) where
  /-- With a result. -/
  | result (a : α)
  /-- Broken off. -/
  | aborted
  /-- Abandoned when its time was up. -/
  | timeout
  /-- It waits for something that will never happen. -/
  | stuck

/-- Goes on until the program in front has ended, or until the tick `limit`. -/
def drive (limit : Option Nat) : Nat → Paused α → Schedule σ → Ending α × Schedule σ
  | 0, _, s => (.stuck, s)
  | fuel + 1, p, s =>
    match s.resume .front p with
    | (.finished a, s) => (.result a, s)
    | (.aborted, s) => (.aborted, s)
    | (p, s) =>
      -- it waits: those behind it take all their turns, and time goes on if none of them wakes it
      let s := { s with frontWoken := false }
      if limit.any (· ≤ s.now) then
        (.timeout, { s with line := s.line.filter (· ≠ .front) })
      else
        let s := s.settle fuel
        if s.frontWoken then drive limit fuel p s
        else
          match least (s.timers.map (·.1) ++ ((Paused.tick? p).map (·.1)).toList ++ limit.toList) with
          | none => (.stuck, { s with line := s.line.filter (· ≠ .front) })
          | some tick => drive limit fuel p (s.moveTo tick)

/-- Goes on until the runner has ended, or until the tick `limit`. -/
def driveRunner (limit : Nat) : Nat → Schedule σ → Bool × Schedule σ
  | 0, s => (false, s)
  | fuel + 1, s =>
    if s.runner = .ended then (true, s)
    else if limit ≤ s.now then (false, s)
    else
      let s := s.settle fuel
      if s.runner = .ended then (true, s)
      else
        match least (s.timers.map (·.1) ++ [limit]) with
        | none => (false, s)
        | some tick => driveRunner limit fuel (s.moveTo tick)

end Schedule

end ClusterFleet
