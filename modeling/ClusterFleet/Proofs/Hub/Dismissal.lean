import ClusterFleet.Hub.Rehearsal
import ClusterFleet.Proofs.Queue.Exclusive
import ClusterFleet.Proofs.Queue.Pending

/-!
# Hub — nobody waits for a key any more

Whoever waits for a key when the queue is shut down must be woken, or would
wait for ever. `Dismissed` says of a schedule that its queue is shut down
and nobody stands in line. The shutdown brings this about and wakes those
who stood there (`woken_shutdown`), and whatever happens later keeps it
(`Dismissed.moves`): a program that asks a queue that is shut down gets its
answer at once, so none joins the line again (`Dismissed.run`).
-/

namespace ClusterFleet

variable {σ : Type}

/-- Whether a program waits for a key. -/
def Paused.awaitsKey {α : Type} : Paused α → Bool
  | .waiting _ => true
  | _ => false

namespace Schedule

variable {s : Schedule σ}

/-- The queue is shut down, and nobody waits for a key. -/
structure Dismissed (s : Schedule σ) : Prop where
  closed : s.hub.queue.closed = true
  line : s.line = []

/-- Where nobody stands in line an announcement is kept. -/
theorem Dismissed.announce (hs : s.Dismissed) : s.announce.Dismissed := by
  have heq : s.announce = { s with permit := true } := by
    unfold Schedule.announce
    rw [hs.line]
  rw [heq]
  exact ⟨hs.closed, hs.line⟩

theorem Dismissed.endWorker (hs : s.Dismissed) (id : ℕ) : (s.endWorker id).Dismissed := by
  unfold Schedule.endWorker
  split
  · dsimp only
    split
    · exact ⟨hs.closed, hs.line⟩
    · exact ⟨hs.closed, hs.line⟩
  · exact hs

theorem Dismissed.spawnAll (hs : s.Dismissed) (errand : Schedule σ → Errand) (ids : List ℕ) :
    (ids.foldl (fun s _ => s.spawn (errand s)) s).Dismissed := by
  induction ids generalizing s with
  | nil => exact hs
  | cons id rest ih => exact ih ⟨hs.closed, hs.line⟩

theorem Dismissed.continueWorker (hs : s.Dismissed) (id : ℕ) (p : Paused Bool) :
    (s.continueWorker id p).Dismissed := by
  have hupdate (p : Paused Bool) : (s.update id (.worker p)).Dismissed := ⟨hs.closed, hs.line⟩
  unfold Schedule.continueWorker
  split
  · exact ⟨hs.closed, hs.line⟩
  · exact (hupdate _).endWorker id
  · exact (hupdate _).endWorker id
  · exact hupdate _

end Schedule

variable [Authority σ]

/-- No call opens a queue or shuts it down. -/
theorem Hub.answer_closed (c : Call) (h : Hub σ) :
    (h.answer c).2.queue.closed = h.queue.closed := by
  cases c with
  | add key => exact WorkQueue.add_closed _ _
  | addAfter key delay =>
    change (h.addAfter key delay).queue.closed = _
    obtain heq | heq := queue_addAfter h key delay <;> rw [heq]
    exact WorkQueue.add_closed _ _
  | release key => exact WorkQueue.done_closed _ _
  | _ => rfl

namespace Schedule

variable {s s' : Schedule σ} {α : Type}

/-- What may happen in a schedule: a program runs, a turn is taken, a task
is started, time passes, somebody else changes the store, and the program
in front waits or gives up. -/
inductive Moves : Schedule σ → Schedule σ → Prop
  | rest (s : Schedule σ) : Moves s s
  | ran {s s' : Schedule σ} {α : Type} (before : Moves s s') (self : Waiter) (p : Program α) :
      Moves s (s'.run self p).2
  | took {s s' : Schedule σ} {turn : Turn} {later : List Turn} (before : Moves s s')
      (ready : s'.ready = turn :: later) : Moves s (({ s' with ready := later }).take turn)
  | spawned {s s' : Schedule σ} (before : Moves s s') (errand : Errand) : Moves s (s'.spawn errand)
  | passed {s s' : Schedule σ} (before : Moves s s') (tick : ℕ) : Moves s (s'.moveTo tick)
  | changed {s s' : Schedule σ} (before : Moves s s') (store : σ) :
      Moves s { s' with hub := { s'.hub with store := store } }
  | waited {s s' : Schedule σ} (before : Moves s s') : Moves s { s' with frontWoken := false }
  | gaveUp {s s' : Schedule σ} (before : Moves s s') :
      Moves s { s' with line := s'.line.filter (· ≠ .front) }

theorem Dismissed.answer (hs : s.Dismissed) (c : Call) : (s.answer c).2.Dismissed := by
  have hclosed : (s.hub.answer c).2.queue.closed = true := (s.hub.answer_closed c).trans hs.closed
  have hafter : Dismissed { s with hub := (s.hub.answer c).2 } := ⟨hclosed, hs.line⟩
  unfold Schedule.answer
  dsimp only
  split
  · exact hafter.announce
  · exact hafter

/-- **No program waits for a key** of a queue that was shut down. -/
theorem Dismissed.run (hs : s.Dismissed) (self : Waiter) (p : Program α) :
    (s.run self p).2.Dismissed ∧ (s.run self p).1.awaitsKey = false := by
  induction p generalizing s with
  | done a => exact ⟨hs, rfl⟩
  | abort => exact ⟨hs, rfl⟩
  | call c next ih => exact ih _ (hs.answer c)
  | sleep delay deadline next ih =>
    rw [Schedule.run]
    split
    · exact ih true hs
    · split
      · exact ih false hs
      · exact ⟨⟨hs.closed, hs.line⟩, rfl⟩
  | take next ih =>
    rw [Schedule.run]
    cases horder : s.hub.queue.order with
    | nil =>
      simp only [WorkQueue.pop_of_nil horder, hs.closed, if_true]
      exact ih none ⟨hs.closed, hs.line⟩
    | cons key rest =>
      simp only [WorkQueue.pop_of_order horder]
      exact ih (some key) ⟨hs.closed, hs.line⟩

/-- Whoever waited goes on. -/
theorem Dismissed.resume (hs : s.Dismissed) (self : Waiter) (p : Paused α) :
    (s.resume self p).2.Dismissed ∧ (s.resume self p).1.awaitsKey = false := by
  cases p with
  | fresh p => exact hs.run self p
  | asleep wake deadline timer next =>
    rw [Schedule.resume]
    split
    · exact hs.run self _
    · split
      · exact hs.run self _
      · exact ⟨hs, rfl⟩
  | waiting next =>
    rw [Schedule.resume, hs.line, if_neg (by simp)]
    exact hs.run self _
  | finished a => exact ⟨hs, rfl⟩
  | aborted => exact ⟨hs, rfl⟩

theorem Dismissed.continueSweeper (hs : s.Dismissed) (id : ℕ) (due : Moment) (timer : ℕ)
    (interval : Span) : (s.continueSweeper id due timer interval).Dismissed := by
  have hrun := (hs.run (.task id) Runner.resync).1
  unfold Schedule.continueSweeper
  split
  · dsimp only
    split
    · exact ⟨hrun.closed, hrun.line⟩
    · exact ⟨hrun.closed, hrun.line⟩
  · exact ⟨hs.closed, hs.line⟩

theorem Dismissed.beginRunner (hs : s.Dismissed) : s.beginRunner.Dismissed := by
  have hrun := (hs.run .front Runner.resync).1
  unfold Schedule.beginRunner
  dsimp only
  have hspawned (t : Schedule σ) (ht : t.Dismissed) :
      Dismissed { ((List.range (Nat.max t.settings.workers 1)).foldl
        (fun s _ => s.spawn (.worker (.fresh (Runner.processNext s.settings)))) t) with
        runner := .running ((List.range (Nat.max t.settings.workers 1)).map (t.spawned + ·)) } := by
    have := ht.spawnAll (fun s => .worker (.fresh (Runner.processNext s.settings)))
      (List.range (Nat.max t.settings.workers 1))
    exact ⟨this.closed, this.line⟩
  split
  · split
    · exact hspawned _ hrun
    · exact hspawned _ ⟨hrun.closed, hrun.line⟩
  · exact hspawned _ hrun

theorem Dismissed.take (hs : s.Dismissed) (turn : Turn) : (s.take turn).Dismissed := by
  cases turn with
  | add key => exact hs.answer _
  | begin => exact hs.beginRunner
  | task id =>
    unfold Schedule.take
    dsimp only
    split
    · exact hs
    · split
      · rename_i p _
        have hresumed := (hs.resume (.task id) p).1
        exact ⟨hresumed.closed, hresumed.line⟩
      · rename_i p _
        exact (hs.resume (.task id) p).1.continueWorker id _
      · exact hs.continueSweeper id _ _ _

/-- **Nobody comes to stand in line** for a queue that was shut down. -/
theorem Dismissed.moves (hs : s.Dismissed) (moves : s.Moves s') : s'.Dismissed := by
  induction moves with
  | rest => exact hs
  | ran before self p ih => exact (ih.run self p).1
  | @took s' turn later before ready ih =>
    have hready : Dismissed { s' with ready := later } := ⟨ih.closed, ih.line⟩
    exact hready.take turn
  | spawned before errand ih => exact ⟨ih.closed, ih.line⟩
  | passed before tick ih => exact ⟨ih.closed, ih.line⟩
  | changed before store ih => exact ⟨ih.closed, ih.line⟩
  | waited before ih => exact ⟨ih.closed, ih.line⟩
  | gaveUp before ih =>
    have hline := congrArg (List.filter (· ≠ .front)) ih.line
    exact ⟨ih.closed, hline⟩

/-! ## What a schedule does is made of such moves -/

theorem Moves.resume (before : s.Moves s') (self : Waiter) (p : Paused α) :
    s.Moves (s'.resume self p).2 := by
  cases p with
  | fresh p => exact before.ran self p
  | asleep wake deadline timer next =>
    rw [Schedule.resume]
    split
    · exact before.ran self _
    · split
      · exact before.ran self _
      · exact before
  | waiting next =>
    rw [Schedule.resume]
    split
    · exact before
    · exact before.ran self _
  | finished a => exact before
  | aborted => exact before

theorem Moves.settle (before : s.Moves s') (fuel : ℕ) : s.Moves (s'.settle fuel) := by
  induction fuel generalizing s' with
  | zero => exact before
  | succ fuel ih =>
    rw [Schedule.settle]
    split
    · exact before
    · rename_i turn later ready
      exact ih (before.took ready)

/-- **A program in front** that is driven to its end only makes such
moves. -/
theorem Moves.drive (before : s.Moves s') (limit : Option ℕ) (fuel : ℕ) (p : Paused α) :
    s.Moves (s'.drive limit fuel p).2 := by
  induction fuel generalizing s' p with
  | zero => exact before
  | succ fuel ih =>
    have resumed := before.resume .front p
    rw [Schedule.drive]
    split
    · rename_i heq
      rw [heq] at resumed
      exact resumed
    · rename_i heq
      rw [heq] at resumed
      exact resumed
    · rename_i heq
      rw [heq] at resumed
      dsimp only
      split
      · exact resumed.waited.gaveUp
      · have settled := resumed.waited.settle fuel
        split
        · exact ih settled _
        · split
          · exact settled.gaveUp
          · exact ih (settled.passed _) _

/-! ## The shutdown -/

theorem dismissed_shutdown (s : Stage) : s.shutdown.Dismissed :=
  ⟨rfl, rfl⟩

/-- Whether somebody has been woken: its turn is to come. -/
def Woken (s : Schedule σ) : Waiter → Prop
  | .front => s.frontWoken = true
  | .task id => .task id ∈ s.ready

/-- **The shutdown wakes everybody who stands in line.** -/
theorem woken_shutdown {s : Stage} {waiter : Waiter} (hmem : waiter ∈ s.line) :
    s.shutdown.Woken waiter := by
  cases waiter with
  | front =>
    have hfront : s.line.contains .front = true := List.contains_iff_mem.2 hmem
    change (s.frontWoken || s.line.contains .front) = true
    rw [hfront, Bool.or_true]
  | task id =>
    exact List.mem_append_right _ (List.mem_filterMap.2 ⟨_, hmem, rfl⟩)

end Schedule

end ClusterFleet
