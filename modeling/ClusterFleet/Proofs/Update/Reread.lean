import ClusterFleet.Proofs.Hub.Amid
import ClusterFleet.Proofs.Update.Position

/-!
# Status updates — every write follows a read

An update never writes from memory. Each attempt reads the object anew,
and its write comes right after that read and takes everything but the
conditions from it (`WritesRead`), whatever the update was told before
(`rereads_ofJob`).
-/

namespace ClusterFleet

namespace StatusUpdate

open Program Position

/-- A status write of a job comes right after a read of the object, and
writes what the mutations make of the conditions that were read, on
nothing but what was read. All this is after `first`. -/
def WritesRead (job : UpdateJob) (first trace : List Exchange) (c : Call) : Prop :=
  ∀ kind object, c = .updateStatus kind object →
    kind = job.kind ∧ ∃ between read conditions,
      trace = first ++ between ++ [.found job.kind job.key read] ∧
      Mutation.applyAll job.mutations read.conditions = .ok conditions ∧
      object = { read with conditions := conditions }

variable {job : UpdateJob} {first : List Exchange}

/-- The program writes only what it read, after `first` and some more
exchanges. -/
def Rereads (job : UpdateJob) (first between : List Exchange) (p : Update) : Prop :=
  p.Safe (WritesRead job first) (fun _ _ => True) (first ++ between)

theorem WritesRead.of_ne {c : Call} {trace : List Exchange}
    (hc : ∀ kind object, c ≠ .updateStatus kind object) : WritesRead job first trace c :=
  fun kind object heq => absurd heq (hc kind object)

/-- A call that is no write, and then a program that writes only what it
read. -/
theorem Rereads.call {c : Call} {next : c.Answer → Update} {between : List Exchange}
    (hc : ∀ kind object, c ≠ .updateStatus kind object)
    (hnext : ∀ a, Rereads job first (between ++ [⟨c, a⟩]) (next a)) :
    Rereads job first between (.call c next) := by
  refine ⟨.of_ne hc, fun a => ?_⟩
  rw [List.append_assoc]
  exact hnext a

/-- What follows a write, if what follows a loss writes only what it
read. -/
theorem rereads_afterWrite {attempt left : Nat}
    (hloss : ∀ between, Rereads job first between (afterLoss job attempt left))
    (written : Except StoreError Resource) (between : List Exchange) :
    Rereads job first between (afterWrite job attempt left written) := by
  cases written with
  | ok written => exact .call (by rintro _ _ ⟨⟩) fun _ => trivial
  | error e =>
    simp only [afterWrite]
    split
    · exact .call (by rintro _ _ ⟨⟩) fun a => hloss _
    · trivial

/-- **An attempt**, if what follows its loss writes only what it read: its
write has the conditions that the mutations make of those just read. -/
theorem rereads_attemptsFrom {attempt left : Nat}
    (hloss : ∀ between, Rereads job first between (afterLoss job attempt left))
    (between : List Exchange) : Rereads job first between (attemptsFrom job attempt left) := by
  rw [attemptsFrom_eq]
  -- the read is the last exchange before the write, so what it found is what is written over
  refine .call (fun _ _ => nofun) fun found => ?_
  rcases found with e | _ | object
  · trivial
  · trivial
  rw [ofRead]
  rcases happly : Mutation.applyAll job.mutations object.conditions with (e | _) | conditions
  · trivial
  · trivial
  dsimp only
  split
  · trivial
  · refine ⟨fun kind written heq => ?_, fun written => ?_⟩
    · obtain ⟨rfl, rfl⟩ := Call.updateStatus.inj heq
      exact ⟨rfl, between, object, conditions, (List.append_assoc _ _ _).symm, happly, rfl⟩
    · rw [List.append_assoc]
      exact rereads_afterWrite hloss written _

/-- **Every attempt** writes only what it read: a lost write leads to a
pause and to an attempt that reads again. -/
theorem rereads_afterLoss (job : UpdateJob) (first between : List Exchange) (attempt left : Nat) :
    Rereads job first between (afterLoss job attempt left) := by
  induction left generalizing attempt between with
  | zero => trivial
  | succ left ih =>
    refine .call (fun _ _ => nofun) fun drawn slept => ?_
    cases slept with
    | true => exact rereads_attemptsFrom (fun between => ih between (attempt + 1)) _
    | false => exact Rereads.call (fun _ _ => nofun) fun _ => trivial

/-- **An update** writes only what it read. -/
theorem rereads_ofJob (job : UpdateJob) (first : List Exchange) :
    Rereads job first [] (ofJob job) :=
  rereads_attemptsFrom (fun between => rereads_afterLoss job first between 1 _) []

/-- **An update comes to write** where it finds the object and the mutations
change its conditions. -/
theorem amidRun_found {σ : Type} [Authority σ] {others : σ → σ → Prop} {h : Hub σ}
    {read : Resource} {conditions : List Condition}
    (hread : (Authority.get job.kind job.key h.store).1 = .ok (some read))
    (happly : Mutation.applyAll job.mutations read.conditions = .ok conditions)
    (hchanged : conditions ≠ read.conditions) :
    ∃ next, AmidRun others (ofJob job) h
      [.asked (.found job.kind job.key read) h.store (Authority.get job.kind job.key h.store).2]
      (.call (.updateStatus job.kind { read with conditions := conditions }) next)
      { h with store := (Authority.get job.kind job.key h.store).2 } := by
  have answers := Hub.Answers.get job.kind job.key h
  rw [hread] at answers
  have hjob : ofJob job = call (.get job.kind job.key) fun found =>
      (ofRead job 1 (job.policy.attempts - 1) found).program job := attemptsFrom_eq job 1 _
  have hnext : ofRead job 1 (job.policy.attempts - 1) (.ok (some read)) =
      .writing 1 (job.policy.attempts - 1) read conditions := by
    simp only [ofRead, happly, if_neg hchanged]
  have run : AmidRun others (ofJob job) h [] (ofJob job) h := .start
  rw [hjob] at run ⊢
  have run' := run.step (.asked answers)
  rw [hnext] at run'
  exact ⟨_, run'⟩

end StatusUpdate

end ClusterFleet
