import ClusterFleet.Proofs.Hub.Step

/-!
# Hub — a program amid others

A program seldom has the store to itself: between any two of its steps
others change it, and time passes. `AmidRun` is a program up to some
point, with whatever fell between its steps, and keeps the record of both.

What a program does next depends on nothing but the answers it got. So
what it asks can be told from the program alone (`Program.Safe`), without
the store and without the others, and holds in every run amid them
(`AmidRun.safe`).
-/

namespace ClusterFleet

/-- A call and the answer that it got. -/
structure Exchange where
  call : Call
  answer : call.Answer

/-- A read that found an object. -/
def Exchange.found (kind : Kind) (key : Key) (object : Resource) : Exchange :=
  ⟨.get kind key, (.ok (some object) : Except StoreError (Option Resource))⟩

/-- A status write that succeeded, with what is stored after it. -/
def Exchange.wrote (kind : Kind) (object written : Resource) : Exchange :=
  ⟨.updateStatus kind object, (.ok written : Except StoreError Resource)⟩

namespace Program

variable {α β : Type} {ok ok' : List Exchange → Call → Prop}
variable {post post' : α → List Exchange → Prop} {trace : List Exchange} {p : Program α}

/-- Whatever answers it gets, each call of the program is as `ok` says of
the exchanges before it, and its result is as `post` says of all of
them. -/
def Safe (ok : List Exchange → Call → Prop) (post : α → List Exchange → Prop) :
    Program α → List Exchange → Prop
  | done a, trace => post a trace
  | abort, _ => True
  | call c next, trace => ok trace c ∧ ∀ a, Safe ok post (next a) (trace ++ [⟨c, a⟩])
  | sleep _ _ next, trace => ∀ slept, Safe ok post (next slept) trace
  | take next, trace => ∀ key, Safe ok post (next key) trace

theorem Safe.bind {f : α → Program β} {post : β → List Exchange → Prop}
    (safe : p.Safe ok (fun a trace => (f a).Safe ok post trace) trace) :
    (p.bind f).Safe ok post trace := by
  induction p generalizing trace with
  | done a => exact safe
  | abort => trivial
  | call c next ih => exact ⟨safe.1, fun a => ih a (safe.2 a)⟩
  | sleep delay deadline next ih => exact fun slept => ih slept (safe slept)
  | take next ih => exact fun key => ih key (safe key)

theorem Safe.mono (hok : ∀ trace c, ok trace c → ok' trace c)
    (hpost : ∀ a trace, post a trace → post' a trace) (safe : p.Safe ok post trace) :
    p.Safe ok' post' trace := by
  induction p generalizing trace with
  | done a => exact hpost a trace safe
  | abort => trivial
  | call c next ih => exact ⟨hok trace c safe.1, fun a => ih a (safe.2 a)⟩
  | sleep delay deadline next ih => exact fun slept => ih slept (safe slept)
  | take next ih => exact fun key => ih key (safe key)

/-- A program for each item of a list is safe if each of them is, and what
holds before the first holds between any two. -/
theorem safe_each {f : α → Program Unit} {inv : List Exchange → Prop}
    (hf : ∀ a trace, inv trace → (f a).Safe ok (fun _ => inv) trace) (items : List α)
    (h : inv trace) : (each f items).Safe ok (fun _ => inv) trace := by
  induction items generalizing trace with
  | nil => exact h
  | cons a rest ih => exact Safe.bind ((hf a trace h).mono (fun _ _ => id) fun _ _ hinv => ih hinv)

end Program

variable {σ α : Type}

/-- One thing that happens while a program is under way. -/
inductive AmidTurn (σ : Type) where
  /-- The program makes a call and gets this answer. -/
  | asked (exchange : Exchange) (before after : σ)
  /-- The program takes a step that is no call. -/
  | moved
  /-- Somebody else changes the store. -/
  | edited (before after : σ)
  | passed

/-- The exchange of a turn, if the program makes a call. -/
def AmidTurn.exchange? : AmidTurn σ → Option Exchange
  | .asked exchange _ _ => some exchange
  | _ => none

/-- The exchanges of the program, oldest first. -/
def exchanges (turns : List (AmidTurn σ)) : List Exchange := turns.filterMap AmidTurn.exchange?

variable {turns before after : List (AmidTurn σ)}

theorem exchanges_snoc (turns : List (AmidTurn σ)) (t : AmidTurn σ) :
    exchanges (turns ++ [t]) = exchanges turns ++ t.exchange?.toList := by
  rw [exchanges, List.filterMap_append]
  cases t <;> rfl

/-- Where the program made some exchanges and then one more, there is the
turn of that one. -/
theorem exchanges_split {x : Exchange} {first later : List Exchange}
    (heq : exchanges turns = first ++ x :: later) :
    ∃ before after s s', turns = before ++ .asked x s s' :: after ∧
      exchanges before = first ∧ exchanges after = later := by
  obtain ⟨start, rest, rfl, hfirst, hrest⟩ := List.filterMap_eq_append_iff.1 heq
  obtain ⟨aside, t, after, rfl, haside, ht, hafter⟩ := List.filterMap_eq_cons_iff.1 hrest
  cases t with
  | asked exchange s s' =>
    -- what stands between the two exchanges is none
    obtain rfl := Option.some.inj ht
    refine ⟨start ++ aside, after, s, s', (List.append_assoc _ _ _).symm, ?_, hafter⟩
    rw [exchanges, List.filterMap_append, hfirst, List.filterMap_eq_nil_iff.2 haside,
      List.append_nil]
  | moved => cases ht
  | edited => cases ht
  | passed => cases ht

section Amid

variable [Authority σ] {others : σ → σ → Prop}

/-- One turn: the program takes a step, or the store is changed as others
may, or time passes. -/
inductive AmidStep (others : σ → σ → Prop) :
    Program α → Hub σ → AmidTurn σ → Program α → Hub σ → Prop
  | asked {c : Call} {next : c.Answer → Program α} {h h' : Hub σ} {a : c.Answer}
      (answers : h.Answers c a h') :
      AmidStep others (.call c next) h (.asked ⟨c, a⟩ h.store h'.store) (next a) h'
  | moved {p p' : Program α} {h h' : Hub σ} (step : Step p h none p' h') :
      AmidStep others p h .moved p' h'
  | edited {p : Program α} {h : Hub σ} {store : σ} (edit : others h.store store) :
      AmidStep others p h (.edited h.store store) p { h with store := store }
  | passed {p : Program α} {h h' : Hub σ} (passes : h.Passes h') :
      AmidStep others p h .passed p h'

/-- Turns one after another. -/
inductive AmidRun (others : σ → σ → Prop) (p : Program α) (h : Hub σ) :
    List (AmidTurn σ) → Program α → Hub σ → Prop
  | start : AmidRun others p h [] p h
  | step {turns : List (AmidTurn σ)} {p' p'' : Program α} {h' h'' : Hub σ} {t : AmidTurn σ} :
      AmidRun others p h turns p' h' → AmidStep others p' h' t p'' h'' →
        AmidRun others p h (turns ++ [t]) p'' h''

variable {p p' : Program α} {h h' : Hub σ} {t : AmidTurn σ} {ok : List Exchange → Call → Prop}
variable {post : α → List Exchange → Prop}

/-- A turn leaves the program safe after its exchange. -/
theorem AmidStep.safe {trace : List Exchange} (step : AmidStep others p h t p' h')
    (safe : p.Safe ok post trace) : p'.Safe ok post (trace ++ t.exchange?.toList) := by
  cases step with
  | asked answers => exact safe.2 _
  | moved step =>
    change p'.Safe ok post (trace ++ [])
    rw [List.append_nil]
    cases step with
    | sleep passes cut => exact safe _
    | take pop => exact safe _
    | takeNone pop => exact safe _
  | edited edit => rwa [← List.append_nil trace] at safe
  | passed passes => rwa [← List.append_nil trace] at safe

/-- A call of a safe program is as it should be. -/
theorem AmidStep.allowed {trace : List Exchange} {x : Exchange} {s s' : σ}
    (step : AmidStep others p h (.asked x s s') p' h') (safe : p.Safe ok post trace) :
    ok trace x.call := by
  cases step with
  | asked answers => exact safe.1

/-- **What a program does amid others** can be told from the program. -/
theorem AmidRun.safe (run : AmidRun others p h turns p' h') (safe : p.Safe ok post []) :
    p'.Safe ok post (exchanges turns) := by
  induction run with
  | start => exact safe
  | step _ step ih =>
    rw [exchanges_snoc]
    exact step.safe ih

/-- A run up to one of its turns, that turn, and the rest. -/
theorem AmidRun.split (run : AmidRun others p h (before ++ t :: after) p' h') :
    ∃ p₁ h₁ p₂ h₂, AmidRun others p h before p₁ h₁ ∧ AmidStep others p₁ h₁ t p₂ h₂ ∧
      AmidRun others p₂ h₂ after p' h' := by
  -- the turn is the last one, or the run before the last one is split at it
  generalize hturns : before ++ t :: after = turns at run
  induction run generalizing after with
  | start => simp at hturns
  | @step turns p₁ p₂ h₁ h₂ last run step ih =>
    obtain ⟨rfl, rfl, rfl⟩ | ⟨earlier, rfl, hearlier⟩ := split_snoc hturns.symm
    · exact ⟨p₁, h₁, p₂, h₂, run, step, .start⟩
    · obtain ⟨q₁, k₁, q₂, k₂, run₁, step₁, run₂⟩ := ih hearlier.symm
      exact ⟨q₁, k₁, q₂, k₂, run₁, step₁, run₂.step step⟩

/-! ## Along a run -/

/-- The program and the hub after some steps of the program alone: calls
get their usual answer, and no sleep is cut short. -/
def Program.advance : Nat → Program α → Hub σ → Program α × Hub σ
  | 0, p, h => (p, h)
  | n + 1, .call c next, h => advance n (next (h.answer c).1) (h.answer c).2
  | n + 1, .sleep _ _ next, h => advance n (next true) h
  | _ + 1, p, h => (p, h)

/-- What each usual answer and each whole sleep keeps, any number of them
keeps. -/
theorem Program.advance_keeps {motive : Program α → Hub σ → Prop}
    (call : ∀ {c : Call} {next : c.Answer → Program α} {h : Hub σ}, motive (.call c next) h →
      motive (next (h.answer c).1) (h.answer c).2)
    (sleep : ∀ {delay : Span} {deadline : Option Moment} {next : Bool → Program α} {h : Hub σ},
      motive (.sleep delay deadline next) h → motive (next true) h)
    (start : motive p h) (n : Nat) : motive (p.advance n h).1 (p.advance n h).2 := by
  induction n generalizing p h with
  | zero => exact start
  | succ n ih =>
    cases p with
    | call c next => exact ih (call start)
    | sleep delay deadline next => exact ih (sleep start)
    | done a => exact start
    | abort => exact start
    | take next => exact start

/-- A run goes on from where a program comes to on its own. -/
theorem Runs.of_advance {n : Nat} {calls : List Call} {ending : Hub.Ending α}
    (rest : Runs (p.advance n h).1 (p.advance n h).2 calls ending h') :
    ∃ calls', Runs p h calls' ending h' := by
  refine Program.advance_keeps (p := p) (h := h) (motive := fun q k =>
    ∀ calls, Runs q k calls ending h' → ∃ calls', Runs p h calls' ending h')
    (fun ih calls run => ?_) (fun ih calls run => ?_) (fun calls run => ⟨calls, run⟩) n calls rest
  · exact ih _ (.step (.call (.usual _ _)) run)
  · exact ih _ (.step (.rested ..) run)

theorem AmidRun.advance (run : AmidRun others p h turns p' h') (n : Nat) :
    ∃ later, AmidRun others p h (turns ++ later) (p'.advance n h').1 (p'.advance n h').2 := by
  refine Program.advance_keeps (motive := fun q k =>
    ∃ later, AmidRun others p h (turns ++ later) q k) ?_ ?_ ⟨[], by rwa [List.append_nil]⟩ n
  · rintro c next k ⟨later, run'⟩
    exact ⟨_, List.append_assoc .. ▸ run'.step (.asked (.usual c k))⟩
  · rintro delay deadline next k ⟨later, run'⟩
    exact ⟨_, List.append_assoc .. ▸ run'.step (.moved (.rested ..))⟩

end Amid

end ClusterFleet
