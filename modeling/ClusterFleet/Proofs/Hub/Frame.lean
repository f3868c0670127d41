import ClusterFleet.Proofs.Hub.Step

/-!
# Hub — what a program leaves alone

A program that makes only calls of some kinds (`Program.Uses`) changes the
hub only as these calls and passing time do (`Runs.frame`).
-/

namespace ClusterFleet

namespace Program

variable {α β : Type} {allowed : Call → Prop}

/-- The program makes only allowed calls, and takes no key. -/
def Uses (allowed : Call → Prop) : Program α → Prop
  | done _ => True
  | abort => True
  | call c next => allowed c ∧ ∀ a, Uses allowed (next a)
  | sleep _ _ next => ∀ slept, Uses allowed (next slept)
  | take _ => False

theorem Uses.bind {p : Program α} {f : α → Program β} (hp : p.Uses allowed)
    (hf : ∀ a, (f a).Uses allowed) : (p.bind f).Uses allowed := by
  induction p with
  | done a => exact hf a
  | abort => trivial
  | call c next ih => exact ⟨hp.1, fun a => ih a (hp.2 a)⟩
  | sleep delay deadline next ih => exact fun slept => ih slept (hp slept)
  | take next ih => exact hp.elim

theorem Uses.mono {p : Program α} {allowed' : Call → Prop} (h : ∀ c, allowed c → allowed' c)
    (hp : p.Uses allowed) : p.Uses allowed' := by
  induction p with
  | done a => trivial
  | abort => trivial
  | call c next ih => exact ⟨h c hp.1, fun a => ih a (hp.2 a)⟩
  | sleep delay deadline next ih => exact fun slept => ih slept (hp slept)
  | take next ih => exact hp.elim

theorem uses_each {f : α → Program Unit} (hf : ∀ a, (f a).Uses allowed) (items : List α) :
    (each f items).Uses allowed := by
  induction items with
  | nil => trivial
  | cons a rest ih => exact (hf a).bind fun _ => ih

end Program

namespace Runs

variable {σ : Type} [Authority σ] {α : Type} {p : Program α} {h h' : Hub σ} {calls : List Call}
variable {ending : Hub.Ending α} {allowed : Call → Prop}

theorem uses_step {p' : Program α} {c : Option Call} (hp : p.Uses allowed)
    (step : Step p h c p' h') : p'.Uses allowed ∧ ∀ c', c = some c' → allowed c' := by
  cases step with
  | call answers =>
    refine ⟨hp.2 _, ?_⟩
    rintro c' ⟨⟩
    exact hp.1
  | sleep passes cut => exact ⟨hp _, fun _ h => (nomatch h)⟩
  | take pop => exact hp.elim
  | takeNone pop => exact hp.elim

/-- **The frame of a program**: it makes allowed calls only, it does not wait
for a key, and a relation that holds across allowed calls and passing time
holds across the run. -/
theorem frame {related : Hub σ → Hub σ → Prop} (hrefl : related h h)
    (hcall : ∀ {c : Call} {a : c.Answer} {k k' : Hub σ}, allowed c → k.Answers c a k' →
      related h k → related h k')
    (hpasses : ∀ {k k' : Hub σ}, k.Passes k' → related h k → related h k')
    (hp : p.Uses allowed) (run : Runs p h calls ending h') :
    related h h' ∧ (∀ c ∈ calls, allowed c) ∧ ending ≠ .stuck := by
  -- the relation is to the start of the whole run, so the rest is run from anywhere related
  suffices hgeneral : ∀ k, related h k → p.Uses allowed → Runs p k calls ending h' →
      related h h' ∧ (∀ c ∈ calls, allowed c) ∧ ending ≠ .stuck from hgeneral h hrefl hp run
  clear hp run
  intro k hk hp run
  induction run with
  | done a => exact ⟨hk, fun _ h => (nomatch h), fun h => (nomatch h)⟩
  | abort => exact ⟨hk, fun _ h => (nomatch h), fun h => (nomatch h)⟩
  | stuck pop => exact hp.elim
  | @step p p' k k' h' c calls ending step rest ih =>
    obtain ⟨hp', hc⟩ := uses_step hp step
    have hk' : related h k' := by
      cases step with
      | call answers => exact hcall hp.1 answers hk
      | sleep passes cut => exact hpasses passes hk
      | take pop => exact hp.elim
      | takeNone pop => exact hp.elim
    obtain ⟨hrelated, hcalls, hending⟩ := ih hk' hp'
    refine ⟨hrelated, fun c' hc' => ?_, hending⟩
    rcases List.mem_append.mp hc' with hc' | hc'
    · exact hc c' (Option.mem_toList.mp hc')
    · exact hcalls c' hc'

end Runs

end ClusterFleet
