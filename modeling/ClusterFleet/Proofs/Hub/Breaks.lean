import ClusterFleet.Hub.State

/-!
# Hub — where a program breaks off

A program that runs alone and is broken off gives no result, and nothing
that was to follow is done (`runAlone_bind`). `Breaks` is read off the
program: a call passes it on, two programs put together break off where
either does (`breaks_bind`), and a program without `abort` never does
(`Program.Whole`).
-/

namespace ClusterFleet

variable {σ α β : Type}

/-- The program has no `abort` in it. -/
def Program.Whole : Program α → Prop
  | .done _ => True
  | .abort => False
  | .call _ next => ∀ a, (next a).Whole
  | .sleep _ _ next => ∀ slept, (next slept).Whole
  | .take next => ∀ key, (next key).Whole

theorem Program.Whole.bind {p : Program α} {f : α → Program β} (hp : p.Whole)
    (hf : ∀ a, (f a).Whole) : (p.bind f).Whole := by
  induction p with
  | done a => exact hf a
  | abort => exact hp.elim
  | call c next ih => exact fun a => ih a (hp a)
  | sleep delay deadline next ih => exact fun slept => ih slept (hp slept)
  | take next ih => exact fun key => ih key (hp key)

namespace Hub

variable [Authority σ] {h : Hub σ} {p : Program α} {f : α → Program β}

/-- The program is broken off when it runs alone. -/
def Breaks (p : Program α) (h : Hub σ) : Prop := (runAlone p h).1 = .aborted

theorem breaks_call {c : Call} {next : c.Answer → Program α} :
    Breaks (.call c next) h ↔ Breaks (next (h.answer c).1) (h.answer c).2 := Iff.rfl

/-- What comes after a program that ran alone. -/
def chain (f : α → Program β) : Ending α × Hub σ → Ending β × Hub σ
  | (.result a, h) => runAlone (f a) h
  | (.aborted, h) => (.aborted, h)
  | (.stuck, h) => (.stuck, h)

/-- **Two programs put together** run one after the other, if the first has
a result. -/
theorem runAlone_bind (p : Program α) (f : α → Program β) (h : Hub σ) :
    runAlone (p.bind f) h = chain f (runAlone p h) := by
  induction p generalizing h with
  | done a => rfl
  | abort => rfl
  | call c next ih => exact ih _ _
  | sleep delay deadline next ih => exact ih _ _
  | take next ih =>
    rw [Program.bind, runAlone, runAlone]
    cases h.queue.pop with
    | mk delivery queue =>
      cases delivery with
      | key key => exact ih _ _
      | closed => exact ih _ _
      | wait => rfl

theorem breaks_bind : Breaks (p.bind f) h ↔
    Breaks p h ∨ ∃ a mid, runAlone p h = (.result a, mid) ∧ Breaks (f a) mid := by
  unfold Breaks
  rw [runAlone_bind]
  rcases runAlone p h with ⟨_ | _ | _, mid⟩
  · rename_i a
    constructor
    · exact fun hbreaks => .inr ⟨a, mid, rfl, hbreaks⟩
    · rintro (hbreaks | ⟨a', mid', heq, hbreaks⟩)
      · cases hbreaks
      · cases heq
        exact hbreaks
  · exact ⟨fun _ => .inl rfl, fun _ => rfl⟩
  · constructor
    · intro hbreaks
      cases hbreaks
    · rintro (hbreaks | ⟨a', mid', heq, -⟩)
      · cases hbreaks
      · cases heq

/-- A program without `abort` is never broken off. -/
theorem not_breaks (hp : p.Whole) (h : Hub σ) : ¬Breaks p h := by
  unfold Breaks
  induction p generalizing h with
  | done a => exact fun heq => nomatch heq
  | abort => exact hp.elim
  | call c next ih => exact ih _ (hp _) _
  | sleep delay deadline next ih => exact ih _ (hp _) _
  | take next ih =>
    rw [runAlone]
    cases h.queue.pop with
    | mk delivery queue =>
      cases delivery with
      | key key => exact ih _ (hp _) _
      | closed => exact ih _ (hp _) _
      | wait => exact fun heq => nomatch heq

/-- Where only the first of two programs can be broken off, both together
are if it is. -/
theorem breaks_bind_whole (hf : ∀ a, (f a).Whole) : Breaks (p.bind f) h ↔ Breaks p h := by
  rw [breaks_bind]
  refine or_iff_left fun ⟨a, mid, _, hbreaks⟩ => ?_
  exact not_breaks (hf a) mid hbreaks

end Hub

end ClusterFleet
