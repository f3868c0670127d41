import ClusterFleet.Hub.Settings
import ClusterFleet.Proofs.Decimal.Reading
import ClusterFleet.Proofs.Text.Parts

/-!
# Hub — settings stand alone

Each setting has a variable of its own (`Setting.key`) and a rule that tells
what a text means for it (`Setting.Says`). The settings that come of an
environment follow from the rules alone: a setting is what the text of its
variable says, and its default if the text says nothing or is not there
(`Setting.read?_eq_some_iff`, `Setting.value_ofEnvironment`). So no setting
sees the variable of another one, and none can be set to a value that the
hub cannot work with.

The two factors of the delays between retries are doubles and not among
these settings.
-/

namespace ClusterFleet

/-! ## What texts say -/

namespace Settings

variable {env : Environment} {name text : String} {bits n : Nat} {yes : Bool}

/-- A text is a number of so many bits: between blanks it denotes one. -/
def IsNumber (bits : Nat) (text : String) (n : Nat) : Prop :=
  ∃ cs, Text.Framed text.toList cs ∧ Decimal.Denotes cs n ∧ n < 2 ^ bits

/-- The words for yes and for no. -/
def flagWords : Bool → List String
  | true => ["1", "true", "yes", "on"]
  | false => ["0", "false", "no", "off"]

/-- A text is a yes or a no: between blanks it is a word for it, in whatever
case. -/
def IsFlag (text : String) (yes : Bool) : Prop :=
  ∃ cs, Text.Framed text.toList cs ∧ String.ofList (cs.map Char.toLower) ∈ flagWords yes

/-- What is read of a variable is read of what stands between blanks in its
text, if nothing with a blank in it is ever read. -/
theorem bind_trimmed?_eq_some_iff {α : Type} {read : List Char → Option α} {v : α}
    (hfree : ∀ cs, read cs = some v → ∀ c ∈ cs, Text.isBlank c = false) :
    (trimmed? env name).bind read = some v ↔
      ∃ text, env name = some text ∧ ∃ cs, Text.Framed text.toList cs ∧ read cs = some v := by
  simp only [trimmed?, Option.bind_eq_some_iff, Option.map_eq_some_iff]
  constructor
  · rintro ⟨cs, ⟨text, henv, htrim⟩, hread⟩
    exact ⟨text, henv, cs, (Text.trim_eq_iff (hfree cs hread)).1 htrim, hread⟩
  · rintro ⟨text, henv, cs, hframed, hread⟩
    exact ⟨cs, ⟨text, henv, (Text.trim_eq_iff (hfree cs hread)).2 hframed⟩, hread⟩

/-- **A number is read** from a variable whose text is one. -/
theorem word?_eq_some_iff :
    word? bits env name = some n ↔ ∃ text, env name = some text ∧ IsNumber bits text n := by
  have hread (cs : List Char) : Decimal.readBounded (Decimal.maxWord bits) cs = some n ↔
      Decimal.Denotes cs n ∧ n < 2 ^ bits := by
    rw [Decimal.readBounded_eq_some_iff, Decimal.le_maxWord_iff]
  rw [word?, bind_trimmed?_eq_some_iff fun cs h => ((hread cs).1 h).1.not_isBlank]
  simp only [hread, IsNumber]

/-- A blank is no letter, so it has no other case. -/
theorem isBlank_toLower_of_isBlank {c : Char} (h : Text.isBlank c = true) :
    Text.isBlank c.toLower = true := by
  -- only letters have another case, and no range of blanks meets theirs
  have hlower : c.toLower = c := by
    refine dif_neg fun hupper => ?_
    have hrange : 65 ≤ c.toNat ∧ c.toNat ≤ 90 := hupper
    simp only [Text.isBlank, Text.blankRanges, List.any_cons, List.any_nil, Bool.or_eq_true,
      Bool.and_eq_true, decide_eq_true_eq, Bool.false_eq_true, or_false] at h
    omega
  rwa [hlower]

/-- No blank stands in a word for yes or no. -/
theorem not_isBlank_of_mem_flagWords {cs : List Char}
    (h : String.ofList (cs.map Char.toLower) ∈ flagWords yes) :
    ∀ c ∈ cs, Text.isBlank c = false := by
  have hwords : (flagWords yes).all (fun word => word.toList.all (!Text.isBlank ·)) = true := by
    cases yes <;> decide
  intro c hc
  have hlower : c.toLower ∈ (String.ofList (cs.map Char.toLower)).toList := by
    rw [String.toList_ofList]
    exact List.mem_map_of_mem hc
  rw [← Bool.not_eq_true]
  intro hblank
  have hfree := List.all_eq_true.1 (List.all_eq_true.1 hwords _ h) _ hlower
  rw [isBlank_toLower_of_isBlank hblank] at hfree
  cases hfree

/-- A word is looked for among those for yes, and then among those for no. -/
theorem flagOfWord_eq_some_iff (yes : Bool) (word : String) :
    (if ["1", "true", "yes", "on"].contains word then some true
      else if ["0", "false", "no", "off"].contains word then some false else none) = some yes ↔
      word ∈ flagWords yes := by
  -- no word is for both, so it does not matter which are looked at first
  have hapart : ∀ word ∈ flagWords false, word ∉ flagWords true := by decide
  change (if (flagWords true).contains word then some true
    else if (flagWords false).contains word then some false else none) = some yes ↔ _
  simp only [List.contains_iff_mem]
  split
  · rename_i htrue
    cases yes with
    | true => exact iff_of_true rfl htrue
    | false => exact iff_of_false nofun fun hfalse => hapart word hfalse htrue
  · rename_i htrue
    split
    · rename_i hfalse
      cases yes with
      | true => exact iff_of_false nofun htrue
      | false => exact iff_of_true rfl hfalse
    · rename_i hfalse
      cases yes with
      | true => exact iff_of_false nofun htrue
      | false => exact iff_of_false nofun hfalse

/-- **A yes or no is read** from a variable whose text is one. -/
theorem flag?_eq_some_iff :
    flag? env name = some yes ↔ ∃ text, env name = some text ∧ IsFlag text yes := by
  have hread (cs : List Char) := flagOfWord_eq_some_iff yes (String.ofList (cs.map Char.toLower))
  rw [flag?, bind_trimmed?_eq_some_iff fun cs h => not_isBlank_of_mem_flagWords ((hread cs).1 h)]
  simp only [hread, IsFlag]

/-- A number that there has to be one of at least is not zero, whatever the
text. -/
theorem one_le_positive (bits : Nat) (env : Environment) (name : String) {default : Nat}
    (h : 1 ≤ default) : 1 ≤ positive bits env name default := by
  rw [positive]
  cases word? bits env name with
  | none => exact h
  | some n => exact Nat.le_max_right n 1

/-- **An interval is turned off** by a zero only. -/
theorem interval_eq_none_iff {default : Option Span} (h : default ≠ none) :
    interval env name default = none ↔ ∃ text, env name = some text ∧ IsNumber 64 text 0 := by
  rw [← word?_eq_some_iff, interval]
  split
  · rename_i hzero
    exact iff_of_true rfl hzero
  · rename_i n hn hword
    rw [hword]
    exact iff_of_false nofun fun heq => hn (Option.some.inj heq)
  · rename_i hnone
    rw [hnone]
    exact iff_of_false h nofun

end Settings

/-! ## The settings -/

/-- The settings that are a number, a span, or a yes or no. -/
inductive Setting where
  | retrySteps
  | retryInitial
  | syncTimeout
  | workers
  | queueCapacity
  | prune
  | resyncInterval
  | requeueBase
  | requeueMax
  deriving DecidableEq

namespace Setting

/-- The variable of a setting. -/
def key : Setting → String
  | retrySteps => "HUB_RETRY_STEPS"
  | retryInitial => "HUB_RETRY_INITIAL_MS"
  | syncTimeout => "HUB_SYNC_TIMEOUT_SECS"
  | workers => "HUB_WORKERS"
  | queueCapacity => "HUB_QUEUE_CAP"
  | prune => "HUB_PRUNE_MEMBERSHIP"
  | resyncInterval => "HUB_RESYNC_SECS"
  | requeueBase => "HUB_REQUEUE_BASE_MS"
  | requeueMax => "HUB_REQUEUE_MAX_SECS"

/-- The values that a setting can have. -/
def Value : Setting → Type
  | retrySteps | workers | queueCapacity => Nat
  | retryInitial | requeueBase | requeueMax => Span
  | syncTimeout | resyncInterval => Option Span
  | prune => Bool

/-- The value of a setting. -/
def value (settings : Settings) : (f : Setting) → f.Value
  | retrySteps => settings.retry.steps
  | retryInitial => settings.retry.initial
  | syncTimeout => settings.syncTimeout
  | workers => settings.workers
  | queueCapacity => settings.queueCapacity
  | prune => settings.prune
  | resyncInterval => settings.resyncInterval
  | requeueBase => settings.requeueBase
  | requeueMax => settings.requeueMax

/-- How much a number is when there has to be one at least. -/
def atLeastOne (n : Nat) : Nat := max n 1

/-- The time after so many seconds, or never where that is none. -/
def secondsOrNever (n : Nat) : Option Span :=
  if n = 0 then none else some (Span.ofSecs n)

/-- **What a text says** for a setting. -/
def Says : (f : Setting) → String → f.Value → Prop
  | retrySteps, text, v => ∃ n, Settings.IsNumber 32 text n ∧ atLeastOne n = v
  | workers, text, v | queueCapacity, text, v =>
    ∃ n, Settings.IsNumber 64 text n ∧ atLeastOne n = v
  | retryInitial, text, v | requeueBase, text, v =>
    ∃ n, Settings.IsNumber 64 text n ∧ Span.ofMillis n = v
  | requeueMax, text, v => ∃ n, Settings.IsNumber 64 text n ∧ Span.ofSecs n = v
  | syncTimeout, text, v | resyncInterval, text, v =>
    ∃ n, Settings.IsNumber 64 text n ∧ secondsOrNever n = v
  | prune, text, v => Settings.IsFlag text v

/-- What is read for a setting, if anything is. -/
def read? (env : Environment) : (f : Setting) → Option f.Value
  | retrySteps => (Settings.word? 32 env (key retrySteps)).map atLeastOne
  | workers => (Settings.word? 64 env (key workers)).map atLeastOne
  | queueCapacity => (Settings.word? 64 env (key queueCapacity)).map atLeastOne
  | retryInitial => (Settings.word? 64 env (key retryInitial)).map Span.ofMillis
  | requeueBase => (Settings.word? 64 env (key requeueBase)).map Span.ofMillis
  | requeueMax => (Settings.word? 64 env (key requeueMax)).map Span.ofSecs
  | syncTimeout => (Settings.word? 64 env (key syncTimeout)).map secondsOrNever
  | resyncInterval => (Settings.word? 64 env (key resyncInterval)).map secondsOrNever
  | prune => Settings.flag? env (key prune)

variable {f : Setting} {env env' : Environment}

theorem map_word?_eq_some_iff {α : Type} {rule : Nat → α} {bits : Nat} {name : String} {v : α} :
    (Settings.word? bits env name).map rule = some v ↔
      ∃ text, env name = some text ∧ ∃ n, Settings.IsNumber bits text n ∧ rule n = v := by
  simp only [Option.map_eq_some_iff, Settings.word?_eq_some_iff]
  constructor
  · rintro ⟨n, ⟨text, henv, hn⟩, hv⟩
    exact ⟨text, henv, n, hn, hv⟩
  · rintro ⟨text, henv, n, hn, hv⟩
    exact ⟨n, ⟨text, henv, hn⟩, hv⟩

/-- **What is read** is what the text of the variable says. -/
theorem read?_eq_some_iff {v : f.Value} :
    f.read? env = some v ↔ ∃ text, env f.key = some text ∧ f.Says text v := by
  cases f with
  | prune => exact Settings.flag?_eq_some_iff
  | _ => exact map_word?_eq_some_iff

theorem interval_eq (env : Environment) (name : String) (default : Option Span) :
    Settings.interval env name default =
      ((Settings.word? 64 env name).map secondsOrNever).getD default := by
  rw [Settings.interval]
  rcases Settings.word? 64 env name with _ | _ | n <;> rfl

/-- **A setting is what is read**, and its default if nothing is. -/
theorem value_ofEnvironment (env : Environment) (f : Setting) :
    f.value (Settings.ofEnvironment env) = (f.read? env).getD (f.value Settings.standard) := by
  cases f with
  | syncTimeout | resyncInterval => exact interval_eq env _ _
  | _ => rfl

/-- What is read depends on the variable of the setting alone. -/
theorem read?_congr (h : env' f.key = env f.key) : f.read? env' = f.read? env := by
  refine Option.ext fun v => ?_
  rw [read?_eq_some_iff, read?_eq_some_iff, h]

theorem key_injective {g : Setting} : f.key = g.key → f = g := by
  cases f <;> cases g <;> decide

/-! ## Standing alone -/

open Settings in
/-- **Settings stand alone, and the hub can work with all of them.** Two
environments that agree on the variable of a setting give it one value,
whatever else they hold. It is what the text of the variable says; if there
is no text, or it says nothing, the default. The two intervals are off just
if their variables say zero, and there is at least one attempt, one worker
and one place in the queue. -/
theorem settings_stand_alone :
    (∀ f g : Setting, f.key = g.key → f = g) ∧
    (∀ (f : Setting) (env env' : Environment), env' f.key = env f.key →
      f.value (ofEnvironment env') = f.value (ofEnvironment env)) ∧
    (∀ (f : Setting) (env : Environment),
      (∀ text, env f.key = some text → ∀ v, ¬f.Says text v) →
        f.value (ofEnvironment env) = f.value standard) ∧
    (∀ (f : Setting) (env : Environment) (text : String) (v : f.Value),
      env f.key = some text → f.Says text v → f.value (ofEnvironment env) = v) ∧
    (∀ env : Environment,
      ((ofEnvironment env).syncTimeout = none ↔
        ∃ text, env "HUB_SYNC_TIMEOUT_SECS" = some text ∧ IsNumber 64 text 0) ∧
      ((ofEnvironment env).resyncInterval = none ↔
        ∃ text, env "HUB_RESYNC_SECS" = some text ∧ IsNumber 64 text 0)) ∧
    ∀ env : Environment, 1 ≤ (ofEnvironment env).retry.steps ∧
      1 ≤ (ofEnvironment env).workers ∧ 1 ≤ (ofEnvironment env).queueCapacity := by
  refine ⟨fun f g => key_injective, fun f env env' h => ?_, fun f env h => ?_,
    fun f env text v henv hsays => ?_, fun env => ⟨?_, ?_⟩, fun env => ⟨?_, ?_, ?_⟩⟩
  · rw [value_ofEnvironment, value_ofEnvironment, read?_congr h]
  · have hnone : f.read? env = none := by
      refine Option.eq_none_iff_forall_ne_some.2 fun v hv => ?_
      obtain ⟨text, henv, hsays⟩ := read?_eq_some_iff.1 hv
      exact h text henv v hsays
    rw [value_ofEnvironment, hnone, Option.getD_none]
  · rw [value_ofEnvironment, read?_eq_some_iff.2 ⟨text, henv, hsays⟩, Option.getD_some]
  · exact interval_eq_none_iff nofun
  · exact interval_eq_none_iff nofun
  · exact one_le_positive 32 env "HUB_RETRY_STEPS" (by decide)
  · exact one_le_positive 64 env "HUB_WORKERS" (by decide)
  · exact one_le_positive 64 env "HUB_QUEUE_CAP" (by decide)

/-- An environment with a number between blanks, one that is too great for
its variable, a zero where one is the least, and a text that is no number. -/
def careless : Environment := fun name =>
  [("HUB_RETRY_STEPS", "\t+007 "), ("HUB_QUEUE_CAP", "18446744073709551616"),
    ("HUB_WORKERS", "0"), ("HUB_RESYNC_SECS", "-1")].lookup name

open Settings in
/-- The number between blanks counts, with the variable of the queue or
without; the number that is too great does not, and no worker is one. -/
theorem settings_stand_alone_careless :
    (ofEnvironment fun name => if name = "HUB_QUEUE_CAP" then none else careless name).retry.steps =
        7 ∧
      (ofEnvironment careless).queueCapacity = standard.queueCapacity ∧
      (ofEnvironment careless).workers = 1 := by
  obtain ⟨-, halone, hdefault, hsaid, -, -⟩ := settings_stand_alone
  have hseven : IsNumber 32 "\t+007 " 7 :=
    ⟨['+', '0', '0', '7'],
      ⟨['\t'], [' '], rfl, List.forall_mem_singleton.2 rfl, List.forall_mem_singleton.2 rfl⟩,
      .signed (List.cons_ne_nil _ _) (List.all_eq_true.1 rfl), by decide⟩
  have hzero : IsNumber 64 "0" 0 :=
    ⟨['0'], ⟨[], [], rfl, List.forall_mem_nil _, List.forall_mem_nil _⟩,
      .bare (List.cons_ne_nil _ _) (List.forall_mem_singleton.2 rfl), by decide⟩
  refine ⟨?_, hdefault queueCapacity careless fun text henv v hsays => ?_,
    hsaid workers careless "0" (1 : Nat) rfl ⟨0, hzero, rfl⟩⟩
  · have hsteps := hsaid retrySteps careless "\t+007 " (7 : Nat) rfl ⟨7, hseven, rfl⟩
    exact (halone retrySteps careless _ rfl).trans hsteps
  · have hnone : (queueCapacity.read? careless).isNone = true := by decide
    rw [read?_eq_some_iff.2 ⟨text, henv, hsays⟩] at hnone
    cases hnone

end Setting

end ClusterFleet
