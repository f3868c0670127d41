import ClusterFleet.Object.Form
import ClusterFleet.Proofs.Time.RoundTrip

/-!
# Objects — objects are read back

Reading the JSON of an object gives the object (`Resource.read_write`). A
record is read field by field, so the proof goes along the fields that
writing shows: `readHeld_append` cuts the row of fields where one may be
missing, and a field that is not shown leaves the draft as it was.
-/

namespace ClusterFleet

/-! ## Fields -/

namespace Fields

variable {α : Type}

/-- A name is looked up in the first part, and only then in the second. -/
theorem get?_append (name : String) (held later : List (String × α)) :
    get? name (held ++ later) = (get? name held).or (get? name later) := by
  induction held with
  | nil => rfl
  | cons p rest ih =>
    obtain ⟨k, v⟩ := p
    rw [List.cons_append, get?, get?]
    split
    · rfl
    · exact ih

theorem get?_cons_self (name : String) (v : α) (rest : List (String × α)) :
    get? name ((name, v) :: rest) = some v := by
  rw [get?, if_pos rfl]

theorem get?_cons_of_ne {name other : String} (h : other ≠ name) (v : α)
    (rest : List (String × α)) : get? name ((other, v) :: rest) = get? name rest := by
  rw [get?, if_neg h]

end Fields

/-! ## Records -/

namespace Form.Record

variable {σ : Type} {r : Record σ}

/-- Fields are read from left to right. -/
theorem readHeld_append (held later : List (String × Json)) (draft : σ) :
    r.readHeld (held ++ later) draft = (r.readHeld held draft).bind (r.readHeld later) := by
  induction held generalizing draft with
  | nil => rfl
  | cons p rest ih =>
    obtain ⟨name, v⟩ := p
    rw [List.cons_append, readHeld, readHeld]
    cases r.field? name with
    | none => exact ih draft
    | some f =>
      simp only [bind]
      cases f.read v with
      | error e => rfl
      | ok change => exact ih (change draft)

/-- A record whose fields read well and whose needed fields are held is
read. -/
theorem readObject_of_held {held : List (String × Json)} {whole : σ}
    (hread : r.readHeld held r.blank = .ok whole)
    (hheld : ∀ f ∈ r.fields, f.needed = true → (Fields.get? f.name held).isSome = true) :
    r.readObject held = .ok whole := by
  have hnone : r.firstMissing? held = none := by
    rw [firstMissing?, List.find?_eq_none]
    intro f hf hbad
    rw [Bool.and_eq_true] at hbad
    have hsome := hheld f hf hbad.1
    rw [Option.isNone_iff_eq_none] at hbad
    rw [hbad.2] at hsome
    cases hsome
  rw [readObject, hread]
  simp only [bind, Except.bind, hnone]
  rfl

end Form.Record

open Form

/-! ## Conditions -/

theorem ConditionStatus.wordOf_text (status : ConditionStatus) :
    wordOf ConditionStatus.words status.text = .ok status := by
  cases status <;> rfl

/-- **A condition is read back.** -/
theorem Condition.read_write (c : Condition) : Condition.read c.write = .ok c := by
  have htime : timestamp (.string (Timestamp.write c.since)) = .ok c.since := by
    rw [timestamp, Timestamp.read_write]
  have hstatus : word ConditionStatus.words (.string c.status.text) = .ok c.status :=
    c.status.wordOf_text
  refine Record.readObject_of_held ?_ (by simp [form, Fields.get?])
  simp [Record.readHeld, Record.field?, form, bind, Except.bind, Except.map, text, htime, hstatus]

theorem Condition.readList_write (cs : List Condition) :
    list Condition.read (.array (cs.map Condition.write)) = .ok cs := by
  rw [list]
  induction cs with
  | nil => rfl
  | cons c cs ih =>
    rw [List.map_cons, List.mapM_cons, ih, Condition.read_write]
    rfl

/-! ## Metadata -/

namespace Metadata

theorem get?_shown (name shownName : String) (value : Option Json) :
    Fields.get? name (shown shownName value) = if shownName = name then value else none := by
  cases value with
  | none => rw [ite_self]; rfl
  | some v => rfl

/-- Labels are read back, in the order in which they stand. -/
theorem readTextMap_labels (labels : List (String × String)) :
    textMap (.object (labels.map fun p => (p.1, .string p.2))) = .ok labels := by
  rw [textMap]
  induction labels with
  | nil => rfl
  | cons p rest ih =>
    rw [List.map_cons, List.mapM_cons, ih]
    rfl

/-- A timestamp that may be missing is read back. -/
theorem readOptional_timestamp (t : Instant) :
    Form.optional timestamp (.string (Timestamp.write t)) = .ok (some t) := by
  simp only [Form.optional, timestamp, Timestamp.read_write, Except.map]

/-- A text that may be missing is read back. -/
theorem readOptional_text (s : String) : Form.optional text (.string s) = .ok (some s) := rfl

/-- A field that may be missing is read back, if a draft without it is as
the field is missing. -/
theorem readHeld_shown {α : Type} {name : String} {needed : Bool}
    {read : Json → Except Fault (Option α)} {write : α → Json} {draft : Metadata}
    (put : Option α → Metadata → Metadata)
    (field : form.field? name = some ⟨name, needed, fun v => (read v).map put⟩)
    (readBack : ∀ a, read (write a) = .ok (some a)) (blank : put none draft = draft)
    (value : Option α) :
    form.readHeld (shown name (value.map write)) draft = .ok (put value draft) := by
  cases value with
  | none => exact congrArg Except.ok blank.symm
  | some a =>
    rw [Option.map_some, shown, Record.readHeld, field]
    simp only [readBack]
    rfl

theorem readHeld_deletedAt {draft : Metadata} (t : Option Instant) (h : draft.deletedAt = none) :
    form.readHeld (shown "deletionTimestamp" (t.map fun t => .string (Timestamp.write t))) draft =
      .ok { draft with deletedAt := t } :=
  readHeld_shown (fun t m => { m with deletedAt := t }) rfl readOptional_timestamp
    (h ▸ rfl) t

theorem readHeld_labels {draft : Metadata} (labels : List (String × String))
    (h : draft.labels = []) :
    form.readHeld (shown "labels" (writeLabels labels)) draft =
      .ok { draft with labels := labels } := by
  cases labels with
  | nil =>
    obtain ⟨_, _, _, _, _, _⟩ := draft
    cases h
    rfl
  | cons p rest =>
    have hread := readTextMap_labels (p :: rest)
    simp only [shown, writeLabels, List.isEmpty_cons, Bool.false_eq_true, if_false]
    simp [Record.readHeld, Record.field?, form, bind, Except.bind, Except.map, -List.map_cons, hread]

theorem readHeld_name {draft : Metadata} (name : String) :
    form.readHeld [("name", .string name)] draft = .ok { draft with name := name } := by
  simp [Record.readHeld, Record.field?, form, bind, Except.bind, Except.map, text]

theorem readHeld_ns {draft : Metadata} (ns : Option String) (h : draft.ns = none) :
    form.readHeld (shown "namespace" (ns.map .string)) draft =
      .ok { draft with ns := ns } :=
  readHeld_shown (fun s m => { m with ns := s }) rfl readOptional_text (h ▸ rfl) ns

theorem readHeld_version {draft : Metadata} (version : Option String) (h : draft.version = none) :
    form.readHeld (shown "resourceVersion" (version.map .string)) draft =
      .ok { draft with version := version } :=
  readHeld_shown (fun s m => { m with version := s }) rfl readOptional_text (h ▸ rfl) version

theorem readHeld_uid {draft : Metadata} (uid : Option String) (h : draft.uid = none) :
    form.readHeld (shown "uid" (uid.map .string)) draft =
      .ok { draft with uid := uid } :=
  readHeld_shown (fun s m => { m with uid := s }) rfl readOptional_text (h ▸ rfl) uid

/-- **Metadata is read back.** -/
theorem read_write (m : Metadata) : form.read m.write = .ok m := by
  refine Record.readObject_of_held ?_ ?_
  · simp only [Record.readHeld_append]
    rw [readHeld_deletedAt _ rfl]
    simp only [Except.bind]
    rw [readHeld_labels _ rfl]
    simp only [readHeld_name]
    rw [readHeld_ns _ rfl]
    simp only
    rw [readHeld_version _ rfl]
    simp only
    rw [readHeld_uid _ rfl]
  · intro f hf hneeded
    simp only [form, List.mem_cons, List.not_mem_nil, or_false] at hf
    rcases hf with rfl | rfl | rfl | rfl | rfl | rfl
    · simp [Fields.get?_append, get?_shown, Fields.get?]
    all_goals cases hneeded

end Metadata

/-! ## Objects -/

namespace Resource

theorem readStatus_write (kind : Kind) (cs : List Condition) :
    (statusForm kind).read (writeStatus cs) = .ok cs := by
  have hlist := Condition.readList_write cs
  refine Record.readObject_of_held ?_ (by simp [statusForm])
  simp [Record.readHeld, Record.field?, statusForm, bind, Except.bind, Except.map, hlist]

/-- **An object is read back**, whatever kind it is read as. -/
theorem read_write (kind : Kind) (r : Resource) : Resource.read kind r.write = .ok r := by
  have hmeta := r.metadata.read_write
  have hstatus := readStatus_write kind r.conditions
  refine Record.readObject_of_held ?_ (by simp [form, Fields.get?])
  simp [Record.readHeld, Record.field?, form, bind, Except.bind, Except.map, hmeta, hstatus]

end Resource

end ClusterFleet
