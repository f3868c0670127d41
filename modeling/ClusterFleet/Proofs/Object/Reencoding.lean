import ClusterFleet.Proofs.Api.Carried

/-!
# Objects — what is read is written again

Reading the JSON of an object gives the object. What it is read from may be
spelled otherwise: as a sequence, with foreign fields or without those that
need not be there, with its times in any accepted form. Writing what was
read and reading that gives the same object, so one round brings every
spelling to the one that later rounds keep.

The JSON that is written has each name once (`Resource.tidy_write`), given
that the labels have. Those that are read do (`Resource.sorted_labels`):
labels come from an object, and what every field of a record keeps, reading
keeps in either form (`Form.Record.read_keeps`).
-/

namespace ClusterFleet

namespace Form

variable {σ : Type} {P : σ → Prop} {draft whole : σ}

/-- Whatever a field is read from, its change keeps a property of the
draft. -/
def Field.Keeps (f : Field σ) (P : σ → Prop) : Prop :=
  ∀ v : Json, v.Tidy → ∀ change, f.read v = .ok change → ∀ draft, P draft → P (change draft)

namespace Record

variable {r : Record σ}

theorem readHeld_keeps {held : List (String × Json)} (keeps : ∀ f ∈ r.fields, f.Keeps P)
    (each : ∀ p ∈ held, p.2.Tidy) (h : r.readHeld held draft = .ok whole) (hdraft : P draft) :
    P whole := by
  induction held generalizing draft with
  | nil => exact Except.ok.inj h ▸ hdraft
  | cons p rest ih =>
    obtain ⟨name, v⟩ := p
    obtain ⟨hv, hrest⟩ := List.forall_mem_cons.1 each
    rw [readHeld] at h
    split at h
    · exact ih hrest h hdraft
    · rename_i f hf
      obtain ⟨change, hchange, h⟩ := bind_ok h
      exact ih hrest h (keeps f (List.mem_of_find?_eq_some hf) v hv change hchange draft hdraft)

theorem readItems_keeps {fields : List (Field σ)} {count : Nat} {items rest : List Json}
    (keeps : ∀ f ∈ fields, f.Keeps P) (each : ∀ v ∈ items, v.Tidy)
    (h : r.readItems count fields items draft = .ok (rest, whole)) (hdraft : P draft) :
    P whole := by
  induction fields generalizing count items draft with
  | nil =>
    rw [readItems] at h
    cases h
    exact hdraft
  | cons f fields ih =>
    obtain ⟨hf, hfields⟩ := List.forall_mem_cons.1 keeps
    cases items with
    | nil =>
      rw [readItems] at h
      split at h
      · cases h
      · exact ih hfields each h hdraft
    | cons v items =>
      obtain ⟨hv, hitems⟩ := List.forall_mem_cons.1 each
      rw [readItems] at h
      obtain ⟨change, hchange, h⟩ := bind_ok h
      exact ih hfields hitems h (hf v hv change hchange draft hdraft)

/-- **What every field keeps, reading keeps**, from an object as from a
sequence. -/
theorem read_keeps {v : Json} (keeps : ∀ f ∈ r.fields, f.Keeps P) (hblank : P r.blank)
    (tidy : v.Tidy) (h : r.read v = .ok whole) : P whole := by
  cases tidy with
  | object _ each =>
    obtain ⟨draft, hread, h⟩ := bind_ok h
    split at h
    · cases h
    · cases h
      exact readHeld_keeps keeps each hread hblank
  | array each =>
    obtain ⟨⟨rest, draft⟩, hread, h⟩ := bind_ok h
    dsimp only at h
    split at h
    · cases h
      exact readItems_keeps keeps each hread hblank
    · cases h
  | _ => cases h

end Record

/-- A map is read with the names that the object has. -/
theorem names_textMap {fields : List (String × Json)} {texts : List (String × String)}
    (h : textMap (.object fields) = .ok texts) : texts.map Prod.fst = fields.map Prod.fst := by
  rw [textMap] at h
  induction fields generalizing texts with
  | nil =>
    cases h
    rfl
  | cons p rest ih =>
    rw [List.mapM_cons] at h
    obtain ⟨first, hfirst, h⟩ := bind_ok h
    obtain ⟨later, hlater, h⟩ := bind_ok h
    obtain ⟨s, -, rfl⟩ := map_ok hfirst
    cases h
    exact congrArg (p.1 :: ·) (ih hlater)

theorem sorted_textMap {v : Json} {texts : List (String × String)} (tidy : v.Tidy)
    (h : textMap v = .ok texts) : Fields.Sorted texts := by
  cases tidy with
  | object sorted _ => exact sorted.of_names (names_textMap h ▸ List.Sublist.refl _)
  | _ => cases h

end Form

open Form

/-! ## What is written has each name once -/

theorem Condition.tidy_write (c : Condition) : c.write.Tidy := by
  have names : ["lastTransitionTime", "message", "reason", "status", "type"].Pairwise (· < ·) := by
    decide
  refine .object (List.pairwise_map.1 names) ?_
  simp only [List.forall_mem_cons, List.not_mem_nil, false_implies, implies_true, and_true]
  exact ⟨.string _, .string _, .string _, .string _, .string _⟩

namespace Metadata

theorem names_shown (name : String) (value : Option Json) :
    ((shown name value).map Prod.fst).Sublist [name] := by
  cases value with
  | none => exact List.nil_sublist _
  | some v => exact List.Sublist.refl _

theorem tidy_shown {name : String} {value : Option Json} (h : ∀ v ∈ value, v.Tidy) :
    ∀ p ∈ shown name value, p.2.Tidy := by
  cases value with
  | none => exact fun p hp => nomatch hp
  | some v => exact List.forall_mem_singleton.2 (h v rfl)

theorem tidy_shown_text {α : Type} (name : String) (value : Option α) (text : α → String) :
    ∀ p ∈ shown name (value.map fun a => .string (text a)), p.2.Tidy := by
  refine tidy_shown fun v hv => ?_
  obtain ⟨a, -, rfl⟩ := Option.map_eq_some_iff.1 hv
  exact .string _

theorem tidy_writeLabels {labels : List (String × String)} (sorted : Fields.Sorted labels) :
    ∀ v ∈ writeLabels labels, v.Tidy := by
  intro v hv
  rw [writeLabels] at hv
  split at hv
  · cases hv
  · cases hv
    refine .object (sorted.of_names ?_) fun p hp => ?_
    · rw [List.map_map]
      exact List.Sublist.refl _
    · obtain ⟨q, -, rfl⟩ := List.mem_map.1 hp
      exact .string _

theorem tidy_write {m : Metadata} (sorted : Fields.Sorted m.labels) : m.write.Tidy := by
  have names : ["deletionTimestamp", "labels", "name", "namespace", "resourceVersion",
      "uid"].Pairwise (· < ·) := by
    decide
  refine .object (List.pairwise_map.1 (names.sublist ?_)) ?_
  · simp only [List.map_append]
    exact (((((names_shown _ _).append (names_shown _ _)).append
      (List.Sublist.refl ["name"])).append (names_shown _ _)).append
        (names_shown _ _)).append (names_shown _ _)
  · simp only [List.forall_mem_append, List.forall_mem_singleton]
    exact ⟨⟨⟨⟨⟨tidy_shown_text _ _ Timestamp.write, tidy_shown (tidy_writeLabels sorted)⟩,
      .string _⟩, tidy_shown_text _ _ id⟩, tidy_shown_text _ _ id⟩, tidy_shown_text _ _ id⟩

end Metadata

namespace Resource

variable {kind : Kind} {v : Json} {r : Resource}

/-- **What is written of an object has each name once.** -/
theorem tidy_write (sorted : Fields.Sorted r.metadata.labels) : r.write.Tidy := by
  have hstatus : (writeStatus r.conditions).Tidy := by
    refine .object (List.pairwise_singleton _ _) (List.forall_mem_singleton.2 (.array ?_))
    exact List.forall_mem_map.2 fun c _ => c.tidy_write
  have names : ["metadata", "status"].Pairwise (· < ·) := by decide
  refine .object (List.pairwise_map.1 names) ?_
  simp only [List.forall_mem_cons, List.not_mem_nil, false_implies, implies_true, and_true]
  exact ⟨Metadata.tidy_write sorted, hstatus⟩

/-- The labels of metadata that was read are in ascending order. -/
theorem sorted_metadata {m : Metadata} (tidy : v.Tidy) (h : Metadata.form.read v = .ok m) :
    Fields.Sorted m.labels := by
  let Kept (m : Metadata) : Prop := Fields.Sorted m.labels
  have hblank : Kept Metadata.form.blank := List.Pairwise.nil
  refine Record.read_keeps (P := Kept) ?_ hblank tidy h
  simp only [Metadata.form, List.forall_mem_cons, List.not_mem_nil, false_implies, implies_true,
    and_true]
  refine ⟨?name, ?ns, ?uid, ?version, ?labels, ?deletedAt⟩
  case labels =>
    intro v tidy change h draft _
    obtain ⟨labels, hlabels, rfl⟩ := map_ok h
    exact sorted_textMap tidy hlabels
  all_goals
    intro v _ change h draft hdraft
    obtain ⟨a, -, rfl⟩ := map_ok h
    exact hdraft

/-- **The labels of an object that was read are in ascending order.** -/
theorem sorted_labels (tidy : v.Tidy) (h : Resource.read kind v = .ok r) :
    Fields.Sorted r.metadata.labels := by
  let Kept (r : Resource) : Prop := Fields.Sorted r.metadata.labels
  have hblank : Kept (form kind).blank := List.Pairwise.nil
  refine Record.read_keeps (P := Kept) ?_ hblank tidy h
  simp only [form, List.forall_mem_cons, List.not_mem_nil, false_implies, implies_true, and_true]
  constructor
  · intro v tidy change h draft _
    obtain ⟨m, hm, rfl⟩ := map_ok h
    exact sorted_metadata tidy hm
  · intro v _ change h draft hdraft
    obtain ⟨cs, -, rfl⟩ := map_ok h
    exact hdraft

end Resource

/-! ## One round -/

/-- **Decoding undoes encoding.** An object and a condition are read back from
what is written of them, in which each name comes once. And whatever they are
read from, in either form and spelling: what is written then is read as what
was read, and written as it stands. -/
theorem decoding_undoes_encoding (kind : Kind) :
    (∀ r : Resource, Resource.read kind r.write = .ok r ∧
      (Fields.Sorted r.metadata.labels → r.write.Tidy)) ∧
    (∀ c : Condition, Condition.read c.write = .ok c ∧ c.write.Tidy) ∧
    (∀ v w : Json, (Resource.read kind v).map Resource.write = .ok w →
      Resource.read kind w = Resource.read kind v ∧
      (Resource.read kind w).map Resource.write = .ok w ∧ (v.Tidy → w.Tidy)) ∧
    ∀ v w : Json, (Condition.read v).map Condition.write = .ok w →
      Condition.read w = Condition.read v ∧
      (Condition.read w).map Condition.write = .ok w ∧ w.Tidy := by
  refine ⟨fun r => ⟨r.read_write kind, Resource.tidy_write⟩,
    fun c => ⟨c.read_write, c.tidy_write⟩, fun v w h => ?_, fun v w h => ?_⟩
  · obtain ⟨r, hread, rfl⟩ := map_ok h
    have hagain : Resource.read kind r.write = Resource.read kind v :=
      (r.read_write kind).trans hread.symm
    exact ⟨hagain, (congrArg (Except.map Resource.write) hagain).trans h,
      fun tidy => Resource.tidy_write (Resource.sorted_labels tidy hread)⟩
  · obtain ⟨c, hread, rfl⟩ := map_ok h
    have hagain : Condition.read c.write = Condition.read v := c.read_write.trans hread.symm
    exact ⟨hagain, (congrArg (Except.map Condition.write) hagain).trans h, c.tidy_write⟩

namespace Spelling

/-- An add-on as a sequence of sequences, its labels out of order, its status
an object with a foreign field. One time is beyond the year 9999, the other
a leap second whose local date is before the year 0 and whose date is not. -/
def text : String :=
  "[[\"a\",\"n\",null,\"7\",\x7b\"y\":\"\",\"x\":\"1\"\x7d,\"+10000-1-1 0:00:00.5 utc\"]," ++
  "\x7b\"more\":0,\"conditions\":[[\"Ready\",\x7b\"True\":null\x7d,\"\",\"\"," ++
  "\"-0001-12-31t23:59:60.25-00:30\"]]\x7d]"

/-- What it is read as. -/
def addOn : Resource :=
  ⟨⟨"a", some "n", none, some "7", [("x", "1"), ("y", "")],
    some ⟨⟨10000, 1, 1⟩, ⟨0, 500000000⟩, by decide, by decide⟩⟩,
   [⟨"Ready", .holds, "", "", ⟨⟨0, 1, 1⟩, ⟨1799, 1250000000⟩, by decide, by decide⟩⟩]⟩

end Spelling

/-- An odd spelling is read, and settles after one round. -/
theorem decoding_undoes_encoding_spelled : ∃ v w : Json,
    Json.read? Spelling.text = some v ∧ (Resource.read .addOn v).map Resource.write = .ok w ∧
      Resource.read .addOn w = .ok Spelling.addOn ∧
      (Resource.read .addOn w).map Resource.write = .ok w ∧ w.Tidy := by
  have hadd : ((Json.read? Spelling.text).bind fun v => (Resource.read .addOn v).toOption) =
      some Spelling.addOn := by decide +kernel
  obtain ⟨v, hv, hfound⟩ := Option.bind_eq_some_iff.1 hadd
  have hread : Resource.read .addOn v = .ok Spelling.addOn := by
    cases hr : Resource.read .addOn v with
    | error fault =>
      rw [hr] at hfound
      cases hfound
    | ok r =>
      rw [hr] at hfound
      exact congrArg Except.ok (Option.some.inj hfound)
  have hwrite : (Resource.read .addOn v).map Resource.write = .ok Spelling.addOn.write :=
    congrArg (Except.map Resource.write) hread
  obtain ⟨hagain, hstays, htidy⟩ := (decoding_undoes_encoding .addOn).2.2.1 _ _ hwrite
  exact ⟨v, _, hv, hwrite, hagain.trans hread, hstays, htidy (Json.tidy_read? hv)⟩

end ClusterFleet
