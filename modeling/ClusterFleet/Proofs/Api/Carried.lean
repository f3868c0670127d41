import ClusterFleet.Api.Store
import ClusterFleet.Proofs.Hub.Membership
import ClusterFleet.Proofs.Object.RoundTrip

/-!
# API — what an object keeps of its document

An answer of the server is a text, its document brings the metadata to
normal form, and the object is read from the document. Name, namespace and
version come through all three unchanged (`Metadata.textsIn_of_resource`),
and out again with what is sent (`Server.textsIn_requestBody`). It matters
that an object in a text has each name once (`tidy_read?`): reading goes
field by field, and of two fields with one name the later would count.
-/

namespace ClusterFleet

/-- What is mapped to a result was a result. -/
theorem map_ok {ε α β : Type} {x : Except ε α} {f : α → β} {b : β} (h : x.map f = .ok b) :
    ∃ a, x = .ok a ∧ f a = b := by
  cases x with
  | error e => cases h
  | ok a => exact ⟨a, rfl, Except.ok.inj h⟩

/-- What is computed in two steps has a result in between. -/
theorem bind_ok {ε α β : Type} {x : Except ε α} {f : α → Except ε β} {b : β}
    (h : x >>= f = .ok b) : ∃ a, x = .ok a ∧ f a = .ok b := by
  cases x with
  | error e => cases h
  | ok a => exact ⟨a, rfl, h⟩

/-! ## Each name once -/

namespace Json

/-- Every object in the value has its fields in ascending order, and so each
name once. -/
inductive Tidy : Json → Prop
  | null : Tidy .null
  | bool (b : Bool) : Tidy (.bool b)
  | number (n : Number) : Tidy (.number n)
  | string (s : String) : Tidy (.string s)
  | array {items : List Json} (each : ∀ v ∈ items, Tidy v) : Tidy (.array items)
  | object {fields : List (String × Json)} (sorted : Fields.Sorted fields)
      (each : ∀ p ∈ fields, Tidy p.2) : Tidy (.object fields)

theorem tidy_ofFields {pairs : List (String × Json)} (h : ∀ p ∈ pairs, p.2.Tidy) :
    (ofFields pairs).Tidy := by
  -- from left to right: what was put in so far is sorted, and each value is tidy
  suffices hfold : ∀ (fields : List (String × Json)), Fields.Sorted fields →
      (∀ p ∈ fields, p.2.Tidy) →
      Tidy (.object (pairs.foldl (fun acc p => Fields.insert p.1 p.2 acc) fields)) from
    hfold [] List.Pairwise.nil fun p hp => nomatch hp
  induction pairs with
  | nil => exact fun fields sorted each => .object sorted each
  | cons p rest ih =>
    intro fields sorted each
    refine ih (fun q hq => h q (List.mem_cons_of_mem _ hq)) _ sorted.insert fun q hq => ?_
    rcases Fields.mem_insert hq with rfl | hq
    · exact h p List.mem_cons_self
    · exact each q hq

namespace Reader

theorem readWord_ok {value v : Json} {ws cs rest : List Char}
    (h : readWord value ws cs = .ok (v, rest)) : v = value := by
  induction ws generalizing cs with
  | nil =>
    cases h
    rfl
  | cons w ws ih =>
    cases cs with
    | nil => cases h
    | cons c cs =>
      rw [readWord] at h
      split at h
      · exact ih h
      · cases h

theorem stop_ne_ok {α : Type} {cs : List Char} {a : α} : stop cs ≠ .ok a := by
  intro h
  cases cs <;> cases h

/-- What a reader takes off a text with the given fuel is tidy. -/
structure TidyAt (fuel : Nat) : Prop where
  value : ∀ {depth cs v rest}, readValue depth cs fuel = .ok (v, rest) → v.Tidy
  items : ∀ {depth cs items rest}, readItems depth cs fuel = .ok (items, rest) →
    ∀ v ∈ items, v.Tidy
  fields : ∀ {depth cs fields rest}, readFields depth cs fuel = .ok (fields, rest) →
    ∀ p ∈ fields, p.2.Tidy

section Step

variable {fuel depth : Nat} {cs rest : List Char}

theorem TidyAt.zero : TidyAt 0 := by
  refine ⟨fun h => ?_, fun h => ?_, fun h => ?_⟩
  · rw [readValue] at h
    cases h
  · rw [readItems] at h
    cases h
  · rw [readFields] at h
    cases h

/-- A value is tidy if its items are, or its fields: an object is put
together by `Fields.insert`. -/
theorem TidyAt.value_succ {v : Json} (tidy : TidyAt fuel)
    (h : readValue depth cs (fuel + 1) = .ok (v, rest)) : v.Tidy := by
  -- by the first character, as the reader goes on
  rw [readValue] at h
  split at h
  · cases h
  · obtain ⟨a, -, heq⟩ := map_ok h
    cases heq
    exact .string _
  · split at h
    · cases h
    · split at h
      · cases h
        exact .array fun v hv => nomatch hv
      · obtain ⟨⟨items, rest'⟩, hitems, heq⟩ := map_ok h
        cases heq
        exact .array (tidy.items hitems)
  · split at h
    · cases h
    · split at h
      · cases h
        exact .object List.Pairwise.nil fun p hp => nomatch hp
      · obtain ⟨⟨fields, rest'⟩, hfields, heq⟩ := map_ok h
        cases heq
        exact tidy_ofFields (tidy.fields hfields)
  · split at h
    · exact readWord_ok h ▸ .bool true
    · split at h
      · exact readWord_ok h ▸ .bool false
      · split at h
        · exact readWord_ok h ▸ .null
        · obtain ⟨a, -, heq⟩ := map_ok h
          cases heq
          exact .number _

theorem TidyAt.items_succ {items : List Json} (tidy : TidyAt fuel)
    (h : readItems depth cs (fuel + 1) = .ok (items, rest)) : ∀ v ∈ items, v.Tidy := by
  rw [readItems] at h
  split at h
  · cases h
  · rename_i first rest' hfirst
    have htidy : first.Tidy := tidy.value hfirst
    split at h
    · obtain ⟨⟨items, rest''⟩, hitems, heq⟩ := map_ok h
      cases heq
      exact List.forall_mem_cons.2 ⟨htidy, tidy.items hitems⟩
    · cases h
      exact List.forall_mem_singleton.2 htidy
    · exact absurd h stop_ne_ok

theorem TidyAt.fields_succ {fields : List (String × Json)} (tidy : TidyAt fuel)
    (h : readFields depth cs (fuel + 1) = .ok (fields, rest)) : ∀ p ∈ fields, p.2.Tidy := by
  rw [readFields] at h
  split at h
  · split at h
    · cases h
    · split at h
      · split at h
        · cases h
        · rename_i v rest' hvalue
          have htidy : v.Tidy := tidy.value hvalue
          split at h
          · obtain ⟨⟨fields, rest''⟩, hfields, heq⟩ := map_ok h
            cases heq
            exact List.forall_mem_cons.2 ⟨htidy, tidy.fields hfields⟩
          · cases h
            exact List.forall_mem_singleton.2 htidy
          · exact absurd h stop_ne_ok
      · exact absurd h stop_ne_ok
  · exact absurd h stop_ne_ok

end Step

/-- **What a reader takes off a text is tidy.** -/
theorem tidyAt (fuel : Nat) : TidyAt fuel := by
  induction fuel with
  | zero => exact .zero
  | succ fuel ih => exact ⟨ih.value_succ, ih.items_succ, ih.fields_succ⟩

end Reader

/-- **What is read from a text is tidy.** -/
theorem tidy_read? {text : String} {v : Json} (h : read? text = some v) : v.Tidy := by
  unfold read? read at h
  dsimp only at h
  split at h
  · rename_i value rest hvalue
    split at h
    · cases h
      exact (Reader.tidyAt _).value hvalue
    · cases h
  · cases h

end Json

/-! ## Fields -/

namespace Fields

variable {α : Type} {name : String} {v : α} {fields : List (String × α)}

theorem get?_eq_none (h : name ∉ fields.map Prod.fst) : get? name fields = none := by
  cases hget : get? name fields with
  | none => rfl
  | some v => exact absurd (List.mem_map_of_mem (mem_of_get? hget)) h

/-- The name of the first field does not come again. -/
theorem Sorted.not_mem_rest (h : Sorted ((name, v) :: fields)) : name ∉ fields.map Prod.fst := by
  intro hmem
  obtain ⟨p, hp, hname⟩ := List.mem_map.mp hmem
  exact String.lt_irrefl name (hname ▸ (List.pairwise_cons.mp h).1 p hp)

theorem Sorted.of_names {β : Type} {others : List (String × β)} (h : Sorted fields)
    (hnames : (others.map Prod.fst).Sublist (fields.map Prod.fst)) : Sorted others :=
  List.pairwise_map.mp ((List.pairwise_map.mpr h).sublist hnames)

end Fields

/-! ## The normal form of metadata -/

namespace Shape

open Form

variable {shapes : List (String × Shape)} {held out : List (String × Json)} {name : String}

/-- The normal form has some of the fields held, in the same order. -/
theorem names_readFields (h : readFields shapes held = .ok out) :
    (out.map Prod.fst).Sublist (held.map Prod.fst) := by
  induction held generalizing out with
  | nil =>
    cases h
    exact List.Sublist.refl _
  | cons p rest ih =>
    obtain ⟨k, v⟩ := p
    rw [readFields] at h
    split at h
    · exact (ih h).cons _
    · obtain ⟨w, -, h⟩ := bind_ok h
      obtain ⟨later, hlater, h⟩ := bind_ok h
      split at h
      · cases h
        exact (ih hlater).cons _
      · cases h
        exact (ih hlater).cons_cons _

/-- A text, or `null`, stays what it is. -/
theorem optional_text_ok {v w : Json} (h : optional text v = .ok w) : w = v := by
  cases v with
  | null => exact (Except.ok.inj h).symm
  | string s => exact (Except.ok.inj h).symm
  | _ => cases h

/-- **The normal form keeps texts**: what a known field says is what it said,
when no name comes twice. -/
theorem text?_readFields (shape : Fields.get? name shapes = some (optional text))
    (sorted : Fields.Sorted held) (h : readFields shapes held = .ok out) :
    (Fields.get? name out).bind Json.text? = (Fields.get? name held).bind Json.text? := by
  induction held generalizing out with
  | nil =>
    cases h
    rfl
  | cons p rest ih =>
    obtain ⟨k, v⟩ := p
    have hrest := (List.pairwise_cons.mp sorted).2
    rw [readFields] at h
    split at h
    · rename_i hunknown
      have hk : k ≠ name := fun hk => by rw [hk, shape] at hunknown; cases hunknown
      rw [Fields.get?_cons_of_ne hk]
      exact ih hrest h
    · rename_i known hknown
      obtain ⟨w, hw, hout⟩ := bind_ok h
      obtain ⟨later, hlater, hout⟩ := bind_ok hout
      by_cases hk : k = name
      · subst hk
        rw [shape] at hknown
        cases hknown
        obtain rfl := optional_text_ok hw
        rw [Fields.get?_cons_self]
        split at hout
        · -- the field was `null`, and there is no other of its name
          cases hout
          rw [Fields.get?_eq_none fun hmem =>
            sorted.not_mem_rest ((names_readFields hlater).subset hmem)]
          rfl
        · cases hout
          rw [Fields.get?_cons_self]
      · rw [Fields.get?_cons_of_ne hk]
        split at hout
        · cases hout
          exact ih hrest hlater
        · cases hout
          rw [Fields.get?_cons_of_ne hk]
          exact ih hrest hlater

end Shape

/-! ## One part of a record -/

namespace Form.Record

variable {σ β : Type} {r : Record σ} {part : σ → β} {name : String} {f : Field σ}
variable {held : List (String × Json)} {draft whole : σ}

/-- Only the field of this name says anything of a part of the record. -/
def Only (r : Record σ) (part : σ → β) (name : String) : Prop :=
  ∀ g ∈ r.fields, g.name ≠ name → ∀ v change, g.read v = .ok change →
    ∀ draft, part (change draft) = part draft

/-- **A part of a record is what its field says**, or as in the draft where
the field is missing. -/
theorem part_readHeld (only : r.Only part name) (field : r.field? name = some f)
    (sorted : Fields.Sorted held) (h : r.readHeld held draft = .ok whole) :
    (Fields.get? name held = none ∧ part whole = part draft) ∨
      ∃ v change d, Fields.get? name held = some v ∧ f.read v = .ok change ∧
        part whole = part (change d) := by
  induction held generalizing draft with
  | nil =>
    cases h
    exact .inl ⟨rfl, rfl⟩
  | cons p rest ih =>
    obtain ⟨k, v⟩ := p
    have hrest := (List.pairwise_cons.mp sorted).2
    by_cases hk : k = name
    · -- what comes later is of other names
      subst hk
      have hnone := Fields.get?_eq_none sorted.not_mem_rest
      rw [readHeld, field] at h
      obtain ⟨change, hchange, h⟩ := bind_ok h
      refine .inr ⟨v, change, draft, Fields.get?_cons_self _ _ _, hchange, ?_⟩
      obtain ⟨-, hpart⟩ | ⟨w, -, -, hsome, -⟩ := ih hrest h
      · exact hpart
      · rw [hnone] at hsome
        cases hsome
    · rw [Fields.get?_cons_of_ne hk]
      rw [readHeld] at h
      cases hfield : r.field? k with
      | none =>
        rw [hfield] at h
        exact ih hrest h
      | some g =>
        rw [hfield] at h
        obtain ⟨change, hchange, h⟩ := bind_ok h
        have hname := List.find?_some hfield
        have hg : g.name = k := of_decide_eq_true hname
        -- a field of another name leaves this part alone
        have hsame := only g (List.mem_of_find?_eq_some hfield) (hg ▸ hk) v change hchange draft
        rw [← hsame]
        exact ih hrest h

theorem readObject_ok (h : r.readObject held = .ok whole) :
    r.readHeld held r.blank = .ok whole ∧
      ∀ f ∈ r.fields, f.needed = true → (Fields.get? f.name held).isSome = true := by
  obtain ⟨draft, hdraft, h⟩ := bind_ok h
  split at h
  · cases h
  · rename_i hnone
    cases h
    refine ⟨hdraft, fun f hf hneeded => ?_⟩
    have hheld := List.find?_eq_none.mp hnone f hf
    rw [hneeded, Bool.true_and] at hheld
    rw [← Option.not_isNone, eq_false_of_ne_true hheld]
    rfl

end Form.Record

/-! ## From the text to the object -/

section Object

open Form

variable {held : List (String × Json)} {m : Metadata} {r : Resource} {kind : Kind}

theorem Form.text_ok {v : Json} {s : String} (h : text v = .ok s) : v.text? = some s := by
  cases v with
  | string t => exact congrArg some (Except.ok.inj h)
  | _ => cases h

theorem Form.optional_text_ok {v : Json} {s : Option String} (h : optional text v = .ok s) :
    v.text? = s := by
  cases v with
  | null => exact Except.ok.inj h
  | string t => exact Except.ok.inj h
  | _ => cases h

/-- Name, namespace and version come from one field each. -/
theorem Metadata.only_fields :
    form.Only (fun m => some m.name) "name" ∧ form.Only Metadata.ns "namespace" ∧
      form.Only Metadata.version "resourceVersion" := by
  refine ⟨?_, ?_, ?_⟩
  all_goals
    intro g hg hne v change hchange draft
    simp only [form, List.mem_cons, List.not_mem_nil, or_false] at hg
    -- the field of that name is left out, and any other changes another part
    rcases hg with rfl | rfl | rfl | rfl | rfl | rfl <;>
      first
        | exact absurd rfl hne
        | (obtain ⟨_, -, rfl⟩ := map_ok hchange; rfl)

/-- A part of metadata that is a text or nothing is what its field carries. -/
theorem Metadata.part_readObject {part : Metadata → Option String} {name : String}
    {f : Form.Field Metadata} (only : form.Only part name) (field : form.field? name = some f)
    (missing : Fields.get? name held = none → part form.blank = none)
    (carries : ∀ {v change draft}, f.read v = .ok change → v.text? = part (change draft))
    (sorted : Fields.Sorted held) (h : form.readObject held = .ok m) :
    (Fields.get? name held).bind Json.text? = part m := by
  obtain ⟨hread, -⟩ := Record.readObject_ok h
  obtain ⟨hnone, hpart⟩ | ⟨v, change, d, hsome, hchange, hpart⟩ :=
    Record.part_readHeld only field sorted hread
  · rw [hpart, missing hnone, hnone]
    rfl
  · rw [hpart, hsome]
    exact carries hchange

/-- **What is read of metadata**: name, namespace and version are the texts
of their fields. -/
theorem Metadata.texts_of_readObject (sorted : Fields.Sorted held)
    (h : form.readObject held = .ok m) :
    (Fields.get? "name" held).bind Json.text? = some m.name ∧
      (Fields.get? "namespace" held).bind Json.text? = m.ns ∧
      (Fields.get? "resourceVersion" held).bind Json.text? = m.version := by
  obtain ⟨hname, hns, hversion⟩ := only_fields
  refine ⟨part_readObject hname rfl (fun hnone => ?_) (fun hv => ?_) sorted h,
    part_readObject hns rfl (fun _ => rfl) (fun hv => ?_) sorted h,
    part_readObject hversion rfl (fun _ => rfl) (fun hv => ?_) sorted h⟩
  · have hheld := (Record.readObject_ok h).2 _ List.mem_cons_self rfl
    rw [hnone] at hheld
    cases hheld
  · obtain ⟨s, hs, rfl⟩ := map_ok hv
    exact text_ok hs
  · obtain ⟨s, hs, rfl⟩ := map_ok hv
    exact optional_text_ok hs
  · obtain ⟨s, hs, rfl⟩ := map_ok hv
    exact optional_text_ok hs

/-- The metadata of an object is read from its field. -/
theorem Resource.metadata_of_readObject {v : Json} (sorted : Fields.Sorted held)
    (hv : Fields.get? "metadata" held = some v) (h : (form kind).readObject held = .ok r) :
    Metadata.form.read v = .ok r.metadata := by
  have only : (form kind).Only Resource.metadata "metadata" := by
    intro g hg hne v change hchange draft
    simp only [form, List.mem_cons, List.not_mem_nil, or_false] at hg
    rcases hg with rfl | rfl
    · exact absurd rfl hne
    · obtain ⟨_, -, rfl⟩ := map_ok hchange
      rfl
  obtain ⟨hnone, -⟩ | ⟨w, change, d, hw, hchange, hpart⟩ :=
    Record.part_readHeld only rfl sorted (Record.readObject_ok h).1
  · rw [hv] at hnone
    cases hnone
  · obtain rfl := Option.some.inj (hv.symm.trans hw)
    obtain ⟨m, hm, rfl⟩ := map_ok hchange
    rw [hpart]
    exact hm

/-- A text of the metadata of an object. -/
def Json.metadataText? (name : String) (v : Json) : Option String :=
  ((v.field? "metadata").bind (field? name)).bind text?

/-- Metadata that is missing is as good as empty. -/
theorem Json.metadataText?_fields (name : String) (fields : List (String × Json)) :
    (Json.object fields).metadataText? name =
      (((Fields.get? "metadata" fields).getD (.object [])).field? name).bind text? := by
  rw [metadataText?,
    show field? "metadata" (.object fields) = Fields.get? "metadata" fields from rfl]
  cases Fields.get? "metadata" fields with
  | none => rfl
  | some v => rfl

/-- The name, the namespace and the version that a JSON object gives in its
metadata are those of an object. -/
def Metadata.TextsIn (m : Metadata) (v : Json) : Prop :=
  v.metadataText? "name" = some m.name ∧ v.metadataText? "namespace" = m.ns ∧
    v.metadataText? "resourceVersion" = m.version

/-- A document is read from an object: its metadata in normal form, and all
else as it stands. -/
theorem Document.read_ok {v : Json} {d : Document} (h : read v = .ok d) :
    ∃ fields, v = .object fields ∧
      Schema.objectMeta ((Fields.get? "metadata" fields).getD (.object [])) = .ok d.metadata ∧
      d.others = Fields.erase "metadata" fields := by
  cases v with
  | object fields =>
    obtain ⟨m, hm, h⟩ := bind_ok h
    cases h
    exact ⟨fields, rfl, hm, rfl⟩
  | _ => cases h

theorem Shape.record_ok {name : String} {shapes : List (String × Shape)} {v out : Json}
    (h : record name shapes v = .ok out) :
    ∃ held shown, v = .object held ∧ out = .object shown ∧ readFields shapes held = .ok shown := by
  cases v with
  | object held =>
    obtain ⟨shown, hshown, rfl⟩ := map_ok h
    exact ⟨held, shown, rfl, rfl, hshown⟩
  | _ => cases h

theorem Document.resource_ok {d : Document} (h : d.resource kind = .ok r) :
    (Resource.form kind).readObject (Fields.insert "metadata" d.metadata d.others) = .ok r := by
  unfold resource at h
  split at h
  · rename_i hread
    cases h
    exact hread
  · cases h

/-- **What a text says is what is read.** The object decoded from an answer
has the name, the namespace and the version that stand there. -/
theorem Metadata.textsIn_of_resource {text : String} {got : Json} {d : Document}
    (hgot : Json.read? text = some got) (hd : Document.read got = .ok d)
    (hr : d.resource kind = .ok r) : r.metadata.TextsIn got := by
  obtain ⟨fields, rfl, hmeta, hothers⟩ := Document.read_ok hd
  obtain ⟨sorted, each⟩ : Fields.Sorted fields ∧ ∀ p ∈ fields, p.2.Tidy := by
    cases Json.tidy_read? hgot with
    | object sorted each => exact ⟨sorted, each⟩
  obtain ⟨held, shown, hheld, hshown, hread⟩ := Shape.record_ok hmeta
  have hsorted : Fields.Sorted held := by
    have tidy : (Json.object held).Tidy := by
      rw [← hheld]
      cases hget : Fields.get? "metadata" fields with
      | none => exact .object List.Pairwise.nil fun p hp => nomatch hp
      | some v => exact each _ (Fields.mem_of_get? hget)
    cases tidy with
    | object sorted _ => exact sorted
  -- the text, its normal form and the object, one after the other
  have htext (name : String) :
      (Json.object fields).metadataText? name = (Fields.get? name held).bind Json.text? := by
    rw [Json.metadataText?_fields, hheld, Json.field?]
  have hrecord : Fields.Sorted (Fields.insert "metadata" d.metadata d.others) :=
    Fields.Sorted.insert (hothers ▸ sorted.erase _)
  have hobject := Resource.metadata_of_readObject hrecord (Fields.get?_insert_self _ _ _)
    (Document.resource_ok hr)
  rw [hshown] at hobject
  obtain ⟨hname, hns, hversion⟩ := texts_of_readObject
    (hsorted.of_names (Shape.names_readFields hread)) hobject
  rw [Shape.text?_readFields rfl hsorted hread] at hname hns hversion
  exact ⟨(htext _).trans hname, (htext _).trans hns, (htext _).trans hversion⟩

/-- **What is read is what is sent**: an object goes out with its own name,
namespace and version. -/
theorem Server.textsIn_requestBody (kind : Kind) (r : Resource) :
    r.metadata.TextsIn (requestBody kind r) := by
  have hmeta : (requestBody kind r).field? "metadata" = some r.metadata.write := by
    unfold requestBody Resource.write
    rw [Json.field?, Fields.get?_insert_of_ne (by decide), Fields.get?_insert_of_ne (by decide)]
    rfl
  have hfield (name : String) : (requestBody kind r).metadataText? name =
      (r.metadata.write.field? name).bind Json.text? := by
    rw [Json.metadataText?, hmeta, Option.bind_some]
  refine ⟨?_, ?_, ?_⟩
  · simp [hfield, Metadata.write, Json.field?, Fields.get?_append, Metadata.get?_shown,
      Fields.get?, Json.text?]
  · cases hns : r.metadata.ns <;>
      simp [hfield, Metadata.write, Json.field?, Fields.get?_append, Metadata.get?_shown,
        Fields.get?, Json.text?, hns]
  · cases hversion : r.metadata.version <;>
      simp [hfield, Metadata.write, Json.field?, Fields.get?_append, Metadata.get?_shown,
        Fields.get?, Json.text?, hversion]

end Object

end ClusterFleet
