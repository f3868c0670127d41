import ClusterFleet.Object.Key
import ClusterFleet.Proofs.Text.Parts

/-!
# Objects — keys and their texts

The texts that are keys are those of proper keys, whose name and namespace
are segments: not empty, and without a slash. Reading a text and showing a
key undo each other there (`parse?_eq_some_iff`). Outside they do not: the
name `a/b` without a namespace is shown as the key of `b` in `a` is, which
is why a key has to be proper to be told by its text.
-/

namespace ClusterFleet

namespace Key

/-- A segment of a text: it is not empty, and no slash is in it. -/
def IsSegment (s : String) : Prop := s ≠ "" ∧ '/' ∉ s.toList

instance (s : String) : Decidable (IsSegment s) := inferInstanceAs (Decidable (_ ∧ _))

/-- A key is proper if its name is a segment, and its namespace if it has
one. -/
structure Proper (k : Key) : Prop where
  name : IsSegment k.name
  ns : ∀ ns ∈ k.ns, IsSegment ns

/-- Two segments, with one slash between them. -/
def IsPair (s : String) : Prop :=
  ∃ ns name, IsSegment ns ∧ IsSegment name ∧ s = ns ++ "/" ++ name

variable {text ns name : String} {k l : Key} {cs : List Char}

theorem IsSegment.isEmpty (h : IsSegment name) : name.toList.isEmpty = false := by
  rw [List.isEmpty_eq_false_iff]
  exact fun hnil => h.1 (String.toList_inj.1 hnil)

theorem isSegment_ofList_iff : IsSegment (String.ofList cs) ↔ cs ≠ [] ∧ '/' ∉ cs := by
  rw [IsSegment, String.toList_ofList, ne_eq, ← String.toList_inj, String.toList_ofList]
  rfl

theorem toList_pair (ns name : String) :
    (ns ++ "/" ++ name).toList = ns.toList ++ '/' :: name.toList := by
  rw [String.toList_append, String.toList_append, List.append_assoc]
  rfl

theorem proper_cluster_iff : (cluster name).Proper ↔ IsSegment name :=
  ⟨Proper.name, fun h => ⟨h, fun _ hns => nomatch hns⟩⟩

theorem proper_namespaced_iff :
    (namespaced ns name).Proper ↔ IsSegment ns ∧ IsSegment name :=
  ⟨fun h => ⟨h.ns ns rfl, h.name⟩, fun h => ⟨h.2, fun _ hns => Option.some.inj hns ▸ h.1⟩⟩

/-! ## Both directions -/

/-- **What is read** is a proper key that is shown as the text. -/
theorem proper_of_parse? (h : parse? text = some k) : k.Proper ∧ k.display = text := by
  rw [parse?] at h
  split at h
  · rename_i name hsplit
    obtain ⟨hslash, hname⟩ := Text.splitAt_eq_one_iff.1 hsplit
    split at h
    · cases h
    · rename_i hempty
      cases h
      rw [List.isEmpty_iff] at hempty
      refine ⟨proper_cluster_iff.2 (isSegment_ofList_iff.2 ⟨hempty, hslash⟩), ?_⟩
      rw [hname]
      exact String.ofList_toList
  · rename_i ns name hsplit
    obtain ⟨hns, hname, htext⟩ := Text.splitAt_eq_two_iff.1 hsplit
    split at h
    · cases h
    · rename_i hempty
      cases h
      rw [Bool.or_eq_true, not_or, List.isEmpty_iff, List.isEmpty_iff] at hempty
      refine ⟨proper_namespaced_iff.2 ⟨isSegment_ofList_iff.2 ⟨hempty.1, hns⟩,
        isSegment_ofList_iff.2 ⟨hempty.2, hname⟩⟩, String.toList_inj.1 ?_⟩
      change (String.ofList ns ++ "/" ++ String.ofList name).toList = _
      rw [toList_pair, String.toList_ofList, String.toList_ofList, htext]
  · cases h

theorem parse?_of_isSegment (h : IsSegment name) : parse? name = some (cluster name) := by
  rw [parse?, Text.splitAt_eq_one_iff.2 ⟨h.2, rfl⟩]
  simp only [h.isEmpty, Bool.false_eq_true, if_false, String.ofList_toList]

theorem parse?_pair (hns : IsSegment ns) (hname : IsSegment name) :
    parse? (ns ++ "/" ++ name) = some (namespaced ns name) := by
  rw [parse?, Text.splitAt_eq_two_iff.2 ⟨hns.2, hname.2, (toList_pair ns name).symm⟩]
  simp only [hns.isEmpty, hname.isEmpty, Bool.or_self, Bool.false_eq_true, if_false,
    String.ofList_toList]

/-- **What is shown** of a proper key is read as the key. -/
theorem Proper.parse?_display (h : k.Proper) : parse? k.display = some k := by
  obtain ⟨_ | ns, name⟩ := k
  · exact parse?_of_isSegment h.name
  · exact parse?_pair (h.ns ns rfl) h.name

/-- **Reading and showing undo each other** on proper keys, and no other key
is ever read. -/
theorem parse?_eq_some_iff : parse? text = some k ↔ k.Proper ∧ k.display = text := by
  refine ⟨proper_of_parse?, ?_⟩
  rintro ⟨h, rfl⟩
  exact h.parse?_display

/-- The texts that are shown of proper keys. -/
theorem exists_proper_iff :
    (∃ k : Key, k.Proper ∧ k.display = text) ↔ IsSegment text ∨ IsPair text := by
  constructor
  · rintro ⟨⟨_ | ns, name⟩, h, rfl⟩
    · exact .inl h.name
    · exact .inr ⟨ns, name, h.ns ns rfl, h.name, rfl⟩
  · rintro (h | ⟨ns, name, hns, hname, rfl⟩)
    · exact ⟨cluster text, proper_cluster_iff.2 h, rfl⟩
    · exact ⟨namespaced ns name, proper_namespaced_iff.2 ⟨hns, hname⟩, rfl⟩

/-! ## One to one -/

/-- **Keys and their texts correspond one to one.** The texts that are read
as keys are the segments and the pairs of segments; each is shown of the key
that it is read as, and each proper key is read from what is shown of it. So
neither two texts are read as one key, nor are two proper keys shown as one
text. -/
theorem keys_and_texts_correspond :
    (∀ text, (∃ k, parse? text = some k) ↔ IsSegment text ∨ IsPair text) ∧
    (∀ text k, parse? text = some k → k.Proper ∧ k.display = text) ∧
    (∀ k : Key, k.Proper → parse? k.display = some k) ∧
    (∀ k l : Key, k.Proper → l.Proper → k.display = l.display → k = l) ∧
    ∀ text text' k, parse? text = some k → parse? text' = some k → text = text' := by
  refine ⟨fun text => ?_, fun _ _ => proper_of_parse?, fun _ => Proper.parse?_display,
    fun k l hk hl heq => ?_, fun text text' k h h' => ?_⟩
  · rw [← exists_proper_iff]
    exact exists_congr fun _ => parse?_eq_some_iff
  · have hread := hk.parse?_display
    rw [heq, hl.parse?_display] at hread
    exact (Option.some.inj hread).symm
  · exact (proper_of_parse? h).2.symm.trans (proper_of_parse? h').2

/-- A key with a namespace is told by its text from the key of the same name
without one, and a text with a slash too many is no key. -/
theorem keys_and_texts_correspond_namespaced :
    parse? "ns/x" = some (namespaced "ns" "x") ∧ parse? "x" = some (cluster "x") ∧
      ¬∃ k, parse? "ns//x" = some k := by
  obtain ⟨-, -, hread, -, -⟩ := keys_and_texts_correspond
  refine ⟨hread (namespaced "ns" "x") (proper_namespaced_iff.2 (by decide)),
    hread (cluster "x") (proper_cluster_iff.2 (by decide)), ?_⟩
  rintro ⟨k, hk⟩
  have hnone : parse? "ns//x" = none := by decide
  cases hnone.symm.trans hk

end Key

end ClusterFleet
