import ClusterFleet.Api.Server
import ClusterFleet.Proofs.Text.Parts

/-!
# API — what is sent of a path

Names go into a path as they are, and a path goes into an address as it is.
In an address a question mark begins the query and a number sign the
fragment, so the path of the request is only what stands before the first of
them (`Address.path_of_ofPath`). The segments of it are those that were
meant just if all of these are plain (`Request.segments_eq_self_iff`), and a
name that begins with such a character leaves its segment blank
(`Request.exists_segments_eq_iff`): the request is for all that the name is
one of.
-/

namespace ClusterFleet

/-! ## The path of an address -/

namespace Address

/-- A character belongs to the path of an address, and not to what follows
it. -/
def inPath (c : Char) : Bool := c ≠ '?' && c ≠ '#'

/-- The part of a text that becomes the path of an address. -/
def kept (cs : List Char) : List Char := cs.takeWhile inPath

variable {c : Char} {cs out before after short : List Char} {path target : String}

theorem inPath_iff : inPath c = true ↔ c ≠ '?' ∧ c ≠ '#' := by
  rw [inPath, Bool.and_eq_true, decide_eq_true_eq, decide_eq_true_eq]

theorem inPath_of_mem_kept (h : c ∈ kept cs) : inPath c = true :=
  List.all_eq_true.1 List.all_takeWhile c h

/-- A text is kept up to some point just if all before that point belongs to
the path, and so much is kept of the rest. -/
theorem kept_append_eq_iff : kept (before ++ after) = before ++ short ↔
    (∀ c ∈ before, inPath c = true) ∧ kept after = short := by
  constructor
  · intro h
    have hall : ∀ c ∈ before, inPath c = true := fun c hc =>
      inPath_of_mem_kept (h ▸ List.mem_append_left short hc)
    rw [kept, List.takeWhile_append_of_pos hall] at h
    exact ⟨hall, List.append_cancel_left h⟩
  · rintro ⟨hall, rfl⟩
    exact List.takeWhile_append_of_pos hall

/-- All of a text is kept just if all of it belongs to the path. -/
theorem kept_eq_self_iff : kept cs = cs ↔ ∀ c ∈ cs, inPath c = true := by
  have h : kept (cs ++ []) = cs ++ [] ↔ (∀ c ∈ cs, inPath c = true) ∧ kept [] = [] :=
    kept_append_eq_iff
  rw [List.append_nil] at h
  exact h.trans (and_iff_left rfl)

/-- A question mark at the end of a text belongs to no path. -/
theorem takeWhile_append_query {p : Char → Bool} (h : p '?' = false) (cs : List Char) :
    (cs ++ ['?']).takeWhile p = cs.takeWhile p := by
  rw [List.takeWhile_append]
  split
  · rename_i hall
    rw [(List.takeWhile_prefix p).eq_of_length hall, List.takeWhile_cons_of_neg (by simp [h]),
      List.append_nil]
  · rfl

/-- What is read of an address has the kept part as its path. -/
theorem takeWhile_target? (h : target? cs = some out) :
    out.takeWhile (· ≠ '?') = kept cs := by
  induction cs generalizing out with
  | nil =>
    cases h
    rfl
  | cons c cs ih =>
    rw [target?] at h
    split at h
    · rename_i hquery
      obtain ⟨rest, -, rfl⟩ := Option.map_eq_some_iff.1 h
      rw [hquery]
      rfl
    · rename_i hquery
      split at h
      · rename_i hfragment
        cases h
        rw [hfragment]
        rfl
      · rename_i hfragment
        split at h
        · obtain ⟨rest, hrest, rfl⟩ := Option.map_eq_some_iff.1 h
          rw [kept, List.takeWhile_cons_of_pos (inPath_iff.2 ⟨hquery, hfragment⟩), ← kept,
            ← ih hrest]
          exact List.takeWhile_cons_of_pos (decide_eq_true hquery)
        · cases h

/-- To drop an empty query does not change the path. -/
theorem takeWhile_withoutEmptyQuery (cs : List Char) :
    (withoutEmptyQuery cs).takeWhile (· ≠ '?') = cs.takeWhile (· ≠ '?') := by
  rw [withoutEmptyQuery]
  split
  · rename_i hlast
    obtain ⟨front, rfl⟩ := List.getLast?_eq_some_iff.1 hlast
    rw [List.dropLast_concat, takeWhile_append_query rfl]
  · rfl

/-- **The path of a target** is what is kept of the path that it was made
of. -/
theorem path_of_ofPath (h : ofPath path = .ok target) :
    target.toList.takeWhile (· ≠ '?') = kept path.toList := by
  rw [ofPath] at h
  split at h
  · cases h
  · split at h
    · rename_i out hout
      cases h
      rw [String.toList_ofList, takeWhile_withoutEmptyQuery, takeWhile_target? hout,
        String.toList_append]
      exact takeWhile_append_query rfl path.toList
    · cases h

end Address

/-! ## The segments of a path -/

/-- A text says in a path what it says elsewhere: nothing in it ends a
segment, or the path. -/
def Plain (s : String) : Prop := ∀ c ∈ s.toList, c ≠ '/' ∧ c ≠ '?' ∧ c ≠ '#'

-- over the characters of the text, not over all that there are
instance (s : String) : Decidable (Plain s) := List.decidableBAll _ s.toList

/-- A text leaves its segment blank: it begins with what ends a segment, or
the path. -/
def LeavesBlank (s : String) : Prop := ∃ c, s.toList.head? = some c ∧ (c = '/' ∨ c = '?' ∨ c = '#')

namespace Request

/-- The path of a request: its target without the query. -/
def path (r : Request) : List Char := r.target.toList.takeWhile (· ≠ '?')

/-- The segments of the path of a request, as they are sent: an escape is the
characters that it is written with. -/
def segments (r : Request) : List String := (r.path.splitOn '/').map String.ofList

end Request

section Segments

variable {r : Request} {segments place rest tail : List String} {s name : String} {cs : List Char}

theorem plain_iff :
    Plain s ↔ '/' ∉ s.toList ∧ ∀ c ∈ s.toList, Address.inPath c = true := by
  simp only [Plain, Address.inPath_iff]
  constructor
  · exact fun h => ⟨fun hc => (h _ hc).1 rfl, fun c hc => (h c hc).2⟩
  · exact fun h c hc => ⟨fun heq => h.1 (heq ▸ hc), h.2 c hc⟩

/-- Several texts are plain just if no separator is in any, and the text of
them as segments belongs to a path. -/
theorem forall_plain_iff : (∀ s ∈ place, Plain s) ↔ (∀ s ∈ place, '/' ∉ s.toList) ∧
    ∀ c ∈ place.flatMap fun s => s.toList ++ ['/'], Address.inPath c = true := by
  have hslash : Address.inPath '/' = true := rfl
  simp only [plain_iff, List.mem_flatMap, List.mem_append, List.mem_singleton]
  constructor
  · refine fun h => ⟨fun s hs => (h s hs).1, ?_⟩
    rintro c ⟨s, hs, hc | rfl⟩
    · exact (h s hs).2 c hc
    · exact hslash
  · exact fun h s hs => ⟨h.1 s hs, fun c hc => h.2 c ⟨s, hs, .inl hc⟩⟩

/-- The text of segments, the first ones apart. -/
theorem toList_intercalate_append (place : List String) (hne : tail ≠ []) :
    ("/".intercalate (place ++ tail)).toList =
      (place.flatMap fun s => s.toList ++ ['/']) ++ ("/".intercalate tail).toList := by
  induction place with
  | nil => rfl
  | cons s place ih =>
    obtain ⟨t, rest, hrest⟩ :=
      List.exists_cons_of_ne_nil (List.append_ne_nil_of_right_ne_nil place hne)
    rw [List.cons_append, hrest, String.toList_intercalate, List.map_cons, List.map_cons,
      List.intercalate_cons_cons, ← List.map_cons, ← String.toList_intercalate, ← hrest, ih,
      List.flatMap_cons, List.append_assoc _ _ (String.toList _)]
    rfl

theorem toList_intercalate_singleton (s : String) : ("/".intercalate [s]).toList = s.toList := by
  rw [String.toList_intercalate]
  exact List.intercalate_singleton

/-- Texts are the parts of a text just if it is joined from them, and no
separator is in any. -/
theorem splitOn_eq_map_iff (hne : segments ≠ []) :
    cs.splitOn '/' = segments.map String.toList ↔
      (∀ s ∈ segments, '/' ∉ s.toList) ∧ ("/".intercalate segments).toList = cs := by
  rw [← Text.splitAt_eq_splitOn, Text.splitAt_eq_iff, List.forall_mem_map,
    String.toList_intercalate]
  exact and_iff_right (mt List.map_eq_nil_iff.1 hne)

theorem Request.segments_eq_iff_splitOn :
    r.segments = segments ↔ r.path.splitOn '/' = segments.map String.toList := by
  rw [Request.segments]
  constructor
  · rintro rfl
    simp
  · intro h
    simp [h]

/-- **The segments that are sent** of a path that was joined from others:
those before some point are the same just if they are plain, and the others
are the segments of what is kept of their text. -/
theorem Request.segments_eq_append_iff
    (sent : r.path = Address.kept ("/".intercalate (place ++ rest)).toList) (hrest : rest ≠ [])
    (htail : tail ≠ []) :
    r.segments = place ++ tail ↔ (∀ s ∈ place, Plain s) ∧
      (Address.kept ("/".intercalate rest).toList).splitOn '/' = tail.map String.toList := by
  rw [Request.segments_eq_iff_splitOn,
    splitOn_eq_map_iff (List.append_ne_nil_of_right_ne_nil place htail), splitOn_eq_map_iff htail,
    sent, toList_intercalate_append place htail, toList_intercalate_append place hrest,
    eq_comm (b := Address.kept _), Address.kept_append_eq_iff, List.forall_mem_append,
    forall_plain_iff, eq_comm (b := Address.kept (String.toList _))]
  exact and_and_and_comm

/-- **The same segments are sent** that were joined, just if all are plain. -/
theorem Request.segments_eq_self_iff
    (sent : r.path = Address.kept ("/".intercalate (place ++ [name])).toList) :
    r.segments = place ++ [name] ↔ (∀ s ∈ place, Plain s) ∧ Plain name := by
  have hne : [name] ≠ [] := List.cons_ne_nil name []
  rw [Request.segments_eq_append_iff sent hne hne, splitOn_eq_map_iff hne,
    List.forall_mem_singleton, plain_iff (s := name), toList_intercalate_singleton,
    eq_comm (b := Address.kept _), Address.kept_eq_self_iff]

/-- Of a text an empty segment is sent first, just if the text begins with
what ends a segment, or the path. -/
theorem exists_splitOn_kept_iff (c : Char) (cs : List Char) :
    (∃ rest, (Address.kept (c :: cs)).splitOn '/' = [] :: rest) ↔ c = '/' ∨ c = '?' ∨ c = '#' := by
  rw [Address.kept]
  by_cases hin : Address.inPath c = true
  · -- the first character is kept, and begins the first segment unless it ends it
    obtain ⟨first, rest, hrest⟩ :=
      List.exists_cons_of_ne_nil (List.splitOn_ne_nil '/' (cs.takeWhile Address.inPath))
    rw [List.takeWhile_cons_of_pos hin, List.splitOn_cons_eq_if_modifyHead, hrest]
    have hquery := Address.inPath_iff.1 hin
    by_cases hslash : c = '/'
    · simp [hslash]
    · simp [hslash, hquery.1, hquery.2]
  · have hend : c = '?' ∨ c = '#' :=
      Decidable.or_iff_not_not_and_not.2 (mt Address.inPath_iff.2 hin)
    rw [List.takeWhile_cons_of_neg hin, List.splitOn_nil]
    exact iff_of_true ⟨[], rfl⟩ (.inr hend)

/-- **An empty segment is sent** in the place of a name just if the segments
before it are plain and the name leaves its segment blank. -/
theorem Request.exists_segments_eq_iff
    (sent : r.path = Address.kept ("/".intercalate (place ++ name :: rest)).toList)
    (hne : name ≠ "") :
    (∃ after, r.segments = place ++ "" :: after) ↔ (∀ s ∈ place, Plain s) ∧ LeavesBlank name := by
  -- the text from the name on begins with the first character of the name
  obtain ⟨c, cs, hname⟩ := List.exists_cons_of_ne_nil (mt String.toList_eq_nil_iff.1 hne)
  obtain ⟨cs', htext⟩ : ∃ cs', ("/".intercalate (name :: rest)).toList = c :: cs' := by
    rw [String.toList_intercalate, List.map_cons, hname]
    cases rest <;> simp
  have hblank : LeavesBlank name ↔ c = '/' ∨ c = '?' ∨ c = '#' := by
    rw [LeavesBlank, hname]
    simp
  have hsegments (after : List String) := Request.segments_eq_append_iff sent
    (List.cons_ne_nil name rest) (List.cons_ne_nil "" after)
  rw [hblank, ← exists_splitOn_kept_iff c cs', ← htext]
  constructor
  · rintro ⟨after, hafter⟩
    obtain ⟨hplain, hsplit⟩ := (hsegments after).1 hafter
    exact ⟨hplain, _, hsplit⟩
  · rintro ⟨hplain, after, hafter⟩
    refine ⟨after.map String.ofList, (hsegments _).2 ⟨hplain, ?_⟩⟩
    rw [hafter]
    simp

end Segments

end ClusterFleet
