import ClusterFleet.Cleanup.Manifests
import ClusterFleet.Proofs.Cleanup.Holdings
import ClusterFleet.Proofs.Cleanup.Targets

/-!
# Cleanup — every file is accounted for

A pass over manifests goes on to its end whatever happens on the way. Each
file comes to one of four ends (`FileEnd`): it names no target, or its
target is deleted, gone already, or not deleted for another reason. What the
pass asks for, tells and reports is read off the ends, in the order of the
files (`Accounted`), and what it reports names the file or what its target is
called (`FileEnd.Told`).

A cluster `Disposes` of objects if it deletes what it says it deletes, and
says of exactly those that are not there that they are not there. On such a
cluster a pass that ends well leaves nothing to do for a second one
(`Ends.findsNothing`). A `Registry` is one.
-/

namespace ClusterFleet

namespace ManifestCleanup

/-! ## What a file comes to -/

/-- The end that a file comes to. -/
inductive FileEnd where
  /-- It names no target. -/
  | unread (file : String) (failure : Failure)
  /-- Its target is deleted. -/
  | deleted (t : Target)
  /-- Its target is not there. -/
  | gone (t : Target) (e : ApiError)
  /-- Its target is not deleted for another reason. -/
  | failed (t : Target) (e : ApiError)

namespace FileEnd

/-- The request that is made. -/
def call? : FileEnd → Option (CleanupCall × Option ApiError)
  | unread _ _ => none
  | deleted t => some (.remove t, none)
  | gone t e => some (.remove t, some e)
  | failed t e => some (.remove t, some e)

/-- The event that is told. -/
def event? : FileEnd → Option Event
  | deleted t => some ⟨"ManagedCluster" ++ t.kind.name ++ "Deleted", "Deleted " ++ t.display, false⟩
  | _ => none

/-- The failure that is reported: what was attempted, with the file or the
target that it is about, and then why it failed. -/
def failure? : FileEnd → Option Failure
  | unread file failure => some ⟨"manifest " ++ file, failure.top :: failure.causes⟩
  | failed t e => some ⟨"deleting " ++ t.display, e.message :: e.causes⟩
  | _ => none

/-- **The text of a report** on the end of a file: it names the file, or what
the target is called, and goes on with the messages of the cause. -/
inductive Told : FileEnd → String → Prop
  | unread {file : String} {failure : Failure} : Told (.unread file failure)
      (": ".intercalate (("manifest " ++ file) :: failure.top :: failure.causes))
  | failed {t : Target} {e : ApiError} {words : String} (called : t.Called words) :
      Told (.failed t e) (": ".intercalate (("deleting " ++ words) :: e.message :: e.causes))

/-- **What is reported names the file or its target.** -/
theorem told_chain {ended : FileEnd} {failure : Failure} (h : ended.failure? = some failure) :
    ended.Told failure.chain := by
  cases ended with
  | unread =>
    cases h
    exact .unread
  | failed t e =>
    cases h
    exact .failed t.called_display
  | deleted | gone => cases h

/-- What there is to say. -/
def outcome (ended : FileEnd) : Except Failure (Option Event) :=
  match ended.failure? with
  | some failure => .error failure
  | none => .ok ended.event?

end FileEnd

variable {σ : Type} [Access σ] {source : ManifestSource} {file : String} {files : List String}
variable {s mid s' : σ} {ended : FileEnd} {ends : List FileEnd}

/-- The end that a file comes to on a cluster, and the cluster after it: the
source and the answer of the cluster decide. -/
inductive Ended (source : ManifestSource) (file : String) (s : σ) : FileEnd → σ → Prop
  | unread {failure : Failure} (unread : source file = .error failure) :
      Ended source file s (.unread file failure) s
  | deleted {t : Target} {s' : σ} (names : source file = .ok t)
      (accepted : Access.deleteTarget t s = (.ok (), s')) : Ended source file s (.deleted t) s'
  | gone {t : Target} {e : ApiError} {s' : σ} (names : source file = .ok t)
      (refused : Access.deleteTarget t s = (.error e, s')) (missing : e.isNotFound = true) :
      Ended source file s (.gone t e) s'
  | failed {t : Target} {e : ApiError} {s' : σ} (names : source file = .ok t)
      (refused : Access.deleteTarget t s = (.error e, s')) (other : ¬e.isNotFound = true) :
      Ended source file s (.failed t e) s'

/-- The ends of files one after another. -/
inductive Ends (source : ManifestSource) : List String → σ → List FileEnd → σ → Prop
  | nil (s : σ) : Ends source [] s [] s
  | cons {file : String} {files : List String} {s mid s' : σ} {ended : FileEnd}
      {ends : List FileEnd} (first : Ended source file s ended mid)
      (rest : Ends source files mid ends s') : Ends source (file :: files) s (ended :: ends) s'

/-- Every file comes to an end. -/
theorem exists_ended (source : ManifestSource) (file : String) (s : σ) :
    ∃ ended s', Ended source file s ended s' := by
  cases hsource : source file with
  | error failure => exact ⟨_, s, .unread hsource⟩
  | ok t =>
    rcases hanswer : Access.deleteTarget t s with ⟨⟨e⟩ | ⟨⟩, s'⟩
    · by_cases hmissing : e.isNotFound = true
      · exact ⟨_, s', .gone hsource hanswer hmissing⟩
      · exact ⟨_, s', .failed hsource hanswer hmissing⟩
    · exact ⟨_, s', .deleted hsource hanswer⟩

theorem exists_ends (source : ManifestSource) (files : List String) (s : σ) :
    ∃ ends s', Ends source files s ends s' := by
  induction files generalizing s with
  | nil => exact ⟨[], s, .nil s⟩
  | cons file files ih =>
    obtain ⟨ended, mid, first⟩ := exists_ended source file s
    obtain ⟨ends, s', rest⟩ := ih mid
    exact ⟨ended :: ends, s', .cons first rest⟩

/-! ## What is said and asked -/

/-- **What is said of a file** is decided by its end. -/
theorem Ended.deleteOne_eq (h : Ended source file s ended s') :
    deleteOne source file s = (ended.outcome, s') := by
  rw [deleteOne]
  cases h with
  | unread unread => simp only [unread]; rfl
  | deleted names accepted => simp only [names, accepted]; rfl
  | gone names refused missing => simp only [names, refused, if_pos missing]; rfl
  | failed names refused other => simp only [names, refused, if_neg other]; rfl

/-- What is said of the files is what is said of each, in their order. -/
theorem Ends.deleteAll_eq (h : Ends source files s ends s') : deleteAll source files s =
    (ends.filterMap FileEnd.failure?, ends.filterMap FileEnd.event?, s') := by
  induction h with
  | nil s => rfl
  | @cons file files s mid s' ended ends first rest ih =>
    rw [deleteAll, first.deleteOne_eq]
    simp only [ih]
    cases ended <;> rfl

/-- On a watched cluster a file comes to the same end, and its request is on
record. -/
theorem Ended.watched (h : Ended source file s ended s') (before : CallRecord) :
    Ended source file (⟨s, before⟩ : Watched σ) ended ⟨s', before ++ ended.call?.toList⟩ := by
  have hnote {t : Target} {answer : Except ApiError Unit}
      (hanswer : Access.deleteTarget t s = (answer, s')) :
      Access.deleteTarget t (⟨s, before⟩ : Watched σ) =
        (answer, ⟨s', before ++ [(.remove t, Watched.error? answer)]⟩) := by
    change Watched.note (.remove t) (Access.deleteTarget t) ⟨s, before⟩ = _
    rw [Watched.note, hanswer]
  cases h with
  | unread unread =>
    rw [FileEnd.call?, Option.toList_none, List.append_nil]
    exact .unread unread
  | deleted names accepted => exact .deleted names (hnote accepted)
  | gone names refused missing => exact .gone names (hnote refused) missing
  | failed names refused other => exact .failed names (hnote refused) other

theorem Ends.watched (h : Ends source files s ends s') (before : CallRecord) :
    Ends source files (⟨s, before⟩ : Watched σ) ends
      ⟨s', before ++ ends.filterMap FileEnd.call?⟩ := by
  induction h generalizing before with
  | nil s =>
    rw [List.filterMap_nil, List.append_nil]
    exact .nil _
  | @cons file files s mid s' ended ends first rest ih =>
    have hrecord : before ++ (ended :: ends).filterMap FileEnd.call? =
        before ++ ended.call?.toList ++ ends.filterMap FileEnd.call? := by
      rw [List.append_assoc]
      cases ended <;> rfl
    rw [hrecord]
    exact .cons (first.watched before) (ih _)

/-- **Which requests are made** depends on the files alone: one for each that
names a target. -/
theorem Ends.asked (h : Ends source files s ends s') :
    (ends.filterMap FileEnd.call?).map Prod.fst =
      (files.filterMap fun file => (source file).toOption).map CleanupCall.remove := by
  induction h with
  | nil => rfl
  | @cons file files s mid s' ended ends first rest ih =>
    rw [List.filterMap_cons, List.filterMap_cons]
    cases first with
    | unread unread =>
      rw [unread]
      exact ih
    | deleted names | gone names | failed names =>
      rw [names]
      exact congrArg (_ :: ·) ih

/-! ## The report -/

/-- **How failures are reported**: not at all if there are none, one as it
is, and several in one message that counts and lists them. -/
inductive Reported : List Failure → Except Failure Unit → Prop
  | none : Reported [] (.ok ())
  | one (failure : Failure) : Reported [failure] (.error failure)
  | several (failures : List Failure) (many : 2 ≤ failures.length) :
      Reported failures (.error ⟨Decimal.text failures.length ++ " errors occurred:\n" ++
        "\n".intercalate (failures.map fun failure => "* " ++ failure.chain), []⟩)

theorem Reported.ok_iff {failures : List Failure} {result : Except Failure Unit}
    (h : Reported failures result) : result = .ok () ↔ failures = [] := by
  cases h with
  | none => exact iff_of_true rfl rfl
  | one failure => exact iff_of_false nofun nofun
  | several _ many =>
    refine iff_of_false nofun ?_
    rintro rfl
    cases many

/-- The result of a pass with these failures. -/
def report (failures : List Failure) : Except Failure Unit :=
  match Failure.aggregate failures with
  | none => .ok ()
  | some failure => .error failure

theorem reported_report (failures : List Failure) : Reported failures (report failures) :=
  match failures with
  | [] => .none
  | [failure] => .one failure
  | _ :: _ :: rest => .several _ (Nat.le_add_left 2 rest.length)

/-- A pass leaves what its files come to, tells of it, and reports. -/
theorem Ends.run_eq (h : Ends source files s ends s') : run source files s =
    ⟨report (ends.filterMap FileEnd.failure?), ends.filterMap FileEnd.event?, s'⟩ := by
  rw [run, h.deleteAll_eq, report]
  dsimp only
  cases Failure.aggregate (ends.filterMap FileEnd.failure?) <;> rfl

/-- The requests of a pass. -/
def calls (source : ManifestSource) (files : List String) (s : σ) : CallRecord :=
  (run source files (Watched.of s)).cluster.calls

theorem Ends.calls_eq (h : Ends source files s ends s') :
    calls source files s = ends.filterMap FileEnd.call? := by
  rw [calls, Watched.of, (h.watched []).run_eq, List.nil_append]

/-- To watch a pass changes nothing but the record. -/
theorem Ends.run_watched (h : Ends source files s ends s') : run source files (Watched.of s) =
    (run source files s).watched (calls source files s) := by
  rw [h.calls_eq, h.run_eq, Watched.of, (h.watched []).run_eq, List.nil_append]
  rfl

/-- **What a pass has to account for**, by the ends of its files: the
requests, the events and the failures, all in the order of the files. -/
structure Accounted (source : ManifestSource) (files : List String) (s : σ)
    (ends : List FileEnd) : Prop where
  /-- Each file comes to its end, whatever the others come to. -/
  course : Ends source files s ends (run source files s).cluster
  asked : (calls source files s).map Prod.fst =
    (files.filterMap fun file => (source file).toOption).map CleanupCall.remove
  answered : calls source files s = ends.filterMap FileEnd.call?
  told : (run source files s).events = ends.filterMap FileEnd.event?
  reported : Reported (ends.filterMap FileEnd.failure?) (run source files s).result
  /-- Each failure that is reported names its file or its target. -/
  named : ∀ ended ∈ ends, ∀ failure, ended.failure? = some failure → ended.Told failure.chain

theorem Ends.accounted (h : Ends source files s ends s') : Accounted source files s ends where
  course := by rwa [h.run_eq]
  asked := h.calls_eq ▸ h.asked
  answered := h.calls_eq
  told := by rw [h.run_eq]
  reported := by
    rw [h.run_eq]
    exact reported_report _
  named := fun _ _ _ => FileEnd.told_chain

/-! ## A second pass -/

/-- **A cluster that disposes of objects** when it accepts to, and that finds
no object just if it is not there. -/
structure Disposes (holds : σ → Target → Prop) : Prop where
  /-- What is deleted is not there. -/
  accepted : ∀ {t s s'}, Access.deleteTarget t s = (.ok (), s') → ¬holds s' t
  /-- What is not found is not there. -/
  missing : ∀ {t s e s'}, Access.deleteTarget t s = (.error e, s') → e.isNotFound = true →
    ¬holds s' t
  /-- What is not there is not found, and nothing comes of it. -/
  absent : ∀ {t s}, ¬holds s t → ∃ e s', Access.deleteTarget t s = (.error e, s') ∧
    e.isNotFound = true ∧ ∀ u, holds s' u ↔ holds s u
  /-- Nothing comes to be there by a deletion. -/
  kept : ∀ {t s answer s' u}, Access.deleteTarget t s = (answer, s') → holds s' u → holds s u

variable {holds : σ → Target → Prop}

theorem Ended.kept (h : Ended source file s ended s') (disposes : Disposes holds) {u : Target}
    (hu : holds s' u) : holds s u := by
  cases h with
  | unread => exact hu
  | deleted _ accepted => exact disposes.kept accepted hu
  | gone _ refused => exact disposes.kept refused hu
  | failed _ refused => exact disposes.kept refused hu

theorem Ends.kept (h : Ends source files s ends s') (disposes : Disposes holds) {u : Target}
    (hu : holds s' u) : holds s u := by
  induction h with
  | nil => exact hu
  | cons first _ ih => exact first.kept disposes (ih hu)

/-- A file without a failure names an object that is not there any more. -/
theorem Ended.clears (h : Ended source file s ended s') (disposes : Disposes holds)
    (fine : ended.failure? = none) : ∃ t, source file = .ok t ∧ ¬holds s' t := by
  cases h with
  | unread => cases fine
  | deleted names accepted => exact ⟨_, names, disposes.accepted accepted⟩
  | gone names refused missing => exact ⟨_, names, disposes.missing refused missing⟩
  | failed => cases fine

/-- **After a pass without failures** nothing is there of what the files
name. -/
theorem Ends.clears (h : Ends source files s ends s') (disposes : Disposes holds)
    (fine : ends.filterMap FileEnd.failure? = []) :
    ∀ file ∈ files, ∃ t, source file = .ok t ∧ ¬holds s' t := by
  induction h with
  | nil => exact fun _ hfile => nomatch hfile
  | @cons file files s mid s' ended ends first rest ih =>
    have hfine : ∀ e ∈ ended :: ends, e.failure? = none := List.filterMap_eq_nil_iff.1 fine
    intro f hf
    rcases List.mem_cons.1 hf with rfl | hf
    · -- gone after its own turn, and none of the later ones brings it back
      obtain ⟨t, names, hgone⟩ := first.clears disposes (hfine ended List.mem_cons_self)
      exact ⟨t, names, fun ht => hgone (rest.kept disposes ht)⟩
    · exact ih (List.filterMap_eq_nil_iff.2 fun e he => hfine e (List.mem_cons_of_mem _ he)) f hf

/-- Where an object is not there, its file only finds that out. -/
theorem Ended.idle (h : Ended source file s ended s') (disposes : Disposes holds)
    (absent : ∃ t, source file = .ok t ∧ ¬holds s t) :
    (∃ t e, ended = .gone t e ∧ e.isNotFound = true) ∧ ∀ u, holds s' u ↔ holds s u := by
  obtain ⟨t, names, hgone⟩ := absent
  obtain ⟨e, after, hanswer, hmissing, hsame⟩ := disposes.absent hgone
  cases h with
  | unread unread => cases unread.symm.trans names
  | deleted names' accepted =>
    cases names'.symm.trans names
    cases accepted.symm.trans hanswer
  | gone names' refused =>
    cases names'.symm.trans names
    cases refused.symm.trans hanswer
    exact ⟨⟨t, e, rfl, hmissing⟩, hsame⟩
  | failed names' refused other =>
    cases names'.symm.trans names
    cases refused.symm.trans hanswer
    exact absurd hmissing other

/-- **Where nothing is there** of what the files name, a pass changes
nothing. -/
theorem Ends.idle (h : Ends source files s ends s') (disposes : Disposes holds)
    (absent : ∀ file ∈ files, ∃ t, source file = .ok t ∧ ¬holds s t) :
    (∀ ended ∈ ends, ∃ t e, ended = .gone t e ∧ e.isNotFound = true) ∧
      ∀ u, holds s' u ↔ holds s u := by
  induction h with
  | nil => exact ⟨fun _ hend => (nomatch hend), fun u => Iff.rfl⟩
  | @cons file files s mid s' ended ends first rest ih =>
    obtain ⟨hfirst, hmid⟩ := first.idle disposes (absent file List.mem_cons_self)
    -- the same is there as before, so the later files find nothing either
    obtain ⟨hrest, hlast⟩ := ih fun f hf =>
      (absent f (List.mem_cons_of_mem _ hf)).imp fun _ ht => ⟨ht.1, fun hu => ht.2 ((hmid _).1 hu)⟩
    exact ⟨List.forall_mem_cons.2 ⟨hfirst, hrest⟩, fun u => (hlast u).trans (hmid u)⟩

/-- **A pass that finds nothing to do**: it ends well, tells nothing, and
every object it asks for is not found; what is there stays there. -/
structure FindsNothing (holds : σ → Target → Prop) (source : ManifestSource)
    (files : List String) (s : σ) : Prop where
  result : (run source files s).result = .ok ()
  events : (run source files s).events = []
  answers : ∀ call ∈ calls source files s, ∃ e, call.2 = some e ∧ e.isNotFound = true
  holds : ∀ t, holds (run source files s).cluster t ↔ holds s t

theorem Ends.findsNothing (h : Ends source files s ends s') (disposes : Disposes holds)
    (absent : ∀ file ∈ files, ∃ t, source file = .ok t ∧ ¬holds s t) :
    FindsNothing holds source files s := by
  obtain ⟨hgone, hsame⟩ := h.idle disposes absent
  have hnone {β : Type} {f : FileEnd → Option β} (hf : ∀ t e, f (.gone t e) = none) :
      ends.filterMap f = [] := by
    refine List.filterMap_eq_nil_iff.2 fun ended hended => ?_
    obtain ⟨t, e, rfl, -⟩ := hgone ended hended
    exact hf t e
  have hrun : run source files s = ⟨.ok (), [], s'⟩ := by
    rw [h.run_eq, hnone fun _ _ => rfl, hnone fun _ _ => rfl]
    rfl
  refine ⟨by rw [hrun], by rw [hrun], fun call hcall => ?_, by rwa [hrun]⟩
  rw [h.calls_eq, List.mem_filterMap] at hcall
  obtain ⟨ended, hended, hcall⟩ := hcall
  obtain ⟨t, e, rfl, hmissing⟩ := hgone ended hended
  cases hcall
  exact ⟨e, rfl, hmissing⟩

end ManifestCleanup

/-! ## A registry disposes -/

namespace Registry

/-- The reach, namespace and name of the binding that is a target, if it is
one. -/
def binding? (t : Target) : Option (Reach × String × String) :=
  match t.kind with
  | .clusterRoleBinding => some (.cluster, "", t.name)
  | .roleBinding => some (.namespaced, t.ns.getD "", t.name)
  | _ => none

/-- A target is there: it is a binding that is held. -/
def Has (r : Registry) (t : Target) : Prop :=
  ∃ reach ns name, binding? t = some (reach, ns, name) ∧
    (r.held reach (reach.place ns name)).isSome = true

variable {reach : Reach} {ns name : String} {t : Target} {r r' : Registry}

theorem deleteTarget_of_binding (h : binding? t = some (reach, ns, name)) (r : Registry) :
    Access.deleteTarget t r = delete reach ns name r := by
  obtain ⟨kind, place, label⟩ := t
  cases kind <;> cases h <;> rfl

theorem deleteTarget_of_other (h : binding? t = none) (r : Registry) :
    Access.deleteTarget t r = (.error notFound, r) := by
  obtain ⟨kind, place, label⟩ := t
  cases kind <;> first | rfl | cases h

/-- A deletion takes a target away that is there, and finds none
otherwise. -/
theorem deleteTarget_cases (t : Target) (r : Registry) :
    (r.Has t ∧ ∃ r', Access.deleteTarget t r = (.ok (), r') ∧ ¬r'.Has t ∧ ∀ u, r'.Has u → r.Has u) ∨
    (¬r.Has t ∧ Access.deleteTarget t r = (.error notFound, r)) := by
  cases hbinding : binding? t with
  | none =>
    refine .inr ⟨?_, deleteTarget_of_other hbinding r⟩
    rintro ⟨reach, ns, name, h, -⟩
    cases hbinding.symm.trans h
  | some place =>
    obtain ⟨reach, ns, name⟩ := place
    -- a target with a binding is there if its place holds one
    have hhas (r : Registry) : r.Has t ↔ (r.held reach (reach.place ns name)).isSome = true := by
      refine ⟨fun ⟨_, _, _, h, hheld⟩ => ?_, fun hheld => ⟨_, _, _, hbinding, hheld⟩⟩
      cases hbinding.symm.trans h
      exact hheld
    rw [deleteTarget_of_binding hbinding, hhas]
    by_cases hheld : (r.held reach (reach.place ns name)).isSome = true
    · have hdelete : delete reach ns name r = (.ok (), _) := if_pos hheld
      have hafter := obedient.deleted hdelete
      refine .inl ⟨hheld, _, hdelete, ?_, ?_⟩
      · rw [hhas, hafter, Holdings.set_self]
        exact Bool.false_ne_true
      · rintro u ⟨reach', ns', name', hu, hthere⟩
        refine ⟨reach', ns', name', hu, ?_⟩
        rw [hafter, Holdings.set] at hthere
        split at hthere
        · cases hthere
        · exact hthere
    · exact .inr ⟨hheld, if_neg hheld⟩

/-- **A registry disposes of bindings.** -/
theorem disposes : ManifestCleanup.Disposes Has where
  accepted {t r r'} h := by
    obtain ⟨-, after, hanswer, hgone, -⟩ | ⟨-, hanswer⟩ := deleteTarget_cases t r
    · cases hanswer.symm.trans h
      exact hgone
    · cases hanswer.symm.trans h
  missing {t r e r'} h _ := by
    obtain ⟨-, after, hanswer, -, -⟩ | ⟨habsent, hanswer⟩ := deleteTarget_cases t r
    · cases hanswer.symm.trans h
    · cases hanswer.symm.trans h
      exact habsent
  absent {t r} habsent := by
    obtain ⟨hthere, -⟩ | ⟨-, hanswer⟩ := deleteTarget_cases t r
    · exact absurd hthere habsent
    · exact ⟨notFound, r, hanswer, rfl, fun u => Iff.rfl⟩
  kept {t r answer r' u} h hu := by
    obtain ⟨-, after, hanswer, -, hkept⟩ | ⟨-, hanswer⟩ := deleteTarget_cases t r
    · cases hanswer.symm.trans h
      exact hkept u hu
    · cases hanswer.symm.trans h
      exact hu

end Registry

/-! ## The account -/

namespace ManifestCleanup

/-- **Every file is accounted for.** A pass over manifests, whatever their
source and whatever the cluster answers, asks once for the deletion of each
target that its files name, in their order; it tells of every deletion that
was accepted, and reports every other end but that of an object that is
gone, by the name of the file or by what its target is called. To watch it
changes nothing. Where the cluster disposes of what it accepts to delete, a
second pass after one that ended well finds nothing to do. -/
theorem every_file_is_accounted_for {σ : Type} [Access σ] (source : ManifestSource)
    (files : List String) (s : σ) :
    run source files (Watched.of s) =
      (run source files s).watched (calls source files s) ∧
    (∃ ends, Accounted source files s ends) ∧
    ∀ holds, Disposes holds → (run source files s).result = .ok () →
      FindsNothing holds source files (run source files s).cluster := by
  obtain ⟨ends, s', hends⟩ := exists_ends source files s
  refine ⟨hends.run_watched, ⟨ends, hends.accounted⟩, fun holds disposes hok => ?_⟩
  obtain ⟨ends', s'', hagain⟩ := exists_ends source files s'
  rw [hends.run_eq] at hok ⊢
  exact hagain.findsNothing disposes (hends.clears disposes ((reported_report _).ok_iff.1 hok))

namespace TwiceNamed

/-- A registry with one binding. -/
def registry : Registry where
  bindings reach :=
    match reach with
    | .cluster =>
      let metadata : Json := .object [("name", .string "a")]
      [⟨metadata, ⟨accessGroup, "ClusterRole", "edit"⟩, none⟩]
    | .namespaced => []
  distinct reach := by cases reach <;> decide

/-- The target that is the binding. -/
def binding : Target := ⟨.clusterRoleBinding, none, "a"⟩

/-- Manifests of the binding and of a role that is not there. -/
def source : ManifestSource := fun file =>
  if file = "binding" then .ok binding
  else if file = "role" then .ok ⟨.role, some "x", "b"⟩
  else .error (.plain ("no such manifest " ++ file))

/-- The binding is named twice. -/
def files : List String := ["binding", "role", "binding"]

end TwiceNamed

open TwiceNamed in
/-- A binding that is named twice is deleted once, and a second pass finds
nothing to do. A file that is not there is reported by its name, and does not
keep the binding. -/
theorem every_file_is_accounted_for_twice :
    (run source files registry).result = .ok () ∧
      (run source files registry).events =
        [⟨"ManagedClusterClusterRoleBindingDeleted", "Deleted ClusterRoleBinding a", false⟩] ∧
      (∃ ends, Accounted source files registry ends) ∧
      FindsNothing Registry.Has source files (run source files registry).cluster ∧
      (run source ["lost", "binding"] registry).result =
        .error ⟨"manifest lost", ["no such manifest lost"]⟩ ∧
      ∃ ends, Accounted source ["lost", "binding"] registry ends := by
  have hok : (run source files registry).result = .ok () := rfl
  obtain ⟨-, accounted, again⟩ := every_file_is_accounted_for source files registry
  obtain ⟨-, accounted', -⟩ := every_file_is_accounted_for source ["lost", "binding"] registry
  exact ⟨hok, rfl, accounted, again Registry.Has Registry.disposes hok, rfl, accounted'⟩

end ManifestCleanup

end ClusterFleet
