import ClusterFleet.Cleanup.Folder
import ClusterFleet.Proofs.Api.Dialogue
import ClusterFleet.Proofs.Cleanup.Manifests

/-!
# Cleanup — what a deletion is addressed to

A manifest names a target, or it has a first fault: its type, its name and
its namespace decide, looked at in this order (`Manifest.Names`,
`Manifest.Faulty`). A target that is named is addressed: it has a name, and
a namespace just if objects of its kind live in one
(`Manifest.Names.addressed`). So every call of a pass is for an addressed
target.

The request that is sent need not be. The name of the target goes into its
path unescaped, and a name may well begin with a number sign: such a request
is for the whole collection, or for all namespaces if it is the namespace
that does (`Request.Deletes.lacksName_iff`, `Request.Deletes.lacksSpace_iff`).
A request is for its target just if name and namespace are plain
(`Request.Deletes.isFor_iff`).
-/

namespace ClusterFleet

/-! ## What a manifest comes to -/

namespace Manifest

/-- A text is given: it is there, and it is not empty. -/
def Given (text : Option String) (s : String) : Prop := text = some s ∧ s ≠ ""

/-- A manifest is of a kind: it gives the type of it. -/
def IsOf (m : Manifest) (kind : TargetKind) : Prop :=
  ∃ version kindName, m.apiVersion = some version ∧ m.kind = some kindName ∧
    TargetKind.IsType version kindName kind

/-- **What a manifest names**: an object of its kind and name, in its
namespace if objects of the kind live in one, and otherwise in none. -/
inductive Names (m : Manifest) : Target → Prop
  | everywhere {kind : TargetKind} {name : String} (type : m.IsOf kind) (free : ¬kind.IsPlaced)
      (named : Given m.name name) : Names m ⟨kind, none, name⟩
  | within {kind : TargetKind} {name ns : String} (type : m.IsOf kind) (bound : kind.IsPlaced)
      (named : Given m.name name) (placed : Given m.ns ns) : Names m ⟨kind, some ns, name⟩

/-- **The first fault of a manifest**, with what is said of it. -/
inductive Faulty (m : Manifest) : String → Prop
  | noVersion (missing : m.apiVersion = none) : Faulty m "manifest missing apiVersion"
  | noKind {version : String} (hversion : m.apiVersion = some version) (missing : m.kind = none) :
      Faulty m "manifest missing kind"
  | unknown {version kindName : String} (hversion : m.apiVersion = some version)
      (hkind : m.kind = some kindName)
      (foreign : ∀ kind, ¬TargetKind.IsType version kindName kind) :
      Faulty m ("unhandled type " ++ version ++ "/" ++ kindName)
  | unnamed {kind : TargetKind} (type : m.IsOf kind) (missing : ∀ name, ¬Given m.name name) :
      Faulty m "manifest missing metadata.name"
  | unplaced {kind : TargetKind} {name : String} (type : m.IsOf kind) (bound : kind.IsPlaced)
      (named : Given m.name name) (missing : ∀ ns, ¬Given m.ns ns) :
      Faulty m (kind.name ++ " " ++ name ++ " missing metadata.namespace")

variable {m : Manifest} {t : Target} {text : Option String} {s message : String}
variable {kind : TargetKind} {name ns : String}

theorem need_of_given (h : Given text s) (otherwise : String) : need text otherwise = .ok s := by
  have hkept : text.filter (· ≠ "") = some s := by
    rw [h.1]
    exact if_pos (decide_eq_true h.2)
  rw [need, hkept]

theorem need_of_missing (h : ∀ s, ¬Given text s) (otherwise : String) :
    need text otherwise = .error (.plain otherwise) := by
  have hnone : text.filter (· ≠ "") = none := by
    refine Option.filter_eq_none_iff.2 fun s hs => ?_
    rw [decide_eq_true_eq]
    exact fun hne => h s ⟨hs, hne⟩
  rw [need, hnone]

theorem place_of_free (h : ¬kind.IsPlaced) : place kind name m.ns = .ok none :=
  if_neg (mt TargetKind.isNamespaced_iff.1 h)

theorem place_of_bound (h : kind.IsPlaced) : place kind name m.ns =
    (need m.ns (kind.name ++ " " ++ name ++ " missing metadata.namespace")).map some :=
  if_pos (TargetKind.isNamespaced_iff.2 h)

/-- Where the type is known, the name is looked at, and then the
namespace. -/
theorem target_of_isOf (h : m.IsOf kind) : m.target = do
    let name ← need m.name "manifest missing metadata.name"
    let ns ← place kind name m.ns
    return ⟨kind, ns, name⟩ := by
  obtain ⟨version, kindName, hversion, hkind, htype⟩ := h
  rw [target, hversion, hkind]
  simp only [TargetKind.ofType?_eq_some_iff.2 htype]

theorem Names.target_eq (h : m.Names t) : m.target = .ok t := by
  cases h with
  | everywhere type free named =>
    rw [target_of_isOf type, need_of_given named]
    simp only [bind, Except.bind, place_of_free free]
    rfl
  | within type bound named placed =>
    rw [target_of_isOf type, need_of_given named]
    simp only [bind, Except.bind, place_of_bound bound, need_of_given placed]
    rfl

theorem Faulty.target_eq (h : m.Faulty message) : m.target = .error (.plain message) := by
  cases h with
  | noVersion missing => rw [target, missing]
  | noKind hversion missing => rw [target, hversion, missing]
  | unknown hversion hkind foreign =>
    rename_i version kindName
    have hnone : TargetKind.ofType? version kindName = none :=
      Option.eq_none_iff_forall_ne_some.2 fun kind h =>
        foreign kind (TargetKind.ofType?_eq_some_iff.1 h)
    rw [target, hversion, hkind]
    simp only [hnone]
  | unnamed type missing =>
    rw [target_of_isOf type, need_of_missing missing]
    rfl
  | unplaced type bound named missing =>
    rw [target_of_isOf type, need_of_given named]
    simp only [bind, Except.bind, place_of_bound bound, need_of_missing missing]
    rfl

theorem given_or_missing (text : Option String) :
    (∃ s, Given text s) ∨ ∀ s, ¬Given text s := by
  rw [← not_exists]
  exact Classical.em _

/-- Every manifest names a target or has a first fault. -/
theorem names_or_faulty (m : Manifest) : (∃ t, m.Names t) ∨ ∃ message, m.Faulty message := by
  -- the cases are split in the order of the checks, so that a fault is the first one
  cases hversion : m.apiVersion with
  | none => exact .inr ⟨_, .noVersion hversion⟩
  | some version =>
    cases hkind : m.kind with
    | none => exact .inr ⟨_, .noKind hversion hkind⟩
    | some kindName =>
      by_cases hknown : ∃ kind, TargetKind.IsType version kindName kind
      · obtain ⟨kind, htype⟩ := hknown
        have type : m.IsOf kind := ⟨version, kindName, hversion, hkind, htype⟩
        obtain ⟨name, named⟩ | missing := given_or_missing m.name
        · by_cases bound : kind.IsPlaced
          · obtain ⟨ns, placed⟩ | missing := given_or_missing m.ns
            · exact .inl ⟨_, .within type bound named placed⟩
            · exact .inr ⟨_, .unplaced type bound named missing⟩
          · exact .inl ⟨_, .everywhere type bound named⟩
        · exact .inr ⟨_, .unnamed type missing⟩
      · exact .inr ⟨_, .unknown hversion hkind (not_exists.1 hknown)⟩

/-- **A target comes of a manifest** just if the manifest names it. -/
theorem target_eq_ok_iff : m.target = .ok t ↔ m.Names t := by
  refine ⟨fun h => ?_, Names.target_eq⟩
  obtain ⟨u, hu⟩ | ⟨message, hfaulty⟩ := m.names_or_faulty
  · cases h.symm.trans hu.target_eq
    exact hu
  · cases h.symm.trans hfaulty.target_eq

/-- **A failure comes of a manifest** just if it tells the first fault. -/
theorem target_eq_error_iff {failure : Failure} :
    m.target = .error failure ↔ ∃ message, m.Faulty message ∧ failure = .plain message := by
  constructor
  · intro h
    obtain ⟨u, hu⟩ | ⟨message, hfaulty⟩ := m.names_or_faulty
    · cases h.symm.trans hu.target_eq
    · exact ⟨message, hfaulty, Except.error.inj (h.symm.trans hfaulty.target_eq)⟩
  · rintro ⟨message, hfaulty, rfl⟩
    exact hfaulty.target_eq

/-- The manifest that a text in UTF-8 is, if it can be made sense of. -/
def ofBytes? (bytes : ByteArray) : Option Manifest := (String.fromUTF8? bytes).bind ofText?

theorem ofBytes?_toUTF8 (text : String) : ofBytes? text.toUTF8 = ofText? text := by
  have hutf8 : String.fromUTF8? text.toUTF8 = some text := dif_pos text.isValidUTF8
  rw [ofBytes?, hutf8, Option.bind_some]

theorem targetOfBytes_eq {bytes : ByteArray} (h : ofBytes? bytes = some m) :
    targetOfBytes bytes = m.target := by
  rw [ofBytes?] at h
  rw [targetOfBytes, h]

end Manifest

/-! ## Addressed targets -/

theorem Manifest.Names.addressed {m : Manifest} {t : Target} (h : m.Names t) : t.Addressed := by
  cases h with
  | everywhere _ free named =>
    exact ⟨named.2, fun bound => absurd bound free, fun _ => rfl⟩
  | within _ bound named placed =>
    exact ⟨named.2, fun _ => ⟨_, rfl, placed.2⟩, fun free => absurd bound free⟩

/-! ## Sources -/

namespace ManifestSource

/-- A source loads the texts of files, and each target comes of the text of
its file. -/
def Loads (source : ManifestSource) : Prop :=
  ∃ load : String → Except Failure ByteArray,
    ∀ file, source file = (load file).bind Manifest.targetOfBytes

theorem loads_ofEntries (entries : List (String × ByteArray)) : (ofEntries entries).Loads := by
  refine ⟨fun file => (entries.lookup file).elim
    (.error (.plain ("no such manifest " ++ file))) .ok, fun file => ?_⟩
  rw [ofEntries]
  dsimp only
  cases entries.lookup file <;> rfl

theorem loads_ofFolder (tree : FileTree) (folder clusterName : String) :
    (ofFolder tree folder clusterName).Loads := by
  refine ⟨fun file =>
    ((tree.read (FileTree.join folder file)).mapError fun fault => Failure.context
      ("reading manifest " ++ FileTree.join folder file) (.plain fault.message)).map
        fun text => (Template.render clusterName text).toUTF8, fun file => ?_⟩
  rw [ofFolder]
  dsimp only
  cases tree.read (FileTree.join folder file) <;> rfl

/-- **What is loaded is addressed**, whatever stands in the files. -/
theorem Loads.addressed {source : ManifestSource} {file : String} {t : Target}
    (loads : source.Loads) (h : source file = .ok t) : t.Addressed := by
  obtain ⟨load, hload⟩ := loads
  rw [hload] at h
  cases hbytes : load file with
  | error failure =>
    rw [hbytes] at h
    cases h
  | ok bytes =>
    rw [hbytes, Except.bind, Manifest.targetOfBytes] at h
    split at h
    · cases h
    · exact (Manifest.target_eq_ok_iff.1 h).addressed

end ManifestSource

/-! ## Requests -/

/-- **A request deletes a target**: it asks for the path of the target with
options of which none are set, and of that path only what stands before the
first question mark or number sign is sent as a path. -/
structure Request.Deletes (r : Request) (t : Target) : Prop where
  asks : r.Asks .delete t.path (some (.object []))
  path : r.path = Address.kept t.path.toList

namespace Request

/-- As it is sent, the request is for the target. -/
def IsFor (r : Request) (t : Target) : Prop := r.segments = t.collection ++ [t.name]

/-- As it is sent, the request is for the collection of the target, with an
empty name. -/
def LacksName (r : Request) (t : Target) : Prop := ∃ rest, r.segments = t.collection ++ "" :: rest

/-- As it is sent, the request is for namespaces, with an empty one, though
the target lives in one. -/
def LacksSpace (r : Request) (t : Target) : Prop :=
  t.kind.IsPlaced ∧ ∃ rest, r.segments = Target.spaces ++ "" :: rest

variable {r : Request} {t : Target}

namespace Deletes

/-- **A request is for its target** just if the name and the namespace of the
target are plain. -/
theorem isFor_iff (h : r.Deletes t) (addressed : t.Addressed) : r.IsFor t ↔ t.IsPlain := by
  rw [IsFor, segments_eq_self_iff h.path, addressed.plain_collection_iff]
  exact ⟨fun h => ⟨h.2, h.1⟩, fun h => ⟨h.within, h.name⟩⟩

/-- **A request has an empty name** just if the name of its target leaves its
segment blank, and nothing in the namespace comes before that. -/
theorem lacksName_iff (h : r.Deletes t) (addressed : t.Addressed) :
    r.LacksName t ↔ (∀ ns, t.ns = some ns → Plain ns) ∧ LeavesBlank t.name := by
  rw [LacksName, exists_segments_eq_iff h.path addressed.named, addressed.plain_collection_iff]

/-- **A request has an empty namespace** just if the namespace of its target
leaves its segment blank. -/
theorem lacksSpace_iff (h : r.Deletes t) (addressed : t.Addressed) :
    r.LacksSpace t ↔ ∃ ns, t.ns = some ns ∧ LeavesBlank ns := by
  by_cases placed : t.kind.IsPlaced
  · obtain ⟨ns, plural, hns, hne, -, hcollection⟩ := addressed.exists_collection_eq placed
    have hspaces : ∀ s ∈ Target.spaces, Plain s := by decide
    have hpath := h.path
    rw [Target.path, hcollection, List.append_assoc] at hpath
    rw [LacksSpace, and_iff_right placed, exists_segments_eq_iff hpath hne, and_iff_right hspaces,
      hns]
    simp
  · refine iff_of_false (fun h => placed h.1) ?_
    rintro ⟨ns, hns, -⟩
    cases (addressed.everywhere placed).symm.trans hns

end Deletes

end Request

namespace Server

variable {s s' : Server} {t : Target} {r : Request}

/-- The request that deletes a target, if there is a way for it. -/
def deletion? (s : Server) (t : Target) : Option Request :=
  (route s.outage t.path).toOption.map fun target => ⟨.delete, target, some (.object [])⟩

theorem deletion?_congr (h : s'.outage = s.outage) : s'.deletion? = s.deletion? := by
  funext t
  rw [deletion?, h, deletion?]

theorem deletes_of_deletion? (h : s.deletion? t = some r) : r.Deletes t := by
  obtain ⟨target, htarget, rfl⟩ := Option.map_eq_some_iff.1 h
  cases hroute : route s.outage t.path with
  | error e =>
    rw [hroute] at htarget
    cases htarget
  | ok found =>
    rw [hroute] at htarget
    cases htarget
    have hpath := (route_eq_ok_iff.1 hroute).1
    exact ⟨⟨rfl, hpath, rfl⟩, Address.path_of_ofPath hpath⟩

end Server

namespace ManifestCleanup

variable {σ : Type} [Access σ] {source : ManifestSource} {file : String} {files : List String}

/-- Each call is for the target that a file names. -/
theorem exists_file_of_mem_calls {s : σ} {call : CleanupCall × Option ApiError}
    (h : call ∈ calls source files s) :
    ∃ file ∈ files, ∃ t, source file = .ok t ∧ call.1 = .remove t := by
  obtain ⟨ends, s', hends⟩ := exists_ends source files s
  have hmem := List.mem_map_of_mem (f := Prod.fst) h
  rw [hends.calls_eq, hends.asked, List.mem_map] at hmem
  obtain ⟨t, ht, heq⟩ := hmem
  obtain ⟨file, hfile, htarget⟩ := List.mem_filterMap.1 ht
  refine ⟨file, hfile, t, ?_, heq.symm⟩
  cases hsource : source file with
  | error failure =>
    rw [hsource] at htarget
    cases htarget
  | ok u =>
    rw [hsource] at htarget
    cases htarget
    rfl

variable {s s' : Server} {ended : FileEnd} {ends : List FileEnd}

/-- A deletion asks for the path of the target. -/
theorem deleteTarget_eq (t : Target) (s : Server) : Access.deleteTarget t s =
    s.askFor (OnServer.readDeleted t.kind) .delete t.path (some (.object [])) := by
  rw [← t.objectPath_eq]
  rfl

/-- **A deletion is seen once**, if there is a way for it. -/
theorem requests_deleteTarget {t : Target} {answer : Except ApiError Unit}
    (h : Access.deleteTarget t s = (answer, s')) :
    s'.requests = s.requests ++ (s.deletion? t).toList ∧ s'.outage = s.outage := by
  have hasked := Server.requests_askFor (OnServer.readDeleted t.kind) .delete t.path
    (some (.object [])) s
  rw [← deleteTarget_eq, h] at hasked
  exact hasked

/-- **A file** that names a target makes a server see the deletion of it. -/
theorem Ended.requests (h : Ended source file s ended s') :
    s'.requests = s.requests ++ ((source file).toOption.bind s.deletion?).toList ∧
      s'.outage = s.outage := by
  cases h with
  | unread unread =>
    rw [unread]
    exact ⟨(List.append_nil _).symm, rfl⟩
  | deleted names answer | gone names answer | failed names answer =>
    rw [names]
    exact requests_deleteTarget answer

/-- **The deletions that a server sees** are those of the targets that files
name, in their order, as far as there is a way for them. -/
theorem Ends.requests (h : Ends source files s ends s') : s'.requests = s.requests ++
    (files.filterMap fun file => (source file).toOption).filterMap s.deletion? := by
  induction h with
  | nil => exact (List.append_nil _).symm
  | @cons file files s mid s' ended ends first _ ih =>
    obtain ⟨hrequests, houtage⟩ := first.requests
    rw [ih, hrequests, Server.deletion?_congr houtage, List.filterMap_cons, List.append_assoc]
    cases (source file).toOption with
    | none => rfl
    | some t =>
      rw [List.filterMap_cons, Option.bind_some]
      cases s.deletion? t <;> rfl

/-- **Deletions, as they are asked for and as they are sent.** A manifest that
can be made sense of comes to what it names, or to its first fault, and what
is named is addressed. Whatever the files hold and whoever answers, each call
is for the target that a file names; and a server sees the deletions of these
targets, as far as they can be sent. Such a request is for its target just if
the name and the namespace of that are plain. It has an empty name or an
empty namespace just if what the target has there begins with what ends a
segment, or the path. This holds of all sources that load texts, those of
named texts and of folders among them. -/
theorem deletion_is_for_target_iff {σ : Type} [Access σ] :
    (∀ bytes m, Manifest.ofBytes? bytes = some m →
      (∀ t, Manifest.targetOfBytes bytes = .ok t ↔ m.Names t) ∧
      ∀ failure, Manifest.targetOfBytes bytes = .error failure ↔
        ∃ message, m.Faulty message ∧ failure = .plain message) ∧
    (∀ source : ManifestSource, source.Loads → ∀ file t, source file = .ok t → t.Addressed) ∧
    (∀ (source : ManifestSource) (files : List String) (s : σ),
      ∀ call ∈ calls source files s, ∃ file ∈ files, ∃ t,
        source file = .ok t ∧ call.1 = .remove t) ∧
    (∀ (source : ManifestSource) (files : List String) (server : Server),
      (run source files server).cluster.requests = server.requests ++
        (files.filterMap fun file => (source file).toOption).filterMap server.deletion?) ∧
    (∀ (server : Server) (t : Target) (request : Request), t.Addressed →
      server.deletion? t = some request → request.Deletes t ∧
        (request.IsFor t ↔ t.IsPlain) ∧
        (request.LacksName t ↔ (∀ ns, t.ns = some ns → Plain ns) ∧ LeavesBlank t.name) ∧
        (request.LacksSpace t ↔ ∃ ns, t.ns = some ns ∧ LeavesBlank ns)) ∧
    (∀ entries, (ManifestSource.ofEntries entries).Loads) ∧
    ∀ tree folder clusterName, (ManifestSource.ofFolder tree folder clusterName).Loads := by
  refine ⟨fun bytes m hm => ?_, fun source loads file t => loads.addressed,
    fun source files s call => exists_file_of_mem_calls, fun source files server => ?_,
    fun server t request addressed sent => ?_, ManifestSource.loads_ofEntries,
    ManifestSource.loads_ofFolder⟩
  · rw [Manifest.targetOfBytes_eq hm]
    exact ⟨fun t => Manifest.target_eq_ok_iff, fun failure => Manifest.target_eq_error_iff⟩
  · obtain ⟨ends, s', hends⟩ := exists_ends source files server
    rw [hends.run_eq]
    exact hends.requests
  · have deletes := Server.deletes_of_deletion? sent
    exact ⟨deletes, deletes.isFor_iff addressed, deletes.lacksName_iff addressed,
      deletes.lacksSpace_iff addressed⟩

/-! ## One file and a server that accepts -/

namespace OneFile

/-- A report that a deletion was accepted. -/
def accepted : String := "\x7b\"kind\": \"Status\", \"status\": \"Success\"\x7d"

/-- A server that accepts one deletion. -/
def server : Server := .ofReplies [.answer 200 accepted]

/-- The request as it is sent. -/
def deletion (target : String) : Request := ⟨.delete, target, some (.object [])⟩

theorem readDeleted_accepted (kind : TargetKind) :
    (Json.read? accepted).map (OnServer.readDeleted kind) = some (.ok ()) := by
  cases kind <;> decide +kernel

variable {t : Target}

theorem deletion?_eq (target : String) (written : Address.ofPath t.path = .ok target) :
    server.deletion? t = some (deletion target) := by
  rw [Server.deletion?, Server.route, written]
  rfl

/-- A file with a target whose path is an address: one request is sent, and
the target is told to be deleted. -/
theorem run_eq (target : String) (names : source file = .ok t)
    (written : Address.ofPath t.path = .ok target) : run source [file] server = ⟨.ok (),
      [⟨"ManagedCluster" ++ t.kind.name ++ "Deleted", "Deleted " ++ t.display, false⟩],
      { server with replies := [], requests := [deletion target] }⟩ := by
  have hask : server.ask .delete t.path (some (.object [])) =
      (.ok accepted, { server with replies := [], requests := [deletion target] }) := by
    rw [Server.ask, written]
    rfl
  have hdeleted : Access.deleteTarget t server =
      (.ok (), { server with replies := [], requests := [deletion target] }) := by
    rw [deleteTarget_eq, Server.askFor, hask]
    dsimp only
    rw [readDeleted_accepted]
  exact (Ends.cons (.deleted names hdeleted) (.nil _)).run_eq

end OneFile

namespace PlacedNamespace

/-- A manifest of a namespace that gives a namespace for it. -/
def text : String :=
  "\x7b\"apiVersion\": \"v1\", \"kind\": \"Namespace\", " ++
    "\"metadata\": \x7b\"name\": \"a\", \"namespace\": \"b\"\x7d\x7d"

/-- The manifest, under a name. -/
def named : ManifestSource := ManifestSource.ofEntries [("a.yaml", text.toUTF8)]

/-- The namespace. -/
def target : Target := ⟨.wholeNamespace, none, "a"⟩

theorem ofBytes?_text : Manifest.ofBytes? text.toUTF8 =
    some ⟨some "v1", some "Namespace", some "a", some "b"⟩ := by
  rw [Manifest.ofBytes?_toUTF8]
  decide +kernel

end PlacedNamespace

open PlacedNamespace in
/-- The namespace that is given for a namespace counts for nothing, what is
asked for is addressed, and what is sent is for it. -/
theorem deletion_is_for_target_iff_namespace :
    Manifest.targetOfBytes text.toUTF8 = .ok target ∧ target.Addressed ∧
      (∀ call ∈ calls named ["a.yaml"] OneFile.server, ∃ file ∈ ["a.yaml"], ∃ t,
        named file = .ok t ∧ call.1 = .remove t) ∧
      ∃ request, OneFile.server.deletion? target = some request ∧
        (run named ["a.yaml"] OneFile.server).cluster.requests = [request] ∧
        request.target = "/api/v1/namespaces/a" ∧ request.IsFor target := by
  obtain ⟨hmanifest, haddressed, hcalls, hrequests, hsent, hloads, -⟩ :=
    deletion_is_for_target_iff (σ := Server)
  have htarget := ((hmanifest _ _ ofBytes?_text).1 target).2
    (.everywhere ⟨_, _, rfl, rfl, .wholeNamespace⟩ (by decide) ⟨rfl, by decide⟩)
  have hsource : named "a.yaml" = .ok target := htarget
  have addressed := haddressed named (hloads _) "a.yaml" target hsource
  have hsend := OneFile.deletion?_eq (t := target) "/api/v1/namespaces/a" (by decide +kernel)
  refine ⟨htarget, addressed, hcalls named _ _, _, hsend, ?_, rfl,
    (hsent _ _ _ addressed hsend).2.1.2 ⟨by decide, nofun⟩⟩
  have hseen := hrequests named ["a.yaml"] OneFile.server
  rw [List.filterMap_cons, hsource] at hseen
  rw [hseen]
  dsimp only [Except.toOption, List.filterMap_nil]
  rw [List.filterMap_cons, hsend]
  rfl

namespace NumberSign

/-- A manifest of a role whose name is a number sign. -/
def text : String :=
  "\x7b\"apiVersion\": \"rbac.authorization.k8s.io/v1\", \"kind\": \"ClusterRole\", " ++
    "\"metadata\": \x7b\"name\": \"#\"\x7d\x7d"

/-- The manifest, under a name. -/
def named : ManifestSource := ManifestSource.ofEntries [("a.yaml", text.toUTF8)]

/-- The role. -/
def target : Target := ⟨.clusterRole, none, "#"⟩

theorem ofBytes?_text : Manifest.ofBytes? text.toUTF8 =
    some ⟨some "rbac.authorization.k8s.io/v1", some "ClusterRole", some "#", none⟩ := by
  rw [Manifest.ofBytes?_toUTF8]
  decide +kernel

theorem named_eq : named "a.yaml" = .ok target :=
  (Manifest.targetOfBytes_eq ofBytes?_text).trans <| Manifest.Names.target_eq <|
    .everywhere ⟨_, _, rfl, rfl, .clusterRole⟩ (by decide) ⟨rfl, by decide⟩

end NumberSign

open NumberSign in
/-- **A role whose name is a number sign** is addressed, and told to be
deleted by that name. The request that is sent is for all roles. -/
theorem number_sign_deletes_collection :
    named "a.yaml" = .ok target ∧ target.name ≠ "" ∧
      (run named ["a.yaml"] OneFile.server).result = .ok () ∧
      (run named ["a.yaml"] OneFile.server).events =
        [⟨"ManagedClusterClusterRoleDeleted", "Deleted ClusterRole #", false⟩] ∧
      ∃ request, (run named ["a.yaml"] OneFile.server).cluster.requests = [request] ∧
        request.method = .delete ∧
        request.target = "/apis/rbac.authorization.k8s.io/v1/clusterroles/" ∧
        request.LacksName target := by
  rw [OneFile.run_eq "/apis/rbac.authorization.k8s.io/v1/clusterroles/" named_eq
    (by decide +kernel)]
  refine ⟨named_eq, by decide, rfl, by decide, _, rfl, rfl, rfl, [], ?_⟩
  decide +kernel

end ManifestCleanup

end ClusterFleet
