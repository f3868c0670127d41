import ClusterFleet.Api.Store
import ClusterFleet.Json.Writer
import ClusterFleet.Proofs.Update.Reread

/-!
# API — what a status write keeps

The server replaces a status as a whole. An update over a server reads an
object, and all that it takes from its status is the conditions; these go
back, mutated, as the whole of the new status. So a field of the status
that is no condition is lost with the first write
(`put_keeps_status_iff`), whoever else has set it and whatever it says.
-/

namespace ClusterFleet

/-- A field of the status of an object. -/
def Json.statusField? (name : String) (v : Json) : Option Json :=
  (v.field? "status").bind (Json.field? name)

/-- Two objects have the same status, but for the conditions. -/
def Json.SameRest (v w : Json) : Prop :=
  ∀ name, name ≠ "conditions" → v.statusField? name = w.statusField? name

namespace Server

variable {s : Server} {method : Method} {path : String} {body : Option Json} {α : Type}

theorem authority_get (kind : Kind) (key : Key) (s : Server) :
    Authority.get kind key s = s.getResource kind key := rfl

theorem authority_list (kind : Kind) (s : Server) : Authority.list kind s = s.listResources kind :=
  rfl

theorem authority_updateStatus (kind : Kind) (object : Resource) (s : Server) :
    Authority.updateStatus kind object s = s.writeStatus kind object := rfl

/-! ## What is sent, and what comes back -/

/-- No more than this request is sent. -/
def Sends (method : Method) (path : String) (body : Option Json) (s s' : Server) : Prop :=
  s'.requests = s.requests ∨ ∃ target, Address.ofPath path = .ok target ∧
    s'.requests = s.requests ++ [⟨method, target, body⟩]

/-- This request is sent, and a good answer comes with this text. -/
def Answered (method : Method) (path : String) (body : Option Json) (text : String)
    (s s' : Server) : Prop :=
  ∃ target status, Address.ofPath path = .ok target ∧
    s.replies = .answer status text :: s'.replies ∧ isErrorStatus status = false ∧
    s'.requests = s.requests ++ [⟨method, target, body⟩]

theorem exchange_sends {target : String} (htarget : Address.ofPath path = .ok target)
    (method : Method) (body : Option Json) (s : Server) :
    Sends method path body s (s.exchange ⟨method, target, body⟩).2 := by
  unfold exchange
  split
  · exact .inl rfl
  · dsimp only
    split <;> exact .inr ⟨target, htarget, rfl⟩

theorem exchange_ok {r : Request} {status : Nat} {text : String} {s' : Server}
    (h : s.exchange r = (.ok (status, text), s')) :
    s.replies = .answer status text :: s'.replies ∧ s'.requests = s.requests ++ [r] := by
  unfold exchange at h
  split at h
  · cases h
  · dsimp only at h
    split at h
    · cases h
    · cases h
    · rename_i hreplies
      cases h
      exact ⟨hreplies, rfl⟩

theorem ask_sends (method : Method) (path : String) (body : Option Json) (s : Server) :
    Sends method path body s (s.ask method path body).2 := by
  unfold ask
  split
  · exact .inl rfl
  rename_i target htarget
  have sends := exchange_sends htarget method body s
  split
  · rename_i heq
    rwa [heq] at sends
  · rename_i heq
    rw [heq] at sends
    split <;> exact sends

theorem ask_ok {text : String} {s' : Server} (h : s.ask method path body = (.ok text, s')) :
    Answered method path body text s s' := by
  unfold ask at h
  split at h
  · cases h
  rename_i target htarget
  split at h
  · cases h
  rename_i status answer server heq
  obtain ⟨hreplies, hrequests⟩ := exchange_ok heq
  split at h
  · cases h
  · rename_i herror
    cases h
    exact ⟨target, status, htarget, hreplies, Bool.not_eq_true _ ▸ herror, hrequests⟩

theorem askFor_sends (read : Json → Except Form.Fault α) (method : Method) (path : String)
    (body : Option Json) (s : Server) :
    Sends method path body s (s.askFor read method path body).2 := by
  have sends := ask_sends method path body s
  unfold askFor
  split
  · rename_i heq
    rwa [heq] at sends
  · rename_i heq
    rw [heq] at sends
    split <;> exact sends

theorem askFor_ok {read : Json → Except Form.Fault α} {a : α} {s' : Server}
    (h : s.askFor read method path body = (.ok a, s')) :
    ∃ text got, Answered method path body text s s' ∧ Json.read? text = some got ∧
      read got = .ok a := by
  unfold askFor at h
  split at h
  · cases h
  rename_i text server heq
  split at h
  · rename_i b hread
    cases h
    obtain ⟨got, hgot, hb⟩ := Option.map_eq_some_iff.1 hread
    exact ⟨text, got, ask_ok heq, hgot, hb⟩
  · cases h

theorem document?_found {c : Collection} {ns : Option String} {name : String} {d : Document}
    {s' : Server} (h : s.document? c ns name = (.ok (some d), s')) :
    s.askFor Document.read .get (c.objectPath ns name) none = (.ok d, s') := by
  unfold document? at h
  split at h
  · rename_i heq
    rw [heq]
    cases h
    rfl
  · split at h <;> cases h
  · cases h

/-- A read that finds an object decodes it from the text of the answer, by
way of a document. -/
theorem getResource_found {kind : Kind} {key : Key} {object : Resource}
    (h : (s.getResource kind key).1 = .ok (some object)) :
    ∃ text got d, Answered .get (kind.collection.objectPath key.ns key.name) none text s
        (s.getResource kind key).2 ∧
      Json.read? text = some got ∧ Document.read got = .ok d ∧ d.resource kind = .ok object := by
  unfold getResource at h ⊢
  split at h
  · cases h
  · rename_i d server heq
    obtain ⟨text, got, answered, hgot, hd⟩ := askFor_ok (document?_found heq)
    dsimp only at h
    refine ⟨text, got, d, answered, hgot, hd, ?_⟩
    cases hresource : d.resource kind with
    | error e =>
      rw [hresource] at h
      cases h
    | ok found =>
      rw [hresource] at h
      cases h
      rfl
  · cases h

theorem document?_sends (c : Collection) (ns : Option String) (name : String) (s : Server) :
    Sends .get (c.objectPath ns name) none s (s.document? c ns name).2 := by
  have sends := askFor_sends Document.read .get (c.objectPath ns name) none s
  unfold document?
  split
  · rename_i heq
    rwa [heq] at sends
  · rename_i heq
    rw [heq] at sends
    split <;> exact sends
  · rename_i heq
    rwa [heq] at sends

theorem getResource_sends (kind : Kind) (key : Key) (s : Server) :
    Sends .get (kind.collection.objectPath key.ns key.name) none s (s.getResource kind key).2 := by
  have sends := document?_sends kind.collection key.ns key.name s
  unfold getResource
  split <;>
    (rename_i heq
     rwa [heq] at sends)

theorem listResources_sends (kind : Kind) (s : Server) :
    Sends .get (kind.collection.path none) none s (s.listResources kind).2 := by
  have sends := askFor_sends (Page.read Document.read) .get (kind.collection.path none) none s
  unfold listResources
  split <;>
    (rename_i heq
     rwa [heq] at sends)

/-- A status write sends the whole object. -/
theorem writeStatus_sends (kind : Kind) (object : Resource) (s : Server) :
    Sends .put (kind.collection.statusPath object.key.ns object.key.name)
      (some (requestBody kind object)) s (s.writeStatus kind object).2 := by
  have sends := askFor_sends Document.read .put
    (kind.collection.statusPath object.key.ns object.key.name) (some (requestBody kind object)) s
  unfold writeStatus
  dsimp only
  split <;>
    (rename_i heq
     rwa [heq] at sends)

/-- A status write after which there are more requests has sent one. -/
theorem put_of_more {kind : Kind} {object : Resource}
    (more : s.requests.length < (Authority.updateStatus kind object s).2.requests.length) :
    ∃ request : Request,
      (Authority.updateStatus kind object s).2.requests = s.requests ++ [request] ∧
      request.method = .put ∧ request.body = some (requestBody kind object) := by
  rw [authority_updateStatus] at more ⊢
  obtain hsame | ⟨target, -, hrequests⟩ := writeStatus_sends kind object s
  · rw [hsame] at more
    exact absurd more (Nat.lt_irrefl _)
  · exact ⟨_, hrequests, rfl, rfl⟩

/-- What is sent with a status write has nothing in its status but the
conditions. -/
theorem statusField?_requestBody {name : String} (hname : name ≠ "conditions") (kind : Kind)
    (object : Resource) : (requestBody kind object).statusField? name = none := by
  -- the type that is added stands beside the status
  have hstatus : (requestBody kind object).field? "status" =
      some (Resource.writeStatus object.conditions) := by
    unfold requestBody Resource.write
    rw [Json.field?, Fields.get?_insert_of_ne (by decide), Fields.get?_insert_of_ne (by decide)]
    rfl
  rw [Json.statusField?, hstatus]
  exact if_neg hname.symm

/-- A status write keeps the rest of a status exactly if there is no
rest. -/
theorem sameRest_requestBody_iff {kind : Kind} {object : Resource} {got : Json} :
    (requestBody kind object).SameRest got ↔
      ∀ name, name ≠ "conditions" → got.statusField? name = none := by
  refine forall₂_congr fun name hname => ?_
  rw [statusField?_requestBody hname]
  exact eq_comm

end Server

/-! ## An update over a server -/

section Update

variable {c : Call} {a : c.Answer} {h h' k k' : Hub Server} {request : Request}

/-- The one call that puts anything is the status write. -/
theorem Hub.Answers.put (answers : h.Answers c a h')
    (sent : h'.store.requests = h.store.requests ++ [request]) (put : request.method = .put) :
    ∃ kind object, c = .updateStatus kind object ∧
      Address.ofPath (kind.collection.statusPath object.key.ns object.key.name) =
        .ok request.target ∧
      request.body = some (Server.requestBody kind object) := by
  -- a call sends one request at most, so that request is the one that was sent
  have hsends {method : Method} {path : String} {body : Option Json}
      (sends : Server.Sends method path body h.store h'.store) :
      Address.ofPath path = .ok request.target ∧ request.method = method ∧
        request.body = body := by
    obtain hsame | ⟨target, htarget, hmore⟩ := sends
    · simp [hsame] at sent
    · rw [hmore] at sent
      obtain rfl := List.singleton_inj.1 (List.append_cancel_left sent)
      exact ⟨htarget, rfl, rfl⟩
  have reaches := answers.reaches
  generalize h.store = s, h'.store = s' at reaches sent hsends
  cases reaches with
  | get kind key =>
    rw [Server.authority_get] at hsends
    rw [(hsends (Server.getResource_sends kind key s)).2.1] at put
    cases put
  | list kind =>
    rw [Server.authority_list] at hsends
    rw [(hsends (Server.listResources_sends kind s)).2.1] at put
    cases put
  | updateStatus kind object =>
    rw [Server.authority_updateStatus] at hsends
    obtain ⟨htarget, -, hbody⟩ := hsends (Server.writeStatus_sends kind object s)
    exact ⟨kind, object, rfl, htarget, hbody⟩
  | aside => simp at sent

variable {others : Server → Server → Prop} {job : UpdateJob} {p p' : StatusUpdate.Update}
variable {turns : List (AmidTurn Server)} {s s' : Server}

/-- A read that found an object got an answer that it was decoded from. -/
theorem AmidStep.answered {kind : Kind} {key : Key} {object : Resource}
    (step : AmidStep others p h (.asked (.found kind key object) s s') p' h') :
    ∃ text got document,
      Server.Answered .get (kind.collection.objectPath key.ns key.name) none text s s' ∧
      Json.read? text = some got ∧ Document.read got = .ok document ∧
      document.resource kind = .ok object := by
  unfold Exchange.found at step
  cases step with
  | asked answers =>
    obtain ⟨hfound, hafter⟩ := answers.eq (fun _ => nofun) nofun
    rw [hafter]
    simp only [Hub.answer, Server.authority_get] at hfound ⊢
    exact Server.getResource_found hfound.symm

/-- **A status write keeps the rest of a status exactly if there is
none.** Whatever an update over a server puts, it puts after a read, and
nothing of the status that was read goes back but the conditions, as the
mutations made them. Others may do to the server what they like between
the steps of the update. -/
theorem put_keeps_status_iff {x : Exchange}
    (run : AmidRun others (StatusUpdate.ofJob job) h turns p k)
    (step : AmidStep others p k (.asked x s s') p' k')
    (sent : s'.requests = s.requests ++ [request]) (put : request.method = .put) :
    ∃ start rest s₀ s₀' text got document read conditions body,
      turns = start ++ .asked (.found job.kind job.key read) s₀ s₀' :: rest ∧
      exchanges rest = [] ∧
      Server.Answered .get (job.kind.collection.objectPath job.key.ns job.key.name) none
        text s₀ s₀' ∧
      Json.read? text = some got ∧ Document.read got = .ok document ∧
      document.resource job.kind = .ok read ∧
      Mutation.applyAll job.mutations read.conditions = .ok conditions ∧
      Address.ofPath (job.kind.collection.statusPath read.key.ns read.key.name) =
        .ok request.target ∧
      body = Server.requestBody job.kind { read with conditions := conditions } ∧
      request.body = some body ∧
      (body.SameRest got ↔ ∀ name, name ≠ "conditions" → got.statusField? name = none) := by
  have safe := run.safe (StatusUpdate.rereads_ofJob job [])
  have allowed := step.allowed safe
  cases step with
  | asked answers =>
    obtain ⟨kind, object, rfl, htarget, hbody⟩ := answers.put sent put
    obtain ⟨rfl, between, read, conditions, htrace, happly, rfl⟩ := allowed kind object rfl
    rw [List.nil_append] at htrace
    -- the run is cut at the read that the write goes back to
    obtain ⟨start, rest, s₀, s₀', rfl, -, hrest⟩ := exchanges_split htrace
    obtain ⟨p₁, h₁, p₂, h₂, -, reread, -⟩ := run.split
    obtain ⟨text, got, document, answered, hgot, hdocument, hread⟩ := reread.answered
    exact ⟨start, rest, s₀, s₀', text, got, document, read, conditions, _, rfl, hrest, answered,
      hgot, hdocument, hread, happly, htarget, rfl, hbody, Server.sameRest_requestBody_iff⟩

end Update

/-! ## One read and one write -/

namespace StatusPut

/-- A set as the server has it. Its status has no conditions yet, and these
other fields. -/
def json (fields : List (String × Json)) : Json :=
  .object [("metadata", .object [("name", .string "a")]),
    ("status", .object (("conditions", .array []) :: fields))]

/-- The set as the hub knows it, with these conditions. -/
def set (conditions : List Condition) : Resource := ⟨⟨"a", none, none, none, [], none⟩, conditions⟩

/-- The condition to set. -/
def empty : Condition := ⟨"Empty", .holds, "NoClusters", "", Instant.epoch⟩

/-- The update of the set. -/
def job : UpdateJob := ⟨.set, Key.cluster "a", [Mutation.set empty], .standard, none⟩

/-- What the server answers. -/
def text (fields : List (String × Json)) : String := (json fields).compact

/-- A server that answers one request, with the set. -/
def server (fields : List (String × Json)) : Server := .ofReplies [.answer 200 (text fields)]

/-- What a status may have besides conditions. -/
def foreign : List (String × Json) := [("observedGeneration", .ofNat 3)]

/-- The read of the set. -/
def turn (s : Server) : AmidTurn Server :=
  .asked (.found .set job.key (set [])) s (Authority.get .set job.key s).2

/-- The server answers a read with the set, and gets another request. -/
def goesOn (s : Server) : Bool :=
  let asked := (Authority.get .set job.key s).2
  (Authority.get .set job.key s).1.toOption = some (some (set [])) &&
    asked.requests.length < (Authority.updateStatus .set (set [empty]) asked).2.requests.length

/-- The update reads the set and puts it. -/
theorem run {s : Server} (h : goesOn s = true) : ∃ p k x p' k' request,
    AmidRun (fun _ _ => False) (StatusUpdate.ofJob job) (Hub.start s 1 Instant.epoch) [turn s]
        p k ∧
      AmidStep (fun _ _ => False) p k (.asked x k.store k'.store) p' k' ∧
      k'.store.requests = k.store.requests ++ [request] ∧ request.method = .put ∧
      request.body = some (Server.requestBody .set (set [empty])) := by
  simp only [goesOn, Bool.and_eq_true, decide_eq_true_eq] at h
  obtain ⟨hread, hmore⟩ := h
  have hfound : (Authority.get .set job.key s).1 = .ok (some (set [])) := by
    cases hget : (Authority.get .set job.key s).1 with
    | error e => simp [hget, Except.toOption] at hread
    | ok found => simpa [hget, Except.toOption] using hread
  obtain ⟨next, run⟩ : ∃ next, AmidRun (fun _ _ => False) (StatusUpdate.ofJob job)
      (Hub.start s 1 Instant.epoch) [turn s]
      (.call (.updateStatus .set (set [empty])) next)
      { Hub.start s 1 Instant.epoch with store := (Authority.get .set job.key s).2 } :=
    StatusUpdate.amidRun_found hfound rfl nofun
  obtain ⟨request, hrequests, hput, hbody⟩ := Server.put_of_more hmore
  refine ⟨_, _, _, _, _, request, run, .asked (.updateStatus .set (set [empty]) _), ?_, hput, hbody⟩
  dsimp only
  exact hrequests

/-- The status of the object has no field but the conditions. -/
def plain (v : Json) : Bool :=
  match v.field? "status" with
  | some (.object fields) => fields.map Prod.fst = ["conditions"]
  | _ => false

theorem statusField?_of_plain {v : Json} (h : plain v = true) {name : String}
    (hname : name ≠ "conditions") : v.statusField? name = none := by
  unfold plain at h
  split at h
  · rename_i fields hstatus
    obtain ⟨⟨field, value⟩, rest, rfl, hfield, hrest⟩ :=
      List.map_eq_cons_iff.1 (of_decide_eq_true h)
    obtain rfl := List.map_eq_nil_iff.1 hrest
    rw [Json.statusField?, hstatus]
    exact if_neg fun heq => hname (heq.symm.trans hfield)
  · cases h

end StatusPut

/-- A status that is nothing but conditions is kept. -/
theorem put_keeps_bare_status : ∃ p k x p' k' request got body,
    AmidRun (fun _ _ => False) (StatusUpdate.ofJob StatusPut.job)
        (Hub.start (StatusPut.server []) 1 Instant.epoch)
        [StatusPut.turn (StatusPut.server [])] p k ∧
      AmidStep (fun _ _ => False) p k (.asked x k.store k'.store) p' k' ∧
      k'.store.requests = k.store.requests ++ [request] ∧ request.method = .put ∧
      Json.read? (StatusPut.text []) = some got ∧ request.body = some body ∧
      body.SameRest got := by
  have hgoes : StatusPut.goesOn (StatusPut.server []) = true := by decide +kernel
  have hplain : (Json.read? (StatusPut.text [])).all StatusPut.plain = true := by decide +kernel
  obtain ⟨p, k, x, p', k', request, run, step, sent, put, -⟩ := StatusPut.run hgoes
  obtain ⟨start, rest, s₀, s₀', text, got, document, read, conditions, body, hturns, -,
    ⟨target, status, -, hreplies, -⟩, hgot, -, -, -, -, -, hbody, hkeeps⟩ :=
    put_keeps_status_iff run step sent put
  -- the one turn of the run is the read, and the one reply its answer
  obtain ⟨-, hturn⟩ | ⟨-, hturn⟩ := List.singleton_eq_append_iff.1 hturns
  · obtain ⟨rfl, -⟩ := hturn
    obtain rfl : StatusPut.text [] = text := (Reply.answer.inj (List.cons.inj hreplies).1).2
    rw [hgot] at hplain
    exact ⟨p, k, x, p', k', request, got, body, run, step, sent, put, hgot, hbody,
      hkeeps.2 fun name hname => StatusPut.statusField?_of_plain hplain hname⟩
  · cases hturn

/-- **A foreign field of a status is lost.** The server has a generation in
the status of the set, and the status that the update puts has none. -/
theorem foreign_status_is_lost : ∃ p k x p' k' request got body,
    AmidRun (fun _ _ => False) (StatusUpdate.ofJob StatusPut.job)
        (Hub.start (StatusPut.server StatusPut.foreign) 1 Instant.epoch)
        [StatusPut.turn (StatusPut.server StatusPut.foreign)] p k ∧
      AmidStep (fun _ _ => False) p k (.asked x k.store k'.store) p' k' ∧
      k'.store.requests = k.store.requests ++ [request] ∧ request.method = .put ∧
      Json.read? (StatusPut.text StatusPut.foreign) = some got ∧ request.body = some body ∧
      ¬body.SameRest got := by
  have hgoes : StatusPut.goesOn (StatusPut.server StatusPut.foreign) = true := by decide +kernel
  have hforeign : (Json.read? (StatusPut.text StatusPut.foreign)).any
      (fun v => (v.statusField? "observedGeneration").isSome) = true := by decide +kernel
  obtain ⟨p, k, x, p', k', request, run, step, sent, put, hbody⟩ := StatusPut.run hgoes
  obtain ⟨got, hgot, hsome⟩ := (Option.any_eq_true _ _).1 hforeign
  refine ⟨p, k, x, p', k', request, got, _, run, step, sent, put, hgot, hbody, fun same => ?_⟩
  rw [← same "observedGeneration" (by decide), Server.statusField?_requestBody (by decide)] at hsome
  cases hsome

end ClusterFleet
