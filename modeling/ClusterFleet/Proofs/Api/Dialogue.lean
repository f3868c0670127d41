import ClusterFleet.Proofs.Api.Carried
import ClusterFleet.Proofs.Api.StatusPut

/-!
# API — the dialogue of an update with a server

Whatever the server replies, an update reads and writes in turn
(`update_keeps_the_protocol`). Each write carries the version that the read
just before it found, so that the server can refuse it if somebody else was
faster, and the conditions that the mutations make of those found. Only a
write that was refused as too late is followed by another read, and only as
often as the policy allows. Everything else ends the update.

The server is the list of its replies, and a reply says the same whichever
request it answers (`Reply.parse`); so a request with its reply (`Trip`) is
all there is to know of what went to and fro.
-/

namespace ClusterFleet

/-- A request, and what became of it. -/
structure Trip where
  request : Request
  reply : Reply

/-- What a request asks: its method, the path that its target was made of,
and what it carries. -/
def Request.Asks (r : Request) (method : Method) (path : String) (body : Option Json) : Prop :=
  r.method = method ∧ Address.ofPath path = .ok r.target ∧ r.body = body

/-! ## What a reply says -/

/-- Of all errors only a refusal with that number is a conflict. -/
theorem ApiError.isConflict_toStoreError_iff {kind : Kind} {key : Key} {e : ApiError} :
    (e.toStoreError kind key).isConflict = true ↔ ∃ r, e = .refused r ∧ r.code = 409 := by
  cases e with
  | refused r =>
    rw [toStoreError]
    constructor
    · intro h
      refine ⟨r, rfl, Decidable.byContradiction fun hcode => ?_⟩
      rw [if_neg hcode] at h
      split at h
      · cases h
      · split at h <;> cases h
    · rintro ⟨_, heq, hcode⟩
      cases heq
      rw [if_neg (by omega), if_pos hcode]
      rfl
  | _ => exact ⟨nofun, nofun⟩

namespace Reply

variable {α : Type} {kind : Kind} {key : Key} {reply : Reply} {r : Resource}

/-- The text of a good answer. -/
def text : Reply → Except ApiError String
  | answer status body =>
    if Server.isErrorStatus status then .error (.refused (Server.refusalOf status body))
    else .ok body
  | broken message => .error (.unreachable message [])

/-- What a reply says in a given form. -/
def parse (read : Json → Except Form.Fault α) (reply : Reply) : Except ApiError α :=
  match reply.text with
  | .error e => .error e
  | .ok text =>
    match (Json.read? text).map read with
    | some (.ok a) => .ok a
    | _ => .error .undecodable

/-- The object in a reply, or what it means for an operation on the key that
there is none. -/
def object (kind : Kind) (key : Key) (reply : Reply) : Except StoreError Resource :=
  match reply.parse Document.read with
  | .ok d => d.resource kind
  | .error e => .error (e.toStoreError kind key)

/-- The number of the refusal that a reply is, if it is one. -/
def code? (reply : Reply) : Option Nat :=
  match reply.text with
  | .error (.refused r) => some r.code
  | _ => none

/-- Whether a request was refused for the reason that there is no such
object. -/
def isAbsent (reply : Reply) : Bool :=
  match reply.text with
  | .error (.refused r) => r.reason = Server.absentReason
  | _ => false

/-- A reply holds an object: it is a good answer whose text can be decoded. -/
def Holds (kind : Kind) (r : Resource) (reply : Reply) : Prop :=
  ∃ text got d, reply.text = .ok text ∧ Json.read? text = some got ∧
    Document.read got = .ok d ∧ d.resource kind = .ok r

theorem object_ok_iff : reply.object kind key = .ok r ↔ reply.Holds kind r := by
  constructor
  · intro h
    unfold object at h
    split at h
    · rename_i d hd
      unfold parse at hd
      split at hd
      · cases hd
      · rename_i text htext
        split at hd
        · rename_i d' hread
          cases hd
          obtain ⟨got, hgot, hd⟩ := Option.map_eq_some_iff.1 hread
          exact ⟨text, got, d, htext, hgot, hd, h⟩
        · cases hd
    · cases h
  · rintro ⟨text, got, d, htext, hgot, hd, hr⟩
    rw [object, parse, htext]
    simp only [hgot, Option.map_some, hd]
    exact hr

theorem object_of_text_error {e : ApiError} (h : reply.text = .error e) :
    reply.object kind key = .error (e.toStoreError kind key) := by
  rw [object, parse, h]

/-- An answer that cannot be decoded is no conflict. -/
theorem not_isConflict_of_text {text : String} (h : reply.text = .ok text) {e : StoreError}
    (he : reply.object kind key = .error e) : e.isConflict = false := by
  rw [object, parse, h] at he
  split at he
  · unfold Document.resource at he
    split at he
    · cases he
    · cases he
      rfl
  · rename_i fault hfault
    dsimp only at hfault
    split at hfault
    · cases hfault
    · cases hfault
      cases he
      rfl

/-- **A write is lost exactly if it was refused with the number of a
conflict.** -/
theorem isConflict_iff :
    (∃ e, reply.object kind key = .error e ∧ e.isConflict = true) ↔ reply.code? = some 409 := by
  cases htext : reply.text with
  | error e =>
    rw [object_of_text_error htext, code?, htext]
    constructor
    · rintro ⟨_, heq, hconflict⟩
      cases heq
      obtain ⟨refused, rfl, hcode⟩ := ApiError.isConflict_toStoreError_iff.1 hconflict
      exact congrArg some hcode
    · intro hcode
      refine ⟨_, rfl, ?_⟩
      cases e with
      | refused r => exact ApiError.isConflict_toStoreError_iff.2 ⟨r, rfl, Option.some.inj hcode⟩
      | _ => cases hcode
  | ok text =>
    rw [code?, htext]
    constructor
    · rintro ⟨e, he, hconflict⟩
      rw [not_isConflict_of_text htext he] at hconflict
      cases hconflict
    · exact nofun

/-- A read that was refused with the number for it found nothing. -/
theorem object_of_code? (h : reply.code? = some 404) :
    reply.object kind key = .error (.notFound kind key) := by
  unfold code? at h
  split at h
  · rename_i refused htext
    rw [object_of_text_error htext, ApiError.toStoreError, if_pos (Option.some.inj h)]
  · cases h

end Reply

/-! ## One request -/

namespace Server

variable {s s' s'' : Server} {α : Type} {trips trips' : List Trip}

/-- The replies to the next requests. When there are none left, the way to
the server is broken. -/
def upcoming : Nat → List Reply → List Reply
  | 0, _ => []
  | n + 1, replies => replies.headD (.broken noReply) :: upcoming n replies.tail

theorem upcoming_add (m n : Nat) (replies : List Reply) :
    upcoming (m + n) replies = upcoming m replies ++ upcoming n (replies.drop m) := by
  induction m generalizing replies with
  | zero => rw [Nat.zero_add, List.drop_zero, upcoming, List.nil_append]
  | succ m ih =>
    rw [Nat.succ_add, upcoming, upcoming, ih, List.cons_append, List.drop_tail]

/-- **What went to and fro** between two states of a server. -/
structure Trips (s : Server) (trips : List Trip) (s' : Server) : Prop where
  requests : s'.requests = s.requests ++ trips.map Trip.request
  replies : trips.map Trip.reply = upcoming trips.length s.replies
  left : s'.replies = s.replies.drop trips.length
  outage : s'.outage = s.outage

theorem Trips.nil (s : Server) : s.Trips [] s :=
  ⟨(List.append_nil _).symm, rfl, rfl, rfl⟩

theorem Trips.trans (first : s.Trips trips s') (later : s'.Trips trips' s'') :
    s.Trips (trips ++ trips') s'' := by
  refine ⟨?_, ?_, ?_, later.outage.trans first.outage⟩
  · rw [later.requests, first.requests, List.map_append, List.append_assoc]
  · rw [List.map_append, first.replies, later.replies, first.left, List.length_append,
      upcoming_add]
  · rw [later.left, first.left, List.drop_drop, List.length_append]

/-- Where a request for a path goes, or why it cannot be sent. -/
def route (outage : Option (String × List String)) (path : String) : Except ApiError String :=
  match Address.ofPath path with
  | .error reason => .error (.unwritable reason)
  | .ok target =>
    match outage with
    | some (message, causes) => .error (.unreachable message causes)
    | none => .ok target

theorem route_ne_refused {outage : Option (String × List String)} {path : String} {r : Refused} :
    route outage path ≠ .error (.refused r) := by
  unfold route
  split
  · exact nofun
  · split <;> exact nofun

/-- There is a way for a request if its path is an address and the server is
within reach. -/
theorem route_eq_ok_iff {outage : Option (String × List String)} {path target : String} :
    route outage path = .ok target ↔ Address.ofPath path = .ok target ∧ outage = none := by
  rw [route]
  cases Address.ofPath path with
  | error reason => exact ⟨nofun, nofun⟩
  | ok found =>
    cases outage with
    | some way => exact ⟨nofun, nofun⟩
    | none =>
      dsimp only
      rw [and_iff_left rfl, Except.ok.injEq, Except.ok.injEq]

/-- A request for which there is no way is not sent. -/
theorem askFor_of_lost (read : Json → Except Form.Fault α) {method : Method} {path : String}
    {body : Option Json} {e : ApiError} (lost : route s.outage path = .error e) :
    s.askFor read method path body = (.error e, s) := by
  unfold route at lost
  split at lost
  · rename_i hpath
    cases lost
    rw [askFor, ask, hpath]
  · rename_i hpath
    split at lost
    · rename_i houtage
      cases lost
      rw [askFor, ask, hpath]
      simp only [exchange, houtage]
    · cases lost

/-- A request that is sent comes back with the next reply. -/
theorem askFor_eq (read : Json → Except Form.Fault α) {method : Method} {path target : String}
    {body : Option Json} (way : route s.outage path = .ok target) :
    s.askFor read method path body =
      ((s.replies.headD (.broken noReply)).parse read,
        { s with
          replies := s.replies.tail
          requests := s.requests ++ [⟨method, target, body⟩] }) := by
  obtain ⟨hpath, houtage⟩ := route_eq_ok_iff.1 way
  -- the request is on its way before the reply is looked at, so it is recorded in any case
  have hask : s.ask method path body =
      ((s.replies.headD (.broken noReply)).text,
        { s with
          replies := s.replies.tail
          requests := s.requests ++ [⟨method, target, body⟩] }) := by
    rw [ask, hpath]
    simp only [exchange, houtage]
    cases s.replies with
    | nil => rfl
    | cons reply later =>
      cases reply with
      | broken message => rfl
      | answer status text =>
        rw [List.headD_cons, Reply.text]
        dsimp only
        split <;> rfl
  rw [askFor, hask, Reply.parse]
  cases (s.replies.headD (.broken noReply)).text with
  | error e => rfl
  | ok text =>
    dsimp only
    rcases (Json.read? text).map read with _ | _ | a <;> rfl

/-- **A request** is not sent, for want of a way, or it goes there and comes
back with the next reply. -/
theorem askFor_cases (read : Json → Except Form.Fault α) (method : Method) (path : String)
    (body : Option Json) (s : Server) :
    (∃ e, route s.outage path = .error e ∧ s.askFor read method path body = (.error e, s)) ∨
      ∃ trip : Trip, trip.request.Asks method path body ∧
        s.Trips [trip] (s.askFor read method path body).2 ∧
        (s.askFor read method path body).1 = trip.reply.parse read := by
  cases hroute : route s.outage path with
  | error e => exact .inl ⟨e, rfl, askFor_of_lost read hroute⟩
  | ok target =>
    rw [askFor_eq read hroute]
    exact .inr ⟨⟨⟨method, target, body⟩, s.replies.headD (.broken noReply)⟩,
      ⟨rfl, (route_eq_ok_iff.1 hroute).1, rfl⟩, ⟨rfl, rfl, List.drop_one.symm, rfl⟩, rfl⟩

/-- **A request** is seen once if there is a way for it, and not at all
otherwise. -/
theorem requests_askFor (read : Json → Except Form.Fault α) (method : Method) (path : String)
    (body : Option Json) (s : Server) :
    (s.askFor read method path body).2.requests = s.requests ++
        ((route s.outage path).toOption.map fun target => ⟨method, target, body⟩).toList ∧
      (s.askFor read method path body).2.outage = s.outage := by
  cases hroute : route s.outage path with
  | error e =>
    rw [askFor_of_lost read hroute]
    exact ⟨(List.append_nil _).symm, rfl⟩
  | ok target =>
    rw [askFor_eq read hroute]
    exact ⟨rfl, rfl⟩

variable {kind : Kind} {key : Key}

/-- What a read finds is what the reply says; only a refusal can say that
there is nothing. -/
theorem getResource_of_askFor {reply : Reply}
    (h : s.askFor Document.read .get (kind.collection.objectPath key.ns key.name) none =
      (reply.parse Document.read, s')) :
    s.getResource kind key =
      (if reply.isAbsent then .ok none else (reply.object kind key).map some, s') := by
  rw [getResource, document?, h, Reply.object, Reply.isAbsent, Reply.parse]
  cases reply.text with
  | error e =>
    cases e with
    | refused r =>
      by_cases hreason : r.reason = absentReason
      · simp only [hreason, if_true, decide_true]
      · simp only [hreason, if_false, decide_false, Bool.false_eq_true, Except.map]
    | _ => rfl
  | ok text =>
    dsimp only
    rcases (Json.read? text).map Document.read with _ | _ | d <;> rfl

/-- **A read** is not sent, or finds what the reply says. -/
theorem getResource_cases (kind : Kind) (key : Key) (s : Server) :
    (∃ e, route s.outage (kind.collection.objectPath key.ns key.name) = .error e ∧
      s.getResource kind key = (.error (e.toStoreError kind key), s)) ∨
      ∃ trip : Trip,
        trip.request.Asks .get (kind.collection.objectPath key.ns key.name) none ∧
        s.Trips [trip] (s.getResource kind key).2 ∧
        (s.getResource kind key).1 =
          if trip.reply.isAbsent then .ok none else (trip.reply.object kind key).map some := by
  obtain ⟨e, hroute, heq⟩ | ⟨trip, asks, trips, hreply⟩ :=
    askFor_cases Document.read .get (kind.collection.objectPath key.ns key.name) none s
  · refine .inl ⟨e, hroute, ?_⟩
    cases e with
    | refused r => exact absurd hroute route_ne_refused
    | _ => rw [getResource, document?, heq]
  · rw [getResource_of_askFor (Prod.ext hreply rfl)]
    exact .inr ⟨trip, asks, trips, rfl⟩

/-- **A write** is not sent, or ends as the reply says. -/
theorem writeStatus_cases (kind : Kind) (r : Resource) (s : Server) :
    (∃ e, route s.outage (kind.collection.statusPath r.key.ns r.key.name) = .error e ∧
      s.writeStatus kind r = (.error (e.toStoreError kind r.key), s)) ∨
      ∃ trip : Trip,
        trip.request.Asks .put (kind.collection.statusPath r.key.ns r.key.name)
          (some (requestBody kind r)) ∧
        s.Trips [trip] (s.writeStatus kind r).2 ∧
        (s.writeStatus kind r).1 = trip.reply.object kind r.key := by
  obtain ⟨e, hroute, heq⟩ | ⟨trip, asks, trips, hreply⟩ :=
    askFor_cases Document.read .put (kind.collection.statusPath r.key.ns r.key.name)
      (some (requestBody kind r)) s
  · exact .inl ⟨e, hroute, by rw [writeStatus, heq]⟩
  · refine .inr ⟨trip, asks, ?_⟩
    unfold writeStatus Reply.object
    rw [← hreply]
    dsimp only
    split
    · rename_i heq
      rw [heq] at trips
      exact ⟨⟨trips.requests, trips.replies, trips.left, trips.outage⟩, by rw [heq]⟩
    · rename_i heq
      rw [heq] at trips
      exact ⟨trips, by rw [heq]⟩

end Server

/-! ## One attempt -/

/-- Two JSON objects are about the same state of the same object, by the
texts of their metadata. -/
def Json.SameState (v w : Json) : Prop :=
  ∀ name ∈ ["name", "namespace", "resourceVersion"], v.metadataText? name = w.metadataText? name

namespace UpdateJob

variable {job : UpdateJob} {get : Trip} {read : Resource}

/-- A trip that reads the object of a job. -/
def Reads (job : UpdateJob) (get : Trip) : Prop :=
  get.request.Asks .get (job.kind.collection.objectPath job.key.ns job.key.name) none

/-- A trip that reads the object of a job, and finds it. -/
def Finds (job : UpdateJob) (get : Trip) (read : Resource) : Prop :=
  job.Reads get ∧ get.reply.Holds job.kind read

end UpdateJob

/-- A read, and the write of what the mutations make of what was read. -/
structure Attempt where
  get : Trip
  read : Resource
  conditions : List Condition
  put : Trip

/-- What goes to and fro in an attempt. -/
def Attempt.trips (a : Attempt) : List Trip := [a.get, a.put]

/-- **An attempt keeps the protocol.** It reads the object of the job; there
is something to write; and what it writes carries the name, the namespace
and the version that stand in the answer to the read, and the conditions
that the mutations make of those that were read. -/
structure Attempt.Keeps (job : UpdateJob) (a : Attempt) : Prop where
  found : job.Finds a.get a.read
  applied : Mutation.applyAll job.mutations a.read.conditions = .ok a.conditions
  changed : a.conditions ≠ a.read.conditions
  puts : a.put.request.Asks .put (job.kind.collection.statusPath a.read.key.ns a.read.key.name)
    (some (Server.requestBody job.kind { a.read with conditions := a.conditions }))
  carries : ∃ text got body, a.get.reply.text = .ok text ∧ Json.read? text = some got ∧
    a.put.request.body = some body ∧ body.SameState got ∧
    body.statusField? "conditions" = some (.array (a.conditions.map Condition.write))

/-- The status that is sent has the conditions. -/
theorem Server.conditions_requestBody (kind : Kind) (r : Resource) :
    (requestBody kind r).statusField? "conditions" =
      some (.array (r.conditions.map Condition.write)) := by
  unfold requestBody Resource.write
  rw [Json.statusField?, Json.field?, Fields.get?_insert_of_ne (by decide),
    Fields.get?_insert_of_ne (by decide)]
  rfl

/-- What is written of what was read is about the state that was read. -/
theorem Attempt.Keeps.of_puts {job : UpdateJob} {a : Attempt} (found : job.Finds a.get a.read)
    (applied : Mutation.applyAll job.mutations a.read.conditions = .ok a.conditions)
    (changed : a.conditions ≠ a.read.conditions)
    (puts : a.put.request.Asks .put
      (job.kind.collection.statusPath a.read.key.ns a.read.key.name)
      (some (Server.requestBody job.kind { a.read with conditions := a.conditions }))) :
    a.Keeps job := by
  obtain ⟨text, got, d, htext, hgot, hd, hr⟩ := found.2
  refine ⟨found, applied, changed, puts, text, got, _, htext, hgot, puts.2.2, ?_,
    Server.conditions_requestBody _ _⟩
  have hread := Metadata.textsIn_of_resource hgot hd hr
  have hsent := Server.textsIn_requestBody job.kind { a.read with conditions := a.conditions }
  intro name hname
  simp only [List.mem_cons, List.not_mem_nil, or_false] at hname
  obtain rfl | rfl | rfl := hname
  · exact hsent.1.trans hread.1.symm
  · exact hsent.2.1.trans hread.2.1.symm
  · exact hsent.2.2.trans hread.2.2.symm

/-! ## The end -/

/-- **How an update ends**: with its last trips, from the read of the last
attempt on, the number of which is given. -/
inductive EndsAfter (job : UpdateJob) (outage : Option (String × List String)) (n : Nat) :
    List Trip → Hub.Ending (Except StoreError UpdateResult) → Prop
  /-- There is no way to read. -/
  | unsent {e : ApiError}
      (noWay : Server.route outage (job.kind.collection.objectPath job.key.ns job.key.name) =
        .error e) :
      EndsAfter job outage n [] (.result (.error (e.toStoreError job.kind job.key)))
  /-- The server says that there is no such object. -/
  | absent {get : Trip} (reads : job.Reads get)
      (absent : get.reply.code? = some 404 ∨ get.reply.isAbsent = true) :
      EndsAfter job outage n [get] (.result (.error (.notFound job.kind job.key)))
  /-- The read fails otherwise. -/
  | unread {get : Trip} {e : StoreError} (reads : job.Reads get)
      (other : get.reply.code? ≠ some 404 ∧ get.reply.isAbsent = false)
      (failed : get.reply.object job.kind job.key = .error e) :
      EndsAfter job outage n [get] (.result (.error e))
  /-- A mutation refuses. -/
  | refused {get : Trip} {read : Resource} {e : StoreError} (found : job.Finds get read)
      (refused : Mutation.applyAll job.mutations read.conditions = .error (.error e)) :
      EndsAfter job outage n [get] (.result (.error e))
  /-- The calendar has no time for a mutation. -/
  | overstepped {get : Trip} {read : Resource} (found : job.Finds get read)
      (overstepped : Mutation.applyAll job.mutations read.conditions = .error .beyondCalendar) :
      EndsAfter job outage n [get] .aborted
  /-- There is nothing to write. -/
  | unchanged {get : Trip} {read : Resource} (found : job.Finds get read)
      (same : Mutation.applyAll job.mutations read.conditions = .ok read.conditions) :
      EndsAfter job outage n [get] (.result (.ok ⟨read.conditions, false⟩))
  /-- There is something to write, and no way to. -/
  | unput {get : Trip} {read : Resource} {conditions : List Condition} {e : ApiError}
      (found : job.Finds get read)
      (applied : Mutation.applyAll job.mutations read.conditions = .ok conditions)
      (changed : conditions ≠ read.conditions)
      (noWay : Server.route outage
        (job.kind.collection.statusPath read.key.ns read.key.name) = .error e) :
      EndsAfter job outage n [get] (.result (.error (e.toStoreError job.kind read.key)))
  /-- The write is accepted. -/
  | stored {a : Attempt} {written : Resource} (keeps : a.Keeps job)
      (accepted : a.put.reply.Holds job.kind written) :
      EndsAfter job outage n a.trips (.result (.ok ⟨written.conditions, true⟩))
  /-- The write is lost, as all before it, and there may be no other. -/
  | exhausted {a : Attempt} (keeps : a.Keeps job) (lost : a.put.reply.code? = some 409)
      (last : n = max job.policy.steps 1) :
      EndsAfter job outage n a.trips (.result (.error (.exhausted job.kind job.key n)))
  /-- The write fails otherwise. -/
  | failed {a : Attempt} {e : StoreError} (keeps : a.Keeps job)
      (other : a.put.reply.code? ≠ some 409)
      (failed : a.put.reply.object job.kind a.read.key = .error e) :
      EndsAfter job outage n a.trips (.result (.error e))

/-! ## The dialogue -/

namespace StatusUpdate

open Position

variable {job : UpdateJob} {h h' : Hub Server} {calls : List Call}
variable {ending : Hub.Ending (Except StoreError UpdateResult)}
variable {outage : Option (String × List String)}

/-- **The dialogue of an update**: attempts that lost, each of them answered
with a conflict, and then the end. The number is that of the first attempt. -/
def Dialogue (job : UpdateJob) (n : Nat) (s s' : Server)
    (ending : Hub.Ending (Except StoreError UpdateResult)) : Prop :=
  ∃ (lost : List Attempt) (last : List Trip), s.Trips (lost.flatMap Attempt.trips ++ last) s' ∧
    (∀ a ∈ lost, a.Keeps job ∧ a.put.reply.code? = some 409) ∧
    n + lost.length ≤ max job.policy.steps 1 ∧
    EndsAfter job s.outage (n + lost.length) last ending

/-- A dialogue that begins with its end. -/
theorem Dialogue.ends {n : Nat} {s s' : Server} {last : List Trip} (trips : s.Trips last s')
    (hn : n ≤ max job.policy.steps 1) (ends : EndsAfter job s.outage n last ending) :
    Dialogue job n s s' ending := by
  refine ⟨[], last, trips, ?_, hn, ends⟩
  exact List.forall_mem_nil _

/-- A dialogue that begins with a lost attempt. -/
theorem Dialogue.again {n : Nat} {s mid s' : Server} {a : Attempt} (keeps : a.Keeps job)
    (lost : a.put.reply.code? = some 409) (trips : s.Trips a.trips mid)
    (rest : Dialogue job (n + 1) mid s' ending) : Dialogue job n s s' ending := by
  obtain ⟨others, last, later, hlost, hn, ends⟩ := rest
  refine ⟨a :: others, last, ?_, ?_, ?_, ?_⟩
  · rw [List.flatMap_cons, List.append_assoc]
    exact trips.trans later
  · intro b hb
    rcases List.mem_cons.1 hb with rfl | hb
    · exact ⟨keeps, lost⟩
    · exact hlost b hb
  · rw [List.length_cons]
    omega
  · rw [List.length_cons, ← trips.outage, ← Nat.add_assoc, Nat.add_right_comm]
    exact ends

/-- What follows a lost write makes no trips of its own: it ends the update
if there may be no other attempt, and else goes on to the next. -/
theorem afterLoss_cases (endless : job.deadline = none) {n left : Nat} {mid : Hub Server}
    (run : Runs (afterLoss job n left) mid calls ending h') :
    (left = 0 ∧ ending = .result (.error (.exhausted job.kind job.key n)) ∧
      h'.store = mid.store) ∨
    ∃ left' later calls', left = left' + 1 ∧ later.store = mid.store ∧
      Runs (attemptsFrom job (n + 1) left') later calls' ending h' := by
  obtain hlast | ⟨htimed, -⟩ | hagain := afterLoss_ends run
  · exact .inl hlast
  · rw [endless] at htimed
    cases htimed
  · exact .inr hagain

/-- A program that reads goes on with what the server has. -/
theorem run_of_get {kind : Kind} {key : Key}
    {next : Except StoreError (Option Resource) → Update}
    (run : Runs (.call (.get kind key) next) h calls ending h') :
    ∃ mid calls', mid.store = (h.store.getResource kind key).2 ∧
      Runs (next (h.store.getResource kind key).1) mid calls' ending h' := by
  obtain ⟨found, mid, calls', gets, -, rest⟩ := run.of_call
  obtain ⟨hfound, hmid⟩ := gets.eq (fun _ => nofun) nofun
  simp only [Hub.answer, Server.authority_get] at hfound hmid
  refine ⟨mid, calls', ?_, ?_⟩
  · rw [hmid]
  · rw [← hfound]
    exact rest

/-- A program that writes goes on with what the server says. -/
theorem run_of_updateStatus {kind : Kind} {object : Resource}
    {next : Except StoreError Resource → Update}
    (run : Runs (.call (.updateStatus kind object) next) h calls ending h') :
    ∃ mid calls', mid.store = (h.store.writeStatus kind object).2 ∧
      Runs (next (h.store.writeStatus kind object).1) mid calls' ending h' := by
  obtain ⟨written, mid, calls', writes, -, rest⟩ := run.of_call
  obtain ⟨hwritten, hmid⟩ := writes.eq (fun _ => nofun) nofun
  simp only [Hub.answer, Server.authority_updateStatus] at hwritten hmid
  refine ⟨mid, calls', ?_, ?_⟩
  · rw [hmid]
  · rw [← hwritten]
    exact rest

/-- What an update has to go on with after a loss: an end, or the rest of
its dialogue. -/
def GoesOn (job : UpdateJob) (n left : Nat) (h' : Hub Server)
    (ending : Hub.Ending (Except StoreError UpdateResult)) : Prop :=
  ∀ {calls : List Call} {mid : Hub Server}, Runs (afterLoss job n left) mid calls ending h' →
    (n = max job.policy.steps 1 ∧
      ending = .result (.error (.exhausted job.kind job.key n)) ∧ h'.store = mid.store) ∨
    Dialogue job (n + 1) mid.store h'.store ending

/-- **A write** ends the update, or it is lost. -/
theorem dialogue_write {n left : Nat} {s : Server} {get : Trip} {read : Resource}
    {conditions : List Condition} (hn : n ≤ max job.policy.steps 1)
    (goesOn : GoesOn job n left h' ending) (found : job.Finds get read)
    (applied : Mutation.applyAll job.mutations read.conditions = .ok conditions)
    (changed : conditions ≠ read.conditions) (gone : s.Trips [get] h.store)
    (run : Runs (program job (.writing n left read conditions)) h calls ending h') :
    Dialogue job n s h'.store ending := by
  obtain ⟨mid, calls', hmid, run⟩ := run_of_updateStatus run
  obtain ⟨e, noWay, heq⟩ | ⟨put, puts, trips, heq⟩ :=
    Server.writeStatus_cases job.kind { read with conditions := conditions } h.store
  · -- there is no way any more, which is no conflict
    have hconflict : ¬(e.toStoreError job.kind read.key).isConflict = true := by
      intro hconflict
      obtain ⟨r, rfl, -⟩ := ApiError.isConflict_toStoreError_iff.1 hconflict
      exact Server.route_ne_refused noWay
    rw [heq] at run hmid
    rw [afterWrite] at run
    obtain ⟨-, rfl, rfl⟩ := ((if_neg hconflict : _ = Program.done _) ▸ run).of_done
    rw [hmid]
    have ends : EndsAfter job s.outage n [get]
        (.result (.error (e.toStoreError job.kind read.key))) :=
      .unput found applied changed (gone.outage ▸ noWay)
    exact .ends gone hn ends
  · rw [← hmid] at trips
    have trips := gone.trans trips
    have keeps : Attempt.Keeps job ⟨get, read, conditions, put⟩ :=
      .of_puts found applied changed puts
    rw [heq] at run
    cases hreply : put.reply.object job.kind read.key with
    | ok written =>
      obtain ⟨a, counted, _, counts, -, run⟩ := (hreply ▸ run :
        Runs (afterWrite job n left (.ok written)) mid calls' ending h').of_call
      obtain ⟨-, rfl, rfl⟩ := run.of_done
      rw [store_of_count counts]
      exact .ends trips hn (.stored keeps (Reply.object_ok_iff.1 hreply))
    | error e =>
      have run : Runs (afterWrite job n left (.error e)) mid calls' ending h' := hreply ▸ run
      rw [afterWrite] at run
      split at run
      · rename_i hconflict
        have lost := Reply.isConflict_iff.1 ⟨e, hreply, hconflict⟩
        obtain ⟨a, counted, _, counts, -, run⟩ := run.of_call
        have hstore := store_of_count counts
        obtain ⟨hlast, rfl, hend⟩ | rest := goesOn run
        · -- the conflict was the last that the policy allows
          rw [hend, hstore]
          exact .ends trips hn (.exhausted keeps lost hlast)
        · exact .again keeps lost trips (hstore ▸ rest)
      · rename_i hconflict
        obtain ⟨-, rfl, rfl⟩ := run.of_done
        refine .ends trips hn (.failed keeps (fun hcode => hconflict ?_) hreply)
        obtain ⟨e', he', hconflict'⟩ := Reply.isConflict_iff.2 hcode
        exact Except.error.inj (he'.symm.trans hreply) ▸ hconflict'

/-- **One attempt** ends the update, or it keeps the protocol and is lost. -/
theorem dialogue_attempt {n left : Nat} (hn : n ≤ max job.policy.steps 1)
    (goesOn : GoesOn job n left h' ending)
    (run : Runs (attemptsFrom job n left) h calls ending h') :
    Dialogue job n h.store h'.store ending := by
  rw [attemptsFrom_eq] at run
  obtain ⟨mid, calls', hmid, run⟩ := run_of_get run
  obtain ⟨e, noWay, heq⟩ | ⟨get, reads, trips, heq⟩ :=
    Server.getResource_cases job.kind job.key h.store
  · -- there is no way to the server
    rw [heq] at run hmid
    obtain ⟨-, rfl, rfl⟩ := run.of_done
    rw [hmid]
    exact .ends (.nil _) hn (.unsent noWay)
  rw [← hmid] at trips
  rw [heq] at run
  split at run
  · rename_i absent
    obtain ⟨-, rfl, rfl⟩ := run.of_done
    exact .ends trips hn (.absent reads (.inr absent))
  rename_i present
  cases hobject : get.reply.object job.kind job.key with
  | error e =>
    rw [hobject] at run
    obtain ⟨-, rfl, rfl⟩ := run.of_done
    by_cases hcode : get.reply.code? = some 404
    · obtain rfl := Except.error.inj (hobject.symm.trans (Reply.object_of_code? hcode))
      exact .ends trips hn (.absent reads (.inl hcode))
    · exact .ends trips hn (.unread reads ⟨hcode, eq_false_of_ne_true present⟩ hobject)
  | ok read =>
    have found : job.Finds get read := ⟨reads, Reply.object_ok_iff.1 hobject⟩
    rw [hobject, Except.map, ofRead] at run
    split at run
    · rename_i refused
      obtain ⟨-, rfl, rfl⟩ := run.of_done
      exact .ends trips hn (.refused found refused)
    · rename_i overstepped
      obtain ⟨-, rfl, rfl⟩ := run.of_abort
      exact .ends trips hn (.overstepped found overstepped)
    · rename_i conditions applied
      split at run
      · rename_i same
        obtain ⟨-, rfl, rfl⟩ := run.of_done
        rw [same]
        exact .ends trips hn (.unchanged found (same ▸ applied))
      · rename_i changed
        exact dialogue_write hn goesOn found applied changed trips run

/-- **The attempts from the given one on** make up a dialogue. -/
theorem dialogue_attemptsFrom (endless : job.deadline = none) {n left : Nat}
    (hleft : n + left = max job.policy.steps 1)
    (run : Runs (attemptsFrom job n left) h calls ending h') :
    Dialogue job n h.store h'.store ending := by
  -- on the attempts that are left, which are what a loss has to go on with
  induction left generalizing n h calls with
  | zero =>
    refine dialogue_attempt (by omega) (fun run => ?_) run
    obtain ⟨-, hending, hstore⟩ | ⟨left', -, -, hleft', -⟩ := afterLoss_cases endless run
    · exact .inl ⟨hleft, hending, hstore⟩
    · cases hleft'
  | succ left ih =>
    refine dialogue_attempt (by omega) (fun run => ?_) run
    obtain ⟨hzero, -⟩ | ⟨left', later, _, hleft', hstore, run⟩ := afterLoss_cases endless run
    · cases hzero
    · cases hleft'
      rw [← hstore]
      exact .inr (ih (by omega) run)

/-- A last trip that is a write which the server accepted. -/
def Accepted (kind : Kind) (last : List Trip) : Prop :=
  ∃ put written, last.getLast? = some put ∧ put.request.method = .put ∧
    put.reply.Holds kind written

theorem not_accepted_of_reads {get : Trip} (reads : job.Reads get) : ¬Accepted job.kind [get] := by
  rintro ⟨put, written, hlast, hput, -⟩
  obtain rfl := Option.some.inj (List.getLast?_singleton.symm.trans hlast)
  rw [reads.1] at hput
  cases hput

/-- The write that ends an update was accepted exactly if the update says
that it has written. -/
theorem updated_iff {n : Nat} {last : List Trip}
    (ends : EndsAfter job outage n last ending) :
    (∃ conditions, ending = .result (.ok ⟨conditions, true⟩)) ↔ Accepted job.kind last := by
  have hread {get : Trip} (reads : job.Reads get)
      (h : ∀ conditions, ending ≠ .result (.ok ⟨conditions, true⟩)) :
      (∃ conditions, ending = .result (.ok ⟨conditions, true⟩)) ↔ Accepted job.kind [get] :=
    ⟨fun ⟨cs, hcs⟩ => absurd hcs (h cs),
      fun accepted => (not_accepted_of_reads reads accepted).elim⟩
  have hput {a : Attempt} {e : StoreError}
      (failed : a.put.reply.object job.kind a.read.key = .error e)
      (h : ∀ conditions, ending ≠ .result (.ok ⟨conditions, true⟩)) :
      (∃ conditions, ending = .result (.ok ⟨conditions, true⟩)) ↔
        Accepted job.kind a.trips := by
    refine ⟨fun ⟨cs, hcs⟩ => absurd hcs (h cs), ?_⟩
    rintro ⟨put, written, hlast, -, holds⟩
    cases hlast
    cases failed.symm.trans (Reply.object_ok_iff.2 holds)
  -- the last trip is a read, a write that failed, or in one case a write that was accepted
  cases ends with
  | unsent => exact ⟨nofun, fun ⟨_, _, hlast, _⟩ => nomatch hlast⟩
  | absent reads => exact hread reads nofun
  | unread reads => exact hread reads nofun
  | refused found => exact hread found.1 nofun
  | overstepped found => exact hread found.1 nofun
  | unchanged found => exact hread found.1 nofun
  | unput found => exact hread found.1 nofun
  | stored keeps accepted =>
    exact ⟨fun _ => ⟨_, _, rfl, keeps.puts.1, accepted⟩, fun _ => ⟨_, rfl⟩⟩
  | exhausted keeps lost =>
    obtain ⟨e, failed, -⟩ := Reply.isConflict_iff.2 lost
    exact hput failed nofun
  | failed keeps other failed => exact hput failed nofun

end StatusUpdate

/-- **An update keeps the protocol of its server.** For every server, which
is a list of replies, and every update without a deadline: it comes to an
end; and whatever is drawn for its delays, what goes to and fro until then
is, in turn, the read and the write of attempts that lost, and a last
attempt that ends as `EndsAfter` says.

Each write carries the version that the read before it found and the
conditions that the mutations make of those found, which are others
(`Attempt.Keeps`); a write is followed by another read only if it was
refused as a conflict and fewer writes were sent than the policy allows;
and the update says that it has written exactly if its last write was
accepted. -/
theorem update_keeps_the_protocol (job : UpdateJob) (endless : job.deadline = none)
    (h : Hub Server) :
    (∃ calls ending h', Runs (StatusUpdate.ofJob job) h calls ending h') ∧
      ∀ calls ending h', Runs (StatusUpdate.ofJob job) h calls ending h' →
        ∃ (lost : List Attempt) (last : List Trip),
          h.store.Trips (lost.flatMap Attempt.trips ++ last) h'.store ∧
          (∀ a ∈ lost, a.Keeps job ∧ a.put.reply.code? = some 409) ∧
          lost.length < max job.policy.steps 1 ∧
          EndsAfter job h.store.outage (lost.length + 1) last ending ∧
          ((∃ conditions, ending = .result (.ok ⟨conditions, true⟩)) ↔
            StatusUpdate.Accepted job.kind last) := by
  obtain ⟨calls, run⟩ := Runs.of_runAlone (StatusUpdate.ofJob job) h
  refine ⟨⟨calls, _, _, run⟩, fun calls ending h' run => ?_⟩
  have hleft : 1 + (job.policy.attempts - 1) = max job.policy.steps 1 := by
    change 1 + (max job.policy.steps 1 - 1) = _
    omega
  obtain ⟨lost, last, trips, keeps, hn, ends⟩ :=
    StatusUpdate.dialogue_attemptsFrom endless hleft run
  rw [Nat.add_comm] at ends
  exact ⟨lost, last, trips, keeps, by omega, ends, StatusUpdate.updated_iff ends⟩

/-! ## Two updates -/

theorem StatusUpdate.length_last {job : UpdateJob} {outage : Option (String × List String)}
    {n : Nat} {last : List Trip} {ending : Hub.Ending (Except StoreError UpdateResult)}
    (ends : EndsAfter job outage n last ending) : last.length ≤ 2 := by
  cases ends <;> simp [Attempt.trips]

theorem Attempt.length_trips (attempts : List Attempt) :
    (attempts.flatMap Attempt.trips).length = 2 * attempts.length := by
  induction attempts with
  | nil => rfl
  | cons a rest ih =>
    rw [List.flatMap_cons, List.length_append, ih, List.length_cons, trips, List.length_cons,
      List.length_singleton]
    omega

namespace StatusPut

/-- The set, as the server has it at a version. -/
def versioned (version : String) : Reply :=
  .answer 200 (Json.object [("metadata", .object
    [("name", .string "a"), ("resourceVersion", .string version)])]).compact

/-- A server on which somebody else is faster once. -/
def contended : Server :=
  .ofReplies [versioned "1", .answer 409 "", versioned "2", versioned "3"]

/-- The update of the set on it, at its end. -/
def retried : StatusUpdate.Update × Hub Server :=
  (StatusUpdate.ofJob job).advance 16 (Hub.start contended 1 Instant.epoch)

/-- It has written, and has sent four requests. -/
def hasRetried : Bool :=
  match retried with
  | (.done (.ok result), h) => result.updated && h.store.requests.length = 4
  | _ => false

/-- A refusal that gives the absence of the object as its reason, under
another number. -/
def vanished : Reply :=
  .answer 500 (Json.object [("code", .ofNat 500), ("message", .string "gone"),
    ("reason", .string Server.absentReason), ("status", .string "Failure")]).compact

/-- The update of the set on a server that answers so, at its end. -/
def refused : StatusUpdate.Update × Hub Server :=
  (StatusUpdate.ofJob job).advance 4 (Hub.start (.ofReplies [vanished]) 1 Instant.epoch)

/-- The update has ended, since it found no such object. -/
def isNotFound : StatusUpdate.Update → Bool
  | .done (.error (.notFound kind key)) => kind = .set && key = job.key
  | _ => false

/-- The condition, as it was set when the calendar ended. -/
def last : Condition :=
  { empty with since := (Instant.of? ⟨262142, 12, 31⟩ ⟨86399, 999999999⟩).getD empty.since }

/-- An update that sets the condition then, and changes its status. -/
def late : UpdateJob :=
  ⟨.set, job.key, [Mutation.set last, Mutation.set { last with status := .fails }], .standard, none⟩

/-- That update on a server that has the set, at its end. -/
def overstepped : StatusUpdate.Update × Hub Server :=
  (StatusUpdate.ofJob late).advance 4 (Hub.start (.ofReplies [versioned "1"]) 1 Instant.epoch)

/-- The update was broken off. -/
def isAborted : StatusUpdate.Update → Bool
  | .abort => true
  | _ => false

/-- The operation may be tried again. -/
def isTransient : Except StoreError Resource → Bool
  | .error (.transient _) => true
  | _ => false

end StatusPut

/-- Somebody else is faster once, and the second attempt writes. -/
theorem update_keeps_the_protocol_contended :
    ∃ calls result h', ∃ (lost : List Attempt) (last : List Trip), StatusPut.job.deadline = none ∧
      Runs (StatusUpdate.ofJob StatusPut.job) (Hub.start StatusPut.contended 1 Instant.epoch) calls
        (.result (.ok result)) h' ∧
      result.updated = true ∧
      StatusPut.contended.Trips (lost.flatMap Attempt.trips ++ last) h'.store ∧
      lost.length = 1 ∧ (∀ a ∈ lost, a.Keeps StatusPut.job ∧ a.put.reply.code? = some 409) ∧
      EndsAfter StatusPut.job none 2 last (.result (.ok result)) := by
  have hretried : StatusPut.hasRetried = true := by decide +kernel
  unfold StatusPut.hasRetried at hretried
  split at hretried
  · rename_i result h' hends
    rw [Bool.and_eq_true, decide_eq_true_eq] at hretried
    obtain ⟨calls, run⟩ : ∃ calls, Runs (StatusUpdate.ofJob StatusPut.job)
        (Hub.start StatusPut.contended 1 Instant.epoch) calls (.result (.ok result)) h' := by
      have rest : Runs StatusPut.retried.1 StatusPut.retried.2 [] (.result (.ok result)) h' :=
        hends ▸ .done _ _
      exact Runs.of_advance rest
    obtain ⟨lost, last, trips, keeps, -, ends, hupdated⟩ :=
      (update_keeps_the_protocol StatusPut.job rfl _).2 calls _ h' run
    have hlength : lost.length = 1 := by
      have hrequests := congrArg List.length trips.requests
      have hlast := StatusUpdate.length_last ends
      rw [hretried.2, List.length_append, List.length_map, List.length_append,
        Attempt.length_trips] at hrequests
      have hnone : (Hub.start StatusPut.contended 1 Instant.epoch).store.requests.length = 0 := rfl
      have hpos : 0 < last.length := by
        obtain ⟨put, written, hput, -⟩ := hupdated.1 ⟨result.conditions, by rw [← hretried.1]⟩
        exact List.length_pos_of_mem (List.mem_of_getLast? hput)
      omega
    rw [hlength] at ends
    exact ⟨calls, result, h', lost, last, rfl, run, hretried.1, trips, hlength, keeps, ends⟩
  · cases hretried

/-- **An update has other ends.** A read is refused with the number 500, of
which a refusal else means that the update may be tried again; but its
reason says that there is no such object, and decides. And an update that
sets a condition when the calendar ends, and then changes its status, needs
a time after that and is broken off. -/
theorem update_has_other_ends :
    (StatusPut.vanished.code? = some 500 ∧
      (∃ message, StatusPut.vanished.object .set StatusPut.job.key = .error (.transient message)) ∧
      ∃ calls h', Runs (StatusUpdate.ofJob StatusPut.job)
        (Hub.start (Server.ofReplies [StatusPut.vanished]) 1 Instant.epoch) calls
        (.result (.error (.notFound .set StatusPut.job.key))) h') ∧
    ∃ calls h', Runs (StatusUpdate.ofJob StatusPut.late)
      (Hub.start (Server.ofReplies [StatusPut.versioned "1"]) 1 Instant.epoch) calls
      .aborted h' := by
  have hcode : StatusPut.vanished.code? = some 500 := by decide +kernel
  have hmeans :
      StatusPut.isTransient (StatusPut.vanished.object .set StatusPut.job.key) = true := by
    decide +kernel
  have hrefused : StatusPut.isNotFound StatusPut.refused.1 = true := by decide +kernel
  have haborted : StatusPut.isAborted StatusPut.overstepped.1 = true := by decide +kernel
  refine ⟨⟨hcode, ?_, ?_⟩, ?_⟩
  · unfold StatusPut.isTransient at hmeans
    split at hmeans
    · rename_i message heq
      exact ⟨message, heq⟩
    · cases hmeans
  · unfold StatusPut.isNotFound at hrefused
    split at hrefused
    · rename_i kind key hends
      rw [Bool.and_eq_true, decide_eq_true_eq, decide_eq_true_eq] at hrefused
      obtain ⟨rfl, rfl⟩ := hrefused
      have rest : Runs StatusPut.refused.1 StatusPut.refused.2 []
          (.result (.error (.notFound .set StatusPut.job.key))) StatusPut.refused.2 :=
        hends ▸ .done _ _
      obtain ⟨calls, run⟩ := Runs.of_advance rest
      exact ⟨calls, _, run⟩
    · cases hrefused
  · unfold StatusPut.isAborted at haborted
    split at haborted
    · rename_i hends
      have rest : Runs StatusPut.overstepped.1 StatusPut.overstepped.2 [] .aborted
          StatusPut.overstepped.2 := hends ▸ .abort _
      obtain ⟨calls, run⟩ := Runs.of_advance rest
      exact ⟨calls, _, run⟩
    · cases haborted

end ClusterFleet
