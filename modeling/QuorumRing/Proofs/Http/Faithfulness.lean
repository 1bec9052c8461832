import QuorumRing.Http.Service
import QuorumRing.Proofs.Cluster.Deferral
import QuorumRing.Proofs.Cluster.Members

/-!
# What requests do to the cluster

A request stands for at most one call of the cluster (`Request.call?`), made with what its path and
its body say, and answering it changes the cluster as this call does. A request that stands for none
changes nothing.

The calls themselves do some of their work before they fail: a read has asked all replicas when it
finds nothing, a delete has been to all of them. Still, a response with an error says that no member
has come or gone, nobody was switched, and all entries are what they were. The one exception is a write
that has missed its quorum, which leaves in place what was stored.
-/

namespace QuorumRing

namespace Cluster

variable {c : Cluster} {key value : String}

/-- A put that fails although there is a replica has missed its quorum. -/
theorem quorumNotReached_of_put {e : Error} (hne : c.replicas key ≠ [])
    (h : (c.put key value).1 = .error e) : ∃ needed got, e = .quorumNotReached needed got := by
  rw [put, store_fst c key value hne] at h
  unfold Quorum.judge at h
  dsimp only at h
  split at h
  · exact ⟨_, _, (Except.error.inj h).symm⟩
  · simp [Except.map] at h

/-- A delete that finds nothing changes no copy. -/
theorem sameEntries_delete (hs : c.fleet.ring.Sound) (h : (c.delete key).1 = false) :
    Fleet.SameEntries c.fleet (c.delete key).2.fleet := by
  obtain ⟨f, m, hdelete, hshape, hcopy⟩ := delete_snd hs key
  rw [delete_fst hs, List.any_eq_false] at h
  rw [hdelete]
  refine ⟨hshape, fun w j => ?_⟩
  rw [hcopy]
  split
  next hreplica =>
    obtain ⟨hw, rfl⟩ := hreplica
    exact (Option.not_isSome_iff_eq_none.1 (h w hw)).symm
  · rfl

theorem sameEntries_get (c : Cluster) (key : String) :
    Fleet.SameEntries c.fleet (c.get key).2.fleet := by
  obtain ⟨f, m, hget, hshape, hcopy⟩ := get_snd c key
  rw [hget]
  exact ⟨hshape, hcopy⟩

end Cluster

namespace Http

/-! ## Actions -/

/-- The call of the cluster that an action makes. An empty key cannot be written, and a unit cannot
be admitted under an empty id. -/
def Action.call? : Action → Option Event
  | .put key value => if key.isEmpty then none else some (.put key value)
  | .get key => some (.get key)
  | .delete key => some (.delete key)
  | .addNode id host port => if id.isEmpty then none else some (.addNode id host port)
  | .removeNode id => some (.removeNode id)
  | .repair key => some (.repair key)
  | .verify => some .verify
  | .listNodes | .showNode _ | .status | .distribution | .placement _ | .metrics | .exposition
  | .health => none

namespace Action

variable {monitor : Option Monitor} {c : Cluster} {action : Action}

/-- An action changes the cluster by the call it makes. -/
theorem run_snd (monitor : Option Monitor) (s : Session) (action : Action) :
    (action.run monitor s.cluster).2 = (action.call?.elim s s.step).cluster := by
  -- the answer of the call decides about the response only
  cases action with
  | put key value =>
    unfold run call?
    dsimp only
    split
    · rfl
    · rw [Option.elim_some, Session.step]
      split
      next h => rw [h]
      next h => rw [h]
  | addNode id host port =>
    unfold run call?
    dsimp only
    split
    · rfl
    · rw [Option.elim_some, Session.step]
      split
      next h => rw [h]
      next h => rw [h]
  | get | delete | removeNode =>
    unfold run call?
    rw [Option.elim_some, Session.step]
    dsimp only
    split
    next h => rw [h]
    next h => rw [h]
  | showNode id =>
    unfold run call?
    dsimp only
    split
    · rfl
    · rfl
  | repair => rfl
  | verify => rfl
  | listNodes | status | distribution | placement | metrics | exposition | health => rfl

/-- An action that ends with an error leaves members, liveness and entries alone, unless it is a write
that has missed its quorum. -/
theorem sameEntries_run_of_failed (hs : c.fleet.ring.Sound)
    (hfailed : 400 ≤ (action.run monitor c).1.status)
    (hquorum : ∀ key value, action.call? = some (.put key value) →
      ∀ needed got, (c.put key value).1 ≠ .error (.quorumNotReached needed got)) :
    Fleet.SameEntries c.fleet (action.run monitor c).2.fleet := by
  have hsame : Fleet.SameEntries c.fleet c.fleet := Fleet.SameEntries.refl c.fleet
  cases action with
  | put key value =>
    unfold run at hfailed ⊢
    dsimp only at hfailed ⊢
    split at hfailed
    next hempty =>
      rw [if_pos hempty]
      exact hsame
    next hnonempty =>
      rw [if_neg hnonempty]
      have hmissed := hquorum key value (if_neg hnonempty)
      split at hfailed
      · simp [Response.json] at hfailed
      next e c' hput =>
        rw [hput] at hmissed
        -- without a replica nothing was written, and else the quorum was missed
        by_cases hnil : c.replicas key = []
        · rw [Cluster.put_of_replicas_eq_nil hnil] at hput
          obtain ⟨-, rfl⟩ := Prod.mk.inj hput
          exact hsame
        · have he : (c.put key value).1 = .error e := by rw [hput]
          obtain ⟨needed, got, rfl⟩ := Cluster.quorumNotReached_of_put hnil he
          exact absurd rfl (hmissed needed got)
  | get key =>
    have hread := Cluster.sameEntries_get c key
    unfold run
    dsimp only
    split
    next h =>
      rw [h] at hread
      exact hread
    next h =>
      rw [h] at hread
      exact hread
  | delete key =>
    unfold run at hfailed ⊢
    dsimp only at hfailed ⊢
    split at hfailed
    · simp [Response.json] at hfailed
    next c' hdelete =>
      have hnothing := Cluster.sameEntries_delete hs (congrArg Prod.fst hdelete)
      rw [hdelete] at hnothing
      exact hnothing
  | addNode id host port =>
    unfold run at hfailed ⊢
    dsimp only at hfailed ⊢
    split at hfailed
    next hempty =>
      rw [if_pos hempty]
      exact hsame
    next hnonempty =>
      rw [if_neg hnonempty]
      split at hfailed
      · simp [Response.json] at hfailed
      next c' hadd =>
        have hrefused := Cluster.addNode_of_refused (congrArg Prod.fst hadd)
        rw [hadd] at hrefused
        obtain rfl : c' = c := hrefused
        exact hsame
  | removeNode id =>
    unfold run at hfailed ⊢
    dsimp only at hfailed ⊢
    split at hfailed
    · simp [Response.json] at hfailed
    next c' hremove =>
      have hrefused := Cluster.removeNode_of_refused (congrArg Prod.fst hremove)
      rw [hremove] at hrefused
      obtain rfl : c' = c := hrefused
      exact hsame
  | showNode id =>
    unfold run
    dsimp only
    split
    · exact hsame
    · exact hsame
  | repair | verify => simp [run, Response.json] at hfailed
  | listNodes | status | distribution | placement | metrics | exposition | health => exact hsame

/-- A write that has missed its quorum is answered with 503. -/
theorem status_run_of_missed {key value : String} {needed got : Nat}
    (hcall : action.call? = some (.put key value))
    (hmissed : (c.put key value).1 = .error (.quorumNotReached needed got)) :
    (action.run monitor c).1.status = 503 := by
  cases action with
  | put key' value' =>
    dsimp only [call?] at hcall
    split at hcall
    · simp at hcall
    next hnonempty =>
      obtain ⟨rfl, rfl⟩ := Event.put.inj (Option.some.inj hcall)
      unfold run
      dsimp only
      rw [if_neg hnonempty]
      split
      next h => simp [h] at hmissed
      next e c' h =>
        rw [h] at hmissed
        obtain rfl : e = .quorumNotReached needed got := Except.error.inj hmissed
        rfl
  | _ => simp [call?] at hcall

end Action

/-! ## Requests -/

/-- The call of the cluster that a request stands for: by the resource and the method, with the decoded
parameter of the path or with what the body says. -/
def Request.call? (request : Request) : Option Event :=
  match Route.ofPath? (pathOf request.target), Method.ofName? request.method with
  | some .data, some .post =>
    match request.fields entryFields with
    | .ok entry =>
      if (entry.text "key").isEmpty then none else some (.put (entry.text "key") (entry.text "value"))
    | .error _ => none
  | some (.entry key), some .get | some (.entry key), some .head =>
    (PercentEncoding.decode? key).map .get
  | some (.entry key), some .delete => (PercentEncoding.decode? key).map .delete
  | some .nodes, some .post =>
    match request.fields nodeFields with
    | .ok node =>
      if (node.text "id").isEmpty then none
      else some (.addNode (node.text "id") (node.text "host") (node.port "port"))
    | .error _ => none
  | some (.node id), some .delete => (PercentEncoding.decode? id).map .removeNode
  | some (.repair key), some .post => (PercentEncoding.decode? key).map .repair
  | some .verification, some .get | some .verification, some .head => some .verify
  | _, _ => none

/-- A body over the limit stands for no call. -/
theorem Request.call?_of_oversized {request : Request}
    (hroute : Route.ofPath? (pathOf request.target) = some .data ∨
      Route.ofPath? (pathOf request.target) = some .nodes)
    (hmethod : Method.ofName? request.method = some .post)
    (hsize : bodyLimit < request.body.utf8ByteSize) : request.call? = none := by
  have hrefused : ∀ fields, ∃ refusal, request.fields fields = .error refusal := by
    intro fields
    unfold Request.fields
    rw [if_pos hsize]
    split
    · exact ⟨_, rfl⟩
    · exact ⟨_, rfl⟩
  unfold Request.call?
  rcases hroute with hroute | hroute
  · obtain ⟨refusal, hfields⟩ := hrefused entryFields
    rw [hroute, hmethod]
    dsimp only
    rw [hfields]
  · obtain ⟨refusal, hfields⟩ := hrefused nodeFields
    rw [hroute, hmethod]
    dsimp only
    rw [hfields]

theorem parameter_of_none {route : Route} (h : route.parameterText? = none) :
    Request.parameter route = .ok "" := by
  have hempty : PercentEncoding.decode? "" = some "" := by decide +kernel
  rw [Request.parameter, h, Option.getD_none, hempty]

theorem parameter_of_some {route : Route} {text : String}
    (h : route.parameterText? = some text) : Request.parameter route =
      (PercentEncoding.decode? text).elim (.error .badParameter) .ok := by
  rw [Request.parameter, h, Option.getD_some]
  cases PercentEncoding.decode? text with
  | none => rfl
  | some s => rfl

/-- The call is that of the action which a request is understood as, and a request that is refused
stands for none. -/
theorem call?_eq (request : Request) : request.call? =
    match request.action with
    | .ok action => action.call?
    | .error _ => none := by
  unfold Request.call? Request.action
  cases Route.ofPath? (pathOf request.target) with
  | none => rfl
  | some route =>
    cases Method.ofName? request.method with
    | none =>
      cases route with
      | _ => rfl
    | some method =>
      cases route with
      | data =>
        cases method with
        | post =>
          dsimp only
          rw [parameter_of_none rfl]
          cases request.fields Request.entryFields with
          | error e => rfl
          | ok entry => rfl
        | _ => rfl
      | nodes =>
        cases method with
        | post =>
          dsimp only
          rw [parameter_of_none rfl]
          cases request.fields Request.nodeFields with
          | error e => rfl
          | ok node => rfl
        | get | head =>
          dsimp only
          rw [parameter_of_none rfl]
          rfl
        | delete => rfl
      | entry text | node text | repair text | placement text =>
        cases method with
        | _ =>
          dsimp only
          rw [parameter_of_some rfl]
          cases PercentEncoding.decode? text with
          | none => rfl
          | some s => rfl
      | status | distribution | metrics | exposition | verification | health =>
        cases method with
        | _ =>
          dsimp only
          rw [parameter_of_none rfl]
          rfl

/-! ## Answers -/

section Answers

variable {monitor : Option Monitor} {c : Cluster} {request : Request}

theorem handle_snd (monitor : Option Monitor) (s : Session) (request : Request) :
    (handle monitor s.cluster request).2 = (request.call?.elim s s.step).cluster := by
  rw [call?_eq]
  unfold handle
  cases request.action with
  | ok action => exact Action.run_snd monitor s action
  | error refusal => rfl

/-- A read is answered with what the cluster has found. -/
theorem handle_fst_of_read {text key : String}
    (hroute : Route.ofPath? (pathOf request.target) = some (.entry text))
    (hmethod : request.method = Method.get.name) (hkey : PercentEncoding.decode? text = some key) :
    (handle monitor c request).1 =
      match (c.get key).1 with
      | some value => .json 200 (.object [("key", .string key), ("value", .string value)])
      | none => .ofError (.notFound key) := by
  have hget : Method.ofName? Method.get.name = some .get := by decide
  have haction : request.action = .ok (.get key) := by
    unfold Request.action
    rw [hroute, hmethod, hget]
    dsimp only
    rw [parameter_of_some rfl, hkey]
    rfl
  have hshown : request.method ≠ Method.head.name := by
    rw [hmethod]
    decide
  unfold handle
  dsimp only
  rw [haction, if_neg hshown]
  unfold Action.run
  dsimp only
  split
  next h => rw [h]
  next h => rw [h]

/-- The status does not depend on whether the body is left out. -/
theorem handle_of_action {action : Action} (h : request.action = .ok action) :
    (handle monitor c request).1.status = (action.run monitor c).1.status ∧
      (handle monitor c request).2 = (action.run monitor c).2 := by
  unfold handle
  dsimp only
  rw [h]
  constructor
  · split
    · rfl
    · rfl
  · rfl

theorem sameEntries_handle_of_failed (hs : c.fleet.ring.Sound)
    (hfailed : 400 ≤ (handle monitor c request).1.status)
    (hquorum : ∀ key value, request.call? = some (.put key value) →
      ∀ needed got, (c.put key value).1 ≠ .error (.quorumNotReached needed got)) :
    Fleet.SameEntries c.fleet (handle monitor c request).2.fleet := by
  rw [call?_eq] at hquorum
  cases haction : request.action with
  | error refusal =>
    unfold handle
    rw [haction]
    exact Fleet.SameEntries.refl c.fleet
  | ok action =>
    obtain ⟨hstatus, hcluster⟩ := @handle_of_action monitor c request action haction
    rw [hstatus] at hfailed
    rw [haction] at hquorum
    rw [hcluster]
    exact Action.sameEntries_run_of_failed hs hfailed hquorum

theorem status_handle_of_missed {key value : String} {needed got : Nat}
    (hcall : request.call? = some (.put key value))
    (hmissed : (c.put key value).1 = .error (.quorumNotReached needed got)) :
    (handle monitor c request).1.status = 503 := by
  rw [call?_eq] at hcall
  cases haction : request.action with
  | error refusal => simp [haction] at hcall
  | ok action =>
    rw [haction] at hcall
    exact (handle_of_action haction).1.trans (Action.status_run_of_missed hcall hmissed)

end Answers

/-- What becomes of a cluster that answers requests one after the other. -/
def serveAll (monitor : Option Monitor) (c : Cluster) (requests : List Request) : Cluster :=
  requests.foldl (fun c request => (handle monitor c request).2) c

theorem serveAll_eq (monitor : Option Monitor) (s : Session) (requests : List Request) :
    serveAll monitor s.cluster requests =
      (s.run (requests.filterMap Request.call?)).cluster := by
  induction requests generalizing s with
  | nil => rfl
  | cons request requests ih =>
    have hfirst := handle_snd monitor s request
    have hlater := ih (request.call?.elim s s.step)
    rw [serveAll, List.foldl_cons, hfirst]
    refine hlater.trans ?_
    cases hcall : request.call? with
    | none => rw [List.filterMap_cons_none hcall, Option.elim_none]
    | some event =>
      rw [List.filterMap_cons_some hcall, Option.elim_some]
      rfl

variable {virtualNodes replicationFactor writeTimeout : Nat} {units : List UnitSpec}

/-- Requests to a cluster in any state that it can be in: they change it as the calls do that they
stand for, in the same order. A read of a key is answered with the value that the cluster returns, or
with 404 if there is none. And if a request is answered with an error, then the ring, the liveness of
all units and their entries are what they were, unless it was a write that missed its quorum and was
answered with 503. -/
theorem requests_faithful (acts : List Act) (monitor : Option Monitor) (requests : List Request)
    (request : Request) :
    let s := (Session.start virtualNodes replicationFactor writeTimeout units).play acts
    let c := serveAll monitor s.cluster requests
    let answer := handle monitor c request
    c = (s.run (requests.filterMap Request.call?)).cluster ∧
    (∀ text key, Route.ofPath? (pathOf request.target) = some (.entry text) →
      request.method = Method.get.name → PercentEncoding.decode? text = some key →
      answer.1 =
        match (c.get key).1 with
        | some value => .json 200 (.object [("key", .string key), ("value", .string value)])
        | none => .json 404 (.object
            [("error", .string (Error.notFound key).message), ("retryable", .bool false)])) ∧
    (400 ≤ answer.1.status →
      (¬∃ key value needed got, request.call? = some (.put key value) ∧ answer.1.status = 503 ∧
        (c.put key value).1 = .error (.quorumNotReached needed got)) →
      answer.2.fleet.ring = c.fleet.ring ∧
      answer.2.fleet.pool.isActive = c.fleet.pool.isActive ∧
      ∀ unit, (answer.2.fleet.get unit).contents = (c.fleet.get unit).contents) := by
  intro s c answer
  have hserved : c = (s.run (requests.filterMap Request.call?)).cluster :=
    serveAll_eq monitor s requests
  have hs : c.fleet.ring.Sound := by
    have hstart := Session.working_start virtualNodes replicationFactor writeTimeout units
    rw [hserved, Session.run_eq_play]
    exact Session.sound_play (Session.sound_play hstart.sound acts) _
  refine ⟨hserved, fun text key hroute hmethod hkey => handle_fst_of_read hroute hmethod hkey,
    fun hfailed hexcept => ?_⟩
  have hquorum : ∀ key value, request.call? = some (.put key value) →
      ∀ needed got, (c.put key value).1 ≠ .error (.quorumNotReached needed got) :=
    fun key value hcall needed got hmissed => hexcept
      ⟨key, value, needed, got, hcall, status_handle_of_missed hcall hmissed, hmissed⟩
  have hsame := sameEntries_handle_of_failed hs hfailed hquorum
  exact ⟨hsame.shape.ring, hsame.shape.active, fun unit =>
    Fleet.contents_of_copy (hsame.copy unit)⟩

set_option maxRecDepth 4096 in
/-- A read of a key that the request before has deleted. The unit that is off still holds it. -/
theorem requests_faithful_deleted :
    let units : List UnitSpec := [⟨"a", "localhost", 8000⟩, ⟨"b", "localhost", 8001⟩]
    let s := (Session.start 1 3 5000 units).play [.event (.put "x" "v"), .event (.switch "b" false)]
    let c := serveAll none s.cluster [⟨"DELETE", "/data/x", none, ""⟩]
    let answer := handle none c ⟨"GET", "/data/x", none, ""⟩
    c = (s.run [.delete "x"]).cluster ∧
      (∃ unit ∈ c.fleet.units, c.fleet.copy unit "x" = some "v") ∧
      answer.1 = .json 404 (.object
        [("error", .string (Error.notFound "x").message), ("retryable", .bool false)]) ∧
      answer.2.fleet.ring = c.fleet.ring ∧
      answer.2.fleet.pool.isActive = c.fleet.pool.isActive ∧
      ∀ unit, (answer.2.fleet.get unit).contents = (c.fleet.get unit).contents := by
  intro units s c answer
  have hsplit : "/data/x".splitOn "/" = ["", "data", "x"] := by
    rw [String.splitOn, if_neg (by decide)]
    iterate 8
      rw [String.splitOnAux.eq_def]
      simp (disch := decide +kernel) only [if_pos, if_neg]
    decide +kernel
  have hpath : pathOf "/data/x" = "/data/x" := by decide +kernel
  have hroute : Route.ofPath? (pathOf "/data/x") = some (.entry "x") := by
    rw [hpath, Route.ofPath?, hsplit]
    rfl
  have hkey : PercentEncoding.decode? "x" = some "x" := by decide +kernel
  have hmethods : Method.ofName? "GET" = some .get ∧ Method.ofName? "DELETE" = some .delete := by
    decide
  have hcall : Request.call? ⟨"GET", "/data/x", none, ""⟩ = some (.get "x") := by
    rw [Request.call?, hroute, hmethods.1]
    dsimp only
    rw [hkey]
    rfl
  have hdeletes : [Request.mk "DELETE" "/data/x" none ""].filterMap Request.call? =
      [.delete "x"] := by
    rw [List.filterMap_cons_some, List.filterMap_nil]
    rw [Request.call?, hroute, hmethods.2]
    dsimp only
    rw [hkey]
    rfl
  obtain ⟨hserved, hreads, hfails⟩ := @requests_faithful 1 3 5000 units
    [.event (.put "x" "v"), .event (.switch "b" false)] none [⟨"DELETE", "/data/x", none, ""⟩]
    ⟨"GET", "/data/x", none, ""⟩
  rw [hdeletes] at hserved
  have hs : (∃ unit ∈ (s.run [.delete "x"]).cluster.fleet.units,
        (s.run [.delete "x"]).cluster.fleet.copy unit "x" = some "v") ∧
      ((s.run [.delete "x"]).cluster.get "x").1 = none := by decide +kernel
  rw [← hserved] at hs
  have hanswer := hreads "x" "x" hroute rfl hkey
  rw [hs.2] at hanswer
  have hstatus : 400 ≤ answer.1.status := by
    rw [hanswer]
    decide
  refine ⟨hserved, hs.1, hanswer, hfails hstatus ?_⟩
  rintro ⟨key, value, needed, got, hput, -⟩
  rw [hcall] at hput
  simp at hput

end Http

end QuorumRing
