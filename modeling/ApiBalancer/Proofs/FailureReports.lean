import ApiBalancer.Proofs.CancelledOperations
import ApiBalancer.Proofs.Requests
import ApiBalancer.Proofs.ServedRequests

/-!
# Failed requests are told

A request that fails ends the work that it was made for, and the error tells of it: it names the
cluster, the step and the container, or the node that was looked up, and holds what the engine said
(`Balancer.Task.failure`). Work whose requests are all served has nothing to fail for but an address
that is empty, a document that cannot be made, or a container that is not there.
`failed_requests_told` says both of look-ups, of the tasks of balancers and of the tasks of fleets.
-/

namespace ApiBalancer

open Procedure

variable {σ ε α β : Type}

namespace BalancerError

/-- The cluster that an error names. -/
def cluster? : BalancerError → Option String
  | unnamedCluster => none
  | notProvisioned cluster | noAddress cluster _ | unresolved cluster _ _ | engine _ cluster _ _
  | rejected cluster _ | cancelled _ cluster => some cluster

/-- What the engine said, if an error tells of a request that has failed. -/
def source? : BalancerError → Option EngineError
  | engine _ _ _ cause => some cause
  | unresolved _ _ cause => cause
  | unnamedCluster | notProvisioned _ | noAddress _ _ | rejected _ _ | cancelled _ _ => none

end BalancerError

/-- The error that tells of a request of a task that has failed. The look-up of a node's address
names the node; every other request names the step that makes it and the balancer's container. -/
def Balancer.Task.failure (task : Task) (cluster container : String) (request : Request)
    (cause : EngineError) : BalancerError :=
  match request with
  | .address node =>
    if task = .address then .engine .readAddress cluster container cause
    else .unresolved cluster node.name (some cause)
  | _ => .engine (task.step request) cluster container cause

lemma Balancer.Task.failure_names (task : Task) (cluster container : String) (request : Request)
    (cause : EngineError) :
    (task.failure cluster container request cause).cluster? = some cluster ∧
      (task.failure cluster container request cause).source? = some cause ∧
      (task.failure cluster container request cause).causes = cause.message :: cause.causes := by
  unfold failure
  split
  · split <;> exact ⟨rfl, rfl, rfl⟩
  · exact ⟨rfl, rfl, rfl⟩

namespace Balancer

variable {failure : Request → EngineError → BalancerError} {plan : Plan} {b : Balancer}
  {task : Task} {l : List Exchange}

lemma Task.failure_list (task : Task) (cluster container : String) (role : Role)
    (cause : EngineError) :
    task.failure cluster container (.list (.nodes cluster role)) cause =
      .engine (if role = .externalLoadBalancer then .discoverBalancer else .discoverNodes)
        cluster container cause :=
  congrArg (BalancerError.engine · cluster container cause) (task.step_list cluster role)

lemma blames_lookUp (plan : Plan) {spec : ClusterSpec}
    (h : ∀ cause, failure (.list (.nodes spec.name .externalLoadBalancer)) cause =
      .engine .discoverBalancer spec.name (spec.name ++ "-lb") cause) :
    (lookUp plan spec).Blames failure := by
  cases hname : spec.name.isEmpty with
  | true =>
    unfold lookUp
    rw [hname]
    exact trivial
  | false =>
    have hsearch : (search spec.name).Blames failure := by
      rw [search_eq]
      refine ⟨fun cause => ?_, fun found => ?_⟩
      · rw [h]
        rfl
      · simp only [searched]
        split <;> exact trivial
    rw [lookUp_eq hname]
    exact hsearch.bind fun _ => trivial

lemma blames_resolve {cluster : String}
    (h : ∀ node cause, failure (.address node) cause =
      .unresolved cluster node.name (some cause)) (nodes : List Container) (port : UInt16) :
    (Cluster.resolve cluster nodes port).Blames failure := by
  have heach : (Cluster.resolveEach cluster port nodes).Blames failure := by
    induction nodes with
    | nil => exact trivial
    | cons node rest ih =>
      apply (blames_ask (h node) _).bind
      intro address
      split
      · exact trivial
      · exact ih.bind fun _ => trivial
  exact heach.bind fun _ => trivial

lemma blames_document (plan : Plan) (b : Balancer) (backends : BackendSet) :
    (b.document plan backends).Blames failure := by
  unfold document
  split
  · exact (blames_tellAll _ _).bind fun _ => trivial
  · exact trivial

lemma blames_update (plan : Plan) {c : Container} (hc : b.container = some c) :
    (b.update plan).Blames (Task.update.failure b.cluster c.name) := by
  have hlist := Task.update.failure_list b.cluster c.name .controlPlane
  have hwrite : ∀ document cause,
      Task.update.failure b.cluster c.name (.writeFile c plan.renderer.path document) cause =
        .engine .writeDocument b.cluster c.name cause := fun _ _ => rfl
  have hreload : ∀ cause, Task.update.failure b.cluster c.name (.reload c) cause =
      .engine .reload b.cluster c.name cause := fun _ => rfl
  rw [update_eq_publish hc, Cluster.controlPlane, Cluster.step_nodes]
  apply Blames.bind
  · exact (blames_ask hlist _).bind fun _ => trivial
  intro nodes
  apply (blames_resolve (fun _ _ => rfl) nodes _).bind
  intro backends
  apply (blames_document plan b backends).bind
  intro document
  exact (blames_ask (hwrite document) _).bind fun _ => (blames_ask hreload _).bind fun _ => trivial

/-- Each request of a task that fails ends it with an error that names its step, the cluster and the
balancer's container, or the node that was looked up. -/
theorem blames_perform (plan : Plan) (b : Balancer) (task : Task) :
    (b.perform plan task).Blames (task.failure b.cluster b.status.container) := by
  cases hc : b.container with
  | none =>
    cases task with
    | create =>
      unfold perform create
      rw [hc]
      have hcreate : ∀ cause, Task.create.failure b.cluster b.status.container
          (.create b.launch) cause = .engine .createBalancer b.cluster b.launch.name cause := by
        intro cause
        simp only [Task.failure, Task.step, status, hc]
        rfl
      refine Blames.bind ?_ fun _ => trivial
      exact (blames_ask hcreate _).bind fun _ => trivial
    | update | address | delete =>
      unfold perform
      simp only [update, address, delete, attached, hc]
      exact trivial
    | status => exact trivial
  | some c =>
    have hname : b.status.container = c.name := by
      simp only [status, hc]
    rw [hname]
    cases task with
    | create =>
      unfold perform create
      rw [hc]
      exact trivial
    | update => exact (blames_update plan hc).bind fun _ => trivial
    | address =>
      have haddress : ∀ cause, Task.address.failure b.cluster c.name (.address c) cause =
          .engine .readAddress b.cluster c.name cause := fun _ => rfl
      unfold perform address attached
      rw [hc]
      refine Blames.bind ?_ fun _ => trivial
      apply (blames_ask haddress _).bind
      intro address
      split <;> exact trivial
    | delete =>
      have hdelete : ∀ cause, Task.delete.failure b.cluster c.name (.delete c) cause =
          .engine .deleteBalancer b.cluster c.name cause := fun _ => rfl
      unfold perform delete
      rw [hc]
      refine Blames.bind ?_ fun _ => trivial
      exact (blames_ask hdelete _).bind fun _ => trivial
    | status => exact trivial

/-- Whether a task is work on an attached container. -/
def Task.needsContainer : Task → Bool
  | .update | .address => true
  | .create | .delete | .status => false

/-- Whether the answers that a task has heard are all that it needs: values, with an address
wherever one was asked for, and a document of the backends if the task is an update. -/
structure Task.Supplied (task : Task) (plan : Plan) (l : List Exchange) : Prop where
  succeeds : ∀ x ∈ l, x.Succeeds
  rendered : task = .update →
    ∃ document, plan.renderer.render (Exchange.backends l) plan.options = .ok document

/-- Whether a task of which no request has failed has come to what it should: the error that there
is no container if it needs one that is not there, and success if it had all that it needs. -/
structure Task.Due {α : Type} (task : Task) (plan : Plan) (cluster : String)
    (container : Option Container) (l : List Exchange) (result : Except BalancerError α) :
    Prop where
  missing : task.needsContainer = true → container = none →
    result = .error (.notProvisioned cluster)
  supplied : (task.needsContainer = true → container ≠ none) → task.Supplied plan l →
    ∃ value, result = .ok value

lemma served_address {c : Container} (hc : b.container = some c)
    {result : Except BalancerError String} (h : (b.address).Served l result)
    (hsucceeds : ∀ x ∈ l, x.Succeeds) : ∃ address, result = .ok address := by
  unfold address attached at h
  rw [hc] at h
  obtain ⟨address, l', rfl, h'⟩ := served_ask_bind h
  have hne : address ≠ "" := hsucceeds _ List.mem_cons_self
  rw [if_neg (by simpa using hne)] at h'
  cases h'
  exact ⟨address, rfl⟩

lemma served_create {result : Except BalancerError Balancer} (h : (b.create).Served l result) :
    ∃ b', result = .ok b' := by
  unfold create at h
  split at h
  · cases h.of_report
    exact ⟨b, rfl⟩
  · obtain ⟨c, l', rfl, h'⟩ := served_ask_bind h.of_report
    cases h'.of_report
    exact ⟨_, rfl⟩

lemma served_delete {result : Except BalancerError Balancer} (h : (b.delete).Served l result) :
    ∃ b', result = .ok b' := by
  unfold delete at h
  split at h
  · cases h.of_report
    exact ⟨b, rfl⟩
  · obtain ⟨_, l', rfl, h'⟩ := served_ask_bind h.of_report
    cases h'.of_report
    exact ⟨_, rfl⟩

/-- A task of which no request has failed comes to what it should. -/
theorem served_perform {result : Except BalancerError (Balancer × Answer)}
    (h : (b.perform plan task).Served l result) : task.Due plan b.cluster b.container l result := by
  cases task with
  | create =>
    obtain ⟨result', hcreate, rfl⟩ := Served.of_bind_done h
    obtain ⟨b', rfl⟩ := served_create hcreate
    exact ⟨nofun, fun _ _ => ⟨_, rfl⟩⟩
  | delete =>
    obtain ⟨result', hdelete, rfl⟩ := Served.of_bind_done h
    obtain ⟨b', rfl⟩ := served_delete hdelete
    exact ⟨nofun, fun _ _ => ⟨_, rfl⟩⟩
  | status =>
    cases h
    exact ⟨nofun, fun _ _ => ⟨_, rfl⟩⟩
  | update =>
    obtain ⟨result', hupdate, rfl⟩ := Served.of_bind_done h
    refine ⟨fun _ hnone => ?_, fun hattached hsupplied => ?_⟩
    · simp only [update, attached, hnone] at hupdate
      cases hupdate
      rfl
    · obtain ⟨c, hc⟩ := Option.ne_none_iff_exists'.1 (hattached rfl)
      obtain ⟨document, hdocument⟩ := hsupplied.rendered rfl
      rw [served_update hc hupdate hsupplied.succeeds hdocument]
      exact ⟨_, rfl⟩
  | address =>
    obtain ⟨result', haddress, rfl⟩ := Served.of_bind_done h
    refine ⟨fun _ hnone => ?_, fun hattached hsupplied => ?_⟩
    · simp only [address, attached, hnone] at haddress
      cases haddress
      rfl
    · obtain ⟨c, hc⟩ := Option.ne_none_iff_exists'.1 (hattached rfl)
      obtain ⟨address, rfl⟩ := served_address hc haddress hsupplied.succeeds
      exact ⟨_, rfl⟩

end Balancer

/-- How a transcript accounts for the end of its run. A request that has failed is the last one, all
before it were served, and the end is its error. If all requests were served by an engine that the
cancellation has left time, the run has come to a result that is `Due`. -/
structure Accounts (c : Cancellation) (failure : Request → EngineError → ε)
    (Due : Except ε α → Prop) (l : List Exchange) (e : Ending ε α) : Prop where
  failed : ∀ x ∈ l, ∀ cause, x.heard = some (.error cause) →
    (∃ before, l = before ++ [x] ∧ ∀ y ∈ before, ∃ a, y.heard = some (.ok a)) ∧
      e = .finished (.error (failure x.request cause))
  served : c.firedBefore l.length = false → (∀ x ∈ l, ∃ a, x.heard = some (.ok a)) →
    ∃ result, e = .finished result ∧ Due result

lemma Procedure.Blames.accounts {failure : Request → EngineError → ε} {proc : Procedure ε α}
    (h : proc.Blames failure) (engine : Engine σ) (c : Cancellation) (s : σ)
    {Due : List Exchange → Except ε α → Prop}
    (hdue : ∀ l result, proc.Served l result → Due l result) :
    let l := proc.transcript engine c { engine := s }
    Accounts c failure (Due l) l (proc.run engine c { engine := s }).2 := by
  refine ⟨fun x hx cause hfailed => ?_, fun hquiet hheard => ?_⟩
  · exact (talk_run engine c proc { engine := s }).failed_last h hx hfailed
  · have hquiet' : c.firedBefore (([] : List Request).length +
        (proc.transcript engine c { engine := s }).length) = false := by simpa using hquiet
    obtain ⟨result, hend, hserved⟩ := served_run engine c proc { engine := s } hquiet' hheard
    exact ⟨result, hend, hdue _ _ hserved⟩

/-- Whether a look-up whose requests were all served has come to what it should: it fails without a
request if the cluster has no name, and else it finds a balancer. -/
structure ClusterSpec.Due (spec : ClusterSpec) (l : List Exchange)
    (result : Except BalancerError Balancer) : Prop where
  unnamed : spec.name = "" → l = [] ∧ result = .error .unnamedCluster
  named : spec.name ≠ "" → ∃ b, result = .ok b ∧ b.cluster = spec.name

lemma Balancer.lookUp_due {plan : Plan} {spec : ClusterSpec} (l : List Exchange)
    (result : Except BalancerError Balancer) (h : (Balancer.lookUp plan spec).Served l result) :
    spec.Due l result := by
  rcases Balancer.served_lookUp h with ⟨hname, rfl, rfl⟩ | ⟨hname, found, b, -, rfl, hcluster⟩
  · exact ⟨fun _ => ⟨rfl, rfl⟩, fun hne => (hne hname).elim⟩
  · exact ⟨fun hempty => (hname hempty).elim, fun _ => ⟨b, rfl, hcluster⟩⟩

/-! ### The tasks of a fleet -/

namespace Fleet

variable {engine : Engine σ} {c : Cancellation} {fleet : Fleet} {spec : ClusterSpec}
  {task : Balancer.Task} {s : σ} {b : Balancer} {p : Progress σ} {first : List Exchange}

/-- The name of a cluster's container: that of the attached one, or the one that a new one gets. -/
def containerName (fleet : Fleet) (cluster : String) : String :=
  match fleet.balancer? cluster with
  | some b => b.status.container
  | none => cluster ++ "-lb"

/-- Where a balancer begins with the task of a fleet, once it is looked up. -/
def begun (fleet : Fleet) (spec : ClusterSpec) (b : Balancer) (p : Progress σ) : Progress σ :=
  p.tellAll (b.imageEvents (spec.resolveImage fleet.plan.image))

@[simp] lemma made_begun (fleet : Fleet) (spec : ClusterSpec) (b : Balancer) (p : Progress σ) :
    (fleet.begun spec b p).made = p.made := rfl

/-- What a balancer asks and hears for the task of a fleet. -/
def worked (engine : Engine σ) (c : Cancellation) (fleet : Fleet) (spec : ClusterSpec)
    (task : Balancer.Task) (b : Balancer) (p : Progress σ) : List Exchange :=
  ((fleet.ready spec b).perform fleet.plan task).transcript engine c (fleet.begun spec b p)

/-- What the task of a fleet asks and hears, the look-up included if there is one. -/
def transcript (engine : Engine σ) (c : Cancellation) (spec : ClusterSpec) (task : Balancer.Task)
    (fleet : Fleet) (s : σ) : List Exchange :=
  let start : Progress σ := { engine := s }
  let look := Balancer.lookUp fleet.plan spec
  match fleet.balancer? spec.name, look.run engine c start with
  | some b, _ => fleet.worked engine c spec task b start
  | none, (p, .finished (.ok b)) =>
    look.transcript engine c start ++ fleet.worked engine c spec task b p
  | none, _ => look.transcript engine c start

/-- The balancer that is to do a task, with what has been done and heard before it begins. -/
inductive Prepared (engine : Engine σ) (c : Cancellation) (fleet : Fleet) (spec : ClusterSpec)
    (s : σ) : Balancer → Progress σ → List Exchange → Prop
  | kept {b : Balancer} (hb : fleet.balancer? spec.name = some b) :
    Prepared engine c fleet spec s b { engine := s } []
  | found {b : Balancer} {p : Progress σ} (hb : fleet.balancer? spec.name = none)
    (hrun : (Balancer.lookUp fleet.plan spec).run engine c { engine := s } =
      (p, .finished (.ok b))) :
    Prepared engine c fleet spec s b p
      ((Balancer.lookUp fleet.plan spec).transcript engine c { engine := s })

lemma perform_transcript (engine : Engine σ) (c : Cancellation) (fleet : Fleet)
    (spec : ClusterSpec) (task : Balancer.Task) (s : σ) :
    (∃ b p first, Prepared engine c fleet spec s b p first ∧
      fleet.transcript engine c spec task s = first ++ fleet.worked engine c spec task b p ∧
      let run := ((fleet.ready spec b).perform fleet.plan task).run engine c
        (fleet.begun spec b p)
      fleet.perform engine c spec task s =
        (fleet.keep spec.name (kept (fleet.ready spec b) run.2), run.1, run.2.map (·.2))) ∨
    ∃ p e, fleet.balancer? spec.name = none ∧ e.Fails ∧
      (Balancer.lookUp fleet.plan spec).run engine c { engine := s } = (p, e) ∧
      fleet.transcript engine c spec task s =
        (Balancer.lookUp fleet.plan spec).transcript engine c { engine := s } ∧
      fleet.perform engine c spec task s = (fleet.track spec.name, p, e.map fun _ => .done) := by
  have hserve : ∀ b p, (fleet.track spec.name).serve engine c spec task b p =
      let run := ((fleet.ready spec b).perform fleet.plan task).run engine c
        (fleet.begun spec b p)
      (fleet.keep spec.name (kept (fleet.ready spec b) run.2), run.1, run.2.map (·.2)) := by
    intro b p
    rw [serve_eq, plan_track]
    dsimp only
    rw [keep_track]
    rfl
  cases hb : fleet.balancer? spec.name with
  | some b =>
    refine .inl ⟨b, _, [], .kept hb, ?_, ?_⟩
    · rw [transcript]
      simp only [hb]
      rfl
    · rw [perform_of_balancer? hb, hserve]
  | none =>
    obtain ⟨⟨p, e⟩, hrun⟩ : ∃ run, (Balancer.lookUp fleet.plan spec).run engine c
        { engine := s } = run := ⟨_, rfl⟩
    by_cases hfails : e.Fails
    · refine .inr ⟨p, e, rfl, hfails, hrun, ?_, perform_of_lookUp hb task hfails hrun⟩
      rw [transcript]
      simp only [hb, hrun]
      rcases e with (err | b) | ifCancelled
      · rfl
      · exact (hfails b rfl).elim
      · rfl
    · rcases e with (err | b) | ifCancelled
      · exact (hfails (fails_error err)).elim
      · refine .inl ⟨b, p, _, .found hb hrun, ?_, ?_⟩
        · rw [transcript]
          simp only [hb, hrun]
        · rw [perform_of_none hb, hrun]
          exact hserve b p
      · exact (hfails (fails_blocked ifCancelled)).elim

/-- What is heard before a balancer begins is all served and tells of no backends, and the balancer
is one of the cluster. -/
lemma Prepared.facts (hprepared : Prepared engine c fleet spec s b p first)
    (hnamed : fleet.Named) :
    b.cluster = spec.name ∧ p.made = first.map (·.request) ∧
      (∀ x ∈ first, ∃ a, x.heard = some (.ok a)) ∧
      first.filterMap Exchange.backend? = [] ∧
      (fleet.balancer? spec.name = none → spec.name ≠ "") := by
  cases hprepared with
  | kept hb =>
    refine ⟨hnamed _ b hb, rfl, nofun, rfl, fun hnone => ?_⟩
    rw [hb] at hnone
    cases hnone
  | found hb hrun =>
    have htalk := talk_run engine c (Balancer.lookUp fleet.plan spec) { engine := s }
    have hmade := made_run engine c (Balancer.lookUp fleet.plan spec) { engine := s }
    rw [hrun] at htalk hmade
    have hserved := htalk.served (Balancer.blames_lookUp fleet.plan fun cause =>
      Balancer.Task.create.failure_list spec.name (spec.name ++ "-lb") .externalLoadBalancer
        cause) rfl
    have hheard := hserved.heard
    rcases Balancer.served_lookUp hserved with ⟨-, -, hend⟩ | ⟨hname, found, b', hfirst, hend, -⟩
    · cases hend
    · refine ⟨cluster_of_lookUp hrun, ?_, hheard, ?_, fun _ => hname⟩
      · simpa using hmade
      · rw [hfirst]
        rfl

lemma kept_of_needsContainer (h : task.needsContainer = true) (plan : Plan) (b : Balancer)
    (engine : Engine σ) (c : Cancellation) (p : Progress σ) :
    kept b ((b.perform plan task).run engine c p).2 = b := by
  cases task with
  | update =>
    have hperform : b.perform plan .update = (b.update plan).bind fun rollout =>
      done (.ok (b, .rollout rollout)) := rfl
    rw [hperform, run_bind_done, kept_map]
  | address =>
    have hperform : b.perform plan .address = (b.address).bind fun address =>
      done (.ok (b, .address address)) := rfl
    rw [hperform, run_bind_done, kept_map]
  | create | delete | status => cases h

/-- Whether the task of a fleet of which no request has failed has come to what it should: it fails
without a request if it would have to look up the cluster without a name, and else it comes to what
is due for the balancer that the fleet is left with. -/
structure Due (fleet : Fleet) (spec : ClusterSpec) (task : Balancer.Task) (fleet' : Fleet)
    (l : List Exchange) (result : Except BalancerError Balancer.Answer) : Prop where
  unnamed : fleet.balancer? spec.name = none → spec.name = "" →
    l = [] ∧ result = .error .unnamedCluster
  named : (fleet.balancer? spec.name = none → spec.name ≠ "") →
    task.Due fleet.plan spec.name ((fleet'.balancer? spec.name).bind (·.container)) l result

lemma containerName_keep (fleet : Fleet) (cluster : String) (b : Balancer) :
    (fleet.keep cluster b).containerName cluster = b.status.container := by
  unfold containerName
  rw [balancer?_keep, if_pos rfl]

lemma accounts_of_prepared (hprepared : Prepared engine c fleet spec s b p first)
    (hnamed : fleet.Named) (task : Balancer.Task) :
    let l := first ++ fleet.worked engine c spec task b p
    let e := (((fleet.ready spec b).perform fleet.plan task).run engine c
      (fleet.begun spec b p)).2
    let fleet' := fleet.keep spec.name (kept (fleet.ready spec b) e)
    Accounts c (task.failure spec.name (fleet'.containerName spec.name))
      (fleet.Due spec task fleet' l) l (e.map (·.2)) := by
  intro l e fleet'
  obtain ⟨hcluster, hmade, hheard, hnone, hname⟩ := hprepared.facts hnamed
  have hready : (fleet.ready spec b).cluster = spec.name := (cluster_withImage b _).trans hcluster
  refine ⟨fun x hx cause hfailed => ?_, fun hquiet hall => ?_⟩
  · have htalk := talk_run engine c ((fleet.ready spec b).perform fleet.plan task)
      (fleet.begun spec b p)
    have hblames := Balancer.blames_perform fleet.plan (fleet.ready spec b) task
    rw [hready] at hblames
    rcases List.mem_append.1 hx with hx | hx
    · obtain ⟨a, ha⟩ := hheard x hx
      rw [ha] at hfailed
      cases hfailed
    · obtain ⟨⟨before, hbefore, hserved⟩, hend⟩ := htalk.failed_last hblames hx hfailed
      have hcontainer : fleet'.containerName spec.name = (fleet.ready spec b).status.container := by
        have hkept : kept (fleet.ready spec b) e = fleet.ready spec b := by
          rw [show e = _ from hend]
          rfl
        rw [containerName_keep, hkept]
      refine ⟨⟨first ++ before, ?_, fun y hy => ?_⟩, ?_⟩
      · rw [List.append_assoc, ← hbefore]
        rfl
      · rcases List.mem_append.1 hy with hy | hy
        · exact hheard y hy
        · exact hserved y hy
      · rw [show e = _ from hend, hcontainer]
        rfl
  · have hquiet' : c.firedBefore ((fleet.begun spec b p).made.length +
        (fleet.worked engine c spec task b p).length) = false := by
      rw [made_begun, hmade, List.length_map, ← List.length_append]
      exact hquiet
    obtain ⟨result, hend, hserved⟩ := served_run engine c
      ((fleet.ready spec b).perform fleet.plan task) (fleet.begun spec b p) hquiet'
      fun x hx => hall x (List.mem_append_right _ hx)
    obtain ⟨hmissing, hsupplied⟩ := Balancer.served_perform hserved
    have hattached : task.needsContainer = true →
        (fleet'.balancer? spec.name).bind (·.container) = (fleet.ready spec b).container := by
      intro hneeds
      rw [balancer?_keep, if_pos rfl, kept_of_needsContainer hneeds]
      rfl
    refine ⟨result.map (·.2), by rw [show e = _ from hend]; rfl,
      fun hb hempty => (hname hb hempty).elim,
      fun _ => ⟨fun hneeds hnot => ?_, fun hthere hall' => ?_⟩⟩
    · rw [hmissing hneeds ((hattached hneeds).symm.trans hnot), hready]
      rfl
    · have hworked : task.Supplied fleet.plan (fleet.worked engine c spec task b p) := by
        refine ⟨fun x hx => hall'.succeeds x (List.mem_append_right _ hx), fun htask => ?_⟩
        have hbackends : Exchange.backends l =
            Exchange.backends (fleet.worked engine c spec task b p) := by
          rw [Exchange.backends, List.filterMap_append, hnone]
          rfl
        rw [← hbackends]
        exact hall'.rendered htask
      obtain ⟨value, rfl⟩ := hsupplied
        (fun hneeds hnot => hthere hneeds ((hattached hneeds).trans hnot)) hworked
      exact ⟨value.2, rfl⟩

/-- The task of a fleet is accounted for by what it asks and hears, the look-up included. -/
theorem accounts_perform (hnamed : fleet.Named) (engine : Engine σ) (c : Cancellation)
    (spec : ClusterSpec) (task : Balancer.Task) (s : σ) :
    let l := fleet.transcript engine c spec task s
    let run := fleet.perform engine c spec task s
    Accounts c (task.failure spec.name (run.1.containerName spec.name))
      (fleet.Due spec task run.1 l) l run.2.2 := by
  intro l run
  rcases perform_transcript engine c fleet spec task s with
    ⟨b, p, first, hprepared, hl, hrun⟩ | ⟨p, e, hb, hfails, hlook, hl, hrun⟩
  · have haccounts := accounts_of_prepared hprepared hnamed task
    rw [← hl] at haccounts
    rw [show run = _ from hrun]
    exact haccounts
  · have hcontainer : (fleet.track spec.name).containerName spec.name = spec.name ++ "-lb" := by
      unfold containerName
      rw [balancer?_track, hb]
    have hblames := Balancer.blames_lookUp fleet.plan fun cause =>
      task.failure_list spec.name (spec.name ++ "-lb") .externalLoadBalancer cause
    obtain ⟨hfailed, hserved⟩ := hblames.accounts engine c s Balancer.lookUp_due
    rw [hlook] at hfailed hserved
    rw [show run = _ from hrun, show l = _ from hl, hcontainer]
    refine ⟨fun x hx cause hcause => ?_, fun hquiet hall => ?_⟩
    · obtain ⟨hbefore, hend⟩ := hfailed x hx cause hcause
      refine ⟨hbefore, ?_⟩
      dsimp only at hend ⊢
      rw [hend]
      rfl
    · obtain ⟨result, hend, hdue⟩ := hserved hquiet hall
      dsimp only at hend ⊢
      by_cases hname : spec.name = ""
      · obtain ⟨hnil, rfl⟩ := hdue.unnamed hname
        exact ⟨_, by rw [hend]; rfl, fun _ _ => ⟨hnil, rfl⟩, fun h => (h hb hname).elim⟩
      · obtain ⟨b, rfl, -⟩ := hdue.named hname
        exact (hfails b hend).elim

end Fleet

/-- On an inventory every request is heard an answer to, unless its operation is stalled or the
cancellation fires. -/
lemma Procedure.answered_run (c : Cancellation) (proc : Procedure ε α) (p : Progress Inventory)
    (hstalled : ∀ x ∈ proc.transcript Inventory.engine c p,
      x.request.call.operation ∉ p.engine.stalled)
    (hquiet : c.firedBefore
      (p.made.length + (proc.transcript Inventory.engine c p).length) = false) :
    ∀ x ∈ proc.transcript Inventory.engine c p, x.heard ≠ none := by
  induction proc generalizing p with
  | done result => exact nofun
  | report event rest ih => exact ih (p.tell event) hstalled hquiet
  | call request ifCancelled next ih =>
    rcases call_cases Inventory.engine c request ifCancelled next p with
      ⟨-, hlist, -⟩ | ⟨hwhy, hlist, -⟩ | ⟨x, -, hlist, -⟩
    · rw [hlist]
      exact nofun
    · rw [hlist] at hstalled hquiet
      have hopen : request.call.operation ∉ p.engine.stalled := hstalled _ List.mem_cons_self
      have hanswer : (Inventory.engine.serve request p.engine).answer ≠ none := by
        change (Inventory.serve request p.engine).answer ≠ none
        unfold Inventory.serve
        rw [if_neg hopen]
        dsimp only
        split <;> exact nofun
      exfalso
      rcases hwhy with hduring | hnone
      · rcases Cancellation.cases_of_firesDuring hduring with rfl | ⟨-, hnone⟩
        · simp [Cancellation.firedBefore] at hquiet
        · exact hanswer (Option.isNone_iff_eq_none.1 hnone)
      · exact hanswer hnone
    · rw [hlist] at hstalled hquiet ⊢
      have hsame : (Inventory.engine.serve request p.engine).state.stalled = p.engine.stalled :=
        (Inventory.serve_follows request p.engine).stalled
      intro y hy
      rcases List.mem_cons.1 hy with rfl | hy
      · exact Option.some_ne_none _
      · refine ih x (p.after request (Inventory.engine.serve request p.engine))
          (fun z hz => ?_) ?_ y hy
        · change _ ∉ (Inventory.engine.serve request p.engine).state.stalled
          rw [hsame]
          exact hstalled z (List.mem_cons_of_mem _ hz)
        · simpa [Progress.after, Nat.add_assoc, Nat.add_comm 1] using hquiet

/-- Whether a transcript is what an inventory has recorded of some work, and every request in it was
answered unless its operation is stalled or the cancellation has fired. -/
structure Inventory.Recorded (inv : Inventory) (c : Cancellation) (l : List Exchange)
    (q : Progress Inventory) : Prop where
  calls : q.engine.calls = inv.calls ++ l.map (·.request.call)
  answered : (∀ x ∈ l, x.request.call.operation ∉ inv.stalled) → c.firedBefore l.length = false →
    ∀ x ∈ l, x.heard ≠ none

lemma Inventory.follows_run (inv : Inventory) (c : Cancellation) (proc : Procedure ε α) :
    let run := proc.run Inventory.engine c { engine := inv }
    inv.Follows run.1.made run.1.engine := by
  have hserve : ∀ request inv' made, Terms.free.asks request → inv.Follows made inv' →
      inv.Follows (made ++ [request]) (Inventory.engine.serve request inv').state ∧
        Terms.free.Met (Inventory.engine.serve request inv') :=
    fun request inv' made _ hmade =>
      ⟨hmade.append (inv'.serve_follows request), Terms.met_free _⟩
  exact outcome_keeps (I := fun inv' made => inv.Follows made inv') (keepsTo_free proc) hserve
    inv.follows_nil

lemma Inventory.recorded_run (inv : Inventory) (c : Cancellation) (proc : Procedure ε α) :
    inv.Recorded c (proc.transcript Inventory.engine c { engine := inv })
      (proc.run Inventory.engine c { engine := inv }).1 := by
  refine ⟨?_, fun hstalled hquiet => ?_⟩
  · rw [(inv.follows_run c proc).calls, made_run, List.nil_append, List.map_map]
    rfl
  · exact answered_run c proc { engine := inv } hstalled (by simpa using hquiet)

lemma Inventory.recorded_perform (inv : Inventory) (c : Cancellation) {fleet : Fleet}
    (hnamed : fleet.Named) (spec : ClusterSpec) (task : Balancer.Task) :
    inv.Recorded c (fleet.transcript Inventory.engine c spec task inv)
      (fleet.perform Inventory.engine c spec task inv).2.1 := by
  have hfollows : inv.Follows (fleet.perform Inventory.engine c spec task inv).2.1.made
      (fleet.perform Inventory.engine c spec task inv).2.1.engine := Fleet.perform_follows rfl
  rcases Fleet.perform_transcript Inventory.engine c fleet spec task inv with
    ⟨b, p, first, hprepared, hl, hrun⟩ | ⟨p, e, -, -, hlook, hl, hrun⟩
  · obtain ⟨-, hmade, hheard, -⟩ := hprepared.facts hnamed
    refine ⟨?_, fun hstalled hquiet x hx => ?_⟩
    · rw [hfollows.calls, hrun, hl]
      dsimp only
      rw [made_run, Fleet.made_begun, hmade, ← List.map_append, List.map_map]
      rfl
    · have hsame : p.engine.stalled = inv.stalled := by
        cases hprepared with
        | kept => rfl
        | found hb hlook =>
          have hstays := (inv.follows_run c (Balancer.lookUp fleet.plan spec)).stalled
          rw [hlook] at hstays
          exact hstays
      rw [hl] at hstalled hquiet hx
      rcases List.mem_append.1 hx with hx | hx
      · obtain ⟨a, ha⟩ := hheard x hx
        rw [ha]
        exact nofun
      · refine answered_run c ((fleet.ready spec b).perform fleet.plan task)
          (fleet.begun spec b p) (fun y hy => ?_) ?_ x hx
        · change _ ∉ p.engine.stalled
          rw [hsame]
          exact hstalled y (List.mem_append_right _ hy)
        · rw [Fleet.made_begun, hmade, List.length_map]
          rw [List.length_append] at hquiet
          exact hquiet
  · have hrecorded := inv.recorded_run c (Balancer.lookUp fleet.plan spec)
    rw [hlook] at hrecorded
    rw [hl, hrun]
    exact hrecorded

/-- Whether the error of a failed request names the cluster and holds what the engine said. -/
def Names (cluster : String) (failure : Request → EngineError → BalancerError) : Prop :=
  ∀ request cause, (failure request cause).cluster? = some cluster ∧
    (failure request cause).source? = some cause

/-- No failed request is passed over, and every error tells of the one that failed. The calls that
an inventory records are those of the transcript, and all are answered unless they are stalled or
cancelled. If one has failed, it is the last, and the error holds what the engine said and names the
cluster and the step with the container of the balancer, or the node. If none has failed, the task
succeeds as soon as it has an address for each look-up and, in an update, a document of the
backends; or it needs a container that is not there; or the cluster has no name, and then nothing
was requested. This holds of look-ups, of the tasks of balancers and of the tasks of fleets. -/
theorem failed_requests_told (inv : Inventory) (c : Cancellation) :
    (∀ plan (spec : ClusterSpec),
      let l := (Balancer.lookUp plan spec).transcript Inventory.engine c { engine := inv }
      let run := (Balancer.lookUp plan spec).run Inventory.engine c { engine := inv }
      inv.Recorded c l run.1 ∧
      Accounts c (fun _ => .engine .discoverBalancer spec.name (spec.name ++ "-lb"))
        (spec.Due l) l run.2) ∧
    (∀ plan (b : Balancer) task,
      let l := (b.perform plan task).transcript Inventory.engine c { engine := inv }
      let run := (b.perform plan task).run Inventory.engine c { engine := inv }
      inv.Recorded c l run.1 ∧
      Accounts c (task.failure b.cluster b.status.container)
        (task.Due plan b.cluster b.container l) l run.2) ∧
    (∀ (fleet : Fleet) (spec : ClusterSpec) task, fleet.Named →
      let l := fleet.transcript Inventory.engine c spec task inv
      let run := fleet.perform Inventory.engine c spec task inv
      inv.Recorded c l run.2.1 ∧
      Accounts c (task.failure spec.name (run.1.containerName spec.name))
        (fleet.Due spec task run.1 l) l run.2.2) ∧
    ∀ (task : Balancer.Task) cluster container,
      Names cluster (task.failure cluster container) ∧
      ∀ node cause, task ≠ .address → task.failure cluster container (.address node) cause =
        .unresolved cluster node.name (some cause) := by
  refine ⟨fun plan spec => ⟨inv.recorded_run c _, ?_⟩, fun plan b task =>
    ⟨inv.recorded_run c _, ?_⟩, fun fleet spec task hnamed =>
    ⟨inv.recorded_perform c hnamed spec task, ?_⟩, fun task cluster container =>
    ⟨fun request cause => ?_, fun node cause hother => ?_⟩⟩
  · exact (Balancer.blames_lookUp plan fun _ => rfl).accounts Inventory.engine c inv
      Balancer.lookUp_due
  · exact (Balancer.blames_perform plan b task).accounts Inventory.engine c inv
      fun _ _ => Balancer.served_perform
  · exact Fleet.accounts_perform hnamed Inventory.engine c spec task inv
  · obtain ⟨hcluster, hsource, -⟩ := task.failure_names cluster container request cause
    exact ⟨hcluster, hsource⟩
  · exact if_neg hother

/-- A cluster with two nodes. -/
def pairInventory : Inventory :=
  ((({} : Inventory).add (.node "demo-lb" "demo" .externalLoadBalancer) "172.18.0.9").add
    (.node "demo-cp1" "demo" .controlPlane) "172.18.0.2").add
      (.node "demo-cp2" "demo" .controlPlane) "172.18.0.3"

/-- An update of two nodes succeeds, and one that cannot look up the second tells so. -/
theorem failed_look_up_told :
    let fleet : Fleet := {}
    let spec : ClusterSpec := { name := "demo" }
    let node := Container.node "demo-cp2" "demo" .controlPlane
    let faulty := pairInventory.failAddress "demo-cp2" "unreachable"
    let l := fleet.transcript Inventory.engine .never spec .update faulty
    let run := fleet.perform Inventory.engine .never spec .update faulty
    let whole := fleet.transcript Inventory.engine .never spec .update pairInventory
    fleet.Named ∧ l.length = 4 ∧
      (∃ before, l = before ++ [⟨.address node, some (.error (.failed "unreachable"))⟩]) ∧
      run.2.2 = .finished (.error (.unresolved "demo" "demo-cp2" (some (.failed "unreachable")))) ∧
      whole.length = 6 ∧
      ∃ answer, (fleet.perform Inventory.engine .never spec .update pairInventory).2.2 =
        .finished (.ok answer) := by
  intro fleet spec node faulty l run whole
  have hnamed : fleet.Named := nofun
  have hlast : ⟨.address node, some (.error (.failed "unreachable"))⟩ ∈ l := by decide +kernel
  obtain ⟨-, -, hfaulty, -⟩ := failed_requests_told faulty .never
  obtain ⟨⟨before, hbefore, -⟩, hend⟩ :=
    (hfaulty fleet spec .update hnamed).2.failed _ hlast (.failed "unreachable") rfl
  obtain ⟨-, -, hpair, -⟩ := failed_requests_told pairInventory .never
  obtain ⟨hrecorded, haccounts⟩ := hpair fleet spec .update hnamed
  have hsucceeds : ∀ x ∈ whole, x.Succeeds := by decide +kernel
  have hdocument : ∃ document,
      fleet.plan.renderer.render (Exchange.backends whole) fleet.plan.options = .ok document := by
    have hok : (fleet.plan.renderer.render (Exchange.backends whole)
        fleet.plan.options).isOk = true := by decide +kernel
    cases hrender : fleet.plan.renderer.render (Exchange.backends whole) fleet.plan.options with
    | ok document => exact ⟨document, rfl⟩
    | error e =>
      rw [hrender] at hok
      cases hok
  obtain ⟨result, hresult, hdue⟩ := haccounts.served rfl fun x hx => (hsucceeds x hx).heard
  have hthere : ((fleet.perform Inventory.engine .never spec .update pairInventory).1.balancer?
      spec.name).bind (·.container) ≠ none := by decide +kernel
  obtain ⟨answer, rfl⟩ := (hdue.named fun _ => by decide).supplied (fun _ => hthere)
    ⟨hsucceeds, fun _ => hdocument⟩
  exact ⟨hnamed, by decide +kernel, ⟨before, hbefore⟩, hend, by decide +kernel, answer, hresult⟩

end ApiBalancer
