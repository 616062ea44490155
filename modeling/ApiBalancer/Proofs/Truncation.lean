import ApiBalancer.Proofs.FleetOutcome
import ApiBalancer.Proofs.UpdateScript

/-!
# Work cut short

A cancellation stops work at one of its requests and does nothing else to it: what is requested is
a first part of what would have been, and the error names the cluster and the step of the request
at which the work was stopped. `cancellation_truncates` says so of every operation of a balancer and
of a fleet, on every engine.
-/

namespace ApiBalancer

open Procedure

variable {σ ε α β : Type}

/-- Where work is stopped that makes one request after another. -/
inductive Stop where
  /-- Before the request that follows `n` others is made. -/
  | ahead (n : Nat)
  /-- While the request that follows `n` others is under way. -/
  | amid (n : Nat)

namespace Stop

/-- The number of requests before the one at which the work is stopped. -/
def index : Stop → Nat
  | ahead n | amid n => n

/-- The number of requests that are made. -/
def issued : Stop → Nat
  | ahead n => n
  | amid n => n + 1

end Stop

/-- Whether a run does not end. -/
def Ending.isBlocked : Ending ε α → Bool
  | .finished _ => false
  | .blocked _ => true

namespace Cancellation

variable {c : Cancellation} {m m' : Nat} {blocked blocked' : Bool} {stop : Stop}

/-- Where a cancellation stops work that would make `requests` requests, the last without an answer
if `blocked`. -/
def stop? (requests : Nat) (blocked : Bool) : Cancellation → Option Stop
  | never => none
  | before n => if n < requests then some (.ahead n) else none
  | during n => if n < requests then some (.amid n) else none
  | whenBlocked => if blocked then some (.amid (requests - 1)) else none

/-- Whether a cancellation can still stop work that has made `m` requests. -/
def Ahead (m : Nat) : Cancellation → Prop
  | before n | during n => m ≤ n
  | never | whenBlocked => True

lemma ahead_zero (c : Cancellation) : c.Ahead 0 := by
  cases c <;> simp [Ahead]

lemma Ahead.eq_before (h : c.Ahead m) (hfired : c.firedBefore m = true) : c = before m := by
  cases c with
  | before n =>
    simp only [Ahead, firedBefore, decide_eq_true_eq] at h hfired
    rw [Nat.le_antisymm hfired h]
  | during n =>
    simp only [Ahead, firedBefore, decide_eq_true_eq] at h hfired
    omega
  | never | whenBlocked => cases hfired

lemma cases_of_firesDuring (hduring : c.firesDuring m blocked = true) :
    c = during m ∨ c = whenBlocked ∧ blocked = true := by
  cases c with
  | during n =>
    simp only [firesDuring, beq_iff_eq] at hduring
    exact .inl (congrArg during hduring)
  | whenBlocked => exact .inr ⟨rfl, hduring⟩
  | never | before n => cases hduring

lemma Ahead.next (h : c.Ahead m) (hfired : ¬c.firedBefore m = true)
    (hduring : ¬c.firesDuring m blocked = true) : c.Ahead (m + 1) := by
  cases c with
  | before n =>
    simp only [Ahead, firedBefore, decide_eq_true_eq] at h hfired ⊢
    omega
  | during n =>
    simp only [Ahead, firesDuring, beq_iff_eq] at h hduring ⊢
    omega
  | never | whenBlocked => trivial

lemma Ahead.stop?_eq_none (h : c.Ahead m) (hblocked : c = whenBlocked → blocked = false) :
    c.stop? m blocked = none := by
  cases c with
  | before n | during n => exact if_neg (Nat.not_lt.2 h)
  | never => rfl
  | whenBlocked => simp [stop?, hblocked rfl]

lemma ahead_of_stop? (h : c.stop? m blocked = none) : c.Ahead m := by
  cases c with
  | before n | during n => simpa [stop?, Ahead] using h
  | never | whenBlocked => trivial

/-- Work that is stopped where it has not been blocked is stopped there whatever would follow. -/
lemma stop?_of_le (h : c.stop? m false = some stop) (hm : m ≤ m') (blocked : Bool) :
    c.stop? m' blocked = some stop ∧ stop.index < m ∧ stop.issued ≤ m := by
  cases c with
  | before n | during n =>
    simp only [stop?, Option.ite_none_right_eq_some, Option.some.injEq] at h ⊢
    obtain ⟨hn, rfl⟩ := h
    exact ⟨⟨by omega, rfl⟩, hn, by simp only [Stop.issued]; omega⟩
  | never | whenBlocked => cases h

/-- What a cancellation makes of the run `full`, in which it does not fire: it leaves the run as it
is, or it stops it. Then the requests made are the first ones of the run, and the error is that of
the request that was not made or was given up. -/
def Cuts (c : Cancellation) (cancelled : Request → ε)
    (full cut : Progress σ × Ending ε α) : Prop :=
  match c.stop? full.1.made.length full.2.isBlocked with
  | none => cut = full
  | some stop => ∃ request, full.1.made[stop.index]? = some request ∧
      cut.1.made = full.1.made.take stop.issued ∧ cut.2 = .finished (.error (cancelled request))

variable {cancelled : Request → ε} {full cut : Progress σ × Ending ε α}

lemma cuts_self (h : c.stop? full.1.made.length full.2.isBlocked = none) :
    c.Cuts cancelled full full := by
  unfold Cuts
  rw [h]

lemma cuts_of_stop? (stop : Stop) (request : Request)
    (h : c.stop? full.1.made.length full.2.isBlocked = some stop)
    (hrequest : full.1.made[stop.index]? = some request)
    (hmade : cut.1.made = full.1.made.take stop.issued)
    (hend : cut.2 = .finished (.error (cancelled request))) : c.Cuts cancelled full cut := by
  unfold Cuts
  rw [h]
  exact ⟨request, hrequest, hmade, hend⟩

lemma Cuts.eq_of_none (h : c.Cuts cancelled full cut)
    (hstop : c.stop? full.1.made.length full.2.isBlocked = none) : cut = full := by
  unfold Cuts at h
  rwa [hstop] at h

lemma Cuts.of_some (h : c.Cuts cancelled full cut)
    (hstop : c.stop? full.1.made.length full.2.isBlocked = some stop) :
    ∃ request, full.1.made[stop.index]? = some request ∧
      cut.1.made = full.1.made.take stop.issued ∧
      cut.2 = .finished (.error (cancelled request)) := by
  unfold Cuts at h
  rwa [hstop] at h

lemma isBlocked_map (e : Ending ε α) (f : α → β) : (e.map f).isBlocked = e.isBlocked := by
  cases e <;> rfl

lemma Cuts.map (h : c.Cuts cancelled full cut) (f : α → β) :
    c.Cuts cancelled (full.1, full.2.map f) (cut.1, cut.2.map f) := by
  unfold Cuts at h ⊢
  rw [isBlocked_map]
  dsimp only
  split at h
  · rw [h]
  · obtain ⟨request, hrequest, hmade, hend⟩ := h
    exact ⟨request, hrequest, hmade, by rw [hend]; rfl⟩

end Cancellation

/-! ### Requests with their errors -/

namespace Procedure

variable {cancelled : Request → ε} {proc : Procedure ε α}

/-- Whether each request of a procedure can be cancelled, with an error that depends on the request
in the given way. -/
def CancelsWith (cancelled : Request → ε) : Procedure ε α → Prop
  | done _ => True
  | report _ rest => rest.CancelsWith cancelled
  | call request ifCancelled next =>
    ifCancelled = some (cancelled request) ∧ ∀ x, (next x).CancelsWith cancelled

lemma CancelsWith.bind (h : proc.CancelsWith cancelled) {f : α → Procedure ε β}
    (hf : ∀ a, (f a).CancelsWith cancelled) : (proc.bind f).CancelsWith cancelled := by
  induction proc with
  | done result =>
    cases result with
    | ok a => exact hf a
    | error e => exact trivial
  | report event rest ih => exact ih h
  | call request ifCancelled next ih => exact ⟨h.1, fun x => ih x (h.2 x)⟩

lemma cancelsWith_tell (cancelled : Request → ε) (event : Event) :
    (tell event : Procedure ε Unit).CancelsWith cancelled := trivial

lemma cancelsWith_tellAll (cancelled : Request → ε) (events : List Event) :
    (tellAll events : Procedure ε Unit).CancelsWith cancelled := by
  induction events with
  | nil => exact trivial
  | cons event rest ih => exact ih

lemma cancelsWith_ask {request : Request} {e : ε} (h : cancelled request = e)
    (wrap : EngineError → ε) : ((ask request).under e wrap).CancelsWith cancelled := by
  refine ⟨congrArg some h.symm, fun x => ?_⟩
  cases x <;> exact trivial

lemma made_isPrefix_run (engine : Engine σ) (c : Cancellation) (proc : Procedure ε α)
    (p : Progress σ) : p.made <+: (proc.run engine c p).1.made :=
  ⟨_, (made_run engine c proc p).symm⟩

lemma run_never_call (engine : Engine σ) (e : ε) {request : Request}
    (next : Except EngineError request.Answer → Procedure ε α) (p : Progress σ) :
    (call request (some e) next).run engine .never p =
      match (engine.serve request p.engine).answer with
      | some x => (next x).run engine .never (p.after request (engine.serve request p.engine))
      | none => (p.after request (engine.serve request p.engine), .blocked (some e)) := by
  rw [run]
  rfl

lemma made_call_isPrefix (engine : Engine σ) (e : ε) {request : Request}
    (next : Except EngineError request.Answer → Procedure ε α) (p : Progress σ) :
    p.made ++ [request] <+: ((call request (some e) next).run engine .never p).1.made := by
  rw [run_never_call]
  cases (engine.serve request p.engine).answer with
  | none => exact List.prefix_rfl
  | some x =>
    exact made_isPrefix_run engine .never (next x)
      (p.after request (engine.serve request p.engine))

variable {request : Request} {next : Except EngineError request.Answer → Procedure ε α}
  {engine : Engine σ} {c : Cancellation} {p : Progress σ}

/-- A cancellation that fires ahead of a request keeps it from being made. -/
lemma cuts_ahead (hc : c.Ahead p.made.length) (hfired : c.firedBefore p.made.length = true) :
    c.Cuts cancelled ((call request (some (cancelled request)) next).run engine .never p)
      ((call request (some (cancelled request)) next).run engine c p) := by
  have hcut : (call request (some (cancelled request)) next).run engine c p =
      (p, .finished (.error (cancelled request))) := by
    rw [run, if_pos hfired]
  obtain ⟨rest, hmade⟩ := made_call_isPrefix engine (cancelled request) next p
  rw [hcut]
  refine Cancellation.cuts_of_stop? (.ahead p.made.length) request ?_ ?_ ?_ rfl
  · rw [hc.eq_before hfired, ← hmade]
    simp [Cancellation.stop?]
  · simp [← hmade, Stop.index]
  · simp [← hmade, Stop.issued]

/-- A cancellation that fires during a request leaves it made and its answer unread. -/
lemma cuts_amid (hfired : ¬c.firedBefore p.made.length = true)
    (hduring : c.firesDuring p.made.length (engine.serve request p.engine).answer.isNone = true) :
    c.Cuts cancelled ((call request (some (cancelled request)) next).run engine .never p)
      ((call request (some (cancelled request)) next).run engine c p) := by
  have hcut : (call request (some (cancelled request)) next).run engine c p =
      (p.after request (engine.serve request p.engine),
        .finished (.error (cancelled request))) := by
    rw [run, if_neg hfired]
    exact if_pos hduring
  have hfirst := made_call_isPrefix engine (cancelled request) next p
  have hstop : c.stop? ((call request (some (cancelled request)) next).run engine .never
      p).1.made.length ((call request (some (cancelled request)) next).run engine .never
      p).2.isBlocked = some (.amid p.made.length) := by
    rcases Cancellation.cases_of_firesDuring hduring with rfl | ⟨rfl, hblocked⟩
    · have hlt := hfirst.length_le
      simp only [List.length_append, List.length_singleton] at hlt
      exact if_pos hlt
    · rw [run_never_call, Option.isNone_iff_eq_none.1 hblocked]
      simp [Cancellation.stop?, Ending.isBlocked, Progress.after]
  obtain ⟨rest, hmade⟩ := hfirst
  rw [hcut]
  refine Cancellation.cuts_of_stop? _ request hstop ?_ ?_ rfl
  · simp [← hmade, Stop.index]
  · have htake : (p.made ++ [request] ++ rest).take (p.made.length + 1) =
        p.made ++ [request] := List.take_left' (by simp)
    rw [← hmade]
    exact htake.symm

/-- A request is made as if uncancelled if the cancellation has not fired by its answer. -/
lemma run_call_of_not_fired {e : ε} (hfired : ¬c.firedBefore p.made.length = true)
    (hduring : ¬c.firesDuring p.made.length
      (engine.serve request p.engine).answer.isNone = true) :
    (call request (some e) next).run engine c p =
      match (engine.serve request p.engine).answer with
      | some x => (next x).run engine c (p.after request (engine.serve request p.engine))
      | none => (p.after request (engine.serve request p.engine), .blocked (some e)) := by
  rw [run, if_neg hfired]
  exact if_neg hduring

/-- A cancellation that has not fired yet cuts what is left of a run. -/
theorem CancelsWith.cuts (h : proc.CancelsWith cancelled) (engine : Engine σ) {c : Cancellation}
    {p : Progress σ} (hc : c.Ahead p.made.length) :
    c.Cuts cancelled (proc.run engine .never p) (proc.run engine c p) := by
  induction proc generalizing p with
  | done result => exact Cancellation.cuts_self (hc.stop?_eq_none fun _ => rfl)
  | report event rest ih => exact ih h hc
  | call request ifCancelled next ih =>
    obtain ⟨rfl, hnext⟩ := h
    by_cases hfired : c.firedBefore p.made.length = true
    · exact cuts_ahead hc hfired
    by_cases hduring :
        c.firesDuring p.made.length (engine.serve request p.engine).answer.isNone = true
    · exact cuts_amid hfired hduring
    have hnext' := hc.next hfired hduring
    rw [run_call_of_not_fired hfired hduring, run_never_call]
    cases hanswer : (engine.serve request p.engine).answer with
    | none =>
      refine Cancellation.cuts_self (Cancellation.Ahead.stop?_eq_none ?_ ?_)
      · simpa [Progress.after] using hnext'
      · rintro rfl
        rw [hanswer] at hduring
        exact (hduring rfl).elim
    | some x => exact ih x (hnext x) (by simpa [Progress.after] using hnext')

/-- Under a cancellation that has fired nothing is requested. -/
lemma CancelsWith.run_fired (h : proc.CancelsWith cancelled) (engine : Engine σ)
    (p : Progress σ) : ∃ events, (proc.run engine (.before 0) p).1 = p.tellAll events := by
  induction proc generalizing p with
  | done result => exact ⟨[], by simp [run, Progress.tellAll]⟩
  | report event rest ih =>
    obtain ⟨events, hrun⟩ := ih h (p.tell event)
    refine ⟨event :: events, ?_⟩
    rw [run, hrun]
    simp [Progress.tell, Progress.tellAll]
  | call request ifCancelled next ih =>
    obtain ⟨rfl, -⟩ := h
    refine ⟨[], ?_⟩
    rw [run, if_pos (by simp [Cancellation.firedBefore])]
    simp [Progress.tellAll]

end Procedure

/-- The role that a query asks for, if it asks for one. -/
def LabelQuery.role? (query : LabelQuery) : Option String := query.required.get? Label.role

lemma LabelQuery.role?_nodes (cluster : String) (role : Role) :
    (nodes cluster role).role? = some role.name := NameMap.get?_insert_self _ _ _

namespace Balancer

/-- The step of a task that makes a request; a look-up that is made for the task asks for the
cluster's balancer. -/
def Task.step (task : Task) : Request → Step
  | .create _ => .createBalancer
  | .list query =>
    if query.role? = some Role.externalLoadBalancer.name then .discoverBalancer
    else .discoverNodes
  | .address _ => if task = .address then .readAddress else .resolveNodes
  | .writeFile _ _ _ => .writeDocument
  | .signal _ _ | .reload _ => .reload
  | .delete _ => .deleteBalancer

/-- The error of a task that was stopped at a request. -/
def Task.cancelled (task : Task) (cluster : String) (request : Request) : BalancerError :=
  .cancelled (task.step request) cluster

lemma Task.step_list (task : Task) (cluster : String) (role : Role) :
    task.step (.list (.nodes cluster role)) =
      if role = .externalLoadBalancer then .discoverBalancer else .discoverNodes := by
  have hstep : task.step (.list (.nodes cluster role)) =
      if (LabelQuery.nodes cluster role).role? = some Role.externalLoadBalancer.name then
        .discoverBalancer else .discoverNodes := rfl
  rw [hstep, LabelQuery.role?_nodes]
  cases role <;> rfl

lemma cancelled_lookUp (task : Task) (cluster : String) :
    task.cancelled cluster (.list (.nodes cluster .externalLoadBalancer)) =
      .cancelled .discoverBalancer cluster :=
  congrArg (BalancerError.cancelled · cluster) (task.step_list cluster _)

lemma cancelled_controlPlane (task : Task) (cluster : String) :
    task.cancelled cluster (.list (.nodes cluster .controlPlane)) =
      .cancelled .discoverNodes cluster :=
  congrArg (BalancerError.cancelled · cluster) (task.step_list cluster _)

variable {cancelled : Request → BalancerError} {plan : Plan} {b : Balancer}

lemma cancelsWith_lookUp (plan : Plan) {spec : ClusterSpec}
    (h : cancelled (.list (.nodes spec.name .externalLoadBalancer)) =
      .cancelled .discoverBalancer spec.name) : (lookUp plan spec).CancelsWith cancelled := by
  cases hname : spec.name.isEmpty with
  | true =>
    unfold lookUp
    rw [hname]
    exact trivial
  | false =>
    rw [lookUp_eq hname, search_eq]
    refine ⟨congrArg some h.symm, fun x => CancelsWith.bind ?_ fun _ => trivial⟩
    cases x with
    | error e => exact trivial
    | ok found =>
      simp only [searched]
      split <;> exact trivial

lemma cancelsWith_resolve {cluster : String}
    (h : ∀ c, cancelled (.address c) = .cancelled .resolveNodes cluster)
    (nodes : List Container) (port : UInt16) :
    (Cluster.resolve cluster nodes port).CancelsWith cancelled := by
  have heach : (Cluster.resolveEach cluster port nodes).CancelsWith cancelled := by
    induction nodes with
    | nil => exact trivial
    | cons c rest ih =>
      refine (cancelsWith_ask (h c) _).bind fun address => ?_
      split
      · exact trivial
      · exact ih.bind fun _ => trivial
  exact heach.bind fun _ => trivial

lemma cancelsWith_document (plan : Plan) (b : Balancer) (backends : BackendSet) :
    (b.document plan backends).CancelsWith cancelled := by
  unfold document
  split
  · exact (cancelsWith_tellAll _ _).bind fun _ => trivial
  · exact trivial

lemma cancelsWith_update (plan : Plan) (b : Balancer) :
    (b.update plan).CancelsWith (Task.update.cancelled b.cluster) := by
  cases hc : b.container with
  | none =>
    unfold update attached
    rw [hc]
    exact trivial
  | some c =>
    rw [update_eq_publish hc, Cluster.controlPlane, Cluster.step_nodes]
    refine CancelsWith.bind ?_ fun nodes => ?_
    · exact (cancelsWith_ask (cancelled_controlPlane _ _) _).bind fun _ => trivial
    refine (cancelsWith_resolve (fun _ => rfl) nodes _).bind fun backends => ?_
    refine (cancelsWith_document plan b backends).bind fun document => ?_
    refine (cancelsWith_tell _ _).bind fun _ => ?_
    refine (cancelsWith_ask rfl _).bind fun _ => ?_
    exact (cancelsWith_ask rfl _).bind fun _ => trivial

/-- Each request of a task can be cancelled, with an error that names its step and the cluster. -/
theorem cancelsWith_perform (plan : Plan) (b : Balancer) (task : Task) :
    (b.perform plan task).CancelsWith (task.cancelled b.cluster) := by
  cases task with
  | create =>
    refine CancelsWith.bind ?_ fun _ => trivial
    unfold create
    split
    · exact trivial
    · exact (cancelsWith_tell _ _).bind fun _ => (cancelsWith_ask rfl _).bind fun _ => trivial
  | update => exact (cancelsWith_update plan b).bind fun _ => trivial
  | address =>
    refine CancelsWith.bind ?_ fun _ => trivial
    unfold address attached
    split
    · refine (cancelsWith_ask rfl _).bind fun address => ?_
      split <;> exact trivial
    · exact trivial
  | delete =>
    refine CancelsWith.bind ?_ fun _ => trivial
    unfold delete
    split
    · exact trivial
    · exact (cancelsWith_tell _ _).bind fun _ => (cancelsWith_ask rfl _).bind fun _ => trivial
  | status => exact trivial

end Balancer

end ApiBalancer
