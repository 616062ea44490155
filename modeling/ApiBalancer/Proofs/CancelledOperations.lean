import ApiBalancer.Proofs.Handles
import ApiBalancer.Proofs.Truncation

/-!
# Cancelled operations

What a cancellation makes of the operations of balancers and of fleets. It cuts each of them at one
request (`cancellation_truncates`): if it has fired from the start, nothing is requested and nobody
loses or gets a container. Operations that need no request are answered as ever.
-/

namespace ApiBalancer

open Procedure

variable {σ ε α : Type}

namespace Balancer

variable {plan : Plan} {b : Balancer} {task : Task}

/-- What comes of a task that needs no request, if it is one. -/
def immediate? (b : Balancer) : Task → Option (Except BalancerError (Balancer × Answer))
  | .create => if b.isProvisioned then some (.ok (b, .done)) else none
  | .update | .address =>
    if b.isProvisioned then none else some (.error (.notProvisioned b.cluster))
  | .delete => if b.isProvisioned then none else some (.ok (b, .done))
  | .status => some (.ok (b, .status b.status))

lemma run_immediate {result : Except BalancerError (Balancer × Answer)}
    (h : b.immediate? task = some result) (engine : Engine σ) (c : Cancellation) (plan : Plan)
    (p : Progress σ) :
    ∃ events, (b.perform plan task).run engine c p = (p.tellAll events, .finished result) := by
  have htold : ∀ p : Progress σ, p.tellAll [] = p := fun p => by simp [Progress.tellAll]
  obtain ⟨cluster, image, container⟩ := b
  cases task <;> cases container <;> cases h
  · exact ⟨[_], rfl⟩
  · exact ⟨[], by rw [htold]; rfl⟩
  · exact ⟨[], by rw [htold]; rfl⟩
  · exact ⟨[_], rfl⟩
  · exact ⟨[], by rw [htold]; rfl⟩
  · exact ⟨[], by rw [htold]; rfl⟩

lemma kept_fired (plan : Plan) (b : Balancer) (task : Task) (engine : Engine σ)
    (p : Progress σ) :
    Fleet.kept b ((b.perform plan task).run engine (.before 0) p).2 = b := by
  have hmap : ∀ {β : Type} (proc : Procedure BalancerError β) (f : β → Answer),
      Fleet.kept b ((proc.bind fun a => done (.ok (b, f a))).run engine (.before 0) p).2 = b := by
    intro β proc f
    rw [run_bind_done]
    exact Fleet.kept_map b f _
  have hfired : ∀ n, (Cancellation.before 0).firedBefore n = true := fun n => by
    simp [Cancellation.firedBefore]
  cases task with
  | update => exact hmap (b.update plan) .rollout
  | address => exact hmap b.address .address
  | status => rfl
  | create =>
    unfold perform create
    cases b.container with
    | some c => rfl
    | none => simp [Procedure.tell, step, ask, under, Procedure.bind, run, hfired, Fleet.kept]
  | delete =>
    unfold perform delete
    cases b.container with
    | none => rfl
    | some c => simp [Procedure.tell, step, ask, under, Procedure.bind, run, hfired, Fleet.kept]

end Balancer

namespace Fleet

variable {engine : Engine σ} {c : Cancellation} {spec : ClusterSpec} {task : Balancer.Task}
  {fleet : Fleet} {b : Balancer} {s : σ} {p : Progress σ}

/-- Whether the task that a fleet carries out is cut, or goes on altogether as it would. -/
def CutShort (c : Cancellation) (cancelled : Request → BalancerError)
    (full cut : Fleet × Progress σ × Ending BalancerError Balancer.Answer) : Prop :=
  c.Cuts cancelled full.2 cut.2 ∧
    (c.stop? full.2.1.made.length full.2.2.isBlocked = none → cut = full)

lemma cutShort_serve (hcluster : b.cluster = spec.name) (fleet : Fleet) (task : Balancer.Task)
    (engine : Engine σ) (hc : c.Ahead p.made.length) :
    CutShort c (task.cancelled spec.name) (fleet.serve engine .never spec task b p)
      (fleet.serve engine c spec task b p) := by
  have hready : (b.withImage (spec.resolveImage fleet.plan.image)).cluster = spec.name :=
    (cluster_withImage b _).trans hcluster
  have hworks := Balancer.cancelsWith_perform fleet.plan
    (b.withImage (spec.resolveImage fleet.plan.image)) task
  rw [hready] at hworks
  have hcuts := hworks.cuts engine (p := p.tellAll
    (b.imageEvents (spec.resolveImage fleet.plan.image))) hc
  rw [serve_eq, serve_eq]
  refine ⟨hcuts.map _, fun hstop => ?_⟩
  rw [Cancellation.isBlocked_map] at hstop
  unfold Cancellation.Cuts at hcuts
  rw [hstop] at hcuts
  dsimp only at hcuts ⊢
  rw [hcuts]

lemma perform_of_none (hb : fleet.balancer? spec.name = none) (engine : Engine σ)
    (c : Cancellation) (task : Balancer.Task) (s : σ) :
    fleet.perform engine c spec task s =
      match (Balancer.lookUp fleet.plan spec).run engine c { engine := s } with
      | (p, .finished (.ok b)) => (fleet.track spec.name).serve engine c spec task b p
      | (p, .finished (.error e)) => (fleet.track spec.name, p, .finished (.error e))
      | (p, .blocked ifCancelled) => (fleet.track spec.name, p, .blocked ifCancelled) := by
  rw [← plan_track fleet spec.name]
  unfold perform
  dsimp only
  cases hfound : (fleet.track spec.name).balancer? spec.name with
  | none => rfl
  | some b =>
    rw [balancer?_track, hb] at hfound
    cases hfound

lemma perform_of_balancer? (hb : fleet.balancer? spec.name = some b) (engine : Engine σ)
    (c : Cancellation) (task : Balancer.Task) (s : σ) :
    fleet.perform engine c spec task s =
      (fleet.track spec.name).serve engine c spec task b { engine := s } := by
  unfold perform
  dsimp only
  rw [balancer?_track, hb]

lemma cluster_of_lookUp {plan : Plan} {q : Progress σ}
    (h : (Balancer.lookUp plan spec).run engine c p = (q, .finished (.ok b))) :
    b.cluster = spec.name := by
  cases hname : spec.name.isEmpty with
  | true =>
    unfold Balancer.lookUp at h
    rw [hname] at h
    cases h
  | false =>
    rw [Balancer.lookUp_eq hname] at h
    rcases of_run_bind h with ⟨r, found, -, hdone⟩ | ⟨err, -, hend⟩ | ⟨e, -, hend⟩
    · cases hdone
      rfl
    · cases hend
    · cases hend

lemma made_isPrefix_serve (engine : Engine σ) (c : Cancellation) (spec : ClusterSpec)
    (task : Balancer.Task) (b : Balancer) (p : Progress σ) :
    p.made <+: (fleet.serve engine c spec task b p).2.1.made := by
  rw [serve_eq]
  exact made_isPrefix_run engine c _
    (p.tellAll (b.imageEvents (spec.resolveImage fleet.plan.image)))

lemma cutShort_of_prefix {cancelled : Request → BalancerError} {made : List Request} {stop : Stop}
    (hstop : c.stop? made.length false = some stop) {request : Request}
    (hrequest : made[stop.index]? = some request) {q : Progress σ}
    (hmade : q.made = made.take stop.issued)
    {full : Fleet × Progress σ × Ending BalancerError Balancer.Answer}
    (hfirst : made <+: full.2.1.made) (fleet : Fleet) :
    CutShort c cancelled full (fleet, q, .finished (.error (cancelled request))) := by
  obtain ⟨hstop', hindex, hissued⟩ :=
    Cancellation.stop?_of_le hstop hfirst.length_le full.2.2.isBlocked
  obtain ⟨rest, hrest⟩ := hfirst
  refine ⟨Cancellation.cuts_of_stop? stop request hstop' ?_ ?_ rfl, fun hnone => ?_⟩
  · rw [← hrest, List.getElem?_append_left hindex]
    exact hrequest
  · rw [← hrest, List.take_append_of_le_length hissued]
    exact hmade
  · rw [hstop'] at hnone
    cases hnone

lemma perform_of_lookUp (hb : fleet.balancer? spec.name = none) (task : Balancer.Task)
    {e : Ending BalancerError Balancer} (he : e.Fails)
    (hrun : (Balancer.lookUp fleet.plan spec).run engine c { engine := s } = (p, e)) :
    fleet.perform engine c spec task s = (fleet.track spec.name, p, e.map fun _ => .done) := by
  rw [perform_of_none hb, hrun]
  rcases e with (err | b) | ifCancelled
  · rfl
  · exact (he b rfl).elim
  · rfl

/-- A cancellation cuts the task of a fleet, together with the look-up that comes before it. -/
theorem cutShort_perform (hnamed : fleet.Named) (engine : Engine σ) (c : Cancellation)
    (spec : ClusterSpec) (task : Balancer.Task) (s : σ) :
    CutShort c (task.cancelled spec.name) (fleet.perform engine .never spec task s)
      (fleet.perform engine c spec task s) := by
  cases hb : fleet.balancer? spec.name with
  | some b =>
    rw [perform_of_balancer? hb, perform_of_balancer? hb]
    exact cutShort_serve (hnamed _ b hb) _ task engine c.ahead_zero
  | none =>
    have hlooks := Balancer.cancelsWith_lookUp fleet.plan
      (Balancer.cancelled_lookUp task spec.name)
    have hcuts := hlooks.cuts engine (p := { engine := s }) c.ahead_zero
    obtain ⟨⟨p, e⟩, hfull⟩ : ∃ full, (Balancer.lookUp fleet.plan spec).run engine .never
        { engine := s } = full := ⟨_, rfl⟩
    obtain ⟨⟨q, e'⟩, hcut⟩ : ∃ cut, (Balancer.lookUp fleet.plan spec).run engine c
        { engine := s } = cut := ⟨_, rfl⟩
    rw [hfull, hcut] at hcuts
    cases hstop : c.stop? p.made.length e.isBlocked with
    | none =>
      obtain ⟨rfl, rfl⟩ := Prod.mk.inj (hcuts.eq_of_none hstop)
      -- The look-up is not touched. Only one that finds a balancer is followed by more requests.
      by_cases hfails : e'.Fails
      · rw [perform_of_lookUp hb task hfails hfull, perform_of_lookUp hb task hfails hcut]
        exact ⟨hcuts.map _, fun _ => rfl⟩
      · rcases e' with (err | b) | ifCancelled
        · exact (hfails (fails_error err)).elim
        · rw [perform_of_none hb, perform_of_none hb, hfull, hcut]
          exact cutShort_serve (cluster_of_lookUp hfull) _ task engine
            (Cancellation.ahead_of_stop? hstop)
        · exact (hfails (fails_blocked ifCancelled)).elim
    | some stop =>
      obtain ⟨request, hrequest, hmade, rfl⟩ := hcuts.of_some hstop
      rw [perform_of_lookUp hb task (fails_error _) hcut]
      by_cases hfails : e.Fails
      · rw [perform_of_lookUp hb task hfails hfull]
        refine ⟨hcuts.map _, fun hnone => ?_⟩
        rw [Cancellation.isBlocked_map, hstop] at hnone
        cases hnone
      · rcases e with (err | b) | ifCancelled
        · exact (hfails (fails_error err)).elim
        · rw [perform_of_none hb, hfull]
          exact cutShort_of_prefix hstop hrequest hmade (made_isPrefix_serve _ _ _ task b p) _
        · exact (hfails (fails_blocked ifCancelled)).elim

/-- The containers that a fleet holds, as far as it has looked for them. -/
def handles (fleet : Fleet) (cluster : String) : Option (Option Container) :=
  (fleet.balancer? cluster).map (·.container)

/-- Whether a task has changed neither the engine nor what the fleet holds, without a request. -/
structure Idle (fleet : Fleet) (s : σ)
    (run : Fleet × Progress σ × Ending BalancerError Balancer.Answer) : Prop where
  made : run.2.1.made = []
  engine : run.2.1.engine = s
  handles : run.1.handles = fleet.handles

lemma handles_track (fleet : Fleet) (cluster : String) :
    (fleet.track cluster).handles = fleet.handles := by
  funext cluster'
  unfold handles
  rw [balancer?_track]

lemma handles_keep (hb : fleet.balancer? spec.name = some b) (image : String) :
    (fleet.keep spec.name (b.withImage image)).handles = fleet.handles := by
  funext cluster
  unfold handles
  rw [balancer?_keep]
  split
  · next hsame =>
    rw [hsame, hb, Option.map_some, Option.map_some, Balancer.container_withImage]
  · rfl

lemma fails_lookUp (plan : Plan) (spec : ClusterSpec) (engine : Engine σ) (p : Progress σ) :
    ((Balancer.lookUp plan spec).run engine (.before 0) p).2.Fails := by
  cases hname : spec.name.isEmpty with
  | true =>
    unfold Balancer.lookUp
    rw [hname]
    exact fails_error _
  | false =>
    rw [Balancer.lookUp_eq hname, Balancer.search_eq, Procedure.bind, run,
      if_pos (by simp [Cancellation.firedBefore])]
    exact fails_error _

/-- A task that was cancelled from the start does nothing. -/
theorem idle_perform (fleet : Fleet) (engine : Engine σ) (spec : ClusterSpec)
    (task : Balancer.Task) (s : σ) :
    fleet.Idle s (fleet.perform engine (.before 0) spec task s) := by
  cases hb : fleet.balancer? spec.name with
  | some b =>
    rw [perform_of_balancer? hb, serve_eq, plan_track]
    dsimp only
    rw [keep_track]
    obtain ⟨events, hrun⟩ := (Balancer.cancelsWith_perform fleet.plan
      (b.withImage (spec.resolveImage fleet.plan.image)) task).run_fired engine
      (({ engine := s } : Progress σ).tellAll
        (b.imageEvents (spec.resolveImage fleet.plan.image)))
    rw [hrun, Balancer.kept_fired]
    exact ⟨rfl, rfl, handles_keep hb _⟩
  | none =>
    obtain ⟨events, hrun⟩ := (Balancer.cancelsWith_lookUp fleet.plan
      (Balancer.cancelled_lookUp task spec.name)).run_fired engine { engine := s }
    rw [perform_of_lookUp hb task (fails_lookUp _ _ _ _) rfl, hrun]
    exact ⟨rfl, rfl, handles_track _ _⟩

/-- A task that needs no request of a balancer that is kept is not cancelled. -/
lemma perform_immediate (hb : fleet.balancer? spec.name = some b)
    {result : Except BalancerError (Balancer × Balancer.Answer)}
    (hresult : (b.withImage (spec.resolveImage fleet.plan.image)).immediate? task = some result)
    (engine : Engine σ) (c : Cancellation) (s : σ) :
    let run := fleet.perform engine c spec task s
    run.2.1.made = [] ∧ run.2.1.engine = s ∧ run.2.2 = .finished (result.map (·.2)) := by
  intro run
  obtain ⟨events, hrun⟩ := Balancer.run_immediate hresult engine c fleet.plan
    (({ engine := s } : Progress σ).tellAll
      (b.imageEvents (spec.resolveImage fleet.plan.image)))
  have hperform : run = _ := perform_of_balancer? hb engine c task s
  rw [hperform, serve_eq, plan_track]
  dsimp only
  rw [hrun]
  exact ⟨rfl, rfl, rfl⟩

end Fleet

/-! ### All operations -/

/-- Whether a cancellation cuts a piece of work that is begun on an engine in a state, and whether
one that has fired before keeps the work from doing anything. -/
structure Procedure.CutShort (proc : Procedure ε α) (cancelled : Request → ε) (engine : Engine σ)
    (c : Cancellation) (s : σ) : Prop where
  cuts : c.Cuts cancelled (proc.run engine .never { engine := s })
    (proc.run engine c { engine := s })
  made : (proc.run engine (.before 0) { engine := s }).1.made = []
  engine : (proc.run engine (.before 0) { engine := s }).1.engine = s

lemma Procedure.CancelsWith.cutShort {cancelled : Request → ε} {proc : Procedure ε α}
    (h : proc.CancelsWith cancelled) (engine : Engine σ) (c : Cancellation) (s : σ) :
    proc.CutShort cancelled engine c s := by
  obtain ⟨events, hrun⟩ := h.run_fired engine { engine := s }
  exact ⟨h.cuts engine c.ahead_zero, by rw [hrun]; rfl, by rw [hrun]; rfl⟩

/-- Cancellation cuts work short and does nothing else to it, in every state and whatever the engine
does. This holds of look-ups, of the tasks of balancers, of the resolving of nodes and of the tasks
of fleets. If the cancellation fires before work has come to its end, the requests made are the
first ones of those that would be made, and the error names the cluster and the step of the request
that was next or under way; otherwise all is as if there were no cancellation. One that has fired
from the start lets no request through and changes no handle, and work that needs no request is
answered under every cancellation. -/
theorem cancellation_truncates (engine : Engine σ) (c : Cancellation) (s : σ) :
    (∀ plan spec, (Balancer.lookUp plan spec).CutShort
      (fun _ => .cancelled .discoverBalancer spec.name) engine c s) ∧
    (∀ plan (b : Balancer) task, (b.perform plan task).CutShort (task.cancelled b.cluster) engine c s ∧
      Fleet.kept b ((b.perform plan task).run engine (.before 0) { engine := s }).2 = b) ∧
    (∀ cluster nodes port, (Cluster.resolve cluster nodes port).CutShort
      (fun _ => .cancelled .resolveNodes cluster) engine c s) ∧
    (∀ (fleet : Fleet) (spec : ClusterSpec) task, fleet.Named →
      Fleet.CutShort c (task.cancelled spec.name) (fleet.perform engine .never spec task s)
        (fleet.perform engine c spec task s) ∧
      fleet.Idle s (fleet.perform engine (.before 0) spec task s)) ∧
    (∀ plan (b : Balancer) task result, b.immediate? task = some result →
      let run := (b.perform plan task).run engine c { engine := s }
      run.1.made = [] ∧ run.1.engine = s ∧ run.2 = .finished result) ∧
    (∀ (fleet : Fleet) (spec : ClusterSpec) task b result, fleet.balancer? spec.name = some b →
      (b.withImage (spec.resolveImage fleet.plan.image)).immediate? task = some result →
      let run := fleet.perform engine c spec task s
      run.2.1.made = [] ∧ run.2.1.engine = s ∧ run.2.2 = .finished (result.map (·.2))) ∧
    ∀ cluster port, (Cluster.resolve cluster [] port).run engine c { engine := s } =
      ({ engine := s }, .finished (.ok (.ofList []))) := by
  refine ⟨fun plan spec => ?_, fun plan b task => ⟨?_, ?_⟩, fun cluster nodes port => ?_,
    fun fleet spec task hnamed => ⟨?_, ?_⟩, fun plan b task result hresult => ?_,
    fun fleet spec task b result hb hresult => ?_, fun cluster port => rfl⟩
  · exact (Balancer.cancelsWith_lookUp plan rfl).cutShort engine c s
  · exact (b.cancelsWith_perform plan task).cutShort engine c s
  · exact b.kept_fired plan task engine { engine := s }
  · exact (Balancer.cancelsWith_resolve (fun _ => rfl) nodes port).cutShort engine c s
  · exact Fleet.cutShort_perform hnamed engine c spec task s
  · exact fleet.idle_perform engine spec task s
  · obtain ⟨events, hrun⟩ := Balancer.run_immediate hresult engine c plan { engine := s }
    rw [hrun]
    exact ⟨rfl, rfl, rfl⟩
  · exact Fleet.perform_immediate hb hresult engine c s

/-- A cluster with one node, whose address is never told. -/
def stalledInventory : Inventory :=
  ((({} : Inventory).add (.node "demo-lb" "demo" .externalLoadBalancer) "172.18.0.9").add
    (.node "demo-cp" "demo" .controlPlane) "172.18.0.2").stall .address

theorem stalled_update_is_cut :
    let c := Container.node "demo-lb" "demo" .externalLoadBalancer
    let b : Balancer := { cluster := "demo", image := "haproxy", container := some c }
    let fresh : Fleet := {}
    let used := fresh.keep "demo" b
    let spec : ClusterSpec := { name := "demo" }
    let full := fresh.perform Inventory.engine .never spec .update stalledInventory
    let cut := fresh.perform Inventory.engine .whenBlocked spec .update stalledInventory
    let created := used.perform Inventory.engine .whenBlocked spec .create stalledInventory
    (fresh.Named ∧ used.balancer? "demo" = some b ∧
      b.immediate? .create = some (.ok (b, .done)) ∧
      (b.withImage (spec.resolveImage used.plan.image)).immediate? .create =
        some (.ok (b, .done))) ∧
    full.2.1.made.length = 3 ∧ full.2.2.isBlocked = true ∧
    cut.2.1.made = full.2.1.made ∧
    cut.2.2 = .finished (.error (.cancelled .resolveNodes "demo")) ∧
    ((b.perform {} .create).run Inventory.engine .whenBlocked { engine := stalledInventory }).2 =
      .finished (.ok (b, .done)) ∧
    created.2.1.made = [] ∧ created.2.2 = .finished (.ok .done) := by
  intro c b fresh used spec full cut created
  have hnamed : fresh.Named := nofun
  have hb : used.balancer? "demo" = some b := rfl
  have hcreated : b.immediate? .create = some (.ok (b, .done)) := rfl
  have hready : (b.withImage (spec.resolveImage used.plan.image)).immediate? .create =
      some (.ok (b, .done)) := rfl
  have hlength : full.2.1.made.length = 3 := by decide +kernel
  have hblocked : full.2.2.isBlocked = true := by decide +kernel
  obtain ⟨-, -, -, hfleets, htasks, hused, -⟩ :=
    cancellation_truncates Inventory.engine .whenBlocked stalledInventory
  have hstop : Cancellation.whenBlocked.stop? full.2.1.made.length full.2.2.isBlocked =
      some (.amid 2) := by
    rw [hlength, hblocked]
    rfl
  obtain ⟨request, -, hmade, -⟩ := (hfleets fresh spec .update hnamed).1.1.of_some hstop
  have hall : full.2.1.made.take 3 = full.2.1.made := List.take_of_length_le (Nat.le_of_eq hlength)
  obtain ⟨hnone, -, hdone⟩ := hused used spec .create b _ hb hready
  exact ⟨⟨hnamed, hb, hcreated, hready⟩, hlength, hblocked, hmade.trans hall, by decide +kernel,
    (htasks {} b .create _ hcreated).2.2, hnone, hdone⟩

end ApiBalancer
