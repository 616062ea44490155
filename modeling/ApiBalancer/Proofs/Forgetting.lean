import ApiBalancer.Proofs.Creations
import ApiBalancer.Proofs.Handles
import ApiBalancer.Proofs.Requests

/-!
# Forgetting

Forgetting a cluster is not noticed afterwards, as long as nobody but the fleet touches the containers
and the engine answers. The balancer that is found again is attached to the container that the forgotten
one was attached to, so two fleets of which one forgets now and then do the same
(`Site.forgetting_is_transparent`). Only the image of a container is lost, and a look-up is made more.
-/

namespace ApiBalancer

open Procedure

namespace Inventory

variable {inv inv' : Inventory}

lemma change_clearCalls (inv : Inventory) (name : String) (f : Entry → Except EngineError Entry) :
    (inv.clearCalls.change name f).2 = (inv.change name f).2 ∧
      (inv.clearCalls.change name f).1.clearCalls = (inv.change name f).1.clearCalls := by
  have hentries : inv.clearCalls.entries = inv.entries := rfl
  unfold change
  rw [hentries]
  split
  · exact ⟨rfl, rfl⟩
  · split <;> exact ⟨rfl, rfl⟩

lemma work_clearCalls (request : Request) (inv : Inventory) :
    (work request inv.clearCalls).2 = (work request inv).2 ∧
      (work request inv.clearCalls).1.clearCalls = (work request inv).1.clearCalls := by
  cases request with
  | create launch =>
    have hcontains : inv.clearCalls.contains launch.name = inv.contains launch.name := rfl
    simp only [work]
    rw [hcontains]
    split <;> exact ⟨rfl, rfl⟩
  | list query => exact ⟨rfl, rfl⟩
  | address container =>
    have hfaults : inv.clearCalls.addressFaults = inv.addressFaults := rfl
    have haddress : inv.clearCalls.addressOf? container.name = inv.addressOf? container.name := rfl
    simp only [work]
    rw [hfaults, haddress]
    split <;> exact ⟨rfl, rfl⟩
  | writeFile container path content => exact change_clearCalls inv _ _
  | signal container signal => exact change_clearCalls inv _ _
  | reload container => exact change_clearCalls inv _ _
  | delete container =>
    have hcontains : inv.clearCalls.contains container.name = inv.contains container.name := rfl
    simp only [work]
    rw [hcontains]
    split <;> exact ⟨rfl, rfl⟩

lemma work_same (request : Request) (h : inv.clearCalls = inv'.clearCalls) :
    (work request inv).2 = (work request inv').2 ∧
      (work request inv).1.clearCalls = (work request inv').1.clearCalls := by
  obtain ⟨hanswer, hstate⟩ := work_clearCalls request inv
  obtain ⟨hanswer', hstate'⟩ := work_clearCalls request inv'
  rw [h] at hanswer hstate
  exact ⟨hanswer.symm.trans hanswer', hstate.symm.trans hstate'⟩

/-- Requests to inventories that differ in the record of calls only are answered in the same way. -/
lemma serve_same (request : Request) (h : inv.clearCalls = inv'.clearCalls) :
    (serve request inv).answer = (serve request inv').answer ∧
      (serve request inv).state.clearCalls = (serve request inv').state.clearCalls := by
  have hstalled : inv.clearCalls.stalled = inv'.clearCalls.stalled := congrArg Inventory.stalled h
  have hfaults : inv.clearCalls.faults = inv'.clearCalls.faults := congrArg Inventory.faults h
  have hrecord : (inv.record request.call).clearCalls = (inv'.record request.call).clearCalls := h
  obtain ⟨hanswer, hstate⟩ := work_same request hrecord
  dsimp only [clearCalls] at hstalled hfaults
  unfold serve
  dsimp only
  rw [hstalled, hfaults]
  split
  · exact ⟨rfl, h⟩
  · cases takeFault request.call.operation inv'.faults with
    | some taken => exact ⟨rfl, congrArg (fun inv => { inv with faults := taken.2 }) h⟩
    | none => exact ⟨congrArg some hanswer, hstate⟩

lemma answering_same (h : inv.clearCalls = inv'.clearCalls) (query : LabelQuery) :
    inv.answering query = inv'.answering query := by
  have hentries : inv.clearCalls.entries = inv'.clearCalls.entries := congrArg Inventory.entries h
  dsimp only [clearCalls] at hentries
  unfold answering
  rw [hentries]

lemma serve_list (hstalled : inv.stalled = []) (hfaults : inv.faults = []) (query : LabelQuery) :
    (serve (.list query) inv).answer = some (.ok (inv.answering query)) ∧
      (serve (.list query) inv).state = inv.record (.list query) := by
  unfold serve
  rw [hstalled, hfaults]
  exact ⟨rfl, rfl⟩

end Inventory

/-- Whether two tasks have ended in the same way, up to the image of a container in a status. -/
def SameButImage (e e' : Ending BalancerError Balancer.Answer) : Prop :=
  e' = e ∨ ∃ status image, status.provisioned = true ∧ e = .finished (.ok (.status status)) ∧
    e' = .finished (.ok (.status { status with image }))

namespace Balancer

variable {σ : Type} {engine : Engine σ} {k : Cancellation} {s s' : σ} {made made' : List Request}
  {plan : Plan} {b : Balancer} {c : Container} {task : Task}

lemma outcome_bind_done {ε α β : Type} (proc : Procedure ε α) (f : α → β) (s : σ)
    (made : List Request) :
    (proc.bind fun a => done (.ok (f a))).outcome engine k s made =
      ((proc.outcome engine k s made).1, (proc.outcome engine k s made).2.1,
        (proc.outcome engine k s made).2.2.map f) := by
  unfold outcome
  rw [run_bind_done]

lemma map_map {ε α β γ : Type} (e : Ending ε α) (f : α → β) (g : β → γ) :
    (e.map f).map g = e.map fun a => g (f a) := by
  cases e with
  | finished result => cases result <;> rfl
  | blocked ifCancelled => rfl

lemma outcome_delete (hc : b.container = some c) :
    (b.perform plan .delete).outcome engine k s made =
      let run := (step .deleteBalancer b.cluster c.name (ask (.delete c))).outcome engine k s made
      (run.1, run.2.1, run.2.2.map fun _ => ({ b with container := none }, .done)) := by
  have hdelete : b.perform plan .delete = report (.deleting b.cluster c.name)
      ((step .deleteBalancer b.cluster c.name (ask (.delete c))).bind fun _ =>
        report (.deleted b.cluster) (done (.ok ({ b with container := none }, .done)))) := by
    unfold perform delete
    rw [hc]
    simp only [bind_eq, pure_eq, Procedure.tell, Procedure.bind, Procedure.bind_assoc]
  rw [hdelete, outcome_report]
  exact outcome_bind_report _ (fun _ => .deleted b.cluster)
    (fun _ => ({ b with container := none }, Answer.done)) s made

/-- The image makes no difference to what a balancer does that is attached, and to its answers only
where it is told. -/
theorem perform_image (engine : Engine σ) (plan : Plan) (hc : b.container = some c)
    (image : String) (task : Task) (s : σ) (made : List Request) :
    let run := (b.perform plan task).outcome engine k s made
    let run' := (({ b with image } : Balancer).perform plan task).outcome engine k s made
    run'.1 = run.1 ∧ run'.2.1 = run.2.1 ∧
      SameButImage (run.2.2.map (·.2)) (run'.2.2.map (·.2)) := by
  have hc' : ({ b with image } : Balancer).container = some c := hc
  -- a task that passes on what its operation yields
  have hpass : ∀ {α : Type} (proc : Procedure BalancerError α) (f f' : α → Balancer × Answer),
      (∀ a, (f' a).2 = (f a).2) →
      let run := (proc.bind fun a => done (.ok (f a))).outcome engine k s made
      let run' := (proc.bind fun a => done (.ok (f' a))).outcome engine k s made
      run'.1 = run.1 ∧ run'.2.1 = run.2.1 ∧
        SameButImage (run.2.2.map (·.2)) (run'.2.2.map (·.2)) := by
    intro α proc f f' hf
    dsimp only
    rw [outcome_bind_done, outcome_bind_done]
    refine ⟨rfl, rfl, .inl ?_⟩
    rw [map_map, map_map, funext hf]
  cases task with
  | create =>
    dsimp only
    rw [perform_create_of_some hc, perform_create_of_some hc']
    exact ⟨rfl, rfl, .inl rfl⟩
  | update =>
    exact hpass (b.update plan) (fun r => (b, .rollout r))
      (fun r => ({ b with image }, .rollout r)) fun _ => rfl
  | address =>
    exact hpass b.address (fun a => (b, .address a)) (fun a => ({ b with image }, .address a))
      fun _ => rfl
  | delete =>
    dsimp only
    rw [outcome_delete hc, outcome_delete hc']
    refine ⟨rfl, rfl, .inl ?_⟩
    rw [map_map, map_map]
  | status =>
    have hprovisioned : b.status.provisioned = true := by
      unfold Balancer.status isProvisioned
      rw [hc]
      rfl
    exact ⟨rfl, rfl, .inr ⟨b.status, image, hprovisioned, rfl, rfl⟩⟩

end Balancer

/-- A fleet on an inventory whose containers nobody else adds or removes, and that answers every
request. -/
structure Settled (fleet : Fleet) (inv : Inventory) : Prop where
  agrees : Agrees fleet inv
  rooted : Rooted fleet inv
  nameable : ∀ cluster b, fleet.balancer? cluster = some b → cluster.isEmpty = false
  stalled : inv.stalled = []
  faults : inv.faults = []

namespace Settled

variable {fleet fleet' : Fleet} {inv inv' : Inventory} {spec : ClusterSpec}
  {task : Balancer.Task} {q : Progress Inventory} {e : Ending BalancerError Balancer.Answer}

/-- Whoever works for a cluster works on the container that a look-up would find. -/
lemma worker (h : Settled fleet inv) (spec : ClusterSpec) :
    (fleet.worker spec inv).container = (fleet.found spec inv).container := by
  have hcontainer : ∀ b : Balancer, (b.withImage (spec.resolveImage fleet.plan.image)).container =
      b.container := fun b => b.container_withImage _
  cases hcached : fleet.balancer? spec.name with
  | none =>
    unfold Fleet.worker
    rw [hcached, hcontainer]
    rfl
  | some b =>
    unfold Fleet.worker
    rw [hcached, hcontainer, Option.getD_some]
    have hnames := ((h.agrees.kept spec.name b hcached).2).names_eq h.agrees.keyed
    have hfound : (fleet.found spec inv).container =
        (Cluster.sortByName (inv.balancers spec.name)).head? := rfl
    rw [hfound]
    cases hc : b.container with
    | none =>
      rw [hc] at hnames
      rw [List.map_eq_nil_iff.1 hnames]
      rfl
    | some c =>
      rw [hc] at hnames
      obtain ⟨c', hbalancers, hname⟩ := List.map_eq_singleton_iff.1 hnames
      -- the one container that is there is the one that is held
      have hheld := h.rooted.held spec.name b c hcached hc
      have hthere : inv.Holds spec.name c' := by
        refine .of_mem_balancers h.agrees.keyed ?_
        rw [hbalancers]
        exact List.mem_singleton.2 rfl
      obtain ⟨e, he, rfl⟩ := hheld.there
      obtain ⟨e', he', rfl⟩ := hthere.there
      rw [hname] at he'
      cases he.symm.trans he'
      rw [hbalancers]
      rfl

lemma forget (h : Settled fleet inv) (cluster : String) : Settled (fleet.forget cluster) inv := by
  refine ⟨h.agrees.forget cluster, h.rooted.forget cluster, fun cluster' b hb => ?_, h.stalled,
    h.faults⟩
  rw [Fleet.balancer?_forget] at hb
  by_cases hsame : cluster' = cluster
  · rw [if_pos hsame] at hb
    cases hb
  · rw [if_neg hsame] at hb
    exact h.nameable cluster' b hb

lemma perform_unnamed (h : Settled fleet inv) (hname : spec.name.isEmpty = true)
    (task : Balancer.Task) :
    ∃ q, fleet.perform Inventory.engine Token.never.1 spec task inv =
        (fleet.track spec.name, q, .finished (.error .unnamedCluster)) ∧
      q.engine = inv ∧ q.made = [] := by
  have hb : fleet.balancer? spec.name = none := by
    cases hb : fleet.balancer? spec.name with
    | none => rfl
    | some b =>
      rw [h.nameable spec.name b hb] at hname
      cases hname
  have hlook : (Balancer.lookUp fleet.plan spec).outcome Inventory.engine Token.never.1 inv [] =
      (inv, [], .finished (.error .unnamedCluster)) := by
    unfold Balancer.lookUp
    rw [hname]
    rfl
  exact Fleet.perform_of_lookUp_fails task hb hlook

lemma outcome_lookUp (h : Settled fleet inv) (hname : spec.name.isEmpty = false) :
    (Balancer.lookUp fleet.plan spec).outcome Inventory.engine Token.never.1 inv [] =
      (inv.record (.list (.nodes spec.name .externalLoadBalancer)),
        [.list (.nodes spec.name .externalLoadBalancer)],
        .finished (.ok (fleet.found spec inv))) := by
  obtain ⟨hanswer, hstate⟩ := Inventory.serve_list h.stalled h.faults
    (.nodes spec.name .externalLoadBalancer)
  have hanswer' : (Inventory.engine.serve (.list (.nodes spec.name .externalLoadBalancer))
      inv).answer = some (.ok (inv.answering (.nodes spec.name .externalLoadBalancer))) := hanswer
  have hstate' : (Inventory.engine.serve (.list (.nodes spec.name .externalLoadBalancer))
      inv).state = inv.record (.list (.nodes spec.name .externalLoadBalancer)) := hstate
  rw [Balancer.lookUp_eq hname, outcome_bind_report, Balancer.search_eq, outcome_call_some,
    hanswer', hstate']
  simp only [Token.never, Cancellation.firedBefore, Cancellation.firesDuring, Bool.false_eq_true,
    if_false, Balancer.searched, outcome_report, List.nil_append]
  split <;> rfl

/-- A task comes to what the task of the worker comes to, once a look-up may have been recorded. -/
lemma perform_eq (h : Settled fleet inv) (task : Balancer.Task)
    (hname : spec.name.isEmpty = false) :
    ∃ inv₁ first, inv₁.clearCalls = inv.clearCalls ∧
      (first = [] ∨ first = [.list (.nodes spec.name .externalLoadBalancer)]) ∧
      ∀ {s' made e}, ((fleet.worker spec inv).perform fleet.plan task).outcome Inventory.engine
          Token.never.1 inv₁ [] = (s', made, e) →
        ∃ q, fleet.perform Inventory.engine Token.never.1 spec task inv =
            (fleet.keep spec.name (Fleet.kept (fleet.worker spec inv) e), q, e.map (·.2)) ∧
          q.engine = s' ∧ q.made = first ++ made := by
  obtain ⟨b, inv₁, first, hfinds, hsame, hfirst⟩ : ∃ b inv₁ first,
      Fleet.Finds Inventory.engine Token.never.1 fleet spec inv b inv₁ first ∧
      inv₁.clearCalls = inv.clearCalls ∧
      (first = [] ∨ first = [.list (.nodes spec.name .externalLoadBalancer)]) := by
    cases hb : fleet.balancer? spec.name with
    | some b => exact ⟨b, inv, [], .kept hb, rfl, .inl rfl⟩
    | none => exact ⟨_, _, _, .found _ _ hb (h.outcome_lookUp hname), rfl, .inr rfl⟩
  refine ⟨inv₁, first, hsame, hfirst, fun {s' made e} hwork => ?_⟩
  obtain ⟨-, hready⟩ := Fleet.ready_of_finds hfinds
  have hbefore : ∀ n, Token.never.1.firedBefore (first.length + n) = Token.never.1.firedBefore n :=
    fun _ => rfl
  have hduring : ∀ n blocked, Token.never.1.firesDuring (first.length + n) blocked =
      Token.never.1.firesDuring n blocked := fun _ _ => rfl
  have hshift := outcome_shift Inventory.engine ((fleet.worker spec inv).perform fleet.plan task)
    inv₁ first [] hbefore hduring
  rw [List.append_nil, hwork, ← hready] at hshift
  obtain ⟨q, hq, hengine, hmade⟩ := Fleet.perform_of_finds hfinds hshift
  rw [hready] at hq
  exact ⟨q, hq, hengine, hmade⟩

lemma perform (h : Settled fleet inv)
    (hrun : fleet.perform Inventory.engine Token.never.1 spec task inv = (fleet', q, e)) :
    Settled fleet' q.engine := by
  have hfollows := Fleet.perform_follows hrun
  refine ⟨(h.agrees.perform hrun).1, h.rooted.perform hrun, fun cluster b hb => ?_,
    hfollows.stalled.trans h.stalled, hfollows.faults h.faults⟩
  by_cases hsame : spec.name = cluster
  · cases hname : spec.name.isEmpty with
    | false => rw [← hsame, hname]
    | true =>
      obtain ⟨q', hq', -⟩ := h.perform_unnamed hname task
      rw [hrun] at hq'
      cases hq'
      rw [Fleet.balancer?_track] at hb
      exact h.nameable cluster b hb
  · rw [Fleet.balancer?_perform_of_ne h.rooted.keyed hsame hrun] at hb
    exact h.nameable cluster b hb

end Settled

/-! ### With and without forgetting -/

/-- Whether a task without a cancellation is given to the fleet, or a cluster is forgotten. -/
def Deed.Live : Deed → Prop
  | .perform _ _ token => token = .never
  | .forget _ => True
  | _ => False

def Deed.isForget : Deed → Bool
  | .forget _ => true
  | _ => false

/-- Whether a call looks for the containers of balancers. -/
def Call.isLookUp : Call → Bool
  | .list query => query.required.get? Label.role == some Role.externalLoadBalancer.name
  | _ => false

lemma isLookUp_list (cluster : String) :
    (Request.list (.nodes cluster .externalLoadBalancer)).call.isLookUp = true := by
  have hrole : (LabelQuery.nodes cluster .externalLoadBalancer).required.get? Label.role =
      some Role.externalLoadBalancer.name := NameMap.get?_insert_self _ _ _
  change ((LabelQuery.nodes cluster .externalLoadBalancer).required.get? Label.role ==
    some Role.externalLoadBalancer.name) = true
  rw [hrole]
  exact beq_self_eq_true _

/-- The calls on an inventory that are no look-ups of balancer containers. -/
def Inventory.otherCalls (inv : Inventory) : List Call := inv.calls.filter fun call => !call.isLookUp

/-- Two settled fleets with one plan, on inventories that differ in calls only, which differ in
look-ups only. -/
structure Twin (site site' : Site) : Prop where
  settled : Settled site.fleet site.inventory
  settled' : Settled site'.fleet site'.inventory
  plan : site'.fleet.plan = site.fleet.plan
  same : site.inventory.clearCalls = site'.inventory.clearCalls
  calls : site.inventory.otherCalls = site'.inventory.otherCalls

namespace Twin

variable {site site' : Site} {spec : ClusterSpec} {task : Balancer.Task}

lemma forget (h : Twin site site') (cluster : String) : Twin (site.step (.forget cluster)) site' :=
  ⟨h.settled.forget cluster, h.settled', h.plan, h.same, h.calls⟩

lemma otherCalls_eq {inv inv' : Inventory} {made : List Request} (h : inv.Follows made inv') :
    inv'.otherCalls = inv.otherCalls ++ (made.map Request.call).filter fun call => !call.isLookUp := by
  unfold Inventory.otherCalls
  rw [h.calls, List.filter_append]

/-- For twins the same balancer works, up to the image that it knows of an attached container. -/
lemma worker (h : Twin site site') (spec : ClusterSpec) :
    ∃ image, site'.fleet.worker spec site'.inventory =
        { site.fleet.worker spec site.inventory with image } ∧
      ((site.fleet.worker spec site.inventory).container = none →
        image = (site.fleet.worker spec site.inventory).image) := by
  have hfound : (site'.fleet.found spec site'.inventory).container =
      (site.fleet.found spec site.inventory).container := by
    unfold Fleet.found
    rw [Inventory.answering_same h.same]
  have hcontainer : (site'.fleet.worker spec site'.inventory).container =
      (site.fleet.worker spec site.inventory).container := by
    rw [h.settled'.worker, h.settled.worker, hfound]
  have hcluster : (site'.fleet.worker spec site'.inventory).cluster =
      (site.fleet.worker spec site.inventory).cluster := by
    rw [Fleet.cluster_worker h.settled'.rooted.named, Fleet.cluster_worker h.settled.rooted.named]
  refine ⟨(site'.fleet.worker spec site'.inventory).image, ?_, fun hnone => ?_⟩
  · dsimp only
    rw [← hcontainer, ← hcluster]
  · rw [Fleet.image_worker hnone, Fleet.image_worker (hcontainer.trans hnone), h.plan]

lemma outcome (h : Twin site site') (spec : ClusterSpec) (task : Balancer.Task) {inv inv' : Inventory}
    (hsame : inv.clearCalls = inv'.clearCalls) :
    let run := ((site.fleet.worker spec site.inventory).perform site.fleet.plan task).outcome
      Inventory.engine Token.never.1 inv []
    let run' := ((site'.fleet.worker spec site'.inventory).perform site'.fleet.plan task).outcome
      Inventory.engine Token.never.1 inv' []
    run.1.clearCalls = run'.1.clearCalls ∧ run.2.1 = run'.2.1 ∧
      SameButImage (run.2.2.map (·.2)) (run'.2.2.map (·.2)) := by
  dsimp only
  obtain ⟨image, hworker, himage⟩ := h.worker spec
  rw [hworker, h.plan]
  have hserve : ∀ request (s s' : Inventory), Terms.free.asks request →
      s.clearCalls = s'.clearCalls →
      (Inventory.engine.serve request s).answer = (Inventory.engine.serve request s').answer ∧
        (Inventory.engine.serve request s).state.clearCalls =
          (Inventory.engine.serve request s').state.clearCalls ∧
        Terms.free.Met (Inventory.engine.serve request s) := by
    intro request s s' _ hs
    obtain ⟨hanswer, hstate⟩ := Inventory.serve_same request hs
    exact ⟨hanswer, hstate, Terms.met_free _⟩
  obtain ⟨hend, hstate, -⟩ := outcome_same
    (keepsTo_free ((site.fleet.worker spec site.inventory).perform site.fleet.plan task)) hserve hsame
    Token.never.1 []
  cases hc : (site.fleet.worker spec site.inventory).container with
  | none =>
    rw [himage hc]
    exact ⟨hstate, congrArg Prod.fst hend, .inl (by rw [hend])⟩
  | some c =>
    obtain ⟨hengine, hmade, hends⟩ := Balancer.perform_image (k := Token.never.1)
      Inventory.engine site.fleet.plan hc image task inv' []
    rw [hengine, hmade, hend]
    exact ⟨hstate, rfl, hends⟩

/-- The same task for twins ends in the same way, and they are twins afterwards. -/
lemma perform (h : Twin site site') (spec : ClusterSpec) (task : Balancer.Task) :
    SameButImage
        (site.fleet.perform Inventory.engine Token.never.1 spec task site.inventory).2.2
        (site'.fleet.perform Inventory.engine Token.never.1 spec task site'.inventory).2.2 ∧
      Twin (site.step (.perform spec task .never)) (site'.step (.perform spec task .never)) := by
  simp only [Site.step]
  generalize hrun : site.fleet.perform Inventory.engine Token.never.1 spec task site.inventory = run
  generalize hrun' : site'.fleet.perform Inventory.engine Token.never.1 spec task site'.inventory =
    run'
  obtain ⟨fleet₁, q, e⟩ := run
  obtain ⟨fleet₁', q', e'⟩ := run'
  have hplan : fleet₁'.plan = fleet₁.plan := by
    have hkept := Fleet.plan_perform Inventory.engine Token.never.1 spec task site.fleet
      site.inventory
    have hkept' := Fleet.plan_perform Inventory.engine Token.never.1 spec task site'.fleet
      site'.inventory
    rw [hrun] at hkept
    rw [hrun'] at hkept'
    exact hkept'.trans (h.plan.trans hkept.symm)
  suffices hsame : SameButImage e e' ∧ q.engine.clearCalls = q'.engine.clearCalls ∧
      (q.made.map Request.call).filter (fun call => !call.isLookUp) =
        (q'.made.map Request.call).filter fun call => !call.isLookUp by
    obtain ⟨hends, hengine, hmade⟩ := hsame
    refine ⟨hends, h.settled.perform hrun, h.settled'.perform hrun', hplan, hengine, ?_⟩
    rw [otherCalls_eq (Fleet.perform_follows hrun), otherCalls_eq (Fleet.perform_follows hrun'),
      h.calls, hmade]
  cases hname : spec.name.isEmpty with
  | true =>
    obtain ⟨p, hp, hengine, hmade⟩ := h.settled.perform_unnamed hname task
    obtain ⟨p', hp', hengine', hmade'⟩ := h.settled'.perform_unnamed hname task
    rw [hrun] at hp
    rw [hrun'] at hp'
    cases hp
    cases hp'
    rw [hengine, hengine', hmade, hmade']
    exact ⟨.inl rfl, h.same, rfl⟩
  | false =>
    obtain ⟨inv₁, first, hinv₁, hfirst, hwork⟩ := h.settled.perform_eq task hname
    obtain ⟨inv₁', first', hinv₁', hfirst', hwork'⟩ := h.settled'.perform_eq task hname
    have hsame := h.outcome spec task (hinv₁.trans (h.same.trans hinv₁'.symm))
    rcases hout : ((site.fleet.worker spec site.inventory).perform site.fleet.plan task).outcome
      Inventory.engine Token.never.1 inv₁ [] with ⟨s, made, ending⟩
    rcases hout' : ((site'.fleet.worker spec site'.inventory).perform site'.fleet.plan
      task).outcome Inventory.engine Token.never.1 inv₁' [] with ⟨s', made', ending'⟩
    rw [hout, hout'] at hsame
    obtain ⟨hengines, rfl, hends⟩ := hsame
    obtain ⟨p, hp, rfl, hmade⟩ := hwork hout
    obtain ⟨p', hp', rfl, hmade'⟩ := hwork' hout'
    rw [hrun] at hp
    rw [hrun'] at hp'
    cases hp
    cases hp'
    refine ⟨hends, hengines, ?_⟩
    have hnone : ∀ {l : List Request},
        l = [] ∨ l = [.list (.nodes spec.name .externalLoadBalancer)] →
        (l.map Request.call).filter (fun call => !call.isLookUp) = [] := by
      rintro l (rfl | rfl)
      · rfl
      · rw [List.map_singleton, List.filter_cons, isLookUp_list]
        rfl
    rw [hmade, hmade', List.map_append, List.map_append, List.filter_append, List.filter_append,
      hnone hfirst, hnone hfirst']

lemma after {first : Site} (h : Twin first first) (history : List Deed)
    (hlive : ∀ d ∈ history, d.Live) :
    Twin (first.after history) (first.after (history.filter fun d => !d.isForget)) := by
  induction history using List.reverseRecOn with
  | nil => exact h
  | append_singleton done d ih =>
    have hdone := ih fun x hx => hlive x (List.mem_append_left _ hx)
    have hd := hlive d (by simp)
    rw [Site.after_concat, List.filter_append]
    cases d with
    | perform spec task token =>
      obtain rfl : token = .never := hd
      change Twin _ (first.after (done.filter (fun d => !d.isForget) ++
        [.perform spec task .never]))
      rw [Site.after_concat]
      exact (hdone.perform spec task).2
    | forget cluster =>
      change Twin _ (first.after (done.filter (fun d => !d.isForget) ++ []))
      rw [List.append_nil]
      exact hdone.forget cluster
    | arrange | lookUp | work | takeImage => exact hd.elim

end Twin

namespace Site

/-- A fleet that forgets clusters at any time does what it would do without: as long as no cluster has
several balancer containers, nobody else adds or removes containers, and every request is answered,
each task ends in the same way, up to the image of a container in a status, with the same containers
and the same calls but for look-ups of balancer containers. -/
theorem forgetting_is_transparent (plan : Plan) (inv : Inventory) (history : List Deed)
    (hattainable : inv.Attainable) (hone : ∀ cluster, (inv.balancers cluster).length ≤ 1)
    (hstalled : inv.stalled = []) (hfaults : inv.faults = []) (hlive : ∀ d ∈ history, d.Live) :
    let first : Site := { fleet := { plan }, inventory := inv }
    (∀ done spec task rest, history = done ++ .perform spec task .never :: rest →
      let site := first.after done
      let site' := first.after (done.filter fun d => !d.isForget)
      SameButImage
        (site.fleet.perform Inventory.engine Token.never.1 spec task site.inventory).2.2
        (site'.fleet.perform Inventory.engine Token.never.1 spec task site'.inventory).2.2) ∧
    let last := first.after history
    let last' := first.after (history.filter fun d => !d.isForget)
    last.inventory.otherCalls = last'.inventory.otherCalls ∧
      last.inventory.table = last'.inventory.table := by
  intro first
  have hkeyed := hattainable.keyed
  have hsettled : Settled first.fleet first.inventory := by
    refine ⟨⟨hkeyed, fun cluster => Inventory.exists_only hkeyed (hone cluster), ?_⟩,
      .start plan hkeyed, ?_, hstalled, hfaults⟩
    · intro cluster b hb
      cases hb
    · intro cluster b hb
      cases hb
  have hfirst : Twin first first := ⟨hsettled, hsettled, rfl, rfl, rfl⟩
  refine ⟨?_, ?_⟩
  · rintro done spec task rest rfl
    exact ((hfirst.after done fun d hd => hlive d (by simp [hd])).perform spec task).1
  · have hlast := hfirst.after history hlive
    have htable : (first.after history).inventory.clearCalls.table =
        (first.after (history.filter fun d => !d.isForget)).inventory.clearCalls.table :=
      congrArg Inventory.table hlast.same
    exact ⟨hlast.calls, htable⟩

/-- A container that is created, forgotten, used and deleted. -/
theorem forgetting_between_tasks :
    let done : List Deed :=
      [.perform { name := "demo" } .create .never, .forget "demo",
        .perform { name := "demo" } .address .never, .forget "demo"]
    let site := Site.after { fleet := { plan := {} }, inventory := {} } done
    let site' := Site.after { fleet := { plan := {} }, inventory := {} }
      (done.filter fun d => !d.isForget)
    SameButImage
      (site.fleet.perform Inventory.engine Token.never.1 { name := "demo" } .delete
        site.inventory).2.2
      (site'.fleet.perform Inventory.engine Token.never.1 { name := "demo" } .delete
        site'.inventory).2.2 := by
  intro done
  have hlive : ∀ d ∈ done ++ [.perform { name := "demo" } .delete .never], d.Live := by
    simp [done, Deed.Live]
  have hone : ∀ cluster, (({} : Inventory).balancers cluster).length ≤ 1 :=
    fun cluster => Nat.zero_le 1
  exact (forgetting_is_transparent {} {} _ .empty hone rfl rfl hlive).1 done { name := "demo" }
    .delete [] rfl

end Site

end ApiBalancer
