import ApiBalancer.Fleet.Basic
import ApiBalancer.Proofs.BalancerRun

/-!
# Fleets on an inventory

Which balancer works for a cluster, what its task does to the inventory, and what the fleet keeps of
it.
-/

namespace ApiBalancer

open Procedure

namespace Fleet

@[simp] lemma plan_track (fleet : Fleet) (cluster : String) :
    (fleet.track cluster).plan = fleet.plan := by
  unfold track
  split <;> rfl

lemma balancer?_keep (fleet : Fleet) (cluster cluster' : String) (b : Balancer) :
    (fleet.keep cluster b).balancer? cluster' =
      if cluster' = cluster then some b else fleet.balancer? cluster' := by
  unfold balancer? keep
  rw [NameMap.get?_insert]
  split <;> rfl

lemma balancer?_forget (fleet : Fleet) (cluster cluster' : String) :
    (fleet.forget cluster).balancer? cluster' =
      if cluster' = cluster then none else fleet.balancer? cluster' := by
  unfold balancer? forget
  rw [NameMap.get?_erase]
  split <;> rfl

lemma balancer?_track (fleet : Fleet) (cluster cluster' : String) :
    (fleet.track cluster).balancer? cluster' = fleet.balancer? cluster' := by
  unfold track
  by_cases htracks : fleet.tracks cluster = true
  · rw [if_pos htracks]
  · rw [if_neg htracks]
    unfold balancer?
    rw [NameMap.get?_insert]
    by_cases hsame : cluster' = cluster
    · have hnone : fleet.slots.get? cluster = none := by
        simpa [tracks, NameMap.contains] using htracks
      rw [if_pos hsame, hsame, hnone]
      rfl
    · rw [if_neg hsame]

lemma keep_keep (fleet : Fleet) (cluster : String) (b b' : Balancer) :
    (fleet.keep cluster b).keep cluster b' = fleet.keep cluster b' := by
  unfold keep
  rw [NameMap.insert_insert]

lemma keep_track (fleet : Fleet) (cluster : String) (b : Balancer) :
    (fleet.track cluster).keep cluster b = fleet.keep cluster b := by
  unfold track
  split
  · rfl
  · unfold keep
    rw [NameMap.insert_insert]

/-- The balancer that a look-up in an inventory finds. -/
def found (fleet : Fleet) (spec : ClusterSpec) (inv : Inventory) : Balancer where
  cluster := spec.name
  image := spec.resolveImage fleet.plan.image
  container :=
    (Cluster.sortByName (inv.answering (.nodes spec.name .externalLoadBalancer))).head?

/-- The balancer that works for a cluster: the one that is kept, or else the one that is found. -/
def worker (fleet : Fleet) (spec : ClusterSpec) (inv : Inventory) : Balancer :=
  ((fleet.balancer? spec.name).getD (fleet.found spec inv)).withImage
    (spec.resolveImage fleet.plan.image)

/-- The balancer that is kept once a task of the balancer `ready` has ended. -/
def kept (ready : Balancer) : Ending BalancerError (Balancer × Balancer.Answer) → Balancer
  | .finished (.ok (b, _)) => b
  | _ => ready

lemma kept_of_fails {ready : Balancer} {e : Ending BalancerError (Balancer × Balancer.Answer)}
    (h : e.Fails) : kept ready e = ready := by
  cases e with
  | finished result =>
    cases result with
    | ok value => exact (h value rfl).elim
    | error err => rfl
  | blocked c => rfl

lemma serve_eq {σ : Type} (engine : Engine σ) (c : Cancellation) (spec : ClusterSpec)
    (task : Balancer.Task) (fleet : Fleet) (b : Balancer) (p : Progress σ) :
    fleet.serve engine c spec task b p =
      let ready := b.withImage (spec.resolveImage fleet.plan.image)
      let run := (ready.perform fleet.plan task).run engine c
        (p.tellAll (b.imageEvents (spec.resolveImage fleet.plan.image)))
      (fleet.keep spec.name (kept ready run.2), run.1, run.2.map (·.2)) := by
  unfold serve
  dsimp only [keep]
  generalize Procedure.run engine c _ _ = run
  obtain ⟨q, e⟩ := run
  cases e with
  | finished result =>
    cases result with
    | ok value =>
      simp only [kept, NameMap.insert_insert]
      rfl
    | error err => rfl
  | blocked c => rfl

lemma kept_map (ready : Balancer) {α : Type} (f : α → Balancer.Answer)
    (e : Ending BalancerError α) : kept ready (e.map fun a => (ready, f a)) = ready := by
  cases e with
  | finished result => cases result <;> rfl
  | blocked c => rfl

lemma cluster_withImage (b : Balancer) (image : String) :
    (b.withImage image).cluster = b.cluster := by
  unfold Balancer.withImage
  split <;> rfl

/-- The balancers of the fleet each know the cluster that they are kept for. -/
def Named (fleet : Fleet) : Prop :=
  ∀ cluster b, fleet.balancer? cluster = some b → b.cluster = cluster

lemma cluster_worker {fleet : Fleet} (hnamed : fleet.Named) (spec : ClusterSpec)
    (inv : Inventory) : (fleet.worker spec inv).cluster = spec.name := by
  unfold worker
  rw [cluster_withImage]
  cases hcached : fleet.balancer? spec.name with
  | some b => exact hnamed _ b hcached
  | none => rfl

variable {t : Token} {spec : ClusterSpec} {task : Balancer.Task} {fleet fleet' : Fleet}
  {inv : Inventory} {q : Progress Inventory} {e : Ending BalancerError Balancer.Answer}

/-- A task for a cluster either does not get to a balancer, or the cluster's balancer works on an
inventory with the same table, and the fleet keeps what comes of it. -/
lemma perform_cases (h : fleet.perform Inventory.engine t.1 spec task inv = (fleet', q, e)) :
    (∃ p e', p.engine.table = inv.table ∧
      ((fleet.worker spec inv).perform fleet.plan task).run Inventory.engine t.1 p = (q, e') ∧
      fleet' = fleet.keep spec.name (kept (fleet.worker spec inv) e') ∧ e = e'.map (·.2)) ∨
    (fleet' = fleet.track spec.name ∧ q.engine.table = inv.table ∧ e.Fails) := by
  unfold perform at h
  dsimp only at h
  rw [balancer?_track, plan_track] at h
  unfold worker
  cases hcached : fleet.balancer? spec.name with
  | some b =>
    rw [hcached] at h
    dsimp only at h
    rw [serve_eq] at h
    dsimp only at h
    rw [plan_track, keep_track] at h
    cases h
    exact .inl ⟨_, _, rfl, rfl, rfl, rfl⟩
  | none =>
    rw [hcached] at h
    dsimp only at h
    generalize hrun : Procedure.run Inventory.engine t.1 _ _ = run at h
    obtain ⟨r, e'⟩ := run
    obtain ⟨htable, rfl | hfails⟩ := run_lookUp hrun
    · dsimp only at h
      rw [serve_eq] at h
      dsimp only at h
      rw [plan_track, keep_track] at h
      cases h
      exact .inl ⟨r.tellAll _, _, htable, rfl, rfl, rfl⟩
    · cases e' with
      | finished result =>
        cases result with
        | ok value => exact (hfails _ rfl).elim
        | error err =>
          cases h
          exact .inr ⟨rfl, htable, fails_error _⟩
      | blocked ifCancelled =>
        cases h
        exact .inr ⟨rfl, htable, fails_blocked _⟩

/-- A task for a cluster has an effect on the cluster's balancer, and the fleet keeps what comes of
that, unless the task does not get to a balancer. -/
theorem perform_effect (hkeyed : inv.Keyed)
    (h : fleet.perform Inventory.engine t.1 spec task inv = (fleet', q, e)) :
    (∃ b', (fleet.worker spec inv).Effect fleet.plan inv q.engine b' ∧
      fleet' = fleet.keep spec.name b' ∧
      ((∃ answer, e = .finished (.ok answer) ∧ (task = .create → b'.isProvisioned) ∧
          (task = .delete → b'.container = none)) ∨ e.Fails)) ∨
    (fleet' = fleet.track spec.name ∧ q.engine.table = inv.table ∧ e.Fails) := by
  rcases perform_cases h with ⟨p, e', htable, hrun, rfl, rfl⟩ | hfails
  · obtain ⟨b', heffect, ⟨answer, rfl, htask⟩ | ⟨hfails, rfl⟩⟩ :=
      run_perform (hkeyed.of_table htable) hrun
    · exact .inl ⟨b', heffect.of_table htable, rfl, .inl ⟨answer, rfl, htask⟩⟩
    · exact .inl ⟨_, heffect.of_table htable, by rw [kept_of_fails hfails], .inr (hfails.map _)⟩
  · exact .inr hfails

/-- An update for a cluster, with the container that the cluster's balancer is left with. -/
theorem perform_update (hkeyed : inv.Keyed) (hnamed : fleet.Named)
    (h : fleet.perform Inventory.engine t.1 spec .update inv = (fleet', q, e)) :
    Inventory.Updates fleet.plan spec.name ((fleet'.balancer? spec.name).bind (·.container))
      .rollout inv q.engine e := by
  rcases perform_cases h with ⟨p, e', htable, hrun, rfl, rfl⟩ | ⟨-, htable, hfails⟩
  · have hperform : (fleet.worker spec inv).perform fleet.plan .update =
        ((fleet.worker spec inv).update fleet.plan).bind fun rollout =>
          done (.ok (fleet.worker spec inv, .rollout rollout)) := rfl
    rw [hperform, run_bind_done] at hrun
    generalize hupdate : ((fleet.worker spec inv).update fleet.plan).run
      Inventory.engine t.1 p = run at hrun
    cases hrun
    have hupdates := (run_update (hkeyed.of_table htable) hupdate).of_table htable
    rw [kept_map, balancer?_keep, if_pos rfl]
    rw [cluster_worker hnamed] at hupdates
    exact (hupdates.map _).map _
  · exact .inr ⟨htable, hfails⟩

end Fleet

end ApiBalancer
