import ApiBalancer.Proofs.Agreement
import ApiBalancer.Proofs.Retries

/-!
# Handles

The balancers of a fleet hold on to containers. As long as nobody adds or removes containers behind
the fleet's back, every container that is held on to is in the inventory, labelled as it was found or
created, however many balancer containers a cluster has (`Rooted`). So the task of a cluster touches
no container but its own (`Rooted.get?_perform`), and a balancer that is attached stays as it is until
its container is deleted or its cluster forgotten (`Fleet.stays`).
-/

namespace ApiBalancer

open Procedure

namespace Inventory

variable {inv inv' : Inventory} {cluster : String} {c : Container}

/-- Whether a container is in the inventory as it is known, labelled as balancer of the cluster. -/
structure Holds (inv : Inventory) (cluster : String) (c : Container) : Prop where
  there : ∃ e, inv.entries.get? c.name = some e ∧ e.container = c
  labelled : (LabelQuery.nodes cluster .externalLoadBalancer).Matches c.labels

lemma Holds.isBalancer (h : inv.Holds cluster c) : inv.IsBalancer cluster c.name := by
  obtain ⟨e, he, rfl⟩ := h.there
  exact ⟨e, he, h.labelled⟩

lemma Holds.of_entries (h : inv.Holds cluster c)
    (hsame : inv'.entries.get? c.name = inv.entries.get? c.name) : inv'.Holds cluster c := by
  refine ⟨?_, h.labelled⟩
  rw [hsame]
  exact h.there

/-- An entry that is replaced with the same container leaves all containers in the inventory. -/
lemma Holds.replace (h : inv.Holds cluster c) {key : String} {e e' : Entry}
    (hinsert : inv'.entries = inv.entries.insert key e') (he : inv.entries.get? key = some e)
    (hsame : e'.container = e.container) : inv'.Holds cluster c := by
  by_cases hname : c.name = key
  · obtain ⟨e₀, he₀, hc⟩ := h.there
    rw [hname, he] at he₀
    cases he₀
    refine ⟨⟨e', ?_, hsame.trans hc⟩, h.labelled⟩
    rw [hinsert, hname, NameMap.get?_insert_self]
  · refine h.of_entries ?_
    rw [hinsert, NameMap.get?_insert_of_ne hname]

lemma Holds.of_mem_balancers (hkeyed : inv.Keyed) (h : c ∈ inv.balancers cluster) :
    inv.Holds cluster c := by
  obtain ⟨hmatches, name, e, he, rfl⟩ := mem_answering.1 h
  rw [← hkeyed name e he] at he
  exact ⟨⟨e, he, rfl⟩, hmatches⟩

end Inventory

lemma Balancer.container_withImage (b : Balancer) (image : String) :
    (b.withImage image).container = b.container := by
  unfold withImage
  split <;> rfl

namespace Balancer.Effect

variable {plan : Plan} {b b' : Balancer} {inv inv' : Inventory} {cluster name : String}
  {c : Container}

/-- A task touches no entry but that of the container that is attached, and makes no new one but that
of the container that is created. -/
lemma get?_eq (h : b.Effect plan inv inv' b')
    (hattached : ∀ c, b.container = some c → name ≠ c.name)
    (hcreated : inv.contains name = false → name ≠ b.containerName) :
    inv'.entries.get? name = inv.entries.get? name := by
  cases h with
  | none same => rw [Inventory.entries_of_table same]
  | created absent free table =>
    have hname : name ≠ b.containerName := by
      rintro rfl
      exact hcreated free rfl
    have hentries : inv'.entries = _ := congrArg Prod.fst table
    rw [hentries, NameMap.get?_insert_of_ne hname]
  | documented c e₀ backends document signals attached found complete table =>
    have hentries : inv'.entries = _ := congrArg Prod.fst table
    rw [hentries, NameMap.get?_insert_of_ne (hattached c attached)]
  | deleted c attached table =>
    have hentries : inv'.entries = _ := congrArg Prod.fst table
    rw [hentries, NameMap.get?_erase, if_neg (hattached c attached)]

/-- A task leaves every container in the inventory but the one that it detaches. -/
lemma holds (h : b.Effect plan inv inv' b') (hc : inv.Holds cluster c)
    (hother : ∀ c', b.container = some c' → b'.container = .none → c.name ≠ c'.name) :
    inv'.Holds cluster c := by
  cases h with
  | none same =>
    refine hc.of_entries ?_
    rw [Inventory.entries_of_table same]
  | created absent free table =>
    have hname : c.name ≠ b.containerName := by
      intro hname
      obtain ⟨e, he, -⟩ := hc.there
      rw [← hname] at free
      unfold Inventory.contains NameMap.contains at free
      rw [he] at free
      cases free
    refine hc.of_entries ?_
    have hentries : inv'.entries = _ := congrArg Prod.fst table
    rw [hentries, NameMap.get?_insert_of_ne hname]
  | documented c' e₀ backends document signals attached found complete table =>
    exact hc.replace (congrArg Prod.fst table) found rfl
  | deleted c' attached table =>
    refine hc.of_entries ?_
    have hentries : inv'.entries = _ := congrArg Prod.fst table
    rw [hentries, NameMap.get?_erase, if_neg (hother c' attached rfl)]

/-- The container that a balancer is attached to after a task is in the inventory, if the one that it
was attached to before has been. -/
lemma holds_own (h : b.Effect plan inv inv' b')
    (hheld : ∀ c, b.container = some c → inv.Holds b.cluster c) (hc : b'.container = some c) :
    inv'.Holds b.cluster c := by
  have hkept : ∀ {b' : Balancer}, b.Effect plan inv inv' b' → b'.container = b.container →
      b'.container = some c → inv'.Holds b.cluster c := by
    intro b' h hsame hc
    refine h.holds (hheld c (hsame.symm.trans hc)) fun c' hc' hnone => ?_
    rw [hnone] at hc
    cases hc
  cases h with
  | none same => exact hkept (.none same) rfl hc
  | created absent free table =>
    cases hc
    have hentries : inv'.entries = _ := congrArg Prod.fst table
    have hget : inv'.entries.get? b.containerName =
        some ⟨.node b.containerName b.cluster .externalLoadBalancer,
          Inventory.createdAddress inv.created, ∅, []⟩ := by
      rw [hentries]
      exact NameMap.get?_insert_self _ _ _
    exact ⟨⟨_, hget, rfl⟩, LabelQuery.nodes_matches_node.2 ⟨rfl, rfl⟩⟩
  | documented c' e₀ backends document signals attached found complete table =>
    exact hkept (.documented c' e₀ backends document signals attached found complete table) rfl hc
  | deleted c' attached table => cases hc

end Balancer.Effect

/-! ### The invariant -/

/-- Every balancer of a fleet is kept for its own cluster and is attached to nothing but a container
of that cluster that is in the inventory. -/
structure Rooted (fleet : Fleet) (inv : Inventory) : Prop where
  keyed : inv.Keyed
  named : fleet.Named
  held : ∀ cluster b c, fleet.balancer? cluster = some b → b.container = some c →
    inv.Holds cluster c

namespace Rooted

variable {fleet fleet' : Fleet} {inv inv' : Inventory} {spec : ClusterSpec} {c : Container}
  {name cluster : String} {t : Token} {task : Balancer.Task} {q : Progress Inventory}
  {e : Ending BalancerError Balancer.Answer}

lemma start (plan : Plan) (hkeyed : inv.Keyed) : Rooted { plan } inv := by
  refine ⟨hkeyed, ?_, ?_⟩
  · intro cluster b hget
    cases hget
  · intro cluster b c hget
    cases hget

/-- Whoever works for a cluster is attached to nothing but a container of it that is there. -/
lemma worker (h : Rooted fleet inv) (hc : (fleet.worker spec inv).container = some c) :
    inv.Holds spec.name c := by
  unfold Fleet.worker at hc
  rw [Balancer.container_withImage] at hc
  cases hcached : fleet.balancer? spec.name with
  | some b =>
    rw [hcached] at hc
    exact h.held spec.name b c hcached hc
  | none =>
    rw [hcached] at hc
    have hfound : c ∈ Cluster.sortByName (inv.balancers spec.name) := List.mem_of_mem_head? hc
    exact .of_mem_balancers h.keyed ((Cluster.perm_sortByName _).mem_iff.1 hfound)

lemma of_table (h : Rooted fleet inv) (htable : inv'.table = inv.table) : Rooted fleet inv' := by
  refine ⟨h.keyed.of_table htable, h.named, fun cluster b c hget hc => ?_⟩
  refine (h.held cluster b c hget hc).of_entries ?_
  rw [Inventory.entries_of_table htable]

lemma track (h : Rooted fleet inv) (cluster : String) : Rooted (fleet.track cluster) inv := by
  refine ⟨h.keyed, h.named.track cluster, fun cluster' b c hget => ?_⟩
  rw [Fleet.balancer?_track] at hget
  exact h.held cluster' b c hget

lemma forget (h : Rooted fleet inv) (cluster : String) : Rooted (fleet.forget cluster) inv := by
  refine ⟨h.keyed, h.named.forget cluster, fun cluster' b c hget => ?_⟩
  rw [Fleet.balancer?_forget] at hget
  by_cases hsame : cluster' = cluster
  · rw [if_pos hsame] at hget
    cases hget
  · rw [if_neg hsame] at hget
    exact h.held cluster' b c hget

lemma arrange (h : Rooted fleet inv) {a : Arrangement} (ha : a.KeepsContainers) :
    Rooted fleet (inv.arrange a) := by
  cases a with
  | add | remove => exact ha.elim
  | setAddress name address =>
    refine ⟨h.keyed.arrange _, h.named, fun cluster b c hget hc => ?_⟩
    have hheld := h.held cluster b c hget hc
    rcases inv.entries_setAddress name address with hsame | ⟨e, he, hinsert⟩
    · refine hheld.of_entries ?_
      rw [Inventory.arrange, hsame]
    · exact hheld.replace hinsert he rfl
  | failNext | failAddress | clearAddressFault | stall | unstall | clearCalls =>
    exact h.of_table rfl

/-- A task of whoever works for a cluster leaves the fleet rooted. -/
lemma effect (h : Rooted fleet inv) {plan : Plan} {b' : Balancer}
    (heffect : (fleet.worker spec inv).Effect plan inv inv' b') :
    Rooted (fleet.keep spec.name b') inv' := by
  have hcluster := Fleet.cluster_worker h.named spec inv
  refine ⟨heffect.keyed h.keyed, h.named.keep (heffect.cluster_eq.trans hcluster), ?_⟩
  intro cluster b c hget hc
  rw [Fleet.balancer?_keep] at hget
  by_cases hsame : cluster = spec.name
  · rw [if_pos hsame] at hget
    cases hget
    rw [hsame, ← hcluster]
    refine heffect.holds_own (fun c' hc' => ?_) hc
    rw [hcluster]
    exact h.worker hc'
  · rw [if_neg hsame] at hget
    have hheld := h.held cluster b c hget hc
    refine heffect.holds hheld fun c' hc' _ hname => hsame ?_
    -- containers of two clusters have two names
    have hother := (h.worker hc').isBalancer
    rw [← hname] at hother
    exact hheld.isBalancer.cluster_eq hother

lemma perform (h : Rooted fleet inv)
    (hrun : fleet.perform Inventory.engine t.1 spec task inv = (fleet', q, e)) :
    Rooted fleet' q.engine := by
  rcases Fleet.perform_effect h.keyed hrun with ⟨b', heffect, rfl, -⟩ | ⟨rfl, htable, -⟩
  · exact h.effect heffect
  · exact (h.track spec.name).of_table htable

/-- A task for a cluster touches no container but those that are labelled as its balancer, and
creates none but the one named after it. -/
lemma get?_perform (h : Rooted fleet inv)
    (hrun : fleet.perform Inventory.engine t.1 spec task inv = (fleet', q, e))
    (hname : ¬ inv.IsBalancer spec.name name)
    (hfree : inv.contains name = false → name ≠ spec.name ++ "-lb") :
    q.engine.entries.get? name = inv.entries.get? name := by
  rcases Fleet.perform_effect h.keyed hrun with ⟨b', heffect, -⟩ | ⟨-, htable, -⟩
  · refine heffect.get?_eq ?_ ?_
    · rintro c hc rfl
      exact hname (h.worker hc).isBalancer
    · unfold Balancer.containerName
      rw [Fleet.cluster_worker h.named]
      exact hfree
  · rw [Inventory.entries_of_table htable]

variable {site : Site}

lemma step (h : Rooted site.fleet site.inventory) {d : Deed} (hd : d.ThroughFleet) :
    Rooted (site.step d).fleet (site.step d).inventory := by
  cases d with
  | arrange a => exact h.arrange hd
  | perform spec task token =>
    simp only [Site.step]
    exact h.perform rfl
  | forget cluster => exact h.forget cluster
  | lookUp | work | takeImage => exact hd.elim

lemma after (h : Rooted site.fleet site.inventory) {deeds : List Deed}
    (hdeeds : ∀ d ∈ deeds, d.ThroughFleet) :
    Rooted (site.after deeds).fleet (site.after deeds).inventory := by
  induction deeds generalizing site with
  | nil => exact h
  | cons d rest ih =>
    exact ih (h.step (hdeeds d List.mem_cons_self)) fun d' hd' =>
      hdeeds d' (List.mem_cons_of_mem _ hd')

lemma plan_after (h : Rooted site.fleet site.inventory) {deeds : List Deed}
    (hdeeds : ∀ d ∈ deeds, d.ThroughFleet) :
    (site.after deeds).fleet.plan = site.fleet.plan := by
  induction deeds generalizing site with
  | nil => rfl
  | cons d rest ih =>
    have hrest := ih (h.step (hdeeds d List.mem_cons_self)) fun d' hd' =>
      hdeeds d' (List.mem_cons_of_mem _ hd')
    exact hrest.trans (Site.plan_step ⟨h.keyed, h.named⟩ d)

end Rooted

namespace Fleet

variable {fleet fleet' : Fleet} {inv : Inventory} {spec : ClusterSpec} {t : Token} {b : Balancer}
  {c : Container} {cluster : String} {task : Balancer.Task} {q : Progress Inventory}
  {e : Ending BalancerError Balancer.Answer}

lemma worker_of_attached (hb : fleet.balancer? spec.name = some b) (hc : b.container = some c) :
    fleet.worker spec inv = b := by
  unfold worker Balancer.withImage
  rw [hb, Option.getD_some, hc]

/-- A balancer that works without a container has the image that is asked for. -/
lemma image_worker (h : (fleet.worker spec inv).container = none) :
    (fleet.worker spec inv).image = spec.resolveImage fleet.plan.image := by
  unfold worker Balancer.withImage at h ⊢
  split at h
  · next heq => cases h.symm.trans heq
  · rfl

lemma balancer?_perform_of_ne (hkeyed : inv.Keyed) (hother : spec.name ≠ cluster)
    (hrun : fleet.perform Inventory.engine t.1 spec task inv = (fleet', q, e)) :
    fleet'.balancer? cluster = fleet.balancer? cluster := by
  rcases perform_effect hkeyed hrun with ⟨b', -, rfl, -⟩ | ⟨rfl, -, -⟩
  · rw [balancer?_keep, if_neg (Ne.symm hother)]
  · exact balancer?_track fleet spec.name cluster

/-- A balancer that is attached stays as it is, whatever is done for its cluster but deleting its
container. -/
theorem stays (hkeyed : inv.Keyed) (hb : fleet.balancer? cluster = some b)
    (hc : b.container = some c)
    (hrun : fleet.perform Inventory.engine t.1 spec task inv = (fleet', q, e))
    (hdelete : spec.name = cluster → task = .delete → e.Fails) :
    fleet'.balancer? cluster = some b := by
  by_cases hsame : spec.name = cluster
  · rw [← hsame] at hb ⊢
    rcases perform_cases hrun with ⟨p, e', htable, hwork, rfl, rfl⟩ | ⟨rfl, -, -⟩
    · rw [balancer?_keep, if_pos rfl]
      rw [worker_of_attached hb hc] at hwork ⊢
      rcases Balancer.perform_exact (hkeyed.of_table htable) hwork with
        ⟨b', answer, rfl, hachieves⟩ | ⟨hfails, -⟩
      · generalize q.engine.table = table at hachieves
        cases hachieves with
        | alreadyCreated | updated | addressed | nothingToDelete | reported => rfl
        | created absent => cases hc.symm.trans absent
        | deleted => exact (hdelete hsame rfl _ rfl).elim
      · rw [kept_of_fails hfails]
    · rw [balancer?_track]
      exact hb
  · rw [balancer?_perform_of_ne hkeyed hsame hrun]
    exact hb

end Fleet

/-- A balancer that is attached stays as it is, whatever is done through the fleet but deleting its
container and forgetting its cluster. -/
theorem Site.stays {site : Site} (hkeyed : site.inventory.Keyed) {cluster : String} {b : Balancer}
    {c : Container} (hb : site.fleet.balancer? cluster = some b) (hc : b.container = some c)
    {d : Deed} (hd : d.ThroughFleet) (hforget : d ≠ .forget cluster)
    (hdelete : ∀ spec (token : Token), d = .perform spec .delete token → spec.name = cluster →
      (site.fleet.perform Inventory.engine token.1 spec .delete site.inventory).2.2.Fails) :
    (site.step d).fleet.balancer? cluster = some b := by
  cases d with
  | arrange a => exact hb
  | perform spec task token =>
    simp only [step]
    refine Fleet.stays hkeyed hb hc (e := (site.fleet.perform Inventory.engine token.1 spec task
      site.inventory).2.2) rfl ?_
    rintro hname rfl
    exact hdelete spec token rfl hname
  | forget cluster' =>
    have hother : cluster ≠ cluster' := fun hsame => hforget (congrArg Deed.forget hsame.symm)
    change (site.fleet.forget cluster').balancer? cluster = some b
    rw [Fleet.balancer?_forget, if_neg hother]
    exact hb
  | lookUp | work | takeImage => exact hd.elim

end ApiBalancer
