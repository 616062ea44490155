import ApiBalancer.Proofs.Site

/-!
# Fleet and inventory in agreement

As long as nobody adds or removes containers behind its back, a fleet knows of each cluster's
balancer container exactly what the inventory has: `fleet_agrees`.
-/

namespace ApiBalancer

namespace Inventory

variable {inv inv' : Inventory} {cluster name : String} {only : Option String}

/-- Whether the container of a name is labelled as balancer of the cluster. -/
def IsBalancer (inv : Inventory) (cluster name : String) : Prop :=
  ∃ e, inv.entries.get? name = some e ∧
    (LabelQuery.nodes cluster .externalLoadBalancer).Matches e.container.labels

/-- Whether `only` is the name of the one balancer container of the cluster, or there is none. -/
def Only (inv : Inventory) (cluster : String) (only : Option String) : Prop :=
  ∀ name, inv.IsBalancer cluster name ↔ only = some name

/-- The balancer containers of a cluster, in the order of their names. -/
def balancers (inv : Inventory) (cluster : String) : List Container :=
  inv.answering (.nodes cluster .externalLoadBalancer)

lemma IsBalancer.cluster_eq {cluster' : String} (h : inv.IsBalancer cluster name)
    (h' : inv.IsBalancer cluster' name) : cluster = cluster' := by
  obtain ⟨e, he, hmatches⟩ := h
  obtain ⟨e', he', hmatches'⟩ := h'
  cases he.symm.trans he'
  have hlabel := (LabelQuery.nodes_matches.1 hmatches).1
  have hlabel' := (LabelQuery.nodes_matches.1 hmatches').1
  exact Option.some.inj (hlabel.symm.trans hlabel')

lemma pairwise_answering (hkeyed : inv.Keyed) (query : LabelQuery) :
    ((inv.answering query).map (·.name)).Pairwise (· < ·) := by
  have hsub : ((inv.answering query).map (·.name)).Sublist
      ((inv.entries.values.map (·.container)).map (·.name)) :=
    List.filter_sublist.map _
  have hkeys : (inv.entries.values.map (·.container)).map (·.name) = inv.entries.keys := by
    unfold NameMap.values NameMap.keys
    rw [List.map_map, List.map_map]
    apply List.map_congr_left
    rintro ⟨name, e⟩ hmem
    exact hkeyed name e ((NameMap.mem_entries_iff _ _ _).1 hmem)
  rw [hkeys] at hsub
  have hsorted : inv.entries.keys.Pairwise (· < ·) := List.pairwise_map.2 inv.entries.sorted
  exact hsorted.sublist hsub

lemma nodup_answering (hkeyed : inv.Keyed) (query : LabelQuery) :
    ((inv.answering query).map (·.name)).Nodup := by
  refine (pairwise_answering hkeyed query).imp ?_
  intro a b hlt heq
  rw [heq] at hlt
  exact String.lt_irrefl b hlt

/-- Inventories in which the same containers answer a query answer it in the same way. -/
lemma answering_ext (hkeyed : inv.Keyed) (hkeyed' : inv'.Keyed) {query : LabelQuery}
    (hmem : ∀ c, c ∈ inv.answering query ↔ c ∈ inv'.answering query) :
    inv.answering query = inv'.answering query := by
  have hsorted := List.pairwise_map.1 (pairwise_answering hkeyed query)
  have hsorted' := List.pairwise_map.1 (pairwise_answering hkeyed' query)
  have hne : ∀ {c d : Container}, c.name < d.name → c ≠ d := by
    rintro c d hlt rfl
    exact String.lt_irrefl c.name hlt
  have hperm : (inv.answering query).Perm (inv'.answering query) :=
    (List.perm_ext_iff_of_nodup (hsorted.imp hne) (hsorted'.imp hne)).2 hmem
  refine hperm.eq_of_pairwise ?_ hsorted hsorted'
  intro c d _ _ hlt hgt
  exact (String.lt_asymm hlt hgt).elim

lemma mem_balancers_names (hkeyed : inv.Keyed) :
    name ∈ (inv.balancers cluster).map (·.name) ↔ inv.IsBalancer cluster name :=
  mem_answering_names hkeyed

lemma Only.names_eq (h : inv.Only cluster only) (hkeyed : inv.Keyed) :
    (inv.balancers cluster).map (·.name) = only.toList := by
  have hnodup := nodup_answering hkeyed (.nodes cluster .externalLoadBalancer)
  have hmem : ∀ name, name ∈ (inv.balancers cluster).map (·.name) ↔ only = some name :=
    fun name => (mem_balancers_names hkeyed).trans (h name)
  change ((inv.balancers cluster).map (·.name)).Nodup at hnodup
  generalize (inv.balancers cluster).map (·.name) = names at hmem hnodup
  cases names with
  | nil =>
    cases honly : only with
    | none => rfl
    | some name => cases (hmem name).2 honly
  | cons name rest =>
    obtain rfl := (hmem name).1 List.mem_cons_self
    cases rest with
    | nil => rfl
    | cons other rest =>
      cases (hmem other).1 (by simp)
      simp at hnodup

lemma Only.length_le (h : inv.Only cluster only) (hkeyed : inv.Keyed) :
    (inv.balancers cluster).length ≤ 1 := by
  rw [← List.length_map (·.name), h.names_eq hkeyed]
  cases only <;> simp

lemma exists_only (hkeyed : inv.Keyed) (hone : (inv.balancers cluster).length ≤ 1) :
    ∃ only, inv.Only cluster only := by
  refine ⟨((inv.balancers cluster).map (·.name)).head?, fun name => ?_⟩
  rw [← mem_balancers_names hkeyed]
  rw [← List.length_map (·.name)] at hone
  generalize (inv.balancers cluster).map (·.name) = names at hone
  cases names with
  | nil => simp
  | cons first rest =>
    cases rest with
    | nil => simp [eq_comm]
    | cons second rest => simp at hone

lemma isBalancer_insert {key : String} {e : Entry} (h : inv'.entries = inv.entries.insert key e) :
    inv'.IsBalancer cluster name ↔
      if name = key then (LabelQuery.nodes cluster .externalLoadBalancer).Matches e.container.labels
      else inv.IsBalancer cluster name := by
  unfold IsBalancer
  rw [h]
  by_cases hsame : name = key
  · simp [hsame]
  · simp [hsame, NameMap.get?_insert_of_ne hsame]

lemma isBalancer_erase {key : String} (h : inv'.entries = inv.entries.erase key) :
    inv'.IsBalancer cluster name ↔ name ≠ key ∧ inv.IsBalancer cluster name := by
  unfold IsBalancer
  rw [h]
  by_cases hsame : name = key
  · simp [hsame, NameMap.get?_erase]
  · simp [hsame, NameMap.get?_erase]

/-- An entry that is replaced with the same container changes no container's labels. -/
lemma isBalancer_replace {key : String} {e e' : Entry}
    (h : inv'.entries = inv.entries.insert key e') (he : inv.entries.get? key = some e)
    (hsame : e'.container = e.container) :
    inv'.IsBalancer cluster name ↔ inv.IsBalancer cluster name := by
  rw [isBalancer_insert h]
  by_cases hname : name = key
  · rw [if_pos hname, hname, hsame]
    unfold IsBalancer
    simp [he]
  · rw [if_neg hname]

end Inventory

/-! ### The invariant -/

/-- A fleet agrees with an inventory if no cluster has several balancer containers, and every
balancer that is kept is attached to the one of its cluster, or to none if there is none. -/
structure Agrees (fleet : Fleet) (inv : Inventory) : Prop where
  keyed : inv.Keyed
  single : ∀ cluster, ∃ only, inv.Only cluster only
  kept : ∀ cluster b, fleet.balancer? cluster = some b →
    b.cluster = cluster ∧ inv.Only cluster (b.container.map (·.name))

namespace Agrees

variable {fleet : Fleet} {inv inv' : Inventory}

lemma named (h : Agrees fleet inv) : fleet.Named := fun cluster b hget => (h.kept cluster b hget).1

lemma of_isBalancer (h : Agrees fleet inv) (hkeyed : inv'.Keyed)
    (hsame : ∀ cluster name, inv'.IsBalancer cluster name ↔ inv.IsBalancer cluster name) :
    Agrees fleet inv' := by
  have honly : ∀ {cluster only}, inv.Only cluster only → inv'.Only cluster only :=
    fun h name => (hsame _ name).trans (h name)
  refine ⟨hkeyed, ?_, ?_⟩
  · intro cluster
    obtain ⟨only, hthere⟩ := h.single cluster
    exact ⟨only, honly hthere⟩
  · intro cluster b hget
    obtain ⟨hcluster, hthere⟩ := h.kept cluster b hget
    exact ⟨hcluster, honly hthere⟩

lemma of_table (h : Agrees fleet inv) (htable : inv'.table = inv.table) : Agrees fleet inv' := by
  refine h.of_isBalancer (h.keyed.of_table htable) fun cluster name => ?_
  unfold Inventory.IsBalancer
  rw [Inventory.entries_of_table htable]

/-- A fleet that keeps another balancer for a cluster agrees with an inventory in which only that
cluster's balancer container has changed. -/
lemma keep (h : Agrees fleet inv) (hkeyed : inv'.Keyed) {cluster : String} {b : Balancer}
    (hb : b.cluster = cluster) (honly : inv'.Only cluster (b.container.map (·.name)))
    (hothers : ∀ cluster' name, cluster' ≠ cluster →
      (inv'.IsBalancer cluster' name ↔ inv.IsBalancer cluster' name)) :
    Agrees (fleet.keep cluster b) inv' := by
  refine ⟨hkeyed, ?_, ?_⟩
  · intro cluster'
    by_cases hsame : cluster' = cluster
    · rw [hsame]
      exact ⟨_, honly⟩
    · obtain ⟨only, hthere⟩ := h.single cluster'
      exact ⟨only, fun name => (hothers cluster' name hsame).trans (hthere name)⟩
  · intro cluster' b' hget
    rw [Fleet.balancer?_keep] at hget
    by_cases hsame : cluster' = cluster
    · rw [if_pos hsame] at hget
      cases hget
      rw [hsame]
      exact ⟨hb, honly⟩
    · rw [if_neg hsame] at hget
      obtain ⟨hcluster, hthere⟩ := h.kept cluster' b' hget
      exact ⟨hcluster, fun name => (hothers cluster' name hsame).trans (hthere name)⟩

lemma track (h : Agrees fleet inv) (cluster : String) : Agrees (fleet.track cluster) inv := by
  refine ⟨h.keyed, h.single, fun cluster' b hget => ?_⟩
  rw [Fleet.balancer?_track] at hget
  exact h.kept cluster' b hget

lemma forget (h : Agrees fleet inv) (cluster : String) : Agrees (fleet.forget cluster) inv := by
  refine ⟨h.keyed, h.single, fun cluster' b hget => ?_⟩
  rw [Fleet.balancer?_forget] at hget
  by_cases hsame : cluster' = cluster
  · rw [if_pos hsame] at hget
    cases hget
  · rw [if_neg hsame] at hget
    exact h.kept cluster' b hget

/-- The balancer that works for a cluster knows the cluster's container, also if it has just been
looked up. -/
lemma worker (h : Agrees fleet inv) (spec : ClusterSpec) :
    inv.Only spec.name ((fleet.worker spec inv).container.map (·.name)) := by
  have hcontainer : ∀ (b : Balancer) image, (b.withImage image).container = b.container := by
    intro b image
    unfold Balancer.withImage
    split <;> rfl
  unfold Fleet.worker
  rw [hcontainer]
  cases hcached : fleet.balancer? spec.name with
  | some b => exact (h.kept spec.name b hcached).2
  | none =>
    obtain ⟨only, honly⟩ := h.single spec.name
    have hnames := honly.names_eq h.keyed
    have hperm := (Cluster.perm_sortByName (inv.balancers spec.name)).map (·.name)
    rw [hnames] at hperm
    have hfound : ((fleet.found spec inv).container.map (·.name)) = only := by
      change (Cluster.sortByName (inv.balancers spec.name)).head?.map (·.name) = only
      rw [← List.head?_map]
      cases only with
      | none => rw [List.Perm.eq_nil hperm]; rfl
      | some name => rw [List.perm_singleton.1 hperm]; rfl
    rw [Option.getD_none, hfound]
    exact honly

/-- A fleet that keeps what a task has made of a cluster's balancer agrees with the inventory after
the task. -/
lemma effect (h : Agrees fleet inv) {plan : Plan} {cluster : String} {b b' : Balancer}
    (hb : b.cluster = cluster) (honly : inv.Only cluster (b.container.map (·.name)))
    (heffect : b.Effect plan inv inv' b') : Agrees (fleet.keep cluster b') inv' := by
  have hkeyed := heffect.keyed h.keyed
  have hb' := heffect.cluster_eq.trans hb
  cases heffect with
  | none same =>
    exact (h.of_table same).keep hkeyed hb' (fun name => by
      unfold Inventory.IsBalancer
      rw [Inventory.entries_of_table same]
      exact honly name) fun _ _ _ => Iff.rfl
  | created absent free table =>
    have hentries := congrArg Prod.fst table
    refine h.keep hkeyed hb' ?_ ?_
    · intro name
      rw [Inventory.isBalancer_insert hentries, honly name, absent]
      by_cases hname : name = b.containerName
      · simp [hname, hb, LabelQuery.nodes_matches_node]
      · rw [if_neg hname]
        simp [Ne.symm hname]
    · intro cluster' name hother
      rw [Inventory.isBalancer_insert hentries]
      by_cases hname : name = b.containerName
      · have hnone : inv.entries.get? b.containerName = none := by
          simpa [Inventory.contains, NameMap.contains] using free
        rw [if_pos hname, LabelQuery.nodes_matches_node, hname]
        unfold Inventory.IsBalancer
        simp [hnone, hb, hother]
      · rw [if_neg hname]
  | documented c e₀ backends document signals attached found complete table =>
    have hsame : ∀ cluster name, inv'.IsBalancer cluster name ↔ inv.IsBalancer cluster name :=
      fun _ _ => Inventory.isBalancer_replace (congrArg Prod.fst table) found rfl
    exact (h.of_isBalancer hkeyed hsame).keep hkeyed hb'
      (fun name => (hsame cluster name).trans (honly name)) fun _ _ _ => Iff.rfl
  | deleted c attached table =>
    have hentries := congrArg Prod.fst table
    have hthere : inv.IsBalancer cluster c.name := (honly c.name).2 (by rw [attached]; rfl)
    refine h.keep hkeyed hb' ?_ ?_
    · intro name
      rw [Inventory.isBalancer_erase hentries, honly name, attached]
      simp [eq_comm]
    · intro cluster' name hother
      rw [Inventory.isBalancer_erase hentries]
      constructor
      · exact fun hboth => hboth.2
      · intro hbalancer
        refine ⟨fun hname => hother ?_, hbalancer⟩
        rw [hname] at hbalancer
        exact hbalancer.cluster_eq hthere

end Agrees

/-- Whether a change from outside leaves all containers where they are. -/
def Arrangement.KeepsContainers : Arrangement → Prop
  | .add .. | .remove .. => False
  | _ => True

/-- Whether something is done through the fleet, or to the inventory without adding or removing
containers. -/
def Deed.ThroughFleet : Deed → Prop
  | .arrange a => a.KeepsContainers
  | .perform .. | .forget .. => True
  | .lookUp .. | .work .. | .takeImage .. => False

namespace Agrees

variable {site : Site}

lemma arrange {fleet : Fleet} {inv : Inventory} (h : Agrees fleet inv) {a : Arrangement}
    (ha : a.KeepsContainers) : Agrees fleet (inv.arrange a) := by
  cases a with
  | add | remove => exact ha.elim
  | setAddress name address =>
    refine h.of_isBalancer (h.keyed.arrange _) fun cluster name' => ?_
    rcases inv.entries_setAddress name address with hsame | ⟨e, he, hinsert⟩
    · unfold Inventory.IsBalancer
      rw [Inventory.arrange, hsame]
    · exact Inventory.isBalancer_replace hinsert he rfl
  | failNext | failAddress | clearAddressFault | stall | unstall | clearCalls =>
    exact h.of_table rfl

lemma perform {fleet fleet' : Fleet} {inv : Inventory} (h : Agrees fleet inv) {t : Token}
    {spec : ClusterSpec} {task : Balancer.Task} {q : Progress Inventory}
    {e : Ending BalancerError Balancer.Answer}
    (hrun : fleet.perform Inventory.engine t.1 spec task inv = (fleet', q, e)) :
    Agrees fleet' q.engine ∧ ∀ answer, e = .finished (.ok answer) →
      (task = .create → (q.engine.balancers spec.name).length = 1) ∧
      (task = .delete → q.engine.balancers spec.name = []) := by
  rcases Fleet.perform_effect h.keyed hrun with ⟨b', heffect, rfl, hend⟩ | ⟨rfl, htable, hfails⟩
  · have hagrees := h.effect (Fleet.cluster_worker h.named spec inv) (h.worker spec) heffect
    refine ⟨hagrees, ?_⟩
    rintro answer rfl
    rcases hend with ⟨_, -, hcreate, hdelete⟩ | hfails
    · have hkept : (fleet.keep spec.name b').balancer? spec.name = some b' := by
        rw [Fleet.balancer?_keep, if_pos rfl]
      have hnames := ((hagrees.kept spec.name b' hkept).2).names_eq hagrees.keyed
      constructor
      · intro htask
        obtain ⟨c, hc⟩ := Option.isSome_iff_exists.1 (hcreate htask)
        rw [hc] at hnames
        rw [← List.length_map (·.name), hnames]
        rfl
      · intro htask
        rw [hdelete htask] at hnames
        exact List.map_eq_nil_iff.1 hnames
    · exact (hfails answer rfl).elim
  · refine ⟨(h.track spec.name).of_table htable, ?_⟩
    rintro answer rfl
    exact (hfails answer rfl).elim

lemma step (h : Agrees site.fleet site.inventory) {d : Deed} (hd : d.ThroughFleet) :
    Agrees (site.step d).fleet (site.step d).inventory := by
  cases d with
  | arrange a => exact h.arrange hd
  | perform spec task token =>
    simp only [Site.step]
    exact (h.perform rfl).1
  | forget cluster => exact h.forget cluster
  | lookUp | work | takeImage => exact hd.elim

lemma after (h : Agrees site.fleet site.inventory) {deeds : List Deed}
    (hdeeds : ∀ d ∈ deeds, d.ThroughFleet) :
    Agrees (site.after deeds).fleet (site.after deeds).inventory := by
  induction deeds generalizing site with
  | nil => exact h
  | cons d rest ih =>
    exact ih (h.step (hdeeds d List.mem_cons_self)) fun d' hd' =>
      hdeeds d' (List.mem_cons_of_mem _ hd')

end Agrees

/-- A new fleet on an inventory with at most one balancer container for each cluster stays in
agreement with it, whatever is asked of the fleet and however that fails or hangs: no cluster gets
several balancer containers, a balancer that is kept is attached exactly to the one that is there,
and a creation that succeeds leaves one there, a deletion that succeeds none. -/
theorem fleet_agrees (plan : Plan) (inv : Inventory) (history : List Deed)
    (hattainable : inv.Attainable)
    (hone : ∀ cluster, (inv.balancers cluster).length ≤ 1)
    (hfleet : ∀ d ∈ history, d.ThroughFleet) :
    let site := Site.after { fleet := { plan }, inventory := inv } history
    (∀ cluster, (site.inventory.balancers cluster).length ≤ 1) ∧
    (∀ cluster b, site.fleet.balancer? cluster = some b →
      (site.inventory.balancers cluster).map (·.name) = (b.container.map (·.name)).toList) ∧
    ∀ (spec : ClusterSpec) (token : Token),
      let created := site.fleet.perform Inventory.engine token.1 spec .create site.inventory
      let deleted := site.fleet.perform Inventory.engine token.1 spec .delete site.inventory
      (∀ answer, created.2.2 = .finished (.ok answer) →
        (created.2.1.engine.balancers spec.name).length = 1) ∧
      (∀ answer, deleted.2.2 = .finished (.ok answer) →
        deleted.2.1.engine.balancers spec.name = []) := by
  intro site
  have hkeyed := hattainable.keyed
  let first : Site := { fleet := { plan }, inventory := inv }
  have hfirst : Agrees first.fleet first.inventory := by
    refine ⟨hkeyed, fun cluster => Inventory.exists_only hkeyed (hone cluster), ?_⟩
    intro cluster b hget
    cases hget
  have hsite : Agrees site.fleet site.inventory := hfirst.after hfleet
  refine ⟨?_, ?_, ?_⟩
  · intro cluster
    obtain ⟨only, honly⟩ := hsite.single cluster
    exact honly.length_le hsite.keyed
  · intro cluster b hget
    exact ((hsite.kept cluster b hget).2).names_eq hsite.keyed
  · intro spec token created deleted
    constructor
    · intro answer hend
      exact ((hsite.perform rfl).2 answer hend).1 rfl
    · intro answer hend
      exact ((hsite.perform rfl).2 answer hend).2 rfl

/-- A fleet that finds a container, fails to delete it, creates another one and forgets. -/
theorem fleet_agrees_after_failure :
    let inv : Inventory := ({} : Inventory).arrange
      (.add (.node "kind-lb" "kind" .externalLoadBalancer) "172.18.0.7")
    let history : List Deed :=
      [.perform { name := "kind" } .status .never,
        .arrange (.failNext .delete "busy"),
        .perform { name := "kind" } .delete .never,
        .perform { name := "other" } .create .never,
        .perform { name := "other" } .update ⟨.before 0, fun _ => rfl⟩,
        .forget "other"]
    inv.Attainable ∧ (∀ cluster, (inv.balancers cluster).length ≤ 1) ∧
      (∀ d ∈ history, d.ThroughFleet) ∧
      let site := Site.after { inventory := inv } history
      (∀ cluster, (site.inventory.balancers cluster).length ≤ 1) ∧
      ∀ cluster b, site.fleet.balancer? cluster = some b →
        (site.inventory.balancers cluster).map (·.name) = (b.container.map (·.name)).toList := by
  intro inv history
  have hattainable : inv.Attainable := .arrange _ .empty
  have hone : ∀ cluster, (inv.balancers cluster).length ≤ 1 := fun cluster =>
    List.length_filter_le _ _
  have hfleet : ∀ d ∈ history, d.ThroughFleet := by
    simp [history, Deed.ThroughFleet, Arrangement.KeepsContainers]
  have hagrees := fleet_agrees {} inv history hattainable hone hfleet
  exact ⟨hattainable, hone, hfleet, hagrees.1, hagrees.2.1⟩

end ApiBalancer
