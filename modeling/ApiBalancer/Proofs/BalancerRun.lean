import ApiBalancer.Proofs.InventoryRun
import ApiBalancer.Proofs.UpdateScript

/-!
# Balancers on an inventory

What each operation of a balancer does to the table of containers, and how it ends. An operation
that fails leaves the table as it was; only an update that fails in its reload leaves the new
document behind.
-/

namespace ApiBalancer

open Procedure

variable {α : Type}

@[simp] lemma Container.name_node (name cluster : String) (role : Role) :
    (node name cluster role).name = name := rfl

namespace LabelQuery

lemma nodes_matches {cluster : String} {role : Role} {labels : Labels} :
    (nodes cluster role).Matches labels ↔
      labels.get? Label.cluster = some cluster ∧ labels.get? Label.role = some role.name := by
  have hne : Label.cluster ≠ Label.role := by decide
  have hquery : ∀ k v, (k, v) ∈ (nodes cluster role).toList ↔
      k = Label.role ∧ role.name = v ∨ k = Label.cluster ∧ cluster = v := by
    intro k v
    change (k, v) ∈ NameMap.entries _ ↔ _
    rw [NameMap.mem_entries_iff]
    simp only [nodes, withCluster, withRole, withLabel, NameMap.get?_insert]
    by_cases hrole : k = Label.role
    · simp [hrole, hne.symm]
    · by_cases hcluster : k = Label.cluster
      · simp [hcluster, hne]
      · simp [hrole, hcluster]
  constructor
  · intro h
    exact ⟨h _ ((hquery _ _).2 (.inr ⟨rfl, rfl⟩)), h _ ((hquery _ _).2 (.inl ⟨rfl, rfl⟩))⟩
  · rintro ⟨hcluster, hrole⟩ ⟨k, v⟩ hmem
    rcases (hquery k v).1 hmem with ⟨rfl, rfl⟩ | ⟨rfl, rfl⟩
    · exact hrole
    · exact hcluster

lemma nodes_matches_node {cluster cluster' name : String} {role role' : Role} :
    (nodes cluster role).Matches (Container.node name cluster' role').labels ↔
      cluster = cluster' ∧ role.name = role'.name := by
  have hne : Label.cluster ≠ Label.role := by decide
  rw [nodes_matches]
  simp only [Container.node, Container.withLabel, NameMap.get?_insert_self,
    NameMap.get?_insert_of_ne hne, Option.some.injEq]
  exact ⟨fun ⟨h, h'⟩ => ⟨h.symm, h'.symm⟩, fun ⟨h, h'⟩ => ⟨h.symm, h'.symm⟩⟩

end LabelQuery

namespace Inventory

/-- Whether every container stands under its own name. -/
def Keyed (inv : Inventory) : Prop :=
  ∀ name e, inv.entries.get? name = some e → e.container.name = name

lemma mem_answering {inv : Inventory} {query : LabelQuery} {c : Container} :
    c ∈ inv.answering query ↔
      query.Matches c.labels ∧ ∃ name e, inv.entries.get? name = some e ∧ e.container = c := by
  unfold answering NameMap.values
  simp only [List.mem_filter, List.mem_map, decide_eq_true_eq]
  constructor
  · rintro ⟨⟨_, ⟨⟨name, e⟩, hmem, rfl⟩, rfl⟩, hmatches⟩
    exact ⟨hmatches, name, e, (NameMap.mem_entries_iff _ _ _).1 hmem, rfl⟩
  · rintro ⟨hmatches, name, e, hget, rfl⟩
    exact ⟨⟨e, ⟨(name, e), (NameMap.mem_entries_iff _ _ _).2 hget, rfl⟩, rfl⟩, hmatches⟩

lemma mem_answering_names {inv : Inventory} (hkeyed : inv.Keyed) {query : LabelQuery}
    {name : String} :
    name ∈ (inv.answering query).map (·.name) ↔
      ∃ e, inv.entries.get? name = some e ∧ query.Matches e.container.labels := by
  rw [List.mem_map]
  constructor
  · rintro ⟨c, hc, rfl⟩
    obtain ⟨hmatches, name, e, hget, rfl⟩ := mem_answering.1 hc
    rw [hkeyed name e hget]
    exact ⟨e, hget, hmatches⟩
  · rintro ⟨e, hget, hmatches⟩
    exact ⟨e.container, mem_answering.2 ⟨hmatches, name, e, hget, rfl⟩, hkeyed name e hget⟩

/-- The backend of a node at the address that its container has. -/
def backend (inv : Inventory) (name : String) : Backend :=
  .reachable name ((inv.addressOf? name).getD "") Endpoint.controlPlanePort

/-- Whether `s` holds exactly the containers that are labelled as control plane of the cluster, each
with its address, and `document` is the document of `s`. -/
structure CompleteDocument (inv : Inventory) (plan : Plan) (cluster : String) (s : BackendSet)
    (document : ByteArray) : Prop where
  backends : ∀ name endpoint, s.get? name = some endpoint ↔
    ∃ e, inv.entries.get? name = some e ∧
      e.container.labels.get? Label.cluster = some cluster ∧
      e.container.labels.get? Label.role = some Role.controlPlane.name ∧
      endpoint = Endpoint.join e.address Endpoint.controlPlanePort
  rendered : plan.renderer.render s plan.options = .ok document

lemma entries_of_table {inv inv' : Inventory} (h : inv.table = inv'.table) :
    inv.entries = inv'.entries :=
  congrArg Prod.fst h

/-- The backends that an update makes of the nodes that it finds. -/
lemma get?_backends {inv : Inventory} (hkeyed : inv.Keyed) (cluster name endpoint : String) :
    (BackendSet.ofList ((Cluster.sortByName (inv.answering (.nodes cluster .controlPlane))).map
        fun node => inv.backend node.name)).get? name = some endpoint ↔
      ∃ e, inv.entries.get? name = some e ∧
        e.container.labels.get? Label.cluster = some cluster ∧
        e.container.labels.get? Label.role = some Role.controlPlane.name ∧
        endpoint = Endpoint.join e.address Endpoint.controlPlanePort := by
  have hget := NameMap.get?_ofList_map
    (Cluster.sortByName (inv.answering (.nodes cluster .controlPlane))) (·.name)
    (fun k => (inv.backend k).endpoint) name
  have hnames : name ∈ (Cluster.sortByName
      (inv.answering (.nodes cluster .controlPlane))).map (·.name) ↔
      ∃ e, inv.entries.get? name = some e ∧
        (LabelQuery.nodes cluster .controlPlane).Matches e.container.labels := by
    rw [((Cluster.perm_sortByName _).map _).mem_iff]
    exact mem_answering_names hkeyed
  unfold BackendSet.ofList BackendSet.get?
  rw [List.map_map]
  refine (Eq.congr_left hget).trans ?_
  constructor
  · intro h
    by_cases hmem : name ∈ (Cluster.sortByName
        (inv.answering (.nodes cluster .controlPlane))).map (·.name)
    · rw [if_pos hmem] at h
      obtain ⟨e, he, hmatches⟩ := hnames.1 hmem
      obtain ⟨hcluster, hrole⟩ := LabelQuery.nodes_matches.1 hmatches
      refine ⟨e, he, hcluster, hrole, ?_⟩
      simpa [backend, addressOf?, he, Backend.reachable] using h.symm
    · rw [if_neg hmem] at h
      cases h
  · rintro ⟨e, he, hcluster, hrole, rfl⟩
    rw [if_pos (hnames.2 ⟨e, he, LabelQuery.nodes_matches.2 ⟨hcluster, hrole⟩⟩)]
    simp [backend, addressOf?, he, Backend.reachable]

end Inventory

variable {t : Token} {p q : Progress Inventory}

/-- Listing nodes as a step finds those that answer, in the order of their names. -/
lemma run_step_nodes {s : Step} {cluster container : String} {role : Role}
    {f : List Container → Procedure BalancerError α} {e : Ending BalancerError α}
    (h : ((Balancer.step s cluster container (Cluster.nodes cluster role)).bind f).run
      Inventory.engine t.1 p = (q, e)) :
    (∃ r, r.engine.table = p.engine.table ∧
      (f (Cluster.sortByName (p.engine.answering (.nodes cluster role)))).run
        Inventory.engine t.1 r = (q, e)) ∨
    (q.engine.table = p.engine.table ∧ e.Fails) := by
  rw [Cluster.step_nodes, bind_assoc] at h
  rcases run_step t.2 h with ⟨found, r, hanswer, hr, h⟩ | ⟨htable, hstopped⟩
  · obtain ⟨rfl, htable⟩ := Inventory.list_ok hanswer
    rw [← hr] at htable
    exact .inl ⟨r.tell _, htable, h⟩
  · exact .inr ⟨htable, hstopped.fails⟩

lemma run_resolveEach {cluster : String} {nodes : List Container}
    {f : List Backend → Procedure BalancerError α} {e : Ending BalancerError α}
    (h : ((Cluster.resolveEach cluster Endpoint.controlPlanePort nodes).bind f).run
      Inventory.engine t.1 p = (q, e)) :
    (∃ r, r.engine.table = p.engine.table ∧
      (f (nodes.map fun node => p.engine.backend node.name)).run
        Inventory.engine t.1 r = (q, e)) ∨
    (q.engine.table = p.engine.table ∧ e.Fails) := by
  induction nodes generalizing p f with
  | nil => exact .inl ⟨p, rfl, h⟩
  | cons node rest ih =>
    rw [Cluster.resolveEach, bind_eq, bind_assoc] at h
    rcases run_step t.2 h with ⟨address, r, hanswer, hr, h⟩ | ⟨htable, hstopped⟩
    · obtain ⟨haddress, htable⟩ := Inventory.address_ok hanswer
      rw [← hr] at htable
      by_cases hempty : address.isEmpty = true
      · rw [if_pos hempty] at h
        cases h
        exact .inr ⟨htable, fails_error _⟩
      · rw [if_neg hempty, bind_eq, bind_assoc] at h
        rcases ih h with ⟨r', htable', h⟩ | ⟨htable', hfails⟩
        · have hsame : ∀ name, r.engine.backend name = p.engine.backend name := by
            intro name
            unfold Inventory.backend Inventory.addressOf?
            rw [Inventory.entries_of_table htable]
          have hnode : Backend.reachable node.name address Endpoint.controlPlanePort =
              p.engine.backend node.name := by
            unfold Inventory.backend
            rw [haddress]
            rfl
          simp only [hsame, pure_eq, done_ok_bind, hnode] at h
          exact .inl ⟨r', htable'.trans htable, h⟩
        · exact .inr ⟨htable'.trans htable, hfails⟩
    · exact .inr ⟨htable, hstopped.fails⟩

lemma run_document {plan : Plan} {b : Balancer} {backends : BackendSet}
    {f : ByteArray → Procedure BalancerError α} {e : Ending BalancerError α}
    (h : ((b.document plan backends).bind f).run Inventory.engine t.1 p = (q, e)) :
    (∃ document r, plan.renderer.render backends plan.options = .ok document ∧
      r.engine = p.engine ∧ (f document).run Inventory.engine t.1 r = (q, e)) ∨
    (q.engine = p.engine ∧ e.Fails) := by
  unfold Balancer.document at h
  split at h
  · next document hrender =>
    rw [bind_eq, bind_assoc, run_tellAll_bind] at h
    exact .inl ⟨document, p.tellAll _, hrender, rfl, h⟩
  · cases h
    exact .inr ⟨rfl, fails_error _⟩

/-- Writing the document and having it read: both are done, or only the first because the reload
stopped, or neither. -/
lemma run_publish {plan : Plan} {b : Balancer} {c : Container} {backends : BackendSet}
    {document : ByteArray} {e : Ending BalancerError Rollout}
    (h : (b.publish plan c backends document).run Inventory.engine t.1 p = (q, e)) :
    (∃ e₀, p.engine.entries.get? c.name = some e₀ ∧
      (e = .finished (.ok ⟨backends, document.size⟩) ∧
          q.engine.table = (p.engine.entries.insert c.name { e₀ with
            files := e₀.files.insert plan.renderer.path document
            signals := e₀.signals ++ [.hangup] }, p.engine.created) ∨
        e.Stopped (.cancelled .reload b.cluster) (.engine .reload b.cluster c.name) ∧
          q.engine.table = (p.engine.entries.insert c.name { e₀ with
            files := e₀.files.insert plan.renderer.path document }, p.engine.created))) ∨
    (q.engine.table = p.engine.table ∧
      e.Stopped (.cancelled .writeDocument b.cluster) (.engine .writeDocument b.cluster c.name)) := by
  rcases run_step t.2 h with ⟨_, r, hanswer, hr, h⟩ | ⟨htable, hstopped⟩
  · obtain ⟨e₀, he₀, htable⟩ := Inventory.writeFile_ok hanswer
    rw [← hr] at htable
    refine .inl ⟨e₀, he₀, ?_⟩
    rcases run_step t.2 h with ⟨_, r', hanswer', hr', h⟩ | ⟨htable', hstopped⟩
    · obtain ⟨e₁, he₁, htable'⟩ := Inventory.reload_ok hanswer'
      have hentries := congrArg Prod.fst htable
      have hcreated := congrArg Prod.snd htable
      dsimp only [Inventory.table] at hentries hcreated
      rw [hentries] at he₁
      obtain rfl := Option.some.inj ((NameMap.get?_insert_self _ _ _).symm.trans he₁)
      rw [← hr', hentries, hcreated, NameMap.insert_insert] at htable'
      cases h
      exact .inl ⟨rfl, htable'⟩
    · exact .inr ⟨hstopped, htable'.trans htable⟩
  · exact .inr ⟨htable, hstopped⟩

/-- What an update does before it writes: it makes the document of all nodes. -/
def Balancer.prepare (plan : Plan) (b : Balancer) (c : Container) :
    Procedure BalancerError (BackendSet × ByteArray) := do
  let nodes ← step .discoverNodes b.cluster c.name (Cluster.controlPlane b.cluster)
  let backends ← Cluster.resolve b.cluster nodes Endpoint.controlPlanePort
  let document ← b.document plan backends
  return (backends, document)

lemma update_eq_prepare {b : Balancer} {c : Container} (hc : b.container = some c) (plan : Plan) :
    b.update plan = (b.prepare plan c).bind fun made => b.publish plan c made.1 made.2 := by
  rw [update_eq_publish hc]
  simp only [Balancer.prepare, bind_eq, pure_eq, bind_assoc, done_ok_bind]

/-- The preparation of an update changes nothing in the table. -/
lemma run_prepare {plan : Plan} {b : Balancer} {c : Container} (hkeyed : p.engine.Keyed)
    {e : Ending BalancerError (BackendSet × ByteArray)}
    (h : (b.prepare plan c).run Inventory.engine t.1 p = (q, e)) :
    q.engine.table = p.engine.table ∧ ∀ backends document,
      e = .finished (.ok (backends, document)) →
        p.engine.CompleteDocument plan b.cluster backends document := by
  have hfailed (htable : q.engine.table = p.engine.table) (hfails : e.Fails) :
      q.engine.table = p.engine.table ∧ ∀ backends document,
        e = .finished (.ok (backends, document)) →
          p.engine.CompleteDocument plan b.cluster backends document :=
    ⟨htable, fun _ _ hend => (hfails _ hend).elim⟩
  rcases run_step_nodes h with ⟨r, htable, h⟩ | ⟨htable, hfails⟩
  · have hresolve : ∀ nodes, (Cluster.resolve b.cluster nodes Endpoint.controlPlanePort) =
        (Cluster.resolveEach b.cluster Endpoint.controlPlanePort nodes).bind
          fun backends => done (.ok (.ofList backends)) := fun _ => rfl
    rw [hresolve, bind_eq, bind_assoc] at h
    rcases run_resolveEach h with ⟨r', htable', h⟩ | ⟨htable', hfails⟩
    · rw [done_ok_bind] at h
      rcases run_document h with ⟨document, r'', hrender, hr'', h⟩ | ⟨hq, hfails⟩
      · have hsame : r''.engine.table = p.engine.table := by
          rw [hr'', htable', htable]
        have hbackend : ∀ name, r.engine.backend name = p.engine.backend name := by
          intro name
          unfold Inventory.backend Inventory.addressOf?
          rw [Inventory.entries_of_table htable]
        simp only [hbackend] at hrender h
        cases h
        refine ⟨hsame, ?_⟩
        rintro backends document ⟨⟩
        exact ⟨Inventory.get?_backends hkeyed b.cluster, hrender⟩
      · refine hfailed ?_ hfails
        rw [hq]
        exact htable'.trans htable
    · exact hfailed (htable'.trans htable) hfails
  · exact hfailed htable hfails

/-! ### Operations -/

/-- How an update changes an inventory and ends. It writes the complete document of the cluster's
control plane into the attached container and then has it read, or it fails. In that case the table
is as it was, or the document is written and the reload has stopped. -/
def Inventory.Updates (plan : Plan) (cluster : String) (attached : Option Container)
    (answer : Rollout → α) (inv inv' : Inventory) (e : Ending BalancerError α) : Prop :=
  (∃ c e₀ backends document, attached = some c ∧ inv.entries.get? c.name = some e₀ ∧
    inv.CompleteDocument plan cluster backends document ∧
    (e = .finished (.ok (answer ⟨backends, document.size⟩)) ∧
        inv'.table = (inv.entries.insert c.name { e₀ with
          files := e₀.files.insert plan.renderer.path document
          signals := e₀.signals ++ [.hangup] }, inv.created) ∨
      e.Stopped (.cancelled .reload cluster) (.engine .reload cluster c.name) ∧
        inv'.table = (inv.entries.insert c.name { e₀ with
          files := e₀.files.insert plan.renderer.path document }, inv.created))) ∨
  (inv'.table = inv.table ∧ e.Fails)

lemma Inventory.Updates.map {β : Type} {plan : Plan} {cluster : String}
    {attached : Option Container} {answer : Rollout → α} {inv inv' : Inventory}
    {e : Ending BalancerError α} (h : Updates plan cluster attached answer inv inv' e) (f : α → β) :
    Updates plan cluster attached (f ∘ answer) inv inv' (e.map f) := by
  rcases h with ⟨c, e₀, backends, document, hc, he₀, hcomplete, hend⟩ | ⟨htable, hfails⟩
  · refine .inl ⟨c, e₀, backends, document, hc, he₀, hcomplete, ?_⟩
    rcases hend with ⟨rfl, htable⟩ | ⟨hstopped, htable⟩
    · exact .inl ⟨rfl, htable⟩
    · exact .inr ⟨hstopped.map f, htable⟩
  · exact .inr ⟨htable, hfails.map f⟩

lemma run_update_attached {plan : Plan} {b : Balancer} {c : Container} (hc : b.container = some c)
    (hkeyed : p.engine.Keyed) {e : Ending BalancerError Rollout}
    (h : (b.update plan).run Inventory.engine t.1 p = (q, e)) :
    Inventory.Updates plan b.cluster (some c) id p.engine q.engine e := by
  rw [update_eq_prepare hc] at h
  rcases of_run_bind_or_fails h with ⟨r, ⟨backends, document⟩, hr, h⟩ | ⟨hfails, e₁, -, h₁⟩
  · obtain ⟨hsame, hcomplete⟩ := run_prepare hkeyed hr
    have hentries : r.engine.entries = p.engine.entries := congrArg Prod.fst hsame
    have hcreated : r.engine.created = p.engine.created := congrArg Prod.snd hsame
    rcases run_publish h with ⟨e₀, he₀, hdone⟩ | ⟨hsame', hstopped⟩
    · rw [hentries] at he₀ hdone
      rw [hcreated] at hdone
      exact .inl ⟨c, e₀, _, document, rfl, he₀, hcomplete _ _ rfl, hdone⟩
    · exact .inr ⟨hsame'.trans hsame, hstopped.fails⟩
  · exact .inr ⟨(run_prepare hkeyed h₁).1, hfails⟩

/-- Every update does what `Inventory.Updates` says. -/
theorem run_update {plan : Plan} {b : Balancer} (hkeyed : p.engine.Keyed)
    {e : Ending BalancerError Rollout}
    (h : (b.update plan).run Inventory.engine t.1 p = (q, e)) :
    Inventory.Updates plan b.cluster b.container id p.engine q.engine e := by
  cases hc : b.container with
  | none =>
    unfold Balancer.update Balancer.attached at h
    rw [hc] at h
    cases h
    exact .inr ⟨rfl, fails_error _⟩
  | some c => exact run_update_attached hc hkeyed h

/-- A look-up changes nothing in the table, and attaches the first container that answers. -/
lemma run_lookUp {plan : Plan} {spec : ClusterSpec} {e : Ending BalancerError Balancer}
    (h : (Balancer.lookUp plan spec).run Inventory.engine t.1 p = (q, e)) :
    q.engine.table = p.engine.table ∧
      (e = .finished (.ok
          { cluster := spec.name
            image := spec.resolveImage plan.image
            container := (Cluster.sortByName
              (p.engine.answering (.nodes spec.name .externalLoadBalancer))).head? }) ∨
        e.Fails) := by
  unfold Balancer.lookUp at h
  split at h
  · cases h
    exact ⟨rfl, .inr (fails_error _)⟩
  · have hstep : ∀ container, Balancer.step .discoverBalancer spec.name container
        (Cluster.balancer? spec.name) =
          (Balancer.step .discoverBalancer spec.name container
            (Cluster.nodes spec.name .externalLoadBalancer)).bind fun found =>
              (if 1 < found.length then
                report (.severalBalancers spec.name (found.map (·.name)))
                  (done (.ok found.head?))
              else done (.ok found.head?)) := by
      intro container
      refine (under_bind _ _ _ _).trans (congrArg _ (funext fun found => ?_))
      by_cases hseveral : 1 < found.length
      · simp only [hseveral, if_true]
        rfl
      · simp only [hseveral, if_false]
        rfl
    dsimp only [bind_eq] at h
    rw [hstep, bind_assoc] at h
    rcases run_step_nodes h with ⟨r, htable, h⟩ | hfails
    · split at h
      · cases h
        exact ⟨htable, .inl rfl⟩
      · cases h
        exact ⟨htable, .inl rfl⟩
    · exact ⟨hfails.1, .inr hfails.2⟩

/-- What a task can do to a balancer and to the inventory that it works on. -/
inductive Balancer.Effect (plan : Plan) (b : Balancer) (inv inv' : Inventory) : Balancer → Prop
  | none (same : inv'.table = inv.table) : Effect plan b inv inv' b
  | created (absent : b.container = .none) (free : inv.contains b.containerName = false)
    (table : inv'.table = (inv.entries.insert b.containerName
      ⟨.node b.containerName b.cluster .externalLoadBalancer,
        Inventory.createdAddress inv.created, ∅, []⟩,
        inv.created + 1)) :
    Effect plan b inv inv'
      { b with container := some (.node b.containerName b.cluster .externalLoadBalancer) }
  | documented (c : Container) (e₀ : Entry) (backends : BackendSet) (document : ByteArray)
    (signals : List Signal) (attached : b.container = some c)
    (found : inv.entries.get? c.name = some e₀)
    (complete : inv.CompleteDocument plan b.cluster backends document)
    (table : inv'.table = (inv.entries.insert c.name { e₀ with
      files := e₀.files.insert plan.renderer.path document
      signals }, inv.created)) :
    Effect plan b inv inv' b
  | deleted (c : Container) (attached : b.container = some c)
    (table : inv'.table = (inv.entries.erase c.name, inv.created)) :
    Effect plan b inv inv' { b with container := .none }

lemma Inventory.Keyed.of_table {inv inv' : Inventory} (hkeyed : inv.Keyed)
    (h : inv'.table = inv.table) : inv'.Keyed := by
  unfold Keyed
  rw [entries_of_table h]
  exact hkeyed

lemma Inventory.CompleteDocument.of_table {inv inv' : Inventory} {plan : Plan} {cluster : String}
    {backends : BackendSet} {document : ByteArray} (htable : inv.table = inv'.table)
    (h : inv.CompleteDocument plan cluster backends document) :
    inv'.CompleteDocument plan cluster backends document := by
  refine ⟨?_, h.rendered⟩
  rw [← entries_of_table htable]
  exact h.backends

lemma Inventory.Updates.of_table {plan : Plan} {cluster : String} {attached : Option Container}
    {answer : Rollout → α} {inv₁ inv inv' : Inventory} {e : Ending BalancerError α}
    (htable : inv₁.table = inv.table) (h : Updates plan cluster attached answer inv₁ inv' e) :
    Updates plan cluster attached answer inv inv' e := by
  have hentries : inv₁.entries = inv.entries := congrArg Prod.fst htable
  have hcreated : inv₁.created = inv.created := congrArg Prod.snd htable
  rcases h with ⟨c, e₀, backends, document, hc, he₀, hcomplete, hend⟩ | ⟨hsame, hfails⟩
  · rw [hentries] at he₀ hend
    rw [hcreated] at hend
    exact .inl ⟨c, e₀, backends, document, hc, he₀, hcomplete.of_table htable, hend⟩
  · exact .inr ⟨hsame.trans htable, hfails⟩

lemma Balancer.Effect.of_table {plan : Plan} {b b' : Balancer} {inv₁ inv inv' : Inventory}
    (htable : inv₁.table = inv.table) (h : b.Effect plan inv₁ inv' b') :
    b.Effect plan inv inv' b' := by
  have hentries : inv₁.entries = inv.entries := congrArg Prod.fst htable
  have hcreated : inv₁.created = inv.created := congrArg Prod.snd htable
  cases h with
  | none same => exact .none (same.trans htable)
  | created absent free table =>
    rw [hentries, hcreated] at table
    refine .created absent ?_ table
    unfold Inventory.contains at free ⊢
    rw [← hentries]
    exact free
  | documented c e₀ backends document signals attached found complete table =>
    rw [hentries] at found
    rw [hentries, hcreated] at table
    exact .documented c e₀ backends document signals attached found (complete.of_table htable) table
  | deleted c attached table =>
    rw [hentries, hcreated] at table
    exact .deleted c attached table

lemma run_create (plan : Plan) {b : Balancer} {e : Ending BalancerError Balancer}
    (h : b.create.run Inventory.engine t.1 p = (q, e)) :
    ∃ b', b.Effect plan p.engine q.engine b' ∧
      (e = .finished (.ok b') ∧ b'.isProvisioned ∨ e.Fails ∧ b' = b) := by
  unfold Balancer.create at h
  cases hc : b.container with
  | some c =>
    rw [hc] at h
    cases h
    exact ⟨b, .none rfl, .inl ⟨rfl, by rw [Balancer.isProvisioned, hc]; rfl⟩⟩
  | none =>
    rw [hc] at h
    rcases run_step t.2 h with ⟨c, r, hanswer, hr, h⟩ | ⟨htable, hstopped⟩
    · obtain ⟨hfree, rfl, htable⟩ := Inventory.create_ok hanswer
      rw [← hr] at htable
      cases h
      exact ⟨_, .created hc hfree htable, .inl ⟨rfl, rfl⟩⟩
    · exact ⟨b, .none htable, .inr ⟨hstopped.fails, rfl⟩⟩

lemma run_delete (plan : Plan) {b : Balancer} {e : Ending BalancerError Balancer}
    (h : b.delete.run Inventory.engine t.1 p = (q, e)) :
    ∃ b', b.Effect plan p.engine q.engine b' ∧
      (e = .finished (.ok b') ∧ b'.container = none ∨ e.Fails ∧ b' = b) := by
  unfold Balancer.delete at h
  cases hc : b.container with
  | none =>
    rw [hc] at h
    cases h
    exact ⟨b, .none rfl, .inl ⟨rfl, hc⟩⟩
  | some c =>
    rw [hc] at h
    rcases run_step t.2 h with ⟨_, r, hanswer, hr, h⟩ | ⟨htable, hstopped⟩
    · obtain ⟨-, htable⟩ := Inventory.delete_ok hanswer
      rw [← hr] at htable
      cases h
      exact ⟨_, .deleted c hc htable, .inl ⟨rfl, rfl⟩⟩
    · exact ⟨b, .none htable, .inr ⟨hstopped.fails, rfl⟩⟩

lemma run_address {b : Balancer} {e : Ending BalancerError String}
    (h : b.address.run Inventory.engine t.1 p = (q, e)) : q.engine.table = p.engine.table := by
  unfold Balancer.address Balancer.attached at h
  cases hc : b.container with
  | none =>
    rw [hc] at h
    cases h
    rfl
  | some c =>
    rw [hc] at h
    rcases run_step t.2 h with ⟨address, r, hanswer, hr, h⟩ | ⟨htable, -⟩
    · obtain ⟨-, htable⟩ := Inventory.address_ok hanswer
      rw [← hr] at htable
      split at h
      · cases h
        exact htable
      · cases h
        exact htable
    · exact htable

lemma Inventory.Updates.effect {plan : Plan} {b : Balancer} {answer : Rollout → α}
    {inv inv' : Inventory} {e : Ending BalancerError α}
    (h : Updates plan b.cluster b.container answer inv inv' e) : b.Effect plan inv inv' b := by
  rcases h with ⟨c, e₀, backends, document, hc, he₀, hcomplete, hend⟩ | ⟨htable, -⟩
  · rcases hend with ⟨-, htable⟩ | ⟨-, htable⟩
    · exact .documented c e₀ backends document _ hc he₀ hcomplete htable
    · exact .documented c e₀ backends document e₀.signals hc he₀ hcomplete htable
  · exact .none htable

/-- A task has an effect. If it succeeds, the balancer is what the effect makes of it, and otherwise
it is as before. -/
theorem run_perform {plan : Plan} {b : Balancer} {task : Balancer.Task} (hkeyed : p.engine.Keyed)
    {e : Ending BalancerError (Balancer × Balancer.Answer)}
    (h : (b.perform plan task).run Inventory.engine t.1 p = (q, e)) :
    ∃ b', b.Effect plan p.engine q.engine b' ∧
      ((∃ answer, e = .finished (.ok (b', answer)) ∧ (task = .create → b'.isProvisioned) ∧
          (task = .delete → b'.container = none)) ∨
        e.Fails ∧ b' = b) := by
  cases task with
  | create =>
    rcases of_run_bind_or_fails h with ⟨r, b₁, h₁, h⟩ | ⟨hfails, e₁, hfails₁, h₁⟩
    · obtain ⟨b', heffect, ⟨hend, hprovisioned⟩ | ⟨hfails, -⟩⟩ := run_create plan h₁
      · cases hend
        cases h
        exact ⟨b₁, heffect, .inl ⟨.done, rfl, fun _ => hprovisioned, nofun⟩⟩
      · exact (hfails _ rfl).elim
    · obtain ⟨b', heffect, ⟨hend, -⟩ | ⟨-, hsame⟩⟩ := run_create plan h₁
      · exact (hfails₁ _ hend).elim
      · exact ⟨b', heffect, .inr ⟨hfails, hsame⟩⟩
  | update =>
    rcases of_run_bind_or_fails h with ⟨r, rollout, h₁, h⟩ | ⟨hfails, e₁, -, h₁⟩
    · cases h
      exact ⟨b, (run_update hkeyed h₁).effect, .inl ⟨_, rfl, nofun, nofun⟩⟩
    · exact ⟨b, (run_update hkeyed h₁).effect, .inr ⟨hfails, rfl⟩⟩
  | address =>
    rcases of_run_bind_or_fails h with ⟨r, address, h₁, h⟩ | ⟨hfails, e₁, -, h₁⟩
    · cases h
      exact ⟨b, .none (run_address h₁), .inl ⟨_, rfl, nofun, nofun⟩⟩
    · exact ⟨b, .none (run_address h₁), .inr ⟨hfails, rfl⟩⟩
  | delete =>
    rcases of_run_bind_or_fails h with ⟨r, b₁, h₁, h⟩ | ⟨hfails, e₁, hfails₁, h₁⟩
    · obtain ⟨b', heffect, ⟨hend, habsent⟩ | ⟨hfails, -⟩⟩ := run_delete plan h₁
      · cases hend
        cases h
        exact ⟨b₁, heffect, .inl ⟨.done, rfl, nofun, fun _ => habsent⟩⟩
      · exact (hfails _ rfl).elim
    · obtain ⟨b', heffect, ⟨hend, -⟩ | ⟨-, hsame⟩⟩ := run_delete plan h₁
      · exact (hfails₁ _ hend).elim
      · exact ⟨b', heffect, .inr ⟨hfails, hsame⟩⟩
  | status =>
    cases h
    exact ⟨b, .none rfl, .inl ⟨_, rfl, nofun, nofun⟩⟩

end ApiBalancer
