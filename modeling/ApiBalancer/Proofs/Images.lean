import ApiBalancer.Proofs.Containers
import ApiBalancer.Proofs.Handles
import ApiBalancer.Proofs.Requests

/-!
# Images

Which image a fleet creates a container from, and which image it tells of it. A container is created
from the image that the creation asks for (`Site.created_image_stays`), and as long as its cluster is
not forgotten that image is told. After that the fleet tells the image that the next task asks for,
which need not be the image of the container (`Site.told_image`, `Site.told_image_may_differ`).
-/

namespace ApiBalancer

open Procedure

lemma Fleet.image_found (fleet : Fleet) (spec : ClusterSpec) (inv : Inventory) :
    ((fleet.found spec inv).withImage (spec.resolveImage fleet.plan.image)).image =
      spec.resolveImage fleet.plan.image := by
  unfold Balancer.withImage
  split <;> rfl

namespace Site

variable {site : Site} {d : Deed} {launch : Launch} {name : String}

/-- Whether a deed asks for a container, which is then created. -/
structure Creates (site : Site) (d : Deed) (launch : Launch) : Prop where
  asked : .create launch ∈ site.asked d
  free : site.inventory.contains launch.name = false
  there : (site.step d).inventory.contains launch.name = true

lemma creates_of_new (hd : d.ThroughFleet) (hfree : site.inventory.contains name = false)
    (hthere : (site.step d).inventory.contains name = true) :
    ∃ launch, launch.name = name ∧ site.Creates d launch := by
  cases d with
  | arrange a =>
    rw [step, Inventory.contains_arrange hd, hfree] at hthere
    cases hthere
  | perform spec task token =>
    let I (inv : Inventory) (made : List Request) : Prop :=
      inv.contains name = true → site.inventory.contains name = true ∨
        ∃ launch, launch.name = name ∧ .create launch ∈ made
    have hserve : ∀ request inv made, Terms.free.asks request → I inv made →
        I (Inventory.serve request inv).state (made ++ [request]) ∧
          Terms.free.Met (Inventory.serve request inv) := by
      intro request inv made _ hinv
      refine ⟨fun hnow => ?_, Terms.met_free _⟩
      rcases Inventory.contains_serve hnow with hbefore | ⟨launch, rfl, rfl⟩
      · rcases hinv hbefore with hold | ⟨launch, hname, hmade⟩
        · exact .inl hold
        · exact .inr ⟨launch, hname, List.mem_append_left _ hmade⟩
      · exact .inr ⟨launch, rfl, List.mem_append_right _ List.mem_cons_self⟩
    have hmade : I (site.step (.perform spec task token)).inventory
        (site.asked (.perform spec task token)) :=
      Fleet.perform_keeps (I := I) .inl trivial (fun _ _ _ _ => keepsTo_free _) hserve
    rcases hmade hthere with hold | ⟨launch, rfl, hasked⟩
    · rw [hfree] at hold
      cases hold
    · exact ⟨launch, rfl, hasked, hfree, hthere⟩
  | forget cluster =>
    rw [step, hfree] at hthere
    cases hthere
  | lookUp | work | takeImage => exact hd.elim

/-- A fleet asks for a container only in a creation that finds none, and then for what this creation
is to create. -/
lemma asked_create (hnamed : site.fleet.Named) (hd : d.ThroughFleet)
    (hasked : .create launch ∈ site.asked d) :
    ∃ spec token, d = .perform spec .create token ∧
      (site.fleet.worker spec site.inventory).container = none ∧
      launch = { name := spec.name ++ "-lb"
                 image := spec.resolveImage site.fleet.plan.image
                 cluster := spec.name
                 listenAddress := "0.0.0.0"
                 port := 0 } := by
  cases d with
  | perform spec task token =>
    rcases Fleet.perform_asks hasked with hlist | ⟨rfl, hnone, rfl⟩
    · cases hlist
    · have hcluster := Fleet.cluster_worker hnamed spec site.inventory
      have himage := Fleet.image_worker hnone
      refine ⟨spec, token, rfl, hnone, ?_⟩
      unfold Balancer.launch Balancer.containerName
      rw [hcluster, himage]
      rfl
  | arrange | forget => cases hasked
  | lookUp | work | takeImage => exact hd.elim

lemma Creates.kept (h : site.Creates d launch) (hrooted : Rooted site.fleet site.inventory)
    (hd : d.ThroughFleet) :
    (∃ spec token, d = .perform spec .create token ∧
      launch = { name := spec.name ++ "-lb"
                 image := spec.resolveImage site.fleet.plan.image
                 cluster := spec.name
                 listenAddress := "0.0.0.0"
                 port := 0 }) ∧
    (site.step d).fleet.balancer? launch.cluster = some ⟨launch.cluster, launch.image,
      some (.node launch.name launch.cluster .externalLoadBalancer)⟩ := by
  obtain ⟨spec, token, rfl, hnone, rfl⟩ := asked_create hrooted.named hd h.asked
  refine ⟨⟨spec, token, rfl, rfl⟩, ?_⟩
  have hfree := h.free
  have hthere := h.there
  simp only [step] at hthere ⊢
  generalize hrun : site.fleet.perform Inventory.engine token.1 spec .create site.inventory = run
    at hthere ⊢
  obtain ⟨fleet', q, e⟩ := run
  -- without a new entry the name would still be free
  have hchanged : q.engine.table ≠ site.inventory.table := by
    intro htable
    rw [Inventory.contains_of_entries (Inventory.entries_of_table htable), hfree] at hthere
    cases hthere
  rcases Fleet.perform_effect hrooted.keyed hrun with ⟨b', heffect, rfl, -⟩ | ⟨-, htable, -⟩
  · cases heffect with
    | none same => exact (hchanged same).elim
    | created absent free table =>
      have hcluster := Fleet.cluster_worker hrooted.named spec site.inventory
      have himage := Fleet.image_worker hnone
      rw [Fleet.balancer?_keep, if_pos rfl]
      unfold Balancer.containerName
      rw [hcluster, himage]
    | documented c e₀ backends document signals attached => cases hnone.symm.trans attached
    | deleted c attached => cases hnone.symm.trans attached
  · exact (hchanged htable).elim

/-- A creation after which the container of a cluster is there that was not there before has asked
for it. -/
lemma creates_of_perform {spec : ClusterSpec} {token : Token}
    (hrooted : Rooted site.fleet site.inventory)
    (hfree : site.inventory.contains (spec.name ++ "-lb") = false)
    (hthere : (site.step (.perform spec .create token)).inventory.contains
      (spec.name ++ "-lb") = true) :
    site.Creates (.perform spec .create token)
      { name := spec.name ++ "-lb"
        image := spec.resolveImage site.fleet.plan.image
        cluster := spec.name
        listenAddress := "0.0.0.0"
        port := 0 } := by
  have hd : (Deed.perform spec .create token).ThroughFleet := trivial
  obtain ⟨launch, -, hcreates⟩ := creates_of_new hd hfree hthere
  obtain ⟨⟨spec', token', hd', hlaunch⟩, -⟩ := hcreates.kept hrooted hd
  injection hd' with hspec
  rw [hlaunch, ← hspec] at hcreates
  exact hcreates

lemma perform_status {spec : ClusterSpec} {c : Cancellation} {b : Balancer} {container : Container}
    (hb : site.fleet.balancer? spec.name = some b) (hc : b.container = some container) :
    (site.fleet.perform Inventory.engine c spec .status site.inventory).2.2 =
      .finished (.ok (.status b.status)) := by
  rw [Fleet.perform_of_kept hb]
  unfold Balancer.withImage
  rw [hc]
  rfl

/-- Whether no deletion for a cluster succeeds while some deeds are done. -/
def Undeleted (site : Site) (cluster : String) (deeds : List Deed) : Prop :=
  ∀ first spec (token : Token) rest, deeds = first ++ .perform spec .delete token :: rest →
    spec.name = cluster →
    ((site.after first).fleet.perform Inventory.engine token.1 spec .delete
      (site.after first).inventory).2.2.Fails

/-- A balancer that is attached stays as it is as long as its cluster is not forgotten and no deletion
succeeds. -/
lemma stays_after (hrooted : Rooted site.fleet site.inventory) {cluster : String} {b : Balancer}
    {container : Container} (hb : site.fleet.balancer? cluster = some b)
    (hc : b.container = some container) {deeds : List Deed} (hfleet : ∀ d ∈ deeds, d.ThroughFleet)
    (hforget : .forget cluster ∉ deeds) (hdelete : site.Undeleted cluster deeds) :
    (site.after deeds).fleet.balancer? cluster = some b := by
  induction deeds using List.reverseRecOn with
  | nil => exact hb
  | append_singleton done d ih =>
    have hdone : ∀ x ∈ done, x.ThroughFleet := fun x hx => hfleet x (List.mem_append_left _ hx)
    have hbefore := ih hdone (fun h => hforget (List.mem_append_left _ h)) ?_
    · rw [after_concat]
      refine stays (hrooted.after hdone).keyed hbefore hc (hfleet d (by simp)) ?_ ?_
      · rintro rfl
        exact hforget (by simp)
      · rintro spec token rfl hname
        exact hdelete done spec token [] rfl hname
    · rintro first spec token rest rfl hname
      exact hdelete first spec token (rest ++ [d]) (by simp) hname

/-- Every request for a container is made by a creation, for the container of its cluster and with the
image that this creation asks for, whatever images were asked for before. Once the container is there,
its image is what is told of the cluster, whatever image is asked for, until a deletion succeeds or the
cluster is forgotten. -/
theorem created_image_stays (plan : Plan) (inv : Inventory) (history : List Deed)
    (hattainable : inv.Attainable) (hfleet : ∀ d ∈ history, d.ThroughFleet) :
    let first : Site := { fleet := { plan }, inventory := inv }
    (∀ done d rest launch, history = done ++ d :: rest →
      .create launch ∈ (first.after done).asked d →
      ∃ spec token, d = .perform spec .create token ∧
        launch = { name := spec.name ++ "-lb"
                   image := spec.resolveImage plan.image
                   cluster := spec.name
                   listenAddress := "0.0.0.0"
                   port := 0 }) ∧
    ∀ done d rest launch, history = done ++ d :: rest → (first.after done).Creates d launch →
      .forget launch.cluster ∉ rest →
      (first.after (done ++ [d])).Undeleted launch.cluster rest →
      ∀ spec (token : Token), spec.name = launch.cluster →
        ((first.after history).fleet.perform Inventory.engine token.1 spec .status
          (first.after history).inventory).2.2 =
          .finished (.ok (.status ⟨launch.cluster, launch.name, launch.image, true⟩)) := by
  intro first
  have hfirst : Rooted first.fleet first.inventory := .start plan hattainable.keyed
  constructor
  · rintro done d rest launch rfl hasked
    have hdone : ∀ x ∈ done, x.ThroughFleet := fun x hx => hfleet x (by simp [hx])
    obtain ⟨spec, token, rfl, -, rfl⟩ :=
      asked_create (hfirst.after hdone).named (hfleet d (by simp)) hasked
    rw [hfirst.plan_after hdone]
    exact ⟨spec, token, rfl, rfl⟩
  · rintro done d rest launch rfl hcreates hforget hdelete spec token hname
    have hdone : ∀ x ∈ done, x.ThroughFleet := fun x hx => hfleet x (by simp [hx])
    have hd : d.ThroughFleet := hfleet d (by simp)
    have hrest : ∀ x ∈ rest, x.ThroughFleet := fun x hx => hfleet x (by simp [hx])
    obtain ⟨-, hkept⟩ := hcreates.kept (hfirst.after hdone) hd
    rw [← after_concat] at hkept
    have hthen : Rooted (first.after (done ++ [d])).fleet (first.after (done ++ [d])).inventory := by
      rw [after_concat]
      exact (hfirst.after hdone).step hd
    have hlast := stays_after hthen hkept rfl hrest hforget hdelete
    have hsplit : (first.after (done ++ [d])).after rest = first.after (done ++ d :: rest) := by
      unfold after
      rw [← List.foldl_append, List.append_assoc]
      rfl
    rw [hsplit, ← hname] at hlast
    rw [perform_status hlast rfl, hname]
    rfl

/-- A creation that fails, one that succeeds with another image, and one that asks for a third image
in vain. -/
theorem image_stays_through_later_creations :
    let done : List Deed :=
      [.arrange (.failNext .create "busy"),
        .perform { name := "demo", image := some "lb:1" } .create .never]
    let d : Deed := .perform { name := "demo", image := some "lb:2" } .create .never
    let rest : List Deed := [.perform { name := "demo", image := some "lb:3" } .create .never]
    let site := Site.after { fleet := { plan := {} }, inventory := {} } (done ++ d :: rest)
    (site.fleet.perform Inventory.engine Token.never.1 { name := "demo" } .status
      site.inventory).2.2 = .finished (.ok (.status ⟨"demo", "demo-lb", "lb:2", true⟩)) := by
  intro done d rest
  have hfleet : ∀ x ∈ done ++ d :: rest, x.ThroughFleet := by
    simp [done, d, rest, Deed.ThroughFleet, Arrangement.KeepsContainers]
  have hdone : ∀ x ∈ done, x.ThroughFleet := fun x hx => hfleet x (by simp [hx])
  have hattainable : ({} : Inventory).Attainable := .empty
  have hrooted : Rooted (Site.after { fleet := { plan := {} }, inventory := {} } done).fleet
      (Site.after { fleet := { plan := {} }, inventory := {} } done).inventory :=
    Rooted.after (.start {} hattainable.keyed) hdone
  have hcreates : (Site.after { fleet := { plan := {} }, inventory := {} } done).Creates d
      ⟨"demo-lb", "lb:2", "demo", "0.0.0.0", 0⟩ :=
    creates_of_perform hrooted (by decide +kernel) (by decide +kernel)
  have hforget : Deed.forget "demo" ∉ rest := by simp [rest]
  have hdelete : (Site.after { fleet := { plan := {} }, inventory := {} } (done ++ [d])).Undeleted
      "demo" rest := by
    intro before spec token after hrest
    cases before with
    | nil => simp [rest] at hrest
    | cons x before => simp [rest] at hrest
  exact (created_image_stays {} {} (done ++ d :: rest) hattainable hfleet).2 done d rest _ rfl
    hcreates hforget hdelete { name := "demo" } .never rfl

/-! ### The image that is told -/

/-- Whether a deed, done after some others, has created a container that has been there ever since,
while the rest was done. -/
structure Origin (first : Site) (done : List Deed) (d : Deed) (rest : List Deed)
    (launch : Launch) : Prop where
  creates : (first.after done).Creates d launch
  since : ∀ mid late, rest = mid ++ late →
    (first.after (done ++ d :: mid)).inventory.contains launch.name = true

lemma Origin.concat {first : Site} {done rest : List Deed} (h : first.Origin done d rest launch)
    {x : Deed}
    (hthere : (first.after (done ++ d :: (rest ++ [x]))).inventory.contains launch.name = true) :
    first.Origin done d (rest ++ [x]) launch := by
  refine ⟨h.creates, fun mid late hsplit => ?_⟩
  rcases List.eq_nil_or_concat late with rfl | ⟨late, y, rfl⟩
  · rw [List.append_nil] at hsplit
    rw [← hsplit]
    exact hthere
  · rw [List.concat_eq_append, ← List.append_assoc] at hsplit
    exact h.since mid late (List.append_inj' hsplit rfl).1

/-- Whether an image was asked for by a task for a cluster. -/
def AskedFor (plan : Plan) (cluster image : String) (deeds : List Deed) : Prop :=
  ∃ spec task token, .perform spec task token ∈ deeds ∧ spec.name = cluster ∧
    image = spec.resolveImage plan.image

lemma AskedFor.concat {plan : Plan} {cluster image : String} {deeds : List Deed}
    (h : AskedFor plan cluster image deeds) (d : Deed) :
    AskedFor plan cluster image (deeds ++ [d]) := by
  obtain ⟨spec, task, token, hmem, hname⟩ := h
  exact ⟨spec, task, token, List.mem_append_left _ hmem, hname⟩

/-- What a fleet knows of a container that was created before some deeds: as long as its cluster is
not forgotten, its image, and after that no more than an image that was asked for since. -/
def Knows (plan : Plan) (fleet : Fleet) (launch : Launch) (c : Container) (rest : List Deed) : Prop :=
  .forget launch.cluster ∉ rest ∧
      fleet.balancer? launch.cluster = some ⟨launch.cluster, launch.image, some c⟩ ∨
    ∃ mid late, rest = mid ++ .forget launch.cluster :: late ∧ .forget launch.cluster ∉ late ∧
      ∀ b, fleet.balancer? launch.cluster = some b → b.container = some c →
        AskedFor plan launch.cluster b.image late

variable {plan : Plan} {fleet fleet' : Fleet} {c : Container} {rest : List Deed}

lemma Knows.same (h : Knows plan fleet launch c rest) (hd : d ≠ .forget launch.cluster)
    (hsame : fleet'.balancer? launch.cluster = fleet.balancer? launch.cluster) :
    Knows plan fleet' launch c (rest ++ [d]) := by
  have hconcat : ∀ {l : List Deed}, .forget launch.cluster ∉ l →
      .forget launch.cluster ∉ l ++ [d] := by
    intro l hl hmem
    rcases List.mem_append.1 hmem with hmem | hmem
    · exact hl hmem
    · exact hd (List.mem_singleton.1 hmem).symm
  rcases h with ⟨hrest, hkept⟩ | ⟨mid, late, rfl, hlate, hasked⟩
  · exact .inl ⟨hconcat hrest, hsame.trans hkept⟩
  · refine .inr ⟨mid, late ++ [d], by simp, hconcat hlate, fun b hb hc => ?_⟩
    exact (hasked b (hsame.symm.trans hb) hc).concat d

lemma knows_forget (plan : Plan) (fleet : Fleet) (launch : Launch) (c : Container)
    (rest : List Deed) :
    Knows plan (fleet.forget launch.cluster) launch c (rest ++ [.forget launch.cluster]) := by
  refine .inr ⟨rest, [], rfl, List.not_mem_nil, fun b hb _ => ?_⟩
  rw [Fleet.balancer?_forget, if_pos rfl] at hb
  cases hb

lemma Knows.perform {spec : ClusterSpec} {task : Balancer.Task} {token : Token} {inv : Inventory}
    {q : Progress Inventory} {e : Ending BalancerError Balancer.Answer}
    (h : Knows plan fleet launch c rest) (hplan : fleet.plan = plan) (hkeyed : inv.Keyed)
    (hname : spec.name = launch.cluster)
    (hrun : fleet.perform Inventory.engine token.1 spec task inv = (fleet', q, e))
    (hbefore : inv.contains c.name = true) (hafter : q.engine.contains c.name = true) :
    Knows plan fleet' launch c (rest ++ [.perform spec task token]) := by
  have hother : Deed.perform spec task token ≠ .forget launch.cluster := nofun
  rcases Fleet.perform_effect hkeyed hrun with ⟨b', heffect, rfl, -⟩ | ⟨rfl, -, -⟩
  · have hkept : (fleet.keep spec.name b').balancer? launch.cluster = some b' := by
      rw [Fleet.balancer?_keep, if_pos hname.symm]
    -- the container that is known was neither created nor deleted by this task
    have hworker : b'.container = some c → b' = fleet.worker spec inv := by
      intro hc
      cases heffect with
      | none | documented => rfl
      | created absent free table =>
        cases hc
        rw [Container.name_node, free] at hbefore
        cases hbefore
      | deleted => cases hc
    have hdetached : (fleet.worker spec inv).container = some c → b' = fleet.worker spec inv := by
      intro hc
      cases heffect with
      | none | documented => rfl
      | created absent => cases hc.symm.trans absent
      | deleted c' attached table =>
        cases hc.symm.trans attached
        have hgone := Inventory.contains_erase_self (congrArg Prod.fst table)
        rw [hgone] at hafter
        cases hafter
    rcases h with ⟨hrest, hb⟩ | ⟨mid, late, rfl, hlate, hasked⟩
    · refine Knows.same (.inl ⟨hrest, hb⟩) hother ?_
      rw [← hname] at hb
      have hattached : fleet.worker spec inv = _ := Fleet.worker_of_attached hb rfl
      rw [hkept, hdetached (by rw [hattached]), hattached, ← hname, hb]
    · refine .inr ⟨mid, late ++ [.perform spec task token], by simp, ?_, fun b hb hc => ?_⟩
      · intro hmem
        rcases List.mem_append.1 hmem with hmem | hmem
        · exact hlate hmem
        · exact hother (List.mem_singleton.1 hmem).symm
      · cases hkept.symm.trans hb
        have hsame := hworker hc
        rw [hsame] at hc ⊢
        cases hcached : fleet.balancer? spec.name with
        | some b₀ =>
          have hc₀ : b₀.container = some c := by
            unfold Fleet.worker at hc
            rw [hcached, Balancer.container_withImage] at hc
            exact hc
          rw [Fleet.worker_of_attached hcached hc₀]
          rw [hname] at hcached
          exact (hasked b₀ hcached hc₀).concat _
        | none =>
          refine ⟨spec, task, token, by simp, hname, ?_⟩
          unfold Fleet.worker
          rw [hcached, ← hplan]
          exact Fleet.image_found fleet spec inv
  · exact h.same hother (Fleet.balancer?_track _ _ _)

lemma persists_step (hkeyed : site.inventory.Keyed) (hd : d.ThroughFleet) :
    site.inventory.Persists (site.step d).inventory := by
  cases d with
  | arrange a => exact Inventory.persists_arrange site.inventory hd
  | perform spec task token =>
    simp only [step]
    generalize hrun : site.fleet.perform Inventory.engine token.1 spec task site.inventory = run
    obtain ⟨fleet', q, e⟩ := run
    rcases Fleet.perform_effect hkeyed hrun with ⟨b', heffect, -⟩ | ⟨-, htable, -⟩
    · exact heffect.grows.persists
    · exact Inventory.persists_of_entries (Inventory.entries_of_table htable)
  | forget cluster => exact Inventory.persists_of_entries rfl
  | lookUp | work | takeImage => exact hd.elim

/-- Every container on a site that was empty at the start has been created, and the fleet knows of it
what it is to know. -/
theorem traced (plan : Plan) (history : List Deed) (hfleet : ∀ d ∈ history, d.ThroughFleet)
    {e : Entry} (he : ((start plan).after history).inventory.entries.get? name = some e) :
    ∃ done d rest launch, history = done ++ d :: rest ∧ (start plan).Origin done d rest launch ∧
      launch.name = name ∧ e.container = .node launch.name launch.cluster .externalLoadBalancer ∧
      Knows plan ((start plan).after history).fleet launch e.container rest := by
  induction history using List.reverseRecOn generalizing e with
  | nil => cases he
  | append_singleton done x ih =>
    have hdone : ∀ d ∈ done, d.ThroughFleet := fun d hd => hfleet d (List.mem_append_left _ hd)
    have hx : x.ThroughFleet := hfleet x (by simp)
    have hstart : Rooted (start plan).fleet (start plan).inventory :=
      .start plan Inventory.Attainable.empty.keyed
    have hrooted := hstart.after hdone
    have hplan := hstart.plan_after hdone
    have hthere : ((start plan).after (done ++ [x])).inventory.contains name = true :=
      Inventory.contains_iff.2 ⟨e, he⟩
    rw [after_concat] at he ⊢
    cases hold : ((start plan).after done).inventory.contains name with
    | false =>
      rw [after_concat] at hthere
      obtain ⟨launch, rfl, hcreates⟩ := creates_of_new hx hold hthere
      obtain ⟨-, hkept⟩ := hcreates.kept hrooted hx
      obtain ⟨e', he', hcontainer⟩ := ((hrooted.step hx).held _ _ _ hkept rfl).there
      cases he.symm.trans he'
      refine ⟨done, x, [], launch, rfl, ⟨hcreates, ?_⟩, rfl, hcontainer, ?_⟩
      · intro mid late hsplit
        obtain ⟨rfl, -⟩ := List.append_eq_nil_iff.1 hsplit.symm
        rw [after_concat]
        exact hthere
      · rw [hcontainer]
        exact .inl ⟨List.not_mem_nil, hkept⟩
    | true =>
      obtain ⟨e₀, he₀⟩ := Inventory.contains_iff.1 hold
      obtain ⟨first, d, rest, launch, rfl, horigin, rfl, hcontainer, hknows⟩ := ih hdone he₀
      have hsame := persists_step hrooted.keyed hx he₀ he
      rw [List.append_assoc, List.cons_append] at hthere
      refine ⟨first, d, rest ++ [x], launch, by simp, horigin.concat hthere, rfl,
        hsame.trans hcontainer, ?_⟩
      rw [hsame]
      cases x with
      | arrange a => exact hknows.same nofun rfl
      | perform spec task token =>
        have hname : e₀.container.name = launch.name := by rw [hcontainer, Container.name_node]
        by_cases hcluster : spec.name = launch.cluster
        · refine hknows.perform hplan hrooted.keyed hcluster rfl ?_ ?_
          · rw [hname]
            exact hold
          · rw [hname]
            exact Inventory.contains_iff.2 ⟨e, he⟩
        · exact hknows.same nofun (Fleet.balancer?_perform_of_ne hrooted.keyed hcluster rfl)
      | forget cluster =>
        by_cases hcluster : cluster = launch.cluster
        · rw [hcluster]
          exact knows_forget plan _ launch _ rest
        · refine hknows.same (fun h => hcluster (Deed.forget.inj h)) ?_
          exact (Fleet.balancer?_forget _ _ _).trans (if_neg (Ne.symm hcluster))
      | lookUp | work | takeImage => exact hx.elim

/-- If a fleet tells of a container on a site that was empty at the start, this container has been
created and there ever since. The image that is told is the one that it was created from, unless the
cluster has been forgotten since; then it is one that a task for the cluster has asked for after
that. -/
theorem told_image (plan : Plan) (history : List Deed) (hfleet : ∀ d ∈ history, d.ThroughFleet)
    (spec : ClusterSpec) (token : Token) (status : Status)
    (hstatus : (((start plan).after history).fleet.perform Inventory.engine token.1 spec .status
      ((start plan).after history).inventory).2.2 = .finished (.ok (.status status)))
    (hprovisioned : status.provisioned = true) :
    ∃ done d rest launch, history ++ [.perform spec .status token] = done ++ d :: rest ∧
      (start plan).Origin done d rest launch ∧ launch.name = status.container ∧
      launch.cluster = spec.name ∧
      (.forget spec.name ∉ rest ∧ status.image = launch.image ∨
        ∃ mid late, rest = mid ++ .forget spec.name :: late ∧ .forget spec.name ∉ late ∧
          AskedFor plan spec.name status.image late) := by
  have hstart : Rooted (start plan).fleet (start plan).inventory :=
    .start plan Inventory.Attainable.empty.keyed
  have hrooted := (hstart.after hfleet).step (d := .perform spec .status token) trivial
  have hlast : ∀ d ∈ history ++ [.perform spec .status token], d.ThroughFleet := by
    intro d hd
    rcases List.mem_append.1 hd with hd | hd
    · exact hfleet d hd
    · rw [List.mem_singleton.1 hd]
      exact trivial
  -- the one who has told is kept
  obtain ⟨b, hkept, rfl⟩ : ∃ b, (((start plan).after history).step
      (.perform spec .status token)).fleet.balancer? spec.name = some b ∧ status = b.status := by
    simp only [step]
    generalize hrun : Fleet.perform Inventory.engine token.1 spec .status _ _ = run at hstatus ⊢
    obtain ⟨fleet', q, e⟩ := run
    rcases Fleet.perform_cases hrun with ⟨p, e', -, hwork, rfl, rfl⟩ | ⟨-, -, hfails⟩
    · cases hwork
      cases hstatus
      exact ⟨_, (Fleet.balancer?_keep _ _ _ _).trans (if_pos rfl), rfl⟩
    · exact (hfails _ hstatus).elim
  obtain ⟨c, hc⟩ := Option.isSome_iff_exists.1 hprovisioned
  have hname : b.status.container = c.name := by
    unfold Balancer.status
    rw [hc]
  have hheld := hrooted.held spec.name b c hkept hc
  obtain ⟨e, he, rfl⟩ := hheld.there
  rw [← after_concat] at he hkept
  obtain ⟨done, d, rest, launch, hsplit, horigin, hlaunch, hcontainer, hknows⟩ :=
    traced plan _ hlast he
  have hcluster : spec.name = launch.cluster := by
    have hlabelled := hheld.labelled
    rw [hcontainer] at hlabelled
    exact (LabelQuery.nodes_matches_node.1 hlabelled).1
  refine ⟨done, d, rest, launch, hsplit, horigin, hlaunch.trans hname.symm, hcluster.symm, ?_⟩
  rw [hcluster] at hkept ⊢
  rcases hknows with ⟨hrest, hb⟩ | ⟨mid, late, hforget, hlate, hasked⟩
  · cases hkept.symm.trans hb
    exact .inl ⟨hrest, rfl⟩
  · exact .inr ⟨mid, late, hforget, hlate, hasked b hkept hc⟩

/-- A container that is created, forgotten and found again. -/
theorem told_image_found_again :
    let history : List Deed :=
      [.perform { name := "demo", image := some "lb:1" } .create .never, .forget "demo"]
    let spec : ClusterSpec := { name := "demo", image := some "lb:2" }
    ∃ done d rest launch, history ++ [.perform spec .status .never] = done ++ d :: rest ∧
      (start {}).Origin done d rest launch ∧ launch.name = "demo-lb" ∧ launch.cluster = "demo" ∧
      (.forget "demo" ∉ rest ∧ "lb:2" = launch.image ∨
        ∃ mid late, rest = mid ++ .forget "demo" :: late ∧ .forget "demo" ∉ late ∧
          AskedFor {} "demo" "lb:2" late) := by
  intro history spec
  have hfleet : ∀ d ∈ history, d.ThroughFleet := by simp [history, Deed.ThroughFleet]
  exact told_image {} history hfleet spec .never ⟨"demo", "demo-lb", "lb:2", true⟩
    (by decide +kernel) rfl

/-- The image that is told need not be the image that the container was created from: after the
cluster has been forgotten, a task that asks for no image is told the default one. -/
theorem told_image_may_differ :
    ¬ ∀ (plan : Plan) (history : List Deed) (spec : ClusterSpec) (token : Token) (status : Status)
        (done rest : List Deed) (d : Deed) (launch : Launch),
      (∀ x ∈ history, x.ThroughFleet) →
      (((start plan).after history).fleet.perform Inventory.engine token.1 spec .status
        ((start plan).after history).inventory).2.2 = .finished (.ok (.status status)) →
      status.provisioned = true →
      history ++ [.perform spec .status token] = done ++ d :: rest →
      (start plan).Origin done d rest launch → launch.name = status.container →
      status.image = launch.image := by
  intro h
  let custom : ClusterSpec := { name := "demo", image := some "custom/lb:1" }
  let spec : ClusterSpec := { name := "demo" }
  let history : List Deed := [.perform custom .create .never, .forget "demo"]
  have hfleet : ∀ x ∈ history, x.ThroughFleet := by simp [history, Deed.ThroughFleet]
  have hcreates : (start {}).Creates (.perform custom .create .never)
      ⟨"demo-lb", "custom/lb:1", "demo", "0.0.0.0", 0⟩ :=
    creates_of_perform (.start {} Inventory.Attainable.empty.keyed) (by decide +kernel)
      (by decide +kernel)
  have horigin : (start {}).Origin [] (.perform custom .create .never)
      [.forget "demo", .perform spec .status .never]
      ⟨"demo-lb", "custom/lb:1", "demo", "0.0.0.0", 0⟩ := by
    refine ⟨hcreates, fun mid late hsplit => ?_⟩
    rcases mid with _ | ⟨x, _ | ⟨y, _ | ⟨z, mid⟩⟩⟩
    · decide +kernel
    · cases hsplit
      decide +kernel
    · cases hsplit
      decide +kernel
    · cases hsplit
  have himage := h {} history spec .never
    ⟨"demo", "demo-lb", "kindest/haproxy:v20230510-486859a6", true⟩ [] _ _ _ hfleet
    (by decide +kernel) rfl rfl horigin rfl
  exact absurd himage (by decide)

end Site

end ApiBalancer
