import ApiBalancer.Proofs.FleetRun
import Mathlib.Data.List.Induction

/-!
# Sites

A site is an inventory with those who work on it: a fleet, and people who each look after a balancer
of their own. Deeds are done on it one after another, among them changes of the inventory from
outside. What holds of a site after any deeds is proved for each deed and then by induction.
-/

namespace ApiBalancer

open Procedure

/-- A change of an inventory from outside. -/
inductive Arrangement where
  | add (container : Container) (address : String)
  | setAddress (name address : String)
  | remove (name : String)
  | failNext (operation : Operation) (message : String)
  | failAddress (name message : String)
  | clearAddressFault (name : String)
  | stall (operation : Operation)
  | unstall (operation : Operation)
  | clearCalls

def Inventory.arrange (inv : Inventory) : Arrangement → Inventory
  | .add container address => inv.add container address
  | .setAddress name address => inv.setAddress name address
  | .remove name => inv.remove name
  | .failNext operation message => inv.failNext operation message
  | .failAddress name message => inv.failAddress name message
  | .clearAddressFault name => inv.clearAddressFault name
  | .stall operation => inv.stall operation
  | .unstall operation => inv.unstall operation
  | .clearCalls => inv.clearCalls

/-- An inventory with those who work on it. -/
structure Site where
  fleet : Fleet := {}
  /-- The balancers that people look after themselves, each with a plan of its own. -/
  own : NameMap (Plan × Balancer) := ∅
  inventory : Inventory := {}

/-- What is done on a site. -/
inductive Deed where
  | arrange (arrangement : Arrangement)
  /-- A task for a cluster is given to the fleet. -/
  | perform (spec : ClusterSpec) (task : Balancer.Task) (token : Token)
  | forget (cluster : String)
  /-- Somebody looks up a balancer for himself. -/
  | lookUp (owner : String) (plan : Plan) (spec : ClusterSpec) (token : Token)
  /-- Somebody has his balancer carry out a task. -/
  | work (owner : String) (task : Balancer.Task) (token : Token)
  | takeImage (owner image : String)

namespace Site

/-- A site with nothing in it, whose fleet works by a plan. -/
def start (plan : Plan) : Site := { fleet := { plan } }

/-- The site once something is done. -/
def step (site : Site) : Deed → Site
  | .arrange arrangement => { site with inventory := site.inventory.arrange arrangement }
  | .perform spec task token =>
    let (fleet, p, _) := site.fleet.perform Inventory.engine token.1 spec task site.inventory
    { site with fleet, inventory := p.engine }
  | .forget cluster => { site with fleet := site.fleet.forget cluster }
  | .lookUp owner plan spec token =>
    match (Balancer.lookUp plan spec).run Inventory.engine token.1 { engine := site.inventory } with
    | (p, .finished (.ok b)) =>
      { site with own := site.own.insert owner (plan, b), inventory := p.engine }
    | (p, _) => { site with inventory := p.engine }
  | .work owner task token =>
    match site.own.get? owner with
    | none => site
    | some (plan, b) =>
      match (b.perform plan task).run Inventory.engine token.1 { engine := site.inventory } with
      | (p, .finished (.ok (b', _))) =>
        { site with own := site.own.insert owner (plan, b'), inventory := p.engine }
      | (p, _) => { site with inventory := p.engine }
  | .takeImage owner image =>
    { site with own := site.own.modify owner fun o => (o.1, o.2.withImage image) }

def after (site : Site) (deeds : List Deed) : Site := deeds.foldl step site

lemma after_concat (site : Site) (deeds : List Deed) (d : Deed) :
    site.after (deeds ++ [d]) = (site.after deeds).step d := by
  unfold after
  rw [List.foldl_append]
  rfl

/-- Whether a plan is that of the fleet or of somebody's own balancer. -/
def Uses (site : Site) (plan : Plan) : Prop :=
  plan = site.fleet.plan ∨ ∃ owner b, site.own.get? owner = some (plan, b)

/-- Whether containers stand under their names and balancers are kept for their clusters. -/
structure Sound (site : Site) : Prop where
  keyed : site.inventory.Keyed
  named : site.fleet.Named

end Site

namespace Inventory

variable {inv inv' : Inventory}

lemma Keyed.insert (hkeyed : inv.Keyed) {name : String} {e : Entry}
    (hname : e.container.name = name) (h : inv'.entries = inv.entries.insert name e) :
    inv'.Keyed := by
  intro name' e' hget
  rw [h, NameMap.get?_insert] at hget
  by_cases hsame : name' = name
  · rw [if_pos hsame] at hget
    cases hget
    exact hname.trans hsame.symm
  · rw [if_neg hsame] at hget
    exact hkeyed name' e' hget

lemma Keyed.erase (hkeyed : inv.Keyed) {name : String}
    (h : inv'.entries = inv.entries.erase name) : inv'.Keyed := by
  intro name' e' hget
  rw [h, NameMap.get?_erase] at hget
  by_cases hsame : name' = name
  · rw [if_pos hsame] at hget
    cases hget
  · rw [if_neg hsame] at hget
    exact hkeyed name' e' hget

lemma entries_setAddress (inv : Inventory) (name address : String) :
    (inv.setAddress name address).entries = inv.entries ∨
      ∃ e, inv.entries.get? name = some e ∧
        (inv.setAddress name address).entries = inv.entries.insert name { e with address } := by
  unfold setAddress NameMap.modify
  cases hget : inv.entries.get? name with
  | none => exact .inl rfl
  | some e => exact .inr ⟨e, rfl, rfl⟩

lemma Keyed.arrange (hkeyed : inv.Keyed) (a : Arrangement) : (inv.arrange a).Keyed := by
  cases a with
  | add container address => exact hkeyed.insert (e := { container, address }) rfl rfl
  | setAddress name address =>
    rcases inv.entries_setAddress name address with hsame | ⟨e, he, hinsert⟩
    · unfold Keyed
      rw [Inventory.arrange, hsame]
      exact hkeyed
    · exact hkeyed.insert (e := { e with address }) (hkeyed name e he) hinsert
  | remove name => exact hkeyed.erase rfl
  | failNext | failAddress | clearAddressFault | stall | unstall | clearCalls => exact hkeyed

lemma Keyed.serve (hkeyed : inv.Keyed) (request : Request) :
    (Inventory.serve request inv).state.Keyed := by
  by_cases hok : ∃ a, (Inventory.serve request inv).answer = some (.ok a)
  · obtain ⟨a, ha⟩ := hok
    cases request with
    | create launch =>
      obtain ⟨-, rfl, htable⟩ := create_ok ha
      exact hkeyed.insert (e := ⟨.node _ _ _, _, _, _⟩) rfl (congrArg Prod.fst htable)
    | list query => exact hkeyed.of_table (list_ok ha).2
    | address container => exact hkeyed.of_table (address_ok ha).2
    | writeFile container path content =>
      obtain ⟨e, he, htable⟩ := writeFile_ok ha
      refine hkeyed.insert ?_ (congrArg Prod.fst htable)
      exact hkeyed _ e he
    | signal container signal =>
      obtain ⟨e, he, htable⟩ := signal_ok ha
      refine hkeyed.insert ?_ (congrArg Prod.fst htable)
      exact hkeyed _ e he
    | reload container =>
      obtain ⟨e, he, htable⟩ := reload_ok ha
      refine hkeyed.insert ?_ (congrArg Prod.fst htable)
      exact hkeyed _ e he
    | delete container => exact hkeyed.erase (congrArg Prod.fst (delete_ok ha).2)
  · exact hkeyed.of_table (serve_table fun a ha => hok ⟨a, ha⟩)

/-- The inventories that can come about, from nothing by changes from outside and by requests. -/
inductive Attainable : Inventory → Prop
  | empty : Attainable {}
  | arrange {inv : Inventory} (a : Arrangement) : Attainable inv → Attainable (inv.arrange a)
  | serve {inv : Inventory} (request : Request) :
    Attainable inv → Attainable (Inventory.serve request inv).state

lemma Attainable.keyed (h : inv.Attainable) : inv.Keyed := by
  induction h with
  | empty =>
    intro name e hget
    cases hget
  | arrange a _ ih => exact ih.arrange a
  | serve request _ ih => exact ih.serve request

end Inventory

namespace Balancer.Effect

variable {plan : Plan} {b b' : Balancer} {inv inv' : Inventory}

lemma cluster_eq (h : b.Effect plan inv inv' b') : b'.cluster = b.cluster := by
  cases h <;> rfl

lemma keyed (h : b.Effect plan inv inv' b') (hkeyed : inv.Keyed) : inv'.Keyed := by
  cases h with
  | none same => exact hkeyed.of_table same
  | created absent free table =>
    exact hkeyed.insert (e := ⟨.node _ _ _, _, _, _⟩) rfl (congrArg Prod.fst table)
  | documented c e₀ backends document signals attached found complete table =>
    refine hkeyed.insert ?_ (congrArg Prod.fst table)
    exact hkeyed c.name e₀ found
  | deleted c attached table => exact hkeyed.erase (congrArg Prod.fst table)

end Balancer.Effect

namespace Fleet

lemma Named.keep {fleet : Fleet} (hnamed : fleet.Named) {cluster : String} {b : Balancer}
    (hb : b.cluster = cluster) : (fleet.keep cluster b).Named := by
  intro cluster' b' hget
  rw [balancer?_keep] at hget
  by_cases hsame : cluster' = cluster
  · rw [if_pos hsame] at hget
    cases hget
    exact hb.trans hsame.symm
  · rw [if_neg hsame] at hget
    exact hnamed cluster' b' hget

lemma Named.track {fleet : Fleet} (hnamed : fleet.Named) (cluster : String) :
    (fleet.track cluster).Named := by
  intro cluster' b' hget
  rw [balancer?_track] at hget
  exact hnamed cluster' b' hget

lemma Named.forget {fleet : Fleet} (hnamed : fleet.Named) (cluster : String) :
    (fleet.forget cluster).Named := by
  intro cluster' b' hget
  rw [balancer?_forget] at hget
  by_cases hsame : cluster' = cluster
  · rw [if_pos hsame] at hget
    cases hget
  · rw [if_neg hsame] at hget
    exact hnamed cluster' b' hget

end Fleet

/-! ### Steps -/

namespace Site

variable {site : Site}

/-- What a deed does to the inventory: it is a change from outside, or it leaves the table as it is,
or it has an effect by a plan that is in use. -/
lemma step_inventory (hsound : site.Sound) (d : Deed) :
    (∃ a, d = .arrange a ∧ (site.step d).inventory = site.inventory.arrange a) ∨
    (site.step d).inventory.table = site.inventory.table ∨
    ∃ (plan : Plan) (b b' : Balancer), site.Uses plan ∧
      b.Effect plan site.inventory (site.step d).inventory b' := by
  cases d with
  | arrange a => exact .inl ⟨a, rfl, rfl⟩
  | perform spec task token =>
    simp only [step]
    generalize hrun : site.fleet.perform Inventory.engine token.1 spec task site.inventory = run
    obtain ⟨fleet', p, e⟩ := run
    rcases Fleet.perform_effect hsound.keyed hrun with ⟨b', heffect, -⟩ | ⟨-, htable, -⟩
    · exact .inr (.inr ⟨_, _, b', .inl rfl, heffect⟩)
    · exact .inr (.inl htable)
  | forget cluster => exact .inr (.inl rfl)
  | lookUp owner plan spec token =>
    simp only [step]
    generalize hrun : (Balancer.lookUp plan spec).run Inventory.engine token.1 _ = run
    obtain ⟨p, e⟩ := run
    obtain ⟨htable, -⟩ := run_lookUp hrun
    refine .inr (.inl ?_)
    split
    · next heq =>
      cases heq
      exact htable
    · next heq =>
      cases heq
      exact htable
  | work owner task token =>
    simp only [step]
    cases hown : site.own.get? owner with
    | none => exact .inr (.inl rfl)
    | some o =>
      obtain ⟨plan, b⟩ := o
      dsimp only
      generalize hrun : (b.perform plan task).run Inventory.engine token.1 _ = run
      obtain ⟨p, e⟩ := run
      obtain ⟨b', heffect, -⟩ := 
        run_perform (p := { engine := site.inventory }) hsound.keyed hrun
      refine .inr (.inr ⟨plan, b, b', .inr ⟨owner, b, hown⟩, ?_⟩)
      split
      · next heq =>
        cases heq
        exact heffect
      · next heq =>
        cases heq
        exact heffect
  | takeImage owner image => exact .inr (.inl rfl)

lemma named_step (hsound : site.Sound) (d : Deed) : (site.step d).fleet.Named := by
  cases d with
  | perform spec task token =>
    simp only [step]
    generalize hrun : site.fleet.perform Inventory.engine token.1 spec task site.inventory = run
    obtain ⟨fleet', p, e⟩ := run
    rcases Fleet.perform_effect hsound.keyed hrun with ⟨b', heffect, rfl, -⟩ | ⟨rfl, -, -⟩
    · exact hsound.named.keep
        (heffect.cluster_eq.trans (Fleet.cluster_worker hsound.named spec site.inventory))
    · exact hsound.named.track spec.name
  | forget cluster => exact hsound.named.forget cluster
  | arrange | takeImage => exact hsound.named
  | lookUp owner plan spec token =>
    simp only [step]
    split <;> exact hsound.named
  | work owner task token =>
    simp only [step]
    split
    · exact hsound.named
    · split <;> exact hsound.named

lemma plan_step (hsound : site.Sound) (d : Deed) :
    (site.step d).fleet.plan = site.fleet.plan := by
  cases d with
  | perform spec task token =>
    simp only [step]
    generalize hrun : site.fleet.perform Inventory.engine token.1 spec task site.inventory = run
    obtain ⟨fleet', p, e⟩ := run
    rcases Fleet.perform_effect hsound.keyed hrun with ⟨b', heffect, rfl, -⟩ | ⟨rfl, -, -⟩
    · rfl
    · exact Fleet.plan_track site.fleet spec.name
  | arrange | forget | takeImage => rfl
  | lookUp owner plan spec token =>
    simp only [step]
    split <;> rfl
  | work owner task token =>
    simp only [step]
    split
    · rfl
    · split <;> rfl

lemma Sound.step (hsound : site.Sound) (d : Deed) : (site.step d).Sound := by
  refine ⟨?_, named_step hsound d⟩
  rcases step_inventory hsound d with ⟨a, -, hinventory⟩ | htable | ⟨plan, b, b', -, heffect⟩
  · rw [hinventory]
    exact hsound.keyed.arrange a
  · exact hsound.keyed.of_table htable
  · exact heffect.keyed hsound.keyed

lemma sound_start (plan : Plan) : (start plan).Sound := by
  constructor
  · intro name e hget
    cases hget
  · intro cluster b hget
    cases hget

/-- Containers stand under their names and balancers are kept for their clusters, whatever is
done. -/
theorem sound_after (plan : Plan) (deeds : List Deed) : ((start plan).after deeds).Sound := by
  induction deeds using List.reverseRecOn with
  | nil => exact sound_start plan
  | append_singleton done d ih =>
    rw [after_concat]
    exact ih.step d

lemma plan_after (plan : Plan) (deeds : List Deed) :
    ((start plan).after deeds).fleet.plan = plan := by
  induction deeds using List.reverseRecOn with
  | nil => rfl
  | append_singleton done d ih =>
    rw [after_concat, plan_step (sound_after plan done), ih]

end Site

namespace Inventory

variable {inv inv' : Inventory} {name path : String} {document : ByteArray}

lemma file?_of_insert {key : String} {e : Entry} (h : inv'.entries = inv.entries.insert key e)
    (hfile : inv'.file? name path = some document) :
    name = key ∧ e.files.get? path = some document ∨ inv.file? name path = some document := by
  unfold file? at hfile ⊢
  rw [h, NameMap.get?_insert] at hfile
  by_cases hsame : name = key
  · rw [if_pos hsame] at hfile
    exact .inl ⟨hsame, hfile⟩
  · rw [if_neg hsame] at hfile
    exact .inr hfile

lemma file?_of_erase {key : String} (h : inv'.entries = inv.entries.erase key)
    (hfile : inv'.file? name path = some document) : inv.file? name path = some document := by
  unfold file? at hfile ⊢
  rw [h, NameMap.get?_erase] at hfile
  by_cases hsame : name = key
  · rw [if_pos hsame] at hfile
    cases hfile
  · rw [if_neg hsame] at hfile
    exact hfile

lemma file?_of_found {key : String} {e : Entry} (he : inv.entries.get? key = some e)
    (hfile : e.files.get? path = some document) : inv.file? key path = some document := by
  unfold file?
  rw [he]
  exact hfile

lemma file?_of_arrange {a : Arrangement} (hfile : (inv.arrange a).file? name path = some document) :
    inv.file? name path = some document := by
  cases a with
  | add container address =>
    have hinsert : (inv.add container address).entries =
        inv.entries.insert container.name { container, address } := rfl
    rcases file?_of_insert hinsert hfile with ⟨-, hempty⟩ | hold
    · cases hempty
    · exact hold
  | setAddress key address =>
    rcases inv.entries_setAddress key address with hsame | ⟨e, he, hinsert⟩
    · unfold file? at hfile ⊢
      rw [Inventory.arrange, hsame] at hfile
      exact hfile
    · rcases file?_of_insert hinsert hfile with ⟨rfl, hkept⟩ | hold
      · exact file?_of_found he hkept
      · exact hold
  | remove key => exact file?_of_erase rfl hfile
  | failNext | failAddress | clearAddressFault | stall | unstall | clearCalls => exact hfile

end Inventory

lemma Balancer.Effect.file? {plan : Plan} {b b' : Balancer} {inv inv' : Inventory}
    (h : b.Effect plan inv inv' b') {name path : String} {document : ByteArray}
    (hfile : inv'.file? name path = some document) :
    inv.file? name path = some document ∨
      path = plan.renderer.path ∧
        ∃ backends, inv.CompleteDocument plan b.cluster backends document := by
  cases h with
  | none same =>
    unfold Inventory.file? at hfile ⊢
    rw [Inventory.entries_of_table same] at hfile
    exact .inl hfile
  | created absent free table =>
    rcases Inventory.file?_of_insert (congrArg Prod.fst table) hfile with ⟨-, hempty⟩ | hold
    · cases hempty
    · exact .inl hold
  | documented c e₀ backends document' signals attached found complete table =>
    rcases Inventory.file?_of_insert (congrArg Prod.fst table) hfile with ⟨rfl, hput⟩ | hold
    · dsimp only at hput
      rw [NameMap.get?_insert] at hput
      by_cases hpath : path = plan.renderer.path
      · rw [if_pos hpath] at hput
        cases hput
        exact .inr ⟨hpath, backends, complete⟩
      · rw [if_neg hpath] at hput
        exact .inl (Inventory.file?_of_found found hput)
    · exact .inl hold
  | deleted c attached table => exact .inl (Inventory.file?_of_erase (congrArg Prod.fst table) hfile)

namespace Site

/-- Every document in a container was written when it was complete: at some time before, it was the
document of all control-plane nodes of a cluster by a plan that was in use, and it lies where that
plan has it. -/
theorem file_complete (plan : Plan) (history : List Deed) {name path : String}
    {document : ByteArray}
    (h : ((start plan).after history).inventory.file? name path = some document) :
    ∃ done rest plan' cluster backends, history = done ++ rest ∧
      ((start plan).after done).Uses plan' ∧ path = plan'.renderer.path ∧
      ((start plan).after done).inventory.CompleteDocument plan' cluster backends document := by
  induction history using List.reverseRecOn with
  | nil => cases h
  | append_singleton done d ih =>
    -- a document that was there before this deed was written by an earlier one
    have earlier (hold : ((start plan).after done).inventory.file? name path = some document) :
        ∃ first rest plan' cluster backends, done ++ [d] = first ++ rest ∧
          ((start plan).after first).Uses plan' ∧ path = plan'.renderer.path ∧
          ((start plan).after first).inventory.CompleteDocument plan' cluster backends
            document := by
      obtain ⟨first, rest, plan', cluster, backends, rfl, hwritten⟩ := ih hold
      exact ⟨first, rest ++ [d], plan', cluster, backends, by simp, hwritten⟩
    rw [after_concat] at h
    rcases step_inventory (sound_after plan done) d with
      ⟨a, -, hinventory⟩ | htable | ⟨plan', b, b', huses, heffect⟩
    · rw [hinventory] at h
      exact earlier (Inventory.file?_of_arrange h)
    · apply earlier
      unfold Inventory.file? at h ⊢
      rw [Inventory.entries_of_table htable] at h
      exact h
    · rcases heffect.file? h with hold | ⟨hpath, backends, hcomplete⟩
      · exact earlier hold
      · exact ⟨done, [d], plan', b.cluster, backends, rfl, huses, hpath, hcomplete⟩

/-- Whatever has been done on a site, an update by the fleet and an update by somebody's own
balancer do what `Inventory.Updates` says: they put the complete document of the control plane as it
is now into the attached container, with one signal, and touch nothing else, or they fail with the
table as it was, or with that document written but its reload stopped. So every document in a
container is one that was complete at some time. -/
theorem update_puts_complete_document (plan : Plan) (history : List Deed) :
    let site := (start plan).after history
    (∀ (spec : ClusterSpec) (token : Token),
      let run := site.fleet.perform Inventory.engine token.1 spec .update site.inventory
      Inventory.Updates plan spec.name ((run.1.balancer? spec.name).bind (·.container))
        .rollout site.inventory run.2.1.engine run.2.2) ∧
    (∀ (owner : String) (plan' : Plan) (b : Balancer) (token : Token),
      site.own.get? owner = some (plan', b) →
      let run := (b.update plan').run Inventory.engine token.1 { engine := site.inventory }
      Inventory.Updates plan' b.cluster b.container id site.inventory run.1.engine run.2) ∧
    (∀ (name path : String) (document : ByteArray),
      site.inventory.file? name path = some document →
      ∃ done rest plan' cluster backends, history = done ++ rest ∧
        ((start plan).after done).Uses plan' ∧ path = plan'.renderer.path ∧
        ((start plan).after done).inventory.CompleteDocument plan' cluster backends document) := by
  intro site
  have hsound : site.Sound := sound_after plan history
  refine ⟨?_, ?_, ?_⟩
  · intro spec token run
    have hupdates := Fleet.perform_update (t := token) (e := run.2.2) hsound.keyed hsound.named rfl
    rw [plan_after] at hupdates
    exact hupdates
  · intro owner plan' b token hown run
    exact run_update (p := { engine := site.inventory }) hsound.keyed rfl
  · intro name path document hfile
    exact file_complete plan history hfile

end Site

end ApiBalancer
