import ApiBalancer.Proofs.Agreement

/-!
# Containers that come and stay

Which containers are in an inventory after something has been done: none comes up but by a request
for it, and those that stay are the same. A task of a balancer brings up none but the balancer's own
(`Balancer.Effect.grows`).
-/

namespace ApiBalancer

namespace Inventory

variable {inv inv' : Inventory} {name : String}

lemma contains_of_entries (h : inv'.entries = inv.entries) :
    inv'.contains name = inv.contains name := by
  unfold contains
  rw [h]

lemma contains_insert {key : String} {e : Entry} (h : inv'.entries = inv.entries.insert key e) :
    inv'.contains name = true ↔ name = key ∨ inv.contains name = true := by
  unfold contains NameMap.contains
  rw [h, NameMap.get?_insert]
  by_cases hsame : name = key
  · simp [hsame]
  · simp [hsame]

lemma contains_replace {key : String} {e e' : Entry} (he : inv.entries.get? key = some e)
    (h : inv'.entries = inv.entries.insert key e') :
    inv'.contains name = inv.contains name := by
  have hkey : inv.contains key = true := by
    unfold contains NameMap.contains
    rw [he]
    rfl
  rw [Bool.eq_iff_iff, contains_insert h]
  constructor
  · rintro (rfl | hthere)
    · exact hkey
    · exact hthere
  · exact .inr

lemma contains_erase {key : String} (h : inv'.entries = inv.entries.erase key)
    (hthere : inv'.contains name = true) : inv.contains name = true := by
  unfold contains NameMap.contains at hthere ⊢
  rw [h, NameMap.get?_erase] at hthere
  by_cases hsame : name = key
  · rw [if_pos hsame] at hthere
    cases hthere
  · rw [if_neg hsame] at hthere
    exact hthere

lemma contains_erase_self {key : String} (h : inv'.entries = inv.entries.erase key) :
    inv'.contains key = false := by
  unfold contains NameMap.contains
  rw [h, NameMap.get?_erase, if_pos rfl]
  rfl

lemma contains_iff : inv.contains name = true ↔ ∃ e, inv.entries.get? name = some e :=
  Option.isSome_iff_exists

/-- What a request does to the table: nothing, or it creates a container, or it replaces an entry with
one of the same container, or it deletes a container. -/
lemma serve_cases (request : Request) (inv : Inventory) :
    (serve request inv).state.table = inv.table ∨
    (∃ launch, request = .create launch ∧ inv.contains launch.name = false ∧
      (serve request inv).state.table =
        (inv.entries.insert launch.name
          ⟨.node launch.name launch.cluster .externalLoadBalancer, createdAddress inv.created, ∅, []⟩,
        inv.created + 1)) ∨
    (∃ name e e', inv.entries.get? name = some e ∧ e'.container = e.container ∧
      (serve request inv).state.table = (inv.entries.insert name e', inv.created)) ∨
    ∃ c, request = .delete c ∧
      (serve request inv).state.table = (inv.entries.erase c.name, inv.created) := by
  by_cases hok : ∃ a, (serve request inv).answer = some (.ok a)
  · obtain ⟨a, ha⟩ := hok
    cases request with
    | create launch =>
      obtain ⟨hfree, rfl, htable⟩ := create_ok ha
      exact .inr (.inl ⟨launch, rfl, hfree, htable⟩)
    | list query => exact .inl (list_ok ha).2
    | address container => exact .inl (address_ok ha).2
    | writeFile container path content =>
      obtain ⟨e, he, htable⟩ := writeFile_ok ha
      refine .inr (.inr (.inl ⟨container.name, e, _, he, ?_, htable⟩))
      rfl
    | signal container signal =>
      obtain ⟨e, he, htable⟩ := signal_ok ha
      refine .inr (.inr (.inl ⟨container.name, e, _, he, ?_, htable⟩))
      rfl
    | reload container =>
      obtain ⟨e, he, htable⟩ := reload_ok ha
      refine .inr (.inr (.inl ⟨container.name, e, _, he, ?_, htable⟩))
      rfl
    | delete container => exact .inr (.inr (.inr ⟨container, rfl, (delete_ok ha).2⟩))
  · exact .inl (serve_table fun a ha => hok ⟨a, ha⟩)

/-- A container that is there after a request was there before, or the request was for it. -/
lemma contains_serve {request : Request}
    (h : (serve request inv).state.contains name = true) :
    inv.contains name = true ∨ ∃ launch, request = .create launch ∧ launch.name = name := by
  rcases serve_cases request inv with
    htable | ⟨launch, rfl, -, htable⟩ | ⟨key, e, e', he, -, htable⟩ | ⟨c, -, htable⟩
  · rw [contains_of_entries (entries_of_table htable)] at h
    exact .inl h
  · rcases (contains_insert (congrArg Prod.fst htable)).1 h with rfl | hold
    · exact .inr ⟨launch, rfl, rfl⟩
    · exact .inl hold
  · rw [contains_replace he (congrArg Prod.fst htable)] at h
    exact .inl h
  · exact .inl (contains_erase (congrArg Prod.fst htable) h)

lemma contains_arrange {a : Arrangement} (ha : a.KeepsContainers) :
    (inv.arrange a).contains name = inv.contains name := by
  cases a with
  | add | remove => exact ha.elim
  | setAddress key address =>
    rcases inv.entries_setAddress key address with hsame | ⟨e, he, hinsert⟩
    · exact contains_of_entries hsame
    · exact contains_replace he hinsert
  | failNext | failAddress | clearAddressFault | stall | unstall | clearCalls => rfl

end Inventory

/-! ### Containers that stay -/

namespace Inventory

variable {inv inv' : Inventory} {key : String} {e e' : Entry}

/-- Whether containers that are in an inventory and in a later one are the same in both. -/
def Persists (inv inv' : Inventory) : Prop :=
  ∀ ⦃name e e'⦄, inv.entries.get? name = some e → inv'.entries.get? name = some e' →
    e'.container = e.container

lemma persists_of_entries (h : inv'.entries = inv.entries) : inv.Persists inv' := by
  intro name e e' he he'
  rw [h] at he'
  cases he.symm.trans he'
  rfl

lemma persists_insert (h : inv'.entries = inv.entries.insert key e')
    (hsame : ∀ e, inv.entries.get? key = some e → e'.container = e.container) :
    inv.Persists inv' := by
  intro name e e₁ he he₁
  rw [h, NameMap.get?_insert] at he₁
  by_cases hname : name = key
  · rw [if_pos hname] at he₁
    cases he₁
    rw [hname] at he
    exact hsame e he
  · rw [if_neg hname] at he₁
    cases he.symm.trans he₁
    rfl

lemma persists_replace (h : inv'.entries = inv.entries.insert key e')
    (he : inv.entries.get? key = some e) (hsame : e'.container = e.container) :
    inv.Persists inv' := by
  refine persists_insert h fun e₁ he₁ => ?_
  cases he.symm.trans he₁
  exact hsame

lemma persists_erase (h : inv'.entries = inv.entries.erase key) : inv.Persists inv' := by
  intro name e e₁ he he₁
  rw [h, NameMap.get?_erase] at he₁
  by_cases hname : name = key
  · rw [if_pos hname] at he₁
    cases he₁
  · rw [if_neg hname] at he₁
    cases he.symm.trans he₁
    rfl

lemma persists_arrange (inv : Inventory) {a : Arrangement} (ha : a.KeepsContainers) :
    inv.Persists (inv.arrange a) := by
  cases a with
  | add | remove => exact ha.elim
  | setAddress key address =>
    rcases inv.entries_setAddress key address with hsame | ⟨e, he, hinsert⟩
    · exact persists_of_entries hsame
    · exact persists_replace hinsert he rfl
  | failNext | failAddress | clearAddressFault | stall | unstall | clearCalls =>
    exact persists_of_entries rfl

/-- From an inventory to a later one, the containers that stay are the same, and none comes up but one
that is labelled and named as the balancer container of the cluster. -/
structure Grows (inv : Inventory) (cluster : String) (inv' : Inventory) : Prop where
  persists : inv.Persists inv'
  new : ∀ name e', inv.entries.get? name = none → inv'.entries.get? name = some e' →
    name = cluster ++ "-lb" ∧ e'.container = .node name cluster .externalLoadBalancer

variable {cluster : String}

lemma grows_of_entries (h : inv'.entries = inv.entries) : inv.Grows cluster inv' := by
  refine ⟨persists_of_entries h, fun name e₁ hnone he₁ => ?_⟩
  rw [h, hnone] at he₁
  cases he₁

lemma grows_create (h : inv'.entries = inv.entries.insert key e')
    (hfree : inv.contains key = false) (hkey : key = cluster ++ "-lb")
    (hnode : e'.container = .node key cluster .externalLoadBalancer) : inv.Grows cluster inv' := by
  refine ⟨persists_insert h fun e he => ?_, fun name e₁ hnone he₁ => ?_⟩
  · rw [contains_iff.2 ⟨e, he⟩] at hfree
    cases hfree
  · rw [h, NameMap.get?_insert] at he₁
    by_cases hname : name = key
    · rw [if_pos hname] at he₁
      cases he₁
      rw [hname]
      exact ⟨hkey, hnode⟩
    · rw [if_neg hname, hnone] at he₁
      cases he₁

lemma grows_replace (h : inv'.entries = inv.entries.insert key e')
    (he : inv.entries.get? key = some e) (hsame : e'.container = e.container) :
    inv.Grows cluster inv' := by
  refine ⟨persists_replace h he hsame, fun name e₁ hnone he₁ => ?_⟩
  rw [h, NameMap.get?_insert] at he₁
  by_cases hname : name = key
  · rw [hname, he] at hnone
    cases hnone
  · rw [if_neg hname, hnone] at he₁
    cases he₁

lemma grows_erase (h : inv'.entries = inv.entries.erase key) : inv.Grows cluster inv' := by
  refine ⟨persists_erase h, fun name e₁ hnone he₁ => ?_⟩
  rw [h, NameMap.get?_erase, hnone, ite_self] at he₁
  cases he₁

/-- A request brings up no container but one that is launched for the cluster under its name. -/
lemma grows_serve {request : Request} (inv : Inventory)
    (hlaunch : ∀ launch, request = .create launch →
      launch.name = cluster ++ "-lb" ∧ launch.cluster = cluster) :
    inv.Grows cluster (serve request inv).state := by
  rcases serve_cases request inv with
    htable | ⟨launch, hrequest, hfree, htable⟩ | ⟨key, e, e', he, hsame, htable⟩ | ⟨c, -, htable⟩
  · exact grows_of_entries (entries_of_table htable)
  · obtain ⟨hname, rfl⟩ := hlaunch launch hrequest
    exact grows_create (congrArg Prod.fst htable) hfree hname rfl
  · exact grows_replace (congrArg Prod.fst htable) he hsame
  · exact grows_erase (congrArg Prod.fst htable)

end Inventory

/-- A task of a balancer brings up no container but the one named after the balancer's cluster. -/
lemma Balancer.Effect.grows {plan : Plan} {b b' : Balancer} {inv inv' : Inventory}
    (h : b.Effect plan inv inv' b') : inv.Grows b.cluster inv' := by
  cases h with
  | none same => exact Inventory.grows_of_entries (Inventory.entries_of_table same)
  | created absent free table =>
    exact Inventory.grows_create (congrArg Prod.fst table) free rfl rfl
  | documented c e₀ backends document signals attached found complete table =>
    exact Inventory.grows_replace (congrArg Prod.fst table) found rfl
  | deleted c attached table => exact Inventory.grows_erase (congrArg Prod.fst table)

lemma Balancer.Effect.created_le {plan : Plan} {b b' : Balancer} {inv inv' : Inventory}
    (h : b.Effect plan inv inv' b') : inv.created ≤ inv'.created := by
  cases h with
  | none same => exact Nat.le_of_eq (congrArg Prod.snd same).symm
  | created absent free table =>
    rw [show inv'.created = inv.created + 1 from congrArg Prod.snd table]
    exact Nat.le_succ inv.created
  | documented c e₀ backends document signals attached found complete table =>
    exact Nat.le_of_eq (congrArg Prod.snd table).symm
  | deleted c attached table => exact Nat.le_of_eq (congrArg Prod.snd table).symm

/-- The task of a fleet brings up no container but the one named after the task's cluster. -/
lemma Fleet.perform_grows {t : Token} {spec : ClusterSpec} {task : Balancer.Task}
    {fleet fleet' : Fleet} {inv : Inventory} {q : Progress Inventory}
    {e : Ending BalancerError Balancer.Answer} (hkeyed : inv.Keyed) (hnamed : fleet.Named)
    (h : fleet.perform Inventory.engine t.1 spec task inv = (fleet', q, e)) :
    inv.Grows spec.name q.engine ∧ inv.created ≤ q.engine.created := by
  rcases perform_effect hkeyed h with ⟨b', heffect, -⟩ | ⟨-, htable, -⟩
  · have hgrows := heffect.grows
    rw [cluster_worker hnamed] at hgrows
    exact ⟨hgrows, heffect.created_le⟩
  · exact ⟨Inventory.grows_of_entries (Inventory.entries_of_table htable),
      Nat.le_of_eq (congrArg Prod.snd htable).symm⟩

end ApiBalancer
