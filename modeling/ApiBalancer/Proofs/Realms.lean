import ApiBalancer.Proofs.Containers
import ApiBalancer.Proofs.Requests

/-!
# Realms

What belongs to one cluster in an inventory that many clusters share. Two inventories may differ in
everything that belongs to others: beside each other (`Realm.Beside`), they answer what is requested
for the cluster in the same way and stay beside each other (`Realm.Beside.answer_eq`,
`Realm.Beside.serve`). Only the addresses of the containers created in them are numbered differently,
because others have created containers, too.
-/

namespace ApiBalancer

open Procedure

/-- Pairs of numbers of containers that were created, in one inventory after `start` and before `n`
others, in another after `start` and before `n'` others, in the same order. -/
structure Numbering (numbers : List (Nat × Nat)) (start n n' : Nat) : Prop where
  le : start ≤ n
  le' : start ≤ n'
  increasing : numbers.Pairwise fun p q => p.1 < q.1 ∧ p.2 < q.2
  within : ∀ p ∈ numbers, (start ≤ p.1 ∧ p.1 < n) ∧ start ≤ p.2 ∧ p.2 < n'

namespace Numbering

variable {numbers : List (Nat × Nat)} {start n n' : Nat}

lemma refl (start : Nat) : Numbering [] start start start :=
  ⟨Nat.le_refl start, Nat.le_refl start, .nil, nofun⟩

lemma mono (h : Numbering numbers start n n') {m : Nat} (hle : n ≤ m) :
    Numbering numbers start m n' := by
  refine ⟨Nat.le_trans h.le hle, h.le', h.increasing, fun p hp => ?_⟩
  have hwithin := h.within p hp
  omega

lemma append (h : Numbering numbers start n n') :
    Numbering (numbers ++ [(n, n')]) start (n + 1) (n' + 1) := by
  have hle := h.le
  have hle' := h.le'
  refine ⟨by omega, by omega, ?_, fun p hp => ?_⟩
  · refine List.pairwise_append.2 ⟨h.increasing, List.pairwise_singleton _ _, fun p hp q hq => ?_⟩
    have hwithin := h.within p hp
    rw [List.mem_singleton.1 hq]
    dsimp only
    omega
  · rcases List.mem_append.1 hp with hold | hlast
    · have hwithin := h.within p hold
      omega
    · rw [List.mem_singleton.1 hlast]
      dsimp only
      omega

end Numbering

/-- Whether two addresses are one, or were given to the containers of a pair: those that were created
after so many others in one inventory and in another. -/
def Renumbered (numbers : List (Nat × Nat)) (a a' : String) : Prop :=
  a = a' ∨ ∃ p ∈ numbers, a = Inventory.createdAddress p.1 ∧ a' = Inventory.createdAddress p.2

lemma Renumbered.mono {numbers numbers' : List (Nat × Nat)} {a a' : String}
    (h : Renumbered numbers a a') (hsub : numbers ⊆ numbers') : Renumbered numbers' a a' := by
  rcases h with rfl | ⟨p, hp, ha⟩
  · exact .inl rfl
  · exact .inr ⟨p, hsub hp, ha⟩

lemma Renumbered.isEmpty_eq {numbers : List (Nat × Nat)} {a a' : String}
    (h : Renumbered numbers a a') : a.isEmpty = a'.isEmpty := by
  rcases h with rfl | ⟨p, -, rfl, rfl⟩
  · rfl
  · rw [Inventory.isEmpty_createdAddress, Inventory.isEmpty_createdAddress]

namespace Entry

variable {numbers numbers' : List (Nat × Nat)} {e e' : Entry}

/-- Whether two entries are the same up to the number in the address. -/
structure Alike (numbers : List (Nat × Nat)) (e e' : Entry) : Prop where
  container : e.container = e'.container
  address : Renumbered numbers e.address e'.address
  files : e.files = e'.files
  signals : e.signals = e'.signals

lemma Alike.refl (numbers : List (Nat × Nat)) (e : Entry) : e.Alike numbers e :=
  ⟨rfl, .inl rfl, rfl, rfl⟩

lemma Alike.mono (h : e.Alike numbers e') (hsub : numbers ⊆ numbers') : e.Alike numbers' e' :=
  ⟨h.container, h.address.mono hsub, h.files, h.signals⟩

end Entry

lemma Container.cluster?_node (name cluster : String) (role : Role) :
    (node name cluster role).cluster? = some cluster := by
  have hne : Label.cluster ≠ Label.role := by decide
  simp only [cluster?, node, withLabel, NameMap.get?_insert_of_ne hne, NameMap.get?_insert_self]

lemma Inventory.IsBalancer.cluster?_eq {inv : Inventory} {cluster name : String} {e : Entry}
    (h : inv.IsBalancer cluster name) (he : inv.entries.get? name = some e) :
    e.container.cluster? = some cluster := by
  obtain ⟨e', he', hmatches⟩ := h
  cases he.symm.trans he'
  exact (LabelQuery.nodes_matches.1 hmatches).1

/-- The names that belong to a cluster, and those among them that belong to its control-plane nodes.
No other cluster's balancer container is created under such a name. -/
structure Realm where
  cluster : String
  /-- How many containers have been created before. -/
  start : Nat
  Own : String → Prop
  Node : String → Prop
  own_balancer : Own (cluster ++ "-lb")
  only : ∀ other, Own (other ++ "-lb") → other = cluster

namespace Realm

variable {R : Realm} {inv inv' inv₁ inv₁' : Inventory} {numbers numbers' : List (Nat × Nat)}
  {name key cluster : String}

/-- Whether a name belongs to the cluster, but not to a control-plane node. -/
def Handle (R : Realm) (name : String) : Prop := R.Own name ∧ ¬ R.Node name

/-- Whether the containers of an inventory keep to a realm: those of the cluster have the names that
belong to it, and its control-plane nodes have those that belong to them. -/
structure Bounds (R : Realm) (inv : Inventory) : Prop where
  keyed : inv.Keyed
  own : ∀ name e, inv.entries.get? name = some e →
    (R.Own name ↔ e.container.cluster? = some R.cluster)
  node : ∀ name, R.Node name ↔ ∃ e, inv.entries.get? name = some e ∧
    (LabelQuery.nodes R.cluster .controlPlane).Matches e.container.labels

namespace Bounds

/-- An inventory keeps to a realm whatever balancer containers come up, if the control-plane nodes
stay. -/
lemma grows (h : R.Bounds inv) (hkeyed : inv'.Keyed) (hgrows : inv.Grows cluster inv')
    (hstay : ∀ name, R.Node name → inv'.entries.get? name = inv.entries.get? name) :
    R.Bounds inv' := by
  refine ⟨hkeyed, fun name e' he' => ?_, fun name => ?_⟩
  · cases he : inv.entries.get? name with
    | none =>
      obtain ⟨rfl, hnode⟩ := hgrows.new name e' he he'
      rw [hnode, Container.cluster?_node, Option.some_inj]
      constructor
      · exact R.only cluster
      · rintro rfl
        exact R.own_balancer
    | some e =>
      rw [hgrows.persists he he']
      exact h.own name e he
  · constructor
    · intro hnode
      rw [hstay name hnode]
      exact (h.node name).1 hnode
    · rintro ⟨e', he', hmatches⟩
      cases he : inv.entries.get? name with
      | none =>
        obtain ⟨-, hnode⟩ := hgrows.new name e' he he'
        rw [hnode, LabelQuery.nodes_matches_node] at hmatches
        exact absurd hmatches.2 (by decide)
      | some e =>
        rw [hgrows.persists he he'] at hmatches
        exact (h.node name).2 ⟨e, he, hmatches⟩

/-- A container that is found for a role of the cluster has a name that belongs to the cluster. -/
lemma own_of_matches (h : R.Bounds inv) {e : Entry} {role : Role}
    (he : inv.entries.get? name = some e)
    (hmatches : (LabelQuery.nodes R.cluster role).Matches e.container.labels) : R.Own name :=
  (h.own name e he).2 (LabelQuery.nodes_matches.1 hmatches).1

lemma own_of_node (h : R.Bounds inv) (hnode : R.Node name) : R.Own name := by
  obtain ⟨e, he, hmatches⟩ := (h.node name).1 hnode
  exact h.own_of_matches he hmatches

lemma handle_of_isBalancer (h : R.Bounds inv) (hbalancer : inv.IsBalancer R.cluster name) :
    R.Handle name := by
  obtain ⟨e, he, hmatches⟩ := hbalancer
  refine ⟨h.own_of_matches he hmatches, fun hnode => ?_⟩
  obtain ⟨e', he', hmatches'⟩ := (h.node name).1 hnode
  cases he.symm.trans he'
  have hrole := (LabelQuery.nodes_matches.1 hmatches).2
  have hrole' := (LabelQuery.nodes_matches.1 hmatches').2
  exact absurd (Option.some.inj (hrole.symm.trans hrole')) (by decide)

end Bounds

/-- Whether the entries under the names that belong to the cluster are the same up to numbers. -/
def Alike (R : Realm) (numbers : List (Nat × Nat)) (inv inv' : Inventory) : Prop :=
  ∀ name, R.Own name →
    Option.Rel (Entry.Alike numbers) (inv.entries.get? name) (inv'.entries.get? name)

namespace Alike

/-- Under a name that belongs to the cluster there is no entry, or there are two that are alike. -/
lemma get? (h : R.Alike numbers inv inv') (hown : R.Own name) :
    (inv.entries.get? name = none ∧ inv'.entries.get? name = none) ∨
      ∃ e e', inv.entries.get? name = some e ∧ inv'.entries.get? name = some e' ∧
        e.Alike numbers e' := by
  have hname := h name hown
  generalize inv.entries.get? name = entry at hname ⊢
  generalize inv'.entries.get? name = entry' at hname ⊢
  cases hname with
  | none => exact .inl ⟨rfl, rfl⟩
  | some halike => exact .inr ⟨_, _, rfl, rfl, halike⟩

lemma of_get? (h : R.Alike numbers inv inv') (hown : R.Own name) {e e' : Entry}
    (he : inv.entries.get? name = some e) (he' : inv'.entries.get? name = some e') :
    e.Alike numbers e' := by
  rcases h.get? hown with ⟨hnone, -⟩ | ⟨e₀, e₀', he₀, he₀', halike⟩
  · cases he.symm.trans hnone
  · cases he.symm.trans he₀
    cases he'.symm.trans he₀'
    exact halike

lemma mono (h : R.Alike numbers inv inv') (hsub : numbers ⊆ numbers') :
    R.Alike numbers' inv inv' := by
  intro name hown
  rcases h.get? hown with ⟨he, he'⟩ | ⟨e, e', he, he', halike⟩
  · rw [he, he']
    exact .none
  · rw [he, he']
    exact .some (halike.mono hsub)

lemma of_entries (h : R.Alike numbers inv inv') (hsame : inv₁.entries = inv.entries)
    (hsame' : inv₁'.entries = inv'.entries) : R.Alike numbers inv₁ inv₁' := by
  unfold Alike
  rw [hsame, hsame']
  exact h

lemma insert (h : R.Alike numbers inv inv') {e e' : Entry} (halike : e.Alike numbers e')
    (hinsert : inv₁.entries = inv.entries.insert key e)
    (hinsert' : inv₁'.entries = inv'.entries.insert key e') : R.Alike numbers inv₁ inv₁' := by
  intro name hown
  rw [hinsert, hinsert', NameMap.get?_insert, NameMap.get?_insert]
  by_cases hname : name = key
  · rw [if_pos hname, if_pos hname]
    exact .some halike
  · rw [if_neg hname, if_neg hname]
    exact h name hown

lemma erase (h : R.Alike numbers inv inv') (herase : inv₁.entries = inv.entries.erase key)
    (herase' : inv₁'.entries = inv'.entries.erase key) : R.Alike numbers inv₁ inv₁' := by
  intro name hown
  rw [herase, herase', NameMap.get?_erase, NameMap.get?_erase]
  by_cases hname : name = key
  · rw [if_pos hname, if_pos hname]
    exact .none
  · rw [if_neg hname, if_neg hname]
    exact h name hown

lemma contains_eq (h : R.Alike numbers inv inv') (hown : R.Own name) :
    inv.contains name = inv'.contains name := by
  unfold Inventory.contains NameMap.contains
  rcases h.get? hown with ⟨he, he'⟩ | ⟨e, e', he, he', -⟩
  · rw [he, he']
  · rw [he, he']
    rfl

lemma answering_eq (h : R.Alike numbers inv inv') (hbounds : R.Bounds inv)
    (hbounds' : R.Bounds inv') (role : Role) :
    inv.answering (.nodes R.cluster role) = inv'.answering (.nodes R.cluster role) := by
  refine Inventory.answering_ext hbounds.keyed hbounds'.keyed fun c => ?_
  simp only [Inventory.mem_answering]
  constructor
  · rintro ⟨hmatches, name, e, he, rfl⟩
    rcases h.get? (hbounds.own_of_matches he hmatches) with ⟨hnone, -⟩ | ⟨e₀, e', he₀, he', halike⟩
    · cases he.symm.trans hnone
    · cases he.symm.trans he₀
      exact ⟨hmatches, name, e', he', halike.container.symm⟩
  · rintro ⟨hmatches, name, e', he', rfl⟩
    rcases h.get? (hbounds'.own_of_matches he' hmatches) with ⟨-, hnone⟩ | ⟨e, e₀, he, he₀, halike⟩
    · cases he'.symm.trans hnone
    · cases he'.symm.trans he₀
      exact ⟨hmatches, name, e, he, halike.container⟩

end Alike

/-- Two inventories that differ in nothing that concerns the cluster: they hold the same containers
of it up to numbers, which are in the same order in both, and are stalled and faulty in the same
way. -/
structure Beside (R : Realm) (numbers : List (Nat × Nat)) (inv inv' : Inventory) : Prop where
  bounds : R.Bounds inv
  bounds' : R.Bounds inv'
  alike : R.Alike numbers inv inv'
  nodes : ∀ name, R.Node name → inv.entries.get? name = inv'.entries.get? name
  numbering : Numbering numbers R.start inv.created inv'.created
  stalled : inv'.stalled = inv.stalled
  addressFaults : inv'.addressFaults = inv.addressFaults
  faults : inv.faults = []
  faults' : inv'.faults = []

/-- The terms of whoever works for the cluster: requests concern what belongs to it. -/
def terms (R : Realm) : Terms where
  asks
    | .create launch => launch.name = R.cluster ++ "-lb" ∧ launch.cluster = R.cluster
    | .list query => ∃ role, query = .nodes R.cluster role
    | .address c => R.Node c.name
    | .writeFile c _ _ | .reload c | .delete c => R.Handle c.name
    | .signal _ _ => False
  hears
    | .list query, found => ∀ c ∈ found,
      (query = .nodes R.cluster .controlPlane → R.Node c.name) ∧
        (query = .nodes R.cluster .externalLoadBalancer → R.Handle c.name)
    | _, _ => True

lemma Bounds.met (h : R.Bounds inv) (request : Request) :
    R.terms.Met (Inventory.serve request inv) := by
  intro a ha
  cases request with
  | list query =>
    intro c hc
    rw [(Inventory.list_ok ha).1] at hc
    obtain ⟨hmatches, name, e, he, rfl⟩ := Inventory.mem_answering.1 hc
    rw [h.keyed name e he]
    constructor
    · rintro rfl
      exact (h.node name).2 ⟨e, he, hmatches⟩
    · rintro rfl
      exact h.handle_of_isBalancer ⟨e, he, hmatches⟩
  | _ => exact trivial

/-! ### Requests -/

end Realm

namespace Inventory

variable {inv inv' : Inventory}

lemma answer_of_no_faults (request : Request) (hfaults : inv.faults = []) :
    (serve request inv).answer =
      if request.call.operation ∈ inv.stalled then none
      else some (work request (inv.record request.call)).2 := by
  unfold serve
  rw [hfaults]
  dsimp only
  split <;> rfl

/-- What is answered if the address of a container is looked up. -/
def tellAddress (inv : Inventory) (name : String) : Except EngineError String :=
  match inv.addressFaults.get? name, inv.addressOf? name with
  | some message, _ => .error (.failed message)
  | none, some address => .ok address
  | none, none => .error (.notFound name)

lemma work_address (inv : Inventory) (c : Container) :
    (work (.address c) (inv.record (Request.address c).call)).2 = inv.tellAddress c.name := by
  have hfaults : (inv.record (Request.address c).call).addressFaults = inv.addressFaults := rfl
  have haddress : (inv.record (Request.address c).call).addressOf? c.name = inv.addressOf? c.name :=
    rfl
  unfold tellAddress
  simp only [work, hfaults, haddress]
  cases inv.addressFaults.get? c.name with
  | some message => rfl
  | none => cases inv.addressOf? c.name <;> rfl

lemma serve_address_table (inv : Inventory) (c : Container) :
    (serve (.address c) inv).state.table = inv.table := by
  by_cases hok : ∃ a, (serve (.address c) inv).answer = some (.ok a)
  · obtain ⟨a, ha⟩ := hok
    exact (address_ok ha).2
  · exact serve_table fun a ha => hok ⟨a, ha⟩

/-- A change is answered in the same way if there is no entry in either inventory, or two on which it
succeeds and fails in the same way. -/
lemma answer_change {name : String} {f : Entry → Except EngineError Entry}
    (h : inv.entries.get? name = none ∧ inv'.entries.get? name = none ∨
      ∃ e e', inv.entries.get? name = some e ∧ inv'.entries.get? name = some e' ∧
        (f e).map (fun _ => ()) = (f e').map fun _ => ()) :
    (inv.change name f).2 = (inv'.change name f).2 := by
  unfold change
  rcases h with ⟨he, he'⟩ | ⟨e, e', he, he', hsame⟩
  · rw [he, he']
  · rw [he, he']
    dsimp only
    cases hfe : f e with
    | error err =>
      rw [hfe] at hsame
      cases hfe' : f e' with
      | error err' =>
        rw [hfe'] at hsame
        cases hsame
        rfl
      | ok _ =>
        rw [hfe'] at hsame
        cases hsame
    | ok _ =>
      rw [hfe] at hsame
      cases hfe' : f e' with
      | error err' =>
        rw [hfe'] at hsame
        cases hsame
      | ok _ => rfl

end Inventory

namespace Realm

variable {R : Realm} {inv inv' inv₁ inv₁' : Inventory} {numbers numbers' : List (Nat × Nat)}
  {name key cluster : String} {made made' : List Request}

namespace Alike

lemma answer_send (h : R.Alike numbers inv inv') (hown : R.Own name) (signal : Signal) :
    (inv.send name signal).2 = (inv'.send name signal).2 := by
  refine Inventory.answer_change ?_
  rcases h.get? hown with hnone | ⟨e, e', he, he', halike⟩
  · exact .inl hnone
  · refine .inr ⟨e, e', he, he', ?_⟩
    rw [halike.address.isEmpty_eq]
    split <;> rfl

lemma answer_writeFile (h : R.Alike numbers inv inv') (hown : R.Own name) (path : String)
    (content : ByteArray) :
    (inv.change name fun e => .ok { e with files := e.files.insert path content }).2 =
      (inv'.change name fun e => .ok { e with files := e.files.insert path content }).2 := by
  refine Inventory.answer_change ?_
  rcases h.get? hown with hnone | ⟨e, e', he, he', -⟩
  · exact .inl hnone
  · exact .inr ⟨e, e', he, he', rfl⟩

end Alike

namespace Beside

/-- What is requested for the cluster is answered in the same way in both inventories. -/
theorem answer_eq (h : R.Beside numbers inv inv') {request : Request}
    (hasks : R.terms.asks request) :
    (Inventory.serve request inv).answer = (Inventory.serve request inv').answer := by
  rw [Inventory.answer_of_no_faults request h.faults, Inventory.answer_of_no_faults request h.faults',
    h.stalled]
  have halike : R.Alike numbers (inv.record request.call) (inv'.record request.call) :=
    h.alike.of_entries rfl rfl
  split
  · rfl
  · refine congrArg some ?_
    cases request with
    | create launch =>
      have hown : R.Own launch.name := by
        rw [hasks.1]
        exact R.own_balancer
      simp only [Inventory.work, halike.contains_eq hown]
      split <;> rfl
    | list query =>
      obtain ⟨role, rfl⟩ := hasks
      exact congrArg Except.ok (h.alike.answering_eq h.bounds h.bounds' role)
    | address c =>
      have haddress : inv.addressOf? c.name = inv'.addressOf? c.name := by
        unfold Inventory.addressOf?
        rw [h.nodes c.name hasks]
      rw [Inventory.work_address, Inventory.work_address]
      unfold Inventory.tellAddress
      rw [h.addressFaults, haddress]
    | writeFile c path content => exact halike.answer_writeFile hasks.1 path content
    | signal c signal => exact hasks.elim
    | reload c => exact halike.answer_send hasks.1 .hangup
    | delete c =>
      simp only [Inventory.work, halike.contains_eq hasks.1]
      split <;> rfl

/-- The address of a container of the cluster is looked up in the same way in both inventories, up to
its number. -/
theorem address (h : R.Beside numbers inv inv') {c : Container} (hown : R.Own c.name) :
    (Inventory.serve (.address c) inv).answer = (Inventory.serve (.address c) inv').answer ∨
      ∃ a a', (Inventory.serve (.address c) inv).answer = some (.ok a) ∧
        (Inventory.serve (.address c) inv').answer = some (.ok a') ∧ Renumbered numbers a a' := by
  rw [Inventory.answer_of_no_faults _ h.faults, Inventory.answer_of_no_faults _ h.faults', h.stalled]
  split
  · exact .inl rfl
  · rw [Inventory.work_address, Inventory.work_address]
    unfold Inventory.tellAddress Inventory.addressOf?
    rw [h.addressFaults]
    rcases h.alike.get? hown with ⟨he, he'⟩ | ⟨e, e', he, he', halike⟩
    · rw [he, he']
      exact .inl rfl
    · rw [he, he']
      cases inv.addressFaults.get? c.name with
      | some message => exact .inl rfl
      | none => exact .inr ⟨e.address, e'.address, rfl, rfl, halike.address⟩

/-- Inventories stay beside each other whatever happens in them, if balancer containers alone come
up, control-plane nodes stay as they are, and the entries that belong to the cluster stay alike. -/
lemma change (h : R.Beside numbers inv inv') {cluster' : String} (hkeyed : inv₁.Keyed)
    (hkeyed' : inv₁'.Keyed) (hgrows : inv.Grows cluster inv₁) (hgrows' : inv'.Grows cluster' inv₁')
    (hfollows : inv.Follows made inv₁) (hfollows' : inv'.Follows made' inv₁')
    (halike : R.Alike numbers' inv₁ inv₁')
    (hnodes : ∀ name, R.Node name → inv₁.entries.get? name = inv.entries.get? name)
    (hnodes' : ∀ name, R.Node name → inv₁'.entries.get? name = inv'.entries.get? name)
    (hnumbering : Numbering numbers' R.start inv₁.created inv₁'.created) :
    R.Beside numbers' inv₁ inv₁' where
  bounds := h.bounds.grows hkeyed hgrows hnodes
  bounds' := h.bounds'.grows hkeyed' hgrows' hnodes'
  alike := halike
  nodes name hnode := by rw [hnodes name hnode, hnodes' name hnode, h.nodes name hnode]
  numbering := hnumbering
  stalled := by rw [hfollows.stalled, hfollows'.stalled, h.stalled]
  addressFaults := by rw [hfollows.addressFaults, hfollows'.addressFaults, h.addressFaults]
  faults := hfollows.faults h.faults
  faults' := hfollows'.faults h.faults'

variable {request : Request}

/-- After a request for the cluster it is left to show what the request has done to the entries. -/
lemma of_serve (h : R.Beside numbers inv inv') (hasks : R.terms.asks request)
    (halike : R.Alike numbers' (Inventory.serve request inv).state
      (Inventory.serve request inv').state)
    (hnodes : ∀ name, R.Node name →
      (Inventory.serve request inv).state.entries.get? name = inv.entries.get? name)
    (hnodes' : ∀ name, R.Node name →
      (Inventory.serve request inv').state.entries.get? name = inv'.entries.get? name)
    (hnumbering : Numbering numbers' R.start (Inventory.serve request inv).state.created
      (Inventory.serve request inv').state.created) :
    R.Beside numbers' (Inventory.serve request inv).state (Inventory.serve request inv').state := by
  have hgrows : ∀ inv : Inventory, inv.Grows R.cluster (Inventory.serve request inv).state := by
    intro inv
    refine Inventory.grows_serve inv ?_
    rintro launch rfl
    exact hasks
  exact h.change (h.bounds.keyed.serve request) (h.bounds'.keyed.serve request) (hgrows inv)
    (hgrows inv') (inv.serve_follows request) (inv'.serve_follows request) halike hnodes hnodes'
    hnumbering

lemma of_unchanged (h : R.Beside numbers inv inv')
    (htable : (Inventory.serve request inv).state.table = inv.table)
    (htable' : (Inventory.serve request inv').state.table = inv'.table) :
    R.Beside numbers (Inventory.serve request inv).state (Inventory.serve request inv').state := by
  obtain ⟨hentries, hcreated⟩ := Prod.mk.inj htable
  obtain ⟨hentries', hcreated'⟩ := Prod.mk.inj htable'
  have hgrows : inv.Grows R.cluster (Inventory.serve request inv).state :=
    Inventory.grows_of_entries hentries
  have hgrows' : inv'.Grows R.cluster (Inventory.serve request inv').state :=
    Inventory.grows_of_entries hentries'
  refine h.change (h.bounds.keyed.serve request) (h.bounds'.keyed.serve request) hgrows hgrows'
    (inv.serve_follows request) (inv'.serve_follows request)
    (h.alike.of_entries hentries hentries') ?_ ?_ ?_
  · intro name _
    rw [hentries]
  · intro name _
    rw [hentries']
  · rw [hcreated, hcreated']
    exact h.numbering

lemma ne_of_node (hkey : ¬ R.Node key) (hnode : R.Node name) : name ≠ key := by
  rintro rfl
  exact hkey hnode

lemma of_replaced (h : R.Beside numbers inv inv') (hasks : R.terms.asks request)
    (hkey : ¬ R.Node key) {e e' : Entry} (halike : e.Alike numbers e')
    (htable : (Inventory.serve request inv).state.table = (inv.entries.insert key e, inv.created))
    (htable' : (Inventory.serve request inv').state.table =
      (inv'.entries.insert key e', inv'.created)) :
    R.Beside numbers (Inventory.serve request inv).state (Inventory.serve request inv').state := by
  obtain ⟨hentries, hcreated⟩ := Prod.mk.inj htable
  obtain ⟨hentries', hcreated'⟩ := Prod.mk.inj htable'
  refine h.of_serve hasks (h.alike.insert halike hentries hentries') ?_ ?_ ?_
  · intro name hnode
    rw [hentries, NameMap.get?_insert_of_ne (ne_of_node hkey hnode)]
  · intro name hnode
    rw [hentries', NameMap.get?_insert_of_ne (ne_of_node hkey hnode)]
  · rw [hcreated, hcreated']
    exact h.numbering

lemma of_erased (h : R.Beside numbers inv inv') (hasks : R.terms.asks request)
    (hkey : ¬ R.Node key)
    (htable : (Inventory.serve request inv).state.table = (inv.entries.erase key, inv.created))
    (htable' : (Inventory.serve request inv').state.table =
      (inv'.entries.erase key, inv'.created)) :
    R.Beside numbers (Inventory.serve request inv).state (Inventory.serve request inv').state := by
  obtain ⟨hentries, hcreated⟩ := Prod.mk.inj htable
  obtain ⟨hentries', hcreated'⟩ := Prod.mk.inj htable'
  refine h.of_serve hasks (h.alike.erase hentries hentries') ?_ ?_ ?_
  · intro name hnode
    rw [hentries, NameMap.get?_erase, if_neg (ne_of_node hkey hnode)]
  · intro name hnode
    rw [hentries', NameMap.get?_erase, if_neg (ne_of_node hkey hnode)]
  · rw [hcreated, hcreated']
    exact h.numbering

/-- A container that is created in both inventories is one more pair. -/
lemma of_created (h : R.Beside numbers inv inv') (hasks : R.terms.asks request)
    (hfree : inv.contains key = false) {c : Container}
    (htable : (Inventory.serve request inv).state.table =
      (inv.entries.insert key ⟨c, Inventory.createdAddress inv.created, ∅, []⟩, inv.created + 1))
    (htable' : (Inventory.serve request inv').state.table =
      (inv'.entries.insert key ⟨c, Inventory.createdAddress inv'.created, ∅, []⟩,
        inv'.created + 1)) :
    R.Beside (numbers ++ [(inv.created, inv'.created)]) (Inventory.serve request inv).state
      (Inventory.serve request inv').state := by
  obtain ⟨hentries, hcreated⟩ := Prod.mk.inj htable
  obtain ⟨hentries', hcreated'⟩ := Prod.mk.inj htable'
  have hsub : numbers ⊆ numbers ++ [(inv.created, inv'.created)] :=
    List.subset_append_left numbers _
  have hpair : (inv.created, inv'.created) ∈ numbers ++ [(inv.created, inv'.created)] :=
    List.mem_append_right numbers List.mem_cons_self
  have hkey : ¬ R.Node key := by
    intro hnode
    obtain ⟨e, he, -⟩ := (h.bounds.node key).1 hnode
    rw [Inventory.contains_iff.2 ⟨e, he⟩] at hfree
    cases hfree
  have hnew : Entry.Alike (numbers ++ [(inv.created, inv'.created)])
      ⟨c, Inventory.createdAddress inv.created, ∅, []⟩
      ⟨c, Inventory.createdAddress inv'.created, ∅, []⟩ :=
    ⟨rfl, .inr ⟨_, hpair, rfl, rfl⟩, rfl, rfl⟩
  refine h.of_serve hasks ((h.alike.mono hsub).insert hnew hentries hentries') ?_ ?_ ?_
  · intro name hnode
    rw [hentries, NameMap.get?_insert_of_ne (ne_of_node hkey hnode)]
  · intro name hnode
    rw [hentries', NameMap.get?_insert_of_ne (ne_of_node hkey hnode)]
  · rw [hcreated, hcreated']
    exact h.numbering.append

/-- What is requested for the cluster leaves the inventories beside each other. -/
theorem serve (h : R.Beside numbers inv inv') (hasks : R.terms.asks request) :
    ∃ numbers', numbers ⊆ numbers' ∧
      R.Beside numbers' (Inventory.serve request inv).state
        (Inventory.serve request inv').state := by
  have hself : numbers ⊆ numbers := List.Subset.refl numbers
  by_cases hok : ∃ a, (Inventory.serve request inv).answer = some (.ok a)
  · obtain ⟨a, ha⟩ := hok
    have ha' := ha
    rw [h.answer_eq hasks] at ha'
    cases request with
    | create launch =>
      obtain ⟨hfree, -, htable⟩ := Inventory.create_ok ha
      obtain ⟨-, -, htable'⟩ := Inventory.create_ok ha'
      exact ⟨_, List.subset_append_left numbers _, h.of_created hasks hfree htable htable'⟩
    | list query =>
      exact ⟨numbers, hself,
        h.of_unchanged (Inventory.list_ok ha).2 (Inventory.list_ok ha').2⟩
    | address c =>
      exact ⟨numbers, hself,
        h.of_unchanged (inv.serve_address_table c) (inv'.serve_address_table c)⟩
    | writeFile c path content =>
      obtain ⟨e, he, htable⟩ := Inventory.writeFile_ok ha
      obtain ⟨e', he', htable'⟩ := Inventory.writeFile_ok ha'
      have halike := h.alike.of_get? hasks.1 he he'
      refine ⟨numbers, hself, h.of_replaced hasks hasks.2 ?_ htable htable'⟩
      refine ⟨halike.container, halike.address, ?_, halike.signals⟩
      dsimp only
      rw [halike.files]
    | signal c signal => exact hasks.elim
    | reload c =>
      obtain ⟨e, he, htable⟩ := Inventory.reload_ok ha
      obtain ⟨e', he', htable'⟩ := Inventory.reload_ok ha'
      have halike := h.alike.of_get? hasks.1 he he'
      refine ⟨numbers, hself, h.of_replaced hasks hasks.2 ?_ htable htable'⟩
      refine ⟨halike.container, halike.address, halike.files, ?_⟩
      dsimp only
      rw [halike.signals]
    | delete c =>
      exact ⟨numbers, hself,
        h.of_erased hasks hasks.2 (Inventory.delete_ok ha).2 (Inventory.delete_ok ha').2⟩
  · refine ⟨numbers, hself, h.of_unchanged (Inventory.serve_table fun a ha => hok ⟨a, ha⟩)
      (Inventory.serve_table fun a ha => hok ⟨a, ?_⟩)⟩
    rw [h.answer_eq hasks]
    exact ha

end Beside

end Realm

end ApiBalancer
