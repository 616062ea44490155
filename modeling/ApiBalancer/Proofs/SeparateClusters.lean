import ApiBalancer.Proofs.Handles
import ApiBalancer.Proofs.Realms

/-!
# Separate clusters

What a fleet does for one cluster does not depend on what it does for others. If every container
that is named as a balancer container belongs to the cluster that it is named after, leaving out all
that is done for other clusters changes neither what the tasks of a cluster request and come to nor
the cluster's containers, but for the numbers in the addresses of containers that are created
(`Site.clusters_do_not_interfere`).
-/

namespace ApiBalancer

open Procedure

/-- Whether two tasks have ended in the same way, up to the number in an address. -/
def SameButNumber (numbers : List (Nat × Nat)) (e e' : Ending BalancerError Balancer.Answer) :
    Prop :=
  e = e' ∨ ∃ a a', e = .finished (.ok (.address a)) ∧ e' = .finished (.ok (.address a')) ∧
    Renumbered numbers a a'

namespace Balancer

variable {σ : Type} {engine : Engine σ} {k : Cancellation} {plan : Plan} {b : Balancer}
  {c : Container}

/-- What is left of looking up an address once the engine has answered. -/
def addressed (b : Balancer) (c : Container) :
    Except EngineError String → Procedure BalancerError (Balancer × Answer)
  | .error e => done (.error (.engine .readAddress b.cluster c.name e))
  | .ok a =>
    if a.isEmpty then done (.error (.noAddress b.cluster c.name)) else done (.ok (b, .address a))

lemma perform_address_eq (hc : b.container = some c) :
    b.perform plan .address =
      call (.address c) (some (.cancelled .readAddress b.cluster)) (b.addressed c) := by
  simp only [perform, address, attached, hc]
  refine congrArg (call _ _) (funext fun x => ?_)
  cases x with
  | error e => rfl
  | ok a =>
    simp only [addressed]
    change ((if a.isEmpty = true then fail (BalancerError.noAddress b.cluster c.name) else pure a).bind
      fun a => done (.ok (b, Answer.address a))) = _
    split <;> rfl

/-- An address that is looked up in two states in the same way, up to its number, is told in the same
way, and what holds of the two states before and after that holds of them in the end. -/
lemma outcome_address {S : σ → σ → Prop} (hc : b.container = some c) {s s' : σ}
    {numbers : List (Nat × Nat)}
    (h : (engine.serve (.address c) s).answer = (engine.serve (.address c) s').answer ∨
      ∃ a a', (engine.serve (.address c) s).answer = some (.ok a) ∧
        (engine.serve (.address c) s').answer = some (.ok a') ∧ Renumbered numbers a a')
    (hbefore : S s s')
    (hafter : S (engine.serve (.address c) s).state (engine.serve (.address c) s').state)
    (made : List Request) :
    let run := (b.perform plan .address).outcome engine k s made
    let run' := (b.perform plan .address).outcome engine k s' made
    S run.1 run'.1 ∧ run.2.1 = run'.2.1 ∧ Fleet.kept b run.2.2 = Fleet.kept b run'.2.2 ∧
      SameButNumber numbers (run.2.2.map (·.2)) (run'.2.2.map (·.2)) := by
  dsimp only
  rw [perform_address_eq hc, outcome_call_some, outcome_call_some]
  by_cases hfired : k.firedBefore made.length = true
  · rw [if_pos hfired, if_pos hfired]
    exact ⟨hbefore, rfl, rfl, .inl rfl⟩
  rw [if_neg hfired, if_neg hfired]
  have hisNone : (engine.serve (.address c) s).answer.isNone =
      (engine.serve (.address c) s').answer.isNone := by
    rcases h with hsame | ⟨a, a', ha, ha', -⟩
    · rw [hsame]
    · rw [ha, ha']
      rfl
  rw [← hisNone]
  by_cases hduring :
      k.firesDuring made.length (engine.serve (.address c) s).answer.isNone = true
  · rw [if_pos hduring, if_pos hduring]
    exact ⟨hafter, rfl, rfl, .inl rfl⟩
  rw [if_neg hduring, if_neg hduring]
  rcases h with hsame | ⟨a, a', ha, ha', hnumber⟩
  · rw [← hsame]
    cases (engine.serve (.address c) s).answer with
    | none => exact ⟨hafter, rfl, rfl, .inl rfl⟩
    | some x =>
      cases x with
      | error err => exact ⟨hafter, rfl, rfl, .inl rfl⟩
      | ok a =>
        simp only [addressed]
        split <;> exact ⟨hafter, rfl, rfl, .inl rfl⟩
  · rw [ha, ha']
    simp only [addressed, hnumber.isEmpty_eq]
    split
    · exact ⟨hafter, rfl, rfl, .inl rfl⟩
    · exact ⟨hafter, rfl, rfl, .inr ⟨a, a', rfl, rfl, hnumber⟩⟩

end Balancer

namespace Realm

variable {R : Realm} {numbers : List (Nat × Nat)} {inv inv' : Inventory} {plan : Plan}
  {b : Balancer} {task : Balancer.Task} {spec : ClusterSpec} {k : Cancellation} {ε α : Type}

/-- Whether a balancer works for the cluster, with a container that belongs to it if with any. -/
def Employs (R : Realm) (b : Balancer) : Prop :=
  b.cluster = R.cluster ∧ ∀ c ∈ b.container, R.Handle c.name

lemma Employs.withImage (h : R.Employs b) (image : String) : R.Employs (b.withImage image) := by
  refine ⟨(Fleet.cluster_withImage b image).trans h.1, ?_⟩
  rw [Balancer.container_withImage]
  exact h.2

lemma keepsTo_lookUp (plan : Plan) (hname : spec.name = R.cluster) :
    (Balancer.lookUp plan spec).KeepsTo R.terms R.Employs := by
  have hask : R.terms.asks (.list (.nodes spec.name .externalLoadBalancer)) := by
    rw [hname]
    exact ⟨.externalLoadBalancer, rfl⟩
  have hhear : ∀ found,
      R.terms.hears (.list (.nodes spec.name .externalLoadBalancer)) found →
        ∀ c ∈ found, R.Handle c.name := by
    intro found hfound c hc
    rw [hname] at hfound
    exact (hfound c hc).2 rfl
  have hkeeps := Balancer.keepsTo_lookUp plan hask hhear
  rw [hname] at hkeeps
  exact hkeeps

lemma Employs.keepsTo_perform (h : R.Employs b) (plan : Plan)
    (htask : ∀ c, task = .address → b.container ≠ some c) :
    (b.perform plan task).KeepsTo R.terms fun _ => True := by
  obtain ⟨hcluster, hcontainer⟩ := h
  refine (Balancer.keepsTo_perform plan b task fun c => R.Node c.name).mono ?_ ?_
  · intro request hasks
    cases request with
    | create launch =>
      obtain ⟨-, -, rfl⟩ := hasks
      exact ⟨congrArg (· ++ "-lb") hcluster, hcluster⟩
    | list query =>
      obtain ⟨-, rfl⟩ := hasks
      rw [hcluster]
      exact ⟨.controlPlane, rfl⟩
    | address c =>
      rcases hasks with ⟨haddress, hc⟩ | ⟨-, hnode⟩
      · exact (htask c haddress hc).elim
      · exact hnode
    | writeFile c path content => exact hcontainer c hasks.2
    | signal c signal => exact hasks
    | reload c => exact hcontainer c hasks.2
    | delete c => exact hcontainer c hasks.2
  · intro request a hasks hhears
    cases request with
    | list query =>
      obtain ⟨-, rfl⟩ := hasks
      rw [hcluster] at hhears
      exact fun c hc => (hhears c hc).1 rfl
    | _ => exact trivial

lemma Beside.outcome {proc : Procedure ε α} {Q : α → Prop} (h : R.Beside numbers inv inv')
    (hproc : proc.KeepsTo R.terms Q) (k : Cancellation) (made : List Request) :
    let run := proc.outcome Inventory.engine k inv made
    let run' := proc.outcome Inventory.engine k inv' made
    run.2 = run'.2 ∧ (∃ numbers', numbers ⊆ numbers' ∧ R.Beside numbers' run.1 run'.1) ∧
      ∀ a, run.2.2 = .finished (.ok a) → Q a := by
  let S (inv inv' : Inventory) : Prop := ∃ numbers', numbers ⊆ numbers' ∧ R.Beside numbers' inv inv'
  have hstart : S inv inv' := ⟨numbers, List.Subset.refl numbers, h⟩
  refine outcome_same (S := S) hproc ?_ hstart k made
  rintro request s s' hasks ⟨numbers₁, hsub, hbeside⟩
  obtain ⟨numbers₂, hsub', hafter⟩ := hbeside.serve hasks
  exact ⟨hbeside.answer_eq hasks, ⟨numbers₂, List.Subset.trans hsub hsub', hafter⟩,
    hbeside.bounds.met request⟩

/-- On inventories beside each other, a balancer of the cluster does the same, up to the number in an
address. -/
lemma Beside.work (h : R.Beside numbers inv inv') (hb : R.Employs b) (plan : Plan)
    (task : Balancer.Task) (k : Cancellation) (made : List Request) :
    let run := (b.perform plan task).outcome Inventory.engine k inv made
    let run' := (b.perform plan task).outcome Inventory.engine k inv' made
    ∃ numbers', numbers ⊆ numbers' ∧ R.Beside numbers' run.1 run'.1 ∧ run.2.1 = run'.2.1 ∧
      Fleet.kept b run.2.2 = Fleet.kept b run'.2.2 ∧
      SameButNumber numbers' (run.2.2.map (·.2)) (run'.2.2.map (·.2)) := by
  intro run run'
  by_cases hlook : ∃ c, task = .address ∧ b.container = some c
  · obtain ⟨c, rfl, hc⟩ := hlook
    have hafter : R.Beside numbers (Inventory.serve (.address c) inv).state
        (Inventory.serve (.address c) inv').state :=
      h.of_unchanged (inv.serve_address_table c) (inv'.serve_address_table c)
    exact ⟨numbers, List.Subset.refl numbers,
      Balancer.outcome_address (S := R.Beside numbers) hc (h.address (hb.2 c hc).1) h hafter made⟩
  · have htask : ∀ c, task = .address → b.container ≠ some c :=
      fun c htask hc => hlook ⟨c, htask, hc⟩
    obtain ⟨hend, ⟨numbers', hsub, hbeside⟩, -⟩ :=
      h.outcome (hb.keepsTo_perform plan htask) k made
    have hsame : run.2 = run'.2 := hend
    refine ⟨numbers', hsub, hbeside, congrArg Prod.fst hend, ?_, .inl ?_⟩
    · rw [hsame]
    · rw [hsame]

end Realm

namespace Fleet

variable (fleet : Fleet) (cluster cluster' : String)

lemma get?_keep (b : Balancer) : (fleet.keep cluster b).slots.get? cluster' =
    if cluster' = cluster then some (some b) else fleet.slots.get? cluster' :=
  NameMap.get?_insert _ _ _ _

lemma get?_track : (fleet.track cluster).slots.get? cluster' =
    if cluster' = cluster then some (fleet.balancer? cluster) else fleet.slots.get? cluster' := by
  unfold track tracks balancer? NameMap.contains
  cases hslot : fleet.slots.get? cluster with
  | none =>
    rw [Option.isSome_none, if_neg Bool.false_ne_true, NameMap.get?_insert]
    rfl
  | some slot =>
    rw [Option.isSome_some, if_pos rfl]
    by_cases hsame : cluster' = cluster
    · rw [if_pos hsame, hsame, hslot]
      rfl
    · rw [if_neg hsame]

lemma get?_forget : (fleet.forget cluster).slots.get? cluster' =
    if cluster' = cluster then none else fleet.slots.get? cluster' :=
  NameMap.get?_erase _ _ _

end Fleet

namespace Realm

variable {R : Realm} {numbers : List (Nat × Nat)} {inv inv' s₁ s₁' : Inventory} {b : Balancer}
  {spec : ClusterSpec} {k : Cancellation} {fleet fleet' : Fleet} {first : List Request}

/-- Whether two fleets come to the same in a task for the cluster, up to the number in an address,
and leave the cluster's part of the inventories the same. -/
def ComesToTheSame (R : Realm) (numbers : List (Nat × Nat))
    (run run' : Fleet × Progress Inventory × Ending BalancerError Balancer.Answer) : Prop :=
  ∃ numbers', numbers ⊆ numbers' ∧ R.Beside numbers' run.2.1.engine run'.2.1.engine ∧
    run.2.1.made = run'.2.1.made ∧ SameButNumber numbers' run.2.2 run'.2.2 ∧
    run.1.slots.get? R.cluster = run'.1.slots.get? R.cluster

lemma Beside.perform_found (h : R.Beside numbers s₁ s₁') (hplan : fleet'.plan = fleet.plan)
    (hname : spec.name = R.cluster) (hb : R.Employs b)
    (hfinds : Fleet.Finds Inventory.engine k fleet spec inv b s₁ first)
    (hfinds' : Fleet.Finds Inventory.engine k fleet' spec inv' b s₁' first) (task : Balancer.Task) :
    R.ComesToTheSame numbers (fleet.perform Inventory.engine k spec task inv)
      (fleet'.perform Inventory.engine k spec task inv') := by
  have hready : fleet'.ready spec b = fleet.ready spec b := by
    unfold Fleet.ready
    rw [hplan]
  have hemploys : R.Employs (fleet.ready spec b) := hb.withImage _
  obtain ⟨numbers', hsub, hbeside, hmade, hkept, hends⟩ := h.work hemploys fleet.plan task k first
  have hrun : ((fleet'.ready spec b).perform fleet'.plan task).outcome Inventory.engine k s₁' first =
      ((fleet.ready spec b).perform fleet.plan task).outcome Inventory.engine k s₁' first := by
    rw [hready, hplan]
  obtain ⟨q, hq, hengine, hmadeq⟩ := Fleet.perform_of_finds hfinds
    (Eq.refl (((fleet.ready spec b).perform fleet.plan task).outcome Inventory.engine k s₁ first))
  obtain ⟨q', hq', hengine', hmadeq'⟩ := Fleet.perform_of_finds hfinds' hrun
  rw [hq, hq', hready]
  refine ⟨numbers', hsub, ?_, ?_, hends, ?_⟩
  · rw [hengine, hengine']
    exact hbeside
  · rw [hmadeq, hmadeq']
    exact hmade
  · rw [Fleet.get?_keep, Fleet.get?_keep, if_pos hname.symm, if_pos hname.symm]
    exact congrArg (fun b => some (some b)) hkept

/-- On inventories beside each other, two fleets with the same balancer for the cluster come to the
same. -/
theorem Beside.perform (h : R.Beside numbers inv inv') (hplan : fleet'.plan = fleet.plan)
    (hname : spec.name = R.cluster)
    (hsame : fleet'.balancer? R.cluster = fleet.balancer? R.cluster)
    (hemploys : ∀ b, fleet.balancer? R.cluster = some b → R.Employs b) (k : Cancellation)
    (task : Balancer.Task) :
    R.ComesToTheSame numbers (fleet.perform Inventory.engine k spec task inv)
      (fleet'.perform Inventory.engine k spec task inv') := by
  rw [← hname] at hsame hemploys
  cases hb : fleet.balancer? spec.name with
  | some b =>
    exact h.perform_found hplan hname (hemploys b hb) (.kept hb) (.kept (hsame.trans hb)) task
  | none =>
    have hb' := hsame.trans hb
    obtain ⟨hlook, ⟨numbers₁, hsub, hbeside⟩, hfound⟩ :=
      h.outcome (keepsTo_lookUp fleet.plan hname) k []
    generalize hrun : (Balancer.lookUp fleet.plan spec).outcome Inventory.engine k inv [] = run
      at hlook hbeside hfound
    generalize hrun' : (Balancer.lookUp fleet.plan spec).outcome Inventory.engine k inv' [] = run'
      at hlook hbeside
    obtain ⟨s₁, first, e⟩ := run
    obtain ⟨s₁', first', e'⟩ := run'
    cases hlook
    rw [← hplan] at hrun'
    by_cases hok : ∃ b, e = .finished (.ok b)
    · obtain ⟨b, rfl⟩ := hok
      obtain ⟨numbers', hsub', hrest⟩ := hbeside.perform_found hplan hname (hfound b rfl)
        (.found s₁ first hb hrun) (.found s₁' first hb' hrun') task
      exact ⟨numbers', List.Subset.trans hsub hsub', hrest⟩
    · have hfails : e.Fails := fun b hend => hok ⟨b, hend⟩
      obtain ⟨q, hq, hengine, hmade⟩ :=
        Fleet.perform_of_not_found hb hrun hfails fun _ => .done
      obtain ⟨q', hq', hengine', hmade'⟩ :=
        Fleet.perform_of_not_found hb' hrun' hfails fun _ => .done
      rw [hq, hq']
      refine ⟨numbers₁, hsub, ?_, hmade.trans hmade'.symm, .inl rfl, ?_⟩
      · rw [hengine, hengine']
        exact hbeside
      · rw [Fleet.get?_track, Fleet.get?_track, if_pos hname.symm, if_pos hname.symm, hsame]

end Realm

/-! ### Histories -/

/-- Whether a task is given to the fleet, or a cluster is forgotten. -/
def Deed.IsOperation : Deed → Prop
  | .perform .. | .forget _ => True
  | _ => False

lemma Deed.IsOperation.throughFleet {d : Deed} (h : d.IsOperation) : d.ThroughFleet := by
  cases d with
  | perform | forget => exact trivial
  | arrange | lookUp | work | takeImage => exact h.elim

/-- Whether a deed is done for a cluster. -/
def Deed.concerns (cluster : String) : Deed → Bool
  | .perform spec _ _ => spec.name == cluster
  | .forget cluster' => cluster' == cluster
  | _ => false

/-- Whether two sites tell the same of a deed, up to the number in an address. -/
def Site.TellsAlike (numbers : List (Nat × Nat)) (site site' : Site) : Deed → Prop
  | .perform spec task token =>
    SameButNumber numbers
      (site.fleet.perform Inventory.engine token.1 spec task site.inventory).2.2
      (site'.fleet.perform Inventory.engine token.1 spec task site'.inventory).2.2
  | .forget cluster => site.fleet.tracks cluster = site'.fleet.tracks cluster
  | _ => True

lemma Site.TellsAlike.mono {numbers numbers' : List (Nat × Nat)} {site site' : Site} {d : Deed}
    (h : site.TellsAlike numbers site' d) (hsub : numbers ⊆ numbers') :
    site.TellsAlike numbers' site' d := by
  cases d with
  | perform spec task token =>
    rcases h with hsame | ⟨a, a', he, he', hnumber⟩
    · exact .inl hsame
    · exact .inr ⟨a, a', he, he', hnumber.mono hsub⟩
  | _ => exact h

namespace Realm

variable {R : Realm} {numbers numbers' : List (Nat × Nat)} {site site' : Site} {d : Deed}

/-- Two sites that differ in nothing that concerns the cluster. -/
structure Abreast (R : Realm) (numbers : List (Nat × Nat)) (site site' : Site) : Prop where
  rooted : Rooted site.fleet site.inventory
  rooted' : Rooted site'.fleet site'.inventory
  plan : site'.fleet.plan = site.fleet.plan
  slot : site.fleet.slots.get? R.cluster = site'.fleet.slots.get? R.cluster
  beside : R.Beside numbers site.inventory site'.inventory

namespace Abreast

lemma employs (h : R.Abreast numbers site site') {b : Balancer}
    (hb : site.fleet.balancer? R.cluster = some b) : R.Employs b := by
  refine ⟨h.rooted.named R.cluster b hb, fun c hc => ?_⟩
  exact h.beside.bounds.handle_of_isBalancer (h.rooted.held R.cluster b c hb hc).isBalancer

lemma own (h : R.Abreast numbers site site') (hd : d.IsOperation)
    (hown : d.concerns R.cluster = true) :
    site.asked d = site'.asked d ∧ ∃ numbers', numbers ⊆ numbers' ∧
      site.TellsAlike numbers' site' d ∧ R.Abreast numbers' (site.step d) (site'.step d) := by
  cases d with
  | perform spec task token =>
    have hname : spec.name = R.cluster := eq_of_beq hown
    have hsame : site'.fleet.balancer? R.cluster = site.fleet.balancer? R.cluster :=
      congrArg Option.join h.slot.symm
    obtain ⟨numbers', hsub, hbeside, hmade, hends, hslot⟩ :=
      h.beside.perform h.plan hname hsame (fun _ => h.employs) token.1 task
    refine ⟨hmade, numbers', hsub, hends, ?_, ?_, ?_, hslot, hbeside⟩
    · exact h.rooted.perform rfl
    · exact h.rooted'.perform rfl
    · exact (Fleet.plan_perform _ _ _ _ _ _).trans
        (h.plan.trans (Fleet.plan_perform _ _ _ _ _ _).symm)
  | forget cluster =>
    obtain rfl : cluster = R.cluster := eq_of_beq hown
    refine ⟨rfl, numbers, List.Subset.refl numbers, ?_, h.rooted.forget _, h.rooted'.forget _, h.plan,
      ?_, h.beside⟩
    · exact congrArg Option.isSome h.slot
    · simp only [Site.step, Fleet.get?_forget, if_pos]
  | arrange | lookUp | work | takeImage => exact hd.elim

lemma get?_perform_other (h : R.Abreast numbers site site') {spec : ClusterSpec}
    (hne : spec.name ≠ R.cluster) {t : Token} {task : Balancer.Task} {fleet' : Fleet}
    {q : Progress Inventory} {e : Ending BalancerError Balancer.Answer}
    (hrun : site.fleet.perform Inventory.engine t.1 spec task site.inventory = (fleet', q, e))
    {name : String} (hown : R.Own name) :
    q.engine.entries.get? name = site.inventory.entries.get? name := by
  refine h.rooted.get?_perform hrun ?_ ?_
  · intro hbalancer
    have ⟨e, he, _⟩ := hbalancer
    have hlabel := hbalancer.cluster?_eq he
    have hlabel' := (h.beside.bounds.own name e he).1 hown
    exact hne (Option.some.inj (hlabel.symm.trans hlabel'))
  · rintro - rfl
    exact hne (R.only spec.name hown)

lemma other (h : R.Abreast numbers site site') (hd : d.IsOperation)
    (hother : d.concerns R.cluster = false) : R.Abreast numbers (site.step d) site' := by
  cases d with
  | perform spec task token =>
    have hne : spec.name ≠ R.cluster := ne_of_beq_false hother
    simp only [Site.step]
    generalize hrun : site.fleet.perform Inventory.engine token.1 spec task site.inventory = run
    obtain ⟨fleet', q, e⟩ := run
    obtain ⟨hgrows, hcreated⟩ := Fleet.perform_grows h.rooted.keyed h.rooted.named hrun
    have hown : ∀ name, R.Own name →
        q.engine.entries.get? name = site.inventory.entries.get? name :=
      fun name hown => h.get?_perform_other hne hrun hown
    have hrooted := h.rooted.perform hrun
    have hplan : fleet'.plan = site.fleet.plan := by
      have hkept := Fleet.plan_perform Inventory.engine token.1 spec task site.fleet site.inventory
      rw [hrun] at hkept
      exact hkept
    have hslot : fleet'.slots.get? R.cluster = site.fleet.slots.get? R.cluster := by
      rcases Fleet.perform_effect h.rooted.keyed hrun with ⟨b', -, rfl, -⟩ | ⟨rfl, -, -⟩
      · rw [Fleet.get?_keep, if_neg hne.symm]
      · rw [Fleet.get?_track, if_neg hne.symm]
    refine ⟨hrooted, h.rooted', h.plan.trans hplan.symm, hslot.trans h.slot, ?_⟩
    have hsame : site'.inventory.Grows R.cluster site'.inventory := Inventory.grows_of_entries rfl
    refine h.beside.change hrooted.keyed h.rooted'.keyed hgrows hsame
      (Fleet.perform_follows hrun) site'.inventory.follows_nil ?_ ?_ (fun _ _ => rfl)
      (h.beside.numbering.mono hcreated)
    · intro name hname
      rw [hown name hname]
      exact h.beside.alike name hname
    · intro name hnode
      exact hown name (h.beside.bounds.own_of_node hnode)
  | forget cluster =>
    have hne : cluster ≠ R.cluster := ne_of_beq_false hother
    refine ⟨h.rooted.forget cluster, h.rooted', h.plan, ?_, h.beside⟩
    simp only [Site.step, Fleet.get?_forget, if_neg hne.symm]
    exact h.slot
  | arrange | lookUp | work | takeImage => exact hd.elim

/-- The sites stay the same in what concerns the cluster if on one of them nothing is done for other
clusters, and what is done for the cluster is the same on both. -/
theorem after (h : R.Abreast numbers site site') {history : List Deed}
    (hhistory : ∀ d ∈ history, d.IsOperation) :
    ∃ numbers', numbers ⊆ numbers' ∧
      R.Abreast numbers' (site.after history) (site'.after (history.filter (·.concerns R.cluster))) ∧
      ∀ done d rest, history = done ++ d :: rest → d.concerns R.cluster = true →
        (site.after done).asked d =
            (site'.after (done.filter (·.concerns R.cluster))).asked d ∧
          (site.after done).TellsAlike numbers'
            (site'.after (done.filter (·.concerns R.cluster))) d := by
  induction history generalizing numbers site site' with
  | nil =>
    refine ⟨numbers, List.Subset.refl numbers, h, fun done d rest hsplit => ?_⟩
    cases done <;> cases hsplit
  | cons x later ih =>
    have hx := hhistory x List.mem_cons_self
    have hlater : ∀ d ∈ later, d.IsOperation :=
      fun d hd => hhistory d (List.mem_cons_of_mem x hd)
    cases hconcerns : x.concerns R.cluster with
    | true =>
      obtain ⟨hasked, numbers₁, hsub, htold, hnext⟩ := h.own hx hconcerns
      obtain ⟨numbers₂, hsub', hlast, hsame⟩ := ih hnext hlater
      rw [List.filter_cons, hconcerns]
      refine ⟨numbers₂, List.Subset.trans hsub hsub', hlast, fun done d rest hsplit hd => ?_⟩
      cases done with
      | nil =>
        cases hsplit
        exact ⟨hasked, htold.mono hsub'⟩
      | cons y done =>
        cases hsplit
        rw [List.filter_cons, hconcerns]
        exact hsame done d rest rfl hd
    | false =>
      obtain ⟨numbers', hsub, hlast, hsame⟩ := ih (h.other hx hconcerns) hlater
      rw [List.filter_cons, hconcerns]
      refine ⟨numbers', hsub, hlast, fun done d rest hsplit hd => ?_⟩
      cases done with
      | nil =>
        cases hsplit
        cases hconcerns.symm.trans hd
      | cons y done =>
        cases hsplit
        rw [List.filter_cons, hconcerns]
        exact hsame done d rest rfl hd

end Abreast

end Realm

namespace Inventory

variable {inv inv' : Inventory} {cluster : String} {numbers : List (Nat × Nat)}

/-- Whether every container that is named as a balancer container is labelled with the cluster that
it is named after. -/
def WellNamed (inv : Inventory) : Prop :=
  ∀ cluster e, inv.entries.get? (cluster ++ "-lb") = some e → e.container.cluster? = some cluster

/-- The container of a name, if it is labelled with the cluster. -/
def member? (inv : Inventory) (cluster name : String) : Option Entry :=
  (inv.entries.get? name).filter fun e => e.container.cluster? = some cluster

/-- What belongs to a cluster in an inventory, for all that may be done from then on. -/
def realm (inv : Inventory) (hnames : inv.WellNamed) (cluster : String) : Realm where
  cluster
  start := inv.created
  Own name := name = cluster ++ "-lb" ∨ (inv.member? cluster name).isSome
  Node name := ∃ e, inv.entries.get? name = some e ∧
    (LabelQuery.nodes cluster .controlPlane).Matches e.container.labels
  own_balancer := .inl rfl
  only other hown := by
    rcases hown with hname | hmember
    · exact (String.append_left_inj "-lb").1 hname
    · obtain ⟨e, he⟩ := Option.isSome_iff_exists.1 hmember
      obtain ⟨hget, hlabel⟩ := Option.filter_eq_some_iff.1 he
      have hother := hnames other e hget
      exact Option.some.inj (hother.symm.trans (of_decide_eq_true hlabel))

lemma bounds_realm (hkeyed : inv.Keyed) (hnames : inv.WellNamed) (cluster : String) :
    (inv.realm hnames cluster).Bounds inv := by
  refine ⟨hkeyed, fun name e he => ?_, fun name => Iff.rfl⟩
  have hmember : (inv.member? cluster name).isSome ↔ e.container.cluster? = some cluster := by
    unfold member?
    simp [he]
  constructor
  · rintro (rfl | hthere)
    · exact hnames cluster e he
    · exact hmember.1 hthere
  · exact fun hlabel => .inr (hmember.2 hlabel)

lemma beside_realm (hkeyed : inv.Keyed) (hnames : inv.WellNamed) (hfaults : inv.faults = [])
    (cluster : String) : (inv.realm hnames cluster).Beside [] inv inv := by
  have hbounds := bounds_realm hkeyed hnames cluster
  refine ⟨hbounds, hbounds, fun name _ => ?_, fun _ _ => rfl, .refl inv.created, rfl, rfl, hfaults,
    hfaults⟩
  cases inv.entries.get? name with
  | none => exact .none
  | some e => exact .some (.refl [] e)

lemma rel_member? {R : Realm} (h : R.Beside numbers inv inv') (name : String) :
    Option.Rel (Entry.Alike numbers) (inv.member? R.cluster name)
      (inv'.member? R.cluster name) := by
  have hnone : ∀ {inv : Inventory}, R.Bounds inv → ¬ R.Own name →
      inv.member? R.cluster name = none := by
    intro inv hbounds hown
    refine Option.filter_eq_none_iff.2 fun e he hlabel => hown ?_
    exact (hbounds.own name e he).2 (of_decide_eq_true hlabel)
  by_cases hown : R.Own name
  · unfold member?
    rcases h.alike.get? hown with ⟨he, he'⟩ | ⟨e, e', he, he', halike⟩
    · rw [he, he']
      exact .none
    · have hlabel := (h.bounds.own name e he).1 hown
      have hlabel' := (h.bounds'.own name e' he').1 hown
      rw [he, he', Option.filter_some, Option.filter_some, decide_eq_true hlabel,
        decide_eq_true hlabel']
      exact .some halike
  · rw [hnone h.bounds hown, hnone h.bounds' hown]
    exact .none

/-- Whether a request changes nothing but a balancer container of the cluster. -/
def Allows (inv : Inventory) (cluster : String) : Request → Prop
  | .create launch => launch.name = cluster ++ "-lb" ∧ launch.cluster = cluster
  | .writeFile c _ _ | .signal c _ | .reload c | .delete c => inv.Holds cluster c
  | .list _ | .address _ => True

end Inventory

namespace Rooted

variable {site : Site} {cluster : String} {d : Deed}

lemma allows (h : Rooted site.fleet site.inventory) (hd : d.IsOperation)
    (hconcerns : d.concerns cluster = true) {request : Request} (hasked : request ∈ site.asked d) :
    site.inventory.Allows cluster request := by
  cases d with
  | perform spec task token =>
    obtain rfl : spec.name = cluster := eq_of_beq hconcerns
    rcases Fleet.perform_asks hasked with rfl | hasks
    · exact trivial
    · cases request with
      | create launch =>
        obtain ⟨-, -, rfl⟩ := hasks
        have hcluster := Fleet.cluster_worker h.named spec site.inventory
        exact ⟨congrArg (· ++ "-lb") hcluster, hcluster⟩
      | list query => exact trivial
      | address c => exact trivial
      | writeFile c path content => exact h.worker hasks.2
      | signal c signal => exact hasks.elim
      | reload c => exact h.worker hasks.2
      | delete c => exact h.worker hasks.2
  | forget other => cases hasked
  | arrange | lookUp | work | takeImage => exact hd.elim

lemma others_stay (h : Rooted site.fleet site.inventory) (hd : d.IsOperation)
    (hconcerns : d.concerns cluster = true) {name : String} {e : Entry}
    (hother : e.container.cluster? ≠ some cluster) :
    site.inventory.entries.get? name = some e ↔
      (site.step d).inventory.entries.get? name = some e := by
  cases d with
  | perform spec task token =>
    obtain rfl : spec.name = cluster := eq_of_beq hconcerns
    simp only [Site.step]
    generalize hrun : site.fleet.perform Inventory.engine token.1 spec task site.inventory = run
    obtain ⟨fleet', q, ending⟩ := run
    have hstays : ∀ {e₀ : Entry}, site.inventory.entries.get? name = some e₀ →
        e₀.container = e.container →
        q.engine.entries.get? name = site.inventory.entries.get? name := by
      intro e₀ he₀ hsame
      rw [← hsame] at hother
      refine h.get?_perform hrun (fun hbalancer => hother (hbalancer.cluster?_eq he₀)) ?_
      intro hfree
      rw [Inventory.contains_iff.2 ⟨e₀, he₀⟩] at hfree
      cases hfree
    constructor
    · intro he
      rw [hstays he rfl]
      exact he
    · intro he
      obtain ⟨hgrows, -⟩ := Fleet.perform_grows h.keyed h.named hrun
      cases he₀ : site.inventory.entries.get? name with
      | none =>
        obtain ⟨-, hnode⟩ := hgrows.new name e he₀ he
        rw [hnode, Container.cluster?_node] at hother
        exact (hother rfl).elim
      | some e₀ =>
        rw [hstays he₀ (hgrows.persists he₀ he).symm, he₀] at he
        exact he
  | forget other => exact Iff.rfl
  | arrange | lookUp | work | takeImage => exact hd.elim

end Rooted

namespace Site

/-- Clusters do not interfere: if every container that is named as a balancer container is labelled
with the cluster that it is named after, leaving out what is done for other clusters changes neither
what is requested and told in the tasks of a cluster nor the cluster's containers, up to the numbers
in the addresses of containers that are created. And what is done for a cluster changes nothing but
its balancer containers. -/
theorem clusters_do_not_interfere (plan : Plan) (inv : Inventory) (history : List Deed)
    (cluster : String) (hattainable : inv.Attainable) (hnames : inv.WellNamed)
    (hfaults : inv.faults = []) (hhistory : ∀ d ∈ history, d.IsOperation) :
    let first : Site := { fleet := { plan }, inventory := inv }
    let alone (deeds : List Deed) := first.after (deeds.filter (·.concerns cluster))
    (∃ numbers,
      Numbering numbers inv.created (first.after history).inventory.created
        (alone history).inventory.created ∧
      (∀ done d rest, history = done ++ d :: rest → d.concerns cluster = true →
        (first.after done).asked d = (alone done).asked d ∧
          (first.after done).TellsAlike numbers (alone done) d) ∧
      ∀ name, Option.Rel (Entry.Alike numbers)
        ((first.after history).inventory.member? cluster name)
        ((alone history).inventory.member? cluster name)) ∧
    ∀ done d rest, history = done ++ d :: rest → d.concerns cluster = true →
      (∀ request ∈ (first.after done).asked d,
        (first.after done).inventory.Allows cluster request) ∧
      ∀ name e, e.container.cluster? ≠ some cluster →
        ((first.after done).inventory.entries.get? name = some e ↔
          ((first.after done).step d).inventory.entries.get? name = some e) := by
  intro first alone
  have hkeyed := hattainable.keyed
  have hrooted : Rooted first.fleet first.inventory := .start plan hkeyed
  constructor
  · have habreast : (inv.realm hnames cluster).Abreast [] first first :=
      ⟨hrooted, hrooted, rfl, rfl, Inventory.beside_realm hkeyed hnames hfaults cluster⟩
    obtain ⟨numbers, -, hlast, hsame⟩ := habreast.after hhistory
    exact ⟨numbers, hlast.beside.numbering, hsame, Inventory.rel_member? hlast.beside⟩
  · rintro done d rest rfl hconcerns
    have hd := hhistory d (by simp)
    have hdone : Rooted (first.after done).fleet (first.after done).inventory :=
      hrooted.after fun x hx => (hhistory x (by simp [hx])).throughFleet
    exact ⟨fun request => hdone.allows hd hconcerns,
      fun name e hother => hdone.others_stay hd hconcerns hother⟩

/-- The second container that is created beside one that was there is the first that is created if
another cluster's is left out. -/
theorem second_creation_alone :
    let inv := Inventory.add {} (.node "demo-lb" "demo" .externalLoadBalancer) "10.0.0.9"
    let done : List Deed :=
      [.perform { name := "test" } .create .never, .perform { name := "kind" } .create .never,
        .forget "test"]
    let site := Site.after { fleet := { plan := {} }, inventory := inv } done
    let site' := Site.after { fleet := { plan := {} }, inventory := inv }
      (done.filter (·.concerns "kind"))
    ∃ numbers, SameButNumber numbers
      (site.fleet.perform Inventory.engine Token.never.1 { name := "kind" } .address
        site.inventory).2.2
      (site'.fleet.perform Inventory.engine Token.never.1 { name := "kind" } .address
        site'.inventory).2.2 := by
  intro inv done
  have hattainable : inv.Attainable :=
    .arrange (.add (.node "demo-lb" "demo" .externalLoadBalancer) "10.0.0.9") .empty
  have hnames : inv.WellNamed := by
    intro cluster e he
    change (NameMap.insert ∅ ("demo" ++ "-lb") _).get? (cluster ++ "-lb") = some e at he
    rw [NameMap.get?_insert] at he
    by_cases hsame : cluster ++ "-lb" = "demo" ++ "-lb"
    · rw [if_pos hsame] at he
      cases he
      rw [(String.append_left_inj "-lb").1 hsame]
      exact Container.cluster?_node _ _ _
    · rw [if_neg hsame] at he
      cases he
  have hhistory : ∀ d ∈ done ++ [.perform { name := "kind" } .address .never], d.IsOperation := by
    simp [done, Deed.IsOperation]
  obtain ⟨⟨numbers, -, hsame, -⟩, -⟩ :=
    clusters_do_not_interfere {} inv _ "kind" hattainable hnames rfl hhistory
  exact ⟨numbers, (hsame done _ [] rfl rfl).2⟩

end Site

end ApiBalancer
