import ApiBalancer.Proofs.FailureReports
import ApiBalancer.Proofs.Histories

/-!
# Tracked clusters and look-ups

A fleet tracks a cluster from the first task for it on, whatever comes of the task, until the
cluster is forgotten. Its balancer is another matter: it is kept once a look-up has succeeded. Until
then every task for the cluster makes one attempt, and from then on none looks it up.
`look_ups_between_forgets` says so of every fleet that knew no cluster at the start, on any engine.
-/

namespace ApiBalancer

open Procedure

variable {σ ε α : Type}

/-- The request by which the balancer of a cluster is looked up. -/
def Request.lookUp (cluster : String) : Request := .list (.nodes cluster .externalLoadBalancer)

/-- Whether a look-up of a cluster's balancer has succeeded. -/
def Exchange.finds (cluster : String) : Exchange → Bool
  | ⟨.list query, some (.ok _)⟩ => query = .nodes cluster .externalLoadBalancer
  | _ => false

variable {cluster cluster' : String} {x : Exchange} {l : List Exchange}

lemma LabelQuery.nodes_inj {role role' : Role} (h : nodes cluster role = nodes cluster' role') :
    cluster = cluster' ∧ role.name = role'.name := by
  have hnode : (nodes cluster role).Matches (Container.node "" cluster' role').labels := by
    rw [h]
    exact nodes_matches_node.2 ⟨rfl, rfl⟩
  exact nodes_matches_node.1 hnode

lemma Request.lookUp_inj (h : lookUp cluster = lookUp cluster') : cluster = cluster' :=
  (LabelQuery.nodes_inj (Request.list.inj h)).1

lemma Exchange.request_of_finds (h : x.finds cluster = true) : x.request = .lookUp cluster := by
  unfold finds at h
  split at h
  · rw [of_decide_eq_true h]
    rfl
  · cases h

/-- What asks only for other things does not look the cluster up with success. -/
lemma Exchange.countP_finds (h : ∀ x ∈ l, x.request ≠ .lookUp cluster) :
    l.countP (·.finds cluster) = 0 :=
  List.countP_eq_zero.2 fun x hx hfinds => h x hx (request_of_finds hfinds)

/-- A transcript has no requests but those that the procedure's terms allow. -/
lemma Procedure.Talk.asks {proc : Procedure ε α} {e : Ending ε α} (htalk : Talk proc l e)
    {terms : Terms} {Q : α → Prop} (h : proc.KeepsTo terms Q)
    (hhears : ∀ request a, terms.hears request a) : ∀ x ∈ l, terms.asks x.request := by
  induction htalk with
  | done | leftOut => exact nofun
  | report event htalk ih => exact ih h
  | givenUp request | blocked request =>
    intro x hx
    rw [List.mem_singleton.1 hx]
    exact h.1
  | answered request ifCancelled next answer htalk ih =>
    intro x hx
    rcases List.mem_cons.1 hx with rfl | hx
    · exact h.1
    · exact ih (h.2 answer fun a _ => hhears request a) x hx

lemma Balancer.no_lookUp (engine : Engine σ) (c : Cancellation) (plan : Plan) (b : Balancer)
    (task : Task) (p : Progress σ) :
    ∀ x ∈ (b.perform plan task).transcript engine c p, ∀ cluster, x.request ≠ .lookUp cluster := by
  intro x hx cluster hlook
  have hasks := (talk_run engine c (b.perform plan task) p).asks
    (b.keepsTo_perform plan task fun _ => True) (fun request a => by cases request <;> simp [terms])
    x hx
  rw [hlook] at hasks
  have hrole := (LabelQuery.nodes_inj hasks.2).2
  exact absurd hrole (by decide)

/-- How a look-up fails that is to find the balancer of a cluster: the cluster has no name, the
cancellation has fired already, or the one attempt fails, is given up, or gets no answer. -/
inductive Missed (cluster : String) (c : Cancellation) :
    List Exchange → Ending BalancerError α → Prop
  | unnamed : cluster = "" → Missed cluster c [] (.finished (.error .unnamedCluster))
  | late : cluster ≠ "" → c.firedBefore 0 = true →
    Missed cluster c [] (.finished (.error (.cancelled .discoverBalancer cluster)))
  | failed (cause : EngineError) : cluster ≠ "" → c.firedBefore 0 = false →
    Missed cluster c [⟨.lookUp cluster, some (.error cause)⟩]
      (.finished (.error (.engine .discoverBalancer cluster (cluster ++ "-lb") cause)))
  | givenUp : cluster ≠ "" → c.firedBefore 0 = false →
    Missed cluster c [⟨.lookUp cluster, none⟩]
      (.finished (.error (.cancelled .discoverBalancer cluster)))
  | blocked : cluster ≠ "" → c.firedBefore 0 = false →
    Missed cluster c [⟨.lookUp cluster, none⟩]
      (.blocked (some (.cancelled .discoverBalancer cluster)))

variable {c : Cancellation}

lemma Missed.map {β : Type} {e : Ending BalancerError α} (h : Missed cluster c l e) (f : α → β) :
    Missed cluster c l (e.map f) := by
  cases h with
  | unnamed hname => exact .unnamed hname
  | late hname hfired => exact .late hname hfired
  | failed cause hname hfired => exact .failed cause hname hfired
  | givenUp hname hfired => exact .givenUp hname hfired
  | blocked hname hfired => exact .blocked hname hfired

lemma Missed.countP_finds {e : Ending BalancerError α} (h : Missed cluster c l e)
    (cluster' : String) : l.countP (·.finds cluster') = 0 := by
  cases h <;> rfl

/-- A look-up makes one attempt and finds a balancer, or it is missed. -/
lemma Balancer.lookUp_cases (engine : Engine σ) (c : Cancellation) (plan : Plan)
    (spec : ClusterSpec) (s : σ) :
    let l := (lookUp plan spec).transcript engine c { engine := s }
    let e := ((lookUp plan spec).run engine c { engine := s }).2
    (spec.name ≠ "" ∧ c.firedBefore 0 = false ∧
      (∃ found, l = [.ok (.lookUp spec.name) found]) ∧ ∃ b, e = .finished (.ok b)) ∨
    (Missed spec.name c l e ∧ e.Fails) := by
  cases hname : spec.name.isEmpty with
  | true =>
    have hlook : lookUp plan spec = fail .unnamedCluster := by
      unfold lookUp
      rw [hname]
      rfl
    rw [hlook]
    exact .inr ⟨.unnamed (by simpa using hname), fails_error _⟩
  | false =>
    have hne : spec.name ≠ "" := by simpa using hname
    rw [lookUp_eq hname, search_eq]
    simp only [Procedure.bind, transcript, run, Option.isSome_some, Bool.true_and, List.length_nil]
    by_cases hfired : c.firedBefore 0 = true
    · rw [if_pos hfired, if_pos hfired]
      exact .inr ⟨.late hne hfired, fails_error _⟩
    have hquiet : c.firedBefore 0 = false := by simpa using hfired
    rw [if_neg hfired, if_neg hfired]
    split
    · exact .inr ⟨.givenUp hne hquiet, fails_error _⟩
    · cases (engine.serve _ s).answer with
      | none => exact .inr ⟨.blocked hne hquiet, fails_blocked _⟩
      | some answer =>
        cases answer with
        | error cause => exact .inr ⟨.failed cause hne hquiet, fails_error _⟩
        | ok found =>
          refine .inl ⟨hne, hquiet, ?_⟩
          simp only [searched]
          split <;> exact ⟨⟨found, rfl⟩, _, rfl⟩

namespace Fleet

variable {fleet : Fleet}

lemma mem_clusters (fleet : Fleet) (cluster : String) :
    cluster ∈ fleet.clusters ↔ fleet.tracks cluster = true := by
  unfold clusters tracks NameMap.contains
  rw [Option.isSome_iff_exists, NameMap.mem_keys_iff]

lemma tracks_insert {slot : Option Balancer} {fleet' : Fleet}
    (h : fleet'.slots = fleet.slots.insert cluster' slot) :
    fleet'.tracks cluster = true ↔ cluster = cluster' ∨ fleet.tracks cluster = true := by
  unfold tracks NameMap.contains
  rw [h, NameMap.get?_insert]
  by_cases hsame : cluster = cluster' <;> simp [hsame]

lemma tracks_track (fleet : Fleet) (cluster cluster' : String) :
    (fleet.track cluster').tracks cluster = true ↔
      cluster = cluster' ∨ fleet.tracks cluster = true := by
  unfold track
  split
  · next htracks =>
    refine ⟨.inr, ?_⟩
    rintro (rfl | h)
    · exact htracks
    · exact h
  · exact tracks_insert rfl

lemma tracks_forget (fleet : Fleet) (cluster cluster' : String) :
    (fleet.forget cluster').tracks cluster = true ↔
      cluster ≠ cluster' ∧ fleet.tracks cluster = true := by
  unfold tracks forget NameMap.contains
  rw [NameMap.get?_erase]
  by_cases hsame : cluster = cluster' <;> simp [hsame]

/-- The number of balancers that are kept for a cluster. -/
def known (fleet : Fleet) (cluster : String) : Nat := (fleet.balancer? cluster).isSome.toNat

lemma known_of_some {b : Balancer} (hb : fleet.balancer? cluster = some b) :
    fleet.known cluster = 1 := by
  rw [known, hb]
  rfl

lemma known_of_none (hb : fleet.balancer? cluster = none) : fleet.known cluster = 0 := by
  rw [known, hb]
  rfl

lemma known_keep (fleet : Fleet) (b : Balancer) (cluster cluster' : String) :
    (fleet.keep cluster' b).known cluster =
      if cluster = cluster' then 1 else fleet.known cluster := by
  unfold known
  rw [balancer?_keep]
  split <;> rfl

lemma known_track (fleet : Fleet) (cluster cluster' : String) :
    (fleet.track cluster').known cluster = fleet.known cluster := by
  unfold known
  rw [balancer?_track]

/-- How a task looks its cluster up: not at all if a balancer is known, and else at most once, at
the start. If that attempt succeeds, the balancer is known from then on; if not, it ends the
task. -/
inductive LooksUp (fleet fleet' : Fleet) (cluster : String) (c : Cancellation) :
    List Exchange → Ending BalancerError Balancer.Answer → Prop
  | kept {l : List Exchange} {e : Ending BalancerError Balancer.Answer}
    (before : fleet.known cluster = 1) (after : fleet'.known cluster = 1)
    (silent : ∀ x ∈ l, ∀ other, x.request ≠ .lookUp other) : LooksUp fleet fleet' cluster c l e
  | missed {l : List Exchange} {e : Ending BalancerError Balancer.Answer}
    (before : fleet.known cluster = 0) (after : fleet'.known cluster = 0)
    (missed : Missed cluster c l e) : LooksUp fleet fleet' cluster c l e
  | found (containers : List Container) {rest : List Exchange}
    {e : Ending BalancerError Balancer.Answer}
    (before : fleet.known cluster = 0) (after : fleet'.known cluster = 1)
    (named : cluster ≠ "") (quiet : c.firedBefore 0 = false)
    (silent : ∀ x ∈ rest, ∀ other, x.request ≠ .lookUp other) :
    LooksUp fleet fleet' cluster c (.ok (.lookUp cluster) containers :: rest) e

/-- What a task does to the clusters of a fleet: its own is tracked, and looked up if need be; what
is known of the others stays. -/
theorem perform_looksUp (engine : Engine σ) (c : Cancellation) (spec : ClusterSpec)
    (task : Balancer.Task) (fleet : Fleet) (s : σ) :
    let fleet' := (fleet.perform engine c spec task s).1
    LooksUp fleet fleet' spec.name c (fleet.transcript engine c spec task s)
        (fleet.perform engine c spec task s).2.2 ∧
      ∀ cluster, (fleet'.tracks cluster = true ↔
          cluster = spec.name ∨ fleet.tracks cluster = true) ∧
        (cluster ≠ spec.name → fleet'.known cluster = fleet.known cluster) := by
  intro fleet'
  have hcases := Balancer.lookUp_cases engine c fleet.plan spec s
  rcases perform_transcript engine c fleet spec task s with
    ⟨b, p, first, hprepared, hl, hrun⟩ | ⟨p, e, hb, hfails, hlook, hl, hrun⟩
  · have hsilent : ∀ x ∈ fleet.worked engine c spec task b p, ∀ cluster,
        x.request ≠ .lookUp cluster := Balancer.no_lookUp engine c fleet.plan _ task _
    obtain ⟨b', hfleet⟩ : ∃ b', fleet' = fleet.keep spec.name b' := ⟨_, congrArg Prod.fst hrun⟩
    rw [hl, hfleet]
    refine ⟨?_, fun cluster => ⟨tracks_insert rfl, fun hother => ?_⟩⟩
    · have hafter : (fleet.keep spec.name b').known spec.name = 1 := by
        rw [known_keep, if_pos rfl]
      cases hprepared with
      | kept hb => exact .kept (known_of_some hb) hafter hsilent
      | found hb hlook =>
        rw [hlook] at hcases
        obtain ⟨hnamed, hquiet, ⟨found, hfirst⟩, -⟩ | ⟨-, hfails⟩ := hcases
        · rw [hfirst]
          exact .found found (known_of_none hb) hafter hnamed hquiet hsilent
        · exact (hfails _ rfl).elim
    · rw [known_keep, if_neg hother]
  · rw [hlook] at hcases
    obtain ⟨-, -, -, b, hend⟩ | ⟨hmissed, -⟩ := hcases
    · exact (hfails b hend).elim
    · have hfleet : fleet' = fleet.track spec.name := congrArg Prod.fst hrun
      rw [hl, hrun, hfleet]
      exact ⟨.missed (known_of_none hb) (by rw [known_track, known_of_none hb]) (hmissed.map _),
        fun cluster => ⟨tracks_track fleet cluster spec.name, fun _ => known_track _ _ _⟩⟩

lemma LooksUp.requests {fleet fleet' : Fleet} {e : Ending BalancerError Balancer.Answer}
    (h : LooksUp fleet fleet' cluster c l e) :
    (fleet.known cluster = 1 → ∀ x ∈ l, ∀ other, x.request ≠ .lookUp other) ∧
      (¬fleet.known cluster = 1 → Missed cluster c l e ∨
        cluster ≠ "" ∧ c.firedBefore 0 = false ∧ ∃ containers rest,
          l = .ok (.lookUp cluster) containers :: rest ∧
            ∀ x ∈ rest, ∀ other, x.request ≠ .lookUp other) := by
  cases h with
  | kept before after silent => exact ⟨fun _ => silent, fun h => (h before).elim⟩
  | missed before after missed =>
    exact ⟨fun h => absurd (before.symm.trans h) nofun, fun _ => .inl missed⟩
  | found containers before after named quiet silent =>
    exact ⟨fun h => absurd (before.symm.trans h) nofun,
      fun _ => .inr ⟨named, quiet, containers, _, rfl, silent⟩⟩

/-- A balancer is known for every look-up that has succeeded. -/
lemma LooksUp.known_eq {fleet fleet' : Fleet} {e : Ending BalancerError Balancer.Answer}
    (h : LooksUp fleet fleet' cluster c l e) :
    fleet'.known cluster = fleet.known cluster + l.countP (·.finds cluster) := by
  cases h with
  | kept before after silent =>
    rw [before, after, Exchange.countP_finds fun x hx => silent x hx cluster]
  | missed before after missed => rw [before, after, missed.countP_finds]
  | found containers before after named quiet silent =>
    rw [before, after, List.countP_cons, Exchange.countP_finds fun x hx => silent x hx cluster]
    simp [Exchange.finds, Exchange.ok, Request.lookUp]

lemma LooksUp.countP_of_ne {fleet fleet' : Fleet} {e : Ending BalancerError Balancer.Answer}
    (h : LooksUp fleet fleet' cluster c l e) (hother : cluster' ≠ cluster) :
    l.countP (·.finds cluster') = 0 := by
  cases h with
  | kept before after silent => exact Exchange.countP_finds fun x hx => silent x hx cluster'
  | missed before after missed => exact missed.countP_finds cluster'
  | found containers before after named quiet silent =>
    refine Exchange.countP_finds fun x hx => ?_
    rcases List.mem_cons.1 hx with rfl | hx
    · exact fun hlook => hother (Request.lookUp_inj hlook).symm
    · exact silent x hx cluster'

lemma made_perform (engine : Engine σ) (c : Cancellation) (spec : ClusterSpec)
    (task : Balancer.Task) (fleet : Fleet) (s : σ) :
    (fleet.perform engine c spec task s).2.1.made =
      (fleet.transcript engine c spec task s).map (·.request) := by
  have hlookUp := made_run engine c (Balancer.lookUp fleet.plan spec) { engine := s }
  rcases perform_transcript engine c fleet spec task s with
    ⟨b, p, first, hprepared, hl, hrun⟩ | ⟨p, e, hb, hfails, hlook, hl, hrun⟩
  · have hfirst : p.made = first.map (·.request) := by
      cases hprepared with
      | kept hb => rfl
      | found hb hlook =>
        rw [hlook] at hlookUp
        exact hlookUp
    rw [hrun, hl, List.map_append, ← hfirst]
    exact made_run engine c _ _
  · rw [hlook] at hlookUp
    rw [hrun, hl]
    exact hlookUp

/-! ### Runs -/

/-- What is asked of a fleet. When a task begins, the engine may be in any state, whatever has
become of it in between. -/
inductive Order (σ : Type) where
  | perform (spec : ClusterSpec) (task : Balancer.Task) (cancellation : Cancellation) (state : σ)
  | forget (cluster : String)

/-- What has come of an order: the requests of a task for a cluster with what was heard, or a
cluster that is forgotten. -/
inductive Report where
  | performed (cluster : String) (exchanges : List Exchange)
  | forgotten (cluster : String)

namespace Report

/-- Whether a task for the cluster has been performed, whatever has come of it. -/
def Concerns (cluster : String) : Report → Prop
  | performed cluster' _ => cluster' = cluster
  | forgotten _ => False

def Forgets (cluster : String) : Report → Prop
  | performed _ _ => False
  | forgotten cluster' => cluster' = cluster

def exchanges : Report → List Exchange
  | performed _ exchanges => exchanges
  | forgotten _ => []

/-- The number of look-ups of a cluster that have succeeded. -/
def found (cluster : String) (d : Report) : Nat := d.exchanges.countP (·.finds cluster)

end Report

/-- The fleet once it has carried out an order. -/
def obey (engine : Engine σ) (fleet : Fleet) : Order σ → Fleet
  | .perform spec task c s => (fleet.perform engine c spec task s).1
  | .forget cluster => fleet.forget cluster

/-- What comes of an order. -/
def report (engine : Engine σ) (fleet : Fleet) : Order σ → Report
  | .perform spec task c s => .performed spec.name (fleet.transcript engine c spec task s)
  | .forget cluster => .forgotten cluster

lemma known_le (fleet : Fleet) (cluster : String) : fleet.known cluster ≤ 1 := Bool.toNat_le _

lemma known_forget (fleet : Fleet) (cluster cluster' : String) :
    (fleet.forget cluster').known cluster =
      if cluster = cluster' then 0 else fleet.known cluster := by
  unfold known
  rw [balancer?_forget]
  split <;> rfl

/-- What is known of a cluster that is not forgotten is kept, and every look-up of it that succeeds
counts. -/
lemma known_obey (engine : Engine σ) (fleet : Fleet) (o : Order σ) {cluster : String}
    (hkept : ¬(fleet.report engine o).Forgets cluster) :
    (fleet.obey engine o).known cluster =
      fleet.known cluster + (fleet.report engine o).found cluster := by
  cases o with
  | forget cluster' =>
    change (fleet.forget cluster').known cluster = _
    rw [known_forget, if_neg fun hsame => hkept hsame.symm]
    rfl
  | perform spec task c s =>
    obtain ⟨hlooks, hothers⟩ := perform_looksUp engine c spec task fleet s
    by_cases hsame : cluster = spec.name
    · rw [hsame]
      exact hlooks.known_eq
    · have hnone : (fleet.report engine (.perform spec task c s)).found cluster = 0 :=
        hlooks.countP_of_ne hsame
      rw [hnone]
      exact (hothers cluster).2 hsame

lemma known_obey_of_forgets (engine : Engine σ) (fleet : Fleet) (o : Order σ) {cluster : String}
    (hforgets : (fleet.report engine o).Forgets cluster) :
    (fleet.obey engine o).known cluster = 0 ∧ (fleet.report engine o).found cluster = 0 := by
  cases o with
  | perform spec task c s => exact hforgets.elim
  | forget cluster' =>
    obtain rfl : cluster' = cluster := hforgets
    refine ⟨?_, rfl⟩
    change (fleet.forget cluster').known cluster' = 0
    rw [known_forget, if_pos rfl]

lemma tracks_obey (engine : Engine σ) (fleet : Fleet) (o : Order σ) (cluster : String) :
    (fleet.obey engine o).tracks cluster = true ↔
      (fleet.report engine o).Concerns cluster ∨
        ¬(fleet.report engine o).Forgets cluster ∧ fleet.tracks cluster = true := by
  cases o with
  | perform spec task c s =>
    have hnever : ¬(fleet.report engine (.perform spec task c s)).Forgets cluster := id
    rw [and_iff_right hnever]
    exact ((perform_looksUp engine c spec task fleet s).2 cluster).1.trans
      (or_congr_left eq_comm)
  | forget cluster' =>
    have hnever : ¬(fleet.report engine (.forget cluster')).Concerns cluster := id
    rw [or_iff_right hnever]
    exact (tracks_forget fleet cluster cluster').trans (and_congr_left fun _ => ne_comm)

/-- What a history says of the fleet that it is told of. -/
structure Says (history : List Report) (fleet : Fleet) : Prop where
  tracks : ∀ cluster, fleet.tracks cluster = true ↔
    Since (Report.Concerns cluster) (Report.Forgets cluster) history
  known : ∀ cluster, fleet.known cluster = 1 ↔
    Since (fun d => 0 < d.found cluster) (Report.Forgets cluster) history
  period : ∀ cluster before period, history = before ++ period →
    (∀ d ∈ period, ¬d.Forgets cluster) →
    (period.flatMap Report.exchanges).countP (·.finds cluster) ≤ fleet.known cluster

lemma Says.obey {history : List Report} {fleet : Fleet} (h : Says history fleet)
    (engine : Engine σ) (o : Order σ) :
    Says (history ++ [fleet.report engine o]) (fleet.obey engine o) := by
  refine ⟨fun cluster => ?_, fun cluster => ?_, fun cluster before period hsplit hkept => ?_⟩
  · rw [since_concat, tracks_obey, h.tracks]
  · rw [since_concat, ← h.known]
    by_cases hforgets : (fleet.report engine o).Forgets cluster
    · obtain ⟨hknown, hfound⟩ := known_obey_of_forgets engine fleet o hforgets
      rw [hknown, hfound]
      simp [hforgets]
    · have hle := (fleet.obey engine o).known_le cluster
      rw [known_obey engine fleet o hforgets] at hle ⊢
      simp only [hforgets, not_false_eq_true, true_and]
      omega
  · rcases List.eq_nil_or_concat period with rfl | ⟨period', last, rfl⟩
    · exact Nat.zero_le _
    · rw [List.concat_eq_append] at hsplit hkept ⊢
      rw [← List.append_assoc] at hsplit
      obtain ⟨rfl, hlast⟩ := List.append_inj' hsplit rfl
      cases hlast
      have hcount := h.period cluster before period' rfl
        fun d hd => hkept d (List.mem_append_left _ hd)
      rw [known_obey engine fleet o (hkept _ (by simp)), List.flatMap_append, List.countP_append,
        List.flatMap_singleton]
      exact Nat.add_le_add_right hcount _

theorem says_told (engine : Engine σ) (plan : Plan) (orders : List (Order σ)) :
    Says (told (obey engine) (report engine) { plan } orders)
      (orders.foldl (obey engine) { plan }) := by
  refine told_induction
    ⟨fun cluster => ?_, fun cluster => ?_, fun cluster before period hsplit _ => ?_⟩
    (fun history fleet o h => h.obey engine o) orders
  · exact ⟨nofun, fun h => (not_since_nil h).elim⟩
  · exact ⟨nofun, fun h => (not_since_nil h).elim⟩
  · obtain ⟨-, rfl⟩ := List.append_eq_nil_iff.1 hsplit.symm
    exact Nat.zero_le _

/-- Whatever is asked of a fleet that knows no cluster at the start, on an engine that may fail,
fall silent and change as it likes: the tracked clusters stand in the order of their names, each
once. They are those for which there has been a task since they were last forgotten, whatever has
come of it, and forgetting tells whether a cluster is one of them. As long as a cluster is not
forgotten, at most one look-up of it succeeds. Until then every task for it begins with one look-up
and ends as that does if it fails; only if the cluster has no name, or the cancellation has fired
already, it ends without one. From then on no task looks it up, and no task ever looks up another
cluster. -/
theorem look_ups_between_forgets (engine : Engine σ) (plan : Plan) (orders : List (Order σ)) :
    let fleet := orders.foldl (obey engine) { plan }
    let history := told (obey engine) (report engine) { plan } orders
    fleet.clusters.Pairwise (· < ·) ∧
    (∀ cluster,
      let tracked := Since (Report.Concerns cluster) (Report.Forgets cluster) history
      (cluster ∈ fleet.clusters ↔ tracked) ∧ (fleet.tracks cluster = true ↔ tracked) ∧
        (fleet.forgetEvents cluster = [.forgotten cluster] ↔ tracked)) ∧
    (∀ cluster before period, history = before ++ period →
      (∀ d ∈ period, ¬d.Forgets cluster) →
      (period.flatMap Report.exchanges).countP (·.finds cluster) ≤ 1) ∧
    (∀ spec task c s,
      let l := fleet.transcript engine c spec task s
      let run := fleet.perform engine c spec task s
      let found := Since (fun d => 0 < d.found spec.name) (Report.Forgets spec.name) history
      run.2.1.made = l.map (·.request) ∧
      (found → ∀ x ∈ l, ∀ cluster, x.request ≠ .lookUp cluster) ∧
      (¬found → Missed spec.name c l run.2.2 ∨
        spec.name ≠ "" ∧ c.firedBefore 0 = false ∧ ∃ containers rest,
          l = .ok (.lookUp spec.name) containers :: rest ∧
            ∀ x ∈ rest, ∀ cluster, x.request ≠ .lookUp cluster)) := by
  intro fleet history
  have htold : Says history fleet := says_told engine plan orders
  refine ⟨List.pairwise_map.2 fleet.slots.sorted, fun cluster => ⟨?_, htold.tracks cluster, ?_⟩,
    fun cluster before period hsplit hkept => ?_,
    fun spec task c s => ⟨made_perform _ _ _ _ _ _, ?_⟩⟩
  · rw [mem_clusters]
    exact htold.tracks cluster
  · rw [← htold.tracks cluster]
    unfold forgetEvents
    split <;> simp_all
  · exact Nat.le_trans (htold.period cluster before period hsplit hkept) (fleet.known_le cluster)
  · rw [← htold.known]
    exact (perform_looksUp engine c spec task fleet s).1.requests

end Fleet

end ApiBalancer
