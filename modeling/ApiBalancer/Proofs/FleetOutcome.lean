import ApiBalancer.Proofs.FleetRun
import ApiBalancer.Proofs.Resumption

/-!
# Tasks of a fleet on any engine

What a look-up comes to, and what the task of a fleet comes to whose balancer is kept, is found, or
is not found. A look-up that someone else has made may as well belong to the task, if the task is
carried out with what that one has found (`Fleet.performWith_delayed`).
-/

namespace ApiBalancer

open Procedure

variable {σ ε α : Type}

namespace Procedure

variable {engine : Engine σ} {c : Cancellation} {proc : Procedure ε α} {s s' : σ}
  {made : List Request} {e : Ending ε α} {p : Progress σ}

lemma outcome_of_run (h : proc.run engine c { engine := s } = (p, e)) :
    proc.outcome engine c s [] = (p.engine, p.made, e) := by
  unfold outcome
  rw [h]

lemma run_of_outcome (h : proc.outcome engine c s [] = (s', made, e)) :
    ∃ p, proc.run engine c { engine := s } = (p, e) ∧ p.engine = s' ∧ p.made = made := by
  unfold outcome at h
  dsimp only at h
  generalize proc.run engine c _ = run at h ⊢
  obtain ⟨p, e'⟩ := run
  cases h
  exact ⟨p, rfl, rfl, rfl⟩

lemma run_bind_of_error {β : Type} {f : α → Procedure ε β} {q : Progress σ} {err : ε}
    (h : proc.run engine c p = (q, .finished (.error err))) :
    (proc.bind f).run engine c p = (q, .finished (.error err)) := by
  generalize hrun : (proc.bind f).run engine c p = run
  obtain ⟨r, e⟩ := run
  rcases of_run_bind hrun with ⟨q', a, h', -⟩ | ⟨err', h', rfl⟩ | ⟨b, h', -⟩
  · rw [h] at h'
    cases h'
  · rw [h] at h'
    cases h'
    rfl
  · rw [h] at h'
    cases h'

end Procedure

namespace Balancer

variable {engine : Engine σ} {c c' : Cancellation} {plan : Plan} {spec : ClusterSpec}
  {s s' : σ} {made : List Request} {b : Balancer}

/-- The part of a look-up that does not depend on the image. -/
def search (cluster : String) : Procedure BalancerError (Option Container) :=
  step .discoverBalancer cluster (cluster ++ "-lb") (Cluster.balancer? cluster)

lemma lookUp_eq (hname : spec.name.isEmpty = false) :
    lookUp plan spec = (search spec.name).bind fun found =>
      report (.balancerLookedUp spec.name (spec.resolveImage plan.image) found.isSome)
        (done (.ok ⟨spec.name, spec.resolveImage plan.image, found⟩)) := by
  unfold lookUp
  rw [hname]
  rfl

/-- A look-up finds the same container for every image that a caller may ask for. -/
lemma outcome_lookUp_of_ok (spec' : ClusterSpec) (hname : spec'.name = spec.name)
    (h : (lookUp plan spec).outcome engine c s [] = (s', made, .finished (.ok b)))
    (hquiet : c'.QuietUpTo made.length) :
    b.image = spec.resolveImage plan.image ∧
      (lookUp plan spec').outcome engine c' s [] =
        (s', made, .finished (.ok { b with image := spec'.resolveImage plan.image })) := by
  cases hempty : spec.name.isEmpty with
  | true =>
    unfold lookUp at h
    rw [hempty] at h
    cases h
  | false =>
    rw [lookUp_eq hempty, outcome_bind_report] at h
    rw [lookUp_eq (by rw [hname]; exact hempty), outcome_bind_report, hname]
    generalize hsearch : (search spec.name).outcome engine c s [] = run at h
    obtain ⟨s₁, made₁, e⟩ := run
    cases e with
    | blocked ifCancelled => cases h
    | finished result =>
      cases result with
      | error err => cases h
      | ok found =>
        cases h
        rw [outcome_of_ok hsearch hquiet]
        exact ⟨rfl, rfl⟩

/-- A look-up that fails does so whatever image the caller asks for. -/
lemma run_lookUp_of_error {spec' : ClusterSpec} (hname : spec'.name = spec.name) {p q : Progress σ}
    {err : BalancerError} (h : (lookUp plan spec).run engine c p = (q, .finished (.error err))) :
    (lookUp plan spec').run engine c p = (q, .finished (.error err)) := by
  cases hempty : spec.name.isEmpty with
  | true =>
    unfold lookUp at h ⊢
    rw [hempty] at h
    rw [hname, hempty]
    exact h
  | false =>
    rw [lookUp_eq hempty] at h
    rw [lookUp_eq (by rw [hname]; exact hempty), hname]
    rcases of_run_bind h with ⟨r, found, -, hdone⟩ | ⟨err', hsearch, hend⟩ | ⟨e, -, hend⟩
    · cases hdone
    · cases hend
      exact run_bind_of_error hsearch
    · cases hend

/-- What is left of a search once the engine has answered. -/
def searched (cluster : String) :
    Except EngineError (List Container) → Procedure BalancerError (Option Container)
  | .error e => done (.error (.engine .discoverBalancer cluster (cluster ++ "-lb") e))
  | .ok found =>
    let sorted := Cluster.sortByName found
    report (.nodesFound cluster .externalLoadBalancer sorted.length)
      (if 1 < sorted.length then
        report (.severalBalancers cluster (sorted.map (·.name))) (done (.ok sorted.head?))
      else done (.ok sorted.head?))

lemma search_eq (cluster : String) :
    search cluster = call (.list (.nodes cluster .externalLoadBalancer))
      (some (.cancelled .discoverBalancer cluster)) (searched cluster) := by
  refine congrArg (call _ _) (funext fun x => ?_)
  cases x with
  | error e => rfl
  | ok found =>
    refine congrArg (report _) ?_
    by_cases hseveral : 1 < (Cluster.sortByName found).length
    · rw [if_pos hseveral]
      simp only [pure_eq, done_ok_bind, if_pos hseveral]
      rfl
    · rw [if_neg hseveral]
      simp only [pure_eq, done_ok_bind, if_neg hseveral]
      rfl

lemma made_outcome_searched (cluster : String) (x : Except EngineError (List Container)) (s : σ)
    (made : List Request) : ((searched cluster x).outcome engine c s made).2.1 = made := by
  cases x with
  | error e => rfl
  | ok found =>
    rw [searched, outcome_report]
    split <;> rfl

lemma made_lookUp {e : Ending BalancerError Balancer}
    (h : (lookUp plan spec).outcome engine c s [] = (s', made, e)) :
    (made = [] ∧ e.Fails) ∨ made = [.list (.nodes spec.name .externalLoadBalancer)] := by
  cases hempty : spec.name.isEmpty with
  | true =>
    unfold lookUp at h
    rw [hempty] at h
    cases h
    exact .inl ⟨rfl, fails_error _⟩
  | false =>
    rw [lookUp_eq hempty, outcome_bind_report, search_eq, outcome_call_some] at h
    split at h
    · cases h
      exact .inl ⟨rfl, fails_error _⟩
    · split at h
      · cases h
        exact .inr rfl
      · split at h
        · have hmade : _ = made := congrArg (fun run => run.2.1) h
          dsimp only at hmade
          rw [made_outcome_searched] at hmade
          exact .inr hmade.symm
        · cases h
          exact .inr rfl

lemma length_lookUp_of_ok
    (h : (lookUp plan spec).outcome engine c s [] = (s', made, .finished (.ok b))) :
    made.length = 1 := by
  rcases made_lookUp h with ⟨-, hfails⟩ | rfl
  · exact (hfails b rfl).elim
  · rfl

end Balancer

/-! ### Tasks of a fleet -/

namespace Fleet

variable {engine : Engine σ} {c c₀ : Cancellation} {spec spec₀ : ClusterSpec}
  {task : Balancer.Task} {fleet fleet' : Fleet} {s s' : σ} {made : List Request} {b : Balancer}

lemma serve_of_outcome (p : Progress σ)
    {e : Ending BalancerError (Balancer × Balancer.Answer)}
    (h : ((b.withImage (spec.resolveImage fleet.plan.image)).perform fleet.plan task).outcome
      engine c p.engine p.made = (s', made, e)) :
    ∃ q, fleet.serve engine c spec task b p =
        (fleet.keep spec.name (kept (b.withImage (spec.resolveImage fleet.plan.image)) e), q,
          e.map (·.2)) ∧
      q.engine = s' ∧ q.made = made := by
  rw [serve_eq]
  dsimp only
  have houtcome := outcome_of_progress engine c
    ((b.withImage (spec.resolveImage fleet.plan.image)).perform fleet.plan task)
    (p.tellAll (b.imageEvents (spec.resolveImage fleet.plan.image)))
  change _ = Procedure.outcome engine c _ p.engine p.made at houtcome
  rw [h] at houtcome
  obtain ⟨hengine, hrest⟩ := Prod.mk.inj houtcome
  obtain ⟨hmade, he⟩ := Prod.mk.inj hrest
  exact ⟨_, by rw [he], hengine, hmade⟩

/-- A task for a cluster whose balancer is kept is that balancer's task. -/
lemma perform_of_some (hb : fleet.balancer? spec.name = some b)
    {e : Ending BalancerError (Balancer × Balancer.Answer)}
    (h : ((b.withImage (spec.resolveImage fleet.plan.image)).perform fleet.plan task).outcome
      engine c s [] = (s', made, e)) :
    ∃ q, fleet.perform engine c spec task s =
        (fleet.keep spec.name (kept (b.withImage (spec.resolveImage fleet.plan.image)) e), q,
          e.map (·.2)) ∧
      q.engine = s' ∧ q.made = made := by
  unfold perform
  dsimp only
  rw [balancer?_track, hb, ← keep_track]
  rw [← plan_track fleet spec.name] at h ⊢
  exact serve_of_outcome { engine := s } h

/-- A task for a cluster whose balancer is not kept fails with its look-up. -/
lemma perform_of_lookUp_fails (task : Balancer.Task) (hb : fleet.balancer? spec.name = none)
    {err : BalancerError}
    (h : (Balancer.lookUp fleet.plan spec).outcome engine c s [] =
      (s', made, .finished (.error err))) :
    ∃ p, fleet.perform engine c spec task s =
        (fleet.track spec.name, p, .finished (.error err)) ∧ p.engine = s' ∧ p.made = made := by
  obtain ⟨p, hrun, hp⟩ := run_of_outcome h
  unfold perform
  dsimp only
  rw [balancer?_track, hb, plan_track]
  dsimp only
  rw [hrun]
  exact ⟨p, rfl, hp⟩

lemma perform_of_lookUp_blocked (task : Balancer.Task) (hb : fleet.balancer? spec.name = none)
    {ifCancelled : Option BalancerError}
    (h : (Balancer.lookUp fleet.plan spec).outcome engine c s [] =
      (s', made, .blocked ifCancelled)) :
    ∃ p, fleet.perform engine c spec task s =
        (fleet.track spec.name, p, .blocked ifCancelled) ∧ p.engine = s' ∧ p.made = made := by
  obtain ⟨p, hrun, hp⟩ := run_of_outcome h
  unfold perform
  dsimp only
  rw [balancer?_track, hb, plan_track]
  dsimp only
  rw [hrun]
  exact ⟨p, rfl, hp⟩

/-- Carries out a task for a cluster. If its balancer has to be looked up, that is done with `finder`,
what someone else asks for. -/
def performWith (finder : ClusterSpec) (engine : Engine σ) (cancellation : Cancellation)
    (spec : ClusterSpec) (task : Balancer.Task) (fleet : Fleet) (state : σ) :
    Fleet × Progress σ × Ending BalancerError Balancer.Answer :=
  let fleet := fleet.track spec.name
  let start : Progress σ := { engine := state }
  match fleet.balancer? spec.name with
  | some b => fleet.serve engine cancellation spec task b start
  | none =>
    match (Balancer.lookUp fleet.plan finder).run engine cancellation start with
    | (p, .finished (.ok b)) => fleet.serve engine cancellation spec task b p
    | (p, .finished (.error e)) => (fleet, p, .finished (.error e))
    | (p, .blocked ifCancelled) => (fleet, p, .blocked ifCancelled)

lemma performWith_self (engine : Engine σ) (c : Cancellation) (spec : ClusterSpec)
    (task : Balancer.Task) (fleet : Fleet) (s : σ) :
    fleet.performWith spec engine c spec task s = fleet.perform engine c spec task s := rfl

lemma performWith_of_kept (finder : ClusterSpec) (c : Cancellation) (task : Balancer.Task) (s : σ)
    (hkept : (fleet.balancer? spec.name).isSome) :
    fleet.performWith finder engine c spec task s = fleet.perform engine c spec task s := by
  obtain ⟨b, hb⟩ := Option.isSome_iff_exists.1 hkept
  unfold performWith perform
  dsimp only
  rw [balancer?_track, hb]

/-- A task that fails in its look-up does so whoever makes the look-up. -/
lemma performWith_of_absent {finder : ClusterSpec} (hfinder : finder.name = spec.name)
    {p : Progress σ} {err : BalancerError}
    (hperform : fleet.perform engine c spec task s = (fleet', p, .finished (.error err)))
    (habsent : fleet'.balancer? spec.name = none) :
    fleet.performWith finder engine c spec task s = (fleet', p, .finished (.error err)) := by
  cases hb : fleet.balancer? spec.name with
  | some b => rw [performWith_of_kept finder c task s (by rw [hb]; rfl), hperform]
  | none =>
    unfold perform at hperform
    unfold performWith
    dsimp only at hperform ⊢
    rw [balancer?_track, hb] at hperform ⊢
    generalize hlook : (Balancer.lookUp (fleet.track spec.name).plan spec).run engine c
      { engine := s } = run at hperform
    obtain ⟨q, e⟩ := run
    cases e with
    | blocked ifCancelled => cases hperform
    | finished result =>
      cases result with
      | error err' =>
        cases hperform
        dsimp only
        rw [Balancer.run_lookUp_of_error hfinder hlook]
      | ok b =>
        dsimp only at hperform
        rw [serve_eq] at hperform
        rw [← (Prod.mk.inj hperform).1, balancer?_keep, if_pos rfl] at habsent
        cases habsent

/-- A task for a cluster whose balancer is found is that balancer's task. -/
lemma performWith_of_lookUp_ok {finder : ClusterSpec} (hb : fleet.balancer? spec.name = none)
    {s₁ : σ} {first : List Request} {e : Ending BalancerError (Balancer × Balancer.Answer)}
    (hlook : (Balancer.lookUp fleet.plan finder).outcome engine c s [] =
      (s₁, first, .finished (.ok b)))
    (h : ((b.withImage (spec.resolveImage fleet.plan.image)).perform fleet.plan task).outcome
      engine c s₁ first = (s', made, e)) :
    ∃ q, fleet.performWith finder engine c spec task s =
        (fleet.keep spec.name (kept (b.withImage (spec.resolveImage fleet.plan.image)) e), q,
          e.map (·.2)) ∧
      q.engine = s' ∧ q.made = made := by
  obtain ⟨p, hrun, rfl, rfl⟩ := run_of_outcome hlook
  unfold performWith
  dsimp only
  rw [balancer?_track, hb, ← keep_track]
  rw [← plan_track fleet spec.name] at h hrun ⊢
  dsimp only
  rw [hrun]
  exact serve_of_outcome p h

lemma perform_of_lookUp_ok (hb : fleet.balancer? spec.name = none) {s₁ : σ}
    {first : List Request} {e : Ending BalancerError (Balancer × Balancer.Answer)}
    (hlook : (Balancer.lookUp fleet.plan spec).outcome engine c s [] =
      (s₁, first, .finished (.ok b)))
    (h : ((b.withImage (spec.resolveImage fleet.plan.image)).perform fleet.plan task).outcome
      engine c s₁ first = (s', made, e)) :
    ∃ q, fleet.perform engine c spec task s =
        (fleet.keep spec.name (kept (b.withImage (spec.resolveImage fleet.plan.image)) e), q,
          e.map (·.2)) ∧
      q.engine = s' ∧ q.made = made := by
  rw [← performWith_self]
  exact performWith_of_lookUp_ok hb hlook h

/-- What a look-up requests is what the task requests first. -/
lemma made_lookUp_isPrefix_perform (engine : Engine σ) (c : Cancellation) (spec : ClusterSpec)
    (task : Balancer.Task) (s : σ) (hb : fleet.balancer? spec.name = none) :
    ((Balancer.lookUp fleet.plan spec).outcome engine c s []).2.1 <+:
      (fleet.perform engine c spec task s).2.1.made := by
  generalize hlook : (Balancer.lookUp fleet.plan spec).outcome engine c s [] = run
  obtain ⟨s₁, first, e⟩ := run
  cases e with
  | blocked ifCancelled =>
    obtain ⟨p, hperform, -, hmade⟩ := perform_of_lookUp_blocked task hb hlook
    rw [hperform]
    exact hmade ▸ List.prefix_rfl
  | finished result =>
    cases result with
    | error err =>
      obtain ⟨p, hperform, -, hmade⟩ := perform_of_lookUp_fails task hb hlook
      rw [hperform]
      exact hmade ▸ List.prefix_rfl
    | ok b =>
      have hfirst := made_isPrefix_outcome engine c
        ((b.withImage (spec.resolveImage fleet.plan.image)).perform fleet.plan task) s₁ first
      generalize hwork : Procedure.outcome engine c _ s₁ first = work at hfirst
      obtain ⟨s', made, e⟩ := work
      obtain ⟨p, hperform, -, hmade⟩ := perform_of_lookUp_ok hb hlook hwork
      rw [hperform, hmade]
      exact hfirst

/-- Once someone has looked a balancer up, a task for its cluster comes to what it comes to with a
look-up of its own that asks for the same image. If no container was found it may ask for another. -/
lemma performWith_delayed {finder : ClusterSpec} (hb : fleet.balancer? spec.name = none)
    (hname : spec₀.name = spec.name) (hfinder : finder.name = spec.name)
    (hlook : (Balancer.lookUp fleet.plan spec₀).outcome engine c₀ s [] =
      (s', made, .finished (.ok b)))
    (himage : b.container = none ∨
      spec₀.resolveImage fleet.plan.image = finder.resolveImage fleet.plan.image)
    {p : Progress σ} {e : Ending BalancerError Balancer.Answer}
    (hperform : (fleet.keep spec.name b).perform engine c spec task s' = (fleet', p, e)) :
    ∃ q, fleet.performWith finder engine (c.delayed made.length) spec task s = (fleet', q, e) ∧
      q.engine = p.engine ∧ q.made = made ++ p.made := by
  obtain ⟨hfound, hlook'⟩ := Balancer.outcome_lookUp_of_ok finder (hfinder.trans hname.symm) hlook
    (Cancellation.quiet_delayed made.length c)
  have hready : ({ b with image := finder.resolveImage fleet.plan.image } : Balancer).withImage
      (spec.resolveImage fleet.plan.image) = b.withImage (spec.resolveImage fleet.plan.image) := by
    rcases himage with hnone | himage
    · unfold Balancer.withImage
      rw [hnone]
    · rw [← himage, ← hfound]
  generalize hwork : ((b.withImage (spec.resolveImage fleet.plan.image)).perform fleet.plan
    task).outcome engine c s' [] = work
  obtain ⟨s₂, made₂, e'⟩ := work
  have hkept : (fleet.keep spec.name b).balancer? spec.name = some b := by
    rw [balancer?_keep, if_pos rfl]
  obtain ⟨p', hp', hengine, hmade⟩ := perform_of_some hkept hwork
  rw [hperform, keep_keep] at hp'
  cases hp'
  have hshift := outcome_shift engine
    ((b.withImage (spec.resolveImage fleet.plan.image)).perform fleet.plan task) s' made []
    (fun n => Cancellation.firedBefore_delayed made.length n c)
    (fun n blocked => Cancellation.firesDuring_delayed made.length n blocked c)
  rw [List.append_nil, hwork, ← hready] at hshift
  obtain ⟨q, hq, hengine', hmade'⟩ := performWith_of_lookUp_ok hb hlook' hshift
  rw [hready] at hq
  exact ⟨q, hq, hengine'.trans hengine.symm, by rw [hmade', hmade]⟩

lemma plan_performWith (finder : ClusterSpec) (engine : Engine σ) (c : Cancellation)
    (spec : ClusterSpec) (task : Balancer.Task) (fleet : Fleet) (s : σ) :
    (fleet.performWith finder engine c spec task s).1.plan = fleet.plan := by
  unfold performWith
  dsimp only
  split
  · rw [serve_eq]
    exact plan_track _ _
  · split
    · rw [serve_eq]
      exact plan_track _ _
    · exact plan_track _ _
    · exact plan_track _ _

lemma plan_perform (engine : Engine σ) (c : Cancellation) (spec : ClusterSpec)
    (task : Balancer.Task) (fleet : Fleet) (s : σ) :
    (fleet.perform engine c spec task s).1.plan = fleet.plan :=
  plan_performWith spec engine c spec task fleet s

/-- A task leaves a balancer that is kept with the fleet. -/
lemma balancer?_perform_isSome (engine : Engine σ) (c : Cancellation) (task : Balancer.Task)
    (s : σ) (h : (fleet.balancer? spec.name).isSome) :
    ((fleet.perform engine c spec task s).1.balancer? spec.name).isSome := by
  obtain ⟨b, hb⟩ := Option.isSome_iff_exists.1 h
  generalize hwork : ((b.withImage (spec.resolveImage fleet.plan.image)).perform fleet.plan
    task).outcome engine c s [] = work
  obtain ⟨s', made, e⟩ := work
  obtain ⟨q, hq, -⟩ := perform_of_some hb hwork
  rw [hq, balancer?_keep, if_pos rfl]
  rfl

end Fleet

end ApiBalancer
