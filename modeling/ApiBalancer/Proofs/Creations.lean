import ApiBalancer.Proofs.Turns

/-!
# Creations

Callers who only create make one request for a container between them, as long as nobody fails: the
first creation leaves its container with the balancer, and the others find it there.
-/

namespace ApiBalancer

open Procedure

variable {σ : Type}

/-- Whether a request is for a new container. -/
def Request.isCreate : Request → Bool
  | .create _ => true
  | _ => false

/-- How many requests are for new containers. -/
def creations (requests : List Request) : Nat := requests.countP Request.isCreate

lemma creations_append (l l' : List Request) : creations (l ++ l') = creations l + creations l' :=
  List.countP_append

lemma creations_le_of_prefix {l l' : List Request} (h : l <+: l') : creations l ≤ creations l' :=
  h.sublist.countP_le

variable {engine : Engine σ} {c : Cancellation} {plan : Plan} {spec : ClusterSpec} {s s' : σ}
  {made : List Request} {cluster : String}

namespace Balancer

variable {b : Balancer}

/-- What is left of a creation once the engine has answered. -/
def launched (b : Balancer) :
    Except EngineError Container → Procedure BalancerError (Balancer × Answer)
  | .error e => done (.error (.engine .createBalancer b.cluster b.launch.name e))
  | .ok container =>
    report (.created b.cluster container.name)
      (done (.ok ({ b with container := some container }, .done)))

lemma perform_create_of_none (h : b.container = none) :
    b.perform plan .create =
      report (.creating b.cluster b.launch.name b.launch.image)
        (call (.create b.launch) (some (.cancelled .createBalancer b.cluster)) b.launched) := by
  unfold perform create
  rw [h]
  refine congrArg (report _) (congrArg (call _ _) (funext fun x => ?_))
  cases x <;> rfl

lemma perform_create_of_some {container : Container} (h : b.container = some container) :
    b.perform plan .create = report (.alreadyCreated b.cluster) (done (.ok (b, .done))) := by
  unfold perform create
  rw [h]
  rfl

lemma creations_perform_create (first : List Request)
    {e : Ending BalancerError (Balancer × Answer)}
    (h : (b.perform plan .create).outcome engine c s first = (s', made, e)) :
    creations made + (if b.isProvisioned then 1 else 0) ≤ creations first + 1 ∧
      ∀ b' answer, e = .finished (.ok (b', answer)) → b'.isProvisioned = true := by
  unfold isProvisioned
  cases hcontainer : b.container with
  | some container =>
    rw [perform_create_of_some hcontainer, outcome_report, outcome_done] at h
    cases h
    refine ⟨Nat.le_refl _, ?_⟩
    rintro b' answer ⟨⟩
    rw [hcontainer]
    rfl
  | none =>
    have hone : creations (first ++ [.create b.launch]) = creations first + 1 := by
      rw [creations_append]
      rfl
    rw [perform_create_of_none hcontainer, outcome_report, outcome_call_some] at h
    split at h
    · cases h
      exact ⟨Nat.le_succ _, nofun⟩
    · split at h
      · cases h
        exact ⟨Nat.le_of_eq hone, nofun⟩
      · split at h
        · next x _ =>
          cases x with
          | error err =>
            cases h
            exact ⟨Nat.le_of_eq hone, nofun⟩
          | ok container =>
            cases h
            refine ⟨Nat.le_of_eq hone, ?_⟩
            rintro b' answer ⟨⟩
            rfl
        · cases h
          exact ⟨Nat.le_of_eq hone, nofun⟩

lemma isProvisioned_withImage (b : Balancer) (image : String) :
    (b.withImage image).isProvisioned = b.isProvisioned := by
  unfold withImage isProvisioned
  cases hcontainer : b.container with
  | some container => rw [hcontainer]
  | none => rfl

end Balancer

namespace Fleet

variable {fleet fleet' : Fleet}

/-- Whether the fleet keeps a balancer of the cluster to which a container is attached. -/
def attached (fleet : Fleet) (cluster : String) : Bool :=
  (fleet.balancer? cluster).any Balancer.isProvisioned

lemma creations_lookUp {e : Ending BalancerError Balancer}
    (h : (Balancer.lookUp plan spec).outcome engine c s [] = (s', made, e)) :
    creations made = 0 := by
  rcases Balancer.made_lookUp h with ⟨rfl, -⟩ | rfl <;> rfl

lemma creations_perform_create {p : Progress σ} {e : Ending BalancerError Balancer.Answer}
    (h : fleet.perform engine c spec .create s = (fleet', p, e)) :
    creations p.made + (if fleet.attached spec.name then 1 else 0) ≤ 1 ∧
      ∀ answer, e = .finished (.ok answer) → fleet'.attached spec.name = true := by
  have hkept : ∀ (b : Balancer) (e' : Ending BalancerError (Balancer × Balancer.Answer)),
      (∀ b' answer, e' = .finished (.ok (b', answer)) → b'.isProvisioned = true) →
      ∀ answer, e'.map (·.2) = .finished (.ok answer) →
        (fleet.keep spec.name (kept b e')).attached spec.name = true := by
    intro b e' he' answer hanswer
    unfold attached
    rw [balancer?_keep, if_pos rfl]
    cases e' with
    | blocked ifCancelled => cases hanswer
    | finished result =>
      cases result with
      | error err => cases hanswer
      | ok value => exact he' value.1 value.2 rfl
  cases hb : fleet.balancer? spec.name with
  | some b =>
    generalize hwork : ((b.withImage (spec.resolveImage fleet.plan.image)).perform fleet.plan
      .create).outcome engine c s [] = work
    obtain ⟨s₁, made, e'⟩ := work
    obtain ⟨q, hq, -, hmade⟩ := perform_of_some hb hwork
    rw [h] at hq
    cases hq
    obtain ⟨hle, hok⟩ := Balancer.creations_perform_create [] hwork
    rw [Balancer.isProvisioned_withImage] at hle
    refine ⟨?_, hkept _ e' hok⟩
    unfold attached
    rw [hmade, hb]
    exact hle
  | none =>
    have habsent : fleet.attached spec.name = false := by
      unfold attached
      rw [hb]
      rfl
    rw [habsent]
    generalize hlook : (Balancer.lookUp fleet.plan spec).outcome engine c s [] = look
    obtain ⟨s₁, first, e₁⟩ := look
    have hfirst := creations_lookUp hlook
    cases e₁ with
    | blocked ifCancelled =>
      obtain ⟨q, hq, -, hmade⟩ := perform_of_lookUp_blocked .create hb hlook
      rw [h] at hq
      cases hq
      rw [hmade, hfirst]
      exact ⟨Nat.zero_le 1, nofun⟩
    | finished result =>
      cases result with
      | error err =>
        obtain ⟨q, hq, -, hmade⟩ := perform_of_lookUp_fails .create hb hlook
        rw [h] at hq
        cases hq
        rw [hmade, hfirst]
        exact ⟨Nat.zero_le 1, nofun⟩
      | ok b =>
        generalize hwork : ((b.withImage (spec.resolveImage fleet.plan.image)).perform fleet.plan
          .create).outcome engine c s₁ first = work
        obtain ⟨s₂, made, e'⟩ := work
        obtain ⟨q, hq, -, hmade⟩ := perform_of_lookUp_ok hb hlook hwork
        rw [h] at hq
        cases hq
        obtain ⟨hle, hok⟩ := Balancer.creations_perform_create first hwork
        refine ⟨?_, hkept _ e' hok⟩
        rw [hmade]
        rw [hfirst] at hle
        exact Nat.le_trans (Nat.le_add_right _ _) hle

end Fleet

namespace Ledger

variable {start l : Ledger σ} {turns : List Turn} {firings : List (Nat × Nat)}

/-- As long as nobody fails, there is one request for a container at most, and its container is
attached. -/
theorem Run.creations_le (h : Run engine firings start turns l) (hstart : start.made = [])
    (hturns : ∀ turn ∈ turns, turn.errand.spec.name = cluster ∧ turn.errand.task = .create)
    (hok : ∀ i e, (i, .error e) ∉ l.results) :
    creations (l.made.map (·.2)) + (if l.fleet.attached cluster then 0 else 1) ≤ 1 := by
  induction h with
  | start =>
    rw [hstart]
    split <;> decide
  | @turn turns turn l l' run take waits fits ih =>
    have hbefore := fun turn' hturn' => hturns turn' (List.mem_append_left _ hturn')
    obtain ⟨hname, htask⟩ := hturns turn (List.mem_append_right _ List.mem_cons_self)
    cases take with
    | lookUpFails x fleet p e absent perform still =>
      exact (hok x.caller e (List.mem_append_right _ List.mem_cons_self)).elim
    | lookUp x p b absent look =>
      have hle := ih hbefore hok
      have hnone : l.fleet.attached cluster = false := by
        unfold Fleet.attached
        rw [← hname]
        exact (congrArg (Option.any Balancer.isProvisioned) absent)
      rw [hnone] at hle
      have hzero : creations (l.made.map (·.2)) = 0 := by simpa using hle
      simp only [List.map_append, List.map_map, Function.comp_def, List.map_id', creations_append,
        hzero, Fleet.creations_lookUp (outcome_of_run look)]
      split <;> decide
    | work x fleet p result kept perform =>
      have hle := ih hbefore fun i e hmem => hok i e (List.mem_append_left _ hmem)
      cases result with
      | error e => exact (hok x.caller e (List.mem_append_right _ List.mem_cons_self)).elim
      | ok answer =>
        obtain rfl : x.spec.name = cluster := hname
        have hcreate : x.task = .create := htask
        rw [hcreate] at perform
        obtain ⟨hle', hattached⟩ := Fleet.creations_perform_create perform
        have hnow : fleet.attached x.spec.name = true := hattached answer rfl
        simp only [ended, List.map_append, List.map_map, Function.comp_def, List.map_id',
          creations_append, hnow, if_true]
        cases hold : l.fleet.attached x.spec.name with
        | true =>
          simp only [hold, if_true] at hle hle'
          omega
        | false =>
          simp only [hold, Bool.false_eq_true, if_false] at hle hle'
          omega

end Ledger

end ApiBalancer
