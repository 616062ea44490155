import ApiBalancer.Proofs.LikeEngines
import Mathlib.Data.List.Nodup

/-!
# Listings in another order

Two engines relist each other (`Engine.Relisted`) if they answer every request in the same way, but
for the order in which they list containers. A procedure that makes nothing of this order
(`Procedure.Orderless`) comes out the same on both, request for request and event for event
(`Procedure.Orderless.run`). Everything that balancers do is of this kind, since they sort what is
listed before they look at it.
-/

namespace ApiBalancer

open Procedure

/-- The same containers in another order, where a name tells which container it is. -/
structure Relisted (l l' : List Container) : Prop where
  perm : l.Perm l'
  named : ∀ c ∈ l, ∀ c' ∈ l, c.name = c'.name → c = c'

namespace Relisted

lemma sortByName {l l' : List Container} (h : Relisted l l') :
    Cluster.sortByName l = Cluster.sortByName l' := by
  have hperm : (Cluster.sortByName l).Perm (Cluster.sortByName l') :=
    ((Cluster.perm_sortByName l).trans h.perm).trans (Cluster.perm_sortByName l').symm
  refine hperm.eq_of_pairwise (fun c c' hc hc' hle hle' => ?_) (Cluster.pairwise_sortByName l)
    (Cluster.pairwise_sortByName l')
  have hc : c ∈ l := (Cluster.perm_sortByName l).mem_iff.1 hc
  have hc' : c' ∈ l := h.perm.mem_iff.2 ((Cluster.perm_sortByName l').mem_iff.1 hc')
  exact h.named c hc c' hc' (String.le_antisymm hle hle')

end Relisted

/-- Two answers to a request that differ in the order of a listing at most. -/
def Request.Relisted : (request : Request) → Except EngineError request.Answer →
    Except EngineError request.Answer → Prop
  | .list _ => Results Eq ApiBalancer.Relisted
  | .create _ | .address _ | .writeFile .. | .signal .. | .reload _ | .delete _ => Eq

/-- Two engines that serve alike as long as `S` holds of their states, but for the order of what they
list. -/
def Engine.Relisted {σ τ : Type} (engine : Engine σ) (engine' : Engine τ) (S : σ → τ → Prop) :
    Prop :=
  ∀ request s t, S s t →
    Option.Rel request.Relisted (engine.serve request s).answer (engine'.serve request t).answer ∧
      (engine.serve request s).events = (engine'.serve request t).events ∧
      S (engine.serve request s).state (engine'.serve request t).state

/-- Two runs that have come equally far, with states of which `S` holds. -/
structure Progress.InStep {σ τ : Type} (S : σ → τ → Prop) (p : Progress σ) (q : Progress τ) :
    Prop where
  engine : S p.engine q.engine
  made : p.made = q.made
  events : p.events = q.events

/-- Two runs that make the same requests, report the same and end in the same way. -/
structure SameRun {σ τ ε α : Type} (S : σ → τ → Prop) (run : Progress σ × Ending ε α)
    (run' : Progress τ × Ending ε α) : Prop where
  progress : run.1.InStep S run'.1
  ending : run.2 = run'.2

/-- Whether a procedure goes on in the same way whatever the order of what is listed to it. -/
inductive Procedure.Orderless {ε α : Type} : Procedure ε α → Prop
  | done (x : Except ε α) : Orderless (.done x)
  | report (event : Event) {rest : Procedure ε α} (h : Orderless rest) :
    Orderless (.report event rest)
  | call {request : Request} (ifCancelled : Option ε)
    {next : Except EngineError request.Answer → Procedure ε α}
    (same : ∀ x x', request.Relisted x x' → next x = next x') (h : ∀ x, Orderless (next x)) :
    Orderless (.call request ifCancelled next)

namespace Procedure.Orderless

variable {σ τ ε α β : Type}

lemma bind {p : Procedure ε α} {f : α → Procedure ε β} (h : p.Orderless)
    (hf : ∀ a, (f a).Orderless) : (p >>= f).Orderless := by
  induction h with
  | done x =>
    cases x with
    | ok a => exact hf a
    | error e => exact .done _
  | report event _ ih => exact .report event ih
  | call ifCancelled same _ ih =>
    refine .call ifCancelled (fun x x' hx => ?_) ih
    exact congrArg (Procedure.bind · f) (same x x' hx)

lemma under {p : Procedure EngineError α} (h : p.Orderless) (cancelled : ε)
    (wrap : EngineError → ε) : (p.under cancelled wrap).Orderless := by
  induction h with
  | done x => cases x <;> exact .done _
  | report event _ ih => exact .report event ih
  | call ifCancelled same _ ih =>
    refine .call (some cancelled) (fun x x' hx => ?_) ih
    exact congrArg (Procedure.under cancelled wrap) (same x x' hx)

lemma tell (event : Event) : (Procedure.tell event : Procedure ε Unit).Orderless :=
  .report event (.done _)

lemma tellAll (events : List Event) : (Procedure.tellAll events : Procedure ε Unit).Orderless := by
  induction events with
  | nil => exact .done _
  | cons event rest ih => exact .report event ih

lemma ask {request : Request} (h : ∀ x x', request.Relisted x x' → x = x') :
    (Procedure.ask request).Orderless :=
  .call none (fun x x' hx => congrArg _ (h x x' hx)) .done

/-- What makes nothing of the order comes out the same on engines that relist each other. -/
theorem run {proc : Procedure ε α} (h : proc.Orderless) {engine : Engine σ} {engine' : Engine τ}
    {S : σ → τ → Prop} (hengines : engine.Relisted engine' S) (cancellation : Cancellation)
    {p : Progress σ} {q : Progress τ} (hpq : p.InStep S q) :
    SameRun S (proc.run engine cancellation p) (proc.run engine' cancellation q) := by
  induction h generalizing p q with
  | done x => exact ⟨hpq, rfl⟩
  | report event _ ih =>
    refine ih (p := p.tell event) (q := q.tell event) ⟨hpq.engine, hpq.made, ?_⟩
    exact congrArg (· ++ [event]) hpq.events
  | @call request ifCancelled next same _ ih =>
    obtain ⟨hanswer, hevents, hstate⟩ := hengines request p.engine q.engine hpq.engine
    have hafter : (p.after request (engine.serve request p.engine)).InStep S
        (q.after request (engine'.serve request q.engine)) :=
      ⟨hstate, congrArg (· ++ [request]) hpq.made, congrArg₂ (· ++ ·) hpq.events hevents⟩
    have hnext : ∀ x x', request.Relisted x x' →
        SameRun S
          ((next x).run engine cancellation (p.after request (engine.serve request p.engine)))
          ((next x').run engine' cancellation
            (q.after request (engine'.serve request q.engine))) := by
      intro x x' hx
      rw [same x x' hx]
      exact ih x' hafter
    generalize hx : (engine.serve request p.engine).answer = x at hanswer
    generalize hx' : (engine'.serve request q.engine).answer = x' at hanswer
    cases ifCancelled with
    | none =>
      simp only [Procedure.run, hx, hx']
      cases hanswer with
      | none => exact ⟨hafter, rfl⟩
      | some hsome => exact hnext _ _ hsome
    | some cancelled =>
      -- the request is answered on both engines or on neither
      have hnone : x.isNone = x'.isNone := by cases hanswer <;> rfl
      simp only [Procedure.run, hx, hx', hpq.made, hnone]
      split_ifs
      · exact ⟨hpq, rfl⟩
      · exact ⟨hafter, rfl⟩
      · cases hanswer with
        | none => exact ⟨hafter, rfl⟩
        | some hsome => exact hnext _ _ hsome

end Procedure.Orderless

/-! ### Balancers -/

namespace Cluster

/-- The nodes of a cluster are sorted before anything is made of them. -/
theorem orderless_nodes (cluster : String) (role : Role) : (nodes cluster role).Orderless := by
  refine .call none (fun x x' hx => ?_) fun x => ?_
  · cases hx with
    | @ok found found' hfound =>
      change Procedure.report (.nodesFound cluster role (sortByName found).length)
          (.done (.ok (sortByName found))) = .report _ (.done (.ok (sortByName found')))
      rw [hfound.sortByName]
    | error he =>
      subst he
      rfl
  · cases x with
    | ok found => exact .report _ (.done _)
    | error e => exact .done _

theorem orderless_balancer? (cluster : String) : (balancer? cluster).Orderless := by
  refine (orderless_nodes cluster .externalLoadBalancer).bind fun found => ?_
  dsimp only
  split
  · exact (Orderless.tell _).bind fun _ => .done _
  · exact .done _

theorem orderless_resolve (cluster : String) (nodes : List Container) (port : UInt16) :
    (resolve cluster nodes port).Orderless := by
  have heach : (resolveEach cluster port nodes).Orderless := by
    induction nodes with
    | nil => exact .done _
    | cons node rest ih =>
      have hask : (Procedure.ask (.address node)).Orderless := .ask fun _ _ hx => hx
      refine (hask.under _ _).bind fun address => ?_
      split
      · exact .done _
      · exact ih.bind fun others => .done _
  exact heach.bind fun backends => .done _

end Cluster

namespace Balancer

lemma orderless_attached (b : Balancer) : b.attached.Orderless := by
  unfold attached
  split <;> exact .done _

lemma orderless_document (plan : Plan) (b : Balancer) (backends : BackendSet) :
    (b.document plan backends).Orderless := by
  unfold document
  split
  · exact (Orderless.tellAll _).bind fun _ => .done _
  · exact .done _

theorem orderless_update (plan : Plan) (b : Balancer) : (b.update plan).Orderless := by
  have hwrite : ∀ (c : Container) (path : String) (content : ByteArray),
      (Procedure.ask (.writeFile c path content)).Orderless := fun _ _ _ => .ask fun _ _ hx => hx
  have hreload : ∀ c : Container, (Procedure.ask (.reload c)).Orderless :=
    fun _ => .ask fun _ _ hx => hx
  refine (orderless_attached b).bind fun container => ?_
  refine ((Cluster.orderless_nodes _ _).under _ _).bind fun nodes => ?_
  refine (Cluster.orderless_resolve _ _ _).bind fun backends => ?_
  refine (orderless_document plan b backends).bind fun document => ?_
  refine (Orderless.tell _).bind fun _ => ?_
  refine ((hwrite _ _ _).under _ _).bind fun _ => ?_
  refine ((hreload _).under _ _).bind fun _ => ?_
  exact (Orderless.tell _).bind fun _ => .done _

end Balancer

/-- Whether two engines find the same nodes and the same balancer, and carry out the same updates, in
the same way. -/
structure SameWork {σ τ : Type} (S : σ → τ → Prop) (engine : Engine σ) (engine' : Engine τ)
    (c : Cancellation) (p : Progress σ) (q : Progress τ) : Prop where
  nodes (cluster : String) (role : Role) :
    SameRun S ((Cluster.nodes cluster role).run engine c p)
      ((Cluster.nodes cluster role).run engine' c q)
  balancer (cluster : String) :
    SameRun S ((Cluster.balancer? cluster).run engine c p)
      ((Cluster.balancer? cluster).run engine' c q)
  update (plan : Plan) (b : Balancer) :
    SameRun S ((b.update plan).run engine c p) ((b.update plan).run engine' c q)

theorem Engine.Relisted.sameWork {σ τ : Type} {engine : Engine σ} {engine' : Engine τ}
    {S : σ → τ → Prop} (h : engine.Relisted engine' S) (c : Cancellation) {p : Progress σ}
    {q : Progress τ} (hpq : p.InStep S q) : SameWork S engine engine' c p q where
  nodes cluster role := (Cluster.orderless_nodes cluster role).run h c hpq
  balancer cluster := (Cluster.orderless_balancer? cluster).run h c hpq
  update plan b := (Balancer.orderless_update plan b).run h c hpq

end ApiBalancer
