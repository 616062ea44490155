import ApiBalancer.Proofs.Truncation
import Mathlib

/-!
# Served and failed requests

A procedure that ends with the first request that fails, and tells of it, is one that `Blames`. What
it comes to if no request fails is given by `Served`: the answers alone decide. Here are both for
procedures in general, and the second for look-ups and updates.
-/

namespace ApiBalancer

open Procedure

variable {σ ε α β : Type}

deriving instance DecidableEq for Request

instance Request.decidableEqAnswer : (request : Request) → DecidableEq request.Answer
  | .create _ => inferInstanceAs (DecidableEq Container)
  | .list _ => inferInstanceAs (DecidableEq (List Container))
  | .address _ => inferInstanceAs (DecidableEq String)
  | .writeFile _ _ _ | .signal _ _ | .reload _ | .delete _ => inferInstanceAs (DecidableEq Unit)

deriving instance DecidableEq for Exchange

instance Exchange.decidableSucceeds : DecidablePred Exchange.Succeeds
  | ⟨.address _, some (.ok a)⟩ => inferInstanceAs (Decidable (a ≠ ""))
  | ⟨.create _, some (.ok _)⟩ | ⟨.list _, some (.ok _)⟩ | ⟨.writeFile _ _ _, some (.ok _)⟩
  | ⟨.signal _ _, some (.ok _)⟩ | ⟨.reload _, some (.ok _)⟩ | ⟨.delete _, some (.ok _)⟩ =>
    .isTrue trivial
  | ⟨_, some (.error _)⟩ => .isFalse (Exchange.not_succeeds_error _ _)
  | ⟨_, none⟩ => .isFalse (Exchange.not_succeeds_none _)

lemma Exchange.Succeeds.heard {x : Exchange} (h : x.Succeeds) : ∃ a, x.heard = some (.ok a) := by
  obtain ⟨request, _ | cause | a⟩ := x
  · exact (Exchange.not_succeeds_none request h).elim
  · exact (Exchange.not_succeeds_error request cause h).elim
  · exact ⟨a, rfl⟩

namespace Procedure

variable {failure : Request → EngineError → ε} {proc : Procedure ε α} {l : List Exchange}
  {e : Ending ε α}

/-- Whether a procedure ends as soon as a request fails, with an error that depends on the request
and on what the engine said in the given way. -/
def Blames (failure : Request → EngineError → ε) : Procedure ε α → Prop
  | done _ => True
  | report _ rest => rest.Blames failure
  | call request _ next =>
    (∀ cause, next (.error cause) = done (.error (failure request cause))) ∧
      ∀ a, (next (.ok a)).Blames failure

lemma Blames.bind (h : proc.Blames failure) {f : α → Procedure ε β}
    (hf : ∀ a, (f a).Blames failure) : (proc.bind f).Blames failure := by
  induction proc with
  | done result =>
    cases result with
    | ok a => exact hf a
    | error err => exact trivial
  | report event rest ih => exact ih h
  | call request ifCancelled next ih =>
    refine ⟨fun cause => ?_, fun a => ih (.ok a) (h.2 a)⟩
    exact congrArg (Procedure.bind · f) (h.1 cause)

lemma blames_tellAll (failure : Request → EngineError → ε) (events : List Event) :
    (tellAll events : Procedure ε Unit).Blames failure := by
  induction events with
  | nil => exact trivial
  | cons event rest ih => exact ih

lemma blames_ask {request : Request} {wrap : EngineError → ε}
    (h : ∀ cause, failure request cause = wrap cause) (cancelled : ε) :
    ((ask request).under cancelled wrap).Blames failure := by
  refine ⟨fun cause => ?_, fun a => trivial⟩
  rw [h]
  rfl

/-- A request that fails is the last one, all before it were served, and the end tells of it. -/
theorem Talk.failed_last (htalk : Talk proc l e) (h : proc.Blames failure) {x : Exchange}
    (hx : x ∈ l) {cause : EngineError} (hfailed : x.heard = some (.error cause)) :
    (∃ before, l = before ++ [x] ∧ ∀ y ∈ before, ∃ a, y.heard = some (.ok a)) ∧
      e = .finished (.error (failure x.request cause)) := by
  induction htalk with
  | done | leftOut => cases hx
  | report event _ ih => exact ih h hx
  | givenUp | blocked =>
    obtain rfl := List.mem_singleton.1 hx
    cases hfailed
  | answered request ifCancelled next heard htail ih =>
    obtain ⟨hblames, hnext⟩ := h
    cases heard with
    | error cause' =>
      rw [hblames] at htail
      cases htail
      obtain rfl := List.mem_singleton.1 hx
      cases hfailed
      exact ⟨⟨[], rfl, nofun⟩, rfl⟩
    | ok a =>
      rcases List.mem_cons.1 hx with rfl | hx
      · cases hfailed
      · obtain ⟨⟨before, rfl, hserved⟩, hend⟩ := ih (hnext a) hx
        refine ⟨⟨⟨request, some (.ok a)⟩ :: before, rfl, fun y hy => ?_⟩, hend⟩
        rcases List.mem_cons.1 hy with rfl | hy
        · exact ⟨a, rfl⟩
        · exact hserved y hy

/-- A cancellation that has not fired by some request had not fired before. -/
lemma firedBefore_of_le {c : Cancellation} {m n : Nat} (h : c.firedBefore n = false) (hm : m ≤ n) :
    c.firedBefore m = false := by
  cases c with
  | before k | during k =>
    simp only [Cancellation.firedBefore, decide_eq_false_iff_not] at h ⊢
    omega
  | never | whenBlocked => rfl

/-- What a run does at a request: it leaves it out, it does not hear the answer, or it goes on with
the answer. -/
lemma call_cases (engine : Engine σ) (c : Cancellation) (request : Request)
    (ifCancelled : Option ε) (next : Except EngineError request.Answer → Procedure ε α)
    (p : Progress σ) :
    let proc := call request ifCancelled next
    let reply := engine.serve request p.engine
    (c.firedBefore p.made.length = true ∧ proc.transcript engine c p = [] ∧
      (proc.run engine c p).1 = p) ∨
    ((c.firesDuring p.made.length reply.answer.isNone = true ∨ reply.answer = none) ∧
      proc.transcript engine c p = [⟨request, none⟩] ∧
      (proc.run engine c p).1 = p.after request reply) ∨
    ∃ x, reply.answer = some x ∧ proc.transcript engine c p =
        ⟨request, some x⟩ :: (next x).transcript engine c (p.after request reply) ∧
      proc.run engine c p = (next x).run engine c (p.after request reply) := by
  intro proc reply
  cases ifCancelled with
  | none =>
    simp only [proc, reply, transcript, run, Option.isSome_none, Bool.false_and, Bool.false_eq_true,
      if_false]
    cases (engine.serve request p.engine).answer with
    | none => exact .inr (.inl ⟨.inr rfl, rfl, rfl⟩)
    | some x => exact .inr (.inr ⟨x, rfl, rfl, rfl⟩)
  | some cancelled =>
    simp only [proc, reply, transcript, run, Option.isSome_some, Bool.true_and]
    by_cases hfired : c.firedBefore p.made.length = true
    · rw [if_pos hfired, if_pos hfired]
      exact .inl ⟨hfired, rfl, rfl⟩
    rw [if_neg hfired, if_neg hfired]
    by_cases hduring :
        c.firesDuring p.made.length (engine.serve request p.engine).answer.isNone = true
    · rw [if_pos hduring, if_pos hduring]
      exact .inr (.inl ⟨.inl hduring, rfl, rfl⟩)
    rw [if_neg hduring, if_neg hduring]
    cases (engine.serve request p.engine).answer with
    | none => exact .inr (.inl ⟨.inr rfl, rfl, rfl⟩)
    | some x => exact .inr (.inr ⟨x, rfl, rfl, rfl⟩)

/-- The transcripts that a procedure can have if all of its requests are served, each with the
result that the procedure then comes to. -/
inductive Served : Procedure ε α → List Exchange → Except ε α → Prop
  | done (result : Except ε α) : Served (done result) [] result
  | report (event : Event) {rest : Procedure ε α} {l : List Exchange} {result : Except ε α} :
    Served rest l result → Served (report event rest) l result
  | call {request : Request} (ifCancelled : Option ε)
    {next : Except EngineError request.Answer → Procedure ε α} (a : request.Answer)
    {l : List Exchange} {result : Except ε α} :
    Served (next (.ok a)) l result →
      Served (call request ifCancelled next) (.ok request a :: l) result

/-- A run that is not cancelled by its end and whose requests are all served ends as it must. -/
theorem served_run (engine : Engine σ) (c : Cancellation) (proc : Procedure ε α) (p : Progress σ)
    (hquiet : c.firedBefore (p.made.length + (proc.transcript engine c p).length) = false)
    (h : ∀ x ∈ proc.transcript engine c p, ∃ a, x.heard = some (.ok a)) :
    ∃ result, (proc.run engine c p).2 = .finished result ∧
      proc.Served (proc.transcript engine c p) result := by
  induction proc generalizing p with
  | done result => exact ⟨result, rfl, .done result⟩
  | report event rest ih =>
    obtain ⟨result, hend, hserved⟩ := ih (p.tell event) hquiet h
    exact ⟨result, hend, .report event hserved⟩
  | call request ifCancelled next ih =>
    have hnow : c.firedBefore p.made.length = false := firedBefore_of_le hquiet (by omega)
    rcases call_cases engine c request ifCancelled next p with
      ⟨hfired, -⟩ | ⟨-, hnone, -⟩ | ⟨x, -, hlist, hrun⟩
    · rw [hnow] at hfired
      cases hfired
    · obtain ⟨a, ha⟩ := h ⟨request, none⟩ (by simp [hnone])
      cases ha
    · rw [hlist] at h hquiet ⊢
      rw [hrun]
      cases x with
      | error cause =>
        obtain ⟨a, ha⟩ := h _ List.mem_cons_self
        cases ha
      | ok a =>
        have hrest : c.firedBefore (p.made.length + 1 +
            ((next (.ok a)).transcript engine c (p.after request
              (engine.serve request p.engine))).length) = false := by
          rw [Nat.add_assoc, Nat.add_comm 1]
          exact hquiet
        obtain ⟨result, hend, hserved⟩ := ih (.ok a) (p.after request
          (engine.serve request p.engine)) (by simpa [Progress.after] using hrest)
          fun x hx => h x (List.mem_cons_of_mem _ hx)
        exact ⟨result, hend, .call ifCancelled a hserved⟩

lemma Served.of_bind {f : α → Procedure ε β} {result : Except ε β}
    (h : (proc.bind f).Served l result) :
    (∃ l₁ l₂ a, l = l₁ ++ l₂ ∧ proc.Served l₁ (.ok a) ∧ (f a).Served l₂ result) ∨
      ∃ err, result = .error err ∧ proc.Served l (.error err) := by
  induction proc generalizing l with
  | done result' =>
    cases result' with
    | ok a => exact .inl ⟨[], l, a, rfl, .done _, h⟩
    | error err =>
      cases h
      exact .inr ⟨err, rfl, .done _⟩
  | report event rest ih =>
    cases h with
    | report _ h =>
      rcases ih h with ⟨l₁, l₂, a, rfl, h₁, h₂⟩ | ⟨err, rfl, h₁⟩
      · exact .inl ⟨l₁, l₂, a, rfl, .report event h₁, h₂⟩
      · exact .inr ⟨err, rfl, .report event h₁⟩
  | call request ifCancelled next ih =>
    cases h with
    | call _ a h =>
      rcases ih (.ok a) h with ⟨l₁, l₂, a', rfl, h₁, h₂⟩ | ⟨err, rfl, h₁⟩
      · exact .inl ⟨_ :: l₁, l₂, a', rfl, .call _ a h₁, h₂⟩
      · exact .inr ⟨err, rfl, .call _ a h₁⟩

lemma Served.of_bind_done {f : α → β} {result : Except ε β}
    (h : (proc.bind fun a => Procedure.done (.ok (f a))).Served l result) :
    ∃ result', proc.Served l result' ∧ result = result'.map f := by
  rcases h.of_bind with ⟨l₁, l₂, a, rfl, h₁, h₂⟩ | ⟨err, rfl, h₁⟩
  · cases h₂
    rw [List.append_nil]
    exact ⟨_, h₁, rfl⟩
  · exact ⟨_, h₁, rfl⟩

lemma served_tellAll {events : List Event} {result : Except ε Unit}
    (h : (tellAll events).Served l result) : l = [] ∧ result = .ok () := by
  induction events with
  | nil =>
    cases h
    exact ⟨rfl, rfl⟩
  | cons event rest ih =>
    cases h with
    | report _ h => exact ih h

lemma served_ask_bind {request : Request} {cancelled : ε} {wrap : EngineError → ε}
    {f : request.Answer → Procedure ε β} {result : Except ε β}
    (h : (((ask request).under cancelled wrap).bind f).Served l result) :
    ∃ a l', l = .ok request a :: l' ∧ (f a).Served l' result := by
  cases h with
  | call _ a h => exact ⟨a, _, rfl, h⟩

lemma Served.of_report {event : Event} {proc : Procedure ε α} {result : Except ε α}
    (h : (Procedure.report event proc).Served l result) : proc.Served l result := by
  cases h with
  | report _ h => exact h

/-- A run of such a procedure that yields a value is one whose requests were all served. -/
lemma Talk.served (htalk : Talk proc l e) (h : proc.Blames failure) {a : α}
    (he : e = .finished (.ok a)) : proc.Served l (.ok a) := by
  induction htalk with
  | done result =>
    cases he
    exact .done _
  | report event _ ih => exact .report event (ih h he)
  | leftOut | givenUp | blocked => cases he
  | answered request ifCancelled next heard htail ih =>
    obtain ⟨hblames, hnext⟩ := h
    cases heard with
    | error cause =>
      rw [hblames] at htail
      cases htail
      cases he
    | ok a' => exact .call ifCancelled a' (ih (hnext a') he)

lemma Served.talk {result : Except ε α} (h : proc.Served l result) :
    Talk proc l (.finished result) := by
  induction h with
  | done result => exact .done result
  | report event _ ih => exact .report event ih
  | call ifCancelled a _ ih => exact .answered _ ifCancelled _ (.ok a) ih

lemma Served.heard {result : Except ε α} (h : proc.Served l result) :
    ∀ x ∈ l, ∃ a, x.heard = some (.ok a) := by
  induction h with
  | done => exact nofun
  | report _ _ ih => exact ih
  | call _ a _ ih =>
    intro x hx
    rcases List.mem_cons.1 hx with rfl | hx
    · exact ⟨a, rfl⟩
    · exact ih x hx

end Procedure

/-! ### Addresses and their backends -/

/-- The control-plane backend of a node whose address has been heard. -/
def Exchange.backend? : Exchange → Option Backend
  | ⟨.address node, some (.ok address)⟩ =>
    some (.reachable node.name address Endpoint.controlPlanePort)
  | _ => none

/-- The backends of all nodes whose addresses have been heard. -/
def Exchange.backends (l : List Exchange) : BackendSet := .ofList (l.filterMap backend?)

lemma Cluster.backends_lookUps {nodes : List Container} {addresses : List String}
    (h : addresses.length = nodes.length) :
    (Cluster.lookUps nodes addresses).filterMap Exchange.backend? =
      Cluster.backendsAt nodes addresses Endpoint.controlPlanePort := by
  induction nodes generalizing addresses with
  | nil => rfl
  | cons node rest ih =>
    cases addresses with
    | nil => cases h
    | cons address addresses => exact congrArg _ (ih (Nat.succ.inj h))

namespace Cluster

variable {cluster : String} {l : List Exchange}

/-- The addresses of nodes that are all heard and not empty are the addresses of the nodes. -/
lemma served_resolveEach {port : UInt16} {nodes : List Container}
    {result : Except BalancerError (List Backend)}
    (h : (resolveEach cluster port nodes).Served l result) (hsucceeds : ∀ x ∈ l, x.Succeeds) :
    ∃ addresses : List String, addresses.length = nodes.length ∧ l = lookUps nodes addresses ∧
      result = .ok (backendsAt nodes addresses port) := by
  induction nodes generalizing l result with
  | nil =>
    cases h
    exact ⟨[], rfl, rfl, rfl⟩
  | cons node rest ih =>
    rw [resolveEach] at h
    obtain ⟨address, l', rfl, h'⟩ := served_ask_bind h
    have hne : address ≠ "" := hsucceeds _ List.mem_cons_self
    rw [if_neg (by simpa using hne)] at h'
    have hrest : ∀ {l₁ l₂ : List Exchange}, l' = l₁ ++ l₂ → ∀ x ∈ l₁, x.Succeeds :=
      fun hl x hx => hsucceeds x (by simp [hl, hx])
    rcases h'.of_bind with ⟨l₁, l₂, others, rfl, h₁, h₂⟩ | ⟨err, rfl, h₁⟩
    · obtain ⟨addresses, hlength, rfl, hothers⟩ := ih h₁ (hrest rfl)
      cases hothers
      cases h₂
      exact ⟨address :: addresses, by simp [hlength], by simp [lookUps], rfl⟩
    · obtain ⟨_, _, _, hothers⟩ := ih h₁ (hrest (List.append_nil _).symm)
      cases hothers

lemma served_resolve {port : UInt16} {nodes : List Container}
    {result : Except BalancerError BackendSet} (h : (resolve cluster nodes port).Served l result)
    (hsucceeds : ∀ x ∈ l, x.Succeeds) :
    ∃ addresses : List String, addresses.length = nodes.length ∧ l = lookUps nodes addresses ∧
      result = .ok (.ofList (backendsAt nodes addresses port)) := by
  rcases Served.of_bind h with ⟨l₁, l₂, backends, rfl, h₁, h₂⟩ | ⟨err, rfl, h₁⟩
  · obtain ⟨addresses, hlength, rfl, hbackends⟩ := served_resolveEach h₁ fun x hx =>
      hsucceeds x (List.mem_append_left _ hx)
    cases hbackends
    cases h₂
    exact ⟨addresses, hlength, List.append_nil _, rfl⟩
  · obtain ⟨_, _, _, hbackends⟩ := served_resolveEach h₁ hsucceeds
    cases hbackends

end Cluster

namespace Balancer

variable {plan : Plan} {spec : ClusterSpec} {b : Balancer} {l : List Exchange}

/-- A look-up whose request is served finds a balancer, unless the cluster has no name. -/
lemma served_lookUp {result : Except BalancerError Balancer}
    (h : (lookUp plan spec).Served l result) :
    (spec.name = "" ∧ l = [] ∧ result = .error .unnamedCluster) ∨
      spec.name ≠ "" ∧ ∃ found b, l = [.ok (.list (.nodes spec.name .externalLoadBalancer)) found] ∧
        result = .ok b ∧ b.cluster = spec.name := by
  cases hname : spec.name.isEmpty with
  | true =>
    unfold lookUp at h
    rw [hname] at h
    cases h
    exact .inl ⟨by simpa using hname, rfl, rfl⟩
  | false =>
    rw [lookUp_eq hname, search_eq] at h
    have hne : spec.name ≠ "" := by simpa using hname
    cases h with
    | call _ found h =>
      simp only [searched] at h
      refine .inr ⟨hne, found, ?_⟩
      split at h
      · cases h with
        | report _ h => cases h with
          | report _ h => cases h with
            | report _ h =>
              cases h
              exact ⟨_, rfl, rfl, rfl⟩
      · cases h with
        | report _ h => cases h with
          | report _ h =>
            cases h
            exact ⟨_, rfl, rfl, rfl⟩

lemma served_controlPlane {cluster container : String}
    {result : Except BalancerError (List Container)}
    (h : (step .discoverNodes cluster container (Cluster.controlPlane cluster)).Served l result) :
    ∃ found, l = [.ok (.list (.nodes cluster .controlPlane)) found] ∧
      result = .ok (Cluster.sortByName found) := by
  rw [Cluster.controlPlane, Cluster.step_nodes] at h
  obtain ⟨found, l', rfl, h'⟩ := served_ask_bind h
  cases h'.of_report
  exact ⟨found, rfl, rfl⟩

lemma served_document {backends : BackendSet} {result : Except BalancerError ByteArray}
    (h : (b.document plan backends).Served l result) :
    l = [] ∧ ∀ document, plan.renderer.render backends plan.options = .ok document →
      result = .ok document := by
  unfold document at h
  split at h
  · next bytes hrender =>
    rcases Served.of_bind h with ⟨l₁, l₂, _, rfl, h₁, h₂⟩ | ⟨err, -, h₁⟩
    · obtain ⟨rfl, -⟩ := served_tellAll h₁
      cases h₂
      refine ⟨rfl, fun document hdocument => ?_⟩
      cases hrender.symm.trans hdocument
      rfl
    · cases (served_tellAll h₁).2
  · next e hrender =>
    cases h
    refine ⟨rfl, fun document hdocument => ?_⟩
    rw [hrender] at hdocument
    cases hdocument

lemma served_publish {c : Container} {backends : BackendSet} {document : ByteArray}
    {result : Except BalancerError Rollout}
    (h : (b.publish plan c backends document).Served l result) :
    l = [.ok (.writeFile c plan.renderer.path document) (), .ok (.reload c) ()] ∧
      result = .ok ⟨backends, document.size⟩ := by
  obtain ⟨_, l', rfl, hreload⟩ := served_ask_bind (Served.of_report h)
  obtain ⟨_, l'', rfl, hdone⟩ := served_ask_bind hreload
  cases hdone.of_report
  exact ⟨rfl, rfl⟩

/-- An update whose requests are all served, with an address for each node, succeeds if there is a
document of the backends. -/
theorem served_update {c : Container} (hc : b.container = some c)
    {result : Except BalancerError Rollout} (h : (b.update plan).Served l result)
    (hsucceeds : ∀ x ∈ l, x.Succeeds) {document : ByteArray}
    (hdocument : plan.renderer.render (Exchange.backends l) plan.options = .ok document) :
    result = .ok ⟨Exchange.backends l, document.size⟩ := by
  rw [update_eq_publish hc] at h
  rcases h.of_bind with ⟨l₁, l', nodes, rfl, h₁, h⟩ | ⟨err, -, h₁⟩
  swap
  · obtain ⟨_, _, hnodes⟩ := served_controlPlane h₁
    cases hnodes
  obtain ⟨found, rfl, hnodes⟩ := served_controlPlane h₁
  cases hnodes
  have hlookUps : ∀ {l₂ l'' : List Exchange}, l' = l₂ ++ l'' → ∀ x ∈ l₂, x.Succeeds :=
    fun hl x hx => hsucceeds x (by simp [hl, hx])
  rcases h.of_bind with ⟨l₂, l'', backends, rfl, h₂, h⟩ | ⟨err, -, h₂⟩
  swap
  · obtain ⟨_, _, _, hbackends⟩ := Cluster.served_resolve h₂ (hlookUps (List.append_nil _).symm)
    cases hbackends
  obtain ⟨addresses, hlength, rfl, hbackends⟩ := Cluster.served_resolve h₂ (hlookUps rfl)
  cases hbackends
  have hheard : ∀ l : List Exchange, l.filterMap Exchange.backend? = [] →
      Exchange.backends ([Exchange.ok (.list (.nodes b.cluster .controlPlane)) found] ++
        (Cluster.lookUps (Cluster.sortByName found) addresses ++ l)) =
      .ofList (Cluster.backendsAt (Cluster.sortByName found) addresses
        Endpoint.controlPlanePort) := by
    intro l hl
    rw [Exchange.backends, List.filterMap_append, List.filterMap_append,
      Cluster.backends_lookUps hlength, hl, List.append_nil]
    rfl
  rcases h.of_bind with ⟨l₃, l₄, document', rfl, h₃, h₄⟩ | ⟨err, rfl, h₃⟩
  · obtain ⟨rfl, hmade⟩ := served_document h₃
    obtain ⟨rfl, rfl⟩ := served_publish h₄
    rw [hheard _ rfl] at hdocument ⊢
    cases hmade document hdocument
    rfl
  · obtain ⟨rfl, hmade⟩ := served_document h₃
    rw [hheard _ rfl] at hdocument
    cases hmade document hdocument

end Balancer

end ApiBalancer
