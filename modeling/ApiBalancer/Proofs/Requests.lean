import ApiBalancer.Proofs.FleetOutcome
import ApiBalancer.Proofs.Failures
import ApiBalancer.Proofs.Site

/-!
# Requests

What a piece of work can ask for, whatever it is answered, and what it can rely on in return: its
`Terms`. What single requests on these terms do is carried over to runs (`Procedure.outcome_keeps`,
and `Procedure.outcome_same` for two runs on two states). A balancer keeps to `Balancer.terms`, and
the task of a fleet asks for nothing but the look-up and what its balancer asks for
(`Fleet.perform_asks`).
-/

namespace ApiBalancer

open Procedure

variable {σ ε α β : Type}

/-- What may be asked for, and what is then true of the values in the answers. -/
structure Terms where
  asks : Request → Prop
  hears : (request : Request) → request.Answer → Prop := fun _ _ => True

namespace Terms

/-- The terms on which everything may be asked for and nothing is known of the answers. -/
def free : Terms := { asks := fun _ => True }

/-- Whether a reply is as the terms have it. -/
def Met (terms : Terms) {request : Request} (reply : Reply σ request) : Prop :=
  ∀ a, reply.answer = some (.ok a) → terms.hears request a

lemma met_free {request : Request} (reply : Reply σ request) : free.Met reply := fun _ _ => trivial

end Terms

namespace Procedure

variable {terms : Terms} {Q : α → Prop} {proc : Procedure ε α}

/-- Whether a procedure asks only for what the terms allow, as long as it hears what they promise,
and yields only values of which `Q` holds. -/
def KeepsTo (terms : Terms) (Q : α → Prop) : Procedure ε α → Prop
  | done (.ok a) => Q a
  | done (.error _) => True
  | report _ rest => rest.KeepsTo terms Q
  | call request _ next =>
    terms.asks request ∧ ∀ x, (∀ a, x = .ok a → terms.hears request a) → (next x).KeepsTo terms Q

lemma keepsTo_free (proc : Procedure ε α) : proc.KeepsTo .free fun _ => True := by
  induction proc with
  | done result => cases result <;> exact trivial
  | report event rest ih => exact ih
  | call request ifCancelled next ih => exact ⟨trivial, fun x _ => ih x⟩

lemma KeepsTo.bind (h : proc.KeepsTo terms Q) {R : β → Prop} {f : α → Procedure ε β}
    (hf : ∀ a, Q a → (f a).KeepsTo terms R) : (proc.bind f).KeepsTo terms R := by
  induction proc with
  | done result =>
    cases result with
    | ok a => exact hf a h
    | error err => exact trivial
  | report event rest ih => exact ih h
  | call request ifCancelled next ih => exact ⟨h.1, fun x hx => ih x (h.2 x hx)⟩

lemma KeepsTo.mono {terms' : Terms} (h : proc.KeepsTo terms Q)
    (hasks : ∀ r, terms.asks r → terms'.asks r)
    (hhears : ∀ r a, terms.asks r → terms'.hears r a → terms.hears r a) :
    proc.KeepsTo terms' Q := by
  induction proc with
  | done result => cases result <;> exact h
  | report event rest ih => exact ih h
  | call request ifCancelled next ih =>
    refine ⟨hasks request h.1, fun x hx => ih x (h.2 x fun a ha => ?_)⟩
    exact hhears request a h.1 (hx a ha)

lemma KeepsTo.under {proc : Procedure EngineError α} (h : proc.KeepsTo terms Q) (cancelled : ε)
    (wrap : EngineError → ε) : (proc.under cancelled wrap).KeepsTo terms Q := by
  induction proc with
  | done result =>
    cases result with
    | ok a => exact h
    | error err => exact trivial
  | report event rest ih => exact ih h
  | call request ifCancelled next ih => exact ⟨h.1, fun x hx => ih x (h.2 x hx)⟩

lemma keepsTo_tellAll (terms : Terms) (events : List Event) :
    (tellAll events : Procedure ε Unit).KeepsTo terms fun _ => True := by
  induction events with
  | nil => exact trivial
  | cons event rest ih => exact ih

lemma keepsTo_ask {request : Request} (h : terms.asks request) :
    (ask request).KeepsTo terms (terms.hears request) := by
  refine ⟨h, fun x hx => ?_⟩
  cases x with
  | ok a => exact hx a rfl
  | error err => exact trivial

variable {engine : Engine σ} {c : Cancellation} {s s' : σ} {made : List Request}

/-- What every request on the terms keeps of the engine and the requests made, a run on the terms
keeps. -/
theorem outcome_keeps {I : σ → List Request → Prop} (hproc : proc.KeepsTo terms Q)
    (hserve : ∀ request s made, terms.asks request → I s made →
      I (engine.serve request s).state (made ++ [request]) ∧ terms.Met (engine.serve request s))
    (h : I s made) :
    I (proc.outcome engine c s made).1 (proc.outcome engine c s made).2.1 := by
  induction proc generalizing s made with
  | done result => exact h
  | report event rest ih =>
    rw [outcome_report]
    exact ih hproc h
  | call request ifCancelled next ih =>
    obtain ⟨hafter, hmet⟩ := hserve request s made hproc.1 h
    have hnext : ∀ x, (engine.serve request s).answer = some x → (next x).KeepsTo terms Q := by
      intro x hx
      refine hproc.2 x fun a ha => hmet a ?_
      rw [hx, ha]
    cases ifCancelled with
    | none =>
      rw [outcome_call_none]
      split
      · next x hx => exact ih x (hnext x hx) hafter
      · exact hafter
    | some cancelled =>
      rw [outcome_call_some]
      split
      · exact h
      · split
        · exact hafter
        · split
          · next x hx => exact ih x (hnext x hx) hafter
          · exact hafter

/-- If every request on the terms is answered in the same way on two states, so is a run: it makes
the same requests and ends in the same way, with a value of which `Q` holds if it ends with one. -/
theorem outcome_same {S : σ → σ → Prop} (hproc : proc.KeepsTo terms Q)
    (hserve : ∀ request s s', terms.asks request → S s s' →
      (engine.serve request s).answer = (engine.serve request s').answer ∧
        S (engine.serve request s).state (engine.serve request s').state ∧
        terms.Met (engine.serve request s))
    (h : S s s') (c : Cancellation) (made : List Request) :
    (proc.outcome engine c s made).2 = (proc.outcome engine c s' made).2 ∧
      S (proc.outcome engine c s made).1 (proc.outcome engine c s' made).1 ∧
      ∀ a, (proc.outcome engine c s made).2.2 = .finished (.ok a) → Q a := by
  induction proc generalizing s s' made with
  | done result =>
    refine ⟨rfl, h, ?_⟩
    rintro a hend
    cases hend
    exact hproc
  | report event rest ih =>
    rw [outcome_report, outcome_report]
    exact ih hproc h made
  | call request ifCancelled next ih =>
    obtain ⟨hanswer, hafter, hmet⟩ := hserve request s s' hproc.1 h
    have hnext : ∀ x, (engine.serve request s).answer = some x → (next x).KeepsTo terms Q := by
      intro x hx
      refine hproc.2 x fun a ha => hmet a ?_
      rw [hx, ha]
    cases ifCancelled with
    | none =>
      rw [outcome_call_none, outcome_call_none, ← hanswer]
      cases hx : (engine.serve request s).answer with
      | none => exact ⟨rfl, hafter, nofun⟩
      | some x => exact ih x (hnext x hx) hafter _
    | some cancelled =>
      rw [outcome_call_some, outcome_call_some, ← hanswer]
      by_cases hbefore : c.firedBefore made.length = true
      · rw [if_pos hbefore, if_pos hbefore]
        exact ⟨rfl, h, nofun⟩
      rw [if_neg hbefore, if_neg hbefore]
      by_cases hduring :
          c.firesDuring made.length (engine.serve request s).answer.isNone = true
      · rw [if_pos hduring, if_pos hduring]
        exact ⟨rfl, hafter, nofun⟩
      rw [if_neg hduring, if_neg hduring]
      cases hx : (engine.serve request s).answer with
      | none => exact ⟨rfl, hafter, nofun⟩
      | some x => exact ih x (hnext x hx) hafter _

end Procedure

namespace Balancer

variable {plan : Plan} {b : Balancer} {task : Task} {node : Container → Prop}

/-- On which terms a balancer does a task: it works on its own container, and looks up the addresses
of the nodes that it has been told of. -/
def terms (b : Balancer) (task : Task) (node : Container → Prop) : Terms where
  asks
    | .create launch => task = .create ∧ b.container = none ∧ launch = b.launch
    | .list query => task = .update ∧ query = .nodes b.cluster .controlPlane
    | .address c => task = .address ∧ b.container = some c ∨ task = .update ∧ node c
    | .writeFile c _ _ | .reload c => task = .update ∧ b.container = some c
    | .delete c => task = .delete ∧ b.container = some c
    | .signal _ _ => False
  hears
    | .list _, found => ∀ c ∈ found, node c
    | _, _ => True

lemma met_terms (b : Balancer) (task : Task) {request : Request} (reply : Reply σ request) :
    (b.terms task fun _ => True).Met reply := by
  intro a _
  cases request with
  | list query => exact fun _ _ => trivial
  | _ => exact trivial

variable {terms : Terms} {Q : α → Prop}

lemma keepsTo_step {work : Procedure EngineError α} (h : work.KeepsTo terms Q) (s : Step)
    (cluster container : String) : (step s cluster container work).KeepsTo terms Q :=
  h.under _ _

lemma keepsTo_create : (b.create).KeepsTo (b.terms .create node) fun _ => True := by
  unfold create
  cases hc : b.container with
  | some c => exact trivial
  | none =>
    have hlaunch : (b.terms .create node).asks (.create b.launch) := ⟨rfl, hc, rfl⟩
    exact (keepsTo_step (keepsTo_ask hlaunch) _ _ _).bind fun _ _ => trivial

lemma keepsTo_nodes {cluster : String} {role : Role}
    (hask : terms.asks (.list (.nodes cluster role)))
    (hhear : ∀ found, terms.hears (.list (.nodes cluster role)) found → ∀ c ∈ found, node c) :
    (Cluster.nodes cluster role).KeepsTo terms fun found => ∀ c ∈ found, node c := by
  refine (keepsTo_ask hask).bind fun found hfound => ?_
  intro c hc
  exact hhear found hfound c ((Cluster.perm_sortByName found).mem_iff.1 hc)

lemma keepsTo_resolve (hask : ∀ c, node c → terms.asks (.address c)) (cluster : String)
    {nodes : List Container} (hnodes : ∀ c ∈ nodes, node c) (port : UInt16) :
    (Cluster.resolve cluster nodes port).KeepsTo terms fun _ => True := by
  have heach : (Cluster.resolveEach cluster port nodes).KeepsTo terms fun _ => True := by
    induction nodes with
    | nil => exact trivial
    | cons c rest ih =>
      have hc := hask c (hnodes c List.mem_cons_self)
      refine ((keepsTo_ask hc).under _ _).bind fun address _ => ?_
      split
      · exact trivial
      · exact (ih fun d hd => hnodes d (List.mem_cons_of_mem c hd)).bind fun _ _ => trivial
  exact heach.bind fun _ _ => trivial

lemma keepsTo_document (plan : Plan) (b : Balancer) (backends : BackendSet) :
    (b.document plan backends).KeepsTo terms fun _ => True := by
  unfold document
  split
  · exact (keepsTo_tellAll terms _).bind fun _ _ => trivial
  · exact trivial

lemma keepsTo_update : (b.update plan).KeepsTo (b.terms .update node) fun _ => True := by
  unfold update attached
  cases hc : b.container with
  | none => exact trivial
  | some c =>
    have hlist : (b.terms .update node).asks (.list (.nodes b.cluster .controlPlane)) := ⟨rfl, rfl⟩
    have hwrite : ∀ document,
        (b.terms .update node).asks (.writeFile c plan.renderer.path document) :=
      fun _ => ⟨rfl, hc⟩
    have hreload : (b.terms .update node).asks (.reload c) := ⟨rfl, hc⟩
    have hnodes : (Cluster.controlPlane b.cluster).KeepsTo (b.terms .update node)
        fun found => ∀ c ∈ found, node c := keepsTo_nodes hlist fun _ hfound => hfound
    have haddress : ∀ d, node d → (b.terms .update node).asks (.address d) :=
      fun d hd => .inr ⟨rfl, hd⟩
    refine (keepsTo_step hnodes _ _ _).bind fun nodes hnodes => ?_
    refine (keepsTo_resolve haddress _ hnodes _).bind fun backends _ => ?_
    refine (keepsTo_document plan b backends).bind fun document _ => ?_
    refine (keepsTo_step (keepsTo_ask (hwrite document)) _ _ _).bind fun _ _ => ?_
    exact (keepsTo_step (keepsTo_ask hreload) _ _ _).bind fun _ _ => trivial

lemma keepsTo_address : (b.address).KeepsTo (b.terms .address node) fun _ => True := by
  unfold address attached
  cases hc : b.container with
  | none => exact trivial
  | some c =>
    have haddress : (b.terms .address node).asks (.address c) := .inl ⟨rfl, hc⟩
    refine (keepsTo_step (keepsTo_ask haddress) _ _ _).bind fun address _ => ?_
    split <;> exact trivial

lemma keepsTo_delete : (b.delete).KeepsTo (b.terms .delete node) fun _ => True := by
  unfold delete
  cases hc : b.container with
  | none => exact trivial
  | some c =>
    have hdelete : (b.terms .delete node).asks (.delete c) := ⟨rfl, hc⟩
    exact (keepsTo_step (keepsTo_ask hdelete) _ _ _).bind fun _ _ => trivial

/-- A balancer does every task on its terms. -/
theorem keepsTo_perform (plan : Plan) (b : Balancer) (task : Task) (node : Container → Prop) :
    (b.perform plan task).KeepsTo (b.terms task node) fun _ => True := by
  cases task with
  | create => exact keepsTo_create.bind fun _ _ => trivial
  | update => exact keepsTo_update.bind fun _ _ => trivial
  | address => exact keepsTo_address.bind fun _ _ => trivial
  | delete => exact keepsTo_delete.bind fun _ _ => trivial
  | status => exact trivial

/-- A look-up asks for nothing but the balancer containers, and attaches one of those that it is told
of. -/
theorem keepsTo_lookUp (plan : Plan) {spec : ClusterSpec}
    (hask : terms.asks (.list (.nodes spec.name .externalLoadBalancer)))
    (hhear : ∀ found, terms.hears (.list (.nodes spec.name .externalLoadBalancer)) found →
      ∀ c ∈ found, node c) :
    (lookUp plan spec).KeepsTo terms fun b => b.cluster = spec.name ∧
      ∀ c ∈ b.container, node c := by
  unfold lookUp
  split
  · exact trivial
  · have hbalancer : (Cluster.balancer? spec.name).KeepsTo terms fun found =>
        ∀ c ∈ found, node c := by
      refine (keepsTo_nodes hask hhear).bind fun found hfound => ?_
      have hhead : ∀ c ∈ found.head?, node c := fun c hc => hfound c (List.mem_of_mem_head? hc)
      dsimp only
      split <;> exact hhead
    exact (keepsTo_step hbalancer _ _ _).bind fun _ hfound => ⟨rfl, hfound⟩

end Balancer

/-! ### Fleets -/

namespace Fleet

variable {engine : Engine σ} {c : Cancellation} {spec : ClusterSpec} {task : Balancer.Task}
  {fleet : Fleet} {s s₁ : σ} {first made : List Request} {b : Balancer}

/-- Who is to carry out a task: the balancer that is kept for the cluster, or the one that a look-up
has found, with the requests of the look-up. -/
inductive Finds (engine : Engine σ) (c : Cancellation) (fleet : Fleet) (spec : ClusterSpec) (s : σ) :
    Balancer → σ → List Request → Prop
  | kept {b : Balancer} (kept : fleet.balancer? spec.name = some b) :
    Finds engine c fleet spec s b s []
  | found {b : Balancer} (s₁ : σ) (first : List Request)
    (absent : fleet.balancer? spec.name = none)
    (look : (Balancer.lookUp fleet.plan spec).outcome engine c s [] =
      (s₁, first, .finished (.ok b))) :
    Finds engine c fleet spec s b s₁ first

/-- The balancer that carries out a task, once it has taken over the image that is asked for. -/
def ready (fleet : Fleet) (spec : ClusterSpec) (b : Balancer) : Balancer :=
  b.withImage (spec.resolveImage fleet.plan.image)

lemma perform_of_finds (hfinds : Finds engine c fleet spec s b s₁ first) {s' : σ}
    {e : Ending BalancerError (Balancer × Balancer.Answer)}
    (h : ((fleet.ready spec b).perform fleet.plan task).outcome engine c s₁ first =
      (s', made, e)) :
    ∃ q, fleet.perform engine c spec task s =
        (fleet.keep spec.name (kept (fleet.ready spec b) e), q, e.map (·.2)) ∧
      q.engine = s' ∧ q.made = made := by
  cases hfinds with
  | kept kept => exact perform_of_some kept h
  | found _ _ absent look => exact perform_of_lookUp_ok absent look h

/-- A task for which nobody is found fails as the look-up has failed. -/
lemma perform_of_not_found (absent : fleet.balancer? spec.name = none)
    {e : Ending BalancerError Balancer} {s' : σ}
    (look : (Balancer.lookUp fleet.plan spec).outcome engine c s [] = (s', made, e))
    (hfails : e.Fails) (f : Balancer → Balancer.Answer) :
    ∃ q, fleet.perform engine c spec task s = (fleet.track spec.name, q, e.map f) ∧
      q.engine = s' ∧ q.made = made := by
  cases e with
  | blocked ifCancelled => exact perform_of_lookUp_blocked task absent look
  | finished result =>
    cases result with
    | ok b => exact (hfails b rfl).elim
    | error err => exact perform_of_lookUp_fails task absent look

lemma finds_or_fails (engine : Engine σ) (c : Cancellation) (fleet : Fleet) (spec : ClusterSpec)
    (s : σ) :
    (∃ b s₁ first, Finds engine c fleet spec s b s₁ first) ∨
      fleet.balancer? spec.name = none ∧
        ((Balancer.lookUp fleet.plan spec).outcome engine c s []).2.2.Fails := by
  cases hb : fleet.balancer? spec.name with
  | some b => exact .inl ⟨b, s, [], .kept hb⟩
  | none =>
    generalize hlook : (Balancer.lookUp fleet.plan spec).outcome engine c s [] = look
    obtain ⟨s₁, first, e⟩ := look
    cases e with
    | blocked ifCancelled => exact .inr ⟨rfl, fails_blocked _⟩
    | finished result =>
      cases result with
      | ok b => exact .inl ⟨b, s₁, first, .found s₁ first hb hlook⟩
      | error err => exact .inr ⟨rfl, fails_error _⟩

/-- What the look-up and the task of whoever is found keep, the task of a fleet keeps. -/
theorem perform_keeps {I : σ → List Request → Prop} {terms : Terms} (h : I s [])
    (hlook : terms.asks (.list (.nodes spec.name .externalLoadBalancer)))
    (hwork : ∀ b s₁ first, Finds engine c fleet spec s b s₁ first →
      ((fleet.ready spec b).perform fleet.plan task).KeepsTo terms fun _ => True)
    (hserve : ∀ request s made, terms.asks request → I s made →
      I (engine.serve request s).state (made ++ [request]) ∧ terms.Met (engine.serve request s)) :
    I (fleet.perform engine c spec task s).2.1.engine
      (fleet.perform engine c spec task s).2.1.made := by
  have hterms : (Balancer.lookUp fleet.plan spec).KeepsTo terms
      fun b => b.cluster = spec.name ∧ ∀ c ∈ b.container, True :=
    Balancer.keepsTo_lookUp fleet.plan hlook fun _ _ _ _ => trivial
  have hlookUp : I ((Balancer.lookUp fleet.plan spec).outcome engine c s []).1
      ((Balancer.lookUp fleet.plan spec).outcome engine c s []).2.1 :=
    outcome_keeps hterms hserve h
  rcases finds_or_fails engine c fleet spec s with ⟨b, s₁, first, hfinds⟩ | ⟨hb, hfails⟩
  · have hfirst : I s₁ first := by
      cases hfinds with
      | kept => exact h
      | found _ _ absent look =>
        rw [look] at hlookUp
        exact hlookUp
    generalize hrun : ((fleet.ready spec b).perform fleet.plan task).outcome engine c s₁ first = run
    have hdone : I run.1 run.2.1 := by
      rw [← hrun]
      exact outcome_keeps (hwork b s₁ first hfinds) hserve hfirst
    obtain ⟨s', made, e⟩ := run
    obtain ⟨q, hq, hengine, hmade⟩ := perform_of_finds hfinds hrun
    rw [hq, hengine, hmade]
    exact hdone
  · generalize hlook : (Balancer.lookUp fleet.plan spec).outcome engine c s [] = look at hfails hlookUp
    obtain ⟨s', made, e⟩ := look
    obtain ⟨q, hq, hengine, hmade⟩ := perform_of_not_found hb hlook hfails fun _ => .done
    rw [hq, hengine, hmade]
    exact hlookUp

end Fleet

namespace Inventory

variable {inv inv' inv'' : Inventory} {made made' : List Request}

/-- What an inventory is after some requests, the table apart: the requests are recorded, the same
operations are stalled and the same addresses kept back, and no fault has come up. -/
structure Follows (inv : Inventory) (made : List Request) (inv' : Inventory) : Prop where
  calls : inv'.calls = inv.calls ++ made.map Request.call
  stalled : inv'.stalled = inv.stalled
  addressFaults : inv'.addressFaults = inv.addressFaults
  faults : inv.faults = [] → inv'.faults = []

lemma follows_nil (inv : Inventory) : inv.Follows [] inv :=
  ⟨(List.append_nil _).symm, rfl, rfl, id⟩

lemma Follows.append (h : inv.Follows made inv') (h' : inv'.Follows made' inv'') :
    inv.Follows (made ++ made') inv'' := by
  refine ⟨?_, h'.stalled.trans h.stalled, h'.addressFaults.trans h.addressFaults,
    fun hnone => h'.faults (h.faults hnone)⟩
  rw [h'.calls, h.calls, List.map_append, List.append_assoc]

lemma change_follows (inv : Inventory) (name : String) (f : Entry → Except EngineError Entry) :
    inv.Follows [] (inv.change name f).1 := by
  unfold change
  split
  · exact follows_nil inv
  · split
    · exact ⟨(List.append_nil _).symm, rfl, rfl, id⟩
    · exact follows_nil inv

lemma work_follows (request : Request) (inv : Inventory) :
    inv.Follows [] (work request inv).1 := by
  have hsame : ∀ {inv' : Inventory}, inv'.calls = inv.calls → inv'.stalled = inv.stalled →
      inv'.addressFaults = inv.addressFaults → inv'.faults = inv.faults → inv.Follows [] inv' :=
    fun hcalls hstalled haddress hfaults =>
      ⟨hcalls.trans (List.append_nil _).symm, hstalled, haddress, fun h => hfaults.trans h⟩
  cases request with
  | create launch =>
    simp only [work]
    split
    · exact follows_nil inv
    · exact hsame rfl rfl rfl rfl
  | list query => exact follows_nil inv
  | address container =>
    simp only [work]
    split <;> exact follows_nil inv
  | writeFile container path content => exact change_follows inv _ _
  | signal container signal => exact change_follows inv _ _
  | reload container => exact change_follows inv _ _
  | delete container =>
    simp only [work]
    split
    · exact hsame rfl rfl rfl rfl
    · exact follows_nil inv

lemma serve_follows (request : Request) (inv : Inventory) :
    inv.Follows [request] (serve request inv).state := by
  have hrecord : inv.Follows [request] (inv.record request.call) := ⟨rfl, rfl, rfl, id⟩
  unfold serve
  dsimp only
  split
  · exact hrecord
  · cases hfaults : inv.faults with
    | nil => exact hrecord.append (work_follows request (inv.record request.call))
    | cons fault rest =>
      have hsome : inv.faults ≠ [] := by simp [hfaults]
      cases takeFault request.call.operation (fault :: rest) with
      | some taken => exact ⟨rfl, rfl, rfl, fun h => (hsome h).elim⟩
      | none => exact hrecord.append (work_follows request (inv.record request.call))

end Inventory

/-- What the task of a fleet makes of an inventory, the table apart. -/
lemma Fleet.perform_follows {c : Cancellation} {spec : ClusterSpec} {task : Balancer.Task}
    {fleet fleet' : Fleet} {inv : Inventory} {q : Progress Inventory}
    {e : Ending BalancerError Balancer.Answer}
    (h : fleet.perform Inventory.engine c spec task inv = (fleet', q, e)) :
    inv.Follows q.made q.engine := by
  have hserve : ∀ request inv' made, Terms.free.asks request → inv.Follows made inv' →
      inv.Follows (made ++ [request]) (Inventory.engine.serve request inv').state ∧
        Terms.free.Met (Inventory.engine.serve request inv') :=
    fun request inv' made _ hmade =>
      ⟨hmade.append (inv'.serve_follows request), Terms.met_free _⟩
  have hkeeps : inv.Follows (fleet.perform Inventory.engine c spec task inv).2.1.made
      (fleet.perform Inventory.engine c spec task inv).2.1.engine :=
    perform_keeps (I := fun inv' made => inv.Follows made inv') inv.follows_nil trivial
      (fun _ _ _ _ => keepsTo_free _) hserve
  rw [h] at hkeeps
  exact hkeeps

namespace Fleet

variable {t : Token} {spec : ClusterSpec} {task : Balancer.Task} {fleet : Fleet}
  {inv inv₁ : Inventory} {b : Balancer} {first : List Request}

/-- Who is found for a task on an inventory is the worker, and nothing in the table changes. -/
lemma ready_of_finds (h : Finds Inventory.engine t.1 fleet spec inv b inv₁ first) :
    inv₁.table = inv.table ∧ fleet.ready spec b = fleet.worker spec inv := by
  unfold ready worker
  cases h with
  | kept kept =>
    rw [kept]
    exact ⟨rfl, rfl⟩
  | found _ _ absent look =>
    obtain ⟨p, hrun, rfl, -⟩ := run_of_outcome look
    obtain ⟨htable, hend | hfails⟩ := run_lookUp hrun
    · cases hend
      rw [absent]
      exact ⟨htable, rfl⟩
    · exact (hfails b rfl).elim

/-- The task of a fleet asks for nothing but the look-up and what its balancer asks for. -/
theorem perform_asks {request : Request}
    (h : request ∈ (fleet.perform Inventory.engine t.1 spec task inv).2.1.made) :
    request = .list (.nodes spec.name .externalLoadBalancer) ∨
      ((fleet.worker spec inv).terms task fun _ => True).asks request := by
  let terms : Terms :=
    { asks := fun r => r = .list (.nodes spec.name .externalLoadBalancer) ∨
        ((fleet.worker spec inv).terms task fun _ => True).asks r
      hears := ((fleet.worker spec inv).terms task fun _ => True).hears }
  have hlook : terms.asks (.list (.nodes spec.name .externalLoadBalancer)) := .inl rfl
  refine perform_keeps (I := fun _ made => ∀ r ∈ made, terms.asks r) nofun hlook ?_ ?_ request h
  · intro b s₁ first hfinds
    rw [(ready_of_finds hfinds).2]
    exact (Balancer.keepsTo_perform fleet.plan _ task _).mono (fun r hr => .inr hr) fun _ _ _ ha => ha
  · intro r s made hr hmade
    refine ⟨fun r' hr' => ?_, Balancer.met_terms (fleet.worker spec inv) task _⟩
    rcases List.mem_append.1 hr' with hr' | hr'
    · exact hmade r' hr'
    · rw [List.mem_singleton.1 hr']
      exact hr

end Fleet

/-- The requests that a deed makes. -/
def Site.asked (site : Site) : Deed → List Request
  | .perform spec task token =>
    (site.fleet.perform Inventory.engine token.1 spec task site.inventory).2.1.made
  | .lookUp _ plan spec token =>
    ((Balancer.lookUp plan spec).run Inventory.engine token.1
      { engine := site.inventory }).1.made
  | .work owner task token =>
    match site.own.get? owner with
    | none => []
    | some (plan, b) =>
      ((b.perform plan task).run Inventory.engine token.1 { engine := site.inventory }).1.made
  | .arrange _ | .forget _ | .takeImage _ _ => []

end ApiBalancer
