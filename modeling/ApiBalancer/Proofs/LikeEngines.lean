import ApiBalancer.Proofs.BalancerRun
import Mathlib.Data.List.Forall2

/-!
# Engines alike

Two engines are alike if they answer alike whatever a balancer asks of them: with the same values,
or both with an error. Containers count by their names, and by the labels that were asked for. The
work of a balancer on such engines comes out alike (`Alike.run`), since all that it does depends on
nothing else (`Balancer.alike_lookUp`, `Balancer.Alike.perform`).
-/

namespace ApiBalancer

open Procedure

/-- Whether a text can be an argument of a command. -/
def Text.NulFree (s : String) : Prop := '\x00' ∉ s.toList

instance : DecidablePred Text.NulFree :=
  fun s => inferInstanceAs (Decidable ('\x00' ∉ s.toList))

/-- Whether a text is a line that nothing is cut off from. -/
structure Text.Plain (s : String) : Prop where
  nonempty : s ≠ ""
  trimmed : Text.trimmed s = s
  oneLine : '\n' ∉ s.toList
  nulFree : Text.NulFree s

instance : DecidablePred Text.Plain := fun s =>
  decidable_of_iff (s ≠ "" ∧ Text.trimmed s = s ∧ '\n' ∉ s.toList ∧ Text.NulFree s)
    ⟨fun ⟨h, h', h'', h'''⟩ => ⟨h, h', h'', h'''⟩,
      fun h => ⟨h.nonempty, h.trimmed, h.oneLine, h.nulFree⟩⟩

open Text

/-- Two results alike: values of which `R` holds, or errors of which `E` holds. -/
inductive Results {ε α β : Type} (E : ε → ε → Prop) (R : α → β → Prop) :
    Except ε α → Except ε β → Prop
  | ok {a : α} {b : β} (h : R a b) : Results E R (.ok a) (.ok b)
  | error {e e' : ε} (h : E e e') : Results E R (.error e) (.error e')

/-- Two answers of engines alike. Their errors need not have anything in common. -/
abbrev Answers {α β : Type} (R : α → β → Prop) :
    Except EngineError α → Except EngineError β → Prop :=
  Results (fun _ _ => True) R

/-- Two handles to one container, both taken by asking for a role in a cluster. -/
structure Container.Alike (cluster : String) (role : Role) (c c' : Container) : Prop where
  name : c'.name = c.name
  plain : Plain c.name
  labelled : (LabelQuery.nodes cluster role).Matches c.labels
  labelled' : (LabelQuery.nodes cluster role).Matches c'.labels

/-- Two listings of the same containers, in whatever order. -/
structure Listings (query : LabelQuery) (l l' : List Container) : Prop where
  names : (l'.map (·.name)).Perm (l.map (·.name))
  plain : ∀ c ∈ l, Plain c.name
  labelled : ∀ c ∈ l, query.Matches c.labels
  labelled' : ∀ c ∈ l', query.Matches c.labels

/-- Two requests that ask for the same, as balancers do, in words that a command can take. -/
inductive Request.Alike : Request → Request → Prop
  | create {name image cluster : String} (plain : Plain name) (image_nulFree : NulFree image)
    (cluster_nulFree : NulFree cluster) :
    Alike (.create ⟨name, image, cluster, Balancer.listenAddress, 0⟩)
      (.create ⟨name, image, cluster, Balancer.listenAddress, 0⟩)
  | list {cluster : String} (role : Role) (cluster_nulFree : NulFree cluster) :
    Alike (.list (.nodes cluster role)) (.list (.nodes cluster role))
  | address {c c' : Container} (name : c'.name = c.name) (plain : Plain c.name) :
    Alike (.address c) (.address c')
  | writeFile {c c' : Container} {path : String} (content : ByteArray) (name : c'.name = c.name)
    (plain : Plain c.name) (path_nulFree : NulFree path) :
    Alike (.writeFile c path content) (.writeFile c' path content)
  | reload {c c' : Container} (name : c'.name = c.name) (plain : Plain c.name) :
    Alike (.reload c) (.reload c')
  | delete {c c' : Container} (name : c'.name = c.name) (plain : Plain c.name) :
    Alike (.delete c) (.delete c')

/-- Whether the answers to two requests are alike. -/
def Request.Answered : (r r' : Request) → Except EngineError r.Answer →
    Except EngineError r'.Answer → Prop
  | .create l, .create _, x, x' =>
    Answers (fun c c' => c = c' ∧ c = .node l.name l.cluster .externalLoadBalancer) x x'
  | .list query, .list _, x, x' => Answers (Listings query) x x'
  | .address _, .address _, x, x' => Answers Eq x x'
  | .writeFile .., .writeFile .., x, x' => Answers Eq x x'
  | .reload _, .reload _, x, x' => Answers Eq x x'
  | .delete _, .delete _, x, x' => Answers Eq x x'
  | _, _, _, _ => False

/-- Two engines that answer alike as long as `S` holds of their states. -/
def Engine.Alike {σ τ : Type} (E : Engine σ) (E' : Engine τ) (S : σ → τ → Prop) : Prop :=
  ∀ {r r' : Request} {s : σ} {s' : τ}, r.Alike r' → S s s' →
    ∃ x x', (E.serve r s).answer = some x ∧ (E'.serve r' s').answer = some x' ∧
      r.Answered r' x x' ∧ S (E.serve r s).state (E'.serve r' s').state

/-- Two errors of balancers that differ in the engine's words at most. -/
inductive BalancerError.Alike : BalancerError → BalancerError → Prop
  | same (e : BalancerError) : Alike e e
  | engine (step : Step) (cluster container : String) (cause cause' : EngineError) :
    Alike (.engine step cluster container cause) (.engine step cluster container cause')
  | unresolved (cluster node : String) (cause cause' : EngineError) :
    Alike (.unresolved cluster node (some cause)) (.unresolved cluster node (some cause'))

/-- Two procedures that report the same and ask alike as long as they are answered alike. -/
inductive Procedure.Alike {ε α β : Type} (E : ε → ε → Prop) (R : α → β → Prop) :
    Procedure ε α → Procedure ε β → Prop
  | done {x : Except ε α} {x' : Except ε β} (h : Results E R x x') : Alike E R (.done x) (.done x')
  | report (event : Event) {p : Procedure ε α} {p' : Procedure ε β} (h : Alike E R p p') :
    Alike E R (.report event p) (.report event p')
  | call {r r' : Request} {cancelled cancelled' : Option ε}
    {next : Except EngineError r.Answer → Procedure ε α}
    {next' : Except EngineError r'.Answer → Procedure ε β} (asked : r.Alike r')
    (ifCancelled : Option.Rel E cancelled cancelled')
    (h : ∀ x x', r.Answered r' x x' → Alike E R (next x) (next' x')) :
    Alike E R (.call r cancelled next) (.call r' cancelled' next')

/-- Two runs that end alike. -/
inductive Ending.Alike {ε α β : Type} (E : ε → ε → Prop) (R : α → β → Prop) :
    Ending ε α → Ending ε β → Prop
  | finished {x : Except ε α} {x' : Except ε β} (h : Results E R x x') :
    Alike E R (.finished x) (.finished x')

namespace Procedure.Alike

section

variable {ε α α' β β' : Type} {E : ε → ε → Prop} {R : α → α' → Prop} {Q : β → β' → Prop}
  {p : Procedure ε α} {p' : Procedure ε α'}

lemma pure {a : α} {a' : α'} (h : R a a') :
    Procedure.Alike E R (Pure.pure a) (Pure.pure a') :=
  .done (.ok h)

lemma fail {e e' : ε} (h : E e e') : Procedure.Alike E R (Procedure.fail e) (Procedure.fail e') :=
  .done (.error h)

lemma bind {f : α → Procedure ε β} {f' : α' → Procedure ε β'} (h : Procedure.Alike E R p p')
    (hf : ∀ a a', R a a' → Procedure.Alike E Q (f a) (f' a')) :
    Procedure.Alike E Q (p >>= f) (p' >>= f') := by
  induction h with
  | done hx =>
    cases hx with
    | ok hR => exact hf _ _ hR
    | error hE => exact .done (.error hE)
  | report event _ ih => exact .report event ih
  | call asked ifCancelled _ ih => exact .call asked ifCancelled ih

lemma tell (event : Event) : Procedure.Alike E Eq (Procedure.tell event) (Procedure.tell event) :=
  .report event (.done (.ok rfl))

lemma tellAll (events : List Event) :
    Procedure.Alike E Eq (Procedure.tellAll events) (Procedure.tellAll events) := by
  induction events with
  | nil => exact .done (.ok rfl)
  | cons event rest ih => exact .report event ih

/-- What is alike on engines is alike as a step for a cluster. -/
lemma under {p : Procedure EngineError α} {p' : Procedure EngineError α'} {cancelled : ε}
    {wrap wrap' : EngineError → ε} (h : Procedure.Alike (fun _ _ => True) R p p')
    (hcancelled : E cancelled cancelled) (hwrap : ∀ e e', E (wrap e) (wrap' e')) :
    Procedure.Alike E R (p.under cancelled wrap) (p'.under cancelled wrap') := by
  induction h with
  | done hx =>
    cases hx with
    | ok hR => exact .done (.ok hR)
    | error _ => exact .done (.error (hwrap _ _))
  | report event _ ih => exact .report event ih
  | call asked _ _ ih => exact .call asked (.some hcancelled) ih

end

variable {ε α α' σ τ : Type} {E : ε → ε → Prop} {R : α → α' → Prop} {p : Procedure ε α}
  {p' : Procedure ε α'} {engine : Engine σ} {engine' : Engine τ} {S : σ → τ → Prop}

/-- What is alike ends alike on engines that are alike, and leaves them so. -/
theorem run (h : Procedure.Alike E R p p') (hengines : engine.Alike engine' S) (t : Token)
    {a : Progress σ} {b : Progress τ} (hS : S a.engine b.engine)
    (hmade : b.made.length = a.made.length) :
    Ending.Alike E R (p.run engine t.1 a).2 (p'.run engine' t.1 b).2 ∧
      S (p.run engine t.1 a).1.engine (p'.run engine' t.1 b).1.engine := by
  induction h generalizing a b with
  | done hx => exact ⟨.finished hx, hS⟩
  | report event _ ih => exact ih (a := a.tell event) (b := b.tell event) hS hmade
  | @call r r' cancelled cancelled' next next' asked ifCancelled _ ih =>
    obtain ⟨x, x', hanswer, hanswer', hx, hstate⟩ := hengines asked hS
    have hmade' : (b.made ++ [r']).length = (a.made ++ [r]).length := by
      rw [List.length_append, List.length_append, hmade]
      rfl
    have hnext := ih x x' hx (a := a.after r (engine.serve r a.engine))
      (b := b.after r' (engine'.serve r' b.engine)) hstate hmade'
    cases ifCancelled with
    | none =>
      simp only [Procedure.run]
      rw [hanswer, hanswer']
      exact hnext
    | some hE =>
      simp only [Procedure.run]
      rw [hanswer, hanswer', hmade]
      split
      · exact ⟨.finished (.error hE), hS⟩
      · -- an answer is there at once, so the cancellation does not fire while it is awaited
        rw [Option.isNone_some, Option.isNone_some, if_neg (by rw [t.2]; exact Bool.false_ne_true),
          if_neg (by rw [t.2]; exact Bool.false_ne_true)]
        exact hnext

end Procedure.Alike

namespace Cluster

variable {cluster : String} {role : Role} {l l' : List Container}

/-- Two lists of the same containers in the same order. -/
abbrev Nodes (cluster : String) (role : Role) : List Container → List Container → Prop :=
  List.Forall₂ (Container.Alike cluster role)

lemma sortByName_names (h : (l'.map (·.name)).Perm (l.map (·.name))) :
    (sortByName l').map (·.name) = (sortByName l).map (·.name) := by
  have hperm : ((sortByName l').map (·.name)).Perm ((sortByName l).map (·.name)) :=
    (((perm_sortByName l').map _).trans h).trans ((perm_sortByName l).map _).symm
  have hsorted : ∀ l, ((sortByName l).map (·.name)).Pairwise (· ≤ ·) :=
    fun l => List.pairwise_map.2 (pairwise_sortByName l)
  refine List.Perm.eq_of_pairwise ?_ (hsorted l') (hsorted l) hperm
  intro a b _ _ hab hba
  exact String.le_antisymm hab hba

/-- Sorted listings of the same containers are the same up to handles. -/
lemma nodes_sorted (h : Listings (.nodes cluster role) l l') :
    Nodes cluster role (sortByName l) (sortByName l') := by
  have hnames := sortByName_names h.names
  have hmem : ∀ c ∈ sortByName l, c ∈ l := fun c => (perm_sortByName l).mem_iff.1
  have hmem' : ∀ c ∈ sortByName l', c ∈ l' := fun c => (perm_sortByName l').mem_iff.1
  generalize sortByName l = sorted at hnames hmem
  generalize sortByName l' = sorted' at hnames hmem'
  induction sorted generalizing sorted' with
  | nil =>
    cases sorted' with
    | nil => exact .nil
    | cons c' rest' => cases hnames
  | cons c rest ih =>
    cases sorted' with
    | nil => cases hnames
    | cons c' rest' =>
      obtain ⟨hname, hrest⟩ := List.cons.inj hnames
      have hc : c ∈ l := hmem c List.mem_cons_self
      have hc' : c' ∈ l' := hmem' c' List.mem_cons_self
      refine .cons ⟨hname, h.plain c hc, h.labelled c hc, h.labelled' c' hc'⟩ ?_
      exact ih (fun d hd => hmem d (List.mem_cons_of_mem c hd)) rest' hrest
        (fun d hd => hmem' d (List.mem_cons_of_mem c' hd))

lemma names_of_nodes (h : Nodes cluster role l l') : l'.map (·.name) = l.map (·.name) := by
  induction h with
  | nil => rfl
  | cons hc _ ih => rw [List.map_cons, List.map_cons, hc.name, ih]

lemma alike_nodes (role : Role) (hcluster : NulFree cluster) :
    Procedure.Alike (fun _ _ => True) (Nodes cluster role) (nodes cluster role)
      (nodes cluster role) := by
  have hlist : Procedure.Alike (fun _ _ => True) (Listings (.nodes cluster role))
      (Procedure.ask (.list (.nodes cluster role))) (Procedure.ask (.list (.nodes cluster role))) :=
    .call (.list role hcluster) .none fun x x' hx => .done hx
  refine hlist.bind fun l l' hl => ?_
  have hsorted := nodes_sorted hl
  dsimp only
  rw [← hsorted.length_eq]
  exact (Alike.tell _).bind fun _ _ _ => .pure hsorted

lemma alike_balancer? (hcluster : NulFree cluster) :
    Procedure.Alike (fun _ _ => True) (Option.Rel (Container.Alike cluster .externalLoadBalancer))
      (balancer? cluster) (balancer? cluster) := by
  refine (alike_nodes .externalLoadBalancer hcluster).bind fun l l' hl => ?_
  have hhead : Option.Rel (Container.Alike cluster .externalLoadBalancer) l.head? l'.head? := by
    cases hl with
    | nil => exact .none
    | cons hc _ => exact .some hc
  dsimp only
  rw [names_of_nodes hl, ← hl.length_eq]
  split
  · exact (Alike.tell _).bind fun _ _ _ => .pure hhead
  · exact .pure hhead

lemma alike_resolveEach (port : UInt16) (h : Nodes cluster role l l') :
    Procedure.Alike BalancerError.Alike Eq (resolveEach cluster port l)
      (resolveEach cluster port l') := by
  induction h with
  | nil => exact .pure rfl
  | @cons c c' rest rest' hc _ ih =>
    have hask : Procedure.Alike (fun _ _ => True) Eq (Procedure.ask (.address c))
        (Procedure.ask (.address c')) :=
      .call (.address hc.name hc.plain) .none fun x x' hx => .done hx
    unfold resolveEach
    refine (hask.under (.same _) fun e e' => ?_).bind fun address address' haddress => ?_
    · rw [hc.name]
      exact .unresolved _ _ e e'
    · cases haddress
      rw [hc.name]
      split
      · exact .fail (.same _)
      · refine ih.bind fun others others' hothers => ?_
        cases hothers
        exact .pure rfl

lemma alike_resolve (port : UInt16) (h : Nodes cluster role l l') :
    Procedure.Alike BalancerError.Alike Eq (resolve cluster l port) (resolve cluster l' port) := by
  refine (alike_resolveEach port h).bind fun others others' hothers => ?_
  cases hothers
  exact .pure rfl

end Cluster

/-! ### Balancers alike -/

namespace Balancer

/-- Two balancers of one cluster that run one image and are attached to one container. -/
structure Alike (b b' : Balancer) : Prop where
  cluster : b'.cluster = b.cluster
  image : b'.image = b.image
  container : Option.Rel (Container.Alike b.cluster .externalLoadBalancer) b.container b'.container

/-- Whether all that a balancer asks for can be put into commands. -/
structure Sayable (plan : Plan) (b : Balancer) : Prop where
  name : Plain b.containerName
  image : NulFree b.image
  path : NulFree plan.renderer.path

variable {plan : Plan} {b b' : Balancer}

lemma nulFree_cluster {cluster : String} (h : Plain (cluster ++ "-lb")) : NulFree cluster := by
  intro hmem
  refine h.nulFree ?_
  rw [String.toList_append]
  exact List.mem_append_left _ hmem

lemma Sayable.cluster (h : b.Sayable plan) : NulFree b.cluster := nulFree_cluster h.name

lemma Sayable.withImage (h : b.Sayable plan) {image : String} (himage : NulFree image) :
    (b.withImage image).Sayable plan := by
  unfold Balancer.withImage
  split
  · exact h
  · exact ⟨h.name, himage, h.path⟩

lemma alike_step {α α' : Type} {R : α → α' → Prop} {p : Procedure EngineError α}
    {p' : Procedure EngineError α'} (st : Step) (cluster container : String)
    (h : Procedure.Alike (fun _ _ => True) R p p') :
    Procedure.Alike BalancerError.Alike R (step st cluster container p)
      (step st cluster container p') :=
  h.under (.same _) fun e e' => .engine st cluster container e e'

/-- A look-up finds balancers that are alike. -/
theorem alike_lookUp {spec : ClusterSpec} (hname : Plain (spec.name ++ "-lb"))
    (himage : NulFree (spec.resolveImage plan.image)) (hpath : NulFree plan.renderer.path) :
    Procedure.Alike BalancerError.Alike (fun b b' => b.Alike b' ∧ b.Sayable plan)
      (lookUp plan spec) (lookUp plan spec) := by
  unfold lookUp
  split
  · exact .fail (.same _)
  · refine (alike_step _ _ _ (Cluster.alike_balancer? (nulFree_cluster hname))).bind
      fun found found' hfound => ?_
    have hsome : found'.isSome = found.isSome := by cases hfound <;> rfl
    rw [hsome]
    exact (Procedure.Alike.tell _).bind fun _ _ _ =>
      .pure ⟨⟨rfl, rfl, hfound⟩, ⟨hname, himage, hpath⟩⟩

namespace Alike

lemma container_cases (h : b.Alike b') :
    b.container = none ∧ b'.container = none ∨
      ∃ c c', b.container = some c ∧ b'.container = some c' ∧
        Container.Alike b.cluster .externalLoadBalancer c c' := by
  have hrel := h.container
  generalize b.container = c at hrel
  generalize b'.container = c' at hrel
  cases hrel with
  | none => exact .inl ⟨rfl, rfl⟩
  | some hc => exact .inr ⟨_, _, rfl, rfl, hc⟩

lemma containerName (h : b.Alike b') : b'.containerName = b.containerName := by
  unfold Balancer.containerName
  rw [h.cluster]

/-- Balancers alike report the same of themselves. -/
lemma status (h : b.Alike b') : b'.status = b.status := by
  unfold Balancer.status Balancer.isProvisioned
  rw [h.containerName, h.cluster, h.image]
  rcases h.container_cases with ⟨hc, hc'⟩ | ⟨c, c', hc, hc', halike⟩
  · rw [hc, hc']
  · rw [hc, hc']
    dsimp only
    rw [halike.name]
    rfl

lemma withImage (h : b.Alike b') (image : String) :
    (b.withImage image).Alike (b'.withImage image) := by
  unfold Balancer.withImage
  rcases h.container_cases with ⟨hc, hc'⟩ | ⟨c, c', hc, hc', -⟩
  · rw [hc, hc']
    exact ⟨h.cluster, rfl, .none⟩
  · rw [hc, hc']
    exact h

lemma attached (h : b.Alike b') :
    Procedure.Alike BalancerError.Alike (Container.Alike b.cluster .externalLoadBalancer)
      b.attached b'.attached := by
  unfold Balancer.attached
  rcases h.container_cases with ⟨hc, hc'⟩ | ⟨c, c', hc, hc', halike⟩
  · rw [hc, hc', h.cluster]
    exact .fail (.same _)
  · rw [hc, hc']
    exact .pure halike

lemma launch (h : b.Alike b') : b'.launch = b.launch := by
  unfold Balancer.launch
  rw [h.containerName, h.image, h.cluster]

lemma create (h : b.Alike b') (hsayable : b.Sayable plan) :
    Procedure.Alike BalancerError.Alike (fun b b' => b.Alike b' ∧ b.Sayable plan) b.create
      b'.create := by
  unfold Balancer.create
  rw [h.launch, h.cluster]
  rcases h.container_cases with ⟨hc, hc'⟩ | ⟨c, c', hc, hc', -⟩
  · rw [hc, hc']
    have hask : Procedure.Alike (fun _ _ => True)
        (fun c c' => c = c' ∧ c = .node b.launch.name b.launch.cluster .externalLoadBalancer)
        (Procedure.ask (.create b.launch)) (Procedure.ask (.create b.launch)) :=
      .call (.create hsayable.name hsayable.image hsayable.cluster) .none fun x x' hx => .done hx
    refine (Procedure.Alike.tell _).bind fun _ _ _ => ?_
    refine (alike_step _ _ _ hask).bind fun c c' hcc' => ?_
    obtain ⟨rfl, hcreated⟩ := hcc'
    have hhandle : Container.Alike b.cluster .externalLoadBalancer c c := by
      rw [hcreated]
      have hlabelled : (LabelQuery.nodes b.cluster .externalLoadBalancer).Matches
          (Container.node b.launch.name b.cluster .externalLoadBalancer).labels :=
        LabelQuery.nodes_matches_node.2 ⟨rfl, rfl⟩
      exact ⟨rfl, hsayable.name, hlabelled, hlabelled⟩
    exact (Procedure.Alike.tell _).bind fun _ _ _ =>
      .pure ⟨⟨rfl, h.image, .some hhandle⟩, ⟨hsayable.name, hsayable.image, hsayable.path⟩⟩
  · rw [hc, hc']
    exact (Procedure.Alike.tell _).bind fun _ _ _ => .pure ⟨h, hsayable⟩

lemma address (h : b.Alike b') :
    Procedure.Alike BalancerError.Alike Eq b.address b'.address := by
  unfold Balancer.address
  refine h.attached.bind fun c c' hc => ?_
  have hask : Procedure.Alike (fun _ _ => True) Eq (Procedure.ask (.address c))
      (Procedure.ask (.address c')) :=
    .call (.address hc.name hc.plain) .none fun x x' hx => .done hx
  rw [h.cluster, hc.name]
  refine (alike_step _ _ _ hask).bind fun a a' ha => ?_
  cases ha
  split
  · exact .fail (.same _)
  · exact .pure rfl

lemma document (h : b.Alike b') (plan : Plan) (backends : BackendSet) :
    Procedure.Alike BalancerError.Alike Eq (b.document plan backends)
      (b'.document plan backends) := by
  unfold Balancer.document
  rw [h.cluster]
  split
  · exact (Procedure.Alike.tellAll _).bind fun _ _ _ => .pure rfl
  · exact .fail (.same _)

lemma update (h : b.Alike b') (hsayable : b.Sayable plan) :
    Procedure.Alike BalancerError.Alike Eq (b.update plan) (b'.update plan) := by
  unfold Balancer.update
  refine h.attached.bind fun c c' hc => ?_
  rw [h.cluster, hc.name]
  refine (alike_step _ _ _ (Cluster.alike_nodes .controlPlane hsayable.cluster)).bind
    fun nodes nodes' hnodes => ?_
  refine (Cluster.alike_resolve _ hnodes).bind fun backends _ hbackends => ?_
  cases hbackends
  refine (h.document plan backends).bind fun document _ hdocument => ?_
  cases hdocument
  have hwrite : Procedure.Alike (fun _ _ => True) Eq
      (Procedure.ask (.writeFile c plan.renderer.path document))
      (Procedure.ask (.writeFile c' plan.renderer.path document)) :=
    .call (.writeFile document hc.name hc.plain hsayable.path) .none fun x x' hx => .done hx
  have hreload : Procedure.Alike (fun _ _ => True) Eq (Procedure.ask (.reload c))
      (Procedure.ask (.reload c')) :=
    .call (.reload hc.name hc.plain) .none fun x x' hx => .done hx
  refine (Procedure.Alike.tell _).bind fun _ _ _ => ?_
  refine (alike_step _ _ _ hwrite).bind fun _ _ _ => ?_
  refine (alike_step _ _ _ hreload).bind fun _ _ _ => ?_
  exact (Procedure.Alike.tell _).bind fun _ _ _ => .pure rfl

lemma delete (h : b.Alike b') (hsayable : b.Sayable plan) :
    Procedure.Alike BalancerError.Alike (fun b b' => b.Alike b' ∧ b.Sayable plan) b.delete
      b'.delete := by
  unfold Balancer.delete
  rw [h.cluster]
  rcases h.container_cases with ⟨hc, hc'⟩ | ⟨c, c', hc, hc', halike⟩
  · rw [hc, hc']
    exact (Procedure.Alike.tell _).bind fun _ _ _ => .pure ⟨h, hsayable⟩
  · rw [hc, hc']
    dsimp only
    rw [halike.name]
    have hask : Procedure.Alike (fun _ _ => True) Eq (Procedure.ask (.delete c))
        (Procedure.ask (.delete c')) :=
      .call (.delete halike.name halike.plain) .none fun x x' hx => .done hx
    refine (Procedure.Alike.tell _).bind fun _ _ _ => ?_
    refine (alike_step _ _ _ hask).bind fun _ _ _ => ?_
    exact (Procedure.Alike.tell _).bind fun _ _ _ =>
      .pure ⟨⟨rfl, h.image, .none⟩, ⟨hsayable.name, hsayable.image, hsayable.path⟩⟩

/-- Tasks of balancers alike come out alike. -/
theorem perform (h : b.Alike b') (hsayable : b.Sayable plan) (task : Task) :
    Procedure.Alike BalancerError.Alike
      (fun r r' => (r.1.Alike r'.1 ∧ r.1.Sayable plan) ∧ r.2 = r'.2)
      (b.perform plan task) (b'.perform plan task) := by
  cases task with
  | create => exact (h.create hsayable).bind fun _ _ hb => .pure ⟨hb, rfl⟩
  | update =>
    exact (h.update hsayable).bind fun _ _ hr => .pure ⟨⟨h, hsayable⟩, congrArg Answer.rollout hr⟩
  | address =>
    exact h.address.bind fun _ _ ha => .pure ⟨⟨h, hsayable⟩, congrArg Answer.address ha⟩
  | delete => exact (h.delete hsayable).bind fun _ _ hb => .pure ⟨hb, rfl⟩
  | status => exact .pure ⟨⟨h, hsayable⟩, congrArg Answer.status h.status.symm⟩

end Alike

end Balancer

end ApiBalancer
