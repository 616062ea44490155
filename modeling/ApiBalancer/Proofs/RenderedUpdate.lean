import ApiBalancer.CommandLine.Run
import ApiBalancer.Proofs.DockerHost
import ApiBalancer.Proofs.InventoryRun
import ApiBalancer.Proofs.UpdateScript

/-!
# The document on show

The command that renders a document is given names and hosts in its arguments; an update asks the
engine for them. `CommandLine.render_shows_update` says that the two come to one document, or are
refused for one backend, if the engine knows what the arguments say.
-/

namespace ApiBalancer

open Procedure

variable {σ ε α β : Type}

lemma Procedure.run_bind_of_ok {engine : Engine σ} {c : Cancellation} {proc : Procedure ε α}
    {p r : Progress σ} {a : α} (h : proc.run engine c p = (r, .finished (.ok a)))
    (f : α → Procedure ε β) : (proc.bind f).run engine c p = (f a).run engine c r := by
  have hrun : (proc.bind f).run engine c p =
      (((proc.bind f).run engine c p).1, ((proc.bind f).run engine c p).2) := rfl
  rcases of_run_bind hrun with ⟨r', a', h₁, h₂⟩ | ⟨err, h₁, -⟩ | ⟨b, h₁, -⟩
  · rw [h] at h₁
    cases h₁
    exact h₂.symm
  · rw [h] at h₁
    cases h₁
  · rw [h] at h₁
    cases h₁

lemma run_ask_bind (engine : Engine σ) (request : Request) (cancelled : ε)
    (wrap : EngineError → ε) (f : request.Answer → Procedure ε α) (p : Progress σ) :
    (((ask request).under cancelled wrap).bind f).run engine .never p =
      let r := p.after request (engine.serve request p.engine)
      match (engine.serve request p.engine).answer with
      | some (.ok a) => (f a).run engine .never r
      | some (.error e) => (r, .finished (.error (wrap e)))
      | none => (r, .blocked (some cancelled)) := by
  simp only [ask, under, Procedure.bind, run, Cancellation.firedBefore, Cancellation.firesDuring,
    Bool.false_eq_true, if_false]
  rcases (engine.serve request p.engine).answer with _ | _ | a <;> rfl

lemma run_ask_of_answer {engine : Engine σ} {request : Request} {a : request.Answer}
    {p : Progress σ} (h : (engine.serve request p.engine).answer = some (.ok a)) (cancelled : ε)
    (wrap : EngineError → ε) :
    ((ask request).under cancelled wrap).run engine .never p =
      (p.after request (engine.serve request p.engine), .finished (.ok a)) := by
  simp only [ask, under, run, Cancellation.firedBefore, Cancellation.firesDuring,
    Bool.false_eq_true, if_false, h]

/-- The container, the path and the content of a request to write a file. -/
def Request.written? : Request → Option (Container × String × ByteArray)
  | .writeFile c path content => some (c, path, content)
  | _ => none

/-- The files that requests were made to write, oldest first. -/
def Progress.written (p : Progress σ) : List (Container × String × ByteArray) :=
  p.made.filterMap Request.written?

@[simp] lemma Progress.written_tell (p : Progress σ) (event : Event) :
    (p.tell event).written = p.written := rfl

@[simp] lemma Progress.written_tellAll (p : Progress σ) (events : List Event) :
    (p.tellAll events).written = p.written := rfl

lemma Progress.written_after (p : Progress σ) (request : Request) (reply : Reply σ request) :
    (p.after request reply).written = p.written ++ request.written?.toList := by
  cases h : request.written? <;> simp [Progress.written, Progress.after, h]

/-- The control-plane nodes of a cluster are those of the given names and addresses: as long as
`Good` holds of the engine's state, the engine lists them in some order, knows the address of each,
and `Good` still holds after it was asked. -/
structure Engine.Presents (engine : Engine σ) (Good : σ → Prop) (cluster : String)
    (nodes : List (String × String)) : Prop where
  lists : ∀ s, Good s → ∃ found : List Container,
    (found.map (·.name)).Perm (nodes.map (·.1)) ∧
      (engine.serve (.list (.nodes cluster .controlPlane)) s).answer = some (.ok found)
  locates : ∀ s (c : Container) address, Good s → (c.name, address) ∈ nodes →
    (engine.serve (.address c) s).answer = some (.ok address)
  list_keeps : ∀ s, Good s → Good (engine.serve (.list (.nodes cluster .controlPlane)) s).state
  address_keeps : ∀ s (c : Container), Good s → c.name ∈ nodes.map (·.1) →
    Good (engine.serve (.address c) s).state

namespace Engine.Presents

variable {engine : Engine σ} {Good : σ → Prop} {cluster : String} {nodes : List (String × String)}
  {p : Progress σ}

lemma run_controlPlane (h : engine.Presents Good cluster nodes) (container : String)
    (hp : Good p.engine) :
    ∃ (found : List Container) (r : Progress σ),
      (Balancer.step .discoverNodes cluster container (Cluster.controlPlane cluster)).run engine
          .never p = (r, .finished (.ok found)) ∧
        (found.map (·.name)).Perm (nodes.map (·.1)) ∧ Good r.engine ∧ r.written = p.written := by
  obtain ⟨found, hfound, hanswer⟩ := h.lists p.engine hp
  have hsorted : ((Cluster.sortByName found).map (·.name)).Perm (found.map (·.name)) :=
    (Cluster.perm_sortByName found).map _
  let listed := p.after _ (engine.serve (.list (.nodes cluster .controlPlane)) p.engine)
  refine ⟨Cluster.sortByName found,
    listed.tell (.nodesFound cluster .controlPlane (Cluster.sortByName found).length), ?_,
    hsorted.trans hfound, h.list_keeps p.engine hp, ?_⟩
  · rw [Cluster.controlPlane, Cluster.step_nodes, run_bind_of_ok (run_ask_of_answer hanswer _ _)]
    rfl
  · rw [Progress.written_tell, Progress.written_after]
    exact List.append_nil _

/-- The look-ups yield the backends of all nodes, in the order in which these are looked up. -/
lemma run_resolveEach (h : engine.Presents Good cluster nodes) {host : String → String}
    (hhost : ∀ n ∈ nodes, n.2 = host n.1) (hne : ∀ n ∈ nodes, n.2 ≠ "") (port : UInt16)
    {l : List Container} (hl : ∀ c ∈ l, c.name ∈ nodes.map (·.1)) (hp : Good p.engine) :
    ∃ r : Progress σ,
      (Cluster.resolveEach cluster port l).run engine .never p =
          (r, .finished (.ok (l.map fun c => .reachable c.name (host c.name) port))) ∧
        Good r.engine ∧ r.written = p.written := by
  induction l generalizing p with
  | nil => exact ⟨p, rfl, hp, rfl⟩
  | cons c l ih =>
    obtain ⟨hc, hl⟩ := List.forall_mem_cons.1 hl
    obtain ⟨n, hn, hname⟩ := List.mem_map.1 hc
    have hmem : (c.name, host c.name) ∈ nodes := by
      rw [← hname, ← hhost n hn]
      exact hn
    have hanswer := h.locates p.engine c _ hp hmem
    have hfound : (host c.name).isEmpty = false := by simpa using hne _ hmem
    obtain ⟨r, hrun, hr, hwritten⟩ :=
      ih (p := p.after (.address c) (engine.serve (.address c) p.engine)) hl
        (h.address_keeps p.engine c hp hc)
    refine ⟨r, ?_, hr, ?_⟩
    · rw [Cluster.resolveEach, bind_eq, run_bind_of_ok (run_ask_of_answer hanswer _ _), hfound,
        if_neg Bool.false_ne_true, bind_eq, run_bind_of_ok hrun]
      rfl
    · rw [hwritten, Progress.written_after]
      exact List.append_nil _

end Engine.Presents

/-- The backends of nodes with the given names and hosts. -/
def BackendSet.atControlPlane (nodes : List (String × String)) : BackendSet :=
  .ofList (nodes.map fun n => .reachable n.1 n.2 Endpoint.controlPlanePort)

lemma backendSet_of_perm {nodes : List (String × String)} {host : String → String}
    (hhost : ∀ n ∈ nodes, n.2 = host n.1) {l : List Container}
    (hl : (l.map (·.name)).Perm (nodes.map (·.1))) :
    BackendSet.ofList (l.map fun c => .reachable c.name (host c.name) Endpoint.controlPlanePort) =
      .atControlPlane nodes := by
  let endpoint := fun name => Endpoint.join (host name) Endpoint.controlPlanePort
  have hnodes : nodes.map (fun n => (n.1, Endpoint.join n.2 Endpoint.controlPlanePort)) =
      nodes.map fun n => (n.1, endpoint n.1) := by
    apply List.map_congr_left
    intro n hn
    rw [hhost n hn]
  unfold BackendSet.atControlPlane BackendSet.ofList
  simp only [List.map_map, Function.comp_def, Backend.reachable]
  rw [hnodes]
  congr 1
  apply NameMap.ext_get?
  intro name
  rw [NameMap.get?_ofList_map l Container.name endpoint,
    NameMap.get?_ofList_map nodes Prod.fst endpoint]
  simp only [hl.mem_iff]

lemma exists_value_of_nodup {nodes : List (String × String)} (h : (nodes.map (·.1)).Nodup) :
    ∃ host : String → String, ∀ n ∈ nodes, n.2 = host n.1 := by
  refine ⟨fun name => (nodes.lookup name).getD "", fun n hn => ?_⟩
  dsimp only
  rw [NameMap.lookup_of_nodup h hn, Option.getD_some]

namespace CommandLine

/-- The argument that gives a name and a host. -/
def backendArgument (node : String × String) : String := node.1 ++ "=" ++ node.2

/-- Whether an argument can give the name and the host: the name ends at the first equals sign. -/
structure Writable (node : String × String) : Prop where
  name : node.1 ≠ ""
  separable : '=' ∉ node.1.toList
  host : node.2 ≠ ""

lemma split_backendArgument {name : String} (h : '=' ∉ name.toList) (host : String) :
    (backendArgument (name, host)).toList.takeWhile (· != '=') = name.toList ∧
      (backendArgument (name, host)).toList.dropWhile (· != '=') = '=' :: host.toList := by
  have hname : ∀ c ∈ name.toList, (c != '=') = true := by
    intro c hc
    rw [bne_iff_ne]
    rintro rfl
    exact h hc
  constructor
  · simp [backendArgument, List.takeWhile_append_of_pos hname]
  · simp [backendArgument, List.dropWhile_append_of_pos hname]

lemma backendOf_backendArgument {node : String × String} (h : Writable node) :
    backendOf (backendArgument node) =
      .ok (.reachable node.1 node.2 Endpoint.controlPlanePort) := by
  obtain ⟨htake, hdrop⟩ := split_backendArgument h.separable node.2
  have hsides : (node.1.toList.isEmpty || node.2.toList.isEmpty) = false := by
    simp [h.name, h.host]
  simp only [backendOf, htake, hdrop, hsides, Bool.false_eq_true, if_false, String.ofList_toList]

lemma backendsOf_backendArgument {nodes : List (String × String)} (h : ∀ n ∈ nodes, Writable n) :
    backendsOf (nodes.map backendArgument) = .ok (.atControlPlane nodes) := by
  have hall : (nodes.map backendArgument).mapM backendOf =
      .ok (nodes.map fun n => .reachable n.1 n.2 Endpoint.controlPlanePort) := by
    induction nodes with
    | nil => rfl
    | cons n rest ih =>
      obtain ⟨hn, hrest⟩ := List.forall_mem_cons.1 h
      rw [List.map_cons, List.mapM_cons, backendOf_backendArgument hn, ih hrest]
      rfl
  rw [backendsOf, hall]
  rfl

end CommandLine

/-! ### Publishing -/

namespace Balancer

variable {engine : Engine σ}

/-- The given files have been written in the run, and no backend was refused at its end. -/
def Wrote (cluster : String) (files : List (Container × String × ByteArray))
    (run : Progress σ × Ending BalancerError α) : Prop :=
  run.1.written = files ∧ ∀ e, run.2 ≠ .finished (.error (.rejected cluster e))

lemma wrote_step {s : Step} {cluster container : String} {request : Request}
    {f : request.Answer → Procedure BalancerError α} {p : Progress σ}
    {files : List (Container × String × ByteArray)}
    (hfiles : (p.after request (engine.serve request p.engine)).written = files)
    (hf : ∀ a, Wrote cluster files
      ((f a).run engine .never (p.after request (engine.serve request p.engine)))) :
    Wrote cluster files
      (((step s cluster container (ask request)).bind f).run engine .never p) := by
  rw [step, run_ask_bind]
  rcases (engine.serve request p.engine).answer with _ | _ | a
  · exact ⟨hfiles, by rintro e ⟨⟩⟩
  · exact ⟨hfiles, by rintro e ⟨⟩⟩
  · exact hf a

lemma wrote_publish (engine : Engine σ) (plan : Plan) (b : Balancer) (c : Container)
    (backends : BackendSet) (document : ByteArray) (p : Progress σ) :
    Wrote b.cluster (p.written ++ [(c, plan.renderer.path, document)])
      ((b.publish plan c backends document).run engine .never p) := by
  let start := p.tell (.updating b.cluster c.name backends.size plan.renderer.path)
  let written := start.after _
    (engine.serve (.writeFile c plan.renderer.path document) start.engine)
  have hwritten : written.written = p.written ++ [(c, plan.renderer.path, document)] :=
    Progress.written_after start _ _
  have hreloaded : (written.after _ (engine.serve (.reload c) written.engine)).written =
      p.written ++ [(c, plan.renderer.path, document)] := by
    rw [← hwritten, Progress.written_after]
    exact List.append_nil _
  exact wrote_step (p := start) hwritten fun _ => wrote_step hreloaded fun _ =>
    ⟨hreloaded, by rintro e ⟨⟩⟩

/-- What an update comes to on an engine that knows the nodes: it writes the document of them, or
there is none. -/
lemma update_written {Good : σ → Prop} {b : Balancer} {c : Container}
    {nodes : List (String × String)} (hengine : engine.Presents Good b.cluster nodes)
    (hdistinct : (nodes.map (·.1)).Nodup) (hhosts : ∀ n ∈ nodes, n.2 ≠ "")
    (hattached : b.container = some c) (plan : Plan) {p : Progress σ} (hp : Good p.engine) :
    let run := (b.update plan).run engine .never p
    match plan.renderer.render (.atControlPlane nodes) plan.options with
    | .ok document => Wrote b.cluster (p.written ++ [(c, plan.renderer.path, document)]) run
    | .error e =>
      run.1.written = p.written ∧ run.2 = .finished (.error (.rejected b.cluster e)) := by
  intro run
  obtain ⟨host, hhost⟩ := exists_value_of_nodup hdistinct
  obtain ⟨found, r, hlist, hfound, hr, hwritten⟩ := hengine.run_controlPlane c.name hp
  have hnames : ∀ d ∈ found, d.name ∈ nodes.map (·.1) := fun d hd =>
    hfound.mem_iff.1 (List.mem_map_of_mem hd)
  obtain ⟨q, heach, -, hwritten'⟩ :=
    hengine.run_resolveEach hhost hhosts Endpoint.controlPlanePort hnames hr
  have hresolve : (Cluster.resolve b.cluster found Endpoint.controlPlanePort).run engine .never r =
      (q, .finished (.ok (.atControlPlane nodes))) := by
    rw [Cluster.resolve, bind_eq, run_bind_of_ok heach, backendSet_of_perm hhost hfound]
    rfl
  have hrun : run = ((b.document plan (.atControlPlane nodes)).bind fun document =>
      b.publish plan c (.atControlPlane nodes) document).run engine .never q := by
    dsimp only [run]
    rw [update_eq_publish hattached, run_bind_of_ok hlist, run_bind_of_ok hresolve]
  have hkept : q.written = p.written := hwritten'.trans hwritten
  cases hrender : plan.renderer.render (.atControlPlane nodes) plan.options with
  | ok document =>
    have hdocument : (b.document plan (.atControlPlane nodes)).run engine .never q =
        (q.tellAll (plan.renderer.events (.atControlPlane nodes) document),
          .finished (.ok document)) := by
      simp only [Balancer.document, hrender]
      exact run_tellAll_bind engine .never _ _ q
    rw [run_bind_of_ok hdocument] at hrun
    have hpublish := wrote_publish engine plan b c (.atControlPlane nodes) document
      (q.tellAll (plan.renderer.events (.atControlPlane nodes) document))
    rw [← hrun, Progress.written_tellAll, hkept] at hpublish
    exact hpublish
  | error e =>
    have hrefused : b.document plan (.atControlPlane nodes) = fail (.rejected b.cluster e) := by
      simp only [Balancer.document, hrender]
    rw [hrefused] at hrun
    rw [hrun]
    exact ⟨hkept, rfl⟩

end Balancer

namespace CommandLine

/-- Given the control-plane nodes of a balancer's cluster as arguments, in any order, the render
command shows what an update under the same settings writes. Either it prints a document, and the
update writes just this one, byte for byte; or it fails over a backend, and exactly then the update
is refused over the same backend, and writes nothing. -/
theorem render_shows_update {engine : Engine σ} {Good : σ → Prop} {b : Balancer} {c : Container}
    {nodes : List (String × String)} (hengine : engine.Presents Good b.cluster nodes)
    (hdistinct : (nodes.map (·.1)).Nodup) (hwritable : ∀ n ∈ nodes, Writable n)
    (hattached : b.container = some c) (settings : Settings) {p : Progress σ}
    (hp : Good p.engine) :
    let report := render settings (nodes.map backendArgument)
    let run := (b.update (.ofSettings settings)).run engine .never p
    run.1.written = p.written ++
        (if report.status = 0 then [(c, ProxyDocument.path, report.stdout.toUTF8)] else []) ∧
      (report.status ≠ 0 → ∃ e, report = .of (.error (.document e)) [] ∧
        run.2 = .finished (.error (.rejected b.cluster e))) ∧
      ∀ e, run.2 = .finished (.error (.rejected b.cluster e)) →
        report = .of (.error (.document e)) [] := by
  intro report run
  have hrun := Balancer.update_written hengine hdistinct (fun n hn => (hwritable n hn).host)
    hattached (.ofSettings settings) hp
  have hreport : report = match ProxyDocument.write (.atControlPlane nodes)
      (.ofSettings settings.document) with
    | .ok text => .of (.ok text)
        (Renderer.proxy.events (.atControlPlane nodes) text.toUTF8)
    | .error e => .of (.error (.document e)) [] := by
    dsimp only [report, render]
    rw [backendsOf_backendArgument hwritable]
    simp only [Renderer.proxy]
    cases ProxyDocument.write (.atControlPlane nodes) (.ofSettings settings.document) with
    | ok text => simp only [Except.map, Text.lossyText_toUTF8]
    | error e => rfl
  simp only [Plan.ofSettings, Renderer.proxy] at hrun
  cases hwrite : ProxyDocument.write (.atControlPlane nodes) (.ofSettings settings.document) with
  | ok text =>
    rw [hwrite] at hrun hreport
    obtain ⟨hwritten, haccepted⟩ := hrun
    rw [hreport]
    exact ⟨hwritten, fun h => (h rfl).elim, fun e he => (haccepted e he).elim⟩
  | error e =>
    rw [hwrite] at hrun hreport
    obtain ⟨hwritten, hrefused⟩ := hrun
    rw [hreport]
    refine ⟨hwritten.trans (List.append_nil _).symm, fun _ => ⟨e, rfl, hrefused⟩, fun e' he' => ?_⟩
    cases hrefused.symm.trans he'
    rfl

end CommandLine

namespace Inventory

/-- Whether nothing can fail, and the containers are those of a table. -/
structure Shows (entries : NameMap Entry) (inv : Inventory) : Prop where
  calm : inv.Calm
  locatable : inv.addressFaults = ∅
  entries : inv.entries = entries

lemma presents {entries : NameMap Entry} {cluster : String} {nodes : List (String × String)}
    (hlisted : ((({ entries } : Inventory).answering (.nodes cluster .controlPlane)).map
      (·.name)).Perm (nodes.map (·.1)))
    (hlocated : ∀ n ∈ nodes, ({ entries } : Inventory).addressOf? n.1 = some n.2) :
    engine.Presents (Shows entries) cluster nodes := by
  have hlocate : ∀ inv, Shows entries inv → ∀ c address, (c.name, address) ∈ nodes →
      work (.address c) (inv.record (.address c.name)) =
        (inv.record (.address c.name), .ok address) := by
    intro inv h c address hmem
    have hfault : (inv.record (.address c.name)).addressFaults.get? c.name = none := by
      change inv.addressFaults.get? c.name = none
      rw [h.locatable, NameMap.get?_empty]
    have haddress : (inv.record (.address c.name)).addressOf? c.name = some address := by
      rw [← hlocated _ hmem]
      simp only [addressOf?, record, h.entries]
    simp only [work, hfault, haddress]
  constructor
  · intro inv h
    refine ⟨_, hlisted, ?_⟩
    change (serve _ inv).answer = _
    rw [h.calm.serve]
    simp only [work, answering, record, h.entries]
  · intro inv c address h hmem
    change (serve _ inv).answer = _
    rw [h.calm.serve]
    exact congrArg (fun done => some done.2) (hlocate inv h c address hmem)
  · intro inv h
    change Shows entries (serve _ inv).state
    rw [h.calm.serve]
    exact ⟨⟨h.calm.faults, h.calm.stalled⟩, h.locatable, h.entries⟩
  · intro inv c h hmem
    obtain ⟨n, hn, hname⟩ := List.mem_map.1 hmem
    change Shows entries (serve _ inv).state
    rw [h.calm.serve]
    have hdone := congrArg Prod.fst (hlocate inv h c n.2 (hname ▸ hn))
    change Shows entries (work (.address c) (inv.record (.address c.name))).1
    rw [hdone]
    exact ⟨⟨h.calm.faults, h.calm.stalled⟩, h.locatable, h.entries⟩

end Inventory

namespace CommandLine

/-- Two nodes whose hosts hold the signs that separate arguments and endpoints. -/
def oddNodes : List (String × String) := [("cp2", "a=b"), ("cp", "fd00::2")]

/-- The nodes of a cluster, its balancer's container and a worker. -/
def oddInventory : Inventory :=
  (((({} : Inventory).add (.node "cp" "demo" .controlPlane) "fd00::2").add
    (.node "cp2" "demo" .controlPlane) "a=b").add
    (.node "demo-lb" "demo" .externalLoadBalancer) "172.18.0.9").add
    (.node "worker" "demo" .worker) "172.18.0.8"

theorem odd_nodes_rendered_as_updated :
    let c := Container.node "demo-lb" "demo" .externalLoadBalancer
    let b : Balancer := { cluster := "demo", image := "haproxy", container := some c }
    let settings : Settings := { document := { enableStats := false, ipv6 := true } }
    let p : Progress Inventory := { engine := oddInventory }
    let report := render settings (oddNodes.map backendArgument)
    let run := (b.update (.ofSettings settings)).run Inventory.engine .never p
    (Inventory.engine.Presents (Inventory.Shows oddInventory.entries) b.cluster oddNodes ∧
      (oddNodes.map (·.1)).Nodup ∧ (∀ n ∈ oddNodes, Writable n) ∧ b.container = some c ∧
      Inventory.Shows oddInventory.entries p.engine) ∧
    report.status = 0 ∧ run.1.written = [(c, ProxyDocument.path, report.stdout.toUTF8)] := by
  intro c b settings p report run
  have hengine : Inventory.engine.Presents (Inventory.Shows oddInventory.entries) b.cluster
      oddNodes := Inventory.presents (by decide +kernel) (by decide +kernel)
  have hdistinct : (oddNodes.map (·.1)).Nodup := by decide
  have hwritable : ∀ n ∈ oddNodes, Writable n := by
    intro n hn
    have hn : n = ("cp2", "a=b") ∨ n = ("cp", "fd00::2") := by simpa [oddNodes] using hn
    rcases hn with rfl | rfl <;> exact ⟨by decide, by decide, by decide⟩
  have hp : Inventory.Shows oddInventory.entries p.engine := ⟨⟨rfl, rfl⟩, rfl, rfl⟩
  have hstatus : report.status = 0 := by decide +kernel
  obtain ⟨hwritten, -, -⟩ := render_shows_update hengine hdistinct hwritable rfl settings hp
  rw [if_pos hstatus] at hwritten
  exact ⟨⟨hengine, hdistinct, hwritable, rfl, hp⟩, hstatus, hwritten⟩

end CommandLine

end ApiBalancer
