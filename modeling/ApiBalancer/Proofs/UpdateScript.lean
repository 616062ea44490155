import ApiBalancer.Balancer.Basic
import ApiBalancer.Proofs.Transcript

/-!
# The script of an update

An update that nothing stands in the way of lists the control-plane nodes, looks up the address of
each in the order of their names, writes the document of all of them and has it read again.
`update_follows_script` says that every update, on every engine and under every cancellation, is
this script or breaks off in it, and that it succeeds exactly if it is the whole script.
-/

namespace ApiBalancer

open Procedure

namespace Exchange

/-- Whether work can go on after the exchange: the request was answered without an error, and with
an address if it asked for one. -/
def Succeeds : Exchange → Prop
  | ⟨.address _, some (.ok a)⟩ => a ≠ ""
  | ⟨_, some (.ok _)⟩ => True
  | _ => False

/-- The transcript `l` is the script up to some request. That request was not made, or it was and
has not succeeded. -/
def BreaksOff (l script : List Exchange) : Prop :=
  ∃ passed next rest, script = passed ++ next :: rest ∧ (∀ x ∈ passed, x.Succeeds) ∧
    (l = passed ∨ ∃ heard, l = passed ++ [⟨next.request, heard⟩] ∧
      ¬Succeeds ⟨next.request, heard⟩)

lemma not_succeeds_none (request : Request) : ¬Succeeds ⟨request, none⟩ := by
  cases request <;> exact id

lemma not_succeeds_error (request : Request) (e : EngineError) :
    ¬Succeeds ⟨request, some (.error e)⟩ := by
  cases request <;> exact id

lemma breaksOff_before (next : Exchange) (rest : List Exchange) :
    BreaksOff [] (next :: rest) :=
  ⟨[], next, rest, rfl, by simp, .inl rfl⟩

lemma breaksOff_at (next : Exchange) (rest : List Exchange) (heard)
    (h : ¬Succeeds ⟨next.request, heard⟩) :
    BreaksOff [⟨next.request, heard⟩] (next :: rest) :=
  ⟨[], next, rest, rfl, by simp, .inr ⟨heard, rfl, h⟩⟩

lemma BreaksOff.append_left {l script pre : List Exchange} (hpre : ∀ x ∈ pre, x.Succeeds)
    (h : BreaksOff l script) : BreaksOff (pre ++ l) (pre ++ script) := by
  obtain ⟨passed, next, rest, rfl, hpassed, hl⟩ := h
  refine ⟨pre ++ passed, next, rest, by simp, ?_, ?_⟩
  · intro x hx
    rcases List.mem_append.1 hx with hx | hx
    · exact hpre x hx
    · exact hpassed x hx
  · rcases hl with rfl | ⟨heard, rfl, hfail⟩
    · exact .inl rfl
    · exact .inr ⟨heard, by simp, hfail⟩

lemma BreaksOff.append_right {l script : List Exchange} (h : BreaksOff l script)
    (more : List Exchange) : BreaksOff l (script ++ more) := by
  obtain ⟨passed, next, rest, rfl, hpassed, hl⟩ := h
  exact ⟨passed, next, rest ++ more, by simp, hpassed, hl⟩

lemma BreaksOff.isPrefix {l script : List Exchange} (h : BreaksOff l script) :
    l.map (·.request) <+: script.map (·.request) := by
  obtain ⟨passed, next, rest, rfl, -, rfl | ⟨heard, rfl, -⟩⟩ := h
  · exact ⟨(next :: rest).map (·.request), by simp⟩
  · exact ⟨rest.map (·.request), by simp⟩

lemma BreaksOff.dropLast_isPrefix {l script : List Exchange} (h : BreaksOff l script) :
    l.dropLast <+: script := by
  obtain ⟨passed, next, rest, rfl, -, rfl | ⟨heard, rfl, -⟩⟩ := h
  · exact (List.dropLast_prefix _).trans (List.prefix_append _ _)
  · rw [List.dropLast_concat]
    exact List.prefix_append _ _

lemma BreaksOff.succeeds_of_mem_dropLast {l script : List Exchange} (h : BreaksOff l script)
    {x : Exchange} (hx : x ∈ l.dropLast) : x.Succeeds := by
  obtain ⟨passed, next, rest, rfl, hpassed, rfl | ⟨heard, rfl, -⟩⟩ := h
  · exact hpassed x (List.dropLast_subset _ hx)
  · rw [List.dropLast_concat] at hx
    exact hpassed x hx

/-- A transcript with the last request of a script holds all of the script before it. -/
lemma BreaksOff.dropLast_eq {l script : List Exchange} {last : Exchange}
    (h : BreaksOff l (script ++ [last])) (hmem : last.request ∈ l.map (·.request))
    (hnot : last.request ∉ script.map (·.request)) : l.dropLast = script := by
  obtain ⟨passed, next, rest, heq, -, hl⟩ := h
  rcases List.eq_nil_or_concat rest with rfl | ⟨rest, x, rfl⟩
  · have hsame : script ++ [last] = passed ++ [next] := heq
    obtain ⟨rfl, hnext⟩ := List.append_inj' hsame rfl
    cases hnext
    rcases hl with rfl | ⟨heard, rfl, -⟩
    · exact (hnot hmem).elim
    · exact List.dropLast_concat
  · have hsame : script ++ [last] = (passed ++ next :: rest) ++ [x] := by simpa using heq
    obtain ⟨rfl, -⟩ := List.append_inj' hsame rfl
    refine (hnot ?_).elim
    rcases hl with rfl | ⟨heard, rfl, -⟩
    · simp only [List.map_append, List.mem_append]
      exact .inl hmem
    · simpa using Or.imp_right Or.inl (by simpa using hmem)

/-- A transcript that breaks off in a script is not a successful run of the whole script. -/
lemma BreaksOff.not_whole {l script : List Exchange} (h : BreaksOff l script) :
    ¬(l = script ∧ ∀ x ∈ l, x.Succeeds) := by
  rintro ⟨heq, hall⟩
  obtain ⟨passed, next, rest, rfl, -, rfl | ⟨heard, rfl, hfail⟩⟩ := h
  · simp at heq
  · exact hfail (hall _ (by simp))

end Exchange

open Exchange

variable {σ ε α : Type}

/-- A request as a step: it succeeds, or the script breaks off there. -/
lemma talk_ask_under {request : Request} {cancelled : ε} {wrap : EngineError → ε}
    {l : List Exchange} {e : Ending ε request.Answer}
    (h : Talk ((ask request).under cancelled wrap) l e) :
    (∃ a, l = [ok request a] ∧ e = .finished (.ok a)) ∨
    (e.Fails ∧ ∀ a rest, BreaksOff l (ok request a :: rest)) := by
  unfold ask under at h
  cases h with
  | leftOut => exact .inr ⟨fails_error _, fun a rest => breaksOff_before _ rest⟩
  | givenUp =>
    exact .inr ⟨fails_error _, fun a rest => breaksOff_at (ok request a) rest _ (not_succeeds_none _)⟩
  | blocked =>
    exact .inr ⟨fails_blocked _,
      fun a rest => breaksOff_at (ok request a) rest _ (not_succeeds_none _)⟩
  | answered _ _ _ x h =>
    cases x with
    | ok a =>
      unfold under at h
      cases h
      exact .inl ⟨a, rfl, rfl⟩
    | error err =>
      unfold under at h
      cases h
      exact .inr ⟨fails_error _,
        fun a rest => breaksOff_at (ok request a) rest _ (not_succeeds_error _ _)⟩

namespace Cluster

lemma step_nodes (s : Step) (cluster container : String) (role : Role) :
    Balancer.step s cluster container (nodes cluster role) =
      ((ask (.list (.nodes cluster role))).under (.cancelled s cluster)
        fun e => .engine s cluster container e).bind fun found =>
          report (.nodesFound cluster role (sortByName found).length)
            (done (.ok (sortByName found))) :=
  under_bind _ _ _ _

lemma talk_controlPlane {cluster container : String} {l : List Exchange}
    {e : Ending BalancerError (List Container)}
    (h : Talk (Balancer.step .discoverNodes cluster container (controlPlane cluster)) l e) :
    (∃ found, l = [ok (.list (.nodes cluster .controlPlane)) found] ∧
      e = .finished (.ok (sortByName found))) ∨
    (e.Fails ∧ ∀ found rest,
      BreaksOff l (ok (.list (.nodes cluster .controlPlane)) found :: rest)) := by
  rw [controlPlane, step_nodes] at h
  rcases h.of_bind_or_fails with ⟨l₁, l₂, found, rfl, h₁, h₂⟩ | ⟨hfails, e₁, hfails₁, h₁⟩
  · rcases talk_ask_under h₁ with ⟨a, rfl, hfound⟩ | ⟨hfails, -⟩
    · cases hfound
      cases h₂ with
      | report _ h₂ =>
        cases h₂
        exact .inl ⟨found, rfl, rfl⟩
    · exact (hfails found rfl).elim
  · rcases talk_ask_under h₁ with ⟨a, -, hend⟩ | ⟨-, hbreaks⟩
    · exact (hfails₁ a hend).elim
    · exact .inr ⟨hfails, hbreaks⟩

/-- The exchanges that find the given addresses of some nodes. -/
def lookUps (nodes : List Container) (addresses : List String) : List Exchange :=
  List.zipWith (fun node address => ok (.address node) address) nodes addresses

/-- The backends of nodes with the given addresses. -/
def backendsAt (nodes : List Container) (addresses : List String) (port : UInt16) :
    List Backend :=
  List.zipWith (fun node address => .reachable node.name address port) nodes addresses

lemma succeeds_of_mem_lookUps {nodes : List Container} {addresses : List String}
    (h : ∀ a ∈ addresses, a ≠ "") {x : Exchange} (hx : x ∈ lookUps nodes addresses) :
    x.Succeeds := by
  unfold lookUps at hx
  rw [List.mem_iff_getElem] at hx
  obtain ⟨i, hi, rfl⟩ := hx
  rw [List.getElem_zipWith]
  exact h _ (List.getElem_mem _)

lemma talk_resolveEach {cluster : String} {port : UInt16} {nodes : List Container}
    {l : List Exchange} {e : Ending BalancerError (List Backend)}
    (h : Talk (resolveEach cluster port nodes) l e) :
    ∃ addresses : List String, addresses.length = nodes.length ∧
      ((∀ a ∈ addresses, a ≠ "") ∧ l = lookUps nodes addresses ∧
        e = .finished (.ok (backendsAt nodes addresses port)) ∨
      e.Fails ∧ BreaksOff l (lookUps nodes addresses)) := by
  induction nodes generalizing l e with
  | nil =>
    cases h
    exact ⟨[], rfl, .inl ⟨by simp, rfl, rfl⟩⟩
  | cons node rest ih =>
    have hjunk : (List.replicate (node :: rest).length "").length = (node :: rest).length :=
      List.length_replicate
    rw [resolveEach] at h
    rcases h.of_bind_or_fails with ⟨l₁, l₂, address, rfl, h₁, h₂⟩ | ⟨hfails, e₁, hfails₁, h₁⟩
    · rcases talk_ask_under h₁ with ⟨a, rfl, hend⟩ | ⟨hfails, -⟩
      · cases hend
        by_cases hempty : address = ""
        · subst hempty
          cases h₂
          refine ⟨_, hjunk, .inr ⟨fails_error _, ?_⟩⟩
          exact breaksOff_at (ok (.address node) "") _ (some (.ok "")) (fun h => h rfl)
        · have hsucceeds : ∀ x ∈ [ok (.address node) address], x.Succeeds := by
            intro x hx
            rw [List.mem_singleton.1 hx]
            exact hempty
          rw [if_neg (by simpa using hempty)] at h₂
          rcases h₂.of_bind_or_fails with
            ⟨l₃, l₄, others, rfl, h₃, h₄⟩ | ⟨hfails, e₃, hfails₃, h₃⟩
          · obtain ⟨addresses, hlen, ⟨hne, rfl, hend⟩ | ⟨hfails, -⟩⟩ := ih h₃
            · cases hend
              cases h₄
              refine ⟨address :: addresses, by simp [hlen], .inl ⟨?_, by simp [lookUps], rfl⟩⟩
              simpa using ⟨hempty, hne⟩
            · exact (hfails _ rfl).elim
          · obtain ⟨addresses, hlen, ⟨-, -, hend⟩ | ⟨-, hbreaks⟩⟩ := ih h₃
            · exact (hfails₃ _ hend).elim
            · exact ⟨address :: addresses, by simp [hlen],
                .inr ⟨hfails, hbreaks.append_left hsucceeds⟩⟩
      · exact (hfails address rfl).elim
    · rcases talk_ask_under h₁ with ⟨a, -, hend⟩ | ⟨-, hbreaks⟩
      · exact (hfails₁ a hend).elim
      · exact ⟨_, hjunk, .inr ⟨hfails, hbreaks _ _⟩⟩

end Cluster

/-! ### The whole update -/

/-- The answers that decide how an update goes on: the nodes that are listed, the addresses that
are found for them in the order of their names, and the document that is made of these. -/
structure UpdateScript where
  found : List Container
  addresses : List String
  document : ByteArray
  one_each : addresses.length = found.length

namespace UpdateScript

/-- The nodes, in the order in which they are looked up. -/
def nodes (s : UpdateScript) : List Container := Cluster.sortByName s.found

/-- The backends of all nodes. -/
def backends (s : UpdateScript) : BackendSet :=
  .ofList (Cluster.backendsAt s.nodes s.addresses Endpoint.controlPlanePort)

/-- What the script does before anything is written. -/
def discovery (s : UpdateScript) (cluster : String) : List Exchange :=
  ok (.list (.nodes cluster .controlPlane)) s.found :: Cluster.lookUps s.nodes s.addresses

/-- What the script does with the document and an attached container. -/
def publication (s : UpdateScript) (plan : Plan) (c : Container) : List Exchange :=
  [ok (.writeFile c plan.renderer.path s.document) (), ok (.reload c) ()]

/-- All that the script does. -/
def exchanges (s : UpdateScript) (plan : Plan) (cluster : String) (c : Container) :
    List Exchange :=
  s.discovery cluster ++ s.publication plan c

/-- Whether the document is the one that the plan's renderer makes of all nodes. -/
def Renders (s : UpdateScript) (plan : Plan) : Prop :=
  plan.renderer.render s.backends plan.options = .ok s.document

lemma succeeds_of_mem_discovery {s : UpdateScript} {cluster : String}
    (h : ∀ a ∈ s.addresses, a ≠ "") {x : Exchange} (hx : x ∈ s.discovery cluster) :
    x.Succeeds := by
  rcases List.mem_cons.1 hx with rfl | hx
  · trivial
  · exact Cluster.succeeds_of_mem_lookUps h hx

lemma succeeds_of_mem_exchanges {s : UpdateScript} {plan : Plan} {cluster : String}
    {c : Container} (h : ∀ a ∈ s.addresses, a ≠ "") {x : Exchange}
    (hx : x ∈ s.exchanges plan cluster c) : x.Succeeds := by
  rcases List.mem_append.1 hx with hx | hx
  · exact succeeds_of_mem_discovery h hx
  · rcases List.mem_cons.1 hx with rfl | hx
    · trivial
    · rw [List.mem_singleton.1 hx]
      trivial

end UpdateScript

lemma talk_tellAll_bind {events : List Event} {f : Unit → Procedure ε α} {l : List Exchange}
    {e : Ending ε α} (h : Talk ((tellAll events).bind f) l e) : Talk (f ()) l e := by
  induction events with
  | nil => exact h
  | cons event rest ih =>
    cases h with
    | report _ h => exact ih h

lemma talk_resolve {cluster : String} {port : UInt16} {nodes : List Container}
    {l : List Exchange} {e : Ending BalancerError BackendSet}
    (h : Talk (Cluster.resolve cluster nodes port) l e) :
    ∃ addresses : List String, addresses.length = nodes.length ∧
      ((∀ a ∈ addresses, a ≠ "") ∧ l = Cluster.lookUps nodes addresses ∧
        e = .finished (.ok (.ofList (Cluster.backendsAt nodes addresses port))) ∨
      e.Fails ∧ BreaksOff l (Cluster.lookUps nodes addresses)) := by
  rcases Talk.of_bind_or_fails h with
    ⟨l₁, l₂, backends, rfl, h₁, h₂⟩ | ⟨hfails, e₁, hfails₁, h₁⟩
  · obtain ⟨addresses, hlen, ⟨hne, rfl, hend⟩ | ⟨hfails, -⟩⟩ := Cluster.talk_resolveEach h₁
    · cases hend
      cases h₂
      exact ⟨addresses, hlen, .inl ⟨hne, by simp, rfl⟩⟩
    · exact (hfails _ rfl).elim
  · obtain ⟨addresses, hlen, ⟨-, -, hend⟩ | ⟨-, hbreaks⟩⟩ := Cluster.talk_resolveEach h₁
    · exact (hfails₁ _ hend).elim
    · exact ⟨addresses, hlen, .inr ⟨hfails, hbreaks⟩⟩

/-- What an update does once the document is made: it writes the document and has it read. -/
def Balancer.publish (plan : Plan) (b : Balancer) (c : Container) (backends : BackendSet)
    (document : ByteArray) : Procedure BalancerError Rollout := do
  tell (.updating b.cluster c.name backends.size plan.renderer.path)
  step .writeDocument b.cluster c.name (ask (.writeFile c plan.renderer.path document))
  step .reload b.cluster c.name (ask (.reload c))
  tell (.reloaded b.cluster backends.endpoints)
  return ⟨backends, document.size⟩

lemma update_eq_publish {b : Balancer} {c : Container} (hc : b.container = some c) (plan : Plan) :
    b.update plan =
      (Balancer.step .discoverNodes b.cluster c.name (Cluster.controlPlane b.cluster)).bind
        fun nodes => (Cluster.resolve b.cluster nodes Endpoint.controlPlanePort).bind
          fun backends => (b.document plan backends).bind
            fun document => b.publish plan c backends document := by
  unfold Balancer.update Balancer.attached
  rw [hc]
  rfl

lemma talk_document {plan : Plan} {b : Balancer} {backends : BackendSet} {l : List Exchange}
    {e : Ending BalancerError ByteArray} (h : Talk (b.document plan backends) l e) :
    l = [] ∧ ∀ document, e = .finished (.ok document) →
      plan.renderer.render backends plan.options = .ok document := by
  unfold Balancer.document at h
  split at h
  · next bytes hrender =>
    have hdone := talk_tellAll_bind h
    cases hdone
    exact ⟨rfl, by rintro document ⟨⟩; exact hrender⟩
  · cases h
    exact ⟨rfl, by rintro document ⟨⟩⟩

lemma talk_publish {plan : Plan} {b : Balancer} {c : Container} {backends : BackendSet}
    {document : ByteArray} {l : List Exchange} {e : Ending BalancerError Rollout}
    (h : Talk (b.publish plan c backends document) l e) :
    (l = [ok (.writeFile c plan.renderer.path document) (), ok (.reload c) ()] ∧
      e = .finished (.ok ⟨backends, document.size⟩)) ∨
    (e.Fails ∧
      BreaksOff l [ok (.writeFile c plan.renderer.path document) (), ok (.reload c) ()]) := by
  cases h with
  | report _ h =>
    simp only [pure_eq, bind_eq, done_ok_bind] at h
    rcases h.of_bind_or_fails with ⟨l₁, l', _, rfl, h₁, h'⟩ | ⟨hfails, e₁, hfails₁, h₁⟩
    · rcases talk_ask_under h₁ with ⟨a, rfl, -⟩ | ⟨hfails, -⟩
      · have hwrite : ∀ x ∈ [ok (.writeFile c plan.renderer.path document) a], x.Succeeds := by
          intro x hx
          rw [List.mem_singleton.1 hx]
          trivial
        rcases h'.of_bind_or_fails with ⟨l₂, l₃, _, rfl, h₂, h₃⟩ | ⟨hfails, e₂, hfails₂, h₂⟩
        · rcases talk_ask_under h₂ with ⟨_, rfl, -⟩ | ⟨hfails, -⟩
          · cases h₃ with
            | report _ h₃ =>
              cases h₃
              exact .inl ⟨rfl, rfl⟩
          · exact (hfails _ rfl).elim
        · rcases talk_ask_under h₂ with ⟨_, -, hend⟩ | ⟨-, hbreaks⟩
          · exact (hfails₂ _ hend).elim
          · exact .inr ⟨hfails, (hbreaks () []).append_left hwrite⟩
      · exact (hfails _ rfl).elim
    · rcases talk_ask_under h₁ with ⟨_, -, hend⟩ | ⟨-, hbreaks⟩
      · exact (hfails₁ _ hend).elim
      · exact .inr ⟨hfails, hbreaks () _⟩

lemma talk_update_detached {plan : Plan} {b : Balancer} (hc : b.container = none)
    {l : List Exchange} {e : Ending BalancerError Rollout} (h : Talk (b.update plan) l e) :
    l = [] ∧ e = .finished (.error (.notProvisioned b.cluster)) := by
  unfold Balancer.update Balancer.attached at h
  rw [hc] at h
  cases h
  exact ⟨rfl, rfl⟩

/-- How an update with an attached container goes: it is a whole script, or it breaks off in one,
and nothing is written unless the document was made. -/
lemma talk_update {plan : Plan} {b : Balancer} {c : Container} (hc : b.container = some c)
    {l : List Exchange} {e : Ending BalancerError Rollout} (h : Talk (b.update plan) l e) :
    ∃ s : UpdateScript,
      ((∀ x ∈ l, x.Succeeds) ∧ s.Renders plan ∧ l = s.exchanges plan b.cluster c ∧
        e = .finished (.ok ⟨s.backends, s.document.size⟩)) ∨
      (e.Fails ∧ BreaksOff l (s.exchanges plan b.cluster c) ∧
        (l.map (·.request) <+: (s.discovery b.cluster).map (·.request) ∨ s.Renders plan)) := by
  rw [update_eq_publish hc] at h
  rcases h.of_bind_or_fails with ⟨l₁, l', nodes, rfl, h₁, h'⟩ | ⟨hfails, e₁, hfails₁, h₁⟩
  · rcases Cluster.talk_controlPlane h₁ with ⟨found, rfl, hend⟩ | ⟨hfails, -⟩
    · cases hend
      have hlist : ∀ x ∈ [ok (.list (.nodes b.cluster .controlPlane)) found], x.Succeeds := by
        intro x hx
        rw [List.mem_singleton.1 hx]
        trivial
      have hone : ∀ addresses : List String,
          addresses.length = (Cluster.sortByName found).length →
          addresses.length = found.length := fun addresses h =>
        h.trans (Cluster.perm_sortByName found).length_eq
      rcases h'.of_bind_or_fails with ⟨l₂, l'', backends, rfl, h₂, h''⟩ | ⟨hfails, e₂, hfails₂, h₂⟩
      · obtain ⟨addresses, hlen, ⟨hne, rfl, hend⟩ | ⟨hfails, -⟩⟩ := talk_resolve h₂
        · cases hend
          rcases h''.of_bind_or_fails with
            ⟨l₃, l₄, document, rfl, h₃, h₄⟩ | ⟨hfails, e₃, hfails₃, h₃⟩
          · obtain ⟨rfl, hrender⟩ := talk_document h₃
            let s : UpdateScript := ⟨found, addresses, document, hone addresses hlen⟩
            refine ⟨s, ?_⟩
            rcases talk_publish h₄ with ⟨rfl, rfl⟩ | ⟨hfails, hbreaks⟩
            · exact .inl ⟨fun x hx => UpdateScript.succeeds_of_mem_exchanges (s := s) hne hx,
                hrender document rfl, rfl, rfl⟩
            · refine .inr ⟨hfails, ?_, .inr (hrender document rfl)⟩
              change BreaksOff (s.discovery b.cluster ++ l₄) (s.exchanges plan b.cluster c)
              exact hbreaks.append_left fun x hx => UpdateScript.succeeds_of_mem_discovery hne hx
          · obtain ⟨rfl, -⟩ := talk_document h₃
            let s : UpdateScript := ⟨found, addresses, .empty, hone addresses hlen⟩
            have hdiscovery : ∀ x ∈ s.discovery b.cluster, x.Succeeds := fun x hx =>
              UpdateScript.succeeds_of_mem_discovery hne hx
            have hbreaks : BreaksOff [] (s.publication plan c) := breaksOff_before _ _
            refine ⟨s, .inr ⟨hfails, ?_, .inl ⟨[], ?_⟩⟩⟩
            · change BreaksOff (s.discovery b.cluster ++ []) (s.exchanges plan b.cluster c)
              exact hbreaks.append_left hdiscovery
            · simp [s, UpdateScript.discovery, UpdateScript.nodes]
        · exact (hfails _ rfl).elim
      · obtain ⟨addresses, hlen, ⟨-, -, hend⟩ | ⟨-, hbreaks⟩⟩ := talk_resolve h₂
        · exact (hfails₂ _ hend).elim
        · refine ⟨⟨found, addresses, .empty, hone addresses hlen⟩, .inr ⟨hfails, ?_, .inl ?_⟩⟩
          · exact (hbreaks.append_left hlist).append_right _
          · exact (hbreaks.append_left hlist).isPrefix
    · exact (hfails _ rfl).elim
  · rcases Cluster.talk_controlPlane h₁ with ⟨found, -, hend⟩ | ⟨-, hbreaks⟩
    · exact (hfails₁ _ hend).elim
    · refine ⟨⟨[], [], .empty, rfl⟩, .inr ⟨hfails, ?_, .inl ?_⟩⟩
      · exact hbreaks [] _
      · exact (hbreaks [] []).isPrefix

lemma requests_lookUps {nodes : List Container} {addresses : List String}
    (h : addresses.length = nodes.length) :
    (Cluster.lookUps nodes addresses).map (·.request) = nodes.map .address := by
  induction nodes generalizing addresses with
  | nil => rfl
  | cons node rest ih =>
    cases addresses with
    | nil => cases h
    | cons address addresses => exact congrArg _ (ih (Nat.succ.inj h))

lemma requests_exchanges (s : UpdateScript) (plan : Plan) (cluster : String) (c : Container) :
    (s.exchanges plan cluster c).map (·.request) =
      .list (.nodes cluster .controlPlane) :: s.nodes.map .address ++
        [.writeFile c plan.renderer.path s.document, .reload c] := by
  have hlen : s.addresses.length = s.nodes.length :=
    s.one_each.trans (Cluster.perm_sortByName s.found).length_eq.symm
  simp [UpdateScript.exchanges, UpdateScript.discovery, UpdateScript.publication,
    requests_lookUps hlen, ok]

lemma mem_requests_exchanges {s : UpdateScript} {plan : Plan} {cluster : String} {c : Container}
    {request : Request} (h : request ∈ (s.exchanges plan cluster c).map (·.request)) :
    request ∈ (s.discovery cluster).map (·.request) ∨
      request = .writeFile c plan.renderer.path s.document ∨ request = .reload c := by
  simpa [UpdateScript.exchanges, UpdateScript.publication, ok] using h

lemma mem_requests_discovery {s : UpdateScript} {cluster : String} {request : Request}
    (h : request ∈ (s.discovery cluster).map (·.request)) :
    request = .list (.nodes cluster .controlPlane) ∨ ∃ node, request = .address node := by
  simp only [UpdateScript.discovery, Cluster.lookUps, List.map_cons, List.mem_cons] at h
  rcases h with rfl | h
  · exact .inl rfl
  · obtain ⟨x, hx, rfl⟩ := List.mem_map.1 h
    obtain ⟨i, hi, rfl⟩ := List.mem_iff_getElem.1 hx
    rw [List.getElem_zipWith]
    exact .inr ⟨_, rfl⟩

lemma writeFile_notMem_discovery {s : UpdateScript} {cluster : String} {c : Container}
    {path : String} {content : ByteArray} :
    Request.writeFile c path content ∉ (s.discovery cluster).map (·.request) := by
  intro hmem
  rcases mem_requests_discovery hmem with h | ⟨node, h⟩ <;> cases h

lemma reload_notMem_discovery {s : UpdateScript} {cluster : String} {c : Container} :
    Request.reload c ∉ (s.discovery cluster).map (·.request) := by
  intro hmem
  rcases mem_requests_discovery hmem with h | ⟨node, h⟩ <;> cases h

lemma exchanges_eq_concat (s : UpdateScript) (plan : Plan) (cluster : String) (c : Container) :
    s.exchanges plan cluster c = (s.discovery cluster ++
      [ok (.writeFile c plan.renderer.path s.document) ()]) ++ [ok (.reload c) ()] := by
  simp [UpdateScript.exchanges, UpdateScript.publication]

/-- The reload is the last request of a script. -/
lemma reload_notMem_before {s : UpdateScript} {plan : Plan} {cluster : String}
    {c c' : Container} :
    Request.reload c' ∉ (s.discovery cluster ++
      [ok (.writeFile c plan.renderer.path s.document) ()]).map (·.request) := by
  rw [List.map_append, List.mem_append]
  rintro (h | h)
  · exact reload_notMem_discovery h
  · cases List.mem_singleton.1 h

lemma writeFile_of_mem_exchanges {s : UpdateScript} {plan : Plan} {cluster path : String}
    {c c' : Container} {content : ByteArray}
    (h : .writeFile c' path content ∈ (s.exchanges plan cluster c).map (·.request)) :
    c' = c ∧ path = plan.renderer.path ∧ content = s.document := by
  rcases mem_requests_exchanges h with hmem | heq | heq
  · exact (writeFile_notMem_discovery hmem).elim
  · cases heq
    exact ⟨rfl, rfl, rfl⟩
  · cases heq

lemma reload_of_mem_exchanges {s : UpdateScript} {plan : Plan} {cluster : String}
    {c c' : Container} (h : .reload c' ∈ (s.exchanges plan cluster c).map (·.request)) :
    c' = c := by
  rcases mem_requests_exchanges h with hmem | heq | heq
  · exact (reload_notMem_discovery hmem).elim
  · cases heq
  · cases heq
    rfl

/-- The requests of an update, whatever the engine answers and whenever the cancellation fires.
Without an attached container there are none. With one they are a first part of a script: the
listing, the look-ups of all listed nodes in the order of their names, the writing and the reload,
which is recorded as the signal that it stands for. Each is made after everything before it has
succeeded, the document is made of all nodes, and the update succeeds exactly if it is the whole
script. -/
theorem update_follows_script (engine : Engine σ) (cancellation : Cancellation) (plan : Plan)
    (b : Balancer) (p : Progress σ) :
    let l := (b.update plan).transcript engine cancellation p
    let run := (b.update plan).run engine cancellation p
    run.1.made = p.made ++ l.map (·.request) ∧
    (b.container = none → l = [] ∧ run.2 = .finished (.error (.notProvisioned b.cluster))) ∧
    ∀ c, b.container = some c → ∃ s : UpdateScript,
      s.nodes.Perm s.found ∧ s.nodes.Pairwise (fun m n => m.name ≤ n.name) ∧
      l.map (·.request) <+: .list (.nodes b.cluster .controlPlane) :: s.nodes.map .address ++
        [.writeFile c plan.renderer.path s.document, .reload c] ∧
      (Request.reload c).call = .signal c.name .hangup ∧
      l.dropLast <+: s.exchanges plan b.cluster c ∧
      (∀ x ∈ l.dropLast, x.Succeeds) ∧
      (∀ c' path content, .writeFile c' path content ∈ l.map (·.request) →
        c' = c ∧ path = plan.renderer.path ∧
          plan.renderer.render s.backends plan.options = .ok content) ∧
      (∀ c', .reload c' ∈ l.map (·.request) →
        c' = c ∧ s.Renders plan ∧
          l.dropLast = s.discovery b.cluster ++
            [ok (.writeFile c plan.renderer.path s.document) ()]) ∧
      ∀ rollout, run.2 = .finished (.ok rollout) ↔
        l = s.exchanges plan b.cluster c ∧ (∀ x ∈ l, x.Succeeds) ∧
          rollout = ⟨s.backends, s.document.size⟩ := by
  intro l run
  have htalk : Talk (b.update plan) l run.2 := talk_run engine cancellation _ p
  refine ⟨made_run engine cancellation _ p, ?_, ?_⟩
  · exact fun hc => talk_update_detached hc htalk
  · intro c hc
    obtain ⟨s, hs⟩ := talk_update hc htalk
    have hfirsts : l.map (·.request) <+: (s.exchanges plan b.cluster c).map (·.request) := by
      rcases hs with ⟨-, -, hl, -⟩ | ⟨-, hbreaks, -⟩
      · exact hl ▸ List.prefix_rfl
      · exact hbreaks.isPrefix
    refine ⟨s, Cluster.perm_sortByName _, Cluster.pairwise_sortByName _, ?_, rfl, ?_, ?_, ?_, ?_, ?_⟩
    · rw [← requests_exchanges]
      exact hfirsts
    · rcases hs with ⟨-, -, hl, -⟩ | ⟨-, hbreaks, -⟩
      · rw [hl]
        exact List.dropLast_prefix _
      · exact hbreaks.dropLast_isPrefix
    · intro x hx
      rcases hs with ⟨hall, -⟩ | ⟨-, hbreaks, -⟩
      · exact hall x (List.dropLast_subset _ hx)
      · exact hbreaks.succeeds_of_mem_dropLast hx
    · intro c' path content hmem
      have hrenders : s.Renders plan := by
        rcases hs with ⟨-, hrenders, -⟩ | ⟨-, -, hfirst | hrenders⟩
        · exact hrenders
        · exact (writeFile_notMem_discovery (hfirst.subset hmem)).elim
        · exact hrenders
      obtain ⟨rfl, rfl, rfl⟩ := writeFile_of_mem_exchanges (hfirsts.subset hmem)
      exact ⟨rfl, rfl, hrenders⟩
    · intro c' hmem
      obtain rfl : c' = c := reload_of_mem_exchanges (hfirsts.subset hmem)
      rcases hs with ⟨-, hrenders, hl, -⟩ | ⟨-, hbreaks, hfirst | hrenders⟩
      · refine ⟨rfl, hrenders, ?_⟩
        rw [hl, exchanges_eq_concat, List.dropLast_concat]
      · exact (reload_notMem_discovery (hfirst.subset hmem)).elim
      · rw [exchanges_eq_concat] at hbreaks
        exact ⟨rfl, hrenders, hbreaks.dropLast_eq hmem reload_notMem_before⟩
    · intro rollout
      rcases hs with ⟨hall, -, hl, hend⟩ | ⟨hfails, hbreaks, -⟩
      · rw [hend]
        constructor
        · rintro ⟨⟩
          exact ⟨hl, hall, rfl⟩
        · rintro ⟨-, -, rfl⟩
          rfl
      · constructor
        · intro hend
          exact (hfails _ hend).elim
        · rintro ⟨hl, hall, -⟩
          exact (hbreaks.not_whole ⟨hl, hall⟩).elim

end ApiBalancer
