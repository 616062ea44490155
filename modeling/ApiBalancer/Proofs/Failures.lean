import ApiBalancer.Proofs.BalancerRun

/-!
# Failures

A task either achieves what it is to achieve (`Balancer.Achieves`), or it fails. Then it leaves the
balancer and the table of containers as they were, but for the document that an update has written
before its reload stopped, and the error tells whether there is one (`Balancer.Leaves`,
`Balancer.perform_exact`).
-/

namespace ApiBalancer

open Procedure

namespace Ending

variable {ε α : Type}

/-- The error with which a run has ended, or would end if it were cancelled. -/
def error? : Ending ε α → Option ε
  | .finished (.ok _) => none
  | .finished (.error e) => some e
  | .blocked ifCancelled => ifCancelled

lemma error?_map {β : Type} (e : Ending ε α) (f : α → β) : (e.map f).error? = e.error? := by
  cases e with
  | finished result => cases result <;> rfl
  | blocked ifCancelled => rfl

lemma Stopped.error_cases {cancelled : ε} {wrap : EngineError → ε} {e : Ending ε α}
    (h : e.Stopped cancelled wrap) :
    e.error? = some cancelled ∨ ∃ err, e.error? = some (wrap err) := by
  rcases h with rfl | rfl | ⟨err, rfl⟩
  · exact .inl rfl
  · exact .inl rfl
  · exact .inr ⟨err, rfl⟩

end Ending

/-- Whether an error tells of a reload that has stopped. -/
def BalancerError.atReload : BalancerError → Bool
  | .engine .reload _ _ _ | .cancelled .reload _ => true
  | _ => false

/-- Whether a run has not stopped in a reload. -/
def Ending.SparesReload {α : Type} (e : Ending BalancerError α) : Prop :=
  ∀ err, e.error? = some err → err.atReload = false

lemma Ending.Stopped.sparesReload {α : Type} {cancelled : BalancerError}
    {wrap : EngineError → BalancerError} {e : Ending BalancerError α}
    (h : e.Stopped cancelled wrap) (hcancelled : cancelled.atReload = false)
    (hwrap : ∀ err, (wrap err).atReload = false) : e.SparesReload := by
  intro err herr
  rcases h.error_cases with heq | ⟨cause, heq⟩
  · cases herr.symm.trans heq
    exact hcancelled
  · cases herr.symm.trans heq
    exact hwrap cause

lemma sparesReload_error {α : Type} {err : BalancerError} (h : err.atReload = false) :
    (Ending.finished (.error err) : Ending BalancerError α).SparesReload := by
  rintro _ ⟨⟩
  exact h

namespace Procedure

variable {ε α β : Type} {P : ε → Prop} {proc : Procedure ε α}

/-- Whether `P` holds of every error that a procedure can end with. -/
def Raises (P : ε → Prop) : Procedure ε α → Prop
  | done result => ∀ err, result = .error err → P err
  | report _ rest => rest.Raises P
  | call _ ifCancelled next => (∀ err, ifCancelled = some err → P err) ∧ ∀ x, (next x).Raises P

lemma raises_ok (a : α) : (done (.ok a) : Procedure ε α).Raises P := nofun

lemma raises_fail {err : ε} (h : P err) : (Procedure.fail err : Procedure ε α).Raises P := by
  rintro _ ⟨⟩
  exact h

lemma Raises.bind (h : proc.Raises P) {f : α → Procedure ε β} (hf : ∀ a, (f a).Raises P) :
    (proc.bind f).Raises P := by
  induction proc with
  | done result =>
    cases result with
    | ok a => exact hf a
    | error err => exact raises_fail (h err rfl)
  | report event rest ih => exact ih h
  | call request ifCancelled next ih => exact ⟨h.1, fun x => ih x (h.2 x)⟩

lemma raises_under {cancelled : ε} {wrap : EngineError → ε} (hcancelled : P cancelled)
    (hwrap : ∀ err, P (wrap err)) (proc : Procedure EngineError α) :
    (proc.under cancelled wrap).Raises P := by
  induction proc with
  | done result =>
    cases result with
    | ok a => exact raises_ok a
    | error err => exact raises_fail (hwrap err)
  | report event rest ih => exact ih
  | call request ifCancelled next ih =>
    refine ⟨?_, ih⟩
    rintro _ ⟨⟩
    exact hcancelled

lemma raises_tellAll (events : List Event) :
    (Procedure.tellAll events : Procedure ε Unit).Raises P := by
  induction events with
  | nil => exact raises_ok ()
  | cons event rest ih => exact ih

lemma Raises.run {σ : Type} {engine : Engine σ} {c : Cancellation} (h : proc.Raises P)
    (p : Progress σ) {err : ε} (herr : (proc.run engine c p).2.error? = some err) : P err := by
  induction proc generalizing p with
  | done result =>
    cases result with
    | ok a => cases herr
    | error err' =>
      cases herr
      exact h err rfl
  | report event rest ih => exact ih h _ herr
  | call request ifCancelled next ih =>
    obtain ⟨hcancelled, hnext⟩ := h
    cases ifCancelled with
    | none =>
      unfold Procedure.run at herr
      dsimp only at herr
      split at herr
      · exact ih _ (hnext _) _ herr
      · cases herr
    | some cancelled =>
      unfold Procedure.run at herr
      dsimp only at herr
      split at herr
      · cases herr
        exact hcancelled err rfl
      · split at herr
        · cases herr
          exact hcancelled err rfl
        · split at herr
          · exact ih _ (hnext _) _ herr
          · cases herr
            exact hcancelled err rfl

end Procedure

/-- Whatever stops the preparation of an update, it is no reload. -/
lemma Balancer.raises_prepare (plan : Plan) (b : Balancer) (c : Container) :
    (b.prepare plan c).Raises fun err => err.atReload = false := by
  let P (err : BalancerError) : Prop := err.atReload = false
  have hlist : ∀ work : Procedure EngineError (List Container),
      (Balancer.step .discoverNodes b.cluster c.name work).Raises P :=
    fun work => raises_under (P := P) rfl (fun _ => rfl) work
  have hresolve : ∀ nodes,
      (Cluster.resolveEach b.cluster Endpoint.controlPlanePort nodes).Raises P := by
    intro nodes
    induction nodes with
    | nil => exact raises_ok []
    | cons node rest ih =>
      have hask : ((Procedure.ask (.address node)).under (.cancelled .resolveNodes b.cluster)
          fun e => BalancerError.unresolved b.cluster node.name (some e)).Raises P :=
        raises_under (P := P) rfl (fun _ => rfl) _
      refine hask.bind fun address => ?_
      split
      · exact raises_fail rfl
      · exact ih.bind fun others => raises_ok _
  have hdocument : ∀ backends, (b.document plan backends).Raises P := by
    intro backends
    unfold Balancer.document
    split
    · exact (raises_tellAll _).bind fun _ => raises_ok _
    · exact raises_fail rfl
  refine (hlist _).bind fun nodes => ?_
  refine ((hresolve nodes).bind fun others => raises_ok _).bind fun backends => ?_
  exact (hdocument backends).bind fun document => raises_ok _

/-! ### What tasks do -/

namespace Inventory.CompleteDocument

variable {inv : Inventory} {plan : Plan} {cluster : String} {backends backends' : BackendSet}
  {document document' : ByteArray}

lemma backends_unique (h : inv.CompleteDocument plan cluster backends document)
    (h' : inv.CompleteDocument plan cluster backends' document') : backends = backends' := by
  have hget : ∀ name, backends.byName.get? name = backends'.byName.get? name := by
    intro name
    refine Option.ext fun endpoint => ?_
    exact (h.backends name endpoint).trans (h'.backends name endpoint).symm
  cases backends
  cases backends'
  exact congrArg BackendSet.mk (NameMap.ext_get? hget)

end Inventory.CompleteDocument

/-- What a container's entry becomes when a document is written. -/
def Entry.written (e : Entry) (plan : Plan) (document : ByteArray) : Entry :=
  { e with files := e.files.insert plan.renderer.path document }

namespace Balancer

variable {plan : Plan} {b b' : Balancer} {inv : Inventory} {task : Task} {answer : Answer}

/-- What a task that succeeds makes of the balancer and of the table, and its answer. -/
inductive Achieves (plan : Plan) (b : Balancer) (inv : Inventory) :
    Task → Balancer → Answer → NameMap Entry × Nat → Prop
  | alreadyCreated (c : Container) (attached : b.container = some c) :
    Achieves plan b inv .create b .done inv.table
  | created (absent : b.container = none) :
    Achieves plan b inv .create
      { b with container := some (.node b.containerName b.cluster .externalLoadBalancer) } .done
      (inv.entries.insert b.containerName
        ⟨.node b.containerName b.cluster .externalLoadBalancer,
          Inventory.createdAddress inv.created, ∅, []⟩, inv.created + 1)
  | updated (c : Container) (e₀ : Entry) (backends : BackendSet) (document : ByteArray)
    (attached : b.container = some c) (found : inv.entries.get? c.name = some e₀)
    (complete : inv.CompleteDocument plan b.cluster backends document) :
    Achieves plan b inv .update b (.rollout ⟨backends, document.size⟩)
      (inv.entries.insert c.name { e₀.written plan document with
        signals := e₀.signals ++ [.hangup] }, inv.created)
  | addressed (c : Container) (address : String) (attached : b.container = some c)
    (found : inv.addressOf? c.name = some address) :
    Achieves plan b inv .address b (.address address) inv.table
  | nothingToDelete (absent : b.container = none) :
    Achieves plan b inv .delete b .done inv.table
  | deleted (c : Container) (attached : b.container = some c) :
    Achieves plan b inv .delete { b with container := none } .done
      (inv.entries.erase c.name, inv.created)
  | reported : Achieves plan b inv .status b (.status b.status) inv.table

/-- What a task that fails leaves of the table: the document of an update in the attached container,
if the reload has stopped, and otherwise all as it was. -/
inductive Leaves {α : Type} (plan : Plan) (b : Balancer) (inv : Inventory) :
    Task → Ending BalancerError α → NameMap Entry × Nat → Prop
  | nothing (task : Task) (e : Ending BalancerError α) (before : e.SparesReload) :
    Leaves plan b inv task e inv.table
  | document {e : Ending BalancerError α} (c : Container) (e₀ : Entry) (backends : BackendSet)
    (document : ByteArray) (attached : b.container = some c)
    (found : inv.entries.get? c.name = some e₀)
    (complete : inv.CompleteDocument plan b.cluster backends document)
    (stopped : e.Stopped (.cancelled .reload b.cluster) (.engine .reload b.cluster c.name)) :
    Leaves plan b inv .update e (inv.entries.insert c.name (e₀.written plan document), inv.created)

variable {t : Token} {p q : Progress Inventory}

/-- Whether a run has achieved its task, or has failed and left what failed tasks leave. -/
def AchievesOrLeaves (plan : Plan) (b : Balancer) (inv : Inventory) (task : Task)
    (e : Ending BalancerError (Balancer × Answer)) (table : NameMap Entry × Nat) : Prop :=
  (∃ b' answer, e = .finished (.ok (b', answer)) ∧ b.Achieves plan inv task b' answer table) ∨
    e.Fails ∧ b.Leaves plan inv task e table

lemma Leaves.map {α β : Type} {e : Ending BalancerError α} {table : NameMap Entry × Nat}
    (h : b.Leaves plan inv task e table) (f : α → β) : b.Leaves plan inv task (e.map f) table := by
  cases h with
  | nothing _ _ before =>
    refine .nothing _ _ fun err herr => before err ?_
    rwa [Ending.error?_map] at herr
  | document c e₀ backends document attached found complete stopped =>
    exact .document c e₀ backends document attached found complete (stopped.map f)

/-- A task is carried out by an operation, whose value it passes on. -/
lemma achievesOrLeaves_bind {α : Type} {proc : Procedure BalancerError α} {f : α → Balancer × Answer}
    {e : Ending BalancerError (Balancer × Answer)}
    (h : (proc.bind fun a => done (.ok (f a))).run Inventory.engine t.1 p = (q, e))
    (hproc : ∀ e₁, proc.run Inventory.engine t.1 p = (q, e₁) →
      (∃ a, e₁ = .finished (.ok a) ∧
        b.Achieves plan p.engine task (f a).1 (f a).2 q.engine.table) ∨
      e₁.Fails ∧ b.Leaves plan p.engine task e₁ q.engine.table) :
    b.AchievesOrLeaves plan p.engine task e q.engine.table := by
  rw [run_bind_done] at h
  generalize hrun : proc.run Inventory.engine t.1 p = run at h
  obtain ⟨r, e₁⟩ := run
  cases h
  rcases hproc e₁ hrun with ⟨a, rfl, hachieves⟩ | ⟨hfails, hleaves⟩
  · exact .inl ⟨_, _, rfl, hachieves⟩
  · exact .inr ⟨hfails.map f, hleaves.map f⟩

lemma leaves_of_table {α : Type} {e : Ending BalancerError α} {table : NameMap Entry × Nat}
    (h : table = inv.table) (before : e.SparesReload) : b.Leaves plan inv task e table := by
  rw [h]
  exact .nothing task e before

lemma create_exact {e : Ending BalancerError Balancer}
    (h : b.create.run Inventory.engine t.1 p = (q, e)) :
    (∃ b', e = .finished (.ok b') ∧ b.Achieves plan p.engine .create b' .done q.engine.table) ∨
      e.Fails ∧ b.Leaves plan p.engine .create e q.engine.table := by
  unfold create at h
  cases hc : b.container with
  | some c =>
    rw [hc] at h
    cases h
    exact .inl ⟨b, rfl, .alreadyCreated c hc⟩
  | none =>
    rw [hc] at h
    rcases run_step t.2 h with ⟨c, r, hanswer, hr, h⟩ | ⟨htable, hstopped⟩
    · obtain ⟨-, rfl, htable⟩ := Inventory.create_ok hanswer
      rw [← hr] at htable
      have hachieves : b.Achieves plan p.engine .create
          { b with container := some (.node b.containerName b.cluster .externalLoadBalancer) }
          .done r.engine.table := by
        rw [htable]
        exact .created hc
      cases h
      exact .inl ⟨_, rfl, hachieves⟩
    · have hbefore := hstopped.sparesReload rfl fun _ => rfl
      exact .inr ⟨hstopped.fails, leaves_of_table htable hbefore⟩

lemma delete_exact {e : Ending BalancerError Balancer}
    (h : b.delete.run Inventory.engine t.1 p = (q, e)) :
    (∃ b', e = .finished (.ok b') ∧ b.Achieves plan p.engine .delete b' .done q.engine.table) ∨
      e.Fails ∧ b.Leaves plan p.engine .delete e q.engine.table := by
  unfold delete at h
  cases hc : b.container with
  | none =>
    rw [hc] at h
    cases h
    exact .inl ⟨b, rfl, .nothingToDelete hc⟩
  | some c =>
    rw [hc] at h
    rcases run_step t.2 h with ⟨_, r, hanswer, hr, h⟩ | ⟨htable, hstopped⟩
    · obtain ⟨-, htable⟩ := Inventory.delete_ok hanswer
      rw [← hr] at htable
      have hachieves : b.Achieves plan p.engine .delete { b with container := none } .done
          r.engine.table := by
        rw [htable]
        exact .deleted c hc
      cases h
      exact .inl ⟨_, rfl, hachieves⟩
    · have hbefore := hstopped.sparesReload rfl fun _ => rfl
      exact .inr ⟨hstopped.fails, leaves_of_table htable hbefore⟩

lemma address_exact {e : Ending BalancerError String}
    (h : b.address.run Inventory.engine t.1 p = (q, e)) :
    (∃ address, e = .finished (.ok address) ∧
      b.Achieves plan p.engine .address b (.address address) q.engine.table) ∨
      e.Fails ∧ b.Leaves plan p.engine .address e q.engine.table := by
  unfold address attached at h
  cases hc : b.container with
  | none =>
    rw [hc] at h
    cases h
    exact .inr ⟨fails_error _, .nothing _ _ (sparesReload_error rfl)⟩
  | some c =>
    rw [hc] at h
    rcases run_step t.2 h with ⟨address, r, hanswer, hr, h⟩ | ⟨htable, hstopped⟩
    · obtain ⟨hfound, htable⟩ := Inventory.address_ok hanswer
      rw [← hr] at htable
      have hachieves : b.Achieves plan p.engine .address b (.address address) r.engine.table := by
        rw [htable]
        exact .addressed c address hc hfound
      split at h
      · cases h
        exact .inr ⟨fails_error _, leaves_of_table htable (sparesReload_error rfl)⟩
      · cases h
        exact .inl ⟨address, rfl, hachieves⟩
    · have hbefore := hstopped.sparesReload rfl fun _ => rfl
      exact .inr ⟨hstopped.fails, leaves_of_table htable hbefore⟩

lemma update_exact (hkeyed : p.engine.Keyed) {e : Ending BalancerError Rollout}
    (h : (b.update plan).run Inventory.engine t.1 p = (q, e)) :
    (∃ rollout, e = .finished (.ok rollout) ∧
      b.Achieves plan p.engine .update b (.rollout rollout) q.engine.table) ∨
      e.Fails ∧ b.Leaves plan p.engine .update e q.engine.table := by
  cases hc : b.container with
  | none =>
    unfold update attached at h
    rw [hc] at h
    cases h
    exact .inr ⟨fails_error _, .nothing _ _ (sparesReload_error rfl)⟩
  | some c =>
    rw [update_eq_prepare hc] at h
    rcases of_run_bind h with ⟨r, ⟨backends, document⟩, hr, h⟩ | hfailed
    · obtain ⟨hsame, hcomplete⟩ := run_prepare hkeyed hr
      have hdocument := hcomplete backends document rfl
      have hentries : r.engine.entries = p.engine.entries := congrArg Prod.fst hsame
      have hcreated : r.engine.created = p.engine.created := congrArg Prod.snd hsame
      rcases run_publish h with ⟨e₀, he₀, ⟨rfl, htable⟩ | ⟨hstopped, htable⟩⟩ | ⟨htable, hstopped⟩
      · rw [hentries] at he₀ htable
        rw [htable, hcreated]
        exact .inl ⟨_, rfl, .updated c e₀ backends document hc he₀ hdocument⟩
      · rw [hentries] at he₀ htable
        rw [htable, hcreated]
        exact .inr ⟨hstopped.fails, .document c e₀ backends document hc he₀ hdocument hstopped⟩
      · have hbefore := hstopped.sparesReload rfl fun _ => rfl
        exact .inr ⟨hstopped.fails, leaves_of_table (htable.trans hsame) hbefore⟩
    · -- what stopped the preparation is no reload, so the error promises no document
      have hprepare (e₁ : Ending BalancerError (BackendSet × ByteArray))
          (h₁ : (b.prepare plan c).run Inventory.engine t.1 p = (q, e₁))
          (herror : e.error? = e₁.error?) : b.Leaves plan p.engine .update e q.engine.table := by
        refine leaves_of_table (run_prepare hkeyed h₁).1 fun err herr => ?_
        have hraised : ((b.prepare plan c).run Inventory.engine t.1 p).2.error? = some err := by
          rw [h₁, ← herror]
          exact herr
        exact (raises_prepare plan b c).run p hraised
      rcases hfailed with ⟨err, h₁, rfl⟩ | ⟨ifCancelled, h₁, rfl⟩
      · exact .inr ⟨fails_error _, hprepare _ h₁ rfl⟩
      · exact .inr ⟨fails_blocked _, hprepare _ h₁ rfl⟩

/-- A task achieves what it is to achieve, or it fails and leaves what failed tasks leave. -/
theorem perform_exact (hkeyed : p.engine.Keyed) {e : Ending BalancerError (Balancer × Answer)}
    (h : (b.perform plan task).run Inventory.engine t.1 p = (q, e)) :
    b.AchievesOrLeaves plan p.engine task e q.engine.table := by
  cases task with
  | create => exact achievesOrLeaves_bind h fun _ hrun => create_exact hrun
  | update => exact achievesOrLeaves_bind h fun _ hrun => update_exact hkeyed hrun
  | address => exact achievesOrLeaves_bind h fun _ hrun => address_exact hrun
  | delete => exact achievesOrLeaves_bind h fun _ hrun => delete_exact hrun
  | status =>
    cases h
    exact .inl ⟨b, .status b.status, rfl, .reported⟩

/-- What a task achieves is determined by balancer and table. -/
lemma Achieves.unique {b₁ b₂ : Balancer} {answer₁ answer₂ : Answer}
    {table₁ table₂ : NameMap Entry × Nat} (h₁ : b.Achieves plan inv task b₁ answer₁ table₁)
    (h₂ : b.Achieves plan inv task b₂ answer₂ table₂) :
    b₁ = b₂ ∧ answer₁ = answer₂ ∧ table₁ = table₂ := by
  cases h₁ with
  | alreadyCreated c attached =>
    cases h₂ with
    | alreadyCreated => exact ⟨rfl, rfl, rfl⟩
    | created absent => cases attached.symm.trans absent
  | created absent =>
    cases h₂ with
    | alreadyCreated c attached => cases attached.symm.trans absent
    | created => exact ⟨rfl, rfl, rfl⟩
  | updated c e₀ backends document attached found complete =>
    cases h₂ with
    | updated c' e₀' backends' document' attached' found' complete' =>
      cases attached.symm.trans attached'
      cases found.symm.trans found'
      have hbackends : backends = backends' := complete.backends_unique complete'
      have hdocument := complete.rendered
      rw [hbackends, complete'.rendered] at hdocument
      cases hdocument
      rw [hbackends]
      exact ⟨rfl, rfl, rfl⟩
  | addressed c address attached found =>
    cases h₂ with
    | addressed c' address' attached' found' =>
      cases attached.symm.trans attached'
      cases found.symm.trans found'
      exact ⟨rfl, rfl, rfl⟩
  | nothingToDelete absent =>
    cases h₂ with
    | nothingToDelete => exact ⟨rfl, rfl, rfl⟩
    | deleted c attached => cases attached.symm.trans absent
  | deleted c attached =>
    cases h₂ with
    | nothingToDelete absent => cases attached.symm.trans absent
    | deleted c' attached' =>
      cases attached.symm.trans attached'
      exact ⟨rfl, rfl, rfl⟩
  | reported =>
    cases h₂ with
    | reported => exact ⟨rfl, rfl, rfl⟩

end Balancer

end ApiBalancer
