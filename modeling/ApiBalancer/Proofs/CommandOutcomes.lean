import ApiBalancer.Engine.Docker
import ApiBalancer.Proofs.ServedRequests
import Mathlib.Data.List.Forall2

/-!
# Commands that count as done

A command serves its request only if its process was started, took all of its input and exited
successfully: a `Process` is anything that such a process can do, and `Docker.output_ok_iff` says
which of its doings count. `Docker.reload_needs_done_commands` carries this over to updates: a
reload is asked for exactly if every command before it counts as done, every address could be read,
and there is a document of all nodes.
-/

namespace ApiBalancer

open Procedure

variable {σ ε α : Type}

/-- What a process does that was started for a command. -/
structure Process where
  /-- The number of bytes after which the pipe to the process breaks, and how, if it ever does. -/
  breaks : Option (Nat × OsError) := none
  status : ExitStatus
  stdout : ByteArray := .empty
  stderr : ByteArray := .empty

namespace Process

/-- Whether all of an input can be written to the process. -/
def Takes (p : Process) (content : ByteArray) : Prop :=
  ∀ n cause, p.breaks = some (n, cause) → content.size ≤ n

/-- What the process is sent of an input. -/
def received (p : Process) (content : ByteArray) : ByteArray :=
  match p.breaks with
  | some (n, _) => content.extract 0 n
  | none => content

/-- Why the process was not sent all of its input. -/
def inputFault (p : Process) : Option ByteArray → Option OsError
  | none => none
  | some content =>
    match p.breaks with
    | some (n, cause) => if n < content.size then some cause else none
    | none => none

variable {p : Process} {content : ByteArray}

lemma inputFault_eq_none {input : Option ByteArray} :
    p.inputFault input = none ↔ ∀ content ∈ input, p.Takes content := by
  unfold inputFault Takes
  cases input with
  | none => simp
  | some content =>
    cases p.breaks with
    | none => simp
    | some broken =>
      obtain ⟨n, cause⟩ := broken
      simp

lemma inputFault_of_lt {n : Nat} {cause : OsError} (hbreaks : p.breaks = some (n, cause))
    (h : n < content.size) : p.inputFault (some content) = some cause := by
  unfold inputFault
  rw [hbreaks]
  exact if_pos h

lemma Takes.received_eq (h : p.Takes content) : p.received content = content := by
  unfold received
  split
  · next n cause hbreaks =>
    have hsize : content.data.size ≤ n := h n cause hbreaks
    apply ByteArray.ext
    rw [ByteArray.data_extract]
    exact Array.extract_eq_self_of_le hsize
  · rfl

end Process

/-- What comes of starting a process for a command. -/
inductive Conduct where
  | refused (cause : OsError)
  | ran (process : Process)
  /-- The process was started, but it could not be waited for or its output not be read. -/
  | lost (cause : OsError)
  /-- The process never ends. -/
  | hangs

namespace Conduct

/-- What comes of a command with an input. -/
def outcome (input : Option ByteArray) : Conduct → Outcome
  | refused cause => .notStarted cause
  | ran p => .ended p.status p.stdout p.stderr (p.inputFault input)
  | lost cause => .lost cause
  | hangs => .running

/-- Whether a process was started, exited successfully and was sent all of its input. -/
def Succeeds (input : Option ByteArray) (conduct : Conduct) : Prop :=
  ∃ p, conduct = ran p ∧ p.status.isSuccess = true ∧ ∀ content ∈ input, p.Takes content

/-- A host on which processes do as `behave` has it. It keeps account of the commands that it was
given, and of what came of each. -/
def host (behave : Invocation → σ → σ × Conduct) : Host (σ × List (Invocation × Conduct)) where
  launch i s :=
    let (state, conduct) := behave i s.1
    ((state, s.2 ++ [(i, conduct)]), conduct.outcome i.input)

end Conduct

namespace Docker

variable {line : String} {input : Option ByteArray}

lemma output_ok_iff {conduct : Conduct} :
    (∃ text, output line (conduct.outcome input) = some (.ok text)) ↔ conduct.Succeeds input := by
  cases conduct with
  | refused cause | lost cause | hangs =>
    refine ⟨fun ⟨text, h⟩ => ?_, fun ⟨p, h, _⟩ => ?_⟩ <;> cases h
  | ran p =>
    simp only [Conduct.outcome, output]
    constructor
    · rintro ⟨text, h⟩
      split at h
      · next hsuccess =>
        split at h
        · cases h
        · next hfault => exact ⟨p, rfl, hsuccess, Process.inputFault_eq_none.1 hfault⟩
      · cases h
    · rintro ⟨_, ⟨⟩, hsuccess, htakes⟩
      rw [if_pos hsuccess, Process.inputFault_eq_none.2 htakes]
      exact ⟨_, rfl⟩

lemma output_ran {p : Process} (hsuccess : p.status.isSuccess = true)
    (htakes : ∀ content ∈ input, p.Takes content) :
    output line ((Conduct.ran p).outcome input) = some (.ok (Text.lossyText p.stdout)) := by
  simp only [Conduct.outcome, output]
  rw [if_pos hsuccess, Process.inputFault_eq_none.2 htakes]

lemma output_failed {p : Process} (h : p.status.isSuccess = false) :
    output line ((Conduct.ran p).outcome input) =
      some (.error (.exited line p.status.text (Text.trimmed (Text.lossyText p.stderr)))) := by
  simp only [Conduct.outcome, output]
  rw [h]
  rfl

lemma output_broken {p : Process} {content : ByteArray} {n : Nat} {cause : OsError}
    (hsuccess : p.status.isSuccess = true) (hbreaks : p.breaks = some (n, cause))
    (h : n < content.size) :
    output line ((Conduct.ran p).outcome (some content)) = some (.error (.spawn line cause)) := by
  simp only [Conduct.outcome, output]
  rw [if_pos hsuccess, Process.inputFault_of_lt hbreaks h]

end Docker

/-- A request with what came of starting a process for it. -/
structure Attempt where
  request : Request
  conduct : Conduct

namespace Attempt

/-- The command of an attempt, with what came of it. -/
def command (d : Docker) (a : Attempt) : Invocation × Conduct := (d.invocation a.request, a.conduct)

/-- What is heard of an attempt. -/
def exchange (d : Docker) (a : Attempt) : Exchange where
  request := a.request
  heard := (Docker.output (d.invocation a.request).line
    (a.conduct.outcome (Docker.input a.request))).map fun result =>
      result.bind (d.answer? a.request)

/-- The address that an attempt to look one up has printed. -/
def address? (d : Docker) (a : Attempt) : Option String :=
  match a.request, a.conduct with
  | .address _, .ran p => Docker.address? d.ipv6 (Text.lossyText p.stdout)
  | _, _ => none

/-- Whether an attempt counts as done, with an address that is not empty if it is to look one up. -/
structure Works (d : Docker) (a : Attempt) : Prop where
  succeeds : a.conduct.Succeeds (Docker.input a.request)
  address : ∀ node, a.request = .address node →
    ∃ address, a.address? d = some address ∧ address ≠ ""

/-- The control-plane backend of a node whose address an attempt has looked up. -/
def backend? (d : Docker) (a : Attempt) : Option Backend :=
  match a.request with
  | .address node => (a.address? d).map (Backend.reachable node.name · Endpoint.controlPlanePort)
  | _ => none

/-- The backends of all nodes whose addresses were looked up. -/
def backends (d : Docker) (attempts : List Attempt) : BackendSet :=
  .ofList (attempts.filterMap (backend? d))

variable {d : Docker} {a : Attempt} {attempts : List Attempt} {l : List Exchange}

lemma exchange_ran {request : Request} {p : Process} (hsuccess : p.status.isSuccess = true)
    (htakes : ∀ content ∈ Docker.input request, p.Takes content) :
    exchange d ⟨request, .ran p⟩ =
      ⟨request, some (d.answer? request (Text.lossyText p.stdout))⟩ := by
  have houtput : Docker.output (d.invocation request).line
      ((Conduct.ran p).outcome (Docker.input request)) = some (.ok (Text.lossyText p.stdout)) :=
    Docker.output_ran hsuccess htakes
  rw [exchange, houtput]
  rfl

lemma succeeds_of_heard {answer : a.request.Answer}
    (h : (a.exchange d).heard = some (.ok answer)) :
    a.conduct.Succeeds (Docker.input a.request) := by
  obtain ⟨result, houtput, hresult⟩ := Option.map_eq_some_iff.1 h
  cases result with
  | error e => cases hresult
  | ok text => exact Docker.output_ok_iff.1 ⟨text, houtput⟩

lemma succeeds_exchange : (a.exchange d).Succeeds ↔ a.Works d := by
  constructor
  · intro h
    obtain ⟨answer, hanswer⟩ := h.heard
    have hsucceeds := succeeds_of_heard hanswer
    refine ⟨hsucceeds, fun node hnode => ?_⟩
    obtain ⟨request, conduct⟩ := a
    obtain ⟨p, rfl, hsuccess, htakes⟩ := hsucceeds
    subst hnode
    rw [exchange_ran hsuccess htakes] at h
    simp only [address?, Docker.answer?] at h ⊢
    cases hread : Docker.address? d.ipv6 (Text.lossyText p.stdout) with
    | none =>
      rw [hread] at h
      exact h.elim
    | some address =>
      rw [hread] at h
      exact ⟨address, rfl, h⟩
  · rintro ⟨hsucceeds, haddress⟩
    obtain ⟨request, conduct⟩ := a
    obtain ⟨p, rfl, hsuccess, htakes⟩ := hsucceeds
    rw [exchange_ran hsuccess htakes]
    cases request with
    | address node =>
      obtain ⟨address, hread, hne⟩ := haddress node rfl
      simp only [address?] at hread
      simp only [Docker.answer?, hread]
      exact hne
    | create | list | writeFile | signal | reload | delete => trivial

lemma backend?_exchange (h : a.Works d) : (a.exchange d).backend? = a.backend? d := by
  obtain ⟨hsucceeds, haddress⟩ := h
  obtain ⟨request, conduct⟩ := a
  obtain ⟨p, rfl, hsuccess, htakes⟩ := hsucceeds
  rw [exchange_ran hsuccess htakes]
  cases request with
  | address node =>
    obtain ⟨address, hread, -⟩ := haddress node rfl
    simp only [address?] at hread
    simp only [Docker.answer?, backend?, address?, hread]
    rfl
  | create | list | writeFile | signal | reload | delete => rfl

end Attempt

/-- On a host that keeps account of its commands, a run makes one attempt for each request, and
hears what came of it unless it is cancelled. -/
lemma Procedure.attempts_run (d : Docker) (behave : Invocation → σ → σ × Conduct)
    (c : Cancellation) (proc : Procedure ε α) (p : Progress (σ × List (Invocation × Conduct))) :
    let engine := d.engine (Conduct.host behave)
    let run := proc.run engine c p
    ∃ attempts : List Attempt, run.1.made = p.made ++ attempts.map (·.request) ∧
      run.1.engine.2 = p.engine.2 ++ attempts.map (·.command d) ∧
      List.Forall₂ (fun a x => x = a.exchange d ∨ x = ⟨a.request, none⟩ ∧ c ≠ .never) attempts
        (proc.transcript engine c p) := by
  intro engine run
  induction proc generalizing p with
  | done result => exact ⟨[], by simp [run, Procedure.run], by simp [run, Procedure.run], .nil⟩
  | report event rest ih => exact ih (p.tell event)
  | call request ifCancelled next ih =>
    let a : Attempt := ⟨request, (behave (d.invocation request) p.engine.1).2⟩
    let reply := engine.serve request p.engine
    have hstate : reply.state.2 = p.engine.2 ++ [a.command d] := rfl
    have hheard : a.exchange d = ⟨request, reply.answer⟩ := rfl
    rcases call_cases engine c request ifCancelled next p with
      ⟨-, hlist, hrun⟩ | ⟨hwhy, hlist, hrun⟩ | ⟨x, hanswer, hlist, hrun⟩
    · refine ⟨[], ?_, ?_, ?_⟩
      · rw [show run.1 = _ from hrun]
        simp
      · rw [show run.1 = _ from hrun]
        simp
      · rw [hlist]
        exact .nil
    · refine ⟨[a], ?_, ?_, ?_⟩
      · rw [show run.1 = _ from hrun]
        rfl
      · rw [show run.1 = _ from hrun]
        exact hstate
      · rw [hlist]
        refine .cons ?_ .nil
        rcases hwhy with hduring | hnone
        · refine .inr ⟨rfl, ?_⟩
          rintro rfl
          cases hduring
        · exact .inl (by rw [hheard, hnone])
    · obtain ⟨attempts, hmade, hlog, hgives⟩ := ih x (p.after request reply)
      refine ⟨a :: attempts, ?_, ?_, ?_⟩
      · rw [show run = _ from hrun, hmade]
        simp [Progress.after, a]
      · rw [show run = _ from hrun, hlog]
        simp [Progress.after, hstate]
      · rw [hlist]
        exact .cons (.inl (by rw [hheard, hanswer])) hgives

/-! ### Reloads -/

variable {plan : Plan} {b : Balancer} {c : Container} {l : List Exchange}
  {e : Ending BalancerError Rollout}

lemma requests_update (hc : b.container = some c) (h : Talk (b.update plan) l e) :
    ∃ s : UpdateScript,
      l.map (·.request) <+: (s.exchanges plan b.cluster c).map (·.request) := by
  obtain ⟨s, ⟨-, -, rfl, -⟩ | ⟨-, hbreaks, -⟩⟩ := talk_update hc h
  · exact ⟨s, List.prefix_rfl⟩
  · exact ⟨s, hbreaks.isPrefix⟩

/-- A reload is the last request of an update, after everything else has succeeded, the writing of
the document of all nodes last. -/
lemma talk_update_reload (hc : b.container = some c) (h : Talk (b.update plan) l e)
    (hreload : .reload c ∈ l.map (·.request)) :
    ∃ before last document,
      l = before ++ [.ok (.writeFile c plan.renderer.path document) (), last] ∧
      last.request = .reload c ∧ (∀ x ∈ before, x.Succeeds) ∧
      plan.renderer.render (Exchange.backends before) plan.options = .ok document := by
  have hbackends : ∀ s : UpdateScript, Exchange.backends (s.discovery b.cluster) = s.backends := by
    intro s
    have hlength : s.addresses.length = s.nodes.length :=
      s.one_each.trans (Cluster.perm_sortByName s.found).length_eq.symm
    have hlookUps := Cluster.backends_lookUps hlength
    unfold Exchange.backends UpdateScript.discovery UpdateScript.backends
    rw [List.filterMap_cons, hlookUps]
    rfl
  obtain ⟨s, ⟨hall, hrenders, rfl, -⟩ | ⟨-, hbreaks, hmade⟩⟩ := talk_update hc h
  · refine ⟨s.discovery b.cluster, .ok (.reload c) (), s.document, rfl, rfl, fun x hx => ?_, ?_⟩
    · exact hall x (List.mem_append_left _ hx)
    · rw [hbackends]
      exact hrenders
  · have hrenders : s.Renders plan := hmade.resolve_left fun hfirst =>
      reload_notMem_discovery (hfirst.subset hreload)
    rw [exchanges_eq_concat] at hbreaks
    have hdrop := hbreaks.dropLast_eq hreload reload_notMem_before
    have hne : l ≠ [] := by
      rintro rfl
      cases hreload
    have hl := List.dropLast_concat_getLast hne
    rw [hdrop] at hl
    have hlast : (l.getLast hne).request = .reload c := by
      rw [← hl, List.map_append, List.mem_append] at hreload
      exact (List.mem_singleton.1 (hreload.resolve_left reload_notMem_before)).symm
    refine ⟨s.discovery b.cluster, l.getLast hne, s.document, ?_, hlast, fun x hx => ?_, ?_⟩
    · rw [List.append_assoc] at hl
      exact hl.symm
    · exact hbreaks.succeeds_of_mem_dropLast (by rw [hdrop]; exact List.mem_append_left _ hx)
    · rw [hbackends]
      exact hrenders

namespace Attempt

variable {d : Docker} {cancellation : Cancellation} {attempts : List Attempt}

/-- Whether a transcript is what is heard of some attempts, under a cancellation. -/
def Heard (d : Docker) (cancellation : Cancellation) : List Attempt → List Exchange → Prop :=
  List.Forall₂ fun a x => x = a.exchange d ∨ x = ⟨a.request, none⟩ ∧ cancellation ≠ .never

lemma Heard.requests (h : Heard d cancellation attempts l) :
    l.map (·.request) = attempts.map (·.request) := by
  induction h with
  | nil => rfl
  | cons hx _ ih =>
    rw [List.map_cons, List.map_cons, ih]
    rcases hx with rfl | ⟨rfl, -⟩ <;> rfl

lemma Heard.works (h : Heard d cancellation attempts l) (hsucceeds : ∀ x ∈ l, x.Succeeds) :
    (∀ a ∈ attempts, a.Works d) ∧ Exchange.backends l = backends d attempts := by
  have hfirst : ∀ {a : Attempt} {x : Exchange}, x.Succeeds →
      (x = a.exchange d ∨ x = ⟨a.request, none⟩ ∧ cancellation ≠ .never) →
      x = a.exchange d ∧ a.Works d := by
    rintro a x hx (rfl | ⟨rfl, -⟩)
    · exact ⟨rfl, succeeds_exchange.1 hx⟩
    · exact (Exchange.not_succeeds_none _ hx).elim
  have hall : (∀ a ∈ attempts, a.Works d) ∧
      l.filterMap Exchange.backend? = attempts.filterMap (backend? d) := by
    induction h with
    | nil => exact ⟨nofun, rfl⟩
    | cons hx _ ih =>
      obtain ⟨rfl, hworks⟩ := hfirst (hsucceeds _ List.mem_cons_self) hx
      obtain ⟨hrest, hbackends⟩ := ih fun y hy => hsucceeds y (List.mem_cons_of_mem _ hy)
      refine ⟨fun a ha => ?_, ?_⟩
      · rcases List.mem_cons.1 ha with rfl | ha
        · exact hworks
        · exact hrest a ha
      · rw [List.filterMap_cons, List.filterMap_cons, backend?_exchange hworks, hbackends]
  exact ⟨hall.1, congrArg BackendSet.ofList hall.2⟩

lemma Heard.eq_map (h : Heard d .never attempts l) : l = attempts.map (·.exchange d) := by
  induction h with
  | nil => rfl
  | cons hx _ ih => rw [List.map_cons, ← ih, hx.resolve_right fun hnone => hnone.2 rfl]

/-- Whether some attempts, the one to reload apart, all count as done, and there is a document of
all backends that they have found. -/
structure Ready (d : Docker) (plan : Plan) (c : Container) (attempts : List Attempt) : Prop where
  works : ∀ a ∈ attempts, a.request ≠ .reload c → a.Works d
  rendered : ∃ document, plan.renderer.render (backends d attempts) plan.options = .ok document

lemma Heard.split {l₁ l₂ : List Exchange} (h : Heard d cancellation attempts (l₁ ++ l₂)) :
    ∃ attempts₁ attempts₂, attempts = attempts₁ ++ attempts₂ ∧
      Heard d cancellation attempts₁ l₁ ∧ Heard d cancellation attempts₂ l₂ :=
  ⟨attempts.take l₁.length, attempts.drop l₁.length, (List.take_append_drop _ _).symm,
    List.forall₂_take_append attempts l₁ l₂ h, List.forall₂_drop_append attempts l₁ l₂ h⟩

/-- How the attempts end if a reload was asked for: with the writing of the document of all nodes,
of which everything has arrived, and the reload; all attempts before count as done. -/
structure Published (d : Docker) (plan : Plan) (c : Container) (attempts before : List Attempt)
    (written last : Attempt) (document : ByteArray) : Prop where
  attempts_eq : attempts = before ++ [written, last]
  works : ∀ a ∈ before ++ [written], a.Works d
  rendered : plan.renderer.render (backends d before) plan.options = .ok document
  writes : written.request = .writeFile c plan.renderer.path document
  arrived : ∃ p, written.conduct = .ran p ∧ p.received document = document
  reloads : last.request = .reload c

lemma Heard.published (hheard : Heard d cancellation attempts l) (hc : b.container = some c)
    (h : Talk (b.update plan) l e) (hreload : .reload c ∈ attempts.map (·.request)) :
    ∃ before written last document, Published d plan c attempts before written last document := by
  rw [← hheard.requests] at hreload
  obtain ⟨first, last, document, rfl, hlast, hsucceeds, hrendered⟩ :=
    talk_update_reload hc h hreload
  obtain ⟨before, behind, rfl, hbefore, hbehind⟩ := hheard.split
  obtain ⟨hworks, hbackends⟩ := hbefore.works hsucceeds
  cases hbehind with
  | @cons written _ others _ hwritten hothers =>
    cases hothers with
    | @cons last' _ _ _ hlast' hnil =>
      cases hnil
      have hexchange : Exchange.ok (.writeFile c plan.renderer.path document) () =
          written.exchange d := by
        refine hwritten.resolve_right fun hnone => ?_
        cases congrArg (·.heard.isSome) hnone.1
      have hrequest : written.request = .writeFile c plan.renderer.path document :=
        (congrArg Exchange.request hexchange).symm
      have hwrites : written.Works d := succeeds_exchange.1 (by rw [← hexchange]; trivial)
      obtain ⟨p, hran, hsuccess, htakes⟩ := hwrites.succeeds
      rw [hrequest] at htakes
      have hreloads : last'.request = .reload c := by
        rw [← hlast]
        rcases hlast' with rfl | ⟨rfl, -⟩ <;> rfl
      refine ⟨before, written, last', document, rfl, fun a ha => ?_, ?_, hrequest,
        ⟨p, hran, (htakes document rfl).received_eq⟩, hreloads⟩
      · rcases List.mem_append.1 ha with ha | ha
        · exact hworks a ha
        · rw [List.mem_singleton.1 ha]
          exact hwrites
      · rw [← hbackends]
        exact hrendered

lemma Published.ready {before : List Attempt} {written last : Attempt} {document : ByteArray}
    (h : Published d plan c attempts before written last document) : Ready d plan c attempts := by
  have hbackends : backends d attempts = backends d before := by
    have hwritten : backend? d written = none := by simp only [backend?, h.writes]
    have hlast : backend? d last = none := by simp only [backend?, h.reloads]
    simp [backends, h.attempts_eq, hwritten, hlast]
  refine ⟨fun a ha hother => ?_, document, ?_⟩
  · rw [h.attempts_eq, List.append_cons, List.mem_append] at ha
    rcases ha with ha | ha
    · exact h.works a ha
    · rw [List.mem_singleton.1 ha] at hother
      exact (hother h.reloads).elim
  · rw [hbackends]
    exact h.rendered

/-- An update that is not cancelled and whose attempts leave nothing to be desired asks for a
reload. -/
lemma Ready.reload (h : Ready d plan c attempts) (hc : b.container = some c) {engine : Engine σ}
    {p : Progress σ}
    (hheard : Heard d .never attempts ((b.update plan).transcript engine .never p)) :
    .reload c ∈ attempts.map (·.request) := by
  by_contra hnot
  have hworks : ∀ a ∈ attempts, a.Works d := fun a ha =>
    h.works a ha fun hreload => hnot (List.mem_map.2 ⟨a, ha, hreload⟩)
  have hsucceeds : ∀ x ∈ (b.update plan).transcript engine .never p, x.Succeeds := by
    rw [hheard.eq_map]
    intro x hx
    obtain ⟨a, ha, rfl⟩ := List.mem_map.1 hx
    exact succeeds_exchange.2 (hworks a ha)
  obtain ⟨document, hdocument⟩ := h.rendered
  obtain ⟨result, -, hserved⟩ := served_run engine .never (b.update plan) p rfl fun x hx =>
    (hsucceeds x hx).heard
  rw [← (hheard.works hsucceeds).2] at hdocument
  have hresult := Balancer.served_update hc hserved hsucceeds hdocument
  rw [hresult] at hserved
  obtain ⟨s, ⟨-, -, hl, -⟩ | ⟨hfails, -⟩⟩ := talk_update hc hserved.talk
  · apply hnot
    rw [← hheard.requests, hl]
    simp [UpdateScript.exchanges, UpdateScript.publication, Exchange.ok]
  · exact hfails _ rfl

end Attempt

namespace Docker

lemma reload_of_kill (hc : b.container = some c) (h : Talk (b.update plan) l e) {request : Request}
    (hmem : request ∈ l.map (·.request)) (hkill : (arguments request).head? = some "kill") :
    request = .reload c := by
  obtain ⟨s, hfirsts⟩ := requests_update hc h
  rcases mem_requests_exchanges (hfirsts.subset hmem) with hmem | rfl | rfl
  · rcases mem_requests_discovery hmem with rfl | ⟨node, rfl⟩
    · simp [arguments, listArguments] at hkill
    · simp [arguments] at hkill
  · simp [arguments] at hkill
  · rfl

/-- Only what a process has done counts. Every request starts at most one process, and its command
is done exactly if the process was started, exited successfully and was sent all of its input; a
process that failed is told with what it wrote, whatever else went wrong, and one that did not take
its input, was not started or could not be waited for, with the reason. An update asks for a reload exactly if every command
before it is done, every address could be read and is not empty, and there is a document of all
nodes; and then the whole of that document has arrived. -/
theorem reload_needs_done_commands (d : Docker) (behave : Invocation → σ → σ × Conduct) :
    let engine := d.engine (Conduct.host behave)
    (∀ request s,
      let i := d.invocation request
      let conduct := (behave i s.1).2
      let reply := engine.serve request s
      let step := output i.line (conduct.outcome i.input)
      reply.state.2 = s.2 ++ [(i, conduct)] ∧
      reply.answer = step.map (fun result => result.bind (d.answer? request)) ∧
      ((∃ text, step = some (.ok text)) ↔ conduct.Succeeds i.input) ∧
      (∀ cause, conduct = .refused cause ∨ conduct = .lost cause →
        step = some (.error (.spawn i.line cause))) ∧
      (∀ p, conduct = .ran p → p.status.isSuccess = false → step =
        some (.error (.exited i.line p.status.text (Text.trimmed (Text.lossyText p.stderr))))) ∧
      ∀ p content n cause, conduct = .ran p → i.input = some content →
        p.status.isSuccess = true → p.breaks = some (n, cause) → n < content.size →
        step = some (.error (.spawn i.line cause))) ∧
    ∀ plan (b : Balancer) c cancellation s, b.container = some c →
      let run := (b.update plan).run engine cancellation { engine := (s, []) }
      ∃ attempts : List Attempt,
        run.1.made = attempts.map (·.request) ∧
        run.1.engine.2 = attempts.map (·.command d) ∧
        (∀ a ∈ attempts, (arguments a.request).head? = some "kill" → a.request = .reload c) ∧
        arguments (.reload c) = ["kill", "--signal", "SIGHUP", c.name] ∧
        (.reload c ∈ attempts.map (·.request) → ∃ before written last document,
          Attempt.Published d plan c attempts before written last document) ∧
        (cancellation = .never →
          (.reload c ∈ attempts.map (·.request) ↔ Attempt.Ready d plan c attempts)) := by
  intro engine
  refine ⟨fun request s => ?_, fun plan b c cancellation s hc => ?_⟩
  · intro i conduct reply step
    refine ⟨rfl, rfl, output_ok_iff, fun cause hcause => ?_, fun p hran hfailed => ?_,
      fun p content n cause hran hinput hsuccess hbreaks hlt => ?_⟩
    · rcases hcause with hrefused | hlost
      · simp only [step, hrefused]
        rfl
      · simp only [step, hlost]
        rfl
    · simp only [step, hran]
      exact output_failed hfailed
    · simp only [step, hran, hinput]
      exact output_broken hsuccess hbreaks hlt
  · intro run
    obtain ⟨attempts, hmade, hlog, hheard⟩ :=
      attempts_run d behave cancellation (b.update plan) { engine := (s, []) }
    have htalk := talk_run engine cancellation (b.update plan) { engine := (s, []) }
    have hrequests := Attempt.Heard.requests hheard
    refine ⟨attempts, by simpa using hmade, by simpa using hlog, fun a ha hkill => ?_, rfl,
      fun hreload => Attempt.Heard.published hheard hc htalk hreload, ?_⟩
    · refine reload_of_kill hc htalk ?_ hkill
      rw [hrequests]
      exact List.mem_map_of_mem ha
    · rintro rfl
      refine ⟨fun hreload => ?_, fun hready => hready.reload hc hheard⟩
      obtain ⟨before, written, last, document, hpublished⟩ :=
        Attempt.Heard.published hheard hc htalk hreload
      exact hpublished.ready

/-- Processes that all exit successfully, on a host with one control-plane node. The pipes to them
may break. -/
def harbour (breaks : Option (Nat × OsError)) (i : Invocation) (s : Unit) : Unit × Conduct :=
  (s, .ran
    { breaks
      status := .code 0
      stdout := match i.arguments with
        | "ps" :: _ => "demo-cp\n".toUTF8
        | "inspect" :: _ =>
          "\x7b\"kind\": \x7b\"IPAddress\": \"172.18.0.2\"\x7d\x7d".toUTF8
        | _ => .empty })

theorem truncated_document_not_reloaded :
    let c := Container.node "demo-lb" "demo" .externalLoadBalancer
    let b : Balancer := ⟨"demo", "haproxy", some c⟩
    let run (breaks : Option (Nat × OsError)) := (b.update {}).run
      (({} : Docker).engine (Conduct.host (harbour breaks))) .never { engine := ((), []) }
    b.container = some c ∧
    (∃ attempts before written last document, (run none).1.made = attempts.map (·.request) ∧
      Attempt.Published {} {} c attempts before written last document) ∧
    ∃ attempts, (run (some (3, .brokenPipe))).1.made = attempts.map (·.request) ∧
      attempts.length = 3 ∧ ¬Attempt.Ready {} {} c attempts := by
  intro c b run
  have hc : b.container = some c := rfl
  obtain ⟨attempts, hmade, -, -, -, hpublished, -⟩ :=
    (reload_needs_done_commands {} (harbour none)).2 {} b c .never () hc
  have hreload : .reload c ∈ attempts.map (·.request) := by
    rw [← hmade]
    decide +kernel
  obtain ⟨before, written, last, document, hpublished⟩ := hpublished hreload
  obtain ⟨attempts', hmade', -, -, -, -, hready⟩ :=
    (reload_needs_done_commands {} (harbour (some (3, .brokenPipe)))).2 {} b c .never () hc
  have hcut : attempts'.length = 3 ∧ .reload c ∉ attempts'.map (·.request) := by
    rw [← List.length_map (·.request), ← hmade']
    decide +kernel
  exact ⟨hc, ⟨attempts, before, written, last, document, hmade, hpublished⟩,
    attempts', hmade', hcut.1, fun h => hcut.2 ((hready rfl).2 h)⟩

end Docker

end ApiBalancer
