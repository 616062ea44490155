import ApiBalancer.Proofs.Failures
import ApiBalancer.Proofs.Site

/-!
# Retries

What a task that succeeds does (`Balancer.Achieves`) does not depend on the document that a failed
update leaves behind, so failed attempts can be repeated until one succeeds, with the result that this
one would have had alone (`Site.failed_attempts_can_be_repeated`).
-/

namespace ApiBalancer

open Procedure

/-- An entry without its files. -/
def Entry.bare (e : Entry) : Entry := { e with files := ∅ }

namespace Inventory

variable {inv inv' : Inventory} {name : String} {request : Request}

/-- An inventory without the files in its containers. -/
def bare (inv : Inventory) : Inventory := { inv with entries := inv.entries.map Entry.bare }

lemma get?_bare (inv : Inventory) (name : String) :
    inv.bare.entries.get? name = (inv.entries.get? name).map Entry.bare :=
  NameMap.get?_map Entry.bare inv.entries name

lemma bare_bare (inv : Inventory) : inv.bare.bare = inv.bare := by
  have hentries : inv.bare.bare.entries = inv.bare.entries := by
    apply NameMap.ext_get?
    intro name
    rw [get?_bare, get?_bare, Option.map_map]
    rfl
  exact congrArg (fun entries => { inv with entries }) hentries

lemma contains_bare (inv : Inventory) (name : String) :
    inv.bare.contains name = inv.contains name := by
  unfold contains NameMap.contains
  rw [get?_bare, Option.isSome_map]

lemma addressOf?_bare (inv : Inventory) (name : String) :
    inv.bare.addressOf? name = inv.addressOf? name := by
  unfold addressOf?
  rw [get?_bare, Option.map_map]
  rfl

lemma insert_bare (inv : Inventory) (name : String) {e e' : Entry} (h : e.bare = e'.bare) :
    (inv.bare.entries.insert name e).map Entry.bare =
      (inv.entries.insert name e').map Entry.bare := by
  rw [NameMap.map_insert, NameMap.map_insert, h]
  exact congrArg (·.insert name e'.bare) (congrArg entries (bare_bare inv))

lemma erase_bare (inv : Inventory) (name : String) :
    (inv.bare.entries.erase name).map Entry.bare = (inv.entries.erase name).map Entry.bare := by
  rw [NameMap.map_erase, NameMap.map_erase]
  exact congrArg (·.erase name) (congrArg entries (bare_bare inv))

lemma exists_bare (inv : Inventory) {P : Entry → Prop} (hP : ∀ e, P e.bare ↔ P e) :
    (∃ e, inv.bare.entries.get? name = some e ∧ P e) ↔
      ∃ e, inv.entries.get? name = some e ∧ P e := by
  rw [get?_bare]
  constructor
  · rintro ⟨e, he, h⟩
    obtain ⟨e', he', rfl⟩ := Option.map_eq_some_iff.1 he
    exact ⟨e', he', (hP e').1 h⟩
  · rintro ⟨e, he, h⟩
    exact ⟨e.bare, by rw [he]; rfl, (hP e).2 h⟩

lemma change_bare (inv : Inventory) (name : String) {f : Entry → Except EngineError Entry}
    (hf : ∀ e, (f e.bare).map Entry.bare = (f e).map Entry.bare) :
    (inv.bare.change name f).2 = (inv.change name f).2 ∧
      (inv.bare.change name f).1.bare = (inv.change name f).1.bare := by
  unfold change
  rw [get?_bare]
  cases hget : inv.entries.get? name with
  | none => exact ⟨rfl, bare_bare inv⟩
  | some e =>
    have hsame := hf e
    simp only [Option.map_some]
    cases hbare : f e.bare with
    | error err =>
      rw [hbare] at hsame
      cases hfe : f e with
      | error err' =>
        rw [hfe] at hsame
        cases hsame
        exact ⟨rfl, bare_bare inv⟩
      | ok e' =>
        rw [hfe] at hsame
        cases hsame
    | ok e₁ =>
      rw [hbare] at hsame
      cases hfe : f e with
      | error err' =>
        rw [hfe] at hsame
        cases hsame
      | ok e' =>
        rw [hfe] at hsame
        have hentry : e₁.bare = e'.bare := Except.ok.inj hsame
        refine ⟨rfl, ?_⟩
        exact congrArg (fun entries => { inv with entries }) (inv.insert_bare name hentry)

lemma send_bare (inv : Inventory) (name : String) (signal : Signal) :
    (inv.bare.send name signal).2 = (inv.send name signal).2 ∧
      (inv.bare.send name signal).1.bare = (inv.send name signal).1.bare := by
  refine change_bare inv name fun e => ?_
  have haddress : e.bare.address = e.address := rfl
  rw [haddress]
  split <;> rfl

/-- What a request does and yields does not depend on files. -/
lemma work_bare (request : Request) (inv : Inventory) :
    (work request inv.bare).2 = (work request inv).2 ∧
      (work request inv.bare).1.bare = (work request inv).1.bare := by
  cases request with
  | create launch =>
    simp only [work]
    rw [contains_bare]
    split
    · exact ⟨rfl, bare_bare inv⟩
    · refine ⟨rfl, ?_⟩
      exact congrArg (fun entries => { inv with entries, created := inv.created + 1 })
        (inv.insert_bare launch.name rfl)
  | list query =>
    refine ⟨?_, bare_bare inv⟩
    simp only [work, bare]
    rw [NameMap.values_map, List.map_map]
    rfl
  | address container =>
    simp only [work]
    rw [addressOf?_bare]
    have hfaults : inv.bare.addressFaults = inv.addressFaults := rfl
    rw [hfaults]
    split <;> exact ⟨rfl, bare_bare inv⟩
  | writeFile container path content => exact change_bare inv _ fun e => rfl
  | signal container signal => exact send_bare inv _ _
  | reload container => exact send_bare inv _ _
  | delete container =>
    simp only [work]
    rw [contains_bare]
    split
    · refine ⟨rfl, ?_⟩
      exact congrArg (fun entries => { inv with entries }) (inv.erase_bare container.name)
    · exact ⟨rfl, bare_bare inv⟩

lemma serve_bare (request : Request) (inv : Inventory) :
    (serve request inv.bare).answer = (serve request inv).answer ∧
      (serve request inv.bare).state.bare = (serve request inv).state.bare := by
  have hrecord : inv.bare.record request.call = (inv.record request.call).bare := rfl
  have hstalled : inv.bare.stalled = inv.stalled := rfl
  have hfaults : inv.bare.faults = inv.faults := rfl
  unfold serve
  dsimp only
  rw [hrecord, hstalled, hfaults]
  split
  · exact ⟨rfl, bare_bare _⟩
  · cases takeFault request.call.operation inv.faults with
    | some fault =>
      refine ⟨rfl, ?_⟩
      exact bare_bare { inv.record request.call with faults := fault.2 }
    | none =>
      obtain ⟨hanswer, hstate⟩ := work_bare request (inv.record request.call)
      exact ⟨congrArg some hanswer, hstate⟩

/-- Requests to inventories that differ in files only are answered alike. -/
lemma serve_alike (request : Request) (h : inv.bare = inv'.bare) :
    (serve request inv).answer = (serve request inv').answer ∧
      (serve request inv).state.bare = (serve request inv').state.bare := by
  obtain ⟨hanswer, hstate⟩ := serve_bare request inv
  obtain ⟨hanswer', hstate'⟩ := serve_bare request inv'
  rw [h] at hanswer hstate
  exact ⟨hanswer.symm.trans hanswer', hstate.symm.trans hstate'⟩

end Inventory

/-- Runs on inventories that differ in files only end alike. -/
theorem Procedure.run_alike {ε α : Type} {c : Cancellation} (proc : Procedure ε α)
    {p q : Progress Inventory} (h : p.engine.bare = q.engine.bare) (hmade : p.made = q.made) :
    (proc.run Inventory.engine c p).2 = (proc.run Inventory.engine c q).2 := by
  induction proc generalizing p q with
  | done result => rfl
  | report event rest ih => exact ih (p := p.tell event) (q := q.tell event) h hmade
  | call request ifCancelled next ih =>
    obtain ⟨hanswer, hstate⟩ := Inventory.serve_alike request h
    have hmade' : p.made ++ [request] = q.made ++ [request] := by rw [hmade]
    have hnext : ∀ x,
        ((next x).run Inventory.engine c
          (p.after request (Inventory.serve request p.engine))).2 =
        ((next x).run Inventory.engine c
          (q.after request (Inventory.serve request q.engine))).2 :=
      fun x => ih x hstate hmade'
    cases ifCancelled with
    | none =>
      simp only [Procedure.run, Inventory.engine]
      rw [hanswer]
      cases (Inventory.serve request q.engine).answer with
      | none => rfl
      | some x => exact hnext x
    | some cancelled =>
      simp only [Procedure.run, Inventory.engine]
      rw [hanswer, hmade]
      split
      · rfl
      · split
        · rfl
        · cases (Inventory.serve request q.engine).answer with
          | none => rfl
          | some x => exact hnext x

namespace Inventory.CompleteDocument

open Inventory

variable {inv inv' : Inventory} {plan : Plan} {cluster : String} {backends : BackendSet}
  {document : ByteArray}

/-- A document is as complete in inventories that differ in files only. -/
lemma of_bare (hbare : inv.bare.entries = inv'.bare.entries)
    (h : inv.CompleteDocument plan cluster backends document) :
    inv'.CompleteDocument plan cluster backends document := by
  refine ⟨fun name endpoint => (h.backends name endpoint).trans ?_, h.rendered⟩
  rw [← exists_bare inv fun _ => Iff.rfl, ← exists_bare inv' fun _ => Iff.rfl, hbare]

end Inventory.CompleteDocument

namespace Balancer

variable {plan : Plan} {b b' : Balancer} {inv inv' inv'' : Inventory} {task : Task}
  {answer : Answer}

lemma written_written (e : Entry) (plan : Plan) (document document' : ByteArray) :
    (e.written plan document).written plan document' = e.written plan document' :=
  congrArg (fun files => { e with files }) (NameMap.insert_insert _ _ _ _)

/-- Whether an inventory is one that failed attempts at a task can leave: the table is as it was, or
a document of an update is in the attached container. -/
def Left (plan : Plan) (b : Balancer) (task : Task) (inv inv' : Inventory) : Prop :=
  inv'.table = inv.table ∨
    task = .update ∧ ∃ c e₀ document, b.container = some c ∧ inv.entries.get? c.name = some e₀ ∧
      inv'.table = (inv.entries.insert c.name (e₀.written plan document), inv.created)

lemma Left.created (h : b.Left plan task inv inv') : inv'.created = inv.created := by
  rcases h with htable | ⟨-, c, e₀, document, -, -, htable⟩
  · exact congrArg Prod.snd htable
  · exact congrArg Prod.snd htable

lemma Left.bare (h : b.Left plan task inv inv') : inv'.bare.entries = inv.bare.entries := by
  rcases h with htable | ⟨-, c, e₀, document, -, found, htable⟩
  · exact congrArg (NameMap.map Entry.bare) (congrArg Prod.fst htable)
  · have hentries : inv'.entries = inv.entries.insert c.name (e₀.written plan document) :=
      congrArg Prod.fst htable
    have hfound : inv.bare.entries.get? c.name = some e₀.bare := by
      rw [Inventory.get?_bare, found]
      rfl
    change inv'.entries.map Entry.bare = inv.entries.map Entry.bare
    rw [hentries, NameMap.map_insert]
    exact NameMap.insert_of_get? hfound

lemma Left.keyed (h : b.Left plan task inv inv') (hkeyed : inv.Keyed) : inv'.Keyed := by
  intro name e he
  have hbare : inv.bare.entries.get? name = some e.bare := by
    rw [← h.bare, Inventory.get?_bare, he]
    rfl
  rw [Inventory.get?_bare] at hbare
  obtain ⟨e₀, he₀, hentry⟩ := Option.map_eq_some_iff.1 hbare
  have hcontainer : e.bare.container = e₀.bare.container := by rw [hentry]
  have hname := hkeyed name e₀ he₀
  exact (congrArg Container.name hcontainer).trans hname

/-- One more failed attempt leaves no more than those before it. -/
lemma Left.leaves {α : Type} {e : Ending BalancerError α} (h : b.Left plan task inv inv')
    (hleaves : b.Leaves plan inv' task e inv''.table) : b.Left plan task inv inv'' := by
  generalize htable'' : inv''.table = table at hleaves
  cases hleaves with
  | nothing =>
    unfold Left at h ⊢
    rw [htable'']
    exact h
  | document c e₁ backends document' attached found complete stopped =>
    rcases h with htable | ⟨-, c₀, e₀, document, attached₀, found₀, htable⟩
    · have hentries : inv'.entries = inv.entries := congrArg Prod.fst htable
      have hcreated : inv'.created = inv.created := congrArg Prod.snd htable
      rw [hentries] at found htable''
      rw [hcreated] at htable''
      exact .inr ⟨rfl, c, e₁, document', attached, found, htable''⟩
    · have hentries : inv'.entries = inv.entries.insert c₀.name (e₀.written plan document) :=
        congrArg Prod.fst htable
      have hcreated : inv'.created = inv.created := congrArg Prod.snd htable
      -- both attempts wrote to one container, and the later document replaces the earlier
      cases attached₀.symm.trans attached
      rw [hentries, NameMap.get?_insert_self] at found
      cases found
      rw [hentries, hcreated, NameMap.insert_insert, written_written] at htable''
      exact .inr ⟨rfl, c, e₀, document', attached, found₀, htable''⟩

lemma Achieves.of_table {table : NameMap Entry × Nat} (htable : inv'.table = inv.table)
    (h : b.Achieves plan inv' task b' answer table) :
    b.Achieves plan inv task b' answer table := by
  have hentries : inv'.entries = inv.entries := congrArg Prod.fst htable
  have hcreated : inv'.created = inv.created := congrArg Prod.snd htable
  cases h with
  | alreadyCreated c attached =>
    rw [htable]
    exact .alreadyCreated c attached
  | created absent =>
    rw [hentries, hcreated]
    exact .created absent
  | updated c e₀ backends document attached found complete =>
    rw [hentries] at found ⊢
    rw [hcreated]
    exact .updated c e₀ backends document attached found (complete.of_table htable)
  | addressed c address attached found =>
    unfold Inventory.addressOf? at found
    rw [hentries] at found
    rw [htable]
    exact .addressed c address attached found
  | nothingToDelete absent =>
    rw [htable]
    exact .nothingToDelete absent
  | deleted c attached =>
    rw [hentries, hcreated]
    exact .deleted c attached
  | reported =>
    rw [htable]
    exact .reported

/-- What a task achieves after failed attempts, it would have achieved without them. -/
lemma Achieves.of_left {table : NameMap Entry × Nat} (hleft : b.Left plan task inv inv')
    (h : b.Achieves plan inv' task b' answer table) :
    b.Achieves plan inv task b' answer table := by
  have hbare := hleft.bare
  rcases hleft with htable | ⟨rfl, c₀, e₀, document₀, attached₀, found₀, htable⟩
  · exact h.of_table htable
  · have hentries : inv'.entries = inv.entries.insert c₀.name (e₀.written plan document₀) :=
      congrArg Prod.fst htable
    have hcreated : inv'.created = inv.created := congrArg Prod.snd htable
    cases h with
    | updated c e backends document attached found complete =>
      cases attached₀.symm.trans attached
      rw [hentries, NameMap.get?_insert_self] at found
      cases found
      have hwritten := written_written e₀ plan document₀ document
      rw [hwritten, hentries, NameMap.insert_insert, hcreated]
      exact .updated _ e₀ backends document attached found₀ (complete.of_bare hbare)

end Balancer

/-! ### Retries -/

/-- Whether a change from outside leaves the containers alone. -/
def Arrangement.SparesContainers : Arrangement → Prop
  | .add _ _ | .setAddress _ _ | .remove _ => False
  | _ => True

lemma table_arrange (inv : Inventory) {a : Arrangement} (ha : a.SparesContainers) :
    (inv.arrange a).table = inv.table := by
  cases a with
  | add | setAddress | remove => cases ha
  | _ => rfl

/-- What an inventory can come to by failed attempts of a balancer at a task, between which nobody
touches the containers. -/
inductive Inventory.Retried (plan : Plan) (b : Balancer) (task : Balancer.Task)
    (inv : Inventory) : Inventory → Prop
  | start : Retried plan b task inv inv
  | attempt {inv' : Inventory} (token : Token) (p : Progress Inventory)
    (e : Ending BalancerError (Balancer × Balancer.Answer))
    (before : Retried plan b task inv inv')
    (run : (b.perform plan task).run Inventory.engine token.1 { engine := inv' } = (p, e))
    (fails : e.Fails) : Retried plan b task inv p.engine
  | arrange {inv' : Inventory} (a : Arrangement) (before : Retried plan b task inv inv')
    (spares : a.SparesContainers) : Retried plan b task inv (inv'.arrange a)

variable {plan : Plan} {b b' : Balancer} {task : Balancer.Task} {inv inv' : Inventory}
  {answer : Balancer.Answer} {token : Token} {p : Progress Inventory}

lemma leaves_of_fails (hkeyed : inv.Keyed)
    {e : Ending BalancerError (Balancer × Balancer.Answer)}
    (h : (b.perform plan task).run Inventory.engine token.1 { engine := inv } = (p, e))
    (hfails : e.Fails) : b.Leaves plan inv task e p.engine.table := by
  rcases Balancer.perform_exact hkeyed h with ⟨b', answer, rfl, -⟩ | ⟨-, hleaves⟩
  · exact (hfails _ rfl).elim
  · exact hleaves

lemma achieves_of_ok (hkeyed : inv.Keyed)
    (h : (b.perform plan task).run Inventory.engine token.1 { engine := inv } =
      (p, .finished (.ok (b', answer)))) :
    b.Achieves plan inv task b' answer p.engine.table := by
  rcases Balancer.perform_exact hkeyed h with ⟨b'', answer', heq, hachieves⟩ | ⟨hfails, -⟩
  · cases heq
    exact hachieves
  · exact (hfails _ rfl).elim

/-- However often a task is tried in vain, no more is left than by one failed attempt. -/
theorem Inventory.Retried.left (h : inv.Retried plan b task inv') (hkeyed : inv.Keyed) :
    b.Left plan task inv inv' := by
  induction h with
  | start => exact .inl rfl
  | attempt token p e before run fails ih =>
    exact ih.leaves (leaves_of_fails (ih.keyed hkeyed) run fails)
  | arrange a before spares ih =>
    unfold Balancer.Left at ih ⊢
    rw [table_arrange _ spares]
    exact ih

/-- An attempt that succeeds after failed ones succeeds on the original table too, and comes to the
same. -/
lemma Inventory.Retried.alone (h : inv.Retried plan b task inv') (hkeyed : inv.Keyed)
    (hrun : (b.perform plan task).run Inventory.engine token.1 { engine := inv' } =
      (p, .finished (.ok (b', answer)))) :
    ∃ p₀, (b.perform plan task).run Inventory.engine token.1
        { engine := { inv' with entries := inv.entries, created := inv.created } } =
        (p₀, .finished (.ok (b', answer))) ∧ p₀.engine.table = p.engine.table := by
  have hleft := h.left hkeyed
  let inv₀ : Inventory := { inv' with entries := inv.entries, created := inv.created }
  have hbare : inv₀.bare = inv'.bare := by
    change ({ inv' with entries := inv.bare.entries, created := inv.created } : Inventory) =
      { inv' with entries := inv'.bare.entries }
    rw [hleft.bare, hleft.created]
  generalize hrun₀ : (b.perform plan task).run Inventory.engine token.1 { engine := inv₀ } = run₀
  obtain ⟨p₀, e₀⟩ := run₀
  -- the failed attempts left no trace but in files, which no request reads
  have hend := run_alike (c := token.1) (b.perform plan task)
    (p := { engine := inv₀ }) (q := { engine := inv' }) hbare rfl
  rw [hrun₀, hrun] at hend
  dsimp only at hend
  rw [hend] at hrun₀
  have hachieves := Balancer.Achieves.of_left hleft (achieves_of_ok (hleft.keyed hkeyed) hrun)
  have hkeyed₀ : inv₀.Keyed := hkeyed
  have htable₀ : inv₀.table = inv.table := rfl
  have hachieves₀ := Balancer.Achieves.of_table htable₀ (achieves_of_ok hkeyed₀ hrun₀)
  obtain ⟨-, -, htable⟩ := hachieves₀.unique hachieves
  exact ⟨p₀, by rw [hend], htable⟩

/-- A deletion asks for its container to be removed unless it is cancelled beforehand. -/
lemma made_delete {c : Container} (hc : b.container = some c)
    {e : Ending BalancerError (Balancer × Balancer.Answer)}
    (h : (b.perform plan .delete).run Inventory.engine token.1 { engine := inv } = (p, e)) :
    p.made = if token.1.firedBefore 0 then [] else [.delete c] := by
  change ((b.delete).bind fun b' => done (.ok (b', Balancer.Answer.done))).run Inventory.engine
    token.1 { engine := inv } = (p, e) at h
  rw [run_bind_done] at h
  cases h
  unfold Balancer.delete
  rw [hc]
  simp only [bind_eq, Procedure.tell, Procedure.bind, pure_eq, Balancer.step, ask, under,
    Procedure.run, Progress.tell, List.length_nil]
  split
  · rfl
  · split
    · rfl
    · split
      · next x hanswer =>
        cases x <;> rfl
      · rfl

namespace Fleet

lemma perform_of_kept {σ : Type} {engine : Engine σ} {c : Cancellation} {spec : ClusterSpec}
    {fleet : Fleet} {s : σ} (hb : fleet.balancer? spec.name = some b) :
    fleet.perform engine c spec task s =
      let ready := b.withImage (spec.resolveImage fleet.plan.image)
      let run := (ready.perform fleet.plan task).run engine c
        (({ engine := s } : Progress σ).tellAll
          (b.imageEvents (spec.resolveImage fleet.plan.image)))
      (fleet.keep spec.name (kept ready run.2), run.1, run.2.map (·.2)) := by
  unfold perform
  dsimp only
  rw [balancer?_track, hb]
  dsimp only
  rw [serve_eq]
  dsimp only
  rw [plan_track, keep_track]

end Fleet

lemma fails_of_map {ε α β : Type} {e : Ending ε α} {f : α → β} (h : (e.map f).Fails) :
    e.Fails := by
  rintro a rfl
  exact h (f a) rfl

namespace Site

/-- Whatever has been done on a site, a task of somebody's own balancer that fails leaves the balancer
and the fleet as they were, and a task that fails for the fleet leaves the balancer that the fleet
keeps; the table of containers is as it was, but for the document of an update whose reload has
stopped. However often a task has been tried in vain, an attempt that succeeds comes to what it comes
to from the original table. A deletion is asked for anew by each attempt. -/
theorem failed_attempts_can_be_repeated (plan : Plan) (history : List Deed) :
    let site := (start plan).after history
    (∀ owner plan' b task (token : Token) p e, site.own.get? owner = some (plan', b) →
      (b.perform plan' task).run Inventory.engine token.1 { engine := site.inventory } = (p, e) →
      e.Fails →
      site.step (.work owner task token) = { site with inventory := p.engine } ∧
        b.Leaves plan' site.inventory task e p.engine.table) ∧
    (∀ spec task (token : Token) fleet' p e b, site.fleet.balancer? spec.name = some b →
      site.fleet.perform Inventory.engine token.1 spec task site.inventory =
        (fleet', p, e) → e.Fails →
      let ready := b.withImage (spec.resolveImage plan.image)
      fleet'.balancer? spec.name = some ready ∧
        ready.Leaves plan site.inventory task e p.engine.table) ∧
    (∀ plan' b task inv (token : Token) p b' answer, site.inventory.Retried plan' b task inv →
      (b.perform plan' task).run Inventory.engine token.1 { engine := inv } =
        (p, .finished (.ok (b', answer))) →
      (∃ p₀, (b.perform plan' task).run Inventory.engine token.1
          { engine := { inv with
              entries := site.inventory.entries, created := site.inventory.created } } =
          (p₀, .finished (.ok (b', answer))) ∧ p₀.engine.table = p.engine.table) ∧
      ∀ inv₀ (token₀ : Token) p₀ b₀ answer₀, inv₀.table = site.inventory.table →
        (b.perform plan' task).run Inventory.engine token₀.1 { engine := inv₀ } =
          (p₀, .finished (.ok (b₀, answer₀))) →
        b₀ = b' ∧ answer₀ = answer ∧ p₀.engine.table = p.engine.table) ∧
    (∀ plan' b c inv (token : Token) p e, b.container = some c →
      site.inventory.Retried plan' b .delete inv →
      (b.perform plan' .delete).run Inventory.engine token.1 { engine := inv } =
        (p, e) →
      p.made = if token.1.firedBefore 0 then [] else [.delete c]) := by
  intro site
  have hsound : site.Sound := sound_after plan history
  have hplan : site.fleet.plan = plan := plan_after plan history
  refine ⟨?_, ?_, ?_, ?_⟩
  · intro owner plan' b task token p e hown hrun hfails
    refine ⟨?_, leaves_of_fails hsound.keyed hrun hfails⟩
    simp only [step, hown]
    rw [hrun]
    split
    · next heq =>
      cases heq
      exact (hfails _ rfl).elim
    · next heq =>
      cases heq
      rfl
  · intro spec task token fleet' p e b hb hperform hfails ready
    rw [Fleet.perform_of_kept hb, hplan] at hperform
    dsimp only at hperform
    generalize hrun : Procedure.run Inventory.engine token.1 _ _ = run at hperform
    obtain ⟨q, e'⟩ := run
    cases hperform
    have hfails' := fails_of_map hfails
    rw [Fleet.kept_of_fails hfails', Fleet.balancer?_keep, if_pos rfl]
    refine ⟨rfl, ?_⟩
    rcases Balancer.perform_exact (p := Progress.tellAll { engine := site.inventory } _)
      hsound.keyed hrun with ⟨b', answer, rfl, -⟩ | ⟨-, hleaves⟩
    · exact (hfails' _ rfl).elim
    · exact hleaves.map _
  · intro plan' b task inv token p b' answer hretried hrun
    refine ⟨hretried.alone hsound.keyed hrun, ?_⟩
    intro inv₀ token₀ p₀ b₀ answer₀ htable hrun₀
    have hleft := hretried.left hsound.keyed
    have hachieves :=
      Balancer.Achieves.of_left hleft (achieves_of_ok (hleft.keyed hsound.keyed) hrun)
    have hachieves₀ := achieves_of_ok (hsound.keyed.of_table htable) hrun₀
    exact (hachieves₀.of_table htable).unique hachieves
  · intro plan' b c inv token p e hc _ hrun
    exact made_delete hc hrun

/-- An update whose reload has failed is repeated: its document is there already, and it comes to what
it would have come to without it. -/
theorem update_repeated_after_failed_reload :
    let history : List Deed :=
      [.arrange (.add (.node "kind-lb" "kind" .externalLoadBalancer) "172.18.0.7"),
        .arrange (.add (.node "kind-cp" "kind" .controlPlane) "172.18.0.3"),
        .arrange (.failNext .signal "busy")]
    let inv := ((start {}).after history).inventory
    let b : Balancer :=
      { cluster := "kind", image := "haproxy", container := some { name := "kind-lb" } }
    let update := b.perform {} .update
    let first := update.run Inventory.engine Token.never.1 { engine := inv }
    let second := update.run Inventory.engine Token.never.1 { engine := first.1.engine }
    first.2 = .finished (.error (.engine .reload "kind" "kind-lb" (.failed "busy"))) ∧
    inv.file? "kind-lb" Renderer.proxy.path = none ∧
    first.1.engine.file? "kind-lb" Renderer.proxy.path ≠ none ∧
    ∃ answer p₀, second.2 = .finished (.ok (b, answer)) ∧
      update.run Inventory.engine Token.never.1 { engine := { first.1.engine with
          entries := inv.entries, created := inv.created } } = (p₀, .finished (.ok (b, answer))) ∧
      p₀.engine.table = second.1.engine.table := by
  intro history inv b update first second
  have hfirst :
      first.2 = .finished (.error (.engine .reload "kind" "kind-lb" (.failed "busy"))) := by
    decide +kernel
  have hsecond : second.2 =
      .finished (.ok (b, .rollout ⟨.ofList [⟨"kind-cp", "172.18.0.3:6443"⟩], 753⟩)) := by
    decide +kernel
  have hfails : first.2.Fails := by
    rw [hfirst]
    exact fails_error _
  have hretried : inv.Retried {} b .update first.1.engine :=
    .attempt Token.never first.1 first.2 .start rfl hfails
  obtain ⟨p₀, hrun, htable⟩ :=
    ((failed_attempts_can_be_repeated {} history).2.2.1 {} b .update first.1.engine Token.never
      second.1 b _ hretried (Prod.ext rfl hsecond)).1
  exact ⟨hfirst, by decide +kernel, by decide +kernel, _, p₀, hsecond, hrun, htable⟩

end Site

end ApiBalancer