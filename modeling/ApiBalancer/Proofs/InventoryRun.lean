import ApiBalancer.Engine.Inventory
import ApiBalancer.Proofs.Transcript

/-!
# Runs on an inventory

What a request does to the table of containers: nothing, unless it is answered without an error.
`run_step` carries this over to the steps of runs.
-/

namespace ApiBalancer

variable {σ ε α β : Type}

/-- Whether the cancellation ends a request under way only if the request is blocked. An inventory
answers at once or never, so no other cancellation can meet one of its requests. -/
def Cancellation.Patient (c : Cancellation) : Prop := ∀ n, c.firesDuring n false = false

/-- A cancellation as the callers of an inventory have it. -/
abbrev Token := { c : Cancellation // c.Patient }

/-- The cancellation that never fires. -/
def Token.never : Token := ⟨.never, fun _ => rfl⟩

namespace Procedure

theorem of_run_bind {engine : Engine σ} {c : Cancellation} {proc : Procedure ε α}
    {f : α → Procedure ε β} {p q : Progress σ} {e : Ending ε β}
    (h : (proc.bind f).run engine c p = (q, e)) :
    (∃ r a, proc.run engine c p = (r, .finished (.ok a)) ∧ (f a).run engine c r = (q, e)) ∨
    (∃ err, proc.run engine c p = (q, .finished (.error err)) ∧ e = .finished (.error err)) ∨
    (∃ b, proc.run engine c p = (q, .blocked b) ∧ e = .blocked b) := by
  induction proc generalizing p with
  | done result =>
    cases result with
    | ok a => exact .inl ⟨p, a, rfl, h⟩
    | error err =>
      cases h
      exact .inr (.inl ⟨err, rfl, rfl⟩)
  | report event rest ih => exact ih h
  | call request ifCancelled next ih =>
    cases ifCancelled with
    | none =>
      simp only [bind, run] at h ⊢
      cases hanswer : (engine.serve request p.engine).answer with
      | none =>
        rw [hanswer] at h
        cases h
        exact .inr (.inr ⟨none, rfl, rfl⟩)
      | some x =>
        rw [hanswer] at h
        exact ih x h
    | some cancelled =>
      simp only [bind, run] at h ⊢
      by_cases hbefore : c.firedBefore p.made.length = true
      · rw [if_pos hbefore] at h ⊢
        cases h
        exact .inr (.inl ⟨cancelled, rfl, rfl⟩)
      · rw [if_neg hbefore] at h ⊢
        by_cases hduring : c.firesDuring p.made.length
            (engine.serve request p.engine).answer.isNone = true
        · rw [if_pos hduring] at h ⊢
          cases h
          exact .inr (.inl ⟨cancelled, rfl, rfl⟩)
        · rw [if_neg hduring] at h ⊢
          cases hanswer : (engine.serve request p.engine).answer with
          | none =>
            rw [hanswer] at h
            cases h
            exact .inr (.inr ⟨some cancelled, rfl, rfl⟩)
          | some x =>
            rw [hanswer] at h
            exact ih x h

theorem of_run_bind_or_fails {engine : Engine σ} {c : Cancellation} {proc : Procedure ε α}
    {f : α → Procedure ε β} {p q : Progress σ} {e : Ending ε β}
    (h : (proc.bind f).run engine c p = (q, e)) :
    (∃ r a, proc.run engine c p = (r, .finished (.ok a)) ∧ (f a).run engine c r = (q, e)) ∨
    (e.Fails ∧ ∃ e₁ : Ending ε α, e₁.Fails ∧ proc.run engine c p = (q, e₁)) := by
  rcases of_run_bind h with h | ⟨err, h₁, rfl⟩ | ⟨b, h₁, rfl⟩
  · exact .inl h
  · exact .inr ⟨fails_error _, _, fails_error _, h₁⟩
  · exact .inr ⟨fails_blocked _, _, fails_blocked _, h₁⟩

lemma run_bind_done (engine : Engine σ) (c : Cancellation) (proc : Procedure ε α) (f : α → β)
    (p : Progress σ) :
    (proc.bind fun a => done (.ok (f a))).run engine c p =
      ((proc.run engine c p).1, (proc.run engine c p).2.map f) := by
  obtain ⟨⟨q, e⟩, hrun⟩ : ∃ run, run = (proc.bind fun a => done (.ok (f a))).run engine c p :=
    ⟨_, rfl⟩
  rw [← hrun]
  rcases of_run_bind hrun.symm with ⟨r, a, h₁, h⟩ | ⟨err, h₁, rfl⟩ | ⟨b, h₁, rfl⟩
  · cases h
    rw [h₁]
    rfl
  · rw [h₁]
    rfl
  · rw [h₁]
    rfl

/-- What follows a request that is answered with a value. -/
lemma run_ask_bind {engine : Engine σ} (c : Cancellation) {request : Request}
    {answer : request.Answer} (f : request.Answer → Procedure EngineError α) {p : Progress σ}
    (h : (engine.serve request p.engine).answer = some (.ok answer)) :
    (ask request >>= f).run engine c p =
      (f answer).run engine c (p.after request (engine.serve request p.engine)) := by
  change (call request none fun x => (done x).bind f).run engine c p = _
  rw [run, h]
  rfl

end Procedure

namespace Inventory

/-- What a look at the containers shows: the table, and how many were created. -/
def table (inv : Inventory) : NameMap Entry × Nat := (inv.entries, inv.created)

lemma change_table_of_error {inv : Inventory} {name : String} {f : Entry → Except EngineError Entry}
    {err : EngineError} (h : (inv.change name f).2 = .error err) :
    (inv.change name f).1.table = inv.table := by
  unfold change at h ⊢
  cases hget : inv.entries.get? name with
  | none => rfl
  | some e =>
    simp only [hget] at h ⊢
    cases hfe : f e with
    | error err' => rfl
    | ok e' =>
      rw [hfe] at h
      cases h

lemma change_ok {inv : Inventory} {name : String} {f : Entry → Except EngineError Entry}
    (h : (inv.change name f).2 = .ok ()) :
    ∃ e e', inv.entries.get? name = some e ∧ f e = .ok e' ∧
      (inv.change name f).1 = { inv with entries := inv.entries.insert name e' } := by
  unfold change at h ⊢
  cases hget : inv.entries.get? name with
  | none =>
    rw [hget] at h
    cases h
  | some e =>
    simp only [hget] at h ⊢
    cases hfe : f e with
    | error err =>
      rw [hfe] at h
      cases h
    | ok e' => exact ⟨e, e', rfl, hfe, rfl⟩

lemma work_table_of_error {request : Request} {inv : Inventory} {err : EngineError}
    (h : (work request inv).2 = .error err) : (work request inv).1.table = inv.table := by
  cases request with
  | create launch =>
    simp only [work] at h ⊢
    split
    · rfl
    · next hfree =>
      rw [if_neg hfree] at h
      cases h
  | list query => rfl
  | address container =>
    simp only [work] at h ⊢
    split <;> rfl
  | writeFile container path content => exact change_table_of_error h
  | signal container signal => exact change_table_of_error h
  | reload container => exact change_table_of_error h
  | delete container =>
    simp only [work] at h ⊢
    split
    · next hthere =>
      rw [if_pos hthere] at h
      cases h
    · rfl

/-- A request that is not answered, or with an error, leaves the table as it is. -/
theorem serve_table {request : Request} {inv : Inventory}
    (h : ∀ a, (serve request inv).answer ≠ some (.ok a)) :
    (serve request inv).state.table = inv.table := by
  unfold serve at h ⊢
  dsimp only at h ⊢
  split at h
  · next hstalled => rw [if_pos hstalled]; rfl
  · next hstalled =>
    rw [if_neg hstalled]
    cases hfault : takeFault request.call.operation inv.faults with
    | some fault => rfl
    | none =>
      rw [hfault] at h
      cases hwork : (work request (inv.record request.call)).2 with
      | ok a => exact (h a (congrArg some hwork)).elim
      | error err => exact work_table_of_error hwork

/-- A request that is answered without an error has been carried out. -/
theorem serve_ok {request : Request} {inv : Inventory} {a : request.Answer}
    (h : (serve request inv).answer = some (.ok a)) :
    (serve request inv).state = (work request (inv.record request.call)).1 ∧
      (work request (inv.record request.call)).2 = .ok a := by
  unfold serve at h ⊢
  dsimp only at h ⊢
  split at h
  · cases h
  · next hstalled =>
    rw [if_neg hstalled]
    cases hfault : takeFault request.call.operation inv.faults with
    | some fault =>
      rw [hfault] at h
      cases h
    | none =>
      rw [hfault] at h
      exact ⟨rfl, Option.some.inj h⟩

/-- The containers that answer a query, in the order of their names. -/
def answering (inv : Inventory) (query : LabelQuery) : List Container :=
  (inv.entries.values.map (·.container)).filter fun c => query.Matches c.labels

lemma isEmpty_createdAddress (n : Nat) : (createdAddress n).isEmpty = false := by
  unfold createdAddress
  rw [Bool.eq_false_iff, ne_eq, String.isEmpty_iff, String.append_eq_empty_iff]
  exact fun h => absurd h.1 (by decide)

lemma create_ok {inv : Inventory} {launch : Launch} {c : Container}
    (h : (serve (.create launch) inv).answer = some (.ok c)) :
    inv.contains launch.name = false ∧
      c = .node launch.name launch.cluster .externalLoadBalancer ∧
      (serve (.create launch) inv).state.table =
        (inv.entries.insert launch.name ⟨c, createdAddress inv.created, ∅, []⟩, inv.created + 1) := by
  obtain ⟨hstate, hanswer⟩ := serve_ok h
  rw [hstate]
  simp only [work] at hanswer ⊢
  split at hanswer
  · cases hanswer
  · next hfree =>
    cases hanswer
    rw [if_neg hfree]
    exact ⟨Bool.eq_false_iff.2 hfree, rfl, rfl⟩

lemma list_ok {inv : Inventory} {query : LabelQuery} {found : List Container}
    (h : (serve (.list query) inv).answer = some (.ok found)) :
    found = inv.answering query ∧ (serve (.list query) inv).state.table = inv.table := by
  obtain ⟨hstate, hanswer⟩ := serve_ok h
  rw [hstate]
  cases hanswer
  exact ⟨rfl, rfl⟩

lemma address_ok {inv : Inventory} {c : Container} {address : String}
    (h : (serve (.address c) inv).answer = some (.ok address)) :
    inv.addressOf? c.name = some address ∧ (serve (.address c) inv).state.table = inv.table := by
  obtain ⟨hstate, hanswer⟩ := serve_ok h
  rw [hstate]
  simp only [work] at hanswer ⊢
  split at hanswer
  · cases hanswer
  · next address' hnone hsome =>
    cases hanswer
    exact ⟨hsome, rfl⟩
  · cases hanswer

lemma writeFile_ok {inv : Inventory} {c : Container} {path : String} {content : ByteArray}
    (h : (serve (.writeFile c path content) inv).answer = some (.ok ())) :
    ∃ e, inv.entries.get? c.name = some e ∧
      (serve (.writeFile c path content) inv).state.table =
        (inv.entries.insert c.name { e with files := e.files.insert path content }, inv.created) := by
  obtain ⟨hstate, hanswer⟩ := serve_ok h
  rw [hstate]
  obtain ⟨e, e', hget, he', hchange⟩ := change_ok hanswer
  cases he'
  refine ⟨e, hget, ?_⟩
  simp only [work, hchange]
  rfl

lemma send_ok {inv : Inventory} {name : String} {signal : Signal}
    (h : (inv.send name signal).2 = .ok ()) :
    ∃ e, inv.entries.get? name = some e ∧
      (inv.send name signal).1.table =
        (inv.entries.insert name { e with signals := e.signals ++ [signal] }, inv.created) := by
  obtain ⟨e, e', hget, he', hchange⟩ := change_ok h
  refine ⟨e, hget, ?_⟩
  split at he'
  · cases he'
  · cases he'
    unfold send
    rw [hchange]
    rfl

lemma signal_ok {inv : Inventory} {c : Container} {signal : Signal}
    (h : (serve (.signal c signal) inv).answer = some (.ok ())) :
    ∃ e, inv.entries.get? c.name = some e ∧
      (serve (.signal c signal) inv).state.table =
        (inv.entries.insert c.name { e with signals := e.signals ++ [signal] }, inv.created) := by
  obtain ⟨hstate, hanswer⟩ := serve_ok h
  rw [hstate]
  exact send_ok hanswer

lemma reload_ok {inv : Inventory} {c : Container}
    (h : (serve (.reload c) inv).answer = some (.ok ())) :
    ∃ e, inv.entries.get? c.name = some e ∧
      (serve (.reload c) inv).state.table =
        (inv.entries.insert c.name { e with signals := e.signals ++ [.hangup] }, inv.created) := by
  obtain ⟨hstate, hanswer⟩ := serve_ok h
  rw [hstate]
  exact send_ok hanswer

lemma delete_ok {inv : Inventory} {c : Container}
    (h : (serve (.delete c) inv).answer = some (.ok ())) :
    inv.contains c.name = true ∧
      (serve (.delete c) inv).state.table = (inv.entries.erase c.name, inv.created) := by
  obtain ⟨hstate, hanswer⟩ := serve_ok h
  rw [hstate]
  simp only [work] at hanswer ⊢
  split at hanswer
  · next hthere =>
    rw [if_pos hthere]
    exact ⟨hthere, rfl⟩
  · cases hanswer

end Inventory

/-- The end of a step that has not succeeded. -/
def Ending.Stopped (cancelled : ε) (wrap : EngineError → ε) (e : Ending ε α) : Prop :=
  e = .finished (.error cancelled) ∨ e = .blocked (some cancelled) ∨
    ∃ err, e = .finished (.error (wrap err))

lemma Ending.Stopped.fails {cancelled : ε} {wrap : EngineError → ε} {e : Ending ε α}
    (h : e.Stopped cancelled wrap) : e.Fails := by
  rcases h with rfl | rfl | ⟨err, rfl⟩
  · exact fails_error _
  · exact fails_blocked _
  · exact fails_error _

lemma Ending.Stopped.map {cancelled : ε} {wrap : EngineError → ε} {e : Ending ε α}
    (h : e.Stopped cancelled wrap) (f : α → β) : (e.map f).Stopped cancelled wrap := by
  rcases h with rfl | rfl | ⟨err, rfl⟩
  · exact .inl rfl
  · exact .inr (.inl rfl)
  · exact .inr (.inr ⟨err, rfl⟩)

/-- A step on an inventory: it succeeds and the work goes on, or the work ends there and the table
is as it was. -/
theorem run_step {request : Request} {cancelled : ε} {wrap : EngineError → ε}
    {f : request.Answer → Procedure ε α} {c : Cancellation} (hc : c.Patient)
    {p q : Progress Inventory} {e : Ending ε α}
    (h : (((Procedure.ask request).under cancelled wrap).bind f).run Inventory.engine c p = (q, e)) :
    (∃ a r, (Inventory.serve request p.engine).answer = some (.ok a) ∧
      r.engine = (Inventory.serve request p.engine).state ∧
      (f a).run Inventory.engine c r = (q, e)) ∨
    (q.engine.table = p.engine.table ∧ e.Stopped cancelled wrap) := by
  simp only [Procedure.ask, Procedure.under, Procedure.bind, Procedure.run, Inventory.engine] at h
  split at h
  · cases h
    exact .inr ⟨rfl, .inl rfl⟩
  · split at h
    · next hduring =>
      cases hanswer : (Inventory.serve request p.engine).answer with
      | none =>
        cases h
        exact .inr ⟨Inventory.serve_table (by simp [hanswer]), .inl rfl⟩
      | some x =>
        rw [hanswer, Option.isNone_some, hc] at hduring
        cases hduring
    · cases hanswer : (Inventory.serve request p.engine).answer with
      | none =>
        rw [hanswer] at h
        cases h
        exact .inr ⟨Inventory.serve_table (by simp [hanswer]), .inr (.inl rfl)⟩
      | some x =>
        rw [hanswer] at h
        cases x with
        | ok a => exact .inl ⟨a, p.after request (Inventory.serve request p.engine), rfl, rfl, h⟩
        | error err =>
          cases h
          exact .inr ⟨Inventory.serve_table (by simp [hanswer]), .inr (.inr ⟨err, rfl⟩)⟩

end ApiBalancer
