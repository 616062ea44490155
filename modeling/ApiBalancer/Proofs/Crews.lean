import ApiBalancer.Proofs.LikeEngines

/-!
# Crews

A crew are people who each look after a balancer of their own, all on one engine. Two crews on
engines alike that do the same chores get the same answers, fail in the same ways and stay alike
(`Crew.Alike.doAll`).
-/

namespace ApiBalancer

open Procedure Text

/-- The balancers in people's hands, each with its plan, and the engine that they work on. -/
structure Crew (σ : Type) where
  own : NameMap (Plan × Balancer) := ∅
  engine : σ

/-- What one of a crew does: look up a balancer for himself, have it take over an image, or have it
carry out a task. -/
inductive Chore where
  | lookUp (owner : String) (plan : Plan) (spec : ClusterSpec) (token : Token)
  | takeImage (owner image : String)
  | work (owner : String) (task : Balancer.Task) (token : Token)

/-- Whether all that a chore asks for can be put into commands. -/
def Chore.Sayable : Chore → Prop
  | .lookUp _ plan spec _ =>
    Plain (spec.name ++ "-lb") ∧ NulFree (spec.resolveImage plan.image) ∧
      NulFree plan.renderer.path
  | .takeImage _ image => NulFree image
  | .work _ _ _ => True

instance : DecidablePred Chore.Sayable
  | .lookUp _ plan spec _ =>
    inferInstanceAs (Decidable (Plain (spec.name ++ "-lb") ∧
      NulFree (spec.resolveImage plan.image) ∧ NulFree plan.renderer.path))
  | .takeImage _ image => inferInstanceAs (Decidable (NulFree image))
  | .work _ _ _ => inferInstanceAs (Decidable True)

namespace Crew

variable {σ τ : Type}

/-- Has a procedure run that yields a balancer with an answer; the owner keeps the balancer. -/
def attempt (E : Engine σ) (crew : Crew σ) (owner : String) (plan : Plan) (token : Token)
    (proc : Procedure BalancerError (Balancer × Balancer.Answer)) :
    Crew σ × Ending BalancerError Balancer.Answer :=
  let (p, ending) := proc.run E token.1 { engine := crew.engine }
  let own := match ending with
    | .finished (.ok (b, _)) => crew.own.insert owner (plan, b)
    | _ => crew.own
  ({ own, engine := p.engine }, ending.map Prod.snd)

/-- Does a chore: the crew afterwards, and how the chore's run has ended, if it has made one. What
is told of a look-up is the status of the balancer. -/
def step (E : Engine σ) (crew : Crew σ) :
    Chore → Crew σ × Option (Ending BalancerError Balancer.Answer)
  | .lookUp owner plan spec token =>
    let (crew, ending) := crew.attempt E owner plan token do
      let b ← Balancer.lookUp plan spec
      return (b, .status b.status)
    (crew, some ending)
  | .takeImage owner image =>
    ({ crew with own := crew.own.modify owner fun o => (o.1, o.2.withImage image) }, none)
  | .work owner task token =>
    match crew.own.get? owner with
    | none => (crew, none)
    | some (plan, b) =>
      let (crew, ending) := crew.attempt E owner plan token (b.perform plan task)
      (crew, some ending)

/-- Does chores in turn. -/
def doAll (E : Engine σ) (crew : Crew σ) :
    List Chore → Crew σ × List (Option (Ending BalancerError Balancer.Answer))
  | [] => (crew, [])
  | chore :: rest =>
    let (crew, ending) := crew.step E chore
    let (crew, endings) := crew.doAll E rest
    (crew, ending :: endings)

/-- Whether two balancers with their plans are alike. -/
structure OwnAlike (o o' : Plan × Balancer) : Prop where
  plan : o'.1 = o.1
  balancer : o.2.Alike o'.2
  sayable : o.2.Sayable o.1

/-- Two crews alike, of whose engines `S` holds. -/
structure Alike (S : σ → τ → Prop) (crew : Crew σ) (crew' : Crew τ) : Prop where
  own : ∀ owner, Option.Rel OwnAlike (crew.own.get? owner) (crew'.own.get? owner)
  engine : S crew.engine crew'.engine

/-- Chores that have ended alike: with the same answer, or with errors that differ in the engine's
words at most. -/
abbrev EndedAlike : Option (Ending BalancerError Balancer.Answer) →
    Option (Ending BalancerError Balancer.Answer) → Prop :=
  Option.Rel (Ending.Alike BalancerError.Alike Eq)

variable {E : Engine σ} {E' : Engine τ} {S : σ → τ → Prop} {crew : Crew σ} {crew' : Crew τ}

lemma own_insert {owner : String} {o o' : Plan × Balancer} {own own' : NameMap (Plan × Balancer)}
    (h : ∀ owner, Option.Rel OwnAlike (own.get? owner) (own'.get? owner)) (ho : OwnAlike o o') :
    ∀ other, Option.Rel OwnAlike ((own.insert owner o).get? other)
      ((own'.insert owner o').get? other) := by
  intro other
  rw [NameMap.get?_insert, NameMap.get?_insert]
  split
  · exact .some ho
  · exact h other

lemma Alike.own_cases (h : crew.Alike S crew') (owner : String) :
    crew.own.get? owner = none ∧ crew'.own.get? owner = none ∨
      ∃ plan b b', crew.own.get? owner = some (plan, b) ∧
        crew'.own.get? owner = some (plan, b') ∧ b.Alike b' ∧ b.Sayable plan := by
  have hrel := h.own owner
  generalize crew.own.get? owner = o at hrel
  generalize crew'.own.get? owner = o' at hrel
  cases hrel with
  | none => exact .inl ⟨rfl, rfl⟩
  | @some o o' ho =>
    obtain ⟨plan, b⟩ := o
    obtain ⟨plan', b'⟩ := o'
    obtain rfl : plan' = plan := ho.plan
    exact .inr ⟨plan', b, b', rfl, rfl, ho.balancer, ho.sayable⟩

lemma Alike.attempt (h : crew.Alike S crew') (hengines : E.Alike E' S) (owner : String)
    {plan : Plan} (token : Token)
    {proc proc' : Procedure BalancerError (Balancer × Balancer.Answer)}
    (hproc : Procedure.Alike BalancerError.Alike
      (fun r r' => (r.1.Alike r'.1 ∧ r.1.Sayable plan) ∧ r.2 = r'.2) proc proc') :
    (crew.attempt E owner plan token proc).1.Alike S
        (crew'.attempt E' owner plan token proc').1 ∧
      Ending.Alike BalancerError.Alike Eq (crew.attempt E owner plan token proc).2
        (crew'.attempt E' owner plan token proc').2 := by
  obtain ⟨hending, hengine⟩ := hproc.run hengines token
    (a := { engine := crew.engine }) (b := { engine := crew'.engine }) h.engine rfl
  unfold Crew.attempt
  generalize proc.run E token.1 { engine := crew.engine } = run at hending hengine
  generalize proc'.run E' token.1 { engine := crew'.engine } = run' at hending hengine
  obtain ⟨p, e⟩ := run
  obtain ⟨p', e'⟩ := run'
  cases hending with
  | finished hresult =>
    cases hresult with
    | @ok r r' hr =>
      obtain ⟨⟨hb, hsayable⟩, hanswer⟩ := hr
      exact ⟨⟨own_insert h.own ⟨rfl, hb, hsayable⟩, hengine⟩, .finished (.ok hanswer)⟩
    | error herror => exact ⟨⟨h.own, hengine⟩, .finished (.error herror)⟩

lemma Alike.step (h : crew.Alike S crew') (hengines : E.Alike E' S) {chore : Chore}
    (hchore : chore.Sayable) :
    (crew.step E chore).1.Alike S (crew'.step E' chore).1 ∧
      EndedAlike (crew.step E chore).2 (crew'.step E' chore).2 := by
  cases chore with
  | lookUp owner plan spec token =>
    obtain ⟨hname, himage, hpath⟩ := hchore
    have hreport : ∀ b b' : Balancer, b.Alike b' ∧ b.Sayable plan →
        Procedure.Alike BalancerError.Alike
          (fun r r' => (r.1.Alike r'.1 ∧ r.1.Sayable plan) ∧ r.2 = r'.2)
          (pure (b, Balancer.Answer.status b.status))
          (pure (b', Balancer.Answer.status b'.status)) :=
      fun b b' hb => .pure ⟨hb, congrArg Balancer.Answer.status hb.1.status.symm⟩
    have hlookUp := (Balancer.alike_lookUp hname himage hpath).bind hreport
    obtain ⟨hcrew, hending⟩ := h.attempt hengines owner token hlookUp
    exact ⟨hcrew, .some hending⟩
  | takeImage owner image =>
    refine ⟨⟨?_, h.engine⟩, .none⟩
    simp only [Crew.step, NameMap.modify]
    rcases h.own_cases owner with ⟨ho, ho'⟩ | ⟨plan, b, b', ho, ho', hb, hsayable⟩
    · rw [ho, ho']
      exact h.own
    · rw [ho, ho']
      refine own_insert h.own ⟨rfl, hb.withImage image, ?_⟩
      exact hsayable.withImage hchore
  | work owner task token =>
    simp only [Crew.step]
    rcases h.own_cases owner with ⟨ho, ho'⟩ | ⟨plan, b, b', ho, ho', hb, hsayable⟩
    · rw [ho, ho']
      exact ⟨h, .none⟩
    · rw [ho, ho']
      obtain ⟨hcrew, hending⟩ := h.attempt hengines owner token (hb.perform hsayable task)
      exact ⟨hcrew, .some hending⟩

/-- Crews alike on engines alike stay so, whatever chores they do, and all chores end alike. -/
theorem Alike.doAll (h : crew.Alike S crew') (hengines : E.Alike E' S) {chores : List Chore}
    (hchores : ∀ chore ∈ chores, chore.Sayable) :
    (crew.doAll E chores).1.Alike S (crew'.doAll E' chores).1 ∧
      List.Forall₂ EndedAlike (crew.doAll E chores).2 (crew'.doAll E' chores).2 := by
  induction chores generalizing crew crew' with
  | nil => exact ⟨h, .nil⟩
  | cons chore rest ih =>
    obtain ⟨hcrew, hending⟩ := h.step hengines (hchores chore List.mem_cons_self)
    obtain ⟨hcrew', hendings⟩ :=
      ih hcrew fun other hother => hchores other (List.mem_cons_of_mem chore hother)
    exact ⟨hcrew', .cons hending hendings⟩

end Crew

end ApiBalancer
