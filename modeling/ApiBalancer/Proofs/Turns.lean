import ApiBalancer.Proofs.FleetOutcome
import Mathlib.Data.List.Nodup

/-!
# Turns

Callers who take turns on a fleet. A `Turn` is a look-up or a whole task, each carried out in one
go, and a `Ledger` says what has come of the turns so far. A look-up that finds the balancer and the
work that follows it come to one whole task (`Ledger.Shape.whole`).
-/

namespace ApiBalancer

open Procedure

variable {σ : Type}

/-- A caller's task with the cancellation under which it is carried out. -/
structure Errand where
  caller : Nat
  spec : ClusterSpec
  task : Balancer.Task
  cancellation : Cancellation

/-- The errand once `m` more requests belong to it. -/
def Errand.delayed (m : Nat) (x : Errand) : Errand :=
  { x with cancellation := x.cancellation.delayed m }

/-- What a caller does in one go. -/
inductive Turn where
  /-- Fails in the look-up. -/
  | lookUpFails (errand : Errand)
  | lookUp (errand : Errand) (found : Balancer)
  | work (errand : Errand)

namespace Turn

def errand : Turn → Errand
  | lookUpFails x | lookUp x _ | work x => x

/-- Whether a balancer is found in the turn. -/
def finds : Turn → Bool
  | lookUp _ _ => true
  | lookUpFails _ | work _ => false

/-- Turns as whole errands. Whoever works first after a look-up could have looked the balancer up,
with one more request. -/
inductive Whole : List Turn → List Errand → Prop
  | plain (turns : List Turn) (h : ∀ turn ∈ turns, turn.finds = false) :
    Whole turns (turns.map errand)
  | found (before after : List Turn) (x y : Errand) (b : Balancer)
    (hbefore : ∀ turn ∈ before, turn.finds = false)
    (hafter : ∀ turn ∈ after, turn.finds = false) :
    Whole (before ++ lookUp x b :: work y :: after)
      (before.map errand ++ y.delayed 1 :: after.map errand)

lemma Whole.exists_turn {turns : List Turn} {errands : List Errand} (h : Whole turns errands)
    {x : Errand} (hx : x ∈ errands) :
    ∃ turn ∈ turns, turn.errand.caller = x.caller ∧ turn.errand.spec = x.spec ∧
      turn.errand.task = x.task := by
  cases h with
  | plain _ hturns =>
    obtain ⟨turn, hturn, rfl⟩ := List.mem_map.1 hx
    exact ⟨turn, hturn, rfl, rfl, rfl⟩
  | found before after y z b hbefore hafter =>
    rcases List.mem_append.1 hx with hx | hx
    · obtain ⟨turn, hturn, rfl⟩ := List.mem_map.1 hx
      exact ⟨turn, List.mem_append_left _ hturn, rfl, rfl, rfl⟩
    · rcases List.mem_cons.1 hx with rfl | hx
      · exact ⟨work z, by simp, rfl, rfl, rfl⟩
      · obtain ⟨turn, hturn, rfl⟩ := List.mem_map.1 hx
        exact ⟨turn, by simp [hturn], rfl, rfl, rfl⟩

/-- Whether `y` looks the balancer up for the same image as `x`, who has found `b`, or no container
was found. -/
def SameImage (plan : Plan) (asks : Errand → Option String) (x : Errand) (b : Balancer)
    (y : Errand) : Prop :=
  b.container = none ∨
    x.spec.resolveImage plan.image =
      ({ y.spec with image := asks (y.delayed 1) } : ClusterSpec).resolveImage plan.image

/-- Whether who works first after a look-up in which a container was found asks for the same image
as who looked the balancer up. -/
def OneImage (plan : Plan) (turns : List Turn) : Prop :=
  ∀ before x b y after, turns = before ++ lookUp x b :: work y :: after →
    b.container = none ∨ x.spec.resolveImage plan.image = y.spec.resolveImage plan.image

end Turn

/-- How many of some requests were made by a caller. -/
def requestsOf (made : List (Nat × Request)) (i : Nat) : Nat := made.countP (·.1 == i)

lemma requestsOf_append (made made' : List (Nat × Request)) (i : Nat) :
    requestsOf (made ++ made') i = requestsOf made i + requestsOf made' i := List.countP_append

lemma requestsOf_le_append (made made' : List (Nat × Request)) (i : Nat) :
    requestsOf made i ≤ requestsOf (made ++ made') i := by
  rw [requestsOf_append]
  exact Nat.le_add_right _ _

lemma requestsOf_map (i j : Nat) (requests : List Request) :
    requestsOf (requests.map (i, ·)) j = if j = i then requests.length else 0 := by
  unfold requestsOf
  rw [List.countP_map]
  by_cases hij : j = i
  · rw [if_pos hij, hij]
    simp [Function.comp_def]
  · have hji : (i == j) = false := by simpa using fun h : i = j => hij h.symm
    rw [if_neg hij]
    simp [Function.comp_def, hji]

lemma lookup_fire (firings : List (Nat × Nat)) (i j k : Nat) :
    (firings ++ [(i, k)]).lookup j = (firings.lookup j).or (if j = i then some k else none) := by
  rw [List.lookup_append]
  by_cases hj : j = i <;> simp [hj]

/-- What has come of some turns. -/
structure Ledger (σ : Type) where
  fleet : Fleet
  engine : σ
  /-- The requests made, each with the caller who made it. -/
  made : List (Nat × Request) := []
  /-- The callers who are done, each with the result. -/
  results : List (Nat × Except BalancerError Balancer.Answer) := []

namespace Ledger

/-- What there is to see of a ledger that does not tell who made which request. -/
def view (l : Ledger σ) :
    Fleet × σ × List Request × List (Nat × Except BalancerError Balancer.Answer) :=
  (l.fleet, l.engine, l.made.map (·.2), l.results)

/-- The ledger once the task of the caller `i` is over. -/
def ended (l : Ledger σ) (i : Nat) (fleet : Fleet) (p : Progress σ)
    (result : Except BalancerError Balancer.Answer) : Ledger σ where
  fleet
  engine := p.engine
  made := l.made ++ p.made.map (i, ·)
  results := l.results ++ [(i, result)]

/-- A turn is taken. The fleet carries the whole task out when it keeps the cluster's balancer.
While it does not, a task fails in its look-up, or the balancer is looked up and left with the
fleet. -/
inductive Take (engine : Engine σ) (l : Ledger σ) : Turn → Ledger σ → Prop
  | lookUpFails (x : Errand) (fleet : Fleet) (p : Progress σ) (e : BalancerError)
    (absent : l.fleet.balancer? x.spec.name = none)
    (run : l.fleet.perform engine x.cancellation x.spec x.task l.engine =
      (fleet, p, .finished (.error e)))
    (still : fleet.balancer? x.spec.name = none) :
    Take engine l (.lookUpFails x) (l.ended x.caller fleet p (.error e))
  | lookUp (x : Errand) (p : Progress σ) (b : Balancer)
    (absent : l.fleet.balancer? x.spec.name = none)
    (run : (Balancer.lookUp l.fleet.plan x.spec).run engine x.cancellation { engine := l.engine } =
      (p, .finished (.ok b))) :
    Take engine l (.lookUp x b)
      { fleet := l.fleet.keep x.spec.name b, engine := p.engine
        made := l.made ++ p.made.map (x.caller, ·), results := l.results }
  | work (x : Errand) (fleet : Fleet) (p : Progress σ)
    (result : Except BalancerError Balancer.Answer)
    (kept : (l.fleet.balancer? x.spec.name).isSome)
    (run : l.fleet.perform engine x.cancellation x.spec x.task l.engine =
      (fleet, p, .finished result)) :
    Take engine l (.work x) (l.ended x.caller fleet p result)

/-- Turns are taken one after another, by callers who are not done. The cancellation of each goes
with the number of own requests after which the caller's one fired. -/
inductive Run (engine : Engine σ) (firings : List (Nat × Nat)) (start : Ledger σ) :
    List Turn → Ledger σ → Prop
  | start : Run engine firings start [] start
  | turn {turns : List Turn} {turn : Turn} {l l' : Ledger σ}
    (run : Run engine firings start turns l) (take : l.Take engine turn l')
    (waits : turn.errand.caller ∉ l.results.map (·.1))
    (fits : turn.errand.cancellation.Fits (firings.lookup turn.errand.caller)
      (requestsOf l.made turn.errand.caller) (requestsOf l'.made turn.errand.caller)) :
    Run engine firings start (turns ++ [turn]) l'

/-- Whole errands are done one after another. Whoever does one looks the balancer up, if need be, as
one who `asks` for an image; that is the errand's own if `asks` is `fun x => x.spec.image`. -/
inductive InOrder (engine : Engine σ) (asks : Errand → Option String) (start : Ledger σ) :
    List Errand → Ledger σ → Prop
  | start : InOrder engine asks start [] start
  | errand {errands : List Errand} {l : Ledger σ} (x : Errand) (fleet : Fleet) (p : Progress σ)
    (result : Except BalancerError Balancer.Answer)
    (run : InOrder engine asks start errands l)
    (perform : l.fleet.performWith { x.spec with image := asks x } engine x.cancellation x.spec
      x.task l.engine = (fleet, p, .finished result)) :
    InOrder engine asks start (errands ++ [x]) (l.ended x.caller fleet p result)

variable {engine : Engine σ} {firings : List (Nat × Nat)} {start l l' : Ledger σ} {turn : Turn}
  {turns : List Turn}

lemma Take.plan_eq (h : l.Take engine turn l') : l'.fleet.plan = l.fleet.plan := by
  cases h with
  | lookUpFails x fleet p e absent run still =>
    have hplan := Fleet.plan_perform engine x.cancellation x.spec x.task l.fleet l.engine
    rw [run] at hplan
    exact hplan
  | lookUp x p b absent run => rfl
  | work x fleet p result kept run =>
    have hplan := Fleet.plan_perform engine x.cancellation x.spec x.task l.fleet l.engine
    rw [run] at hplan
    exact hplan

lemma Take.made_eq (h : l.Take engine turn l') :
    ∃ block : List Request, l'.made = l.made ++ block.map (turn.errand.caller, ·) := by
  cases h with
  | lookUpFails x fleet p e absent run still => exact ⟨p.made, rfl⟩
  | lookUp x p b absent run => exact ⟨p.made, rfl⟩
  | work x fleet p result kept run => exact ⟨p.made, rfl⟩

lemma Take.requestsOf_le (h : l.Take engine turn l') (i : Nat) :
    requestsOf l.made i ≤ requestsOf l'.made i := by
  obtain ⟨block, hmade⟩ := h.made_eq
  rw [hmade]
  exact requestsOf_le_append _ _ i

lemma Run.fire (h : Run engine firings start turns l) {i k : Nat} (hk : requestsOf l.made i ≤ k) :
    Run engine (firings ++ [(i, k)]) start turns l := by
  induction h with
  | start => exact .start
  | @turn turns turn l l' run take waits fits ih =>
    refine .turn (ih (Nat.le_trans (take.requestsOf_le i) hk)) take waits ?_
    rw [lookup_fire]
    by_cases hi : turn.errand.caller = i
    · rw [if_pos hi]
      cases hfired : firings.lookup turn.errand.caller with
      | none =>
        rw [hfired] at fits
        rw [← hi] at hk
        exact fits.fire hk
      | some k' =>
        rw [hfired] at fits
        exact fits
    · rw [if_neg hi, Option.or_none]
      exact fits

lemma Run.nodup_results (h : Run engine firings start turns l) (hstart : start.results = []) :
    (l.results.map (·.1)).Nodup := by
  induction h with
  | start =>
    rw [hstart]
    exact List.nodup_nil
  | turn run take waits fits ih =>
    have hended : ∀ (l : Ledger σ) i fleet p result, i ∉ l.results.map (·.1) →
        (l.results.map (·.1)).Nodup → ((l.ended i fleet p result).results.map (·.1)).Nodup := by
      intro l i fleet p result hi hnodup
      rw [ended, List.map_append, List.nodup_append]
      refine ⟨hnodup, List.nodup_singleton i, ?_⟩
      rintro a ha b hb rfl
      rw [List.mem_singleton.1 hb] at ha
      exact hi ha
    cases take with
    | lookUpFails x fleet p e absent run still => exact hended _ _ _ _ _ waits ih
    | lookUp x p b absent run => exact ih
    | work x fleet p result kept run => exact hended _ _ _ _ _ waits ih

/-! ### Whole errands -/

lemma view_ended (h : l'.view = l.view) (i : Nat) (fleet : Fleet) (p : Progress σ)
    (result : Except BalancerError Balancer.Answer) :
    (l'.ended i fleet p result).view = (l.ended i fleet p result).view := by
  obtain ⟨-, h⟩ := Prod.mk.inj h
  obtain ⟨-, h⟩ := Prod.mk.inj h
  obtain ⟨hmade, hresults⟩ := Prod.mk.inj h
  simp only [view, ended, List.map_append, hmade, hresults]

lemma Take.absent_of_ne_work (h : l.Take engine turn l') (hne : ∀ x, turn ≠ .work x) :
    l.fleet.balancer? turn.errand.spec.name = none := by
  cases h with
  | lookUpFails x fleet p e absent run still => exact absent
  | lookUp x p b absent run => exact absent
  | work x fleet p result kept run => exact (hne x rfl).elim

/-- How turns for one cluster look: nobody has found the balancer, or someone has just found it, or
work has followed. Work after a look-up makes whole errands of the turns, if who works first looks
the balancer up as the finder has done, or else if no container was found. -/
inductive Shape (engine : Engine σ) (start : Ledger σ) (cluster : String) :
    List Turn → Ledger σ → Prop
  | plain (turns : List Turn) (l : Ledger σ) (hturns : ∀ turn ∈ turns, turn.finds = false)
    (hrun : ∀ asks, InOrder engine asks start (turns.map Turn.errand) l) :
    Shape engine start cluster turns l
  | found (before : List Turn) (x : Errand) (b : Balancer) (l₀ l : Ledger σ)
    (hbefore : ∀ turn ∈ before, turn.finds = false)
    (hrun : ∀ asks, InOrder engine asks start (before.map Turn.errand) l₀)
    (htake : l₀.Take engine (.lookUp x b) l) (hname : x.spec.name = cluster)
    (hwaits : x.caller ∉ l.results.map (·.1)) :
    Shape engine start cluster (before ++ [.lookUp x b]) l
  | worked (before after : List Turn) (x y : Errand) (b : Balancer) (l : Ledger σ)
    (hbefore : ∀ turn ∈ before, turn.finds = false) (hafter : ∀ turn ∈ after, turn.finds = false)
    (hkept : (l.fleet.balancer? cluster).isSome)
    (hrun : ∀ asks : Errand → Option String,
      Turn.SameImage start.fleet.plan asks x b y →
      ∃ l', InOrder engine asks start
        (before.map Turn.errand ++ y.delayed 1 :: after.map Turn.errand) l' ∧ l'.view = l.view) :
    Shape engine start cluster (before ++ .lookUp x b :: .work y :: after) l

variable {asks : Errand → Option String}

lemma InOrder.plan_eq {errands : List Errand} (h : InOrder engine asks start errands l) :
    l.fleet.plan = start.fleet.plan := by
  induction h with
  | start => rfl
  | @errand errands l x fleet p result run perform ih =>
    have hplan := Fleet.plan_performWith { x.spec with image := asks x } engine x.cancellation
      x.spec x.task l.fleet l.engine
    rw [perform] at hplan
    exact hplan.trans ih

/-- An errand is done, if it comes to its end. -/
def afterErrand (engine : Engine σ) (asks : Errand → Option String) (l : Ledger σ) (x : Errand) :
    Ledger σ :=
  match l.fleet.performWith { x.spec with image := asks x } engine x.cancellation x.spec x.task
    l.engine with
  | (fleet, p, .finished result) => l.ended x.caller fleet p result
  | (_, _, .blocked _) => l

lemma InOrder.eq_foldl {errands : List Errand} (h : InOrder engine asks start errands l) :
    l = errands.foldl (afterErrand engine asks) start := by
  induction h with
  | start => rfl
  | @errand errands l x fleet p result run perform ih =>
    rw [List.foldl_append, ← ih, List.foldl_cons, List.foldl_nil, afterErrand, perform]

lemma InOrder.results_eq {errands : List Errand} (h : InOrder engine asks start errands l) :
    l.results.map (·.1) = start.results.map (·.1) ++ errands.map (·.caller) := by
  induction h with
  | start => simp
  | errand x fleet p result run perform ih =>
    simp only [ended, List.map_append, ih, List.append_assoc, List.map_cons, List.map_nil]

variable {cluster : String}

lemma Shape.of_plain (hturns : ∀ turn ∈ turns, turn.finds = false)
    (hrun : ∀ asks, InOrder engine asks start (turns.map Turn.errand) l)
    (hfinds : turn.finds = false) {fleet : Fleet} {p : Progress σ}
    {result : Except BalancerError Balancer.Answer}
    (hperform : ∀ image, l.fleet.performWith { turn.errand.spec with image } engine
      turn.errand.cancellation turn.errand.spec turn.errand.task l.engine =
        (fleet, p, .finished result)) :
    Shape engine start cluster (turns ++ [turn]) (l.ended turn.errand.caller fleet p result) := by
  refine .plain _ _ (fun turn' hturn' => ?_) fun asks => ?_
  · rcases List.mem_append.1 hturn' with hturn' | hturn'
    · exact hturns turn' hturn'
    · rw [List.mem_singleton.1 hturn']
      exact hfinds
  · rw [List.map_append]
    exact .errand turn.errand fleet p result (hrun asks) (hperform _)

lemma Shape.of_found {before : List Turn} {x y : Errand} {b : Balancer} {l₀ : Ledger σ}
    (hbefore : ∀ turn ∈ before, turn.finds = false)
    (hrun : ∀ asks, InOrder engine asks start (before.map Turn.errand) l₀)
    (htake : l₀.Take engine (.lookUp x b) l) (hname : x.spec.name = cluster)
    (hwork : l.Take engine (.work y) l') (hname' : y.spec.name = cluster) :
    Shape engine start cluster (before ++ [.lookUp x b] ++ [.work y]) l' := by
  have hsame : x.spec.name = y.spec.name := hname.trans hname'.symm
  rw [List.append_assoc]
  cases hwork with
  | work _ fleet p result kept hperform =>
    refine .worked before [] x y b _ hbefore nofun ?_ fun asks himage => ?_
    · have hkept := Fleet.balancer?_perform_isSome engine y.cancellation y.task l.engine kept
      rw [hperform, hname'] at hkept
      exact hkept
    · cases htake with
      | lookUp _ p₀ _ absent hlook =>
        have hlook' := outcome_of_run hlook
        rw [hsame] at absent
        rw [hsame] at hperform
        have hfinder :
            ({ y.spec with image := asks (y.delayed 1) } : ClusterSpec).name = y.spec.name := rfl
        unfold Turn.SameImage at himage
        rw [← (hrun asks).plan_eq] at himage
        obtain ⟨q, hq, hengine, hmade⟩ :=
          Fleet.performWith_delayed absent hsame hfinder hlook' himage hperform
        rw [Balancer.length_lookUp_of_ok hlook'] at hq
        refine ⟨_, .errand (y.delayed 1) fleet q result (hrun asks) hq, ?_⟩
        simp only [view, ended, hengine, hmade, List.map_append, List.map_map, Function.comp_def,
          List.map_id', List.append_assoc]
        rfl

lemma Shape.of_worked {before after : List Turn} {x y z : Errand} {b : Balancer}
    (hbefore : ∀ turn ∈ before, turn.finds = false) (hafter : ∀ turn ∈ after, turn.finds = false)
    (hrun : ∀ asks : Errand → Option String,
      Turn.SameImage start.fleet.plan asks x b y →
      ∃ l', InOrder engine asks start
        (before.map Turn.errand ++ y.delayed 1 :: after.map Turn.errand) l' ∧ l'.view = l.view)
    (hwork : l.Take engine (.work z) l') (hname : z.spec.name = cluster) :
    Shape engine start cluster (before ++ .lookUp x b :: .work y :: after ++ [.work z]) l' := by
  have hassoc : before ++ .lookUp x b :: .work y :: after ++ [.work z] =
      before ++ .lookUp x b :: .work y :: (after ++ [.work z]) := by simp
  rw [hassoc]
  cases hwork with
  | work _ fleet p result kept hperform =>
    refine .worked before (after ++ [.work z]) x y b _ hbefore ?_ ?_ fun asks himage => ?_
    · intro turn hturn
      rcases List.mem_append.1 hturn with hturn | hturn
      · exact hafter turn hturn
      · rw [List.mem_singleton.1 hturn]
        rfl
    · have hkept := Fleet.balancer?_perform_isSome engine z.cancellation z.task l.engine kept
      rw [hperform, hname] at hkept
      exact hkept
    · obtain ⟨l'', hinOrder, hview⟩ := hrun asks himage
      have hfleet : l''.fleet = l.fleet := (Prod.mk.inj hview).1
      have hengine : l''.engine = l.engine := (Prod.mk.inj (Prod.mk.inj hview).2).1
      rw [← hfleet] at kept
      rw [← hfleet, ← hengine, ← Fleet.performWith_of_kept { z.spec with image := asks z } _ _ _ kept]
        at hperform
      have hnext := InOrder.errand z fleet p result hinOrder hperform
      rw [List.append_assoc, List.cons_append] at hnext
      rw [List.map_append]
      exact ⟨_, hnext, view_ended hview _ _ _ _⟩

/-- The turns of callers for one cluster have a shape. -/
theorem Run.shape (h : Run engine firings start turns l)
    (hnames : ∀ turn ∈ turns, turn.errand.spec.name = cluster) :
    Shape engine start cluster turns l := by
  induction h with
  | start => exact .plain [] start nofun fun asks => .start
  | @turn turns turn l l' run take waits fits ih =>
    have hshape := ih fun turn' hturn' => hnames turn' (List.mem_append_left _ hturn')
    have hname := hnames turn (List.mem_append_right _ List.mem_cons_self)
    -- once the balancer is kept, only work can follow
    have hwork : (l.fleet.balancer? cluster).isSome → ∃ x, turn = .work x := by
      intro hkept
      by_contra hne
      have habsent := take.absent_of_ne_work fun x hx => hne ⟨x, hx⟩
      rw [hname] at habsent
      rw [habsent] at hkept
      cases hkept
    cases hshape with
    | plain _ _ hturns hrun =>
      cases take with
      | lookUpFails x fleet p e absent hperform still =>
        refine .of_plain hturns hrun rfl fun image => ?_
        have hfinder : ({ x.spec with image } : ClusterSpec).name = x.spec.name := rfl
        exact Fleet.performWith_of_absent hfinder hperform still
      | lookUp x p b absent hlook =>
        exact .found turns x b l _ hturns hrun (.lookUp x p b absent hlook) hname waits
      | work x fleet p result kept hperform =>
        exact .of_plain hturns hrun rfl fun image =>
          (Fleet.performWith_of_kept _ _ _ _ kept).trans hperform
    | found before x b l₀ _ hbefore hrun htake hname₀ hwaits =>
      obtain ⟨y, rfl⟩ := hwork (by
        cases htake with
        | lookUp _ p _ absent hlook =>
          rw [Fleet.balancer?_keep, if_pos hname₀.symm]
          rfl)
      exact .of_found hbefore hrun htake hname₀ take hname
    | worked before after x y b _ hbefore hafter hkept hrun =>
      obtain ⟨z, rfl⟩ := hwork hkept
      exact .of_worked hbefore hafter hrun take hname

lemma Shape.countP_finds_le (h : Shape engine start cluster turns l) :
    turns.countP Turn.finds ≤ 1 := by
  have hzero : ∀ turns : List Turn, (∀ turn ∈ turns, turn.finds = false) →
      turns.countP Turn.finds = 0 := by
    intro turns hturns
    rw [List.countP_eq_zero]
    intro turn hturn
    rw [hturns turn hturn]
    exact Bool.false_ne_true
  cases h with
  | plain _ _ hturns hrun =>
    rw [hzero _ hturns]
    exact Nat.zero_le 1
  | found before x b l₀ _ hbefore hrun htake hname hwaits =>
    rw [List.countP_append, hzero _ hbefore]
    exact Nat.le_refl 1
  | worked before after x y b _ hbefore hafter hkept hrun =>
    rw [List.countP_append, hzero _ hbefore, List.countP_cons, List.countP_cons, hzero _ hafter]
    exact Nat.le_refl 1

lemma Shape.whole (h : Shape engine start cluster turns l)
    (hdone : ∀ turn ∈ turns, turn.errand.caller ∈ l.results.map (·.1)) :
    ∃ errands, Turn.Whole turns errands ∧
      ∀ asks : Errand → Option String,
        (∀ before x b y after, turns = before ++ .lookUp x b :: .work y :: after →
          Turn.SameImage start.fleet.plan asks x b y) →
        ∃ l', InOrder engine asks start errands l' ∧ l'.view = l.view := by
  cases h with
  | plain _ _ hturns hrun => exact ⟨_, .plain turns hturns, fun asks _ => ⟨l, hrun asks, rfl⟩⟩
  | found before x b l₀ _ hbefore hrun htake hname hwaits =>
    exact (hwaits (hdone _ (List.mem_append_right _ List.mem_cons_self))).elim
  | worked before after x y b _ hbefore hafter hkept hrun =>
    exact ⟨_, .found before after x y b hbefore hafter,
      fun asks himage => hrun asks (himage before x b y after rfl)⟩

end Ledger

end ApiBalancer
