import ApiBalancer.Proofs.TrafficSteps
import ApiBalancer.Proofs.Turns

/-!
# Books

What a ledger of turns has to do with the traffic in which the turns are taken. In a `Traffic.Book`
the ledger lists who is done, and it differs from the traffic by what the one busy caller has done
since the last turn. Each step of the traffic either keeps the book or takes a turn.
-/

namespace ApiBalancer

open Procedure

variable {σ : Type}

namespace Phase

/-- Whether a caller in a phase is at a look-up or at work. -/
def busy : Phase → Bool
  | .looksUp _ _ | .stuckInLookUp _ _ | .works _ _ | .stuckInWork _ _ => true
  | _ => false

/-- The result that a caller in a phase has got. -/
def result? : Phase → Option (Except BalancerError Balancer.Answer)
  | .returned result => some result
  | _ => none

/-- Whether a caller in a phase is neither busy nor done. -/
def Idle (phase : Phase) : Prop := phase.busy = false ∧ phase.result? = none

lemma place_of_busy {phase : Phase} (h : phase.busy = true) :
    phase.place = .lookUp ∨ phase.place = .lock := by
  cases phase with
  | looksUp | stuckInLookUp => exact .inl rfl
  | works | stuckInWork => exact .inr rfl
  | _ => cases h

lemma result?_of_busy {phase : Phase} (h : phase.busy = true) : phase.result? = none := by
  cases phase with
  | returned => cases h
  | _ => rfl

lemma idle_of_place {phase : Phase} (h : phase.place = .lookUpLine ∨ phase.place = .lockLine) :
    phase.Idle := by
  cases phase with
  | waitsForLookUp | waitsForLock => exact ⟨rfl, rfl⟩
  | _ => rcases h with h | h <;> cases h

end Phase

namespace Traffic

variable {t u : Traffic σ} {i j : Nat} {phase : Phase} {c : Caller}

/-- The result of a caller who is done. -/
def result? (t : Traffic σ) (i : Nat) : Option (Except BalancerError Balancer.Answer) :=
  (t.caller? i).bind (·.phase.result?)

/-- The balancer of a cluster, if it has been looked up. -/
def balancer? (t : Traffic σ) (cluster : String) : Option Balancer :=
  (t.table.get? cluster).bind fun n => t.slots[n]?.bind (·.balancer)

lemma balancer?_of_slot {cluster : String} {n : Nat} {slot : Slot}
    (htable : t.table.get? cluster = some n) (hslot : t.slots[n]? = some slot) :
    t.balancer? cluster = slot.balancer := by
  unfold balancer?
  rw [htable, Option.bind_some, hslot, Option.bind_some]

lemma balancer?_changeSlot (t : Traffic σ) (n : Nat) {f : Slot → Slot}
    (hf : ∀ slot, (f slot).balancer = slot.balancer) (cluster : String) :
    (t.changeSlot n f).balancer? cluster = t.balancer? cluster := by
  unfold balancer?
  change (t.table.get? cluster).bind (fun m => ((t.slots.modify n f)[m]?).bind (·.balancer)) = _
  congr 1
  funext m
  rw [List.getElem?_modify]
  cases t.slots[m]? with
  | none => rfl
  | some slot =>
    simp only [Option.map_eq_map, Option.map_some, Option.bind_some]
    split
    · exact hf slot
    · rfl

lemma result?_of_caller? (h : t.caller? i = some c) : t.result? i = c.phase.result? := by
  unfold result?
  rw [h]
  rfl

/-- Whether the caller `i` has gone to a phase, while the others have at most been let go on. -/
structure Moves (t u : Traffic σ) (i : Nat) (phase : Phase) : Prop where
  old : ∀ j d, u.caller? j = some d → ∃ c, t.caller? j = some c ∧ d = { c with phase := d.phase } ∧
    (j = i → d.phase = phase) ∧
    (j ≠ i → d.phase = c.phase ∨ c.phase.Idle ∧ d.phase.Idle)
  new : ∀ j, (u.caller? j).isSome = (t.caller? j).isSome

lemma moves_moveTo (hu : u.caller? = t.caller?) {ids : List Nat} (hi : i ∈ ids)
    (hids : ∀ j ∈ ids, j ≠ i → phase.Idle ∧ ∀ c, t.caller? j = some c → c.phase.Idle) :
    t.Moves (u.moveTo ids phase) i phase := by
  constructor
  · intro j d hd
    rw [caller?_moveTo, hu] at hd
    obtain ⟨c, hc, rfl⟩ := Option.map_eq_some_iff.1 hd
    refine ⟨c, hc, ?_⟩
    by_cases hj : j ∈ ids
    · rw [if_pos hj]
      exact ⟨rfl, fun _ => rfl, fun hne => .inr ⟨(hids j hj hne).2 c hc, (hids j hj hne).1⟩⟩
    · rw [if_neg hj]
      exact ⟨rfl, fun heq => (hj (heq ▸ hi)).elim, fun _ => .inl rfl⟩
  · intro j
    rw [caller?_moveTo, hu, Option.isSome_map]

lemma moves_self (hu : u.caller? = t.caller?) (i : Nat) (phase : Phase) :
    t.Moves (u.moveTo [i] phase) i phase :=
  moves_moveTo hu List.mem_cons_self fun _ hj hne => (hne (List.mem_singleton.1 hj)).elim

/-- The caller `i` goes, and others may start. -/
lemma moves_handOver (hu : u.caller? = t.caller?) {next : List Nat} {start : Phase}
    (hstart : start.Idle) (hnext : ∀ j ∈ next, ∀ c, t.caller? j = some c → c.phase.Idle)
    (i : Nat) (phase : Phase) : t.Moves ((u.moveTo next start).moveTo [i] phase) i phase := by
  constructor
  · intro j d hd
    rw [caller?_moveTo, caller?_moveTo, hu, Option.map_map] at hd
    obtain ⟨c, hc, rfl⟩ := Option.map_eq_some_iff.1 hd
    refine ⟨c, hc, ?_⟩
    by_cases hi : j = i
    · have hmem : j ∈ [i] := by simp [hi]
      dsimp only [Function.comp_def]
      rw [if_pos hmem]
      refine ⟨?_, fun _ => rfl, fun hne => (hne hi).elim⟩
      split <;> rfl
    · have hmem : j ∉ [i] := by simp [hi]
      dsimp only [Function.comp_def]
      rw [if_neg hmem]
      by_cases hj : j ∈ next
      · rw [if_pos hj]
        exact ⟨rfl, fun heq => (hi heq).elim, fun _ => .inr ⟨hnext j hj c hc, hstart⟩⟩
      · rw [if_neg hj]
        exact ⟨rfl, fun heq => (hi heq).elim, fun _ => .inl rfl⟩
  · intro j
    rw [caller?_moveTo, caller?_moveTo, hu, Option.isSome_map, Option.isSome_map]

lemma Moves.caller?_self (h : t.Moves u i phase) (hc : t.caller? i = some c) :
    u.caller? i = some { c with phase } := by
  have hsome := h.new i
  rw [hc] at hsome
  obtain ⟨d, hd⟩ := Option.isSome_iff_exists.1 hsome
  obtain ⟨c', hc', hsame, hphase, -⟩ := h.old i d hd
  rw [hc] at hc'
  cases hc'
  rw [hd, hsame, hphase rfl]

lemma Moves.result?_self (h : t.Moves u i phase) (hc : t.caller? i = some c) :
    u.result? i = phase.result? := result?_of_caller? (h.caller?_self hc)

lemma Moves.result?_of_ne (h : t.Moves u i phase) (hj : j ≠ i) : u.result? j = t.result? j := by
  cases hd : u.caller? j with
  | none =>
    cases hc : t.caller? j with
    | none =>
      unfold result?
      rw [hd, hc]
    | some c =>
      have hnone := h.new j
      rw [hd, hc] at hnone
      cases hnone
  | some d =>
    obtain ⟨c, hc, -, -, hother⟩ := h.old j d hd
    rw [result?_of_caller? hd, result?_of_caller? hc]
    rcases hother hj with heq | ⟨hidle, hidle'⟩
    · rw [heq]
    · rw [hidle.2, hidle'.2]

lemma Moves.busy_of_ne (h : t.Moves u i phase) (hj : j ≠ i) {d : Caller}
    (hd : u.caller? j = some d) (hbusy : d.phase.busy = true) :
    ∃ c, t.caller? j = some c ∧ c.phase.busy = true := by
  obtain ⟨c, hc, -, -, hother⟩ := h.old j d hd
  refine ⟨c, hc, ?_⟩
  rcases hother hj with heq | ⟨-, hidle⟩
  · rw [← heq, hbusy]
  · rw [hidle.1] at hbusy
    cases hbusy

lemma Moves.caller?_of_busy (h : t.Moves u i phase) (hj : j ≠ i) (hc : t.caller? j = some c)
    (hbusy : c.phase.busy = true) : u.caller? j = some c := by
  have hsome := h.new j
  rw [hc] at hsome
  obtain ⟨d, hd⟩ := Option.isSome_iff_exists.1 hsome
  obtain ⟨c', hc', hsame, -, hother⟩ := h.old j d hd
  rw [hc] at hc'
  cases hc'
  rcases hother hj with heq | ⟨hidle, -⟩
  · rw [hd, hsame, heq]
  · rw [hidle.1] at hbusy
    cases hbusy

/-- What the busy caller `c`, whose cancellation fired after `fired` of its requests, has done since
the last turn: the requests `block`, which have taken the engine to `s`. -/
inductive Doing (engine : Engine σ) (fired : Option Nat) (l : Ledger σ) (c : Caller)
    (kept : Option Balancer) (s : σ) (block : List Request) : Phase → Prop
  | looksUp (n : Nat) (rest : Procedure BalancerError Balancer)
    (habsent : l.fleet.balancer? c.spec.name = none) (hkept : kept = none)
    (hpart : Partway engine fired (requestsOf l.made c.id) (Balancer.lookUp l.fleet.plan c.spec)
      l.engine s block (.onward rest)) :
    Doing engine fired l c kept s block (.looksUp n rest)
  | stuckInLookUp (n : Nat) (ifCancelled : Option BalancerError)
    (habsent : l.fleet.balancer? c.spec.name = none) (hkept : kept = none)
    (hpart : Partway engine fired (requestsOf l.made c.id) (Balancer.lookUp l.fleet.plan c.spec)
      l.engine s block (.ended (.blocked ifCancelled))) :
    Doing engine fired l c kept s block (.stuckInLookUp n ifCancelled)
  | works (n : Nat) (rest : Procedure BalancerError (Balancer × Balancer.Answer)) (b : Balancer)
    (hb : l.fleet.balancer? c.spec.name = some b)
    (hkept : kept = some (b.withImage (c.spec.resolveImage l.fleet.plan.image)))
    (hpart : Partway engine fired (requestsOf l.made c.id)
      ((b.withImage (c.spec.resolveImage l.fleet.plan.image)).perform l.fleet.plan c.task)
      l.engine s block (.onward rest)) :
    Doing engine fired l c kept s block (.works n rest)
  | stuckInWork (n : Nat) (ifCancelled : Option BalancerError) (b : Balancer)
    (hb : l.fleet.balancer? c.spec.name = some b)
    (hkept : kept = some (b.withImage (c.spec.resolveImage l.fleet.plan.image)))
    (hpart : Partway engine fired (requestsOf l.made c.id)
      ((b.withImage (c.spec.resolveImage l.fleet.plan.image)).perform l.fleet.plan c.task)
      l.engine s block (.ended (.blocked ifCancelled))) :
    Doing engine fired l c kept s block (.stuckInWork n ifCancelled)

/-- How traffic stands to what has come of the turns. -/
inductive Standing (engine : Engine σ) (cluster : String) (firings : List (Nat × Nat))
    (l : Ledger σ) (t : Traffic σ) : Prop
  | idle (hidle : ∀ i c, t.caller? i = some c → c.phase.busy = false)
    (hengine : t.engine = l.engine) (hmade : t.made = l.made)
    (hbalancer : t.balancer? cluster = l.fleet.balancer? cluster) :
    Standing engine cluster firings l t
  | busy (i : Nat) (c : Caller) (block : List Request) (hc : t.caller? i = some c)
    (honly : ∀ j d, t.caller? j = some d → d.phase.busy = true → j = i)
    (hmade : t.made = l.made ++ block.map (i, ·))
    (hdoing : Doing engine (firings.lookup i) l c (t.balancer? cluster) t.engine block c.phase) :
    Standing engine cluster firings l t

/-- A ledger goes with traffic for a cluster in which cancellations have fired. -/
structure Book (engine : Engine σ) (cluster : String) (firings : List (Nat × Nat)) (l : Ledger σ)
    (t : Traffic σ) : Prop where
  plan : l.fleet.plan = t.plan
  results : ∀ i result, t.result? i = some result ↔ (i, result) ∈ l.results
  cancelled : ∀ i c, t.caller? i = some c → c.cancelled = (firings.lookup i).isSome
  fired : ∀ i k, firings.lookup i = some k → k ≤ requestsOf t.made i
  standing : t.Standing engine cluster firings l

variable {engine : Engine σ} {cluster : String} {firings : List (Nat × Nat)} {l l' : Ledger σ}
  {kept : Option Balancer} {s : σ} {block : List Request}

lemma Doing.busy {fired : Option Nat} (h : Doing engine fired l c kept s block phase) :
    phase.busy = true := by
  cases h <;> rfl

/-- A caller goes to a phase, and the ledger goes along. -/
lemma Book.of_moves (h : t.Book engine cluster firings l) (hmoves : t.Moves u i phase)
    (hc : t.caller? i = some c) (hnot : c.phase.result? = none) (hplan : l'.fleet.plan = u.plan)
    (hmade : ∀ j, requestsOf t.made j ≤ requestsOf u.made j)
    (hresults : l'.results = l.results ++ phase.result?.toList.map (i, ·))
    (hstanding : u.Standing engine cluster firings l') : u.Book engine cluster firings l' := by
  refine ⟨hplan, fun j result => ?_, fun j d hd => ?_, fun j k hk => ?_, hstanding⟩
  · have hlast : (j, result) ∈ phase.result?.toList.map (i, ·) ↔
        j = i ∧ phase.result? = some result := by
      cases phase.result? with
      | none => simp
      | some result' => simp [eq_comm]
    rw [hresults, List.mem_append, hlast, ← h.results]
    by_cases hj : j = i
    · rw [hj, hmoves.result?_self hc, result?_of_caller? hc, hnot]
      simp
    · rw [hmoves.result?_of_ne hj]
      simp [hj]
  · obtain ⟨c', hc', hd', -⟩ := hmoves.old j d hd
    rw [← h.cancelled j c' hc', hd']
  · exact Nat.le_trans (h.fired j k hk) (hmade j)

/-- When an idle caller goes on, while others are let go on, nothing else changes. -/
lemma Book.quiet (h : t.Book engine cluster firings l) (hmoves : t.Moves u i phase)
    (hc : t.caller? i = some c) (hidle : c.phase.Idle) (hphase : phase.Idle)
    (hplan : u.plan = t.plan) (hengine : u.engine = t.engine) (hmade : u.made = t.made)
    (hbalancer : u.balancer? cluster = t.balancer? cluster) :
    u.Book engine cluster firings l := by
  have hbusy : ∀ j d, u.caller? j = some d → d.phase.busy = true →
      ∃ c, t.caller? j = some c ∧ c.phase.busy = true := by
    intro j d hd hbusy
    by_cases hj : j = i
    · obtain ⟨c', hc', -, hphase', -⟩ := hmoves.old j d hd
      rw [hphase' hj, hphase.1] at hbusy
      cases hbusy
    · exact hmoves.busy_of_ne hj hd hbusy
  refine h.of_moves hmoves hc hidle.2 (h.plan.trans hplan.symm)
    (fun j => Nat.le_of_eq (by rw [hmade]))
    (by rw [hphase.2]; simp) ?_
  cases h.standing with
  | idle hnobody hengine' hmade' hbalancer' =>
    refine .idle (fun j d hd => ?_) (hengine.trans hengine') (hmade.trans hmade')
      (hbalancer.trans hbalancer')
    by_contra hne
    obtain ⟨c', hc', hbusy'⟩ := hbusy j d hd (by simpa using hne)
    rw [hnobody j c' hc'] at hbusy'
    cases hbusy'
  | busy j c' block hc' honly hmade' hdoing =>
    have hj : j ≠ i := by
      rintro rfl
      rw [hc] at hc'
      cases hc'
      have hbusy' := hdoing.busy
      rw [hidle.1] at hbusy'
      cases hbusy'
    refine .busy j c' block (hmoves.caller?_of_busy hj hc' hdoing.busy) (fun k d hd hbusy' => ?_)
      (hmade.trans hmade') ?_
    · obtain ⟨d', hd', hbusy''⟩ := hbusy k d hd hbusy'
      exact honly k d' hd' hbusy''
    · rw [hbalancer, hengine]
      exact hdoing

/-- When a caller starts to look up or to work, nobody else is busy. -/
lemma Book.begins (h : t.Book engine cluster firings l) (hmoves : t.Moves u i phase)
    (hc : t.caller? i = some c) (hidle : c.phase.Idle)
    (hnobody : ∀ j d, t.caller? j = some d → d.phase.busy = false) (hplan : u.plan = t.plan)
    (hengine : u.engine = t.engine) (hmade : u.made = t.made)
    (hdoing : t.made = l.made → t.balancer? cluster = l.fleet.balancer? cluster →
      Doing engine (firings.lookup i) l { c with phase } (u.balancer? cluster) l.engine [] phase) :
    u.Book engine cluster firings l := by
  obtain ⟨hengine', hmade', hbalancer⟩ : t.engine = l.engine ∧ t.made = l.made ∧
      t.balancer? cluster = l.fleet.balancer? cluster := by
    cases h.standing with
    | idle hidle hengine hmade hbalancer => exact ⟨hengine, hmade, hbalancer⟩
    | busy j d block hd honly hmade hdoing =>
      have hbusy := hdoing.busy
      rw [hnobody j d hd] at hbusy
      cases hbusy
  have hdoing' := hdoing hmade' hbalancer
  refine h.of_moves hmoves hc hidle.2 (h.plan.trans hplan.symm)
    (fun j => Nat.le_of_eq (by rw [hmade]))
    (by rw [Phase.result?_of_busy hdoing'.busy]; simp) ?_
  refine .busy i _ [] (hmoves.caller?_self hc) (fun j d hd hbusy => ?_) ?_ ?_
  · by_contra hj
    obtain ⟨d', hd', hbusy'⟩ := hmoves.busy_of_ne hj hd hbusy
    rw [hnobody j d' hd'] at hbusy'
    cases hbusy'
  · rw [hmade, hmade']
    simp
  · rw [hengine, hengine']
    exact hdoing'

/-- What the book says of a busy caller. -/
lemma Book.doing (h : t.Book engine cluster firings l) (hc : t.caller? i = some c)
    (hbusy : c.phase.busy = true) :
    (∀ j d, t.caller? j = some d → d.phase.busy = true → j = i) ∧
    ∃ block, t.made = l.made ++ block.map (i, ·) ∧
      Doing engine (firings.lookup i) l c (t.balancer? cluster) t.engine block c.phase := by
  cases h.standing with
  | idle hidle hengine hmade hbalancer =>
    rw [hidle i c hc] at hbusy
    cases hbusy
  | busy j d block hd honly hmade hdoing =>
    obtain rfl := honly i c hc hbusy
    rw [hc] at hd
    cases hd
    exact ⟨honly, block, hmade, hdoing⟩

/-- A busy caller goes on. -/
lemma Book.goesOn (h : t.Book engine cluster firings l) (hmoves : t.Moves u i phase)
    (hc : t.caller? i = some c) (hbusy : c.phase.busy = true) {p : Progress σ}
    (hplan : u.plan = t.plan) (hengine : u.engine = p.engine)
    (hmade : u.made = t.made ++ p.made.map (i, ·))
    (hbalancer : u.balancer? cluster = t.balancer? cluster)
    (hdoing : ∀ block,
      Doing engine (firings.lookup i) l c (t.balancer? cluster) t.engine block c.phase →
      Doing engine (firings.lookup i) l { c with phase } (t.balancer? cluster) p.engine
        (block ++ p.made) phase) :
    u.Book engine cluster firings l := by
  obtain ⟨honly, block, hmade', hdoing'⟩ := h.doing hc hbusy
  have hnext := hdoing block hdoing'
  refine h.of_moves hmoves hc (Phase.result?_of_busy hbusy) (h.plan.trans hplan.symm)
    (fun j => ?_) (by rw [Phase.result?_of_busy hnext.busy]; simp) ?_
  · rw [hmade]
    exact requestsOf_le_append _ _ j
  · refine .busy i _ (block ++ p.made) (hmoves.caller?_self hc) (fun j d hd hbusy' => ?_) ?_ ?_
    · by_contra hj
      obtain ⟨d', hd', hbusy''⟩ := hmoves.busy_of_ne hj hd hbusy'
      exact hj (honly j d' hd' hbusy'')
    · rw [hmade, hmade', List.map_append, List.append_assoc]
    · rw [hbalancer, hengine]
      exact hnext

/-- When a busy caller is no longer busy, a turn has been taken. -/
lemma Book.ends (h : t.Book engine cluster firings l) (hmoves : t.Moves u i phase)
    (hc : t.caller? i = some c) (hbusy : c.phase.busy = true) (hphase : phase.busy = false)
    (hplan : l'.fleet.plan = u.plan) (hengine : u.engine = l'.engine) (hmade : u.made = l'.made)
    (hle : ∀ j, requestsOf t.made j ≤ requestsOf u.made j)
    (hbalancer : u.balancer? cluster = l'.fleet.balancer? cluster)
    (hresults : l'.results = l.results ++ phase.result?.toList.map (i, ·)) :
    u.Book engine cluster firings l' := by
  obtain ⟨honly, -⟩ := h.doing hc hbusy
  refine h.of_moves hmoves hc (Phase.result?_of_busy hbusy) hplan hle hresults ?_
  refine .idle (fun j d hd => ?_) hengine hmade hbalancer
  by_cases hj : j = i
  · obtain ⟨c', hc', -, hphase', -⟩ := hmoves.old j d hd
    rw [hphase' hj, hphase]
  · by_contra hne
    obtain ⟨d', hd', hbusy'⟩ := hmoves.busy_of_ne hj hd (by simpa using hne)
    exact hj (honly j d' hd' hbusy')

/-! ### Turns that are taken -/

/-- Whether the caller `c` takes a turn, after which the book is right for the traffic `u`. -/
def TakesTurn (engine : Engine σ) (cluster : String) (firings : List (Nat × Nat)) (l : Ledger σ)
    (c : Caller) (u : Traffic σ) : Prop :=
  ∃ turn l', l.Take engine turn l' ∧
    (turn.errand.caller = c.id ∧ turn.errand.spec = c.spec ∧ turn.errand.task = c.task) ∧
    turn.errand.cancellation.Fits (firings.lookup c.id) (requestsOf l.made c.id)
      (requestsOf l'.made c.id) ∧
    u.Book engine cluster firings l'

lemma idle_of_waiting {n : Nat} {slot : Slot} (horder : t.Orderly cluster)
    (htable : t.table.get? cluster = some n) (hslot : t.slots[n]? = some slot)
    (hj : j ∈ slot.lookUp.waiting ∨ j ∈ slot.lock.waiting) (hc : t.caller? j = some c) :
    c.phase.Idle := by
  obtain ⟨slot', hslot', horderly⟩ := horder.slotted n htable
  rw [hslot] at hslot'
  cases hslot'
  refine Phase.idle_of_place ?_
  rcases hj with hj | hj
  · exact .inl ((horderly.lookUp.waiting_iff j _ (place?_of_caller? hc)).2 hj)
  · exact .inr ((horderly.lock.waiting_iff j _ (place?_of_caller? hc)).2 hj)

lemma fits_ended {k : Cancellation} {fired : Option Nat} {m : Nat}
    (h : k.Fits fired (requestsOf l.made i) (requestsOf l.made i + m)) {requests : List Request}
    (hlength : requests.length = m) :
    k.Fits fired (requestsOf l.made i) (requestsOf (l.made ++ requests.map (i, ·)) i) := by
  rw [requestsOf_append, requestsOf_map, if_pos rfl, hlength]
  exact h

variable {n : Nat} {slot : Slot}

lemma moves_lookedUp (horder : t.Orderly cluster) (htable : t.table.get? cluster = some n)
    (hslot : t.slots[n]? = some slot) (p : Progress σ) (i : Nat) (b : Balancer) :
    t.Moves ((t.progressed i p).lookedUp i n slot b).1 i (.atLock n) := by
  have hidle : (Phase.atLock n).Idle := ⟨rfl, rfl⟩
  refine moves_moveTo (t := t) (u := (t.progressed i p).changeSlot n fun s =>
    { s with balancer := some b, lookUp := {} }) rfl List.mem_cons_self fun j hj hne => ?_
  rcases List.mem_cons.1 hj with rfl | hj
  · exact (hne rfl).elim
  · exact ⟨hidle, fun c hc => idle_of_waiting horder htable hslot (.inl hj) hc⟩

lemma moves_lookUpFailed (horder : t.Orderly cluster) (htable : t.table.get? cluster = some n)
    (hslot : t.slots[n]? = some slot) (s : σ) (made : List (Nat × Request)) (i : Nat)
    (e : BalancerError) :
    t.Moves (({ t with engine := s, made } : Traffic σ).lookUpFailed i n slot e).1 i
      (.returned (.error e)) := by
  have hidle : (Phase.startsLookUp n).Idle := ⟨rfl, rfl⟩
  refine moves_handOver (t := t)
    (u := ({ t with engine := s, made } : Traffic σ).changeSlot n fun s =>
      { s with lookUp := slot.lookUp.leave }) rfl hidle (fun j hj c hc => ?_) i _
  exact idle_of_waiting horder htable hslot (.inl (List.mem_of_mem_take hj)) hc

lemma moves_workEnded (horder : t.Orderly cluster) (htable : t.table.get? cluster = some n)
    (hslot : t.slots[n]? = some slot) (s : σ) (made : List (Nat × Request)) (i : Nat)
    (result : Except BalancerError (Balancer × Balancer.Answer)) :
    t.Moves (({ t with engine := s, made } : Traffic σ).workEnded i n slot result).1 i
      (.returned (result.map (·.2))) := by
  have hidle : (Phase.startsWork n).Idle := ⟨rfl, rfl⟩
  refine moves_handOver (t := t)
    (u := ({ t with engine := s, made } : Traffic σ).changeSlot n _) rfl hidle
    (fun j hj c hc => ?_) i _
  exact idle_of_waiting horder htable hslot (.inr (List.mem_of_mem_take hj)) hc

lemma Book.finishesLookUp (h : t.Book engine cluster firings l) (horder : t.Orderly cluster)
    (hc : t.caller? c.id = some c) {work : Procedure BalancerError Balancer} {pace : Pace}
    {p : Progress σ} {b : Balancer} (hphase : c.phase = .looksUp n work)
    (hslot : t.slots[n]? = some slot)
    (hadvance : work.advance engine c.cancelled { engine := t.engine } pace =
      (p, .ended (.finished (.ok b)))) :
    TakesTurn engine cluster firings l c ((t.progressed c.id p).lookedUp c.id n slot b).1 := by
  have hbusy : c.phase.busy = true := by rw [hphase]; rfl
  obtain ⟨htable, -⟩ := horder.slot_of_caller? hc (by rw [hphase]; rfl) hslot
  have hmoves := moves_lookedUp horder htable hslot p c.id b
  obtain ⟨-, block, hmade, hdoing⟩ := h.doing hc hbusy
  rw [hphase] at hdoing
  rw [h.cancelled _ c hc] at hadvance
  cases hdoing with
  | looksUp _ _ habsent hkept hpart =>
    obtain ⟨k, hfits, houtcome⟩ := hpart.finished_of_advance hadvance
    obtain ⟨q, hrun, hengine, hmade'⟩ := run_of_outcome houtcome
    refine ⟨_, _, .lookUp ⟨c.id, c.spec, c.task, k⟩ q b habsent hrun, ⟨rfl, rfl, rfl⟩,
      fits_ended hfits (by rw [hmade']), ?_⟩
    refine h.ends hmoves hc hbusy rfl h.plan hengine.symm ?_ ?_ ?_ ?_
    · change t.made ++ p.made.map (c.id, ·) = _
      rw [hmade, hmade', List.map_append, List.append_assoc]
    · intro j
      change _ ≤ requestsOf (t.made ++ p.made.map (c.id, ·)) j
      exact requestsOf_le_append _ _ j
    · have hfound := balancer?_of_slot (t := (t.progressed c.id p).changeSlot n fun s =>
        { s with balancer := some b, lookUp := {} }) htable (getElem?_changeSlot hslot _)
      dsimp only
      rw [Fleet.balancer?_keep, if_pos (horder.named _ c hc).symm]
      exact hfound
    · simp [Phase.result?]

lemma Book.lookUpFailed (h : t.Book engine cluster firings l) (horder : t.Orderly cluster)
    (hc : t.caller? c.id = some c) (hbusy : c.phase.busy = true) (hplace : c.phase.place = .lookUp)
    (hn : c.phase.slot? = some n) (hslot : t.slots[n]? = some slot)
    (habsent : l.fleet.balancer? c.spec.name = none) {k : Cancellation} {s : σ}
    {block : List Request} {e : BalancerError} {made : List (Nat × Request)}
    (hfits : k.Fits (firings.lookup c.id) (requestsOf l.made c.id)
      (requestsOf l.made c.id + block.length))
    (houtcome : (Balancer.lookUp l.fleet.plan c.spec).outcome engine k l.engine [] =
      (s, block, .finished (.error e)))
    (hmade : made = l.made ++ block.map (c.id, ·))
    (hle : ∀ j, requestsOf t.made j ≤ requestsOf made j) :
    TakesTurn engine cluster firings l c
      (({ t with engine := s, made } : Traffic σ).lookUpFailed c.id n slot e).1 := by
  obtain ⟨htable, horderly⟩ := horder.slot_of_caller? hc hn hslot
  have hmoves := moves_lookUpFailed horder htable hslot s made c.id e
  obtain ⟨q, hperform, hengine, hmade'⟩ :=
    Fleet.perform_of_lookUp_fails c.task habsent houtcome
  have htake := Ledger.Take.lookUpFails ⟨c.id, c.spec, c.task, k⟩ _ q e habsent hperform
    (by rw [Fleet.balancer?_track]; exact habsent)
  refine ⟨_, _, htake, ⟨rfl, rfl, rfl⟩, fits_ended hfits (by rw [hmade']), ?_⟩
  refine h.ends hmoves hc hbusy rfl (htake.plan_eq.trans h.plan) hengine.symm ?_ hle ?_ rfl
  · change made = l.made ++ q.made.map (c.id, ·)
    rw [hmade, hmade']
  · have hstill := balancer?_of_slot (t := t.changeSlot n fun s =>
      { s with lookUp := slot.lookUp.leave }) htable (getElem?_changeSlot hslot _)
    have hnone := horderly.balancer_eq_none ((place?_of_caller? hc).trans (by rw [hplace]))
    dsimp only [Ledger.ended]
    rw [Fleet.balancer?_track, ← horder.named _ c hc, habsent, horder.named _ c hc]
    exact hstill.trans hnone

lemma Book.workEnded (h : t.Book engine cluster firings l) (horder : t.Orderly cluster)
    (hc : t.caller? c.id = some c) (hbusy : c.phase.busy = true)
    (hn : c.phase.slot? = some n) (hslot : t.slots[n]? = some slot) {b : Balancer}
    (hb : l.fleet.balancer? c.spec.name = some b)
    (hkept : t.balancer? cluster = some (b.withImage (c.spec.resolveImage l.fleet.plan.image)))
    {k : Cancellation} {s : σ} {block : List Request}
    {result : Except BalancerError (Balancer × Balancer.Answer)} {made : List (Nat × Request)}
    (hfits : k.Fits (firings.lookup c.id) (requestsOf l.made c.id)
      (requestsOf l.made c.id + block.length))
    (houtcome : ((b.withImage (c.spec.resolveImage l.fleet.plan.image)).perform l.fleet.plan
      c.task).outcome engine k l.engine [] = (s, block, .finished result))
    (hmade : made = l.made ++ block.map (c.id, ·))
    (hle : ∀ j, requestsOf t.made j ≤ requestsOf made j) :
    TakesTurn engine cluster firings l c
      (({ t with engine := s, made } : Traffic σ).workEnded c.id n slot result).1 := by
  obtain ⟨htable, horderly⟩ := horder.slot_of_caller? hc hn hslot
  have hmoves := moves_workEnded horder htable hslot s made c.id result
  obtain ⟨q, hperform, hengine, hmade'⟩ := Fleet.perform_of_some hb houtcome
  have htake := Ledger.Take.work ⟨c.id, c.spec, c.task, k⟩ _ q _ (by rw [hb]; rfl) hperform
  refine ⟨_, _, htake, ⟨rfl, rfl, rfl⟩, fits_ended hfits (by rw [hmade']), ?_⟩
  refine h.ends hmoves hc hbusy rfl (htake.plan_eq.trans h.plan) hengine.symm ?_ hle ?_ rfl
  · change made = l.made ++ q.made.map (c.id, ·)
    rw [hmade, hmade']
  · have hname := horder.named _ c hc
    have hbalancer := balancer?_of_slot htable hslot
    rw [hkept] at hbalancer
    dsimp only [Ledger.ended]
    rw [Fleet.balancer?_keep, if_pos hname.symm]
    cases result with
    | ok value =>
      exact balancer?_of_slot (t := t.changeSlot n fun s =>
        { s with balancer := some value.1, lock := slot.lock.leave }) htable
        (getElem?_changeSlot hslot _)
    | error e =>
      exact (balancer?_of_slot (t := t.changeSlot n fun s =>
        { s with balancer := slot.balancer, lock := slot.lock.leave }) htable
        (getElem?_changeSlot hslot _)).trans hbalancer.symm

/-- While it is a caller's turn to look up or to work, nobody else is busy. -/
lemma Orderly.nobody_busy (horder : t.Orderly cluster) (hc : t.caller? i = some c)
    (hn : c.phase.slot? = some n) (hslot : t.slots[n]? = some slot)
    (hplace : c.phase.place = .lookUp ∨ c.phase.place = .lock) (hidle : c.phase.Idle) :
    ∀ j d, t.caller? j = some d → d.phase.busy = false := by
  intro j d hd
  by_contra hbusy
  have hbusy : d.phase.busy = true := by simpa using hbusy
  obtain ⟨-, horderly⟩ := horder.slot_of_caller? hc hn hslot
  obtain rfl := horderly.eq_of_engaged (place?_of_caller? hc) (place?_of_caller? hd) hplace
    (Phase.place_of_busy hbusy)
  rw [hc] at hd
  cases hd
  rw [hidle.1] at hbusy
  cases hbusy

lemma Book.beginsLookUp (h : t.Book engine cluster firings l) (horder : t.Orderly cluster)
    (hc : t.caller? c.id = some c) (hphase : c.phase = .startsLookUp n)
    (hslot : t.slots[n]? = some slot) :
    (t.moveTo [c.id] (.looksUp n (Balancer.lookUp t.plan c.spec))).Book engine cluster firings
      l := by
  have hn : c.phase.slot? = some n := by rw [hphase]; rfl
  have hplace : c.phase.place = .lookUp := by rw [hphase]; rfl
  have hidle : c.phase.Idle := by rw [hphase]; exact ⟨rfl, rfl⟩
  obtain ⟨htable, horderly⟩ := horder.slot_of_caller? hc hn hslot
  have hnone : t.balancer? cluster = none := by
    rw [balancer?_of_slot htable hslot]
    exact horderly.balancer_eq_none ((place?_of_caller? hc).trans (by rw [hplace]))
  refine h.begins (moves_self (by rfl) _ _) hc hidle
    (horder.nobody_busy hc hn hslot (.inl hplace) hidle) rfl rfl rfl fun hmade hbalancer => ?_
  rw [← h.plan]
  refine .looksUp n _ ?_ hnone (partway_start engine _ _ fun k hk => ?_)
  · rw [horder.named _ c hc, ← hbalancer, hnone]
  · rw [← hmade]
    exact h.fired _ k hk

lemma Book.beginsWork (h : t.Book engine cluster firings l) (horder : t.Orderly cluster)
    (hc : t.caller? c.id = some c) (hphase : c.phase = .startsWork n)
    (hslot : t.slots[n]? = some slot) {b : Balancer} (hb : slot.balancer = some b) :
    ((t.changeSlot n fun s => { s with
      balancer := some (b.withImage (c.spec.resolveImage t.plan.image)) }).moveTo [c.id]
        (.works n ((b.withImage (c.spec.resolveImage t.plan.image)).perform t.plan c.task))).Book
      engine cluster firings l := by
  have hn : c.phase.slot? = some n := by rw [hphase]; rfl
  have hplace : c.phase.place = .lock := by rw [hphase]; rfl
  have hidle : c.phase.Idle := by rw [hphase]; exact ⟨rfl, rfl⟩
  obtain ⟨htable, -⟩ := horder.slot_of_caller? hc hn hslot
  rw [← h.plan]
  refine h.begins (moves_self (by rfl) _ _) hc hidle
    (horder.nobody_busy hc hn hslot (.inr hplace) hidle) rfl rfl rfl fun hmade hbalancer => ?_
  refine .works n _ b ?_ ?_ (partway_start engine _ _ fun k hk => ?_)
  · rw [horder.named _ c hc, ← hbalancer, balancer?_of_slot htable hslot, hb]
  · exact balancer?_of_slot (t := t.changeSlot n fun s => { s with
      balancer := some (b.withImage (c.spec.resolveImage l.fleet.plan.image)) }) htable
      (getElem?_changeSlot hslot _)
  · rw [← hmade]
    exact h.fired _ k hk

lemma Book.opens (h : t.Book engine cluster firings l) (hc : t.caller? i = some c)
    (hphase : c.phase = .missed) (htable : t.table.get? cluster = none) :
    (moveTo { t with
      table := t.table.insert cluster t.slots.length
      slots := t.slots ++ [({} : Slot)] } [i] (.atSlot t.slots.length)).Book engine cluster firings
      l := by
  refine h.quiet (moves_self (by rfl) _ _) hc (by rw [hphase]; exact ⟨rfl, rfl⟩) ⟨rfl, rfl⟩ rfl rfl
    rfl ?_
  have hnone : t.balancer? cluster = none := by
    unfold balancer?
    rw [htable]
    rfl
  let opened : Traffic σ := { t with
    table := t.table.insert cluster t.slots.length
    slots := t.slots ++ [({} : Slot)] }
  have hlast : opened.slots[t.slots.length]? = some {} := by simp [opened]
  rw [hnone]
  exact balancer?_of_slot (t := opened) (NameMap.get?_insert_self _ _ _) hlast

section

variable {fired : Option Nat} {pace : Pace} {p : Progress σ}

lemma Doing.looksOn {work rest : Procedure BalancerError Balancer}
    (h : Doing engine fired l c kept s block (.looksUp n work))
    (hadvance : work.advance engine fired.isSome { engine := s } pace = (p, .onward rest)) :
    Doing engine fired l { c with phase } kept p.engine (block ++ p.made) (.looksUp n rest) := by
  cases h with
  | looksUp _ _ habsent hkept hpart =>
    exact .looksUp n rest habsent hkept (hpart.onward_of_advance hadvance)

lemma Doing.sticksInLookUp {work : Procedure BalancerError Balancer}
    {ifCancelled : Option BalancerError}
    (h : Doing engine fired l c kept s block (.looksUp n work))
    (hadvance : work.advance engine fired.isSome { engine := s } pace =
      (p, .ended (.blocked ifCancelled))) :
    Doing engine fired l { c with phase } kept p.engine (block ++ p.made)
      (.stuckInLookUp n ifCancelled) := by
  cases h with
  | looksUp _ _ habsent hkept hpart =>
    exact .stuckInLookUp n ifCancelled habsent hkept (hpart.blocked_of_advance hadvance)

lemma Doing.worksOn {work rest : Procedure BalancerError (Balancer × Balancer.Answer)}
    (h : Doing engine fired l c kept s block (.works n work))
    (hadvance : work.advance engine fired.isSome { engine := s } pace = (p, .onward rest)) :
    Doing engine fired l { c with phase } kept p.engine (block ++ p.made) (.works n rest) := by
  cases h with
  | works _ _ b hb hkept hpart =>
    exact .works n rest b hb hkept (hpart.onward_of_advance hadvance)

lemma Doing.sticksInWork {work : Procedure BalancerError (Balancer × Balancer.Answer)}
    {ifCancelled : Option BalancerError}
    (h : Doing engine fired l c kept s block (.works n work))
    (hadvance : work.advance engine fired.isSome { engine := s } pace =
      (p, .ended (.blocked ifCancelled))) :
    Doing engine fired l { c with phase } kept p.engine (block ++ p.made)
      (.stuckInWork n ifCancelled) := by
  cases h with
  | works _ _ b hb hkept hpart =>
    exact .stuckInWork n ifCancelled b hb hkept (hpart.blocked_of_advance hadvance)

lemma Book.failsLookUp (h : t.Book engine cluster firings l) (horder : t.Orderly cluster)
    (hc : t.caller? c.id = some c) {work : Procedure BalancerError Balancer} {e : BalancerError}
    (hphase : c.phase = .looksUp n work) (hslot : t.slots[n]? = some slot)
    (hadvance : work.advance engine c.cancelled { engine := t.engine } pace =
      (p, .ended (.finished (.error e)))) :
    TakesTurn engine cluster firings l c ((t.progressed c.id p).lookUpFailed c.id n slot e).1 := by
  have hbusy : c.phase.busy = true := by rw [hphase]; rfl
  obtain ⟨-, block, hmade, hdoing⟩ := h.doing hc hbusy
  rw [hphase] at hdoing
  rw [h.cancelled _ c hc] at hadvance
  cases hdoing with
  | looksUp _ _ habsent hkept hpart =>
    obtain ⟨k, hfits, houtcome⟩ := hpart.finished_of_advance hadvance
    refine h.lookUpFailed horder hc hbusy (by rw [hphase]; rfl) (by rw [hphase]; rfl) hslot
      habsent hfits houtcome ?_ fun j => ?_
    · rw [hmade, List.map_append, List.append_assoc]
    · exact requestsOf_le_append _ _ j

lemma Book.leavesLookUp (h : t.Book engine cluster firings l) (horder : t.Orderly cluster)
    (hc : t.caller? c.id = some c) {e : BalancerError}
    (hphase : c.phase = .stuckInLookUp n (some e)) (hslot : t.slots[n]? = some slot)
    (hfired : c.cancelled = true) :
    TakesTurn engine cluster firings l c (t.lookUpFailed c.id n slot e).1 := by
  have hbusy : c.phase.busy = true := by rw [hphase]; rfl
  obtain ⟨-, block, hmade, hdoing⟩ := h.doing hc hbusy
  rw [hphase] at hdoing
  rw [h.cancelled _ c hc] at hfired
  cases hdoing with
  | stuckInLookUp _ _ habsent hkept hpart =>
    obtain ⟨k, hfits, houtcome⟩ := hpart.finished_of_fired hfired
    exact h.lookUpFailed horder hc hbusy (by rw [hphase]; rfl) (by rw [hphase]; rfl) hslot
      habsent hfits houtcome hmade fun j => Nat.le_refl _

lemma Book.finishesWork (h : t.Book engine cluster firings l) (horder : t.Orderly cluster)
    (hc : t.caller? c.id = some c)
    {work : Procedure BalancerError (Balancer × Balancer.Answer)}
    {result : Except BalancerError (Balancer × Balancer.Answer)}
    (hphase : c.phase = .works n work) (hslot : t.slots[n]? = some slot)
    (hadvance : work.advance engine c.cancelled { engine := t.engine } pace =
      (p, .ended (.finished result))) :
    TakesTurn engine cluster firings l c
      ((t.progressed c.id p).workEnded c.id n slot result).1 := by
  have hbusy : c.phase.busy = true := by rw [hphase]; rfl
  obtain ⟨-, block, hmade, hdoing⟩ := h.doing hc hbusy
  rw [hphase] at hdoing
  rw [h.cancelled _ c hc] at hadvance
  cases hdoing with
  | works _ _ b hb hkept hpart =>
    obtain ⟨k, hfits, houtcome⟩ := hpart.finished_of_advance hadvance
    refine h.workEnded horder hc hbusy (by rw [hphase]; rfl) hslot hb hkept hfits houtcome ?_
      fun j => ?_
    · rw [hmade, List.map_append, List.append_assoc]
    · exact requestsOf_le_append _ _ j

lemma Book.leavesWork (h : t.Book engine cluster firings l) (horder : t.Orderly cluster)
    (hc : t.caller? c.id = some c) {e : BalancerError}
    (hphase : c.phase = .stuckInWork n (some e)) (hslot : t.slots[n]? = some slot)
    (hfired : c.cancelled = true) :
    TakesTurn engine cluster firings l c (t.workEnded c.id n slot (.error e)).1 := by
  have hbusy : c.phase.busy = true := by rw [hphase]; rfl
  obtain ⟨-, block, hmade, hdoing⟩ := h.doing hc hbusy
  rw [hphase] at hdoing
  rw [h.cancelled _ c hc] at hfired
  cases hdoing with
  | stuckInWork _ _ b hb hkept hpart =>
    obtain ⟨k, hfits, houtcome⟩ := hpart.finished_of_fired hfired
    exact h.workEnded horder hc hbusy (by rw [hphase]; rfl) hslot hb hkept hfits houtcome hmade
      fun j => Nat.le_refl _

end

/-- A step keeps the book, or it takes a turn. -/
theorem Book.goes (h : t.Book engine cluster firings l) (horder : t.Orderly cluster)
    (hc : t.caller? c.id = some c) (hgoes : t.Goes engine c u) :
    u.Book engine cluster firings l ∨
      c.phase.result? = none ∧ TakesTurn engine cluster firings l c u := by
  have hcancelled := h.cancelled _ c hc
  cases hgoes with
  | misses hphase hslot =>
    exact .inl (h.quiet (moves_self (by rfl) _ _) hc (by rw [hphase]; exact ⟨rfl, rfl⟩) ⟨rfl, rfl⟩
      rfl rfl rfl rfl)
  | finds n hphase hslot =>
    have hidle : c.phase.Idle := by
      rcases hphase with hphase | hphase <;> rw [hphase] <;> exact ⟨rfl, rfl⟩
    exact .inl (h.quiet (moves_self (by rfl) _ _) hc hidle ⟨rfl, rfl⟩ rfl rfl rfl rfl)
  | opens hphase hslot =>
    rw [horder.named _ c hc] at hslot ⊢
    exact .inl (h.opens hc hphase hslot)
  | passes n slot hphase hslot hbalancer =>
    exact .inl (h.quiet (moves_self (by rfl) _ _) hc (by rw [hphase]; exact ⟨rfl, rfl⟩) ⟨rfl, rfl⟩
      rfl rfl rfl rfl)
  | asks n slot hphase hslot hbalancer =>
    refine .inl (h.quiet (moves_self (by rfl) _ _) hc (by rw [hphase]; exact ⟨rfl, rfl⟩) ?_
      rfl rfl rfl (balancer?_changeSlot t n (fun _ => by rfl) cluster))
    split <;> exact ⟨rfl, rfl⟩
  | queues n slot hphase hslot =>
    refine .inl (h.quiet (moves_self (by rfl) _ _) hc (by rw [hphase]; exact ⟨rfl, rfl⟩) ?_
      rfl rfl rfl (balancer?_changeSlot t n (fun _ => by rfl) cluster))
    split <;> exact ⟨rfl, rfl⟩
  | beginsLookUp n slot hphase hslot => exact .inl (h.beginsLookUp horder hc hphase hslot)
  | beginsWork n slot b hphase hslot hb => exact .inl (h.beginsWork horder hc hphase hslot hb)
  | looksOn n slot work rest pace p hphase hslot hadvance =>
    rw [hcancelled] at hadvance
    refine .inl (h.goesOn (moves_self (by rfl) _ _) hc (by rw [hphase]; rfl) rfl rfl rfl rfl
      fun block hdoing => ?_)
    rw [hphase] at hdoing
    exact hdoing.looksOn hadvance
  | sticksInLookUp n slot work pace p ifCancelled hphase hslot hadvance =>
    rw [hcancelled] at hadvance
    refine .inl (h.goesOn (moves_self (by rfl) _ _) hc (by rw [hphase]; rfl) rfl rfl rfl rfl
      fun block hdoing => ?_)
    rw [hphase] at hdoing
    exact hdoing.sticksInLookUp hadvance
  | worksOn n slot work rest pace p hphase hslot hadvance =>
    rw [hcancelled] at hadvance
    refine .inl (h.goesOn (moves_self (by rfl) _ _) hc (by rw [hphase]; rfl) rfl rfl rfl rfl
      fun block hdoing => ?_)
    rw [hphase] at hdoing
    exact hdoing.worksOn hadvance
  | sticksInWork n slot work pace p ifCancelled hphase hslot hadvance =>
    rw [hcancelled] at hadvance
    refine .inl (h.goesOn (moves_self (by rfl) _ _) hc (by rw [hphase]; rfl) rfl rfl rfl rfl
      fun block hdoing => ?_)
    rw [hphase] at hdoing
    exact hdoing.sticksInWork hadvance
  | finishesLookUp n slot work pace p b hphase hslot hadvance =>
    exact .inr ⟨by rw [hphase]; rfl, h.finishesLookUp horder hc hphase hslot hadvance⟩
  | failsLookUp n slot work pace p e hphase hslot hadvance =>
    exact .inr ⟨by rw [hphase]; rfl, h.failsLookUp horder hc hphase hslot hadvance⟩
  | leavesLookUp n slot e hphase hslot hfired =>
    exact .inr ⟨by rw [hphase]; rfl, h.leavesLookUp horder hc hphase hslot hfired⟩
  | finishesWork n slot work pace p result hphase hslot hadvance =>
    exact .inr ⟨by rw [hphase]; rfl, h.finishesWork horder hc hphase hslot hadvance⟩
  | leavesWork n slot e hphase hslot hfired =>
    exact .inr ⟨by rw [hphase]; rfl, h.leavesWork horder hc hphase hslot hfired⟩

lemma Doing.fire (h : Doing engine none l c kept s block phase) :
    Doing engine (some (requestsOf l.made c.id + block.length)) l { c with cancelled := true } kept
      s block phase := by
  cases h with
  | looksUp n rest habsent hkept hpart => exact .looksUp n rest habsent hkept hpart.fire
  | stuckInLookUp n e habsent hkept hpart => exact .stuckInLookUp n e habsent hkept hpart.fire
  | works n rest b hb hkept hpart => exact .works n rest b hb hkept hpart.fire
  | stuckInWork n e b hb hkept hpart => exact .stuckInWork n e b hb hkept hpart.fire

lemma result?_cancel (t : Traffic σ) (i j : Nat) : (t.cancel i).result? j = t.result? j := by
  unfold result?
  rw [caller?_cancel]
  cases t.caller? j with
  | none => rfl
  | some c =>
    simp only [Option.map_some, Option.bind_some]
    split <;> rfl

/-- A cancellation makes no difference to others, nor to a caller whose cancellation has fired. -/
lemma Book.caller?_cancel_of_fired (h : t.Book engine cluster firings l)
    (hj : j ≠ i ∨ (firings.lookup j).isSome) : (t.cancel i).caller? j = t.caller? j := by
  rw [caller?_cancel]
  cases hc : t.caller? j with
  | none => rfl
  | some c =>
    rw [Option.map_some]
    split
    · next hmem =>
      rcases hj with hj | hj
      · exact (hj (List.mem_singleton.1 hmem)).elim
      · rw [← h.cancelled j c hc] at hj
        rw [← hj]
    · rfl

lemma Book.standing_cancel (h : t.Book engine cluster firings l) (i : Nat) :
    (t.cancel i).Standing engine cluster (firings ++ [(i, requestsOf t.made i)]) l := by
  cases h.standing with
  | idle hidle hengine hmade hbalancer =>
    refine .idle (fun j d hd => ?_) hengine hmade hbalancer
    obtain ⟨c, hc, rfl⟩ := of_caller?_cancel hd
    exact hidle j c hc
  | busy j c block hc honly hmade hdoing =>
    have honly' : ∀ j' d, (t.cancel i).caller? j' = some d → d.phase.busy = true → j' = j := by
      intro j' d hd hbusy
      obtain ⟨c', hc', rfl⟩ := of_caller?_cancel hd
      exact honly j' c' hc' hbusy
    by_cases hj : j ≠ i ∨ (firings.lookup j).isSome
    · refine .busy j c block ((h.caller?_cancel_of_fired hj).trans hc) honly' hmade ?_
      have hsame : (firings ++ [(i, requestsOf t.made i)]).lookup j = firings.lookup j := by
        rw [lookup_fire]
        rcases hj with hj | hj
        · rw [if_neg hj, Option.or_none]
        · obtain ⟨k, hk⟩ := Option.isSome_iff_exists.1 hj
          rw [hk, Option.some_or]
      rw [hsame]
      exact hdoing
    · obtain ⟨hji, hfired⟩ := not_or.1 hj
      obtain rfl := not_not.1 hji
      have hfired : firings.lookup j = none := Option.not_isSome_iff_eq_none.1 hfired
      have hid := id_of_caller? hc
      have hcount : requestsOf t.made j = requestsOf l.made c.id + block.length := by
        rw [hmade, requestsOf_append, requestsOf_map, if_pos rfl, hid]
      refine .busy j { c with cancelled := true } block ?_ honly' hmade ?_
      · rw [caller?_cancel, hc, Option.map_some, if_pos List.mem_cons_self]
      · rw [hfired] at hdoing
        rw [lookup_fire, hfired, Option.none_or, if_pos rfl, hcount]
        exact hdoing.fire

/-- A cancellation that fires keeps the book. -/
theorem Book.cancel (h : t.Book engine cluster firings l) (i : Nat) :
    (t.cancel i).Book engine cluster (firings ++ [(i, requestsOf t.made i)]) l := by
  refine ⟨h.plan, fun j result => ?_, fun j d hd => ?_, fun j k hk => ?_, h.standing_cancel i⟩
  · rw [result?_cancel]
    exact h.results j result
  · obtain ⟨c, hc, rfl⟩ := of_caller?_cancel hd
    rw [h.cancelled j c hc, lookup_fire, Option.isSome_or]
    by_cases hj : j = i <;> simp [hj]
  · rw [lookup_fire] at hk
    cases hfired : firings.lookup j with
    | some k' =>
      rw [hfired] at hk
      cases hk
      exact h.fired j k hfired
    | none =>
      rw [hfired, Option.none_or] at hk
      split at hk
      · next hj =>
        cases hk
        rw [hj]
        exact Nat.le_refl _
      · cases hk

end Traffic

end ApiBalancer
