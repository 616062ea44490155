import ApiBalancer.Proofs.Books
import ApiBalancer.Proofs.Creations
import Mathlib.Data.List.Permutation

/-!
# Callers in turn

Callers who want tasks done for one cluster beside each other share a slot, and their requests never
mix: what they do comes to turns that they take one after another (`Traffic.callers_take_turns`).
-/

namespace ApiBalancer

namespace NameMap

variable {β : Type} {m : NameMap β} {k : String}

lemma zipIdx_eq {l : List String} (h : l.Nodup) : l.zipIdx = l.map fun k => (k, l.idxOf k) := by
  refine List.ext_getElem (by simp) fun i hi hi' => ?_
  have hidx := List.Nodup.idxOf_getElem h i (by simpa using hi)
  rw [List.getElem_zipIdx, List.getElem_map, hidx, Nat.zero_add]

/-- Keys that are numbered in their order stand for the values with these numbers. -/
lemma get?_ofList_zipIdx (m : NameMap β) (k : String) :
    (ofList m.keys.zipIdx).get? k = if k ∈ m.keys then some (m.keys.idxOf k) else none := by
  have hkeys := get?_ofList_map m.keys id (m.keys.idxOf ·) k
  rw [List.map_id] at hkeys
  rw [zipIdx_eq m.nodup_keys]
  exact hkeys

lemma getElem?_values (h : k ∈ m.keys) : m.values[m.keys.idxOf k]? = m.get? k := by
  have hkey : m.keys[m.keys.idxOf k]? = some k := List.getElem?_idxOf h
  have hget : m.keys[m.keys.idxOf k]? = (m.entries[m.keys.idxOf k]?).map (·.1) := List.getElem?_map
  rw [hkey] at hget
  obtain ⟨⟨k', v⟩, he, hk⟩ := Option.map_eq_some_iff.1 hget.symm
  obtain rfl : k' = k := hk
  rw [(m.mem_entries_iff k' v).1 (List.mem_of_getElem? he)]
  change (m.entries.map (·.2))[m.keys.idxOf k']? = some v
  rw [List.getElem?_map, he]
  rfl

lemma get?_eq_none (h : k ∉ m.keys) : m.get? k = none := by
  cases hv : m.get? k with
  | none => rfl
  | some v => exact (h ((m.mem_keys_iff k).2 ⟨v, hv⟩)).elim

end NameMap

variable {σ : Type}

namespace Traffic

lemma slot_ofFleet {fleet : Fleet} {s : σ} {cluster : String} {n : Nat}
    (h : (ofFleet fleet s).table.get? cluster = some n) :
    (ofFleet fleet s).slots[n]? = some { balancer := fleet.balancer? cluster } := by
  change (NameMap.ofList fleet.slots.keys.zipIdx).get? cluster = some n at h
  rw [NameMap.get?_ofList_zipIdx] at h
  split at h
  · next hmem =>
    cases h
    change (fleet.slots.values.map fun balancer => ({ balancer } : Slot))[_]? = _
    rw [List.getElem?_map, NameMap.getElem?_values hmem]
    unfold Fleet.balancer?
    obtain ⟨⟨k, balancer⟩, hentry, rfl⟩ := List.mem_map.1 hmem
    rw [(fleet.slots.mem_entries_iff k balancer).1 hentry]
    rfl
  · cases h

lemma balancer?_ofFleet (fleet : Fleet) (s : σ) (cluster : String) :
    (ofFleet fleet s).balancer? cluster = fleet.balancer? cluster := by
  cases htable : (ofFleet fleet s).table.get? cluster with
  | some n => exact balancer?_of_slot htable (slot_ofFleet htable)
  | none =>
    have hkeys := NameMap.get?_ofList_zipIdx fleet.slots cluster
    change (ofFleet fleet s).table.get? cluster = _ at hkeys
    rw [htable] at hkeys
    split at hkeys
    · cases hkeys
    · next hmem =>
      unfold balancer? Fleet.balancer?
      rw [htable, NameMap.get?_eq_none hmem]
      rfl

/-- Callers who each want a task done for the same cluster, and ask for an image of their own, before
anyone has come. -/
def gather (fleet : Fleet) (s : σ) (cluster : String)
    (wanted : List (Option String × Balancer.Task)) : Traffic σ :=
  { ofFleet fleet s with
    callers := wanted.zipIdx.map fun (call, i) =>
      { id := i, spec := { name := cluster, image := call.1 }, task := call.2 } }

/-- What traffic can come to: callers go on in any order, as far as they like, and their
cancellations fire at any time. Each cancellation is put down with the number of requests that its
caller had made. -/
inductive Leads (engine : Engine σ) (start : Traffic σ) : List (Nat × Nat) → Traffic σ → Prop
  | start : Leads engine start [] start
  | step {firings : List (Nat × Nat)} {t t' : Traffic σ} (pace : Pace) (i : Nat)
    (woken : List Nat) (run : Leads engine start firings t)
    (goes : t.step pace engine i = some (t', woken)) : Leads engine start firings t'
  | cancel {firings : List (Nat × Nat)} {t : Traffic σ} (i : Nat)
    (run : Leads engine start firings t) :
    Leads engine start (firings ++ [(i, requestsOf t.made i)]) (t.cancel i)

/-- What each caller wants. -/
def wish? (t : Traffic σ) (i : Nat) : Option (ClusterSpec × Balancer.Task) :=
  (t.caller? i).map fun c => (c.spec, c.task)

variable {fleet : Fleet} {s : σ} {cluster : String}
  {wanted : List (Option String × Balancer.Task)} {t u : Traffic σ} {engine : Engine σ}

lemma find?_zipIdx (cluster : String) (l : List (Option String × Balancer.Task)) (m i : Nat) :
    ((l.zipIdx m).map fun (call, j) =>
      ({ id := j, spec := { name := cluster, image := call.1 }, task := call.2 } : Caller)).find?
        (·.id == m + i) =
      l[i]?.map fun call =>
        { id := m + i, spec := { name := cluster, image := call.1 }, task := call.2 } := by
  induction l generalizing m i with
  | nil => rfl
  | cons call rest ih =>
    rw [List.zipIdx_cons, List.map_cons]
    cases i with
    | zero => simp
    | succ i =>
      rw [List.find?_cons_of_neg (by simp), List.getElem?_cons_succ]
      have hsucc : m + (i + 1) = m + 1 + i := by omega
      rw [hsucc]
      exact ih (m + 1) i

lemma caller?_gather (fleet : Fleet) (s : σ) (cluster : String)
    (wanted : List (Option String × Balancer.Task)) (i : Nat) :
    (gather fleet s cluster wanted).caller? i = wanted[i]?.map fun call =>
      { id := i, spec := { name := cluster, image := call.1 }, task := call.2 } := by
  have hfind := find?_zipIdx cluster wanted 0 i
  rw [Nat.zero_add] at hfind
  exact hfind

lemma orderly_gather (fleet : Fleet) (s : σ) (cluster : String)
    (wanted : List (Option String × Balancer.Task)) :
    (gather fleet s cluster wanted).Orderly cluster := by
  refine ⟨⟨fun i c hc => ?_, fun i c n hc hn => ?_⟩, fun n hn => ⟨_, slot_ofFleet (s := s) hn, ?_⟩⟩
  · rw [caller?_gather] at hc
    obtain ⟨call, -, rfl⟩ := Option.map_eq_some_iff.1 hc
    rfl
  · rw [caller?_gather] at hc
    obtain ⟨call, -, rfl⟩ := Option.map_eq_some_iff.1 hc
    cases hn
  · refine Slot.orderly_new (fun i q hq => ?_) _
    unfold place? at hq
    rw [caller?_gather, Option.map_map] at hq
    obtain ⟨call, -, rfl⟩ := Option.map_eq_some_iff.1 hq
    rfl

lemma book_gather (engine : Engine σ) (fleet : Fleet) (s : σ) (cluster : String)
    (wanted : List (Option String × Balancer.Task)) :
    (gather fleet s cluster wanted).Book engine cluster [] { fleet, engine := s } := by
  refine ⟨rfl, fun i result => ?_, fun i c hc => ?_, nofun, ?_⟩
  · have hnone : (gather fleet s cluster wanted).result? i = none := by
      unfold result?
      rw [caller?_gather]
      cases wanted[i]? <;> rfl
    rw [hnone]
    exact ⟨nofun, nofun⟩
  · rw [caller?_gather] at hc
    obtain ⟨call, -, rfl⟩ := Option.map_eq_some_iff.1 hc
    rfl
  · refine .idle (fun i c hc => ?_) rfl rfl (balancer?_ofFleet fleet s cluster)
    rw [caller?_gather] at hc
    obtain ⟨call, -, rfl⟩ := Option.map_eq_some_iff.1 hc
    rfl

lemma wish?_moveTo (t : Traffic σ) (ids : List Nat) (phase : Phase) :
    (t.moveTo ids phase).wish? = t.wish? := by
  funext i
  unfold wish?
  rw [caller?_moveTo, Option.map_map]
  congr 1
  funext c
  simp only [Function.comp_def]
  split <;> rfl

lemma wish?_cancel (t : Traffic σ) (i : Nat) : (t.cancel i).wish? = t.wish? :=
  funext fun j => map_caller?_cancel t i j fun _ => rfl

lemma wish?_goes {c : Caller} (h : t.Goes engine c u) : u.wish? = t.wish? := by
  cases h with
  | failsLookUp | leavesLookUp | finishesWork | leavesWork =>
    exact (wish?_moveTo _ _ _).trans (wish?_moveTo _ _ _)
  | _ => exact wish?_moveTo _ _ _

lemma Standing.requestsOf_le {firings : List (Nat × Nat)} {l : Ledger σ}
    (h : t.Standing engine cluster firings l) (i : Nat) :
    requestsOf l.made i ≤ requestsOf t.made i := by
  cases h with
  | idle hidle hengine hmade hbalancer => exact Nat.le_of_eq (by rw [hmade])
  | busy j c block hc honly hmade hdoing =>
    rw [hmade]
    exact requestsOf_le_append _ _ i

/-- The callers of a run take turns, of which a book is kept. -/
lemma Leads.book {start : Traffic σ} {l₀ : Ledger σ} {firings : List (Nat × Nat)}
    (h : start.Leads engine firings t) (horder : start.Orderly cluster)
    (hbook : start.Book engine cluster [] l₀) :
    ∃ turns l, Ledger.Run engine firings l₀ turns l ∧
      (∀ turn ∈ turns,
        start.wish? turn.errand.caller = some (turn.errand.spec, turn.errand.task)) ∧
      t.wish? = start.wish? ∧ t.Orderly cluster ∧ t.Book engine cluster firings l := by
  induction h with
  | start => exact ⟨[], l₀, .start, nofun, rfl, horder, hbook⟩
  | @step firings t t' pace i woken run goes ih =>
    obtain ⟨turns, l, hrun, hturns, hwish, horder, hbook⟩ := ih
    obtain ⟨c, hc, hgoes⟩ := goes_of_step goes
    obtain rfl := id_of_caller? hc
    have hwish' := (wish?_goes hgoes).trans hwish
    have horder' := horder.goes hc hgoes
    rcases hbook.goes horder hc hgoes with hbook' | ⟨hwaits, turn, l', htake, hof, hfits, hbook'⟩
    · exact ⟨turns, l, hrun, hturns, hwish', horder', hbook'⟩
    · obtain ⟨hcaller, hspec, htask⟩ := hof
      refine ⟨turns ++ [turn], l', .turn hrun htake ?_ (hcaller ▸ hfits), ?_, hwish', horder',
        hbook'⟩
      · intro hdone
        obtain ⟨⟨j, result⟩, hmem, hj⟩ := List.mem_map.1 hdone
        obtain rfl : j = turn.errand.caller := hj
        have hresult := (hbook.results _ result).2 hmem
        rw [hcaller, result?_of_caller? hc, hwaits] at hresult
        cases hresult
      · intro turn' hturn'
        rcases List.mem_append.1 hturn' with hturn' | hturn'
        · exact hturns turn' hturn'
        · rw [List.mem_singleton.1 hturn', hcaller, hspec, htask, ← hwish]
          unfold wish?
          rw [hc]
          rfl
  | cancel i run ih =>
    obtain ⟨turns, l, hrun, hturns, hwish, horder, hbook⟩ := ih
    exact ⟨turns, l, hrun.fire (hbook.standing.requestsOf_le i), hturns,
      (wish?_cancel _ i).trans hwish, horder.cancel i, hbook.cancel i⟩

lemma table_goes {c : Caller} {n : Nat} (h : t.Goes engine c u)
    (hn : t.table.get? cluster = some n) : u.table.get? cluster = some n := by
  cases h with
  | opens hphase hslot =>
    change (t.table.insert c.spec.name t.slots.length).get? cluster = some n
    rw [NameMap.get?_insert]
    split
    · next heq =>
      rw [heq, hslot] at hn
      cases hn
    · exact hn
  | _ => exact hn

lemma Leads.table {firings : List (Nat × Nat)} {n : Nat} (h : t.Leads engine firings u)
    (hn : t.table.get? cluster = some n) : u.table.get? cluster = some n := by
  induction h with
  | start => exact hn
  | step pace i woken run goes ih =>
    obtain ⟨c, -, hgoes⟩ := goes_of_step goes
    exact table_goes hgoes ih
  | cancel i run ih => exact ih

/-! ### What callers do comes to -/

/-- Whether traffic has got where the turns of a ledger lead, but for the first requests of a task
that one caller is at. -/
inductive Follows (engine : Engine σ) (cluster : String) (firings : List (Nat × Nat))
    (l : Ledger σ) (t : Traffic σ) : Prop
  | idle (hidle : ∀ i c, t.caller? i = some c → c.phase.busy = false)
    (hengine : t.engine = l.engine) (hmade : t.made = l.made)
    (hbalancer : t.balancer? cluster = l.fleet.balancer? cluster) :
    Follows engine cluster firings l t
  | busy (i : Nat) (c : Caller) (block : List Request) (k : Cancellation)
    (hc : t.caller? i = some c) (hbusy : c.phase.busy = true)
    (honly : ∀ j d, t.caller? j = some d → d.phase.busy = true → j = i)
    (hmade : t.made = l.made ++ block.map (i, ·))
    (hfits : k.Fits (firings.lookup i) (requestsOf l.made i) (requestsOf t.made i))
    (hblock : block <+: (l.fleet.perform engine k c.spec c.task l.engine).2.1.made) :
    Follows engine cluster firings l t

/-- Whether traffic shows what a ledger says, apart from who has made which request. -/
structure Shows (cluster : String) (l : Ledger σ) (t : Traffic σ) : Prop where
  engine : t.engine = l.engine
  made : t.made.map (·.2) = l.made.map (·.2)
  balancer : t.balancer? cluster = l.fleet.balancer? cluster
  results : ∀ i result, t.result? i = some result ↔ (i, result) ∈ l.results

lemma Book.follows {firings : List (Nat × Nat)} {l : Ledger σ}
    (h : t.Book engine cluster firings l) : t.Follows engine cluster firings l := by
  cases h.standing with
  | idle hidle hengine hmade hbalancer => exact .idle hidle hengine hmade hbalancer
  | busy i c block hc honly hmade hdoing =>
    obtain rfl := id_of_caller? hc
    have hcount : requestsOf t.made c.id = requestsOf l.made c.id + block.length := by
      rw [hmade, requestsOf_append, requestsOf_map, if_pos rfl]
    have hlookUp : ∀ left, l.fleet.balancer? c.spec.name = none →
        Procedure.Partway engine (firings.lookup c.id) (requestsOf l.made c.id)
          (Balancer.lookUp l.fleet.plan c.spec) l.engine t.engine block left →
        t.Follows engine cluster firings l := by
      intro left habsent hpart
      obtain ⟨k, hfits, hblock⟩ := hpart.isPrefix
      rw [← hcount] at hfits
      exact .busy c.id c block k hc hdoing.busy honly hmade hfits (hblock.trans
        (Fleet.made_lookUp_isPrefix_perform engine k c.spec c.task l.engine habsent))
    have hwork : ∀ left b, l.fleet.balancer? c.spec.name = some b →
        Procedure.Partway engine (firings.lookup c.id) (requestsOf l.made c.id)
          ((b.withImage (c.spec.resolveImage l.fleet.plan.image)).perform l.fleet.plan c.task)
          l.engine t.engine block left →
        t.Follows engine cluster firings l := by
      intro left b hb hpart
      obtain ⟨k, hfits, hblock⟩ := hpart.isPrefix
      rw [← hcount] at hfits
      generalize houtcome : Procedure.outcome engine k _ l.engine [] = work at hblock
      obtain ⟨q, hq, -, hmade'⟩ := Fleet.perform_of_some hb houtcome
      refine .busy c.id c block k hc hdoing.busy honly hmade hfits ?_
      rw [hq, hmade']
      exact hblock
    generalize hphase : c.phase = phase at hdoing
    cases hdoing with
    | looksUp n rest habsent hkept hpart => exact hlookUp _ habsent hpart
    | stuckInLookUp n ifCancelled habsent hkept hpart => exact hlookUp _ habsent hpart
    | works n rest b hb hkept hpart => exact hwork _ b hb hpart
    | stuckInWork n ifCancelled b hb hkept hpart => exact hwork _ b hb hpart

/-- Whether an errand is what its caller, one of those who gather, wants. -/
def Wanted (cluster : String) (wanted : List (Option String × Balancer.Task)) (x : Errand) : Prop :=
  x.spec.name = cluster ∧ wanted[x.caller]? = some (x.spec.image, x.task)

lemma wanted_of_wish? {x : Errand}
    (h : (gather fleet s cluster wanted).wish? x.caller = some (x.spec, x.task)) :
    Wanted cluster wanted x := by
  unfold wish? at h
  rw [caller?_gather, Option.map_map] at h
  obtain ⟨call, hcall, hx⟩ := Option.map_eq_some_iff.1 h
  obtain ⟨hspec, htask⟩ := Prod.mk.inj hx
  unfold Wanted
  rw [← hspec, ← htask]
  exact ⟨rfl, hcall⟩

lemma lt_of_caller? {i : Nat} {c : Caller}
    (hwish : t.wish? = (gather fleet s cluster wanted).wish?) (hc : t.caller? i = some c) :
    i < wanted.length := by
  by_contra hge
  have hnone : t.wish? i = none := by
    rw [hwish]
    unfold wish?
    rw [caller?_gather, List.getElem?_eq_none (by omega)]
    rfl
  unfold wish? at hnone
  rw [hc] at hnone
  cases hnone

lemma oneImage_of_wanted {turns : List Turn} {image : String}
    (hturns : ∀ turn ∈ turns, Wanted cluster wanted turn.errand)
    (himage : ∀ call ∈ wanted,
      ({ name := cluster, image := call.1 } : ClusterSpec).resolveImage fleet.plan.image = image) :
    Turn.OneImage fleet.plan turns := by
  have hresolve : ∀ turn ∈ turns,
      turn.errand.spec.resolveImage fleet.plan.image = image := by
    intro turn hturn
    obtain ⟨-, hcall⟩ := hturns turn hturn
    exact himage _ (List.mem_of_getElem? hcall)
  rintro before x b y after rfl
  exact .inr ((hresolve (.lookUp x b) (by simp)).trans (hresolve (.work y) (by simp)).symm)

/-- The image that the finder asks for, if there is a finder. -/
lemma exists_image {turns : List Turn} (h : turns.countP Turn.finds ≤ 1) :
    ∃ image, ∀ turn ∈ turns, turn.finds = true → turn.errand.spec.image = image := by
  rw [List.countP_eq_length_filter] at h
  match hfilter : turns.filter Turn.finds with
  | [] =>
    refine ⟨none, fun turn hturn hfinds => ?_⟩
    have hmem : turn ∈ turns.filter Turn.finds := List.mem_filter.2 ⟨hturn, hfinds⟩
    rw [hfilter] at hmem
    cases hmem
  | [finder] =>
    refine ⟨finder.errand.spec.image, fun turn hturn hfinds => ?_⟩
    have hmem : turn ∈ turns.filter Turn.finds := List.mem_filter.2 ⟨hturn, hfinds⟩
    rw [hfilter] at hmem
    rw [List.mem_singleton.1 hmem]
  | _ :: _ :: _ =>
    rw [hfilter] at h
    simp at h

lemma mem_results_iff {firings : List (Nat × Nat)} {l : Ledger σ}
    (hwish : t.wish? = (gather fleet s cluster wanted).wish?)
    (hbook : t.Book engine cluster firings l)
    (hdone : ∀ i < wanted.length, (t.result? i).isSome) (i : Nat) :
    i ∈ l.results.map (·.1) ↔ i < wanted.length := by
  constructor
  · intro hi
    obtain ⟨⟨j, result⟩, hresult, rfl⟩ := List.mem_map.1 hi
    obtain ⟨c, hc, -⟩ := Option.bind_eq_some_iff.1 ((hbook.results j result).2 hresult)
    exact lt_of_caller? hwish hc
  · intro hi
    obtain ⟨result, hresult⟩ := Option.isSome_iff_exists.1 (hdone i hi)
    exact List.mem_map.2 ⟨(i, result), (hbook.results i result).1 hresult, rfl⟩

/-- Once all callers are done, the traffic shows what the ledger does, as nobody is busy. -/
lemma shows_of_view {firings : List (Nat × Nat)} {l l' : Ledger σ}
    (hwish : t.wish? = (gather fleet s cluster wanted).wish?)
    (hbook : t.Book engine cluster firings l)
    (hdone : ∀ i < wanted.length, (t.result? i).isSome) (hview : l'.view = l.view) :
    t.Shows cluster l' := by
  obtain ⟨hfleet, hview⟩ := Prod.mk.inj hview
  obtain ⟨hengine, hview⟩ := Prod.mk.inj hview
  obtain ⟨hmade, hresults⟩ := Prod.mk.inj hview
  cases hbook.standing with
  | idle hidle hengine' hmade' hbalancer =>
    refine ⟨hengine'.trans hengine.symm, ?_, ?_, fun i result => ?_⟩
    · rw [hmade', ← hmade]
    · rw [hbalancer, ← hfleet]
    · rw [hbook.results, ← hresults]
  | busy i c block hc honly hmade' hdoing =>
    have hsome := hdone i (lt_of_caller? hwish hc)
    rw [result?_of_caller? hc, Phase.result?_of_busy hdoing.busy] at hsome
    cases hsome

/-- Once all callers are done, what they have done comes to their whole errands one after another,
with the balancer looked up for the image that its finder asks for. -/
lemma shows_of_done {firings : List (Nat × Nat)} {turns : List Turn} {l : Ledger σ}
    (hrun : Ledger.Run engine firings { fleet, engine := s } turns l)
    (hturns : ∀ turn ∈ turns, Wanted cluster wanted turn.errand)
    (hwish : t.wish? = (gather fleet s cluster wanted).wish?)
    (hbook : t.Book engine cluster firings l)
    (hdone : ∀ i < wanted.length, (t.result? i).isSome) :
    ∃ errands, Turn.Whole turns errands ∧
      (errands.map (·.caller)).Perm (List.range wanted.length) ∧
      (∃ image l', (∀ turn ∈ turns, turn.finds = true → turn.errand.spec.image = image) ∧
        Ledger.InOrder engine (fun _ => image) { fleet, engine := s } errands l' ∧
        t.Shows cluster l') ∧
      (Turn.OneImage fleet.plan turns →
        ∃ l', Ledger.InOrder engine (fun x => x.spec.image) { fleet, engine := s } errands l' ∧
          t.Shows cluster l') := by
  have hmem := mem_results_iff hwish hbook hdone
  have hshows : ∀ l' : Ledger σ, l'.view = l.view → t.Shows cluster l' :=
    fun _ hview => shows_of_view hwish hbook hdone hview
  have hshape := hrun.shape fun turn hturn => (hturns turn hturn).1
  obtain ⟨errands, hwhole, hinOrder⟩ := hshape.whole fun turn hturn => by
    rw [hmem]
    exact (List.getElem?_eq_some_iff.1 (hturns turn hturn).2).1
  obtain ⟨image, himage⟩ := exists_image hshape.countP_finds_le
  obtain ⟨l', hrun', hview⟩ := hinOrder (fun _ => image) fun before x b y after hsplit =>
    .inr (by
      have hasked : x.spec.image = image := himage (.lookUp x b) (by simp [hsplit]) rfl
      rw [← hasked]
      rfl)
  refine ⟨errands, hwhole, ?_, ⟨image, l', himage, hrun', hshows l' hview⟩, fun hone => ?_⟩
  · have hcallers := hrun'.results_eq
    have hresults : l'.results = l.results :=
      (Prod.mk.inj (Prod.mk.inj (Prod.mk.inj hview).2).2).2
    rw [hresults, List.map_nil, List.nil_append] at hcallers
    rw [← hcallers, List.perm_ext_iff_of_nodup (hrun.nodup_results rfl) List.nodup_range]
    intro i
    rw [hmem, List.mem_range]
  · obtain ⟨l', hrun', hview⟩ := hinOrder (fun x => x.spec.image) hone
    exact ⟨l', hrun', hshows l' hview⟩

/-- As long as nobody fails, callers who create make one request for a container. -/
lemma creations_le_one {firings : List (Nat × Nat)} {turns : List Turn} {l : Ledger σ}
    (hrun : Ledger.Run engine firings { fleet, engine := s } turns l)
    (hturns : ∀ turn ∈ turns, Wanted cluster wanted turn.errand)
    (hwish : t.wish? = (gather fleet s cluster wanted).wish?)
    (hbook : t.Book engine cluster firings l) (hcreate : ∀ call ∈ wanted, call.2 = .create)
    (hok : ∀ i e, t.result? i ≠ some (.error e)) : creations (t.made.map (·.2)) ≤ 1 := by
  have htask : ∀ x : Errand, Wanted cluster wanted x → x.spec.name = cluster ∧ x.task = .create :=
    fun x hx => ⟨hx.1, hcreate _ (List.mem_of_getElem? hx.2)⟩
  have hle := hrun.creations_le rfl (fun turn hturn => htask _ (hturns turn hturn))
    fun i e hmem => hok i e ((hbook.results i _).2 hmem)
  cases hbook.follows with
  | idle hidle hengine hmade hbalancer =>
    rw [hmade]
    exact Nat.le_trans (Nat.le_add_right _ _) hle
  | busy i c block k hc hbusy honly hmade hfits hblock =>
    have hwant : (gather fleet s cluster wanted).wish? i = some (c.spec, c.task) := by
      rw [← hwish]
      unfold wish?
      rw [hc]
      rfl
    obtain ⟨hname, hcreate⟩ := htask ⟨i, c.spec, c.task, k⟩ (wanted_of_wish? hwant)
    dsimp only at hname hcreate
    rw [hcreate] at hblock
    generalize hperform : l.fleet.perform engine k c.spec .create l.engine = run at hblock
    obtain ⟨fleet', p, e⟩ := run
    obtain ⟨hle', -⟩ := Fleet.creations_perform_create hperform
    have hblock' : creations block ≤ creations p.made := creations_le_of_prefix hblock
    rw [hname] at hle'
    have hsum : creations (t.made.map (·.2)) = creations (l.made.map (·.2)) + creations block := by
      rw [hmade, List.map_append, List.map_map, creations_append]
      simp [Function.comp_def]
    rw [hsum]
    cases hattached : l.fleet.attached cluster with
    | true =>
      simp only [hattached, if_true] at hle hle'
      omega
    | false =>
      simp only [hattached, Bool.false_eq_true, if_false] at hle hle'
      omega

/-- Callers for one cluster, each with a task, an image and a cancellation of its own, share a slot
and take turns, however their steps interleave. The turns are look-ups, of which one at most finds the
balancer, and whole tasks, and what a caller gets is what its turn yields. Once all are done, it is
as if the whole tasks had been carried out one after another, each under a cancellation that fires at
the same point, but that the balancer is looked up for the image that its finder asks for. Whoever
works first may have overtaken the finder and ask for another. As long as it asks for the same, or no
container is found, the tasks are just carried out one after another. -/
theorem callers_take_turns (engine : Engine σ) (fleet : Fleet) (s : σ) (cluster : String)
    (wanted : List (Option String × Balancer.Task)) {firings : List (Nat × Nat)} {t : Traffic σ}
    (h : (gather fleet s cluster wanted).Leads engine firings t) :
    (∀ i c n, t.caller? i = some c → c.phase.slot? = some n → t.table.get? cluster = some n) ∧
    (∀ n firings' u, t.table.get? cluster = some n → t.Leads engine firings' u →
      u.table.get? cluster = some n) ∧
    ∃ turns l, Ledger.Run engine firings { fleet, engine := s } turns l ∧
      turns.countP Turn.finds ≤ 1 ∧
      (∀ turn ∈ turns, Wanted cluster wanted turn.errand) ∧
      (l.results.map (·.1)).Nodup ∧
      (∀ i result, t.result? i = some result ↔ (i, result) ∈ l.results) ∧
      t.Follows engine cluster firings l ∧
      ((∀ i < wanted.length, (t.result? i).isSome) →
        ∃ errands, Turn.Whole turns errands ∧
          (∀ x ∈ errands, Wanted cluster wanted x) ∧
          (errands.map (·.caller)).Perm (List.range wanted.length) ∧
          (∃ image l', (∀ turn ∈ turns, turn.finds = true → turn.errand.spec.image = image) ∧
            Ledger.InOrder engine (fun _ => image) { fleet, engine := s } errands l' ∧
            t.Shows cluster l') ∧
          (Turn.OneImage fleet.plan turns →
            ∃ l', Ledger.InOrder engine (fun x => x.spec.image) { fleet, engine := s } errands l' ∧
              t.Shows cluster l')) ∧
      ((∀ call ∈ wanted, call.2 = .create) → (∀ i e, t.result? i ≠ some (.error e)) →
        creations (t.made.map (·.2)) ≤ 1) := by
  obtain ⟨turns, l, hrun, hturns, hwish, horder, hbook⟩ :=
    h.book (orderly_gather fleet s cluster wanted) (book_gather engine fleet s cluster wanted)
  have hwanted : ∀ turn ∈ turns, Wanted cluster wanted turn.errand :=
    fun turn hturn => wanted_of_wish? (hturns turn hturn)
  refine ⟨horder.placed, fun n firings' u hn hleads => hleads.table hn, turns, l, hrun,
    (hrun.shape fun turn hturn => (hwanted turn hturn).1).countP_finds_le, hwanted,
    hrun.nodup_results rfl, hbook.results, hbook.follows, fun hdone => ?_,
    fun hcreate hok => ?_⟩
  · obtain ⟨errands, hwhole, hperm, hfound, hone⟩ := shows_of_done hrun hwanted hwish hbook hdone
    refine ⟨errands, hwhole, fun x hx => ?_, hperm, hfound, hone⟩
    obtain ⟨turn, hturn, hcaller, hspec, htask⟩ := hwhole.exists_turn hx
    have hof := hwanted turn hturn
    unfold Wanted at hof ⊢
    rw [← hcaller, ← hspec, ← htask]
    exact hof
  · exact creations_le_one hrun hwanted hwish hbook hcreate hok

/-- Lets callers go on in the given order, each past one report or request. -/
def drive (engine : Engine σ) : List Nat → Traffic σ → Option (Traffic σ)
  | [], t => some t
  | i :: rest, t => (t.step .move engine i).bind fun r => r.1.drive engine rest

lemma Leads.drive {start : Traffic σ} {firings : List (Nat × Nat)} {order : List Nat}
    (h : start.Leads engine firings t) (hdrive : t.drive engine order = some u) :
    start.Leads engine firings u := by
  induction order generalizing t with
  | nil =>
    cases hdrive
    exact h
  | cons i rest ih =>
    obtain ⟨⟨t', woken⟩, hstep, hrest⟩ := Option.bind_eq_some_iff.1 hdrive
    exact ih (h.step .move i woken hstep) hrest

/-- A caller looks the balancer up, but another is first to work on it. Meanwhile the cancellation of
the one who has looked fires. -/
theorem overtaken_finder_comes_second :
    let image := "kindest/haproxy:v20230510-486859a6"
    ∃ firings t, (gather {} ({} : Inventory) "kind" [(none, .status), (none, .create)]).Leads
      Inventory.engine firings t ∧
    t.result? 0 = some (.ok (.status ⟨"kind", "kind-lb", image, true⟩)) ∧
    t.result? 1 = some (.ok .done) ∧
    ∃ errands l, (errands.map (·.caller)).Perm [0, 1] ∧
      Ledger.InOrder Inventory.engine (fun x => x.spec.image) { fleet := {}, engine := {} }
        errands l ∧
      t.Shows "kind" l := by
  intro image
  let wanted : List (Option String × Balancer.Task) := [(none, .status), (none, .create)]
  let start := gather {} ({} : Inventory) "kind" wanted
  have hresults : ((start.drive Inventory.engine
      [0, 1, 0, 1, 0, 1, 0, 0, 0, 0, 0, 1, 0, 1, 1, 1]).bind
        fun u => (u.cancel 0).drive Inventory.engine [1, 1, 0, 0]).map
          (fun t => (t.result? 0, t.result? 1)) =
      some (some (.ok (.status ⟨"kind", "kind-lb", image, true⟩)), some (.ok .done)) := by
    decide +kernel
  obtain ⟨t, ht, hresults⟩ := Option.map_eq_some_iff.1 hresults
  obtain ⟨u, hu, ht⟩ := Option.bind_eq_some_iff.1 ht
  obtain ⟨hstatus, hcreate⟩ := Prod.mk.inj hresults
  have hleads := ((Leads.start.drive hu).cancel 0).drive ht
  obtain ⟨-, -, turns, l, -, -, hturns, -, -, -, hdone, -⟩ :=
    callers_take_turns Inventory.engine {} {} "kind" wanted hleads
  have hone : Turn.OneImage ({} : Fleet).plan turns :=
    oneImage_of_wanted hturns fun call hcall => by
      have hcall : call = (none, .status) ∨ call = (none, .create) := by simpa [wanted] using hcall
      rcases hcall with rfl | rfl <;> rfl
  obtain ⟨errands, -, -, hperm, -, hinOrder⟩ := hdone fun i hi => by
    have hi : i = 0 ∨ i = 1 := by
      change i < 2 at hi
      omega
    rcases hi with rfl | rfl
    · rw [hstatus]
      rfl
    · rw [hcreate]
      rfl
  obtain ⟨l', hinOrder, hshows⟩ := hinOrder hone
  exact ⟨_, t, hleads, hstatus, hcreate, errands, l', hperm, hinOrder, hshows⟩

/-- A caller looks the balancer up to delete it, but another, who asks for its status and for another
image, is first to work on it. This one is told the finder's image with a container that is there:
its own would be told in its place if it had come first, and no container if the deletion had. -/
theorem overtaker_told_finders_image :
    let inventory :=
      ({} : Inventory).add (.node "kind-lb" "kind" .externalLoadBalancer) "172.18.0.9"
    let wanted : List (Option String × Balancer.Task) :=
      [(some "img:a", .delete), (some "img:b", .status)]
    ∃ t, (gather {} inventory "kind" wanted).Leads Inventory.engine [] t ∧
      t.result? 0 = some (.ok .done) ∧
      t.result? 1 = some (.ok (.status ⟨"kind", "kind-lb", "img:a", true⟩)) ∧
      ∀ errands l, (∀ x ∈ errands, Wanted "kind" wanted x ∧ x.cancellation = .never) →
        (errands.map (·.caller)).Perm (List.range wanted.length) →
        Ledger.InOrder Inventory.engine (fun x => x.spec.image) { fleet := {}, engine := inventory }
          errands l →
        ¬ t.Shows "kind" l := by
  intro inventory wanted
  have hresults : ((gather {} inventory "kind" wanted).drive Inventory.engine
      [0, 0, 0, 0, 0, 0, 0, 0, 1, 1, 1, 1, 1, 0, 0, 0, 0, 0, 0]).map
        (fun t => (t.result? 0, t.result? 1)) =
      some (some (.ok .done), some (.ok (.status ⟨"kind", "kind-lb", "img:a", true⟩))) := by
    decide +kernel
  obtain ⟨t, ht, hresults⟩ := Option.map_eq_some_iff.1 hresults
  obtain ⟨hdelete, hstatus⟩ := Prod.mk.inj hresults
  refine ⟨t, Leads.start.drive ht, hdelete, hstatus, fun errands l herrands hperm hrun hshows => ?_⟩
  let errand : Nat → Errand := fun i =>
    { caller := i, spec := { name := "kind", image := if i = 0 then some "img:a" else some "img:b" }
      task := if i = 0 then .delete else .status, cancellation := .never }
  have herrand : ∀ x ∈ errands, x = errand x.caller := by
    intro x hx
    obtain ⟨⟨hname, hcall⟩, hnever⟩ := herrands x hx
    obtain ⟨i, ⟨name, image⟩, task, cancellation⟩ := x
    dsimp only at hname hcall hnever
    match i with
    | 0 | 1 =>
      cases hcall
      rw [hname, hnever]
      rfl
    | _ + 2 => cases hcall
  have hwhole : errands = (errands.map (·.caller)).map errand := by
    rw [List.map_map]
    exact (List.map_id _).symm.trans (List.map_congr_left herrand)
  have htold := (hshows.results 1 _).1 hstatus
  rw [hrun.eq_foldl, hwhole] at htold
  rcases List.perm_pair.1 hperm with horder | horder
  · rw [horder] at htold
    revert htold
    decide +kernel
  · rw [horder] at htold
    revert htold
    decide +kernel

end Traffic

end ApiBalancer
