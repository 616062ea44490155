import ApiBalancer.Engine.Docker
import ApiBalancer.Proofs.JsonVariants
import ApiBalancer.Proofs.Relisting
import ApiBalancer.Proofs.TextLines

/-!
# The order of a listing does not matter

Docker prints the names of containers one a line (`Docker.Lists`), in whatever order. Nodes, the
balancer and what an update does depend only on which names are printed and how often
(`Docker.listing_order_irrelevant`), up to the commands that are started on the host.
-/

namespace ApiBalancer

open Text Procedure

/-- The commands that were started if a command had some outcome: that command or none. -/
def Outcome.started (i : Invocation) : Outcome → List Invocation
  | .notStarted _ => []
  | .ended .. | .lost _ | .running => [i]

/-- A host that keeps account of the commands that it starts. -/
def Host.watched {σ : Type} (host : Host σ) : Host (σ × List Invocation) where
  launch i s :=
    let (state, outcome) := host.launch i s.1
    ((state, s.2 ++ outcome.started i), outcome)

namespace Docker

/-- What a line names: nothing if it is blank, and else what stands between the blanks at its ends,
one of which may be the carriage return of a line end. -/
inductive LineNames : List Char → List String → Prop
  | blank {line : List Char} (h : ∀ c ∈ line, isBlank c = true) : LineNames line []
  | name {before after : List Char} {name : String} (hbefore : ∀ c ∈ before, isBlank c = true)
    (hafter : ∀ c ∈ after, isBlank c = true) (hne : name ≠ "") (htrimmed : trimmed name = name) :
    LineNames (before ++ name.toList ++ after) [name]

/-- The names that the lines of a listing hold, as often as they hold them. -/
inductive Lists : List Char → List String → Prop
  | last {line : List Char} {found : List String} (hline : '\n' ∉ line) (h : LineNames line found) :
    Lists line found
  | cons {line rest : List Char} {found others : List String} (hline : '\n' ∉ line)
    (h : LineNames line found) (hrest : Lists rest others) :
    Lists (line ++ '\n' :: rest) (found ++ others)

lemma names_line {line : List Char} {found : List String} :
    [trimmed (String.ofList line)].filter (! ·.isEmpty) = found ↔ LineNames line found := by
  unfold trimmed
  rw [String.toList_ofList]
  constructor
  · rintro rfl
    obtain ⟨before, after, hline, hbefore, hafter⟩ := exists_blanks line
    by_cases hempty : trim line = []
    · rw [hempty, List.append_nil] at hline
      rw [hempty]
      refine .blank fun c hc => ?_
      rw [hline, List.mem_append] at hc
      exact hc.elim (hbefore c) (hafter c)
    · have hname : String.ofList (trim line) ≠ "" := by
        simpa using hempty
      have hsame : trimmed (String.ofList (trim line)) = String.ofList (trim line) := by
        rw [trimmed, String.toList_ofList, trim_trim]
      have hnamed := LineNames.name hbefore hafter hname hsame
      rw [String.toList_ofList, ← hline] at hnamed
      simpa [hempty] using hnamed
  · intro h
    cases h with
    | blank h =>
      have htrim := trim_append_blanks h [] (List.forall_mem_nil _)
      rw [List.append_nil, List.append_nil] at htrim
      rw [htrim]
      rfl
    | @name before after name hbefore hafter hne htrimmed =>
      rw [trim_blanks hbefore hafter (trimmed_iff.1 htrimmed), String.ofList_toList]
      simp [hne]

lemma names_ofList (s : List Char) :
    names (String.ofList s) =
      (splitAt '\n' s).flatMap fun line => [trimmed (String.ofList line)].filter (! ·.isEmpty) := by
  unfold names parts
  rw [String.toList_ofList, List.map_map]
  induction splitAt '\n' s with
  | nil => rfl
  | cons line rest ih =>
    rw [List.flatMap_cons, ← ih, List.map_cons, ← List.singleton_append, List.filter_append]
    rfl

/-- Every output lists the names of its lines. -/
theorem lists_splitAt (s : List Char) :
    Lists s ((splitAt '\n' s).flatMap fun line =>
      [trimmed (String.ofList line)].filter (! ·.isEmpty)) := by
  by_cases h : '\n' ∈ s
  · obtain ⟨line, rest, hs, hline⟩ := List.eq_append_cons_of_mem h
    rw [hs, splitAt_append_sep hline, List.flatMap_cons]
    exact .cons hline (names_line.1 rfl) (lists_splitAt rest)
  · rw [splitAt_of_not_mem h, List.flatMap_singleton]
    exact .last h (names_line.1 rfl)
termination_by s.length
decreasing_by
  rw [hs, List.length_append, List.length_cons]
  omega

/-- The names read off an output are those that it lists. -/
theorem names_iff {output : String} {found : List String} :
    names output = found ↔ Lists output.toList found := by
  obtain ⟨s, rfl⟩ : ∃ s, output = String.ofList s := ⟨_, String.ofList_toList.symm⟩
  rw [names_ofList, String.toList_ofList]
  constructor
  · rintro rfl
    exact lists_splitAt s
  · intro h
    induction h with
    | last hline h =>
      rw [splitAt_of_not_mem hline, List.flatMap_singleton]
      exact names_line.2 h
    | cons hline h _ ih =>
      rw [splitAt_append_sep hline, List.flatMap_cons, ih]
      exact congrArg (· ++ _) (names_line.2 h)

/-- Two outcomes of a command that lists names, which differ in the order of the names and in the
layout of the lines at most. -/
inductive Reprinted : Outcome → Outcome → Prop
  | same (outcome : Outcome) : Reprinted outcome outcome
  | ended (status : ExitStatus) {stdout stdout' : ByteArray} (stderr : ByteArray)
    (inputFault : Option OsError) {found found' : List String}
    (h : Lists (lossyText stdout).toList found) (h' : Lists (lossyText stdout').toList found')
    (perm : found.Perm found') :
    Reprinted (.ended status stdout stderr inputFault) (.ended status stdout' stderr inputFault)

/-- Two outcomes of the command that serves a request, alike but for the order of what is listed. -/
def AlikeFor : Request → Outcome → Outcome → Prop
  | .list _ => Reprinted
  | .create _ | .address _ | .writeFile .. | .signal .. | .reload _ | .delete _ => Eq

lemma AlikeFor.started {request : Request} {outcome outcome' : Outcome}
    (h : AlikeFor request outcome outcome') (i : Invocation) :
    outcome.started i = outcome'.started i := by
  cases request with
  | list q => cases h <;> rfl
  | create | address | writeFile | signal | reload | delete => exact congrArg _ h

/-- Two hosts on which the commands that serve requests come out alike as long as `S` holds of their
states, but for the order of what is listed. -/
def Relisted {σ τ : Type} (d : Docker) (host : Host σ) (host' : Host τ) (S : σ → τ → Prop) : Prop :=
  ∀ request s t, S s t →
    AlikeFor request (host.launch (d.invocation request) s).2
        (host'.launch (d.invocation request) t).2 ∧
      S (host.launch (d.invocation request) s).1 (host'.launch (d.invocation request) t).1

variable {σ τ : Type} {S : σ → τ → Prop} {d : Docker} {host : Host σ} {host' : Host τ}

lemma listed_name (q : LabelQuery) (name : String) : (listed q name).name = name := by
  have hfold : ∀ (labels : List (String × String)) (c : Container),
      (labels.foldl (fun c e => c.withLabel e.1 e.2) c).name = c.name := by
    intro labels
    induction labels with
    | nil => exact fun c => rfl
    | cons e rest ih => exact fun c => ih _
  exact hfold _ _

lemma relisted_of_perm (q : LabelQuery) {found found' : List String} (h : found.Perm found') :
    ApiBalancer.Relisted (found.map (listed q)) (found'.map (listed q)) where
  perm := h.map _
  named c hc c' hc' hname := by
    obtain ⟨name, -, rfl⟩ := List.mem_map.1 hc
    obtain ⟨name', -, rfl⟩ := List.mem_map.1 hc'
    rw [listed_name, listed_name] at hname
    rw [hname]

lemma answered_reprinted (d : Docker) (q : LabelQuery) (line : String) {outcome outcome' : Outcome}
    (h : Reprinted outcome outcome') :
    Option.Rel (Results Eq ApiBalancer.Relisted)
      ((output line outcome).map fun result => result.bind (d.answer? (.list q)))
      ((output line outcome').map fun result => result.bind (d.answer? (.list q))) := by
  have hended : ∀ status stdout stdout' stderr inputFault found found',
      Lists (lossyText stdout).toList found → Lists (lossyText stdout').toList found' →
      found.Perm found' → Option.Rel (Results Eq ApiBalancer.Relisted)
        ((output line (.ended status stdout stderr inputFault)).map fun result =>
          result.bind (d.answer? (.list q)))
        ((output line (.ended status stdout' stderr inputFault)).map fun result =>
          result.bind (d.answer? (.list q))) := by
    intro status stdout stdout' stderr inputFault found found' hfound hfound' hperm
    unfold output
    dsimp only
    split_ifs
    · cases inputFault with
      | some cause => exact .some (.error rfl)
      | none =>
        change Option.Rel _ (some (Except.ok ((names (lossyText stdout)).map (listed q))))
          (some (Except.ok ((names (lossyText stdout')).map (listed q))))
        rw [names_iff.2 hfound, names_iff.2 hfound']
        exact .some (.ok (relisted_of_perm q hperm))
    · exact .some (.error rfl)
  cases h with
  | same =>
    cases outcome with
    | notStarted cause | lost cause => exact .some (.error rfl)
    | running => exact .none
    | ended status stdout stderr inputFault =>
      have hlists := names_iff.1 (Eq.refl (names (lossyText stdout)))
      exact hended status stdout stdout stderr inputFault _ _ hlists hlists (List.Perm.refl _)
  | ended status stderr inputFault hfound hfound' hperm =>
    exact hended status _ _ stderr inputFault _ _ hfound hfound' hperm

/-- Such hosts make engines that relist each other. -/
theorem Relisted.engine (h : d.Relisted host host' S) :
    (d.engine host).Relisted (d.engine host') S := by
  intro request s t hst
  obtain ⟨halike, hstate⟩ := h request s t hst
  refine ⟨?_, rfl, hstate⟩
  change Option.Rel _
    ((output _ (host.launch (d.invocation request) s).2).map fun result =>
      result.bind (d.answer? request))
    ((output _ (host'.launch (d.invocation request) t).2).map fun result =>
      result.bind (d.answer? request))
  cases request with
  | list q => exact answered_reprinted d q _ halike
  | create | address | writeFile | signal | reload | delete =>
    rw [show (host.launch _ s).2 = (host'.launch _ t).2 from halike]
    exact Json.Rel.refl (fun _ => rfl) _

/-- They start the same commands. -/
theorem Relisted.watched (h : d.Relisted host host' S) :
    d.Relisted host.watched host'.watched fun s t => S s.1 t.1 ∧ s.2 = t.2 := by
  rintro request ⟨s, started⟩ ⟨t, started'⟩ ⟨hst, rfl⟩
  obtain ⟨halike, hstate⟩ := h request s t hst
  refine ⟨halike, hstate, ?_⟩
  change started ++ (host.launch (d.invocation request) s).2.started _ =
    started ++ (host'.launch (d.invocation request) t).2.started _
  rw [halike.started]

/-! ### Runs on Docker -/

lemma serve_list {q : LabelQuery} {s : σ} {status : ExitStatus} {stdout stderr : ByteArray}
    (hend : (host.launch (d.invocation (.list q)) s).2 = .ended status stdout stderr none)
    (hsuccess : status.isSuccess = true) :
    (d.serve host (.list q) s).answer =
      some (.ok ((names (lossyText stdout)).map (listed q))) := by
  change (output _ (host.launch (d.invocation (.list q)) s).2).map _ = _
  rw [hend, output, if_pos hsuccess]
  rfl

lemma run_nodes {cluster : String} {role : Role} (c : Cancellation) {p : Progress σ}
    {status : ExitStatus} {stdout stderr : ByteArray}
    (hend : (host.launch (d.invocation (.list (.nodes cluster role))) p.engine).2 =
      .ended status stdout stderr none) (hsuccess : status.isSuccess = true) :
    ((Cluster.nodes cluster role).run (d.engine host) c p).2 =
      .finished (.ok (Cluster.sortByName
        ((names (lossyText stdout)).map (listed (.nodes cluster role))))) := by
  have hanswer := serve_list hend hsuccess
  unfold Cluster.nodes
  rw [run_ask_bind c _ hanswer]
  rfl

lemma run_balancer? {cluster : String} (c : Cancellation) {p : Progress σ}
    {status : ExitStatus} {stdout stderr : ByteArray}
    (hend : (host.launch
      (d.invocation (.list (.nodes cluster .externalLoadBalancer))) p.engine).2 =
      .ended status stdout stderr none) (hsuccess : status.isSuccess = true) :
    ((Cluster.balancer? cluster).run (d.engine host) c p).2 =
      .finished (.ok (Cluster.sortByName
        ((names (lossyText stdout)).map
          (listed (.nodes cluster .externalLoadBalancer)))).head?) := by
  have hnodes := run_nodes c hend hsuccess
  obtain ⟨⟨q, e⟩, hrun⟩ : ∃ run, run = (Cluster.balancer? cluster).run (d.engine host) c p :=
    ⟨_, rfl⟩
  rw [← hrun]
  rcases of_run_bind hrun.symm with ⟨r, found, hfound, hrest⟩ | ⟨err, hfound, -⟩ |
    ⟨b, hfound, -⟩
  · rw [hfound] at hnodes
    cases hnodes
    dsimp only at hrest
    split_ifs at hrest <;> cases hrest <;> rfl
  · rw [hfound] at hnodes
    cases hnodes
  · rw [hfound] at hnodes
    cases hnodes

lemma sorted_names (q : LabelQuery) (printed : List String) :
    let found := Cluster.sortByName (printed.map (listed q))
    (found.map (·.name)).Perm printed ∧ (found.map (·.name)).Pairwise (· ≤ ·) := by
  intro found
  constructor
  · refine ((Cluster.perm_sortByName _).map _).trans ?_
    rw [List.map_map, show (·.name) ∘ listed q = id from funext (listed_name q), List.map_id]
  · rw [List.pairwise_map]
    exact Cluster.pairwise_sortByName _

lemma least_listed (q : LabelQuery) (printed : List String) :
    let first? := (Cluster.sortByName (printed.map (listed q))).head?
    (first? = none ↔ printed = []) ∧
      ∀ c, first? = some c → c.name ∈ printed ∧ ∀ name ∈ printed, c.name ≤ name := by
  obtain ⟨hperm, hsorted⟩ := sorted_names q printed
  dsimp only
  generalize Cluster.sortByName (printed.map (listed q)) = found at hperm hsorted
  cases found with
  | nil =>
    obtain rfl := List.nil_perm.1 hperm
    exact ⟨⟨fun _ => rfl, fun _ => rfl⟩, fun c hc => (by cases hc)⟩
  | cons first rest =>
    rw [List.map_cons] at hperm hsorted
    refine ⟨⟨fun h => (by cases h), fun h => ?_⟩, fun c hc => ?_⟩
    · rw [h] at hperm
      cases hperm.eq_nil
    · cases hc
      refine ⟨hperm.mem_iff.1 List.mem_cons_self, fun name hname => ?_⟩
      rcases List.mem_cons.1 (hperm.mem_iff.2 hname) with rfl | hrest
      · exact String.le_refl first.name
      · exact (List.pairwise_cons.1 hsorted).1 name hrest

/-- **The order of a listing does not matter.** On engines that differ in the order in which they
list containers at most, where a name tells which container it is, finding nodes, finding the
balancer and updating a balancer make the same requests with the same contents, report the same and
end in the same way. So they do on Docker if two hosts print the same names as often as each other,
in whatever order and layout; the same commands are started then, with the same input. The nodes
found are those that are printed, each as often as it is, in the order of their names; the balancer
found is the least of them, and none is found exactly if none is printed. -/
theorem listing_order_irrelevant (c : Cancellation) :
    (∀ (σ τ : Type) (engine : Engine σ) (engine' : Engine τ) (S : σ → τ → Prop),
      engine.Relisted engine' S → ∀ (p : Progress σ) (q : Progress τ), p.InStep S q →
      SameWork S engine engine' c p q) ∧
    (∀ (σ τ : Type) (d : Docker) (host : Host σ) (host' : Host τ) (S : σ → τ → Prop),
      d.Relisted host host' S → ∀ s t, S s t →
      SameWork (fun x y => S x.1 y.1 ∧ x.2 = y.2) (d.engine host.watched) (d.engine host'.watched) c
        { engine := (s, []) } { engine := (t, []) }) ∧
    ∀ (σ : Type) (d : Docker) (host : Host σ) (p : Progress σ) (cluster : String) (role : Role)
      (status : ExitStatus) (stdout stderr : ByteArray) (printed : List String),
      status.isSuccess = true → Lists (lossyText stdout).toList printed →
      ((host.launch (d.invocation (.list (.nodes cluster role))) p.engine).2 =
          .ended status stdout stderr none →
        ∃ found, ((Cluster.nodes cluster role).run (d.engine host) c p).2 = .finished (.ok found) ∧
          (found.map (·.name)).Perm printed ∧ (found.map (·.name)).Pairwise (· ≤ ·)) ∧
      ((host.launch (d.invocation (.list (.nodes cluster .externalLoadBalancer))) p.engine).2 =
          .ended status stdout stderr none →
        ∃ found, ((Cluster.balancer? cluster).run (d.engine host) c p).2 = .finished (.ok found) ∧
          (found = none ↔ printed = []) ∧
          ∀ container, found = some container →
            container.name ∈ printed ∧ ∀ name ∈ printed, container.name ≤ name) := by
  refine ⟨fun σ τ engine engine' S h p q hpq => h.sameWork c hpq, ?_, ?_⟩
  · intro σ τ d host host' S h s t hst
    exact h.watched.engine.sameWork c ⟨⟨hst, rfl⟩, rfl, rfl⟩
  · intro σ d host p cluster role status stdout stderr printed hsuccess hlists
    obtain rfl := names_iff.2 hlists
    exact ⟨fun hend => ⟨_, run_nodes c hend hsuccess, sorted_names _ _⟩,
      fun hend => ⟨_, run_balancer? c hend hsuccess, least_listed _ _⟩⟩

/-- A host on which Docker lists containers as it is told and gives each of them the same address. -/
def bay (listing : String) : Host Unit where
  launch i s :=
    (s, .ended (.code 0)
      (match i.arguments with
        | "ps" :: _ => listing.toUTF8
        | "inspect" :: _ => "\x7b\"kind\": [\"10.0.0.2\"]\x7d".toUTF8
        | _ => .empty) .empty none)

lemma relisted_bay {listing listing' : String} (h : (names listing).Perm (names listing')) :
    Relisted {} (bay listing) (bay listing') Eq := by
  have hlists : ∀ output, Lists (lossyText output.toUTF8).toList (names output) := by
    intro output
    rw [lossyText_toUTF8]
    exact names_iff.1 rfl
  intro request s t hst
  refine ⟨?_, hst⟩
  cases request with
  | list q => exact .ended _ _ _ (hlists listing) (hlists listing') h
  | create | address | writeFile | signal | reload | delete => rfl

theorem two_listings_same_work :
    let host := bay "b\r\n a \n\n"
    let host' := bay "a\nb"
    let engine := engine {} host.watched
    (SameWork (fun x y => x.1 = y.1 ∧ x.2 = y.2) engine (Docker.engine {} host'.watched) .never
      { engine := ((), []) } { engine := ((), []) }) ∧
    ∃ found, ((Cluster.nodes "demo" .controlPlane).run engine .never { engine := ((), []) }).2 =
        .finished (.ok found) ∧
      (found.map (·.name)).Perm ["b", "a"] ∧ (found.map (·.name)).Pairwise (· ≤ ·) := by
  intro host host' engine
  obtain ⟨-, hsame, hfound⟩ := listing_order_irrelevant .never
  have hprinted : names "b\r\n a \n\n" = ["b", "a"] := by decide
  have hprinted' : names "a\nb" = ["a", "b"] := by decide
  have hperm : (names "b\r\n a \n\n").Perm (names "a\nb") := by
    rw [hprinted, hprinted']
    exact .swap "a" "b" []
  have hlists : Lists (lossyText "b\r\n a \n\n".toUTF8).toList ["b", "a"] := by
    rw [lossyText_toUTF8]
    exact names_iff.1 hprinted
  refine ⟨hsame Unit Unit {} host host' Eq (relisted_bay hperm) () () rfl, ?_⟩
  exact (hfound _ {} host.watched { engine := ((), []) } "demo" .controlPlane (.code 0) _ .empty _
    rfl hlists).1 rfl

end Docker

end ApiBalancer
