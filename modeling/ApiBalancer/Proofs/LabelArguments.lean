import ApiBalancer.Proofs.InventoryRun
import ApiBalancer.Proofs.ListingOrder

/-!
# Labels that are written and read

A balancer's container is created with the labels that it is later looked for by. On the command
line both are options with values, which `Docker.options` reads in the way of the command.
`created_as_looked_for` says that the two agree for every cluster, on the command line and in an
inventory, that listings hold nothing but what was asked for, and that the arguments of a creation
tell all of it.
-/

namespace ApiBalancer

lemma Role.name_injective : Function.Injective Role.name := by
  intro r r' h
  cases r <;> cases r' <;> first | rfl | exact absurd h (by decide)

/-- A node answers the query for the nodes of a cluster with a role exactly if it is of that cluster
and has that role. -/
lemma LabelQuery.nodes_matches_iff {cluster cluster' name : String} {role role' : Role} :
    (nodes cluster role).Matches (Container.node name cluster' role').labels ↔
      cluster' = cluster ∧ role' = role := by
  rw [nodes_matches_node, Role.name_injective.eq_iff, eq_comm, eq_comm (a := role)]

namespace Docker

/-- The options with their values among the arguments of a command, and the operands behind them.
The options in `switches` have no value. -/
def options (switches : List String) : List String → List (String × String) × List String
  | argument :: value :: rest =>
    if argument ∈ switches then options switches (value :: rest)
    else if argument.toList.take 2 = ['-', '-'] then
      ((argument, value) :: (options switches rest).1, (options switches rest).2)
    else ([], argument :: value :: rest)
  | rest => ([], rest)

/-- The values that an option is given. -/
def valuesOf (option : String) (given : List (String × String)) : List String :=
  (given.filter (·.1 = option)).map Prod.snd

variable {switches : List String} {argument : String} {rest : List String}

lemma options_switch (h : argument ∈ switches) (hrest : rest ≠ []) :
    options switches (argument :: rest) = options switches rest := by
  cases rest with
  | nil => exact (hrest rfl).elim
  | cons value rest => rw [options, if_pos h]

lemma options_valued (hvalued : argument ∉ switches) (h : argument.toList.take 2 = ['-', '-'])
    (value : String) (rest : List String) :
    options switches (argument :: value :: rest) =
      ((argument, value) :: (options switches rest).1, (options switches rest).2) := by
  rw [options, if_neg hvalued, if_pos h]

lemma options_each (hvalued : argument ∉ switches) (h : argument.toList.take 2 = ['-', '-'])
    {γ : Type} (value : γ → String) (l : List γ) (rest : List String) :
    options switches (l.flatMap (fun x => [argument, value x]) ++ rest) =
      (l.map (fun x => (argument, value x)) ++ (options switches rest).1,
        (options switches rest).2) := by
  induction l with
  | nil => rfl
  | cons x others ih =>
    rw [List.flatMap_cons, List.append_assoc, List.cons_append, List.cons_append, List.nil_append,
      options_valued hvalued h, ih]
    rfl

lemma options_runArguments (l : Launch) :
    options ["--detach", "--tty"] (runArguments l).tail =
      ((launchLabels l).map (fun e => ("--label", labelArgument e.1 e.2)) ++
        [("--hostname", l.name), ("--name", l.name), ("--publish", published l)], [l.image]) := by
  have htail : (runArguments l).tail = "--detach" :: "--tty" ::
      ((launchLabels l).flatMap (fun e => ["--label", labelArgument e.1 e.2]) ++
        ["--hostname", l.name, "--name", l.name, "--publish", published l, l.image]) := rfl
  have hrest : options ["--detach", "--tty"]
      ["--hostname", l.name, "--name", l.name, "--publish", published l, l.image] =
        ([("--hostname", l.name), ("--name", l.name), ("--publish", published l)], [l.image]) := by
    rw [options_valued (by decide) (by decide), options_valued (by decide) (by decide),
      options_valued (by decide) (by decide)]
    rfl
  rw [htail, options_switch (by decide) (by simp), options_switch (by decide) (by simp),
    options_each (by decide) (by decide), hrest]

lemma options_listArguments (q : LabelQuery) :
    options ["--all", "--no-trunc"] (listArguments q).tail =
      (q.toList.map (fun e => ("--filter", "label=" ++ labelArgument e.1 e.2)) ++
        [("--format", "\x7b\x7b.Names\x7d\x7d")], []) := by
  have htail : (listArguments q).tail = "--all" :: "--no-trunc" ::
      (q.toList.flatMap (fun e => ["--filter", "label=" ++ labelArgument e.1 e.2]) ++
        ["--format", "\x7b\x7b.Names\x7d\x7d"]) := rfl
  rw [htail, options_switch (by decide) (by simp), options_switch (by decide) (by simp),
    options_each (by decide) (by decide), options_valued (by decide) (by decide)]
  rfl

lemma valuesOf_map_append {γ : Type} (option : String) (value : γ → String) (l : List γ)
    {others : List (String × String)} (h : ∀ e ∈ others, e.1 ≠ option) :
    valuesOf option (l.map (fun x => (option, value x)) ++ others) = l.map value := by
  have hmap : (l.map fun x => (option, value x)).filter (·.1 = option) =
      l.map fun x => (option, value x) := by
    rw [List.filter_eq_self]
    intro e he
    obtain ⟨x, -, rfl⟩ := List.mem_map.1 he
    exact decide_eq_true rfl
  have hothers : others.filter (·.1 = option) = [] := by
    rw [List.filter_eq_nil_iff]
    intro e he
    simpa using h e he
  rw [valuesOf, List.filter_append, hmap, hothers, List.append_nil, List.map_map]
  rfl

/-- What is given once for each of some values stands beside its value. -/
lemma pair_isInfix {γ : Type} (option : String) (value : γ → String) {l : List γ} {x : γ}
    (h : x ∈ l) (before behind : List String) :
    [option, value x] <:+: before ++ l.flatMap (fun x => [option, value x]) ++ behind := by
  obtain ⟨first, others, rfl⟩ := List.append_of_mem h
  refine ⟨before ++ first.flatMap fun x => [option, value x],
    others.flatMap (fun x => [option, value x]) ++ behind, ?_⟩
  simp only [List.flatMap_append, List.flatMap_cons, List.append_assoc]

lemma label_isInfix {l : Launch} {e : String × String} (h : e ∈ launchLabels l) :
    ["--label", labelArgument e.1 e.2] <:+: runArguments l :=
  pair_isInfix "--label" (fun e : String × String => labelArgument e.1 e.2) h _ _

lemma filter_isInfix {q : LabelQuery} {e : String × String} (h : e ∈ q.toList) :
    ["--filter", "label=" ++ labelArgument e.1 e.2] <:+: listArguments q := by
  have hpair := pair_isInfix "--filter"
    (fun e : String × String => "label=" ++ labelArgument e.1 e.2) h ["ps", "--all", "--no-trunc"]
    ["--format", "\x7b\x7b.Names\x7d\x7d"]
  exact hpair

/-! ### The arguments of a creation -/

/-- The labels of a container are those that its cluster's balancer is looked for by. -/
lemma launchLabels_eq (l : Launch) :
    launchLabels l = (LabelQuery.nodes l.cluster .externalLoadBalancer).toList :=
  rfl

/-- The text of a port of the host. -/
def portText (port : UInt16) : List Char :=
  if port = 0 then [] else Nat.toDigits 10 port.toNat

lemma colon_notMem_portText (port : UInt16) : ':' ∉ portText port := by
  unfold portText
  split
  · exact List.not_mem_nil
  · rw [← Text.toList_toString]
    exact Text.not_mem_toString (by decide) _

lemma portText_injective : Function.Injective portText := by
  intro port port' h
  unfold portText at h
  have hne : ∀ n, Nat.toDigits 10 n ≠ [] := fun n => Nat.toDigits_ne_nil
  split at h
  · next hport =>
    split at h
    · next hport' => rw [hport, hport']
    · exact (hne _ h.symm).elim
  · split at h
    · exact (hne _ h).elim
    · rw [← Text.toList_toString, ← Text.toList_toString, String.toList_inj, Text.toString_inj] at h
      exact UInt16.toNat_inj.1 h

lemma toList_published (l : Launch) :
    (published l).toList =
      (l.listenAddress.toList ++ ':' :: portText l.port) ++ ":6443/TCP".toList := by
  have hport : (if l.port = 0 then "" else toString l.port.toNat).toList = portText l.port := by
    unfold portText
    split
    · rfl
    · exact String.toList_ofList
  have htarget : ":" ++ toString Endpoint.controlPlanePort.toNat ++ "/TCP" = ":6443/TCP" := by
    decide +kernel
  rw [published, ← htarget]
  simp only [String.toList_append, hport, List.append_assoc]
  rfl

lemma published_inj {l l' : Launch} (h : published l = published l') :
    l.listenAddress = l'.listenAddress ∧ l.port = l'.port := by
  have hlist := congrArg String.toList h
  rw [toList_published, toList_published] at hlist
  have hcut := congrArg (Text.cutLast? ':') (List.append_cancel_right hlist)
  rw [Text.cutLast?_append (colon_notMem_portText _),
    Text.cutLast?_append (colon_notMem_portText _), Option.some.injEq, Prod.mk.injEq] at hcut
  exact ⟨String.toList_inj.1 hcut.1, portText_injective hcut.2⟩

/-- The arguments of a creation tell all of it. -/
theorem runArguments_injective : Function.Injective runArguments := by
  intro l l' h
  obtain ⟨name, image, cluster, listenAddress, port⟩ := l
  obtain ⟨name', image', cluster', listenAddress', port'⟩ := l'
  simp only [runArguments, launchLabels, List.flatMap_cons, List.flatMap_nil, List.cons_append,
    List.nil_append, List.cons.injEq, labelArgument, String.append_right_inj, and_true,
    true_and] at h
  obtain ⟨rfl, rfl, -, hpublished, rfl⟩ := h
  obtain ⟨rfl, rfl⟩ := published_inj hpublished
  rfl

variable {σ : Type}

/-- A listed container has the labels that were asked for. -/
lemma labels_listed (q : LabelQuery) (name : String) : (listed q name).labels = q.required := by
  have hfold : ∀ (labels : List (String × String)) (c : Container),
      (labels.foldl (fun c e => c.withLabel e.1 e.2) c).labels =
        labels.foldl (fun m e => m.insert e.1 e.2) c.labels := by
    intro labels
    induction labels with
    | nil => exact fun c => rfl
    | cons e rest ih => exact fun c => ih _
  exact (hfold q.toList { name }).trans (NameMap.ofList_toList q.required)

lemma matches_required (q : LabelQuery) : q.Matches q.required :=
  fun _ he => (NameMap.mem_entries_iff _ _ _).1 he

/-- A listing that is read names containers with the labels that were asked for. -/
lemma answer_list {d : Docker} {host : Host σ} {q : LabelQuery} {s : σ} {found : List Container}
    (h : ((d.engine host).serve (.list q) s).answer = some (.ok found)) :
    ∃ printed : List String, found = printed.map (listed q) := by
  change (output _ (host.launch (d.invocation (.list q)) s).2).map
    (fun result => result.bind (d.answer? (.list q))) = some (Except.ok found) at h
  obtain ⟨result, -, hresult⟩ := Option.map_eq_some_iff.1 h
  cases result with
  | error e => cases hresult
  | ok text =>
    cases hresult
    exact ⟨names text, rfl⟩

end Docker

/-- A container that an inventory has created answers the query for its cluster's balancer, and no
other query for the nodes of a cluster. -/
lemma Inventory.created_answers {inv : Inventory} {launch : Launch} {c : Container}
    (h : (serve (.create launch) inv).answer = some (.ok c)) (cluster : String) (role : Role) :
    c ∈ (serve (.create launch) inv).state.answering (.nodes cluster role) ↔
      launch.cluster = cluster ∧ role = .externalLoadBalancer := by
  obtain ⟨-, rfl, htable⟩ := create_ok h
  have hthere : (serve (.create launch) inv).state.entries.get? launch.name =
      some ⟨.node launch.name launch.cluster .externalLoadBalancer, createdAddress inv.created, ∅,
        []⟩ := by
    have hentries := congrArg Prod.fst htable
    change (serve (.create launch) inv).state.entries = _ at hentries
    rw [hentries, NameMap.get?_insert_self]
  rw [mem_answering, LabelQuery.nodes_matches_iff]
  exact ⟨fun ⟨⟨hcluster, hrole⟩, _⟩ => ⟨hcluster, hrole.symm⟩,
    fun ⟨hcluster, hrole⟩ => ⟨⟨hcluster, hrole.symm⟩, _, _, hthere, rfl⟩⟩

namespace Docker

/-- A balancer's container is created with the labels that it is looked for by, and with no others.
The command that creates it is given them as options, the command that lists is given them as
filters, and what the listing is read as has them; the handle that a creation yields is the one that
a listing yields. Of all queries for the nodes of a cluster with a role, a node answers the one for
its own cluster and role, in an inventory too. No two creations have the same arguments. -/
theorem created_as_looked_for :
    (∀ l : Launch,
      let q := LabelQuery.nodes l.cluster .externalLoadBalancer
      (∀ e ∈ q.toList, ["--label", labelArgument e.1 e.2] <:+: runArguments l ∧
        ["--filter", "label=" ++ labelArgument e.1 e.2] <:+: listArguments q) ∧
      valuesOf "--label" (options ["--detach", "--tty"] (runArguments l).tail).1 =
        q.toList.map fun e => labelArgument e.1 e.2) ∧
    (∀ q : LabelQuery,
      valuesOf "--filter" (options ["--all", "--no-trunc"] (listArguments q).tail).1 =
        q.toList.map fun e => "label=" ++ labelArgument e.1 e.2) ∧
    (∀ (σ : Type) (d : Docker) (host : Host σ) q s found,
      ((d.engine host).serve (.list q) s).answer = some (.ok found) →
      ∀ c ∈ found, c.labels = q.required ∧ q.Matches c.labels) ∧
    (∀ (d : Docker) l output, d.answer? (.create l) output =
      .ok (listed (.nodes l.cluster .externalLoadBalancer) l.name)) ∧
    (∀ cluster cluster' name role role',
      (LabelQuery.nodes cluster role).Matches (Container.node name cluster' role').labels ↔
        cluster' = cluster ∧ role' = role) ∧
    (∀ inv launch c, (Inventory.serve (.create launch) inv).answer = some (.ok c) →
      ∀ cluster role,
        c ∈ (Inventory.serve (.create launch) inv).state.answering (.nodes cluster role) ↔
          launch.cluster = cluster ∧ role = .externalLoadBalancer) ∧
    Function.Injective runArguments := by
  refine ⟨fun l => ⟨fun e he => ⟨?_, ?_⟩, ?_⟩, fun q => ?_,
    fun σ d host q s found hfound c hc => ?_, fun _ _ _ => rfl,
    fun _ _ _ _ _ => LabelQuery.nodes_matches_iff, fun _ _ _ h cluster role => ?_,
    runArguments_injective⟩
  · rw [← launchLabels_eq] at he
    exact label_isInfix he
  · exact filter_isInfix he
  · rw [options_runArguments, launchLabels_eq]
    exact valuesOf_map_append _ _ _ (by simp)
  · rw [options_listArguments]
    exact valuesOf_map_append _ _ _ (by simp)
  · obtain ⟨printed, rfl⟩ := answer_list hfound
    obtain ⟨name, -, rfl⟩ := List.mem_map.1 hc
    rw [labels_listed]
    exact ⟨rfl, matches_required q⟩
  · exact Inventory.created_answers h cluster role

theorem odd_cluster_created_as_looked_for :
    let q := LabelQuery.nodes "a=b control-plane" .externalLoadBalancer
    let launch : Launch := ⟨"lb", "haproxy", "a=b control-plane", "::", 0⟩
    let c := Container.node "lb" "a=b control-plane" .externalLoadBalancer
    (∃ found, ((({} : Docker).engine (bay "lb\n")).serve (.list q) ()).answer = some (.ok found) ∧
      found = [c] ∧ ∀ c ∈ found, q.Matches c.labels) ∧
    (Inventory.serve (.create launch) {}).answer = some (.ok c) ∧
      c ∈ (Inventory.serve (.create launch) {}).state.answering q := by
  intro q launch c
  obtain ⟨-, -, hlisted, -, -, hcreated, -⟩ := created_as_looked_for
  have hanswer : ((({} : Docker).engine (bay "lb\n")).serve (.list q) ()).answer =
      some (.ok [c]) := by decide +kernel
  have hserved : (Inventory.serve (.create launch) {}).answer = some (.ok c) := by decide +kernel
  exact ⟨⟨_, hanswer, rfl, fun d hd => (hlisted Unit {} (bay "lb\n") q () _ hanswer d hd).2⟩,
    hserved, (hcreated {} launch c hserved _ _).2 ⟨rfl, rfl⟩⟩

end Docker

end ApiBalancer
