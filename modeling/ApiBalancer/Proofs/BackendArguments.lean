import ApiBalancer.Proofs.BackendRecords
import ApiBalancer.Proofs.RenderedUpdate

/-!
# Backends on the command line

An argument gives a backend by a name and a host with an equals sign between them.
`CommandLine.backends_of_arguments` says which lists of arguments are accepted, which set they then
make, and which argument is blamed otherwise.
-/

namespace ApiBalancer.CommandLine

/-- Whether an argument gives a name and a host: the name stands before its first equals sign, the
host behind it, and neither is empty. -/
def Gives (argument : String) (node : String × String) : Prop :=
  Writable node ∧ argument = backendArgument node

/-- What is wrong with an argument that gives no backend. -/
inductive Faulty (argument : String) : BackendFault → Prop
  | noSeparator : '=' ∉ argument.toList → Faulty argument (.noSeparator argument)
  | emptySide (name host : String) : '=' ∉ name.toList → argument = backendArgument (name, host) →
    name = "" ∨ host = "" → Faulty argument (.emptySide argument)

variable {argument : String} {node : String × String} {fault : BackendFault}

lemma backendOf_of_gives (h : Gives argument node) :
    backendOf argument = .ok (.reachable node.1 node.2 Endpoint.controlPlanePort) := by
  rw [h.2]
  exact backendOf_backendArgument h.1

lemma backendOf_of_faulty (h : Faulty argument fault) : backendOf argument = .error fault := by
  cases h with
  | noSeparator hnone =>
    have hdrop : argument.toList.dropWhile (· != '=') = [] := by
      refine List.dropWhile_eq_nil_iff.2 fun c hc => ?_
      rw [bne_iff_ne]
      rintro rfl
      exact hnone hc
    simp only [backendOf, hdrop]
  | emptySide name host hname hargument hside =>
    obtain ⟨htake, hdrop⟩ := split_backendArgument hname host
    have hsides : (name.toList.isEmpty || host.toList.isEmpty) = true := by simpa using hside
    simp only [backendOf, hargument, htake, hdrop, hsides, if_true]

lemma gives_or_faulty (argument : String) :
    (∃ node, Gives argument node) ∨ ∃ fault, Faulty argument fault := by
  by_cases hmem : '=' ∈ argument.toList
  · obtain ⟨name, host, hsplit, hname⟩ := List.eq_append_cons_of_mem hmem
    have hargument : argument = backendArgument (String.ofList name, String.ofList host) := by
      rw [← String.toList_inj, hsplit]
      simp [backendArgument]
    have hname' : '=' ∉ (String.ofList name).toList := by rwa [String.toList_ofList]
    by_cases hside : String.ofList name = "" ∨ String.ofList host = ""
    · exact .inr ⟨_, .emptySide _ _ hname' hargument hside⟩
    · rw [not_or] at hside
      exact .inl ⟨_, ⟨hside.1, hname', hside.2⟩, hargument⟩
  · exact .inr ⟨_, .noSeparator hmem⟩

/-- The message quotes the argument and tells a missing equals sign from an empty side. -/
lemma message_of_faulty (h : Faulty argument fault) :
    fault.message = "invalid backend " ++ Text.quote argument ++ ": " ++
      if '=' ∈ argument.toList then "name and host must be non-empty"
      else "expected NAME=HOST" := by
  cases h with
  | noSeparator hnone =>
    rw [if_neg hnone, String.append_assoc]
    rfl
  | emptySide name host hname hargument hside =>
    have hmem : '=' ∈ argument.toList := by simp [hargument, backendArgument]
    rw [if_pos hmem, String.append_assoc]
    rfl

variable {arguments arguments' : List String} {nodes nodes' : List (String × String)}

instance (node : String × String) : Decidable (Writable node) :=
  decidable_of_iff (node.1 ≠ "" ∧ '=' ∉ node.1.toList ∧ node.2 ≠ "")
    ⟨fun ⟨hname, hseparable, hhost⟩ => ⟨hname, hseparable, hhost⟩,
      fun h => ⟨h.name, h.separable, h.host⟩⟩

lemma forall₂_gives (nodes : List (String × String)) (h : ∀ n ∈ nodes, Writable n) :
    List.Forall₂ Gives (nodes.map backendArgument) nodes :=
  List.forall₂_map_left_iff.2 (List.forall₂_same.2 fun n hn => ⟨h n hn, rfl⟩)

lemma exists_nodes (h : ∀ a ∈ arguments, ∃ node, Gives a node) :
    ∃ nodes, List.Forall₂ Gives arguments nodes := by
  induction arguments with
  | nil => exact ⟨[], .nil⟩
  | cons a rest ih =>
    obtain ⟨⟨node, hnode⟩, hrest⟩ := List.forall_mem_cons.1 h
    obtain ⟨nodes, hnodes⟩ := ih hrest
    exact ⟨node :: nodes, .cons hnode hnodes⟩

/-- Arguments that all give a backend make the set of what they give. -/
lemma backendsOf_of_gives (h : List.Forall₂ Gives arguments nodes) :
    backendsOf arguments = .ok (.atControlPlane nodes) := by
  have hwritten : (∀ n ∈ nodes, Writable n) ∧ arguments = nodes.map backendArgument := by
    induction h with
    | nil => exact ⟨nofun, rfl⟩
    | cons hnode _ ih =>
      exact ⟨List.forall_mem_cons.2 ⟨hnode.1, ih.1⟩, List.cons_eq_cons.2 ⟨hnode.2, ih.2⟩⟩
  rw [hwritten.2]
  exact backendsOf_backendArgument hwritten.1

/-- The first argument with something wrong ends it, whatever comes after. -/
lemma backendsOf_of_faulty {before : List String} (hbefore : ∀ a ∈ before, ∃ node, Gives a node)
    (h : Faulty argument fault) (after : List String) :
    backendsOf (before ++ argument :: after) = .error fault := by
  have hall : (before ++ argument :: after).mapM backendOf = .error fault := by
    induction before with
    | nil =>
      rw [List.nil_append, List.mapM_cons, backendOf_of_faulty h]
      rfl
    | cons a rest ih =>
      obtain ⟨⟨node, hnode⟩, hrest⟩ := List.forall_mem_cons.1 hbefore
      rw [List.cons_append, List.mapM_cons, backendOf_of_gives hnode, ih hrest]
      rfl
  rw [backendsOf, hall]
  rfl

/-- All arguments give a backend, or there is a first one with something wrong. -/
lemma gives_or_first_faulty (arguments : List String) :
    (∀ a ∈ arguments, ∃ node, Gives a node) ∨
      ∃ before a after fault, arguments = before ++ a :: after ∧
        (∀ b ∈ before, ∃ node, Gives b node) ∧ Faulty a fault := by
  induction arguments with
  | nil => exact .inl nofun
  | cons a rest ih =>
    rcases gives_or_faulty a with hgives | ⟨fault, hfault⟩
    · rcases ih with hall | ⟨before, b, after, fault, rfl, hbefore, hfault⟩
      · exact .inl (List.forall_mem_cons.2 ⟨hgives, hall⟩)
      · exact .inr ⟨a :: before, b, after, fault, rfl,
          List.forall_mem_cons.2 ⟨hgives, hbefore⟩, hfault⟩
    · exact .inr ⟨[], a, rest, fault, rfl, nofun, hfault⟩

lemma exists_backendsOf_iff :
    (∃ s, backendsOf arguments = .ok s) ↔ ∀ a ∈ arguments, ∃ node, Gives a node := by
  constructor
  · rintro ⟨s, hs⟩
    rcases gives_or_first_faulty arguments with
      hall | ⟨before, a, after, fault, rfl, hbefore, hfault⟩
    · exact hall
    · rw [backendsOf_of_faulty hbefore hfault] at hs
      cases hs
  · intro hall
    obtain ⟨nodes, hnodes⟩ := exists_nodes hall
    exact ⟨_, backendsOf_of_gives hnodes⟩

lemma backendsOf_eq_error_iff :
    backendsOf arguments = .error fault ↔ ∃ before a after, arguments = before ++ a :: after ∧
      (∀ b ∈ before, ∃ node, Gives b node) ∧ Faulty a fault := by
  constructor
  · intro herror
    rcases gives_or_first_faulty arguments with
      hall | ⟨before, a, after, fault', rfl, hbefore, hfault⟩
    · obtain ⟨s, hs⟩ := exists_backendsOf_iff.2 hall
      rw [hs] at herror
      cases herror
    · rw [backendsOf_of_faulty hbefore hfault] at herror
      cases herror
      exact ⟨before, a, after, rfl, hbefore, hfault⟩
  · rintro ⟨before, a, after, rfl, hbefore, hfault⟩
    exact backendsOf_of_faulty hbefore hfault after

/-! ### What they make -/

/-- The host last given for a name. -/
def lastHost? (name : String) (nodes : List (String × String)) : Option String :=
  ((nodes.filter (·.1 = name)).getLast?).map (·.2)

lemma get?_atControlPlane (nodes : List (String × String)) (name : String) :
    (BackendSet.atControlPlane nodes).get? name =
      (lastHost? name nodes).map (Endpoint.join · 6443) := by
  have hlast := NameMap.get?_ofList_last nodes Prod.fst (fun n => Endpoint.join n.2 6443) name
  unfold BackendSet.atControlPlane BackendSet.ofList
  rw [List.map_map, lastHost?, Option.map_map]
  exact hlast

lemma mem_names_atControlPlane (nodes : List (String × String)) (name : String) :
    name ∈ (BackendSet.atControlPlane nodes).names ↔ name ∈ nodes.map (·.1) := by
  unfold BackendSet.atControlPlane
  rw [BackendSet.mem_names_ofList, List.map_map]
  rfl

lemma atControlPlane_eq (h : ∀ name, lastHost? name nodes' = lastHost? name nodes) :
    BackendSet.atControlPlane nodes' = .atControlPlane nodes := by
  have hget : ∀ name, (BackendSet.atControlPlane nodes').get? name =
      (BackendSet.atControlPlane nodes).get? name := by
    intro name
    rw [get?_atControlPlane, get?_atControlPlane, h]
  exact congrArg BackendSet.mk (NameMap.ext_get? hget)

lemma atControlPlane_of_perm (h : nodes'.Perm nodes) (hnodup : (nodes'.map (·.1)).Nodup) :
    BackendSet.atControlPlane nodes' = .atControlPlane nodes := by
  unfold BackendSet.atControlPlane BackendSet.ofList
  rw [List.map_map, List.map_map]
  refine congrArg BackendSet.mk (NameMap.ofList_of_perm (h.map _) ?_)
  rw [List.map_map]
  exact hnodup

/-- Arguments make a set of backends exactly if each of them has an equals sign with something on
both sides of the first one. The set then has the names before the first equals signs, each with the
host behind it in the last argument for the name, at port 6443, and nothing else of the arguments or
their order shows in it. Otherwise the first argument that gives no backend is blamed, and the
message quotes it and tells a missing equals sign from an empty side. -/
theorem backends_of_arguments (arguments : List String) :
    ((∃ s, backendsOf arguments = .ok s) ↔ ∀ a ∈ arguments, ∃ node, Gives a node) ∧
    (∀ nodes, List.Forall₂ Gives arguments nodes → ∃ s, backendsOf arguments = .ok s ∧
      (∀ name, name ∈ s.names ↔ name ∈ nodes.map (·.1)) ∧
      (∀ name, s.get? name = (lastHost? name nodes).map (Endpoint.join · 6443)) ∧
      (∀ arguments', arguments'.Perm arguments → (nodes.map (·.1)).Nodup →
        backendsOf arguments' = .ok s) ∧
      (∀ arguments' nodes', List.Forall₂ Gives arguments' nodes' →
        (∀ name, lastHost? name nodes' = lastHost? name nodes) →
        backendsOf arguments' = .ok s)) ∧
    (∀ fault, backendsOf arguments = .error fault ↔
      ∃ before a after, arguments = before ++ a :: after ∧
        (∀ b ∈ before, ∃ node, Gives b node) ∧ Faulty a fault) ∧
    (∀ a fault, Faulty a fault →
      fault.message = "invalid backend " ++ Text.quote a ++ ": " ++
        if '=' ∈ a.toList then "name and host must be non-empty" else "expected NAME=HOST") := by
  refine ⟨exists_backendsOf_iff, fun nodes hnodes => ⟨.atControlPlane nodes,
    backendsOf_of_gives hnodes, mem_names_atControlPlane nodes, get?_atControlPlane nodes,
    fun arguments' hperm hnodup => ?_, fun arguments' nodes' hnodes' hlast => ?_⟩,
    fun fault => backendsOf_eq_error_iff, fun a fault => message_of_faulty⟩
  · obtain ⟨nodes', hnodes', hperm'⟩ := List.perm_comp_forall₂ hperm hnodes
    rw [backendsOf_of_gives hnodes',
      atControlPlane_of_perm hperm' ((hperm'.map _).nodup_iff.2 hnodup)]
  · rw [backendsOf_of_gives hnodes', atControlPlane_eq hlast]

/-- Hosts with colons and equals signs, a name with two hosts, and two faults. -/
theorem odd_arguments_read :
    (∃ s, backendsOf ["cp=10.0.0.1", "b=x=y", "cp=fd00::2"] = .ok s ∧
      s.get? "cp" = some "[fd00::2]:6443" ∧ s.get? "b" = some "x=y:6443" ∧
      backendsOf ["cp=fd00::2", "b=x=y"] = .ok s) ∧
    (∃ s, backendsOf ["b=x=y", "cp=fd00::2"] = .ok s ∧
      backendsOf ["cp=fd00::2", "b=x=y"] = .ok s) ∧
    ∃ fault, backendsOf ["a=1", "=h", "b"] = .error fault ∧
      fault.message = "invalid backend \"=h\": name and host must be non-empty" := by
  have hfirst := forall₂_gives [("cp", "10.0.0.1"), ("b", "x=y"), ("cp", "fd00::2")] (by decide)
  have hsecond := forall₂_gives [("cp", "fd00::2"), ("b", "x=y")] (by decide)
  have hthird := forall₂_gives [("b", "x=y"), ("cp", "fd00::2")] (by decide)
  refine ⟨?_, ?_, ?_⟩
  · obtain ⟨s, hs, -, hget, -, hsame⟩ := (backends_of_arguments _).2.1 _ hfirst
    refine ⟨s, hs, hget "cp", hget "b", hsame _ _ hsecond fun name => ?_⟩
    by_cases hcp : name = "cp"
    · subst hcp
      rfl
    · simp [lastHost?, List.filter_cons, Ne.symm hcp]
  · obtain ⟨s, hs, -, -, hperm, -⟩ := (backends_of_arguments _).2.1 _ hthird
    exact ⟨s, hs, hperm _ (List.Perm.swap _ _ _) (by decide)⟩
  · obtain ⟨-, -, herror, hmessage⟩ := backends_of_arguments ["a=1", "=h", "b"]
    have hfault : Faulty "=h" (.emptySide "=h") := .emptySide "" "h" (by decide) rfl (.inl rfl)
    have hbefore : ∀ a ∈ ["a=1"], ∃ node, Gives a node :=
      List.forall_mem_singleton.2 ⟨("a", "1"), by decide, rfl⟩
    refine ⟨_, (herror _).2 ⟨["a=1"], "=h", ["b"], rfl, hbefore, hfault⟩, ?_⟩
    rw [hmessage _ _ hfault]
    decide +kernel

end ApiBalancer.CommandLine
