import ApiBalancer.Engine.Docker
import ApiBalancer.Proofs.JsonVariants
import ApiBalancer.Proofs.LikeEngines
import ApiBalancer.Proofs.TextLines

/-!
# A Docker command that answers from a table

What is assumed of a host's `docker` command, in the words of its arguments: it answers from a table
of containers as an inventory does (`Docker.AnswersFrom`). Then the Docker command line is an engine
like the inventory (`Docker.alike_engine`): what the command prints is read as what the inventory
answers, and the command fails when the inventory fails.
-/

namespace ApiBalancer

open Text

namespace Inventory

variable {inv inv' : Inventory}

/-- Two inventories with the same containers. They may have recorded different calls. -/
structure Like (inv inv' : Inventory) : Prop where
  entries : inv'.entries = inv.entries
  addressFaults : inv'.addressFaults = inv.addressFaults
  created : inv'.created = inv.created

lemma Like.refl (inv : Inventory) : inv.Like inv := ⟨rfl, rfl, rfl⟩

lemma Like.symm (h : inv.Like inv') : inv'.Like inv :=
  ⟨h.entries.symm, h.addressFaults.symm, h.created.symm⟩

lemma Like.trans {inv'' : Inventory} (h : inv.Like inv') (h' : inv'.Like inv'') :
    inv.Like inv'' :=
  ⟨h'.entries.trans h.entries, h'.addressFaults.trans h.addressFaults, h'.created.trans h.created⟩

lemma like_record (inv : Inventory) (call : Call) : inv.Like (inv.record call) := ⟨rfl, rfl, rfl⟩

lemma Like.change (h : inv.Like inv') (name : String) (f : Entry → Except EngineError Entry) :
    (inv'.change name f).2 = (inv.change name f).2 ∧
      (inv.change name f).1.Like (inv'.change name f).1 := by
  unfold Inventory.change
  rw [h.entries]
  cases inv.entries.get? name with
  | none => exact ⟨rfl, h⟩
  | some e =>
    dsimp only
    cases f e with
    | ok e' => exact ⟨rfl, ⟨rfl, h.addressFaults, h.created⟩⟩
    | error err => exact ⟨rfl, h⟩

/-- Inventories of the same containers do the same work. -/
lemma Like.work (h : inv.Like inv') (request : Request) :
    (Inventory.work request inv').2 = (Inventory.work request inv).2 ∧
      (Inventory.work request inv).1.Like (Inventory.work request inv').1 := by
  have hcontains : ∀ name, inv'.contains name = inv.contains name := by
    intro name
    unfold contains
    rw [h.entries]
  cases request with
  | create launch =>
    simp only [Inventory.work, hcontains]
    split
    · exact ⟨rfl, h⟩
    · refine ⟨rfl, ⟨?_, h.addressFaults, congrArg (· + 1) h.created⟩⟩
      simp only [add, h.entries, h.created]
  | list query =>
    refine ⟨?_, h⟩
    simp only [Inventory.work, h.entries]
  | address container =>
    have haddress : inv'.addressOf? container.name = inv.addressOf? container.name := by
      unfold addressOf?
      rw [h.entries]
    simp only [Inventory.work, h.addressFaults, haddress]
    split <;> exact ⟨rfl, h⟩
  | writeFile container path content => exact h.change _ _
  | signal container signal => exact h.change _ _
  | reload container => exact h.change _ _
  | delete container =>
    simp only [Inventory.work, hcontains]
    split
    · refine ⟨rfl, ⟨?_, h.addressFaults, h.created⟩⟩
      simp only [remove, h.entries]
    · exact ⟨rfl, h⟩

/-- Whether nothing stands in the way of requests. -/
structure Calm (inv : Inventory) : Prop where
  faults : inv.faults = []
  stalled : inv.stalled = []

/-- Whether listings show the containers by their names. -/
def PlainNames (inv : Inventory) : Prop :=
  ∀ name e, inv.entries.get? name = some e → Plain e.container.name

lemma Calm.change (h : inv.Calm) (name : String) (f : Entry → Except EngineError Entry) :
    (inv.change name f).1.Calm := by
  unfold Inventory.change
  split
  · exact h
  · split
    · exact ⟨h.faults, h.stalled⟩
    · exact h

lemma Calm.work (h : inv.Calm) (request : Request) : (Inventory.work request inv).1.Calm := by
  cases request with
  | create launch =>
    simp only [Inventory.work]
    split
    · exact h
    · exact ⟨h.faults, h.stalled⟩
  | list query => exact h
  | address container =>
    simp only [Inventory.work]
    split <;> exact h
  | writeFile container path content => exact h.change _ _
  | signal container signal => exact h.change _ _
  | reload container => exact h.change _ _
  | delete container =>
    simp only [Inventory.work]
    split
    · exact ⟨h.faults, h.stalled⟩
    · exact h

lemma Calm.serve (h : inv.Calm) (request : Request) :
    Inventory.serve request inv =
      { state := (Inventory.work request (inv.record request.call)).1
        answer := some (Inventory.work request (inv.record request.call)).2 } := by
  unfold Inventory.serve
  rw [h.faults, h.stalled, if_neg List.not_mem_nil]
  rfl

lemma PlainNames.insert (h : inv.PlainNames) {name : String} {e : Entry}
    (he : Plain e.container.name) (hentries : inv'.entries = inv.entries.insert name e) :
    inv'.PlainNames := by
  intro name' e' hget
  rw [hentries, NameMap.get?_insert] at hget
  split at hget
  · cases hget
    exact he
  · exact h name' e' hget

lemma plainNames_empty : ({} : Inventory).PlainNames := by
  intro name e hget
  cases hget

lemma PlainNames.add (h : inv.PlainNames) {c : Container} (hc : Plain c.name) (address : String) :
    (inv.add c address).PlainNames :=
  h.insert (e := { container := c, address }) hc rfl

lemma PlainNames.change (h : inv.PlainNames) (name : String)
    {f : Entry → Except EngineError Entry}
    (hf : ∀ e e', f e = .ok e' → e'.container = e.container) :
    (inv.change name f).1.PlainNames := by
  unfold Inventory.change
  cases hget : inv.entries.get? name with
  | none => exact h
  | some e =>
    dsimp only
    cases hfe : f e with
    | error err => exact h
    | ok e' =>
      refine h.insert (e := e') ?_ rfl
      rw [hf e e' hfe]
      exact h name e hget

lemma PlainNames.send (h : inv.PlainNames) (name : String) (signal : Signal) :
    (inv.send name signal).1.PlainNames := by
  refine h.change name fun e e' he => ?_
  split at he
  · cases he
  · cases he
    rfl

lemma PlainNames.work (h : inv.PlainNames) {request : Request}
    (hcreate : ∀ launch, request = .create launch → Plain launch.name) :
    (Inventory.work request inv).1.PlainNames := by
  cases request with
  | create launch =>
    simp only [Inventory.work]
    split
    · exact h
    · exact h.insert (e := ⟨.node launch.name _ _, _, _, _⟩) (hcreate launch rfl) rfl
  | list query => exact h
  | address container =>
    simp only [Inventory.work]
    split <;> exact h
  | writeFile container path content =>
    refine h.change container.name fun e e' he => ?_
    cases he
    rfl
  | signal container signal => exact h.send _ _
  | reload container => exact h.send _ _
  | delete container =>
    simp only [Inventory.work]
    split
    · intro name e hget
      rw [remove, NameMap.get?_erase] at hget
      split at hget
      · cases hget
      · exact h name e hget
    · exact h

end Inventory

namespace Docker

/-- Whether the command prints, maybe with blanks around it, the JSON object of one network in which
`wanted` is the address. The `other` address may be left out. -/
def PrintsNetwork (wanted other : String) (output : ByteArray) (address : String) : Prop :=
  ∃ (before text after network : String) (fields : List (String × Json)),
    output = (before ++ text ++ after).toUTF8 ∧ (∀ c ∈ before.toList, isBlank c = true) ∧
    (∀ c ∈ after.toList, isBlank c = true) ∧ Text.trimmed text = text ∧
    Json.parse? text = some (.ofMembers [(network, .ofMembers fields)]) ∧
    (fields.map Prod.fst).Nodup ∧ (wanted, .ofText address) ∈ fields ∧
    ∀ value, (other, value) ∈ fields → ∃ a, value = .ofText a

/-- The commands that change something, with what they read, each beside the request that changes
the same in an inventory. -/
inductive Changes : List String → Option ByteArray → Request → Prop
  | run (name image cluster : String) :
    Changes
      ["run", "--detach", "--tty", "--label", "io.x-k8s.kind.cluster=" ++ cluster, "--label",
        "io.x-k8s.kind.role=external-load-balancer", "--hostname", name, "--name", name,
        "--publish", "0.0.0.0::6443/TCP", image]
      none (.create ⟨name, image, cluster, "0.0.0.0", 0⟩)
  | exec (c : Container) (path : String) (content : ByteArray) :
    Changes ["exec", "--interactive", c.name, "cp", "/dev/stdin", path] (some content)
      (.writeFile c path content)
  | kill (c : Container) : Changes ["kill", "--signal", "SIGHUP", c.name] none (.reload c)
  | rm (c : Container) : Changes ["rm", "--force", "--volumes", c.name] none (.delete c)

variable {σ : Type}

/-- Whether the command of a host, if its arguments can be passed to it, answers from the table that
`view` shows: `ps` lists the names of the containers with the labels asked for, one a line in any
order, `inspect` prints the network in which a container has its address, and the commands that
change something succeed, with all of their input read, exactly if the inventory could do the same,
and do it. -/
structure AnswersFrom (d : Docker) (host : Host σ) (view : σ → Inventory) : Prop where
  ps : ∀ (cluster : String) (role : Role) (s : σ), NulFree cluster →
    ∃ names stderr s',
      host.launch ⟨d.binary, ["ps", "--all", "--no-trunc",
        "--filter", "label=io.x-k8s.kind.cluster=" ++ cluster,
        "--filter", "label=io.x-k8s.kind.role=" ++ role.name,
        "--format", "\x7b\x7b.Names\x7d\x7d"], none⟩ s =
        (s', .ended (.code 0) (unlines names).toUTF8 stderr none) ∧
      names.Perm (((view s).answering (.nodes cluster role)).map (·.name)) ∧
      (view s).Like (view s')
  inspect : ∀ (c : Container) (s : σ), NulFree c.name →
    ∃ status stdout stderr s',
      host.launch ⟨d.binary, ["inspect", "--format",
        "\x7b\x7bjson .NetworkSettings.Networks\x7d\x7d", c.name], none⟩ s =
        (s', .ended status stdout stderr none) ∧
      (∀ address, (Inventory.work (.address c) (view s)).2 = .ok address →
        status = .code 0 ∧
        PrintsNetwork (if d.ipv6 then "GlobalIPv6Address" else "IPAddress")
          (if d.ipv6 then "IPAddress" else "GlobalIPv6Address") stdout address) ∧
      (∀ e, (Inventory.work (.address c) (view s)).2 = .error e → status.isSuccess = false) ∧
      (view s).Like (view s')
  changes : ∀ {arguments : List String} {input : Option ByteArray} {request : Request} (s : σ),
    Changes arguments input request → (∀ a ∈ arguments, NulFree a) →
    ∃ status stdout stderr inputFault s',
      host.launch ⟨d.binary, arguments, input⟩ s =
        (s', .ended status stdout stderr inputFault) ∧
      (status.isSuccess = true ↔ ∃ a, (Inventory.work request (view s)).2 = .ok a) ∧
      (status.isSuccess = true → inputFault = none) ∧
      (Inventory.work request (view s)).1.Like (view s')

end Docker

/-! ### What the command prints -/

namespace Docker

/-- A listing is read as the names that were printed. -/
lemma names_unlines {lines : List String} (h : ∀ line ∈ lines, Plain line) :
    names (unlines lines) = lines := by
  have htrimmed : lines.map trimmed = lines := by
    refine (List.map_congr_left fun line hline => (h line hline).trimmed).trans ?_
    exact List.map_id lines
  have hempty : trimmed "" = "" := rfl
  unfold names
  rw [parts_unlines fun line hline => (h line hline).oneLine, List.map_append, htrimmed,
    List.filter_append, List.map_singleton, hempty]
  have hkept : lines.filter (! ·.isEmpty) = lines := by
    refine List.filter_eq_self.2 fun line hline => ?_
    simpa using (h line hline).nonempty
  rw [hkept]
  exact List.append_nil lines

/-- An address is read where it is, and as empty where it is left out. -/
lemma exists_address {fields : List (String × Json)} (h : (fields.map Prod.fst).Nodup)
    {name : String} (htext : ∀ value, (name, value) ∈ fields → ∃ a, value = .ofText a) :
    ∃ value address, Json.atMostOnce? fields name = some value ∧
      Json.orDefault Json.text? "" value = some address ∧
      ∀ a, (name, Json.ofText a) ∈ fields → address = a := by
  rcases Json.atMostOnce?_of_nodup h name with ⟨value, hvalue, hfound⟩ | ⟨habsent, hfound⟩
  · obtain ⟨a, rfl⟩ := htext value hvalue
    refine ⟨_, a, hfound, rfl, fun a' ha' => ?_⟩
    have heq := List.inj_on_of_nodup_map h hvalue ha' rfl
    cases heq
    rfl
  · exact ⟨_, "", hfound, rfl, fun a ha => absurd ha (habsent _)⟩

lemma ofJson?_fields {fields : List (String × Json)} (h : (fields.map Prod.fst).Nodup)
    (hipv4 : ∀ value, ("IPAddress", value) ∈ fields → ∃ a, value = .ofText a)
    (hipv6 : ∀ value, ("GlobalIPv6Address", value) ∈ fields → ∃ a, value = .ofText a) :
    ∃ n, Network.ofJson? (.ofMembers fields) = some n ∧
      (∀ a, ("IPAddress", Json.ofText a) ∈ fields → n.ipv4 = a) ∧
      ∀ a, ("GlobalIPv6Address", Json.ofText a) ∈ fields → n.ipv6 = a := by
  obtain ⟨value, address, hvalue, haddress, hread⟩ := exists_address h hipv4
  obtain ⟨value', address', hvalue', haddress', hread'⟩ := exists_address h hipv6
  refine ⟨⟨address, address'⟩, ?_, hread, hread'⟩
  have hfields : (Json.ofMembers fields).fields? ["IPAddress", "GlobalIPv6Address"] =
      some [value, value'] := by
    unfold Json.fields? Json.ofMembers
    dsimp only
    rw [Json.keyed?_members, Option.bind_some, List.mapM_cons, List.mapM_cons, List.mapM_nil,
      hvalue, hvalue']
    rfl
  unfold Network.ofJson?
  rw [hfields]
  dsimp only
  rw [haddress, haddress']
  rfl

lemma optional?_network {network : String} {j : Json} {n : Network}
    (h : Network.ofJson? j = some n) :
    Json.optional? (Json.mapOf? Network.ofJson?) (.ofMembers [(network, j)]) =
      some (some (NameMap.ofList [(network, n)])) := by
  have hmap : Json.mapOf? Network.ofJson? (.ofMembers [(network, j)]) =
      some (NameMap.ofList [(network, n)]) := by
    unfold Json.mapOf? Json.ofMembers
    dsimp only
    rw [Json.keyed?_members]
    change ([(network, j)].mapM fun m : String × Json => (Network.ofJson? m.2).map (m.1, ·)).bind
      (fun entries => some (NameMap.ofList entries)) = _
    rw [List.mapM_cons, List.mapM_nil, h]
    rfl
  change (Json.mapOf? Network.ofJson? (.ofMembers [(network, j)])).map some = _
  rw [hmap]
  rfl

/-- The address is read from the network that is printed. -/
lemma address?_network {ipv6 : Bool} {output : ByteArray} {address : String}
    (h : PrintsNetwork (if ipv6 then "GlobalIPv6Address" else "IPAddress")
      (if ipv6 then "IPAddress" else "GlobalIPv6Address") output address) :
    address? ipv6 (lossyText output) = some address := by
  obtain ⟨before, text, after, network, fields, rfl, hbefore, hafter, htrimmed, hparse, hnodup,
    hwanted, hother⟩ := h
  have hwanted' : ∀ value, (if ipv6 then "GlobalIPv6Address" else "IPAddress", value) ∈ fields →
      ∃ a, value = Json.ofText a := by
    intro value hvalue
    have heq := List.inj_on_of_nodup_map hnodup hwanted hvalue rfl
    cases heq
    exact ⟨address, rfl⟩
  obtain ⟨n, hn, hn'⟩ : ∃ n, Network.ofJson? (.ofMembers fields) = some n ∧
      n.address ipv6 = address := by
    cases ipv6 with
    | true =>
      obtain ⟨n, hn, -, hread⟩ := ofJson?_fields hnodup hother hwanted'
      exact ⟨n, hn, hread address hwanted⟩
    | false =>
      obtain ⟨n, hn, hread, -⟩ := ofJson?_fields hnodup hwanted' hother
      exact ⟨n, hn, hread address hwanted⟩
  have hnetworks : networks? (lossyText (before ++ text ++ after).toUTF8) =
      some (NameMap.ofList [(network, n)]) := by
    unfold networks?
    rw [lossyText_toUTF8, trimmed_blanks hbefore hafter htrimmed, hparse, Option.bind_some,
      optional?_network hn]
    rfl
  unfold address?
  rw [hnetworks, Option.map_some]
  change some (((([n].map (·.address ipv6)).find? (! ·.isEmpty)).getD "")) = some address
  rw [List.map_singleton, hn', List.find?_singleton]
  split
  · rfl
  · next hempty =>
    have : address = "" := by simpa using hempty
    rw [this]
    rfl

lemma toList_nodes (cluster : String) (role : Role) :
    (LabelQuery.nodes cluster role).toList =
      [(Label.cluster, cluster), (Label.role, role.name)] := rfl

lemma arguments_list (cluster : String) (role : Role) :
    arguments (.list (.nodes cluster role)) =
      ["ps", "--all", "--no-trunc", "--filter", "label=io.x-k8s.kind.cluster=" ++ cluster,
        "--filter", "label=io.x-k8s.kind.role=" ++ role.name,
        "--format", "\x7b\x7b.Names\x7d\x7d"] := by
  have hlabel (key value : String) : "label=" ++ labelArgument key value =
      "label=" ++ (key ++ "=") ++ value := by
    simp only [labelArgument, String.append_assoc]
  simp only [arguments, listArguments, toList_nodes, List.flatMap_cons, List.flatMap_nil, hlabel]
  rfl

lemma arguments_create (name image cluster : String) :
    arguments (.create ⟨name, image, cluster, Balancer.listenAddress, 0⟩) =
      ["run", "--detach", "--tty", "--label", "io.x-k8s.kind.cluster=" ++ cluster, "--label",
        "io.x-k8s.kind.role=external-load-balancer", "--hostname", name, "--name", name,
        "--publish", "0.0.0.0::6443/TCP", image] := by
  have hpublished : published ⟨name, image, cluster, Balancer.listenAddress, 0⟩ =
      "0.0.0.0::6443/TCP" := by
    change "0.0.0.0" ++ ":" ++ "" ++ ":" ++ toString 6443 ++ "/TCP" = _
    decide +kernel
  simp only [arguments, runArguments, hpublished]
  rfl

/-- Whether a table shows the containers of an inventory in which nothing stands in the way of
requests and listings. -/
structure Mirrors {σ : Type} (view : σ → Inventory) (inv : Inventory) (s : σ) : Prop where
  like : inv.Like (view s)
  calm : inv.Calm
  plain : inv.PlainNames

variable {σ : Type} {d : Docker} {host : Host σ} {view : σ → Inventory} {inv : Inventory}
  {s s' : σ} {request : Request} {status : ExitStatus} {stdout stderr : ByteArray}
  {inputFault : Option OsError}

lemma serve_success
    (h : host.launch (d.invocation request) s = (s', .ended status stdout stderr none))
    (hstatus : status.isSuccess = true) :
    (d.serve host request s).state = s' ∧
      (d.serve host request s).answer = some (d.answer? request (lossyText stdout)) := by
  simp only [serve, h, output, hstatus, if_true, Option.map_some, Except.bind, and_self]

lemma serve_failure
    (h : host.launch (d.invocation request) s = (s', .ended status stdout stderr inputFault))
    (hstatus : status.isSuccess = false) :
    (d.serve host request s).state = s' ∧
      ∃ e, (d.serve host request s).answer = some (.error e) := by
  simp only [serve, h, output, hstatus, Bool.false_eq_true, if_false, Option.map_some, Except.bind,
    Option.some.injEq, Except.error.injEq, exists_eq', and_self]

/-- The inventory answers as the table that mirrors it would. -/
lemma Mirrors.answer (h : Mirrors view inv s) (request : Request) :
    (Inventory.serve request inv).answer = some (Inventory.work request (view s)).2 := by
  have hlike := (inv.like_record request.call).symm.trans h.like
  rw [h.calm.serve, (hlike.work request).1]

/-- A table goes on mirroring an inventory if it changes as the request would change it. -/
lemma Mirrors.next (h : Mirrors view inv s)
    (hcreate : ∀ launch, request = .create launch → Plain launch.name)
    (hs' : (Inventory.work request (view s)).1.Like (view s')) :
    Mirrors view (Inventory.serve request inv).state s' := by
  have hlike := (inv.like_record request.call).symm.trans h.like
  have hcalm : (inv.record request.call).Calm := ⟨h.calm.faults, h.calm.stalled⟩
  have hplain : (inv.record request.call).PlainNames := h.plain
  rw [h.calm.serve]
  exact ⟨(hlike.work request).2.trans hs', hcalm.work request, hplain.work hcreate⟩

lemma nulFree_append {a b : String} : NulFree (a ++ b) ↔ NulFree a ∧ NulFree b := by
  unfold NulFree
  rw [String.toList_append, List.mem_append, not_or]

/-- Whether a request is answered as the table has it that `view` shows, and changes it likewise. -/
def Serves (d : Docker) (host : Host σ) (view : σ → Inventory) (s : σ) (r r' : Request) : Prop :=
  ∃ x', (d.serve host r' s).answer = some x' ∧ r.Answered r' (Inventory.work r (view s)).2 x' ∧
    (Inventory.work r (view s)).1.Like (view (d.serve host r' s).state)

/-- A command that changes something succeeds when the inventory does, with the same change. -/
lemma serves_change (hhost : d.AnswersFrom host view) {arguments : List String}
    {input : Option ByteArray} {r r' : Request} (hchanges : Changes arguments input r)
    (hnul : ∀ a ∈ arguments, NulFree a)
    (hinvocation : d.invocation r' = ⟨d.binary, arguments, input⟩)
    (hok : ∀ a stdout, (Inventory.work r (view s)).2 = .ok a →
      r.Answered r' (.ok a) (d.answer? r' stdout))
    (herror : ∀ e e', r.Answered r' (.error e) (.error e')) : d.Serves host view s r r' := by
  obtain ⟨status, stdout, stderr, inputFault, s', hlaunch, hsuccess, hinput, hlike⟩ :=
    hhost.changes s hchanges hnul
  rw [← hinvocation] at hlaunch
  cases hstatus : status.isSuccess with
  | true =>
    rw [hinput hstatus] at hlaunch
    obtain ⟨hstate, hanswer⟩ := serve_success hlaunch hstatus
    obtain ⟨a, ha⟩ := hsuccess.1 hstatus
    refine ⟨_, hanswer, ?_, by rw [hstate]; exact hlike⟩
    rw [ha]
    exact hok a _ ha
  | false =>
    obtain ⟨hstate, e', he'⟩ := serve_failure hlaunch hstatus
    refine ⟨_, he', ?_, by rw [hstate]; exact hlike⟩
    cases hwork : (Inventory.work r (view s)).2 with
    | ok a =>
      rw [hsuccess.2 ⟨a, hwork⟩] at hstatus
      cases hstatus
    | error e => exact herror e e'

lemma serves_list (hhost : d.AnswersFrom host view) {cluster : String} (role : Role)
    (hcluster : NulFree cluster) (hplain : (view s).PlainNames) :
    d.Serves host view s (.list (.nodes cluster role)) (.list (.nodes cluster role)) := by
  obtain ⟨lines, stderr, s', hlaunch, hperm, hlike⟩ := hhost.ps cluster role s hcluster
  rw [← arguments_list] at hlaunch
  have hserved : (d.serve host (.list (.nodes cluster role)) s).state = s' ∧
      (d.serve host (.list (.nodes cluster role)) s).answer =
        some (d.answer? _ (lossyText (unlines lines).toUTF8)) := serve_success hlaunch rfl
  obtain ⟨hstate, hanswer⟩ := hserved
  have hanswering : ∀ c ∈ (view s).answering (.nodes cluster role),
      Plain c.name ∧ (LabelQuery.nodes cluster role).Matches c.labels := by
    intro c hc
    obtain ⟨hmatches, name, e, he, rfl⟩ := Inventory.mem_answering.1 hc
    exact ⟨hplain name e he, hmatches⟩
  have hlines : ∀ line ∈ lines, Plain line := by
    intro line hline
    obtain ⟨c, hc, rfl⟩ := List.mem_map.1 (hperm.mem_iff.1 hline)
    exact (hanswering c hc).1
  have hread : d.answer? (.list (.nodes cluster role)) (lossyText (unlines lines).toUTF8) =
      .ok (lines.map fun name => .node name cluster role) := by
    rw [lossyText_toUTF8]
    change Except.ok ((names (unlines lines)).map (listed (.nodes cluster role))) = _
    rw [names_unlines hlines]
    rfl
  refine ⟨_, hanswer, ?_, by rw [hstate]; exact hlike⟩
  rw [hread]
  refine .ok ⟨?_, fun c hc => (hanswering c hc).1, fun c hc => (hanswering c hc).2, ?_⟩
  · rw [List.map_map]
    change (lines.map id).Perm _
    rw [List.map_id]
    exact hperm
  · intro c hc
    obtain ⟨name, -, rfl⟩ := List.mem_map.1 hc
    exact LabelQuery.nodes_matches_node.2 ⟨rfl, rfl⟩

lemma serves_address (hhost : d.AnswersFrom host view) {c c' : Container} (hname : c'.name = c.name)
    (hplain : Plain c.name) : d.Serves host view s (.address c) (.address c') := by
  obtain ⟨status, stdout, stderr, s', hlaunch, hok, herror, hlike⟩ :=
    hhost.inspect c s hplain.nulFree
  have hinvocation : d.invocation (.address c') = ⟨d.binary, ["inspect", "--format",
      "\x7b\x7bjson .NetworkSettings.Networks\x7d\x7d", c.name], none⟩ := by
    rw [← hname]
    rfl
  have hunchanged : (Inventory.work (.address c) (view s)).1 = view s := by
    simp only [Inventory.work]
    split <;> rfl
  rw [← hinvocation] at hlaunch
  unfold Serves
  rw [hunchanged]
  cases hwork : (Inventory.work (.address c) (view s)).2 with
  | ok address =>
    obtain ⟨rfl, hprints⟩ := hok address hwork
    obtain ⟨hstate, hanswer⟩ := serve_success hlaunch rfl
    refine ⟨.ok address, ?_, .ok rfl, by rw [hstate]; exact hlike⟩
    rw [hanswer]
    simp only [answer?, address?_network hprints]
  | error e =>
    obtain ⟨hstate, e', he'⟩ := serve_failure hlaunch (herror e hwork)
    exact ⟨_, he', .error trivial, by rw [hstate]; exact hlike⟩

lemma serves_create (hhost : d.AnswersFrom host view) {name image cluster : String}
    (hplain : Plain name) (himage : NulFree image) (hcluster : NulFree cluster) :
    d.Serves host view s (.create ⟨name, image, cluster, Balancer.listenAddress, 0⟩)
      (.create ⟨name, image, cluster, Balancer.listenAddress, 0⟩) := by
  have hnul : ∀ a ∈ ["run", "--detach", "--tty", "--label", "io.x-k8s.kind.cluster=" ++ cluster,
      "--label", "io.x-k8s.kind.role=external-load-balancer", "--hostname", name, "--name", name,
      "--publish", "0.0.0.0::6443/TCP", image], NulFree a := by
    simp only [List.forall_mem_cons, nulFree_append, hplain.nulFree, himage, hcluster]
    decide
  have hinvocation : d.invocation (.create ⟨name, image, cluster, Balancer.listenAddress, 0⟩) =
      ⟨d.binary, _, none⟩ := congrArg (Invocation.mk d.binary · none)
        (arguments_create name image cluster)
  refine serves_change hhost (.run name image cluster) hnul hinvocation (fun c stdout hc => ?_)
    fun e e' => .error trivial
  have hnode : c = .node name cluster .externalLoadBalancer := by
    simp only [Inventory.work] at hc
    split at hc <;> cases hc
    rfl
  exact .ok ⟨hnode, hnode⟩

lemma serves_writeFile (hhost : d.AnswersFrom host view) {c c' : Container} {path : String}
    (content : ByteArray) (hname : c'.name = c.name) (hplain : Plain c.name)
    (hpath : NulFree path) :
    d.Serves host view s (.writeFile c path content) (.writeFile c' path content) := by
  have hnul : ∀ a ∈ ["exec", "--interactive", c.name, "cp", "/dev/stdin", path], NulFree a := by
    simp only [List.forall_mem_cons, hplain.nulFree, hpath]
    decide
  refine serves_change hhost (.exec c path content) hnul ?_ (fun _ _ _ => .ok rfl)
    fun _ _ => .error trivial
  rw [← hname]
  rfl

lemma serves_reload (hhost : d.AnswersFrom host view) {c c' : Container} (hname : c'.name = c.name)
    (hplain : Plain c.name) : d.Serves host view s (.reload c) (.reload c') := by
  have hnul : ∀ a ∈ ["kill", "--signal", "SIGHUP", c.name], NulFree a := by
    simp only [List.forall_mem_cons, hplain.nulFree]
    decide
  refine serves_change hhost (.kill c) hnul ?_ (fun _ _ _ => .ok rfl) fun _ _ => .error trivial
  rw [← hname]
  rfl

lemma serves_delete (hhost : d.AnswersFrom host view) {c c' : Container} (hname : c'.name = c.name)
    (hplain : Plain c.name) : d.Serves host view s (.delete c) (.delete c') := by
  have hnul : ∀ a ∈ ["rm", "--force", "--volumes", c.name], NulFree a := by
    simp only [List.forall_mem_cons, hplain.nulFree]
    decide
  refine serves_change hhost (.rm c) hnul ?_ (fun _ _ _ => .ok rfl) fun _ _ => .error trivial
  rw [← hname]
  rfl

/-- The Docker command line is an engine like the inventory, on a host whose command answers from a
table. -/
theorem alike_engine (hhost : d.AnswersFrom host view) :
    Inventory.engine.Alike (d.engine host) (Mirrors view) := by
  intro r r' inv s hasked h
  have hplain : (view s).PlainNames := by
    unfold Inventory.PlainNames
    rw [h.like.entries]
    exact h.plain
  have hserves : d.Serves host view s r r' := by
    cases hasked with
    | create plain image_nulFree cluster_nulFree =>
      exact serves_create hhost plain image_nulFree cluster_nulFree
    | list role cluster_nulFree => exact serves_list hhost role cluster_nulFree hplain
    | address name plain => exact serves_address hhost name plain
    | writeFile content name plain path_nulFree =>
      exact serves_writeFile hhost content name plain path_nulFree
    | reload name plain => exact serves_reload hhost name plain
    | delete name plain => exact serves_delete hhost name plain
  have hcreate : ∀ launch, r = .create launch → Plain launch.name := by
    rintro launch rfl
    cases hasked with
    | create plain => exact plain
  obtain ⟨x', hanswer, hx', hlike⟩ := hserves
  exact ⟨_, x', h.answer r, hanswer, hx', h.next hcreate hlike⟩

end Docker

end ApiBalancer
