import ApiBalancer.Proofs.Crews
import ApiBalancer.Proofs.DockerHost
import ApiBalancer.Proofs.JsonRoundTrip

/-!
# The two engines agree

On a host whose Docker command answers from a table, people with balancers of their own get from the
Docker command line what they would get from an inventory with the same containers, chore for chore
(`Docker.agrees_with_inventory`). Such hosts exist: `Rehearsal.host` answers from an inventory that
it keeps (`Rehearsal.answersFrom`).
-/

namespace ApiBalancer

open Text

namespace Rehearsal

/-- What follows the name of a label in an argument. -/
def value (name argument : String) : String :=
  String.ofList (argument.toList.drop (name.length + 1))

/-- The request that a command stands for. -/
def asked? (arguments : List String) (input : Option ByteArray) : Option Request :=
  match arguments, input with
  | ["run", "--detach", "--tty", "--label", cluster, "--label", _, "--hostname", _, "--name", name,
      "--publish", _, image], none =>
    some (.create ⟨name, image, value Label.cluster cluster, Balancer.listenAddress, 0⟩)
  | ["ps", "--all", "--no-trunc", "--filter", cluster, "--filter", role, "--format", _], none =>
    (Role.ofName? (value ("label=" ++ Label.role) role)).map fun role =>
      .list (.nodes (value ("label=" ++ Label.cluster) cluster) role)
  | ["inspect", "--format", _, name], none => some (.address { name })
  | ["exec", "--interactive", name, "cp", "/dev/stdin", path], some content =>
    some (.writeFile { name } path content)
  | ["kill", "--signal", "SIGHUP", name], none => some (.reload { name })
  | ["rm", "--force", "--volumes", name], none => some (.delete { name })
  | _, _ => none

/-- The fields of the network in which a container has its address. -/
def networkFields (ipv6 : Bool) (address : String) : List (String × Json) :=
  [("Gateway", .null), ("IPAddress", .ofText (if ipv6 then "" else address)),
    ("GlobalIPv6Address", .ofText (if ipv6 then address else ""))]

/-- The networks of a container. -/
def networks (ipv6 : Bool) (address : String) : Json :=
  .ofMembers [("kind", .ofMembers (networkFields ipv6 address))]

/-- What a command prints about the answer to its request; the newest containers come first. -/
def printed (ipv6 : Bool) : (request : Request) → request.Answer → ByteArray
  | .list _, found => (unlines (found.map (·.name)).reverse).toUTF8
  | .address _, address => ((networks ipv6 address).compact ++ "\n").toUTF8
  | _, _ => .empty

/-- Runs a command on an inventory. -/
def launch (ipv6 : Bool) (i : Invocation) (inv : Inventory) : Inventory × Outcome :=
  if ∀ a ∈ i.arguments, NulFree a then
    match asked? i.arguments i.input with
    | none => (inv, .ended (.code 125) .empty "unknown command\n".toUTF8 none)
    | some request =>
      match Inventory.work request inv with
      | (inv, .ok a) => (inv, .ended (.code 0) (printed ipv6 request a) .empty none)
      | (inv, .error e) => (inv, .ended (.code 1) .empty (e.message ++ "\n").toUTF8 none)
  else (inv, .notStarted .nulInArgument)

/-- A host whose `docker` command answers from an inventory. -/
def host (ipv6 : Bool) : Host Inventory := ⟨launch ipv6⟩

lemma value_append {name front : String} (h : front.toList.length = name.length + 1)
    (rest : String) : value name (front ++ rest) = rest := by
  unfold value
  rw [String.toList_append, List.drop_left' h, String.ofList_toList]

lemma launch_asked (d : Docker) (inv : Inventory) (request : Request) {arguments : List String}
    (input : Option ByteArray) (hnul : ∀ a ∈ arguments, NulFree a)
    (hasked : asked? arguments input = some request) :
    ∃ status stdout stderr,
      (host d.ipv6).launch ⟨d.binary, arguments, input⟩ inv =
        ((Inventory.work request inv).1, .ended status stdout stderr none) ∧
      (∀ a, (Inventory.work request inv).2 = .ok a →
        status = .code 0 ∧ stdout = printed d.ipv6 request a) ∧
      ∀ e, (Inventory.work request inv).2 = .error e → status.isSuccess = false := by
  simp only [host, launch, if_pos hnul, hasked]
  generalize Inventory.work request inv = done
  obtain ⟨inv', result⟩ := done
  cases result with
  | ok a =>
    refine ⟨_, _, _, rfl, fun a' ha' => ?_, fun e he => by cases he⟩
    cases ha'
    exact ⟨rfl, rfl⟩
  | error e => exact ⟨_, _, _, rfl, (fun a ha => by cases ha), fun _ _ => rfl⟩

lemma launch_changes (d : Docker) (inv : Inventory) (request : Request) {arguments : List String}
    {input : Option ByteArray} (hnul : ∀ a ∈ arguments, NulFree a)
    (hasked : asked? arguments input = some request) :
    ∃ status stdout stderr inputFault inv',
      (host d.ipv6).launch ⟨d.binary, arguments, input⟩ inv =
        (inv', .ended status stdout stderr inputFault) ∧
      (status.isSuccess = true ↔ ∃ a, (Inventory.work request inv).2 = .ok a) ∧
      (status.isSuccess = true → inputFault = none) ∧
      (Inventory.work request inv).1.Like inv' := by
  obtain ⟨status, stdout, stderr, hlaunch, hok, herror⟩ := launch_asked d inv request input hnul hasked
  refine ⟨status, stdout, stderr, none, _, hlaunch, ?_, fun _ => rfl, .refl _⟩
  cases hwork : (Inventory.work request inv).2 with
  | ok a =>
    obtain ⟨rfl, -⟩ := hok a hwork
    exact ⟨fun _ => ⟨a, rfl⟩, fun _ => rfl⟩
  | error e =>
    rw [herror e hwork]
    exact ⟨(fun h => by cases h), (fun ⟨a, ha⟩ => by cases ha)⟩

lemma asked?_ps (cluster : String) (role : Role) :
    asked? ["ps", "--all", "--no-trunc", "--filter", "label=io.x-k8s.kind.cluster=" ++ cluster,
      "--filter", "label=io.x-k8s.kind.role=" ++ role.name,
      "--format", "\x7b\x7b.Names\x7d\x7d"] none = some (.list (.nodes cluster role)) := by
  have hrole : Role.ofName? role.name = some role := by cases role <;> rfl
  change (Role.ofName? (value ("label=" ++ Label.role) _)).map (fun role =>
    Request.list (.nodes (value ("label=" ++ Label.cluster) _) role)) = _
  rw [value_append (by decide), value_append (by decide), hrole]
  rfl

lemma numeric_networks (ipv6 : Bool) (address : String) : (networks ipv6 address).Numeric := by
  refine .object fun m hm => ?_
  rw [List.map_singleton, List.mem_singleton] at hm
  subst hm
  refine .object fun m hm => ?_
  simp only [networkFields, List.map_cons, List.map_nil, List.mem_cons, List.not_mem_nil,
    or_false] at hm
  rcases hm with rfl | rfl | rfl
  · exact .null
  · exact .string _
  · exact .string _

lemma trimmed_networks (ipv6 : Bool) (address : String) :
    trimmed (networks ipv6 address).compact = (networks ipv6 address).compact := by
  rw [trimmed_iff]
  have hbraces : ∃ body, (networks ipv6 address).compact.toList = '{' :: body ++ ['}'] := by
    unfold Json.compact
    rw [String.toList_ofList]
    exact ⟨_, rfl⟩
  obtain ⟨body, hbody⟩ := hbraces
  have hopen : isBlank '{' = false := by decide
  have hclose : isBlank '}' = false := by decide
  rw [hbody]
  unfold trim
  rw [List.cons_append, List.dropWhile_cons, hopen, if_neg Bool.false_ne_true, ← List.cons_append,
    List.reverse_append, List.reverse_singleton, List.singleton_append, List.dropWhile_cons, hclose,
    if_neg Bool.false_ne_true, List.reverse_cons, List.reverse_reverse]

lemma prints_network (ipv6 : Bool) (c : Container) (address : String) :
    Docker.PrintsNetwork (if ipv6 then "GlobalIPv6Address" else "IPAddress")
      (if ipv6 then "IPAddress" else "GlobalIPv6Address") (printed ipv6 (.address c) address)
      address := by
  refine ⟨"", (networks ipv6 address).compact, "\n", "kind", networkFields ipv6 address, ?_,
    by simp, List.all_eq_true.1 (by decide), trimmed_networks ipv6 address,
    Json.parse?_compact (numeric_networks ipv6 address), ?_, ?_, ?_⟩
  · simp only [printed, String.empty_append]
  · change ["Gateway", "IPAddress", "GlobalIPv6Address"].Nodup
    decide
  · cases ipv6 <;> simp [networkFields]
  · cases ipv6 <;> simp [networkFields]

/-- The host's `docker` command answers from the inventory. -/
theorem answersFrom (d : Docker) : d.AnswersFrom (host d.ipv6) id where
  ps cluster role inv hcluster := by
    have hnul : ∀ a ∈ ["ps", "--all", "--no-trunc",
        "--filter", "label=io.x-k8s.kind.cluster=" ++ cluster,
        "--filter", "label=io.x-k8s.kind.role=" ++ role.name,
        "--format", "\x7b\x7b.Names\x7d\x7d"], NulFree a := by
      have hrole : NulFree role.name := by cases role <;> decide
      simp only [List.forall_mem_cons, Docker.nulFree_append, hcluster, hrole]
      decide
    obtain ⟨status, stdout, stderr, hlaunch, hok, -⟩ :=
      launch_asked d inv _ none hnul (asked?_ps cluster role)
    obtain ⟨rfl, rfl⟩ := hok _ rfl
    exact ⟨_, stderr, inv, hlaunch, List.reverse_perm _, .refl inv⟩
  inspect c inv hname := by
    have hnul : ∀ a ∈ ["inspect", "--format",
        "\x7b\x7bjson .NetworkSettings.Networks\x7d\x7d", c.name], NulFree a := by
      simp only [List.forall_mem_cons, hname]
      decide
    have hunchanged : (Inventory.work (.address c) inv).1 = inv := by
      simp only [Inventory.work]
      split <;> rfl
    obtain ⟨status, stdout, stderr, hlaunch, hok, herror⟩ :=
      launch_asked d inv (.address { name := c.name }) none hnul rfl
    refine ⟨status, stdout, stderr, _, hlaunch, fun address haddress => ?_, herror, ?_⟩
    · obtain ⟨rfl, rfl⟩ := hok address haddress
      exact ⟨rfl, prints_network d.ipv6 c address⟩
    · exact hunchanged.symm ▸ .refl inv
  changes := by
    intro arguments input request inv hchanges hnul
    cases hchanges with
    | run name image cluster =>
      refine launch_changes d inv _ hnul ?_
      change some (Request.create ⟨name, image, value Label.cluster _, _, 0⟩) = _
      rw [value_append (by decide)]
      rfl
    | exec c path content =>
      exact launch_changes d inv (.writeFile { name := c.name } path content) hnul rfl
    | kill c => exact launch_changes d inv (.reload { name := c.name }) hnul rfl
    | rm c => exact launch_changes d inv (.delete { name := c.name }) hnul rfl

end Rehearsal

namespace Docker

/-- On a host whose Docker command answers from a table, whatever chores a crew does on the Docker
command line and another on an inventory with the same containers: chore for chore they get the same
answers or errors that differ in the engine's words at most, and none of their runs is blocked; their
balancers are alike, and the containers remain the same. -/
theorem agrees_with_inventory {σ : Type} {d : Docker} {host : Host σ} {view : σ → Inventory}
    (hhost : d.AnswersFrom host view) {inv : Inventory} {s : σ} (hcalm : inv.Calm)
    (hplain : inv.PlainNames) (hlike : inv.Like (view s)) {chores : List Chore}
    (hchores : ∀ chore ∈ chores, chore.Sayable) :
    let run := ({ engine := inv } : Crew Inventory).doAll Inventory.engine chores
    let run' := ({ engine := s } : Crew σ).doAll (d.engine host) chores
    List.Forall₂ Crew.EndedAlike run.2 run'.2 ∧
      (∀ owner, Option.Rel Crew.OwnAlike (run.1.own.get? owner) (run'.1.own.get? owner)) ∧
      run.1.engine.Like (view run'.1.engine) := by
  have hcrews : Crew.Alike (Mirrors view) { engine := inv } { engine := s } :=
    ⟨fun owner => .none, ⟨hlike, hcalm, hplain⟩⟩
  obtain ⟨hcrews', hendings⟩ := hcrews.doAll (alike_engine hhost) hchores
  exact ⟨hendings, hcrews'.own, hcrews'.engine.like⟩

end Docker

namespace Rehearsal

/-- Two nodes of one cluster. -/
def nodes : Inventory :=
  (({} : Inventory).add (.node "demo-cp" "demo" .controlPlane) "fc00::3").add
    ((Container.node "demo-cp2" "demo" .controlPlane).withLabel "zone" "b") "fc00::4"

/-- Two people have balancers for one cluster; the one deletes the container that the other's
balancer is attached to. -/
def chores : List Chore :=
  [.lookUp "ops" {} { name := "demo" } .never, .work "ops" .update .never,
    .work "ops" .create .never, .lookUp "dev" {} { name := "demo" } .never,
    .work "dev" .update .never, .takeImage "dev" "custom/haproxy:2", .work "dev" .address .never,
    .work "ops" .delete .never, .work "dev" .delete .never]

theorem agrees_with_nodes :
    let d : Docker := { ipv6 := true }
    let image := "kindest/haproxy:v20230510-486859a6"
    let run := ({ engine := nodes } : Crew Inventory).doAll Inventory.engine chores
    let run' := ({ engine := nodes } : Crew Inventory).doAll (d.engine (host d.ipv6)) chores
    (d.AnswersFrom (host d.ipv6) id ∧ nodes.Calm ∧ nodes.PlainNames ∧ nodes.Like (id nodes) ∧
      ∀ chore ∈ chores, chore.Sayable) ∧
    run.2 = [some (.finished (.ok (.status ⟨"demo", "demo-lb", image, false⟩))),
      some (.finished (.error (.notProvisioned "demo"))), some (.finished (.ok .done)),
      some (.finished (.ok (.status ⟨"demo", "demo-lb", image, true⟩))),
      some (.finished (.ok (.rollout ⟨.ofList [⟨"demo-cp", "[fc00::3]:6443"⟩,
        ⟨"demo-cp2", "[fc00::4]:6443"⟩], 850⟩))), none,
      some (.finished (.ok (.address "172.18.0.101"))), some (.finished (.ok .done)),
      some (.finished (.error (.engine .deleteBalancer "demo" "demo-lb" (.notFound "demo-lb"))))] ∧
    List.Forall₂ Crew.EndedAlike run.2 run'.2 ∧
      (∀ owner, Option.Rel Crew.OwnAlike (run.1.own.get? owner) (run'.1.own.get? owner)) ∧
      run.1.engine.Like (id run'.1.engine) := by
  intro d
  have hhost : d.AnswersFrom (host d.ipv6) id := answersFrom d
  have hcalm : nodes.Calm := ⟨rfl, rfl⟩
  have hplain : nodes.PlainNames :=
    (Inventory.plainNames_empty.add (by decide +kernel) _).add (by decide +kernel) _
  have hlike : nodes.Like (id nodes) := .refl nodes
  have hchores : ∀ chore ∈ chores, chore.Sayable := by decide +kernel
  have hagrees := Docker.agrees_with_inventory hhost hcalm hplain hlike hchores
  refine ⟨⟨hhost, hcalm, hplain, hlike, hchores⟩, ?_, hagrees⟩
  decide +kernel

end Rehearsal

end ApiBalancer
