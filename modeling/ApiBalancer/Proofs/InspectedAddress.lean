import ApiBalancer.Engine.Docker
import ApiBalancer.Proofs.JsonGrammar
import ApiBalancer.Proofs.JsonVariants

/-!
# The address in an inspection

An inspection prints the networks of a container as JSON. `Docker.Prints` says which outputs print
which networks, without reading them; an output that prints none is refused. The address taken is
that of the network with the least name among those that have one
(`Docker.address_of_least_network`).
-/

namespace ApiBalancer

namespace Json

lemma keyed?_iff {members : List (Option String × Json)} {keyed : List (String × Json)} :
    keyed? members = some keyed ↔ members = keyed.map fun m => (some m.1, m.2) := by
  constructor
  · intro h
    induction members generalizing keyed with
    | nil =>
      cases h
      rfl
    | cons m rest ih =>
      obtain ⟨_ | key, v⟩ := m
      · cases h
      · rw [keyed?_cons] at h
        obtain ⟨others, hothers, rfl⟩ := Option.map_eq_some_iff.1 h
        rw [ih hothers, List.map_cons]
  · rintro rfl
    exact keyed?_members keyed

lemma text?_iff {j : Json} {text : String} : j.text? = some text ↔ j = .ofText text := by
  constructor
  · intro h
    cases j with
    | string text' => exact congrArg Json.string h
    | null | bool | number | array | object => cases h
  · rintro rfl
    rfl

/-- A map is read from an object whose members are read one by one; of a repeated key the last value
counts. -/
lemma mapOf?_iff {β : Type} {read? : Json → Option β} {j : Json} {m : NameMap β} :
    mapOf? read? j = some m ↔ ∃ members entries, j = .ofMembers members ∧
      List.Forall₂ (fun e e' => e.1 = e'.1 ∧ read? e.2 = some e'.2) members entries ∧
      ∀ name, m.get? name = entries.reverse.lookup name := by
  have hentry : ∀ (e : String × Json) (e' : String × β),
      (read? e.2).map (e.1, ·) = some e' ↔ e.1 = e'.1 ∧ read? e.2 = some e'.2 := by
    rintro ⟨name, j⟩ ⟨name', v⟩
    cases read? j <;> simp
  have hmembers : ∀ members : List (String × Json), entries? read? members = some m ↔
      ∃ entries, List.Forall₂ (fun e e' => e.1 = e'.1 ∧ read? e.2 = some e'.2) members entries ∧
        ∀ name, m.get? name = entries.reverse.lookup name := by
    intro members
    simp only [← hentry, ← mapM_eq_some_iff, ← NameMap.get?_ofList]
    constructor
    · intro h
      obtain ⟨entries, hread, hmap⟩ := Option.bind_eq_some_iff.1 h
      cases hmap
      exact ⟨entries, hread, fun _ => rfl⟩
    · rintro ⟨entries, hread, hmap⟩
      rw [NameMap.ext_get? hmap]
      unfold entries?
      rw [hread]
      rfl
  cases j with
  | object members =>
    rw [mapOf?_object, Option.bind_eq_some_iff]
    constructor
    · rintro ⟨keyed, hkeyed, h⟩
      obtain ⟨entries, hread, hmap⟩ := (hmembers keyed).1 h
      exact ⟨keyed, entries, congrArg Json.object (keyed?_iff.1 hkeyed), hread, hmap⟩
    · rintro ⟨keyed, entries, hj, hread, hmap⟩
      cases hj
      exact ⟨keyed, keyed?_members keyed, (hmembers keyed).2 ⟨entries, hread, hmap⟩⟩
  | null | bool | number | string | array =>
    refine ⟨fun h => (by cases h), ?_⟩
    rintro ⟨members, entries, hj, -⟩
    cases hj

end Json

namespace Docker

open Json

/-- How a field of a network is given: by the only member of its name, which holds a text, or not at
all, which leaves it empty. -/
inductive Gives (members : List (String × Json)) (name : String) : String → Prop
  | once {address : String} (h : members.filter (·.1 == name) = [(name, .ofText address)]) :
    Gives members name address
  | leftOut (h : name ∉ members.map (·.1)) : Gives members name ""

/-- How a network is given: its addresses by their names, in any order and among other members, or
by their places. -/
inductive GivesNetwork : Json → Network → Prop
  | byName {members : List (String × Json)} {n : Network} (ipv4 : Gives members "IPAddress" n.ipv4)
    (ipv6 : Gives members "GlobalIPv6Address" n.ipv6) : GivesNetwork (.ofMembers members) n
  | byPlace {addresses : List String} (h : addresses.length ≤ 2) :
    GivesNetwork (.array (addresses.map .ofText)) ⟨addresses.getD 0 "", addresses.getD 1 ""⟩

/-- How networks are given by their names; of several with one name the last counts. -/
inductive GivesNetworks : Json → NameMap Network → Prop
  | null : GivesNetworks .null ∅
  | object {members : List (String × Json)} {entries : List (String × Network)}
    {networks : NameMap Network}
    (h : List.Forall₂ (fun m e => m.1 = e.1 ∧ GivesNetwork m.2 e.2) members entries)
    (last : ∀ name, networks.get? name = entries.reverse.lookup name) :
    GivesNetworks (.ofMembers members) networks

/-- Whether an output prints networks: one of the JSON texts that give them, with blanks around
it. -/
def Prints (output : String) (networks : NameMap Network) : Prop :=
  ∃ before text after j, output.toList = before ++ text ++ after ∧
    (∀ c ∈ before, Text.isBlank c = true) ∧ (∀ c ∈ after, Text.isBlank c = true) ∧
    Spelt text j ∧ GivesNetworks j networks

lemma gives_iff {members : List (String × Json)} {name address : String} :
    (atMostOnce? members name).bind (orDefault text? "") = some address ↔
      Gives members name address := by
  constructor
  · intro h
    obtain ⟨value, hfound, hvalue⟩ := Option.bind_eq_some_iff.1 h
    unfold atMostOnce? at hfound
    split at hfound
    · next hnone =>
      cases hfound
      cases hvalue
      refine .leftOut fun hname => ?_
      obtain ⟨m, hm, rfl⟩ := List.mem_map.1 hname
      exact List.filter_eq_nil_iff.1 hnone m hm (beq_self_eq_true m.1)
    · next m hone =>
      cases hfound
      obtain ⟨key, j⟩ := m
      have hm : (key, j) ∈ members.filter (·.1 == name) := hone ▸ List.mem_cons_self
      obtain rfl : key = name := beq_iff_eq.1 (List.mem_filter.1 hm).2
      obtain rfl := text?_iff.1 hvalue
      exact .once hone
    · cases hfound
  · intro h
    unfold atMostOnce?
    cases h with
    | once hone =>
      rw [hone]
      rfl
    | leftOut hnone =>
      have hfilter : members.filter (·.1 == name) = [] := by
        rw [List.filter_eq_nil_iff]
        intro m hm hname
        exact hnone (beq_iff_eq.1 hname ▸ List.mem_map_of_mem hm)
      rw [hfilter]
      rfl

lemma ofJson?_ofMembers (members : List (String × Json)) :
    Network.ofJson? (.ofMembers members) = do
      let ipv4 ← (atMostOnce? members "IPAddress").bind (orDefault text? "")
      let ipv6 ← (atMostOnce? members "GlobalIPv6Address").bind (orDefault text? "")
      return ⟨ipv4, ipv6⟩ := by
  have hfields : (Json.ofMembers members).fields? ["IPAddress", "GlobalIPv6Address"] =
      ["IPAddress", "GlobalIPv6Address"].mapM (atMostOnce? members) := by
    change (keyed? _).bind _ = _
    rw [keyed?_members]
    rfl
  unfold Network.ofJson?
  rw [hfields, List.mapM_cons, List.mapM_cons, List.mapM_nil]
  cases atMostOnce? members "IPAddress" with
  | none => rfl
  | some ipv4 =>
    cases atMostOnce? members "GlobalIPv6Address" with
    | none =>
      change none = (orDefault text? "" ipv4).bind fun _ => none
      cases orDefault text? "" ipv4 <;> rfl
    | some ipv6 => rfl

lemma givesNetwork_of_ofJson? {j : Json} {n : Network} (h : Network.ofJson? j = some n) :
    GivesNetwork j n := by
  cases j with
  | object members =>
    cases hkeyed : keyed? members with
    | none =>
      have hfields : (Json.object members).fields? ["IPAddress", "GlobalIPv6Address"] = none := by
        change (keyed? members).bind _ = none
        rw [hkeyed, Option.bind_none]
      unfold Network.ofJson? at h
      rw [hfields] at h
      cases h
    | some keyed =>
      obtain rfl := keyed?_iff.1 hkeyed
      have hread := (ofJson?_ofMembers keyed).symm.trans h
      obtain ⟨ipv4, hipv4, hread⟩ := Option.bind_eq_some_iff.1 hread
      obtain ⟨ipv6, hipv6, hread⟩ := Option.bind_eq_some_iff.1 hread
      cases hread
      exact .byName (gives_iff.1 hipv4) (gives_iff.1 hipv6)
  | array items =>
    match items with
    | [] =>
      cases h
      exact @GivesNetwork.byPlace [] (by decide)
    | [item] =>
      obtain ⟨ipv4, hipv4, h⟩ := Option.bind_eq_some_iff.1 h
      cases h
      obtain rfl := text?_iff.1 hipv4
      exact @GivesNetwork.byPlace [ipv4] (Nat.le_succ 1)
    | [item, item'] =>
      obtain ⟨ipv4, hipv4, h⟩ := Option.bind_eq_some_iff.1 h
      obtain ⟨ipv6, hipv6, h⟩ := Option.bind_eq_some_iff.1 h
      cases h
      obtain rfl := text?_iff.1 hipv4
      obtain rfl := text?_iff.1 hipv6
      exact @GivesNetwork.byPlace [ipv4, ipv6] (Nat.le_refl 2)
    | _ :: _ :: _ :: _ => cases h
  | null | bool | number | string => cases h

lemma ofJson?_of_givesNetwork {j : Json} {n : Network} (h : GivesNetwork j n) :
    Network.ofJson? j = some n := by
  cases h with
  | byName ipv4 ipv6 =>
    rw [ofJson?_ofMembers, gives_iff.2 ipv4, gives_iff.2 ipv6]
    rfl
  | @byPlace addresses h =>
    match addresses with
    | [] => rfl
    | [ipv4] => rfl
    | [ipv4, ipv6] => rfl
    | _ :: _ :: _ :: _ => simp at h

lemma mapOf?_network_iff {j : Json} {networks : NameMap Network} :
    mapOf? Network.ofJson? j = some networks ↔ j ≠ .null ∧ GivesNetworks j networks := by
  rw [mapOf?_iff]
  constructor
  · rintro ⟨members, entries, rfl, hread, hmap⟩
    refine ⟨fun h => (by cases h), .object (hread.imp ?_) hmap⟩
    exact fun m e hme => ⟨hme.1, givesNetwork_of_ofJson? hme.2⟩
  · rintro ⟨hnull, h⟩
    cases h with
    | null => exact absurd rfl hnull
    | object h last =>
      refine ⟨_, _, rfl, h.imp ?_, last⟩
      exact fun m e hme => ⟨hme.1, ofJson?_of_givesNetwork hme.2⟩

lemma optional?_network_iff {j : Json} {networks : NameMap Network} :
    (optional? (mapOf? Network.ofJson?) j).map (·.getD ∅) = some networks ↔
      GivesNetworks j networks := by
  have hother : j ≠ .null →
      (optional? (mapOf? Network.ofJson?) j).map (·.getD ∅) = mapOf? Network.ofJson? j := by
    intro hnull
    unfold optional?
    cases j with
    | null => exact absurd rfl hnull
    | object members =>
      dsimp only
      rw [Option.map_map]
      exact Option.map_id'
    | bool | number | string | array => rfl
  by_cases hnull : j = .null
  · subst hnull
    constructor
    · intro h
      cases h
      exact .null
    · intro h
      cases h
      rfl
  · rw [hother hnull, mapOf?_network_iff]
    exact and_iff_right hnull

/-- The networks read are those that are printed. -/
theorem networks?_iff {output : String} {networks : NameMap Network} :
    networks? output = some networks ↔ Prints output networks := by
  unfold networks?
  rw [Option.map_bind, Option.bind_eq_some_iff]
  constructor
  · rintro ⟨j, hparse, h⟩
    obtain ⟨before, text, after, hs, hbefore, hafter, hspelt⟩ := parse?_trimmed_iff.1 hparse
    exact ⟨before, text, after, j, hs, hbefore, hafter, hspelt, optional?_network_iff.1 h⟩
  · rintro ⟨before, text, after, j, hs, hbefore, hafter, hspelt, h⟩
    exact ⟨j, parse?_trimmed_iff.2 ⟨before, text, after, hs, hbefore, hafter, hspelt⟩,
      optional?_network_iff.2 h⟩

/-! ### The address -/

/-- The address wanted of the network of some name; it is empty if there is no such network. -/
def wanted (ipv6 : Bool) (networks : NameMap Network) (name : String) : String :=
  ((networks.get? name).map (·.address ipv6)).getD ""

/-- The address at the least name that has one, or the empty address if no name has one. -/
inductive Least (address : String → String) : String → Prop
  | least {name : String} (hne : address name ≠ "")
    (hleast : ∀ other, address other ≠ "" → name ≤ other) : Least address (address name)
  | none (h : ∀ name, address name = "") : Least address ""

lemma Least.unique {address : String → String} {a b : String} (ha : Least address a)
    (hb : Least address b) : a = b := by
  cases ha with
  | least hne hleast =>
    cases hb with
    | least hne' hleast' => rw [String.le_antisymm (hleast _ hne') (hleast' _ hne)]
    | none h => exact h _
  | none h =>
    cases hb with
    | least _ _ => exact (h _).symm
    | none _ => rfl

lemma wanted_of_mem {ipv6 : Bool} {networks : NameMap Network} {name : String} {n : Network}
    (h : (name, n) ∈ networks.entries) : wanted ipv6 networks name = n.address ipv6 := by
  unfold wanted
  rw [(NameMap.mem_entries_iff networks name n).1 h]
  rfl

lemma exists_network {ipv6 : Bool} {networks : NameMap Network} {name : String}
    (h : wanted ipv6 networks name ≠ "") :
    ∃ n, (name, n) ∈ networks.entries ∧ n.address ipv6 = wanted ipv6 networks name := by
  cases hn : networks.get? name with
  | none =>
    unfold wanted at h
    rw [hn] at h
    exact absurd rfl h
  | some n =>
    have hmem := (NameMap.mem_entries_iff networks name n).2 hn
    exact ⟨n, hmem, (wanted_of_mem hmem).symm⟩

/-- The first address in the order of the names is that at the least name. -/
lemma firstAddress_least (ipv6 : Bool) (networks : NameMap Network) :
    Least (wanted ipv6 networks) (firstAddress ipv6 networks) := by
  let address (e : String × Network) := e.2.address ipv6
  have hfirst : firstAddress ipv6 networks =
      ((networks.entries.map address).find? (! ·.isEmpty)).getD "" := by
    unfold firstAddress NameMap.values
    rw [List.map_map]
    rfl
  rw [hfirst]
  cases hfind : (networks.entries.map address).find? (! ·.isEmpty) with
  | none =>
    refine .none fun name => ?_
    by_contra hne
    obtain ⟨n, hmem, hn⟩ := exists_network hne
    have hempty := List.find?_eq_none.1 hfind _ (List.mem_map_of_mem hmem)
    simp [address, hn, hne] at hempty
  | some found =>
    obtain ⟨hne, before, after, hentries, hbefore⟩ := List.find?_eq_some_iff_append.1 hfind
    -- the networks before the first one with an address, the network itself and those behind it
    obtain ⟨before, rest, hsplit, rfl, hrest⟩ := List.map_eq_append_iff.1 hentries
    obtain ⟨⟨name, n⟩, after, rfl, rfl, rfl⟩ := List.map_eq_cons_iff.1 hrest
    have hsorted := networks.sorted
    rw [hsplit, List.pairwise_append, List.pairwise_cons] at hsorted
    obtain ⟨-, ⟨hafter, -⟩, -⟩ := hsorted
    have hmem : (name, n) ∈ networks.entries := by
      rw [hsplit]
      exact List.mem_append_right _ List.mem_cons_self
    have hwanted : wanted ipv6 networks name = address (name, n) := wanted_of_mem hmem
    rw [Option.getD_some, ← hwanted]
    refine .least ?_ fun other hother => ?_
    · rw [hwanted]
      simpa using hne
    · obtain ⟨n', hmem', hn'⟩ := exists_network hother
      rw [hsplit, List.mem_append, List.mem_cons] at hmem'
      rcases hmem' with hmem' | hmem' | hmem'
      · have hempty := hbefore _ (List.mem_map_of_mem hmem')
        simp [address, hn', hother] at hempty
      · cases hmem'
        exact String.le_refl name
      · exact String.not_lt.1 (String.lt_asymm (hafter _ hmem'))

lemma answer?_address (d : Docker) (c : Container) (output : String) :
    d.answer? (.address c) output =
      match networks? output with
      | some networks => .ok (firstAddress d.ipv6 networks)
      | none => .error .unreadable := by
  unfold answer? address?
  dsimp only
  cases networks? output <;> rfl

/-- **The address of the least network.** An output that prints networks gives the address wanted of
the one with the least name among those that have one, and the empty address if none has; `null`
stands for no networks. So the answer depends only on the addresses wanted, and neither on the
layout of the output nor on the other addresses. An output that prints no networks gives no
address. -/
theorem address_of_least_network (d : Docker) (c : Container) (output : String) :
    (∀ networks, Prints output networks → ∃ address,
      d.answer? (.address c) output = .ok address ∧ Least (wanted d.ipv6 networks) address) ∧
    ((∀ networks, ¬Prints output networks) →
      d.answer? (.address c) output = .error .unreadable) ∧
    (Text.trimmed output = "null" → d.answer? (.address c) output = .ok "") ∧
    ∀ output' networks networks', Prints output networks → Prints output' networks' →
      wanted d.ipv6 networks = wanted d.ipv6 networks' →
      d.answer? (.address c) output = d.answer? (.address c) output' := by
  have hprinted : ∀ output networks, Prints output networks →
      d.answer? (.address c) output = .ok (firstAddress d.ipv6 networks) := by
    intro output networks h
    rw [answer?_address, networks?_iff.2 h]
  refine ⟨fun networks h => ⟨_, hprinted output networks h, firstAddress_least _ _⟩,
    fun h => ?_, fun h => ?_, fun output' networks networks' h h' hwanted => ?_⟩
  · cases hnetworks : networks? output with
    | some networks => exact absurd (networks?_iff.1 hnetworks) (h networks)
    | none => rw [answer?_address, hnetworks]
  · have hwritten : compact .null = "null" := rfl
    have hnull : parse? "null" = some .null := by
      rw [← hwritten]
      exact parse?_compact .null
    have hnone : networks? output = some ∅ := by
      unfold networks?
      rw [h, hnull]
      rfl
    rw [hprinted output ∅ (networks?_iff.1 hnone)]
    rfl
  · have hleast' := firstAddress_least d.ipv6 networks'
    rw [← hwanted] at hleast'
    rw [hprinted output networks h, hprinted output' networks' h',
      (firstAddress_least d.ipv6 networks).unique hleast']

/-- A network that is given twice, one that is given by the place of its address, and values that
nobody asks for. -/
def oddValue : Json :=
  .ofMembers [("kind", .ofMembers [("IPAddress", .ofText "10.0.0.9")]),
    ("lan", .array [.ofText "10.0.0.2"]),
    ("kind", .ofMembers [("MTU", .array [.number "1e9", .ofMembers []])])]

def oddNetworks : NameMap Network := .ofList [("kind", {}), ("lan", { ipv4 := "10.0.0.2" })]

lemma spelt_oddValue : Spelt (compact oddValue).toList oddValue := by
  refine parse?_iff.1 (parse?_compact (numeric_of_tokens _ fun written hwritten => ?_))
  have hnumber : written = "1e9" := by
    simpa [oddValue, Json.ofMembers, ofText, tokens, itemTokens, memberTokens] using hwritten
  subst hnumber
  decide

theorem odd_output_answered :
    let output := "\u2003" ++ compact oddValue ++ "\u00a0"
    Prints output oddNetworks ∧ ∃ address,
      ({} : Docker).answer? (.address { name := "node" }) output = .ok address ∧
        Least (wanted false oddNetworks) address := by
  intro output
  have hprints : Prints output oddNetworks := by
    refine ⟨['\u2003'], (compact oddValue).toList, ['\u00a0'], oddValue, ?_,
      List.forall_mem_singleton.2 rfl, List.forall_mem_singleton.2 rfl, spelt_oddValue,
      optional?_network_iff.1 rfl⟩
    rw [String.toList_append, String.toList_append]
    rfl
  exact ⟨hprints, (address_of_least_network {} { name := "node" } output).1 _ hprints⟩

end Docker

end ApiBalancer
