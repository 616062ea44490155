import ApiBalancer.Proofs.ContainerRecords
import ApiBalancer.Proofs.TextLines
import Mathlib.Data.List.Nodup
import Mathlib.Data.List.ReduceOption

/-!
# Addresses of created containers

Each container that an inventory creates gets an address with a number in it, which goes up by one
with every creation and never down. So no address is given twice as long as the number fits in 32
bits, whatever is deleted and created anew. But only the first 155 numbers are below 256, as they
must be in an IPv4 address (`Inventory.assigned_addresses_differ`).
-/

namespace ApiBalancer

/-- Whether a text is an IPv4 address in dotted form: four numbers below 256 in decimal digits. -/
def IsDotted (address : String) : Prop :=
  ∃ a b c d : UInt8, Text.parts '.' address = [a, b, c, d].map fun n => toString n.toNat

namespace Inventory

/-- The number in the address of the container created after `n` others. -/
def addressNumber (n : Nat) : Nat := (100 + UInt32.ofNat (n + 1)).toNat

lemma addressNumber_of_lt {n : Nat} (h : n + 101 < UInt32.size) : addressNumber n = n + 101 := by
  have hsize : UInt32.size = 4294967296 := rfl
  have hhundred : (100 : UInt32).toNat = 100 := rfl
  have hcreated : (UInt32.ofNat (n + 1)).toNat = n + 1 :=
    UInt32.toNat_ofNat_of_lt' (by omega)
  unfold addressNumber
  rw [UInt32.toNat_add, hhundred, hcreated]
  omega

lemma parts_createdAddress (n : Nat) :
    Text.parts '.' (createdAddress n) = ["172", "18", "0", toString (addressNumber n)] := by
  have hlist : (createdAddress n).toList = "172".toList ++ '.' :: ("18".toList ++ '.' ::
      ("0".toList ++ '.' :: (toString (addressNumber n)).toList)) := by
    unfold createdAddress
    rw [String.toList_append]
    rfl
  rw [Text.parts, hlist, Text.splitAt_append_sep (by decide), Text.splitAt_append_sep (by decide),
    Text.splitAt_append_sep (by decide),
    Text.splitAt_of_not_mem (Text.not_mem_toString (by decide) _)]
  simp only [List.map_cons, List.map_nil, String.ofList_toList]

lemma isDotted_createdAddress (n : Nat) :
    IsDotted (createdAddress n) ↔ addressNumber n < 256 := by
  unfold IsDotted
  rw [parts_createdAddress]
  constructor
  · rintro ⟨a, b, c, d, h⟩
    simp only [List.map_cons, List.map_nil, List.cons.injEq, Text.toString_inj, and_true] at h
    rw [h.2.2.2]
    exact d.toNat_lt
  · intro h
    refine ⟨172, 18, 0, .ofNat (addressNumber n), ?_⟩
    have hd : (UInt8.ofNat (addressNumber n)).toNat = addressNumber n := UInt8.toNat_ofNat_of_lt' h
    simp only [List.map_cons, List.map_nil, hd]
    rfl

lemma addressNumber_eq {m n : Nat} (h : createdAddress m = createdAddress n) :
    addressNumber m = addressNumber n := by
  have hparts := parts_createdAddress m
  rw [h, parts_createdAddress] at hparts
  simpa only [List.cons.injEq, Text.toString_inj, true_and, and_true, eq_comm] using hparts

/-- The address that is given to a container, if one is created. -/
def assigned? (inv : Inventory) (m : Move) : Option String :=
  (inv.happening m).created?.bind fun launch => (inv.move m).addressOf? launch.name

/-- The addresses that are given to created containers as one thing after the other is done to an
inventory. -/
def assigned (inv : Inventory) (moves : List Move) : List String :=
  (told move assigned? inv moves).reduceOption

lemma assigned?_eq (inv : Inventory) (m : Move) :
    inv.assigned? m = (inv.happening m).created?.map fun _ => createdAddress inv.created := by
  unfold assigned?
  cases hcreated : (inv.happening m).created? with
  | none => rfl
  | some launch =>
    cases m with
    | arrange a => cases a <;> cases hcreated
    | ask request =>
      simp only [happening] at hcreated
      cases request with
      | create launch' =>
        -- of the three outcomes only the answer without an error is a creation
        rcases hanswer : (serve (.create launch') inv).answer with _ | err | c <;>
          rw [hanswer] at hcreated <;> cases hcreated
        have hentries := congrArg Prod.fst (create_ok hanswer).2.2
        change addressOf? (serve (.create launch) inv).state launch.name = _
        dsimp only [table] at hentries
        rw [addressOf?, hentries, NameMap.get?_insert_self]
        rfl
      | _ => cases hcreated

lemma assigned_eq (moves : List Move) :
    ({} : Inventory).assigned moves =
      (List.range (({} : Inventory).after moves).created).map createdAddress := by
  unfold assigned after
  refine told_induction (P := fun addresses (inv : Inventory) =>
    addresses.reduceOption = (List.range inv.created).map createdAddress) rfl ?_ moves
  intro addresses inv m h
  rw [List.reduceOption_append, h, assigned?_eq, created_move]
  cases (inv.happening m).created? with
  | none => simp
  | some launch => simp [List.range_succ]

/-! ### Containers that are created again and again -/

/-- Creates a container and deletes it again, `n` times. -/
def renewals (launch : Launch) : Nat → List Move
  | 0 => []
  | n + 1 =>
    renewals launch n ++ [.ask (.create launch), .ask (.delete { name := launch.name })]

lemma move_renewal (launch : Launch) (calls : List Call) (n : Nat) :
    ∃ calls', (({ calls, created := n } : Inventory).move (.ask (.create launch))).move
      (.ask (.delete { name := launch.name })) = { calls := calls', created := n + 1 } := by
  let e : Entry :=
    ⟨.node launch.name launch.cluster .externalLoadBalancer, createdAddress n, ∅, []⟩
  let full : Inventory :=
    { entries := NameMap.insert ∅ launch.name e
      calls := calls ++ [.create launch]
      created := n + 1 }
  have hcreate : ({ calls, created := n } : Inventory).move (.ask (.create launch)) = full := rfl
  have hfound : full.contains launch.name = true := by
    rw [contains, NameMap.contains, NameMap.get?_insert_self]
    rfl
  have herased : full.entries.erase launch.name = ∅ := by
    apply NameMap.ext_get?
    intro k
    rw [NameMap.get?_erase, NameMap.get?_insert]
    split <;> rfl
  have hdelete : (work (.delete { name := launch.name }) (full.record (.delete launch.name))).1 =
      (full.record (.delete launch.name)).remove launch.name :=
    congrArg Prod.fst (if_pos hfound)
  refine ⟨full.calls ++ [.delete launch.name], ?_⟩
  rw [hcreate, move, serve_of_idle List.not_mem_nil rfl, Request.call, hdelete]
  simp only [remove, record, herased, full]

lemma after_renewals (launch : Launch) (n : Nat) :
    ∃ calls, ({} : Inventory).after (renewals launch n) = { calls, created := n } := by
  induction n with
  | zero => exact ⟨[], rfl⟩
  | succ n ih =>
    obtain ⟨calls, hcalls⟩ := ih
    obtain ⟨calls', hcalls'⟩ := move_renewal launch calls n
    refine ⟨calls', ?_⟩
    rw [after] at hcalls
    rw [renewals, after, List.foldl_append, hcalls]
    exact hcalls'

lemma assigned_renewals (launch : Launch) (n : Nat) :
    ({} : Inventory).assigned (renewals launch n) = (List.range n).map createdAddress := by
  obtain ⟨calls, hcalls⟩ := after_renewals launch n
  rw [assigned_eq, hcalls]

/-- The addresses that an inventory has given to created containers, whatever has been done to it
since it was empty: every creation gives one, and none of them is empty. As long as their numbers fit
in 32 bits, they all differ, also if containers are deleted and created anew. The first 155 of them
are IPv4 addresses in dotted form, and no later one is. -/
theorem assigned_addresses_differ (moves : List Move) :
    let given := ({} : Inventory).assigned moves
    given.length = ((({} : Inventory).history moves).filterMap Happening.created?).length ∧
    (∀ address ∈ given, address.isEmpty = false) ∧
    (given.length + 100 < UInt32.size → given.Nodup ∧
      ∀ i address, given[i]? = some address → (IsDotted address ↔ i < 155)) := by
  intro given
  have hgiven : given = (List.range (({} : Inventory).after moves).created).map createdAddress :=
    assigned_eq moves
  have hlength : given.length = (({} : Inventory).after moves).created := by
    rw [hgiven, List.length_map, List.length_range]
  refine ⟨hlength.trans (records_after moves).created.symm, fun address hmem => ?_,
    fun hbound => ⟨?_, fun i address hi => ?_⟩⟩
  · rw [hgiven, List.mem_map] at hmem
    obtain ⟨n, -, rfl⟩ := hmem
    exact isEmpty_createdAddress n
  · rw [hlength] at hbound
    rw [hgiven]
    refine List.nodup_range.map_on fun m hm n hn h => ?_
    rw [List.mem_range] at hm hn
    have hnumber := addressNumber_eq h
    rw [addressNumber_of_lt (by omega), addressNumber_of_lt (by omega)] at hnumber
    omega
  · have hlt : i < given.length := (List.getElem?_eq_some_iff.1 hi).1
    have hcreated : i < (({} : Inventory).after moves).created := hlength ▸ hlt
    rw [hgiven, List.getElem?_map, List.getElem?_range hcreated] at hi
    cases hi
    rw [isDotted_createdAddress, addressNumber_of_lt (by omega)]
    omega

/-- A container that is created 156 times has had 156 addresses, of which the last but one is the
last in dotted form. -/
theorem renewed_addresses_differ :
    let given := ({} : Inventory).assigned
      (renewals ⟨"demo-lb", "kindest/haproxy", "demo", "0.0.0.0", 0⟩ 156)
    given.length + 100 < UInt32.size ∧ given.Nodup ∧
      given[154]? = some "172.18.0.255" ∧ IsDotted "172.18.0.255" := by
  intro given
  have hgiven : given = (List.range 156).map createdAddress := assigned_renewals _ _
  have hbound : given.length + 100 < UInt32.size := by
    rw [hgiven, List.length_map, List.length_range]
    decide
  have hlast : given[154]? = some "172.18.0.255" := by
    rw [hgiven]
    decide +kernel
  obtain ⟨-, -, hdiffer⟩ := assigned_addresses_differ
    (renewals ⟨"demo-lb", "kindest/haproxy", "demo", "0.0.0.0", 0⟩ 156)
  obtain ⟨hnodup, hdotted⟩ := hdiffer hbound
  exact ⟨hbound, hnodup, hlast, (hdotted 154 _ hlast).2 (by decide)⟩

/-- The last of these addresses has the number 256 in it and is no IPv4 address. -/
theorem renewed_out_of_range :
    "172.18.0.256" ∈ ({} : Inventory).assigned
        (renewals ⟨"demo-lb", "kindest/haproxy", "demo", "0.0.0.0", 0⟩ 156) ∧
      ¬IsDotted "172.18.0.256" := by
  have haddress : "172.18.0.256" = createdAddress 155 := by decide +kernel
  rw [assigned_renewals, haddress, isDotted_createdAddress]
  exact ⟨List.mem_map_of_mem (List.mem_range.2 (by decide)), by decide⟩

end Inventory

end ApiBalancer
