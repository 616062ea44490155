import ApiBalancer.Proofs.Containers
import ApiBalancer.Proofs.InventoryHistory

/-!
# What an inventory tells of its containers

A container is in the table from its last registration on, until it is removed or deleted. What is
told of it is what has happened since that registration (`Registered`): the last content of each
file, the signals in their order, and the last address. `records_tell_history` says so of every
inventory that was empty at the start.
-/

namespace ApiBalancer

namespace Happening

/-- What a container was created from, if a request for one has succeeded. -/
def created? : Happening → Option Launch
  | .asked ⟨.create launch, some (.ok _)⟩ _ => some launch
  | _ => none

/-- The name whose entry begins anew or ends. -/
def renewed? : Happening → Option String
  | .arranged (.add c _) => some c.name
  | .arranged (.remove name) => some name
  | .asked ⟨.create launch, some (.ok _)⟩ _ => some launch.name
  | .asked ⟨.delete c, some (.ok _)⟩ _ => some c.name
  | _ => none

/-- The address that is given to a container which is there already. -/
def readdressed? (name : String) : Happening → Option String
  | .arranged (.setAddress name' address) => if name' = name then some address else none
  | _ => none

/-- The content that has been written to a path inside a container. -/
def written? (name path : String) : Happening → Option ByteArray
  | .asked ⟨.writeFile c path' content, some (.ok _)⟩ _ =>
    if c.name = name ∧ path' = path then some content else none
  | _ => none

/-- The signal that has reached a container. -/
def signalled? (name : String) : Happening → Option Signal
  | .asked ⟨.signal c signal, some (.ok _)⟩ _ => if c.name = name then some signal else none
  | .asked ⟨.reload c, some (.ok _)⟩ _ => if c.name = name then some .hangup else none
  | _ => none

end Happening

/-- Whether a happening puts a container with an address into the table, when the others have
happened before it. The addresses of created containers are numbered. -/
inductive Registers (before : List Happening) : Happening → Container → String → Prop
  | added (c : Container) (address : String) :
    Registers before (.arranged (.add c address)) c address
  | created (launch : Launch) (c : Container) (events : List Event) :
    Registers before (.asked ⟨.create launch, some (.ok c)⟩ events)
      (.node launch.name launch.cluster .externalLoadBalancer)
      (Inventory.createdAddress (before.filterMap Happening.created?).length)

/-- Whether a container is registered: the last registration of its name was with this address, and
what has happened `since` has neither removed it nor registered its name again. -/
structure Registered (history : List Happening) (c : Container) (address : String)
    (since : List Happening) : Prop where
  split : ∃ before d, history = before ++ d :: since ∧ Registers before d c address
  kept : ∀ d ∈ since, d.renewed? ≠ some c.name

variable {history since : List Happening} {d : Happening} {c : Container} {address name : String}

lemma Registers.unique {c' : Container} {address' : String} (h : Registers history d c address)
    (h' : Registers history d c' address') : c' = c ∧ address' = address := by
  cases h <;> cases h' <;> exact ⟨rfl, rfl⟩

lemma Registers.renewed? (h : Registers history d c address) : d.renewed? = some c.name := by
  cases h <;> rfl

lemma Registers.registered (h : Registers history d c address) :
    Registered (history ++ [d]) c address [] :=
  ⟨⟨history, d, rfl, h⟩, nofun⟩

lemma Registered.concat (h : Registered history c address since)
    (hd : d.renewed? ≠ some c.name) : Registered (history ++ [d]) c address (since ++ [d]) := by
  obtain ⟨⟨before, first, rfl, hfirst⟩, hkept⟩ := h
  refine ⟨⟨before, first, by simp, hfirst⟩, fun x hx => ?_⟩
  rcases List.mem_append.1 hx with hx | hx
  · exact hkept x hx
  · rw [List.mem_singleton.1 hx]
    exact hd

/-- Who is registered after one more happening was registered before and has been kept, or it is the
registration. -/
lemma Registered.of_concat (h : Registered (history ++ [d]) c address since) :
    since = [] ∧ Registers history d c address ∨
      ∃ since', since = since' ++ [d] ∧ Registered history c address since' ∧
        d.renewed? ≠ some c.name := by
  obtain ⟨⟨before, first, hsplit, hfirst⟩, hkept⟩ := h
  rcases split_concat hsplit with ⟨rfl, rfl, rfl⟩ | ⟨since', rfl, rfl⟩
  · exact .inl ⟨rfl, hfirst⟩
  · refine .inr ⟨since', rfl, ⟨⟨before, first, rfl, hfirst⟩, fun y hy => ?_⟩, hkept d (by simp)⟩
    exact hkept y (List.mem_append_left _ hy)

/-- What a happening that neither registers nor removes a container changes in its entry. -/
structure Entry.Altered (d : Happening) (name : String) (e e' : Entry) : Prop where
  container : e'.container = e.container
  address : e'.address = (d.readdressed? name).getD e.address
  files : ∀ path, e'.files.get? path = (d.written? name path).or (e.files.get? path)
  signals : e'.signals = e.signals ++ (d.signalled? name).toList

/-- Whether a happening changes nothing in the entry of a container. -/
structure Happening.Spares (d : Happening) (name : String) : Prop where
  address : d.readdressed? name = none
  files : ∀ path, d.written? name path = none
  signals : d.signalled? name = none

lemma Happening.Spares.altered (h : d.Spares name) (e : Entry) : e.Altered d name e := by
  refine ⟨rfl, ?_, fun path => ?_, ?_⟩
  · rw [h.address]
    rfl
  · rw [h.files]
    rfl
  · rw [h.signals]
    exact (List.append_nil _).symm

/-- A happening that registers or removes a container changes none that is there already. -/
lemma Happening.spares_of_renewed {key : String} (h : d.renewed? = some key) (name : String) :
    d.Spares name := by
  cases d with
  | arranged a =>
    cases a with
    | setAddress key' address' => cases h
    | _ => exact ⟨rfl, fun path => rfl, rfl⟩
  | asked x events =>
    obtain ⟨request, _ | cause | a⟩ := x
    · cases request <;> exact ⟨rfl, fun path => rfl, rfl⟩
    · cases request <;> exact ⟨rfl, fun path => rfl, rfl⟩
    · cases request with
      | writeFile | signal | reload => cases h
      | _ => exact ⟨rfl, fun path => rfl, rfl⟩

lemma Exchange.inert {x : Exchange} (h : ∀ a, x.heard ≠ some (.ok a)) (events : List Event) :
    (Happening.asked x events).created? = none ∧ (Happening.asked x events).renewed? = none ∧
      ∀ name, (Happening.asked x events).Spares name := by
  obtain ⟨request, _ | cause | a⟩ := x
  · cases request <;> exact ⟨rfl, rfl, fun name => ⟨rfl, fun path => rfl, rfl⟩⟩
  · cases request <;> exact ⟨rfl, rfl, fun name => ⟨rfl, fun path => rfl, rfl⟩⟩
  · exact (h a rfl).elim

/-- What happens to a table of containers: one is registered, one is taken out, or none of both and
the entries are altered. -/
inductive Inventory.Turns (inv inv' : Inventory) (d : Happening) : Prop
  | registers (c : Container) (address : String)
    (registers : ∀ before : List Happening,
      (before.filterMap Happening.created?).length = inv.created → Registers before d c address)
    (entries : inv'.entries = inv.entries.insert c.name { container := c, address })
  | removes (name : String) (renewed : d.renewed? = some name)
    (registersNone : ∀ before c address, ¬Registers before d c address)
    (entries : inv'.entries = inv.entries.erase name)
  | alters (renewed : d.renewed? = none)
    (entries : ∀ name,
      Option.Rel (Entry.Altered d name) (inv.entries.get? name) (inv'.entries.get? name))

namespace Inventory

variable {inv inv' : Inventory}

lemma turns_of_same (hrenewed : d.renewed? = none) (hspares : ∀ name, d.Spares name)
    (h : inv'.entries = inv.entries) : inv.Turns inv' d := by
  refine .alters hrenewed fun name => ?_
  rw [h]
  cases inv.entries.get? name with
  | none => exact .none
  | some e => exact .some ((hspares name).altered e)

lemma turns_of_insert {key : String} {e e' : Entry} (hrenewed : d.renewed? = none)
    (hspares : ∀ name, name ≠ key → d.Spares name) (he : inv.entries.get? key = some e)
    (haltered : e.Altered d key e') (h : inv'.entries = inv.entries.insert key e') :
    inv.Turns inv' d := by
  refine .alters hrenewed fun name => ?_
  rw [h, NameMap.get?_insert]
  by_cases hname : name = key
  · rw [if_pos hname, hname, he]
    exact .some haltered
  · rw [if_neg hname]
    cases inv.entries.get? name with
    | none => exact .none
    | some e => exact .some ((hspares name hname).altered e)

lemma turns_write {path : String} {content : ByteArray} {e : Entry} (events : List Event)
    (he : inv.entries.get? c.name = some e)
    (h : inv'.entries =
      inv.entries.insert c.name { e with files := e.files.insert path content }) :
    inv.Turns inv' (.asked ⟨.writeFile c path content, some (.ok ())⟩ events) := by
  have hspares : ∀ name, name ≠ c.name →
      (Happening.asked ⟨.writeFile c path content, some (.ok ())⟩ events).Spares name :=
    fun name hname => ⟨rfl, fun path' => if_neg fun h => hname h.1.symm, rfl⟩
  have haltered : e.Altered (.asked ⟨.writeFile c path content, some (.ok ())⟩ events) c.name
      { e with files := e.files.insert path content } := by
    refine ⟨rfl, rfl, fun path' => ?_, (List.append_nil _).symm⟩
    simp only [Happening.written?, true_and]
    rw [NameMap.get?_insert]
    by_cases hpath : path' = path
    · rw [if_pos hpath, if_pos hpath.symm]
      rfl
    · rw [if_neg hpath, if_neg (Ne.symm hpath)]
      rfl
  exact turns_of_insert rfl hspares he haltered h

lemma turns_send {key : String} {signal : Signal} {e : Entry} (hrenewed : d.renewed? = none)
    (hspares : ∀ name, name ≠ key → d.Spares name) (haddress : d.readdressed? key = none)
    (hfiles : ∀ path, d.written? key path = none) (hsignal : d.signalled? key = some signal)
    (he : inv.entries.get? key = some e)
    (h : inv'.entries = inv.entries.insert key { e with signals := e.signals ++ [signal] }) :
    inv.Turns inv' d := by
  have haltered : e.Altered d key { e with signals := e.signals ++ [signal] } := by
    refine ⟨rfl, ?_, fun path => ?_, ?_⟩
    · rw [haddress]
      rfl
    · rw [hfiles]
      rfl
    · rw [hsignal]
      rfl
  exact turns_of_insert hrenewed hspares he haltered h

lemma turns_arrange (inv : Inventory) (a : Arrangement) :
    inv.Turns (inv.arrange a) (.arranged a) := by
  cases a with
  | add c address => exact .registers c address (fun before _ => .added c address) rfl
  | remove name => exact .removes name rfl nofun rfl
  | setAddress key address =>
    have hspares : ∀ name, name ≠ key →
        (Happening.arranged (.setAddress key address)).Spares name :=
      fun name hname => ⟨if_neg (Ne.symm hname), fun path => rfl, rfl⟩
    cases hkey : inv.entries.get? key with
    | none =>
      refine .alters rfl fun name => ?_
      have hsame : (inv.arrange (.setAddress key address)).entries = inv.entries := by
        simp only [arrange, setAddress, NameMap.modify, hkey]
      rw [hsame]
      by_cases hname : name = key
      · rw [hname, hkey]
        exact .none
      · cases inv.entries.get? name with
        | none => exact .none
        | some e => exact .some ((hspares name hname).altered e)
    | some e =>
      have haltered : e.Altered (.arranged (.setAddress key address)) key { e with address } := by
        refine ⟨rfl, ?_, fun path => rfl, (List.append_nil _).symm⟩
        simp only [Happening.readdressed?, if_pos, Option.getD_some]
      refine turns_of_insert rfl hspares hkey haltered ?_
      simp only [arrange, setAddress, NameMap.modify, hkey]
  | failNext | failAddress | clearAddressFault | stall | unstall | clearCalls =>
    exact turns_of_same rfl (fun name => ⟨rfl, fun path => rfl, rfl⟩) rfl

lemma turns_ask (request : Request) (inv : Inventory) :
    inv.Turns (inv.move (.ask request)) (inv.happening (.ask request)) := by
  simp only [move, happening]
  by_cases hok : ∃ a, (serve request inv).answer = some (.ok a)
  · obtain ⟨a, ha⟩ := hok
    rw [ha]
    cases request with
    | create launch =>
      obtain ⟨-, rfl, htable⟩ := create_ok ha
      refine .registers (.node launch.name launch.cluster .externalLoadBalancer)
        (createdAddress inv.created) (fun before hcount => ?_) (congrArg Prod.fst htable)
      rw [← hcount]
      exact .created launch _ _
    | list query =>
      refine turns_of_same rfl (fun name => ⟨rfl, fun path => rfl, rfl⟩) ?_
      exact entries_of_table (list_ok ha).2
    | address c =>
      refine turns_of_same rfl (fun name => ⟨rfl, fun path => rfl, rfl⟩) ?_
      exact entries_of_table (address_ok ha).2
    | writeFile c path content =>
      obtain ⟨e, he, htable⟩ := writeFile_ok ha
      exact turns_write _ he (congrArg Prod.fst htable)
    | signal c signal =>
      obtain ⟨e, he, htable⟩ := signal_ok ha
      exact turns_send rfl (fun name hname => ⟨rfl, fun path => rfl, if_neg (Ne.symm hname)⟩) rfl
        (fun path => rfl) (if_pos rfl) he (congrArg Prod.fst htable)
    | reload c =>
      obtain ⟨e, he, htable⟩ := reload_ok ha
      exact turns_send rfl (fun name hname => ⟨rfl, fun path => rfl, if_neg (Ne.symm hname)⟩) rfl
        (fun path => rfl) (if_pos rfl) he (congrArg Prod.fst htable)
    | delete c => exact .removes c.name rfl nofun (congrArg Prod.fst (delete_ok ha).2)
  · have hfailed : ∀ a, (serve request inv).answer ≠ some (.ok a) := fun a ha => hok ⟨a, ha⟩
    obtain ⟨-, hrenewed, hspares⟩ :=
      Exchange.inert (x := ⟨request, (serve request inv).answer⟩) hfailed _
    exact turns_of_same hrenewed hspares (entries_of_table (serve_table hfailed))

lemma turns_move (inv : Inventory) (m : Move) : inv.Turns (inv.move m) (inv.happening m) := by
  cases m with
  | arrange a => exact turns_arrange inv a
  | ask request => exact turns_ask request inv

lemma created_move (inv : Inventory) (m : Move) :
    (inv.move m).created = inv.created + (inv.happening m).created?.toList.length := by
  cases m with
  | arrange a => cases a <;> rfl
  | ask request =>
    simp only [move, happening]
    by_cases hok : ∃ a, (serve request inv).answer = some (.ok a)
    · obtain ⟨a, ha⟩ := hok
      rw [ha]
      cases request with
      | create launch => exact congrArg Prod.snd (create_ok ha).2.2
      | list query => exact congrArg Prod.snd (list_ok ha).2
      | address c => exact congrArg Prod.snd (address_ok ha).2
      | writeFile c path content =>
        obtain ⟨e, -, htable⟩ := writeFile_ok ha
        exact congrArg Prod.snd htable
      | signal c signal =>
        obtain ⟨e, -, htable⟩ := signal_ok ha
        exact congrArg Prod.snd htable
      | reload c =>
        obtain ⟨e, -, htable⟩ := reload_ok ha
        exact congrArg Prod.snd htable
      | delete c => exact congrArg Prod.snd (delete_ok ha).2
    · have hfailed : ∀ a, (serve request inv).answer ≠ some (.ok a) := fun a ha => hok ⟨a, ha⟩
      obtain ⟨hcreated, -⟩ := Exchange.inert (x := ⟨request, (serve request inv).answer⟩) hfailed
        (serve request inv).events
      rw [hcreated]
      exact congrArg Prod.snd (serve_table hfailed)

end Inventory

/-! ### Histories -/

/-- Whether an entry is that of a container which was registered with an address, once more has
happened since. -/
structure Entry.Tells (c : Container) (address : String) (since : List Happening) (e : Entry) :
    Prop where
  container : e.container = c
  address : e.address = (lastOf (Happening.readdressed? c.name) since).getD address
  files : ∀ path, e.files.get? path = lastOf (Happening.written? c.name path) since
  signals : e.signals = since.filterMap (Happening.signalled? c.name)

lemma Entry.Tells.concat {e e' : Entry} (h : e.Tells c address since)
    (haltered : e.Altered d c.name e') : e'.Tells c address (since ++ [d]) := by
  refine ⟨haltered.container.trans h.container, ?_, fun path => ?_, ?_⟩
  · rw [haltered.address, h.address, lastOf_concat]
    cases d.readdressed? c.name <;> rfl
  · rw [haltered.files, h.files, lastOf_concat]
  · rw [haltered.signals, h.signals, List.filterMap_append]
    cases hsignal : d.signalled? c.name <;> simp [hsignal]

/-- Whether a table of containers is what a history tells. -/
structure Inventory.Records (history : List Happening) (inv : Inventory) : Prop where
  created : (history.filterMap Happening.created?).length = inv.created
  there : ∀ c address since, Registered history c address since →
    ∃ e, inv.entries.get? c.name = some e ∧ e.Tells c address since
  registered : ∀ name e, inv.entries.get? name = some e → e.container.name = name ∧
    ∃ address since, Registered history e.container address since

namespace Inventory

variable {inv inv' : Inventory}

lemma Records.there_concat (h : inv.Records history) (hturns : inv.Turns inv' d)
    (hregistered : Registered (history ++ [d]) c address since) :
    ∃ e, inv'.entries.get? c.name = some e ∧ e.Tells c address since := by
  rcases hregistered.of_concat with ⟨rfl, hnow⟩ | ⟨since', rfl, hbefore, hkept⟩
  · cases hturns with
    | registers c₀ address₀ hregisters hentries =>
      obtain ⟨rfl, rfl⟩ := (hregisters history h.created).unique hnow
      rw [hentries, NameMap.get?_insert_self]
      exact ⟨_, rfl, rfl, rfl, fun path => rfl, rfl⟩
    | removes key hrenewed hnone hentries => exact (hnone _ _ _ hnow).elim
    | alters hrenewed hentries =>
      rw [hnow.renewed?] at hrenewed
      cases hrenewed
  · obtain ⟨e, he, htells⟩ := h.there c address since' hbefore
    cases hturns with
    | registers c₀ address₀ hregisters hentries =>
      have hrenewed := (hregisters history h.created).renewed?
      have hother : c.name ≠ c₀.name := by
        intro hsame
        rw [hsame] at hkept
        exact hkept hrenewed
      rw [hentries, NameMap.get?_insert_of_ne hother]
      exact ⟨e, he, htells.concat ((Happening.spares_of_renewed hrenewed _).altered e)⟩
    | removes key hrenewed hnone hentries =>
      have hother : c.name ≠ key := by
        rintro rfl
        exact hkept hrenewed
      rw [hentries, NameMap.get?_erase, if_neg hother]
      exact ⟨e, he, htells.concat ((Happening.spares_of_renewed hrenewed _).altered e)⟩
    | alters hrenewed hentries =>
      have hrel := hentries c.name
      rw [he] at hrel
      generalize inv'.entries.get? c.name = found at hrel
      cases hrel with
      | some haltered => exact ⟨_, rfl, htells.concat haltered⟩

lemma Records.registered_concat (h : inv.Records history) (hturns : inv.Turns inv' d) {e : Entry}
    (he : inv'.entries.get? name = some e) :
    e.container.name = name ∧
      ∃ address since, Registered (history ++ [d]) e.container address since := by
  -- an entry that was there before stays registered
  have stays : ∀ e₀, inv.entries.get? name = some e₀ → d.renewed? ≠ some name →
      e₀.container.name = name ∧
        ∃ address since, Registered (history ++ [d]) e₀.container address since := by
    intro e₀ he₀ hkept
    obtain ⟨hname, address, since, hregistered⟩ := h.registered name e₀ he₀
    rw [← hname] at hkept
    exact ⟨hname, address, since ++ [d], hregistered.concat hkept⟩
  cases hturns with
  | registers c₀ address₀ hregisters hentries =>
    have hnow := hregisters history h.created
    rw [hentries, NameMap.get?_insert] at he
    by_cases hname : name = c₀.name
    · rw [if_pos hname] at he
      cases he
      exact ⟨hname.symm, address₀, [], hnow.registered⟩
    · rw [if_neg hname] at he
      refine stays e he ?_
      rw [hnow.renewed?]
      exact fun hsame => hname (Option.some.inj hsame).symm
  | removes key hrenewed hnone hentries =>
    rw [hentries, NameMap.get?_erase] at he
    by_cases hname : name = key
    · rw [if_pos hname] at he
      cases he
    · rw [if_neg hname] at he
      refine stays e he ?_
      rw [hrenewed]
      exact fun hsame => hname (Option.some.inj hsame).symm
  | alters hrenewed hentries =>
    have hrel := hentries name
    rw [he] at hrel
    generalize hbefore : inv.entries.get? name = found at hrel
    cases hrel with
    | some haltered =>
      rw [haltered.container]
      refine stays _ hbefore ?_
      rw [hrenewed]
      exact nofun

lemma Records.move (h : inv.Records history) (m : Move) :
    (inv.move m).Records (history ++ [inv.happening m]) := by
  refine ⟨?_, fun c address since hregistered => ?_, fun name e he => ?_⟩
  · rw [created_move, ← h.created, List.filterMap_append, List.length_append]
    cases hcreated : (inv.happening m).created? <;> simp [hcreated]
  · exact h.there_concat (turns_move inv m) hregistered
  · exact h.registered_concat (turns_move inv m) he

/-- The table of an inventory that was empty at the start is what its history tells. -/
theorem records_after (moves : List Move) :
    (({} : Inventory).after moves).Records (({} : Inventory).history moves) := by
  refine history_induction (P := fun history inv => inv.Records history) ?_
    (fun history inv m h => h.move m) moves
  refine ⟨rfl, fun c address since hregistered => ?_, fun name e he => ?_⟩
  · obtain ⟨⟨before, first, hsplit, -⟩, -⟩ := hregistered
    simp at hsplit
  · cases he

lemma Records.told (h : inv.Records history) (hregistered : Registered history c address since) :
    inv.addressOf? c.name = some ((lastOf (Happening.readdressed? c.name) since).getD address) ∧
      (∀ path, inv.file? c.name path = lastOf (Happening.written? c.name path) since) ∧
      inv.signals c.name = since.filterMap (Happening.signalled? c.name) := by
  obtain ⟨e, he, htells⟩ := h.there c address since hregistered
  refine ⟨?_, fun path => ?_, ?_⟩
  · unfold addressOf?
    rw [he, ← htells.address]
    rfl
  · unfold file?
    rw [he, ← htells.files]
    rfl
  · unfold signals
    rw [he]
    exact htells.signals

lemma Records.registered_iff (h : inv.Records history) (c : Container) :
    (∃ address since, Registered history c address since) ↔
      ∃ e, inv.entries.get? c.name = some e ∧ e.container = c := by
  constructor
  · rintro ⟨address, since, hregistered⟩
    obtain ⟨e, he, htells⟩ := h.there c address since hregistered
    exact ⟨e, he, htells.container⟩
  · rintro ⟨e, he, rfl⟩
    exact (h.registered _ e he).2

lemma Records.contains_iff (h : inv.Records history) (name : String) :
    inv.contains name = true ↔
      ∃ c address since, c.name = name ∧ Registered history c address since := by
  rw [Inventory.contains_iff]
  constructor
  · rintro ⟨e, he⟩
    obtain ⟨hname, address, since, hregistered⟩ := h.registered name e he
    exact ⟨e.container, address, since, hname, hregistered⟩
  · rintro ⟨c, address, since, rfl, hregistered⟩
    obtain ⟨e, he, -⟩ := h.there c address since hregistered
    exact ⟨e, he⟩

/-- A listing holds the registered containers that answer, and no others. -/
lemma Records.mem_answering_iff (h : inv.Records history) (query : LabelQuery) (c : Container) :
    c ∈ inv.answering query ↔
      (∃ address since, Registered history c address since) ∧ query.Matches c.labels := by
  rw [mem_answering, h.registered_iff, and_comm]
  refine and_congr_left fun _ => ?_
  constructor
  · rintro ⟨name, e, he, rfl⟩
    rw [(h.registered name e he).1]
    exact ⟨e, he, rfl⟩
  · rintro ⟨e, he, hcontainer⟩
    exact ⟨c.name, e, he, hcontainer⟩

/-- Whatever has been done to an inventory that was empty at the start, containers stand under their
names, and those that are registered are there. Of each of them the inventory tells the address that
it was last given, the content that was last written to each path since the registration, and the
signals that have reached it since, in their order; of a name that is not registered it tells
nothing. Listings hold the registered containers that answer, in the order of their names. A request
that fails or gets no answer changes none of this, and a container that is registered anew has
neither documents nor signals. -/
theorem records_tell_history (moves : List Move) :
    let inv := ({} : Inventory).after moves
    let history := ({} : Inventory).history moves
    (∀ name e, inv.entries.get? name = some e → e.container.name = name) ∧
    (∀ name, inv.contains name = true ↔
      ∃ c address since, c.name = name ∧ Registered history c address since) ∧
    (∀ c address since, Registered history c address since →
      inv.addressOf? c.name =
        some ((lastOf (Happening.readdressed? c.name) since).getD address) ∧
      (∀ path, inv.file? c.name path = lastOf (Happening.written? c.name path) since) ∧
      inv.signals c.name = since.filterMap (Happening.signalled? c.name)) ∧
    (∀ name, inv.contains name = false → inv.addressOf? name = none ∧
      (∀ path, inv.file? name path = none) ∧ inv.signals name = []) ∧
    (∀ query, ∃ found : List Container, (found.map (·.name)).Pairwise (· < ·) ∧
      (∀ c, c ∈ found ↔
        (∃ address since, Registered history c address since) ∧ query.Matches c.labels) ∧
      (∀ listed, (serve (.list query) inv).answer = some (.ok listed) → listed = found) ∧
      (.list ∉ inv.stalled → inv.waiting .list = [] →
        (serve (.list query) inv).answer = some (.ok found))) ∧
    (∀ request, (∀ a, (serve request inv).answer ≠ some (.ok a)) →
      (serve request inv).state.table = inv.table) ∧
    (∀ m c address, Registers history (inv.happening m) c address →
      (inv.move m).addressOf? c.name = some address ∧
      (∀ path, (inv.move m).file? c.name path = none) ∧ (inv.move m).signals c.name = []) := by
  intro inv history
  have hrecords : inv.Records history := records_after moves
  have hkeyed : inv.Keyed := fun name e he => (hrecords.registered name e he).1
  refine ⟨hkeyed, hrecords.contains_iff, fun c address since => hrecords.told,
    fun name habsent => ?_, fun query => ?_, fun request => serve_table,
    fun m c address hregisters => ?_⟩
  · have hnone : inv.entries.get? name = none := by
      simpa [contains, NameMap.contains] using habsent
    unfold addressOf? file? signals
    rw [hnone]
    exact ⟨rfl, fun path => rfl, rfl⟩
  · refine ⟨inv.answering query, pairwise_answering hkeyed query,
      hrecords.mem_answering_iff query, fun listed hlisted => (list_ok hlisted).1,
      fun hstalled hwaiting => ?_⟩
    rw [serve_of_idle hstalled hwaiting]
    rfl
  · exact (hrecords.move m).told hregisters.registered

end Inventory

end ApiBalancer
