import ApiBalancer.Exchange
import ApiBalancer.Proofs.JsonGrammar
import ApiBalancer.Proofs.JsonVariants

/-!
# What is exchanged as JSON

A `Codec` writes the values of a type as JSON and reads them again. Of every codec the texts that it
writes are read back, whatever the order of members, unknown members and white space in them
(`Codec.faithful`). The codecs of what the program exchanges are made of those of texts, flags and
maps.
-/

namespace ApiBalancer

namespace Json

variable {α β γ : Type}

/-- How the values of a type are written as JSON and read again. -/
structure Codec (α : Type) where
  /-- What is read of a value. -/
  shape : Shape
  write : α → Json
  read? : Json → Option α
  numeric (a : α) : (write a).Numeric
  read_write (a : α) : read? (write a) = some a
  read_variant {j j' : Json} : Variant shape j j' → read? j = read? j'

lemma numeric_ofMembers {members : List (String × Json)} (h : ∀ m ∈ members, m.2.Numeric) :
    (ofMembers members).Numeric := by
  refine .object fun m hm => ?_
  obtain ⟨m, hmember, rfl⟩ := List.mem_map.1 hm
  exact h m hmember

lemma mapM_map_of_forall {f : β → Option γ} {key : α → β} {g : α → γ} {l : List α}
    (h : ∀ a ∈ l, f (key a) = some (g a)) : (l.map key).mapM f = some (l.map g) := by
  induction l with
  | nil => rfl
  | cons a rest ih =>
    rw [List.map_cons, List.mapM_cons, h a List.mem_cons_self,
      ih fun a' ha' => h a' (List.mem_cons_of_mem a ha')]
    rfl

lemma fields?_ofMembers {names : List String} {members : List (String × Json)}
    (hmembers : members.map (·.1) = names) (h : names.Nodup) :
    (ofMembers members).fields? names = some (members.map fun m => some m.2) := by
  subst hmembers
  have hfind : ∀ m ∈ members, atMostOnce? members m.1 = some (some m.2) := by
    intro m hm
    rcases atMostOnce?_of_nodup h m.1 with ⟨value, hvalue, hfound⟩ | ⟨habsent, -⟩
    · have heq := List.inj_on_of_nodup_map h hm hvalue rfl
      rw [hfound, heq]
    · exact absurd hm (habsent m.2)
  unfold fields? ofMembers
  dsimp only
  rw [keyed?_members, Option.bind_some, mapM_map_of_forall hfind]

namespace Codec

/-- The text that a value is sent as. -/
def encode (c : Codec α) (a : α) : String := (c.write a).compact

/-- The value that a text is received as. -/
def decode? (c : Codec α) (text : String) : Option α := (parse? text).bind c.read?

/-- What the receiver of texts relies on. -/
structure Faithful (c : Codec α) : Prop where
  readBack (a : α) : c.decode? (c.encode a) = some a
  /-- What has been received is sent in a form that is received as the same. -/
  normal {text : String} {a : α} : c.decode? text = some a → c.decode? (c.encode a) = some a
  /-- The order of members does not matter, nor do members that no field takes. -/
  varied {text text' : String} {j j' : Json} : Spelt text.toList j → Spelt text'.toList j' →
    Variant c.shape j j' → c.decode? text = c.decode? text'
  /-- Every text of a variant of what is written of a value is received as the value. -/
  received {a : α} {text : String} {j : Json} : Variant c.shape (c.write a) j →
    Spelt text.toList j → c.decode? text = some a
  /-- The white space around the lexemes of a text does not matter. -/
  respaced {lexemes : List (List Char)} {ts : List Token} {text text' : String} :
    List.Forall₂ Token.Lexeme lexemes ts → Token.Laid lexemes text.toList →
      Token.Laid lexemes text'.toList → c.decode? text = c.decode? text'
  /-- Every text that is received is laid out of lexemes. -/
  laid {text : String} {a : α} : c.decode? text = some a →
    ∃ lexemes ts, List.Forall₂ Token.Lexeme lexemes ts ∧ Token.Laid lexemes text.toList

lemma decode?_encode (c : Codec α) (a : α) : c.decode? (c.encode a) = some a := by
  unfold decode? encode
  rw [parse?_compact (c.numeric a), Option.bind_some, c.read_write]

theorem faithful (c : Codec α) : c.Faithful where
  readBack := c.decode?_encode
  normal _ := c.decode?_encode _
  varied htext htext' hvariant := by
    unfold decode?
    rw [parse?_iff.2 htext, parse?_iff.2 htext', Option.bind_some, Option.bind_some,
      c.read_variant hvariant]
  received hvariant htext := by
    unfold decode?
    rw [parse?_iff.2 htext, Option.bind_some, ← c.read_variant hvariant, c.read_write]
  respaced hlexemes hlaid hlaid' := by
    unfold decode? parse?
    rw [Token.scan?_laid hlaid hlexemes, Token.scan?_laid hlaid' hlexemes]
  laid htext := by
    obtain ⟨j, hparse, -⟩ := Option.bind_eq_some_iff.1 htext
    obtain ⟨ts, hscan, -⟩ := Option.bind_eq_some_iff.1 hparse
    obtain ⟨lexemes, hlaid, hlexemes⟩ := Token.laid_of_scan? hscan
    exact ⟨lexemes, ts, hlexemes, hlaid⟩

def text : Codec String where
  shape := .value
  write := .ofText
  read? := text?
  numeric a := .string (some a)
  read_write _ := rfl
  read_variant h := h.text?

def flag : Codec Bool where
  shape := .value
  write := .bool
  read? := bool?
  numeric := .bool
  read_write _ := rfl
  read_variant h := h.bool?

/-- A map of values that are read as they are. -/
def map [Inhabited α] (c : Codec α) (hshape : c.shape = .value) : Codec (NameMap α) where
  shape := .value
  write := .ofMap c.write
  read? := mapOf? c.read?
  numeric m := by
    refine numeric_ofMembers fun member hmember => ?_
    obtain ⟨e, -, rfl⟩ := List.mem_map.1 hmember
    exact c.numeric e.2
  read_write m := by
    have hentries : (m.toList.map fun e => (e.1, c.write e.2)).mapM
        (fun e => (c.read? e.2).map (e.1, ·)) = some (m.toList.map id) := by
      refine mapM_map_of_forall fun e _ => ?_
      rw [c.read_write]
      rfl
    unfold ofMap ofMembers
    rw [mapOf?_object, keyed?_members, Option.bind_some]
    unfold entries?
    rw [hentries, List.map_id]
    exact congrArg some (NameMap.ofList_toList m)
  read_variant h := h.mapOf? fun _ _ hv => c.read_variant (hshape ▸ hv)

/-- A value for which `null` may stand. -/
def optional (c : Codec α) (hnull : ∀ a, c.write a ≠ .null) : Codec (Option α) where
  shape := c.shape
  write a := a.elim .null c.write
  read? := optional? c.read?
  numeric a := by
    cases a with
    | none => exact .null
    | some a => exact c.numeric a
  read_write a := by
    cases a with
    | none => rfl
    | some a =>
      change optional? c.read? (c.write a) = some (some a)
      rw [optional?.eq_2 c.read? (c.write a) (hnull a), c.read_write]
      rfl
  read_variant h := h.optional? (c.read_variant h)

lemma orDefault (c : Codec α) (default : α) {v v' : Option Json}
    (h : Option.Rel (Variant c.shape) v v') :
    Json.orDefault c.read? default v = Json.orDefault c.read? default v' := by
  cases h with
  | none => rfl
  | some hv => exact c.read_variant hv

lemma orDefault_text (default : String) {v v' : Option Json}
    (h : Option.Rel (Variant .value) v v') :
    Json.orDefault text? default v = Json.orDefault text? default v' :=
  text.orDefault default h

lemma orDefault_flag (default : Bool) {v v' : Option Json}
    (h : Option.Rel (Variant .value) v v') :
    Json.orDefault bool? default v = Json.orDefault bool? default v' :=
  flag.orDefault default h

end Codec

end Json

/-- A role, by its name. -/
def Role.codec : Json.Codec Role where
  shape := .value
  write := toJson
  read? := ofJson?
  numeric r := .string (some r.name)
  read_write r := by cases r <;> decide
  read_variant h := congrArg (Option.bind · ofName?) h.name?

/-- A signal, by its word. -/
def Signal.codec : Json.Codec Signal where
  shape := .value
  write := toJson
  read? := ofJson?
  numeric s := .string (some s.word)
  read_write s := by cases s <;> decide
  read_variant h := congrArg (Option.bind · ofWord?) h.name?

/-! ### Records -/

open Json

def Container.codec : Codec Container where
  shape := .record [("name", Codec.text.shape), ("labels", (Codec.text.map rfl).shape)]
  write := toJson
  read? := ofJson?
  numeric c := by
    refine numeric_ofMembers (List.forall_mem_cons.2 ⟨Codec.text.numeric c.name, ?_⟩)
    exact List.forall_mem_singleton.2 ((Codec.text.map rfl).numeric c.labels)
  read_write c := by
    have hfields : c.toJson.fields? ["name", "labels"] =
        some [some (ofText c.name), some (ofMap ofText c.labels)] :=
      fields?_ofMembers rfl (by decide)
    have hlabels : mapOf? text? (ofMap ofText c.labels) = some c.labels :=
      (Codec.text.map rfl).read_write c.labels
    unfold ofJson?
    rw [hfields]
    simp only [Json.orDefault, hlabels]
    rfl
  read_variant {j j'} h := by
    have hfields := h.fields? ["name", "labels"] rfl (by decide)
    unfold ofJson?
    generalize j.fields? ["name", "labels"] = given at hfields
    generalize j'.fields? ["name", "labels"] = given' at hfields
    match given, given', hfields with
    | none, none, _ => rfl
    | some [none, _], some [none, _], _ => rfl
    | some [some name, labels], some [some name', labels'],
        .some (.cons (.some hname) (.cons hlabels .nil)) =>
      have hlabels' : Json.orDefault (mapOf? text?) ∅ labels =
        Json.orDefault (mapOf? text?) ∅ labels' := (Codec.text.map rfl).orDefault ∅ hlabels
      dsimp only
      rw [hname.text?, hlabels']

def Backend.codec : Codec Backend where
  shape := .record [("name", Codec.text.shape), ("endpoint", Codec.text.shape)]
  write := toJson
  read? := ofJson?
  numeric b := by
    refine numeric_ofMembers (List.forall_mem_cons.2 ⟨Codec.text.numeric b.name, ?_⟩)
    exact List.forall_mem_singleton.2 (Codec.text.numeric b.endpoint)
  read_write b := by
    have hfields : b.toJson.fields? ["name", "endpoint"] =
        some [some (ofText b.name), some (ofText b.endpoint)] :=
      fields?_ofMembers rfl (by decide)
    unfold ofJson?
    rw [hfields]
    rfl
  read_variant {j j'} h := by
    have hfields := h.fields? ["name", "endpoint"] rfl (by decide)
    unfold ofJson?
    generalize j.fields? ["name", "endpoint"] = given at hfields
    generalize j'.fields? ["name", "endpoint"] = given' at hfields
    match given, given', hfields with
    | none, none, _ => rfl
    | some [none, _], some [none, _], _ => rfl
    | some [some _, none], some [some _, none], _ => rfl
    | some [some name, some endpoint], some [some name', some endpoint'],
        .some (.cons (.some hname) (.cons (.some hendpoint) .nil)) =>
      dsimp only
      rw [hname.text?, hendpoint.text?]

def BackendSet.codec : Codec BackendSet where
  shape := .record [("backends", (Codec.text.map rfl).shape)]
  write := toJson
  read? := ofJson?
  numeric s :=
    numeric_ofMembers (List.forall_mem_singleton.2 ((Codec.text.map rfl).numeric s.byName))
  read_write s := by
    have hfields : s.toJson.fields? ["backends"] = some [some (ofMap ofText s.byName)] :=
      fields?_ofMembers rfl (by decide)
    have hbackends : mapOf? text? (ofMap ofText s.byName) = some s.byName :=
      (Codec.text.map rfl).read_write s.byName
    unfold ofJson?
    rw [hfields]
    dsimp only
    rw [hbackends]
    rfl
  read_variant {j j'} h := by
    have hfields := h.fields? ["backends"] rfl (by decide)
    unfold ofJson?
    generalize j.fields? ["backends"] = given at hfields
    generalize j'.fields? ["backends"] = given' at hfields
    match given, given', hfields with
    | none, none, _ => rfl
    | some [none], some [none], _ => rfl
    | some [some backends], some [some backends'], .some (.cons (.some hbackends) .nil) =>
      exact congrArg (Option.map BackendSet.mk) ((Codec.text.map rfl).read_variant hbackends)

/-- A text for which `null` may stand. -/
def Json.Codec.optionalText : Codec (Option String) := Codec.text.optional fun _ => Json.noConfusion

def ClusterSpec.codec : Codec ClusterSpec where
  shape := .record
    [("name", Codec.text.shape), ("load_balancer_image", Codec.optionalText.shape)]
  write := toJson
  read? := ofJson?
  numeric spec := by
    refine numeric_ofMembers (List.forall_mem_cons.2 ⟨Codec.text.numeric spec.name, ?_⟩)
    refine List.forall_mem_singleton.2 ?_
    cases spec.image with
    | none => exact .null
    | some image => exact Codec.text.numeric image
  read_write spec := by
    have hwrite : spec.toJson = .ofMembers [("name", .ofText spec.name),
        ("load_balancer_image", Codec.optionalText.write spec.image)] := by
      unfold toJson
      cases spec.image <;> rfl
    have hfields : spec.toJson.fields? ["name", "load_balancer_image"] =
        some [some (.ofText spec.name), some (Codec.optionalText.write spec.image)] :=
      hwrite ▸ fields?_ofMembers rfl (by decide)
    have himage : optional? text? (Codec.optionalText.write spec.image) = some spec.image :=
      Codec.optionalText.read_write spec.image
    unfold ofJson?
    rw [hfields]
    simp only [Json.orDefault, himage]
    rfl
  read_variant {j j'} h := by
    have hfields := h.fields? ["name", "load_balancer_image"] rfl (by decide)
    unfold ofJson?
    generalize j.fields? ["name", "load_balancer_image"] = given at hfields
    generalize j'.fields? ["name", "load_balancer_image"] = given' at hfields
    match given, given', hfields with
    | none, none, _ => rfl
    | some [none, _], some [none, _], _ => rfl
    | some [some name, image], some [some name', image'],
        .some (.cons (.some hname) (.cons himage .nil)) =>
      have himage' : Json.orDefault (optional? text?) none image =
        Json.orDefault (optional? text?) none image' := Codec.optionalText.orDefault none himage
      dsimp only
      rw [hname.text?, himage']

def ImageSource.codec : Codec ImageSource where
  shape := .record [("repository", Codec.text.shape), ("name", Codec.text.shape),
    ("tag", Codec.text.shape)]
  write := toJson
  read? := ofJson?
  numeric source := by
    refine numeric_ofMembers ?_
    rw [List.forall_mem_cons, List.forall_mem_cons, List.forall_mem_singleton]
    exact ⟨Codec.text.numeric source.repository, Codec.text.numeric source.name,
      Codec.text.numeric source.tag⟩
  read_write source := by
    have hfields : source.toJson.fields? ["repository", "name", "tag"] =
        some [some (.ofText source.repository), some (.ofText source.name),
          some (.ofText source.tag)] :=
      fields?_ofMembers rfl (by decide)
    unfold ofJson?
    rw [hfields]
    rfl
  read_variant {j j'} h := by
    have hfields := h.fields? ["repository", "name", "tag"] rfl (by decide)
    unfold ofJson?
    generalize j.fields? ["repository", "name", "tag"] = given at hfields
    generalize j'.fields? ["repository", "name", "tag"] = given' at hfields
    match given, given', hfields with
    | none, none, _ => rfl
    | some [_, _, _], some [_, _, _], .some (.cons hrepository (.cons hname (.cons htag .nil))) =>
      dsimp only
      rw [Codec.orDefault_text _ hrepository, Codec.orDefault_text _ hname,
        Codec.orDefault_text _ htag]

def DocumentSettings.codec : Codec DocumentSettings where
  shape := .record [("enable_stats", Codec.flag.shape), ("ipv6", Codec.flag.shape)]
  write := toJson
  read? := ofJson?
  numeric s := by
    refine numeric_ofMembers (List.forall_mem_cons.2 ⟨Codec.flag.numeric s.enableStats, ?_⟩)
    exact List.forall_mem_singleton.2 (Codec.flag.numeric s.ipv6)
  read_write s := by
    have hfields : s.toJson.fields? ["enable_stats", "ipv6"] =
        some [some (.bool s.enableStats), some (.bool s.ipv6)] :=
      fields?_ofMembers rfl (by decide)
    unfold ofJson?
    rw [hfields]
    rfl
  read_variant {j j'} h := by
    have hfields := h.fields? ["enable_stats", "ipv6"] rfl (by decide)
    unfold ofJson?
    generalize j.fields? ["enable_stats", "ipv6"] = given at hfields
    generalize j'.fields? ["enable_stats", "ipv6"] = given' at hfields
    match given, given', hfields with
    | none, none, _ => rfl
    | some [_, _], some [_, _], .some (.cons hstats (.cons hipv6 .nil)) =>
      dsimp only
      rw [Codec.orDefault_flag _ hstats, Codec.orDefault_flag _ hipv6]

def EngineSettings.codec : Codec EngineSettings where
  shape := .record [("binary", Codec.text.shape)]
  write := toJson
  read? := ofJson?
  numeric s := numeric_ofMembers (List.forall_mem_singleton.2 (Codec.text.numeric s.binary))
  read_write s := by
    have hfields : s.toJson.fields? ["binary"] = some [some (.ofText s.binary)] :=
      fields?_ofMembers rfl (by decide)
    unfold ofJson?
    rw [hfields]
    rfl
  read_variant {j j'} h := by
    have hfields := h.fields? ["binary"] rfl (by decide)
    unfold ofJson?
    generalize j.fields? ["binary"] = given at hfields
    generalize j'.fields? ["binary"] = given' at hfields
    match given, given', hfields with
    | none, none, _ => rfl
    | some [_], some [_], .some (.cons hbinary .nil) =>
      dsimp only
      rw [Codec.orDefault_text _ hbinary]

def Settings.codec : Codec Settings where
  shape := .record [("image", ImageSource.codec.shape), ("render", DocumentSettings.codec.shape),
    ("docker", EngineSettings.codec.shape)]
  write := toJson
  read? := ofJson?
  numeric s := by
    refine numeric_ofMembers ?_
    rw [List.forall_mem_cons, List.forall_mem_cons, List.forall_mem_singleton]
    exact ⟨ImageSource.codec.numeric s.image, DocumentSettings.codec.numeric s.document,
      EngineSettings.codec.numeric s.engine⟩
  read_write s := by
    have hfields : s.toJson.fields? ["image", "render", "docker"] =
        some [some s.image.toJson, some s.document.toJson, some s.engine.toJson] :=
      fields?_ofMembers rfl (by decide)
    have himage : ImageSource.ofJson? s.image.toJson = some s.image :=
      ImageSource.codec.read_write s.image
    have hdocument : DocumentSettings.ofJson? s.document.toJson = some s.document :=
      DocumentSettings.codec.read_write s.document
    have hengine : EngineSettings.ofJson? s.engine.toJson = some s.engine :=
      EngineSettings.codec.read_write s.engine
    unfold ofJson?
    rw [hfields]
    simp only [Json.orDefault, himage, hdocument, hengine]
    rfl
  read_variant {j j'} h := by
    have hfields := h.fields? ["image", "render", "docker"] rfl (by decide)
    unfold ofJson?
    generalize j.fields? ["image", "render", "docker"] = given at hfields
    generalize j'.fields? ["image", "render", "docker"] = given' at hfields
    match given, given', hfields with
    | none, none, _ => rfl
    | some [image, render, docker], some [image', render', docker'],
        .some (.cons himage (.cons hrender (.cons hdocker .nil))) =>
      have himage' : Json.orDefault ImageSource.ofJson? {} image =
        Json.orDefault ImageSource.ofJson? {} image' := ImageSource.codec.orDefault {} himage
      have hrender' : Json.orDefault DocumentSettings.ofJson? {} render =
        Json.orDefault DocumentSettings.ofJson? {} render' :=
        DocumentSettings.codec.orDefault {} hrender
      have hdocker' : Json.orDefault EngineSettings.ofJson? {} docker =
        Json.orDefault EngineSettings.ofJson? {} docker' :=
        EngineSettings.codec.orDefault {} hdocker
      dsimp only
      rw [himage', hrender', hdocker']

/-- Whatever the program exchanges as JSON is read back from what is written of it, and read as the
same from every other text that says the same. -/
theorem exchanges_faithful :
    Role.codec.Faithful ∧ Signal.codec.Faithful ∧ Container.codec.Faithful ∧
      Backend.codec.Faithful ∧ BackendSet.codec.Faithful ∧ ClusterSpec.codec.Faithful ∧
      Settings.codec.Faithful :=
  ⟨Role.codec.faithful, Signal.codec.faithful, Container.codec.faithful, Backend.codec.faithful,
    BackendSet.codec.faithful, ClusterSpec.codec.faithful, Settings.codec.faithful⟩

namespace Container

/-- A container with characters in its name that are escaped or need two units. -/
def odd : Container :=
  { name := "\x01\"\\😀", labels := NameMap.ofList [("", "é"), ("zone", "\n")] }

/-- The odd container, its members in another order and after a member that no field takes. -/
def oddJson : Json :=
  .object
    [(some "more", .array [.number "1e999", .string none, .object [(none, .null), (none, .null)]]),
      (some "labels", .object [(some "zone", .ofText "\n"), (some "", .ofText "é")]),
      (some "name", .ofText odd.name)]

lemma variant_oddJson : Variant codec.shape odd.toJson oddJson := by
  have hlabels : Variant .value (ofMap ofText odd.labels)
      (.object [(some "zone", .ofText "\n"), (some "", .ofText "é")]) :=
    .reordered (.swap _ _ []) (by decide)
  have hreordered : Variant codec.shape odd.toJson
      (.object [(some "labels", ofMap ofText odd.labels), (some "name", .ofText odd.name)]) :=
    .reordered (.swap _ _ []) (by decide)
  refine hreordered.trans ?_
  refine .trans (.member [] [(some "name", .ofText odd.name)] hlabels) ?_
  exact .added (by decide) _ [] _

lemma numeric_oddJson : oddJson.Numeric := by
  have hnumber : (Json.number "1e999").Numeric := .number (by decide)
  have hnulls : (Json.object [(none, .null), (none, .null)]).Numeric :=
    .object (by simp [Numeric.null])
  have hmore : (Json.array [.number "1e999", .string none,
      .object [(none, .null), (none, .null)]]).Numeric :=
    .array (by simp [hnumber, hnulls, Numeric.string])
  have hlabels : (Json.ofMembers [("zone", .ofText "\n"), ("", .ofText "é")]).Numeric :=
    numeric_ofMembers (by simp [ofText, Numeric.string])
  have hname : (ofText odd.name).Numeric := .string _
  refine .object ?_
  rw [List.forall_mem_cons, List.forall_mem_cons, List.forall_mem_singleton]
  exact ⟨hmore, hlabels, hname⟩

end Container

theorem odd_container_received :
    Container.codec.decode? (" " ++ Container.oddJson.compact) = some Container.odd := by
  obtain ⟨-, -, hcontainer, -⟩ := exchanges_faithful
  have hreceived : Container.codec.decode? Container.oddJson.compact = some Container.odd :=
    hcontainer.received Container.variant_oddJson
      (parse?_iff.1 (parse?_compact Container.numeric_oddJson))
  obtain ⟨lexemes, ts, hlexemes, hlaid⟩ := hcontainer.laid hreceived
  have hspaced : Token.Laid lexemes (" " ++ Container.oddJson.compact).toList := by
    rw [String.toList_append]
    exact .space rfl hlaid
  rw [← hcontainer.respaced hlexemes hlaid hspaced, hreceived]

end ApiBalancer
