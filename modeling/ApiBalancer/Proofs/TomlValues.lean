import ApiBalancer.Proofs.TomlConsistency
import ApiBalancer.Proofs.TomlDates
import ApiBalancer.Proofs.TomlKeys

/-!
# How values are spelled in TOML

`Spelling` is the grammar of values, with a bound on the arrays and inline tables inside each other.
In front of what may follow a value the reader accepts exactly these texts (`reads_valueTo?`). It
tries dates before floats and floats before integers, which makes no difference: no number is
spelled like a date, and no integer like a float.
-/

namespace ApiBalancer.Toml

/-- Values that hold no others. -/
inductive Scalar : List Char → Value → Prop where
  | true : Scalar "true".toList (.boolean true)
  | false : Scalar "false".toList (.boolean false)
  | text {w t : List Char} (h : Quoted w t) : Scalar w (.string (String.ofList t))
  | integer {w : List Char} {v : Value} (h : Integer w v) : Scalar w v
  | float {w : List Char} (h : Float w) : Scalar w (.float (String.ofList w))
  | dateTime {w : List Char} (h : DateTime w) : Scalar w (.dateTime (String.ofList w))

/-- What may stand around the items of an array. -/
inductive Void : List Char → Prop where
  | nil : Void []
  | blank {c : Char} {v : List Char} (hc : isBlank c) (h : Void v) : Void (c :: v)
  | line {n v : List Char} (hn : Newline n) (h : Void v) : Void (n ++ v)
  | comment {w n v : List Char} (hw : ∀ c ∈ w, isPlain c) (hn : Newline n) (h : Void v) :
      Void ('#' :: (w ++ (n ++ v)))

section Containers

variable (spells : List Char → Value → Prop)

/-- The items of an array with its closing bracket. There may be a comma after the last one. -/
inductive Items : List Char → List Value → Prop where
  | nil {v : List Char} (hv : Void v) : Items (v ++ [']']) []
  | last {v w v' : List Char} {item : Value} (hv : Void v) (hw : spells w item) (hv' : Void v') :
      Items (v ++ (w ++ (v' ++ [']']))) [item]
  | next {v w v' s : List Char} {item : Value} {items : List Value} (hv : Void v)
      (hw : spells w item) (hv' : Void v') (h : Items s items) :
      Items (v ++ (w ++ (v' ++ ',' :: s))) (item :: items)

/-- Keys with a value. -/
inductive Assignment : List Char → List String × Value → Prop where
  | mk {p b w b' : List Char} {path : List String} {value : Value} (hp : Path p path)
      (hb : Blanks b) (hw : spells w value) (hb' : Blanks b') :
      Assignment (p ++ '=' :: (b ++ (w ++ b'))) (path, value)

/-- The members of an inline table with its closing brace. -/
inductive Members : List Char → List (List String × Value) → Prop where
  | last {w : List Char} {member : List String × Value} (hw : Assignment spells w member) :
      Members (w ++ ['}']) [member]
  | next {w s : List Char} {member : List String × Value} {members : List (List String × Value)}
      (hw : Assignment spells w member) (h : Members s members) :
      Members (w ++ ',' :: s) (member :: members)

/-- An array or an inline table, whose keys say what they say as lines of a document. -/
inductive Container : List Char → Value → Prop where
  | array {s : List Char} {items : List Value} (h : Items spells s items) :
      Container ('[' :: s) (.array items)
  | empty {b : List Char} (hb : Blanks b) : Container ('{' :: (b ++ ['}'])) (.table [])
  | table {s : List Char} {members : List (List String × Value)} {value : Value}
      (h : Members spells s members)
      (hvalue : Tabled (members.map fun m => .assign m.1 m.2) value) :
      Container ('{' :: s) value

end Containers

/-- Values with at most `depth` arrays and inline tables inside each other. -/
def Spelling : (depth : Nat) → List Char → Value → Prop
  | 0, w, v => Scalar w v
  | depth + 1, w, v => Scalar w v ∨ Container (Spelling depth) w v

section Scalars

variable {w rest : List Char} {v : Value}

/-- The characters with which numbers and dates begin. -/
def IsNumeric (c : Char) : Prop := c.isDigit ∨ c ∈ ['-', '+', 'i', 'n']

lemma Sign.head {sign : List Char} {negative : Bool} (h : Sign sign negative)
    (hw : ∃ c t, w = c :: t ∧ IsNumeric c) : ∃ c t, sign ++ w = c :: t ∧ IsNumeric c := by
  cases h with
  | none => exact hw
  | plus => exact ⟨'+', w, rfl, .inr (by decide)⟩
  | minus => exact ⟨'-', w, rfl, .inr (by decide)⟩

lemma Whole.head {ds : List Char} (h : Whole w ds) (s : List Char) :
    ∃ c t, w ++ s = c :: t ∧ IsNumeric c := by
  obtain ⟨c, t, us, rfl, -, hc⟩ := h.exists_cons
  exact ⟨c, t ++ s, rfl, .inl hc⟩

lemma Integer.head (h : Integer w v) : ∃ c t, w = c :: t ∧ IsNumeric c := by
  cases h with
  | decimal hsign hwhole _ =>
    have hhead := hwhole.head []
    rw [List.append_nil] at hhead
    exact hsign.head hhead
  | based => exact ⟨'0', _, rfl, .inl rfl⟩

lemma Float.head (h : Float w) : ∃ c t, w = c :: t ∧ IsNumeric c := by
  cases h with
  | special hsign hw =>
    apply hsign.head
    obtain rfl | rfl := hw
    · exact ⟨'i', _, rfl, .inr (by decide)⟩
    · exact ⟨'n', _, rfl, .inr (by decide)⟩
  | number hsign hwhole _ _ => exact hsign.head (hwhole.head _)

lemma DateTime.head (h : DateTime w) : ∃ c t, w = c :: t ∧ IsNumeric c := by
  have hdate : ∀ d, Date d → ∀ s, ∃ c t, d ++ s = c :: t ∧ IsNumeric c := by
    rintro d ⟨hyear, -, -⟩ s
    obtain ⟨c, t, rfl, hc⟩ := hyear.exists_cons
    exact ⟨c, _, rfl, .inl hc⟩
  cases h with
  | date hd =>
    have hhead := hdate _ hd []
    rwa [List.append_nil] at hhead
  | time ht =>
    obtain ⟨c, t, rfl, hc⟩ := ht.exists_cons
    exact ⟨c, t, rfl, .inl hc⟩
  | both hd _ _ _ => exact hdate _ hd _

lemma scalar?_numeric (h : ∃ c t, w = c :: t ∧ IsNumeric c) (rest : List Char) :
    scalar? (w ++ rest) =
      ((dateTime? (w ++ rest)).or (float? (w ++ rest))).or (integer? (w ++ rest)) := by
  obtain ⟨c, t, rfl, hc⟩ := h
  have hother : c ≠ 't' ∧ c ≠ 'f' ∧ c ≠ '"' ∧ c ≠ '\'' := by
    refine ⟨?_, ?_, ?_, ?_⟩ <;> rintro rfl <;> revert hc <;> unfold IsNumeric <;> decide
  rw [List.cons_append, scalar?.eq_3 _ _ (fun _ h _ => hother.1 h) fun _ h _ => hother.2.1 h,
    if_neg (by simp [hother])]

lemma Quoted.head {t : List Char} (h : Quoted w t) :
    ∃ c u, w = c :: u ∧ (c = '"' ∨ c = '\'') := by
  cases h with
  | basic => exact ⟨_, _, rfl, .inl rfl⟩
  | literal => exact ⟨_, _, rfl, .inr rfl⟩
  | multi hq | multiLine hq => exact ⟨_, _, rfl, hq⟩

/-- What may follow a value begins with no quote. -/
lemma Ends.notFirst (h : Ends rest) : NotFirst '"' rest ∧ NotFirst '\'' rest := by
  have henders : ∀ c ∈ ' ' :: '\t' :: enders, c ≠ '"' ∧ c ≠ '\'' := by simp [enders]
  exact ⟨fun c hc => (henders c (h.head c hc)).1, fun c hc => (henders c (h.head c hc)).2⟩

/-- In front of what may follow a value, scalars are read as they are spelled. -/
theorem reads_scalar? : Reads scalar? Scalar Ends where
  sound s v rest h := by
    rw [scalar?.eq_def] at h
    split at h
    · cases h
      exact ⟨_, rfl, .true⟩
    · cases h
      exact ⟨_, rfl, .false⟩
    · split at h
      · obtain ⟨⟨t, rest'⟩, hread, hput⟩ := Option.map_eq_some_iff.1 h
        cases hput
        obtain ⟨w, hs, hw⟩ := reads_quoted?.sound _ _ _ hread
        exact ⟨w, hs, .text hw⟩
      · rw [Option.or_eq_some_iff, Option.or_eq_some_iff] at h
        obtain (hdate | ⟨-, hfloat⟩) | ⟨-, hinteger⟩ := h
        · obtain ⟨w, hs, hw, rfl⟩ := reads_dateTime?.sound _ _ _ hdate
          exact ⟨w, hs, .dateTime hw⟩
        · obtain ⟨w, hs, hw, rfl⟩ := reads_float?.sound _ _ _ hfloat
          exact ⟨w, hs, .float hw⟩
        · obtain ⟨w, hs, hw⟩ := reads_integer?.sound _ _ _ hinteger
          exact ⟨w, hs, .integer hw⟩
    · cases h
  complete w v rest h hrest := by
    cases h with
    | true => rfl
    | false => rfl
    | @text _ t h =>
      obtain ⟨c, u, hw, hc⟩ := h.head
      have hletter : c ≠ 't' ∧ c ≠ 'f' := by
        obtain rfl | rfl := hc <;> decide
      have hread := reads_quoted?.complete w t rest h hrest.notFirst
      rw [hw, List.cons_append] at hread ⊢
      rw [scalar?.eq_3 _ _ (fun _ h _ => hletter.1 h) fun _ h _ => hletter.2 h,
        if_pos (by simpa using hc), hread, Option.map_some]
    | integer h =>
      rw [scalar?_numeric h.head, dateTime?_eq_none (h.not_dated hrest), h.float?_eq_none hrest,
        reads_integer?.complete _ _ _ h hrest, Option.none_or, Option.none_or]
    | float h =>
      rw [scalar?_numeric h.head, dateTime?_eq_none (h.not_dated rest),
        reads_float?.complete _ _ _ ⟨h, rfl⟩ hrest, Option.none_or, Option.some_or]
    | dateTime h =>
      rw [scalar?_numeric h.head, reads_dateTime?.complete _ _ _ ⟨h, rfl⟩ hrest, Option.some_or,
        Option.some_or]

/-- A scalar begins with no bracket, no white space and nothing that ends a value. -/
lemma Scalar.head (h : Scalar w v) :
    ∃ c t, w = c :: t ∧ c ∉ '[' :: '{' :: ' ' :: '\t' :: enders := by
  have hnumeric : ∀ c, IsNumeric c → c ∉ '[' :: '{' :: ' ' :: '\t' :: enders := by
    intro c hc hmem
    have hother : ∀ c ∈ '[' :: '{' :: ' ' :: '\t' :: enders,
        ¬(c.isDigit ∨ c ∈ ['-', '+', 'i', 'n']) := by
      simp [enders]
    exact hother c hmem hc
  have hhead : (∃ c t, w = c :: t ∧ IsNumeric c) →
      ∃ c t, w = c :: t ∧ c ∉ '[' :: '{' :: ' ' :: '\t' :: enders := by
    rintro ⟨c, t, hw, hc⟩
    exact ⟨c, t, hw, hnumeric c hc⟩
  cases h with
  | true => exact ⟨'t', _, rfl, by decide⟩
  | false => exact ⟨'f', _, rfl, by decide⟩
  | text h =>
    obtain ⟨c, u, hw, hc⟩ := h.head
    refine ⟨c, u, hw, ?_⟩
    obtain rfl | rfl := hc <;> decide
  | integer h => exact hhead h.head
  | float h => exact hhead h.head
  | dateTime h => exact hhead h.head

end Scalars

section Arrays

variable {s v w rest : List Char} {items : List Value}

/-- Whether nothing stands in front that may be left out between items. -/
def Solid (s : List Char) : Prop := ∀ c ∈ s.head?, c ∉ [' ', '\t', '\n', '\r', '#']

lemma solid_cons {c : Char} (hc : c ∉ [' ', '\t', '\n', '\r', '#']) (s : List Char) :
    Solid (c :: s) := by
  intro d hd
  cases hd
  exact hc

/-- What is left out in front of a text, or behind the beginning of a comment. -/
lemma skipVoid?_sound {inComment : Bool} (h : skipVoid? inComment s = some rest) :
    Solid rest ∧ ∃ w v, s = w ++ (v ++ rest) ∧ Void v ∧ (∀ c ∈ w, isPlain c) ∧
      (inComment = false → w = []) ∧
      (inComment = true → ∃ n v', Newline n ∧ v = n ++ v' ∧ Void v') := by
  fun_induction skipVoid? inComment s generalizing rest with
  | case1 => cases h
  | case2 inComment hin =>
    cases h
    exact ⟨fun c hc => (by cases hc), [], [], rfl, .nil, by simp, fun _ => rfl,
      fun h => absurd h hin⟩
  | case3 inComment s ih =>
    obtain ⟨hsolid, w, v, rfl, hv, -, hw, -⟩ := ih h
    obtain rfl := hw rfl
    exact ⟨hsolid, [], '\r' :: '\n' :: v, rfl, .line .returnFeed hv, by simp, fun _ => rfl,
      fun _ => ⟨_, v, .returnFeed, rfl, hv⟩⟩
  | case4 inComment s _ ih =>
    obtain ⟨hsolid, w, v, rfl, hv, -, hw, -⟩ := ih h
    obtain rfl := hw rfl
    exact ⟨hsolid, [], '\n' :: v, rfl, .line .feed hv, by simp, fun _ => rfl,
      fun _ => ⟨_, v, .feed, rfl, hv⟩⟩
  | case5 c s _ _ hplain ih =>
    obtain ⟨hsolid, w, v, rfl, hv, hw, -, hline⟩ := ih h
    exact ⟨hsolid, c :: w, v, rfl, hv, List.forall_mem_cons.2 ⟨hplain, hw⟩, nofun,
      fun _ => hline rfl⟩
  | case6 => cases h
  | case7 inComment c s _ _ hin hblank ih =>
    obtain ⟨hsolid, w, v, rfl, hv, -, hw, -⟩ := ih h
    obtain rfl := hw rfl
    exact ⟨hsolid, [], c :: v, rfl, .blank hblank hv, by simp, fun _ => rfl,
      fun h => absurd h hin⟩
  | case8 inComment s hin _ _ _ ih =>
    obtain ⟨hsolid, w, v, rfl, -, hw, -, hline⟩ := ih h
    obtain ⟨n, v', hn, rfl, hv'⟩ := hline rfl
    exact ⟨hsolid, [], '#' :: (w ++ (n ++ v')), by simp, .comment hw hn hv', by simp,
      fun _ => rfl, fun h => absurd h hin⟩
  | case9 => cases h
  | case10 inComment c s _ hfeed hin hblank hhash hreturn =>
    cases h
    refine ⟨?_, [], [], rfl, .nil, by simp, fun _ => rfl, fun h => absurd h hin⟩
    apply solid_cons
    simp only [isBlank, Bool.or_eq_true, decide_eq_true_eq, not_or] at hblank
    simp [hblank, hfeed, hhash, hreturn]

lemma skipVoid?_line {n : List Char} (hn : Newline n) (inComment : Bool) (s : List Char) :
    skipVoid? inComment (n ++ s) = skipVoid? false s := by
  cases hn with
  | feed => cases inComment <;> rfl
  | returnFeed => rfl

lemma skipVoid?_comment (hw : ∀ c ∈ w, isPlain c) {n : List Char} (hn : Newline n)
    (s : List Char) : skipVoid? true (w ++ (n ++ s)) = skipVoid? false s := by
  induction w with
  | nil => exact skipVoid?_line hn true s
  | cons c w ih =>
    obtain ⟨hc, hw⟩ := List.forall_mem_cons.1 hw
    have hend : c ≠ '\n' ∧ c ≠ '\r' := by
      constructor <;> rintro rfl <;> cases hc
    rw [List.cons_append, skipVoid?.eq_3 _ _ _ fun _ h _ => hend.2 h, if_neg hend.1, if_pos rfl,
      if_pos hc, ih hw]

lemma skipVoid?_complete (hv : Void v) (hrest : Solid rest) :
    skipVoid? false (v ++ rest) = some rest := by
  induction hv with
  | nil =>
    cases rest with
    | nil => rfl
    | cons c rest =>
      have hc := hrest c rfl
      simp only [List.mem_cons, List.not_mem_nil, or_false, not_or] at hc
      rw [List.nil_append, skipVoid?.eq_3 _ _ _ fun _ h _ => hc.2.2.2.1 h]
      simp [isBlank, hc]
  | @blank c v hc _ ih =>
    obtain rfl | rfl := isBlank_iff.1 hc <;> exact ih
  | line hn _ ih => rw [List.append_assoc, skipVoid?_line hn, ih]
  | @comment w n v hw hn _ ih =>
    have hassoc : '#' :: (w ++ (n ++ v)) ++ rest = '#' :: (w ++ (n ++ (v ++ rest))) := by simp
    have hstart : ∀ s, skipVoid? false ('#' :: s) = skipVoid? true s := by
      intro s
      rw [skipVoid?.eq_3 _ _ _ fun _ h _ => absurd h (by decide)]
      rfl
    rw [hassoc, hstart, skipVoid?_comment hw hn, ih]

lemma enders_isBlank : ∀ c ∈ enders, isBlank c = false := by
  simp [enders, isBlank]

/-- Between items stands what may follow a value. -/
lemma Void.ends (hv : Void v) {c : Char} (hc : c ∈ enders) (s : List Char) :
    Ends (v ++ c :: s) := by
  have hender : ∀ c ∈ enders, ∀ s, Ends (c :: s) := by
    intro c hc s d hd
    rw [skipBlanks_cons (enders_isBlank c hc)] at hd
    cases hd
    exact hc
  induction hv with
  | nil => exact hender c hc s
  | blank hc' _ ih =>
    intro d hd
    rw [List.cons_append, skipBlanks, List.dropWhile_cons, if_pos hc'] at hd
    exact ih d hd
  | line hn _ _ =>
    cases hn with
    | feed => exact hender '\n' (by decide) _
    | returnFeed => exact hender '\r' (by decide) _
  | comment _ _ _ _ => exact hender '#' (by decide) _

/-- Values that begin with no white space and with nothing that ends a value. -/
def Headed (spells : List Char → Value → Prop) : Prop :=
  ∀ w v, spells w v → ∃ c t, w = c :: t ∧ c ∉ ' ' :: '\t' :: enders

variable {item? : List Char → Option (Value × List Char)} {spells : List Char → Value → Prop}

lemma solid_of_head {c : Char} (hc : c ∉ ' ' :: '\t' :: enders) (s : List Char) :
    Solid (c :: s) := by
  apply solid_cons
  intro hmem
  have hsub : ∀ c ∈ [' ', '\t', '\n', '\r', '#'], c ∈ ' ' :: '\t' :: enders := by
    simp [enders]
  exact hc (hsub c hmem)

lemma items?_sound (hitem : Reads item? spells Ends) (h : items? item? s = some (items, rest)) :
    ∃ w, s = w ++ rest ∧ Items spells w items := by
  induction hn : s.length using Nat.strong_induction_on generalizing s items rest with
  | _ n ih =>
    rw [items?] at h
    obtain ⟨s₁, hvoid, hnext⟩ := Option.bind_eq_some_iff.1 h
    obtain ⟨-, w₁, v, rfl, hv, -, hw₁, -⟩ := skipVoid?_sound hvoid
    obtain rfl := hw₁ rfl
    dsimp only at hnext
    split at hnext
    · cases hnext
      exact ⟨v ++ [']'], by simp, .nil hv⟩
    · obtain ⟨⟨item, s₂⟩, hread, hafter⟩ := Option.bind_eq_some_iff.1 hnext
      obtain ⟨s₃, hvoid', hlast⟩ := Option.bind_eq_some_iff.1 hafter
      obtain ⟨w, rfl, hw⟩ := hitem.sound _ _ _ hread
      obtain ⟨-, w₂, v', hs₂, hv', -, hw₂, -⟩ := skipVoid?_sound hvoid'
      obtain rfl := hw₂ rfl
      rw [List.nil_append] at hs₂
      subst hs₂
      dsimp only at hlast
      split at hlast
      · next rest' =>
        split at hlast
        · next hshorter =>
          obtain ⟨⟨items', rest''⟩, hrest, hput⟩ := Option.map_eq_some_iff.1 hlast
          cases hput
          obtain ⟨s', rfl, hs'⟩ := ih _ (hn ▸ hshorter) hrest rfl
          exact ⟨v ++ (w ++ (v' ++ ',' :: s')), by simp, .next hv hw hv' hs'⟩
        · cases hlast
      · cases hlast
        exact ⟨v ++ (w ++ (v' ++ [']'])), by simp, .last hv hw hv'⟩
      · cases hlast

/-- An item in front of what comes next in an array. -/
lemma items?_item (hitem : Reads item? spells Ends) (hheaded : Headed spells) {v v' : List Char}
    {item : Value} (hv : Void v) (hw : spells w item) (hv' : Void v') {c : Char}
    (hc : c = ',' ∨ c = ']') (s : List Char) :
    items? item? (v ++ (w ++ (v' ++ c :: s))) =
      if c = ',' then (items? item? s).map fun r => (item :: r.1, r.2) else some ([item], s) := by
  obtain ⟨d, t, rfl, hd⟩ := hheaded w item hw
  have hclose : d ≠ ']' := by
    rintro rfl
    exact hd (by decide)
  have hender : c ∈ enders := by
    obtain rfl | rfl := hc <;> decide
  have hsolid : Solid (c :: s) := by
    apply solid_cons
    obtain rfl | rfl := hc <;> decide
  have hread := hitem.complete _ item (v' ++ c :: s) hw (hv'.ends hender s)
  rw [List.cons_append] at hread ⊢
  rw [items?, skipVoid?_complete hv (solid_of_head hd _)]
  simp only [Option.bind_eq_bind, Option.bind_some]
  split
  · next heq => exact absurd (List.head_eq_of_cons_eq heq) hclose
  · simp only [hread, Option.bind_some, skipVoid?_complete hv' hsolid]
    obtain rfl | rfl := hc
    · have hshorter : s.length < (v ++ d :: (t ++ (v' ++ ',' :: s))).length := by
        simp only [List.length_append, List.length_cons]
        omega
      simp only [dif_pos hshorter, if_true]
    · rfl

lemma items?_complete (hitem : Reads item? spells Ends) (hheaded : Headed spells)
    (h : Items spells w items) (rest : List Char) :
    items? item? (w ++ rest) = some (items, rest) := by
  induction h with
  | @nil v hv =>
    rw [List.append_assoc, List.singleton_append, items?,
      skipVoid?_complete hv (solid_cons (by decide) rest)]
    rfl
  | @last v w v' item hv hw hv' =>
    have hassoc : v ++ (w ++ (v' ++ [']'])) ++ rest = v ++ (w ++ (v' ++ ']' :: rest)) := by simp
    rw [hassoc, items?_item hitem hheaded hv hw hv' (.inr rfl), if_neg (by decide)]
  | @next v w v' s item items hv hw hv' _ ih =>
    have hassoc : v ++ (w ++ (v' ++ ',' :: s)) ++ rest =
        v ++ (w ++ (v' ++ ',' :: (s ++ rest))) := by
      simp
    rw [hassoc, items?_item hitem hheaded hv hw hv' (.inl rfl), if_pos rfl, ih]
    rfl

end Arrays

/-! ### Inline tables -/

section Tables

variable {s b w rest : List Char} {m : List String × Value} {ms : List (List String × Value)}
  {v : Value} {read? : List Char → Option (Value × List Char)} {spells : List Char → Value → Prop}

/-- What may follow a value without blanks between. -/
def EndsMember (rest : List Char) : Prop := ∀ c ∈ rest.head?, c ∈ enders

lemma EndsMember.skipBlanks (h : EndsMember rest) : skipBlanks rest = rest := by
  cases rest with
  | nil => rfl
  | cons c rest =>
    exact skipBlanks_cons (enders_isBlank c (h c rfl)) rest

lemma endsMember_cons {c : Char} (hc : c ∈ enders) (s : List Char) : EndsMember (c :: s) := by
  intro d hd
  cases hd
  exact hc

/-- The characters with which values begin are no blanks. -/
lemma Headed.skipBlanks (hheaded : Headed spells) (hw : spells w v) (s : List Char) :
    skipBlanks (w ++ s) = w ++ s := by
  obtain ⟨c, t, rfl, hc⟩ := hheaded w v hw
  simp only [List.mem_cons, not_or] at hc
  exact skipBlanks_cons (by simp [isBlank, hc]) _

lemma reads_member? (hread : Reads read? spells Ends) (hheaded : Headed spells) :
    Reads (member? read?) (Assignment spells) EndsMember where
  sound s m rest h := by
    obtain ⟨⟨path, s₁⟩, hpath, hnext⟩ := Option.bind_eq_some_iff.1 h
    obtain ⟨p, rfl, hp⟩ := reads_path?.sound _ _ _ hpath
    dsimp only at hnext
    split at hnext
    · next s₂ =>
      obtain ⟨⟨v, s₃⟩, hvalue, hlast⟩ := Option.bind_eq_some_iff.1 hnext
      cases hlast
      obtain ⟨w, hs₂, hw⟩ := hread.sound _ _ _ hvalue
      obtain ⟨b, hb, hblanks⟩ := exists_blanks s₂
      obtain ⟨b', hb', hblanks'⟩ := exists_blanks s₃
      have hall : s₂ = b ++ (w ++ (b' ++ skipBlanks s₃)) := by rw [← hb', ← hs₂, ← hb]
      refine ⟨p ++ '=' :: (b ++ (w ++ b')), ?_, .mk hp hblanks hw hblanks'⟩
      rw [hall]
      simp
    · cases hnext
  complete w m rest h hrest := by
    obtain @⟨p, b, w, b', path, value, hp, hb, hw, hb'⟩ := h
    have hassoc : p ++ '=' :: (b ++ (w ++ b')) ++ rest =
        p ++ '=' :: (b ++ (w ++ (b' ++ rest))) := by
      simp
    have hskip : skipBlanks (b' ++ rest) = rest := by rw [skipBlanks_append hb', hrest.skipBlanks]
    have hends : Ends (b' ++ rest) := by
      rw [Ends, hskip]
      exact hrest
    have hpath := reads_path?.complete p path ('=' :: (b ++ (w ++ (b' ++ rest)))) hp
      ⟨_, _, rfl, .inl rfl⟩
    rw [hassoc, member?, hpath]
    simp only [Option.bind_eq_bind, Option.bind_some, skipBlanks_append hb, hheaded.skipBlanks hw,
      hread.complete w value (b' ++ rest) hw hends, hskip]

lemma members?_sound (hread : Reads read? spells Ends) (hheaded : Headed spells)
    (h : members? read? s = some (ms, rest)) : ∃ w, s = w ++ rest ∧ Members spells w ms := by
  induction hn : s.length using Nat.strong_induction_on generalizing s ms rest with
  | _ n ih =>
    rw [members?] at h
    obtain ⟨⟨m, s₁⟩, hmember, hnext⟩ := Option.bind_eq_some_iff.1 h
    obtain ⟨w, rfl, hw⟩ := (reads_member? hread hheaded).sound _ _ _ hmember
    dsimp only at hnext
    split at hnext
    · split at hnext
      · next hshorter =>
        obtain ⟨⟨ms', rest'⟩, hrest, hput⟩ := Option.map_eq_some_iff.1 hnext
        cases hput
        obtain ⟨s', rfl, hs'⟩ := ih _ (hn ▸ hshorter) hrest rfl
        exact ⟨w ++ ',' :: s', by simp, .next hw hs'⟩
      · cases hnext
    · cases hnext
      exact ⟨w ++ ['}'], by simp, .last hw⟩
    · cases hnext

lemma members?_complete (hread : Reads read? spells Ends) (hheaded : Headed spells)
    (h : Members spells w ms) (rest : List Char) :
    members? read? (w ++ rest) = some (ms, rest) := by
  induction h with
  | @last w m hw =>
    have hmember := (reads_member? hread hheaded).complete w m ('}' :: rest) hw
      (endsMember_cons (by decide) rest)
    rw [List.append_assoc, List.singleton_append, members?, hmember]
    rfl
  | @next w s m ms hw _ ih =>
    have hmember := (reads_member? hread hheaded).complete w m (',' :: (s ++ rest)) hw
      (endsMember_cons (by decide) _)
    have hshorter : (s ++ rest).length < (w ++ ',' :: (s ++ rest)).length := by
      simp only [List.length_append, List.length_cons]
      omega
    rw [List.append_assoc, List.cons_append, members?, hmember]
    simp only [Option.bind_eq_bind, Option.bind_some, dif_pos hshorter, ih, Option.map_some]

lemma Assignment.blanks_append (hb : Blanks b) (h : Assignment spells w m) :
    Assignment spells (b ++ w) m := by
  obtain ⟨hp, hb', hw, hb''⟩ := h
  rw [← List.append_assoc]
  exact .mk ⟨hp.1.blanks_append hb, hp.2⟩ hb' hw hb''

/-- Blanks in front of a key with a value can be told apart from it. -/
lemma Assignment.exists_blanks (h : Assignment spells w m) :
    ∃ b c t, w = b ++ c :: t ∧ Blanks b ∧ IsKeyStart c ∧ Assignment spells (c :: t) m := by
  obtain @⟨p, b, w, b', path, value, hp, hb, hw, hb'⟩ := h
  obtain ⟨b₀, c, t, rfl, hb₀, hc, hkeys⟩ := hp.1.exists_blanks
  exact ⟨b₀, c, t ++ '=' :: (b ++ (w ++ b')), by simp, hb₀, hc, .mk ⟨hkeys, hp.2⟩ hb hw hb'⟩

lemma Members.blanks_append (hb : Blanks b) (h : Members spells w ms) :
    Members spells (b ++ w) ms := by
  cases h with
  | last hw =>
    rw [← List.append_assoc]
    exact .last (hw.blanks_append hb)
  | next hw h =>
    rw [← List.append_assoc]
    exact .next (hw.blanks_append hb) h

lemma Members.exists_blanks (h : Members spells w ms) :
    ∃ b c t, w = b ++ c :: t ∧ Blanks b ∧ IsKeyStart c ∧ Members spells (c :: t) ms := by
  cases h with
  | last hw =>
    obtain ⟨b, c, t, rfl, hb, hc, hw'⟩ := hw.exists_blanks
    exact ⟨b, c, t ++ ['}'], by simp, hb, hc, .last hw'⟩
  | @next w s m ms hw h =>
    obtain ⟨b, c, t, rfl, hb, hc, hw'⟩ := hw.exists_blanks
    exact ⟨b, c, t ++ ',' :: s, by simp, hb, hc, .next hw' h⟩

lemma inlineTable?_sound (hread : Reads read? spells Ends) (hheaded : Headed spells)
    (h : inlineTable? read? s = some (v, rest)) :
    ∃ w, s = w ++ rest ∧ Container spells ('{' :: w) v := by
  obtain ⟨b, hs, hb⟩ := exists_blanks s
  rw [inlineTable?] at h
  split at h
  · next heq =>
    cases h
    exact ⟨b ++ ['}'], by rw [hs, heq]; simp, .empty hb⟩
  · obtain ⟨⟨ms, rest'⟩, hmembers, hnext⟩ := Option.bind_eq_some_iff.1 h
    obtain ⟨v', hvalue, hpure⟩ := Option.bind_eq_some_iff.1 hnext
    cases hpure
    obtain ⟨w, hw, hms⟩ := members?_sound hread hheaded hmembers
    exact ⟨b ++ w, by rw [hs, hw, List.append_assoc],
      .table (hms.blanks_append hb) (tableOf?_iff.1 hvalue)⟩

lemma inlineTable?_empty (hb : Blanks b) (rest : List Char) :
    inlineTable? read? (b ++ '}' :: rest) = some (.table [], rest) := by
  have hskip : skipBlanks (b ++ '}' :: rest) = '}' :: rest := by
    rw [skipBlanks_append hb, skipBlanks_cons (by decide)]
  rw [inlineTable?, hskip]
  rfl

lemma inlineTable?_members (hread : Reads read? spells Ends) (hheaded : Headed spells)
    (h : Members spells w ms) (hvalue : tableOf? ms = some v) (rest : List Char) :
    inlineTable? read? (w ++ rest) = some (v, rest) := by
  obtain ⟨b, c, t, rfl, hb, hc, hms⟩ := h.exists_blanks
  have hskip : skipBlanks (b ++ c :: t ++ rest) = c :: (t ++ rest) := by
    rw [List.append_assoc, skipBlanks_append hb, List.cons_append, skipBlanks_cons hc.not_isBlank]
  have hmembers := members?_complete hread hheaded hms rest
  rw [List.cons_append] at hmembers
  rw [inlineTable?, hskip]
  split
  · next heq =>
    rw [List.head_eq_of_cons_eq heq] at hc
    exact absurd (by decide) hc.not_mem
  · rw [hmembers]
    simp only [Option.bind_eq_bind, Option.bind_some, hvalue]
    rfl

end Tables

lemma headed_spelling (depth : Nat) : Headed (Spelling depth) := by
  have hscalar : ∀ w v, Scalar w v → ∃ c t, w = c :: t ∧ c ∉ ' ' :: '\t' :: enders := by
    intro w v h
    obtain ⟨c, t, hw, hc⟩ := h.head
    exact ⟨c, t, hw, fun hmem => hc (List.mem_cons_of_mem _ (List.mem_cons_of_mem _ hmem))⟩
  intro w v h
  cases depth with
  | zero => exact hscalar w v h
  | succ depth =>
    obtain h | h := h
    · exact hscalar w v h
    · cases h with
      | array _ => exact ⟨'[', _, rfl, by decide⟩
      | empty _ | table _ _ => exact ⟨'{', _, rfl, by decide⟩

lemma valueTo?_scalar {w : List Char} {v : Value} (h : Scalar w v) (depth : Nat)
    (rest : List Char) : valueTo? depth (w ++ rest) = scalar? (w ++ rest) := by
  obtain ⟨c, t, rfl, hc⟩ := h.head
  simp only [List.mem_cons, not_or] at hc
  apply valueTo?.eq_5
  · exact fun _ _ heq => hc.1 (List.head_eq_of_cons_eq heq)
  · exact fun _ _ heq => hc.2.1 (List.head_eq_of_cons_eq heq)
  · exact fun _ _ _ heq => hc.1 (List.head_eq_of_cons_eq heq)
  · exact fun _ _ _ heq => hc.2.1 (List.head_eq_of_cons_eq heq)

/-- In front of what may follow a value, values are read as they are spelled. -/
theorem reads_valueTo? (depth : Nat) : Reads (valueTo? depth) (Spelling depth) Ends := by
  induction depth with
  | zero =>
    constructor
    · intro s v rest h
      rw [valueTo?.eq_def] at h
      split at h
      · cases h
      · cases h
      · next _ heq => cases heq
      · next _ heq => cases heq
      · exact reads_scalar?.sound _ _ _ h
    · intro w v rest h hrest
      rw [valueTo?_scalar h]
      exact reads_scalar?.complete w v rest h hrest
  | succ depth ih =>
    have hheaded := headed_spelling depth
    constructor
    · intro s v rest h
      rw [valueTo?.eq_def] at h
      split at h
      · next _ heq => cases heq
      · next _ heq => cases heq
      · next heq =>
        cases heq
        obtain ⟨⟨items, rest'⟩, hitems, hput⟩ := Option.map_eq_some_iff.1 h
        cases hput
        obtain ⟨w, rfl, hw⟩ := items?_sound ih hitems
        exact ⟨'[' :: w, rfl, .inr (.array hw)⟩
      · next heq =>
        cases heq
        obtain ⟨w, rfl, hw⟩ := inlineTable?_sound ih hheaded h
        exact ⟨'{' :: w, rfl, .inr hw⟩
      · obtain ⟨w, hs, hw⟩ := reads_scalar?.sound _ _ _ h
        exact ⟨w, hs, .inl hw⟩
    · intro w v rest h hrest
      obtain h | h := h
      · rw [valueTo?_scalar h]
        exact reads_scalar?.complete w v rest h hrest
      · cases h with
        | array h =>
          rw [List.cons_append, valueTo?.eq_3, items?_complete ih hheaded h]
          rfl
        | empty hb =>
          rw [List.cons_append, List.append_assoc, valueTo?.eq_4]
          exact inlineTable?_empty hb rest
        | table h hvalue =>
          rw [List.cons_append, valueTo?.eq_4]
          exact inlineTable?_members ih hheaded h (tableOf?_iff.2 hvalue) rest

end ApiBalancer.Toml
