import ApiBalancer.Proofs.TextLines
import ApiBalancer.Proofs.TomlStrings
import ApiBalancer.Text.Blank
import ApiBalancer.Toml.Reader

/-!
# Written TOML tables are read back

A document that is written as tables with bare names denotes these tables (`parse?_tables`). Each
line says one thing, whatever comes after it (`Says`), so the lines of a document say one thing
after another (`Document`), and what they say makes the tables (`ofStatements?_tables`).
-/

namespace ApiBalancer.Toml

variable {key name line spelling : String} {rest : List Char} {value : Value}

/-- Whether a key can be written as it is. -/
def Bare (key : String) : Prop := key.toList ≠ [] ∧ ∀ c ∈ key.toList, isBare c

instance (key : String) : Decidable (Bare key) :=
  @instDecidableAnd _ _ _ (List.decidableBAll _ _)

/-- Whether a text at the end of a line is read as a value, after any blanks. -/
def Spells (spelling : String) (value : Value) : Prop :=
  ∀ rest, value? (skipBlanks (spelling.toList ++ '\n' :: rest)) = some (value, '\n' :: rest)

/-- What a line says, whatever comes after it. -/
def Says (line : String) (statement : Option Statement) : Prop :=
  ∀ rest, line? (line.toList ++ '\n' :: rest) = some (statement, rest)

lemma skipBlanks_cons {c : Char} (h : isBlank c = false) (rest : List Char) :
    skipBlanks (c :: rest) = c :: rest := by
  rw [skipBlanks, List.dropWhile_cons, h]
  rfl

/-- A bare key begins with a character that has no other meaning. -/
lemma Bare.exists_cons (h : Bare key) :
    ∃ c cs, key.toList = c :: cs ∧ isBlank c = false ∧
      c ∉ ['"', '\'', '[', '#', '\r', '\n'] := by
  obtain ⟨hne, hall⟩ := h
  obtain ⟨c, cs, hkey⟩ := List.exists_cons_of_ne_nil hne
  have hbare : isBare c = true := hall c (by rw [hkey]; exact List.mem_cons_self)
  have hother : ∀ d : Char, isBare d = false → c ≠ d := by
    rintro d hd rfl
    rw [hbare] at hd
    cases hd
  refine ⟨c, cs, hkey, ?_, ?_⟩
  · simp [isBlank, hother ' ' (by decide), hother '\t' (by decide)]
  · simp [hother '"' (by decide), hother '\'' (by decide), hother '[' (by decide),
      hother '#' (by decide), hother '\r' (by decide), hother '\n' (by decide)]

lemma key?_bare {c : Char} (hkey : Bare key) (hc : isBare c = false) (rest : List Char) :
    key? (key.toList ++ c :: rest) = some (key, c :: rest) := by
  obtain ⟨d, ds, hcons, -, hother⟩ := hkey.exists_cons
  have htake : (key.toList ++ c :: rest).takeWhile isBare = key.toList := by
    rw [List.takeWhile_append_of_pos hkey.2, List.takeWhile_cons, hc, if_neg Bool.false_ne_true,
      List.append_nil]
  have hdrop : (key.toList ++ c :: rest).dropWhile isBare = c :: rest := by
    rw [List.dropWhile_append_of_pos hkey.2, List.dropWhile_cons, hc, if_neg Bool.false_ne_true]
  have hne : key.toList.isEmpty = false := by rw [hcons, List.isEmpty_cons]
  rw [key?.eq_3, htake, hdrop, hne, String.ofList_toList]
  · rfl
  · intro others h
    rw [hcons] at h
    exact hother (by rw [List.head_eq_of_cons_eq h]; decide)
  · intro others h
    rw [hcons] at h
    exact hother (by rw [List.head_eq_of_cons_eq h]; decide)

/-- A bare key in front of anything but a dot is a whole path. -/
lemma path?_bare {c d : Char} {others : List Char} (hkey : Bare key) (hc : isBare c = false)
    (hnext : skipBlanks (c :: rest) = d :: others) (hd : d ≠ '.') :
    path? (key.toList ++ c :: rest) = some ([key], d :: others) := by
  obtain ⟨k, ks, hcons, hblank, -⟩ := hkey.exists_cons
  have hfirst : skipBlanks (key.toList ++ c :: rest) = key.toList ++ c :: rest := by
    rw [hcons]
    exact skipBlanks_cons hblank _
  have hkeys : keys? (key.toList ++ c :: rest) = some ([key], d :: others) := by
    rw [keys?, hfirst, key?_bare hkey hc]
    simp only [Option.bind_eq_bind, Option.bind_some, hnext]
    split
    · next h => exact absurd (List.head_eq_of_cons_eq h) hd
    · rfl
  rw [path?, hkeys]
  rfl

lemma says_of_statement? {line : String} {statement : Option Statement}
    (hblank : ∀ rest, skipBlanks (line.toList ++ '\n' :: rest) = line.toList ++ '\n' :: rest)
    (h : ∀ rest, statement? (line.toList ++ '\n' :: rest) = some (statement, '\n' :: rest)) :
    Says line statement := by
  intro rest
  rw [line?, hblank, h]
  rfl

lemma says_empty : Says "" none := fun _ => rfl

/-- The header of a table. -/
lemma says_header (hname : Bare name) : Says ("[" ++ name ++ "]") (some (.table [name])) := by
  have hchars : ∀ rest, ("[" ++ name ++ "]").toList ++ '\n' :: rest =
      '[' :: (name.toList ++ ']' :: '\n' :: rest) := by
    intro rest
    simp
  apply says_of_statement?
  · intro rest
    rw [hchars]
    rfl
  · intro rest
    obtain ⟨c, cs, hcons, -, hother⟩ := hname.exists_cons
    have hpath : path? (name.toList ++ ']' :: '\n' :: rest) = some ([name], ']' :: '\n' :: rest) :=
      path?_bare hname (by decide) (skipBlanks_cons (by decide) _) (by decide)
    rw [hchars, statement?.eq_2, header?, hpath]
    · rfl
    · intro others h
      rw [hcons] at h
      exact hother (by rw [List.head_eq_of_cons_eq h]; decide)

/-- A key with its value. -/
lemma says_assign (hkey : Bare key) (hspells : Spells spelling value) :
    Says (key ++ " = " ++ spelling) (some (.assign [key] value)) := by
  obtain ⟨c, cs, hcons, hblank, hother⟩ := hkey.exists_cons
  have hchars : ∀ rest, (key ++ " = " ++ spelling).toList ++ '\n' :: rest =
      key.toList ++ ' ' :: '=' :: ' ' :: (spelling.toList ++ '\n' :: rest) := by
    intro rest
    simp
  apply says_of_statement?
  · intro rest
    rw [hchars, hcons]
    exact skipBlanks_cons hblank _
  · intro rest
    have hpath : path? (key.toList ++ ' ' :: '=' :: ' ' :: (spelling.toList ++ '\n' :: rest)) =
        some ([key], '=' :: ' ' :: (spelling.toList ++ '\n' :: rest)) :=
      path?_bare hkey (by decide) rfl (by decide)
    have hvalue : value? (skipBlanks (' ' :: (spelling.toList ++ '\n' :: rest))) =
        some (value, '\n' :: rest) := hspells rest
    have hmember : member? value?
        (key.toList ++ ' ' :: '=' :: ' ' :: (spelling.toList ++ '\n' :: rest)) =
          some (([key], value), '\n' :: rest) := by
      rw [member?, hpath]
      simp only [Option.bind_eq_bind, Option.bind_some, hvalue]
      rfl
    have hnot : ∀ d ∈ ['"', '\'', '[', '#', '\r', '\n'], ∀ others,
        key.toList ++ ' ' :: '=' :: ' ' :: (spelling.toList ++ '\n' :: rest) ≠ d :: others := by
      rintro d hd others h
      rw [hcons] at h
      exact hother (List.head_eq_of_cons_eq h ▸ hd)
    rw [hchars, statement?.eq_7, hmember]
    · rfl
    · exact fun others => hnot '[' (by decide) _
    · exact hnot '[' (by decide)
    · rw [hcons]
      exact List.cons_ne_nil c _
    · exact hnot '#' (by decide)
    · exact hnot '\r' (by decide)
    · exact hnot '\n' (by decide)

lemma written_notBlank (s : String) (rest : List Char) :
    skipBlanks ((written s).toList ++ rest) = (written s).toList ++ rest := by
  rw [written, String.toList_ofList]
  cases style s.toList <;> exact skipBlanks_cons (by decide) _

/-- A value that begins with a quote is a string. -/
lemma value?_quoted {c : Char} {s : List Char} (hc : c = '"' ∨ c = '\'') :
    value? (c :: s) = (quoted? (c :: s)).map fun r => (.string (String.ofList r.1), r.2) := by
  rcases hc with rfl | rfl <;> rfl

lemma spells_written (s : String) : Spells (written s) (.string s) := by
  intro rest
  have hread := quoted?_inStyle s.toList (notFirst_cons (by decide) rest)
    (notFirst_cons (q := '\'') (c := '\n') (by decide) rest)
  have hquote : ∃ c cs, inStyle s.toList (style s.toList) ++ '\n' :: rest = c :: cs ∧
      (c = '"' ∨ c = '\'') := by
    cases style s.toList with
    | basic | multiBasic => exact ⟨_, _, rfl, .inl rfl⟩
    | literal | multiLiteral => exact ⟨_, _, rfl, .inr rfl⟩
  obtain ⟨c, cs, hcons, hc⟩ := hquote
  rw [written_notBlank, written, String.toList_ofList, hcons, value?_quoted hc, ← hcons, hread,
    Option.map_some, String.ofList_toList]

lemma spells_writtenBool (b : Bool) : Spells (writtenBool b) (.boolean b) := by
  intro rest
  cases b <;> rfl

/-! ### Documents -/

/-- What some lines say one after another, whatever comes after them. -/
def Document (lines : List String) (statements : List Statement) : Prop :=
  ∀ rest, statements? ((Text.unlines lines).toList ++ rest) =
    (statements? rest).map (statements ++ ·)

lemma document_nil : Document [] [] := by
  intro rest
  change statements? rest = (statements? rest).map fun statements => statements
  rw [Option.map_id']

lemma Document.cons {statement : Option Statement} {lines : List String}
    {statements : List Statement} (h : Says line statement) (hlines : Document lines statements) :
    Document (line :: lines) (statement.toList ++ statements) := by
  intro rest
  have hshorter : ((Text.unlines lines).toList ++ rest).length <
      (line.toList ++ '\n' :: ((Text.unlines lines).toList ++ rest)).length := by
    simp only [List.length_append, List.length_cons]
    omega
  have hsome : (line.toList ++ '\n' :: ((Text.unlines lines).toList ++ rest)).isEmpty = false := by
    simp
  rw [Text.unlines_cons, List.append_assoc, List.cons_append, statements?, hsome, h]
  simp only [Bool.false_eq_true, if_false, Option.bind_eq_bind, Option.bind_some, dif_pos hshorter]
  rw [hlines rest, Option.map_map]
  congr 1
  funext others
  exact (List.append_assoc _ _ _).symm

lemma Document.append {lines lines' : List String} {statements statements' : List Statement}
    (h : Document lines statements) (h' : Document lines' statements') :
    Document (lines ++ lines') (statements ++ statements') := by
  intro rest
  rw [Text.unlines_append, List.append_assoc, h, h', Option.map_map]
  congr 1
  funext others
  exact (List.append_assoc _ _ _).symm

/-- The keys of a table as they are written, each with its value and how that is spelled. -/
structure Member where
  key : String
  spelling : String
  value : Value
  bare : Bare key
  spells : Spells spelling value

/-- What the lines of a table say. -/
def tableStatements (name : String) (entries : List (String × Value)) : List Statement :=
  .table [name] :: entries.map fun e => .assign [e.1] e.2

/-- The lines of a table say what is in it. -/
theorem document_tableLines (hname : Bare name) (members : List Member) :
    Document (tableLines name (members.map fun m => (m.key, m.spelling)))
      (tableStatements name (members.map fun m => (m.key, m.value))) := by
  have hmembers : Document (members.map fun m => m.key ++ " = " ++ m.spelling)
      (members.map fun m => .assign [m.key] m.value) := by
    induction members with
    | nil => exact document_nil
    | cons m members ih => exact ih.cons (says_assign m.bare m.spells)
  have hlines := hmembers.cons (says_header hname)
  rw [tableLines, tableStatements, List.map_map, List.map_map]
  exact hlines

/-- A table under construction that has got some entries. -/
def tableNode (entries : List (String × Value)) : Node :=
  .table .header (entries.map fun e => (e.1, .value e.2))

lemma lookup_eq_none {β : Type} {entries : List (String × β)} (h : key ∉ entries.map (·.1)) :
    entries.lookup key = none := by
  rw [List.lookup_eq_none_iff]
  intro e he
  have hne : key ≠ e.1 := fun heq => h (heq ▸ List.mem_map_of_mem he)
  simpa using hne

lemma replace_last {entries : Entries} {node node' : Node} (h : name ∉ entries.map (·.1)) :
    (entries ++ [(name, node)]).replace name node' = entries ++ [(name, node')] := by
  have hsame : entries.map (fun e => if e.1 = name then (name, node') else e) = entries := by
    refine (List.map_congr_left fun e he => ?_).trans (List.map_id entries)
    have hne : e.1 ≠ name := fun heq => h (heq ▸ List.mem_map_of_mem he)
    exact if_neg hne
  rw [Entries.replace, List.map_append, hsame]
  simp

lemma add?_table (d : Draft) (h : name ∉ d.entries.map (·.1)) :
    d.add? (.table [name]) = some ⟨[name], d.entries ++ [(name, tableNode [])]⟩ := by
  simp [Draft.add?, Entries.around?, Entries.within?, Entries.startTable?, lookup_eq_none h,
    tableNode]

lemma add?_assign {others : Entries} {entries : List (String × Value)}
    (hname : name ∉ others.map (·.1)) (hkey : key ∉ entries.map (·.1)) (value : Value) :
    Draft.add? ⟨[name], others ++ [(name, tableNode entries)]⟩ (.assign [key] value) =
      some ⟨[name], others ++ [(name, tableNode (entries ++ [(key, value)]))]⟩ := by
  have hlookup : (others ++ [(name, tableNode entries)]).lookup name = some (tableNode entries) := by
    rw [List.lookup_append, lookup_eq_none hname]
    simp
  have hfree : (entries.map fun e => (e.1, Node.value e.2)).lookup key = none := by
    apply lookup_eq_none
    rw [List.map_map]
    exact hkey
  have hassign : Entries.assign? value [key] (entries.map fun e => (e.1, Node.value e.2)) =
      some ((entries ++ [(key, value)]).map fun e => (e.1, Node.value e.2)) := by
    rw [Entries.assign?, hfree]
    simp
  rw [Draft.add?, Entries.within?, hlookup]
  simp only [tableNode, Entries.within?, hassign, Option.map_some]
  rw [replace_last hname]

lemma foldlM_assigns {others : Entries} (hname : name ∉ others.map (·.1))
    (entries more : List (String × Value)) (hkeys : ((entries ++ more).map (·.1)).Nodup) :
    (more.map fun e => Statement.assign [e.1] e.2).foldlM Draft.add?
        ⟨[name], others ++ [(name, tableNode entries)]⟩ =
      some ⟨[name], others ++ [(name, tableNode (entries ++ more))]⟩ := by
  induction more generalizing entries with
  | nil => simp
  | cons e more ih =>
    have hkey : e.1 ∉ entries.map (·.1) := by
      rw [List.map_append, List.nodup_append] at hkeys
      exact fun hmem => hkeys.2.2 _ hmem _ (by simp) rfl
    have happend : entries ++ e :: more = (entries ++ [e]) ++ more := by simp
    rw [List.map_cons, List.foldlM_cons, add?_assign hname hkey, happend]
    exact ih _ (happend ▸ hkeys)

lemma foldlM_tables (others : Entries) (d : Draft) (hd : d.entries = others)
    (tables : List (String × List (String × Value)))
    (hnames : (others.map (·.1) ++ tables.map (·.1)).Nodup)
    (hkeys : ∀ t ∈ tables, (t.2.map (·.1)).Nodup) :
    ((tables.flatMap fun t => tableStatements t.1 t.2).foldlM Draft.add? d).map Draft.entries =
      some (others ++ tables.map fun t => (t.1, tableNode t.2)) := by
  induction tables generalizing others d with
  | nil => simp [hd]
  | cons t tables ih =>
    have hname : t.1 ∉ others.map (·.1) := by
      rw [List.nodup_append] at hnames
      exact fun hmem => hnames.2.2 _ hmem _ (by simp) rfl
    have hassigns := foldlM_assigns hname [] t.2 (hkeys t List.mem_cons_self)
    rw [List.flatMap_cons, List.foldlM_append, tableStatements, List.foldlM_cons,
      add?_table d (hd ▸ hname), hd]
    simp only [Option.bind_eq_bind, Option.bind_some, hassigns, List.nil_append]
    rw [ih (others ++ [(t.1, tableNode t.2)]) _ rfl (by simpa using hnames) fun t' ht' =>
      hkeys t' (List.mem_cons_of_mem t ht')]
    simp

lemma toValues_values (entries : List (String × Value)) :
    Entries.toValues (entries.map fun e => (e.1, .value e.2)) = entries := by
  induction entries with
  | nil => rfl
  | cons e entries ih =>
    rw [List.map_cons, Entries.toValues, ih]
    rfl

lemma toValues_tables (tables : List (String × List (String × Value))) :
    Entries.toValues (tables.map fun t => (t.1, tableNode t.2)) =
      tables.map fun t => (t.1, .table t.2) := by
  induction tables with
  | nil => rfl
  | cons t tables ih =>
    rw [List.map_cons, Entries.toValues, ih, tableNode, Node.toValue, toValues_values]
    rfl

/-- What the lines of tables say makes these tables. -/
theorem ofStatements?_tables (tables : List (String × List (String × Value)))
    (hnames : (tables.map (·.1)).Nodup) (hkeys : ∀ t ∈ tables, (t.2.map (·.1)).Nodup) :
    ofStatements? (tables.flatMap fun t => tableStatements t.1 t.2) =
      some (.table (tables.map fun t => (t.1, .table t.2))) := by
  have hfold := foldlM_tables [] {} rfl tables hnames hkeys
  rw [ofStatements?]
  obtain ⟨d, hd, hentries⟩ := Option.map_eq_some_iff.1 hfold
  rw [hd, Option.map_some, hentries, List.nil_append, toValues_tables]

/-- A document of tables denotes these tables. -/
theorem parse?_tables {lines : List String} {tables : List (String × List (String × Value))}
    (hlines : Document lines (tables.flatMap fun t => tableStatements t.1 t.2))
    (hmark : NotFirst '\uFEFF' (Text.unlines lines).toList)
    (hnames : (tables.map (·.1)).Nodup) (hkeys : ∀ t ∈ tables, (t.2.map (·.1)).Nodup) :
    parse? (Text.unlines lines) = some (.table (tables.map fun t => (t.1, .table t.2))) := by
  have hdrop : dropMark (Text.unlines lines).toList = (Text.unlines lines).toList := by
    cases hchars : (Text.unlines lines).toList with
    | nil => rfl
    | cons c cs =>
      rw [hchars] at hmark
      exact if_neg (hmark c rfl)
  have hall := hlines []
  have hend : statements? [] = some [] := by
    rw [statements?]
    rfl
  rw [List.append_nil, hend, Option.map_some, List.append_nil] at hall
  rw [parse?, hdrop, hall, Option.bind_some, ofStatements?_tables tables hnames hkeys]

end ApiBalancer.Toml
