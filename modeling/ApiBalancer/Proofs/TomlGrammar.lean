import ApiBalancer.Proofs.TomlValues

/-!
# The grammar of TOML

`Lines` is the grammar of documents: it says which texts spell which statements, without reading
them. The reader accepts exactly these texts (`statements?_iff`). A document is `Valid` if it spells
lines that may stand together, and then it denotes the table that is made of what they define; this
is what is read (`parse?_iff`). At the end of some keys stands what the lines give these keys, in
whatever order and spelling (`Denotes.outlineAt?_iff`).
-/

namespace ApiBalancer.Toml

/-- Blanks at the end of a line, and a comment behind them. -/
inductive LineEnd : List Char → Prop where
  | blanks {b : List Char} (hb : Blanks b) : LineEnd b
  | comment {b w : List Char} (hb : Blanks b) (hw : ∀ c ∈ w, isPlain c) : LineEnd (b ++ '#' :: w)

/-- A line without what ends it, and what it says. -/
inductive Line : List Char → Option Statement → Prop where
  | blank {z : List Char} (hz : LineEnd z) : Line z none
  | table {b p z : List Char} {path : List String} (hb : Blanks b) (hp : Path p path)
      (hz : LineEnd z) : Line (b ++ '[' :: (p ++ ']' :: z)) (some (.table path))
  | element {b p z : List Char} {path : List String} (hb : Blanks b) (hp : Path p path)
      (hz : LineEnd z) : Line (b ++ '[' :: '[' :: (p ++ ']' :: ']' :: z)) (some (.element path))
  | assign {w z : List Char} {path : List String} {value : Value}
      (hw : Assignment (Spelling depthLimit) w (path, value)) (hz : LineEnd z) :
      Line (w ++ z) (some (.assign path value))

/-- The lines of a document, and what they say one after another. -/
inductive Lines : List Char → List Statement → Prop where
  | last {w : List Char} {statement : Option Statement} (h : Line w statement) :
      Lines w statement.toList
  | next {w n s : List Char} {statement : Option Statement} {statements : List Statement}
      (h : Line w statement) (hn : Newline n) (hs : Lines s statements) :
      Lines (w ++ (n ++ s)) (statement.toList ++ statements)

section Lines

variable {b w z s rest : List Char} {statement : Option Statement} {statements : List Statement}

/-- What is behind a line: a line end and other lines, or nothing. -/
def Follows (s rest : List Char) : Prop := (∃ n, Newline n ∧ s = n ++ rest) ∨ s = [] ∧ rest = []

lemma Follows.head (h : Follows s rest) : ∀ c ∈ s.head?, c = '\n' ∨ c = '\r' := by
  obtain ⟨n, hn, rfl⟩ | ⟨rfl, -⟩ := h
  · obtain ⟨c, n', rfl, hc⟩ := hn.head
    intro d hd
    cases hd
    exact hc
  · intro c hc
    cases hc

/-- What is behind a comment, if one stands in front. -/
def dropComment : List Char → List Char
  | '#' :: comment => comment.dropWhile isPlain
  | s => s

/-- What is behind a line end, if nothing else stands in front. -/
def dropNewline? : List Char → Option (List Char)
  | [] => some []
  | '\n' :: rest => some rest
  | '\r' :: '\n' :: rest => some rest
  | _ => none

lemma endOfLine?_eq (s : List Char) :
    endOfLine? s = dropNewline? (dropComment (skipBlanks s)) := by
  have hcomment : dropComment (skipBlanks s) = match skipBlanks s with
      | '#' :: comment => comment.dropWhile isPlain
      | _ => skipBlanks s := by
    rw [dropComment.eq_def]
    split <;> rfl
  rw [hcomment]
  rfl

lemma dropNewline?_iff : dropNewline? s = some rest ↔ Follows s rest := by
  constructor
  · intro h
    rw [dropNewline?.eq_def] at h
    split at h
    · cases h
      exact .inr ⟨rfl, rfl⟩
    · cases h
      exact .inl ⟨_, .feed, rfl⟩
    · cases h
      exact .inl ⟨_, .returnFeed, rfl⟩
    · cases h
  · rintro (⟨n, hn, rfl⟩ | ⟨rfl, rfl⟩)
    · cases hn <;> rfl
    · rfl

lemma dropComment_cases (s : List Char) :
    (∃ w, s = '#' :: (w ++ dropComment s) ∧ ∀ c ∈ w, isPlain c) ∨ dropComment s = s := by
  fun_cases dropComment s with
  | case1 comment =>
    refine .inl ⟨comment.takeWhile isPlain, ?_, fun c => List.mem_takeWhile_imp⟩
    rw [List.takeWhile_append_dropWhile]
  | case2 => exact .inr rfl

lemma endOfLine?_sound (h : endOfLine? s = some rest) :
    ∃ z s', s = z ++ s' ∧ LineEnd z ∧ Follows s' rest := by
  rw [endOfLine?_eq, dropNewline?_iff] at h
  obtain ⟨b, hs, hb⟩ := exists_blanks s
  obtain ⟨w, heq, hw⟩ | heq := dropComment_cases (skipBlanks s)
  · refine ⟨b ++ '#' :: w, _, ?_, .comment hb hw, h⟩
    rw [List.append_assoc, List.cons_append, ← heq, ← hs]
  · rw [heq] at h
    exact ⟨b, _, hs, .blanks hb, h⟩

/-- A line end is neither blank nor a part of a comment. -/
lemma Follows.not_plain (h : Follows s rest) :
    ∀ c ∈ s.head?, isBlank c = false ∧ isPlain c = false ∧ c ≠ '#' ∧ c ∈ enders := by
  intro c hc
  obtain rfl | rfl := h.head c hc <;> decide

lemma Follows.skipBlanks (h : Follows s rest) : skipBlanks s = s := by
  cases s with
  | nil => rfl
  | cons c s => exact skipBlanks_cons (h.not_plain c rfl).1 s

lemma endOfLine?_complete (hz : LineEnd z) (h : Follows s rest) :
    endOfLine? (z ++ s) = some rest := by
  rw [endOfLine?_eq, dropNewline?_iff]
  cases hz with
  | blanks hb =>
    have hsame : dropComment s = s := by
      apply dropComment.eq_2
      rintro comment rfl
      exact absurd rfl (h.not_plain '#' rfl).2.2.1
    rwa [skipBlanks_append hb, h.skipBlanks, hsame]
  | @comment b w hb hw =>
    have hdrop : (w ++ s).dropWhile isPlain = s := by
      rw [List.dropWhile_append_of_pos hw]
      cases s with
      | nil => rfl
      | cons c s => rw [List.dropWhile_cons, (h.not_plain c rfl).2.1]; rfl
    rw [List.append_assoc, skipBlanks_append hb, List.cons_append, skipBlanks_cons (by decide),
      dropComment, hdrop]
    exact h

lemma LineEnd.blanks_append (hb : Blanks b) (hz : LineEnd z) : LineEnd (b ++ z) := by
  cases hz with
  | blanks hb' => exact .blanks (hb.append hb')
  | comment hb' hw =>
    rw [← List.append_assoc]
    exact .comment (hb.append hb') hw

lemma Assignment.append_blanks {spells : List Char → Value → Prop} {m : List String × Value}
    (h : Assignment spells w m) (hb : Blanks b) : Assignment spells (w ++ b) m := by
  obtain @⟨p, b₁, w, b₂, path, value, hp, hb₁, hw, hb₂⟩ := h
  have hassoc : p ++ '=' :: (b₁ ++ (w ++ b₂)) ++ b = p ++ '=' :: (b₁ ++ (w ++ (b₂ ++ b))) := by simp
  rw [hassoc]
  exact .mk hp hb₁ hw (hb₂.append hb)

lemma Path.notFirst {p : List Char} {path : List String} (h : Path p path) (s : List Char) :
    NotFirst '[' (p ++ s) := by
  obtain ⟨b, c, t, rfl, hb, hc, -⟩ := h.1.exists_blanks
  cases b with
  | nil =>
    apply notFirst_cons
    rintro rfl
    exact hc.not_mem (by decide)
  | cons d b =>
    apply notFirst_cons
    rintro rfl
    exact absurd (hb '[' List.mem_cons_self) (by decide)

lemma reads_value? : Reads value? (Spelling depthLimit) Ends := reads_valueTo? depthLimit

lemma reads_header? :
    Reads header? (fun w statement => ∃ p path, w = p ++ [']'] ∧ Path p path ∧
      statement = .table path) fun _ => True where
  sound s statement rest h := by
    obtain ⟨⟨path, s₁⟩, hpath, hclose⟩ := Option.bind_eq_some_iff.1 h
    obtain ⟨p, rfl, hp⟩ := reads_path?.sound _ _ _ hpath
    split at hclose
    · next heq =>
      cases heq
      cases hclose
      exact ⟨p ++ [']'], by simp, p, path, rfl, hp, rfl⟩
    · cases hclose
  complete w statement rest h _ := by
    obtain ⟨p, path, rfl, hp, rfl⟩ := h
    have hpath := reads_path?.complete p path (']' :: rest) hp ⟨_, _, rfl, .inr rfl⟩
    rw [List.append_assoc, List.singleton_append, header?, hpath]
    rfl

lemma reads_elementHeader? :
    Reads elementHeader? (fun w statement => ∃ p path, w = p ++ [']', ']'] ∧ Path p path ∧
      statement = .element path) fun _ => True where
  sound s statement rest h := by
    obtain ⟨⟨path, s₁⟩, hpath, hclose⟩ := Option.bind_eq_some_iff.1 h
    obtain ⟨p, rfl, hp⟩ := reads_path?.sound _ _ _ hpath
    split at hclose
    · next heq =>
      cases heq
      cases hclose
      exact ⟨p ++ [']', ']'], by simp, p, path, rfl, hp, rfl⟩
    · cases hclose
  complete w statement rest h _ := by
    obtain ⟨p, path, rfl, hp, rfl⟩ := h
    have hpath := reads_path?.complete p path (']' :: ']' :: rest) hp ⟨_, _, rfl, .inr rfl⟩
    have hassoc : p ++ [']', ']'] ++ rest = p ++ ']' :: ']' :: rest := by simp
    rw [hassoc, elementHeader?, hpath]
    rfl

/-- What a statement is read from, behind any blanks. -/
lemma statement?_sound (h : statement? s = some (statement, rest)) :
    (statement = none ∧ rest = s) ∨
      ∃ w, s = w ++ rest ∧ ∀ b z, Blanks b → LineEnd z → Line (b ++ (w ++ z)) statement := by
  rw [statement?.eq_def] at h
  split at h
  · obtain ⟨⟨statement', s₁⟩, hheader, hput⟩ := Option.map_eq_some_iff.1 h
    cases hput
    obtain ⟨_, rfl, p, path, rfl, hp, rfl⟩ := reads_elementHeader?.sound _ _ _ hheader
    refine .inr ⟨'[' :: '[' :: (p ++ [']', ']']), by simp, fun b z hb hz => ?_⟩
    have hline := Line.element hb hp hz
    simpa using hline
  · obtain ⟨⟨statement', s₁⟩, hheader, hput⟩ := Option.map_eq_some_iff.1 h
    cases hput
    obtain ⟨_, rfl, p, path, rfl, hp, rfl⟩ := reads_header?.sound _ _ _ hheader
    refine .inr ⟨'[' :: (p ++ [']']), by simp, fun b z hb hz => ?_⟩
    have hline := Line.table hb hp hz
    simpa using hline
  · cases h
    exact .inl ⟨rfl, rfl⟩
  · cases h
    exact .inl ⟨rfl, rfl⟩
  · cases h
    exact .inl ⟨rfl, rfl⟩
  · cases h
    exact .inl ⟨rfl, rfl⟩
  · obtain ⟨⟨⟨path, value⟩, s₁⟩, hmember, hput⟩ := Option.map_eq_some_iff.1 h
    cases hput
    obtain ⟨w, rfl, hw⟩ :=
      (reads_member? reads_value? (headed_spelling depthLimit)).sound _ _ _ hmember
    refine .inr ⟨w, rfl, fun b z hb hz => ?_⟩
    rw [← List.append_assoc]
    exact .assign (hw.blanks_append hb) hz

lemma line?_sound (h : line? s = some (statement, rest)) :
    ∃ w s', s = w ++ s' ∧ Line w statement ∧ Follows s' rest := by
  obtain ⟨⟨statement', s₁⟩, hstatement, hnext⟩ := Option.bind_eq_some_iff.1 h
  obtain ⟨rest', hend, hpure⟩ := Option.bind_eq_some_iff.1 hnext
  cases hpure
  obtain ⟨z, s', rfl, hz, hs'⟩ := endOfLine?_sound hend
  obtain ⟨b, hs, hb⟩ := exists_blanks s
  obtain ⟨rfl, heq⟩ | ⟨w, heq, hline⟩ := statement?_sound hstatement
  · refine ⟨b ++ z, s', ?_, .blank (hz.blanks_append hb), hs'⟩
    rw [hs, ← heq, List.append_assoc]
  · refine ⟨b ++ (w ++ z), s', ?_, hline b z hb hz, hs'⟩
    rw [hs, heq]
    simp

lemma statement?_blank (h : s = [] ∨ ∃ c t, s = c :: t ∧ c ∈ ['#', '\r', '\n']) :
    statement? s = some (none, s) := by
  obtain rfl | ⟨c, t, rfl, hc⟩ := h
  · rfl
  · simp only [List.mem_cons, List.not_mem_nil, or_false] at hc
    obtain rfl | rfl | rfl := hc <;> rfl

lemma line?_blank (hz : LineEnd z) (h : Follows s rest) : line? (z ++ s) = some (none, rest) := by
  have hfirst : s = [] ∨ ∃ c t, s = c :: t ∧ c ∈ ['#', '\r', '\n'] := by
    cases s with
    | nil => exact .inl rfl
    | cons c t =>
      refine .inr ⟨c, t, rfl, ?_⟩
      obtain rfl | rfl := h.head c rfl <;> decide
  rw [line?]
  cases hz with
  | blanks hb =>
    have hend := endOfLine?_complete (.blanks blanks_nil) h
    rw [skipBlanks_append hb, h.skipBlanks, statement?_blank hfirst]
    simp only [Option.bind_eq_bind, Option.bind_some]
    rw [← List.nil_append s, hend]
    rfl
  | @comment b w hb hw =>
    have hend := endOfLine?_complete (.comment blanks_nil hw) h
    have hskip : skipBlanks (b ++ '#' :: w ++ s) = '#' :: (w ++ s) := by
      rw [List.append_assoc, skipBlanks_append hb, List.cons_append, skipBlanks_cons (by decide)]
    rw [List.nil_append, List.cons_append] at hend
    rw [hskip, statement?_blank (.inr ⟨_, _, rfl, by decide⟩)]
    simp only [Option.bind_eq_bind, Option.bind_some, hend]
    rfl

/-- A statement that is read behind blanks is what its line says. -/
lemma line?_statement {c : Char} {w : List Char} (hb : Blanks b) (hc : isBlank c = false)
    (hread : statement? (c :: w ++ (z ++ s)) = some (statement, z ++ s)) (hz : LineEnd z)
    (h : Follows s rest) : line? (b ++ (c :: w ++ (z ++ s))) = some (statement, rest) := by
  have hskip : skipBlanks (b ++ (c :: w ++ (z ++ s))) = c :: w ++ (z ++ s) := by
    rw [skipBlanks_append hb, List.cons_append, skipBlanks_cons hc]
  rw [line?, hskip, hread]
  simp only [Option.bind_eq_bind, Option.bind_some, endOfLine?_complete hz h]
  rfl

/-- The comment at the end of a line, without the blanks in front of it. -/
lemma LineEnd.exists_blanks (hz : LineEnd z) (h : Follows s rest) :
    ∃ b z', z = b ++ z' ∧ Blanks b ∧ LineEnd z' ∧ EndsMember (z' ++ s) := by
  cases hz with
  | blanks hb =>
    exact ⟨z, [], by simp, hb, .blanks blanks_nil, fun c hc => (h.not_plain c hc).2.2.2⟩
  | @comment b w hb hw =>
    exact ⟨b, '#' :: w, rfl, hb, .comment blanks_nil hw, endsMember_cons (by decide) _⟩

lemma line?_complete (hline : Line w statement) (h : Follows s rest) :
    line? (w ++ s) = some (statement, rest) := by
  cases hline with
  | blank hz => exact line?_blank hz h
  | @table b p z path hb hp hz =>
    have hheader := reads_header?.complete (p ++ [']']) (.table path) (z ++ s)
      ⟨p, path, rfl, hp, rfl⟩ trivial
    have hnot : ∀ t, p ++ [']'] ++ (z ++ s) = '[' :: t → False := by
      intro t heq
      rw [List.append_assoc] at heq
      exact hp.notFirst _ '[' (by rw [heq]; rfl) rfl
    have hread : statement? ('[' :: (p ++ [']']) ++ (z ++ s)) =
        some (some (.table path), z ++ s) := by
      rw [List.cons_append, statement?.eq_2 _ hnot, hheader]
      rfl
    have hassoc : b ++ '[' :: (p ++ ']' :: z) ++ s = b ++ ('[' :: (p ++ [']']) ++ (z ++ s)) := by
      simp
    rw [hassoc]
    exact line?_statement hb (by decide) hread hz h
  | @element b p z path hb hp hz =>
    have hheader := reads_elementHeader?.complete (p ++ [']', ']']) (.element path) (z ++ s)
      ⟨p, path, rfl, hp, rfl⟩ trivial
    have hread : statement? ('[' :: ('[' :: (p ++ [']', ']'])) ++ (z ++ s)) =
        some (some (.element path), z ++ s) := by
      rw [List.cons_append, List.cons_append, statement?.eq_1, hheader]
      rfl
    have hassoc : b ++ '[' :: '[' :: (p ++ ']' :: ']' :: z) ++ s =
        b ++ ('[' :: ('[' :: (p ++ [']', ']'])) ++ (z ++ s)) := by simp
    rw [hassoc]
    exact line?_statement hb (by decide) hread hz h
  | @assign w z path value hw hz =>
    obtain ⟨b', z', rfl, hb', hz', hmember⟩ := hz.exists_blanks h
    obtain ⟨b, c, t, heq, hb, hc, hw'⟩ := (hw.append_blanks hb').exists_blanks
    have hread :=
      (reads_member? reads_value? (headed_spelling depthLimit)).complete _ _ _ hw' hmember
    have hstatement : statement? (c :: t ++ (z' ++ s)) =
        some (some (.assign path value), z' ++ s) := by
      have hnot : ∀ d ∈ ['[', '#', '\r', '\n'], ∀ u, c :: t ++ (z' ++ s) = d :: u → False := by
        intro d hd u heq'
        rw [← List.head_eq_of_cons_eq heq'] at hd
        have hsub : ∀ c ∈ ['[', '#', '\r', '\n'],
            c ∈ '[' :: '.' :: '=' :: ' ' :: '\t' :: enders := by
          simp [enders]
        exact hc.not_mem (hsub c hd)
      rw [statement?.eq_7, hread]
      · rfl
      · exact fun u => hnot '[' (by decide) _
      · exact hnot '[' (by decide)
      · exact List.cons_ne_nil _ _
      · exact hnot '#' (by decide)
      · exact hnot '\r' (by decide)
      · exact hnot '\n' (by decide)
    have hassoc : w ++ (b' ++ z') ++ s = b ++ (c :: t ++ (z' ++ s)) := by
      rw [← List.append_assoc w, heq]
      simp
    rw [hassoc]
    exact line?_statement hb hc.not_isBlank hstatement hz' h

lemma Line.eq_none (h : Line [] statement) : statement = none := by
  have hread := line?_complete h (.inr ⟨rfl, rfl⟩ : Follows [] [])
  have hempty : line? [] = some (none, []) := rfl
  rw [List.append_nil, hempty] at hread
  cases hread
  rfl

theorem statements?_sound (h : statements? s = some statements) : Lines s statements := by
  induction hn : s.length using Nat.strong_induction_on generalizing s statements with
  | _ n ih =>
    rw [statements?] at h
    split at h
    · next hempty =>
      obtain rfl := List.isEmpty_iff.1 hempty
      cases h
      exact .last (.blank (.blanks blanks_nil))
    · obtain ⟨⟨statement, rest⟩, hline, hnext⟩ := Option.bind_eq_some_iff.1 h
      obtain ⟨w, s', rfl, hw, hs'⟩ := line?_sound hline
      dsimp only at hnext
      split at hnext
      · next hshorter =>
        obtain ⟨others, hrest, rfl⟩ := Option.map_eq_some_iff.1 hnext
        obtain ⟨n', hn', rfl⟩ | ⟨rfl, rfl⟩ := hs'
        · exact .next hw hn' (ih _ (hn ▸ hshorter) hrest rfl)
        · have hnone : statements? [] = some [] := by
            rw [statements?]
            rfl
          rw [hnone] at hrest
          cases hrest
          rw [List.append_nil, List.append_nil]
          exact .last hw
      · cases hnext

theorem statements?_complete (h : Lines s statements) : statements? s = some statements := by
  have hnone : statements? [] = some [] := by
    rw [statements?]
    rfl
  have hline : ∀ w s rest statement, Line w statement → Follows s rest → w ++ s ≠ [] →
      rest.length < (w ++ s).length →
      statements? (w ++ s) = (statements? rest).map fun others => statement.toList ++ others := by
    intro w s rest statement hw hs hne hshorter
    rw [statements?, if_neg (by simpa using hne), line?_complete hw hs]
    simp only [Option.bind_eq_bind, Option.bind_some, dif_pos hshorter]
  induction h with
  | @last w statement h =>
    cases w with
    | nil =>
      obtain rfl := h.eq_none
      exact hnone
    | cons c w =>
      have hread := hline (c :: w) [] [] statement h (.inr ⟨rfl, rfl⟩) (by simp) (by simp)
      rw [List.append_nil, hnone, Option.map_some, List.append_nil] at hread
      exact hread
  | @next w n s statement statements h hn _ ih =>
    have hlonger : 0 < n.length := by cases hn <;> decide
    have hshorter : s.length < (w ++ (n ++ s)).length := by
      simp only [List.length_append]
      omega
    have hne : w ++ (n ++ s) ≠ [] := List.ne_nil_of_length_pos (by omega)
    rw [hline w (n ++ s) s statement h (.inl ⟨n, hn, rfl⟩) hne hshorter, ih, Option.map_some]

/-- What the lines of a text say is read exactly from the texts that spell it. -/
theorem statements?_iff : statements? s = some statements ↔ Lines s statements :=
  ⟨statements?_sound, statements?_complete⟩

end Lines

/-- A document denotes the table that its lines say. -/
def Denotes (document : String) (t : Value) : Prop :=
  ∃ statements, Lines (dropMark document.toList) statements ∧ Tabled statements t

/-- The reader accepts exactly the documents of the grammar, and reads from each what it denotes. -/
theorem parse?_iff {document : String} {t : Value} :
    parse? document = some t ↔ Denotes document t := by
  rw [parse?, Option.bind_eq_some_iff]
  simp only [statements?_iff, ofStatements?_iff, Denotes]

lemma Denotes.unique {document : String} {t t' : Value} (h : Denotes document t)
    (h' : Denotes document t') : t = t' :=
  Option.some.inj ((parse?_iff.2 h).symm.trans (parse?_iff.2 h'))

/-- Whether a line of a document defines something. -/
def Defines (document : String) (part : Value) : Prop :=
  ∃ statements, Lines (dropMark document.toList) statements ∧ part ∈ definitions [] statements

/-- Whether a line of a document gives something with an outline to some keys. -/
def Gives (document : String) (path : List String) (x : Value) : Prop :=
  ∃ part, Defines document part ∧ part.outlineAt? path = some x

/-- What stands at some keys in the table of a document is what its lines give them. -/
theorem Denotes.outlineAt?_iff {document : String} {path : List String} {t x : Value}
    (h : Denotes document t) (hpath : path ≠ []) (hopen : t.Open path) :
    t.outlineAt? path = some x ↔ Gives document path x := by
  obtain ⟨statements, hlines, -, hmade⟩ := h
  rw [hmade.outlineAt?_empty hpath hopen]
  constructor
  · rintro ⟨part, hpart, hx⟩
    exact ⟨part, ⟨statements, hlines, hpart⟩, hx⟩
  · rintro ⟨part, ⟨statements', hlines', hpart⟩, hx⟩
    -- A text is not read in two ways.
    have hsame : some statements = some statements' :=
      (statements?_complete hlines).symm.trans (statements?_complete hlines')
    cases hsame
    exact ⟨part, hpart, hx⟩

end ApiBalancer.Toml
