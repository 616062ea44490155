import ApiBalancer.Proofs.JsonSpelling
import ApiBalancer.Proofs.TomlNumbers

/-!
# How strings are spelled in TOML

`Quoted` is the grammar of the four ways to write a string. The reader accepts exactly its texts
(`reads_quoted?`). Between three quotes up to two quotes may stand side by side, which the grammar
counts and the reader finds out by looking for three.
-/

namespace ApiBalancer.Toml

/-- Hexadecimal digits name the character whose code point they spell. -/
def Names (digits : List Char) (x : Char) : Prop :=
  ∃ ns, List.Forall₂ Json.Token.HexDigit digits ns ∧ Nat.ofDigits 16 ns.reverse = x.toNat

/-- The characters that stand for another one behind a backslash. -/
def shortEscapes : List (Char × Char) :=
  [('b', '\x08'), ('t', '\t'), ('n', '\n'), ('f', '\x0c'), ('r', '\r'), ('"', '"'), ('\\', '\\')]

/-- What stands for a character behind a backslash. -/
inductive Escape : List Char → Char → Prop where
  | short {e x : Char} (h : (e, x) ∈ shortEscapes) : Escape [e] x
  | small {digits : List Char} {x : Char} (hlength : digits.length = 4) (h : Names digits x) :
      Escape ('u' :: digits) x
  | large {digits : List Char} {x : Char} (hlength : digits.length = 8) (h : Names digits x) :
      Escape ('U' :: digits) x

/-- What may stand between double quotes on one line, with the text that it stands for. -/
inductive Basic : List Char → List Char → Prop where
  | nil : Basic [] []
  | self {c : Char} {w t : List Char} (hplain : isPlain c) (hquote : c ≠ '"') (hslash : c ≠ '\\')
      (h : Basic w t) : Basic (c :: w) (c :: t)
  | escape {e w t : List Char} {x : Char} (he : Escape e x) (h : Basic w t) :
      Basic ('\\' :: (e ++ w)) (x :: t)

/-- The end of a line. -/
inductive Newline : List Char → Prop where
  | feed : Newline ['\n']
  | returnFeed : Newline ['\r', '\n']

/-- Blanks and line ends. -/
inductive Gap : List Char → Prop where
  | nil : Gap []
  | blank {c : Char} {g : List Char} (hc : isBlank c) (h : Gap g) : Gap (c :: g)
  | line {n g : List Char} (hn : Newline n) (h : Gap g) : Gap (n ++ g)

/-- Whether neither a blank nor the end of a line stands in front. -/
def NotWhite (s : List Char) : Prop := ∀ c ∈ s.head?, c ∉ [' ', '\t', '\n', '\r']

/-- What may stand between three quotes behind a run of quotes, with the text that it stands for.
Between double quotes there may be escapes, and a backslash drops a gap that begins on its line. -/
inductive MultiText (q : Char) : (run : Nat) → List Char → List Char → Prop where
  | nil (run : Nat) : MultiText q run [] []
  | quote {run : Nat} {w t : List Char} (hrun : run < 2) (h : MultiText q (run + 1) w t) :
      MultiText q run (q :: w) (q :: t)
  | self {run : Nat} {c : Char} {w t : List Char} (hplain : isPlain c) (hquote : c ≠ q)
      (hslash : q = '"' → c ≠ '\\') (h : MultiText q 0 w t) : MultiText q run (c :: w) (c :: t)
  | line {run : Nat} {n w t : List Char} (hn : Newline n) (h : MultiText q 0 w t) :
      MultiText q run (n ++ w) ('\n' :: t)
  | escape {run : Nat} {e w t : List Char} {x : Char} (hq : q = '"') (he : Escape e x)
      (h : MultiText q 0 w t) : MultiText q run ('\\' :: (e ++ w)) (x :: t)
  | gap {run : Nat} {b n g w t : List Char} (hq : q = '"') (hb : ∀ c ∈ b, isBlank c)
      (hn : Newline n) (hg : Gap g) (hend : NotWhite w)
      (h : MultiText q 0 w t) : MultiText q run ('\\' :: (b ++ (n ++ (g ++ w)))) t

/-- A string with its quotes. A line end right behind three opening quotes does not count. -/
inductive Quoted : List Char → List Char → Prop where
  | basic {w t : List Char} (h : Basic w t) : Quoted ('"' :: (w ++ ['"'])) t
  | literal {t : List Char} (h : ∀ c ∈ t, isPlain c ∧ c ≠ '\'') : Quoted ('\'' :: (t ++ ['\''])) t
  | multi {q : Char} {w t : List Char} (hq : q = '"' ∨ q = '\'')
      (hfirst : ∀ n w', Newline n → w ≠ n ++ w') (h : MultiText q 0 w t) :
      Quoted (q :: q :: q :: (w ++ [q, q, q])) t
  | multiLine {q : Char} {n w t : List Char} (hq : q = '"' ∨ q = '\'') (hn : Newline n)
      (h : MultiText q 0 w t) : Quoted (q :: q :: q :: (n ++ (w ++ [q, q, q]))) t

section Texts

variable {e x c q : Char} {digits s w t rest : List Char} {run : Nat}

lemma named?_iff : named? digits = some x ↔ Names digits x := by
  have hvalue : ∀ ns : List Nat,
      ns.foldl (fun n d => 16 * n + d) 0 = Nat.ofDigits 16 ns.reverse := by
    intro ns
    rw [List.foldl_eq_foldr_reverse, Nat.ofDigits_eq_foldr]
    congr 1
    funext d n
    exact Nat.add_comm _ _
  simp only [named?, Option.bind_eq_bind, Option.bind_eq_some_iff, Json.mapM_eq_some_iff,
    Json.Token.hexDigit?_iff, hvalue, Names]
  apply exists_congr
  intro ns
  apply and_congr_right
  intro _
  constructor
  · intro h
    split at h
    · next hvalid =>
      cases h
      exact (Json.Token.toNat_ofNat hvalid).symm
    · cases h
  · intro h
    have hvalid : x.toNat.isValidChar := x.valid
    rw [h, if_pos hvalid, Char.ofNat_toNat]

lemma escaped?_iff : escaped? e = some x ↔ (e, x) ∈ shortEscapes := by
  constructor
  · intro h
    rw [escaped?.eq_def] at h
    split at h <;> cases h <;> decide
  · intro h
    simp only [shortEscapes, List.mem_cons, Prod.mk.injEq, List.not_mem_nil, or_false] at h
    rcases h with ⟨rfl, rfl⟩ | ⟨rfl, rfl⟩ | ⟨rfl, rfl⟩ | ⟨rfl, rfl⟩ | ⟨rfl, rfl⟩ | ⟨rfl, rfl⟩ |
      ⟨rfl, rfl⟩ <;> rfl

lemma map_put_eq_some_iff {read : Option (List Char × List Char)} :
    read.map (put x) = some (t, rest) ↔ ∃ t', t = x :: t' ∧ read = some (t', rest) := by
  rw [Option.map_eq_some_iff]
  constructor
  · rintro ⟨⟨t', rest'⟩, hread, hput⟩
    cases hput
    exact ⟨t', rfl, hread⟩
  · rintro ⟨t', rfl, hread⟩
    exact ⟨(t', rest), hread, rfl⟩

/-- A reader of strings between double quotes, as far as escapes are concerned. -/
structure Escapes (read? : List Char → Option (List Char × List Char)) : Prop where
  short : ∀ {e x}, escaped? e = some x → ∀ s,
    read? ('\\' :: e :: s) = (read? s).map (put x)
  small : ∀ a b c d s, read? ('\\' :: 'u' :: a :: b :: c :: d :: s) =
    (named? [a, b, c, d]).bind fun x => (read? s).map (put x)
  large : ∀ a b c d e f g h s,
    read? ('\\' :: 'U' :: a :: b :: c :: d :: e :: f :: g :: h :: s) =
      (named? [a, b, c, d, e, f, g, h]).bind fun x => (read? s).map (put x)

lemma Escapes.read_escape {read? : List Char → Option (List Char × List Char)}
    (hread : Escapes read?) {e : List Char} (h : Escape e x) (s : List Char) :
    read? ('\\' :: (e ++ s)) = (read? s).map (put x) := by
  cases h with
  | short h => exact hread.short (escaped?_iff.2 h) s
  | @small digits _ hlength h =>
    match digits, hlength, named?_iff.2 h with
    | [a, b, c, d], _, hnamed => exact (hread.small a b c d s).trans (by rw [hnamed]; rfl)
  | @large digits _ hlength h =>
    match digits, hlength, named?_iff.2 h with
    | [a, b, c, d, e, f, g, h], _, hnamed =>
      exact (hread.large a b c d e f g h s).trans (by rw [hnamed]; rfl)

lemma escapes_basic? : Escapes basic? where
  short := basic?_short
  small _ _ _ _ _ := rfl
  large _ _ _ _ _ _ _ _ _ := rfl

lemma escapes_multiBasic? : Escapes (multiBasic? false) where
  short := multiBasic?_short
  small _ _ _ _ _ := rfl
  large _ _ _ _ _ _ _ _ _ := rfl

lemma basic?_sound (h : basic? s = some (t, rest)) :
    ∃ w, s = w ++ '"' :: rest ∧ Basic w t := by
  fun_induction basic? s generalizing t rest with
  | case1 => cases h
  | case2 =>
    cases h
    exact ⟨[], rfl, .nil⟩
  | case3 a b c d s ih =>
    obtain ⟨x, hx, h⟩ := Option.bind_eq_some_iff.1 h
    obtain ⟨t', rfl, hread⟩ := map_put_eq_some_iff.1 h
    obtain ⟨w, rfl, hw⟩ := ih hread
    exact ⟨'\\' :: ('u' :: [a, b, c, d] ++ w), rfl, .escape (.small rfl (named?_iff.1 hx)) hw⟩
  | case4 a b c d e f g h' s ih =>
    obtain ⟨x, hx, h⟩ := Option.bind_eq_some_iff.1 h
    obtain ⟨t', rfl, hread⟩ := map_put_eq_some_iff.1 h
    obtain ⟨w, rfl, hw⟩ := ih hread
    exact ⟨'\\' :: ('U' :: [a, b, c, d, e, f, g, h'] ++ w), rfl,
      .escape (.large rfl (named?_iff.1 hx)) hw⟩
  | case5 e s _ _ ih =>
    obtain ⟨x, hx, h⟩ := Option.bind_eq_some_iff.1 h
    obtain ⟨t', rfl, hread⟩ := map_put_eq_some_iff.1 h
    obtain ⟨w, rfl, hw⟩ := ih hread
    exact ⟨'\\' :: ([e] ++ w), rfl, .escape (.short (escaped?_iff.1 hx)) hw⟩
  | case6 c s hquote hu hU hshort hplain ih =>
    obtain ⟨t', rfl, hread⟩ := map_put_eq_some_iff.1 h
    obtain ⟨w, rfl, hw⟩ := ih hread
    -- A backslash would be the beginning of an escape, as something comes after it.
    have hslash : c ≠ '\\' := by
      intro hc
      cases w with
      | nil => exact hshort _ _ hc rfl
      | cons d w => exact hshort _ _ hc rfl
    exact ⟨c :: w, rfl, .self hplain hquote hslash hw⟩
  | case7 => cases h

lemma basic?_complete (h : Basic w t) (rest : List Char) :
    basic? (w ++ '"' :: rest) = some (t, rest) := by
  induction h with
  | nil => rfl
  | self hplain hquote hslash _ ih =>
    rw [List.cons_append, basic?_plain hplain hquote hslash, ih]
    rfl
  | escape he _ ih =>
    rw [List.cons_append, List.append_assoc, escapes_basic?.read_escape he, ih]
    rfl

lemma literal?_sound (h : literal? s = some (t, rest)) :
    s = t ++ '\'' :: rest ∧ ∀ c ∈ t, isPlain c ∧ c ≠ '\'' := by
  fun_induction literal? s generalizing t rest with
  | case1 => cases h
  | case2 =>
    cases h
    exact ⟨rfl, by simp⟩
  | case3 c s hquote hplain ih =>
    obtain ⟨t', rfl, hread⟩ := map_put_eq_some_iff.1 h
    obtain ⟨rfl, ht⟩ := ih hread
    refine ⟨rfl, ?_⟩
    intro d hd
    obtain rfl | hd := List.mem_cons.1 hd
    · exact ⟨hplain, hquote⟩
    · exact ht d hd
  | case4 => cases h

lemma ne_of_quote (hq : q = '"' ∨ q = '\'') : q ≠ '\n' ∧ q ≠ '\r' ∧ q ≠ '\\' := by
  obtain rfl | rfl := hq <;> decide

/-- What begins with a quote is a quote and something behind it. -/
lemma MultiText.of_cons (hq : q = '"' ∨ q = '\'') (h : MultiText q run (q :: w) t) :
    run < 2 ∧ ∃ t', t = q :: t' ∧ MultiText q (run + 1) w t' := by
  obtain ⟨hfeed, hreturn, hslash⟩ := ne_of_quote hq
  generalize hw : q :: w = w' at h
  cases h with
  | nil => cases hw
  | quote hrun h =>
    cases hw
    exact ⟨hrun, _, rfl, h⟩
  | self _ hquote _ _ => exact absurd (List.head_eq_of_cons_eq hw).symm hquote
  | line hn _ =>
    cases hn with
    | feed => exact absurd (List.head_eq_of_cons_eq hw) hfeed
    | returnFeed => exact absurd (List.head_eq_of_cons_eq hw) hreturn
  | escape _ _ _ | gap _ _ _ _ _ _ => exact absurd (List.head_eq_of_cons_eq hw) hslash

lemma MultiText.of_nil (h : MultiText q run [] t) : t = [] := by
  generalize hw : [] = w at h
  cases h with
  | nil => rfl
  | line hn _ => cases hn <;> cases hw
  | _ => cases hw

/-- The quotes before count only where a quote comes next. -/
lemma MultiText.change_run (h : MultiText q run w t) (hfirst : NotFirst q w) (run' : Nat) :
    MultiText q run' w t := by
  cases h with
  | nil => exact .nil run'
  | quote => exact absurd rfl (hfirst q rfl)
  | self hplain hquote hslash h => exact .self hplain hquote hslash h
  | line hn h => exact .line hn h
  | escape hq he h => exact .escape hq he h
  | gap hq hb hn hg hend h => exact .gap hq hb hn hg hend h

/-- A reader of strings between three quotes, as far as quotes are concerned. -/
structure Multi (q : Char) (read? : List Char → Option (List Char × List Char)) : Prop where
  close : ∀ rest, read? (q :: q :: q :: rest) = some (closing q rest)
  self : ∀ s, ¬[q, q] <+: s → read? (q :: s) = (read? s).map (put q)

/-- A quote is read as itself, also among the quotes that come right before the closing ones. -/
lemma Multi.read_quote {read? : List Char → Option (List Char × List Char)} (hread : Multi q read?)
    (hq : q = '"' ∨ q = '\'') (hrun : run < 2) (h : MultiText q (run + 1) w t)
    (hrest : NotFirst q rest) (ih : read? (w ++ q :: q :: q :: rest) = some (t, rest)) :
    read? (q :: (w ++ q :: q :: q :: rest)) = some (q :: t, rest) := by
  by_cases hthree : [q, q] <+: w ++ q :: q :: q :: rest
  · match w, h, hthree with
    | [], h, _ =>
      rw [h.of_nil, List.nil_append, hread.close]
      exact congrArg some (closing_quotes (.inr (.inl rfl)) hrest)
    | [c], h, ⟨others, hothers⟩ =>
      obtain rfl : q = c := List.head_eq_of_cons_eq hothers
      obtain ⟨-, t', rfl, h'⟩ := h.of_cons hq
      rw [h'.of_nil, List.singleton_append, hread.close]
      exact congrArg some (closing_quotes (.inr (.inr rfl)) hrest)
    | c :: d :: w, h, ⟨others, hothers⟩ =>
      obtain rfl : q = c := List.head_eq_of_cons_eq hothers
      obtain rfl : q = d := List.head_eq_of_cons_eq (List.tail_eq_of_cons_eq hothers)
      obtain ⟨-, t', rfl, h'⟩ := h.of_cons hq
      have hmany := (h'.of_cons hq).1
      omega
  · rw [hread.self _ hthree, ih]
    rfl

/-- A quote that is read as itself has at most one quote behind it. -/
lemma MultiText.cons_quote (hq : q = '"' ∨ q = '\'') (h : MultiText q 0 w t)
    (hthree : ¬[q, q] <+: w ++ q :: q :: q :: rest) : MultiText q 0 (q :: w) (q :: t) := by
  apply MultiText.quote (by decide)
  by_cases hfirst : NotFirst q w
  · exact h.change_run hfirst 1
  · cases w with
    | nil => exact absurd ⟨q :: rest, rfl⟩ hthree
    | cons c w =>
      obtain rfl : c = q := by
        by_contra hc
        exact hfirst (notFirst_cons hc w)
      obtain ⟨-, t', rfl, h'⟩ := h.of_cons hq
      apply MultiText.quote (by decide)
      apply h'.change_run
      intro d hd
      rintro rfl
      cases w with
      | nil => cases hd
      | cons d' w =>
        cases hd
        exact hthree ⟨w ++ d :: d :: d :: rest, rfl⟩

lemma multi_multiBasic? : Multi '"' (multiBasic? false) where
  close _ := rfl
  self _ h := multiBasic?_self (.inl rfl) (by decide) fun _ => h

lemma multi_multiLiteral? : Multi '\'' multiLiteral? where
  close _ := rfl
  self _ h := multiLiteral?_self (.inl rfl) fun _ => h

/-! ### Between double quotes -/

lemma multiBasic?_line {n : List Char} (hn : Newline n) (rest : List Char) :
    multiBasic? false (n ++ rest) = (multiBasic? false rest).map (put '\n') := by
  cases hn with
  | feed => exact multiBasic?_self (.inr rfl) (by decide) fun h => absurd h (by decide)
  | returnFeed => rfl

lemma notWhite_nil : NotWhite [] := by
  intro c hc
  cases hc

lemma notWhite_cons (hc : c ∉ [' ', '\t', '\n', '\r']) (s : List Char) : NotWhite (c :: s) := by
  intro d hd
  cases hd
  exact hc

lemma notWhite_slash (s : List Char) : NotWhite ('\\' :: s) := notWhite_cons (by decide) s

lemma NotWhite.append (hw : NotWhite w) (hs : NotWhite s) : NotWhite (w ++ s) := by
  cases w with
  | nil => exact hs
  | cons c w => exact hw

/-- What is no white space is read as ever after a gap. -/
lemma multiBasic?_true (hend : NotWhite s) : multiBasic? true s = multiBasic? false s := by
  rw [multiBasic?.eq_def, multiBasic?.eq_def false]
  split
  case h_6 => exact absurd (hend _ rfl) (by decide)
  case h_7 c rest _ _ _ _ _ =>
    have hc := hend c rfl
    simp only [List.mem_cons, List.not_mem_nil, or_false, not_or] at hc
    simp [isBlank, hc]
  all_goals rfl

lemma multiBasic?_gap {g : List Char} (hg : Gap g) (hend : NotWhite s) :
    multiBasic? true (g ++ s) = multiBasic? false s := by
  induction hg with
  | nil => exact multiBasic?_true hend
  | @blank c g hc _ ih =>
    obtain rfl | rfl := isBlank_iff.1 hc <;> exact ih
  | line hn _ ih =>
    cases hn with
    | feed | returnFeed => exact ih

lemma Gap.blanks {b g : List Char} (hb : ∀ c ∈ b, isBlank c) (hg : Gap g) : Gap (b ++ g) := by
  induction b with
  | nil => exact hg
  | cons c b ih =>
    exact .blank (hb c List.mem_cons_self) (ih fun d hd => hb d (List.mem_cons_of_mem c hd))

lemma Newline.head {n : List Char} (hn : Newline n) :
    ∃ c n', n = c :: n' ∧ (c = '\n' ∨ c = '\r') := by
  cases hn with
  | feed => exact ⟨_, _, rfl, .inl rfl⟩
  | returnFeed => exact ⟨_, _, rfl, .inr rfl⟩

lemma endsLine_gap {b n : List Char} (hb : ∀ c ∈ b, isBlank c) (hn : Newline n) (s : List Char) :
    endsLine (b ++ (n ++ s)) = true := by
  have hskip : skipBlanks (b ++ (n ++ s)) = n ++ s := by
    rw [skipBlanks, List.dropWhile_append_of_pos hb]
    cases hn <;> rfl
  rw [endsLine, hskip]
  cases hn <;> rfl

/-- A backslash at the end of a line drops the gap that follows. -/
lemma multiBasic?_slash {b n g : List Char} (hb : ∀ c ∈ b, isBlank c) (hn : Newline n)
    (hg : Gap g) (hend : NotWhite s) :
    multiBasic? false ('\\' :: (b ++ (n ++ (g ++ s)))) = multiBasic? false s := by
  have hgap : Gap (b ++ (n ++ g)) := .blanks hb (.line hn hg)
  have hread : multiBasic? true (b ++ (n ++ (g ++ s))) = multiBasic? false s := by
    rw [← multiBasic?_gap hgap hend]
    simp
  have hends := endsLine_gap hb hn (g ++ s)
  have hwhite : ∃ c others, b ++ (n ++ (g ++ s)) = c :: others ∧ c ∈ [' ', '\t', '\n', '\r'] := by
    cases b with
    | nil =>
      obtain ⟨c, n', rfl, hc⟩ := hn.head
      refine ⟨c, _, rfl, ?_⟩
      obtain rfl | rfl := hc <;> decide
    | cons c b =>
      have hc := hb c List.mem_cons_self
      refine ⟨c, _, rfl, ?_⟩
      obtain rfl | rfl := isBlank_iff.1 hc <;> decide
  obtain ⟨c, others, hcons, hc⟩ := hwhite
  have hletter : ∀ c ∈ [' ', '\t', '\n', '\r'], escaped? c = none ∧ c ≠ 'u' ∧ c ≠ 'U' := by
    simp [escaped?]
  obtain ⟨hescaped, hu, hU⟩ := hletter c hc
  rw [hcons] at hread hends ⊢
  rw [multiBasic?.eq_5 false c others (fun _ _ _ _ _ he _ => hu he)
    fun _ _ _ _ _ _ _ _ _ he _ => hU he, hescaped]
  dsimp only
  rw [if_pos hends, hread]

lemma multiBasic?_complete (h : MultiText '"' run w t) (hrest : NotFirst '"' rest) :
    multiBasic? false (w ++ '"' :: '"' :: '"' :: rest) = some (t, rest) := by
  induction h with
  | nil => exact congrArg some (closing_quotes (.inl rfl) hrest)
  | quote hrun h ih => exact multi_multiBasic?.read_quote (.inl rfl) hrun h hrest ih
  | self hplain hquote hslash _ ih =>
    rw [List.cons_append,
      multiBasic?_self (.inl hplain) (hslash rfl) fun hc => absurd hc hquote, ih]
    rfl
  | line hn _ ih =>
    rw [List.append_assoc, multiBasic?_line hn, ih]
    rfl
  | escape _ he _ ih =>
    rw [List.cons_append, List.append_assoc, escapes_multiBasic?.read_escape he, ih]
    rfl
  | @gap run b n g w t _ hb hn hg hend _ ih =>
    have hassoc : '\\' :: (b ++ (n ++ (g ++ w))) ++ '"' :: '"' :: '"' :: rest =
        '\\' :: (b ++ (n ++ (g ++ (w ++ '"' :: '"' :: '"' :: rest)))) := by simp
    rw [hassoc, multiBasic?_slash hb hn hg (hend.append (notWhite_cons (by decide) _)), ih]

lemma closing_sound (h : closing q s = (t, rest)) :
    s = t ++ rest ∧ (t = [] ∨ t = [q] ∨ t = [q, q]) := by
  rw [closing.eq_def] at h
  split at h
  · split at h
    · next ha =>
      split at h
      · next hb =>
        cases h
        rw [ha, hb]
        exact ⟨rfl, .inr (.inr rfl)⟩
      · cases h
        rw [ha]
        exact ⟨rfl, .inr (.inl rfl)⟩
    · cases h
      exact ⟨rfl, .inl rfl⟩
  · split at h
    · next ha =>
      cases h
      rw [ha]
      exact ⟨rfl, .inr (.inl rfl)⟩
    · cases h
      exact ⟨rfl, .inl rfl⟩
  · cases h
    exact ⟨rfl, .inl rfl⟩

lemma closing_text (h : closing q s = (t, rest)) :
    q :: q :: q :: s = t ++ q :: q :: q :: rest ∧ MultiText q 0 t t := by
  obtain ⟨rfl, hquotes⟩ := closing_sound h
  obtain rfl | rfl | rfl := hquotes
  · exact ⟨rfl, .nil 0⟩
  · exact ⟨rfl, .quote (by decide) (.nil 1)⟩
  · exact ⟨rfl, .quote (by decide) (.quote (by decide) (.nil 2))⟩

/-- A gap in front of no white space that ends a line begins with the end of it. -/
lemma Gap.split {g : List Char} (hg : Gap g) (hs : NotWhite s)
    (hends : endsLine (g ++ s) = true) :
    ∃ b n g', g = b ++ (n ++ g') ∧ (∀ c ∈ b, isBlank c) ∧ Newline n ∧ Gap g' := by
  induction hg with
  | nil =>
    cases s with
    | nil => cases hends
    | cons c s =>
      have hc := hs c rfl
      simp only [List.mem_cons, List.not_mem_nil, or_false, not_or] at hc
      have hskip : skipBlanks (c :: s) = c :: s := skipBlanks_cons (by simp [isBlank, hc]) s
      rw [endsLine, List.nil_append, hskip] at hends
      split at hends
      · next heq => exact absurd (List.head_eq_of_cons_eq heq) hc.2.2.1
      · next heq => exact absurd (List.head_eq_of_cons_eq heq) hc.2.2.2
      · cases hends
  | @blank c g hc _ ih =>
    have hsame : endsLine (c :: g ++ s) = endsLine (g ++ s) := by
      rw [endsLine, endsLine, List.cons_append, skipBlanks, List.dropWhile_cons, if_pos hc,
        skipBlanks]
    obtain ⟨b, n, g', rfl, hb, hn, hg'⟩ := ih (hsame ▸ hends)
    exact ⟨c :: b, n, g', rfl, List.forall_mem_cons.2 ⟨hc, hb⟩, hn, hg'⟩
  | @line n g hn hg _ => exact ⟨[], n, g, rfl, by simp, hn, hg⟩

/-- What is read between three double quotes is text behind a gap, of which there is none unless one
is being dropped. -/
lemma multiBasic?_sound {skipping : Bool} (h : multiBasic? skipping s = some (t, rest)) :
    ∃ g w, s = g ++ (w ++ '"' :: '"' :: '"' :: rest) ∧ Gap g ∧ MultiText '"' 0 w t ∧
      (skipping = false → g = []) ∧
      (skipping = true → NotWhite w) := by
  fun_induction multiBasic? skipping s generalizing t rest with
  | case1 => cases h
  | case2 skipping s =>
    obtain ⟨hs, ht⟩ := closing_text (Option.some.inj h)
    refine ⟨[], t, hs, .nil, ht, fun _ => rfl, fun _ => ?_⟩
    obtain ⟨-, rfl | rfl | rfl⟩ := closing_sound (Option.some.inj h)
    · exact notWhite_nil
    · exact notWhite_cons (by decide) _
    · exact notWhite_cons (by decide) _
  | case3 skipping a b c d s ih =>
    obtain ⟨x, hx, h⟩ := Option.bind_eq_some_iff.1 h
    obtain ⟨t', rfl, hread⟩ := map_put_eq_some_iff.1 h
    obtain ⟨g, w, rfl, hg, hw, hgap, -⟩ := ih hread
    obtain rfl := hgap rfl
    exact ⟨[], '\\' :: ('u' :: [a, b, c, d] ++ w), rfl, .nil,
      .escape rfl (.small rfl (named?_iff.1 hx)) hw, fun _ => rfl, fun _ => notWhite_slash _⟩
  | case4 skipping a b c d e f g h' s ih =>
    obtain ⟨x, hx, h⟩ := Option.bind_eq_some_iff.1 h
    obtain ⟨t', rfl, hread⟩ := map_put_eq_some_iff.1 h
    obtain ⟨gap, w, rfl, hg, hw, hgap, -⟩ := ih hread
    obtain rfl := hgap rfl
    exact ⟨[], '\\' :: ('U' :: [a, b, c, d, e, f, g, h'] ++ w), rfl, .nil,
      .escape rfl (.large rfl (named?_iff.1 hx)) hw, fun _ => rfl, fun _ => notWhite_slash _⟩
  | case5 skipping e s _ _ x hx ih =>
    obtain ⟨t', rfl, hread⟩ := map_put_eq_some_iff.1 h
    obtain ⟨g, w, rfl, hg, hw, hgap, -⟩ := ih hread
    obtain rfl := hgap rfl
    exact ⟨[], '\\' :: ([e] ++ w), rfl, .nil, .escape rfl (.short (escaped?_iff.1 hx)) hw,
      fun _ => rfl, fun _ => notWhite_slash _⟩
  | case6 skipping c s _ _ _ hends ih =>
    obtain ⟨g, w, hs, hg, hw, -, hwhite⟩ := ih h
    have hfirst := (hwhite rfl).append (notWhite_cons (by decide : '"' ∉ _) ('"' :: '"' :: rest))
    rw [hs] at hends ⊢
    obtain ⟨b, n, g', rfl, hb, hn, hg'⟩ := hg.split hfirst hends
    exact ⟨[], '\\' :: (b ++ (n ++ (g' ++ w))), by simp, .nil,
      .gap rfl hb hn hg' (hwhite rfl) hw, fun _ => rfl, fun _ => notWhite_slash _⟩
  | case7 => cases h
  | case8 s ih =>
    obtain ⟨g, w, rfl, hg, hw, -, hwhite⟩ := ih h
    exact ⟨'\r' :: '\n' :: g, w, rfl, .line .returnFeed hg, hw, fun h => (by cases h), hwhite⟩
  | case9 skipping s hskip ih =>
    obtain ⟨t', rfl, hread⟩ := map_put_eq_some_iff.1 h
    obtain ⟨g, w, rfl, hg, hw, hgap, -⟩ := ih hread
    obtain rfl := hgap rfl
    exact ⟨[], '\r' :: '\n' :: w, rfl, .nil, .line .returnFeed hw, fun _ => rfl,
      fun h => absurd h hskip⟩
  | case10 skipping c s _ _ _ _ _ hblank ih =>
    obtain ⟨g, w, rfl, hg, hw, -, hwhite⟩ := ih h
    simp only [Bool.and_eq_true, Bool.or_eq_true, decide_eq_true_eq] at hblank
    obtain ⟨rfl, hc | rfl⟩ := hblank
    · exact ⟨c :: g, w, rfl, .blank hc hg, hw, fun h => (by cases h), hwhite⟩
    · exact ⟨'\n' :: g, w, rfl, .line .feed hg, hw, fun h => (by cases h), hwhite⟩
  | case11 skipping c s hthree hu hU hslash' hreturn hblank hplain ih =>
    obtain ⟨t', rfl, hread⟩ := map_put_eq_some_iff.1 h
    obtain ⟨g, w, rfl, hg, hw, hgap, -⟩ := ih hread
    obtain rfl := hgap rfl
    rw [List.nil_append] at hthree hslash' ⊢
    have hslash : c ≠ '\\' := by
      intro hc
      cases w with
      | nil => exact hslash' _ _ hc rfl
      | cons d w => exact hslash' _ _ hc rfl
    simp only [Bool.or_eq_true, decide_eq_true_eq] at hplain
    refine ⟨[], c :: w, rfl, .nil, ?_, fun _ => rfl, ?_⟩
    · by_cases hquote : c = '"'
      · have hrun : ¬['"', '"'] <+: w ++ '"' :: '"' :: '"' :: rest := by
          rintro ⟨others, hothers⟩
          exact hthree others hquote hothers.symm
        rw [hquote]
        exact hw.cons_quote (.inl rfl) hrun
      · obtain hplain | rfl := hplain
        · exact .self hplain hquote (fun _ => hslash) hw
        · exact .line .feed hw
    · intro hskip
      apply notWhite_cons
      rw [hskip] at hblank
      simp only [isBlank, Bool.true_and, Bool.or_eq_true, decide_eq_true_eq, not_or] at hblank
      simp [hblank, ne_return_of_plain hplain]
  | case12 => cases h

lemma multiLiteral?_complete (h : MultiText '\'' run w t) (hrest : NotFirst '\'' rest) :
    multiLiteral? (w ++ '\'' :: '\'' :: '\'' :: rest) = some (t, rest) := by
  induction h with
  | nil => exact congrArg some (closing_quotes (.inl rfl) hrest)
  | quote hrun h ih => exact multi_multiLiteral?.read_quote (.inr rfl) hrun h hrest ih
  | self hplain hquote _ _ ih =>
    rw [List.cons_append, multiLiteral?_self (.inl hplain) fun hc => absurd hc hquote, ih]
    rfl
  | line hn _ ih =>
    rw [List.append_assoc]
    cases hn with
    | feed =>
      rw [List.singleton_append, multiLiteral?_self (.inr rfl) fun h => absurd h (by decide), ih]
      rfl
    | returnFeed => exact congrArg (Option.map (put '\n')) ih
  | escape hq | gap hq => cases hq

lemma multiLiteral?_sound (h : multiLiteral? s = some (t, rest)) :
    ∃ w, s = w ++ '\'' :: '\'' :: '\'' :: rest ∧ MultiText '\'' 0 w t := by
  fun_induction multiLiteral? s generalizing t rest with
  | case1 => cases h
  | case2 s => exact ⟨t, closing_text (Option.some.inj h)⟩
  | case3 s ih =>
    obtain ⟨t', rfl, hread⟩ := map_put_eq_some_iff.1 h
    obtain ⟨w, rfl, hw⟩ := ih hread
    exact ⟨'\r' :: '\n' :: w, rfl, .line .returnFeed hw⟩
  | case4 c s hthree hreturn hplain ih =>
    obtain ⟨t', rfl, hread⟩ := map_put_eq_some_iff.1 h
    obtain ⟨w, rfl, hw⟩ := ih hread
    simp only [Bool.or_eq_true, decide_eq_true_eq] at hplain
    refine ⟨c :: w, rfl, ?_⟩
    by_cases hquote : c = '\''
    · have hrun : ¬['\'', '\''] <+: w ++ '\'' :: '\'' :: '\'' :: rest := by
        rintro ⟨others, hothers⟩
        exact hthree others hquote hothers.symm
      rw [hquote]
      exact hw.cons_quote (.inr rfl) hrun
    · obtain hplain | rfl := hplain
      · exact .self hplain hquote (fun h => absurd h (by decide)) hw
      · exact .line .feed hw
  | case5 => cases h

lemma dropLineEnd_newline {n : List Char} (hn : Newline n) (s : List Char) :
    dropLineEnd (n ++ s) = s := by
  cases hn <;> rfl

/-- A line end in front is dropped, if there is one. -/
lemma dropLineEnd_cases (s : List Char) :
    (∃ n, Newline n ∧ s = n ++ dropLineEnd s) ∨
      dropLineEnd s = s ∧ ∀ n s', Newline n → s ≠ n ++ s' := by
  fun_cases dropLineEnd s with
  | case1 rest => exact .inl ⟨_, .feed, rfl⟩
  | case2 rest => exact .inl ⟨_, .returnFeed, rfl⟩
  | case3 _ hfeed hreturn =>
    refine .inr ⟨rfl, fun n s' hn heq => ?_⟩
    cases hn with
    | feed => exact hfeed s' heq
    | returnFeed => exact hreturn s' heq

lemma dropLineEnd_quotes (hq : q = '"' ∨ q = '\'') (h : ∀ n w', Newline n → w ≠ n ++ w')
    (rest : List Char) : dropLineEnd (w ++ q :: rest) = w ++ q :: rest := by
  obtain ⟨hfeed, hreturn, -⟩ := ne_of_quote hq
  apply dropLineEnd.eq_3
  · intro s' heq
    cases w with
    | nil => exact hfeed (List.head_eq_of_cons_eq heq)
    | cons c w =>
      rw [List.head_eq_of_cons_eq heq] at h
      exact h _ w .feed rfl
  · intro s' heq
    rcases w with _ | ⟨c, _ | ⟨d, w⟩⟩
    · exact hreturn (List.head_eq_of_cons_eq heq)
    · exact hfeed (List.head_eq_of_cons_eq (List.tail_eq_of_cons_eq heq))
    · rw [List.head_eq_of_cons_eq heq, List.head_eq_of_cons_eq (List.tail_eq_of_cons_eq heq)] at h
      exact h _ w .returnFeed rfl

/-- What stands behind three opening quotes, by what is read there. -/
lemma Quoted.of_multi (hq : q = '"' ∨ q = '\'') (h : MultiText q 0 w t)
    (hs : dropLineEnd s = w ++ q :: q :: q :: rest) :
    ∃ w', q :: q :: q :: s = w' ++ rest ∧ Quoted w' t := by
  obtain ⟨n, hn, hcut⟩ | ⟨hsame, hfirst⟩ := dropLineEnd_cases s
  · rw [hcut, hs]
    exact ⟨_, by simp, .multiLine hq hn h⟩
  · rw [← hsame, hs]
    refine ⟨_, by simp, .multi hq (fun n w' hn hw => ?_) h⟩
    apply hfirst n (w' ++ q :: q :: q :: rest) hn
    rw [← hsame, hs, hw, List.append_assoc]

lemma Basic.notFirst (h : Basic w t) : NotFirst '"' w := by
  cases h with
  | nil =>
    intro c hc
    cases hc
  | self _ hquote _ _ => exact notFirst_cons hquote _
  | escape => exact notFirst_cons (by decide) _

/-- Two quotes do not stand where a string on one line closes in front of no other quote. -/
lemma not_two_quotes (hw : NotFirst q w) (hrest : NotFirst q rest) :
    ¬[q, q] <+: w ++ q :: rest := by
  rintro ⟨others, hothers⟩
  cases w with
  | nil =>
    rw [← List.tail_eq_of_cons_eq hothers] at hrest
    exact hrest q rfl rfl
  | cons c w => exact hw c rfl (List.head_eq_of_cons_eq hothers).symm

/-- In front of anything but a quote, strings are read as they are spelled. -/
theorem reads_quoted? :
    Reads quoted? Quoted fun rest => NotFirst '"' rest ∧ NotFirst '\'' rest where
  sound s t rest h := by
    rw [quoted?.eq_def] at h
    split at h
    · obtain ⟨g, w, hs, -, hw, hgap, -⟩ := multiBasic?_sound h
      obtain rfl := hgap rfl
      exact Quoted.of_multi (.inl rfl) hw hs
    · obtain ⟨w, rfl, hw⟩ := basic?_sound h
      exact ⟨_, by simp, .basic hw⟩
    · obtain ⟨w, hs, hw⟩ := multiLiteral?_sound h
      exact Quoted.of_multi (.inr rfl) hw hs
    · obtain ⟨rfl, ht⟩ := literal?_sound h
      exact ⟨_, by simp, .literal ht⟩
    · cases h
  complete w t rest h hrest := by
    cases h with
    | @basic w _ h =>
      rw [List.cons_append, List.append_assoc, List.singleton_append,
        quoted?_basic (not_two_quotes h.notFirst hrest.1)]
      exact basic?_complete h rest
    | literal h =>
      have hfirst : NotFirst '\'' t := by
        intro c hc
        exact (h c (List.mem_of_mem_head? hc)).2
      rw [List.cons_append, List.append_assoc, List.singleton_append,
        quoted?_literal (not_two_quotes hfirst hrest.2)]
      exact literal?_self (fun c hc => (h c hc).1) (fun hmem => (h _ hmem).2 rfl) rest
    | @multi q w _ hq hfirst h =>
      have hassoc : q :: q :: q :: (w ++ [q, q, q]) ++ rest =
          q :: q :: q :: (w ++ q :: q :: q :: rest) := by simp
      rw [hassoc]
      obtain rfl | rfl := hq
      · rw [quoted?.eq_1, dropLineEnd_quotes (.inl rfl) hfirst, multiBasic?_complete h hrest.1]
      · rw [quoted?.eq_3, dropLineEnd_quotes (.inr rfl) hfirst, multiLiteral?_complete h hrest.2]
    | @multiLine q n w _ hq hn h =>
      have hassoc : q :: q :: q :: (n ++ (w ++ [q, q, q])) ++ rest =
          q :: q :: q :: (n ++ (w ++ q :: q :: q :: rest)) := by simp
      rw [hassoc]
      obtain rfl | rfl := hq
      · rw [quoted?.eq_1, dropLineEnd_newline hn, multiBasic?_complete h hrest.1]
      · rw [quoted?.eq_3, dropLineEnd_newline hn, multiLiteral?_complete h hrest.2]

end Texts

end ApiBalancer.Toml
