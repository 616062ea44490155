import ApiBalancer.Toml.Quoted
import ApiBalancer.Toml.Writer
import Mathlib.Tactic.Common

/-!
# Written TOML strings are read back

Each of the four ways to write a string is undone by reading it (`quoted?_inStyle`), in front of
anything but another quote. Between double quotes every character can be written; between single
quotes the way is only chosen for strings that need no escapes there. Quotes at the end of a string
between three quotes run into the closing ones, which is why these have a case of their own.
-/

namespace ApiBalancer.Toml

variable {c e x : Char} {s rest : List Char}

/-- Whether a text does not begin with a given character. -/
def NotFirst (q : Char) (s : List Char) : Prop := ∀ c ∈ s.head?, c ≠ q

lemma notFirst_cons {q : Char} (h : c ≠ q) (s : List Char) : NotFirst q (c :: s) := by
  intro d hd
  cases hd
  exact h

lemma named?_numbered : ∀ n < 0x80, ¬isPlain (Char.ofNat n) →
    named? ['0', '0', (Nat.digitChar (n / 16)).toUpper, (Nat.digitChar (n % 16)).toUpper] =
      some (Char.ofNat n) := by
  decide

lemma toNat_lt_of_not_plain (h : ¬isPlain c) : c.toNat < 0x80 := by
  simp only [isPlain, Bool.or_eq_true, Bool.and_eq_true, decide_eq_true_eq, bne_iff_ne, not_or,
    not_and] at h
  have hlow := h.2
  omega

/-- The digits of a control character name it. -/
lemma named?_of_not_plain (h : ¬isPlain c) :
    named? ['0', '0', (Nat.digitChar (c.toNat / 16)).toUpper,
      (Nat.digitChar (c.toNat % 16)).toUpper] = some c := by
  have hnamed := named?_numbered c.toNat (toNat_lt_of_not_plain h)
  rw [Char.ofNat_toNat] at hnamed
  exact hnamed h

/-- A character is written as a short escape, by its number or as itself. -/
lemma escape_cases (c : Char) :
    (∃ e, escape c = ['\\', e] ∧ escaped? e = some c) ∨
    (escape c = numbered c ∧ ¬isPlain c) ∨
    (escape c = [c] ∧ isPlain c ∧ c ≠ '\\') := by
  unfold escape
  split_ifs with hslash hbackspace htab hnewline hfeed hreturn hplain
  case neg => exact .inr (.inl ⟨rfl, hplain⟩)
  case pos => exact .inl ⟨_, rfl, by rw [hslash]; rfl⟩
  case pos => exact .inl ⟨_, rfl, by rw [hbackspace]; rfl⟩
  case pos => exact .inl ⟨_, rfl, by rw [htab]; rfl⟩
  case pos => exact .inl ⟨_, rfl, by rw [hnewline]; rfl⟩
  case pos => exact .inl ⟨_, rfl, by rw [hfeed]; rfl⟩
  case pos => exact .inl ⟨_, rfl, by rw [hreturn]; rfl⟩
  case pos => exact .inr (.inr ⟨rfl, hplain, hslash⟩)

/-- No escape begins with a quote or the end of a line. -/
lemma escape_notFirst {q : Char} (hq : q = '"' ∨ q = '\n' ∨ q = '\r') (hc : c ≠ q)
    (rest : List Char) : NotFirst q (escape c ++ rest) := by
  rcases escape_cases c with ⟨e, hwritten, -⟩ | ⟨hwritten, -⟩ | ⟨hwritten, -, -⟩
  · rw [hwritten]
    exact notFirst_cons (by rcases hq with rfl | rfl | rfl <;> decide) _
  · rw [hwritten]
    exact notFirst_cons (by rcases hq with rfl | rfl | rfl <;> decide) _
  · rw [hwritten]
    exact notFirst_cons hc _

lemma letter_of_escaped? (h : escaped? e = some x) : e ≠ 'u' ∧ e ≠ 'U' := by
  constructor
  · rintro rfl
    cases h
  · rintro rfl
    cases h

lemma basic?_short (h : escaped? e = some x) (rest : List Char) :
    basic? ('\\' :: e :: rest) = (basic? rest).map (put x) := by
  obtain ⟨hu, hU⟩ := letter_of_escaped? h
  rw [basic?.eq_5 e rest (fun _ _ _ _ _ he _ => hu he) fun _ _ _ _ _ _ _ _ _ he _ => hU he, h,
    Option.bind_some]

lemma basic?_numbered (h : ¬isPlain c) (rest : List Char) :
    basic? (numbered c ++ rest) = (basic? rest).map (put c) := by
  change (named? ['0', '0', (Nat.digitChar (c.toNat / 16)).toUpper,
    (Nat.digitChar (c.toNat % 16)).toUpper]).bind _ = _
  rw [named?_of_not_plain h]
  rfl

lemma basic?_plain (h : isPlain c) (hquote : c ≠ '"') (hslash : c ≠ '\\') (rest : List Char) :
    basic? (c :: rest) = (basic? rest).map (put c) := by
  rw [basic?.eq_6 c rest hquote (fun _ _ _ _ _ hc _ => hslash hc)
    (fun _ _ _ _ _ _ _ _ _ hc _ => hslash hc) fun _ _ hc _ => hslash hc, if_pos h]

lemma basic?_escape (hquote : c ≠ '"') (rest : List Char) :
    basic? (escape c ++ rest) = (basic? rest).map (put c) := by
  rcases escape_cases c with ⟨e, hwritten, he⟩ | ⟨hwritten, hplain⟩ | ⟨hwritten, hplain, hslash⟩
  · rw [hwritten]
    exact basic?_short he rest
  · rw [hwritten]
    exact basic?_numbered hplain rest
  · rw [hwritten]
    exact basic?_plain hplain hquote hslash rest

/-- A string between double quotes on one line is read back. -/
theorem basic?_oneLine (s rest : List Char) : basic? (oneLine s ++ '"' :: rest) = some (s, rest) := by
  induction s with
  | nil => rfl
  | cons c s ih =>
    rw [oneLine, List.append_assoc]
    split
    · next hquote =>
      rw [hquote]
      have hescaped : escaped? '"' = some '"' := rfl
      refine (basic?_short hescaped (oneLine s ++ '"' :: rest)).trans ?_
      rw [ih]
      rfl
    · next hquote =>
      rw [basic?_escape hquote, ih]
      rfl

lemma oneLine_notFirst (s : List Char) : NotFirst '"' (oneLine s) := by
  cases s with
  | nil => exact fun c hc => by cases hc
  | cons c s =>
    rw [oneLine]
    split
    · exact notFirst_cons (by decide) _
    · next hquote => exact escape_notFirst (.inl rfl) hquote _

/-- A string between single quotes on one line is read back. -/
theorem literal?_self (hplain : ∀ c ∈ s, isPlain c) (hquote : '\'' ∉ s) (rest : List Char) :
    literal? (s ++ '\'' :: rest) = some (s, rest) := by
  induction s with
  | nil => rfl
  | cons c s ih =>
    have hc : c ≠ '\'' := fun h => hquote (h ▸ List.mem_cons_self)
    have hrest := ih (fun d hd => hplain d (List.mem_cons_of_mem c hd)) fun h =>
      hquote (List.mem_cons_of_mem c h)
    rw [List.cons_append, literal?.eq_3 c _ hc, if_pos (hplain c List.mem_cons_self), hrest]
    rfl

/-! ### Several lines -/

/-- Up to two quotes in front of the closing ones belong to the string. -/
lemma closing_quotes {q : Char} {quotes : List Char} (h : quotes = [] ∨ quotes = [q] ∨
    quotes = [q, q]) (hrest : NotFirst q rest) : closing q (quotes ++ rest) = (quotes, rest) := by
  rcases h with rfl | rfl | rfl
  · match rest with
    | [] => rfl
    | [a] => simp [closing, hrest a rfl]
    | a :: b :: rest => simp [closing, hrest a rfl]
  · match rest with
    | [] => simp [closing]
    | a :: rest => simp [closing, hrest a rfl]
  · simp [closing]

lemma multiBasic?_close {quotes : List Char} (h : quotes = [] ∨ quotes = ['"'] ∨
    quotes = ['"', '"']) (hrest : NotFirst '"' rest) :
    multiBasic? false (quotes ++ '"' :: '"' :: '"' :: rest) = some (quotes, rest) := by
  have hclosing := closing_quotes h hrest
  rcases h with rfl | rfl | rfl <;> exact congrArg some hclosing

lemma multiBasic?_short (h : escaped? e = some x) (rest : List Char) :
    multiBasic? false ('\\' :: e :: rest) = (multiBasic? false rest).map (put x) := by
  obtain ⟨hu, hU⟩ := letter_of_escaped? h
  rw [multiBasic?.eq_5 false e rest (fun _ _ _ _ _ he _ => hu he)
    fun _ _ _ _ _ _ _ _ _ he _ => hU he, h]

lemma multiBasic?_numbered (h : ¬isPlain c) (rest : List Char) :
    multiBasic? false (numbered c ++ rest) = (multiBasic? false rest).map (put c) := by
  change (named? ['0', '0', (Nat.digitChar (c.toNat / 16)).toUpper,
    (Nat.digitChar (c.toNat % 16)).toUpper]).bind _ = _
  rw [named?_of_not_plain h]
  rfl

lemma ne_return_of_plain (h : isPlain c ∨ c = '\n') : c ≠ '\r' := by
  rintro rfl
  revert h
  decide

/-- A character that stands for itself. Quotes do as long as they are not three. -/
lemma multiBasic?_self (h : isPlain c ∨ c = '\n') (hslash : c ≠ '\\')
    (hquotes : c = '"' → ¬['"', '"'] <+: rest) :
    multiBasic? false (c :: rest) = (multiBasic? false rest).map (put c) := by
  have hthree : ∀ others, c = '"' → rest = '"' :: '"' :: others → False := fun others hc hrest =>
    hquotes hc ⟨others, hrest.symm⟩
  rw [multiBasic?.eq_7 false c rest hthree (fun _ _ _ _ _ hc _ => hslash hc)
    (fun _ _ _ _ _ _ _ _ _ hc _ => hslash hc) (fun _ _ hc _ => hslash hc)
    fun _ hc _ => ne_return_of_plain h hc]
  simp [h]

lemma multiBasic?_escape (hquote : c ≠ '"') (rest : List Char) :
    multiBasic? false (escape c ++ rest) = (multiBasic? false rest).map (put c) := by
  rcases escape_cases c with ⟨e, hwritten, he⟩ | ⟨hwritten, hplain⟩ | ⟨hwritten, hplain, hslash⟩
  · rw [hwritten]
    exact multiBasic?_short he rest
  · rw [hwritten]
    exact multiBasic?_numbered hplain rest
  · rw [hwritten]
    exact multiBasic?_self (.inl hplain) hslash fun hc => absurd hc hquote

/-- Two quotes are not followed by a third one that is written as itself. -/
lemma manyLines_notFirst {run : Nat} (h : c = '"' → run = 2) (s rest : List Char) :
    NotFirst '"' (manyLines run (c :: s) ++ rest) := by
  rw [manyLines]
  split
  · next hquote =>
    rw [if_pos (h hquote)]
    exact notFirst_cons (by decide) _
  · next hquote =>
    split
    · exact notFirst_cons (by decide) _
    · rw [List.append_assoc]
      exact escape_notFirst (.inl rfl) hquote _

/-- A quote that has two more behind it is one of the last: elsewhere the third one is escaped. -/
lemma last_of_quotes {run : Nat} (hrun : run < 2)
    (h : ['"', '"'] <+: manyLines (run + 1) s ++ '"' :: '"' :: '"' :: rest) :
    s = [] ∨ s = ['"'] ∧ run = 0 := by
  obtain ⟨others, hothers⟩ := h
  match s with
  | [] => exact .inl rfl
  | d :: s' =>
    by_cases hd : d = '"' → run + 1 = 2
    · have hfirst := manyLines_notFirst hd s' ('"' :: '"' :: '"' :: rest)
      rw [← hothers] at hfirst
      exact (hfirst '"' rfl rfl).elim
    · obtain ⟨rfl, hne⟩ := Classical.not_imp.1 hd
      have hsecond : manyLines (run + 1) ('"' :: s') = '"' :: manyLines (run + 2) s' := by
        rw [manyLines, if_pos rfl, if_neg hne]
      obtain rfl : run = 0 := by omega
      match s' with
      | [] => exact .inr ⟨rfl, rfl⟩
      | d' :: s'' =>
        rw [hsecond] at hothers
        have hthird : NotFirst '"' (manyLines 2 (d' :: s'') ++ '"' :: '"' :: '"' :: rest) :=
          manyLines_notFirst (fun _ => rfl) s'' _
        have hquote : '"' :: others = manyLines 2 (d' :: s'') ++ '"' :: '"' :: '"' :: rest :=
          List.tail_eq_of_cons_eq hothers
        rw [← hquote] at hthird
        exact (hthird '"' rfl rfl).elim

/-- A string between three double quotes is read back. -/
theorem multiBasic?_manyLines (run : Nat) (hrun : run ≤ 2) (s : List Char)
    (hrest : NotFirst '"' rest) :
    multiBasic? false (manyLines run s ++ '"' :: '"' :: '"' :: rest) = some (s, rest) := by
  induction s generalizing run with
  | nil => exact multiBasic?_close (.inl rfl) hrest
  | cons c s ih =>
    rw [manyLines]
    split
    · next hquote =>
      subst hquote
      split
      · next htwo =>
        have hescaped : escaped? '"' = some '"' := rfl
        refine (multiBasic?_short hescaped
          (manyLines 0 s ++ '"' :: '"' :: '"' :: rest)).trans ?_
        rw [ih 0 (by omega)]
        rfl
      · next htwo =>
        -- What follows decides whether this quote is one of the last, which the closing ones take.
        by_cases hquotes : ['"', '"'] <+: manyLines (run + 1) s ++ '"' :: '"' :: '"' :: rest
        · rcases last_of_quotes (by omega) hquotes with rfl | ⟨rfl, rfl⟩
          · exact (multiBasic?_close (.inr (.inl rfl)) hrest :)
          · exact (multiBasic?_close (.inr (.inr rfl)) hrest :)
        · refine (multiBasic?_self (.inl rfl) (by decide) fun _ => hquotes).trans ?_
          rw [ih (run + 1) (by omega)]
          rfl
    · next hquote =>
      split
      · next hnewline =>
        subst hnewline
        have hself : multiBasic? false
            ('\n' :: (manyLines 0 s ++ '"' :: '"' :: '"' :: rest)) = _ :=
          multiBasic?_self (.inr rfl) (by decide) fun h => absurd h (by decide)
        refine hself.trans ?_
        rw [ih 0 (by omega)]
        rfl
      · rw [List.append_assoc, multiBasic?_escape hquote, ih 0 (by omega)]
        rfl

lemma multiLiteral?_close {quotes : List Char} (h : quotes = [] ∨ quotes = ['\''] ∨
    quotes = ['\'', '\'']) (hrest : NotFirst '\'' rest) :
    multiLiteral? (quotes ++ '\'' :: '\'' :: '\'' :: rest) = some (quotes, rest) := by
  have hclosing := closing_quotes h hrest
  rcases h with rfl | rfl | rfl <;> exact congrArg some hclosing

lemma multiLiteral?_self (h : isPlain c ∨ c = '\n') (hquotes : c = '\'' → ¬['\'', '\''] <+: rest) :
    multiLiteral? (c :: rest) = (multiLiteral? rest).map (put c) := by
  have hthree : ∀ others, c = '\'' → rest = '\'' :: '\'' :: others → False :=
    fun others hc hrest => hquotes hc ⟨others, hrest.symm⟩
  rw [multiLiteral?.eq_4 c rest hthree fun _ hc _ => ne_return_of_plain h hc]
  simp [h]

lemma longestRun_tail_le (q c : Char) (s : List Char) :
    longestRun q s ≤ longestRun q (c :: s) := by
  rw [longestRun]
  exact Nat.le_max_right _ _

lemma not_three_of_longestRun {q : Char} (h : longestRun q s ≤ 2) : ¬[q, q, q] <+: s := by
  rintro ⟨others, rfl⟩
  have hrun : 3 ≤ longestRun q ([q, q, q] ++ others) := by
    refine Nat.le_trans ?_ (Nat.le_max_left _ _)
    simp
  omega

lemma not_mem_of_longestRun {q : Char} (h : longestRun q s = 0) : q ∉ s := by
  induction s with
  | nil => simp
  | cons c s ih =>
    rw [longestRun, Nat.max_eq_zero_iff] at h
    rw [List.mem_cons, not_or]
    refine ⟨?_, ih h.2⟩
    rintro rfl
    simp at h

/-- A string between three single quotes is read back. -/
theorem multiLiteral?_verbatim (hplain : ∀ c ∈ s, isPlain c ∨ c = '\n')
    (hruns : longestRun '\'' s ≤ 2) (hrest : NotFirst '\'' rest) :
    multiLiteral? (s ++ '\'' :: '\'' :: '\'' :: rest) = some (s, rest) := by
  induction s with
  | nil => exact multiLiteral?_close (.inl rfl) hrest
  | cons c s ih =>
    have hc := hplain c List.mem_cons_self
    have hnext := ih (fun d hd => hplain d (List.mem_cons_of_mem c hd))
      (Nat.le_trans (longestRun_tail_le '\'' c s) hruns)
    have hread (hquotes : c = '\'' → ¬['\'', '\''] <+: s ++ '\'' :: '\'' :: '\'' :: rest) :
        multiLiteral? (c :: (s ++ '\'' :: '\'' :: '\'' :: rest)) = some (c :: s, rest) := by
      rw [multiLiteral?_self hc hquotes, hnext]
      rfl
    by_cases hquote : c = '\''
    · subst hquote
      match s with
      | [] => exact (multiLiteral?_close (.inr (.inl rfl)) hrest :)
      | [d] =>
        by_cases hd : d = '\''
        · rw [hd]
          exact (multiLiteral?_close (.inr (.inr rfl)) hrest :)
        · apply hread
          rintro - ⟨others, hothers⟩
          exact hd (List.head_eq_of_cons_eq hothers).symm
      | d :: d' :: s' =>
        apply hread
        rintro - ⟨others, hothers⟩
        refine not_three_of_longestRun hruns ⟨s', ?_⟩
        have hd := List.head_eq_of_cons_eq hothers
        have hd' := List.head_eq_of_cons_eq (List.tail_eq_of_cons_eq hothers)
        rw [← hd, ← hd']
        rfl
    · exact hread fun h => absurd h hquote

lemma dropLineEnd_of_notFirst (hfeed : NotFirst '\n' s) (hreturn : NotFirst '\r' s) :
    dropLineEnd s = s := by
  cases s with
  | nil => rfl
  | cons c s =>
    exact dropLineEnd.eq_3 _ (fun _ h => hfeed c rfl (List.head_eq_of_cons_eq h)) fun _ h =>
      hreturn c rfl (List.head_eq_of_cons_eq h)

/-- The line end after the opening quotes is dropped, and nothing else is. -/
lemma dropLineEnd_lead {content : List Char} (h : '\n' ∉ s →
    NotFirst '\n' content ∧ NotFirst '\r' content) : dropLineEnd (lead s ++ content) = content := by
  unfold lead
  split
  · rfl
  · next hnone => exact dropLineEnd_of_notFirst (h hnone).1 (h hnone).2

lemma manyLines_ends (h : '\n' ∉ s) (rest : List Char) :
    NotFirst '\n' (manyLines 0 s ++ '"' :: rest) ∧ NotFirst '\r' (manyLines 0 s ++ '"' :: rest) := by
  cases s with
  | nil => exact ⟨notFirst_cons (by decide) _, notFirst_cons (by decide) _⟩
  | cons c s =>
    have hc : c ≠ '\n' := fun hc => h (hc ▸ List.mem_cons_self)
    rw [manyLines, if_neg hc]
    split
    · exact ⟨notFirst_cons (by decide) _, notFirst_cons (by decide) _⟩
    · rw [List.append_assoc]
      refine ⟨escape_notFirst (.inr (.inl rfl)) hc _, ?_⟩
      by_cases hreturn : c = '\r'
      · rw [hreturn]
        exact notFirst_cons (by decide) _
      · exact escape_notFirst (.inr (.inr rfl)) hreturn _

lemma verbatim_ends (hplain : ∀ c ∈ s, isPlain c ∨ c = '\n') (h : '\n' ∉ s) (rest : List Char) :
    NotFirst '\n' (s ++ '\'' :: rest) ∧ NotFirst '\r' (s ++ '\'' :: rest) := by
  cases s with
  | nil => exact ⟨notFirst_cons (by decide) _, notFirst_cons (by decide) _⟩
  | cons c s =>
    refine ⟨notFirst_cons ?_ _, notFirst_cons (ne_return_of_plain (hplain c List.mem_cons_self)) _⟩
    rintro rfl
    exact h List.mem_cons_self

lemma isVerbatim_iff : isVerbatim s ↔ ∀ c ∈ s, isPlain c ∨ c = '\n' := by
  simp [isVerbatim]

/-- What the chosen way asks of a string. -/
lemma style_cases (s : List Char) :
    style s = .basic ∨ style s = .multiBasic ∨
    (style s = .literal ∧ (∀ c ∈ s, isPlain c) ∧ '\'' ∉ s) ∨
    (style s = .multiLiteral ∧ (∀ c ∈ s, isPlain c ∨ c = '\n') ∧ longestRun '\'' s ≤ 2) := by
  unfold style
  split_ifs with hbasic hliteral hmany hverbatim hlines
  · exact .inl rfl
  · obtain ⟨hplain, hquotes, hlines⟩ := hliteral
    refine .inr (.inr (.inl ⟨rfl, fun c hc => ?_, not_mem_of_longestRun hquotes⟩))
    rcases isVerbatim_iff.1 hplain c hc with h | rfl
    · exact h
    · exact absurd hc hlines
  · exact .inr (.inl rfl)
  · exact .inr (.inr (.inr ⟨rfl, isVerbatim_iff.1 hverbatim.1, hverbatim.2⟩))
  · exact .inr (.inl rfl)
  · exact .inl rfl

lemma quoted?_basic (h : ¬['"', '"'] <+: s) : quoted? ('"' :: s) = basic? s :=
  quoted?.eq_2 s fun others hs => h ⟨others, hs.symm⟩

lemma quoted?_literal (h : ¬['\'', '\''] <+: s) : quoted? ('\'' :: s) = literal? s :=
  quoted?.eq_4 s fun others hs => h ⟨others, hs.symm⟩

/-- A string is read back from the way in which it is written. -/
theorem quoted?_inStyle (s : List Char) (hdouble : NotFirst '"' rest)
    (hsingle : NotFirst '\'' rest) : quoted? (inStyle s (style s) ++ rest) = some (s, rest) := by
  rcases style_cases s with hstyle | hstyle | ⟨hstyle, hplain, hquote⟩ | ⟨hstyle, hplain, hruns⟩
  · have hwritten : inStyle s (style s) ++ rest = '"' :: (oneLine s ++ '"' :: rest) := by
      rw [hstyle]
      simp [inStyle]
    have htwo : ¬['"', '"'] <+: oneLine s ++ '"' :: rest := by
      rintro ⟨others, hothers⟩
      have hfirst := oneLine_notFirst s
      cases hline : oneLine s with
      | nil =>
        rw [hline] at hothers
        rw [← List.tail_eq_of_cons_eq hothers] at hdouble
        exact hdouble '"' rfl rfl
      | cons d ds =>
        rw [hline] at hothers hfirst
        exact hfirst d rfl (List.head_eq_of_cons_eq hothers).symm
    rw [hwritten, quoted?_basic htwo]
    exact basic?_oneLine s rest
  · have hwritten : inStyle s (style s) ++ rest =
        '"' :: '"' :: '"' :: (lead s ++ (manyLines 0 s ++ '"' :: '"' :: '"' :: rest)) := by
      rw [hstyle]
      simp [inStyle]
    rw [hwritten, quoted?, dropLineEnd_lead fun h => manyLines_ends h _]
    exact multiBasic?_manyLines 0 (Nat.zero_le 2) s hdouble
  · have hwritten : inStyle s (style s) ++ rest = '\'' :: (s ++ '\'' :: rest) := by
      rw [hstyle]
      simp [inStyle]
    have htwo : ¬['\'', '\''] <+: s ++ '\'' :: rest := by
      rintro ⟨others, hothers⟩
      cases s with
      | nil =>
        rw [← List.tail_eq_of_cons_eq hothers] at hsingle
        exact hsingle '\'' rfl rfl
      | cons d ds =>
        have hd : '\'' = d := List.head_eq_of_cons_eq hothers
        exact hquote (hd ▸ List.mem_cons_self)
    rw [hwritten, quoted?_literal htwo]
    exact literal?_self hplain hquote rest
  · have hwritten : inStyle s (style s) ++ rest =
        '\'' :: '\'' :: '\'' :: (lead s ++ (s ++ '\'' :: '\'' :: '\'' :: rest)) := by
      rw [hstyle]
      simp [inStyle]
    rw [hwritten, quoted?, dropLineEnd_lead fun h => verbatim_ends hplain h _]
    exact multiLiteral?_verbatim hplain hruns hsingle

end ApiBalancer.Toml
