import ApiBalancer.Proofs.JsonSpelling

/-!
# White space in JSON texts

A JSON text is made of lexemes, the texts of its tokens, with white space around them as one likes
(`Token.Laid`). Every text that has tokens is laid out in this way (`Token.laid_of_scan?`), and its
tokens are those of its lexemes, however it is laid out (`Token.scan?_laid`).
-/

namespace ApiBalancer.Json.Token

/-- The text of a token. -/
inductive Lexeme : List Char → Token → Prop
  | mark {c : Char} {t : Token} (h : ofChar? c = some t) : Lexeme [c] t
  | string {body : List Char} {us : List Nat} (h : units? (body ++ ['"']) = some (us, [])) :
    Lexeme ('"' :: (body ++ ['"'])) (.string ((textOfUnits? us).map String.ofList))
  | word {w : List Char} {t : Token} (h : ofWord? w = some t) : Lexeme w t

/-- A text is laid out of lexemes: white space stands before, between and behind them as one likes,
but what may belong to a number or word is kept apart from it. -/
inductive Laid : List (List Char) → List Char → Prop
  | nil : Laid [] []
  | space {c : Char} {lexemes : List (List Char)} {s : List Char} (hc : isSpace c = true) :
    Laid lexemes s → Laid lexemes (c :: s)
  | lexeme {w : List Char} {lexemes : List (List Char)} {s : List Char}
    (hend : (∀ c ∈ w, isWordChar c = true) → Ends s) :
    Laid lexemes s → Laid (w :: lexemes) (w ++ s)

lemma ofWord?_wordChars {w : List Char} {t : Token} (h : ofWord? w = some t) :
    ∃ c rest, w = c :: rest ∧ ∀ d ∈ w, isWordChar d = true := by
  unfold ofWord? at h
  split_ifs at h with hnull htrue hfalse hnumber
  · exact ⟨'n', _, hnull, hnull ▸ List.all_eq_true.1 (by decide)⟩
  · exact ⟨'t', _, htrue, htrue ▸ List.all_eq_true.1 (by decide)⟩
  · exact ⟨'f', _, hfalse, hfalse ▸ List.all_eq_true.1 (by decide)⟩
  · obtain ⟨c, rest, rfl, hc, hrest⟩ := isNumber_wordChars hnumber
    exact ⟨c, rest, rfl, List.forall_mem_cons.2 ⟨hc, hrest⟩⟩

/-- A string that is read off the front of a text is closed there, and does not depend on what
comes after it. -/
lemma exists_body {s rest : List Char} {us : List Nat} (h : units? s = some (us, rest)) :
    ∃ body, s = body ++ '"' :: rest ∧
      ∀ rest', units? (body ++ '"' :: rest') = some (us, rest') := by
  obtain ⟨body, hs, hbody⟩ := body_of_units? h
  exact ⟨body, hs, units?_body hbody⟩

/-- The lexemes are the texts that spell tokens. -/
theorem lexeme_iff {w : List Char} {t : Token} : Lexeme w t ↔ Spelling w t := by
  constructor
  · intro h
    cases h with
    | mark h => exact .mark (ofChar?_iff.1 h)
    | @string body us h =>
      have hbody := units?_iff.1 h
      cases htext : textOfUnits? us with
      | some text => exact .text hbody ((textOfUnits?_iff hbody.lt).1 htext)
      | none =>
        refine .noText hbody fun text hdenote => ?_
        rw [(textOfUnits?_iff hbody.lt).2 hdenote] at htext
        cases htext
    | word h =>
      rcases ofWord?_iff.1 h with hword | ⟨hnumber, rfl⟩
      · exact .word hword
      · exact .number hnumber
  · intro h
    cases h with
    | mark h => exact .mark (ofChar?_iff.2 h)
    | word h => exact .word (ofWord?_iff.2 (.inl h))
    | number h => exact .word (ofWord?_iff.2 (.inr ⟨h, rfl⟩))
    | @text body us text hbody htext =>
      have hlexeme := Lexeme.string (units?_iff.2 hbody)
      rwa [(textOfUnits?_iff hbody.lt).2 htext] at hlexeme
    | @noText body us hbody hnone =>
      have htext : textOfUnits? us = none :=
        Option.eq_none_iff_forall_not_mem.2 fun text h =>
          hnone text ((textOfUnits?_iff hbody.lt).1 h)
      have hlexeme := Lexeme.string (units?_iff.2 hbody)
      rwa [htext] at hlexeme

lemma scan?_space {c : Char} (h : isSpace c = true) (s : List Char) :
    scan? (c :: s) = scan? s := by
  rw [scan?.eq_def]
  exact if_pos h

lemma scan?_lexeme {w s : List Char} {t : Token} (h : Lexeme w t)
    (hend : (∀ c ∈ w, isWordChar c = true) → Ends s) :
    scan? (w ++ s) = (scan? s).map (t :: ·) := by
  cases h with
  | mark hmark => exact scan?_punctuation hmark s
  | @string body us hbody =>
    obtain ⟨body', hsame, hread⟩ := exists_body hbody
    obtain ⟨rfl, -⟩ := List.append_inj' hsame rfl
    have hscan := scan?_string (hread s)
    simpa using hscan
  | word hword =>
    obtain ⟨c, rest, rfl, hchars⟩ := ofWord?_wordChars hword
    obtain ⟨hc, hrest⟩ := List.forall_mem_cons.1 hchars
    obtain ⟨hspace, hmark, hquote⟩ := not_special hc
    exact scan?_word hspace hmark hquote hrest hword (hend hchars)

/-- The tokens of a text are those of its lexemes, whatever the white space between them. -/
theorem scan?_laid {lexemes : List (List Char)} {s : List Char} (h : Laid lexemes s)
    {ts : List Token} (hts : List.Forall₂ Lexeme lexemes ts) : scan? s = some ts := by
  induction h generalizing ts with
  | nil =>
    cases hts
    rw [scan?]
  | space hc _ ih =>
    rw [scan?_space hc]
    exact ih hts
  | lexeme hend _ ih =>
    cases hts with
    | cons hlexeme hrest =>
      rw [scan?_lexeme hlexeme hend, ih hrest]
      rfl

lemma ends_dropWhile (s : List Char) : Ends (s.dropWhile isWordChar) := by
  induction s with
  | nil => exact fun c hc => by cases hc
  | cons c s ih =>
    rw [List.dropWhile_cons]
    split
    · exact ih
    · next hc => exact ends_cons (Bool.eq_false_iff.2 hc) s

lemma Laid.special {c : Char} {w s : List Char} {lexemes : List (List Char)}
    (hc : isWordChar c = false) (h : Laid lexemes s) :
    Laid ((c :: w) :: lexemes) (c :: w ++ s) := by
  refine .lexeme (fun hw => ?_) h
  have hword := hw c List.mem_cons_self
  rw [hc] at hword
  cases hword

lemma not_wordChar_of_ofChar? {c : Char} {t : Token} (h : ofChar? c = some t) :
    isWordChar c = false := by
  by_contra hword
  obtain ⟨-, hnone, -⟩ := not_special (Bool.not_eq_false _ ▸ hword)
  rw [hnone] at h
  cases h

/-- Every text that has tokens is laid out of their lexemes. -/
theorem laid_of_scan? {s : List Char} {ts : List Token} (h : scan? s = some ts) :
    ∃ lexemes, Laid lexemes s ∧ List.Forall₂ Lexeme lexemes ts := by
  fun_induction scan? s generalizing ts with
  | case1 =>
    cases h
    exact ⟨[], .nil, .nil⟩
  | case2 c rest hspace ih =>
    obtain ⟨lexemes, hlaid, hlexemes⟩ := ih h
    exact ⟨lexemes, .space hspace hlaid, hlexemes⟩
  | case3 c rest hspace t hmark ih =>
    obtain ⟨ts', hts, rfl⟩ := Option.map_eq_some_iff.1 h
    obtain ⟨lexemes, hlaid, hlexemes⟩ := ih hts
    exact ⟨[c] :: lexemes, hlaid.special (not_wordChar_of_ofChar? hmark),
      .cons (.mark hmark) hlexemes⟩
  | case4 rest us rest' hunits hlength hspace hmark ih =>
    obtain ⟨ts', hts, rfl⟩ := Option.map_eq_some_iff.1 h
    obtain ⟨lexemes, hlaid, hlexemes⟩ := ih hts
    obtain ⟨body, rfl, hread⟩ := exists_body hunits
    have hwhole : Laid (('"' :: (body ++ ['"'])) :: lexemes) ('"' :: (body ++ ['"']) ++ rest') :=
      hlaid.special (by decide)
    rw [List.cons_append, List.append_assoc] at hwhole
    exact ⟨_, hwhole, .cons (.string (hread [])) hlexemes⟩
  | case5 => cases h
  | case6 c rest hspace hmark hquote t hword hlength ih =>
    obtain ⟨ts', hts, rfl⟩ := Option.map_eq_some_iff.1 h
    obtain ⟨lexemes, hlaid, hlexemes⟩ := ih hts
    have hwhole := hlaid.lexeme (w := c :: rest.takeWhile isWordChar)
      fun _ => ends_dropWhile rest
    rw [List.cons_append, List.takeWhile_append_dropWhile] at hwhole
    exact ⟨_, hwhole, .cons (.word hword) hlexemes⟩
  | case7 => cases h

end ApiBalancer.Json.Token
