import ApiBalancer.Proofs.JsonRoundTrip
import Mathlib.Data.List.Forall2
import Mathlib.Data.Nat.Digits.Defs

/-!
# How the tokens of JSON are spelt

`Token.Spelling` is the grammar of the tokens: it says which text spells which token, without
reading it. The lexemes that are read are exactly these texts (`Token.lexeme_iff`).
-/

namespace ApiBalancer.Json

/-- A traversal that succeeds element by element. -/
lemma mapM_eq_some_iff {α β : Type} {f : α → Option β} {xs : List α} {ys : List β} :
    xs.mapM f = some ys ↔ List.Forall₂ (fun x y => f x = some y) xs ys := by
  induction xs generalizing ys with
  | nil =>
    rw [List.mapM_nil, List.forall₂_nil_left_iff]
    exact ⟨fun h => (Option.some.inj h).symm, fun h => h ▸ rfl⟩
  | cons x xs ih =>
    rw [List.mapM_cons, List.forall₂_cons_left_iff]
    constructor
    · intro h
      obtain ⟨y, hy, h⟩ := Option.bind_eq_some_iff.1 h
      obtain ⟨ys', hys, h⟩ := Option.bind_eq_some_iff.1 h
      exact ⟨y, ys', hy, ih.1 hys, (Option.some.inj h).symm⟩
    · rintro ⟨y, ys', hy, hys, rfl⟩
      rw [hy, ih.2 hys]
      rfl

namespace Token

/-- A hexadecimal digit, with a small or a capital letter. -/
def HexDigit (c : Char) (n : Nat) : Prop :=
  n < 16 ∧ (c = Nat.digitChar n ∨ c = (Nat.digitChar n).toUpper)

/-- Four hexadecimal digits, the first of which counts most. -/
def HexNumber (digits : List Char) (u : Nat) : Prop :=
  digits.length = 4 ∧ ∃ ns, List.Forall₂ HexDigit digits ns ∧ Nat.ofDigits 16 ns.reverse = u

/-- The characters that may stand for another one behind a backslash. -/
def shortEscapes : List (Char × Char) :=
  [('"', '"'), ('\\', '\\'), ('/', '/'), ('b', '\x08'), ('f', '\x0c'), ('n', '\n'), ('r', '\r'),
    ('t', '\t')]

/-- What may stand between the quotes of a string, with the units that it names. -/
inductive Body : List Char → List Nat → Prop
  | nil : Body [] []
  | self {c : Char} {body : List Char} {us : List Nat} (hquote : c ≠ '"') (hslash : c ≠ '\\')
    (hcontrol : 0x20 ≤ c.toNat) : Body body us → Body (c :: body) (c.toNat :: us)
  | short {e c : Char} {body : List Char} {us : List Nat} (h : (e, c) ∈ shortEscapes) :
    Body body us → Body ('\\' :: e :: body) (c.toNat :: us)
  | number {digits : List Char} {u : Nat} {body : List Char} {us : List Nat}
    (h : HexNumber digits u) : Body body us → Body ('\\' :: 'u' :: (digits ++ body)) (u :: us)

/-- The text that units denote: each character is named by its code point or, above U+FFFF, by the
two halves of a surrogate pair. -/
inductive Denote : List Nat → List Char → Prop
  | nil : Denote [] []
  | codePoint {c : Char} {us : List Nat} {text : List Char} (h : Denote us text) :
    Denote (c.toNat :: us) (c :: text)
  | pair {c : Char} {us : List Nat} {text : List Char} (hc : 0x10000 ≤ c.toNat)
    (h : Denote us text) :
    Denote ((0xD800 + (c.toNat - 0x10000) / 0x400) :: (0xDC00 + (c.toNat - 0x10000) % 0x400) :: us)
      (c :: text)

/-- One decimal digit or more. -/
def Digits (s : List Char) : Prop := s ≠ [] ∧ ∀ c ∈ s, c.isDigit = true

/-- The whole part of a number; only zero begins with a zero. -/
inductive Whole : List Char → Prop
  | zero : Whole ['0']
  | digits {c : Char} {rest : List Char} (hc : c.isDigit = true) (hne : c ≠ '0')
    (hrest : ∀ d ∈ rest, d.isDigit = true) : Whole (c :: rest)

inductive Fraction : List Char → Prop
  | none : Fraction []
  | digits {s : List Char} (h : Digits s) : Fraction ('.' :: s)

inductive Exponent : List Char → Prop
  | none : Exponent []
  | unsigned {e : Char} {s : List Char} (he : e = 'e' ∨ e = 'E') (h : Digits s) :
    Exponent (e :: s)
  | signed {e sign : Char} {s : List Char} (he : e = 'e' ∨ e = 'E')
    (hsign : sign = '+' ∨ sign = '-') (h : Digits s) : Exponent (e :: sign :: s)

inductive Unsigned : List Char → Prop
  | mk {whole fraction exponent : List Char} (hwhole : Whole whole) (hfraction : Fraction fraction)
    (hexponent : Exponent exponent) : Unsigned (whole ++ (fraction ++ exponent))

inductive Number : List Char → Prop
  | unsigned {s : List Char} (h : Unsigned s) : Number s
  | negative {s : List Char} (h : Unsigned s) : Number ('-' :: s)

def marks : List (Char × Token) :=
  [('[', openArray), (']', closeArray), ('{', openObject), ('}', closeObject), (':', colon),
    (',', comma)]

def words : List (List Char × Token) :=
  [("null".toList, null), ("true".toList, bool true), ("false".toList, bool false)]

/-- The texts that spell a token. A string that names half a surrogate pair without the other half
denotes no text. -/
inductive Spelling : List Char → Token → Prop
  | mark {c : Char} {t : Token} (h : (c, t) ∈ marks) : Spelling [c] t
  | word {w : List Char} {t : Token} (h : (w, t) ∈ words) : Spelling w t
  | number {w : List Char} (h : Number w) : Spelling w (.number (String.ofList w))
  | text {body : List Char} {us : List Nat} {text : List Char} (hbody : Body body us)
    (htext : Denote us text) :
    Spelling ('"' :: (body ++ ['"'])) (.string (some (String.ofList text)))
  | noText {body : List Char} {us : List Nat} (hbody : Body body us)
    (hnone : ∀ text, ¬Denote us text) : Spelling ('"' :: (body ++ ['"'])) (.string none)

lemma hexDigit?_iff {c : Char} {n : Nat} : hexDigit? c = some n ↔ HexDigit c n := by
  have hread : ∀ n < 16, hexDigit? (Nat.digitChar n) = some n ∧
      hexDigit? (Nat.digitChar n).toUpper = some n := by
    decide
  have hdecimal : ∀ n < 10, Char.ofNat (48 + n) = Nat.digitChar n := by decide
  have hsmall : ∀ n < 6, Char.ofNat (97 + n) = Nat.digitChar (n + 10) := by decide
  have hcapital : ∀ n < 6, Char.ofNat (65 + n) = (Nat.digitChar (n + 10)).toUpper := by decide
  -- a character of a range is the first one of it plus what the digit counts from there
  have hself : ∀ first, first ≤ c.toNat → c = Char.ofNat (first + (c.toNat - first)) := by
    intro first hfirst
    rw [Nat.add_sub_cancel' hfirst, Char.ofNat_toNat]
  constructor
  · intro h
    unfold hexDigit? at h
    split_ifs at h with hc hc hc <;> cases h
    · have hrange : 48 ≤ c.toNat ∧ c.toNat ≤ 57 := hc
      refine ⟨show c.toNat - 48 < 16 by omega, .inl ?_⟩
      exact (hself 48 hrange.1).trans (hdecimal (c.toNat - 48) (by omega))
    · have hrange : 97 ≤ c.toNat ∧ c.toNat ≤ 102 := hc
      refine ⟨show c.toNat - 97 + 10 < 16 by omega, .inl ?_⟩
      exact (hself 97 hrange.1).trans (hsmall (c.toNat - 97) (by omega))
    · have hrange : 65 ≤ c.toNat ∧ c.toNat ≤ 70 := hc
      refine ⟨show c.toNat - 65 + 10 < 16 by omega, .inr ?_⟩
      exact (hself 65 hrange.1).trans (hcapital (c.toNat - 65) (by omega))
  · rintro ⟨hn, rfl | rfl⟩
    · exact (hread n hn).1
    · exact (hread n hn).2

lemma hexNumber?_iff {a b c d : Char} {u : Nat} :
    hexNumber? a b c d = some u ↔ HexNumber [a, b, c, d] u := by
  simp only [hexNumber?, Option.bind_eq_bind, Option.bind_eq_some_iff, Option.pure_def,
    Option.some.injEq, hexDigit?_iff]
  constructor
  · rintro ⟨w, hw, x, hx, y, hy, z, hz, rfl⟩
    refine ⟨rfl, [w, x, y, z], .cons hw (.cons hx (.cons hy (.cons hz .nil))), ?_⟩
    simp only [List.reverse_cons, List.reverse_nil, List.nil_append, List.cons_append,
      Nat.ofDigits_cons, Nat.ofDigits_nil]
    omega
  · rintro ⟨-, ns, hdigits, rfl⟩
    obtain _ | ⟨hw, _ | ⟨hx, _ | ⟨hy, _ | ⟨hz, _ | _⟩⟩⟩⟩ := hdigits
    refine ⟨_, hw, _, hx, _, hy, _, hz, ?_⟩
    simp only [List.reverse_cons, List.reverse_nil, List.nil_append, List.cons_append,
      Nat.ofDigits_cons, Nat.ofDigits_nil]
    omega

lemma HexNumber.lt {digits : List Char} {u : Nat} (h : HexNumber digits u) : u < 0x10000 := by
  obtain ⟨hlength, ns, hdigits, rfl⟩ := h
  have hns : ∀ n ∈ ns.reverse, n < 16 := by
    intro n hn
    obtain ⟨i, rfl⟩ := List.mem_iff_get.1 (List.mem_reverse.1 hn)
    have hi : i < digits.length := by
      rw [hdigits.length_eq]
      exact i.isLt
    exact (hdigits.get hi i.isLt).1
  have hbound := Nat.ofDigits_lt_base_pow_length (b := 16) (by decide) hns
  rwa [List.length_reverse, ← hdigits.length_eq, hlength] at hbound

lemma escaped?_iff {e : Char} {u : Nat} :
    escaped? e = some u ↔ ∃ c, (e, c) ∈ shortEscapes ∧ c.toNat = u := by
  constructor
  · intro h
    refine ⟨Char.ofNat u, ?_⟩
    unfold escaped? at h
    split at h <;> cases h
    all_goals decide
  · rintro ⟨c, hc, rfl⟩
    simp only [shortEscapes, List.mem_cons, Prod.mk.injEq, List.not_mem_nil, or_false] at hc
    rcases hc with ⟨rfl, rfl⟩ | ⟨rfl, rfl⟩ | ⟨rfl, rfl⟩ | ⟨rfl, rfl⟩ | ⟨rfl, rfl⟩ | ⟨rfl, rfl⟩ |
      ⟨rfl, rfl⟩ | ⟨rfl, rfl⟩ <;> rfl

/-- What is read off the front of a text as the rest of a string is the body of one, with its
closing quote. -/
lemma body_of_units? {s rest : List Char} {us : List Nat} (h : units? s = some (us, rest)) :
    ∃ body, s = body ++ '"' :: rest ∧ Body body us := by
  fun_induction units? s generalizing us rest with
  | case1 => cases h
  | case2 rest' =>
    cases h
    exact ⟨[], rfl, .nil⟩
  | case3 a b c d rest' ih =>
    simp only [Option.bind_eq_bind, Option.bind_eq_some_iff, Option.pure_def, Option.some.injEq,
      Prod.mk.injEq] at h
    obtain ⟨u, hu, ⟨us', rest''⟩, h', rfl, rfl⟩ := h
    obtain ⟨body, rfl, hbody⟩ := ih h'
    exact ⟨'\\' :: 'u' :: ([a, b, c, d] ++ body), rfl, .number (hexNumber?_iff.1 hu) hbody⟩
  | case4 e rest' _ ih =>
    simp only [Option.bind_eq_bind, Option.bind_eq_some_iff, Option.pure_def, Option.some.injEq,
      Prod.mk.injEq] at h
    obtain ⟨u, hu, ⟨us', rest''⟩, h', rfl, rfl⟩ := h
    obtain ⟨body, rfl, hbody⟩ := ih h'
    obtain ⟨c, hc, rfl⟩ := escaped?_iff.1 hu
    exact ⟨'\\' :: e :: body, rfl, .short hc hbody⟩
  | case5 => cases h
  | case6 c rest' hquote hnumber hshort hcontrol ih =>
    simp only [Option.bind_eq_bind, Option.bind_eq_some_iff, Option.pure_def, Option.some.injEq,
      Prod.mk.injEq] at h
    obtain ⟨⟨us', rest''⟩, h', rfl, rfl⟩ := h
    obtain ⟨body, rfl, hbody⟩ := ih h'
    -- A backslash would be the beginning of an escape, as something comes after it.
    have hslash : c ≠ '\\' := by
      intro hc
      cases body with
      | nil => exact hshort _ _ hc rfl
      | cons e body => exact hshort _ _ hc rfl
    exact ⟨c :: body, rfl, .self hquote hslash (Nat.le_of_not_lt hcontrol) hbody⟩

lemma units?_number {a b c d : Char} {u : Nat} (h : hexNumber? a b c d = some u)
    (rest : List Char) :
    units? ('\\' :: 'u' :: a :: b :: c :: d :: rest) =
      (units? rest).map fun r => (u :: r.1, r.2) := by
  simp only [units?, h]
  cases units? rest <;> rfl

lemma units?_body {body : List Char} {us : List Nat} (h : Body body us) (rest : List Char) :
    units? (body ++ '"' :: rest) = some (us, rest) := by
  induction h with
  | nil => rfl
  | self hquote hslash hcontrol _ ih =>
    rw [List.cons_append, units?_self hquote hslash (Nat.not_lt.2 hcontrol), ih]
    rfl
  | short hescape _ ih =>
    rw [List.cons_append, List.cons_append, units?_backslash (escaped?_iff.2 ⟨_, hescape, rfl⟩), ih]
    rfl
  | @number digits u body us hnumber _ ih =>
    match digits, hnumber with
    | [a, b, c, d], hnumber =>
      change units? ('\\' :: 'u' :: a :: b :: c :: d :: (body ++ '"' :: rest)) = _
      rw [units?_number (hexNumber?_iff.2 hnumber), ih]
      rfl

lemma units?_iff {body : List Char} {us : List Nat} :
    units? (body ++ ['"']) = some (us, []) ↔ Body body us := by
  constructor
  · intro h
    obtain ⟨body', hsame, hbody⟩ := body_of_units? h
    obtain ⟨rfl, -⟩ := List.append_inj' hsame rfl
    exact hbody
  · exact fun h => units?_body h []

/-- The units of a string are code points, or would be those of surrogates. -/
lemma Body.lt {body : List Char} {us : List Nat} (h : Body body us) : ∀ u ∈ us, u < 0x110000 := by
  have hcode : ∀ c : Char, c.toNat < 0x110000 := by
    intro c
    have hvalid : c.toNat < 0xD800 ∨ 0xDFFF < c.toNat ∧ c.toNat < 0x110000 := c.valid
    omega
  induction h with
  | nil => simp
  | @self c _ _ _ _ _ _ ih => exact List.forall_mem_cons.2 ⟨hcode c, ih⟩
  | @short _ c _ _ _ _ ih => exact List.forall_mem_cons.2 ⟨hcode c, ih⟩
  | number hnumber _ ih => exact List.forall_mem_cons.2 ⟨by have := hnumber.lt; omega, ih⟩

lemma toNat_ofNat {n : Nat} (h : n < 0xD800 ∨ 0xDFFF < n ∧ n < 0x110000) :
    (Char.ofNat n).toNat = n := by
  rw [Char.ofNat, dif_pos h]
  rfl

lemma textOfUnits?_pair {u v : Nat} (hu : isHigh u = true) (hv : isLow v = true)
    (us : List Nat) :
    textOfUnits? (u :: v :: us) =
      (textOfUnits? us).map
        (Char.ofNat (0x10000 + (u - 0xD800) * 0x400 + (v - 0xDC00)) :: ·) := by
  rw [textOfUnits?.eq_def]
  simp only [hu, hv, if_true]

lemma textOfUnits?_codePoint {u : Nat} (hhigh : isHigh u = false) (hlow : isLow u = false)
    (us : List Nat) : textOfUnits? (u :: us) = (textOfUnits? us).map (Char.ofNat u :: ·) := by
  rw [textOfUnits?.eq_def]
  simp only [hhigh, hlow, Bool.false_eq_true, if_false]

/-- The text that is read off units is the one that they denote. -/
lemma textOfUnits?_iff {us : List Nat} (hus : ∀ u ∈ us, u < 0x110000) {text : List Char} :
    textOfUnits? us = some text ↔ Denote us text := by
  constructor
  · intro h
    fun_induction textOfUnits? us generalizing text with
    | case1 =>
      cases h
      exact .nil
    | case2 u hhigh v rest hlow ih =>
      obtain ⟨text, htext, rfl⟩ := Option.map_eq_some_iff.1 h
      have hdenote := ih (fun u hu => hus u (by simp [hu])) htext
      simp only [isHigh, isLow, Bool.and_eq_true, decide_eq_true_eq] at hhigh hlow
      generalize hn : 0x10000 + (u - 0xD800) * 0x400 + (v - 0xDC00) = n
      have hc : (Char.ofNat n).toNat = n := toNat_ofNat (by omega)
      have hpair := Denote.pair (show 0x10000 ≤ (Char.ofNat n).toNat by omega) hdenote
      have hhalves : 0xD800 + ((Char.ofNat n).toNat - 0x10000) / 0x400 = u ∧
          0xDC00 + ((Char.ofNat n).toNat - 0x10000) % 0x400 = v := by
        omega
      rwa [hhalves.1, hhalves.2] at hpair
    | case3 => cases h
    | case4 => cases h
    | case5 => cases h
    | case6 u rest hhigh hlow ih =>
      obtain ⟨text, htext, rfl⟩ := Option.map_eq_some_iff.1 h
      have hlt := hus u List.mem_cons_self
      have hdenote := ih (fun u hu => hus u (List.mem_cons_of_mem _ hu)) htext
      simp only [isHigh, isLow, Bool.and_eq_true, decide_eq_true_eq] at hhigh hlow
      have hcode := Denote.codePoint (c := Char.ofNat u) hdenote
      rwa [toNat_ofNat (by omega)] at hcode
  · intro h
    induction h with
    | nil => rfl
    | @codePoint c _ _ _ ih =>
      obtain ⟨hhigh, hlow⟩ := not_surrogate c
      rw [textOfUnits?_codePoint hhigh hlow, ih fun u hu => hus u (List.mem_cons_of_mem _ hu),
        Option.map_some, Char.ofNat_toNat]
    | @pair c _ _ hc _ ih =>
      have hvalid : c.toNat < 0xD800 ∨ 0xDFFF < c.toNat ∧ c.toNat < 0x110000 := c.valid
      have hhigh : isHigh (0xD800 + (c.toNat - 0x10000) / 0x400) = true := by
        simp only [isHigh, Bool.and_eq_true, decide_eq_true_eq]
        omega
      have hlow : isLow (0xDC00 + (c.toNat - 0x10000) % 0x400) = true := by
        simp only [isLow, Bool.and_eq_true, decide_eq_true_eq]
        omega
      have hwhole : 0x10000 + (0xD800 + (c.toNat - 0x10000) / 0x400 - 0xD800) * 0x400 +
          (0xDC00 + (c.toNat - 0x10000) % 0x400 - 0xDC00) = c.toNat := by
        omega
      rw [textOfUnits?_pair hhigh hlow, ih fun u hu => hus u (by simp [hu]), hwhole,
        Option.map_some, Char.ofNat_toNat]

/-! ### Numbers -/

lemma isDigits_iff {s : List Char} : isDigits s = true ↔ Digits s := by
  simp [isDigits, Digits]

lemma Digits.head {s : List Char} (h : Digits s) : ∃ c rest, s = c :: rest ∧ c.isDigit = true := by
  obtain ⟨c, rest, rfl⟩ := List.exists_cons_of_ne_nil h.1
  exact ⟨c, rest, rfl, h.2 c List.mem_cons_self⟩

lemma isExponent_iff {s : List Char} : isExponent s = true ↔ Exponent s := by
  constructor
  · intro h
    unfold isExponent at h
    split at h
    · exact .none
    · next e rest =>
      simp only [Bool.and_eq_true, Bool.or_eq_true, decide_eq_true_eq] at h
      obtain ⟨he, hdigits⟩ := h
      split at hdigits
      · exact .signed he (.inl rfl) (isDigits_iff.1 hdigits)
      · exact .signed he (.inr rfl) (isDigits_iff.1 hdigits)
      · exact .unsigned he (isDigits_iff.1 hdigits)
  · intro h
    cases h with
    | none => rfl
    | @unsigned e s he h =>
      obtain ⟨c, rest, rfl, hc⟩ := h.head
      have hsign : c ≠ '+' ∧ c ≠ '-' := by
        constructor <;> (rintro rfl; cases hc)
      have hdigits := isDigits_iff.2 h
      rcases he with rfl | rfl <;> simp [isExponent, hsign.1, hsign.2, hdigits]
    | signed he hsign h =>
      have hdigits := isDigits_iff.2 h
      rcases hsign with rfl | rfl <;> rcases he with rfl | rfl <;> simp [isExponent, hdigits]

lemma Exponent.head {s : List Char} (h : Exponent s) : ∀ c ∈ s.head?, c.isDigit = false := by
  have hletter : ∀ e : Char, e = 'e' ∨ e = 'E' → e.isDigit = false := by
    rintro e (rfl | rfl) <;> rfl
  cases h with
  | none => exact fun c hc => by cases hc
  | unsigned he _ =>
    intro c hc
    cases hc
    exact hletter _ he
  | signed he _ _ =>
    intro c hc
    cases hc
    exact hletter _ he

lemma Fraction.head {s rest : List Char} (h : Fraction s) (hrest : Exponent rest) :
    ∀ c ∈ (s ++ rest).head?, c.isDigit = false := by
  cases h with
  | none => exact hrest.head
  | digits _ =>
    intro c hc
    cases hc
    rfl

lemma isFraction_iff {s : List Char} :
    isFraction s = true ↔ ∃ fraction exponent, s = fraction ++ exponent ∧ Fraction fraction ∧
      Exponent exponent := by
  constructor
  · intro h
    unfold isFraction at h
    split at h
    · next rest =>
      simp only [Bool.and_eq_true, Bool.not_eq_true', List.isEmpty_eq_false_iff] at h
      refine ⟨'.' :: rest.takeWhile Char.isDigit, rest.dropWhile Char.isDigit, ?_,
        .digits ⟨h.1, fun c hc => List.mem_takeWhile_imp hc⟩, isExponent_iff.1 h.2⟩
      rw [List.cons_append, List.takeWhile_append_dropWhile]
    · exact ⟨[], s, rfl, .none, isExponent_iff.1 h⟩
  · rintro ⟨fraction, exponent, rfl, hfraction, hexponent⟩
    have hexp := isExponent_iff.2 hexponent
    cases hfraction with
    | none =>
      rw [List.nil_append]
      unfold isFraction
      split
      · next rest => cases hexponent <;> simp_all
      · exact hexp
    | @digits digits h =>
      obtain ⟨htake, hdrop⟩ := takeWhile_append_ends h.2 hexponent.head
      change (!((digits ++ exponent).takeWhile Char.isDigit).isEmpty &&
        isExponent ((digits ++ exponent).dropWhile Char.isDigit)) = true
      rw [htake, hdrop, hexp]
      simp [h.1]

lemma isUnsigned_iff {s : List Char} : isUnsigned s = true ↔ Unsigned s := by
  constructor
  · intro h
    unfold isUnsigned at h
    split at h
    · next rest =>
      obtain ⟨fraction, exponent, rfl, hfraction, hexponent⟩ := isFraction_iff.1 h
      exact .mk .zero hfraction hexponent
    · next c rest hne =>
      rw [Bool.and_eq_true] at h
      obtain ⟨fraction, exponent, hrest, hfraction, hexponent⟩ := isFraction_iff.1 h.2
      have hwhole : Whole (c :: rest.takeWhile Char.isDigit) :=
        .digits h.1 hne fun d hd => List.mem_takeWhile_imp hd
      have hunsigned := Unsigned.mk hwhole hfraction hexponent
      rwa [← hrest, List.cons_append, List.takeWhile_append_dropWhile] at hunsigned
    · cases h
  · intro h
    cases h with
    | @mk whole fraction exponent hwhole hfraction hexponent =>
      have hrest := isFraction_iff.2 ⟨fraction, exponent, rfl, hfraction, hexponent⟩
      cases hwhole with
      | zero => exact hrest
      | @digits c rest hc hne hdigits =>
        obtain ⟨-, hdrop⟩ := takeWhile_append_ends hdigits (hfraction.head hexponent)
        rw [List.cons_append, isUnsigned.eq_2 _ _ hne, hdrop, hc, hrest]
        rfl

lemma Unsigned.head {s : List Char} (h : Unsigned s) : ∃ c rest, s = c :: rest ∧ c ≠ '-' := by
  cases h with
  | mk hwhole _ _ =>
    cases hwhole with
    | zero => exact ⟨_, _, rfl, by decide⟩
    | digits hc _ _ => exact ⟨_, _, rfl, by rintro rfl; cases hc⟩

lemma isNumber_iff {s : List Char} : isNumber s = true ↔ Number s := by
  constructor
  · intro h
    unfold isNumber at h
    split at h
    · exact .negative (isUnsigned_iff.1 h)
    · exact .unsigned (isUnsigned_iff.1 h)
  · intro h
    cases h with
    | unsigned h =>
      have hunsigned := isUnsigned_iff.2 h
      obtain ⟨c, rest, rfl, hc⟩ := h.head
      unfold isNumber
      split
      · next hs =>
        cases hs
        exact absurd rfl hc
      · exact hunsigned
    | negative h => exact isUnsigned_iff.2 h

lemma ofChar?_iff {c : Char} {t : Token} : ofChar? c = some t ↔ (c, t) ∈ marks := by
  constructor
  · intro h
    unfold ofChar? at h
    split at h <;> cases h
    all_goals decide
  · intro h
    simp only [marks, List.mem_cons, Prod.mk.injEq, List.not_mem_nil, or_false] at h
    rcases h with ⟨rfl, rfl⟩ | ⟨rfl, rfl⟩ | ⟨rfl, rfl⟩ | ⟨rfl, rfl⟩ | ⟨rfl, rfl⟩ | ⟨rfl, rfl⟩ <;> rfl

lemma ofWord?_iff {w : List Char} {t : Token} :
    ofWord? w = some t ↔ (w, t) ∈ words ∨ Number w ∧ t = .number (String.ofList w) := by
  constructor
  · intro h
    unfold ofWord? at h
    split_ifs at h with hnull htrue hfalse hnumber <;> cases h
    · exact .inl (by simp [words, hnull])
    · exact .inl (by simp [words, htrue])
    · exact .inl (by simp [words, hfalse])
    · exact .inr ⟨isNumber_iff.1 hnumber, rfl⟩
  · rintro (h | ⟨h, rfl⟩)
    · simp only [words, List.mem_cons, Prod.mk.injEq, List.not_mem_nil, or_false] at h
      rcases h with ⟨rfl, rfl⟩ | ⟨rfl, rfl⟩ | ⟨rfl, rfl⟩ <;> decide
    · exact ofWord?_number (isNumber_iff.2 h)

end Token

end ApiBalancer.Json
