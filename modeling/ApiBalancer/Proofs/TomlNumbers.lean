import ApiBalancer.Proofs.TomlDocuments
import Mathlib.Data.List.Basic

/-!
# How numbers are spelled in TOML

`Integer` and `Float` are the grammar of numbers: they say which texts spell them,
without reading them. In front of what may follow a value (`Ends`) the readers accept exactly these
texts (`reads_integer?`, `reads_float?`).
-/

namespace ApiBalancer.Toml

/-- A reader takes what is spelled off the front of a text, and all of it where nothing follows that
could belong to it. -/
structure Reads {α : Type} (read? : List Char → Option (α × List Char))
    (spells : List Char → α → Prop) (before : List Char → Prop) : Prop where
  sound : ∀ s a rest, read? s = some (a, rest) → ∃ w, s = w ++ rest ∧ spells w a
  complete : ∀ w a rest, spells w a → before rest → read? (w ++ rest) = some (a, rest)

lemma isBlank_iff {c : Char} : isBlank c ↔ c = ' ' ∨ c = '\t' := by
  rw [isBlank, Bool.or_eq_true, decide_eq_true_eq, decide_eq_true_eq]

/-- The characters that end a value, after any blanks. -/
def enders : List Char := ['#', '\n', '\r', ',', ']', '}']

/-- What may follow a value: the end of a line or of the text, a comment, or what separates the
values of an array or of an inline table. -/
def Ends (rest : List Char) : Prop := ∀ c ∈ (skipBlanks rest).head?, c ∈ enders

/-- The first character of what may follow a value. -/
lemma Ends.head {rest : List Char} (h : Ends rest) :
    ∀ c ∈ rest.head?, c ∈ ' ' :: '\t' :: enders := by
  intro c hc
  cases rest with
  | nil => cases hc
  | cons d rest =>
    obtain rfl : d = c := Option.some.inj hc
    by_cases hblank : isBlank d
    · obtain rfl | rfl := isBlank_iff.1 hblank <;> decide
    · have hend := h d (by rw [skipBlanks_cons (by simpa using hblank)]; rfl)
      exact List.mem_cons_of_mem _ (List.mem_cons_of_mem _ hend)

/-- Digits, between which there may be single underscores, with the digits alone. -/
inductive Digits (isDigit : Char → Bool) : List Char → List Char → Prop where
  | one {c : Char} (hc : isDigit c) : Digits isDigit [c] [c]
  | next {c : Char} {w ds : List Char} (hc : isDigit c) (h : Digits isDigit w ds) :
      Digits isDigit (c :: w) (c :: ds)
  | spaced {c : Char} {w ds : List Char} (hc : isDigit c) (h : Digits isDigit w ds) :
      Digits isDigit (c :: '_' :: w) (c :: ds)

/-- Whether neither a digit nor an underscore stands in front. -/
def NoDigit (isDigit : Char → Bool) (rest : List Char) : Prop :=
  ∀ c ∈ rest.head?, isDigit c = false ∧ c ≠ '_'

section Digits

variable {isDigit : Char → Bool} {c d : Char} {s w ds rest : List Char}

lemma Digits.exists_cons (h : Digits isDigit w ds) :
    ∃ c t us, w = c :: t ∧ ds = c :: us ∧ isDigit c := by
  cases h with
  | one hc => exact ⟨_, _, _, rfl, rfl, hc⟩
  | next hc _ => exact ⟨_, _, _, rfl, rfl, hc⟩
  | spaced hc _ => exact ⟨_, _, _, rfl, rfl, hc⟩

lemma digitRun_of_not_digit (hc : isDigit c = false) :
    digitRun isDigit (c :: s) = ([], c :: s) := by
  rw [digitRun.eq_def]
  split
  · next h =>
    cases h
    rw [if_neg (by simp [hc])]
  · next h =>
    cases h
    rw [if_neg (by simp [hc])]
  · next h => cases h

lemma digitRun_stop (h : NoDigit isDigit rest) : digitRun isDigit rest = ([], rest) := by
  cases rest with
  | nil => rw [digitRun]
  | cons c rest => exact digitRun_of_not_digit (h c rfl).1

lemma digitRun_of_digit (hc : isDigit c) : (digitRun isDigit (c :: s)).1 ≠ [] := by
  rw [digitRun.eq_def]
  split
  · next h =>
    cases h
    rw [if_pos hc]
    split <;> exact List.cons_ne_nil _ _
  · next h =>
    cases h
    rw [if_pos hc]
    exact List.cons_ne_nil _ _
  · next h => cases h

lemma digitRun_cons (hc : isDigit c) (h : ∀ d t, s = '_' :: d :: t → False) :
    digitRun isDigit (c :: s) = (c :: (digitRun isDigit s).1, (digitRun isDigit s).2) := by
  rw [digitRun.eq_2 isDigit c s h, if_pos hc]

lemma digitRun_spaced (hc : isDigit c) (hd : isDigit d) :
    digitRun isDigit (c :: '_' :: d :: s) =
      (c :: (digitRun isDigit (d :: s)).1, (digitRun isDigit (d :: s)).2) := by
  rw [digitRun.eq_1, if_pos hc, if_pos hd]

lemma digitRun_sound (s : List Char) :
    digitRun isDigit s = ([], s) ∨
      ∃ w, s = w ++ (digitRun isDigit s).2 ∧ Digits isDigit w (digitRun isDigit s).1 := by
  fun_induction digitRun isDigit s with
  | case1 c d rest hc hd ds r hrun ih =>
    right
    rw [hrun] at ih
    obtain hnone | ⟨w, hw, hds⟩ := ih
    · exact absurd (congrArg Prod.fst (hrun.trans hnone)) (digitRun_of_digit hd)
    · exact ⟨c :: '_' :: w, by rw [hw]; rfl, .spaced hc hds⟩
  | case2 c d rest hc hd => exact .inr ⟨[c], rfl, .one hc⟩
  | case3 c d rest hc => exact .inl rfl
  | case4 c rest hunder hc ds r hrun ih =>
    right
    rw [hrun] at ih
    obtain hnone | ⟨w, hw, hds⟩ := ih
    · cases hnone
      exact ⟨[c], rfl, .one hc⟩
    · exact ⟨c :: w, by rw [hw]; rfl, .next hc hds⟩
  | case5 c rest hunder hc => exact .inl rfl
  | case6 => exact .inl rfl

lemma digitRun_complete (hunder : isDigit '_' = false) (h : Digits isDigit w ds)
    (hrest : NoDigit isDigit rest) : digitRun isDigit (w ++ rest) = (ds, rest) := by
  induction h with
  | one hc =>
    rw [List.singleton_append, digitRun_cons hc, digitRun_stop hrest]
    rintro d t rfl
    exact (hrest '_' rfl).2 rfl
  | @next c w ds hc h ih =>
    rw [List.cons_append, digitRun_cons hc, ih]
    rintro d t heq
    obtain ⟨c', t', us, rfl, -, hc'⟩ := h.exists_cons
    rw [List.head_eq_of_cons_eq heq, hunder] at hc'
    cases hc'
  | @spaced c w ds hc h ih =>
    obtain ⟨c', t', us, rfl, -, hc'⟩ := h.exists_cons
    rw [List.cons_append] at ih
    rw [List.cons_append, List.cons_append, List.cons_append, digitRun_spaced hc hc', ih]

lemma reads_digits? (hunder : isDigit '_' = false) :
    Reads (digits? isDigit) (Digits isDigit) (NoDigit isDigit) where
  sound s ds rest h := by
    rw [digits?] at h
    split at h
    · cases h
    · next hnonempty =>
      obtain hnone | hsome := digitRun_sound s
      · exact absurd hnone (hnonempty s)
      · rwa [Option.some.inj h] at hsome
  complete w ds rest h hrest := by
    obtain ⟨c, t, us, -, rfl, -⟩ := h.exists_cons
    rw [digits?, digitRun_complete hunder h hrest]

end Digits

/-- What may follow a value begins with no digit. -/
lemma Ends.noDigit {rest : List Char} (h : Ends rest) {isDigit : Char → Bool}
    (hdigit : ∀ c ∈ ' ' :: '\t' :: enders, isDigit c = false) : NoDigit isDigit rest := by
  intro c hc
  have hmem := h.head c hc
  refine ⟨hdigit c hmem, ?_⟩
  rintro rfl
  exact absurd hmem (by decide)

lemma enders_isDigit : ∀ c ∈ ' ' :: '\t' :: enders, c.isDigit = false := by
  simp [enders]

/-- A sign, and whether it is a minus. -/
inductive Sign : List Char → Bool → Prop where
  | none : Sign [] false
  | plus : Sign ['+'] false
  | minus : Sign ['-'] true

/-- The digits of a whole number in base ten; only zero begins with a zero. -/
inductive Whole : List Char → List Char → Prop where
  | zero : Whole ['0'] ['0']
  | digits {w ds : List Char} (h : Digits Char.isDigit w ds) (hzero : ds.head? ≠ some '0') :
      Whole w ds

/-- The letter that names a base, the base and its digits. -/
inductive Base : Char → Nat → (Char → Bool) → Prop where
  | hexadecimal : Base 'x' 16 fun c => (Json.Token.hexDigit? c).isSome
  | octal : Base 'o' 8 fun c => '0' ≤ c && c ≤ '7'
  | binary : Base 'b' 2 fun c => c = '0' || c = '1'

/-- An integer of 64 bits. -/
inductive Integer : List Char → Value → Prop where
  | decimal {sign w ds : List Char} {negative : Bool} {v : Value} (hsign : Sign sign negative)
      (hwhole : Whole w ds) (hv : integerOf? negative (numberOf 10 ds) = some v) :
      Integer (sign ++ w) v
  | based {letter : Char} {base : Nat} {isDigit : Char → Bool} {w ds : List Char} {v : Value}
      (hbase : Base letter base isDigit) (hdigits : Digits isDigit w ds)
      (hv : integerOf? false (numberOf base ds) = some v) : Integer ('0' :: letter :: w) v

section Integers

variable {s w ds rest : List Char} {negative : Bool} {v : Value}

lemma sign_sound (h : sign s = (negative, rest)) : ∃ w, s = w ++ rest ∧ Sign w negative := by
  rw [sign.eq_def] at h
  split at h
  · cases h
    exact ⟨['-'], rfl, .minus⟩
  · cases h
    exact ⟨['+'], rfl, .plus⟩
  · cases h
    exact ⟨[], rfl, .none⟩

lemma sign_complete (h : Sign w negative) (hrest : ∀ c ∈ rest.head?, c ≠ '-' ∧ c ≠ '+') :
    sign (w ++ rest) = (negative, rest) := by
  cases h with
  | none =>
    rw [List.nil_append, sign.eq_3]
    · rintro t rfl
      exact (hrest '-' rfl).1 rfl
    · rintro t rfl
      exact (hrest '+' rfl).2 rfl
  | plus => rfl
  | minus => rfl

lemma Whole.exists_cons (h : Whole w ds) :
    ∃ c t us, w = c :: t ∧ ds = c :: us ∧ c.isDigit := by
  cases h with
  | zero => exact ⟨'0', [], [], rfl, rfl, rfl⟩
  | digits h _ => exact h.exists_cons

/-- A digit is no sign. -/
lemma ne_sign_of_digit {c : Char} (hc : c.isDigit) : c ≠ '-' ∧ c ≠ '+' := by
  constructor <;> rintro rfl <;> cases hc

/-- A sign ends where a whole number begins. -/
lemma Whole.sign_append {sign' : List Char} (h : Whole w ds) (hsign : Sign sign' negative)
    (rest : List Char) : sign (sign' ++ (w ++ rest)) = (negative, w ++ rest) := by
  obtain ⟨c, t, us, rfl, -, hc⟩ := h.exists_cons
  apply sign_complete hsign
  intro d hd
  cases hd
  exact ne_sign_of_digit hc

lemma reads_wholeDigits? : Reads wholeDigits? Whole (NoDigit Char.isDigit) where
  sound s ds rest h := by
    rw [wholeDigits?.eq_def] at h
    split at h
    · cases h
      exact ⟨['0'], rfl, .zero⟩
    · next hzero =>
      obtain ⟨w, rfl, hw⟩ := (reads_digits? rfl).sound _ _ _ h
      refine ⟨w, rfl, .digits hw ?_⟩
      obtain ⟨c, t, us, rfl, rfl, -⟩ := hw.exists_cons
      intro hc
      cases hc
      exact hzero (t ++ rest) rfl
  complete w ds rest h hrest := by
    cases h with
    | zero => rfl
    | digits h hzero =>
      have hread := (reads_digits? rfl).complete w ds rest h hrest
      obtain ⟨c, t, us, rfl, rfl, -⟩ := h.exists_cons
      rw [wholeDigits?.eq_2, hread]
      rintro t' heq
      cases heq
      exact hzero rfl

lemma Base.enders_not_digit {letter : Char} {base : Nat} {isDigit : Char → Bool}
    (h : Base letter base isDigit) :
    isDigit '_' = false ∧ ∀ c ∈ ' ' :: '\t' :: enders, isDigit c = false := by
  cases h <;> simp [enders, Json.Token.hexDigit?]

lemma reads_based? {letter : Char} {base : Nat} {isDigit : Char → Bool}
    (h : Base letter base isDigit) :
    Reads (based? base isDigit)
      (fun w v => ∃ ds, Digits isDigit w ds ∧ integerOf? false (numberOf base ds) = some v)
      Ends where
  sound s v rest hread := by
    obtain ⟨⟨ds, rest'⟩, hdigits, hread⟩ := Option.bind_eq_some_iff.1 hread
    obtain ⟨v', hv, hpure⟩ := Option.bind_eq_some_iff.1 hread
    cases hpure
    obtain ⟨w, rfl, hw⟩ := (reads_digits? h.enders_not_digit.1).sound _ _ _ hdigits
    exact ⟨w, rfl, ds, hw, hv⟩
  complete w v rest hw hrest := by
    obtain ⟨ds, hw, hv⟩ := hw
    have hdigits := (reads_digits? h.enders_not_digit.1).complete w ds rest hw
      (hrest.noDigit h.enders_not_digit.2)
    rw [based?, hdigits]
    simp only [Option.bind_eq_bind, Option.bind_some, hv]
    rfl

theorem reads_integer? : Reads integer? Integer Ends where
  sound s v rest h := by
    rw [integer?.eq_def] at h
    split at h
    · obtain ⟨w, rfl, ds, hw, hv⟩ := (reads_based? .hexadecimal).sound _ _ _ h
      exact ⟨'0' :: 'x' :: w, rfl, .based .hexadecimal hw hv⟩
    · obtain ⟨w, rfl, ds, hw, hv⟩ := (reads_based? .octal).sound _ _ _ h
      exact ⟨'0' :: 'o' :: w, rfl, .based .octal hw hv⟩
    · obtain ⟨w, rfl, ds, hw, hv⟩ := (reads_based? .binary).sound _ _ _ h
      exact ⟨'0' :: 'b' :: w, rfl, .based .binary hw hv⟩
    · generalize hsigned : sign s = signed at h
      obtain ⟨negative, s'⟩ := signed
      obtain ⟨⟨ds, rest'⟩, hdigits, h⟩ := Option.bind_eq_some_iff.1 h
      obtain ⟨v', hv, hpure⟩ := Option.bind_eq_some_iff.1 h
      cases hpure
      obtain ⟨σ, rfl, hsign⟩ := sign_sound hsigned
      obtain ⟨w, rfl, hwhole⟩ := reads_wholeDigits?.sound _ _ _ hdigits
      exact ⟨σ ++ w, (List.append_assoc σ w _).symm, .decimal hsign hwhole hv⟩
  complete w v rest h hrest := by
    cases h with
    | @decimal σ w ds negative _ hsign hwhole hv =>
      obtain ⟨c, t, us, hw, hds, -⟩ := hwhole.exists_cons
      have hsigned := hwhole.sign_append hsign rest
      have hread := reads_wholeDigits?.complete w ds rest hwhole (hrest.noDigit enders_isDigit)
      -- What stands behind a zero names no base.
      have hbase : ∀ d ∈ ['x', 'o', 'b'], ∀ t', σ ++ (w ++ rest) ≠ '0' :: d :: t' := by
        intro d hd t' heq
        cases hsign with
        | plus => cases heq
        | minus => cases heq
        | none =>
          cases hwhole with
          | zero =>
            have hother : ∀ d ∈ ['x', 'o', 'b'], d ∉ ' ' :: '\t' :: enders := by
              simp [enders]
            have htail : rest = d :: t' := List.tail_eq_of_cons_eq heq
            exact hother d hd (hrest.head d (by rw [htail]; rfl))
          | digits _ hzero =>
            rw [hw] at heq
            exact hzero (by rw [hds, List.head_eq_of_cons_eq heq]; rfl)
      rw [List.append_assoc, integer?.eq_4]
      · simp only [hsigned, hread, Option.bind_eq_bind, Option.bind_some, hv]
        rfl
      · exact fun t' => hbase 'x' (by decide) t'
      · exact fun t' => hbase 'o' (by decide) t'
      · exact fun t' => hbase 'b' (by decide) t'
    | @based letter base isDigit w ds _ hbase hdigits hv =>
      have hread := (reads_based? hbase).complete w v rest ⟨ds, hdigits, hv⟩ hrest
      cases hbase <;> exact hread

end Integers

/-! ### Floats -/

/-- The letter of an exponent, its sign and its digits. -/
inductive Exponent : List Char → Bool → List Char → Prop where
  | mk {e : Char} {sign w ds : List Char} {negative : Bool} (he : e = 'e' ∨ e = 'E')
      (hsign : Sign sign negative) (hdigits : Digits Char.isDigit w ds) :
      Exponent (e :: (sign ++ w)) negative ds

/-- What comes after the whole part of a float. -/
inductive FloatEnd : List Char → FloatTail → Prop where
  | fraction {w ds : List Char} (h : Digits Char.isDigit w ds) :
      FloatEnd ('.' :: w) { fraction := ds }
  | exponent {w es : List Char} {negative : Bool} (h : Exponent w negative es) :
      FloatEnd w { negative, exponent := es }
  | both {w w' ds es : List Char} {negative : Bool} (h : Digits Char.isDigit w ds)
      (h' : Exponent w' negative es) :
      FloatEnd ('.' :: (w ++ w')) { fraction := ds, negative, exponent := es }

/-- A float that is not too large for 64 bits. -/
inductive Float : List Char → Prop where
  | special {sign w : List Char} {negative : Bool} (hsign : Sign sign negative)
      (hw : w = ['i', 'n', 'f'] ∨ w = ['n', 'a', 'n']) : Float (sign ++ w)
  | number {sign w ds w' : List Char} {negative : Bool} {tail : FloatTail}
      (hsign : Sign sign negative) (hwhole : Whole w ds) (htail : FloatEnd w' tail)
      (hlimit : isTooLarge negative ds tail = false) : Float (sign ++ (w ++ w'))

section Floats

variable {s w ds es rest : List Char} {negative : Bool} {tail : FloatTail}

lemma before_append (w rest : List Char) : before (w ++ rest) rest = String.ofList w := by
  have hlength : (w ++ rest).length - rest.length = w.length := by
    rw [List.length_append]
    omega
  rw [before, hlength, List.take_left]

lemma Digits.head_ne_sign (h : Digits Char.isDigit w ds) (rest : List Char) :
    ∀ c ∈ (w ++ rest).head?, c ≠ '-' ∧ c ≠ '+' := by
  obtain ⟨c, t, us, rfl, -, hc⟩ := h.exists_cons
  intro d hd
  cases hd
  exact ne_sign_of_digit hc

lemma exponent?_sound {fraction : List Char} (h : exponent? fraction s = some (tail, rest)) :
    ∃ w negative es, s = w ++ rest ∧ Exponent w negative es ∧
      tail = { fraction, negative, exponent := es } := by
  cases s with
  | nil => cases h
  | cons e s =>
    rw [exponent?] at h
    split at h
    · next he =>
      generalize hsigned : sign s = signed at h
      obtain ⟨negative, s'⟩ := signed
      obtain ⟨⟨es, rest'⟩, hdigits, hpure⟩ := Option.bind_eq_some_iff.1 h
      cases hpure
      obtain ⟨σ, rfl, hsign⟩ := sign_sound hsigned
      obtain ⟨w, rfl, hw⟩ := (reads_digits? rfl).sound _ _ _ hdigits
      refine ⟨e :: (σ ++ w), negative, es, by simp, .mk ?_ hsign hw, rfl⟩
      simpa using he
    · cases h

lemma exponent?_complete (h : Exponent w negative es) (hrest : NoDigit Char.isDigit rest)
    (fraction : List Char) :
    exponent? fraction (w ++ rest) = some ({ fraction, negative, exponent := es }, rest) := by
  obtain @⟨e, σ, w, _, _, he, hsign, hdigits⟩ := h
  have hread := (reads_digits? rfl).complete w es rest hdigits hrest
  have hsigned := sign_complete hsign (hdigits.head_ne_sign rest)
  have hletter : (decide (e = 'e') || decide (e = 'E')) = true := by simpa using he
  rw [List.cons_append, List.append_assoc, exponent?, if_pos hletter, hsigned]
  simp only [hread, Option.bind_eq_bind, Option.bind_some]
  rfl

/-- An exponent begins with its letter, which is no digit. -/
lemma Exponent.noDigit (h : Exponent w negative es) (rest : List Char) :
    NoDigit Char.isDigit (w ++ rest) ∧ ∃ c t, w ++ rest = c :: t ∧ (c = 'e' ∨ c = 'E') := by
  obtain @⟨e, σ, w, _, _, he, -, -⟩ := h
  refine ⟨?_, e, _, rfl, he⟩
  intro d hd
  cases hd
  obtain rfl | rfl := he <;> decide

lemma FloatEnd.noDigit (h : FloatEnd w tail) (rest : List Char) :
    NoDigit Char.isDigit (w ++ rest) := by
  cases h with
  | fraction h | both h h' =>
    intro c hc
    cases hc
    decide
  | exponent h => exact (h.noDigit rest).1

lemma reads_floatTail? : Reads floatTail? FloatEnd Ends where
  sound s tail rest h := by
    rw [floatTail?.eq_def] at h
    split at h
    · obtain ⟨⟨ds, rest'⟩, hdigits, hnext⟩ := Option.bind_eq_some_iff.1 h
      obtain ⟨w, rfl, hw⟩ := (reads_digits? rfl).sound _ _ _ hdigits
      dsimp only at hnext
      split at hnext
      · split at hnext
        · obtain ⟨w', negative, es, heq, hexponent, rfl⟩ := exponent?_sound hnext
          rw [heq]
          exact ⟨'.' :: (w ++ w'), by simp, .both hw hexponent⟩
        · cases hnext
          exact ⟨'.' :: w, rfl, .fraction hw⟩
      · cases hnext
        exact ⟨'.' :: w, rfl, .fraction hw⟩
    · obtain ⟨w, negative, es, rfl, hexponent, rfl⟩ := exponent?_sound h
      exact ⟨w, rfl, .exponent hexponent⟩
  complete w tail rest h hrest := by
    have hnodigit : NoDigit Char.isDigit rest := hrest.noDigit enders_isDigit
    cases h with
    | @fraction w ds h =>
      have hread := (reads_digits? rfl).complete w ds rest h hnodigit
      rw [List.cons_append, floatTail?.eq_1, hread]
      cases rest with
      | nil => rfl
      | cons c rest =>
        have hletter : ∀ c ∈ ' ' :: '\t' :: enders,
            (decide (c = 'e') || decide (c = 'E')) = false := by
          simp [enders]
        simp only [Option.bind_eq_bind, Option.bind_some, hletter c (hrest.head c rfl)]
        rfl
    | @exponent w es negative h =>
      obtain ⟨c, t, hcons, hc⟩ := (h.noDigit rest).2
      rw [floatTail?.eq_2, exponent?_complete h hnodigit]
      rintro t' heq
      rw [hcons] at heq
      rw [List.head_eq_of_cons_eq heq] at hc
      revert hc
      decide
    | @both w w' ds es negative h h' =>
      obtain ⟨hnodigit', c, t, hcons, hc⟩ := h'.noDigit rest
      have hread := (reads_digits? rfl).complete w ds (w' ++ rest) h hnodigit'
      have hletter : (decide (c = 'e') || decide (c = 'E')) = true := by simpa using hc
      have hexponent := exponent?_complete h' hnodigit ds
      rw [List.cons_append, List.append_assoc, floatTail?.eq_1, hread]
      simp only [Option.bind_eq_bind, Option.bind_some]
      rw [hcons] at hexponent ⊢
      simp only [hletter, if_true, hexponent]

/-- A float that begins with a whole number behind its sign. -/
lemma float?_signed {sign' : List Char} (hsign : Sign sign' negative) (hwhole : Whole w ds)
    (rest : List Char) :
    float? (sign' ++ (w ++ rest)) =
      (wholeDigits? (w ++ rest)).bind fun r => (floatTail? r.2).bind fun r' =>
        if isTooLarge negative r.1 r'.1 then none
        else some (.float (before (sign' ++ (w ++ rest)) r'.2), r'.2) := by
  obtain ⟨c, t, us, hw, -, hc⟩ := hwhole.exists_cons
  have hletter : ∀ d t', w ++ rest = d :: t' → d.isDigit = true := by
    intro d t' heq
    rw [hw] at heq
    rwa [← List.head_eq_of_cons_eq heq]
  rw [float?, hwhole.sign_append hsign]
  dsimp only
  split
  · next heq => cases hletter _ _ heq
  · next heq => cases hletter _ _ heq
  · rfl

theorem reads_float? : Reads float? (fun w v => Float w ∧ v = .float (String.ofList w)) Ends where
  sound s v rest h := by
    rw [float?] at h
    generalize hsigned : sign s = signed at h
    obtain ⟨negative, s'⟩ := signed
    obtain ⟨σ, rfl, hsign⟩ := sign_sound hsigned
    dsimp only at h
    split at h
    · next rest' =>
      cases h
      refine ⟨σ ++ ['i', 'n', 'f'], by simp, .special hsign (.inl rfl), ?_⟩
      rw [← before_append _ rest]
      simp
    · next rest' =>
      cases h
      refine ⟨σ ++ ['n', 'a', 'n'], by simp, .special hsign (.inr rfl), ?_⟩
      rw [← before_append _ rest]
      simp
    · obtain ⟨⟨ds, s''⟩, hwhole, hnext⟩ := Option.bind_eq_some_iff.1 h
      obtain ⟨⟨tail, rest'⟩, htail, hlast⟩ := Option.bind_eq_some_iff.1 hnext
      dsimp only at hlast
      split at hlast
      · cases hlast
      · next hlimit =>
        cases hlast
        obtain ⟨w, rfl, hw⟩ := reads_wholeDigits?.sound _ _ _ hwhole
        obtain ⟨w', rfl, hw'⟩ := reads_floatTail?.sound _ _ _ htail
        refine ⟨σ ++ (w ++ w'), by simp, .number hsign hw hw' (by simpa using hlimit), ?_⟩
        rw [← before_append _ rest]
        simp
  complete w v rest h hrest := by
    obtain ⟨hfloat, rfl⟩ := h
    cases hfloat with
    | @special σ w negative hsign hw =>
      have hsigned : sign (σ ++ (w ++ rest)) = (negative, w ++ rest) := by
        apply sign_complete hsign
        obtain rfl | rfl := hw <;> simp
      rw [float?, List.append_assoc, hsigned, ← before_append _ rest]
      obtain rfl | rfl := hw <;> simp
    | @number σ w ds w' negative tail hsign hwhole htail hlimit =>
      have hdigits := reads_wholeDigits?.complete w ds (w' ++ rest) hwhole (htail.noDigit rest)
      have hread := reads_floatTail?.complete w' tail rest htail hrest
      rw [List.append_assoc, List.append_assoc, float?_signed hsign hwhole, hdigits,
        Option.bind_some, hread, Option.bind_some, hlimit, ← before_append _ rest]
      simp

lemma floatTail?_eq_none (h : ∀ c ∈ s.head?, c ≠ '.' ∧ c ≠ 'e' ∧ c ≠ 'E') :
    floatTail? s = none := by
  cases s with
  | nil => rfl
  | cons c s =>
    obtain ⟨hdot, hsmall, hcapital⟩ := h c rfl
    rw [floatTail?.eq_2, exponent?, if_neg (by simp [hsmall, hcapital])]
    exact fun t heq => hdot (List.head_eq_of_cons_eq heq)

/-- A whole number in front of no fraction and no exponent is not read as a float. -/
lemma float?_whole {sign' : List Char} (hsign : Sign sign' negative) (hwhole : Whole w ds)
    (hnodigit : NoDigit Char.isDigit s) (hs : ∀ c ∈ s.head?, c ≠ '.' ∧ c ≠ 'e' ∧ c ≠ 'E') :
    float? (sign' ++ (w ++ s)) = none := by
  rw [float?_signed hsign hwhole, reads_wholeDigits?.complete w ds s hwhole hnodigit,
    Option.bind_some, floatTail?_eq_none hs, Option.bind_none]

/-- Integers are not read as floats. -/
lemma Integer.float?_eq_none {v : Value} (h : Integer w v) (hrest : Ends rest) :
    float? (w ++ rest) = none := by
  cases h with
  | decimal hsign hwhole _ =>
    have henders : ∀ c ∈ ' ' :: '\t' :: enders, c ≠ '.' ∧ c ≠ 'e' ∧ c ≠ 'E' := by
      simp [enders]
    rw [List.append_assoc]
    exact float?_whole hsign hwhole (hrest.noDigit enders_isDigit) fun c hc =>
      henders c (hrest.head c hc)
  | @based letter base isDigit w _ _ hbase _ _ =>
    refine float?_whole (s := letter :: (w ++ rest)) Sign.none Whole.zero ?_ ?_
    · rintro c hc
      cases hc
      cases hbase <;> decide
    · rintro c hc
      cases hc
      cases hbase <;> decide

end Floats

end ApiBalancer.Toml
