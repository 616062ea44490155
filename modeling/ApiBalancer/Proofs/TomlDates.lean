import ApiBalancer.Proofs.TomlNumbers
import ApiBalancer.Toml.DateTime
import Mathlib.Data.List.TakeWhile

/-!
# How dates and times are spelled in TOML

`DateTime` is the grammar of dates, times of day and both together. In front of what may follow a
value the reader accepts exactly these texts (`reads_dateTime?`), and it accepts no number
(`dateTime?_eq_none`).
-/

namespace ApiBalancer.Toml

/-- A number of `n` digits within bounds. -/
def Fixed (n low high : Nat) (w : List Char) (value : Nat) : Prop :=
  w.length = n ∧ (∀ c ∈ w, c.isDigit) ∧ value = numberOf 10 w ∧ low ≤ value ∧ value ≤ high

/-- A day of the calendar. -/
inductive Date : List Char → Prop where
  | mk {y m d : List Char} {year month day : Nat} (hyear : Fixed 4 0 9999 y year)
      (hmonth : Fixed 2 1 12 m month) (hday : Fixed 2 1 (daysOf year month) d day) :
      Date (y ++ '-' :: (m ++ '-' :: d))

/-- A part of a second, which may be left out. -/
inductive Fraction : List Char → Prop where
  | none : Fraction []
  | digits {w : List Char} (hne : w ≠ []) (hw : ∀ c ∈ w, c.isDigit) : Fraction ('.' :: w)

/-- A time of day. -/
inductive Time : List Char → Prop where
  | mk {h m s f : List Char} {hour minute second : Nat} (hhour : Fixed 2 0 23 h hour)
      (hminute : Fixed 2 0 59 m minute) (hsecond : Fixed 2 0 60 s second) (hf : Fraction f) :
      Time (h ++ ':' :: (m ++ ':' :: (s ++ f)))

/-- An offset from universal time, which may be left out. -/
inductive Offset : List Char → Prop where
  | none : Offset []
  | zero {c : Char} (hc : c = 'Z' ∨ c = 'z') : Offset [c]
  | mk {c : Char} {h m : List Char} {hours minutes : Nat} (hc : c = '+' ∨ c = '-')
      (hhours : Fixed 2 0 23 h hours) (hminutes : Fixed 2 0 59 m minutes) :
      Offset (c :: (h ++ ':' :: m))

/-- A date, a time, or both with a letter or a space between them. -/
inductive DateTime : List Char → Prop where
  | date {d : List Char} (hd : Date d) : DateTime d
  | time {t : List Char} (ht : Time t) : DateTime t
  | both {d t o : List Char} {c : Char} (hd : Date d) (hc : c = 'T' ∨ c = 't' ∨ c = ' ')
      (ht : Time t) (ho : Offset o) : DateTime (d ++ c :: (t ++ o))

section Parts

variable {n low high value : Nat} {s w rest : List Char} {c : Char}

lemma fixed?_sound (h : fixed? n low high s = some (value, rest)) :
    ∃ w, s = w ++ rest ∧ Fixed n low high w value := by
  rw [fixed?] at h
  split at h
  · next hfits =>
    cases h
    exact ⟨s.take n, (List.take_append_drop n s).symm, hfits.1, List.all_eq_true.1 hfits.2.1, rfl,
      hfits.2.2⟩
  · cases h

lemma fixed?_complete (h : Fixed n low high w value) (rest : List Char) :
    fixed? n low high (w ++ rest) = some (value, rest) := by
  obtain ⟨rfl, hdigits, rfl, hbounds⟩ := h
  rw [fixed?, List.take_left, List.drop_left]
  exact if_pos ⟨rfl, List.all_eq_true.2 hdigits, hbounds⟩

lemma expect?_sound (h : expect? c s = some rest) : s = c :: rest := by
  cases s with
  | nil => cases h
  | cons d s =>
    rw [expect?] at h
    split at h
    · next hd =>
      cases h
      rw [hd]
    · cases h

@[simp] lemma expect?_self (c : Char) (rest : List Char) : expect? c (c :: rest) = some rest :=
  if_pos rfl

lemma date?_sound (h : date? s = some rest) : ∃ w, s = w ++ rest ∧ Date w := by
  simp only [date?, Option.bind_eq_bind, Option.bind_eq_some_iff, Prod.exists] at h
  obtain ⟨year, s₁, hyear, s₂, hdash, month, s₃, hmonth, s₄, hdash', day, s₅, hday, hpure⟩ := h
  cases hpure
  obtain ⟨y, rfl, hy⟩ := fixed?_sound hyear
  obtain rfl := expect?_sound hdash
  obtain ⟨m, rfl, hm⟩ := fixed?_sound hmonth
  obtain rfl := expect?_sound hdash'
  obtain ⟨d, rfl, hd⟩ := fixed?_sound hday
  exact ⟨y ++ '-' :: (m ++ '-' :: d), by simp, .mk hy hm hd⟩

lemma date?_complete (h : Date w) (rest : List Char) : date? (w ++ rest) = some rest := by
  obtain ⟨hyear, hmonth, hday⟩ := h
  simp [date?, fixed?_complete hyear, fixed?_complete hmonth, fixed?_complete hday]

lemma fraction?_sound (h : fraction? s = some rest) : ∃ w, s = w ++ rest ∧ Fraction w := by
  rw [fraction?.eq_def] at h
  split at h
  · next t =>
    split at h
    · cases h
    · next hsome =>
      cases h
      refine ⟨'.' :: t.takeWhile Char.isDigit, ?_, .digits (by simpa using hsome) ?_⟩
      · rw [List.cons_append, List.takeWhile_append_dropWhile]
      · exact fun c hc => List.mem_takeWhile_imp hc
  · cases h
    exact ⟨[], rfl, .none⟩

lemma fraction?_complete (h : Fraction w) (hrest : ∀ c ∈ rest.head?, c ≠ '.' ∧ c.isDigit = false) :
    fraction? (w ++ rest) = some rest := by
  cases h with
  | none =>
    rw [List.nil_append, fraction?.eq_2]
    rintro t rfl
    exact (hrest '.' rfl).1 rfl
  | @digits w hne hw =>
    have hstop : rest.takeWhile Char.isDigit = [] ∧ rest.dropWhile Char.isDigit = rest := by
      cases rest with
      | nil => exact ⟨rfl, rfl⟩
      | cons c rest =>
        have hc := (hrest c rfl).2
        rw [List.takeWhile_cons, List.dropWhile_cons, hc]
        exact ⟨rfl, rfl⟩
    have htake : (w ++ rest).takeWhile Char.isDigit = w := by
      rw [List.takeWhile_append_of_pos hw, hstop.1, List.append_nil]
    have hdrop : (w ++ rest).dropWhile Char.isDigit = rest := by
      rw [List.dropWhile_append_of_pos hw, hstop.2]
    rw [List.cons_append, fraction?.eq_1, htake, hdrop, if_neg (by simpa using hne)]

lemma time?_sound (h : time? s = some rest) : ∃ w, s = w ++ rest ∧ Time w := by
  simp only [time?, Option.bind_eq_bind, Option.bind_eq_some_iff, Prod.exists] at h
  obtain ⟨hour, s₁, hhour, s₂, hcolon, minute, s₃, hminute, s₄, hcolon', second, s₅, hsecond, hf⟩ :=
    h
  obtain ⟨h, rfl, hh⟩ := fixed?_sound hhour
  obtain rfl := expect?_sound hcolon
  obtain ⟨m, rfl, hm⟩ := fixed?_sound hminute
  obtain rfl := expect?_sound hcolon'
  obtain ⟨t, rfl, ht⟩ := fixed?_sound hsecond
  obtain ⟨f, rfl, hfraction⟩ := fraction?_sound hf
  exact ⟨h ++ ':' :: (m ++ ':' :: (t ++ f)), by simp, .mk hh hm ht hfraction⟩

lemma time?_complete (h : Time w) (hrest : ∀ c ∈ rest.head?, c ≠ '.' ∧ c.isDigit = false) :
    time? (w ++ rest) = some rest := by
  obtain ⟨hhour, hminute, hsecond, hf⟩ := h
  simp [time?, fixed?_complete hhour, fixed?_complete hminute, fixed?_complete hsecond,
    fraction?_complete hf hrest]

lemma offset?_sound (h : offset? s = some rest) : ∃ w, s = w ++ rest ∧ Offset w := by
  cases s with
  | nil =>
    cases h
    exact ⟨[], rfl, .none⟩
  | cons c s =>
    rw [offset?] at h
    split_ifs at h with hzero hsign
    · cases h
      exact ⟨[c], rfl, .zero (by simpa using hzero)⟩
    · simp only [Option.bind_eq_bind, Option.bind_eq_some_iff, Prod.exists] at h
      obtain ⟨hours, s₁, hhours, s₂, hcolon, minutes, s₃, hminutes, hpure⟩ := h
      cases hpure
      obtain ⟨h, rfl, hh⟩ := fixed?_sound hhours
      obtain rfl := expect?_sound hcolon
      obtain ⟨m, rfl, hm⟩ := fixed?_sound hminutes
      exact ⟨c :: (h ++ ':' :: m), by simp, .mk (by simpa using hsign) hh hm⟩
    · cases h
      exact ⟨[], rfl, .none⟩

lemma offset?_complete (h : Offset w) (hrest : Ends rest) : offset? (w ++ rest) = some rest := by
  cases h with
  | none =>
    cases rest with
    | nil => rfl
    | cons c rest =>
      have hother : ∀ c ∈ ' ' :: '\t' :: enders, (c = 'Z' || c = 'z') = false ∧
          (c = '+' || c = '-') = false := by
        simp [enders]
      obtain ⟨hzero, hsign⟩ := hother c (hrest.head c rfl)
      rw [List.nil_append, offset?, hzero, hsign]
      rfl
  | @zero c hc =>
    rw [List.singleton_append, offset?, if_pos (by simpa using hc)]
  | @mk c h m hours minutes hc hhours hminutes =>
    have hzero : ¬(decide (c = 'Z') || decide (c = 'z')) = true := by
      obtain rfl | rfl := hc <;> decide
    rw [List.cons_append, offset?, if_neg hzero, if_pos (by simpa using hc)]
    simp [fixed?_complete hhours, fixed?_complete hminutes]

/-! ### Dates together with times -/

/-- A number of some digits begins with a digit. -/
lemma Fixed.exists_cons (h : Fixed (n + 1) low high w value) :
    ∃ c t, w = c :: t ∧ c.isDigit := by
  obtain ⟨hlength, hdigits, -⟩ := h
  cases w with
  | nil => cases hlength
  | cons c t => exact ⟨c, t, rfl, hdigits c List.mem_cons_self⟩

lemma Time.exists_cons (h : Time w) : ∃ c t, w = c :: t ∧ c.isDigit := by
  obtain ⟨hhour, -, -, -⟩ := h
  obtain ⟨c, t, rfl, hc⟩ := hhour.exists_cons
  exact ⟨c, _, rfl, hc⟩

lemma Offset.head (h : Offset w) (hrest : Ends rest) :
    ∀ c ∈ (w ++ rest).head?, c ≠ '.' ∧ c.isDigit = false := by
  have henders : ∀ c ∈ ' ' :: '\t' :: enders, c ≠ '.' ∧ c.isDigit = false := by
    simp [enders]
  intro c hc
  cases h with
  | none => exact henders c (hrest.head c hc)
  | zero h =>
    cases hc
    obtain rfl | rfl := h <;> decide
  | mk h _ _ =>
    cases hc
    obtain rfl | rfl := h <;> decide

lemma dateAndTime?_sound (h : dateAndTime? s = some rest) : ∃ w, s = w ++ rest ∧ DateTime w := by
  obtain ⟨s', hdate, hnext⟩ := Option.bind_eq_some_iff.1 h
  obtain ⟨d, rfl, hd⟩ := date?_sound hdate
  split at hnext
  · next c t =>
    split at hnext
    · next hc =>
      split at hnext
      · next s'' htime =>
        obtain ⟨w, rfl, hw⟩ := time?_sound htime
        obtain ⟨o, rfl, ho⟩ := offset?_sound hnext
        exact ⟨d ++ c :: (w ++ o), by simp, .both hd (by simpa [or_assoc] using hc) hw ho⟩
      · cases hnext
        exact ⟨d, rfl, .date hd⟩
    · cases hnext
      exact ⟨d, rfl, .date hd⟩
  · cases hnext
    exact ⟨d, rfl, .date hd⟩

/-- What may follow a value is no time of day, also not after a space. -/
lemma Ends.time?_eq_none (h : Ends (c :: rest)) (hc : (c = 'T' || c = 't' || c = ' ') = true) :
    time? rest = none := by
  by_contra hsome
  obtain ⟨rest', htime⟩ := Option.ne_none_iff_exists'.1 hsome
  obtain ⟨w, rfl, hw⟩ := time?_sound htime
  obtain ⟨d, t, rfl, hd⟩ := hw.exists_cons
  have hspace : c = ' ' := by
    have hother : ∀ c ∈ ' ' :: '\t' :: enders,
        (c = 'T' || c = 't' || c = ' ') = true → c = ' ' := by
      simp [enders]
    exact hother c (h.head c rfl) hc
  have hnotBlank : isBlank d = false := by
    rw [isBlank, Bool.or_eq_false_iff, decide_eq_false_iff_not, decide_eq_false_iff_not]
    constructor <;> rintro rfl <;> cases hd
  have hskip : skipBlanks (c :: (d :: t ++ rest')) = d :: t ++ rest' := by
    rw [hspace, List.cons_append, skipBlanks, List.dropWhile_cons, if_pos (by decide),
      List.dropWhile_cons, if_neg (by simp [hnotBlank])]
  have hdigit : ∀ c ∈ enders, c.isDigit = false := by simp [enders]
  have hender := hdigit d (h d (by rw [hskip]; rfl))
  rw [hd] at hender
  cases hender

lemma dateAndTime?_date (h : Date w) (hrest : Ends rest) :
    dateAndTime? (w ++ rest) = some rest := by
  rw [dateAndTime?, date?_complete h]
  cases rest with
  | nil => rfl
  | cons c rest =>
    simp only [Option.bind_eq_bind, Option.bind_some]
    split_ifs with hc
    · rw [hrest.time?_eq_none hc]
      rfl
    · rfl

lemma dateAndTime?_both {d t o : List Char} (hd : Date d) (hc : c = 'T' ∨ c = 't' ∨ c = ' ')
    (ht : Time t) (ho : Offset o) (hrest : Ends rest) :
    dateAndTime? (d ++ c :: (t ++ o) ++ rest) = some rest := by
  have hletter : (c = 'T' || c = 't' || c = ' ') = true := by simpa [or_assoc] using hc
  rw [List.append_assoc, List.cons_append, List.append_assoc, dateAndTime?, date?_complete hd]
  simp only [Option.bind_eq_bind, Option.bind_some, hletter, if_true,
    time?_complete ht (ho.head hrest), offset?_complete ho hrest]

end Parts

/-- Whether a text begins with digits and then a dash or a colon. -/
def Dated (s : List Char) : Prop :=
  s.takeWhile Char.isDigit ≠ [] ∧ ∃ c ∈ (s.dropWhile Char.isDigit).head?, c = '-' ∨ c = ':'

section Dated

variable {s w ds rest : List Char} {c : Char} {v : Value}

/-- The digits in front of a text. -/
lemma span_digits {t : List Char} (hdigits : ∀ d ∈ ds, d.isDigit) (hc : c.isDigit = false) :
    (ds ++ c :: t).takeWhile Char.isDigit = ds ∧
      (ds ++ c :: t).dropWhile Char.isDigit = c :: t := by
  rw [List.takeWhile_append_of_pos hdigits, List.dropWhile_append_of_pos hdigits,
    List.takeWhile_cons, List.dropWhile_cons, hc]
  simp

lemma Date.span (h : Date w) (rest : List Char) :
    ((w ++ rest).takeWhile Char.isDigit).length = 4 ∧
      ((w ++ rest).dropWhile Char.isDigit).head? = some '-' := by
  obtain @⟨y, m, d, year, month, day, hyear, -, -⟩ := h
  have hspan := @span_digits y '-' (m ++ '-' :: d ++ rest) hyear.2.1 rfl
  rw [List.append_assoc, List.cons_append, hspan.1, hspan.2]
  exact ⟨hyear.1, rfl⟩

lemma Time.span (h : Time w) (rest : List Char) :
    ((w ++ rest).takeWhile Char.isDigit).length = 2 ∧
      ((w ++ rest).dropWhile Char.isDigit).head? = some ':' := by
  obtain @⟨h, m, s, f, hour, minute, second, hhour, -, -, -⟩ := h
  have hspan := @span_digits h ':' (m ++ ':' :: (s ++ f) ++ rest) hhour.2.1 rfl
  rw [List.append_assoc, List.cons_append, hspan.1, hspan.2]
  exact ⟨hhour.1, rfl⟩

lemma dated_of_dateTime? {r : Value × List Char} (h : dateTime? s = some r) : Dated s := by
  rw [dateTime?, Option.map_eq_some_iff] at h
  obtain ⟨rest, hread, -⟩ := h
  rw [Option.or_eq_some_iff] at hread
  obtain hdate | ⟨-, htime⟩ := hread
  · obtain ⟨rest', hdate, -⟩ := Option.bind_eq_some_iff.1 hdate
    obtain ⟨w, rfl, hw⟩ := date?_sound hdate
    obtain ⟨hlength, hhead⟩ := hw.span rest'
    exact ⟨List.ne_nil_of_length_eq_add_one hlength, '-', hhead, .inl rfl⟩
  · obtain ⟨w, rfl, hw⟩ := time?_sound htime
    obtain ⟨hlength, hhead⟩ := hw.span rest
    exact ⟨List.ne_nil_of_length_eq_add_one hlength, ':', hhead, .inr rfl⟩

/-- A time of day is no date. -/
lemma dateAndTime?_time (h : Time w) (rest : List Char) : dateAndTime? (w ++ rest) = none := by
  by_contra hsome
  obtain ⟨rest', hread⟩ := Option.ne_none_iff_exists'.1 hsome
  obtain ⟨rest'', hdate, -⟩ := Option.bind_eq_some_iff.1 hread
  obtain ⟨w', hw', hdate'⟩ := date?_sound hdate
  have hlength := (hdate'.span rest'').1
  rw [← hw', (h.span rest).1] at hlength
  cases hlength

/-- In front of what may follow a value, dates and times are read as they are spelled. -/
theorem reads_dateTime? :
    Reads dateTime? (fun w v => DateTime w ∧ v = .dateTime (String.ofList w)) Ends where
  sound s v rest h := by
    rw [dateTime?, Option.map_eq_some_iff] at h
    obtain ⟨rest', hread, hpure⟩ := h
    cases hpure
    rw [Option.or_eq_some_iff] at hread
    obtain hdate | ⟨-, htime⟩ := hread
    · obtain ⟨w, rfl, hw⟩ := dateAndTime?_sound hdate
      exact ⟨w, rfl, hw, by rw [before_append]⟩
    · obtain ⟨w, rfl, hw⟩ := time?_sound htime
      exact ⟨w, rfl, .time hw, by rw [before_append]⟩
  complete w v rest h hrest := by
    obtain ⟨hw, rfl⟩ := h
    have hread : (dateAndTime? (w ++ rest)).or (time? (w ++ rest)) = some rest := by
      cases hw with
      | date hd => rw [dateAndTime?_date hd hrest, Option.some_or]
      | time ht =>
        rw [dateAndTime?_time ht, Option.none_or]
        exact time?_complete ht (Offset.none.head hrest)
      | both hd hc ht ho => rw [dateAndTime?_both hd hc ht ho hrest, Option.some_or]
    rw [dateTime?, hread, Option.map_some, before_append]

/-- Behind digits stands what comes after them, or an underscore between them. -/
lemma Digits.dropWhile (h : Digits Char.isDigit w ds) (s : List Char) :
    (w ++ s).dropWhile Char.isDigit = s.dropWhile Char.isDigit ∨
      ((w ++ s).dropWhile Char.isDigit).head? = some '_' := by
  induction h with
  | one hc =>
    rw [List.singleton_append, List.dropWhile_cons, if_pos hc]
    exact .inl rfl
  | next hc _ ih =>
    rw [List.cons_append, List.dropWhile_cons, if_pos hc]
    exact ih
  | spaced hc _ _ =>
    rw [List.cons_append, List.cons_append, List.dropWhile_cons, if_pos hc]
    exact .inr rfl

lemma Whole.dropWhile (h : Whole w ds) (s : List Char) :
    (w ++ s).dropWhile Char.isDigit = s.dropWhile Char.isDigit ∨
      ((w ++ s).dropWhile Char.isDigit).head? = some '_' := by
  cases h with
  | zero => exact .inl rfl
  | digits h _ => exact h.dropWhile s

/-- A whole number is not the beginning of a date unless a dash or a colon comes after it. -/
lemma Whole.not_dated (h : Whole w ds)
    (hs : ∀ c ∈ s.head?, c.isDigit = false ∧ c ≠ '-' ∧ c ≠ ':') : ¬Dated (w ++ s) := by
  rintro ⟨-, c, hc, hdash⟩
  obtain hsame | hunder := h.dropWhile s
  · have hstop : s.dropWhile Char.isDigit = s := by
      cases s with
      | nil => rfl
      | cons d s => rw [List.dropWhile_cons, (hs d rfl).1]; rfl
    rw [hsame, hstop] at hc
    exact hdash.elim (hs c hc).2.1 (hs c hc).2.2
  · rw [hunder] at hc
    cases hc
    revert hdash
    decide

/-- A text that begins with no digit is no date. -/
lemma not_dated_cons (hc : c.isDigit = false) (s : List Char) : ¬Dated (c :: s) := by
  rintro ⟨hdigits, -⟩
  rw [List.takeWhile_cons, hc] at hdigits
  exact hdigits rfl

lemma Sign.not_dated {σ : List Char} {negative : Bool} (h : Sign σ negative) (hs : ¬Dated s) :
    ¬Dated (σ ++ s) := by
  cases h with
  | none => exact hs
  | plus => exact not_dated_cons rfl s
  | minus => exact not_dated_cons rfl s

lemma Integer.not_dated (h : Integer w v) (hrest : Ends rest) : ¬Dated (w ++ rest) := by
  cases h with
  | decimal hsign hwhole _ =>
    have henders : ∀ c ∈ ' ' :: '\t' :: enders, c.isDigit = false ∧ c ≠ '-' ∧ c ≠ ':' := by
      simp [enders]
    rw [List.append_assoc]
    exact hsign.not_dated (hwhole.not_dated fun c hc => henders c (hrest.head c hc))
  | @based letter base isDigit w _ _ hbase _ _ =>
    have hletter : letter.isDigit = false ∧ letter ≠ '-' ∧ letter ≠ ':' := by
      cases hbase <;> decide
    refine Whole.zero.not_dated (s := letter :: (w ++ rest)) ?_
    rintro c hc
    cases hc
    exact hletter

lemma Float.not_dated (h : Float w) (rest : List Char) : ¬Dated (w ++ rest) := by
  cases h with
  | special hsign hw =>
    rw [List.append_assoc]
    apply hsign.not_dated
    obtain rfl | rfl := hw
    · exact not_dated_cons rfl _
    · exact not_dated_cons rfl _
  | @number σ w ds w' _ _ hsign hwhole htail _ =>
    rw [List.append_assoc, List.append_assoc]
    apply hsign.not_dated
    apply hwhole.not_dated
    intro c hc
    cases htail with
    | fraction _ | both _ _ =>
      cases hc
      decide
    | exponent h =>
      obtain ⟨d, t, hcons, hd⟩ := (h.noDigit rest).2
      rw [hcons] at hc
      cases hc
      obtain rfl | rfl := hd <;> decide

/-- Numbers are not read as dates. -/
lemma dateTime?_eq_none (h : ¬Dated s) : dateTime? s = none := by
  by_contra hsome
  obtain ⟨r, hread⟩ := Option.ne_none_iff_exists'.1 hsome
  exact h (dated_of_dateTime? hread)

end Dated

end ApiBalancer.Toml
