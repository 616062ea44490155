import ApiBalancer.Json.Reader
import ApiBalancer.Json.Writer
import Mathlib.Data.List.TakeWhile

/-!
# Written JSON is read back

What `Json.compact` writes denotes the value that was written (`Json.parse?_compact`), if its numbers
are numbers. The text of a value is a sequence of tokens, whatever comes after it (`scan?_write`),
and a reading that is due to take a value takes these tokens as that value (`takeAll?_tokens`).
-/

namespace ApiBalancer.Json

open Token

namespace Token

lemma hexNumber?_digitChar : ∀ n < 0x20,
    hexNumber? '0' '0' (Nat.digitChar (n / 16)) (Nat.digitChar (n % 16)) = some n := by
  decide

lemma units?_backslash {e : Char} {u : Nat} (he : escaped? e = some u) (rest : List Char) :
    units? ('\\' :: e :: rest) = (units? rest).map fun r => (u :: r.1, r.2) := by
  have hletter : e ≠ 'u' := by
    rintro rfl
    cases he
  rw [units?.eq_4 e rest fun _ _ _ _ _ hu _ => hletter hu, he]
  cases units? rest <;> rfl

lemma units?_self {c : Char} (hquote : c ≠ '"') (hslash : c ≠ '\\') (hcontrol : ¬c.toNat < 0x20)
    (rest : List Char) :
    units? (c :: rest) = (units? rest).map fun r => (c.toNat :: r.1, r.2) := by
  rw [units?.eq_5 c rest hquote (fun _ _ _ _ _ hc _ => hslash hc) fun _ _ hc _ => hslash hc,
    if_neg hcontrol]
  cases units? rest <;> rfl

/-- A character is written as a short escape, by its number or as itself. -/
lemma escape_cases (c : Char) :
    (∃ e, escape c = ['\\', e] ∧ escaped? e = some c.toNat) ∨
    (escape c = hexEscape c.toNat ∧ c.toNat < 0x20) ∨
    (escape c = [c] ∧ c ≠ '"' ∧ c ≠ '\\' ∧ ¬c.toNat < 0x20) := by
  unfold escape
  split_ifs with hquote hslash hbackspace htab hnewline hfeed hreturn hcontrol
  case neg => exact .inr (.inr ⟨rfl, hquote, hslash, hcontrol⟩)
  case pos => exact .inl ⟨_, rfl, by rw [hquote]; rfl⟩
  case pos => exact .inl ⟨_, rfl, by rw [hslash]; rfl⟩
  case pos => exact .inl ⟨_, rfl, by rw [hbackspace]; rfl⟩
  case pos => exact .inl ⟨_, rfl, by rw [htab]; rfl⟩
  case pos => exact .inl ⟨_, rfl, by rw [hnewline]; rfl⟩
  case pos => exact .inl ⟨_, rfl, by rw [hfeed]; rfl⟩
  case pos => exact .inl ⟨_, rfl, by rw [hreturn]; rfl⟩
  case pos => exact .inr (.inl ⟨rfl, hcontrol⟩)

lemma units?_escape (c : Char) (rest : List Char) :
    units? (escape c ++ rest) = (units? rest).map fun r => (c.toNat :: r.1, r.2) := by
  rcases escape_cases c with ⟨e, hwritten, he⟩ | ⟨hwritten, hcontrol⟩ |
    ⟨hwritten, hquote, hslash, hcontrol⟩
  · rw [hwritten]
    exact units?_backslash he rest
  · have hnumber := hexNumber?_digitChar c.toNat hcontrol
    simp only [hwritten, hexEscape, List.cons_append, List.nil_append, units?, hnumber]
    cases units? rest <;> rfl
  · rw [hwritten]
    exact units?_self hquote hslash hcontrol rest

lemma units?_text (s rest : List Char) :
    units? (s.flatMap escape ++ '"' :: rest) = some (s.map Char.toNat, rest) := by
  induction s with
  | nil => rfl
  | cons c s ih =>
    rw [List.flatMap_cons, List.append_assoc, units?_escape, ih]
    rfl

lemma not_surrogate (c : Char) : isHigh c.toNat = false ∧ isLow c.toNat = false := by
  have hvalid : c.toNat < 0xD800 ∨ 0xDFFF < c.toNat ∧ c.toNat < 0x110000 := c.valid
  unfold isHigh isLow
  simp only [Bool.and_eq_false_iff, decide_eq_false_iff_not]
  omega

/-- Code points denote the text that they are those of. -/
lemma textOfUnits?_codePoints (s : List Char) : textOfUnits? (s.map Char.toNat) = some s := by
  induction s with
  | nil => rfl
  | cons c s ih =>
    obtain ⟨hhigh, hlow⟩ := not_surrogate c
    rw [List.map_cons, textOfUnits?.eq_def]
    simp only [hhigh, hlow, ih, Char.ofNat_toNat]
    rfl

lemma units?_half (rest : List Char) :
    units? (['\\', 'u', 'd', '8', '0', '0'] ++ '"' :: rest) = some ([0xD800], rest) := by
  have hnumber : hexNumber? 'd' '8' '0' '0' = some 0xD800 := by decide
  simp [units?, hnumber]

lemma scan?_punctuation {c : Char} {t : Token} (h : ofChar? c = some t) (rest : List Char) :
    scan? (c :: rest) = (scan? rest).map (t :: ·) := by
  have hspace : isSpace c = false := by
    unfold ofChar? at h
    split at h <;> first | rfl | cases h
  rw [scan?.eq_def]
  simp [hspace, h]

/-- The units of a string, up to its closing quote, are one token. -/
lemma scan?_string {body rest : List Char} {us : List Nat}
    (h : units? (body ++ '"' :: rest) = some (us, rest)) :
    scan? ('"' :: (body ++ '"' :: rest)) =
      (scan? rest).map (.string ((textOfUnits? us).map String.ofList) :: ·) := by
  have hspace : isSpace '"' = false := rfl
  have hnone : ofChar? '"' = none := rfl
  rw [scan?.eq_def]
  simp only [hspace, hnone, Bool.false_eq_true, if_false, if_true]
  split
  · next us' rest' heq =>
    rw [h] at heq
    cases heq
    rfl
  · next heq =>
    rw [h] at heq
    cases heq

lemma scan?_writeString (text : Option String) (rest : List Char) :
    scan? (writeString text ++ rest) = (scan? rest).map (.string text :: ·) := by
  cases text with
  | some s =>
    have htext : (textOfUnits? (s.toList.map Char.toNat)).map String.ofList = some s := by
      rw [textOfUnits?_codePoints, Option.map_some, String.ofList_toList]
    have hwritten : writeString (some s) ++ rest =
        '"' :: (s.toList.flatMap escape ++ '"' :: rest) :=
      List.append_assoc ('"' :: s.toList.flatMap escape) ['"'] rest
    rw [hwritten, scan?_string (units?_text s.toList rest), htext]
  | none =>
    have hwritten : writeString none ++ rest =
        '"' :: (['\\', 'u', 'd', '8', '0', '0'] ++ '"' :: rest) := rfl
    rw [hwritten, scan?_string (units?_half rest)]
    rfl

/-- Whether a text begins with nothing that would belong to a number or word before it. -/
def Ends (rest : List Char) : Prop := ∀ c ∈ rest.head?, isWordChar c = false

lemma ends_cons {c : Char} (h : isWordChar c = false) (rest : List Char) : Ends (c :: rest) := by
  intro d hd
  cases hd
  exact h

/-- What is taken off the front of a text, if what follows does not begin with more of it. -/
lemma takeWhile_append_ends {p : Char → Bool} {w rest : List Char} (hw : ∀ c ∈ w, p c = true)
    (hrest : ∀ c ∈ rest.head?, p c = false) :
    (w ++ rest).takeWhile p = w ∧ (w ++ rest).dropWhile p = rest := by
  have htake : rest.takeWhile p = [] ∧ rest.dropWhile p = rest := by
    cases rest with
    | nil => exact ⟨rfl, rfl⟩
    | cons c rest =>
      have hc : p c = false := hrest c rfl
      exact ⟨by rw [List.takeWhile_cons, hc]; rfl, by rw [List.dropWhile_cons, hc]; rfl⟩
  rw [List.takeWhile_append_of_pos hw, List.dropWhile_append_of_pos hw, htake.1, htake.2,
    List.append_nil]
  exact ⟨rfl, rfl⟩

/-- The characters of words are not used for anything else. -/
lemma not_special {c : Char} (h : isWordChar c = true) :
    isSpace c = false ∧ ofChar? c = none ∧ c ≠ '"' := by
  have hne : ∀ d : Char, isWordChar d = false → c ≠ d := by
    rintro d hd rfl
    rw [h] at hd
    cases hd
  refine ⟨?_, ?_, hne _ (by decide)⟩
  · unfold isSpace
    simp [hne ' ' (by decide), hne '\t' (by decide), hne '\n' (by decide), hne '\r' (by decide)]
  · unfold ofChar?
    split <;> first | rfl | exact absurd rfl (hne _ (by decide))

lemma scan?_word {c : Char} {w rest : List Char} {t : Token} (hspace : isSpace c = false)
    (hpunctuation : ofChar? c = none) (hquote : c ≠ '"') (hw : ∀ d ∈ w, isWordChar d = true)
    (ht : ofWord? (c :: w) = some t) (hrest : Ends rest) :
    scan? (c :: w ++ rest) = (scan? rest).map (t :: ·) := by
  obtain ⟨htake, hdrop⟩ := takeWhile_append_ends hw hrest
  rw [List.cons_append, scan?.eq_def]
  simp only [hspace, hpunctuation, hquote, htake, hdrop, ht]
  rfl

lemma isWordChar_of_isDigit {c : Char} (h : c.isDigit = true) : isWordChar c = true := by
  simp [isWordChar, Char.isAlphanum, h]

lemma isDigits_wordChars {s : List Char} (h : isDigits s = true) :
    ∀ c ∈ s, isWordChar c = true := by
  rw [isDigits, Bool.and_eq_true, List.all_eq_true] at h
  exact fun c hc => isWordChar_of_isDigit (h.2 c hc)

lemma isExponent_wordChars {s : List Char} (h : isExponent s = true) :
    ∀ c ∈ s, isWordChar c = true := by
  unfold isExponent at h
  split at h
  · simp
  · next e rest =>
    simp only [Bool.and_eq_true, Bool.or_eq_true, decide_eq_true_eq] at h
    obtain ⟨he, hdigits⟩ := h
    have hword : isWordChar e = true := by rcases he with rfl | rfl <;> decide
    split at hdigits
    · have := isDigits_wordChars hdigits
      simp only [List.mem_cons]
      rintro c (rfl | rfl | hc)
      exacts [hword, by decide, this c hc]
    · have := isDigits_wordChars hdigits
      simp only [List.mem_cons]
      rintro c (rfl | rfl | hc)
      exacts [hword, by decide, this c hc]
    · have := isDigits_wordChars hdigits
      simp only [List.mem_cons]
      rintro c (rfl | hc)
      exacts [hword, this c hc]

/-- What follows digits is made of the characters of numbers, and so are the digits. -/
lemma wordChars_of_dropWhile {s : List Char}
    (h : ∀ c ∈ s.dropWhile Char.isDigit, isWordChar c = true) : ∀ c ∈ s, isWordChar c = true := by
  intro c hc
  rw [← List.takeWhile_append_dropWhile (p := Char.isDigit) (l := s), List.mem_append] at hc
  rcases hc with hc | hc
  · exact isWordChar_of_isDigit (List.mem_takeWhile_imp hc)
  · exact h c hc

lemma isFraction_wordChars {s : List Char} (h : isFraction s = true) :
    ∀ c ∈ s, isWordChar c = true := by
  unfold isFraction at h
  split at h
  · next rest =>
    rw [Bool.and_eq_true] at h
    have hrest := wordChars_of_dropWhile (isExponent_wordChars h.2)
    simp only [List.mem_cons]
    rintro c (rfl | hc)
    exacts [by decide, hrest c hc]
  · exact isExponent_wordChars h

lemma isUnsigned_wordChars {s : List Char} (h : isUnsigned s = true) :
    ∃ c w, s = c :: w ∧ c.isDigit = true ∧ ∀ d ∈ w, isWordChar d = true := by
  unfold isUnsigned at h
  split at h
  · next rest => exact ⟨'0', rest, rfl, by decide, isFraction_wordChars h⟩
  · next c rest _ =>
    rw [Bool.and_eq_true] at h
    exact ⟨c, rest, rfl, h.1, wordChars_of_dropWhile (isFraction_wordChars h.2)⟩
  · cases h

lemma isNumber_wordChars {s : List Char} (h : isNumber s = true) :
    ∃ c w, s = c :: w ∧ isWordChar c = true ∧ ∀ d ∈ w, isWordChar d = true := by
  unfold isNumber at h
  split at h
  · next rest =>
    obtain ⟨c, w, rfl, hc, hw⟩ := isUnsigned_wordChars h
    refine ⟨'-', c :: w, rfl, by decide, ?_⟩
    simp only [List.mem_cons]
    rintro d (rfl | hd)
    exacts [isWordChar_of_isDigit hc, hw d hd]
  · obtain ⟨c, w, rfl, hc, hw⟩ := isUnsigned_wordChars h
    exact ⟨c, w, rfl, isWordChar_of_isDigit hc, hw⟩

lemma ofWord?_number {s : List Char} (h : isNumber s = true) :
    ofWord? s = some (.number (String.ofList s)) := by
  have hne : ∀ word, isNumber word = false → s ≠ word := by
    rintro word hword rfl
    rw [h] at hword
    cases hword
  unfold ofWord?
  rw [if_neg (hne _ (by decide)), if_neg (hne _ (by decide)), if_neg (hne _ (by decide)), if_pos h]

lemma scan?_number {s rest : List Char} (h : isNumber s = true) (hrest : Ends rest) :
    scan? (s ++ rest) = (scan? rest).map (.number (String.ofList s) :: ·) := by
  have hword := ofWord?_number h
  obtain ⟨c, w, rfl, hc, hw⟩ := isNumber_wordChars h
  obtain ⟨hspace, hpunctuation, hquote⟩ := not_special hc
  exact scan?_word hspace hpunctuation hquote hw hword hrest

end Token

/-! ### Values -/

/-- Whether each number in a value is one. -/
inductive Numeric : Json → Prop
  | null : Numeric .null
  | bool (b : Bool) : Numeric (.bool b)
  | number {written : String} (h : isNumber written.toList = true) : Numeric (.number written)
  | string (text : Option String) : Numeric (.string text)
  | array {items : List Json} (h : ∀ item ∈ items, Numeric item) : Numeric (.array items)
  | object {members : List (Option String × Json)} (h : ∀ m ∈ members, Numeric m.2) :
    Numeric (.object members)

mutual

/-- The tokens of a value. -/
def tokens : Json → List Token
  | .null => [.null]
  | .bool b => [.bool b]
  | .number written => [.number written]
  | .string text => [.string text]
  | .array items => .openArray :: (itemTokens items ++ [.closeArray])
  | .object members => .openObject :: (memberTokens members ++ [.closeObject])

/-- The tokens of the items of an array. -/
def itemTokens : List Json → List Token
  | [] => []
  | [item] => tokens item
  | item :: rest => tokens item ++ .comma :: itemTokens rest

/-- The tokens of the members of an object. -/
def memberTokens : List (Option String × Json) → List Token
  | [] => []
  | [(key, value)] => .string key :: .colon :: tokens value
  | (key, value) :: rest => .string key :: .colon :: (tokens value ++ .comma :: memberTokens rest)

end

/-- Whether the text of a value has its tokens, whatever comes after it. -/
def Scans (j : Json) : Prop :=
  ∀ rest, Ends rest → scan? (write j ++ rest) = (scan? rest).map (tokens j ++ ·)

lemma ends_comma (rest : List Char) : Ends ([','] ++ rest) := ends_cons (by decide) rest

lemma scan?_literal {word : List Char} {t : Token} (hword : word = "null".toList ∧ t = .null ∨
      word = "true".toList ∧ t = .bool true ∨ word = "false".toList ∧ t = .bool false)
    {rest : List Char} (hrest : Ends rest) :
    scan? (word ++ rest) = (scan? rest).map (t :: ·) := by
  rcases hword with ⟨rfl, rfl⟩ | ⟨rfl, rfl⟩ | ⟨rfl, rfl⟩
  · exact scan?_word (c := 'n') (w := ['u', 'l', 'l']) (by decide) (by decide) (by decide)
      (List.all_eq_true.1 (by decide)) (by decide) hrest
  · exact scan?_word (c := 't') (w := ['r', 'u', 'e']) (by decide) (by decide) (by decide)
      (List.all_eq_true.1 (by decide)) (by decide) hrest
  · exact scan?_word (c := 'f') (w := ['a', 'l', 's', 'e']) (by decide) (by decide) (by decide)
      (List.all_eq_true.1 (by decide)) (by decide) hrest

lemma scan?_writeItems {items : List Json} (h : ∀ item ∈ items, Scans item) {rest : List Char}
    (hrest : Ends rest) :
    scan? (writeItems items ++ rest) = (scan? rest).map (itemTokens items ++ ·) := by
  induction items with
  | nil =>
    change scan? rest = (scan? rest).map fun ts => ts
    rw [Option.map_id']
  | cons item others ih =>
    have hitem := h item List.mem_cons_self
    have hothers := ih fun other hother => h other (List.mem_cons_of_mem item hother)
    cases others with
    | nil => exact hitem rest hrest
    | cons other others =>
      change scan? (write item ++ [','] ++ writeItems (other :: others) ++ rest) =
        (scan? rest).map (tokens item ++ .comma :: itemTokens (other :: others) ++ ·)
      rw [List.append_assoc, List.append_assoc, hitem _ (ends_comma _),
        List.singleton_append, scan?_punctuation (t := .comma) rfl, hothers, Option.map_map,
        Option.map_map]
      congr 1
      funext ts
      simp

lemma scan?_writeMembers {members : List (Option String × Json)} (h : ∀ m ∈ members, Scans m.2)
    {rest : List Char} (hrest : Ends rest) :
    scan? (writeMembers members ++ rest) = (scan? rest).map (memberTokens members ++ ·) := by
  induction members with
  | nil =>
    change scan? rest = (scan? rest).map fun ts => ts
    rw [Option.map_id']
  | cons member others ih =>
    obtain ⟨key, value⟩ := member
    have hvalue : Scans value := h (key, value) List.mem_cons_self
    have hothers := ih fun other hother => h other (List.mem_cons_of_mem _ hother)
    cases others with
    | nil =>
      change scan? (writeString key ++ [':'] ++ write value ++ rest) =
        (scan? rest).map (.string key :: .colon :: tokens value ++ ·)
      rw [List.append_assoc, List.append_assoc, scan?_writeString, List.singleton_append,
        scan?_punctuation (t := .colon) rfl, hvalue rest hrest, Option.map_map, Option.map_map]
      rfl
    | cons other others =>
      change scan? (writeString key ++ [':'] ++ write value ++ [','] ++
          writeMembers (other :: others) ++ rest) =
        (scan? rest).map
          (.string key :: .colon :: (tokens value ++ .comma :: memberTokens (other :: others)) ++ ·)
      rw [List.append_assoc, List.append_assoc, List.append_assoc, List.append_assoc,
        scan?_writeString, List.singleton_append, scan?_punctuation (t := .colon) rfl,
        hvalue _ (ends_comma _), List.singleton_append,
        scan?_punctuation (t := .comma) rfl, hothers, Option.map_map, Option.map_map,
        Option.map_map, Option.map_map]
      congr 1
      funext ts
      simp

/-- What is written of a value has the value's tokens. -/
theorem scan?_write {j : Json} (h : j.Numeric) : Scans j := by
  induction h with
  | null => exact fun rest hrest => scan?_literal (.inl ⟨rfl, rfl⟩) hrest
  | bool b =>
    intro rest hrest
    cases b with
    | true => exact scan?_literal (.inr (.inl ⟨rfl, rfl⟩)) hrest
    | false => exact scan?_literal (.inr (.inr ⟨rfl, rfl⟩)) hrest
  | @number written h =>
    intro rest hrest
    have hscan := scan?_number h hrest
    rw [String.ofList_toList] at hscan
    exact hscan
  | string text => exact fun rest _ => scan?_writeString text rest
  | @array items _ ih =>
    intro rest hrest
    change scan? ('[' :: writeItems items ++ [']'] ++ rest) =
      (scan? rest).map (.openArray :: (itemTokens items ++ [.closeArray]) ++ ·)
    rw [List.append_assoc, List.cons_append, scan?_punctuation (t := .openArray) rfl,
      List.singleton_append, scan?_writeItems ih (ends_cons (by decide) rest),
      scan?_punctuation (t := .closeArray) rfl, Option.map_map, Option.map_map]
    congr 1
    funext ts
    simp
  | @object members _ ih =>
    intro rest hrest
    change scan? ('{' :: writeMembers members ++ ['}'] ++ rest) =
      (scan? rest).map (.openObject :: (memberTokens members ++ [.closeObject]) ++ ·)
    rw [List.append_assoc, List.cons_append, scan?_punctuation (t := .openObject) rfl,
      List.singleton_append, scan?_writeMembers ih (ends_cons (by decide) rest),
      scan?_punctuation (t := .closeObject) rfl, Option.map_map, Option.map_map]
    congr 1
    funext ts
    simp

open Reading

/-- Whether a reading takes the tokens of a value as that value. -/
def Reads (j : Json) : Prop :=
  ∀ stack ts, takeAll? ⟨stack, .value⟩ (tokens j ++ ts) = takeAll? (complete j stack) ts

/-- The first item of an array is taken like any other. -/
lemma takeAll?_firstItem (j : Json) (stack : List Frame) (ts : List Token) :
    takeAll? ⟨stack, .firstItem⟩ (tokens j ++ ts) =
      takeAll? ⟨.items [] :: stack, .value⟩ (tokens j ++ ts) := by
  cases j <;> rfl

lemma takeAll?_items {items : List Json} (h : ∀ item ∈ items, Reads item) (read : List Json)
    (stack : List Frame) (ts : List Token) (hne : items ≠ []) :
    takeAll? ⟨.items read :: stack, .value⟩ (itemTokens items ++ .closeArray :: ts) =
      takeAll? (complete (.array (read.reverse ++ items)) stack) ts := by
  induction items generalizing read with
  | nil => exact absurd rfl hne
  | cons item others ih =>
    have hitem := h item List.mem_cons_self
    cases others with
    | nil =>
      change takeAll? _ (tokens item ++ _) = _
      rw [hitem]
      change takeAll? (complete (.array (item :: read).reverse) stack) ts = _
      rw [List.reverse_cons]
    | cons other others =>
      have hothers := ih (fun o ho => h o (List.mem_cons_of_mem item ho)) (item :: read)
        (List.cons_ne_nil other others)
      change takeAll? _ ((tokens item ++ .comma :: itemTokens (other :: others)) ++ _) = _
      rw [List.append_assoc, hitem]
      change takeAll? ⟨.items (item :: read) :: stack, .value⟩
        (itemTokens (other :: others) ++ .closeArray :: ts) = _
      rw [hothers, List.reverse_cons, List.append_assoc]
      rfl

lemma takeAll?_members {members : List (Option String × Json)} (h : ∀ m ∈ members, Reads m.2)
    (read : List (Option String × Json)) (stack : List Frame) (ts : List Token)
    (hne : members ≠ []) :
    takeAll? ⟨stack, .key read⟩ (memberTokens members ++ .closeObject :: ts) =
      takeAll? (complete (.object (read.reverse ++ members)) stack) ts := by
  induction members generalizing read with
  | nil => exact absurd rfl hne
  | cons member others ih =>
    obtain ⟨key, value⟩ := member
    have hvalue : Reads value := h (key, value) List.mem_cons_self
    cases others with
    | nil =>
      change takeAll? ⟨.member read key :: stack, .value⟩ (tokens value ++ _) = _
      rw [hvalue]
      change takeAll? (complete (.object ((key, value) :: read).reverse) stack) ts = _
      rw [List.reverse_cons]
    | cons other others =>
      have hothers := ih (fun o ho => h o (List.mem_cons_of_mem _ ho)) ((key, value) :: read)
        (List.cons_ne_nil other others)
      change takeAll? ⟨.member read key :: stack, .value⟩
        ((tokens value ++ .comma :: memberTokens (other :: others)) ++ _) = _
      rw [List.append_assoc, hvalue]
      change takeAll? ⟨stack, .key ((key, value) :: read)⟩
        (memberTokens (other :: others) ++ .closeObject :: ts) = _
      rw [hothers, List.reverse_cons, List.append_assoc]
      rfl

/-- The first key of an object is taken like any other. -/
lemma takeAll?_firstKey {members : List (Option String × Json)} (stack : List Frame)
    (ts : List Token) (hne : members ≠ []) :
    takeAll? ⟨stack, .firstKey⟩ (memberTokens members ++ ts) =
      takeAll? ⟨stack, .key []⟩ (memberTokens members ++ ts) := by
  match members with
  | [] => exact absurd rfl hne
  | [(key, value)] => rfl
  | (key, value) :: other :: others => rfl

/-- The tokens of a value are taken as that value. -/
theorem takeAll?_tokens {j : Json} (h : j.Numeric) : Reads j := by
  induction h with
  | null | bool | number | string => exact fun stack ts => rfl
  | @array items _ ih =>
    intro stack ts
    change takeAll? ⟨stack, .firstItem⟩ ((itemTokens items ++ [.closeArray]) ++ ts) = _
    rw [List.append_assoc]
    match items with
    | [] => rfl
    | [item] =>
      refine (takeAll?_firstItem item stack _).trans ?_
      exact takeAll?_items ih [] stack ts (List.cons_ne_nil _ _)
    | item :: other :: others =>
      change takeAll? _ ((tokens item ++ _) ++ _) = _
      rw [List.append_assoc, takeAll?_firstItem, ← List.append_assoc]
      exact takeAll?_items ih [] stack ts (List.cons_ne_nil _ _)
  | @object members _ ih =>
    intro stack ts
    change takeAll? ⟨stack, .firstKey⟩ ((memberTokens members ++ [.closeObject]) ++ ts) = _
    rw [List.append_assoc]
    cases members with
    | nil => rfl
    | cons member others =>
      rw [takeAll?_firstKey stack _ (List.cons_ne_nil _ _)]
      exact takeAll?_members ih [] stack ts (List.cons_ne_nil _ _)

/-- The tokens of a value denote it. -/
theorem ofTokens?_tokens {j : Json} (h : j.Numeric) : ofTokens? (tokens j) = some j := by
  have hread : takeAll? {} (tokens j) = some (complete j []) := by
    have htake := takeAll?_tokens h [] []
    rw [List.append_nil] at htake
    exact htake
  unfold ofTokens?
  rw [hread]
  rfl

/-- What is written of a value denotes that value. -/
theorem parse?_compact {j : Json} (h : j.Numeric) : parse? (compact j) = some j := by
  have hscan : scan? (write j) = some (tokens j) := by
    have hends : Ends [] := fun c hc => by cases hc
    have hwrite := scan?_write h [] hends
    rw [List.append_nil] at hwrite
    rw [hwrite, scan?]
    simp
  unfold parse? compact
  rw [String.toList_ofList, hscan, Option.bind_some, ofTokens?_tokens h]

end ApiBalancer.Json
