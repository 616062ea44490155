import ApiBalancer.Text.Blank
import ApiBalancer.Text.Utf8
import Mathlib.Data.List.TakeWhile
import Mathlib.Tactic.Common
import Std.Data.String.ToNat

/-!
# Cutting up texts

What comes of cutting a text at line ends and other separators (`splitAt_append`), of cutting it at
the last separator alone (`cutLast?_append`), of trimming it (`trim_blanks`), and of decoding
its bytes (`lossyText_toUTF8`). Numbers in decimal digits hold no separators (`not_mem_toString`).
-/

namespace ApiBalancer.Text

lemma fromUTF8?_toUTF8 (s : String) : String.fromUTF8? s.toUTF8 = some s := dif_pos s.isValidUTF8

lemma lossyText_toUTF8 (s : String) : lossyText s.toUTF8 = s := by
  unfold lossyText
  rw [fromUTF8?_toUTF8]

lemma splitAt_of_not_mem {sep : Char} {s : List Char} (h : sep ∉ s) : splitAt sep s = [s] := by
  induction s with
  | nil => rfl
  | cons c s ih =>
    rw [List.mem_cons, not_or] at h
    rw [splitAt, if_neg (Ne.symm h.1), ih h.2]

/-- A separator between two texts separates their parts. -/
lemma splitAt_append (sep : Char) (s rest : List Char) :
    splitAt sep (s ++ sep :: rest) = splitAt sep s ++ splitAt sep rest := by
  induction s with
  | nil => simp [splitAt]
  | cons c s ih =>
    rw [List.cons_append, splitAt, splitAt, ih]
    split
    · rfl
    · cases hs : splitAt sep s with
      | nil => exact absurd hs (splitAt_ne_nil sep s)
      | cons part parts => rfl

lemma splitAt_append_sep {sep : Char} {line : List Char} (h : sep ∉ line) (rest : List Char) :
    splitAt sep (line ++ sep :: rest) = line :: splitAt sep rest := by
  rw [splitAt_append, splitAt_of_not_mem h, List.singleton_append]

lemma unlines_append (lines lines' : List String) :
    (unlines (lines ++ lines')).toList = (unlines lines).toList ++ (unlines lines').toList := by
  simp [unlines, String.toList_join]

lemma unlines_cons (line : String) (lines : List String) :
    (unlines (line :: lines)).toList = line.toList ++ '\n' :: (unlines lines).toList := by
  simp [unlines, String.toList_join]

lemma getLast?_unlines {lines : List String} (h : lines ≠ []) :
    (unlines lines).toList.getLast? = some '\n' := by
  rw [← List.dropLast_concat_getLast h, unlines_append, unlines_cons]
  simp [unlines]

/-- The lines of a text, and an empty one behind the last line feed. -/
lemma parts_unlines {lines : List String} (h : ∀ line ∈ lines, '\n' ∉ line.toList) :
    parts '\n' (unlines lines) = lines ++ [""] := by
  induction lines with
  | nil => rfl
  | cons line rest ih =>
    have hline := h line List.mem_cons_self
    have hrest := ih fun other hother => h other (List.mem_cons_of_mem line hother)
    unfold parts at hrest ⊢
    rw [unlines_cons, splitAt_append_sep hline, List.map_cons, hrest, String.ofList_toList]
    rfl

/-- The text in front of the last `sep` and the text behind it. -/
def cutLast? (sep : Char) : List Char → Option (List Char × List Char)
  | [] => none
  | c :: rest =>
    match cutLast? sep rest with
    | some (before, behind) => some (c :: before, behind)
    | none => if c = sep then some ([], rest) else none

lemma cutLast?_of_not_mem {sep : Char} {s : List Char} (h : sep ∉ s) : cutLast? sep s = none := by
  induction s with
  | nil => rfl
  | cons c rest ih =>
    rw [List.mem_cons, not_or] at h
    rw [cutLast?, ih h.2]
    exact if_neg (Ne.symm h.1)

lemma cutLast?_append {sep : Char} {behind : List Char} (h : sep ∉ behind) (before : List Char) :
    cutLast? sep (before ++ sep :: behind) = some (before, behind) := by
  induction before with
  | nil =>
    rw [List.nil_append, cutLast?, cutLast?_of_not_mem h]
    exact if_pos rfl
  | cons c before ih => rw [List.cons_append, cutLast?, ih]

/-- Blanks around a text do not count once it is trimmed. -/
lemma trim_append_blanks {before after : List Char} (hbefore : ∀ c ∈ before, isBlank c = true)
    (text : List Char) (hafter : ∀ c ∈ after, isBlank c = true) :
    trim (before ++ text ++ after) = trim text := by
  have hafter' : ∀ c ∈ after.reverse, isBlank c = true :=
    fun c hc => hafter c (List.mem_reverse.1 hc)
  unfold trim
  rw [List.append_assoc, List.dropWhile_append_of_pos hbefore, List.dropWhile_append]
  split
  · next hempty =>
    rw [List.isEmpty_iff.1 hempty, List.dropWhile_eq_nil_iff.2 hafter]
  · rw [List.reverse_append, List.dropWhile_append_of_pos hafter']

lemma trim_blanks {before text after : List Char} (hbefore : ∀ c ∈ before, isBlank c = true)
    (hafter : ∀ c ∈ after, isBlank c = true) (htext : trim text = text) :
    trim (before ++ text ++ after) = text :=
  (trim_append_blanks hbefore text hafter).trans htext

/-- What is trimmed off a text are blanks. -/
lemma exists_blanks (s : List Char) : ∃ before after, s = before ++ trim s ++ after ∧
    (∀ c ∈ before, isBlank c = true) ∧ ∀ c ∈ after, isBlank c = true := by
  refine ⟨s.takeWhile isBlank, ((s.dropWhile isBlank).reverse.takeWhile isBlank).reverse, ?_,
    fun c hc => List.mem_takeWhile_imp hc,
    fun c hc => List.mem_takeWhile_imp (List.mem_reverse.1 hc)⟩
  unfold trim
  rw [List.append_assoc, ← List.reverse_append, List.takeWhile_append_dropWhile,
    List.reverse_reverse, List.takeWhile_append_dropWhile]

lemma trim_trim (s : List Char) : trim (trim s) = trim s := by
  obtain ⟨before, after, hs, hbefore, hafter⟩ := exists_blanks s
  conv_rhs => rw [hs, trim_append_blanks hbefore _ hafter]

lemma trimmed_iff {s : String} : trimmed s = s ↔ trim s.toList = s.toList := by
  unfold trimmed
  rw [← String.toList_inj, String.toList_ofList]

lemma trimmed_blanks {before text after : String} (hbefore : ∀ c ∈ before.toList, isBlank c = true)
    (hafter : ∀ c ∈ after.toList, isBlank c = true) (htext : trimmed text = text) :
    trimmed (before ++ text ++ after) = text := by
  unfold trimmed
  rw [String.toList_append, String.toList_append,
    trim_blanks hbefore hafter (trimmed_iff.1 htext), String.ofList_toList]

lemma toList_toString (n : Nat) : (toString n).toList = Nat.toDigits 10 n := String.toList_ofList

lemma not_mem_toString {c : Char} (h : c.isDigit = false) (n : Nat) : c ∉ (toString n).toList := by
  intro hmem
  rw [toList_toString] at hmem
  rw [Nat.isDigit_of_mem_toDigits (by decide) (by decide) hmem] at h
  cases h

lemma toString_inj {m n : Nat} : toString m = toString n ↔ m = n := Nat.repr_inj

end ApiBalancer.Text
