import ApiBalancer.Proofs.TomlTexts
import Mathlib.Data.List.TakeWhile

/-!
# How keys are spelled in TOML

`Path` is the grammar of keys with dots between them. In front of what may follow them (`EndsPath`)
the reader accepts exactly these texts (`reads_path?`).
-/

namespace ApiBalancer.Toml

/-- Characters that may be left out in front of a line and inside it. -/
def Blanks (b : List Char) : Prop := ∀ c ∈ b, isBlank c

/-- A key, bare or between quotes. -/
inductive Key : List Char → String → Prop where
  | bare {w : List Char} (hne : w ≠ []) (hw : ∀ c ∈ w, isBare c) : Key w (String.ofList w)
  | basic {w t : List Char} (h : Basic w t) : Key ('"' :: (w ++ ['"'])) (String.ofList t)
  | literal {t : List Char} (h : ∀ c ∈ t, isPlain c ∧ c ≠ '\'') :
      Key ('\'' :: (t ++ ['\''])) (String.ofList t)

/-- Keys with dots between them. -/
inductive Keys : List Char → List String → Prop where
  | one {b w b' : List Char} {key : String} (hb : Blanks b) (hw : Key w key) (hb' : Blanks b') :
      Keys (b ++ (w ++ b')) [key]
  | dot {b w b' w' : List Char} {key : String} {path : List String} (hb : Blanks b)
      (hw : Key w key) (hb' : Blanks b') (h : Keys w' path) :
      Keys (b ++ (w ++ (b' ++ '.' :: w'))) (key :: path)

/-- Keys that are not too many. -/
def Path (w : List Char) (path : List String) : Prop := Keys w path ∧ path.length < pathLimit

section Keys

variable {b w s rest : List Char} {c : Char} {key : String} {path : List String}

lemma exists_blanks (s : List Char) : ∃ b, s = b ++ skipBlanks s ∧ Blanks b :=
  ⟨s.takeWhile isBlank, (List.takeWhile_append_dropWhile).symm, fun _ => List.mem_takeWhile_imp⟩

lemma skipBlanks_append (hb : Blanks b) (s : List Char) : skipBlanks (b ++ s) = skipBlanks s :=
  List.dropWhile_append_of_pos hb

lemma Blanks.append {b' : List Char} (hb : Blanks b) (hb' : Blanks b') : Blanks (b ++ b') := by
  intro c hc
  rw [List.mem_append] at hc
  exact hc.elim (hb c) (hb' c)

lemma blanks_nil : Blanks [] := by
  intro c hc
  cases hc

/-- The characters with which keys begin. -/
def IsKeyStart (c : Char) : Prop := isBare c ∨ c = '"' ∨ c = '\''

/-- A key does not begin with what has a meaning of its own in front of it. -/
lemma IsKeyStart.not_mem (hc : IsKeyStart c) : c ∉ '[' :: '.' :: '=' :: ' ' :: '\t' :: enders := by
  intro hmem
  have hother : ∀ c ∈ '[' :: '.' :: '=' :: ' ' :: '\t' :: enders,
      ¬(isBare c ∨ c = '"' ∨ c = '\'') := by
    simp [enders, isBare]
  exact hother c hmem hc

lemma IsKeyStart.not_isBlank (hc : IsKeyStart c) : isBlank c = false := by
  have hmem := hc.not_mem
  simp only [List.mem_cons, not_or] at hmem
  simp [isBlank, hmem]

lemma Key.head (h : Key w key) : ∃ c t, w = c :: t ∧ IsKeyStart c := by
  cases h with
  | bare hne hw =>
    obtain ⟨c, t, rfl⟩ := List.exists_cons_of_ne_nil hne
    exact ⟨c, t, rfl, .inl (hw c List.mem_cons_self)⟩
  | basic => exact ⟨_, _, rfl, .inr (.inl rfl)⟩
  | literal => exact ⟨_, _, rfl, .inr (.inr rfl)⟩

lemma reads_key? : Reads key? Key fun rest => ∀ c ∈ rest.head?, isBare c = false where
  sound s key rest h := by
    rw [key?.eq_def] at h
    split at h
    · obtain ⟨⟨t, rest'⟩, hread, hput⟩ := Option.map_eq_some_iff.1 h
      cases hput
      obtain ⟨w, rfl, hw⟩ := basic?_sound hread
      exact ⟨_, by simp, .basic hw⟩
    · obtain ⟨⟨t, rest'⟩, hread, hput⟩ := Option.map_eq_some_iff.1 h
      cases hput
      obtain ⟨rfl, ht⟩ := literal?_sound hread
      exact ⟨_, by simp, .literal ht⟩
    · split at h
      · cases h
      · next hne =>
        cases h
        refine ⟨_, (List.takeWhile_append_dropWhile).symm, .bare (by simpa using hne) ?_⟩
        exact fun c => List.mem_takeWhile_imp
  complete w key rest h hrest := by
    cases h with
    | basic h =>
      rw [List.cons_append, List.append_assoc, List.singleton_append, key?, basic?_complete h]
      rfl
    | literal h =>
      rw [List.cons_append, List.append_assoc, List.singleton_append, key?,
        literal?_self (fun c hc => (h c hc).1) (fun hmem => (h _ hmem).2 rfl)]
      rfl
    | bare hne hw =>
      have hstop : rest.takeWhile isBare = [] ∧ rest.dropWhile isBare = rest := by
        cases rest with
        | nil => exact ⟨rfl, rfl⟩
        | cons c rest =>
          rw [List.takeWhile_cons, List.dropWhile_cons, hrest c rfl]
          exact ⟨rfl, rfl⟩
      have htake : (w ++ rest).takeWhile isBare = w := by
        rw [List.takeWhile_append_of_pos hw, hstop.1, List.append_nil]
      have hdrop : (w ++ rest).dropWhile isBare = rest := by
        rw [List.dropWhile_append_of_pos hw, hstop.2]
      have hquote : ∀ c s', w ++ rest = c :: s' → c ≠ '"' ∧ c ≠ '\'' := by
        obtain ⟨d, t, rfl⟩ := List.exists_cons_of_ne_nil hne
        have hd := hw d List.mem_cons_self
        intro c s' heq
        rw [← List.head_eq_of_cons_eq heq]
        constructor <;> rintro rfl <;> cases hd
      rw [key?.eq_3, htake, hdrop, if_neg (by simpa using hne)]
      · exact fun s' heq => (hquote _ _ heq).1 rfl
      · exact fun s' heq => (hquote _ _ heq).2 rfl

/-- What may follow the keys of a path. -/
def EndsPath (rest : List Char) : Prop := ∃ c s, rest = c :: s ∧ (c = '=' ∨ c = ']')

lemma Keys.blanks_append (hb : Blanks b) (h : Keys w path) : Keys (b ++ w) path := by
  cases h with
  | one hb' hw hb'' =>
    rw [← List.append_assoc]
    exact .one (hb.append hb') hw hb''
  | dot hb' hw hb'' h =>
    rw [← List.append_assoc]
    exact .dot (hb.append hb') hw hb'' h

/-- Blanks in front of keys can be told apart from them. -/
lemma Keys.exists_blanks (h : Keys w path) :
    ∃ b c t, w = b ++ c :: t ∧ Blanks b ∧ IsKeyStart c ∧ Keys (c :: t) path := by
  cases h with
  | @one b w b' key hb hw hb' =>
    obtain ⟨c, t, rfl, hc⟩ := hw.head
    exact ⟨b, c, t ++ b', rfl, hb, hc, .one blanks_nil hw hb'⟩
  | @dot b w b' w' key path hb hw hb' h =>
    obtain ⟨c, t, rfl, hc⟩ := hw.head
    exact ⟨b, c, t ++ (b' ++ '.' :: w'), rfl, hb, hc, .dot blanks_nil hw hb' h⟩

/-- Behind a key and blanks comes what is no part of it. -/
lemma isBare_of_blanks {d : Char} (hb : Blanks b) (hd : isBare d = false) (s : List Char) :
    ∀ c ∈ (b ++ d :: s).head?, isBare c = false := by
  intro c hc
  cases b with
  | nil =>
    cases hc
    exact hd
  | cons c' b =>
    cases hc
    have hmem := hb c List.mem_cons_self
    obtain rfl | rfl := isBlank_iff.1 hmem <;> decide

lemma keys?_sound (h : keys? s = some (path, rest)) : ∃ w, s = w ++ rest ∧ Keys w path := by
  induction hn : s.length using Nat.strong_induction_on generalizing s path rest with
  | _ n ih =>
    rw [keys?] at h
    obtain ⟨⟨key, s'⟩, hkey, hnext⟩ := Option.bind_eq_some_iff.1 h
    obtain ⟨b, hs, hb⟩ := exists_blanks s
    obtain ⟨b', hs', hb'⟩ := exists_blanks s'
    obtain ⟨w, hw, hkey⟩ := reads_key?.sound _ _ _ hkey
    dsimp only at hnext
    split at hnext
    · next rest' hdot =>
      split at hnext
      · next hshorter =>
        obtain ⟨⟨path', rest''⟩, hrest, hput⟩ := Option.map_eq_some_iff.1 hnext
        cases hput
        obtain ⟨w', rfl, hw'⟩ := ih _ (hn ▸ hshorter) hrest rfl
        refine ⟨b ++ (w ++ (b' ++ '.' :: w')), ?_, .dot hb hkey hb' hw'⟩
        rw [hs, hw, hs', hdot]
        simp
      · cases hnext
    · cases hnext
      refine ⟨b ++ (w ++ b'), ?_, .one hb hkey hb'⟩
      rw [hs, hw, List.append_assoc, List.append_assoc, ← hs']

lemma keys?_complete (h : Keys w path) (hrest : EndsPath rest) :
    keys? (w ++ rest) = some (path, rest) := by
  obtain ⟨c, s, rfl, hc⟩ := hrest
  have hend : isBare c = false ∧ isBlank c = false ∧ c ≠ '.' := by
    obtain rfl | rfl := hc <;> decide
  induction h with
  | @one b w b' key hb hw hb' =>
    obtain ⟨d, t, hcons, hd⟩ := hw.head
    have hkey := reads_key?.complete w key (b' ++ c :: s) hw (isBare_of_blanks hb' hend.1 s)
    have hskip : skipBlanks (b ++ (w ++ (b' ++ c :: s))) = w ++ (b' ++ c :: s) := by
      rw [skipBlanks_append hb, hcons]
      exact skipBlanks_cons hd.not_isBlank _
    have hskip' : skipBlanks (b' ++ c :: s) = c :: s := by
      rw [skipBlanks_append hb', skipBlanks_cons hend.2.1]
    rw [List.append_assoc, List.append_assoc, keys?, hskip, hkey]
    simp only [Option.bind_eq_bind, Option.bind_some, hskip']
    split
    · next heq => exact absurd (List.head_eq_of_cons_eq heq) hend.2.2
    · rfl
  | @dot b w b' w' key path hb hw hb' _ ih =>
    obtain ⟨d, t, hcons, hd⟩ := hw.head
    have hkey := reads_key?.complete w key (b' ++ '.' :: (w' ++ c :: s)) hw
      (isBare_of_blanks hb' (by decide) _)
    have hskip : skipBlanks (b ++ (w ++ (b' ++ '.' :: (w' ++ c :: s)))) =
        w ++ (b' ++ '.' :: (w' ++ c :: s)) := by
      rw [skipBlanks_append hb, hcons]
      exact skipBlanks_cons hd.not_isBlank _
    have hskip' : skipBlanks (b' ++ '.' :: (w' ++ c :: s)) = '.' :: (w' ++ c :: s) := by
      rw [skipBlanks_append hb', skipBlanks_cons (by decide)]
    have hshorter : (w' ++ c :: s).length < (b ++ (w ++ (b' ++ '.' :: (w' ++ c :: s)))).length := by
      simp only [List.length_append, List.length_cons]
      omega
    have hassoc : b ++ (w ++ (b' ++ '.' :: w')) ++ c :: s =
        b ++ (w ++ (b' ++ '.' :: (w' ++ c :: s))) := by simp
    rw [hassoc, keys?, hskip, hkey]
    simp only [Option.bind_eq_bind, Option.bind_some, hskip', dif_pos hshorter, ih, Option.map_some]

lemma reads_path? : Reads path? Path EndsPath where
  sound s path rest h := by
    rw [path?, Option.filter_eq_some_iff] at h
    obtain ⟨w, hs, hw⟩ := keys?_sound h.1
    exact ⟨w, hs, hw, by simpa using h.2⟩
  complete w path rest h hrest := by
    rw [path?, keys?_complete h.1 hrest, Option.filter_some, if_pos (by simpa using h.2)]

end Keys

end ApiBalancer.Toml
