import ApiBalancer.Proofs.JsonLayout
import ApiBalancer.Proofs.TextLines
import Mathlib.Data.List.Chain
import Mathlib.Data.List.DropRight

/-!
# Which texts denote a JSON value

A text of a JSON value is made of the value's tokens, each spelt in one of its ways, with white
space around them (`Json.Spelt`). A reading never forgets what it has taken (`Reading.taken`), and no
value stands directly behind another one, so that numbers and words need not be kept apart by a rule
of their own (`Reading.isChain_of_takeAll?`). So the texts of a value are exactly those that are
read as it (`Json.parse?_iff`). Blanks around a text do not count either, if they are trimmed away
first (`Json.parse?_trimmed_iff`).
-/

namespace ApiBalancer.Json

open Json.Token

/-- The tokens of a member of an object. -/
def memberToken (m : Option String × Json) : List Token := .string m.1 :: .colon :: tokens m.2

lemma itemTokens_concat (items : List Json) (item : Json) :
    itemTokens (items ++ [item]) = (items.flatMap fun i => tokens i ++ [.comma]) ++ tokens item := by
  induction items with
  | nil => rfl
  | cons first rest ih =>
    rw [List.flatMap_cons, List.append_assoc, ← ih]
    cases rest <;> simp [itemTokens]

lemma memberTokens_concat (members : List (Option String × Json)) (m : Option String × Json) :
    memberTokens (members ++ [m]) =
      (members.flatMap fun m => memberToken m ++ [.comma]) ++ memberToken m := by
  induction members with
  | nil => rfl
  | cons first rest ih =>
    rw [List.flatMap_cons, List.append_assoc, ← ih]
    cases rest <;> simp [memberTokens, memberToken]

/-- The tokens of an array or object up to the value that is being read. -/
def Frame.taken : Frame → List Token
  | .items read => .openArray :: read.reverse.flatMap fun item => tokens item ++ [.comma]
  | .member read key =>
    .openObject :: (read.reverse.flatMap fun m => memberToken m ++ [.comma]) ++ [.string key, .colon]

namespace Reading

/-- The tokens taken of all that is around the value that is being read. -/
def around (stack : List Frame) : List Token := stack.reverse.flatMap Frame.taken

@[simp] lemma around_cons (frame : Frame) (stack : List Frame) :
    around (frame :: stack) = around stack ++ frame.taken := by
  simp [around]

/-- The tokens that a reading has taken. -/
def taken (r : Reading) : List Token :=
  match r.due with
  | .value => around r.stack
  | .firstItem => around r.stack ++ [.openArray]
  | .nextItem (item :: read) => around r.stack ++ (Frame.items read).taken ++ tokens item
  | .firstKey => around r.stack ++ [.openObject]
  | .key read =>
    around r.stack ++ .openObject :: read.reverse.flatMap fun m => memberToken m ++ [.comma]
  | .colon read key =>
    around r.stack ++ .openObject :: (read.reverse.flatMap fun m => memberToken m ++ [.comma]) ++
      [.string key]
  | .nextMember ((key, value) :: read) =>
    around r.stack ++ (Frame.member read key).taken ++ tokens value
  | .nothing value => around r.stack ++ tokens value
  | .nextItem [] | .nextMember [] => []

/-- A comma is due only after an item or member, and nothing only if all is closed. -/
def Sound (r : Reading) : Prop :=
  match r.due with
  | .nextItem read => read ≠ []
  | .nextMember read => read ≠ []
  | .nothing _ => r.stack = []
  | _ => True

lemma complete_taken (value : Json) (stack : List Frame) :
    (complete value stack).Sound ∧
      (complete value stack).taken = around stack ++ tokens value := by
  match stack with
  | [] => exact ⟨rfl, rfl⟩
  | .items read :: stack => exact ⟨List.cons_ne_nil _ _, by simp [complete, taken]⟩
  | .member read key :: stack => exact ⟨List.cons_ne_nil _ _, by simp [complete, taken]⟩

lemma start?_taken {stack : List Frame} {t : Token} {r : Reading} (h : start? stack t = some r) :
    r.Sound ∧ r.taken = around stack ++ [t] := by
  cases t with
  | null | bool | number | string =>
    cases h
    exact complete_taken _ stack
  | openArray | openObject =>
    cases h
    exact ⟨trivial, rfl⟩
  | closeArray | closeObject | colon | comma => cases h

lemma take?_taken {r r' : Reading} {t : Token} (hr : r.Sound) (h : r.take? t = some r') :
    r'.Sound ∧ r'.taken = r.taken ++ [t] := by
  obtain ⟨stack, due⟩ := r
  cases due with
  | value => exact start?_taken h
  | firstItem =>
    by_cases ht : t = .closeArray
    · subst ht
      cases h
      obtain ⟨hsound, htaken⟩ := complete_taken (.array []) stack
      refine ⟨hsound, htaken.trans ?_⟩
      simp [taken, tokens, itemTokens]
    · have hstart : start? (.items [] :: stack) t = some r' := by
        cases t <;> first | exact h | exact absurd rfl ht
      obtain ⟨hsound, htaken⟩ := start?_taken hstart
      refine ⟨hsound, htaken.trans ?_⟩
      simp [taken, Frame.taken]
  | nextItem read =>
    obtain ⟨item, read, rfl⟩ := List.exists_cons_of_ne_nil hr
    cases t with
    | comma =>
      cases h
      exact ⟨trivial, by simp [taken, Frame.taken]⟩
    | closeArray =>
      cases h
      obtain ⟨hsound, htaken⟩ := complete_taken (.array (item :: read).reverse) stack
      refine ⟨hsound, htaken.trans ?_⟩
      simp [taken, Frame.taken, tokens, itemTokens_concat]
    | null | bool | number | string | openArray | openObject | closeObject | colon => cases h
  | firstKey =>
    cases t with
    | closeObject =>
      cases h
      obtain ⟨hsound, htaken⟩ := complete_taken (.object []) stack
      refine ⟨hsound, htaken.trans ?_⟩
      simp [taken, tokens, memberTokens]
    | string key =>
      cases h
      exact ⟨trivial, by simp [taken]⟩
    | null | bool | number | openArray | openObject | closeArray | colon | comma => cases h
  | key read =>
    cases t with
    | string key =>
      cases h
      exact ⟨trivial, by simp [taken]⟩
    | null | bool | number | openArray | openObject | closeArray | closeObject | colon | comma =>
      cases h
  | colon read key =>
    cases t with
    | colon =>
      cases h
      exact ⟨trivial, by simp [taken, Frame.taken]⟩
    | null | bool | number | string | openArray | openObject | closeArray | closeObject | comma =>
      cases h
  | nextMember read =>
    obtain ⟨⟨key, value⟩, read, rfl⟩ := List.exists_cons_of_ne_nil hr
    cases t with
    | comma =>
      cases h
      exact ⟨trivial, by simp [taken, Frame.taken, memberToken]⟩
    | closeObject =>
      cases h
      obtain ⟨hsound, htaken⟩ := complete_taken (.object ((key, value) :: read).reverse) stack
      refine ⟨hsound, htaken.trans ?_⟩
      simp [taken, Frame.taken, tokens, memberTokens_concat, memberToken]
    | null | bool | number | string | openArray | openObject | closeArray | colon => cases h
  | nothing value => cases h

lemma takeAll?_taken {r r' : Reading} {ts : List Token} (hr : r.Sound)
    (h : r.takeAll? ts = some r') : r'.Sound ∧ r'.taken = r.taken ++ ts := by
  induction ts generalizing r with
  | nil =>
    cases h
    exact ⟨hr, (List.append_nil _).symm⟩
  | cons t ts ih =>
    obtain ⟨next, hnext, hrest⟩ := Option.bind_eq_some_iff.1 h
    obtain ⟨hsound, htaken⟩ := take?_taken hr hnext
    obtain ⟨hsound', htaken'⟩ := ih hsound hrest
    exact ⟨hsound', by rw [htaken', htaken, List.append_assoc, List.singleton_append]⟩

end Reading

/-- A value is read from its own tokens and from no others. -/
theorem tokens_of_ofTokens? {ts : List Token} {j : Json} (h : ofTokens? ts = some j) :
    tokens j = ts := by
  obtain ⟨r, hr, hvalue⟩ := Option.bind_eq_some_iff.1 h
  have hstart : ({} : Reading).Sound := trivial
  obtain ⟨hsound, htaken⟩ := Reading.takeAll?_taken hstart hr
  obtain ⟨stack, due⟩ := r
  cases due with
  | nothing value =>
    cases hvalue
    obtain rfl : stack = [] := hsound
    exact htaken
  | value | firstItem | nextItem | firstKey | key | colon | nextMember => cases hvalue

lemma mem_itemTokens {items : List Json} {item : Json} (hitem : item ∈ items) {t : Token}
    (ht : t ∈ tokens item) : t ∈ itemTokens items := by
  induction items with
  | nil => cases hitem
  | cons first rest ih =>
    rcases List.mem_cons.1 hitem with rfl | hitem
    · cases rest <;> simp [itemTokens, ht]
    · cases rest with
      | nil => cases hitem
      | cons second rest => simp [itemTokens, ih hitem]

lemma mem_memberTokens {members : List (Option String × Json)} {m : Option String × Json}
    (hm : m ∈ members) {t : Token} (ht : t ∈ tokens m.2) : t ∈ memberTokens members := by
  induction members with
  | nil => cases hm
  | cons first rest ih =>
    rcases List.mem_cons.1 hm with rfl | hm
    · cases rest <;> simp [memberTokens, ht]
    · cases rest with
      | nil => cases hm
      | cons second rest => simp [memberTokens, ih hm]

/-- A value is numeric if the numbers among its tokens are. -/
theorem numeric_of_tokens : (j : Json) →
    (∀ written, .number written ∈ tokens j → isNumber written.toList = true) → Numeric j
  | .null, _ => .null
  | .bool b, _ => .bool b
  | .number written, h => .number (h written List.mem_cons_self)
  | .string text, _ => .string text
  | .array items, h => .array fun item hitem =>
    numeric_of_tokens item fun written hwritten =>
      h written (by simp [tokens, mem_itemTokens hitem hwritten])
  | .object members, h => .object fun m hm =>
    numeric_of_tokens m.2 fun written hwritten =>
      h written (by simp [tokens, mem_memberTokens hm hwritten])
termination_by j => sizeOf j
decreasing_by
  · have := List.sizeOf_lt_of_mem hitem
    simp only [Json.array.sizeOf_spec]
    omega
  · have := List.sizeOf_lt_of_mem hm
    obtain ⟨key, value⟩ := m
    simp only [Json.object.sizeOf_spec, Prod.mk.sizeOf_spec] at this ⊢
    omega

/-- The spellings of tokens, with white space before, between and behind them as one likes. -/
inductive Token.Spaced : List (List Char) → List Char → Prop
  | nil : Spaced [] []
  | space {c : Char} {spellings : List (List Char)} {s : List Char} (hc : isSpace c = true) :
    Spaced spellings s → Spaced spellings (c :: s)
  | spelling {w : List Char} {spellings : List (List Char)} {s : List Char} :
    Spaced spellings s → Spaced (w :: spellings) (w ++ s)

/-- The texts of a value: its tokens, each spelt in one of its ways, with white space around them. -/
def Spelt (s : List Char) (j : Json) : Prop :=
  ∃ spellings, Spaced spellings s ∧ List.Forall₂ Spelling spellings (tokens j)

/-! ### Numbers and words stand apart -/

/-- The numbers and the words. -/
def Token.IsWord : Token → Prop
  | .null | .bool _ | .number _ => True
  | _ => False

namespace Reading

lemma start?_word {stack : List Frame} {t : Token} {r : Reading} (ht : t.IsWord)
    (h : start? stack t = some r) : ∃ value, r = complete value stack := by
  cases t with
  | null | bool | number =>
    cases h
    exact ⟨_, rfl⟩
  | string | openArray | closeArray | openObject | closeObject | colon | comma =>
    exact False.elim ht

lemma take?_word {r r' : Reading} {t : Token} (ht : t.IsWord) (h : r.take? t = some r') :
    ∃ value stack, r' = complete value stack := by
  obtain ⟨stack, due⟩ := r
  cases due with
  | value =>
    obtain ⟨value, hr⟩ := start?_word ht h
    exact ⟨value, stack, hr⟩
  | firstItem =>
    have hstart : start? (.items [] :: stack) t = some r' := by
      cases t <;> first | exact h | exact False.elim ht
    obtain ⟨value, hr⟩ := start?_word ht hstart
    exact ⟨value, _, hr⟩
  | nextItem | firstKey | key | colon | nextMember | nothing =>
    cases t <;> first | exact False.elim ht | cases h

lemma take?_complete_word (value : Json) (stack : List Frame) {t : Token} (ht : t.IsWord) :
    (complete value stack).take? t = none := by
  match stack with
  | [] | .items _ :: _ | .member _ _ :: _ => cases t <;> first | rfl | exact False.elim ht

/-- Numbers and words do not stand side by side. -/
lemma isChain_of_takeAll? {r r' : Reading} {ts : List Token} (h : r.takeAll? ts = some r') :
    ts.IsChain fun t t' => t.IsWord → ¬t'.IsWord := by
  induction ts generalizing r with
  | nil => exact .nil
  | cons t ts ih =>
    obtain ⟨next, hnext, hrest⟩ := Option.bind_eq_some_iff.1 h
    refine List.isChain_cons.2 ⟨fun t' ht' hword hword' => ?_, ih hrest⟩
    obtain ⟨value, stack, rfl⟩ := take?_word hword hnext
    cases ts with
    | nil => cases ht'
    | cons t' ts =>
      cases ht'
      change ((complete value stack).take? t').bind _ = _ at hrest
      rw [take?_complete_word value stack hword', Option.bind_none] at hrest
      cases hrest

end Reading

namespace Token

/-- What is no number or word does not begin like one. -/
lemma Lexeme.special {w : List Char} {t : Token} (h : Lexeme w t) (ht : ¬t.IsWord) :
    ∃ c rest, w = c :: rest ∧ isWordChar c = false := by
  cases h with
  | mark h => exact ⟨_, _, rfl, not_wordChar_of_ofChar? h⟩
  | string h => exact ⟨_, _, rfl, by decide⟩
  | word h =>
    rcases ofWord?_iff.1 h with h | ⟨-, rfl⟩
    · simp only [words, List.mem_cons, Prod.mk.injEq, List.not_mem_nil, or_false] at h
      rcases h with ⟨-, rfl⟩ | ⟨-, rfl⟩ | ⟨-, rfl⟩ <;> exact absurd trivial ht
    · exact absurd trivial ht

lemma Lexeme.isWord {w : List Char} {t : Token} (h : Lexeme w t)
    (hw : ∀ c ∈ w, isWordChar c = true) : t.IsWord := by
  by_contra ht
  obtain ⟨c, rest, rfl, hc⟩ := h.special ht
  rw [hw c List.mem_cons_self] at hc
  cases hc

lemma ends_of_spaced {lexemes : List (List Char)} {ts : List Token} {s : List Char}
    (h : Spaced lexemes s) (hts : List.Forall₂ Lexeme lexemes ts)
    (hfirst : ∀ t ∈ ts.head?, ¬t.IsWord) : Ends s := by
  cases h with
  | nil => exact fun c hc => by cases hc
  | @space c _ s hc _ =>
    refine ends_cons (Bool.eq_false_iff.2 fun hword => ?_) s
    rw [(not_special hword).1] at hc
    cases hc
  | spelling _ =>
    cases hts with
    | cons hlexeme _ =>
      obtain ⟨c, rest, rfl, hc⟩ := hlexeme.special (hfirst _ rfl)
      exact ends_cons hc _

/-- Numbers and words are kept apart by what stands between them. -/
lemma laid_of_spaced {lexemes : List (List Char)} {ts : List Token} {s : List Char}
    (h : Spaced lexemes s) (hts : List.Forall₂ Lexeme lexemes ts)
    (hapart : ts.IsChain fun t t' => t.IsWord → ¬t'.IsWord) : Laid lexemes s := by
  induction h generalizing ts with
  | nil => exact .nil
  | space hc _ ih => exact .space hc (ih hts hapart)
  | spelling hrest ih =>
    cases hts with
    | cons hlexeme hlexemes =>
      obtain ⟨hfirst, hapart⟩ := List.isChain_cons.1 hapart
      refine .lexeme (fun hw => ?_) (ih hlexemes hapart)
      exact ends_of_spaced hrest hlexemes fun t ht => hfirst t ht (hlexeme.isWord hw)

lemma Laid.spaced {lexemes : List (List Char)} {s : List Char} (h : Laid lexemes s) :
    Spaced lexemes s := by
  induction h with
  | nil => exact .nil
  | space hc _ ih => exact .space hc ih
  | lexeme _ _ ih => exact .spelling ih

end Token

lemma isNumber_of_lexeme {w : List Char} {written : String} (h : Lexeme w (.number written)) :
    isNumber written.toList = true := by
  cases h with
  | @mark c _ hmark =>
    unfold ofChar? at hmark
    split at hmark <;> cases hmark
  | word hword =>
    unfold ofWord? at hword
    split_ifs at hword with hnull htrue hfalse hnumber <;> cases hword
    rwa [String.toList_ofList]

lemma numeric_of_lexemes {lexemes : List (List Char)} {j : Json}
    (h : List.Forall₂ Lexeme lexemes (tokens j)) : Numeric j := by
  refine numeric_of_tokens j fun written hwritten => ?_
  obtain ⟨i, htoken⟩ := List.mem_iff_get.1 hwritten
  have hi : i < lexemes.length := by
    rw [h.length_eq]
    exact i.isLt
  have hlexeme := h.get hi i.isLt
  rw [Fin.eta, htoken] at hlexeme
  exact isNumber_of_lexeme hlexeme

/-- The texts of a value are laid out of its lexemes. -/
lemma spelt_iff_laid {s : List Char} {j : Json} :
    Spelt s j ↔ ∃ lexemes, Laid lexemes s ∧ List.Forall₂ Lexeme lexemes (tokens j) := by
  constructor
  · rintro ⟨spellings, hspaced, hspellings⟩
    have hlexemes : List.Forall₂ Lexeme spellings (tokens j) :=
      hspellings.imp fun _ _ => lexeme_iff.2
    have hread : ofTokens? (tokens j) = some j := ofTokens?_tokens (numeric_of_lexemes hlexemes)
    obtain ⟨r, hr, -⟩ := Option.bind_eq_some_iff.1 hread
    exact ⟨spellings, laid_of_spaced hspaced hlexemes (Reading.isChain_of_takeAll? hr), hlexemes⟩
  · rintro ⟨lexemes, hlaid, hlexemes⟩
    exact ⟨lexemes, hlaid.spaced, hlexemes.imp fun _ _ => lexeme_iff.1⟩

/-- A text is read as a value exactly if it is one of the value's texts. -/
theorem parse?_iff {s : String} {j : Json} : parse? s = some j ↔ Spelt s.toList j := by
  rw [spelt_iff_laid]
  constructor
  · intro h
    obtain ⟨ts, hscan, hread⟩ := Option.bind_eq_some_iff.1 h
    obtain ⟨lexemes, hlaid, hlexemes⟩ := laid_of_scan? hscan
    exact ⟨lexemes, hlaid, tokens_of_ofTokens? hread ▸ hlexemes⟩
  · rintro ⟨lexemes, hlaid, hlexemes⟩
    unfold parse?
    rw [scan?_laid hlaid hlexemes, Option.bind_some,
      ofTokens?_tokens (numeric_of_lexemes hlexemes)]

namespace Token

lemma not_isBlank_of_isWordChar {c : Char} (h : isWordChar c = true) :
    Text.isBlank c = false := by
  have hrange : 0x20 < c.toNat ∧ c.toNat < 0x7F := by
    have hbetween : ∀ low high : UInt32, 0x20 < low.toNat → high.toNat < 0x7F →
        low ≤ c.val ∧ c.val ≤ high → 0x20 < c.toNat ∧ c.toNat < 0x7F := by
      intro low high hlow hhigh ⟨hge, hle⟩
      exact ⟨lt_of_lt_of_le hlow (UInt32.le_iff_toNat_le.1 hge),
        lt_of_le_of_lt (UInt32.le_iff_toNat_le.1 hle) hhigh⟩
    have hboth : ∀ low high : UInt32, (decide (c.val ≥ low) && decide (c.val ≤ high)) = true →
        low ≤ c.val ∧ c.val ≤ high := by
      intro low high hc
      obtain ⟨hge, hle⟩ := Bool.and_eq_true_iff.1 hc
      exact ⟨of_decide_eq_true hge, of_decide_eq_true hle⟩
    simp only [isWordChar, Bool.or_eq_true, decide_eq_true_eq] at h
    rcases h with ((h | rfl) | rfl) | rfl
    · have halphanum : ((c.isUpper || c.isLower) || c.isDigit) = true := h
      rw [Bool.or_eq_true, Bool.or_eq_true] at halphanum
      rcases halphanum with (hc | hc) | hc
      · exact hbetween 'A'.val 'Z'.val (by decide) (by decide) (of_decide_eq_true hc)
      · exact hbetween 'a'.val 'z'.val (by decide) (by decide) (hboth _ _ hc)
      · exact hbetween '0'.val '9'.val (by decide) (by decide) (hboth _ _ hc)
    · decide
    · decide
    · decide
  unfold Text.isBlank
  simp only [Bool.or_eq_false_iff, Bool.and_eq_false_iff, decide_eq_false_iff_not,
    beq_eq_false_iff_ne]
  omega

lemma not_isBlank_of_ofChar? {c : Char} {t : Token} (h : ofChar? c = some t) :
    Text.isBlank c = false := by
  unfold ofChar? at h
  split at h <;> first | rfl | cases h

/-- A lexeme begins and ends with characters that are not blank. -/
lemma Lexeme.ends {w : List Char} {t : Token} (h : Lexeme w t) :
    (∃ c rest, w = c :: rest ∧ Text.isBlank c = false) ∧
      ∃ rest c, w = rest ++ [c] ∧ Text.isBlank c = false := by
  cases h with
  | mark hmark =>
    have hblank := not_isBlank_of_ofChar? hmark
    exact ⟨⟨_, [], rfl, hblank⟩, [], _, rfl, hblank⟩
  | @string body us h => exact ⟨⟨_, _, rfl, rfl⟩, '"' :: body, _, rfl, rfl⟩
  | word hword =>
    obtain ⟨c, rest, rfl, hchars⟩ := ofWord?_wordChars hword
    have hblank := fun d hd => not_isBlank_of_isWordChar (hchars d hd)
    refine ⟨⟨c, rest, rfl, hblank c List.mem_cons_self⟩, _, _,
      (List.dropLast_append_getLast (List.cons_ne_nil c rest)).symm, ?_⟩
    exact hblank _ (List.getLast_mem _)

lemma laid_of_laid_cons {lexemes : List (List Char)} {ts : List Token} {c : Char}
    {s : List Char} (h : Laid lexemes (c :: s)) (hts : List.Forall₂ Lexeme lexemes ts)
    (hc : Text.isBlank c = true) : Laid lexemes s := by
  generalize hwhole : c :: s = whole at h
  cases h with
  | nil => cases hwhole
  | space _ hrest =>
    cases hwhole
    exact hrest
  | lexeme _ _ =>
    -- a lexeme does not begin with a blank
    cases hts with
    | cons hlexeme _ =>
      obtain ⟨⟨d, rest, rfl, hd⟩, -⟩ := hlexeme.ends
      cases hwhole
      rw [hc] at hd
      cases hd

lemma ends_of_append {s rest : List Char} (h : Ends (s ++ rest)) : Ends s := by
  cases s with
  | nil => exact fun c hc => by cases hc
  | cons c s => exact ends_cons (h c rfl) s

lemma laid_of_laid_concat {lexemes : List (List Char)} {ts : List Token} {c : Char}
    {s : List Char} (h : Laid lexemes (s ++ [c])) (hts : List.Forall₂ Lexeme lexemes ts)
    (hc : Text.isBlank c = true) : Laid lexemes s := by
  generalize hwhole : s ++ [c] = whole at h
  induction h generalizing s ts with
  | nil => simp at hwhole
  | space hd hrest ih =>
    cases s with
    | nil =>
      cases hwhole
      exact hrest
    | cons d s =>
      cases hwhole
      exact .space hd (ih hts rfl)
  | @lexeme w lexemes rest hend hrest ih =>
    cases hts with
    | cons hlexeme hlexemes =>
      rcases rest.eq_nil_or_concat' with rfl | ⟨rest, d, rfl⟩
      · -- a lexeme does not end with a blank
        obtain ⟨-, front, d, rfl, hd⟩ := hlexeme.ends
        obtain ⟨-, hlast⟩ := List.append_inj' (hwhole.trans (List.append_nil _)) rfl
        cases hlast
        rw [hc] at hd
        cases hd
      · rw [← List.append_assoc] at hwhole
        obtain ⟨rfl, hlast⟩ := List.append_inj' hwhole rfl
        cases hlast
        exact .lexeme (fun hw => ends_of_append (hend hw)) (ih hlexemes rfl)

end Token

open Text

/-- The blanks at the ends of a text are white space between lexemes. -/
lemma Spelt.trim {s : List Char} {j : Json} (h : Spelt s j) : Spelt (trim s) j := by
  rw [spelt_iff_laid] at h ⊢
  obtain ⟨lexemes, hlaid, hlexemes⟩ := h
  refine ⟨lexemes, ?_, hlexemes⟩
  have hfront : Laid lexemes (s.dropWhile isBlank) := by
    induction s with
    | nil => exact hlaid
    | cons c s ih =>
      rw [List.dropWhile_cons]
      split
      · next hc => exact ih (laid_of_laid_cons hlaid hlexemes hc)
      · exact hlaid
  change Laid lexemes ((s.dropWhile isBlank).rdropWhile isBlank)
  generalize s.dropWhile isBlank = s at hfront
  induction s using List.reverseRecOn with
  | nil => exact hfront
  | append_singleton s c ih =>
    rw [List.rdropWhile_concat]
    split
    · next hc => exact ih (laid_of_laid_concat hfront hlexemes hc)
    · exact hfront

/-- A text is read as a value, once it is trimmed, exactly if it is one of the value's texts with
blanks around it. -/
theorem parse?_trimmed_iff {s : String} {j : Json} :
    parse? (trimmed s) = some j ↔ ∃ before text after, s.toList = before ++ text ++ after ∧
      (∀ c ∈ before, isBlank c = true) ∧ (∀ c ∈ after, isBlank c = true) ∧ Spelt text j := by
  rw [parse?_iff, trimmed, String.toList_ofList]
  constructor
  · intro h
    obtain ⟨before, after, hs, hbefore, hafter⟩ := exists_blanks s.toList
    exact ⟨before, _, after, hs, hbefore, hafter, h⟩
  · rintro ⟨before, text, after, hs, hbefore, hafter, h⟩
    rw [hs, trim_append_blanks hbefore text hafter]
    exact h.trim

end ApiBalancer.Json
