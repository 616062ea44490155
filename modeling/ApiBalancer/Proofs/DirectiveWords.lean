import ApiBalancer.Proofs.DocumentReader

/-!
# Words as the proxy reads them

The proxy does not take the words of a line as they stand: a number sign begins a comment, and
quotes and backslashes are not part of the word that they quote. A name or an endpoint may hold all
of these and is still accepted. `Renderer.server_lines_read_iff` says which backends the proxy then
finds in the server lines of a document: those without such a character, and no others.
-/

namespace ApiBalancer

open Text

namespace ProxyDocument

/-- Whether a character ends a word. -/
def isGap (c : Char) : Bool := c == ' ' || c == '\t'

/-- How the next character of a line is read. -/
inductive Mode where
  | plain
  /-- Between two quotes. -/
  | quoted (quote : Char)
  /-- Behind a backslash, which may itself stand between two quotes. -/
  | escaped (quote : Option Char)
  | comment
deriving DecidableEq

/-- A line that has been read in part. -/
structure Reading where
  mode : Mode := .plain
  /-- The words that have ended. -/
  ended : List (List Char) := []
  /-- The word that has begun and not ended. -/
  begun : Option (List Char) := none

namespace Reading

/-- All words so far. -/
def words (r : Reading) : List (List Char) := r.ended ++ r.begun.toList

/-- A blank ends the word that has begun. -/
def endWord (r : Reading) : Reading := { r with ended := r.words, begun := none }

/-- Characters that go on with a word, or begin one; a quote begins a word before there is any
character in it. -/
def extend (r : Reading) (chars : List Char) : Reading :=
  { r with begun := some (r.begun.getD [] ++ chars) }

def become (r : Reading) (mode : Mode) : Reading := { r with mode }

/-- Reads one character. -/
def step (r : Reading) (c : Char) : Reading :=
  match r.mode with
  | .plain =>
    if isGap c then r.endWord
    else if c = '#' then r.become .comment
    else if c = '\'' ∨ c = '"' then (r.extend []).become (.quoted c)
    else if c = '\\' then r.become (.escaped none)
    else r.extend [c]
  | .quoted quote =>
    if c = quote then r.become .plain
    else if c = '\\' ∧ quote = '"' then r.become (.escaped quote)
    else r.extend [c]
  | .escaped none => (r.extend [c]).become .plain
  | .escaped (some quote) => (r.extend [c]).become (.quoted quote)
  | .comment => r

/-- The words of a line that has been read. A quote that is not closed leaves it without. -/
def result (r : Reading) : Option (List String) :=
  if r.mode = .plain ∨ r.mode = .comment then some (r.words.map String.ofList) else none

end Reading

/-- The words of a line, with its comments and quotes. -/
def directive? (line : String) : Option (List String) :=
  (line.toList.foldl Reading.step {}).result

/-- The characters that do not stand for themselves in a line. -/
def specials : List Char := ['#', '\'', '"', '\\']

/-- Whether all characters of a text stand for themselves. -/
def Literal (s : String) : Prop := ∀ c ∈ s.toList, c ∉ specials

namespace Reading

variable {r : Reading} {c : Char} {chars : List Char}

lemma step_gap (h : r.mode = .plain) (hc : isGap c = true) : r.step c = r.endWord := by
  simp only [step, h, if_pos hc]

lemma step_literal (h : r.mode = .plain) (hc : isGap c = false) (hspecial : c ∉ specials) :
    r.step c = r.extend [c] := by
  simp only [specials, List.mem_cons, List.not_mem_nil, or_false, not_or] at hspecial
  obtain ⟨hcomment, hsingle, hdouble, hescape⟩ := hspecial
  simp only [step, h, hc, hcomment, hsingle, hdouble, hescape, or_self, Bool.false_eq_true,
    if_false]

lemma extend_extend (r : Reading) (chars chars' : List Char) :
    (r.extend chars).extend chars' = r.extend (chars ++ chars') := by
  simp [extend]

lemma foldl_word (h : r.mode = .plain) (hchars : ∀ c ∈ chars, isGap c = false ∧ c ∉ specials)
    (hne : chars ≠ []) : chars.foldl step r = r.extend chars := by
  induction chars generalizing r with
  | nil => exact (hne rfl).elim
  | cons c rest ih =>
    obtain ⟨⟨hgap, hspecial⟩, hrest⟩ := List.forall_mem_cons.1 hchars
    rw [List.foldl_cons, step_literal h hgap hspecial]
    cases rest with
    | nil => rfl
    | cons d rest =>
      rw [ih (r := r.extend [c]) h hrest (List.cons_ne_nil d rest), extend_extend]
      rfl

lemma foldl_spaced (h : r.mode = .plain) {words : List (List Char)}
    (hwords : ∀ w ∈ words, w ≠ [] ∧ ∀ c ∈ w, isGap c = false ∧ c ∉ specials) :
    ((words.flatMap (' ' :: ·)).foldl step r).mode = .plain ∧
      ((words.flatMap (' ' :: ·)).foldl step r).words = r.words ++ words := by
  induction words generalizing r with
  | nil => exact ⟨h, (List.append_nil _).symm⟩
  | cons w rest ih =>
    obtain ⟨⟨hne, hw⟩, hrest⟩ := List.forall_mem_cons.1 hwords
    have hword : (' ' :: w).foldl step r = r.endWord.extend w := by
      rw [List.foldl_cons, step_gap h rfl]
      exact foldl_word h hw hne
    have hwords : (r.endWord.extend w).words = r.words ++ [w] := rfl
    rw [List.flatMap_cons, List.foldl_append, hword]
    obtain ⟨hmode, hread⟩ := ih (r := r.endWord.extend w) h hrest
    refine ⟨hmode, ?_⟩
    rw [hread, hwords, List.append_assoc, List.singleton_append]

end Reading

/-- The number of characters that are no blanks. -/
def ink (chars : List Char) : Nat := chars.countP (! isGap ·)

lemma ink_append (chars chars' : List Char) : ink (chars ++ chars') = ink chars + ink chars' :=
  List.countP_append

lemma ink_cons (c : Char) (chars : List Char) : ink (c :: chars) = ink [c] + ink chars :=
  ink_append [c] chars

namespace Reading

variable {r : Reading} {c : Char} {chars : List Char}

/-- The number of characters in words that are no blanks. -/
def inked (r : Reading) : Nat := ink r.words.flatten

lemma inked_endWord (r : Reading) : r.endWord.inked = r.inked := by
  simp [inked, endWord, words]

lemma inked_become (r : Reading) (mode : Mode) : (r.become mode).inked = r.inked := rfl

lemma inked_extend (r : Reading) (chars : List Char) :
    (r.extend chars).inked = r.inked + ink chars := by
  cases hbegun : r.begun <;> simp [inked, extend, words, ink, hbegun, Nat.add_assoc]

lemma inked_step_le (r : Reading) (c : Char) : (r.step c).inked ≤ r.inked + ink [c] := by
  have hnone : ink [] = 0 := rfl
  unfold step
  cases r.mode with
  | plain =>
    dsimp only
    split_ifs <;> simp only [inked_endWord, inked_become, inked_extend] <;> omega
  | quoted quote =>
    dsimp only
    split_ifs <;> simp only [inked_become, inked_extend] <;> omega
  | escaped quote =>
    cases quote with
    | none => exact (inked_extend r [c]).le
    | some quote => exact (inked_extend r [c]).le
  | comment => exact Nat.le_add_right _ _

lemma inked_foldl_le (r : Reading) (chars : List Char) :
    (chars.foldl step r).inked ≤ r.inked + ink chars := by
  induction chars generalizing r with
  | nil => exact le_rfl
  | cons c rest ih =>
    have hstep := inked_step_le r c
    have hrest := ih (r.step c)
    rw [List.foldl_cons, ink_cons]
    omega

lemma step_special (h : r.mode = .plain) (hc : c ∈ specials) :
    (r.step c).inked = r.inked ∧ ink [c] = 1 := by
  have hcases : c = '#' ∨ c = '\'' ∨ c = '"' ∨ c = '\\' := by simpa [specials] using hc
  rcases hcases with rfl | rfl | rfl | rfl
  all_goals exact ⟨by simp [step, h, isGap, inked_become, inked_extend, ink], rfl⟩

lemma mode_step (h : r.mode = .plain) (hc : c ∉ specials) : (r.step c).mode = .plain := by
  cases hgap : isGap c with
  | true =>
    rw [step_gap h hgap]
    exact h
  | false =>
    rw [step_literal h hgap hc]
    exact h

lemma mode_foldl (h : r.mode = .plain) (hspecials : ∀ c ∈ chars, c ∉ specials) :
    (chars.foldl step r).mode = .plain := by
  induction chars generalizing r with
  | nil => exact h
  | cons c rest ih =>
    obtain ⟨hc, hrest⟩ := List.forall_mem_cons.1 hspecials
    exact ih (mode_step h hc) hrest

lemma step_number_sign (h : r.mode = .plain) : r.step '#' = r.become .comment := by
  simp [step, h, isGap]

lemma foldl_comment (h : r.mode = .comment) (chars : List Char) : chars.foldl step r = r := by
  induction chars with
  | nil => rfl
  | cons c rest ih =>
    have hstep : r.step c = r := by simp only [step, h]
    rw [List.foldl_cons, hstep, ih]

lemma inked_foldl_lt (h : r.mode = .plain) (hspecial : ∃ c ∈ chars, c ∈ specials) :
    (chars.foldl step r).inked < r.inked + ink chars := by
  induction chars generalizing r with
  | nil =>
    obtain ⟨c, hc, -⟩ := hspecial
    cases hc
  | cons c rest ih =>
    rw [List.foldl_cons, ink_cons]
    by_cases hc : c ∈ specials
    · obtain ⟨hlost, hink⟩ := step_special h hc
      have hrest := inked_foldl_le (r.step c) rest
      omega
    · have hspecial' : ∃ d ∈ rest, d ∈ specials := by
        obtain ⟨d, hd, hdspecial⟩ := hspecial
        rcases List.mem_cons.1 hd with rfl | hd
        · exact (hc hdspecial).elim
        · exact ⟨d, hd, hdspecial⟩
      have hstep := inked_step_le r c
      have hrest := ih (mode_step h hc) hspecial'
      omega

end Reading

/-! ### Lines of words -/

lemma ink_spaced (words : List (List Char)) :
    ink (words.flatMap (' ' :: ·)) = ink words.flatten := by
  induction words with
  | nil => rfl
  | cons w rest ih =>
    have hspace : ink (' ' :: w) = ink w := rfl
    rw [List.flatMap_cons, List.flatten_cons, ink_append, ink_append, ih, hspace]

lemma words_of_result {r : Reading} {words : List (List Char)}
    (h : r.result = some (words.map String.ofList)) : r.words = words := by
  unfold Reading.result at h
  split at h
  · exact List.map_injective_iff.2 (fun _ _ => String.ofList_injective) (Option.some.inj h)
  · cases h

/-- Words with a blank before each of them are read as they are exactly if they stand for
themselves: if one does not, fewer characters are read than the words have. -/
lemma result_spaced_iff {words : List (List Char)}
    (hwords : ∀ w ∈ words, w ≠ [] ∧ ∀ c ∈ w, isGap c = false) :
    ((words.flatMap (' ' :: ·)).foldl Reading.step {}).result = some (words.map String.ofList) ↔
      ∀ w ∈ words, ∀ c ∈ w, c ∉ specials := by
  constructor
  · intro hread w hw c hc hspecial
    have hmem : c ∈ words.flatMap (' ' :: ·) :=
      List.mem_flatMap.2 ⟨w, hw, List.mem_cons_of_mem _ hc⟩
    have hlost := Reading.inked_foldl_lt (r := {}) rfl ⟨c, hmem, hspecial⟩
    rw [Reading.inked, words_of_result hread, ink_spaced] at hlost
    have hnone : Reading.inked {} = 0 := rfl
    omega
  · intro hliteral
    obtain ⟨hmode, hread⟩ := Reading.foldl_spaced (r := {}) rfl fun w hw =>
      ⟨(hwords w hw).1, fun c hc => ⟨(hwords w hw).2 c hc, hliteral w hw c hc⟩⟩
    rw [Reading.result, if_pos (.inl hmode), hread]
    rfl

lemma directive?_iff {line : String} {words : List String}
    (hline : line.toList = ' ' :: (words.map String.toList).flatMap (' ' :: ·))
    (hwords : ∀ w ∈ words, w ≠ "" ∧ ∀ c ∈ w.toList, isGap c = false) :
    directive? line = some words ↔ ∀ w ∈ words, Literal w := by
  have hback : (words.map String.toList).map String.ofList = words := by simp [Function.comp_def]
  have hchars : ∀ w ∈ words.map String.toList, w ≠ [] ∧ ∀ c ∈ w, isGap c = false := by
    simpa using hwords
  have hread := result_spaced_iff hchars
  rw [hback, List.forall_mem_map] at hread
  unfold directive?
  rw [hline]
  exact hread

lemma directive?_comment {before : String} (h : Literal before) (after : String) :
    directive? (before ++ "#" ++ after) = directive? before := by
  have hplain : (before.toList.foldl Reading.step {}).mode = .plain :=
    Reading.mode_foldl rfl h
  have hsign : (before ++ "#" ++ after).toList = before.toList ++ '#' :: after.toList := by simp
  unfold directive?
  rw [hsign, List.foldl_append, List.foldl_cons, Reading.step_number_sign hplain,
    Reading.foldl_comment rfl]
  unfold Reading.result
  rw [hplain]
  rfl

/-- The words that a server line is made of. -/
def serverWords (options : DocumentOptions) (name endpoint : String) : List String :=
  "server" :: name :: endpoint :: closingWords options

lemma toList_serverLine (options : DocumentOptions) (name endpoint : String) :
    (serverLine options name endpoint).toList =
      ' ' :: ((serverWords options name endpoint).map String.toList).flatMap (' ' :: ·) := by
  have hstart : "  server ".toList = ' ' :: ' ' :: "server".toList ++ [' '] := rfl
  have hmiddle : " check check-ssl verify none resolvers docker resolve-prefer ".toList =
      ' ' :: "check".toList ++ ' ' :: "check-ssl".toList ++ ' ' :: "verify".toList ++
        ' ' :: "none".toList ++ ' ' :: "resolvers".toList ++ ' ' :: "docker".toList ++
        ' ' :: "resolve-prefer".toList ++ [' '] := rfl
  have hspace : " ".toList = [' '] := rfl
  simp only [serverLine, serverWords, closingWords, String.toList_append, hstart, hmiddle, hspace,
    List.map_cons, List.map_nil, List.flatMap_cons, List.flatMap_nil, List.append_assoc,
    List.cons_append, List.nil_append, List.append_nil]

lemma isGap_of_isWord {s : String} (h : IsWord s) : ∀ c ∈ s.toList, isGap c = false := by
  intro c hc
  rw [← Bool.not_eq_true]
  intro hgap
  have hcases : c = ' ' ∨ c = '\t' := by simpa [isGap] using hgap
  refine h.2 c hc (.inl ?_)
  rcases hcases with rfl | rfl <;> rfl

lemma fixed_serverWords {options : DocumentOptions} {w : String}
    (h : w ∈ "server" :: closingWords options) :
    w ≠ "" ∧ (∀ c ∈ w.toList, isGap c = false) ∧ Literal w := by
  have hall : ∀ w ∈ "server" :: closingWords options,
      w ≠ "" ∧ w.toList.all (fun c => ! isGap c && ! specials.contains c) = true := by
    unfold closingWords family
    cases options.ipv6 <;> decide +kernel
  obtain ⟨hne, hchars⟩ := hall w h
  simp only [List.all_eq_true, Bool.and_eq_true, Bool.not_eq_true', List.contains_eq_mem,
    decide_eq_false_iff_not] at hchars
  exact ⟨hne, fun c hc => (hchars c hc).1, fun c hc => (hchars c hc).2⟩

/-- A server line is read as it was meant exactly if the name and the endpoint stand for
themselves. -/
lemma directive?_serverLine_iff {name endpoint : String} (h : Fit name endpoint)
    (options : DocumentOptions) :
    directive? (serverLine options name endpoint) = some (serverWords options name endpoint) ↔
      Literal name ∧ Literal endpoint := by
  have hwords : ∀ w ∈ serverWords options name endpoint, w ≠ "" ∧
      ∀ c ∈ w.toList, isGap c = false := by
    intro w hw
    have hcases : w ∈ "server" :: closingWords options ∨ w = name ∨ w = endpoint := by
      simp only [serverWords, List.mem_cons] at hw ⊢
      tauto
    rcases hcases with hfixed | rfl | rfl
    · exact ⟨(fixed_serverWords hfixed).1, (fixed_serverWords hfixed).2.1⟩
    · exact ⟨h.1.1, isGap_of_isWord h.1⟩
    · exact ⟨h.2.1, isGap_of_isWord h.2⟩
  have hliteral : (∀ w ∈ serverWords options name endpoint, Literal w) ↔
      Literal name ∧ Literal endpoint := by
    have hfixed : ∀ w ∈ "server" :: closingWords options, Literal w :=
      fun w hw => (fixed_serverWords hw).2.2
    simp only [List.forall_mem_cons] at hfixed
    simp only [serverWords, List.forall_mem_cons, hfixed, true_and]
    exact and_congr_right fun _ => and_iff_left hfixed.2
  rw [directive?_iff (toList_serverLine options name endpoint) hwords, hliteral]

end ProxyDocument

open ProxyDocument

namespace Renderer

/-- The proxy reads a server line of a document as it was meant, with the name and the endpoint of
its backend as second and third words and the fixed words behind them, exactly if all characters of
the name and of the endpoint stand for themselves: there is no number sign among them, no quote and
no backslash. -/
theorem server_lines_read_iff {backends : BackendSet} {options : DocumentOptions}
    {document : ByteArray} (h : proxy.render backends options = .ok document) :
    ∃ text : String, document = text.toUTF8 ∧
      List.Forall₂ (fun line b =>
          directive? line = some ("server" :: b.1 :: b.2 :: closingWords options) ↔
            Literal b.1 ∧ Literal b.2)
        ((parts '\n' text).filter isServerLine) backends.toList := by
  obtain ⟨text, hwrite, rfl⟩ := exists_text h
  obtain ⟨hwritable, rfl⟩ := writable_of_write hwrite
  refine ⟨_, rfl, ?_⟩
  rw [parts_write hwritable, (filter_allLines options backends).1, serverLines,
    List.forall₂_map_left_iff, List.forall₂_same]
  intro b hb
  have hfit : Fit b.1 b.2 := render_eq_ok_iff.1 ⟨_, h⟩ b.1 b.2 (mem_toList.1 hb)
  exact directive?_serverLine_iff hfit options

/-- Of two nodes that are accepted, one is found and one is not. -/
theorem number_sign_not_found :
    let backends : BackendSet := .ofList [⟨"cp-1", "[::2]:6443"⟩, ⟨"cp#1", "10.0.0.1:6443"⟩]
    ∃ document text line line', proxy.render backends {} = .ok document ∧
      document = text.toUTF8 ∧ (parts '\n' text).filter isServerLine = [line, line'] ∧
      directive? line ≠ some ("server" :: "cp#1" :: "10.0.0.1:6443" :: closingWords {}) ∧
      directive? line' = some ("server" :: "cp-1" :: "[::2]:6443" :: closingWords {}) := by
  intro backends
  have haccepted : invalidBackend? backends.toList = none := by decide
  have hrender : proxy.render backends {} = .ok (unlines (lines {} backends)).toUTF8 := by
    simp only [proxy, write, haccepted, Except.map]
  have hlist : backends.toList = [("cp#1", "10.0.0.1:6443"), ("cp-1", "[::2]:6443")] := by decide
  obtain ⟨text, hdocument, hlines⟩ := server_lines_read_iff hrender
  rw [hlist] at hlines
  obtain ⟨line, _, hfirst, hrest, hsplit⟩ := List.forall₂_cons_right_iff.1 hlines
  obtain ⟨line', _, hsecond, hnone, rfl⟩ := List.forall₂_cons_right_iff.1 hrest
  rw [List.forall₂_nil_right_iff.1 hnone] at hsplit
  refine ⟨_, text, line, line', hrender, hdocument, hsplit, ?_, hsecond.2 ⟨?_, ?_⟩⟩
  · intro hread
    exact (hfirst.1 hread).1 '#' (by decide) (by decide)
  · simp [Literal, specials]
  · simp [Literal, specials]

/-- A name with a number sign is accepted, and the proxy reads its line up to there. -/
theorem comment_hides_backend :
    let backends : BackendSet := .ofList [.reachable "cp#1" "10.0.0.1" 6443]
    ∃ text line, proxy.render backends {} = .ok text.toUTF8 ∧
      (parts '\n' text).filter isServerLine = [line] ∧
      backends.toList = [("cp#1", "10.0.0.1:6443")] ∧
      directive? line = some ["server", "cp"] := by
  intro backends
  have hlist : backends.toList = [("cp#1", "10.0.0.1:6443")] := by decide
  have haccepted : invalidBackend? backends.toList = none := by decide
  have hwrite : write backends {} = .ok (unlines (lines {} backends)) := by
    simp only [write, haccepted]
  have hlines : (parts '\n' (unlines (lines {} backends))).filter isServerLine =
      [serverLine {} "cp#1" "10.0.0.1:6443"] := by
    rw [parts_write (writable_of_write hwrite).1, (filter_allLines {} backends).1, serverLines,
      hlist]
    rfl
  have hline : serverLine {} "cp#1" "10.0.0.1:6443" = "  server cp" ++ "#" ++
      "1 10.0.0.1:6443 check check-ssl verify none resolvers docker resolve-prefer ipv4" := by
    decide
  refine ⟨_, _, ?_, hlines, hlist, ?_⟩
  · simp only [proxy, hwrite, Except.map]
  · rw [hline, directive?_comment (by simp [Literal, specials])]
    decide

end Renderer

end ApiBalancer
