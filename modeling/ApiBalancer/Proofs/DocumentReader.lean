import ApiBalancer.Proofs.BackendRecords
import ApiBalancer.Proofs.TextLines

/-!
# Reading documents

A document is read line by line: its words are what stands between spaces, and its sections begin
with the lines that are not indented. `Renderer.document_read_back` says that what a document was
made of is found in it again: no name or endpoint that is accepted can end its word or its line, or
make another line look like that of a server.
-/

namespace ApiBalancer

open Text

namespace ProxyDocument

/-- The words of a line. -/
def words (line : String) : List String := (parts ' ' line).filter (! ·.isEmpty)

/-- What comes after `start` in a line that begins with it. -/
def restAfter? (start line : String) : Option String :=
  if start.toList <+: line.toList then some (String.ofList (line.toList.drop start.toList.length))
  else none

/-- Whether a line is that of a server. -/
def isServerLine (line : String) : Bool := (restAfter? "  server " line).isSome

/-- Whether a line begins a section: it is neither indented nor empty nor a comment. -/
def isHeader (line : String) : Bool :=
  match line.toList with
  | [] => false
  | c :: _ => c != ' ' && c != '#'

/-- The lines of the section that begins with `header`. -/
def sectionOf (header : String) (lines : List String) : List String :=
  ((lines.dropWhile (· != header)).drop 1).takeWhile (! isHeader ·)

/-- The header of the front end on the control-plane port. -/
def frontHeader : String := "frontend control-plane"

/-- The header of the servers' section. -/
def backHeader : String := "backend kube-apiservers"

/-- The backend that a server line names. -/
def backendOf? (line : String) : Option Backend :=
  if isServerLine line then
    match words line with
    | _ :: name :: endpoint :: _ => some ⟨name, endpoint⟩
    | _ => none
  else none

/-- The options of a document. The port is that of the front end, as the page of statistics binds
one as well. -/
def optionsOf? (lines : List String) : Option DocumentOptions := do
  let front := sectionOf frontHeader lines
  let port ← front.findSome? (restAfter? "  bind *:")
  return { controlPlanePort := .ofNat (Nat.ofDigitChars 10 port.toList 0)
           enableStats := lines.contains "frontend stats"
           ipv6 := front.any fun line => (restAfter? "  bind :::" line).isSome }

/-- What a document was made of. -/
def read? (document : ByteArray) : Option (BackendSet × DocumentOptions) := do
  let lines := parts '\n' (← String.fromUTF8? document)
  return (BackendSet.ofList (lines.filterMap backendOf?), ← optionsOf? lines)

lemma restAfter?_append (start rest : String) : restAfter? start (start ++ rest) = some rest := by
  unfold restAfter?
  rw [String.toList_append, if_pos (List.prefix_append _ _), List.drop_left, String.ofList_toList]

/-- A line that begins in one way does not begin in another. -/
lemma restAfter?_of_ne {start start' : String} (h : ¬start.toList <+: start'.toList)
    (h' : ¬start'.toList <+: start.toList) (rest : String) :
    restAfter? start (start' ++ rest) = none := by
  refine if_neg fun hstart => ?_
  rw [String.toList_append] at hstart
  rcases List.prefix_or_prefix_of_prefix hstart (List.prefix_append _ _) with hshort | hlong
  · exact h hshort
  · exact h' hlong

lemma isHeader_indented {start : String} (h : start.toList.head? = some ' ') (rest : String) :
    isHeader (start ++ rest) = false := by
  obtain ⟨chars, hchars⟩ := List.head?_eq_some_iff.1 h
  unfold isHeader
  rw [String.toList_append, hchars]
  rfl

lemma words_append (s rest : String) : words (s ++ " " ++ rest) = words s ++ words rest := by
  have hspace : (" " : String).toList = [' '] := rfl
  unfold words parts
  rw [String.toList_append, String.toList_append, hspace, List.append_assoc,
    List.singleton_append, splitAt_append, List.map_append, List.filter_append]

lemma not_mem_of_defect? {w : Word} {s : String} (h : defect? w s = none) {c : Char}
    (hc : (isBlank c || isControl c) = true) : c ∉ s.toList := by
  unfold defect? at h
  split_ifs at h with hempty hblank
  exact fun hmem => hblank (List.any_eq_true.2 ⟨c, hmem, hc⟩)

lemma words_of_defect? {w : Word} {s : String} (h : defect? w s = none) : words s = [s] := by
  have hspace : ' ' ∉ s.toList := not_mem_of_defect? h rfl
  have hempty : s.isEmpty = false := by
    unfold defect? at h
    split_ifs at h with hempty hblank
    exact Bool.eq_false_iff.2 hempty
  unfold words parts
  rw [splitAt_of_not_mem hspace, List.map_singleton, String.ofList_toList,
    List.filter_singleton, hempty]
  rfl

/-- Whether a backend has a server line. -/
def Writable (b : String × String) : Prop :=
  defect? .name b.1 = none ∧ defect? .endpoint b.2 = none

lemma writable_of_write {backends : BackendSet} {options : DocumentOptions} {text : String}
    (h : write backends options = .ok text) :
    (∀ b ∈ backends.toList, Writable b) ∧ text = unlines (lines options backends) := by
  unfold write at h
  split at h
  · cases h
  · next hvalid =>
    refine ⟨fun b hb => ?_, (Except.ok.inj h).symm⟩
    have hb := List.findSome?_eq_none_iff.1 hvalid b hb
    exact Option.or_eq_none_iff.1 (Option.map_eq_none_iff.1 hb)

lemma serverLine_eq (options : DocumentOptions) (name endpoint : String) :
    serverLine options name endpoint = "  server " ++ (name ++ " " ++ endpoint ++
      " check check-ssl verify none resolvers docker resolve-prefer " ++ family options) := by
  simp only [serverLine, String.append_assoc]

/-- The words that a server line ends with. -/
def closingWords (options : DocumentOptions) : List String :=
  ["check", "check-ssl", "verify", "none", "resolvers", "docker", "resolve-prefer", family options]

lemma words_serverLine (options : DocumentOptions) {b : String × String} (h : Writable b) :
    words (serverLine options b.1 b.2) = "server" :: b.1 :: b.2 :: closingWords options := by
  have hline : serverLine options b.1 b.2 = "  server" ++ " " ++ (b.1 ++ " " ++ (b.2 ++ " " ++
      ("check check-ssl verify none resolvers docker resolve-prefer" ++ " " ++
        family options))) := by
    have hstart : "  server " = "  server" ++ " " := rfl
    have hmiddle : " check check-ssl verify none resolvers docker resolve-prefer " = " " ++
        "check check-ssl verify none resolvers docker resolve-prefer" ++ " " := rfl
    rw [serverLine, hstart, hmiddle]
    simp only [String.append_assoc]
  have hfamily : words (family options) = [family options] := by
    unfold family
    cases options.ipv6 <;> decide
  have hstart : words "  server" = ["server"] := by decide
  have hmiddle : words "check check-ssl verify none resolvers docker resolve-prefer" =
      ["check", "check-ssl", "verify", "none", "resolvers", "docker", "resolve-prefer"] := by
    decide
  rw [hline, words_append, words_append, words_append, words_append, words_of_defect? h.1,
    words_of_defect? h.2, hfamily, hstart, hmiddle]
  rfl

lemma isServerLine_serverLine (options : DocumentOptions) (name endpoint : String) :
    isServerLine (serverLine options name endpoint) = true := by
  unfold isServerLine
  rw [serverLine_eq, restAfter?_append]
  rfl

lemma backendOf?_serverLine (options : DocumentOptions) {b : String × String} (h : Writable b) :
    backendOf? (serverLine options b.1 b.2) = some ⟨b.1, b.2⟩ := by
  unfold backendOf?
  rw [if_pos (isServerLine_serverLine options b.1 b.2), words_serverLine options h]

lemma isHeader_serverLine (options : DocumentOptions) (name endpoint : String) :
    isHeader (serverLine options name endpoint) = false := by
  rw [serverLine_eq]
  exact isHeader_indented rfl _

lemma serverLine_oneLine (options : DocumentOptions) {b : String × String} (h : Writable b) :
    '\n' ∉ (serverLine options b.1 b.2).toList := by
  have hname : '\n' ∉ b.1.toList := not_mem_of_defect? h.1 rfl
  have hendpoint : '\n' ∉ b.2.toList := not_mem_of_defect? h.2 rfl
  have hfamily : '\n' ∉ (family options).toList := by
    unfold family
    cases options.ipv6 <;> decide
  unfold serverLine
  simp only [String.toList_append, List.mem_append, not_or]
  exact ⟨⟨⟨⟨⟨by simp, hname⟩, by simp⟩, hendpoint⟩, by simp⟩, hfamily⟩

/-- The lines that bind the port of the front end. -/
def binds (options : DocumentOptions) : List String :=
  ("  bind *:" ++ toString options.controlPlanePort.toNat) ::
    if options.ipv6 then ["  bind :::" ++ toString options.controlPlanePort.toNat] else []

/-- The lines before the front end on the control-plane port. -/
def beforeFront (options : DocumentOptions) : List String :=
  preamble ++ if options.enableStats then statsSection else []

/-- The lines of the front end on the control-plane port. -/
def frontLines (options : DocumentOptions) : List String :=
  binds options ++ ["  default_backend kube-apiservers", ""]

lemma headLines_eq (options : DocumentOptions) :
    headLines options = beforeFront options ++ frontHeader :: frontLines options ++
      [backHeader, "  option httpchk GET /healthz"] := by
  simp [headLines, frontSection, beforeFront, frontLines, binds, frontHeader, backHeader]

lemma mem_binds {options : DocumentOptions} {line : String} (h : line ∈ binds options) :
    ∃ start ∈ ["  bind *:", "  bind :::"],
      line = start ++ toString options.controlPlanePort.toNat := by
  unfold binds at h
  rcases List.mem_cons.1 h with rfl | h
  · exact ⟨_, List.mem_cons_self, rfl⟩
  · split at h
    · rw [List.mem_singleton.1 h]
      exact ⟨_, List.mem_cons_of_mem _ List.mem_cons_self, rfl⟩
    · cases h

/-- What the lines that only depend on the options have in common. -/
structure Fixed (line : String) : Prop where
  oneLine : '\n' ∉ line.toList
  notServer : isServerLine line = false

lemma fixed_binds {options : DocumentOptions} {line : String} (h : line ∈ binds options) :
    Fixed line := by
  obtain ⟨start, hstart, rfl⟩ := mem_binds h
  have hdigits : '\n' ∉ (toString options.controlPlanePort.toNat).toList :=
    not_mem_toString (by decide) _
  have hcases : start = "  bind *:" ∨ start = "  bind :::" := by simpa using hstart
  constructor
  · rw [String.toList_append, List.mem_append, not_or]
    rcases hcases with rfl | rfl <;> exact ⟨by decide, hdigits⟩
  · unfold isServerLine
    rcases hcases with rfl | rfl <;> rw [restAfter?_of_ne (by decide) (by decide)] <;> rfl

/-- The lines that are the same in all documents, and those of the page of statistics. -/
def closedLines : List String :=
  preamble ++ statsSection ++ [frontHeader, "  default_backend kube-apiservers", "", backHeader,
    "  option httpchk GET /healthz"]

lemma fixed_closedLines {line : String} (h : line ∈ closedLines) : Fixed line := by
  have hall : ∀ line ∈ closedLines, '\n' ∉ line.toList ∧ isServerLine line = false := by
    decide +kernel
  exact ⟨(hall line h).1, (hall line h).2⟩

lemma fixed_headLines {options : DocumentOptions} {line : String} (h : line ∈ headLines options) :
    Fixed line := by
  have hstats : ∀ line ∈ (if options.enableStats then statsSection else []),
      line ∈ statsSection := by
    intro line hline
    split at hline
    · exact hline
    · cases hline
  by_cases hbinds : line ∈ binds options
  · exact fixed_binds hbinds
  · refine fixed_closedLines ?_
    have hstats := hstats line
    simp only [headLines_eq, beforeFront, frontLines, List.mem_append, List.mem_cons, hbinds,
      false_or] at h
    simp only [closedLines, List.mem_append, List.mem_cons]
    grind

/-! ### Sections -/

lemma sectionOf_append {header : String} {before inside : List String} (after : List String)
    (hbefore : header ∉ before) (hinside : ∀ line ∈ inside, isHeader line = false)
    (hafter : ∀ line ∈ after.head?, isHeader line = true) :
    sectionOf header (before ++ header :: inside ++ after) = inside := by
  have hdrop : (before ++ header :: inside ++ after).dropWhile (· != header) =
      header :: (inside ++ after) := by
    rw [List.append_assoc, List.dropWhile_append_of_pos fun line hline => ?_]
    · exact List.dropWhile_cons_of_neg (by simp)
    · rw [bne_iff_ne]
      rintro rfl
      exact hbefore hline
  have hstop : after.takeWhile (! isHeader ·) = [] := by
    cases after with
    | nil => rfl
    | cons line rest => exact List.takeWhile_cons_of_neg (by simp [hafter line rfl])
  unfold sectionOf
  rw [hdrop, List.drop_one, List.tail_cons,
    List.takeWhile_append_of_pos fun line hline => by simp [hinside line hline], hstop,
    List.append_nil]

/-- The lines of a document, with what is behind the last line feed. -/
def allLines (options : DocumentOptions) (backends : BackendSet) : List String :=
  lines options backends ++ [""]

/-- The server lines of a document. -/
def serverLines (options : DocumentOptions) (backends : BackendSet) : List String :=
  backends.toList.map fun b => serverLine options b.1 b.2

/-- The lines of the servers' section, with what is behind the last line feed. -/
def backLines (options : DocumentOptions) (backends : BackendSet) : List String :=
  "  option httpchk GET /healthz" :: serverLines options backends ++ [""]

lemma allLines_eq (options : DocumentOptions) (backends : BackendSet) :
    allLines options backends = beforeFront options ++ frontHeader :: frontLines options ++
      backHeader :: backLines options backends := by
  simp [allLines, lines, headLines_eq, backLines, serverLines]

lemma isHeader_frontLines {options : DocumentOptions} {line : String}
    (h : line ∈ frontLines options) : isHeader line = false := by
  unfold frontLines at h
  rcases List.mem_append.1 h with h | h
  · obtain ⟨start, hstart, rfl⟩ := mem_binds h
    refine isHeader_indented ?_ _
    rcases List.mem_pair.1 hstart with rfl | rfl <;> rfl
  · rcases List.mem_pair.1 h with rfl | rfl <;> decide

lemma isHeader_backLines {options : DocumentOptions} {backends : BackendSet} {line : String}
    (h : line ∈ backLines options backends) : isHeader line = false := by
  unfold backLines serverLines at h
  rcases List.mem_append.1 h with h | h
  · rcases List.mem_cons.1 h with rfl | h
    · decide
    · obtain ⟨b, -, rfl⟩ := List.mem_map.1 h
      exact isHeader_serverLine options b.1 b.2
  · rw [List.mem_singleton.1 h]
    decide

lemma not_mem_frontLines {header : String} (h : isHeader header = true)
    (options : DocumentOptions) : header ∉ frontLines options := by
  intro hmem
  rw [isHeader_frontLines hmem] at h
  cases h

lemma not_mem_beforeFront {header : String} (h : header ∉ preamble ++ statsSection)
    (options : DocumentOptions) : header ∉ beforeFront options := by
  unfold beforeFront
  rw [List.mem_append, not_or] at h ⊢
  refine ⟨h.1, ?_⟩
  split
  · exact h.2
  · exact List.not_mem_nil

lemma sectionOf_front (options : DocumentOptions) (backends : BackendSet) :
    sectionOf frontHeader (allLines options backends) = frontLines options := by
  rw [allLines_eq]
  refine sectionOf_append _ (not_mem_beforeFront (by decide) options)
    (fun line hline => isHeader_frontLines hline) fun line hline => ?_
  cases hline
  decide

lemma sectionOf_back (options : DocumentOptions) (backends : BackendSet) :
    sectionOf backHeader (allLines options backends) = backLines options backends := by
  have hbefore : backHeader ∉ beforeFront options ++ frontHeader :: frontLines options := by
    rw [List.mem_append, List.mem_cons, not_or, not_or]
    exact ⟨not_mem_beforeFront (by decide) options, by decide,
      not_mem_frontLines (by decide) options⟩
  have hinside : ∀ line ∈ backLines options backends, isHeader line = false :=
    fun line hline => isHeader_backLines hline
  have hsection := sectionOf_append [] hbefore hinside (by simp)
  rw [List.append_nil] at hsection
  rw [allLines_eq]
  exact hsection

/-- The page of statistics is there if it is asked for. -/
lemma contains_stats (options : DocumentOptions) (backends : BackendSet) :
    (allLines options backends).contains "frontend stats" = options.enableStats := by
  have hfront : "frontend stats" ∉ frontLines options := not_mem_frontLines (by decide) options
  have hback : "frontend stats" ∉ backLines options backends := by
    intro hmem
    cases isHeader_backLines hmem
  have hpreamble : "frontend stats" ∉ preamble := by simp [preamble]
  have hstats : "frontend stats" ∈ statsSection := List.mem_cons_self
  have hheaders : "frontend stats" ≠ frontHeader ∧ "frontend stats" ≠ backHeader := by
    simp [frontHeader, backHeader]
  rw [allLines_eq, List.contains_eq_mem, beforeFront]
  cases options.enableStats <;>
    simp [hfront, hback, hpreamble, hstats, hheaders]

lemma optionsOf?_allLines (options : DocumentOptions) (backends : BackendSet) :
    optionsOf? (allLines options backends) = some options := by
  have hport : (frontLines options).findSome? (restAfter? "  bind *:") =
      some (toString options.controlPlanePort.toNat) := by
    rw [frontLines, binds, List.cons_append, List.findSome?_cons, restAfter?_append]
  have hnumber : Nat.ofDigitChars 10 (toString options.controlPlanePort.toNat).toList 0 =
      options.controlPlanePort.toNat := by
    rw [toList_toString]
    exact Nat.ofDigitChars_toDigits (by decide) (by decide)
  have hipv6 : (frontLines options).any (fun line => (restAfter? "  bind :::" line).isSome) =
      options.ipv6 := by
    have hother : ∀ port, restAfter? "  bind :::" ("  bind *:" ++ port) = none :=
      fun port => restAfter?_of_ne (by decide) (by decide) port
    have hrest : restAfter? "  bind :::" "  default_backend kube-apiservers" = none ∧
        restAfter? "  bind :::" "" = none := by decide
    unfold frontLines binds
    cases options.ipv6 <;> simp [hother, hrest, restAfter?_append]
  unfold optionsOf?
  dsimp only
  rw [sectionOf_front, hport, hipv6, contains_stats]
  simp only [Option.bind_eq_bind, Option.bind_some, hnumber, UInt16.ofNat_toNat]
  rfl

/-- The server lines stand out from other lines before and behind them. -/
lemma filter_around (options : DocumentOptions) (backends : BackendSet) (before after : List String)
    (hbefore : ∀ line ∈ before, isServerLine line = false)
    (hafter : ∀ line ∈ after, isServerLine line = false) :
    (before ++ serverLines options backends ++ after).filter isServerLine =
        serverLines options backends ∧
      (before ++ serverLines options backends ++ after).filter (! isServerLine ·) =
        before ++ after := by
  have hservers : ∀ line ∈ serverLines options backends, isServerLine line = true := by
    intro line hline
    obtain ⟨b, -, rfl⟩ := List.mem_map.1 hline
    exact isServerLine_serverLine options b.1 b.2
  have hnone : ∀ {l : List String}, (∀ line ∈ l, isServerLine line = false) →
      l.filter isServerLine = [] ∧ l.filter (! isServerLine ·) = l := by
    intro l hl
    exact ⟨List.filter_eq_nil_iff.2 fun line hline => by simp [hl line hline],
      List.filter_eq_self.2 fun line hline => by simp [hl line hline]⟩
  have hkept : (serverLines options backends).filter (! isServerLine ·) = [] :=
    List.filter_eq_nil_iff.2 fun line hline => by simp [hservers line hline]
  simp only [List.filter_append, hnone hbefore, hnone hafter, List.filter_eq_self.2 hservers, hkept,
    List.nil_append, List.append_nil, and_self]

lemma filter_allLines (options : DocumentOptions) (backends : BackendSet) :
    (allLines options backends).filter isServerLine = serverLines options backends ∧
      (allLines options backends).filter (! isServerLine ·) = headLines options ++ [""] :=
  filter_around options backends (headLines options) [""]
    (fun _ hline => (fixed_headLines hline).notServer) (by decide)

lemma filter_backLines (options : DocumentOptions) (backends : BackendSet) :
    (backLines options backends).filter isServerLine = serverLines options backends :=
  (filter_around options backends ["  option httpchk GET /healthz"] [""] (by decide)
    (by decide)).1

/-- The backends of a document are those of its server lines. -/
lemma filterMap_allLines (options : DocumentOptions) {backends : BackendSet}
    (h : ∀ b ∈ backends.toList, Writable b) :
    (allLines options backends).filterMap backendOf? =
      backends.toList.map fun b => ⟨b.1, b.2⟩ := by
  have hother : ∀ line ∈ headLines options ++ [""], backendOf? line = none := by
    intro line hline
    rw [← (filter_allLines options backends).2] at hline
    have hnot : isServerLine line = false := by simpa using (List.mem_filter.1 hline).2
    exact if_neg (by simp [hnot])
  rw [List.forall_mem_append] at hother
  have hservers : (serverLines options backends).filterMap backendOf? =
      backends.toList.map fun b => ⟨b.1, b.2⟩ := by
    rw [serverLines, List.filterMap_map, ← List.filterMap_eq_map]
    refine List.filterMap_congr fun b hb => ?_
    rw [Function.comp_apply, backendOf?_serverLine options (h b hb)]
    rfl
  have hlines : allLines options backends =
      headLines options ++ serverLines options backends ++ [""] := rfl
  rw [hlines, List.filterMap_append, List.filterMap_append, hservers,
    List.filterMap_eq_nil_iff.2 hother.1, List.filterMap_eq_nil_iff.2 hother.2, List.nil_append,
    List.append_nil]

lemma parts_write {backends : BackendSet} {options : DocumentOptions}
    (h : ∀ b ∈ backends.toList, Writable b) :
    parts '\n' (unlines (lines options backends)) = allLines options backends := by
  refine parts_unlines fun line hline => ?_
  rcases List.mem_append.1 hline with hline | hline
  · exact (fixed_headLines hline).oneLine
  · obtain ⟨b, hb, rfl⟩ := List.mem_map.1 hline
    exact serverLine_oneLine options (h b hb)

lemma read?_write {backends : BackendSet} {options : DocumentOptions} {text : String}
    (h : write backends options = .ok text) : read? text.toUTF8 = some (backends, options) := by
  obtain ⟨hwritable, rfl⟩ := writable_of_write h
  unfold read?
  rw [fromUTF8?_toUTF8]
  simp only [Option.bind_eq_bind, Option.bind_some]
  rw [parts_write hwritable, filterMap_allLines options hwritable, optionsOf?_allLines,
    BackendSet.ofList_toList]
  rfl

lemma exists_text {backends : BackendSet} {options : DocumentOptions} {document : ByteArray}
    (h : Renderer.proxy.render backends options = .ok document) :
    ∃ text, write backends options = .ok text ∧ document = text.toUTF8 := by
  simp only [Renderer.proxy] at h
  cases hwrite : write backends options with
  | ok text =>
    rw [hwrite] at h
    exact ⟨text, rfl, (Except.ok.inj h).symm⟩
  | error e =>
    rw [hwrite] at h
    cases h

end ProxyDocument

open ProxyDocument

/-- The lines of a document are those that its options ask for and one line for each backend, in
the order of the names and in the section of the servers, with the backend's name and endpoint as
its second and third words. So a reader of lines finds the backends and the options in it, and no
other ones have the same document. -/
theorem Renderer.document_read_back {backends : BackendSet} {options : DocumentOptions}
    {document : ByteArray} (h : Renderer.proxy.render backends options = .ok document) :
    ∃ text : String, document = text.toUTF8 ∧ text.toList.getLast? = some '\n' ∧
      (let all := parts '\n' text
       (all.filter isServerLine).map words =
          backends.toList.map (fun b => "server" :: b.1 :: b.2 :: closingWords options) ∧
        backends.toList.Pairwise (fun b b' => b.1 < b'.1) ∧
        all.filter isServerLine =
          (sectionOf "backend kube-apiservers" all).filter isServerLine ∧
        all.filter (! isServerLine ·) = headLines options ++ [""]) ∧
      read? document = some (backends, options) ∧
      ∀ backends' options', Renderer.proxy.render backends' options' = .ok document →
        backends' = backends ∧ options' = options := by
  have hread : ∀ {backends' options'}, Renderer.proxy.render backends' options' = .ok document →
      read? document = some (backends', options') := by
    intro backends' options' h'
    obtain ⟨text, hwrite, rfl⟩ := exists_text h'
    exact read?_write hwrite
  have hsame : ∀ backends' options', Renderer.proxy.render backends' options' = .ok document →
      backends' = backends ∧ options' = options := by
    intro backends' options' h'
    have hboth := (hread h').symm.trans (hread h)
    simpa using hboth
  obtain ⟨text, hwrite, rfl⟩ := exists_text h
  obtain ⟨hwritable, rfl⟩ := writable_of_write hwrite
  obtain ⟨hservers, hothers⟩ := filter_allLines options backends
  refine ⟨_, rfl, ?_, ?_, hread h, hsame⟩
  · exact getLast?_unlines (List.append_ne_nil_of_left_ne_nil (by simp [headLines, preamble]) _)
  · dsimp only
    rw [parts_write hwritable]
    refine ⟨?_, backends.byName.sorted, ?_, hothers⟩
    · rw [hservers, serverLines, List.map_map]
      refine List.map_congr_left fun b hb => ?_
      rw [Function.comp_apply, words_serverLine options (hwritable b hb)]
    · have hback := sectionOf_back options backends
      unfold backHeader at hback
      rw [hback, hservers, filter_backLines]

/-- Backends with the words and signs of the document in their names and endpoints. -/
def BackendSet.odd : BackendSet :=
  .ofList [⟨"server", "global"⟩, ⟨"#", "frontend"⟩, ⟨"'é\"", "[fd00::2]:6443"⟩, ⟨"\\", "*:1"⟩]

theorem Renderer.odd_document_read_back :
    let options : DocumentOptions :=
      { controlPlanePort := 65535, enableStats := false, ipv6 := true }
    ∃ document, Renderer.proxy.render .odd options = .ok document ∧
      read? document = some (.odd, options) := by
  intro options
  have haccepted : invalidBackend? BackendSet.odd.toList = none := by decide
  have hrender : Renderer.proxy.render .odd options =
      .ok (unlines (lines options .odd)).toUTF8 := by
    simp only [Renderer.proxy, write, haccepted, Except.map]
  obtain ⟨-, -, -, -, hread, -⟩ := Renderer.document_read_back hrender
  exact ⟨_, hrender, hread⟩

end ApiBalancer
