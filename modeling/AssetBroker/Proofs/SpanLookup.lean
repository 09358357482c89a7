import AssetBroker.Proofs.ConfigSpans
import Mathlib

/-!
# Where a setting stands in its text

The search for a setting reads a file's text line by line. This module says
what a span it finds stands over, in the words of the text's lines.

A key's span (`KeyStart`) starts a line, after the line's blanks; the line
goes on, after the key and blanks, with `=`; and the nearest header line
above it names the wanted table, or there is none and the wanted table is
the unnamed one (`KeyLine`). A value's span stands in the statement that
starts at its key and runs to the next line feed followed by `[`
(`Statement`), over the `nth` of non-overlapping occurrences of the quoted
value there, so at least `nth + 1` of them stand in the statement
(`NthOccurrence`).

Main statement (`located_spans_are_sound`): every place the configuration's
lookups find is of this kind, in the file of highest precedence, among those
admitted, whose text has it.

The search's step is described once (`keyLineStep_cases`): before a key is
found the state is the table the lines read leave open (`openTable`) and the
bytes read; a line either is passed or sets the key.
-/

namespace AssetBroker

namespace SourceSet

/-! ## Header lines and the open table -/

/-- The name a header line gives the table below it; none for another line. -/
def headerOf? (line : List Char) : Option (List Char) :=
  match Text.trimStart line with
  | '[' :: header => some (headerName header)
  | _ => none

theorem headerOf?_eq_none_iff {line : List Char} :
    headerOf? line = none ↔ (Text.trimStart line).head? ≠ some '[' := by
  unfold headerOf?
  split
  · rename_i header hheader
    simp [hheader]
  · rename_i hnot
    simp only [true_iff]
    intro hhead
    obtain ⟨rest, hrest⟩ : ∃ rest, Text.trimStart line = '[' :: rest := by
      cases ht : Text.trimStart line with
      | nil => simp [ht] at hhead
      | cons c rest =>
        simp only [ht, List.head?_cons, Option.some.injEq] at hhead
        exact ⟨rest, by rw [hhead]⟩
    exact hnot rest hrest

theorem headerOf?_eq_some_iff {line name : List Char} :
    headerOf? line = some name ↔ ∃ header, Text.trimStart line = '[' :: header ∧ headerName header = name := by
  unfold headerOf?
  split
  · rename_i header hheader
    simp [hheader]
  · rename_i hnot
    simp only [reduceCtorEq, false_iff, not_exists, not_and]
    exact fun header hheader => absurd hheader (hnot header)

/-- The table open below the lines `lines`: the one the last header line
among them names, or the unnamed table above every header. -/
def openTable (lines : List (List Char)) : List Char :=
  ((lines.filterMap headerOf?).getLast?).getD []

theorem openTable_append_singleton (lines : List (List Char)) (line : List Char) :
    openTable (lines ++ [line]) = (headerOf? line).getD (openTable lines) := by
  unfold openTable
  cases h : headerOf? line <;> simp [List.filterMap_append, h]

/-- The open table is named by the nearest header line, or there is none and
the table is the unnamed one. -/
theorem openTable_nearest (lines : List (List Char)) :
    (∃ b₁ header b₂ name, lines = b₁ ++ header :: b₂ ∧ Text.trimStart header = '[' :: name ∧
        headerName name = openTable lines ∧ ∀ l ∈ b₂, (Text.trimStart l).head? ≠ some '[') ∨
      ((∀ l ∈ lines, (Text.trimStart l).head? ≠ some '[') ∧ openTable lines = []) := by
  induction lines using List.reverseRecOn with
  | nil => exact .inr ⟨by simp, rfl⟩
  | append_singleton lines line ih =>
    rw [openTable_append_singleton]
    cases hline : headerOf? line with
    | some n =>
      -- the last line is itself a header
      obtain ⟨name, hname, rfl⟩ := headerOf?_eq_some_iff.1 hline
      exact .inl ⟨lines, line, [], name, by simp, hname, rfl, by simp⟩
    | none =>
      have hplain := headerOf?_eq_none_iff.1 hline
      rcases ih with ⟨b₁, header, b₂, name, rfl, hheader, hname, hb₂⟩ | ⟨hnone, hempty⟩
      · refine .inl ⟨b₁, header, b₂ ++ [line], name, by simp, hheader, hname, ?_⟩
        intro l hl
        rcases List.mem_append.1 hl with hl | hl
        · exact hb₂ l hl
        · rw [List.mem_singleton.1 hl]
          exact hplain
      · refine .inr ⟨?_, hempty⟩
        intro l hl
        rcases List.mem_append.1 hl with hl | hl
        · exact hnone l hl
        · rw [List.mem_singleton.1 hl]
          exact hplain

/-! ## The line of a key -/

/-- Line `line`, below the lines `before`, sets `key` in table `table`:
after its blanks it starts with the key, and after the key and blanks with
`=`; the nearest header line above names the table, or there is none and
the table is the unnamed one. -/
structure KeyLine (table key : List Char) (before : List (List Char)) (line : List Char) : Prop where
  starts : ∃ rest, Text.trimStart line = key ++ rest ∧ (Text.trimStart rest).head? = some '='
  under : (∃ b₁ header b₂ name, before = b₁ ++ header :: b₂ ∧ Text.trimStart header = '[' :: name ∧
      headerName name = table ∧ ∀ l ∈ b₂, (Text.trimStart l).head? ≠ some '[') ∨
    ((∀ l ∈ before, (Text.trimStart l).head? ≠ some '[') ∧ table = [])

/-- `key` is set in table `table` in `content` on a line that starts `start`
bytes before the key, with only blanks between. -/
def KeyStart (table key content : List Char) (start : Nat) : Prop :=
  ∃ before line after, Text.splitLinesInclusive content = before ++ line :: after ∧
    KeyLine table key before line ∧ start = Text.byteLength (before.flatten ++ line.takeWhile Text.isBlank)

theorem keyLine_of_openTable {wanted key : List Char} {before : List (List Char)} {line : List Char}
    (htable : openTable before = wanted) (hkey : Text.startsWith (Text.trimStart line) key = true)
    (heq : Text.startsWith (Text.trimStart ((Text.trimStart line).drop key.length)) ['='] = true) :
    KeyLine wanted key before line where
  starts := by
    refine ⟨(Text.trimStart line).drop key.length, Text.eq_append_of_startsWith hkey, ?_⟩
    rw [Text.eq_append_of_startsWith heq]
    rfl
  under := by
    subst htable
    exact openTable_nearest before

/-- One line of the search, before any key is found: the line is passed, and
the state is that below it, or it sets the key, and the search has found
the key's offset. -/
theorem keyLineStep_cases (wanted key : List Char) (before : List (List Char)) (line : List Char) :
    keyLineStep wanted key (openTable before, Text.byteLength before.flatten, none) line =
        (openTable (before ++ [line]), Text.byteLength (before ++ [line]).flatten, none) ∨
      KeyLine wanted key before line ∧
        keyLineStep wanted key (openTable before, Text.byteLength before.flatten, none) line =
          (openTable before, Text.byteLength (before ++ [line]).flatten,
            some (Text.byteLength (before.flatten ++ line.takeWhile Text.isBlank))) := by
  have hnext : Text.byteLength before.flatten + Text.byteLength line =
      Text.byteLength (before ++ [line]).flatten := by simp
  unfold keyLineStep
  simp only
  split
  · -- a header line opens its table
    rename_i header hheader
    have hname : headerOf? line = some (headerName header) := headerOf?_eq_some_iff.2 ⟨header, hheader, rfl⟩
    left
    rw [openTable_append_singleton, hname, hnext]
    rfl
  · rename_i hnot
    have hplain : headerOf? line = none := by
      unfold headerOf?
      split
      · rename_i header hheader
        exact absurd hheader (hnot header)
      · rfl
    split
    · -- the key's line
      rename_i hkey
      simp only [Bool.and_eq_true, beq_iff_eq] at hkey
      obtain ⟨⟨htable, hstart⟩, heq⟩ := hkey
      right
      refine ⟨keyLine_of_openTable htable hstart heq, ?_⟩
      rw [hnext, Text.byteLength_trimStart, Text.byteLength_append]
    · -- any other line is passed
      left
      rw [openTable_append_singleton, hplain, hnext]
      rfl

/-- Once an offset is found the search keeps it. -/
theorem foldl_keyLineStep_found (wanted key : List Char) (lines : List (List Char)) (t : List Char)
    (o x : Nat) : lines.foldl (keyLineStep wanted key) (t, o, some x) = (t, o, some x) := by
  induction lines with
  | nil => rfl
  | cons line lines ih => exact ih

/-- An offset the search finds is that of a line that sets the key in the
wanted table, after the line's blanks. -/
theorem foldl_keyLineStep_some (wanted key : List Char) :
    ∀ (lines before : List (List Char)) {off : Nat},
      (lines.foldl (keyLineStep wanted key) (openTable before, Text.byteLength before.flatten, none)).2.2 =
        some off →
      ∃ b line after, lines = b ++ line :: after ∧ KeyLine wanted key (before ++ b) line ∧
        off = Text.byteLength ((before ++ b).flatten ++ line.takeWhile Text.isBlank) := by
  intro lines
  induction lines with
  | nil => intro before off h; cases h
  | cons line lines ih =>
    intro before off h
    rw [List.foldl_cons] at h
    rcases keyLineStep_cases wanted key before line with hpass | ⟨hkey, hfound⟩
    · -- the line is passed, and the search goes on below it
      rw [hpass] at h
      obtain ⟨b, l, after, rfl, hl, rfl⟩ := ih (before ++ [line]) h
      exact ⟨line :: b, l, after, rfl, by simpa using hl, by simp⟩
    · -- the line sets the key, and the search ends with it
      rw [hfound, foldl_keyLineStep_found] at h
      cases h
      exact ⟨[], line, lines, rfl, by simpa using hkey, by simp⟩

/-- An offset the search finds starts the key on its line. -/
theorem keyStart_of_keyOffset {content wanted key : List Char} {off : Nat}
    (h : keyOffset content wanted key = some off) : KeyStart wanted key content off := by
  obtain ⟨before, line, after, hsplit, hline, hoff⟩ := foldl_keyLineStep_some wanted key _ [] h
  exact ⟨before, line, after, hsplit, by simpa using hline, by simpa using hoff⟩

/-- A key's span starts the key on its line. -/
theorem keyStart_of_keySpan {table key : String} {content : List Char} {span : Span}
    (h : keySpan table key content = some span) : KeyStart table.toList key.toList content span.offset := by
  obtain ⟨off, hoff, rfl⟩ := Option.map_eq_some_iff.1 h
  exact keyStart_of_keyOffset hoff

/-! ## The statement of a key -/

/-- `stmt` is the statement at the start of `stmt ++ more`: no line feed
followed by `[` stands in it, and `more` is empty or starts with one. -/
structure Statement (stmt more : List Char) : Prop where
  inside : ¬ ['\n', '['] <:+: stmt
  ends : more = [] ∨ ['\n', '['] <+: more

theorem statementLength_go (cs : List Char) (acc : Nat) :
    ∃ stmt more, cs = stmt ++ more ∧ Statement stmt more ∧
      statementLength.go cs acc = acc + Text.byteLength stmt := by
  fun_induction statementLength.go cs acc with
  | case1 acc => exact ⟨[], [], rfl, ⟨by simp, .inl rfl⟩, by simp⟩
  | case2 acc tail => exact ⟨[], '\n' :: '[' :: tail, rfl, ⟨by simp, .inr (by simp)⟩, by simp⟩
  | case3 acc c rest hgoes ih =>
    obtain ⟨stmt, more, rfl, hstmt, hlen⟩ := ih
    refine ⟨c :: stmt, more, rfl, ⟨?_, hstmt.ends⟩, by rw [hlen, Text.byteLength_cons]; omega⟩
    rw [List.infix_cons_iff]
    rintro (hpre | hinf)
    · -- a break at the first character would have ended the statement before it
      obtain ⟨hc, t, ht⟩ := List.cons_prefix_cons.1 hpre
      exact hgoes (t ++ more) hc.symm (by rw [← ht]; rfl)
    · exact hstmt.inside hinf

theorem takeBytes_byteLength_append (a b : List Char) : Text.takeBytes (Text.byteLength a) (a ++ b) = a := by
  induction a with
  | nil =>
    cases b with
    | nil => rfl
    | cons c b => simp [Text.takeBytes, Char.utf8Size_pos c]
  | cons c a ih =>
    simp only [List.cons_append, Text.takeBytes, Text.byteLength_cons]
    rw [if_neg (by omega), Nat.add_sub_cancel_left, ih]

/-- What `statementLength` measures at the start of a text is its statement. -/
theorem statement_of_statementLength (cs : List Char) :
    ∃ stmt more, cs = stmt ++ more ∧ Statement stmt more ∧ Text.takeBytes (statementLength cs) cs = stmt := by
  obtain ⟨stmt, more, hcs, hstmt, hlen⟩ := statementLength_go cs 0
  refine ⟨stmt, more, hcs, hstmt, ?_⟩
  rw [statementLength, hlen, Nat.zero_add, hcs, takeBytes_byteLength_append]

/-! ## The `nth` occurrence -/

/-- The span stands over the `nth` of non-overlapping occurrences of
`pattern` in `text`, counting from zero, with `text` starting `start` bytes
in: `nth` occurrences stand before it. -/
def NthOccurrence (text pattern : List Char) (nth start : Nat) (span : Span) : Prop :=
  ∃ (gaps : List (List Char)) (g rest : List Char), gaps.length = nth ∧ text = (gaps.map (· ++ pattern)).flatten ++ g ++ pattern ++ rest ∧
    span = ⟨start + Text.byteLength ((gaps.map (· ++ pattern)).flatten ++ g), Text.byteLength pattern⟩

/-- The search for occurrences, having passed `gaps.length` of them and then
the text `g`, finds its `j`-th next one after `gaps.length + j` of them. -/
theorem occurrences_go_getElem? {text pattern : List Char} :
    ∀ (fuel : Nat) (cs : List Char) (gaps : List (List Char)) (g : List Char) (offset : Nat) {j o : Nat},
      text = (gaps.map (· ++ pattern)).flatten ++ g ++ cs →
      offset = Text.byteLength ((gaps.map (· ++ pattern)).flatten ++ g) →
      (occurrences.go pattern cs offset fuel)[j]? = some o →
      ∃ (gaps' : List (List Char)) (g' rest : List Char), gaps'.length = gaps.length + j ∧
        text = (gaps'.map (· ++ pattern)).flatten ++ g' ++ pattern ++ rest ∧
        o = Text.byteLength ((gaps'.map (· ++ pattern)).flatten ++ g') := by
  intro fuel
  induction fuel with
  | zero => intro cs gaps g offset j o _ _ h; simp [occurrences.go] at h
  | succ fuel ih =>
    intro cs gaps g offset j o htext hoffset h
    cases cs with
    | nil => simp [occurrences.go] at h
    | cons c rest =>
      simp only [occurrences.go] at h
      -- an occurrence is taken whole, or one character is passed over
      split at h
      · rename_i hstart
        simp only [Bool.and_eq_true] at hstart
        have hcs := Text.eq_append_of_startsWith hstart.2
        cases j with
        | zero =>
          simp only [List.getElem?_cons_zero, Option.some.injEq] at h
          subst h
          refine ⟨gaps, g, (c :: rest).drop pattern.length, by simp, ?_, hoffset⟩
          conv => lhs; rw [htext, hcs]
          simp
        | succ j =>
          simp only [List.getElem?_cons_succ] at h
          obtain ⟨gaps', g', rest', hlen, htext', ho⟩ := ih _ (gaps ++ [g]) [] _
            (by conv => lhs; rw [htext, hcs]
                simp)
            (by rw [hoffset]; simp [Nat.add_assoc]) h
          exact ⟨gaps', g', rest', by simp [hlen]; omega, htext', ho⟩
      · exact ih rest gaps (g ++ [c]) _ (by rw [htext]; simp) (by rw [hoffset]; simp [Nat.add_assoc]) h

theorem nthOccurrence_of_getElem? {text pattern : List Char} {nth o : Nat} (start : Nat)
    (h : (occurrences text pattern)[nth]? = some o) :
    NthOccurrence text pattern nth start ⟨start + o, Text.byteLength pattern⟩ := by
  have htext : text = (([] : List (List Char)).map (· ++ pattern)).flatten ++ [] ++ text := by simp
  obtain ⟨gaps, g, rest, hlen, htext, rfl⟩ := occurrences_go_getElem? _ text [] [] 0 htext (by simp) h
  exact ⟨gaps, g, rest, by simpa using hlen, htext, rfl⟩

/-- A value's span stands over the `nth` occurrence of the quoted value in
the statement of its key. -/
theorem valueSpan_eq_some_statement {table key : String} {quoted content : List Char} {nth : Nat}
    {span : Span} (h : valueSpan table key quoted nth content = some span) :
    ∃ kpre stmt more, content = kpre ++ stmt ++ more ∧
      KeyStart table.toList key.toList content (Text.byteLength kpre) ∧ Statement stmt more ∧
      NthOccurrence stmt quoted nth (Text.byteLength kpre) span := by
  unfold valueSpan at h
  split at h
  · cases h
  · rename_i start hstart
    have hkey := keyStart_of_keyOffset hstart
    obtain ⟨before, line, after, hsplit, -, rfl⟩ := id hkey
    -- the statement is read from the key on, after the lines above and the line's blanks
    have hline : line = line.takeWhile Text.isBlank ++ Text.trimStart line := List.takeWhile_append_dropWhile.symm
    have hcontent : content =
        (before.flatten ++ line.takeWhile Text.isBlank) ++ (Text.trimStart line ++ after.flatten) := by
      conv => lhs; rw [← Text.flatten_splitLinesInclusive content, hsplit, List.flatten_append,
        List.flatten_cons, hline]
      simp
    have hrest : Text.dropBytes (Text.byteLength (before.flatten ++ line.takeWhile Text.isBlank)) content =
        Text.trimStart line ++ after.flatten := by
      rw [hcontent, ← Nat.add_zero (Text.byteLength (before.flatten ++ line.takeWhile Text.isBlank)),
        Text.dropBytes_byteLength_append, Text.dropBytes_zero]
    obtain ⟨stmt, more, hkrest, hstmt, htake⟩ := statement_of_statementLength (Text.trimStart line ++ after.flatten)
    simp only [hrest, htake] at h
    obtain ⟨o, ho, rfl⟩ := Option.map_eq_some_iff.1 h
    exact ⟨_, stmt, more, by rw [hcontent, hkrest]; simp, hkey, hstmt, nthOccurrence_of_getElem? _ ho⟩

/-! ## The places the lookups find -/

/-- Every place the lookups find is in the file of highest precedence, among
those admitted, whose text has it. A key's span stands over the key, at the
start of a line after its blanks, on a line that goes on with `=` below the
nearest header naming the table. A value's span stands over the quoted value
in the statement that starts at its key, at the `nth` of non-overlapping
occurrences there. -/
theorem located_spans_are_sound (s : SourceSet) :
    (∀ (file : Option String) (table key : String) (span : Span) (name : String),
      s.locateKey file table key = some (span, name) →
      ∃ pre content post, s.files = pre ++ (name, content) :: post ∧ file.all (· == name) = true ∧
        Covers content.toList span key.toList ∧ KeyStart table.toList key.toList content.toList span.offset ∧
        ∀ p ∈ post, file.all (· == p.1) = true → keySpan table key p.2.toList = none) ∧
    (∀ (table key value : String) (nth : Nat) (span : Span) (name : String),
      s.locateValue table key value nth = some (span, name) →
      ∃ pre content post, s.files = pre ++ (name, content) :: post ∧
        (∃ kpre stmt more, content.toList = kpre ++ stmt ++ more ∧
          KeyStart table.toList key.toList content.toList (Text.byteLength kpre) ∧ Statement stmt more ∧
          NthOccurrence stmt (('"' :: value.toList) ++ ['"']) nth (Text.byteLength kpre) span) ∧
        ∀ p ∈ post, valueSpan table key (('"' :: value.toList) ++ ['"']) nth p.2.toList = none) := by
  constructor
  · intro file table key span name h
    obtain ⟨pre, content, post, hfiles, hfile, hspan, hpost⟩ := locate_eq_some_iff.1 h
    exact ⟨pre, content, post, hfiles, hfile, keySpan_eq_some hspan, keyStart_of_keySpan hspan, hpost⟩
  · -- every file is admitted when looking up a value
    intro table key value nth span name h
    obtain ⟨pre, content, post, hfiles, -, hspan, hpost⟩ := locate_eq_some_iff.1 h
    exact ⟨pre, content, post, hfiles, valueSpan_eq_some_statement hspan, fun p hp => hpost p hp rfl⟩

/-- Two files list sources; the later one, which also sets an indented log
level under a padded header, answers both lookups, and its second `"x"` is
told apart from its first. -/
theorem later_file_answers_second_listing :
    let s : SourceSet := ⟨[("a.toml", "[plugins]\nsources = [\"x\"]\n"),
      ("b.toml", "  [ logging ]\n level = \"warn\"\n[plugins]\nsources = [\"x\", \"y\", \"x\"]\n")]⟩
    s.locateKey none "logging" "level" = some (⟨15, 5⟩, "b.toml") ∧
    (∃ pre content post, s.files = pre ++ ("b.toml", content) :: post ∧
      (none : Option String).all (· == "b.toml") = true ∧
      Covers content.toList ⟨15, 5⟩ "level".toList ∧ KeyStart "logging".toList "level".toList content.toList 15 ∧
      ∀ p ∈ post, (none : Option String).all (· == p.1) = true → keySpan "logging" "level" p.2.toList = none) ∧
    s.locateValue "plugins" "sources" "x" 1 = some (⟨61, 3⟩, "b.toml") ∧
    (∃ pre content post, s.files = pre ++ ("b.toml", content) :: post ∧
      (∃ kpre stmt more, content.toList = kpre ++ stmt ++ more ∧
        KeyStart "plugins".toList "sources".toList content.toList (Text.byteLength kpre) ∧
        Statement stmt more ∧
        NthOccurrence stmt (('"' :: "x".toList) ++ ['"']) 1 (Text.byteLength kpre) ⟨61, 3⟩) ∧
      ∀ p ∈ post, valueSpan "plugins" "sources" (('"' :: "x".toList) ++ ['"']) 1 p.2.toList = none) := by
  intro s
  have hkey : s.locateKey none "logging" "level" = some (⟨15, 5⟩, "b.toml") := by decide +kernel
  have hvalue : s.locateValue "plugins" "sources" "x" 1 = some (⟨61, 3⟩, "b.toml") := by decide +kernel
  exact ⟨hkey, (located_spans_are_sound s).1 _ _ _ _ _ hkey, hvalue,
    (located_spans_are_sound s).2 _ _ _ _ _ _ hvalue⟩

end SourceSet

end AssetBroker
