/-
  `UpdateTomlConfig` (`nhp/utils/utils.go`): a key of a TOML file is given a new value by replacing what the
  expression `(?m)^\s*KEY\s*=\s*".+"\s*$` matches.

  THE SPECIFICATION.  Where no match cuts a value of several lines, each match is one definition with the empty
  lines around it, and what is written is a file again, with another value in the definitions that were matched
  (`updated_file`).

  THE CRUX.  An expression knows nothing of lines: `\s*` goes over line breaks at either end, `.+` takes as much
  of the line as it can and gives back.  So a match is found piece by piece, each piece for any text that follows
  (`rests_value`, `rests_sameKey`), and it begins at the blank lines before a definition (`find_trim`) and ends
  behind those after it (`find_ending`).

  1. Whether a definition is matched is seen in its first line: its key is the one, and the line begins and ends
     with a quotation mark (`Definition.isTaken`).
  2. A match in a line that has none of its own is the next one's (`find_line`), so a file is replaced line by line
     (`newContent_line`, `newContent_taken`).
  3. The induction is on the file; what is behind a match is a file as well (`File.behind`).
-/
import OpenNHP.Agent.TomlFile
import OpenNHP.Lib.Regexp
import Mathlib.Data.List.DropRight

namespace OpenNHP.Agent.TomlFile

open BigEndian OpenNHP.KGC.ConfigFile Regexp

/-! ## The expression -/

/-- `\s*=\s*".+"\s*$`; the dot is any byte but a line feed, and a quotation mark is not part of another rune. -/
def valuePattern : List Item :=
  [.many isSpace, .one (· == 61), .many isSpace, .one (· == 34), .one (· != 10), .many (· != 10), .one (· == 34),
    .many isSpace, .lineEnd]

/-- `(?m)^\s*KEY\s*=\s*".+"\s*$`; a bare key is an expression that stands for itself. -/
def pattern (key : BareKey) : List Item := .many isSpace :: (literal key.name ++ valuePattern)

/-- A text of the characters of Base64. -/
structure Base64Text where
  text : Bytes
  isBase64 : ∀ c ∈ text, c ∈ Base64.padChar :: Base64.alphabet

/-- `EncodeToString` -/
def Base64Text.encode (bs : Bytes) : Base64Text where
  text := Base64.encodeToString bs
  isBase64 _ hc := Base64.mem_encodeToString hc

/-- The line that is put in a match's place: neither the key nor the value has a `$`, which would be expanded. -/
def newDefinition (key : BareKey) (value : Base64Text) : Bytes := newLine key.name value.text

/-- `ReplaceAllString` -/
def newContent (key : BareKey) (value : Base64Text) (content : Bytes) : Bytes :=
  replaceAll (pattern key) (newDefinition key value) content

/-! ## Definitions that are matched -/

/-- `".+"\s*` -/
def isQuoted (line : Bytes) : Bool :=
  let kept := line.rdropWhile isSpace
  kept.head? == some 34 && kept.getLast? == some 34 && decide (3 ≤ kept.length)

variable {α : Type} {G : Grammar α}

/-- The definition is of the key, as a bare name, and from the value to the end of the line is a quoted text. -/
def Definition.isTaken (d : Definition G) (key : BareKey) : Bool :=
  d.key == key.name && !d.text.contains 10 && isQuoted (d.text ++ d.tail)

/-- No match starts at a line of a definition whose value goes over several lines. -/
def Definition.Uncut (d : Definition G) (key : BareKey) (after : Bytes) : Prop :=
  10 ∈ d.text → ∀ a b, d.line = a ++ b → b ≠ [] → startsLine true a = true → find (pattern key) (b ++ after) = none

/-- A match in the definition does not end within its value. -/
def Expression.Uncut : Expression G → BareKey → Bytes → Prop
  | .definition d, key, after => d.Uncut key after
  | _, _, _ => True

/-- No match cuts a value. -/
def File.Uncut (key : BareKey) : File G → Prop
  | .last e => e.Uncut key []
  | .line e crlf rest => e.Uncut key (carriageReturn crlf ++ 10 :: rest.text) ∧ rest.Uncut key

/-- The value after the update. -/
def Definition.valueAfter (d : Definition G) (key : BareKey) (value : Base64Text) : Value α :=
  if d.isTaken key then .str value.text else d.value

/-! ## Characters -/

/-- Blanks are spaces of the expression, -/
theorem isSpace_of_isBlank {c : UInt8} (h : isBlank c = true) : isSpace c = true := by
  rw [isBlank, Bool.or_eq_true, beq_iff_eq, beq_iff_eq] at h
  rcases h with rfl | rfl
  · rfl
  · rfl

/-- and no line breaks; -/
theorem not_lineBreak_of_isBlank {c : UInt8} (h : isBlank c = true) : c ≠ lineBreak := by
  rintro rfl
  cases h

/-- the letters of a key are neither. -/
theorem not_isSpace_of_isBareKey {c : UInt8} (h : isBareKey c = true) : isSpace c = false := by
  cases hspace : isSpace c with
  | false => rfl
  | true =>
    have hcases : c = 32 ∨ c = 9 ∨ c = 10 ∨ c = 12 ∨ c = 13 := by
      simp only [isSpace, Bool.or_eq_true, Bool.and_eq_true, beq_iff_eq, decide_eq_true_eq, UInt8.le_iff_toNat_le,
        ← UInt8.toNat_inj, UInt8.reduceToNat] at hspace ⊢
      omega
    rcases hcases with rfl | rfl | rfl | rfl | rfl <;> cases h

/-- Blanks are spaces, and on one line. -/
theorem blank_spaces {text : Bytes} (h : text.all isBlank = true) :
    ∀ c ∈ text, isSpace c = true ∧ c ≠ lineBreak := by
  intro c hc
  have hblank := List.all_eq_true.mp h c hc
  exact ⟨isSpace_of_isBlank hblank, not_lineBreak_of_isBlank hblank⟩

/-- A line that begins with a quotation mark and ends with another one, but for spaces. -/
theorem isQuoted_iff {line : Bytes} : isQuoted line = true ↔
    ∃ m s, m ≠ [] ∧ line = 34 :: (m ++ 34 :: s) ∧ ∀ c ∈ s, isSpace c = true := by
  rw [isQuoted]
  constructor
  · intro h
    rw [Bool.and_eq_true, Bool.and_eq_true, beq_iff_eq, beq_iff_eq, decide_eq_true_eq] at h
    obtain ⟨⟨hhead, hlast⟩, hlength⟩ := h
    obtain ⟨u, hu⟩ := List.head?_eq_some_iff.mp hhead
    rw [hu] at hlast hlength
    cases u using List.reverseRecOn with
    | nil => exact absurd hlength (by decide)
    | append_singleton m c =>
      obtain rfl : c = 34 := by
        rw [← List.cons_append, List.getLast?_concat] at hlast
        exact Option.some.inj hlast
      refine ⟨m, line.rtakeWhile isSpace, ?_, ?_, ?_⟩
      · rintro rfl
        exact absurd hlength (by decide)
      · have happend : line.rdropWhile isSpace ++ line.rtakeWhile isSpace = line :=
          List.rdropWhile_append_rtakeWhile
        rw [hu, List.cons_append, List.append_assoc, List.singleton_append] at happend
        exact happend.symm
      · intro c hc
        exact List.mem_rtakeWhile_imp hc
  · rintro ⟨m, s, hm, rfl, hs⟩
    have hkept : (34 :: (m ++ 34 :: s)).rdropWhile isSpace = 34 :: (m ++ [34]) := by
      induction s using List.reverseRecOn with
      | nil => exact List.rdropWhile_concat_neg isSpace (34 :: m) 34 (by decide)
      | append_singleton s c ih =>
        have hassoc : 34 :: (m ++ 34 :: (s ++ [c])) = (34 :: (m ++ 34 :: s)) ++ [c] := by
          simp only [List.cons_append, List.append_assoc]
        rw [hassoc, List.rdropWhile_concat_pos _ _ _ (hs c (List.mem_append_right _ (List.mem_singleton_self c)))]
        exact ih fun b hb => hs b (List.mem_append_left _ hb)
    rw [hkept, ← List.cons_append, List.getLast?_concat, Bool.and_eq_true, Bool.and_eq_true, decide_eq_true_eq,
      List.length_append, List.length_cons, List.length_singleton]
    have hpos := List.length_pos_iff.mpr hm
    exact ⟨⟨rfl, rfl⟩, by omega⟩

/-! ## Matches -/

section Matches

variable {key : BareKey} {t : Bytes}

/-- The end of a match: white space up to the end of a line. -/
def ending : List Item := [.many isSpace, .lineEnd]

/-- `.+"\s*$`, behind the first quotation mark. -/
def quotePattern : List Item := [.one (· != 10), .many (· != 10), .one (· == 34), .many isSpace, .lineEnd]

/-- What is no space is not taken for one. -/
theorem isSpace_disjoint {b : UInt8} (hb : isSpace b = false) : ∀ c, isSpace c = true → (c == b) = false := by
  intro c hc
  rw [beq_eq_false_iff_ne]
  rintro rfl
  rw [hc] at hb
  cases hb

/-- Spaces go, and the rest stays. -/
theorem dropWhile_space {space : Bytes} (h : ∀ c ∈ space, isSpace c = true) {c : UInt8} (hc : isSpace c = false)
    (t : Bytes) : (space ++ c :: t).dropWhile isSpace = c :: t := by
  rw [List.dropWhile_append_of_pos h, List.dropWhile_cons_of_neg (by rw [hc]; exact Bool.false_ne_true)]

/-- A key starts behind the white space. -/
theorem rests_pattern (key : BareKey) (t : Bytes) : rests (pattern key) t =
    if key.name <+: t.dropWhile isSpace then rests valuePattern ((t.dropWhile isSpace).drop key.name.length)
    else [] := by
  obtain ⟨c, name, hname⟩ := List.exists_cons_of_ne_nil key.nonempty
  have hbare : isBareKey c = true := key.bare c (hname ▸ List.mem_cons_self)
  have hliteral : literal key.name ++ valuePattern = .one (· == c) :: (literal name ++ valuePattern) := by
    rw [hname]
    rfl
  rw [pattern, hliteral, rests_many_one (isSpace_disjoint (not_isSpace_of_isBareKey hbare)), ← hliteral,
    rests_literal]

/-- White space in front of a match is part of it. -/
theorem find_space {space : Bytes} (h : ∀ c ∈ space, isSpace c = true) :
    find (pattern key) (space ++ t) = find (pattern key) t := by
  rw [find, find, rests_pattern, rests_pattern, List.dropWhile_append_of_pos h]

/-- A text of white space does not match. -/
theorem find_spaces (h : ∀ c ∈ t, isSpace c = true) : find (pattern key) t = none := by
  rw [find, rests_pattern, List.dropWhile_eq_nil_iff.mpr h, if_neg]
  · rfl
  · exact fun hinitial => key.nonempty (List.prefix_nil.mp hinitial)

/-- What starts with another character than a bare key does not match. -/
theorem find_other {space : Bytes} (h : ∀ c ∈ space, isSpace c = true) {c : UInt8} (hc : isSpace c = false)
    (hbare : isBareKey c = false) : find (pattern key) (space ++ c :: t) = none := by
  obtain ⟨b, name, hname⟩ := List.exists_cons_of_ne_nil key.nonempty
  rw [find, rests_pattern, dropWhile_space h hc, if_neg]
  · rfl
  · intro hinitial
    rw [hname] at hinitial
    have hb := key.bare b (hname ▸ List.mem_cons_self)
    rw [(List.cons_prefix_cons.mp hinitial).1, hbare] at hb
    cases hb

/-- Behind the key there is an equals sign, or no match. -/
theorem rests_value_other {space : Bytes} (h : ∀ c ∈ space, isSpace c = true) {c : UInt8} (hc : isSpace c = false)
    (hne : c ≠ 61) : rests valuePattern (space ++ c :: t) = [] := by
  rw [valuePattern, rests_many_one (isSpace_disjoint (by decide)), dropWhile_space h hc, rests, if_neg]
  rwa [beq_iff_eq]

/-- Behind the equals sign there is a quotation mark, or no match. -/
theorem rests_value {gap space : Bytes} (hgap : ∀ c ∈ gap, isSpace c = true)
    (hspace : ∀ c ∈ space, isSpace c = true) {c : UInt8} (hc : isSpace c = false) :
    rests valuePattern (gap ++ 61 :: (space ++ c :: t)) = if c = 34 then rests quotePattern t else [] := by
  rw [valuePattern, rests_many_one (isSpace_disjoint (by decide)), dropWhile_space hgap (by decide), rests,
    if_pos (beq_self_eq_true _), rests_many_one (isSpace_disjoint (by decide)), dropWhile_space hspace hc, rests]
  exact if_congr beq_iff_eq rfl rfl

/-- The end of a match comes behind any white space. -/
theorem find_ending {s : Bytes} (hs : ∀ c ∈ s, isSpace c = true) (ht : atLineEnd t = true) :
    find (.one (· == 34) :: ending) (34 :: (s ++ t)) = find ending t := find_lineEnd_append hs ht

/-- The end of a line is a line break. -/
theorem not_mem_atLineEnd {b : UInt8} {a : Bytes} (ht : atLineEnd t = true) (hb : b ≠ 10)
    (happend : t = b :: a) : False := by
  rw [happend, atLineEnd, List.head?_cons, Option.all_some, beq_iff_eq] at ht
  exact hb ht

/-- A run that stays on its line stops on it. -/
theorem split_line {line run rest : Bytes} (ht : atLineEnd t = true) (hrun : ∀ c ∈ run, (c != 10) = true)
    (happend : line ++ t = run ++ rest) (hline : 10 ∉ line) : ∃ s, line = run ++ s ∧ rest = s ++ t := by
  rcases List.append_eq_append_iff.mp happend with ⟨u, rfl, rfl⟩ | ⟨u, rfl, rfl⟩
  · cases u with
    | nil => exact ⟨[], by rw [List.append_nil, List.append_nil], rfl⟩
    | cons b u =>
      have hb := hrun b (List.mem_append_right _ List.mem_cons_self)
      exact (not_mem_atLineEnd ht (bne_iff_ne.mp hb) rfl).elim
  · exact ⟨u, rfl, rfl⟩

/-- A quotation mark closes the text when only white space follows on the line. -/
theorem find_close {s : Bytes} (hline : 10 ∉ s) (ht : atLineEnd t = true) :
    find (.one (· == 34) :: ending) (s ++ t) = none ∨ ∃ space, s = 34 :: space ∧
      (∀ c ∈ space, isSpace c = true) ∧ find (.one (· == 34) :: ending) (s ++ t) = find ending t := by
  cases s with
  | nil =>
    cases t with
    | nil => exact Or.inl rfl
    | cons b t =>
      rw [atLineEnd, List.head?_cons, Option.all_some, beq_iff_eq] at ht
      rw [ht]
      exact Or.inl rfl
  | cons c s =>
    by_cases hc : c = 34
    · subst hc
      by_cases hs : ∀ c ∈ s, isSpace c = true
      · exact Or.inr ⟨s, rfl, hs, find_ending hs ht⟩
      · left
        -- the run of white space stops at another character of the line
        obtain ⟨b, rest, hdrop⟩ := List.exists_cons_of_ne_nil fun h => hs (List.dropWhile_eq_nil_iff.mp h)
        have hsplit : s.takeWhile isSpace ++ b :: rest = s := by
          rw [← hdrop, List.takeWhile_append_dropWhile]
        have hb : isSpace b = false := by
          have hne : s.dropWhile isSpace ≠ [] := by
            rw [hdrop]
            exact List.cons_ne_nil _ _
          have hnot := List.head_dropWhile_not isSpace hne
          simp only [hdrop, List.head_cons] at hnot
          exact hnot
        have hmem : ∀ c ∈ s.takeWhile isSpace ++ b :: rest, c ≠ lineBreak := by
          intro c hc hbreak
          rw [hsplit, hbreak] at hc
          exact hline (List.mem_cons_of_mem _ hc)
        rw [← hsplit, List.cons_append, List.append_assoc]
        refine find_lineEnd_none ?_ hb (hmem b (List.mem_append_right _ List.mem_cons_self))
        intro c hc
        exact ⟨List.mem_takeWhile_imp hc, hmem c (List.mem_append_left _ hc)⟩
    · left
      rw [List.cons_append, find, rests, if_neg (by rwa [beq_iff_eq])]
      rfl

/-- Behind the first quotation mark: the match ends where every way to match ends, if there is one. -/
theorem find_quote {line : Bytes} (hline : 10 ∉ line) (ht : atLineEnd t = true) :
    find quotePattern (line ++ t) = if isQuoted (34 :: line) then find ending t else none := by
  cases line with
  | nil =>
    have hnone : isQuoted [34] = false := by decide
    rw [hnone]
    cases t with
    | nil => rfl
    | cons b t =>
      rw [atLineEnd, List.head?_cons, Option.all_some, beq_iff_eq] at ht
      rw [ht]
      rfl
  | cons c line =>
    have hc : (c != 10) = true := by
      rw [bne_iff_ne]
      rintro rfl
      exact hline List.mem_cons_self
    have hrest : 10 ∉ line := fun h => hline (List.mem_cons_of_mem _ h)
    rw [quotePattern, find, List.cons_append, rests, if_pos hc, rests]
    split_ifs with hquoted
    · obtain ⟨rest, hfind⟩ := Option.isSome_iff_exists.mp (find_lineEnd_isSome (p := isSpace) ht)
      have hending : find ending t = some rest := hfind
      rw [hending]
      -- Every run up to a closing mark gives the same rest, so it does not matter which match is the first.
      refine head?_flatMap_eq ?_ ?_
      · intro u hu
        obtain ⟨run, happend, hrun⟩ := mem_runs.mp hu
        obtain ⟨s, rfl, rfl⟩ := split_line ht hrun happend hrest
        have hs : 10 ∉ s := fun h => hrest (List.mem_append_right _ h)
        rcases find_close hs ht with hnone | ⟨space, -, -, hclose⟩
        · exact Or.inl hnone
        · exact Or.inr (hclose.trans hending)
      · obtain ⟨m, s, hm, heq, hs⟩ := isQuoted_iff.mp hquoted
        obtain ⟨b, m, rfl⟩ := List.exists_cons_of_ne_nil hm
        obtain ⟨-, rfl⟩ := List.cons.inj (List.cons.inj heq).2
        refine ⟨34 :: (s ++ t), mem_runs.mpr ⟨m, List.append_assoc _ _ _, ?_⟩, ?_⟩
        · intro b hb
          rw [bne_iff_ne]
          rintro rfl
          exact hrest (List.mem_append_left _ hb)
        · exact (find_ending hs ht).trans hending
    · rw [List.head?_eq_none_iff, List.flatMap_eq_nil_iff]
      intro u hu
      obtain ⟨run, happend, hrun⟩ := mem_runs.mp hu
      obtain ⟨s, rfl, rfl⟩ := split_line ht hrun happend hrest
      have hs : 10 ∉ s := fun h => hrest (List.mem_append_right _ h)
      rcases find_close hs ht with hnone | ⟨space, rfl, hspace, -⟩
      · exact List.head?_eq_none_iff.mp hnone
      · exact absurd (isQuoted_iff.mpr ⟨c :: run, space, List.cons_ne_nil _ _, rfl, hspace⟩) hquoted

end Matches

/-! ## Matches at the definitions of a file -/

section Definitions

variable {t : Bytes}

/-- What stays begins with the first that is no space. -/
theorem dropWhile_eq_cons {p : UInt8 → Bool} {l rest : Bytes} {c : UInt8} (h : l.dropWhile p = c :: rest) :
    l = l.takeWhile p ++ c :: rest ∧ p c = false := by
  have hne : l.dropWhile p ≠ [] := by
    rw [h]
    exact List.cons_ne_nil _ _
  refine ⟨by rw [← h, List.takeWhile_append_dropWhile], ?_⟩
  have hnot := List.head_dropWhile_not p hne
  simp only [h, List.head_cons] at hnot
  exact hnot

/-- Blanks and a comment are on one line. -/
theorem isTail_line {tail : Bytes} (h : G.isTail tail = true) : 10 ∉ tail := by
  have hblank : 10 ∉ tail.takeWhile isBlank := by
    intro hmem
    have hten : isBlank 10 = true := List.mem_takeWhile_imp hmem
    cases hten
  rw [Grammar.isTail] at h
  cases hdrop : tail.dropWhile isBlank with
  | nil =>
    rw [List.dropWhile_eq_nil_iff] at hdrop
    intro hmem
    cases hdrop 10 hmem
  | cons c rest =>
    rw [hdrop, Bool.and_eq_true, beq_iff_eq] at h
    rw [(dropWhile_eq_cons hdrop).1, List.mem_append, List.mem_cons]
    rintro (hmem | hmem | hmem)
    · exact hblank hmem
    · rw [h.1] at hmem
      cases hmem
    · exact G.comment_line rest h.2 hmem

/-- Spaces behind it do not matter. -/
theorem isQuoted_append_space {line cr : Bytes} (h : ∀ c ∈ cr, isSpace c = true) :
    isQuoted (line ++ cr) = isQuoted line := by
  have hkept : (line ++ cr).rdropWhile isSpace = line.rdropWhile isSpace := by
    induction cr using List.reverseRecOn with
    | nil => rw [List.append_nil]
    | append_singleton cr c ih =>
      rw [← List.append_assoc, List.rdropWhile_concat_pos _ _ _ (h c (List.mem_append_right _
        (List.mem_singleton_self c)))]
      exact ih fun b hb => h b (List.mem_append_left _ hb)
  rw [isQuoted, isQuoted, hkept]

/-- What starts with another character is no quoted text. -/
theorem isQuoted_other {c : UInt8} {line : Bytes} (hc : c ≠ 34) : isQuoted (c :: line) = false := by
  rw [← Bool.not_eq_true, isQuoted_iff]
  rintro ⟨m, s, -, heq, -⟩
  exact hc (List.cons.inj heq).1

/-- The line from its key on. -/
theorem Definition.line_append (d : Definition G) (rest : Bytes) :
    d.line ++ rest = d.indent ++ (d.key ++ (d.gap ++ 61 :: (d.space ++ (d.text ++ (d.tail ++ rest))))) := by
  simp only [Definition.line, Definition.start, List.append_assoc, List.cons_append]

/-- The key is the one that is looked for: the match depends on the rest of the line. -/
theorem rests_sameKey (d : Definition G) {cr : Bytes} (hcr : ∀ c ∈ cr, isSpace c = true ∧ c ≠ 10)
    (ht : atLineEnd t = true) (htext : 10 ∉ d.text) :
    (rests valuePattern (d.gap ++ 61 :: (d.space ++ (d.text ++ (d.tail ++ (cr ++ t)))))).head? =
      if isQuoted (d.text ++ d.tail) then find ending t else none := by
  obtain ⟨c, hhead, hc⟩ := G.value_head _ _ d.text_value
  obtain ⟨text, htextc⟩ := List.head?_eq_some_iff.mp hhead
  have hgap := fun b hb => (blank_spaces d.gap_blank b hb).1
  have hspace := fun b hb => (blank_spaces d.space_blank b hb).1
  rw [htextc, List.cons_append, rests_value hgap hspace hc]
  by_cases hquote : c = 34
  · subst hquote
    have hline : 10 ∉ text ++ (d.tail ++ cr) := by
      rw [List.mem_append, List.mem_append]
      rintro (h | h | h)
      · exact htext (htextc ▸ List.mem_cons_of_mem _ h)
      · exact isTail_line d.tail_ends h
      · exact (hcr 10 h).2 rfl
    have hassoc : text ++ (d.tail ++ (cr ++ t)) = text ++ (d.tail ++ cr) ++ t := by
      simp only [List.append_assoc]
    have hkept : isQuoted (34 :: (text ++ d.tail) ++ cr) = isQuoted (34 :: (text ++ d.tail)) :=
      isQuoted_append_space fun b hb => (hcr b hb).1
    rw [List.cons_append, List.append_assoc] at hkept
    rw [if_pos rfl, hassoc]
    exact (find_quote hline ht).trans (by rw [hkept, List.cons_append])
  · rw [if_neg hquote, List.cons_append, isQuoted_other hquote]
    rfl

/-- With another key there is no match. -/
theorem rests_otherKey (d : Definition G) (key : BareKey) (hkey : d.key ≠ key.name) (rest : Bytes) :
    find (pattern key) (d.key ++ (d.gap ++ 61 :: rest)) = none := by
  obtain ⟨c, hhead, hc⟩ := G.key_head _ _ d.key_path
  obtain ⟨name, hname⟩ := List.head?_eq_some_iff.mp hhead
  have hdrop : (d.key ++ (d.gap ++ 61 :: rest)).dropWhile isSpace = d.key ++ (d.gap ++ 61 :: rest) := by
    rw [hname]
    exact List.dropWhile_cons_of_neg (by rw [hc]; exact Bool.false_ne_true)
  rw [find, rests_pattern, hdrop]
  split_ifs with hinitial
  · obtain ⟨after, happend⟩ := hinitial
    rw [← happend, List.drop_left, List.head?_eq_none_iff]
    rcases List.append_eq_append_iff.mp happend with ⟨u, hu, hafter⟩ | ⟨u, hu, hafter⟩
    · -- the key goes on behind the name
      rw [hafter]
      rcases G.key_dot key d.key u d.path d.key_path hu with rfl | ⟨b, hb, hbare⟩ | hdot
      · exact absurd (hu.trans (List.append_nil _)) hkey
      · obtain ⟨u, rfl⟩ := List.head?_eq_some_iff.mp hb
        show rests valuePattern ([] ++ b :: (u ++ (d.gap ++ 61 :: rest))) = []
        refine rests_value_other (fun b hb => absurd hb List.not_mem_nil) (not_isSpace_of_isBareKey hbare) ?_
        rintro rfl
        cases hbare
      · obtain ⟨u', hu'⟩ := List.head?_eq_some_iff.mp hdot
        rw [(dropWhile_eq_cons hu').1, List.append_assoc, List.cons_append]
        refine rests_value_other ?_ (by decide) (by decide)
        intro b hb
        exact isSpace_of_isBlank (List.mem_takeWhile_imp hb)
    · -- the name would go on behind the key
      cases u with
      | nil => exact absurd (hu.trans (List.append_nil _)).symm hkey
      | cons b u =>
        have hbare : isBareKey b = true := key.bare b (hu ▸ List.mem_append_right _ List.mem_cons_self)
        cases hgap : d.gap with
        | nil =>
          rw [hgap] at hafter
          obtain rfl := (List.cons.inj hafter).1
          cases hbare
        | cons b' gap =>
          rw [hgap] at hafter
          obtain rfl := (List.cons.inj hafter).1
          have hblank := (blank_spaces d.gap_blank b' (hgap ▸ List.mem_cons_self)).1
          rw [not_isSpace_of_isBareKey hbare] at hblank
          cases hblank
  · rfl

/-- Where a value is on one line: the match at a definition, as what it leaves. -/
theorem find_line (d : Definition G) (key : BareKey) {cr : Bytes} (hcr : ∀ c ∈ cr, isSpace c = true ∧ c ≠ 10)
    (ht : atLineEnd t = true) (htext : 10 ∉ d.text) : find (pattern key) (d.line ++ (cr ++ t)) =
      if d.isTaken key then find ending t else none := by
  rw [Definition.line_append, find_space fun b hb => (blank_spaces d.indent_blank b hb).1]
  have hcontains : d.text.contains 10 = false := by
    rw [← Bool.not_eq_true, List.contains_iff_mem]
    exact htext
  by_cases hkey : d.key = key.name
  · have hhead := G.key_head _ _ (G.key_bare key)
    obtain ⟨c, hhead, hc⟩ := hhead
    obtain ⟨name, hname⟩ := List.head?_eq_some_iff.mp hhead
    have hdrop : ∀ rest, (key.name ++ rest).dropWhile isSpace = key.name ++ rest := by
      intro rest
      rw [hname]
      exact List.dropWhile_cons_of_neg (by rw [hc]; exact Bool.false_ne_true)
    rw [find, rests_pattern, hkey, hdrop, if_pos (List.prefix_append _ _), List.drop_left,
      rests_sameKey d hcr ht htext, Definition.isTaken, hkey, beq_self_eq_true, hcontains]
    rfl
  · rw [rests_otherKey d key hkey, Definition.isTaken, beq_eq_false_iff_ne.mpr hkey]
    rfl

end Definitions

/-! ## Matches in a file -/

/-- Nothing but blanks. -/
def Expression.isEmpty : Expression G → Bool
  | .note text _ => text.all isBlank
  | _ => false

/-- It is a definition that is matched. -/
def Expression.isTaken (key : BareKey) : Expression G → Bool
  | .definition d => d.isTaken key
  | _ => false

/-- The file from its first line on that is not empty. -/
def File.trim : File G → Option (File G)
  | .last e => if e.isEmpty then none else some (.last e)
  | .line e crlf rest => if e.isEmpty then rest.trim else some (.line e crlf rest)

/-- The first line of a file. -/
def File.first : File G → Expression G
  | .last e => e
  | .line e _ _ => e

section Files

variable {key : BareKey} {t : Bytes}

/-- A carriage return is a space within the line. -/
theorem carriageReturn_spaces (crlf : Bool) : ∀ c ∈ carriageReturn crlf, isSpace c = true ∧ c ≠ 10 := by
  cases crlf with
  | false => exact fun c hc => absurd hc List.not_mem_nil
  | true =>
    intro c hc
    obtain rfl := List.mem_singleton.mp hc
    exact ⟨rfl, by decide⟩

/-- An empty line has spaces and defines nothing. -/
theorem Expression.empty_spaces {e : Expression G} (h : e.isEmpty = true) :
    (∀ c ∈ e.text, isSpace c = true) ∧ e.parts = [] := by
  cases e with
  | note text ends => exact ⟨fun c hc => isSpace_of_isBlank (List.all_eq_true.mp h c hc), rfl⟩
  | header indent text tail h' _ _ _ => cases h
  | definition d => cases h

/-- An expression starts behind blanks. -/
theorem Expression.text_start {e : Expression G} (h : e.isEmpty = false) :
    ∃ space c rest, e.text = space ++ c :: rest ∧ (∀ b ∈ space, isSpace b = true ∧ b ≠ lineBreak) ∧
      isSpace c = false ∧ (isBareKey c = true → ∃ d, e = .definition d) := by
  cases e with
  | note text ends =>
    obtain ⟨c, rest, hdrop⟩ := List.exists_cons_of_ne_nil fun hnil => by
      rw [Expression.isEmpty, List.all_eq_true.mpr (List.dropWhile_eq_nil_iff.mp hnil)] at h
      cases h
    rw [Grammar.isTail, hdrop, Bool.and_eq_true, beq_iff_eq] at ends
    refine ⟨text.takeWhile isBlank, c, rest, (dropWhile_eq_cons hdrop).1, ?_, ?_, ?_⟩
    · intro b hb
      have hblank : isBlank b = true := List.mem_takeWhile_imp hb
      exact ⟨isSpace_of_isBlank hblank, not_lineBreak_of_isBlank hblank⟩
    · rw [ends.1]
      rfl
    · rw [ends.1]
      intro hbare
      cases hbare
  | header indent text tail h' hblank _ _ =>
    refine ⟨indent, 91, text ++ tail, ?_, blank_spaces hblank, rfl, ?_⟩
    · rw [Expression.text, List.append_assoc, List.cons_append]
    · intro hbare
      cases hbare
  | definition d =>
    obtain ⟨c, hhead, hc⟩ := G.key_head _ _ d.key_path
    obtain ⟨name, hname⟩ := List.head?_eq_some_iff.mp hhead
    refine ⟨d.indent, c, name ++ (d.gap ++ 61 :: (d.space ++ (d.text ++ d.tail))), ?_,
      blank_spaces d.indent_blank, hc, fun _ => ⟨d, rfl⟩⟩
    have hline := Definition.line_append d []
    rw [List.append_nil, List.append_nil, hname, List.cons_append] at hline
    exact hline

/-- The match at an expression, as what it leaves. -/
theorem find_expression {e : Expression G} {cr : Bytes} (hcr : ∀ c ∈ cr, isSpace c = true ∧ c ≠ 10)
    (ht : atLineEnd t = true) (hblank : e.isEmpty = false) (huncut : e.Uncut key (cr ++ t)) :
    find (pattern key) (e.text ++ (cr ++ t)) = if e.isTaken key then find ending t else none := by
  obtain ⟨space, c, rest, htext, hspace, hc, hbare⟩ := Expression.text_start hblank
  have hother : (∀ d, e ≠ .definition d) → find (pattern key) (e.text ++ (cr ++ t)) = none := by
    intro hnot
    rw [htext, List.append_assoc]
    refine find_other (fun b hb => (hspace b hb).1) hc ?_
    rw [← Bool.not_eq_true]
    intro h
    obtain ⟨d, hd⟩ := hbare h
    exact hnot d hd
  cases e with
  | note text ends =>
    apply hother
    rintro d ⟨⟩
  | header indent text tail h' _ _ _ =>
    apply hother
    rintro d ⟨⟩
  | definition d =>
    by_cases hline : 10 ∈ d.text
    · have htaken : d.isTaken key = false := by
        rw [Definition.isTaken, List.contains_iff_mem.mpr hline, Bool.not_true, Bool.and_false, Bool.false_and]
      rw [Expression.isTaken, htaken]
      refine huncut hline [] d.line rfl ?_ rfl
      intro hnil
      rw [Expression.text, hnil] at htext
      exact absurd htext (by simp)
    · exact find_line d key hcr ht hline

/-- An empty expression is part of the match behind it. -/
theorem find_blank {e : Expression G} (h : e.isEmpty = true) {cr : Bytes}
    (hcr : ∀ c ∈ cr, isSpace c = true ∧ c ≠ 10) :
    find (pattern key) (e.text ++ (cr ++ 10 :: t)) = find (pattern key) t := by
  have hspace : ∀ c ∈ e.text ++ (cr ++ [10]), isSpace c = true := by
    intro c hc
    rw [List.mem_append, List.mem_append, List.mem_singleton] at hc
    rcases hc with hc | hc | rfl
    · exact (Expression.empty_spaces h).1 c hc
    · exact (hcr c hc).1
    · rfl
  have hassoc : e.text ++ (cr ++ 10 :: t) = e.text ++ (cr ++ [10]) ++ t := by
    simp only [List.append_assoc, List.singleton_append]
  rw [hassoc, find_space hspace]

/-- A line, its end, and the rest. -/
theorem File.text_line (e : Expression G) (crlf : Bool) (rest : File G) :
    (File.line e crlf rest).text = e.text ++ (carriageReturn crlf ++ 10 :: rest.text) := List.append_assoc _ _ _

/-- Whether a file matches at its start is seen at its first line that is not empty. -/
theorem find_trim (key : BareKey) (f : File G) :
    find (pattern key) f.text = f.trim.elim none fun g => find (pattern key) g.text := by
  induction f with
  | last e =>
    rw [File.trim]
    split_ifs with h
    · exact find_spaces (Expression.empty_spaces h).1
    · rfl
  | line e crlf rest ih =>
    rw [File.trim]
    split_ifs with h
    · rw [← ih, File.text_line]
      exact find_blank h (carriageReturn_spaces crlf)
    · rfl

/-- The empty lines behind a match are part of it, but for the last line break. -/
theorem ending_trim (f : File G) :
    find ending (10 :: f.text) = some (f.trim.elim [] fun g => 10 :: g.text) := by
  have hstop : ∀ {e : Expression G}, e.isEmpty = false → ∀ y, find ending (10 :: (e.text ++ y)) =
      some (10 :: (e.text ++ y)) := by
    intro e h y
    obtain ⟨space, c, rest, htext, hspace, hc, -⟩ := Expression.text_start h
    have hbreak : c ≠ lineBreak := by
      rintro rfl
      cases hc
    have hnone : find ending (space ++ c :: (rest ++ y)) = none := find_lineEnd_none hspace hc hbreak
    have hcons : find ending (10 :: (e.text ++ y)) = (find ending (e.text ++ y)).or (some (10 :: (e.text ++ y))) :=
      find_lineEnd_cons 10 rfl
    rw [hcons, htext, List.append_assoc, List.cons_append, hnone, Option.none_or]
  induction f with
  | last e =>
    rw [File.trim]
    split_ifs with h
    · have hspace : ∀ c ∈ 10 :: e.text, isSpace c = true := by
        rw [List.forall_mem_cons]
        exact ⟨rfl, (Expression.empty_spaces h).1⟩
      have hend : find ending ((10 :: e.text) ++ []) = find ending [] := find_lineEnd_append hspace rfl
      rw [List.append_nil] at hend
      exact hend
    · have hlast := hstop (Bool.not_eq_true _ ▸ h) []
      rw [List.append_nil] at hlast
      exact hlast
  | line e crlf rest ih =>
    rw [File.trim, File.text_line]
    split_ifs with h
    · have hspace : ∀ c ∈ 10 :: (e.text ++ carriageReturn crlf), isSpace c = true := by
        rw [List.forall_mem_cons]
        refine ⟨rfl, fun c hc => ?_⟩
        rcases List.mem_append.mp hc with hc | hc
        · exact (Expression.empty_spaces h).1 c hc
        · exact (carriageReturn_spaces crlf c hc).1
      have hend : find ending (10 :: (e.text ++ carriageReturn crlf) ++ 10 :: rest.text) =
          find ending (10 :: rest.text) := find_lineEnd_append hspace rfl
      rw [← ih, ← hend, List.cons_append, List.append_assoc]
    · rw [hstop (Bool.not_eq_true _ ▸ h), Option.elim_some, File.text_line]

end Files

/-! ## What is kept -/

section Kept

variable {key : BareKey} {new t y : Bytes}

/-- Only the value of a definition goes over several lines. -/
theorem Expression.lineBreak_mem {e : Expression G} (h : 10 ∈ e.text) : ∃ d, e = .definition d ∧ 10 ∈ d.text := by
  cases e with
  | note text ends => exact absurd h (isTail_line ends)
  | header indent text tail h' hblank hheader ends =>
    rw [Expression.text, List.mem_append, List.mem_append, List.mem_cons] at h
    rcases h with (hmem | hmem | hmem) | hmem
    · exact absurd rfl (blank_spaces hblank 10 hmem).2
    · cases hmem
    · exact absurd hmem (G.header_line text h' hheader)
    · exact absurd hmem (isTail_line ends)
  | definition d =>
    refine ⟨d, rfl, ?_⟩
    rw [Expression.text, Definition.line, Definition.start, List.mem_append, List.mem_append, List.mem_append,
      List.mem_append, List.mem_cons, List.mem_append] at h
    rcases h with ((hmem | hmem) | hmem) | hmem
    · rcases hmem with hmem | hmem
      · exact absurd rfl (blank_spaces d.indent_blank 10 hmem).2
      · exact absurd hmem (G.key_line _ _ d.key_path)
    · exact absurd rfl (blank_spaces d.gap_blank 10 hmem).2
    · rcases hmem with hmem | hmem
      · cases hmem
      · exact absurd rfl (blank_spaces d.space_blank 10 hmem).2
    · rcases hmem with hmem | hmem
      · exact hmem
      · exact absurd hmem (isTail_line d.tail_ends)

/-- No line starts behind an expression. -/
theorem startsLine_expression {e : Expression G} (h : startsLine true e.text = true) : e.text = [] := by
  by_contra hne
  have hmem : 10 ∈ e.text := by
    by_contra hnot
    rw [startsLine_line hnot hne] at h
    cases h
  obtain ⟨d, rfl, -⟩ := Expression.lineBreak_mem hmem
  -- the last byte is of the tail, or of the value
  rw [Expression.text, Definition.line, startsLine_append] at h
  cases htail : d.tail using List.reverseRecOn with
  | nil =>
    obtain ⟨c, hlast, hc⟩ := G.value_last _ _ d.text_value
    obtain ⟨text, htext⟩ := List.getLast?_eq_some_iff.mp hlast
    rw [htail, List.append_nil, htext, startsLine_concat, beq_iff_eq] at h
    rw [h] at hc
    cases hc
  | append_singleton tail c =>
    rw [htail, ← List.append_assoc, startsLine_concat, beq_iff_eq] at h
    refine isTail_line d.tail_ends ?_
    rw [htail, h]
    exact List.mem_append_right _ (List.mem_singleton_self _)

/-- An expression without a match at its start is kept. -/
theorem replaceFrom_expression {e : Expression G} (huncut : e.Uncut key y)
    (h : find (pattern key) (e.text ++ y) = none) : replaceFrom (pattern key) new 0 true (e.text ++ y) =
      e.text ++ replaceFrom (pattern key) new 0 (startsLine true e.text) y := by
  by_cases hline : 10 ∈ e.text
  · obtain ⟨d, rfl, htext⟩ := Expression.lineBreak_mem hline
    exact replaceFrom_keep (huncut htext)
  · exact replaceFrom_piece hline fun _ => h

/-- A line without a match stays as it is, -/
theorem newContent_line {e : Expression G} {crlf : Bool} (huncut : e.Uncut key (carriageReturn crlf ++ 10 :: t))
    (h : find (pattern key) (e.text ++ (carriageReturn crlf ++ 10 :: t)) = none) :
    replaceAll (pattern key) new (e.text ++ (carriageReturn crlf ++ 10 :: t)) =
      e.text ++ (carriageReturn crlf ++ 10 :: replaceAll (pattern key) new t) := by
  rw [replaceAll, replaceFrom_expression huncut h]
  congr 1
  refine replaceFrom_line (fun hmem => (carriageReturn_spaces crlf 10 hmem).2 rfl) fun hstart => ?_
  rw [startsLine_expression hstart] at h
  exact h

/-- and so does the last one. -/
theorem newContent_last {e : Expression G} (huncut : e.Uncut key []) (h : find (pattern key) e.text = none) :
    replaceAll (pattern key) new e.text = e.text := by
  have hkept := @replaceFrom_expression α G key new [] e huncut (by rwa [List.append_nil])
  rw [List.append_nil] at hkept
  exact hkept.trans (List.append_nil _)

end Kept

/-! ## The updated file -/

section Updated

variable {key : BareKey} {value : Base64Text}

/-- Base64 has plain letters. -/
theorem isText_base64 (value : Base64Text) : IsText value.text := by
  have hall : ∀ c ∈ Base64.padChar :: Base64.alphabet, isText c = true := by decide +kernel
  exact fun c hc => hall c (value.isBase64 c hc)

/-- Nothing is blank, -/
theorem blank_nil : ([] : Bytes).all isBlank = true := rfl

/-- and so is a space. -/
theorem blank_space : [32].all isBlank = true := rfl

/-- A definition may end with its value. -/
theorem isTail_nil (G : Grammar α) : G.isTail [] = true := rfl

/-- `KEY = "value"` -/
def Definition.renew (d : Definition G) (value : Base64Text) : Definition G where
  indent := []
  key := d.key
  gap := [32]
  space := [32]
  text := 34 :: value.text ++ [34]
  tail := []
  path := d.path
  value := .str value.text
  indent_blank := blank_nil
  key_path := d.key_path
  gap_blank := blank_space
  space_blank := blank_space
  text_value := G.value_plain _ (isText_base64 value)
  tail_ends := isTail_nil G

/-- A definition that is matched has the key. -/
theorem Definition.key_of_isTaken {d : Definition G} (h : d.isTaken key = true) : d.key = key.name := by
  rw [Definition.isTaken, Bool.and_eq_true, Bool.and_eq_true, beq_iff_eq] at h
  exact h.1.1

/-- The new definition has the new line. -/
theorem Definition.renew_line {d : Definition G} (h : d.isTaken key = true) (value : Base64Text) :
    (d.renew value).line = newDefinition key value := by
  rw [newDefinition, ← Definition.key_of_isTaken h]
  simp only [Definition.line, Definition.start, Definition.renew, newLine, List.nil_append, List.append_assoc,
    List.cons_append, List.append_nil]

/-- It comes of a definition that is matched. -/
def Statement.isTaken (key : BareKey) : Statement (Definition G) → Bool
  | .define _ d => d.isTaken key
  | .header _ => false

/-- No two matched definitions are next to each other. -/
def Apart (key : BareKey) (parts : List (Statement (Definition G))) : Prop :=
  List.IsChain (fun s s' => ¬(s.isTaken key = true ∧ s'.isTaken key = true)) parts

/-- What was written is a file, with the new value in the definitions that were matched. -/
def Updated (key : BareKey) (value : Base64Text) (f : File G) : Prop :=
  ∃ f' : File G, f'.text = newContent key value f.text ∧
    f'.statements = f.parts.map (Statement.map fun d => d.valueAfter key value)

/-- Without its first empty lines a file defines the same, -/
theorem File.trim_parts {f g : File G} (h : f.trim = some g) : g.parts = f.parts ∧ g.first.isEmpty = false := by
  induction f with
  | last e =>
    rw [File.trim] at h
    split_ifs at h with hempty
    obtain rfl := Option.some.inj h
    exact ⟨rfl, Bool.not_eq_true _ ▸ hempty⟩
  | line e crlf rest ih =>
    rw [File.trim] at h
    split_ifs at h with hempty
    · obtain ⟨hparts, hfirst⟩ := ih h
      refine ⟨?_, hfirst⟩
      rw [hparts, File.parts, (Expression.empty_spaces hempty).2, List.nil_append]
    · obtain rfl := Option.some.inj h
      exact ⟨rfl, Bool.not_eq_true _ ▸ hempty⟩

/-- a file of empty lines defines nothing, -/
theorem File.trim_none {f : File G} (h : f.trim = none) : f.parts = [] := by
  induction f with
  | last e =>
    rw [File.trim] at h
    split_ifs at h with hempty
    exact (Expression.empty_spaces hempty).2
  | line e crlf rest ih =>
    rw [File.trim] at h
    split_ifs at h with hempty
    rw [File.parts, (Expression.empty_spaces hempty).2, ih h]
    rfl

/-- and nothing is cut that was not. -/
theorem File.trim_uncut {f g : File G} (huncut : f.Uncut key) (h : f.trim = some g) : g.Uncut key := by
  induction f with
  | last e =>
    rw [File.trim] at h
    split_ifs at h with hempty
    exact Option.some.inj h ▸ huncut
  | line e crlf rest ih =>
    rw [File.trim] at h
    split_ifs at h with hempty
    · exact ih huncut.2 h
    · exact Option.some.inj h ▸ huncut

/-- The file behind its first line, from the next one on that is not empty. -/
def File.behind : File G → Option (File G)
  | .last _ => none
  | .line _ _ rest => rest.trim

/-- What a match of the first line leaves. -/
def File.afterFirst (f : File G) : Bytes := f.behind.elim [] fun g => 10 :: g.text

/-- The match at a file's first line that is not empty. -/
theorem find_first {g : File G} (huncut : g.Uncut key) (hempty : g.first.isEmpty = false) :
    find (pattern key) g.text = if g.first.isTaken key then some g.afterFirst else none := by
  cases g with
  | last e =>
    have hfind := @find_expression α G key [] e [] (fun c hc => absurd hc List.not_mem_nil) rfl hempty huncut
    rw [List.append_nil, List.append_nil] at hfind
    exact hfind
  | line e crlf rest =>
    have hfind := find_expression (carriageReturn_spaces crlf) rfl hempty huncut.1
    rw [ending_trim] at hfind
    rw [File.text_line]
    exact hfind

/-- A definition that matches is the first statement. -/
theorem File.parts_of_isTaken {g : File G} (h : g.first.isTaken key = true) :
    ∃ d, d.isTaken key = true ∧ g.first = .definition d ∧ .define d.path d ∈ g.parts.head? := by
  cases hfirst : g.first with
  | note text ends =>
    rw [hfirst] at h
    cases h
  | header indent text tail h' _ _ _ =>
    rw [hfirst] at h
    cases h
  | definition d =>
    rw [hfirst] at h
    refine ⟨d, h, rfl, ?_⟩
    cases g with
    | last e =>
      rw [File.first] at hfirst
      rw [hfirst]
      rfl
    | line e crlf rest =>
      rw [File.first] at hfirst
      rw [hfirst]
      rfl

/-- Behind a definition that matches the next one does not. -/
theorem not_taken_behind {g h : File G} (hapart : Apart key g.parts) (htaken : g.first.isTaken key = true)
    (hbehind : g.behind = some h) : h.first.isTaken key = false := by
  rw [← Bool.not_eq_true]
  intro hnext
  cases g with
  | last e => cases hbehind
  | line e crlf rest =>
    obtain ⟨d, hd, hfirst, -⟩ := File.parts_of_isTaken htaken
    obtain rfl : e = .definition d := hfirst
    obtain ⟨d', hd', -, hhead⟩ := File.parts_of_isTaken hnext
    rw [(File.trim_parts hbehind).1] at hhead
    obtain ⟨parts, hparts⟩ := List.head?_eq_some_iff.mp hhead
    rw [Apart, File.parts, hparts] at hapart
    exact (List.isChain_cons_cons.mp hapart).1 ⟨hd, hd'⟩

/-- The file behind a match is not cut either, and does not begin with an empty line. -/
theorem behind_uncut {g h : File G} (huncut : g.Uncut key) (hbehind : g.behind = some h) :
    h.Uncut key ∧ h.first.isEmpty = false := by
  cases g with
  | last e => cases hbehind
  | line e crlf rest => exact ⟨File.trim_uncut huncut.2 hbehind, (File.trim_parts hbehind).2⟩

/-- A match leaves what is updated as it would be on its own. -/
theorem replaceFrom_afterFirst {g : File G} (huncut : g.Uncut key) (hapart : Apart key g.parts)
    (htaken : g.first.isTaken key = true) (start : Bool) :
    replaceFrom (pattern key) (newDefinition key value) 0 start g.afterFirst =
      g.behind.elim [] fun h => 10 :: newContent key value h.text := by
  rw [File.afterFirst]
  cases hbehind : g.behind with
  | none => rfl
  | some h =>
    obtain ⟨huncut', hempty⟩ := behind_uncut huncut hbehind
    have hnone : find (pattern key) h.text = none := by
      rw [find_first huncut' hempty, not_taken_behind hapart htaken hbehind]
      rfl
    have hspace : ∀ c ∈ [10], isSpace c = true := List.all_eq_true.mp rfl
    have hbreak : find (pattern key) ([10] ++ h.text) = none := (find_space hspace).trans hnone
    exact replaceFrom_line List.not_mem_nil fun _ => hbreak

/-- A match is never empty. -/
theorem minLength_pattern (key : BareKey) : 0 < minLength (pattern key) := by
  have hpattern : minLength (pattern key) = minLength (literal key.name) + minLength valuePattern :=
    minLength_append _ _
  rw [hpattern]
  exact Nat.lt_of_lt_of_le (by decide : 0 < minLength valuePattern) (Nat.le_add_left _ _)

/-- A text that matches as a file does is updated as the file is. -/
theorem newContent_taken {g : File G} {t : Bytes} (huncut : g.Uncut key) (hempty : g.first.isEmpty = false)
    (hapart : Apart key g.parts) (htaken : g.first.isTaken key = true)
    (hfind : find (pattern key) t = find (pattern key) g.text) : newContent key value t =
      newDefinition key value ++ g.behind.elim [] fun h => 10 :: newContent key value h.text := by
  rw [find_first huncut hempty, if_pos htaken] at hfind
  have hmatch : ∃ start, replaceAll (pattern key) (newDefinition key value) t = _ :=
    replaceAll_match hfind (minLength_pattern key)
  obtain ⟨start, hnew⟩ := hmatch
  rw [newContent, hnew, replaceFrom_afterFirst huncut hapart htaken]

/-- With the definition that matches goes what the rest is updated to. -/
theorem updated_taken {g : File G} (huncut : g.Uncut key) (hempty : g.first.isEmpty = false)
    (hapart : Apart key g.parts) (htaken : g.first.isTaken key = true)
    (hrest : ∀ h, g.behind = some h → Updated key value h) : Updated key value g := by
  obtain ⟨d, hd, hfirst, -⟩ := File.parts_of_isTaken htaken
  have hvalue : d.valueAfter key value = .str value.text := by rw [Definition.valueAfter, if_pos hd]
  have hnew : newContent key value g.text = _ := newContent_taken huncut hempty hapart htaken rfl
  rw [← Definition.renew_line hd value] at hnew
  cases hbehind : g.behind with
  | none =>
    have hparts : g.parts = [.define d.path d] := by
      cases g with
      | last e =>
        obtain rfl : e = .definition d := hfirst
        rfl
      | line e crlf rest =>
        obtain rfl : e = .definition d := hfirst
        rw [File.parts, File.trim_none hbehind]
        rfl
    rw [hbehind, Option.elim_none, List.append_nil] at hnew
    refine ⟨.last (.definition (d.renew value)), hnew.symm, ?_⟩
    rw [hparts, List.map_singleton, Statement.map, hvalue]
    rfl
  | some h =>
    obtain ⟨h', htext, hstatements⟩ := hrest h hbehind
    have hparts : g.parts = .define d.path d :: h.parts := by
      cases g with
      | last e => cases hbehind
      | line e crlf rest =>
        obtain rfl : e = .definition d := hfirst
        rw [(File.trim_parts hbehind).1]
        rfl
    rw [hbehind, Option.elim_some, ← htext] at hnew
    refine ⟨.line (.definition (d.renew value)) false h', ?_, ?_⟩
    · rw [hnew, File.text_line]
      rfl
    · rw [hparts, List.map_cons, Statement.map, hvalue, ← hstatements]
      rfl

/-- What an expression says is kept when it does not match. -/
theorem Expression.parts_kept {e : Expression G} (htaken : e.isTaken key = false) (value : Base64Text) :
    e.parts.map (Statement.map Definition.value) = e.parts.map (Statement.map fun d => d.valueAfter key value) := by
  cases e with
  | note text ends => rfl
  | header indent text tail h' _ _ _ => rfl
  | definition d =>
    have hd : d.isTaken key = false := htaken
    have hvalue : d.valueAfter key value = d.value := by
      rw [Definition.valueAfter, hd]
      rfl
    rw [Expression.parts, List.map_singleton, List.map_singleton, Statement.map, Statement.map, hvalue]

/-- A line that does not match is kept. -/
theorem updated_line {e : Expression G} {crlf : Bool} {rest : File G} (huncut : (File.line e crlf rest).Uncut key)
    (hnone : find (pattern key) (File.line e crlf rest).text = none) (htaken : e.isTaken key = false)
    (hrest : Updated key value rest) : Updated key value (.line e crlf rest) := by
  obtain ⟨rest', htext, hstatements⟩ := hrest
  refine ⟨.line e crlf rest', ?_, ?_⟩
  · rw [File.text_line] at hnone ⊢
    rw [newContent, File.text_line, newContent_line huncut.1 hnone, htext]
    rfl
  · rw [File.statements, File.parts, File.parts, List.map_append, List.map_append,
      Expression.parts_kept htaken value]
    exact congrArg _ hstatements

/-- A last line without a match. -/
theorem updated_last {e : Expression G} (huncut : e.Uncut key []) (hnone : find (pattern key) e.text = none)
    (htaken : e.isTaken key = false) : Updated key value (.last e) :=
  ⟨.last e, (newContent_last huncut hnone).symm, Expression.parts_kept htaken value⟩

/-- An empty line is not matched. -/
theorem Expression.not_taken_of_empty {e : Expression G} (h : e.isEmpty = true) : e.isTaken key = false := by
  cases e with
  | note text ends => rfl
  | header indent text tail h' _ _ _ => rfl
  | definition d => cases h

/-- The empty lines in front of a definition that matches go with the match. -/
theorem updated_trim {f g : File G} (huncut : f.Uncut key) (hapart : Apart key f.parts) (hg : f.trim = some g)
    (htaken : g.first.isTaken key = true) (hupdated : Updated key value g) : Updated key value f := by
  obtain ⟨hparts, hfirst⟩ := File.trim_parts hg
  have huncut' := File.trim_uncut huncut hg
  have hapart' : Apart key g.parts := hparts ▸ hapart
  have hfind : find (pattern key) f.text = find (pattern key) g.text := by rw [find_trim, hg, Option.elim_some]
  obtain ⟨g', htext, hstatements⟩ := hupdated
  refine ⟨g', ?_, hparts ▸ hstatements⟩
  rw [htext, newContent_taken huncut' hfirst hapart' htaken hfind,
    newContent_taken huncut' hfirst hapart' htaken rfl]

/-- By induction on the file, for it and for what is left of it without the empty lines that it starts with: a
    match takes those with it. -/
theorem updated_file (f : File G) (huncut : f.Uncut key) (hapart : Apart key f.parts) :
    Updated key value f ∧ ∀ g, f.trim = some g → Updated key value g := by
  induction f with
  | last e =>
    have hlast : Updated key value (.last e) := by
      cases hempty : e.isEmpty with
      | true =>
        exact updated_last huncut (find_spaces (Expression.empty_spaces hempty).1)
          (Expression.not_taken_of_empty hempty)
      | false =>
        have hfind := find_first (g := .last e) huncut hempty
        cases htaken : e.isTaken key with
        | true =>
          refine updated_taken huncut hempty hapart htaken fun h hbehind => ?_
          cases hbehind
        | false =>
          refine updated_last huncut (hfind.trans ?_) htaken
          rw [show (File.last e).first.isTaken key = false from htaken]
          rfl
    refine ⟨hlast, fun g htrim => ?_⟩
    rw [File.trim] at htrim
    split_ifs at htrim
    exact Option.some.inj htrim ▸ hlast
  | line e crlf rest ih =>
    obtain ⟨hrest, hbehind⟩ := ih huncut.2 (List.IsChain.right_of_append hapart)
    cases hempty : e.isEmpty with
    | true =>
      have htrim : (File.line e crlf rest).trim = rest.trim := by rw [File.trim, if_pos hempty]
      refine ⟨?_, fun g hg => hbehind g (htrim ▸ hg)⟩
      have hfind := find_trim key (File.line e crlf rest)
      cases hg : (File.line e crlf rest).trim with
      | none =>
        rw [hg] at hfind
        exact updated_line huncut hfind (Expression.not_taken_of_empty hempty) hrest
      | some g =>
        rw [hg, Option.elim_some] at hfind
        cases htaken : g.first.isTaken key with
        | true => exact updated_trim huncut hapart hg htaken (hbehind g (htrim ▸ hg))
        | false =>
          refine updated_line huncut (hfind.trans ?_) (Expression.not_taken_of_empty hempty) hrest
          rw [find_first (File.trim_uncut huncut hg) (File.trim_parts hg).2, htaken]
          rfl
    | false =>
      have hline : Updated key value (.line e crlf rest) := by
        cases htaken : e.isTaken key with
        | true => exact updated_taken huncut hempty hapart htaken hbehind
        | false =>
          refine updated_line huncut ((find_first huncut hempty).trans ?_) htaken hrest
          rw [show (File.line e crlf rest).first.isTaken key = false from htaken]
          rfl
      refine ⟨hline, fun g htrim => ?_⟩
      rw [File.trim, hempty] at htrim
      exact Option.some.inj htrim ▸ hline

end Updated

end OpenNHP.Agent.TomlFile
