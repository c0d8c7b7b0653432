/-
  The configuration file of the key generation centre (`endpoints/kgc/kgc.go`).

  THE PROGRAM.  `GenerateMasterKey` writes its keys into the file line by line: every line that starts with a
  key's name is replaced.  A TOML library reads the file back; what TOML says of a plain file (each line is blank,
  a comment, or a bare key with a string or a number) is `readEntries`.

  THE SPECIFICATION.  The keys that are written are read back.

  WHERE IT FAILS.  A line that starts with a name may be that of a longer key or no definition; there may be none,
  or several; and the library takes a field's value under its name in other letters as well.

  THE CRUX.  What a line defines depends on the line alone, so the new file defines what the lines of the old one
  do, each replaced or kept (`entries_saved`).  The rest is about names that occur once.

  ASSEMBLY.  `readEntries_saved` and `takesKeys_of_read` are the two directions: the keys are read back exactly
  when each of the two names starts one line and the rest of the file is in order (`TakesKeys`).
-/
import OpenNHP.Lib.Base64
import OpenNHP.Lib.Pieces
import OpenNHP.Lib.Tables
import OpenNHP.KGC.Curve
import Mathlib.Data.List.Nodup

namespace OpenNHP.KGC.ConfigFile

open BigEndian

/-! ## Rewriting -/

/-- The names of the keys, -/
def masterPrivateName : Bytes := "MasterPrivateKeyBase64".toUTF8.data.toList
/-- of both, -/
def masterPublicName : Bytes := "MasterPublicKeyBase64".toUTF8.data.toList
/-- and of the scheme, which is read with them. -/
def schemeName : Bytes := "DefaultCipherScheme".toUTF8.data.toList

/-- `key = "value"` -/
def newLine (key value : Bytes) : Bytes := key ++ [32, 61, 32, 34] ++ value ++ [34]

/-- A line that starts with the name is replaced. -/
def updateLine (key value line : Bytes) : Bytes := if key <+: line then newLine key value else line

/-- `UpdateValueWithKey`. -/
def updateValueWithKey (content key value : Bytes) : Bytes :=
  List.intercalate [10] ((content.splitOn 10).map (updateLine key value))

/-! ## Plain files -/

/-- What the library fills in. -/
structure Config where
  masterPrivateKeyBase64 : Bytes
  masterPublicKeyBase64 : Bytes
  defaultCipherScheme : Int
  deriving DecidableEq

/-- The values of a plain file. -/
inductive Value
  | str (text : Bytes)
  | int (n : Int)
  deriving DecidableEq

/-- The letters of a plain file: digits, -/
def isDigit (c : UInt8) : Bool := 48 ≤ c && c ≤ 57

/-- capitals, -/
def isUpper (c : UInt8) : Bool := 65 ≤ c && c ≤ 90

/-- what a key may have without quotes, -/
def isBareKey (c : UInt8) : Bool := isDigit c || isUpper c || (97 ≤ c && c ≤ 122) || c == 95 || c == 45

/-- and blanks. -/
def isBlank (c : UInt8) : Bool := c == 32 || c == 9

/-- A character that stands for itself in a string. -/
def isText (c : UInt8) : Bool := 32 ≤ c && c < 127 && c != 34 && c != 92

/-- Names are compared in small letters, if there is none in the right ones. -/
def toLower (text : Bytes) : Bytes := text.map fun c => if isUpper c then c + 32 else c

/-- A number in decimal digits, without leading zeros, that fits a machine word. -/
def decimal (digits : Bytes) : Option Int :=
  if digits ≠ [] ∧ digits.length ≤ 18 ∧ (digits.head? = some 48 → digits = [48]) then
    some (digits.foldl (fun n c => n * 10 + (c.toNat - 48)) 0)
  else none

/-- A string without escapes or a number, up to the end of the line. -/
def plainValue (text : Bytes) : Option Value :=
  if text.head? = some 34 then
    match text.tail.dropWhile isText with
    | [] => none
    | quote :: rest =>
      if quote = 34 ∧ rest.all isBlank then some (.str (text.tail.takeWhile isText)) else none
  else if (text.dropWhile isDigit).all isBlank then (decimal (text.takeWhile isDigit)).map .int
  else none

/-- The library also takes a name in other letter cases; in a plain file nothing is written so. -/
def exactCase (key : Bytes) : Bool :=
  [masterPrivateName, masterPublicName, schemeName].all fun name =>
    toLower key != toLower name || key == name

/-- The key and value in a line, or that there is none; no answer for lines of another form. -/
def plainLine (line : Bytes) : Option (Option (Bytes × Value)) :=
  let key := line.takeWhile isBareKey
  let rest := (line.dropWhile isBareKey).dropWhile isBlank
  if key = [] then
    if rest = [] ∨ (rest.head? = some 35 ∧ rest.all fun c => isText c || c == 9 || c == 34 || c == 92) then
      some none
    else none
  else if rest.head? = some 61 ∧ exactCase key then
    (plainValue (rest.tail.dropWhile isBlank)).map fun value => some (key, value)
  else none

/-- Each line is one of the three kinds. -/
def Plain (content : Bytes) : Prop := ∀ line ∈ content.splitOn 10, (plainLine line).isSome

instance (content : Bytes) : Decidable (Plain content) :=
  inferInstanceAs (Decidable (∀ line ∈ content.splitOn 10, (plainLine line).isSome))

/-- What a line defines. -/
def entry (line : Bytes) : Option (Bytes × Value) := (plainLine line).join

/-- And what lines define. -/
def entries (lines : List Bytes) : List (Bytes × Value) := lines.filterMap entry

/-- A field that is a string; one that is missing is empty. -/
def strField (es : List (Bytes × Value)) (name : Bytes) : Option Bytes :=
  match es.lookup name with
  | none => some []
  | some (.str text) => some text
  | some (.int _) => none

/-- A field that is a number. -/
def intField (es : List (Bytes × Value)) (name : Bytes) : Option Int :=
  match es.lookup name with
  | none => some 0
  | some (.int n) => some n
  | some (.str _) => none

/-- No key is there twice, the fields have their types, and other keys are not looked at. -/
def readEntries (es : List (Bytes × Value)) : Option Config :=
  if (es.map Prod.fst).Nodup then do
    let masterPrivate ← strField es masterPrivateName
    let masterPublic ← strField es masterPublicName
    let scheme ← intField es schemeName
    return ⟨masterPrivate, masterPublic, scheme⟩
  else none

/-- A library that reads plain files as TOML says. -/
def ReadsPlain (unmarshal : Bytes → Except Failure Config) : Prop :=
  ∀ content, Plain content → (unmarshal content).toOption = readEntries (entries (content.splitOn 10))

/-! ## The lines of a file -/

/-- The lines after an update. -/
theorem splitOn_update {content key value : Bytes} (hkey : 10 ∉ key) (hvalue : 10 ∉ value) :
    (updateValueWithKey content key value).splitOn 10 = (content.splitOn 10).map (updateLine key value) := by
  refine List.splitOn_intercalate_map content fun line hline => ?_
  rw [updateLine]
  split_ifs
  · simp [newLine, hkey, hvalue]
  · exact hline

/-! ## The lines that are written -/

/-- A string that needs no escapes, such as Base64. -/
def IsText (value : Bytes) : Prop := ∀ c ∈ value, isText c = true

/-- Base64 is plain text. -/
theorem isText_encodeToString (bs : Bytes) : IsText (Base64.encodeToString bs) := by
  have hall : ∀ c ∈ Base64.padChar :: Base64.alphabet, isText c = true := by decide +kernel
  exact fun c hc => hall c (Base64.mem_encodeToString hc)

/-- Plain text has no line breaks. -/
theorem IsText.not_lineBreak {value : Bytes} (h : IsText value) : 10 ∉ value := fun hmem =>
  absurd (h 10 hmem) (by decide)

/-- A string of plain text is read as that. -/
theorem plainValue_str {value : Bytes} (h : IsText value) : plainValue (34 :: value ++ [34]) = some (.str value) := by
  have hquote : isText 34 = false := by decide
  have hdrop : (value ++ [34]).dropWhile isText = [34] := by
    rw [List.dropWhile_append_of_pos h, List.dropWhile_cons_of_neg (by rw [hquote]; exact Bool.false_ne_true)]
  have htake : (value ++ [34]).takeWhile isText = value := by
    rw [List.takeWhile_append_of_pos h, List.takeWhile_cons_of_neg (by rw [hquote]; exact Bool.false_ne_true),
      List.append_nil]
  rw [plainValue, List.cons_append, List.head?_cons, if_pos rfl, List.tail_cons, hdrop, htake]
  rfl

/-- The new lines define the new keys: the private one, -/
theorem plainLine_private {value : Bytes} (h : IsText value) :
    plainLine (newLine masterPrivateName value) = some (some (masterPrivateName, .str value)) := by
  have hline : plainLine (newLine masterPrivateName value) =
      (plainValue (34 :: value ++ [34])).map fun v => some (masterPrivateName, v) := rfl
  rw [hline, plainValue_str h, Option.map_some]

/-- and the public one. -/
theorem plainLine_public {value : Bytes} (h : IsText value) :
    plainLine (newLine masterPublicName value) = some (some (masterPublicName, .str value)) := by
  have hline : plainLine (newLine masterPublicName value) =
      (plainValue (34 :: value ++ [34])).map fun v => some (masterPublicName, v) := rfl
  rw [hline, plainValue_str h, Option.map_some]

/-- The key of a line is how it starts. -/
theorem prefix_of_entry {line : Bytes} {e : Bytes × Value} (h : entry line = some e) : e.1 <+: line := by
  rw [entry, Option.join_eq_some_iff, plainLine] at h
  split_ifs at h
  · cases Option.some.inj h
  · obtain ⟨value, -, hentry⟩ := Option.map_eq_some_iff.mp h
    obtain rfl := Option.some.inj hentry
    exact List.takeWhile_prefix _

/-- No line starts with two of the names. -/
theorem not_both {line : Bytes} {name name' : Bytes} (h : name <+: line) (h' : name' <+: line)
    (hne : ¬name <+: name' ∧ ¬name' <+: name) : False := by
  rcases List.prefix_or_prefix_of_prefix h h' with hinitial | hinitial
  · exact hne.1 hinitial
  · exact hne.2 hinitial

/-- No line starts with both names. -/
theorem private_or_public {line : Bytes} (h : masterPrivateName <+: line) : ¬masterPublicName <+: line :=
  fun h' => not_both h h' (by decide)

/-! ## The file with the keys in it -/

section Saved

variable {content privateText publicText : Bytes}

/-- The file that `GenerateMasterKey` writes. -/
def savedFile (content privateText publicText : Bytes) : Bytes :=
  updateValueWithKey (updateValueWithKey content masterPrivateName privateText) masterPublicName publicText

/-- What is in a line after both updates. -/
def savedEntry (privateText publicText line : Bytes) : Option (Bytes × Value) :=
  if masterPrivateName <+: line then some (masterPrivateName, .str privateText)
  else if masterPublicName <+: line then some (masterPublicName, .str publicText)
  else entry line

/-- The lines that no update touches. -/
def otherLines (content : Bytes) : List Bytes :=
  (content.splitOn 10).filter fun line => ¬masterPrivateName <+: line ∧ ¬masterPublicName <+: line

/-- The file has a line for each key, and the rest is in order: no key is there twice, and the cipher scheme
    is 0 where it is given. -/
structure TakesKeys (content : Bytes) : Prop where
  privateOnce : (content.splitOn 10).countP (masterPrivateName <+: ·) = 1
  publicOnce : (content.splitOn 10).countP (masterPublicName <+: ·) = 1
  othersOnce : ((entries (otherLines content)).map Prod.fst).Nodup
  scheme : ∀ value, (schemeName, value) ∈ entries (otherLines content) → value = .int 0

variable (hprivate : IsText privateText) (hpublic : IsText publicText)
include hprivate hpublic

/-- A line after both updates. -/
theorem plainLine_saved (line : Bytes) :
    plainLine (updateLine masterPublicName publicText (updateLine masterPrivateName privateText line)) =
      if masterPrivateName <+: line then some (some (masterPrivateName, .str privateText))
      else if masterPublicName <+: line then some (some (masterPublicName, .str publicText))
      else plainLine line := by
  -- the second update does not touch the line that the first has written
  have hkept : ¬masterPublicName <+: newLine masterPrivateName privateText :=
    private_or_public ((List.prefix_append _ _).trans (List.prefix_append _ _))
  rw [updateLine.eq_def masterPrivateName]
  split_ifs with h h'
  · rw [updateLine, if_neg hkept, plainLine_private hprivate]
  · rw [updateLine, if_pos h', plainLine_public hpublic]
  · rw [updateLine, if_neg h']

/-- What the new file defines, line by line. -/
theorem entries_saved : entries ((savedFile content privateText publicText).splitOn 10) =
    (content.splitOn 10).filterMap (savedEntry privateText publicText) := by
  rw [savedFile, splitOn_update (by decide) hpublic.not_lineBreak, splitOn_update (by decide)
    hprivate.not_lineBreak, entries, List.filterMap_map, List.filterMap_map]
  refine List.filterMap_congr fun line _ => ?_
  rw [Function.comp_apply, Function.comp_apply, entry, plainLine_saved hprivate hpublic, savedEntry]
  split_ifs <;> rfl

/-- The file stays plain. -/
theorem plain_saved (hplain : Plain content) : Plain (savedFile content privateText publicText) := by
  intro line hline
  rw [savedFile, splitOn_update (by decide) hpublic.not_lineBreak, splitOn_update (by decide)
    hprivate.not_lineBreak, List.map_map] at hline
  obtain ⟨old, hold, rfl⟩ := List.mem_map.mp hline
  rw [Function.comp_apply, plainLine_saved hprivate hpublic]
  split_ifs
  · rfl
  · rfl
  · exact hplain old hold

omit hprivate hpublic

/-- The entries of the file: one for each line that was replaced, and those of the other lines. -/
theorem saved_perm (lines : List Bytes) : List.Perm (lines.filterMap (savedEntry privateText publicText))
    (List.replicate (lines.countP (masterPrivateName <+: ·)) (masterPrivateName, .str privateText) ++
      (List.replicate (lines.countP (masterPublicName <+: ·)) (masterPublicName, .str publicText) ++
        entries (lines.filter fun line => ¬masterPrivateName <+: line ∧ ¬masterPublicName <+: line))) := by
  induction lines with
  | nil => exact List.Perm.refl _
  | cons line lines ih =>
    -- a line is of the private key, of the public key or another, and goes to its part of the right side
    by_cases h : masterPrivateName <+: line
    · have h' : ¬masterPublicName <+: line := private_or_public h
      simp only [List.filterMap_cons, savedEntry, h, h', List.countP_cons, List.filter_cons, if_true, if_false,
        decide_true, decide_false, not_true_eq_false, not_false_eq_true, false_and, Nat.add_zero,
        List.replicate_succ, List.cons_append, Bool.false_eq_true]
      exact ih.cons _
    · by_cases h' : masterPublicName <+: line
      · simp only [List.filterMap_cons, savedEntry, h, h', List.countP_cons, List.filter_cons, if_true, if_false,
          decide_true, decide_false, not_true_eq_false, not_false_eq_true, and_false, Nat.add_zero,
          List.replicate_succ, List.cons_append, Bool.false_eq_true]
        exact (ih.cons _).trans List.perm_middle.symm
      · simp only [List.filterMap_cons, savedEntry, h, h', List.countP_cons, List.filter_cons, if_true, if_false,
          decide_true, decide_false, not_false_eq_true, and_true, Nat.add_zero,
          Bool.false_eq_true, entries]
        cases entry line with
        | none => exact ih
        | some e =>
          refine (ih.cons e).trans ?_
          rw [← List.append_assoc, ← List.append_assoc]
          exact List.perm_middle.symm

/-- The key of another line is neither of the two names. -/
theorem otherLines_key {e : Bytes × Value} (h : e ∈ entries (otherLines content)) :
    e.1 ≠ masterPrivateName ∧ e.1 ≠ masterPublicName := by
  obtain ⟨line, hline, hentry⟩ := List.mem_filterMap.mp h
  have hother := of_decide_eq_true (List.mem_filter.mp hline).2
  have hinitial := prefix_of_entry hentry
  constructor
  · intro hkey
    exact hother.1 (hkey ▸ hinitial)
  · intro hkey
    exact hother.2 (hkey ▸ hinitial)

/-- What is in the file with the keys. -/
theorem mem_saved {e : Bytes × Value} :
    e ∈ (content.splitOn 10).filterMap (savedEntry privateText publicText) ↔
      (0 < (content.splitOn 10).countP (masterPrivateName <+: ·) ∧ e = (masterPrivateName, .str privateText)) ∨
      (0 < (content.splitOn 10).countP (masterPublicName <+: ·) ∧ e = (masterPublicName, .str publicText)) ∨
      e ∈ entries (otherLines content) := by
  rw [(saved_perm _).mem_iff, List.mem_append, List.mem_append, List.mem_replicate, List.mem_replicate,
    otherLines, Nat.pos_iff_ne_zero, Nat.pos_iff_ne_zero]

/-- When no key is there twice. -/
theorem nodup_saved : (((content.splitOn 10).filterMap (savedEntry privateText publicText)).map Prod.fst).Nodup ↔
    (content.splitOn 10).countP (masterPrivateName <+: ·) ≤ 1 ∧
      (content.splitOn 10).countP (masterPublicName <+: ·) ≤ 1 ∧
      ((entries (otherLines content)).map Prod.fst).Nodup := by
  have hother : ∀ name ∈ (entries (otherLines content)).map Prod.fst,
      name ≠ masterPrivateName ∧ name ≠ masterPublicName := by
    intro name hname
    obtain ⟨e, he, rfl⟩ := List.mem_map.mp hname
    exact otherLines_key he
  rw [((saved_perm _).map Prod.fst).nodup_iff, List.map_append, List.map_append, List.map_replicate,
    List.map_replicate, List.nodup_append, List.nodup_append, List.nodup_replicate, List.nodup_replicate]
  constructor
  · rintro ⟨h, ⟨h', hnodup, -⟩, -⟩
    exact ⟨h, h', hnodup⟩
  · rintro ⟨h, h', hnodup⟩
    refine ⟨h, ⟨h', hnodup, ?_⟩, ?_⟩
    · intro name hname name' hname' heq
      exact (hother name' hname').2 (heq ▸ List.eq_of_mem_replicate hname)
    · intro name hname name' hname' heq
      have hprivate : name' = masterPrivateName := heq ▸ List.eq_of_mem_replicate hname
      rcases List.mem_append.mp hname' with hpublic | hname'
      · exact absurd (hprivate.symm.trans (List.eq_of_mem_replicate hpublic))
          (show masterPrivateName ≠ masterPublicName by decide)
      · exact (hother name' hname').1 hprivate

/-! ## Reading the file -/

/-- A field that is not the empty text is there. -/
theorem strField_eq_some {es : List (Bytes × Value)} (h : (es.map Prod.fst).Nodup) {name text : Bytes}
    (hfield : strField es name = some text) (htext : text ≠ []) : (name, .str text) ∈ es := by
  rw [strField] at hfield
  split at hfield
  · exact absurd (Option.some.inj hfield).symm htext
  · rename_i text' hlookup
    obtain rfl := Option.some.inj hfield
    exact (List.lookup_eq_some_iff_mem h).mp hlookup
  · cases hfield

/-- A name that occurs once gives its value. -/
theorem strField_of_mem {es : List (Bytes × Value)} (h : (es.map Prod.fst).Nodup) {name text : Bytes}
    (hmem : (name, .str text) ∈ es) : strField es name = some text := by
  rw [strField, (List.lookup_eq_some_iff_mem h).mpr hmem]

/-- A scheme of 0 is absent or given. -/
theorem intField_eq_zero {es : List (Bytes × Value)} (h : (es.map Prod.fst).Nodup) {name : Bytes} :
    intField es name = some 0 ↔ ∀ value, (name, value) ∈ es → value = .int 0 := by
  rw [intField]
  split
  · rename_i hlookup
    refine iff_of_true rfl fun value hmem => ?_
    rw [(List.lookup_eq_some_iff_mem h).mpr hmem] at hlookup
    cases hlookup
  · rename_i n hlookup
    constructor
    · intro hzero value hmem
      rw [(List.lookup_eq_some_iff_mem h).mpr hmem] at hlookup
      rw [Option.some.inj hlookup, Option.some.inj hzero]
    · intro hall
      rw [Value.int.inj (hall _ ((List.lookup_eq_some_iff_mem h).mp hlookup))]
  · rename_i text hlookup
    refine iff_of_false nofun fun hall => ?_
    cases hall _ ((List.lookup_eq_some_iff_mem h).mp hlookup)

/-- The scheme is in one of the other lines. -/
theorem scheme_mem_saved {value : Value} :
    (schemeName, value) ∈ (content.splitOn 10).filterMap (savedEntry privateText publicText) ↔
      (schemeName, value) ∈ entries (otherLines content) := by
  rw [mem_saved]
  constructor
  · rintro (⟨-, heq⟩ | ⟨-, heq⟩ | hmem)
    · exact absurd (congrArg Prod.fst heq) (show schemeName ≠ masterPrivateName by decide)
    · exact absurd (congrArg Prod.fst heq) (show schemeName ≠ masterPublicName by decide)
    · exact hmem
  · intro hmem
    exact .inr (.inr hmem)

/-- A file that takes the keys is read back with them. -/
theorem readEntries_saved (h : TakesKeys content) :
    readEntries ((content.splitOn 10).filterMap (savedEntry privateText publicText)) =
      some ⟨privateText, publicText, 0⟩ := by
  have hnodup : (((content.splitOn 10).filterMap (savedEntry privateText publicText)).map Prod.fst).Nodup :=
    nodup_saved.mpr ⟨h.privateOnce.le, h.publicOnce.le, h.othersOnce⟩
  have hprivate := strField_of_mem hnodup (mem_saved.mpr (.inl ⟨h.privateOnce ▸ Nat.one_pos, rfl⟩))
  have hpublic := strField_of_mem hnodup (mem_saved.mpr (.inr (.inl ⟨h.publicOnce ▸ Nat.one_pos, rfl⟩)))
  have hscheme := (intField_eq_zero hnodup).mpr fun value hmem =>
    h.scheme value (scheme_mem_saved.mp hmem)
  rw [readEntries, if_pos hnodup, hprivate, hpublic, hscheme]
  rfl

/-- A file from which both keys and the scheme 0 are read takes the keys. -/
theorem takesKeys_of_read {config : Config}
    (hread : readEntries ((content.splitOn 10).filterMap (savedEntry privateText publicText)) = some config)
    (hprivate : config.masterPrivateKeyBase64 ≠ []) (hpublic : config.masterPublicKeyBase64 ≠ [])
    (hscheme : config.defaultCipherScheme = 0) : TakesKeys content := by
  rw [readEntries] at hread
  split_ifs at hread with hnodup
  obtain ⟨privateField, hprivateField, hread⟩ := Option.bind_eq_some_iff.mp hread
  obtain ⟨publicField, hpublicField, hread⟩ := Option.bind_eq_some_iff.mp hread
  obtain ⟨scheme, hschemeField, hread⟩ := Option.bind_eq_some_iff.mp hread
  obtain rfl := Option.some.inj hread
  obtain rfl : scheme = 0 := hscheme
  -- TOML refuses a key that is there twice, and a key that is missing is read as the empty text
  obtain ⟨hprivateLe, hpublicLe, hothers⟩ := nodup_saved.mp hnodup
  have hprivatePos : 0 < (content.splitOn 10).countP (masterPrivateName <+: ·) := by
    rcases mem_saved.mp (strField_eq_some hnodup hprivateField hprivate) with ⟨hpos, -⟩ | ⟨-, heq⟩ | hmem
    · exact hpos
    · exact absurd (congrArg Prod.fst heq) (show masterPrivateName ≠ masterPublicName by decide)
    · exact absurd rfl (otherLines_key hmem).1
  have hpublicPos : 0 < (content.splitOn 10).countP (masterPublicName <+: ·) := by
    rcases mem_saved.mp (strField_eq_some hnodup hpublicField hpublic) with ⟨-, heq⟩ | ⟨hpos, -⟩ | hmem
    · exact absurd (congrArg Prod.fst heq) (show masterPublicName ≠ masterPrivateName by decide)
    · exact hpos
    · exact absurd rfl (otherLines_key hmem).2
  exact {
    privateOnce := by omega
    publicOnce := by omega
    othersOnce := hothers
    scheme := fun value hmem =>
      (intField_eq_zero hnodup).mp hschemeField value (scheme_mem_saved.mpr hmem) }

end Saved

end OpenNHP.KGC.ConfigFile
