/-
  TOML files, as the texts that they are.

  1. A file is a list of expressions at line breaks: a comment or nothing, the header of a table, or a
     definition.  The text of a value may go over several lines.
  2. What keys, headers, values and comments look like is the grammar's; here it says no more of them than is
     needed to find where a definition starts and ends.  So a statement about a file is one for every grammar of
     TOML.
  3. What a file means is a value for each place: the tables that lead to it, each with the number of its element
     where there are several, and the name (`entries`).
  4. A reader of TOML is a function on bytes that finds what the lines define, where no place is defined twice and
     the tables are in order (`Reader`).
-/
import OpenNHP.KGC.ConfigFile

namespace OpenNHP.Agent.TomlFile

open BigEndian OpenNHP.KGC.ConfigFile

/-! ## What a file says -/

/-- A string, or something else. -/
inductive Value (α : Type)
  | str (text : Bytes)
  | other (a : α)
  deriving DecidableEq

/-- The names of a dotted key. -/
abbrev Path := List Bytes

/-- `[path]` and `[[path]]` -/
inductive Header
  | table (path : Path)
  | element (path : Path)
  deriving DecidableEq

/-- A header or a definition, without its text. -/
inductive Statement (β : Type)
  | header (h : Header)
  | define (path : Path) (value : β)
  deriving DecidableEq

/-- Each name with the number of the element, from one on, or with zero where the name is of one thing only. -/
abbrev Place := List (Bytes × Nat)

/-- A definition in front of every header. -/
def topLevel (name : Bytes) : Place := [(name, 0)]

/-- The table that is being defined, and the arrays of tables: the path of each, once for each element. -/
structure Cursor where
  table : Place
  elements : List Path

/-- Before the first header. -/
def Cursor.top : Cursor := ⟨[], []⟩

/-- Where a header leads: to the last element of each array on the way. -/
def locate (elements : List Path) (before : Path) : Path → Place
  | [] => []
  | name :: path => (name, elements.count (before ++ [name])) :: locate elements (before ++ [name]) path

/-- With a new element the arrays that are inside it start anew. -/
def Cursor.move (c : Cursor) : Header → Cursor
  | .table path => ⟨locate c.elements [] path, c.elements⟩
  | .element path =>
    let elements := path :: c.elements.filter fun other => other == path || !path.isPrefixOf other
    ⟨locate elements [] path, elements⟩

variable {α β γ : Type}

/-- The definitions at their places. -/
def entries (c : Cursor) : List (Statement β) → List (Place × β)
  | [] => []
  | .header h :: ss => entries (c.move h) ss
  | .define path value :: ss => (c.table ++ path.map (·, 0), value) :: entries c ss

/-- Another value in the place of each. -/
def Statement.map (f : β → γ) : Statement β → Statement γ
  | .header h => .header h
  | .define path value => .define path (f value)

/-- The kind of a value: a string, or what else it is. -/
def Value.shape : Value α → Value α
  | .str _ => .str []
  | .other a => .other a

/-- The places stay the same. -/
theorem entries_map (f : β → γ) (c : Cursor) (ss : List (Statement β)) :
    entries c (ss.map (Statement.map f)) = (entries c ss).map (Prod.map id f) := by
  induction ss generalizing c with
  | nil => rfl
  | cons s ss ih =>
    cases s with
    | header h => exact ih (c.move h)
    | define path value => exact congrArg _ (ih c)

/-- Where a definition is put does not depend on what it defines. -/
theorem places_map (f : β → γ) (c : Cursor) (ss : List (Statement β)) :
    (entries c (ss.map (Statement.map f))).map Prod.fst = (entries c ss).map Prod.fst := by
  rw [entries_map, List.map_map]
  rfl

/-! ## The grammar -/

/-- White space and the ends of lines. -/
def isSpace (c : UInt8) : Bool := c == 32 || (9 ≤ c && c ≤ 10) || c == 12 || c == 13

/-- A key that needs no quotes. -/
structure BareKey where
  name : Bytes
  nonempty : name ≠ []
  bare : ∀ c ∈ name, isBareKey c = true

/-- What the texts of keys, of headers (behind the first bracket), of values and of comments stand for. -/
structure Grammar (α : Type) where
  key : Bytes → Option Path
  header : Bytes → Option Header
  value : Bytes → Option (Value α)
  comment : Bytes → Bool
  key_bare : ∀ name : BareKey, key name.name = some [name.name]
  key_line : ∀ text path, key text = some path → 10 ∉ text
  key_head : ∀ text path, key text = some path → ∃ c ∈ text.head?, isSpace c = false
  /-- Behind a bare name a key goes on with a dot. -/
  key_dot : ∀ (name : BareKey) (text rest : Bytes) (path : Path), key text = some path → text = name.name ++ rest →
    rest = [] ∨ (∃ c ∈ rest.head?, isBareKey c) ∨ (rest.dropWhile isBlank).head? = some 46
  header_line : ∀ text h, header text = some h → 10 ∉ text
  comment_line : ∀ text, comment text = true → 10 ∉ text
  value_head : ∀ text v, value text = some v → ∃ c ∈ text.head?, isSpace c = false
  value_last : ∀ text v, value text = some v → ∃ c ∈ text.getLast?, isSpace c = false
  /-- What starts with a quotation mark is a string. -/
  value_quote : ∀ text v, value text = some v → text.head? = some 34 → ∃ s, v = .str s
  value_plain : ∀ s, IsText s → value (34 :: s ++ [34]) = some (.str s)

variable {G : Grammar α}

/-- Blanks, and a comment or none. -/
def Grammar.isTail (G : Grammar α) (text : Bytes) : Bool :=
  match text.dropWhile isBlank with
  | [] => true
  | c :: rest => c == 35 && G.comment rest

/-- `key = value` -/
structure Definition (G : Grammar α) where
  indent : Bytes
  key : Bytes
  gap : Bytes
  space : Bytes
  text : Bytes
  tail : Bytes
  path : Path
  value : Value α
  indent_blank : indent.all isBlank = true
  key_path : G.key key = some path
  gap_blank : gap.all isBlank = true
  space_blank : space.all isBlank = true
  text_value : G.value text = some value
  tail_ends : G.isTail tail = true

/-- The definition up to its value. -/
def Definition.start (d : Definition G) : Bytes := d.indent ++ d.key ++ d.gap ++ 61 :: d.space

/-- The text of a definition. -/
def Definition.line (d : Definition G) : Bytes := d.start ++ (d.text ++ d.tail)

/-- What is between two line breaks. -/
inductive Expression (G : Grammar α)
  | note (text : Bytes) (ends : G.isTail text = true)
  | header (indent text tail : Bytes) (h : Header) (indent_blank : indent.all isBlank = true)
      (text_header : G.header text = some h) (tail_ends : G.isTail tail = true)
  | definition (d : Definition G)

/-- Its text. -/
def Expression.text : Expression G → Bytes
  | .note text _ => text
  | .header indent text tail _ _ _ _ => indent ++ 91 :: text ++ tail
  | .definition d => d.line

/-- What it defines. -/
def Expression.parts : Expression G → List (Statement (Definition G))
  | .note _ _ => []
  | .header _ _ _ h _ _ _ => [.header h]
  | .definition d => [.define d.path d]

/-- A line break is a line feed, or a carriage return and one. -/
inductive File (G : Grammar α)
  | last (e : Expression G)
  | line (e : Expression G) (crlf : Bool) (rest : File G)

/-- A line may end in a carriage return. -/
def carriageReturn (crlf : Bool) : Bytes := if crlf then [13] else []

/-- The text of a file. -/
def File.text : File G → Bytes
  | .last e => e.text
  | .line e crlf rest => e.text ++ carriageReturn crlf ++ 10 :: rest.text

/-- Its headers and definitions. -/
def File.parts : File G → List (Statement (Definition G))
  | .last e => e.parts
  | .line e _ rest => e.parts ++ rest.parts

/-- And what they say. -/
def File.statements (file : File G) : List (Statement (Value α)) := file.parts.map (Statement.map Definition.value)

/-- A library that reads files, and which it takes: no place is defined twice, and what a string says does not
    matter. -/
structure Reader (G : Grammar α) where
  unmarshal : Bytes → Option (List (Place × Value α))
  inOrder : List (Statement (Value α)) → Prop
  reads : ∀ file : File G, inOrder file.statements → unmarshal file.text = some (entries .top file.statements)
  inOrder_shape : ∀ ss ss', ss.map (Statement.map Value.shape) = ss'.map (Statement.map Value.shape) →
    inOrder ss → inOrder ss'
  inOrder_nodup : ∀ ss, inOrder ss → ((entries .top ss).map Prod.fst).Nodup

end OpenNHP.Agent.TomlFile
