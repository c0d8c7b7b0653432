/-
  Paths as they are cleaned and joined without looking at the file system.

  1. A cleaned rooted path is a list of names.  Joining a path to it walks from there: a name goes down, two dots
     go up, and nothing else moves (`join_path`).
  2. What a path does is told by how far it climbs above the place where it starts and which names it goes down
     from there (`walk_relative`).
  3. So a joined path is below the directory it was joined to exactly when it goes down again through the names
     that it climbed out of, and further (`confined_iff`).
  4. A test whether the joined path starts with the directory's text lets everything through that is below it, the
     directory itself, and the siblings whose names start with its name (`guarded_iff`).

  Cleaning works on the text and pushes one component after another onto a stack; that the stack is the walk, the
  other way round, is the one induction of this file (`foldl_push`).
-/
import OpenNHP.Lib.Pieces

namespace Paths

/-- A path is a byte string. -/
abbrev Bytes : Type := List UInt8

/-- The slash, -/
def separator : UInt8 := 47

/-- the name of the place itself, -/
def dot : Bytes := [46]

/-- and that of the one above. -/
def dotdot : Bytes := [46, 46]

/-! ## Cleaning and joining -/

/-- A component comes to the components so far, the last of them first. -/
def push (rooted : Bool) (stack : List Bytes) (c : Bytes) : List Bytes :=
  if c = [] ∨ c = dot then stack
  else if c = dotdot then
    match stack with
    | [] => if rooted then [] else [dotdot]
    | top :: rest => if top = dotdot then dotdot :: top :: rest else rest
  else c :: stack

/-- A rooted path. -/
def isAbs (path : Bytes) : Bool := path.head? == some separator

/-- The components of a path once empty ones, single dots and names behind which two dots stand are gone. -/
def components (rooted : Bool) (path : Bytes) : List Bytes :=
  ((path.splitOn separator).foldl (push rooted) []).reverse

/-- The shortest path to the same place. -/
def clean (path : Bytes) : Bytes :=
  if isAbs path then separator :: List.intercalate [separator] (components true path)
  else if components false path = [] then dot
  else List.intercalate [separator] (components false path)

/-- Elements put together, without those that are empty, and cleaned. -/
def join : List Bytes → Bytes
  | [] => []
  | e :: es => if e = [] then join es else clean (List.intercalate [separator] (e :: es))

/-- A path made absolute from a working directory. -/
def abs (cwd path : Bytes) : Bytes := if isAbs path then clean path else join [cwd, path]

/-- The last component, without the separators behind it. -/
def base (path : Bytes) : Bytes :=
  if path = [] then dot
  else
    let last := ((path.reverse.dropWhile (· == separator)).takeWhile (· != separator)).reverse
    if last = [] then [separator] else last

/-! ## Directories -/

/-- What can be the name of a file. -/
structure IsName (n : Bytes) : Prop where
  nonempty : n ≠ []
  notDot : n ≠ dot
  notDotdot : n ≠ dotdot
  noSeparator : separator ∉ n

instance (n : Bytes) : Decidable (IsName n) :=
  decidable_of_iff (n ≠ [] ∧ n ≠ dot ∧ n ≠ dotdot ∧ separator ∉ n)
    ⟨fun ⟨h₁, h₂, h₃, h₄⟩ => ⟨h₁, h₂, h₃, h₄⟩, fun h => ⟨h.1, h.2, h.3, h.4⟩⟩

/-- What `base` comes to. -/
def IsBase (n : Bytes) : Prop := n = [separator] ∨ n ≠ [] ∧ separator ∉ n

instance (n : Bytes) : Decidable (IsBase n) := inferInstanceAs (Decidable (_ ∨ _))

/-- The last element of a path is one. -/
theorem isBase_base (path : Bytes) : IsBase (base path) := by
  rw [base]
  dsimp only
  split_ifs with hpath hlast
  · exact .inr ⟨List.cons_ne_nil _ _, by decide⟩
  · exact .inl rfl
  · refine .inr ⟨hlast, fun hmem => ?_⟩
    have hne := List.all_eq_true.mp List.all_takeWhile _ (List.mem_reverse.mp hmem)
    rw [bne_self_eq_false] at hne
    cases hne

/-- What is no name leads nowhere, or up. -/
theorem IsBase.cases {n : Bytes} (h : IsBase n) : n = [separator] ∨ n = dot ∨ n = dotdot ∨ IsName n := by
  rcases h with rfl | ⟨hne, hsep⟩
  · exact .inl rfl
  · by_cases hdot : n = dot
    · exact .inr (.inl hdot)
    · by_cases hdotdot : n = dotdot
      · exact .inr (.inr (.inl hdotdot))
      · exact .inr (.inr (.inr ⟨hne, hdot, hdotdot, hsep⟩))

/-- The text of the names below the root. -/
def text (names : List Bytes) : Bytes := List.intercalate [separator] names

/-- A cleaned rooted path. -/
structure Dir where
  names : List Bytes
  isName : ∀ n ∈ names, IsName n

/-- The path of a directory. -/
def Dir.path (d : Dir) : Bytes := separator :: text d.names

/-- A path is below a directory. -/
def Confined (d : Dir) (path : Bytes) : Prop :=
  ∃ rest, rest ≠ [] ∧ (∀ n ∈ rest, IsName n) ∧ path = separator :: text (d.names ++ rest)

/-! ## Walking -/

/-- A component, from where the names lead. -/
def step (names : List Bytes) (c : Bytes) : List Bytes :=
  if c = [] ∨ c = dot then names else if c = dotdot then names.dropLast else names ++ [c]

/-- Where a path leads from a place. -/
def walk (names : List Bytes) (path : Bytes) : List Bytes := (path.splitOn separator).foldl step names

/-- A component, from a place that is some directories above the start and then some names down. -/
def relativeStep (r : Nat × List Bytes) (c : Bytes) : Nat × List Bytes :=
  if c = [] ∨ c = dot then r
  else if c = dotdot then if r.2 = [] then (r.1 + 1, []) else (r.1, r.2.dropLast)
  else (r.1, r.2 ++ [c])

/-- How far a path climbs above its start, and the names it goes down from there. -/
def relative (path : Bytes) : Nat × List Bytes := (path.splitOn separator).foldl relativeStep (0, [])

/-- The names that a path climbs out of when it starts at a directory. -/
def Dir.left (d : Dir) (path : Bytes) : List Bytes := d.names.drop (d.names.length - (relative path).1)

/-- A path that goes back through the names that it climbed out of, and further. -/
def Stays (d : Dir) (path : Bytes) : Prop := ∃ rest, rest ≠ [] ∧ (relative path).2 = d.left path ++ rest

instance (d : Dir) (path : Bytes) : Decidable (Stays d path) :=
  decidable_of_iff (d.left path <+: (relative path).2 ∧ (relative path).2 ≠ d.left path) <| by
    constructor
    · rintro ⟨⟨rest, heq⟩, hne⟩
      refine ⟨rest, fun hrest => hne ?_, heq.symm⟩
      rw [← heq, hrest, List.append_nil]
    · rintro ⟨rest, hrest, heq⟩
      exact ⟨⟨rest, heq.symm⟩, fun hself => hrest (List.self_eq_append_right.mp (hself.symm.trans heq))⟩

/-- A path that comes to the directory itself, or to or through a sibling with a longer name that starts like
    the directory's. -/
def Beside (d : Dir) (path : Bytes) : Prop :=
  (relative path).2 = d.left path ∨
    0 < (relative path).1 ∧ ∃ suffix more, suffix ≠ [] ∧
      (relative path).2 = (d.left path).dropLast ++ (d.names.getLastD [] ++ suffix) :: more

/-! ## Lists of names -/

/-- The text of names: one before others, -/
theorem text_cons {n : Bytes} {names : List Bytes} (h : names ≠ []) :
    text (n :: names) = n ++ separator :: text names := by
  rw [text, List.intercalate_cons_of_ne_nil h, List.append_assoc]
  rfl

/-- one alone, -/
theorem text_singleton (n : Bytes) : text [n] = n := List.intercalate_singleton

/-- and one behind others. -/
theorem text_concat {names : List Bytes} (h : names ≠ []) (n : Bytes) :
    text (names ++ [n]) = text names ++ separator :: n := by
  induction names with
  | nil => exact absurd rfl h
  | cons n' names ih =>
    by_cases hnames : names = []
    · rw [hnames, List.cons_append, List.nil_append, text_cons (List.cons_ne_nil _ _), text_singleton, text_singleton]
    · rw [List.cons_append, text_cons (List.append_ne_nil_of_left_ne_nil hnames _), ih hnames, text_cons hnames,
        List.append_assoc, List.cons_append]

/-- The names are read back. -/
theorem splitOn_text {names : List Bytes} (h : ∀ n ∈ names, IsName n) (hne : names ≠ []) :
    (text names).splitOn separator = names :=
  List.splitOn_intercalate separator (fun n hn => (h n hn).noSeparator) hne

/-- Some names, some text. -/
theorem text_ne_nil {names : List Bytes} (h : ∀ n ∈ names, IsName n) (hne : names ≠ []) : text names ≠ [] := by
  intro hnil
  have hsplit := splitOn_text h hne
  rw [hnil, List.splitOn_nil] at hsplit
  exact (h [] (hsplit ▸ List.mem_cons_self)).nonempty rfl

/-- Different names, different texts. -/
theorem text_injective {names names' : List Bytes} (h : ∀ n ∈ names, IsName n) (h' : ∀ n ∈ names', IsName n)
    (heq : text names = text names') : names = names' := by
  by_cases hne : names = []
  · by_contra hne'
    subst hne
    exact text_ne_nil h' (Ne.symm hne') heq.symm
  · by_cases hne' : names' = []
    · subst hne'
      exact absurd heq (text_ne_nil h hne)
    · rw [← splitOn_text h hne, heq, splitOn_text h' hne']

/-! ## Joining is walking -/

/-- A component keeps a list of names one. -/
theorem isName_step {names : List Bytes} {c : Bytes} (h : ∀ n ∈ names, IsName n) (hc : separator ∉ c) :
    ∀ n ∈ step names c, IsName n := by
  intro n hn
  rw [step] at hn
  split_ifs at hn with hskip hup
  · exact h n hn
  · exact h n (List.dropLast_subset _ hn)
  · rcases List.mem_append.mp hn with hn | hn
    · exact h n hn
    · obtain rfl := List.mem_singleton.mp hn
      exact ⟨fun he => hskip (.inl he), fun he => hskip (.inr he), hup, hc⟩

/-- Names lead to names, -/
theorem isName_foldl {cs : List Bytes} {names : List Bytes} (h : ∀ n ∈ names, IsName n)
    (hcs : ∀ c ∈ cs, separator ∉ c) : ∀ n ∈ cs.foldl step names, IsName n := by
  induction cs generalizing names with
  | nil => exact h
  | cons c cs ih =>
    rw [List.foldl_cons]
    exact ih (isName_step h (hcs c List.mem_cons_self)) fun c' hc' => hcs c' (List.mem_cons_of_mem _ hc')

/-- so a walk does. -/
theorem isName_walk {names : List Bytes} (h : ∀ n ∈ names, IsName n) (path : Bytes) :
    ∀ n ∈ walk names path, IsName n :=
  isName_foldl h fun _ => List.not_mem_of_mem_splitOn

/-- On names, cleaning a rooted path is a walk. -/
theorem push_reverse {names : List Bytes} {c : Bytes} (h : ∀ n ∈ names, IsName n) :
    push true names.reverse c = (step names c).reverse := by
  rw [push.eq_def, step]
  by_cases hskip : c = [] ∨ c = dot
  · rw [if_pos hskip, if_pos hskip]
  rw [if_neg hskip, if_neg hskip]
  by_cases hup : c = dotdot
  · rw [if_pos hup, if_pos hup]
    rcases List.eq_nil_or_concat names with rfl | ⟨init, last, rfl⟩
    · rfl
    · -- no name is two dots, so a rooted path never keeps any
      rw [List.concat_eq_append, List.reverse_append, List.dropLast_concat]
      have hlast : last ≠ dotdot := (h last (by simp)).notDotdot
      show (if last = dotdot then dotdot :: last :: init.reverse else init.reverse) = init.reverse
      exact if_neg hlast
  · rw [if_neg hup, if_neg hup, List.reverse_append]
    rfl

/-- The stack of a cleaned path is its walk. -/
theorem foldl_push {cs : List Bytes} {names : List Bytes} (h : ∀ n ∈ names, IsName n)
    (hcs : ∀ c ∈ cs, separator ∉ c) : cs.foldl (push true) names.reverse = (cs.foldl step names).reverse := by
  induction cs generalizing names with
  | nil => rfl
  | cons c cs ih =>
    rw [List.foldl_cons, List.foldl_cons, push_reverse h]
    exact ih (isName_step h (hcs c List.mem_cons_self)) fun c' hc' => hcs c' (List.mem_cons_of_mem _ hc')

/-- Names go down. -/
theorem foldl_step_names {names names' : List Bytes} (h : ∀ n ∈ names', IsName n) :
    names'.foldl step names = names ++ names' := by
  induction names' generalizing names with
  | nil => exact (List.append_nil names).symm
  | cons n names' ih =>
    have hn := h n List.mem_cons_self
    have hstep : step names n = names ++ [n] := by
      rw [step, if_neg fun he => he.elim hn.nonempty hn.notDot, if_neg hn.notDotdot]
    rw [List.foldl_cons, hstep, ih fun n' hn' => h n' (List.mem_cons_of_mem _ hn'), List.append_assoc]
    rfl

/-- The text of a directory leads to it from the root. -/
theorem walk_text (d : Dir) : walk [] (text d.names) = d.names := by
  by_cases hne : d.names = []
  · rw [hne]
    rfl
  · rw [walk, splitOn_text d.isName hne, foldl_step_names d.isName, List.nil_append]

/-- A name goes down. -/
theorem walk_of_isName {names : List Bytes} {n : Bytes} (h : IsName n) : walk names n = names ++ [n] := by
  rw [walk, List.splitOn_eq_singleton h.noSeparator, List.foldl_cons, List.foldl_nil, step,
    if_neg fun he => he.elim h.nonempty h.notDot, if_neg h.notDotdot]

/-- A path behind another is walked behind it. -/
theorem walk_append (names : List Bytes) (path path' : Bytes) :
    walk names (path ++ separator :: path') = walk (walk names path) path' := by
  rw [walk, List.splitOn_append_cons_self, List.foldl_append]
  rfl

/-- Cleaning a rooted path is walking from the root. -/
theorem clean_rooted (path : Bytes) : clean (separator :: path) = separator :: text (walk [] path) := by
  have hfold := foldl_push (fun n (hn : n ∈ []) => absurd hn List.not_mem_nil)
    fun c (hc : c ∈ path.splitOn separator) => List.not_mem_of_mem_splitOn hc
  rw [clean, if_pos (show isAbs (separator :: path) = true from rfl), components,
    List.splitOn_cons_eq_if_modifyHead, if_pos (beq_self_eq_true _), List.foldl_cons]
  show separator :: List.intercalate [separator] (List.foldl (push true) ([] : List Bytes).reverse _).reverse = _
  rw [hfold, List.reverse_reverse]
  rfl

/-- Where a path leads from a directory. -/
def Dir.walk (d : Dir) (path : Bytes) : Dir := ⟨Paths.walk d.names path, isName_walk d.isName path⟩

/-- Joining a path to a directory. -/
theorem join_path (d : Dir) (path : Bytes) : join [d.path, path] = (d.walk path).path := by
  have hjoined : List.intercalate [separator] [d.path, path] = separator :: (text d.names ++ separator :: path) := by
    rw [List.intercalate_cons_of_ne_nil (List.cons_ne_nil _ _), List.intercalate_singleton, Dir.path]
    simp
  rw [join, if_neg (show d.path ≠ [] from List.cons_ne_nil _ _), hjoined, clean_rooted, walk_append, walk_text]
  rfl

/-- Joining two paths to a directory, one behind the other. -/
theorem join_two (d : Dir) (path path' : Bytes) : join [d.path, path, path'] = ((d.walk path).walk path').path := by
  have hjoined : List.intercalate [separator] [d.path, path, path'] =
      List.intercalate [separator] [d.path, path ++ separator :: path'] := by
    simp [List.intercalate_cons_cons]
  have hjoin : join [d.path, path, path'] = join [d.path, path ++ separator :: path'] := by
    have hne : d.path ≠ [] := List.cons_ne_nil _ _
    rw [join, if_neg hne, join, if_neg hne, hjoined]
  rw [hjoin, join_path]
  exact congrArg (separator :: text ·) (walk_append d.names path path')

/-- Joining three. -/
theorem join_three (d : Dir) (path path' path'' : Bytes) :
    join [d.path, path, path', path''] = (((d.walk path).walk path').walk path'').path := by
  have hne : d.path ≠ [] := List.cons_ne_nil _ _
  have hjoined : List.intercalate [separator] [d.path, path, path', path''] =
      List.intercalate [separator] [d.path, path ++ separator :: path', path''] := by
    simp [List.intercalate_cons_cons]
  have hjoin : join [d.path, path, path', path''] = join [d.path, path ++ separator :: path', path''] := by
    rw [join, if_neg hne, join, if_neg hne, hjoined]
  have hwalk : d.walk (path ++ separator :: path') = (d.walk path).walk path' :=
    (Dir.mk.injEq ..).mpr (walk_append d.names path path')
  rw [hjoin, join_two, hwalk]

/-- A name is put behind the directory's path. -/
theorem walk_path {d : Dir} (hne : d.names ≠ []) {n : Bytes} (h : IsName n) :
    (d.walk n).path = d.path ++ separator :: n := by
  have hnames : (d.walk n).names = d.names ++ [n] := walk_of_isName h
  rw [Dir.path, hnames, text_concat hne, Dir.path, List.cons_append]

/-- A directory's path is cleaned and absolute already. -/
theorem abs_path (cwd : Bytes) (d : Dir) : abs cwd d.path = d.path := by
  rw [abs, if_pos (show isAbs d.path = true from rfl), Dir.path, clean_rooted, walk_text]

/-! ## What a path does -/

/-- One component, as seen from where the path started. -/
theorem walk_step {names : List Bytes} {r : Nat × List Bytes} {c : Bytes} :
    step (names.take (names.length - r.1) ++ r.2) c =
      names.take (names.length - (relativeStep r c).1) ++ (relativeStep r c).2 := by
  rw [step, relativeStep]
  split_ifs with hskip hup hdown
  · rfl
  · rw [hdown, List.append_nil, List.append_nil, List.dropLast_eq_take, List.take_take, List.length_take]
    congr 1
    omega
  · rw [List.dropLast_append_of_ne_nil hdown]
  · rw [List.append_assoc]

/-- A walk leaves some names and goes down through others. -/
theorem walk_relative (names : List Bytes) (path : Bytes) :
    walk names path = names.take (names.length - (relative path).1) ++ (relative path).2 := by
  -- by induction on the components, from wherever the walk has come to
  have hfold : ∀ (cs : List Bytes) (r : Nat × List Bytes),
      cs.foldl step (names.take (names.length - r.1) ++ r.2) =
        names.take (names.length - (cs.foldl relativeStep r).1) ++ (cs.foldl relativeStep r).2 := by
    intro cs
    induction cs with
    | nil => exact fun _ => rfl
    | cons c cs ih =>
      intro r
      rw [List.foldl_cons, List.foldl_cons, walk_step]
      exact ih _
  have h := hfold (path.splitOn separator) (0, [])
  rw [Nat.sub_zero, List.take_length, List.append_nil] at h
  exact h

/-- Where a joined path comes back to the names it left. -/
theorem walk_eq_append (d : Dir) (path : Bytes) (rest : List Bytes) :
    walk d.names path = d.names ++ rest ↔ (relative path).2 = d.left path ++ rest := by
  have hsplit : d.names.take (d.names.length - (relative path).1) ++ d.left path = d.names :=
    List.take_append_drop _ _
  rw [walk_relative]
  conv_lhs => rhs; rw [← hsplit, List.append_assoc]
  exact List.append_right_inj _

/-! ## Below a directory -/

/-- A path leads below its directory when its names go on behind the directory's. -/
theorem confined_walk (d : Dir) (path : Bytes) :
    Confined d (d.walk path).path ↔ ∃ rest, rest ≠ [] ∧ walk d.names path = d.names ++ rest := by
  constructor
  · rintro ⟨rest, hne, hrest, heq⟩
    have hnames : ∀ n ∈ d.names ++ rest, IsName n := by
      intro n hn
      exact (List.mem_append.mp hn).elim (d.isName n) (hrest n)
    exact ⟨rest, hne, text_injective (isName_walk d.isName path) hnames (List.cons.inj heq).2⟩
  · rintro ⟨rest, hne, heq⟩
    refine ⟨rest, hne, fun n hn => ?_, congrArg (separator :: text ·) heq⟩
    exact isName_walk d.isName path n (heq ▸ List.mem_append_right _ hn)

/-- A path leads below its directory exactly when it stays. -/
theorem confined_iff (d : Dir) (path : Bytes) : Confined d (d.walk path).path ↔ Stays d path := by
  rw [confined_walk, Stays]
  exact exists_congr fun rest => and_congr_right fun _ => walk_eq_append d path rest

/-! ## Texts that start alike -/

/-- A name at the start of a text starts the text's first name. -/
theorem prefix_name {n n' rest : Bytes} (hn : separator ∉ n) : n <+: n' ++ separator :: rest ↔ n <+: n' := by
  constructor
  · intro h
    rcases List.prefix_or_prefix_of_prefix h (List.prefix_append n' _) with h' | ⟨more, rfl⟩
    · exact h'
    · rw [List.prefix_append_right_inj] at h
      cases more with
      | nil => exact (List.append_nil n').symm ▸ List.prefix_rfl
      | cons c more =>
        obtain rfl := (List.cons_prefix_cons.mp h).1
        exact absurd (List.mem_append_right _ List.mem_cons_self) hn
  · intro h
    exact h.trans (List.prefix_append _ _)

/-- Two texts that start with a name and go on. -/
theorem prefix_cons_iff {n n' rest rest' : Bytes} (hn : separator ∉ n) (hn' : separator ∉ n') :
    n ++ separator :: rest <+: n' ++ separator :: rest' ↔ n = n' ∧ rest <+: rest' := by
  constructor
  · intro h
    obtain ⟨more, rfl⟩ := (prefix_name hn).mp ((List.prefix_append _ _).trans h)
    rw [List.append_assoc, List.prefix_append_right_inj] at h
    cases more with
    | nil =>
      rw [List.nil_append, List.prefix_cons_inj] at h
      exact ⟨(List.append_nil n).symm, h⟩
    | cons c more =>
      obtain rfl := (List.cons_prefix_cons.mp h).1
      exact absurd (List.mem_append_right _ List.mem_cons_self) hn'
  · rintro ⟨rfl, h⟩
    rw [List.prefix_append_right_inj, List.prefix_cons_inj]
    exact h

/-- The text of a directory starts another text: the names are the same up to the last, which goes on. -/
theorem text_prefix_iff {names names' : List Bytes} (h : ∀ n ∈ names, IsName n) (h' : ∀ n ∈ names', IsName n)
    (hne : names ≠ []) : text names <+: text names' ↔
      ∃ suffix more, names' = names.dropLast ++ (names.getLastD [] ++ suffix) :: more := by
  induction names generalizing names' with
  | nil => exact absurd rfl hne
  | cons n names ih =>
    have hn := h n List.mem_cons_self
    have hnames : ∀ n ∈ names, IsName n := fun m hm => h m (List.mem_cons_of_mem _ hm)
    -- the last name may go on in the other text; a name before it ends at its separator there, too
    by_cases hlast : names = []
    · subst hlast
      rw [text_singleton]
      cases names' with
      | nil =>
        refine iff_of_false (fun hinitial => ?_) nofun
        exact hn.nonempty (List.prefix_nil.mp hinitial)
      | cons n' names' =>
        have hstart : n <+: text (n' :: names') ↔ n <+: n' := by
          by_cases hmore : names' = []
          · rw [hmore, text_singleton]
          · rw [text_cons hmore, prefix_name hn.noSeparator]
        rw [hstart]
        constructor
        · rintro ⟨suffix, rfl⟩
          exact ⟨suffix, names', rfl⟩
        · rintro ⟨suffix, more, heq⟩
          exact ⟨suffix, (List.cons.inj heq).1.symm⟩
    · obtain ⟨m, others, rfl⟩ := List.exists_cons_of_ne_nil hlast
      rw [text_cons hlast]
      cases names' with
      | nil =>
        refine iff_of_false (fun hinitial => ?_) nofun
        exact absurd (List.prefix_nil.mp hinitial) (by simp)
      | cons n' names' =>
        have hn' := h' n' List.mem_cons_self
        have hnames' : ∀ n ∈ names', IsName n := fun m hm => h' m (List.mem_cons_of_mem _ hm)
        by_cases hmore : names' = []
        · subst hmore
          rw [text_singleton]
          refine iff_of_false (fun hinitial => ?_) ?_
          · exact hn'.noSeparator (hinitial.subset (List.mem_append_right _ List.mem_cons_self))
          · rintro ⟨suffix, more, heq⟩
            have hnil := (List.cons.inj heq).2
            simp at hnil
        · rw [text_cons hmore, prefix_cons_iff hn.noSeparator hn'.noSeparator, ih hnames hnames' hlast]
          constructor
          · rintro ⟨rfl, suffix, more, rfl⟩
            exact ⟨suffix, more, rfl⟩
          · rintro ⟨suffix, more, heq⟩
            exact ⟨(List.cons.inj heq).1.symm, suffix, more, (List.cons.inj heq).2⟩

/-! ## A test by text -/

/-- A path that leads beside its directory, by where it walks. -/
theorem beside_walk {d : Dir} (hne : d.names ≠ []) (path : Bytes) : Beside d path ↔
    walk d.names path = d.names ∨ ∃ suffix more, suffix ≠ [] ∧
      walk d.names path = d.names.dropLast ++ (d.names.getLastD [] ++ suffix) :: more := by
  have hself : walk d.names path = d.names ↔ (relative path).2 = d.left path := by
    have happend := walk_eq_append d path []
    rw [List.append_nil, List.append_nil] at happend
    exact happend
  have hsplit : d.names.take (d.names.length - (relative path).1) ++ d.left path = d.names :=
    List.take_append_drop _ _
  rw [Beside, hself]
  refine or_congr_right ?_
  rcases Nat.eq_zero_or_pos (relative path).1 with hzero | hpos
  · -- the path does not leave the directory, so its last name is there as it is
    refine iff_of_false (fun h => absurd h.1 (by omega)) ?_
    rintro ⟨suffix, more, hsuffix, hwalk⟩
    rw [walk_relative, hzero, Nat.sub_zero, List.take_length] at hwalk
    rcases List.eq_nil_or_concat d.names with hnil | ⟨init, last, hnames⟩
    · exact hne hnil
    · rw [hnames, List.concat_eq_append, List.dropLast_concat, List.append_assoc] at hwalk
      have hlast := (List.cons.inj (List.append_cancel_left hwalk)).1
      simp at hlast
      exact hsuffix hlast
  · have hleft : d.left path ≠ [] := by
      have hlen : 0 < d.names.length := List.length_pos_iff.mpr hne
      rw [Dir.left, ← List.length_pos_iff, List.length_drop]
      omega
    have hinit : d.names.dropLast =
        d.names.take (d.names.length - (relative path).1) ++ (d.left path).dropLast := by
      conv_lhs => rw [← hsplit, List.dropLast_append_of_ne_nil hleft]
    rw [and_iff_right hpos, walk_relative, hinit]
    refine exists_congr fun suffix => exists_congr fun more => and_congr_right fun _ => ?_
    rw [List.append_assoc]
    exact (List.append_right_inj _).symm

/-- A test whether a path's end starts with the directory's text leaves only what is below the directory,
    exactly for the paths that do not lead beside it. -/
theorem guarded_iff {d : Dir} (hne : d.names ≠ []) (path : Bytes) :
    (d.path <+: (d.walk path).path → Confined d (d.walk path).path) ↔ ¬Beside d path := by
  have hguard : d.path <+: (d.walk path).path ↔
      ∃ suffix more, walk d.names path = d.names.dropLast ++ (d.names.getLastD [] ++ suffix) :: more := by
    rw [Dir.path, Dir.path, List.prefix_cons_inj]
    exact text_prefix_iff d.isName (isName_walk d.isName path) hne
  have hnames : ∀ rest, d.names.dropLast ++ d.names.getLastD [] :: rest = d.names ++ rest := by
    intro rest
    rcases List.eq_nil_or_concat d.names with hnil | ⟨init, last, hconcat⟩
    · exact absurd hnil hne
    · rw [hconcat]
      simp
  rw [hguard, confined_walk, beside_walk hne]
  constructor
  · rintro h (hself | ⟨suffix, more, hsuffix, hwalk⟩)
    · -- the directory itself passes the test and is not below itself
      have hstart : d.names = d.names.dropLast ++ (d.names.getLastD [] ++ []) :: [] := by
        rw [List.append_nil, hnames, List.append_nil]
      obtain ⟨rest, hrest, hwalk⟩ := h ⟨[], [], hself.trans hstart⟩
      rw [hself] at hwalk
      exact hrest (List.self_eq_append_right.mp hwalk)
    · obtain ⟨rest, -, hrest⟩ := h ⟨suffix, more, hwalk⟩
      rw [hwalk, ← hnames] at hrest
      have hlast := (List.cons.inj (List.append_cancel_left hrest)).1
      exact hsuffix (by simpa using hlast)
  · rintro hbeside ⟨suffix, more, hwalk⟩
    by_cases hsuffix : suffix = []
    · rw [hsuffix, List.append_nil, hnames] at hwalk
      refine ⟨more, fun hmore => hbeside (.inl ?_), hwalk⟩
      rw [hwalk, hmore, List.append_nil]
    · exact absurd (.inr ⟨suffix, more, hsuffix, hwalk⟩) hbeside

/-- A single name goes down. -/
theorem relative_of_isName {n : Bytes} (h : IsName n) : relative n = (0, [n]) := by
  rw [relative, List.splitOn_eq_singleton h.noSeparator, List.foldl_cons, List.foldl_nil, relativeStep,
    if_neg fun he => he.elim h.nonempty h.notDot, if_neg h.notDotdot]
  rfl

/-- A name stays below, -/
theorem stays_of_isName {d : Dir} {n : Bytes} (h : IsName n) : Stays d n := by
  refine ⟨[n], List.cons_ne_nil _ _, ?_⟩
  rw [Dir.left, relative_of_isName h, Nat.sub_zero, List.drop_length]
  rfl

/-- and is not beside. -/
theorem not_beside_of_isName {d : Dir} {n : Bytes} (h : IsName n) : ¬Beside d n := by
  rw [Beside, Dir.left, relative_of_isName h, Nat.sub_zero, List.drop_length]
  rintro (hself | ⟨hup, -⟩)
  · exact List.cons_ne_nil _ _ hself
  · exact Nat.lt_irrefl 0 hup

end Paths
