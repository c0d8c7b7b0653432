/-
  Which method a call of the centre reaches (`endpoints/kgc/kgc.go`).

  THE PROGRAM.  `KGCImpl` embeds a curve, and a method it does not declare is that of the curve.  It does declare
  `Params`, and the body of that is `k.Params()`, the call of itself.

  THE SPECIFICATION.  The two commands of the centre, to make a master key and a user's partial key, finish
  (`CommandsFinish`).

  WHERE IT FAILS.  The parameters of the curve are behind a call that never comes back, and both commands begin
  with it (`commands_never_finish`).

  THE CRUX.  To say that a command does not finish, its calls must be seen and not only its result.  So a command
  is a program over the methods of its receiver (`OpenNHP.Lib.Calls`), and what a method does is a table of
  bodies, which may call methods again: the declared ones or the promoted ones.

  With `Params` of the curve the commands are those of `OpenNHP.KGC.Keys` (`generateKGCUserPartialKey_promoted`),
  so this one method is all that is wrong with them.
-/
import OpenNHP.KGC.Encodings
import OpenNHP.Lib.Calls

namespace OpenNHP.KGC.Dispatch

open BigEndian Calls

/-! ## The methods -/

/-- What the commands call on a `KGCImpl`. -/
inductive Method
  | params
  | scalarBaseMult (k : Bytes)
  | add (p q : Nat × Nat)
  deriving DecidableEq

/-- What each method returns. -/
def Method.Result : Method → Type
  | params => CurveParams
  | scalarBaseMult _ => Except Failure (Nat × Nat)
  | add _ _ => Except Failure (Nat × Nat)

/-- A program that calls methods and may fail. -/
abbrev Program (α : Type) : Type := ExceptT Failure (Prog Method.Result) α

/-- The methods that `KGCImpl` declares, with their bodies. -/
def declared : (m : Method) → Option (Prog Method.Result m.Result)
  | .params => some (Prog.invoke Method.params)
  | .scalarBaseMult _ => none
  | .add _ _ => none

/-- The methods of the embedded curve. -/
def promoted (c : Curve) : (m : Method) → Prog Method.Result m.Result
  | .params => pure c.params
  | .scalarBaseMult k => pure (c.scalarBaseMult k)
  | .add p q => pure (c.add p q)

/-- A declared method goes before a promoted one of its name. -/
def body (c : Curve) (m : Method) : Prog Method.Result m.Result :=
  match declared m with
  | some own => own
  | none => promoted c m

/-! ## The commands -/

/-- The calls: `Params`, -/
def params : Program CurveParams := ExceptT.lift (Prog.invoke Method.params)

/-- `ScalarBaseMult`, -/
def scalarBaseMult (k : Bytes) : Program (Nat × Nat) := ExceptT.mk (Prog.invoke (Method.scalarBaseMult k))

/-- and `Add`. -/
def add (p q : Nat × Nat) : Program (Nat × Nat) := ExceptT.mk (Prog.invoke (Method.add p q))

/-- A computation without calls of methods. -/
def direct {α : Type} (x : Except Failure α) : Program α := ExceptT.mk (pure x)

/-- What `rand.Int` returns for each bound it may be given. -/
abbrev RandInt : Type := (N : Nat) → Except Failure (Fin N)

/-- `GenerateMasterKey`, with what the reading and the writing of the file return. -/
def generateMasterKey (rand : RandInt) (readFile : Except Failure Bytes) (writeFile : Except Failure Unit) :
    Program (MasterKey × Bytes) := do
  let N := (← params).N
  let ms ← direct (generateRandomNumber (rand N))
  let ppub ← scalarBaseMult (bytes ms)
  let content ← direct readFile
  let content := ConfigFile.updateValueWithKey content ConfigFile.masterPrivateName
    (Base64.encodeToString (bytes ms))
  let pubKeyBytes := bytes ppub.1 ++ bytes ppub.2
  let content := ConfigFile.updateValueWithKey content ConfigFile.masterPublicName
    (Base64.encodeToString pubKeyBytes)
  direct writeFile
  return ({ ms := ms, ppubX := ppub.1, ppubY := ppub.2 }, content)

/-- `GenerateKGCUserPartialKey`, with each of its calls. -/
def generateKGCUserPartialKey (h : Bytes → Bytes) (masterKey : MasterKey) (userId : Bytes)
    (userPartialPub : Nat × Nat) (rand : RandInt) : Program KGCUserPartialKey := do
  let info := UInt8.ofNat (userId.length / 256) :: UInt8.ofNat userId.length :: userId
  let info := info ++ bytes (← params).A
  let info := info ++ bytes (← params).B
  let info := info ++ bytes (← params).Gx
  let info := info ++ bytes (← params).Gy
  let info := info ++ bytes masterKey.ppubX ++ bytes masterKey.ppubY
  let infoHash := h info
  let N := (← params).N
  let w ← direct (generateRandomNumber (rand N))
  let wxy ← scalarBaseMult (bytes w)
  let declaredUserPub ← add wxy userPartialPub
  let lamdaHash := h (bytes declaredUserPub.1 ++ bytes declaredUserPub.2 ++ infoHash)
  let N := (← params).N
  let lamda := getBE lamdaHash % N
  let N := (← params).N
  let t := (w + lamda * masterKey.ms) % N
  return { id := userId, t := t, wx := declaredUserPub.1, wy := declaredUserPub.2 }

/-- Over a table of methods, every method called on a `KGCImpl` answers, and both commands finish. -/
structure CommandsFinish (table : (m : Method) → Prog Method.Result m.Result) : Prop where
  methods : ∀ m, Answers table m
  masterKey : ∀ rand readFile writeFile, Finishes table (generateMasterKey rand readFile writeFile).run
  partialKey : ∀ h masterKey userId userPartialPub rand,
    Finishes table (generateKGCUserPartialKey h masterKey userId userPartialPub rand).run

/-- Commands whose calls are all answered finish. -/
theorem CommandsFinish.of_methods {table : (m : Method) → Prog Method.Result m.Result}
    (hall : ∀ m, Answers table m) : CommandsFinish table where
  methods := hall
  masterKey _ _ _ := finishes_of_answers hall _
  partialKey _ _ _ _ _ := finishes_of_answers hall _

/-! ## Over the methods of the curve -/

/-- Without a declared method in the way, the commands finish. -/
theorem commandsFinish_promoted (c : Curve) : CommandsFinish (promoted c) := by
  apply CommandsFinish.of_methods
  intro m
  cases m with
  | params => exact ⟨1, c.params, rfl⟩
  | scalarBaseMult k => exact ⟨1, c.scalarBaseMult k, rfl⟩
  | add p q => exact ⟨1, c.add p q, rfl⟩

/-- What a program of the commands returns over the methods of the curve. -/
def onCurve (c : Curve) {α : Type} (p : Program α) : Option (Except Failure α) :=
  p.run.eval (answer (promoted c) 1)

section OnCurve

variable (c : Curve) {α β : Type}

/-- Where the first of two programs returns `x`, the second goes on from there. -/
theorem onCurve_bind {p : Program α} {x : Except Failure α} (hp : onCurve c p = some x) {f : α → Program β}
    {g : α → Except Failure β} (hf : ∀ a, onCurve c (f a) = some (g a)) :
    onCurve c (p >>= f) = some (x >>= g) := by
  show Prog.eval _ (p.run >>= ExceptT.bindCont f) = _
  rw [Prog.eval_bind]
  show (onCurve c p).bind _ = _
  rw [hp]
  cases x with
  | error e => rfl
  | ok a => exact hf a

/-- On a curve the calls are its methods: the parameters, -/
theorem onCurve_params_bind (f : CurveParams → Program β) :
    onCurve c (params >>= f) = onCurve c (f c.params) := rfl

/-- the multiples of the base point, -/
theorem onCurve_scalarBaseMult (k : Bytes) : onCurve c (scalarBaseMult k) = some (c.scalarBaseMult k) := rfl

/-- and the addition; -/
theorem onCurve_add (p q : Nat × Nat) : onCurve c (add p q) = some (c.add p q) := rfl

/-- what is no call stays as it is. -/
theorem onCurve_direct (x : Except Failure α) : onCurve c (direct x) = some x := rfl

end OnCurve

/-- With the parameters of the curve, the centre draws the master key of `newMasterKey` and files it. -/
theorem generateMasterKey_promoted (c : Curve) (rand : RandInt) (readFile : Except Failure Bytes)
    (writeFile : Except Failure Unit) :
    onCurve c (generateMasterKey rand readFile writeFile) =
      some (KGC.generateMasterKey c (rand c.params.N) readFile writeFile) := by
  rw [generateMasterKey, onCurve_params_bind, KGC.generateMasterKey, newMasterKey]
  simp only [bind_assoc]
  refine onCurve_bind c (onCurve_direct c _) fun ms => ?_
  refine onCurve_bind c (onCurve_scalarBaseMult c _) fun ppub => ?_
  refine onCurve_bind c (onCurve_direct c _) fun content => ?_
  exact onCurve_bind c (onCurve_direct c _) fun _ => rfl

/-- With the parameters of the curve, the centre makes the partial key of `KGCImpl`. -/
theorem generateKGCUserPartialKey_promoted (k : KGCImpl) (userId : Bytes) (userPartialPub : Nat × Nat)
    (rand : RandInt) :
    onCurve k.curve (generateKGCUserPartialKey k.h k.masterKey userId userPartialPub rand) =
      some (k.generateKGCUserPartialKey userId userPartialPub (rand k.curve.params.N)) := by
  rw [generateKGCUserPartialKey, KGCImpl.generateKGCUserPartialKey]
  simp only [onCurve_params_bind]
  refine onCurve_bind k.curve (onCurve_direct _ _) fun w => ?_
  refine onCurve_bind k.curve (onCurve_scalarBaseMult _ _) fun wxy => ?_
  refine onCurve_bind k.curve (onCurve_add _ _ _) fun declaredUserPub => ?_
  simp only [onCurve_params_bind]
  rfl

/-! ## With the declared accessor -/

/-- The accessor begins by calling itself. -/
theorem params_first (c : Curve) : ∀ m, m = Method.params → ∃ m', m' = Method.params ∧
    (body c m).first? = some m' := by
  rintro m rfl
  exact ⟨_, rfl, rfl⟩

/-- The first thing that either command does is to call `Params`: -/
theorem generateMasterKey_first (rand : RandInt) (readFile : Except Failure Bytes)
    (writeFile : Except Failure Unit) :
    (generateMasterKey rand readFile writeFile).run.first? = some Method.params := rfl

/-- the second one, too. -/
theorem generateKGCUserPartialKey_first (h : Bytes → Bytes) (masterKey : MasterKey) (userId : Bytes)
    (userPartialPub : Nat × Nat) (rand : RandInt) :
    (generateKGCUserPartialKey h masterKey userId userPartialPub rand).run.first? = some Method.params := rfl

/-- A program that begins with the accessor never finishes. -/
theorem not_finishes_of_params (c : Curve) {α : Type} {p : Prog Method.Result α}
    (hfirst : p.first? = some Method.params) : ¬ Finishes (body c) p :=
  not_finishes (params_first c) rfl hfirst

/-- The methods that reach the curve. -/
theorem answers_iff (c : Curve) (m : Method) : Answers (body c) m ↔ m ≠ .params := by
  constructor
  · rintro ⟨depth, r, hr⟩ rfl
    rw [answer_eq_none (params_first c) depth rfl] at hr
    cases hr
  · intro hm
    cases m with
    | params => exact absurd rfl hm
    | scalarBaseMult k => exact ⟨1, c.scalarBaseMult k, rfl⟩
    | add p q => exact ⟨1, c.add p q, rfl⟩

/-- Neither command of the centre finishes, whatever the curve, the configuration and the user are: of the
    methods they call, the accessor alone does not reach the curve, and it is the first. -/
theorem commands_never_finish (c : Curve) :
    (∀ m, Answers (body c) m ↔ m ≠ .params) ∧
      (∀ rand readFile writeFile, ¬ Finishes (body c) (generateMasterKey rand readFile writeFile).run) ∧
      ∀ h masterKey userId userPartialPub rand,
        ¬ Finishes (body c) (generateKGCUserPartialKey h masterKey userId userPartialPub rand).run := by
  refine ⟨answers_iff c, fun rand readFile writeFile => ?_, fun h masterKey userId userPartialPub rand => ?_⟩
  · exact not_finishes_of_params c (generateMasterKey_first rand readFile writeFile)
  · exact not_finishes_of_params c (generateKGCUserPartialKey_first h masterKey userId userPartialPub rand)

/-- A reader that draws seven. -/
def drawSeven : RandInt := fun N => if h : 7 < N then .ok ⟨7, h⟩ else .error .panic

/-- The set-up on a small curve, over an empty file. -/
theorem setUp_never_finishes :
    ¬ Finishes (body smallCurve) (generateMasterKey drawSeven (.ok []) (.ok ())).run ∧
      ¬ CommandsFinish (body smallCurve) := by
  have hsetUp := not_finishes_of_params smallCurve (generateMasterKey_first drawSeven (.ok []) (.ok ()))
  exact ⟨hsetUp, fun hfinish => hsetUp (hfinish.masterKey drawSeven (.ok []) (.ok ()))⟩

end OpenNHP.KGC.Dispatch
