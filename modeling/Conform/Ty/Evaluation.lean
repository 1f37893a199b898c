import Conform.Ty.Basic

/-!
# Applying types

What a type makes of a value. Defaults may draw on generators, so that evaluation runs against a
supply; a failing evaluation keeps what it drew.

* `Eval`, `Eval.recover` — evaluations that may fail, and going on after a failure.
* `Ty.apply` — coerces a value. Nominal types are lenient here: a primitive accepts everything.
* `Ty.tryApply` — coerces a value and checks primitives; a failure keeps the input.
* `Ty.isValid` — whether a value is accepted; the default of the type itself is not drawn.
-/

namespace Conform

/-- An evaluation that draws on a supply and may fail. -/
abbrev Eval (ε α : Type) : Type :=
  ExceptT ε (StateM Supply) α

/-- Goes on after a failure, with what was drawn until then. -/
def Eval.recover {ε δ α : Type} (e : Eval ε α) (handle : ε → Eval δ α) : Eval δ α :=
  ExceptT.mk do
    match ← e.run with
    | .ok a => pure (.ok a)
    | .error fault => (handle fault).run

/-- An input that was refused, and why. -/
structure Failure where
  input : Value
  error : CoercionError

/-- The evaluation with its failure reported for the given input. -/
def Eval.blame {α : Type} (input : Value) (e : Eval CoercionError α) : Eval Failure α :=
  e.recover fun error => throw ⟨input, error⟩

/-- The value of a success, and the refused input of a failure. -/
def Failure.inputOf : Except Failure Value → Value
  | .ok v => v
  | .error f => f.input

/-! ## Steps -/

/-- The value, if the rule accepts it. -/
def Rule.check (rule : Rule) (v : Value) : Except CoercionError Value :=
  match rule.evaluate v with
  | .ok () => .ok v
  | .error failure => .error (.constraint v failure)

/-- What an enumeration makes of its input: the first value with that alias, unless the input is a
value of the enumeration itself or no alias. -/
def aliased (mapping : List (Value × Value)) (v : Value) : Value :=
  if mapping.any fun p => p.1 == v then v
  else match mapping.find? fun p => p.2 == v with
    | some p => p.1
    | none => v

/-- Evaluates items in order; undefined results are left out. -/
def collect {ε : Type} (f : Value → Eval ε Value) : List Value → Eval ε (List Value)
  | [] => pure []
  | v :: rest => do
    let w ← f v
    let ws ← collect f rest
    pure (if w.isUndefined then ws else w :: ws)

/-- What became of the key and the value of an entry. -/
structure Attempt where
  key : Value
  value : Value
  newKey : Except Failure Value
  newValue : Except Failure Value

namespace Attempt

/-- The fault of a part, if it failed. -/
def faultOf (part : EntryPart) : Except Failure Value → List (EntryPart × CoercionError)
  | .ok _ => []
  | .error f => [(part, f.error)]

/-- The faults of an entry: that of the key before that of the value. -/
def faults (a : Attempt) : List (EntryPart × CoercionError) :=
  faultOf (.key a.key) a.newKey ++ faultOf (.value a.key a.value) a.newValue

/-- The new entry, if neither part failed. -/
def entry? (a : Attempt) : Option (Value × Value) :=
  match a.newKey, a.newValue with
  | .ok k, .ok v => some (k, v)
  | _, _ => none

/-- The hash of the new entries, or all faults. -/
def assemble (attempts : List Attempt) : Except CoercionError Value :=
  match attempts.flatMap faults with
  | [] => .ok (.hash ((attempts.filterMap entry?).foldl (fun t e => Table.insert e.1 e.2 t) []))
  | fs => .error (.entries fs)

end Attempt

/-- Attempts all entries in order. -/
def attemptEntries (key value : Value → Eval Failure Value) :
    List (Value × Value) → StateM Supply (List Attempt)
  | [] => pure []
  | (k, v) :: rest => do
    let newKey ← (key k).run
    let newValue ← (value v).run
    let attempts ← attemptEntries key value rest
    pure (⟨k, v, newKey, newValue⟩ :: attempts)

/-- The fields that members of a schema see, unless a key is unknown and the policy refuses that. -/
def openFields (policy : Policy) (transform : KeyTransform) (names : List Value)
    (entries : List (Value × Value)) : Except CoercionError (List (Value × Value)) :=
  let fields := transform.fields entries
  let unknown := unknownKeys names fields
  if policy.isClosed && !unknown.isEmpty then .error (.unknownKeys unknown) else .ok fields

/-- The value of a member whose key is missing; an undefined one is left out. -/
def fill (policy : Policy) (name : Value) (t : Ty) : Eval CoercionError Value :=
  match policy.appliesDefaults, t.default?, t.isMaybe with
  | true, some d, _ => d.evaluate
  | true, none, true => pure .nil
  | _, _, _ => if policy.isClosed then throw (.missingKey name) else pure .undefined

namespace Ty

/-! ## Evaluation -/

mutual

/-- Coerces a value. -/
def apply : Ty → Value → Eval CoercionError Value
  | .definition _ _, v => pure v
  | .decorated (.constructor fns) inner _, v => do
    let w ← Coercion.runAll fns v
    if w.isUndefined then pure w else inner.apply w
  | .decorated (.constrained rule) inner _, v => do
    let w ← inner.apply v
    rule.check w
  | .decorated (.enumeration mapping) inner _, v => inner.apply (aliased mapping v)
  | .decorated .safe inner _, v => (inner.tryApply v).recover fun _ => pure v
  | .decorated (.default d) inner _, v =>
    if v.isUndefined then d.evaluate
    else do
      let w ← inner.apply v
      if w.isAbsent then d.evaluate else pure w
  | .decorated .maybe inner _, v => if v.isAbsent then pure .nil else inner.apply v
  | .sum left right _, v => (left.tryApply v).recover fun _ => right.apply v
  | .schema policy transform members _, v =>
    match v with
    | .hash entries => do
      let fields ← openFields policy transform (members.map (·.1)) entries
      let output ← resolve true policy fields members []
      pure (.hash output)
    | v => throw (.typeMismatch v .hash)
  | .array item _, v =>
    match v with
    | .array items => do
      let ws ← collect (fun x => item.apply x) items
      pure (.array ws)
    | v => pure v
  | .map key value _, v =>
    match v with
    | .hash entries => do
      let attempts ← attemptEntries (fun x => key.tryApply x) (fun x => value.tryApply x) entries
      Attempt.assemble attempts
    | v => throw (.typeMismatch v .hash)

/-- Coerces a value and checks that primitives accept it. -/
def tryApply : Ty → Value → Eval Failure Value
  | .definition p _, v => if p.admits v then pure v else throw ⟨v, .typeMismatch v p⟩
  | .decorated (.constructor fns) inner _, v =>
    match Coercion.runAll fns v with
    | .error e => throw ⟨v, e⟩
    | .ok w => if w.isUndefined then pure w else inner.tryApply w
  | .decorated (.constrained rule) inner _, v =>
    Eval.blame v do
      let w ← inner.apply v
      rule.check w
  | .decorated (.enumeration mapping) inner _, v => inner.tryApply (aliased mapping v)
  | .decorated .safe inner _, v => inner.tryApply v
  | .decorated (.default d) inner _, v =>
    if v.isUndefined then d.evaluate
    else do
      let w ← inner.tryApply v
      if w.isAbsent then d.evaluate else pure w
  | .decorated .maybe inner _, v => if v.isAbsent then pure .nil else inner.tryApply v
  | .sum left right _, v => (left.tryApply v).recover fun _ => right.tryApply v
  | .schema policy transform members _, v =>
    match v with
    | .hash entries => Eval.blame v do
      let fields ← openFields policy transform (members.map (·.1)) entries
      let output ← resolve false policy fields members []
      pure (.hash output)
    | v => throw ⟨v, .typeMismatch v .hash⟩
  | .array item _, v =>
    match v with
    | .array items => do
      let ws ← (collect (fun x => item.tryApply x) items).recover fun f => throw ⟨v, f.error⟩
      pure (.array ws)
    | v => throw ⟨v, .typeMismatch v .array⟩
  | .map key value _, v =>
    match v with
    | .hash entries => Eval.blame v do
      let attempts ← attemptEntries (fun x => key.tryApply x) (fun x => value.tryApply x) entries
      Attempt.assemble attempts
    | v => throw ⟨v, .typeMismatch v .hash⟩

/-- The members of a schema one after the other: each adds the value of its field, or what its
policy gives for a missing one, to the output. Members are applied when `raising`, and tried
otherwise. -/
def resolve (raising : Bool) (policy : Policy) (fields : List (Value × Value)) :
    List (Value × Ty) → List (Value × Value) → Eval CoercionError (List (Value × Value))
  | [], output => pure output
  | (name, t) :: rest, output => do
    let w ← match Table.get? name fields with
      | some raw =>
        if policy.isLenient then (t.tryApply raw).recover fun _ => pure raw
        else if raising then (t.apply raw).recover fun e => throw (.member name e)
        else (t.tryApply raw).recover fun f => throw (.member name f.error)
      | none => fill policy name t
    resolve raising policy fields rest
      (if w.isUndefined then output else Table.insert name w output)

end

-- the equations are derived here, once for all proofs that open these functions
attribute [grind =] apply tryApply resolve

/-- Whether a value is accepted. -/
def isValid : Ty → Value → StateM Supply Bool
  | .decorated (.default _) inner _, v => if v.isUndefined then pure true else inner.isValid v
  | t, v => do
    match ← (t.tryApply v).run with
    | .ok _ => pure true
    | .error _ => pure false

end Ty

end Conform
