import RagService.Lib.PyText

/-!
# Python names: binding a call's arguments, importing a name

`bindArgs` is how CPython binds a call `f(a₁, …, aₘ, k₁=v₁, …)` to a function whose parameters
are plain (no `*args`, no `**kwargs`): the positional arguments fill the first parameters, each
keyword must name a parameter and one not bound yet, then too many positional arguments and a
parameter left without a value and without a default are errors, in that order. It returns the
names bound; the values play no part in whether the call binds.

`call` runs a function's body on the arguments a call binds. `importFrom`: `from module import
name` finds `name` among the names `module` defines, or raises `ImportError`.
-/

set_option autoImplicit false

namespace PyCall

open PyText

/-- A parameter: its name, and whether it has a default value. -/
structure Param where
  name : Str
  hasDefault : Bool
  deriving DecidableEq, Repr

/-- A `TypeError` with its message. -/
def typeError (message : Str) : Exc := ⟨"TypeError".toList, message⟩

/-- `f() got an unexpected keyword argument 'k'`. -/
def unexpectedKeyword (fname k : Str) : Exc :=
  typeError (fname ++ "() got an unexpected keyword argument '".toList ++ k ++ "'".toList)

/-- Bind one keyword to the names bound so far. -/
def bindKeyword (fname : Str) (params : List Param) (bound : List Str) (k : Str) :
    Except Exc (List Str) :=
  if k ∉ params.map (·.name) then .error (unexpectedKeyword fname k)
  else if k ∈ bound then
    .error (typeError (fname ++ "() got multiple values for argument '".toList ++ k ++
      "'".toList))
  else .ok (bound ++ [k])

/-- The names a call with `positional` positional arguments and the keywords `keywords` binds. -/
def bindArgs (fname : Str) (params : List Param) (positional : Nat) (keywords : List Str) :
    Except Exc (List Str) := do
  let bound ← keywords.foldlM (bindKeyword fname params) ((params.take positional).map (·.name))
  if params.length < positional then
    throw (typeError (fname ++ "() takes ".toList ++ Nat.toDigits 10 params.length ++
      " positional arguments but ".toList ++ Nat.toDigits 10 positional ++ " were given".toList))
  match params.find? fun p => !p.hasDefault && !bound.contains p.name with
  | some p =>
    throw (typeError (fname ++ "() missing 1 required positional argument: '".toList ++
      p.name ++ "'".toList))
  | none => pure bound

/-- A first keyword that names no parameter fails the call, whatever follows. -/
theorem bindArgs_unexpected (fname : Str) (params : List Param) (positional : Nat) {k : Str}
    (keywords : List Str) (hk : k ∉ params.map (·.name)) :
    bindArgs fname params positional (k :: keywords) = .error (unexpectedKeyword fname k) := by
  have hfirst : bindKeyword fname params ((params.take positional).map (·.name)) k =
      .error (unexpectedKeyword fname k) := by
    simp only [bindKeyword, hk, not_false_eq_true, if_true]
  simp only [bindArgs, List.foldlM_cons, hfirst]
  rfl

/-- A call `f(*args, **kwargs)`: the arguments are bound, then the body runs on the value bound
to each parameter name. -/
def call {α β : Type} (fname : Str) (params : List Param) (args : List α)
    (kwargs : List (Str × α)) (body : (Str → Option α) → Except Exc β) : Except Exc β := do
  let _ ← bindArgs fname params args.length (kwargs.map (·.1))
  body fun name =>
    match ((params.map (·.name)).zip args).find? (·.1 = name) with
    | some (_, v) => some v
    | none => (kwargs.find? (·.1 = name)).map (·.2)

/-- A call whose arguments do not bind raises the binding's error; the body never runs. -/
theorem call_of_bindArgs_error {α β : Type} {fname : Str} {params : List Param} {args : List α}
    {kwargs : List (Str × α)} (body : (Str → Option α) → Except Exc β) {e : Exc}
    (h : bindArgs fname params args.length (kwargs.map (·.1)) = .error e) :
    call fname params args kwargs body = .error e := by
  simp only [call, h]
  rfl

/-- `from module import name`. -/
def importFrom (module : Str) (defined : List Str) (name : Str) : Except Exc Unit :=
  if name ∈ defined then .ok ()
  else .error ⟨"ImportError".toList,
    "cannot import name '".toList ++ name ++ "' from '".toList ++ module ++ "'".toList⟩

end PyCall
