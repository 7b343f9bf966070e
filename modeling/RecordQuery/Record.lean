import RecordQuery.Error
import RecordQuery.Path

/-!
# Records and how their attributes are read

A query asks a `Record` for attributes, which costs nothing, and may have it invoke one of its
accessors. Accessors, getters and callbacks are supplied by the caller and act in a monad of the
caller's choice; what they do and the order in which they do it are part of the meaning of a query.
A `Subscriber` of the caller receives reports of the work in order; plain computation has no one to
tell and drops them.
-/

namespace RecordQuery

/-- A computation in `m` that may fail in what the caller supplies. -/
abbrev Eval (m : Type → Type) :=
  ExceptT EvalError m

/-- What a query can ask of a record. -/
structure Record (m : Type → Type) where
  attr : String → Option Json
  /-- What an accessor gives for a key. -/
  invoke : String → String → m (Except EvalError (Option Json))

/-- A test that the caller supplies for each callback. It is given the record and the attribute. -/
abbrev Callbacks (m : Type → Type) :=
  Callback → Record m → Option Json → m (Except String Bool)

/-- Types whose values can be queried as records. -/
class Queryable (m : Type → Type) (ρ : Type) where
  record : ρ → Record m

/-- A record without accessors. -/
def Record.ofAttributes {m : Type → Type} [Monad m] (attr : String → Option Json) : Record m where
  attr := attr
  invoke := fun method _ => pure (.error (.unknownMethod method))

def Record.ofJson {m : Type → Type} [Monad m] (json : Json) : Record m :=
  .ofAttributes (json.attr ·)

instance {m : Type → Type} : Queryable m (Record m) := ⟨id⟩

instance {m : Type → Type} [Monad m] : Queryable m Json := ⟨.ofJson⟩

instance {m : Type → Type} [Monad m] : Queryable m (Fields Json) :=
  ⟨fun fields => .ofAttributes fields.get?⟩

/-- How attributes are read. -/
inductive Getter (m : Type → Type) (ρ : Type) where
  /-- As the record's own attributes. -/
  | property
  /-- By a function of the caller. -/
  | function (read : ρ → String → m (Except String (Option Json)))
  /-- By an accessor of the record. -/
  | method (name : String)

namespace Getter

variable {m : Type → Type} {ρ : Type}

instance : Inhabited (Getter m ρ) := ⟨property⟩

def read [Monad m] [Queryable m ρ] (getter : Getter m ρ) (r : ρ) (key : String) :
    Eval m (Option Json) :=
  match getter with
  | property => pure ((Queryable.record (m := m) r).attr key)
  | function f => ExceptT.mk ((·.mapError (.getter key)) <$> f r key)
  | method name => ExceptT.mk ((Queryable.record r).invoke name key)

end Getter

/-- A record together with the way in which its attributes are read. -/
structure Subject (m : Type → Type) where
  record : Record m
  read : String → Eval m (Option Json)

namespace Subject

variable {m : Type → Type} {ρ : Type} [Monad m]

def of [Queryable m ρ] (getter : Getter m ρ) (r : ρ) : Subject m :=
  ⟨Queryable.record r, getter.read r⟩

/-- An element of a list is read by its own attributes. -/
def ofElement (json : Json) : Subject m :=
  .of .property json

/-- What stands at a path, or under a key that is not a path. -/
def attr (s : Subject m) (key : String) : Option Path → Eval m (Option Json)
  -- a path is followed in the record, and the getter is not asked
  | some path => pure (path.resolve s.record.attr)
  | none => s.read key

end Subject

/-! ## Reports -/

inductive Diagnostic where
  /-- A document was read as a query. -/
  | compiled (keys groups : Nat)
  /-- An index was built. -/
  | indexed (key : String) (records distinct : Nat)
  /-- Indexes answered some conditions of a query. -/
  | narrowed (answered candidates : Nat)
deriving DecidableEq, Repr

/-- Monads in which diagnostics are received. -/
class Subscriber (m : Type → Type) where
  receive : Diagnostic → m Unit

export Subscriber (receive)

instance : Subscriber Id := ⟨fun _ => ()⟩

instance {m : Type → Type} {ε : Type} [Monad m] [Subscriber m] : Subscriber (ExceptT ε m) :=
  ⟨fun d => ExceptT.lift (receive d)⟩

end RecordQuery
