import RecordQuery.Run

/-!
# Summaries

One line on how attributes are read, what records are tested by, and testers. What a caller supplied
shows as two dots. A diagnostic shows as a message of some level.
-/

namespace RecordQuery

variable {m : Type → Type} {ρ : Type}

def Callback.summary (_ : Callback) : String :=
  "Callback(..)"

def Getter.summary : Getter m ρ → String
  | property => "Property"
  | function _ => "Func(..)"
  | method name => "Method(" ++ Text.quoted name ++ ")"

def Query.summary (q : Query) : String :=
  "CompiledQuery \x7b groups: [" ++ ", ".intercalate (q.groups.map (·.kind.name)) ++ "] \x7d"

def Criteria.summary : Criteria m ρ → String
  | document d => "Query(Document(" ++ d.text ++ "))"
  | query q => "Compiled(" ++ q.summary ++ ")"
  | predicate _ => "Predicate(..)"

def Tester.summary (t : Tester m ρ) : String :=
  "Tester \x7b query: " ++ t.query.summary ++ ", getter: " ++ t.getter.summary ++ " \x7d"

/-! ## Reports -/

namespace Diagnostic

inductive Level where
  | debug
  | trace
deriving DecidableEq, Repr

def level : Diagnostic → Level
  | compiled _ _ | indexed _ _ _ => .debug
  | narrowed _ _ => .trace

def message : Diagnostic → String
  | compiled _ _ => "compiled query document"
  | indexed _ _ _ => "built equality index"
  | narrowed _ _ => "equality index narrowed candidates"

end Diagnostic

end RecordQuery
