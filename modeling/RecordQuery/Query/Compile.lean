import RecordQuery.Query.Clause

/-!
# From documents to queries

`Query.ofDocument?` reads a document as a query or says what is wrong with it. A key of the document
is a combinator, with documents to join, or names an attribute, with a clause for it. A combinator
in a clause joins further clauses for the same attribute. Attributes beside combinators count as one
more member of `$and`.
-/

namespace RecordQuery

/-- What a member of a list adds to the group: under `$or` several tests of one member stay together
as an `$and` group. -/
def Combinator.membership (kind : Combinator) (tests : List Node) : List Node :=
  if kind = .or ∧ 2 ≤ tests.length then [.group (.ofNodes .and tests)] else tests

def Node.ofTests (kind : Combinator) (tests : List Node) : Node :=
  .group (.ofNodes kind (arrange tests))

/-- One test stands for itself; several have to hold together. -/
def Node.ofClause : List Node → Node
  | [test] => test
  | tests => .ofTests .and tests

/-- A combinator without anything to join. -/
def Combinator.missingMembers (kind : Combinator) (v : Value) : CompileError :=
  if kind.expectsArray then .expectedArray kind else .expectedDocument v

/-- The combinators among the keys of a document. -/
def Document.combinators (d : Document) : List Combinator :=
  Combinator.all.filter (d.contains ·.name)

/-- Whether a combinator that needs a list has something else in the document. -/
def Combinator.lacksArray (kind : Combinator) (d : Document) : Bool :=
  kind.expectsArray && (d.get? kind.name).any (!·.isArray)

def namesAttribute (key : String) : Bool :=
  (Combinator.ofName? key).isNone

mutual

/-- The node of a key of a document and what stands under it. -/
def compilePair (key : String) : Value → Except CompileError Node
  | .array size item =>
    match Combinator.ofName? key with
    | some kind => do
      let members ← (List.finRange size).mapM fun i => compileMember (item i)
      return .ofTests kind (members.flatMap kind.membership)
    | none => return .condition (← Condition.ofLiteral? key (.array size item))
  | .object keys nodup value => do
    let d : Document := ⟨keys, nodup, value⟩
    let boost ← d.boost?
    -- `$boost` is no part of what is asked
    let places := (List.finRange keys.length).filter fun i => keys.get i ≠ boostKey
    let node ← match Combinator.ofName? key with
      | some kind => Node.ofTests kind <$> places.mapM fun i => compilePair (keys.get i) (value i)
      | none => do
        if ← isOperatorClause (places.map fun i => keys.get i) then
          let verbs := places.filter fun i => keys.get i ≠ optionsKey
          Node.ofClause <$> verbs.mapM fun i => do
            match ← Verb.ofName? (keys.get i) with
            | .join kind =>
              -- each item of a list is a clause, and anything else is one clause
              if (value i).isArray then Node.ofTests kind <$> compileClauses key (value i)
              else (Node.ofTests kind [·]) <$> compilePair key (value i)
            | .test op =>
              if !op.accepts (value i) then .error (.invalidOperand op (value i))
              else match op with
                -- the same clause of the same key, read from the record itself
                | .computed => (·.readDirectly key) <$> compilePair key (value i)
                | .elementMatch =>
                  (.condition <| .ofKey key op <| .query ·) <$> compileQuery (value i)
                | op => .condition <$> Condition.ofOperator? key op (value i) (d.get? optionsKey)
        else .condition <$> Condition.ofLiteral? key (.ofDocument (d.erase boostKey))
    return boost.elim node node.withBoost
  | v =>
    match Combinator.ofName? key with
    | some kind => .error (kind.missingMembers v)
    | none => .condition <$> Condition.ofLiteral? key v

/-- The nodes of a list of clauses for one attribute. -/
def compileClauses (key : String) : Value → Except CompileError (List Node)
  | .array size item => (List.finRange size).mapM fun i => compilePair key (item i)
  | _ => .ok []

/-- The nodes of a document that is a member of a list. -/
def compileMember : Value → Except CompileError (List Node)
  | .object keys _ value =>
    Node.arrange <$> (List.finRange keys.length).mapM fun i => compilePair (keys.get i) (value i)
  | v => .error (.expectedDocument v)

/-- The nodes that what stands under a combinator adds to its group. -/
def compileMembers (kind : Combinator) : Value → Except CompileError (List Node)
  | .array size item =>
    (·.flatMap kind.membership) <$> (List.finRange size).mapM fun i => compileMember (item i)
  | .object keys _ value =>
    (List.finRange keys.length).mapM fun i => compilePair (keys.get i) (value i)
  | v => .error (.expectedDocument v)

/-- The query that a whole document states. -/
def compileQuery : Value → Except CompileError Query
  | .object keys nodup value =>
    let d : Document := ⟨keys, nodup, value⟩
    -- a missing list is found before anything is compiled
    match d.combinators.find? (·.lacksArray d) with
    | some kind => .error (.expectedArray kind)
    | none => do
      let attributes := (List.finRange keys.length).filter fun i => namesAttribute (keys.get i)
      -- attributes alone are enough for an `$and` group
      let kinds := Combinator.all.filter fun kind =>
        d.combinators.contains kind || kind = .and && !attributes.isEmpty
      let groups ← kinds.mapM fun kind => do
        let members ← match keys.finIdxOf? kind.name with
          | some i => compileMembers kind (value i)
          | none => pure []
        let further ←
          if kind = .and then attributes.mapM fun i => compilePair (keys.get i) (value i)
          else pure []
        return Group.ofNodes kind (Node.arrange (members ++ Node.arrange further))
      return ⟨groups⟩
  | v => .error (.expectedDocument v)

end

/-- Reads a document as a query. -/
def Query.ofDocument? (d : Document) : Except CompileError Query :=
  compileQuery (.ofDocument d)

end RecordQuery
