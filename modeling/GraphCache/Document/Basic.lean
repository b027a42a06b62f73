/-! GraphQL documents. Operations and fragments are kept as they are written;
of a type system definition only the directive lists matter here, because it
requests nothing and can only make a document ineligible. -/
namespace GraphCache

/-- A value as it is written. Numbers keep their digits, since an argument at
the top level is used as text. -/
inductive Literal where
  | parameter (name : String)
  | int (digits : String)
  | float (digits : String)
  | string (text : String)
  | boolean (value : Bool)
  | null
  | enum (name : String)
  | list (items : List Literal)
  | object (fields : List (String × Literal))
deriving Repr

/-- One argument of a field or a directive. -/
structure Argument where
  name : String
  value : Literal
deriving Repr

structure Directive where
  name : String
  arguments : List Argument
deriving Repr

/-- A field without what is selected below it. -/
structure FieldHead where
  aliasName : Option String
  name : String
  arguments : List Argument
  directives : List Directive
deriving Repr

/-- The name under which an answer carries the field. -/
def FieldHead.responseKey (head : FieldHead) : String := head.aliasName.getD head.name

/-- One entry of a selection set. A field with a selection set of its own is a
relation, one without is a leaf. -/
inductive Selection where
  | leaf (head : FieldHead)
  | relation (head : FieldHead) (selections : List Selection)
  | spread (fragment : String) (directives : List Directive)
  | inlineFragment (typeCondition : Option String) (directives : List Directive)
      (selections : List Selection)
deriving Repr

inductive OperationKind where
  | query
  | mutation
  | subscription
deriving DecidableEq, Repr

/-- The declaration of a variable; its default is no part of what is requested. -/
structure Parameter where
  name : String
  directives : List Directive
deriving Repr

structure Operation where
  kind : OperationKind
  name : Option String
  parameters : List Parameter
  directives : List Directive
  selections : List Selection
deriving Repr

structure Fragment where
  name : String
  typeCondition : String
  directives : List Directive
  selections : List Selection
deriving Repr

inductive Definition where
  | operation (operation : Operation)
  | fragment (fragment : Fragment)
  | typeSystem (directives : List (List Directive))
deriving Repr

/-- The definitions of a text, in order. -/
structure Document where
  definitions : List Definition
deriving Repr

end GraphCache
