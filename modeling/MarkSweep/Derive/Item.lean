import MarkSweep.Derive.Separated

namespace MarkSweep.Derive

open Word

inductive Argument where
  | none
  | value
  | list (d : Delimiter) (trees : List Tree)
deriving Repr

structure Attribute where
  path : List Word
  argument : Argument
deriving Repr

inductive BoundKind where
  | lifetime
  | trait (name : String)
  | constant
  | capture
deriving DecidableEq, Repr

structure Bound where
  words : List Word
  kind : BoundKind
deriving DecidableEq, Repr

def Bound.isTrait (b : Bound) : Bool :=
  match b.kind with
  | .trait _ => true
  | .constant => true
  | _ => false

inductive Parameter where
  | lifetime (attributes : List Word) (name : String) (bounds : Separated (List Word))
  | type (attributes : List Word) (name : String) (bounds : Separated Bound)
    (default : List Word)
  | const (attributes : List Word) (name : String) (type default : List Word)
deriving DecidableEq, Repr

namespace Parameter

def name : Parameter → String
  | lifetime _ name _ => name
  | type _ name _ _ => name
  | const _ name _ _ => name

def isLifetime : Parameter → Bool
  | lifetime .. => true
  | _ => false

def boundWords {α : Type} (bounds : Separated α) (words : α → List Word) : List Word :=
  if bounds.items.isEmpty then [] else plain [":"] ++ bounds.words "+" words

def declaration : Parameter → List Word
  | lifetime attributes name bounds => attributes ++ plain [name] ++ boundWords bounds id
  | type attributes name bounds _ => attributes ++ plain [name] ++ boundWords bounds Bound.words
  | const attributes name ty _ => attributes ++ plain ["const", name, ":"] ++ ty

def default : Parameter → List Word
  | lifetime .. => []
  | type _ _ _ default => default
  | const _ _ _ default => default

def words (p : Parameter) : List Word :=
  p.declaration ++ if p.default.isEmpty then [] else plain ["="] ++ p.default

end Parameter

structure Generics where
  parameters : Separated Parameter := {}
  predicates : Separated (List Word) := {}
deriving DecidableEq, Repr

namespace Generics

def parameterList (g : Generics) (words : Parameter → List Word) : List Word :=
  if g.parameters.items.isEmpty then []
  else plain ["<"] ++ g.parameters.wordsFirst Parameter.isLifetime words ++ plain [">"]

def declared (g : Generics) : List Word := g.parameterList Parameter.declaration

def applied (g : Generics) : List Word := g.parameterList fun p => plain [p.name]

def whereClause (g : Generics) : List Word :=
  if g.predicates.items.isEmpty then [] else plain ["where"] ++ g.predicates.words "," id

end Generics

structure Field where
  attributes : List Attribute
  name : Option String
  type : List Word
deriving Repr

inductive Fields where
  | named (fields : List Field)
  | tuple (fields : List Field)
  | unit
deriving Repr

def Fields.list : Fields → List Field
  | named fields => fields
  | tuple fields => fields
  | unit => []

structure Variant where
  name : String
  fields : Fields
deriving Repr

inductive Content where
  | struct (fields : Fields)
  | enum (variants : List Variant)
  | union (fields : List Field)
deriving Repr

structure Item where
  attributes : List Attribute
  name : String
  generics : Generics
  content : Content
deriving Repr

end MarkSweep.Derive
