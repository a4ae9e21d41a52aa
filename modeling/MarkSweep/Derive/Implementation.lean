import MarkSweep.Derive.Item

namespace MarkSweep.Derive

open Word

structure Arm where
  variant : String
  fields : Fields
  traced : List Nat
deriving Repr

inductive Body where
  | members (members : List String)
  | arms (arms : List Arm)
deriving Repr

structure Implementation where
  root : List Word
  name : String
  generics : Generics
  body : Body
deriving Repr

def binding (place : Nat) : String := "field" ++ toString place

def call (root : List Word) (target : List String) : List Word :=
  root ++ plain (["::", "Trace", "::", "trace", "("] ++ target ++ [",", "tracer", ")", ";"])

def Fields.pattern : Fields → List String
  | named fields =>
    let bound := fields.zipIdx.filterMap fun (f, i) => f.name.map fun n => [n, ":", binding i]
    "\x7b" :: [","].intercalate bound ++ ["\x7d"]
  | tuple fields =>
    "(" :: [","].intercalate ((List.range fields.length).map fun i => [binding i]) ++ [")"]
  | unit => []

def Arm.words (root : List Word) (name : String) (a : Arm) : List Word :=
  plain ([name, "::", a.variant] ++ a.fields.pattern ++ ["=>", "\x7b"]) ++
    a.traced.flatMap (fun i => call root [binding i]) ++ plain ["\x7d"]

def Body.words (root : List Word) (name : String) : Body → List Word
  | members ms => ms.flatMap fun m => call root ["&", "self", ".", m]
  | arms [] => plain ["match", "*", "self", "\x7b", "\x7d"]
  | arms as => plain ["match", "self", "\x7b"] ++ as.flatMap (Arm.words root name) ++ plain ["\x7d"]

namespace Implementation

def signature (root : List Word) : List Word :=
  plain ["#", "[", "inline", "]", "#", "[", "allow", "(", "unused_variables", ")", "]", "fn",
    "trace", "(", "&", "self", ",", "tracer", ":", "&", "mut"] ++ root ++
  plain ["::", "Tracer", "<", "'_", ">", ")"]

def words (i : Implementation) : List Word :=
  plain ["impl"] ++ i.generics.declared ++ i.root ++ plain ["::", "Trace", "for", i.name] ++
    i.generics.applied ++ i.generics.whereClause ++ plain ["\x7b"] ++ signature i.root ++
    plain ["\x7b"] ++ i.body.words i.root i.name ++ plain ["\x7d", "\x7d"]

def text (i : Implementation) : String := line i.words

end Implementation

end MarkSweep.Derive
