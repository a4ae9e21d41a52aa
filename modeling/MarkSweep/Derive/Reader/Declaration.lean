import MarkSweep.Derive.Reader.Member

namespace MarkSweep.Derive.Reader

def useLeaf : Reader Bool := do
  let ts ← trees
  unless atName ts || atAnyWord ["self", "super", "crate", "try"] ts do
    failAmong ["identifier", quoted "self", quoted "super", quoted "crate", quoted "try",
      quoted "*", "curly braces"]
  discard anyName
  if ← mark? "::" then return true
  if ← word? "as" then
    let ts ← trees
    unless atName ts || atWord "_" ts do fail "expected identifier or underscore"
    discard anyName
  return false

def useTree (rootAllowed : Bool) : Nat → Reader Bool
  | 0 => refuse "nested too deeply"
  | n + 1 => do
    let ts ← trees
    if ← mark? "*" then return false
    unless atGroup .brace ts do
      if ← useLeaf then return ← useTree false n
      return false
    let found ← group .brace (listed do
      let root ← if rootAllowed then mark? "::" else pure false
      return (← useTree (rootAllowed && !root) n) || root)
    return found.items.any id

section

variable (within : Within)

def functionItem : Reader Bool := do
  discard visibility
  discard (signature within false)
  if ← mark? ";" then return true
  body within
  return false

def externalLibrary : Reader Bool := do
  discard visibility
  word "extern"
  word "crate"
  discard (nameOr ["self"])
  if ← word? "as" then discard (nameOr ["_"])
  mark ";"
  return false

def foreignBlock : Reader Bool := do
  discard (word? "unsafe")
  word "extern"
  if atString (← trees) then literal
  members within (attributed within (foreignMemberContent within))
  return false

def externItem (next : List Tree) : Reader Bool := do
  if atWord "crate" next then return ← externalLibrary
  if atString next && !atGroup .brace next.tail then
    failAmongAt next.tail ["curly braces"]
  unless atString next || atGroup .brace next do
    failAmongAt next [quoted "crate", "curly braces", "string literal"]
  foreignBlock within

def useItem : Reader Bool := do
  discard visibility
  word "use"
  let leading ← mark? "::"
  let root ← useTree (!leading) (Tree.count (← trees) + 1)
  mark ";"
  return root

def staticItem : Reader Bool := do
  discard visibility
  word "static"
  discard (word? "mut")
  discard name
  let typed := !atMark "=" (← trees)
  if typed then
    mark ":"
    within.anyType
  let defined := !typed || !atMark ";" (← trees)
  if defined then
    mark "="
    within.value
  mark ";"
  return !typed || !defined

def constantItem : Reader Bool := do
  discard visibility
  let content ← constantContent within
  return content.generic || !content.defined

def module : Reader Bool := do
  discard visibility
  discard (word? "unsafe")
  word "mod"
  nameOrTry
  if atGroup .brace (← trees) then members within within.declaration
  else unless ← mark? ";" do failAmong [quoted ";", "curly braces"]
  return false

def typeItem : Reader Bool := do
  discard visibility
  let content ← typeContent within true false
  return content.bounded || !content.defined

def declared (text : String) : Reader Unit := do
  discard visibility
  word text
  discard name
  discard (parameters within)

def structItem : Reader Bool := do
  declared within "struct"
  discard (structContent within)
  return false

def enumItem : Reader Bool := do
  declared within "enum"
  discard (whereClause within)
  discard (group .brace (listed (variant within)))
  return false

def unionItem : Reader Bool := do
  declared within "union"
  discard (whereClause within)
  discard (namedFields within)
  return false

def traitContent : Reader Unit := do
  discard (colonBounds within .subject fun ts => atWord "where" ts || atGroup .brace ts)
  discard (whereClause within)
  members within (attributed within (traitMemberContent within))

def specialTrait : Reader Bool := do
  discard visibility
  for text in ["unsafe", "auto"] do discard (word? text)
  word "trait"
  discard name
  discard (parameters within)
  traitContent within
  return false

def traitItem : Reader Bool := do
  declared within "trait"
  let ts ← trees
  if ← mark? "=" then
    discard (separatedUntil (fun ts => atWord "where" ts || atMark ";" ts) "+"
      (within.bound .object))
    discard (whereClause within)
    mark ";"
  else
    unless atGroup .brace ts || atMark ":" ts || atWord "where" ts do
      failAmong ["curly braces", quoted ":", quoted "where", quoted "="]
    traitContent within
  return false

def implementation : Reader Bool := do
  let visible ← visibility
  for text in ["default", "unsafe"] do discard (word? text)
  word "impl"
  if atParameters (← trees) then discard (parameters within)
  let ts ← trees
  let constant := atWord "const" ts || (atMark "?" ts && atWord "const" ts.tail)
  if constant then
    discard (mark? "?")
    word "const"
  let ts ← trees
  let negative := atMark "!" ts && !atGroup .brace ts.tail
  if negative then mark "!"
  let form ← within.type true
  let ofTrait ← word? "for"
  if ofTrait then within.anyType
  else if negative then refuse "inherent impls cannot be negative"
  discard (whereClause within)
  members within (attributed within (implementedMemberContent within))
  return visible || constant || (ofTrait && form != .name && form != .path)

def tokenRule : Reader Bool := do
  discard visibility
  word "macro"
  discard name
  let called := atGroup .paren (← trees)
  if called then group .paren everything
  unless atGroup .brace (← trees) do
    failAmong (if called then ["curly braces"] else ["parentheses", "curly braces"])
  group .brace everything
  return true

def unsafeItem (next : List Tree) : Reader Bool := do
  if atWord "trait" next || (atWord "auto" next && atWord "trait" next.tail) then
    return ← specialTrait within
  if atWord "impl" next then return ← implementation within
  if atWord "extern" next then return ← foreignBlock within
  if atWord "mod" next then return ← module within
  failAmongAt next (["trait", "auto", "impl", "extern", "mod"].map quoted)

def declarationContent (visible : Bool) (ts : List Tree) : Reader Bool := do
  let next := ts.tail
  if atFunctionItem false ts then functionItem within
  else if atWord "extern" ts then externItem within next
  else if atWord "use" ts then useItem
  else if atWord "static" ts then staticItem within
  else if atWord "const" ts then constantItem within
  else if atWord "unsafe" ts then unsafeItem within next
  else if atWord "mod" ts then module within
  else if atWord "type" ts then typeItem within
  else if atWord "struct" ts then structItem within
  else if atWord "enum" ts then enumItem within
  else if atWord "union" ts && atName next then unionItem within
  else if atWord "trait" ts then traitItem within
  else if atWord "auto" ts && atWord "trait" next then specialTrait within
  else if atWord "impl" ts || (atWord "default" ts && !atMark "!" next) then implementation within
  else if atWord "macro" ts then tokenRule
  else if !visible && atInvocation ts then invocation true
  else
    failAmongAt ts ((["fn", "extern", "use", "static", "const", "unsafe", "mod", "type", "struct",
      "enum", "union", "trait", "auto", "impl", "default", "macro"].map quoted) ++
      if visible then [] else invocationWords)

def declarationForm : Reader Unit := attributed within do
  let ts ← trees
  declarationContent within (atWord "pub" ts) (afterVisibility ts)

end

end MarkSweep.Derive.Reader
