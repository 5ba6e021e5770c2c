import RecordPrint.Text.CodePoint

/-!
# Type expressions

The annotations of fields and the record types that are given to a renderer. A quoted expression names
a type that may not be known yet; resolving an expression replaces quoted ones by what they name and
fails where something is unknown or stands in the wrong place.
-/

namespace RecordPrint

/-- The words that qualify a declaration. -/
inductive Qualifier where
  | classVar
  | final
  | initVar
  | required
  | notRequired
  deriving DecidableEq

/-- A mark attached to an annotated type. -/
inductive Mark where
  /-- The header under which the field is shown. -/
  | column (header : Text)
  /-- A text that is no header. -/
  | note (t : Text)
  | number (n : Int)
  deriving DecidableEq

inductive TypeExpr where
  /-- A type of its own that declares no fields. -/
  | builtin (name : Text)
  /-- The type of nothing. -/
  | absent
  /-- A declared shape. -/
  | shape (name : Text)
  /-- The type of references to anything. -/
  | reference
  /-- The type of references to records of a type. -/
  | ref (target : TypeExpr)
  | either (a b : TypeExpr)
  | annotated (t : TypeExpr) (marks : List Mark)
  | qualified (q : Qualifier) (t : TypeExpr)
  /-- A qualifier that qualifies nothing in particular. -/
  | bare (q : Qualifier)
  | listOf (item : TypeExpr)
  | mapOf (key value : TypeExpr)
  /-- A type variable. -/
  | variable
  /-- Something that is no type. -/
  | literal
  | quoted (t : TypeExpr)
  /-- Something that names nothing. -/
  | unknown
  deriving DecidableEq

namespace TypeExpr

/-- Whether an expression is, behind any marks, a bare word that only fits the top of a declaration. -/
def isBareTopOnly : TypeExpr → Bool
  | bare .classVar | bare .final => true
  | annotated t _ => t.isBareTopOnly
  | _ => false

/-- Whether an expression is qualified by a word that only fits the top of a declaration. -/
def isTopOnly : TypeExpr → Bool
  | qualified .classVar _ | qualified .final _ => true
  | t => t.isBareTopOnly

/-- Whether what is written in quotes names a type, apart from what is quoted in it: all names are known,
and nothing that only fits the top of a declaration stands where one type of several is needed or a word
qualifies a type. -/
def isMeaningful : TypeExpr → Bool
  | unknown | literal | annotated _ [] => false
  | ref t | annotated t _ | listOf t | qualified .initVar t => t.isMeaningful
  | qualified _ t => t.isMeaningful && !t.isTopOnly
  | either a b => a.isMeaningful && b.isMeaningful && !a.isTopOnly && !b.isTopOnly
  | mapOf a b => a.isMeaningful && b.isMeaningful
  | _ => true

/-- The alternatives of an expression. -/
def alternatives : TypeExpr → List TypeExpr
  | either a b => a.alternatives ++ b.alternatives
  | t => [t]

/-- The alternatives between some types: repeated ones count once, and a single one is that type. -/
def union (ts : List TypeExpr) : TypeExpr :=
  match (ts.flatMap alternatives).eraseDups with
  | [] => absent
  | t :: ts => ts.foldl either t

/-- An expression with all that is quoted in it replaced by what it names. A quoted expression that only
fits the top of a declaration is accepted where `top` is set. Alternatives that turn out to be the same
count once. The type of an initialization variable stays as it is. -/
def resolve? (top : Bool) : TypeExpr → Option TypeExpr
  | unknown => none
  | quoted t => if t.isMeaningful && (top || !t.isTopOnly) then t.resolve? top else none
  | annotated t marks => (t.resolve? true).map (annotated · marks)
  | ref t => (t.resolve? false).map ref
  | either a b => do return union [← a.resolve? false, ← b.resolve? false]
  | qualified .initVar t => some (qualified .initVar t)
  | qualified q t => (t.resolve? false).map (qualified q)
  | listOf t => (t.resolve? false).map listOf
  | mapOf k v => do return mapOf (← k.resolve? false) (← v.resolve? false)
  | t => some t

/-- The type under all annotations at the top of an expression. -/
def unannotated : TypeExpr → TypeExpr
  | annotated t _ => t.unannotated
  | t => t

/-- The marks at the top of an expression, the innermost first. -/
def marks : TypeExpr → List Mark
  | annotated t ms => t.marks ++ ms
  | _ => []

/-- Whether an expression declares an attribute of the shape instead of a field of its records. -/
def isClassVar (t : TypeExpr) : Bool :=
  match t.unannotated with
  | qualified .classVar _ | bare .classVar => true
  | _ => false

/-- The header that the first column mark at the top of an expression gives. -/
def header? (t : TypeExpr) : Option Text :=
  t.marks.findSome? fun
    | .column header => some header
    | .note _ | .number _ => none

/-- Whether an expression keeps a declaration out of the fields of a data class: a class or
initialization variable, which may be quoted as a whole. -/
def isPseudoField : TypeExpr → Bool
  | qualified .classVar _ | qualified .initVar _ | bare .classVar | bare .initVar => true
  | quoted (qualified .classVar _) | quoted (qualified .initVar _)
  | quoted (bare .classVar) | quoted (bare .initVar) => true
  | _ => false

/-- How an expression goes together with others in alternatives that are written with bars. -/
inductive Bond where
  /-- It goes together with classes only. -/
  | nothing
  /-- It goes together with nothing and other classes. -/
  | ofClass
  /-- It goes together with everything. -/
  | free
  /-- It only goes together with what goes together with everything. -/
  | tied
  deriving DecidableEq

/-- What two expressions that go together make. -/
def Bond.join? : Bond → Bond → Option Bond
  | free, _ | _, free => some free
  | ofClass, ofClass | ofClass, nothing | nothing, ofClass => some ofClass
  | _, _ => none

/-- How an expression goes together with others. -/
def bond : TypeExpr → Bond
  | absent => .nothing
  | builtin _ | shape _ | reference | listOf _ | mapOf _ _ => .ofClass
  | quoted _ | literal | unknown | qualified .initVar _ => .tied
  | _ => .free

/-- The alternatives between some types that are written with bars; if they do not go together, this is
no type. -/
def barred (ts : List TypeExpr) : TypeExpr :=
  match ts.map bond with
  | [] => absent
  | b :: bs => if (bs.foldlM Bond.join? b).isSome then union ts else unknown

/-- An expression without one level of indirection: the target of a reference, or what is left of
alternatives that are one type or nothing. -/
def deref : TypeExpr → TypeExpr
  | ref target => target
  | either a b =>
    match ((either a b).alternatives.filter (· ≠ absent)).eraseDups with
    | [t] => t
    | [] => absent
    | _ => either a b
  | t => t

end TypeExpr

end RecordPrint
