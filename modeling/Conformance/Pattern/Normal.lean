import Conformance.Pattern.Expression

/-!
# Normal forms of expressions

Expressions that describe the same are written in many ways. `Expression.normal` takes out what makes no
difference: empty parts, sequences in sequences, choices in choices, sets of one character, choices between
characters, repetitions of nothing, parts that all branches start with.
-/

set_option autoImplicit false

namespace Conformance.Pattern

open Unicode

inductive Normal where
  | empty
  /-- A text that stands for itself, with a character at least. -/
  | literal (text : List Char)
  /-- A character of a set, which has no or several members. -/
  | set (characters : CodePointSet)
  | assertion (condition : Assertion)
  | repetition (least : Nat) (most : Option Nat) (fewFirst : Bool) (body : Normal)
  | capture (body : Normal)
  | sequence (parts : List Normal)
  | choice (branches : List Normal)
  deriving Inhabited

namespace Normal

mutual

/-- Whether two expressions are the same. Each capture is different from all others. -/
def sameAs : Normal → Normal → Bool
  | .empty, .empty => true
  | .literal a, .literal b => a == b
  | .set a, .set b => a == b
  | .assertion a, .assertion b => a == b
  | .repetition least most fewFirst a, .repetition least' most' fewFirst' b =>
    least == least' && most == most' && fewFirst == fewFirst' && a.sameAs b
  | .sequence as, .sequence bs => allSame as bs
  | .choice as, .choice bs => allSame as bs
  | _, _ => false

def allSame : List Normal → List Normal → Bool
  | [], [] => true
  | a :: as, b :: bs => a.sameAs b && allSame as bs
  | _, _ => false

end

/-! ## Lengths

The numbers of characters that an expression covers, at least and at most. An empty set covers nothing at
all, not even the empty text, and has neither; what can go on for ever has no greatest length. -/

/-- Apply a function of two numbers, if both are there. -/
def both (f : Nat → Nat → Nat) (a b : Option Nat) : Option Nat :=
  match a, b with
  | some a, some b => some (f a b)
  | _, _ => none

mutual

def minLength : Normal → Option Nat
  | .empty | .assertion _ => some 0
  | .literal text => some text.length
  | .set a => if a.bounds.isEmpty then none else some 1
  | .repetition least _ _ body => body.minLength.map (· * least)
  | .capture body => body.minLength
  | .sequence parts => totalMinLength parts
  | .choice branches => leastMinLength branches

def totalMinLength : List Normal → Option Nat
  | [] => some 0
  | e :: rest => both (· + ·) e.minLength (totalMinLength rest)

def leastMinLength : List Normal → Option Nat
  | [] => none
  | [e] => e.minLength
  | e :: rest => both min e.minLength (leastMinLength rest)

end

mutual

def maxLength : Normal → Option Nat
  | .empty | .assertion _ => some 0
  | .literal text => some text.length
  | .set a => if a.bounds.isEmpty then none else some 1
  | .repetition _ most _ body => both (· * ·) most body.maxLength
  | .capture body => body.maxLength
  | .sequence parts => totalMaxLength parts
  | .choice branches => greatestMaxLength branches

def totalMaxLength : List Normal → Option Nat
  | [] => some 0
  | e :: rest => both (· + ·) e.maxLength (totalMaxLength rest)

def greatestMaxLength : List Normal → Option Nat
  | [] => none
  | [e] => e.maxLength
  | e :: rest => both max e.maxLength (greatestMaxLength rest)

end

mutual

/-- Whether a condition has to hold where an expression starts. -/
def startsWith (condition : Assertion) : Normal → Bool
  | .assertion c => c == condition
  | .repetition least _ _ body => 0 < least && body.startsWith condition
  | .capture body => body.startsWith condition
  | .sequence parts => partsStartWith condition parts
  | .choice branches => branchesStartWith condition branches
  | .empty | .literal _ | .set _ => false

/-- Whether a condition has to hold where a sequence starts, which also parts may say that only parts
without length stand in front of. -/
def partsStartWith (condition : Assertion) : List Normal → Bool
  | [] => false
  | e :: rest =>
    e.startsWith condition || (e.maxLength == some 0 && partsStartWith condition rest)

def branchesStartWith (condition : Assertion) : List Normal → Bool
  | [] => true
  | e :: rest => e.startsWith condition && branchesStartWith condition rest

end

mutual

/-- Whether a condition has to hold where an expression ends. -/
def endsWith (condition : Assertion) : Normal → Bool
  | .assertion c => c == condition
  | .repetition least _ _ body => 0 < least && body.endsWith condition
  | .capture body => body.endsWith condition
  | .sequence parts => partsEndWith condition parts
  | .choice branches => branchesEndWith condition branches
  | .empty | .literal _ | .set _ => false

/-- Whether a condition has to hold where a sequence ends, which also parts may say that only parts without
length stand behind. -/
def partsEndWith (condition : Assertion) : List Normal → Bool
  | [] => false
  | e :: rest =>
    partsEndWith condition rest || (e.endsWith condition && rest.all (·.maxLength == some 0))

def branchesEndWith (condition : Assertion) : List Normal → Bool
  | [] => true
  | e :: rest => e.endsWith condition && branchesEndWith condition rest

end

/-! ## Building normal forms -/

def ofSet (a : CodePointSet) : Normal :=
  match a.ranges with
  | [(low, high)] => if low = high then .literal [.ofNat low] else .set a
  | _ => .set a

/-- Parts of a sequence with one more in front. Texts next to each other are one text. -/
def putInFront : Normal → List Normal → List Normal
  | .empty, parts => parts
  | .literal a, .literal b :: parts => .literal (a ++ b) :: parts
  | e, parts => e :: parts

def inTurn (es : List Normal) : Normal :=
  let parts := es.foldr
    (fun e parts =>
      match e with
      | .sequence inner => inner.foldr putInFront parts
      | e => putInFront e parts)
    []
  match parts with
  | [] => .empty
  | [e] => e
  | parts => .sequence parts

def character? : Normal → Option Char
  | .literal [c] => some c
  | _ => none

def set? : Normal → Option CodePointSet
  | .set a => some a
  | _ => none

def parts? : Normal → Option (List Normal)
  | .sequence parts => some parts
  | _ => none

/-- One of several expressions. Characters are put together to a set, and so are sets. -/
def oneOf (es : List Normal) : Normal :=
  let branches := es.flatMap fun
    | .choice inner => inner
    | e => [e]
  match branches with
  | [] => .set .nothing
  | [e] => e
  | branches =>
    match branches.mapM character?, branches.mapM set? with
    | some characters, _ => ofSet (.unions (characters.map .single))
    | _, some sets => ofSet (.unions sets)
    | _, _ => .choice branches

/-- How many expressions are the same at the start of two lists. -/
def commonLength : List Normal → List Normal → Nat
  | a :: as, b :: bs => if a.sameAs b then commonLength as bs + 1 else 0
  | _, _ => 0

/-- One of several expressions. What the sequences of all branches start with stands in front of the
choice. -/
def choose (es : List Normal) : Normal :=
  match oneOf es with
  | .choice branches =>
    match branches.mapM parts? with
    | some (first :: others) =>
      match (others.map (commonLength first)).foldl min first.length with
      | 0 => .choice branches
      | n => inTurn (first.take n ++ [oneOf ((first :: others).map fun parts => inTurn (parts.drop n))])
    | _ => .choice branches
  | e => e

/-- A repetition. What covers no character need not be repeated more than once. -/
def repeated (least : Nat) (most : Option Nat) (fewFirst : Bool) (body : Normal) : Normal :=
  let weightless := body.maxLength == some 0
  let least := if weightless then min least 1 else least
  let most := if weightless then some (min (most.getD 1) 1) else most
  if least = 0 && most = some 0 then .empty
  else if least = 1 && most = some 1 then body
  else .repetition least most fewFirst body

end Normal

namespace Expression

mutual

def normal : Expression → Normal
  | .empty => .empty
  | .char set _ => .ofSet set
  | .assertion condition => .assertion condition
  | .sequence parts => .inTurn (normals parts)
  | .choice branches => .choose (normals branches)
  | .repetition least most fewFirst body => .repeated least most fewFirst body.normal
  | .group numbered body => if numbered then .capture body.normal else body.normal

def normals : List Expression → List Normal
  | [] => []
  | e :: rest => e.normal :: normals rest

end

end Expression

end Conformance.Pattern
