import Conformance.Text.Quoted

/-!
# Paths

A path leads from the root of a tree to one of its nodes: at a document it names an entry, at an array it
counts the elements from zero. Its text is made of `.key` and `[index]` pieces and is empty at the root.
-/

set_option autoImplicit false

namespace Conformance

inductive Segment where
  | key (name : String)
  | index (position : Nat)
  deriving DecidableEq, Inhabited

namespace Segment

def text : Segment → String
  | .key name => "." ++ name
  | .index position => "[" ++ toString position ++ "]"

def debug : Segment → String
  | .key name => "Key(" ++ Text.quoted name ++ ")"
  | .index position => "Index(" ++ toString position ++ ")"

end Segment

/-- The steps from the root of a tree to a node, first step first. -/
structure Path where
  segments : List Segment
  deriving DecidableEq, Inhabited

namespace Path

def root : Path := ⟨[]⟩

def isRoot (p : Path) : Bool := p.segments.isEmpty

def push (p : Path) (s : Segment) : Path := ⟨p.segments ++ [s]⟩

def pop (p : Path) : Path := ⟨p.segments.dropLast⟩

def last? (p : Path) : Option Segment := p.segments.getLast?

/-- The steps of `p` followed by those of `q`. -/
def join (p q : Path) : Path := ⟨p.segments ++ q.segments⟩

def text (p : Path) : String := String.join (p.segments.map Segment.text)

def debug (p : Path) : String :=
  "Path \x7b segments: [" ++ ", ".intercalate (p.segments.map Segment.debug) ++ "] \x7d"

@[simp] theorem segments_push (p : Path) (s : Segment) : (p.push s).segments = p.segments ++ [s] := rfl

@[simp] theorem segments_join (p q : Path) : (p.join q).segments = p.segments ++ q.segments := rfl

@[simp] theorem pop_push (p : Path) (s : Segment) : (p.push s).pop = p := by
  cases p
  simp [pop, push]

@[simp] theorem root_join (p : Path) : root.join p = p := rfl

@[simp] theorem join_root (p : Path) : p.join root = p := by
  cases p
  simp [join, root]

theorem toList_text (p : Path) : p.text.toList = p.segments.flatMap fun s => s.text.toList := by
  rw [text, String.toList_join, List.flatMap_map]

theorem join_assoc (p q r : Path) : (p.join q).join r = p.join (q.join r) := by
  simp [join]

theorem join_push (p q : Path) (s : Segment) : p.join (q.push s) = (p.join q).push s := by
  simp [join, push]

@[simp] theorem isRoot_iff (p : Path) : p.isRoot = true ↔ p = root := by
  cases p
  simp [isRoot, root]

end Path

end Conformance
