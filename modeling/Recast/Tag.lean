set_option autoImplicit false

namespace Recast

inductive Tag where
  -- A blank line, or a line of a comment that spans several.
  | plain
  | comment
  | inclusion
  | conditional
  | header
  | opening
  | closing
  | body
  deriving DecidableEq, Repr

namespace Tag

def name : Tag → String
  | .plain => "None"
  | .comment => "Comment"
  | .inclusion => "Include"
  | .conditional => "ConditionalBlock"
  | .header => "FunctionDeclaration"
  | .opening => "FunctionBegin"
  | .closing => "FunctionEnd"
  | .body => "FunctionBody"

def byName : List Tag :=
  [.comment, .conditional, .opening, .body, .header, .closing, .inclusion, .plain]

def census (tags : List Tag) : List (Tag × Nat) :=
  (byName.map fun t => (t, tags.count t)).filter (·.2 ≠ 0)

end Tag

inductive Region where
  | comment
  | function
  | conditional
  deriving DecidableEq, Repr

namespace Region

def title : Region → String
  | .comment => "comment"
  | .function => "function"
  | .conditional => "conditional block"

def placeTitle (region : Option Region) : String :=
  (region.map title).getD "top level"

end Region

end Recast
