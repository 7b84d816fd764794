/-!
# What patterns are made of

The two kinds of text that a pattern segment can carry, each with its condition
as a field.  Because a literal is never empty and never holds the separator or a
wildcard character, no literal can be spelled like a wildcard, a capture or two
segments: this is what makes reading a pattern and spelling it inverse.

A text that is no pattern is refused for one cause, the first that is met from left
to right.  The causes are a type, and their wording is one function, so that a
statement about refusal never has to quote a sentence.
-/

namespace Gatehouse

/-! ## Literals and capture names -/

/-- The characters with a meaning of their own in patterns whose segments are
separated by `sep`. -/
def isReserved (sep c : Char) : Bool := c == sep || c == '*' || c == '\x7b' || c == '\x7d'

/-- A text that stands for itself: not empty, and without reserved characters. -/
def isPlain (sep : Char) (text : String) : Bool :=
  text != "" && text.toList.all fun c => !isReserved sep c

/-- A segment that stands for itself. -/
structure Literal (sep : Char) where
  text : String
  plain : isPlain sep text = true
  deriving DecidableEq

/-- The first character of a capture name: an ASCII letter or an underscore. -/
def isCaptureStart (c : Char) : Bool := c.isAlpha || c == '_'

/-- A later character of a capture name: an ASCII letter or digit, an underscore
or a hyphen. -/
def isCaptureChar (c : Char) : Bool := c.isAlphanum || c == '_' || c == '-'

/-- A text that can name a capture. -/
def isCaptureName (name : String) : Bool :=
  match name.toList with
  | [] => false
  | c :: cs => isCaptureStart c && cs.all isCaptureChar

/-- The name of a captured segment. -/
structure CaptureName where
  name : String
  wellFormed : isCaptureName name = true
  deriving DecidableEq

/-! ## What is wrong with a pattern -/

/-- Why a text is no pattern. -/
inductive PatternFault where
  /-- The text is empty. -/
  | emptyPattern
  /-- There is nothing between two separators, or before the first or after the
  last one. -/
  | emptySegment
  /-- The wildcard for any number of segments stands before another segment. -/
  | restNotLast
  /-- A segment opens a capture and does not end with its closing brace. -/
  | unterminatedCapture
  /-- The text between the braces is no capture name. -/
  | captureName (name : String)
  /-- A wildcard character stands inside a segment of an object pattern. -/
  | wildcardInLiteral (segment : String)
  /-- A wildcard character stands inside a segment of an action pattern. -/
  | unsupportedWildcard (segment : String)
  deriving DecidableEq, Repr

/-- The wording of a fault. -/
def PatternFault.reason : PatternFault → String
  | emptyPattern => "pattern is empty"
  | emptySegment => "empty segment"
  | restNotLast => "`**` is only allowed as the last segment"
  | unterminatedCapture => "unterminated capture"
  | captureName name => "invalid capture name `" ++ name ++ "`"
  | wildcardInLiteral segment => "wildcard characters inside literal segment `" ++ segment ++ "`"
  | unsupportedWildcard segment => "unsupported wildcard in segment `" ++ segment ++ "`"

/-- A refused pattern with the cause. -/
inductive PatternError where
  /-- The text was to be a pattern for object paths. -/
  | object (pattern : String) (fault : PatternFault)
  /-- The text was to be a pattern for action names. -/
  | action (pattern : String) (fault : PatternFault)
  deriving DecidableEq, Repr

/-- The wording of a refusal. -/
def PatternError.message : PatternError → String
  | object pattern fault => "Invalid object pattern `" ++ pattern ++ "`: " ++ fault.reason
  | action pattern fault => "Invalid action pattern `" ++ pattern ++ "`: " ++ fault.reason

end Gatehouse
