import RunMeter.Machine.Raw

/-!
# RunMeter.Machine.Shell.Nesting — quotes, substitutions and parentheses inside of words

A word keeps its quotes and substitutions as they are written.  What stands inside of them can hold others, up to
the character that ends each of them.

There are two dialects of the language.  The plain one is the standard's; the extended one knows more operators,
conditions in double brackets, arithmetic in double parentheses, and lists as values.

Nothing that is proved depends on this module.
-/

namespace RunMeter.Machine.Shell

/-- The dialects of the language. -/
inductive Dialect where
  | plain
  | extended
  deriving DecidableEq

/-- How a script is cut: its dialect, and whether its words may hold groups of alternatives. -/
structure Rules where
  dialect : Dialect
  groups : Bool

namespace Nesting

/-- What a scanner is inside of. -/
inductive Inside where
  | quotes
  | parens
  | braces
  | backquotes
  deriving DecidableEq

/-- What is missing when a script ends inside something. -/
def Inside.missing : Inside → String
  | quotes => "Unterminated quoted string"
  | parens => "end of file unexpected (expecting \")\")"
  | braces => "Missing '\x7d'"
  | backquotes => "EOF in backquote substitution"

/-- The character that ends what a scanner is inside of. -/
def Inside.closing : Inside → Char
  | quotes => '"'
  | parens => ')'
  | braces => '\x7d'
  | backquotes => '`'

/-- Whether a scanner is in double quotes at this level of substitution; `outer` says so for the outermost. -/
def inQuotes (outer : Bool) : List Inside → Bool
  | .quotes :: _ => true
  | .braces :: rest => inQuotes outer rest
  | [] => outer
  | _ => false

/-- A blank between words. -/
def isSpace (c : Char) : Bool :=
  c == ' ' || c == '\t'

/-- A character that ends a word. -/
def endsWord (c : Char) : Bool :=
  isSpace c || ['\n', '&', '|', ';', '<', '>', '(', ')'].contains c

/-- Scans to the end of everything that `stack` is inside of.  Gives what was scanned, after `taken`, which is
from its end to its start, and the rest. -/
def scan (outer : Bool) : (fuel : Nat) → (stack : List Inside) → (taken : Raw) → Raw → Except Inside (Raw × Raw)
  | _, [], taken, rest => .ok (taken.reverse, rest)
  | 0, top :: _, _, _ => .error top
  | _ + 1, top :: _, _, [] => .error top
  | fuel + 1, stack, taken, '\\' :: c :: rest => scan outer fuel stack (c :: '\\' :: taken) rest
  | fuel + 1, .backquotes :: below, taken, c :: rest =>
    if c = '`' then scan outer fuel below (c :: taken) rest
    else scan outer fuel (.backquotes :: below) (c :: taken) rest
  | fuel + 1, stack, taken, '$' :: '(' :: rest =>
    scan outer fuel (.parens :: stack) ('(' :: '$' :: taken) rest
  | fuel + 1, stack, taken, '$' :: '\x7b' :: rest =>
    scan outer fuel (.braces :: stack) ('\x7b' :: '$' :: taken) rest
  | fuel + 1, stack, taken, '`' :: rest => scan outer fuel (.backquotes :: stack) ('`' :: taken) rest
  | fuel + 1, .quotes :: below, taken, '"' :: rest => scan outer fuel below ('"' :: taken) rest
  | fuel + 1, stack, taken, '"' :: rest => scan outer fuel (.quotes :: stack) ('"' :: taken) rest
  | fuel + 1, stack, taken, '\'' :: rest =>
    if inQuotes outer stack then scan outer fuel stack ('\'' :: taken) rest
    else
      let inner := rest.takeWhile (· != '\'')
      match rest.drop inner.length with
      | [] => .error .quotes
      | _ :: after => scan outer fuel stack ('\'' :: inner.reverse ++ '\'' :: taken) after
  | fuel + 1, .parens :: below, taken, '#' :: rest =>
    let comment := rest.takeWhile (· != '\n')
    let starts := match taken with
      | c :: _ => isSpace c || c == '\n' || c == ';' || c == '('
      | [] => true
    let arithmetic := match below, taken with
      | .parens :: _, _ => true
      | _, _ => false
    if starts && !arithmetic && rest.length > comment.length then
      scan outer fuel (.parens :: below) (comment.reverse ++ '#' :: taken) (rest.drop comment.length)
    else scan outer fuel (.parens :: below) ('#' :: taken) rest
  | fuel + 1, top :: below, taken, c :: rest =>
    let closes := (top = .parens ∧ c = ')') ∨ (top = .braces ∧ c = '\x7d')
    let opens := top = .parens ∧ c = '('
    let stack := if closes then below else if opens then top :: top :: below else top :: below
    scan outer fuel stack (c :: taken) rest

/-- Scans a text in single quotes whose backslashes protect; the quote at its end is kept. -/
def scanEscaped : (taken : Raw) → Raw → Option (Raw × Raw)
  | _, [] => none
  | taken, '\\' :: c :: rest => scanEscaped (c :: '\\' :: taken) rest
  | taken, c :: rest => if c = '\'' then some ((c :: taken).reverse, rest) else scanEscaped (c :: taken) rest

/-- Whether a group of alternatives starts with two characters. -/
def startsGroup (c : Char) (rest : Raw) : Bool :=
  "?*+@!".toList.contains c && rest.head? == some '('

end Nesting
end RunMeter.Machine.Shell
