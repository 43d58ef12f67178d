import RunMeter.Machine.Raw

/-!
# RunMeter.Machine.Utility.Python.Program — Python programs

What a program in the language Python is made of.  Texts in it are characters, not octets.

Nothing that is proved depends on this module.
-/

namespace RunMeter.Machine.Python

/-- Characters of a text. -/
abbrev Text := List Char

/-- An operator of two values. -/
inductive Operator where
  | add
  | subtract
  | multiply
  | divide
  | divideDown
  | modulo
  | power
  | matrix
  | shiftLeft
  | shiftRight
  | bitAnd
  | bitOr
  | bitXor
  deriving DecidableEq

/-- How an operator is written. -/
def Operator.sign : Operator → String
  | add => "+"
  | subtract => "-"
  | multiply => "*"
  | divide => "/"
  | divideDown => "//"
  | modulo => "%"
  | power => "**"
  | matrix => "@"
  | shiftLeft => "<<"
  | shiftRight => ">>"
  | bitAnd => "&"
  | bitOr => "|"
  | bitXor => "^"

/-- A comparison. -/
inductive Comparison where
  | equal
  | different
  | less
  | atMost
  | greater
  | atLeast
  | among
  | notAmong
  | same
  | notSame
  deriving DecidableEq

/-- How a comparison of order is written. -/
def Comparison.sign : Comparison → String
  | less => "<"
  | atMost => "<="
  | greater => ">"
  | atLeast => ">="
  | _ => "=="

/-- An operator of one value. -/
inductive Prefixed where
  | negative
  | positive
  | inverted
  deriving DecidableEq

/-- A value that is written out. -/
inductive Constant where
  | nothing
  | truth (b : Bool)
  | int (n : Nat)
  | real (f : Float)
  | text (t : Text)
  | octets (r : Raw)
  | ellipsis

/-- How an argument is given. -/
inductive Giving where
  | plain
  | named (name : Text)
  /-- All values of a sequence. -/
  | spread
  /-- All entries of a mapping. -/
  | spreadNamed

/-- How a parameter takes arguments. -/
inductive Taking where
  | plain
  | onlyNamed
  | rest
  | restNamed
  deriving DecidableEq

/-- What a comprehension makes. -/
inductive Collection where
  | list
  | set
  | iterator
  deriving DecidableEq

mutual

/-- An expression. -/
inductive Expr where
  | constant (c : Constant)
  | name (n : Text)
  | list (items : List Expr)
  | tuple (items : List Expr)
  | set (items : List Expr)
  /-- A mapping; an entry without a key is a mapping whose entries are taken. -/
  | dict (entries : List Entry)
  | starred (e : Expr)
  | part (e : Expr) (name : Text)
  | element (e key : Expr)
  | slice (first last step : Option Expr)
  | call (f : Expr) (args : List Argument)
  | prefixed (op : Prefixed) (e : Expr)
  | arithmetic (op : Operator) (a b : Expr)
  | compare (a : Expr) (rest : List Link)
  | both (a b : Expr)
  | either (a b : Expr)
  | not (e : Expr)
  | choice (test yes no : Expr)
  | function (parameters : List Parameter) (locals : List Text) (body : Expr)
  | collect (kind : Collection) (e : Expr) (clauses : List Clause)
  | collectDict (key value : Expr) (clauses : List Clause)
  | joined (parts : List TextPart)
  | named (name : Text) (e : Expr)
  /-- A value that a function gives before it goes on, or all items of one. -/
  | yielded (all : Bool) (e : Option Expr)

/-- An entry of a mapping. -/
inductive Entry where
  | mk (key : Option Expr) (value : Expr)

/-- A further part of a chain of comparisons. -/
inductive Link where
  | mk (op : Comparison) (e : Expr)

/-- An argument of a call. -/
inductive Argument where
  | mk (giving : Giving) (e : Expr)

/-- A parameter of a function. -/
inductive Parameter where
  | mk (taking : Taking) (name : Text) (usual : Option Expr)

/-- A clause of a comprehension. -/
inductive Clause where
  | each (target source : Expr)
  | provided (test : Expr)

/-- A part of a text with expressions in it. -/
inductive TextPart where
  | plain (t : Text)
  /-- An expression, the letter of its conversion, and the parts of its format. -/
  | value (e : Expr) (conversion : Option Char) (form : List TextPart)

end

mutual

/-- A statement. -/
inductive Statement where
  | value (e : Expr)
  | assign (targets : List Expr) (e : Expr)
  | update (op : Operator) (target e : Expr)
  | delete (targets : List Expr)
  | idle
  | leave
  | again
  | give (e : Option Expr)
  | raise (e cause : Option Expr)
  | check (test : Expr) (message : Option Expr)
  /-- Modules, each with the name that it is bound to if one is given. -/
  | importModules (modules : List (Text × Option Text))
  | importNames (module : Text) (names : List (Text × Option Text))
  /-- Names that belong to the whole program. -/
  | globals (names : List Text)
  /-- Names that belong to an enclosing function. -/
  | outer (names : List Text)
  | choice (test : Expr) (yes no : List Line)
  | loop (test : Expr) (body other : List Line)
  | each (target source : Expr) (body other : List Line)
  | attempt (body : List Line) (handlers : List Handler) (other finish : List Line)
  | within (items : List (Expr × Option Expr)) (body : List Line)
  | function (name : Text) (parameters : List Parameter) (locals : List Text) (yields : Bool) (body : List Line)
      (wrappers : List Expr)
  | kind (name : Text) (bases : List Argument) (body : List Line)

/-- A statement and the number of its line. -/
inductive Line where
  | mk (number : Nat) (s : Statement)

/-- What is done about exceptions of some kinds. -/
inductive Handler where
  | mk (number : Nat) (kinds : Option Expr) (name : Option Text) (body : List Line)

end

end RunMeter.Machine.Python
