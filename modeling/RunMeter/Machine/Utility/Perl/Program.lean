import RunMeter.Machine.Raw

/-!
# RunMeter.Machine.Utility.Perl.Program — Perl programs

What a program is made of: statements, and expressions whose value may be one value or many.

Nothing that is proved depends on this module.
-/

namespace RunMeter.Machine.Perl

/-- What kind of thing a name stands for, told by the sign in front of it. -/
inductive Sign where
  | scalar
  | array
  | table
  | code
  | handle
  deriving DecidableEq

/-- The sign as a character. -/
def Sign.char : Sign → Char
  | scalar => '$'
  | array => '@'
  | table => '%'
  | code => '&'
  | handle => '*'

/-- A comparison. -/
inductive Order where
  | less
  | atMost
  | equal
  | different
  | greater
  | atLeast
  deriving DecidableEq

/-- An operator of two single values. -/
inductive Operator where
  | add
  | subtract
  | multiply
  | divide
  | modulo
  | power
  | join
  | repeated
  | shiftLeft
  | shiftRight
  | bitAnd
  | bitOr
  | bitXor
  | compare (textual : Bool) (order : Order)
  /-- How the first stands to the second: -1, 0 or 1. -/
  | ordering (textual : Bool)
  deriving DecidableEq

/-- How a value is combined with the one that a variable has. -/
inductive Update where
  | by (op : Operator)
  | both
  | either
  | orDefined
  deriving DecidableEq

/-- How a name is made known: to a block, to a block for all its rounds, or as a name of the package. -/
inductive Declaration where
  | own
  | lasting
  | shared
  deriving DecidableEq

/-- Where a statement leaves a loop for. -/
inductive Exit where
  | last
  | next
  | redo
  deriving DecidableEq

mutual

/-- An expression. -/
inductive Expr where
  | int (n : Int)
  | real (f : Float)
  | text (r : Raw)
  /-- A text with values in it. -/
  | filled (parts : List Expr)
  /-- A name without a sign. -/
  | bare (name : Raw)
  | name (sign : Sign) (name : Raw)
  | declare (how : Declaration) (names : List (Option (Sign × Raw))) (isList : Bool)
  /-- What a reference leads to. -/
  | through (sign : Sign) (reference : Expr)
  /-- An element of an array, and one of a table. -/
  | element (array index : Expr)
  | entry (table key : Expr)
  | elements (array indices : Expr)
  | entries (table keys : Expr)
  /-- Keys or indices with what belongs to them. -/
  | pairs (isTable : Bool) (container keys : Expr)
  /-- Some of many values. -/
  | pick (values indices : Expr)
  | lastIndex (array : Expr)
  | list (items : List Expr)
  | assign (op : Option Update) (target value : Expr)
  /-- A step up or down; its value is that after the step or that before it. -/
  | step (up after : Bool) (target : Expr)
  | binary (op : Operator) (a b : Expr)
  /-- Many values over and over. -/
  | listTimes (items : List Expr) (count : Expr)
  | both (a b : Expr)
  | either (a b : Expr)
  | orDefined (a b : Expr)
  | exclusive (a b : Expr)
  | not (e : Expr)
  | negative (e : Expr)
  | complement (e : Expr)
  | choice (test a b : Expr)
  | range (first last : Expr)
  | reference (e : Expr)
  | newArray (items : List Expr)
  | newTable (items : List Expr)
  | newCode (body : List Statement)
  /-- A function of the program; without arguments it gets those at hand. -/
  | call (name : Raw) (args : Option (List Expr))
  | invoke (code : Expr) (args : Option (List Expr))
  | method (target : Expr) (name : Raw) (code : Option Expr) (args : List Expr)
  /-- A function that is always there. -/
  | builtin (name : String) (args : List Expr)
  /-- A function of a piece of program and values. -/
  | withBlock (name : String) (body : List Statement) (args : List Expr)
  /-- Writes values: what is done with them, and where they go. -/
  | print (how : String) (outlet : Option Expr) (args : List Expr)
  | pattern (text : Expr) (flags : Raw)
  | matches (negated : Bool) (target : Option Expr) (text : Expr) (flags : Raw)
  | substitute (target : Option Expr) (text new : Expr) (flags : Raw)
  | transliterate (target : Option Expr) (source result : Raw) (flags : Raw)
  | readLine (source : Expr)
  | readFiles
  | command (text : Expr)
  | fileTest (letter : Char) (e : Expr)
  | localized (e : Expr)
  | block (body : List Statement)
  | attempt (body : List Statement)
  | leave (exit : Exit) (label : Option Raw)
  | give (values : Option Expr)

/-- A statement. -/
inductive Statement where
  | value (line : Nat) (e : Expr)
  | choice (line : Nat) (branches : List (Expr × List Statement)) (otherwise : List Statement)
  /-- A loop while a test holds, with what is done after each round. -/
  | loop (line : Nat) (label : Option Raw) (test : Option Expr) (body after : List Statement)
  | count (line : Nat) (label : Option Raw) (first : Option Expr) (test step : Option Expr) (body : List Statement)
  /-- A loop over values, a name standing for one after another. -/
  | each (line : Nat) (label : Option Raw) (isOwn : Bool) (name : Raw) (values : Expr) (body : List Statement)
  | block (label : Option Raw) (body : List Statement)
  /-- What is carried out at least once before a test. -/
  | loopAfter (line : Nat) (body : Expr) (test : Expr)
  | define (name : Raw) (body : List Statement)
  | package (name : Raw) (body : Option (List Statement))
  /-- What is carried out before all else. -/
  | atStart (body : List Statement)
  /-- What is carried out at the end, with a number that tells it from others. -/
  | atEnd (number : Nat) (body : List Statement)

end

end RunMeter.Machine.Perl
