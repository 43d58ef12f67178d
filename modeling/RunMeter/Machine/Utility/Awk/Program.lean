import RunMeter.Machine.Raw

/-!
# RunMeter.Machine.Utility.Awk.Program — awk programs

What a program in the language awk is made of: rules, each with a pattern and an action, and functions.

Nothing that is proved depends on this module.
-/

namespace RunMeter.Machine.Awk

/-- An operator of two numbers. -/
inductive Arithmetic where
  | add
  | subtract
  | multiply
  | divide
  | modulo
  | power
  deriving DecidableEq

/-- A comparison. -/
inductive Order where
  | less
  | atMost
  | equal
  | different
  | greater
  | atLeast
  deriving DecidableEq

/-- An expression. -/
inductive Expr where
  | number (value : Float)
  | text (value : Raw)
  /-- A regular expression, which by itself is matched with the record. -/
  | pattern (text : Raw)
  | name (name : Raw)
  | element (name : Raw) (keys : List Expr)
  | field (index : Expr)
  | assign (op : Option Arithmetic) (target value : Expr)
  /-- A step up or down; its value is that after the step or that before it. -/
  | step (up after : Bool) (target : Expr)
  | negative (e : Expr)
  | positive (e : Expr)
  | not (e : Expr)
  | arithmetic (op : Arithmetic) (a b : Expr)
  | joined (a b : Expr)
  | compare (op : Order) (a b : Expr)
  | matches (negated : Bool) (a b : Expr)
  | both (a b : Expr)
  | either (a b : Expr)
  | choice (test a b : Expr)
  | isKey (keys : List Expr) (name : Raw)
  | call (name : Raw) (args : List Expr)
  | builtin (name : Raw) (args : List Expr)
  /-- Reads a record: of the input, of a file, or of what a command writes. -/
  | read (target : Option Expr)
  | readFile (target : Option Expr) (path : Expr)
  | readCommand (target : Option Expr) (command : Expr)
  /-- An expression in parentheses. -/
  | group (e : Expr)

/-- Where output goes. -/
inductive Outlet where
  | standard
  | file (path : Expr)
  | append (path : Expr)
  | command (words : Expr)

/-- A statement. -/
inductive Statement where
  | value (e : Expr)
  | print (values : List Expr) (outlet : Outlet)
  | printf (values : List Expr) (outlet : Outlet)
  | choice (test : Expr) (yes no : List Statement)
  | loop (test : Expr) (body : List Statement)
  | loopAfter (body : List Statement) (test : Expr)
  | count (first : Option Statement) (test : Option Expr) (step : Option Statement) (body : List Statement)
  | each (key name : Raw) (body : List Statement)
  | block (body : List Statement)
  | leave
  | again
  | next
  | nextFile
  | exit (code : Option Expr)
  | give (value : Option Expr)
  | delete (name : Raw) (keys : Option (List Expr))

/-- When a rule applies. -/
inductive Occasion where
  | start
  | finish
  | always
  | when (test : Expr)
  | between (first last : Expr)

/-- A rule. -/
structure Rule where
  occasion : Occasion
  /-- What is done; without anything said the record is shown. -/
  body : Option (List Statement)

/-- A function. -/
structure Function where
  name : Raw
  parameters : List Raw
  body : List Statement

/-- A program. -/
structure Program where
  rules : List Rule
  functions : List Function

end RunMeter.Machine.Awk
