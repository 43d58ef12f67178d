import RunMeter.Machine.Utility.Call

/-!
# RunMeter.Machine.Utility.Notice — what a program tells about itself

A program whose only word is `--version` or `--help` writes a notice in place of its work.

* `Edition`: the collection that a program comes with, who holds it, and the terms it may be used on.
* `Notice.version`, `Notice.help`: the two notices.
* `Notice.before`: a program with notices before its work.

Nothing that is proved depends on this module.
-/

namespace RunMeter.Machine

/-- The collection that programs come with. -/
structure Edition where
  title : String
  number : String
  year : Nat
  /-- The page of the collection, whose parts are the pages of its programs. -/
  page : String × String
  holder : String
  /-- The terms in short, in full, and their page. -/
  terms : String × String × (String × String)

/-- What there is to say about one program of a collection. -/
structure Notice where
  edition : Edition
  /-- How the program is called, and what it does. -/
  uses : List String
  purpose : String
  writer : String

namespace Notice

/-- A page by its host and its path, as it stands in a text. -/
def link (page : String × String) : String :=
  "<https:" ++ "//" ++ page.1 ++ "/" ++ page.2 ++ ">"

/-- The edition, the terms and the writer of a program. -/
def version (n : Notice) (name : String) : List String :=
  let e := n.edition
  let (short, full, page) := e.terms
  [name ++ " (" ++ e.title ++ ") " ++ e.number,
   " ".intercalate ["Copyright", "(C)", toString e.year, e.holder],
   " ".intercalate ["License", short ++ ":", full, link page ++ "."],
   "This is free software: you are free to change and redistribute it.",
   "There is NO WARRANTY, to the extent permitted by law.",
   "",
   " ".intercalate ["Written", "by", n.writer ++ "."]]

/-- How a program is used, by the name that it was called by and by its own one.  A shell that has a command of that
name is told of. -/
def help (n : Notice) (calledAs name : String) : List String :=
  let (host, path) := n.edition.page
  ((n.uses.zipIdx).map fun (use, i) => (if i = 0 then "Usage: " else "  or:  ") ++ calledAs ++ " " ++ use) ++
  [n.purpose,
   "",
   "      --help        display this help and exit",
   "      --version     output version information and exit",
   "",
   "NOTE: your shell may have its own version of " ++ name ++ ", which usually supersedes",
   "the version described here.  Please refer to your shell's documentation",
   "for details about the options it supports.",
   "",
   n.edition.title ++ " online help: " ++ link (host, path),
   "Report any translation bugs to " ++ link ("translationproject.org", "team/"),
   "Full documentation " ++ link (host, path ++ name),
   "or available locally via: info '(coreutils) " ++ name ++ " invocation'"]

/-- A program that writes a notice if its only word asks for one, and does its work otherwise.  It ends with the same
code in the first case, whatever was asked for. -/
def before (n : Notice) (name : String) (code : UInt8) (work : Utility) : Utility := fun c => do
  let lines := match c.args.map Raw.text with
    | ["--version"] => n.version name
    | ["--help"] => n.help (Raw.text c.name) name
    | _ => []
  if lines.isEmpty then work c
  else
    c.emit ("\n".intercalate lines ++ "\n").toList 1
    return code

end Notice

/-- The edition of the small programs. -/
def Edition.small : Edition :=
  ⟨"GNU coreutils", "9.1", 2022, ("www.gnu.org", "software/coreutils/"), "Free Software Foundation, Inc.",
   ("GPLv3+", "GNU GPL version 3 or later", ("gnu.org", "licenses/gpl.html"))⟩

/-- What a program that only ends with a code says about itself. -/
def Notice.ofVerdict (meaning : String) : Notice :=
  ⟨.small, ["[ignored command line arguments]", "OPTION"], "Exit with a status code indicating " ++ meaning ++ ".", "Jim Meyering"⟩

end RunMeter.Machine
