/-
**Where a store is kept.**

A store is kept in memory or in a file.  A file store begins empty and outlives the program; one in
memory does not.  A file can be opened when its directory exists; of directories only the working
directory, its parents and the root are taken to exist.

Main definitions:

* `ContactBook.Location`, `ContactBook.Location.ofText` — places, and how settings write them;
* `ContactBook.Location.openNew` — a new store at a place;
* `ContactBook.Location.reopen` — what a store holds that is closed and opened again.
-/

import ContactBook.Fault
import ContactBook.Store
import ContactBook.Text.Blank

set_option autoImplicit false

namespace ContactBook

/-- A place for a store. -/
inductive Location where
  | memory
  | file (path : String)
  deriving DecidableEq, Repr

namespace Location

/-- The place that a text names; blanks around it do not count. -/
def ofText (text : String) : Location :=
  let text := Text.trim text
  if text == "" || text == ":memory:" then .memory else .file text

/-- The parts of a path between its slashes. -/
def parts : List Char → List (List Char)
  | [] => [[]]
  | c :: rest =>
    if c == '/' then [] :: parts rest
    else
      match parts rest with
      | [] => [[c]]
      | part :: more => (c :: part) :: more

/-- Whether a part of a path stays among the directories that exist. -/
def staysPut (part : List Char) : Bool := part == [] || part == ['.'] || part == ['.', '.']

/-- Whether there can be a file at a path: all its parts but the last stay put, and the last is a
name. -/
def isReachable (path : String) : Bool :=
  match (parts path.toList).reverse with
  | [] => false
  | last :: directories => !staysPut last && directories.all staysPut

/-- Opens a store that was not there before. -/
def openNew : Location → Except Fault Store
  | .memory => .ok .empty
  | .file path =>
    if isReachable path then .ok .empty
    else .error (.storage ("unable to open database file: " ++ path))

/-- The store at a place after it was closed and opened again. -/
def reopen (l : Location) (s : Store) : Store :=
  match l with
  | .memory => .empty
  | .file _ => s

example : ofText " :memory: " = .memory := by decide +kernel
example : isReachable "./x.db" = true := by decide +kernel
example : isReachable "nodir/x.db" = false := by decide +kernel

end Location

end ContactBook
