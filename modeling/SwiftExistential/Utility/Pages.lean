import SwiftExistential.Utility.Pages.Printer
import SwiftExistential.Utility.Times

/-!
# Files in pages

`pr` prints files in pages with a head, in columns if that is asked for. Files are printed one after
the other, or side by side in the columns of one page.

This module has the options and the files; the layout and the printing are in two others. The time
in the head is that of the file, or of the present for the input.
-/

set_option autoImplicit false

namespace SwiftExistential.Utility.Pages

open Process

def options : Specification :=
  { name := "pr", letters := "0123456789D:FJN:S::TW:abcde::fh:i::l:mn::o:rs::tvw:",
    words := [("pages", 'P', .one), ("columns", 'C', .one), ("across", 'a', .none),
      ("show-control-chars", 'c', .none), ("double-space", 'd', .none), ("date-format", 'D', .one),
      ("expand-tabs", 'e', .optional), ("form-feed", 'f', .none), ("header", 'h', .one),
      ("output-tabs", 'i', .optional), ("join-lines", 'J', .none), ("length", 'l', .one), ("merge", 'm', .none),
      ("number-lines", 'n', .optional), ("first-line-number", 'N', .one), ("indent", 'o', .one),
      ("no-file-warnings", 'r', .none), ("separator", 's', .optional), ("sep-string", 'S', .optional),
      ("omit-header", 't', .none), ("omit-pagination", 'T', .none), ("show-nonprinting", 'v', .none),
      ("width", 'w', .one), ("page-width", 'W', .one)] }

def Asked.withAll (a : Asked) : List (Char × Text) → Except Mistake Asked
  | [] => .ok a
  | (c, t) :: rest =>
      match a.withOption c t with
      | .error m => .error m
      | .ok a => a.withAll rest

/-- Takes a range of pages, which begins with a plus sign, out of the paths. There is one at most.
-/
def Asked.withPages (a : Asked) : List Text → Except Mistake (Asked × List Text)
  | [] => .ok (a, [])
  | path :: rest =>
      let others := (a.withPages rest).map fun (a, paths) => (a, path :: paths)
      match path with
      | '+' :: range =>
          if a.first.isSome then others
          else match pages? "+" range with
            | .error m => .error m
            | .ok none => others
            | .ok (some (first, last)) => .ok ({ a with first := some first, last }, rest)
      | _ => others

def ask (g : Given) : Except Mistake (Asked × List Text) := do
  let a ← ({} : Asked).withAll g.options
  let (a, paths) ← a.withPages g.operands
  let a ← a.finish (g.has 's' || g.has 'w')
  return (a, paths)

/-- The files that can be opened, with their paths, what they hold, and whether this can be read;
and the status. -/
def openAll (isQuiet : Bool) : List Text → Job (List (Text × Text × Bool) × Nat)
  | [] => return ([], 0)
  | path :: rest => do
      let found ← Job.readSource path
      let add := fun (content : Text) (isReadable : Bool) => do
        let (others, status) ← openAll isQuiet rest
        pure ((path, content, isReadable) :: others, status)
      match found with
      | .ok content => add content true
      | .error .isDirectory => add [] false
      | .error e =>
          if !isQuiet then Job.complain ["pr".toList, readable path, reason e]
          return ((← openAll isQuiet rest).1, 1)

def changed (path : Text) : Job Int := do
  let now ← present
  let tree ← Job.tree
  return match tree.find (Octets.toText path) with
    | .ok (location, _) => (tree.recordAt location).modified
    | .error _ => now

/-- Prints files at once, of which there were to be so many. Returns whether the program goes on,
and the status. -/
def printFiles (a : Asked) (path : Option Text) (count : Nat) (files : List (Text × Text × Bool)) :
    Job (Bool × Nat) := do
  match a.style count with
  | .error message =>
      complain "pr" message
      return (false, 1)
  | .ok style =>
      let style := if style.isParallel then { style with columns := files.length } else style
      let path := path.filter (· != ['-'])
      let time ← match path with
        | some p => changed p
        | none => present
      let date := Moment.format time (a.date.getD "%Y-%m-%d %H:%M".toList)
      let unreadable :=
        (List.range files.length).filter fun i => (files[i]?).any fun (_, _, isReadable) => !isReadable
      let setting : Setting := ⟨style, date, a.title.getD (path.getD []), unreadable⟩
      let printed := paginate setting (files.map fun (_, content, _) => content)
      Job.put printed.text
      match printed.pages with
      | some n =>
          complain "pr" ("starting page number ".toList ++ shownNat style.first ++ " exceeds page count ".toList ++
            shownNat n)
      | none => pure ()
      match printed.failed.bind fun i => files[i]? with
      | some (name, _, _) =>
          Job.complain ["pr".toList, if name = ['-'] then "standard input".toList else readable name,
            reason .isDirectory]
          return (false, 1)
      | none => return (true, 0)

def printEachFile (a : Asked) : List Text → Job Nat
  | [] => return 0
  | path :: rest => do
      let (files, status) ← openAll a.isQuiet [path]
      match a.style 1 with
      | .error message =>
          complain "pr" message
          return 1
      | .ok _ =>
          let (goesOn, printed) ← if files.isEmpty then pure (true, 0) else printFiles a (some path) 1 files
          if goesOn then return max status (max printed (← printEachFile a rest)) else return printed

end Pages

open Process in
def pr : Utility := fun _ arguments =>
  withOptions Pages.options arguments fun g => do
    match Pages.ask g with
    | .error m =>
        if m.hasHint then misuse Pages.options m.message
        else
          complain "pr" m.message
          return 1
    | .ok (a, []) =>
        match ← Job.input with
        | .ok content => return (← Pages.printFiles a none 0 [(['-'], content, true)]).2
        | .error _ =>
            complain "pr" "standard input: Is a directory".toList
            return 1
    | .ok (a, paths) =>
        if a.isParallel then
          let (files, status) ← Pages.openAll a.isQuiet paths
          if files.isEmpty then return status
          else return max status (← Pages.printFiles a none paths.length files).2
        else Pages.printEachFile a paths

end SwiftExistential.Utility
