import SwiftExistential.Process.Signal
import SwiftExistential.Utility.Options
import SwiftExistential.Utility.Paths

/-!
# Who and where

The programs that say who runs them and on what, and those that only wait or end.

There is one machine for all runs: one user, no terminal, one processor, and a system with fixed
settings. So most of these programs look a text up in a table, and what is left to model is which
facts are asked for, in which order they are shown, and what is a mistake.
-/

set_option autoImplicit false

/-! ## Who someone is

`id` and `groups` tell the numbers and names of users and their groups. Whoever runs a program is
the first user, and sits at no terminal. -/

namespace SwiftExistential.Utility

open Process

/-- A user with the group of the user. -/
structure User where
  number : Nat
  group : Nat

namespace User

def current : User := ⟨0, 0⟩

/-- The groups of users that have another number. -/
def otherGroups : List (Nat × Nat) := [(4, 65534), (5, 60), (6, 12)]

def ofText? (t : Text) : Option User :=
  let digits := if t.head? = some '+' then t.drop 1 else t
  let number := match knownUsers.lookup (String.ofList t) with
    | some n => some n
    | none => (numberIn? [] digits).filter fun n => knownUsers.any fun (_, m) => m = n
  number.map fun n => ⟨n, (otherGroups.lookup n).getD n⟩

def name (u : User) : Text := nameIn knownUsers u.number

def groupName (u : User) : Text := nameIn knownGroups u.group

def line (u : User) : Text :=
  let shown := fun (n : Nat) (name : Text) => '=' :: shownNat n ++ '(' :: name ++ [')']
  "uid".toList ++ shown u.number u.name ++ " gid".toList ++ shown u.group u.groupName ++
    " groups".toList ++ shown u.group u.groupName

end User

def idOptions : Specification :=
  { name := "id", letters := "agGnruzZ",
    words := [("context", 'Z', .none), ("group", 'g', .none), ("groups", 'G', .none), ("name", 'n', .none),
      ("real", 'r', .none), ("user", 'u', .none), ("zero", 'z', .none)] }

def idMistake? (g : Given) : Option String :=
  let choices := ['g', 'G', 'u'].countP g.has
  if g.has 'Z' then some "--context (-Z) works only on an SELinux-enabled kernel"
  else if choices > 1 then some "cannot print \"only\" of more than one choice"
  else if choices = 0 && (g.has 'n' || g.has 'r') then
    some "cannot print only names or real IDs in default format"
  else if choices = 0 && g.has 'z' then some "option --zero not permitted in default format"
  else none

def id' : Utility := fun _ arguments =>
  withOptions idOptions arguments fun g => do
    match idMistake? g with
    | some message =>
        complain "id" message.toList
        return 1
    | none =>
        let show' := fun (u : User) =>
          let isNamed := g.has 'n'
          if g.has 'u' then (if isNamed then u.name else shownNat u.number)
          else if g.has 'g' || g.has 'G' then (if isNamed then u.groupName else shownNat u.group)
          else u.line
        let lineEnd := if g.has 'z' then (if g.has 'G' && g.operands.length > 1 then ['\x00', '\x00'] else ['\x00'])
          else ['\n']
        if g.operands.isEmpty then
          Job.put (show' .current ++ lineEnd)
          return 0
        else forAll (fun t => do
          match User.ofText? t with
          | some u =>
              Job.put (show' u ++ lineEnd)
              return 0
          | none =>
              Job.complain ["id".toList, cited t, "no such user".toList]
              return 1) g.operands

def groupsOptions : Specification := { name := "groups", letters := "" }

def groups : Utility := fun _ arguments =>
  withOptions groupsOptions arguments fun g => do
    if g.operands.isEmpty then
      Job.putLine (User.groupName .current)
      return 0
    else forAll (fun t => do
      match User.ofText? t with
      | some u =>
          Job.putLine (t ++ " : ".toList ++ u.groupName)
          return 0
      | none =>
          Job.complain ["groups".toList, cited t, "no such user".toList]
          return 1) g.operands

/-- A program without options that does one thing. -/
def plainly (name : String) (most : Nat) (work : Job Nat) : Utility := fun _ arguments =>
  withOperands { name := name, letters := "" } most arguments fun _ => work

/-- A program without options that prints a line. -/
def answers (name line : String) : Utility := plainly name 0 do
  Job.putLine line.toList
  return 0

def whoami : Utility := plainly "whoami" 0 do
  Job.putLine (User.name .current)
  return 0

def logname : Utility := plainly "logname" 0 do
  complain "logname" "no login name".toList
  return 1

def users : Utility := plainly "users" 1 (return 0)

def ttyOptions : Specification :=
  { name := "tty", letters := "s", mistake := 2, words := [("quiet", 's', .none), ("silent", 's', .none)] }

def tty : Utility := fun _ arguments =>
  withOptions ttyOptions arguments fun g => do
    match g.operands with
    | extra :: _ => misuse ttyOptions ("extra operand ".toList ++ cited extra)
    | [] =>
        if !g.has 's' then Job.putLine "not a tty".toList
        return 1

end SwiftExistential.Utility

/-! ## Facts about the system -/

namespace SwiftExistential.Utility

open Process

def hostName : String := "localhost"

def processorName : String := "x86_64"

/-- The facts about the system, by the letters that ask for them. -/
def unameFacts : List (Char × String) :=
  [('s', "Linux"), ('n', hostName), ('r', "6.1.0"), ('v', "#1 SMP"), ('m', processorName),
    ('p', processorName), ('i', processorName), ('o', "GNU/Linux")]

def unameOptions : Specification :=
  { name := "uname", letters := "asnrvmpio",
    words := [("all", 'a', .none), ("hardware-platform", 'i', .none), ("kernel-name", 's', .none),
      ("kernel-release", 'r', .none), ("kernel-version", 'v', .none), ("machine", 'm', .none),
      ("nodename", 'n', .none), ("operating-system", 'o', .none), ("processor", 'p', .none),
      ("release", 'r', .none), ("sysname", 's', .none)] }

def uname : Utility := fun _ arguments =>
  withOptions unameOptions arguments fun g => do
    match g.operands with
    | extra :: _ => misuse unameOptions ("extra operand ".toList ++ cited extra)
    | [] =>
        let shown := unameFacts.filter fun (c, _) =>
          g.has c || g.has 'a' || (c == 's' && g.options.isEmpty)
        Job.putLine (Text.join [' '] (shown.map fun (_, fact) => fact.toList))
        return 0

def hostnameUsage : String :=
  "Usage: hostname [-b] \x7bhostname|-F file\x7d         set host name (from file)\n" ++
  "       hostname [-a|-A|-d|-f|-i|-I|-s|-y]       display formatted name\n" ++
  "       hostname                                 display host name\n\n" ++
  "       \x7byp,nis,\x7ddomainname \x7bnisdomain|-F file\x7d  set NIS domain name (from file)\n"

def hostname : Utility := fun _ arguments => do
  match readFrom { name := "hostname", letters := "aAdfiIsyb" } (arguments.length + 1) arguments with
  | .error mistake =>
      complain "hostname" mistake.message
      Job.write 2 hostnameUsage.toList
      return 255
  | .ok g =>
      if g.operands.length > 1 then
        Job.write 2 hostnameUsage.toList
        return 255
      else
        Job.putLine (if g.has 'd' || g.has 'y' then [] else if g.has 'i' then "127.0.0.1".toList else hostName.toList)
        return 0

def nprocOptions : Specification :=
  { name := "nproc", letters := "", words := [("all", 'a', .none), ("ignore", 'i', .one)] }

/-- The number at the start of a variable, unless it is zero. -/
def threadCount? (name : String) : Job (Option Nat) := do
  let t := (← Job.environment? name.toList).getD []
  let found := Number.read 10 (t.takeWhile (· != ','))
  return if found.isNumber && found.rest.isEmpty && found.value > 0 then some found.value.toNat else none

def nproc : Utility := fun _ arguments =>
  withOptions nprocOptions arguments fun g => do
    let ignored := match g.value? 'i' with
      | none => some 0
      | some t => if !t.isEmpty && t.all Char.isDigit then some (Number.value 10 t) else none
    match ignored, g.operands with
    | none, _ =>
        complain "nproc" ("invalid number: ".toList ++ cited ((g.value? 'i').getD []))
        return 1
    | some _, extra :: _ => misuse nprocOptions ("extra operand ".toList ++ cited extra)
    | some n, [] =>
        let wanted ← threadCount? "OMP_NUM_THREADS"
        let limit ← threadCount? "OMP_THREAD_LIMIT"
        let count := if g.has 'a' then 1 else min (wanted.getD 1) (limit.getD 1000)
        Job.putLine (shownNat (max 1 (count - n)))
        return 0

/-! ### Settings -/

/-- The settings of the system. Those without a text are not limited. -/
def settings : List (String × String) :=
  [("ARG_MAX", "2097152"), ("ATEXIT_MAX", "2147483647"), ("CHAR_BIT", "8"), ("CHAR_MAX", "127"),
    ("CHAR_MIN", "-128"), ("CHILD_MAX", "128597"), ("CLK_TCK", "100"), ("CS_PATH", "/bin:/usr/bin"),
    ("GNU_LIBC_VERSION", "glibc 2.39"), ("GNU_LIBPTHREAD_VERSION", "NPTL 2.39"), ("HOST_NAME_MAX", "64"),
    ("INT_MAX", "2147483647"), ("INT_MIN", "-2147483648"), ("IOV_MAX", "1024"), ("LINE_MAX", "2048"),
    ("LOGIN_NAME_MAX", "256"), ("LONG_BIT", "64"), ("MB_LEN_MAX", "16"), ("NGROUPS_MAX", "65536"),
    ("NZERO", "20"), ("OPEN_MAX", "1048576"), ("PAGESIZE", "4096"), ("PAGE_SIZE", "4096"),
    ("PATH", "/bin:/usr/bin"), ("RE_DUP_MAX", "32767"), ("SCHAR_MAX", "127"), ("SCHAR_MIN", "-128"),
    ("SHRT_MAX", "32767"), ("SHRT_MIN", "-32768"), ("SSIZE_MAX", "32767"), ("STREAM_MAX", "16"),
    ("SYMLOOP_MAX", ""), ("TTY_NAME_MAX", "32"), ("TZNAME_MAX", ""), ("UCHAR_MAX", "255"),
    ("UINT_MAX", "4294967295"), ("UIO_MAXIOV", "1024"), ("ULONG_MAX", "18446744073709551615"),
    ("USHRT_MAX", "65535"), ("WORD_BIT", "32"), ("_NPROCESSORS_CONF", "1"), ("_NPROCESSORS_ONLN", "1"),
    ("_POSIX2_VERSION", "200809"), ("POSIX2_VERSION", "200809"), ("_POSIX_ARG_MAX", "2097152"),
    ("_POSIX_JOB_CONTROL", "1"), ("_POSIX_SAVED_IDS", "1"), ("_POSIX_THREADS", "200809"),
    ("_POSIX_VERSION", "200809"), ("_XOPEN_VERSION", "700"), ("BC_BASE_MAX", "99"), ("BC_DIM_MAX", "2048"),
    ("BC_SCALE_MAX", "99"), ("BC_STRING_MAX", "1000"), ("COLL_WEIGHTS_MAX", "255"),
    ("EXPR_NEST_MAX", "32")]

def pathSettings : List (String × String) :=
  [("LINK_MAX", "65000"), ("_POSIX_LINK_MAX", "65000"), ("MAX_CANON", "255"), ("MAX_INPUT", "255"),
    ("NAME_MAX", "255"), ("_POSIX_NAME_MAX", "255"), ("PATH_MAX", "4096"), ("_POSIX_PATH_MAX", "4096"),
    ("PIPE_BUF", "4096"), ("_POSIX_PIPE_BUF", "4096"), ("_POSIX_CHOWN_RESTRICTED", "1"),
    ("_POSIX_NO_TRUNC", "1"), ("_POSIX_VDISABLE", "0"), ("FILESIZEBITS", "64"), ("SYMLINK_MAX", "")]

def getconfUsage : String :=
  "Usage: getconf [-v specification] variable_name [pathname]\n       getconf -a [pathname]\n"

def getconf : Utility := fun _ arguments => do
  let arguments := match arguments with
    | ['-', 'v'] :: _ :: rest => rest
    | ['-', '-'] :: rest => rest
    | rest => rest
  let answer := fun (t : String) => do
    Job.putLine (if t.isEmpty then "undefined" else t).toList
    pure 0
  let usage := do
    Job.write 2 getconfUsage.toList
    pure 2
  match arguments with
  | [name] =>
      match settings.lookup (String.ofList name) with
      | some t => answer t
      | none =>
          if (pathSettings.lookup (String.ofList name)).isSome then usage
          else
            complain "getconf" ("Unrecognized variable \x60".toList ++ name ++ ['\''])
            return 2
  | [name, _] =>
      match pathSettings.lookup (String.ofList name) with
      | some t => answer t
      | none =>
          if (settings.lookup (String.ofList name)).isSome then usage
          else
            complain "getconf" ("Unrecognized variable \x60".toList ++ name ++ ['\''])
            return 2
  | _ => usage

end SwiftExistential.Utility

/-! ## Programs that do next to nothing

Some only end with a status. `sleep` waits on the clock of the machine. `yes` repeats a line, not
without end but up to some length. -/

namespace SwiftExistential.Utility

open Process

/-- Ends with a status. The program answers only questions that stand alone. -/
def justEnds (name : String) (status : Nat) : Utility := fun _ arguments =>
  match arguments with
  | [t] =>
      if t = "--help".toList then do
        Job.putLine (Manual.useLine name)
        return status
      else if t = "--version".toList then do
        Job.putVersion (Manual.versionLine name)
        return status
      else return status
  | _ => return status

def sleepOptions : Specification := { name := "sleep", letters := "" }

def sleep : Utility := fun _ arguments =>
  withOptions sleepOptions arguments fun g => do
    if g.operands.isEmpty then misuse sleepOptions "missing operand".toList
    else match (g.operands.filter fun t => (Duration.ofText? t).isNone).reverse with
    | last :: before =>
        let message := fun (t : Text) => "invalid time interval ".toList ++ cited t
        before.reverse.forM fun t => complain "sleep" (message t)
        misuse sleepOptions (message last)
    | [] =>
        modify fun m => m.elapse ((Duration.ofTexts? g.operands).getD 0)
        return 0

/-- The octets that `yes` writes before nobody reads any more. -/
def yesLength : Nat := 100000

def yes : Utility := fun _ arguments =>
  withOptions { name := "yes", letters := "", isMixed := false } arguments fun g => do
    let line := (if g.operands.isEmpty then ['y'] else Text.join [' '] g.operands) ++ ['\n']
    Job.put (List.replicate (yesLength / line.length + 1) line).flatten
    return 1

def syncOptions : Specification :=
  { name := "sync", letters := "df", words := [("data", 'd', .none), ("file-system", 'f', .none)] }

def sync : Utility := fun _ arguments =>
  withOptions syncOptions arguments fun g => do
    let failed := fun (message : String) => do
      complain "sync" message.toList
      pure 1
    if g.has 'd' && g.has 'f' then failed "cannot specify both --data and --file-system"
    else if g.has 'd' && g.operands.isEmpty then failed "--data needs at least one argument"
    else forAll (fun path => do
      match ← Job.find path with
      | .ok _ => return 0
      | .error e =>
          complainOf "sync" "error opening " path e
          return 1) g.operands

end SwiftExistential.Utility
