import LexKit.Text.Basic

/-!
Where the text to be tokenized comes from.

A path is looked up part by part, starting from a working directory or from the root.  Of the world
outside the working directory only the directories are known that every system has.
-/

namespace LexKit

/-- Why an input could not be read. -/
inductive ReadError where
  | notFound
  | notADirectory
  | isADirectory
  | nameTooLong
  | nullInName
  | invalidUtf8
  deriving DecidableEq

/-- What is said about an input that could not be read. -/
def ReadError.message : ReadError → Text
  | notFound => "No such file or directory (os error 2)".toList
  | notADirectory => "Not a directory (os error 20)".toList
  | isADirectory => "Is a directory (os error 21)".toList
  | nameTooLong => "File name too long (os error 36)".toList
  | nullInName => "file name contained an unexpected NUL byte".toList
  | invalidUtf8 => "stream did not contain valid UTF-8".toList

/-- The text that bytes hold in UTF-8. -/
def decodeUtf8 (bytes : ByteArray) : Except ReadError Text :=
  match String.fromUTF8? bytes with
  | some contents => .ok contents.toList
  | none => .error .invalidUtf8

/-- A working directory: the files in it by name, and how many levels it lies below the root. -/
structure Directory where
  files : List (Text × ByteArray) := []
  depth : Nat := 2

/-- A place on the way along a path. -/
inductive Place where
  /-- The directory so many levels above the working directory, which itself is at level zero. -/
  | ancestor (height : Nat)
  /-- A directory by the names that lead to it from the root. -/
  | directory (names : List Text)
  | file (contents : ByteArray)

/-- The directories that every system has, by their paths from the root. -/
def systemDirectories : List (List Text) :=
  ["boot", "dev", "dev/pts", "dev/shm", "etc", "etc/opt", "home", "media", "mnt", "opt", "proc",
    "root", "run", "run/lock", "srv", "sys", "tmp", "usr", "usr/bin", "usr/games", "usr/include",
    "usr/lib", "usr/lib64", "usr/local", "usr/local/bin", "usr/local/etc", "usr/local/games",
    "usr/local/include", "usr/local/lib", "usr/local/sbin", "usr/local/share", "usr/local/src",
    "usr/sbin", "usr/share", "usr/share/doc", "usr/share/man", "usr/src", "var", "var/backups",
    "var/cache", "var/lib", "var/local", "var/log", "var/mail", "var/opt", "var/spool",
    "var/tmp"].map fun path => path.toList.splitOn '/'

/-- The system directories that go by a second path. -/
def systemLinks : List (List Text × List Text) :=
  [("bin", "usr/bin"), ("sbin", "usr/sbin"), ("lib", "usr/lib"), ("lib64", "usr/lib64"),
    ("var/lock", "run/lock"), ("var/run", "run")].map fun (link, target) =>
      (link.toList.splitOn '/', target.toList.splitOn '/')

namespace Directory

/-- The place a number of levels above the working directory.  There is nothing above the root. -/
def above (directory : Directory) (height : Nat) : Place :=
  if height < directory.depth then .ancestor height else .directory []

/-- The longest name of a file, in bytes. -/
def longestName : Nat := 255

/-- The longest path, in bytes. -/
def longestPath : Nat := 4095

/-- Go from a place to the one with the given name in it.  An empty name and a single dot stay, two
dots go up, and nothing lies below a file. -/
def enter (directory : Directory) (place : Place) (name : Text) : Except ReadError Place :=
  match place with
  | .file _ => .error .notADirectory
  | .ancestor height =>
      if name.isEmpty || name == ['.'] then .ok (.ancestor height)
      else if name == ['.', '.'] then .ok (directory.above (height + 1))
      else if longestName < name.byteSize then .error .nameTooLong
      else match height, directory.files.lookup name with
        | 0, some contents => .ok (.file contents)
        | _, _ => .error .notFound
  | .directory names =>
      if name.isEmpty || name == ['.'] then .ok (.directory names)
      else if name == ['.', '.'] then .ok (.directory names.dropLast)
      else if longestName < name.byteSize then .error .nameTooLong
      else match systemLinks.lookup (names ++ [name]) with
        | some target => .ok (.directory target)
        | none =>
            if systemDirectories.contains (names ++ [name]) then .ok (.directory (names ++ [name]))
            else .error .notFound

/-- The place to which a path leads, step by step. -/
def walk (directory : Directory) : Text → Except ReadError Place
  | [] => .error .notFound
  | '/' :: path => (path.splitOn '/').foldlM directory.enter (.directory [])
  | path => (path.splitOn '/').foldlM directory.enter (.ancestor 0)

/-- The place to which a path leads.  A path that no file can have is refused before any step. -/
def resolve (directory : Directory) (path : Text) : Except ReadError Place :=
  if path.contains '\x00' then .error .nullInName
  else if longestPath < path.byteSize then .error .nameTooLong
  else directory.walk path

/-- The bytes of the file to which a path leads. -/
def read (directory : Directory) (path : Text) : Except ReadError ByteArray :=
  match directory.resolve path with
  | .ok (.file contents) => .ok contents
  | .ok _ => .error .isADirectory
  | .error error => .error error

end Directory

end LexKit
