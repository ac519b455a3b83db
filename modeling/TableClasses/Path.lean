import TableClasses.Text.Split
import TableClasses.Text.Blank

/-!
# Paths

A path is a text of names between slashes. Joining keeps the text as it is, except that a path that
begins with a slash replaces what stands before it. The last name that is neither empty nor a dot is
the file name; its extension is what follows its last dot, which does not count at the front.
`ofClass` is the path of the file in which a class is kept.
-/

namespace TableClasses.Path

open TableClasses.Text

/-- A path behind a base. -/
def joinChars (base path : List Char) : List Char :=
  match path with
  | '/' :: _ => path
  | _ =>
    match base.getLast? with
    | none => path
    | some '/' => base ++ path
    | some _ => base ++ '/' :: path

def join (base path : String) : String := String.ofList (joinChars base.toList path.toList)

/-- The names of a path with the empty ones, without those at the end that name nothing. The list
is given last name first. -/
def stripTrailing : List (List Char) → List (List Char)
  | [] => []
  | [n] => [n]
  | n :: m :: rest => if n = [] ∨ n = ['.'] then stripTrailing (m :: rest) else n :: m :: rest

/-- The names up to the file name, last name first. -/
def namesReversed (path : List Char) : List (List Char) :=
  stripTrailing (pieces (· == '/') path).reverse

/-- Whether a name is that of a file, not of a place. -/
def isFileName (n : List Char) : Bool := n != [] && n != ['.'] && n != ['.', '.']

/-- What stands before and after the last dot of a file name; a dot at the front does not count. -/
def splitExtension (n : List Char) : List Char × Option (List Char) :=
  match splitLast? (· == '.') n with
  | some (c :: stem, extension) => (c :: stem, some extension)
  | _ => (n, none)

def extension? (path : String) : Option String :=
  match namesReversed path.toList with
  | n :: _ => if isFileName n then (splitExtension n).2.map String.ofList else none
  | [] => none

/-- The path with another extension; a path without a file name stays as it is. -/
def withExtension (extension path : List Char) : List Char :=
  match namesReversed path with
  | n :: rest =>
    if isFileName n then
      ['/'].intercalate (((splitExtension n).1 ++ '.' :: extension) :: rest).reverse
    else path
  | [] => path

/-- The name without the given namespace, if it lies inside. -/
def withoutNamespace (ignored name : List Char) : List Char :=
  if ignored = [] then name
  else
    match dropPrefix? ignored name with
    | some ('\\' :: rest) => rest
    | _ => name

/-- The path of the file in which a class is kept: its namespace, less an ignored one in front, as
directories. -/
def ofClass (className ignored : String) : String :=
  let name := trimStart isBackslash className.toList
  let relative := withoutNamespace (trim isBackslash ignored.toList) name
  let segments := (pieces isBackslash relative).filter (· ≠ [])
  String.ofList (withExtension ['p', 'h', 'p'] (segments.foldl joinChars []))

end TableClasses.Path
