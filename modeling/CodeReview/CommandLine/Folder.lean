import CodeReview.Text.Pieces

/-!
# CodeReview.CommandLine.Folder

The folder that a program runs in, and the tree of all files around it.

Design points:

* A place is the list of names from the root. There are no links, so a file has one place.
* A path starts at the root if it starts with a slash, else at the folder that the program
  runs in. The names on it are followed one by one: `..` goes to the folder around (the
  root is its own), an empty name and `.` stay, and any other one must be that of a folder.
  Only the last one is that of a file, which need not be there.
* A path that is too long, or has too long a name on it, leads nowhere.
* Files hold text, but for devices, which stand for streams. Some may not be read, some
  may not be written.
* What a file is in is a folder, and a folder is no file. So every list of files is a tree.
-/

namespace CodeReview

open Text

/-- Where something is: the names of the folders on the way from the root, and its own. -/
abbrev FilePlace := List String

/-- A stream that has a place among the files. -/
inductive Device
  /-- It is empty and keeps nothing. -/
  | null
  | standardInput
  | standardOutput
deriving DecidableEq, Repr

/-- What is read from a device. The standard output never gives anything. -/
def Device.text? (input : String) : Device → Option String
  | null => some ""
  | standardInput => some input
  | standardOutput => none

/-- What is printed of a text that is written to a device. -/
def Device.printed (text : String) : Device → String
  | standardOutput => text
  | null | standardInput => ""

/-- What is in a file. -/
inductive Content
  | text (text : String)
  | device (device : Device)
deriving DecidableEq, Repr

/-- A folder and the tree that it is in. -/
structure Folder where
  files : List (FilePlace × Content)
  /-- Folders besides those that files are in. -/
  folders : List FilePlace := []
  /-- Where the folder itself is. -/
  here : FilePlace := []
  /-- Where nothing may be read. -/
  unreadable : List FilePlace := []
  /-- Where nothing may be written. -/
  unwritable : List FilePlace := []
deriving DecidableEq, Repr

namespace Folder

/-! ### Paths -/

/-- The names on a path. -/
def names (path : String) : List String := (pieces '/' path.toList).map String.ofList

/-- A name that stands for the folder it is in. -/
def isHere (name : String) : Bool := name = "" || name = "."

/-- The longest name, in bytes. -/
def nameLimit : Nat := 255

/-- The longest path, in bytes. -/
def pathLimit : Nat := 4095

/-- The path and the names on it are short enough. -/
def isShort (path : String) : Bool :=
  path.utf8ByteSize ≤ pathLimit && (names path).all (·.utf8ByteSize ≤ nameLimit)

/-- The folders that are stated, or that a file is in. All others are around these. -/
def innerFolders (folder : Folder) : List FilePlace :=
  folder.here :: folder.folders ++ folder.files.map (·.1.dropLast)

/-- There is a folder at the place. -/
def isFolder (folder : Folder) (place : FilePlace) : Bool :=
  folder.innerFolders.any (place.isPrefixOf ·)

/-- Follows names from folder to folder. -/
def follow? (folder : Folder) (place : FilePlace) : List String → Option FilePlace
  | [] => some place
  | name :: names =>
    if isHere name then folder.follow? place names
    else if name = ".." then folder.follow? place.dropLast names
    else if folder.isFolder (place ++ [name]) then folder.follow? (place ++ [name]) names
    else none

/-- The folder that a path starts at. -/
def start (folder : Folder) (path : String) : FilePlace :=
  if path.toList.head? = some '/' then [] else folder.here

/-- The place that a path to a file leads to; there need not be a file. -/
def place? (folder : Folder) (path : String) : Option FilePlace :=
  match (names path).reverse with
  | [] => none
  | last :: above =>
    if !isShort path || isHere last || last = ".." then none
    else (folder.follow? (folder.start path) above.reverse).map (· ++ [last])

/-! ### Files -/

/-- What is in the file at a place. -/
def content? (folder : Folder) (place : FilePlace) : Option Content :=
  if folder.isFolder place then none else folder.files.lookup place

/-- The device that a path leads to. -/
def device? (folder : Folder) (path : String) : Option Device :=
  match (folder.place? path).bind folder.content? with
  | some (.device device) => some device
  | _ => none

/-- What is read at a place, given the standard input. -/
def textAt? (folder : Folder) (input : String) (place : FilePlace) : Option String :=
  if place ∈ folder.unreadable then none
  else
    match folder.content? place with
    | some (.text text) => some text
    | some (.device device) => device.text? input
    | none => none

/-- What is read where a path leads. -/
def read? (folder : Folder) (path : String) (input : String := "") : Option String :=
  (folder.place? path).bind (folder.textAt? input)

/-- The folder with a text at a place. -/
def put (folder : Folder) (place : FilePlace) (text : String) : Folder :=
  { folder with files := (place, .text text) :: folder.files.filter (·.1 != place) }

/-- Writes a text where a path leads, if that is not nowhere or to a folder. Devices stay as they
are. -/
def write? (folder : Folder) (path text : String) : Option Folder :=
  (folder.place? path).bind fun place =>
    if folder.isFolder place || place ∈ folder.unwritable then none
    else if (folder.device? path).isSome then some folder
    else some (folder.put place text)

/-- What is printed when a text is written where a path leads. -/
def printed (folder : Folder) (path text : String) : String :=
  match folder.device? path with
  | some device => device.printed text
  | none => ""

/-- The folder and those around it, from the inside out. -/
def around (folder : Folder) : List FilePlace :=
  (List.range (folder.here.length + 1)).reverse.map folder.here.take

/-- What is read from the first file with a name that is met on the way to the root. Folders and
devices with the name are passed by. -/
def readNearest? (folder : Folder) (name : String) : Option String := do
  let place ← (folder.around.map (· ++ [name])).find? fun place =>
    match folder.content? place with
    | some (.text _) => true
    | _ => false
  folder.textAt? "" place

/-- A folder with texts at given paths, where there are the usual devices besides. -/
def ofList (files : List (String × String)) : Folder :=
  let here := ["tmp", "review"]
  { files := files.map (fun (path, text) => (here ++ (names path).filter (!isHere ·), .text text)) ++
      [(["dev", "null"], .device .null), (["dev", "stdin"], .device .standardInput),
        (["dev", "stdout"], .device .standardOutput)]
    here }

end Folder

end CodeReview
