import CodeReview.Html.Reference
import CodeReview.Text.Search

/-!
# CodeReview.Html.Doctype

Document type declarations. All that a page takes from its declaration is whether it is
read in *outdated mode*, the mode for pages that are older than the standards, in which a
table may stand inside a paragraph.
-/

namespace CodeReview.Html

/-- White space between the parts of a tag or a declaration. -/
def isSpace (c : Char) : Bool := c == ' ' || c == '\t' || c == '\n' || c == '\x0c'

/-- A document type declaration. -/
structure Doctype where
  name : List Char := []
  publicId : Option (List Char) := none
  systemId : Option (List Char) := none
  /-- The declaration is broken in a way that asks for outdated mode. -/
  broken : Bool := false
deriving DecidableEq, Repr

namespace Doctype

/-! ### Reading -/

/-- The text in lower case, as far as ASCII goes. -/
def lower (text : List Char) : List Char := text.map Char.toLower

/-- Reads a quoted identifier: its text, and what stands behind it. An identifier that
is not closed takes all. -/
def quoted? : List Char → Option (List Char × Option (List Char))
  | [] => none
  | quote :: text =>
    if quote = '"' ∨ quote = '\'' then
      match text.dropWhile (· ≠ quote) with
      | [] => some (text, none)
      | _ :: rest => some (text.takeWhile (· ≠ quote), some rest)
    else none

/-- Reads a system identifier, which may be missing where `optional` holds. -/
def readSystem (doctype : Doctype) (optional : Bool) (text : List Char) : Doctype :=
  match text.dropWhile isSpace with
  | [] => { doctype with broken := !optional }
  | text =>
    match quoted? text with
    | some (id, rest) => { doctype with systemId := some id, broken := rest.isNone }
    | none => { doctype with broken := true }

/-- Reads a public identifier and perhaps a system identifier. -/
def readPublic (doctype : Doctype) (text : List Char) : Doctype :=
  match quoted? (text.dropWhile isSpace) with
  | some (id, some rest) => readSystem { doctype with publicId := some id } true rest
  | some (id, none) => { doctype with publicId := some id, broken := true }
  | none => { doctype with broken := true }

/-- Reads the text of a declaration, from behind its keyword to its end. -/
def ofText (text : List Char) : Doctype :=
  let text := text.dropWhile isSpace
  let doctype : Doctype := { name := lower (text.takeWhile (!isSpace ·)) }
  match (text.dropWhile (!isSpace ·)).dropWhile isSpace with
  | [] => { doctype with broken := doctype.name.isEmpty }
  | rest =>
    let keyword := lower (rest.take 6)
    if keyword = "public".toList then readPublic doctype (rest.drop 6)
    else if keyword = "system".toList then readSystem doctype false (rest.drop 6)
    else { doctype with broken := true }

/-! ### Outdated mode

A formal public identifier has four parts between double slashes: a dash, an owner, a
description and a language. Old versions of HTML and its dialects are known by owner and
description, in any language. -/

/-- Public identifiers of old versions: the owners with their descriptions. -/
def oldVersions : List (String × List String) := [
  ("silmaril", ["dtd html pro v0r11 19970101"]),
  ("advasoft ltd", ["dtd html 3.0 aswedit + extensions"]),
  ("as", ["dtd html 3.0 aswedit + extensions"]),
  ("ietf", [
    "dtd html 2.0 level 1", "dtd html 2.0 level 2", "dtd html 2.0 strict level 1",
    "dtd html 2.0 strict level 2", "dtd html 2.0 strict", "dtd html 2.0", "dtd html 2.1e",
    "dtd html 3.0", "dtd html 3.2 final", "dtd html 3.2", "dtd html 3", "dtd html level 0",
    "dtd html level 1", "dtd html level 2", "dtd html level 3", "dtd html strict level 0",
    "dtd html strict level 1", "dtd html strict level 2", "dtd html strict level 3",
    "dtd html strict", "dtd html"]),
  ("metrius", ["dtd metrius presentational"]),
  ("microsoft", [
    "dtd internet explorer 2.0 html strict", "dtd internet explorer 2.0 html",
    "dtd internet explorer 2.0 tables", "dtd internet explorer 3.0 html strict",
    "dtd internet explorer 3.0 html", "dtd internet explorer 3.0 tables"]),
  ("netscape comm. corp.", ["dtd html", "dtd strict html"]),
  ("o'reilly and associates", [
    "dtd html 2.0", "dtd html extended 1.0", "dtd html extended relaxed 1.0"]),
  ("softquad software", ["dtd hotmetal pro 6.0::19990601::extensions to html 4.0"]),
  ("softquad", ["dtd hotmetal pro 4.0::19971010::extensions to html 4.0"]),
  ("spyglass", ["dtd html 2.0 extended"]),
  ("sq", ["dtd html 2.0 hotmetal + extensions"]),
  ("sun microsystems corp.", ["dtd hotjava html", "dtd hotjava strict html"]),
  ("w3c", [
    "dtd html 3 1995-03-24", "dtd html 3.2 draft", "dtd html 3.2 final", "dtd html 3.2",
    "dtd html 3.2s draft", "dtd html 4.0 frameset", "dtd html 4.0 transitional",
    "dtd html experimental 19960712", "dtd html experimental 970421", "dtd w3 html"]),
  ("w3o", ["dtd w3 html 3.0"]),
  ("webtechs", ["dtd mozilla html 2.0", "dtd mozilla html"])]

/-- Public identifiers of versions that are old only without a system identifier. -/
def transitionalVersions : List (String × List String) := [
  ("w3c", ["dtd html 4.01 frameset", "dtd html 4.01 transitional"])]

/-- Public identifiers of another form that ask for outdated mode. -/
def oldIdentifiers : List String := [
  "html", "-/w3c/dtd html 4.0 transitional/en", "-//w3o//dtd w3 html strict 3.0//en//"]

/-- The one system identifier that asks for outdated mode, cut at its slashes. -/
def oldSystem : List String := [
  "http:", "", "www.ibm.com", "data", "dtd", "v11", "ibmxhtml1-transitional.dtd"]

/-- A public identifier in lower case is that of one of the versions. -/
def isAmong (id : List Char) (versions : List (String × List String)) : Bool :=
  versions.any fun (owner, descriptions) => descriptions.any fun description =>
    ("-//" ++ owner ++ "//" ++ description ++ "//").toList.isPrefixOf id

/-- A public identifier in lower case asks for outdated mode. -/
def isOldPublic (id : List Char) (lacksSystem : Bool) : Bool :=
  oldIdentifiers.contains (String.ofList id) || isAmong id oldVersions ||
    (lacksSystem && isAmong id transitionalVersions)

/-- A system identifier in lower case asks for outdated mode. -/
def isOldSystem (id : List Char) : Bool := String.ofList id == "/".intercalate oldSystem

/-- The page is read in outdated mode. -/
def isOutdated (doctype : Doctype) : Bool :=
  doctype.broken || doctype.name != "html".toList ||
    (match doctype.publicId with
      | some id => isOldPublic (lower id) doctype.systemId.isNone
      | none => false) ||
    (match doctype.systemId with
      | some id => isOldSystem (lower id)
      | none => false)

end Doctype

end CodeReview.Html
