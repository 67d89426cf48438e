import EprBench.Bench
import EprBench.Settings.Parser

/-! Files of the working directory. A path is a name in it, with or without the directory in front. -/
namespace EprBench.Bench

def workingDirectory : String := "<cwd>"

def plainPath (path : String) : String :=
  "/".intercalate ((path.pieces '/').filter fun part => part != "." && part != "")

def localName (path : String) : String :=
  match Text.dropFront? (workingDirectory ++ "/").toList path.toList with
  | some rest => plainPath (String.ofList rest)
  | none => if path.startsWith "/" then path else plainPath path

def fileText? (path : String) : Work (Option String) :=
  return (← get).files.lookup (localName path)

def putFile (path text : String) : Work Unit := do
  let b ← get
  let name := localName path
  let files : List (String × String) :=
    if b.files.any (·.1 == name) then b.files.map fun e => if e.1 == name then (name, text) else e
    else b.files ++ [(name, text)]
  modify fun b => { b with files := files }

def appendFile (path text : String) : Work Unit := do
  putFile path (((← fileText? path).getD "") ++ text)

def isDirectory (name : String) : Work Bool := do
  let inside := (name ++ "/").toList
  return (← get).files.any fun e => (Text.dropFront? inside e.1.toList).isSome

def directory? (name : String) : Option String :=
  match (name.pieces '/').dropLast with
  | [] => none
  | above => some ("/".intercalate above)

inductive Access where
  | read
  | replace
  | append
  | create
  deriving Repr, DecidableEq

structure Opening where
  access : Access
  update : Bool := false

def Access.ofLetter? : Char → Option Access
  | 'r' => some .read
  | 'w' => some .replace
  | 'a' => some .append
  | 'x' => some .create
  | _ => none

/-- An opening is written as one letter for the access and marks in any order: a plus sign for updating, and one of
`t` and `b` for text or bytes. -/
def Opening.ofText (s : String) : Outcome Opening :=
  let letters := s.toList
  let marks := letters.filter fun c => (Access.ofLetter? c).isNone
  let known := marks.all fun c => c == '+' || c == 't' || c == 'b'
  let clashing := letters.contains 't' && letters.contains 'b'
  match letters.filterMap Access.ofLetter? with
  | [access] =>
    if known && !clashing && marks.eraseDups == marks then .ok ⟨access, marks.contains '+'⟩
    else .error .wrongValue
  | _ => .error .wrongValue

structure Handle where
  name : String
  writable : Bool
  /-- So many characters from the start the next text goes; without a place it goes to the end. -/
  place : Option Nat := none

def openFile (path : String) (opening : Opening) : Work Handle := do
  if path.toList.contains '\x00' then throw .wrongValue
  let name := localName path
  if name.isEmpty then throw .fileMissing
  if ← isDirectory name then throw (if opening.access == .create then .fileExists else .notAFile)
  if let some above := directory? name then
    if !(← isDirectory above) then throw .fileMissing
  match opening.access, ← fileText? name with
  | .read, none => throw .fileMissing
  | .read, some _ => return ⟨name, opening.update, some 0⟩
  | .append, some _ => return ⟨name, true, none⟩
  | .create, some _ => throw .fileExists
  | _, _ =>
    putFile name ""
    return ⟨name, true, none⟩

def Handle.write (h : Handle) (text : String) : Work Handle := do
  if !h.writable then throw .notSupported
  match h.place with
  | none =>
    appendFile h.name text
    return h
  | some n =>
    let old := ((← fileText? h.name).getD "").toList
    putFile h.name (String.ofList (old.take n ++ text.toList ++ old.drop (n + text.length)))
    return { h with place := some (n + text.length) }

def readFile (path : String) : Work (List Char) := do
  let h ← openFile path ⟨.read, false⟩
  return Text.plainLineEnds ((← fileText? h.name).getD "").toList

def adjusted (s : Settings) : Work Settings := return s.change (← get).changes

def addSettings (s : Settings) (path : String) : Work Settings := do
  if path.contains '\x00' then throw .wrongValue
  match ← fileText? path with
  | none => return s
  | some text =>
    match Settings.parse text s with
    | .ok s => return s
    | .error f => throw (.settings f)

def settingsFiles (paths : List String) : Work Settings := do
  adjusted (← paths.foldlM addSettings {})

end EprBench.Bench
