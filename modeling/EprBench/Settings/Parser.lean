import EprBench.Settings.Basic

/-! Settings from the text of a file: section headers in brackets, keys with `=` or `:`, comments after `#` or `;`,
and lines that go on with a value. -/
namespace EprBench.Settings

open Text

structure OpenKey where
  name : String
  lines : List String

structure Progress where
  settings : Settings := {}
  current : Option String := none
  key : Option OpenKey := none
  indent : Nat := 0
  seenSections : List String := []
  seenKeys : List (String × String) := []
  unreadable : Bool := false

namespace Progress

def joined (lines : List String) : String :=
  String.ofList (trimRight ("\n".intercalate lines).toList)

def close (p : Progress) : Progress :=
  match p.current, p.key with
  | some name, some k =>
    { p with settings := p.settings.updateSection name (·.put k.name (joined k.lines)), key := none }
  | _, _ => { p with key := none }

def addLine (p : Progress) (line : String) : Progress :=
  { p with key := p.key.map fun k => { k with lines := k.lines ++ [line] } }

end Progress

/-- A header is everything from `[` to the last `]` of the line, with at least one character in it. -/
def header? (value : List Char) : Option String :=
  match value with
  | '[' :: rest =>
    match rest.reverse.dropWhile (· != ']') with
    | ']' :: inner => if inner.isEmpty then none else some (String.ofList inner.reverse)
    | _ => none
  | _ => none

def keyValue? (value : List Char) : Option (List Char × List Char) :=
  let key := value.takeWhile fun c => c != '=' && c != ':'
  match value.drop key.length with
  | _ :: rest => some (trimRight key, trim rest)
  | [] => none

def isComment : List Char → Bool
  | '#' :: _ | ';' :: _ => true
  | _ => false

def readLine (p : Progress) (line : List Char) : Except SettingsFault Progress :=
  let value := trim line
  if isComment value then .ok p
  else if value.isEmpty then .ok (p.addLine "")
  else
    let indent := (line.takeWhile isBlank).length
    if p.current.isSome && p.key.isSome && indent > p.indent then
      .ok (p.addLine (String.ofList value))
    else
      let p := { p with indent := indent }
      match header? value with
      | some name =>
        if p.seenSections.contains name && name != commonSection then .error .duplicateSection
        else
          let p := p.close
          .ok { p with
            settings := p.settings.updateSection name id
            current := some name
            seenSections := name :: p.seenSections }
      | none =>
        match p.current with
        | none => .error .missingHeader
        | some name =>
          match keyValue? value with
          | none => .ok { p with unreadable := true }
          | some (key, text) =>
            let key' := Text.lower (String.ofList key)
            if p.seenKeys.contains (name, key') then .error .duplicateOption
            else
              let p := p.close
              .ok { p with
                key := if key.isEmpty then none else some ⟨key', [String.ofList text]⟩
                seenKeys := (name, key') :: p.seenKeys
                unreadable := p.unreadable || key.isEmpty }

def parse (text : String) (known : Settings := {}) : Except SettingsFault Settings := do
  let p ← (splitAt '\n' (plainLineEnds text.toList)).foldlM readLine ({ settings := known } : Progress)
  if p.unreadable then .error .unreadableLine else return p.close.settings

end EprBench.Settings
