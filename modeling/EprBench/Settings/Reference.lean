import EprBench.Settings.Basic

/-! References inside values: `%(key)s` stands for the value of another key of the section, and `%%`
for a percent sign. References may be nested, up to ten deep. -/
namespace EprBench.Settings

def takeReference (cs : List Char) : Option (String × List Char) :=
  match cs with
  | '(' :: rest =>
    let key := rest.takeWhile (· != ')')
    match rest.drop key.length with
    | ')' :: 's' :: after => if key.isEmpty then none else some (String.ofList key, after)
    | _ => none
  | _ => none

theorem takeReference_shorter {cs after : List Char} {key : String}
    (h : takeReference cs = some (key, after)) : after.length < cs.length := by
  unfold takeReference at h
  split at h
  next rest =>
    simp only at h
    split at h
    next after' heq =>
      split at h
      · simp at h
      · simp only [Option.some.injEq, Prod.mk.injEq] at h
        have len := congrArg List.length heq
        simp only [List.length_drop, List.length_cons] at len
        have : after'.length = after.length := congrArg List.length h.2
        simp only [List.length_cons]
        omega
    · simp at h
  · simp at h

def expand (keys : Entries) (depth : Nat) (cs : List Char) : Except SettingsFault (List Char) :=
  match depth with
  | 0 => .error .endlessReference
  | depth + 1 =>
    match cs with
    | [] => .ok []
    | '%' :: '%' :: rest => do return '%' :: (← expand keys (depth + 1) rest)
    | '%' :: rest =>
      match _h : takeReference rest with
      | none => .error .badReference
      | some (key, after) =>
        match keys.lookup (Text.lower key) with
        | none => .error .unknownReference
        | some value => do
          let inner ←
            if value.toList.contains '%' then expand keys depth value.toList else pure value.toList
          return inner ++ (← expand keys (depth + 1) after)
    | c :: rest => do return c :: (← expand keys (depth + 1) rest)
termination_by (depth, cs.length)
decreasing_by
  · exact Prod.Lex.right _ (by simp only [List.length_cons]; omega)
  · have := takeReference_shorter _h
    exact Prod.Lex.right _ (by simp only [List.length_cons]; omega)
  · exact Prod.Lex.left _ _ (by omega)
  · exact Prod.Lex.right _ (by simp)

def maxDepth : Nat := 10

def expandText (keys : Entries) (value : String) : Outcome String :=
  match expand keys maxDepth value.toList with
  | .ok cs => .ok (String.ofList cs)
  | .error f => .error (.settings f)

def get (s : Settings) (name key : String) : Outcome String :=
  let own := if name == commonSection then some [] else s.section? name
  match own with
  | none => .error .noKey
  | some es =>
    let keys := s.visible es
    match keys.lookup key with
    | none => .error .noKey
    | some value => expandText keys value

def items (s : Settings) (name : String) : Outcome Entries :=
  let own := if name == commonSection then some [] else s.section? name
  match own with
  | none => .error (.settings .noSection)
  | some es =>
    let keys := s.visible es
    keys.mapM fun e => do return (e.1, ← expandText keys e.2)

end EprBench.Settings
