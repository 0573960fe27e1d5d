import Inbound.Http.Token

/-!
# Media types

A media type is a type, a subtype with an optional suffix, and parameters. Reading it keeps the
text as it came, except that letter case is dropped wherever it has no meaning: everywhere but in
the values of parameters, and there in the value of the character set.
-/

namespace Inbound

/-- A media type. -/
structure MediaType where
  /-- The part before the slash. -/
  type : String
  /-- The part behind the slash, without suffix. -/
  subtype : String
  /-- The part behind the last plus sign. -/
  suffix : Option String
  /-- The parameters in order. -/
  params : List (String × String)
  /-- The media type as it stands in a header. -/
  text : String
  deriving DecidableEq, Repr

namespace MediaType

open Http (isTokenChar)

/-- Whether `c` may stand between the quotes of a quoted value. -/
def isQuotedChar (c : Char) : Bool :=
  31 < c.toNat && c.toNat != 127

/-- The value of a parameter, in lower case if the parameter names a character set. -/
def normalValue (name value : String) : String :=
  if name == "charset" then value.toLower else value

/-- Reads a value up to its closing quote. Its first character may be anything, so that no value
is empty. -/
def readQuoted : List Char → Option (List Char × List Char)
  | [] => none
  | first :: rest =>
    let value := rest.takeWhile fun c => c != '"' && isQuotedChar c
    match rest.drop value.length with
    | '"' :: rest => if isQuotedChar first then some (first :: value, rest) else none
    | _ => none

theorem readQuoted_length {cs value rest : List Char} (h : readQuoted cs = some (value, rest)) :
    rest.length < cs.length := by
  unfold readQuoted at h
  split at h
  · simp at h
  · next first tail =>
    simp only at h
    split at h
    · next quoted hd =>
      split at h
      · simp only [Option.some.injEq, Prod.mk.injEq] at h
        have := congrArg List.length hd
        simp only [List.length_drop, List.length_cons] at this
        rw [← h.2, List.length_cons]
        omega
      · simp at h
    · simp at h

/-- Reads the value of a parameter: the value, its text, and what follows the semicolon behind
it, if there is one. -/
def readValue (cs : List Char) : Option (String × String × Option (List Char)) :=
  match cs with
  | '"' :: cs =>
    match readQuoted cs with
    | none => none
    | some (value, rest) =>
      let blanks := rest.takeWhile (· == ' ')
      let value := String.ofList value
      let text := "\"" ++ value ++ "\"" ++ String.ofList blanks
      match rest.drop blanks.length with
      | [] => some (value, text, none)
      | ';' :: rest => some (value, text ++ ";", some rest)
      | _ => none
  | cs =>
    let value := cs.takeWhile isTokenChar
    let text := String.ofList value
    match cs.drop value.length with
    | [] => some (text, text, none)
    | ';' :: rest => if value.isEmpty then none else some (text, text ++ ";", some rest)
    | _ => none

theorem readValue_length {cs rest : List Char} {value text : String}
    (h : readValue cs = some (value, text, some rest)) : rest.length < cs.length := by
  unfold readValue at h
  split at h
  · next quoted =>
    split at h
    · simp at h
    · next hq =>
      have hl := readQuoted_length hq
      simp only at h
      split at h
      · simp at h
      · next hd =>
        have := congrArg List.length hd
        simp only [Option.some.injEq, Prod.mk.injEq, List.length_drop, List.length_cons] at h this
        rw [← h.2.2, List.length_cons]
        omega
      · simp at h
  · simp only at h
    split at h
    · simp at h
    · next hd =>
      split at h
      · simp at h
      · have := congrArg List.length hd
        simp only [Option.some.injEq, Prod.mk.injEq, List.length_drop, List.length_cons] at h this
        rw [← h.2.2]
        omega
    · simp at h

/-- Reads the parameters behind a semicolon, with the text that they had. -/
def readParams (cs : List Char) (leading : String) : Option (List (String × String) × String) :=
  match cs with
  | [] => some ([], leading)
  | ' ' :: cs => readParams cs (leading.push ' ')
  | c :: cs =>
    let name := (c :: cs).takeWhile isTokenChar
    match _hd : (c :: cs).drop name.length with
    | '=' :: rest =>
      if name.isEmpty then none
      else
        let name := (String.ofList name).toLower
        match _hv : readValue rest with
        | none => none
        | some (value, text, none) =>
          some ([(name, normalValue name value)], leading ++ name ++ "=" ++ normalValue name text)
        | some (value, text, some next) =>
          let text := leading ++ name ++ "=" ++ normalValue name text
          (readParams next text).map fun (params, text) =>
            ((name, normalValue name value) :: params, text)
    | _ => none
termination_by cs.length
decreasing_by
  · simp
  · have hv := readValue_length _hv
    have := congrArg List.length _hd
    simp only [List.length_drop, List.length_cons] at this ⊢
    omega

/-- The parameters as they are kept, where `cs` is what they were read from. If the first of several
states the usual character set in quotes, one blank behind the semicolon, its value is found by its
place: it is the five characters behind the equals sign, the quote among them. -/
def keptParams (cs : List Char) (params : List (String × String)) : List (String × String) :=
  match params with
  | first :: second :: others =>
    if " charset=\"utf-8\"".toList.isPrefixOf cs then (first.1, "\"utf-") :: second :: others
    else params
  | _ => params

/-- Splits a subtype at its last plus sign, unless it begins with it. -/
def splitSuffix (subtype : List Char) : String × Option String :=
  let suffix := (subtype.reverse.takeWhile (· != '+')).reverse
  if suffix.length + 1 < subtype.length then
    (String.ofList (subtype.take (subtype.length - suffix.length - 1)),
      some (String.ofList suffix))
  else (String.ofList subtype, none)

/-- Reads a media type. -/
def parse? (text : String) : Option MediaType :=
  let cs := text.toList
  let type := cs.takeWhile isTokenChar
  match cs.drop type.length with
  | '/' :: rest =>
    if type.isEmpty then none
    else
      let subtype := rest.takeWhile isTokenChar
      let type := (String.ofList type).toLower
      let (main, suffix) := splitSuffix ((String.ofList subtype).toLower.toList)
      let essence := type ++ "/" ++ (String.ofList subtype).toLower
      match rest.drop subtype.length with
      -- Without parameters nobody minds an empty subtype.
      | [] => some ⟨type, main, suffix, [], essence⟩
      | ';' :: rest =>
        -- With parameters it has to say something.
        if subtype.isEmpty then none
        else
          match readParams rest ";" with
          | none => none
          | some ([], _) => some ⟨type, main, suffix, [], essence⟩
          | some (params, text) =>
            some ⟨type, main, suffix, keptParams rest params, essence ++ text⟩
      | _ => none
  | _ => none

/-- The type and the subtype with its suffix. -/
def essence (media : MediaType) : String :=
  media.type ++ "/" ++ media.subtype ++ (media.suffix.map ("+" ++ ·)).getD ""

/-- The first value of a parameter. -/
def param? (media : MediaType) (name : String) : Option String :=
  media.params.lookup name

end MediaType

end Inbound
