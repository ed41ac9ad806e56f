/-!
# Text — pieces

Cutting texts at a character, and looking for one text in another.
-/

namespace StorySuite.Text

/-- `cs` cut at every `sep`: one piece more than there are separators. -/
def splitChars (sep : Char) : List Char → List (List Char)
  | [] => [[]]
  | c :: cs =>
    if c = sep then [] :: splitChars sep cs
    else match splitChars sep cs with
      | [] => [[c]]
      | piece :: pieces => (c :: piece) :: pieces

/-- `s` cut at every `sep`. -/
def splitAt (sep : Char) (s : String) : List String :=
  (splitChars sep s.toList).map String.ofList

/-- What follows `start` in `cs`, when `cs` begins with it. -/
def dropStart? : List Char → List Char → Option (List Char)
  | [], cs => some cs
  | _ :: _, [] => none
  | p :: ps, c :: cs => if p = c then dropStart? ps cs else none

/-- `part` occurs in `cs`. -/
def occursIn (part : List Char) : List Char → Bool
  | [] => part.isEmpty
  | c :: cs => (dropStart? part (c :: cs)).isSome || occursIn part cs

/-- `cs` with every occurrence of the non-empty `old`, found from the left, replaced by `new`.
`skip` characters of an occurrence already replaced are still to be passed over. -/
def replaceNonempty (old new : List Char) : Nat → List Char → List Char
  | _, [] => []
  | skip + 1, _ :: cs => replaceNonempty old new skip cs
  | 0, c :: cs =>
    if (dropStart? old (c :: cs)).isSome then new ++ replaceNonempty old new (old.length - 1) cs
    else c :: replaceNonempty old new 0 cs

/-- `s` with every occurrence of `old` replaced by `new`; the empty text occurs before every
character and at the end. -/
def replaceAll (old new s : String) : String :=
  if old.isEmpty then
    String.ofList (new.toList ++ s.toList.flatMap (fun c => c :: new.toList))
  else String.ofList (replaceNonempty old.toList new.toList 0 s.toList)

end StorySuite.Text
