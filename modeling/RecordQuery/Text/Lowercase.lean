import RecordQuery.Text.Tables.Case

/-!
# Lower-casing

Characters go to their lower-case forms one by one, with two exceptions: the dotted capital I
becomes two characters, and a capital sigma becomes the final one at the end of a word. A sigma
ends a word if, characters without influence on case left out, a letter with case stands before it
and none stands after it.
-/

namespace RecordQuery.Text

def isCased (c : Char) : Bool :=
  casedRanges.contains c

def isCaseIgnorable (c : Char) : Bool :=
  caseIgnorableRanges.contains c

/-- Whether the first character that case does not ignore has case. -/
def meetsCased (s : List Char) : Bool :=
  match s.dropWhile isCaseIgnorable with
  | c :: _ => isCased c
  | [] => false

/-- The lower-case form of a character that stands alone. -/
def lowerChar (c : Char) : List Char :=
  if c = 'İ' then ['i', '\u0307'] else [Char.ofNat (mapCase lowercaseRuns c.toNat)]

/-- Lower-cases `s`, given what stands before it with the nearest character first. -/
def lowerAfter : List Char → List Char → List Char
  | _, [] => []
  | before, c :: rest =>
    (if c = 'Σ' then [if meetsCased before && !meetsCased rest then 'ς' else 'σ']
      else lowerChar c) ++ lowerAfter (c :: before) rest

/-- The lower-case form of a text. -/
def lowercase (s : List Char) : List Char :=
  lowerAfter [] s

/-- The form in which the ends of texts are compared: lower case, last character first. -/
def reverseLower (s : List Char) : List Char :=
  (lowercase s).reverse

end RecordQuery.Text
