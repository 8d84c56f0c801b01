import SemanticVersion.Text.LetterCase.Tables

/-!
# Lower case

Names are compared in lower case, and a rejected setting is quoted in lower case, so the whole of
Unicode's lower-case mapping matters.  It maps most letters one to one.  Two letters are special:
the dotted capital I becomes two characters, and capital sigma takes its final form at the end of a
word.

* `lower` — the lower-case form of a text.
* `fold` — the case folding by which an argument is compared with a name.
* `lowerChar`, `isFinalSigma` — the mapping of one letter, and the rule of the final sigma.
-/

namespace SemanticVersion

/-! ## One letter -/

/-- The lower-case form of a letter, where that is one character that does not depend on the
letter's neighbours. -/
def lowerChar (c : Char) : Char :=
  match lowerRuns.find? fun (first, last, step, _) =>
      first ≤ c.toNat && c.toNat ≤ last && (c.toNat - first) % step == 0 with
  | some (_, _, _, offset) => Char.ofNat ((c.toNat : Int) + offset).toNat
  | none => c

/-! ## A text -/

/-- Whether the first character that is not neutral is a letter with case. -/
def meetsLetter (cs : List Char) : Bool :=
  match cs.dropWhile caseNeutrals.contains with
  | c :: _ => caseLetters.contains c
  | [] => false

/-- A sigma is final when a letter comes before it and none comes after it.  `before` holds the
characters in front of it, the nearest first. -/
def isFinalSigma (before after : List Char) : Bool :=
  meetsLetter before && !meetsLetter after

/-- The lower-case form of one character among its neighbours. -/
def lowerAt (before : List Char) (c : Char) (after : List Char) : List Char :=
  if c = '\u03a3' then [if isFinalSigma before after then '\u03c2' else '\u03c3']
  else if c = '\u0130' then ['i', '\u0307']
  else [lowerChar c]

/-- The lower-case form of the characters that follow `before`. -/
def lowerList (before : List Char) : List Char → List Char
  | [] => []
  | c :: after => lowerAt before c after ++ lowerList (c :: before) after

/-- The lower-case form of a text. -/
def lower (text : String) : String :=
  String.ofList (lowerList [] text.toList)

/-! ## Case folding -/

/-- What a letter is compared as.  Beyond ASCII only the letters that fold to ASCII letters are
listed, because a name consists of ASCII letters and no other letter can be equal to one. -/
def foldChar (c : Char) : List Char :=
  match c with
  | '\u00df' | '\u1e9e' => ['s', 's']
  | '\u017f' => ['s']
  | '\u212a' => ['k']
  | '\ufb00' => ['f', 'f']
  | '\ufb01' => ['f', 'i']
  | '\ufb02' => ['f', 'l']
  | '\ufb03' => ['f', 'f', 'i']
  | '\ufb04' => ['f', 'f', 'l']
  | '\ufb05' | '\ufb06' => ['s', 't']
  | _ => [c.toLower]

/-- The case folding of a text, for comparing it with an ASCII name. -/
def fold (text : String) : String :=
  String.ofList (text.toList.flatMap foldChar)

end SemanticVersion
