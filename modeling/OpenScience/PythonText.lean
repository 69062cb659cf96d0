-- The methods of Python's str that the services use on the texts they
-- check: strip, startswith and the in operator.
import Mathlib

namespace python

/-- The characters that `str.isspace` takes, so that `str.strip` removes. -/
def isSpace (c : Char) : Bool :=
  let n := c.toNat
  (9 ≤ n && n ≤ 13) || (28 ≤ n && n ≤ 32) || n = 0x85 || n = 0xa0 || n = 0x1680 ||
    (0x2000 ≤ n && n ≤ 0x200a) || n = 0x2028 || n = 0x2029 || n = 0x202f || n = 0x205f || n = 0x3000

def lstripChars (cs : List Char) : List Char := cs.dropWhile isSpace

def stripChars (cs : List Char) : List Char := (lstripChars (lstripChars cs).reverse).reverse

/-- `s.strip()`. -/
def strip (s : String) : String := String.ofList (stripChars s.toList)

/-- `s.lstrip()`. -/
def lstrip (s : String) : String := String.ofList (lstripChars s.toList)

def startsWith (start s : String) : Bool := start.toList.isPrefixOf s.toList

def endsWith (end_ s : String) : Bool := end_.toList.isSuffixOf s.toList

def infixChars (part : List Char) : List Char → Bool
  | [] => part.isEmpty
  | c :: cs => part.isPrefixOf (c :: cs) || infixChars part cs

/-- `part in s`. -/
def contains (part s : String) : Bool := infixChars part.toList s.toList

/-- `s.replace(old, new)` for one-character texts. -/
def replaceChar (old new : Char) (s : String) : String :=
  String.ofList (s.toList.map fun c => if c = old then new else c)

/-- `s.split(sep)` on characters: what stands between the separators. -/
def splitChars (sep : Char) : List Char → List (List Char)
  | [] => [[]]
  | c :: cs =>
    if c = sep then [] :: splitChars sep cs
    else
      match splitChars sep cs with
      | [] => [[c]]
      | part :: parts => (c :: part) :: parts

/-- `s.split(sep)` for a separator of one character. -/
def split (sep : Char) (s : String) : List String := (splitChars sep s.toList).map String.ofList

/-- A text with a character that is no space does not strip to nothing. -/
lemma strip_ne_empty {s : String} {c : Char} (hc : c ∈ s.toList) (hs : isSpace c = false) :
    strip s ≠ "" := by
  have drop_keeps : ∀ cs : List Char, c ∈ cs → c ∈ lstripChars cs := by
    intro cs hmem
    induction cs with
    | nil => cases hmem
    | cons d cs ih =>
      unfold lstripChars
      rw [List.dropWhile_cons]
      split
      · rename_i hd
        rcases List.mem_cons.mp hmem with rfl | hmem
        · rw [hs] at hd
          cases hd
        · exact ih hmem
      · exact hmem
  have hmem : c ∈ stripChars s.toList := by
    unfold stripChars
    rw [List.mem_reverse]
    apply drop_keeps
    rw [List.mem_reverse]
    exact drop_keeps _ hc
  intro h
  have hnil : stripChars s.toList = [] := by
    have := congrArg String.toList h
    simpa [strip] using this
  rw [hnil] at hmem
  cases hmem

end python
