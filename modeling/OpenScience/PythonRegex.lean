-- Python's re, as far as substitution over a text needs it: patterns, the
-- backtracking search with greedy and lazy loops, groups, and re.sub.
import Mathlib

namespace python.re

/-- A pattern. A character class is its test. -/
inductive Pattern
  | empty
  | one (p : Char → Bool)
  | seq (first second : Pattern)
  | either (first second : Pattern)
  | loop (greedy : Bool) (low : Nat) (high : Option Nat) (body : Pattern)
  | named (name : String) (body : Pattern)
  | boundary (word : Char → Bool)
  | notBehind (p : Char → Bool)

/-- A place in the text: what lies behind it, last character first, what
lies ahead, and the groups that have been closed. -/
structure Cursor where
  behind : List Char
  ahead : List Char
  groups : List (String × List Char)

/-- A search goes on with the rest of the pattern, and comes back when the
rest finds nothing. -/
abbrev Search := Cursor → (Cursor → Option Cursor) → Option Cursor

def headIs (p : Char → Bool) : List Char → Bool
  | [] => false
  | c :: _ => p c

/-- The characters between two places. -/
def between (start stop : Cursor) : List Char :=
  (stop.behind.take (stop.behind.length - start.behind.length)).reverse

/-- The passes of a loop. A pass that reads nothing ends it, so the number
of characters ahead bounds the passes. -/
def passes (greedy : Bool) (body : Search) : Nat → Nat → Option Nat → Search
  | 0, _, _, _, _ => none
  | fuel + 1, low, high, c, rest =>
    let again := fun (_ : Unit) =>
      if high = some 0 then none
      else body c fun c' =>
        if c'.ahead.length < c.ahead.length then
          passes greedy body fuel (low - 1) (high.map (· - 1)) c' rest
        else none
    let stop := fun (_ : Unit) => if low = 0 then rest c else none
    if greedy then (again ()).orElse stop else (stop ()).orElse again

def Pattern.search : Pattern → Search
  | .empty, c, rest => rest c
  | .one p, c, rest =>
    match c.ahead with
    | [] => none
    | x :: ahead => if p x then rest { c with behind := x :: c.behind, ahead := ahead } else none
  | .seq first second, c, rest => first.search c fun c' => second.search c' rest
  | .either first second, c, rest => (first.search c rest).orElse fun _ => second.search c rest
  | .loop greedy low high body, c, rest =>
    passes greedy body.search (c.ahead.length + 1) low high c rest
  | .named name body, c, rest =>
    body.search c fun c' => rest { c' with groups := c'.groups ++ [(name, between c c')] }
  | .boundary word, c, rest => if headIs word c.behind != headIs word c.ahead then rest c else none
  | .notBehind p, c, rest => if headIs p c.behind then none else rest c

/-- A match: the text it covers and its groups. -/
structure Match where
  whole : List Char
  groups : List (String × List Char)

def Match.group (m : Match) (name : String) : List Char := (m.groups.lookup name).getD []

/-- Replace the matches from the left to the right. Every pass moves on, so
the number of characters ahead bounds the passes. -/
def subFrom (p : Pattern) (replace : Match → List Char) : Nat → List Char → List Char → List Char
  | 0, _, ahead => ahead
  | _ + 1, _, [] => []
  | n + 1, behind, x :: ahead =>
    let start : Cursor := ⟨behind, x :: ahead, []⟩
    match p.search start some with
    | none => x :: subFrom p replace n (x :: behind) ahead
    | some stop =>
      if stop.ahead.length < (x :: ahead).length then
        replace ⟨between start stop, stop.groups⟩ ++ subFrom p replace n stop.behind stop.ahead
      else x :: subFrom p replace n (x :: behind) ahead

/-- `pattern.sub(replace, text)` for a pattern that matches no empty text. -/
def sub (p : Pattern) (replace : Match → List Char) (text : String) : String :=
  String.ofList (subFrom p replace text.length [] text.toList)

/-! ## Ways to write a pattern -/

def sequence (parts : List Pattern) : Pattern := parts.foldr .seq .empty

/-- `(?:first|more|...)`. -/
def oneOf (first : Pattern) : List Pattern → Pattern
  | [] => first
  | second :: more => .either first (oneOf second more)

/-- `p*` -/
def many (p : Pattern) : Pattern := .loop true 0 none p

/-- `p+` -/
def some1 (p : Pattern) : Pattern := .loop true 1 none p

/-- `p?` -/
def optional (p : Pattern) : Pattern := .loop true 0 (some 1) p

/-- The lower case letter that stands for a letter under `re.IGNORECASE`.
The Kelvin sign, the long s and the two Turkish letters fold to ASCII. -/
def fold (c : Char) : Char :=
  if c.toNat = 0x212a then 'k' else if c.toNat = 0x17f then 's'
  else if c.toNat = 0x130 ∨ c.toNat = 0x131 then 'i' else c.toLower

/-- A text of lower case letters under `re.IGNORECASE`. -/
def literal (text : String) : Pattern :=
  sequence (text.toList.map fun x => .one fun c => fold c = x)

/-- One character of a class of lower case letters under `re.IGNORECASE`. -/
def class1 (p : Char → Bool) : Pattern := .one fun c => p (fold c)

/-- One of the characters of a text. -/
def among (chars : String) (c : Char) : Bool := chars.toList.contains c

/-- `\s` by a test for white space. -/
def spaces (space : Char → Bool) : Pattern := many (.one space)

/-- `\\.|[^x]`, over and over: what stands between a quote and its end. -/
def untilQuote (x : Char) : Pattern :=
  many (.either (.seq (.one (· = '\\')) (.one (· ≠ '\n'))) (.one (· ≠ x)))

example : sub (.seq (.notBehind (among ":/")) (.seq (.one (· = '/')) (some1 (.one (· ≠ ' ')))))
    (fun _ => ['P']) "at /a/b c" = "at P c" := by decide +kernel

end python.re
