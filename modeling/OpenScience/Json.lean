-- JSON values, the text that json.dumps writes for a value and the value that
-- json.loads reads from a text. The law of this file: a value that was written
-- is read back as it was, so the text of a value fixes the value.
import Mathlib

namespace json

variable {n : Nat} {rest : List Char} {c : Char} {v : Json}

/-! ## Values -/

/-- A JSON value. An object keeps its fields in the order of the dict. A number with a
fraction or an exponent is carried as its literal. -/
inductive Json where
  | null
  | bool (b : Bool)
  | int (n : Int)
  | float (literal : List Char)
  | str (s : String)
  | arr (items : List Json)
  | obj (fields : List (String × Json))
deriving Inhabited, Repr

namespace Json

mutual
def beq : Json → Json → Bool
  | .null, .null => true
  | .bool a, .bool b => a == b
  | .int a, .int b => a == b
  | .float a, .float b => a == b
  | .str a, .str b => a == b
  | .arr a, .arr b => beqItems a b
  | .obj a, .obj b => beqFields a b
  | _, _ => false

def beqItems : List Json → List Json → Bool
  | [], [] => true
  | x :: xs, y :: ys => beq x y && beqItems xs ys
  | _, _ => false

def beqFields : List (String × Json) → List (String × Json) → Bool
  | [], [] => true
  | (k, x) :: xs, (l, y) :: ys => k == l && beq x y && beqFields xs ys
  | _, _ => false
end

mutual
lemma beq_iff : ∀ a b : Json, beq a b = true ↔ a = b
  | .arr xs, b => by cases b <;> simp [beq, beqItems_iff xs]
  | .obj fs, b => by cases b <;> simp [beq, beqFields_iff fs]
  | .null, b => by cases b <;> simp [beq]
  | .bool _, b => by cases b <;> simp [beq]
  | .int _, b => by cases b <;> simp [beq]
  | .float _, b => by cases b <;> simp [beq]
  | .str _, b => by cases b <;> simp [beq]

lemma beqItems_iff : ∀ xs ys : List Json, beqItems xs ys = true ↔ xs = ys
  | [], ys => by cases ys <;> simp [beqItems]
  | x :: xs, ys => by cases ys <;> simp [beqItems, beq_iff x, beqItems_iff xs]

lemma beqFields_iff : ∀ xs ys : List (String × Json), beqFields xs ys = true ↔ xs = ys
  | [], ys => by cases ys <;> simp [beqFields]
  | (k, x) :: xs, ys => by
    cases ys with
    | nil => simp [beqFields]
    | cons y ys =>
      obtain ⟨l, y⟩ := y
      simp [beqFields, beq_iff x, beqFields_iff xs, and_assoc]
end

instance : DecidableEq Json := fun a b => decidable_of_iff _ (beq_iff a b)

/-- Induction over a value, with what is in it. -/
@[elab_as_elim, induction_eliminator]
lemma induct {motive : Json → Prop} (null : motive .null) (bool : ∀ b, motive (.bool b)) (int : ∀ n, motive (.int n))
    (float : ∀ literal, motive (.float literal)) (str : ∀ s, motive (.str s))
    (arr : ∀ items, (∀ v ∈ items, motive v) → motive (.arr items))
    (obj : ∀ fields, (∀ f ∈ fields, motive f.2) → motive (.obj fields)) : ∀ v, motive v
  | .null => null
  | .bool b => bool b
  | .int n => int n
  | .float literal => float literal
  | .str s => str s
  | .arr items => arr items fun v _ => induct null bool int float str arr obj v
  | .obj fields => obj fields fun f _ => induct null bool int float str arr obj f.2
decreasing_by
  · decreasing_tactic
  · have hmem := List.sizeOf_lt_of_mem ‹_›
    have hvalue : sizeOf f = 1 + sizeOf f.1 + sizeOf f.2 := rfl
    rw [Json.obj.sizeOf_spec]
    omega

/-- The value a dict holds under a key: `value.get(key)`. -/
def field (key : String) : Json → Option Json
  | .obj fields => fields.lookup key
  | _ => none

end Json

open Json

/-! ## Writing -/

/-- The arguments of `json.dumps` that change the text: `ensure_ascii`, and whether the
separators are `(",", ":")` or the default `(", ", ": ")`. -/
structure Style where
  ensure_ascii : Bool
  compact : Bool
deriving DecidableEq, Repr

def Style.itemSeparator (st : Style) : List Char := if st.compact then [','] else [',', ' ']

def Style.keySeparator (st : Style) : List Char := if st.compact then [':'] else [':', ' ']

def hexDigit (n : Nat) : Char := (Nat.toDigits 16 n).headD '0'

/-- The four digits of `\uXXXX`. -/
def hex4 (n : Nat) : List Char :=
  [hexDigit (n / 4096 % 16), hexDigit (n / 256 % 16), hexDigit (n / 16 % 16), hexDigit (n % 16)]

def encodeChar (st : Style) (c : Char) : List Char :=
  if c = '"' then ['\\', '"']
  else if c = '\\' then ['\\', '\\']
  else if c = '\n' then ['\\', 'n']
  else if c = '\r' then ['\\', 'r']
  else if c = '\t' then ['\\', 't']
  else if c = '\x0c' then ['\\', 'f']
  else if c = '\x08' then ['\\', 'b']
  else if c.toNat < 32 then '\\' :: 'u' :: hex4 c.toNat
  else if st.ensure_ascii ∧ 127 ≤ c.toNat then
    if c.toNat < 65536 then '\\' :: 'u' :: hex4 c.toNat
    else
      -- above the basic plane the writer gives a surrogate pair
      let v := c.toNat - 65536
      '\\' :: 'u' :: hex4 (55296 + v / 1024) ++ '\\' :: 'u' :: hex4 (56320 + v % 1024)
  else [c]

def encodeChars (st : Style) (cs : List Char) : List Char := cs.flatMap (encodeChar st)

def encodeString (st : Style) (s : String) : List Char :=
  '"' :: encodeChars st s.toList ++ ['"']

def encodeInt (n : Int) : List Char :=
  (if n < 0 then ['-'] else []) ++ Nat.toDigits 10 n.natAbs

mutual
def encode (st : Style) : Json → List Char
  | .null => ['n', 'u', 'l', 'l']
  | .bool true => ['t', 'r', 'u', 'e']
  | .bool false => ['f', 'a', 'l', 's', 'e']
  | .int n => encodeInt n
  | .float literal => literal
  | .str s => encodeString st s
  | .arr [] => ['[', ']']
  | .arr (x :: xs) => '[' :: encode st x ++ encodeItems st xs
  | .obj [] => ['\x7b', '\x7d']
  | .obj ((k, v) :: fs) =>
    '\x7b' :: encodeString st k ++ st.keySeparator ++ encode st v ++ encodeFields st fs

/-- The items after the first one, and the closing bracket. -/
def encodeItems (st : Style) : List Json → List Char
  | [] => [']']
  | x :: xs => st.itemSeparator ++ encode st x ++ encodeItems st xs

/-- The fields after the first one, and the closing brace. -/
def encodeFields (st : Style) : List (String × Json) → List Char
  | [] => ['\x7d']
  | (k, v) :: fs =>
    st.itemSeparator ++ encodeString st k ++ st.keySeparator ++ encode st v ++ encodeFields st fs
end

/-- What `json.dumps(value, ensure_ascii=…, separators=…)` gives. -/
def dumps (st : Style) (v : Json) : String := String.ofList (encode st v)

/-! ## Reading -/

def isBlank (c : Char) : Bool := c = ' ' || c = '\t' || c = '\n' || c = '\r'

def skipBlanks (cs : List Char) : List Char := cs.dropWhile isBlank

def hexValue (c : Char) : Option Nat :=
  if '0' ≤ c ∧ c ≤ '9' then some (c.toNat - 48)
  else if 'a' ≤ c ∧ c ≤ 'f' then some (c.toNat - 87)
  else if 'A' ≤ c ∧ c ≤ 'F' then some (c.toNat - 55)
  else none

def scanHex4 : List Char → Option (Nat × List Char)
  | a :: b :: c :: d :: rest => do
    let a ← hexValue a
    let b ← hexValue b
    let c ← hexValue c
    let d ← hexValue d
    some (((a * 16 + b) * 16 + c) * 16 + d, rest)
  | _ => none

/-- The second half of a surrogate pair, and the character of the pair. -/
def scanLowSurrogate (high : Nat) : List Char → Option (Char × List Char)
  | '\\' :: 'u' :: cs =>
    match scanHex4 cs with
    | none => none
    | some (low, rest) =>
      if 56320 ≤ low ∧ low < 57344 then
        some (Char.ofNat (65536 + (high - 55296) * 1024 + (low - 56320)), rest)
      else none
  | _ => none

/-- The character of a `\uXXXX` escape, whose two first characters are already read. A
surrogate that is not half of a pair names no character here. -/
def scanUnicode (cs : List Char) : Option (Char × List Char) :=
  match scanHex4 cs with
  | none => none
  | some (u, rest) =>
    if 55296 ≤ u ∧ u < 56320 then scanLowSurrogate u rest
    else if 56320 ≤ u ∧ u < 57344 then none
    else some (Char.ofNat u, rest)

/-- The character that stands after a backslash. -/
def scanEscape : List Char → Option (Char × List Char)
  | [] => none
  | c :: rest =>
    if c = '"' ∨ c = '\\' ∨ c = '/' then some (c, rest)
    else if c = 'n' then some ('\n', rest)
    else if c = 'r' then some ('\r', rest)
    else if c = 't' then some ('\t', rest)
    else if c = 'f' then some ('\x0c', rest)
    else if c = 'b' then some ('\x08', rest)
    else if c = 'u' then scanUnicode rest
    else none

/-- The rest of a string after its opening quote. The first argument bounds the number of
characters that are read. -/
def scanChars : Nat → List Char → Option (List Char × List Char)
  | 0, _ => none
  | _ + 1, [] => none
  | n + 1, c :: rest =>
    if c = '"' then some ([], rest)
    else if c = '\\' then
      match scanEscape rest with
      | none => none
      | some (d, rest) => (scanChars n rest).map fun p => (d :: p.1, p.2)
    else if c.toNat < 32 then none
    else (scanChars n rest).map fun p => (c :: p.1, p.2)

def scanString (cs : List Char) : Option (String × List Char) :=
  (scanChars (cs.length + 1) cs).map fun p => (String.ofList p.1, p.2)

def spanDigits (cs : List Char) : List Char × List Char := (cs.takeWhile Char.isDigit,
  cs.dropWhile Char.isDigit)

def scanMinus : List Char → List Char × List Char
  | '-' :: rest => (['-'], rest)
  | cs => ([], cs)

/-- The whole part of a number: one zero, or digits that start with another one. -/
def scanWhole : List Char → Option (List Char × List Char)
  | [] => none
  | c :: rest =>
    if c = '0' then some ([c], rest)
    else if c.isDigit then some (c :: (spanDigits rest).1, (spanDigits rest).2)
    else none

def scanFraction : List Char → List Char × List Char
  | [] => ([], [])
  | c :: rest =>
    if c = '.' ∧ (spanDigits rest).1 ≠ [] then (c :: (spanDigits rest).1, (spanDigits rest).2)
    else ([], c :: rest)

def scanSign : List Char → List Char × List Char
  | [] => ([], [])
  | c :: rest => if c = '+' ∨ c = '-' then ([c], rest) else ([], c :: rest)

def scanExponent : List Char → List Char × List Char
  | [] => ([], [])
  | c :: rest =>
    let (sign, more) := scanSign rest
    if (c = 'e' ∨ c = 'E') ∧ (spanDigits more).1 ≠ [] then
      (c :: sign ++ (spanDigits more).1, (spanDigits more).2)
    else ([], c :: rest)

/-- A number: an int when it has neither a fraction nor an exponent. -/
def scanNumber (cs : List Char) : Option (Json × List Char) :=
  let (minus, cs) := scanMinus cs
  match scanWhole cs with
  | none => none
  | some (whole, cs) =>
    let (fraction, cs) := scanFraction cs
    let (exponent, cs) := scanExponent cs
    if fraction = [] ∧ exponent = [] then
      let n : Int := Nat.ofDigitChars 10 whole 0
      some (.int (if minus = [] then n else -n), cs)
    else some (.float (minus ++ whole ++ fraction ++ exponent), cs)

/-- Assigning to a key of a dict: a new key goes last, an old one keeps its place. -/
def setField (fields : List (String × Json)) (key : String) (value : Json) :
    List (String × Json) :=
  if key ∈ fields.map Prod.fst then
    fields.map fun f => if f.1 = key then (key, value) else f
  else fields ++ [(key, value)]

/-- The dict of a list of pairs: of two pairs with one key the later value wins. -/
def dictOf (pairs : List (String × Json)) : List (String × Json) :=
  pairs.foldl (fun fields p => setField fields p.1 p.2) []

/-- A key, its colon and the blanks around them. -/
def scanKey : List Char → Option (String × List Char)
  | '"' :: cs =>
    match scanString cs with
    | none => none
    | some (k, rest) =>
      match skipBlanks rest with
      | ':' :: rest => some (k, skipBlanks rest)
      | _ => none
  | _ => none

mutual
/-- One value at the head of the text, and the text after it. The first argument bounds the
number of nested and listed values; the text's length is always enough. -/
def scanValue : Nat → List Char → Option (Json × List Char)
  | 0, _ => none
  | _ + 1, [] => none
  | n + 1, c :: cs =>
    if c = '"' then (scanString cs).map fun p => (.str p.1, p.2)
    else if c = '[' then
      match skipBlanks cs with
      | ']' :: rest => some (.arr [], rest)
      | cs => (scanItems n cs).map fun p => (.arr p.1, p.2)
    else if c = '\x7b' then
      match skipBlanks cs with
      | '\x7d' :: rest => some (.obj [], rest)
      | cs => (scanFields n cs).map fun p => (.obj (dictOf p.1), p.2)
    else if c = 'n' then
      match cs with
      | 'u' :: 'l' :: 'l' :: rest => some (.null, rest)
      | _ => none
    else if c = 't' then
      match cs with
      | 'r' :: 'u' :: 'e' :: rest => some (.bool true, rest)
      | _ => none
    else if c = 'f' then
      match cs with
      | 'a' :: 'l' :: 's' :: 'e' :: rest => some (.bool false, rest)
      | _ => none
    else scanNumber (c :: cs)

/-- The items of a list up to its closing bracket. -/
def scanItems : Nat → List Char → Option (List Json × List Char)
  | 0, _ => none
  | n + 1, cs =>
    match scanValue n cs with
    | none => none
    | some (x, rest) =>
      match skipBlanks rest with
      | ']' :: rest => some ([x], rest)
      | ',' :: rest => (scanItems n (skipBlanks rest)).map fun p => (x :: p.1, p.2)
      | _ => none

/-- The pairs of an object up to its closing brace. -/
def scanFields : Nat → List Char → Option (List (String × Json) × List Char)
  | 0, _ => none
  | n + 1, cs =>
    match scanKey cs with
    | none => none
    | some (k, rest) =>
      match scanValue n rest with
      | none => none
      | some (x, rest) =>
        match skipBlanks rest with
        | '\x7d' :: rest => some ([(k, x)], rest)
        | ',' :: rest => (scanFields n (skipBlanks rest)).map fun p => ((k, x) :: p.1, p.2)
        | _ => none
end

/-- What `json.loads(text)` gives, or none where it raises `JSONDecodeError`. -/
def loads (text : String) : Option Json :=
  match scanValue (text.length + 1) (skipBlanks text.toList) with
  | some (v, rest) => if skipBlanks rest = [] then some v else none
  | none => none

/-! ## Values that a program can hold -/

mutual
/-- Every dict has one value for each key, and every float literal is one number token. -/
def wellFormed : Json → Bool
  | .float literal => scanNumber literal = some (.float literal, [])
  | .arr items => wellFormedItems items
  | .obj fields => (fields.map Prod.fst).Nodup && wellFormedFields fields
  | _ => true

def wellFormedItems : List Json → Bool
  | [] => true
  | x :: xs => wellFormed x && wellFormedItems xs

def wellFormedFields : List (String × Json) → Bool
  | [] => true
  | (_, x) :: fs => wellFormed x && wellFormedFields fs
end

lemma wellFormedItems_iff (items : List Json) : wellFormedItems items = true ↔ ∀ v ∈ items, wellFormed v = true := by
  induction items <;> simp_all [wellFormedItems]

lemma wellFormedFields_iff (fields : List (String × Json)) :
    wellFormedFields fields = true ↔ ∀ f ∈ fields, wellFormed f.2 = true := by
  induction fields <;> simp_all [wellFormedFields]

/-! ## Reading back what was written -/

lemma setField_new {fields : List (String × Json)} {key : String} (value : Json)
    (h : key ∉ fields.map Prod.fst) : setField fields key value = fields ++ [(key, value)] := by
  simp only [setField, if_neg h]

lemma foldl_setField_nodup (pairs fields : List (String × Json))
    (h : ((fields ++ pairs).map Prod.fst).Nodup) :
    pairs.foldl (fun fields p => setField fields p.1 p.2) fields = fields ++ pairs := by
  induction pairs generalizing fields with
  | nil => simp
  | cons p pairs ih =>
    have hnew : p.1 ∉ fields.map Prod.fst := by
      simp only [List.map_append, List.map_cons, List.nodup_append] at h
      intro hp
      exact h.2.2 p.1 hp p.1 (by simp) rfl
    rw [List.foldl_cons, setField_new p.2 hnew, ih]
    · simp
    · simpa using h

/-- A list of pairs with distinct keys is its own dict. -/
lemma dictOf_nodup {pairs : List (String × Json)} (h : (pairs.map Prod.fst).Nodup) :
    dictOf pairs = pairs := by
  simpa [dictOf] using foldl_setField_nodup pairs [] (by simpa using h)

lemma hexValue_hexDigit : ∀ n < 16, hexValue (hexDigit n) = some n := by decide

lemma scanHex4_hex4 (n : Nat) (h : n < 65536) (rest : List Char) :
    scanHex4 (hex4 n ++ rest) = some (n, rest) := by
  have h1 := hexValue_hexDigit (n / 4096 % 16) (by omega)
  have h2 := hexValue_hexDigit (n / 256 % 16) (by omega)
  have h3 := hexValue_hexDigit (n / 16 % 16) (by omega)
  have h4 := hexValue_hexDigit (n % 16) (by omega)
  simp only [hex4, List.cons_append, List.nil_append, scanHex4, h1, h2, h3, h4, Option.bind_eq_bind,
    Option.bind_some, Option.some.injEq, Prod.mk.injEq, and_true]
  omega

/-- A character is no surrogate. -/
lemma toNat_not_surrogate (c : Char) : c.toNat < 55296 ∨ 57344 ≤ c.toNat := by
  have := c.valid
  simp only [UInt32.isValidChar, Nat.isValidChar] at this
  have hc : c.toNat = c.val.toNat := rfl
  omega

lemma toNat_lt (c : Char) : c.toNat < 1114112 := by
  have := c.valid
  simp only [UInt32.isValidChar, Nat.isValidChar] at this
  have hc : c.toNat = c.val.toNat := rfl
  omega

lemma scanUnicode_hex4 (c : Char) (h : c.toNat < 65536) (rest : List Char) :
    scanUnicode (hex4 c.toNat ++ rest) = some (c, rest) := by
  have hs := toNat_not_surrogate c
  unfold scanUnicode
  rw [scanHex4_hex4 _ h]
  dsimp only
  rw [if_neg (by omega), if_neg (by omega), Char.ofNat_toNat]

lemma scanLowSurrogate_hex4 (c : Char) (h : 65536 ≤ c.toNat) (rest : List Char) :
    scanLowSurrogate (55296 + (c.toNat - 65536) / 1024)
      ('\\' :: 'u' :: (hex4 (56320 + (c.toNat - 65536) % 1024) ++ rest)) = some (c, rest) := by
  have hback : 65536 + (55296 + (c.toNat - 65536) / 1024 - 55296) * 1024
      + (56320 + (c.toNat - 65536) % 1024 - 56320) = c.toNat := by omega
  rw [scanLowSurrogate, scanHex4_hex4 _ (by omega)]
  dsimp only
  rw [if_pos (by omega), hback, Char.ofNat_toNat]

lemma scanUnicode_pair (c : Char) (h : 65536 ≤ c.toNat) (rest : List Char) :
    scanUnicode (hex4 (55296 + (c.toNat - 65536) / 1024) ++
      '\\' :: 'u' :: hex4 (56320 + (c.toNat - 65536) % 1024) ++ rest) = some (c, rest) := by
  have hc := toNat_lt c
  rw [scanUnicode, List.append_assoc, scanHex4_hex4 _ (by omega)]
  dsimp only
  rw [if_pos (by omega)]
  exact scanLowSurrogate_hex4 c h rest

lemma scanChars_escape {cs : List Char} (h : scanEscape cs = some (c, rest)) :
    scanChars (n + 1) ('\\' :: cs) = (scanChars n rest).map fun p => (c :: p.1, p.2) := by
  simp [scanChars, h]

lemma scanEscape_unicode (cs : List Char) : scanEscape ('u' :: cs) = scanUnicode cs := by
  simp [scanEscape]

/-- One written character is read back as itself. -/
lemma scanChars_encodeChar (st : Style) (n : Nat) (c : Char) (rest : List Char) :
    scanChars (n + 1) (encodeChar st c ++ rest) =
      (scanChars n rest).map fun p => (c :: p.1, p.2) := by
  unfold encodeChar
  -- the characters that have an escape of their own
  iterate 7
    split
    · subst_vars; exact scanChars_escape (by simp [scanEscape])
  split
  · exact scanChars_escape ((scanEscape_unicode _).trans (scanUnicode_hex4 c (by omega) rest))
  split
  · split
    · exact scanChars_escape ((scanEscape_unicode _).trans (scanUnicode_hex4 c ‹_› rest))
    · exact scanChars_escape ((scanEscape_unicode _).trans (scanUnicode_pair c (by omega) rest))
  · rename_i hquote hback _ _ _ _ _ hcon _
    simp [scanChars, hquote, hback, hcon]

lemma encodeChar_length_pos (st : Style) (c : Char) : 0 < (encodeChar st c).length := by
  unfold encodeChar
  repeat' split
  all_goals simp

lemma length_le_encodeChars (st : Style) (cs : List Char) :
    cs.length ≤ (encodeChars st cs).length := by
  induction cs with
  | nil => simp [encodeChars]
  | cons c cs ih =>
    have := encodeChar_length_pos st c
    simp only [encodeChars, List.flatMap_cons, List.length_append, List.length_cons] at ih ⊢
    omega

lemma scanChars_encodeChars (st : Style) (cs rest : List Char) (n : Nat) (h : cs.length < n) :
    scanChars n (encodeChars st cs ++ '"' :: rest) = some (cs, rest) := by
  induction cs generalizing n with
  | nil =>
    obtain ⟨m, rfl⟩ : ∃ m, n = m + 1 := ⟨n - 1, by omega⟩
    simp [encodeChars, scanChars]
  | cons c cs ih =>
    simp only [List.length_cons] at h
    obtain ⟨m, rfl⟩ : ∃ m, n = m + 1 := ⟨n - 1, by omega⟩
    have := ih m (by omega)
    simp only [encodeChars, List.flatMap_cons, List.append_assoc] at this ⊢
    rw [scanChars_encodeChar, this]
    rfl

lemma scanString_encodeChars (st : Style) (s : String) (rest : List Char) :
    scanString (encodeChars st s.toList ++ '"' :: rest) = some (s, rest) := by
  have hlen := length_le_encodeChars st s.toList
  unfold scanString
  rw [scanChars_encodeChars st s.toList rest _ (by simp only [List.length_append]; omega)]
  simp

/-- What may follow a number: no character that a number could go on with. -/
def NumberEnd (rest : List Char) : Prop :=
  ∀ c ∈ rest.head?, c.isDigit = false ∧ c ≠ '.' ∧ c ≠ 'e' ∧ c ≠ 'E' ∧ c ≠ '+' ∧ c ≠ '-'

lemma numberEnd_nil : NumberEnd [] := by simp [NumberEnd]

lemma spanDigits_append (hr : NumberEnd rest) (t : List Char) :
    spanDigits (t ++ rest) = ((spanDigits t).1, (spanDigits t).2 ++ rest) := by
  induction t with
  | nil =>
    cases rest with
    | nil => rfl
    | cons c rest => simp [spanDigits, (hr c rfl).1]
  | cons c t ih =>
    simp only [spanDigits, Prod.mk.injEq, List.cons_append] at ih ⊢
    cases hc : c.isDigit <;> simp [hc, ih.1, ih.2]

lemma scanFraction_append (hr : NumberEnd rest) (t : List Char) :
    scanFraction (t ++ rest) = ((scanFraction t).1, (scanFraction t).2 ++ rest) := by
  cases t with
  | nil =>
    cases rest with
    | nil => rfl
    | cons c rest => simp [scanFraction, (hr c rfl).2.1]
  | cons c t =>
    simp only [scanFraction, List.cons_append, spanDigits_append hr]
    split <;> rfl

lemma scanSign_append (hr : NumberEnd rest) (t : List Char) :
    scanSign (t ++ rest) = ((scanSign t).1, (scanSign t).2 ++ rest) := by
  cases t with
  | nil =>
    cases rest with
    | nil => rfl
    | cons c rest => simp [scanSign, (hr c rfl).2.2.2.2]
  | cons c t =>
    simp only [scanSign, List.cons_append]
    split <;> rfl

lemma scanExponent_append (hr : NumberEnd rest) (t : List Char) :
    scanExponent (t ++ rest) = ((scanExponent t).1, (scanExponent t).2 ++ rest) := by
  cases t with
  | nil =>
    cases rest with
    | nil => rfl
    | cons c rest => simp [scanExponent, (hr c rfl).2.2.1, (hr c rfl).2.2.2.1]
  | cons c t =>
    simp only [scanExponent, List.cons_append, scanSign_append hr, spanDigits_append hr]
    split <;> rfl

lemma scanWhole_append (hr : NumberEnd rest) (t : List Char) :
    scanWhole (t ++ rest) = (scanWhole t).map fun p => (p.1, p.2 ++ rest) := by
  cases t with
  | nil =>
    cases rest with
    | nil => rfl
    | cons c rest =>
      have hd := (hr c rfl).1
      have hz : c ≠ '0' := by rintro rfl; simp at hd
      simp [scanWhole, hd, hz]
  | cons c t =>
    simp only [scanWhole, List.cons_append, spanDigits_append hr]
    repeat' split
    all_goals rfl

lemma scanMinus_append (hr : NumberEnd rest) (t : List Char) :
    scanMinus (t ++ rest) = ((scanMinus t).1, (scanMinus t).2 ++ rest) := by
  cases t with
  | nil =>
    cases rest with
    | nil => rfl
    | cons c rest => simp [scanMinus, (hr c rfl).2.2.2.2.2]
  | cons c t =>
    by_cases hc : c = '-'
    · subst hc; rfl
    · simp [scanMinus, hc]

/-- A number token is read the same whatever comes after its end. -/
lemma scanNumber_append (hr : NumberEnd rest) (t : List Char) :
    scanNumber (t ++ rest) = (scanNumber t).map fun p => (p.1, p.2 ++ rest) := by
  simp only [scanNumber, scanMinus_append hr, scanWhole_append hr]
  cases scanWhole (scanMinus t).2 with
  | none => rfl
  | some p =>
    simp only [Option.map_some, scanFraction_append hr, scanExponent_append hr]
    split <;> rfl

lemma scanNumber_head {cs : List Char} {p : Json × List Char}
    (h : scanNumber (c :: cs) = some p) : c = '-' ∨ c.isDigit = true := by
  by_cases hc : c = '-'
  · exact .inl hc
  · refine .inr ?_
    by_contra hd
    have hz : c ≠ '0' := by rintro rfl; simp at hd
    simp [scanNumber, scanMinus, scanWhole, hc, hz, hd] at h

lemma toDigits_ten_of_ten_le (h : 10 ≤ n) :
    Nat.toDigits 10 n = Nat.toDigits 10 (n / 10) ++ [Nat.digitChar (n % 10)] :=
  Nat.toDigits_of_base_le (by decide) h

/-- Only zero is written with a zero in front. -/
lemma toDigits_leading_zero (n : Nat) (ds : List Char) (h : Nat.toDigits 10 n = '0' :: ds) :
    ds = [] := by
  induction n using Nat.strongRecOn generalizing ds with
  | ind n ih =>
    by_cases hn : n < 10
    · rw [Nat.toDigits_of_lt_base hn] at h
      simp only [List.cons.injEq] at h
      exact h.2.symm
    · rw [toDigits_ten_of_ten_le (by omega)] at h
      cases hd : Nat.toDigits 10 (n / 10) with
      | nil => exact absurd hd Nat.toDigits_ne_nil
      | cons d ds' =>
        rw [hd] at h
        simp only [List.cons_append, List.cons.injEq] at h
        have hz : ds' = [] := ih (n / 10) (by omega) ds' (by rw [hd, h.1])
        -- then n / 10 would be zero
        have hval := Nat.ofDigitChars_ten_toDigits (n := n / 10)
        rw [hd, hz, h.1] at hval
        have hzero : Nat.ofDigitChars 10 ['0'] 0 = 0 := by decide
        omega

lemma spanDigits_digits {ds : List Char} (h : ∀ c ∈ ds, c.isDigit = true) :
    spanDigits ds = (ds, []) := by
  induction ds with
  | nil => rfl
  | cons d ds ih =>
    have := ih (fun c hc => h c (List.mem_cons_of_mem d hc))
    simp only [spanDigits, Prod.mk.injEq] at this ⊢
    simp [h d List.mem_cons_self, this]

lemma scanWhole_toDigits (n : Nat) :
    scanWhole (Nat.toDigits 10 n) = some (Nat.toDigits 10 n, []) := by
  have hall : ∀ c ∈ Nat.toDigits 10 n, c.isDigit = true :=
    fun c hc => Nat.isDigit_of_mem_toDigits (by decide) (by decide) hc
  cases hd : Nat.toDigits 10 n with
  | nil => exact absurd hd Nat.toDigits_ne_nil
  | cons d ds =>
    rw [hd] at hall
    have hrest := spanDigits_digits (fun c hc => hall c (List.mem_cons_of_mem d hc))
    by_cases hz : d = '0'
    · subst hz
      simp [scanWhole, toDigits_leading_zero n ds hd]
    · simp [scanWhole, hz, hall d List.mem_cons_self, hrest]

lemma scanNumber_toDigits (n : Nat) :
    scanNumber (Nat.toDigits 10 n) = some (.int n, []) := by
  have hmin : scanMinus (Nat.toDigits 10 n) = ([], Nat.toDigits 10 n) := by
    cases hd : Nat.toDigits 10 n with
    | nil => rfl
    | cons d ds =>
      have hdig : d.isDigit = true :=
        Nat.isDigit_of_mem_toDigits (n := n) (b := 10) (by decide) (by decide) (by simp [hd])
      have : d ≠ '-' := by rintro rfl; simp at hdig
      simp [scanMinus, this]
  simp [scanNumber, hmin, scanWhole_toDigits, scanFraction, scanExponent]

lemma scanNumber_encodeInt (n : Int) : scanNumber (encodeInt n) = some (.int n, []) := by
  unfold encodeInt
  split
  · have hneg : n = -(n.natAbs : Int) := by omega
    generalize n.natAbs = k at hneg
    subst hneg
    simp [scanNumber, scanMinus, scanWhole_toDigits, scanFraction, scanExponent]
  · have : (n.natAbs : Int) = n := by omega
    rw [List.nil_append, scanNumber_toDigits, this]

/-- A number token in front of the text is read as one value. -/
lemma scanValue_number {t : List Char} (h : scanNumber t = some (v, [])) (hr : NumberEnd rest) :
    scanValue (n + 1) (t ++ rest) = some (v, rest) := by
  have hnum := scanNumber_append hr t
  rw [h] at hnum
  cases t with
  | nil => simp [scanNumber, scanMinus, scanWhole] at h
  | cons c t =>
    -- the first character decides, and no other branch starts with a digit or a minus
    have hc : c ≠ '"' ∧ c ≠ '[' ∧ c ≠ '\x7b' ∧ c ≠ 'n' ∧ c ≠ 't' ∧ c ≠ 'f' := by
      refine ⟨?_, ?_, ?_, ?_, ?_, ?_⟩ <;> rintro rfl <;> simpa using scanNumber_head h
    obtain ⟨h1, h2, h3, h4, h5, h6⟩ := hc
    simpa [scanValue, h1, h2, h3, h4, h5, h6] using hnum

/-- A written value starts with a character that is no blank and closes no list. -/
lemma encode_head (st : Style) (v : Json) (h : wellFormed v = true) :
    ∃ c cs, encode st v = c :: cs ∧ isBlank c = false ∧ c ≠ ']' := by
  have hnum : ∀ (t : List Char) (w : Json), scanNumber t = some (w, []) →
      ∃ c cs, t = c :: cs ∧ isBlank c = false ∧ c ≠ ']' := by
    intro t w ht
    cases t with
    | nil => simp [scanNumber, scanMinus, scanWhole] at ht
    | cons c cs =>
      refine ⟨c, cs, rfl, ?_, ?_⟩
      · by_contra hb
        simp only [isBlank, Bool.or_eq_true, decide_eq_true_eq, Bool.not_eq_false] at hb
        rcases hb with ((rfl | rfl) | rfl) | rfl <;> simpa using scanNumber_head ht
      · rintro rfl
        simpa using scanNumber_head ht
  cases v with
  | null => exact ⟨_, _, rfl, by decide, by decide⟩
  | bool b => cases b <;> exact ⟨_, _, rfl, by decide, by decide⟩
  | int n => exact hnum _ _ (scanNumber_encodeInt n)
  | float t => exact hnum t _ (by simpa [wellFormed] using h)
  | str s => exact ⟨_, _, rfl, by decide, by decide⟩
  | arr items => cases items <;> exact ⟨_, _, rfl, by decide, by decide⟩
  | obj fields => cases fields <;> exact ⟨_, _, rfl, by decide, by decide⟩

lemma skipBlanks_cons (h : isBlank c = false) (cs : List Char) : skipBlanks (c :: cs) = c :: cs := by
  simp [skipBlanks, h]

lemma skipBlanks_encode (st : Style) (v : Json) (h : wellFormed v = true) (rest : List Char) :
    skipBlanks (encode st v ++ rest) = encode st v ++ rest := by
  obtain ⟨c, cs, he, hb, -⟩ := encode_head st v h
  rw [he, List.cons_append, skipBlanks_cons hb]

lemma skipBlanks_encodeString (st : Style) (s : String) (rest : List Char) :
    skipBlanks (encodeString st s ++ rest) = encodeString st s ++ rest :=
  skipBlanks_cons (by decide) _

/-- A separator is its mark and perhaps one blank, which the reader skips. -/
lemma itemSeparator_eq (st : Style) (cs : List Char) :
    ∃ more, st.itemSeparator ++ cs = ',' :: more ∧ skipBlanks more = skipBlanks cs := by
  unfold Style.itemSeparator
  split
  · exact ⟨cs, rfl, rfl⟩
  · exact ⟨' ' :: cs, rfl, by simp [skipBlanks, isBlank]⟩

lemma keySeparator_eq (st : Style) (cs : List Char) :
    ∃ more, st.keySeparator ++ cs = ':' :: more ∧ skipBlanks more = skipBlanks cs := by
  unfold Style.keySeparator
  split
  · exact ⟨cs, rfl, rfl⟩
  · exact ⟨' ' :: cs, rfl, by simp [skipBlanks, isBlank]⟩

lemma scanKey_encodeString (st : Style) (k : String) (cs : List Char) :
    scanKey (encodeString st k ++ (st.keySeparator ++ cs)) = some (k, skipBlanks cs) := by
  obtain ⟨more, hsep, hmore⟩ := keySeparator_eq st cs
  simp only [encodeString, List.cons_append, List.append_assoc, List.nil_append, hsep, scanKey,
    scanString_encodeChars, skipBlanks_cons (show isBlank ':' = false by decide), hmore]

lemma numberEnd_encodeItems (st : Style) (xs : List Json) (rest : List Char) :
    NumberEnd (encodeItems st xs ++ rest) := by
  cases xs with
  | nil => simp [encodeItems, NumberEnd]
  | cons x xs => unfold encodeItems Style.itemSeparator; split <;> simp [NumberEnd]

lemma numberEnd_encodeFields (st : Style) (fs : List (String × Json)) (rest : List Char) :
    NumberEnd (encodeFields st fs ++ rest) := by
  cases fs with
  | nil => simp [encodeFields, NumberEnd]
  | cons f fs => unfold encodeFields Style.itemSeparator; split <;> simp [NumberEnd]

lemma length_encodeItems_pos (st : Style) (xs : List Json) :
    0 < (encodeItems st xs).length := by
  cases xs with
  | nil => simp [encodeItems]
  | cons x xs => unfold encodeItems Style.itemSeparator; split <;> simp

lemma length_encodeFields_pos (st : Style) (fs : List (String × Json)) :
    0 < (encodeFields st fs).length := by
  cases fs with
  | nil => simp [encodeFields]
  | cons f fs => unfold encodeFields Style.itemSeparator; split <;> simp

lemma length_encode_pos (st : Style) (v : Json) (h : wellFormed v = true) :
    0 < (encode st v).length := by
  obtain ⟨c, cs, he, -⟩ := encode_head st v h
  simp [he]

mutual
/-- The reader gives back the value that was written, and stops behind it. -/
lemma scanValue_encode (st : Style) : ∀ (v : Json) (n : Nat) (rest : List Char),
    wellFormed v = true → (encode st v).length ≤ n → NumberEnd rest →
    scanValue n (encode st v ++ rest) = some (v, rest)
  | v, 0, rest, hw, hn, _ => by
    have := length_encode_pos st v hw
    omega
  | .null, n + 1, rest, _, _, _ => by simp [encode, scanValue]
  | .bool true, n + 1, rest, _, _, _ => by simp [encode, scanValue]
  | .bool false, n + 1, rest, _, _, _ => by simp [encode, scanValue]
  | .int i, n + 1, rest, _, _, hr => scanValue_number (scanNumber_encodeInt i) hr
  | .float t, n + 1, rest, hw, _, hr => by
    exact scanValue_number (t := t) (by simpa [wellFormed] using hw) hr
  | .str s, n + 1, rest, _, _, _ => by
    simp [encode, encodeString, scanValue, scanString_encodeChars]
  | .arr [], n + 1, rest, _, _, _ => by
    simp [encode, scanValue, skipBlanks, isBlank]
  | .arr (x :: xs), n + 1, rest, hw, hn, _ => by
    simp only [wellFormed, wellFormedItems, Bool.and_eq_true] at hw
    simp only [encode, List.length_cons, List.length_append, List.cons_append] at hn
    have hitems := scanItems_encode st x xs n rest hw.1 hw.2 (by omega)
    obtain ⟨c, cs, he, hb, hclose⟩ := encode_head st x hw.1
    simp only [encode, List.cons_append, List.append_assoc, scanValue, Char.reduceEq, if_false,
      if_true, skipBlanks_encode st x hw.1]
    split
    · rename_i heq
      rw [he, List.cons_append, List.cons.injEq] at heq
      exact absurd heq.1 hclose
    · rw [hitems]; rfl
  | .obj [], n + 1, rest, _, _, _ => by
    simp [encode, scanValue, skipBlanks, isBlank]
  | .obj ((k, x) :: fs), n + 1, rest, hw, hn, _ => by
    simp only [wellFormed, wellFormedFields, Bool.and_eq_true, decide_eq_true_eq] at hw
    simp only [encode, List.length_cons, List.length_append, List.cons_append] at hn
    have hfiel := scanFields_encode st k x fs n rest hw.2.1 hw.2.2 (by omega)
    simp only [encode, List.cons_append, List.append_assoc, scanValue, Char.reduceEq, if_false,
      if_true, skipBlanks_encodeString]
    split
    · rename_i heq
      simp [encodeString] at heq
    · rw [hfiel]
      simp only [Option.map_some, dictOf_nodup hw.1]

lemma scanItems_encode (st : Style) : ∀ (x : Json) (xs : List Json) (n : Nat) (rest : List Char),
    wellFormed x = true → wellFormedItems xs = true →
    (encode st x).length + (encodeItems st xs).length ≤ n →
    scanItems n (encode st x ++ (encodeItems st xs ++ rest)) = some (x :: xs, rest)
  | x, xs, 0, rest, hx, _, hn => by
    have := length_encode_pos st x hx
    omega
  | x, [], n + 1, rest, hx, _, hn => by
    have hpos := length_encodeItems_pos st []
    simp only [scanItems, scanValue_encode st x n _ hx (by omega) (numberEnd_encodeItems st [] rest)]
    simp [encodeItems, skipBlanks, isBlank]
  | x, y :: ys, n + 1, rest, hx, hxs, hn => by
    have hpos := length_encode_pos st x hx
    have hpos' := length_encodeItems_pos st (y :: ys)
    have hx' := scanValue_encode st x n (encodeItems st (y :: ys) ++ rest) hx (by omega)
      (numberEnd_encodeItems st _ rest)
    simp only [wellFormedItems, Bool.and_eq_true] at hxs
    simp only [encodeItems, List.length_append] at hn
    have hys := scanItems_encode st y ys n rest hxs.1 hxs.2 (by omega)
    obtain ⟨more, hsep, hmore⟩ :=
      itemSeparator_eq st (encode st y ++ (encodeItems st ys ++ rest))
    simp only [encodeItems, List.append_assoc, hsep] at hx' ⊢
    simp only [scanItems, hx', skipBlanks_cons (show isBlank ',' = false by decide), hmore,
      skipBlanks_encode st y hxs.1, hys, Option.map_some]

lemma scanFields_encode (st : Style) : ∀ (k : String) (x : Json) (fs : List (String × Json))
    (n : Nat) (rest : List Char), wellFormed x = true → wellFormedFields fs = true →
    (encode st x).length + (encodeFields st fs).length ≤ n →
    scanFields n (encodeString st k ++ (st.keySeparator ++ (encode st x ++
      (encodeFields st fs ++ rest)))) = some ((k, x) :: fs, rest)
  | k, x, fs, 0, rest, hx, _, hn => by
    have := length_encode_pos st x hx
    omega
  | k, x, [], n + 1, rest, hx, _, hn => by
    have hpos := length_encodeFields_pos st []
    simp only [scanFields, scanKey_encodeString, skipBlanks_encode st x hx,
      scanValue_encode st x n _ hx (by omega) (numberEnd_encodeFields st [] rest)]
    simp [encodeFields, skipBlanks, isBlank]
  | k, x, (l, y) :: fs, n + 1, rest, hx, hfs, hn => by
    have hpos := length_encode_pos st x hx
    have hpos' := length_encodeFields_pos st ((l, y) :: fs)
    have hx' := scanValue_encode st x n (encodeFields st ((l, y) :: fs) ++ rest) hx (by omega)
      (numberEnd_encodeFields st _ rest)
    simp only [wellFormedFields, Bool.and_eq_true] at hfs
    simp only [encodeFields, List.length_append] at hn
    have hys := scanFields_encode st l y fs n rest hfs.1 hfs.2 (by omega)
    obtain ⟨more, hsep, hmore⟩ := itemSeparator_eq st
      (encodeString st l ++ (st.keySeparator ++ (encode st y ++ (encodeFields st fs ++ rest))))
    simp only [encodeFields, List.append_assoc, hsep] at hx' ⊢
    simp only [scanFields, scanKey_encodeString, skipBlanks_encode st x hx, hx',
      skipBlanks_cons (show isBlank ',' = false by decide), hmore,
      skipBlanks_encodeString, hys, Option.map_some]
end

/-- A value that was written is read back as it was. -/
lemma loads_dumps (st : Style) (h : wellFormed v = true) : loads (dumps st v) = some v := by
  have hskip := skipBlanks_encode st v h []
  rw [List.append_nil] at hskip
  have hscan := scanValue_encode st v ((encode st v).length + 1) [] h (by omega) numberEnd_nil
  rw [List.append_nil] at hscan
  have hnil : skipBlanks [] = [] := rfl
  simp [loads, dumps, hskip, hscan, hnil]

/-- The text of a value fixes the value. -/
lemma dumps_injective (st : Style) {w : Json} (hv : wellFormed v = true)
    (hw : wellFormed w = true) (h : dumps st v = dumps st w) : v = w := by
  have := loads_dumps st hv
  rw [h, loads_dumps st hw] at this
  exact (Option.some.inj this).symm

end json
