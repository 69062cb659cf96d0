-- What a collaborator may read of an item. Texts lose what looks like a
-- secret or an absolute path, and a value under a sensitive field name goes
-- as a whole. The law of this file: the redacted value does not depend on
-- what stands under a sensitive name.
import OpenScience.Json
import OpenScience.PythonText
import OpenScience.PythonRegex

open json python python.re

namespace ainrf.output_redaction

variable {tables : Tables} {text : Nat → String → String}

/-- The tables that Python's texts and numbers rest on. -/
structure Tables where
  /-- `str.lower`. -/
  lower : String → String
  /-- The characters that `\w` takes. -/
  word : Char → Bool
  /-- The literal that `repr` gives for the number of a literal. -/
  float_repr : List Char → List Char

def REDACTED_SECRET : String := "[REDACTED]"

def REDACTED_PATH : String := "[REDACTED_PATH]"

/-! ## Sensitive names -/

def SENSITIVE_FIELD_PARTS : List String :=
  ["authorization", "credential", "password", "private_key", "secret", "ssh_key", "cookie"]

def SENSITIVE_FIELD_NAMES : List String :=
  ["api_key", "apikey", "auth", "auth_token", "access_token", "refresh_token", "token", "x_api_key", "key"]

def SENSITIVE_FIELD_SUFFIXES : List String :=
  ["_api_key", "_access_key", "_auth_token", "_access_token", "_refresh_token", "_password", "_private_key",
    "_secret", "_ssh_key"]

def SENSITIVE_FIELD_TOKENS : List String :=
  ["api", "apikey", "auth", "authorization", "bearer", "cookie", "credential", "key", "password", "private",
    "secret", "ssh", "token", "tokens"]

/-- An underscore between a small letter or a digit and a capital. -/
def camel_split : List Char → List Char
  | [] => []
  | [c] => [c]
  | c :: d :: cs =>
    if (c.isLower || c.isDigit) && d.isUpper then c :: '_' :: camel_split (d :: cs) else c :: camel_split (d :: cs)

def normalize_field_name (tables : Tables) (field_name : String) : String :=
  tables.lower (replaceChar ' ' '_' (replaceChar '-' '_' (String.ofList (camel_split field_name.toList))))

def endsWith (ending s : String) : Bool := ending.toList.isSuffixOf s.toList

/-- `s.split("_")`, as lists of characters. -/
def splitUnderscore (cs : List Char) : List (List Char) := cs.splitOn '_'

def is_sensitive_field_name (tables : Tables) (field_name : String) : Bool :=
  let normalized := normalize_field_name tables field_name
  let tokens := (splitUnderscore normalized.toList).filter fun token => !token.isEmpty
  SENSITIVE_FIELD_NAMES.contains normalized ||
    SENSITIVE_FIELD_SUFFIXES.any (fun suffix => endsWith suffix normalized) ||
    SENSITIVE_FIELD_PARTS.any (fun part => contains part normalized) ||
    tokens.any fun token => SENSITIVE_FIELD_TOKENS.contains (String.ofList token)

/-! ## Patterns -/

def lowerLetter (c : Char) : Bool := 'a' ≤ c ∧ c ≤ 'z'

def lowerAlnum (c : Char) : Bool := lowerLetter c || c.isDigit

def ABSOLUTE_PATH : Pattern :=
  sequence [.notBehind (among ":/"), .one (· = '/'),
    some1 (.one fun c => !isSpace c && !among "'\"`<>()[]\x7b\x7d,;" c)]

/-- `\[(?:\\.|[^\]])*\]` -/
def bracketed : Pattern := sequence [.one (· = '['), untilQuote ']', .one (· = ']')]

def quoted (x : Char) : Pattern := sequence [.one (· = x), untilQuote x, .one (· = x)]

def AUTHORIZATION_VALUE (tables : Tables) : Pattern :=
  sequence [.boundary tables.word, optional (literal "proxy-"), literal "authorization",
    .boundary tables.word, spaces isSpace, .one (among ":="), spaces isSpace,
    optional (.seq (literal "bearer") (some1 (.one isSpace))),
    .either bracketed (some1 (.one fun c => !isSpace c && !among ",;]\x7d\"'" c))]

/-- `\s*(?:=|:)\s*` -/
def separator : Pattern := .named "separator" (sequence [spaces isSpace, .one (among "=:"), spaces isSpace])

/-- The value of an assignment: quoted, in brackets, or up to the next
space, comma, semicolon or closing bracket. -/
def assigned : Pattern :=
  .named "value" (oneOf (quoted '"') [quoted '\x27', bracketed,
    some1 (.one fun c => !isSpace c && !among ",;\x7d]" c)])

def quoteMark : Pattern := optional (.one (among "\"'"))

/-- Two words with at most one of the characters between them. -/
def joined (between first second : String) : Pattern :=
  sequence [literal first, optional (.one (among between)), literal second]

/-- The names that an assignment and a flag share. -/
def sensitiveWords : List Pattern :=
  [joined " _-" "access" "token", joined " _-" "refresh" "token", literal "password", literal "secret",
    literal "credential", joined " _-" "private" "key", joined " _-" "ssh" "key", literal "token"]

def SENSITIVE_ASSIGNMENT : Pattern :=
  sequence [.named "key" (sequence [quoteMark,
      oneOf (sequence [class1 lowerLetter, .loop false 0 none (class1 fun c => lowerAlnum c || c = '_'),
          oneOf (literal "api_key") (["access_key", "auth_token", "access_token", "refresh_token", "password",
            "private_key", "secret", "ssh_key"].map literal)])
        (joined " _-" "api" "key" :: sensitiveWords),
      quoteMark]),
    separator, assigned]

def FIELD_ASSIGNMENT : Pattern :=
  sequence [.named "key" (sequence [quoteMark, class1 lowerLetter,
      .loop true 0 (some 127) (class1 fun c => lowerAlnum c || among "_. -" c), quoteMark]),
    separator, assigned]

def SENSITIVE_FLAG : Pattern :=
  sequence [.named "key" (sequence [.one (· = '-'), optional (.one (· = '-')),
      oneOf (joined " _-" "api" "key") sensitiveWords]),
    .named "separator" (.either (some1 (.one isSpace)) (.one (· = '='))), assigned]

def BEARER_TOKEN (tables : Tables) : Pattern :=
  sequence [.boundary tables.word, literal "bearer", some1 (.one isSpace),
    .loop true 8 none (class1 fun c => lowerAlnum c || among "._~+/=-" c)]

def KNOWN_TOKEN_LITERAL (tables : Tables) : Pattern :=
  sequence [.boundary tables.word,
    oneOf (literal "sk") [literal "rk", literal "ghp", literal "gho", literal "ghu", literal "ghs",
      literal "github_pat", .seq (literal "xox") (class1 (among "baprs"))],
    .one (among "-_"), .loop true 8 none (class1 fun c => lowerAlnum c || among "._=-" c),
    .boundary tables.word]

def SENSITIVE_QUERY_VALUE : Pattern :=
  sequence [.named "key" (.seq (oneOf (joined "_-" "api" "key") [joined "_-" "access" "token",
      joined "_-" "refresh" "token", literal "token", literal "password", literal "secret"]) (.one (· = '='))),
    .named "value" (some1 (.one fun c => !isSpace c && !among "&#" c))]

/-! ## Texts -/

/-- A quoted value stays a quoted value. -/
def redact_assignment (m : Match) : List Char :=
  let replacement := match m.group "value" with
    | '"' :: _ => dumps ⟨true, false⟩ (.str REDACTED_SECRET)
    | '\x27' :: _ => "'" ++ REDACTED_SECRET ++ "'"
    | _ => REDACTED_SECRET
  m.group "key" ++ m.group "separator" ++ replacement.toList

def stripQuotes (cs : List Char) : List Char :=
  ((cs.dropWhile (among "\"'")).reverse.dropWhile (among "\"'")).reverse

def redact_sensitive_field_assignment (tables : Tables) (m : Match) : List Char :=
  if is_sensitive_field_name tables (String.ofList (stripQuotes (m.group "key"))) then redact_assignment m
  else m.whole

def redact_text (tables : Tables) (value : String) : String :=
  let redacted := sub (AUTHORIZATION_VALUE tables) (fun _ => ("Authorization: " ++ REDACTED_SECRET).toList) value
  let redacted := sub SENSITIVE_ASSIGNMENT redact_assignment redacted
  let redacted := sub FIELD_ASSIGNMENT (redact_sensitive_field_assignment tables) redacted
  let redacted := sub SENSITIVE_FLAG
    (fun m => m.group "key" ++ m.group "separator" ++ REDACTED_SECRET.toList) redacted
  let redacted := sub (BEARER_TOKEN tables) (fun _ => ("Bearer " ++ REDACTED_SECRET).toList) redacted
  let redacted := sub (KNOWN_TOKEN_LITERAL tables) (fun _ => REDACTED_SECRET.toList) redacted
  let redacted := sub SENSITIVE_QUERY_VALUE (fun m => m.group "key" ++ REDACTED_SECRET.toList) redacted
  sub ABSOLUTE_PATH (fun _ => REDACTED_PATH.toList) redacted

/-! ## JSON values -/

mutual
/-- The value as `json.dumps` writes it after `json.loads` read its numbers. -/
def reprFloats (tables : Tables) : Json → Json
  | .float literal => .float (tables.float_repr literal)
  | .arr items => .arr (reprFloatsItems tables items)
  | .obj fields => .obj (reprFloatsFields tables fields)
  | v => v

def reprFloatsItems (tables : Tables) : List Json → List Json
  | [] => []
  | v :: items => reprFloats tables v :: reprFloatsItems tables items

def reprFloatsFields (tables : Tables) : List (String × Json) → List (String × Json)
  | [] => []
  | (k, v) :: fields => (k, reprFloats tables v) :: reprFloatsFields tables fields
end

/-- `_redact_embedded_json`, with what redacts the decoded value. -/
def redact_embedded_json (tables : Tables) (nested : Nat → Json → Json) (depth : Nat) (value : String) :
    String :=
  let redacted_text := redact_text tables value
  let candidate := strip redacted_text
  if !(startsWith "\x7b" candidate || startsWith "[" candidate) then redacted_text
  else if 8 ≤ depth then REDACTED_SECRET
  else match loads candidate with
    | some (.obj fields) => replaced redacted_text (.obj fields)
    | some (.arr items) => replaced redacted_text (.arr items)
    | _ => redacted_text
where
  replaced (redacted_text : String) (decoded : Json) : String :=
    let redacted := nested (depth + 1) decoded
    if redacted = decoded then redacted_text
    else
      let serialized := dumps ⟨false, true⟩ (reprFloats tables redacted)
      let leading := value.toList.takeWhile isSpace
      let trailing := (value.toList.reverse.takeWhile isSpace).reverse
      String.ofList leading ++ serialized ++ String.ofList trailing

mutual
/-- `_redact_json_value`, with what redacts a text at a depth. -/
def redactWith (tables : Tables) (text : Nat → String → String) :
    (field_name : String) → (depth : Nat) → Json → Json
  | field_name, depth, v =>
    if is_sensitive_field_name tables field_name then .str REDACTED_SECRET
    else match v with
      | .obj fields => .obj (redactFields tables text (depth + 1) fields)
      | .arr items => .arr (redactItems tables text field_name (depth + 1) items)
      | .str s => .str (text depth s)
      | v => v

def redactItems (tables : Tables) (text : Nat → String → String) :
    (field_name : String) → (depth : Nat) → List Json → List Json
  | _, _, [] => []
  | field_name, depth, v :: items =>
    redactWith tables text field_name depth v :: redactItems tables text field_name depth items

def redactFields (tables : Tables) (text : Nat → String → String) :
    (depth : Nat) → List (String × Json) → List (String × Json)
  | _, [] => []
  | depth, (key, v) :: fields =>
    (key, redactWith tables text key depth v) :: redactFields tables text depth fields
end

/-- `_redact_embedded_json` for texts within texts, as many as `levels` says. -/
def redactText (tables : Tables) : (levels : Nat) → (depth : Nat) → String → String
  | 0, _, value => value
  | levels + 1, depth, value =>
    redact_embedded_json tables (redactWith tables (redactText tables levels) "") depth value

/-- No text is decoded at the depth 8, so nine levels are all that there are. -/
def redact_json_value (tables : Tables) (field_name : String) (depth : Nat) (v : Json) : Json :=
  redactWith tables (redactText tables 9) field_name depth v

def redact_task_item_payload_for_viewer (tables : Tables) (payload : Json) : Json :=
  redact_json_value tables "" 0 payload

/-! ## Enough levels -/

lemma redactItems_eq (items : List Json) :
    redactItems tables text field_name depth items = items.map (redactWith tables text field_name depth) := by
  induction items <;> simp_all [redactItems]

lemma redactFields_eq (fields : List (String × Json)) : redactFields tables text depth fields =
    fields.map fun f => (f.1, redactWith tables text f.1 depth f.2) := by
  induction fields <;> simp_all [redactFields]

/-- What redacts the texts counts only from the depth of the value on. -/
lemma redactWith_congr (v : Json) (h : ∀ d s, depth ≤ d → text d s = text' d s) :
    redactWith tables text field_name depth v = redactWith tables text' field_name depth v := by
  induction v generalizing field_name depth with
  | obj fields ih =>
    rw [redactWith, redactWith, redactFields_eq, redactFields_eq]
    rw [List.map_congr_left fun f hf => by rw [ih f hf fun d s hd => h d s (by omega)]]
  | arr items ih =>
    rw [redactWith, redactWith, redactItems_eq, redactItems_eq]
    rw [List.map_congr_left fun v hv => ih v hv fun d s hd => h d s (by omega)]
  | str s => rw [redactWith, redactWith, h depth s (Nat.le_refl _)]
  | null | bool | int | float => simp [redactWith]

/-- A text at the depth 8 or below it is decoded by nothing. -/
lemma redact_embedded_json_congr (tables : Tables) (value : String)
    (h : depth < 8 → ∀ v, nested (depth + 1) v = nested' (depth + 1) v) :
    redact_embedded_json tables nested depth value = redact_embedded_json tables nested' depth value := by
  by_cases hd : 8 ≤ depth
  · simp [redact_embedded_json, if_pos hd]
  · have hsame : nested (depth + 1) = nested' (depth + 1) := funext (h (by omega))
    simp [redact_embedded_json, redact_embedded_json.replaced, hsame]

/-- Levels beyond those that the depth leaves change nothing. -/
lemma redactText_levels (tables : Tables) : ∀ (levels levels' depth : Nat) (value : String),
    8 < levels + depth → 8 < levels' + depth → 0 < levels → 0 < levels' →
    redactText tables levels depth value = redactText tables levels' depth value
  | levels + 1, levels' + 1, depth, value, h, h', _, _ => by
    rw [redactText, redactText]
    refine redact_embedded_json_congr tables value fun hd v => redactWith_congr v fun d s hle => ?_
    exact redactText_levels tables levels levels' d s (by omega) (by omega) (by omega) (by omega)

/-- The texts inside a value are redacted as the program redacts them:
decoded, redacted by the same function one level down, and written back. -/
theorem redact_json_value_str (tables : Tables) (field_name : String) (depth : Nat) (s : String) :
    redact_json_value tables field_name depth (.str s) =
      if is_sensitive_field_name tables field_name then .str REDACTED_SECRET
      else .str (redact_embedded_json tables (redact_json_value tables "") depth s) := by
  rw [redact_json_value, redactWith]
  have htext : redactText tables 9 depth s =
      redact_embedded_json tables (redact_json_value tables "") depth s := by
    refine redact_embedded_json_congr tables s fun hd v => redactWith_congr v fun d s hle => ?_
    exact redactText_levels tables 8 9 d s (by omega) (by omega) (by omega) (by omega)
  simp [htext]

/-! ## Secrets -/

mutual
/-- The value without what stands under a sensitive name. -/
def withoutSecrets (tables : Tables) : Json → Json
  | .arr items => .arr (withoutSecretsItems tables items)
  | .obj fields => .obj (withoutSecretsFields tables fields)
  | v => v

def withoutSecretsItems (tables : Tables) : List Json → List Json
  | [] => []
  | v :: items => withoutSecrets tables v :: withoutSecretsItems tables items

def withoutSecretsFields (tables : Tables) : List (String × Json) → List (String × Json)
  | [] => []
  | (key, v) :: fields =>
    (key, if is_sensitive_field_name tables key then .null else withoutSecrets tables v) ::
      withoutSecretsFields tables fields
end

lemma withoutSecretsItems_eq (items : List Json) :
    withoutSecretsItems tables items = items.map (withoutSecrets tables) := by
  induction items <;> simp_all [withoutSecretsItems]

lemma withoutSecretsFields_eq (fields : List (String × Json)) : withoutSecretsFields tables fields =
    fields.map fun f => (f.1, if is_sensitive_field_name tables f.1 then .null else withoutSecrets tables f.2) := by
  induction fields <;> simp_all [withoutSecretsFields]

/-- Two values that differ at most under sensitive names, at any depth. -/
def SameButSecrets (tables : Tables) (v w : Json) : Prop := withoutSecrets tables v = withoutSecrets tables w

mutual
/-- Some field of the value, at any depth, has a sensitive name. -/
def hasSecret (tables : Tables) : Json → Bool
  | .arr items => hasSecretItems tables items
  | .obj fields => hasSecretFields tables fields
  | _ => false

def hasSecretItems (tables : Tables) : List Json → Bool
  | [] => false
  | v :: items => hasSecret tables v || hasSecretItems tables items

def hasSecretFields (tables : Tables) : List (String × Json) → Bool
  | [] => false
  | (key, v) :: fields =>
    is_sensitive_field_name tables key || hasSecret tables v || hasSecretFields tables fields
end

lemma hasSecretItems_iff (items : List Json) :
    hasSecretItems tables items = true ↔ ∃ v ∈ items, hasSecret tables v = true := by
  induction items <;> simp_all [hasSecretItems]

lemma hasSecretFields_iff (fields : List (String × Json)) : hasSecretFields tables fields = true ↔
    ∃ f ∈ fields, is_sensitive_field_name tables f.1 = true ∨ hasSecret tables f.2 = true := by
  induction fields <;> simp_all [hasSecretFields]

/-! ## What stays -/

mutual
/-- The keys, the lengths and the leaves that are no text, without what stands
under a sensitive name. -/
def shape (tables : Tables) : Json → Json
  | .arr items => .arr (shapeItems tables items)
  | .obj fields => .obj (shapeFields tables fields)
  | .str _ => .str ""
  | v => v

def shapeItems (tables : Tables) : List Json → List Json
  | [] => []
  | v :: items => shape tables v :: shapeItems tables items

def shapeFields (tables : Tables) : List (String × Json) → List (String × Json)
  | [] => []
  | (key, v) :: fields =>
    (key, if is_sensitive_field_name tables key then .null else shape tables v) :: shapeFields tables fields
end

/-- The tables for texts in ASCII. -/
def asciiTables : Tables where
  lower s := String.ofList (s.toList.map Char.toLower)
  word c := c.isAlphanum || c = '_'
  float_repr literal := literal

example : redact_task_item_payload_for_viewer asciiTables
    (.obj [("accessToken", .str "a"), ("text", .str "at /a")]) =
    .obj [("accessToken", .str "[REDACTED]"), ("text", .str "at [REDACTED_PATH]")] := by
  decide +kernel

lemma hasSecret_withoutSecrets (v : Json) : hasSecret tables (withoutSecrets tables v) = hasSecret tables v := by
  induction v with
  | arr items ih =>
    rw [withoutSecrets, hasSecret, hasSecret, withoutSecretsItems_eq, Bool.eq_iff_iff, hasSecretItems_iff, hasSecretItems_iff]
    simp only [List.mem_map, exists_exists_and_eq_and]
    exact exists_congr fun v => and_congr_right fun hv => by rw [ih v hv]
  | obj fields ih =>
    rw [withoutSecrets, hasSecret, hasSecret, withoutSecretsFields_eq, Bool.eq_iff_iff, hasSecretFields_iff,
      hasSecretFields_iff]
    simp only [List.mem_map, exists_exists_and_eq_and]
    refine exists_congr fun f => and_congr_right fun hf => ?_
    by_cases hkey : is_sensitive_field_name tables f.1 = true
    · simp [hkey]
    · simp [hkey, ih f hf]
  | null | bool | int | float | str => rfl

lemma withoutSecrets_of_none (v : Json) (h : hasSecret tables v = false) : withoutSecrets tables v = v := by
  induction v with
  | arr items ih =>
    rw [withoutSecrets, withoutSecretsItems_eq, List.map_congr_left fun v hv => ih v hv ?_, List.map_id']
    exact Bool.eq_false_iff.mpr fun hv' => Bool.eq_false_iff.mp h ((hasSecretItems_iff items).mpr ⟨v, hv, hv'⟩)
  | obj fields ih =>
    have hnone : ∀ f ∈ fields, ¬ (is_sensitive_field_name tables f.1 = true ∨ hasSecret tables f.2 = true) :=
      fun f hf hf' => Bool.eq_false_iff.mp h ((hasSecretFields_iff fields).mpr ⟨f, hf, hf'⟩)
    rw [withoutSecrets, withoutSecretsFields_eq, List.map_congr_left fun f hf => ?_, List.map_id]
    obtain ⟨hkey, hv⟩ := not_or.mp (hnone f hf)
    rw [if_neg hkey, ih f hf (Bool.eq_false_iff.mpr hv), id]
  | null | bool | int | float | str => rfl

/-- A value without secrets has no other that differs from it in secrets. -/
lemma eq_of_no_secret (h : SameButSecrets tables v w) (hv : hasSecret tables v = false) : w = v := by
  have hw : hasSecret tables w = false := by
    rw [← hasSecret_withoutSecrets w, ← h, hasSecret_withoutSecrets v, hv]
  rw [← withoutSecrets_of_none w hw, ← h, withoutSecrets_of_none v hv]

/-! ## Another secret -/

/-- Some value other than this one. -/
def otherValue (v : Json) : Json := if v = .null then .bool true else .null

mutual
/-- The value with another secret in the place of each one. -/
def otherSecrets (tables : Tables) : Json → Json
  | .arr items => .arr (otherSecretsItems tables items)
  | .obj fields => .obj (otherSecretsFields tables fields)
  | v => v

def otherSecretsItems (tables : Tables) : List Json → List Json
  | [] => []
  | v :: items => otherSecrets tables v :: otherSecretsItems tables items

def otherSecretsFields (tables : Tables) : List (String × Json) → List (String × Json)
  | [] => []
  | (key, v) :: fields =>
    (key, if is_sensitive_field_name tables key then otherValue v else otherSecrets tables v) ::
      otherSecretsFields tables fields
end

lemma otherSecretsItems_eq (items : List Json) : otherSecretsItems tables items = items.map (otherSecrets tables) := by
  induction items <;> simp_all [otherSecretsItems]

lemma otherSecretsFields_eq (fields : List (String × Json)) : otherSecretsFields tables fields = fields.map fun f =>
    (f.1, if is_sensitive_field_name tables f.1 then otherValue f.2 else otherSecrets tables f.2) := by
  induction fields <;> simp_all [otherSecretsFields]

lemma withoutSecrets_otherSecrets (tables : Tables) (v : Json) :
    withoutSecrets tables (otherSecrets tables v) = withoutSecrets tables v := by
  induction v with
  | arr items ih =>
    rw [otherSecrets, withoutSecrets, withoutSecrets, otherSecretsItems_eq, withoutSecretsItems_eq,
      withoutSecretsItems_eq, List.map_map]
    exact congrArg Json.arr (List.map_congr_left ih)
  | obj fields ih =>
    rw [otherSecrets, withoutSecrets, withoutSecrets, otherSecretsFields_eq, withoutSecretsFields_eq,
      withoutSecretsFields_eq, List.map_map, List.map_congr_left fun f hf => ?_]
    by_cases hkey : is_sensitive_field_name tables f.1 = true
    · simp [hkey]
    · simp [hkey, ih f hf]
  | null | bool | int | float | str => rfl

lemma otherValue_ne (v : Json) : otherValue v ≠ v := by
  unfold otherValue
  by_cases hv : v = .null
  · rw [hv]
    decide
  · rw [if_neg hv]
    exact fun h => hv h.symm

lemma no_secret_of_otherSecrets (v : Json) (h : otherSecrets tables v = v) : hasSecret tables v = false := by
  refine Bool.eq_false_iff.mpr fun hv => ?_
  induction v with
  | arr items ih =>
    obtain ⟨v, hmem, hv⟩ := (hasSecretItems_iff items).mp hv
    have hitems := (otherSecretsItems_eq items).symm.trans ((Json.arr.inj h).trans (List.map_id items).symm)
    exact ih v hmem (List.map_inj_left.mp hitems v hmem) hv
  | obj fields ih =>
    obtain ⟨f, hmem, hf⟩ := (hasSecretFields_iff fields).mp hv
    have hfiel := (otherSecretsFields_eq fields).symm.trans ((Json.obj.inj h).trans (List.map_id fields).symm)
    have hval := congrArg Prod.snd (List.map_inj_left.mp hfiel f hmem)
    by_cases hkey : is_sensitive_field_name tables f.1 = true
    · simp only [if_pos hkey] at hval
      exact otherValue_ne f.2 hval
    · simp only [if_neg hkey] at hval
      exact ih f hmem hval (hf.resolve_left hkey)
  | null | bool | int | float | str => cases hv

lemma wellFormed_otherSecrets (tables : Tables) (v : Json) (h : wellFormed v = true) :
    wellFormed (otherSecrets tables v) = true := by
  induction v with
  | arr items ih =>
    simp only [otherSecrets, wellFormed, otherSecretsItems_eq, wellFormedItems_iff] at h ⊢
    simpa using fun v hv => ih v hv (h v hv)
  | obj fields ih =>
    simp only [otherSecrets, wellFormed, otherSecretsFields_eq, Bool.and_eq_true, wellFormedFields_iff, List.map_map] at h ⊢
    refine ⟨h.1, List.forall_mem_map.mpr fun f hf => ?_⟩
    split
    · unfold otherValue
      split <;> rfl
    · exact ih f hf (h.2 f hf)
  | null | bool | int | str => rfl
  | float => exact h

end ainrf.output_redaction
