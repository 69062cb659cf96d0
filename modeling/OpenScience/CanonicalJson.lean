-- Canonical JSON: the text that json.dumps writes with sort_keys and
-- without blanks. Two values have one canonical text exactly when they are
-- the same value up to the order of their keys.
import OpenScience.Json

namespace json

open Json

/-! ## Sorting the keys -/

def insertField (f : String × Json) : List (String × Json) → List (String × Json)
  | [] => [f]
  | g :: fs => if g.1 < f.1 then g :: insertField f fs else f :: g :: fs

mutual
/-- `sort_keys=True`, at every depth. -/
def sortKeys : Json → Json
  | .arr items => .arr (sortItems items)
  | .obj fields => .obj (sortFields fields)
  | v => v

def sortItems : List Json → List Json
  | [] => []
  | v :: items => sortKeys v :: sortItems items

def sortFields : List (String × Json) → List (String × Json)
  | [] => []
  | (k, v) :: fields => insertField (k, sortKeys v) (sortFields fields)
end

/-- The same dict: the order of the keys does not count. -/
def SameDict (v w : Json) : Prop := sortKeys v = sortKeys w
  deriving Decidable

/-- Fields in the order of their keys. -/
def Ordered (fields : List (String × Json)) : Prop := fields.Pairwise fun f g => ¬ g.1 < f.1

lemma insertField_perm (f : String × Json) (fields : List (String × Json)) :
    List.Perm (insertField f fields) (f :: fields) := by
  induction fields with
  | nil => exact List.Perm.refl _
  | cons g fields ih =>
    unfold insertField
    split
    · exact (ih.cons g).trans (List.Perm.swap f g fields)
    · exact List.Perm.refl _

lemma insertField_ordered {f : String × Json} {fields : List (String × Json)}
    (h : Ordered fields) : Ordered (insertField f fields) := by
  induction fields with
  | nil => exact List.pairwise_singleton _ _
  | cons g fields ih =>
    obtain ⟨hg, hfiel⟩ := List.pairwise_cons.mp h
    unfold insertField
    split
    · rename_i hlt
      refine List.pairwise_cons.mpr ⟨fun x hx => ?_, ih hfiel⟩
      rcases List.mem_cons.mp ((insertField_perm f fields).mem_iff.mp hx) with rfl | hx
      · exact lt_asymm hlt
      · exact hg x hx
    · rename_i hle
      refine List.pairwise_cons.mpr ⟨fun x hx => ?_, h⟩
      rcases List.mem_cons.mp hx with rfl | hx
      · exact hle
      · exact fun hlt => hg x hx (lt_of_lt_of_le hlt (not_lt.mp hle))

lemma insertField_of_ordered {f : String × Json} {fields : List (String × Json)}
    (h : Ordered (f :: fields)) : insertField f fields = f :: fields := by
  cases fields with
  | nil => rfl
  | cons g fields =>
    unfold insertField
    rw [if_neg ((List.pairwise_cons.mp h).1 g (by simp))]

lemma sortFields_ordered : ∀ fields : List (String × Json), Ordered (sortFields fields)
  | [] => List.Pairwise.nil
  | (k, v) :: fields => by
    rw [sortFields]
    exact insertField_ordered (sortFields_ordered fields)

/-- On ordered fields whose values are sorted there is nothing to do. -/
lemma sortFields_of_ordered : ∀ {fields : List (String × Json)}, Ordered fields →
    (∀ f ∈ fields, sortKeys f.2 = f.2) → sortFields fields = fields
  | [], _, _ => rfl
  | (k, v) :: fields, h, hv => by
    have ih := sortFields_of_ordered (List.pairwise_cons.mp h).2
      fun f hf => hv f (List.mem_cons_of_mem _ hf)
    have hk : sortKeys v = v := hv (k, v) (by simp)
    rw [sortFields, ih, hk, insertField_of_ordered h]

lemma sortItems_eq (items : List Json) : sortItems items = items.map sortKeys := by
  induction items <;> simp_all [sortItems]

lemma sortFields_perm : ∀ fields : List (String × Json),
    (sortFields fields).Perm (fields.map fun f => (f.1, sortKeys f.2))
  | [] => List.Perm.refl _
  | (k, v) :: fields => (insertField_perm _ _).trans ((sortFields_perm fields).cons (k, sortKeys v))

/-- Every field that is sorted comes from one with its key. -/
lemma mem_sortFields {f : String × Json} {fields : List (String × Json)} (h : f ∈ sortFields fields) :
    ∃ g ∈ fields, (g.1, sortKeys g.2) = f :=
  List.mem_map.mp ((sortFields_perm fields).mem_iff.mp h)

lemma sortKeys_idem (v : Json) : sortKeys (sortKeys v) = sortKeys v := by
  induction v with
  | arr items ih =>
    simp only [sortKeys, sortItems_eq, List.map_map]
    exact congrArg Json.arr (List.map_congr_left ih)
  | obj fields ih =>
    simp only [sortKeys]
    rw [sortFields_of_ordered (sortFields_ordered fields) fun f hf => ?_]
    obtain ⟨g, hg, rfl⟩ := mem_sortFields hf
    exact ih g hg
  | null | bool | int | float | str => rfl

lemma sameDict_sortKeys (v : Json) : SameDict (sortKeys v) v := sortKeys_idem v

/-! ## Sorting keeps the fields -/

lemma lookup_field (f : String × Json) (fields : List (String × Json)) (key : String) :
    (f :: fields).lookup key = if key = f.1 then some f.2 else fields.lookup key := by
  obtain ⟨k, v⟩ := f
  by_cases hk : key = k
  · simp [hk]
  · have hbeq : (key == k) = false := by simpa using hk
    simp [List.lookup, hbeq, hk]

lemma lookup_insertField (f : String × Json) (fields : List (String × Json)) (key : String) :
    (insertField f fields).lookup key = if key = f.1 then some f.2 else fields.lookup key := by
  induction fields with
  | nil => rw [insertField, lookup_field]
  | cons g fields ih =>
    unfold insertField
    by_cases hlt : g.1 < f.1
    · rw [if_pos hlt, lookup_field, lookup_field, ih]
      by_cases hg : key = g.1
      · have hf : key ≠ f.1 := by
          rw [hg]
          exact ne_of_lt hlt
        rw [if_pos hg, if_neg hf, if_pos hg]
      · rw [if_neg hg, if_neg hg]
    · rw [if_neg hlt, lookup_field]

/-- A field is found under its key, with its own keys sorted. -/
lemma field_sortKeys (key : String) : ∀ fields : List (String × Json),
    (sortKeys (.obj fields)).field key = ((Json.obj fields).field key).map sortKeys
  | [] => rfl
  | (k, v) :: fields => by
    have ih := field_sortKeys key fields
    simp only [sortKeys, Json.field] at ih ⊢
    rw [sortFields, lookup_insertField, lookup_field, ih]
    split <;> rfl

/-! ## Sorting keeps a value well formed -/

lemma sortFields_keys (fields : List (String × Json)) : ((sortFields fields).map Prod.fst).Perm (fields.map Prod.fst) := by
  have hkeys := (sortFields_perm fields).map Prod.fst
  rwa [List.map_map] at hkeys

lemma wellFormed_sortKeys {v : Json} (h : wellFormed v = true) : wellFormed (sortKeys v) = true := by
  induction v with
  | arr items ih =>
    simp only [sortKeys, wellFormed, wellFormedItems_iff, sortItems_eq, List.forall_mem_map] at h ⊢
    exact fun v hv => ih v hv (h v hv)
  | obj fields ih =>
    simp only [sortKeys, wellFormed, Bool.and_eq_true, decide_eq_true_eq, wellFormedFields_iff] at h ⊢
    refine ⟨(sortFields_keys fields).nodup_iff.mpr h.1, fun f hf => ?_⟩
    obtain ⟨g, hg, rfl⟩ := mem_sortFields hf
    exact ih g hg (h.2 g hg)
  | null | bool | int | float | str => exact h

/-! ## JSON columns -/

/-- What a JSON column holds: a value and the style its text is written in.
The text of a well-formed value reads back as the value, so nothing is
lost by keeping the value. -/
structure Column where
  value : Json
  style : Style
  deriving DecidableEq

def Column.text (c : Column) : String := dumps c.style c.value

/-- `json.dumps(value, ensure_ascii=…, sort_keys=True, separators=(",", ":"))`. -/
def canonical_json (ensure_ascii : Bool) (v : Json) : Column := ⟨sortKeys v, ⟨ensure_ascii, true⟩⟩

/-- One canonical text means one dict. -/
lemma sameDict_of_text {ensure_ascii : Bool} {v w : Json} (hv : wellFormed v = true)
    (hw : wellFormed w = true)
    (h : (canonical_json ensure_ascii v).text = (canonical_json ensure_ascii w).text) :
    SameDict v w :=
  dumps_injective _ (wellFormed_sortKeys hv) (wellFormed_sortKeys hw) h

end json
