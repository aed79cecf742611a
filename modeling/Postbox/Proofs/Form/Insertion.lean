import Mathlib.Data.List.Nodup
import Postbox.Form

namespace Postbox

/-!
# Setting many fields

Fields that are set one after the other: the first time a name is set gives its place, behind the
names that were there before, and the last time gives its value.

* `Form.keys_insertMany` — the names, in order.
* `Form.get?_insertMany` — the values.
* `Form.toList_eq_map_keys` — a form is its names with their values, so that the two say all.
* `Form.toList_insertMany_of_nodup` — new names that are all different are put at the end.
-/

namespace Field

/-- A name is looked up in the first list, and then in the second. -/
theorem lookup_append (key : String) (fs gs : List Field) :
    lookup key (fs ++ gs) = (lookup key fs).or (lookup key gs) := by
  induction fs with
  | nil => rfl
  | cons f fs ih =>
    rw [List.cons_append, lookup_cons, lookup_cons, ih]
    split <;> rfl

/-- Fields that all have a value are looked up as pairs. -/
theorem lookup_map_some (key : String) (ps : List (String × String)) :
    lookup key (ps.map fun p => (p.1, some p.2)) = (ps.lookup key).map some := by
  induction ps with
  | nil => rfl
  | cons p ps ih =>
    rw [List.map_cons, lookup_cons, List.lookup_cons, ih]
    by_cases h : p.1 = key
    · simp [h]
    · simp [h, beq_eq_false_iff_ne.mpr (Ne.symm h)]

/-- Fields with different names are their names with what these are set to. -/
theorem eq_map_lookup {fs : List Field} (h : (fs.map Prod.fst).Nodup) :
    fs = (fs.map Prod.fst).map fun key => (key, (lookup key fs).join) := by
  induction fs with
  | nil => rfl
  | cons f fs ih =>
    rw [List.map_cons, List.nodup_cons] at h
    -- The first name does not come again, so the other names are found behind it.
    have hrest : ∀ key ∈ fs.map Prod.fst,
        (key, (lookup key fs).join) = (key, (lookup key (f :: fs)).join) := by
      intro key hkey
      have hne : f.1 ≠ key := fun e => h.1 (e.symm ▸ hkey)
      rw [lookup_cons, if_neg hne]
    rw [List.map_cons, List.map_cons, lookup_cons, if_pos rfl, ← List.map_congr_left hrest,
      ← ih h.2]
    rfl

/-- A new name is placed at the end. -/
theorem place_of_not_mem {key : String} {fs : List Field} (h : key ∉ fs.map Prod.fst)
    (value : Option String) : (place key value fs).2 = fs ++ [(key, value)] := by
  induction fs with
  | nil => rfl
  | cons f fs ih =>
    rw [List.map_cons, List.mem_cons, not_or] at h
    rw [place_cons, if_neg (Ne.symm h.1), ih h.2]
    rfl

end Field

namespace Form

/-- The names of a form are different, so a form is its names with their values. -/
theorem toList_eq_map_keys (form : Form) :
    form.toList = form.keys.map fun key => (key, (form.get? key).join) :=
  Field.eq_map_lookup form.nodup

/-- **The first time a name is set gives its place.**  The names that were there stay where they
    are, and the others follow in the order of their first appearance. -/
theorem keys_insertMany (form : Form) (fields : List Field) :
    (form.insertMany fields).keys
      = form.keys ++ ((fields.map Prod.fst).removeAll form.keys).eraseDups := by
  induction fields generalizing form with
  | nil => exact (List.append_nil _).symm
  | cons f fields ih =>
    rw [insertMany_cons, ih, keys_insert, List.map_cons, List.cons_removeAll]
    by_cases h : f.1 ∈ form.keys
    · rw [if_pos h, if_neg (by simpa using h)]
    · -- Once the new name is there, its later appearances are left out with the old ones.
      have hskip : (fields.map Prod.fst).removeAll (form.keys ++ [f.1])
          = ((fields.map Prod.fst).removeAll form.keys).filter (fun key => !key == f.1) := by
        rw [List.removeAll, List.removeAll, List.filter_filter]
        refine List.filter_congr fun key _ => ?_
        by_cases hkey : key = f.1 <;> simp [hkey]
      rw [if_neg h, if_pos (by simpa using h), List.eraseDups_cons, hskip, List.append_assoc]
      rfl

/-- **The last time a name is set gives its value.** -/
theorem get?_insertMany (form : Form) (fields : List Field) (key : String) :
    (form.insertMany fields).get? key
      = (Field.lookup key fields.reverse).or (form.get? key) := by
  induction fields generalizing form with
  | nil => rfl
  | cons f fields ih =>
    rw [insertMany_cons, ih, get?_insert, List.reverse_cons, Field.lookup_append, Option.or_assoc]
    congr 1
    rw [Field.lookup_cons]
    split <;> rfl

/-- A new name is inserted at the end. -/
theorem toList_insert_of_not_mem {form : Form} {key : String} (h : key ∉ form.keys)
    (value : Option String) : (form.insert key value).toList = form.toList ++ [(key, value)] :=
  Field.place_of_not_mem h value

/-- New names that are all different are put at the end as they come. -/
theorem toList_insertMany_of_nodup {form : Form} {fields : List Field}
    (h : (form.keys ++ fields.map Prod.fst).Nodup) :
    (form.insertMany fields).toList = form.toList ++ fields := by
  induction fields generalizing form with
  | nil => exact (List.append_nil _).symm
  | cons f fields ih =>
    have hf : f.1 ∉ form.keys := by
      intro hmem
      exact (List.nodup_append.mp h).2.2 f.1 hmem f.1 List.mem_cons_self rfl
    have hkeys : (form.insert f.1 f.2).keys ++ fields.map Prod.fst
        = form.keys ++ (f :: fields).map Prod.fst := by
      rw [keys_insert, if_neg hf, List.append_assoc]
      rfl
    rw [insertMany_cons, ih (hkeys ▸ h), toList_insert_of_not_mem hf, List.append_assoc]
    rfl

/-- Fields with different names are the fields of their form. -/
theorem toList_ofList {fields : List Field} (h : (fields.map Prod.fst).Nodup) :
    (ofList fields).toList = fields := by
  have hempty : (empty.keys ++ fields.map Prod.fst).Nodup := h
  exact toList_insertMany_of_nodup hempty

end Form

end Postbox
