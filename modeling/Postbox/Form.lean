namespace Postbox

/-!
# Forms

The fields of a report, in order.  A field is a name with a value or with none; no name occurs
twice.  A new name goes to the end, and a name that is there keeps its place when it gets a new
value.

* `Form` — the fields with the distinctness of their names.
* `Form.insert`, `Form.replace` — setting a field; `replace` also gives what was there.
* `Form.get?`, `Form.keys`, `Form.size` — reading.
* `Form.ofList` — setting the fields of a list one by one.
* `Form.get?_insert`, `Form.keys_insert` — what an insertion does to the readings.
-/

/-- A field: its name, and its value if it has one. -/
abbrev Field := String × Option String

namespace Field

/-- What `key` is set to in `fields`: nothing, or a value that may be missing. -/
def lookup (key : String) : List Field → Option (Option String)
  | [] => none
  | f :: fs => if f.1 = key then some f.2 else lookup key fs

/-- Sets `key`, in its place if it is there and at the end if not, and gives what it replaced. -/
def place (key : String) (value : Option String) :
    List Field → Option (Option String) × List Field
  | [] => (none, [(key, value)])
  | f :: fs =>
    if f.1 = key then (some f.2, (key, value) :: fs)
    else ((place key value fs).1, f :: (place key value fs).2)

@[simp] theorem lookup_nil (key : String) : lookup key [] = none := rfl

@[simp] theorem lookup_cons (key : String) (f : Field) (fs : List Field) :
    lookup key (f :: fs) = if f.1 = key then some f.2 else lookup key fs := rfl

@[simp] theorem place_nil (key : String) (value : Option String) :
    place key value [] = (none, [(key, value)]) := rfl

@[simp] theorem place_cons (key : String) (value : Option String) (f : Field) (fs : List Field) :
    place key value (f :: fs)
      = if f.1 = key then (some f.2, (key, value) :: fs)
        else ((place key value fs).1, f :: (place key value fs).2) := rfl

/-- A placement gives back what a look-up gave. -/
theorem place_fst (key : String) (value : Option String) (fs : List Field) :
    (place key value fs).1 = lookup key fs := by
  induction fs with
  | nil => rfl
  | cons f fs ih => simp only [place_cons, lookup_cons]; split <;> simp [ih]

/-- A placement adds the name at the end if it is new, and keeps the names if it is not. -/
theorem map_fst_place (key : String) (value : Option String) (fs : List Field) :
    (place key value fs).2.map Prod.fst
      = if key ∈ fs.map Prod.fst then fs.map Prod.fst else fs.map Prod.fst ++ [key] := by
  induction fs with
  | nil => simp
  | cons f fs ih =>
    by_cases h : f.1 = key
    · simp [h]
    · have hk : ¬key = f.1 := fun e => h e.symm
      simp only [place_cons, h, if_false, List.map_cons, ih, List.mem_cons, hk, false_or]
      split <;> simp

/-- Look-ups after a placement: the new value at the name, and all others as they were. -/
theorem lookup_place (key other : String) (value : Option String) (fs : List Field) :
    lookup other (place key value fs).2 = if key = other then some value else lookup other fs := by
  induction fs with
  | nil => simp
  | cons f fs ih =>
    by_cases h : f.1 = key
    · by_cases ho : key = other
      · simp [h, ho]
      · simp [h, ho]
    · by_cases ho : key = other
      · subst ho; simp [h, ih]
      · simp [h, ih, ho]

/-- A look-up fails exactly on the names that do not occur. -/
theorem lookup_eq_none_iff {key : String} {fs : List Field} :
    lookup key fs = none ↔ key ∉ fs.map Prod.fst := by
  induction fs with
  | nil => simp
  | cons f fs ih =>
    by_cases h : f.1 = key
    · simp [h]
    · have hk : ¬key = f.1 := fun e => h e.symm
      simp [h, hk, ih]

end Field

/-- Fields in order, with distinct names. -/
structure Form where
  fields : List Field := []
  nodup : (fields.map Prod.fst).Nodup := by simp
  deriving Repr, DecidableEq

namespace Form

/-- The form without fields. -/
def empty : Form := {}

instance : Inhabited Form := ⟨empty⟩

/-- What the field `key` is set to: `none` if there is no such field, `some none` if it has no
    value. -/
def get? (form : Form) (key : String) : Option (Option String) := Field.lookup key form.fields

/-- Whether there is a field `key`. -/
def contains (form : Form) (key : String) : Bool := (form.get? key).isSome

/-- The names, in order. -/
def keys (form : Form) : List String := form.fields.map Prod.fst

/-- The number of fields. -/
def size (form : Form) : Nat := form.fields.length

/-- Whether there is no field. -/
def isEmpty (form : Form) : Bool := form.fields.isEmpty

/-- The names stay distinct under a placement. -/
theorem nodup_place (form : Form) (key : String) (value : Option String) :
    ((Field.place key value form.fields).2.map Prod.fst).Nodup := by
  rw [Field.map_fst_place]
  split
  · exact form.nodup
  · next h =>
    refine List.nodup_append.mpr ⟨form.nodup, by simp, ?_⟩
    intro a ha b hb hab
    rw [List.mem_singleton] at hb
    exact h (hb ▸ hab ▸ ha)

/-- Sets the field `key`, and gives what it was set to before. -/
def replace (form : Form) (key : String) (value : Option String) : Option (Option String) × Form :=
  ((Field.place key value form.fields).1, ⟨_, form.nodup_place key value⟩)

/-- Sets the field `key`. -/
def insert (form : Form) (key : String) (value : Option String) : Form :=
  (form.replace key value).2

/-- Sets the field `key` to a value. -/
def withValue (form : Form) (key value : String) : Form := form.insert key (some value)

/-- Sets the given fields, one by one. -/
def insertMany (form : Form) (fields : List Field) : Form :=
  fields.foldl (fun form f => form.insert f.1 f.2) form

/-- The form of a list of fields: the first occurrence of a name gives its place, the last one its
    value. -/
def ofList (fields : List Field) : Form := empty.insertMany fields

/-- The fields, in order. -/
def toList (form : Form) : List Field := form.fields

@[simp] theorem toList_empty : empty.toList = [] := rfl

@[simp] theorem get?_empty (key : String) : empty.get? key = none := rfl

@[simp] theorem insertMany_nil (form : Form) : form.insertMany [] = form := rfl

@[simp] theorem insertMany_cons (form : Form) (f : Field) (fields : List Field) :
    form.insertMany (f :: fields) = (form.insert f.1 f.2).insertMany fields := rfl

@[ext] theorem ext {a b : Form} (h : a.toList = b.toList) : a = b := by
  cases a; cases b; cases h; rfl

/-- A replacement gives back what was there. -/
theorem replace_fst (form : Form) (key : String) (value : Option String) :
    (form.replace key value).1 = form.get? key := Field.place_fst key value form.fields

@[simp] theorem get?_insert (form : Form) (key other : String) (value : Option String) :
    (form.insert key value).get? other = if key = other then some value else form.get? other :=
  Field.lookup_place key other value form.fields

@[simp] theorem keys_insert (form : Form) (key : String) (value : Option String) :
    (form.insert key value).keys
      = if key ∈ form.keys then form.keys else form.keys ++ [key] :=
  Field.map_fst_place key value form.fields

theorem get?_eq_none_iff {form : Form} {key : String} : form.get? key = none ↔ key ∉ form.keys :=
  Field.lookup_eq_none_iff

end Form

end Postbox
