import Postbox.Http.MediaType

namespace Postbox.Http.MediaType

/-!
# The form of a media type

A media type is a type and a subtype with a slash between them, and parameters behind semicolons;
the value of a parameter is a token, or anything between quotes.  The reading of it goes byte by
byte through places, and here is shown to take exactly what has this form.

* `Value`, `Parameters`, `IsMediaType` — the form.
* `Place.Remains` — what is to come from a place on; `Place.remains_cons` for one byte.
* `parameters?_eq_some_iff` — the parameters that are read are those of a media type.
-/

/-! ### The form -/

/-- Bytes that may stand in a name. -/
def Tokens (bs : List UInt8) : Prop := ∀ b ∈ bs, isToken b = true

/-- Nothing but blanks. -/
def Blanks (bs : List UInt8) : Prop := ∀ b ∈ bs, b = 32

/-- A value as it is written, and the value itself. -/
inductive Value : List UInt8 → List UInt8 → Prop
  | plain {v : List UInt8} (hv : Tokens v) : Value v v
  | quoted {b : UInt8} {v blanks : List UInt8} (hb : isQuotable b = true)
      (hv : ∀ c ∈ v, isInner c = true) (hs : Blanks blanks) :
      Value (34 :: b :: (v ++ 34 :: blanks)) (b :: v)

/-- What may stand behind the semicolon of a media type, and the parameters there. -/
inductive Parameters : List UInt8 → List Parameter → Prop
  | none {u : List UInt8} (hu : Blanks u) : Parameters u []
  | last {u n w v : List UInt8} (hu : Blanks u) (hne : n ≠ []) (hn : Tokens n)
      (hv : Value w v) : Parameters (u ++ (n ++ 61 :: w)) [(n, v)]
  | more {u n w v rest : List UInt8} {ps : List Parameter} (hu : Blanks u) (hne : n ≠ [])
      (hn : Tokens n) (hv : Value w v) (hw : w ≠ []) (h : Parameters rest ps) :
      Parameters (u ++ (n ++ 61 :: (w ++ 59 :: rest))) ((n, v) :: ps)

/-- The value is a media type, and these are its parameters. -/
inductive IsMediaType : List UInt8 → List Parameter → Prop
  | bare {type sub : List UInt8} (hne : type ≠ []) (ht : Tokens type) (hs : Tokens sub) :
      IsMediaType (type ++ 47 :: sub) []
  | full {type sub rest : List UInt8} {ps : List Parameter} (hne : type ≠ []) (ht : Tokens type)
      (hne' : sub ≠ []) (hs : Tokens sub) (h : Parameters rest ps) :
      IsMediaType (type ++ 47 :: (sub ++ 59 :: rest)) ps

/-! ### Runs of bytes -/

/-- The bytes begin with a run of one kind, this byte ends it, and what follows the run is as it
    should be. -/
def Span (p : UInt8 → Prop) (sep : UInt8) (k : List UInt8 → List UInt8 → Prop)
    (bs : List UInt8) : Prop :=
  ∃ run more, (∀ b ∈ run, p b) ∧ bs = run ++ sep :: more ∧ k run more

section

variable {p : UInt8 → Prop} {sep b : UInt8} {k : List UInt8 → List UInt8 → Prop}
  {bs : List UInt8}

/-- A run that is to be ended needs a byte. -/
theorem not_span_nil : ¬Span p sep k [] := by
  rintro ⟨run, more, -, h, -⟩
  simp at h

/-- A run ends at its first byte, or goes on. -/
theorem span_cons :
    Span p sep k (b :: bs)
      ↔ b = sep ∧ k [] bs ∨ p b ∧ Span p sep (fun run more => k (b :: run) more) bs := by
  constructor
  · rintro ⟨run, more, hrun, h, hk⟩
    cases run with
    | nil =>
      cases h
      exact .inl ⟨rfl, hk⟩
    | cons c run =>
      cases h
      rw [List.forall_mem_cons] at hrun
      exact .inr ⟨hrun.1, run, more, hrun.2, rfl, hk⟩
  · rintro (⟨rfl, hk⟩ | ⟨hb, run, more, hrun, rfl, hk⟩)
    · exact ⟨[], bs, nofun, rfl, hk⟩
    · exact ⟨b :: run, more, List.forall_mem_cons.mpr ⟨hb, hrun⟩, rfl, hk⟩

end

/-! ### What is to come -/

/-- Where the type is at its end: what is to come behind the slash. -/
def Subtyped (bs : List UInt8) (ps : List Parameter) : Prop :=
  Tokens bs ∧ ps = []
    ∨ Span (isToken · = true) 59 (fun sub rest => sub ≠ [] ∧ Parameters rest ps) bs

/-- The bytes of one kind that end a parameter, and the others behind a semicolon, if there is
    one. -/
def Closing (kind : UInt8 → Prop) (ended : List UInt8 → Parameter) (bs : List UInt8)
    (ps : List Parameter) : Prop :=
  (∀ b ∈ bs, kind b) ∧ ps = [ended bs]
    ∨ Span kind 59 (fun run rest => ∃ others, Parameters rest others ∧ ps = ended run :: others) bs

/-- What is to come behind the equals sign of a parameter. -/
def Valued (n bs : List UInt8) (ps : List Parameter) : Prop :=
  (∃ v, Value bs v ∧ ps = [(n, v)])
    ∨ ∃ w v rest others, w ≠ [] ∧ Value w v ∧ Parameters rest others ∧ bs = w ++ 59 :: rest
      ∧ ps = (n, v) :: others

/-- What is to come between quotes, behind these bytes. -/
def Inside (n v bs : List UInt8) (ps : List Parameter) : Prop :=
  Span (isInner · = true) 34
    (fun run more => Closing (· = 32) (fun _ => (n, v ++ run)) more ps) bs

/-- What is to come from a place on, and the parameters that it holds. -/
def Place.Remains : Place → List UInt8 → List Parameter → Prop
  | start, bs, ps => IsMediaType bs ps
  | inType, bs, ps => Span (isToken · = true) 47 (fun _ more => Subtyped more ps) bs
  | slash, bs, ps => Subtyped bs ps
  | inSubtype, bs, ps =>
    Tokens bs ∧ ps = [] ∨ Span (isToken · = true) 59 (fun _ rest => Parameters rest ps) bs
  | gap, bs, ps => Parameters bs ps
  | name n, bs, ps => Span (isToken · = true) 61 (fun run more => Valued (n ++ run) more ps) bs
  | equals n, bs, ps => Valued n bs ps
  | plain n v, bs, ps => Closing (isToken · = true) (fun run => (n, v ++ run)) bs ps
  | quote n, bs, ps => ∃ b rest, bs = b :: rest ∧ isQuotable b = true ∧ Inside n [b] rest ps
  | quoted n v, bs, ps => Inside n v bs ps
  | behind n v, bs, ps => Closing (· = 32) (fun _ => (n, v)) bs ps

section

variable {b : UInt8} {n v bs : List UInt8} {ps : List Parameter}

/-- Where a parameter may close, a byte ends it, or is one more of its kind. -/
theorem closing_cons {kind : UInt8 → Prop} {ended : List UInt8 → Parameter} :
    Closing kind ended (b :: bs) ps
      ↔ b = 59 ∧ (∃ others, Parameters bs others ∧ ps = ended [] :: others)
        ∨ kind b ∧ Closing kind (fun run => ended (b :: run)) bs ps := by
  simp only [Closing, span_cons, List.forall_mem_cons]
  grind

/-- A media type begins with a byte of its type. -/
theorem isMediaType_cons :
    IsMediaType (b :: bs) ps ↔ isToken b = true ∧ Place.inType.Remains bs ps := by
  constructor
  · intro h
    generalize hbs : b :: bs = value at h
    cases h with
    | @bare type sub hne ht hs =>
      obtain ⟨c, type, rfl⟩ := List.exists_cons_of_ne_nil hne
      cases hbs
      obtain ⟨hc, ht⟩ := List.forall_mem_cons.mp ht
      exact ⟨hc, type, sub, ht, rfl, .inl ⟨hs, rfl⟩⟩
    | @full type sub rest ps hne ht hne' hs h =>
      obtain ⟨c, type, rfl⟩ := List.exists_cons_of_ne_nil hne
      cases hbs
      obtain ⟨hc, ht⟩ := List.forall_mem_cons.mp ht
      exact ⟨hc, type, _, ht, rfl, .inr ⟨sub, rest, hs, rfl, hne', h⟩⟩
  · rintro ⟨hb, type, more, ht, rfl, ⟨hs, rfl⟩ | ⟨sub, rest, hs, rfl, hne, h⟩⟩
    · exact .bare (List.cons_ne_nil b type) (List.forall_mem_cons.mpr ⟨hb, ht⟩) hs
    · exact .full (List.cons_ne_nil b type) (List.forall_mem_cons.mpr ⟨hb, ht⟩) hne hs h

/-- A subtype begins with a byte of its own. -/
theorem subtyped_cons :
    Subtyped (b :: bs) ps ↔ isToken b = true ∧ Place.inSubtype.Remains bs ps := by
  simp only [Subtyped, Place.Remains, span_cons, Tokens, List.forall_mem_cons]
  grind

/-- Parameters are nothing but blanks, or there is a name behind the blanks, and its value. -/
theorem parameters_iff :
    Parameters bs ps
      ↔ Blanks bs ∧ ps = []
        ∨ ∃ u n more, Blanks u ∧ n ≠ [] ∧ Tokens n ∧ Valued n more ps
          ∧ bs = u ++ (n ++ 61 :: more) := by
  constructor
  · intro h
    cases h with
    | none hu => exact .inl ⟨hu, rfl⟩
    | @last u n w v hu hne hn hv => exact .inr ⟨u, n, w, hu, hne, hn, .inl ⟨v, hv, rfl⟩, rfl⟩
    | @more u n w v rest others hu hne hn hv hw h =>
      have hvalued : Valued n (w ++ 59 :: rest) ((n, v) :: others) :=
        .inr ⟨w, v, rest, others, hw, hv, h, rfl, rfl⟩
      exact .inr ⟨u, n, _, hu, hne, hn, hvalued, rfl⟩
  · rintro (⟨hu, rfl⟩ | ⟨u, n, more, hu, hne, hn, hvalued, rfl⟩)
    · exact .none hu
    · rcases hvalued with ⟨v, hv, rfl⟩ | ⟨w, v, rest, others, hw, hv, h, rfl, rfl⟩
      · exact .last hu hne hn hv
      · exact .more hu hne hn hv hw h

/-- Parameters begin with a blank, or with a byte of a name. -/
theorem parameters_cons :
    Parameters (b :: bs) ps
      ↔ b = 32 ∧ Parameters bs ps ∨ isToken b = true ∧ (Place.name [b]).Remains bs ps := by
  constructor
  · intro h
    rcases parameters_iff.mp h with ⟨hu, rfl⟩ | ⟨u, n, more, hu, hne, hn, hvalued, hbs⟩
    · obtain ⟨hb, hu⟩ := List.forall_mem_cons.mp hu
      exact .inl ⟨hb, .none hu⟩
    · -- The first byte is one of the blanks, or the name is at the front.
      cases u with
      | nil =>
        obtain ⟨c, n, rfl⟩ := List.exists_cons_of_ne_nil hne
        cases hbs
        obtain ⟨hc, hn⟩ := List.forall_mem_cons.mp hn
        exact .inr ⟨hc, n, more, hn, rfl, hvalued⟩
      | cons c u =>
        cases hbs
        obtain ⟨hc, hu⟩ := List.forall_mem_cons.mp hu
        exact .inl ⟨hc, parameters_iff.mpr (.inr ⟨u, n, more, hu, hne, hn, hvalued, rfl⟩)⟩
  · rintro (⟨rfl, h⟩ | ⟨hb, n, more, hn, rfl, hvalued⟩)
    · rcases parameters_iff.mp h with ⟨hu, rfl⟩ | ⟨u, n, more, hu, hne, hn, hvalued, rfl⟩
      · exact .none (List.forall_mem_cons.mpr ⟨rfl, hu⟩)
      · have hblanks : Blanks (32 :: u) := List.forall_mem_cons.mpr ⟨rfl, hu⟩
        exact parameters_iff.mpr (.inr ⟨_, n, more, hblanks, hne, hn, hvalued, rfl⟩)
    · have hname : Tokens (b :: n) := List.forall_mem_cons.mpr ⟨hb, hn⟩
      exact parameters_iff.mpr
        (.inr ⟨[], _, more, nofun, List.cons_ne_nil b n, hname, hvalued, rfl⟩)

/-- A value begins with one of its bytes, or with a quote. -/
theorem valued_cons :
    Valued n (b :: bs) ps
      ↔ isToken b = true ∧ (Place.plain n [b]).Remains bs ps
        ∨ b = 34 ∧ (Place.quote n).Remains bs ps := by
  constructor
  · rintro (⟨v, hv, rfl⟩ | ⟨w, v, rest, others, hw, hv, h, hbs, rfl⟩)
    · generalize hbs : b :: bs = w at hv
      cases hv with
      | plain hv =>
        subst hbs
        obtain ⟨hb, hv⟩ := List.forall_mem_cons.mp hv
        exact .inl ⟨hb, .inl ⟨hv, rfl⟩⟩
      | @quoted c v blanks hc hv hs =>
        cases hbs
        exact .inr ⟨rfl, c, _, rfl, hc, v, blanks, hv, rfl, .inl ⟨hs, rfl⟩⟩
    · cases hv with
      | plain hv =>
        obtain ⟨c, w, rfl⟩ := List.exists_cons_of_ne_nil hw
        cases hbs
        obtain ⟨hc, hv⟩ := List.forall_mem_cons.mp hv
        exact .inl ⟨hc, .inr ⟨w, rest, hv, rfl, others, h, rfl⟩⟩
      | @quoted c v blanks hc hv hs =>
        cases hbs
        refine .inr ⟨rfl, c, _, rfl, hc, v, blanks ++ 59 :: rest, hv, by simp, ?_⟩
        exact .inr ⟨blanks, rest, hs, rfl, others, h, rfl⟩
  · rintro (⟨hb, ⟨hbs, rfl⟩ | ⟨v, rest, hv, rfl, others, h, rfl⟩⟩
      | ⟨rfl, c, _, rfl, hc, v, more, hv, rfl, ⟨hs, rfl⟩ | ⟨blanks, rest, hs, rfl, others, h, rfl⟩⟩)
    · exact .inl ⟨b :: bs, .plain (List.forall_mem_cons.mpr ⟨hb, hbs⟩), rfl⟩
    · exact .inr ⟨b :: v, b :: v, rest, others, List.cons_ne_nil b v,
        .plain (List.forall_mem_cons.mpr ⟨hb, hv⟩), h, rfl, rfl⟩
    · exact .inl ⟨c :: v, .quoted hc hv hs, rfl⟩
    · exact .inr ⟨_, c :: v, rest, others, List.cons_ne_nil _ _, .quoted hc hv hs, h, by simp, rfl⟩

theorem exists_some_iff {place : Place} {ended : Option Parameter} :
    (∃ next ended' others, some (place, ended) = some (next, ended') ∧ next.Remains bs others
        ∧ ps = ended'.toList ++ others)
      ↔ ∃ others, place.Remains bs others ∧ ps = ended.toList ++ others := by
  constructor
  · rintro ⟨next, ended', others, h, hrest⟩
    cases h
    exact ⟨others, hrest⟩
  · rintro ⟨others, hrest⟩
    exact ⟨place, ended, others, rfl, hrest⟩

/-- What one byte leads to where it may only go on in one way. -/
theorem exists_next_iff {place next : Place} {p : Prop} [Decidable p]
    (h : place.next? b = if p then some (next, none) else none) :
    (∃ next ended others, place.next? b = some (next, ended) ∧ next.Remains bs others
        ∧ ps = ended.toList ++ others) ↔ p ∧ next.Remains bs ps := by
  rw [h]
  by_cases hp : p
  · rw [if_pos hp, exists_some_iff]
    simp [hp]
  · simp [hp]

/-- What one byte leads to where it may go on in two ways. -/
theorem exists_next_iff_or {place next next' : Place} {ended : Option Parameter} {p q : Prop}
    [Decidable p] [Decidable q] (hpq : q → ¬p)
    (h : place.next? b = if p then some (next, none) else if q then some (next', ended) else none) :
    (∃ next ended others, place.next? b = some (next, ended) ∧ next.Remains bs others
        ∧ ps = ended.toList ++ others)
      ↔ q ∧ (∃ others, next'.Remains bs others ∧ ps = ended.toList ++ others)
        ∨ p ∧ next.Remains bs ps := by
  rw [h]
  by_cases hp : p
  · have hq : ¬q := fun hq => hpq hq hp
    rw [if_pos hp, exists_some_iff]
    simp [hp, hq]
  · by_cases hq : q
    · rw [if_neg hp, if_pos hq, exists_some_iff]
      simp [hp, hq]
    · simp [hp, hq]

/-- None of the bytes between the parts of a media type may stand in a name. -/
theorem isToken_eq_false (h : b = 32 ∨ b = 34 ∨ b = 47 ∨ b = 59 ∨ b = 61) : ¬isToken b = true := by
  rcases h with rfl | rfl | rfl | rfl | rfl <;> decide

/-- **What is to come before a byte is what this byte leads to**: the parameter that ends there, and
    what is to come behind it. -/
theorem Place.remains_cons {place : Place} :
    place.Remains (b :: bs) ps
      ↔ ∃ next ended others, place.next? b = some (next, ended) ∧ next.Remains bs others
        ∧ ps = ended.toList ++ others := by
  -- Where there are two ways on, one is a byte of a name or a value and the other one none.
  cases place with
  | start => rw [exists_next_iff rfl, ← isMediaType_cons]; rfl
  | inType =>
    rw [exists_next_iff_or (fun h => isToken_eq_false (by simp [h])) rfl, Remains, span_cons]
    simp [Remains]
  | slash => rw [exists_next_iff rfl, ← subtyped_cons]; rfl
  | inSubtype =>
    rw [exists_next_iff_or (fun h => isToken_eq_false (by simp [h])) rfl, Remains, span_cons]
    simp only [Tokens, List.forall_mem_cons, Remains]
    grind
  | gap =>
    rw [exists_next_iff_or (fun h => isToken_eq_false (by simp [h])) rfl, Remains, parameters_cons]
    simp [Remains]
  | name n =>
    rw [exists_next_iff_or (fun h => isToken_eq_false (by simp [h])) rfl, Remains, span_cons]
    simp [Remains]
  | equals n =>
    rw [exists_next_iff_or (fun h => isToken_eq_false (by simp [h])) rfl, Remains, valued_cons,
      or_comm]
    simp [Remains]
  | plain n v =>
    rw [exists_next_iff_or (fun h => isToken_eq_false (by simp [h])) rfl, Remains, closing_cons]
    simp [Remains]
  | quote n =>
    rw [exists_next_iff rfl]
    constructor
    · rintro ⟨c, rest, hbs, hrest⟩
      cases hbs
      exact hrest
    · intro hrest
      exact ⟨b, bs, rfl, hrest⟩
  | quoted n v =>
    rw [exists_next_iff_or (fun h => by simp [h, isInner]) rfl, Remains, Inside, span_cons]
    simp [Remains, Inside]
  | behind n v =>
    rw [exists_next_iff_or (fun h => by simp [h]) rfl, Remains, closing_cons]
    simp [Remains]

/-- A parameter may close at the end. -/
theorem closing_nil {kind : UInt8 → Prop} {ended : List UInt8 → Parameter} :
    Closing kind ended [] ps ↔ ps = [ended []] := by
  simp [Closing, not_span_nil]

/-- Nothing may stand behind a semicolon. -/
theorem parameters_nil : Parameters [] ps ↔ ps = [] := by
  constructor
  · intro h
    generalize hbs : ([] : List UInt8) = text at h
    cases h with
    | none => rfl
    | last | more => simp at hbs
  · rintro rfl
    exact .none nofun

/-- A value may be missing at the end. -/
theorem valued_nil : Valued n [] ps ↔ ps = [(n, [])] := by
  constructor
  · rintro (⟨v, hv, rfl⟩ | ⟨w, v, rest, others, -, -, -, h, -⟩)
    · cases hv
      rfl
    · simp at h
  · rintro rfl
    exact .inl ⟨[], .plain nofun, rfl⟩

/-- Nothing is to come exactly where a media type may end. -/
theorem Place.remains_nil {place : Place} : place.Remains [] ps ↔ place.atEnd? = some ps := by
  cases place with
  | start =>
    refine iff_of_false (fun h => ?_) nofun
    generalize hbs : ([] : List UInt8) = value at h
    cases h <;> simp at hbs
  | inType | name n => exact iff_of_false not_span_nil nofun
  | slash | inSubtype =>
    rw [atEnd?, Option.some.injEq, eq_comm]
    simp [Remains, Subtyped, Tokens, not_span_nil]
  | gap => rw [Remains, parameters_nil, atEnd?, Option.some.injEq, eq_comm]
  | equals n => rw [Remains, valued_nil, atEnd?, Option.some.injEq, eq_comm]
  | plain n v =>
    rw [Remains, closing_nil, atEnd?, Option.some.injEq, eq_comm, List.append_nil]
  | quote n => exact iff_of_false (fun ⟨_, _, h, _⟩ => nomatch h) nofun
  | quoted n v => exact iff_of_false not_span_nil nofun
  | behind n v => rw [Remains, closing_nil, atEnd?, Option.some.injEq, eq_comm]

/-- What is read from a place on is what is to come there. -/
theorem Place.read?_eq_some_iff {place : Place} :
    place.read? bs = some ps ↔ place.Remains bs ps := by
  induction bs generalizing place ps with
  | nil => exact remains_nil.symm
  | cons b bs ih =>
    rw [remains_cons, read?]
    cases h : place.next? b with
    | none => simp
    | some r =>
      obtain ⟨next, ended⟩ := r
      simp only [Option.map_eq_some_iff, ih, Option.some.injEq, Prod.mk.injEq]
      grind

/-- **The parameters that are read are those of a media type**, and of every media type they are. -/
theorem parameters?_eq_some_iff {value : List UInt8} :
    parameters? value = some ps ↔ IsMediaType value ps :=
  Place.read?_eq_some_iff

end

end Postbox.Http.MediaType
