import Postbox.Http.Framing
import Postbox.Proofs.Http.MediaTypes

namespace Postbox.Http

/-!
# What the headers of an answer say

Two things about the body of an answer are found in its headers: where the body ends, and in which
charset it is.  Both are said here in terms of the headers themselves, and shown to be what is read.

* `Framing.Announced`, `Framing.ofHead_eq_some_iff` — where a body ends.
* `Head.NamesCharset`, `Head.IsIn`, `Head.charset_eq_iff` — the charset of a body.
-/

/-! ### Where a body ends -/

/-- The value is this number, perhaps several times with commas between. -/
def Announces (value : List UInt8) (n : Nat) : Prop :=
  ∃ text, visible? value = some text
    ∧ ∀ part ∈ Text.split ',' text, Text.Decimal.natural? (Text.trim part) = some n

/-- The last coding of the last value is `chunked`. -/
inductive EndsChunked : List (List UInt8) → Prop
  | mk {earlier : List (List UInt8)} {value : List UInt8} {text coding : List Char}
      {codings : List (List Char)} (hv : visible? value = some text)
      (hs : Text.split ',' text = codings ++ [coding])
      (hc : (Text.trim coding).map Char.toLower = "chunked".toList) :
      EndsChunked (earlier ++ [value])

/-- A status without a body, whatever the headers say. -/
def Bodiless (status : Nat) : Prop := status < 200 ∨ status = 204 ∨ status = 304

/-- What a head announces about the end of its body. -/
inductive Framing.Announced (head : Head) : Framing → Prop
  | bodiless (h : Bodiless head.status) : Announced head (.length 0)
  | chunked (hb : ¬Bodiless head.status) (hnew : head.isOld = false)
      (hc : EndsChunked (head.values "transfer-encoding")) : Announced head .chunked
  /-- Another coding is the last. -/
  | coded (hb : ¬Bodiless head.status) (hnew : head.isOld = false)
      (hne : head.values "transfer-encoding" ≠ [])
      (hc : ¬EndsChunked (head.values "transfer-encoding")) : Announced head .untilClosed
  /-- No coding, but lengths, which agree. -/
  | length {n : Nat} (hb : ¬Bodiless head.status) (hnone : head.values "transfer-encoding" = [])
      (hne : head.values "content-length" ≠ [])
      (hn : ∀ value ∈ head.values "content-length", Announces value n) (hmax : n ≤ lengthLimit) :
      Announced head (.length n)
  | nothing (hb : ¬Bodiless head.status) (hnone : head.values "transfer-encoding" = [])
      (hnone' : head.values "content-length" = []) : Announced head .untilClosed

section

variable {head : Head} {value : List UInt8} {values : List (List UInt8)} {n : Nat}

/-- A status is taken for one without a body exactly if it is one. -/
theorem isBodiless_iff : head.isBodiless = true ↔ Bodiless head.status := by
  simp [Head.isBodiless, Bodiless, or_assoc]

/-- A value is taken for a number exactly if it is this number. -/
theorem announces_iff : announces n value = true ↔ Announces value n := by
  simp [announces, Announces, Option.any_eq_true]

/-- A value that is a number is read as this number. -/
theorem firstLength?_of_announces (h : Announces value n) : firstLength? value = some n := by
  obtain ⟨text, htext, hparts⟩ := h
  obtain ⟨part, parts, hsplit⟩ := List.exists_cons_of_ne_nil (Text.split_ne_nil ',' text)
  have hpart := hparts part (by rw [hsplit]; exact List.mem_cons_self)
  simp [firstLength?, htext, hsplit, hpart]

/-- A length is read exactly if all values are this number, and it is not too great. -/
theorem commonLength?_eq_some_iff :
    commonLength? values = some n
      ↔ values ≠ [] ∧ (∀ value ∈ values, Announces value n) ∧ n ≤ lengthLimit := by
  rw [commonLength?, Option.filter_eq_some_iff]
  simp only [Bool.and_eq_true, List.all_eq_true, announces_iff, decide_eq_true_eq]
  constructor
  · rintro ⟨hfirst, hall⟩
    refine ⟨?_, hall⟩
    rintro rfl
    cases hfirst
  · rintro ⟨hne, hall, hmax⟩
    obtain ⟨value, values, rfl⟩ := List.exists_cons_of_ne_nil hne
    exact ⟨firstLength?_of_announces (hall value List.mem_cons_self), hall, hmax⟩

/-- Chunks are taken for the last coding exactly if they are. -/
theorem endsChunked_iff : endsChunked values = true ↔ EndsChunked values := by
  rw [endsChunked, beq_iff_eq]
  constructor
  · intro h
    obtain ⟨value, hvalue, h⟩ := Option.bind_eq_some_iff.mp h
    obtain ⟨text, htext, h⟩ := Option.bind_eq_some_iff.mp h
    obtain ⟨coding, hcoding, h⟩ := Option.bind_eq_some_iff.mp h
    obtain ⟨codings, hsplit⟩ := List.getLast?_eq_some_iff.mp hcoding
    have hchunked := Option.some.inj h
    obtain ⟨earlier, rfl⟩ := List.getLast?_eq_some_iff.mp hvalue
    exact .mk htext hsplit hchunked
  · intro h
    cases h with
    | mk hv hs hc => simp [lastCoding?, hv, hs, hc]

/-- Where chunks are the last coding, there is one. -/
theorem EndsChunked.ne_nil (h : EndsChunked values) : values ≠ [] := by
  cases h with
  | mk => exact List.concat_ne_nil _ _

end

section

variable {head : Head} {framing : Framing}

/-- What is read of the end of a body is announced. -/
theorem Framing.announced_of_ofHead (h : Framing.ofHead head = some framing) :
    Announced head framing := by
  unfold Framing.ofHead at h
  dsimp only at h
  split at h
  · next hb =>
    cases h
    exact .bodiless (isBodiless_iff.mp hb)
  · next hb =>
    have hbody : ¬Bodiless head.status := mt isBodiless_iff.mpr hb
    split at h
    · next hcodings =>
      -- Codings count before lengths, and an old head may not have any.
      have hne : head.values "transfer-encoding" ≠ [] := by simpa using hcodings
      split at h
      · cases h
      · next hold =>
        have hnew : head.isOld = false := Bool.eq_false_iff.mpr hold
        split at h
        · next hc =>
          cases h
          exact .chunked hbody hnew (endsChunked_iff.mp hc)
        · next hc =>
          cases h
          exact .coded hbody hnew hne (mt endsChunked_iff.mpr hc)
    · next hcodings =>
      have hnone : head.values "transfer-encoding" = [] := by simpa using hcodings
      split at h
      · next hlengths =>
        cases h
        exact .nothing hbody hnone (by simpa using hlengths)
      · obtain ⟨n, hn, rfl⟩ := Option.map_eq_some_iff.mp h
        obtain ⟨hne, hall, hmax⟩ := commonLength?_eq_some_iff.mp hn
        exact .length hbody hnone hne hall hmax

/-- What is announced of the end of a body is read. -/
theorem Framing.ofHead_of_announced (h : Announced head framing) :
    Framing.ofHead head = some framing := by
  unfold Framing.ofHead
  dsimp only
  cases h with
  | bodiless h => rw [if_pos (isBodiless_iff.mpr h)]
  | chunked hb hnew hc =>
    rw [if_neg (mt isBodiless_iff.mp hb), if_pos (by simpa using hc.ne_nil), hnew,
      if_neg Bool.false_ne_true, if_pos (endsChunked_iff.mpr hc)]
  | coded hb hnew hne hc =>
    rw [if_neg (mt isBodiless_iff.mp hb), if_pos (by simpa using hne), hnew,
      if_neg Bool.false_ne_true, if_neg (mt endsChunked_iff.mp hc)]
  | length hb hnone hne hn hmax =>
    rw [if_neg (mt isBodiless_iff.mp hb), if_neg (by simp [hnone]), if_neg (by simpa using hne),
      commonLength?_eq_some_iff.mpr ⟨hne, hn, hmax⟩]
    rfl
  | nothing hb hnone hnone' =>
    rw [if_neg (mt isBodiless_iff.mp hb), if_neg (by simp [hnone]), if_pos (by simp [hnone'])]

/-- **What is read of the end of a body is what its head announces.** -/
theorem Framing.ofHead_eq_some_iff :
    Framing.ofHead head = some framing ↔ Announced head framing :=
  ⟨announced_of_ofHead, ofHead_of_announced⟩

/-- A head announces one end of its body at most. -/
theorem Framing.Announced.unique {other : Framing} (h : Announced head framing)
    (ho : Announced head other) : framing = other :=
  Option.some.inj ((ofHead_of_announced h).symm.trans (ofHead_of_announced ho))

end

/-! ### The charset of a body -/

/-- The name of the parameter of a media type that names a charset. -/
def IsCharsetName (name : List UInt8) : Prop := name.map lower = bytesOf "charset"

/-- The first header about the kind of the body is a media type of visible characters, and the first
    of its parameters with the name `charset` is a label of this charset. -/
inductive Head.NamesCharset (head : Head) (charset : Text.Charset) : Prop
  | mk {value name label : List UInt8} {values : List (List UInt8)}
      {before after : List MediaType.Parameter} {text : List Char}
      (hfirst : head.values "content-type" = value :: values)
      (hvisible : ∀ b ∈ value, isVisible b = true)
      (htype : MediaType.IsMediaType value (before ++ (name, label) :: after))
      (hbefore : ∀ parameter ∈ before, ¬IsCharsetName parameter.1)
      (hname : IsCharsetName name) (hlabel : visible? label = some text)
      (hc : Text.Charset.ofLabel? text = some charset) : NamesCharset head charset

/-- What a head says about the charset of its body: UTF-8, unless it names another one. -/
inductive Head.IsIn (head : Head) : Text.Charset → Prop
  | named {charset : Text.Charset} (h : head.NamesCharset charset) : IsIn head charset
  | unnamed (h : ∀ charset, ¬head.NamesCharset charset) : IsIn head .utf8

section

variable {head : Head} {charset : Text.Charset}

theorem isCharset_iff {parameter : MediaType.Parameter} :
    Head.isCharset parameter = true ↔ IsCharsetName parameter.1 := by
  rw [Head.isCharset, IsCharsetName, beq_iff_eq]

/-- A value is read as a text exactly if all its characters are visible. -/
theorem isSome_visible?_iff {value : List UInt8} :
    (visible? value).isSome = true ↔ ∀ b ∈ value, isVisible b = true := by
  unfold visible?
  split
  · next h => exact iff_of_true rfl (List.all_eq_true.mp h)
  · next h => exact iff_of_false Bool.false_ne_true fun hall => h (List.all_eq_true.mpr hall)

/-- **A charset is read exactly if the head names it.** -/
theorem namedCharset?_eq_some_iff :
    head.namedCharset? = some charset ↔ head.NamesCharset charset := by
  unfold Head.namedCharset?
  constructor
  · -- Each step of the search gives one part of what is named.
    intro h
    obtain ⟨value, hvalue, h⟩ := Option.bind_eq_some_iff.mp h
    obtain ⟨seen, hseen, h⟩ := Option.bind_eq_some_iff.mp h
    obtain ⟨parameters, hparameters, h⟩ := Option.bind_eq_some_iff.mp h
    obtain ⟨⟨name, label⟩, hfind, h⟩ := Option.bind_eq_some_iff.mp h
    obtain ⟨text, hlabel, hc⟩ := Option.bind_eq_some_iff.mp h
    obtain ⟨values, hfirst⟩ := List.head?_eq_some_iff.mp hvalue
    obtain ⟨hname, before, after, rfl, hbefore⟩ := List.find?_eq_some_iff_append.mp hfind
    exact .mk hfirst (isSome_visible?_iff.mp (Option.isSome_of_eq_some hseen))
      (MediaType.parameters?_eq_some_iff.mp hparameters)
      (fun p hp hp' => absurd (isCharset_iff.mpr hp') (by simpa using hbefore p hp))
      (isCharset_iff.mp hname) hlabel hc
  · intro h
    cases h with
    | @mk value name label values before after text hfirst hvisible htype hbefore hname hlabel hc =>
      obtain ⟨seen, hseen⟩ := Option.isSome_iff_exists.mp (isSome_visible?_iff.mpr hvisible)
      have hfind : (before ++ (name, label) :: after).find? Head.isCharset = some (name, label) :=
        List.find?_eq_some_iff_append.mpr ⟨isCharset_iff.mpr hname, before, after, rfl,
          fun p hp => by simpa using fun hp' => hbefore p hp (isCharset_iff.mp hp')⟩
      simp only [hfirst, List.head?_cons, hseen, MediaType.parameters?_eq_some_iff.mpr htype, hfind,
        hlabel, hc, Option.bind_eq_bind, Option.bind_some]

/-- **The charset in which a body is read is the one that its head says.** -/
theorem Head.charset_eq_iff : head.charset = charset ↔ head.IsIn charset := by
  rw [Head.charset]
  cases hn : head.namedCharset? with
  | some named =>
    have hnames := namedCharset?_eq_some_iff.mp hn
    constructor
    · rintro rfl
      exact .named hnames
    · intro h
      cases h with
      | named h => exact Option.some.inj (hn.symm.trans (namedCharset?_eq_some_iff.mpr h))
      | unnamed h => exact absurd hnames (h named)
  | none =>
    have hnone : ∀ charset, ¬head.NamesCharset charset := fun charset h =>
      nomatch hn.symm.trans (namedCharset?_eq_some_iff.mpr h)
    constructor
    · rintro rfl
      exact .unnamed hnone
    · intro h
      cases h with
      | named h => exact absurd h (hnone charset)
      | unnamed => rfl

end

end Postbox.Http
