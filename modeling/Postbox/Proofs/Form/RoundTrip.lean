import Postbox.Form.Encoding
import Postbox.Proofs.Text.Utf8

namespace Postbox

/-!
# Reading a form body undoes writing it

A written name or value holds only letters, digits and a few signs, none of which is `&` or `=`,
so the body comes apart where it was put together; inside a name or a value, each written character
gives back its own bytes.

* `Field.pair` — a field as a reader of the body sees it.
* `Encoding.decodeText_encodeText` — one name or value.
* `Encoding.decode_encode` — a whole list of fields.
* `Form.body_faithful` — the body of a form: what is read from it, when two are equal, and which
  bytes occur in it.
-/

/-- A field with the empty string in place of a missing value. -/
def Field.pair (f : Field) : String × String := (f.1, f.2.getD "")

namespace Encoding

/-- The characters that occur in a body. -/
def alphabet : List Char :=
  "ABCDEFGHIJKLMNOPQRSTUVWXYZabcdefghijklmnopqrstuvwxyz0123456789*-._+%&=".toList

/-! ### Which characters are written -/

/-- What a written name or value is made of. -/
def isWritten (c : Char) : Bool := isPlain c || c == '+' || c == '%'

theorem isWritten_upperHexDigit : ∀ n < 16, isWritten (Text.upperHexDigit n) = true := by decide

/-- A byte is written in characters that may be written. -/
theorem isWritten_of_mem_encodeByte {b : UInt8} {d : Char} (h : d ∈ Text.Percent.encodeByte b) :
    isWritten d = true := by
  have hb : b.toNat < 256 := b.toNat_lt
  rw [Text.Percent.encodeByte, List.mem_cons, List.mem_cons, List.mem_singleton] at h
  rcases h with rfl | rfl | rfl
  · rfl
  · exact isWritten_upperHexDigit _ (by omega)
  · exact isWritten_upperHexDigit _ (by omega)

theorem isWritten_of_mem_encodeChar {c d : Char} (h : d ∈ encodeChar c) : isWritten d = true := by
  rw [encodeChar] at h
  split at h
  · next hp =>
    rw [List.mem_singleton] at h
    rw [h, isWritten, hp, Bool.true_or, Bool.true_or]
  · split at h
    · rw [List.mem_singleton] at h
      rw [h]
      rfl
    · rw [Text.Percent.encodeChar, List.mem_flatMap] at h
      obtain ⟨b, -, hd⟩ := h
      exact isWritten_of_mem_encodeByte hd

/-- A text is written in characters that may be written. -/
theorem isWritten_of_mem_encodeText {cs : List Char} {d : Char} (h : d ∈ encodeText cs) :
    isWritten d = true := by
  rw [encodeText, List.mem_flatMap] at h
  obtain ⟨c, -, hd⟩ := h
  exact isWritten_of_mem_encodeChar hd

/-- A separator does not occur in a written name or value. -/
theorem not_mem_encodeText {d : Char} (hd : isWritten d = false) (cs : List Char) :
    d ∉ encodeText cs := by
  intro h
  rw [isWritten_of_mem_encodeText h] at hd
  exact absurd hd (by decide)

/-- No field holds the sign between fields. -/
theorem amp_not_mem_encodeField (f : Field) : '&' ∉ encodeField f := by
  rw [encodeField, List.mem_append, List.mem_cons, not_or, not_or]
  exact ⟨not_mem_encodeText rfl _, by decide, not_mem_encodeText rfl _⟩

/-- No field is written as nothing. -/
theorem encodeField_ne_nil (f : Field) : encodeField f ≠ [] := by
  rw [encodeField]
  intro h
  exact absurd (List.append_eq_nil_iff.mp h).2 (List.cons_ne_nil _ _)

/-! ### One name or value -/

/-- A character that stands for itself gives its own bytes. -/
theorem decodeBytes_cons {c : Char} (hplus : c ≠ '+') (hpercent : c ≠ '%') (cs : List Char) :
    decodeBytes (c :: cs) = String.utf8EncodeChar c ++ decodeBytes cs := by
  rw [decodeBytes, List.map_cons, if_neg hplus, Text.Percent.decode_cons hpercent]
  rfl

/-- A plus sign stands for a space. -/
theorem decodeBytes_plus (cs : List Char) :
    decodeBytes ('+' :: cs) = String.utf8EncodeChar ' ' ++ decodeBytes cs := by
  rw [decodeBytes, List.map_cons, if_pos rfl, Text.Percent.decode_cons (by decide)]
  rfl

theorem upperHexDigit_ne_plus : ∀ n < 16, Text.upperHexDigit n ≠ '+' := by decide

/-- A byte that was written with its digits is read again. -/
theorem decodeBytes_encodeByte (b : UInt8) (cs : List Char) :
    decodeBytes (Text.Percent.encodeByte b ++ cs) = b :: decodeBytes cs := by
  have hb : b.toNat < 256 := b.toNat_lt
  have h1 := upperHexDigit_ne_plus (b.toNat / 16) (by omega)
  have h2 := upperHexDigit_ne_plus (b.toNat % 16) (by omega)
  -- There is no plus sign in a written byte that could be taken for a space.
  have hmap : (Text.Percent.encodeByte b).map (fun c => if c = '+' then ' ' else c)
      = Text.Percent.encodeByte b := by
    rw [Text.Percent.encodeByte, List.map_cons, List.map_cons, List.map_singleton, if_neg h1,
      if_neg h2, if_neg (by decide)]
  rw [decodeBytes, List.map_append, hmap, Text.Percent.decode_encodeByte]
  rfl

/-- Bytes that were written with their digits are read again. -/
theorem decodeBytes_encodeBytes (bs : List UInt8) (cs : List Char) :
    decodeBytes (bs.flatMap Text.Percent.encodeByte ++ cs) = bs ++ decodeBytes cs := by
  induction bs with
  | nil => rfl
  | cons b bs ih => rw [List.flatMap_cons, List.append_assoc, decodeBytes_encodeByte, ih]; rfl

theorem isPlain_ne {c d : Char} (hc : isPlain c = true) (hd : isPlain d = false) : c ≠ d := by
  intro h
  rw [h, hd] at hc
  exact absurd hc (by decide)

/-- However a character is written, its own bytes are read. -/
theorem decodeBytes_encodeChar (c : Char) (cs : List Char) :
    decodeBytes (encodeChar c ++ cs) = String.utf8EncodeChar c ++ decodeBytes cs := by
  rw [encodeChar]
  split
  · next hp =>
    exact decodeBytes_cons (isPlain_ne hp rfl) (isPlain_ne hp rfl) cs
  · split
    · next hs =>
      rw [hs]
      exact decodeBytes_plus cs
    · exact decodeBytes_encodeBytes _ cs

/-- What was written of a text is read as its bytes. -/
theorem decodeBytes_encodeText (cs : List Char) :
    decodeBytes (encodeText cs) = Text.Utf8.encode cs := by
  induction cs with
  | nil => rfl
  | cons c cs ih => rw [encodeText_cons, decodeBytes_encodeChar, ih, Text.Utf8.encode_cons]

/-- **A written name or value is read as it was.** -/
theorem decodeText_encodeText (cs : List Char) : decodeText (encodeText cs) = cs := by
  rw [decodeText, decodeBytes_encodeText, Text.Utf8.decodeLossy_encode]

/-! ### Fields -/

/-- The first `=` of a written field is the one between its name and its value. -/
theorem decodePiece_encodeField (f : Field) : decodePiece (encodeField f) = f.pair := by
  have hcut := Text.cut?_append_cons (not_mem_encodeText (d := '=') rfl f.1.toList)
    (encodeText (f.2.getD "").toList)
  rw [decodePiece, encodeField, hcut]
  simp only [Option.getD_some, decodeText_encodeText, String.ofList_toList]
  rfl

/-- Taking a body apart at `&` gives the written fields. -/
theorem split_encode (fs : List Field) :
    (Text.split '&' (encode fs)).filter (fun p => !p.isEmpty) = fs.map encodeField := by
  cases fs with
  | nil => rfl
  | cons f fs =>
    have hsplit : Text.split '&' (encode (f :: fs)) = (f :: fs).map encodeField := by
      refine Text.split_join fun p hp => ?_
      rw [← List.map_cons, List.mem_map] at hp
      obtain ⟨g, -, rfl⟩ := hp
      exact amp_not_mem_encodeField g
    -- No written field is empty, not even one of an empty name and an empty value.
    rw [hsplit, List.filter_eq_self]
    intro p hp
    rw [List.mem_map] at hp
    obtain ⟨g, -, rfl⟩ := hp
    rw [List.isEmpty_eq_false_iff.mpr (encodeField_ne_nil g)]
    rfl

/-- **The pairs read from a written list of fields are its fields, in order.** -/
theorem decode_encode (fs : List Field) : decode (encode fs) = fs.map Field.pair := by
  rw [decode, split_encode, List.map_map]
  exact List.map_congr_left fun f _ => decodePiece_encodeField f

/-- What is written depends only on what a reader sees. -/
theorem encode_congr {fs gs : List Field} (h : fs.map Field.pair = gs.map Field.pair) :
    encode fs = encode gs := by
  have hpair : encodeField
      = (fun p : String × String => encodeText p.1.toList ++ '=' :: encodeText p.2.toList)
        ∘ Field.pair := rfl
  rw [encode, encode, hpair, ← List.map_map, h, List.map_map]

/-! ### Which bytes occur -/

/-- Letters and digits come before the character 128. -/
theorem toNat_lt_of_isAlphanum {c : Char} (h : c.isAlphanum = true) : c.toNat < 128 := by
  have hle {d : Char} (hd : d.toNat < 128) (h : c.val ≤ d.val) : c.toNat < 128 :=
    Nat.lt_of_le_of_lt (UInt32.le_iff_toNat_le.mp h) hd
  rcases Bool.or_eq_true_iff.mp h with h | h
  · rcases Bool.or_eq_true_iff.mp h with h | h
    · exact hle (d := 'Z') (by decide) (of_decide_eq_true h).2
    · exact hle (d := 'z') (by decide) (of_decide_eq_true (Bool.and_eq_true_iff.mp h).2)
  · exact Nat.lt_of_le_of_lt (Char.isDigit_iff_toNat.mp h).2 (by decide)

theorem toNat_lt_of_isWritten {c : Char} (h : isWritten c = true) : c.toNat < 128 := by
  simp only [isWritten, isPlain, Bool.or_eq_true, beq_iff_eq] at h
  obtain (((((h | rfl) | rfl) | rfl) | rfl) | rfl) | rfl := h
  · exact toNat_lt_of_isAlphanum h
  all_goals decide

theorem mem_alphabet_of_lt :
    ∀ n < 128, isWritten (Char.ofNat n) = true → Char.ofNat n ∈ alphabet := by
  decide +kernel

/-- What is written is in the alphabet. -/
theorem mem_alphabet_of_isWritten {c : Char} (h : isWritten c = true) : c ∈ alphabet := by
  have hn := toNat_lt_of_isWritten h
  rw [← Char.ofNat_toNat c] at h ⊢
  exact mem_alphabet_of_lt _ hn h

theorem mem_alphabet_of_mem_encodeField {f : Field} {c : Char} (h : c ∈ encodeField f) :
    c ∈ alphabet := by
  rw [encodeField, List.mem_append, List.mem_cons] at h
  rcases h with h | rfl | h
  · exact mem_alphabet_of_isWritten (isWritten_of_mem_encodeText h)
  · decide
  · exact mem_alphabet_of_isWritten (isWritten_of_mem_encodeText h)

/-- A form is written in the characters of the alphabet. -/
theorem mem_alphabet_of_mem_encode {fs : List Field} {c : Char} (h : c ∈ encode fs) :
    c ∈ alphabet := by
  -- The cases are those of the joining: no field, one field, and a field before others.
  induction fs with
  | nil => exact absurd h List.not_mem_nil
  | cons f fs ih =>
    cases fs with
    | nil => exact mem_alphabet_of_mem_encodeField h
    | cons g fs =>
      rw [encode_cons_cons, List.mem_append, List.mem_cons] at h
      rcases h with h | rfl | h
      · exact mem_alphabet_of_mem_encodeField h
      · decide
      · exact ih h

/-- Each character of the alphabet is one byte. -/
theorem utf8EncodeChar_of_mem_alphabet {c : Char} (h : c ∈ alphabet) :
    String.utf8EncodeChar c = [UInt8.ofNat c.toNat] := by
  have hall : alphabet.all (fun c => String.utf8EncodeChar c = [UInt8.ofNat c.toNat]) = true := by
    decide +kernel
  exact of_decide_eq_true (List.all_eq_true.mp hall c h)

end Encoding

namespace Form

/-- The body of a form is its fields as they are written. -/
@[simp] theorem toList_body (form : Form) : form.body.toList = Encoding.encode form.toList :=
  String.toList_ofList

/-- **A body stands for the fields of its form.**  What is read from it are the fields in order, a
    missing value as the empty one; so two forms have the same body exactly if a reader sees the
    same fields in both; and every byte of it is one of the alphabet. -/
theorem body_faithful (form : Form) :
    Encoding.decode form.body.toList = form.toList.map Field.pair
    ∧ (∀ other : Form, form.body = other.body
        ↔ form.toList.map Field.pair = other.toList.map Field.pair)
    ∧ ∀ b ∈ Text.Utf8.encode form.body.toList,
        ∃ c ∈ Encoding.alphabet, b = UInt8.ofNat c.toNat := by
  have hread (f : Form) : Encoding.decode f.body.toList = f.toList.map Field.pair := by
    rw [toList_body, Encoding.decode_encode]
  refine ⟨hread form, fun other => ⟨fun h => ?_, fun h => ?_⟩, fun b hb => ?_⟩
  · rw [← hread form, ← hread other, h]
  · rw [body, body, Encoding.encode_congr h]
  · rw [toList_body, Text.Utf8.encode, List.mem_flatMap] at hb
    obtain ⟨c, hc, hb⟩ := hb
    have hmem := Encoding.mem_alphabet_of_mem_encode hc
    rw [Encoding.utf8EncodeChar_of_mem_alphabet hmem, List.mem_singleton] at hb
    exact ⟨c, hmem, hb⟩

end Form

end Postbox
