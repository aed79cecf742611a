import Mathlib.Data.List.DropRight
import Postbox.Http.Client

namespace Postbox.Http

/-!
# The form of a head

A head is a line with a version and a status, lines of headers, and an empty line.  The readers of
its parts stand one behind another, and each of them takes the words of one form, whatever follows
them; so the whole takes exactly the heads.

* `HeaderLine`, `IsHead` — the form of a header, and of a head.
* `Takes`, `Takes.andThen` — a reader takes the words of a form, and so do two of them in a row.
* `takes_headerLines`, `takes_reason`, `takes_version` — the readers of the parts.
* `Head.read_eq_done_iff` — what is read as a head is one.
-/

/-! ### The form of a head -/

/-- The end of a line. -/
inductive LineEnd : List UInt8 → Prop
  | pair : LineEnd [13, 10]
  | feed : LineEnd [10]

/-- Lines without anything. -/
inductive EmptyLines : List UInt8 → Prop
  | none : EmptyLines []
  | more {e bs : List UInt8} (he : LineEnd e) (h : EmptyLines bs) : EmptyLines (e ++ bs)

/-- The bytes are so many digits, which come to this number behind another. -/
structure Counts (k n : Nat) (ds : List UInt8) (m : Nat) : Prop where
  length : ds.length = k
  isDigit : ∀ d ∈ ds, isDigit d = true
  value : m = ds.foldl (fun n d => 10 * n + (d.toNat - 48)) n

/-- The bytes are these ones, with blanks and tabs around them. -/
inductive Padded : List UInt8 → List UInt8 → Prop
  | mk {before v after : List UInt8} (hb : ∀ b ∈ before, isGap b = true)
      (ha : ∀ b ∈ after, isGap b = true) (hhead : ∀ b ∈ v.head?, isGap b = false)
      (hlast : ∀ b ∈ v.getLast?, isGap b = false) : Padded (before ++ (v ++ after)) v

/-- The bytes of a value, and the end of the line. -/
inductive ValueLine : List UInt8 → List UInt8 → Prop
  | mk {v e : List UInt8} (hv : ∀ b ∈ v, isValue b = true) (he : LineEnd e) : ValueLine (v ++ e) v

/-- The line of a header: its name in any case, a colon, and its value among blanks. -/
inductive HeaderLine : List UInt8 → Header → Prop
  | mk {n line v padded : List UInt8} (hne : n ≠ []) (hn : ∀ b ∈ n, isToken b = true)
      (hl : ValueLine line padded) (hv : Padded padded v) :
      HeaderLine (n ++ 58 :: line) ⟨n.map lower, v⟩

/-- The lines of headers, and the empty line behind them. -/
inductive HeaderLines : List UInt8 → List Header → Prop
  | ended {e : List UInt8} (he : LineEnd e) : HeaderLines e []
  | more {line w : List UInt8} {h : Header} {hs : List Header} (hl : HeaderLine line h)
      (hm : HeaderLines w hs) : HeaderLines (line ++ w) (h :: hs)

/-- What may follow a status on its line. -/
inductive Reason : List UInt8 → Prop
  | nothing {e : List UInt8} (he : LineEnd e) : Reason e
  | words {line w : List UInt8} (hl : ValueLine line w) : Reason (32 :: line)

/-- The byte that tells the two versions of the protocol apart. -/
def versionByte (isOld : Bool) : UInt8 := if isOld then 48 else 49

/-- The bytes are this head, up to the empty line at its end. -/
inductive IsHead : List UInt8 → Head → Prop
  | mk {empty status reason headers : List UInt8} {head : Head} (he : EmptyLines empty)
      (hs : Counts 3 0 status head.status) (hmin : 100 ≤ head.status) (hr : Reason reason)
      (hh : HeaderLines headers head.headers) (hmax : head.headers.length ≤ 100) :
      IsHead (empty ++ (bytesOf "HTTP/1."
        ++ versionByte head.isOld :: 32 :: (status ++ (reason ++ headers)))) head

/-! ### Readers one behind another -/

/-- Where one thing was read after another, the first was. -/
theorem Read.exists_of_andThen {α β : Type} {r : Read α} {next : α → Reader β} {value : β}
    {rest : List UInt8} (h : r.andThen next = .done value rest) :
    ∃ a more, r = .done a more ∧ next a more = .done value rest := by
  cases r with
  | done a more => exact ⟨a, more, rfl, h⟩
  | short => cases h
  | bad => cases h

/-- The reader takes the words of this form, whatever follows them. -/
def Takes {α : Type} (read : Reader α) (form : List UInt8 → α → Prop) : Prop :=
  ∀ ⦃bs a rest⦄, read bs = .done a rest ↔ ∃ w, form w a ∧ bs = w ++ rest

/-- A word of one form, and behind it one of a form that depends on what the first one stands
    for. -/
inductive Behind {α β : Type} (first : List UInt8 → α → Prop)
    (second : α → List UInt8 → β → Prop) : List UInt8 → β → Prop
  | mk {w w' : List UInt8} {a : α} {b : β} (h : first w a) (h' : second a w' b) :
      Behind first second (w ++ w') b

section

variable {α β : Type} {read : Reader α} {form form' : List UInt8 → α → Prop}

/-- Two readers in a row take a word of each. -/
theorem Takes.andThen (hr : Takes read form) {next : α → Reader β}
    {second : α → List UInt8 → β → Prop} (hn : ∀ a, Takes (next a) (second a)) :
    Takes (fun bs => (read bs).andThen next) (Behind form second) := by
  intro bs b rest
  constructor
  · intro h
    obtain ⟨a, more, hread, hnext⟩ := Read.exists_of_andThen h
    obtain ⟨w, hw, rfl⟩ := hr.mp hread
    obtain ⟨w', hw', rfl⟩ := (hn a).mp hnext
    exact ⟨w ++ w', .mk hw hw', (List.append_assoc ..).symm⟩
  · rintro ⟨_, ⟨hw, hw'⟩, rfl⟩
    rw [List.append_assoc]
    show (read _).andThen next = _
    rw [hr.mpr ⟨_, hw, rfl⟩]
    exact (hn _).mpr ⟨_, hw', rfl⟩

/-- A form may be said in other words. -/
theorem Takes.congr (hr : Takes read form) (h : ∀ w a, form w a ↔ form' w a) :
    Takes read form' := by
  intro bs a rest
  rw [hr]
  exact exists_congr fun w => and_congr_left' (h w a)

/-- What reads nothing takes nothing. -/
theorem takes_done (value : α) :
    Takes (fun bs => .done value bs) (fun w a => w = [] ∧ a = value) := by
  intro bs a rest
  constructor
  · intro h
    cases h
    exact ⟨[], ⟨rfl, rfl⟩, rfl⟩
  · rintro ⟨_, ⟨rfl, rfl⟩, rfl⟩
    rfl

/-- A condition is one on the form. -/
theorem takes_guard (p : Prop) [Decidable p] (hr : Takes read form) :
    Takes (fun bs => if p then read bs else .bad) (fun w a => p ∧ form w a) := by
  intro bs a rest
  show (if p then read bs else .bad) = _ ↔ _
  by_cases hp : p
  · rw [if_pos hp, hr]
    simp only [hp, true_and]
  · rw [if_neg hp]
    exact iff_of_false nofun fun ⟨_, ⟨h, _⟩, _⟩ => hp h

end

/-! ### The parts of a head -/

/-- The bytes of a text are taken. -/
theorem takes_expect (xs : List UInt8) : Takes (expect xs) (fun w _ => w = xs) := by
  intro bs u rest
  simp only [exists_eq_left]
  induction xs generalizing bs with
  | nil =>
    constructor
    · intro h
      cases h
      rfl
    · rintro rfl
      rfl
  | cons x xs ih =>
    cases bs with
    | nil => exact iff_of_false nofun nofun
    | cons b bs =>
      unfold expect
      by_cases hb : b = x
      · rw [if_pos hb, ih, hb, List.cons_append, List.cons.injEq, eq_self, true_and]
      · rw [if_neg hb]
        exact iff_of_false nofun fun h => hb (List.cons.inj h).1

/-- The end of a line is taken. -/
theorem takes_lineEnd : Takes lineEnd (fun w _ => LineEnd w) := by
  intro bs u rest
  constructor
  · intro h
    unfold lineEnd at h
    split at h
    · cases h
    · obtain ⟨w, rfl, rfl⟩ := (takes_expect [10]).mp h
      exact ⟨_, .pair, rfl⟩
    · cases h
      exact ⟨_, .feed, rfl⟩
    · cases h
  · rintro ⟨w, hw, rfl⟩
    cases hw <;> rfl

/-- Digits are taken. -/
theorem takes_digits (k n : Nat) : Takes (digits k n) (Counts k n) := by
  intro bs m rest
  induction k generalizing n bs with
  | zero =>
    constructor
    · intro h
      cases h
      exact ⟨[], ⟨rfl, nofun, rfl⟩, rfl⟩
    · rintro ⟨w, ⟨hlength, -, hvalue⟩, rfl⟩
      obtain rfl := List.eq_nil_of_length_eq_zero hlength
      rw [hvalue]
      rfl
  | succ k ih =>
    constructor
    · intro h
      cases bs with
      | nil => cases h
      | cons b bs =>
        unfold digits at h
        split at h
        · next hb =>
          obtain ⟨w, ⟨hlength, hdigits, hvalue⟩, rfl⟩ := (ih _).mp h
          exact ⟨b :: w, ⟨congrArg (· + 1) hlength, List.forall_mem_cons.mpr ⟨hb, hdigits⟩, hvalue⟩,
            rfl⟩
        · cases h
    · rintro ⟨w, ⟨hlength, hdigits, hvalue⟩, rfl⟩
      obtain ⟨b, w, rfl⟩ := List.exists_cons_of_length_eq_add_one hlength
      rw [List.forall_mem_cons] at hdigits
      rw [List.cons_append, digits, if_pos hdigits.1]
      exact (ih _).mpr ⟨w, ⟨Nat.succ.inj hlength, hdigits.2, hvalue⟩, rfl⟩

/-- A byte that ends a line is none of a value. -/
theorem isValue_ne {b : UInt8} (hb : isValue b = true) : ¬(b = 13 ∨ b = 10) := by
  rintro (rfl | rfl) <;> exact absurd hb (by decide)

/-- At the end of its line a value ends. -/
theorem value_of_lineEnd {e : List UInt8} (he : LineEnd e) (rest : List UInt8) :
    value (e ++ rest) = .done [] rest := by
  cases he <;> rfl

/-- A value and the end of its line are taken. -/
theorem takes_value : Takes value ValueLine := by
  intro bs v rest
  constructor
  · intro h
    induction bs generalizing v with
    | nil => cases h
    | cons b bs ih =>
      unfold value at h
      split at h
      · obtain ⟨u, more, hend, h⟩ := Read.exists_of_andThen h
        obtain ⟨e, he, heq⟩ := takes_lineEnd.mp hend
        cases h
        exact ⟨[] ++ e, .mk nofun he, heq⟩
      · split at h
        · next hb =>
          obtain ⟨v', more, hmore, h⟩ := Read.exists_of_andThen h
          cases h
          obtain ⟨_, ⟨hv, he⟩, rfl⟩ := ih hmore
          exact ⟨_, .mk (List.forall_mem_cons.mpr ⟨hb, hv⟩) he, rfl⟩
        · cases h
  · rintro ⟨_, ⟨hv, he⟩, rfl⟩
    induction v with
    | nil => exact value_of_lineEnd he rest
    | cons b v ih =>
      rw [List.forall_mem_cons] at hv
      rw [List.cons_append, List.cons_append, value, if_neg (isValue_ne hv.1), if_pos hv.1,
        ih hv.2]
      rfl

/-- A name and its colon are taken. -/
theorem takes_name :
    Takes name fun w n => ∃ raw, (∀ b ∈ raw, isToken b = true) ∧ w = raw ++ [58]
      ∧ n = raw.map lower := by
  intro bs n rest
  constructor
  · intro h
    induction bs generalizing n with
    | nil => cases h
    | cons b bs ih =>
      unfold name at h
      split at h
      · next hb =>
        cases h
        exact ⟨[58], ⟨[], nofun, rfl, rfl⟩, by rw [hb]; rfl⟩
      · split at h
        · next hb =>
          obtain ⟨n', more, hmore, h⟩ := Read.exists_of_andThen h
          cases h
          obtain ⟨_, ⟨raw, hraw, rfl, rfl⟩, rfl⟩ := ih hmore
          exact ⟨_, ⟨b :: raw, List.forall_mem_cons.mpr ⟨hb, hraw⟩, rfl, rfl⟩, rfl⟩
        · cases h
  · rintro ⟨_, ⟨raw, hraw, rfl, rfl⟩, rfl⟩
    induction raw with
    | nil => rfl
    | cons b raw ih =>
      rw [List.forall_mem_cons] at hraw
      have hcolon : b ≠ 58 := by
        rintro rfl
        exact absurd hraw.1 (by decide)
      rw [List.cons_append, List.cons_append, name, if_neg hcolon, if_pos hraw.1, ih hraw.2]
      rfl

/-- What is left when blanks are dropped in front begins with none. -/
theorem isGap_of_head?_dropWhile {bs : List UInt8} {b : UInt8}
    (h : b ∈ (bs.dropWhile isGap).head?) : isGap b = false := by
  have hstop := List.head?_dropWhile_not isGap bs
  rw [h] at hstop
  exact hstop

/-- Bytes that do not begin with a blank keep their beginning. -/
theorem dropWhile_isGap_append {v after : List UInt8} (h : ∀ b ∈ v.head?, isGap b = false)
    (ha : ∀ b ∈ after, isGap b = true) :
    (v ++ after).dropWhile isGap = if v = [] then [] else v ++ after := by
  cases v with
  | nil => exact List.dropWhile_eq_nil_iff.mpr ha
  | cons b v => exact List.dropWhile_cons_of_neg (by rw [h b rfl]; exact Bool.false_ne_true)

/-- Bytes are blanks in front, what is left without those around them, and blanks behind. -/
theorem padded_trimmed (bs : List UInt8) : Padded bs (trimmed bs) := by
  -- What is dropped in front and behind is put back.
  have hbehind : bs.dropWhile isGap
      = trimmed bs ++ ((bs.dropWhile isGap).reverse.takeWhile isGap).reverse := by
    rw [trimmed, ← List.reverse_append, List.takeWhile_append_dropWhile, List.reverse_reverse]
  have hbs : bs = bs.takeWhile isGap
      ++ (trimmed bs ++ ((bs.dropWhile isGap).reverse.takeWhile isGap).reverse) := by
    rw [← hbehind, List.takeWhile_append_dropWhile]
  have hhead : ∀ b ∈ (trimmed bs).head?, isGap b = false := by
    intro b hb
    refine @isGap_of_head?_dropWhile bs b ?_
    rw [hbehind, List.head?_append, hb]
    rfl
  have hlast : ∀ b ∈ (trimmed bs).getLast?, isGap b = false := by
    intro b hb
    rw [trimmed, List.getLast?_reverse] at hb
    exact isGap_of_head?_dropWhile hb
  have hbefore : ∀ b ∈ bs.takeWhile isGap, isGap b = true := fun b hb =>
    List.mem_takeWhile_imp hb
  have hafter : ∀ b ∈ ((bs.dropWhile isGap).reverse.takeWhile isGap).reverse, isGap b = true :=
    fun b hb => List.mem_takeWhile_imp (List.mem_reverse.mp hb)
  have hpadded := Padded.mk hbefore hafter hhead hlast
  rwa [← hbs] at hpadded

/-- Without the blanks around it, a value is what they pad. -/
theorem trimmed_eq_iff {bs v : List UInt8} : trimmed bs = v ↔ Padded bs v := by
  constructor
  · rintro rfl
    exact padded_trimmed bs
  · rintro ⟨hb, ha, hhead, hlast⟩
    rw [trimmed, List.dropWhile_append_of_pos hb, dropWhile_isGap_append hhead ha]
    split
    · next hv => exact hv.symm
    · -- From the other end, the value begins with its last byte.
      have hreverse : ∀ b ∈ v.reverse.head?, isGap b = false := by rwa [List.head?_reverse]
      have hstop := @dropWhile_isGap_append v.reverse [] hreverse nofun
      rw [List.append_nil, if_neg (by simpa using ‹¬v = []›)] at hstop
      rw [List.reverse_append, List.dropWhile_append_of_pos
        (fun b hb => ha b (List.mem_reverse.mp hb)), hstop, List.reverse_reverse]

/-- At the empty line the headers end. -/
theorem headerLines_of_lineEnd (limit : Nat) {e : List UInt8} (he : LineEnd e)
    (rest : List UInt8) : headerLines limit (e ++ rest) = .done [] rest := by
  cases he <;> cases limit <;> rfl

/-- A header is read, and the others behind it. -/
theorem headerLines_succ (limit : Nat) {b : UInt8} (hb : ¬(b = 13 ∨ b = 10)) (bs : List UInt8) :
    headerLines (limit + 1) (b :: bs)
      = (name (b :: bs)).andThen fun n rest =>
        if ¬n.isEmpty = true then (value rest).andThen fun v rest =>
          (headerLines limit rest).andThen fun hs rest => .done (⟨n, trimmed v⟩ :: hs) rest
        else .bad := by
  rw [headerLines, if_neg hb]
  simp only [ite_not]

/-- Headers, and the empty line behind them, are taken. -/
theorem takes_headerLines (limit : Nat) :
    Takes (headerLines limit) fun w hs => HeaderLines w hs ∧ hs.length ≤ limit := by
  -- On the limit; a header is a name and a value, and the others are behind it.
  induction limit with
  | zero =>
    intro bs hs rest
    constructor
    · intro h
      cases bs with
      | nil => cases h
      | cons b bs =>
        unfold headerLines at h
        split at h
        · obtain ⟨u, more, hend, h⟩ := Read.exists_of_andThen h
          obtain ⟨e, he, heq⟩ := takes_lineEnd.mp hend
          cases h
          exact ⟨e, ⟨.ended he, Nat.le_refl 0⟩, heq⟩
        · cases h
    · rintro ⟨w, ⟨hw, hlength⟩, rfl⟩
      cases hw with
      | ended he => exact headerLines_of_lineEnd 0 he rest
      | more => exact absurd hlength (Nat.not_succ_le_zero _)
  | succ limit ih =>
    -- What a header and the others behind it take, by the readers of its parts.
    have htakes := takes_name.andThen fun n => takes_guard (¬n.isEmpty = true) <|
      takes_value.andThen fun v => ih.andThen fun hs => takes_done (⟨n, trimmed v⟩ :: hs)
    intro bs hs rest
    constructor
    · intro h
      cases bs with
      | nil => cases h
      | cons b bs =>
        by_cases hb : b = 13 ∨ b = 10
        · unfold headerLines at h
          rw [if_pos hb] at h
          obtain ⟨u, more, hend, h⟩ := Read.exists_of_andThen h
          obtain ⟨e, he, heq⟩ := takes_lineEnd.mp hend
          cases h
          exact ⟨e, ⟨.ended he, Nat.zero_le _⟩, heq⟩
        · rw [headerLines_succ limit hb] at h
          obtain ⟨w, hw, heq⟩ := htakes.mp h
          obtain ⟨⟨raw, hraw, rfl, rfl⟩, hne, hvalue, ⟨hheaders, hlength⟩, rfl, rfl⟩ := hw
          have hraw' : raw ≠ [] := by
            rintro rfl
            exact hne rfl
          refine ⟨_, ⟨.more (.mk hraw' hraw hvalue (padded_trimmed _)) hheaders,
            Nat.succ_le_succ hlength⟩, ?_⟩
          simp [heq]
    · rintro ⟨w, ⟨hw, hlength⟩, rfl⟩
      cases hw with
      | ended he => exact headerLines_of_lineEnd _ he rest
      | more hl hm =>
        cases hl with
        | @mk n line v padded hne hn hline hv =>
          obtain ⟨b, n, rfl⟩ := List.exists_cons_of_ne_nil hne
          have hb : ¬(b = 13 ∨ b = 10) := by
            rintro (rfl | rfl) <;> exact absurd (hn _ List.mem_cons_self) (by decide)
          rw [← trimmed_eq_iff.mpr hv]
          refine (headerLines_succ limit hb _).trans (htakes.mpr ⟨_, .mk ⟨_, hn, rfl, rfl⟩
            ⟨nofun, .mk hline (.mk ⟨hm, Nat.le_of_succ_le_succ hlength⟩ ⟨rfl, rfl⟩)⟩, ?_⟩)
          simp

/-- The words behind a status are taken. -/
theorem takes_reason : Takes Head.reason (fun w _ => Reason w) := by
  intro bs u rest
  constructor
  · intro h
    unfold Head.reason at h
    split at h
    · cases h
    · obtain ⟨v, more, hvalue, h⟩ := Read.exists_of_andThen h
      cases h
      obtain ⟨w, hw, rfl⟩ := takes_value.mp hvalue
      exact ⟨32 :: w, .words hw, rfl⟩
    · obtain ⟨e, he, rfl⟩ := takes_lineEnd.mp h
      exact ⟨e, .nothing he, rfl⟩
  · rintro ⟨w, hw, rfl⟩
    cases hw with
    | nothing he => cases he <;> rfl
    | @words line w hl =>
      show (value (line ++ rest)).andThen _ = _
      rw [takes_value.mpr ⟨line, hl, rfl⟩]
      rfl

/-- A version is taken. -/
theorem takes_version :
    Takes Head.version (fun w isOld => w = bytesOf "HTTP/1." ++ [versionByte isOld]) := by
  intro bs isOld rest
  constructor
  · intro h
    obtain ⟨u, more, hexpect, hmore⟩ := Read.exists_of_andThen h
    obtain ⟨w, rfl, rfl⟩ := (takes_expect _).mp hexpect
    split at hmore
    · cases hmore
    · cases hmore
      exact ⟨_, rfl, by rw [List.append_assoc]; rfl⟩
    · cases hmore
      exact ⟨_, rfl, by rw [List.append_assoc]; rfl⟩
    · cases hmore
  · rintro ⟨w, rfl, rfl⟩
    have hexpect : expect (bytesOf "HTTP/1.") (bytesOf "HTTP/1." ++ [versionByte isOld] ++ rest)
        = .done () ([versionByte isOld] ++ rest) :=
      (takes_expect _).mpr ⟨_, rfl, List.append_assoc ..⟩
    show (expect _ _).andThen _ = _
    rw [hexpect]
    cases isOld <;> rfl

/-! ### Empty lines -/

/-- What is left out in front of a head are empty lines. -/
theorem emptyLines_sound {bs rest : List UInt8} (h : emptyLines bs = .done () rest) :
    ∃ w, EmptyLines w ∧ bs = w ++ rest := by
  fun_induction emptyLines bs with
  | case1 bs ih =>
    obtain ⟨w, hw, rfl⟩ := ih h
    exact ⟨[13, 10] ++ w, .more .pair hw, rfl⟩
  | case2 bs ih =>
    obtain ⟨w, hw, rfl⟩ := ih h
    exact ⟨[10] ++ w, .more .feed hw, rfl⟩
  | case3 => cases h
  | case4 => cases h
  | case5 bs =>
    cases h
    exact ⟨[], .none, rfl⟩

/-- All empty lines are left out in front of a head. -/
theorem emptyLines_complete {w : List UInt8} (hw : EmptyLines w) (rest : List UInt8) :
    emptyLines (w ++ (72 :: rest)) = .done () (72 :: rest) := by
  induction hw with
  | none => rfl
  | more he hw ih =>
    rw [List.append_assoc]
    cases he <;> exact ih

/-! ### Heads -/

/-- What stands behind the version of a head, and what it comes to. -/
theorem takes_behindVersion (isOld : Bool) :
    Takes (fun bs => (expect [32] bs).andThen fun _ rest => (digits 3 0 rest).andThen
        fun status rest => (Head.reason rest).andThen fun _ rest =>
          (headerLines Head.headerLimit rest).andThen fun hs rest =>
            if Head.leastStatus ≤ status then .done (⟨isOld, status, hs⟩ : Head) rest else .bad)
      fun w head => head.isOld = isOld ∧ ∃ status reason headers, Counts 3 0 status head.status
        ∧ 100 ≤ head.status ∧ Reason reason ∧ HeaderLines headers head.headers
        ∧ head.headers.length ≤ 100 ∧ w = 32 :: (status ++ (reason ++ headers)) := by
  -- The readers in their order; what is left to show is that the two forms say the same.
  refine ((takes_expect [32]).andThen fun _ => (takes_digits 3 0).andThen fun status =>
    takes_reason.andThen fun _ => (takes_headerLines Head.headerLimit).andThen fun hs =>
      takes_guard (Head.leastStatus ≤ status)
        (takes_done (⟨isOld, status, hs⟩ : Head))).congr fun w head => ?_
  constructor
  · rintro ⟨rfl, hcounts, hreason, ⟨hheaders, hmax⟩, hmin, rfl, rfl⟩
    refine ⟨rfl, _, _, _, hcounts, hmin, hreason, hheaders, hmax, ?_⟩
    simp
  · rintro ⟨rfl, status, reason, headers, hcounts, hmin, hreason, hheaders, hmax, rfl⟩
    have hlast : headers = headers ++ [] := (List.append_nil headers).symm
    rw [hlast]
    exact .mk (w := [32]) (a := ()) rfl
      (.mk hcounts (.mk (a := ()) hreason (.mk ⟨hheaders, hmax⟩ ⟨hmin, rfl, rfl⟩)))

/-- **What is read as a head of any size is one.** -/
theorem Head.lines_eq_done_iff {bs rest : List UInt8} {head : Head} :
    Head.lines bs = .done head rest ↔ ∃ w, IsHead w head ∧ bs = w ++ rest := by
  have htakes := takes_version.andThen takes_behindVersion
  constructor
  · intro h
    obtain ⟨u, more, hempty, hmore⟩ := Read.exists_of_andThen h
    obtain ⟨empty, he, rfl⟩ := emptyLines_sound hempty
    obtain ⟨w, hw, rfl⟩ := htakes.mp hmore
    obtain ⟨rfl, rfl, status, reason, headers, hcounts, hmin, hreason, hheaders, hmax, rfl⟩ := hw
    refine ⟨_, .mk he hcounts hmin hreason hheaders hmax, ?_⟩
    simp
  · rintro ⟨_, ⟨he, hcounts, hmin, hreason, hheaders, hmax⟩, rfl⟩
    -- A version begins with a letter, so all empty lines are left out before it.
    have hletter : bytesOf "HTTP/1." = 72 :: [84, 84, 80, 47, 49, 46] := by decide
    rw [List.append_assoc]
    show (emptyLines _).andThen _ = _
    rw [hletter, List.cons_append, List.cons_append, emptyLines_complete he]
    refine htakes.mpr ⟨_, .mk (a := head.isOld) rfl
      ⟨rfl, _, _, _, hcounts, hmin, hreason, hheaders, hmax, rfl⟩, ?_⟩
    rw [hletter]
    simp

/-- **What is read as a head is one that is not too long.** -/
theorem Head.read_eq_done_iff {bs rest : List UInt8} {head : Head} :
    Head.read bs = .done head rest
      ↔ ∃ w, IsHead w head ∧ w.length ≤ Head.sizeLimit ∧ bs = w ++ rest := by
  unfold Head.read
  constructor
  · intro h
    split at h
    · next hl =>
      split at h
      · next hle =>
        cases h
        obtain ⟨w, hw, rfl⟩ := Head.lines_eq_done_iff.mp hl
        rw [List.length_append, Nat.add_sub_cancel] at hle
        exact ⟨w, hw, hle, rfl⟩
      · cases h
    · split at h <;> cases h
    · cases h
  · rintro ⟨w, hw, hle, rfl⟩
    rw [Head.lines_eq_done_iff.mpr ⟨w, hw, rfl⟩]
    dsimp only
    rw [List.length_append, Nat.add_sub_cancel, if_pos hle]

/-- A head takes bytes. -/
theorem IsHead.length_pos {w : List UInt8} {head : Head} (h : IsHead w head) : 0 < w.length := by
  cases h
  simp only [List.length_append, List.length_cons]
  omega

end Postbox.Http
