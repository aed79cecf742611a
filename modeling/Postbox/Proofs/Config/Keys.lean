import Postbox.Config
import Postbox.Proofs.Toml.Top

namespace Postbox

/-!
# Configurations of documents

A configuration takes five keys from the top of a document.  Each of them has a type, and a document
is taken exactly if it sets none of them to something of another type; then the configuration has
what the document sets, and for the rest what holds when nothing is configured.  Nothing else in the
document counts.

* `Config.Key` — the five keys, with their names and what is expected of them.
* `Expected.Admits`, `Config.Fits` — a value of the expected type; keys that have no other values.
* `Config.scalarAt` — what a key of a configuration is set to.
* `Config.exists_withEntries_iff`, `Config.scalarAt_withEntries` — entries are taken if each of them
  fits, and go over a configuration key by key.
* `Config.Takes` — the configuration that the keys of a document make.
* `Config.ofText_keys` — which texts give a configuration, and which one.
-/

/-! ### The keys and their types -/

/-- The keys of a configuration. -/
inductive Config.Key where
  | endpoint
  | proxy
  | useSystemProxy
  | timeoutMs
  | userAgent
  deriving Repr, DecidableEq

/-- The name of a key in a document. -/
def Config.Key.name : Config.Key → String
  | endpoint => "endpoint"
  | proxy => "proxy"
  | useSystemProxy => "use_system_proxy"
  | timeoutMs => "timeout_ms"
  | userAgent => "user_agent"

/-- What a key must be set to. -/
def Config.Key.expected : Config.Key → Expected
  | endpoint | proxy | userAgent => .text
  | useSystemProxy => .truth
  | timeoutMs => .count

/-- The value is a string, a truth value, or an integer that is not negative, as expected. -/
inductive Expected.Admits : Expected → Option Toml.Scalar → Prop
  | text (cs : List Char) : Admits .text (some (.text cs))
  | truth (b : Bool) : Admits .truth (some (.truth b))
  | count (n : Nat) : Admits .count (some (.integer n))

/-- Of the keys of a configuration, those that are set have the expected types. -/
def Config.Fits (keys : Toml.TopKeys) : Prop :=
  ∀ (key : Config.Key) (value : Option Toml.Scalar), keys key.name = some value →
    key.expected.Admits value

namespace Toml.TopKeys

/-- The string that a key is set to. -/
def text? (keys : TopKeys) (name : String) : Option String :=
  match keys name with
  | some (some (.text cs)) => some (String.ofList cs)
  | _ => none

/-- The truth value that a key is set to. -/
def truth? (keys : TopKeys) (name : String) : Option Bool :=
  match keys name with
  | some (some (.truth b)) => some b
  | _ => none

/-- The count that a key is set to. -/
def count? (keys : TopKeys) (name : String) : Option Nat :=
  match keys name with
  | some (some (.integer (.ofNat n))) => some n
  | _ => none

end Toml.TopKeys

namespace Config

/-- The configuration that the keys of a document make: what they are set to, and for the others
    what holds when nothing is configured. -/
structure Takes (keys : Toml.TopKeys) (c : Config) : Prop where
  endpoint : c.endpoint = (keys.text? "endpoint").getD "http://localhost/feedback/report"
  proxy : c.proxy = keys.text? "proxy"
  useSystemProxy : c.useSystemProxy = (keys.truth? "use_system_proxy").getD true
  timeoutMs : c.timeoutMs.map UInt64.toNat = keys.count? "timeout_ms"
  userAgent : c.userAgent = (keys.text? "user_agent").getD "anonymous-feedback/0.1.0"

/-! ### One entry -/

/-- A text is read of a node that holds it. -/
theorem asText_ok_iff {node : Toml.Node} {s : String} :
    asText node = .ok s ↔ node.scalar? = some (.text s.toList) := by
  cases node with
  | string cs =>
    constructor
    · intro h
      cases h
      rw [String.toList_ofList]
      rfl
    · intro h
      cases h
      rw [asText, String.ofList_toList]
  | integer _ | float _ | boolean _ | datetime | array _ | inline _ | table _ _ | tables _ =>
    exact ⟨fun h => (by cases h), fun h => (by cases h)⟩

theorem asTruth_ok_iff {node : Toml.Node} {b : Bool} :
    asTruth node = .ok b ↔ node.scalar? = some (.truth b) := by
  cases node with
  | boolean _ => exact ⟨fun h => (by cases h; rfl), fun h => (by cases h; rfl)⟩
  | string _ | integer _ | float _ | datetime | array _ | inline _ | table _ _ | tables _ =>
    exact ⟨fun h => (by cases h), fun h => (by cases h)⟩

/-- A count that is read is the integer itself: one of 64 bits with a sign is not too great. -/
theorem asCount_ok_iff {node : Toml.Node} (hnode : node.InRange) {n : UInt64} :
    asCount node = .ok n ↔ node.scalar? = some (.integer n.toNat) := by
  cases node with
  | integer z =>
    cases z with
    | ofNat m =>
      have hm : (m : Int) ≤ 9223372036854775807 := hnode.2
      have hsize : m < 2 ^ 64 := by omega
      have hvalue : (UInt64.ofNat m).toNat = m := by
        rw [UInt64.toNat_ofNat', Nat.mod_eq_of_lt hsize]
      constructor
      · intro h
        cases h
        rw [hvalue]
        rfl
      · intro h
        have hmn : (m : Int) = n.toNat := Toml.Scalar.integer.inj (Option.some.inj h)
        have heq : m = n.toNat := Int.ofNat_inj.mp hmn
        show Except.ok (UInt64.ofNat m) = Except.ok n
        rw [heq, UInt64.ofNat_toNat]
    | negSucc m =>
      refine ⟨fun h => (by cases h), fun h => ?_⟩
      have hneg : Int.negSucc m = n.toNat := Toml.Scalar.integer.inj (Option.some.inj h)
      omega
  | string _ | float _ | boolean _ | datetime | array _ | inline _ | table _ _ | tables _ =>
    exact ⟨fun h => (by cases h), fun h => (by cases h)⟩

/-- A text is read exactly where a text is expected and found. -/
theorem exists_asText_iff {node : Toml.Node} :
    (∃ s, asText node = .ok s) ↔ Expected.text.Admits node.scalar? := by
  constructor
  · rintro ⟨s, hs⟩
    rw [asText_ok_iff.mp hs]
    exact .text _
  · intro h
    generalize hv : node.scalar? = v at h
    cases h with
    | text cs => exact ⟨String.ofList cs, asText_ok_iff.mpr (by rw [hv, String.toList_ofList])⟩

theorem exists_asTruth_iff {node : Toml.Node} :
    (∃ b, asTruth node = .ok b) ↔ Expected.truth.Admits node.scalar? := by
  constructor
  · rintro ⟨b, hb⟩
    rw [asTruth_ok_iff.mp hb]
    exact .truth b
  · intro h
    generalize hv : node.scalar? = v at h
    cases h with
    | truth b => exact ⟨b, asTruth_ok_iff.mpr hv⟩

theorem exists_asCount_iff {node : Toml.Node} (hnode : node.InRange) :
    (∃ n, asCount node = .ok n) ↔ Expected.count.Admits node.scalar? := by
  constructor
  · rintro ⟨n, hn⟩
    rw [(asCount_ok_iff hnode).mp hn]
    exact .count n.toNat
  · intro h
    generalize hv : node.scalar? = v at h
    cases h with
    | count m =>
      cases node with
      | integer z =>
        cases hv
        exact ⟨UInt64.ofNat m, rfl⟩
      | string _ | float _ | boolean _ | datetime | array _ | inline _ | table _ _ | tables _ =>
        cases hv

/-- What the keys of a configuration are set to. -/
def scalarAt (c : Config) : Key → Option Toml.Scalar
  | .endpoint => some (.text c.endpoint.toList)
  | .proxy => c.proxy.map fun s => .text s.toList
  | .useSystemProxy => some (.truth c.useSystemProxy)
  | .timeoutMs => c.timeoutMs.map fun n => .integer n.toNat
  | .userAgent => some (.text c.userAgent.toList)

theorem Key.name_inj {a b : Key} (h : a.name = b.name) : a = b := by
  cases a <;> cases b <;> first | rfl | exact absurd h (by decide)

/-- Under the name of a key, an entry is read as that key. -/
theorem withEntry_name (c : Config) (key : Key) (node : Toml.Node) :
    c.withEntry key.name node
      = match key with
        | .endpoint => (asText node).map fun s => { c with endpoint := s }
        | .proxy => (asText node).map fun s => { c with proxy := some s }
        | .useSystemProxy => (asTruth node).map fun b => { c with useSystemProxy := b }
        | .timeoutMs => (asCount node).map fun n => { c with timeoutMs := some n }
        | .userAgent => (asText node).map fun s => { c with userAgent := s } := by
  cases key <;> rfl

/-- Under any other name, an entry is ignored. -/
theorem withEntry_of_ne {c : Config} {name : String} (h : ∀ key : Key, key.name ≠ name)
    (node : Toml.Node) : c.withEntry name node = .ok c := by
  rw [withEntry.eq_def]
  split
  · exact absurd rfl (h .endpoint)
  · exact absurd rfl (h .proxy)
  · exact absurd rfl (h .useSystemProxy)
  · exact absurd rfl (h .timeoutMs)
  · exact absurd rfl (h .userAgent)
  · rfl

theorem map_ok_iff {ε α β : Type} {r : Except ε α} {f : α → β} {b : β} :
    r.map f = .ok b ↔ ∃ a, r = .ok a ∧ f a = b := by
  cases r with
  | error e => exact ⟨fun h => (by cases h), fun ⟨_, h, _⟩ => (by cases h)⟩
  | ok a =>
    constructor
    · intro h
      exact ⟨a, rfl, Except.ok.inj h⟩
    · rintro ⟨_, h, rfl⟩
      cases h
      rfl

theorem exists_map_ok_iff {ε α β : Type} {r : Except ε α} {f : α → β} :
    (∃ b, r.map f = .ok b) ↔ ∃ a, r = .ok a := by
  constructor
  · rintro ⟨b, h⟩
    obtain ⟨a, ha, -⟩ := map_ok_iff.mp h
    exact ⟨a, ha⟩
  · rintro ⟨a, rfl⟩
    exact ⟨f a, rfl⟩

/-- An entry is taken exactly if it has the type that is expected of its key. -/
theorem exists_withEntry_name_iff {node : Toml.Node} (hnode : node.InRange) (c : Config)
    (key : Key) :
    (∃ c', c.withEntry key.name node = .ok c') ↔ key.expected.Admits node.scalar? := by
  rw [withEntry_name]
  cases key with
  | endpoint | proxy | userAgent => exact exists_map_ok_iff.trans exists_asText_iff
  | useSystemProxy => exact exists_map_ok_iff.trans exists_asTruth_iff
  | timeoutMs => exact exists_map_ok_iff.trans (exists_asCount_iff hnode)

/-- An entry that is taken sets its key, and leaves the others as they are. -/
theorem scalarAt_withEntry_name {node : Toml.Node} (hnode : node.InRange) {c c' : Config}
    {key : Key} (h : c.withEntry key.name node = .ok c') (other : Key) :
    c'.scalarAt other = if other = key then node.scalar? else c.scalarAt other := by
  rw [withEntry_name] at h
  -- Each key reads its own kind, and writes its own field.
  cases key with
  | endpoint =>
    obtain ⟨s, hs, rfl⟩ := map_ok_iff.mp h
    rw [asText_ok_iff.mp hs]
    cases other <;> rfl
  | proxy =>
    obtain ⟨s, hs, rfl⟩ := map_ok_iff.mp h
    rw [asText_ok_iff.mp hs]
    cases other <;> rfl
  | useSystemProxy =>
    obtain ⟨b, hb, rfl⟩ := map_ok_iff.mp h
    rw [asTruth_ok_iff.mp hb]
    cases other <;> rfl
  | timeoutMs =>
    obtain ⟨n, hn, rfl⟩ := map_ok_iff.mp h
    rw [(asCount_ok_iff hnode).mp hn]
    cases other <;> rfl
  | userAgent =>
    obtain ⟨s, hs, rfl⟩ := map_ok_iff.mp h
    rw [asText_ok_iff.mp hs]
    cases other <;> rfl

/-- The name of an entry is that of a key, or of none. -/
theorem eq_name_or_ne (name : List Char) :
    (∃ key : Key, String.ofList name = key.name) ∨ ∀ key : Key, key.name ≠ String.ofList name := by
  by_cases h : ∃ key : Key, String.ofList name = key.name
  · exact .inl h
  · exact .inr fun key hkey => h ⟨key, hkey.symm⟩

theorem toList_name_eq_iff {key : Key} {name : List Char} :
    key.name.toList = name ↔ key.name = String.ofList name := by
  rw [← String.toList_inj, String.toList_ofList]

/-- **An entry is taken exactly if it fits its key**, if it has one. -/
theorem exists_withEntry_iff {node : Toml.Node} (hnode : node.InRange) (c : Config)
    (name : List Char) :
    (∃ c', c.withEntry (String.ofList name) node = .ok c')
      ↔ ∀ key : Key, key.name.toList = name → key.expected.Admits node.scalar? := by
  rcases eq_name_or_ne name with ⟨key, hkey⟩ | hne
  · rw [hkey, exists_withEntry_name_iff hnode]
    constructor
    · intro h other hother
      have heq : other = key := Key.name_inj ((toList_name_eq_iff.mp hother).trans hkey)
      rw [heq]
      exact h
    · intro h
      exact h key (toList_name_eq_iff.mpr hkey.symm)
  · refine ⟨fun _ key hkey => ?_, fun _ => ⟨c, withEntry_of_ne hne node⟩⟩
    exact absurd (toList_name_eq_iff.mp hkey) (hne key)

/-- An entry sets the key with its name to what it holds, and no other key. -/
theorem scalarAt_withEntry {node : Toml.Node} (hnode : node.InRange) {c c' : Config}
    {name : List Char} (h : c.withEntry (String.ofList name) node = .ok c') (key : Key) :
    c'.scalarAt key = if name = key.name.toList then node.scalar? else c.scalarAt key := by
  rcases eq_name_or_ne name with ⟨own, hown⟩ | hne
  · rw [hown] at h
    have hiff : name = key.name.toList ↔ key = own := by
      rw [eq_comm, toList_name_eq_iff, hown]
      exact ⟨Key.name_inj, fun heq => by rw [heq]⟩
    rw [scalarAt_withEntry_name hnode h]
    by_cases hkey : key = own
    · rw [if_pos hkey, if_pos (hiff.mpr hkey)]
    · rw [if_neg hkey, if_neg fun hname => hkey (hiff.mp hname)]
  · rw [withEntry_of_ne hne] at h
    have hother : name ≠ key.name.toList := fun heq => hne key (toList_name_eq_iff.mp heq.symm)
    rw [if_neg hother, Except.ok.inj h]

/-! ### All entries -/

/-- **Entries are taken exactly if each of them fits its key.** -/
theorem exists_withEntries_iff {es : Toml.Entries} (hes : es.InRange) (c : Config) :
    (∃ c', c.withEntries es = .ok c')
      ↔ ∀ e ∈ es, ∀ key : Key, key.name.toList = e.1.name → key.expected.Admits e.2.2.scalar? := by
  induction es generalizing c with
  | nil => exact ⟨fun _ _ he => absurd he List.not_mem_nil, fun _ => ⟨c, rfl⟩⟩
  | cons e es ih =>
    obtain ⟨name, span, node⟩ := e
    obtain ⟨hnode, hes⟩ := List.forall_mem_cons.mp hes
    rw [List.forall_mem_cons, ← exists_withEntry_iff hnode c, withEntries]
    constructor
    · rintro ⟨c', h⟩
      split at h
      · next d hd => exact ⟨⟨d, hd⟩, (ih hes d).mp ⟨c', h⟩⟩
      · cases h
    · rintro ⟨⟨d, hd⟩, hrest⟩
      rw [hd]
      exact (ih hes d).mpr hrest

/-- **Entries with different names set their keys**, and leave the others as they are. -/
theorem scalarAt_withEntries {es : Toml.Entries} (hes : es.InRange) (hnodup : es.names.Nodup)
    {c c' : Config} (h : c.withEntries es = .ok c') (key : Key) :
    c'.scalarAt key = (es.top key.name.toList).getD (c.scalarAt key) := by
  induction es generalizing c with
  | nil =>
    cases h
    rfl
  | cons e es ih =>
    obtain ⟨name, span, node⟩ := e
    obtain ⟨hnode, hes⟩ := List.forall_mem_cons.mp hes
    have hnew : name.name ∉ Toml.Entries.names es := (List.nodup_cons.mp hnodup).1
    have hnodup : (Toml.Entries.names es).Nodup := (List.nodup_cons.mp hnodup).2
    rw [withEntries] at h
    split at h
    · next d hd =>
      rw [ih hes hnodup h, scalarAt_withEntry hnode hd, Toml.Entries.top_cons]
      by_cases hname : name.name = key.name.toList
      · -- No later entry has this name.
        have hnone : Toml.Entries.top es key.name.toList = none := by
          rw [Toml.Entries.top_eq_none_iff, ← hname]
          exact hnew
        rw [if_pos hname, if_pos hname, hnone]
        rfl
      · rw [if_neg hname, if_neg hname]
    · cases h

/-! ### Texts -/

section

variable {keys : Toml.TopKeys} {name : String}

/-- Where only a text may stand, a text is all that is read there. -/
theorem text?_of_admits (h : ∀ value, keys name = some value → Expected.text.Admits value) :
    keys name = (keys.text? name).map fun s => some (.text s.toList) := by
  unfold Toml.TopKeys.text?
  cases hkey : keys name with
  | none => rfl
  | some value =>
    cases h value hkey with
    | text cs =>
      show some (some (Toml.Scalar.text cs)) = some (some (.text (String.ofList cs).toList))
      rw [String.toList_ofList]

theorem truth?_of_admits (h : ∀ value, keys name = some value → Expected.truth.Admits value) :
    keys name = (keys.truth? name).map fun b => some (.truth b) := by
  unfold Toml.TopKeys.truth?
  cases hkey : keys name with
  | none => rfl
  | some value =>
    cases h value hkey with
    | truth b => rfl

theorem count?_of_admits (h : ∀ value, keys name = some value → Expected.count.Admits value) :
    keys name = (keys.count? name).map fun n : Nat => some (.integer n) := by
  unfold Toml.TopKeys.count?
  cases hkey : keys name with
  | none => rfl
  | some value =>
    cases h value hkey with
    | count n => rfl

end

/-- A text over another one. -/
theorem eq_getD_of_scalar {s d : String} {set : Option String}
    (h : some (Toml.Scalar.text s.toList)
      = (set.map fun t => some (Toml.Scalar.text t.toList)).getD (some (.text d.toList))) :
    s = set.getD d := by
  cases set with
  | none => exact String.toList_inj.mp (Toml.Scalar.text.inj (Option.some.inj h))
  | some t => exact String.toList_inj.mp (Toml.Scalar.text.inj (Option.some.inj h))

/-- A configuration whose keys are set as in a document, over those that hold when nothing is
    configured, is the one that the document makes. -/
theorem takes_of_scalarAt {keys : Toml.TopKeys} {c : Config} (hfits : Fits keys)
    (h : ∀ key : Key, c.scalarAt key = (keys key.name).getD (Config.default.scalarAt key)) :
    Takes keys c := by
  -- The fields one by one; where a field may be missing, its scalars are compared.
  refine ⟨?_, ?_, ?_, ?_, ?_⟩
  · have hc := h .endpoint
    rw [text?_of_admits (hfits .endpoint)] at hc
    exact eq_getD_of_scalar hc
  · have hc := h .proxy
    rw [text?_of_admits (hfits .proxy)] at hc
    have hproxy : (c.proxy.map fun s => Toml.Scalar.text s.toList)
        = (keys.text? "proxy").map fun s => Toml.Scalar.text s.toList := by
      refine Eq.trans hc ?_
      show (Option.map _ (keys.text? "proxy")).getD none = _
      cases keys.text? "proxy" <;> rfl
    have hinj : Function.Injective fun s : String => Toml.Scalar.text s.toList :=
      fun _ _ h => String.toList_inj.mp (Toml.Scalar.text.inj h)
    exact Option.map_injective hinj hproxy
  · have hc := h .useSystemProxy
    rw [truth?_of_admits (hfits .useSystemProxy)] at hc
    show c.useSystemProxy = (keys.truth? Key.useSystemProxy.name).getD true
    cases hb : keys.truth? Key.useSystemProxy.name with
    | none =>
      rw [hb] at hc
      exact Toml.Scalar.truth.inj (Option.some.inj hc)
    | some b =>
      rw [hb] at hc
      exact Toml.Scalar.truth.inj (Option.some.inj hc)
  · have hc := h .timeoutMs
    rw [count?_of_admits (hfits .timeoutMs)] at hc
    have htimeout : (c.timeoutMs.map UInt64.toNat).map (fun n : Nat => Toml.Scalar.integer n)
        = (keys.count? "timeout_ms").map fun n : Nat => Toml.Scalar.integer n := by
      rw [Option.map_map]
      refine Eq.trans hc ?_
      show (Option.map _ (keys.count? "timeout_ms")).getD none = _
      cases keys.count? "timeout_ms" <;> rfl
    have hinj : Function.Injective fun n : Nat => Toml.Scalar.integer n :=
      fun _ _ h => Int.ofNat_inj.mp (Toml.Scalar.integer.inj h)
    exact Option.map_injective hinj htimeout
  · have hc := h .userAgent
    rw [text?_of_admits (hfits .userAgent)] at hc
    exact eq_getD_of_scalar hc

/-- Keys make one configuration at most. -/
theorem Takes.unique {keys : Toml.TopKeys} {c c' : Config} (h : Takes keys c)
    (h' : Takes keys c') : c = c' := by
  obtain ⟨endpoint, proxy, useSystemProxy, timeoutMs, userAgent⟩ := c
  obtain ⟨endpoint', proxy', useSystemProxy', timeoutMs', userAgent'⟩ := c'
  have htimeout : timeoutMs.map UInt64.toNat = timeoutMs'.map UInt64.toNat :=
    h.timeoutMs.trans h'.timeoutMs.symm
  have hinj : Function.Injective UInt64.toNat := fun _ _ => UInt64.toNat_inj.mp
  congr 1
  · exact h.endpoint.trans h'.endpoint.symm
  · exact h.proxy.trans h'.proxy.symm
  · exact h.useSystemProxy.trans h'.useSystemProxy.symm
  · exact Option.map_injective hinj htimeout
  · exact h.userAgent.trans h'.userAgent.symm

section

variable {text : String} {es : Toml.Entries} {c : Config}

/-- The keys at the top of a document fit exactly if its entries do. -/
theorem fits_iff (hread : Toml.read? text.toList = some es) :
    Fits (Toml.topKeys text.toList)
      ↔ ∀ e ∈ es, ∀ key : Key, key.name.toList = e.1.name → key.expected.Admits e.2.2.scalar? := by
  have htop (key : Key) (value : Option Toml.Scalar) :
      Toml.topKeys text.toList key.name = some value
        ↔ ∃ e ∈ es, e.1.name = key.name.toList ∧ e.2.2.scalar? = value := by
    rw [Toml.topKeys_of_read? hread]
    exact Toml.Entries.top_eq_some_iff (Toml.nodup_of_read? hread)
  constructor
  · intro h e he key hname
    exact h key _ ((htop key _).mpr ⟨e, he, hname.symm, rfl⟩)
  · intro h key value hvalue
    obtain ⟨e, he, hname, rfl⟩ := (htop key value).mp hvalue
    exact h e he key hname.symm

/-- A document is taken as its entries are. -/
theorem ofText_ok_iff (hread : Toml.read? text.toList = some es) :
    ofText text = .ok c ↔ Config.default.withEntries es = .ok c := by
  simp only [ofText, hread, ofDocument]
  cases Config.default.withEntries es with
  | ok d => exact ⟨fun h => (by cases h; rfl), fun h => (by cases h; rfl)⟩
  | error fault => exact ⟨fun h => (by cases h), fun h => (by cases h)⟩

/-- **A document gives a configuration exactly if its keys fit.** -/
theorem exists_ofText_iff (hread : Toml.read? text.toList = some es) :
    (∃ c, ofText text = .ok c) ↔ Fits (Toml.topKeys text.toList) := by
  rw [fits_iff hread, ← exists_withEntries_iff (Toml.inRange_of_read? hread) Config.default]
  exact exists_congr fun c => ofText_ok_iff hread

/-- **The configuration of a document is the one that its keys make.** -/
theorem takes_of_ofText (hread : Toml.read? text.toList = some es) (h : ofText text = .ok c) :
    Takes (Toml.topKeys text.toList) c := by
  refine takes_of_scalarAt ((exists_ofText_iff hread).mp ⟨c, h⟩) fun key => ?_
  rw [Toml.topKeys_of_read? hread]
  exact scalarAt_withEntries (Toml.inRange_of_read? hread) (Toml.nodup_of_read? hread)
    ((ofText_ok_iff hread).mp h) key

/-- A text that is no document gives none. -/
theorem ofText_of_not_read (h : Toml.read? text.toList = none) :
    ofText text = .error .notToml := by
  rw [ofText, h]

/-- Keys that agree where it counts fit alike and make the same. -/
theorem Fits.congr {keys keys' : Toml.TopKeys} (h : ∀ key : Key, keys key.name = keys' key.name)
    (hfits : Fits keys) : Fits keys' :=
  fun key value hvalue => hfits key value ((h key).trans hvalue)

/-- Only what stands at the keys of a configuration matters. -/
theorem Takes.congr {keys keys' : Toml.TopKeys} (h : ∀ key : Key, keys key.name = keys' key.name)
    (htakes : Takes keys c) : Takes keys' c := by
  have htext (key : Key) : keys.text? key.name = keys'.text? key.name := by
    rw [Toml.TopKeys.text?, Toml.TopKeys.text?, h key]
  have htruth (key : Key) : keys.truth? key.name = keys'.truth? key.name := by
    rw [Toml.TopKeys.truth?, Toml.TopKeys.truth?, h key]
  have hcount (key : Key) : keys.count? key.name = keys'.count? key.name := by
    rw [Toml.TopKeys.count?, Toml.TopKeys.count?, h key]
  refine ⟨?_, ?_, ?_, ?_, ?_⟩
  · exact htext .endpoint ▸ htakes.endpoint
  · exact htext .proxy ▸ htakes.proxy
  · exact htruth .useSystemProxy ▸ htakes.useSystemProxy
  · exact hcount .timeoutMs ▸ htakes.timeoutMs
  · exact htext .userAgent ▸ htakes.userAgent

end

/-- **A configuration depends on five keys of a document, and on their values alone.**  A document
    gives one exactly if each of the five that is set at its top has the type expected of it, and
    then it is made of these values and, for the rest, of what holds when nothing is configured.

    Two documents that agree on the five keys give the same configuration, or both none, whatever
    else they hold and however they are laid out.  A text that is no document gives none, and every
    such fault is one of the configuration. -/
theorem ofText_keys (text : String) :
    (∀ es, Toml.read? text.toList = some es →
      ((∃ c, ofText text = .ok c) ↔ Fits (Toml.topKeys text.toList))
      ∧ (∀ c, ofText text = .ok c → Takes (Toml.topKeys text.toList) c)
      ∧ ∀ (other : String) (es' : Toml.Entries), Toml.read? other.toList = some es' →
        (∀ key : Key, Toml.topKeys text.toList key.name = Toml.topKeys other.toList key.name) →
        (ofText text).toOption = (ofText other).toOption)
    ∧ (Toml.read? text.toList = none → ∃ fault, ofText text = .error fault)
    ∧ ∀ fault, ofText text = .error fault → ∃ message, fault.failure = .config message := by
  refine ⟨fun es hread => ⟨exists_ofText_iff hread, fun c hc => takes_of_ofText hread hc, ?_⟩,
    fun hnone => ⟨_, ofText_of_not_read hnone⟩, fun fault _ => ⟨fault.message, rfl⟩⟩
  intro other es' hread' hagree
  cases hc : ofText text with
  | ok c =>
    -- The keys of the other document fit as well, and what they make is the same.
    have hfits := ((exists_ofText_iff hread).mp ⟨c, hc⟩).congr hagree
    obtain ⟨c', hc'⟩ := (exists_ofText_iff hread').mpr hfits
    have heq : c = c' :=
      ((takes_of_ofText hread hc).congr hagree).unique (takes_of_ofText hread' hc')
    rw [hc', heq]
  | error fault =>
    cases hc' : ofText other with
    | error fault' => rfl
    | ok c' =>
      have hfits := ((exists_ofText_iff hread').mp ⟨c', hc'⟩).congr fun key => (hagree key).symm
      obtain ⟨c, hok⟩ := (exists_ofText_iff hread).mpr hfits
      rw [hc] at hok
      cases hok

end Config

end Postbox
