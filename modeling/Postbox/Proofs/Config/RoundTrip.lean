import Postbox.Config
import Postbox.Proofs.Toml.Lines

namespace Postbox.Config

/-!
# Configurations as text and back

A configuration is written line by line, and each of its lines sets one of the five keys.  What is
not set has no line, and reading starts from a configuration that does not have it either.

* `writtenSettings` — the lines of a configuration.
* `withSettings` — what reading makes of keys and values; `withEntries_of_settings` ties it to the
  reading of a document.
* `Writable` — the timeout is not too great to be written.
* `ofText_lines` — what is written is read as the configuration that it was written from.
* `toText_faithful` — when a configuration is written, and that it comes back.
-/

/-! ### What is read of keys and values -/

/-- Takes over keys with their values in order, up to the first that does not fit. -/
def withSettings (c : Config) (settings : List (List Char × Toml.Node)) :
    Except (String × Expected) Config :=
  settings.foldlM (fun c s => c.withEntry (String.ofList s.1) s.2) c

/-- Where the keys and the values stand does not matter, as long as they fit. -/
theorem withEntries_of_settings {c c' : Config} {es : Toml.Entries}
    (h : c.withSettings es.settings = .ok c') : c.withEntries es = .ok c' := by
  induction es generalizing c with
  | nil =>
    cases h
    rfl
  | cons e es ih =>
    obtain ⟨key, span, node⟩ := e
    simp only [withSettings, Toml.Entries.settings, List.map_cons, List.foldlM_cons] at h
    rw [withEntries]
    cases he : c.withEntry (String.ofList key.name) node with
    | error fault =>
      rw [he] at h
      cases h
    | ok d =>
      rw [he] at h
      exact ih h

/-! ### The lines that are written -/

/-- The line that sets a key to a string. -/
def textSetting (key value : String) : Toml.Setting :=
  { key := key.toList, text := Toml.written value.toList, node := .string value.toList }

/-- The line that sets a key to a truth value. -/
def truthSetting (key : String) (value : Bool) : Toml.Setting :=
  { key := key.toList, text := (Text.boolean value).toList, node := .boolean value }

/-- The line that sets a key to a count. -/
def countSetting (key : String) (value : Nat) : Toml.Setting :=
  { key := key.toList, text := Text.Decimal.written value, node := .integer value }

/-- The lines of a configuration. -/
def writtenSettings (c : Config) : List Toml.Setting :=
  [textSetting "endpoint" c.endpoint]
    ++ (c.proxy.map (textSetting "proxy")).toList
    ++ [truthSetting "use_system_proxy" c.useSystemProxy]
    ++ (c.timeoutMs.map fun n => countSetting "timeout_ms" n.toNat).toList
    ++ [textSetting "user_agent" c.userAgent]

/-- The timeout, if there is one, is an integer of the format. -/
def Writable (c : Config) : Prop := ∀ n, c.timeoutMs = some n → n.toNat ≤ 9223372036854775807

/-- The lines that are written are those of the settings. -/
theorem lines_eq (c : Config) :
    (toText.lines c).toList = c.writtenSettings.flatMap Toml.Setting.line := by
  obtain ⟨endpoint, proxy, useSystemProxy, timeoutMs, userAgent⟩ := c
  cases proxy <;> cases timeoutMs <;>
    simp [toText.lines, writtenSettings, line, Toml.Setting.line, textSetting, truthSetting,
      countSetting]

/-- The lines are among those of the five keys. -/
theorem mem_writtenSettings {c : Config} {s : Toml.Setting} (h : s ∈ c.writtenSettings) :
    s = textSetting "endpoint" c.endpoint
      ∨ (∃ p, c.proxy = some p ∧ s = textSetting "proxy" p)
      ∨ s = truthSetting "use_system_proxy" c.useSystemProxy
      ∨ (∃ n, c.timeoutMs = some n ∧ s = countSetting "timeout_ms" n.toNat)
      ∨ s = textSetting "user_agent" c.userAgent := by
  simp only [writtenSettings, List.mem_append, List.mem_singleton, Option.mem_toList,
    Option.map_eq_some_iff] at h
  rcases h with (((h | ⟨p, hp, rfl⟩) | h) | ⟨n, hn, rfl⟩) | h
  · exact .inl h
  · exact .inr (.inl ⟨p, hp, rfl⟩)
  · exact .inr (.inr (.inl h))
  · exact .inr (.inr (.inr (.inl ⟨n, hn, rfl⟩)))
  · exact .inr (.inr (.inr (.inr h)))

/-- The key is written without quotes. -/
def IsPlainKey (key : String) : Prop :=
  key.toList ≠ [] ∧ ∀ c ∈ key.toList, Toml.Reader.isBare c = true

/-- A key of bare characters is a plain one. -/
theorem isPlainKey_of_all {key : String} (hne : key.toList.isEmpty = false)
    (h : key.toList.all Toml.Reader.isBare = true) : IsPlainKey key :=
  ⟨List.isEmpty_eq_false_iff.mp hne, List.all_eq_true.mp h⟩

theorem textSetting_reads {key : String} (h : IsPlainKey key) (value : String) :
    (textSetting key value).Reads :=
  ⟨h.1, h.2, Toml.readsAs_written value.toList⟩

theorem truthSetting_reads {key : String} (h : IsPlainKey key) (value : Bool) :
    (truthSetting key value).Reads :=
  ⟨h.1, h.2, Toml.readsAs_boolean value⟩

theorem countSetting_reads {key : String} (h : IsPlainKey key) {value : Nat}
    (hv : value ≤ 9223372036854775807) : (countSetting key value).Reads :=
  ⟨h.1, h.2, Toml.readsAs_numeral hv⟩

/-- **Each line is read as it is meant**, if the timeout is not too great. -/
theorem writtenSettings_reads {c : Config} (hc : c.Writable) :
    ∀ s ∈ c.writtenSettings, s.Reads := by
  intro s hs
  rcases mem_writtenSettings hs with rfl | ⟨p, -, rfl⟩ | rfl | ⟨n, hn, rfl⟩ | rfl
  · exact textSetting_reads (isPlainKey_of_all rfl rfl) _
  · exact textSetting_reads (isPlainKey_of_all rfl rfl) _
  · exact truthSetting_reads (isPlainKey_of_all rfl rfl) _
  · exact countSetting_reads (isPlainKey_of_all rfl rfl) (hc n hn)
  · exact textSetting_reads (isPlainKey_of_all rfl rfl) _

/-- No value is written with a carriage return. -/
theorem return_not_mem_text {c : Config} : ∀ s ∈ c.writtenSettings, '\r' ∉ s.text := by
  have hwritten (value : String) : '\r' ∉ Toml.written value.toList := by
    intro h
    rcases Toml.isPrintable_of_mem_written h with h | h <;> exact absurd h (by decide)
  intro s hs
  rcases mem_writtenSettings hs with rfl | ⟨p, -, rfl⟩ | rfl | ⟨n, -, rfl⟩ | rfl
  · exact hwritten _
  · exact hwritten _
  · show '\r' ∉ (Text.boolean c.useSystemProxy).toList
    cases c.useSystemProxy <;> decide
  · exact fun h => absurd ((Text.Decimal.digits_written n.toNat).isDigit _ h) (by decide)
  · exact hwritten _

/-- No key is set twice. -/
theorem nodup_writtenSettings (c : Config) : (c.writtenSettings.map Toml.Setting.key).Nodup := by
  obtain ⟨endpoint, proxy, useSystemProxy, timeoutMs, userAgent⟩ := c
  cases proxy <;> cases timeoutMs <;>
    simp [writtenSettings, textSetting, truthSetting, countSetting]

/-! ### Reading what is written -/

/-- The values of the lines, set over what holds when nothing is configured, make up the
    configuration again. -/
theorem withSettings_writtenSettings (c : Config) :
    Config.default.withSettings (c.writtenSettings.map fun s => (s.key, s.node)) = .ok c := by
  obtain ⟨endpoint, proxy, useSystemProxy, timeoutMs, userAgent⟩ := c
  cases proxy <;> cases timeoutMs <;>
    simp [withSettings, writtenSettings, textSetting, truthSetting, countSetting, withEntry, asText,
      asTruth, asCount, Config.default, Except.map, bind, Except.bind, pure, Except.pure]

/-- **The lines of a configuration are read as that configuration**, if its timeout is not too
    great. -/
theorem ofText_lines {c : Config} (hc : c.Writable) : ofText (toText.lines c) = .ok c := by
  obtain ⟨es, hread, hset⟩ :=
    Toml.read?_settings (writtenSettings_reads hc) (nodup_writtenSettings c) return_not_mem_text
  have hentries : Config.default.withEntries es = .ok c :=
    withEntries_of_settings (hset ▸ withSettings_writtenSettings c)
  rw [ofText, lines_eq, hread]
  simp only [ofDocument, hentries]

/-- A configuration whose timeout is not too great is written. -/
theorem toText_of_writable {c : Config} (hc : c.Writable) : c.toText = .ok (toText.lines c) := by
  unfold toText
  cases hn : c.timeoutMs with
  | none => rfl
  | some n => exact if_pos (hc n hn)

/-- One whose timeout is too great is not. -/
theorem toText_of_great {c : Config} {n : UInt64} (hn : c.timeoutMs = some n)
    (h : 9223372036854775807 < n.toNat) : c.toText = .error .timeoutTooGreat := by
  unfold toText
  rw [hn]
  exact if_neg (by omega)

/-- Only a time that is too great keeps a configuration from being written. -/
theorem writable_or_great (c : Config) :
    c.Writable ∨ ∃ n, c.timeoutMs = some n ∧ 9223372036854775807 < n.toNat := by
  by_cases hc : c.Writable
  · exact .inl hc
  · simp only [Writable, not_forall] at hc
    obtain ⟨n, hn, hlt⟩ := hc
    exact .inr ⟨n, hn, by omega⟩

/-- **Writing a configuration and reading it again.**  It fails to be written exactly if its timeout
    is beyond the integers of the format, and that is a fault of the configuration; what is written
    is read as the same configuration, with what is not set left unset. -/
theorem toText_faithful (c : Config) :
    ((∃ fault, c.toText = .error fault)
        ↔ ∃ n, c.timeoutMs = some n ∧ 9223372036854775807 < n.toNat)
      ∧ (∀ fault, c.toText = .error fault →
        fault.failure = .config ConfigFault.timeoutTooGreat.message)
      ∧ ∀ text, c.toText = .ok text → ofText text = .ok c := by
  -- Either the timeout fits and there is a text, or it does not and there is a fault.
  rcases writable_or_great c with hc | ⟨n, hn, hgreat⟩
  · have htext := toText_of_writable hc
    refine ⟨⟨?_, ?_⟩, ?_, ?_⟩
    · rintro ⟨fault, h⟩
      rw [htext] at h
      cases h
    · rintro ⟨n, hn, hgreat⟩
      have hle := hc n hn
      omega
    · intro fault h
      rw [htext] at h
      cases h
    · intro text h
      rw [htext] at h
      cases h
      exact ofText_lines hc
  · have hfault := toText_of_great hn hgreat
    refine ⟨⟨fun _ => ⟨n, hn, hgreat⟩, fun _ => ⟨_, hfault⟩⟩, ?_, ?_⟩
    · intro fault h
      rw [hfault] at h
      cases h
      rfl
    · intro text h
      rw [hfault] at h
      cases h

/-- Quotes, backslashes, line ends and control characters come back; a timeout of 64 bits is
    refused. -/
theorem toText_faithful_quotes :
    (∃ text,
        toText ⟨"\"\"\"'''\\\r\n\"\"", some "''\x00\x7f", false, some 9223372036854775807, "\n'\""⟩
            = .ok text
          ∧ ofText text
            = .ok ⟨"\"\"\"'''\\\r\n\"\"", some "''\x00\x7f", false, some 9223372036854775807,
                "\n'\""⟩)
      ∧ toText { Config.default with timeoutMs := some 9223372036854775808 }
        = .error .timeoutTooGreat
      ∧ ConfigFault.timeoutTooGreat.failure = .config ConfigFault.timeoutTooGreat.message :=
  ⟨⟨_, rfl, (toText_faithful _).2.2 _ rfl⟩, rfl,
    (toText_faithful { Config.default with timeoutMs := some 9223372036854775808 }).2.1 _ rfl⟩

end Postbox.Config
