import Postbox.Layers
import Postbox.Proofs.Config.Keys
import Postbox.Proofs.Config.RoundTrip
import Postbox.Proofs.Text.Utf8
import Postbox.Proofs.Toml.Range

namespace Postbox

/-!
# Configurations of files and the environment

A configuration that is resolved without options of a submission can always be written, since its
timeout is an integer of a document or is not set.  When it is read again from what was written, the
environment finds nothing left to override.

* `Config.writable_of_ofFile`, `Config.writable_applyEnvironment` — a file and the environment lead
  to configurations that can be written.
* `Config.applyEnvironment_idem` — the environment overrides once and for all.
* `Layers.resolve_config` — what the command that prints the configuration resolves to.
* `Layers.resolve_printed` — a printed configuration resolves to itself.
-/

namespace Config

/-! ### What is read can be written -/

/-- The default configuration can be written. -/
theorem writable_default : Config.default.Writable := fun _ h => by cases h

/-- A count that is read of an integer in range is in range. -/
theorem toNat_le_of_asCount {node : Toml.Node} {n : UInt64} (hnode : node.InRange)
    (h : asCount node = .ok n) : n.toNat ≤ 9223372036854775807 := by
  rw [asCount.eq_def] at h
  split at h
  · next m =>
    cases h
    have hm : (Int.ofNat m) ≤ 9223372036854775807 := hnode.2
    have hle : m ≤ 9223372036854775807 := Int.ofNat_le.mp hm
    rw [UInt64.toNat_ofNat', Nat.mod_eq_of_lt (by omega)]
    exact hle
  · cases h
  · cases h

/-- An entry in range keeps a configuration writable: only a count becomes its timeout. -/
theorem writable_withEntry {c c' : Config} {name : String} {node : Toml.Node}
    (hnode : node.InRange) (hc : c.Writable) (h : c.withEntry name node = .ok c') :
    c'.Writable := by
  -- The fourth of the keys sets the timeout, the last case leaves everything as it is.
  rw [withEntry.eq_def] at h
  split at h
  case h_4 =>
    obtain ⟨n, hn, rfl⟩ := map_ok_iff.mp h
    intro m hm
    cases hm
    exact toNat_le_of_asCount hnode hn
  case h_6 =>
    cases h
    exact hc
  all_goals
    obtain ⟨value, -, rfl⟩ := map_ok_iff.mp h
    exact hc

/-- Entries whose integers are in range keep a configuration one that can be written. -/
theorem writable_withEntries {es : Toml.Entries} (hes : es.InRange) {c c' : Config}
    (hc : c.Writable) (h : c.withEntries es = .ok c') : c'.Writable := by
  induction es generalizing c with
  | nil =>
    cases h
    exact hc
  | cons e es ih =>
    obtain ⟨key, span, node⟩ := e
    obtain ⟨he, hes⟩ := List.forall_mem_cons.mp hes
    rw [withEntries] at h
    split at h
    · next hd => exact ih hes (writable_withEntry he hc hd) h
    · cases h

/-- **A configuration that is read can be written.** -/
theorem writable_of_ofText {text : String} {c : Config} (h : ofText text = .ok c) : c.Writable := by
  rw [ofText] at h
  split at h
  · cases h
  · next hread =>
    split at h
    · next hc =>
      cases h
      exact writable_withEntries (Toml.inRange_of_read? hread) writable_default hc
    · cases h

/-- What a file holds can be written again. -/
theorem writable_of_ofFile {files : Files} {path : String} {c : Config}
    (h : ofFile files path = .ok c) : c.Writable := by
  rw [ofFile] at h
  split at h
  · cases h
  · split at h
    · cases h
    · exact writable_of_ofText h

/-- The environment does not touch the timeout. -/
theorem writable_applyEnvironment {c : Config} (h : c.Writable) (env : Environment) :
    (c.applyEnvironment env).Writable := h

/-! ### Reading a printed configuration -/

/-- What the environment has overridden it overrides with the same. -/
theorem applyEnvironment_idem (c : Config) (env : Environment) :
    (c.applyEnvironment env).applyEnvironment env = c.applyEnvironment env := by
  unfold applyEnvironment
  cases setting? env endpointVariable <;> cases setting? env proxyVariable <;> rfl

/-- A file that holds a text is read as that text is. -/
theorem ofFile_of_encode {files : Files} {path text : String}
    (h : files path = .ok (Text.Utf8.encode text.toList)) : ofFile files path = ofText text := by
  rw [ofFile, h]
  simp only [Text.Utf8.decode?_encode, String.ofList_toList]

end Config

namespace Layers

variable {files : Config.Files} {env : Config.Environment} {line : CommandLine} {c : Config}
  {mode : Mode}

/-- The base of a command line can be written. -/
theorem writable_base {path : Option String} (h : base files path = .ok c) : c.Writable := by
  cases path with
  | none =>
    cases h
    exact Config.writable_default
  | some path => exact Config.writable_of_ofFile h

/-- The command that prints the configuration takes that of the file under the environment. -/
theorem resolve_config (hline : line.command = .config) :
    resolve files env line
      = (base files line.configPath).map fun c => (c.applyEnvironment env, .showConfig) := by
  rw [resolve, hline]
  cases base files line.configPath <;> rfl

/-- What that command resolves to is a configuration over which the environment was applied. -/
theorem exists_base_of_resolve (hline : line.command = .config)
    (h : resolve files env line = .ok (c, mode)) :
    ∃ b, base files line.configPath = .ok b ∧ c = b.applyEnvironment env ∧ mode = .showConfig := by
  rw [resolve_config hline] at h
  cases hb : base files line.configPath with
  | error fault =>
    rw [hb] at h
    cases h
  | ok b =>
    rw [hb] at h
    cases h
    exact ⟨b, rfl, rfl, rfl⟩

/-- **What that command resolves to can be written.** -/
theorem writable_of_resolve (hline : line.command = .config)
    (h : resolve files env line = .ok (c, mode)) : c.Writable := by
  obtain ⟨b, hb, rfl, -⟩ := exists_base_of_resolve hline h
  exact Config.writable_applyEnvironment (writable_base hb) env

/-- **A printed configuration resolves to itself** in the environment that it was resolved in. -/
theorem resolve_printed {files' : Config.Files} {line' : CommandLine} {path : String}
    (hline : line.command = .config) (h : resolve files env line = .ok (c, mode))
    (hline' : line'.command = .config) (hpath : line'.configPath = some path)
    (hfile : files' path = .ok (Text.Utf8.encode (Config.toText.lines c).toList)) :
    resolve files' env line' = .ok (c, .showConfig) := by
  have hread : base files' line'.configPath = .ok c := by
    rw [hpath, base, Config.ofFile_of_encode hfile]
    exact Config.ofText_lines (writable_of_resolve hline h)
  obtain ⟨b, -, rfl, -⟩ := exists_base_of_resolve hline h
  rw [resolve_config hline', hread, Except.map, Config.applyEnvironment_idem]

end Layers

end Postbox
